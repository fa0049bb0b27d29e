import Mathlib

/-! A register whose writes may fail. One that fails may have taken effect, or not, or have left the register
blank: it may be cleared before it is written. -/

namespace Library.Register

variable {α : Type*}

structure Write (α : Type*) where
  value : α
  done : Bool

/-- The register may have this value after some writes: that of a write after which all have failed, the
initial one if all of them have, or the blank one if the last of them has. -/
def Possible (blank init : α) (writes : List (Write α)) (a : α) : Prop :=
  (a = init ∧ ∀ w ∈ writes, w.done = false) ∨
    (∃ before w later, writes = before ++ w :: later ∧ a = w.value ∧ ∀ w' ∈ later, w'.done = false) ∨
      (a = blank ∧ ∃ w ∈ writes.getLast?, w.done = false)

variable {blank init a : α} {writes : List (Write α)}

theorem possible_nil (blank init : α) : Possible blank init [] init := .inl ⟨rfl, List.forall_mem_nil _⟩

theorem possible_written (blank init : α) (writes : List (Write α)) (w : Write α) :
    Possible blank init (writes ++ [w]) w.value :=
  .inr (.inl ⟨writes, w, [], rfl, rfl, List.forall_mem_nil _⟩)

theorem possible_blank (blank init : α) (writes : List (Write α)) {w : Write α} (hfailed : w.done = false) :
    Possible blank init (writes ++ [w]) blank :=
  .inr (.inr ⟨rfl, w, List.getLast?_concat, hfailed⟩)

theorem Possible.kept (h : Possible blank init writes a) {w : Write α} (hfailed : w.done = false) :
    Possible blank init (writes ++ [w]) a := by
  rcases h with ⟨ha, hwrites⟩ | ⟨before, w', later, rfl, ha, hlater⟩ | ⟨ha, -⟩
  · exact .inl ⟨ha, List.forall_mem_append.mpr ⟨hwrites, List.forall_mem_singleton.mpr hfailed⟩⟩
  · refine .inr (.inl ⟨before, w', later ++ [w], by rw [List.append_assoc, List.cons_append], ha, ?_⟩)
    exact List.forall_mem_append.mpr ⟨hlater, List.forall_mem_singleton.mpr hfailed⟩
  · rw [ha]
    exact possible_blank blank init writes hfailed

end Library.Register
