import Mathlib

/-! Traces in which something was opened and not closed again afterwards. -/

namespace Library

variable {α : Type*}

/-- Something that opens is not followed by anything that closes. -/
def Pending (opens closes : α → Prop) (trace : List α) : Prop :=
  ∃ before a after, trace = before ++ a :: after ∧ opens a ∧ ∀ b ∈ after, ¬ closes b

section

variable {opens closes : α → Prop}

theorem not_pending_of_forall {trace : List α} (h : ∀ a ∈ trace, ¬ opens a) :
    ¬ Pending opens closes trace := by
  rintro ⟨before, a, after, rfl, ha, -⟩
  apply h a _ ha
  simp

theorem pending_append_iff {xs ys : List α} :
    Pending opens closes (xs ++ ys) ↔
      Pending opens closes ys ∨ Pending opens closes xs ∧ ∀ b ∈ ys, ¬ closes b := by
  constructor
  · rintro ⟨before, a, after, heq, ha, hafter⟩
    rcases List.append_eq_append_iff.mp heq with ⟨rest, rfl, rfl⟩ | ⟨rest, rfl, hrest⟩
    · exact .inl ⟨rest, a, after, rfl, ha, hafter⟩
    · cases rest with
      | nil =>
          rw [List.nil_append] at hrest
          exact .inl ⟨[], a, after, hrest.symm, ha, hafter⟩
      | cons a' rest =>
          rw [List.cons_append, List.cons.injEq] at hrest
          obtain ⟨rfl, rfl⟩ := hrest
          refine .inr ⟨⟨before, a, rest, rfl, ha, fun b hb => ?_⟩, fun b hb => ?_⟩
          · exact hafter b (List.mem_append_left _ hb)
          · exact hafter b (List.mem_append_right _ hb)
  · rintro (⟨before, a, after, rfl, ha, hafter⟩ | ⟨⟨before, a, after, rfl, ha, hafter⟩, hys⟩)
    · exact ⟨xs ++ before, a, after, (List.append_assoc _ _ _).symm, ha, hafter⟩
    · refine ⟨before, a, after ++ ys, by simp, ha, fun b hb => ?_⟩
      exact (List.mem_append.mp hb).elim (hafter b) (hys b)

/-- Something that closes leaves nothing open of what came before. -/
theorem not_pending_of_closes {xs ys : List α} {b : α} (hb : b ∈ ys) (hcloses : closes b)
    (hys : ¬ Pending opens closes ys) : ¬ Pending opens closes (xs ++ ys) := by
  rw [pending_append_iff]
  rintro (h | ⟨-, h⟩)
  · exact hys h
  · exact h b hb hcloses

/-- What was opened stays open as long as nothing closes. -/
theorem pending_of_opens {a : α} {xs ys : List α} (ha : opens a) (hys : ∀ b ∈ ys, ¬ closes b) :
    Pending opens closes (xs ++ a :: ys) :=
  ⟨xs, a, ys, rfl, ha, hys⟩

theorem pending_concat_iff {xs : List α} {a : α} :
    Pending opens closes (xs ++ [a]) ↔ opens a ∨ Pending opens closes xs ∧ ¬ closes a := by
  have hlast : Pending opens closes [a] ↔ opens a := by
    constructor
    · intro h
      by_contra hnot
      exact not_pending_of_forall (fun b hb => List.mem_singleton.mp hb ▸ hnot) h
    · exact fun h => ⟨[], a, [], rfl, h, List.forall_mem_nil _⟩
  rw [pending_append_iff, hlast, List.forall_mem_singleton]

end

/-! ### What is pending, in a slot -/

/-- The slot holds what was opened and not closed again. -/
def Slot {ι : Type*} (opens : ι → α → Prop) (closes : α → Prop) (trace : List α) (slot : Option ι) : Prop :=
  ∀ i, Pending (opens i) closes trace ↔ slot = some i

section

variable {ι : Type*} {opens : ι → α → Prop} {closes : α → Prop} {trace : List α} {slot : Option ι} {a : α}

theorem slot_nil : Slot opens closes [] none := by
  intro i
  apply iff_of_false
  · exact not_pending_of_forall (List.forall_mem_nil _)
  · exact (Option.some_ne_none i).symm

theorem Slot.keep (h : Slot opens closes trace slot) (hopens : ∀ i, ¬ opens i a) (hcloses : ¬ closes a) :
    Slot opens closes (trace ++ [a]) slot := by
  intro i
  rw [pending_concat_iff, ← h i]
  exact (or_iff_right (hopens i)).trans (and_iff_left hcloses)

theorem slot_clear (hopens : ∀ i, ¬ opens i a) (hcloses : closes a) :
    Slot opens closes (trace ++ [a]) none := by
  intro i
  rw [pending_concat_iff]
  apply iff_of_false
  · rintro (hopen | ⟨-, hclosed⟩)
    · exact hopens i hopen
    · exact hclosed hcloses
  · exact (Option.some_ne_none i).symm

theorem Slot.fill (h : Slot opens closes trace none) {i : ι} (hopens : ∀ j, opens j a ↔ j = i) :
    Slot opens closes (trace ++ [a]) (some i) := by
  intro j
  rw [pending_concat_iff, hopens j, Option.some_inj, h j]
  constructor
  · rintro (heq | ⟨hnone, -⟩)
    · exact heq.symm
    · cases hnone
  · exact fun heq => .inl heq.symm

end

end Library
