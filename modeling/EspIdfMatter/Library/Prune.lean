import EspIdfMatter.Library.Machine

/-! Runs with some of their inputs left out. Whether an input is hidden is decided in the state in which
it comes, so what is left of a run depends on the whole of it. -/

namespace Library.Machine

variable {σ ι ο : Type*}

/-- Leave out the inputs that are hidden when they come. -/
def prune (step : σ → ι → σ × List ο) (hidden : σ → ι → Bool) : σ → List ι → List ι
  | _, [] => []
  | s, i :: is =>
      if hidden s i = true then prune step hidden (step s i).1 is
      else i :: prune step hidden (step s i).1 is

section

variable {step : σ → ι → σ × List ο} {hidden : σ → ι → Bool}

theorem prune_cons_of_hidden {s : σ} {i : ι} (h : hidden s i = true) (is : List ι) :
    prune step hidden s (i :: is) = prune step hidden (step s i).1 is := if_pos h

theorem prune_cons_of_not_hidden {s : σ} {i : ι} (h : hidden s i = false) (is : List ι) :
    prune step hidden s (i :: is) = i :: prune step hidden (step s i).1 is :=
  if_neg (by rw [h]; exact Bool.false_ne_true)

/-- **Unwinding.** If a hidden input emits nothing and leaves the state related to what it was, and any
other input emits the same in related states and leaves them related, then nobody can tell that the hidden
inputs were left out. -/
theorem unwinding {R : σ → σ → Prop} {G : σ → ι → Prop}
    (hhidden : ∀ s t i, R s t → G s i → hidden s i = true → R (step s i).1 t ∧ (step s i).2 = [])
    (hvisible : ∀ s t i, R s t → G s i → hidden s i = false →
      R (step s i).1 (step t i).1 ∧ (step s i).2 = (step t i).2)
    {s t : σ} {is : List ι} (hR : R s t) (hG : Along step G s is) :
    R (after step s is) (after step t (prune step hidden s is)) ∧
      outputs step s is = outputs step t (prune step hidden s is) := by
  induction is generalizing s t with
  | nil => exact ⟨hR, rfl⟩
  | cons i is ih =>
      obtain ⟨hi, hrest⟩ := hG
      cases h : hidden s i with
      | true =>
          obtain ⟨hnext, hnone⟩ := hhidden s t i hR hi h
          rw [prune_cons_of_hidden h, outputs_cons, hnone, List.nil_append]
          exact ih hnext hrest
      | false =>
          obtain ⟨hnext, hsame⟩ := hvisible s t i hR hi h
          obtain ⟨hafter, houtputs⟩ := ih hnext hrest
          rw [prune_cons_of_not_hidden h, outputs_cons, outputs_cons, hsame, houtputs]
          exact ⟨hafter, rfl⟩

/-- Inputs that do nothing at all may be left out. -/
theorem unwinding_of_idle {G : σ → ι → Prop}
    (hidle : ∀ s i, G s i → hidden s i = true → step s i = (s, [])) {s : σ} {is : List ι}
    (hG : Along step G s is) :
    after step s is = after step s (prune step hidden s is) ∧
      outputs step s is = outputs step s (prune step hidden s is) := by
  refine unwinding (R := Eq) (fun s t i hst hi h => ?_) (fun s t i hst _ _ => ?_) rfl hG
  · rw [hidle s i hi h]
    exact ⟨hst, rfl⟩
  · rw [hst]
    exact ⟨rfl, rfl⟩

end

end Library.Machine
