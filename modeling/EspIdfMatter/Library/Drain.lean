import Mathlib

/-! Loops that go on as long as an iteration reports that there was something to process. They are
drained with a bound on the number of iterations; a loop that never processes something twice in a row
needs two. -/

namespace Library

variable {σ τ ο ο' κ : Type*}

/-- Iterate up to the first iteration that had nothing to process, `n` times at most. -/
def drain (iterate : σ → (σ × List ο) × Bool) : Nat → σ → σ × List ο
  | 0, s => (s, [])
  | n + 1, s =>
      match iterate s with
      | (next, false) => next
      | (next, true) =>
          let rest := drain iterate n next.1
          (rest.1, next.2 ++ rest.2)

section Drain

variable {iterate : σ → (σ × List ο) × Bool}

theorem drain_of_idle {s : σ} (h : (iterate s).2 = false) (n : Nat) :
    drain iterate (n + 1) s = (iterate s).1 := by
  rcases hs : iterate s with ⟨next, b⟩
  rw [hs] at h
  obtain rfl : b = false := h
  simp [drain, hs]

theorem drain_of_processed {s : σ} (h : (iterate s).2 = true) (n : Nat) :
    drain iterate (n + 1) s =
      ((drain iterate n (iterate s).1.1).1,
        (iterate s).1.2 ++ (drain iterate n (iterate s).1.1).2) := by
  rcases hs : iterate s with ⟨next, b⟩
  rw [hs] at h
  obtain rfl : b = true := h
  simp [drain, hs]

/-- **Two iterations drain a loop that never processes something twice in a row.** -/
theorem drain_stable (honce : ∀ s, (iterate s).2 = true → (iterate (iterate s).1.1).2 = false)
    (n : Nat) (s : σ) : drain iterate (n + 2) s = drain iterate 2 s := by
  cases h : (iterate s).2 with
  | false => rw [drain_of_idle h, drain_of_idle h]
  | true =>
      rw [drain_of_processed h, drain_of_processed h, drain_of_idle (honce s h),
        drain_of_idle (honce s h)]

/-- What every iteration brings about holds after draining. -/
theorem drain_establishes {P Q : σ → Prop} (hP : ∀ s, P s → P (iterate s).1.1)
    (hQ : ∀ s, P s → Q (iterate s).1.1) (n : Nat) {s : σ} (hs : P s) :
    Q (drain iterate (n + 1) s).1 := by
  induction n generalizing s with
  | zero =>
      cases h : (iterate s).2 with
      | false =>
          rw [drain_of_idle h]
          exact hQ s hs
      | true =>
          rw [drain_of_processed h]
          exact hQ s hs
  | succ n ih =>
      cases h : (iterate s).2 with
      | false =>
          rw [drain_of_idle h]
          exact hQ s hs
      | true =>
          rw [drain_of_processed h]
          exact ih (hP s hs)

end Drain

/-- **Simulation of drained loops.** Two loops that stay related, process something at the same time
and emit what looks alike through `p` and `q`, do so when they are drained. -/
theorem drain_simulation {iterate : σ → (σ × List ο) × Bool} {iterate' : τ → (τ × List ο') × Bool}
    {p : ο → κ} {q : ο' → κ} {R : σ → τ → Prop}
    (hstep : ∀ s t, R s t → (iterate s).2 = (iterate' t).2 ∧
      (iterate s).1.2.map p = (iterate' t).1.2.map q ∧ R (iterate s).1.1 (iterate' t).1.1)
    (n : Nat) {s : σ} {t : τ} (h : R s t) :
    (drain iterate n s).2.map p = (drain iterate' n t).2.map q ∧
      R (drain iterate n s).1 (drain iterate' n t).1 := by
  induction n generalizing s t with
  | zero => exact ⟨rfl, h⟩
  | succ n ih =>
      obtain ⟨hb, hout, hnext⟩ := hstep s t h
      cases hs : (iterate s).2 with
      | false =>
          rw [drain_of_idle hs, drain_of_idle (hb.symm.trans hs)]
          exact ⟨hout, hnext⟩
      | true =>
          obtain ⟨hrest, hlast⟩ := ih hnext
          rw [drain_of_processed hs, drain_of_processed (hb.symm.trans hs), List.map_append,
            List.map_append, hout, hrest]
          exact ⟨rfl, hlast⟩

end Library
