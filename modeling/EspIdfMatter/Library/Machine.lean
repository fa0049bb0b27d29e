import Mathlib

/-! Machines that emit outputs while they take inputs: their runs, the induction that carries an
invariant along a run, and the simulation of one machine by another. An invariant here sees three
things: what was emitted so far, the state, and the inputs still to come. The last one carries the
assumptions on the rest of a run (a guard on each step, a budget not yet spent) through the
induction. -/

namespace Library.Machine

variable {σ τ ι ο ο' κ : Type*}

/-- The state in which a machine ends. -/
def after (step : σ → ι → σ × List ο) : σ → List ι → σ
  | s, [] => s
  | s, i :: is => after step (step s i).1 is

/-- What a machine emits, in order. -/
def outputs (step : σ → ι → σ × List ο) : σ → List ι → List ο
  | _, [] => []
  | s, i :: is => (step s i).2 ++ outputs step (step s i).1 is

section Runs

variable (step : σ → ι → σ × List ο)

@[simp] theorem after_nil (s : σ) : after step s [] = s := rfl

@[simp] theorem after_cons (s : σ) (i : ι) (is : List ι) :
    after step s (i :: is) = after step (step s i).1 is := rfl

@[simp] theorem outputs_nil (s : σ) : outputs step s [] = [] := rfl

@[simp] theorem outputs_cons (s : σ) (i : ι) (is : List ι) :
    outputs step s (i :: is) = (step s i).2 ++ outputs step (step s i).1 is := rfl

theorem after_append (s : σ) (is js : List ι) :
    after step s (is ++ js) = after step (after step s is) js := by
  induction is generalizing s with
  | nil => rfl
  | cons i is ih => exact ih _

theorem outputs_append (s : σ) (is js : List ι) :
    outputs step s (is ++ js) = outputs step s is ++ outputs step (after step s is) js := by
  induction is generalizing s with
  | nil => rfl
  | cons i is ih =>
      simp only [List.cons_append, outputs_cons, after_cons, ih, List.append_assoc]

end Runs

/-! ### Assumptions along a run -/

/-- Every step of the run is taken in a state that allows it. -/
def Along (step : σ → ι → σ × List ο) (G : σ → ι → Prop) : σ → List ι → Prop
  | _, [] => True
  | s, i :: is => G s i ∧ Along step G (step s i).1 is

/-- The sum of a cost over the steps of a run. -/
def total (step : σ → ι → σ × List ο) (cost : σ → ι → Nat) : σ → List ι → Nat
  | _, [] => 0
  | s, i :: is => cost s i + total step cost (step s i).1 is

section Assumptions

variable {step : σ → ι → σ × List ο}

@[simp] theorem along_nil {G : σ → ι → Prop} (s : σ) : Along step G s [] := trivial

@[simp] theorem along_cons {G : σ → ι → Prop} (s : σ) (i : ι) (is : List ι) :
    Along step G s (i :: is) ↔ G s i ∧ Along step G (step s i).1 is := Iff.rfl

theorem along_append {G : σ → ι → Prop} (s : σ) (is js : List ι) :
    Along step G s (is ++ js) ↔ Along step G s is ∧ Along step G (after step s is) js := by
  induction is generalizing s with
  | nil => simp
  | cons i is ih => simp only [List.cons_append, along_cons, after_cons, ih, and_assoc]

theorem Along.mono {G G' : σ → ι → Prop} (h : ∀ s i, G s i → G' s i) {s : σ} {is : List ι}
    (hrun : Along step G s is) : Along step G' s is := by
  induction is generalizing s with
  | nil => trivial
  | cons i is ih => exact ⟨h _ _ hrun.1, ih hrun.2⟩

theorem along_of_forall {P : ι → Prop} {s : σ} {is : List ι} (h : ∀ i ∈ is, P i) :
    Along step (fun _ i => P i) s is := by
  induction is generalizing s with
  | nil => trivial
  | cons i is ih =>
      obtain ⟨hi, hrest⟩ := List.forall_mem_cons.mp h
      exact ⟨hi, ih hrest⟩

theorem along_congr {G G' : σ → ι → Prop} {P : ι → Prop} (h : ∀ s i, P i → (G s i ↔ G' s i)) {s : σ}
    {is : List ι} (his : ∀ i ∈ is, P i) : Along step G s is ↔ Along step G' s is := by
  induction is generalizing s with
  | nil => exact Iff.rfl
  | cons i is ih =>
      obtain ⟨hi, his⟩ := List.forall_mem_cons.mp his
      exact and_congr (h s i hi) (ih his)

@[simp] theorem total_nil (cost : σ → ι → Nat) (s : σ) : total step cost s [] = 0 := rfl

@[simp] theorem total_cons (cost : σ → ι → Nat) (s : σ) (i : ι) (is : List ι) :
    total step cost s (i :: is) = cost s i + total step cost (step s i).1 is := rfl

/-- A cost of at most one a step is paid for by the length of the run. -/
theorem total_le_length {cost : σ → ι → Nat} (hcost : ∀ s i, cost s i ≤ 1) (s : σ) (is : List ι) :
    total step cost s is ≤ is.length := by
  induction is generalizing s with
  | nil => exact le_rfl
  | cons i is ih =>
      rw [total_cons, List.length_cons, Nat.add_comm]
      exact Nat.add_le_add (ih _) (hcost s i)

end Assumptions

/-! ### Induction along a run -/

section Induction

variable {step : σ → ι → σ × List ο}

/-- **The induction along a run.** A relation between the outputs so far, the state and the inputs
to come that one step keeps is kept by the whole run. -/
theorem run_induction (step : σ → ι → σ × List ο) {I : List ο → σ → List ι → Prop}
    (hstep : ∀ h s i is, I h s (i :: is) → I (h ++ (step s i).2) (step s i).1 is)
    {h : List ο} {s : σ} {t : List ι} (hI : I h s t) :
    I (h ++ outputs step s t) (after step s t) [] := by
  induction t generalizing h s with
  | nil => simpa using hI
  | cons i is ih =>
      rw [outputs_cons, after_cons, ← List.append_assoc]
      exact ih (hstep h s i is hI)

/-- An invariant of guarded steps holds after every guarded run. -/
theorem invariant_after {I : σ → Prop} {G : σ → ι → Prop}
    (hstep : ∀ s i, I s → G s i → I (step s i).1)
    {s : σ} {is : List ι} (hs : I s) (hrun : Along step G s is) : I (after step s is) := by
  refine (run_induction step (I := fun _ s is => I s ∧ Along step G s is) ?_
    (h := []) ⟨hs, hrun⟩).1
  rintro h s i is ⟨hi, hg, hrest⟩
  exact ⟨hstep s i hi hg, hrest⟩

end Induction

/-! ### Properties of every output, seen from what came before it -/

/-- Each output satisfies `P` after the outputs before it. -/
def Throughout (P : List ο → ο → Prop) (h : List ο) : Prop :=
  ∀ before e rest, h = before ++ e :: rest → P before e

theorem throughout_nil (P : List ο → ο → Prop) : Throughout P [] := by
  intro before e rest h
  simp at h

theorem throughout_concat {P : List ο → ο → Prop} {h : List ο} {e : ο} :
    Throughout P (h ++ [e]) ↔ Throughout P h ∧ P h e := by
  constructor
  · intro hall
    refine ⟨fun before e' rest heq => ?_, hall h e [] rfl⟩
    exact hall before e' (rest ++ [e]) (by simp [heq])
  · rintro ⟨hall, hlast⟩ before e' rest heq
    rcases List.eq_nil_or_concat rest with rfl | ⟨rest', last, rfl⟩
    · obtain ⟨hbefore, he⟩ := List.append_inj' heq rfl
      rw [← hbefore, ← List.singleton_inj.mp he]
      exact hlast
    · rw [List.concat_eq_append, ← List.cons_append, ← List.append_assoc] at heq
      obtain ⟨hbefore, -⟩ := List.append_inj' heq rfl
      exact hall before e' rest' hbefore

/-- Outputs that satisfy a property whichever of them come before may be emitted together. -/
theorem throughout_append {P : List ο → ο → Prop} {h es : List ο} (hall : Throughout P h)
    (hes : ∀ e ∈ es, ∀ later, later <+: es → P (h ++ later) e) : Throughout P (h ++ es) := by
  induction es using List.reverseRecOn with
  | nil => rwa [List.append_nil]
  | append_singleton es e ih =>
      rw [← List.append_assoc, throughout_concat]
      refine ⟨ih fun e' he' later hlater => ?_, hes e (by simp) es (List.prefix_append _ _)⟩
      exact hes e' (List.mem_append_left _ he') later (hlater.trans (List.prefix_append _ _))

/-! ### Simulation -/

/-- **Simulation.** Two machines that take the same inputs, stay related, and on related states
emit outputs that look alike through `p` and `q`, emit runs that look alike. -/
theorem outputs_eq_of_simulation {step : σ → ι → σ × List ο} {step' : τ → ι → τ × List ο'}
    {p : ο → Option κ} {q : ο' → Option κ} {R : σ → τ → List ι → Prop}
    (hstep : ∀ s t i is, R s t (i :: is) →
      (step s i).2.filterMap p = (step' t i).2.filterMap q ∧ R (step s i).1 (step' t i).1 is)
    {s : σ} {t : τ} {is : List ι} (hR : R s t is) :
    (outputs step s is).filterMap p = (outputs step' t is).filterMap q := by
  induction is generalizing s t with
  | nil => rfl
  | cons i is ih =>
      obtain ⟨hout, hnext⟩ := hstep s t i is hR
      rw [outputs_cons, outputs_cons, List.filterMap_append, List.filterMap_append, hout, ih hnext]

/-- **Refinement.** If every allowed step of a machine is a run of another one, as seen through `view` and
`see`, then so is every allowed run. -/
theorem exists_run_of_refinement (step : σ → ι → σ × List ο) (step' : τ → κ → τ × List ο')
    (view : σ → τ) (see : ο → Option ο') {I : σ → Prop} {G : σ → ι → Prop}
    (hstep : ∀ s i, I s → G s i → I (step s i).1 ∧ ∃ ks,
      view (step s i).1 = after step' (view s) ks ∧
        (step s i).2.filterMap see = outputs step' (view s) ks)
    {s : σ} {is : List ι} (hs : I s) (hrun : Along step G s is) :
    ∃ ks, view (after step s is) = after step' (view s) ks ∧
      (outputs step s is).filterMap see = outputs step' (view s) ks := by
  induction is generalizing s with
  | nil => exact ⟨[], rfl, rfl⟩
  | cons i is ih =>
      obtain ⟨hi, hrest⟩ := hrun
      obtain ⟨hnext, ks, hview, hsee⟩ := hstep s i hs hi
      obtain ⟨ks', hview', hsee'⟩ := ih hnext hrest
      refine ⟨ks ++ ks', ?_, ?_⟩
      · rw [after_cons, hview', hview, after_append]
      · rw [outputs_cons, List.filterMap_append, hsee, hsee', hview, outputs_append]

/-! ### Progress -/

/-- **Progress.** If a round of inputs keeps an invariant, and brings the machine to a goal, where it stays, or
closer to it, then more rounds than it is away from the goal bring it there. -/
theorem goal_of_rank {step : σ → ι → σ × List ο} {I G : σ → Prop} {r : σ → Nat} {round : List ι}
    (hinv : ∀ s, I s → I (after step s round)) (hgoal : ∀ s, I s → G s → G (after step s round))
    (hrank : ∀ s, I s → G (after step s round) ∨ r (after step s round) < r s) {s : σ} (hs : I s)
    {k : Nat} (hk : G s ∨ r s < k) : G (after step s (List.replicate k round).flatten) := by
  induction k generalizing s with
  | zero => exact hk.elim id fun hnone => absurd hnone (Nat.not_lt_zero _)
  | succ k ih =>
      rw [List.replicate_succ, List.flatten_cons, after_append]
      apply ih (hinv s hs)
      rcases hk with hthere | hnear
      · exact .inl (hgoal s hs hthere)
      · exact (hrank s hs).imp id fun hcloser => by omega

/-- Inputs each of which lowers a rank are no more than the rank. -/
theorem length_add_rank_le {step : σ → ι → σ × List ο} {I : σ → Prop} {G : σ → ι → Prop} {r : σ → Nat}
    (hstep : ∀ s i, I s → G s i → I (step s i).1 ∧ r (step s i).1 < r s) {s : σ} (hs : I s) {is : List ι}
    (hrun : Along step G s is) : is.length + r (after step s is) ≤ r s := by
  induction is generalizing s with
  | nil => exact (Nat.zero_add (r s)).le
  | cons i is ih =>
      obtain ⟨hnext, hlower⟩ := hstep s i hs hrun.1
      have hrest := ih hnext hrun.2
      rw [List.length_cons, after_cons]
      omega

end Library.Machine
