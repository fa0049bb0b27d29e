import Mathlib

/-! Handing items to a visitor that may fail, one after the other. -/

namespace Library.Visit

variable {σ α β ε : Type*}

/-- What a visitor does with an item, in its state. -/
abbrev Visitor (σ α ε : Type*) := σ → α → σ × Except ε Unit

/-- The loop that ends with the first error. -/
def visit (f : Visitor σ α ε) : List α → σ → σ × Except ε Unit
  | [], s => (s, .ok ())
  | a :: as, s =>
      match f s a with
      | (s, .error e) => (s, .error e)
      | (s, .ok ()) => visit f as s

/-- The callback that cannot end the loop it is called from: it skips the items after the first error. -/
def sticky (f : Visitor σ α ε) (r : σ × Except ε Unit) (a : α) : σ × Except ε Unit :=
  match r.2 with
  | .ok () => f r.1 a
  | .error _ => r

theorem foldl_sticky_error (f : Visitor σ α ε) (as : List α) (s : σ) (e : ε) :
    as.foldl (sticky f) (s, .error e) = (s, .error e) := by
  induction as with
  | nil => rfl
  | cons a as ih => exact ih

/-- **Both ways of ending with the first error agree.** -/
theorem foldl_sticky (f : Visitor σ α ε) (as : List α) (s : σ) :
    as.foldl (sticky f) (s, .ok ()) = visit f as s := by
  induction as generalizing s with
  | nil => rfl
  | cons a as ih =>
      have hfirst : sticky f (s, .ok ()) a = f s a := rfl
      rw [List.foldl_cons, hfirst, visit]
      rcases f s a with ⟨s', e | u⟩
      · exact foldl_sticky_error f as s' e
      · exact ih s'

theorem visit_map (f : Visitor σ β ε) (g : α → β) (as : List α) (s : σ) :
    visit f (as.map g) s = visit (fun s a => f s (g a)) as s := by
  induction as generalizing s with
  | nil => rfl
  | cons a as ih =>
      rw [List.map_cons, visit, visit]
      rcases f s (g a) with ⟨s', e | u⟩
      · rfl
      · exact ih s'

/-- The state after the items were visited, whatever the visitor has answered. -/
def states (f : Visitor σ α ε) (as : List α) (s : σ) : σ := as.foldl (fun s a => (f s a).1) s

/-- The visitor takes each of the items. -/
def Takes (f : Visitor σ α ε) (s : σ) (as : List α) : Prop :=
  ∀ before a later, as = before ++ a :: later → (f (states f before s) a).2 = .ok ()

/-- What became of the items: the visitor took all of them, or those up to one over which it failed. -/
inductive Visited (f : Visitor σ α ε) (s : σ) (as : List α) : σ × Except ε Unit → Prop where
  | all (h : Takes f s as) : Visited f s as (states f as s, .ok ())
  | upTo (before : List α) (a : α) (later : List α) (e : ε) (h : as = before ++ a :: later)
      (htaken : Takes f s before) (hfails : (f (states f before s) a).2 = .error e) :
      Visited f s as ((f (states f before s) a).1, .error e)

theorem takes_nil (f : Visitor σ α ε) (s : σ) : Takes f s [] := by
  intro before a later h
  cases before <;> cases h

theorem Takes.cons {f : Visitor σ α ε} {s s' : σ} {a : α} {as : List α} (hfirst : f s a = (s', .ok ()))
    (h : Takes f s' as) : Takes f s (a :: as) := by
  intro before b later heq
  cases before with
  | nil =>
      cases heq
      exact congrArg Prod.snd hfirst
  | cons c before =>
      cases heq
      have hnext : states f (a :: before) s = states f before s' := by
        rw [states, List.foldl_cons, hfirst]
        rfl
      rw [hnext]
      exact h before b later rfl

/-- **What a visit does.** -/
theorem visited (f : Visitor σ α ε) (as : List α) (s : σ) : Visited f s as (visit f as s) := by
  induction as generalizing s with
  | nil => exact .all (takes_nil f s)
  | cons a as ih =>
      have hstates : ∀ (s' : σ) (before : List α), (f s a).1 = s' →
          states f (a :: before) s = states f before s' := by
        rintro s' before rfl
        rfl
      rw [visit]
      rcases hfirst : f s a with ⟨s', e | u⟩
      · have hfails : (f (states f [] s) a).2 = .error e := congrArg Prod.snd hfirst
        have hlast := Visited.upTo (s := s) [] a as e rfl (takes_nil f s) hfails
        rwa [show (f (states f [] s) a).1 = s' from congrArg Prod.fst hfirst] at hlast
      · have hnext := ih s'
        have hs' : (f s a).1 = s' := congrArg Prod.fst hfirst
        dsimp only
        generalize visit f as s' = result at hnext ⊢
        cases hnext with
        | all h =>
            rw [← hstates s' as hs']
            exact .all (h.cons hfirst)
        | upTo before b later e h htaken hfails =>
            rw [← hstates s' before hs'] at hfails ⊢
            exact .upTo (a :: before) b later e (congrArg (a :: ·) h) (htaken.cons hfirst) hfails

end Library.Visit
