import EspIdfMatter.Library.Machine

/-! A value that is watched by comparison: a look that finds another value keeps it, and tells of it. The
value may also be raised to a given one, and nothing is told of that. -/

namespace Library.Watch

open Library.Machine

variable {α : Type*}

inductive Op (α : Type*) where
  | look (a : α)
  | raise

/-- The value, and what is told of. -/
def step [DecidableEq α] (top v : α) : Op α → α × List α
  | .look a => (a, if v ≠ a then [a] else [])
  | .raise => (top, [])

/-! ### Looks alone -/

section Looks

variable [DecidableEq α]

/-- **What is told of is what the looks find, without the repetitions.** -/
theorem outputs_look (top v : α) (found : List α) :
    v :: outputs (step top) v (found.map .look) = found.destutter' (· ≠ ·) v := by
  induction found generalizing v with
  | nil => rfl
  | cons a found ih =>
      rw [List.map_cons, outputs_cons, step]
      by_cases hsame : v = a
      · rw [if_neg (not_not_intro hsame), List.destutter'_cons_neg found (not_not_intro hsame), hsame]
        exact ih a
      · rw [if_pos hsame, List.destutter'_cons_pos found hsame, ← ih a]
        rfl

end Looks

/-! ### The value -/

/-- What an operation makes of the value. -/
def Op.value (top : α) : Op α → α
  | .look a => a
  | .raise => top

/-- **The value is the one that the last operation has made it.** -/
theorem after_eq_last [DecidableEq α] (top v : α) (ops : List (Op α)) :
    after (step top) v ops = ((ops.map (Op.value top)).getLast?).getD v := by
  induction ops generalizing v with
  | nil => rfl
  | cons op ops ih =>
      have hfirst : (step top v op).1 = op.value top := by cases op <;> rfl
      rw [after_cons, hfirst, ih, List.map_cons]
      cases ops with
      | nil => rfl
      | cons op' ops =>
          rw [List.map_cons, List.getLast?_cons_cons, List.getLast?_cons, Option.getD_some, Option.getD_some]

theorem after_look [DecidableEq α] (top v : α) (found : List α) :
    after (step top) v (found.map .look) = (found.getLast?).getD v := by
  have hvalues : (found.map Op.look).map (Op.value top) = found := by
    rw [List.map_map]
    exact List.map_id found
  rw [after_eq_last, hvalues]

/-! ### Looks and raises -/

/-- What was told of, and what it is worth. -/
structure Informed (top v₀ : α) (told : List α) (v : α) : Prop where
  /-- what was told of last is right, unless the value is the top one -/
  last : told.getLast?.getD v₀ = v ∨ v = top
  /-- only the top value may be raised, so only another one is told of again -/
  changes : told.IsChain fun a b => a ≠ b ∨ b ≠ top

variable {top v₀ v : α} {told : List α}

theorem Informed.tell (h : Informed top v₀ told v) {a : α} (hnew : v ≠ a) :
    Informed top v₀ (told ++ [a]) a := by
  refine ⟨.inl ?_, ?_⟩
  · rw [List.getLast?_concat, Option.getD_some]
  · refine h.changes.append (List.isChain_singleton a) fun b hb c hc => ?_
    cases Option.mem_some_iff.mp hc
    rcases h.last with hlast | htop
    · rw [Option.mem_def.mp hb, Option.getD_some] at hlast
      exact .inl (hlast.trans_ne hnew)
    · exact .inr fun ha => hnew (htop.trans ha.symm)

theorem Informed.step [DecidableEq α] (h : Informed top v₀ told v) (op : Op α) :
    Informed top v₀ (told ++ (step top v op).2) (step top v op).1 := by
  cases op with
  | look a =>
      rw [Watch.step]
      by_cases hsame : v = a
      · rw [if_neg (not_not_intro hsame), List.append_nil, ← hsame]
        exact h
      · rw [if_pos hsame]
        exact h.tell hsame
  | raise =>
      rw [Watch.step, List.append_nil]
      exact ⟨.inr rfl, h.changes⟩

/-- **What was told of last is right unless the value was raised.** -/
theorem informed_run [DecidableEq α] (top v₀ : α) (ops : List (Op α)) :
    Informed top v₀ (outputs (step top) v₀ ops) (after (step top) v₀ ops) :=
  run_induction (step top) (I := fun told v _ => Informed top v₀ told v) (fun _ _ op _ h => h.step op)
    (h := []) ⟨.inl rfl, List.isChain_nil⟩

/-- Of a flag: it is up if its rise was told of last, and a rise is never told of twice in a row. -/
theorem Informed.rises {told : List Bool} {up : Bool} (h : Informed true false told up) :
    (told.getLast? = some true → up = true) ∧ told.IsChain fun a b => a = true → b = false := by
  refine ⟨fun hlast => ?_, h.changes.imp fun a b hchange ha => ?_⟩
  · rcases h.last with htrue | htrue
    · rw [hlast] at htrue
      exact htrue.symm
    · exact htrue
  · rcases hchange with hne | hne
    · exact Bool.eq_false_iff.mpr fun hb => hne (ha.trans hb.symm)
    · exact Bool.eq_false_iff.mpr hne

end Library.Watch
