import EspIdfMatter.Library.BoundedVec

/-! Gathering lists without repeating what is already there: each element of the second list is appended
unless the result contains it by then. In a bounded vector there may not be room for all of them. -/

namespace Library

variable {α : Type} [DecidableEq α]

/-- Append what is not there yet. -/
def gather (xs ys : List α) : List α :=
  ys.foldl (fun acc y => if y ∈ acc then acc else acc ++ [y]) xs

section Gather

variable (xs ys : List α)

@[simp] theorem gather_nil : gather xs [] = xs := rfl

theorem gather_cons (y : α) :
    gather xs (y :: ys) = gather (if y ∈ xs then xs else xs ++ [y]) ys := rfl

theorem mem_gather (a : α) : a ∈ gather xs ys ↔ a ∈ xs ∨ a ∈ ys := by
  induction ys generalizing xs with
  | nil => simp
  | cons y ys ih =>
      rw [gather_cons, ih]
      split_ifs with hy
      · constructor
        · rintro (h | h)
          · exact .inl h
          · exact .inr (List.mem_cons_of_mem _ h)
        · rintro (h | h)
          · exact .inl h
          · rcases List.mem_cons.mp h with rfl | h
            · exact .inl hy
            · exact .inr h
      · rw [List.mem_append, List.mem_singleton, List.mem_cons, or_assoc]

/-- The first list comes first, and what comes after it is not in it. -/
theorem gather_eq_append : ∃ rest, gather xs ys = xs ++ rest ∧ ∀ a ∈ rest, a ∈ ys ∧ a ∉ xs := by
  induction ys generalizing xs with
  | nil => exact ⟨[], (List.append_nil xs).symm, nofun⟩
  | cons y ys ih =>
      rw [gather_cons]
      obtain ⟨rest, hrest, hnew⟩ := ih (if y ∈ xs then xs else xs ++ [y])
      split_ifs at hrest hnew ⊢ with hy
      · exact ⟨rest, hrest, fun a ha => ⟨List.mem_cons_of_mem _ (hnew a ha).1, (hnew a ha).2⟩⟩
      · refine ⟨y :: rest, by rw [hrest, List.append_assoc]; rfl, fun a ha => ?_⟩
        rcases List.mem_cons.mp ha with rfl | ha
        · exact ⟨List.mem_cons_self, hy⟩
        · obtain ⟨hmem, hnot⟩ := hnew a ha
          exact ⟨List.mem_cons_of_mem _ hmem, fun h => hnot (List.mem_append_left _ h)⟩

/-- **The length of a gathered list** counts every new element once. -/
theorem length_gather : (gather xs ys).length = xs.length + (ys.toFinset \ xs.toFinset).card := by
  induction ys generalizing xs with
  | nil => simp
  | cons y ys ih =>
      rw [gather_cons, ih]
      split_ifs with hy
      · have hsame : (y :: ys).toFinset \ xs.toFinset = ys.toFinset \ xs.toFinset := by
          rw [List.toFinset_cons, Finset.insert_sdiff_of_mem _ (List.mem_toFinset.mpr hy)]
        rw [hsame]
      · have hnot : y ∉ xs.toFinset := mt List.mem_toFinset.mp hy
        have hmore : (y :: ys).toFinset \ xs.toFinset =
            insert y (ys.toFinset \ (xs ++ [y]).toFinset) := by
          ext a
          simp only [List.toFinset_cons, Finset.mem_sdiff, Finset.mem_insert, List.mem_toFinset,
            List.mem_append, List.mem_singleton]
          constructor
          · rintro ⟨ha, hxs⟩
            by_cases hay : a = y
            · exact .inl hay
            · exact .inr ⟨ha.resolve_left hay, fun h => h.elim hxs hay⟩
          · rintro (rfl | ⟨ha, hxs⟩)
            · exact ⟨.inl rfl, hy⟩
            · exact ⟨.inr ha, fun h => hxs (.inl h)⟩
        have hfresh : y ∉ ys.toFinset \ (xs ++ [y]).toFinset := by
          simp
        rw [hmore, Finset.card_insert_of_notMem hfresh, List.length_append, List.length_singleton]
        omega

theorem length_le_gather : xs.length ≤ (gather xs ys).length := by
  rw [length_gather]
  omega

end Gather

namespace BoundedVec

variable {n : Nat}

/-- Push what is not there yet. -/
def gather (v : BoundedVec α n) (ys : List α) : Option (BoundedVec α n) :=
  ys.foldlM (fun v y => if y ∈ v.toList then some v else v.push y) v

/-- **Gathering into a bounded vector** works exactly when there is room for the gathered list. -/
theorem gather_eq_some_iff (v v' : BoundedVec α n) (ys : List α) :
    v.gather ys = some v' ↔ Library.gather v.toList ys = v'.toList := by
  induction ys generalizing v with
  | nil =>
      rw [gather, List.foldlM_nil, gather_nil, BoundedVec.ext_iff.symm]
      exact Option.some_inj
  | cons y ys ih =>
      rw [gather, List.foldlM_cons, gather_cons]
      split_ifs with hy
      · exact ih v
      · by_cases hroom : v.length < n
        · obtain ⟨w, hpush, hw⟩ := push_of_lt y hroom
          rw [hpush, ← hw]
          exact ih w
        · rw [push_of_full y hroom]
          constructor
          · intro h
            cases h
          · intro h
            have hlong := length_le_gather (v.toList ++ [y]) ys
            have hbound := v'.length_le
            rw [h, List.length_append, List.length_singleton] at hlong
            exact absurd (show v.length < n by unfold length; omega) hroom

theorem gather_isSome_iff (v : BoundedVec α n) (ys : List α) :
    (v.gather ys).isSome = true ↔ v.length + (ys.toFinset \ v.toList.toFinset).card ≤ n := by
  have hlen := length_gather v.toList ys
  rw [Option.isSome_iff_exists]
  constructor
  · rintro ⟨v', h⟩
    rw [gather_eq_some_iff] at h
    calc v.length + (ys.toFinset \ v.toList.toFinset).card
        = (Library.gather v.toList ys).length := hlen.symm
      _ = v'.toList.length := by rw [h]
      _ ≤ n := v'.length_le
  · intro h
    have hbound : (Library.gather v.toList ys).length ≤ n := hlen.trans_le h
    exact ⟨⟨_, hbound⟩, (gather_eq_some_iff v ⟨_, hbound⟩ ys).mpr rfl⟩

end BoundedVec

end Library
