import Mathlib

/-! Vectors of bounded capacity. The bound is a field, so a vector that outgrew its capacity cannot
be built; the operations that could outgrow it fail instead. -/

namespace Library

/-- A list of at most `capacity` elements. -/
@[ext] structure BoundedVec (α : Type) (capacity : Nat) where
  toList : List α
  length_le : toList.length ≤ capacity

namespace BoundedVec

variable {α : Type} {n : Nat}

instance [DecidableEq α] : DecidableEq (BoundedVec α n) := fun v w =>
  decidable_of_iff (v.toList = w.toList) BoundedVec.ext_iff.symm

def empty : BoundedVec α n := ⟨[], Nat.zero_le n⟩

instance : Inhabited (BoundedVec α n) := ⟨empty⟩

def length (v : BoundedVec α n) : Nat := v.toList.length

def isEmpty (v : BoundedVec α n) : Bool := v.toList.isEmpty

/-- Append one element, if there is room. -/
def push (v : BoundedVec α n) (x : α) : Option (BoundedVec α n) :=
  if h : v.toList.length < n then some ⟨v.toList ++ [x], by simp; omega⟩ else none

/-- Append a slice, if all of it fits. -/
def extendFromSlice (v : BoundedVec α n) (xs : List α) : Option (BoundedVec α n) :=
  if h : v.toList.length + xs.length ≤ n then some ⟨v.toList ++ xs, by simpa using h⟩ else none

/-- Keep the first `len` elements. -/
def truncate (v : BoundedVec α n) (len : Nat) : BoundedVec α n :=
  ⟨v.toList.take len, by
    rw [List.length_take]
    exact (Nat.min_le_right _ _).trans v.length_le⟩

/-- Cut or pad with default elements to a length within the capacity. -/
def resize [Inhabited α] (v : BoundedVec α n) (len : Nat) (hlen : len ≤ n) : BoundedVec α n :=
  ⟨v.toList.take len ++ List.replicate (len - v.toList.length) default, by
    simp only [List.length_append, List.length_take, List.length_replicate]
    omega⟩

/-- Cut or pad with default elements, if the length is within the capacity. -/
def resizeDefault [Inhabited α] (v : BoundedVec α n) (len : Nat) : Option (BoundedVec α n) :=
  if h : len ≤ n then some (v.resize len h) else none

/-- Write a slice over the front, as far as it fits in the present length. -/
def overwrite (v : BoundedVec α n) (xs : List α) : BoundedVec α n :=
  ⟨(xs ++ v.toList.drop xs.length).take v.toList.length, by
    rw [List.length_take]
    exact (Nat.min_le_left _ _).trans v.length_le⟩

@[simp] theorem toList_empty : (empty : BoundedVec α n).toList = [] := rfl

@[simp] theorem isEmpty_empty : (empty : BoundedVec α n).isEmpty = true := rfl

@[simp] theorem isEmpty_iff (v : BoundedVec α n) : v.isEmpty = true ↔ v.toList = [] :=
  List.isEmpty_iff

@[simp] theorem isEmpty_eq_false_iff (v : BoundedVec α n) : v.isEmpty = false ↔ v.toList ≠ [] := by
  rw [← Bool.not_eq_true, isEmpty_iff]

theorem length_eq_zero_iff {v : BoundedVec α n} : v.length = 0 ↔ v.toList = [] :=
  List.length_eq_zero_iff

@[simp] theorem toList_truncate (v : BoundedVec α n) (len : Nat) :
    (v.truncate len).toList = v.toList.take len := rfl

theorem resizeDefault_of_le [Inhabited α] (v : BoundedVec α n) {len : Nat} (hlen : len ≤ n) :
    v.resizeDefault len = some (v.resize len hlen) := dif_pos hlen

@[simp] theorem length_resize [Inhabited α] (v : BoundedVec α n) {len : Nat} (hlen : len ≤ n) :
    (v.resize len hlen).length = len := by
  simp only [length, resize, List.length_append, List.length_take, List.length_replicate]
  omega

theorem extendFromSlice_empty {xs : List α} (h : xs.length ≤ n) :
    (empty : BoundedVec α n).extendFromSlice xs = some ⟨xs, h⟩ := by
  simp [extendFromSlice, h]

theorem extendFromSlice_empty_of_lt {xs : List α} (h : n < xs.length) :
    (empty : BoundedVec α n).extendFromSlice xs = none := by
  simp [extendFromSlice, Nat.not_le.mpr h]

theorem push_toList {v v' : BoundedVec α n} {x : α} (h : v.push x = some v') :
    v'.toList = v.toList ++ [x] := by
  unfold push at h
  split at h
  · rw [← Option.some.inj h]
  · cases h

theorem push_of_lt {v : BoundedVec α n} (x : α) (h : v.length < n) :
    ∃ v', v.push x = some v' ∧ v'.toList = v.toList ++ [x] :=
  ⟨_, dif_pos h, rfl⟩

theorem push_of_full {v : BoundedVec α n} (x : α) (h : ¬ v.length < n) : v.push x = none := dif_neg h

/-- Pushing the elements of a list one by one, as long as there is room. -/
theorem foldlM_push_toList {v v' : BoundedVec α n} {xs : List α} (h : xs.foldlM push v = some v') :
    v'.toList = v.toList ++ xs := by
  induction xs generalizing v with
  | nil =>
      rw [List.append_nil, ← Option.some.inj h]
  | cons x xs ih =>
      rw [List.foldlM_cons] at h
      obtain ⟨v'', hpush, hrest⟩ := Option.bind_eq_some_iff.mp h
      rw [ih hrest, push_toList hpush, List.append_assoc]
      rfl

theorem foldlM_push_of_le {v : BoundedVec α n} {xs : List α} (h : v.length + xs.length ≤ n) :
    ∃ v', xs.foldlM push v = some v' := by
  induction xs generalizing v with
  | nil => exact ⟨v, rfl⟩
  | cons x xs ih =>
      rw [List.length_cons] at h
      have hroom : v.length < n := by omega
      obtain ⟨w, hpush, hw⟩ := push_of_lt x hroom
      have hlen : w.length = v.length + 1 := by
        unfold length
        rw [hw, List.length_append, List.length_singleton]
      rw [List.foldlM_cons, hpush]
      apply ih
      omega

/-- Pushing the elements of a list one by one and dropping those that do not fit keeps the first ones. -/
theorem foldl_push_getD_toList (v : BoundedVec α n) (xs : List α) :
    (xs.foldl (fun v x => (v.push x).getD v) v).toList = (v.toList ++ xs).take n := by
  induction xs generalizing v with
  | nil =>
      rw [List.append_nil, List.take_of_length_le v.length_le]
      rfl
  | cons x xs ih =>
      rw [List.foldl_cons, ih]
      by_cases hroom : v.length < n
      · obtain ⟨w, hpush, hw⟩ := push_of_lt x hroom
        rw [hpush, Option.getD_some, hw, List.append_assoc, List.singleton_append]
      · have hfull : v.toList.length = n := v.length_le.antisymm (not_lt.mp hroom)
        rw [push_of_full x hroom, Option.getD_none, List.take_left' hfull, List.take_left' hfull]

/-- A slice that fits is found again at the front. -/
theorem take_overwrite (v : BoundedVec α n) {xs : List α} (h : xs.length ≤ v.length) :
    (v.overwrite xs).toList.take xs.length = xs := by
  simp only [overwrite, length] at h ⊢
  rw [List.take_take, Nat.min_eq_left h, List.take_left]

end BoundedVec

end Library
