import Mathlib

/-! Booleans packed into a machine word, the first one into its lowest bit. -/

namespace Library.Bits

variable {w : Nat}

def pack (w : Nat) (bits : List Bool) : BitVec w :=
  bits.zipIdx.foldl (fun word entry => word ||| (BitVec.ofBool entry.1).setWidth w <<< entry.2) 0

theorem getLsbD_bit (b : Bool) {k : Nat} (hk : k < w) (i : Nat) :
    ((BitVec.ofBool b).setWidth w <<< k).getLsbD i = (b && decide (i = k)) := by
  rw [BitVec.getLsbD_shiftLeft, BitVec.getLsbD_setWidth, BitVec.getLsbD_ofBool]
  by_cases hi : i = k
  · subst hi
    simp [hk]
    omega
  · have hne : ¬ (i - k = 0 ∧ ¬ i < k) := by omega
    cases b
    · simp
    · simp only [decide_eq_false hi, Bool.and_false, Bool.and_eq_false_iff, Bool.not_eq_false',
        decide_eq_true_eq, decide_eq_false_iff_not]
      omega

theorem getLsbD_foldl (bits : List Bool) (start : Nat) (word : BitVec w) (h : start + bits.length ≤ w)
    (i : Nat) :
    ((bits.zipIdx start).foldl
        (fun word entry => word ||| (BitVec.ofBool entry.1).setWidth w <<< entry.2) word).getLsbD i =
      (word.getLsbD i || (decide (start ≤ i) && bits.getD (i - start) false)) := by
  induction bits generalizing start word with
  | nil => simp
  | cons b bits ih =>
      rw [List.length_cons] at h
      rw [List.zipIdx_cons, List.foldl_cons, ih (start + 1) _ (by omega), BitVec.getLsbD_or,
        getLsbD_bit b (by omega) i, Bool.or_assoc]
      congr 1
      rcases lt_trichotomy i start with hlt | heq | hgt
      · simp [show ¬ i = start by omega, show ¬ start + 1 ≤ i by omega, show ¬ start ≤ i by omega]
      · subst heq
        simp
      · obtain ⟨k, rfl⟩ : ∃ k, i = start + 1 + k := ⟨i - start - 1, by omega⟩
        have hk : start + 1 + k - start = k + 1 := by omega
        simp [hk, show ¬ start + 1 + k = start by omega, show start ≤ start + 1 + k by omega]

/-- **Each bit is where it was put.** -/
theorem getLsbD_pack {bits : List Bool} (h : bits.length ≤ w) (i : Nat) :
    (pack w bits).getLsbD i = bits.getD i false := by
  have hzero : (0 : BitVec w).getLsbD i = false := BitVec.getLsbD_zero
  have hfold := getLsbD_foldl bits 0 (0 : BitVec w) (by omega) i
  rw [hzero, Bool.false_or, Nat.sub_zero, decide_eq_true (Nat.zero_le i), Bool.true_and] at hfold
  exact hfold

theorem toNat_mod_eq_iff (x y : BitVec w) (n : Nat) :
    x.toNat % 2 ^ n = y.toNat % 2 ^ n ↔ ∀ i < n, x.getLsbD i = y.getLsbD i := by
  have hbit : ∀ (z : BitVec w) i, (z.toNat % 2 ^ n).testBit i = (decide (i < n) && z.getLsbD i) := by
    intro z i
    rw [Nat.testBit_mod_two_pow, BitVec.testBit_toNat]
  constructor
  · intro h i hi
    have hx := hbit x i
    rw [h, hbit y i, decide_eq_true hi, Bool.true_and, Bool.true_and] at hx
    exact hx.symm
  · intro h
    apply Nat.eq_of_testBit_eq
    intro i
    rw [hbit, hbit]
    by_cases hi : i < n
    · rw [h i hi]
    · rw [decide_eq_false hi, Bool.false_and, Bool.false_and]

end Library.Bits
