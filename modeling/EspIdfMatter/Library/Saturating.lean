import Mathlib

/-! Unsigned arithmetic of `w` bits that saturates, rounds up or clamps: each operation is the one on the
natural numbers, cut off at the greatest value. -/

namespace Library.Saturating

variable {w : Nat}

/-- The sum, or the greatest value if it does not fit. -/
def add (a b : BitVec w) : BitVec w :=
  if a.toNat + b.toNat < 2 ^ w then a + b else BitVec.allOnes w

/-- The product, or the greatest value if it does not fit. -/
def mul (a b : BitVec w) : BitVec w :=
  if a.toNat * b.toNat < 2 ^ w then a * b else BitVec.allOnes w

/-- The quotient, rounded up. -/
def divCeil (a b : BitVec w) : BitVec w :=
  if a % b = 0 then a / b else a / b + 1

def max (a b : BitVec w) : BitVec w := if a < b then b else a

def clamp (a lo hi : BitVec w) : BitVec w :=
  if a < lo then lo else if hi < a then hi else a

theorem toNat_add (a b : BitVec w) : (add a b).toNat = min (a.toNat + b.toNat) (2 ^ w - 1) := by
  unfold add
  split
  · rename_i hfits
    rw [BitVec.toNat_add, Nat.mod_eq_of_lt hfits]
    omega
  · rw [BitVec.toNat_allOnes]
    omega

theorem toNat_mul (a b : BitVec w) : (mul a b).toNat = min (a.toNat * b.toNat) (2 ^ w - 1) := by
  unfold mul
  split
  · rename_i hfits
    rw [BitVec.toNat_mul, Nat.mod_eq_of_lt hfits]
    omega
  · rw [BitVec.toNat_allOnes]
    omega

theorem ceilDiv_eq (a : Nat) {b : Nat} (hb : 0 < b) :
    a ⌈/⌉ b = a / b + if a % b = 0 then 0 else 1 := by
  obtain ⟨q, r, hr, rfl⟩ : ∃ q r, r < b ∧ a = b * q + r :=
    ⟨a / b, a % b, Nat.mod_lt a hb, (Nat.div_add_mod a b).symm⟩
  have hdiv : (b * q + r) / b = q := by
    rw [Nat.mul_add_div hb, Nat.div_eq_of_lt hr, Nat.add_zero]
  have hmod : (b * q + r) % b = r := by
    rw [Nat.mul_add_mod, Nat.mod_eq_of_lt hr]
  rw [Nat.ceilDiv_eq_add_pred_div, hdiv, hmod, Nat.add_assoc, Nat.add_sub_assoc (by omega),
    Nat.mul_add_div hb]
  split
  · rename_i hzero
    rw [hzero, Nat.div_eq_of_lt (by omega)]
  · rw [show r + b - 1 = b + (r - 1) by omega, Nat.add_div_left _ hb, Nat.div_eq_of_lt (by omega)]

/-- Rounding up never overflows. -/
theorem toNat_divCeil (a : BitVec w) {b : BitVec w} (hb : 0 < b.toNat) :
    (divCeil a b).toNat = a.toNat ⌈/⌉ b.toNat := by
  have hzero : a % b = 0 ↔ a.toNat % b.toNat = 0 := by
    rw [← BitVec.toNat_inj, BitVec.toNat_umod]
    rfl
  rw [ceilDiv_eq _ hb]
  unfold divCeil
  split
  · rename_i h
    rw [if_pos (hzero.mp h), BitVec.toNat_udiv, Nat.add_zero]
  · rename_i h
    have hrest := mt hzero.mpr h
    have hfits : a.toNat / b.toNat + 1 < 2 ^ w := by
      have hmod := Nat.div_add_mod a.toNat b.toNat
      have hlt := a.isLt
      have hpos : 1 < b.toNat := by
        by_contra hone
        rw [show b.toNat = 1 by omega, Nat.mod_one] at hrest
        exact hrest rfl
      have hquot : a.toNat / b.toNat ≤ b.toNat * (a.toNat / b.toNat) := Nat.le_mul_of_pos_left _ hb
      omega
    rw [if_neg hrest, BitVec.toNat_add, BitVec.toNat_udiv]
    have hone : (1 : BitVec w).toNat = 1 % 2 ^ w := rfl
    rw [hone, Nat.add_mod_mod, Nat.mod_eq_of_lt hfits]

theorem toNat_max (a b : BitVec w) : (max a b).toNat = a.toNat ⊔ b.toNat := by
  unfold max
  split <;> rename_i h <;> rw [BitVec.lt_def] at h <;> omega

theorem toNat_clamp (a : BitVec w) {lo hi : BitVec w} (hle : lo.toNat ≤ hi.toNat) :
    (clamp a lo hi).toNat = lo.toNat ⊔ a.toNat ⊓ hi.toNat := by
  unfold clamp
  split
  · rename_i h
    rw [BitVec.lt_def] at h
    omega
  split
  · rename_i h
    rw [BitVec.lt_def] at h
    omega
  · rename_i hlo hhi
    rw [BitVec.lt_def] at hlo hhi
    omega

end Library.Saturating
