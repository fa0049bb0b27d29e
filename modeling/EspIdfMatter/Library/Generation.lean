import Mathlib

/-! Generation counters of `w` bits. One party counts the epochs it starts, another remembers the
epoch it last synchronised with and compares: equal means nothing happened in between, as long as
fewer than `2 ^ w` epochs did. -/

namespace Library.Generation

variable {w : Nat}

/-- The remembered epoch, if any, is at most `lag` epochs behind the counter. -/
def Within (seen : Option (BitVec w)) (counter : BitVec w) (lag : Nat) : Prop :=
  ∀ g, seen = some g → ∃ behind, behind ≤ lag ∧ counter = g + BitVec.ofNat w behind

theorem within_none (counter : BitVec w) (lag : Nat) : Within none counter lag := by
  intro g h
  cases h

theorem within_self (counter : BitVec w) (lag : Nat) : Within (some counter) counter lag := by
  intro g h
  cases h
  exact ⟨0, Nat.zero_le _, by simp⟩

theorem Within.mono {seen : Option (BitVec w)} {counter : BitVec w} {lag lag' : Nat}
    (h : Within seen counter lag) (hle : lag ≤ lag') : Within seen counter lag' := by
  intro g hg
  obtain ⟨behind, hbehind, heq⟩ := h g hg
  exact ⟨behind, hbehind.trans hle, heq⟩

/-- A new epoch puts the counter one further ahead. -/
theorem Within.next {seen : Option (BitVec w)} {counter : BitVec w} {lag : Nat}
    (h : Within seen counter lag) : Within seen (counter + 1) (lag + 1) := by
  intro g hg
  obtain ⟨behind, hbehind, rfl⟩ := h g hg
  refine ⟨behind + 1, Nat.succ_le_succ hbehind, ?_⟩
  rw [BitVec.ofNat_add, BitVec.add_assoc]
  rfl

theorem add_ofNat_ne_self {g : BitVec w} {k : Nat} (hpos : 0 < k) (hlt : k < 2 ^ w) :
    g + BitVec.ofNat w k ≠ g := by
  intro h
  have hzero : BitVec.ofNat w k = 0#w := by
    have h' : g + BitVec.ofNat w k = g + 0#w := by rw [h, BitVec.add_zero]
    exact (BitVec.add_right_inj g).mp h'
  have hmod := congrArg BitVec.toNat hzero
  rw [BitVec.toNat_ofNat, Nat.mod_eq_of_lt hlt, BitVec.toNat_ofNat, Nat.zero_mod] at hmod
  omega

/-- **An epoch just started is never the remembered one**, before the counter wrapped around. -/
theorem Within.ne_next {seen : Option (BitVec w)} {counter : BitVec w} {lag : Nat}
    (h : Within seen counter lag) (hlag : lag + 1 < 2 ^ w) : seen ≠ some (counter + 1) := by
  intro hseen
  obtain ⟨behind, hbehind, heq⟩ := h _ hseen
  refine add_ofNat_ne_self (g := counter + 1) (k := behind + 1) (Nat.succ_pos _) (by omega) ?_
  have hnext : counter + 1 = counter + 1 + BitVec.ofNat w behind + 1 := by rw [← heq]
  rw [BitVec.ofNat_add, ← BitVec.add_assoc]
  exact hnext.symm

end Library.Generation
