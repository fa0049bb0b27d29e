import Mathlib

/-! Numbers in hexadecimal, padded with zeros on the left, and that they can be read back. -/

namespace Library.Hex

/-- At least `w` digits, in lower case. -/
def lower (w n : Nat) : List Char := (Nat.toDigits 16 n).leftpad w '0'

/-- At least `w` digits, in upper case. -/
def upper (w n : Nat) : List Char := (lower w n).map Char.toUpper

/-- The value of a digit of either case. -/
def digitValue (c : Char) : Nat :=
  if c.toNat < 58 then c.toNat - 48 else if c.toNat < 97 then c.toNat - 55 else c.toNat - 87

def value (digits : List Char) : Nat := digits.foldl (fun n c => 16 * n + digitValue c) 0

theorem digitValue_digitChar : ∀ d < 16, digitValue (Nat.digitChar d) = d := by decide

theorem digitValue_toUpper : ∀ d < 16, digitValue (Nat.digitChar d).toUpper = d := by decide

theorem value_append (digits : List Char) (c : Char) :
    value (digits ++ [c]) = 16 * value digits + digitValue c := by
  rw [value, List.foldl_append]
  rfl

theorem toDigits_of_le {n : Nat} (h : 16 ≤ n) :
    Nat.toDigits 16 n = Nat.toDigits 16 (n / 16) ++ [Nat.digitChar (n % 16)] :=
  Nat.toDigits_of_base_le (by decide) h

/-- The digits of a number have its value in any reading that reads each digit. -/
theorem value_map_toDigits {f : Char → Char} (hf : ∀ d < 16, digitValue (f (Nat.digitChar d)) = d) (n : Nat) :
    value ((Nat.toDigits 16 n).map f) = n := by
  induction n using Nat.strongRecOn with
  | ind n ih =>
      rcases Nat.lt_or_ge n 16 with hsmall | hlarge
      · rw [Nat.toDigits_of_lt_base hsmall, List.map_singleton, value, List.foldl_cons, List.foldl_nil,
          hf n hsmall]
        omega
      · have hlast := hf (n % 16) (Nat.mod_lt n (by decide))
        rw [toDigits_of_le hlarge, List.map_append, List.map_singleton, value_append,
          ih (n / 16) (by omega), hlast]
        omega

/-- Zeros in front do not matter. -/
theorem value_leftpad (w : Nat) (digits : List Char) {zero : Char} (hzero : digitValue zero = 0) :
    value (digits.leftpad w zero) = value digits := by
  have hzeros : ∀ k, value (List.replicate k zero) = 0 := by
    intro k
    induction k with
    | zero => rfl
    | succ k ih => rw [List.replicate_succ', value_append, ih, hzero]
  rw [List.leftpad, value, List.foldl_append]
  have hstart := hzeros (w - digits.length)
  unfold value at hstart
  rw [hstart]
  rfl

theorem map_leftpad (f : Char → Char) (w : Nat) (digits : List Char) (zero : Char) :
    (digits.leftpad w zero).map f = (digits.map f).leftpad w (f zero) := by
  rw [List.leftpad, List.leftpad, List.map_append, List.map_replicate, List.length_map]

theorem value_lower (w n : Nat) : value (lower w n) = n := by
  have hdigits := value_map_toDigits (f := id) digitValue_digitChar n
  rw [List.map_id] at hdigits
  rw [lower, value_leftpad w _ rfl, hdigits]

theorem value_upper (w n : Nat) : value (upper w n) = n := by
  rw [upper, lower, map_leftpad, value_leftpad w _ rfl, value_map_toDigits digitValue_toUpper n]

theorem lower_injective (w : Nat) : Function.Injective (lower w) :=
  Function.LeftInverse.injective (value_lower w)

theorem upper_injective (w : Nat) : Function.Injective (upper w) :=
  Function.LeftInverse.injective (value_upper w)

theorem length_lower {w n : Nat} (hw : 0 < w) (hn : n < 16 ^ w) : (lower w n).length = w := by
  rw [lower, List.length_leftpad]
  exact max_eq_left (Nat.toDigits_length 16 n w hw hn)

theorem length_upper {w n : Nat} (hw : 0 < w) (hn : n < 16 ^ w) : (upper w n).length = w := by
  rw [upper, List.length_map, length_lower hw hn]

/-! ### Characters -/

theorem exists_digit_of_mem {n : Nat} {c : Char} (h : c ∈ Nat.toDigits 16 n) :
    ∃ d < 16, c = Nat.digitChar d := by
  induction n using Nat.strongRecOn with
  | ind n ih =>
      rcases Nat.lt_or_ge n 16 with hsmall | hlarge
      · rw [Nat.toDigits_of_lt_base hsmall, List.mem_singleton] at h
        exact ⟨n, hsmall, h⟩
      · rw [toDigits_of_le hlarge, List.mem_append, List.mem_singleton] at h
        rcases h with hearlier | hlast
        · exact ih (n / 16) (by omega) hearlier
        · exact ⟨n % 16, Nat.mod_lt n (by decide), hlast⟩

theorem utf8Size_toUpper : ∀ d < 16, (Nat.digitChar d).toUpper.utf8Size = 1 := by decide

theorem utf8Size_of_mem_upper {w n : Nat} {c : Char} (h : c ∈ upper w n) : c.utf8Size = 1 := by
  obtain ⟨digit, hdigit, rfl⟩ := List.mem_map.mp h
  rw [lower, List.leftpad, List.mem_append, List.mem_replicate] at hdigit
  rcases hdigit with ⟨-, rfl⟩ | hdigit
  · exact utf8Size_toUpper 0 (by decide)
  · obtain ⟨d, hd, rfl⟩ := exists_digit_of_mem hdigit
    exact utf8Size_toUpper d hd

end Library.Hex
