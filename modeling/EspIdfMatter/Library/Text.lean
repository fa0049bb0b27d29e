import Mathlib

/-! Strings of bounded size, in bytes. A character or a piece of text goes in whole, or not at all. -/

namespace Library

abbrev BoundedString (n : Nat) := { s : String // s.utf8ByteSize ≤ n }

/-- A text of characters of one byte each. -/
theorem utf8ByteSize_ofList {cs : List Char} (h : ∀ c ∈ cs, c.utf8Size = 1) :
    (String.ofList cs).utf8ByteSize = cs.length := by
  induction cs with
  | nil => rfl
  | cons c cs ih =>
      obtain ⟨hc, hcs⟩ := List.forall_mem_cons.mp h
      rw [String.ofList_cons, String.utf8ByteSize_append, ih hcs, String.utf8ByteSize_singleton, hc,
        List.length_cons, Nat.add_comm]

/-! ### Texts as bytes -/

theorem fromUTF8?_eq_some_iff {bytes : ByteArray} {s : String} :
    String.fromUTF8? bytes = some s ↔ s.toUTF8 = bytes := by
  unfold String.fromUTF8?
  split
  · next h =>
      rw [Option.some.injEq]
      constructor
      · rintro rfl
        rfl
      · rintro rfl
        rfl
  · next h =>
      refine iff_of_false (Option.some_ne_none s).symm ?_
      rintro rfl
      exact h s.isValidUTF8

/-- These bytes spell the text; bytes that spell none count as the replacement. -/
def Spells (replacement : String) (bytes : List UInt8) (text : String) : Prop :=
  text.toUTF8 = ⟨bytes.toArray⟩ ∨ (∀ other : String, other.toUTF8 ≠ ⟨bytes.toArray⟩) ∧ text = replacement

theorem spells_getD (replacement : String) (bytes : List UInt8) :
    Spells replacement bytes ((String.fromUTF8? ⟨bytes.toArray⟩).getD replacement) := by
  cases htext : String.fromUTF8? ⟨bytes.toArray⟩ with
  | some text => exact .inl (fromUTF8?_eq_some_iff.mp htext)
  | none =>
      refine .inr ⟨fun other hother => ?_, rfl⟩
      rw [← fromUTF8?_eq_some_iff, htext] at hother
      cases hother

/-! ### Bounded strings -/

namespace BoundedString

variable {n : Nat}

def empty : BoundedString n := ⟨"", Nat.zero_le n⟩

def push (s : BoundedString n) (c : Char) : Option (BoundedString n) :=
  if h : (s.val.push c).utf8ByteSize ≤ n then some ⟨s.val.push c, h⟩ else none

def pushStr (s : BoundedString n) (t : String) : Option (BoundedString n) :=
  if h : (s.val ++ t).utf8ByteSize ≤ n then some ⟨s.val ++ t, h⟩ else none

/-- Append characters, up to the first that does not fit. -/
def pushChars (s : BoundedString n) : List Char → BoundedString n
  | [] => s
  | c :: cs =>
      match s.push c with
      | none => s
      | some s => pushChars s cs

/-- Append pieces of text, up to the first that does not fit; the result says whether all of them did. -/
def write (s : BoundedString n) : List String → BoundedString n × Bool
  | [] => (s, true)
  | t :: ts =>
      match s.pushStr t with
      | none => (s, false)
      | some s => write s ts

theorem push_eq_some {s s' : BoundedString n} {c : Char} (h : s.push c = some s') :
    s'.val = s.val.push c := by
  unfold push at h
  split at h
  · cases h
    rfl
  · cases h

theorem push_eq_none {s : BoundedString n} {c : Char} (h : s.push c = none) :
    n < s.val.utf8ByteSize + c.utf8Size := by
  unfold push at h
  split at h
  · cases h
  · rename_i hsize
    rw [String.utf8ByteSize_push] at hsize
    omega

/-- **What is appended is a longest beginning of the characters that fits.** -/
theorem pushChars_longest (s : BoundedString n) (cs : List Char) :
    ∃ taken rest, cs = taken ++ rest ∧ (pushChars s cs).val.toList = s.val.toList ++ taken ∧
      ∀ c rest', rest = c :: rest' → n < (pushChars s cs).val.utf8ByteSize + c.utf8Size := by
  induction cs generalizing s with
  | nil =>
      refine ⟨[], [], rfl, (List.append_nil _).symm, ?_⟩
      intro c rest' h
      cases h
  | cons c cs ih =>
      rw [pushChars]
      cases hpush : s.push c with
      | none =>
          refine ⟨[], c :: cs, rfl, (List.append_nil _).symm, ?_⟩
          intro c' rest' h
          cases h
          exact push_eq_none hpush
      | some s' =>
          obtain ⟨taken, rest, hsplit, htaken, hfull⟩ := ih s'
          refine ⟨c :: taken, rest, ?_, ?_, hfull⟩
          · rw [hsplit, List.cons_append]
          · show (pushChars s' cs).val.toList = s.val.toList ++ c :: taken
            rw [htaken, push_eq_some hpush, String.toList_push, List.append_assoc, List.singleton_append]

theorem pushStr_eq_some {s s' : BoundedString n} {t : String} (h : s.pushStr t = some s') :
    s'.val = s.val ++ t := by
  unfold pushStr at h
  split at h
  · cases h
    rfl
  · cases h

theorem pushStr_eq_none {s : BoundedString n} {t : String} (h : s.pushStr t = none) :
    n < s.val.utf8ByteSize + t.utf8ByteSize := by
  unfold pushStr at h
  split at h
  · cases h
  · rename_i hsize
    rw [String.utf8ByteSize_append] at hsize
    omega

/-- **What is written is a longest beginning of the pieces that fits.** -/
theorem write_longest (s : BoundedString n) (ts : List String) :
    ∃ taken rest, ts = taken ++ rest ∧
      (s.write ts).1.val.toList = s.val.toList ++ taken.flatMap String.toList ∧
      ∀ t rest', rest = t :: rest' → n < (s.write ts).1.val.utf8ByteSize + t.utf8ByteSize := by
  induction ts generalizing s with
  | nil =>
      refine ⟨[], [], rfl, (List.append_nil _).symm, ?_⟩
      intro t rest' h
      cases h
  | cons t ts ih =>
      rw [write]
      cases hpush : s.pushStr t with
      | none =>
          refine ⟨[], t :: ts, rfl, (List.append_nil _).symm, ?_⟩
          intro t' rest' h
          cases h
          exact pushStr_eq_none hpush
      | some s' =>
          obtain ⟨taken, rest, hsplit, htaken, hfull⟩ := ih s'
          refine ⟨t :: taken, rest, ?_, ?_, hfull⟩
          · rw [hsplit, List.cons_append]
          · show (s'.write ts).1.val.toList = s.val.toList ++ (t :: taken).flatMap String.toList
            rw [htaken, pushStr_eq_some hpush, String.toList_append, List.append_assoc, List.flatMap_cons]

/-- All of the pieces, if there is room. -/
theorem write_of_fits (s : BoundedString n) (ts : List String)
    (h : s.val.utf8ByteSize + (ts.map String.utf8ByteSize).sum ≤ n) :
    (s.write ts).2 = true ∧ (s.write ts).1.val.toList = s.val.toList ++ ts.flatMap String.toList := by
  induction ts generalizing s with
  | nil => exact ⟨rfl, (List.append_nil _).symm⟩
  | cons t ts ih =>
      rw [List.map_cons, List.sum_cons] at h
      have hsize : (s.val ++ t).utf8ByteSize ≤ n := by
        rw [String.utf8ByteSize_append]
        omega
      have hpush : s.pushStr t = some ⟨s.val ++ t, hsize⟩ := dif_pos hsize
      rw [write, hpush]
      obtain ⟨hall, hval⟩ := ih ⟨s.val ++ t, hsize⟩ (by
        show (s.val ++ t).utf8ByteSize + (ts.map String.utf8ByteSize).sum ≤ n
        rw [String.utf8ByteSize_append]
        omega)
      refine ⟨hall, hval.trans ?_⟩
      rw [String.toList_append, List.flatMap_cons, List.append_assoc]

theorem write_empty_of_fits {ts : List String} (h : (ts.map String.utf8ByteSize).sum ≤ n) :
    ((empty : BoundedString n).write ts).1.val.toList = ts.flatMap String.toList := by
  refine (write_of_fits empty ts ?_).2
  show "".utf8ByteSize + (ts.map String.utf8ByteSize).sum ≤ n
  rw [String.utf8ByteSize_empty, Nat.zero_add]
  exact h

end BoundedString

end Library
