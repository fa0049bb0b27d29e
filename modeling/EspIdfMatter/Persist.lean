import EspIdfMatter.Btp
import EspIdfMatter.Library.Hex
import EspIdfMatter.Library.Machine
import EspIdfMatter.Library.Register

/-! The store of BLOBs on a namespace of the NVS. The NVS is a parameter, of which only the contents
matter. -/

namespace EspIdfMatter.Persist

open Library Library.Machine Register

/-- `String<5>`, of characters of one byte each -/
abbrev SKey := BoundedVec Char 5

/-- `ErrorCode::StdIoError`, to which all errors of the NVS are converted -/
inductive PersistError where
  | stdIoError
  deriving DecidableEq

/-- `to_persist_error` -/
def toPersistError (_ : EspError) : PersistError := .stdIoError

/-- `EspNvs`, over its state `ν`. -/
structure Nvs (ν : Type) where
  getBlob : ν → List Char → Nat → Except EspError (Option Bytes)
  setBlob : ν → List Char → Bytes → ν × Except EspError Unit
  remove : ν → List Char → ν × Except EspError Bool
  content : ν → List Char → Option Bytes

variable {ν : Type}

/-- What a write that was asked for some value did to the contents. -/
structure Nvs.Writes (S : Nvs ν) (s : ν) (name : List Char) (value : Option Bytes) (s' : ν) (done : Bool) :
    Prop where
  others : ∀ name', name' ≠ name → S.content s' name' = S.content s name'
  done : done = true → S.content s' name = value
  failed : S.content s' name = value ∨ S.content s' name = S.content s name ∨ S.content s' name = none

/-- The names are independent, and a write that fails leaves the old value, the new one or nothing:
`EspNvs::set_blob` erases the key before it writes. -/
structure Nvs.Lawful (S : Nvs ν) : Prop where
  getBlob : ∀ s name len value, S.getBlob s name len = .ok value → value = S.content s name
  setBlob : ∀ s name data, S.Writes s name (some data) (S.setBlob s name data).1
    (S.setBlob s name data).2.isOk
  remove : ∀ s name, S.Writes s name none (S.remove s name).1 (S.remove s name).2.isOk

/-! ### Keys -/

/-- `none` is a failed `unwrap`, of a key that does not fit. -/
def skey (key : UInt16) : Option SKey := BoundedVec.empty.extendFromSlice (Hex.lower 4 key.toNat)

/-- The name of a key. -/
def keyName (key : UInt16) : List Char := Hex.lower 4 key.toNat

/-! ### Operations -/

/-- The operations are given the length of the buffer, or the data. -/
inductive Op where
  | load (key : UInt16) (len : Nat)
  | store (key : UInt16) (data : Bytes)
  | remove (key : UInt16)

inductive Obs where
  | panicked
  | loaded (key : UInt16) (result : Except PersistError (Option Bytes))
  | wrote (key : UInt16) (value : Option Bytes) (result : Except PersistError Unit)

/-- `EspKvBlobStore::load` -/
def load (S : Nvs ν) (s : ν) (key : UInt16) (len : Nat) : Obs :=
  match skey key with
  | none => .panicked
  | some name => .loaded key ((S.getBlob s name.toList len).mapError toPersistError)

/-- `EspKvBlobStore::store` -/
def store (S : Nvs ν) (s : ν) (key : UInt16) (data : Bytes) : ν × Obs :=
  match skey key with
  | none => (s, .panicked)
  | some name =>
      let set := S.setBlob s name.toList data
      (set.1, .wrote key (some data) (set.2.mapError toPersistError))

/-- `EspKvBlobStore::remove` -/
def remove (S : Nvs ν) (s : ν) (key : UInt16) : ν × Obs :=
  match skey key with
  | none => (s, .panicked)
  | some name =>
      let removed := S.remove s name.toList
      (removed.1, .wrote key none ((removed.2.map fun _ => ()).mapError toPersistError))

def step (S : Nvs ν) (s : ν) : Op → ν × List Obs
  | .load key len => (s, [load S s key len])
  | .store key data => ((store S s key data).1, [(store S s key data).2])
  | .remove key => ((remove S s key).1, [(remove S s key).2])

/-- The write of this key. -/
def Obs.write? (key : UInt16) : Obs → Option (Write (Option Bytes))
  | .wrote key' value result => if key' = key then some ⟨value, result.isOk⟩ else none
  | _ => none

/-! ### What the operations do -/

/-- **The key fits**, exactly. -/
theorem skey_eq (key : UInt16) :
    ∃ h : (keyName key).length ≤ 5, skey key = some ⟨keyName key, h⟩ ∧ (keyName key).length = 4 := by
  have hlen : (keyName key).length = 4 := Hex.length_lower (by decide) key.toNat_lt
  have hfits : (keyName key).length ≤ 5 := by omega
  exact ⟨hfits, BoundedVec.extendFromSlice_empty hfits, hlen⟩

theorem keyName_injective : Function.Injective keyName :=
  fun _ _ h => UInt16.toNat_inj.mp (Hex.lower_injective 4 h)

section Run

variable {S : Nvs ν} {init s : ν} {history : List Obs}

/-- A load finds what its key may hold after what came before. -/
def Finds (S : Nvs ν) (init : ν) (before : List Obs) (obs : Obs) : Prop :=
  obs ≠ .panicked ∧ ∀ key value, obs = .loaded key (.ok value) →
    Possible none (S.content init (keyName key)) (before.filterMap (Obs.write? key)) value

/-- What the namespace holds after some operations. -/
structure Holds (S : Nvs ν) (init : ν) (history : List Obs) (s : ν) : Prop where
  keys : ∀ key, Possible none (S.content init (keyName key)) (history.filterMap (Obs.write? key))
    (S.content s (keyName key))
  others : ∀ name, (∀ key, keyName key ≠ name) → S.content s name = S.content init name
  loads : Throughout (Finds S init) history

theorem holds_nil (S : Nvs ν) (s : ν) : Holds S s [] s where
  keys := fun _ => possible_nil none _
  others := fun _ _ => rfl
  loads := throughout_nil _

theorem Holds.load (h : Holds S init history s) (hS : S.Lawful) (key : UInt16) (len : Nat) :
    Holds S init (history ++ [Persist.load S s key len]) s := by
  obtain ⟨hfits, hskey, -⟩ := skey_eq key
  have hload : Persist.load S s key len =
      .loaded key ((S.getBlob s (keyName key) len).mapError toPersistError) := by
    simp only [Persist.load, hskey]
  rw [hload]
  refine ⟨fun key' => ?_, h.others, throughout_concat.mpr ⟨h.loads, Obs.noConfusion, ?_⟩⟩
  · rw [List.filterMap_append]
    exact (List.append_nil _).symm ▸ h.keys key'
  · intro key' value hvalue
    cases hget : S.getBlob s (keyName key) len with
    | error e =>
        rw [hget] at hvalue
        cases hvalue
    | ok found =>
        rw [hget] at hvalue
        cases hvalue
        rw [hS.getBlob s _ len value hget]
        exact h.keys key

/-- A write changes its own key alone. -/
theorem Holds.write (h : Holds S init history s) {key : UInt16} {value : Option Bytes} {s' : ν}
    {result : Except PersistError Unit} (hwrites : S.Writes s (keyName key) value s' result.isOk) :
    Holds S init (history ++ [.wrote key value result]) s' := by
  refine ⟨fun key' => ?_, fun name hname => ?_, throughout_concat.mpr ⟨h.loads, Obs.noConfusion, ?_⟩⟩
  · rw [List.filterMap_append]
    by_cases hkey : key = key'
    · subst hkey
      have hwrite : [Obs.wrote key value result].filterMap (Obs.write? key) = [⟨value, result.isOk⟩] :=
        List.filterMap_cons_some (if_pos rfl)
      rw [hwrite]
      cases hdone : result.isOk with
      | true =>
          rw [hwrites.done hdone]
          exact possible_written _ _ _ ⟨value, true⟩
      | false =>
          rcases hwrites.failed with hnew | hold | hnone
          · rw [hnew]
            exact possible_written _ _ _ ⟨value, false⟩
          · rw [hold]
            exact (h.keys key).kept rfl
          · rw [hnone]
            exact possible_blank _ _ _ rfl
    · have hwrite : [Obs.wrote key value result].filterMap (Obs.write? key') = [] :=
        List.filterMap_cons_none (if_neg hkey)
      rw [hwrite, List.append_nil, hwrites.others _ fun heq => hkey (keyName_injective heq).symm]
      exact h.keys key'
  · rw [hwrites.others name fun heq => hname key heq.symm]
    exact h.others name hname
  · intro key' value' hvalue
    cases hvalue

theorem isOk_mapError {ε ε' α : Type} (f : ε → ε') (x : Except ε α) : (x.mapError f).isOk = x.isOk := by
  cases x <;> rfl

theorem Holds.step (h : Holds S init history s) (hS : S.Lawful) (op : Op) :
    Holds S init (history ++ (step S s op).2) (step S s op).1 := by
  cases op with
  | load key len => exact h.load hS key len
  | store key data =>
      obtain ⟨hfits, hskey, -⟩ := skey_eq key
      have hwrites := hS.setBlob s (keyName key) data
      simp only [Persist.step, store, hskey]
      refine h.write ?_
      rw [isOk_mapError]
      exact hwrites
  | remove key =>
      obtain ⟨hfits, hskey, -⟩ := skey_eq key
      have hwrites := hS.remove s (keyName key)
      have hdone : ((S.remove s (keyName key)).2.map fun _ => ()).isOk =
          (S.remove s (keyName key)).2.isOk := by
        cases (S.remove s (keyName key)).2 <;> rfl
      simp only [Persist.step, remove, hskey]
      refine h.write ?_
      rw [isOk_mapError, hdone]
      exact hwrites

/-- **A load finds what was stored last under its key**, whatever was stored under other keys. Only where
later writes to the key have failed may it find what one of these was to write, or what they were to
replace, or nothing. No key panics, and what is stored under other names is left alone. -/
theorem loads_what_was_stored (hS : S.Lawful) (s : ν) (ops : List Op) :
    Holds S s (outputs (step S) s ops) (after (step S) s ops) :=
  run_induction (step S) (I := fun history s' _ => Holds S s history s')
    (fun _ _ op _ h => h.step hS op) (h := []) (holds_nil S s)

end Run

/-! ### An NVS in memory -/

/-- An NVS that holds its contents in a list. A key is erased before it is written, and where `full` every
write fails after that. -/
def Nvs.listed (full : Bool) : Nvs (List (List Char × Bytes)) where
  getBlob := fun s name len =>
    match s.lookup name with
    | none => .ok none
    | some data => if data.length ≤ len then .ok (some data) else .error ⟨4364⟩
  setBlob := fun s name data =>
    let erased := s.filter fun entry => entry.1 != name
    if full = true then (erased, .error ⟨4357⟩) else ((name, data) :: erased, .ok ())
  remove := fun s name => (s.filter fun entry => entry.1 != name, .ok true)
  content := fun s name => s.lookup name

theorem lookup_filter_ne (s : List (List Char × Bytes)) (name name' : List Char) :
    (s.filter fun entry => entry.1 != name).lookup name' =
      if name' = name then none else s.lookup name' := by
  induction s with
  | nil => simp
  | cons entry s ih =>
      by_cases hentry : entry.1 = name
      · rw [List.filter_cons_of_neg (by simp [hentry]), ih]
        split
        · rfl
        · rename_i hne
          rw [List.lookup_cons, beq_false_of_ne (hentry ▸ hne)]
      · rw [List.filter_cons_of_pos (by simp [hentry]), List.lookup_cons, List.lookup_cons, ih]
        by_cases hname : name' = name
        · rw [if_pos hname, beq_false_of_ne fun heq => hentry (heq.symm.trans hname), if_pos hname]
        · rw [if_neg hname, if_neg hname]

theorem Nvs.listed_lawful (full : Bool) : (Nvs.listed full).Lawful where
  getBlob := by
    intro s name len value hget
    simp only [Nvs.listed] at hget ⊢
    split at hget
    · rename_i hnone
      cases hget
      exact hnone.symm
    · rename_i data hsome
      split at hget
      · cases hget
        exact hsome.symm
      · cases hget
  setBlob := by
    intro s name data
    have hgone : (s.filter fun entry => entry.1 != name).lookup name = none := by
      rw [lookup_filter_ne, if_pos rfl]
    have hothers : ∀ name', name' ≠ name →
        (s.filter fun entry => entry.1 != name).lookup name' = s.lookup name' := by
      intro name' hne
      rw [lookup_filter_ne, if_neg hne]
    simp only [Nvs.listed]
    split
    · exact ⟨hothers, Bool.noConfusion, .inr (.inr hgone)⟩
    · have hnew : ((name, data) :: s.filter fun entry => entry.1 != name).lookup name = some data := by
        rw [List.lookup_cons, beq_self_eq_true]
      refine ⟨fun name' hne => ?_, fun _ => hnew, .inl hnew⟩
      change ((name, data) :: s.filter fun entry => entry.1 != name).lookup name' = s.lookup name'
      rw [List.lookup_cons, beq_false_of_ne hne]
      exact hothers name' hne
  remove := by
    intro s name
    have hgone : (s.filter fun entry => entry.1 != name).lookup name = none := by
      rw [lookup_filter_ne, if_pos rfl]
    refine ⟨fun name' hne => ?_, fun _ => hgone, .inl hgone⟩
    simp only [Nvs.listed]
    rw [lookup_filter_ne, if_neg hne]

/-- Two keys, one of which is stored twice and loaded. -/
def storingOps : List Op :=
  [.store 0x1f [1], .store 0xf1 [2], .store 0x1f [3, 4], .load 0x1f 8, .remove 0xf1, .load 0xf1 8]

theorem loads_what_was_stored_listed :
    Holds (.listed false) [] (outputs (step (.listed false)) [] storingOps)
      (after (step (.listed false)) [] storingOps) ∧
    Holds (.listed true) [] (outputs (step (.listed true)) [] storingOps)
      (after (step (.listed true)) [] storingOps) :=
  ⟨loads_what_was_stored (Nvs.listed_lawful false) [] storingOps,
    loads_what_was_stored (Nvs.listed_lawful true) [] storingOps⟩

end EspIdfMatter.Persist
