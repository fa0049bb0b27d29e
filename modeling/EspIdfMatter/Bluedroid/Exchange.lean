import EspIdfMatter.Bluedroid.Context
import EspIdfMatter.Library.Epoch

/-! Acknowledging after processing. On one connection, a `C1` write is handed to the engine next, or
never; and it is responded to right after the engine took it, or never. So each write is handed over
and responded to at most once, and in order. -/

namespace EspIdfMatter.Bluedroid.Exchange

open Library Library.Machine

inductive Obs where
  /-- a connection becomes the tracked one -/
  | recorded (conn : Handle)
  /-- there is no tracked connection any more -/
  | dropped
  /-- a `C1` write on the tracked connection -/
  | wrote (transId : TransferId) (data : Bytes)
  /-- a payload is handed to the engine, which answers this -/
  | handed (data : Bytes) (result : Except ErrorCode Unit)
  /-- a response is sent, other than to a write of the CCCD -/
  | responded (conn : Handle) (transId : TransferId)
  deriving DecidableEq

def Obs.mark : Obs → Epoch.Mark Handle
  | .recorded conn => .opens conn
  | .dropped => .closes
  | _ => .inside

/-- The tracked connection, and what happened since it was recorded. -/
abbrev current (history : List Obs) : Option (Handle × List Obs) :=
  Epoch.current Obs.mark history

/-- What may happen after a history. -/
def Permitted (history : List Obs) : Obs → Prop
  | .handed data _ => ∃ conn older transId, current history = some (conn, older ++ [.wrote transId data])
  | .responded conn transId => ∃ older data,
      current history = some (conn, older ++ [.wrote transId data, .handed data (.ok ())])
  | _ => True

/-- An observation inside a connection does not end it. -/
theorem current_fst_inside {e : Obs} (he : e.mark = .inside) (history : List Obs) :
    (current (history ++ [e])).map Prod.fst = (current history).map Prod.fst := by
  rw [current, Epoch.current_inside he, Option.map_map]
  rfl

/-- The last write is handed over, taken, and responded to. -/
theorem permitted_answer {history : List Obs} (h : Throughout Permitted history) {conn : Handle}
    {older : List Obs} {transId : TransferId} {data : Bytes}
    (hcur : current history = some (conn, older ++ [.wrote transId data])) :
    Throughout Permitted (history ++ [.handed data (.ok ()), .responded conn transId]) := by
  have hcur' := Epoch.current_inside_some (e := Obs.handed data (.ok ())) rfl hcur
  rw [List.append_assoc] at hcur'
  have hhanded : Throughout Permitted (history ++ [.handed data (.ok ())]) :=
    throughout_concat.mpr ⟨h, conn, older, transId, hcur⟩
  rw [List.append_cons]
  exact throughout_concat.mpr ⟨hhanded, older, data, hcur'⟩

/-! ### The log of one connection -/

/-- The transaction ids and payloads written. -/
def writes (log : List Obs) : List (TransferId × Bytes) :=
  log.filterMap fun
    | .wrote transId data => some (transId, data)
    | _ => none

/-- The payloads handed to the engine. -/
def handed (log : List Obs) : List Bytes :=
  log.filterMap fun
    | .handed data _ => some data
    | _ => none

/-- The responses sent. -/
def responded (log : List Obs) : List (Handle × TransferId) :=
  log.filterMap fun
    | .responded conn transId => some (conn, transId)
    | _ => none

/-- What may happen on a connection after this much of its log. -/
def Next (conn : Handle) (log : List Obs) : Obs → Prop
  | .handed data _ => ∃ older transId, log = older ++ [.wrote transId data]
  | .responded conn' transId => conn' = conn ∧
      ∃ older data, log = older ++ [.wrote transId data, .handed data (.ok ())]
  | _ => True

theorem next_of_permitted {history : List Obs} {e : Obs} {conn : Handle} {log : List Obs}
    (hcur : current history = some (conn, log)) (h : Permitted history e) : Next conn log e := by
  cases e with
  | handed data result =>
      obtain ⟨conn', older, transId, hcur'⟩ := h
      obtain ⟨rfl, rfl⟩ := Prod.mk.inj (Option.some.inj (hcur.symm.trans hcur'))
      exact ⟨older, transId, rfl⟩
  | responded conn' transId =>
      obtain ⟨older, data, hcur'⟩ := h
      obtain ⟨rfl, rfl⟩ := Prod.mk.inj (Option.some.inj (hcur.symm.trans hcur'))
      exact ⟨rfl, older, data, rfl⟩
  | _ => trivial

/-- Each handing belongs to a write of its own, and each response to a handing of its own. -/
theorem sublists_of_throughout {conn : Handle} {log : List Obs} (h : Throughout (Next conn) log) :
    (handed log).Sublist ((writes log).map Prod.snd) ∧
      (responded log).Sublist ((writes log).map fun write => (conn, write.1)) := by
  -- by induction on the length: a handing or a response takes its write out of the log with it
  induction hn : log.length using Nat.strong_induction_on generalizing log with
  | _ n ih =>
      rcases List.eq_nil_or_concat log with rfl | ⟨before, e, rfl⟩
      · exact ⟨List.Sublist.refl _, List.Sublist.refl _⟩
      rw [List.concat_eq_append] at h hn ⊢
      obtain ⟨hbefore, hlast⟩ := throughout_concat.mp h
      rw [List.length_append, List.length_singleton] at hn
      obtain ⟨hhanded, hresponded⟩ := ih before.length (by omega) hbefore rfl
      cases e with
      | wrote transId data =>
          simp only [handed, responded, writes, List.filterMap_append] at hhanded hresponded ⊢
          simpa using ⟨hhanded.trans (List.sublist_append_left _ _),
            hresponded.trans (List.sublist_append_left _ _)⟩
      | handed data result =>
          obtain ⟨older, transId, rfl⟩ := hlast
          obtain ⟨holder, -⟩ := ih older.length (by simp at hn; omega)
            (throughout_concat.mp hbefore).1 rfl
          refine ⟨?_, ?_⟩
          · simp only [handed, writes, List.filterMap_append] at holder ⊢
            simpa using holder
          · simpa [responded, writes] using hresponded
      | responded conn' transId =>
          obtain ⟨rfl, older, data, rfl⟩ := hlast
          rw [show (older ++ [.wrote transId data, .handed data (.ok ())] : List Obs) =
            older ++ [.wrote transId data] ++ [.handed data (.ok ())] by simp] at hbefore
          obtain ⟨-, holder⟩ := ih older.length (by simp at hn; omega)
            (throughout_concat.mp (throughout_concat.mp hbefore).1).1 rfl
          refine ⟨?_, ?_⟩
          · simpa [handed, writes] using hhanded
          · simp only [responded, writes, List.filterMap_append] at holder ⊢
            simpa using holder
      | _ =>
          simp only [handed, responded, writes, List.filterMap_append] at hhanded hresponded ⊢
          simpa using ⟨hhanded, hresponded⟩

/-- What the peer of every connection may rely on. -/
structure Acknowledged (history : List Obs) : Prop where
  permitted : Throughout Permitted history
  handed : ∀ conn log, current history = some (conn, log) →
    (handed log).Sublist ((writes log).map Prod.snd)
  responded : ∀ conn log, current history = some (conn, log) →
    (responded log).Sublist ((writes log).map fun write => (conn, write.1))

theorem acknowledged_of_throughout {history : List Obs} (h : Throughout Permitted history) :
    Acknowledged history := by
  have hnext : ∀ conn log, current history = some (conn, log) → Throughout (Next conn) log :=
    fun conn log hcur =>
      Epoch.throughout_current (Q := Next) (fun _ _ _ _ hcur' he => next_of_permitted hcur' he) h hcur
  exact ⟨h, fun conn log hcur => (sublists_of_throughout (hnext conn log hcur)).1,
    fun conn log hcur => (sublists_of_throughout (hnext conn log hcur)).2⟩

end EspIdfMatter.Bluedroid.Exchange
