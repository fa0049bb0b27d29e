import EspIdfMatter.Btp
import EspIdfMatter.Library.Epoch

/-! What a BTP peripheral owes its peers, whatever Bluetooth host is below it. One connection at a
time is tracked; everything the peripheral does with the BTP engine, and everything it indicates,
belongs to that connection: the engine was reset for it, the bytes came over it, and it asked for
indications.

The obligations are stated on the history alone (`Isolated`). `Act` is an abstract peripheral that
meets them, on the little of the state that matters. -/

namespace EspIdfMatter.Session

open Library Library.Machine

/-- What an observer of one peripheral sees. -/
inductive Obs where
  /-- a connection becomes the tracked one -/
  | recorded (conn : Handle)
  /-- there is no tracked connection any more -/
  | dropped
  /-- a well-formed report on the `C2` subscription of the tracked connection -/
  | reported (indications : Bool)
  /-- an accepted `C1` write -/
  | wrote (data : Bytes)
  | btp (call : BtpCall)
  | indicate (conn : Handle) (data : Bytes)
  deriving DecidableEq

def Obs.mark : Obs → Epoch.Mark Handle
  | .recorded conn => .opens conn
  | .dropped => .closes
  | _ => .inside

/-- The tracked connection, and what happened since it was recorded. -/
abbrev current (history : List Obs) : Option (Handle × List Obs) :=
  Epoch.current Obs.mark history

/-- The last report on the `C2` subscription. -/
def lastReport (log : List Obs) : Option Bool :=
  (log.filterMap fun
    | .reported indications => some indications
    | _ => none).getLast?

/-- What may happen after a history. -/
def Permitted (history : List Obs) : Obs → Prop
  | .btp (.processIncoming _ _ data _) => ∃ conn log, current history = some (conn, log) ∧
      .btp .reset ∈ log ∧ .wrote data ∈ log
  | .btp (.processOutgoing _ _) => ∃ conn log, current history = some (conn, log) ∧
      .btp .reset ∈ log
  | .indicate conn data => ∃ log older newer mtu, current history = some (conn, log) ∧
      log = older ++ .btp .reset :: newer ∧ .btp (.processOutgoing mtu (.ok data)) ∈ newer ∧
      lastReport log = some true
  | _ => True

/-- Nothing in the history crosses the border between two connections. -/
def Isolated (history : List Obs) : Prop := Throughout Permitted history

/-! ### The abstract peripheral -/

structure View where
  conn : Option Handle
  /-- the engine was reset for the tracked connection -/
  synced : Bool
  subscribed : Bool
  /-- the `C1` payload waiting for the engine, if any -/
  slot : Bytes

/-- One thing an isolating peripheral does. -/
inductive Act : View → List Obs → View → Prop where
  | record (v : View) (conn : Handle) : Act v [.recorded conn] ⟨some conn, false, false, []⟩
  | drop (v v' : View) (hconn : v'.conn = none) : Act v [.dropped] v'
  | report (v : View) (indications subscribed : Bool)
      (hreport : subscribed = true → indications = true) :
      Act v [.reported indications] { v with subscribed }
  | write (v : View) (data : Bytes) : Act v [.wrote data] { v with slot := data }
  | clear (v : View) : Act v [] { v with slot := [] }
  | reset (v : View) : Act v [.btp .reset] { v with synced := true }
  | hand (v : View) (mtu : Option UInt16) (peer : BtAddr) (result : Except ErrorCode Unit)
      (hconn : v.conn ≠ none) (hsynced : v.synced = true) (hslot : v.slot ≠ []) :
      Act v [.btp (.processIncoming mtu peer v.slot result)] v
  | ask (v : View) (mtu : Option UInt16) (result : Except ErrorCode Bytes)
      (hconn : v.conn ≠ none) (hsynced : v.synced = true) :
      Act v [.btp (.processOutgoing mtu result)] v
  | send (v : View) (conn : Handle) (mtu : Option UInt16) (data : Bytes)
      (hconn : v.conn = some conn) (hsynced : v.synced = true) (hsub : v.subscribed = true) :
      Act v [.btp (.processOutgoing mtu (.ok data)), .indicate conn data] v

/-- A sequence of acts. -/
inductive Acts : View → List Obs → View → Prop where
  | refl (v : View) : Acts v [] v
  | tail {v v' v'' : View} {es es' : List Obs} (hacts : Acts v es v') (hact : Act v' es' v'') :
      Acts v (es ++ es') v''

theorem Act.acts {v v' : View} {es : List Obs} (h : Act v es v') : Acts v es v' := by
  simpa using Acts.tail (.refl v) h

theorem Acts.trans {v v' v'' : View} {es es' : List Obs} (h : Acts v es v')
    (h' : Acts v' es' v'') : Acts v (es ++ es') v'' := by
  induction h' with
  | refl => simpa using h
  | tail _ hact ih =>
      rw [← List.append_assoc]
      exact ih.tail hact

/-- The view is what the history leads to. -/
structure Matches (history : List Obs) (v : View) : Prop where
  conn : (current history).map Prod.fst = v.conn
  synced : ∀ conn log, current history = some (conn, log) → v.synced = true → .btp .reset ∈ log
  subscribed : ∀ conn log, current history = some (conn, log) → v.subscribed = true →
    lastReport log = some true
  slot : ∀ conn log, current history = some (conn, log) → v.slot ≠ [] → .wrote v.slot ∈ log

theorem lastReport_concat (log : List Obs) (e : Obs) :
    lastReport (log ++ [e]) = match e with
      | .reported indications => some indications
      | _ => lastReport log := by
  cases e <;> simp [lastReport, List.filterMap_append]

/-- What the view gains through an inner observation is backed by that observation. -/
theorem Matches.inner {history : List Obs} {v v' : View} (hm : Matches history v) {e : Obs}
    (he : e.mark = .inside) (hconn : v'.conn = v.conn)
    (hsynced : v'.synced = true → v.synced = true ∨ e = .btp .reset)
    (hsub : v'.subscribed = true → ∀ log, (v.subscribed = true → lastReport log = some true) →
      lastReport (log ++ [e]) = some true)
    (hslot : v'.slot ≠ [] → v'.slot = v.slot ∨ e = .wrote v'.slot) :
    Matches (history ++ [e]) v' := by
  constructor
  · rw [current, Epoch.current_inside he, Option.map_map, hconn]
    exact hm.conn
  · intro conn log hcur hs
    obtain ⟨log', hcur', rfl⟩ := Epoch.eq_concat_of_current_inside he hcur
    rcases hsynced hs with hold | rfl
    · exact List.mem_append_left _ (hm.synced conn log' hcur' hold)
    · exact List.mem_append_right _ (List.mem_singleton_self _)
  · intro conn log hcur hs
    obtain ⟨log', hcur', rfl⟩ := Epoch.eq_concat_of_current_inside he hcur
    exact hsub hs log' (hm.subscribed conn log' hcur')
  · intro conn log hcur hs
    obtain ⟨log', hcur', rfl⟩ := Epoch.eq_concat_of_current_inside he hcur
    rcases hslot hs with hold | hnew
    · rw [hold] at hs ⊢
      exact List.mem_append_left _ (hm.slot conn log' hcur' hs)
    · rw [hnew]
      exact List.mem_append_right _ (List.mem_singleton_self _)

/-- An inner observation that leaves the view alone. -/
theorem Matches.stutter {history : List Obs} {v : View} (hm : Matches history v) {e : Obs}
    (he : e.mark = .inside) (hreport : ∀ b, e ≠ .reported b) : Matches (history ++ [e]) v := by
  refine hm.inner he rfl Or.inl (fun hs log hlog => ?_) (fun _ => Or.inl rfl)
  rw [lastReport_concat]
  cases e with
  | reported b => exact absurd rfl (hreport b)
  | _ => exact hlog hs

theorem Matches.current_eq {history : List Obs} {v : View} (hm : Matches history v)
    {conn : Handle} (hconn : v.conn = some conn) : ∃ log, current history = some (conn, log) := by
  have h := hm.conn
  rw [hconn, Option.map_eq_some_iff] at h
  obtain ⟨⟨conn', log⟩, hcur, rfl⟩ := h
  exact ⟨log, hcur⟩

/-- **One act keeps the obligations.** -/
theorem Act.sound {v v' : View} {es : List Obs} (hact : Act v es v') {history : List Obs}
    (hiso : Isolated history) (hm : Matches history v) :
    Isolated (history ++ es) ∧ Matches (history ++ es) v' := by
  cases hact with
  | record conn =>
      refine ⟨throughout_concat.mpr ⟨hiso, trivial⟩, ?_⟩
      have hcur : current (history ++ [.recorded conn]) = some (conn, []) := Epoch.current_opens rfl
      constructor
      · rw [hcur]
        rfl
      · intro conn' log _ h
        cases h
      · intro conn' log _ h
        cases h
      · intro conn' log _ h
        exact absurd rfl h
  | drop _ hconn =>
      refine ⟨throughout_concat.mpr ⟨hiso, trivial⟩, ?_⟩
      have hcur : current (history ++ [.dropped]) = none := Epoch.current_closes rfl
      constructor
      · rw [hcur, hconn]
        rfl
      all_goals
        intro conn' log h
        rw [hcur] at h
        cases h
  | report indications subscribed hreport =>
      refine ⟨throughout_concat.mpr ⟨hiso, trivial⟩, ?_⟩
      refine hm.inner (e := .reported indications) rfl rfl Or.inl (fun hs log _ => ?_)
        (fun _ => Or.inl rfl)
      rw [lastReport_concat]
      exact congrArg some (hreport hs)
  | write data =>
      refine ⟨throughout_concat.mpr ⟨hiso, trivial⟩, ?_⟩
      refine hm.inner (e := .wrote data) rfl rfl Or.inl (fun hs log hlog => ?_)
        (fun _ => Or.inr rfl)
      rw [lastReport_concat]
      exact hlog hs
  | clear =>
      rw [List.append_nil]
      exact ⟨hiso, hm.conn, hm.synced, hm.subscribed, fun _ _ _ h => absurd rfl h⟩
  | reset =>
      refine ⟨throughout_concat.mpr ⟨hiso, trivial⟩, ?_⟩
      refine hm.inner (e := .btp .reset) rfl rfl (fun _ => Or.inr rfl) (fun hs log hlog => ?_)
        (fun _ => Or.inl rfl)
      rw [lastReport_concat]
      exact hlog hs
  | hand mtu peer result hconn hsynced hslot =>
      obtain ⟨conn, hconn⟩ := Option.ne_none_iff_exists'.mp hconn
      obtain ⟨log, hcur⟩ := hm.current_eq hconn
      refine ⟨throughout_concat.mpr ⟨hiso, conn, log, hcur, hm.synced conn log hcur hsynced,
        hm.slot conn log hcur hslot⟩, hm.stutter rfl (by simp)⟩
  | ask mtu result hconn hsynced =>
      obtain ⟨conn, hconn⟩ := Option.ne_none_iff_exists'.mp hconn
      obtain ⟨log, hcur⟩ := hm.current_eq hconn
      exact ⟨throughout_concat.mpr ⟨hiso, conn, log, hcur, hm.synced conn log hcur hsynced⟩,
        hm.stutter rfl (by simp)⟩
  | send conn mtu data hconn hsynced hsub =>
      obtain ⟨log, hcur⟩ := hm.current_eq hconn
      have hreset := hm.synced conn log hcur hsynced
      have hasked := hm.stutter (e := .btp (.processOutgoing mtu (.ok data))) rfl (by simp)
      rw [show ([.btp (.processOutgoing mtu (.ok data)), .indicate conn data] : List Obs) =
        [.btp (.processOutgoing mtu (.ok data))] ++ [.indicate conn data] from rfl,
        ← List.append_assoc]
      refine ⟨throughout_concat.mpr ⟨throughout_concat.mpr ⟨hiso, conn, log, hcur, hreset⟩, ?_⟩,
        hasked.stutter rfl (by simp)⟩
      obtain ⟨older, newer, rfl⟩ := List.append_of_mem hreset
      refine ⟨older ++ .btp .reset :: newer ++ [.btp (.processOutgoing mtu (.ok data))], older,
        newer ++ [.btp (.processOutgoing mtu (.ok data))], mtu,
        Epoch.current_inside_some rfl hcur, by simp,
        List.mem_append_right _ (List.mem_singleton_self _), ?_⟩
      rw [lastReport_concat]
      exact hm.subscribed conn _ hcur hsub

/-- **A peripheral that only acts like the abstract one is isolated.** -/
theorem Acts.sound {v v' : View} {es : List Obs} (hacts : Acts v es v') {history : List Obs}
    (hiso : Isolated history) (hm : Matches history v) :
    Isolated (history ++ es) ∧ Matches (history ++ es) v' := by
  induction hacts with
  | refl =>
      rw [List.append_nil]
      exact ⟨hiso, hm⟩
  | tail _ hact ih =>
      rw [← List.append_assoc]
      exact hact.sound ih.1 ih.2

theorem matches_nil (v : View) (hconn : v.conn = none) : Matches [] v := by
  constructor
  · rw [hconn]
    rfl
  all_goals
    intro conn log h
    cases h

end EspIdfMatter.Session
