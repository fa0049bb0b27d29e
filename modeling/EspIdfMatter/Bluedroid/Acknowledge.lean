import EspIdfMatter.Bluedroid.Buffer
import EspIdfMatter.Bluedroid.Exchange

/-! The Bluedroid peripheral acknowledges a `C1` write after the engine took it. What ties the payload
in the buffer to its transaction id is that the last thing which happened on the tracked connection is
that very write. -/

namespace EspIdfMatter.Bluedroid

open Library Library.Machine Exchange

variable {β : Type}

instance (w : World β) (ev : Write) : Decidable (StoresC1 w ev) :=
  inferInstanceAs (Decidable (_ ∧ _ ∧ _ ∧ _))

/-- What a GATTS event shows of the connection and of the writes on it. -/
def exchangeEvent (w : World β) : GattsEvent → List Obs
  | .peerConnected connId _ => if w.state.connection = none then [.recorded connId] else []
  | .peerDisconnected _ addr =>
      if (w.state.connection.map fun conn => conn.peer) = some addr then [.dropped] else []
  | .write ev => if StoresC1 w ev then [.wrote ev.transId ev.value] else []
  | _ => []

def Call.exchange : Call → Option Obs
  | .btp (.processIncoming _ _ data result) => some (.handed data result)
  | .driver (.sendResponse _ connId transId _ _) _ => some (.responded connId transId)
  | _ => none

/-- The responses of the handler to a write of the CCCD have nothing to do with `C1`. -/
def exchanged (w : World β) (calls : List Call) : Step β → List Obs
  | .gatts _ (.write ev) _ =>
      exchangeEvent w (.write ev) ++
        if w.state.c2CccdHandle = some ev.handle then [] else calls.filterMap Call.exchange
  | .gatts _ event _ => exchangeEvent w event ++ calls.filterMap Call.exchange
  | _ => calls.filterMap Call.exchange

def exchange (cfg : Config) (E : Btp β) (w : World β) (s : Step β) : World β × List Obs :=
  ((step cfg E w s).1, exchanged w (step cfg E w s).2 s)

/-- The tracked connection is the current one, and the payload in the buffer, if any, is the last
write on it. -/
structure Tied (history : List Obs) (w : World β) : Prop where
  conn : (current history).map Prod.fst = w.state.connection.map (·.connId)
  write : w.ended = none → w.state.inData.toList ≠ [] → ∀ conn log,
    current history = some (conn, log) →
      ∃ older, log = older ++ [.wrote w.state.inTrans w.state.inData.toList]

theorem tied_fresh (c : Context) (btp : β) : Tied [] (World.fresh c btp) :=
  ⟨rfl, fun _ hdata => absurd rfl hdata⟩

theorem Tied.of_sameBuffer {history : List Obs} {w w' : World β} (h : Tied history w)
    (hsame : w.state.SameBuffer w'.state) (hended : w'.ended = none → w.ended = none) :
    Tied history w' := by
  refine ⟨h.conn.trans hsame.connId.symm, fun hrunning hdata => ?_⟩
  rw [hsame.inData] at hdata ⊢
  rw [hsame.inTrans]
  exact h.write (hended hrunning) hdata

theorem Tied.current_eq {history : List Obs} {w : World β} (h : Tied history w) {conn : Connection}
    (hconn : w.state.connection = some conn) : ∃ log, current history = some (conn.connId, log) := by
  have hcur := h.conn
  rw [hconn, Option.map_some, Option.map_eq_some_iff] at hcur
  obtain ⟨⟨connId, log⟩, hcur, rfl⟩ := hcur
  exact ⟨log, hcur⟩

/-! ### Handlers -/

theorem Call.exchange_of_local {call : Call} (h : call.Local) : call.exchange = none := by
  unfold Call.exchange
  split
  · exact h.elim
  · exact h.elim
  · rfl

theorem Call.exchange_of_outgoing {call : Call} (h : call.Outgoing) : call.exchange = none := by
  unfold Call.exchange
  split
  · exact h.elim
  · exact h.elim
  · rfl

/-- No handler responds to a `C1` write. -/
theorem exchanged_gatts (cfg : Config) (drv : Driver) (gattIf : GattInterface) (event : GattsEvent)
    (w : World β) :
    exchanged w (onGattsEvent cfg drv gattIf event w).calls (.gatts gattIf event drv) =
      exchangeEvent w event := by
  by_cases hwrite : ∃ ev, event = .write ev
  · obtain ⟨ev, rfl⟩ := hwrite
    rw [exchanged]
    split_ifs with hcccd
    · exact List.append_nil _
    · have hcalls := write_calls_of_not_cccd drv gattIf hcccd
      rw [onGattsEvent, hcalls]
      exact List.append_nil _
  · push Not at hwrite
    have hcalls := (only_onGattsEvent cfg drv gattIf hwrite w).filterMap
      fun _ => Call.exchange_of_local
    cases event with
    | write ev => exact absurd rfl (hwrite ev)
    | _ => exact (congrArg (_ ++ ·) hcalls).trans (List.append_nil _)

section Steps

variable {cfg : Config} {E : Btp β} {w : World β} {history : List Obs}

theorem tied_gatts (h : Throughout Permitted history) (ht : Tied history w)
    (gattIf : GattInterface) (event : GattsEvent) (drv : Driver) :
    Throughout Permitted (history ++ exchangeEvent w event) ∧
      Tied (history ++ exchangeEvent w event) (onGattsEvent cfg drv gattIf event w).world := by
  have hended := (keeps_onGattsEvent cfg drv gattIf event w).ended
  cases buffered_onGattsEvent cfg drv gattIf event w with
  | same hquiet hsame =>
      have hnone : exchangeEvent w event = [] := by
        cases event with
        | write ev => exact if_neg hquiet
        | peerConnected connId addr => exact if_neg hquiet
        | peerDisconnected connId addr => exact if_neg hquiet
        | _ => rfl
      rw [hnone, List.append_nil]
      exact ⟨h, ht.of_sameBuffer hsame fun hrunning => hended.symm.trans hrunning⟩
  | stored ev hevent hstores hsame =>
      subst hevent
      rw [exchangeEvent, if_pos hstores]
      refine ⟨throughout_concat.mpr ⟨h, trivial⟩, ?_, fun hrunning hdata conn log hcur => ?_⟩
      · rw [current_fst_inside rfl]
        exact ht.conn.trans hsame.connId.symm
      · obtain ⟨older, -, rfl⟩ := Epoch.eq_concat_of_current_inside rfl hcur
        have hstored := storeC1_inData w.state ev.transId ev.value
        rw [hsame.inData] at hdata ⊢
        rw [hsame.inTrans, hstored]
        split_ifs at hstored ⊢ with hlen
        · exact ⟨older, rfl⟩
        · exact absurd hstored hdata
  | connected connId addr hevent hconn hstate =>
      subst hevent
      rw [exchangeEvent, if_pos hconn]
      refine ⟨throughout_concat.mpr ⟨h, trivial⟩, ?_, fun _ hdata => absurd ?_ hdata⟩
      · have hcur : current (history ++ [.recorded connId]) = some (connId, []) :=
          Epoch.current_opens rfl
        rw [hcur, hstate]
        rfl
      · rw [hstate]
        rfl
  | disconnected connId addr hevent hpeer hstate =>
      subst hevent
      rw [exchangeEvent, if_pos hpeer]
      have hcur : current (history ++ [.dropped]) = none := Epoch.current_closes rfl
      refine ⟨throughout_concat.mpr ⟨h, trivial⟩, ?_, fun _ _ conn log hcur' => ?_⟩
      · rw [hcur, hstate]
        rfl
      · rw [hcur] at hcur'
        cases hcur'

theorem tied_processIncoming (h : Throughout Permitted history) (ht : Tied history w)
    (hrunning : w.ended = none) (drv : Driver) :
    Throughout Permitted (history ++ (processIncoming E drv w).calls.filterMap Call.exchange) ∧
      Tied (history ++ (processIncoming E drv w).calls.filterMap Call.exchange)
        (processIncoming E drv w).finish.1 := by
  have hsync := filterMap_syncBtp (f := Call.exchange) rfl E w
  cases incoming_cases E drv w with
  | idle hidle btpGen hstate hcalls hprocessed =>
      have hnone : (processIncoming E drv w).calls.filterMap Call.exchange = [] := by
        rcases hcalls with hcalls | hcalls
        · rw [hcalls]
          rfl
        · rw [hcalls, hsync]
      rw [hnone, List.append_nil]
      refine ⟨h, ht.of_sameBuffer ?_ fun _ => hrunning⟩
      change w.state.SameBuffer (processIncoming E drv w).world.state
      rw [hstate]
      exact ⟨rfl, rfl, rfl⟩
  | refused conn e hconn hdata hstate hcalls hprocessed =>
      obtain ⟨log, hcur⟩ := ht.current_eq hconn
      obtain ⟨older, rfl⟩ := ht.write hrunning hdata _ log hcur
      have hhanded : (processIncoming E drv w).calls.filterMap Call.exchange =
          [.handed w.state.inData.toList (.error e)] := by
        rw [hcalls, List.filterMap_append, hsync]
        rfl
      rw [hhanded]
      refine ⟨throughout_concat.mpr ⟨h, conn.connId, older, _, hcur⟩, ?_, fun hnone => ?_⟩
      · rw [current_fst_inside rfl, ht.conn]
        exact congrArg (fun s : State => s.connection.map (·.connId)) hstate.symm
      · have hended : (processIncoming E drv w).processed.error? = none := hnone
        rw [hprocessed] at hended
        cases hended
  | unanswered conn e hconn hdata hstate hcalls hprocessed =>
      obtain ⟨log, hcur⟩ := ht.current_eq hconn
      obtain ⟨older, rfl⟩ := ht.write hrunning hdata _ log hcur
      have hanswer : (processIncoming E drv w).calls.filterMap Call.exchange =
          [.handed w.state.inData.toList (.ok ()), .responded conn.connId w.state.inTrans] := by
        rw [hcalls, List.filterMap_append, hsync]
        rfl
      rw [hanswer]
      refine ⟨permitted_answer h hcur, ?_, fun hnone => ?_⟩
      · rw [List.append_cons, current_fst_inside rfl, current_fst_inside rfl, ht.conn]
        exact congrArg (fun s : State => s.connection.map (·.connId)) hstate.symm
      · have hended : (processIncoming E drv w).processed.error? = none := hnone
        rw [hprocessed] at hended
        cases hended
  | answered conn hconn hdata hstate hcalls hprocessed =>
      obtain ⟨log, hcur⟩ := ht.current_eq hconn
      obtain ⟨older, rfl⟩ := ht.write hrunning hdata _ log hcur
      have hanswer : (processIncoming E drv w).calls.filterMap Call.exchange =
          [.handed w.state.inData.toList (.ok ()), .responded conn.connId w.state.inTrans] := by
        rw [hcalls, List.filterMap_append, hsync]
        rfl
      rw [hanswer]
      refine ⟨permitted_answer h hcur, ?_, fun _ hleft => ?_⟩
      · rw [List.append_cons, current_fst_inside rfl, current_fst_inside rfl, ht.conn]
        exact congrArg (fun s : State => s.connection.map (·.connId)) hstate.symm
      · exact absurd (congrArg (fun s : State => s.inData.toList) hstate) hleft

/-- **One step keeps the ties**, and does only what is permitted. -/
theorem tied_step (h : Throughout Permitted history) (ht : Tied history w) (s : Step β) :
    Throughout Permitted (history ++ (exchange cfg E w s).2) ∧
      Tied (history ++ (exchange cfg E w s).2) (exchange cfg E w s).1 := by
  have hsilent : ∀ w' : World β, (exchange cfg E w s).2 = [] → (exchange cfg E w s).1 = w' →
      w.state.SameBuffer w'.state → (w'.ended = none → w.ended = none) →
      Throughout Permitted (history ++ (exchange cfg E w s).2) ∧
        Tied (history ++ (exchange cfg E w s).2) (exchange cfg E w s).1 := by
    intro w' hnone hnext hsame hended
    rw [hnone, List.append_nil, hnext]
    exact ⟨h, ht.of_sameBuffer hsame hended⟩
  cases s with
  | gap event drv =>
      refine hsilent w ?_ (onGapEvent_world drv event w) (.refl _) id
      exact (only_onGapEvent drv event w).filterMap fun _ => Call.exchange_of_local
  | gatts gattIf event drv =>
      have hcalls := exchanged_gatts cfg drv gattIf event w
      rw [show (exchange cfg E w (.gatts gattIf event drv)).2 = exchangeEvent w event from hcalls]
      exact tied_gatts h ht gattIf event drv
  | incoming drv =>
      by_cases hrunning : w.ended = none
      · rw [exchange, step, if_pos hrunning]
        exact tied_processIncoming h ht hrunning drv
      · exact hsilent w (by rw [exchange, step, if_neg hrunning]; rfl)
          (by rw [exchange, step, if_neg hrunning]) (.refl _) id
  | outgoing drv =>
      by_cases hrunning : w.ended = none
      · have hout := outgoing_processOutgoing E drv w
        refine hsilent (processOutgoing E drv w).finish.1 ?_
          (by rw [exchange, step, if_pos hrunning]) hout.sameBuffer fun _ => hrunning
        rw [exchange, step, if_pos hrunning]
        exact hout.filterMap fun _ => Call.exchange_of_outgoing
      · exact hsilent w (by rw [exchange, step, if_neg hrunning]; rfl)
          (by rw [exchange, step, if_neg hrunning]) (.refl _) id
  | matter btp => exact hsilent (w.setBtp btp) rfl rfl (.refl _) id

end Steps

/-- **Every `C1` write is handed to the engine at most once and in order, and responded to only after
the engine took it**, in every run, whether or not the peer waits for its responses. -/
theorem acknowledged_after_processing (cfg : Config) (E : Btp β) (c : Context) (btp : β)
    (steps : List (Step β)) : Acknowledged (outputs (exchange cfg E) (.fresh c btp) steps) := by
  refine acknowledged_of_throughout ?_
  have hrun := run_induction (exchange cfg E)
    (I := fun history w _ => Throughout Permitted history ∧ Tied history w)
    (fun history w s _ hI => tied_step hI.1 hI.2 s)
    (h := []) (s := .fresh c btp) (t := steps) ⟨throughout_nil _, tied_fresh c btp⟩
  exact hrun.1

end EspIdfMatter.Bluedroid
