import EspIdfMatter.Bluedroid.Frame
import EspIdfMatter.Session

/-! Every step of the Bluedroid peripheral is a sequence of acts of the abstract one, as long as the
generation counter did not wrap around. -/

namespace EspIdfMatter.Bluedroid

open Library Library.Generation Library.Machine Session

variable {β : Type}

/-! ### What an observer sees -/

/-- The bit of a CCCD value that enables indications. -/
def enablesIndications (value : UInt16) : Bool := decide (value &&& 0x0002 ≠ 0)

/-- What an observer sees of a write by the tracked peer: a well-formed report on the `C2`
subscription, or a `C1` payload that is stored. -/
def writeObs (w : World β) (ev : Write) : List Obs :=
  match w.state.connection with
  | none => []
  | some conn =>
      if conn.connId ≠ ev.connId then
        []
      else if w.state.c2CccdHandle = some ev.handle then
        ((cccdValue ev.offset ev.value).map fun value => .reported (enablesIndications value)).toList
      else if w.state.c1Handle = some ev.handle ∧ ev.offset = 0 ∧ ev.value.length ≤ maxMtuSize then
        [.wrote ev.value]
      else
        []

/-- What the handlers themselves let an observer see. -/
def eventObs (w : World β) : GattsEvent → List Obs
  | .peerConnected connId _ => if w.state.connection = none then [.recorded connId] else []
  | .peerDisconnected _ addr =>
      if (w.state.connection.map fun conn => conn.peer) = some addr then [.dropped] else []
  | .write ev => writeObs w ev
  | _ => []

def Call.obs : Call → Option Obs
  | .btp call => some (.btp call)
  | .driver (.indicate _ connId _ data) _ => some (.indicate connId data)
  | _ => none

/-- A step with what an observer sees of it. -/
def observe (cfg : Config) (E : Btp β) (w : World β) (s : Step β) : World β × List Obs :=
  let next := step cfg E w s
  (next.1, (match s with | .gatts _ event _ => eventObs w event | _ => []) ++
    next.2.filterMap Call.obs)

/-- The generation increments of a step. -/
def increments (cfg : Config) (E : Btp β) (w : World β) (s : Step β) : Nat :=
  if (step cfg E w s).1.state.connGen = w.state.connGen then 0 else 1

theorem increments_le_one (cfg : Config) (E : Btp β) (w : World β) (s : Step β) :
    increments cfg E w s ≤ 1 := by
  unfold increments
  split <;> decide

/-! ### The view -/

def State.view (s : State) : View where
  conn := s.connection.map (·.connId)
  synced := decide (s.btpGen = some s.connGen)
  subscribed := (s.connection.map (·.subscribed)).getD false
  slot := s.inData.toList

/-- What one step owes: acts of the abstract peripheral, and no generation lag beyond the
increments it counts. -/
structure Step.Refines (cfg : Config) (E : Btp β) (w : World β) (s : Step β) : Prop where
  acts : Acts w.state.view (observe cfg E w s).2 (observe cfg E w s).1.state.view
  lag : ∀ lag, Within w.state.btpGen w.state.connGen lag →
    Within (observe cfg E w s).1.state.btpGen (observe cfg E w s).1.state.connGen
      (lag + increments cfg E w s)

theorem State.SameSession.view {s s' : State} (h : s.SameSession s') : s'.view = s.view := by
  simp only [State.view, h.connection, h.connGen, h.btpGen, h.inData]

/-! ### Handlers -/

theorem Call.obs_of_local {call : Call} (h : call.Local) : call.obs = none := by
  unfold Call.Local at h
  split at h
  · exact h.elim
  · exact h.elim
  · exact h.elim
  · rename_i call r hresponse hindicate
    unfold Call.obs
    split
    · rename_i heq
      cases heq
    · rename_i heq
      cases heq
      exact absurd rfl (hindicate _ _ _ _)
    · rfl

theorem Call.obs_of_responds {ev : Write} {call : Call} (h : call.Responds ev) :
    call.obs = none := by
  unfold Call.Responds at h
  split at h
  · rfl
  · exact h.elim

/-- **The handlers never use the engine**, and they indicate nothing. -/
theorem silent_onGattsEvent (cfg : Config) (drv : Driver) (gattIf : GattInterface)
    (event : GattsEvent) (w : World β) :
    (onGattsEvent cfg drv gattIf event w).calls.filterMap Call.obs = [] :=
  filterMap_onGattsEvent (fun _ => Call.obs_of_local) cfg drv gattIf
    (fun _ _ _ => Call.obs_of_responds) w

theorem observe_gatts (cfg : Config) (E : Btp β) (w : World β) (gattIf : GattInterface)
    (event : GattsEvent) (drv : Driver) :
    observe cfg E w (.gatts gattIf event drv) =
      ((onGattsEvent cfg drv gattIf event w).world, eventObs w event) := by
  have hsilent := silent_onGattsEvent cfg drv gattIf event w
  simp only [observe, step, Handled.finish, hsilent, List.append_nil]

/-- A step that leaves the session alone and shows nothing. -/
theorem refines_of_sameSession {cfg : Config} {E : Btp β} {w : World β} {s : Step β}
    (hobs : (observe cfg E w s).2 = [])
    (hsame : w.state.SameSession (observe cfg E w s).1.state) : s.Refines cfg E w := by
  constructor
  · rw [hobs, hsame.view]
    exact .refl _
  · intro lag h
    rw [hsame.btpGen, hsame.connGen]
    exact h.mono (Nat.le_add_right _ _)

/-- A step that starts a generation counts as one increment. -/
theorem increments_eq_one {cfg : Config} {E : Btp β} {w : World β} (s : Step β)
    (h : (observe cfg E w s).1.state.connGen = w.state.connGen + 1) :
    increments cfg E w s = 1 := by
  unfold increments
  rw [show (step cfg E w s).1 = (observe cfg E w s).1 from rfl, h]
  exact if_neg (counter_next_ne _)

theorem refines_peerConnected (cfg : Config) (E : Btp β) (w : World β) (gattIf : GattInterface)
    (connId : Handle) (addr : BdAddr) (drv : Driver) {lag : Nat}
    (hlag : Within w.state.btpGen w.state.connGen lag)
    (hbudget : lag + increments cfg E w (.gatts gattIf (.peerConnected connId addr) drv) < 2 ^ 32) :
    (Step.gatts gattIf (.peerConnected connId addr) drv).Refines cfg E w := by
  have hstate := peerConnected_state cfg drv gattIf w connId addr
  by_cases hconn : w.state.connection = none
  · rw [if_pos hconn] at hstate
    have hcost := increments_eq_one (E := E) (w := w)
      (.gatts gattIf (.peerConnected connId addr) drv)
      (by rw [observe_gatts]; exact congrArg State.connGen hstate)
    rw [hcost] at hbudget
    refine ⟨?_, fun lag' h => ?_⟩
    · have hstale : decide (w.state.btpGen = some (w.state.connGen + 1)) = false :=
        decide_eq_false (hlag.ne_next hbudget)
      have hview : (w.state.createConn connId addr).view = ⟨some connId, false, false, []⟩ :=
        congrArg (fun synced => View.mk (some connId) synced false []) hstale
      simp only [observe_gatts, hstate, hview, eventObs, if_pos hconn]
      exact (Act.record _ connId).acts
    · rw [hcost]
      simp only [observe_gatts, hstate]
      exact h.next
  · rw [if_neg hconn] at hstate
    refine refines_of_sameSession ?_ ?_
    · simp only [observe_gatts, eventObs, if_neg hconn]
    · simp only [observe_gatts, hstate]
      exact .refl _

theorem refines_peerDisconnected (cfg : Config) (E : Btp β) (w : World β) (gattIf : GattInterface)
    (connId : Handle) (addr : BdAddr) (drv : Driver) :
    (Step.gatts gattIf (.peerDisconnected connId addr) drv).Refines cfg E w := by
  have hstate := peerDisconnected_state cfg drv gattIf w connId addr
  by_cases hpeer : (w.state.connection.map fun conn => conn.peer) = some addr
  · rw [if_pos hpeer] at hstate
    have hcost := increments_eq_one (E := E) (w := w)
      (.gatts gattIf (.peerDisconnected connId addr) drv)
      (by rw [observe_gatts]; exact congrArg State.connGen hstate)
    refine ⟨?_, fun lag h => ?_⟩
    · simp only [observe_gatts, hstate, eventObs, if_pos hpeer]
      exact (Act.drop _ _ rfl).acts
    · rw [hcost]
      simp only [observe_gatts, hstate]
      exact h.next
  · rw [if_neg hpeer] at hstate
    refine refines_of_sameSession ?_ ?_
    · simp only [observe_gatts, eventObs, if_neg hpeer]
    · simp only [observe_gatts, hstate]
      exact .refl _

/-- A CCCD value acts on the view as a report on the subscription. -/
theorem acts_subscription {s : State} {conn : Connection} (hconn : s.connection = some conn)
    (value : UInt16) {s' : State}
    (hs' : s' = s.setSubscribed conn (decide (value = 0x0002)) ∨
      s' = s ∧ conn.subscribed = decide (value = 0x0002)) :
    Acts s.view [.reported (enablesIndications value)] s'.view := by
  have hview : s'.view = { s.view with subscribed := decide (value = 0x0002) } := by
    rcases hs' with rfl | ⟨rfl, hsub⟩
    · simp only [State.view, hconn]
      rfl
    · simp only [State.view, hconn, Option.map_some, Option.getD_some, ← hsub]
  rw [hview]
  refine (Act.report _ _ _ fun h => ?_).acts
  rw [of_decide_eq_true h]
  decide

theorem storeC1_view (s : State) (transId : TransferId) (value : Bytes) :
    (s.storeC1 transId value).view =
      { s.view with slot := if value.length ≤ maxMtuSize then value else [] } := by
  by_cases hlen : value.length ≤ maxMtuSize
  · simp [State.view, State.storeC1, BoundedVec.extendFromSlice_empty hlen, hlen]
  · simp [State.view, State.storeC1,
      BoundedVec.extendFromSlice_empty_of_lt (Nat.lt_of_not_le hlen), hlen]

/-- A write acts on the view as the abstract peripheral does. -/
theorem acts_writeLocked (w : World β) (ev : Write) :
    Acts w.state.view (writeObs w ev) (writeLocked ev w).1.state.view := by
  unfold writeLocked writeObs
  cases hconn : w.state.connection with
  | none => exact .refl _
  | some conn =>
      dsimp only
      by_cases hpeer : conn.connId ≠ ev.connId
      · rw [if_pos hpeer, if_pos hpeer]
        exact .refl _
      rw [if_neg hpeer, if_neg hpeer]
      by_cases hcccd : w.state.c2CccdHandle = some ev.handle
      · rw [if_pos hcccd, if_pos hcccd]
        cases hvalue : cccdValue ev.offset ev.value with
        | none => exact .refl _
        | some value =>
            refine acts_subscription hconn value ?_
            dsimp only
            split_ifs with htwo hold hold
            · exact Or.inl (by simp [htwo])
            · exact Or.inr ⟨rfl, by simpa [htwo] using hold⟩
            · exact Or.inl (by simp [htwo])
            · exact Or.inr ⟨rfl, by simpa [htwo] using hold⟩
      rw [if_neg hcccd, if_neg hcccd]
      by_cases hc1 : w.state.c1Handle = some ev.handle ∧ ev.offset = 0
      · rw [if_pos hc1]
        simp only [World.state_wakeIncoming, World.state_setState, storeC1_view]
        by_cases hlen : ev.value.length ≤ maxMtuSize
        · rw [if_pos ⟨hc1.1, hc1.2, hlen⟩, if_pos hlen]
          exact (Act.write _ ev.value).acts
        · rw [if_neg fun h => hlen h.2.2, if_neg hlen]
          exact (Act.clear _).acts
      · rw [if_neg hc1, if_neg fun h => hc1 ⟨h.1, h.2.1⟩]
        exact .refl _

theorem writeLocked_gens (w : World β) (ev : Write) :
    (writeLocked ev w).1.state.btpGen = w.state.btpGen ∧
      (writeLocked ev w).1.state.connGen = w.state.connGen := by
  unfold writeLocked
  repeat' split
  all_goals exact ⟨rfl, rfl⟩

theorem refines_write (cfg : Config) (E : Btp β) (w : World β) (gattIf : GattInterface) (ev : Write)
    (drv : Driver) : (Step.gatts gattIf (.write ev) drv).Refines cfg E w := by
  have hsame := write_sameSession cfg drv gattIf w ev
  obtain ⟨hseen, hcounter⟩ := writeLocked_gens w ev
  constructor
  · simp only [observe_gatts, hsame.view]
    exact acts_writeLocked w ev
  · intro lag h
    simp only [observe_gatts, hsame.btpGen, hsame.connGen, hseen, hcounter]
    exact h.mono (Nat.le_add_right _ _)

/-- A step that keeps the view and the generations, and shows nothing. -/
theorem refines_of_view_eq {cfg : Config} {E : Btp β} {w : World β} {s : Step β}
    (hobs : (observe cfg E w s).2 = []) (hview : (observe cfg E w s).1.state.view = w.state.view)
    (hseen : (observe cfg E w s).1.state.btpGen = w.state.btpGen)
    (hcounter : (observe cfg E w s).1.state.connGen = w.state.connGen) : s.Refines cfg E w := by
  constructor
  · rw [hobs, hview]
    exact .refl _
  · intro lag h
    rw [hseen, hcounter]
    exact h.mono (Nat.le_add_right _ _)

theorem registerConnMtu_frame (connId : Handle) (mtu : UInt16) (s : State) :
    (s.registerConnMtu connId mtu).view = s.view ∧
      (s.registerConnMtu connId mtu).btpGen = s.btpGen ∧
      (s.registerConnMtu connId mtu).connGen = s.connGen := by
  unfold State.registerConnMtu
  split
  · rename_i conn hconn
    split
    · refine ⟨?_, rfl, rfl⟩
      simp only [State.view, hconn]
      rfl
    · exact ⟨rfl, rfl, rfl⟩
  · exact ⟨rfl, rfl, rfl⟩

theorem refines_confirm (cfg : Config) (E : Btp β) (w : World β) (gattIf : GattInterface)
    (status : GattStatus) (connId : Handle) (drv : Driver) :
    (Step.gatts gattIf (.confirm status connId) drv).Refines cfg E w := by
  have hstate := confirm_state cfg drv gattIf w status connId
  refine refines_of_view_eq (by rw [observe_gatts]; rfl) ?_ ?_ ?_
  all_goals
    rw [observe_gatts]
    simp only [hstate]
    cases status <;> rfl

/-- **Every handler acts like the abstract peripheral.** -/
theorem refines_gatts (cfg : Config) (E : Btp β) (w : World β) (gattIf : GattInterface)
    (event : GattsEvent) (drv : Driver) {lag : Nat}
    (hlag : Within w.state.btpGen w.state.connGen lag)
    (hbudget : lag + increments cfg E w (.gatts gattIf event drv) < 2 ^ 32) :
    (Step.gatts gattIf event drv).Refines cfg E w := by
  have hregisters : event.Registers → eventObs w event = [] →
      (Step.gatts gattIf event drv).Refines cfg E w := by
    intro hevent hobs
    refine refines_of_sameSession ?_ ?_
    · rw [observe_gatts]
      exact hobs
    · rw [observe_gatts]
      exact registers_sameSession cfg drv gattIf hevent w
  cases event with
  | peerConnected connId addr =>
      exact refines_peerConnected cfg E w gattIf connId addr drv hlag hbudget
  | peerDisconnected connId addr =>
      exact refines_peerDisconnected cfg E w gattIf connId addr drv
  | write ev => exact refines_write cfg E w gattIf ev drv
  | confirm status connId => exact refines_confirm cfg E w gattIf status connId drv
  | mtu connId mtu =>
      obtain ⟨hview, hseen, hcounter⟩ := registerConnMtu_frame connId mtu w.state
      refine refines_of_view_eq ?_ ?_ ?_ ?_ <;> rw [observe_gatts]
      · rfl
      · exact hview
      · exact hseen
      · exact hcounter
  | _ => exact hregisters trivial rfl

theorem refines_gap (cfg : Config) (E : Btp β) (w : World β) (event : BleGapEvent)
    (drv : Driver) : (Step.gap event drv).Refines cfg E w := by
  have hsilent := (only_onGapEvent drv event w).filterMap fun _ => Call.obs_of_local
  have hstep : observe cfg E w (.gap event drv) = (w, []) := by
    simp only [observe, step, Handled.finish, hsilent, onGapEvent_world, List.append_nil]
  exact refines_of_sameSession (by rw [hstep]) (by rw [hstep]; exact .refl _)

/-! ### Pumps -/

/-- What an iteration owes, as a step does; an iteration starts no generation. -/
structure Iteration.Refines (w : World β) (it : Iteration β) : Prop where
  acts : Acts w.state.view (it.calls.filterMap Call.obs) it.world.state.view
  connGen : it.world.state.connGen = w.state.connGen
  btpGen : it.world.state.btpGen = w.state.btpGen ∨
    it.world.state.btpGen = some w.state.connGen

theorem syncBtp_view (E : Btp β) (w : World β) :
    (w.syncBtp E).1.state.view = { w.state.view with synced := true } := by
  rw [World.syncBtp_state]
  simp [State.view]

theorem syncBtp_acts (E : Btp β) (w : World β) :
    Acts w.state.view ((w.syncBtp E).2.filterMap Call.obs) (w.syncBtp E).1.state.view := by
  rw [syncBtp_view]
  by_cases h : w.state.btpGen = some w.state.connGen
  · have hview : { w.state.view with synced := true } = w.state.view := by
      simp [State.view, h]
    rw [World.syncBtp, State.syncBtp_of_synced E w.btp h, hview]
    exact .refl _
  · rw [World.syncBtp, State.syncBtp_of_stale E w.btp h]
    exact (Act.reset _).acts

/-- An iteration that synchronises and then acts on. -/
theorem Iteration.Refines.of_synced {E : Btp β} {w : World β} {it : Iteration β}
    (calls : List Call) (hcalls : it.calls = (w.syncBtp E).2 ++ calls)
    (hacts : Acts { w.state.view with synced := true } (calls.filterMap Call.obs)
      it.world.state.view)
    (hcounter : it.world.state.connGen = w.state.connGen)
    (hseen : it.world.state.btpGen = some w.state.connGen) : it.Refines w := by
  refine ⟨?_, hcounter, Or.inr hseen⟩
  rw [hcalls, List.filterMap_append]
  refine (syncBtp_acts E w).trans ?_
  rw [syncBtp_view]
  exact hacts

theorem Iteration.Refines.nothing {w : World β} {processed : Processed} :
    (Iteration.mk w [] processed).Refines w :=
  ⟨.refl _, rfl, Or.inl rfl⟩

theorem refines_processIncoming (E : Btp β) (drv : Driver) (w : World β) :
    (processIncoming E drv w).Refines w := by
  unfold processIncoming
  split
  · exact .nothing
  · rename_i conn hconn
    have hstate := World.syncBtp_state E w
    have htracked : w.state.view.conn ≠ none := by simp [State.view, hconn]
    have hslot : (w.syncBtp E).1.state.inData.toList = w.state.view.slot := by
      rw [hstate]
      rfl
    simp only
    split
    · exact .of_synced (E := E) [] (by simp) (by rw [syncBtp_view]; exact .refl _)
        (by rw [hstate]) (by rw [hstate])
    · rename_i hfull
      have hhand : ∀ result, Act { w.state.view with synced := true }
          [.btp (.processIncoming conn.mtu ⟨conn.peer.addr⟩
            (w.syncBtp E).1.state.inData.toList result)]
          { w.state.view with synced := true } := by
        intro result
        rw [hslot]
        refine Act.hand _ conn.mtu ⟨conn.peer.addr⟩ result htracked rfl fun h => ?_
        rw [← hslot] at h
        exact hfull ((BoundedVec.isEmpty_iff _).mpr h)
      split
      · rename_i btp e hanswer
        refine .of_synced (E := E) _ rfl ?_ (by simp [hstate]) (by simp [hstate])
        rw [World.state_setBtp, syncBtp_view]
        exact (hhand (.error e)).acts
      · rename_i btp hanswer
        split
        · rename_i e hrefused
          refine .of_synced (E := E) _ (List.append_assoc _ _ _) ?_ (by simp [hstate])
            (by simp [hstate])
          rw [World.state_setBtp, syncBtp_view]
          exact (hhand (.ok ())).acts
        · refine .of_synced (E := E) _ (List.append_assoc _ _ _) ?_ (by simp [hstate])
            (by simp [hstate])
          have hview : ({ (w.syncBtp E).1.state with inData := .empty } : State).view =
              { w.state.view with synced := true, slot := [] } := by
            rw [hstate]
            simp [State.view]
          rw [World.state_setBtp, World.state_setState, hview]
          exact (hhand (.ok ())).acts.tail (.clear _)

theorem refines_processOutgoing (E : Btp β) (drv : Driver) (w : World β) :
    (processOutgoing E drv w).Refines w := by
  unfold processOutgoing
  split
  · rename_i gattIf c2Handle conn hif hc2 hconn
    split
    · exact .nothing
    · rename_i hsub
      have hstate := World.syncBtp_state E w
      have htracked : w.state.view.conn = some conn.connId := by simp [State.view, hconn]
      have hsubscribed : w.state.view.subscribed = true := by simpa [State.view, hconn] using hsub
      have hask : ∀ result, Act { w.state.view with synced := true }
          [.btp (.processOutgoing conn.mtu result)] { w.state.view with synced := true } :=
        fun result => Act.ask _ conn.mtu result (by simp [htracked]) rfl
      have hview : ∀ buf, ({ (w.syncBtp E).1.state with outData := buf } : State).view =
          { w.state.view with synced := true } := fun buf => by rw [← syncBtp_view E]; rfl
      simp only
      split
      · exact .of_synced (E := E) [] (by simp) (by rw [syncBtp_view]; exact .refl _)
          (by rw [hstate]) (by rw [hstate])
      · split
        · rename_i btp e hanswer
          refine .of_synced (E := E) _ rfl ?_ (by simp [hstate]) (by simp [hstate])
          rw [World.state_setBtp, World.state_setState, hview]
          exact (hask (.error e)).acts
        · rename_i btp frame hanswer
          have hsend := (Act.send { w.state.view with synced := true } conn.connId conn.mtu
            frame.toList htracked rfl hsubscribed).acts
          split
          · split
            · refine .of_synced (E := E) _ (List.append_assoc _ _ _) ?_ (by simp [hstate])
                (by simp [hstate])
              rw [World.state_setBtp, World.state_setState, hview, take_overwrite_frame]
              exact hsend
            · refine .of_synced (E := E) _ (List.append_assoc _ _ _) ?_ (by simp [hstate])
                (by simp [hstate])
              have hview' : ∀ buf, ({ (w.syncBtp E).1.state with
                  outData := buf, outNack := true } : State).view =
                  { w.state.view with synced := true } := hview
              rw [World.state_setState, World.state_setBtp, World.state_setState, hview',
                take_overwrite_frame]
              exact hsend
          · refine .of_synced (E := E) _ rfl ?_ (by simp [hstate]) (by simp [hstate])
            rw [World.state_setBtp, World.state_setState, hview]
            exact (hask (.ok frame.toList)).acts
  · exact .nothing

theorem Iteration.Refines.step {cfg : Config} {E : Btp β} {w : World β} {s : Step β}
    {it : Iteration β} (h : it.Refines w) (hstep : Bluedroid.step cfg E w s = it.finish)
    (hpump : ∀ gattIf event drv, s ≠ .gatts gattIf event drv) : s.Refines cfg E w := by
  have hobs : observe cfg E w s = (it.finish.1, it.calls.filterMap Call.obs) := by
    cases s with
    | gatts gattIf event drv => exact absurd rfl (hpump gattIf event drv)
    | _ => simp only [observe, hstep, List.nil_append]; rfl
  constructor
  · rw [hobs]
    exact h.acts
  · intro lag hlag
    rw [hobs]
    refine Within.mono ?_ (Nat.le_add_right _ _)
    simp only [Iteration.finish, World.state_setEnded, h.connGen]
    rcases h.btpGen with hseen | hseen
    · rw [hseen]
      exact hlag
    · rw [hseen]
      exact within_self _ _

/-- **Every step acts like the abstract peripheral.** -/
theorem refines_step (cfg : Config) (E : Btp β) (w : World β) (s : Step β) {lag : Nat}
    (hlag : Within w.state.btpGen w.state.connGen lag)
    (hbudget : lag + increments cfg E w s < 2 ^ 32) : s.Refines cfg E w := by
  have hidle : observe cfg E w s = (w, []) → s.Refines cfg E w := fun h =>
    refines_of_sameSession (by rw [h]) (by rw [h]; exact .refl _)
  cases s with
  | gap event drv => exact refines_gap cfg E w event drv
  | gatts gattIf event drv => exact refines_gatts cfg E w gattIf event drv hlag hbudget
  | incoming drv =>
      by_cases h : w.ended = none
      · exact (refines_processIncoming E drv w).step (if_pos h) (by simp)
      · exact hidle (by simp [observe, step, h])
  | outgoing drv =>
      by_cases h : w.ended = none
      · exact (refines_processOutgoing E drv w).step (if_pos h) (by simp)
      · exact hidle (by simp [observe, step, h])
  | matter btp => exact refines_of_view_eq rfl rfl rfl rfl

/-- **A run keeps the sessions of two connections apart**, and the generations as close as it counts.
The context may have been used before: a reset keeps its generations, `lag` apart. -/
theorem isolated_run (cfg : Config) (E : Btp β) (c : Context) (btp : β) (steps : List (Step β))
    {lag : Nat} (hlag : Within c.state.btpGen c.state.connGen lag)
    (hbudget : lag + total (observe cfg E) (increments cfg E) (.fresh c btp) steps < 2 ^ 32) :
    Isolated (outputs (observe cfg E) (.fresh c btp) steps) ∧
      Within (after (observe cfg E) (.fresh c btp) steps).state.btpGen
        (after (observe cfg E) (.fresh c btp) steps).state.connGen
        (lag + total (observe cfg E) (increments cfg E) (.fresh c btp) steps) := by
  have hinv := run_induction (observe cfg E)
    (I := fun history w rest => Isolated history ∧ Matches history w.state.view ∧ ∃ spent,
      Within w.state.btpGen w.state.connGen spent ∧
      spent + total (observe cfg E) (increments cfg E) w rest =
        lag + total (observe cfg E) (increments cfg E) (.fresh c btp) steps) ?_
    (h := []) (s := .fresh c btp) (t := steps)
    ⟨throughout_nil _, matches_nil _ rfl, lag, hlag, rfl⟩
  · obtain ⟨hiso, -, spent, hspent, hsum⟩ := hinv
    rw [total_nil, Nat.add_zero] at hsum
    rw [← hsum]
    exact ⟨hiso, hspent⟩
  · rintro history w s rest ⟨hiso, hmatch, spent, hspent, hsum⟩
    rw [total_cons, ← Nat.add_assoc] at hsum
    have href := refines_step cfg E w s hspent (by omega)
    obtain ⟨hiso', hmatch'⟩ := href.acts.sound hiso hmatch
    exact ⟨hiso', hmatch', _, href.lag spent hspent, hsum⟩

/-- A context as a peripheral may find it: new, or left behind by an earlier run over it. The number
is that of the generations started on it. -/
inductive Context.Used (E : Btp β) : Context → Nat → Prop where
  | new : Used E .new 0
  | run {c : Context} {n : Nat} (cfg : Config) (btp : β) (steps : List (Step β)) (hused : Used E c n) :
      Used E (after (observe cfg E) (.fresh c btp) steps).context
        (n + total (observe cfg E) (increments cfg E) (.fresh c btp) steps)

theorem Context.Used.within {E : Btp β} {c : Context} {n : Nat} (hused : c.Used E n)
    (hbudget : n < 2 ^ 32) : Within c.state.btpGen c.state.connGen n := by
  induction hused with
  | new => exact within_none _ _
  | run cfg btp steps hused ih =>
      exact (isolated_run cfg E _ btp steps (ih (by omega)) hbudget).2

end EspIdfMatter.Bluedroid
