import EspIdfMatter.Nimble.Pumps
import EspIdfMatter.Session

/-! Every step of the NimBLE peripheral is a sequence of acts of the abstract one, as long as the
generation counter did not wrap around and no `C1` write leaves the rest of a failed mbuf read in the
buffer. -/

namespace EspIdfMatter.Nimble

open Library Library.Generation Library.Machine Session

variable {β : Type}

/-! ### What an observer sees -/

/-- What the hooks themselves let an observer see. A `C1` write counts when it is accepted. -/
def eventObs (w : World β) : Event → List Obs
  | .gap (.connect connHandle (.ok _) _ _) => [.recorded connHandle]
  | .gap (.disconnect _ _) => [.dropped]
  | .gatts (.subscriptionChanged connHandle attrHandle curIndicate) =>
      if attrHandle = w.c2ValHandle ∧ w.state.connection.map (·.connHandle) = some connHandle then
        [.reported curIndicate]
      else
        []
  | .gatts (.write connHandle attrHandle data) =>
      if ((hook (.gatts (.write connHandle attrHandle data))).exec w).2 = 0 then
        [.wrote data.payload]
      else
        []
  | _ => []

def Call.obs : Call → Option Obs
  | .btp call => some (.btp call)
  | .indicate conn _ data _ => some (.indicate conn data)
  | _ => none

/-- A step with what an observer sees of it. -/
def observe (E : Btp β) (w : World β) (s : Step β) : World β × List Obs :=
  let next := step E w s
  (next.1, (match s with | .event event => eventObs w event | _ => []) ++
    next.2.filterMap Call.obs)

theorem observe_fst (E : Btp β) (w : World β) (s : Step β) :
    (observe E w s).1 = (step E w s).1 := rfl

/-- The generation increments of a step. -/
def increments (E : Btp β) (w : World β) (s : Step β) : Nat :=
  if (step E w s).1.state.connGen = w.state.connGen then 0 else 1

/-- A `C1` write that is not refused for want of room is read exactly. -/
def ReadsExactly (w : World β) : Step β → Prop
  | .event (.gatts (.write _ _ data)) => w.state.inData.isEmpty = true → data.CopiesExactly
  | _ => True

theorem increments_le_one (E : Btp β) (w : World β) (s : Step β) :
    increments E w s ≤ 1 := by
  unfold increments
  split <;> decide

/-! ### The view -/

def State.view (s : State) : View where
  conn := s.connection.map (·.connHandle)
  synced := decide (s.btpGen = some s.connGen)
  subscribed := (s.connection.map (·.subscribed)).getD false
  slot := s.inData.toList

/-- What one step owes: acts of the abstract peripheral, and no generation lag beyond the
increments it counts. -/
structure Step.Refines (E : Btp β) (w : World β) (s : Step β) : Prop where
  acts : Acts w.state.view (observe E w s).2 (observe E w s).1.state.view
  lag : ∀ lag, Within w.state.btpGen w.state.connGen lag →
    Within (observe E w s).1.state.btpGen (observe E w s).1.state.connGen
      (lag + increments E w s)

/-! ### Hooks -/

/-- Whatever becomes of a write, it concerns the buffer only. -/
theorem State.write_fst (s : State) (data : Mbuf) :
    ∃ inData, (s.write data).1 = { s with inData } := by
  unfold State.write
  repeat' split
  all_goals exact ⟨_, rfl⟩

/-- A write that finds room and is read exactly replaces the empty buffer by its payload. -/
theorem State.write_of_copiesExactly {s : State} {data : Mbuf} (hroom : s.inData.isEmpty = true)
    (hdata : data.CopiesExactly) :
    s.write data = ({ s with inData := ⟨data.payload, hdata.1⟩ }, .ok ()) := by
  have hread := hdata.2 (s.inData.resize maxMtuSize le_rfl) (BoundedVec.length_resize _ _)
  simp only [State.write, hroom, Bool.true_eq_false, if_false,
    BoundedVec.resizeDefault_of_le _ (le_refl maxMtuSize), hread, hdata.truncate]

/-- A write that finds the buffer occupied is refused and changes nothing. -/
theorem State.write_of_occupied {s : State} (data : Mbuf) (hfull : s.inData.isEmpty = false) :
    s.write data = (s, .error ()) := by
  simp only [State.write, hfull, if_true]

/-- A write that does not fit is refused, but it leaves the buffer that was prepared for it. -/
theorem State.write_of_oversized {s : State} {payload : Bytes} (hroom : s.inData.isEmpty = true)
    (hlen : maxMtuSize < payload.length) :
    s.write (.ofBytes payload) =
      ({ s with inData := s.inData.resize maxMtuSize le_rfl }, .error ()) := by
  have hread : ¬ payload.length ≤ (s.inData.resize maxMtuSize le_rfl).length := by
    rw [BoundedVec.length_resize]
    omega
  simp only [State.write, hroom, Bool.true_eq_false, if_false,
    BoundedVec.resizeDefault_of_le _ (le_refl maxMtuSize), Mbuf.ofBytes, if_neg hread]

theorem exec_write (w : World β) (conn attr : Handle) (data : Mbuf) :
    (hook (.gatts (.write conn attr data))).exec w =
      match (w.state.write data).2 with
      | .error _ => (w.setState (w.state.write data).1, bleAttErrInsufficientRes)
      | .ok _ => ((w.setState (w.state.write data).1).wakeIncoming, 0) := by
  simp only [hook, gattsHook, Hook.exec]
  cases (w.state.write data).2 <;> rfl

/-- A completion touches neither the state nor anything else that the pumps hold. -/
theorem exec_notifyComplete (w : World β) (conn attr : Handle) (indication : Bool) (status : Int) :
    ((hook (.gatts (.notifyComplete conn attr indication status))).exec w).1.state = w.state := by
  simp only [hook, gattsHook]
  split <;> rfl

theorem refines_of_view_eq {E : Btp β} {w : World β} {s : Step β}
    (hobs : (observe E w s).2 = []) (hview : (observe E w s).1.state.view = w.state.view)
    (hseen : (observe E w s).1.state.btpGen = w.state.btpGen)
    (hcounter : (observe E w s).1.state.connGen = w.state.connGen) : s.Refines E w := by
  constructor
  · rw [hobs, hview]
    exact .refl _
  · intro lag h
    rw [hseen, hcounter]
    exact h.mono (Nat.le_add_right _ _)

theorem refines_connect (E : Btp β) (w : World β) (connHandle : Handle) (u : Unit)
    (found : Except BleError BtAddr) (attMtu : Except BleError UInt16) {lag : Nat}
    (hlag : Within w.state.btpGen w.state.connGen lag) (hbudget : lag + 1 < 2 ^ 32) :
    (Step.event (.gap (.connect connHandle (.ok u) found attMtu))).Refines E w := by
  have hstale := hlag.ne_next hbudget
  constructor
  · have hview : (observe E w (.event (.gap (.connect connHandle (.ok u) found attMtu)))).1.state.view =
        ⟨some connHandle, false, false, []⟩ := by
      simp only [State.view, observe, step, hook, gapHook, Hook.exec, World.state_wakeIncoming,
        World.state_setNack, World.state_setState, State.connect, Option.map_some, Option.getD_some,
        BoundedVec.toList_empty, decide_eq_false hstale]
    rw [hview]
    exact (Act.record _ connHandle).acts
  · intro lag h
    have hcost : increments E w (.event (.gap (.connect connHandle (.ok u) found attMtu))) = 1 :=
      if_neg (counter_next_ne _)
    rw [hcost]
    exact h.next

/-- A change to the connection that keeps its handle and its subscription does not show. -/
theorem State.view_modifyConn {s : State} {connHandle : Handle} {f : Connection → Connection}
    (hhandle : ∀ c, (f c).connHandle = c.connHandle) (hsub : ∀ c, (f c).subscribed = c.subscribed) :
    (s.modifyConn connHandle f).view = s.view := by
  unfold State.modifyConn
  split
  · rename_i conn hconn
    split
    · simp [State.view, hconn, hhandle, hsub]
    · rfl
  · rfl

theorem refines_subscriptionChanged (E : Btp β) (w : World β) (connHandle attrHandle : Handle)
    (curIndicate : Bool) :
    (Step.event (.gatts (.subscriptionChanged connHandle attrHandle curIndicate))).Refines E w := by
  by_cases hattr : attrHandle = w.c2ValHandle
  · have hexec : (observe E w (.event (.gatts
        (.subscriptionChanged connHandle attrHandle curIndicate)))).1.state =
        w.state.setSubscribed connHandle curIndicate := by
      simp only [observe, step, hook, gattsHook, Hook.exec, if_pos hattr]
      rfl
    constructor
    · rw [hexec]
      by_cases htracked : w.state.connection.map (·.connHandle) = some connHandle
      · obtain ⟨conn, hconn, hhandle⟩ := Option.map_eq_some_iff.mp htracked
        have hobs : (observe E w (.event (.gatts
            (.subscriptionChanged connHandle attrHandle curIndicate)))).2 =
            [.reported curIndicate] := by
          simp only [observe, step, eventObs, hattr, htracked, and_self, if_true,
            List.filterMap_nil, List.append_nil]
        have hview : (w.state.setSubscribed connHandle curIndicate).view =
            { w.state.view with subscribed := curIndicate } := by
          simp [State.setSubscribed, State.modifyConn, hconn, hhandle, State.view]
        rw [hobs, hview]
        exact (Act.report _ curIndicate curIndicate id).acts
      · have hobs : (observe E w (.event (.gatts
            (.subscriptionChanged connHandle attrHandle curIndicate)))).2 = [] := by
          simp only [observe, step, eventObs, htracked, and_false, if_false, List.filterMap_nil,
            List.append_nil]
        have hsame : w.state.setSubscribed connHandle curIndicate = w.state := by
          unfold State.setSubscribed State.modifyConn
          split
          · rename_i conn hconn
            rw [if_neg fun h => htracked (by rw [hconn, Option.map_some, h])]
          · rfl
        rw [hobs, hsame]
        exact .refl _
    · intro lag h
      obtain ⟨connection, hmodify, -⟩ :=
        w.state.modifyConn_eq connHandle fun conn => { conn with subscribed := curIndicate }
      rw [hexec, State.setSubscribed, hmodify]
      exact h.mono (Nat.le_add_right _ _)
  · have hexec : (observe E w (.event (.gatts
        (.subscriptionChanged connHandle attrHandle curIndicate)))).1 = w := by
      simp only [observe, step, hook, gattsHook, Hook.exec, if_neg hattr]
    refine refines_of_view_eq ?_ (by rw [hexec]) (by rw [hexec]) (by rw [hexec])
    simp only [observe, step, eventObs, hattr, false_and, if_false, List.filterMap_nil,
      List.append_nil]

theorem refines_write (E : Btp β) (w : World β) (conn attr : Handle) (data : Mbuf)
    (hread : w.state.inData.isEmpty = true → data.CopiesExactly) :
    (Step.event (.gatts (.write conn attr data))).Refines E w := by
  by_cases hroom : w.state.inData.isEmpty = true
  · have hwrite := State.write_of_copiesExactly hroom (hread hroom)
    have hstate : (observe E w (.event (.gatts (.write conn attr data)))).1.state =
        { w.state with inData := ⟨data.payload, (hread hroom).1⟩ } := by
      simp only [observe, step, exec_write, hwrite]
      rfl
    have hobs : (observe E w (.event (.gatts (.write conn attr data)))).2 =
        [.wrote data.payload] := by
      simp only [observe, step, eventObs, exec_write, hwrite, if_true, List.filterMap_nil,
        List.append_nil]
    constructor
    · rw [hobs, hstate]
      exact (Act.write _ data.payload).acts
    · intro lag h
      rw [hstate]
      exact h.mono (Nat.le_add_right _ _)
  · have hwrite := State.write_of_occupied data (eq_false_of_ne_true hroom)
    have hexec : (observe E w (.event (.gatts (.write conn attr data)))).1 = w := by
      simp only [observe, step, exec_write, hwrite]
      rfl
    refine refines_of_view_eq ?_ (by rw [hexec]) (by rw [hexec]) (by rw [hexec])
    simp only [observe, step, eventObs, exec_write, hwrite, bleAttErrInsufficientRes]
    rfl

/-- **Every hook acts like the abstract peripheral.** -/
theorem refines_event (E : Btp β) (w : World β) (event : Event)
    (hread : ReadsExactly w (.event event)) {lag : Nat}
    (hlag : Within w.state.btpGen w.state.connGen lag)
    (hbudget : lag + increments E w (.event event) < 2 ^ 32) :
    (Step.event event).Refines E w := by
  cases event with
  | host event => cases event <;> exact refines_of_view_eq rfl rfl rfl rfl
  | gap event =>
      cases event with
      | connect connHandle status found attMtu =>
          cases status with
          | error e => exact refines_of_view_eq rfl rfl rfl rfl
          | ok u =>
              have hcost : increments E w
                  (.event (.gap (.connect connHandle (.ok u) found attMtu))) = 1 :=
                if_neg (counter_next_ne _)
              rw [hcost] at hbudget
              exact refines_connect E w connHandle u found attMtu hlag hbudget
      | disconnect connHandle reason =>
          refine ⟨(Act.drop _ _ rfl).acts, fun lag h => ?_⟩
          exact h.mono (Nat.le_add_right _ _)
      | mtu connHandle value =>
          obtain ⟨connection, hmodify, -⟩ :=
            w.state.modifyConn_eq connHandle fun conn => { conn with mtu := some value }
          have hbtp := congrArg State.btpGen hmodify
          have hgen := congrArg State.connGen hmodify
          exact refines_of_view_eq rfl (State.view_modifyConn (fun _ => rfl) fun _ => rfl) hbtp hgen
      | other => exact refines_of_view_eq rfl rfl rfl rfl
  | gatts event =>
      cases event with
      | register reg =>
          cases reg with
          | characteristic uuid valHandle =>
              have hstate : (observe E w
                  (.event (.gatts (.register (.characteristic uuid valHandle))))).1.state =
                  w.state := by
                simp only [observe, step, hook, gattsHook]
                split <;> rfl
              exact refines_of_view_eq rfl (by rw [hstate]) (by rw [hstate]) (by rw [hstate])
          | other => exact refines_of_view_eq rfl rfl rfl rfl
      | write conn attr data => exact refines_write E w conn attr data hread
      | read conn attr => exact refines_of_view_eq rfl rfl rfl rfl
      | subscriptionChanged connHandle attrHandle curIndicate =>
          exact refines_subscriptionChanged E w connHandle attrHandle curIndicate
      | notifyComplete conn attr indication status =>
          have hstate := exec_notifyComplete w conn attr indication status
          exact refines_of_view_eq rfl (congrArg State.view hstate)
            (congrArg State.btpGen hstate) (congrArg State.connGen hstate)

/-! ### Pumps -/

/-- What an iteration owes, as a step does; an iteration starts no generation. -/
structure Iteration.Refines (w : World β) (it : Iteration β) : Prop where
  acts : Acts w.state.view (it.calls.filterMap Call.obs) it.world.state.view
  connGen : it.world.state.connGen = w.state.connGen
  btpGen : it.world.state.btpGen = w.state.btpGen ∨
    it.world.state.btpGen = some w.state.connGen

theorem syncBtp_view (E : Btp β) (w : World β) :
    (w.syncBtp E).1.state.view = { w.state.view with synced := true } := by
  rw [World.syncBtp_state]
  simp [State.view]

theorem syncBtp_acts (E : Btp β) (w : World β) :
    Acts w.state.view ((w.syncBtp E).2.filterMap Call.obs) (w.syncBtp E).1.state.view := by
  rw [syncBtp_view]
  by_cases h : w.state.btpGen = some w.state.connGen
  · have hview : { w.state.view with synced := true } = w.state.view := by
      simp [State.view, h]
    rw [World.syncBtp, State.syncBtp_of_synced E w.btp h, hview]
    exact .refl _
  · rw [World.syncBtp, State.syncBtp_of_stale E w.btp h]
    exact (Act.reset _).acts

/-- An iteration that synchronises and then acts on. -/
theorem Iteration.Refines.of_synced {E : Btp β} {w : World β} {it : Iteration β}
    (calls : List Call) (hcalls : it.calls = (w.syncBtp E).2 ++ calls)
    (hacts : Acts { w.state.view with synced := true } (calls.filterMap Call.obs)
      it.world.state.view)
    (hcounter : it.world.state.connGen = w.state.connGen)
    (hseen : it.world.state.btpGen = some w.state.connGen) : it.Refines w := by
  refine ⟨?_, hcounter, Or.inr hseen⟩
  rw [hcalls, List.filterMap_append]
  refine (syncBtp_acts E w).trans ?_
  rw [syncBtp_view]
  exact hacts

theorem Iteration.Refines.nothing {w : World β} {processed : Processed} :
    (Iteration.mk w [] processed).Refines w :=
  ⟨.refl _, rfl, Or.inl rfl⟩

theorem refines_processIncoming (E : Btp β) (w : World β) :
    (processIncoming E w).Refines w := by
  unfold processIncoming
  split
  · exact .nothing
  · rename_i conn hconn
    have hstate := World.syncBtp_state E w
    have htracked : w.state.view.conn ≠ none := by simp [State.view, hconn]
    have hslot : (w.syncBtp E).1.state.inData.toList = w.state.view.slot := by
      rw [hstate]
      rfl
    simp only
    split
    · exact .of_synced (E := E) [] (by simp) (by rw [syncBtp_view]; exact .refl _)
        (by rw [hstate]) (by rw [hstate])
    · rename_i hfull
      have hhand : ∀ result, Act { w.state.view with synced := true }
          [.btp (.processIncoming conn.mtu conn.peer (w.syncBtp E).1.state.inData.toList result)]
          { w.state.view with synced := true } := by
        intro result
        rw [hslot]
        refine Act.hand _ conn.mtu conn.peer result htracked rfl fun h => ?_
        rw [← hslot] at h
        exact hfull ((BoundedVec.isEmpty_iff _).mpr h)
      split
      · rename_i btp e hanswer
        refine .of_synced (E := E) _ rfl ?_ (by simp [hstate]) (by simp [hstate])
        rw [World.state_setBtp, syncBtp_view]
        exact (hhand (.error e)).acts
      · rename_i btp hanswer
        refine .of_synced (E := E) _ rfl ?_ (by simp [hstate]) (by simp [hstate])
        have hview : ({ (w.syncBtp E).1.state with inData := .empty } : State).view =
            { w.state.view with synced := true, slot := [] } := by
          rw [hstate]
          simp [State.view]
        rw [World.state_setBtp, World.state_setState, hview]
        exact (hhand (.ok ())).acts.tail (.clear _)

/-- The completions delivered from within `indicate` leave the state alone. -/
theorem during_state (conn c2 : Handle) (completions : List (Bool × Int)) (w : World β) :
    (completions.foldl (fun w completion =>
      ((gattsHook (.notifyComplete conn c2 completion.1 completion.2)).exec w).1) w).state =
      w.state := by
  induction completions generalizing w with
  | nil => rfl
  | cons completion completions ih =>
      rw [List.foldl_cons, ih]
      exact exec_notifyComplete w conn c2 completion.1 completion.2

theorem submit_state (d : Driver) (conn c2 : Handle) (data : Bytes) (w : World β) :
    (submit d conn c2 data w).world.state = w.state := by
  unfold submit
  simp only
  split
  · exact during_state conn c2 d.during (w.setNack true)
  · exact during_state conn c2 d.during (w.setNack true)

/-- The fields of the state that the incoming pump may change. -/
theorem processIncoming_state (E : Btp β) (w : World β) :
    ∃ btpGen inData, (processIncoming E w).world.state = { w.state with btpGen, inData } := by
  have hstate := World.syncBtp_state E w
  unfold processIncoming
  split
  · exact ⟨_, _, rfl⟩
  dsimp only
  split
  · exact ⟨_, _, hstate⟩
  split
  · exact ⟨_, _, hstate⟩
  · exact ⟨_, _, by rw [World.state_setBtp, World.state_setState, hstate]⟩

/-- The fields of the state that the outgoing pump may change. -/
theorem processOutgoing_state (E : Btp β) (d : Driver) (w : World β) :
    ∃ btpGen outData, (processOutgoing E d w).world.state = { w.state with btpGen, outData } := by
  have hstate := World.syncBtp_state E w
  unfold processOutgoing
  split
  · exact ⟨_, _, rfl⟩
  split
  · exact ⟨_, _, rfl⟩
  dsimp only
  split
  · exact ⟨_, _, hstate⟩
  split
  · exact ⟨_, _, hstate⟩
  split
  · exact ⟨_, _, by rw [World.state_setBtp, World.state_setState, hstate]⟩
  split
  · exact ⟨_, _, by rw [World.state_setBtp, World.state_setState, hstate]⟩
  · exact ⟨_, _, by rw [submit_state, World.state_setBtp, World.state_setState, hstate]⟩

theorem submit_obs (d : Driver) (conn c2 : Handle) (data : Bytes) (w : World β) :
    (submit d conn c2 data w).calls.filterMap Call.obs = [.indicate conn data] := by
  unfold submit
  simp only
  split <;> rfl

theorem refines_processOutgoing (E : Btp β) (d : Driver) (w : World β) :
    (processOutgoing E d w).Refines w := by
  unfold processOutgoing
  split
  · exact .nothing
  · rename_i conn hconn
    split
    · exact .nothing
    · rename_i hsub
      have hstate := World.syncBtp_state E w
      have htracked : w.state.view.conn = some conn.connHandle := by simp [State.view, hconn]
      have hsubscribed : w.state.view.subscribed = true := by simpa [State.view, hconn] using hsub
      have hask : ∀ result, Act { w.state.view with synced := true }
          [.btp (.processOutgoing conn.mtu result)] { w.state.view with synced := true } :=
        fun result => Act.ask _ conn.mtu result (by simp [htracked]) rfl
      have hview : ∀ buf, ({ (w.syncBtp E).1.state with outData := buf } : State).view =
          { w.state.view with synced := true } := fun buf => by rw [← syncBtp_view E]; rfl
      have hidle : (Iteration.mk (w.syncBtp E).1 (w.syncBtp E).2 (.ok false)).Refines w :=
        .of_synced (E := E) [] (by simp) (by rw [syncBtp_view]; exact .refl _)
          (by rw [hstate]) (by rw [hstate])
      simp only
      split
      · exact hidle
      · split
        · exact hidle
        · split
          · rename_i btp e hanswer
            refine .of_synced (E := E) _ rfl ?_ (by simp [hstate]) (by simp [hstate])
            rw [World.state_setBtp, World.state_setState, hview]
            exact (hask (.error e)).acts
          · rename_i btp frame hanswer
            split
            · refine .of_synced (E := E) _ rfl ?_ (by simp [hstate]) (by simp [hstate])
              rw [World.state_setBtp, World.state_setState, hview]
              exact (hask (.ok frame.toList)).acts
            · refine .of_synced (E := E) _ (List.append_assoc _ _ _) ?_
                (by simp [submit_state, hstate]) (by simp [submit_state, hstate])
              rw [submit_state, World.state_setBtp, World.state_setState, hview,
                List.filterMap_append, submit_obs, take_overwrite_frame]
              exact (Act.send { w.state.view with synced := true } conn.connHandle conn.mtu
                frame.toList htracked rfl hsubscribed).acts

theorem readvertise_view (d : Driver) (w : World β) :
    (readvertise d w).1.state.view = w.state.view ∧
      (readvertise d w).1.state.connGen = w.state.connGen ∧
      (readvertise d w).1.state.btpGen = w.state.btpGen := by
  unfold readvertise
  split <;> exact ⟨rfl, rfl, rfl⟩

theorem advertise_obs (d : Driver) (w : World β) :
    (advertise d w).1.filterMap Call.obs = [] := by
  unfold advertise
  repeat' split
  all_goals rfl

theorem readvertise_obs (d : Driver) (w : World β) :
    (readvertise d w).2.filterMap Call.obs = [] := by
  unfold readvertise
  split
  · exact advertise_obs d w
  · rfl

theorem refines_iterateOutgoing (E : Btp β) (d : Driver) (w : World β) :
    (iterateOutgoing E d w).Refines w := by
  obtain ⟨hview, hcounter, hseen⟩ := readvertise_view d w
  obtain ⟨hacts, hcounter', hseen'⟩ := refines_processOutgoing E d (readvertise d w).1
  refine ⟨?_, hcounter'.trans hcounter, ?_⟩
  · simp only [iterateOutgoing, List.filterMap_append, readvertise_obs, List.nil_append]
    rwa [hview] at hacts
  · rwa [hcounter, hseen] at hseen'

theorem Iteration.Refines.step {E : Btp β} {w : World β} {s : Step β} {it : Iteration β}
    (h : it.Refines w) (hstep : Nimble.step E w s = it.finish)
    (hpump : ∀ event, s ≠ .event event) : s.Refines E w := by
  have hobs : observe E w s = (it.finish.1, it.calls.filterMap Call.obs) := by
    cases s with
    | event event => exact absurd rfl (hpump event)
    | _ => simp only [observe, hstep, List.nil_append]; rfl
  constructor
  · rw [hobs]
    exact h.acts
  · intro lag hlag
    rw [hobs]
    refine Within.mono ?_ (Nat.le_add_right _ _)
    simp only [Iteration.finish, World.state_setEnded, h.connGen]
    rcases h.btpGen with hseen | hseen
    · rw [hseen]
      exact hlag
    · rw [hseen]
      exact within_self _ _

/-- **Every step acts like the abstract peripheral.** -/
theorem refines_step (E : Btp β) (w : World β) (s : Step β) (hread : ReadsExactly w s) {lag : Nat}
    (hlag : Within w.state.btpGen w.state.connGen lag)
    (hbudget : lag + increments E w s < 2 ^ 32) : s.Refines E w := by
  cases s with
  | event event => exact refines_event E w event hread hlag hbudget
  | incoming =>
      by_cases h : w.ended = none
      · exact (refines_processIncoming E w).step (if_pos h) (by simp)
      · have hstep : step E w .incoming = (w, []) := if_neg h
        exact refines_of_view_eq (by simp [observe, hstep]) (by simp [observe, hstep])
          (by simp [observe, hstep]) (by simp [observe, hstep])
  | outgoing d =>
      by_cases h : w.ended = none
      · exact (refines_iterateOutgoing E d w).step (if_pos h) (by simp)
      · have hstep : step E w (.outgoing d) = (w, []) := if_neg h
        exact refines_of_view_eq (by simp [observe, hstep]) (by simp [observe, hstep])
          (by simp [observe, hstep]) (by simp [observe, hstep])
  | matter btp => exact refines_of_view_eq rfl rfl rfl rfl

/-- **A run keeps the sessions of two connections apart.** -/
theorem isolated_run (E : Btp β) (c : Context) (c2ValHandle : Handle) (btp : β)
    (steps : List (Step β))
    (hread : Along (observe E) ReadsExactly (.fresh c c2ValHandle btp) steps)
    (hbudget : total (observe E) (increments E) (.fresh c c2ValHandle btp) steps < 2 ^ 32) :
    Isolated (outputs (observe E) (.fresh c c2ValHandle btp) steps) := by
  have hinv := run_induction (observe E)
    (I := fun history w steps => Isolated history ∧ Matches history w.state.view ∧
      Along (observe E) ReadsExactly w steps ∧ ∃ lag,
        Within w.state.btpGen w.state.connGen lag ∧
        lag + total (observe E) (increments E) w steps < 2 ^ 32) ?_
    (h := []) (s := .fresh c c2ValHandle btp) (t := steps)
    ⟨throughout_nil _, matches_nil _ rfl, hread, 0, within_none _ _, by omega⟩
  · exact hinv.1
  · rintro history w s steps ⟨hiso, hmatch, hguard, lag, hlag, hsum⟩
    rw [total_cons, ← Nat.add_assoc] at hsum
    have href := refines_step E w s hguard.1 hlag (by omega)
    obtain ⟨hiso', hmatch'⟩ := href.acts.sound hiso hmatch
    exact ⟨hiso', hmatch', hguard.2, _, href.lag lag hlag, hsum⟩

end EspIdfMatter.Nimble
