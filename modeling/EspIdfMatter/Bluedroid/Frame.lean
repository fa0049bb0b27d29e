import EspIdfMatter.Bluedroid.Pumps

/-! What the handlers leave alone, and which calls they make. The events about the service change none
of the fields that belong to the connection and its session; only a write is ever responded to. -/

namespace EspIdfMatter.Bluedroid

open Library

variable {β : Type}

@[simp] theorem Handled.andThen_world {α γ : Type} (h : Handled β α)
    (next : α → World β → Handled β γ) :
    (h.andThen next).world = match h.result with
      | .error _ => h.world
      | .ok a => (next a h.world).world := by
  unfold Handled.andThen
  cases h.result <;> rfl

/-- The fields that belong to the connection and its session. -/
structure State.SameSession (s s' : State) : Prop where
  connection : s'.connection = s.connection
  connGen : s'.connGen = s.connGen
  btpGen : s'.btpGen = s.btpGen
  inData : s'.inData = s.inData
  inTrans : s'.inTrans = s.inTrans
  outNack : s'.outNack = s.outNack

theorem State.SameSession.refl (s : State) : s.SameSession s := ⟨rfl, rfl, rfl, rfl, rfl, rfl⟩

/-- The events about the service itself, and those that are ignored. -/
def GattsEvent.Registers : GattsEvent → Prop
  | .serviceRegistered _ _ | .serviceCreated _ _ | .characteristicAdded _ _ _ _
  | .descriptorAdded _ _ _ _ | .serviceDeleted _ _ | .serviceUnregistered _ _ | .other => True
  | _ => False

/-- A check of a status goes on in the same world, or not at all. -/
theorem checkGattStatus_andThen_sameSession {γ : Type} (w : World β) (status : GattStatus)
    (next : Unit → World β → Handled β γ) (h : w.state.SameSession (next () w).world.state) :
    w.state.SameSession ((checkGattStatus w status).andThen next).world.state := by
  cases status with
  | ok => simpa [checkGattStatus] using h
  | failed code =>
      simp only [checkGattStatus, Handled.andThen_world]
      exact .refl _

theorem registers_sameSession (cfg : Config) (drv : Driver) (gattIf : GattInterface)
    {event : GattsEvent} (hevent : event.Registers) (w : World β) :
    w.state.SameSession (onGattsEvent cfg drv gattIf event w).world.state := by
  cases event with
  | serviceRegistered status appId =>
      refine checkGattStatus_andThen_sameSession w status _ ?_
      split
      · simpa [createService] using ⟨rfl, rfl, rfl, rfl, rfl, rfl⟩
      · exact .refl _
  | serviceCreated status serviceHandle =>
      refine checkGattStatus_andThen_sameSession w status _ ?_
      simpa [configureAndStartService] using ⟨rfl, rfl, rfl, rfl, rfl, rfl⟩
  | characteristicAdded status attrHandle serviceHandle charUuid =>
      refine checkGattStatus_andThen_sameSession w status _ ?_
      dsimp only [registerCharacteristic]
      repeat' split
      · exact .refl _
      · exact ⟨rfl, rfl, rfl, rfl, rfl, rfl⟩
      · simpa using ⟨rfl, rfl, rfl, rfl, rfl, rfl⟩
      · exact .refl _
  | descriptorAdded status attrHandle serviceHandle descrUuid =>
      refine checkGattStatus_andThen_sameSession w status _ ?_
      dsimp only [registerCccdDescriptor]
      split
      · exact ⟨rfl, rfl, rfl, rfl, rfl, rfl⟩
      · exact .refl _
  | serviceDeleted status serviceHandle =>
      refine checkGattStatus_andThen_sameSession w status _ ?_
      dsimp only [deleteService]
      split
      · exact ⟨rfl, rfl, rfl, rfl, rfl, rfl⟩
      · exact .refl _
  | serviceUnregistered status serviceHandle =>
      refine checkGattStatus_andThen_sameSession w status _ ?_
      dsimp only [unregisterService]
      split
      · exact ⟨rfl, rfl, rfl, rfl, rfl, rfl⟩
      · exact .refl _
  | other => exact .refl _
  | _ => exact hevent.elim

/-! ### What the other events do to the state -/

section Events

variable (cfg : Config) (drv : Driver) (gattIf : GattInterface) (w : World β)

/-- Only the first of several connections is tracked. -/
theorem peerConnected_state (connId : Handle) (addr : BdAddr) :
    (onGattsEvent cfg drv gattIf (.peerConnected connId addr) w).world.state =
      if w.state.connection = none then w.state.createConn connId addr else w.state := by
  simp only [onGattsEvent, Handled.andThen_world, createConn]
  split_ifs with hconn
  · cases hr : (perform drv (w.setState (w.state.createConn connId addr)).wakeIncoming
        [.setConnParamsConf addr 10 20 0 400]).result with
    | error e => simp [Handled.andThen, hr]
    | ok u => simp [Handled.andThen, hr]
  · simp

/-- Only the tracked peer's disconnection counts. -/
theorem peerDisconnected_state (connId : Handle) (addr : BdAddr) :
    (onGattsEvent cfg drv gattIf (.peerDisconnected connId addr) w).world.state =
      if (w.state.connection.map fun conn => conn.peer) = some addr then w.state.deleteConn
      else w.state := by
  simp only [onGattsEvent, Handled.andThen_world, deleteConn]
  split_ifs with hconn <;> simp

theorem confirm_state (status : GattStatus) (connId : Handle) :
    (onGattsEvent cfg drv gattIf (.confirm status connId) w).world.state =
      match status with
      | .ok => { w.state with outNack := false }
      | .failed _ => w.state := by
  cases status <;> simp [onGattsEvent, checkGattStatus]

/-- Responding to a write leaves the session alone. -/
theorem sendWriteResponse_sameSession (ev : Write) :
    w.state.SameSession (sendWriteResponse drv gattIf ev w).world.state := by
  unfold sendWriteResponse
  split
  · exact .refl _
  · split
    · dsimp only
      split
      · exact ⟨rfl, rfl, rfl, rfl, rfl, rfl⟩
      · rw [perform_world]
        exact ⟨rfl, rfl, rfl, rfl, rfl, rfl⟩
    · rw [perform_world]
      exact .refl _

/-- What a write does to the session, it does under the state lock. -/
theorem write_sameSession (ev : Write) :
    (writeLocked ev w).1.state.SameSession
      (onGattsEvent cfg drv gattIf (.write ev) w).world.state := by
  simp only [onGattsEvent, write]
  split
  · exact sendWriteResponse_sameSession drv gattIf _ ev
  · exact .refl _

end Events

/-! ### The engine and the pumps -/

/-- Neither the engine nor the pumps are touched. -/
structure Handled.Keeps {α : Type} (w : World β) (h : Handled β α) : Prop where
  btp : h.world.btp = w.btp
  ended : h.world.ended = w.ended

theorem Handled.Keeps.andThen {α γ : Type} {w : World β} {h : Handled β α} (hh : h.Keeps w)
    {next : α → World β → Handled β γ} (hnext : ∀ a w, (next a w).Keeps w) :
    (h.andThen next).Keeps w := by
  constructor
  · rw [Handled.andThen_world]
    split
    · exact hh.btp
    · exact (hnext _ _).btp.trans hh.btp
  · rw [Handled.andThen_world]
    split
    · exact hh.ended
    · exact (hnext _ _).ended.trans hh.ended

theorem keeps_perform (drv : Driver) (w : World β) (calls : List DriverCall) :
    (perform drv w calls).Keeps w :=
  ⟨by rw [perform_world], by rw [perform_world]⟩

theorem keeps_perform_setState (drv : Driver) (w : World β) (s : State) (calls : List DriverCall) :
    (perform drv (w.setState s) calls).Keeps w :=
  ⟨by rw [perform_world]; rfl, by rw [perform_world]; rfl⟩

theorem keeps_checkGattStatus (w : World β) (status : GattStatus) :
    (checkGattStatus w status).Keeps w := by
  cases status <;> exact ⟨rfl, rfl⟩

theorem writeLocked_keeps (w : World β) (ev : Write) :
    (writeLocked ev w).1.btp = w.btp ∧ (writeLocked ev w).1.ended = w.ended := by
  unfold writeLocked
  repeat' split
  all_goals exact ⟨rfl, rfl⟩

theorem keeps_sendWriteResponse (drv : Driver) (gattIf : GattInterface) (ev : Write) (w : World β) :
    (sendWriteResponse drv gattIf ev w).Keeps w := by
  unfold sendWriteResponse
  split
  · exact ⟨rfl, rfl⟩
  · split
    · dsimp only
      split
      · exact ⟨rfl, rfl⟩
      · exact keeps_perform_setState drv w _ _
    · exact keeps_perform drv w _

theorem keeps_onGattsEvent (cfg : Config) (drv : Driver) (gattIf : GattInterface)
    (event : GattsEvent) (w : World β) : (onGattsEvent cfg drv gattIf event w).Keeps w := by
  unfold onGattsEvent
  cases event with
  | serviceRegistered status appId =>
      refine (keeps_checkGattStatus w status).andThen ?_
      intro _ w
      split
      · exact keeps_perform_setState drv w _ _
      · exact ⟨rfl, rfl⟩
  | serviceCreated status serviceHandle =>
      refine (keeps_checkGattStatus w status).andThen ?_
      exact fun _ w => keeps_perform_setState drv w _ _
  | characteristicAdded status attrHandle serviceHandle charUuid =>
      refine (keeps_checkGattStatus w status).andThen ?_
      intro _ w
      unfold registerCharacteristic
      repeat' split
      · exact ⟨rfl, rfl⟩
      · exact ⟨rfl, rfl⟩
      · exact keeps_perform_setState drv w _ _
      · exact ⟨rfl, rfl⟩
  | descriptorAdded status attrHandle serviceHandle descrUuid =>
      refine (keeps_checkGattStatus w status).andThen ?_
      intro _ w
      unfold registerCccdDescriptor
      split <;> exact ⟨rfl, rfl⟩
  | serviceDeleted status serviceHandle =>
      refine (keeps_checkGattStatus w status).andThen ?_
      intro _ w
      unfold deleteService
      split <;> exact ⟨rfl, rfl⟩
  | serviceUnregistered status serviceHandle =>
      refine (keeps_checkGattStatus w status).andThen ?_
      intro _ w
      unfold unregisterService
      split <;> exact ⟨rfl, rfl⟩
  | mtu connId mtu => exact ⟨rfl, rfl⟩
  | peerConnected connId addr =>
      have hcreate : (createConn drv connId addr w).Keeps w := by
        unfold createConn
        split
        · refine Handled.Keeps.andThen ?_ fun _ w => ⟨rfl, rfl⟩
          exact ⟨by rw [perform_world]; rfl, by rw [perform_world]; rfl⟩
        · exact ⟨rfl, rfl⟩
      refine hcreate.andThen ?_
      intro done w
      split
      · exact keeps_perform drv w _
      · exact ⟨rfl, rfl⟩
  | peerDisconnected connId addr =>
      have hdelete : (deleteConn addr w).Keeps w := by
        unfold deleteConn
        split <;> exact ⟨rfl, rfl⟩
      refine hdelete.andThen ?_
      intro done w
      split
      · exact keeps_perform drv w _
      · exact ⟨rfl, rfl⟩
  | write ev =>
      obtain ⟨hbtp, hended⟩ := writeLocked_keeps w ev
      simp only [write]
      split
      · obtain ⟨hbtp', hended'⟩ := keeps_sendWriteResponse drv gattIf ev (writeLocked ev w).1
        exact ⟨hbtp'.trans hbtp, hended'.trans hended⟩
      · exact ⟨hbtp, hended⟩
  | confirm status connId =>
      refine (keeps_checkGattStatus w status).andThen ?_
      exact fun _ _ => ⟨rfl, rfl⟩
  | other => exact ⟨rfl, rfl⟩

/-! ### The calls of the handlers -/

/-- Only calls of this kind are made. -/
def Handled.Only {α : Type} (P : Call → Prop) (h : Handled β α) : Prop := ∀ call ∈ h.calls, P call

section Only

variable {P : Call → Prop}

theorem Handled.only_nil {α : Type} {h : Handled β α} (hcalls : h.calls = []) : h.Only P := by
  intro call hmem
  rw [hcalls] at hmem
  cases hmem

theorem only_perform (drv : Driver) (w : World β) (calls : List DriverCall)
    (hcalls : ∀ call ∈ calls, ∀ r, P (.driver call r)) : (perform drv w calls).Only P := by
  induction calls with
  | nil => exact Handled.only_nil rfl
  | cons call calls ih =>
      have htail := ih fun call' h => hcalls call' (List.mem_cons_of_mem _ h)
      unfold perform
      split
      · intro call' hmem
        rw [List.mem_singleton.mp hmem]
        exact hcalls call List.mem_cons_self _
      · intro call' hmem
        rcases List.mem_cons.mp hmem with rfl | hmem
        · exact hcalls call List.mem_cons_self _
        · exact htail call' hmem

theorem Handled.Only.andThen {α γ : Type} {h : Handled β α} (hh : h.Only P)
    {next : α → World β → Handled β γ} (hnext : ∀ a w, (next a w).Only P) :
    (h.andThen next).Only P := by
  unfold Handled.andThen
  cases h.result with
  | error e => exact hh
  | ok a =>
      intro call hmem
      rcases List.mem_append.mp hmem with hmem | hmem
      · exact hh call hmem
      · exact hnext a h.world call hmem

theorem only_checkGattStatus (w : World β) (status : GattStatus) :
    (checkGattStatus w status).Only P := by
  cases status <;> exact Handled.only_nil rfl

/-- Calls that fail to select anything. -/
theorem Handled.Only.filterMap {α ο : Type} {h : Handled β α} (hh : h.Only P) {f : Call → Option ο}
    (hf : ∀ call, P call → f call = none) : h.calls.filterMap f = [] :=
  List.filterMap_eq_nil_iff.mpr fun call hmem => hf call (hh call hmem)

end Only

/-- The calls that concern the service and the advertising, and not a connected peer's requests. -/
def Call.Local : Call → Prop
  | .driver (.sendResponse _ _ _ _ _) _ | .driver (.indicate _ _ _ _) _ | .btp _ => False
  | .driver _ _ => True

/-- A response to this write. -/
def Call.Responds (ev : Write) : Call → Prop
  | .driver (.sendResponse _ connId transId _ _) _ => connId = ev.connId ∧ transId = ev.transId
  | _ => False

theorem only_sendWriteResponse (drv : Driver) (gattIf : GattInterface) (ev : Write) (w : World β) :
    (sendWriteResponse drv gattIf ev w).Only (Call.Responds ev) := by
  have hresponds : ∀ (w : World β) response, (perform drv w [.sendResponse gattIf ev.connId
      ev.transId .ok response]).Only (Call.Responds ev) := by
    intro w response
    refine only_perform drv w _ fun call hmem r => ?_
    rw [List.mem_singleton.mp hmem]
    exact ⟨rfl, rfl⟩
  unfold sendWriteResponse
  split
  · exact Handled.only_nil rfl
  · split
    · dsimp only
      split
      · exact Handled.only_nil rfl
      · exact hresponds _ _
    · exact hresponds _ _

theorem only_write (cfg : Config) (drv : Driver) (gattIf : GattInterface) (ev : Write)
    (w : World β) : (onGattsEvent cfg drv gattIf (.write ev) w).Only (Call.Responds ev) := by
  simp only [onGattsEvent, write]
  split
  · exact only_sendWriteResponse drv gattIf ev _
  · exact Handled.only_nil rfl

/-- **Only a write is ever responded to.** -/
theorem only_onGattsEvent (cfg : Config) (drv : Driver) (gattIf : GattInterface)
    {event : GattsEvent} (hevent : ∀ ev, event ≠ .write ev) (w : World β) :
    (onGattsEvent cfg drv gattIf event w).Only Call.Local := by
  have hlocal : ∀ (w : World β) calls, (∀ call ∈ calls, ∀ r, Call.Local (.driver call r)) →
      (perform drv w calls).Only Call.Local := only_perform drv
  cases event with
  | serviceRegistered status appId =>
      refine (only_checkGattStatus w status).andThen fun _ w => ?_
      split
      · exact hlocal _ _ (by simp [Call.Local])
      · exact Handled.only_nil rfl
  | serviceCreated status serviceHandle =>
      refine (only_checkGattStatus w status).andThen fun _ w => ?_
      exact hlocal _ _ (by simp [Call.Local, characteristics])
  | characteristicAdded status attrHandle serviceHandle charUuid =>
      refine (only_checkGattStatus w status).andThen fun _ w => ?_
      unfold registerCharacteristic
      repeat' split
      · exact Handled.only_nil rfl
      · exact Handled.only_nil rfl
      · exact hlocal _ _ (by simp [Call.Local])
      · exact Handled.only_nil rfl
  | descriptorAdded status attrHandle serviceHandle descrUuid =>
      refine (only_checkGattStatus w status).andThen fun _ w => ?_
      unfold registerCccdDescriptor
      split <;> exact Handled.only_nil rfl
  | serviceDeleted status serviceHandle =>
      refine (only_checkGattStatus w status).andThen fun _ w => ?_
      unfold deleteService
      split <;> exact Handled.only_nil rfl
  | serviceUnregistered status serviceHandle =>
      refine (only_checkGattStatus w status).andThen fun _ w => ?_
      unfold unregisterService
      split <;> exact Handled.only_nil rfl
  | mtu connId mtu => exact Handled.only_nil rfl
  | peerConnected connId addr =>
      have hcreate : (createConn drv connId addr w).Only Call.Local := by
        unfold createConn
        split
        · exact (hlocal _ _ (by simp [Call.Local])).andThen fun _ _ => Handled.only_nil rfl
        · exact Handled.only_nil rfl
      refine hcreate.andThen fun done w => ?_
      split
      · exact hlocal _ _ (by simp [Call.Local])
      · exact Handled.only_nil rfl
  | peerDisconnected connId addr =>
      have hdelete : (deleteConn addr w).Only Call.Local := by
        unfold deleteConn
        split <;> exact Handled.only_nil rfl
      refine hdelete.andThen fun done w => ?_
      split
      · exact hlocal _ _ (by simp [Call.Local])
      · exact Handled.only_nil rfl
  | write ev => exact absurd rfl (hevent ev)
  | confirm status connId =>
      exact (only_checkGattStatus w status).andThen fun _ _ => Handled.only_nil rfl
  | other => exact Handled.only_nil rfl

theorem only_onGapEvent (drv : Driver) (event : BleGapEvent) (w : World β) :
    (onGapEvent drv event w).Only Call.Local := by
  cases event with
  | rawAdvertisingConfigured status =>
      have hcheck : (checkBtStatus w status).Only Call.Local := by
        cases status <;> exact Handled.only_nil rfl
      exact hcheck.andThen fun _ w => only_perform drv _ _ (by simp [Call.Local])
  | other => exact Handled.only_nil rfl

theorem onGapEvent_world (drv : Driver) (event : BleGapEvent) (w : World β) :
    (onGapEvent drv event w).world = w := by
  cases event with
  | rawAdvertisingConfigured status => cases status <;> simp [onGapEvent, checkBtStatus]
  | other => rfl

/-- A selection that ignores the local calls selects nothing of a handler's but responses. -/
theorem filterMap_onGattsEvent {ο : Type} {f : Call → Option ο} (hlocal : ∀ call, call.Local → f call = none)
    (cfg : Config) (drv : Driver) (gattIf : GattInterface) {event : GattsEvent}
    (hresponds : ∀ ev, event = .write ev → ∀ call, Call.Responds ev call → f call = none)
    (w : World β) : (onGattsEvent cfg drv gattIf event w).calls.filterMap f = [] := by
  by_cases hwrite : ∃ ev, event = .write ev
  · obtain ⟨ev, rfl⟩ := hwrite
    exact (only_write cfg drv gattIf ev w).filterMap (hresponds ev rfl)
  · push Not at hwrite
    exact (only_onGattsEvent cfg drv gattIf hwrite w).filterMap hlocal

end EspIdfMatter.Bluedroid
