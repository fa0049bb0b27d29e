import EspIdfMatter.Bluedroid.FlowControl

/-! The tasks of the Bluedroid peripheral, with whether its pumps wait. The signals of a handler are kept
apart from what it does to the state: they come later, one by one. -/

namespace EspIdfMatter.Bluedroid

open Library Library.Machine

variable {β : Type}

/-! ### What an event does -/

/-- The effect of an event on the context. -/
inductive Effect (c : Context) : GattsEvent → Context → Prop where
  | nothing (event : GattsEvent) : Effect c event c
  | gattIf (status : GattStatus) (appId : UInt16) (gattIf : GattInterface) :
      Effect c (.serviceRegistered status appId) { c with state.gattIf := some gattIf }
  | serviceHandle (status : GattStatus) (serviceHandle : Handle) :
      Effect c (.serviceCreated status serviceHandle) { c with state.serviceHandle := some serviceHandle }
  | c1Handle (status : GattStatus) (attrHandle serviceHandle : Handle) (charUuid : Uuid) :
      Effect c (.characteristicAdded status attrHandle serviceHandle charUuid)
        { c with state.c1Handle := some attrHandle }
  | c2Handle (status : GattStatus) (attrHandle serviceHandle : Handle) (charUuid : Uuid) :
      Effect c (.characteristicAdded status attrHandle serviceHandle charUuid)
        { c with state.c2Handle := some attrHandle }
  | c2CccdHandle (status : GattStatus) (attrHandle serviceHandle : Handle)
      (hown : c.state.serviceHandle = some serviceHandle) :
      Effect c (.descriptorAdded status attrHandle serviceHandle .cccd)
        { c with state.c2CccdHandle := some attrHandle }
  | deleted (status : GattStatus) (serviceHandle : Handle)
      (hown : c.state.serviceHandle = some serviceHandle) :
      Effect c (.serviceDeleted status serviceHandle)
        { c with state.c1Handle := none, state.c2Handle := none, state.c2CccdHandle := none }
  | unregistered (status : GattStatus) (serviceHandle : Handle)
      (hown : c.state.serviceHandle = some serviceHandle) :
      Effect c (.serviceUnregistered status serviceHandle)
        { c with state.gattIf := none, state.serviceHandle := none }
  | mtu (connId : Handle) (mtu : UInt16) :
      Effect c (.mtu connId mtu) { c with state := c.state.registerConnMtu connId mtu }
  | connected (connId : Handle) (addr : BdAddr) :
      Effect c (.peerConnected connId addr)
        { c with state := c.state.createConn connId addr, notifyProcessIncoming := true }
  | disconnected (connId : Handle) (addr : BdAddr) :
      Effect c (.peerDisconnected connId addr)
        { c with state := c.state.deleteConn, notifyProcessIncoming := true }
  | subscribed (ev : Write) (conn : Connection) (response : GattResponse)
      (hcccd : c.state.c2CccdHandle = some ev.handle) (hconn : c.state.connection = some conn) :
      Effect c (.write ev)
        { state := { c.state.setSubscribed conn true with response }
          notifyProcessIncoming := true
          notifyProcessOutgoing := true }
  | unsubscribed (ev : Write) (conn : Connection) (response : GattResponse)
      (hconn : c.state.connection = some conn) :
      Effect c (.write ev)
        { c with
          state := { c.state.setSubscribed conn false with response }
          notifyProcessIncoming := true }
  | stored (ev : Write) :
      Effect c (.write ev)
        { c with state := c.state.storeC1 ev.transId ev.value, notifyProcessIncoming := true }
  | confirmed (status : GattStatus) (connId : Handle) :
      Effect c (.confirm status connId) { c with state.outNack := false, notifyProcessOutgoing := true }

/-- A check of a status goes on, or it leaves everything as it is. -/
theorem effect_checkGattStatus {event : GattsEvent} (w : World β) (status : GattStatus)
    {next : Unit → World β → Handled β Unit} (h : Effect w.context event (next () w).world.context) :
    Effect w.context event ((checkGattStatus w status).andThen next).world.context := by
  rw [Handled.andThen_world]
  cases status with
  | ok => exact h
  | failed code => exact .nothing event

theorem sendWriteResponse_context (drv : Driver) (gattIf : GattInterface) (ev : Write) (w : World β) :
    ∃ response, (sendWriteResponse drv gattIf ev w).world.context =
      { w.context with state.response := response } := by
  unfold sendWriteResponse
  split
  · exact ⟨w.state.response, rfl⟩
  · split
    · dsimp only
      split
      · exact ⟨_, rfl⟩
      · rw [perform_world]
        exact ⟨_, rfl⟩
    · rw [perform_world]
      exact ⟨w.state.response, rfl⟩

theorem effect_write (cfg : Config) (drv : Driver) (gattIf : GattInterface) (ev : Write) (w : World β) :
    Effect w.context (.write ev) (onGattsEvent cfg drv gattIf (.write ev) w).world.context := by
  simp only [onGattsEvent, write]
  unfold writeLocked
  cases hconn : w.state.connection with
  | none => exact .nothing _
  | some conn =>
      dsimp only
      split
      · exact .nothing _
      split
      · rename_i hcccd
        split
        · exact .nothing _
        split
        · split
          · rename_i hnew
            obtain ⟨response, hresponse⟩ := sendWriteResponse_context drv gattIf ev
              (w.setState (w.state.setSubscribed conn true)).wakeIncoming.wakeOutgoing
            rw [if_pos rfl, hresponse]
            exact .subscribed ev conn response hcccd hconn
          · exact .nothing _
        · split
          · obtain ⟨response, hresponse⟩ := sendWriteResponse_context drv gattIf ev
              (w.setState (w.state.setSubscribed conn false)).wakeIncoming
            rw [if_pos rfl, hresponse]
            exact .unsubscribed ev conn response hconn
          · exact .nothing _
      · split
        · exact .stored ev
        · exact .nothing _

theorem effect_onGattsEvent (cfg : Config) (drv : Driver) (gattIf : GattInterface) (event : GattsEvent)
    (w : World β) : Effect w.context event (onGattsEvent cfg drv gattIf event w).world.context := by
  cases event with
  | serviceRegistered status appId =>
      apply effect_checkGattStatus
      split
      · rw [createService, perform_world]
        exact .gattIf status appId gattIf
      · exact .nothing _
  | serviceCreated status serviceHandle =>
      apply effect_checkGattStatus
      rw [configureAndStartService, perform_world]
      exact .serviceHandle status serviceHandle
  | characteristicAdded status attrHandle serviceHandle charUuid =>
      apply effect_checkGattStatus
      unfold registerCharacteristic
      repeat' split
      · exact .nothing _
      · exact .c1Handle status attrHandle serviceHandle charUuid
      · rw [perform_world]
        exact .c2Handle status attrHandle serviceHandle charUuid
      · exact .nothing _
  | descriptorAdded status attrHandle serviceHandle descrUuid =>
      apply effect_checkGattStatus
      unfold registerCccdDescriptor
      split
      · rename_i hcccd
        obtain ⟨rfl, hown⟩ := hcccd
        exact .c2CccdHandle status attrHandle serviceHandle hown
      · exact .nothing _
  | serviceDeleted status serviceHandle =>
      apply effect_checkGattStatus
      unfold deleteService
      split
      · rename_i hown
        exact .deleted status serviceHandle hown
      · exact .nothing _
  | serviceUnregistered status serviceHandle =>
      apply effect_checkGattStatus
      unfold unregisterService
      split
      · rename_i hown
        exact .unregistered status serviceHandle hown
      · exact .nothing _
  | mtu connId mtu => exact .mtu connId mtu
  | peerConnected connId addr =>
      simp only [onGattsEvent, Handled.andThen_world, createConn]
      split_ifs with hconn
      · cases hr : (perform drv (w.setState (w.state.createConn connId addr)).wakeIncoming
            [.setConnParamsConf addr 10 20 0 400]).result with
        | error e =>
            simp only [Handled.andThen, hr, perform_world]
            exact .connected connId addr
        | ok u =>
            simp only [Handled.andThen, hr, perform_world, List.append_nil, ↓reduceIte]
            exact .connected connId addr
      · exact .nothing _
  | peerDisconnected connId addr =>
      simp only [onGattsEvent, Handled.andThen_world, deleteConn]
      split_ifs with hconn
      · simp only [↓reduceIte, perform_world]
        exact .disconnected connId addr
      · exact .nothing _
  | write ev => exact effect_write cfg drv gattIf ev w
  | confirm status connId =>
      apply effect_checkGattStatus
      exact .confirmed status connId
  | other => exact .nothing _

/-! ### Tasks that wait -/

/-- The peripheral, with the signals that the handler under way still owes, whether the pumps wait,
whether an indication submitted to the peer is unacknowledged, and the generation on whose behalf the last
iteration of the outgoing pump asked the engine, if there was nothing to send. -/
structure Tasks (β : Type) where
  world : World β
  owesIncoming : Bool
  owesOutgoing : Bool
  incomingWaits : Bool
  outgoingWaits : Bool
  unacknowledged : Bool
  asked : Option Usize

def Tasks.fresh (c : Context) (btp : β) : Tasks β where
  world := .fresh c btp
  owesIncoming := false
  owesOutgoing := false
  incomingWaits := false
  outgoingWaits := false
  unacknowledged := false
  asked := none

inductive Move (β : Type) where
  | gap (event : BleGapEvent) (driver : Driver)
  /-- a handler, up to its signals -/
  | gatts (gattIf : GattInterface) (event : GattsEvent) (driver : Driver)
  | signalIncoming
  | signalOutgoing
  | incoming (driver : Driver)
  | outgoing (driver : Driver)
  /-- the incoming pump consumes its signal -/
  | wakeIncoming
  /-- the outgoing pump consumes its signal -/
  | wakeOutgoing
  /-- `btp.wait_outgoing()` resolves -/
  | outgoingData
  | matter (btp : β)

/-- The engine was asked for a frame, and had none. -/
def Call.vain : Call → Bool
  | .btp (.processOutgoing _ (.ok frame)) => frame.isEmpty
  | _ => false

/-- Whether an event leaves an indication unacknowledged: a confirmation acknowledges it if it reports
success, and to a new peer nothing was submitted yet. -/
def GattsEvent.unacknowledged (s : State) (unacknowledged : Bool) : GattsEvent → Bool
  | .confirm .ok _ => false
  | .peerConnected _ _ => unacknowledged && s.connection.isSome
  | _ => unacknowledged

def World.quiet (w : World β) : World β :=
  { w with context := { w.context with notifyProcessIncoming := false, notifyProcessOutgoing := false } }

namespace Tasks

/-- A pump waits after an iteration that has not processed anything. -/
def move (cfg : Config) (E : Btp β) (T : Tasks β) : Move β → Tasks β
  | .gap event drv => { T with world := (onGapEvent drv event T.world).world }
  | .gatts gattIf event drv =>
      let handled := (onGattsEvent cfg drv gattIf event T.world.quiet).world.context
      { T with
        world := T.world.setState handled.state
        owesIncoming := handled.notifyProcessIncoming
        owesOutgoing := handled.notifyProcessOutgoing
        unacknowledged := event.unacknowledged T.world.state T.unacknowledged }
  | .signalIncoming => { T with world := T.world.wakeIncoming, owesIncoming := false }
  | .signalOutgoing => { T with world := T.world.wakeOutgoing, owesOutgoing := false }
  | .incoming drv =>
      let it := processIncoming E drv T.world
      { T with world := it.finish.1, incomingWaits := it.processed.waits }
  | .outgoing drv =>
      let it := processOutgoing E drv T.world
      { T with
        world := it.finish.1
        outgoingWaits := it.processed.waits
        unacknowledged := T.unacknowledged || it.calls.any Call.submitted
        asked := if it.calls.any Call.vain = true then some T.world.state.connGen else none }
  | .wakeIncoming =>
      { T with
        world.context.notifyProcessIncoming := false
        incomingWaits := false }
  | .wakeOutgoing =>
      { T with
        world.context.notifyProcessOutgoing := false
        outgoingWaits := false }
  | .outgoingData => { T with outgoingWaits := false }
  | .matter btp => { T with world := T.world.setBtp btp }

def step (cfg : Config) (E : Btp β) (T : Tasks β) (m : Move β) : Tasks β × List Empty :=
  (T.move cfg E m, [])

/-- No handler is under way. -/
def Quiet (T : Tasks β) : Prop := T.owesIncoming = false ∧ T.owesOutgoing = false

end Tasks

/-- What the peripheral indicates with is known. -/
def State.Ready (s : State) : Prop := s.gattIf ≠ none ∧ s.c2Handle ≠ none

/-- The service is not taken away, and its CCCD is the last that is added to it. -/
def GattsEvent.KeepsService (s : State) : GattsEvent → Prop
  | .descriptorAdded _ _ serviceHandle _ => s.serviceHandle = some serviceHandle → s.Ready
  | .serviceDeleted _ serviceHandle | .serviceUnregistered _ serviceHandle =>
      s.serviceHandle ≠ some serviceHandle
  | _ => True

/-- When a move may be made. The handlers are run one at a time. -/
def Scheduled (T : Tasks β) : Move β → Prop
  | .gap _ _ => T.Quiet
  | .gatts _ event _ => T.Quiet ∧ event.KeepsService T.world.state
  | .signalIncoming => T.owesIncoming = true
  | .signalOutgoing => T.owesOutgoing = true
  | .incoming _ => T.incomingWaits = false ∧ T.world.ended = none
  | .outgoing _ => T.outgoingWaits = false ∧ T.world.ended = none
  | .wakeIncoming => T.incomingWaits = true ∧ T.world.context.notifyProcessIncoming = true
  | .wakeOutgoing => T.outgoingWaits = true ∧ T.world.context.notifyProcessOutgoing = true
  | .outgoingData => T.outgoingWaits = true
  | .matter _ => True

/-! ### Nothing to do -/

def State.subscribed (s : State) : Bool := s.connection.any fun conn => conn.subscribed

/-- There is no connection, or its session is synced and there is no incoming data. -/
def State.IncomingIdle (s : State) : Prop :=
  s.connection = none ∨ s.btpGen = some s.connGen ∧ s.inData.isEmpty = true

/-- For the flag `nack`, there is nothing to be sent, or the engine had nothing to send. -/
def Tasks.OutgoingIdle (T : Tasks β) (nack : Prop) : Prop :=
  T.world.state.subscribed = false ∨ nack ∨ T.asked = some T.world.state.connGen

/-- A pump that waits, and whose signal is not raised, has nothing to do. -/
structure Tasks.MissesNothing (T : Tasks β) : Prop where
  incoming : T.incomingWaits = true → T.world.context.notifyProcessIncoming = false →
    T.world.state.IncomingIdle
  outgoing : T.outgoingWaits = true → T.world.context.notifyProcessOutgoing = false →
    T.OutgoingIdle (T.unacknowledged = true)

end EspIdfMatter.Bluedroid
