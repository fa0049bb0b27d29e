import EspIdfMatter.Btp

/-! The NimBLE peripheral: its context, and the event hooks of the host task. A hook is kept as the
sequence of its atomic steps, since it runs concurrently with the pumps: a section under the state
lock is one step, and so is every access to an atomic outside the lock and every signal. `Hook.exec`
runs the steps back to back. -/

namespace EspIdfMatter.Nimble

open Library

def maxAdvDataSize : Nat := 32

/-- `BLE_HS_EDONE` -/
def bleHsEdone : Int := 14

/-- `BLE_ATT_ERR_INSUFFICIENT_RES` -/
def bleAttErrInsufficientRes : UInt8 := 0x11

structure BleError where
  code : Int
  deriving DecidableEq

/-- The state of the connection to the (single) peer we are talking to. -/
structure Connection where
  peer : BtAddr
  connHandle : Handle
  subscribed : Bool
  mtu : Option UInt16
  deriving DecidableEq

structure State where
  connection : Option Connection
  connGen : Usize
  /-- The `connGen` the BTP session was last reset for -/
  btpGen : Option Usize
  inData : Buffer
  outData : Buffer
  /-- Set by the host-sync / disconnect hooks to request (re)advertising -/
  needAdvertise : Bool
  advData : BoundedVec UInt8 maxAdvDataSize
  deriving DecidableEq

def State.new : State where
  connection := none
  connGen := 0
  btpGen := none
  inData := .empty
  outData := .empty
  needAdvertise := false
  advData := .empty

/-- Reset the BTP session if it still belongs to a previous BLE connection. -/
def State.syncBtp {β : Type} (E : Btp β) (s : State) (btp : β) : State × β × List BtpCall :=
  if s.btpGen ≠ some s.connGen then
    ({ s with btpGen := some s.connGen }, E.reset btp, [.reset])
  else
    (s, btp, [])

/-- `EspBtpGattContext`; a signal is kept as whether it is raised. -/
structure Context where
  state : State
  outNack : Bool
  notifyProcessIncoming : Bool
  notifyProcessOutgoing : Bool
  deriving DecidableEq

def Context.new : Context where
  state := .new
  outNack := false
  notifyProcessIncoming := false
  notifyProcessOutgoing := false

def Context.reset (c : Context) : Context where
  state := { c.state with
    connection := none
    btpGen := none
    inData := .empty
    outData := .empty
    advData := .empty }
  outNack := false
  notifyProcessIncoming := false
  notifyProcessOutgoing := false

/-! ### Events -/

/-- The mbuf of a GATT event. What `read` does with a buffer is up to the driver. -/
structure Mbuf where
  payload : Bytes
  read : Buffer → Buffer × Except BleError Nat

/-- The payload fits, and `read` copies it to the front of the buffer and returns its length. -/
def Mbuf.CopiesExactly (m : Mbuf) : Prop :=
  m.payload.length ≤ maxMtuSize ∧
    ∀ buf, buf.length = maxMtuSize → m.read buf = (buf.overwrite m.payload, .ok m.payload.length)

/-- An mbuf that reads exactly when its payload fits, and otherwise fails without touching the
buffer. -/
def Mbuf.ofBytes (payload : Bytes) : Mbuf where
  payload := payload
  read := fun buf => if payload.length ≤ buf.length then
      (buf.overwrite payload, .ok payload.length)
    else
      (buf, .error ⟨4⟩)

theorem Mbuf.copiesExactly_ofBytes (payload : Bytes) (h : payload.length ≤ maxMtuSize) :
    (Mbuf.ofBytes payload).CopiesExactly := by
  refine ⟨h, fun buf hbuf => ?_⟩
  simp only [Mbuf.ofBytes, hbuf, if_pos h]

/-- The payload is what is left of the buffer after the read. -/
theorem Mbuf.CopiesExactly.truncate {m : Mbuf} (h : m.CopiesExactly) (buf : Buffer) :
    ((buf.resize maxMtuSize le_rfl).overwrite m.payload).truncate m.payload.length =
      ⟨m.payload, h.1⟩ :=
  BoundedVec.ext (BoundedVec.take_overwrite _ (by
    rw [BoundedVec.length_resize]
    exact h.1))

inductive HostEvent where
  | sync
  | other
  deriving DecidableEq

inductive GapEvent where
  /-- `found` and `attMtu` are what `conn_find` and `att_mtu` answer for the handle -/
  | connect (connHandle : Handle) (status : Except BleError Unit) (found : Except BleError BtAddr)
      (attMtu : Except BleError UInt16)
  | disconnect (connHandle : Handle) (reason : Int)
  | mtu (connHandle : Handle) (value : UInt16)
  | other
  deriving DecidableEq

inductive BleGattRegister where
  | characteristic (uuid : Uuid) (valHandle : Handle)
  | other
  deriving DecidableEq

inductive GattsEvent where
  | register (reg : BleGattRegister)
  | write (connHandle attrHandle : Handle) (data : Mbuf)
  | read (connHandle attrHandle : Handle)
  | subscriptionChanged (connHandle attrHandle : Handle) (curIndicate : Bool)
  | notifyComplete (connHandle attrHandle : Handle) (indication : Bool) (status : Int)

inductive Event where
  | host (event : HostEvent)
  | gap (event : GapEvent)
  | gatts (event : GattsEvent)

/-! ### Sections under the state lock -/

def State.requestAdvertise (s : State) : State :=
  { s with needAdvertise := true }

def State.connect (peer : BtAddr) (connHandle : Handle) (mtu : Option UInt16) (s : State) : State :=
  { s with
    connGen := s.connGen + 1
    inData := .empty
    outData := .empty
    connection := some { peer, connHandle, subscribed := false, mtu } }

def State.disconnect (s : State) : State :=
  { s with
    connection := none
    inData := .empty
    outData := .empty
    needAdvertise := true }

/-- Change the tracked connection, if it has this handle. -/
def State.modifyConn (connHandle : Handle) (f : Connection → Connection) (s : State) : State :=
  match s.connection with
  | some conn => if conn.connHandle = connHandle then { s with connection := some (f conn) } else s
  | none => s

/-- A connection is there afterwards if one was before, and nothing else is touched. -/
theorem State.modifyConn_eq (s : State) (connHandle : Handle) (f : Connection → Connection) :
    ∃ connection, s.modifyConn connHandle f = { s with connection } ∧
      connection.isSome = s.connection.isSome := by
  unfold State.modifyConn
  split
  · rename_i conn hconn
    rw [hconn]
    split
    · exact ⟨some (f conn), rfl, rfl⟩
    · exact ⟨some conn, by rw [← hconn], rfl⟩
  · exact ⟨s.connection, rfl, rfl⟩

def State.setMtu (connHandle : Handle) (value : UInt16) : State → State :=
  State.modifyConn connHandle fun conn => { conn with mtu := some value }

def State.setSubscribed (connHandle : Handle) (curIndicate : Bool) : State → State :=
  State.modifyConn connHandle fun conn => { conn with subscribed := curIndicate }

/-- A `C1` write: the new state, and whether the payload was taken. -/
def State.write (data : Mbuf) (s : State) : State × Except Unit Unit :=
  if s.inData.isEmpty = false then
    -- The previous write has not been processed yet.
    (s, .error ())
  else
    match s.inData.resizeDefault maxMtuSize with
    | none => (s, .error ())
    | some buf =>
        match data.read buf with
        | (buf, .error _) => ({ s with inData := buf }, .error ())
        | (buf, .ok len) => ({ s with inData := buf.truncate len }, .ok ())

/-! ### Hooks -/

/-- What is left of a hook. `lock` is a section under the state lock, whose outcome may decide how
the hook goes on; `ret` is the end. -/
inductive Hook where
  | ret (code : UInt8)
  | lock (update : State → State) (next : State → Hook)
  | storeNack (value : Bool) (next : Hook)
  | storeC2 (handle : Handle) (next : Hook)
  | loadC2 (next : Handle → Hook)
  | signalIncoming (next : Hook)
  | signalOutgoing (next : Hook)

def hostHook : HostEvent → Hook
  | .sync => .lock State.requestAdvertise fun _ => .signalOutgoing <| .ret 0
  | .other => .ret 0

def gapHook : GapEvent → Hook
  | .connect _ (.error _) _ _ =>
      -- The attempt failed, so we have to advertise again.
      .lock State.requestAdvertise fun _ => .signalOutgoing <| .ret 0
  | .connect connHandle (.ok _) found attMtu =>
      let peer := match found with
        | .ok addr => addr
        | .error _ => ⟨.replicate 6 0⟩
      .lock (State.connect peer connHandle attMtu.toOption) fun _ =>
        .storeNack false <| .signalIncoming <| .ret 0
  | .disconnect _ _ =>
      .lock State.disconnect fun _ =>
        .storeNack false <| .signalIncoming <| .signalOutgoing <| .ret 0
  | .mtu connHandle value => .lock (State.setMtu connHandle value) fun _ => .ret 0
  | .other => .ret 0

def gattsHook : GattsEvent → Hook
  | .register (.characteristic uuid valHandle) =>
      if uuid = .c2 then .storeC2 valHandle <| .ret 0 else .ret 0
  | .register .other => .ret 0
  | .write _ _ data =>
      .lock (fun s => (s.write data).1) fun s =>
        match (s.write data).2 with
        | .error _ => .ret bleAttErrInsufficientRes
        | .ok _ => .signalIncoming <| .ret 0
  | .read _ _ => .ret 0
  | .subscriptionChanged connHandle attrHandle curIndicate =>
      .loadC2 fun c2 =>
        if attrHandle = c2 then
          .lock (State.setSubscribed connHandle curIndicate) fun _ => .signalOutgoing <| .ret 0
        else
          .ret 0
  | .notifyComplete _ _ indication status =>
      if indication = true ∧ (status = bleHsEdone ∨ status ≠ 0) then
        .storeNack false <| .signalOutgoing <| .ret 0
      else
        .ret 0

def hook : Event → Hook
  | .host event => hostHook event
  | .gap event => gapHook event
  | .gatts event => gattsHook event

/-- Everything the hooks and the pumps share: the context, the static `C2_VAL_HANDLE`, the engine,
and the error that ended the pumps, if one did. -/
structure World (β : Type) where
  context : Context
  c2ValHandle : Handle
  btp : β
  ended : Option ErrorCode

variable {β : Type}

def World.state (w : World β) : State := w.context.state

def World.outNack (w : World β) : Bool := w.context.outNack

def World.setState (w : World β) (s : State) : World β :=
  { w with context.state := s }

def World.setNack (w : World β) (value : Bool) : World β :=
  { w with context.outNack := value }

/-- `notify_process_incoming.signal(())` -/
def World.wakeIncoming (w : World β) : World β :=
  { w with context.notifyProcessIncoming := true }

/-- `notify_process_outgoing.signal(())` -/
def World.wakeOutgoing (w : World β) : World β :=
  { w with context.notifyProcessOutgoing := true }

def World.setC2 (w : World β) (handle : Handle) : World β :=
  { w with c2ValHandle := handle }

def World.setBtp (w : World β) (btp : β) : World β :=
  { w with btp }

def World.setEnded (w : World β) (ended : Option ErrorCode) : World β :=
  { w with ended }

section Fields

variable (w : World β)

@[simp] theorem World.state_setState (s : State) : (w.setState s).state = s := rfl
@[simp] theorem World.state_setNack (b : Bool) : (w.setNack b).state = w.state := rfl
@[simp] theorem World.state_wakeIncoming : w.wakeIncoming.state = w.state := rfl
@[simp] theorem World.state_wakeOutgoing : w.wakeOutgoing.state = w.state := rfl
@[simp] theorem World.state_setC2 (h : Handle) : (w.setC2 h).state = w.state := rfl
@[simp] theorem World.state_setBtp (b : β) : (w.setBtp b).state = w.state := rfl
@[simp] theorem World.state_setEnded (e : Option ErrorCode) : (w.setEnded e).state = w.state := rfl

@[simp] theorem World.outNack_setState (s : State) : (w.setState s).outNack = w.outNack := rfl
@[simp] theorem World.outNack_setNack (b : Bool) : (w.setNack b).outNack = b := rfl
@[simp] theorem World.outNack_wakeIncoming : w.wakeIncoming.outNack = w.outNack := rfl
@[simp] theorem World.outNack_wakeOutgoing : w.wakeOutgoing.outNack = w.outNack := rfl
@[simp] theorem World.outNack_setC2 (h : Handle) : (w.setC2 h).outNack = w.outNack := rfl
@[simp] theorem World.outNack_setBtp (b : β) : (w.setBtp b).outNack = w.outNack := rfl
@[simp] theorem World.outNack_setEnded (e : Option ErrorCode) :
    (w.setEnded e).outNack = w.outNack := rfl

@[simp] theorem World.c2ValHandle_setState (s : State) :
    (w.setState s).c2ValHandle = w.c2ValHandle := rfl
@[simp] theorem World.c2ValHandle_setNack (b : Bool) :
    (w.setNack b).c2ValHandle = w.c2ValHandle := rfl
@[simp] theorem World.c2ValHandle_wakeIncoming : w.wakeIncoming.c2ValHandle = w.c2ValHandle := rfl
@[simp] theorem World.c2ValHandle_wakeOutgoing : w.wakeOutgoing.c2ValHandle = w.c2ValHandle := rfl
@[simp] theorem World.c2ValHandle_setC2 (h : Handle) : (w.setC2 h).c2ValHandle = h := rfl
@[simp] theorem World.c2ValHandle_setBtp (b : β) : (w.setBtp b).c2ValHandle = w.c2ValHandle := rfl
@[simp] theorem World.c2ValHandle_setEnded (e : Option ErrorCode) :
    (w.setEnded e).c2ValHandle = w.c2ValHandle := rfl

@[simp] theorem World.btp_setState (s : State) : (w.setState s).btp = w.btp := rfl
@[simp] theorem World.btp_setNack (b : Bool) : (w.setNack b).btp = w.btp := rfl
@[simp] theorem World.btp_wakeIncoming : w.wakeIncoming.btp = w.btp := rfl
@[simp] theorem World.btp_wakeOutgoing : w.wakeOutgoing.btp = w.btp := rfl
@[simp] theorem World.btp_setC2 (h : Handle) : (w.setC2 h).btp = w.btp := rfl
@[simp] theorem World.btp_setBtp (b : β) : (w.setBtp b).btp = b := rfl
@[simp] theorem World.btp_setEnded (e : Option ErrorCode) : (w.setEnded e).btp = w.btp := rfl

@[simp] theorem World.ended_setState (s : State) : (w.setState s).ended = w.ended := rfl
@[simp] theorem World.ended_setNack (b : Bool) : (w.setNack b).ended = w.ended := rfl
@[simp] theorem World.ended_wakeIncoming : w.wakeIncoming.ended = w.ended := rfl
@[simp] theorem World.ended_wakeOutgoing : w.wakeOutgoing.ended = w.ended := rfl
@[simp] theorem World.ended_setC2 (h : Handle) : (w.setC2 h).ended = w.ended := rfl
@[simp] theorem World.ended_setBtp (b : β) : (w.setBtp b).ended = w.ended := rfl
@[simp] theorem World.ended_setEnded (e : Option ErrorCode) : (w.setEnded e).ended = e := rfl

end Fields

/-- One atomic step of a hook. -/
def Hook.atom : Hook → World β → Hook × World β
  | .ret code, w => (.ret code, w)
  | .lock update next, w => (next w.state, w.setState (update w.state))
  | .storeNack value next, w => (next, w.setNack value)
  | .storeC2 handle next, w => (next, w.setC2 handle)
  | .loadC2 next, w => (next w.c2ValHandle, w)
  | .signalIncoming next, w => (next, w.wakeIncoming)
  | .signalOutgoing next, w => (next, w.wakeOutgoing)

/-- A hook run without interruption, with what it returns to the host. -/
def Hook.exec : Hook → World β → World β × UInt8
  | .ret code, w => (w, code)
  | .lock update next, w => (next w.state).exec (w.setState (update w.state))
  | .storeNack value next, w => next.exec (w.setNack value)
  | .storeC2 handle next, w => next.exec (w.setC2 handle)
  | .loadC2 next, w => (next w.c2ValHandle).exec w
  | .signalIncoming next, w => next.exec w.wakeIncoming
  | .signalOutgoing next, w => next.exec w.wakeOutgoing

/-- What an event does to the state. -/
def Event.update (c2ValHandle : Handle) : Event → State → State
  | .host .sync, s => s.requestAdvertise
  | .gap (.connect _ (.error _) _ _), s => s.requestAdvertise
  | .gap (.connect connHandle (.ok _) (.ok addr) attMtu), s => s.connect addr connHandle attMtu.toOption
  | .gap (.connect connHandle (.ok _) (.error _) attMtu), s =>
      s.connect ⟨.replicate 6 0⟩ connHandle attMtu.toOption
  | .gap (.disconnect _ _), s => s.disconnect
  | .gap (.mtu connHandle value), s => s.setMtu connHandle value
  | .gatts (.write _ _ data), s => (s.write data).1
  | .gatts (.subscriptionChanged connHandle attrHandle curIndicate), s =>
      if attrHandle = c2ValHandle then s.setSubscribed connHandle curIndicate else s
  | _, s => s

theorem exec_state (event : Event) (w : World β) :
    ((hook event).exec w).1.state = event.update w.c2ValHandle w.state := by
  cases event with
  | host event => cases event <;> rfl
  | gap event =>
      cases event with
      | connect connHandle status found attMtu =>
          cases status with
          | error e => rfl
          | ok u => cases found <;> rfl
      | disconnect connHandle reason => rfl
      | mtu connHandle value => rfl
      | other => rfl
  | gatts event =>
      cases event with
      | register reg =>
          cases reg with
          | characteristic uuid valHandle =>
              simp only [hook, gattsHook, Event.update]
              split <;> rfl
          | other => rfl
      | write connHandle attrHandle data =>
          simp only [hook, gattsHook, Hook.exec, Event.update]
          cases (w.state.write data).2 <;> rfl
      | read connHandle attrHandle => rfl
      | subscriptionChanged connHandle attrHandle curIndicate =>
          simp only [hook, gattsHook, Hook.exec, Event.update]
          split <;> rfl
      | notifyComplete connHandle attrHandle indication status =>
          simp only [hook, gattsHook, Event.update]
          split <;> rfl

end EspIdfMatter.Nimble
