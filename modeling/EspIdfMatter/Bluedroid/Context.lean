import EspIdfMatter.Btp

/-! The Bluedroid peripheral: its context, the calls it makes to the driver, and the GAP and GATTS
event handlers. All of a handler's work on the state happens under the state lock, the signals it
raises included; its driver calls come after. -/

namespace EspIdfMatter.Bluedroid

open Library

abbrev GattInterface := UInt8
abbrev TransferId := UInt32

/-- The longest attribute value of a `GattResponse`. -/
def gattMaxAttrLen : Nat := 600

def maxAdvDataSize : Nat := 32

structure BdAddr where
  addr : Vector UInt8 6
  deriving DecidableEq

inductive GattStatus where
  | ok
  | failed (code : Nat)
  deriving DecidableEq

inductive BtStatus where
  | success
  | failed (code : Nat)
  deriving DecidableEq

/-- `ESP_FAIL` -/
def espFail : EspError := ⟨-1⟩

structure Connection where
  peer : BdAddr
  connId : Handle
  subscribed : Bool
  mtu : Option UInt16
  deriving DecidableEq

structure GattResponse where
  attrHandle : Handle
  authReq : UInt8
  offset : UInt16
  value : BoundedVec UInt8 gattMaxAttrLen
  deriving DecidableEq

def GattResponse.new : GattResponse where
  attrHandle := 0
  authReq := 0
  offset := 0
  value := .empty

/-- Fails on a value that is too long. -/
def GattResponse.setValue (response : GattResponse) (value : Bytes) : Option GattResponse :=
  (BoundedVec.empty.extendFromSlice value).map fun value => { response with value }

structure State where
  gattIf : Option GattInterface
  serviceHandle : Option Handle
  c1Handle : Option Handle
  c2Handle : Option Handle
  c2CccdHandle : Option Handle
  connection : Option Connection
  connGen : Usize
  /-- The `connGen` the BTP session was last reset for -/
  btpGen : Option Usize
  inData : Buffer
  /-- The transaction ID corresponding to the incoming data (if non-empty) -/
  inTrans : TransferId
  outData : Buffer
  /-- Whether the current outgoing indication has been acknowledged by the peer or not -/
  outNack : Bool
  response : GattResponse
  deriving DecidableEq

def State.new : State where
  gattIf := none
  serviceHandle := none
  c1Handle := none
  c2Handle := none
  c2CccdHandle := none
  connection := none
  connGen := 0
  btpGen := none
  inData := .empty
  inTrans := 0
  outData := .empty
  outNack := false
  response := .new

/-- The part of `EspBtpGattContext::reset` under the state lock. -/
def State.reset (s : State) : State :=
  { s with
    gattIf := none
    serviceHandle := none
    c1Handle := none
    c2Handle := none
    c2CccdHandle := none
    connection := none
    inData := .empty
    inTrans := 0
    outNack := false }

/-- Reset the BTP session if it still belongs to a previous BLE connection. -/
def State.syncBtp {β : Type} (E : Btp β) (s : State) (btp : β) : State × β × List BtpCall :=
  if s.btpGen ≠ some s.connGen then
    ({ s with btpGen := some s.connGen }, E.reset btp, [.reset])
  else
    (s, btp, [])

/-- `EspBtpGattContext`; a signal is kept as whether it is raised. -/
structure Context where
  state : State
  notifyProcessIncoming : Bool
  notifyProcessOutgoing : Bool
  deriving DecidableEq

def Context.new : Context where
  state := .new
  notifyProcessIncoming := false
  notifyProcessOutgoing := false

def Context.reset (c : Context) : Context where
  state := c.state.reset
  notifyProcessIncoming := false
  notifyProcessOutgoing := false

/-- Everything the handlers and the pumps share: the context, the engine, and the error that ended
the pumps, if one did. -/
structure World (β : Type) where
  context : Context
  btp : β
  ended : Option ErrorCode

variable {β : Type}

def World.state (w : World β) : State := w.context.state

def World.setState (w : World β) (s : State) : World β :=
  { w with context.state := s }

/-- `notify_process_incoming.signal(())` -/
def World.wakeIncoming (w : World β) : World β :=
  { w with context.notifyProcessIncoming := true }

/-- `notify_process_outgoing.signal(())` -/
def World.wakeOutgoing (w : World β) : World β :=
  { w with context.notifyProcessOutgoing := true }

def World.setBtp (w : World β) (btp : β) : World β :=
  { w with btp }

def World.setEnded (w : World β) (ended : Option ErrorCode) : World β :=
  { w with ended }

section Fields

variable (w : World β)

@[simp] theorem World.state_setState (s : State) : (w.setState s).state = s := rfl
@[simp] theorem World.state_wakeIncoming : w.wakeIncoming.state = w.state := rfl
@[simp] theorem World.state_wakeOutgoing : w.wakeOutgoing.state = w.state := rfl
@[simp] theorem World.state_setBtp (b : β) : (w.setBtp b).state = w.state := rfl
@[simp] theorem World.state_setEnded (e : Option ErrorCode) : (w.setEnded e).state = w.state := rfl

@[simp] theorem World.btp_setState (s : State) : (w.setState s).btp = w.btp := rfl
@[simp] theorem World.btp_wakeIncoming : w.wakeIncoming.btp = w.btp := rfl
@[simp] theorem World.btp_wakeOutgoing : w.wakeOutgoing.btp = w.btp := rfl
@[simp] theorem World.btp_setBtp (b : β) : (w.setBtp b).btp = b := rfl
@[simp] theorem World.btp_setEnded (e : Option ErrorCode) : (w.setEnded e).btp = w.btp := rfl

@[simp] theorem World.ended_setState (s : State) : (w.setState s).ended = w.ended := rfl
@[simp] theorem World.ended_wakeIncoming : w.wakeIncoming.ended = w.ended := rfl
@[simp] theorem World.ended_wakeOutgoing : w.wakeOutgoing.ended = w.ended := rfl
@[simp] theorem World.ended_setBtp (b : β) : (w.setBtp b).ended = w.ended := rfl
@[simp] theorem World.ended_setEnded (e : Option ErrorCode) : (w.setEnded e).ended = e := rfl

end Fields

/-! ### Driver calls -/

inductive Permission where
  | read
  | write
  deriving DecidableEq

inductive Property where
  | write
  | indicate
  deriving DecidableEq

inductive AutoResponse where
  | byApp
  | byGatt
  deriving DecidableEq

structure GattCharacteristic where
  uuid : Uuid
  permissions : List Permission
  properties : List Property
  maxLen : Nat
  autoRsp : AutoResponse
  deriving DecidableEq

structure GattDescriptor where
  uuid : Uuid
  permissions : List Permission
  deriving DecidableEq

inductive DriverCall where
  | startAdvertising
  | stopAdvertising
  | setConnParamsConf (addr : BdAddr) (minInterval maxInterval latency timeout : Nat)
  | setDeviceName (name : String)
  | setRawAdvConf (data : Bytes)
  | createService (gattIf : GattInterface) (uuid : Uuid) (instId : UInt8) (isPrimary : Bool)
      (numHandles : Nat)
  | startService (serviceHandle : Handle)
  | addCharacteristic (serviceHandle : Handle) (characteristic : GattCharacteristic)
  | addDescriptor (serviceHandle : Handle) (descriptor : GattDescriptor)
  | sendResponse (gattIf : GattInterface) (connId : Handle) (transId : TransferId)
      (status : GattStatus) (response : Option GattResponse)
  | indicate (gattIf : GattInterface) (connId handle : Handle) (data : Bytes)
  deriving DecidableEq

/-- How the driver answers the calls made while one event or one iteration is handled. -/
abbrev Driver := DriverCall → Except EspError Unit

/-- A driver whose calls succeed. -/
def Driver.succeeding : Driver := fun _ => .ok ()

inductive Call where
  | btp (call : BtpCall)
  | driver (call : DriverCall) (result : Except EspError Unit)
  deriving DecidableEq

/-- What handling an event comes to. -/
structure Handled (β : Type) (α : Type) where
  world : World β
  calls : List Call
  result : Except EspError α

/-- Make calls to the driver one after the other, up to the first that fails. -/
def perform (drv : Driver) (w : World β) : List DriverCall → Handled β Unit
  | [] => ⟨w, [], .ok ()⟩
  | call :: calls =>
      match drv call with
      | .error e => ⟨w, [.driver call (.error e)], .error e⟩
      | .ok () =>
          let rest := perform drv w calls
          { rest with calls := .driver call (.ok ()) :: rest.calls }

/-- Go on with `next` unless there was an error. -/
def Handled.andThen {α γ : Type} (h : Handled β α) (next : α → World β → Handled β γ) :
    Handled β γ :=
  match h.result with
  | .error e => ⟨h.world, h.calls, .error e⟩
  | .ok a =>
      let rest := next a h.world
      { rest with calls := h.calls ++ rest.calls }

@[simp] theorem perform_world (drv : Driver) (w : World β) (calls : List DriverCall) :
    (perform drv w calls).world = w := by
  induction calls with
  | nil => rfl
  | cons call calls ih =>
      unfold perform
      split
      · rfl
      · exact ih

end EspIdfMatter.Bluedroid
