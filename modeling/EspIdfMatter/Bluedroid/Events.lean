import EspIdfMatter.Bluedroid.Context

/-! The event handlers of the Bluedroid peripheral. -/

namespace EspIdfMatter.Bluedroid

open Library

variable {β : Type}

/-- What the peripheral is run with: the arguments of `run`, and the lengths `rs-matter` gives its
characteristics. -/
structure Config where
  appId : UInt16
  serviceName : String
  serviceAdvData : BoundedVec UInt8 maxAdvDataSize
  c1MaxLen : Nat
  c2MaxLen : Nat

inductive BleGapEvent where
  | rawAdvertisingConfigured (status : BtStatus)
  | other
  deriving DecidableEq

/-- The parameters of a write event. -/
structure Write where
  connId : Handle
  transId : TransferId
  addr : BdAddr
  handle : Handle
  offset : UInt16
  needRsp : Bool
  isPrep : Bool
  value : Bytes
  deriving DecidableEq

inductive GattsEvent where
  | serviceRegistered (status : GattStatus) (appId : UInt16)
  | serviceCreated (status : GattStatus) (serviceHandle : Handle)
  | characteristicAdded (status : GattStatus) (attrHandle serviceHandle : Handle) (charUuid : Uuid)
  | descriptorAdded (status : GattStatus) (attrHandle serviceHandle : Handle) (descrUuid : Uuid)
  | serviceDeleted (status : GattStatus) (serviceHandle : Handle)
  | serviceUnregistered (status : GattStatus) (serviceHandle : Handle)
  | mtu (connId : Handle) (mtu : UInt16)
  | peerConnected (connId : Handle) (addr : BdAddr)
  | peerDisconnected (connId : Handle) (addr : BdAddr)
  | write (write : Write)
  | confirm (status : GattStatus) (connId : Handle)
  | other
  deriving DecidableEq

def checkBtStatus (w : World β) : BtStatus → Handled β Unit
  | .success => ⟨w, [], .ok ()⟩
  | .failed _ => ⟨w, [], .error espFail⟩

def checkGattStatus (w : World β) : GattStatus → Handled β Unit
  | .ok => ⟨w, [], .ok ()⟩
  | .failed _ => ⟨w, [], .error espFail⟩

/-! ### The service -/

def createService (cfg : Config) (drv : Driver) (gattIf : GattInterface) (w : World β) :
    Handled β Unit :=
  perform drv (w.setState { w.state with gattIf := some gattIf })
    [.setDeviceName cfg.serviceName, .setRawAdvConf cfg.serviceAdvData.toList,
      .createService gattIf .matterService 0 true 8]

def deleteService (serviceHandle : Handle) (w : World β) : Handled β Unit :=
  if w.state.serviceHandle = some serviceHandle then
    ⟨w.setState { w.state with c1Handle := none, c2Handle := none, c2CccdHandle := none }, [],
      .ok ()⟩
  else
    ⟨w, [], .ok ()⟩

def unregisterService (serviceHandle : Handle) (w : World β) : Handled β Unit :=
  if w.state.serviceHandle = some serviceHandle then
    ⟨w.setState { w.state with gattIf := none, serviceHandle := none }, [], .ok ()⟩
  else
    ⟨w, [], .ok ()⟩

/-- The calls of `add_characteristics`. -/
def characteristics (cfg : Config) (serviceHandle : Handle) : List DriverCall :=
  [.addCharacteristic serviceHandle
      { uuid := .c1, permissions := [.write], properties := [.write], maxLen := cfg.c1MaxLen,
        autoRsp := .byApp },
    .addCharacteristic serviceHandle
      { uuid := .c2, permissions := [.write, .read], properties := [.indicate],
        maxLen := cfg.c2MaxLen, autoRsp := .byApp }]

def configureAndStartService (cfg : Config) (drv : Driver) (serviceHandle : Handle) (w : World β) :
    Handled β Unit :=
  perform drv (w.setState { w.state with serviceHandle := some serviceHandle })
    (.startService serviceHandle :: characteristics cfg serviceHandle)

def registerCharacteristic (drv : Driver) (serviceHandle attrHandle : Handle) (charUuid : Uuid)
    (w : World β) : Handled β Unit :=
  if w.state.serviceHandle ≠ some serviceHandle then
    ⟨w, [], .ok ()⟩
  else if charUuid = .c1 then
    ⟨w.setState { w.state with c1Handle := some attrHandle }, [], .ok ()⟩
  else if charUuid = .c2 then
    perform drv (w.setState { w.state with c2Handle := some attrHandle })
      [.addDescriptor serviceHandle { uuid := .cccd, permissions := [.read, .write] }]
  else
    ⟨w, [], .ok ()⟩

def registerCccdDescriptor (serviceHandle attrHandle : Handle) (descrUuid : Uuid) (w : World β) :
    Handled β Unit :=
  if descrUuid = .cccd ∧ w.state.serviceHandle = some serviceHandle then
    ⟨w.setState { w.state with c2CccdHandle := some attrHandle }, [], .ok ()⟩
  else
    ⟨w, [], .ok ()⟩

/-! ### The connection -/

def State.registerConnMtu (connId : Handle) (mtu : UInt16) (s : State) : State :=
  match s.connection with
  | some conn =>
      if conn.connId = connId then { s with connection := some { conn with mtu := some mtu } } else s
  | none => s

def State.createConn (connId : Handle) (addr : BdAddr) (s : State) : State :=
  { s with
    connection := some { peer := addr, connId, subscribed := false, mtu := none }
    inData := .empty
    outNack := false
    connGen := s.connGen + 1 }

def State.deleteConn (s : State) : State :=
  { s with connection := none, connGen := s.connGen + 1 }

/-- Track a new connection unless there is one already; the result says which. -/
def createConn (drv : Driver) (connId : Handle) (addr : BdAddr) (w : World β) : Handled β Bool :=
  if w.state.connection = none then
    (perform drv (w.setState (w.state.createConn connId addr)).wakeIncoming
      [.setConnParamsConf addr 10 20 0 400]).andThen fun _ w => ⟨w, [], .ok true⟩
  else
    ⟨w, [], .ok false⟩

/-- Forget the tracked connection if it is with this peer; the result says which. -/
def deleteConn (addr : BdAddr) (w : World β) : Handled β Bool :=
  if (w.state.connection.map fun conn => conn.peer) = some addr then
    ⟨(w.setState w.state.deleteConn).wakeIncoming, [], .ok true⟩
  else
    ⟨w, [], .ok false⟩

/-! ### Writes -/

def fromLeBytes (lo hi : UInt8) : UInt16 :=
  lo.toUInt16 ||| (hi.toUInt16 <<< 8)

/-- The value of a write to the CCCD, if it is one: two bytes at offset 0. -/
def cccdValue (offset : UInt16) : Bytes → Option UInt16
  | [lo, hi] => if offset = 0 then some (fromLeBytes lo hi) else none
  | _ => none

def State.setSubscribed (conn : Connection) (subscribed : Bool) (s : State) : State :=
  { s with connection := some { conn with subscribed } }

/-- A `C1` payload that does not fit is dropped. -/
def State.storeC1 (transId : TransferId) (value : Bytes) (s : State) : State :=
  { s with
    inTrans := transId
    inData := (BoundedVec.empty.extendFromSlice value).getD .empty }

/-- The section of `write` under the state lock, and whether to respond now. -/
def writeLocked (ev : Write) (w : World β) : World β × Bool :=
  match w.state.connection with
  | none => (w, false)
  | some conn =>
      if conn.connId ≠ ev.connId then
        (w, false)
      else if w.state.c2CccdHandle = some ev.handle then
        match cccdValue ev.offset ev.value with
        | none => (w, false)
        | some value =>
            if value = 0x02 then
              if conn.subscribed = false then
                ((w.setState (w.state.setSubscribed conn true)).wakeIncoming.wakeOutgoing, true)
              else
                (w, false)
            else if conn.subscribed = true then
              ((w.setState (w.state.setSubscribed conn false)).wakeIncoming, true)
            else
              (w, false)
      else if w.state.c1Handle = some ev.handle ∧ ev.offset = 0 then
        -- No response yet: the data has NOT yet been processed by `process_incoming`.
        ((w.setState (w.state.storeC1 ev.transId ev.value)).wakeIncoming, false)
      else
        (w, false)

def sendWriteResponse (drv : Driver) (gattIf : GattInterface) (ev : Write) (w : World β) :
    Handled β Unit :=
  if ev.needRsp = false then
    ⟨w, [], .ok ()⟩
  else if ev.isPrep = true then
    let response := { w.state.response with
      attrHandle := ev.handle, authReq := 0, offset := ev.offset }
    match response.setValue ev.value with
    | none => ⟨w.setState { w.state with response }, [], .error espFail⟩
    | some response =>
        perform drv (w.setState { w.state with response })
          [.sendResponse gattIf ev.connId ev.transId .ok (some response)]
  else
    perform drv w [.sendResponse gattIf ev.connId ev.transId .ok none]

def write (drv : Driver) (gattIf : GattInterface) (ev : Write) (w : World β) : Handled β Unit :=
  let locked := writeLocked ev w
  if locked.2 = true then
    sendWriteResponse drv gattIf ev locked.1
  else
    ⟨locked.1, [], .ok ()⟩

/-! ### Dispatch -/

def onGapEvent (drv : Driver) (event : BleGapEvent) (w : World β) : Handled β Unit :=
  match event with
  | .rawAdvertisingConfigured status =>
      (checkBtStatus w status).andThen fun _ w => perform drv w [.startAdvertising]
  | .other => ⟨w, [], .ok ()⟩

def onGattsEvent (cfg : Config) (drv : Driver) (gattIf : GattInterface) (event : GattsEvent)
    (w : World β) : Handled β Unit :=
  match event with
  | .serviceRegistered status appId =>
      (checkGattStatus w status).andThen fun _ w =>
        if cfg.appId = appId then createService cfg drv gattIf w else ⟨w, [], .ok ()⟩
  | .serviceCreated status serviceHandle =>
      (checkGattStatus w status).andThen fun _ w => configureAndStartService cfg drv serviceHandle w
  | .characteristicAdded status attrHandle serviceHandle charUuid =>
      (checkGattStatus w status).andThen fun _ w =>
        registerCharacteristic drv serviceHandle attrHandle charUuid w
  | .descriptorAdded status attrHandle serviceHandle descrUuid =>
      (checkGattStatus w status).andThen fun _ w =>
        registerCccdDescriptor serviceHandle attrHandle descrUuid w
  | .serviceDeleted status serviceHandle =>
      (checkGattStatus w status).andThen fun _ w => deleteService serviceHandle w
  | .serviceUnregistered status serviceHandle =>
      (checkGattStatus w status).andThen fun _ w => unregisterService serviceHandle w
  | .mtu connId mtu => ⟨w.setState (w.state.registerConnMtu connId mtu), [], .ok ()⟩
  | .peerConnected connId addr =>
      (createConn drv connId addr w).andThen fun done w =>
        if done = true then perform drv w [.stopAdvertising] else ⟨w, [], .ok ()⟩
  | .peerDisconnected _ addr =>
      (deleteConn addr w).andThen fun done w =>
        if done = true then perform drv w [.startAdvertising] else ⟨w, [], .ok ()⟩
  | .write ev => write drv gattIf ev w
  | .confirm status _ =>
      (checkGattStatus w status).andThen fun _ w =>
        -- Awake the outgoing pump now that the previous indication has been acknowledged.
        ⟨(w.setState { w.state with outNack := false }).wakeOutgoing, [], .ok ()⟩
  | .other => ⟨w, [], .ok ()⟩

end EspIdfMatter.Bluedroid
