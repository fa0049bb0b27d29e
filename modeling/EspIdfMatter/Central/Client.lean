import EspIdfMatter.Nimble.Context
import EspIdfMatter.Library.Machine

/-! The NimBLE GATT client, by which a commissioner drives BTP as the initiator: its context, its
event hooks and its two pumps. -/

namespace EspIdfMatter.Central

open Library Nimble

structure State where
  /-- Set once the host is in sync with the controller -/
  synced : Bool
  connHandle : Option Handle
  /-- Set if the connection attempt failed (or the link dropped) -/
  failed : Bool
  mtu : Option UInt16
  peer : BtAddr
  matterRange : Option (Handle × Handle)
  servicesDone : Bool
  c1Val : Option Handle
  c2Val : Option Handle
  charsDone : Bool
  /-- Set once the `C2` CCCD write (indication subscribe) completes -/
  subscribed : Bool
  /-- An incoming `C2` indication, awaiting delivery to the BTP engine -/
  inData : Buffer
  outData : Buffer
  /-- Whether a `C1` Write Request is in flight -/
  outInflight : Bool
  deriving DecidableEq

def State.new : State where
  synced := false
  connHandle := none
  failed := false
  mtu := none
  peer := ⟨.replicate 6 0⟩
  matterRange := none
  servicesDone := false
  c1Val := none
  c2Val := none
  charsDone := false
  subscribed := false
  inData := .empty
  outData := .empty
  outInflight := false

/-- `EspBtpGattClientContext`; a signal is kept as whether it is raised. -/
structure Context where
  state : State
  notifyProgress : Bool
  notifyIn : Bool
  notifyOut : Bool
  deriving DecidableEq

/-- A context that was just reset. -/
def Context.new : Context where
  state := .new
  notifyProgress := false
  notifyIn := false
  notifyOut := false

def Context.modify (c : Context) (f : State → State) : Context := { c with state := f c.state }

def Context.signalProgress (c : Context) : Context := { c with notifyProgress := true }

def Context.signalIn (c : Context) : Context := { c with notifyIn := true }

def Context.signalOut (c : Context) : Context := { c with notifyOut := true }

/-! ### Hooks -/

structure BleGattService where
  uuid : Uuid
  startHandle : Handle
  endHandle : Handle
  deriving DecidableEq

structure BleGattChr where
  uuid : Uuid
  valHandle : Handle
  deriving DecidableEq

inductive GattcEvent where
  /-- `none` ends the discovery -/
  | service (service : Option BleGattService)
  | characteristic (chr : Option BleGattChr)
  | writeComplete (attrHandle : Handle) (status : Int)
  | notify (attrHandle : Handle) (data : Mbuf)
  | readComplete

inductive Event where
  | host (event : HostEvent)
  | gap (event : GapEvent)
  | gattc (event : GattcEvent)

/-- The CCCD comes directly after the value attribute. `none` is an overflow: a build that checks for them
aborts there, as it does here, while one that does not goes on with handle 0. -/
def cccdHandle (c2Val : Handle) : Option Handle :=
  if c2Val = 0xFFFF then none else some (c2Val + 1)

def onHostEvent (event : HostEvent) (c : Context) : Context :=
  match event with
  | .sync => (c.modify fun s => { s with synced := true }).signalProgress
  | .other => c

def onGapEvent (event : GapEvent) (c : Context) : Context :=
  match event with
  | .connect connHandle (.ok _) _ _ =>
      (c.modify fun s => { s with connHandle := some connHandle }).signalProgress
  | .connect _ (.error _) _ _ => (c.modify fun s => { s with failed := true }).signalProgress
  | .disconnect _ _ =>
      (c.modify fun s => { s with failed := true }).signalProgress.signalIn.signalOut
  | .mtu connHandle value =>
      c.modify fun s => if s.connHandle = some connHandle then { s with mtu := some value } else s
  | .other => c

/-- Stash an indication for the incoming pump, if there is room. -/
def State.notify (data : Mbuf) (s : State) : State :=
  if s.inData.isEmpty = true then
    match s.inData.resizeDefault maxMtuSize with
    | none => s
    | some buf =>
        match data.read buf with
        | (buf, .ok len) => { s with inData := buf.truncate len }
        | (_, .error _) => { s with inData := .empty }
  else
    s

/-- What a completed write means: the CCCD subscribe, or a `C1` segment. -/
def onWriteComplete (attrHandle : Handle) (status : Int) (cccd : Option Handle) (c : Context) :
    Context :=
  if some attrHandle = cccd then
    (c.modify fun s => { s with subscribed := decide (status = 0) }).signalProgress
  else if some attrHandle = c.state.c1Val then
    (c.modify fun s => { s with outInflight := false }).signalOut
  else
    c

/-- `none` is an overflow, which aborts. -/
def onGattcEvent (event : GattcEvent) (c : Context) : Option Context :=
  match event with
  | .service (some service) =>
      some (if service.uuid = .matterService then
        c.modify fun s => { s with matterRange := some (service.startHandle, service.endHandle) }
      else
        c)
  | .service none => some (c.modify fun s => { s with servicesDone := true }).signalProgress
  | .characteristic (some chr) =>
      some (c.modify fun s =>
        if chr.uuid = .c1 then
          { s with c1Val := some chr.valHandle }
        else if chr.uuid = .c2 then
          { s with c2Val := some chr.valHandle }
        else
          s)
  | .characteristic none => some (c.modify fun s => { s with charsDone := true }).signalProgress
  | .writeComplete attrHandle status =>
      match c.state.c2Val with
      | none => some (onWriteComplete attrHandle status none c)
      | some c2Val =>
          (cccdHandle c2Val).map fun cccd => onWriteComplete attrHandle status (some cccd) c
  | .notify attrHandle data =>
      some (if some attrHandle = c.state.c2Val then (c.modify (.notify data)).signalIn else c)
  | .readComplete => some c

def onEvent (event : Event) (c : Context) : Option Context :=
  match event with
  | .host event => some (onHostEvent event c)
  | .gap event => some (onGapEvent event c)
  | .gattc event => onGattcEvent event c

/-! ### Pumps -/

/-- Everything the hooks and the pumps share: the context, the engine, the error that ended the
pumps, if one did, and whether an overflow aborted the program. -/
structure World (β : Type) where
  context : Context
  btp : β
  ended : Option ErrorCode
  aborted : Bool

variable {β : Type}

def World.state (w : World β) : State := w.context.state

def World.setState (w : World β) (s : State) : World β := { w with context.state := s }

def World.setBtp (w : World β) (btp : β) : World β := { w with btp }

def World.setEnded (w : World β) (ended : Option ErrorCode) : World β := { w with ended }

inductive Call where
  | btp (call : BtpCall)
  | write (conn attr : Handle) (data : Bytes) (result : Except BleError Unit)
  deriving DecidableEq

structure Iteration (β : Type) where
  world : World β
  calls : List Call
  processed : Processed

/-- Feed received `C2` indications into the BTP engine. -/
def processIncoming (E : Btp β) (w : World β) : Iteration β :=
  if w.state.failed = true then
    ⟨w, [], .error .noNetworkInterface⟩
  else if w.state.inData.isEmpty = true then
    ⟨w, [], .ok false⟩
  else
    let data := w.state.inData.toList
    match E.processIncoming w.btp w.state.mtu w.state.peer data with
    | (btp, .error e) =>
        ⟨w.setBtp btp, [.btp (.processIncoming w.state.mtu w.state.peer data (.error e))],
          .error e⟩
    | (btp, .ok ()) =>
        ⟨(w.setState { w.state with inData := .empty }).setBtp btp,
          [.btp (.processIncoming w.state.mtu w.state.peer data (.ok ()))], .ok true⟩

/-- Drive BTP output as acknowledged `C1` Write Requests, one segment in flight at a time. `result`
is what the driver answers to the write. -/
def processOutgoing (E : Btp β) (conn c1Val : Handle) (result : Except BleError Unit)
    (w : World β) : Iteration β :=
  if w.state.failed = true then
    ⟨w, [], .error .noNetworkInterface⟩
  else if w.state.outInflight = true then
    -- Awaiting the previous Write Response.
    ⟨w, [], .ok false⟩
  else
    let buf := w.state.outData.resize maxMtuSize le_rfl
    match E.processOutgoing w.btp w.state.mtu with
    | (btp, .error e) =>
        ⟨(w.setState { w.state with outData := buf }).setBtp btp,
          [.btp (.processOutgoing w.state.mtu (.error e))], .error e⟩
    | (btp, .ok frame) =>
        let call := Call.btp (.processOutgoing w.state.mtu (.ok frame.toList))
        let w := (w.setState { w.state with outData := buf.overwrite frame.toList }).setBtp btp
        if 0 < frame.length then
          let data := w.state.outData.toList.take frame.length
          match result with
          | .error e => ⟨w, [call, .write conn c1Val data (.error e)], .error .noNetworkInterface⟩
          | .ok () =>
              ⟨w.setState { w.state with outInflight := true },
                [call, .write conn c1Val data (.ok ())], .ok true⟩
        else
          ⟨w, [call], .ok false⟩

/-! ### Runs -/

inductive Step (β : Type) where
  | event (event : Event)
  | incoming
  /-- with the driver's answer to the write -/
  | outgoing (result : Except BleError Unit)
  /-- the rest of the Matter stack leaves the engine in this state -/
  | matter (btp : β)

/-- A pump that returns an error ends `run`, and the other pump with it. -/
def Iteration.finish (it : Iteration β) : World β × List Call :=
  (it.world.setEnded it.processed.error?, it.calls)

/-- The pumps write to this `C1` handle of this connection. -/
def step (E : Btp β) (conn c1Val : Handle) (w : World β) (s : Step β) : World β × List Call :=
  if w.aborted = true then
    (w, [])
  else
    match s with
    | .event event =>
        match onEvent event w.context with
        | some context => ({ w with context }, [])
        | none => ({ w with aborted := true }, [])
    | .incoming => if w.ended = none then (processIncoming E w).finish else (w, [])
    | .outgoing result =>
        if w.ended = none then (processOutgoing E conn c1Val result w).finish else (w, [])
    | .matter btp => (w.setBtp btp, [])

end EspIdfMatter.Central
