import EspIdfMatter.Central.Client

/-! The setup of a BTP session by the NimBLE GATT client: `run`, from one point to the next at which an
event may come. The driver calls are not made under the state lock, the ones of the pumps apart. -/

namespace EspIdfMatter.Central

open Library Nimble

/-- `[0x02, 0x00]`, which asks for indications. -/
def subscribeIndications : Bytes := [0x02, 0x00]

/-- The five calls of `wait_state`, each with what `run` has learned before. -/
inductive Wait where
  | synced
  | connected
  | services (conn : Handle)
  | chars (conn : Handle)
  | subscribed (conn c1Val c2Val : Handle)
  deriving DecidableEq

/-- What is waited for. -/
def Wait.pred (s : State) : Wait → Bool
  | .synced => s.synced
  | .connected => s.connHandle.isSome || s.failed
  | .services _ => s.servicesDone || s.failed
  | .chars _ => s.charsDone || s.failed
  | .subscribed _ _ _ => s.subscribed || s.failed

/-- Where `run` is. -/
inductive Phase where
  | start
  /-- in `wait_state`, about to look at the state or blocked on `notify_progress` -/
  | wait (wait : Wait) (blocked : Bool)
  | connect
  | readConnHandle
  | discoverServices (conn : Handle)
  | readRange (conn : Handle)
  | discoverCharacteristics (conn startHandle endHandle : Handle)
  | readChars (conn : Handle)
  | subscribe (conn c1Val c2Val : Handle)
  | checkFailed (conn c1Val : Handle)
  | setInitiator (conn c1Val : Handle)
  | pumping (conn c1Val : Handle)
  | stopped
  deriving DecidableEq

def Wait.next : Wait → Phase
  | .synced => .connect
  | .connected => .readConnHandle
  | .services conn => .readRange conn
  | .chars conn => .readChars conn
  | .subscribed conn c1Val _ => .checkFailed conn c1Val

/-- What the hooks record. -/
inductive Mark where
  | connected
  | connectFailed
  | disconnected
  | matterRange
  | c1Val
  | c2Val
  /-- the CCCD write completed with status 0 -/
  | subscribed
  deriving DecidableEq

def Event.marks (c : Context) : Event → List Mark
  | .gap (.connect _ (.ok _) _ _) => [.connected]
  | .gap (.connect _ (.error _) _ _) => [.connectFailed]
  | .gap (.disconnect _ _) => [.disconnected]
  | .gattc (.service (some service)) => if service.uuid = .matterService then [.matterRange] else []
  | .gattc (.characteristic (some chr)) =>
      if chr.uuid = .c1 then [.c1Val] else if chr.uuid = .c2 then [.c2Val] else []
  | .gattc (.writeComplete attrHandle status) =>
      if c.state.c2Val.bind cccdHandle = some attrHandle ∧ status = 0 then [.subscribed] else []
  | _ => []

inductive Action where
  | recorded (mark : Mark)
  /-- `failed` was looked at, and is not set -/
  | checked
  | ensureAddr
  | connect (peer : BtAddr)
  | discoverServices (conn : Handle)
  | discoverCharacteristics (conn startHandle endHandle : Handle)
  | subscribe (conn attr : Handle) (data : Bytes) (result : Except BleError Unit)
  | setInitiator
  | call (call : Call)

/-- What the driver answers. -/
structure Answers where
  start : Except EspError Unit
  ensureAddr : Except BleError Unit
  connect : Except BleError Unit
  discoverServices : Except BleError Unit
  discoverCharacteristics : Except BleError Unit
  write : Except BleError Unit

/-- The purpose of a Write Request. -/
inductive Purpose where
  | cccd
  | c1
  deriving DecidableEq

/-- The client, with the Write Requests that were submitted and have not completed. -/
structure Client (β : Type) where
  world : World β
  phase : Phase
  outstanding : List (Purpose × Handle)

variable {β : Type}

/-- A client just created, whose `run` is called with this address. -/
def Client.fresh (btp : β) : Client β where
  world := { context := .new, btp, ended := none, aborted := false }
  phase := .start
  outstanding := []

namespace Client

def state (S : Client β) : State := S.world.state

def fail (S : Client β) : Client β :=
  { S with world := S.world.setEnded (some .noNetworkInterface), phase := .stopped }

/-- Go on after a driver call, unless it failed. -/
def proceed {ε : Type} (S : Client β) (result : Except ε Unit) (phase : Phase) : Client β :=
  match result with
  | .ok () => { S with phase }
  | .error _ => S.fail

/-- `run` goes on, up to the next point. -/
def advance (addr : BtAddr) (d : Answers) (S : Client β) : Client β × List Action :=
  match S.phase with
  | .start =>
      let S := { S with world := S.world.setState { S.state with peer := addr } }
      (S.proceed d.start (.wait .synced false), [])
  | .wait wait false =>
      if wait.pred S.state = true then
        ({ S with phase := wait.next }, [])
      else
        ({ S with phase := .wait wait true }, [])
  | .wait wait true =>
      if S.world.context.notifyProgress = true then
        ({ S with
           world := { S.world with context := { S.world.context with notifyProgress := false } }
           phase := .wait wait false }, [])
      else
        (S, [])
  | .connect =>
      match d.ensureAddr with
      | .error _ => (S.fail, [.ensureAddr])
      | .ok () => (S.proceed d.connect (.wait .connected false), [.ensureAddr, .connect addr])
  | .readConnHandle =>
      match S.state.connHandle with
      | none => (S.fail, [])
      | some conn => ({ S with phase := .discoverServices conn }, [])
  | .discoverServices conn =>
      (S.proceed d.discoverServices (.wait (.services conn) false), [.discoverServices conn])
  | .readRange conn =>
      match S.state.matterRange with
      | none => (S.fail, [])
      | some (startHandle, endHandle) =>
          ({ S with phase := .discoverCharacteristics conn startHandle endHandle }, [])
  | .discoverCharacteristics conn startHandle endHandle =>
      (S.proceed d.discoverCharacteristics (.wait (.chars conn) false),
        [.discoverCharacteristics conn startHandle endHandle])
  | .readChars conn =>
      match S.state.c1Val, S.state.c2Val with
      | some c1Val, some c2Val => ({ S with phase := .subscribe conn c1Val c2Val }, [])
      | _, _ => (S.fail, [])
  | .subscribe conn c1Val c2Val =>
      match cccdHandle c2Val with
      | none => ({ S with world := { S.world with aborted := true } }, [])
      | some cccd =>
          let call := Action.subscribe conn cccd subscribeIndications d.write
          match d.write with
          | .error _ => (S.fail, [call])
          | .ok () =>
              ({ S with
                 phase := .wait (.subscribed conn c1Val c2Val) false
                 outstanding := S.outstanding ++ [(.cccd, cccd)] }, [call])
  | .checkFailed conn c1Val =>
      if S.state.failed = true then
        (S.fail, [])
      else
        ({ S with phase := .setInitiator conn c1Val }, [.checked])
  | .setInitiator conn c1Val => ({ S with phase := .pumping conn c1Val }, [.setInitiator])
  | .pumping _ _ => (S, [])
  | .stopped => (S, [])

end Client

/-- The Write Request that a call submits. -/
def Call.submits : Call → Option (Purpose × Handle)
  | .write _ attr _ (.ok ()) => some (.c1, attr)
  | _ => none

/-- The Write Requests left when one with this handle completes. -/
def Event.completes (outstanding : List (Purpose × Handle)) : Event → List (Purpose × Handle)
  | .gattc (.writeComplete attrHandle _) => outstanding.eraseP fun write => write.2 = attrHandle
  | _ => outstanding

inductive Input (β : Type) where
  | event (event : Event)
  /-- `run` goes on; this is what the driver answers -/
  | run (answers : Answers)
  | incoming
  | outgoing (result : Except BleError Unit)
  | matter (btp : β)

namespace Client

/-- An iteration of a pump. It starts with a look at `failed`, under the lock that it keeps. -/
def pump (S : Client β) (it : Iteration β) : Client β × List Action :=
  ({ S with
     world := it.finish.1
     outstanding := S.outstanding ++ it.calls.filterMap Call.submits },
    (if S.state.failed = true then [] else [.checked]) ++ it.calls.map .call)

def step (E : Btp β) (addr : BtAddr) (S : Client β) (input : Input β) : Client β × List Action :=
  if S.world.aborted = true then
    (S, [])
  else
    match input with
    | .event event =>
        -- The hooks are subscribed by `run`.
        if S.phase = .start then
          (S, [])
        else
          match onEvent event S.world.context with
          | some context =>
              ({ S with
                 world := { S.world with context }
                 outstanding := event.completes S.outstanding },
                (event.marks S.world.context).map .recorded)
          | none => ({ S with world := { S.world with aborted := true } }, [])
    | .run d => if S.world.ended = none then S.advance addr d else (S, [])
    | .incoming =>
        match S.phase with
        | .pumping _ _ => if S.world.ended = none then S.pump (processIncoming E S.world) else (S, [])
        | _ => (S, [])
    | .outgoing result =>
        match S.phase with
        | .pumping conn c1Val =>
            if S.world.ended = none then S.pump (processOutgoing E conn c1Val result S.world) else (S, [])
        | _ => (S, [])
    | .matter btp => ({ S with world := S.world.setBtp btp }, [])

/-- What a step may come to. -/
inductive Moves (E : Btp β) (addr : BtAddr) (S : Client β) : Input β → Client β × List Action → Prop where
  | nothing (input : Input β) : Moves E addr S input (S, [])
  | event {event : Event} {context : Context} (hrunning : S.world.aborted = false)
      (hsubscribed : S.phase ≠ .start) (hevent : onEvent event S.world.context = some context) :
      Moves E addr S (.event event)
        ({ S with
           world := { S.world with context }
           outstanding := event.completes S.outstanding },
          (event.marks S.world.context).map .recorded)
  | overflow {event : Event} (hrunning : S.world.aborted = false) (hsubscribed : S.phase ≠ .start)
      (hevent : onEvent event S.world.context = none) :
      Moves E addr S (.event event) ({ S with world := { S.world with aborted := true } }, [])
  | run (d : Answers) (hrunning : S.world.aborted = false) (hended : S.world.ended = none) :
      Moves E addr S (.run d) (S.advance addr d)
  | incoming {conn c1Val : Handle} (hrunning : S.world.aborted = false) (hended : S.world.ended = none)
      (hphase : S.phase = .pumping conn c1Val) :
      Moves E addr S .incoming (S.pump (processIncoming E S.world))
  | outgoing (result : Except BleError Unit) {conn c1Val : Handle} (hrunning : S.world.aborted = false)
      (hended : S.world.ended = none) (hphase : S.phase = .pumping conn c1Val) :
      Moves E addr S (.outgoing result) (S.pump (processOutgoing E conn c1Val result S.world))
  | matter (btp : β) (hrunning : S.world.aborted = false) :
      Moves E addr S (.matter btp) ({ S with world := S.world.setBtp btp }, [])

theorem moves_step (E : Btp β) (addr : BtAddr) (S : Client β) (input : Input β) :
    S.Moves E addr input (S.step E addr input) := by
  unfold step
  split
  · exact .nothing input
  rename_i hrunning
  rw [Bool.not_eq_true] at hrunning
  cases input with
  | event event =>
      dsimp only
      split
      · exact .nothing _
      rename_i hsubscribed
      split
      · rename_i context hevent
        exact .event hrunning hsubscribed hevent
      · rename_i hevent
        exact .overflow hrunning hsubscribed hevent
  | run d =>
      dsimp only
      split
      · rename_i hended
        exact .run d hrunning hended
      · exact .nothing _
  | incoming =>
      dsimp only
      split
      · rename_i conn c1Val hphase
        split
        · rename_i hended
          exact .incoming hrunning hended hphase
        · exact .nothing _
      · exact .nothing _
  | outgoing result =>
      dsimp only
      split
      · rename_i conn c1Val hphase
        split
        · rename_i hended
          exact .outgoing result hrunning hended hphase
        · exact .nothing _
      · exact .nothing _
  | matter btp => exact .matter btp hrunning

end Client

end EspIdfMatter.Central
