import EspIdfMatter.Nimble.Context
import EspIdfMatter.Library.Machine

/-! The two pumps of the NimBLE peripheral, and its runs. One iteration of a pump is the closure it
runs under the state lock; the outgoing pump also drives advertising. A run interleaves hook events
with iterations, and with whatever the rest of the Matter stack does to the engine. -/

namespace EspIdfMatter.Nimble

open Library

variable {β : Type}

inductive Call where
  | btp (call : BtpCall)
  | ensureAddr
  | advSetData (data : Bytes)
  | advStart
  | indicate (conn attr : Handle) (data : Bytes) (result : Except BleError Unit)
  deriving DecidableEq

/-- What the driver does in one iteration of the outgoing pump: its answers, and the completions it
delivers synchronously from within `indicate`. -/
structure Driver where
  ensureAddr : Except BleError Unit
  advSetData : Except BleError Unit
  advStart : Except BleError Unit
  indicate : Except BleError Unit
  during : List (Bool × Int)

/-- A driver whose calls succeed and that completes nothing synchronously. -/
def Driver.succeeding : Driver where
  ensureAddr := .ok ()
  advSetData := .ok ()
  advStart := .ok ()
  indicate := .ok ()
  during := []

/-- One iteration: the world after it, the calls made, and how the closure ended. -/
structure Iteration (β : Type) where
  world : World β
  calls : List Call
  processed : Processed

def World.syncBtp (E : Btp β) (w : World β) : World β × List Call :=
  let synced := w.state.syncBtp E w.btp
  ((w.setState synced.1).setBtp synced.2.1, synced.2.2.map .btp)

/-- Process incoming writes on characteristic `C1` from a remote peer. -/
def processIncoming (E : Btp β) (w : World β) : Iteration β :=
  match w.state.connection with
  | none => ⟨w, [], .ok false⟩
  | some conn =>
      let synced := w.syncBtp E
      let w := synced.1
      if w.state.inData.isEmpty = true then
        ⟨w, synced.2, .ok false⟩
      else
        let data := w.state.inData.toList
        match E.processIncoming w.btp conn.mtu conn.peer data with
        | (btp, .error e) =>
            ⟨w.setBtp btp,
              synced.2 ++ [.btp (.processIncoming conn.mtu conn.peer data (.error e))], .error e⟩
        | (btp, .ok ()) =>
            -- Unlike Bluedroid, NimBLE has already acknowledged the write.
            ⟨(w.setState { w.state with inData := .empty }).setBtp btp,
              synced.2 ++ [.btp (.processIncoming conn.mtu conn.peer data (.ok ()))], .ok true⟩

/-- Configure and (re)start connectable, undirected advertising. -/
def advertise (d : Driver) (w : World β) : List Call × Except ErrorCode Unit :=
  match d.ensureAddr with
  | .error _ => ([.ensureAddr], .error .noNetworkInterface)
  | .ok () =>
      let advData := w.state.advData.toList
      match d.advSetData with
      | .error _ => ([.ensureAddr, .advSetData advData], .error .noNetworkInterface)
      | .ok () =>
          match d.advStart with
          | .error _ => ([.ensureAddr, .advSetData advData, .advStart], .error .noNetworkInterface)
          | .ok () => ([.ensureAddr, .advSetData advData, .advStart], .ok ())

/-- (Re)advertise if the host-sync / disconnect hooks requested it. A failure is only logged. -/
def readvertise (d : Driver) (w : World β) : World β × List Call :=
  if w.state.needAdvertise = true then
    (w.setState { w.state with needAdvertise := false }, (advertise d w).1)
  else
    (w, [])

/-- Send one indication. The completions that the driver delivers from within `indicate` run the
hook on the pump's own task. -/
def submit (d : Driver) (conn c2 : Handle) (data : Bytes) (w : World β) : Iteration β :=
  -- Mark unacked *before* the send: the hook clears `out_nack`, which must win.
  let w := w.setNack true
  let w := d.during.foldl
    (fun w completion =>
      ((gattsHook (.notifyComplete conn c2 completion.1 completion.2)).exec w).1) w
  match d.indicate with
  | .ok () => ⟨w, [.indicate conn c2 data (.ok ())], .ok true⟩
  | .error e =>
      -- The send failed: a later attempt must not be blocked by a phantom in-flight indication.
      ⟨w.setNack false, [.indicate conn c2 data (.error e)], .error .noNetworkInterface⟩

/-- Indicate new data on characteristic `C2` to a remote peer. -/
def processOutgoing (E : Btp β) (d : Driver) (w : World β) : Iteration β :=
  match w.state.connection with
  | none => ⟨w, [], .ok false⟩
  | some conn =>
      if conn.subscribed = false then
        ⟨w, [], .ok false⟩
      else
        -- Never emit anything on behalf of a previous connection's session.
        let synced := w.syncBtp E
        let w := synced.1
        if w.outNack = true then
          -- The previous indication has not been acknowledged by the peer yet.
          ⟨w, synced.2, .ok false⟩
        else if w.c2ValHandle = 0 then
          ⟨w, synced.2, .ok false⟩
        else
          let buf := w.state.outData.resize maxMtuSize le_rfl
          match E.processOutgoing w.btp conn.mtu with
          | (btp, .error e) =>
              ⟨(w.setState { w.state with outData := buf }).setBtp btp,
                synced.2 ++ [.btp (.processOutgoing conn.mtu (.error e))], .error e⟩
          | (btp, .ok frame) =>
              let w := (w.setState { w.state with
                outData := buf.overwrite frame.toList }).setBtp btp
              let calls := synced.2 ++ [.btp (.processOutgoing conn.mtu (.ok frame.toList))]
              if frame.length = 0 then
                ⟨w, calls, .ok false⟩
              else
                let data := w.state.outData.toList.take frame.length
                let sent := submit d conn.connHandle w.c2ValHandle data w
                { sent with calls := calls ++ sent.calls }

/-- One iteration of the loop of the outgoing pump. -/
def iterateOutgoing (E : Btp β) (d : Driver) (w : World β) : Iteration β :=
  let advertised := readvertise d w
  let sent := processOutgoing E d advertised.1
  { sent with calls := advertised.2 ++ sent.calls }

/-! ### Runs -/

inductive Step (β : Type) where
  | event (event : Event)
  | incoming
  | outgoing (driver : Driver)
  /-- the rest of the Matter stack leaves the engine in this state -/
  | matter (btp : β)

/-- A pump that returns an error ends `run`, and the other pump with it. -/
def Iteration.finish (it : Iteration β) : World β × List Call :=
  (it.world.setEnded it.processed.error?, it.calls)

def step (E : Btp β) (w : World β) : Step β → World β × List Call
  | .event event => (((hook event).exec w).1, [])
  | .incoming => if w.ended = none then (processIncoming E w).finish else (w, [])
  | .outgoing d => if w.ended = none then (iterateOutgoing E d w).finish else (w, [])
  | .matter btp => (w.setBtp btp, [])

/-- A peripheral just created on a context, over an engine in any state. -/
def World.fresh (c : Context) (c2ValHandle : Handle) (btp : β) : World β where
  context := c.reset
  c2ValHandle := c2ValHandle
  btp := btp
  ended := none

/-! ### What the functions do -/

theorem State.syncBtp_of_synced (E : Btp β) {s : State} (btp : β)
    (h : s.btpGen = some s.connGen) : s.syncBtp E btp = (s, btp, []) := by
  simp [State.syncBtp, h]

theorem State.syncBtp_of_stale (E : Btp β) {s : State} (btp : β)
    (h : s.btpGen ≠ some s.connGen) :
    s.syncBtp E btp = ({ s with btpGen := some s.connGen }, E.reset btp, [.reset]) := by
  simp [State.syncBtp, h]

/-- Whatever it was before, the session belongs to the tracked connection afterwards. -/
theorem World.syncBtp_state (E : Btp β) (w : World β) :
    (w.syncBtp E).1.state = { w.state with btpGen := some w.state.connGen } := by
  by_cases h : w.state.btpGen = some w.state.connGen
  · rw [World.syncBtp, State.syncBtp_of_synced E w.btp h, ← h]
    rfl
  · rw [World.syncBtp, State.syncBtp_of_stale E w.btp h]
    rfl

@[simp] theorem World.syncBtp_outNack (E : Btp β) (w : World β) :
    (w.syncBtp E).1.outNack = w.outNack := rfl

@[simp] theorem World.syncBtp_c2ValHandle (E : Btp β) (w : World β) :
    (w.syncBtp E).1.c2ValHandle = w.c2ValHandle := rfl

@[simp] theorem World.syncBtp_ended (E : Btp β) (w : World β) :
    (w.syncBtp E).1.ended = w.ended := rfl

end EspIdfMatter.Nimble
