import EspIdfMatter.Bluedroid.Events
import EspIdfMatter.Library.Machine

/-! The two pumps of the Bluedroid peripheral, and its runs. -/

namespace EspIdfMatter.Bluedroid

open Library

variable {β : Type}

/-- One iteration: the world after it, the calls made, and how the closure ended. -/
structure Iteration (β : Type) where
  world : World β
  calls : List Call
  processed : Processed

def World.syncBtp (E : Btp β) (w : World β) : World β × List Call :=
  let synced := w.state.syncBtp E w.btp
  ((w.setState synced.1).setBtp synced.2.1, synced.2.2.map .btp)

/-- Process incoming writes on characteristic `C1` from a remote peer. -/
def processIncoming (E : Btp β) (drv : Driver) (w : World β) : Iteration β :=
  match w.state.connection with
  | none => ⟨w, [], .ok false⟩
  | some conn =>
      let synced := w.syncBtp E
      let w := synced.1
      if w.state.inData.isEmpty = true then
        ⟨w, synced.2, .ok false⟩
      else
        let data := w.state.inData.toList
        let peer : BtAddr := ⟨conn.peer.addr⟩
        match E.processIncoming w.btp conn.mtu peer data with
        | (btp, .error e) =>
            ⟨w.setBtp btp,
              synced.2 ++ [.btp (.processIncoming conn.mtu peer data (.error e))], .error e⟩
        | (btp, .ok ()) =>
            let calls := synced.2 ++ [.btp (.processIncoming conn.mtu peer data (.ok ()))]
            let response : DriverCall :=
              .sendResponse (w.state.gattIf.getD 0) conn.connId w.state.inTrans .ok none
            match drv response with
            | .error e =>
                ⟨w.setBtp btp, calls ++ [.driver response (.error e)], .error .btpError⟩
            | .ok () =>
                ⟨(w.setState { w.state with inData := .empty }).setBtp btp,
                  calls ++ [.driver response (.ok ())], .ok true⟩

/-- Indicate new data on characteristic `C2` to a remote peer. -/
def processOutgoing (E : Btp β) (drv : Driver) (w : World β) : Iteration β :=
  match w.state.gattIf, w.state.c2Handle, w.state.connection with
  | some gattIf, some c2Handle, some conn =>
      if conn.subscribed = false then
        -- Peer is not subscribed to indications, so we shouldn't send anything
        ⟨w, [], .ok false⟩
      else
        -- Never emit anything on behalf of a previous connection's session.
        let synced := w.syncBtp E
        let w := synced.1
        if w.state.outNack = true then
          -- The previous indication has not been acknowledged by the peer yet.
          ⟨w, synced.2, .ok false⟩
        else
          let buf := w.state.outData.resize maxMtuSize le_rfl
          match E.processOutgoing w.btp conn.mtu with
          | (btp, .error e) =>
              ⟨(w.setState { w.state with outData := buf }).setBtp btp,
                synced.2 ++ [.btp (.processOutgoing conn.mtu (.error e))], .error e⟩
          | (btp, .ok frame) =>
              let w := (w.setState { w.state with
                outData := buf.overwrite frame.toList }).setBtp btp
              let calls := synced.2 ++ [.btp (.processOutgoing conn.mtu (.ok frame.toList))]
              if 0 < frame.length then
                let data := w.state.outData.toList.take frame.length
                let indication : DriverCall := .indicate gattIf conn.connId c2Handle data
                match drv indication with
                | .error e =>
                    ⟨w, calls ++ [.driver indication (.error e)], .error .btpError⟩
                | .ok () =>
                    -- Not acknowledged until we receive the acknowledgment from the peer.
                    ⟨w.setState { w.state with outNack := true },
                      calls ++ [.driver indication (.ok ())], .ok true⟩
              else
                ⟨w, calls, .ok false⟩
  | _, _, _ => ⟨w, [], .ok false⟩

/-! ### Runs -/

inductive Step (β : Type) where
  | gap (event : BleGapEvent) (driver : Driver)
  | gatts (gattIf : GattInterface) (event : GattsEvent) (driver : Driver)
  | incoming (driver : Driver)
  | outgoing (driver : Driver)
  /-- the rest of the Matter stack leaves the engine in this state -/
  | matter (btp : β)

/-- A pump that returns an error ends `run`, and the other pump with it. -/
def Iteration.finish (it : Iteration β) : World β × List Call :=
  (it.world.setEnded it.processed.error?, it.calls)

/-- The error of a handler is only logged (`check_esp_status`). -/
def Handled.finish (h : Handled β Unit) : World β × List Call :=
  (h.world, h.calls)

def step (cfg : Config) (E : Btp β) (w : World β) : Step β → World β × List Call
  | .gap event drv => (onGapEvent drv event w).finish
  | .gatts gattIf event drv => (onGattsEvent cfg drv gattIf event w).finish
  | .incoming drv => if w.ended = none then (processIncoming E drv w).finish else (w, [])
  | .outgoing drv => if w.ended = none then (processOutgoing E drv w).finish else (w, [])
  | .matter btp => (w.setBtp btp, [])

/-- A peripheral just created on a context, over an engine in any state. -/
def World.fresh (c : Context) (btp : β) : World β where
  context := c.reset
  btp := btp
  ended := none

/-! ### What the functions do -/

theorem State.syncBtp_of_synced (E : Btp β) {s : State} (btp : β)
    (h : s.btpGen = some s.connGen) : s.syncBtp E btp = (s, btp, []) := by
  simp [State.syncBtp, h]

theorem State.syncBtp_of_stale (E : Btp β) {s : State} (btp : β)
    (h : s.btpGen ≠ some s.connGen) :
    s.syncBtp E btp = ({ s with btpGen := some s.connGen }, E.reset btp, [.reset]) := by
  simp [State.syncBtp, h]

/-- Whatever it was before, the session belongs to the tracked connection afterwards. -/
theorem World.syncBtp_state (E : Btp β) (w : World β) :
    (w.syncBtp E).1.state = { w.state with btpGen := some w.state.connGen } := by
  by_cases h : w.state.btpGen = some w.state.connGen
  · rw [World.syncBtp, State.syncBtp_of_synced E w.btp h, ← h]
    rfl
  · rw [World.syncBtp, State.syncBtp_of_stale E w.btp h]
    rfl

@[simp] theorem World.syncBtp_ended (E : Btp β) (w : World β) :
    (w.syncBtp E).1.ended = w.ended := rfl

end EspIdfMatter.Bluedroid
