import EspIdfMatter.Bluedroid.Buffer
import EspIdfMatter.Bluedroid.Isolation
import EspIdfMatter.Peripheral

/-! The Bluedroid peripheral as a backend, and that it does what the ideal peripheral does which knows
no MTU before the first MTU event. -/

namespace EspIdfMatter.Bluedroid

open Library Library.Generation Library.Machine

variable {β : Type}

/-- The write that the peer of a trace makes. -/
def peerWrite (l : Peripheral.Link) (transId : TransferId) (handle : Handle) (value : Bytes) :
    Write where
  connId := l.conn
  transId := transId
  addr := ⟨l.peer⟩
  handle := handle
  offset := 0
  needRsp := true
  isPrep := false
  value := value

/-- The GATTS event that an event of a trace is for this host. -/
def event (v : Peripheral.Services) (l : Peripheral.Link) : Peripheral.Event → GattsEvent
  | .connect conn peer _ => .peerConnected conn ⟨peer⟩
  | .disconnect => .peerDisconnected l.conn ⟨l.peer⟩
  | .mtu value => .mtu l.conn value
  | .indications transId on => .write (peerWrite l transId v.cccd (if on = true then [2, 0] else [0, 0]))
  | .write transId data => .write (peerWrite l transId v.c1 data)
  | .confirm => .confirm .ok l.conn

def Call.seen : Call → Option Peripheral.Obs
  | .btp call => Peripheral.seen call
  | .driver (.indicate _ conn handle data) _ => some (.indicate conn handle data)
  | _ => none

def backend (cfg : Config) (E : Btp β) (v : Peripheral.Services) : Peripheral.Backend (World β) where
  handle := fun l e w => (step cfg E w (.gatts v.gattIf (event v l e) .succeeding)).1
  incoming := fun w =>
    let next := step cfg E w (.incoming .succeeding)
    ((next.1, next.2.filterMap Call.seen),
      w.ended.isNone && (processIncoming E .succeeding w).processed.again)
  outgoing := fun w =>
    let next := step cfg E w (.outgoing .succeeding)
    ((next.1, next.2.filterMap Call.seen),
      w.ended.isNone && (processOutgoing E .succeeding w).processed.again)

/-- What the ideal peripheral keeps of the tracked connection. -/
def World.toConn (w : World β) (conn : Connection) : Peripheral.Conn where
  conn := conn.connId
  peer := ⟨conn.peer.addr⟩
  subscribed := conn.subscribed
  mtu := conn.mtu
  synced := decide (w.state.btpGen = some w.state.connGen)
  pending := w.state.inData.toList
  inFlight := w.state.outNack

def World.ideal (w : World β) : Peripheral.Ideal β where
  btp := w.btp
  ended := w.ended
  conn := w.state.connection.map w.toConn

theorem ideal_setEnded {w : World β} {conn : Connection} {c : Peripheral.Conn}
    (hconn : w.state.connection = some conn) (hc : w.toConn conn = c) (ended : Option ErrorCode) :
    (w.setEnded ended).ideal = ⟨w.btp, ended, some c⟩ := by
  unfold World.ideal
  rw [World.state_setEnded, hconn, ← hc]
  rfl

/-! ### Pumps -/

section Pumps

variable (cfg : Config) (E : Btp β) (w : World β)

theorem syncBtp_seen (conn : Connection) :
    (w.toConn conn).sync E w.btp = ((w.syncBtp E).1.btp, (w.syncBtp E).2.filterMap Call.seen) := by
  unfold Peripheral.Conn.sync World.syncBtp World.toConn
  by_cases h : w.state.btpGen = some w.state.connGen
  · rw [State.syncBtp_of_synced E w.btp h]
    simp [h]
  · rw [State.syncBtp_of_stale E w.btp h]
    simp [h, Call.seen, Peripheral.seen]

theorem toConn_syncBtp (conn : Connection) :
    (w.syncBtp E).1.toConn conn = { w.toConn conn with synced := true } := by
  unfold World.toConn
  rw [World.syncBtp_state]
  simp

/-- **An iteration of the incoming pump is one of the ideal peripheral's.** -/
theorem incoming_ideal (v : Peripheral.Services) :
    w.ideal.incoming E =
      ((((backend cfg E v).incoming w).1.1.ideal, ((backend cfg E v).incoming w).1.2),
        ((backend cfg E v).incoming w).2) := by
  cases hrunning : w.ended with
  | some e =>
      rw [Peripheral.Ideal.incoming_of_ended E (by simp [World.ideal, hrunning])]
      simp [backend, step, hrunning]
  | none =>
      have hpump : (backend cfg E v).incoming w =
          (((processIncoming E .succeeding w).finish.1,
            (processIncoming E .succeeding w).calls.filterMap Call.seen),
            (processIncoming E .succeeding w).processed.again) := by
        simp [backend, step, hrunning, Iteration.finish]
      rw [hpump]
      unfold Peripheral.Ideal.incoming
      cases hconn : w.state.connection with
      | none =>
          simp [processIncoming, World.ideal, hrunning, hconn, Iteration.finish, Processed.again]
      | some conn =>
          have hstate := World.syncBtp_state E w
          have htracked : (w.syncBtp E).1.state.connection = some conn := by rw [hstate, hconn]
          have hdata : (w.syncBtp E).1.state.inData = w.state.inData := by rw [hstate]
          simp only [World.ideal, hrunning, hconn, Option.map_some]
          rw [syncBtp_seen]
          unfold processIncoming
          simp only [hconn, hdata]
          by_cases hempty : w.state.inData.toList = []
          · rw [if_pos (show (w.toConn conn).pending = [] from hempty),
              if_pos ((BoundedVec.isEmpty_iff _).mpr hempty)]
            refine Prod.ext (Prod.ext ?_ rfl) rfl
            exact (ideal_setEnded htracked (toConn_syncBtp E w conn) none).symm
          · rw [if_neg (show ¬ (w.toConn conn).pending = [] from hempty),
              if_neg (mt (BoundedVec.isEmpty_iff _).mp hempty)]
            have hcall : E.processIncoming (w.syncBtp E).1.btp (w.toConn conn).mtu
                (w.toConn conn).peer (w.toConn conn).pending =
                E.processIncoming (w.syncBtp E).1.btp conn.mtu ⟨conn.peer.addr⟩
                  w.state.inData.toList := rfl
            rw [hcall]
            rcases E.processIncoming (w.syncBtp E).1.btp conn.mtu ⟨conn.peer.addr⟩
              w.state.inData.toList with ⟨btp, e | u⟩
            · refine Prod.ext (Prod.ext ?_ ?_) rfl
              · exact (ideal_setEnded (w := (w.syncBtp E).1.setBtp btp) htracked
                  (toConn_syncBtp E w conn) (some e)).symm
              · rw [List.filterMap_append]
                rfl
            · refine Prod.ext (Prod.ext ?_ ?_) rfl
              · have hcleared := congrArg (fun c : Peripheral.Conn => { c with pending := [] })
                  (toConn_syncBtp E w conn)
                exact (ideal_setEnded (w := ((w.syncBtp E).1.setState
                  { (w.syncBtp E).1.state with inData := .empty }).setBtp btp) htracked hcleared
                  none).symm
              · simp only [Driver.succeeding, List.filterMap_append, List.append_assoc]
                rfl

/-- **An iteration of the outgoing pump is one of the ideal peripheral's.** -/
theorem outgoing_ideal (v : Peripheral.Services) (hgattIf : w.state.gattIf = some v.gattIf)
    (hc2 : w.state.c2Handle = some v.c2) :
    w.ideal.outgoing E v.c2 =
      ((((backend cfg E v).outgoing w).1.1.ideal, ((backend cfg E v).outgoing w).1.2),
        ((backend cfg E v).outgoing w).2) := by
  cases hrunning : w.ended with
  | some e =>
      rw [Peripheral.Ideal.outgoing_of_ended E v.c2 (by simp [World.ideal, hrunning])]
      simp [backend, step, hrunning]
  | none =>
      have hpump : (backend cfg E v).outgoing w =
          (((processOutgoing E .succeeding w).finish.1,
            (processOutgoing E .succeeding w).calls.filterMap Call.seen),
            (processOutgoing E .succeeding w).processed.again) := by
        simp [backend, step, hrunning, Iteration.finish]
      rw [hpump]
      unfold Peripheral.Ideal.outgoing
      cases hconn : w.state.connection with
      | none =>
          simp [processOutgoing, World.ideal, hrunning, hconn, hgattIf, hc2, Iteration.finish,
            Processed.again]
      | some conn =>
          have hstate := World.syncBtp_state E w
          have htracked : (w.syncBtp E).1.state.connection = some conn := by rw [hstate, hconn]
          have hnackKept : (w.syncBtp E).1.state.outNack = w.state.outNack := by rw [hstate]
          have hideal : w.ideal = ⟨w.btp, none, some (w.toConn conn)⟩ := by
            rw [← hrunning]
            exact ideal_setEnded hconn rfl w.ended
          rw [hideal]
          dsimp only
          rw [syncBtp_seen]
          unfold processOutgoing
          simp only [hconn, hgattIf, hc2]
          by_cases hsub : conn.subscribed = false
          · rw [if_pos (show (w.toConn conn).subscribed = false from hsub), if_pos hsub]
            refine Prod.ext (Prod.ext ?_ rfl) rfl
            exact (ideal_setEnded hconn rfl none).symm
          rw [if_neg (show ¬ (w.toConn conn).subscribed = false from hsub), if_neg hsub]
          by_cases hnack : w.state.outNack = true
          · rw [if_pos (show (w.toConn conn).inFlight = true from hnack),
              if_pos (hnackKept.trans hnack)]
            refine Prod.ext (Prod.ext ?_ rfl) rfl
            exact (ideal_setEnded htracked (toConn_syncBtp E w conn) none).symm
          rw [if_neg (show ¬ (w.toConn conn).inFlight = true from hnack),
            if_neg (hnackKept ▸ hnack)]
          have hcall : E.processOutgoing (w.syncBtp E).1.btp (w.toConn conn).mtu =
              E.processOutgoing (w.syncBtp E).1.btp conn.mtu := rfl
          rw [hcall]
          rcases E.processOutgoing (w.syncBtp E).1.btp conn.mtu with ⟨btp, e | frame⟩
          · refine Prod.ext (Prod.ext ?_ ?_) rfl
            · exact (ideal_setEnded (w := ((w.syncBtp E).1.setState { (w.syncBtp E).1.state with
                outData := _ }).setBtp btp) htracked (toConn_syncBtp E w conn) (some e)).symm
            · rw [List.filterMap_append]
              exact (List.append_nil _).symm
          · dsimp only
            generalize hbuf : (w.syncBtp E).1.state.outData.resize maxMtuSize le_rfl = buf
            have htake : (buf.overwrite frame.toList).toList.take frame.length = frame.toList := by
              rw [← hbuf]
              exact take_overwrite_frame _ frame
            by_cases hframe : frame.toList = []
            · rw [if_pos hframe, if_neg (by
                rw [BoundedVec.length_eq_zero_iff.mpr hframe]
                exact Nat.lt_irrefl 0)]
              refine Prod.ext (Prod.ext ?_ ?_) rfl
              · exact (ideal_setEnded (w := ((w.syncBtp E).1.setState { (w.syncBtp E).1.state with
                  outData := _ }).setBtp btp) htracked (toConn_syncBtp E w conn) none).symm
              · rw [List.filterMap_append]
                simp [Call.seen, Peripheral.seen, hframe]
            · rw [if_neg hframe, if_pos (Nat.pos_of_ne_zero
                (mt BoundedVec.length_eq_zero_iff.mp hframe))]
              refine Prod.ext (Prod.ext ?_ ?_) rfl
              · have hsent := congrArg (fun c : Peripheral.Conn => { c with inFlight := true })
                  (toConn_syncBtp E w conn)
                exact (ideal_setEnded (w := (((w.syncBtp E).1.setState { (w.syncBtp E).1.state with
                  outData := _ }).setBtp btp).setState { (w.syncBtp E).1.state with
                  outData := _, outNack := true }) htracked hsent none).symm
              · simp only [Driver.succeeding, World.state_setBtp, World.state_setState, htake,
                  List.filterMap_append]
                rw [List.append_assoc]
                simpa [Call.seen, Peripheral.seen, hframe] using ⟨rfl, rfl⟩

/-- The pumps change buffers and flags only, and the session is at most brought up to date. -/
def World.Pumped (w w' : World β) : Prop :=
  ∃ btpGen inData outData outNack,
    w'.state = { w.state with btpGen, inData, outData, outNack } ∧
      (btpGen = w.state.btpGen ∨ btpGen = some w.state.connGen)

theorem pumped_processIncoming : w.Pumped (processIncoming E .succeeding w).world := by
  have hstate := World.syncBtp_state E w
  unfold processIncoming
  split
  · exact ⟨_, _, _, _, rfl, .inl rfl⟩
  dsimp only
  split
  · exact ⟨_, _, _, _, hstate, .inr rfl⟩
  split
  · exact ⟨_, _, _, _, hstate, .inr rfl⟩
  · dsimp only [Driver.succeeding]
    exact ⟨_, _, _, _, by rw [World.state_setBtp, World.state_setState, hstate], .inr rfl⟩

theorem pumped_processOutgoing : w.Pumped (processOutgoing E .succeeding w).world := by
  have hstate := World.syncBtp_state E w
  unfold processOutgoing
  split
  · split
    · exact ⟨_, _, _, _, rfl, .inl rfl⟩
    dsimp only
    split
    · exact ⟨_, _, _, _, hstate, .inr rfl⟩
    split
    · exact ⟨_, _, _, _, by rw [World.state_setBtp, World.state_setState, hstate], .inr rfl⟩
    split
    · dsimp only [Driver.succeeding]
      exact ⟨_, _, _, _, by
        rw [World.state_setState, World.state_setBtp, World.state_setState, hstate], .inr rfl⟩
    · exact ⟨_, _, _, _, by rw [World.state_setBtp, World.state_setState, hstate], .inr rfl⟩
  · exact ⟨_, _, _, _, rfl, .inl rfl⟩

end Pumps

/-! ### Refinement -/

/-- The service is registered, the context has what is left of the trace, and the next connection will
not be taken for the one that the engine was reset for. -/
structure World.Tracks (v : Peripheral.Services) (l : Peripheral.Link) (w : World β) : Prop where
  ended : w.ended = none
  gattIf : w.state.gattIf = some v.gattIf
  c1Handle : w.state.c1Handle = some v.c1
  c2Handle : w.state.c2Handle = some v.c2
  c2CccdHandle : w.state.c2CccdHandle = some v.cccd
  connection : w.state.connection.map (fun conn => (conn.connId, conn.peer)) =
    if l.up = true then some (l.conn, ⟨l.peer⟩) else none
  fresh : w.state.connection = none → w.state.btpGen ≠ some (w.state.connGen + 1)

inductive Refines (v : Peripheral.Services) (l : Peripheral.Link) (w : World β) :
    Peripheral.Ideal β → Prop where
  | ended {i : Peripheral.Ideal β} (hw : w.ended ≠ none) (hi : i.ended ≠ none) : Refines v l w i
  | running (h : w.Tracks v l) : Refines v l w w.ideal

section Refines

variable {v : Peripheral.Services} {l : Peripheral.Link} {w : World β}

theorem World.Tracks.cases (h : w.Tracks v l) : l.up = false ∧ w.state.connection = none ∨
    ∃ conn, l.up = true ∧ w.state.connection = some conn ∧ conn.connId = l.conn ∧
      conn.peer = ⟨l.peer⟩ := by
  have hconn := h.connection
  cases hup : l.up with
  | false =>
      rw [hup] at hconn
      exact .inl ⟨rfl, Option.map_eq_none_iff.mp hconn⟩
  | true =>
      rw [hup] at hconn
      obtain ⟨conn, htracked, hpeer⟩ := Option.map_eq_some_iff.mp hconn
      exact .inr ⟨conn, rfl, htracked, congrArg Prod.fst hpeer, congrArg Prod.snd hpeer⟩

/-- A pump that leaves the connection alone keeps the refinement, whether or not it fails. -/
theorem World.Tracks.pumped (h : w.Tracks v l) {w' : World β} (hw : w.Pumped w') :
    Refines v l w' w'.ideal := by
  obtain ⟨btpGen, inData, outData, outNack, hstate, hgen⟩ := hw
  cases hended : w'.ended with
  | some e => exact .ended (by simp [hended]) (by simp [World.ideal, hended])
  | none =>
      refine .running ⟨hended, ?_, ?_, ?_, ?_, ?_, ?_⟩
      all_goals rw [hstate]
      · exact h.gattIf
      · exact h.c1Handle
      · exact h.c2Handle
      · exact h.c2CccdHandle
      · exact h.connection
      · rcases hgen with rfl | rfl
        · exact h.fresh
        · exact fun _ heq => counter_next_ne w.state.connGen (Option.some.inj heq).symm

theorem alike_incoming (cfg : Config) (E : Btp β) (v : Peripheral.Services) (l : Peripheral.Link) :
    Peripheral.Alike l.exchanged (Refines v l) (backend cfg E v).incoming
      (Peripheral.Ideal.incoming E) := by
  intro w i h
  cases h with
  | ended hw hi =>
      rw [Peripheral.Ideal.incoming_of_ended E hi]
      simpa [backend, step, hw] using .ended hw hi
  | running h =>
      rw [incoming_ideal cfg E w v]
      refine ⟨rfl, rfl, h.pumped ?_⟩
      simp only [backend, step, if_pos h.ended]
      exact pumped_processIncoming E w

theorem alike_outgoing (cfg : Config) (E : Btp β) (v : Peripheral.Services) (l : Peripheral.Link) :
    Peripheral.Alike l.exchanged (Refines v l) (backend cfg E v).outgoing
      (Peripheral.Ideal.outgoing E v.c2) := by
  intro w i h
  cases h with
  | ended hw hi =>
      rw [Peripheral.Ideal.outgoing_of_ended E v.c2 hi]
      simpa [backend, step, hw] using .ended hw hi
  | running h =>
      rw [outgoing_ideal cfg E w v h.gattIf h.c2Handle]
      refine ⟨rfl, rfl, h.pumped ?_⟩
      simp only [backend, step, if_pos h.ended]
      exact pumped_processOutgoing E w

/-! ### Events -/

/-- Only the state counts, and what neither the handlers nor the signals touch. -/
theorem Refines.congr {w' : World β} {i : Peripheral.Ideal β} (h : Refines v l w i)
    (hstate : w'.state = w.state) (hbtp : w'.btp = w.btp) (hended : w'.ended = w.ended) :
    Refines v l w' i := by
  cases h with
  | ended hw hi => exact .ended (hended ▸ hw) hi
  | running h =>
      have hideal : w.ideal = w'.ideal := by
        unfold World.ideal World.toConn
        rw [hstate, hbtp, hended]
      rw [hideal]
      refine .running ⟨hended.trans h.ended, ?_, ?_, ?_, ?_, ?_, ?_⟩
      all_goals rw [hstate]
      · exact h.gattIf
      · exact h.c1Handle
      · exact h.c2Handle
      · exact h.c2CccdHandle
      · exact h.connection
      · exact h.fresh

theorem World.Tracks.connect (h : w.Tracks v l) (hup : l.up = false) (conn : Handle)
    (peer : Vector UInt8 6) (mtu : Option UInt16) :
    Refines v (l.next (.connect conn peer mtu)) (w.setState (w.state.createConn conn ⟨peer⟩))
      (w.ideal.handle false (.connect conn peer mtu)) := by
  rcases h.cases with ⟨-, hnone⟩ | ⟨_, hup', -⟩
  · have hideal : w.ideal.handle false (.connect conn peer mtu) =
        (w.setState (w.state.createConn conn ⟨peer⟩)).ideal := by
      have hstale := h.fresh hnone
      have hnew : (w.setState (w.state.createConn conn ⟨peer⟩)).toConn
          ⟨⟨peer⟩, conn, false, none⟩ = .new conn peer none :=
        congrArg (fun synced => { Peripheral.Conn.new conn peer none with synced }) (decide_eq_false hstale)
      rw [Peripheral.Ideal.handle, if_neg Bool.false_ne_true, ← hnew]
      rfl
    rw [hideal]
    exact .running ⟨h.ended, h.gattIf, h.c1Handle, h.c2Handle, h.c2CccdHandle, rfl, nofun⟩
  · rw [hup] at hup'
    cases hup'

theorem World.Tracks.disconnect (h : w.Tracks v l) (hsettled : w.ideal.Settled) :
    Refines v (l.next .disconnect)
      (w.setState (if (w.state.connection.map fun conn => conn.peer) = some ⟨l.peer⟩ then
        w.state.deleteConn else w.state))
      (w.ideal.handle false .disconnect) := by
  rcases h.cases with ⟨hup, hnone⟩ | ⟨conn, -, htracked, -, hpeer⟩
  · rw [if_neg (by simp [hnone])]
    have hideal : w.ideal.handle false .disconnect = (w.setState w.state).ideal := by
      simp only [World.ideal, Peripheral.Ideal.handle, World.state_setState, hnone]
      rfl
    have hconn : w.state.connection.map (fun conn => (conn.connId, conn.peer)) = none := by
      rw [hnone, Option.map_none]
    rw [hideal]
    exact .running ⟨h.ended, h.gattIf, h.c1Handle, h.c2Handle, h.c2CccdHandle, hconn, h.fresh⟩
  · rw [if_pos (by simp [htracked, hpeer])]
    have hsynced := (hsettled (w.toConn conn) h.ended (by simp [World.ideal, htracked])).1
    have hgen : w.state.btpGen = some w.state.connGen := of_decide_eq_true hsynced
    have hstale : some w.state.connGen ≠ some (w.state.connGen + 1 + 1) :=
      (within_self w.state.connGen 0).next.ne_next (by decide)
    have hideal : w.ideal.handle false .disconnect = (w.setState w.state.deleteConn).ideal := rfl
    rw [hideal]
    refine .running ⟨h.ended, h.gattIf, h.c1Handle, h.c2Handle, h.c2CccdHandle, rfl, fun _ => ?_⟩
    rw [← hgen] at hstale
    exact hstale

/-- A change of the tracked connection that keeps its id and its peer. -/
theorem World.Tracks.setConnection (h : w.Tracks v l) {conn c : Connection}
    (hconn : w.state.connection = some conn) (hid : c.connId = conn.connId)
    (hpeer : c.peer = conn.peer) {g : Peripheral.Conn → Peripheral.Conn}
    (hg : g (w.toConn conn) = w.toConn c) :
    Refines v l (w.setState { w.state with connection := some c }) (w.ideal.modify g) := by
  have hideal : w.ideal.modify g = (w.setState { w.state with connection := some c }).ideal := by
    simp only [World.ideal, Peripheral.Ideal.modify, hconn, Option.map_some, hg]
    rfl
  have htracked : (some c).map (fun conn => (conn.connId, conn.peer)) =
      if l.up = true then some (l.conn, ⟨l.peer⟩) else none := by
    rw [← h.connection, hconn, Option.map_some, Option.map_some, hid, hpeer]
  rw [hideal]
  exact .running ⟨h.ended, h.gattIf, h.c1Handle, h.c2Handle, h.c2CccdHandle, htracked, nofun⟩

/-- Without a connection there is nothing to change. -/
theorem World.Tracks.modify_of_none (h : w.Tracks v l) (hnone : w.state.connection = none)
    (g : Peripheral.Conn → Peripheral.Conn) : Refines v l w (w.ideal.modify g) := by
  have hideal : w.ideal.modify g = w.ideal := by
    simp only [World.ideal, Peripheral.Ideal.modify, hnone, Option.map_none]
  rw [hideal]
  exact .running h

theorem World.Tracks.registerConnMtu (h : w.Tracks v l) (value : UInt16) :
    Refines v l (w.setState (w.state.registerConnMtu l.conn value))
      (w.ideal.modify fun c => { c with mtu := some value }) := by
  rcases h.cases with ⟨-, hnone⟩ | ⟨conn, -, htracked, hid, -⟩
  · have hsame : w.state.registerConnMtu l.conn value = w.state := by
      simp only [State.registerConnMtu, hnone]
    rw [hsame]
    exact h.modify_of_none hnone _
  · have hchanged : w.state.registerConnMtu l.conn value =
        { w.state with connection := some { conn with mtu := some value } } := by
      simp only [State.registerConnMtu, htracked, if_pos hid]
    rw [hchanged]
    exact h.setConnection (c := { conn with mtu := some value })
      (g := fun c => { c with mtu := some value }) htracked rfl rfl rfl

/-- The value written to the CCCD turns the indications on or off, if they are not already. -/
theorem World.Tracks.subscribe (h : w.Tracks v l) (transId : TransferId) (on : Bool) :
    Refines v l
      (writeLocked (peerWrite l transId v.cccd (if on = true then [2, 0] else [0, 0])) w).1
      (w.ideal.modify fun c => { c with subscribed := on }) := by
  have hvalue : cccdValue 0 (if on = true then [2, 0] else [0, 0]) =
      some (if on = true then 2 else 0) := by cases on <;> rfl
  rcases h.cases with ⟨-, hnone⟩ | ⟨conn, -, htracked, hid, -⟩
  · have hsame : ∀ ev, writeLocked ev w = (w, false) := by
      intro ev
      simp only [writeLocked, hnone]
    rw [hsame]
    exact h.modify_of_none hnone _
  · have hchanged := h.setConnection (c := { conn with subscribed := on })
      (g := fun c => { c with subscribed := on }) htracked rfl rfl rfl
    have hlocked : (writeLocked (peerWrite l transId v.cccd (if on = true then [2, 0] else [0, 0]))
        w).1.state = { w.state with connection := some { conn with subscribed := on } } := by
      have hpeer : ¬ conn.connId ≠ l.conn := not_ne_iff.mpr hid
      simp only [writeLocked, peerWrite, htracked, if_neg hpeer, if_pos h.c2CccdHandle, hvalue]
      have hsame : conn.subscribed = on →
          w.state = { w.state with connection := some { conn with subscribed := on } } := by
        rintro rfl
        rw [← htracked]
      cases on with
      | false =>
          rw [if_neg Bool.false_ne_true, if_neg (by decide)]
          split
          · rfl
          · rename_i hsub
            exact hsame (eq_false_of_ne_true hsub)
      | true =>
          rw [if_pos rfl, if_pos rfl]
          split
          · rfl
          · rename_i hsub
            exact hsame (eq_true_of_ne_false hsub)
    obtain ⟨hbtp, hended⟩ := writeLocked_keeps w
      (peerWrite l transId v.cccd (if on = true then [2, 0] else [0, 0]))
    exact hchanged.congr hlocked hbtp hended

theorem World.Tracks.write (h : w.Tracks v l) (transId : TransferId) {data : Bytes}
    (hlen : data.length ≤ maxMtuSize) :
    Refines v l (writeLocked (peerWrite l transId v.c1 data) w).1
      (w.ideal.modify fun c => { c with pending := data }) := by
  rcases h.cases with ⟨-, hnone⟩ | ⟨conn, -, htracked, hid, -⟩
  · have hsame : ∀ ev, writeLocked ev w = (w, false) := by
      intro ev
      simp only [writeLocked, hnone]
    rw [hsame]
    exact h.modify_of_none hnone _
  · have hstores : StoresC1 w (peerWrite l transId v.c1 data) := by
      refine ⟨by rw [htracked]; exact congrArg some hid, ?_, h.c1Handle, rfl⟩
      rw [h.c2CccdHandle]
      exact fun heq => v.c1_ne_cccd (Option.some.inj heq).symm
    have hstored := storeC1_inData w.state transId data
    rw [if_pos hlen] at hstored
    rw [writeLocked_of_stores hstores]
    have hideal : w.ideal.modify (fun c => { c with pending := data }) =
        (w.setState (w.state.storeC1 transId data)).ideal := by
      have hconn : (w.setState (w.state.storeC1 transId data)).toConn conn =
          { w.toConn conn with pending := data } := by
        unfold World.toConn
        rw [World.state_setState, hstored]
        rfl
      have htracked' : (w.state.storeC1 transId data).connection = some conn := htracked
      simp only [World.ideal, Peripheral.Ideal.modify, World.state_setState, htracked, htracked',
        Option.map_some, hconn]
      rfl
    rw [hideal]
    exact .running ⟨h.ended, h.gattIf, h.c1Handle, h.c2Handle, h.c2CccdHandle, h.connection, h.fresh⟩

theorem World.Tracks.confirm (h : w.Tracks v l) :
    Refines v l (w.setState { w.state with outNack := false })
      (w.ideal.modify fun c => { c with inFlight := false }) := by
  have hideal : w.ideal.modify (fun c => { c with inFlight := false }) =
      (w.setState { w.state with outNack := false }).ideal := by
    rcases h.cases with ⟨-, hnone⟩ | ⟨conn, -, htracked, -⟩
    · simp only [World.ideal, Peripheral.Ideal.modify, World.state_setState, hnone]
      rfl
    · simp only [World.ideal, Peripheral.Ideal.modify, World.state_setState, htracked]
      rfl
  rw [hideal]
  exact .running ⟨h.ended, h.gattIf, h.c1Handle, h.c2Handle, h.c2CccdHandle, h.connection, h.fresh⟩

/-- Responding to a write changes nothing, unless it is a prepared one. -/
theorem write_world (drv : Driver) (gattIf : GattInterface) (ev : Write) (hprep : ev.isPrep = false)
    (w : World β) : (write drv gattIf ev w).world = (writeLocked ev w).1 := by
  unfold write sendWriteResponse
  simp only [hprep, Bool.false_eq_true, if_false]
  split
  · split
    · rfl
    · rw [perform_world]
  · rfl

/-- **An event does what it does to the ideal peripheral.** -/
theorem refines_handle (cfg : Config) (E : Btp β) (v : Peripheral.Services) (l : Peripheral.Link)
    (e : Peripheral.Event) (w : World β) (i : Peripheral.Ideal β) (h : Refines v l w i)
    (hsettled : i.Settled) (hG : Peripheral.WellFormed l e) :
    Refines v (l.next e) ((backend cfg E v).handle (l.next e) e w) (i.handle false e) := by
  obtain ⟨hbtp, hended⟩ := keeps_onGattsEvent cfg .succeeding v.gattIf (event v (l.next e) e) w
  cases h with
  | ended hw hi =>
      refine .ended ?_ (by rwa [Peripheral.Ideal.ended_handle])
      rwa [show ((backend cfg E v).handle (l.next e) e w).ended = w.ended from hended]
  | running h =>
      cases e with
      | connect conn peer attMtu =>
          have hnone : w.state.connection = none := by
            rcases h.cases with ⟨-, hnone⟩ | ⟨_, hup, -⟩
            · exact hnone
            · exact absurd hup (by rw [show l.up = false from hG]; nofun)
          have hstate := peerConnected_state cfg .succeeding v.gattIf w conn ⟨peer⟩
          rw [if_pos hnone] at hstate
          exact (h.connect hG conn peer attMtu).congr hstate hbtp hended
      | disconnect =>
          exact (h.disconnect hsettled).congr
            (peerDisconnected_state cfg .succeeding v.gattIf w l.conn ⟨l.peer⟩) hbtp hended
      | mtu value =>
          have h : w.Tracks v (l.next (.mtu value)) := ⟨h.ended, h.gattIf, h.c1Handle, h.c2Handle,
            h.c2CccdHandle, h.connection, h.fresh⟩
          exact h.registerConnMtu value
      | indications transId on =>
          have hworld := write_world .succeeding v.gattIf
            (peerWrite l transId v.cccd (if on = true then [2, 0] else [0, 0])) rfl w
          exact (h.subscribe transId on).congr (congrArg World.state hworld)
            (congrArg World.btp hworld) (congrArg World.ended hworld)
      | write transId data =>
          have hworld := write_world .succeeding v.gattIf (peerWrite l transId v.c1 data) rfl w
          exact (h.write transId hG.2).congr (congrArg World.state hworld)
            (congrArg World.btp hworld) (congrArg World.ended hworld)
      | confirm => exact h.confirm.congr rfl hbtp hended

end Refines

/-! ### The registered service -/

/-- The events of the registration of the service. -/
def registration (cfg : Config) (v : Peripheral.Services) : List (Step β) :=
  [.serviceRegistered .ok cfg.appId, .serviceCreated .ok v.service,
    .characteristicAdded .ok v.c1 v.service .c1, .characteristicAdded .ok v.c2 v.service .c2,
    .descriptorAdded .ok v.cccd v.service .cccd].map fun event => .gatts v.gattIf event .succeeding

/-- A peripheral just created, once its service is registered. -/
def World.registered (cfg : Config) (E : Btp β) (v : Peripheral.Services) (c : Context) (btp : β) :
    World β :=
  after (step cfg E) (.fresh c btp) (registration cfg v)

theorem registered_state (cfg : Config) (E : Btp β) (v : Peripheral.Services) (c : Context) (btp : β) :
    (World.registered cfg E v c btp).state =
      { c.state.reset with
        gattIf := some v.gattIf
        serviceHandle := some v.service
        c1Handle := some v.c1
        c2Handle := some v.c2
        c2CccdHandle := some v.cccd } := by
  have hfresh : (World.fresh c btp).state = c.state.reset := rfl
  simp [World.registered, registration, step, onGattsEvent, checkGattStatus, Handled.andThen,
    createService, configureAndStartService, registerCharacteristic, registerCccdDescriptor,
    Handled.finish, hfresh]

theorem registered_keeps (cfg : Config) (E : Btp β) (v : Peripheral.Services) (c : Context) (btp : β) :
    (World.registered cfg E v c btp).btp = btp ∧ (World.registered cfg E v c btp).ended = none := by
  refine invariant_after (I := fun w : World β => w.btp = btp ∧ w.ended = none)
    (G := fun _ s => ∃ event, s = .gatts v.gattIf event .succeeding) ?_ ⟨rfl, rfl⟩ ?_
  · rintro w _ ⟨hbtp, hended⟩ ⟨event, rfl⟩
    obtain ⟨hbtp', hended'⟩ := keeps_onGattsEvent cfg .succeeding v.gattIf event w
    exact ⟨hbtp'.trans hbtp, hended'.trans hended⟩
  · exact ⟨⟨_, rfl⟩, ⟨_, rfl⟩, ⟨_, rfl⟩, ⟨_, rfl⟩, ⟨_, rfl⟩, trivial⟩

theorem registered_tracks (cfg : Config) (E : Btp β) (v : Peripheral.Services) {c : Context} (btp : β)
    (hfresh : c.state.btpGen ≠ some (c.state.connGen + 1)) :
    (World.registered cfg E v c btp).Tracks v .down := by
  obtain ⟨hbtp, hended⟩ := registered_keeps cfg E v c btp
  have hstate := registered_state cfg E v c btp
  refine ⟨hended, ?_, ?_, ?_, ?_, ?_, ?_⟩
  all_goals rw [hstate]
  · rfl
  · exact fun _ => hfresh

/-- **The Bluedroid peripheral does what the ideal peripheral does** that knows no MTU before the first
MTU event. -/
theorem observed_eq_ideal (cfg : Config) (E : Btp β) (v : Peripheral.Services) {c : Context} (btp : β)
    (hfresh : c.state.btpGen ≠ some (c.state.connGen + 1)) {events : List Peripheral.Event}
    (htrace : Peripheral.Trace Peripheral.WellFormed .down events) :
    (backend cfg E v).observed (.registered cfg E v c btp) events =
      (Peripheral.ideal E v.c2 false).observed ⟨btp, none, none⟩ events := by
  have hideal : (World.registered cfg E v c btp).ideal = ⟨btp, none, none⟩ := by
    obtain ⟨hbtp, hended⟩ := registered_keeps cfg E v c btp
    unfold World.ideal
    rw [hbtp, hended, registered_state]
    rfl
  have hstart := Refines.running (registered_tracks cfg E v btp hfresh)
  rw [hideal] at hstart
  exact Peripheral.Backend.observed_eq (refines_handle cfg E v) (alike_incoming cfg E v)
    (alike_outgoing cfg E v) hstart (fun _ _ h => by cases h) htrace

theorem nack_of_again (E : Btp β) {w : World β}
    (h : (processOutgoing E .succeeding w).processed.again = true) :
    (processOutgoing E .succeeding w).world.state.outNack = true := by
  unfold processOutgoing at h ⊢
  split at h
  · split at h
    · cases h
    dsimp only at h ⊢
    split at h
    · cases h
    split at h
    · cases h
    split at h
    · rename_i hsub hnack _ _ _ _ hframe
      simp only [if_neg hsub, if_neg hnack, if_pos hframe]
      rfl
    · cases h
  · cases h

theorem not_again_of_nack (E : Btp β) {w : World β} (h : w.state.outNack = true) :
    (processOutgoing E .succeeding w).processed.again = false := by
  have hkept : (w.syncBtp E).1.state.outNack = true := by rw [World.syncBtp_state, h]
  unfold processOutgoing
  split
  · split
    · rfl
    dsimp only
    rw [if_pos hkept]
    rfl
  · rfl

theorem pumps_once (cfg : Config) (E : Btp β) (v : Peripheral.Services) :
    (backend cfg E v).PumpsOnce := by
  constructor
  · intro w _
    have honce := Peripheral.Ideal.incoming_twice E w.ideal
    rw [incoming_ideal cfg E w v, incoming_ideal cfg E _ v] at honce
    exact honce
  · intro w h
    simp only [backend, Bool.and_eq_true, Option.isNone_iff_eq_none] at h ⊢
    have hnack : (step cfg E w (.outgoing .succeeding)).1.state.outNack = true := by
      rw [step, if_pos h.1]
      exact nack_of_again E h.2
    rw [not_again_of_nack E hnack, Bool.and_false]

end EspIdfMatter.Bluedroid
