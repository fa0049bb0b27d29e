import EspIdfMatter.Nimble.Isolation
import EspIdfMatter.Peripheral

/-! The NimBLE peripheral as a backend, and that it does what the ideal peripheral does which takes over
the MTU that the host reports with a connection. -/

namespace EspIdfMatter.Nimble

open Library Library.Machine

variable {β : Type}

/-- The hook event that an event of a trace is for this host. -/
def event (v : Peripheral.Services) (l : Peripheral.Link) : Peripheral.Event → Event
  | .connect conn peer attMtu =>
      .gap (.connect conn (.ok ()) (.ok ⟨peer⟩) (attMtu.elim (.error ⟨-1⟩) .ok))
  | .disconnect => .gap (.disconnect l.conn 0)
  | .mtu value => .gap (.mtu l.conn value)
  | .indications _ on => .gatts (.subscriptionChanged l.conn v.c2 on)
  | .write _ data => .gatts (.write l.conn v.c1 (.ofBytes data))
  | .confirm => .gatts (.notifyComplete l.conn v.c2 true bleHsEdone)

def Call.seen : Call → Option Peripheral.Obs
  | .btp call => Peripheral.seen call
  | .indicate conn attr data _ => some (.indicate conn attr data)
  | _ => none

def backend (E : Btp β) (v : Peripheral.Services) : Peripheral.Backend (World β) where
  handle := fun l e w => (step E w (.event (event v l e))).1
  incoming := fun w =>
    let next := step E w .incoming
    ((next.1, next.2.filterMap Call.seen),
      w.ended.isNone && (processIncoming E w).processed.again)
  outgoing := fun w =>
    let next := step E w (.outgoing .succeeding)
    ((next.1, next.2.filterMap Call.seen),
      w.ended.isNone && (iterateOutgoing E .succeeding w).processed.again)

/-- What the ideal peripheral keeps of the tracked connection. -/
def World.toConn (w : World β) (conn : Connection) : Peripheral.Conn where
  conn := conn.connHandle
  peer := conn.peer
  subscribed := conn.subscribed
  mtu := conn.mtu
  synced := decide (w.state.btpGen = some w.state.connGen)
  pending := w.state.inData.toList
  inFlight := w.outNack

def World.ideal (w : World β) : Peripheral.Ideal β where
  btp := w.btp
  ended := w.ended
  conn := w.state.connection.map w.toConn

theorem ideal_setEnded {w : World β} {conn : Connection} {c : Peripheral.Conn}
    (hconn : w.state.connection = some conn) (hc : w.toConn conn = c) (ended : Option ErrorCode) :
    (w.setEnded ended).ideal = ⟨w.btp, ended, some c⟩ := by
  unfold World.ideal
  rw [World.state_setEnded, hconn, ← hc]
  rfl

/-! ### Pumps -/

section Pumps

variable (E : Btp β) (w : World β)

theorem syncBtp_seen (conn : Connection) :
    (w.toConn conn).sync E w.btp = ((w.syncBtp E).1.btp, (w.syncBtp E).2.filterMap Call.seen) := by
  unfold Peripheral.Conn.sync World.syncBtp World.toConn
  by_cases h : w.state.btpGen = some w.state.connGen
  · rw [State.syncBtp_of_synced E w.btp h]
    simp [h]
  · rw [State.syncBtp_of_stale E w.btp h]
    simp [h, Call.seen, Peripheral.seen]

theorem toConn_syncBtp (conn : Connection) :
    (w.syncBtp E).1.toConn conn = { w.toConn conn with synced := true } := by
  unfold World.toConn
  rw [World.syncBtp_state]
  simp

/-- **An iteration of the incoming pump is one of the ideal peripheral's.** -/
theorem incoming_ideal (v : Peripheral.Services) :
    w.ideal.incoming E =
      ((((backend E v).incoming w).1.1.ideal, ((backend E v).incoming w).1.2),
        ((backend E v).incoming w).2) := by
  cases hrunning : w.ended with
  | some e =>
      rw [Peripheral.Ideal.incoming_of_ended E (by simp [World.ideal, hrunning])]
      simp [backend, step, hrunning]
  | none =>
      have hpump : (backend E v).incoming w =
          (((processIncoming E w).finish.1, (processIncoming E w).calls.filterMap Call.seen),
            (processIncoming E w).processed.again) := by
        simp [backend, step, hrunning, Iteration.finish]
      rw [hpump]
      unfold Peripheral.Ideal.incoming
      cases hconn : w.state.connection with
      | none =>
          simp [processIncoming, World.ideal, hrunning, hconn, Iteration.finish, Processed.again]
      | some conn =>
          have hstate := World.syncBtp_state E w
          have htracked : (w.syncBtp E).1.state.connection = some conn := by rw [hstate, hconn]
          have hdata : (w.syncBtp E).1.state.inData = w.state.inData := by rw [hstate]
          simp only [World.ideal, hrunning, hconn, Option.map_some]
          rw [syncBtp_seen]
          unfold processIncoming
          simp only [hconn, hdata]
          by_cases hempty : w.state.inData.toList = []
          · rw [if_pos (show (w.toConn conn).pending = [] from hempty),
              if_pos ((BoundedVec.isEmpty_iff _).mpr hempty)]
            refine Prod.ext (Prod.ext ?_ rfl) rfl
            exact (ideal_setEnded htracked (toConn_syncBtp E w conn) none).symm
          · rw [if_neg (show ¬ (w.toConn conn).pending = [] from hempty),
              if_neg (mt (BoundedVec.isEmpty_iff _).mp hempty)]
            have hcall : E.processIncoming (w.syncBtp E).1.btp (w.toConn conn).mtu
                (w.toConn conn).peer (w.toConn conn).pending =
                E.processIncoming (w.syncBtp E).1.btp conn.mtu conn.peer
                  w.state.inData.toList := rfl
            rw [hcall]
            rcases E.processIncoming (w.syncBtp E).1.btp conn.mtu conn.peer w.state.inData.toList
              with ⟨btp, e | u⟩
            · refine Prod.ext (Prod.ext ?_ ?_) rfl
              · exact (ideal_setEnded (w := (w.syncBtp E).1.setBtp btp) htracked
                  (toConn_syncBtp E w conn) (some e)).symm
              · rw [List.filterMap_append]
                rfl
            · refine Prod.ext (Prod.ext ?_ ?_) rfl
              · have hcleared := congrArg (fun c : Peripheral.Conn => { c with pending := [] })
                  (toConn_syncBtp E w conn)
                exact (ideal_setEnded (w := ((w.syncBtp E).1.setState
                  { (w.syncBtp E).1.state with inData := .empty }).setBtp btp) htracked hcleared
                  none).symm
              · rw [List.filterMap_append]
                rfl

/-- Advertising is not the ideal peripheral's business. -/
theorem readvertise_ideal (d : Driver) :
    (readvertise d w).1.ideal = w.ideal ∧ (readvertise d w).2.filterMap Call.seen = [] := by
  unfold readvertise
  split
  · refine ⟨rfl, ?_⟩
    unfold advertise
    repeat' split
    all_goals rfl
  · exact ⟨rfl, rfl⟩

/-- **An iteration of the outgoing pump is one of the ideal peripheral's.** -/
theorem processOutgoing_ideal (v : Peripheral.Services) (hrunning : w.ended = none)
    (hc2 : w.c2ValHandle = v.c2) :
    w.ideal.outgoing E v.c2 =
      (((processOutgoing E .succeeding w).finish.1.ideal,
        (processOutgoing E .succeeding w).calls.filterMap Call.seen),
        (processOutgoing E .succeeding w).processed.again) := by
  unfold Peripheral.Ideal.outgoing
  cases hconn : w.state.connection with
  | none =>
      simp [processOutgoing, World.ideal, hrunning, hconn, Iteration.finish, Processed.again]
  | some conn =>
      have hstate := World.syncBtp_state E w
      have htracked : (w.syncBtp E).1.state.connection = some conn := by rw [hstate, hconn]
      have hideal : w.ideal = ⟨w.btp, none, some (w.toConn conn)⟩ := by
        rw [← hrunning]
        exact ideal_setEnded hconn rfl w.ended
      rw [hideal]
      dsimp only
      rw [syncBtp_seen]
      unfold processOutgoing
      simp only [hconn]
      by_cases hsub : conn.subscribed = false
      · rw [if_pos (show (w.toConn conn).subscribed = false from hsub), if_pos hsub]
        refine Prod.ext (Prod.ext ?_ rfl) rfl
        exact (ideal_setEnded hconn rfl none).symm
      rw [if_neg (show ¬ (w.toConn conn).subscribed = false from hsub), if_neg hsub]
      by_cases hnack : w.outNack = true
      · rw [if_pos (show (w.toConn conn).inFlight = true from hnack),
          if_pos (show (w.syncBtp E).1.outNack = true from hnack)]
        refine Prod.ext (Prod.ext ?_ rfl) rfl
        exact (ideal_setEnded htracked (toConn_syncBtp E w conn) none).symm
      rw [if_neg (show ¬ (w.toConn conn).inFlight = true from hnack),
        if_neg (show ¬ (w.syncBtp E).1.outNack = true from hnack),
        if_neg (show ¬ (w.syncBtp E).1.c2ValHandle = 0 from hc2.symm ▸ v.c2_ne_zero)]
      have hcall : E.processOutgoing (w.syncBtp E).1.btp (w.toConn conn).mtu =
          E.processOutgoing (w.syncBtp E).1.btp conn.mtu := rfl
      rw [hcall]
      rcases E.processOutgoing (w.syncBtp E).1.btp conn.mtu with ⟨btp, e | frame⟩
      · refine Prod.ext (Prod.ext ?_ ?_) rfl
        · exact (ideal_setEnded (w := ((w.syncBtp E).1.setState { (w.syncBtp E).1.state with
            outData := _ }).setBtp btp) htracked (toConn_syncBtp E w conn) (some e)).symm
        · rw [List.filterMap_append]
          exact (List.append_nil _).symm
      · dsimp only
        generalize hbuf : (w.syncBtp E).1.state.outData.resize maxMtuSize le_rfl = buf
        have htake : (buf.overwrite frame.toList).toList.take frame.length = frame.toList := by
          rw [← hbuf]
          exact take_overwrite_frame _ frame
        by_cases hframe : frame.toList = []
        · rw [if_pos hframe, if_pos (BoundedVec.length_eq_zero_iff.mpr hframe)]
          refine Prod.ext (Prod.ext ?_ ?_) rfl
          · exact (ideal_setEnded (w := ((w.syncBtp E).1.setState { (w.syncBtp E).1.state with
              outData := _ }).setBtp btp) htracked (toConn_syncBtp E w conn) none).symm
          · rw [List.filterMap_append]
            simp [Call.seen, Peripheral.seen, hframe]
        · rw [if_neg hframe, if_neg (mt BoundedVec.length_eq_zero_iff.mp hframe)]
          refine Prod.ext (Prod.ext ?_ ?_) rfl
          · have hsent := congrArg (fun c : Peripheral.Conn => { c with inFlight := true })
              (toConn_syncBtp E w conn)
            exact (ideal_setEnded (w := (((w.syncBtp E).1.setState { (w.syncBtp E).1.state with
              outData := _ }).setBtp btp).setNack true) htracked hsent none).symm
          · simp only [submit, Driver.succeeding, List.foldl_nil, World.state_setBtp,
              World.state_setState, htake, List.filterMap_append]
            rw [List.append_assoc]
            simpa [Call.seen, Peripheral.seen, hframe, hc2] using ⟨rfl, rfl⟩

theorem outgoing_ideal (v : Peripheral.Services) (hc2 : w.c2ValHandle = v.c2) :
    w.ideal.outgoing E v.c2 =
      ((((backend E v).outgoing w).1.1.ideal, ((backend E v).outgoing w).1.2),
        ((backend E v).outgoing w).2) := by
  cases hrunning : w.ended with
  | some e =>
      rw [Peripheral.Ideal.outgoing_of_ended E v.c2 (by simp [World.ideal, hrunning])]
      simp [backend, step, hrunning]
  | none =>
      obtain ⟨hideal, hcalls⟩ := readvertise_ideal w .succeeding
      have hsame : (readvertise .succeeding w).1.ended = w.ended ∧
          (readvertise .succeeding w).1.c2ValHandle = w.c2ValHandle := by
        unfold readvertise
        split <;> exact ⟨rfl, rfl⟩
      rw [← hideal, processOutgoing_ideal E _ v (hsame.1.trans hrunning) (hsame.2.trans hc2)]
      simp [backend, step, hrunning, iterateOutgoing, Iteration.finish, hcalls]

/-- What the pumps leave alone, and that the session is at most brought up to date. -/
structure World.Pumped (w w' : World β) : Prop where
  connection : w'.state.connection = w.state.connection
  connGen : w'.state.connGen = w.state.connGen
  btpGen : w'.state.btpGen = w.state.btpGen ∨ w'.state.btpGen = some w.state.connGen
  c2ValHandle : w'.c2ValHandle = w.c2ValHandle

theorem pumped_processIncoming : w.Pumped (processIncoming E w).world := by
  have hstate := World.syncBtp_state E w
  unfold processIncoming
  dsimp only
  repeat' split
  · exact ⟨rfl, rfl, .inl rfl, rfl⟩
  all_goals exact ⟨by simp [hstate], by simp [hstate], .inr (by simp [hstate]), rfl⟩

theorem pumped_processOutgoing : w.Pumped (processOutgoing E .succeeding w).world := by
  have hstate := World.syncBtp_state E w
  unfold processOutgoing
  dsimp only
  repeat' split
  · exact ⟨rfl, rfl, .inl rfl, rfl⟩
  · exact ⟨rfl, rfl, .inl rfl, rfl⟩
  all_goals exact ⟨by simp [submit_state, hstate], by simp [submit_state, hstate],
    .inr (by simp [submit_state, hstate]), rfl⟩

theorem pumped_iterateOutgoing : w.Pumped (iterateOutgoing E .succeeding w).world := by
  have hadvertised : w.Pumped (readvertise .succeeding w).1 := by
    unfold readvertise
    split <;> exact ⟨rfl, rfl, .inl rfl, rfl⟩
  have hsent := pumped_processOutgoing E (readvertise .succeeding w).1
  have hbtpGen : (readvertise .succeeding w).1.state.btpGen = w.state.btpGen := by
    unfold readvertise
    split <;> rfl
  refine ⟨hsent.connection.trans hadvertised.connection, hsent.connGen.trans hadvertised.connGen,
    ?_, hsent.c2ValHandle.trans hadvertised.c2ValHandle⟩
  rw [← hadvertised.connGen, ← hbtpGen]
  exact hsent.btpGen

end Pumps

/-! ### Refinement -/

/-- The context has what is left of the trace, and the next connection will not be taken for the one
that the engine was reset for. -/
structure World.Tracks (v : Peripheral.Services) (l : Peripheral.Link) (w : World β) : Prop where
  ended : w.ended = none
  c2ValHandle : w.c2ValHandle = v.c2
  connection :
    w.state.connection.map (·.connHandle) = if l.up = true then some l.conn else none
  fresh : w.state.connection = none → w.state.btpGen ≠ some (w.state.connGen + 1)

inductive Refines (v : Peripheral.Services) (l : Peripheral.Link) (w : World β) :
    Peripheral.Ideal β → Prop where
  | ended {i : Peripheral.Ideal β} (hw : w.ended ≠ none) (hi : i.ended ≠ none) : Refines v l w i
  | running (h : w.Tracks v l) : Refines v l w w.ideal

section Refines

variable {v : Peripheral.Services} {l : Peripheral.Link} {w : World β}

theorem World.Tracks.cases (h : w.Tracks v l) : l.up = false ∧ w.state.connection = none ∨
    ∃ conn, l.up = true ∧ w.state.connection = some conn ∧ conn.connHandle = l.conn := by
  have hconn := h.connection
  cases hup : l.up with
  | false =>
      rw [hup] at hconn
      exact .inl ⟨rfl, Option.map_eq_none_iff.mp hconn⟩
  | true =>
      rw [hup] at hconn
      obtain ⟨conn, htracked, hhandle⟩ := Option.map_eq_some_iff.mp hconn
      exact .inr ⟨conn, rfl, htracked, hhandle⟩

/-- A pump that leaves the connection alone keeps the refinement, whether or not it fails. -/
theorem World.Tracks.pumped (h : w.Tracks v l) {w' : World β} (hw : w.Pumped w') :
    Refines v l w' w'.ideal := by
  cases hended : w'.ended with
  | some e => exact .ended (by simp [hended]) (by simp [World.ideal, hended])
  | none =>
      refine .running ⟨hended, hw.c2ValHandle.trans h.c2ValHandle,
        by rw [hw.connection, h.connection], fun hnone => ?_⟩
      rw [hw.connGen]
      rcases hw.btpGen with hgen | hgen
      · rw [hgen]
        exact h.fresh (hw.connection.symm.trans hnone)
      · rw [hgen]
        exact fun heq => counter_next_ne w.state.connGen (Option.some.inj heq).symm

theorem alike_incoming (E : Btp β) (v : Peripheral.Services) (l : Peripheral.Link) :
    Peripheral.Alike l.exchanged (Refines v l) (backend E v).incoming (Peripheral.Ideal.incoming E) := by
  intro w i h
  cases h with
  | ended hw hi =>
      rw [Peripheral.Ideal.incoming_of_ended E hi]
      simpa [backend, step, hw] using .ended hw hi
  | running h =>
      rw [incoming_ideal E w v]
      refine ⟨rfl, rfl, h.pumped ?_⟩
      obtain ⟨hconnection, hconnGen, hbtpGen, hc2⟩ := pumped_processIncoming E w
      simp only [backend, step, h.ended]
      exact ⟨hconnection, hconnGen, hbtpGen, hc2⟩

theorem alike_outgoing (E : Btp β) (v : Peripheral.Services) (l : Peripheral.Link) :
    Peripheral.Alike l.exchanged (Refines v l) (backend E v).outgoing
      (Peripheral.Ideal.outgoing E v.c2) := by
  intro w i h
  cases h with
  | ended hw hi =>
      rw [Peripheral.Ideal.outgoing_of_ended E v.c2 hi]
      simpa [backend, step, hw] using .ended hw hi
  | running h =>
      rw [outgoing_ideal E w v h.c2ValHandle]
      refine ⟨rfl, rfl, h.pumped ?_⟩
      obtain ⟨hconnection, hconnGen, hbtpGen, hc2⟩ := pumped_iterateOutgoing E w
      simp only [backend, step, h.ended]
      exact ⟨hconnection, hconnGen, hbtpGen, hc2⟩

/-! ### Events -/

theorem exec_ended (h : Hook) (w : World β) : (h.exec w).1.ended = w.ended := by
  induction h generalizing w with
  | ret code => rfl
  | lock update next ih => exact ih _ _
  | storeNack value next ih => exact ih _
  | storeC2 handle next ih => exact ih _
  | loadC2 next ih => exact ih _ _
  | signalIncoming next ih => exact ih _
  | signalOutgoing next ih => exact ih _

/-- The ideal peripheral has no signals. -/
theorem Refines.wakeIncoming {i : Peripheral.Ideal β} (h : Refines v l w i) :
    Refines v l w.wakeIncoming i := by
  cases h with
  | ended hw hi => exact .ended hw hi
  | running h => exact .running ⟨h.ended, h.c2ValHandle, h.connection, h.fresh⟩

theorem Refines.wakeOutgoing {i : Peripheral.Ideal β} (h : Refines v l w i) :
    Refines v l w.wakeOutgoing i := by
  cases h with
  | ended hw hi => exact .ended hw hi
  | running h => exact .running ⟨h.ended, h.c2ValHandle, h.connection, h.fresh⟩

theorem World.Tracks.modifyConn (h : w.Tracks v l) {f : Connection → Connection}
    {g : Peripheral.Conn → Peripheral.Conn} (hhandle : ∀ conn, (f conn).connHandle = conn.connHandle)
    (hf : ∀ conn, w.toConn (f conn) = g (w.toConn conn)) :
    Refines v l (w.setState (w.state.modifyConn l.conn f)) (w.ideal.modify g) := by
  rcases h.cases with ⟨-, hnone⟩ | ⟨conn, hup, htracked, hconn⟩
  · have hsame : w.state.modifyConn l.conn f = w.state := by
      simp only [State.modifyConn, hnone]
    have hideal : w.ideal.modify g = w.ideal := by
      simp only [World.ideal, Peripheral.Ideal.modify, hnone, Option.map_none]
    rw [hsame, hideal]
    exact .running h
  · have hchanged : w.state.modifyConn l.conn f = { w.state with connection := some (f conn) } := by
      simp only [State.modifyConn, htracked, if_pos hconn]
    have hideal : w.ideal.modify g =
        (w.setState { w.state with connection := some (f conn) }).ideal := by
      simp only [World.ideal, Peripheral.Ideal.modify, htracked, Option.map_some, ← hf]
      rfl
    rw [hchanged, hideal]
    refine .running ⟨h.ended, h.c2ValHandle, ?_, fun hnone => absurd hnone (Option.some_ne_none _)⟩
    rw [← h.connection, htracked]
    exact congrArg some (hhandle conn)

theorem World.Tracks.connect (h : w.Tracks v l) (hup : l.up = false) (conn : Handle)
    (peer : Vector UInt8 6) (mtu : Option UInt16) :
    Refines v (l.next (.connect conn peer mtu))
      ((w.setState (w.state.connect ⟨peer⟩ conn mtu)).setNack false)
      (w.ideal.handle true (.connect conn peer mtu)) := by
  rcases h.cases with ⟨-, hnone⟩ | ⟨_, hup', -⟩
  · have hideal : w.ideal.handle true (.connect conn peer mtu) =
        ((w.setState (w.state.connect ⟨peer⟩ conn mtu)).setNack false).ideal := by
      have hstale := h.fresh hnone
      have hsynced : ((w.setState (w.state.connect ⟨peer⟩ conn mtu)).setNack false).toConn
          ⟨⟨peer⟩, conn, false, mtu⟩ = .new conn peer mtu :=
        congrArg (fun synced => { Peripheral.Conn.new conn peer mtu with synced }) (decide_eq_false hstale)
      rw [Peripheral.Ideal.handle, if_pos rfl, ← hsynced]
      rfl
    rw [hideal]
    exact .running ⟨h.ended, h.c2ValHandle, rfl,
      fun hnone => absurd hnone (Option.some_ne_none _)⟩
  · rw [hup] at hup'
    cases hup'

theorem World.Tracks.disconnect (h : w.Tracks v l) (hsettled : w.ideal.Settled) :
    Refines v (l.next .disconnect) ((w.setState w.state.disconnect).setNack false)
      (w.ideal.handle true .disconnect) := by
  refine .running ⟨h.ended, h.c2ValHandle, rfl, fun _ => ?_⟩
  rcases h.cases with ⟨-, hnone⟩ | ⟨conn, -, htracked, -⟩
  · exact h.fresh hnone
  · have hsynced := (hsettled (w.toConn conn) h.ended (by simp [World.ideal, htracked])).1
    have hgen : w.state.btpGen = some w.state.connGen := of_decide_eq_true hsynced
    intro heq
    exact counter_next_ne w.state.connGen (Option.some.inj (hgen.symm.trans heq)).symm

theorem World.Tracks.write (h : w.Tracks v l) (hsettled : w.ideal.Settled) {data : Bytes}
    (hlen : data.length ≤ maxMtuSize) :
    Refines v l (w.setState (w.state.write (.ofBytes data)).1)
      (w.ideal.modify fun c => { c with pending := data }) := by
  rcases h.cases with ⟨-, hnone⟩ | ⟨conn, -, htracked, -⟩
  · obtain ⟨inData, hbuf⟩ := w.state.write_fst (.ofBytes data)
    have hideal : w.ideal.modify (fun c => { c with pending := data }) =
        (w.setState (w.state.write (.ofBytes data)).1).ideal := by
      rw [hbuf]
      simp only [World.ideal, Peripheral.Ideal.modify, World.state_setState, hnone]
      rfl
    rw [hideal, hbuf]
    exact .running ⟨h.ended, h.c2ValHandle, h.connection, h.fresh⟩
  · have hempty := (hsettled (w.toConn conn) h.ended (by simp [World.ideal, htracked])).2
    rw [State.write_of_copiesExactly ((BoundedVec.isEmpty_iff _).mpr hempty)
      (Mbuf.copiesExactly_ofBytes data hlen)]
    have hideal : w.ideal.modify (fun c => { c with pending := data }) =
        (w.setState { w.state with inData := ⟨data, hlen⟩ }).ideal := by
      simp only [World.ideal, Peripheral.Ideal.modify, World.state_setState, htracked]
      rfl
    rw [hideal]
    exact .running ⟨h.ended, h.c2ValHandle, h.connection, h.fresh⟩

theorem World.Tracks.confirm (h : w.Tracks v l) :
    Refines v l (w.setNack false) (w.ideal.modify fun c => { c with inFlight := false }) := by
  have hideal : w.ideal.modify (fun c => { c with inFlight := false }) = (w.setNack false).ideal := by
    rcases h.cases with ⟨-, hnone⟩ | ⟨conn, -, htracked, -⟩
    · simp only [World.ideal, Peripheral.Ideal.modify, World.state_setNack, hnone]
      rfl
    · simp only [World.ideal, Peripheral.Ideal.modify, World.state_setNack, htracked]
      rfl
  rw [hideal]
  exact .running ⟨h.ended, h.c2ValHandle, h.connection, h.fresh⟩

/-- **An event does what it does to the ideal peripheral.** -/
theorem refines_handle (E : Btp β) (v : Peripheral.Services) (l : Peripheral.Link)
    (e : Peripheral.Event) (w : World β) (i : Peripheral.Ideal β) (h : Refines v l w i)
    (hsettled : i.Settled) (hG : Peripheral.WellFormed l e) :
    Refines v (l.next e) ((backend E v).handle (l.next e) e w) (i.handle true e) := by
  cases h with
  | ended hw hi =>
      refine .ended ?_ (by rwa [Peripheral.Ideal.ended_handle])
      rwa [show ((backend E v).handle (l.next e) e w).ended = w.ended from exec_ended _ _]
  | running h =>
      have hc2 : v.c2 = w.c2ValHandle := h.c2ValHandle.symm
      cases e with
      | connect conn peer attMtu =>
          have hconnect := (h.connect hG conn peer attMtu).wakeIncoming
          cases attMtu with
          | none => exact hconnect
          | some attMtu => exact hconnect
      | disconnect => exact (h.disconnect hsettled).wakeIncoming.wakeOutgoing
      | mtu value =>
          have h : w.Tracks v (l.next (.mtu value)) := ⟨h.ended, h.c2ValHandle, h.connection, h.fresh⟩
          exact h.modifyConn (f := fun conn => { conn with mtu := some value })
            (g := fun c => { c with mtu := some value }) (fun _ => rfl) fun _ => rfl
      | indications transId on =>
          simp only [backend, step, event, hook, gattsHook, Hook.exec, if_pos hc2]
          exact (h.modifyConn (f := fun conn => { conn with subscribed := on })
            (g := fun c => { c with subscribed := on }) (fun _ => rfl) fun _ => rfl).wakeOutgoing
      | write transId data =>
          have hwrite := h.write hsettled hG.2
          simp only [backend, step, event, exec_write]
          split
          · exact hwrite
          · exact hwrite.wakeIncoming
      | confirm => exact h.confirm.wakeOutgoing

end Refines

/-! ### The registered service -/

/-- The events of the registration of the service. -/
def registration (v : Peripheral.Services) : List (Step β) :=
  [.characteristic .c1 v.c1, .characteristic .c2 v.c2].map fun reg => .event (.gatts (.register reg))

/-- A peripheral just created, once its service is registered. -/
def World.registered (E : Btp β) (v : Peripheral.Services) (c : Context) (c2ValHandle : Handle)
    (btp : β) : World β :=
  after (step E) (.fresh c c2ValHandle btp) (registration v)

/-- **The NimBLE peripheral does what the ideal peripheral does** that knows the first MTU. -/
theorem observed_eq_ideal (E : Btp β) (v : Peripheral.Services) (c : Context) (c2ValHandle : Handle)
    (btp : β) {events : List Peripheral.Event}
    (htrace : Peripheral.Trace Peripheral.WellFormed .down events) :
    (backend E v).observed (.registered E v c c2ValHandle btp) events =
      (Peripheral.ideal E v.c2 true).observed ⟨btp, none, none⟩ events :=
  Peripheral.Backend.observed_eq (refines_handle E v) (alike_incoming E v) (alike_outgoing E v)
    (.running ⟨rfl, rfl, rfl, fun _ h => by cases h⟩) (fun _ _ h => by cases h) htrace

theorem nack_of_again (E : Btp β) {w : World β}
    (h : (processOutgoing E .succeeding w).processed.again = true) :
    (processOutgoing E .succeeding w).world.outNack = true := by
  unfold processOutgoing at h ⊢
  split at h
  · cases h
  split at h
  · cases h
  dsimp only at h ⊢
  split at h
  · cases h
  split at h
  · cases h
  split at h
  · cases h
  split at h
  · cases h
  · rename_i hsub hnack hhandle _ _ _ _ hframe
    simp only [if_neg hsub, if_neg hnack, if_neg hhandle, if_neg hframe]
    rfl

theorem not_again_of_nack (E : Btp β) {w : World β} (h : w.outNack = true) :
    (processOutgoing E .succeeding w).processed.again = false := by
  unfold processOutgoing
  split
  · rfl
  split
  · rfl
  dsimp only
  rw [if_pos (show (w.syncBtp E).1.outNack = true from h)]
  rfl

theorem pumps_once (E : Btp β) (v : Peripheral.Services) : (backend E v).PumpsOnce := by
  constructor
  · intro w _
    have honce := Peripheral.Ideal.incoming_twice E w.ideal
    rw [incoming_ideal E w v, incoming_ideal E _ v] at honce
    exact honce
  · intro w h
    simp only [backend, Bool.and_eq_true, Option.isNone_iff_eq_none] at h ⊢
    have hnack : ((readvertise .succeeding (step E w (.outgoing .succeeding)).1).1).outNack = true := by
      have hkept : ∀ w : World β, (readvertise .succeeding w).1.outNack = w.outNack := by
        intro w
        unfold readvertise
        split <;> rfl
      rw [hkept, step, if_pos h.1]
      exact nack_of_again E h.2
    rw [iterateOutgoing, not_again_of_nack E hnack, Bool.and_false]

end EspIdfMatter.Nimble
