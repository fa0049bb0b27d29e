import EspIdfMatter.Bluedroid.Frame

/-! What happens to the `C1` buffer, that is to the payload which waits for the incoming pump and to its
transaction id. A write fills it and a new connection empties it; the pump empties it when the engine
took the payload and the peer was answered. -/

namespace EspIdfMatter.Bluedroid

open Library

variable {β : Type}

/-- The write reaches the buffer. -/
def StoresC1 (w : World β) (ev : Write) : Prop :=
  w.state.connection.map (·.connId) = some ev.connId ∧ w.state.c2CccdHandle ≠ some ev.handle ∧
    w.state.c1Handle = some ev.handle ∧ ev.offset = 0

/-- The buffer, and the connection it belongs to. -/
structure State.SameBuffer (s s' : State) : Prop where
  inData : s'.inData = s.inData
  inTrans : s'.inTrans = s.inTrans
  connId : s'.connection.map (·.connId) = s.connection.map (·.connId)

theorem State.SameBuffer.refl (s : State) : s.SameBuffer s := ⟨rfl, rfl, rfl⟩

theorem State.SameBuffer.trans {s s' s'' : State} (h : s.SameBuffer s') (h' : s'.SameBuffer s'') :
    s.SameBuffer s'' :=
  ⟨h'.inData.trans h.inData, h'.inTrans.trans h.inTrans, h'.connId.trans h.connId⟩

theorem State.SameSession.sameBuffer {s s' : State} (h : s.SameSession s') : s.SameBuffer s' :=
  ⟨h.inData, h.inTrans, by rw [h.connection]⟩

/-! ### Handlers -/

theorem writeLocked_of_stores {w : World β} {ev : Write} (h : StoresC1 w ev) :
    writeLocked ev w = ((w.setState (w.state.storeC1 ev.transId ev.value)).wakeIncoming, false) := by
  obtain ⟨hconn, hcccd, hc1, hoffset⟩ := h
  obtain ⟨conn, hconn, hpeer⟩ := Option.map_eq_some_iff.mp hconn
  unfold writeLocked
  simp only [hconn]
  rw [if_neg (by rw [hpeer]; exact fun h => h rfl), if_neg hcccd, if_pos ⟨hc1, hoffset⟩]

theorem writeLocked_of_not_stores {w : World β} {ev : Write} (h : ¬ StoresC1 w ev) :
    w.state.SameBuffer (writeLocked ev w).1.state := by
  unfold writeLocked
  cases hconn : w.state.connection with
  | none => exact .refl _
  | some conn =>
      dsimp only
      split
      · exact .refl _
      rename_i hpeer
      split
      · split
        · exact .refl _
        · split
          · split
            · exact ⟨rfl, rfl, by rw [hconn]; rfl⟩
            · exact .refl _
          · split
            · exact ⟨rfl, rfl, by rw [hconn]; rfl⟩
            · exact .refl _
      rename_i hcccd
      split
      · rename_i hc1
        refine absurd ⟨?_, hcccd, hc1.1, hc1.2⟩ h
        rw [hconn, Option.map_some, not_ne_iff.mp hpeer]
      · exact .refl _

/-- A write that is not to the CCCD is not responded to at once. -/
theorem write_calls_of_not_cccd (drv : Driver) (gattIf : GattInterface) {ev : Write} {w : World β}
    (hcccd : w.state.c2CccdHandle ≠ some ev.handle) : (write drv gattIf ev w).calls = [] := by
  have hlater : (writeLocked ev w).2 = false := by
    unfold writeLocked
    split
    · rfl
    · split_ifs <;> rfl
  rw [write, hlater]
  rfl

/-- What is stored is the whole of the payload, or nothing. -/
theorem storeC1_inData (s : State) (transId : TransferId) (value : Bytes) :
    (s.storeC1 transId value).inData.toList =
      if value.length ≤ maxMtuSize then value else [] := by
  unfold State.storeC1
  split_ifs with hlen
  · rw [BoundedVec.extendFromSlice_empty hlen]
    rfl
  · rw [BoundedVec.extendFromSlice_empty_of_lt (Nat.lt_of_not_le hlen)]
    rfl

theorem registerConnMtu_sameBuffer (connId : Handle) (mtu : UInt16) (s : State) :
    s.SameBuffer (s.registerConnMtu connId mtu) := by
  unfold State.registerConnMtu
  split
  · rename_i conn hconn
    split
    · exact ⟨rfl, rfl, by rw [hconn]; rfl⟩
    · exact .refl s
  · exact .refl s

/-- The events that concern the buffer or the connection it belongs to. -/
def GattsEvent.Touches (w : World β) : GattsEvent → Prop
  | .write ev => StoresC1 w ev
  | .peerConnected _ _ => w.state.connection = none
  | .peerDisconnected _ addr => (w.state.connection.map fun conn => conn.peer) = some addr
  | _ => False

/-- What an event comes to for the buffer. -/
inductive Buffered (w : World β) (event : GattsEvent) (s : State) : Prop where
  | same (hquiet : ¬ event.Touches w) (hsame : w.state.SameBuffer s)
  | stored (ev : Write) (hevent : event = .write ev) (hstores : StoresC1 w ev)
      (hsame : (w.state.storeC1 ev.transId ev.value).SameBuffer s)
  | connected (connId : Handle) (addr : BdAddr) (hevent : event = .peerConnected connId addr)
      (hconn : w.state.connection = none) (hstate : s = w.state.createConn connId addr)
  | disconnected (connId : Handle) (addr : BdAddr) (hevent : event = .peerDisconnected connId addr)
      (hpeer : (w.state.connection.map fun conn => conn.peer) = some addr)
      (hstate : s = w.state.deleteConn)

theorem buffered_onGattsEvent (cfg : Config) (drv : Driver) (gattIf : GattInterface)
    (event : GattsEvent) (w : World β) :
    Buffered w event (onGattsEvent cfg drv gattIf event w).world.state := by
  have hregisters : event.Registers → ¬ event.Touches w →
      Buffered w event (onGattsEvent cfg drv gattIf event w).world.state :=
    fun h hquiet => .same hquiet (registers_sameSession cfg drv gattIf h w).sameBuffer
  cases event with
  | mtu connId mtu => exact .same id (registerConnMtu_sameBuffer connId mtu w.state)
  | peerConnected connId addr =>
      have hstate := peerConnected_state cfg drv gattIf w connId addr
      split_ifs at hstate with hconn
      · exact .connected connId addr rfl hconn hstate
      · exact .same hconn (hstate ▸ .refl _)
  | peerDisconnected connId addr =>
      have hstate := peerDisconnected_state cfg drv gattIf w connId addr
      split_ifs at hstate with hpeer
      · exact .disconnected connId addr rfl hpeer hstate
      · exact .same hpeer (hstate ▸ .refl _)
  | write ev =>
      have hsame := (write_sameSession cfg drv gattIf w ev).sameBuffer
      by_cases hstores : StoresC1 w ev
      · rw [writeLocked_of_stores hstores] at hsame
        exact .stored ev rfl hstores hsame
      · exact .same hstores ((writeLocked_of_not_stores hstores).trans hsame)
  | confirm status connId =>
      refine .same id ?_
      rw [confirm_state]
      cases status <;> exact ⟨rfl, rfl, rfl⟩
  | _ => exact hregisters trivial id

/-! ### Pumps -/

/-- Every selection that ignores the reset of the engine ignores the synchronisation. -/
theorem filterMap_syncBtp {ο : Type} {f : Call → Option ο} (hreset : f (.btp .reset) = none)
    (E : Btp β) (w : World β) : (w.syncBtp E).2.filterMap f = [] := by
  unfold World.syncBtp State.syncBtp
  split
  · exact List.filterMap_cons_none hreset
  · rfl

/-- What an iteration of the incoming pump comes to. -/
inductive Incoming (E : Btp β) (w : World β) (it : Iteration β) : Prop where
  | idle (hidle : w.state.connection = none ∨ w.state.inData.toList = []) (btpGen : Option Usize)
      (hstate : it.world.state = { w.state with btpGen })
      (hcalls : it.calls = [] ∨ it.calls = (w.syncBtp E).2) (hprocessed : it.processed = .ok false)
  | refused (conn : Connection) (e : ErrorCode) (hconn : w.state.connection = some conn)
      (hdata : w.state.inData.toList ≠ [])
      (hstate : it.world.state = { w.state with btpGen := some w.state.connGen })
      (hcalls : it.calls = (w.syncBtp E).2 ++ [.btp (.processIncoming conn.mtu ⟨conn.peer.addr⟩
        w.state.inData.toList (.error e))])
      (hprocessed : it.processed = .error e)
  | unanswered (conn : Connection) (e : EspError) (hconn : w.state.connection = some conn)
      (hdata : w.state.inData.toList ≠ [])
      (hstate : it.world.state = { w.state with btpGen := some w.state.connGen })
      (hcalls : it.calls = (w.syncBtp E).2 ++ [.btp (.processIncoming conn.mtu ⟨conn.peer.addr⟩
        w.state.inData.toList (.ok ())),
        .driver (.sendResponse (w.state.gattIf.getD 0) conn.connId w.state.inTrans .ok none)
          (.error e)])
      (hprocessed : it.processed = .error .btpError)
  | answered (conn : Connection) (hconn : w.state.connection = some conn)
      (hdata : w.state.inData.toList ≠ [])
      (hstate : it.world.state =
        { w.state with btpGen := some w.state.connGen, inData := .empty })
      (hcalls : it.calls = (w.syncBtp E).2 ++ [.btp (.processIncoming conn.mtu ⟨conn.peer.addr⟩
        w.state.inData.toList (.ok ())),
        .driver (.sendResponse (w.state.gattIf.getD 0) conn.connId w.state.inTrans .ok none)
          (.ok ())])
      (hprocessed : it.processed = .ok true)

theorem incoming_cases (E : Btp β) (drv : Driver) (w : World β) :
    Incoming E w (processIncoming E drv w) := by
  have hstate := World.syncBtp_state E w
  unfold processIncoming
  split
  · rename_i hconn
    exact .idle (.inl hconn) _ rfl (.inl rfl) rfl
  rename_i conn hconn
  dsimp only
  split
  · rename_i hempty
    rw [hstate, BoundedVec.isEmpty_iff] at hempty
    exact .idle (.inr hempty) _ hstate (.inr rfl) rfl
  rename_i hfull
  rw [hstate, BoundedVec.isEmpty_iff] at hfull
  split
  · exact .refused conn _ hconn hfull hstate (by rw [hstate]) rfl
  · split
    · rename_i e _
      exact .unanswered conn e hconn hfull hstate (by rw [hstate, List.append_assoc]; rfl) rfl
    · exact .answered conn hconn hfull (by rw [World.state_setBtp, World.state_setState, hstate])
        (by rw [hstate, List.append_assoc]; rfl) rfl

/-- The calls of the outgoing pump. -/
def Call.Outgoing : Call → Prop
  | .btp .reset | .btp (.processOutgoing _ _) | .driver (.indicate _ _ _ _) _ => True
  | _ => False

/-- The outgoing pump does not concern the buffer. -/
structure Outgoing (w : World β) (it : Iteration β) : Prop where
  state : ∃ btpGen outData outNack, it.world.state = { w.state with btpGen, outData, outNack }
  calls : ∀ call ∈ it.calls, call.Outgoing

theorem Outgoing.sameBuffer {w : World β} {it : Iteration β} (h : Outgoing w it) :
    w.state.SameBuffer it.world.state := by
  obtain ⟨btpGen, outData, outNack, hstate⟩ := h.state
  rw [hstate]
  exact ⟨rfl, rfl, rfl⟩

theorem Outgoing.filterMap {w : World β} {it : Iteration β} (h : Outgoing w it) {ο : Type}
    {f : Call → Option ο} (hf : ∀ call, call.Outgoing → f call = none) :
    it.calls.filterMap f = [] :=
  List.filterMap_eq_nil_iff.mpr fun call hmem => hf call (h.calls call hmem)

theorem syncBtp_outgoing (E : Btp β) (w : World β) : ∀ call ∈ (w.syncBtp E).2, call.Outgoing := by
  unfold World.syncBtp State.syncBtp
  split
  · intro call hmem
    rw [List.mem_singleton.mp hmem]
    trivial
  · exact fun call hmem => absurd hmem List.not_mem_nil

theorem outgoing_processOutgoing (E : Btp β) (drv : Driver) (w : World β) :
    Outgoing w (processOutgoing E drv w) := by
  have hstate := World.syncBtp_state E w
  have hsync := syncBtp_outgoing E w
  have hcalls : ∀ calls : List Call, (∀ call ∈ calls, call.Outgoing) →
      ∀ call ∈ (w.syncBtp E).2 ++ calls, call.Outgoing := by
    intro calls h call hmem
    rcases List.mem_append.mp hmem with hmem | hmem
    · exact hsync call hmem
    · exact h call hmem
  unfold processOutgoing
  split
  · split
    · exact ⟨⟨_, _, _, rfl⟩, by simp⟩
    dsimp only
    split
    · exact ⟨⟨_, _, _, hstate⟩, hsync⟩
    split
    · exact ⟨⟨_, _, _, by rw [World.state_setBtp, World.state_setState, hstate]⟩,
        hcalls _ (by simp [Call.Outgoing])⟩
    split
    · split
      · refine ⟨⟨_, _, _, by rw [World.state_setBtp, World.state_setState, hstate]⟩, ?_⟩
        rw [List.append_assoc]
        exact hcalls _ (by simp [Call.Outgoing])
      · refine ⟨⟨_, _, true, by
          rw [World.state_setState, World.state_setBtp, World.state_setState, hstate]⟩, ?_⟩
        rw [List.append_assoc]
        exact hcalls _ (by simp [Call.Outgoing])
    · exact ⟨⟨_, _, _, by rw [World.state_setBtp, World.state_setState, hstate]⟩,
        hcalls _ (by simp [Call.Outgoing])⟩
  · exact ⟨⟨_, _, _, rfl⟩, by simp⟩

end EspIdfMatter.Bluedroid
