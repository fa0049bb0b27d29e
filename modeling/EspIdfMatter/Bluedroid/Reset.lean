import EspIdfMatter.Bluedroid.FlowControl

/-! A context that earlier peripherals have used. What `reset` leaves of it, the generations, an old frame
and an old response, is never seen, as long as the generation counter does not wrap around. -/

namespace EspIdfMatter.Bluedroid

open Library Library.Generation Library.Machine

variable {β : Type}

/-! ### What is left over -/

/-- The parts of a state that a run reads only after it has written them, or that it only compares. -/
structure Residue where
  btpGen : Option Usize
  outData : Buffer
  response : GattResponse

/-- The same state with these parts, and with the generations counted from `k`. -/
def State.taint (k : Usize) (r : Residue) (s : State) : State :=
  { s with
    connGen := s.connGen + k
    btpGen := r.btpGen
    outData := r.outData
    response := r.response }

/-- `s` is `s'` except for what is left over in it, and for a tracked connection both agree whether the
engine was reset for it. -/
def State.Alike (k : Usize) (s s' : State) : Prop :=
  ∃ r : Residue, s = s'.taint k r ∧
    (s'.connection ≠ none → (r.btpGen = some (s'.connGen + k) ↔ s'.btpGen = some s'.connGen))

structure World.Alike (k : Usize) (w w' : World β) : Prop where
  state : w.state.Alike k w'.state
  btp : w.btp = w'.btp
  ended : w.ended = w'.ended

structure Handled.Alike {α : Type} (k : Usize) (h h' : Handled β α) : Prop where
  world : h.world.Alike k h'.world
  calls : h.calls = h'.calls
  result : h.result = h'.result

structure Iteration.Alike (k : Usize) (it it' : Iteration β) : Prop where
  world : it.world.Alike k it'.world
  calls : it.calls = it'.calls
  processed : it.processed = it'.processed

theorem World.fresh_alike (c : Context) (btp : β) :
    (World.fresh c btp).Alike c.state.connGen (.fresh .new btp) := by
  refine ⟨⟨⟨c.state.btpGen, c.state.outData, c.state.response⟩, ?_, fun h => absurd rfl h⟩, rfl, rfl⟩
  have hgen : (0 : Usize) + c.state.connGen = c.state.connGen := zero_add _
  simp only [World.fresh, State.taint, World.state, Context.reset, Context.new, State.reset, State.new, hgen]

section

variable {k : Usize} {w w' : World β}

theorem State.Alike.connection {s s' : State} (h : s.Alike k s') : s.connection = s'.connection := by
  obtain ⟨r, rfl, -⟩ := h
  rfl

theorem State.Alike.serviceHandle {s s' : State} (h : s.Alike k s') : s.serviceHandle = s'.serviceHandle := by
  obtain ⟨r, rfl, -⟩ := h
  rfl

theorem World.Alike.wakeIncoming (h : w.Alike k w') : w.wakeIncoming.Alike k w'.wakeIncoming :=
  ⟨h.state, h.btp, h.ended⟩

theorem World.Alike.wakeOutgoing (h : w.Alike k w') : w.wakeOutgoing.Alike k w'.wakeOutgoing :=
  ⟨h.state, h.btp, h.ended⟩

theorem World.Alike.setEnded (h : w.Alike k w') (ended : Option ErrorCode) :
    (w.setEnded ended).Alike k (w'.setEnded ended) :=
  ⟨h.state, h.btp, rfl⟩

theorem World.Alike.setBtp (h : w.Alike k w') (btp : β) : (w.setBtp btp).Alike k (w'.setBtp btp) :=
  ⟨h.state, rfl, h.ended⟩

/-! ### Handlers -/

theorem Handled.Alike.andThen {α γ : Type} {h h' : Handled β α} (hh : h.Alike k h')
    {next : α → World β → Handled β γ}
    (hnext : ∀ a w w', World.Alike k w w' → (next a w).Alike k (next a w')) :
    (h.andThen next).Alike k (h'.andThen next) := by
  unfold Handled.andThen
  rw [hh.result]
  cases h'.result with
  | error e => exact ⟨hh.world, hh.calls, rfl⟩
  | ok a =>
      have hrest := hnext a _ _ hh.world
      refine ⟨hrest.world, ?_, hrest.result⟩
      dsimp only
      rw [hh.calls, hrest.calls]

theorem alike_nothing {α : Type} (h : w.Alike k w') (result : Except EspError α) :
    (Handled.mk w [] result).Alike k (Handled.mk w' [] result) :=
  ⟨h, rfl, rfl⟩

theorem alike_perform (drv : Driver) (h : w.Alike k w') (calls : List DriverCall) :
    (perform drv w calls).Alike k (perform drv w' calls) := by
  induction calls with
  | nil => exact alike_nothing h _
  | cons call calls ih =>
      unfold perform
      cases drv call with
      | error e => exact ⟨h, rfl, rfl⟩
      | ok u =>
          refine ⟨ih.world, ?_, ih.result⟩
          dsimp only
          rw [ih.calls]

theorem alike_checkGattStatus (h : w.Alike k w') (status : GattStatus) :
    (checkGattStatus w status).Alike k (checkGattStatus w' status) := by
  cases status with
  | ok => exact alike_nothing h _
  | failed code => exact alike_nothing h _

/-- A state that is changed in the same way in both, in nothing that is left over. -/
theorem World.Alike.update (h : w.Alike k w') (f : State → State)
    (htaint : ∀ s r, f (s.taint k r) = (f s).taint k r := by intros; rfl)
    (hconnection : ∀ s, (f s).connection = s.connection := by intros; rfl)
    (hconnGen : ∀ s, (f s).connGen = s.connGen := by intros; rfl)
    (hbtpGen : ∀ s, (f s).btpGen = s.btpGen := by intros; rfl) :
    (w.setState (f w.state)).Alike k (w'.setState (f w'.state)) := by
  obtain ⟨r, hs, hfits⟩ := h.state
  refine ⟨⟨r, ?_, ?_⟩, h.btp, h.ended⟩
  · rw [World.state_setState, World.state_setState, hs, htaint]
  · rwa [World.state_setState, hconnection, hconnGen, hbtpGen]

/-- The events about the service do the same to both. -/
theorem alike_registers (cfg : Config) (drv : Driver) (gattIf : GattInterface) {event : GattsEvent}
    (hevent : event.Registers) (h : w.Alike k w') :
    (onGattsEvent cfg drv gattIf event w).Alike k (onGattsEvent cfg drv gattIf event w') := by
  cases event with
  | serviceRegistered status appId =>
      simp only [onGattsEvent]
      refine Handled.Alike.andThen (alike_checkGattStatus h status) fun _ w w' h => ?_
      split
      · exact alike_perform drv (h.update (fun s => { s with gattIf := some gattIf })) _
      · exact alike_nothing h _
  | serviceCreated status serviceHandle =>
      refine Handled.Alike.andThen (alike_checkGattStatus h status) fun _ w w' h => ?_
      exact alike_perform drv (h.update (fun s => { s with serviceHandle := some serviceHandle })) _
  | characteristicAdded status attrHandle serviceHandle charUuid =>
      refine Handled.Alike.andThen (alike_checkGattStatus h status) fun _ w w' h => ?_
      unfold registerCharacteristic
      rw [h.state.serviceHandle]
      split
      · exact alike_nothing h _
      split
      · exact alike_nothing (h.update (fun s => { s with c1Handle := some attrHandle })) _
      split
      · exact alike_perform drv (h.update (fun s => { s with c2Handle := some attrHandle })) _
      · exact alike_nothing h _
  | descriptorAdded status attrHandle serviceHandle descrUuid =>
      refine Handled.Alike.andThen (alike_checkGattStatus h status) fun _ w w' h => ?_
      unfold registerCccdDescriptor
      rw [h.state.serviceHandle]
      split
      · exact alike_nothing (h.update (fun s => { s with c2CccdHandle := some attrHandle })) _
      · exact alike_nothing h _
  | serviceDeleted status serviceHandle =>
      refine Handled.Alike.andThen (alike_checkGattStatus h status) fun _ w w' h => ?_
      unfold deleteService
      rw [h.state.serviceHandle]
      split
      · exact alike_nothing (h.update
          (fun s => { s with c1Handle := none, c2Handle := none, c2CccdHandle := none })) _
      · exact alike_nothing h _
  | serviceUnregistered status serviceHandle =>
      refine Handled.Alike.andThen (alike_checkGattStatus h status) fun _ w w' h => ?_
      unfold unregisterService
      rw [h.state.serviceHandle]
      split
      · exact alike_nothing (h.update (fun s => { s with gattIf := none, serviceHandle := none })) _
      · exact alike_nothing h _
  | other => exact alike_nothing h _
  | mtu connId mtu => exact hevent.elim
  | peerConnected connId addr => exact hevent.elim
  | peerDisconnected connId addr => exact hevent.elim
  | write ev => exact hevent.elim
  | confirm status connId => exact hevent.elim

/-- A connection finds neither engine reset for it. -/
theorem alike_createConn (drv : Driver) (connId : Handle) (addr : BdAddr) (h : w.Alike k w')
    (hstale : w.state.connection = none → w.state.btpGen ≠ some (w.state.connGen + 1) ∧
      w'.state.btpGen ≠ some (w'.state.connGen + 1)) :
    (createConn drv connId addr w).Alike k (createConn drv connId addr w') := by
  unfold createConn
  rw [h.state.connection] at hstale ⊢
  split
  · rename_i hconn
    obtain ⟨hstale, hstale'⟩ := hstale hconn
    obtain ⟨r, hs, -⟩ := h.state
    have hgen : w'.state.connGen + k + 1 = w'.state.connGen + 1 + k := add_right_comm _ _ _
    have hcreated : World.Alike k (w.setState (w.state.createConn connId addr)).wakeIncoming
        (w'.setState (w'.state.createConn connId addr)).wakeIncoming := by
      refine ⟨⟨r, ?_, fun _ => iff_of_false ?_ hstale'⟩, h.btp, h.ended⟩
      · simp only [World.state_wakeIncoming, World.state_setState, hs, State.createConn, State.taint, hgen]
      · rw [hs] at hstale
        rwa [World.state_wakeIncoming, World.state_setState, State.createConn, ← hgen]
    exact (alike_perform drv hcreated _).andThen fun _ _ _ h => alike_nothing h _
  · exact alike_nothing h _

theorem alike_deleteConn (addr : BdAddr) (h : w.Alike k w') :
    (deleteConn addr w).Alike k (deleteConn addr w') := by
  unfold deleteConn
  rw [h.state.connection]
  split
  · obtain ⟨r, hs, -⟩ := h.state
    have hgen : w'.state.connGen + k + 1 = w'.state.connGen + 1 + k := add_right_comm _ _ _
    refine ⟨⟨⟨r, ?_, fun hconn => absurd rfl hconn⟩, h.btp, h.ended⟩, rfl, rfl⟩
    simp only [World.state_wakeIncoming, World.state_setState, hs, State.deleteConn, State.taint, hgen]
  · exact alike_nothing h _

/-- The tracked connection is changed in the same way in both. -/
theorem World.Alike.setConnection (h : w.Alike k w') {conn : Connection}
    (hconn : w'.state.connection = some conn) (conn' : Connection) :
    (w.setState { w.state with connection := some conn' }).Alike k
      (w'.setState { w'.state with connection := some conn' }) := by
  obtain ⟨r, hs, hfits⟩ := h.state
  refine ⟨⟨r, ?_, fun _ => hfits ?_⟩, h.btp, h.ended⟩
  · rw [World.state_setState, World.state_setState, hs]
    rfl
  · rw [hconn]
    exact Option.some_ne_none conn

theorem alike_registerConnMtu (connId : Handle) (value : UInt16) (h : w.Alike k w') :
    (w.setState (w.state.registerConnMtu connId value)).Alike k
      (w'.setState (w'.state.registerConnMtu connId value)) := by
  unfold State.registerConnMtu
  rw [h.state.connection]
  cases hconn : w'.state.connection with
  | none => exact h
  | some conn =>
      dsimp only
      split
      · exact h.setConnection hconn _
      · exact h

theorem alike_writeLocked (ev : Write) (h : w.Alike k w') :
    (writeLocked ev w).1.Alike k (writeLocked ev w').1 ∧ (writeLocked ev w).2 = (writeLocked ev w').2 := by
  obtain ⟨r, hs, hfits⟩ := id h.state
  have hcccd : w.state.c2CccdHandle = w'.state.c2CccdHandle := by rw [hs]; rfl
  have hc1 : w.state.c1Handle = w'.state.c1Handle := by rw [hs]; rfl
  unfold writeLocked
  rw [h.state.connection, hcccd, hc1]
  cases hconn : w'.state.connection with
  | none => exact ⟨h, rfl⟩
  | some conn =>
      have hset (subscribed : Bool) : (w.setState (w.state.setSubscribed conn subscribed)).Alike k
          (w'.setState (w'.state.setSubscribed conn subscribed)) := h.setConnection hconn _
      have hstore : (w.setState (w.state.storeC1 ev.transId ev.value)).Alike k
          (w'.setState (w'.state.storeC1 ev.transId ev.value)) :=
        h.update (State.storeC1 ev.transId ev.value)
      dsimp only
      split
      · exact ⟨h, rfl⟩
      split
      · cases cccdValue ev.offset ev.value with
        | none => exact ⟨h, rfl⟩
        | some value =>
            dsimp only
            split
            · split
              · exact ⟨(hset true).wakeIncoming.wakeOutgoing, rfl⟩
              · exact ⟨h, rfl⟩
            split
            · exact ⟨(hset false).wakeIncoming, rfl⟩
            · exact ⟨h, rfl⟩
      split
      · exact ⟨hstore.wakeIncoming, rfl⟩
      · exact ⟨h, rfl⟩

/-- A response is written before it is sent. -/
theorem alike_sendWriteResponse (drv : Driver) (gattIf : GattInterface) (ev : Write) (h : w.Alike k w') :
    (sendWriteResponse drv gattIf ev w).Alike k (sendWriteResponse drv gattIf ev w') := by
  have hset (response response' : GattResponse) :
      (w.setState { w.state with response }).Alike k (w'.setState { w'.state with response := response' }) := by
    obtain ⟨r, hs, hfits⟩ := h.state
    refine ⟨⟨{ r with response }, ?_, hfits⟩, h.btp, h.ended⟩
    rw [World.state_setState, World.state_setState, hs]
    rfl
  unfold sendWriteResponse
  split
  · exact alike_nothing h _
  split
  · dsimp only
    unfold GattResponse.setValue
    cases BoundedVec.empty.extendFromSlice ev.value with
    | none => exact alike_nothing (hset _ _) _
    | some value => exact alike_perform drv (hset _ _) _
  · exact alike_perform drv h _

/-- The event starts to track a connection. -/
def GattsEvent.Connects (w : World β) : GattsEvent → Prop
  | .peerConnected _ _ => w.state.connection = none
  | _ => False

/-- A handler does the same to both. -/
theorem alike_onGattsEvent (cfg : Config) (drv : Driver) (gattIf : GattInterface) (event : GattsEvent)
    (h : w.Alike k w') (hstale : event.Connects w → w.state.btpGen ≠ some (w.state.connGen + 1) ∧
      w'.state.btpGen ≠ some (w'.state.connGen + 1)) :
    (onGattsEvent cfg drv gattIf event w).Alike k (onGattsEvent cfg drv gattIf event w') := by
  cases event with
  | peerConnected connId addr =>
      simp only [onGattsEvent]
      refine Handled.Alike.andThen (alike_createConn drv connId addr h hstale) fun done w w' h => ?_
      split
      · exact alike_perform drv h _
      · exact alike_nothing h _
  | peerDisconnected connId addr =>
      simp only [onGattsEvent]
      refine Handled.Alike.andThen (alike_deleteConn addr h) fun done w w' h => ?_
      split
      · exact alike_perform drv h _
      · exact alike_nothing h _
  | mtu connId value => exact alike_nothing (alike_registerConnMtu connId value h) _
  | write ev =>
      obtain ⟨hworld, hrespond⟩ := alike_writeLocked ev h
      simp only [onGattsEvent, write]
      rw [hrespond]
      split
      · exact alike_sendWriteResponse drv gattIf ev hworld
      · exact alike_nothing hworld _
  | confirm status connId =>
      simp only [onGattsEvent]
      refine Handled.Alike.andThen (alike_checkGattStatus h status) fun _ w w' h => ?_
      exact alike_nothing (h.update fun s => { s with outNack := false }).wakeOutgoing _
  | _ => exact alike_registers cfg drv gattIf trivial h

theorem alike_onGapEvent (drv : Driver) (event : BleGapEvent) (h : w.Alike k w') :
    (onGapEvent drv event w).Alike k (onGapEvent drv event w') := by
  cases event with
  | rawAdvertisingConfigured status =>
      simp only [onGapEvent]
      cases status with
      | success => exact Handled.Alike.andThen (alike_nothing h _) fun _ w w' h => alike_perform drv h _
      | failed code => exact Handled.Alike.andThen (alike_nothing h _) fun _ w w' h => alike_perform drv h _
  | other => exact alike_nothing h _

/-! ### Pumps -/

theorem alike_syncBtp (E : Btp β) (h : w.Alike k w') (hconn : w'.state.connection ≠ none) :
    (w.syncBtp E).1.Alike k (w'.syncBtp E).1 ∧ (w.syncBtp E).2 = (w'.syncBtp E).2 := by
  obtain ⟨r, hs, hfits⟩ := h.state
  have hiff : w.state.btpGen = some w.state.connGen ↔ w'.state.btpGen = some w'.state.connGen := by
    rw [hs]
    exact hfits hconn
  unfold World.syncBtp
  by_cases hsynced : w'.state.btpGen = some w'.state.connGen
  · rw [State.syncBtp_of_synced E _ hsynced, State.syncBtp_of_synced E _ (hiff.mpr hsynced)]
    exact ⟨h, rfl⟩
  · rw [State.syncBtp_of_stale E _ hsynced, State.syncBtp_of_stale E _ (mt hiff.mp hsynced), h.btp]
    refine ⟨⟨⟨{ r with btpGen := some (w'.state.connGen + k) }, ?_, fun _ => ?_⟩, rfl, h.ended⟩, rfl⟩
    · rw [World.state_setBtp, World.state_setBtp, World.state_setState, World.state_setState, hs]
      rfl
    · exact iff_of_true rfl rfl

theorem alike_processIncoming (E : Btp β) (drv : Driver) (h : w.Alike k w') :
    (processIncoming E drv w).Alike k (processIncoming E drv w') := by
  unfold processIncoming
  rw [h.state.connection]
  cases hconn : w'.state.connection with
  | none => exact ⟨h, rfl, rfl⟩
  | some conn =>
      obtain ⟨hsynced, hcalls⟩ := alike_syncBtp E h (by rw [hconn]; exact Option.some_ne_none conn)
      dsimp only
      generalize w.syncBtp E = synced at hsynced hcalls
      generalize w'.syncBtp E = synced' at hsynced hcalls
      obtain ⟨r, hs, -⟩ := id hsynced.state
      have hinData : synced.1.state.inData = synced'.1.state.inData := by rw [hs]; rfl
      have hgattIf : synced.1.state.gattIf = synced'.1.state.gattIf := by rw [hs]; rfl
      have hinTrans : synced.1.state.inTrans = synced'.1.state.inTrans := by rw [hs]; rfl
      have hcleared := hsynced.update fun s => { s with inData := .empty }
      rw [hgattIf, hinTrans] at hcleared
      rw [hinData, hgattIf, hinTrans, hsynced.btp, hcalls]
      split
      · exact ⟨hsynced, rfl, rfl⟩
      generalize E.processIncoming synced'.1.btp conn.mtu ⟨conn.peer.addr⟩
        synced'.1.state.inData.toList = processed
      cases processed with
      | mk btp result =>
          cases result with
          | error e => exact ⟨hsynced.setBtp btp, rfl, rfl⟩
          | ok u =>
              dsimp only
              cases drv (.sendResponse (synced'.1.state.gattIf.getD 0) conn.connId
                synced'.1.state.inTrans .ok none) with
              | error e => exact ⟨hsynced.setBtp btp, rfl, rfl⟩
              | ok u => exact ⟨hcleared.setBtp btp, rfl, rfl⟩

theorem alike_processOutgoing (E : Btp β) (drv : Driver) (h : w.Alike k w') :
    (processOutgoing E drv w).Alike k (processOutgoing E drv w') := by
  obtain ⟨r, hs, -⟩ := id h.state
  have hgattIf : w.state.gattIf = w'.state.gattIf := by rw [hs]; rfl
  have hc2 : w.state.c2Handle = w'.state.c2Handle := by rw [hs]; rfl
  unfold processOutgoing
  rw [h.state.connection, hgattIf, hc2]
  cases w'.state.gattIf with
  | none => exact ⟨h, rfl, rfl⟩
  | some gattIf =>
  cases w'.state.c2Handle with
  | none => exact ⟨h, rfl, rfl⟩
  | some c2Handle =>
  cases hconn : w'.state.connection with
  | none => exact ⟨h, rfl, rfl⟩
  | some conn =>
      dsimp only
      split
      · exact ⟨h, rfl, rfl⟩
      obtain ⟨hsynced, hcalls⟩ := alike_syncBtp E h (by rw [hconn]; exact Option.some_ne_none conn)
      generalize w.syncBtp E = synced at hsynced hcalls
      generalize w'.syncBtp E = synced' at hsynced hcalls
      obtain ⟨r, hs, hfits⟩ := id hsynced.state
      have hnack : synced.1.state.outNack = synced'.1.state.outNack := by rw [hs]; rfl
      have hbuf (btp : β) (outData outData' : Buffer) :
          ((synced.1.setState { synced.1.state with outData }).setBtp btp).Alike k
            ((synced'.1.setState { synced'.1.state with outData := outData' }).setBtp btp) := by
        refine ⟨⟨{ r with outData }, ?_, hfits⟩, rfl, hsynced.ended⟩
        rw [World.state_setBtp, World.state_setBtp, World.state_setState, World.state_setState, hs]
        rfl
      by_cases hwaiting : synced'.1.state.outNack = true
      · rw [if_pos hwaiting, if_pos (hnack.trans hwaiting)]
        exact ⟨hsynced, hcalls, rfl⟩
      rw [if_neg hwaiting, if_neg (fun h => hwaiting (hnack.symm.trans h)), hsynced.btp, hcalls]
      generalize E.processOutgoing synced'.1.btp conn.mtu = processed
      cases processed with
      | mk btp result =>
          cases result with
          | error e => exact ⟨hbuf btp _ _, rfl, rfl⟩
          | ok frame =>
              have hsent := (hbuf btp ((synced.1.state.outData.resize maxMtuSize le_rfl).overwrite frame.toList)
                ((synced'.1.state.outData.resize maxMtuSize le_rfl).overwrite frame.toList)).update
                fun s => { s with outNack := true }
              dsimp only
              split
              · simp only [World.state_setBtp, World.state_setState, take_overwrite_frame] at hsent ⊢
                cases drv (.indicate gattIf conn.connId c2Handle frame.toList) with
                | error e => exact ⟨hbuf btp _ _, rfl, rfl⟩
                | ok u => exact ⟨hsent, rfl, rfl⟩
              · exact ⟨hbuf btp _ _, rfl, rfl⟩

/-! ### Runs -/

def Step.Connects (w : World β) : Step β → Prop
  | .gatts _ event _ => event.Connects w
  | _ => False

/-- **A step does the same to both.** -/
theorem alike_step (cfg : Config) (E : Btp β) (s : Step β) (h : w.Alike k w')
    (hstale : s.Connects w → w.state.btpGen ≠ some (w.state.connGen + 1) ∧
      w'.state.btpGen ≠ some (w'.state.connGen + 1)) :
    (step cfg E w s).1.Alike k (step cfg E w' s).1 ∧ (step cfg E w s).2 = (step cfg E w' s).2 := by
  cases s with
  | gap event drv =>
      have hevent := alike_onGapEvent drv event h
      exact ⟨hevent.world, hevent.calls⟩
  | gatts gattIf event drv =>
      have hevent := alike_onGattsEvent cfg drv gattIf event h hstale
      exact ⟨hevent.world, hevent.calls⟩
  | incoming drv =>
      have hit := alike_processIncoming E drv h
      rw [step, step, h.ended]
      split
      · rw [Iteration.finish, Iteration.finish, hit.calls, hit.processed]
        exact ⟨hit.world.setEnded _, rfl⟩
      · exact ⟨h, rfl⟩
  | outgoing drv =>
      have hit := alike_processOutgoing E drv h
      rw [step, step, h.ended]
      split
      · rw [Iteration.finish, Iteration.finish, hit.calls, hit.processed]
        exact ⟨hit.world.setEnded _, rfl⟩
      · exact ⟨h, rfl⟩
  | matter btp => exact ⟨h.setBtp btp, rfl⟩

theorem State.Alike.connGen {s s' : State} (h : s.Alike k s') : s.connGen = s'.connGen + k := by
  obtain ⟨r, rfl, -⟩ := h
  rfl

/-- Both count the same generations. -/
theorem alike_increments {cfg : Config} {E : Btp β} {s : Step β} (h : w.Alike k w')
    (hnext : (step cfg E w s).1.Alike k (step cfg E w' s).1) :
    increments cfg E w s = increments cfg E w' s := by
  simp only [increments, hnext.state.connGen, h.state.connGen, add_left_inj]

theorem increments_of_connects (cfg : Config) (E : Btp β) {s : Step β} (hconnects : s.Connects w) :
    increments cfg E w s = 1 := by
  cases s with
  | gatts gattIf event drv =>
      cases event with
      | peerConnected connId addr =>
          have hconn : w.state.connection = none := hconnects
          have hstate := peerConnected_state cfg drv gattIf w connId addr
          rw [if_pos hconn] at hstate
          apply increments_eq_one
          rw [observe_gatts]
          exact congrArg State.connGen hstate
      | _ => exact hconnects.elim
  | _ => exact hconnects.elim

end

/-- **`reset` leaves no residue.** Over a context that any earlier runs have left behind, a peripheral does
what it does over a new one. -/
theorem reset_fresh (cfg : Config) (E : Btp β) {c : Context} {n : Nat} (hused : c.Used E n) (btp : β)
    (steps : List (Step β))
    (hbudget : n + total (observe cfg E) (increments cfg E) (.fresh c btp) steps < 2 ^ 32) :
    outputs (step cfg E) (.fresh c btp) steps = outputs (step cfg E) (.fresh .new btp) steps := by
  have hwithin : Within c.state.btpGen c.state.connGen n := hused.within (by omega)
  rw [← List.filterMap_some (l := outputs (step cfg E) (.fresh c btp) steps),
    ← List.filterMap_some (l := outputs (step cfg E) (.fresh .new btp) steps)]
  -- a generation that one of the two remembers is at most `spent` behind
  refine outputs_eq_of_simulation
    (R := fun w w' rest => w.Alike c.state.connGen w' ∧ ∃ spent,
      Within w.state.btpGen w.state.connGen spent ∧ Within w'.state.btpGen w'.state.connGen spent ∧
        spent + total (observe cfg E) (increments cfg E) w rest < 2 ^ 32) ?_
    ⟨World.fresh_alike c btp, n, hwithin, within_none _ _, hbudget⟩
  rintro w w' s rest ⟨halike, spent, hw, hw', hspent⟩
  rw [total_cons, ← Nat.add_assoc] at hspent
  have hstale (hconnects : s.Connects w) : w.state.btpGen ≠ some (w.state.connGen + 1) ∧
      w'.state.btpGen ≠ some (w'.state.connGen + 1) := by
    rw [increments_of_connects cfg E hconnects] at hspent
    exact ⟨hw.ne_next (by omega), hw'.ne_next (by omega)⟩
  obtain ⟨hnext, hcalls⟩ := alike_step cfg E s halike hstale
  have hincrements := alike_increments halike hnext
  refine ⟨by rw [hcalls], hnext, spent + increments cfg E w s, ?_, ?_, hspent⟩
  · exact (refines_step cfg E w s hw (by omega)).lag spent hw
  · rw [hincrements]
    exact (refines_step cfg E w' s hw' (by omega)).lag spent hw'

/-- The run before ended with a connection that awaits a confirmation. -/
theorem reset_fresh_unconfirmed :
    outputs (step someConfig .queue)
        (.fresh (after (observe someConfig .queue) (.fresh .new [⟨[1], by decide⟩])
          (confirmingRun (.failed 133))).context [⟨[2], by decide⟩])
        (confirmingRun .ok) =
      outputs (step someConfig .queue) (.fresh .new [⟨[2], by decide⟩]) (confirmingRun .ok) := by
  refine reset_fresh someConfig .queue (.run someConfig _ _ .new) _ _ ?_
  have hlength (w : World (List Buffer)) (status : GattStatus) :
      total (observe someConfig .queue) (increments someConfig .queue) w (confirmingRun status) ≤ 9 :=
    total_le_length (increments_le_one someConfig .queue) w _
  exact (Nat.add_le_add (Nat.add_le_add_left (hlength _ _) 0) (hlength _ _)).trans_lt (by decide)

end EspIdfMatter.Bluedroid
