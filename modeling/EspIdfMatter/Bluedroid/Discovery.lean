import EspIdfMatter.Bluedroid.Wakeups

/-! Whether the Bluedroid peripheral stays discoverable. It starts advertising once the advertising data is
set, stops when it tracks a connection, and starts again when that connection is gone. -/

namespace EspIdfMatter.Bluedroid

open Library Library.Machine

variable {β : Type}

/-! ### The calls of each event -/

def GattsEvent.mayCall : GattsEvent → DriverCall → Bool
  | .serviceRegistered _ _, .setDeviceName _ | .serviceRegistered _ _, .setRawAdvConf _
  | .serviceRegistered _ _, .createService _ _ _ _ _ | .serviceCreated _ _, .startService _
  | .serviceCreated _ _, .addCharacteristic _ _ | .characteristicAdded _ _ _ _, .addDescriptor _ _
  | .peerConnected _ _, .setConnParamsConf _ _ _ _ _ | .peerConnected _ _, .stopAdvertising
  | .peerDisconnected _ _, .startAdvertising | .write _, .sendResponse _ _ _ _ _ => true
  | _, _ => false

def Call.MadeFor (event : GattsEvent) : Call → Prop
  | .driver call _ => event.mayCall call = true
  | .btp _ => False

/-- **What the handler of an event may call.** -/
theorem only_madeFor (cfg : Config) (drv : Driver) (gattIf : GattInterface) (event : GattsEvent) (w : World β) :
    (onGattsEvent cfg drv gattIf event w).Only (Call.MadeFor event) := by
  have hmade : ∀ (w : World β) calls, (∀ call ∈ calls, event.mayCall call = true) →
      (perform drv w calls).Only (Call.MadeFor event) :=
    fun w calls hcalls => only_perform drv w calls fun call hcall _ => hcalls call hcall
  cases event with
  | serviceRegistered status appId =>
      refine (only_checkGattStatus w status).andThen fun _ w => ?_
      split
      · exact hmade _ _ (by simp [GattsEvent.mayCall])
      · exact Handled.only_nil rfl
  | serviceCreated status serviceHandle =>
      refine (only_checkGattStatus w status).andThen fun _ w => ?_
      exact hmade _ _ (by simp [GattsEvent.mayCall, characteristics])
  | characteristicAdded status attrHandle serviceHandle charUuid =>
      refine (only_checkGattStatus w status).andThen fun _ w => ?_
      unfold registerCharacteristic
      repeat' split
      · exact Handled.only_nil rfl
      · exact Handled.only_nil rfl
      · exact hmade _ _ (by simp [GattsEvent.mayCall])
      · exact Handled.only_nil rfl
  | descriptorAdded status attrHandle serviceHandle descrUuid =>
      refine (only_checkGattStatus w status).andThen fun _ w => ?_
      unfold registerCccdDescriptor
      split <;> exact Handled.only_nil rfl
  | serviceDeleted status serviceHandle =>
      refine (only_checkGattStatus w status).andThen fun _ w => ?_
      unfold deleteService
      split <;> exact Handled.only_nil rfl
  | serviceUnregistered status serviceHandle =>
      refine (only_checkGattStatus w status).andThen fun _ w => ?_
      unfold unregisterService
      split <;> exact Handled.only_nil rfl
  | mtu connId mtu => exact Handled.only_nil rfl
  | peerConnected connId addr =>
      have hcreate : (createConn drv connId addr w).Only (Call.MadeFor (.peerConnected connId addr)) := by
        unfold createConn
        split
        · exact (hmade _ _ (by simp [GattsEvent.mayCall])).andThen fun _ _ => Handled.only_nil rfl
        · exact Handled.only_nil rfl
      refine hcreate.andThen fun done w => ?_
      split
      · exact hmade _ _ (by simp [GattsEvent.mayCall])
      · exact Handled.only_nil rfl
  | peerDisconnected connId addr =>
      have hdelete : (deleteConn addr w).Only (Call.MadeFor (.peerDisconnected connId addr)) := by
        unfold deleteConn
        split <;> exact Handled.only_nil rfl
      refine hdelete.andThen fun done w => ?_
      split
      · exact hmade _ _ (by simp [GattsEvent.mayCall])
      · exact Handled.only_nil rfl
  | write ev =>
      intro call hcall
      have hresponds := only_write cfg drv gattIf ev w call hcall
      cases call with
      | btp call => exact hresponds
      | driver call r =>
          cases call with
          | sendResponse gattIf connId transId status response => rfl
          | _ => exact hresponds.elim
  | confirm status connId =>
      exact (only_checkGattStatus w status).andThen fun _ _ => Handled.only_nil rfl
  | other => exact Handled.only_nil rfl

/-- The peer that is tracked, and the connection it is tracked under. -/
def State.tracked (s : State) : Option (Handle × BdAddr) :=
  s.connection.map fun conn => (conn.connId, conn.peer)

theorem State.tracked_eq_none {s : State} : s.tracked = none ↔ s.connection = none :=
  Option.map_eq_none_iff

/-- Other events leave the tracked peer as it is. -/
theorem Effect.tracked {c c' : Context} {event : GattsEvent} (h : Effect c event c')
    (hconnected : ∀ connId addr, event ≠ .peerConnected connId addr)
    (hdisconnected : ∀ connId addr, event ≠ .peerDisconnected connId addr) :
    c'.state.tracked = c.state.tracked := by
  cases h with
  | mtu connId mtu =>
      simp only [State.tracked, State.registerConnMtu]
      split
      · rename_i conn hconn
        split
        · rw [hconn]
          rfl
        · rfl
      · rfl
  | connected connId addr => exact absurd rfl (hconnected connId addr)
  | disconnected connId addr => exact absurd rfl (hdisconnected connId addr)
  | subscribed ev conn response hcccd hconn =>
      rw [State.tracked, State.tracked, hconn]
      rfl
  | unsubscribed ev conn response hconn =>
      rw [State.tracked, State.tracked, hconn]
      rfl
  | _ => rfl

theorem exchanged_syncBtp (E : Btp β) (w : World β) : ∀ call ∈ (w.syncBtp E).2, ¬ call.Local := by
  intro call hcall
  obtain ⟨call', -, rfl⟩ := List.mem_map.mp hcall
  exact id

theorem exchanged_btp (E : Btp β) (w : World β) (btpCall : BtpCall) :
    ∀ call ∈ (w.syncBtp E).2 ++ [.btp btpCall], ¬ call.Local :=
  List.forall_mem_append.mpr ⟨exchanged_syncBtp E w, List.forall_mem_singleton.mpr id⟩

theorem exchanged_driver (E : Btp β) (w : World β) (btpCall : BtpCall) {call : Call} (hcall : ¬ call.Local) :
    ∀ call' ∈ (w.syncBtp E).2 ++ [.btp btpCall] ++ [call], ¬ call'.Local :=
  List.forall_mem_append.mpr ⟨exchanged_btp E w btpCall, List.forall_mem_singleton.mpr hcall⟩

theorem exchanged_processIncoming (E : Btp β) (drv : Driver) (w : World β) :
    ∀ call ∈ (processIncoming E drv w).calls, ¬ call.Local := by
  unfold processIncoming
  cases w.state.connection with
  | none => exact List.forall_mem_nil _
  | some conn =>
      dsimp only
      split
      · exact exchanged_syncBtp E w
      split
      · exact exchanged_btp E w _
      split
      · exact exchanged_driver E w _ id
      · exact exchanged_driver E w _ id

theorem exchanged_processOutgoing (E : Btp β) (drv : Driver) (w : World β) :
    ∀ call ∈ (processOutgoing E drv w).calls, ¬ call.Local := by
  unfold processOutgoing
  split
  · split
    · exact List.forall_mem_nil _
    dsimp only
    split
    · exact exchanged_syncBtp E w
    split
    · exact exchanged_btp E w _
    split
    · split
      · exact exchanged_driver E w _ id
      · exact exchanged_driver E w _ id
    · exact exchanged_btp E w _
  · exact List.forall_mem_nil _

/-! ### Advertising -/

/-- The peripheral, with the links that are up, whether its advertising data was set, whether the controller
advertises, and whether the last attempt to start failed. -/
structure Discovery (β : Type) where
  world : World β
  links : List (Handle × BdAddr)
  configured : Bool
  advertising : Bool
  failed : Bool

/-- The links after an event: peers connect and disconnect, whatever the peripheral makes of it. -/
def GattsEvent.links (links : List (Handle × BdAddr)) : GattsEvent → List (Handle × BdAddr)
  | .peerConnected connId addr => (connId, addr) :: links
  | .peerDisconnected connId addr => links.filter fun link => link ≠ (connId, addr)
  | _ => links

/-- Whether the controller advertises after a call, and whether the last attempt to start failed. -/
def Call.advertise : Bool × Bool → Call → Bool × Bool
  | _, .driver .startAdvertising (.ok ()) => (true, false)
  | (advertising, _), .driver .startAdvertising (.error _) => (advertising, true)
  | (_, failed), .driver .stopAdvertising (.ok ()) => (false, failed)
  | advertise, _ => advertise

def Step.configures : Step β → Bool
  | .gap (.rawAdvertisingConfigured .success) _ => true
  | _ => false

def Step.links (links : List (Handle × BdAddr)) : Step β → List (Handle × BdAddr)
  | .gatts _ event _ => event.links links
  | _ => links

/-- The controller stops advertising by itself when a peer connects. -/
def Step.connects : Step β → Bool
  | .gatts _ (.peerConnected _ _) _ => true
  | _ => false

namespace Discovery

def fresh (c : Context) (btp : β) : Discovery β where
  world := .fresh c btp
  links := []
  configured := false
  advertising := false
  failed := false

def step (cfg : Config) (E : Btp β) (D : Discovery β) (s : Step β) : Discovery β × List Call :=
  let next := Bluedroid.step cfg E D.world s
  let advertise := next.2.foldl Call.advertise (D.advertising && !s.connects, D.failed)
  ({ world := next.1
     links := s.links D.links
     configured := D.configured || s.configures
     advertising := advertise.1
     failed := advertise.2 }, next.2)

/-- With its data set and no link up, or none that it tracks, the peripheral advertises, unless it failed to
start. -/
def Discoverable (D : Discovery β) : Prop :=
  D.configured = true → D.links = [] ∨ D.world.state.connection = none →
    D.advertising = true ∨ D.failed = true

/-- The tracked connection is a link that is up. -/
structure Inv (D : Discovery β) : Prop where
  advertises : D.configured = true → D.world.state.tracked = none → D.advertising = true ∨ D.failed = true
  up : ∀ link, D.world.state.tracked = some link → link ∈ D.links

theorem Inv.discoverable {D : Discovery β} (h : D.Inv) : D.Discoverable := by
  intro hconfigured hidle
  apply h.advertises hconfigured
  rcases hidle with hlinks | hconnection
  · apply Option.eq_none_iff_forall_not_mem.mpr
    intro link hlink
    have hmem := h.up link hlink
    rw [hlinks] at hmem
    cases hmem
  · exact State.tracked_eq_none.mpr hconnection

section Steps

variable {D : Discovery β}

theorem foldl_advertise {calls : List Call} (h : ∀ call ∈ calls, ∀ r, call ≠ .driver .startAdvertising r ∧
    call ≠ .driver .stopAdvertising r) (advertise : Bool × Bool) :
    calls.foldl Call.advertise advertise = advertise := by
  induction calls with
  | nil => rfl
  | cons call calls ih =>
      obtain ⟨hcall, hcalls⟩ := List.forall_mem_cons.mp h
      have hidle : Call.advertise advertise call = advertise := by
        unfold Call.advertise
        split
        · exact absurd rfl (hcall _).1
        · exact absurd rfl (hcall _).1
        · exact absurd rfl (hcall _).2
        · rfl
      rw [List.foldl_cons, hidle]
      exact ih hcalls

/-- Starting either succeeds or is known to have failed. -/
theorem start_advertising (drv : Driver) (w : World β) (advertise : Bool × Bool) :
    ((perform drv w [.startAdvertising]).calls.foldl Call.advertise advertise).1 = true ∨
      ((perform drv w [.startAdvertising]).calls.foldl Call.advertise advertise).2 = true := by
  unfold perform
  cases drv .startAdvertising with
  | error e => exact .inr rfl
  | ok u => exact .inl rfl

/-- What a step has to do for the peripheral to stay discoverable: keep advertising and tracking as it does,
track a peer that connects, or try to start when it gives up one. -/
inductive Keeps (cfg : Config) (E : Btp β) (w : World β) (s : Step β) : Prop where
  | goesOn (hconfigures : s.configures = false) (hconnects : s.connects = false)
      (htracked : (Bluedroid.step cfg E w s).1.state.tracked = w.state.tracked)
      (hcalls : ∀ advertise, (Bluedroid.step cfg E w s).2.foldl Call.advertise advertise = advertise)
      (hlinks : ∀ links, ∀ link ∈ links, w.state.tracked = some link → link ∈ s.links links)
  | tracks (hsome : (Bluedroid.step cfg E w s).1.state.tracked ≠ none)
      (hlinks : ∀ links link, (Bluedroid.step cfg E w s).1.state.tracked = some link →
        (w.state.tracked = some link → link ∈ links) → link ∈ s.links links)
  | starts (h : ∀ advertise, ((Bluedroid.step cfg E w s).2.foldl Call.advertise advertise).1 = true ∨
      ((Bluedroid.step cfg E w s).2.foldl Call.advertise advertise).2 = true)
      (hlinks : ∀ links link, (Bluedroid.step cfg E w s).1.state.tracked = some link →
        w.state.tracked = some link ∧ s.links links = links)

theorem Keeps.inv {cfg : Config} {E : Btp β} {s : Step β} (h : Keeps cfg E D.world s) (hD : D.Inv) :
    (D.step cfg E s).1.Inv := by
  cases h with
  | goesOn hconfigures hconnects htracked hcalls hlinks =>
      refine ⟨fun hconfigured hnone => ?_, fun link hlink => ?_⟩
      · have hwas : D.configured = true := by
          simpa only [step, hconfigures, Bool.or_false] using hconfigured
        have hold := hD.advertises hwas (htracked.symm.trans hnone)
        simpa only [step, hconnects, hcalls, Bool.not_false, Bool.and_true] using hold
      · have hbefore := htracked.symm.trans hlink
        exact hlinks _ link (hD.up link hbefore) hbefore
  | tracks hsome hlinks =>
      exact ⟨fun _ hnone => absurd hnone hsome, fun link hlink => hlinks _ link hlink (hD.up link)⟩
  | starts hstarts hlinks =>
      refine ⟨fun _ _ => hstarts _, fun link hlink => ?_⟩
      obtain ⟨hbefore, hsame⟩ := hlinks D.links link hlink
      show link ∈ s.links D.links
      rw [hsame]
      exact hD.up link hbefore

/-- The events of a connected peer, and those of the registration. -/
theorem keeps_gatts (cfg : Config) (E : Btp β) (w : World β) (gattIf : GattInterface) (event : GattsEvent)
    (drv : Driver) : Keeps cfg E w (.gatts gattIf event drv) := by
  by_cases hconnected : ∃ connId addr, event = .peerConnected connId addr
  · obtain ⟨connId, addr, rfl⟩ := hconnected
    have hstate : (Bluedroid.step cfg E w (.gatts gattIf (.peerConnected connId addr) drv)).1.state =
        if w.state.connection = none then w.state.createConn connId addr else w.state :=
      peerConnected_state ..
    refine .tracks ?_ fun links link hlink hup => ?_
    · rw [hstate, ne_eq, State.tracked_eq_none]
      split
      · exact Option.some_ne_none _
      · assumption
    · rw [hstate] at hlink
      split at hlink
      · cases hlink
        exact List.mem_cons_self
      · exact List.mem_cons_of_mem _ (hup hlink)
  by_cases hdisconnected : ∃ connId addr, event = .peerDisconnected connId addr ∧
      (w.state.connection.map fun conn => conn.peer) = some addr
  · obtain ⟨connId, addr, rfl, htracked⟩ := hdisconnected
    have hgoes : onGattsEvent cfg drv gattIf (.peerDisconnected connId addr) w =
        perform drv (w.setState w.state.deleteConn).wakeIncoming [.startAdvertising] := by
      simp only [onGattsEvent, deleteConn, htracked, if_true, Handled.andThen, List.nil_append]
    have hstate : (Bluedroid.step cfg E w (.gatts gattIf (.peerDisconnected connId addr) drv)).1.state =
        if (w.state.connection.map fun conn => conn.peer) = some addr then w.state.deleteConn else w.state :=
      peerDisconnected_state ..
    refine .starts (fun advertise => ?_) fun links link hlink => ?_
    · have hcalls : (Bluedroid.step cfg E w (.gatts gattIf (.peerDisconnected connId addr) drv)).2 =
          (perform drv (w.setState w.state.deleteConn).wakeIncoming [.startAdvertising]).calls :=
        congrArg Handled.calls hgoes
      rw [hcalls]
      exact start_advertising drv _ advertise
    · rw [hstate, if_pos htracked] at hlink
      cases hlink
  have hcalls : ∀ call ∈ (onGattsEvent cfg drv gattIf event w).calls,
      ∀ r, call ≠ .driver .startAdvertising r ∧ call ≠ .driver .stopAdvertising r := by
    intro call hcall r
    have hmade := only_madeFor cfg drv gattIf event w call hcall
    refine ⟨?_, ?_⟩
    · rintro rfl
      cases event with
      | peerDisconnected connId addr =>
          have huntracked : ¬ (w.state.connection.map fun conn => conn.peer) = some addr :=
            fun htracked => hdisconnected ⟨connId, addr, rfl, htracked⟩
          simp only [onGattsEvent, deleteConn, if_neg huntracked, Handled.andThen, Bool.false_eq_true,
            if_false, List.append_nil] at hcall
          cases hcall
      | _ => cases hmade
    · rintro rfl
      cases event with
      | peerConnected connId addr => exact hconnected ⟨connId, addr, rfl⟩
      | _ => cases hmade
  have heffect := effect_onGattsEvent cfg drv gattIf event w
  refine .goesOn rfl ?_ ?_ (foldl_advertise hcalls) fun links link hmem hlink => ?_
  · cases event with
    | peerConnected connId addr => exact absurd ⟨connId, addr, rfl⟩ hconnected
    | _ => rfl
  · show (onGattsEvent cfg drv gattIf event w).world.state.tracked = w.state.tracked
    by_cases hgone : ∃ connId addr, event = .peerDisconnected connId addr
    · obtain ⟨connId, addr, rfl⟩ := hgone
      rw [peerDisconnected_state, if_neg fun htracked => hdisconnected ⟨connId, addr, rfl, htracked⟩]
    · exact heffect.tracked (fun connId addr h => hconnected ⟨connId, addr, h⟩)
        fun connId addr h => hgone ⟨connId, addr, h⟩
  · cases event with
    | peerConnected connId addr => exact List.mem_cons_of_mem _ hmem
    | peerDisconnected connId addr =>
        refine List.mem_filter.mpr ⟨hmem, decide_eq_true ?_⟩
        rintro rfl
        apply hdisconnected
        refine ⟨connId, addr, rfl, ?_⟩
        obtain ⟨conn, hconn, hpeer⟩ := Option.map_eq_some_iff.mp hlink
        rw [hconn, Option.map_some]
        exact congrArg some (congrArg Prod.snd hpeer)
    | _ => exact hmem

theorem keeps_step (cfg : Config) (E : Btp β) (w : World β) (s : Step β) : Keeps cfg E w s := by
  have hpump : ∀ {calls : List Call}, (∀ call ∈ calls, ¬ call.Local) → ∀ advertise,
      calls.foldl Call.advertise advertise = advertise := by
    intro calls hcalls
    refine foldl_advertise fun call hcall r => ⟨?_, ?_⟩
    · rintro rfl
      exact hcalls _ hcall trivial
    · rintro rfl
      exact hcalls _ hcall trivial
  have hkept : ∀ {w' : World β}, Kept w w' → w'.state.tracked = w.state.tracked := fun h => by
    rw [State.tracked, h.connection, State.tracked]
  have hlinks : ∀ links : List (Handle × BdAddr), ∀ link ∈ links, w.state.tracked = some link → link ∈ links :=
    fun _ _ hmem _ => hmem
  cases s with
  | gap event drv =>
      have hstate : (onGapEvent drv event w).world.state = w.state := by rw [onGapEvent_world]
      cases event with
      | rawAdvertisingConfigured status =>
          cases status with
          | success =>
              refine .starts (start_advertising drv w) fun links link hlink => ⟨?_, rfl⟩
              rw [← hstate]
              exact hlink
          | failed code => exact .goesOn rfl rfl rfl (fun _ => rfl) hlinks
      | other => exact .goesOn rfl rfl rfl (fun _ => rfl) hlinks
  | gatts gattIf event drv => exact keeps_gatts cfg E w gattIf event drv
  | incoming drv =>
      refine .goesOn rfl rfl ?_ ?_ hlinks
      · simp only [Bluedroid.step]
        split
        · exact hkept (kept_processIncoming E drv w)
        · rfl
      · simp only [Bluedroid.step]
        split
        · exact hpump (exchanged_processIncoming E drv w)
        · exact fun _ => rfl
  | outgoing drv =>
      refine .goesOn rfl rfl ?_ ?_ hlinks
      · simp only [Bluedroid.step]
        split
        · exact hkept (kept_processOutgoing E drv w)
        · rfl
      · simp only [Bluedroid.step]
        split
        · exact hpump (exchanged_processOutgoing E drv w)
        · exact fun _ => rfl
  | matter btp => exact .goesOn rfl rfl rfl (fun _ => rfl) hlinks

end Steps

/-- **Once its advertising data is set, the peripheral advertises whenever no peer is connected to it, or none
that it tracks, unless its last attempt to start has failed.** -/
theorem discoverable_unless_failed (cfg : Config) (E : Btp β) (c : Context) (btp : β) (steps : List (Step β)) :
    (after (step cfg E) (fresh c btp) steps).Discoverable := by
  have hinv : (after (step cfg E) (fresh c btp) steps).Inv := by
    refine invariant_after (I := Inv) (G := fun _ _ => True) (fun D s hD _ => ?_) ?_
      (along_of_forall fun s _ => trivial)
    · exact (keeps_step cfg E D.world s).inv hD
    · exact ⟨Bool.noConfusion, fun link hlink => by cases hlink⟩
  exact hinv.discoverable

end Discovery

end EspIdfMatter.Bluedroid
