import EspIdfMatter.Bluedroid.Discovery

/-! The registration of the service. The GATT stack carries out what it is asked for, one request after the
other, and reports on each in an event; the peripheral asks for the next thing when it is told of the one
before. Peers, advertising and the pumps may come in between at any time. -/

namespace EspIdfMatter.Bluedroid

open Library Library.Machine

variable {β : Type}

/-! ### The stack -/

/-- What the stack is asked for that it reports on. -/
inductive Request where
  | registerApp (appId : UInt16)
  | createService (gattIf : GattInterface)
  | addCharacteristic (serviceHandle : Handle) (uuid : Uuid)
  | addDescriptor (serviceHandle : Handle) (uuid : Uuid)
  deriving DecidableEq

def DriverCall.request? : DriverCall → Option Request
  | .createService gattIf _ _ _ _ => some (.createService gattIf)
  | .addCharacteristic serviceHandle characteristic =>
      some (.addCharacteristic serviceHandle characteristic.uuid)
  | .addDescriptor serviceHandle descriptor => some (.addDescriptor serviceHandle descriptor.uuid)
  | _ => none

/-- A call that fails asks for nothing. -/
def Call.request? : Call → Option Request
  | .driver call (.ok ()) => call.request?
  | _ => none

inductive Attribute where
  | service (handle : Handle)
  | characteristic (serviceHandle handle : Handle) (uuid : Uuid)
  /-- of the characteristic `owner` -/
  | descriptor (serviceHandle : Handle) (owner : Option Handle) (handle : Handle) (uuid : Uuid)
  deriving DecidableEq

def Attribute.handle : Attribute → Handle
  | .service handle | .characteristic _ handle _ | .descriptor _ _ handle _ => handle

def Attribute.characteristic? : Attribute → Option Handle
  | .characteristic _ handle _ => some handle
  | _ => none

/-- What an attribute is, apart from its handle. -/
inductive AttributeKind where
  | service
  | characteristic (uuid : Uuid)
  | descriptor (uuid : Uuid)
  deriving DecidableEq

def Attribute.kind : Attribute → AttributeKind
  | .service _ => .service
  | .characteristic _ _ uuid => .characteristic uuid
  | .descriptor _ _ _ uuid => .descriptor uuid

/-- What the service consists of. -/
def serviceKinds : List AttributeKind :=
  [.service, .characteristic .c1, .characteristic .c2, .descriptor .cccd]

/-- The attributes, in the order in which they were added. -/
abbrev Attributes := List Attribute

/-- A descriptor belongs to the characteristic that was added last. -/
def Attributes.owner (attributes : Attributes) : Option Handle :=
  (attributes.filterMap Attribute.characteristic?).getLast?

/-- The attributes after a request was carried out. -/
def Request.adds (attributes : Attributes) (handle : Handle) : Request → Attributes
  | .registerApp _ => attributes
  | .createService _ => attributes ++ [.service handle]
  | .addCharacteristic serviceHandle uuid => attributes ++ [.characteristic serviceHandle handle uuid]
  | .addDescriptor serviceHandle uuid =>
      attributes ++ [.descriptor serviceHandle attributes.owner handle uuid]

def Request.event (status : GattStatus) (handle : Handle) : Request → GattsEvent
  | .registerApp appId => .serviceRegistered status appId
  | .createService _ => .serviceCreated status handle
  | .addCharacteristic serviceHandle uuid => .characteristicAdded status handle serviceHandle uuid
  | .addDescriptor serviceHandle uuid => .descriptorAdded status handle serviceHandle uuid

/-- The peripheral on the stack: the requests that the stack has not come to yet, and the events that the
peripheral has not been told yet. -/
structure Registration (β : Type) where
  world : World β
  requests : List Request
  events : List GattsEvent
  attributes : Attributes

/-- A stack that was just asked to register the application. -/
def Registration.new (cfg : Config) (c : Context) (btp : β) : Registration β where
  world := .fresh c btp
  requests := [.registerApp cfg.appId]
  events := []
  attributes := []

inductive Registering (β : Type) where
  /-- The stack carries out the next request, under the given handle, or fails to. -/
  | carryOut (result : Except Nat Handle)
  /-- The peripheral is told of the next event. -/
  | tell (driver : Driver)
  | other (step : Step β)

def Registration.carryOut (R : Registration β) (result : Except Nat Handle) : Registration β :=
  match R.requests with
  | [] => R
  | request :: requests =>
      match result with
      | .ok handle =>
          { R with
            requests
            events := R.events ++ [request.event .ok handle]
            attributes := request.adds R.attributes handle }
      | .error code => { R with requests, events := R.events ++ [request.event (.failed code) 0] }

/-- The world after some calls, which leave their requests with the stack. -/
def Registration.goOn (R : Registration β) (next : World β × List Call) : Registration β × List Call :=
  ({ R with world := next.1, requests := R.requests ++ next.2.filterMap Call.request? }, next.2)

def Registration.tell (cfg : Config) (gattIf : GattInterface) (R : Registration β) (drv : Driver) :
    Registration β × List Call :=
  match R.events with
  | [] => (R, [])
  | event :: events =>
      { R with events }.goOn (onGattsEvent cfg drv gattIf event R.world).finish

def Registration.step (cfg : Config) (E : Btp β) (gattIf : GattInterface) (R : Registration β) :
    Registering β → Registration β × List Call
  | .carryOut result => (R.carryOut result, [])
  | .tell drv => R.tell cfg gattIf drv
  | .other s => R.goOn (Bluedroid.step cfg E R.world s)

/-- The stack reports on the requests of the peripheral only, and never gives out a handle twice. -/
def Registration.Honest (R : Registration β) : Registering β → Prop
  | .carryOut (.ok handle) => handle ∉ R.attributes.map Attribute.handle
  | .other (.gatts _ event _) => event.Registers → event = .other
  | _ => True

/-! ### The handles -/

/-- What the peripheral knows of its registration. -/
@[ext] structure Handles where
  gattIf : Option GattInterface
  service : Option Handle
  c1 : Option Handle
  c2 : Option Handle
  c2Cccd : Option Handle
  deriving DecidableEq

def Handles.unknown : Handles := ⟨none, none, none, none, none⟩

def State.handles (s : State) : Handles where
  gattIf := s.gattIf
  service := s.serviceHandle
  c1 := s.c1Handle
  c2 := s.c2Handle
  c2Cccd := s.c2CccdHandle

/-- The handles are those of attributes of the service, each of the right kind. -/
structure Handles.Sound (h : Handles) (attributes : Attributes) : Prop where
  service : ∀ a, h.service = some a → .service a ∈ attributes
  c1 : ∀ a, h.c1 = some a → ∃ s, h.service = some s ∧ .characteristic s a .c1 ∈ attributes
  c2 : ∀ a, h.c2 = some a → ∃ s, h.service = some s ∧ .characteristic s a .c2 ∈ attributes
  c2Cccd : ∀ a, h.c2Cccd = some a →
    ∃ s, h.service = some s ∧ h.c2 ≠ none ∧ .descriptor s h.c2 a .cccd ∈ attributes

/-! ### What the handlers ask for -/

/-- The calls that are made ask for a beginning of what they were meant to; for all of it, if they succeed. -/
theorem requests_perform (drv : Driver) (w : World β) (calls : List DriverCall) :
    (perform drv w calls).calls.filterMap Call.request? <+: calls.filterMap DriverCall.request? ∧
      ((∀ call, drv call = .ok ()) →
        (perform drv w calls).calls.filterMap Call.request? = calls.filterMap DriverCall.request?) := by
  induction calls with
  | nil => exact ⟨List.prefix_rfl, fun _ => rfl⟩
  | cons call calls ih =>
      obtain ⟨hpre, hall⟩ := ih
      unfold perform
      cases hcall : drv call with
      | error e =>
          refine ⟨List.nil_prefix, fun hsucceeds => ?_⟩
          rw [hsucceeds call] at hcall
          cases hcall
      | ok u =>
          have hfirst : Call.request? (.driver call (.ok ())) = call.request? := rfl
          dsimp only
          rw [List.filterMap_cons, List.filterMap_cons, hfirst]
          cases call.request? with
          | none => exact ⟨hpre, hall⟩
          | some request =>
              refine ⟨(List.cons_prefix_cons).mpr ⟨rfl, hpre⟩, fun hsucceeds => ?_⟩
              rw [hall hsucceeds]

/-- It asks for nothing. -/
abbrev Call.Quiet (call : Call) : Prop := call.request? = none

theorem requests_of_quiet {calls : List Call} (h : ∀ call ∈ calls, Call.Quiet call) :
    calls.filterMap Call.request? = [] := List.filterMap_eq_nil_iff.mpr h

theorem Call.quiet_of_exchanged {call : Call} (h : ¬ call.Local) : call.Quiet := by
  cases call with
  | btp call => rfl
  | driver call r =>
      cases r with
      | error e => rfl
      | ok u =>
          cases call with
          | sendResponse gattIf connId transId status response => rfl
          | indicate gattIf connId handle data => rfl
          | _ => exact absurd trivial h

/-- Only the events of the registration make a handler ask for more. -/
theorem Call.quiet_of_madeFor {call : Call} {event : GattsEvent} (h : call.MadeFor event)
    (hevent : event.Registers → event = .other) : call.Quiet := by
  cases call with
  | btp call => exact h.elim
  | driver call r =>
      cases r with
      | error e => rfl
      | ok u =>
          cases event with
          | peerConnected connId addr => cases call <;> first | rfl | cases h
          | peerDisconnected connId addr => cases call <;> first | rfl | cases h
          | write ev => cases call <;> first | rfl | cases h
          | mtu connId mtu => cases h
          | confirm status connId => cases h
          | other => cases h
          | _ => cases hevent trivial

theorem quiet_gap (drv : Driver) (event : BleGapEvent) (w : World β) :
    ∀ call ∈ (onGapEvent drv event w).calls, call.Quiet := by
  cases event with
  | other => exact List.forall_mem_nil _
  | rawAdvertisingConfigured status =>
      cases status with
      | failed code => exact List.forall_mem_nil _
      | success =>
          refine only_perform drv w [.startAdvertising] fun call hcall r => ?_
          rw [List.mem_singleton.mp hcall]
          cases r <;> rfl

theorem handles_gatts (cfg : Config) (drv : Driver) (gattIf : GattInterface) {event : GattsEvent}
    (hevent : event.Registers → event = .other) (w : World β) :
    (onGattsEvent cfg drv gattIf event w).world.state.handles = w.state.handles := by
  have heffect := effect_onGattsEvent cfg drv gattIf event w
  show (onGattsEvent cfg drv gattIf event w).world.context.state.handles = w.context.state.handles
  revert heffect
  generalize (onGattsEvent cfg drv gattIf event w).world.context = c
  intro heffect
  cases heffect with
  | nothing event => rfl
  | mtu connId mtu =>
      obtain ⟨connection, hmtu, -⟩ := registerConnMtu_eq connId mtu w.context.state
      show (w.context.state.registerConnMtu connId mtu).handles = w.context.state.handles
      rw [hmtu]
      rfl
  | connected connId addr => rfl
  | disconnected connId addr => rfl
  | subscribed ev conn response hcccd => rfl
  | unsubscribed ev conn response => rfl
  | stored ev => rfl
  | confirmed status connId => rfl
  | _ => cases hevent trivial

theorem handles_syncBtp (E : Btp β) (w : World β) : (w.syncBtp E).1.state.handles = w.state.handles := by
  rw [World.syncBtp_state]
  rfl

theorem handles_processIncoming (E : Btp β) (drv : Driver) (w : World β) :
    (processIncoming E drv w).world.state.handles = w.state.handles := by
  have hhandles := handles_syncBtp E w
  unfold processIncoming
  cases w.state.connection with
  | none => rfl
  | some conn =>
      dsimp only
      split
      · exact hhandles
      split
      · exact hhandles
      split
      · exact hhandles
      · exact hhandles

theorem handles_processOutgoing (E : Btp β) (drv : Driver) (w : World β) :
    (processOutgoing E drv w).world.state.handles = w.state.handles := by
  have hhandles := handles_syncBtp E w
  unfold processOutgoing
  split
  · split
    · rfl
    dsimp only
    split
    · exact hhandles
    split
    · exact hhandles
    split
    · split
      · exact hhandles
      · exact hhandles
    · exact hhandles
  · rfl

/-- **Nothing but the events of the registration has to do with it.** -/
theorem step_aside (cfg : Config) (E : Btp β) (w : World β) (s : Step β)
    (hs : ∀ gattIf event drv, s = .gatts gattIf event drv → event.Registers → event = .other) :
    (step cfg E w s).1.state.handles = w.state.handles ∧
      (step cfg E w s).2.filterMap Call.request? = [] := by
  cases s with
  | gap event drv =>
      refine ⟨?_, requests_of_quiet (quiet_gap drv event w)⟩
      show (onGapEvent drv event w).world.state.handles = w.state.handles
      rw [onGapEvent_world]
  | gatts gattIf event drv =>
      have hevent := hs gattIf event drv rfl
      refine ⟨handles_gatts cfg drv gattIf hevent w, requests_of_quiet fun call hcall => ?_⟩
      exact Call.quiet_of_madeFor (only_madeFor cfg drv gattIf event w call hcall) hevent
  | incoming drv =>
      have hquiet := exchanged_processIncoming E drv w
      simp only [step]
      split
      · exact ⟨handles_processIncoming E drv w,
          requests_of_quiet fun call hcall => Call.quiet_of_exchanged (hquiet call hcall)⟩
      · exact ⟨rfl, rfl⟩
  | outgoing drv =>
      have hquiet := exchanged_processOutgoing E drv w
      simp only [step]
      split
      · exact ⟨handles_processOutgoing E drv w,
          requests_of_quiet fun call hcall => Call.quiet_of_exchanged (hquiet call hcall)⟩
      · exact ⟨rfl, rfl⟩
  | matter btp => exact ⟨rfl, rfl⟩

/-! ### What the events of the registration lead to -/

/-- The handles after an event, and the requests that are made, at least up to the first call that fails. -/
structure Handled.Told (drv : Driver) (h : Handled β Unit) (handles : Handles) (requests : List Request) :
    Prop where
  knows : h.world.state.handles = handles
  asks : h.calls.filterMap Call.request? <+: requests
  all : (∀ call, drv call = .ok ()) → h.calls.filterMap Call.request? = requests

theorem told_perform (drv : Driver) (w : World β) (calls : List DriverCall) :
    (perform drv w calls).Told drv w.state.handles (calls.filterMap DriverCall.request?) := by
  obtain ⟨hpre, hall⟩ := requests_perform drv w calls
  exact ⟨by rw [perform_world], hpre, hall⟩

theorem told_nothing (drv : Driver) (w : World β) (result : Except EspError Unit) :
    (⟨w, [], result⟩ : Handled β Unit).Told drv w.state.handles [] :=
  ⟨rfl, List.prefix_rfl, fun _ => rfl⟩

section Told

variable (cfg : Config) (drv : Driver) (gattIf : GattInterface) (w : World β)

theorem told_registered :
    (onGattsEvent cfg drv gattIf (.serviceRegistered .ok cfg.appId) w).Told drv
      { w.state.handles with gattIf := some gattIf } [.createService gattIf] := by
  have hgoes : onGattsEvent cfg drv gattIf (.serviceRegistered .ok cfg.appId) w =
      createService cfg drv gattIf w := by
    rw [onGattsEvent, checkGattStatus, Handled.andThen, if_pos rfl]
    rfl
  rw [hgoes]
  exact told_perform drv _ _

theorem told_created (s : Handle) :
    (onGattsEvent cfg drv gattIf (.serviceCreated .ok s) w).Told drv
      { w.state.handles with service := some s }
      [.addCharacteristic s .c1, .addCharacteristic s .c2] :=
  told_perform drv _ _

theorem told_c1 {s : Handle} (hservice : w.state.handles.service = some s) (a : Handle) :
    (onGattsEvent cfg drv gattIf (.characteristicAdded .ok a s .c1) w).Told drv
      { w.state.handles with c1 := some a } [] := by
  have hown : ¬ w.state.serviceHandle ≠ some s := not_not_intro hservice
  have hgoes : onGattsEvent cfg drv gattIf (.characteristicAdded .ok a s .c1) w =
      ⟨w.setState { w.state with c1Handle := some a }, [], .ok ()⟩ := by
    simp only [onGattsEvent, checkGattStatus, Handled.andThen, registerCharacteristic, if_neg hown, if_true,
      List.nil_append]
  rw [hgoes]
  exact told_nothing drv _ _

theorem told_c2 {s : Handle} (hservice : w.state.handles.service = some s) (b : Handle) :
    (onGattsEvent cfg drv gattIf (.characteristicAdded .ok b s .c2) w).Told drv
      { w.state.handles with c2 := some b } [.addDescriptor s .cccd] := by
  have hown : ¬ w.state.serviceHandle ≠ some s := not_not_intro hservice
  have hgoes : onGattsEvent cfg drv gattIf (.characteristicAdded .ok b s .c2) w =
      perform drv (w.setState { w.state with c2Handle := some b })
        [.addDescriptor s { uuid := .cccd, permissions := [.read, .write] }] := by
    simp only [onGattsEvent, checkGattStatus, Handled.andThen, registerCharacteristic, if_neg hown,
      reduceCtorEq, if_false, if_true, List.nil_append]
  rw [hgoes]
  exact told_perform drv _ _

theorem told_cccd {s : Handle} (hservice : w.state.handles.service = some s) (d : Handle) :
    (onGattsEvent cfg drv gattIf (.descriptorAdded .ok d s .cccd) w).Told drv
      { w.state.handles with c2Cccd := some d } [] := by
  have hregisters : registerCccdDescriptor s d .cccd w =
      ⟨w.setState { w.state with c2CccdHandle := some d }, [], .ok ()⟩ := if_pos ⟨rfl, hservice⟩
  have hgoes : onGattsEvent cfg drv gattIf (.descriptorAdded .ok d s .cccd) w =
      ⟨w.setState { w.state with c2CccdHandle := some d }, [], .ok ()⟩ := by
    simp only [onGattsEvent, checkGattStatus, Handled.andThen, hregisters, List.nil_append]
  rw [hgoes]
  exact told_nothing drv _ _

end Told

/-- What the events of the registration say of how a request went. -/
def GattsEvent.succeeded : GattsEvent → Bool
  | .serviceRegistered status _ | .serviceCreated status _ | .characteristicAdded status _ _ _
  | .descriptorAdded status _ _ _ => decide (status = .ok)
  | _ => true

theorem told_failed (cfg : Config) (drv : Driver) (gattIf : GattInterface) {event : GattsEvent}
    (hfailed : event.succeeded = false) (w : World β) :
    (onGattsEvent cfg drv gattIf event w).Told drv w.state.handles [] := by
  have hstatus : ∀ status : GattStatus, decide (status = .ok) = false → ∃ code, status = .failed code := by
    intro status h
    cases status with
    | ok => cases h
    | failed code => exact ⟨code, rfl⟩
  cases event with
  | serviceRegistered status appId =>
      obtain ⟨code, rfl⟩ := hstatus status hfailed
      exact told_nothing drv w _
  | serviceCreated status s =>
      obtain ⟨code, rfl⟩ := hstatus status hfailed
      exact told_nothing drv w _
  | characteristicAdded status a s uuid =>
      obtain ⟨code, rfl⟩ := hstatus status hfailed
      exact told_nothing drv w _
  | descriptorAdded status a s uuid =>
      obtain ⟨code, rfl⟩ := hstatus status hfailed
      exact told_nothing drv w _
  | _ => cases hfailed

/-! ### The course of the registration -/

/-- The request for the second characteristic, unless it was never made. -/
def second (s : Handle) (more : Bool) : List Request := if more then [.addCharacteristic s .c2] else []

/-- The attributes before the second characteristic; the first one may have failed. -/
def begun (s : Handle) (c1 : Option Handle) : Attributes :=
  .service s :: (c1.map fun a => Attribute.characteristic s a .c1).toList

/-- How far the registration has come: what the peripheral knows, the requests and the successful events on
their way, the attributes, and whether nothing has failed. -/
inductive Stage (appId : UInt16) (g : GattInterface) :
    Handles → List Request → List GattsEvent → Attributes → Bool → Prop where
  | asking : Stage appId g .unknown [.registerApp appId] [] [] true
  | registered : Stage appId g .unknown [] [.serviceRegistered .ok appId] [] true
  | creating : Stage appId g ⟨some g, none, none, none, none⟩ [.createService g] [] [] true
  | created (s : Handle) :
      Stage appId g ⟨some g, none, none, none, none⟩ [] [.serviceCreated .ok s] [.service s] true
  | adding (s : Handle) (more : Bool) :
      Stage appId g ⟨some g, some s, none, none, none⟩ (.addCharacteristic s .c1 :: second s more) []
        [.service s] more
  | added (s a : Handle) (more : Bool) :
      Stage appId g ⟨some g, some s, none, none, none⟩ (second s more) [.characteristicAdded .ok a s .c1]
        (begun s (some a)) more
  | addedBoth (s a b : Handle) :
      Stage appId g ⟨some g, some s, none, none, none⟩ []
        [.characteristicAdded .ok a s .c1, .characteristicAdded .ok b s .c2]
        (begun s (some a) ++ [.characteristic s b .c2]) true
  | addingSecond (s : Handle) (c1 : Option Handle) :
      Stage appId g ⟨some g, some s, c1, none, none⟩ [.addCharacteristic s .c2] [] (begun s c1) c1.isSome
  | addedSecond (s : Handle) (c1 : Option Handle) (b : Handle) :
      Stage appId g ⟨some g, some s, c1, none, none⟩ [] [.characteristicAdded .ok b s .c2]
        (begun s c1 ++ [.characteristic s b .c2]) c1.isSome
  | describing (s : Handle) (c1 : Option Handle) (b : Handle) :
      Stage appId g ⟨some g, some s, c1, some b, none⟩ [.addDescriptor s .cccd] []
        (begun s c1 ++ [.characteristic s b .c2]) c1.isSome
  | described (s : Handle) (c1 : Option Handle) (b d : Handle) :
      Stage appId g ⟨some g, some s, c1, some b, none⟩ [] [.descriptorAdded .ok d s .cccd]
        (begun s c1 ++ [.characteristic s b .c2, .descriptor s (some b) d .cccd]) c1.isSome
  | complete (s : Handle) (c1 : Option Handle) (b d : Handle) :
      Stage appId g ⟨some g, some s, c1, some b, some d⟩ [] []
        (begun s c1 ++ [.characteristic s b .c2, .descriptor s (some b) d .cccd]) c1.isSome
  | stalled (h : Handles) (attributes : Attributes) (hsound : h.Sound attributes)
      (honce : (attributes.map Attribute.kind).Sublist serviceKinds) : Stage appId g h [] [] attributes false

theorem Handles.sound_of_no_service {h : Handles} {attributes : Attributes} (hservice : h.service = none)
    (hc1 : h.c1 = none) (hc2 : h.c2 = none) (hcccd : h.c2Cccd = none) : h.Sound attributes where
  service := by simp [hservice]
  c1 := by simp [hc1]
  c2 := by simp [hc2]
  c2Cccd := by simp [hcccd]

theorem mem_begun (s : Handle) (c1 : Option Handle) : .service s ∈ begun s c1 := List.mem_cons_self

theorem mem_begun_c1 (s a : Handle) : .characteristic s a .c1 ∈ begun s (some a) := by
  rw [begun]
  exact List.mem_cons_of_mem _ (List.mem_singleton.mpr rfl)

/-- What is known of the service and of the first characteristic. -/
theorem sound_begun (g : Option GattInterface) (s : Handle) (c1 : Option Handle) (later : Attributes) :
    Handles.Sound ⟨g, some s, c1, none, none⟩ (begun s c1 ++ later) where
  service := by
    rintro a ⟨⟩
    exact List.mem_append_left _ (mem_begun s c1)
  c1 := by
    rintro a ⟨⟩
    exact ⟨s, rfl, List.mem_append_left _ (mem_begun_c1 s a)⟩
  c2 := nofun
  c2Cccd := nofun

theorem sound_second (g : Option GattInterface) (s : Handle) (c1 : Option Handle) (b : Handle)
    (later : Attributes) :
    Handles.Sound ⟨g, some s, c1, some b, none⟩ (begun s c1 ++ .characteristic s b .c2 :: later) where
  service := (sound_begun g s c1 _).service
  c1 := (sound_begun g s c1 _).c1
  c2 := by
    rintro a ⟨⟩
    exact ⟨s, rfl, List.mem_append_right _ List.mem_cons_self⟩
  c2Cccd := nofun

theorem sound_complete (g : Option GattInterface) (s : Handle) (c1 : Option Handle) (b d : Handle) :
    Handles.Sound ⟨g, some s, c1, some b, some d⟩
      (begun s c1 ++ [.characteristic s b .c2, .descriptor s (some b) d .cccd]) where
  service := (sound_second g s c1 b _).service
  c1 := (sound_second g s c1 b _).c1
  c2 := (sound_second g s c1 b _).c2
  c2Cccd := by
    rintro a ⟨⟩
    exact ⟨s, rfl, nofun, List.mem_append_right _ (List.mem_cons_of_mem _ List.mem_cons_self)⟩

section Stages

variable {appId : UInt16} {g : GattInterface} {h : Handles} {requests : List Request}
  {events : List GattsEvent} {attributes : Attributes} {fine : Bool}

theorem Stage.sound (hstage : Stage appId g h requests events attributes fine) : h.Sound attributes := by
  cases hstage with
  | asking => exact Handles.sound_of_no_service rfl rfl rfl rfl
  | registered => exact Handles.sound_of_no_service rfl rfl rfl rfl
  | creating => exact Handles.sound_of_no_service rfl rfl rfl rfl
  | created s => exact Handles.sound_of_no_service rfl rfl rfl rfl
  | adding s more => exact sound_begun (some g) s none []
  | added s a more =>
      exact ⟨(sound_begun (some g) s none _).service, nofun, nofun, nofun⟩
  | addedBoth s a b => exact ⟨(sound_begun (some g) s none _).service, nofun, nofun, nofun⟩
  | addingSecond s c1 =>
      have hsound := sound_begun (some g) s c1 []
      rwa [List.append_nil] at hsound
  | addedSecond s c1 b => exact sound_begun (some g) s c1 _
  | describing s c1 b => exact sound_second (some g) s c1 b []
  | described s c1 b d => exact sound_second (some g) s c1 b _
  | complete s c1 b d => exact sound_complete (some g) s c1 b d
  | stalled h attributes hsound honce => exact hsound

/-- At every stage some of the attributes are there, each of them once. -/
theorem Stage.once (hstage : Stage appId g h requests events attributes fine) :
    (attributes.map Attribute.kind).Sublist serviceKinds := by
  have hbegun : ∀ s c1 later,
      (later.map Attribute.kind).Sublist [.characteristic .c2, .descriptor .cccd] →
        ((begun s c1 ++ later).map Attribute.kind).Sublist serviceKinds := by
    intro s c1 later hlater
    have hfirst : ((begun s c1).map Attribute.kind).Sublist [.service, .characteristic .c1] := by
      cases c1 with
      | none => exact (by decide : [AttributeKind.service].Sublist [.service, .characteristic .c1])
      | some a => exact List.Sublist.refl _
    rw [List.map_append]
    exact hfirst.append hlater
  have hsecond : [AttributeKind.characteristic .c2].Sublist [.characteristic .c2, .descriptor .cccd] := by
    decide
  have hservice : [AttributeKind.service].Sublist serviceKinds := by decide
  cases hstage with
  | asking | registered | creating => exact List.nil_sublist _
  | created s | adding s more => exact hservice
  | added s a more => exact List.append_nil (begun s (some a)) ▸ hbegun s (some a) [] (List.nil_sublist _)
  | addedBoth s a b => exact hbegun s (some a) _ hsecond
  | addingSecond s c1 => exact List.append_nil (begun s c1) ▸ hbegun s c1 [] (List.nil_sublist _)
  | addedSecond s c1 b | describing s c1 b => exact hbegun s c1 _ hsecond
  | described s c1 b d | complete s c1 b d => exact hbegun s c1 _ (List.Sublist.refl _)
  | stalled h attributes hsound honce => exact honce

/-- Where nothing has failed and nothing is on its way, everything is known. -/
theorem Stage.done (hstage : Stage appId g h requests events attributes fine) (hfine : fine = true)
    (hrequests : requests = []) (hevents : events = []) :
    ∃ s a b d, h = ⟨some g, some s, some a, some b, some d⟩ ∧
      attributes = [.service s, .characteristic s a .c1, .characteristic s b .c2,
        .descriptor s (some b) d .cccd] := by
  cases hstage with
  | complete s c1 b d =>
      obtain ⟨a, rfl⟩ := Option.isSome_iff_exists.mp hfine
      exact ⟨s, a, b, d, rfl, rfl⟩
  | stalled h attributes hsound honce => cases hfine
  | asking => cases hrequests
  | creating => cases hrequests
  | adding s more => cases hrequests
  | addingSecond s c1 => cases hrequests
  | describing s c1 b => cases hrequests
  | _ => cases hevents

theorem owner_second (s : Handle) (c1 : Option Handle) (b : Handle) :
    Attributes.owner (begun s c1 ++ [.characteristic s b .c2]) = some b := by
  rw [Attributes.owner, List.filterMap_append]
  exact List.getLast?_concat

theorem eq_of_prefix_singleton {α : Type} {xs : List α} {x : α} (h : xs <+: [x]) : xs = [] ∨ xs = [x] := by
  rcases List.prefix_cons_iff.mp h with rfl | ⟨ys, rfl, hys⟩
  · exact .inl rfl
  · rw [List.prefix_nil.mp hys]
    exact .inr rfl

/-- A request is carried out. -/
theorem Stage.carriesOut {request : Request}
    (hstage : Stage appId g h (request :: requests) events attributes fine) (handle : Handle) :
    Stage appId g h requests (events ++ [request.event .ok handle]) (request.adds attributes handle) fine := by
  generalize hasked : request :: requests = asked at hstage
  cases hstage with
  | asking =>
      cases hasked
      exact .registered
  | creating =>
      cases hasked
      exact .created handle
  | adding s _ =>
      cases hasked
      exact .added s handle fine
  | added s a _ =>
      cases fine with
      | false => cases hasked
      | true =>
          cases hasked
          exact .addedBoth s a handle
  | addingSecond s c1 =>
      cases hasked
      exact .addedSecond s c1 handle
  | describing s c1 b =>
      cases hasked
      have howner := owner_second s c1 b
      rw [Request.adds, howner, List.append_assoc]
      exact .described s c1 b handle
  | _ => cases hasked

/-- A request fails. -/
theorem Stage.fails {request : Request}
    (hstage : Stage appId g h (request :: requests) events attributes fine) :
    Stage appId g h requests events attributes false := by
  have hsound := hstage.sound
  have honce := hstage.once
  generalize hasked : request :: requests = asked at hstage
  cases hstage with
  | asking =>
      cases hasked
      exact .stalled _ _ hsound honce
  | creating =>
      cases hasked
      exact .stalled _ _ hsound honce
  | adding s _ =>
      cases fine with
      | false =>
          cases hasked
          exact .stalled _ _ hsound honce
      | true =>
          cases hasked
          exact .addingSecond s none
  | added s a _ =>
      cases fine with
      | false => cases hasked
      | true =>
          cases hasked
          exact .added s a false
  | addingSecond s c1 =>
      cases hasked
      exact .stalled _ _ hsound honce
  | describing s c1 b =>
      cases hasked
      exact .stalled _ _ hsound honce
  | _ => cases hasked

/-- The peripheral is told of a success, and makes the next requests, or some of them. -/
theorem Stage.told {cfg : Config} {event : GattsEvent}
    (hstage : Stage cfg.appId g h requests (event :: events) attributes fine) (drv : Driver) (w : World β)
    (hh : w.state.handles = h) :
    ∃ h' asked, (onGattsEvent cfg drv g event w).Told drv h' asked ∧ ∀ made, made <+: asked →
      ∃ fine', Stage cfg.appId g h' (requests ++ made) events attributes fine' ∧
        (fine = true → made = asked → fine' = true) := by
  have honce := hstage.once
  subst hh
  generalize hknown : w.state.handles = h at hstage
  generalize hlive : event :: events = live at hstage
  cases hstage with
  | registered =>
      cases hlive
      refine ⟨_, _, told_registered cfg drv g w, fun made hmade => ?_⟩
      rw [hknown]
      rcases eq_of_prefix_singleton hmade with rfl | rfl
      · refine ⟨false, .stalled _ _ (Handles.sound_of_no_service rfl rfl rfl rfl) honce, fun _ hnone => ?_⟩
        cases hnone
      · exact ⟨true, .creating, fun _ _ => rfl⟩
  | created s =>
      cases hlive
      refine ⟨_, _, told_created cfg drv g w s, fun made hmade => ?_⟩
      rw [hknown]
      rcases List.prefix_cons_iff.mp hmade with rfl | ⟨later, rfl, hlater⟩
      · exact ⟨false, .stalled _ _ (sound_begun (some g) s none []) honce, fun _ hnone => by cases hnone⟩
      rcases eq_of_prefix_singleton hlater with rfl | rfl
      · exact ⟨false, .adding s false, fun _ hsome => by cases hsome⟩
      · exact ⟨true, .adding s true, fun _ _ => rfl⟩
  | added s a _ =>
      cases hlive
      refine ⟨_, _, told_c1 cfg drv g w (by rw [hknown]) a, fun made hmade => ?_⟩
      rw [hknown, List.prefix_nil.mp hmade, List.append_nil]
      cases fine with
      | false => exact ⟨false, .stalled _ _ (sound_begun (some g) s (some a) []) honce, fun hfine _ => hfine⟩
      | true => exact ⟨true, .addingSecond s (some a), fun _ _ => rfl⟩
  | addedBoth s a b =>
      cases hlive
      refine ⟨_, _, told_c1 cfg drv g w (by rw [hknown]) a, fun made hmade => ?_⟩
      rw [hknown, List.prefix_nil.mp hmade]
      exact ⟨true, .addedSecond s (some a) b, fun _ _ => rfl⟩
  | addedSecond s c1 b =>
      cases hlive
      refine ⟨_, _, told_c2 cfg drv g w (by rw [hknown]) b, fun made hmade => ?_⟩
      rw [hknown]
      rcases eq_of_prefix_singleton hmade with rfl | rfl
      · exact ⟨false, .stalled _ _ (sound_second (some g) s c1 b []) honce, fun _ hnone => by cases hnone⟩
      · exact ⟨_, .describing s c1 b, fun hfine _ => hfine⟩
  | described s c1 b d =>
      cases hlive
      refine ⟨_, _, told_cccd cfg drv g w (by rw [hknown]) d, fun made hmade => ?_⟩
      rw [hknown, List.prefix_nil.mp hmade]
      exact ⟨_, .complete s c1 b d, fun hfine _ => hfine⟩
  | _ => cases hlive

end Stages

/-! ### Runs -/

/-- Nothing that the step does fails. -/
def Registering.Succeeds : Registering β → Prop
  | .carryOut (.error _) => False
  | .tell drv => ∀ call, drv call = .ok ()
  | _ => True

/-- The registration is at some stage; a failure is only reported, and changes nothing. -/
structure Registration.OnCourse (cfg : Config) (g : GattInterface) (R : Registration β) (fine : Bool) :
    Prop where
  stage : Stage cfg.appId g R.world.state.handles R.requests (R.events.filter GattsEvent.succeeded)
    R.attributes fine
  distinct : (R.attributes.map Attribute.handle).Nodup

section Runs

variable {cfg : Config} {g : GattInterface} {R : Registration β} {fine : Bool}

theorem succeeded_event (request : Request) (handle : Handle) :
    (request.event .ok handle).succeeded = true := by
  cases request <;> rfl

theorem failed_event (request : Request) (code : Nat) :
    (request.event (.failed code) 0).succeeded = false := by
  cases request <;> rfl

theorem nodup_adds (request : Request) {attributes : Attributes} {handle : Handle}
    (hnodup : (attributes.map Attribute.handle).Nodup) (hnew : handle ∉ attributes.map Attribute.handle) :
    ((request.adds attributes handle).map Attribute.handle).Nodup := by
  have hconcat : ∀ a : Attribute, a.handle = handle →
      ((attributes ++ [a]).map Attribute.handle).Nodup := by
    rintro a rfl
    rw [List.map_append]
    exact List.nodup_append.mpr ⟨hnodup, List.nodup_singleton _, fun x hx y hy hxy => hnew (by
      rw [List.map_singleton, List.mem_singleton] at hy
      rwa [hxy, hy] at hx)⟩
  cases request with
  | registerApp appId => exact hnodup
  | createService gattIf => exact hconcat _ rfl
  | addCharacteristic s uuid => exact hconcat _ rfl
  | addDescriptor s uuid => exact hconcat _ rfl

theorem Registration.OnCourse.carryOut (h : R.OnCourse cfg g fine) (result : Except Nat Handle)
    (hhonest : R.Honest (.carryOut result)) :
    ∃ fine', (R.carryOut result).OnCourse cfg g fine' ∧
      (fine = true → Registering.Succeeds (β := β) (.carryOut result) → fine' = true) := by
  obtain ⟨hstage, hnodup⟩ := h
  unfold Registration.carryOut
  cases hrequests : R.requests with
  | nil => exact ⟨fine, ⟨hstage, hnodup⟩, fun hfine _ => hfine⟩
  | cons request requests =>
      rw [hrequests] at hstage
      cases result with
      | ok handle =>
          refine ⟨fine, ⟨?_, nodup_adds request hnodup hhonest⟩, fun hfine _ => hfine⟩
          rw [List.filter_append, List.filter_singleton, succeeded_event]
          exact hstage.carriesOut handle
      | error code =>
          refine ⟨false, ⟨?_, hnodup⟩, fun _ hsucceeds => hsucceeds.elim⟩
          rw [List.filter_append, List.filter_singleton, failed_event]
          show Stage cfg.appId g R.world.state.handles requests (_ ++ []) R.attributes false
          rw [List.append_nil]
          exact hstage.fails

theorem Registration.OnCourse.tell (h : R.OnCourse cfg g fine) (drv : Driver) :
    ∃ fine', (R.tell cfg g drv).1.OnCourse cfg g fine' ∧
      (fine = true → Registering.Succeeds (β := β) (.tell drv) → fine' = true) := by
  obtain ⟨hstage, hnodup⟩ := h
  unfold Registration.tell
  cases hevents : R.events with
  | nil => exact ⟨fine, ⟨hstage, hnodup⟩, fun hfine _ => hfine⟩
  | cons event events =>
      rw [hevents] at hstage
      cases hsucceeded : event.succeeded with
      | false =>
          obtain ⟨hknows, hasks, -⟩ := told_failed cfg drv g hsucceeded R.world
          rw [List.filter_cons_of_neg (by rw [hsucceeded]; exact Bool.false_ne_true)] at hstage
          refine ⟨fine, ⟨?_, hnodup⟩, fun hfine _ => hfine⟩
          show Stage cfg.appId g (onGattsEvent cfg drv g event R.world).world.state.handles
            (R.requests ++ (onGattsEvent cfg drv g event R.world).calls.filterMap Call.request?) _
            R.attributes fine
          rw [hknows, List.prefix_nil.mp hasks, List.append_nil]
          exact hstage
      | true =>
          rw [List.filter_cons_of_pos hsucceeded] at hstage
          obtain ⟨handles, asked, htold, hnext⟩ := hstage.told drv R.world rfl
          obtain ⟨fine', hstage', hfine⟩ := hnext _ htold.asks
          refine ⟨fine', ⟨?_, hnodup⟩, fun h hsucceeds => hfine h (htold.all hsucceeds)⟩
          show Stage cfg.appId g (onGattsEvent cfg drv g event R.world).world.state.handles _ _ _ _
          rw [htold.knows]
          exact hstage'

theorem Registration.OnCourse.step (E : Btp β) (h : R.OnCourse cfg g fine) (action : Registering β)
    (hhonest : R.Honest action) :
    ∃ fine', (R.step cfg E g action).1.OnCourse cfg g fine' ∧
      (fine = true → action.Succeeds → fine' = true) := by
  cases action with
  | carryOut result => exact h.carryOut result hhonest
  | tell drv => exact h.tell drv
  | other s =>
      obtain ⟨hhandles, hquiet⟩ := step_aside cfg E R.world s fun gattIf event drv hs => by
        subst hs
        exact hhonest
      refine ⟨fine, ⟨?_, h.distinct⟩, fun hfine _ => hfine⟩
      show Stage cfg.appId g (Bluedroid.step cfg E R.world s).1.state.handles
        (R.requests ++ (Bluedroid.step cfg E R.world s).2.filterMap Call.request?) _ R.attributes fine
      rw [hhandles, hquiet, List.append_nil]
      exact h.stage

theorem onCourse_new (cfg : Config) (g : GattInterface) (c : Context) (btp : β) :
    (Registration.new cfg c btp).OnCourse cfg g true :=
  ⟨.asking, List.nodup_nil⟩

/-- **Whatever fails and whatever comes in between, the handles that the peripheral goes by are those of its own
attributes: of `C1`, of `C2` and of the CCCD of `C2`.** Each of these is there at most once, in this order, and
no two handles are the same. -/
theorem registration_sound (cfg : Config) (E : Btp β) (g : GattInterface) (c : Context) (btp : β)
    (actions : List (Registering β))
    (hhonest : Along (Registration.step cfg E g) Registration.Honest (.new cfg c btp) actions) :
    let R := after (Registration.step cfg E g) (.new cfg c btp) actions
    R.world.state.handles.Sound R.attributes ∧ (R.attributes.map Attribute.kind).Sublist serviceKinds ∧
      (R.attributes.map Attribute.handle).Nodup := by
  intro R
  have hcourse : ∃ fine, R.OnCourse cfg g fine := by
    refine invariant_after (I := fun R => ∃ fine, Registration.OnCourse cfg g R fine)
      (fun R action hR hhonest => ?_) ⟨true, onCourse_new cfg g c btp⟩ hhonest
    obtain ⟨fine, hR⟩ := hR
    obtain ⟨fine', hnext, -⟩ := hR.step E action hhonest
    exact ⟨fine', hnext⟩
  obtain ⟨fine, hR⟩ := hcourse
  exact ⟨hR.stage.sound, hR.stage.once, hR.distinct⟩

/-- **If nothing fails, the service has been registered in full once the stack has nothing left to do.** -/
theorem registration_completes (cfg : Config) (E : Btp β) (g : GattInterface) (c : Context) (btp : β)
    (actions : List (Registering β))
    (hrun : Along (Registration.step cfg E g) (fun R action => R.Honest action ∧ action.Succeeds)
      (.new cfg c btp) actions) :
    let R := after (Registration.step cfg E g) (.new cfg c btp) actions
    R.requests = [] → R.events = [] →
      ∃ s a b d, R.world.state.handles = ⟨some g, some s, some a, some b, some d⟩ ∧
        R.attributes = [.service s, .characteristic s a .c1, .characteristic s b .c2,
          .descriptor s (some b) d .cccd] := by
  intro R hrequests hevents
  have hcourse : R.OnCourse cfg g true := by
    refine invariant_after (I := fun R => Registration.OnCourse cfg g R true)
      (fun R action hR hgo => ?_) (onCourse_new cfg g c btp) hrun
    obtain ⟨fine', hnext, hfine⟩ := hR.step E action hgo.1
    rwa [hfine rfl hgo.2] at hnext
  have hevents' : R.events.filter GattsEvent.succeeded = [] := by
    rw [hevents]
    rfl
  exact hcourse.stage.done rfl hrequests hevents'

end Runs

/-- A peer connects while the characteristics are being added. -/
def servingActions : List (Registering (List Buffer)) :=
  [.carryOut (.ok 0), .tell .succeeding, .carryOut (.ok 40), .tell .succeeding, .carryOut (.ok 42),
    .other (.gatts 3 (.peerConnected 1 ⟨.replicate 6 7⟩) .succeeding), .carryOut (.ok 44), .tell .succeeding,
    .tell .succeeding, .carryOut (.ok 45), .tell .succeeding]

theorem honest_serving :
    Along (Registration.step someConfig .queue 3) (fun R action => R.Honest action ∧ action.Succeeds)
      (.new someConfig .new []) servingActions :=
  ⟨⟨List.not_mem_nil, trivial⟩, ⟨trivial, fun _ => rfl⟩, ⟨List.not_mem_nil, trivial⟩, ⟨trivial, fun _ => rfl⟩,
    ⟨show (42 : Handle) ∉ [40] by decide, trivial⟩, ⟨fun h => h.elim, trivial⟩,
    ⟨show (44 : Handle) ∉ [40, 42] by decide, trivial⟩, ⟨trivial, fun _ => rfl⟩, ⟨trivial, fun _ => rfl⟩,
    ⟨show (45 : Handle) ∉ [40, 42, 44] by decide, trivial⟩, ⟨trivial, fun _ => rfl⟩, trivial⟩

theorem registration_sound_serving :
    let R := after (Registration.step someConfig .queue 3) (.new someConfig .new []) servingActions
    R.world.state.handles.Sound R.attributes ∧ (R.attributes.map Attribute.kind).Sublist serviceKinds ∧
      (R.attributes.map Attribute.handle).Nodup :=
  registration_sound someConfig .queue 3 .new [] servingActions
    (honest_serving.mono fun _ _ hgo => hgo.1)

theorem registration_completes_serving :
    let R := after (Registration.step someConfig .queue 3) (.new someConfig .new []) servingActions
    ∃ s a b d, R.world.state.handles = ⟨some 3, some s, some a, some b, some d⟩ ∧
      R.attributes = [.service s, .characteristic s a .c1, .characteristic s b .c2,
        .descriptor s (some b) d .cccd] :=
  registration_completes someConfig .queue 3 .new [] servingActions honest_serving (by decide +kernel)
    (by decide +kernel)

end EspIdfMatter.Bluedroid
