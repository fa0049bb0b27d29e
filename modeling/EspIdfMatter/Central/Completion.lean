import EspIdfMatter.Central.Handles
import EspIdfMatter.Central.Waits

/-! The setup of the client with a peer, up to its end. The host carries out what it is asked for and reports on
it, event by event; `run` goes on whenever it is polled. -/

namespace EspIdfMatter.Central

open Library Library.Machine Nimble

variable {β : Type}

/-! ### The peer -/

/-- A peer, as the host finds it. -/
structure Peer where
  conn : Handle
  found : Except BleError BtAddr
  attMtu : Except BleError UInt16
  services : List BleGattService
  chrs : List BleGattChr

/-- The range of the Matter service that is found last. -/
def matterRange (services : List BleGattService) : Option (Handle × Handle) :=
  services.foldl
    (fun range service =>
      if service.uuid = .matterService then some (service.startHandle, service.endHandle) else range) none

/-- The `C1` and the `C2` that are found last. -/
def charVals (chrs : List BleGattChr) : Option Handle × Option Handle :=
  chrs.foldl
    (fun vals chr =>
      if chr.uuid = .c1 then
        (some chr.valHandle, vals.2)
      else if chr.uuid = .c2 then
        (vals.1, some chr.valHandle)
      else
        vals) (none, none)

/-- What a setup comes to. -/
inductive Outcome where
  /-- the pumps run, and write to this `C1` -/
  | pumping (c1Val : Handle)
  /-- `run` returns an error -/
  | refused
  deriving DecidableEq

namespace Peer

def chrsIn (peer : Peer) (startHandle endHandle : Handle) : List BleGattChr :=
  peer.chrs.filter fun chr => decide (startHandle ≤ chr.valHandle ∧ chr.valHandle ≤ endHandle)

/-- The characteristics of the Matter service, if there is one. -/
def offered (peer : Peer) : List BleGattChr :=
  match matterRange peer.services with
  | none => []
  | some (startHandle, endHandle) => peer.chrsIn startHandle endHandle

/-- What a setup with this peer has to come to. -/
def outcome (peer : Peer) : Outcome :=
  match (charVals peer.offered).1, (charVals peer.offered).2 with
  | some c1Val, some _ => .pumping c1Val
  | _, _ => .refused

/-- There is a handle for the CCCD after the `C2` that is found last. -/
def CccdFollows (peer : Peer) : Prop := (charVals peer.offered).2 ≠ some 0xFFFF

instance (peer : Peer) : Decidable peer.CccdFollows := inferInstanceAs (Decidable (_ ≠ _))

def serviceReports (services : List BleGattService) : List Event :=
  services.map (fun service => .gattc (.service (some service))) ++ [.gattc (.service none)]

def charReports (chrs : List BleGattChr) : List Event :=
  chrs.map (fun chr => .gattc (.characteristic (some chr))) ++ [.gattc (.characteristic none)]

/-- What the host reports of what it was asked for. -/
def reports (peer : Peer) : Action → List Event
  | .connect _ => [.gap (.connect peer.conn (.ok ()) peer.found peer.attMtu)]
  | .discoverServices _ => serviceReports peer.services
  | .discoverCharacteristics _ startHandle endHandle => charReports (peer.chrsIn startHandle endHandle)
  | .subscribe _ attr _ (.ok ()) => [.gattc (.writeComplete attr 0)]
  | .call (.write _ attr _ (.ok ())) => [.gattc (.writeComplete attr 0)]
  | _ => []

end Peer

/-- A client, and the reports that it has not been told yet. -/
structure Setup (β : Type) where
  client : Client β
  events : List Event

/-- A host that was just started reports that it is in sync with the controller. -/
def Setup.new (btp : β) : Setup β where
  client := .fresh btp
  events := [.host .sync]

namespace Setup

inductive Step (β : Type) where
  | run (answers : Answers)
  /-- the client is told of the next report, once its hooks are subscribed -/
  | tell
  /-- the client is told of something else -/
  | aside (event : Event)
  | incoming
  | outgoing (result : Except BleError Unit)
  | matter (btp : β)

def goOn (peer : Peer) (S : Setup β) (next : Client β × List Action) : Setup β × List Action :=
  ({ client := next.1, events := S.events ++ next.2.flatMap peer.reports }, next.2)

def tell (peer : Peer) (E : Btp β) (addr : BtAddr) (S : Setup β) : Setup β × List Action :=
  if S.client.phase = .start then
    (S, [])
  else
    match S.events with
    | [] => (S, [])
    | event :: events => { S with events }.goOn peer (S.client.step E addr (.event event))

def step (peer : Peer) (E : Btp β) (addr : BtAddr) (S : Setup β) : Step β → Setup β × List Action
  | .run answers => S.goOn peer (S.client.step E addr (.run answers))
  | .tell => S.tell peer E addr
  | .aside event => S.goOn peer (S.client.step E addr (.event event))
  | .incoming => S.goOn peer (S.client.step E addr .incoming)
  | .outgoing result => S.goOn peer (S.client.step E addr (.outgoing result))
  | .matter btp => S.goOn peer (S.client.step E addr (.matter btp))

/-- An event that has nothing to do with the setup. -/
def Idle : Event → Prop
  | .host .other | .gap (.mtu _ _) | .gap .other | .gattc (.notify _ _) | .gattc .readComplete => True
  | _ => False

/-- The driver does what it is asked for, and the link is not lost. -/
def Step.Succeeds : Step β → Prop
  | .run answers => answers = .succeeding
  | .aside event => Idle event
  | _ => True

end Setup

/-! ### What is found -/

/-- What the setup has found out. -/
@[ext] structure Found where
  synced : Bool
  connHandle : Option Handle
  failed : Bool
  matterRange : Option (Handle × Handle)
  servicesDone : Bool
  c1Val : Option Handle
  c2Val : Option Handle
  charsDone : Bool
  subscribed : Bool
  deriving DecidableEq

def State.found (s : State) : Found where
  synced := s.synced
  connHandle := s.connHandle
  failed := s.failed
  matterRange := s.matterRange
  servicesDone := s.servicesDone
  c1Val := s.c1Val
  c2Val := s.c2Val
  charsDone := s.charsDone
  subscribed := s.subscribed

def Found.nothing : Found := ⟨false, none, false, none, false, none, none, false, false⟩

namespace Found

def inSync : Found := { nothing with synced := true }

def joined (conn : Handle) (range : Option (Handle × Handle)) : Found :=
  { inSync with connHandle := some conn, matterRange := range }

def searched (conn : Handle) (range : Option (Handle × Handle)) (vals : Option Handle × Option Handle) : Found :=
  { joined conn range with servicesDone := true, c1Val := vals.1, c2Val := vals.2 }

def complete (conn : Handle) (range : Option (Handle × Handle)) (vals : Option Handle × Option Handle) : Found :=
  { searched conn range vals with charsDone := true }

end Found

/-! ### The stages -/

variable {peer : Peer}

/-- Where `run` is, what it has found out, and the reports that it has not been told yet. -/
inductive Stage (peer : Peer) : Phase → Found → List Event → Prop where
  | start : Stage peer .start .nothing [.host .sync]
  | starting (blocked : Bool) : Stage peer (.wait .synced blocked) .nothing [.host .sync]
  | started (blocked : Bool) : Stage peer (.wait .synced blocked) .inSync []
  | connect : Stage peer .connect .inSync []
  | connecting (blocked : Bool) :
      Stage peer (.wait .connected blocked) .inSync
        [.gap (.connect peer.conn (.ok ()) peer.found peer.attMtu)]
  | connected (blocked : Bool) : Stage peer (.wait .connected blocked) (.joined peer.conn none) []
  | readConnHandle : Stage peer .readConnHandle (.joined peer.conn none) []
  | discoverServices : Stage peer (.discoverServices peer.conn) (.joined peer.conn none) []
  | searching (blocked : Bool) {told rest : List BleGattService} (h : told ++ rest = peer.services) :
      Stage peer (.wait (.services peer.conn) blocked) (.joined peer.conn (matterRange told))
        (Peer.serviceReports rest)
  | searched (blocked : Bool) :
      Stage peer (.wait (.services peer.conn) blocked)
        (.searched peer.conn (matterRange peer.services) (none, none)) []
  | readRange :
      Stage peer (.readRange peer.conn) (.searched peer.conn (matterRange peer.services) (none, none)) []
  | discoverCharacteristics {range : Handle × Handle} (hrange : matterRange peer.services = some range) :
      Stage peer (.discoverCharacteristics peer.conn range.1 range.2)
        (.searched peer.conn (some range) (none, none)) []
  | collecting (blocked : Bool) {range : Handle × Handle} {told rest : List BleGattChr}
      (h : told ++ rest = peer.offered) :
      Stage peer (.wait (.chars peer.conn) blocked) (.searched peer.conn (some range) (charVals told))
        (Peer.charReports rest)
  | collected (blocked : Bool) {range : Handle × Handle} :
      Stage peer (.wait (.chars peer.conn) blocked) (.complete peer.conn (some range) (charVals peer.offered)) []
  | readChars {range : Handle × Handle} :
      Stage peer (.readChars peer.conn) (.complete peer.conn (some range) (charVals peer.offered)) []
  | subscribe {range : Handle × Handle} {c1Val c2Val : Handle}
      (hvals : charVals peer.offered = (some c1Val, some c2Val)) :
      Stage peer (.subscribe peer.conn c1Val c2Val)
        (.complete peer.conn (some range) (some c1Val, some c2Val)) []
  | subscribing (blocked : Bool) {range : Handle × Handle} {c1Val c2Val : Handle}
      (hvals : charVals peer.offered = (some c1Val, some c2Val)) (hcccd : c2Val ≠ 0xFFFF) :
      Stage peer (.wait (.subscribed peer.conn c1Val c2Val) blocked)
        (.complete peer.conn (some range) (some c1Val, some c2Val)) [.gattc (.writeComplete (c2Val + 1) 0)]
  | subscribed (blocked : Bool) {range : Handle × Handle} {c1Val c2Val : Handle}
      (hvals : charVals peer.offered = (some c1Val, some c2Val)) (hcccd : c2Val ≠ 0xFFFF) :
      Stage peer (.wait (.subscribed peer.conn c1Val c2Val) blocked)
        { Found.complete peer.conn (some range) (some c1Val, some c2Val) with subscribed := true } []
  | checkFailed {range : Handle × Handle} {c1Val c2Val : Handle}
      (hvals : charVals peer.offered = (some c1Val, some c2Val)) (hcccd : c2Val ≠ 0xFFFF) :
      Stage peer (.checkFailed peer.conn c1Val)
        { Found.complete peer.conn (some range) (some c1Val, some c2Val) with subscribed := true } []
  | setInitiator {range : Handle × Handle} {c1Val c2Val : Handle}
      (hvals : charVals peer.offered = (some c1Val, some c2Val)) (hcccd : c2Val ≠ 0xFFFF) :
      Stage peer (.setInitiator peer.conn c1Val)
        { Found.complete peer.conn (some range) (some c1Val, some c2Val) with subscribed := true } []

/-- The client has come to this. -/
def Outcome.Reached (conn : Handle) (C : Client β) : Outcome → Prop
  | .pumping c1Val => C.phase = .pumping conn c1Val
  | .refused => C.phase = .stopped ∧ C.world.ended = some .noNetworkInterface

namespace Peer

theorem offered_of_range {range : Handle × Handle} (hrange : matterRange peer.services = some range) :
    peer.offered = peer.chrsIn range.1 range.2 := by
  rw [offered, hrange]

theorem outcome_of_vals {c1Val c2Val : Handle} (hvals : charVals peer.offered = (some c1Val, some c2Val)) :
    peer.outcome = .pumping c1Val := by
  rw [outcome, hvals]

theorem cccdFollows_iff {c1Val c2Val : Handle} (hvals : charVals peer.offered = (some c1Val, some c2Val)) :
    peer.CccdFollows ↔ c2Val ≠ 0xFFFF := by
  rw [CccdFollows, hvals]
  exact not_congr Option.some_inj

theorem outcome_of_missing (hmissing : (charVals peer.offered).1 = none ∨ (charVals peer.offered).2 = none) :
    peer.outcome = .refused := by
  unfold outcome
  split
  · rename_i hc1 hc2
    rw [hc1, hc2] at hmissing
    rcases hmissing with h | h
    · cases h
    · cases h
  · rfl

theorem outcome_of_no_range (hrange : matterRange peer.services = none) : peer.outcome = .refused := by
  apply outcome_of_missing
  rw [offered, hrange]
  exact .inl rfl

/-- The reports that were not asked for yet. -/
def toCome (peer : Peer) : Phase → Nat
  | .start | .wait .synced _ | .connect => 1 + (peer.offered.length + 1) + (peer.services.length + 1) + 1
  | .wait .connected _ | .readConnHandle | .discoverServices _ =>
      1 + (peer.offered.length + 1) + (peer.services.length + 1)
  | .wait (.services _) _ | .readRange _ | .discoverCharacteristics _ _ _ => 1 + (peer.offered.length + 1)
  | .wait (.chars _) _ | .readChars _ | .subscribe _ _ _ => 1
  | .wait (.subscribed _ _ _) _ | .checkFailed _ _ | .setInitiator _ _ | .pumping _ _ | .stopped => 0

theorem length_serviceReports (services : List BleGattService) :
    (serviceReports services).length = services.length + 1 := by
  rw [serviceReports, List.length_append, List.length_map, List.length_singleton]

theorem length_charReports (chrs : List BleGattChr) : (charReports chrs).length = chrs.length + 1 := by
  rw [charReports, List.length_append, List.length_map, List.length_singleton]

end Peer

/-! ### What `run` does -/

/-- The order in which `run` goes through its phases; in a wait it looks first, and blocks then. -/
def Phase.left : Phase → Nat
  | .start => 20
  | .wait .synced false => 19
  | .wait .synced true => 18
  | .connect => 17
  | .wait .connected false => 16
  | .wait .connected true => 15
  | .readConnHandle => 14
  | .discoverServices _ => 13
  | .wait (.services _) false => 12
  | .wait (.services _) true => 11
  | .readRange _ => 10
  | .discoverCharacteristics _ _ _ => 9
  | .wait (.chars _) false => 8
  | .wait (.chars _) true => 7
  | .readChars _ => 6
  | .subscribe _ _ _ => 5
  | .wait (.subscribed _ _ _) false => 4
  | .wait (.subscribed _ _ _) true => 3
  | .checkFailed _ _ => 2
  | .setInitiator _ _ => 1
  | .pumping _ _ | .stopped => 0

/-- `run` goes on to another phase, and asks for something. -/
structure Client.GoesOn (peer : Peer) (S : Client β) (events : List Event) (next : Client β × List Action)
    (asked : List Event) : Prop where
  asks : next.2.flatMap peer.reports = asked
  found : next.1.state.found = S.state.found
  running : next.1.world.aborted = S.world.aborted
  ended : next.1.world.ended = S.world.ended
  progress : next.1.world.context.notifyProgress = S.world.context.notifyProgress
  left : next.1.phase.left < S.phase.left
  toCome : peer.toCome next.1.phase + asked.length = peer.toCome S.phase
  stage : Stage peer next.1.phase S.state.found (events ++ asked)

section Advance

variable {S : Client β} {events : List Event}

/-- Unless it is blocked, `run` goes on, or it comes to what the peer makes of it. -/
theorem Stage.goesOn (hstage : Stage peer S.phase S.state.found events) (hcccd : peer.CccdFollows)
    (addr : BtAddr) (hawake : ∀ wait, S.phase ≠ .wait wait true) :
    peer.outcome.Reached peer.conn (S.advance addr .succeeding).1 ∨
      ∃ asked, S.GoesOn peer events (S.advance addr .succeeding) asked := by
  obtain ⟨⟨⟨s, progress, signalIn, signalOut⟩, btp, ended, aborted⟩, phase, outstanding⟩ := S
  obtain ⟨synced, connHandle, failed, mtu, peerAddr, range, servicesDone, c1Val, c2Val, charsDone, subscribed,
    inData, outData, outInflight⟩ := s
  change Stage peer phase ⟨synced, connHandle, failed, range, servicesDone, c1Val, c2Val, charsDone, subscribed⟩
    events at hstage
  cases hstage with
  | start => exact .inr ⟨_, rfl, rfl, rfl, rfl, rfl, Nat.le_of_ble_eq_true rfl, rfl, .starting false⟩
  | starting blocked =>
      cases blocked with
      | true => exact absurd rfl (hawake _)
      | false => exact .inr ⟨_, rfl, rfl, rfl, rfl, rfl, Nat.le_of_ble_eq_true rfl, rfl, .starting true⟩
  | started blocked =>
      cases blocked with
      | true => exact absurd rfl (hawake _)
      | false => exact .inr ⟨_, rfl, rfl, rfl, rfl, rfl, Nat.le_of_ble_eq_true rfl, rfl, .connect⟩
  | connect => exact .inr ⟨_, rfl, rfl, rfl, rfl, rfl, Nat.le_of_ble_eq_true rfl, rfl, .connecting false⟩
  | connecting blocked =>
      cases blocked with
      | true => exact absurd rfl (hawake _)
      | false => exact .inr ⟨_, rfl, rfl, rfl, rfl, rfl, Nat.le_of_ble_eq_true rfl, rfl, .connecting true⟩
  | connected blocked =>
      cases blocked with
      | true => exact absurd rfl (hawake _)
      | false => exact .inr ⟨_, rfl, rfl, rfl, rfl, rfl, Nat.le_of_ble_eq_true rfl, rfl, .readConnHandle⟩
  | readConnHandle =>
      exact .inr ⟨_, rfl, rfl, rfl, rfl, rfl, Nat.le_of_ble_eq_true rfl, rfl, .discoverServices⟩
  | discoverServices =>
      refine .inr ⟨Peer.serviceReports peer.services, List.append_nil _, rfl, rfl, rfl, rfl,
        Nat.le_of_ble_eq_true rfl, ?_, ?_⟩
      · rw [Peer.length_serviceReports]
        rfl
      · have hnone : [] ++ peer.services = peer.services := rfl
        exact .searching false hnone
  | searching blocked h =>
      cases blocked with
      | true => exact absurd rfl (hawake _)
      | false =>
          refine .inr ⟨[], rfl, rfl, rfl, rfl, rfl, Nat.le_of_ble_eq_true rfl, rfl, ?_⟩
          rw [List.append_nil]
          exact .searching true h
  | searched blocked =>
      cases blocked with
      | true => exact absurd rfl (hawake _)
      | false => exact .inr ⟨_, rfl, rfl, rfl, rfl, rfl, Nat.le_of_ble_eq_true rfl, rfl, .readRange⟩
  | readRange =>
      cases hrange : matterRange peer.services with
      | none =>
          rw [Peer.outcome_of_no_range hrange]
          exact .inl ⟨rfl, rfl⟩
      | some range =>
          exact .inr ⟨_, rfl, rfl, rfl, rfl, rfl, Nat.le_of_ble_eq_true rfl, rfl,
            .discoverCharacteristics hrange⟩
  | @discoverCharacteristics range hrange =>
      have hoffered := Peer.offered_of_range hrange
      refine .inr ⟨Peer.charReports peer.offered, ?_, rfl, rfl, rfl, rfl, Nat.le_of_ble_eq_true rfl, ?_, ?_⟩
      · rw [hoffered]
        exact List.append_nil _
      · rw [Peer.length_charReports]
        rfl
      · have hnone : [] ++ peer.offered = peer.offered := rfl
        exact .collecting false hnone
  | collecting blocked h =>
      cases blocked with
      | true => exact absurd rfl (hawake _)
      | false =>
          refine .inr ⟨[], rfl, rfl, rfl, rfl, rfl, Nat.le_of_ble_eq_true rfl, rfl, ?_⟩
          rw [List.append_nil]
          exact .collecting true h
  | collected blocked =>
      cases blocked with
      | true => exact absurd rfl (hawake _)
      | false => exact .inr ⟨_, rfl, rfl, rfl, rfl, rfl, Nat.le_of_ble_eq_true rfl, rfl, .readChars⟩
  | readChars =>
      cases hc1 : (charVals peer.offered).1 with
      | none =>
          rw [Peer.outcome_of_missing (.inl hc1)]
          simp only [Client.advance, Client.state, World.state, Found.searched, hc1]
          exact .inl ⟨rfl, rfl⟩
      | some c1Val =>
          cases hc2 : (charVals peer.offered).2 with
          | none =>
              rw [Peer.outcome_of_missing (.inr hc2)]
              simp only [Client.advance, Client.state, World.state, Found.searched, hc1, hc2]
              exact .inl ⟨rfl, rfl⟩
          | some c2Val =>
              have hvals : charVals peer.offered = (some c1Val, some c2Val) := Prod.ext hc1 hc2
              simp only [Client.advance, Client.state, World.state, Found.searched, hc1, hc2]
              exact .inr ⟨_, rfl, rfl, rfl, rfl, rfl, Nat.le_of_ble_eq_true rfl, rfl, .subscribe hvals⟩
  | @subscribe range c1Val c2Val hvals =>
      have hlast : c2Val ≠ 0xFFFF := (Peer.cccdFollows_iff hvals).mp hcccd
      simp only [Client.advance, cccdHandle_eq_some hlast]
      exact .inr ⟨_, rfl, rfl, rfl, rfl, rfl, Nat.le_of_ble_eq_true rfl, rfl, .subscribing false hvals hlast⟩
  | subscribing blocked hvals hcccd =>
      cases blocked with
      | true => exact absurd rfl (hawake _)
      | false =>
          exact .inr ⟨_, rfl, rfl, rfl, rfl, rfl, Nat.le_of_ble_eq_true rfl, rfl, .subscribing true hvals hcccd⟩
  | subscribed blocked hvals hcccd =>
      cases blocked with
      | true => exact absurd rfl (hawake _)
      | false =>
          exact .inr ⟨_, rfl, rfl, rfl, rfl, rfl, Nat.le_of_ble_eq_true rfl, rfl, .checkFailed hvals hcccd⟩
  | checkFailed hvals hcccd =>
      exact .inr ⟨_, rfl, rfl, rfl, rfl, rfl, Nat.le_of_ble_eq_true rfl, rfl, .setInitiator hvals hcccd⟩
  | setInitiator hvals hcccd =>
      rw [Peer.outcome_of_vals hvals]
      exact .inl rfl

end Advance

/-! ### What `run` is told -/

theorem matterRange_concat (services : List BleGattService) (service : BleGattService) :
    matterRange (services ++ [service]) =
      if service.uuid = .matterService then some (service.startHandle, service.endHandle)
      else matterRange services := by
  rw [matterRange, List.foldl_append]
  rfl

theorem charVals_concat (chrs : List BleGattChr) (chr : BleGattChr) :
    charVals (chrs ++ [chr]) =
      if chr.uuid = .c1 then
        (some chr.valHandle, (charVals chrs).2)
      else if chr.uuid = .c2 then
        ((charVals chrs).1, some chr.valHandle)
      else
        charVals chrs := by
  rw [charVals, List.foldl_append]
  rfl

/-- The client is told of the next report, and goes by it. -/
theorem Stage.told {phase : Phase} {c : Context} {event : Event} {events : List Event}
    (hstage : Stage peer phase c.state.found (event :: events)) (hphase : phase ≠ .start) :
    ∃ c', onEvent event c = some c' ∧ Stage peer phase c'.state.found events := by
  obtain ⟨s, progress, signalIn, signalOut⟩ := c
  obtain ⟨synced, connHandle, failed, mtu, peerAddr, range, servicesDone, c1Val, c2Val, charsDone, subscribed,
    inData, outData, outInflight⟩ := s
  change Stage peer phase ⟨synced, connHandle, failed, range, servicesDone, c1Val, c2Val, charsDone, subscribed⟩
    (event :: events) at hstage
  generalize hreports : event :: events = reports at hstage
  cases hstage with
  | start => exact absurd rfl hphase
  | starting blocked =>
      cases hreports
      exact ⟨_, rfl, .started blocked⟩
  | connecting blocked =>
      cases hreports
      exact ⟨_, rfl, .connected blocked⟩
  | @searching blocked told rest h =>
      cases rest with
      | nil =>
          cases hreports
          rw [List.append_nil] at h
          rw [h]
          exact ⟨_, rfl, .searched blocked⟩
      | cons service rest =>
          cases hreports
          have hnext := @Stage.searching peer blocked (told ++ [service]) rest (by
            rw [List.append_assoc]
            exact h)
          rw [matterRange_concat] at hnext
          by_cases huuid : service.uuid = .matterService
          · rw [if_pos huuid] at hnext
            exact ⟨_, congrArg some (if_pos huuid), hnext⟩
          · rw [if_neg huuid] at hnext
            exact ⟨_, congrArg some (if_neg huuid), hnext⟩
  | @collecting blocked range told rest h =>
      cases rest with
      | nil =>
          cases hreports
          rw [List.append_nil] at h
          rw [h]
          exact ⟨_, rfl, .collected blocked⟩
      | cons chr rest =>
          cases hreports
          have hnext := @Stage.collecting peer blocked range (told ++ [chr]) rest (by
            rw [List.append_assoc]
            exact h)
          rw [charVals_concat] at hnext
          refine ⟨_, rfl, ?_⟩
          by_cases hc1 : chr.uuid = .c1
          · rw [if_pos hc1] at hnext
            simp only [Context.modify, if_pos hc1]
            exact hnext
          by_cases hc2 : chr.uuid = .c2
          · rw [if_neg hc1, if_pos hc2] at hnext
            simp only [Context.modify, if_neg hc1, if_pos hc2]
            exact hnext
          · rw [if_neg hc1, if_neg hc2] at hnext
            simp only [Context.modify, if_neg hc1, if_neg hc2]
            exact hnext
  | subscribing blocked hvals hlast =>
      cases hreports
      have hcccd := cccdHandle_eq_some hlast
      refine ⟨_, congrArg (Option.map _) hcccd, ?_⟩
      simp only [onWriteComplete, if_pos]
      exact .subscribed blocked hvals hlast
  | _ => cases hreports

/-- What is waited for is there once there is nothing left to tell. -/
theorem Stage.pred_of_told {wait : Wait} {blocked : Bool} {s : State}
    (hstage : Stage peer (.wait wait blocked) s.found []) : wait.pred s = true := by
  obtain ⟨synced, connHandle, failed, mtu, peerAddr, range, servicesDone, c1Val, c2Val, charsDone, subscribed,
    inData, outData, outInflight⟩ := s
  change Stage peer (.wait wait blocked)
    ⟨synced, connHandle, failed, range, servicesDone, c1Val, c2Val, charsDone, subscribed⟩ [] at hstage
  generalize hreports : ([] : List Event) = reports at hstage
  cases hstage with
  | @searching _ told rest h =>
      have hlength := congrArg List.length hreports
      rw [Peer.length_serviceReports] at hlength
      cases hlength
  | @collecting _ range told rest h =>
      have hlength := congrArg List.length hreports
      rw [Peer.length_charReports] at hlength
      cases hlength
  | starting => cases hreports
  | connecting => cases hreports
  | subscribing => cases hreports
  | _ => rfl

theorem Stage.unblock {wait : Wait} {found : Found} {events : List Event}
    (hstage : Stage peer (.wait wait true) found events) : Stage peer (.wait wait false) found events := by
  cases hstage with
  | starting => exact .starting false
  | started => exact .started false
  | connecting => exact .connecting false
  | connected => exact .connected false
  | searching _ h => exact .searching false h
  | searched => exact .searched false
  | collecting _ h => exact .collecting false h
  | collected => exact .collected false
  | subscribing _ hvals hlast => exact .subscribing false hvals hlast
  | subscribed _ hvals hlast => exact .subscribed false hvals hlast

theorem onEvent_idle {event : Event} (hidle : Setup.Idle event) (c : Context) :
    ∃ c', onEvent event c = some c' ∧ c'.state.found = c.state.found ∧
      c'.notifyProgress = c.notifyProgress := by
  unfold Setup.Idle at hidle
  split at hidle
  · exact ⟨_, rfl, rfl, rfl⟩
  · refine ⟨_, rfl, ?_, rfl⟩
    simp only [onGapEvent, Context.modify]
    split
    · rfl
    · rfl
  · exact ⟨_, rfl, rfl, rfl⟩
  · rename_i attrHandle data
    refine ⟨_, rfl, ?_, ?_⟩
    · split
      · obtain ⟨inData, hnotify⟩ := State.notify_eq c.state data
        show (c.state.notify data).found = c.state.found
        rw [hnotify]
        rfl
      · rfl
    · split
      · rfl
      · rfl
  · exact ⟨_, rfl, rfl, rfl⟩
  · exact hidle.elim

/-! ### Runs -/

/-- `run` is woken, and looks again. -/
def Client.wake (C : Client β) (wait : Wait) : Client β :=
  { C with
    world := { C.world with context := { C.world.context with notifyProgress := false } }
    phase := .wait wait false }

theorem Peer.looks_again (peer : Peer) (wait : Wait) :
    peer.toCome (.wait wait false) = peer.toCome (.wait wait true) ∧
      (Phase.wait wait false).left = (Phase.wait wait true).left + 1 := by
  cases wait <;> exact ⟨rfl, rfl⟩

namespace Setup

/-- The setup is on its way. -/
structure Going (peer : Peer) (S : Setup β) : Prop where
  running : S.client.world.aborted = false
  ended : S.client.world.ended = none
  stage : Stage peer S.client.phase S.client.state.found S.events
  cccd : peer.CccdFollows

/-- It has come to what the peer makes of it. -/
def Through (peer : Peer) (S : Setup β) : Prop := peer.outcome.Reached peer.conn S.client

/-- What is left to do: four for each report to come, two for a signal, and one for each time that `run` goes
on. -/
def rank (peer : Peer) (S : Setup β) : Nat :=
  4 * (peer.toCome S.client.phase + S.events.length) + 2 * S.client.world.context.notifyProgress.toNat +
    S.client.phase.left

variable {E : Btp β} {addr : BtAddr} {S : Setup β}

theorem goOn_nil (C : Client β) : (S.goOn peer (C, [])).1 = ⟨C, S.events⟩ := by
  show Setup.mk C (S.events ++ []) = _
  rw [List.append_nil]

theorem step_run_eq {C : Client β} (hrunning : C.world.aborted = false) (hended : C.world.ended = none)
    (d : Answers) : C.step E addr (.run d) = C.advance addr d := by
  unfold Client.step
  rw [if_neg (by rw [hrunning]; exact Bool.false_ne_true)]
  dsimp only
  rw [if_pos hended]

/-- It waits, and there was no signal. -/
def Asleep (S : Setup β) : Prop :=
  (∃ wait, S.client.phase = .wait wait true) ∧ S.client.world.context.notifyProgress = false

/-- `run` goes on, unless it is asleep. -/
theorem Going.run (hS : S.Going peer) (E : Btp β) (addr : BtAddr) :
    let next := (S.step peer E addr (.run .succeeding)).1
    next.Through peer ∨ next.Going peer ∧ (next = S ∧ S.Asleep ∨ next.rank peer < S.rank peer) := by
  intro next
  have hnext : next = (S.goOn peer (S.client.advance addr .succeeding)).1 := by
    show (S.goOn peer (S.client.step E addr (.run .succeeding))).1 = _
    rw [step_run_eq hS.running hS.ended]
  by_cases hblocked : ∃ wait, S.client.phase = .wait wait true
  · right
    obtain ⟨wait, hphase⟩ := hblocked
    cases hwoken : S.client.world.context.notifyProgress with
    | false =>
        have hadvance : S.client.advance addr .succeeding = (S.client, []) := by
          rw [Client.advance, hphase]
          exact if_neg (by rw [hwoken]; exact Bool.false_ne_true)
        have hsame : next = S := by
          rw [hnext, hadvance, goOn_nil]
        exact ⟨hsame ▸ hS, .inl ⟨hsame, ⟨wait, hphase⟩, hwoken⟩⟩
    | true =>
        have hadvance : S.client.advance addr .succeeding = (S.client.wake wait, []) := by
          rw [Client.advance, hphase]
          exact if_pos hwoken
        have hwake : next = ⟨S.client.wake wait, S.events⟩ := by
          rw [hnext, hadvance, goOn_nil]
        have hstage := hS.stage
        rw [hphase] at hstage
        rw [hwake]
        refine ⟨⟨hS.running, hS.ended, hstage.unblock, hS.cccd⟩, .inr ?_⟩
        obtain ⟨htoCome, hleft⟩ := peer.looks_again wait
        rw [rank, rank, hphase, hwoken, ← htoCome]
        show 4 * (peer.toCome (.wait wait false) + S.events.length) + 2 * 0 + (Phase.wait wait false).left < _
        rw [Bool.toNat_true]
        omega
  · have hawake : ∀ wait, S.client.phase ≠ .wait wait true := fun wait hphase => hblocked ⟨wait, hphase⟩
    have hclient : next.client = (S.client.advance addr .succeeding).1 := by
      rw [hnext]
      rfl
    rcases hS.stage.goesOn hS.cccd addr hawake with hthrough | ⟨asked, hgoes⟩
    · left
      show peer.outcome.Reached peer.conn next.client
      rw [hclient]
      exact hthrough
    · right
      have hevents : next.events = S.events ++ asked := by
        rw [hnext, ← hgoes.asks]
        rfl
      refine ⟨⟨?_, ?_, ?_, hS.cccd⟩, .inr ?_⟩
      · rw [hclient, hgoes.running, hS.running]
      · rw [hclient, hgoes.ended, hS.ended]
      · rw [hclient, hevents, hgoes.found]
        exact hgoes.stage
      · have hleft := hgoes.left
        have htoCome := hgoes.toCome
        rw [rank, rank, hclient, hevents, hgoes.progress, List.length_append]
        omega

theorem step_event_eq {C : Client β} {event : Event} {context : Context} (hrunning : C.world.aborted = false)
    (hphase : C.phase ≠ .start) (hevent : onEvent event C.world.context = some context) :
    C.step E addr (.event event) =
      ({ C with
         world := { C.world with context }
         outstanding := event.completes C.outstanding }, (event.marks C.world.context).map .recorded) := by
  unfold Client.step
  rw [if_neg (by rw [hrunning]; exact Bool.false_ne_true)]
  dsimp only
  rw [if_neg hphase, hevent]

/-- Nothing is reported of what the hooks record. -/
theorem reports_recorded (marks : List Mark) : (marks.map Action.recorded).flatMap peer.reports = [] := by
  induction marks with
  | nil => rfl
  | cons mark marks ih => exact ih

theorem goOn_event (peer : Peer) (E : Btp β) (addr : BtAddr) {event : Event} {context : Context}
    (hrunning : S.client.world.aborted = false) (hphase : S.client.phase ≠ .start)
    (hevent : onEvent event S.client.world.context = some context) :
    (S.goOn peer (S.client.step E addr (.event event))).1 =
      ⟨{ S.client with
          world := { S.client.world with context }
          outstanding := event.completes S.client.outstanding }, S.events⟩ := by
  rw [step_event_eq hrunning hphase hevent]
  show Setup.mk _ (S.events ++ ((event.marks S.client.world.context).map Action.recorded).flatMap peer.reports) = _
  rw [reports_recorded, List.append_nil]

/-- The client is told of a report, if there is one. -/
theorem Going.tell (hS : S.Going peer) (E : Btp β) (addr : BtAddr) :
    let next := (S.step peer E addr .tell).1
    next.Going peer ∧
      (next = S ∧ (S.client.phase = .start ∨ S.events = []) ∨ next.rank peer < S.rank peer) := by
  intro next
  have hnext : next = (S.tell peer E addr).1 := rfl
  by_cases hstart : S.client.phase = .start
  · have hsame : next = S := by
      rw [hnext, Setup.tell, if_pos hstart]
    exact ⟨hsame ▸ hS, .inl ⟨hsame, .inl hstart⟩⟩
  cases hevents : S.events with
  | nil =>
      have hsame : next = S := by
        rw [hnext, Setup.tell, if_neg hstart, hevents]
      exact ⟨hsame ▸ hS, .inl ⟨hsame, .inr rfl⟩⟩
  | cons event events =>
      have hstage := hS.stage
      rw [hevents] at hstage
      obtain ⟨context, hevent, hstage'⟩ := hstage.told hstart
      have htold : next = ⟨{ S.client with
          world := { S.client.world with context }
          outstanding := event.completes S.client.outstanding }, events⟩ := by
        rw [hnext, Setup.tell, if_neg hstart, hevents]
        exact goOn_event (S := { S with events }) peer E addr hS.running hstart hevent
      rw [htold]
      refine ⟨⟨hS.running, hS.ended, hstage', hS.cccd⟩, .inr ?_⟩
      have hsignal := Bool.toNat_le context.notifyProgress
      rw [rank, rank, hevents, List.length_cons]
      show 4 * (peer.toCome S.client.phase + events.length) + 2 * context.notifyProgress.toNat +
        S.client.phase.left < _
      omega

/-- The other steps change nothing in the setup. -/
theorem Going.others (hS : S.Going peer) (E : Btp β) (addr : BtAddr) {s : Step β} (hs : s.Succeeds)
    (hother : s ≠ .tell ∧ ∀ answers, s ≠ .run answers) :
    (S.step peer E addr s).1.Going peer ∧ (S.step peer E addr s).1.rank peer = S.rank peer := by
  have hkept : ∀ input : Input β, (S.client.step E addr input) = (S.client, []) →
      (S.goOn peer (S.client.step E addr input)).1.Going peer ∧
        (S.goOn peer (S.client.step E addr input)).1.rank peer = S.rank peer := by
    intro input hinput
    rw [hinput, goOn_nil]
    exact ⟨hS, rfl⟩
  have hnot : ∀ conn c1Val, S.client.phase ≠ .pumping conn c1Val := by
    intro conn c1Val hphase
    have hstage := hS.stage
    rw [hphase] at hstage
    cases hstage
  cases s with
  | run answers => exact absurd rfl (hother.2 answers)
  | tell => exact absurd rfl hother.1
  | aside event =>
      by_cases hstart : S.client.phase = .start
      · apply hkept
        unfold Client.step
        rw [if_neg (by rw [hS.running]; exact Bool.false_ne_true)]
        exact if_pos hstart
      · obtain ⟨context, hevent, hfound, hprogress⟩ := onEvent_idle hs S.client.world.context
        have hnext := goOn_event peer E addr hS.running hstart hevent
        show (S.goOn peer (S.client.step E addr (.event event))).1.Going peer ∧
          (S.goOn peer (S.client.step E addr (.event event))).1.rank peer = S.rank peer
        rw [hnext]
        refine ⟨⟨hS.running, hS.ended, ?_, hS.cccd⟩, ?_⟩
        · show Stage peer S.client.phase context.state.found S.events
          rw [hfound]
          exact hS.stage
        · rw [rank, rank]
          show 4 * (peer.toCome S.client.phase + S.events.length) + 2 * context.notifyProgress.toNat + _ = _
          rw [hprogress]
  | incoming =>
      apply hkept
      have hmoves := S.client.moves_step E addr .incoming
      generalize S.client.step E addr .incoming = next at hmoves ⊢
      cases hmoves with
      | nothing => rfl
      | incoming _ _ hphase => exact absurd hphase (hnot _ _)
  | outgoing result =>
      apply hkept
      have hmoves := S.client.moves_step E addr (.outgoing result)
      generalize S.client.step E addr (.outgoing result) = next at hmoves ⊢
      cases hmoves with
      | nothing => rfl
      | outgoing _ _ _ hphase => exact absurd hphase (hnot _ _)
  | matter btp =>
      have hmatter : S.client.step E addr (.matter btp) =
          ({ S.client with world := S.client.world.setBtp btp }, []) := by
        unfold Client.step
        rw [if_neg (by rw [hS.running]; exact Bool.false_ne_true)]
      show (S.goOn peer (S.client.step E addr (.matter btp))).1.Going peer ∧
        (S.goOn peer (S.client.step E addr (.matter btp))).1.rank peer = S.rank peer
      rw [hmatter, goOn_nil]
      exact ⟨⟨hS.running, hS.ended, hS.stage, hS.cccd⟩, rfl⟩

/-- The client has come to something, and stays there. -/
theorem reached_step {conn : Handle} {outcome : Outcome} {C : Client β} (hC : outcome.Reached conn C)
    (input : Input β) : outcome.Reached conn (C.step E addr input).1 := by
  have hmoves := C.moves_step E addr input
  generalize C.step E addr input = next at hmoves ⊢
  cases outcome with
  | pumping c1Val =>
      have hphase : C.phase = .pumping conn c1Val := hC
      cases hmoves with
      | run d =>
          rw [Client.advance, hphase]
          exact hphase
      | _ => exact hphase
  | refused =>
      obtain ⟨hphase, hended⟩ := hC
      cases hmoves with
      | run d _ hnone =>
          rw [hended] at hnone
          cases hnone
      | incoming _ hnone =>
          rw [hended] at hnone
          cases hnone
      | outgoing _ _ hnone =>
          rw [hended] at hnone
          cases hnone
      | _ => exact ⟨hphase, hended⟩

theorem Through.step (hS : S.Through peer) (s : Step β) : (S.step peer E addr s).1.Through peer := by
  cases s with
  | tell =>
      show peer.outcome.Reached peer.conn (S.tell peer E addr).1.client
      unfold Setup.tell
      split
      · exact hS
      split
      · exact hS
      · exact reached_step hS _
  | run answers => exact reached_step hS _
  | aside event => exact reached_step hS _
  | incoming => exact reached_step hS _
  | outgoing result => exact reached_step hS _
  | matter btp => exact reached_step hS _

theorem attentive_next (hS : S.client.Attentive) (s : Step β) :
    (S.step peer E addr s).1.client.Attentive := by
  cases s with
  | tell =>
      show (S.tell peer E addr).1.client.Attentive
      unfold tell
      split
      · exact hS
      split
      · exact hS
      · exact attentive_step E addr hS _
  | run answers => exact attentive_step E addr hS _
  | aside event => exact attentive_step E addr hS _
  | incoming => exact attentive_step E addr hS _
  | outgoing result => exact attentive_step E addr hS _
  | matter btp => exact attentive_step E addr hS _

/-- How far the setup may be from its end. -/
structure Within (peer : Peer) (bound : Nat) (S : Setup β) : Prop where
  attentive : S.client.Attentive
  near : S.Through peer ∨ S.Going peer ∧ S.rank peer ≤ bound

theorem Within.step {bound : Nat} (hS : S.Within peer bound) {s : Step β} (hs : s.Succeeds) :
    (S.step peer E addr s).1.Within peer bound := by
  refine ⟨attentive_next hS.attentive s, ?_⟩
  rcases hS.near with hthrough | ⟨hgoing, hle⟩
  · exact .inl (hthrough.step s)
  by_cases htell : s = .tell
  · subst htell
    obtain ⟨hnext, hrank⟩ := hgoing.tell E addr
    refine .inr ⟨hnext, ?_⟩
    rcases hrank with ⟨hsame, -⟩ | hless
    · rw [hsame]
      exact hle
    · omega
  by_cases hrun : ∃ answers, s = .run answers
  · obtain ⟨answers, rfl⟩ := hrun
    cases hs
    rcases hgoing.run E addr with hthrough | ⟨hnext, hrank⟩
    · exact .inl hthrough
    · refine .inr ⟨hnext, ?_⟩
      rcases hrank with ⟨hsame, -⟩ | hless
      · rw [hsame]
        exact hle
      · omega
  · obtain ⟨hnext, hrank⟩ := hgoing.others E addr hs
      ⟨htell, fun answers h => hrun ⟨answers, h⟩⟩
    exact .inr ⟨hnext, hrank.le.trans hle⟩

/-- The client is told of a report, and `run` goes on. -/
def round : List (Step β) := [.tell, .run .succeeding]

/-- One that sleeps has something to be told. -/
theorem Going.not_idle (hS : S.Going peer) (hattentive : S.client.Attentive)
    (hnone : S.client.phase = .start ∨ S.events = []) : ¬ S.Asleep := by
  rintro ⟨⟨wait, hblocked⟩, hunsignalled⟩
  have hwaits : wait.pred S.client.state = false := by
    apply (hattentive.alert wait hblocked).resolve_left
    rw [hunsignalled]
    exact Bool.false_ne_true
  have htold : S.events = [] := by
    apply hnone.resolve_left
    rw [hblocked]
    exact nofun
  have hstage := hS.stage
  rw [hblocked, htold] at hstage
  rw [hstage.pred_of_told] at hwaits
  cases hwaits

/-- **A round brings the setup to its end, or closer to it.** -/
theorem Within.round {bound : Nat} (hS : S.Within peer bound) :
    (after (Setup.step peer E addr) S round).Through peer ∨
      (after (Setup.step peer E addr) S round).rank peer < S.rank peer := by
  show ((S.step peer E addr .tell).1.step peer E addr (.run .succeeding)).1.Through peer ∨
    ((S.step peer E addr .tell).1.step peer E addr (.run .succeeding)).1.rank peer < S.rank peer
  rcases hS.near with hthrough | ⟨hgoing, -⟩
  · exact .inl ((hthrough.step .tell).step _)
  obtain ⟨hnext, htold⟩ := hgoing.tell E addr
  rcases hnext.run E addr with hthrough | ⟨-, hran⟩
  · exact .inl hthrough
  right
  rcases htold with ⟨hsame, hnone⟩ | hless
  · rw [hsame] at hran ⊢
    rcases hran with ⟨-, hasleep⟩ | hless
    · exact absurd hasleep (hgoing.not_idle hS.attentive hnone)
    · exact hless
  · rcases hran with ⟨hsame, -⟩ | hless'
    · rw [hsame]
      exact hless
    · omega

theorem Within.run {bound : Nat} (hS : S.Within peer bound) {steps : List (Step β)}
    (hsteps : ∀ s ∈ steps, s.Succeeds) : (after (Setup.step peer E addr) S steps).Within peer bound :=
  invariant_after (G := fun _ s => s.Succeeds) (fun _ _ hS hs => hS.step hs) hS (along_of_forall hsteps)

theorem succeeds_round : ∀ s ∈ (round : List (Step β)), s.Succeeds := by
  rw [round, List.forall_mem_cons, List.forall_mem_singleton]
  exact ⟨trivial, rfl⟩

/-- So enough rounds bring it to its end. -/
theorem Within.rounds {bound : Nat} (hS : S.Within peer bound) {k : Nat} (hk : bound < k) :
    (after (Setup.step peer E addr) S (List.replicate k Setup.round).flatten).Through peer := by
  refine goal_of_rank (I := Setup.Within peer bound) (G := Setup.Through peer) (r := rank peer)
    (fun S hS => Within.run hS succeeds_round) ?_ (fun S hS => Within.round hS) hS ?_
  · intro S _ hthrough
    exact (hthrough.step .tell).step (.run .succeeding)
  · exact hS.near.imp id fun hnear => hnear.2.trans_lt hk

/-- The rounds that a setup takes at most. -/
def effort (peer : Peer) : Nat := 41 + 4 * (peer.services.length + peer.offered.length)

theorem within_new (hcccd : peer.CccdFollows) (btp : β) :
    (Setup.new btp).Within peer (effort peer - 1) := by
  refine ⟨.of_awake (.inl rfl) nofun, .inr ⟨⟨rfl, rfl, .start, hcccd⟩, ?_⟩⟩
  show 4 * (1 + (peer.offered.length + 1) + (peer.services.length + 1) + 1 + 1) + 2 * 0 + 20 ≤ effort peer - 1
  rw [effort]
  omega

/-- **The setup always comes to an end, and to the right one.** However reports, pumps and other events have
interleaved with `run` so far, a bounded number of rounds more brings it to the pumps, which write to the `C1` of
the peer that was found last, if the peer has the service with both characteristics, and otherwise to an error. -/
theorem setup_decided (peer : Peer) (hcccd : peer.CccdFollows) (E : Btp β) (addr : BtAddr) (btp : β)
    (steps : List (Step β)) (hsteps : ∀ s ∈ steps, s.Succeeds) {k : Nat} (hk : effort peer ≤ k) :
    peer.outcome.Reached peer.conn (after (Setup.step peer E addr)
      (after (Setup.step peer E addr) (.new btp) steps) (List.replicate k round).flatten).client := by
  have hbound : effort peer - 1 < k := by
    rw [effort] at hk ⊢
    omega
  exact ((within_new hcccd btp).run hsteps).rounds hbound

/-- It has another service, and another characteristic. -/
def somePeer : Peer where
  conn := 1
  found := .error ⟨0⟩
  attMtu := .error ⟨0⟩
  services := [⟨.other 0x180A, 1, 9⟩, ⟨.matterService, 10, 20⟩]
  chrs := [⟨.c1, 12⟩, ⟨.c2, 14⟩, ⟨.c1, 22⟩]

/-- The MTU is exchanged while the services are being discovered. -/
def somewhere : List (Step (List Buffer)) :=
  [.run .succeeding, .matter [], .tell, .run .succeeding, .run .succeeding, .tell, .incoming, .run .succeeding,
    .run .succeeding, .run .succeeding, .aside (.gap (.mtu 1 100)), .tell]

theorem setup_decided_somewhere :
    (after (Setup.step somePeer .queue ⟨.replicate 6 7⟩)
      (after (Setup.step somePeer .queue ⟨.replicate 6 7⟩) (.new []) somewhere)
      (List.replicate 57 round).flatten).client.phase = .pumping 1 12 := by
  have hsteps : ∀ s ∈ somewhere, s.Succeeds := by
    simp only [somewhere, List.forall_mem_cons]
    exact ⟨rfl, trivial, trivial, rfl, rfl, trivial, trivial, rfl, rfl, rfl, trivial, trivial,
      List.forall_mem_nil _⟩
  exact setup_decided somePeer (by decide) .queue ⟨.replicate 6 7⟩ [] somewhere hsteps (show 57 ≤ 57 by decide)

end Setup

end EspIdfMatter.Central
