import EspIdfMatter.Bluedroid.FlowControl
import EspIdfMatter.Library.Prune

/-! Any number of peers. The handlers tell the tracked peer from the others by its identifier, by its
address, or by there being a tracked peer at all. -/

namespace EspIdfMatter.Bluedroid

open Library Library.Machine

variable {β : Type}

structure Peer where
  connId : Handle
  addr : BdAddr
  deriving DecidableEq

inductive PeerEvent where
  | connected
  | disconnected
  | mtu (value : UInt16)
  | write (transId : TransferId) (handle : Handle) (offset : UInt16) (needRsp isPrep : Bool) (value : Bytes)

/-- The event that the driver reports. -/
def PeerEvent.event (peer : Peer) : PeerEvent → GattsEvent
  | .connected => .peerConnected peer.connId peer.addr
  | .disconnected => .peerDisconnected peer.connId peer.addr
  | .mtu value => .mtu peer.connId value
  | .write transId handle offset needRsp isPrep value =>
      .write { connId := peer.connId, transId, addr := peer.addr, handle, offset, needRsp, isPrep, value }

/-- Whether the event is one of a peer; a confirmation is the tracked peer's. -/
def GattsEvent.ofPeer : GattsEvent → Bool
  | .peerConnected _ _ | .peerDisconnected _ _ | .mtu _ _ | .write _ => true
  | _ => false

def Step.ofPeer : Step β → Bool
  | .gatts _ event _ => event.ofPeer
  | _ => false

/-- An event of a peer, or anything else: the pumps, the confirmations, the service, the Matter stack. -/
inductive Input (β : Type) where
  | peer (gattIf : GattInterface) (peer : Peer) (event : PeerEvent) (driver : Driver)
  | own (s : { s : Step β // s.ofPeer = false })

def Input.step : Input β → Step β
  | .peer gattIf p event driver => .gatts gattIf (event.event p) driver
  | .own s => s

def inputStep (cfg : Config) (E : Btp β) (w : World β) (input : Input β) : World β × List Call :=
  step cfg E w input.step

/-- The peer that is tracked. -/
def State.peer? (s : State) : Option Peer :=
  s.connection.map fun conn => ⟨conn.connId, conn.peer⟩

/-- An event of a peer that is not the tracked one when it occurs. A new peer is one only while another
is tracked. -/
def foreign (w : World β) : Input β → Bool
  | .peer _ p .connected _ => w.state.connection.isSome && decide (w.state.peer? ≠ some p)
  | .peer _ p _ _ => decide (w.state.peer? ≠ some p)
  | .own _ => false

/-- No two peers share an identifier or an address. -/
def Distinct (peers : Set Peer) : Prop :=
  ∀ p ∈ peers, ∀ q ∈ peers, p.connId = q.connId ∨ p.addr = q.addr → p = q

def Input.From (peers : Set Peer) : Input β → Prop
  | .peer _ p _ _ => p ∈ peers
  | .own _ => True

/-- The tracked peer is one of these. -/
def World.Knows (peers : Set Peer) (w : World β) : Prop :=
  ∀ peer, w.state.peer? = some peer → peer ∈ peers

/-! ### Events of other peers -/

section

variable {peers : Set Peer} {w : World β} {peer : Peer}

/-- Another peer than the tracked one differs from it in both respects. -/
theorem other_peer (hdistinct : Distinct peers) (hknows : w.Knows peers) (hpeer : peer ∈ peers)
    (hother : w.state.peer? ≠ some peer) {conn : Connection} (hconn : w.state.connection = some conn) :
    conn.connId ≠ peer.connId ∧ conn.peer ≠ peer.addr := by
  have htracked : w.state.peer? = some ⟨conn.connId, conn.peer⟩ := by rw [State.peer?, hconn, Option.map_some]
  have hne : ¬ (conn.connId = peer.connId ∨ conn.peer = peer.addr) := by
    intro h
    apply hother
    rw [htracked, hdistinct _ (hknows _ htracked) peer hpeer h]
  exact not_or.mp hne

/-- **An event of another peer does nothing.** -/
theorem step_foreign (cfg : Config) (E : Btp β) (hdistinct : Distinct peers) {input : Input β}
    (hknows : w.Knows peers) (hfrom : input.From peers) (hforeign : foreign w input = true) :
    inputStep cfg E w input = (w, []) := by
  cases input with
  | own s => cases hforeign
  | peer gattIf peer event drv =>
      have hother : w.state.peer? ≠ some peer := by
        cases event with
        | connected => exact of_decide_eq_true (Bool.and_eq_true_iff.mp hforeign).2
        | disconnected => exact of_decide_eq_true hforeign
        | mtu value => exact of_decide_eq_true hforeign
        | write transId handle offset needRsp isPrep value => exact of_decide_eq_true hforeign
      have hne {conn : Connection} (hconn : w.state.connection = some conn) :
          conn.connId ≠ peer.connId ∧ conn.peer ≠ peer.addr :=
        other_peer hdistinct hknows hfrom hother hconn
      cases event with
      | connected =>
          have htracked : w.state.connection ≠ none :=
            Option.isSome_iff_ne_none.mp (Bool.and_eq_true_iff.mp hforeign).1
          simp only [inputStep, Input.step, PeerEvent.event, step, onGattsEvent, createConn, if_neg htracked]
          rfl
      | disconnected =>
          have hpeer : (w.state.connection.map fun conn => conn.peer) ≠ some peer.addr := by
            intro h
            obtain ⟨conn, hconn, heq⟩ := Option.map_eq_some_iff.mp h
            exact (hne hconn).2 heq
          simp only [inputStep, Input.step, PeerEvent.event, step, onGattsEvent, deleteConn, if_neg hpeer]
          rfl
      | mtu value =>
          have hstate : w.state.registerConnMtu peer.connId value = w.state := by
            unfold State.registerConnMtu
            cases hconn : w.state.connection with
            | none => rfl
            | some conn => exact if_neg (hne hconn).1
          simp only [inputStep, Input.step, PeerEvent.event, step, onGattsEvent, hstate]
          rfl
      | write transId handle offset needRsp isPrep value =>
          have hlocked : ∀ ev : Write, ev.connId = peer.connId → writeLocked ev w = (w, false) := by
            intro ev hev
            unfold writeLocked
            cases hconn : w.state.connection with
            | none => rfl
            | some conn => exact if_pos (hev ▸ (hne hconn).1)
          show (Bluedroid.write drv gattIf _ w).finish = (w, [])
          rw [Bluedroid.write, hlocked _ rfl]
          rfl

/-! ### Who is tracked -/

theorem peer?_registerConnMtu (s : State) (connId : Handle) (value : UInt16) :
    (s.registerConnMtu connId value).peer? = s.peer? := by
  unfold State.registerConnMtu
  cases hconn : s.connection with
  | none => rfl
  | some conn =>
      dsimp only
      split
      · rw [State.peer?, State.peer?, hconn]
        rfl
      · rfl

theorem peer?_writeLocked (w : World β) (ev : Write) : (writeLocked ev w).1.state.peer? = w.state.peer? := by
  unfold writeLocked
  cases hconn : w.state.connection with
  | none => rfl
  | some conn =>
      have hset (subscribed : Bool) : (w.state.setSubscribed conn subscribed).peer? = w.state.peer? := by
        rw [State.peer?, State.peer?, hconn]
        rfl
      dsimp only
      repeat' split
      all_goals first | rfl | exact hset _

/-- Steps that are no peer's track the same peer. -/
theorem peer?_own (cfg : Config) (E : Btp β) (w : World β) {s : Step β} (h : s.ofPeer = false) :
    (step cfg E w s).1.state.peer? = w.state.peer? := by
  have hconnection : (step cfg E w s).1.state.connection = w.state.connection := by
    cases s with
    | gap event drv =>
        rw [step, Handled.finish, onGapEvent_world]
    | gatts gattIf event drv =>
        have hregisters : event.Registers →
            (step cfg E w (.gatts gattIf event drv)).1.state.connection = w.state.connection :=
          fun hevent => (registers_sameSession cfg drv gattIf hevent w).connection
        cases event with
        | confirm status connId =>
            have hstate := confirm_state cfg drv gattIf w status connId
            rw [step, Handled.finish, hstate]
            cases status with
            | ok => rfl
            | failed code => rfl
        | peerConnected connId addr => cases h
        | peerDisconnected connId addr => cases h
        | mtu connId value => cases h
        | write ev => cases h
        | _ => exact hregisters trivial
    | incoming drv =>
        rw [step]
        split
        · exact (incoming_frame E drv w).2.1
        · rfl
    | outgoing drv =>
        rw [step]
        split
        · exact (outgoing_cases E drv w).1
        · rfl
    | matter btp => rfl
  rw [State.peer?, hconnection, State.peer?]

/-- A peer that is tracked after an event was tracked before, or it is the peer of the event. -/
theorem knows_inputStep (cfg : Config) (E : Btp β) {input : Input β} (hknows : w.Knows peers)
    (hfrom : input.From peers) : (inputStep cfg E w input).1.Knows peers := by
  have hsame : (inputStep cfg E w input).1.state.peer? = w.state.peer? →
      (inputStep cfg E w input).1.Knows peers := by
    intro h peer hpeer
    exact hknows peer (h ▸ hpeer)
  cases input with
  | own s => exact hsame (peer?_own cfg E w s.property)
  | peer gattIf peer event drv =>
      cases event with
      | connected =>
          have hstate : (inputStep cfg E w (.peer gattIf peer .connected drv)).1.state = _ :=
            peerConnected_state cfg drv gattIf w peer.connId peer.addr
          by_cases hconn : w.state.connection = none
          · rw [if_pos hconn] at hstate
            intro p hp
            rw [hstate] at hp
            obtain rfl : peer = p := Option.some.inj hp
            exact hfrom
          · rw [if_neg hconn] at hstate
            exact hsame (congrArg State.peer? hstate)
      | disconnected =>
          have hstate : (inputStep cfg E w (.peer gattIf peer .disconnected drv)).1.state = _ :=
            peerDisconnected_state cfg drv gattIf w peer.connId peer.addr
          split at hstate
          · intro p hp
            rw [hstate] at hp
            cases hp
          · exact hsame (congrArg State.peer? hstate)
      | mtu value => exact hsame (peer?_registerConnMtu w.state peer.connId value)
      | write transId handle offset needRsp isPrep value =>
          have hstored := peer?_writeLocked w
            ⟨peer.connId, transId, peer.addr, handle, offset, needRsp, isPrep, value⟩
          have hwrite := write_sameSession cfg drv gattIf w
            ⟨peer.connId, transId, peer.addr, handle, offset, needRsp, isPrep, value⟩
          rw [State.peer?, ← hwrite.connection] at hstored
          exact hsame hstored

end

/-- **Other peers are invisible.** -/
theorem peers_invisible (cfg : Config) (E : Btp β) {peers : Set Peer} (hdistinct : Distinct peers)
    {w : World β} (hknows : w.Knows peers) {inputs : List (Input β)}
    (hfrom : ∀ input ∈ inputs, input.From peers) :
    after (inputStep cfg E) w (prune (inputStep cfg E) foreign w inputs) = after (inputStep cfg E) w inputs ∧
      outputs (inputStep cfg E) w (prune (inputStep cfg E) foreign w inputs) =
        outputs (inputStep cfg E) w inputs := by
  have hrun : Along (inputStep cfg E) (fun w input => w.Knows peers ∧ input.From peers) w inputs := by
    induction inputs generalizing w with
    | nil => trivial
    | cons input inputs ih =>
        obtain ⟨hinput, hinputs⟩ := List.forall_mem_cons.mp hfrom
        exact ⟨⟨hknows, hinput⟩, ih (knows_inputStep cfg E hknows hinput) hinputs⟩
  have hidle (w : World β) (input : Input β) (hinput : w.Knows peers ∧ input.From peers)
      (hforeign : foreign w input = true) : inputStep cfg E w input = (w, []) :=
    step_foreign cfg E hdistinct hinput.1 hinput.2 hforeign
  obtain ⟨hafter, houtputs⟩ := unwinding_of_idle hidle hrun
  exact ⟨hafter.symm, houtputs.symm⟩

def firstPeer : Peer := ⟨1, ⟨.replicate 6 1⟩⟩

def secondPeer : Peer := ⟨2, ⟨.replicate 6 2⟩⟩

/-- The second peer comes while the first is tracked, and again when the first has left. -/
def crowd : List (Input (List Buffer)) :=
  [.peer 3 firstPeer .connected .succeeding,
    .peer 3 secondPeer .connected .succeeding,
    .peer 3 secondPeer (.mtu 247) .succeeding,
    .peer 3 secondPeer (.write 10 2 0 true false [9]) .succeeding,
    .own ⟨.incoming .succeeding, rfl⟩,
    .peer 3 secondPeer .disconnected .succeeding,
    .peer 3 firstPeer .disconnected .succeeding,
    .peer 3 secondPeer .connected .succeeding,
    .own ⟨.incoming .succeeding, rfl⟩]

theorem peers_invisible_crowd :
    after (inputStep someConfig .queue) (.fresh .new [])
        (prune (inputStep someConfig .queue) foreign (.fresh .new []) crowd) =
      after (inputStep someConfig .queue) (.fresh .new []) crowd ∧
    outputs (inputStep someConfig .queue) (.fresh .new [])
        (prune (inputStep someConfig .queue) foreign (.fresh .new []) crowd) =
      outputs (inputStep someConfig .queue) (.fresh .new []) crowd := by
  have hdistinct : Distinct {firstPeer, secondPeer} := by
    intro p hp q hq hsame
    simp only [Set.mem_insert_iff, Set.mem_singleton_iff] at hp hq
    rcases hp with rfl | rfl <;> rcases hq with rfl | rfl
    · rfl
    · exact absurd hsame (by decide)
    · exact absurd hsame (by decide)
    · rfl
  refine peers_invisible someConfig .queue hdistinct ?_ ?_
  · intro peer hpeer
    cases hpeer
  · simp [crowd, Input.From]

end EspIdfMatter.Bluedroid
