import EspIdfMatter.Btp
import EspIdfMatter.Library.Drain
import EspIdfMatter.Library.Machine

/-! What a BTP peripheral does, whatever Bluetooth host is below it. A trace says what happens between
the host and a single peer; a backend turns each event into one of its own and then lets both pumps run
until they have nothing to process. The ideal peripheral keeps, for a connection, nothing but what the
calls to the engine depend on. -/

namespace EspIdfMatter.Peripheral

open Library Library.Machine

inductive Event where
  /-- `attMtu` is the MTU that the host reports with the connection, if it reports one -/
  | connect (conn : Handle) (peer : Vector UInt8 6) (attMtu : Option UInt16)
  | disconnect
  | mtu (value : UInt16)
  /-- the peer turns the indications of `C2` on or off -/
  | indications (transId : UInt32) (on : Bool)
  /-- the peer writes to `C1` -/
  | write (transId : UInt32) (data : Bytes)
  /-- the peer confirms an indication -/
  | confirm
  deriving DecidableEq

/-- What a trace comes to: the last connection, whether it is up, and whether it has had an MTU event. -/
structure Link where
  conn : Handle
  peer : Vector UInt8 6
  attMtu : Option UInt16
  up : Bool
  exchanged : Bool

def Link.down : Link := ⟨0, .replicate 6 0, none, false, false⟩

def Link.next (l : Link) : Event → Link
  | .connect conn peer attMtu => ⟨conn, peer, attMtu, true, false⟩
  | .disconnect => { l with up := false }
  | .mtu _ => { l with exchanged := true }
  | _ => l

/-- A connection comes up only when there is none, and a write has 1 to `maxMtuSize` bytes. -/
def WellFormed (l : Link) : Event → Prop
  | .connect _ _ _ => l.up = false
  | .write _ data => data ≠ [] ∧ data.length ≤ maxMtuSize
  | _ => True

/-- Each event of a trace satisfies `G` on the link it finds. -/
def Trace (G : Link → Event → Prop) : Link → List Event → Prop :=
  Along (fun l e => (l.next e, ([] : List Event))) G

/-- What a backend does with the engine and the driver; calls of the engine that return no data are
left out. -/
inductive Obs where
  | reset
  | processIncoming (mtu : Option UInt16) (peer : BtAddr) (data : Bytes)
  | processOutgoing (mtu : Option UInt16) (data : Bytes)
  | indicate (conn attr : Handle) (data : Bytes)
  deriving DecidableEq

/-- Forget the MTU that the engine is given, as long as none was exchanged. -/
def Obs.mask (exchanged : Bool) : Obs → Obs
  | .processIncoming mtu peer data =>
      .processIncoming (if exchanged = true then mtu else none) peer data
  | .processOutgoing mtu data => .processOutgoing (if exchanged = true then mtu else none) data
  | e => e

/-- What is seen of a call to the engine. -/
def seen : BtpCall → Option Obs
  | .reset => some .reset
  | .processIncoming mtu peer data _ => some (.processIncoming mtu peer data)
  | .processOutgoing mtu (.ok data) => if data = [] then none else some (.processOutgoing mtu data)
  | .processOutgoing _ (.error _) => none

/-- The handles of the registered service. -/
structure Services where
  gattIf : UInt8
  service : Handle
  c1 : Handle
  c2 : Handle
  cccd : Handle
  c1_ne_cccd : c1 ≠ cccd
  c2_ne_zero : c2 ≠ 0

/-! ### Backends -/

/-- A backend over states `ω`. A pump says whether it is to be run again at once. -/
structure Backend (ω : Type) where
  handle : Link → Event → ω → ω
  incoming : ω → (ω × List Obs) × Bool
  outgoing : ω → (ω × List Obs) × Bool

/-- A pump never processes something twice in a row, so that two iterations drain it. -/
structure Backend.PumpsOnce {ω : Type} (B : Backend ω) : Prop where
  incoming : ∀ w, (B.incoming w).2 = true → (B.incoming (B.incoming w).1.1).2 = false
  outgoing : ∀ w, (B.outgoing w).2 = true → (B.outgoing (B.outgoing w).1.1).2 = false

structure Rig (ω : Type) where
  link : Link
  world : ω

/-- An event, and then both pumps until they wait. -/
def Backend.step {ω : Type} (B : Backend ω) (r : Rig ω) (e : Event) : Rig ω × List Obs :=
  let link := r.link.next e
  let incoming := drain B.incoming 2 (B.handle link e r.world)
  let outgoing := drain B.outgoing 2 incoming.1
  (⟨link, outgoing.1⟩, (incoming.2 ++ outgoing.2).map (Obs.mask link.exchanged))

/-- What a backend does along a trace that starts without a connection. -/
def Backend.observed {ω : Type} (B : Backend ω) (w : ω) (events : List Event) : List Obs :=
  outputs B.step ⟨.down, w⟩ events

/-! ### The ideal peripheral -/

structure Conn where
  conn : Handle
  peer : BtAddr
  subscribed : Bool
  mtu : Option UInt16
  /-- the engine was reset for this connection -/
  synced : Bool
  /-- the `C1` payload that waits for the engine -/
  pending : Bytes
  /-- an indication was sent and not confirmed -/
  inFlight : Bool

def Conn.new (conn : Handle) (peer : Vector UInt8 6) (mtu : Option UInt16) : Conn where
  conn := conn
  peer := ⟨peer⟩
  subscribed := false
  mtu := mtu
  synced := false
  pending := []
  inFlight := false

structure Ideal (β : Type) where
  btp : β
  ended : Option ErrorCode
  conn : Option Conn

variable {β : Type}

def Ideal.modify (i : Ideal β) (f : Conn → Conn) : Ideal β :=
  { i with conn := i.conn.map f }

/-- `known` says whether the MTU that is reported with a connection is taken over. -/
def Ideal.handle (known : Bool) (i : Ideal β) : Event → Ideal β
  | .connect conn peer attMtu =>
      { i with conn := some (.new conn peer (if known = true then attMtu else none)) }
  | .disconnect => { i with conn := none }
  | .mtu value => i.modify fun c => { c with mtu := some value }
  | .indications _ on => i.modify fun c => { c with subscribed := on }
  | .write _ data => i.modify fun c => { c with pending := data }
  | .confirm => i.modify fun c => { c with inFlight := false }

/-- The engine is reset once for each connection, before it does anything else for it. -/
def Conn.sync (c : Conn) (E : Btp β) (btp : β) : β × List Obs :=
  if c.synced = true then (btp, []) else (E.reset btp, [.reset])

def Ideal.incoming (E : Btp β) (i : Ideal β) : (Ideal β × List Obs) × Bool :=
  match i.ended, i.conn with
  | none, some c =>
      let synced := c.sync E i.btp
      let c := { c with synced := true }
      if c.pending = [] then
        ((⟨synced.1, none, some c⟩, synced.2), false)
      else
        let calls := synced.2 ++ [.processIncoming c.mtu c.peer c.pending]
        match E.processIncoming synced.1 c.mtu c.peer c.pending with
        | (btp, .error e) => ((⟨btp, some e, some c⟩, calls), false)
        | (btp, .ok ()) => ((⟨btp, none, some { c with pending := [] }⟩, calls), true)
  | _, _ => ((i, []), false)

/-- The indications are those of the `C2` value `c2`. -/
def Ideal.outgoing (E : Btp β) (c2 : Handle) (i : Ideal β) : (Ideal β × List Obs) × Bool :=
  match i.ended, i.conn with
  | none, some c =>
      if c.subscribed = false then
        ((i, []), false)
      else
        let synced := c.sync E i.btp
        let c := { c with synced := true }
        if c.inFlight = true then
          ((⟨synced.1, none, some c⟩, synced.2), false)
        else
          match E.processOutgoing synced.1 c.mtu with
          | (btp, .error e) => ((⟨btp, some e, some c⟩, synced.2), false)
          | (btp, .ok frame) =>
              if frame.toList = [] then
                ((⟨btp, none, some c⟩, synced.2), false)
              else
                ((⟨btp, none, some { c with inFlight := true }⟩,
                  synced.2 ++ [.processOutgoing c.mtu frame.toList,
                    .indicate c.conn c2 frame.toList]), true)
  | _, _ => ((i, []), false)

def ideal (E : Btp β) (c2 : Handle) (known : Bool) : Backend (Ideal β) where
  handle := fun _ e i => i.handle known e
  incoming := Ideal.incoming E
  outgoing := Ideal.outgoing E c2

/-- Between two events, the engine is reset for the connection and has what was written. -/
def Ideal.Settled (i : Ideal β) : Prop :=
  ∀ c, i.ended = none → i.conn = some c → c.synced = true ∧ c.pending = []

theorem settled_incoming (E : Btp β) (i : Ideal β) : (i.incoming E).1.1.Settled := by
  unfold Ideal.incoming
  split
  · dsimp only
    split_ifs with hempty
    · intro c _ hc
      obtain rfl := Option.some.inj hc
      exact ⟨rfl, hempty⟩
    · split
      · intro c hrunning
        cases hrunning
      · intro c _ hc
        obtain rfl := Option.some.inj hc
        exact ⟨rfl, rfl⟩
  · rename_i hidle
    intro c hrunning hc
    exact absurd hc (hidle c hrunning)

theorem settled_outgoing (E : Btp β) (c2 : Handle) {i : Ideal β} (h : i.Settled) :
    (i.outgoing E c2).1.1.Settled := by
  unfold Ideal.outgoing
  split
  · rename_i c hrunning hconn
    obtain ⟨hsynced, hpending⟩ := h c hrunning hconn
    dsimp only
    split_ifs
    · exact h
    · intro c' _ hc'
      obtain rfl := Option.some.inj hc'
      exact ⟨rfl, hpending⟩
    · split
      · intro c' hended
        cases hended
      · split_ifs
        · intro c' _ hc'
          obtain rfl := Option.some.inj hc'
          exact ⟨rfl, hpending⟩
        · intro c' _ hc'
          obtain rfl := Option.some.inj hc'
          exact ⟨rfl, hpending⟩
  · exact h

theorem settled_step (E : Btp β) (c2 : Handle) (known : Bool) (r : Rig (Ideal β)) (e : Event) :
    ((ideal E c2 known).step r e).1.world.Settled := by
  have hincoming := drain_establishes (P := fun _ => True)
    (Q := Ideal.Settled) (fun _ _ => trivial) (fun i _ => settled_incoming E i) 1
    (s := r.world.handle known e) trivial
  exact drain_establishes (fun _ h => settled_outgoing E c2 h) (fun _ h => settled_outgoing E c2 h) 1
    hincoming

/-- An iteration leaves no payload behind. -/
theorem Ideal.incoming_twice (E : Btp β) (i : Ideal β) :
    ((i.incoming E).1.1.incoming E).2 = false := by
  have hsettled := settled_incoming E i
  generalize (i.incoming E).1.1 = i at hsettled
  unfold Ideal.incoming
  split
  · rename_i c hrunning hconn
    dsimp only
    rw [if_pos (hsettled c hrunning hconn).2]
  · rfl

/-! ### Refinement -/

/-- Two pumps that keep related states related, go on at the same time, and emit the same up to the
mask. -/
def Alike {ω τ : Type} (exchanged : Bool) (R : ω → τ → Prop) (f : ω → (ω × List Obs) × Bool)
    (g : τ → (τ × List Obs) × Bool) : Prop :=
  ∀ w i, R w i → (f w).2 = (g i).2 ∧
    (f w).1.2.map (Obs.mask exchanged) = (g i).1.2.map (Obs.mask exchanged) ∧ R (f w).1.1 (g i).1.1

/-- **A backend does what the ideal peripheral does** if its events and its pumps do so. -/
theorem Backend.observed_eq {ω : Type} {B : Backend ω} {E : Btp β} {c2 : Handle} {known : Bool}
    {R : Link → ω → Ideal β → Prop} {G : Link → Event → Prop}
    (hhandle : ∀ l e w i, R l w i → i.Settled → G l e →
      R (l.next e) (B.handle (l.next e) e w) (i.handle known e))
    (hincoming : ∀ l, Alike l.exchanged (R l) B.incoming (Ideal.incoming E))
    (houtgoing : ∀ l, Alike l.exchanged (R l) B.outgoing (Ideal.outgoing E c2))
    {w : ω} {i : Ideal β} (hR : R .down w i) (hi : i.Settled) {events : List Event}
    (htrace : Trace G .down events) :
    B.observed w events = (ideal E c2 known).observed i events := by
  have hrun : ∀ (events : List Event) (l : Link) (w : ω) (i : Ideal β), R l w i → i.Settled →
      Trace G l events →
      outputs B.step ⟨l, w⟩ events = outputs (ideal E c2 known).step ⟨l, i⟩ events := by
    intro events
    induction events with
    | nil => exact fun _ _ _ _ _ _ => rfl
    | cons e events ih =>
        intro l w i hR hi htrace
        obtain ⟨hin, hR⟩ := drain_simulation (hincoming (l.next e)) 2
          (hhandle l e w i hR hi htrace.1)
        obtain ⟨hout, hR⟩ := drain_simulation (houtgoing (l.next e)) 2 hR
        have hrest := ih (l.next e) _ _ hR (settled_step E c2 known ⟨l, i⟩ e) htrace.2
        have hhead : (B.step ⟨l, w⟩ e).2 = ((ideal E c2 known).step ⟨l, i⟩ e).2 := by
          simp only [Backend.step, List.map_append]
          exact congrArg₂ (· ++ ·) hin hout
        rw [outputs_cons, outputs_cons, hhead]
        exact congrArg (_ ++ ·) hrest
  exact hrun events .down w i hR hi htrace

/-! ### The first MTU -/

/-- The engine makes no difference between this MTU and none. -/
def Ignores (E : Btp β) (mtu : Option UInt16) : Prop :=
  (∀ btp peer data, E.processIncoming btp mtu peer data = E.processIncoming btp none peer data) ∧
    ∀ btp, E.processOutgoing btp mtu = E.processOutgoing btp none

/-- As long as a connection has had no MTU event, its MTU makes no difference to the engine. -/
def Indifferent (E : Btp β) (l : Link) : Event → Prop
  | .indications _ _ | .write _ _ | .confirm =>
      l.up = true → l.exchanged = false → Ignores E l.attMtu
  | _ => True

/-- The MTU may only be a different one before the first MTU event, and then it does not matter. -/
def MtuAlike (E : Btp β) (l : Link) (c : Conn) (mtu : Option UInt16) : Prop :=
  mtu = c.mtu ∨ l.exchanged = false ∧ c.mtu = none ∧
    (c.pending ≠ [] ∨ c.subscribed = true → Ignores E mtu) ∧ mtu = l.attMtu

/-- The same, but for the MTU. -/
inductive UpToMtu (E : Btp β) (l : Link) (i j : Ideal β) : Prop where
  | ended (hi : i.ended ≠ none) (hj : j.ended ≠ none)
  | down (btp : β) (hup : l.up = false) (hi : i = ⟨btp, none, none⟩) (hj : j = ⟨btp, none, none⟩)
  | up (btp : β) (c : Conn) (mtu : Option UInt16) (hup : l.up = true)
      (hi : i = ⟨btp, none, some { c with mtu }⟩) (hj : j = ⟨btp, none, some c⟩)
      (hmtu : MtuAlike E l c mtu)

section Mtu

variable {E : Btp β} {l : Link} {c : Conn} {mtu : Option UInt16}

theorem MtuAlike.exchanged (h : MtuAlike E l c mtu) (hl : l.exchanged = true) : mtu = c.mtu := by
  rcases h with h | ⟨hnot, -⟩
  · exact h
  · rw [hl] at hnot
    cases hnot

theorem MtuAlike.mask (h : MtuAlike E l c mtu) :
    (if l.exchanged = true then mtu else none) = if l.exchanged = true then c.mtu else none := by
  split_ifs with hl
  · exact h.exchanged hl
  · rfl

theorem MtuAlike.processIncoming (h : MtuAlike E l c mtu) (hpending : c.pending ≠ []) (btp : β)
    (peer : BtAddr) (data : Bytes) :
    E.processIncoming btp mtu peer data = E.processIncoming btp c.mtu peer data := by
  rcases h with rfl | ⟨-, hnone, hignores, -⟩
  · rfl
  · rw [hnone]
    exact (hignores (.inl hpending)).1 btp peer data

theorem MtuAlike.processOutgoing (h : MtuAlike E l c mtu) (hsub : c.subscribed = true) (btp : β) :
    E.processOutgoing btp mtu = E.processOutgoing btp c.mtu := by
  rcases h with rfl | ⟨-, hnone, hignores, -⟩
  · rfl
  · rw [hnone]
    exact (hignores (.inr hsub)).2 btp

/-- What else changes does not matter once the engine makes no difference. -/
theorem MtuAlike.change (h : MtuAlike E l c mtu)
    (hignores : l.exchanged = false → Ignores E l.attMtu) {c' : Conn} (hmtu : c'.mtu = c.mtu) :
    MtuAlike E l c' mtu := by
  rcases h with h | ⟨hnot, hnone, -, hatt⟩
  · exact .inl (h.trans hmtu.symm)
  · exact .inr ⟨hnot, hmtu.trans hnone, fun _ => hatt ▸ hignores hnot, hatt⟩

/-- A pump asks for nothing that it did not ask for before. -/
theorem MtuAlike.pump (h : MtuAlike E l c mtu) {c' : Conn} (hmtu : c'.mtu = c.mtu)
    (hcalls : c'.pending ≠ [] ∨ c'.subscribed = true → c.pending ≠ [] ∨ c.subscribed = true) :
    MtuAlike E l c' mtu := by
  rcases h with h | ⟨hnot, hnone, hignores, hatt⟩
  · exact .inl (h.trans hmtu.symm)
  · exact .inr ⟨hnot, hmtu.trans hnone, fun h => hignores (hcalls h), hatt⟩

end Mtu

theorem Ideal.ended_handle (known : Bool) (i : Ideal β) (e : Event) :
    (i.handle known e).ended = i.ended := by
  cases e <;> rfl

theorem Ideal.incoming_of_ended (E : Btp β) {i : Ideal β} (h : i.ended ≠ none) :
    i.incoming E = ((i, []), false) := by
  unfold Ideal.incoming
  split
  · rename_i hrunning _
    exact absurd hrunning h
  · rfl

theorem Ideal.outgoing_of_ended (E : Btp β) (c2 : Handle) {i : Ideal β} (h : i.ended ≠ none) :
    i.outgoing E c2 = ((i, []), false) := by
  unfold Ideal.outgoing
  split
  · rename_i hrunning _
    exact absurd hrunning h
  · rfl

theorem upToMtu_handle (E : Btp β) (l : Link) (e : Event) (i j : Ideal β) (h : UpToMtu E l i j)
    (hG : Indifferent E l e) : UpToMtu E (l.next e) (i.handle true e) (j.handle false e) := by
  cases h with
  | ended hi hj =>
      exact .ended (by rwa [Ideal.ended_handle]) (by rwa [Ideal.ended_handle])
  | down btp hup hi hj =>
      subst hi hj
      cases e with
      | connect conn peer attMtu =>
          exact .up btp (.new conn peer none) attMtu rfl rfl rfl (.inr ⟨rfl, rfl, nofun, rfl⟩)
      | disconnect => exact .down btp rfl rfl rfl
      | _ => exact .down btp hup rfl rfl
  | up btp c mtu hup hi hj hmtu =>
      subst hi hj
      cases e with
      | connect conn peer attMtu =>
          exact .up btp (.new conn peer none) attMtu rfl rfl rfl (.inr ⟨rfl, rfl, nofun, rfl⟩)
      | disconnect => exact .down btp rfl rfl rfl
      | mtu value => exact .up btp { c with mtu := some value } (some value) hup rfl rfl (.inl rfl)
      | indications transId on =>
          exact .up btp { c with subscribed := on } mtu hup rfl rfl (hmtu.change (hG hup) rfl)
      | write transId data =>
          exact .up btp { c with pending := data } mtu hup rfl rfl (hmtu.change (hG hup) rfl)
      | confirm =>
          exact .up btp { c with inFlight := false } mtu hup rfl rfl (hmtu.change (hG hup) rfl)

theorem upToMtu_incoming (E : Btp β) (l : Link) :
    Alike l.exchanged (UpToMtu E l) (Ideal.incoming E) (Ideal.incoming E) := by
  intro i j h
  cases h with
  | ended hi hj =>
      rw [Ideal.incoming_of_ended E hi, Ideal.incoming_of_ended E hj]
      exact ⟨rfl, rfl, .ended hi hj⟩
  | down btp hup hi hj =>
      subst hi hj
      exact ⟨rfl, rfl, .down btp hup rfl rfl⟩
  | up btp c mtu hup hi hj hmtu =>
      subst hi hj
      unfold Ideal.incoming
      dsimp only
      rw [show Conn.sync { c with mtu } E btp = c.sync E btp from rfl]
      generalize c.sync E btp = synced
      by_cases hempty : c.pending = []
      · rw [if_pos hempty, if_pos hempty]
        exact ⟨rfl, rfl, .up _ { c with synced := true } mtu hup rfl rfl (hmtu.pump rfl id)⟩
      · rw [if_neg hempty, if_neg hempty, hmtu.processIncoming hempty]
        have hmask : (synced.2 ++ [Obs.processIncoming mtu c.peer c.pending]).map
              (Obs.mask l.exchanged) =
            (synced.2 ++ [Obs.processIncoming c.mtu c.peer c.pending]).map (Obs.mask l.exchanged) := by
          simp only [List.map_append, List.map_cons, List.map_nil, Obs.mask, hmtu.mask]
        rcases E.processIncoming synced.1 c.mtu c.peer c.pending with ⟨btp', e | u⟩
        · exact ⟨rfl, hmask, .ended nofun nofun⟩
        · exact ⟨rfl, hmask, .up btp' { c with synced := true, pending := [] } mtu hup rfl rfl
            (hmtu.pump rfl fun h => .inr (h.resolve_left fun h => h rfl))⟩

theorem upToMtu_outgoing (E : Btp β) (c2 : Handle) (l : Link) :
    Alike l.exchanged (UpToMtu E l) (Ideal.outgoing E c2) (Ideal.outgoing E c2) := by
  intro i j h
  cases h with
  | ended hi hj =>
      rw [Ideal.outgoing_of_ended E c2 hi, Ideal.outgoing_of_ended E c2 hj]
      exact ⟨rfl, rfl, .ended hi hj⟩
  | down btp hup hi hj =>
      subst hi hj
      exact ⟨rfl, rfl, .down btp hup rfl rfl⟩
  | up btp c mtu hup hi hj hmtu =>
      subst hi hj
      unfold Ideal.outgoing
      dsimp only
      rw [show Conn.sync { c with mtu } E btp = c.sync E btp from rfl]
      generalize c.sync E btp = synced
      by_cases hsub : c.subscribed = false
      · rw [if_pos hsub, if_pos hsub]
        exact ⟨rfl, rfl, .up btp c mtu hup rfl rfl hmtu⟩
      have hsubscribed : c.subscribed = true := eq_true_of_ne_false hsub
      rw [if_neg hsub, if_neg hsub]
      by_cases hflight : c.inFlight = true
      · rw [if_pos hflight, if_pos hflight]
        exact ⟨rfl, rfl, .up _ { c with synced := true } mtu hup rfl rfl (hmtu.pump rfl id)⟩
      rw [if_neg hflight, if_neg hflight, hmtu.processOutgoing hsubscribed]
      rcases E.processOutgoing synced.1 c.mtu with ⟨btp', e | frame⟩
      · exact ⟨rfl, rfl, .ended nofun nofun⟩
      · dsimp only
        by_cases hframe : frame.toList = []
        · rw [if_pos hframe, if_pos hframe]
          exact ⟨rfl, rfl, .up btp' { c with synced := true } mtu hup rfl rfl (hmtu.pump rfl id)⟩
        · rw [if_neg hframe, if_neg hframe]
          refine ⟨rfl, ?_, .up btp' { c with synced := true, inFlight := true } mtu hup rfl rfl
            (hmtu.pump rfl id)⟩
          simp only [List.map_append, List.map_cons, List.map_nil, Obs.mask, hmtu.mask]

/-- **An ideal peripheral does the same whether or not it knows the first MTU**, as long as that makes
no difference to the engine. -/
theorem ideal_upToMtu (E : Btp β) (c2 : Handle) (btp : β) {events : List Event}
    (htrace : Trace (Indifferent E) .down events) :
    (ideal E c2 true).observed ⟨btp, none, none⟩ events =
      (ideal E c2 false).observed ⟨btp, none, none⟩ events :=
  Backend.observed_eq (fun l e i j h _ hG => upToMtu_handle E l e i j h hG)
    (fun l => upToMtu_incoming E l) (fun l => upToMtu_outgoing E c2 l)
    (.down btp rfl rfl rfl) (fun _ _ h => by cases h) htrace

end EspIdfMatter.Peripheral
