import EspIdfMatter.Bluedroid.Isolation

/-! Flow control of the indications of the Bluedroid peripheral. `out_nack` is up from the moment an
indication is submitted; only a successful confirmation, or the next connection, lowers it. -/

namespace EspIdfMatter.Bluedroid

open Library Library.Machine

variable {β : Type}

/-- The peripheral, with the number of indications submitted on the tracked connection whose
confirmation was not delivered yet. -/
structure Ledger (β : Type) where
  world : World β
  awaiting : Nat

/-- An indication that the driver took. -/
def Call.submitted : Call → Bool
  | .driver (.indicate _ _ _ _) (.ok _) => true
  | _ => false

/-- What an event leaves of the indications that are awaited. -/
def settle (w : World β) (awaiting : Nat) : Step β → Nat
  | .gatts _ (.peerConnected _ _) _ => if w.state.connection = none then 0 else awaiting
  | .gatts _ (.peerDisconnected _ addr) _ =>
      if (w.state.connection.map fun conn => conn.peer) = some addr then 0 else awaiting
  | .gatts _ (.confirm _ _) _ => awaiting - 1
  | _ => awaiting

def track (cfg : Config) (E : Btp β) (L : Ledger β) (s : Step β) : Ledger β × List Call :=
  let next := step cfg E L.world s
  (⟨next.1, settle L.world L.awaiting s + next.2.countP Call.submitted⟩, next.2)

def Ledger.fresh (c : Context) (btp : β) : Ledger β := ⟨.fresh c btp, 0⟩

/-- A confirmation is that of an indication which is awaited. -/
def Admits (L : Ledger β) : Step β → Prop
  | .gatts _ (.confirm _ _) _ => 0 < L.awaiting
  | _ => True

/-- A confirmation reports success. -/
def Confirms : Step β → Prop
  | .gatts _ (.confirm status _) _ => status = .ok
  | _ => True

/-- The flag is up exactly while an indication is awaited, and that is one at most. -/
def Ledger.Exact (L : Ledger β) : Prop :=
  L.world.state.connection ≠ none →
    (L.world.state.outNack = true ↔ 0 < L.awaiting) ∧ L.awaiting ≤ 1

/-- Nothing is awaited without a connection, and the flag is exact. -/
structure Ledger.Inv (L : Ledger β) : Prop where
  untracked : L.world.state.connection = none → L.awaiting = 0
  exact : L.Exact

/-! ### Handlers -/

theorem Call.submitted_of_local {call : Call} (h : call.Local) : ¬ call.submitted = true := by
  unfold Call.submitted
  split
  · exact h.elim
  · exact Bool.false_ne_true

theorem Call.submitted_of_responds {ev : Write} {call : Call} (h : call.Responds ev) :
    ¬ call.submitted = true := by
  unfold Call.submitted
  split
  · exact h.elim
  · exact Bool.false_ne_true

/-- The handlers submit nothing. -/
theorem submitted_onGattsEvent (cfg : Config) (drv : Driver) (gattIf : GattInterface)
    (event : GattsEvent) (w : World β) :
    (onGattsEvent cfg drv gattIf event w).calls.countP Call.submitted = 0 := by
  refine List.countP_eq_zero.mpr fun call hmem => ?_
  by_cases hwrite : ∃ ev, event = .write ev
  · obtain ⟨ev, rfl⟩ := hwrite
    exact Call.submitted_of_responds (only_write cfg drv gattIf ev w call hmem)
  · push Not at hwrite
    exact Call.submitted_of_local (only_onGattsEvent cfg drv gattIf hwrite w call hmem)

theorem writeLocked_frame (w : World β) (ev : Write) :
    (writeLocked ev w).1.state.connection.isSome = w.state.connection.isSome ∧
      (writeLocked ev w).1.state.outNack = w.state.outNack := by
  unfold writeLocked
  cases hconn : w.state.connection with
  | none => exact ⟨congrArg Option.isSome hconn, rfl⟩
  | some conn =>
      dsimp only
      repeat' split
      all_goals first | exact ⟨rfl, rfl⟩ | exact ⟨congrArg Option.isSome hconn, rfl⟩

theorem registerConnMtu_isSome (connId : Handle) (mtu : UInt16) (s : State) :
    (s.registerConnMtu connId mtu).connection.isSome = s.connection.isSome ∧
      (s.registerConnMtu connId mtu).outNack = s.outNack := by
  unfold State.registerConnMtu
  split
  · rename_i conn hconn
    split
    · exact ⟨by rw [hconn]; rfl, rfl⟩
    · exact ⟨rfl, rfl⟩
  · exact ⟨rfl, rfl⟩

/-- The events that say something about a connection or an indication. -/
def GattsEvent.Matters : GattsEvent → Prop
  | .peerConnected _ _ | .peerDisconnected _ _ | .confirm _ _ => True
  | _ => False

theorem gatts_frame (cfg : Config) (drv : Driver) (gattIf : GattInterface) {event : GattsEvent}
    (hevent : ¬ event.Matters) (w : World β) :
    (onGattsEvent cfg drv gattIf event w).world.state.connection.isSome =
        w.state.connection.isSome ∧
      (onGattsEvent cfg drv gattIf event w).world.state.outNack = w.state.outNack := by
  have hregisters : event.Registers →
      (onGattsEvent cfg drv gattIf event w).world.state.connection.isSome =
          w.state.connection.isSome ∧
        (onGattsEvent cfg drv gattIf event w).world.state.outNack = w.state.outNack := by
    intro h
    have hsame := registers_sameSession cfg drv gattIf h w
    exact ⟨congrArg Option.isSome hsame.connection, hsame.outNack⟩
  cases event with
  | mtu connId mtu => exact registerConnMtu_isSome connId mtu w.state
  | write ev =>
      have hsame := write_sameSession cfg drv gattIf w ev
      obtain ⟨hconn, hnack⟩ := writeLocked_frame w ev
      exact ⟨(congrArg Option.isSome hsame.connection).trans hconn, hsame.outNack.trans hnack⟩
  | peerConnected connId addr => exact absurd trivial hevent
  | peerDisconnected connId addr => exact absurd trivial hevent
  | confirm status connId => exact absurd trivial hevent
  | _ => exact hregisters trivial

/-! ### Pumps -/

theorem syncBtp_submitted (E : Btp β) (w : World β) :
    (w.syncBtp E).2.countP Call.submitted = 0 := by
  unfold World.syncBtp State.syncBtp
  split <;> rfl

theorem incoming_frame (E : Btp β) (drv : Driver) (w : World β) :
    (processIncoming E drv w).calls.countP Call.submitted = 0 ∧
      (processIncoming E drv w).world.state.connection = w.state.connection ∧
      (processIncoming E drv w).world.state.outNack = w.state.outNack := by
  have hstate := World.syncBtp_state E w
  have hcalls := syncBtp_submitted E w
  unfold processIncoming
  dsimp only
  repeat' split
  all_goals
    refine ⟨?_, by simp [hstate], by simp [hstate]⟩
    simp [List.countP_append, hcalls, Call.submitted]

/-- An iteration submits one indication at most, and only if the flag is down; it raises it then. -/
theorem outgoing_cases (E : Btp β) (drv : Driver) (w : World β) :
    (processOutgoing E drv w).world.state.connection = w.state.connection ∧
      (((processOutgoing E drv w).calls.countP Call.submitted = 0 ∧
          (processOutgoing E drv w).world.state.outNack = w.state.outNack) ∨
        ((processOutgoing E drv w).calls.countP Call.submitted = 1 ∧ w.state.outNack = false ∧
          (processOutgoing E drv w).world.state.outNack = true ∧ w.state.connection ≠ none)) := by
  have hstate := World.syncBtp_state E w
  have hcalls := syncBtp_submitted E w
  unfold processOutgoing
  split
  · rename_i gattIf c2Handle conn hif hc2 hconn
    split
    · exact ⟨rfl, Or.inl ⟨rfl, rfl⟩⟩
    dsimp only
    split
    · exact ⟨by rw [hstate], Or.inl ⟨hcalls, by rw [hstate]⟩⟩
    rename_i hnack
    split
    · exact ⟨by simp [hstate],
        Or.inl ⟨by simp [List.countP_append, hcalls, Call.submitted], by simp [hstate]⟩⟩
    split
    · split
      · exact ⟨by simp [hstate],
          Or.inl ⟨by simp [List.countP_append, hcalls, Call.submitted], by simp [hstate]⟩⟩
      · refine ⟨by simp [hstate], Or.inr ⟨?_, ?_, rfl, by rw [hconn]; exact Option.some_ne_none _⟩⟩
        · simp [List.countP_append, hcalls, Call.submitted]
        · rw [hstate] at hnack
          exact eq_false_of_ne_true hnack
    · exact ⟨by simp [hstate],
        Or.inl ⟨by simp [List.countP_append, hcalls, Call.submitted], by simp [hstate]⟩⟩
  · exact ⟨rfl, Or.inl ⟨rfl, rfl⟩⟩

/-! ### Steps -/

section Steps

variable {cfg : Config} {E : Btp β} {L : Ledger β}

/-- A step that keeps the flag, the connection and the count. -/
theorem Ledger.Inv.congr {L' : Ledger β} (h : L.Inv)
    (hconn : L'.world.state.connection.isSome = L.world.state.connection.isSome)
    (hnack : L'.world.state.outNack = L.world.state.outNack) (hawaiting : L'.awaiting = L.awaiting) :
    L'.Inv := by
  have hiff : L'.world.state.connection = none ↔ L.world.state.connection = none := by
    rw [← Option.isNone_iff_eq_none, ← Option.isNone_iff_eq_none, ← Option.not_isSome,
      ← Option.not_isSome, hconn]
  refine ⟨fun h' => hawaiting.trans (h.untracked (hiff.mp h')), fun h' => ?_⟩
  rw [hnack, hawaiting]
  exact h.exact fun hnone => h' (hiff.mpr hnone)

theorem track_gatts (gattIf : GattInterface) (event : GattsEvent) (drv : Driver) :
    (track cfg E L (.gatts gattIf event drv)).1 =
      ⟨(onGattsEvent cfg drv gattIf event L.world).world,
        settle L.world L.awaiting (.gatts gattIf event drv)⟩ := by
  have hsilent := submitted_onGattsEvent cfg drv gattIf event L.world
  simp only [track, step, Handled.finish, hsilent, Nat.add_zero]

theorem inv_gatts (h : L.Inv) (gattIf : GattInterface) (event : GattsEvent) (drv : Driver)
    (hconfirms : Confirms (β := β) (.gatts gattIf event drv)) :
    (track cfg E L (.gatts gattIf event drv)).1.Inv := by
  rw [track_gatts]
  by_cases hmatters : event.Matters
  · cases event with
    | peerConnected connId addr =>
        have hstate := peerConnected_state cfg drv gattIf L.world connId addr
        by_cases hconn : L.world.state.connection = none
        · rw [if_pos hconn] at hstate
          simp only [settle, if_pos hconn]
          refine ⟨fun _ => rfl, fun _ => ?_⟩
          rw [hstate]
          simp [State.createConn]
        · rw [if_neg hconn] at hstate
          simp only [settle, if_neg hconn]
          exact h.congr (by rw [hstate]) (by rw [hstate]) rfl
    | peerDisconnected connId addr =>
        have hstate := peerDisconnected_state cfg drv gattIf L.world connId addr
        by_cases hpeer : (L.world.state.connection.map fun conn => conn.peer) = some addr
        · rw [if_pos hpeer] at hstate
          simp only [settle, if_pos hpeer]
          exact ⟨fun _ => rfl, fun hsome => absurd (by rw [hstate]; rfl) hsome⟩
        · rw [if_neg hpeer] at hstate
          simp only [settle, if_neg hpeer]
          exact h.congr (by rw [hstate]) (by rw [hstate]) rfl
    | confirm status connId =>
        have hstate := confirm_state cfg drv gattIf L.world status connId
        cases hconfirms
        refine ⟨fun hnone => ?_, fun hsome => ?_⟩
        · rw [hstate] at hnone
          have hzero := h.untracked hnone
          simp [settle, hzero]
        · rw [hstate] at hsome ⊢
          have hone := (h.exact hsome).2
          simp only [settle]
          constructor
          · simp only [Bool.false_eq_true, false_iff]
            omega
          · omega
    | _ => exact hmatters.elim
  · obtain ⟨hconn, hnack⟩ := gatts_frame cfg drv gattIf hmatters L.world
    refine h.congr hconn hnack ?_
    cases event with
    | peerConnected connId addr => exact absurd trivial hmatters
    | peerDisconnected connId addr => exact absurd trivial hmatters
    | confirm status connId => exact absurd trivial hmatters
    | _ => rfl

variable (cfg E) in
/-- **Every step keeps the flag exact**, except an unsuccessful confirmation. -/
theorem inv_step (h : L.Inv) (s : Step β) (hconfirms : Confirms s) : (track cfg E L s).1.Inv := by
  cases s with
  | gatts gattIf event drv => exact inv_gatts h gattIf event drv hconfirms
  | gap event drv =>
      have hsilent : (onGapEvent drv event L.world).calls.countP Call.submitted = 0 :=
        List.countP_eq_zero.mpr fun call hmem =>
          Call.submitted_of_local (only_onGapEvent drv event L.world call hmem)
      have hworld := onGapEvent_world drv event L.world
      refine h.congr ?_ ?_ ?_ <;> simp [track, step, Handled.finish, settle, hsilent, hworld]
  | incoming drv =>
      obtain ⟨hcalls, hconn, hnack⟩ := incoming_frame E drv L.world
      by_cases hended : L.world.ended = none
      · refine h.congr ?_ ?_ ?_ <;>
          simp [track, step, hended, Iteration.finish, settle, hcalls, hconn, hnack]
      · refine h.congr ?_ ?_ ?_ <;> simp [track, step, hended, settle]
  | outgoing drv =>
      obtain ⟨hconn, hcases⟩ := outgoing_cases E drv L.world
      by_cases hended : L.world.ended = none
      · rcases hcases with ⟨hcalls, hnack⟩ | ⟨hcalls, hdown, hup, hsome⟩
        · refine h.congr ?_ ?_ ?_ <;>
            simp [track, step, hended, Iteration.finish, settle, hcalls, hconn, hnack]
        · have hzero : L.awaiting = 0 := by
            have hexact := (h.exact hsome).1
            rw [hdown] at hexact
            simpa using hexact
          have htrack : (track cfg E L (.outgoing drv)).1.awaiting = 1 := by
            simp [track, step, hended, Iteration.finish, settle, hcalls, hzero]
          have hstate : (track cfg E L (.outgoing drv)).1.world.state =
              (processOutgoing E drv L.world).world.state := by
            simp [track, step, hended, Iteration.finish]
          refine ⟨fun hnone => ?_, fun _ => ?_⟩
          · rw [hstate, hconn] at hnone
            exact absurd hnone hsome
          · rw [hstate, htrack, hup]
            simp
      · refine h.congr ?_ ?_ ?_ <;> simp [track, step, hended, settle]
  | matter btp => refine h.congr ?_ ?_ ?_ <;> simp [track, step, settle]

/-- An unsuccessful confirmation leaves the flag up although nothing is awaited any more. -/
theorem not_exact_of_unconfirmed (h : L.Inv) {gattIf : GattInterface} {code : Nat}
    {connId : Handle} {drv : Driver}
    (hadmits : Admits L (.gatts gattIf (.confirm (.failed code) connId) drv)) :
    ¬ (track cfg E L (.gatts gattIf (.confirm (.failed code) connId) drv)).1.Exact := by
  have hpending : 0 < L.awaiting := hadmits
  have hsome : L.world.state.connection ≠ none := fun hnone => by
    rw [h.untracked hnone] at hpending
    exact Nat.lt_irrefl 0 hpending
  obtain ⟨hflag, hone⟩ := h.exact hsome
  have hstate := confirm_state cfg drv gattIf L.world (.failed code) connId
  rw [track_gatts]
  intro hexact
  have hzero : settle L.world L.awaiting (.gatts gattIf (.confirm (.failed code) connId) drv) = 0 := by
    simp only [settle]
    omega
  have hbad := (hexact (by rw [hstate]; exact hsome)).1
  dsimp only at hbad
  rw [hstate, hzero] at hbad
  exact Nat.lt_irrefl 0 (hbad.mp (hflag.mpr hpending))

end Steps

/-! ### Runs -/

theorem inv_fresh (c : Context) (btp : β) : (Ledger.fresh c btp).Inv :=
  ⟨fun _ => rfl, fun h => absurd rfl h⟩

/-- A step that does not confirm reports an unsuccessful confirmation. -/
theorem unconfirmed_of_not_confirms {s : Step β} (h : ¬ Confirms s) :
    ∃ gattIf code connId drv, s = .gatts gattIf (.confirm (.failed code) connId) drv := by
  cases s with
  | gatts gattIf event drv =>
      cases event with
      | confirm status connId =>
          cases status with
          | ok => exact absurd rfl h
          | failed code => exact ⟨gattIf, code, connId, drv, rfl⟩
      | _ => exact absurd trivial h
  | _ => exact absurd trivial h

theorem exact_iff (cfg : Config) (E : Btp β) {L : Ledger β} (h : L.Inv) (steps : List (Step β))
    (hadmits : Along (track cfg E) Admits L steps) :
    (∀ before rest, steps = before ++ rest → (after (track cfg E) L before).Exact) ↔
      ∀ s ∈ steps, Confirms s := by
  induction steps generalizing L with
  | nil =>
      refine ⟨fun _ s hs => absurd hs List.not_mem_nil, fun _ before rest heq => ?_⟩
      rw [(List.append_eq_nil_iff.mp heq.symm).1]
      exact h.exact
  | cons s steps ih =>
      constructor
      · intro hexact
        have hhead : Confirms s := by
          by_contra hnot
          obtain ⟨gattIf, code, connId, drv, rfl⟩ := unconfirmed_of_not_confirms hnot
          exact not_exact_of_unconfirmed h hadmits.1 (hexact [_] steps rfl)
        have htail := (ih (inv_step cfg E h s hhead) hadmits.2).mp fun before rest heq =>
          hexact (s :: before) rest (by rw [heq]; rfl)
        intro s' hs'
        rcases List.mem_cons.mp hs' with rfl | hs'
        · exact hhead
        · exact htail s' hs'
      · intro hall before rest heq
        cases before with
        | nil => exact h.exact
        | cons s' before =>
            obtain ⟨rfl, hrest⟩ := List.cons.inj heq
            have hnext := inv_step cfg E h s (hall s List.mem_cons_self)
            exact (ih hnext hadmits.2).mpr (fun s' hs' => hall s' (List.mem_cons_of_mem _ hs'))
              before rest hrest

/-- **Flow control is exact in every state of a run if and only if every confirmation in it reports
success.** -/
theorem flow_control_exact_iff (cfg : Config) (E : Btp β) (c : Context) (btp : β)
    (steps : List (Step β)) (hadmits : Along (track cfg E) Admits (.fresh c btp) steps) :
    (∀ before rest, steps = before ++ rest →
        (after (track cfg E) (.fresh c btp) before).Exact) ↔
      ∀ s ∈ steps, Confirms s :=
  exact_iff cfg E (inv_fresh c btp) steps hadmits

/-! ### Runs on either side of the condition -/

def somePeer : BdAddr := ⟨.replicate 6 7⟩

def someConfig : Config where
  appId := 0
  serviceName := "BT"
  serviceAdvData := .empty
  c1MaxLen := 512
  c2MaxLen := 512

/-- The service comes up: `C1` has handle 2, `C2` handle 4, and its descriptor handle 5. -/
def registering : List (Step (List Buffer)) :=
  [.gatts 3 (.serviceRegistered .ok 0) .succeeding,
    .gatts 3 (.serviceCreated .ok 1) .succeeding,
    .gatts 3 (.characteristicAdded .ok 2 1 .c1) .succeeding,
    .gatts 3 (.characteristicAdded .ok 4 1 .c2) .succeeding,
    .gatts 3 (.descriptorAdded .ok 5 1 .cccd) .succeeding]

def subscribing : Write where
  connId := 1
  transId := 10
  addr := somePeer
  handle := 5
  offset := 0
  needRsp := true
  isPrep := false
  value := [2, 0]

/-- A peer connects, subscribes, and confirms the one indication that is sent with this status. -/
def confirmingRun (status : GattStatus) : List (Step (List Buffer)) :=
  registering ++
    [.gatts 3 (.peerConnected 1 somePeer) .succeeding, .gatts 3 (.write subscribing) .succeeding,
      .outgoing .succeeding, .gatts 3 (.confirm status 1) .succeeding]

theorem admits_confirmingRun (status : GattStatus) :
    Along (track someConfig .queue) Admits (.fresh .new [⟨[1], by decide⟩])
      (confirmingRun status) := by
  refine ⟨trivial, trivial, trivial, trivial, trivial, trivial, trivial, trivial, ?_, trivial⟩
  change 0 < _
  decide +kernel

theorem flow_control_exact_iff_confirmed :
    (after (track someConfig .queue) (.fresh .new [⟨[1], by decide⟩]) (confirmingRun .ok)).Exact := by
  refine (flow_control_exact_iff someConfig .queue .new [⟨[1], by decide⟩] (confirmingRun .ok)
    (admits_confirmingRun .ok)).mpr ?_ _ [] (List.append_nil _).symm
  simp [confirmingRun, registering, Confirms]

/-- After an unsuccessful confirmation the flag stays up, and nothing is awaited. -/
theorem failed_confirmation_blocks :
    Along (track someConfig .queue) Admits (.fresh .new [⟨[1], by decide⟩])
        (confirmingRun (.failed 133)) ∧
      ¬ (after (track someConfig .queue) (.fresh .new [⟨[1], by decide⟩])
        (confirmingRun (.failed 133))).Exact := by
  refine ⟨admits_confirmingRun _, ?_⟩
  unfold Ledger.Exact
  decide +kernel

end EspIdfMatter.Bluedroid
