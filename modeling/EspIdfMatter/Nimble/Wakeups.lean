import EspIdfMatter.Nimble.Tasks
import EspIdfMatter.Library.Latch

/-! Wake-ups of the pumps of the NimBLE peripheral: no step of the hooks or of the pumps leaves a pump
waiting that has something to do, unless its signal is raised or owed. -/

namespace EspIdfMatter.Nimble

open Library Library.Machine

variable {β : Type}

/-! ### The invariant -/

namespace Tasks

def WokenIncoming (T : Tasks β) : Prop :=
  T.world.context.notifyProcessIncoming = true ∨ T.system.host.WakesIncoming

def WokenOutgoing (T : Tasks β) : Prop :=
  T.world.context.notifyProcessOutgoing = true ∨ T.system.host.WakesOutgoing

end Tasks

/-- What the outgoing pump relies on while it holds the state lock. -/
def Stage.Ok (subscribed : Bool) : Stage → Prop
  | .checkNack _ | .loadHandle _ | .produce _ _ => subscribed = true
  | .indicating _ nested => nested.Completes
  | _ => True

/-- The flag is up for an indication that is not submitted yet, or about to be cleared. -/
def Stage.Unsettled : Stage → Prop
  | .send _ _ _ | .clearNack => True
  | .indicating _ nested => nested.Clears
  | _ => False

/-- Nothing is missed, and what makes it so. -/
structure Tasks.Inv (T : Tasks β) : Prop where
  fair : T.system.host.Fair T.world.c2ValHandle T.world.state.subscribed
  registered : T.world.state.subscribed = true → T.world.c2ValHandle ≠ 0
  stage : T.system.pump.Ok T.world.state.subscribed
  parked : T.outgoingWaits = true → T.system.pump = .start
  -- Advertising was taken care of at the start of the iteration.
  advertised : T.system.pump = .start ∨ T.WokenOutgoing ∨ T.world.state.needAdvertise = false
  flagged : T.world.outNack = true →
    T.system.Unacknowledged ∨ T.system.host.Clears ∨ T.system.pump.Unsettled
  incoming : Alert (T.incomingWaits = true) T.WokenIncoming T.world.state.IncomingIdle
  outgoing : Alert (T.outgoingWaits = true) T.WokenOutgoing (T.OutgoingIdle (T.world.outNack = true))

theorem System.arrive_eq (S : System β) (event : Event) (completes : Nat) :
    (S.arrive event completes).world = S.world ∧ (S.arrive event completes).pump = S.pump ∧
      (S.arrive event completes).submitted = S.submitted ∧
      ((S.arrive event completes).awaiting = S.awaiting ∨ (hook event).Clears) := by
  unfold System.arrive
  split
  · exact ⟨rfl, rfl, rfl, .inr fun _ => rfl⟩
  · exact ⟨rfl, rfl, rfl, .inl rfl⟩
  · split
    · rename_i hterminal
      refine ⟨rfl, rfl, rfl, .inr ?_⟩
      unfold Event.Terminal at hterminal
      split at hterminal
      · simp only [hook, gattsHook, if_pos (And.imp_right Or.inr hterminal)]
        rfl
      · exact hterminal.elim
    · exact ⟨rfl, rfl, rfl, .inl rfl⟩

theorem Hook.Idle.not_owing {h : Hook} (hidle : h.Idle) :
    ¬ h.WakesIncoming ∧ ¬ h.WakesOutgoing ∧ ¬ h.Clears := by
  cases h with
  | ret code => exact ⟨id, id, id⟩
  | _ => exact hidle.elim

/-! ### The host task -/

theorem Tasks.inv_deliver (E : Btp β) {T : Tasks β} (hT : T.Inv) {event : Event} {completes : Nat}
    (hidle : T.system.host.Idle) (hvalid : event.Valid) : (T.act E (.deliver event completes)).Inv := by
  obtain ⟨hnoIn, hnoOut, hnoClear⟩ := hidle.not_owing
  obtain ⟨hworld, hpump, hsubmitted, hawaiting⟩ := T.system.arrive_eq event completes
  have hsystem : (T.act E (.deliver event completes)).system =
      { T.system.arrive event completes with host := hook event } := rfl
  have hworld' : (T.act E (.deliver event completes)).world = T.world := hworld
  have hpump' : (T.act E (.deliver event completes)).system.pump = T.system.pump := hpump
  constructor
  · rw [hworld']
    exact fair_hook hvalid _ _
  · rw [hworld']
    exact hT.registered
  · rw [hworld', hpump']
    exact hT.stage
  · rw [hpump']
    exact hT.parked
  · rw [hworld', hpump']
    refine hT.advertised.imp_right fun h => h.imp_left fun h => .inl ?_
    rw [hworld']
    exact h.resolve_right hnoOut
  · rw [hworld', hpump']
    intro hnack
    rcases hawaiting with hsame | hclears
    · rcases hT.flagged hnack with ⟨id, hmem, hid⟩ | hclears | hunsettled
      · exact .inl ⟨id, by rw [hsystem]; exact hsame.symm ▸ hmem, by rw [hsystem]; exact hsubmitted.trans hid⟩
      · exact absurd hclears hnoClear
      · exact .inr (.inr hunsettled)
    · exact .inr (.inl hclears)
  · rw [hworld']
    refine hT.incoming.keep id (fun h => .inl ?_) .inr
    rw [hworld']
    exact h.resolve_right hnoIn
  · rw [Tasks.OutgoingIdle, hworld']
    refine hT.outgoing.keep id (fun h => .inl ?_) .inr
    rw [hworld']
    exact h.resolve_right hnoOut

theorem Tasks.inv_host (E : Btp β) {T : Tasks β} (hT : T.Inv)
    (hlock : T.system.host.Locks → T.system.pump.Outside) : (T.act E .host).Inv := by
  have hstep := stepped_atom hT.fair
  obtain ⟨next, hnext⟩ : ∃ next, next = T.system.host.atom T.world := ⟨_, rfl⟩
  rw [← hnext] at hstep
  have hact : T.act E .host =
      { T with system := { T.system with host := next.1, world := next.2 } } := by
    rw [hnext]
    rfl
  rw [hact]
  refine ⟨hstep.fair, hstep.registered hT.registered, ?_, hT.parked, ?_, fun hnack => ?_, ?_, ?_⟩
  · change T.system.pump.Ok next.2.state.subscribed
    by_cases hlocks : T.system.host.Locks
    · have hout := hlock hlocks
      cases hpump : T.system.pump <;> rw [hpump] at hout <;> trivial
    · rw [hstep.state hlocks]
      exact hT.stage
  · refine hT.advertised.imp_right fun h => ?_
    rcases h with hwoken | hno
    · exact .inl (hstep.wokenOutgoing hwoken)
    · by_cases hneed : next.2.state.needAdvertise = true
      · refine .inl (.inr ((hstep.advertise hneed).resolve_right ?_))
        rw [Bool.not_eq_true]
        exact hno
      · exact .inr (eq_false_of_ne_true hneed)
  · obtain ⟨hbefore, hclears⟩ := hstep.cleared hnack
    exact (hT.flagged hbefore).imp_right (Or.imp_left hclears)
  · refine hT.incoming.keep id hstep.wokenIncoming fun hidle => ?_
    exact (hstep.incoming hidle).imp_left .inr
  · refine hT.outgoing.keep id hstep.wokenOutgoing fun hidle => ?_
    obtain ⟨hno, hidle⟩ := hidle
    by_cases hwoken : next.1.WakesOutgoing
    · exact .inl (.inr hwoken)
    refine .inr ⟨eq_false_of_ne_true fun hneed => ?_, ?_⟩
    · cases hno.symm.trans ((hstep.advertise hneed).resolve_left hwoken)
    cases hsub : next.2.state.subscribed with
    | false => exact .inl hsub
    | true =>
        obtain ⟨hbefore, hgen⟩ := (hstep.subscribed hsub).resolve_left hwoken
        rcases hidle with hunsub | hnack | hasked
        · cases hunsub.symm.trans hbefore
        · have hstill := ((hstep.acknowledged hnack).resolve_left hwoken).resolve_left (by rw [hsub]; nofun)
          exact .inr (.inl hstill)
        · exact .inr (.inr (hasked.trans (congrArg some hgen.symm)))

/-! ### The pumps -/

/-- What an iteration of a pump leaves alone. -/
structure Kept (w w' : World β) : Prop where
  c2ValHandle : w'.c2ValHandle = w.c2ValHandle
  connection : w'.state.connection = w.state.connection
  connGen : w'.state.connGen = w.state.connGen
  notifyIncoming : w'.context.notifyProcessIncoming = w.context.notifyProcessIncoming
  notifyOutgoing : w'.context.notifyProcessOutgoing = w.context.notifyProcessOutgoing
  advertise : w.state.needAdvertise = false → w'.state.needAdvertise = false
  incoming : w.state.IncomingIdle → w'.state.IncomingIdle

theorem Kept.refl (w : World β) : Kept w w := ⟨rfl, rfl, rfl, rfl, rfl, id, id⟩

theorem Kept.subscribed {w w' : World β} (h : Kept w w') : w'.state.subscribed = w.state.subscribed := by
  rw [State.subscribed, h.connection, State.subscribed]

theorem kept_syncBtp (E : Btp β) (w : World β) : Kept w (w.syncBtp E).1 := by
  have hstate := World.syncBtp_state E w
  refine ⟨rfl, by rw [hstate], by rw [hstate], rfl, rfl, ?_, ?_⟩
  · rw [hstate]
    exact id
  · rw [hstate]
    exact fun hidle => hidle.imp_right fun hsynced => ⟨rfl, hsynced.2⟩

theorem kept_readvertise (d : Driver) (w : World β) :
    Kept w (readvertise d w).1 ∧ (readvertise d w).1.state.needAdvertise = false ∧
      (readvertise d w).1.outNack = w.outNack := by
  unfold readvertise
  split
  · exact ⟨⟨rfl, rfl, rfl, rfl, rfl, fun _ => rfl, id⟩, rfl, rfl⟩
  · rename_i hneed
    exact ⟨.refl w, eq_false_of_ne_true hneed, rfl⟩

/-- A step of the outgoing pump. It waits only if it is at the start of its loop, and there is nothing to
send. -/
theorem Tasks.Inv.pump {T : Tasks β} (hT : T.Inv) {S : System β} {waits : Bool} {asked : Option Usize}
    (hhost : S.host = T.system.host) (hkept : Kept T.world S.world)
    (hstage : S.pump.Ok T.world.state.subscribed)
    (hadvertised : T.WokenOutgoing ∨ S.world.state.needAdvertise = false)
    (hflagged : S.world.outNack = true →
      S.Unacknowledged ∨ S.host.Clears ∨ S.pump.Unsettled)
    (hwaits : waits = true → S.pump = .start ∧ (T.world.state.subscribed = false ∨
      S.world.outNack = true ∨ asked = some T.world.state.connGen)) :
    Tasks.Inv { T with system := S, outgoingWaits := waits, asked } := by
  have hsub := hkept.subscribed
  have hwokenIn : T.WokenIncoming →
      S.world.context.notifyProcessIncoming = true ∨ S.host.WakesIncoming := by
    rw [hkept.notifyIncoming, hhost]
    exact id
  have hwokenOut : T.WokenOutgoing →
      S.world.context.notifyProcessOutgoing = true ∨ S.host.WakesOutgoing := by
    rw [hkept.notifyOutgoing, hhost]
    exact id
  refine ⟨?_, ?_, ?_, fun h => (hwaits h).1, .inr (hadvertised.imp_left hwokenOut), hflagged,
    hT.incoming.keep id hwokenIn fun h => .inr (hkept.incoming h), fun h => ?_⟩
  · change S.host.Fair S.world.c2ValHandle S.world.state.subscribed
    rw [hhost, hkept.c2ValHandle, hsub]
    exact hT.fair
  · change S.world.state.subscribed = true → S.world.c2ValHandle ≠ 0
    rw [hkept.c2ValHandle, hsub]
    exact hT.registered
  · change S.pump.Ok S.world.state.subscribed
    rw [hsub]
    exact hstage
  · refine hadvertised.imp hwokenOut fun hno => ⟨hno, ?_⟩
    change S.world.state.subscribed = false ∨ S.world.outNack = true ∨ asked = some S.world.state.connGen
    rw [hsub, hkept.connGen]
    exact (hwaits h).2

theorem System.looped_eq_true {S : System β} (h : S.looped = true) :
    S.pump = .start ∧ S.world.ended = none := by
  obtain ⟨hstart, hended⟩ := Bool.and_eq_true_iff.mp h
  refine ⟨?_, Option.isNone_iff_eq_none.mp hended⟩
  cases hpump : S.pump <;> rw [hpump] at hstart <;> first | rfl | cases hstart

/-- A step to another stage of the same iteration. -/
theorem Tasks.Inv.onward {T : Tasks β} (hT : T.Inv) {world : World β} {stage : Stage} {asked : Option Usize}
    (hkept : Kept T.world world) (hon : stage.atStart = false) (hstage : stage.Ok T.world.state.subscribed)
    (hadvertised : T.WokenOutgoing ∨ world.state.needAdvertise = false)
    (hflagged : world.outNack = true →
      T.system.Unacknowledged ∨ T.system.host.Clears ∨ stage.Unsettled) :
    Tasks.Inv { T with
      system := { T.system with world, pump := stage }
      outgoingWaits := System.looped { T.system with world, pump := stage }
      asked } := by
  refine hT.pump rfl hkept hstage hadvertised hflagged fun h => ?_
  have hstart := (Bool.and_eq_true_iff.mp h).1
  cases hon.symm.trans hstart

/-- The end of an iteration. -/
theorem Tasks.Inv.back {T : Tasks β} (hT : T.Inv) {world : World β} {asked : Option Usize}
    (hkept : Kept T.world world) (hadvertised : T.WokenOutgoing ∨ world.state.needAdvertise = false)
    (hflagged : world.outNack = true → T.system.Unacknowledged ∨ T.system.host.Clears)
    (hidle : world.ended = none → T.world.state.subscribed = false ∨ world.outNack = true ∨
      asked = some T.world.state.connGen) :
    Tasks.Inv { T with
      system := { T.system with world, pump := .start }
      outgoingWaits := System.looped { T.system with world, pump := .start }
      asked } :=
  hT.pump rfl hkept trivial hadvertised (fun h => (hflagged h).imp_right .inl) fun h =>
    ⟨rfl, hidle (System.looped_eq_true h).2⟩

theorem State.subscribed_of_connection {s : State} {conn : Connection} (h : s.connection = some conn) :
    s.subscribed = conn.subscribed := by
  rw [State.subscribed, h]
  rfl

/-- A step from one stage of an iteration to another, or to its end. -/
theorem Tasks.act_pump (E : Btp β) {T : Tasks β} (d : Driver) {stage stage' : Stage} {w : World β}
    {calls : List Call} (hpump : T.system.pump = stage) (hstart : stage.atStart = false)
    (hcalling : stage.calling = false)
    (hadvance : stage.advance E d T.system.submitted T.world = ⟨w, calls, stage'⟩) :
    T.act E (.pump d) = { T with
      system := { T.system with world := w, pump := stage' }
      outgoingWaits := System.looped { T.system with world := w, pump := stage' }
      asked := if calls.any Call.vain = true then some T.world.state.connGen else T.asked } := by
  have hnext : Nimble.act E T.system (.pump d) = { T.system with world := w, pump := stage' } := by
    rw [Tasks.world] at hadvance
    simp only [Nimble.act, hpump, hadvance]
    split
    · cases hcalling
    · rfl
  simp only [Tasks.act, hnext, hpump, hstart, hadvance]
  rfl

section Pump

variable (E : Btp β) {T : Tasks β} (d : Driver)

theorem Tasks.inv_start (hT : T.Inv) (hpump : T.system.pump = .start) (hrunning : T.outgoingWaits = false) :
    (T.act E (.pump d)).Inv := by
  have hflagged := hT.flagged
  rw [hpump] at hflagged
  have hwaits : ¬ T.outgoingWaits = true := by
    rw [hrunning]
    exact Bool.false_ne_true
  simp only [Tasks.act, Nimble.act, hpump, Stage.advance]
  by_cases hended : T.system.world.ended = none
  · rw [if_pos hended]
    obtain ⟨hkept, hno, hnack⟩ := kept_readvertise d T.world
    refine hT.pump (S := { T.system with world := (readvertise d T.world).1, pump := .advertised }) rfl hkept
      trivial (.inr hno) ?_ fun h => absurd h hwaits
    rw [hnack]
    exact hflagged
  · rw [if_neg hended]
    exact ⟨hT.fair, hT.registered, trivial, fun _ => rfl, .inl rfl, hflagged, hT.incoming,
      .of_awake hwaits⟩

theorem Tasks.Inv.settled (hT : T.Inv) {stage : Stage} (hpump : T.system.pump = stage)
    (hsettled : ¬ stage.Unsettled) (hnack : T.world.outNack = true) :
    T.system.Unacknowledged ∨ T.system.host.Clears := by
  rw [← hpump] at hsettled
  exact (hT.flagged hnack).imp_right fun h => h.resolve_right hsettled

/-- From the second stage on, advertising was taken care of. -/
theorem Tasks.Inv.started (hT : T.Inv) {stage : Stage} (hpump : T.system.pump = stage)
    (hstart : stage.atStart = false) : T.WokenOutgoing ∨ T.world.state.needAdvertise = false := by
  refine hT.advertised.resolve_left fun h => ?_
  rw [← hpump, h] at hstart
  cases hstart

theorem Tasks.inv_advertised (hT : T.Inv) (hpump : T.system.pump = .advertised) :
    (T.act E (.pump d)).Inv := by
  have hnack := hT.settled hpump id
  have hadvertised := hT.started hpump rfl
  by_cases hended : T.world.ended = none
  · cases hconn : T.world.state.connection with
    | none =>
        have hadvance : Stage.advertised.advance E d T.system.submitted T.world = ⟨T.world, [], .start⟩ := by
          simp only [Stage.advance, if_pos hended, hconn]
        rw [Tasks.act_pump E d hpump rfl rfl hadvance]
        refine hT.back (.refl _) hadvertised hnack fun _ => .inl ?_
        rw [State.subscribed, hconn]
        rfl
    | some conn =>
        have hsub := State.subscribed_of_connection hconn
        cases hsubscribed : conn.subscribed with
        | false =>
            have hadvance : Stage.advertised.advance E d T.system.submitted T.world = ⟨T.world, [], .start⟩ := by
              simp only [Stage.advance, if_pos hended, hconn, if_pos hsubscribed]
            rw [Tasks.act_pump E d hpump rfl rfl hadvance]
            exact hT.back (.refl _) hadvertised hnack fun _ => .inl (hsub.trans hsubscribed)
        | true =>
            have hadvance : Stage.advertised.advance E d T.system.submitted T.world =
                ⟨(T.world.syncBtp E).1, (T.world.syncBtp E).2, .checkNack conn⟩ := by
              simp [Stage.advance, hended, hconn, hsubscribed]
            rw [Tasks.act_pump E d hpump rfl rfl hadvance]
            have hkept := kept_syncBtp E T.world
            exact hT.onward hkept rfl (hsub.trans hsubscribed) (hadvertised.imp_right hkept.advertise)
              fun h => (hnack h).imp_right .inl
  · rw [Tasks.act_pump E d hpump rfl rfl (if_neg hended)]
    exact hT.onward (.refl _) rfl trivial hadvertised fun h => (hnack h).imp_right .inl

theorem Tasks.inv_checkNack (hT : T.Inv) {conn : Connection} (hpump : T.system.pump = .checkNack conn) :
    (T.act E (.pump d)).Inv := by
  have hnack := hT.settled hpump id
  have hadvertised := hT.started hpump rfl
  have hsubscribed := hT.stage
  rw [hpump] at hsubscribed
  by_cases hflag : T.world.outNack = true
  · rw [Tasks.act_pump E d hpump rfl rfl (if_pos hflag)]
    exact hT.back (.refl _) hadvertised hnack fun _ => .inr (.inl hflag)
  · rw [Tasks.act_pump E d hpump rfl rfl (if_neg hflag)]
    exact hT.onward (.refl _) rfl hsubscribed hadvertised fun h => absurd h hflag

/-- A peer can only be subscribed to a characteristic that was registered. -/
theorem Tasks.inv_loadHandle (hT : T.Inv) {conn : Connection} (hpump : T.system.pump = .loadHandle conn) :
    (T.act E (.pump d)).Inv := by
  have hnack := hT.settled hpump id
  have hadvertised := hT.started hpump rfl
  have hsubscribed := hT.stage
  rw [hpump] at hsubscribed
  rw [Tasks.act_pump E d hpump rfl rfl (if_neg (hT.registered hsubscribed))]
  exact hT.onward (.refl _) rfl hsubscribed hadvertised fun h => (hnack h).imp_right .inl

theorem Tasks.inv_produce (hT : T.Inv) {conn : Connection} {c2 : Handle}
    (hpump : T.system.pump = .produce conn c2) : (T.act E (.pump d)).Inv := by
  have hnack := hT.settled hpump id
  have hadvertised := hT.started hpump rfl
  cases hanswer : E.processOutgoing T.world.btp conn.mtu with
  | mk btp answer =>
      cases answer with
      | error e =>
          rw [Tasks.act_pump E d hpump rfl rfl (by simp only [Stage.advance, hanswer]; rfl)]
          refine hT.back ⟨rfl, rfl, rfl, rfl, rfl, id, id⟩ hadvertised hnack fun hended => ?_
          cases hended
      | ok frame =>
          by_cases hlength : frame.length = 0
          · have hempty : frame.toList.isEmpty = true :=
              List.isEmpty_iff.mpr (List.eq_nil_of_length_eq_zero hlength)
            rw [Tasks.act_pump E d hpump rfl rfl
              (by simp only [Stage.advance, hanswer, if_pos hlength]; rfl)]
            refine hT.back ⟨rfl, rfl, rfl, rfl, rfl, id, id⟩ hadvertised hnack fun hended => .inr (.inr ?_)
            apply if_pos
            rw [List.any_cons, Call.vain, hempty, Bool.true_or]
          · rw [Tasks.act_pump E d hpump rfl rfl
              (by simp only [Stage.advance, hanswer, if_neg hlength]; rfl)]
            exact hT.onward ⟨rfl, rfl, rfl, rfl, rfl, id, id⟩ rfl trivial hadvertised
              fun h => (hnack h).imp_right .inl

theorem Tasks.inv_markNack (hT : T.Inv) {conn : Connection} {c2 : Handle} {data : Bytes}
    (hpump : T.system.pump = .markNack conn c2 data) : (T.act E (.pump d)).Inv := by
  rw [Tasks.act_pump E d hpump rfl rfl rfl]
  exact hT.onward ⟨rfl, rfl, rfl, rfl, rfl, id, id⟩ rfl trivial (hT.started hpump rfl)
    fun _ => .inr (.inr trivial)

/-- The indication is submitted, and awaits its completion. -/
theorem Tasks.inv_send (hT : T.Inv) {conn : Connection} {c2 : Handle} {data : Bytes}
    (hpump : T.system.pump = .send conn c2 data) : (T.act E (.pump d)).Inv := by
  simp only [Tasks.act, Nimble.act, hpump, Stage.advance]
  refine hT.pump rfl (.refl _) trivial (hT.started hpump rfl) (fun _ => .inl ?_) fun hlooped => ?_
  · exact ⟨T.system.submitted, List.mem_cons_self, rfl⟩
  · cases hlooped

theorem Tasks.inv_clearNack (hT : T.Inv) (hpump : T.system.pump = .clearNack) : (T.act E (.pump d)).Inv := by
  rw [Tasks.act_pump E d hpump rfl rfl rfl]
  refine hT.back ⟨rfl, rfl, rfl, rfl, rfl, id, id⟩ (hT.started hpump rfl) (fun hnack => ?_) fun hended => ?_
  · cases hnack
  · cases hended

theorem Tasks.inv_pump (hT : T.Inv) (hrunning : T.outgoingWaits = false)
    (hcalling : ∀ id nested, T.system.pump ≠ .indicating id nested) : (T.act E (.pump d)).Inv := by
  cases hpump : T.system.pump with
  | start => exact Tasks.inv_start E d hT hpump hrunning
  | advertised => exact Tasks.inv_advertised E d hT hpump
  | checkNack conn => exact Tasks.inv_checkNack E d hT hpump
  | loadHandle conn => exact Tasks.inv_loadHandle E d hT hpump
  | produce conn c2 => exact Tasks.inv_produce E d hT hpump
  | markNack conn c2 data => exact Tasks.inv_markNack E d hT hpump
  | send conn c2 data => exact Tasks.inv_send E d hT hpump
  | indicating id nested => exact absurd hpump (hcalling id nested)
  | clearNack => exact Tasks.inv_clearNack E d hT hpump

end Pump

/-! ### Inside `driver.indicate` -/

section Indicate

variable (E : Btp β) {T : Tasks β}

/-- Nobody waits on the outgoing pump while it is in a call. -/
theorem Tasks.Inv.not_waiting (hT : T.Inv) {stage : Stage} (hpump : T.system.pump = stage)
    (hstart : stage.atStart = false) : ¬ T.outgoingWaits = true := by
  intro h
  rw [← hpump, hT.parked h] at hstart
  cases hstart

theorem Tasks.inv_reenter (hT : T.Inv) {conn attr : Handle} {indication : Bool} {status : Int} {completes : Nat}
    {id : Nat} {nested : Hook} (hpump : T.system.pump = .indicating id nested) (hidle : nested.Idle) :
    (T.act E (.reenter conn attr indication status completes)).Inv := by
  obtain ⟨event, hevent⟩ : ∃ event, event = Event.gatts (.notifyComplete conn attr indication status) :=
    ⟨_, rfl⟩
  obtain ⟨hworld, -, hsubmitted, hawaiting⟩ := T.system.arrive_eq event completes
  have hhost : (T.system.arrive event completes).host = T.system.host := by
    rw [hevent]
    simp only [System.arrive]
    split <;> rfl
  have hact : T.act E (.reenter conn attr indication status completes) =
      { T with system := { T.system.arrive event completes with pump := .indicating id (hook event) } } := by
    rw [hevent]
    simp only [Tasks.act, Nimble.act, hpump]
  have hwaits := hT.not_waiting hpump rfl
  rw [hact]
  refine hT.pump hhost ?_ ?_ ?_ (fun hnack => ?_) fun h => absurd h hwaits
  · change Kept T.world (T.system.arrive event completes).world
    rw [hworld]
    exact .refl _
  · rw [hevent]
    exact completes_hook conn attr indication status
  · change T.WokenOutgoing ∨ (T.system.arrive event completes).world.state.needAdvertise = false
    rw [hworld]
    exact hT.started hpump rfl
  · change (T.system.arrive event completes).world.outNack = true at hnack
    rw [hworld] at hnack
    rcases hawaiting with hsame | hclears
    · rcases hT.flagged hnack with ⟨last, hmem, hlast⟩ | hclears | hunsettled
      · exact .inl ⟨last, hsame.symm ▸ hmem, hsubmitted.trans hlast⟩
      · exact .inr (.inl (hhost.symm ▸ hclears))
      · rw [hpump] at hunsettled
        exact absurd hunsettled hidle.not_owing.2.2
    · exact .inr (.inr hclears)

theorem Tasks.inv_nested (hT : T.Inv) {id : Nat} {nested : Hook} (hpump : T.system.pump = .indicating id nested) :
    (T.act E .nested).Inv := by
  have hcompletes := hT.stage
  rw [hpump] at hcompletes
  obtain ⟨hrest, nack, woken, hworld, hwoken, hcleared⟩ := completes_atom hcompletes T.world
  have hact : T.act E .nested = { T with system := { T.system with
      pump := .indicating id (nested.atom T.world).1
      world := (nested.atom T.world).2 } } := by
    simp only [Tasks.act, Nimble.act, hpump]
    rfl
  have hwaits := hT.not_waiting hpump rfl
  rw [hact, hworld]
  refine ⟨hT.fair, hT.registered, hrest, fun h => absurd h hwaits, .inr ?_, fun h => ?_, hT.incoming,
    .of_awake hwaits⟩
  · exact (hT.started hpump rfl).imp_left fun h => h.imp_left hwoken
  · obtain ⟨hbefore, hclears⟩ := hcleared h
    refine (hT.flagged hbefore).imp_right fun h => h.imp_right fun hunsettled => ?_
    rw [hpump] at hunsettled
    exact hclears hunsettled

theorem Tasks.inv_indicated (hT : T.Inv) {id : Nat} {nested : Hook} (hpump : T.system.pump = .indicating id nested)
    (hidle : nested.Idle) (result : Except BleError Unit) : (T.act E (.indicated result)).Inv := by
  have hwaits := hT.not_waiting hpump rfl
  have hadvertised := hT.started hpump rfl
  have hnack := hT.settled hpump hidle.not_owing.2.2
  cases result with
  | ok u =>
      have hact : T.act E (.indicated (.ok u)) = { T with system := { T.system with pump := .start } } := by
        simp only [Tasks.act, Nimble.act, hpump]
      rw [hact]
      exact hT.pump rfl (.refl _) trivial hadvertised (fun h => (hnack h).imp_right .inl)
        fun h => absurd h hwaits
  | error e =>
      have hact : T.act E (.indicated (.error e)) =
          { T with system := { T.system with pump := .clearNack, awaiting := T.system.awaiting.erase id } } := by
        simp only [Tasks.act, Nimble.act, hpump]
      rw [hact]
      exact hT.pump rfl (.refl _) trivial hadvertised (fun _ => .inr (.inr trivial))
        fun h => absurd h hwaits

end Indicate

/-! ### The incoming pump -/

/-- An iteration that is not followed by another leaves nothing to do. -/
theorem processIncoming_waits (E : Btp β) (w : World β)
    (hwaits : (processIncoming E w).processed.waits = true) :
    (processIncoming E w).world.state.IncomingIdle := by
  unfold processIncoming at hwaits ⊢
  cases hconn : w.state.connection with
  | none => exact .inl hconn
  | some conn =>
      have hstate := World.syncBtp_state E w
      simp only [hconn] at hwaits ⊢
      split at hwaits
      · rename_i hempty
        rw [if_pos hempty]
        rw [hstate] at hempty ⊢
        exact .inr ⟨rfl, hempty⟩
      · split at hwaits <;> cases hwaits

theorem kept_processIncoming (E : Btp β) (w : World β) :
    Kept w (processIncoming E w).finish.1 ∧ (processIncoming E w).finish.1.outNack = w.outNack := by
  unfold processIncoming
  cases hconn : w.state.connection with
  | none => exact ⟨⟨rfl, rfl, rfl, rfl, rfl, id, id⟩, rfl⟩
  | some conn =>
      have hkept := kept_syncBtp E w
      have hnack := World.syncBtp_outNack E w
      dsimp only
      split
      · exact ⟨⟨hkept.c2ValHandle, hkept.connection, hkept.connGen, rfl, rfl, hkept.advertise,
          hkept.incoming⟩, hnack⟩
      · split
        · exact ⟨⟨hkept.c2ValHandle, hkept.connection, hkept.connGen, rfl, rfl, hkept.advertise,
            hkept.incoming⟩, hnack⟩
        · refine ⟨⟨hkept.c2ValHandle, hkept.connection, hkept.connGen, rfl, rfl, hkept.advertise, ?_⟩, hnack⟩
          exact fun hidle => (hkept.incoming hidle).imp_right fun h => ⟨h.1, rfl⟩

theorem Tasks.inv_incoming (E : Btp β) {T : Tasks β} (hT : T.Inv) (hended : T.world.ended = none) :
    (T.act E .incoming).Inv := by
  obtain ⟨hkept, hnack⟩ := kept_processIncoming E T.world
  have hsub := hkept.subscribed
  have hact : T.act E .incoming = { T with
      system := { T.system with world := (processIncoming E T.world).finish.1 }
      incomingWaits := (processIncoming E T.world).processed.waits } := by
    rw [Tasks.world] at hended ⊢
    simp only [Tasks.act, Nimble.act, hended, if_true]
    rfl
  have hwokenOut : T.WokenOutgoing → (processIncoming E T.world).finish.1.context.notifyProcessOutgoing = true ∨
      T.system.host.WakesOutgoing := by
    rw [hkept.notifyOutgoing]
    exact id
  rw [hact]
  constructor
  · change T.system.host.Fair (processIncoming E T.world).finish.1.c2ValHandle
      (processIncoming E T.world).finish.1.state.subscribed
    rw [hkept.c2ValHandle, hsub]
    exact hT.fair
  · change (processIncoming E T.world).finish.1.state.subscribed = true →
      (processIncoming E T.world).finish.1.c2ValHandle ≠ 0
    rw [hkept.c2ValHandle, hsub]
    exact hT.registered
  · change T.system.pump.Ok (processIncoming E T.world).finish.1.state.subscribed
    rw [hsub]
    exact hT.stage
  · exact hT.parked
  · exact hT.advertised.imp_right fun h => h.imp hwokenOut hkept.advertise
  · exact fun h => hT.flagged (hnack.symm.trans h)
  · intro hwaits
    exact .inr (processIncoming_waits E T.world hwaits)
  · refine hT.outgoing.keep id hwokenOut fun h => .inr ⟨hkept.advertise h.1, ?_⟩
    change (processIncoming E T.world).finish.1.state.subscribed = false ∨
      (processIncoming E T.world).finish.1.outNack = true ∨
      T.asked = some (processIncoming E T.world).finish.1.state.connGen
    rw [hsub, hkept.connGen, hnack]
    exact h.2

/-! ### Runs -/

theorem Tasks.inv_act (E : Btp β) {T : Tasks β} (hT : T.Inv) {action : Action β}
    (hscheduled : Scheduled T (.act action)) : (T.act E action).Inv := by
  cases action with
  | deliver event completes => exact Tasks.inv_deliver E hT hscheduled.1 hscheduled.2
  | host => exact Tasks.inv_host E hT hscheduled.2
  | pump d => exact Tasks.inv_pump E d hT hscheduled.1 hscheduled.2
  | reenter conn attr indication status completes =>
      obtain ⟨id, nested, hpump, hidle⟩ := hscheduled
      exact Tasks.inv_reenter E hT hpump hidle
  | nested =>
      obtain ⟨id, nested, hpump, -⟩ := hscheduled
      exact Tasks.inv_nested E hT hpump
  | indicated result =>
      obtain ⟨id, nested, hpump, hidle⟩ := hscheduled
      exact Tasks.inv_indicated E hT hpump hidle result
  | incoming => exact Tasks.inv_incoming E hT hscheduled.2.1
  | matter btp =>
      exact ⟨hT.fair, hT.registered, hT.stage, hT.parked, hT.advertised, hT.flagged, hT.incoming, hT.outgoing⟩

theorem Tasks.inv_move (E : Btp β) (T : Tasks β) (m : Move β) (hT : T.Inv) (hscheduled : Scheduled T m) :
    (T.move E m).Inv := by
  cases m with
  | act action => exact Tasks.inv_act E hT hscheduled
  | wakeIncoming =>
      exact ⟨hT.fair, hT.registered, hT.stage, hT.parked, hT.advertised, hT.flagged, .of_awake nofun,
        hT.outgoing⟩
  | wakeOutgoing =>
      -- The pump waits at the start of its loop, so advertising is looked at next.
      exact ⟨hT.fair, hT.registered, hT.stage, nofun, .inl (hT.parked hscheduled.1), hT.flagged, hT.incoming,
        .of_awake nofun⟩
  | outgoingData =>
      exact ⟨hT.fair, hT.registered, hT.stage, nofun, hT.advertised, hT.flagged, hT.incoming,
        .of_awake nofun⟩

theorem Tasks.inv_fresh (c : Context) (c2ValHandle : Handle) (btp : β) :
    (Tasks.fresh c c2ValHandle btp).Inv :=
  ⟨trivial, nofun, trivial, fun _ => rfl, .inl rfl, nofun, .of_awake nofun, .of_awake nofun⟩

theorem Tasks.inv_run (E : Btp β) (c : Context) (c2ValHandle : Handle) (btp : β) {moves : List (Move β)}
    (hrun : Along (Tasks.step E) Scheduled (.fresh c c2ValHandle btp) moves) :
    (after (Tasks.step E) (.fresh c c2ValHandle btp) moves).Inv :=
  invariant_after (I := Tasks.Inv) (Tasks.inv_move E) (Tasks.inv_fresh c c2ValHandle btp) hrun

/-- A pump that waits, and whose signal is not raised, has nothing to do. -/
structure Tasks.MissesNothing (T : Tasks β) : Prop where
  incoming : T.incomingWaits = true → T.world.context.notifyProcessIncoming = false →
    T.world.state.IncomingIdle
  outgoing : T.outgoingWaits = true → T.world.context.notifyProcessOutgoing = false →
    T.OutgoingIdle T.system.Unacknowledged

/-- **Between the hooks, no wake-up is lost.** -/
theorem Tasks.Inv.missesNothing {T : Tasks β} (hT : T.Inv) (hidle : T.system.host.Idle) : T.MissesNothing := by
  obtain ⟨hnoIn, hnoOut, hnoClear⟩ := hidle.not_owing
  constructor
  · intro hwaits hsignal
    refine hT.incoming.elim hwaits fun hwoken => ?_
    rcases hwoken with hwoken | howed
    · cases hsignal.symm.trans hwoken
    · exact hnoIn howed
  · intro hwaits hsignal
    obtain ⟨hno, hidle⟩ := hT.outgoing.elim hwaits fun hwoken => by
      rcases hwoken with hwoken | howed
      · cases hsignal.symm.trans hwoken
      · exact hnoOut howed
    refine ⟨hno, hidle.imp_right fun h => h.imp_left fun hnack => ?_⟩
    -- The pump waits outside of any call, so the flag stands for an indication.
    refine (hT.flagged hnack).resolve_right fun h => h.elim hnoClear fun hunsettled => ?_
    rw [hT.parked hwaits] at hunsettled
    exact hunsettled

end EspIdfMatter.Nimble
