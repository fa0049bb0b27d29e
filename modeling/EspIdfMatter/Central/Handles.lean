import EspIdfMatter.Central.Rerun

/-! The handles that a peer reports for `C1` and `C2`. The CCCD is taken to be the attribute after `C2`,
and a completed write is told by its handle alone. -/

namespace EspIdfMatter.Central

open Library Library.Machine Nimble

variable {β : Type}

/-! ### Completions -/

/-- What the completion of a Write Request is for, and nothing else. -/
def Purpose.completed (status : Int) (c : Context) : Purpose → Context
  | .cccd => (c.modify fun s => { s with subscribed := decide (status = 0) }).signalProgress
  | .c1 => (c.modify fun s => { s with outInflight := false }).signalOut

/-- The driver completes a Write Request after it was submitted, and once; and it reports no characteristic
after the discovery has ended or the link has dropped. -/
def Orderly (S : Client β) (input : Input β) : Prop :=
  Completes S input ∧ ∀ chr, input = .event (.gattc (.characteristic (some chr))) →
    (S.state.charsDone || S.state.failed) = false

/-- Nothing has overflowed, every outstanding Write Request completes as what it is, and the outgoing pump
is blocked only by one of them. -/
structure Client.Unconfused (S : Client β) (c1Val : Handle) : Prop where
  running : S.world.aborted = false
  completed : ∀ purpose attrHandle status, (purpose, attrHandle) ∈ S.outstanding →
    onEvent (.gattc (.writeComplete attrHandle status)) S.world.context =
      some (purpose.completed status S.world.context)
  inflight : S.state.outInflight = true → (.c1, c1Val) ∈ S.outstanding

/-- From the point on at which `run` has accepted these handles. -/
def Unconfused (c1Val c2Val : Handle) : Prop :=
  ∀ (β : Type) (E : Btp β) (addr : BtAddr) (btp : β) (inputs later : List (Input β)) (conn : Handle),
    Along (Client.step E addr) Orderly (.fresh btp) (inputs ++ later) →
    (after (Client.step E addr) (.fresh btp) inputs).phase = .subscribe conn c1Val c2Val →
    (after (Client.step E addr) (.fresh btp) (inputs ++ later)).Unconfused c1Val

theorem cccdHandle_eq_some {c2Val : Handle} (h : c2Val ≠ 0xFFFF) : cccdHandle c2Val = some (c2Val + 1) :=
  if_neg h

/-- Only the handle of the CCCD overflows. -/
theorem onEvent_eq_none {event : Event} {c : Context} (h : onEvent event c = none) :
    ∃ attrHandle status, event = .gattc (.writeComplete attrHandle status) ∧
      c.state.c2Val.bind cccdHandle = none ∧ c.state.c2Val ≠ none := by
  cases event with
  | host event => cases h
  | gap event => cases h
  | gattc event =>
      cases event with
      | writeComplete attrHandle status =>
          simp only [onEvent, onGattcEvent] at h
          split at h
          · cases h
          · rename_i c2Val hc2
            refine ⟨attrHandle, status, rfl, ?_, Option.ne_none_iff_exists'.mpr ⟨c2Val, hc2⟩⟩
            rw [hc2, Option.bind_some]
            exact Option.map_eq_none_iff.mp h
      | service service => cases service <;> cases h
      | characteristic chr => cases chr <;> cases h
      | notify attrHandle data => cases h
      | readComplete => cases h

/-- An event other than a characteristic leaves the handles, and what is over stays over. -/
theorem Effect.handles {event : Event} {marks : List Mark} {c c' : Context} (h : Effect c event marks c')
    (hother : ∀ chr, event ≠ .gattc (.characteristic (some chr))) :
    c'.state.c1Val = c.state.c1Val ∧ c'.state.c2Val = c.state.c2Val := by
  cases h with
  | c1Val => exact absurd rfl (hother _)
  | c2Val => exact absurd rfl (hother _)
  | _ => exact ⟨rfl, rfl⟩

theorem Effect.discovered {event : Event} {marks : List Mark} {c c' : Context} (h : Effect c event marks c')
    (hover : (c.state.charsDone || c.state.failed) = true) :
    (c'.state.charsDone || c'.state.failed) = true := by
  cases h with
  | connectFailed | disconnected => exact Bool.or_true _
  | charsDone => exact Bool.true_or _
  | _ => exact hover

/-! ### Up to the subscription -/

/-- The characteristics were waited for. -/
def Phase.Discovered : Phase → Prop
  | .readChars _ | .subscribe _ _ _ => True
  | _ => False

/-- What holds until the CCCD is written. -/
structure Accepting (S : Client β) : Prop where
  one : OneAtATime S
  idle : S.phase.Early → S.state.outInflight = false
  discovered : S.phase.Discovered → (S.state.charsDone || S.state.failed) = true
  accepted : ∀ conn c1Val c2Val, S.phase = .subscribe conn c1Val c2Val →
    S.state.c1Val = some c1Val ∧ S.state.c2Val = some c2Val
  running : S.phase.Early → S.world.aborted = true → ∃ conn c1Val, S.phase = .subscribe conn c1Val 0xFFFF

theorem Phase.Discovered.early {phase : Phase} (h : phase.Discovered) : phase.Early := by
  cases phase <;> trivial

theorem Accepting.of_late {S : Client β} (hone : OneAtATime S) (hlate : ¬ S.phase.Early) : Accepting S where
  one := hone
  idle h := absurd h hlate
  discovered h := absurd h.early hlate
  accepted _ _ _ h := absurd (h ▸ trivial) hlate
  running h := absurd h hlate

/-- On to a point before the characteristics are read. -/
theorem Accepting.move {S S' : Client β} (hS : Accepting S) (hearly : S.phase.Early) (hone : OneAtATime S')
    (hinflight : S'.state.outInflight = S.state.outInflight) (hrunning : S'.world.aborted = false)
    (hphase : ¬ S'.phase.Discovered) : Accepting S' where
  one := hone
  idle _ := hinflight.trans (hS.idle hearly)
  discovered h := absurd h hphase
  accepted _ _ _ h := absurd (h ▸ trivial) hphase
  running _ haborted := by cases hrunning.symm.trans haborted

theorem Accepting.proceed {S : Client β} (hS : Accepting S) (hearly : S.phase.Early)
    (hrunning : S.world.aborted = false) {ε : Type} (result : Except ε Unit) {phase : Phase}
    (hphase : ¬ phase.Discovered) (hone : OneAtATime (S.proceed result phase)) :
    Accepting (S.proceed result phase) := by
  cases result with
  | error e => exact .of_late hone id
  | ok u => exact hS.move hearly hone rfl hrunning hphase

theorem accepting_event {S : Client β} (hS : Accepting S) {event : Event}
    (horderly : Orderly S (.event event)) {context : Context}
    (hevent : onEvent event S.world.context = some context) :
    Accepting { S with
      world := { S.world with context }
      outstanding := event.completes S.outstanding } := by
  have heffect := effect_onEvent hevent
  constructor
  · exact oneAtATime_event hS.one horderly.1 hevent
  · intro hearly
    have hother : ∀ attrHandle status, event ≠ .gattc (.writeComplete attrHandle status) := by
      rintro attrHandle status rfl
      obtain ⟨purpose, hmem⟩ := horderly.1
      rw [(hS.one.early hearly).1] at hmem
      cases hmem
    exact (heffect.writes hother).2.2.trans (hS.idle hearly)
  · exact fun hphase => heffect.discovered (hS.discovered hphase)
  · intro conn c1Val c2Val hphase
    have hover := hS.discovered (show S.phase.Discovered by rw [hphase]; trivial)
    have hother : ∀ chr, event ≠ .gattc (.characteristic (some chr)) := by
      rintro chr rfl
      cases (horderly.2 chr rfl).symm.trans hover
    obtain ⟨hc1, hc2⟩ := heffect.handles hother
    exact (hS.accepted conn c1Val c2Val hphase).imp hc1.trans hc2.trans
  · exact hS.running

theorem accepting_advance {S : Client β} (hS : Accepting S) (hrunning : S.world.aborted = false)
    (addr : BtAddr) (d : Answers) : Accepting (S.advance addr d).1 := by
  have hone := oneAtATime_advance hS.one addr d
  revert hone
  unfold Client.advance
  cases hphase : S.phase with
  | start =>
      have hearly : S.phase.Early := by rw [hphase]; trivial
      have hpeer : Accepting { S with world := S.world.setState { S.state with peer := addr } } :=
        ⟨hS.one.keep rfl rfl rfl rfl rfl, hS.idle, hS.discovered, hS.accepted, hS.running⟩
      exact hpeer.proceed hearly hrunning d.start id
  | wait wait blocked =>
      have hstay : ∀ S' : Client β, OneAtATime S' → (∃ blocked', S'.phase = .wait wait blocked') →
          S'.state.outInflight = S.state.outInflight → S'.world.aborted = false → Accepting S' := by
        rintro S' hone ⟨blocked', hphase'⟩ hinflight hrunning'
        by_cases hearly : S.phase.Early
        · exact hS.move hearly hone hinflight hrunning' (by rw [hphase']; exact id)
        · refine .of_late hone fun hearly' => hearly ?_
          rw [hphase'] at hearly'
          rw [hphase]
          cases wait <;> exact hearly'
      cases blocked with
      | true =>
          dsimp only
          split
          · exact fun hone => hstay _ hone ⟨false, rfl⟩ rfl hrunning
          · exact fun _ => hS
      | false =>
          dsimp only
          split
          · rename_i hpred
            intro hone
            cases wait with
            | chars conn =>
                have hearly : S.phase.Early := by rw [hphase]; trivial
                refine ⟨hone, fun _ => hS.idle hearly, fun _ => hpred, nofun, fun _ haborted => ?_⟩
                cases hrunning.symm.trans haborted
            | subscribed conn c1Val c2Val => exact .of_late hone id
            | _ => exact hS.move (by rw [hphase]; trivial) hone rfl hrunning id
          · exact fun hone => hstay _ hone ⟨true, rfl⟩ rfl hrunning
  | connect =>
      have hearly : S.phase.Early := by rw [hphase]; trivial
      dsimp only
      split
      · exact fun hone => .of_late hone id
      · exact hS.proceed hearly hrunning d.connect id
  | readConnHandle =>
      have hearly : S.phase.Early := by rw [hphase]; trivial
      dsimp only
      split
      · exact fun hone => .of_late hone id
      · exact fun hone => hS.move hearly hone rfl hrunning id
  | discoverServices conn =>
      have hearly : S.phase.Early := by rw [hphase]; trivial
      exact hS.proceed hearly hrunning d.discoverServices id
  | readRange conn =>
      have hearly : S.phase.Early := by rw [hphase]; trivial
      dsimp only
      split
      · exact fun hone => .of_late hone id
      · exact fun hone => hS.move hearly hone rfl hrunning id
  | discoverCharacteristics conn startHandle endHandle =>
      have hearly : S.phase.Early := by rw [hphase]; trivial
      exact hS.proceed hearly hrunning d.discoverCharacteristics id
  | readChars conn =>
      have hearly : S.phase.Early := by rw [hphase]; trivial
      have hover := hS.discovered (show S.phase.Discovered by rw [hphase]; trivial)
      dsimp only
      split
      · rename_i c1Val c2Val hc1 hc2
        intro hone
        refine ⟨hone, fun _ => hS.idle hearly, fun _ => hover, fun conn' c1Val' c2Val' heq => ?_,
          fun _ haborted => ?_⟩
        · cases heq
          exact ⟨hc1, hc2⟩
        · cases hrunning.symm.trans haborted
      · exact fun hone => .of_late hone id
  | subscribe conn c1Val c2Val =>
      dsimp only
      split
      · rename_i hoverflow
        have hc2 : c2Val = 0xFFFF := by
          by_contra hc2
          rw [cccdHandle_eq_some hc2] at hoverflow
          cases hoverflow
        subst hc2
        have hearly : S.phase.Early := by rw [hphase]; trivial
        have hover := hS.discovered (show S.phase.Discovered by rw [hphase]; trivial)
        exact fun hone => ⟨hone, fun _ => hS.idle hearly, fun _ => hover,
          fun _ _ _ heq => hS.accepted _ _ _ (hphase.trans heq), fun _ _ => ⟨conn, c1Val, rfl⟩⟩
      · split
        · exact fun hone => .of_late hone id
        · exact fun hone => .of_late hone id
  | checkFailed conn c1Val =>
      dsimp only
      split
      · exact fun hone => .of_late hone id
      · exact fun hone => .of_late hone id
  | setInitiator conn c1Val => exact fun hone => .of_late hone id
  | pumping conn c1Val => exact fun _ => hS
  | stopped => exact fun _ => hS

theorem accepting_step (E : Btp β) (addr : BtAddr) {S : Client β} (hS : Accepting S) (input : Input β)
    (horderly : Orderly S input) : Accepting (S.step E addr input).1 := by
  have hone := oneAtATime_step E addr hS.one input horderly.1
  have hpumping {conn c1Val : Handle} (hphase : S.phase = .pumping conn c1Val) (it : Iteration β)
      (hone : OneAtATime (S.pump it).1) : Accepting (S.pump it).1 :=
    .of_late hone (by rw [show (S.pump it).1.phase = .pumping conn c1Val from hphase]; exact id)
  have hmoves := S.moves_step E addr input
  generalize S.step E addr input = next at hmoves hone ⊢
  cases hmoves with
  | nothing => exact hS
  | event _ _ hevent => exact accepting_event hS horderly hevent
  | overflow _ _ hevent =>
      obtain ⟨attrHandle, status, rfl, -⟩ := onEvent_eq_none hevent
      obtain ⟨purpose, hmem⟩ := horderly.1
      refine .of_late hone fun hearly => ?_
      rw [(hS.one.early hearly).1] at hmem
      cases hmem
  | run d hrunning => exact accepting_advance hS hrunning addr d
  | incoming _ _ hphase => exact hpumping hphase _ hone
  | outgoing _ _ _ hphase => exact hpumping hphase _ hone
  | matter => exact ⟨hone, hS.idle, hS.discovered, hS.accepted, hS.running⟩

/-! ### From the subscription on -/

/-- `run` goes on with these handles. -/
def Phase.Carries (c1Val c2Val : Handle) : Phase → Prop
  | .subscribe _ c1 c2 | .wait (.subscribed _ c1 c2) _ => c1 = c1Val ∧ c2 = c2Val
  | .checkFailed _ c1 | .setInitiator _ c1 | .pumping _ c1 => c1 = c1Val
  | .stopped => True
  | _ => False

/-- What holds once the handles were accepted, if the handle of the CCCD exists and is not the one of `C1`. -/
structure Matched (c1Val c2Val : Handle) (S : Client β) : Prop where
  one : OneAtATime S
  running : S.world.aborted = false
  carries : S.phase.Carries c1Val c2Val
  c1 : S.state.c1Val = some c1Val
  c2 : S.state.c2Val = some c2Val
  discovered : (S.state.charsDone || S.state.failed) = true
  writes : ∀ write ∈ S.outstanding, write = (.cccd, c2Val + 1) ∨ write = (.c1, c1Val)
  inflight : S.state.outInflight = true → S.outstanding = [(.c1, c1Val)]

theorem matched_of_accepting {S : Client β} (hS : Accepting S) {conn c1Val c2Val : Handle}
    (hphase : S.phase = .subscribe conn c1Val c2Val) (hc2 : c2Val ≠ 0xFFFF) : Matched c1Val c2Val S := by
  have hearly : S.phase.Early := by rw [hphase]; trivial
  obtain ⟨haccepted1, haccepted2⟩ := hS.accepted conn c1Val c2Val hphase
  constructor
  · exact hS.one
  · by_contra haborted
    obtain ⟨conn', c1Val', heq⟩ := hS.running hearly (eq_true_of_ne_false haborted)
    cases hphase.symm.trans heq
    exact hc2 rfl
  · rw [hphase]
    exact ⟨rfl, rfl⟩
  · exact haccepted1
  · exact haccepted2
  · exact hS.discovered (by rw [hphase]; trivial)
  · rw [(hS.one.early hearly).1]
    exact List.forall_mem_nil _
  · intro hinflight
    cases (hS.idle hearly).symm.trans hinflight

/-- `run` goes on without a write. -/
theorem Matched.move {c1Val c2Val : Handle} {S S' : Client β} (hS : Matched c1Val c2Val S)
    (hone : OneAtATime S') (hstate : S'.state = S.state) (hrunning : S'.world.aborted = S.world.aborted)
    (hout : S'.outstanding = S.outstanding) (hcarries : S'.phase.Carries c1Val c2Val) :
    Matched c1Val c2Val S' where
  one := hone
  running := hrunning.trans hS.running
  carries := hcarries
  c1 := by rw [hstate, hS.c1]
  c2 := by rw [hstate, hS.c2]
  discovered := by rw [hstate, hS.discovered]
  writes := by rw [hout]; exact hS.writes
  inflight := by rw [hstate, hout]; exact hS.inflight

/-- The pumps write to the handle that `run` gave them, and abort nothing. -/
theorem writes_processIncoming (E : Btp β) (w : World β) :
    (processIncoming E w).world.aborted = w.aborted ∧
      (processIncoming E w).calls.filterMap Call.submits = [] := by
  unfold processIncoming
  dsimp only
  repeat' split
  all_goals exact ⟨rfl, rfl⟩

theorem writes_processOutgoing (E : Btp β) (conn c1Val : Handle) (result : Except BleError Unit)
    (w : World β) : (processOutgoing E conn c1Val result w).world.aborted = w.aborted ∧
      ∀ write ∈ (processOutgoing E conn c1Val result w).calls.filterMap Call.submits,
        write = (.c1, c1Val) := by
  unfold processOutgoing
  dsimp only
  repeat' split
  all_goals first
    | exact ⟨rfl, List.forall_mem_nil _⟩
    | exact ⟨rfl, List.forall_mem_singleton.mpr rfl⟩

theorem matched_pump {c1Val c2Val : Handle} {S : Client β} (hS : Matched c1Val c2Val S) {conn : Handle}
    (hphase : S.phase = .pumping conn c1Val) {it : Iteration β} (hit : Pumps S.world it)
    (haborted : it.world.aborted = S.world.aborted)
    (hwrites : ∀ write ∈ it.calls.filterMap Call.submits, write = (.c1, c1Val)) :
    Matched c1Val c2Val (S.pump it).1 := by
  obtain ⟨inData, outData, outInflight, hstate⟩ := hit.state
  have hstate' : (S.pump it).1.state = { S.state with inData, outData, outInflight } := hstate
  constructor
  · exact oneAtATime_pump hS.one hphase hit
  · exact haborted.trans hS.running
  · exact hS.carries
  · rw [hstate']
    exact hS.c1
  · rw [hstate']
    exact hS.c2
  · rw [hstate']
    exact hS.discovered
  · intro write hwrite
    exact (List.mem_append.mp hwrite).elim (hS.writes write)
      fun hsubmitted => .inr (hwrites write hsubmitted)
  · intro hinflight
    rcases hit.submits with ⟨hnone, hsame⟩ | ⟨attr, hsubmits, hidle, -⟩
    · simp only [Client.pump, hnone, List.append_nil]
      exact hS.inflight (hsame.symm.trans hinflight)
    · rw [hsubmits, List.forall_mem_singleton] at hwrites
      have hnone := (hS.one.pumping conn c1Val hphase).resolve_right
        (by rw [Client.state, hidle]; exact Bool.false_ne_true)
      simp only [Client.pump, hsubmits, hnone, hwrites, List.nil_append]

section Distinct

variable {c1Val c2Val : Handle}

theorem onEvent_cccd (hc2 : c2Val ≠ 0xFFFF) {c : Context} (hc2Val : c.state.c2Val = some c2Val)
    (status : Int) : onEvent (.gattc (.writeComplete (c2Val + 1) status)) c =
      some (Purpose.cccd.completed status c) := by
  simp only [onEvent, onGattcEvent, hc2Val, cccdHandle_eq_some hc2, Option.map_some, onWriteComplete,
    ↓reduceIte]
  rfl

/-- The two completions are told apart. -/
theorem onEvent_completed (hc2 : c2Val ≠ 0xFFFF) (hne : c1Val ≠ c2Val + 1) {c : Context}
    (hc1Val : c.state.c1Val = some c1Val) (hc2Val : c.state.c2Val = some c2Val) {purpose : Purpose}
    {attrHandle : Handle}
    (hwrite : (purpose, attrHandle) = (.cccd, c2Val + 1) ∨ (purpose, attrHandle) = (.c1, c1Val))
    (status : Int) : onEvent (.gattc (.writeComplete attrHandle status)) c =
      some (purpose.completed status c) := by
  rcases hwrite with hwrite | hwrite
  · cases hwrite
    exact onEvent_cccd hc2 hc2Val status
  · cases hwrite
    simp only [onEvent, onGattcEvent, hc2Val, cccdHandle_eq_some hc2, Option.map_some, onWriteComplete]
    rw [if_neg fun heq => hne (Option.some.inj heq), if_pos hc1Val.symm]
    rfl

theorem Matched.unconfused (hc2 : c2Val ≠ 0xFFFF) (hne : c1Val ≠ c2Val + 1) {S : Client β}
    (hS : Matched c1Val c2Val S) : S.Unconfused c1Val where
  running := hS.running
  completed _ _ status hmem := onEvent_completed hc2 hne hS.c1 hS.c2 (hS.writes _ hmem) status
  inflight h := by rw [hS.inflight h]; exact List.mem_singleton_self _

theorem matched_event (hc2 : c2Val ≠ 0xFFFF) (hne : c1Val ≠ c2Val + 1) {S : Client β}
    (hS : Matched c1Val c2Val S) {event : Event} (horderly : Orderly S (.event event))
    {context : Context} (hevent : onEvent event S.world.context = some context) :
    Matched c1Val c2Val { S with
      world := { S.world with context }
      outstanding := event.completes S.outstanding } := by
  have heffect := effect_onEvent hevent
  have hone := oneAtATime_event hS.one horderly.1 hevent
  have hitem : ∀ chr, event ≠ .gattc (.characteristic (some chr)) := by
    rintro chr rfl
    cases (horderly.2 chr rfl).symm.trans hS.discovered
  obtain ⟨hkept1, hkept2⟩ := heffect.handles hitem
  have hdiscovered := heffect.discovered hS.discovered
  by_cases hwrite : ∃ attrHandle status, event = .gattc (.writeComplete attrHandle status)
  · obtain ⟨attrHandle, status, rfl⟩ := hwrite
    obtain ⟨purpose, hmem⟩ := horderly.1
    obtain rfl : purpose.completed status S.world.context = context := by
      rw [onEvent_completed hc2 hne hS.c1 hS.c2 (hS.writes _ hmem)] at hevent
      exact Option.some.inj hevent
    have hnone := completes_eq_nil hS.one.one hmem status
    refine ⟨hone, hS.running, hS.carries, hkept1.trans hS.c1, hkept2.trans hS.c2, hdiscovered, ?_, ?_⟩
    · rw [hnone]
      exact List.forall_mem_nil _
    · -- The completion of the CCCD write was the only one to come.
      intro hinflight
      cases purpose with
      | c1 => cases hinflight
      | cccd =>
          rw [hS.inflight hinflight] at hmem
          cases List.mem_singleton.mp hmem
  · push Not at hwrite
    obtain ⟨hsame, -, hinflight⟩ := heffect.writes hwrite
    rw [hsame] at hone ⊢
    exact ⟨hone, hS.running, hS.carries, hkept1.trans hS.c1, hkept2.trans hS.c2, hdiscovered, hS.writes,
      fun h => hS.inflight (hinflight.symm.trans h)⟩

theorem matched_advance (hc2 : c2Val ≠ 0xFFFF) {S : Client β} (hS : Matched c1Val c2Val S) (addr : BtAddr)
    (d : Answers) : Matched c1Val c2Val (S.advance addr d).1 := by
  have hone := oneAtATime_advance hS.one addr d
  have hcarries := hS.carries
  revert hone
  unfold Client.advance
  cases hphase : S.phase with
  | wait wait blocked =>
      rw [hphase] at hcarries
      cases wait with
      | subscribed conn c1 c2 =>
          cases blocked with
          | true =>
              dsimp only
              split
              · exact fun hone => hS.move hone rfl rfl rfl hcarries
              · exact fun _ => hS
          | false =>
              dsimp only
              split
              · exact fun hone => hS.move hone rfl rfl rfl hcarries.1
              · exact fun hone => hS.move hone rfl rfl rfl hcarries
      | _ => exact hcarries.elim
  | subscribe conn c1 c2 =>
      rw [hphase] at hcarries
      obtain ⟨rfl, rfl⟩ := hcarries
      have hnone := (hS.one.early (by rw [hphase]; trivial)).1
      dsimp only
      split
      · rename_i hoverflow
        cases (cccdHandle_eq_some hc2).symm.trans hoverflow
      rename_i cccd hcccd
      obtain rfl : c2 + 1 = cccd := Option.some.inj ((cccdHandle_eq_some hc2).symm.trans hcccd)
      split
      · exact fun hone => hS.move hone rfl rfl rfl trivial
      · refine fun hone =>
          ⟨hone, hS.running, ⟨rfl, rfl⟩, hS.c1, hS.c2, hS.discovered, ?_, fun hinflight => ?_⟩
        · rw [hnone]
          exact List.forall_mem_singleton.mpr (.inl rfl)
        · cases hnone.symm.trans (hS.inflight hinflight)
  | checkFailed conn c1 =>
      rw [hphase] at hcarries
      dsimp only
      split
      · exact fun hone => hS.move hone rfl rfl rfl trivial
      · exact fun hone => hS.move hone rfl rfl rfl hcarries
  | setInitiator conn c1 =>
      rw [hphase] at hcarries
      exact fun hone => hS.move hone rfl rfl rfl hcarries
  | pumping conn c1 => exact fun _ => hS
  | stopped => exact fun _ => hS
  | _ =>
      rw [hphase] at hcarries
      exact hcarries.elim

theorem matched_step (hc2 : c2Val ≠ 0xFFFF) (hne : c1Val ≠ c2Val + 1) (E : Btp β) (addr : BtAddr)
    {S : Client β} (hS : Matched c1Val c2Val S) (input : Input β) (horderly : Orderly S input) :
    Matched c1Val c2Val (S.step E addr input).1 := by
  have hmoves := S.moves_step E addr input
  generalize S.step E addr input = next at hmoves ⊢
  cases hmoves with
  | nothing => exact hS
  | event _ _ hevent => exact matched_event hc2 hne hS horderly hevent
  | overflow _ _ hevent =>
      obtain ⟨attrHandle, status, rfl, hnone, -⟩ := onEvent_eq_none hevent
      rw [show S.world.context.state.c2Val = some c2Val from hS.c2, Option.bind_some,
        cccdHandle_eq_some hc2] at hnone
      cases hnone
  | run d => exact matched_advance hc2 hS addr d
  | incoming _ _ hphase =>
      have hcarries := hS.carries
      rw [hphase] at hcarries
      obtain rfl : _ = c1Val := hcarries
      obtain ⟨haborted, hnone⟩ := writes_processIncoming E S.world
      refine matched_pump hS hphase (pumps_processIncoming E S.world) haborted ?_
      rw [hnone]
      exact List.forall_mem_nil _
  | outgoing result _ _ hphase =>
      have hcarries := hS.carries
      rw [hphase] at hcarries
      obtain rfl : _ = c1Val := hcarries
      obtain ⟨haborted, hwrites⟩ := writes_processOutgoing E _ _ result S.world
      exact matched_pump hS hphase (pumps_processOutgoing E _ _ result S.world) haborted hwrites
  | matter => exact hS.move (hS.one.keep rfl rfl rfl rfl rfl) rfl rfl rfl hS.carries

/-- The handles are told apart in every run that accepts them. -/
theorem unconfused_of_distinct (hc2 : c2Val ≠ 0xFFFF) (hne : c1Val ≠ c2Val + 1) : Unconfused c1Val c2Val := by
  intro β E addr btp inputs later conn horderly hphase
  rw [along_append] at horderly
  have hfresh : Accepting (Client.fresh btp) :=
    ⟨.of_none rfl fun _ => rfl, fun _ => rfl, False.elim, nofun, nofun⟩
  have haccepting : Accepting (after (Client.step E addr) (.fresh btp) inputs) :=
    invariant_after (I := Accepting)
      (fun _ input hS hinput => accepting_step E addr hS input hinput) hfresh horderly.1
  have hmatched := matched_of_accepting haccepting hphase hc2
  rw [after_append]
  exact (invariant_after (I := Matched c1Val c2Val)
    (fun _ input hS hinput => matched_step hc2 hne E addr hS input hinput) hmatched horderly.2).unconfused
      hc2 hne

end Distinct

/-! ### Where the handles coincide -/

/-- The peer reports these handles, and `run` accepts them. -/
def accepting (c1Val c2Val : Handle) : List (Input β) :=
  [.event (.gattc (.characteristic (some ⟨.c1, c1Val⟩))),
    .event (.gattc (.characteristic (some ⟨.c2, c2Val⟩))), .event (.gattc (.characteristic none)),
    .run .succeeding, .run .succeeding]

def Context.accepting (c1Val c2Val : Handle) (c : Context) : Context :=
  (c.modify fun s => { s with c1Val := some c1Val, c2Val := some c2Val, charsDone := true }).signalProgress

theorem after_accepting (E : Btp β) (addr : BtAddr) (c1Val c2Val : Handle) (c : Context) (btp : β) :
    after (Client.step E addr) (.waiting c btp (.chars 1)) (accepting c1Val c2Val) =
      { Client.waiting (c.accepting c1Val c2Val) btp (.chars 1) with phase := .subscribe 1 c1Val c2Val } := rfl

def Context.reached (addr : BtAddr) (c1Val c2Val : Handle) : Context :=
  ((Context.new.connecting addr).discovering.collecting).accepting c1Val c2Val

theorem after_reaching (E : Btp β) (addr : BtAddr) (c1Val c2Val : Handle) (btp : β) :
    after (Client.step E addr) (.rerun .new btp)
        (connecting ++ (discovering ++ (collecting ++ accepting c1Val c2Val))) =
      { Client.waiting (.reached addr c1Val c2Val) btp (.chars 1) with phase := .subscribe 1 c1Val c2Val } := by
  rw [after_append, after_connecting, after_append, after_discovering, after_append, after_collecting,
    after_accepting]
  rfl

theorem orderly_reaching (E : Btp β) (addr : BtAddr) (c1Val c2Val : Handle) (btp : β) :
    Along (Client.step E addr) Orderly (.rerun .new btp)
      (connecting ++ (discovering ++ (collecting ++ accepting c1Val c2Val))) := by
  rw [along_append, after_connecting, along_append, after_discovering, along_append, after_collecting]
  simp only [connecting, discovering, collecting, accepting, along_cons, along_nil, Orderly, Completes,
    Input.event.injEq, Event.gattc.injEq, GattcEvent.characteristic.injEq, Option.some.injEq, reduceCtorEq,
    false_imp_iff, implies_true, and_true, true_and]
  exact ⟨fun _ _ => rfl, fun _ _ => rfl⟩

/-- The CCCD is written, and `run` starts the pumps. -/
def subscribing (cccd : Handle) : List (Input β) :=
  [.run .succeeding, .event (.gattc (.writeComplete cccd 0)), .run .succeeding, .run .succeeding,
    .run .succeeding]

section Subscribing

variable {c2Val : Handle} (hc2 : c2Val ≠ 0xFFFF) (E : Btp β) (addr : BtAddr) (c1Val : Handle) (btp : β)

include hc2

theorem step_subscribe : (Client.step E addr { Client.waiting (.reached addr c1Val c2Val) btp (.chars 1) with
      phase := .subscribe 1 c1Val c2Val } (.run .succeeding)).1 =
    { Client.waiting (.reached addr c1Val c2Val) btp (.subscribed 1 c1Val c2Val) with
      outstanding := [(.cccd, c2Val + 1)] } := by
  simp only [Client.step, Client.advance, cccdHandle_eq_some hc2]
  rfl

theorem step_subscribed : (Client.step E addr
      { Client.waiting (.reached addr c1Val c2Val) btp (.subscribed 1 c1Val c2Val) with
        outstanding := [(.cccd, c2Val + 1)] } (.event (.gattc (.writeComplete (c2Val + 1) 0)))).1 =
    Client.waiting (Purpose.cccd.completed 0 (.reached addr c1Val c2Val)) btp (.subscribed 1 c1Val c2Val) := by
  have hevent := onEvent_cccd hc2 (c := .reached addr c1Val c2Val) rfl 0
  have hnone : Event.completes [(.cccd, c2Val + 1)] (.gattc (.writeComplete (c2Val + 1) 0)) = [] :=
    completes_eq_nil le_rfl (List.mem_singleton_self _) 0
  simp only [Client.step, Client.waiting, hevent, hnone]
  rfl

theorem orderly_subscribing : Along (Client.step E addr) Orderly
    { Client.waiting (.reached addr c1Val c2Val) btp (.chars 1) with phase := .subscribe 1 c1Val c2Val }
    (subscribing (c2Val + 1)) := by
  have hrun : ∀ (S : Client β) (d : Answers), Orderly S (.run d) := by
    intro S d
    exact ⟨trivial, fun chr heq => by cases heq⟩
  refine ⟨hrun _ _, ?_, hrun _ _, hrun _ _, hrun _ _, trivial⟩
  rw [step_subscribe hc2]
  exact ⟨⟨.cccd, List.mem_singleton_self _⟩, fun chr heq => by cases heq⟩

theorem after_subscribing : after (Client.step E addr)
      { Client.waiting (.reached addr c1Val c2Val) btp (.chars 1) with phase := .subscribe 1 c1Val c2Val }
      (subscribing (c2Val + 1)) =
    { Client.waiting (Purpose.cccd.completed 0 (.reached addr c1Val c2Val)) btp (.chars 1) with
      phase := .pumping 1 c1Val } := by
  rw [subscribing, after_cons, step_subscribe hc2, after_cons, step_subscribed hc2]
  rfl

end Subscribing

/-- A segment is written, where none is in flight. -/
theorem step_written (E : Btp β) (addr : BtAddr) {S : Client β} {conn c1Val : Handle}
    (hphase : S.phase = .pumping conn c1Val) (hrunning : S.world.aborted = false)
    (hended : S.world.ended = none) (hfailed : S.state.failed = false) (hidle : S.state.outInflight = false)
    {btp : β} {frame : Buffer} (hE : E.processOutgoing S.world.btp S.state.mtu = (btp, .ok frame))
    (hlen : 0 < frame.length) :
    (S.step E addr (.outgoing (.ok ()))).1.outstanding = S.outstanding ++ [(.c1, c1Val)] ∧
      (S.step E addr (.outgoing (.ok ()))).1.state.outInflight = true ∧
      (S.step E addr (.outgoing (.ok ()))).1.state.c2Val = S.state.c2Val := by
  have hpump : S.step E addr (.outgoing (.ok ())) = S.pump (processOutgoing E conn c1Val (.ok ()) S.world) := by
    simp only [Client.step, hphase, hrunning, hended, Bool.false_eq_true, ↓reduceIte]
  have hwritten : (processOutgoing E conn c1Val (.ok ()) S.world).calls.filterMap Call.submits =
        [(.c1, c1Val)] ∧
      (processOutgoing E conn c1Val (.ok ()) S.world).world.state.outInflight = true := by
    rw [Client.state] at hfailed hidle hE
    simp only [processOutgoing, hfailed, hidle, hE, hlen, Bool.false_eq_true, ↓reduceIte]
    exact ⟨rfl, rfl⟩
  obtain ⟨inData, outData, outInflight, hstate⟩ :=
    (pumps_processOutgoing E conn c1Val (.ok ()) S.world).state
  rw [hpump]
  refine ⟨?_, hwritten.2, ?_⟩
  · rw [Client.pump, hwritten.1]
  · exact (congrArg State.c2Val hstate :)

/-- The CCCD of the last handle of all overflows. -/
theorem Unconfused.ne_last {c1Val c2Val : Handle} (h : Unconfused c1Val c2Val) : c2Val ≠ 0xFFFF := by
  rintro rfl
  have hreached := after_reaching .queue ⟨.replicate 6 0⟩ c1Val 0xFFFF ([] : List Buffer)
  have hrun := h (List Buffer) .queue ⟨.replicate 6 0⟩ [] _ [.run .succeeding] 1
    ((along_append _ _ _).mpr ⟨orderly_reaching .queue _ c1Val 0xFFFF [],
      ⟨trivial, fun chr heq => by cases heq⟩, trivial⟩)
    (congrArg Client.phase hreached)
  have hrunning := hrun.running
  rw [after_append, show Client.fresh ([] : List Buffer) = .rerun .new [] from rfl, hreached] at hrunning
  cases hrunning

/-- The completion of a write to a `C1` that has the handle of the CCCD leaves the pump blocked. -/
theorem Client.Unconfused.false_of_cccd {c2Val : Handle} (hc2 : c2Val ≠ 0xFFFF) {S : Client β}
    (hS : S.Unconfused (c2Val + 1)) (hc2Val : S.state.c2Val = some c2Val)
    (hmem : (.c1, c2Val + 1) ∈ S.outstanding) (hinflight : S.state.outInflight = true) : False := by
  have hcompleted := hS.completed .c1 (c2Val + 1) 0 hmem
  rw [onEvent_cccd hc2 hc2Val 0, Option.some.injEq] at hcompleted
  have hcleared : S.state.outInflight = false := congrArg (fun c : Context => c.state.outInflight) hcompleted
  cases hinflight.symm.trans hcleared

theorem Unconfused.ne_cccd {c1Val c2Val : Handle} (h : Unconfused c1Val c2Val) : c1Val ≠ c2Val + 1 := by
  have hc2 := h.ne_last
  rintro rfl
  have hreached := after_reaching .queue ⟨.replicate 6 0⟩ (c2Val + 1) c2Val [(⟨[1], by decide⟩ : Buffer)]
  have hpumping := after_subscribing hc2 .queue ⟨.replicate 6 0⟩ (c2Val + 1) [(⟨[1], by decide⟩ : Buffer)]
  have hrun := h (List Buffer) .queue ⟨.replicate 6 0⟩ [⟨[1], by decide⟩] _
    (subscribing (c2Val + 1) ++ [.outgoing (.ok ())]) 1
    ((along_append _ _ _).mpr ⟨orderly_reaching .queue _ _ c2Val _, by
      rw [show Client.fresh [(⟨[1], by decide⟩ : Buffer)] = .rerun .new _ from rfl, hreached, along_append]
      exact ⟨orderly_subscribing hc2 .queue _ _ _, ⟨trivial, fun chr heq => by cases heq⟩, trivial⟩⟩)
    (congrArg Client.phase hreached)
  rw [after_append, show Client.fresh [(⟨[1], by decide⟩ : Buffer)] = .rerun .new _ from rfl, hreached,
    after_append, hpumping] at hrun
  obtain ⟨houtstanding, hinflight, hkept⟩ := step_written .queue ⟨.replicate 6 0⟩
    (S := { Client.waiting (Purpose.cccd.completed 0 (.reached ⟨.replicate 6 0⟩ (c2Val + 1) c2Val))
      [(⟨[1], by decide⟩ : Buffer)] (.chars 1) with phase := .pumping 1 (c2Val + 1) })
    rfl rfl rfl rfl rfl rfl Nat.one_pos
  refine hrun.false_of_cccd hc2 hkept ?_ hinflight
  rw [after_cons, after_nil, houtstanding]
  exact List.mem_singleton_self _

/-- **The handles of a peer are told apart**, in every run that accepts them, exactly when `C2` does not have
the last handle of all, and `C1` does not have the one after `C2`. -/
theorem unconfused_iff (c1Val c2Val : Handle) :
    Unconfused c1Val c2Val ↔ c2Val ≠ 0xFFFF ∧ c1Val ≠ c2Val + 1 := by
  constructor
  · exact fun h => ⟨h.ne_last, h.ne_cccd⟩
  · exact fun ⟨hc2, hne⟩ => unconfused_of_distinct hc2 hne

/-- `C1` has the handle after `C2`, and a segment is written and completes. -/
def adjacentRun : List (Input (List Buffer)) :=
  connecting ++ discovering ++ collecting ++ accepting 16 15 ++ subscribing 16 ++
    [.outgoing (.ok ()), .event (.gattc (.writeComplete 16 0))]

/-- The completion was taken for a subscription, and the pump waits for one that does not come. -/
theorem adjacent_confused : ¬ Unconfused 16 15 ∧
    (after (Client.step .queue ⟨.replicate 6 7⟩) (.fresh [⟨[1], by decide⟩]) adjacentRun).outstanding = [] ∧
    (after (Client.step .queue ⟨.replicate 6 7⟩) (.fresh [⟨[1], by decide⟩])
      adjacentRun).state.outInflight = true := by
  refine ⟨fun h => absurd rfl h.ne_cccd, by decide +kernel, by decide +kernel⟩

end EspIdfMatter.Central
