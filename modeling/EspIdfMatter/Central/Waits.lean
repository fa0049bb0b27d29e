import EspIdfMatter.Central.Safety
import EspIdfMatter.Library.Latch

/-! The waits of the setup of the NimBLE GATT client. A wait ends when its operation does, one way or the
other, unless the subscription is refused: the hook records that a write of the CCCD failed nowhere. -/

namespace EspIdfMatter.Central

open Library Library.Machine Nimble

variable {β : Type}

/-! ### Terminal events -/

/-- The events that end the operation that is waited for. -/
def Wait.Terminal : Wait → Event → Prop
  | .synced, _ => False
  | .connected, .gap (.connect _ _ _ _) => True
  | .services _, .gattc (.service none) => True
  | .chars _, .gattc (.characteristic none) => True
  | .subscribed _ _ c2Val, .gattc (.writeComplete attrHandle _) => cccdHandle c2Val = some attrHandle
  | _, .gap (.disconnect _ _) => True
  | _, _ => False

/-- The completion of a write of the CCCD of which the state shows nothing: the status is an error, or a
`C2` found later is taken for the one subscribed to. -/
def Wait.Unanswered (s : State) : Wait → Event → Prop
  | .subscribed _ _ _, .gattc (.writeComplete attrHandle status) =>
      s.failed = false ∧
        if s.c2Val.bind cccdHandle = some attrHandle then status ≠ 0 else s.subscribed = false
  | _, _ => False

instance (wait : Wait) (event : Event) : Decidable (wait.Terminal event) := by
  unfold Wait.Terminal
  split <;> infer_instance

instance (s : State) (wait : Wait) (event : Event) : Decidable (wait.Unanswered s event) := by
  unfold Wait.Unanswered
  split <;> infer_instance

/-- A completion either answers the subscription, or it leaves both flags alone. -/
theorem onWriteComplete_flags (attrHandle : Handle) (status : Int) (cccd : Option Handle) (c : Context) :
    (onWriteComplete attrHandle status cccd c).state.failed = c.state.failed ∧
      (onWriteComplete attrHandle status cccd c).state.subscribed =
        if cccd = some attrHandle then decide (status = 0) else c.state.subscribed := by
  unfold onWriteComplete
  by_cases hcccd : cccd = some attrHandle
  · rw [if_pos hcccd.symm, if_pos hcccd]
    exact ⟨rfl, rfl⟩
  · rw [if_neg (Ne.symm hcccd), if_neg hcccd]
    split <;> exact ⟨rfl, rfl⟩

/-- After the terminal event the predicate of the wait holds, unless the event is left unanswered. -/
theorem pred_of_terminal {wait : Wait} {event : Event} {c c' : Context} (hterminal : wait.Terminal event)
    (hhandled : onEvent event c = some c') :
    wait.pred c'.state = true ↔ ¬ wait.Unanswered c.state event := by
  unfold Wait.Terminal at hterminal
  split at hterminal
  · exact hterminal.elim
  · rename_i connHandle status found attMtu
    cases status with
    | ok u =>
        cases hhandled
        exact iff_of_true rfl id
    | error e =>
        cases hhandled
        exact iff_of_true (Bool.or_true _) id
  · cases hhandled
    exact iff_of_true rfl id
  · cases hhandled
    exact iff_of_true rfl id
  · rename_i conn c1Val c2Val attrHandle status
    rw [onEvent_writeComplete hhandled]
    obtain ⟨hfailed, hsubscribed⟩ :=
      onWriteComplete_flags attrHandle status (c.state.c2Val.bind cccdHandle) c
    simp only [Wait.pred, Wait.Unanswered, hfailed, hsubscribed]
    by_cases hcccd : c.state.c2Val.bind cccdHandle = some attrHandle
    · cases hf : c.state.failed <;> simp [hcccd]
    · cases hf : c.state.failed <;> simp [hcccd]
  · rename_i hwait
    cases hhandled
    cases wait with
    | synced => exact (hwait rfl).elim
    | _ => exact iff_of_true (Bool.or_true _) id
  · exact hterminal.elim

/-! ### Waiting -/

theorem Effect.progress {event : Event} {marks : List Mark} {c c' : Context} (h : Effect c event marks c')
    (wait : Wait) :
    c'.notifyProgress = true ∨
      c'.notifyProgress = c.notifyProgress ∧ wait.pred c'.state = wait.pred c.state := by
  cases h with
  | synced | connected | connectFailed | disconnected | servicesDone | charsDone | cccdWritten => exact .inl rfl
  | _ => exact .inr ⟨rfl, by cases wait <;> rfl⟩

/-- While it waits, `run` has not ended, and it does not miss what it waits for. -/
structure Client.Attentive (S : Client β) : Prop where
  going : S.world.ended = none ∨ S.phase = .stopped ∨ ∃ conn c1Val, S.phase = .pumping conn c1Val
  alert : ∀ wait, Alert (S.phase = .wait wait true) (S.world.context.notifyProgress = true)
    (wait.pred S.state = false)

theorem Client.Attentive.of_awake {S : Client β}
    (hgoing : S.world.ended = none ∨ S.phase = .stopped ∨ ∃ conn c1Val, S.phase = .pumping conn c1Val)
    (hphase : ∀ wait, S.phase ≠ .wait wait true) : S.Attentive :=
  ⟨hgoing, fun wait => .of_awake (hphase wait)⟩

theorem Client.attentive_fail (S : Client β) : S.fail.Attentive := .of_awake (.inr (.inl rfl)) nofun

theorem Client.attentive_proceed {S : Client β} (hended : S.world.ended = none) {ε : Type}
    (result : Except ε Unit) {phase : Phase} (hphase : ∀ wait, phase ≠ .wait wait true) :
    (S.proceed result phase).Attentive := by
  cases result with
  | ok u => exact .of_awake (.inl hended) hphase
  | error e => exact S.attentive_fail

theorem attentive_advance {S : Client β} (hS : S.Attentive) (hended : S.world.ended = none) (addr : BtAddr)
    (d : Answers) : (S.advance addr d).1.Attentive := by
  have hgo : ∀ {phase : Phase}, (∀ wait, phase ≠ .wait wait true) →
      Client.Attentive { S with phase } := fun hphase => .of_awake (.inl hended) hphase
  unfold Client.advance
  cases S.phase with
  | start =>
      have hstart : (S.world.setState { S.state with peer := addr }).ended = none := hended
      exact Client.attentive_proceed (S := { S with world := S.world.setState { S.state with peer := addr } })
        hstart d.start nofun
  | wait wait blocked =>
      cases blocked with
      | true =>
          dsimp only
          split
          · exact .of_awake (.inl hended) nofun
          · exact hS
      | false =>
          dsimp only
          split
          · refine hgo fun wait' => ?_
            cases wait <;> exact nofun
          · rename_i hpred
            refine ⟨.inl hended, fun wait' hwait => .inr ?_⟩
            cases hwait
            exact eq_false_of_ne_true hpred
  | connect =>
      dsimp only
      split
      · exact S.attentive_fail
      · exact Client.attentive_proceed hended d.connect nofun
  | readConnHandle =>
      dsimp only
      split
      · exact S.attentive_fail
      · exact hgo nofun
  | discoverServices conn => exact Client.attentive_proceed hended d.discoverServices nofun
  | readRange conn =>
      dsimp only
      split
      · exact S.attentive_fail
      · exact hgo nofun
  | discoverCharacteristics conn startHandle endHandle =>
      exact Client.attentive_proceed hended d.discoverCharacteristics nofun
  | readChars conn =>
      dsimp only
      split
      · exact hgo nofun
      · exact S.attentive_fail
  | subscribe conn c1Val c2Val =>
      dsimp only
      split
      · exact .of_awake (.inl hended) nofun
      · split
        · exact S.attentive_fail
        · exact .of_awake (.inl hended) nofun
  | checkFailed conn c1Val =>
      dsimp only
      split
      · exact S.attentive_fail
      · exact hgo nofun
  | setInitiator conn c1Val => exact hgo nofun
  | pumping conn c1Val => exact hS
  | stopped => exact hS

theorem attentive_pump {S : Client β} {conn c1Val : Handle} (hphase : S.phase = .pumping conn c1Val)
    (it : Iteration β) : (S.pump it).1.Attentive := by
  have hpumping : (S.pump it).1.phase = .pumping conn c1Val := hphase
  refine .of_awake (.inr (.inr ⟨conn, c1Val, hpumping⟩)) fun wait => ?_
  rw [hpumping]
  exact nofun

theorem attentive_event {S : Client β} (hS : S.Attentive) {event : Event} {context : Context}
    (hevent : onEvent event S.world.context = some context) (outstanding : List (Purpose × Handle)) :
    Client.Attentive { S with world := { S.world with context }, outstanding } := by
  refine ⟨hS.going, fun wait => ?_⟩
  rcases (effect_onEvent hevent).progress wait with hwoken | ⟨hkept, hpred⟩
  · exact .of_woken hwoken
  · exact (hS.alert wait).keep id hkept.trans fun hidle => .inr (hpred.trans hidle)

theorem attentive_step (E : Btp β) (addr : BtAddr) {S : Client β} (hS : S.Attentive) (input : Input β) :
    (S.step E addr input).1.Attentive := by
  have hmoves := S.moves_step E addr input
  generalize S.step E addr input = next at hmoves ⊢
  cases hmoves with
  | nothing => exact hS
  | event _ _ hevent => exact attentive_event hS hevent _
  | run d _ hended => exact attentive_advance hS hended addr d
  | incoming _ _ hphase => exact attentive_pump hphase _
  | outgoing _ _ _ hphase => exact attentive_pump hphase _
  | overflow | matter => exact ⟨hS.going, hS.alert⟩

theorem attentive_run (E : Btp β) (addr : BtAddr) (btp : β) (inputs : List (Input β)) :
    (after (Client.step E addr) (.fresh btp) inputs).Attentive :=
  run_induction (Client.step E addr) (I := fun _ S _ => S.Attentive)
    (fun _ _ input _ hS => attentive_step E addr hS input) (h := []) (.of_awake (.inl rfl) nofun)

/-! ### What `run` does when its wait is over -/

section Run

variable (E : Btp β) (addr : BtAddr) {S : Client β} {wait : Wait}

theorem step_run (hended : S.world.ended = none) (hrunning : S.world.aborted = false) (d : Answers) :
    (S.step E addr (.run d)).1 = (S.advance addr d).1 := by
  unfold Client.step
  rw [if_neg (by rw [hrunning]; nofun)]
  dsimp only
  rw [if_pos hended]

/-- It looks at the state, and goes on. -/
theorem step_run_of_pred (hphase : S.phase = .wait wait false) (hpred : wait.pred S.state = true)
    (hended : S.world.ended = none) (hrunning : S.world.aborted = false) (d : Answers) :
    (S.step E addr (.run d)).1.phase = wait.next := by
  rw [step_run E addr hended hrunning, Client.advance, hphase]
  dsimp only
  rw [if_pos hpred]

/-- It is woken. -/
theorem step_run_of_woken (hphase : S.phase = .wait wait true)
    (hwoken : S.world.context.notifyProgress = true) (hended : S.world.ended = none)
    (hrunning : S.world.aborted = false) (d : Answers) :
    (S.step E addr (.run d)).1 =
      { S with
        world := { S.world with context := { S.world.context with notifyProgress := false } }
        phase := .wait wait false } := by
  rw [step_run E addr hended hrunning, Client.advance, hphase]
  exact congrArg Prod.fst (if_pos hwoken)

/-- What is waited for is there, and `run` goes on by itself. -/
def Client.Reacts (S : Client β) (wait : Wait) : Prop :=
  wait.pred S.state = true ∧
    ∀ d, ∃ k ≤ 2, (after (Client.step E addr) S (.replicate k (.run d))).phase = wait.next

theorem Client.Attentive.reacts {blocked : Bool} (hS : S.Attentive) (hphase : S.phase = .wait wait blocked)
    (hrunning : S.world.aborted = false) (hpred : wait.pred S.state = true) :
    S.Reacts E addr wait := by
  have hended : S.world.ended = none := by
    rcases hS.going with hended | hstopped | ⟨conn, c1Val, hpumping⟩
    · exact hended
    · cases hphase.symm.trans hstopped
    · cases hphase.symm.trans hpumping
  refine ⟨hpred, fun d => ?_⟩
  cases blocked with
  | false =>
      refine ⟨1, by omega, ?_⟩
      exact step_run_of_pred E addr hphase hpred hended hrunning d
  | true =>
      have hwoken : S.world.context.notifyProgress = true := by
        apply (hS.alert wait hphase).resolve_right
        rw [hpred]
        exact nofun
      refine ⟨2, le_rfl, ?_⟩
      change ((S.step E addr (.run d)).1.step E addr (.run d)).1.phase = wait.next
      rw [step_run_of_woken E addr hphase hwoken hended hrunning]
      exact step_run_of_pred (S := { S with
        world := { S.world with context := { S.world.context with notifyProgress := false } }
        phase := .wait wait false }) E addr rfl hpred hended hrunning d

/-- `run` stays where it is until something changes. -/
theorem stays_waiting {blocked : Bool} (hphase : S.phase = .wait wait blocked)
    (hpred : wait.pred S.state = false) (ds : List Answers) :
    ∃ blocked, (after (Client.step E addr) S (ds.map .run)).phase = .wait wait blocked := by
  induction ds generalizing S blocked with
  | nil => exact ⟨blocked, hphase⟩
  | cons d ds ih =>
      obtain ⟨blocked', hphase', hstate⟩ : ∃ blocked', (S.step E addr (.run d)).1.phase = .wait wait blocked' ∧
          (S.step E addr (.run d)).1.state = S.state := by
        unfold Client.step
        split
        · exact ⟨blocked, hphase, rfl⟩
        · dsimp only
          split
          · rw [Client.advance, hphase]
            cases blocked with
            | false =>
                dsimp only
                rw [if_neg (by rw [hpred]; nofun)]
                exact ⟨true, rfl, rfl⟩
            | true =>
                dsimp only
                split
                · exact ⟨false, rfl, rfl⟩
                · exact ⟨true, hphase, rfl⟩
          · exact ⟨blocked, hphase, rfl⟩
      exact ih hphase' (by rw [hstate]; exact hpred)

end Run

/-! ### The waits -/

/-- **The waits react to the ends of their operations**, those that leave the subscription unanswered
apart: with such a one `run` is left waiting. -/
theorem waits_react_iff (E : Btp β) (addr : BtAddr) (btp : β) (inputs : List (Input β)) {wait : Wait}
    {blocked : Bool} {event : Event} {context : Context}
    (hphase : (after (Client.step E addr) (.fresh btp) inputs).phase = .wait wait blocked)
    (hrunning : (after (Client.step E addr) (.fresh btp) inputs).world.aborted = false)
    (hterminal : wait.Terminal event)
    (hhandled : onEvent event (after (Client.step E addr) (.fresh btp) inputs).world.context = some context) :
    (((after (Client.step E addr) (.fresh btp) inputs).step E addr (.event event)).1.Reacts E addr wait ↔
      ¬ wait.Unanswered (after (Client.step E addr) (.fresh btp) inputs).state event) ∧
    (wait.Unanswered (after (Client.step E addr) (.fresh btp) inputs).state event →
      ∀ ds : List Answers, ∃ blocked,
        (after (Client.step E addr)
          ((after (Client.step E addr) (.fresh btp) inputs).step E addr (.event event)).1
          (ds.map .run)).phase = .wait wait blocked) := by
  have hattentive := attentive_run E addr btp inputs
  generalize after (Client.step E addr) (.fresh btp) inputs = S at *
  have hstep : (S.step E addr (.event event)).1 =
      { S with
        world := { S.world with context }
        outstanding := event.completes S.outstanding } := by
    unfold Client.step
    rw [if_neg (by rw [hrunning]; nofun)]
    dsimp only
    rw [if_neg (by rw [hphase]; nofun), hhandled]
  have hafter := attentive_step E addr hattentive (.event event)
  have hpred := pred_of_terminal hterminal hhandled
  rw [hstep] at hafter ⊢
  refine ⟨⟨fun hreacts => hpred.mp hreacts.1, fun hanswered => ?_⟩, fun hunanswered => ?_⟩
  · exact hafter.reacts E addr hphase hrunning (hpred.mpr hanswered)
  · refine stays_waiting (S := { S with
      world := { S.world with context }
      outstanding := event.completes S.outstanding }) E addr hphase ?_
    exact eq_false_of_ne_true fun h => hpred.mp h hunanswered

/-- A client that has written the CCCD, and waits. -/
def subscribingRun : List (Input (List Buffer)) := establishedRun.take 19

/-- The subscription is granted. -/
theorem waits_react_granted :
    ((after (Client.step .queue ⟨.replicate 6 7⟩) (.fresh []) subscribingRun).step .queue ⟨.replicate 6 7⟩
      (.event (.gattc (.writeComplete 15 0)))).1.Reacts .queue ⟨.replicate 6 7⟩ (.subscribed 1 12 14) := by
  have hphase : (after (Client.step .queue ⟨.replicate 6 7⟩) (.fresh []) subscribingRun).phase =
      .wait (.subscribed 1 12 14) false := by decide +kernel
  have hterminal : Wait.Terminal (.subscribed 1 12 14) (.gattc (.writeComplete 15 0)) := by decide
  have hreacts := (waits_react_iff .queue ⟨.replicate 6 7⟩ [] subscribingRun hphase (by decide +kernel)
    hterminal rfl).1
  exact hreacts.mpr (by decide +kernel)

/-- The subscription is refused, with an error of the ATT protocol. -/
theorem refused_subscription_unanswered :
    (after (Client.step .queue ⟨.replicate 6 7⟩) (.fresh []) subscribingRun).phase =
        .wait (.subscribed 1 12 14) false ∧
      Wait.Terminal (.subscribed 1 12 14) (.gattc (.writeComplete 15 5)) ∧
      (Wait.subscribed 1 12 14).pred
        ((after (Client.step .queue ⟨.replicate 6 7⟩) (.fresh []) subscribingRun).step .queue
          ⟨.replicate 6 7⟩ (.event (.gattc (.writeComplete 15 5)))).1.state = false := by
  refine ⟨by decide +kernel, by decide, by decide +kernel⟩

end EspIdfMatter.Central
