import EspIdfMatter.Central.Safety

/-! Calling `run` again on a client. Only the constructor resets the context, so that a later run finds what
the hooks recorded in an earlier one. -/

namespace EspIdfMatter.Central

open Library Library.Machine Nimble

variable {β : Type}

/-! ### Later runs -/

/-- A client whose `run` is called on a context as earlier runs left it. -/
def Client.rerun (c : Context) (btp : β) : Client β where
  world := { context := c, btp, ended := none, aborted := false }
  phase := .start
  outstanding := []

/-- A context as any number of runs may leave it. Each was stopped at any point, and the events that came
before the next one count among its inputs. -/
inductive Context.Ran (E : Btp β) : Context → Prop where
  | new : Ran E .new
  | run {c : Context} (addr : BtAddr) (btp : β) (inputs : List (Input β)) (hran : Ran E c)
      (hrunning : (after (Client.step E addr) (.rerun c btp) inputs).world.aborted = false) :
      Ran E (after (Client.step E addr) (.rerun c btp) inputs).world.context

/-- A run over this context does the same as the run of a client just created. -/
structure SameRun (E : Btp β) (addr : BtAddr) (c : Context) (btp : β) (inputs : List (Input β)) :
    Prop where
  outputs : outputs (Client.step E addr) (.rerun c btp) inputs =
    outputs (Client.step E addr) (.fresh btp) inputs
  phase : (after (Client.step E addr) (.rerun c btp) inputs).phase =
    (after (Client.step E addr) (.fresh btp) inputs).phase
  ended : (after (Client.step E addr) (.rerun c btp) inputs).world.ended =
    (after (Client.step E addr) (.fresh btp) inputs).world.ended

/-- The context is as new, except for the peer's address, which every run sets. -/
def Context.Untouched (c : Context) : Prop :=
  ∃ peer, c = Context.new.modify fun s => { s with peer }

/-- Something was recorded that a later run finds. -/
def State.marked (s : State) : Bool :=
  s.synced || s.failed || s.connHandle.isSome || s.servicesDone || s.matterRange.isSome || s.charsDone ||
    s.c1Val.isSome || s.c2Val.isSome

/-! ### What a run leaves -/

theorem Effect.marked {event : Event} {marks : List Mark} {c c' : Context} (h : Effect c event marks c')
    (hmarked : c.state.marked = true) : c'.state.marked = true := by
  cases h with
  | nothing => exact hmarked
  | mtu | cccdWritten | c1Written | notified => exact hmarked
  | synced | connected | connectFailed | disconnected | matterRange | servicesDone | c1Val | c2Val
  | charsDone =>
      simp [State.marked, Context.modify, Context.signalProgress, Context.signalIn, Context.signalOut]

/-- An event leaves an untouched context so, or it is recorded. -/
theorem onEvent_untouched {event : Event} {c c' : Context} (hc : c.Untouched)
    (h : onEvent event c = some c') : c'.Untouched ∨ c'.state.marked = true := by
  obtain ⟨peer, rfl⟩ := hc
  cases event with
  | host event =>
      cases event with
      | sync =>
          cases h
          exact .inr rfl
      | other =>
          cases h
          exact .inl ⟨peer, rfl⟩
  | gap event =>
      cases event with
      | connect connHandle status found attMtu =>
          cases status with
          | error e =>
              cases h
              exact .inr rfl
          | ok u =>
              cases h
              exact .inr rfl
      | disconnect connHandle reason =>
          cases h
          exact .inr rfl
      | mtu connHandle value =>
          cases h
          exact .inl ⟨peer, rfl⟩
      | other =>
          cases h
          exact .inl ⟨peer, rfl⟩
  | gattc event =>
      cases event with
      | service service =>
          cases service with
          | none =>
              cases h
              exact .inr rfl
          | some service =>
              simp only [onEvent, onGattcEvent, Option.some.injEq] at h
              subst h
              split
              · exact .inr rfl
              · exact .inl ⟨peer, rfl⟩
      | characteristic chr =>
          cases chr with
          | none =>
              cases h
              exact .inr rfl
          | some chr =>
              simp only [onEvent, onGattcEvent, Option.some.injEq] at h
              subst h
              by_cases hc1 : chr.uuid = .c1
              · simp only [hc1, ↓reduceIte]
                exact .inr rfl
              by_cases hc2 : chr.uuid = .c2
              · simp only [hc2, reduceCtorEq, ↓reduceIte]
                exact .inr rfl
              · simp only [hc1, hc2, ↓reduceIte]
                exact .inl ⟨peer, rfl⟩
      | writeComplete attrHandle status =>
          cases h
          exact .inl ⟨peer, rfl⟩
      | notify attrHandle data =>
          cases h
          exact .inl ⟨peer, rfl⟩
      | readComplete =>
          cases h
          exact .inl ⟨peer, rfl⟩

/-- Where `run` is as long as nothing is recorded. -/
def Phase.Initial : Phase → Prop
  | .start | .wait .synced _ | .stopped => True
  | _ => False

/-- Something was recorded, or the context is untouched and `run` has not got past its first wait. -/
def Client.Left (S : Client β) : Prop :=
  S.state.marked = true ∨ S.world.context.Untouched ∧ S.phase.Initial

theorem Client.proceed_context (S : Client β) {ε : Type} (result : Except ε Unit) (phase : Phase) :
    (S.proceed result phase).world.context = S.world.context := by
  cases result with
  | error e => rfl
  | ok u => rfl

/-- `run` itself changes nothing that is recorded. -/
theorem marked_advance (addr : BtAddr) (d : Answers) (S : Client β) :
    (S.advance addr d).1.state.marked = S.state.marked := by
  have hproceed (S : Client β) {ε : Type} (result : Except ε Unit) (phase : Phase) :
      (S.proceed result phase).state.marked = S.state.marked :=
    congrArg (fun c : Context => c.state.marked) (S.proceed_context result phase)
  unfold Client.advance
  cases S.phase with
  | start => exact hproceed _ d.start _
  | wait wait blocked =>
      cases blocked with
      | false =>
          dsimp only
          split
          · rfl
          · rfl
      | true =>
          dsimp only
          split
          · rfl
          · rfl
  | connect =>
      dsimp only
      split
      · rfl
      · exact hproceed S d.connect _
  | discoverServices conn => exact hproceed S d.discoverServices _
  | discoverCharacteristics conn startHandle endHandle => exact hproceed S d.discoverCharacteristics _
  | _ =>
      dsimp only
      repeat' split
      all_goals rfl

theorem left_advance {S : Client β} (hS : S.Left) (addr : BtAddr) (d : Answers) :
    (S.advance addr d).1.Left := by
  rcases hS with hmarked | ⟨⟨peer, hcontext⟩, hphase⟩
  · exact .inl ((marked_advance addr d S).trans hmarked)
  right
  cases h : S.phase with
  | start =>
      have hadvance : (S.advance addr d).1 = Client.proceed
          { S with world := S.world.setState { S.state with peer := addr } } d.start
          (.wait .synced false) := by
        rw [Client.advance, h]
      rw [hadvance]
      refine ⟨⟨addr, ?_⟩, ?_⟩
      · rw [Client.proceed_context, World.setState, Client.state, World.state, hcontext]
        rfl
      · cases d.start with
        | error e => trivial
        | ok u => trivial
  | stopped =>
      rw [Client.advance, h]
      exact ⟨⟨peer, hcontext⟩, hphase⟩
  | wait wait blocked =>
      rw [h] at hphase
      obtain rfl : wait = .synced := by
        cases wait <;> first | rfl | exact hphase.elim
      cases blocked with
      | false =>
          have hpred : Wait.synced.pred S.state = false := by
            rw [Client.state, World.state, hcontext]
            rfl
          simp only [Client.advance, h, hpred, Bool.false_eq_true, ↓reduceIte]
          exact ⟨⟨peer, hcontext⟩, trivial⟩
      | true =>
          have hsignal : S.world.context.notifyProgress = false := by
            rw [hcontext]
            rfl
          simp only [Client.advance, h, hsignal, Bool.false_eq_true, ↓reduceIte]
          exact ⟨⟨peer, hcontext⟩, trivial⟩
  | _ =>
      rw [h] at hphase
      exact hphase.elim

theorem left_step (E : Btp β) (addr : BtAddr) {S : Client β} (hS : S.Left) (input : Input β) :
    (S.step E addr input).1.Left := by
  have hpump {conn c1Val : Handle} (hphase : S.phase = .pumping conn c1Val) {it : Iteration β}
      (hit : Pumps S.world it) : (S.pump it).1.Left := by
    rcases hS with hmarked | ⟨-, hinitial⟩
    · obtain ⟨inData, outData, outInflight, hstate⟩ := hit.state
      have hstate' : (S.pump it).1.state = { S.state with inData, outData, outInflight } := hstate
      refine .inl ?_
      rw [hstate']
      exact hmarked
    · rw [hphase] at hinitial
      exact hinitial.elim
  have hmoves := S.moves_step E addr input
  generalize S.step E addr input = next at hmoves ⊢
  cases hmoves with
  | nothing | overflow | matter => exact hS
  | event _ _ hevent =>
      rcases hS with hmarked | ⟨huntouched, hinitial⟩
      · exact .inl ((effect_onEvent hevent).marked hmarked)
      · exact (onEvent_untouched huntouched hevent).elim (fun h => .inr ⟨h, hinitial⟩) .inl
  | run d => exact left_advance hS addr d
  | incoming _ _ hphase => exact hpump hphase (pumps_processIncoming E S.world)
  | outgoing result _ _ hphase => exact hpump hphase (pumps_processOutgoing E _ _ result S.world)

theorem Context.Ran.left {E : Btp β} {c : Context} (hran : c.Ran E) :
    c.state.marked = true ∨ c.Untouched := by
  induction hran with
  | new => exact .inr ⟨_, rfl⟩
  | @run c addr btp inputs hran hrunning ih =>
      have hstart : (Client.rerun c btp).Left := ih.imp_right fun h => ⟨h, trivial⟩
      have hend : Client.Left (after (Client.step E addr) (.rerun c btp) inputs) :=
        (run_induction (Client.step E addr) (I := fun _ S _ => S.Left)
          (fun _ _ input _ hS => left_step E addr hS input) (h := []) hstart)
      exact hend.imp_right And.left

/-! ### What a later run finds -/

theorem SameRun.step {E : Btp β} {addr : BtAddr} {c : Context} {btp btp' : β} {inputs : List (Input β)}
    (h : SameRun E addr c btp' inputs) {input : Input β}
    (hrerun : (Client.rerun c btp).step E addr input = (.rerun c btp', []))
    (hfresh : (Client.fresh btp).step E addr input = (.fresh btp', [])) :
    SameRun E addr c btp (input :: inputs) := by
  constructor
  · rw [outputs_cons, outputs_cons, hrerun, hfresh, h.outputs]
  · rw [after_cons, after_cons, hrerun, hfresh, h.phase]
  · rw [after_cons, after_cons, hrerun, hfresh, h.ended]

/-- Over an untouched context the later run does nothing until it sets the peer's address, and it is the
first one from there on. -/
theorem sameRun_of_untouched (E : Btp β) (addr : BtAddr) {c : Context} (hc : c.Untouched) (btp : β)
    (inputs : List (Input β)) : SameRun E addr c btp inputs := by
  obtain ⟨peer, rfl⟩ := hc
  induction inputs generalizing btp with
  | nil => exact ⟨rfl, rfl, rfl⟩
  | cons input inputs ih =>
      cases input with
      | run d =>
          have hstart :
              (Client.rerun (Context.new.modify fun s => { s with peer }) btp).step E addr (.run d) =
                (Client.fresh btp).step E addr (.run d) := rfl
          refine ⟨?_, ?_, ?_⟩
          · rw [outputs_cons, outputs_cons, hstart]
          · rw [after_cons, after_cons, hstart]
          · rw [after_cons, after_cons, hstart]
      | event event => exact (ih btp).step rfl rfl
      | incoming => exact (ih btp).step rfl rfl
      | outgoing result => exact (ih btp).step rfl rfl
      | matter btp' => exact (ih btp').step rfl rfl

/-! ### What shows in a later run -/

/-- `run` is about to look at the state in this wait. -/
def Client.waiting (c : Context) (btp : β) (wait : Wait) : Client β where
  world := { context := c, btp, ended := none, aborted := false }
  phase := .wait wait false
  outstanding := []

/-- The host synchronizes, and `run` calls connect. -/
def connecting : List (Input β) :=
  [.run .succeeding, .event (.host .sync), .run .succeeding, .run .succeeding]

def Context.connecting (addr : BtAddr) (c : Context) : Context :=
  (c.modify fun s => { s with peer := addr, synced := true }).signalProgress

/-- The connection is made, and `run` looks for the services. -/
def discovering : List (Input β) :=
  [.event (.gap (.connect 1 (.ok ()) (.error ⟨0⟩) (.error ⟨0⟩))), .run .succeeding, .run .succeeding,
    .run .succeeding]

def Context.discovering (c : Context) : Context :=
  (c.modify fun s => { s with connHandle := some 1 }).signalProgress

/-- The service is found, and `run` looks for the characteristics. -/
def collecting : List (Input β) :=
  [.event (.gattc (.service (some ⟨.matterService, 10, 20⟩))), .event (.gattc (.service none)),
    .run .succeeding, .run .succeeding, .run .succeeding]

def Context.collecting (c : Context) : Context :=
  (c.modify fun s => { s with matterRange := some (10, 20), servicesDone := true }).signalProgress

theorem after_connecting (E : Btp β) (addr : BtAddr) (c : Context) (btp : β) :
    after (Client.step E addr) (.rerun c btp) connecting = .waiting (c.connecting addr) btp .connected :=
  rfl

theorem after_discovering (E : Btp β) (addr : BtAddr) (c : Context) (btp : β) :
    after (Client.step E addr) (.waiting c btp .connected) discovering =
      .waiting c.discovering btp (.services 1) := rfl

theorem after_collecting (E : Btp β) (addr : BtAddr) (c : Context) (btp : β) :
    after (Client.step E addr) (.waiting c btp (.services 1)) collecting =
      .waiting c.collecting btp (.chars 1) := rfl

/-- From here on, the two runs are always at the same point. -/
def InStep (E : Btp β) (addr : BtAddr) (S S' : Client β) : Prop :=
  ∀ inputs, (after (Client.step E addr) S inputs).phase = (after (Client.step E addr) S' inputs).phase

theorem InStep.after {E : Btp β} {addr : BtAddr} {S S' T T' : Client β} (h : InStep E addr S S')
    (inputs : List (Input β)) (hT : Machine.after (Client.step E addr) S inputs = T)
    (hT' : Machine.after (Client.step E addr) S' inputs = T') : InStep E addr T T' := by
  intro rest
  have hphase := h (inputs ++ rest)
  rwa [after_append, after_append, hT, hT'] at hphase

/-- What is waited for is there in both of them, or in neither. -/
theorem InStep.pred {E : Btp β} {addr : BtAddr} {c c' : Context} {btp : β} {wait : Wait}
    (h : InStep E addr (.waiting c btp wait) (.waiting c' btp wait)) :
    wait.pred c.state = wait.pred c'.state := by
  have hnext : wait.next ≠ .wait wait true := by
    cases wait <;> exact Phase.noConfusion
  have hlook (c : Context) :
      (Machine.after (Client.step E addr) (.waiting c btp wait) [.run .succeeding]).phase =
        if wait.pred c.state = true then wait.next else .wait wait true := by
    cases hpred : wait.pred c.state <;>
      simp [Client.step, Client.advance, Client.waiting, Client.state, World.state, hpred]
  have hphase := h [.run .succeeding]
  rw [hlook, hlook] at hphase
  cases hpred : wait.pred c.state <;> cases hpred' : wait.pred c'.state
  · rfl
  · rw [hpred, hpred'] at hphase
    exact absurd hphase.symm hnext
  · rw [hpred, hpred'] at hphase
    exact absurd hphase hnext
  · rfl

/-- Whatever was recorded, there is a run that goes on at the wait or the decision that depends on it, where
the run of a client just created does not. -/
theorem marked_eq_false {E : Btp β} {addr : BtAddr} {c : Context} {btp : β}
    (h : InStep E addr (.rerun c btp) (.fresh btp)) : c.state.marked = false := by
  have hstarting : InStep E addr (.waiting (c.modify fun s => { s with peer := addr }) btp .synced)
      (.waiting (Context.new.modify fun s => { s with peer := addr }) btp .synced) :=
    h.after [.run .succeeding] rfl rfl
  have hconnecting := h.after connecting (after_connecting E addr c btp) (after_connecting E addr .new btp)
  have hdiscovering := hconnecting.after discovering (after_discovering ..) (after_discovering ..)
  have hcollecting := hdiscovering.after collecting (after_collecting ..) (after_collecting ..)
  have hsynced : c.state.synced = false := hstarting.pred
  have hconn : (c.state.connHandle.isSome || c.state.failed) = false := hconnecting.pred
  have hservices : (c.state.servicesDone || c.state.failed) = false := hdiscovering.pred
  have hchars : (c.state.charsDone || c.state.failed) = false := hcollecting.pred
  have hrange : c.state.matterRange = none := by
    rcases c with ⟨s, notifyProgress, notifyIn, notifyOut⟩
    rcases s with ⟨synced, connHandle, failed, mtu, peer, matterRange⟩
    cases matterRange with
    | none => rfl
    | some range =>
        have hphase : Phase.discoverCharacteristics 1 range.1 range.2 = .stopped :=
          hdiscovering [.event (.gattc (.service none)), .run .succeeding, .run .succeeding]
        cases hphase
  have hc1 : c.state.c1Val = none := by
    rcases c with ⟨s, notifyProgress, notifyIn, notifyOut⟩
    rcases s with ⟨synced, connHandle, failed, mtu, peer, matterRange, servicesDone, c1Val, c2Val⟩
    cases c1Val with
    | none => rfl
    | some c1 =>
        have hphase : Phase.subscribe 1 c1 14 = .stopped :=
          hcollecting [.event (.gattc (.characteristic (some ⟨.c2, 14⟩))),
            .event (.gattc (.characteristic none)), .run .succeeding, .run .succeeding]
        cases hphase
  have hc2 : c.state.c2Val = none := by
    rcases c with ⟨s, notifyProgress, notifyIn, notifyOut⟩
    rcases s with ⟨synced, connHandle, failed, mtu, peer, matterRange, servicesDone, c1Val, c2Val⟩
    cases c2Val with
    | none => rfl
    | some c2 =>
        have hphase : Phase.subscribe 1 12 c2 = .stopped :=
          hcollecting [.event (.gattc (.characteristic (some ⟨.c1, 12⟩))),
            .event (.gattc (.characteristic none)), .run .succeeding, .run .succeeding]
        cases hphase
  simp only [Bool.or_eq_false_iff] at hconn hservices hchars
  simp only [State.marked, hsynced, hconn, hservices, hrange, hchars, hc1, hc2, Option.isSome_none,
    Bool.or_false]

/-- **A later run starts afresh** exactly when the earlier ones recorded nothing at all: neither that the
host is in sync, nor a connection or its end, nor anything that was discovered. Only the peer's address may
differ from a new context. -/
theorem rerun_fresh_iff (E : Btp β) {c : Context} (hran : c.Ran E) (btp : β) :
    (∀ addr inputs, SameRun E addr c btp inputs) ↔ c.Untouched := by
  constructor
  · intro h
    refine hran.left.resolve_left ?_
    rw [marked_eq_false fun inputs => (h ⟨.replicate 6 0⟩ inputs).phase]
    exact Bool.false_ne_true
  · intro hc addr inputs
    exact sameRun_of_untouched E addr hc btp inputs

/-- The driver does not start, and `run` is called again. -/
theorem rerun_fresh_not_started : SameRun .queue ⟨.replicate 6 8⟩
    (after (Client.step .queue ⟨.replicate 6 7⟩) (.rerun .new [])
      [.run { Answers.succeeding with start := .error ⟨-1⟩ }]).world.context
    [⟨[1], by decide⟩] establishedRun :=
  (rerun_fresh_iff .queue (.run ⟨.replicate 6 7⟩ [] _ .new rfl) _).mpr ⟨⟨.replicate 6 7⟩, rfl⟩ _ _

/-- A session that was established, and then disconnected. -/
def disconnectedRun : List (Input (List Buffer)) :=
  establishedRun ++ [.event (.gap (.disconnect 1 0)), .incoming]

/-- The host is in sync and connects, and the discovery of services finds no connection. -/
def reconnecting : List (Input (List Buffer)) :=
  connecting ++ [.run .succeeding, .run .succeeding,
    .run { Answers.succeeding with discoverServices := .error ⟨7⟩ }]

/-- The next run looks for services on the connection that is gone, and fails, where the run of a client just
created waits for a connection. -/
theorem stale_connection : ∃ c : Context, c.Ran .queue ∧
    (after (Client.step .queue ⟨.replicate 6 8⟩) (.rerun c []) reconnecting).phase = .stopped ∧
    (after (Client.step .queue ⟨.replicate 6 8⟩) (.fresh []) reconnecting).phase = .wait .connected true ∧
    ¬ SameRun .queue ⟨.replicate 6 8⟩ c [] reconnecting := by
  have hrerun : (after (Client.step .queue ⟨.replicate 6 8⟩)
      (.rerun (after (Client.step .queue ⟨.replicate 6 7⟩) (.rerun .new [⟨[1], by decide⟩])
        disconnectedRun).world.context []) reconnecting).phase = .stopped := by decide +kernel
  have hfresh : (after (Client.step .queue ⟨.replicate 6 8⟩) (.fresh []) reconnecting).phase =
      .wait .connected true := by decide +kernel
  refine ⟨_, .run _ _ disconnectedRun .new (by decide +kernel), hrerun, hfresh, fun h => ?_⟩
  have hphase := h.phase
  rw [hrerun, hfresh] at hphase
  cases hphase

end EspIdfMatter.Central
