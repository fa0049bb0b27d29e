import EspIdfMatter.Nimble.Isolation

/-! Whether the NimBLE peripheral stays discoverable. The outgoing pump takes the request to advertise
and then makes three calls, any of which may fail; events come in between, as none of the calls is made
under the state lock. -/

namespace EspIdfMatter.Nimble

open Library Library.Machine

variable {β : Type}

/-- Where the outgoing pump is in its iteration. -/
inductive Advertising where
  | between
  /-- the request was taken -/
  | taken
  | addressed
  | configured
  /-- done with advertising, whether it was started or not -/
  | advertised
  deriving DecidableEq

/-- The peripheral, with whether the host has synced, and whether advertising was started after the last
event that ended it. -/
structure Discovery (β : Type) where
  world : World β
  stage : Advertising
  synced : Bool
  started : Bool

namespace Discovery

def fresh (c : Context) (c2ValHandle : Handle) (btp : β) : Discovery β where
  world := .fresh c c2ValHandle btp
  stage := .between
  synced := false
  started := false

/-- The pump goes on, up to the next point where an event may come. -/
def iterate (E : Btp β) (d : Driver) (S : Discovery β) : Discovery β × List Call :=
  match S.stage with
  | .between =>
      if S.world.ended = none then
        if S.world.state.needAdvertise = true then
          ({ S with
             world := S.world.setState { S.world.state with needAdvertise := false }
             stage := .taken }, [])
        else
          ({ S with stage := .advertised }, [])
      else
        (S, [])
  | .taken =>
      match d.ensureAddr with
      | .ok () => ({ S with stage := .addressed }, [.ensureAddr])
      | .error _ => ({ S with stage := .advertised }, [.ensureAddr])
  | .addressed =>
      let advData := S.world.state.advData.toList
      match d.advSetData with
      | .ok () => ({ S with stage := .configured }, [.advSetData advData])
      | .error _ => ({ S with stage := .advertised }, [.advSetData advData])
  | .configured =>
      match d.advStart with
      | .ok () => ({ S with stage := .advertised, started := true }, [.advStart])
      | .error _ => ({ S with stage := .advertised }, [.advStart])
  | .advertised =>
      let sent := (processOutgoing E d S.world).finish
      ({ S with world := sent.1, stage := .between }, sent.2)

end Discovery

/-- The events that end advertising, or find it ended. -/
def Event.endsAdvertising : Event → Bool
  | .host .sync => true
  | .gap (.connect _ (.error _) _ _) => true
  | .gap (.disconnect _ _) => true
  | _ => false

def Event.isSync : Event → Bool
  | .host .sync => true
  | _ => false

namespace Discovery

/-- Both pumps run on one task, so that the incoming one runs between the iterations of the other. -/
def step (E : Btp β) (S : Discovery β) : Step β → Discovery β × List Call
  | .event event =>
      ({ S with
         world := ((hook event).exec S.world).1
         synced := S.synced || event.isSync
         started := S.started && !event.endsAdvertising }, [])
  | .incoming =>
      if S.stage = .between then
        let received := Nimble.step E S.world .incoming
        ({ S with world := received.1 }, received.2)
      else
        (S, [])
  | .outgoing d => S.iterate E d
  | .matter btp => ({ S with world := S.world.setBtp btp }, [])

/-- Without an interruption, the pump makes one iteration. -/
theorem after_iterate (E : Btp β) (d : Driver) {S : Discovery β} (hstage : S.stage = .between)
    (hended : S.world.ended = none) :
    ∃ k, (after (step E) S (List.replicate k (.outgoing d))).stage = .between ∧
      (after (step E) S (List.replicate k (.outgoing d))).world =
        (Nimble.step E S.world (.outgoing d)).1 ∧
      outputs (step E) S (List.replicate k (.outgoing d)) =
        (Nimble.step E S.world (.outgoing d)).2 := by
  have hstep : Nimble.step E S.world (.outgoing d) = (iterateOutgoing E d S.world).finish := if_pos hended
  rw [hstep, iterateOutgoing, readvertise]
  by_cases hneed : S.world.state.needAdvertise = true
  · cases haddr : d.ensureAddr with
    | error e =>
        refine ⟨3, ?_⟩
        simp [List.replicate, step, iterate, hstage, hended, hneed, haddr, advertise, Iteration.finish]
    | ok u =>
        cases hdata : d.advSetData with
        | error e =>
            refine ⟨4, ?_⟩
            simp [List.replicate, step, iterate, hstage, hended, hneed, haddr, hdata, advertise, Iteration.finish]
        | ok u =>
            refine ⟨5, ?_⟩
            cases hadv : d.advStart with
            | error e =>
                simp [List.replicate, step, iterate, hstage, hended, hneed, haddr, hdata, hadv, advertise,
                  Iteration.finish]
            | ok u =>
                simp [List.replicate, step, iterate, hstage, hended, hneed, haddr, hdata, hadv, advertise,
                  Iteration.finish]
  · refine ⟨2, ?_⟩
    simp [List.replicate, step, iterate, hstage, hended, hneed, Iteration.finish]

/-- Advertising is neither running nor going to be started again. -/
structure Silent (S : Discovery β) : Prop where
  synced : S.synced = true
  alone : S.world.state.connection = none
  started : S.started = false
  needAdvertise : S.world.state.needAdvertise = false

/-- Between two iterations, the peripheral is discoverable, or it will try again to be. -/
def Discoverable (S : Discovery β) : Prop :=
  S.stage = .between → S.synced = true → S.world.state.connection = none →
    S.started = true ∨ S.world.state.needAdvertise = true

/-- The advertising call that comes next fails. -/
def CallFails (S : Discovery β) (d : Driver) : Prop :=
  match S.stage with
  | .taken => ∃ e, d.ensureAddr = .error e
  | .addressed => ∃ e, d.advSetData = .error e
  | .configured => ∃ e, d.advStart = .error e
  | _ => False

/-- No advertising call fails, unless advertising is not wanted, is running anyway, or was requested
again. -/
def Harmless (S : Discovery β) : Step β → Prop
  | .outgoing d => S.Silent → ¬ S.CallFails d
  | _ => True

/-- An advertising call is yet to be made. -/
def Underway (S : Discovery β) : Prop :=
  S.stage = .taken ∨ S.stage = .addressed ∨ S.stage = .configured

/-- Silence is broken by what the pump is about to do. -/
def Kept (S : Discovery β) : Prop := S.Silent → S.Underway

theorem Kept.discoverable {S : Discovery β} (h : S.Kept) : S.Discoverable := by
  intro hstage hsynced halone
  by_contra hno
  rw [not_or, Bool.not_eq_true, Bool.not_eq_true] at hno
  have hunderway := h ⟨hsynced, halone, hno.1, hno.2⟩
  rw [Underway, hstage] at hunderway
  rcases hunderway with h | h | h <;> cases h

/-! ### What one step does -/

theorem modifyConn_alone (s : State) (connHandle : Handle) (f : Connection → Connection) :
    ((s.modifyConn connHandle f).connection = none → s.connection = none) ∧
      (s.modifyConn connHandle f).needAdvertise = s.needAdvertise := by
  obtain ⟨connection, hmodify, hsome⟩ := s.modifyConn_eq connHandle f
  rw [hmodify]
  refine ⟨fun hnone => ?_, rfl⟩
  rw [← Option.isNone_iff_eq_none, ← Option.not_isSome] at hnone ⊢
  rw [← hsome]
  exact hnone

/-- An event that ends advertising requests it. -/
theorem needAdvertise_of_endsAdvertising {event : Event} (h : event.endsAdvertising = true)
    (w : World β) : ((hook event).exec w).1.state.needAdvertise = true := by
  unfold Event.endsAdvertising at h
  split at h
  · rfl
  · rfl
  · rfl
  · cases h

/-- Any other event leaves a peer connected, or it leaves the connection and the request alone. -/
theorem alone_of_not_endsAdvertising {event : Event} (h : event.endsAdvertising = false) (w : World β)
    (halone : ((hook event).exec w).1.state.connection = none) :
    w.state.connection = none ∧
      ((hook event).exec w).1.state.needAdvertise = w.state.needAdvertise := by
  rw [exec_state] at halone ⊢
  unfold Event.endsAdvertising at h
  unfold Event.update at halone ⊢
  split at halone
  · cases h
  · cases h
  · cases halone
  · cases halone
  · cases h
  · obtain ⟨hback, hsame⟩ := modifyConn_alone w.state _ _
    exact ⟨hback halone, hsame⟩
  · rename_i data
    obtain ⟨inData, hwrite⟩ := State.write_fst w.state data
    rw [hwrite] at halone ⊢
    exact ⟨halone, rfl⟩
  · split at halone
    · rename_i hattr
      obtain ⟨hback, hsame⟩ := modifyConn_alone w.state _ _
      rw [if_pos hattr]
      exact ⟨hback halone, hsame⟩
    · rename_i hattr
      rw [if_neg hattr]
      exact ⟨halone, rfl⟩
  · exact ⟨halone, rfl⟩

theorem kept_event (E : Btp β) {S : Discovery β} (hkept : S.Kept) (event : Event) :
    (step E S (.event event)).1.Kept := by
  rintro ⟨hsynced, halone, hstarted, hneed⟩
  cases hends : event.endsAdvertising with
  | true =>
      have hrequested := needAdvertise_of_endsAdvertising hends S.world
      cases hrequested.symm.trans hneed
  | false =>
      obtain ⟨hbefore, hsame⟩ := alone_of_not_endsAdvertising hends S.world halone
      have hsync : event.isSync = false := by
        cases event with
        | host event => cases event with
          | sync => cases hends
          | other => rfl
        | gap event => rfl
        | gatts event => rfl
      simp only [step, hsync, Bool.or_false] at hsynced
      simp only [step, hends, Bool.not_false, Bool.and_true] at hstarted
      exact hkept ⟨hsynced, hbefore, hstarted, hsame.symm.trans hneed⟩

theorem kept_of_same {S S' : Discovery β} (hkept : S.Kept) (hsynced : S'.synced = S.synced)
    (hstarted : S'.started = S.started) (hstage : S.Underway → S'.Underway)
    (hconn : S'.world.state.connection = S.world.state.connection)
    (hneed : S'.world.state.needAdvertise = S.world.state.needAdvertise) : S'.Kept := by
  rintro ⟨h₁, h₂, h₃, h₄⟩
  rw [hsynced] at h₁
  rw [hconn] at h₂
  rw [hstarted] at h₃
  rw [hneed] at h₄
  exact hstage (hkept ⟨h₁, h₂, h₃, h₄⟩)

theorem kept_outgoing (E : Btp β) {S : Discovery β} (hkept : S.Kept) {d : Driver}
    (hharmless : S.Silent → ¬ S.CallFails d) : (S.iterate E d).1.Kept := by
  -- A failed call leads to `advertised` with nothing else changed.
  have hfailed : S.CallFails d → ({ S with stage := .advertised } : Discovery β).Kept := by
    rintro hfails ⟨h₁, h₂, h₃, h₄⟩
    exact absurd hfails (hharmless ⟨h₁, h₂, h₃, h₄⟩)
  unfold iterate
  cases hstage : S.stage with
  | between =>
      dsimp only
      split
      · split
        · exact fun _ => .inl rfl
        · rename_i hneed
          rintro ⟨h₁, h₂, h₃, h₄⟩
          have hunderway := hkept ⟨h₁, h₂, h₃, h₄⟩
          simp [Underway, hstage] at hunderway
      · exact hkept
  | taken =>
      dsimp only
      split
      · exact fun _ => .inr (.inl rfl)
      · rename_i e he
        exact hfailed (by rw [CallFails, hstage]; exact ⟨e, he⟩)
  | addressed =>
      dsimp only
      split
      · exact fun _ => .inr (.inr rfl)
      · rename_i e he
        exact hfailed (by rw [CallFails, hstage]; exact ⟨e, he⟩)
  | configured =>
      dsimp only
      split
      · rintro ⟨-, -, hstarted, -⟩
        cases hstarted
      · rename_i e he
        exact hfailed (by rw [CallFails, hstage]; exact ⟨e, he⟩)
  | advertised =>
      obtain ⟨btpGen, outData, hstate⟩ := processOutgoing_state E d S.world
      have hconn : (processOutgoing E d S.world).world.state.connection = S.world.state.connection := by
        rw [hstate]
      have hneed : (processOutgoing E d S.world).world.state.needAdvertise =
          S.world.state.needAdvertise := by
        rw [hstate]
      refine kept_of_same hkept rfl rfl ?_ hconn hneed
      simp [Underway, hstage]

theorem kept_step (E : Btp β) {S : Discovery β} (s : Step β) (hkept : S.Kept) (hs : S.Harmless s) :
    (step E S s).1.Kept := by
  cases s with
  | event event => exact kept_event E hkept event
  | incoming =>
      obtain ⟨btpGen, inData, hstate⟩ := processIncoming_state E S.world
      have hconn : (processIncoming E S.world).world.state.connection = S.world.state.connection := by
        rw [hstate]
      have hneed : (processIncoming E S.world).world.state.needAdvertise =
          S.world.state.needAdvertise := by
        rw [hstate]
      rw [step]
      split
      · by_cases hended : S.world.ended = none
        · rw [Nimble.step, if_pos hended]
          exact kept_of_same hkept rfl rfl id hconn hneed
        · rw [Nimble.step, if_neg hended]
          exact hkept
      · exact hkept
  | outgoing d => exact kept_outgoing E hkept hs
  | matter btp => exact kept_of_same hkept rfl rfl id rfl rfl

theorem kept_run (E : Btp β) {S : Discovery β} {steps : List (Step β)} (hkept : S.Kept)
    (hrun : Along (step E) Harmless S steps) : (after (step E) S steps).Kept :=
  invariant_after (fun _ s hS hs => kept_step E s hS hs) hkept hrun

/-- A harmful step lets the pump end its iteration in silence. -/
theorem not_discoverable_of_harmful (E : Btp β) {S : Discovery β} {d : Driver}
    (hharmful : ¬ S.Harmless (.outgoing d)) (d' : Driver) :
    ¬ (after (step E) S [.outgoing d, .outgoing d']).Discoverable := by
  simp only [Harmless, not_forall, not_not] at hharmful
  obtain ⟨⟨hsynced, halone, hstarted, hneed⟩, hfails⟩ := hharmful
  have hnext : (step E S (.outgoing d)).1 = { S with stage := .advertised } := by
    unfold CallFails at hfails
    simp only [step, iterate]
    cases hstage : S.stage with
    | between => rw [hstage] at hfails; cases hfails
    | taken => rw [hstage] at hfails; obtain ⟨e, he⟩ := hfails; simp only [he]
    | addressed => rw [hstage] at hfails; obtain ⟨e, he⟩ := hfails; simp only [he]
    | configured => rw [hstage] at hfails; obtain ⟨e, he⟩ := hfails; simp only [he]
    | advertised => rw [hstage] at hfails; cases hfails
  obtain ⟨btpGen, outData, hstate⟩ := processOutgoing_state E d' S.world
  intro hdiscoverable
  rw [after_cons, hnext] at hdiscoverable
  have hworld : (after (step E) { S with stage := .advertised } [.outgoing d']).world.state =
      { S.world.state with btpGen, outData } := hstate
  rcases hdiscoverable rfl hsynced (by rw [hworld]; exact halone) with h | h
  · cases hstarted.symm.trans h
  · rw [hworld] at h
    cases hneed.symm.trans h

/-- **The peripheral stays discoverable as long as no advertising call fails** while advertising is
wanted, does not run and was not requested again. Such a failure is not made up for: the pump ends its
iteration with nothing left that would make it try again. -/
theorem discoverable_run (E : Btp β) (c : Context) (c2ValHandle : Handle) (btp : β)
    (steps : List (Step β)) (hrun : Along (step E) Harmless (fresh c c2ValHandle btp) steps) :
    (after (step E) (fresh c c2ValHandle btp) steps).Discoverable ∧
      ∀ d d', ¬ (after (step E) (fresh c c2ValHandle btp) steps).Harmless (.outgoing d) →
        ¬ (after (step E) (fresh c c2ValHandle btp) (steps ++ [.outgoing d, .outgoing d'])).Discoverable := by
  have hfresh : (fresh c c2ValHandle btp).Kept := fun hsilent => by cases hsilent.synced
  refine ⟨(kept_run E hfresh hrun).discoverable, fun d d' hharmful => ?_⟩
  rw [after_append]
  exact not_discoverable_of_harmful E hharmful d'

/-- The host syncs, and the pump makes an iteration with this driver. -/
def syncRun (d : Driver) : List (Step (List Buffer)) :=
  .event (.host .sync) :: List.replicate 5 (.outgoing d)

theorem harmless_succeeding (S : Discovery (List Buffer)) : S.Harmless (.outgoing .succeeding) := by
  intro _ hfails
  unfold CallFails at hfails
  split at hfails
  · obtain ⟨e, he⟩ := hfails
    cases he
  · obtain ⟨e, he⟩ := hfails
    cases he
  · obtain ⟨e, he⟩ := hfails
    cases he
  · exact hfails

theorem discoverable_run_synced :
    (after (step .queue) (fresh .new 0 []) (syncRun .succeeding)).Discoverable := by
  refine (discoverable_run .queue .new 0 [] (syncRun .succeeding) ?_).1
  refine ⟨trivial, ?_⟩
  simp only [List.replicate, along_cons, along_nil, harmless_succeeding, and_self]

/-- After one failure the host has synced, nobody is connected, and nothing is tried again. -/
theorem failed_start_silences :
    ¬ (after (step .queue) (fresh .new 0 [])
      (syncRun { Driver.succeeding with advStart := .error ⟨6⟩ })).Discoverable := by
  intro hdiscoverable
  rcases hdiscoverable rfl rfl rfl with h | h
  · cases h
  · cases h

end Discovery

end EspIdfMatter.Nimble
