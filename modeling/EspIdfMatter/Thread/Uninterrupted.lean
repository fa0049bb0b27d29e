import EspIdfMatter.Thread.Lifecycle

/-! A `connect` that nothing interrupts: the driver, which takes it apart at its awaits, does then what
`Ctl.connect` does in one go. -/

namespace EspIdfMatter.Thread

open Library Library.Machine Netif

variable {μ : Type} {n : Nat}

def WirelessCreds.datasetTlv : WirelessCreds → Option Bytes
  | .wifi _ _ => none
  | .thread datasetTlv => some datasetTlv

/-- What the loop of `connect` makes of how it ends. -/
def Polled.outcome : Polled → Outcome
  | .waiting => .pending
  | .panicked => .panicked
  | .returned e => .returned (.error e)
  | .broke result => .returned result

/-- The operational flag after the loop. -/
def Polled.operational (operational : Bool) : Polled → Bool
  | .broke (.ok ()) => true
  | _ => operational

/-- The call that the loop makes when it gives up. -/
def Polled.givesUp : Polled → List ThreadOp
  | .broke (.error _) => [.enableThread false]
  | _ => []

def ThreadCall.op? : ThreadCall → Option ThreadOp
  | .enableThread enable _ => some (.enableThread enable)
  | .setTod datasetTlv _ => some (.setTod datasetTlv)
  | .fetchIsOperational _ => none

/-- A `connect` that comes to the loop ends as the loop does. -/
theorem Ctl.connect_of_enabled (ctl : Ctl) (datasetTlv : Bytes) {answers : Answers n}
    (hset : answers.setTod = .ok ()) (henabled : answers.enabled = .ok ()) :
    let plain := ctl.connect (.thread datasetTlv) answers
    let polled := pollOperational answers.polls
    plain.2 = polled.2.outcome ∧ plain.1.operational = polled.2.operational ctl.operational ∧
      plain.1.calls.filterMap ThreadCall.op? = ctl.calls.filterMap ThreadCall.op? ++
        [.enableThread false, .setTod datasetTlv, .enableThread true] ++
          (polled.1.filterMap ThreadCall.op? ++ polled.2.givesUp) := by
  intro plain polled
  have hcalls : ∀ last, (ctl.calls ++ [ThreadCall.enableThread false answers.disabled,
      .setTod datasetTlv (.ok ())] ++ [ThreadCall.enableThread true (.ok ())] ++ polled.1 ++
        last).filterMap ThreadCall.op? =
        ctl.calls.filterMap ThreadCall.op? ++
          [.enableThread false, .setTod datasetTlv, .enableThread true] ++
          (polled.1.filterMap ThreadCall.op? ++ last.filterMap ThreadCall.op?) := by
    intro last
    simp only [List.filterMap_append, List.append_assoc]
    rfl
  have hnone := hcalls []
  rw [List.append_nil] at hnone
  simp only [plain, Ctl.connect, hset, henabled]
  cases hends : polled.2 with
  | broke result =>
      cases result with
      | ok u => exact ⟨rfl, rfl, hnone⟩
      | error e => exact ⟨rfl, rfl, hcalls [.enableThread false answers.disabledAgain]⟩
  | _ => exact ⟨rfl, rfl, hnone⟩

namespace Driver

def Obs.connected? : Obs → Option (Except NetCtlError Unit)
  | .connected result => some result
  | _ => none

/-- A `connect` has come to this. -/
def Answered (D : Driver μ) (obs : List Obs) : Outcome → Prop
  | .pending => D.phase = .running ∧ D.lock = some .connect ∧ obs.filterMap Obs.connected? = []
  | .panicked => D.phase = .panicked ∧ obs.filterMap Obs.connected? = []
  | .returned result =>
      D.phase = .running ∧ D.lock = none ∧ obs.filterMap Obs.connected? = [result]

theorem Answered.calls {D : Driver μ} {obs : List Obs} {outcome : Outcome} (h : Answered D obs outcome)
    (answers : ThreadAnswers) (ops : List ThreadOp) : Answered D (made answers ops ++ obs) outcome := by
  have hnone : (made answers ops).filterMap Obs.connected? = [] := by
    rw [made, List.filterMap_map]
    exact List.filterMap_eq_nil_iff.mpr fun _ _ => rfl
  cases outcome <;> simpa only [Answered, List.filterMap_append, hnone, List.nil_append] using h

section Uninterrupted

variable [DecidableEq μ] {D : Driver μ}

/-- The steps of a run in which nothing but the `connect` goes on. -/
def polling (answers : ThreadAnswers) (polls : List (Poll n)) : List (Step μ n) :=
  polls.map (.poll · answers)

theorem polling_of_free (hfree : D.lock = none ∨ D.phase = .panicked) (answers : ThreadAnswers)
    (polls : List (Poll n)) :
    after Driver.step D (polling answers polls) = D ∧ outputs Driver.step D (polling answers polls) = [] := by
  induction polls with
  | nil => exact ⟨rfl, rfl⟩
  | cons poll polls ih =>
      have hstep : D.step (.poll poll answers : Step μ n) = (D, []) := by
        rcases hfree with hfree | hpanicked
        · cases hphase : D.phase with
          | running =>
              simp only [Driver.step, hphase, hfree]
              rfl
          | _ => simp only [Driver.step, hphase]
        · exact step_of_over (.inr hpanicked) _
      obtain ⟨hafter, hout⟩ := ih
      simp only [polling, List.map_cons, after_cons, outputs_cons, hstep, List.nil_append]
      exact ⟨hafter, hout⟩

/-- The loop, from its first poll on. -/
theorem polling_agrees (hrunning : D.phase = .running) (answers : ThreadAnswers) (poll : Poll n)
    (polls : List (Poll n)) :
    let first := D.poll poll answers
    let D' := after Driver.step first.1 (polling answers polls)
    let obs := first.2 ++ outputs Driver.step first.1 (polling answers polls)
    let polled := (pollOperational (poll :: polls)).2
    Answered D' obs polled.outcome ∧ obs.filterMap Obs.call? = polled.givesUp ∧
      D'.operational = polled.operational D.operational ∧
      (pollOperational (poll :: polls)).1.filterMap ThreadCall.op? = [] := by
  induction polls generalizing D poll with
  | nil =>
      rcases hpoll : poll.operational with _ | e | _ | _
      · simp only [Driver.poll, pollOperational, hpoll]
        exact ⟨⟨rfl, rfl⟩, rfl, rfl, rfl⟩
      · simp only [Driver.poll, pollOperational, hpoll]
        exact ⟨⟨hrunning, rfl, rfl⟩, rfl, rfl, rfl⟩
      · simp only [Driver.poll, pollOperational, hpoll]
        split
        · exact ⟨⟨hrunning, rfl, rfl⟩, rfl, rfl, rfl⟩
        · exact ⟨⟨hrunning, rfl, rfl⟩, rfl, rfl, rfl⟩
      · simp only [Driver.poll, pollOperational, hpoll]
        exact ⟨⟨hrunning, rfl, rfl⟩, rfl, rfl, rfl⟩
  | cons next polls ih =>
      have hover : ∀ (D₁ : Driver μ) (obs : List Obs), D₁.lock = none ∨ D₁.phase = .panicked →
          after Driver.step D₁ (polling answers (next :: polls)) = D₁ ∧
            obs ++ outputs Driver.step D₁ (polling answers (next :: polls)) = obs := by
        intro D₁ obs hfree
        obtain ⟨hafter, hout⟩ := polling_of_free hfree answers (next :: polls)
        exact ⟨hafter, by rw [hout, List.append_nil]⟩
      rcases hpoll : poll.operational with _ | e | _ | _
      · obtain ⟨hafter, hout⟩ := hover { D with phase := .panicked } [] (.inr rfl)
        simp only [Driver.poll, pollOperational, hpoll, hafter, hout]
        exact ⟨⟨rfl, rfl⟩, rfl, rfl, rfl⟩
      · obtain ⟨hafter, hout⟩ := hover { D with lock := none }
          [.connected (.error (netCtlError e))] (.inl rfl)
        simp only [Driver.poll, pollOperational, hpoll, hafter, hout]
        exact ⟨⟨hrunning, rfl, rfl⟩, rfl, rfl, rfl⟩
      · by_cases hlate : poll.elapsed > connectWait
        · obtain ⟨hafter, hout⟩ := hover
            { D with lock := none, thread := D.thread.call answers (.enableThread false) }
            (made answers [.enableThread false] ++ [.connected (.error .authFailure)]) (.inl rfl)
          simp only [Driver.poll, pollOperational, hpoll, if_pos hlate, hafter, hout]
          exact ⟨⟨hrunning, rfl, rfl⟩, rfl, rfl, rfl⟩
        · have hnext := ih (D := { D with lock := some .connect }) hrunning next
          have hstep : ({ D with lock := some .connect } : Driver μ).step (.poll next answers : Step μ n) =
              ({ D with lock := some .connect } : Driver μ).poll next answers := by
            simp only [Driver.step, hrunning, if_true]
          rw [pollOperational]
          simp only [Driver.poll, hpoll, if_neg hlate, polling, List.map_cons, after_cons, outputs_cons,
            hstep, List.nil_append]
          exact hnext
      · obtain ⟨hafter, hout⟩ := hover { D with lock := none, operational := true }
          [.connected (.ok ())] (.inl rfl)
        simp only [Driver.poll, pollOperational, hpoll, hafter, hout]
        exact ⟨⟨hrunning, rfl, rfl⟩, rfl, rfl, rfl⟩

/-- **A `connect` that nothing interrupts does what `Ctl.connect` does**: it makes the same calls, leaves
the same operational flag and comes to the same. -/
theorem connect_uninterrupted (hrunning : D.phase = .running) (hfree : D.lock = none)
    (creds : WirelessCreds) (answers : ThreadAnswers) (polls : List (Poll n)) (poll : Poll n)
    (giveUp : ThreadAnswers) :
    let run := .connect creds answers poll giveUp :: polling giveUp polls
    let D' := after Driver.step D run
    let obs := outputs Driver.step D run
    let plain := (⟨D.operational, []⟩ : Ctl).connect creds
      { disabled := answers (.enableThread false)
        setTod := creds.datasetTlv.elim (.ok ()) fun datasetTlv => answers (.setTod datasetTlv)
        enabled := answers (.enableThread true)
        polls := poll :: polls
        disabledAgain := giveUp (.enableThread false) }
    Answered D' obs plain.2 ∧ obs.filterMap Obs.call? = plain.1.calls.filterMap ThreadCall.op? ∧
      D'.operational = plain.1.operational := by
  have hstep : D.step (.connect creds answers poll giveUp) = D.connect creds answers poll giveUp := by
    simp only [Driver.step, hrunning]
  have hover : ∀ (D₁ : Driver μ) (obs : List Obs), D₁.lock = none →
      after Driver.step D₁ (polling giveUp polls) = D₁ ∧
        obs ++ outputs Driver.step D₁ (polling giveUp polls) = obs := by
    intro D₁ obs hfree
    obtain ⟨hafter, hout⟩ := polling_of_free (.inl hfree) giveUp polls
    exact ⟨hafter, by rw [hout, List.append_nil]⟩
  have hgo : ¬ D.lock ≠ none := not_not_intro hfree
  intro run D' obs plain
  simp only [D', obs, run, after_cons, outputs_cons, hstep]
  cases creds with
  | wifi ssid pass =>
      obtain ⟨hafter, hout⟩ := hover D [.connected (.error (.other .invalidData))] hfree
      simp only [Driver.connect]
      rw [hafter, hout]
      exact ⟨⟨hrunning, hfree, rfl⟩, rfl, rfl⟩
  | thread datasetTlv =>
      have hset : plain = (⟨D.operational, []⟩ : Ctl).connect (.thread datasetTlv)
          { disabled := answers (.enableThread false)
            setTod := answers (.setTod datasetTlv)
            enabled := answers (.enableThread true)
            polls := poll :: polls
            disabledAgain := giveUp (.enableThread false) } := rfl
      let disabled := D.thread.call answers (.enableThread false)
      cases htod : answers (.setTod datasetTlv) with
      | error e =>
          have hconnect : D.connect (.thread datasetTlv) answers poll giveUp =
              ({ D with thread := disabled },
                made answers [.enableThread false, .setTod datasetTlv] ++
                  [.connected (.error (toNetConstrError e))]) := by
            simp only [Driver.connect, if_neg hgo, htod]
            rfl
          obtain ⟨hafter, hout⟩ := hover { D with thread := disabled } _ hfree
          rw [hconnect, hset, hafter, hout]
          simp only [Ctl.connect, htod]
          exact ⟨⟨hrunning, hfree, rfl⟩, rfl, trivial⟩
      | ok u =>
          cases henable : answers (.enableThread true) with
          | error e =>
              have hconnect : D.connect (.thread datasetTlv) answers poll giveUp =
                  ({ D with thread := disabled.apply (.setTod datasetTlv) },
                    made answers [.enableThread false, .setTod datasetTlv, .enableThread true] ++
                      [.connected (.error (netCtlError e))]) := by
                simp only [Driver.connect, if_neg hgo, htod, henable]
                rfl
              obtain ⟨hafter, hout⟩ :=
                hover { D with thread := disabled.apply (.setTod datasetTlv) } _ hfree
              rw [hconnect, hset, hafter, hout]
              simp only [Ctl.connect, htod, henable]
              exact ⟨⟨hrunning, hfree, rfl⟩, rfl, trivial⟩
          | ok u =>
              let enabled := (disabled.apply (.setTod datasetTlv)).apply (.enableThread true)
              have hconnect : D.connect (.thread datasetTlv) answers poll giveUp =
                  ((({ D with thread := enabled } : Driver μ).poll poll giveUp).1,
                    made answers [.enableThread false, .setTod datasetTlv, .enableThread true] ++
                      (({ D with thread := enabled } : Driver μ).poll poll giveUp).2) := by
                simp only [Driver.connect, if_neg hgo, htod, henable]
                rfl
              obtain ⟨hanswered, hcalls, hoperational, hfetches⟩ :=
                polling_agrees (D := { D with thread := enabled }) hrunning giveUp poll polls
              obtain ⟨houtcome, hflag, hops⟩ := @Ctl.connect_of_enabled n ⟨D.operational, []⟩ datasetTlv
                { disabled := answers (.enableThread false)
                  setTod := answers (.setTod datasetTlv)
                  enabled := answers (.enableThread true)
                  polls := poll :: polls
                  disabledAgain := giveUp (.enableThread false) } htod henable
              rw [hconnect, hset, List.append_assoc]
              refine ⟨?_, ?_, hoperational.trans hflag.symm⟩
              · rw [houtcome]
                exact hanswered.calls answers [.enableThread false, .setTod datasetTlv, .enableThread true]
              · rw [hops, List.filterMap_append, hcalls, hfetches]
                rfl

end Uninterrupted

/-- A driver just after its set-up. -/
def runningDriver : Driver Unit :=
  ((new [1] ⟨true, true, true⟩ ⟨0, 190, 240⟩ : Driver Unit).setUp (.ok ()) none fun _ => .ok ()).1

/-- The node stays detached until the time is over. -/
def detachedPolls : List (Poll 6) :=
  [⟨.ok .detached, { unreadable with ipInfo := .ok .unspecified }, 15000⟩,
    ⟨.ok .detached, { unreadable with ipInfo := .ok .unspecified }, 31000⟩]

theorem connect_uninterrupted_detached :
    (outputs Driver.step runningDriver
        (.connect (.thread [2]) (fun _ => .ok ())
            ⟨.ok .detached, { unreadable with ipInfo := .ok .unspecified }, 0⟩ (fun _ => .ok ()) ::
          polling (fun _ => .ok ()) detachedPolls)).filterMap Obs.call? =
      [.enableThread false, .setTod [2], .enableThread true, .enableThread false] :=
  (connect_uninterrupted (D := runningDriver) rfl rfl (.thread [2]) (fun _ => .ok ()) detachedPolls
    ⟨.ok .detached, { unreadable with ipInfo := .ok .unspecified }, 0⟩ fun _ => .ok ()).2.1

end Driver

end EspIdfMatter.Thread
