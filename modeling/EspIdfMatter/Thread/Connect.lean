import EspIdfMatter.Library.Pending
import EspIdfMatter.Thread.Control

/-! What `connect` leaves behind: an operational Thread interface when it succeeds, and no enabled one
when it fails, unless the polling fails. -/

namespace EspIdfMatter.Thread

open Library Netif

variable {n : Nat}

def ThreadCall.Enables : ThreadCall → Prop
  | .enableThread true (.ok ()) => True
  | _ => False

def ThreadCall.Disables : ThreadCall → Prop
  | .enableThread false _ => True
  | _ => False

/-- A successful `enable_thread(true)` is without a later `enable_thread(false)`. -/
def LeftEnabled (calls : List ThreadCall) : Prop :=
  Pending ThreadCall.Enables ThreadCall.Disables calls

@[simp] theorem disables_enableThread_false (result : Except EspError Unit) :
    (ThreadCall.enableThread false result).Disables := trivial

@[simp] theorem not_enables_enableThread_false (result : Except EspError Unit) :
    ¬ (ThreadCall.enableThread false result).Enables := nofun

@[simp] theorem not_enables_setTod (datasetTlv : Bytes) (result : Except EspError Unit) :
    ¬ (ThreadCall.setTod datasetTlv result).Enables := nofun

@[simp] theorem not_enables_enableThread_error (e : EspError) :
    ¬ (ThreadCall.enableThread true (.error e)).Enables := nofun

/-- Thread is disabled by one of the last calls, and none of these enables it. -/
theorem not_leftEnabled {calls last : List ThreadCall} {result : Except EspError Unit}
    (hmem : .enableThread false result ∈ last) (hlast : ∀ call ∈ last, ¬ call.Enables) :
    ¬ LeftEnabled (calls ++ last) :=
  not_pending_of_closes hmem (disables_enableThread_false result) (not_pending_of_forall hlast)

/-! ### The loop -/

/-- The loop goes on after this poll. -/
structure Poll.Continues (poll : Poll n) : Prop where
  operational : poll.operational = some (.ok false)
  elapsed : poll.elapsed ≤ connectWait

/-- A poll fails, and is reached. -/
def PollFails (polls : List (Poll n)) : Prop :=
  ∃ earlier poll later e, polls = earlier ++ poll :: later ∧
    (∀ p ∈ earlier, p.Continues) ∧ poll.operational = some (.error e)

theorem pollOperational_cons_of_continues {poll : Poll n} (h : poll.Continues) (polls : List (Poll n)) :
    pollOperational (poll :: polls) =
      (.fetchIsOperational (.ok false) :: (pollOperational polls).1, (pollOperational polls).2) := by
  have hearly : ¬ poll.elapsed > connectWait := not_lt.mpr h.elapsed
  rw [pollOperational, h.operational]
  dsimp only
  rw [if_neg hearly]

theorem pollFails_cons_of_continues {poll : Poll n} (h : poll.Continues) {polls : List (Poll n)} :
    PollFails (poll :: polls) ↔ PollFails polls := by
  constructor
  · rintro ⟨earlier, failing, later, e, heq, hearlier, he⟩
    cases earlier with
    | nil =>
        cases heq
        rw [h.operational] at he
        cases he
    | cons first earlier =>
        cases heq
        exact ⟨earlier, failing, later, e, rfl, fun p hp => hearlier p (.tail _ hp), he⟩
  · rintro ⟨earlier, failing, later, e, rfl, hearlier, he⟩
    exact ⟨poll :: earlier, failing, later, e, rfl, List.forall_mem_cons.mpr ⟨h, hearlier⟩, he⟩

theorem pollFails_cons_of_stops {poll : Poll n} (h : ¬ poll.Continues) {polls : List (Poll n)} :
    PollFails (poll :: polls) ↔ ∃ e, poll.operational = some (.error e) := by
  constructor
  · rintro ⟨earlier, failing, later, e, heq, hearlier, he⟩
    cases earlier with
    | nil =>
        cases heq
        exact ⟨e, he⟩
    | cons first earlier =>
        cases heq
        exact absurd (hearlier poll List.mem_cons_self) h
  · rintro ⟨e, he⟩
    exact ⟨[], poll, polls, e, rfl, List.forall_mem_nil _, he⟩

/-- What the loop comes to. -/
inductive PollSpec (polls : List (Poll n)) : List ThreadCall × Polled → Prop where
  | unfinished {calls} {polled : Polled} (hfails : ¬ PollFails polls)
      (hpolled : polled = .waiting ∧ (∀ poll ∈ polls, poll.Continues) ∨ polled = .panicked) :
      PollSpec polls (calls, polled)
  | failed {calls} (e : NetCtlError) (hfails : PollFails polls)
      (hcalls : ∀ call ∈ calls, ¬ call.Disables) : PollSpec polls (calls, .returned e)
  | timeout {calls} (hfails : ¬ PollFails polls) (hcalls : ∀ call ∈ calls, ¬ call.Enables) :
      PollSpec polls (calls, .broke (.error .authFailure))
  | operational {calls} (hfails : ¬ PollFails polls)
      (hcalls : ∀ call ∈ calls, call = .fetchIsOperational (.ok false)) :
      PollSpec polls (calls ++ [.fetchIsOperational (.ok true)], .broke (.ok ()))

theorem pollOperational_spec (polls : List (Poll n)) : PollSpec polls (pollOperational polls) := by
  induction polls with
  | nil =>
      refine .unfinished ?_ (.inl ⟨rfl, List.forall_mem_nil _⟩)
      rintro ⟨earlier, poll, later, e, heq, -⟩
      cases earlier with
      | nil => cases heq
      | cons first earlier => cases heq
  | cons poll polls ih =>
      by_cases hcontinues : poll.Continues
      · rw [pollOperational_cons_of_continues hcontinues]
        have hfails : PollFails (poll :: polls) ↔ PollFails polls := pollFails_cons_of_continues hcontinues
        generalize pollOperational polls = polled at ih ⊢
        cases ih with
        | unfinished h hpolled =>
            refine .unfinished (hfails.not.mpr h) (hpolled.imp_left ?_)
            exact fun ⟨hwaiting, hall⟩ => ⟨hwaiting, List.forall_mem_cons.mpr ⟨hcontinues, hall⟩⟩
        | failed e h hcalls =>
            exact .failed e (hfails.mpr h) (List.forall_mem_cons.mpr ⟨nofun, hcalls⟩)
        | timeout h hcalls =>
            exact .timeout (hfails.not.mpr h) (List.forall_mem_cons.mpr ⟨nofun, hcalls⟩)
        | operational h hcalls =>
            exact .operational (hfails.not.mpr h) (List.forall_mem_cons.mpr ⟨rfl, hcalls⟩)
      · have hfails : PollFails (poll :: polls) ↔ _ := pollFails_cons_of_stops hcontinues
        rw [pollOperational]
        cases hop : poll.operational with
        | none =>
            rw [hop] at hfails
            exact .unfinished (fun h => (hfails.mp h).elim nofun) (.inr rfl)
        | some result =>
            rw [hop] at hfails
            cases result with
            | error e => exact .failed _ (hfails.mpr ⟨e, rfl⟩) (List.forall_mem_singleton.mpr nofun)
            | ok operational =>
                have hno : ¬ PollFails (poll :: polls) := fun h => (hfails.mp h).elim nofun
                cases operational with
                | true => exact .operational hno (List.forall_mem_nil _)
                | false =>
                    have hlate : poll.elapsed > connectWait :=
                      not_le.mp fun helapsed => hcontinues ⟨hop, helapsed⟩
                    dsimp only
                    rw [if_pos hlate]
                    exact .timeout hno (List.forall_mem_singleton.mpr nofun)

/-- The loop ends at the latest when the time is over. -/
theorem pollOperational_ends {polls : List (Poll n)} (hlate : ∃ poll ∈ polls, connectWait < poll.elapsed) :
    (pollOperational polls).2 ≠ .waiting := by
  obtain ⟨poll, hpoll, hlate⟩ := hlate
  intro hwaiting
  have hspec := pollOperational_spec polls
  generalize pollOperational polls = polled at hspec hwaiting
  cases hspec with
  | unfinished _ hpolled =>
      rcases hpolled with ⟨-, hall⟩ | hpanicked
      · exact absurd (hall poll hpoll).elapsed (not_le.mpr hlate)
      · cases hpanicked.symm.trans hwaiting
  | failed => cases hwaiting
  | timeout => cases hwaiting
  | operational => cases hwaiting

/-! ### `connect` -/

/-- What a `connect` should leave behind, from an interface with this history. -/
structure Connects (creds : WirelessCreds) (calls : List ThreadCall) (ctl : Ctl) (outcome : Outcome) :
    Prop where
  ok : outcome = .returned (.ok ()) → ctl.operational = true ∧
    ∃ datasetTlv before polls, creds = .thread datasetTlv ∧
      ctl.calls = calls ++ before ++ [.setTod datasetTlv (.ok ()), .enableThread true (.ok ())] ++
        polls ++ [.fetchIsOperational (.ok true)] ∧
      ∀ call ∈ polls, call = .fetchIsOperational (.ok false)
  error : ∀ e, outcome = .returned (.error e) →
    (∃ ssid pass, creds = .wifi ssid pass) ∧ ctl.calls = calls ∨ ¬ LeftEnabled ctl.calls

/-- The polling fails after Thread was enabled. -/
def FailsWhilePolling (creds : WirelessCreds) (answers : Answers n) : Prop :=
  (∃ datasetTlv, creds = .thread datasetTlv) ∧ answers.setTod = .ok () ∧ answers.enabled = .ok () ∧
    PollFails answers.polls

/-- Once Thread is enabled, only the polling matters. -/
theorem connects_iff_of_enabled (ctl : Ctl) (datasetTlv : Bytes) {answers : Answers n}
    (htod : answers.setTod = .ok ()) (henabled : answers.enabled = .ok ()) :
    Connects (.thread datasetTlv) ctl.calls (ctl.connect (.thread datasetTlv) answers).1
        (ctl.connect (.thread datasetTlv) answers).2 ↔
      ¬ PollFails answers.polls := by
  have hspec := pollOperational_spec answers.polls
  simp only [Ctl.connect, htod, henabled]
  generalize pollOperational answers.polls = polled at hspec ⊢
  cases hspec with
  | unfinished hfails hpolled =>
      refine iff_of_true ?_ hfails
      rcases hpolled with ⟨rfl, -⟩ | rfl
      · exact ⟨nofun, nofun⟩
      · exact ⟨nofun, nofun⟩
  | failed e hfails hcalls =>
      refine iff_of_false (fun hconnects => ?_) (not_not_intro hfails)
      rcases hconnects.error e rfl with ⟨⟨ssid, pass, hcreds⟩, -⟩ | hleft
      · cases hcreds
      · apply hleft
        rw [List.append_assoc _ [ThreadCall.enableThread true _]]
        exact pending_of_opens trivial hcalls
  | timeout hfails hcalls =>
      refine iff_of_true ⟨nofun, fun e _ => .inr ?_⟩ hfails
      exact not_leftEnabled List.mem_cons_self (by simp)
  | operational hfails hcalls =>
      refine iff_of_true ⟨fun _ => ⟨rfl, datasetTlv, [.enableThread false answers.disabled], _, rfl,
        ?_, hcalls⟩, nofun⟩ hfails
      simp only [List.append_assoc, List.cons_append, List.nil_append]

/-- **A connect leaves behind what it should exactly when the polling does not fail** after Thread was
enabled, and before the interface is found operational or the time is over. -/
theorem connects_iff (ctl : Ctl) (creds : WirelessCreds) (answers : Answers n) :
    Connects creds ctl.calls (ctl.connect creds answers).1 (ctl.connect creds answers).2 ↔
      ¬ FailsWhilePolling creds answers := by
  cases creds with
  | wifi ssid pass =>
      refine iff_of_true ⟨nofun, fun e _ => .inl ⟨⟨ssid, pass, rfl⟩, rfl⟩⟩ ?_
      rintro ⟨⟨datasetTlv, hcreds⟩, -⟩
      cases hcreds
  | thread datasetTlv =>
      cases htod : answers.setTod with
      | error e =>
          have hno : ¬ FailsWhilePolling (.thread datasetTlv) answers := by
            rintro ⟨-, hok, -⟩
            rw [htod] at hok
            cases hok
          simp only [Ctl.connect, htod]
          exact iff_of_true ⟨nofun, fun e _ => .inr (not_leftEnabled List.mem_cons_self (by simp))⟩ hno
      | ok _ =>
          cases henabled : answers.enabled with
          | error e =>
              have hno : ¬ FailsWhilePolling (.thread datasetTlv) answers := by
                rintro ⟨-, -, hok, -⟩
                rw [henabled] at hok
                cases hok
              simp only [Ctl.connect, htod, henabled, List.append_assoc]
              exact iff_of_true ⟨nofun, fun e _ => .inr (not_leftEnabled List.mem_cons_self (by simp))⟩ hno
          | ok _ =>
              rw [connects_iff_of_enabled ctl datasetTlv htod henabled, not_iff_not]
              exact ⟨fun h => ⟨⟨datasetTlv, rfl⟩, htod, henabled, h⟩, fun h => h.2.2.2⟩

/-- An interface whose IP information cannot be read. -/
def unreadable : EspNetif 6 where
  ipInfo := .error ⟨-1⟩
  preferredIp6 := .empty
  allIp6 := .empty
  mac := .ok (.replicate 6 0)
  name := []
  isNetifUp := .ok true
  isUp := .ok true
  index := 1

/-- The first poll fails. -/
def someAnswers : Answers 6 where
  disabled := .ok ()
  setTod := .ok ()
  enabled := .ok ()
  polls := [⟨.ok .child, unreadable, 0⟩]
  disabledAgain := .ok ()

/-- Thread stays enabled when the connect fails like this. -/
theorem connect_leaves_enabled :
    ¬ Connects (.thread []) [] (Ctl.connect ⟨false, []⟩ (.thread []) someAnswers).1
      (Ctl.connect ⟨false, []⟩ (.thread []) someAnswers).2 := by
  intro hconnects
  rcases hconnects.error _ rfl with ⟨⟨ssid, pass, hcreds⟩, -⟩ | hleft
  · cases hcreds
  · exact hleft ⟨[.enableThread false (.ok ()), .setTod [] (.ok ())], .enableThread true (.ok ()),
      [.fetchIsOperational (.error ⟨-1⟩)], rfl, trivial, List.forall_mem_singleton.mpr nofun⟩

end EspIdfMatter.Thread
