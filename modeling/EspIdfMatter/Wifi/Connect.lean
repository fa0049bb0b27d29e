import EspIdfMatter.Library.Pending
import EspIdfMatter.Library.Text
import EspIdfMatter.Thread.Control

/-! The connect of a Wi-Fi station: it tries four authentication methods one after the other, and then
waits for IP addresses. What the calls of the driver come to is given. -/

namespace EspIdfMatter.Wifi

open Library Thread

/-- `String<n>` -/
abbrev StringMax (n : Nat) := { s : String // s.utf8ByteSize ≤ n }

inductive AuthMethod where
  | none
  | wep
  | wpa
  | wpa2Personal
  | wpa2Wpa3Personal
  deriving DecidableEq

structure ClientConfiguration where
  ssid : StringMax 32
  password : StringMax 64
  authMethod : AuthMethod
  deriving DecidableEq

/-- A call, with what it came to. -/
inductive WifiCall where
  | disconnect (result : Except EspError Unit)
  | setConfiguration (conf : ClientConfiguration) (result : Except EspError Unit)
  | isStarted (result : Except EspError Bool)
  | start (result : Except EspError Unit)
  | connect (result : Except EspError Unit)
  | createIp6Linklocal (result : Except EspError Unit)
  | ipWaitWhile (result : Except EspError Unit)

/-- What the calls of an attempt come to. -/
structure Attempt where
  disconnect : Except EspError Unit
  setConfiguration : Except EspError Unit
  isStarted : Except EspError Bool
  start : Except EspError Unit
  connect : Except EspError Unit

/-- What the calls of a `connect` come to. -/
structure Answers where
  attempts : AuthMethod → Attempt
  linklocal : Except EspError Unit
  /-- the wait for the interface to be operational, which has IP addresses then -/
  ipWait : Except EspError Unit
  disconnectAgain : Except EspError Unit

/-- `from_utf8` and `try_into` -/
def stringMax (n : Nat) (bytes : Bytes) : Except NetCtlError (StringMax n) :=
  match String.fromUTF8? ⟨bytes.toArray⟩ with
  | none => .error (.other .constraintError)
  | some s => if h : s.utf8ByteSize ≤ n then .ok ⟨s, h⟩ else .error (.other .constraintError)

/-- The configuration that `connect` starts from. -/
def clientConfiguration (ssid pass : Bytes) : Except NetCtlError ClientConfiguration := do
  let ssid ← stringMax 32 ssid
  let password ← stringMax 64 pass
  return { ssid, password, authMethod := .none }

/-- The station is started unless it already is. -/
def Attempt.starting (a : Attempt) (started : Bool) : List WifiCall × Except EspError Unit :=
  if started = true then ([], .ok ()) else ([.start a.start], a.start)

/-- One round of the loop of `connect`: the calls it makes, and the result of the attempt, unless it
leaves `connect`. -/
def Attempt.run (a : Attempt) (conf : ClientConfiguration) :
    List WifiCall × Except NetCtlError (Except NetCtlError Unit) :=
  let calls := [.disconnect a.disconnect, .setConfiguration conf a.setConfiguration]
  match a.setConfiguration with
  | .error e => (calls, .error (netCtlError e))
  | .ok () =>
      let calls := calls ++ [.isStarted a.isStarted]
      match a.isStarted with
      | .error e => (calls, .error (netCtlError e))
      | .ok started =>
          let starting := a.starting started
          let calls := calls ++ starting.1
          match starting.2 with
          | .error e => (calls, .error (netCtlError e))
          | .ok () =>
              (calls ++ [.connect a.connect],
                .ok (a.connect.mapError fun _ => .otherConnectionFailure))

/-- The methods, in the order in which they are tried. -/
def authMethods : List AuthMethod := [.wpa2Personal, .wpa, .wpa2Wpa3Personal, .wep]

/-- The loop of `connect`, with the result of the attempt before. -/
def tryMethods (attempts : AuthMethod → Attempt) (conf : ClientConfiguration) :
    List AuthMethod → Except NetCtlError Unit →
      List WifiCall × Except NetCtlError (Except NetCtlError Unit)
  | [], result => ([], .ok result)
  | method :: methods, _ =>
      match (attempts method).run { conf with authMethod := method } with
      | (calls, .error e) => (calls, .error e)
      | (calls, .ok (.ok ())) => (calls, .ok (.ok ()))
      | (calls, .ok (.error e)) =>
          let rest := tryMethods attempts conf methods (.error e)
          (calls ++ rest.1, rest.2)

/-- What a `connect` leaves behind: the operational flag, the calls it has made, and its result. -/
structure Connected where
  operational : Bool
  calls : List WifiCall
  result : Except NetCtlError Unit

def connect (operational : Bool) (creds : WirelessCreds) (answers : Answers) : Connected :=
  match creds with
  | .thread _ => ⟨operational, [], .error (.other .invalidData)⟩
  | .wifi ssid pass =>
      match clientConfiguration ssid pass with
      | .error e => ⟨operational, [], .error e⟩
      | .ok conf =>
          let tried := tryMethods answers.attempts conf authMethods (.ok ())
          match tried.2 with
          | .error e => ⟨operational, tried.1, .error e⟩
          | .ok (.error e) => ⟨operational, tried.1, .error e⟩
          | .ok (.ok ()) =>
              -- Matter needs an IPv6 address to work
              let calls := tried.1 ++ [.createIp6Linklocal answers.linklocal]
              match answers.linklocal with
              | .error e => ⟨operational, calls, .error (netCtlError e)⟩
              | .ok () =>
                  let calls := calls ++ [.ipWaitWhile answers.ipWait]
                  match answers.ipWait with
                  | .ok () => ⟨true, calls, .ok ()⟩
                  | .error _ =>
                      ⟨operational, calls ++ [.disconnect answers.disconnectAgain],
                        .error .ipBindFailed⟩

/-! ### What the calls do to the station -/

structure Station where
  configuration : Option ClientConfiguration
  /-- the configuration of the association, if there is one -/
  associated : Option ClientConfiguration

/-- The effect of a call; one that fails has none. -/
def Station.after (s : Station) : WifiCall → Station
  | .disconnect (.ok ()) => { s with associated := none }
  | .setConfiguration conf (.ok ()) => { s with configuration := some conf }
  | .connect (.ok ()) => { s with associated := s.configuration }
  | _ => s

def WifiCall.Associates : WifiCall → Prop
  | .connect (.ok ()) => True
  | _ => False

def WifiCall.Disconnects : WifiCall → Prop
  | .disconnect _ => True
  | _ => False

/-- An attempt succeeded, and no disconnect was issued after it. -/
def LeftAssociated (calls : List WifiCall) : Prop :=
  Pending WifiCall.Associates WifiCall.Disconnects calls

/-! ### Credentials -/

/-- UTF-8 that fits. -/
def IsText (n : Nat) (bytes : Bytes) : Prop :=
  ∃ s : String, s.toUTF8 = ⟨bytes.toArray⟩ ∧ s.utf8ByteSize ≤ n

def WellFormed : WirelessCreds → Prop
  | .wifi ssid pass => IsText 32 ssid ∧ IsText 64 pass
  | .thread _ => False

theorem stringMax_eq_ok_iff {n : Nat} {bytes : Bytes} {s : StringMax n} :
    stringMax n bytes = .ok s ↔ s.val.toUTF8 = ⟨bytes.toArray⟩ := by
  rw [← fromUTF8?_eq_some_iff, stringMax]
  cases String.fromUTF8? ⟨bytes.toArray⟩ with
  | none => simp
  | some t =>
      by_cases h : t.utf8ByteSize ≤ n
      · simp only [h, ↓reduceDIte, Except.ok.injEq, Option.some.injEq, Subtype.ext_iff]
      · simp only [h, ↓reduceDIte, reduceCtorEq, Option.some.injEq, false_iff]
        rintro rfl
        exact h s.property

theorem isText_iff {n : Nat} {bytes : Bytes} : IsText n bytes ↔ ∃ s, stringMax n bytes = .ok s := by
  constructor
  · rintro ⟨s, hs, hsize⟩
    exact ⟨⟨s, hsize⟩, stringMax_eq_ok_iff.mpr hs⟩
  · rintro ⟨s, hs⟩
    exact ⟨s.val, stringMax_eq_ok_iff.mp hs, s.property⟩

theorem clientConfiguration_eq_ok {ssid pass : Bytes} {conf : ClientConfiguration}
    (h : clientConfiguration ssid pass = .ok conf) :
    conf.ssid.val.toUTF8 = ⟨ssid.toArray⟩ ∧ conf.password.val.toUTF8 = ⟨pass.toArray⟩ := by
  unfold clientConfiguration at h
  cases hssid : stringMax 32 ssid with
  | error e =>
      rw [hssid] at h
      cases h
  | ok ssid' =>
      cases hpass : stringMax 64 pass with
      | error e =>
          rw [hssid, hpass] at h
          cases h
      | ok pass' =>
          rw [hssid, hpass] at h
          cases h
          exact ⟨stringMax_eq_ok_iff.mp hssid, stringMax_eq_ok_iff.mp hpass⟩

theorem wellFormed_wifi_iff {ssid pass : Bytes} :
    WellFormed (.wifi ssid pass) ↔ ∃ conf, clientConfiguration ssid pass = .ok conf := by
  constructor
  · rintro ⟨hssid, hpass⟩
    obtain ⟨ssid', hssid⟩ := isText_iff.mp hssid
    obtain ⟨pass', hpass⟩ := isText_iff.mp hpass
    refine ⟨{ ssid := ssid', password := pass', authMethod := .none }, ?_⟩
    rw [clientConfiguration, hssid, hpass]
    rfl
  · rintro ⟨conf, h⟩
    have hconf := clientConfiguration_eq_ok h
    exact ⟨⟨_, hconf.1, conf.ssid.property⟩, ⟨_, hconf.2, conf.password.property⟩⟩

/-! ### Rounds -/

/-- The round comes to its attempt. -/
structure Attempt.Prepared (a : Attempt) : Prop where
  setConfiguration : a.setConfiguration = .ok ()
  started : ∃ started, a.isStarted = .ok started ∧ (started = true ∨ a.start = .ok ())

/-- The attempt is made, and it fails. -/
def Attempt.Fails (a : Attempt) : Prop := a.Prepared ∧ ∃ e, a.connect = .error e

def Attempt.Succeeds (a : Attempt) : Prop := a.Prepared ∧ a.connect = .ok ()

theorem Attempt.Fails.not_succeeds {a : Attempt} (h : a.Fails) : ¬ a.Succeeds := by
  rintro ⟨-, hok⟩
  obtain ⟨-, e, herror⟩ := h
  rw [hok] at herror
  cases herror

/-- What comes before the attempt of a round that comes to it. -/
def Attempt.before (a : Attempt) (conf : ClientConfiguration) (started : Bool) : List WifiCall :=
  [.disconnect a.disconnect, .setConfiguration conf a.setConfiguration, .isStarted a.isStarted] ++
    (a.starting started).1

theorem Attempt.starting_calls (a : Attempt) (started : Bool) :
    ∀ call ∈ (a.starting started).1, call = .start a.start := by
  unfold starting
  cases started with
  | true => simp
  | false => simp

theorem Attempt.not_associates_before (a : Attempt) (conf : ClientConfiguration) (started : Bool) :
    ∀ call ∈ a.before conf started, ¬ call.Associates := by
  intro call hcall
  rcases List.mem_append.mp hcall with hcall | hcall
  · simp only [List.mem_cons, List.not_mem_nil, or_false] at hcall
    rcases hcall with rfl | rfl | rfl <;> exact id
  · rw [a.starting_calls started call hcall]
    exact id

/-- What a round comes to. -/
inductive RunSpec (a : Attempt) (conf : ClientConfiguration) :
    List WifiCall × Except NetCtlError (Except NetCtlError Unit) → Prop where
  | left {calls} (e : NetCtlError) (hnot : ¬ a.Prepared) (hcalls : ∀ call ∈ calls, ¬ call.Associates) :
      RunSpec a conf (calls, .error e)
  | failed {calls} (hfails : a.Fails) (hcalls : ∀ call ∈ calls, ¬ call.Associates) :
      RunSpec a conf (calls, .ok (.error .otherConnectionFailure))
  | succeeded (started : Bool) (hsucceeds : a.Succeeds) :
      RunSpec a conf (a.before conf started ++ [.connect (.ok ())], .ok (.ok ()))

theorem Attempt.run_spec (a : Attempt) (conf : ClientConfiguration) : RunSpec a conf (a.run conf) := by
  unfold run
  cases hset : a.setConfiguration with
  | error e =>
      refine .left _ (fun h => ?_) (by simp [WifiCall.Associates])
      have := h.setConfiguration
      rw [hset] at this
      cases this
  | ok u =>
      cases hstarted : a.isStarted with
      | error e =>
          refine .left _ (fun h => ?_) (by simp [WifiCall.Associates])
          obtain ⟨started, hok, -⟩ := h.started
          rw [hstarted] at hok
          cases hok
      | ok started =>
          have hbefore := a.not_associates_before conf started
          rw [before, hset, hstarted] at hbefore
          cases hstart : (a.starting started).2 with
          | error e =>
              dsimp only
              rw [hstart]
              refine .left _ (fun h => ?_) hbefore
              obtain ⟨started', hok, hrun⟩ := h.started
              rw [hstarted, Except.ok.injEq] at hok
              subst hok
              unfold starting at hstart
              rcases hrun with rfl | hrun
              · cases hstart
              · cases started with
                | true => cases hstart
                | false =>
                    rw [if_neg Bool.false_ne_true, hrun] at hstart
                    cases hstart
          | ok u =>
              have hprepared : a.Prepared := by
                refine ⟨hset, started, hstarted, ?_⟩
                cases started with
                | true => exact .inl rfl
                | false => exact .inr hstart
              dsimp only
              rw [hstart]
              cases hconnect : a.connect with
              | error e =>
                  refine .failed ⟨hprepared, e, hconnect⟩ fun call hcall => ?_
                  rcases List.mem_append.mp hcall with hcall | hcall
                  · exact hbefore call hcall
                  · rw [List.mem_singleton.mp hcall]
                    exact id
              | ok u =>
                  have h : RunSpec a conf _ := .succeeded started ⟨hprepared, hconnect⟩
                  rw [before, hset, hstarted] at h
                  exact h

/-- The first of the methods whose attempt succeeds. -/
def IsFirst (attempts : AuthMethod → Attempt) (methods : List AuthMethod) (method : AuthMethod) : Prop :=
  ∃ earlier later, methods = earlier ++ method :: later ∧ (∀ m ∈ earlier, (attempts m).Fails) ∧
    (attempts method).Succeeds

theorem isFirst_cons_of_fails {attempts : AuthMethod → Attempt} {m method : AuthMethod}
    {methods : List AuthMethod} (hm : (attempts m).Fails) :
    IsFirst attempts (m :: methods) method ↔ IsFirst attempts methods method := by
  constructor
  · rintro ⟨earlier, later, heq, hearlier, hsucceeds⟩
    cases earlier with
    | nil =>
        cases heq
        exact absurd hsucceeds hm.not_succeeds
    | cons first earlier =>
        obtain ⟨rfl, rfl⟩ := List.cons.inj heq
        exact ⟨earlier, later, rfl, fun m hm => hearlier m (List.mem_cons_of_mem _ hm), hsucceeds⟩
  · rintro ⟨earlier, later, rfl, hearlier, hsucceeds⟩
    exact ⟨m :: earlier, later, rfl, List.forall_mem_cons.mpr ⟨hm, hearlier⟩, hsucceeds⟩

/-- A round that does not come to its attempt ends the loop. -/
theorem not_isFirst_cons {attempts : AuthMethod → Attempt} {m method : AuthMethod}
    {methods : List AuthMethod} (hm : ¬ (attempts m).Prepared) :
    ¬ IsFirst attempts (m :: methods) method := by
  rintro ⟨earlier, later, heq, hearlier, hsucceeds⟩
  cases earlier with
  | nil =>
      cases heq
      exact hm hsucceeds.1
  | cons first earlier =>
      obtain ⟨rfl, -⟩ := List.cons.inj heq
      exact hm (hearlier m List.mem_cons_self).1

/-- What the loop comes to. -/
inductive TrySpec (attempts : AuthMethod → Attempt) (conf : ClientConfiguration) (methods : List AuthMethod) :
    List WifiCall × Except NetCtlError (Except NetCtlError Unit) → Prop where
  | failed {calls} {result : Except NetCtlError (Except NetCtlError Unit)}
      (hfirst : ∀ method, ¬ IsFirst attempts methods method)
      (hresult : result ≠ .ok (.ok ())) (hcalls : ∀ call ∈ calls, ¬ call.Associates) :
      TrySpec attempts conf methods (calls, result)
  | succeeded {calls} {method : AuthMethod} (started : Bool) (hfirst : IsFirst attempts methods method) :
      TrySpec attempts conf methods
        (calls ++ ((attempts method).before { conf with authMethod := method } started ++
          [.connect (.ok ())]), .ok (.ok ()))

theorem tryMethods_spec (attempts : AuthMethod → Attempt) (conf : ClientConfiguration)
    (methods : List AuthMethod) (result : Except NetCtlError Unit) (hresult : methods = [] → result ≠ .ok ()) :
    TrySpec attempts conf methods (tryMethods attempts conf methods result) := by
  induction methods generalizing result with
  | nil =>
      refine .failed ?_ (fun h => hresult rfl (Except.ok.inj h)) (List.forall_mem_nil _)
      rintro method ⟨earlier, later, heq, -⟩
      cases earlier <;> cases heq
  | cons method methods ih =>
      rw [tryMethods]
      have hrun := (attempts method).run_spec { conf with authMethod := method }
      generalize (attempts method).run { conf with authMethod := method } = ran at hrun
      cases hrun with
      | left e hnot hcalls => exact .failed (fun m => not_isFirst_cons hnot) (by simp) hcalls
      | @failed calls hfails hcalls =>
          have hrest := ih (.error .otherConnectionFailure) fun _ h => by cases h
          dsimp only
          generalize tryMethods attempts conf methods _ = rest at hrest ⊢
          cases hrest with
          | failed hfirst hresult hrest =>
              refine .failed (fun m h => hfirst m ((isFirst_cons_of_fails hfails).mp h)) hresult ?_
              intro call hcall
              exact (List.mem_append.mp hcall).elim (hcalls call) (hrest call)
          | succeeded started hfirst =>
              rw [← List.append_assoc]
              exact .succeeded started ((isFirst_cons_of_fails hfails).mpr hfirst)
      | succeeded started hsucceeds =>
          have hfirst : IsFirst attempts (method :: methods) method :=
            ⟨[], _, rfl, List.forall_mem_nil _, hsucceeds⟩
          have h : TrySpec attempts conf (method :: methods) ([] ++ _, .ok (.ok ())) :=
            .succeeded started hfirst
          exact h

/-! ### The whole connect -/

/-- A round sets the configuration that its attempt then uses. -/
theorem associated_after_round {a : Attempt} (hset : a.setConfiguration = .ok ()) (conf : ClientConfiguration)
    (started : Bool) (station : Station) :
    ((a.before conf started ++ [WifiCall.connect (.ok ())]).foldl
      Station.after station).associated = some conf := by
  have hstart : ∀ s : Station, ((a.starting started).1.foldl Station.after s) = s := by
    intro s
    unfold Attempt.starting
    cases started with
    | true => rfl
    | false => rfl
  rw [Attempt.before, hset, List.foldl_append, List.foldl_append, hstart]
  cases hdisconnect : a.disconnect with
  | error e => rfl
  | ok u => rfl

/-- The calls of the round that succeeds. -/
def lastRound (answers : Answers) (conf : ClientConfiguration) (started : Bool) : List WifiCall :=
  (answers.attempts conf.authMethod).before conf started ++ [.connect (.ok ())]

/-- `conf` is what the credentials say, with the first method that succeeds. -/
structure Chosen (creds : WirelessCreds) (answers : Answers) (conf : ClientConfiguration) : Prop where
  creds : ∃ ssid pass, creds = .wifi ssid pass ∧ conf.ssid.val.toUTF8 = ⟨ssid.toArray⟩ ∧
    conf.password.val.toUTF8 = ⟨pass.toArray⟩
  first : IsFirst answers.attempts authMethods conf.authMethod

theorem Chosen.wellFormed {creds : WirelessCreds} {answers : Answers} {conf : ClientConfiguration}
    (h : Chosen creds answers conf) : WellFormed creds := by
  obtain ⟨ssid, pass, rfl, hssid, hpass⟩ := h.creds
  exact ⟨⟨_, hssid, conf.ssid.property⟩, ⟨_, hpass, conf.password.property⟩⟩

/-- The ways out of `connect`. -/
inductive ConnectSpec (operational : Bool) (creds : WirelessCreds) (answers : Answers) : Connected → Prop where
  | illFormed (e : NetCtlError) (hcreds : ¬ WellFormed creds) :
      ConnectSpec operational creds answers ⟨operational, [], .error e⟩
  | failed {calls} (e : NetCtlError) (hcreds : WellFormed creds)
      (hfirst : ∀ method, ¬ IsFirst answers.attempts authMethods method)
      (hcalls : ∀ call ∈ calls, ¬ call.Associates) :
      ConnectSpec operational creds answers ⟨operational, calls, .error e⟩
  | linklocal {calls} {conf : ClientConfiguration} {started : Bool} (e : EspError)
      (hconf : Chosen creds answers conf) (hlinklocal : answers.linklocal = .error e) :
      ConnectSpec operational creds answers
        ⟨operational, calls ++ lastRound answers conf started ++ [.createIp6Linklocal (.error e)],
          .error (netCtlError e)⟩
  | unassigned {calls} {conf : ClientConfiguration} {started : Bool} (e : EspError)
      (hconf : Chosen creds answers conf) (hlinklocal : answers.linklocal = .ok ()) :
      ConnectSpec operational creds answers
        ⟨operational, calls ++ lastRound answers conf started ++
          [.createIp6Linklocal (.ok ()), .ipWaitWhile (.error e), .disconnect answers.disconnectAgain],
          .error .ipBindFailed⟩
  | connected {calls} {conf : ClientConfiguration} {started : Bool}
      (hconf : Chosen creds answers conf) (hlinklocal : answers.linklocal = .ok ()) :
      ConnectSpec operational creds answers
        ⟨true, calls ++ lastRound answers conf started ++
          [.createIp6Linklocal (.ok ()), .ipWaitWhile (.ok ())], .ok ()⟩

theorem connect_spec (operational : Bool) (creds : WirelessCreds) (answers : Answers) :
    ConnectSpec operational creds answers (connect operational creds answers) := by
  cases creds with
  | thread datasetTlv => exact .illFormed _ id
  | wifi ssid pass =>
      rw [connect]
      cases hconf : clientConfiguration ssid pass with
      | error e =>
          refine .illFormed e fun h => ?_
          obtain ⟨conf, hok⟩ := wellFormed_wifi_iff.mp h
          rw [hconf] at hok
          cases hok
      | ok conf =>
          have hcreds : WellFormed (.wifi ssid pass) := wellFormed_wifi_iff.mpr ⟨conf, hconf⟩
          obtain ⟨hssid, hpass⟩ := clientConfiguration_eq_ok hconf
          have htried : TrySpec answers.attempts conf authMethods
              (tryMethods answers.attempts conf authMethods (.ok ())) :=
            tryMethods_spec _ _ _ _ fun h => by cases h
          dsimp only
          generalize tryMethods answers.attempts conf authMethods (.ok ()) = tried at htried ⊢
          cases htried with
          | @failed calls result hfirst hresult hcalls =>
              cases result with
              | error e => exact .failed e hcreds hfirst hcalls
              | ok result =>
                  cases result with
                  | error e => exact .failed e hcreds hfirst hcalls
                  | ok u => exact absurd rfl hresult
          | @succeeded calls method started hfirst =>
              have hchosen : Chosen (.wifi ssid pass) answers { conf with authMethod := method } :=
                ⟨⟨ssid, pass, rfl, hssid, hpass⟩, hfirst⟩
              dsimp only
              cases hlinklocal : answers.linklocal with
              | error e => exact .linklocal e hchosen hlinklocal
              | ok u =>
                  dsimp only
                  cases answers.ipWait with
                  | error e =>
                      dsimp only
                      rw [List.append_assoc _ _ [WifiCall.ipWaitWhile _],
                        List.append_assoc _ _ [WifiCall.disconnect _]]
                      exact .unassigned e hchosen hlinklocal
                  | ok u =>
                      dsimp only
                      rw [List.append_assoc _ _ [WifiCall.ipWaitWhile _]]
                      exact .connected hchosen hlinklocal

/-- What a `connect` owes its caller. -/
structure Honest (creds : WirelessCreds) (answers : Answers) (connected : Connected) : Prop where
  ok : connected.result = .ok () → connected.operational = true ∧
    ∃ conf, Chosen creds answers conf ∧
      ∀ station : Station, (connected.calls.foldl Station.after station).associated = some conf
  illFormed : ¬ WellFormed creds → (∃ e, connected.result = .error e) ∧ connected.calls = []
  error : ∀ e, connected.result = .error e → ¬ LeftAssociated connected.calls

/-- The station is associated when the link-local address cannot be created. -/
def LinklocalFails (creds : WirelessCreds) (answers : Answers) : Prop :=
  WellFormed creds ∧ (∃ method, IsFirst answers.attempts authMethods method) ∧
    ∃ e, answers.linklocal = .error e

theorem IsFirst.setConfiguration {attempts : AuthMethod → Attempt} {methods : List AuthMethod}
    {method : AuthMethod} (h : IsFirst attempts methods method) :
    (attempts method).setConfiguration = .ok () := by
  obtain ⟨earlier, later, -, -, hsucceeds⟩ := h
  exact hsucceeds.1.setConfiguration

theorem not_leftAssociated_of_forall {calls : List WifiCall} (h : ∀ call ∈ calls, ¬ call.Associates) :
    ¬ LeftAssociated calls :=
  not_pending_of_forall h

/-- `connect` keeps its word except when the link-local address cannot be created: that exit, unlike the
one after it, does not disconnect. -/
theorem connect_honest_iff (operational : Bool) (creds : WirelessCreds) (answers : Answers) :
    Honest creds answers (connect operational creds answers) ↔ ¬ LinklocalFails creds answers := by
  have hspec := connect_spec operational creds answers
  generalize connect operational creds answers = connected at hspec ⊢
  cases hspec with
  | illFormed e hcreds =>
      refine iff_of_true ⟨?_, fun _ => ⟨⟨e, rfl⟩, rfl⟩, fun _ _ => ?_⟩ (fun h => hcreds h.1)
      · intro h
        cases h
      · exact not_leftAssociated_of_forall (List.forall_mem_nil _)
  | failed e hcreds hfirst hcalls =>
      refine iff_of_true ⟨?_, fun h => absurd hcreds h, fun _ _ => ?_⟩ ?_
      · intro h
        cases h
      · exact not_leftAssociated_of_forall hcalls
      · rintro ⟨-, ⟨method, hmethod⟩, -⟩
        exact hfirst method hmethod
  | linklocal e hconf hlinklocal =>
      refine iff_of_false ?_ (not_not_intro ⟨hconf.wellFormed, ⟨_, hconf.first⟩, e, hlinklocal⟩)
      intro h
      apply h.error _ rfl
      rw [lastRound, ← List.append_assoc, List.append_assoc]
      refine pending_of_opens trivial ?_
      simp [WifiCall.Disconnects]
  | unassigned e hconf hlinklocal =>
      refine iff_of_true ⟨?_, fun h => absurd hconf.wellFormed h, fun _ _ => ?_⟩ ?_
      · intro h
        cases h
      · refine not_pending_of_closes (b := .disconnect answers.disconnectAgain) ?_ trivial ?_
        · simp
        · exact not_leftAssociated_of_forall (by simp [WifiCall.Associates])
      · rintro ⟨-, -, e', he⟩
        rw [hlinklocal] at he
        cases he
  | connected hconf hlinklocal =>
      refine iff_of_true ⟨fun _ => ⟨rfl, _, hconf, fun station => ?_⟩,
        fun h => absurd hconf.wellFormed h, ?_⟩ ?_
      · rw [List.foldl_append, List.foldl_append]
        exact associated_after_round hconf.first.setConfiguration _ _ _
      · intro e h
        cases h
      · rintro ⟨-, -, e', he⟩
        rw [hlinklocal] at he
        cases he

/-- The first attempt succeeds on a station that is started, and the link-local address is not created. -/
def noLinklocal : Answers where
  attempts _ :=
    { disconnect := .ok ()
      setConfiguration := .ok ()
      isStarted := .ok true
      start := .ok ()
      connect := .ok () }
  linklocal := .error ⟨-1⟩
  ipWait := .ok ()
  disconnectAgain := .ok ()

def home : ClientConfiguration where
  ssid := ⟨"home", by decide⟩
  password := ⟨"secret12", by decide⟩
  authMethod := .none

theorem clientConfiguration_home :
    clientConfiguration [104, 111, 109, 101] [115, 101, 99, 114, 101, 116, 49, 50] = .ok home := by
  have hssid : stringMax 32 [104, 111, 109, 101] = .ok home.ssid := stringMax_eq_ok_iff.mpr rfl
  have hpass : stringMax 64 [115, 101, 99, 114, 101, 116, 49, 50] = .ok home.password :=
    stringMax_eq_ok_iff.mpr rfl
  rw [clientConfiguration, hssid, hpass]
  rfl

/-- The error is reported, and the station stays associated. -/
theorem left_associated :
    ¬ Honest (.wifi [104, 111, 109, 101] [115, 101, 99, 114, 101, 116, 49, 50]) noLinklocal
      (connect false (.wifi [104, 111, 109, 101] [115, 101, 99, 114, 101, 116, 49, 50]) noLinklocal) := by
  intro h
  have herror := h.error
  simp only [connect, clientConfiguration_home] at herror
  refine herror _ rfl ?_
  refine ⟨[_, _, _], WifiCall.connect (.ok ()), _, rfl, trivial, ?_⟩
  simp [WifiCall.Disconnects]

end EspIdfMatter.Wifi
