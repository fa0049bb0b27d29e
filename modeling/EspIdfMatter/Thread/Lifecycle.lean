import EspIdfMatter.Library.Pending
import EspIdfMatter.Thread.Driver

/-! What holds along every run of the Thread driver: Thread is enabled only with a dataset that a `connect`
supplied, and OpenThread is put to rest once it was started. -/

namespace EspIdfMatter.Thread

open Library Library.Machine Netif

variable {μ : Type} {n : Nat}

/-! ### The calls -/

/-- Either all calls succeed, or those up to the first that fails are made. -/
inductive Attempted (answers : ThreadAnswers) (o : OpenThread) (ops : List ThreadOp) : Attempt → Prop where
  | ok (hall : ∀ op ∈ ops, answers op = .ok ()) : Attempted answers o ops ⟨ops.foldl .apply o, ops, .ok ()⟩
  | error (before : List ThreadOp) (op : ThreadOp) (later : List ThreadOp) (e : EspError)
      (hops : ops = before ++ op :: later) (hall : ∀ op ∈ before, answers op = .ok ())
      (hfails : answers op = .error e) :
      Attempted answers o ops ⟨before.foldl .apply o, before ++ [op], .error (toNetError e)⟩

theorem attempted (answers : ThreadAnswers) (ops : List ThreadOp) (o : OpenThread) :
    Attempted answers o ops (attempt answers ops o) := by
  induction ops generalizing o with
  | nil => exact .ok (List.forall_mem_nil _)
  | cons op ops ih =>
      unfold attempt
      split
      · rename_i e hfails
        exact .error [] op ops e rfl (List.forall_mem_nil _) hfails
      · rename_i hop
        have hrest := ih (o.apply op)
        generalize attempt answers ops (o.apply op) = rest at hrest ⊢
        cases hrest with
        | ok hall => exact .ok (List.forall_mem_cons.mpr ⟨hop, hall⟩)
        | error before op' later e hops hall hfails =>
            exact .error (op :: before) op' later e (congrArg (op :: ·) hops)
              (List.forall_mem_cons.mpr ⟨hop, hall⟩) hfails

/-- A call is made only once those before it succeeded. -/
theorem Attempted.made_after {answers : ThreadAnswers} {o : OpenThread} {ops : List ThreadOp}
    {attempted : Attempt} (h : Attempted answers o ops attempted) (xs : List ThreadOp) (op : ThreadOp)
    (ys : List ThreadOp) (hcalls : attempted.calls = xs ++ op :: ys) : ∀ op' ∈ xs, answers op' = .ok () := by
  intro op' hop'
  cases h with
  | ok hall =>
      apply hall
      rw [show ops = xs ++ op :: ys from hcalls]
      exact List.mem_append_left _ hop'
  | error before last later e hops hall hfails =>
      apply hall
      have hprefix : xs <+: before := by
        have hlast : xs ++ op :: ys = before ++ [last] := hcalls.symm
        have hshort : xs.length ≤ before.length := by
          have hlength := congrArg List.length hlast
          rw [List.length_append, List.length_append, List.length_cons, List.length_singleton] at hlength
          omega
        have hxs : xs <+: before ++ [last] := ⟨op :: ys, hlast⟩
        exact List.prefix_of_prefix_length_le hxs (List.prefix_append before [last]) hshort
      exact hprefix.subset hop'

theorem Attempted.calls_prefix {answers : ThreadAnswers} {o : OpenThread} {ops : List ThreadOp}
    {attempted : Attempt} (h : Attempted answers o ops attempted) : attempted.calls <+: ops := by
  cases h with
  | ok hall => exact List.prefix_refl ops
  | error before op later e hops hall hfails => exact ⟨later, by rw [hops, List.append_assoc]; rfl⟩

theorem OpenThread.call_disable (o : OpenThread) (answers : ThreadAnswers) :
    ∃ enabled, o.call answers (.enableThread false) = { o with enabled } ∧
      (enabled = true → o.enabled = true) := by
  unfold OpenThread.call
  split
  · exact ⟨false, rfl, fun h => absurd h Bool.false_ne_true⟩
  · exact ⟨o.enabled, rfl, id⟩

theorem quiesce_eq (answers : ThreadAnswers) (o : OpenThread) :
    ∃ enabled srp ipv6, quiesce answers o = { o with enabled, srp, ipv6 } ∧
      (enabled = true → o.enabled = true) := by
  obtain ⟨enabled, hdisable, henabled⟩ := o.call_disable answers
  refine ⟨enabled, if answers .srpStop = .ok () then false else o.srp,
    if answers (.enableIpv6 false) = .ok () then false else o.ipv6, ?_, henabled⟩
  rw [quiesce, quiesceOps, List.foldl_cons, hdisable]
  simp only [List.foldl_cons, List.foldl_nil, OpenThread.call]
  cases answers .srpStop <;> cases answers (.enableIpv6 false) <;> rfl

/-- What a set-up that succeeds leaves in effect. -/
theorem foldl_setUpOps (o : OpenThread) (icd : Option (IcdNetParams μ)) :
    (setUpOps icd).foldl .apply o =
      { o with
        dataset := []
        linkMode := (icd.map fun _ => LinkMode.sleepy).getD o.linkMode
        timings := (icd.map Timings.ofParams).getD o.timings
        ipv6 := true
        srp := true
        started := true } := by
  cases icd with
  | none => rfl
  | some params => rfl

/-- A call of the set-up. -/
def SetsUp (op : ThreadOp) : Prop := (∀ enable, op ≠ .enableThread enable) ∧ op ≠ .enableIpv6 false

theorem mem_setUpOps {icd : Option (IcdNetParams μ)} : ∀ op ∈ setUpOps icd, SetsUp op := by
  cases icd with
  | none => simp [setUpOps, sedOps, SetsUp]
  | some params => simp [setUpOps, sedOps, icdCalls, SetsUp]

/-- The set-up leaves Thread itself alone. -/
theorem enabled_foldl {ops : List ThreadOp} (hops : ∀ op ∈ ops, SetsUp op) (o : OpenThread) :
    (ops.foldl .apply o).enabled = o.enabled := by
  induction ops generalizing o with
  | nil => rfl
  | cons op ops ih =>
      obtain ⟨hop, hrest⟩ := List.forall_mem_cons.mp hops
      have happly : (o.apply op).enabled = o.enabled := by
        cases op with
        | enableThread enable => exact absurd rfl (hop.1 enable)
        | ot call => cases call <;> rfl
        | _ => rfl
      rw [List.foldl_cons, ih hrest, happly]

theorem ipv6_foldl {ops : List ThreadOp} (hops : ∀ op ∈ ops, SetsUp op) (o : OpenThread) :
    (ops.foldl .apply o).ipv6 = true ↔ o.ipv6 = true ∨ .enableIpv6 true ∈ ops := by
  induction ops generalizing o with
  | nil => simp
  | cons op ops ih =>
      obtain ⟨hop, hrest⟩ := List.forall_mem_cons.mp hops
      have happly : (o.apply op).ipv6 = true ↔ o.ipv6 = true ∨ .enableIpv6 true = op := by
        cases op with
        | enableIpv6 enable =>
            cases enable with
            | true => exact iff_of_true rfl (.inr rfl)
            | false => exact absurd rfl hop.2
        | ot call => cases call <;> simp [OpenThread.apply]
        | _ => simp [OpenThread.apply]
      rw [List.foldl_cons, ih hrest, happly, List.mem_cons, or_assoc]

namespace Driver

/-! ### Thread is enabled only by a `connect` -/

/-- The dataset that a step supplies. -/
def Step.supplied : Step μ n → Option Bytes
  | .connect (.thread datasetTlv) _ _ _ => some datasetTlv
  | _ => none

/-- The set-up is in effect, with the timings of the ICD. -/
structure Up (D : Driver μ) : Prop where
  started : D.thread.started = true
  ipv6 : D.thread.ipv6 = true
  srp : D.thread.srp = true
  timings : ∀ params, D.sed = some params → D.thread.timings = .ofParams (D.applied.getD params)

/-- What every step keeps, if the `connect`s have supplied these datasets. -/
structure Safe (supplied : List Bytes) (D : Driver μ) : Prop where
  fresh : D.phase = .idle → D.thread.enabled = false ∧ D.sed = none ∧ D.applied = none
  running : D.phase = .running → D.Up
  dataset : D.thread.enabled = true → D.thread.dataset ∈ supplied
  erased : D.phase = .running → D.thread.dataset = [] ∨ D.thread.dataset ∈ supplied
  started : D.thread.enabled = true → D.thread.started = true
  sleepy : ∀ params, D.sed = some params → D.thread.linkMode = .sleepy

section Safe

variable {supplied : List Bytes} {D : Driver μ}

theorem safe_new (persisted : Bytes) (linkMode : LinkMode) (timings : Timings) :
    Safe supplied (new persisted linkMode timings : Driver μ) where
  fresh := fun _ => ⟨rfl, rfl, rfl⟩
  running := fun h => by cases h
  dataset := fun h => absurd h Bool.false_ne_true
  erased := fun h => by cases h
  started := fun h => absurd h Bool.false_ne_true
  sleepy := fun _ h => by cases h

theorem safe_finish (hdataset : D.thread.enabled = true → D.thread.dataset ∈ supplied)
    (hstarted : D.thread.enabled = true → D.thread.started = true)
    (hsleepy : ∀ params, D.sed = some params → D.thread.linkMode = .sleepy) (answers : ThreadAnswers)
    (result : Option (Except ErrorCode Unit)) : Safe supplied (D.finish answers result).1 := by
  obtain ⟨enabled, srp, ipv6, hquiesce, henabled⟩ := quiesce_eq answers D.thread
  unfold Driver.finish
  rw [hquiesce]
  refine ⟨fun hidle => ?_, fun hrunning => ?_, fun hon => hdataset (henabled hon), fun hrunning => ?_,
    fun hon => hstarted (henabled hon), hsleepy⟩
  · cases hidle
  · cases hrunning
  · cases hrunning

theorem Safe.finish (h : Safe supplied D) (answers : ThreadAnswers)
    (result : Option (Except ErrorCode Unit)) : Safe supplied (D.finish answers result).1 :=
  safe_finish h.dataset h.started h.sleepy answers result

/-- Neither the lock nor the operational flag matters, nor whether the driver panics. -/
theorem Safe.of_running (h : Safe supplied D) {phase : Phase} (hphase : phase = .running → D.phase = .running)
    (hidle : phase ≠ .idle) (lock : Option Holder) (operational : Bool) :
    Safe supplied { D with phase, lock, operational } :=
  ⟨fun hfresh => absurd hfresh hidle, fun hrunning =>
    have hup := h.running (hphase hrunning)
    ⟨hup.started, hup.ipv6, hup.srp, hup.timings⟩, h.dataset, fun hrunning => h.erased (hphase hrunning),
    h.started, h.sleepy⟩

theorem Safe.disable (h : Safe supplied D) (answers : ThreadAnswers) :
    Safe supplied { D with thread := D.thread.call answers (.enableThread false) } := by
  obtain ⟨enabled, hdisable, henabled⟩ := D.thread.call_disable answers
  rw [hdisable]
  refine ⟨fun hidle => ⟨?_, (h.fresh hidle).2⟩, fun hrunning => ?_, fun hon => h.dataset (henabled hon),
    h.erased, fun hon => h.started (henabled hon), h.sleepy⟩
  · refine Bool.eq_false_iff.mpr fun hon => ?_
    have hoff := (h.fresh hidle).1
    rw [henabled hon] at hoff
    cases hoff
  · have hup := h.running hrunning
    exact ⟨hup.started, hup.ipv6, hup.srp, hup.timings⟩

theorem Safe.setUp (h : Safe supplied D) (hidle : D.phase = .idle) (created : Except EspError Unit)
    (icd : Option (IcdNetParams μ)) (answers : ThreadAnswers) :
    Safe supplied (D.setUp created icd answers).1 := by
  obtain ⟨hoff, hsed, happlied⟩ := h.fresh hidle
  have hended : ∀ {o : OpenThread} {result}, o.enabled = false →
      Safe supplied { D with thread := o, phase := .ended result } := by
    intro o result hdisabled
    refine ⟨fun hidle => ?_, fun hrunning => ?_, fun hon => ?_, fun hrunning => ?_, fun hon => ?_,
      fun params hparams => ?_⟩
    · cases hidle
    · cases hrunning
    · exact absurd (hdisabled.symm.trans hon) Bool.false_ne_true
    · cases hrunning
    · exact absurd (hdisabled.symm.trans hon) Bool.false_ne_true
    · cases hsed.symm.trans hparams
  unfold Driver.setUp
  split
  · exact hended hoff
  · have hattempted := attempted answers (setUpOps icd) D.thread
    generalize attempt answers (setUpOps icd) D.thread = result at hattempted ⊢
    cases hattempted with
    | ok hall =>
        dsimp only
        rw [foldl_setUpOps]
        refine ⟨fun hidle => ?_, fun _ => ⟨rfl, rfl, rfl, ?_⟩, fun hon => ?_, fun _ => .inl rfl, fun _ => rfl, ?_⟩
        · cases hidle
        · rintro params rfl
          rw [happlied]
          rfl
        · exact absurd (hoff.symm.trans hon) Bool.false_ne_true
        · rintro params rfl
          rfl
    | error before op later e hops hall hfails =>
        refine hended ((enabled_foldl (fun op' hop' => ?_) D.thread).trans hoff)
        exact mem_setUpOps op' (hops ▸ List.mem_append_left _ hop')

theorem Safe.poll (h : Safe supplied D) (hrunning : D.phase = .running) (poll : Poll n)
    (answers : ThreadAnswers) : Safe supplied (D.poll poll answers).1 := by
  have hsame : ∀ lock operational, Safe supplied { D with lock, operational } :=
    fun lock operational => h.of_running id (by rw [hrunning]; exact nofun) lock operational
  unfold Driver.poll
  split
  · exact h.of_running (fun hphase => by cases hphase) (fun hphase => by cases hphase) _ _
  · exact hsame _ _
  · exact hsame _ _
  · split
    · have hdisabled := h.disable answers
      exact hdisabled.of_running id (by rw [hrunning]; exact nofun) none D.operational
    · exact hsame _ _

/-- The dataset is replaced, and Thread may be enabled with it. -/
theorem Safe.supply (h : Safe supplied D) (hrunning : D.phase = .running) {datasetTlv : Bytes}
    (hsupplied : datasetTlv ∈ supplied) (enabled : Bool) :
    Safe supplied { D with thread := { D.thread with dataset := datasetTlv, enabled } } := by
  have hup := h.running hrunning
  refine ⟨fun hidle => ?_, fun _ => ⟨hup.started, hup.ipv6, hup.srp, hup.timings⟩, fun _ => hsupplied,
    fun _ => .inr hsupplied, fun _ => hup.started, h.sleepy⟩
  cases hrunning.symm.trans hidle

theorem Safe.connect (h : Safe supplied D) (hrunning : D.phase = .running) {creds : WirelessCreds}
    (hsupplied : ∀ datasetTlv, creds = .thread datasetTlv → datasetTlv ∈ supplied)
    (answers : ThreadAnswers) (poll : Poll n) (polling : ThreadAnswers) :
    Safe supplied (D.connect creds answers poll polling).1 := by
  unfold Driver.connect
  split
  · exact h
  · rename_i datasetTlv
    split
    · exact h
    · have hdisabled := h.disable answers
      dsimp only
      split
      · exact hdisabled
      · have hset := hdisabled.supply hrunning (hsupplied datasetTlv rfl)
        split
        · exact hset _
        · exact (hset true).poll hrunning poll polling

theorem Safe.unlock (h : Safe supplied D) (hrunning : D.phase = .running) (lock : Option Holder) :
    Safe supplied { D with lock } :=
  h.of_running id (by rw [hrunning]; exact nofun) lock D.operational

theorem Safe.scanPoll (h : Safe supplied D) (hrunning : D.phase = .running) (poll : ScanPoll) :
    Safe supplied (D.scanPoll poll).1 := by
  unfold Driver.scanPoll
  split
  · exact h.unlock hrunning none
  · exact h.unlock hrunning (some .scan)
  · exact h.unlock hrunning none

theorem Safe.scan (h : Safe supplied D) (hrunning : D.phase = .running) (started : Except EspError Unit)
    (poll : ScanPoll) : Safe supplied (D.scan started poll).1 := by
  unfold Driver.scan
  split
  · exact h
  · split
    · exact h
    · exact h.scanPoll hrunning poll

theorem Safe.icd [DecidableEq μ] (h : Safe supplied D) (hrunning : D.phase = .running)
    (params : IcdNetParams μ) (answers : ThreadAnswers) : Safe supplied (D.icd params answers).1 := by
  have hup := h.running hrunning
  unfold Driver.icd
  split
  · exact h
  · rename_i configured hsed
    dsimp only
    split
    · rename_i hgoes
      obtain ⟨-, hchanged, hsame⟩ := RunIcd.step_ok _ hgoes
      refine ⟨fun hidle => ?_, fun _ => ⟨hup.started, hup.ipv6, hup.srp, fun configured hconfigured => ?_⟩,
        h.dataset, fun _ => h.erased hrunning, h.started, h.sleepy⟩
      · cases hrunning.symm.trans hidle
      · by_cases happlied : D.applied = some params
        · rw [hsame happlied]
          exact hup.timings configured hconfigured
        · obtain ⟨hfollows, -⟩ := hchanged happlied
          dsimp only
          rw [hfollows.applied]
          exact hfollows.timings
    · refine safe_finish ?_ ?_ ?_ answers _
      · exact h.dataset
      · exact h.started
      · exact h.sleepy

theorem Safe.fetch (h : Safe supplied D) (hrunning : D.phase = .running) (role : Except EspError Role)
    (netif : EspNetif n) : Safe supplied (D.fetch role netif).1 := by
  unfold Driver.fetch
  split
  · exact h
  · split
    · exact h.of_running (fun hphase => by cases hphase) (fun hphase => by cases hphase) _ _
    · dsimp only
      split
      · exact h.of_running id (by rw [hrunning]; exact nofun) D.lock _
      · exact h

/-- **Every step is safe.** -/
theorem Safe.step [DecidableEq μ] (h : Safe supplied D) (s : Step μ n)
    (hsupplied : ∀ datasetTlv, s.supplied = some datasetTlv → datasetTlv ∈ supplied) :
    Safe supplied (D.step s).1 := by
  unfold Driver.step
  split
  · rename_i hidle
    exact h.setUp hidle _ _ _
  · exact h.of_running (fun hphase => by cases hphase) (fun hphase => by cases hphase) _ _
  · rename_i creds answers poll polling hrunning
    refine h.connect hrunning (fun datasetTlv hcreds => hsupplied datasetTlv ?_) _ _ _
    rw [hcreds]
    rfl
  · rename_i hrunning
    split
    · exact h.poll hrunning _ _
    · exact h
  · rename_i hrunning
    split
    · exact h.unlock hrunning none
    · exact h
  · rename_i hrunning
    exact h.scan hrunning _ _
  · rename_i hrunning
    split
    · exact h.scanPoll hrunning _
    · exact h
  · rename_i hrunning
    split
    · exact h.unlock hrunning none
    · exact h
  · rename_i hrunning
    exact h.fetch hrunning _ _
  · rename_i hrunning
    exact h.icd hrunning _ _
  · exact h.finish _ _
  · exact h.finish _ _
  · exact h

end Safe

/-! ### What a step does while the driver runs -/

def Obs.call? : Obs → Option ThreadOp
  | .call op _ => some op
  | _ => none

/-- The calls among what was made are those that were to be made. -/
theorem calls_made (answers : ThreadAnswers) (ops : List ThreadOp) :
    (made answers ops).filterMap Obs.call? = ops := by
  rw [made, List.filterMap_map]
  exact List.filterMap_some

/-- A call that is made while the driver runs: the timings are programmed only with an ICD. -/
inductive Operates (icd : Option (IcdNetParams μ)) : ThreadOp → Prop where
  | enableThread (enable : Bool) : Operates icd (.enableThread enable)
  | setTod (datasetTlv : Bytes) : Operates icd (.setTod datasetTlv)
  | scan : Operates icd .scan
  | ot (call : OtCall) (htimes : call.Times) (hicd : icd ≠ none) : Operates icd (.ot call)

/-- A step that ends a run, with what the run ends in. OpenThread is left in what the calls that put it to
rest make of it, in that step. -/
inductive Ends (D : Driver μ) : Step μ n → Option (Except ErrorCode Unit) → OpenThread → Prop where
  | returned (result : Except ErrorCode Unit) (answers : ThreadAnswers) :
      Ends D (.returns result answers) (some result) (quiesce answers D.thread)
  | dropped (answers : ThreadAnswers) : Ends D (.drop answers) none (quiesce answers D.thread)
  /-- `run_icd` fails, having programmed some of the timings. -/
  | failed [DecidableEq μ] (params : IcdNetParams μ) (answers : ThreadAnswers) (S : RunIcd μ) (e : ErrorCode)
      (hstep : S = ((⟨D.thread.timings, D.applied, none⟩ : RunIcd μ).step
        ⟨params, fun call => answers (.ot call)⟩).1) (hended : S.ended = some e) :
      Ends D (.icd params answers) (some (.error e))
        (quiesce answers { D.thread with timings := S.timings })

/-- A step makes some calls, and may then end the run. -/
inductive Runs (D : Driver μ) (s : Step μ n) (next : Driver μ × List Obs) : Prop where
  | goes (ops : List ThreadOp) (hphase : next.1.phase = .running ∨ next.1.phase = .panicked)
      (hsed : next.1.sed = D.sed) (hcalls : next.2.filterMap Obs.call? = ops)
      (hops : ∀ op ∈ ops, Operates D.sed op)
  | ends (ops : List ThreadOp) (result : Option (Except ErrorCode Unit))
      (hphase : next.1.phase = .ended result) (hsed : next.1.sed = D.sed)
      (hcalls : next.2.filterMap Obs.call? = ops ++ quiesceOps) (hops : ∀ op ∈ ops, Operates D.sed op)
      (hends : Ends D s result next.1.thread)

section Runs

variable {D : Driver μ}

/-- A step that only makes calls. -/
structure Goes (D : Driver μ) (next : Driver μ × List Obs) : Prop where
  phase : next.1.phase = .running ∨ next.1.phase = .panicked
  sed : next.1.sed = D.sed
  operates : ∀ op ∈ next.2.filterMap Obs.call?, Operates D.sed op

theorem Goes.runs {s : Step μ n} {next : Driver μ × List Obs} (h : Goes D next) : Runs D s next :=
  .goes _ h.phase h.sed rfl h.operates

/-- Nothing is called. -/
theorem goes_quiet {next : Driver μ × List Obs} (hphase : next.1.phase = .running ∨ next.1.phase = .panicked)
    (hsed : next.1.sed = D.sed) (hnone : next.2.filterMap Obs.call? = []) : Goes D next where
  phase := hphase
  sed := hsed
  operates := hnone ▸ List.forall_mem_nil _

theorem poll_goes (hrunning : D.phase = .running) (poll : Poll n) (answers : ThreadAnswers) :
    Goes D (D.poll poll answers) := by
  unfold Driver.poll
  split
  · exact goes_quiet (.inr rfl) rfl rfl
  · exact goes_quiet (.inl hrunning) rfl rfl
  · exact goes_quiet (.inl hrunning) rfl rfl
  · split
    · exact ⟨.inl hrunning, rfl, List.forall_mem_singleton.mpr (.enableThread false)⟩
    · exact goes_quiet (.inl hrunning) rfl rfl

theorem connect_goes (hrunning : D.phase = .running) (creds : WirelessCreds) (answers : ThreadAnswers)
    (poll : Poll n) (polling : ThreadAnswers) : Goes D (D.connect creds answers poll polling) := by
  unfold Driver.connect
  split
  · exact goes_quiet (.inl hrunning) rfl rfl
  · rename_i datasetTlv
    split
    · exact goes_quiet (.inl hrunning) rfl rfl
    have hfirst : ∀ op ∈ [ThreadOp.enableThread false, .setTod datasetTlv], Operates D.sed op :=
      List.forall_mem_cons.mpr ⟨.enableThread false, List.forall_mem_singleton.mpr (.setTod datasetTlv)⟩
    have hthen : ∀ op ∈ [ThreadOp.enableThread false, .setTod datasetTlv, .enableThread true],
        Operates D.sed op :=
      List.forall_mem_append.mpr ⟨hfirst, List.forall_mem_singleton.mpr (.enableThread true)⟩
    dsimp only
    split
    · exact ⟨.inl hrunning, rfl, hfirst⟩
    · split
      · exact ⟨.inl hrunning, rfl, hthen⟩
      · have hpolled := poll_goes (D := { D with
          thread := ((D.thread.call answers (.enableThread false)).apply (.setTod datasetTlv)).apply
            (.enableThread true) }) hrunning poll polling
        refine ⟨hpolled.phase, hpolled.sed, ?_⟩
        rw [List.filterMap_append]
        exact List.forall_mem_append.mpr ⟨hthen, hpolled.operates⟩

theorem scanPoll_goes (hrunning : D.phase = .running) (poll : ScanPoll) : Goes D (D.scanPoll poll) := by
  unfold Driver.scanPoll
  split
  · exact goes_quiet (.inl hrunning) rfl rfl
  · exact goes_quiet (.inl hrunning) rfl rfl
  · exact goes_quiet (.inl hrunning) rfl rfl

theorem scan_goes (hrunning : D.phase = .running) (started : Except EspError Unit) (poll : ScanPoll) :
    Goes D (D.scan started poll) := by
  unfold Driver.scan
  split
  · exact goes_quiet (.inl hrunning) rfl rfl
  · split
    · exact ⟨.inl hrunning, rfl, List.forall_mem_singleton.mpr .scan⟩
    · have hpolled := scanPoll_goes hrunning poll
      exact ⟨hpolled.phase, hpolled.sed, List.forall_mem_cons.mpr ⟨.scan, hpolled.operates⟩⟩

theorem fetch_goes (hrunning : D.phase = .running) (role : Except EspError Role) (netif : EspNetif n) :
    Goes D (D.fetch role netif) := by
  unfold Driver.fetch
  split
  · exact goes_quiet (.inl hrunning) rfl rfl
  · split
    · exact goes_quiet (.inr rfl) rfl rfl
    · dsimp only
      split
      · exact goes_quiet (.inl hrunning) rfl rfl
      · exact goes_quiet (.inl hrunning) rfl rfl

theorem icd_runs [DecidableEq μ] (hrunning : D.phase = .running) (params : IcdNetParams μ)
    (answers : ThreadAnswers) : Runs D (.icd params answers : Step μ n) (D.icd params answers) := by
  unfold Driver.icd
  split
  · exact Goes.runs (goes_quiet (.inl hrunning) rfl rfl)
  · rename_i configured hsed
    have hops : ∀ op ∈ List.map ThreadOp.ot ((⟨D.thread.timings, D.applied, none⟩ : RunIcd μ).step
        ⟨params, fun call => answers (.ot call)⟩).2, Operates D.sed op := by
      intro op hop
      obtain ⟨call, hcall, rfl⟩ := List.mem_map.mp hop
      apply Operates.ot call (RunIcd.times_step _ _ call hcall)
      rw [hsed]
      exact Option.some_ne_none configured
    dsimp only
    split
    · exact .goes _ (.inl hrunning) rfl (calls_made answers _) hops
    · rename_i e hended
      refine .ends _ _ rfl rfl ?_ hops (.failed params answers _ e rfl hended)
      rw [List.filterMap_append, calls_made]
      rfl

theorem runs_step [DecidableEq μ] (hrunning : D.phase = .running) (s : Step μ n) : Runs D s (D.step s) := by
  have hidle : Goes D (D, ([] : List Obs)) := goes_quiet (.inl hrunning) rfl rfl
  cases s with
  | setUp created icd answers =>
      simp only [Driver.step, hrunning]
      exact hidle.runs
  | connect creds answers poll polling =>
      simp only [Driver.step, hrunning]
      exact (connect_goes hrunning creds answers poll polling).runs
  | poll poll answers =>
      simp only [Driver.step, hrunning]
      split
      · exact (poll_goes hrunning poll answers).runs
      · exact hidle.runs
  | dropConnect =>
      simp only [Driver.step, hrunning]
      split
      · exact Goes.runs (goes_quiet (.inl rfl) rfl rfl)
      · exact hidle.runs
  | scan started poll =>
      simp only [Driver.step, hrunning]
      exact (scan_goes hrunning started poll).runs
  | scanPoll poll =>
      simp only [Driver.step, hrunning]
      split
      · exact (scanPoll_goes hrunning poll).runs
      · exact hidle.runs
  | dropScan =>
      simp only [Driver.step, hrunning]
      split
      · exact Goes.runs (goes_quiet (.inl rfl) rfl rfl)
      · exact hidle.runs
  | fetch role netif =>
      simp only [Driver.step, hrunning]
      exact (fetch_goes hrunning role netif).runs
  | icd params answers =>
      simp only [Driver.step, hrunning]
      exact icd_runs hrunning params answers
  | returns result answers =>
      simp only [Driver.step, hrunning]
      exact .ends [] _ rfl rfl (calls_made answers _) (List.forall_mem_nil _) (.returned result answers)
  | drop answers =>
      simp only [Driver.step, hrunning]
      exact .ends [] _ rfl rfl (calls_made answers _) (List.forall_mem_nil _) (.dropped answers)

/-- Nothing happens once the run has ended. -/
theorem step_of_over [DecidableEq μ] (hover : (∃ result, D.phase = .ended result) ∨ D.phase = .panicked)
    (s : Step μ n) : D.step s = (D, []) := by
  rcases hover with ⟨result, hended⟩ | hpanicked
  · simp only [Driver.step, hended]
  · simp only [Driver.step, hpanicked]

end Runs

/-! ### Timings are programmed on a sleepy link -/

/-- The link mode is set to that of a sleepy end device. -/
def Obs.SetsSleepy : Obs → Prop
  | .call (.ot (.setLinkMode rxOnWhenIdle ftd fullNetworkData)) (.ok ()) =>
      (⟨rxOnWhenIdle, ftd, fullNetworkData⟩ : LinkMode) = .sleepy
  | _ => False

/-- The link mode is set to another one. -/
def Obs.SetsOther : Obs → Prop
  | .call (.ot (.setLinkMode rxOnWhenIdle ftd fullNetworkData)) (.ok ()) =>
      (⟨rxOnWhenIdle, ftd, fullNetworkData⟩ : LinkMode) ≠ .sleepy
  | _ => False

/-- A call that is to program a timing, whatever it comes to. -/
def Obs.Times : Obs → Prop
  | .call (.ot c) _ => c.Times
  | _ => False

/-- The link mode that was set last is that of a sleepy end device. -/
def SleepyLink (h : List Obs) : Prop := Pending Obs.SetsSleepy Obs.SetsOther h

def TimedOnSleepyLink (before : List Obs) (o : Obs) : Prop := o.Times → SleepyLink before

section Timed

variable {D : Driver μ} {h obs : List Obs} {answers : ThreadAnswers}

theorem SleepyLink.append (hsleepy : SleepyLink h) (hnone : ∀ o ∈ obs, ¬ o.SetsOther) :
    SleepyLink (h ++ obs) :=
  pending_append_iff.mpr (.inr ⟨hsleepy, hnone⟩)

/-- Outputs may follow if none of them makes the link another one, and it is sleepy if any of them is to
program a timing. -/
theorem timed_append (hall : Throughout TimedOnSleepyLink h) (hnone : ∀ o ∈ obs, ¬ o.SetsOther)
    (htimes : (∃ o ∈ obs, o.Times) → SleepyLink h) : Throughout TimedOnSleepyLink (h ++ obs) := by
  apply throughout_append hall
  intro o ho later hlater htime
  apply (htimes ⟨o, ho, htime⟩).append
  exact fun o' ho' => hnone o' (hlater.subset ho')

theorem not_setsOther_setUp {icd : Option (IcdNetParams μ)} :
    ∀ op ∈ setUpOps icd, ∀ result, ¬ (Obs.call op result).SetsOther := by
  have hlink : ∀ result, ¬ (Obs.call (.ot (.setLinkMode false false false)) result).SetsOther := by
    intro result
    cases result with
    | error e => exact id
    | ok u => exact fun hother => hother rfl
  cases icd with
  | none => simp [setUpOps, sedOps, Obs.SetsOther]
  | some params => simpa [setUpOps, sedOps, icdCalls, Obs.SetsOther] using hlink

/-- Once the link mode is set, it is that of a sleepy end device as long as none other is. -/
theorem sleepyLink_of_set {rest : List ThreadOp}
    (hlink : answers (.ot (.setLinkMode false false false)) = .ok ())
    (hother : ∀ o ∈ made answers rest, ¬ o.SetsOther) :
    SleepyLink (h ++ made answers (.setTod [] :: .ot (.setLinkMode false false false) :: rest)) := by
  refine ⟨h ++ [.call (.setTod []) (answers (.setTod []))],
    .call (.ot (.setLinkMode false false false)) (answers (.ot (.setLinkMode false false false))),
    made answers rest, ?_, ?_, hother⟩
  · rw [List.append_assoc]
    rfl
  · rw [hlink]
    rfl

/-- With an ICD the link mode is set before any timing is. -/
theorem timed_sedOps {params : IcdNetParams μ} {calls : List ThreadOp}
    (hcalls : calls <+: setUpOps (some params))
    (hafter : ∀ xs op ys, calls = xs ++ op :: ys → ∀ op' ∈ xs, answers op' = .ok ())
    (hother : ∀ o ∈ made answers calls, ¬ o.SetsOther) (hall : Throughout TimedOnSleepyLink h) :
    Throughout TimedOnSleepyLink (h ++ made answers calls) := by
  match calls, hcalls with
  | [], _ => rwa [made, List.map_nil, List.append_nil]
  | [op], hcalls =>
      obtain ⟨hop, -⟩ := List.cons_prefix_cons.mp hcalls
      rw [hop]
      exact throughout_concat.mpr ⟨hall, fun htime => htime.elim⟩
  | op :: link :: rest, hcalls =>
      obtain ⟨hop, hcalls⟩ := List.cons_prefix_cons.mp hcalls
      obtain ⟨hlink, -⟩ := List.cons_prefix_cons.mp hcalls
      subst hop hlink
      have hrest : ∀ o ∈ made answers rest, ¬ o.SetsOther :=
        fun o ho => hother o (List.mem_cons_of_mem _ (List.mem_cons_of_mem _ ho))
      have hfirst : Throughout TimedOnSleepyLink
          (h ++ made answers [.setTod [], .ot (.setLinkMode false false false)]) := by
        rw [show h ++ made answers [.setTod [], .ot (.setLinkMode false false false)] =
          h ++ [_] ++ [_] from (List.append_assoc h [_] [_]).symm]
        exact throughout_concat.mpr ⟨throughout_concat.mpr ⟨hall, fun htime => htime.elim⟩,
          fun htime => htime.elim⟩
      have hshape : h ++ made answers (.setTod [] :: .ot (.setLinkMode false false false) :: rest) =
          h ++ made answers [.setTod [], .ot (.setLinkMode false false false)] ++ made answers rest :=
        (List.append_assoc h (made answers [.setTod [], .ot (.setLinkMode false false false)])
          (made answers rest)).symm
      rw [hshape]
      apply timed_append hfirst hrest
      rintro ⟨o, ho, -⟩
      obtain ⟨op, hop, -⟩ := List.mem_map.mp ho
      obtain ⟨xs, ys, rfl⟩ := List.append_of_mem hop
      apply sleepyLink_of_set
      · exact hafter (.setTod [] :: .ot (.setLinkMode false false false) :: xs) op ys rfl _
          (List.mem_cons_of_mem _ List.mem_cons_self)
      · exact List.forall_mem_nil _

/-- The set-up programs the timings once the link mode is set, and only with an ICD. -/
theorem timed_setUp {icd : Option (IcdNetParams μ)} {o : OpenThread} {attempted : Attempt}
    (hattempted : Attempted answers o (setUpOps icd) attempted) (hall : Throughout TimedOnSleepyLink h) :
    Throughout TimedOnSleepyLink (h ++ made answers attempted.calls) ∧
      (attempted.result = .ok () → icd ≠ none → SleepyLink (h ++ made answers attempted.calls)) := by
  have hother : ∀ o ∈ made answers attempted.calls, ¬ o.SetsOther :=
    List.forall_mem_map.mpr fun op hop => not_setsOther_setUp op (hattempted.calls_prefix.subset hop) _
  cases icd with
  | none =>
      refine ⟨timed_append hall hother ?_, fun _ hicd => absurd rfl hicd⟩
      have hnever : ∀ op ∈ setUpOps (none : Option (IcdNetParams μ)), ¬ (Obs.call op (answers op)).Times := by
        simp [setUpOps, sedOps, Obs.Times]
      rintro ⟨o, ho, htime⟩
      obtain ⟨op, hop, rfl⟩ := List.mem_map.mp ho
      exact absurd htime (hnever op (hattempted.calls_prefix.subset hop))
  | some params =>
      refine ⟨timed_sedOps hattempted.calls_prefix hattempted.made_after hother hall, fun hok _ => ?_⟩
      cases hattempted with
      | ok hsucceed =>
          apply sleepyLink_of_set
          · exact hsucceed _ (List.mem_cons_of_mem _ List.mem_cons_self)
          · exact fun o ho => hother o (List.mem_cons_of_mem _ (List.mem_cons_of_mem _ ho))
      | error before op later e hops hsucceed hfails => cases hok

theorem Operates.quiet {icd : Option (IcdNetParams μ)} {op : ThreadOp} (h : Operates icd op)
    (result : Except EspError Unit) :
    ¬ (Obs.call op result).SetsOther ∧ ((Obs.call op result).Times → icd ≠ none) := by
  cases h with
  | enableThread enable => exact ⟨id, fun htime => htime.elim⟩
  | setTod datasetTlv => exact ⟨id, fun htime => htime.elim⟩
  | scan => exact ⟨id, fun htime => htime.elim⟩
  | ot call htimes hicd =>
      refine ⟨?_, fun _ => hicd⟩
      cases call with
      | setLinkMode rxOnWhenIdle ftd fullNetworkData => exact htimes.elim
      | _ => exact id

/-- No step sets another link mode while the driver runs, and it programs timings only with an ICD. -/
theorem Runs.quiet {s : Step μ n} {next : Driver μ × List Obs} (h : Runs D s next) :
    next.1.sed = D.sed ∧ next.1.phase ≠ .idle ∧
      ∀ o ∈ next.2, ¬ o.SetsOther ∧ (o.Times → D.sed ≠ none) := by
  have hquiet : ∀ {ops : List ThreadOp}, next.2.filterMap Obs.call? = ops →
      (∀ op ∈ ops, ∀ result, ¬ (Obs.call op result).SetsOther ∧ ((Obs.call op result).Times → D.sed ≠ none)) →
      ∀ o ∈ next.2, ¬ o.SetsOther ∧ (o.Times → D.sed ≠ none) := by
    intro ops hcalls hops o ho
    cases o with
    | call op result =>
        apply hops op
        rw [← hcalls]
        exact List.mem_filterMap.mpr ⟨_, ho, rfl⟩
    | _ => exact ⟨id, fun htime => htime.elim⟩
  cases h with
  | goes ops hphase hsed hcalls hops =>
      refine ⟨hsed, ?_, hquiet hcalls fun op hop result => (hops op hop).quiet result⟩
      rcases hphase with hphase | hphase <;> rw [hphase] <;> exact nofun
  | ends ops result hphase hsed hcalls hops hends =>
      have hrest : ∀ op ∈ quiesceOps, ∀ result, ¬ (Obs.call op result).SetsOther ∧
          ((Obs.call op result).Times → D.sed ≠ none) := by
        simp [quiesceOps, Obs.SetsOther, Obs.Times]
      refine ⟨hsed, ?_, hquiet hcalls (List.forall_mem_append.mpr
        ⟨fun op hop result => (hops op hop).quiet result, hrest⟩)⟩
      rw [hphase]
      exact nofun

/-- What the timings of a run depend on. -/
structure Timely (h : List Obs) (D : Driver μ) : Prop where
  timed : Throughout TimedOnSleepyLink h
  sleepy : D.sed ≠ none → SleepyLink h
  fresh : D.phase = .idle → D.sed = none

theorem Timely.setUp (ht : Timely h D) (hidle : D.phase = .idle) (created : Except EspError Unit)
    (icd : Option (IcdNetParams μ)) :
    Timely (h ++ (D.setUp created icd answers).2) (D.setUp created icd answers).1 := by
  have hended : ∀ {o : OpenThread} {phase : Phase} {obs : List Obs}, phase ≠ .idle →
      Throughout TimedOnSleepyLink (h ++ obs) → Timely (h ++ obs) { D with thread := o, phase } :=
    fun hover htimed => ⟨htimed, fun hsed => absurd (ht.fresh hidle) hsed, fun hphase => absurd hphase hover⟩
  unfold Driver.setUp
  split
  · refine hended (by exact nofun) ?_
    rw [List.append_nil]
    exact ht.timed
  · obtain ⟨htimed, hsleepy⟩ := timed_setUp (attempted answers (setUpOps icd) D.thread) ht.timed
    dsimp only
    split
    · exact hended (by exact nofun) htimed
    · rename_i hok
      refine ⟨htimed, hsleepy hok, fun hphase => ?_⟩
      cases hphase

theorem Timely.step [DecidableEq μ] (ht : Timely h D) (s : Step μ n) :
    Timely (h ++ (D.step s).2) (D.step s).1 := by
  have hsame : Timely (h ++ []) D := by
    rw [List.append_nil]
    exact ht
  cases hphase : D.phase with
  | idle =>
      cases s with
      | setUp created icd answers =>
          simp only [Driver.step, hphase]
          exact ht.setUp hphase created icd
      | drop answers =>
          simp only [Driver.step, hphase]
          exact ⟨hsame.timed, hsame.sleepy, fun hidle => by cases hidle⟩
      | _ =>
          simp only [Driver.step, hphase]
          exact hsame
  | running =>
      obtain ⟨hsed, hbegun, hquiet⟩ := (runs_step hphase s).quiet
      refine ⟨?_, ?_, fun hidle => absurd hidle hbegun⟩
      · apply timed_append ht.timed fun o ho => (hquiet o ho).1
        rintro ⟨o, ho, htime⟩
        exact ht.sleepy ((hquiet o ho).2 htime)
      · rw [hsed]
        exact fun hicd => (ht.sleepy hicd).append fun o ho => (hquiet o ho).1
  | ended result =>
      rw [step_of_over (.inl ⟨result, hphase⟩)]
      exact hsame
  | panicked =>
      rw [step_of_over (.inr hphase)]
      exact hsame

end Timed

/-- A `connect` supplied this dataset. -/
def Supplied (steps : List (Step μ n)) (datasetTlv : Bytes) : Prop :=
  ∃ answers poll polling, .connect (.thread datasetTlv) answers poll polling ∈ steps

theorem supplied_of_mem {steps : List (Step μ n)} {datasetTlv : Bytes}
    (h : datasetTlv ∈ steps.filterMap Step.supplied) : Supplied steps datasetTlv := by
  obtain ⟨s, hs, hsupplied⟩ := List.mem_filterMap.mp h
  cases s with
  | connect creds answers poll polling =>
      cases creds with
      | wifi ssid pass => cases hsupplied
      | thread datasetTlv' =>
          rw [← Option.some.inj hsupplied]
          exact ⟨answers, poll, polling, hs⟩
  | _ => cases hsupplied

/-- **Thread is enabled only with a dataset that a `connect` of this run supplied**, never with the persisted
one, and only once it was started; with an ICD only ever as a sleepy end device. As long as the driver
runs, what the set-up did stays in effect, the persisted dataset is gone, and the timings are those of the
ICD, which are only ever programmed while the link mode is that of a sleepy end device. -/
theorem enabled_only_as_connected [DecidableEq μ] (persisted : Bytes) (linkMode : LinkMode)
    (timings : Timings) (steps : List (Step μ n)) :
    let D := after Driver.step (new persisted linkMode timings) steps
    (D.thread.enabled = true → D.thread.started = true ∧ Supplied steps D.thread.dataset) ∧
    (∀ params, D.sed = some params → D.thread.linkMode = .sleepy) ∧
    (D.phase = .running → D.Up ∧ (D.thread.dataset = [] ∨ Supplied steps D.thread.dataset)) ∧
    Throughout TimedOnSleepyLink (outputs Driver.step (new persisted linkMode timings) steps) := by
  intro D
  have hsafe : Safe (steps.filterMap Step.supplied) D := by
    refine invariant_after (I := Safe (steps.filterMap Step.supplied)) (G := fun _ s => s ∈ steps)
      (fun D s hD hs => hD.step s fun datasetTlv hsupplied => ?_) (safe_new persisted linkMode timings)
      (along_of_forall fun s hs => hs)
    exact List.mem_filterMap.mpr ⟨s, hs, hsupplied⟩
  have htimely := run_induction (Driver.step : Driver μ → Step μ n → _)
    (I := fun history D _ => Timely history D) (fun history D s _ ht => ht.step s)
    (h := []) (s := new persisted linkMode timings) (t := steps)
    ⟨throughout_nil _, fun hsed => absurd rfl hsed, fun _ => rfl⟩
  refine ⟨fun hon => ⟨hsafe.started hon, supplied_of_mem (hsafe.dataset hon)⟩, hsafe.sleepy,
    fun hrunning => ⟨hsafe.running hrunning, ?_⟩, htimely.timed⟩
  exact (hsafe.erased hrunning).imp_right supplied_of_mem

/-! ### The course of a run -/

/-- The calls of a run from `D₀` that has come to `D`, by where it is. -/
inductive Course [DecidableEq μ] (D₀ : Driver μ) (steps : List (Step μ n)) (D : Driver μ) :
    List ThreadOp → Prop where
  | idle (hphase : D.phase = .idle) (hipv6 : D.thread.ipv6 = false) : Course D₀ steps D []
  /-- It was dropped before it began, or there is no OpenThread. -/
  | never (result : Option (Except ErrorCode Unit)) (hphase : D.phase = .ended result)
      (hipv6 : D.thread.ipv6 = false) : Course D₀ steps D []
  /-- A call of the set-up failed. -/
  | refused (icd : Option (IcdNetParams μ)) (answers : ThreadAnswers)
      (hsetUp : .setUp (.ok ()) icd answers ∈ steps) (before : List ThreadOp) (op : ThreadOp)
      (later : List ThreadOp) (e : EspError) (hphase : D.phase = .ended (some (.error (toNetError e))))
      (hops : setUpOps icd = before ++ op :: later) (hfails : answers op = .error e)
      (hipv6 : D.thread.ipv6 = true ↔ .enableIpv6 true ∈ before) : Course D₀ steps D (before ++ [op])
  | operating (icd : Option (IcdNetParams μ)) (answers : ThreadAnswers)
      (hsetUp : .setUp (.ok ()) icd answers ∈ steps) (ops : List ThreadOp)
      (hphase : D.phase = .running ∨ D.phase = .panicked) (hsed : D.sed = icd)
      (hops : ∀ op ∈ ops, Operates icd op) : Course D₀ steps D (setUpOps icd ++ ops)
  /-- A step has ended the run. -/
  | rested (icd : Option (IcdNetParams μ)) (answers : ThreadAnswers)
      (hsetUp : .setUp (.ok ()) icd answers ∈ steps) (ops : List ThreadOp)
      (hops : ∀ op ∈ ops, Operates icd op) (before : List (Step μ n)) (s : Step μ n)
      (later : List (Step μ n)) (hsteps : steps = before ++ s :: later)
      (hrunning : (after Driver.step D₀ before).phase = .running)
      (result : Option (Except ErrorCode Unit)) (hphase : D.phase = .ended result)
      (hends : Ends (after Driver.step D₀ before) s result D.thread) :
      Course D₀ steps D (setUpOps icd ++ ops ++ quiesceOps)

section Course

variable [DecidableEq μ] {D₀ D : Driver μ} {steps : List (Step μ n)} {calls : List ThreadOp}

/-- A step that does nothing. -/
theorem Course.later (h : Course D₀ steps D calls) (s : Step μ n) : Course D₀ (steps ++ [s]) D calls := by
  cases h with
  | idle hphase hipv6 => exact .idle hphase hipv6
  | never result hphase hipv6 => exact .never result hphase hipv6
  | refused icd answers hsetUp before op later e hphase hops hfails hipv6 =>
      exact .refused icd answers (List.mem_append_left _ hsetUp) before op later e hphase hops hfails hipv6
  | operating icd answers hsetUp ops hphase hsed hops =>
      exact .operating icd answers (List.mem_append_left _ hsetUp) ops hphase hsed hops
  | rested icd answers hsetUp ops hops before s' later hsteps hrunning result hphase hends =>
      apply Course.rested icd answers (List.mem_append_left _ hsetUp) ops hops before s' (later ++ [s]) _
        hrunning result hphase hends
      rw [hsteps, List.append_assoc]
      rfl

theorem course_setUp (hipv6 : D.thread.ipv6 = false) (created : Except EspError Unit)
    (icd : Option (IcdNetParams μ)) (answers : ThreadAnswers) :
    Course D₀ (steps ++ [.setUp created icd answers]) (D.setUp created icd answers).1
      ((D.setUp created icd answers).2.filterMap Obs.call?) := by
  have hlast : ∀ {s : Step μ n}, s ∈ steps ++ [s] := List.mem_append_right _ List.mem_cons_self
  unfold Driver.setUp
  split
  · exact .never _ rfl hipv6
  · have hattempted := attempted answers (setUpOps icd) D.thread
    generalize attempt answers (setUpOps icd) D.thread = result at hattempted ⊢
    cases hattempted with
    | ok hall =>
        dsimp only
        rw [calls_made, ← List.append_nil (setUpOps icd)]
        exact .operating icd answers hlast [] (.inl rfl) rfl (List.forall_mem_nil _)
    | error before op later e hops hall hfails =>
        dsimp only
        rw [calls_made]
        refine .refused icd answers hlast before op later e rfl hops hfails ?_
        refine (ipv6_foldl (fun op' hop' => mem_setUpOps op' (hops ▸ List.mem_append_left _ hop'))
          D.thread).trans (or_iff_right ?_)
        rw [hipv6]
        exact Bool.false_ne_true

theorem Course.step (h : Course D₀ steps (after Driver.step D₀ steps) calls) (s : Step μ n) :
    let next := (after Driver.step D₀ steps).step s
    Course D₀ (steps ++ [s]) next.1 (calls ++ next.2.filterMap Obs.call?) := by
  generalize hD : after Driver.step D₀ steps = D at h ⊢
  intro next
  have hover : (∃ result, D.phase = .ended result) ∨ D.phase = .panicked →
      Course D₀ (steps ++ [s]) next.1 (calls ++ next.2.filterMap Obs.call?) := by
    intro hover
    rw [show next = (D, []) from step_of_over hover s, List.filterMap_nil, List.append_nil]
    exact h.later s
  cases h with
  | idle hphase hipv6 =>
      cases s with
      | setUp created icd answers =>
          simp only [next, Driver.step, hphase]
          exact course_setUp hipv6 created icd answers
      | drop answers =>
          simp only [next, Driver.step, hphase]
          exact .never none rfl hipv6
      | _ =>
          simp only [next, Driver.step, hphase]
          exact .idle (by assumption) hipv6
  | never result hphase hipv6 => exact hover (.inl ⟨result, hphase⟩)
  | refused icd answers hsetUp before op later e hphase hops hfails hipv6 => exact hover (.inl ⟨_, hphase⟩)
  | operating icd answers hsetUp ops hphase hsed hops =>
      have hsetUp' := List.mem_append_left [s] hsetUp
      rcases hphase with hrunning | hpanicked
      · cases runs_step hrunning s with
        | goes ops' hphase' hsed' hcalls hops' =>
            rw [hcalls, List.append_assoc]
            rw [hsed] at hops'
            exact .operating icd answers hsetUp' _ hphase' (hsed'.trans hsed)
              (List.forall_mem_append.mpr ⟨hops, hops'⟩)
        | ends ops' result hphase' hsed' hcalls hops' hends =>
            rw [hcalls, List.append_assoc, ← List.append_assoc ops, ← List.append_assoc]
            rw [hsed] at hops'
            refine .rested icd answers hsetUp' _ (List.forall_mem_append.mpr ⟨hops, hops'⟩) steps s [] rfl
              ?_ result hphase' ?_
            · rw [hD]
              exact hrunning
            · rw [hD]
              exact hends
      · exact hover (.inr hpanicked)
  | rested icd answers hsetUp ops hops before s' later hsteps hrunning result hphase hends =>
      exact hover (.inl ⟨_, hphase⟩)

end Course

/-- **The course of a run**: the set-up up to the first call that fails, or all of it, then the calls of
`connect`, of `scan` and of the ICD, and in the end the calls that put OpenThread to rest, whichever way
the run ends; what these come to decides how OpenThread is left. Only a set-up that fails after it has
enabled IPv6 leaves it enabled without them. -/
theorem course_run [DecidableEq μ] (persisted : Bytes) (linkMode : LinkMode) (timings : Timings)
    (steps : List (Step μ n)) :
    Course (new persisted linkMode timings) steps
      (after Driver.step (new persisted linkMode timings) steps)
      ((outputs Driver.step (new persisted linkMode timings) steps).filterMap Obs.call?) := by
  induction steps using List.reverseRecOn with
  | nil => exact .idle rfl rfl
  | append_singleton steps s ih =>
      rw [after_append, outputs_append, List.filterMap_append]
      simpa only [after_cons, after_nil, outputs_cons, outputs_nil, List.append_nil] using ih.step s

end Driver

end EspIdfMatter.Thread
