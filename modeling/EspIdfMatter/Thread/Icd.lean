import EspIdfMatter.Library.Machine
import EspIdfMatter.Library.Saturating
import EspIdfMatter.Thread.Srp

/-! A sleepy end device: the timings that are programmed into OpenThread, and how they follow the polling
interval of the ICD. Intervals are in milliseconds, timeouts in seconds. -/

namespace EspIdfMatter.Thread

open Library Library.Machine

/-! ### The timeouts -/

/-- OpenThread's default child timeout, in seconds -/
def childTimeoutDefaultS : BitVec 32 := 240

/-- The margin added on top of the slowest polling interval when sizing the child timeout -/
def childTimeoutMarginS : BitVec 32 := 30

/-- OpenThread's default child-supervision interval, in seconds -/
def childSupervisionIntervalS : BitVec 32 := 129

/-- OpenThread's default child-supervision check timeout, in seconds -/
def childSupervisionCheckTimeoutDefaultS : BitVec 32 := 190

/-- The child timeout that fits a polling interval. -/
def childTimeoutS (pollPeriodMs : BitVec 32) : BitVec 32 :=
  Saturating.max (Saturating.add (Saturating.divCeil pollPeriodMs 1000) childTimeoutMarginS)
    childTimeoutDefaultS

/-- The child-supervision check timeout that matches a polling interval, before it is narrowed. -/
def clampedCheckTimeoutS (pollPeriodMs : BitVec 32) : BitVec 32 :=
  Saturating.clamp
    (Saturating.add childSupervisionIntervalS
      (Saturating.mul (Saturating.divCeil pollPeriodMs 1000) 2))
    childSupervisionCheckTimeoutDefaultS 0xffff

def childSupervisionCheckTimeoutS (pollPeriodMs : BitVec 32) : BitVec 16 :=
  (clampedCheckTimeoutS pollPeriodMs).setWidth 16

/-! ### Programming OpenThread -/

/-- `IcdNetParams` of `rs-matter`. The power mode and the operating mode are only compared. -/
structure IcdNetParams (μ : Type) where
  modes : μ
  pollIntervalMs : BitVec 32
  maxPollIntervalMs : BitVec 32
  deriving DecidableEq

inductive OtCall where
  | setLinkMode (rxOnWhenIdle ftd fullNetworkData : Bool)
  | setPollPeriod (ms : BitVec 32)
  | setChildSupervisionCheckTimeout (s : BitVec 16)
  | setChildTimeout (s : BitVec 32)
  deriving DecidableEq

/-- The call programs a timing. -/
def OtCall.Times : OtCall → Prop
  | .setLinkMode _ _ _ => False
  | _ => True

/-- What the calls come to. -/
abbrev OtDriver := OtCall → Except EspError Unit

/-- The timings that are in effect in OpenThread. -/
structure Timings where
  pollPeriod : BitVec 32
  checkTimeout : BitVec 16
  childTimeout : BitVec 32
  deriving DecidableEq

/-- The effect of a call that succeeds. -/
def Timings.program (t : Timings) : OtCall → Timings
  | .setLinkMode _ _ _ => t
  | .setPollPeriod ms => { t with pollPeriod := ms }
  | .setChildSupervisionCheckTimeout s => { t with checkTimeout := s }
  | .setChildTimeout s => { t with childTimeout := s }

/-- What some calls leave in effect, which of them were made, and how they ended. -/
structure Programmed where
  timings : Timings
  calls : List OtCall
  result : Except ErrorCode Unit

/-- The calls are made in order, up to the first that fails. -/
def program (drv : OtDriver) : List OtCall → Timings → Programmed
  | [], t => ⟨t, [], .ok ()⟩
  | call :: calls, t =>
      match drv call with
      | .error e => ⟨t, [call], .error (toNetError e)⟩
      | .ok () =>
          let rest := program drv calls (t.program call)
          { rest with calls := call :: rest.calls }

variable {μ : Type}

/-- The calls of `apply_icd_params`. -/
def icdCalls (params : IcdNetParams μ) : List OtCall :=
  [.setPollPeriod params.pollIntervalMs,
    .setChildSupervisionCheckTimeout (childSupervisionCheckTimeoutS params.pollIntervalMs),
    .setChildTimeout (childTimeoutS params.maxPollIntervalMs)]

/-- Apply the current ICD polling interval to OpenThread. -/
def applyIcdParams (drv : OtDriver) (params : IcdNetParams μ) (t : Timings) : Programmed :=
  program drv (icdCalls params) t

/-- Configure the node as a Sleepy End Device. -/
def configureSed (drv : OtDriver) (params : IcdNetParams μ) (t : Timings) : Programmed :=
  program drv (.setLinkMode false false false :: icdCalls params) t

/-! ### Following the ICD -/

/-- `run_icd`, with what is in effect and the error that ended it, if one did. -/
structure RunIcd (μ : Type) where
  timings : Timings
  applied : Option (IcdNetParams μ)
  ended : Option ErrorCode

def RunIcd.start (t : Timings) : RunIcd μ where
  timings := t
  applied := none
  ended := none

/-- An iteration: the parameters it reads, and what its calls come to. -/
structure Iteration (μ : Type) where
  params : IcdNetParams μ
  driver : OtDriver

def RunIcd.step [DecidableEq μ] (S : RunIcd μ) (it : Iteration μ) : RunIcd μ × List OtCall :=
  match S.ended with
  | some _ => (S, [])
  | none =>
      if S.applied ≠ some it.params then
        let applied := applyIcdParams it.driver it.params S.timings
        match applied.result with
        | .error e => ({ S with timings := applied.timings, ended := some e }, applied.calls)
        | .ok () =>
            ({ S with timings := applied.timings, applied := some it.params }, applied.calls)
      else
        (S, [])

/-! ### The timeouts as numbers -/

/-- No step of the computation wraps, saturates or truncates. -/
structure Exact (ms : BitVec 32) : Prop where
  rounded : (Saturating.divCeil ms 1000).toNat = ms.toNat ⌈/⌉ 1000
  margin : (Saturating.add (Saturating.divCeil ms 1000) childTimeoutMarginS).toNat =
    ms.toNat ⌈/⌉ 1000 + 30
  doubled : (Saturating.mul (Saturating.divCeil ms 1000) 2).toNat = ms.toNat ⌈/⌉ 1000 * 2
  supervised : (Saturating.add childSupervisionIntervalS
    (Saturating.mul (Saturating.divCeil ms 1000) 2)).toNat = 129 + ms.toNat ⌈/⌉ 1000 * 2
  narrowed : (childSupervisionCheckTimeoutS ms).toNat = (clampedCheckTimeoutS ms).toNat

theorem ceilDiv_thousand (n : Nat) : n ⌈/⌉ 1000 = (n + 999) / 1000 :=
  Nat.ceilDiv_eq_add_pred_div n 1000

theorem toNat_clampedCheckTimeoutS {ms : BitVec 32}
    (hsupervised : (Saturating.add childSupervisionIntervalS
      (Saturating.mul (Saturating.divCeil ms 1000) 2)).toNat = 129 + ms.toNat ⌈/⌉ 1000 * 2) :
    (clampedCheckTimeoutS ms).toNat = 190 ⊔ (129 + ms.toNat ⌈/⌉ 1000 * 2) ⊓ 65535 := by
  unfold clampedCheckTimeoutS
  rw [Saturating.toNat_clamp _ (by decide), hsupervised]
  rfl

theorem exact (ms : BitVec 32) : Exact ms := by
  have hms := ms.isLt
  have hrounded : (Saturating.divCeil ms 1000).toNat = ms.toNat ⌈/⌉ 1000 :=
    Saturating.toNat_divCeil ms (by decide)
  have hdoubled : (Saturating.mul (Saturating.divCeil ms 1000) 2).toNat = ms.toNat ⌈/⌉ 1000 * 2 := by
    rw [Saturating.toNat_mul, hrounded, ceilDiv_thousand, show (2 : BitVec 32).toNat = 2 from rfl]
    omega
  have hsupervised : (Saturating.add childSupervisionIntervalS
      (Saturating.mul (Saturating.divCeil ms 1000) 2)).toNat = 129 + ms.toNat ⌈/⌉ 1000 * 2 := by
    rw [Saturating.toNat_add, hdoubled, ceilDiv_thousand,
      show childSupervisionIntervalS.toNat = 129 from rfl]
    omega
  refine ⟨hrounded, ?_, hdoubled, hsupervised, ?_⟩
  · rw [Saturating.toNat_add, hrounded, ceilDiv_thousand,
      show childTimeoutMarginS.toNat = 30 from rfl]
    omega
  · rw [childSupervisionCheckTimeoutS, BitVec.toNat_setWidth, toNat_clampedCheckTimeoutS hsupervised]
    omega

theorem toNat_childTimeoutS (ms : BitVec 32) :
    (childTimeoutS ms).toNat = (ms.toNat ⌈/⌉ 1000 + 30) ⊔ 240 := by
  rw [childTimeoutS, Saturating.toNat_max, (exact ms).margin]
  rfl

theorem toNat_childSupervisionCheckTimeoutS (ms : BitVec 32) :
    (childSupervisionCheckTimeoutS ms).toNat = 190 ⊔ (129 + ms.toNat ⌈/⌉ 1000 * 2) ⊓ 65535 := by
  rw [(exact ms).narrowed, toNat_clampedCheckTimeoutS (exact ms).supervised]

/-- The child timeout covers three polling intervals only if the default does. -/
theorem childTimeoutS_covers_iff (ms : BitVec 32) :
    3 * ms.toNat ≤ (childTimeoutS ms).toNat * 1000 ↔ ms.toNat ≤ 80000 := by
  rw [toNat_childTimeoutS, ceilDiv_thousand]
  omega

/-! ### What is in effect -/

/-- The timings that some parameters ask for. -/
def Timings.ofParams (params : IcdNetParams μ) : Timings where
  pollPeriod := params.pollIntervalMs
  checkTimeout := childSupervisionCheckTimeoutS params.pollIntervalMs
  childTimeout := childTimeoutS params.maxPollIntervalMs

theorem program_ok (drv : OtDriver) (calls : List OtCall) (t : Timings)
    (hok : (program drv calls t).result = .ok ()) :
    (program drv calls t).timings = calls.foldl Timings.program t ∧
      (program drv calls t).calls = calls := by
  induction calls generalizing t with
  | nil => exact ⟨rfl, rfl⟩
  | cons call calls ih =>
      unfold program at hok ⊢
      split at hok
      · cases hok
      · obtain ⟨htimings, hcalls⟩ := ih _ hok
        exact ⟨htimings, congrArg (call :: ·) hcalls⟩

theorem program_calls_subset (drv : OtDriver) (calls : List OtCall) (t : Timings) :
    (program drv calls t).calls ⊆ calls := by
  induction calls generalizing t with
  | nil => exact List.Subset.refl []
  | cons call calls ih =>
      unfold program
      split
      · exact List.cons_subset_cons call (List.nil_subset calls)
      · exact List.cons_subset_cons call (ih _)

theorem times_icdCalls (params : IcdNetParams μ) : ∀ call ∈ icdCalls params, call.Times := by
  simp [icdCalls, OtCall.Times]

/-- `run_icd` sets no link mode. -/
theorem RunIcd.times_step [DecidableEq μ] (S : RunIcd μ) (it : Iteration μ) :
    ∀ call ∈ (S.step it).2, call.Times := by
  have hcalls : ∀ call ∈ (applyIcdParams it.driver it.params S.timings).calls, call.Times :=
    fun call hcall => times_icdCalls it.params call (program_calls_subset _ _ _ hcall)
  unfold RunIcd.step
  split
  · exact List.forall_mem_nil _
  · split
    · dsimp only
      split
      · exact hcalls
      · exact hcalls
    · exact List.forall_mem_nil _

theorem applyIcdParams_ok {drv : OtDriver} {params : IcdNetParams μ} {t : Timings}
    (hok : (applyIcdParams drv params t).result = .ok ()) :
    (applyIcdParams drv params t).timings = .ofParams params ∧
      (applyIcdParams drv params t).calls = icdCalls params :=
  program_ok drv (icdCalls params) t hok

theorem configureSed_ok {drv : OtDriver} {params : IcdNetParams μ} {t : Timings}
    (hok : (configureSed drv params t).result = .ok ()) :
    (configureSed drv params t).timings = .ofParams params :=
  (program_ok drv _ t hok).1

/-! ### Timings that fit -/

/-- Matter's longest idle period, in milliseconds -/
def longestIdlePeriodMs : Nat := 64800000

/-- The polling interval is at most the slowest one. -/
structure IcdNetParams.Valid (params : IcdNetParams μ) : Prop where
  slowest : params.pollIntervalMs.toNat ≤ params.maxPollIntervalMs.toNat
  bounded : params.maxPollIntervalMs.toNat ≤ longestIdlePeriodMs

/-- The timings in effect are those that the parameters ask for, and they fit the polling. -/
structure Timings.Fit (t : Timings) (params : IcdNetParams μ) : Prop where
  pollPeriod : t.pollPeriod = params.pollIntervalMs
  checkTimeout : t.checkTimeout.toNat =
    190 ⊔ (129 + params.pollIntervalMs.toNat ⌈/⌉ 1000 * 2) ⊓ 65535
  childTimeout : t.childTimeout.toNat = (params.maxPollIntervalMs.toNat ⌈/⌉ 1000 + 30) ⊔ 240
  childTimeout_exceeds : t.pollPeriod.toNat + 30000 ≤ t.childTimeout.toNat * 1000
  childTimeout_default : 240 ≤ t.childTimeout.toNat
  checkTimeout_default : 190 ≤ t.checkTimeout.toNat
  checkTimeout_exceeds : 129000 + t.pollPeriod.toNat ≤ t.checkTimeout.toNat * 1000

theorem Timings.fit_ofParams {params : IcdNetParams μ} (hvalid : params.Valid) :
    (Timings.ofParams params).Fit params := by
  have hslowest := hvalid.slowest
  have hbounded := hvalid.bounded
  have hcheck := toNat_childSupervisionCheckTimeoutS params.pollIntervalMs
  have hchild := toNat_childTimeoutS params.maxPollIntervalMs
  unfold longestIdlePeriodMs at hbounded
  refine ⟨rfl, hcheck, hchild, ?_, ?_, ?_, ?_⟩
  · change params.pollIntervalMs.toNat + 30000 ≤ (childTimeoutS params.maxPollIntervalMs).toNat * 1000
    rw [hchild, ceilDiv_thousand]
    omega
  · change 240 ≤ (childTimeoutS params.maxPollIntervalMs).toNat
    rw [hchild]
    omega
  · change 190 ≤ (childSupervisionCheckTimeoutS params.pollIntervalMs).toNat
    rw [hcheck]
    omega
  · change 129000 + params.pollIntervalMs.toNat ≤
      (childSupervisionCheckTimeoutS params.pollIntervalMs).toNat * 1000
    rw [hcheck, ceilDiv_thousand]
    omega

/-! ### Runs -/

section Runs

variable [DecidableEq μ]

/-- While `run_icd` goes on, what is in effect is what the parameters read last ask for. -/
structure RunIcd.Follows (S : RunIcd μ) (params : IcdNetParams μ) : Prop where
  applied : S.applied = some params
  timings : S.timings = .ofParams params

/-- What an iteration does that does not fail. -/
theorem RunIcd.step_ok {S : RunIcd μ} (it : Iteration μ) (hended : (S.step it).1.ended = none) :
    S.ended = none ∧
      (S.applied ≠ some it.params → (S.step it).1.Follows it.params ∧
        (S.step it).2 = icdCalls it.params) ∧
      (S.applied = some it.params → S.step it = (S, [])) := by
  unfold RunIcd.step at hended ⊢
  split at hended
  · rename_i hover
    cases hover.symm.trans hended
  · rename_i hrunning
    refine ⟨hrunning, fun hchanged => ?_, fun hsame => ?_⟩
    · rw [if_pos hchanged] at hended ⊢
      dsimp only at hended ⊢
      split at hended
      · cases hended
      · rename_i hok
        obtain ⟨htimings, hcalls⟩ := applyIcdParams_ok hok
        exact ⟨⟨rfl, htimings⟩, hcalls⟩
    · rw [if_neg (not_not_intro hsame)]

/-- After an iteration that does not fail, the parameters that it has read are in effect, if those
applied before it were. -/
theorem RunIcd.follows_step {S : RunIcd μ} (it : Iteration μ) (hended : (S.step it).1.ended = none)
    (hfollows : ∀ params, S.applied = some params → S.Follows params) :
    (S.step it).1.Follows it.params := by
  obtain ⟨-, hchanged, hsame⟩ := S.step_ok it hended
  by_cases happlied : S.applied = some it.params
  · rw [hsame happlied]
    exact hfollows it.params happlied
  · exact (hchanged happlied).1

/-- What is applied along a run is what was read last, and it is in effect. -/
theorem follows_run (t : Timings) (its : List (Iteration μ))
    (hended : (after RunIcd.step (.start t) its).ended = none) :
    (after RunIcd.step (.start t) its).applied = its.getLast?.map Iteration.params ∧
      ∀ params, (after RunIcd.step (.start t) its).applied = some params →
        (after RunIcd.step (.start t) its).Follows params := by
  induction its using List.reverseRecOn with
  | nil => exact ⟨rfl, fun params h => by cases h⟩
  | append_singleton its it ih =>
      rw [after_append] at hended ⊢
      obtain ⟨hrunning, -, -⟩ := (after RunIcd.step (.start t) its).step_ok it hended
      obtain ⟨-, hfollows⟩ := ih hrunning
      have hnext := RunIcd.follows_step it hended hfollows
      refine ⟨?_, fun params hparams => ?_⟩
      · rw [List.getLast?_concat]
        exact hnext.applied
      · have hsame : it.params = params := Option.some.inj (hnext.applied.symm.trans hparams)
        rw [← hsame]
        exact hnext

/-- **The timings always fit the polling.** Once the device was configured, and after every iteration of
`run_icd` that does not fail, the timings in effect are those that the parameters just read ask for. An
iteration makes its calls exactly if it is the first one, or has read other parameters than the one
before it, whose parameters are the ones applied last. -/
theorem timings_fit (drv : OtDriver) (params : IcdNetParams μ) (t : Timings)
    (hok : (configureSed drv params t).result = .ok ()) (hvalid : params.Valid)
    (its : List (Iteration μ)) (hits : ∀ it ∈ its, it.params.Valid) :
    (∀ ms, Exact ms) ∧
    (configureSed drv params t).timings.Fit params ∧
    ∀ before it later, its = before ++ it :: later →
      ∀ S, S = after RunIcd.step (.start (configureSed drv params t).timings) before →
      (S.step it).1.ended = none →
        (S.step it).1.timings.Fit it.params ∧
        S.applied = before.getLast?.map Iteration.params ∧
        (S.step it).2 = if S.applied = some it.params then [] else icdCalls it.params := by
  refine ⟨exact, ?_, ?_⟩
  · rw [configureSed_ok hok]
    exact Timings.fit_ofParams hvalid
  rintro before it later rfl S hS hended
  obtain ⟨hrunning, hchanged, hsame⟩ := S.step_ok it hended
  obtain ⟨hlast, hfollows⟩ := follows_run (configureSed drv params t).timings before (hS ▸ hrunning)
  rw [← hS] at hlast hfollows
  have hnext := RunIcd.follows_step it hended hfollows
  refine ⟨?_, hlast, ?_⟩
  · rw [hnext.timings]
    exact Timings.fit_ofParams (hits it (List.mem_append_right _ List.mem_cons_self))
  · split
    · rename_i happlied
      rw [hsame happlied]
    · rename_i happlied
      exact (hchanged happlied).2

/-- The calls succeed, and the parameters change once while an iteration finds them unchanged. -/
def changingIterations : List (Iteration Unit) :=
  [⟨⟨(), 500, 5000⟩, fun _ => .ok ()⟩, ⟨⟨(), 500, 5000⟩, fun _ => .ok ()⟩,
    ⟨⟨(), 5000, 900000⟩, fun _ => .ok ()⟩]

theorem timings_fit_changing :
    (after RunIcd.step (.start (configureSed (fun _ => .ok ()) ⟨(), 500, 5000⟩ ⟨0, 190, 240⟩).timings)
      changingIterations).timings.Fit (⟨(), 5000, 900000⟩ : IcdNetParams Unit) := by
  have hfast : (⟨(), 500, 5000⟩ : IcdNetParams Unit).Valid := ⟨by decide, by decide⟩
  have hslow : (⟨(), 5000, 900000⟩ : IcdNetParams Unit).Valid := ⟨by decide, by decide⟩
  refine ((timings_fit (fun _ => .ok ()) ⟨(), 500, 5000⟩ ⟨0, 190, 240⟩ rfl hfast changingIterations
    ?_).2.2 (changingIterations.take 2) _ [] rfl _ rfl ?_).1
  · exact List.forall_mem_cons.mpr ⟨hfast, List.forall_mem_cons.mpr ⟨hfast,
      List.forall_mem_singleton.mpr hslow⟩⟩
  · decide +kernel

/-- **The child timeout covers three polling intervals exactly when the slowest one is at most 80 s**,
after any history of parameters. -/
theorem child_timeout_covers_iff (drv : OtDriver) (params : IcdNetParams μ) (t : Timings)
    (hok : (configureSed drv params t).result = .ok ()) (its : List (Iteration μ))
    (hended : (after RunIcd.step (.start (configureSed drv params t).timings) its).ended = none) :
    ∀ latest, latest = (its.getLast?.map Iteration.params).getD params →
      (3 * latest.maxPollIntervalMs.toNat ≤
          (after RunIcd.step (.start (configureSed drv params t).timings) its).timings.childTimeout.toNat *
            1000 ↔
        latest.maxPollIntervalMs.toNat ≤ 80000) := by
  rintro latest rfl
  have htimings : (after RunIcd.step (.start (configureSed drv params t).timings) its).timings =
      .ofParams ((its.getLast?.map Iteration.params).getD params) := by
    obtain ⟨hlast, hfollows⟩ := follows_run (configureSed drv params t).timings its hended
    cases hparams : its.getLast?.map Iteration.params with
    | none =>
        have hnil : its = [] := List.getLast?_eq_none_iff.mp (Option.map_eq_none_iff.mp hparams)
        subst hnil
        exact configureSed_ok hok
    | some latest => exact (hfollows latest (hlast.trans hparams)).timings
  rw [htimings]
  exact childTimeoutS_covers_iff _

theorem child_timeout_covers_changing :
    ¬ 3 * 900000 ≤
      (after RunIcd.step (.start (configureSed (fun _ => .ok ()) ⟨(), 500, 5000⟩ ⟨0, 190, 240⟩).timings)
        changingIterations).timings.childTimeout.toNat * 1000 := by
  have hcovers := child_timeout_covers_iff (fun _ => .ok ()) ⟨(), 500, 5000⟩ ⟨0, 190, 240⟩ rfl
    changingIterations (by decide +kernel) ⟨(), 5000, 900000⟩ rfl
  exact mt hcovers.mp (by decide)

/-- With a slowest interval of 900 s, the child timeout is 930 s. -/
theorem idle_device_evicted :
    (configureSed (fun _ => .ok ()) (⟨(), 900000, 900000⟩ : IcdNetParams Unit)
        ⟨0, 190, 240⟩).timings.childTimeout = 930 ∧
      ¬ 3 * 900000 ≤ (configureSed (fun _ => .ok ()) (⟨(), 900000, 900000⟩ : IcdNetParams Unit)
        ⟨0, 190, 240⟩).timings.childTimeout.toNat * 1000 := by
  decide +kernel

end Runs

end EspIdfMatter.Thread
