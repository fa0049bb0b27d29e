import EspIdfMatter.Library.Watch
import EspIdfMatter.Thread.Driver

/-! The change notification of the network control: what `wait_changed` has told about the operational
flag, which a `connect` raises without telling. -/

namespace EspIdfMatter.Thread.Driver

open Library Library.Machine Netif

variable {μ : Type} {n : Nat} {D : Driver μ}

/-- What a change notification tells. -/
def Obs.changed? : Obs → Option Bool
  | .changed operational => some operational
  | _ => none

/-- A step watches the flag: it looks at it, raises it, or leaves it alone. -/
def Watches (D : Driver μ) (next : Driver μ × List Obs) : Prop :=
  ∃ ops, next.1.operational = after (Watch.step true) D.operational ops ∧
    next.2.filterMap Obs.changed? = outputs (Watch.step true) D.operational ops

/-- A step that neither looks at the flag nor raises it. -/
theorem watches_idle {next : Driver μ × List Obs} (hflag : next.1.operational = D.operational)
    (htold : next.2.filterMap Obs.changed? = []) : Watches D next := ⟨[], hflag, htold⟩

theorem made_tells_nothing (answers : ThreadAnswers) (ops : List ThreadOp) :
    (made answers ops).filterMap Obs.changed? = [] := by
  rw [made, List.filterMap_map]
  exact List.filterMap_eq_nil_iff.mpr fun _ _ => rfl

/-- A `connect` that finds Thread operational raises the flag. -/
theorem watches_poll (D : Driver μ) (poll : Poll n) (answers : ThreadAnswers) :
    Watches D (D.poll poll answers) := by
  unfold Driver.poll
  split
  · exact watches_idle rfl rfl
  · exact watches_idle rfl rfl
  · exact ⟨[.raise], rfl, rfl⟩
  · split
    · exact watches_idle rfl rfl
    · exact watches_idle rfl rfl

theorem watches_connect (D : Driver μ) (creds : WirelessCreds) (answers : ThreadAnswers) (poll : Poll n)
    (polling : ThreadAnswers) : Watches D (D.connect creds answers poll polling) := by
  unfold Driver.connect
  split
  · exact watches_idle rfl rfl
  · split
    · exact watches_idle rfl rfl
    dsimp only
    split
    · exact watches_idle rfl rfl
    · split
      · exact watches_idle rfl rfl
      · obtain ⟨ops, hflag, htold⟩ := watches_poll { D with
          thread := ((D.thread.call answers (.enableThread false)).apply (.setTod _)).apply
            (.enableThread true) } poll polling
        refine ⟨ops, hflag, ?_⟩
        rw [List.filterMap_append]
        exact htold

theorem watches_scanPoll (D : Driver μ) (poll : ScanPoll) : Watches D (D.scanPoll poll) := by
  unfold Driver.scanPoll
  split
  · exact watches_idle rfl rfl
  · exact watches_idle rfl rfl
  · exact watches_idle rfl rfl

theorem watches_scan (D : Driver μ) (started : Except EspError Unit) (poll : ScanPoll) :
    Watches D (D.scan started poll) := by
  unfold Driver.scan
  split
  · exact watches_idle rfl rfl
  · split
    · exact watches_idle rfl rfl
    · exact watches_scanPoll D poll

/-- Only `wait_changed` looks at the flag. -/
theorem watches_fetch (D : Driver μ) (role : Except EspError Role) (netif : EspNetif n) :
    Watches D (D.fetch role netif) := by
  unfold Driver.fetch
  split
  · exact watches_idle rfl rfl
  · split
    · exact watches_idle rfl rfl
    · rename_i result hresult
      refine ⟨[.look (result.toOption.getD false)], ?_, ?_⟩
      · by_cases hsame : D.operational = result.toOption.getD false
        · rw [if_neg (not_not_intro hsame)]
          exact hsame
        · rw [if_pos hsame]
          rfl
      · rw [outputs_cons, outputs_nil, List.append_nil, Watch.step]
        by_cases hsame : D.operational = result.toOption.getD false
        · rw [if_neg (not_not_intro hsame), if_neg (not_not_intro hsame)]
          rfl
        · rw [if_pos hsame, if_pos hsame]
          rfl

theorem watches_icd [DecidableEq μ] (D : Driver μ) (params : IcdNetParams μ) (answers : ThreadAnswers) :
    Watches D (D.icd params answers) := by
  unfold Driver.icd
  split
  · exact watches_idle rfl rfl
  · dsimp only
    split
    · exact watches_idle rfl (made_tells_nothing answers _)
    · refine watches_idle rfl ?_
      rw [List.filterMap_append, made_tells_nothing]
      rfl

theorem watches_setUp (D : Driver μ) (created : Except EspError Unit) (icd : Option (IcdNetParams μ))
    (answers : ThreadAnswers) : Watches D (D.setUp created icd answers) := by
  unfold Driver.setUp
  split
  · exact watches_idle rfl rfl
  · dsimp only
    split
    · exact watches_idle rfl (made_tells_nothing answers _)
    · exact watches_idle rfl (made_tells_nothing answers _)

/-- **Every step watches the flag**, where a connect or a scan that is dropped leaves it alone. -/
theorem watches_step [DecidableEq μ] (D : Driver μ) (s : Step μ n) : Watches D (D.step s) := by
  unfold Driver.step
  split
  · exact watches_setUp D _ _ _
  · exact watches_idle rfl rfl
  · exact watches_connect D _ _ _ _
  · split
    · exact watches_poll D _ _
    · exact watches_idle rfl rfl
  · split
    · exact watches_idle rfl rfl
    · exact watches_idle rfl rfl
  · exact watches_scan D _ _
  · split
    · exact watches_scanPoll D _
    · exact watches_idle rfl rfl
  · split
    · exact watches_idle rfl rfl
    · exact watches_idle rfl rfl
  · exact watches_fetch D _ _
  · exact watches_icd D _ _
  · exact watches_idle rfl (made_tells_nothing _ quiesceOps)
  · exact watches_idle rfl (made_tells_nothing _ quiesceOps)
  · exact watches_idle rfl rfl

/-- **Nobody who is told of the changes takes Thread for operational when its flag is down.** The flag may
be up without that being told, when a `connect` has raised it, so that its fall may be told of twice in a
row, but never its rise. -/
theorem told_operational [DecidableEq μ] (persisted : Bytes) (linkMode : LinkMode) (timings : Timings)
    (steps : List (Step μ n)) :
    let told := (outputs Driver.step (new persisted linkMode timings) steps).filterMap Obs.changed?
    let D := after Driver.step (new persisted linkMode timings) steps
    (told.getLast? = some true → D.operational = true) ∧
      told.IsChain fun a b => a = true → b = false := by
  intro told D
  obtain ⟨ops, hflag, htold⟩ := exists_run_of_refinement (Driver.step : Driver μ → Step μ n → _)
    (Watch.step true) Driver.operational Obs.changed? (I := fun _ => True) (G := fun _ _ => True)
    (fun D s _ _ => ⟨trivial, watches_step D s⟩) (s := new persisted linkMode timings) trivial
    (along_of_forall fun s (_ : s ∈ steps) => trivial)
  have hinformed : Watch.Informed true false told D.operational := by
    have hflag' : D.operational = after (Watch.step true) false ops := hflag
    have htold' : told = outputs (Watch.step true) false ops := htold
    rw [hflag', htold']
    exact Watch.informed_run true false ops
  exact hinformed.rises

end EspIdfMatter.Thread.Driver
