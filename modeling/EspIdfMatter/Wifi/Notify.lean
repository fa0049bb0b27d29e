import EspIdfMatter.Library.Watch
import EspIdfMatter.Netif.Conf
import EspIdfMatter.Wifi.Connect

/-! The operational flag of the Wi-Fi control: what `connect` and `wait_changed` make of it while connects,
scans and waiters share the driver. -/

namespace EspIdfMatter.Wifi

open Library Library.Machine Thread Netif

variable {n : Nat}

/-- Whether the interface is connected and has IPv6 and IPv4 addresses. `none` is a panic. -/
def fetchIsOperational (isConnected : Except EspError Bool) (netif : EspNetif n) :
    Option (Except EspError Bool) :=
  let l2Connected := isConnected.toOption.getD false
  (getNetifConf netif .wiFi).map fun conf => conf.map (infoIsOperational l2Connected)

/-- Who has locked the driver. -/
inductive Holder where
  | connect (ssid pass : Bytes)
  | scan

/-- `EspMatterWifiCtl` -/
structure Ctl where
  holder : Option Holder
  operational : Bool
  panicked : Bool

namespace Ctl

def new : Ctl where
  holder := none
  operational := false
  panicked := false

inductive Step (n : Nat) where
  /-- a connect starts; it locks the driver, unless it has to wait -/
  | connect (creds : WirelessCreds)
  /-- a scan locks the driver, unless it has to wait -/
  | scan
  /-- the one that has locked the driver is through -/
  | finish (answers : Answers)
  /-- the one that has locked the driver is dropped -/
  | drop
  /-- an iteration of `wait_changed`, unless it has to wait for the driver -/
  | fetch (isConnected : Except EspError Bool) (netif : EspNetif n)

inductive Obs where
  | connected (result : Except NetCtlError Unit)
  /-- what an iteration of `wait_changed` has found -/
  | found (operational : Bool)
  /-- a `wait_changed` returns -/
  | changed (operational : Bool)

def lock (ctl : Ctl) (holder : Holder) : Ctl :=
  if ctl.holder.isSome = true then ctl else { ctl with holder := some holder }

/-- Credentials of another kind are refused before the driver is locked. -/
def start (ctl : Ctl) (creds : WirelessCreds) : Ctl × List Obs :=
  match creds with
  | .thread _ => (ctl, [.connected (.error (.other .invalidData))])
  | .wifi ssid pass => (ctl.lock (.connect ssid pass), [])

def finish (ctl : Ctl) (answers : Answers) : Ctl × List Obs :=
  match ctl.holder with
  | none => (ctl, [])
  | some .scan => ({ ctl with holder := none }, [])
  | some (.connect ssid pass) =>
      let connected := connect ctl.operational (.wifi ssid pass) answers
      ({ ctl with holder := none, operational := connected.operational }, [.connected connected.result])

def fetch (ctl : Ctl) (isConnected : Except EspError Bool) (netif : EspNetif n) : Ctl × List Obs :=
  if ctl.holder.isSome = true then
    (ctl, [])
  else
    match fetchIsOperational isConnected netif with
    | none => ({ ctl with panicked := true }, [])
    | some result =>
        let operational := result.toOption.getD false
        if ctl.operational ≠ operational then
          ({ ctl with operational }, [.found operational, .changed operational])
        else
          (ctl, [.found operational])

def step (ctl : Ctl) (s : Step n) : Ctl × List Obs :=
  if ctl.panicked = true then
    (ctl, [])
  else
    match s with
    | .connect creds => ctl.start creds
    | .scan => (ctl.lock .scan, [])
    | .finish answers => ctl.finish answers
    | .drop => ({ ctl with holder := none }, [])
    | .fetch isConnected netif => ctl.fetch isConnected netif

/-- What an observation does to the flag: a connect that succeeds raises it. -/
def Obs.op? : Obs → Option (Watch.Op Bool)
  | .connected (.ok ()) => some .raise
  | .found operational => some (.look operational)
  | _ => none

def Obs.changed? : Obs → Option Bool
  | .changed operational => some operational
  | _ => none

/-- What an observation says of whether the interface is operational. -/
def Obs.says? (obs : Obs) : Option Bool := obs.op?.map (Watch.Op.value true)

/-- The flag is raised by a connect that succeeds, and by no other. -/
theorem connect_operational (operational : Bool) (creds : WirelessCreds) (answers : Answers) :
    (connect operational creds answers).operational =
      if (connect operational creds answers).result = .ok () then true else operational := by
  have hspec := connect_spec operational creds answers
  generalize connect operational creds answers = connected at hspec ⊢
  cases hspec with
  | illFormed e hcreds => rfl
  | failed e hcreds hfirst hcalls => rfl
  | linklocal e hconf hlinklocal => rfl
  | unassigned e hconf hlinklocal => rfl
  | connected hconf hlinklocal => rfl

/-- A step watches the flag. -/
structure Watches (ctl : Ctl) (next : Ctl × List Obs) : Prop where
  flag : next.1.operational = after (Watch.step true) ctl.operational (next.2.filterMap Obs.op?)
  told : next.2.filterMap Obs.changed? = outputs (Watch.step true) ctl.operational (next.2.filterMap Obs.op?)

theorem lock_operational (ctl : Ctl) (holder : Holder) : (ctl.lock holder).operational = ctl.operational := by
  unfold lock
  split
  · rfl
  · rfl

theorem watches_start (ctl : Ctl) (creds : WirelessCreds) : ctl.Watches (ctl.start creds) := by
  cases creds with
  | thread datasetTlv => exact ⟨rfl, rfl⟩
  | wifi ssid pass => exact ⟨ctl.lock_operational (.connect ssid pass), rfl⟩

theorem watches_finish (ctl : Ctl) (answers : Answers) : ctl.Watches (ctl.finish answers) := by
  unfold finish
  split
  · exact ⟨rfl, rfl⟩
  · exact ⟨rfl, rfl⟩
  · rename_i ssid pass _
    have hflag := connect_operational ctl.operational (.wifi ssid pass) answers
    revert hflag
    generalize connect ctl.operational (.wifi ssid pass) answers = connected
    intro hflag
    obtain ⟨operational, calls, result⟩ := connected
    cases result with
    | error e =>
        have hkept : operational = ctl.operational := hflag
        exact ⟨hkept, rfl⟩
    | ok u =>
        have hraised : operational = true := hflag
        exact ⟨hraised, rfl⟩

theorem watches_fetch (ctl : Ctl) (isConnected : Except EspError Bool) (netif : EspNetif n) :
    ctl.Watches (ctl.fetch isConnected netif) := by
  unfold fetch
  split
  · exact ⟨rfl, rfl⟩
  split
  · exact ⟨rfl, rfl⟩
  rename_i result _
  dsimp only
  by_cases hsame : ctl.operational = result.toOption.getD false
  · rw [if_neg (not_not_intro hsame)]
    refine ⟨hsame, ?_⟩
    show [] = (Watch.step true ctl.operational (.look _)).2 ++ []
    rw [Watch.step, if_neg (not_not_intro hsame)]
    rfl
  · rw [if_pos hsame]
    refine ⟨rfl, ?_⟩
    show [_] = (Watch.step true ctl.operational (.look _)).2 ++ []
    rw [Watch.step, if_pos hsame]
    rfl

theorem watches_step (ctl : Ctl) (s : Step n) : ctl.Watches (ctl.step s) := by
  unfold step
  split
  · exact ⟨rfl, rfl⟩
  cases s with
  | connect creds => exact watches_start ctl creds
  | scan => exact ⟨ctl.lock_operational .scan, rfl⟩
  | finish answers => exact watches_finish ctl answers
  | drop => exact ⟨rfl, rfl⟩
  | fetch isConnected netif => exact watches_fetch ctl isConnected netif

theorem watches_run (ctl : Ctl) (steps : List (Step n)) :
    ctl.Watches (after step ctl steps, outputs step ctl steps) := by
  induction steps generalizing ctl with
  | nil => exact ⟨rfl, rfl⟩
  | cons s steps ih =>
      obtain ⟨hflag, htold⟩ := watches_step ctl s
      obtain ⟨hflag', htold'⟩ := ih (ctl.step s).1
      constructor
      · show (after step (ctl.step s).1 steps).operational = _
        rw [hflag', hflag, outputs_cons, List.filterMap_append, after_append]
      · show (outputs step ctl (s :: steps)).filterMap Obs.changed? = _
        rw [outputs_cons, List.filterMap_append, List.filterMap_append, htold, htold', hflag, outputs_append]

/-- **The flag is what was last found or achieved; a waiter that is told of a rise is told the truth, and never
twice in a row.** -/
theorem flag_exact (steps : List (Step n)) :
    let ctl := after step new steps
    let history := outputs step new steps
    let told := history.filterMap Obs.changed?
    ctl.operational = ((history.filterMap Obs.says?).getLast?).getD false ∧
      (told.getLast? = some true → ctl.operational = true) ∧ told.IsChain fun a b => a = true → b = false := by
  intro ctl history told
  obtain ⟨hflag, htold⟩ := watches_run new steps
  have hflag' : ctl.operational = after (Watch.step true) false (history.filterMap Obs.op?) := hflag
  have htold' : told = outputs (Watch.step true) false (history.filterMap Obs.op?) := htold
  have hsays : history.filterMap Obs.says? = (history.filterMap Obs.op?).map (Watch.Op.value true) :=
    List.map_filterMap.symm
  refine ⟨?_, ?_⟩
  · rw [hflag', Watch.after_eq_last, hsays]
  · have hinformed := Watch.informed_run true false (history.filterMap Obs.op?)
    rw [← hflag', ← htold'] at hinformed
    exact hinformed.rises

end Ctl

end EspIdfMatter.Wifi
