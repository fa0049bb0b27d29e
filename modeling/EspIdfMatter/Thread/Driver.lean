import EspIdfMatter.Thread.Connect
import EspIdfMatter.Thread.Icd

/-! The Thread driver: it sets OpenThread up, lets the Matter stack scan and connect and the ICD set the
timings, and puts OpenThread back to rest when its task ends, in whatever way. A step is what runs between
two awaits. -/

namespace EspIdfMatter.Thread

open Library Library.Machine Netif

inductive ThreadOp where
  | setTod (datasetTlv : Bytes)
  | ot (call : OtCall)
  | enableIpv6 (enable : Bool)
  | srpAutostart
  | start
  | enableThread (enable : Bool)
  | srpStop
  | scan
  deriving DecidableEq

/-- What the calls come to. -/
abbrev ThreadAnswers := ThreadOp → Except EspError Unit

structure LinkMode where
  rxOnWhenIdle : Bool
  ftd : Bool
  fullNetworkData : Bool
  deriving DecidableEq

def LinkMode.sleepy : LinkMode where
  rxOnWhenIdle := false
  ftd := false
  fullNetworkData := false

/-- What is in effect in OpenThread. -/
structure OpenThread where
  dataset : Bytes
  linkMode : LinkMode
  timings : Timings
  ipv6 : Bool
  srp : Bool
  started : Bool
  enabled : Bool

def OpenThread.apply (o : OpenThread) : ThreadOp → OpenThread
  | .setTod datasetTlv => { o with dataset := datasetTlv }
  | .ot (.setLinkMode rxOnWhenIdle ftd fullNetworkData) =>
      { o with linkMode := ⟨rxOnWhenIdle, ftd, fullNetworkData⟩ }
  | .ot call => { o with timings := o.timings.program call }
  | .enableIpv6 enable => { o with ipv6 := enable }
  | .srpAutostart => { o with srp := true }
  | .start => { o with started := true }
  | .enableThread enable => { o with enabled := enable }
  | .srpStop => { o with srp := false }
  | .scan => o

/-- A call takes effect unless it fails. -/
def OpenThread.call (o : OpenThread) (answers : ThreadAnswers) (op : ThreadOp) : OpenThread :=
  match answers op with
  | .ok () => o.apply op
  | .error _ => o

/-- What some calls leave in effect, which of them were made, and how they ended. -/
structure Attempt where
  thread : OpenThread
  calls : List ThreadOp
  result : Except ErrorCode Unit

/-- The calls are made in order, up to the first that fails. -/
def attempt (answers : ThreadAnswers) : List ThreadOp → OpenThread → Attempt
  | [], o => ⟨o, [], .ok ()⟩
  | op :: ops, o =>
      match answers op with
      | .error e => ⟨o, [op], .error (toNetError e)⟩
      | .ok () =>
          let rest := attempt answers ops (o.apply op)
          { rest with calls := op :: rest.calls }

variable {μ : Type}

/-- The calls of `configure_sed`, if there is an ICD. -/
def sedOps : Option (IcdNetParams μ) → List ThreadOp
  | none => []
  | some params => (.setLinkMode false false false :: icdCalls params).map .ot

/-- What `run` calls before the task starts. -/
def setUpOps (icd : Option (IcdNetParams μ)) : List ThreadOp :=
  -- Drop any Active Operational Dataset that was persisted on a previous run.
  .setTod [] :: sedOps icd ++ [.enableIpv6 true, .srpAutostart, .start]

/-- `ThreadQuiesce::drop` -/
def quiesceOps : List ThreadOp := [.enableThread false, .srpStop, .enableIpv6 false]

/-- The results are ignored. -/
def quiesce (answers : ThreadAnswers) (o : OpenThread) : OpenThread :=
  quiesceOps.foldl (·.call answers ·) o

namespace Driver

inductive Phase where
  | idle
  | running
  /-- `none` if it was dropped -/
  | ended (result : Option (Except ErrorCode Unit))
  | panicked

/-- Who holds the lock of the interface across an await. -/
inductive Holder where
  | connect
  | scan
  deriving DecidableEq

end Driver

/-- A run of the driver: what it shares with the Matter stack, and where it is. -/
structure Driver (μ : Type) where
  thread : OpenThread
  phase : Driver.Phase
  /-- the lock of the interface -/
  lock : Option Driver.Holder
  operational : Bool
  /-- the parameters that `configure_sed` applied, if there is an ICD -/
  sed : Option (IcdNetParams μ)
  /-- the parameters that `run_icd` applied last -/
  applied : Option (IcdNetParams μ)

namespace Driver

/-- A driver on an instance of OpenThread that was just created over a persisted dataset. -/
def new (persisted : Bytes) (linkMode : LinkMode) (timings : Timings) : Driver μ where
  thread :=
    { dataset := persisted, linkMode, timings, ipv6 := false, srp := false, started := false,
      enabled := false }
  phase := .idle
  lock := none
  operational := false
  sed := none
  applied := none

/-- What a `scan` finds when it polls: whether OpenThread still scans, and if not, what the results were that
it reported, and what is done with them. -/
structure ScanPoll where
  inProgress : Except EspError Bool
  network : Option Bytes
  results : List (Option ActiveScanResult)
  f : List NetworkScanInfo → NetworkScanInfo → Except ErrorCode Unit

inductive Step (μ : Type) (n : Nat) where
  /-- everything up to the start of the task, with the answer to `EspThread::new` -/
  | setUp (created : Except EspError Unit) (icd : Option (IcdNetParams μ)) (answers : ThreadAnswers)
  /-- a `connect` up to its first await, with the answers while it polls -/
  | connect (creds : WirelessCreds) (answers : ThreadAnswers) (poll : Poll n) (polling : ThreadAnswers)
  /-- the next poll of the `connect` that holds the lock -/
  | poll (poll : Poll n) (answers : ThreadAnswers)
  /-- the `connect` that holds the lock is dropped -/
  | dropConnect
  /-- a `scan` up to its first await -/
  | scan (started : Except EspError Unit) (poll : ScanPoll)
  /-- the next poll of the `scan` that holds the lock -/
  | scanPoll (poll : ScanPoll)
  /-- the `scan` that holds the lock is dropped -/
  | dropScan
  /-- an iteration of `wait_changed` that takes the lock -/
  | fetch (role : Except EspError Role) (netif : EspNetif n)
  /-- an iteration of `run_icd` -/
  | icd (params : IcdNetParams μ) (answers : ThreadAnswers)
  /-- the task returns -/
  | returns (result : Except ErrorCode Unit) (answers : ThreadAnswers)
  /-- `run` is dropped -/
  | drop (answers : ThreadAnswers)

inductive Obs where
  | call (op : ThreadOp) (result : Except EspError Unit)
  | connected (result : Except NetCtlError Unit)
  | scanned (reported : List NetworkScanInfo) (result : Except NetCtlError Unit)
  | changed (operational : Bool)

/-- These calls, with what they come to. -/
def made (answers : ThreadAnswers) (ops : List ThreadOp) : List Obs := ops.map fun op => .call op (answers op)

variable {n : Nat} [DecidableEq μ]

/-- The task and everything that borrows OpenThread are dropped before the guard is. -/
def finish (D : Driver μ) (answers : ThreadAnswers) (result : Option (Except ErrorCode Unit)) :
    Driver μ × List Obs :=
  ({ D with thread := quiesce answers D.thread, phase := .ended result, lock := none },
    made answers quiesceOps)

def setUp (D : Driver μ) (created : Except EspError Unit) (icd : Option (IcdNetParams μ))
    (answers : ThreadAnswers) : Driver μ × List Obs :=
  match created with
  | .error e => ({ D with phase := .ended (some (.error (toNetError e))) }, [])
  | .ok () =>
      let attempted := attempt answers (setUpOps icd) D.thread
      match attempted.result with
      | .error e =>
          -- There is no guard yet.
          ({ D with thread := attempted.thread, phase := .ended (some (.error e)) },
            made answers attempted.calls)
      | .ok () =>
          ({ D with thread := attempted.thread, phase := .running, sed := icd },
            made answers attempted.calls)

/-- An iteration of the loop of `connect`. -/
def poll (D : Driver μ) (poll : Poll n) (answers : ThreadAnswers) : Driver μ × List Obs :=
  match poll.operational with
  | none => ({ D with phase := .panicked }, [])
  | some (.error e) => ({ D with lock := none }, [.connected (.error (netCtlError e))])
  | some (.ok true) => ({ D with lock := none, operational := true }, [.connected (.ok ())])
  | some (.ok false) =>
      if poll.elapsed > connectWait then
        ({ D with lock := none, thread := D.thread.call answers (.enableThread false) },
          made answers [.enableThread false] ++ [.connected (.error .authFailure)])
      else
        ({ D with lock := some .connect }, [])

def connect (D : Driver μ) (creds : WirelessCreds) (answers : ThreadAnswers) (poll : Poll n)
    (polling : ThreadAnswers) : Driver μ × List Obs :=
  match creds with
  | .wifi _ _ => (D, [.connected (.error (.other .invalidData))])
  | .thread datasetTlv =>
      if D.lock ≠ none then
        (D, [])
      else
        let thread := D.thread.call answers (.enableThread false)
        match answers (.setTod datasetTlv) with
        | .error e =>
            ({ D with thread }, made answers [.enableThread false, .setTod datasetTlv] ++
              [.connected (.error (toNetConstrError e))])
        | .ok () =>
            let thread := thread.apply (.setTod datasetTlv)
            let calls := made answers [.enableThread false, .setTod datasetTlv, .enableThread true]
            match answers (.enableThread true) with
            | .error e => ({ D with thread }, calls ++ [.connected (.error (netCtlError e))])
            | .ok () =>
                let polled :=
                  ({ D with thread := thread.apply (.enableThread true) } : Driver μ).poll poll polling
                (polled.1, calls ++ polled.2)

/-- An iteration of the loop of `scan`. -/
def scanPoll (D : Driver μ) (poll : ScanPoll) : Driver μ × List Obs :=
  match poll.inProgress with
  | .error e => ({ D with lock := none }, [.scanned [] (.error (netCtlError e))])
  | .ok true => ({ D with lock := some .scan }, [])
  | .ok false =>
      let results := poll.results.foldl onScanResult .empty
      let reported := reportResults poll.f poll.network results.toList []
      ({ D with lock := none }, [.scanned reported.1 reported.2])

def scan (D : Driver μ) (started : Except EspError Unit) (poll : ScanPoll) : Driver μ × List Obs :=
  if D.lock ≠ none then
    (D, [])
  else
    match started with
    | .error e => (D, [.call .scan (.error e), .scanned [] (.error (netCtlError e))])
    | .ok () =>
        let polled := D.scanPoll poll
        (polled.1, .call .scan (.ok ()) :: polled.2)

/-- An iteration of `wait_changed`, unless the lock is held. -/
def fetch (D : Driver μ) (role : Except EspError Role) (netif : EspNetif n) : Driver μ × List Obs :=
  if D.lock ≠ none then
    (D, [])
  else
    match fetchIsOperational role netif with
    | none => ({ D with phase := .panicked }, [])
    | some result =>
        let operational := result.toOption.getD false
        if D.operational ≠ operational then
          ({ D with operational }, [.changed operational])
        else
          (D, [])

/-- An iteration of `run_icd`, which never runs without an ICD. -/
def icd (D : Driver μ) (params : IcdNetParams μ) (answers : ThreadAnswers) : Driver μ × List Obs :=
  match D.sed with
  | none => (D, [])
  | some _ =>
      let next := (⟨D.thread.timings, D.applied, none⟩ : RunIcd μ).step ⟨params, fun call => answers (.ot call)⟩
      let D' : Driver μ := { D with thread.timings := next.1.timings, applied := next.1.applied }
      let calls := made answers (next.2.map .ot)
      match next.1.ended with
      | none => (D', calls)
      | some e =>
          let ended := D'.finish answers (some (.error e))
          (ended.1, calls ++ ended.2)

def step (D : Driver μ) (s : Step μ n) : Driver μ × List Obs :=
  match D.phase, s with
  | .idle, .setUp created icd answers => D.setUp created icd answers
  | .idle, .drop _ => ({ D with phase := .ended none }, [])
  | .running, .connect creds answers poll polling => D.connect creds answers poll polling
  | .running, .poll poll answers => if D.lock = some .connect then D.poll poll answers else (D, [])
  | .running, .dropConnect => if D.lock = some .connect then ({ D with lock := none }, []) else (D, [])
  | .running, .scan started poll => D.scan started poll
  | .running, .scanPoll poll => if D.lock = some .scan then D.scanPoll poll else (D, [])
  | .running, .dropScan => if D.lock = some .scan then ({ D with lock := none }, []) else (D, [])
  | .running, .fetch role netif => D.fetch role netif
  | .running, .icd params answers => D.icd params answers
  | .running, .returns result answers => D.finish answers (some result)
  | .running, .drop answers => D.finish answers none
  | _, _ => (D, [])

end Driver

end EspIdfMatter.Thread
