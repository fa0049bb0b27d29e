import EspIdfMatter.Netif.Conf
import EspIdfMatter.Thread.Srp

/-! The network control of a Thread interface: scanning for networks and connecting to one. What the
OpenThread calls answer is given. -/

namespace EspIdfMatter.Thread

open Library Netif

inductive NetCtlError where
  | authFailure
  | otherConnectionFailure
  | ipBindFailed
  | other (code : ErrorCode)
  deriving DecidableEq

/-- `map_err(to_net_error)`, followed by `?` -/
def netCtlError (e : EspError) : NetCtlError := .other (toNetError e)

/-- `to_net_constr_error` -/
def toNetConstrError (_ : EspError) : NetCtlError := .other .constraintError

/-! ### Scanning -/

/-- `u64::from_be_bytes` -/
def fromBeBytes (bytes : Vector UInt8 8) : BitVec 64 :=
  bytes[0].toBitVec ++ bytes[1].toBitVec ++ bytes[2].toBitVec ++ bytes[3].toBitVec ++
    bytes[4].toBitVec ++ bytes[5].toBitVec ++ bytes[6].toBitVec ++ bytes[7].toBitVec

/-- `u64::to_be_bytes` -/
def toBeBytes (value : BitVec 64) : Vector UInt8 8 :=
  .ofFn fun k : Fin 8 => ⟨value.extractLsb' (56 - 8 * k.val) 8⟩

theorem extractLsb'_append_high {w : Nat} (x : BitVec w) (b : BitVec 8) (s : Nat) :
    (x ++ b).extractLsb' (s + 8) 8 = x.extractLsb' s 8 := by
  ext i hi
  have hge : ¬ s + 8 + i < 8 := by omega
  have hsub : s + 8 + i - 8 = s + i := by omega
  rw [BitVec.getElem_extractLsb', BitVec.getElem_extractLsb', BitVec.getLsbD_append, if_neg hge, hsub]

theorem extractLsb'_append_low {w : Nat} (x : BitVec w) (b : BitVec 8) :
    (x ++ b).extractLsb' 0 8 = b := by
  ext i hi
  rw [BitVec.getElem_extractLsb', BitVec.getLsbD_append, Nat.zero_add, if_pos hi,
    BitVec.getLsbD_eq_getElem hi]

theorem toBeBytes_fromBeBytes (bytes : Vector UInt8 8) : toBeBytes (fromBeBytes bytes) = bytes := by
  ext k hk
  simp only [toBeBytes, fromBeBytes, Vector.getElem_ofFn]
  have hcases : k = 0 ∨ k = 1 ∨ k = 2 ∨ k = 3 ∨ k = 4 ∨ k = 5 ∨ k = 6 ∨ k = 7 := by omega
  rcases hcases with rfl | rfl | rfl | rfl | rfl | rfl | rfl | rfl
  all_goals simp [extractLsb'_append_low, extractLsb'_append_high]

theorem toNat_append_byte {w : Nat} (x : BitVec w) (b : UInt8) :
    (x ++ b.toBitVec).toNat = b.toNat + 256 * x.toNat := by
  have hb : b.toBitVec.toNat < 2 ^ 8 := b.toBitVec.isLt
  rw [BitVec.toNat_append, ← Nat.shiftLeft_add_eq_or_of_lt hb, Nat.shiftLeft_eq, UInt8.toNat_toBitVec]
  omega

/-- The bytes are the digits of the value, the most significant one first. -/
theorem toNat_fromBeBytes (bytes : Vector UInt8 8) :
    (fromBeBytes bytes).toNat = Nat.ofDigits 256 (bytes.toList.reverse.map UInt8.toNat) := by
  have hbytes : bytes.toList = [bytes[0], bytes[1], bytes[2], bytes[3], bytes[4], bytes[5], bytes[6],
      bytes[7]] := by
    apply List.ext_getElem
    · simp
    · intro k hk _
      rw [Vector.length_toList] at hk
      have hcases : k = 0 ∨ k = 1 ∨ k = 2 ∨ k = 3 ∨ k = 4 ∨ k = 5 ∨ k = 6 ∨ k = 7 := by omega
      rcases hcases with rfl | rfl | rfl | rfl | rfl | rfl | rfl | rfl
      all_goals rfl
  rw [hbytes]
  simp only [fromBeBytes, toNat_append_byte, UInt8.toNat_toBitVec, List.reverse_cons, List.reverse_nil,
    List.nil_append, List.cons_append, List.map_cons, List.map_nil, Nat.ofDigits_cons, Nat.ofDigits_nil,
    Nat.mul_zero, Nat.add_zero]
/-- `String<16>` -/
abbrev String16 := { s : String // s.utf8ByteSize ≤ 16 }

/-- `esp_idf_svc`'s view of an `otActiveScanResult` -/
structure ActiveScanResult where
  panId : UInt16
  extendedPanId : Vector UInt8 8
  /-- the name, up to its terminator -/
  networkNameCstr : Bytes
  channel : UInt16
  version : UInt8
  extendedAddress : Vector UInt8 8
  maxRssi : Int8
  lqi : UInt8

structure OwnedScanResult where
  panId : UInt16
  extPanId : BitVec 64
  networkName : String16
  channel : UInt16
  version : UInt8
  extAddr : Vector UInt8 8
  rssi : Int8
  lqi : UInt8

/-- `NetworkScanInfo::Thread` -/
structure NetworkScanInfo where
  panId : UInt16
  extPanId : BitVec 64
  networkName : String
  channel : UInt16
  version : UInt8
  extAddr : Vector UInt8 8
  rssi : Int8
  lqi : UInt8

/-- A name that is no UTF-8, or that does not fit, is replaced. -/
def scannedName (networkNameCstr : Bytes) : String16 :=
  let name := (String.fromUTF8? ⟨networkNameCstr.toArray⟩).getD "???"
  if h : name.utf8ByteSize ≤ 16 then ⟨name, h⟩ else ⟨"???", by decide⟩

def ActiveScanResult.toOwned (result : ActiveScanResult) : OwnedScanResult where
  panId := result.panId
  extPanId := fromBeBytes result.extendedPanId
  networkName := scannedName result.networkNameCstr
  channel := result.channel
  version := result.version
  extAddr := result.extendedAddress
  rssi := result.maxRssi
  lqi := result.lqi

def OwnedScanResult.toInfo (result : OwnedScanResult) : NetworkScanInfo where
  panId := result.panId
  extPanId := result.extPanId
  networkName := result.networkName.val
  channel := result.channel
  version := result.version
  extAddr := result.extAddr
  rssi := result.rssi
  lqi := result.lqi

/-- `Vec<_, 5>` -/
abbrev ScanResults := BoundedVec OwnedScanResult 5

/-- The callback of the OpenThread scan: a result that does not fit is dropped. -/
def onScanResult (results : ScanResults) : Option ActiveScanResult → ScanResults
  | none => results
  | some info => (results.push info.toOwned).getD results

/-- The loop that waits for the end of the scan. `none` if it still waits. -/
def awaitScan : List (Except EspError Bool) → Option (Except EspError Unit)
  | [] => none
  | .error e :: _ => some (.error e)
  | .ok false :: _ => some (.ok ())
  | .ok true :: polls => awaitScan polls

/-- Whether the result is one of the network that is looked for. -/
def OwnedScanResult.matches (network : Option Bytes) (result : OwnedScanResult) : Bool :=
  (network.map fun network => decide ((toBeBytes result.extPanId).toList = network)).getD true

/-- Report the results one after the other. The callback `f` sees what it was called with before. -/
def reportResults (f : List NetworkScanInfo → NetworkScanInfo → Except ErrorCode Unit)
    (network : Option Bytes) :
    List OwnedScanResult → List NetworkScanInfo → List NetworkScanInfo × Except NetCtlError Unit
  | [], reported => (reported, .ok ())
  | result :: results, reported =>
      if result.matches network then
        match f reported result.toInfo with
        | .error e => (reported ++ [result.toInfo], .error (.other e))
        | .ok () => reportResults f network results (reported ++ [result.toInfo])
      else
        reportResults f network results reported

/-- What happens while `scan` runs: the answer to the start of the scan, the calls of its callback until
the results are taken, and the answers to `is_scan_in_progress`. -/
structure Scanning where
  started : Except EspError Unit
  results : List (Option ActiveScanResult)
  inProgress : List (Except EspError Bool)

/-- Scan for networks: the calls of `f`, and how it ends, unless it still waits. -/
def scan (network : Option Bytes) (f : List NetworkScanInfo → NetworkScanInfo → Except ErrorCode Unit)
    (scanning : Scanning) : List NetworkScanInfo × Option (Except NetCtlError Unit) :=
  match scanning.started with
  | .error e => ([], some (.error (netCtlError e)))
  | .ok () =>
      match awaitScan scanning.inProgress with
      | none => ([], none)
      | some (.error e) => ([], some (.error (netCtlError e)))
      | some (.ok ()) =>
          let results := scanning.results.foldl onScanResult .empty
          let reported := reportResults f network results.toList []
          (reported.1, some reported.2)

/-! ### Connecting -/

inductive WirelessCreds where
  | wifi (ssid pass : Bytes)
  | thread (datasetTlv : Bytes)
  deriving DecidableEq

inductive Role where
  | disabled
  | detached
  | child
  | router
  | leader
  deriving DecidableEq

variable {n : Nat}

def fetchIsThreadConnected (role : Except EspError Role) : Except EspError Bool :=
  role.map fun role => !(role == .detached || role == .disabled)

/-- Whether the interface is connected and has IPv6 addresses. `none` is a panic. -/
def fetchIsOperational (role : Except EspError Role) (netif : EspNetif n) :
    Option (Except EspError Bool) :=
  let l2Connected := (fetchIsThreadConnected role).toOption.getD false
  (getNetifConf netif .thread).map fun conf => conf.map (infoIsOperationalV6 l2Connected)

/-- What an iteration of the loop of `connect` finds, and how many milliseconds have elapsed since the
attempt when it looks at the time. -/
structure Poll (n : Nat) where
  role : Except EspError Role
  netif : EspNetif n
  elapsed : Nat

def Poll.operational (poll : Poll n) : Option (Except EspError Bool) :=
  fetchIsOperational poll.role poll.netif

/-- In milliseconds -/
def connectWait : Nat := 30000

/-- A call, with what it came to. -/
inductive ThreadCall where
  | enableThread (enable : Bool) (result : Except EspError Unit)
  | setTod (datasetTlv : Bytes) (result : Except EspError Unit)
  | fetchIsOperational (result : Except EspError Bool)

/-- How the loop of `connect` ends. -/
inductive Polled where
  /-- not yet -/
  | waiting
  | panicked
  /-- with `?`, out of `connect` -/
  | returned (e : NetCtlError)
  /-- with a `break` -/
  | broke (result : Except NetCtlError Unit)

/-- The loop of `connect`. -/
def pollOperational : List (Poll n) → List ThreadCall × Polled
  | [] => ([], .waiting)
  | poll :: polls =>
      match poll.operational with
      | none => ([], .panicked)
      | some (.error e) => ([.fetchIsOperational (.error e)], .returned (netCtlError e))
      | some (.ok true) => ([.fetchIsOperational (.ok true)], .broke (.ok ()))
      | some (.ok false) =>
          if poll.elapsed > connectWait then
            ([.fetchIsOperational (.ok false)], .broke (.error .authFailure))
          else
            let rest := pollOperational polls
            (.fetchIsOperational (.ok false) :: rest.1, rest.2)

/-- `EspMatterThreadCtl`: the operational flag, and the calls made on the interface so far. -/
structure Ctl where
  operational : Bool
  calls : List ThreadCall

/-- What the calls of a `connect` come to, in their order. -/
structure Answers (n : Nat) where
  disabled : Except EspError Unit
  setTod : Except EspError Unit
  enabled : Except EspError Unit
  polls : List (Poll n)
  disabledAgain : Except EspError Unit

inductive Outcome where
  /-- `connect` is still polling -/
  | pending
  | panicked
  | returned (result : Except NetCtlError Unit)

def Ctl.connect (ctl : Ctl) (creds : WirelessCreds) (answers : Answers n) : Ctl × Outcome :=
  match creds with
  | .wifi _ _ => (ctl, .returned (.error (.other .invalidData)))
  | .thread datasetTlv =>
      -- Apply the new dataset with Thread stopped and only then bring it back up.
      let calls := ctl.calls ++ [.enableThread false answers.disabled, .setTod datasetTlv answers.setTod]
      match answers.setTod with
      | .error e => ({ ctl with calls }, .returned (.error (toNetConstrError e)))
      | .ok () =>
          let calls := calls ++ [.enableThread true answers.enabled]
          match answers.enabled with
          | .error e => ({ ctl with calls }, .returned (.error (netCtlError e)))
          | .ok () =>
              let polled := pollOperational answers.polls
              let calls := calls ++ polled.1
              match polled.2 with
              | .waiting => ({ ctl with calls }, .pending)
              | .panicked => ({ ctl with calls }, .panicked)
              | .returned e => ({ ctl with calls }, .returned (.error e))
              | .broke (.ok ()) => ({ operational := true, calls }, .returned (.ok ()))
              | .broke (.error e) =>
                  -- Don't leave the stack churning on a network we failed to join
                  ({ ctl with calls := calls ++ [.enableThread false answers.disabledAgain] },
                    .returned (.error e))

end EspIdfMatter.Thread
