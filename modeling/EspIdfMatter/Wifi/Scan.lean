import EspIdfMatter.Library.Visit
import EspIdfMatter.Thread.Control

/-! Scanning for Wi-Fi networks, and the diagnostics of the station. What the calls of the driver come to is
given. -/

namespace EspIdfMatter.Wifi

open Library Visit Thread

variable {σ : Type}

/-- The methods that an access point may report. -/
inductive ApAuthMethod where
  | none
  | wep
  | wpa
  | wpa2Personal
  | wpaWpa2Personal
  | wpa2Enterprise
  | wpa3Personal
  | wpa2Wpa3Personal
  | wapiPersonal
  deriving DecidableEq

structure AccessPointInfo where
  ssid : Bytes
  bssid : Vector UInt8 6
  channel : UInt8
  signalStrength : Int8
  authMethod : Option ApAuthMethod
  deriving DecidableEq

/-- `WiFiSecurityBitmap` -/
structure SecurityBitmap where
  unencrypted : Bool
  wep : Bool
  wpaPersonal : Bool
  wpa2Personal : Bool
  wpa3Personal : Bool
  deriving DecidableEq

namespace SecurityBitmap

def empty : SecurityBitmap := ⟨false, false, false, false, false⟩

def union (a b : SecurityBitmap) : SecurityBitmap where
  unencrypted := a.unencrypted || b.unencrypted
  wep := a.wep || b.wep
  wpaPersonal := a.wpaPersonal || b.wpaPersonal
  wpa2Personal := a.wpa2Personal || b.wpa2Personal
  wpa3Personal := a.wpa3Personal || b.wpa3Personal

end SecurityBitmap

def security : Option ApAuthMethod → SecurityBitmap
  | some .none => { SecurityBitmap.empty with unencrypted := true }
  | some .wep => { SecurityBitmap.empty with wep := true }
  | some .wpa => { SecurityBitmap.empty with wpaPersonal := true }
  | some .wpa2Personal => { SecurityBitmap.empty with wpa2Personal := true }
  | some .wpaWpa2Personal =>
      .union { SecurityBitmap.empty with wpaPersonal := true } { SecurityBitmap.empty with wpa2Personal := true }
  | some .wpa3Personal => { SecurityBitmap.empty with wpa3Personal := true }
  | some .wpa2Wpa3Personal =>
      .union { SecurityBitmap.empty with wpa2Personal := true } { SecurityBitmap.empty with wpa3Personal := true }
  | _ => .empty

inductive WiFiBandEnum where
  | v2g4
  deriving DecidableEq

/-- `NetworkScanInfo::Wifi` -/
structure NetworkScanInfo where
  security : SecurityBitmap
  ssid : Bytes
  bssid : Vector UInt8 6
  channel : UInt16
  band : WiFiBandEnum
  rssi : Int8
  deriving DecidableEq

def AccessPointInfo.toInfo (ap : AccessPointInfo) : NetworkScanInfo where
  security := Wifi.security ap.authMethod
  ssid := ap.ssid
  bssid := ap.bssid
  channel := ap.channel.toUInt16
  band := .v2g4
  rssi := ap.signalStrength

/-- Whether the access point is one of the network that is looked for. -/
def AccessPointInfo.matches (network : Option Bytes) (ap : AccessPointInfo) : Bool :=
  (network.map fun network => decide (ap.ssid = network)).getD true

/-- What the calls of a `scan` come to. -/
structure Scanning where
  isStarted : Except EspError Bool
  start : Except EspError Unit
  scan : Except EspError (List AccessPointInfo)

/-- The calls of a `scan`. -/
inductive ScanCall where
  | isStarted
  | start
  | scan
  deriving DecidableEq

/-- The loop of `scan` over the access points. -/
def report (network : Option Bytes) (f : Visitor σ NetworkScanInfo ErrorCode) :
    List AccessPointInfo → σ → σ × Except NetCtlError Unit
  | [], s => (s, .ok ())
  | ap :: aps, s =>
      if ap.matches network = true then
        match f s ap.toInfo with
        | (s, .error e) => (s, .error (.other e))
        | (s, .ok ()) => report network f aps s
      else
        report network f aps s

/-- Scan for networks, with the driver held: the calls made, and what became of the visitor. -/
def scan (network : Option Bytes) (f : Visitor σ NetworkScanInfo ErrorCode) (answers : Scanning) (s : σ) :
    List ScanCall × σ × Except NetCtlError Unit :=
  match answers.isStarted with
  | .error e => ([.isStarted], s, .error (netCtlError e))
  | .ok started =>
      let starting : List ScanCall × Except EspError Unit :=
        if started = true then ([], .ok ()) else ([.start], answers.start)
      match starting.2 with
      | .error e => (.isStarted :: starting.1, s, .error (netCtlError e))
      | .ok () =>
          match answers.scan with
          | .error e => (.isStarted :: starting.1 ++ [.scan], s, .error (netCtlError e))
          | .ok aps => (.isStarted :: starting.1 ++ [.scan], report network f aps s)

/-! ### Diagnostics -/

inductive SecurityTypeEnum where
  | unspecified
  | none
  | wep
  | wpa
  | wpa2
  | wpa3
  deriving DecidableEq

inductive PhyMode where
  | b
  | g
  | a
  | ht20
  | ht40
  | vht20
  | he20
  | lowRate
  deriving DecidableEq

inductive WiFiVersionEnum where
  | a
  | b
  | g
  | n
  | ac
  | ax
  deriving DecidableEq

/-- What the driver answers to the reads, and whether a scan or a connect holds it. -/
structure StationReads where
  held : Bool
  apInfo : Except EspError AccessPointInfo
  phyMode : Except EspError PhyMode

/-- The AP the station is associated with. `none` while the driver is held. -/
def StationReads.ap? (d : StationReads) : Option AccessPointInfo :=
  if d.held = true then none else d.apInfo.toOption

namespace WifiDiag

variable (d : StationReads)

def bssid (f : Visitor σ (Option (Vector UInt8 6)) ErrorCode) (s : σ) : σ × Except ErrorCode Unit :=
  f s (d.ap?.map AccessPointInfo.bssid)

/-- Mixed modes do not tell which of the two is in use. -/
def securityType : Option SecurityTypeEnum :=
  d.ap?.map fun ap =>
    match ap.authMethod with
    | some .none => .none
    | some .wep => .wep
    | some .wpa => .wpa
    | some .wpa2Personal => .wpa2
    | some .wpa3Personal => .wpa3
    | _ => .unspecified

def wiFiVersion : Option WiFiVersionEnum :=
  if d.held = true then
    none
  else
    match d.phyMode with
    | .ok .b => some .b
    | .ok .g => some .g
    | .ok .a => some .a
    | .ok .ht20 | .ok .ht40 => some .n
    | .ok .vht20 => some .ac
    | .ok .he20 => some .ax
    -- Espressif-proprietary Low Rate has no Matter equivalent
    | .ok .lowRate | .error _ => none

def channelNumber : Option UInt16 := d.ap?.map fun ap => ap.channel.toUInt16
def rssi : Option Int8 := d.ap?.map AccessPointInfo.signalStrength

/-- The bitmap of an access point with security of just this type. -/
def SecurityTypeEnum.bitmap? : SecurityTypeEnum → Option SecurityBitmap
  | .unspecified => Option.none
  | .none => some { SecurityBitmap.empty with unencrypted := true }
  | .wep => some { SecurityBitmap.empty with wep := true }
  | .wpa => some { SecurityBitmap.empty with wpaPersonal := true }
  | .wpa2 => some { SecurityBitmap.empty with wpa2Personal := true }
  | .wpa3 => some { SecurityBitmap.empty with wpa3Personal := true }

/-- The diagnostics tell of an access point what a scan reports of it. -/
structure Agrees (info : NetworkScanInfo) : Prop where
  bssid : ∀ (f : Visitor σ (Option (Vector UInt8 6)) ErrorCode) (s : σ), bssid d f s = f s (some info.bssid)
  channel : channelNumber d = some info.channel
  rssi : rssi d = some info.rssi
  security : ∀ type bitmap, SecurityTypeEnum.bitmap? type = some bitmap →
    (securityType d = some type ↔ info.security = bitmap)

variable {d}

/-- The type of security is told exactly when a scan reports just that one. -/
theorem agrees_of_associated {ap : AccessPointInfo} (hap : d.ap? = some ap) : Agrees (σ := σ) d ap.toInfo where
  bssid := fun f s => by rw [bssid, hap]; rfl
  channel := by rw [channelNumber, hap]; rfl
  rssi := by rw [rssi, hap]; rfl
  security := by
    intro type bitmap hbitmap
    rw [securityType, hap, Option.map_some, Option.some_inj]
    show _ ↔ Wifi.security ap.authMethod = bitmap
    -- by the type, which fixes the bitmap, and then by the method of the access point
    cases type
    all_goals cases hbitmap
    all_goals rcases ap.authMethod with _ | method
    all_goals first | decide | (cases method <;> decide)

/-- **The diagnostics never contradict a scan**: of the access point that the station is associated with they
tell what a scan reports of it, and nothing while a scan or a connect holds the driver. -/
theorem diagnostics_agree (f : Visitor σ (Option (Vector UInt8 6)) ErrorCode) (s : σ) :
    (∀ ap, d.held = false → d.apInfo = .ok ap → Agrees (σ := σ) d ap.toInfo) ∧
      (d.held = true → bssid d f s = f s none ∧ securityType d = none ∧ wiFiVersion d = none ∧
        channelNumber d = none ∧ rssi d = none) := by
  constructor
  · intro ap hheld hap
    apply agrees_of_associated
    rw [StationReads.ap?, hheld, hap]
    rfl
  · intro hheld
    have hap : d.ap? = none := if_pos hheld
    refine ⟨?_, ?_, if_pos hheld, ?_, ?_⟩
    · rw [bssid, hap]
      rfl
    · rw [securityType, hap]
      rfl
    · rw [channelNumber, hap]
      rfl
    · rw [rssi, hap]
      rfl

end WifiDiag

/-! ### What a scan reports -/

theorem report_eq_visit (network : Option Bytes) (f : Visitor σ NetworkScanInfo ErrorCode)
    (aps : List AccessPointInfo) (s : σ) :
    report network f aps s =
      let seen := visit f ((aps.filter (AccessPointInfo.matches network)).map AccessPointInfo.toInfo) s
      (seen.1, seen.2.mapError .other) := by
  induction aps generalizing s with
  | nil => rfl
  | cons ap aps ih =>
      rw [report]
      by_cases hmatches : ap.matches network = true
      · rw [if_pos hmatches, List.filter_cons_of_pos hmatches, List.map_cons, visit]
        rcases f s ap.toInfo with ⟨s', e | u⟩
        · rfl
        · exact ih s'
      · rw [if_neg hmatches, List.filter_cons_of_neg hmatches]
        exact ih s

/-- How a scan goes: it gets to report what was found, or fails before with nothing reported. -/
inductive Scans (network : Option Bytes) (f : Visitor σ NetworkScanInfo ErrorCode) (answers : Scanning) (s : σ) :
    List ScanCall × σ × Except NetCtlError Unit → Prop where
  | reports (started : Bool) (aps : List AccessPointInfo) (seen : σ × Except ErrorCode Unit)
      (hstarted : answers.isStarted = .ok started) (hstart : started = false → answers.start = .ok ())
      (hscan : answers.scan = .ok aps)
      (hseen : Visited f s ((aps.filter (AccessPointInfo.matches network)).map AccessPointInfo.toInfo) seen) :
      Scans network f answers s
        (.isStarted :: (if started = true then [.scan] else [.start, .scan]), seen.1, seen.2.mapError .other)
  | fails (calls : List ScanCall) (e : EspError)
      (hfails : calls = [.isStarted] ∧ answers.isStarted = .error e ∨
        calls = [.isStarted, .start] ∧ answers.isStarted = .ok false ∧ answers.start = .error e ∨
        calls.getLast? = some .scan ∧ answers.scan = .error e) :
      Scans network f answers s (calls, s, .error (netCtlError e))

/-- **A scan reports the access points of the network that is looked for, all of them and in order, up to the
first that the visitor fails on; the station is started first unless it is, and what fails before the
results are there reports nothing.** -/
theorem scan_reports (network : Option Bytes) (f : Visitor σ NetworkScanInfo ErrorCode) (answers : Scanning)
    (s : σ) : Scans network f answers s (scan network f answers s) := by
  unfold scan
  cases hstarted : answers.isStarted with
  | error e => exact .fails _ e (.inl ⟨rfl, hstarted⟩)
  | ok started =>
      cases started with
      | true =>
          dsimp only [if_true]
          cases hscan : answers.scan with
          | error e => exact .fails _ e (.inr (.inr ⟨rfl, hscan⟩))
          | ok aps =>
              dsimp only
              rw [report_eq_visit]
              exact .reports true aps _ hstarted (fun h => by cases h) hscan (visited f _ s)
      | false =>
          dsimp only [Bool.false_eq_true, if_false]
          cases hstart : answers.start with
          | error e => exact .fails _ e (.inr (.inl ⟨rfl, hstarted, hstart⟩))
          | ok u =>
              cases hscan : answers.scan with
              | error e => exact .fails _ e (.inr (.inr ⟨rfl, hscan⟩))
              | ok aps =>
                  dsimp only
                  rw [report_eq_visit]
                  exact .reports false aps _ hstarted (fun _ => hstart) hscan (visited f _ s)

end EspIdfMatter.Wifi
