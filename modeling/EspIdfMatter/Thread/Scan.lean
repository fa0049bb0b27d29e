import EspIdfMatter.Thread.Control

/-! Which networks a scan reports: those that are looked for, among the first five results. -/

namespace EspIdfMatter.Thread

open Library

/-! ### The buffer -/

/-- The results that were reported while the scan was going on. -/
def Scanning.reported (scanning : Scanning) : List ActiveScanResult := scanning.results.reduceOption

theorem foldl_onScanResult (infos : List (Option ActiveScanResult)) (results : ScanResults) :
    infos.foldl onScanResult results =
      (infos.reduceOption.map ActiveScanResult.toOwned).foldl (fun v x => (v.push x).getD v) results := by
  induction infos generalizing results with
  | nil => rfl
  | cons info infos ih =>
      cases info with
      | none => exact ih results
      | some info => exact ih _

/-- **Only the first five results are kept.** -/
theorem foldl_onScanResult_toList (scanning : Scanning) :
    (scanning.results.foldl onScanResult .empty).toList =
      (scanning.reported.take 5).map ActiveScanResult.toOwned := by
  rw [foldl_onScanResult, BoundedVec.foldl_push_getD_toList, BoundedVec.toList_empty, List.nil_append,
    List.map_take]
  rfl

/-! ### Reporting -/

section Report

variable {f : List NetworkScanInfo → NetworkScanInfo → Except ErrorCode Unit} {network : Option Bytes}

theorem reportResults_mem {results : List OwnedScanResult} {reported : List NetworkScanInfo}
    {info : NetworkScanInfo} (h : info ∈ (reportResults f network results reported).1) :
    info ∈ reported ∨ ∃ result ∈ results, result.matches network = true ∧ result.toInfo = info := by
  induction results generalizing reported with
  | nil => exact .inl h
  | cons result results ih =>
      rw [reportResults] at h
      split_ifs at h with hmatches
      · have hlast : info ∈ reported ++ [result.toInfo] → info ∈ reported ∨
            ∃ r ∈ result :: results, r.matches network = true ∧ r.toInfo = info := by
          intro hmem
          rcases List.mem_append.mp hmem with hmem | hmem
          · exact .inl hmem
          · exact .inr ⟨result, List.mem_cons_self, hmatches, (List.mem_singleton.mp hmem).symm⟩
        split at h
        · exact hlast h
        · rcases ih h with hmem | ⟨r, hr, hm, heq⟩
          · exact hlast hmem
          · exact .inr ⟨r, List.mem_cons_of_mem _ hr, hm, heq⟩
      · rcases ih h with hmem | ⟨r, hr, hm, heq⟩
        · exact .inl hmem
        · exact .inr ⟨r, List.mem_cons_of_mem _ hr, hm, heq⟩

/-- When `f` never fails, all of the results that match are reported. -/
theorem reportResults_ok {results : List OwnedScanResult} {reported : List NetworkScanInfo}
    (h : (reportResults f network results reported).2 = .ok ()) :
    (reportResults f network results reported).1 =
      reported ++ (results.filter (OwnedScanResult.matches network)).map OwnedScanResult.toInfo := by
  induction results generalizing reported with
  | nil => exact (List.append_nil _).symm
  | cons result results ih =>
      rw [reportResults] at h ⊢
      split_ifs at h ⊢ with hmatches
      · rw [List.filter_cons_of_pos hmatches, List.map_cons]
        split at h
        · cases h
        · rw [ih h, List.append_assoc, List.singleton_append]
      · rw [List.filter_cons_of_neg hmatches]
        exact ih h

/-- When nothing matches, nothing is reported. -/
theorem reportResults_none {results : List OwnedScanResult} (reported : List NetworkScanInfo)
    (h : ∀ result ∈ results, result.matches network = false) :
    reportResults f network results reported = (reported, .ok ()) := by
  induction results with
  | nil => rfl
  | cons result results ih =>
      have hfirst := h result List.mem_cons_self
      rw [reportResults, hfirst]
      exact ih fun r hr => h r (List.mem_cons_of_mem _ hr)

end Report

/-! ### Looking for one network -/

theorem matches_toOwned {id : Vector UInt8 8} {result : ActiveScanResult} :
    result.toOwned.matches (some id.toList) = true ↔ result.extendedPanId = id := by
  simp only [OwnedScanResult.matches, Option.map_some, Option.getD_some, decide_eq_true_eq,
    ActiveScanResult.toOwned, toBeBytes_fromBeBytes]
  exact Vector.toList_inj

theorem awaitScan_eq_ok_iff {polls : List (Except EspError Bool)} :
    awaitScan polls = some (.ok ()) ↔
      ∃ k later, polls = List.replicate k (.ok true) ++ .ok false :: later := by
  induction polls with
  | nil =>
      refine ⟨nofun, fun ⟨k, later, h⟩ => ?_⟩
      have hlen := congrArg List.length h
      simp at hlen
  | cons poll polls ih =>
      cases poll with
      | error e =>
          refine ⟨nofun, fun ⟨k, later, h⟩ => ?_⟩
          cases k with
          | zero => cases h
          | succ k => cases h
      | ok inProgress =>
          cases inProgress with
          | false => exact ⟨fun _ => ⟨0, polls, rfl⟩, fun _ => rfl⟩
          | true =>
              refine ih.trans ⟨fun ⟨k, later, h⟩ => ⟨k + 1, later, ?_⟩, fun ⟨k, later, h⟩ => ?_⟩
              · rw [h, List.replicate_succ, List.cons_append]
              · cases k with
                | zero => cases h
                | succ k =>
                    rw [List.replicate_succ, List.cons_append] at h
                    exact ⟨k, later, List.tail_eq_of_cons_eq h⟩

/-- The scan starts, and it is over at some time. -/
def Scanning.Completes (scanning : Scanning) : Prop :=
  scanning.started = .ok () ∧
    ∃ k later, scanning.inProgress = List.replicate k (.ok true) ++ .ok false :: later

/-- What is reported carries the id, as the number whose digits are its bytes, the most significant one first. -/
def NetworkScanInfo.Of (id : Vector UInt8 8) (info : NetworkScanInfo) : Prop :=
  info.extPanId.toNat = Nat.ofDigits 256 (id.toList.reverse.map UInt8.toNat)

theorem toInfo_of (result : ActiveScanResult) : result.toOwned.toInfo.Of result.extendedPanId :=
  toNat_fromBeBytes result.extendedPanId

/-- A scan for the network with this id finds it, and nothing else. -/
structure Finds (id : Vector UInt8 8) (reported : List ActiveScanResult)
    (scanned : List NetworkScanInfo × Option (Except NetCtlError Unit)) : Prop where
  found : scanned.2 = some (.ok ()) → (∃ result ∈ reported, result.extendedPanId = id) →
    ∃ result ∈ reported, result.extendedPanId = id ∧ result.toOwned.toInfo ∈ scanned.1
  only : ∀ info ∈ scanned.1, info.Of id ∧ ∃ result ∈ reported,
    result.extendedPanId = id ∧ result.toOwned.toInfo = info

section Looking

variable {id : Vector UInt8 8} {scanning : Scanning}
    {f : List NetworkScanInfo → NetworkScanInfo → Except ErrorCode Unit}

theorem scan_of_completes (h : scanning.Completes) (network : Option Bytes) :
    scan network f scanning =
      let reported := reportResults f network
        ((scanning.reported.take 5).map ActiveScanResult.toOwned) []
      (reported.1, some reported.2) := by
  rw [scan, h.1, awaitScan_eq_ok_iff.mpr h.2]
  dsimp only
  rw [foldl_onScanResult_toList]

theorem scan_of_not_completes (h : ¬ scanning.Completes) (network : Option Bytes) :
    (scan network f scanning).1 = [] ∧ (scan network f scanning).2 ≠ some (.ok ()) := by
  unfold scan
  cases hstarted : scanning.started with
  | error e => exact ⟨rfl, nofun⟩
  | ok _ =>
      cases hawait : awaitScan scanning.inProgress with
      | none => exact ⟨rfl, nofun⟩
      | some result =>
          cases result with
          | error e => exact ⟨rfl, nofun⟩
          | ok _ => exact absurd ⟨hstarted, awaitScan_eq_ok_iff.mp hawait⟩ h

theorem reportResults_only {info : NetworkScanInfo}
    (h : info ∈ (reportResults f (some id.toList)
      ((scanning.reported.take 5).map ActiveScanResult.toOwned) []).1) :
    info.Of id ∧
      ∃ result ∈ scanning.reported, result.extendedPanId = id ∧ result.toOwned.toInfo = info := by
  rcases reportResults_mem h with hmem | ⟨owned, howned, hmatches, rfl⟩
  · cases hmem
  · obtain ⟨result, hresult, rfl⟩ := List.mem_map.mp howned
    have hid := matches_toOwned.mp hmatches
    exact ⟨hid ▸ toInfo_of result, result, List.mem_of_mem_take hresult, hid, rfl⟩

end Looking

/-- **A scan finds the network it looks for exactly when the network is among the first five results**,
if it is among the results at all. Nothing else is ever reported. -/
theorem scan_finds_iff (id : Vector UInt8 8) (scanning : Scanning)
    (f : List NetworkScanInfo → NetworkScanInfo → Except ErrorCode Unit) :
    Finds id scanning.reported (scan (some id.toList) f scanning) ↔
      (scanning.Completes → (∃ result ∈ scanning.reported, result.extendedPanId = id) →
        ∃ result ∈ scanning.reported.take 5, result.extendedPanId = id) := by
  by_cases hcompletes : scanning.Completes
  · rw [scan_of_completes hcompletes]
    constructor
    · intro hfinds _ hexists
      by_contra hnone
      have hmatch : ∀ result ∈ (scanning.reported.take 5).map ActiveScanResult.toOwned,
          result.matches (some id.toList) = false := by
        intro result hresult
        obtain ⟨info, hinfo, rfl⟩ := List.mem_map.mp hresult
        rw [← Bool.not_eq_true, matches_toOwned]
        exact fun heq => hnone ⟨info, hinfo, heq⟩
      rw [reportResults_none [] hmatch] at hfinds
      obtain ⟨result, -, -, hmem⟩ := hfinds.found rfl hexists
      cases hmem
    · intro hfirst
      constructor
      · intro hok hexists
        obtain ⟨result, hresult, hid⟩ := hfirst hcompletes hexists
        refine ⟨result, List.mem_of_mem_take hresult, hid, ?_⟩
        rw [reportResults_ok (Option.some.inj hok), List.nil_append]
        apply List.mem_map_of_mem
        exact List.mem_filter.mpr ⟨List.mem_map_of_mem hresult, matches_toOwned.mpr hid⟩
      · exact fun info hinfo => reportResults_only hinfo
  · obtain ⟨hnil, hok⟩ := scan_of_not_completes (f := f) hcompletes (some id.toList)
    refine ⟨fun _ h => absurd h hcompletes, fun _ => ⟨fun h => absurd h hok, fun info hinfo => ?_⟩⟩
    rw [hnil] at hinfo
    cases hinfo

/-- A network with an id that ends like this. -/
def someNetwork (last : UInt8) : ActiveScanResult where
  panId := 0
  extendedPanId := #v[0, 0, 0, 0, 0, 0, 0, last]
  networkNameCstr := []
  channel := 15
  version := 4
  extendedAddress := .replicate 8 last
  maxRssi := 0
  lqi := 0

/-- Six networks answer. -/
def crowded : Scanning where
  started := .ok ()
  results := [some (someNetwork 1), some (someNetwork 2), some (someNetwork 3), some (someNetwork 4),
    some (someNetwork 5), some (someNetwork 6), none]
  inProgress := [.ok true, .ok false]

/-- The sixth network is not found. -/
theorem crowded_not_found :
    ¬ Finds (someNetwork 6).extendedPanId crowded.reported
      (scan (some (someNetwork 6).extendedPanId.toList) (fun _ _ => .ok ()) crowded) := by
  intro hfinds
  have hscan : scan (some (someNetwork 6).extendedPanId.toList) (fun _ _ => .ok ()) crowded =
      ([], some (.ok ())) := by
    rw [scan_of_completes ⟨rfl, 1, [], rfl⟩, reportResults_none]
    decide
  rw [hscan] at hfinds
  have hexists : ∃ result ∈ crowded.reported,
      result.extendedPanId = (someNetwork 6).extendedPanId := by
    refine ⟨someNetwork 6, ?_, rfl⟩
    simp [Scanning.reported, crowded, List.reduceOption]
  obtain ⟨result, -, -, hmem⟩ := hfinds.found rfl hexists
  cases hmem

end EspIdfMatter.Thread
