import EspIdfMatter.Library.Watch
import EspIdfMatter.Netif.Changes

/-! The change notification of `EspMatterNetif`. Whoever waits for a change loads the configuration of the
interface into the one cache, again and again, until a load finds a change. -/

namespace EspIdfMatter.Netif

open Library Library.Machine

variable {ω : Type} {n : Nat}

/-- An iteration of the loop of a `wait_changed`: whose it is, and what the access to the interface gives. -/
structure Iteration (ω : Type) (n : Nat) where
  waiter : ω
  l2Connected : Bool
  netif : EspNetif n
  hwAddr : Option (Vector UInt8 8)

/-- A change: whose wait it ends, and what `netifs` reports from then on. -/
structure Change (ω : Type) where
  waiter : ω
  info : NetifInfo

/-- One iteration on the cache, which is `none` after a panic. A load that fails counts as unchanged. -/
def iterate (netifType : InterfaceTypeEnum) (cache : Option NetifInfoOwned) (it : Iteration ω n) :
    Option NetifInfoOwned × List (Change ω) :=
  match cache with
  | none => (none, [])
  | some s =>
      match s.load it.l2Connected it.netif netifType it.hwAddr with
      | none => (none, [])
      | some (.error _) => (some s, [])
      | some (.ok (s, changed)) => (some s, if changed = true then [⟨it.waiter, s.asRef⟩] else [])

/-- What a load finds, unless it fails. -/
def Iteration.found (netifType : InterfaceTypeEnum) (it : Iteration ω n) : Option NetifInfoOwned :=
  match getNetifConf it.netif netifType with
  | some (.ok info) =>
      if h : info.name.length ≤ 6 then some (Load.view ⟨it.l2Connected, info, it.hwAddr, h⟩) else none
  | _ => none

/-- The configuration fits where it is loaded into. -/
def Iteration.Fits (netifType : InterfaceTypeEnum) (it : Iteration ω n) : Prop :=
  ∃ conf, getNetifConf it.netif netifType = some conf ∧ ∀ info, conf = .ok info → info.name.length ≤ 6

/-- An iteration looks for a change, or does nothing. -/
theorem iterate_of_fits {netifType : InterfaceTypeEnum} {it : Iteration ω n} (hfits : it.Fits netifType)
    (s : NetifInfoOwned) :
    iterate netifType (some s) it =
      match it.found netifType with
      | none => (some s, [])
      | some found => (some found, if s ≠ found then [⟨it.waiter, found.asRef⟩] else []) := by
  obtain ⟨conf, hconf, hname⟩ := hfits
  cases conf with
  | error e => simp only [iterate, NetifInfoOwned.load, Iteration.found, hconf]
  | ok info =>
      have hload := s.loadFromInfo_eq ⟨it.l2Connected, info, it.hwAddr, hname info rfl⟩
      simp only [iterate, NetifInfoOwned.load, Iteration.found, hconf, dif_pos (hname info rfl), hload,
        Option.map_some, decide_eq_true_eq]

/-- The iterations watch the cache: they look at what the loads find. -/
theorem iterate_watches {netifType : InterfaceTypeEnum} {its : List (Iteration ω n)}
    (hfits : ∀ it ∈ its, it.Fits netifType) (s : NetifInfoOwned) :
    let looks := (its.filterMap (Iteration.found netifType)).map Watch.Op.look
    (outputs (iterate netifType) (some s) its).map Change.info =
        (outputs (Watch.step .new) s looks).map NetifInfoOwned.asRef ∧
      after (iterate netifType) (some s) its = some (after (Watch.step .new) s looks) := by
  induction its generalizing s with
  | nil => exact ⟨rfl, rfl⟩
  | cons it its ih =>
      obtain ⟨hfirst, hrest⟩ := List.forall_mem_cons.mp hfits
      have hiterate := iterate_of_fits hfirst s
      cases hfound : it.found netifType with
      | none =>
          rw [hfound] at hiterate
          rw [outputs_cons, after_cons, hiterate, List.nil_append, List.filterMap_cons_none hfound]
          exact ih hrest s
      | some found =>
          obtain ⟨hout, hafter⟩ := ih hrest found
          rw [hfound] at hiterate
          dsimp only at hiterate hout hafter ⊢
          rw [outputs_cons, after_cons, hiterate, List.filterMap_cons_some hfound, List.map_cons,
            outputs_cons, after_cons, Watch.step, List.map_append, List.map_append, hout]
          refine ⟨?_, hafter⟩
          split
          · rfl
          · rfl

/-- **Each change of what is reported ends one wait**: over all who wait, the waits end with exactly what
the loads find, one after the other without the repetitions, whichever loads fail in between. -/
theorem changes_reported_once (netifType : InterfaceTypeEnum) (its : List (Iteration ω n))
    (hfits : ∀ it ∈ its, it.Fits netifType) :
    NetifInfoOwned.new.asRef :: (outputs (iterate netifType) (some .new) its).map Change.info =
      ((its.filterMap (Iteration.found netifType)).destutter' (· ≠ ·) .new).map NetifInfoOwned.asRef ∧
    after (iterate netifType) (some .new) its =
      some ((its.filterMap (Iteration.found netifType)).getLast?.getD .new) := by
  obtain ⟨hout, hafter⟩ := iterate_watches hfits .new
  refine ⟨?_, ?_⟩
  · rw [hout, ← List.map_cons, Watch.outputs_look]
  · rw [hafter, Watch.after_look]

/-- A Wi-Fi interface with this address, which is up. -/
def wifiAt (ipv4 : Ipv4Addr) : EspNetif 6 where
  ipInfo := .ok ipv4
  preferredIp6 := .empty
  allIp6 := .empty
  mac := .ok (.replicate 6 2)
  name := [115, 116, 49]
  isNetifUp := .ok true
  isUp := .ok true
  index := 1

/-- Two wait, and the interface is seen twice with one address and then with another. -/
def twoWaiters : List (Iteration Bool 6) :=
  [⟨false, true, wifiAt ⟨.replicate 4 1⟩, none⟩, ⟨true, true, wifiAt ⟨.replicate 4 1⟩, none⟩,
    ⟨true, true, { wifiAt ⟨.replicate 4 1⟩ with ipInfo := .error ⟨-1⟩ }, none⟩,
    ⟨false, true, wifiAt ⟨.replicate 4 2⟩, none⟩]

theorem changes_reported_once_twoWaiters :
    NetifInfoOwned.new.asRef ::
        (outputs (iterate .wiFi) (some .new) twoWaiters).map Change.info =
      ((twoWaiters.filterMap (Iteration.found .wiFi)).destutter' (· ≠ ·) .new).map NetifInfoOwned.asRef := by
  refine (changes_reported_once .wiFi twoWaiters ?_).1
  have hfits : ∀ ipv4 waiter, (⟨waiter, true, wifiAt ipv4, none⟩ : Iteration Bool 6).Fits .wiFi :=
    fun ipv4 waiter => ⟨_, rfl, fun info hinfo => by
      cases hinfo
      exact Nat.le_of_ble_eq_true rfl⟩
  have hfails : (⟨true, true, { wifiAt ⟨.replicate 4 1⟩ with ipInfo := .error ⟨-1⟩ }, none⟩ :
      Iteration Bool 6).Fits .wiFi := ⟨_, rfl, fun info hinfo => by cases hinfo⟩
  exact List.forall_mem_cons.mpr ⟨hfits _ _, List.forall_mem_cons.mpr ⟨hfits _ _,
    List.forall_mem_cons.mpr ⟨hfails, List.forall_mem_singleton.mpr (hfits _ _)⟩⟩⟩

end EspIdfMatter.Netif
