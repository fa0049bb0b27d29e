import EspIdfMatter.Netif.Addresses

/-! The cached information about a network interface, and that a load detects exactly the changes of what
is reported from it. -/

namespace EspIdfMatter.Netif

open Library

/-- The cache. The name is a `String<6>`. -/
structure NetifInfoOwned where
  name : BoundedVec UInt8 6
  operational : Bool
  hwAddr : Vector UInt8 8
  ipv4Addr : Ipv4Addr
  ipv6Addr : Ipv6Addr
  netifType : InterfaceTypeEnum
  netifIndex : UInt32
  deriving DecidableEq

def NetifInfoOwned.new : NetifInfoOwned where
  name := .empty
  operational := false
  hwAddr := .replicate 8 0
  ipv4Addr := .unspecified
  ipv6Addr := .unspecified
  netifType := .wiFi
  netifIndex := 0

namespace NetifInfoOwned

def isOperationalV6 (s : NetifInfoOwned) : Bool :=
  s.operational && decide (s.ipv6Addr ≠ .unspecified)

def isOperational (s : NetifInfoOwned) : Bool :=
  s.isOperationalV6 && decide (s.ipv4Addr ≠ .unspecified)

/-- What `NetifDiag::netifs` reports. -/
def asRef (s : NetifInfoOwned) : NetifInfo where
  name := s.name.toList
  operational := s.operational
  offpremSvcReachableIpv4 := none
  offpremSvcReachableIpv6 := none
  hwAddr := s.hwAddr
  ipv4Addrs := if s.ipv4Addr = .unspecified then [] else [s.ipv4Addr]
  ipv6Addrs := if s.ipv6Addr = .unspecified then [] else [s.ipv6Addr]
  netifType := s.netifType
  netifIndex := s.netifIndex

/-- Load an interface info, and tell whether anything changed. `none` is a failed `unwrap`, of a name
that is too long. -/
def loadFromInfo (s : NetifInfoOwned) (l2Connected : Bool) (info : NetifInfo)
    (hwAddr : Option (Vector UInt8 8)) : Option (NetifInfoOwned × Bool) :=
  let hwAddr := hwAddr.getD info.hwAddr
  let ipv4Addr := infoIpv4Addr info
  let ipv6Addr := infoIpv6Addr info
  -- An interface counts as operational only if the L2 protocol is connected too.
  let operational := info.operational && l2Connected
  if s.name.toList ≠ info.name ∨ s.operational ≠ operational ∨ s.hwAddr ≠ hwAddr ∨
      s.ipv4Addr ≠ ipv4Addr ∨ s.ipv6Addr ≠ ipv6Addr ∨ s.netifType ≠ info.netifType ∨
      s.netifIndex ≠ info.netifIndex then
    (BoundedVec.empty.extendFromSlice info.name).map fun name =>
      ({ name, operational, hwAddr, ipv4Addr, ipv6Addr, netifType := info.netifType,
         netifIndex := info.netifIndex }, true)
  else
    some (s, false)

/-- Load the configuration of an interface. `none` is a panic. -/
def load {n : Nat} (s : NetifInfoOwned) (l2Connected : Bool) (netif : EspNetif n)
    (netifType : InterfaceTypeEnum) (hwAddr : Option (Vector UInt8 8)) :
    Option (Except EspError (NetifInfoOwned × Bool)) :=
  match getNetifConf netif netifType with
  | none => none
  | some (.error e) => some (.error e)
  | some (.ok info) => (s.loadFromInfo l2Connected info hwAddr).map .ok

end NetifInfoOwned

/-- The arguments of a load. The name fits. -/
structure Load where
  l2Connected : Bool
  info : NetifInfo
  hwAddr : Option (Vector UInt8 8)
  name_le : info.name.length ≤ 6

/-- The cache that is computed from one load alone. -/
def Load.view (load : Load) : NetifInfoOwned where
  name := ⟨load.info.name, load.name_le⟩
  operational := load.info.operational && load.l2Connected
  hwAddr := load.hwAddr.getD load.info.hwAddr
  ipv4Addr := infoIpv4Addr load.info
  ipv6Addr := infoIpv6Addr load.info
  netifType := load.info.netifType
  netifIndex := load.info.netifIndex

namespace NetifInfoOwned

/-- **Nothing of the cache is lost in what is reported.** -/
theorem asRef_injective {s s' : NetifInfoOwned} (h : s.asRef = s'.asRef) : s = s' := by
  have hv4 : s.ipv4Addr = s'.ipv4Addr := by
    have heq := congrArg NetifInfo.ipv4Addrs h
    simp only [asRef] at heq
    split_ifs at heq with hs hs' hs'
    · rw [hs, hs']
    · exact List.singleton_inj.mp heq
  have hv6 : s.ipv6Addr = s'.ipv6Addr := by
    have heq := congrArg NetifInfo.ipv6Addrs h
    simp only [asRef] at heq
    split_ifs at heq with hs hs' hs'
    · rw [hs, hs']
    · exact List.singleton_inj.mp heq
  have hname : s.name = s'.name := BoundedVec.ext (congrArg NetifInfo.name h)
  have hup : s.operational = s'.operational := congrArg NetifInfo.operational h
  have hhw : s.hwAddr = s'.hwAddr := congrArg NetifInfo.hwAddr h
  have htype : s.netifType = s'.netifType := congrArg NetifInfo.netifType h
  have hindex : s.netifIndex = s'.netifIndex := congrArg NetifInfo.netifIndex h
  cases s
  cases s'
  subst hname hup hhw hv4 hv6 htype hindex
  rfl

/-- **A load leaves exactly what it was given in the cache**, and reports a change if the cache was
anything else before. -/
theorem loadFromInfo_eq (s : NetifInfoOwned) (load : Load) :
    s.loadFromInfo load.l2Connected load.info load.hwAddr =
      some (load.view, decide (s ≠ load.view)) := by
  have hfits := BoundedVec.extendFromSlice_empty load.name_le
  by_cases hsame : s = load.view
  · subst hsame
    simp [loadFromInfo, Load.view]
  · have hdiffers : s.name.toList ≠ load.info.name ∨
        s.operational ≠ (load.info.operational && load.l2Connected) ∨
        s.hwAddr ≠ load.hwAddr.getD load.info.hwAddr ∨ s.ipv4Addr ≠ infoIpv4Addr load.info ∨
        s.ipv6Addr ≠ infoIpv6Addr load.info ∨ s.netifType ≠ load.info.netifType ∨
        s.netifIndex ≠ load.info.netifIndex := by
      by_contra hall
      push Not at hall
      obtain ⟨hname, hup, hhw, hv4, hv6, htype, hindex⟩ := hall
      apply hsame
      cases s
      cases hup
      cases hhw
      cases hv4
      cases hv6
      cases htype
      cases hindex
      exact congrArg (fun name => NetifInfoOwned.mk name _ _ _ _ _ _) (BoundedVec.ext hname)
    unfold loadFromInfo
    dsimp only
    rw [if_pos hdiffers, hfits, Option.map_some, decide_eq_true hsame]
    rfl

/-- The cache after a sequence of loads. -/
def loadAll (s : NetifInfoOwned) (loads : List Load) : Option NetifInfoOwned :=
  loads.foldlM (fun s load => (s.loadFromInfo load.l2Connected load.info load.hwAddr).map Prod.fst) s

theorem loadAll_eq (s : NetifInfoOwned) (loads : List Load) :
    s.loadAll loads = some ((loads.getLast?.map Load.view).getD s) := by
  induction loads generalizing s with
  | nil => rfl
  | cons load loads ih =>
      rw [loadAll, List.foldlM_cons, loadFromInfo_eq, Option.map_some]
      change loadAll load.view loads = _
      rw [ih]
      cases loads with
      | nil => rfl
      | cons next loads => rw [List.getLast?_cons_cons, List.getLast?_cons, Option.map_some]; rfl

theorem isOperationalV6_view (load : Load) :
    load.view.isOperationalV6 = infoIsOperationalV6 load.l2Connected load.info := by
  simp only [isOperationalV6, Load.view, infoIsOperationalV6]
  rw [Bool.and_comm load.info.operational]
  rfl

theorem isOperational_view (load : Load) :
    load.view.isOperational = infoIsOperational load.l2Connected load.info := by
  rw [isOperational, isOperationalV6_view]
  rfl

end NetifInfoOwned

/-! ### Thread interfaces -/

section Thread

variable {n : Nat}

/-- The load is one of a Thread interface with this table of specified addresses. -/
structure Load.OfThread (load : Load) (t : Table n) : Prop where
  specified : ∀ a ∈ t.addrs, a ≠ .unspecified
  conf : ∃ netif : EspNetif n, netif.Reads t ∧
    getNetifConf netif .thread = some (.ok load.info)

theorem Load.OfThread.collected {load : Load} {t : Table n} (h : load.OfThread t) :
    load.info.netifType = .thread ∧ Collected t load.info.ipv6Addrs := by
  obtain ⟨netif, hreads, hconf⟩ := h.conf
  obtain ⟨result, hresult, -, hinfo⟩ := getNetifConf_of_reads hreads .thread
  apply hinfo
  rw [hconf] at hresult
  exact (Option.some.inj hresult).symm

/-- What is reported is an address of the table, if anything is. -/
theorem Load.OfThread.mem_addrs {load : Load} {t : Table n} (h : load.OfThread t)
    (hne : load.view.ipv6Addr ≠ .unspecified) : load.view.ipv6Addr ∈ t.addrs := by
  obtain ⟨-, hcollected⟩ := h.collected
  cases reported_infoIpv6Addr hcollected with
  | preferred _ ha _ => exact t.preferredAddrs_subset ha
  | beyond _ _ ha _ => exact ha
  | linkLocal _ ha _ => exact ha
  | unspecified _ _ haddr => exact absurd haddr hne

/-- A routable address that appears is not the one that was reported. -/
theorem Load.OfThread.appears {load load' : Load} {t t' : Table n} (h : load.OfThread t)
    (h' : load'.OfThread t') {a : Ipv6Addr} (ha : a ∈ t'.preferredAddrs) (hbeyond : a.Beyond)
    (hnew : ∀ a ∈ t'.preferredAddrs, a.Beyond → a ∉ t.addrs) : load.view ≠ load'.view := by
  obtain ⟨htype, hcollected⟩ := h'.collected
  obtain ⟨hmem, hb⟩ := infoIpv6Addr_preferred hcollected htype ha hbeyond
  have hspecified := h'.specified _ (t'.preferredAddrs_subset hmem)
  intro heq
  have haddr : load.view.ipv6Addr = infoIpv6Addr load'.info := congrArg NetifInfoOwned.ipv6Addr heq
  apply hnew _ hmem hb
  rw [← haddr] at hspecified ⊢
  exact h.mem_addrs hspecified

/-- An address that is gone from the table is not reported any more. -/
theorem Load.OfThread.disappears {s : NetifInfoOwned} {load' : Load} {t' : Table n}
    (h' : load'.OfThread t') {a : Ipv6Addr} (ha : s.asRef.ipv6Addrs = [a]) (hgone : a ∉ t'.addrs) :
    s ≠ load'.view := by
  simp only [NetifInfoOwned.asRef] at ha
  split_ifs at ha with hs
  intro heq
  have haddr : load'.view.ipv6Addr = a := heq ▸ List.singleton_inj.mp ha
  apply hgone
  rw [← haddr]
  apply h'.mem_addrs
  rw [← heq]
  exact hs

end Thread

/-- **Change detection is exact.** After any sequence of loads, a load reports a change exactly when what
is reported of the interface differs before and after; what it leaves is what this load alone gives, so
that the same load again reports nothing. On a Thread interface it reports every routable address that
appears, and every reported one that disappears. -/
theorem loadFromInfo_detects_changes (n : Nat) (loads : List Load) (load : Load) :
    ∃ s s' changed, NetifInfoOwned.new.loadAll loads = some s ∧
      s.loadFromInfo load.l2Connected load.info load.hwAddr = some (s', changed) ∧
      (changed = true ↔ s.asRef ≠ s'.asRef) ∧
      s' = load.view ∧
      s'.loadFromInfo load.l2Connected load.info load.hwAddr = some (s', false) ∧
      s'.isOperational = infoIsOperational load.l2Connected load.info ∧
      s'.isOperationalV6 = infoIsOperationalV6 load.l2Connected load.info ∧
      ∀ t' : Table n, load.OfThread t' →
        (∀ t : Table n, (∃ previous, loads.getLast? = some previous ∧ previous.OfThread t) →
          (∃ a ∈ t'.preferredAddrs, ¬ a.LinkLocal) →
          (∀ a ∈ t'.preferredAddrs, ¬ a.LinkLocal → a ∉ t.addrs) → changed = true) ∧
        ∀ a, s.asRef.ipv6Addrs = [a] → a ∉ t'.addrs → changed = true := by
  have hload := NetifInfoOwned.loadFromInfo_eq
  refine ⟨_, load.view, _, NetifInfoOwned.loadAll_eq _ loads, hload _ load, ?_, rfl, ?_,
    NetifInfoOwned.isOperational_view load, NetifInfoOwned.isOperationalV6_view load,
    fun t' h' => ⟨fun t hlast happears hnew => ?_, fun a ha hgone => ?_⟩⟩
  · rw [decide_eq_true_eq]
    exact not_congr ⟨congrArg NetifInfoOwned.asRef, NetifInfoOwned.asRef_injective⟩
  · rw [hload, decide_eq_false (not_not_intro rfl)]
  · obtain ⟨previous, hprevious, h⟩ := hlast
    obtain ⟨a, ha, hbeyond⟩ := happears
    rw [decide_eq_true_eq, hprevious]
    exact h.appears h' ha hbeyond hnew
  · rw [decide_eq_true_eq]
    exact Load.OfThread.disappears h' ha hgone

/-- The link-local address alone. -/
def tableQuiet : Table 6 := ⟨[⟨someAddr 0xfe 0x80 1, 0, false⟩], by decide⟩

/-- What is read of a Thread interface with these addresses. -/
def threadInfo (ipv6Addrs : List Ipv6Addr) : NetifInfo where
  name := []
  operational := true
  offpremSvcReachableIpv4 := none
  offpremSvcReachableIpv6 := none
  hwAddr := #v[7, 7, 7, 7, 7, 7, 0, 0]
  ipv4Addrs := [.unspecified]
  ipv6Addrs := ipv6Addrs
  netifType := .thread
  netifIndex := 1

def threadLoad (ipv6Addrs : List Ipv6Addr) : Load where
  l2Connected := true
  info := threadInfo ipv6Addrs
  hwAddr := none
  name_le := Nat.zero_le 6

theorem threadLoad_ofThread {t : Table 6} {ipv6Addrs : List Ipv6Addr}
    (hspecified : ∀ a ∈ t.addrs, a ≠ .unspecified)
    (hconf : getNetifConf { someNetif with preferredIp6 := t.preferred, allIp6 := t.all } .thread =
      some (.ok (threadInfo ipv6Addrs))) : (threadLoad ipv6Addrs).OfThread t :=
  ⟨hspecified, _, ⟨rfl, rfl⟩, hconf⟩

/-- A routable address appears beside the link-local one, and is gone again with its network. -/
theorem loadFromInfo_detects_changes_thread :
    let quiet := threadLoad [someAddr 0xfe 0x80 1]
    let routable := threadLoad [someAddr 0x20 0x01 1, someAddr 0xfe 0x80 1]
    let moved := threadLoad [someAddr 0x20 0x01 4, someAddr 0x20 0x01 5, someAddr 0x20 0x01 6,
      someAddr 0xfe 0x80 1, someAddr 0xfd 0x00 2, someAddr 0xfd 0x00 3]
    (∃ s s', NetifInfoOwned.new.loadAll [quiet] = some s ∧
      s.loadFromInfo true routable.info none = some (s', true)) ∧
    ∃ s s', NetifInfoOwned.new.loadAll [quiet, routable] = some s ∧
      s.loadFromInfo true moved.info none = some (s', true) := by
  intro quiet routable moved
  have hquiet : quiet.OfThread tableQuiet := threadLoad_ofThread (by decide +kernel) (by decide +kernel)
  have hroutable : routable.OfThread tableBefore := threadLoad_ofThread (by decide +kernel) (by decide +kernel)
  have hmoved : moved.OfThread tableAfter := threadLoad_ofThread (by decide +kernel) (by decide +kernel)
  constructor
  · obtain ⟨s, s', changed, hs, hload, -, -, -, -, -, hthread⟩ :=
      loadFromInfo_detects_changes 6 [quiet] routable
    have hchanged : changed = true := by
      apply (hthread tableBefore hroutable).1 tableQuiet ⟨quiet, rfl, hquiet⟩
      · exact ⟨someAddr 0x20 0x01 1, List.mem_cons_self, by decide +kernel⟩
      · decide +kernel
    rw [hchanged] at hload
    exact ⟨s, s', hs, hload⟩
  · obtain ⟨s, s', changed, hs, hload, -, -, -, -, -, hthread⟩ :=
      loadFromInfo_detects_changes 6 [quiet, routable] moved
    have hreported : s.asRef.ipv6Addrs = [someAddr 0x20 0x01 1] := by
      rw [NetifInfoOwned.loadAll_eq] at hs
      cases hs
      decide +kernel
    have hchanged : changed = true := by
      apply (hthread tableAfter hmoved).2 _ hreported
      decide +kernel
    rw [hchanged] at hload
    exact ⟨s, s', hs, hload⟩

end EspIdfMatter.Netif
