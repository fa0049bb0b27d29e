import EspIdfMatter.Netif.Table

/-! Which addresses are collected from the two calls of ESP-IDF, whether there is room for them, and
which one of them is reported. -/

namespace EspIdfMatter.Netif

open Library

variable {n : Nat}

/-! ### Collecting -/

theorem collectIp6_eq_gather (t t' : Table n) :
    ∃ v : BoundedVec Ipv6Addr n, v.toList = t.preferredAddrs ∧
      collectIp6 t.preferred t'.all = v.gather t'.addrs := by
  have hfits : (BoundedVec.empty : BoundedVec Ipv6Addr n).length +
      (t.preferred.toList.map espIp6ToAddr).length ≤ n := by
    rw [List.length_map, BoundedVec.length, BoundedVec.toList_empty, List.length_nil, Nat.zero_add]
    exact t.preferred.length_le
  obtain ⟨v, hv⟩ := BoundedVec.foldlM_push_of_le hfits
  have hlist := BoundedVec.foldlM_push_toList hv
  rw [BoundedVec.toList_empty, List.nil_append, t.map_preferred] at hlist
  refine ⟨v, hlist, ?_⟩
  rw [collectIp6, hv, t'.map_all]
  rfl

/-- **Collecting does not panic exactly when there is room** for the preferred addresses of the first
call and for the addresses that only the second one reports, each counted once. The table may change
between the two calls. -/
theorem collectIp6_isSome_iff (t t' : Table n) :
    (collectIp6 t.preferred t'.all).isSome = true ↔
      t.preferredAddrs.length + (t'.addrs.toFinset \ t.preferredAddrs.toFinset).card ≤ n := by
  obtain ⟨v, hv, hcollect⟩ := collectIp6_eq_gather t t'
  rw [hcollect, BoundedVec.gather_isSome_iff, BoundedVec.length, hv]

/-- **The configuration is read without a panic exactly when there is room** for all of these addresses,
once the IP information could be read. -/
theorem getNetifConf_no_panic_iff (netif : EspNetif n) (ipv4 : Ipv4Addr) (netifType : InterfaceTypeEnum)
    (t t' : Table n) :
    (getNetifConf { netif with ipInfo := .ok ipv4, preferredIp6 := t.preferred, allIp6 := t'.all }
        netifType).isSome = true ↔
      t.preferredAddrs.length + (t'.addrs.toFinset \ t.preferredAddrs.toFinset).card ≤ n := by
  rw [← collectIp6_isSome_iff, getNetifConf, Option.isSome_map]

/-- An address with these first two octets and this last one. -/
def someAddr (first second last : UInt8) : Ipv6Addr :=
  ⟨#v[first, second, 0, 0, 0, 0, 0, 0, 0, 0, 0, 0, 0, 0, 0, last]⟩

/-- A link-local address and a routable one. -/
def tableBefore : Table 6 := ⟨[⟨someAddr 0xfe 0x80 1, 0, false⟩, ⟨someAddr 0x20 0x01 1, 0, true⟩], by decide⟩

/-- The link-local address, and those of another network. -/
def tableAfter : Table 6 :=
  ⟨[⟨someAddr 0xfe 0x80 1, 0, false⟩, ⟨someAddr 0xfd 0x00 2, 0, false⟩, ⟨someAddr 0xfd 0x00 3, 0, false⟩,
    ⟨someAddr 0x20 0x01 4, 0, true⟩, ⟨someAddr 0x20 0x01 5, 0, true⟩, ⟨someAddr 0x20 0x01 6, 0, true⟩],
    by decide⟩

/-- When the table changes between the calls, one address that is gone may be one too many. -/
theorem collectIp6_panics : collectIp6 tableBefore.preferred tableAfter.all = none := by
  decide +kernel

/-- For a table without repetitions, the addresses that vanish between the two calls have to fit beside
those that are there at the second one. -/
theorem collectIp6_isSome_iff_vanished (t t' : Table n) (hnodup : t.preferredAddrs.Nodup) :
    (collectIp6 t.preferred t'.all).isSome = true ↔
      (t.preferredAddrs.filter (· ∉ t'.addrs)).length + t'.addrs.toFinset.card ≤ n := by
  have hcount : t.preferredAddrs.length + (t'.addrs.toFinset \ t.preferredAddrs.toFinset).card =
      (t.preferredAddrs.filter (· ∉ t'.addrs)).length + t'.addrs.toFinset.card := by
    have hfilter : (t.preferredAddrs.filter (· ∉ t'.addrs)).toFinset =
        t.preferredAddrs.toFinset \ t'.addrs.toFinset := by
      ext a
      simp
    calc t.preferredAddrs.length + (t'.addrs.toFinset \ t.preferredAddrs.toFinset).card
        = (t'.addrs.toFinset \ t.preferredAddrs.toFinset).card + t.preferredAddrs.toFinset.card := by
          rw [List.toFinset_card_of_nodup hnodup, Nat.add_comm]
      _ = (t'.addrs.toFinset ∪ t.preferredAddrs.toFinset).card := Finset.card_sdiff_add_card _ _
      _ = (t.preferredAddrs.toFinset ∪ t'.addrs.toFinset).card := by rw [Finset.union_comm]
      _ = (t.preferredAddrs.toFinset \ t'.addrs.toFinset).card + t'.addrs.toFinset.card :=
          (Finset.card_sdiff_add_card _ _).symm
      _ = (t.preferredAddrs.filter (· ∉ t'.addrs)).length + t'.addrs.toFinset.card := by
          rw [← hfilter, List.toFinset_card_of_nodup (hnodup.filter _)]
  rw [collectIp6_isSome_iff, hcount]

/-- **A table that does not change has room for its addresses.** -/
theorem collectIp6_of_table (t : Table n) :
    ∃ v : BoundedVec Ipv6Addr n, collectIp6 t.preferred t.all = some v ∧
      v.toList = gather t.preferredAddrs t.addrs := by
  have hroom : t.preferredAddrs.length + (t.addrs.toFinset \ t.preferredAddrs.toFinset).card ≤ n := by
    have hothers : t.addrs.toFinset \ t.preferredAddrs.toFinset ⊆
        ((t.toList.filter fun entry => !entry.preferred).map Entry.addr).toFinset := by
      intro a ha
      rw [Finset.mem_sdiff, List.mem_toFinset, List.mem_toFinset] at ha
      obtain ⟨hall, hnot⟩ := ha
      obtain ⟨entry, hentry, rfl⟩ := List.mem_map.mp hall
      refine List.mem_toFinset.mpr (List.mem_map.mpr ⟨entry, List.mem_filter.mpr ⟨hentry, ?_⟩, rfl⟩)
      rw [Bool.not_eq_true', ← Bool.not_eq_true]
      intro hpreferred
      exact hnot (List.mem_map.mpr ⟨entry, List.mem_filter.mpr ⟨hentry, hpreferred⟩, rfl⟩)
    have hpreferred : t.preferredAddrs.length = (t.toList.filter Entry.preferred).length :=
      List.length_map _
    calc t.preferredAddrs.length + (t.addrs.toFinset \ t.preferredAddrs.toFinset).card
        ≤ (t.toList.filter Entry.preferred).length +
            (t.toList.filter fun entry => !entry.preferred).length := by
          rw [hpreferred]
          apply Nat.add_le_add_left
          apply (Finset.card_le_card hothers).trans
          apply (List.toFinset_card_le _).trans
          rw [List.length_map]
      _ = t.toList.length := (List.length_eq_length_filter_add _).symm
      _ ≤ n := t.length_le
  obtain ⟨v, hv⟩ := Option.isSome_iff_exists.mp ((collectIp6_isSome_iff t t).mpr hroom)
  refine ⟨v, hv, ?_⟩
  obtain ⟨w, hw, hcollect⟩ := collectIp6_eq_gather t t
  rw [hcollect, BoundedVec.gather_eq_some_iff, hw] at hv
  exact hv.symm

/-! ### Reading an unchanged table -/

/-- The interface has this address table, which does not change while it is read. -/
structure EspNetif.Reads (netif : EspNetif n) (t : Table n) : Prop where
  preferred : netif.preferredIp6 = t.preferred
  all : netif.allIp6 = t.all

/-- What is collected from an unchanged table: all of its addresses, the preferred ones first. -/
structure Collected (t : Table n) (addrs : List Ipv6Addr) : Prop where
  mem_iff : ∀ a, a ∈ addrs ↔ a ∈ t.addrs
  preferred_first : ∃ rest, addrs = t.preferredAddrs ++ rest ∧ ∀ a ∈ rest, a ∉ t.preferredAddrs

theorem collected_gather (t : Table n) : Collected t (gather t.preferredAddrs t.addrs) := by
  constructor
  · intro a
    rw [mem_gather]
    exact ⟨fun h => h.elim t.preferredAddrs_subset id, .inr⟩
  · obtain ⟨rest, heq, hrest⟩ := gather_eq_append t.preferredAddrs t.addrs
    exact ⟨rest, heq, fun a ha => (hrest a ha).2⟩

/-- Every call that is made to read the configuration succeeds. -/
structure EspNetif.Answers (netif : EspNetif n) (netifType : InterfaceTypeEnum) : Prop where
  ipInfo : ∃ ipv4, netif.ipInfo = .ok ipv4
  mac : ∃ mac, netif.mac = .ok mac
  up : if netifType = .thread then ∃ up, netif.isNetifUp = .ok up else ∃ up, netif.isUp = .ok up

/-- What `getNetifConf` makes of an interface whose table does not change. -/
theorem getNetifConf_of_reads {netif : EspNetif n} {t : Table n} (hreads : netif.Reads t)
    (netifType : InterfaceTypeEnum) :
    ∃ result, getNetifConf netif netifType = some result ∧
      ((∃ info, result = .ok info) ↔ netif.Answers netifType) ∧
      ∀ info, result = .ok info → info.netifType = netifType ∧ Collected t info.ipv6Addrs := by
  obtain ⟨v, hv, hlist⟩ := collectIp6_of_table t
  unfold getNetifConf
  cases hip : netif.ipInfo with
  | error e =>
      refine ⟨.error e, rfl, ⟨nofun, fun hall => ?_⟩, nofun⟩
      obtain ⟨ipv4, hipv4⟩ := hall.ipInfo
      cases hip.symm.trans hipv4
  | ok ipv4 =>
      dsimp only
      rw [hreads.preferred, hreads.all, hv, Option.map_some]
      refine ⟨_, rfl, ?_, fun info hinfo => ?_⟩
      · cases hmac : netif.mac with
        | error e =>
            refine ⟨nofun, fun hall => ?_⟩
            obtain ⟨mac, hmac'⟩ := hall.mac
            cases hmac.symm.trans hmac'
        | ok mac =>
            dsimp only
            have hup : (∃ up, (if netifType = .thread then netif.isNetifUp else netif.isUp) = .ok up) ↔
                netif.Answers netifType := by
              constructor
              · intro hup
                refine ⟨⟨ipv4, hip⟩, ⟨mac, hmac⟩, ?_⟩
                split_ifs at hup ⊢ <;> exact hup
              · intro hall
                have hup := hall.up
                split_ifs at hup ⊢ <;> exact hup
            rw [← hup]
            cases hanswer : if netifType = .thread then netif.isNetifUp else netif.isUp with
            | error e => exact ⟨nofun, nofun⟩
            | ok up => exact ⟨fun _ => ⟨up, rfl⟩, fun _ => ⟨_, rfl⟩⟩
      · cases hmac : netif.mac with
        | error e =>
            rw [hmac] at hinfo
            cases hinfo
        | ok mac =>
            rw [hmac] at hinfo
            dsimp only at hinfo
            cases hup : if netifType = .thread then netif.isNetifUp else netif.isUp with
            | error e =>
                rw [hup] at hinfo
                cases hinfo
            | ok operational =>
                rw [hup] at hinfo
                cases hinfo
                exact ⟨rfl, hlist ▸ collected_gather t⟩

section Reported

variable {t : Table n} {info : NetifInfo} (hinfo : Collected t info.ipv6Addrs)

def Ipv6Addr.Beyond (a : Ipv6Addr) : Prop := ¬ a.LinkLocal

theorem not_isUnicastLinkLocal_iff (a : Ipv6Addr) : (!a.isUnicastLinkLocal) = true ↔ a.Beyond := by
  rw [Bool.not_eq_true', Ipv6Addr.Beyond, ← a.isUnicastLinkLocal_iff, Bool.not_eq_true]

theorem find?_beyond {addrs : List Ipv6Addr} {a : Ipv6Addr} (ha : a ∈ addrs) (hbeyond : a.Beyond) :
    ∃ b, addrs.find? (fun ipv6 => !ipv6.isUnicastLinkLocal) = some b ∧ b ∈ addrs ∧ b.Beyond := by
  cases hfind : addrs.find? fun ipv6 => !ipv6.isUnicastLinkLocal with
  | none =>
      exact absurd ((not_isUnicastLinkLocal_iff a).mpr hbeyond) (List.find?_eq_none.mp hfind a ha)
  | some b =>
      have hb := List.find?_some hfind
      exact ⟨b, rfl, List.mem_of_find?_eq_some hfind, (not_isUnicastLinkLocal_iff b).mp hb⟩

include hinfo

theorem infoIpv6Addr_preferred (htype : info.netifType = .thread) {a : Ipv6Addr}
    (ha : a ∈ t.preferredAddrs) (hbeyond : a.Beyond) :
    infoIpv6Addr info ∈ t.preferredAddrs ∧ (infoIpv6Addr info).Beyond := by
  obtain ⟨rest, heq, -⟩ := hinfo.preferred_first
  obtain ⟨b, hb, hmem, hbb⟩ := find?_beyond ha hbeyond
  have hfind : infoIpv6Addr info = b := by
    unfold infoIpv6Addr
    rw [if_pos htype, heq, List.find?_append, hb]
    rfl
  rw [hfind]
  exact ⟨hmem, hbb⟩

theorem infoIpv6Addr_beyond (htype : info.netifType = .thread) {a : Ipv6Addr} (ha : a ∈ t.addrs)
    (hbeyond : a.Beyond) : infoIpv6Addr info ∈ t.addrs ∧ (infoIpv6Addr info).Beyond := by
  obtain ⟨b, hb, hmem, hbb⟩ := find?_beyond ((hinfo.mem_iff a).mpr ha) hbeyond
  have hfind : infoIpv6Addr info = b := by
    unfold infoIpv6Addr
    rw [if_pos htype, hb]
    rfl
  rw [hfind]
  exact ⟨(hinfo.mem_iff b).mp hmem, hbb⟩

theorem infoIpv6Addr_local (htype : info.netifType = .thread) (hlocal : ∀ a ∈ t.addrs, ¬ a.Beyond)
    (hne : t.addrs ≠ []) :
    infoIpv6Addr info ∈ t.addrs ∧ (infoIpv6Addr info).LinkLocal := by
  have hnone : info.ipv6Addrs.find? (fun ipv6 => !ipv6.isUnicastLinkLocal) = none := by
    rw [List.find?_eq_none]
    intro a ha hb
    exact hlocal a ((hinfo.mem_iff a).mp ha) ((not_isUnicastLinkLocal_iff a).mp hb)
  obtain ⟨a, ha⟩ := List.exists_mem_of_ne_nil _ hne
  have hsome := (hinfo.mem_iff a).mpr ha
  cases haddrs : info.ipv6Addrs with
  | nil =>
      rw [haddrs] at hsome
      cases hsome
  | cons b rest =>
      have hfirst : infoIpv6Addr info = b := by
        unfold infoIpv6Addr
        rw [if_pos htype, hnone, haddrs]
        rfl
      have hb : b ∈ t.addrs := (hinfo.mem_iff b).mp (haddrs ▸ List.mem_cons_self)
      rw [hfirst]
      exact ⟨hb, not_not.mp (hlocal b hb)⟩

theorem infoIpv6Addr_none (hne : t.addrs = []) : infoIpv6Addr info = .unspecified := by
  have hempty : info.ipv6Addrs = [] := by
    apply List.eq_nil_iff_forall_not_mem.mpr
    intro a ha
    rw [hinfo.mem_iff, hne] at ha
    cases ha
  unfold infoIpv6Addr
  rw [hempty]
  split_ifs <;> rfl

theorem infoIpv6Addr_of_other (htype : info.netifType ≠ .thread) {a : Ipv6Addr} (ha : a ∈ t.addrs)
    (hlocal : a.LinkLocal) : infoIpv6Addr info ∈ t.addrs ∧ (infoIpv6Addr info).LinkLocal := by
  have hmem := (hinfo.mem_iff a).mpr ha
  unfold infoIpv6Addr
  rw [if_neg htype]
  cases hfind : info.ipv6Addrs.find? fun ipv6 => ipv6.isUnicastLinkLocal with
  | none => exact absurd (a.isUnicastLinkLocal_iff.mpr hlocal) (List.find?_eq_none.mp hfind a hmem)
  | some b =>
      have hb := List.find?_some hfind
      exact ⟨(hinfo.mem_iff b).mp (List.mem_of_find?_eq_some hfind), b.isUnicastLinkLocal_iff.mp hb⟩

theorem infoIpv6Addr_of_other_none (htype : info.netifType ≠ .thread)
    (hlocal : ∀ a ∈ t.addrs, ¬ a.LinkLocal) : infoIpv6Addr info = .unspecified := by
  have hnone : info.ipv6Addrs.find? (fun ipv6 => ipv6.isUnicastLinkLocal) = none := by
    rw [List.find?_eq_none]
    intro a ha hb
    exact hlocal a ((hinfo.mem_iff a).mp ha) (a.isUnicastLinkLocal_iff.mp hb)
  unfold infoIpv6Addr
  rw [if_neg htype, hnone]
  rfl

end Reported

/-- The address that should be reported for an interface of this type with this table. -/
inductive Reported (t : Table n) (netifType : InterfaceTypeEnum) (addr : Ipv6Addr) : Prop where
  | preferred (htype : netifType = .thread) (ha : addr ∈ t.preferredAddrs) (hbeyond : ¬ addr.LinkLocal)
  | beyond (htype : netifType = .thread) (hno : ∀ a ∈ t.preferredAddrs, a.LinkLocal)
      (ha : addr ∈ t.addrs) (hbeyond : ¬ addr.LinkLocal)
  | linkLocal (hno : netifType = .thread → ∀ a ∈ t.addrs, a.LinkLocal) (ha : addr ∈ t.addrs)
      (hlocal : addr.LinkLocal)
  | unspecified (hno : netifType = .thread → t.addrs = [])
      (hlocal : netifType ≠ .thread → ∀ a ∈ t.addrs, ¬ a.LinkLocal)
      (haddr : addr = .unspecified)

theorem reported_infoIpv6Addr {t : Table n} {info : NetifInfo} (hinfo : Collected t info.ipv6Addrs) :
    Reported t info.netifType (infoIpv6Addr info) := by
  by_cases htype : info.netifType = .thread
  · by_cases hpreferred : ∃ a ∈ t.preferredAddrs, a.Beyond
    · obtain ⟨a, ha, hbeyond⟩ := hpreferred
      obtain ⟨hmem, hb⟩ := infoIpv6Addr_preferred hinfo htype ha hbeyond
      exact .preferred htype hmem hb
    by_cases hother : ∃ a ∈ t.addrs, a.Beyond
    · obtain ⟨a, ha, hbeyond⟩ := hother
      obtain ⟨hmem, hb⟩ := infoIpv6Addr_beyond hinfo htype ha hbeyond
      refine .beyond htype (fun a ha => ?_) hmem hb
      by_contra hbeyond
      exact hpreferred ⟨a, ha, hbeyond⟩
    by_cases hempty : t.addrs = []
    · exact .unspecified (fun _ => hempty) (absurd htype) (infoIpv6Addr_none hinfo hempty)
    · have hall : ∀ a ∈ t.addrs, ¬ a.Beyond := fun a ha hbeyond => hother ⟨a, ha, hbeyond⟩
      obtain ⟨hmem, hb⟩ := infoIpv6Addr_local hinfo htype hall hempty
      exact .linkLocal (fun _ a ha => not_not.mp (hall a ha)) hmem hb
  · by_cases hlocal : ∃ a ∈ t.addrs, a.LinkLocal
    · obtain ⟨a, ha, hlocal⟩ := hlocal
      obtain ⟨hmem, hb⟩ := infoIpv6Addr_of_other hinfo htype ha hlocal
      exact .linkLocal (fun h => absurd h htype) hmem hb
    · push Not at hlocal
      exact .unspecified (fun h => absurd h htype) (fun _ => hlocal)
        (infoIpv6Addr_of_other_none hinfo htype hlocal)

/-- **The right address is reported**, whatever the table is, as long as it does not change while it is
read: there is a configuration if the calls that it is made of succeed, it lists the addresses of the table
with the preferred ones first, and what is reported of them is what should be. In particular an interface
other than a Thread one counts as operational only with a link-local address. -/
theorem reported_address (netif : EspNetif n) (t : Table n) (netifType : InterfaceTypeEnum) :
    ∃ result,
      getNetifConf { netif with preferredIp6 := t.preferred, allIp6 := t.all } netifType =
        some result ∧
      ((∃ info, result = .ok info) ↔ netif.Answers netifType) ∧
      ∀ info, result = .ok info →
        Collected t info.ipv6Addrs ∧ Reported t netifType (infoIpv6Addr info) ∧
          ∀ l2Connected, netifType ≠ .thread → infoIsOperationalV6 l2Connected info = true →
            ∃ a ∈ t.addrs, a.LinkLocal := by
  have hreads : EspNetif.Reads { netif with preferredIp6 := t.preferred, allIp6 := t.all } t :=
    ⟨rfl, rfl⟩
  obtain ⟨result, hresult, hok, hinfo⟩ := getNetifConf_of_reads hreads netifType
  refine ⟨result, hresult, ?_, fun info hok => ?_⟩
  · rw [hok]
    exact ⟨fun h => ⟨h.ipInfo, h.mac, h.up⟩, fun h => ⟨h.ipInfo, h.mac, h.up⟩⟩
  obtain ⟨htype, hcollected⟩ := hinfo info hok
  have hreported := reported_infoIpv6Addr hcollected
  rw [htype] at hreported
  refine ⟨hcollected, hreported, fun l2Connected hother hup => ?_⟩
  simp only [infoIsOperationalV6, Bool.and_eq_true, decide_eq_true_eq] at hup
  cases hreported with
  | preferred hthread => exact absurd hthread hother
  | beyond hthread => exact absurd hthread hother
  | linkLocal hno ha hlocal => exact ⟨_, ha, hlocal⟩
  | unspecified hno hlocal haddr => exact absurd haddr hup.2

/-- An interface whose calls succeed. -/
def someNetif : EspNetif 6 where
  ipInfo := .ok .unspecified
  preferredIp6 := .empty
  allIp6 := .empty
  mac := .ok (.replicate 6 7)
  name := []
  isNetifUp := .ok true
  isUp := .ok true
  index := 1

/-- Of the link-local address and the routable one, a Thread interface reports the routable one. -/
theorem reported_address_tableBefore :
    ∃ info, getNetifConf { someNetif with preferredIp6 := tableBefore.preferred, allIp6 := tableBefore.all }
        .thread = some (.ok info) ∧ infoIpv6Addr info = someAddr 0x20 0x01 1 := by
  obtain ⟨result, hresult, hok, hinfo⟩ := reported_address someNetif tableBefore .thread
  obtain ⟨info, rfl⟩ := hok.mpr ⟨⟨_, rfl⟩, ⟨_, rfl⟩, ⟨_, rfl⟩⟩
  obtain ⟨-, hreported, -⟩ := hinfo info rfl
  have hbeyond : ¬ (someAddr 0x20 0x01 1).LinkLocal := by decide +kernel
  refine ⟨info, hresult, ?_⟩
  cases hreported with
  | preferred _ ha _ => exact List.mem_singleton.mp ha
  | beyond _ hno _ _ => exact absurd (hno _ List.mem_cons_self) hbeyond
  | linkLocal hno _ _ => exact absurd (hno rfl _ (List.mem_cons_of_mem _ List.mem_cons_self)) hbeyond
  | unspecified hno _ _ => cases hno rfl

end EspIdfMatter.Netif
