import EspIdfMatter.Netif.Conf

/-! The address table of an interface, as a list of IPv6 addresses. lwIP keeps each of them as four words
of memory, and hands them out as such: what the code makes of the words are the addresses again. -/

namespace EspIdfMatter.Netif

open Library

/-! ### Addresses as numbers -/

/-- The number that an address is, in network order. -/
def Ipv6Addr.value (a : Ipv6Addr) : Nat :=
  Nat.ofDigits 256 (a.octets.toList.reverse.map UInt8.toNat)

/-- The address is in `fe80::/10`: its first ten bits are those of `fe80::`. -/
def Ipv6Addr.LinkLocal (a : Ipv6Addr) : Prop := a.value / 2 ^ 118 = 0b1111111010

instance (a : Ipv6Addr) : Decidable a.LinkLocal := by
  unfold Ipv6Addr.LinkLocal
  infer_instance

theorem toNat_lt_256 (octets : List UInt8) : ∀ d ∈ octets.map UInt8.toNat, d < 256 := by
  intro d hd
  obtain ⟨octet, -, rfl⟩ := List.mem_map.mp hd
  exact octet.toNat_lt

/-- What comes before the octets of `rest`. -/
theorem ofDigits_div (high low : UInt8) (rest : List UInt8) :
    Nat.ofDigits 256 ((high :: low :: rest).reverse.map UInt8.toNat) / 256 ^ rest.length =
      256 * high.toNat + low.toNat := by
  have hlow := Nat.ofDigits_lt_base_pow_length (by decide : 1 < 256) (toNat_lt_256 rest.reverse)
  rw [List.length_map, List.length_reverse] at hlow
  calc Nat.ofDigits 256 ((high :: low :: rest).reverse.map UInt8.toNat) / 256 ^ rest.length
      = (Nat.ofDigits 256 (rest.reverse.map UInt8.toNat) +
          256 ^ rest.length * (256 * high.toNat + low.toNat)) / 256 ^ rest.length := by
        rw [List.reverse_cons, List.reverse_cons, List.append_assoc, List.map_append, Nat.ofDigits_append,
          List.length_map, List.length_reverse]
        simp [Nat.ofDigits_cons, Nat.add_comm]
    _ = 256 * high.toNat + low.toNat := by
        rw [Nat.add_mul_div_left _ _ (Nat.pow_pos (by decide)), Nat.div_eq_of_lt hlow, Nat.zero_add]

/-- Two octets as a big-endian segment. -/
theorem toNat_segment (high low : UInt8) :
    ((high.toUInt16 <<< 8) ||| low.toUInt16).toNat = 256 * high.toNat + low.toNat := by
  have hhigh := high.toNat_lt
  have hshift : high.toNat * 256 < 65536 := by omega
  have hor : 256 * high.toNat + low.toNat = 256 * high.toNat ||| low.toNat :=
    Nat.two_pow_add_eq_or_of_lt (i := 8) low.toNat_lt high.toNat
  simp only [UInt16.toNat_or, UInt16.toNat_shiftLeft, UInt8.toNat_toUInt16]
  rw [Nat.shiftLeft_eq]
  change high.toNat * 256 % 65536 ||| low.toNat = _
  rw [Nat.mod_eq_of_lt hshift, Nat.mul_comm, ← hor]

/-- The first segment is the first 16 bits. -/
theorem Ipv6Addr.value_div (a : Ipv6Addr) : a.value / 2 ^ 112 = a.segment₀.toNat := by
  have hsplit : a.octets.toList = a.octets[0] :: a.octets[1] :: a.octets.toList.drop 2 := by
    have hlist : ∀ octets : List UInt8, ∀ h : 2 ≤ octets.length,
        octets = octets[0] :: octets[1] :: octets.drop 2 := by
      intro octets h
      rw [List.cons_getElem_drop_succ, List.cons_getElem_drop_succ, List.drop_zero]
    exact hlist a.octets.toList (by simp)
  have hfirst := ofDigits_div a.octets[0] a.octets[1] (a.octets.toList.drop 2)
  rw [← hsplit, List.length_drop, Vector.length_toList] at hfirst
  rw [Ipv6Addr.segment₀, toNat_segment]
  exact hfirst

/-- Masking some of the higher bits. -/
theorem and_shiftLeft (x mask k : Nat) : x &&& mask <<< k = ((x >>> k) &&& mask) <<< k := by
  apply Nat.eq_of_testBit_eq
  intro i
  rw [Nat.testBit_and, Nat.testBit_shiftLeft, Nat.testBit_shiftLeft, Nat.testBit_and, Nat.testBit_shiftRight]
  by_cases hi : k ≤ i
  · rw [Nat.add_sub_cancel' hi, decide_eq_true hi, Bool.true_and, Bool.true_and]
  · rw [decide_eq_false hi, Bool.false_and, Bool.false_and, Bool.and_false]

theorem and_ffc0 (x : Nat) : x &&& 0xffc0 = x / 64 % 1024 * 64 :=
  calc x &&& 0xffc0
      = ((x >>> 6) &&& 2 ^ 10 - 1) <<< 6 := and_shiftLeft x 1023 6
    _ = x / 64 % 1024 * 64 := by
      rw [Nat.and_two_pow_sub_one_eq_mod, Nat.shiftRight_eq_div_pow, Nat.shiftLeft_eq]

/-- **The test of the standard library is that of the first ten bits.** -/
theorem Ipv6Addr.isUnicastLinkLocal_iff (a : Ipv6Addr) : a.isUnicastLinkLocal = true ↔ a.LinkLocal := by
  have hdiv : a.value / 2 ^ 118 = a.value / 2 ^ 112 / 64 := by omega
  rw [Ipv6Addr.isUnicastLinkLocal, beq_iff_eq, ← UInt16.toNat_inj, UInt16.toNat_and]
  change _ &&& 0xffc0 = 0xfe80 ↔ _
  have hlt := a.segment₀.toNat_lt
  rw [and_ffc0, Ipv6Addr.LinkLocal, hdiv, a.value_div]
  omega

/-! ### Addresses in memory -/

/-- The word that these octets are in the memory of a little-endian machine. -/
def wordOf (octets : List UInt8) : UInt32 :=
  UInt32.ofNat (Nat.ofDigits 256 (octets.map UInt8.toNat))

/-- The address as lwIP keeps it: four words, with the octets in network order. -/
def Ipv6Addr.raw (a : Ipv6Addr) (zone : UInt8) : EspIp6Addr where
  addr := .ofFn fun i : Fin 4 => wordOf ((a.octets.toList.drop (4 * i)).take 4)
  zone := zone

theorem leByte_wordOf {octets : List UInt8} (h : octets.length = 4) {i : Nat} (hi : i < octets.length) :
    leByte (wordOf octets) i = octets[i] := by
  obtain ⟨b₀, b₁, b₂, b₃, rfl⟩ := List.length_eq_four.mp h
  have h₀ := b₀.toNat_lt
  have h₁ := b₁.toNat_lt
  have h₂ := b₂.toNat_lt
  have h₃ := b₃.toNat_lt
  have hvalue : (wordOf [b₀, b₁, b₂, b₃]).toNat =
      b₀.toNat + 256 * b₁.toNat + 65536 * b₂.toNat + 16777216 * b₃.toNat := by
    simp [wordOf, Nat.ofDigits_cons]
    omega
  have hbyte : ∀ j < 4, (leByte (wordOf [b₀, b₁, b₂, b₃]) j).toNat =
      (wordOf [b₀, b₁, b₂, b₃]).toNat / 2 ^ (8 * j) % 256 := by
    intro j hj
    simp only [leByte, UInt32.toNat_toUInt8, UInt32.toNat_shiftRight, Nat.shiftRight_eq_div_pow]
    interval_cases j <;> rfl
  apply UInt8.toNat_inj.mp
  rw [hbyte i hi, hvalue]
  change i < 4 at hi
  interval_cases i
  all_goals
    simp only [List.getElem_cons_zero, List.getElem_cons_succ]
    omega

/-- **The conversion yields the address that is in memory.** -/
theorem espIp6ToAddr_raw (a : Ipv6Addr) (zone : UInt8) : espIp6ToAddr (a.raw zone) = a := by
  obtain ⟨octets⟩ := a
  rw [espIp6ToAddr]
  congr 1
  ext k hk
  have hlength : ((octets.toList.drop (4 * (k / 4))).take 4).length = 4 := by
    simp
    omega
  have hindex : 4 * (k / 4) + k % 4 = k := Nat.div_add_mod k 4
  have hmod : k % 4 < ((octets.toList.drop (4 * (k / 4))).take 4).length := by omega
  have hbyte := leByte_wordOf hlength hmod
  simp only [Vector.getElem_ofFn, Ipv6Addr.raw, Vector.get_eq_getElem]
  rw [hbyte]
  simp [hindex]

theorem wordOf_leBytes (word : UInt32) :
    wordOf [leByte word 0, leByte word 1, leByte word 2, leByte word 3] = word := by
  have hword := word.toNat_lt
  apply UInt32.toNat_inj.mp
  simp [wordOf, leByte, Nat.ofDigits_cons, Nat.shiftRight_eq_div_pow]
  omega

/-- **Any four words are those of an address.** -/
theorem EspIp6Addr.exists_raw (raw : EspIp6Addr) : ∃ (a : Ipv6Addr) (zone : UInt8), a.raw zone = raw := by
  obtain ⟨words, zone⟩ := raw
  refine ⟨espIp6ToAddr ⟨words, zone⟩, zone, ?_⟩
  have hword : ∀ i : Fin 4, wordOf (((espIp6ToAddr ⟨words, zone⟩).octets.toList.drop (4 * i)).take 4) =
      words[i.val] := by
    intro i
    rw [espIp6ToAddr, Vector.toList_ofFn]
    apply Eq.trans (congrArg wordOf ?_) (wordOf_leBytes words[i.val])
    fin_cases i <;> rfl
  rw [Ipv6Addr.raw]
  congr 1
  ext i hi
  rw [Vector.getElem_ofFn]
  exact congrArg UInt32.toNat (hword ⟨i, hi⟩)

/-! ### Tables -/

structure Entry where
  addr : Ipv6Addr
  zone : UInt8
  preferred : Bool

/-- The address table of an interface. -/
abbrev Table (n : Nat) := BoundedVec Entry n

namespace Table

variable {n : Nat} (t : Table n)

/-- The addresses of a table. -/
def addrs : List Ipv6Addr := t.toList.map Entry.addr

/-- The preferred addresses of a table. -/
def preferredAddrs : List Ipv6Addr := (t.toList.filter Entry.preferred).map Entry.addr

/-- What `esp_netif_get_all_ip6` reads off a table. -/
def all : BoundedVec EspIp6Addr n :=
  ⟨t.toList.map fun entry => entry.addr.raw entry.zone, by rw [List.length_map]; exact t.length_le⟩

/-- What `esp_netif_get_all_preferred_ip6` reads off a table. -/
def preferred : BoundedVec EspIp6Addr n :=
  ⟨(t.toList.filter Entry.preferred).map fun entry => entry.addr.raw entry.zone, by
    rw [List.length_map]
    exact (List.length_filter_le _ _).trans t.length_le⟩

theorem preferredAddrs_subset {a : Ipv6Addr} (h : a ∈ t.preferredAddrs) : a ∈ t.addrs := by
  obtain ⟨entry, hentry, rfl⟩ := List.mem_map.mp h
  exact List.mem_map_of_mem (List.mem_of_mem_filter hentry)

theorem map_espIp6ToAddr (entries : List Entry) :
    (entries.map fun entry => entry.addr.raw entry.zone).map espIp6ToAddr = entries.map Entry.addr := by
  rw [List.map_map]
  apply List.map_congr_left
  intro entry _
  exact espIp6ToAddr_raw entry.addr entry.zone

/-- Whatever the calls of ESP-IDF report, it is what they read off a table. -/
theorem exists_all (raw : BoundedVec EspIp6Addr n) : ∃ t : Table n, t.all = raw ∧ t.preferred = raw := by
  have hentries : ∀ words : List EspIp6Addr, ∃ entries : List Entry,
      (entries.map fun entry => entry.addr.raw entry.zone) = words ∧
        entries.filter Entry.preferred = entries := by
    intro words
    induction words with
    | nil => exact ⟨[], rfl, rfl⟩
    | cons word words ih =>
        obtain ⟨a, zone, hword⟩ := word.exists_raw
        obtain ⟨entries, hentries, hall⟩ := ih
        refine ⟨⟨a, zone, true⟩ :: entries, ?_, ?_⟩
        · rw [List.map_cons, hword, hentries]
        · rw [List.filter_cons_of_pos rfl, hall]
  obtain ⟨entries, hentries, hpreferred⟩ := hentries raw.toList
  have hlength : entries.length ≤ n := by
    rw [← List.length_map, hentries]
    exact raw.length_le
  refine ⟨⟨entries, hlength⟩, BoundedVec.ext hentries, BoundedVec.ext ?_⟩
  change ((entries.filter Entry.preferred).map fun entry => entry.addr.raw entry.zone) = raw.toList
  rw [hpreferred, hentries]

@[simp] theorem map_all : t.all.toList.map espIp6ToAddr = t.addrs := map_espIp6ToAddr _

@[simp] theorem map_preferred : t.preferred.toList.map espIp6ToAddr = t.preferredAddrs :=
  map_espIp6ToAddr _

end Table

end EspIdfMatter.Netif
