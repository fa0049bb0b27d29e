import EspIdfMatter.Library.Hex
import EspIdfMatter.Library.Pending
import EspIdfMatter.Library.Text
import EspIdfMatter.Thread.Srp

/-! The DNS client of Thread, with which the services of others are resolved and browsed while the SRP client
has a server. Requests come from `rs-matter`, and answers from OpenThread; both are given. -/

namespace EspIdfMatter.Thread

open Library Library.Machine

/-- A service that `rs-matter` asks for. -/
inductive MatterRemoteService where
  | operational (compressedFabricId nodeId : UInt64)
  | commissionable (id : UInt64)
  deriving DecidableEq

/-- The name that `rs-matter` knows a service by: what `instance_name` writes. -/
abbrev InstanceNames := MatterRemoteService → BoundedString 128

/-- A browse request of `rs-matter`. -/
structure MatterBrowseQuery where
  /-- what `service_type` writes -/
  serviceType : BoundedString 64
  baseServiceType : String
  needsResolve : Bool
  deriving DecidableEq

structure DnsServiceInfo where
  port : UInt16
  hostAddresses : List (Vector UInt8 16)
  txtData : Bytes

structure DnsInstance where
  label : String
  info : Option DnsServiceInfo

structure MdnsRemoteService where
  instanceName : String
  port : Option UInt16
  addrs : List (Vector UInt8 16)
  txt : Bytes
  scopeId : UInt32

/-! ### Names -/

/-- `{:016X}` -/
def hexId (id : UInt64) : String := String.ofList (Hex.upper 16 id.toNat)

def MatterRemoteService.label : MatterRemoteService → BoundedString 33
  | .operational compressedFabricId nodeId =>
      (BoundedString.empty.write [hexId compressedFabricId, "-", hexId nodeId]).1
  | .commissionable id => (BoundedString.empty.write [hexId id]).1

/-- The DNS-SD server of the Border Router serves the Thread domain `default.service.arpa`, not mDNS `local`. -/
def MatterRemoteService.serviceName : MatterRemoteService → String
  | .operational _ _ => "_matter._tcp.default.service.arpa"
  | .commissionable _ => "_matterc._udp.default.service.arpa"

/-- What the DNS client is asked for. -/
structure DnsQuery where
  label : BoundedString 33
  serviceName : String
  deriving DecidableEq

def MatterRemoteService.query (service : MatterRemoteService) : DnsQuery where
  label := service.label
  serviceName := service.serviceName

def MatterBrowseQuery.serviceName (query : MatterBrowseQuery) : BoundedString 96 :=
  (BoundedString.empty.write [query.serviceType.val, ".default.service.arpa"]).1

theorem toList_hexId (id : UInt64) : (hexId id).toList = Hex.upper 16 id.toNat := String.toList_ofList

theorem length_hexId (id : UInt64) : (Hex.upper 16 id.toNat).length = 16 := by
  apply Hex.length_upper (by decide)
  exact id.toNat_lt

theorem utf8ByteSize_hexId (id : UInt64) : (hexId id).utf8ByteSize = 16 := by
  rw [hexId, utf8ByteSize_ofList fun c hc => Hex.utf8Size_of_mem_upper hc, length_hexId]

theorem hexId_inj {id id' : UInt64} (h : Hex.upper 16 id.toNat = Hex.upper 16 id'.toNat) : id = id' :=
  UInt64.toNat_inj.mp (Hex.upper_injective 16 h)

/-- A label has just the room that it needs. -/
theorem label_operational (compressedFabricId nodeId : UInt64) :
    (MatterRemoteService.operational compressedFabricId nodeId).label.val.toList =
      Hex.upper 16 compressedFabricId.toNat ++ '-' :: Hex.upper 16 nodeId.toNat := by
  have hfits : ([hexId compressedFabricId, "-", hexId nodeId].map String.utf8ByteSize).sum ≤ 33 := by
    simp only [List.map_cons, List.map_nil, List.sum_cons, List.sum_nil, utf8ByteSize_hexId]
    decide
  refine (BoundedString.write_empty_of_fits hfits).trans ?_
  simp only [List.flatMap_cons, List.flatMap_nil, toList_hexId, List.append_nil]
  rfl

theorem label_commissionable (id : UInt64) :
    (MatterRemoteService.commissionable id).label.val.toList = Hex.upper 16 id.toNat := by
  have hfits : ([hexId id].map String.utf8ByteSize).sum ≤ 33 := by
    simp only [List.map_cons, List.map_nil, List.sum_cons, List.sum_nil, utf8ByteSize_hexId]
    decide
  refine (BoundedString.write_empty_of_fits hfits).trans ?_
  simp only [List.flatMap_cons, List.flatMap_nil, toList_hexId, List.append_nil]

theorem serviceName_ne : "_matter._tcp.default.service.arpa" ≠ "_matterc._udp.default.service.arpa" := by
  decide

/-- A query tells which service it is for. -/
theorem query_injective : Function.Injective MatterRemoteService.query := by
  intro service service' hquery
  have hlabel : service.label.val.toList = service'.label.val.toList :=
    congrArg (fun query => query.label.val.toList) hquery
  have hname : service.serviceName = service'.serviceName := congrArg DnsQuery.serviceName hquery
  cases service with
  | operational compressedFabricId nodeId =>
      cases service' with
      | operational compressedFabricId' nodeId' =>
          rw [label_operational, label_operational] at hlabel
          obtain ⟨hfabric, hnode⟩ := List.append_inj hlabel (by rw [length_hexId, length_hexId])
          rw [hexId_inj hfabric, hexId_inj (List.cons.inj hnode).2]
      | commissionable id => exact absurd hname serviceName_ne
  | commissionable id =>
      cases service' with
      | operational compressedFabricId nodeId => exact absurd hname serviceName_ne.symm
      | commissionable id' =>
          rw [label_commissionable, label_commissionable] at hlabel
          rw [hexId_inj hlabel]

/-- The name of a browse query has room for any service type. -/
theorem browse_serviceName (query : MatterBrowseQuery) :
    query.serviceName.val.toList = query.serviceType.val.toList ++ ".default.service.arpa".toList := by
  have hfits : ([query.serviceType.val, ".default.service.arpa"].map String.utf8ByteSize).sum ≤ 96 := by
    have hsize := query.serviceType.property
    have hsuffix : ".default.service.arpa".utf8ByteSize = 21 := rfl
    simp only [List.map_cons, List.map_nil, List.sum_cons, List.sum_nil, hsuffix]
    omega
  refine (BoundedString.write_empty_of_fits hfits).trans ?_
  simp only [List.flatMap_cons, List.flatMap_nil, List.append_nil]

theorem hexByte_injective : Function.Injective hexByte := by
  intro b b' h
  have hdigits : ∀ b : UInt8, (hexByte b).map Hex.digitValue = [b.toNat / 16, b.toNat % 16] := by
    intro b
    have hlt := b.toNat_lt
    show [_, _] = _
    rw [Hex.digitValue_toUpper _ (by omega), Hex.digitValue_toUpper _ (by omega)]
  have hboth := (hdigits b).symm.trans ((congrArg (List.map Hex.digitValue) h).trans (hdigits b'))
  obtain ⟨hhigh, hlow⟩ := List.cons.inj hboth
  apply UInt8.toNat_inj.mp
  have hlow := List.head_eq_of_cons_eq hlow
  omega

theorem hostname_injective : Function.Injective hostname := by
  have hbytes : ∀ bytes bytes' : List UInt8, bytes.length = bytes'.length →
      bytes.flatMap hexByte = bytes'.flatMap hexByte → bytes = bytes' := by
    intro bytes
    induction bytes with
    | nil =>
        intro bytes' hlength _
        exact (List.length_eq_zero_iff.mp hlength.symm).symm
    | cons b bytes ih =>
        intro bytes' hlength heq
        cases bytes' with
        | nil => cases hlength
        | cons b' bytes' =>
            rw [List.flatMap_cons, List.flatMap_cons] at heq
            obtain ⟨hfirst, hrest⟩ := List.append_inj heq rfl
            rw [hexByte_injective hfirst, ih bytes' (Nat.succ.inj hlength) hrest]
  intro eui64 eui64' h
  apply Vector.toList_inj.mp
  apply hbytes _ _ _ h
  rw [Vector.length_toList, Vector.length_toList]

theorem utf8Size_hexByte (b : UInt8) : ∀ c ∈ hexByte b, c.utf8Size = 1 := by
  have hdigit : ∀ n < 16, (Nat.digitChar n).toUpper.utf8Size = 1 := by decide
  have hb := b.toNat_lt
  exact List.forall_mem_cons.mpr
    ⟨hdigit _ (by omega), List.forall_mem_singleton.mpr (hdigit _ (by omega))⟩

/-- The host name fits the `String<16>` that it is written to. -/
theorem hostname_fits (eui64 : Eui64) : (String.ofList (hostname eui64)).utf8ByteSize = 16 := by
  rw [utf8ByteSize_ofList, length_hostname]
  intro c hc
  obtain ⟨b, -, hb⟩ := List.mem_flatMap.mp hc
  exact utf8Size_hexByte b c hb

/-- **No name is cut short, and no two services or hosts share one.** -/
theorem names_exact :
    Function.Injective MatterRemoteService.query ∧ Function.Injective hostname ∧
      (∀ eui64, (String.ofList (hostname eui64)).utf8ByteSize = 16) ∧
      ∀ query : MatterBrowseQuery,
        query.serviceName.val.toList = query.serviceType.val.toList ++ ".default.service.arpa".toList :=
  ⟨query_injective, hostname_injective, hostname_fits, browse_serviceName⟩

/-! ### Answers -/

/-- What `run_resolve` deposits of an answer; `rs-matter` matches answers by their mDNS `local` name. -/
def DnsServiceInfo.resolved (info : DnsServiceInfo) (names : InstanceNames) (service : MatterRemoteService) :
    MdnsRemoteService where
  instanceName := (names service).val
  port := some info.port
  addrs := info.hostAddresses
  txt := info.txtData
  scopeId := 0

/-- What `run_browse` deposits of an instance. -/
def DnsInstance.browsed (inst : DnsInstance) (query : MatterBrowseQuery) : Option MdnsRemoteService :=
  if query.needsResolve = true ∧ inst.info.isNone = true then
    none
  else
    let name : BoundedString 96 × Bool :=
      BoundedString.empty.write [inst.label, ".", query.baseServiceType, ".local"]
    some {
      instanceName := name.1.val
      port := inst.info.map DnsServiceInfo.port
      addrs := inst.info.toList.flatMap DnsServiceInfo.hostAddresses
      txt := inst.info.elim [] DnsServiceInfo.txtData
      scopeId := 0 }

/-! ### `run_serve` -/

inductive Serve where
  /-- in `wait_srp_server(true)` -/
  | waiting
  /-- in the three loops; those that query wait for an answer to a request -/
  | serving (resolving : Option MatterRemoteService) (browsing : Option MatterBrowseQuery)
  | ended (e : ErrorCode)

namespace Serve

inductive Step where
  /-- an iteration of `wait_srp_server` asks whether the SRP client has a server -/
  | server (present : Except EspError Bool)
  | resolveRequest (service : MatterRemoteService)
  | resolveAnswer (answer : Except EspError DnsServiceInfo)
  | browseRequest (query : MatterBrowseQuery)
  | browseAnswer (answer : Except EspError (List DnsInstance))

inductive Obs where
  | server (present : Except EspError Bool)
  /-- `dns_resolve_service_and_host_address` for a request -/
  | resolve (service : MatterRemoteService) (query : DnsQuery)
  /-- an answer, and what `try_deposit_mdns_resolve` is given -/
  | resolved (answer : Except EspError DnsServiceInfo) (deposit : Option MdnsRemoteService)
  /-- `dns_browse` for a request -/
  | browse (query : MatterBrowseQuery) (serviceName : BoundedString 96)
  /-- an answer, and what `try_deposit_mdns_browse` is given -/
  | browsed (answer : Except EspError (List DnsInstance)) (deposits : List MdnsRemoteService)

/-- The deposit of `run_resolve`; a query that fails is only logged. -/
def resolveDeposit (names : InstanceNames) (service : MatterRemoteService)
    (answer : Except EspError DnsServiceInfo) : Option MdnsRemoteService :=
  answer.toOption.map fun info => info.resolved names service

/-- The deposits of `run_browse`. -/
def browseDeposits (query : MatterBrowseQuery) (answer : Except EspError (List DnsInstance)) :
    List MdnsRemoteService :=
  (answer.toOption.getD []).filterMap fun inst => inst.browsed query

def step (names : InstanceNames) (s : Serve) (i : Step) : Serve × List Obs :=
  match s, i with
  | .ended e, _ => (.ended e, [])
  | _, .server (.error e) => (.ended (toNetError e), [.server (.error e)])
  | .waiting, .server (.ok true) => (.serving none none, [.server (.ok true)])
  | .serving resolving browsing, .server (.ok true) => (.serving resolving browsing, [.server (.ok true)])
  | _, .server (.ok false) => (.waiting, [.server (.ok false)])
  | .serving none browsing, .resolveRequest service =>
      (.serving (some service) browsing, [.resolve service service.query])
  | .serving (some service) browsing, .resolveAnswer answer =>
      (.serving none browsing, [.resolved answer (resolveDeposit names service answer)])
  | .serving resolving none, .browseRequest query =>
      (.serving resolving (some query), [.browse query query.serviceName])
  | .serving resolving (some query), .browseAnswer answer =>
      (.serving resolving none, [.browsed answer (browseDeposits query answer)])
  | s, _ => (s, [])

def present : Serve → Option Unit
  | .serving _ _ => some ()
  | _ => none

def resolving : Serve → Option MatterRemoteService
  | .serving resolving _ => resolving
  | _ => none

def browsing : Serve → Option MatterBrowseQuery
  | .serving _ browsing => browsing
  | _ => none

/-! ### What is open -/

/-- The SRP client is seen with a server. -/
def Obs.Found (_ : Unit) : Obs → Prop
  | .server (.ok true) => True
  | _ => False

/-- The SRP client is seen without a server, or cannot be seen. -/
def Obs.Lost : Obs → Prop
  | .server (.ok true) => False
  | .server _ => True
  | _ => False

def Obs.Resolves (service : MatterRemoteService) : Obs → Prop
  | .resolve service' _ => service' = service
  | _ => False

/-- A resolve query is over: answered, or abandoned with the server. -/
def Obs.EndsResolve : Obs → Prop
  | .resolved _ _ => True
  | o => o.Lost

def Obs.Browses (query : MatterBrowseQuery) : Obs → Prop
  | .browse query' _ => query' = query
  | _ => False

def Obs.EndsBrowse : Obs → Prop
  | .browsed _ _ => True
  | o => o.Lost

/-- The SRP client was last seen with a server. -/
def Present (h : List Obs) : Prop := Pending (Obs.Found ()) Obs.Lost h

/-- The SRP client could not be asked. -/
def Over (h : List Obs) : Prop := ∃ e, .server (.error e) ∈ h

/-- The service was asked for, and neither was there an answer nor was the server lost. -/
def Resolving (service : MatterRemoteService) (h : List Obs) : Prop :=
  Pending (Obs.Resolves service) Obs.EndsResolve h

def Browsing (query : MatterBrowseQuery) (h : List Obs) : Prop :=
  Pending (Obs.Browses query) Obs.EndsBrowse h

/-- There is a server, and no resolve query under way. -/
def FreeToResolve (h : List Obs) : Prop := Present h ∧ ∀ service, ¬ Resolving service h

def FreeToBrowse (h : List Obs) : Prop := Present h ∧ ∀ query, ¬ Browsing query h

/-! ### What should come of each input -/

/-- The query is for this service. -/
def Asks (query : DnsQuery) : MatterRemoteService → Prop
  | .operational compressedFabricId nodeId =>
      query.label.val.toList =
          Hex.upper 16 compressedFabricId.toNat ++ '-' :: Hex.upper 16 nodeId.toNat ∧
        query.serviceName = "_matter._tcp.default.service.arpa"
  | .commissionable id =>
      query.label.val.toList = Hex.upper 16 id.toNat ∧
        query.serviceName = "_matterc._udp.default.service.arpa"

/-- The deposit says of the service what the answer does. -/
structure Resolves (names : InstanceNames) (service : MatterRemoteService) (info : DnsServiceInfo)
    (deposit : MdnsRemoteService) : Prop where
  instanceName : deposit.instanceName = (names service).val
  port : deposit.port = some info.port
  addrs : deposit.addrs = info.hostAddresses
  txt : deposit.txt = info.txtData
  scopeId : deposit.scopeId = 0

/-- An answer is deposited, and an error is not. -/
def DepositsAnswer (names : InstanceNames) (service : MatterRemoteService) :
    Except EspError DnsServiceInfo → Option MdnsRemoteService → Prop
  | .ok info, some deposit => Resolves names service info deposit
  | .error _, none => True
  | _, _ => False

/-- The deposit says what is known of the instance. Its name may lack the last of these pieces, if there is
no room for them. -/
structure Lists (query : MatterBrowseQuery) (inst : DnsInstance) (deposit : MdnsRemoteService) : Prop where
  instanceName : ∃ taken rest, [inst.label, ".", query.baseServiceType, ".local"] = taken ++ rest ∧
    deposit.instanceName.toList = taken.flatMap String.toList ∧
    ∀ piece rest', rest = piece :: rest' → 96 < deposit.instanceName.utf8ByteSize + piece.utf8ByteSize
  known : ∀ info, inst.info = some info →
    deposit.port = some info.port ∧ deposit.addrs = info.hostAddresses ∧ deposit.txt = info.txtData
  unknown : inst.info = none → deposit.port = none ∧ deposit.addrs = [] ∧ deposit.txt = []
  scopeId : deposit.scopeId = 0

/-- Each instance is deposited, in order, except one of which not enough is known. -/
def DepositsInstances (query : MatterBrowseQuery) :
    Except EspError (List DnsInstance) → List MdnsRemoteService → Prop
  | .ok instances, deposits =>
      List.Forall₂ (Lists query)
        (instances.filter fun inst => !query.needsResolve || inst.info.isSome) deposits
  | .error _, deposits => deposits = []

/-- What should be observed at an input, after a history. -/
def Expected (names : InstanceNames) (h obs : List Obs) : Step → Prop
  | .server present => (Over h → obs = []) ∧ (¬ Over h → obs = [.server present])
  | .resolveRequest service =>
      (FreeToResolve h → ∃ query, obs = [.resolve service query] ∧ Asks query service) ∧
        (¬ FreeToResolve h → obs = [])
  | .resolveAnswer answer =>
      (∀ service, Resolving service h → Present h ∧
        ∃ deposit, obs = [.resolved answer deposit] ∧ DepositsAnswer names service answer deposit) ∧
      ((∀ service, ¬ Resolving service h) → obs = [])
  | .browseRequest query =>
      (FreeToBrowse h → ∃ serviceName, obs = [.browse query serviceName] ∧
        serviceName.val.toList = query.serviceType.val.toList ++ ".default.service.arpa".toList) ∧
      (¬ FreeToBrowse h → obs = [])
  | .browseAnswer answer =>
      (∀ query, Browsing query h → Present h ∧
        ∃ deposits, obs = [.browsed answer deposits] ∧ DepositsInstances query answer deposits) ∧
      ((∀ query, ¬ Browsing query h) → obs = [])

theorem asks_query (service : MatterRemoteService) : Asks service.query service := by
  cases service with
  | operational compressedFabricId nodeId => exact ⟨label_operational compressedFabricId nodeId, rfl⟩
  | commissionable id => exact ⟨label_commissionable id, rfl⟩

theorem depositsAnswer_resolveDeposit (names : InstanceNames) (service : MatterRemoteService)
    (answer : Except EspError DnsServiceInfo) :
    DepositsAnswer names service answer (resolveDeposit names service answer) := by
  cases answer with
  | error e => trivial
  | ok info => exact ⟨rfl, rfl, rfl, rfl, rfl⟩

/-- An instance is left out only for what is not known of it. -/
theorem browsed_spec (query : MatterBrowseQuery) (inst : DnsInstance) :
    (inst.browsed query = none ∧ (!query.needsResolve || inst.info.isSome) = false) ∨
      ∃ deposit, inst.browsed query = some deposit ∧ (!query.needsResolve || inst.info.isSome) = true ∧
        Lists query inst deposit := by
  unfold DnsInstance.browsed
  split
  · rename_i hmissing
    obtain ⟨hneeds, hnone⟩ := hmissing
    rw [Option.isNone_iff_eq_none] at hnone
    exact .inl ⟨rfl, by rw [hneeds, hnone]; rfl⟩
  · rename_i henough
    refine .inr ⟨_, rfl, ?_, ?_, fun info hinfo => ?_, fun hnone => ?_, rfl⟩
    · cases hneeds : query.needsResolve with
      | false => rfl
      | true =>
          cases hinfo : inst.info with
          | some info => rfl
          | none => exact absurd ⟨hneeds, by rw [hinfo]; rfl⟩ henough
    · obtain ⟨taken, rest, hsplit, htaken, hfull⟩ := BoundedString.write_longest (n := 96) .empty
        [inst.label, ".", query.baseServiceType, ".local"]
      exact ⟨taken, rest, hsplit, htaken, hfull⟩
    · rw [hinfo]
      exact ⟨rfl, List.append_nil _, rfl⟩
    · rw [hnone]
      exact ⟨rfl, rfl, rfl⟩

theorem depositsInstances_browseDeposits (query : MatterBrowseQuery)
    (answer : Except EspError (List DnsInstance)) :
    DepositsInstances query answer (browseDeposits query answer) := by
  cases answer with
  | error e => rfl
  | ok instances =>
      show List.Forall₂ (Lists query) _ (instances.filterMap fun inst => inst.browsed query)
      induction instances with
      | nil => exact .nil
      | cons inst instances ih =>
          rw [List.filterMap_cons, List.filter_cons]
          rcases browsed_spec query inst with ⟨hnone, hleft⟩ | ⟨deposit, hsome, htaken, hlists⟩
          · rw [hnone, hleft]
            exact ih
          · rw [hsome, htaken]
            exact .cons hlists ih

/-! ### What is remembered -/

/-- The history knows the state. -/
structure Known (h : List Obs) (s : Serve) : Prop where
  failed : Over h ↔ ∃ e, s = .ended e
  present : Slot Obs.Found Obs.Lost h s.present
  resolving : Slot Obs.Resolves Obs.EndsResolve h s.resolving
  browsing : Slot Obs.Browses Obs.EndsBrowse h s.browsing

/-- The steps. -/
inductive StepSpec (names : InstanceNames) : Serve → Serve × List Obs → Prop where
  | idle (s : Serve) : StepSpec names s (s, [])
  | failed (s : Serve) (e : EspError) : StepSpec names s (.ended (toNetError e), [.server (.error e)])
  | found : StepSpec names .waiting (.serving none none, [.server (.ok true)])
  | seen (resolving : Option MatterRemoteService) (browsing : Option MatterBrowseQuery) :
      StepSpec names (.serving resolving browsing) (.serving resolving browsing, [.server (.ok true)])
  | lost (s : Serve) (hs : ∀ e, s ≠ .ended e) : StepSpec names s (.waiting, [.server (.ok false)])
  | resolve (service : MatterRemoteService) (browsing : Option MatterBrowseQuery) :
      StepSpec names (.serving none browsing)
        (.serving (some service) browsing, [.resolve service service.query])
  | resolved (service : MatterRemoteService) (browsing : Option MatterBrowseQuery)
      (answer : Except EspError DnsServiceInfo) :
      StepSpec names (.serving (some service) browsing)
        (.serving none browsing, [.resolved answer (resolveDeposit names service answer)])
  | browse (resolving : Option MatterRemoteService) (query : MatterBrowseQuery) :
      StepSpec names (.serving resolving none)
        (.serving resolving (some query), [.browse query query.serviceName])
  | browsed (resolving : Option MatterRemoteService) (query : MatterBrowseQuery)
      (answer : Except EspError (List DnsInstance)) :
      StepSpec names (.serving resolving (some query))
        (.serving resolving none, [.browsed answer (browseDeposits query answer)])

theorem step_spec (names : InstanceNames) (s : Serve) (i : Step) : StepSpec names s (step names s i) := by
  unfold step
  split
  · exact .idle _
  · exact .failed _ _
  · exact .found
  · exact .seen _ _
  · rename_i hs
    exact .lost _ fun e he => hs e he
  · exact .resolve _ _
  · exact .resolved _ _ _
  · exact .browse _ _
  · exact .browsed _ _ _
  · exact .idle _

variable {names : InstanceNames} {h : List Obs} {s : Serve} {next : Serve × List Obs}

theorem not_over_nil : ¬ Over [] := fun ⟨_, he⟩ => List.not_mem_nil he

theorem over_concat_iff {o : Obs} (ho : ∀ e, o ≠ .server (.error e)) : Over (h ++ [o]) ↔ Over h := by
  constructor
  · rintro ⟨e, he⟩
    rcases List.mem_append.mp he with hbefore | hlast
    · exact ⟨e, hbefore⟩
    · exact absurd (List.mem_singleton.mp hlast).symm (ho e)
  · exact fun ⟨e, he⟩ => ⟨e, List.mem_append_left _ he⟩

/-- A run that goes on has seen no error, before and after an observation that is none. -/
theorem Known.running (hknown : Known h s) (hs : ∀ e, s ≠ .ended e) {s' : Serve} (hs' : ∀ e, s' ≠ .ended e)
    {o : Obs} (ho : ∀ e, o ≠ .server (.error e)) : Over (h ++ [o]) ↔ ∃ e, s' = .ended e := by
  rw [over_concat_iff ho, hknown.failed]
  exact iff_of_false (fun ⟨e, he⟩ => hs e he) fun ⟨e, he⟩ => hs' e he

theorem Known.step (hknown : Known h s) (hstep : StepSpec names s next) : Known (h ++ next.2) next.1 := by
  have hrunning := hknown.running
  obtain ⟨hover, hpresent, hresolving, hbrowsing⟩ := hknown
  cases hstep with
  | idle s =>
      rw [List.append_nil]
      exact ⟨hover, hpresent, hresolving, hbrowsing⟩
  | failed s e =>
      have hfailed : Over (h ++ [.server (.error e)]) := ⟨e, List.mem_append_right _ List.mem_cons_self⟩
      exact ⟨iff_of_true hfailed ⟨_, rfl⟩, slot_clear (fun _ => id) trivial,
        slot_clear (fun _ => id) trivial, slot_clear (fun _ => id) trivial⟩
  | found =>
      refine ⟨hrunning (by nofun) (by nofun) (by nofun), hpresent.fill fun _ => ?_,
        hresolving.keep (fun _ => id) id, hbrowsing.keep (fun _ => id) id⟩
      exact iff_of_true trivial rfl
  | seen resolving browsing =>
      refine ⟨hrunning (by nofun) (by nofun) (by nofun), ?_, hresolving.keep (fun _ => id) id,
        hbrowsing.keep (fun _ => id) id⟩
      intro i
      rw [pending_concat_iff]
      exact iff_of_true (.inl trivial) rfl
  | lost s hs =>
      exact ⟨hrunning hs (by nofun) (by nofun), slot_clear (fun _ => id) trivial, slot_clear (fun _ => id) trivial,
        slot_clear (fun _ => id) trivial⟩
  | resolve service browsing =>
      refine ⟨hrunning (by nofun) (by nofun) (by nofun), hpresent.keep (fun _ => id) id,
        hresolving.fill fun _ => ?_, hbrowsing.keep (fun _ => id) id⟩
      exact eq_comm
  | resolved service browsing answer =>
      exact ⟨hrunning (by nofun) (by nofun) (by nofun), hpresent.keep (fun _ => id) id,
        slot_clear (fun _ => id) trivial, hbrowsing.keep (fun _ => id) id⟩
  | browse resolving query =>
      refine ⟨hrunning (by nofun) (by nofun) (by nofun), hpresent.keep (fun _ => id) id,
        hresolving.keep (fun _ => id) id, hbrowsing.fill fun _ => ?_⟩
      exact eq_comm
  | browsed resolving query answer =>
      exact ⟨hrunning (by nofun) (by nofun) (by nofun), hpresent.keep (fun _ => id) id,
        hresolving.keep (fun _ => id) id, slot_clear (fun _ => id) trivial⟩

theorem known_after (names : InstanceNames) (steps : List Step) :
    Known (outputs (step names) .waiting steps) (after (step names) .waiting steps) := by
  refine run_induction (step names) (I := fun h s _ => Known h s) (fun h s i _ hknown => ?_) (h := []) ?_
  · exact hknown.step (step_spec names s i)
  · refine ⟨iff_of_false not_over_nil ?_, slot_nil, slot_nil, slot_nil⟩
    rintro ⟨e, he⟩
    cases he

section Expected

variable (hknown : Known h s)

include hknown

theorem Known.freeToResolve : FreeToResolve h ↔ s.present = some () ∧ s.resolving = none := by
  have hnone : (∀ service, ¬ Resolving service h) ↔ s.resolving = none := by
    rw [Option.eq_none_iff_forall_ne_some]
    exact forall_congr' fun service => not_congr (hknown.resolving service)
  exact and_congr (hknown.present ()) hnone

theorem Known.freeToBrowse : FreeToBrowse h ↔ s.present = some () ∧ s.browsing = none := by
  have hnone : (∀ query, ¬ Browsing query h) ↔ s.browsing = none := by
    rw [Option.eq_none_iff_forall_ne_some]
    exact forall_congr' fun query => not_congr (hknown.browsing query)
  exact and_congr (hknown.present ()) hnone

theorem Known.expected_server (present : Except EspError Bool) :
    Expected names h (Serve.step names s (.server present)).2 (.server present) := by
  have hobs : (∀ e, s ≠ .ended e) → (Serve.step names s (.server present)).2 = [.server present] := by
    intro hs
    cases s with
    | ended e => exact absurd rfl (hs e)
    | waiting =>
        cases present with
        | error e => rfl
        | ok present => cases present <;> rfl
    | serving resolving browsing =>
        cases present with
        | error e => rfl
        | ok present => cases present <;> rfl
  constructor
  · intro hover
    obtain ⟨e, rfl⟩ := hknown.failed.mp hover
    rfl
  · intro hover
    apply hobs
    intro e he
    exact hover (hknown.failed.mpr ⟨e, he⟩)

theorem Known.expected_resolveRequest (service : MatterRemoteService) :
    Expected names h (Serve.step names s (.resolveRequest service)).2 (.resolveRequest service) := by
  simp only [Expected, hknown.freeToResolve]
  cases s with
  | waiting | ended e => exact ⟨fun hfree => (by cases hfree.1), fun _ => rfl⟩
  | serving resolving browsing =>
      cases resolving with
      | none => exact ⟨fun _ => ⟨_, rfl, asks_query service⟩, fun hbusy => absurd ⟨rfl, rfl⟩ hbusy⟩
      | some service' => exact ⟨fun hfree => (by cases hfree.2), fun _ => rfl⟩

theorem Known.expected_browseRequest (query : MatterBrowseQuery) :
    Expected names h (Serve.step names s (.browseRequest query)).2 (.browseRequest query) := by
  simp only [Expected, hknown.freeToBrowse]
  cases s with
  | waiting | ended e => exact ⟨fun hfree => (by cases hfree.1), fun _ => rfl⟩
  | serving resolving browsing =>
      cases browsing with
      | none =>
          refine ⟨fun _ => ⟨query.serviceName, ?_, browse_serviceName query⟩,
            fun hbusy => absurd ⟨rfl, rfl⟩ hbusy⟩
          cases resolving <;> rfl
      | some query' =>
          refine ⟨fun hfree => (by cases hfree.2), fun _ => ?_⟩
          cases resolving <;> rfl

theorem Known.expected_resolveAnswer (answer : Except EspError DnsServiceInfo) :
    Expected names h (Serve.step names s (.resolveAnswer answer)).2 (.resolveAnswer answer) := by
  constructor
  · intro service hopen
    have hresolving := (hknown.resolving service).mp hopen
    cases s with
    | waiting | ended e => cases hresolving
    | serving resolving browsing =>
        cases hresolving
        exact ⟨(hknown.present ()).mpr rfl, _, rfl, depositsAnswer_resolveDeposit names service answer⟩
  · intro hnone
    cases s with
    | waiting | ended e => rfl
    | serving resolving browsing =>
        cases resolving with
        | none => rfl
        | some service => exact absurd ((hknown.resolving service).mpr rfl) (hnone service)

theorem Known.expected_browseAnswer (answer : Except EspError (List DnsInstance)) :
    Expected names h (Serve.step names s (.browseAnswer answer)).2 (.browseAnswer answer) := by
  constructor
  · intro query hopen
    have hbrowsing := (hknown.browsing query).mp hopen
    cases s with
    | waiting | ended e => cases hbrowsing
    | serving resolving browsing =>
        cases hbrowsing
        refine ⟨(hknown.present ()).mpr rfl, browseDeposits query answer, ?_,
          depositsInstances_browseDeposits query answer⟩
        cases resolving <;> rfl
  · intro hnone
    cases s with
    | waiting | ended e => rfl
    | serving resolving browsing =>
        cases browsing with
        | none => cases resolving <;> rfl
        | some query => exact absurd ((hknown.browsing query).mpr rfl) (hnone query)

end Expected

/-- **What comes of an input is what should, after any inputs**: a request is queried for, under its own name,
if there is a server and no query before it is open; an answer is deposited for the request that is open; and
what is open is not forgotten. -/
theorem serves (names : InstanceNames) (steps : List Step) (i : Step) :
    let h := outputs (step names) .waiting steps
    Known h (after (step names) .waiting steps) ∧
      ∃ obs, outputs (step names) .waiting (steps ++ [i]) = h ++ obs ∧ Expected names h obs i := by
  intro h
  have hknown := known_after names steps
  refine ⟨hknown, (step names (after (step names) .waiting steps) i).2, ?_, ?_⟩
  · rw [outputs_append, outputs_cons, outputs_nil, List.append_nil]
  · cases i with
    | server present => exact hknown.expected_server present
    | resolveRequest service => exact hknown.expected_resolveRequest service
    | resolveAnswer answer => exact hknown.expected_resolveAnswer answer
    | browseRequest query => exact hknown.expected_browseRequest query
    | browseAnswer answer => exact hknown.expected_browseAnswer answer

end Serve

end EspIdfMatter.Thread
