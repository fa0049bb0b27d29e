import EspIdfMatter.Thread.Srp

/-! The registrations with the SRP server stay in step with the Matter services. Whatever a failed
update leaves behind, the wipe of the next `run` removes; from there on, every live registration is that
of a tracked service. -/

namespace EspIdfMatter.Thread

open Library Library.Machine

variable {σ ρ : Type} {maxFabrics : Nat}

/-- Registered, and not being removed. -/
def Srp.Live (S : Srp ρ) (r : ρ) (slot : SrpServiceSlot) (service : SrpService) : Prop :=
  S.holds r slot = some ⟨service, false⟩

/-- Matter described the service like this. -/
def Matter.Describes (matter : Matter σ) (service : σ) (described : SrpService) : Prop :=
  ∃ s, matter.service service = .ok s ∧ described = s.toSrp

/-- The tracked slots are those of the live registrations, each of them of its own service. -/
structure Tracks (S : Srp ρ) (described : σ → SrpService → Prop) (r : ρ)
    (tracked : List (σ × SrpServiceSlot)) : Prop where
  slots : (tracked.map Prod.snd).Nodup
  held : ∀ service slot, (service, slot) ∈ tracked → ∃ s, described service s ∧ S.Live r slot s
  live : ∀ slot s, S.Live r slot s → slot ∈ tracked.map Prod.snd

/-- The tracked services are the reported ones. -/
structure InStep (S : Srp ρ) (described : σ → SrpService → Prop) (w : World σ ρ maxFabrics)
    (reported : List σ) : Prop where
  tracks : Tracks S described w.srp w.services.toList
  services : (w.services.toList.map Prod.fst).Perm reported

/-- The services reported last, while `run_register` runs. -/
def Phase.reported : Phase σ maxFabrics → Option (List σ)
  | .stopped => none
  | .started => some []
  | .waiting services => some services.toList

/-- Matter reports distinct services, and on its own the SRP client only completes removals. -/
def Admits (S : Srp ρ) (w : World σ ρ maxFabrics) : Step σ ρ → Prop
  | .update matter => matter.mdnsServices.Nodup
  | .srp srp => S.Settles w.srp srp
  | _ => True

/-! ### The SRP client -/

section Client

variable {S : Srp ρ} (hS : S.Lawful) {described : σ → SrpService → Prop} {r : ρ}

theorem Srp.Settles.live {r' : ρ} (h : S.Settles r r') (slot : SrpServiceSlot) (s : SrpService) :
    S.Live r' slot s ↔ S.Live r slot s := by
  unfold Srp.Live
  rcases h slot with hsame | ⟨hnone, service, hremoving⟩
  · rw [hsame]
  · rw [hnone, hremoving]
    constructor
    · intro h
      cases h
    · intro h
      cases h

theorem Tracks.congr {r' : ρ} {tracked : List (σ × SrpServiceSlot)}
    (h : Tracks S described r tracked) (hlive : ∀ slot s, S.Live r' slot s ↔ S.Live r slot s) :
    Tracks S described r' tracked := by
  refine ⟨h.slots, fun service slot hmem => ?_, fun slot s hs => h.live slot s ((hlive slot s).mp hs)⟩
  obtain ⟨s, hdescribed, hs⟩ := h.held service slot hmem
  exact ⟨s, hdescribed, (hlive slot s).mpr hs⟩

theorem Tracks.mono {described' : σ → SrpService → Prop} {tracked : List (σ × SrpServiceSlot)}
    (h : Tracks S described r tracked)
    (himp : ∀ service s, described service s → described' service s) :
    Tracks S described' r tracked := by
  refine ⟨h.slots, fun service slot hmem => ?_, h.live⟩
  obtain ⟨s, hdescribed, hs⟩ := h.held service slot hmem
  exact ⟨s, himp service s hdescribed, hs⟩

theorem tracks_nil (h : ∀ slot s, ¬ S.Live r slot s) : Tracks S described r [] :=
  ⟨List.nodup_nil, fun _ _ hmem => absurd hmem List.not_mem_nil, fun slot s hs => absurd hs (h slot s)⟩

theorem ok_of_mapError {α : Type} {x : Except EspError α} {a : α}
    (h : x.mapError toNetError = .ok a) : x = .ok a := by
  cases x with
  | error e => cases h
  | ok a' => exact congrArg Except.ok (Except.ok.inj h)

include hS

/-- Removed one way or the other, a slot is not live any more, and the others are as before. -/
theorem live_removeService {slot : SrpServiceSlot} {immediate : Bool}
    (hok : (removeService S slot immediate r).result = .ok ()) (slot' : SrpServiceSlot)
    (s : SrpService) :
    S.Live (removeService S slot immediate r).srp slot' s ↔ slot' ≠ slot ∧ S.Live r slot' s := by
  have hcall : S.removeService r slot immediate =
      ((removeService S slot immediate r).srp, .ok ()) :=
    Prod.ext rfl (ok_of_mapError hok)
  unfold Srp.Live
  cases immediate with
  | true =>
      rw [hS.removeService_immediate _ _ _ hcall]
      by_cases heq : slot' = slot <;> simp [heq]
  | false =>
      rw [hS.removeService_graceful _ _ _ hcall]
      by_cases heq : slot' = slot <;> simp [heq]

/-- Registering takes a slot which is not in use. -/
theorem register_ok {matter : Matter σ} {service : σ} {slot : SrpServiceSlot}
    (hok : (register S matter service r).result = .ok slot) :
    ∃ s, matter.Describes service s ∧ (register S matter service r).calls = [.addService s] ∧
      (∀ s', ¬ S.Live r slot s') ∧
      ∀ slot' s', S.Live (register S matter service r).srp slot' s' ↔
        slot' = slot ∧ s' = s ∨ S.Live r slot' s' := by
  unfold register at hok ⊢
  cases hs : matter.service service with
  | error e =>
      rw [hs] at hok
      cases hok
  | ok s =>
      rw [hs] at hok
      have hcall : S.addService r s.toSrp = ((S.addService r s.toSrp).1, .ok slot) :=
        Prod.ext rfl (ok_of_mapError hok)
      obtain ⟨hfree, hadded⟩ := hS.addService _ _ _ _ hcall
      refine ⟨s.toSrp, ⟨s, hs, rfl⟩, rfl, fun s' hlive => ?_, fun slot' s' => ?_⟩
      · rw [Srp.Live, hfree] at hlive
        cases hlive
      · unfold Srp.Live
        rw [hadded]
        by_cases heq : slot' = slot
        · subst heq
          simp [hfree, eq_comm]
        · simp [heq]

/-- A registration that is added is tracked with its slot. -/
theorem Tracks.register {tracked : List (σ × SrpServiceSlot)} (h : Tracks S described r tracked)
    {matter : Matter σ} (hmatter : ∀ service s, matter.Describes service s → described service s)
    {service : σ} {slot : SrpServiceSlot} (hok : (register S matter service r).result = .ok slot) :
    Tracks S described (register S matter service r).srp (tracked ++ [(service, slot)]) := by
  obtain ⟨s, hdescribes, -, hfree, hlive⟩ := register_ok hS hok
  constructor
  · rw [List.map_append, List.nodup_append]
    refine ⟨h.slots, List.nodup_singleton _, fun slot' hmem slot'' hmem' heq => ?_⟩
    obtain rfl : slot'' = slot := List.mem_singleton.mp hmem'
    subst heq
    obtain ⟨⟨service', slot'⟩, hentry, rfl⟩ := List.mem_map.mp hmem
    obtain ⟨s', -, hs'⟩ := h.held service' slot' hentry
    exact hfree s' hs'
  · intro service' slot' hmem
    rcases List.mem_append.mp hmem with hmem | hmem
    · obtain ⟨s', hdescribed, hs'⟩ := h.held service' slot' hmem
      exact ⟨s', hdescribed, (hlive slot' s').mpr (.inr hs')⟩
    · obtain ⟨rfl, rfl⟩ := Prod.mk.inj (List.mem_singleton.mp hmem)
      exact ⟨s, hmatter _ _ hdescribes, (hlive slot' s).mpr (.inl ⟨rfl, rfl⟩)⟩
  · intro slot' s' hs'
    rw [List.map_append]
    rcases (hlive slot' s').mp hs' with ⟨rfl, -⟩ | hold
    · exact List.mem_append_right _ (List.mem_singleton_self _)
    · exact List.mem_append_left _ (h.live slot' s' hold)

theorem registerServices_ok {matter : Matter σ}
    (hmatter : ∀ service s, matter.Describes service s → described service s) {services : List σ}
    {tracked : MatterVec (σ × SrpServiceSlot) maxFabrics} {r : ρ}
    (h : Tracks S described r tracked.toList)
    (hok : (registerServices S matter services tracked r).2.result = .ok ()) :
    Tracks S described (registerServices S matter services tracked r).2.srp
        (registerServices S matter services tracked r).1.toList ∧
      (registerServices S matter services tracked r).1.toList.map Prod.fst =
        tracked.toList.map Prod.fst ++ services ∧
      ∃ added, (registerServices S matter services tracked r).2.calls = added.map .addService ∧
        List.Forall₂ matter.Describes services added := by
  induction services generalizing tracked r with
  | nil => exact ⟨h, (List.append_nil _).symm, [], rfl, .nil⟩
  | cons service services ih =>
      unfold registerServices at hok ⊢
      dsimp only at hok ⊢
      cases hresult : (register S matter service r).result with
      | error e =>
          rw [hresult] at hok
          cases hok
      | ok slot =>
          rw [hresult] at hok
          cases hpush : tracked.push (service, slot) with
          | none =>
              simp only [hpush] at hok
              cases hok
          | some tracked' =>
              simp only [hpush] at hok ⊢
              have hnext := h.register hS hmatter hresult
              rw [← BoundedVec.push_toList hpush] at hnext
              obtain ⟨htracks, hservices, added, hcalls, hadded⟩ := ih hnext hok
              obtain ⟨s, hdescribes, hcall, -, -⟩ := register_ok hS hresult
              refine ⟨htracks, ?_, s :: added, ?_, .cons hdescribes hadded⟩
              · rw [hservices, BoundedVec.push_toList hpush, List.map_append, List.append_assoc]
                rfl
              · rw [hcall, hcalls]
                rfl

end Client

/-! ### Updates -/

section Updates

variable [DecidableEq σ] {S : Srp ρ} (hS : S.Lawful) {described : σ → SrpService → Prop}

include hS

theorem removeServices_ok {services : List σ} {registered : List (σ × SrpServiceSlot)} {r : ρ}
    (hok : (removeServices S services registered r).result = .ok ()) :
    (removeServices S services registered r).calls =
        registered.map (fun entry => .removeService entry.2 (decide (entry.1 ∈ services))) ∧
      ∀ slot s, S.Live (removeServices S services registered r).srp slot s ↔
        slot ∉ registered.map Prod.snd ∧ S.Live r slot s := by
  induction registered generalizing r with
  | nil => exact ⟨rfl, fun slot s => (and_iff_right List.not_mem_nil).symm⟩
  | cons entry registered ih =>
      obtain ⟨service, slot⟩ := entry
      have hremoved : (if service ∈ services then removeService S slot true r
          else deregister S slot r) = removeService S slot (decide (service ∈ services)) r := by
        split_ifs with hkept
        · rw [decide_eq_true hkept]
        · rw [decide_eq_false hkept]
          rfl
      unfold removeServices at hok ⊢
      simp only [hremoved] at hok ⊢
      cases hresult : (removeService S slot (decide (service ∈ services)) r).result with
      | error e =>
          rw [hresult] at hok
          cases hok
      | ok u =>
          rw [hresult] at hok
          obtain ⟨hcalls, hlive⟩ := ih hok
          refine ⟨?_, fun slot' s => ?_⟩
          · rw [List.map_cons, ← hcalls]
            rfl
          · rw [hlive, live_removeService hS hresult, List.map_cons, List.mem_cons, not_or,
              ← and_assoc, and_comm (a := slot' ∉ _)]

end Updates

/-! ### The set of services -/

section Sets

variable {S : Srp ρ} (hS : S.Lawful) {described : σ → SrpService → Prop}
  {w : World σ ρ maxFabrics} {matter : Matter σ} {services : MatterVec σ maxFabrics}

/-- For distinct services, the same number and inclusion is the same set. -/
theorem covered_iff (hservices : services.toList.Nodup)
    (htracked : (w.services.toList.map Prod.fst).Nodup) :
    (services.length = w.services.length ∧
        ∀ service ∈ services.toList, ∃ entry ∈ w.services.toList, entry.1 = service) ↔
      ∀ service, service ∈ services.toList ↔ service ∈ w.services.toList.map Prod.fst := by
  have hmem : ∀ service, service ∈ w.services.toList.map Prod.fst ↔
      ∃ entry ∈ w.services.toList, entry.1 = service := fun service => List.mem_map
  have hlength : (w.services.toList.map Prod.fst).length = w.services.length := List.length_map _
  constructor
  · rintro ⟨hlen, hall⟩
    have hsub : services.toList.Subperm (w.services.toList.map Prod.fst) :=
      List.subperm_of_subset hservices fun service h => (hmem service).mpr (hall service h)
    have hperm := hsub.perm_of_length_le (hlength.trans hlen.symm).le
    exact fun service => hperm.mem_iff
  · intro hsame
    have hperm : services.toList.Perm (w.services.toList.map Prod.fst) :=
      (List.perm_ext_iff_of_nodup hservices htracked).mpr hsame
    exact ⟨hperm.length_eq.trans hlength, fun service h => (hmem service).mp ((hsame service).mp h)⟩

variable [DecidableEq σ]

variable (S matter) in
theorem updateServices_of_same (hservices : services.toList.Nodup)
    (htracked : (w.services.toList.map Prod.fst).Nodup)
    (hsame : ∀ service, service ∈ services.toList ↔ service ∈ w.services.toList.map Prod.fst) :
    updateServices S matter services w = (w.services, ⟨w.srp, [], .ok ()⟩) :=
  if_pos ((covered_iff hservices htracked).mpr hsame)

include hS

theorem updateServices_of_changed (hservices : services.toList.Nodup)
    (htracked : (w.services.toList.map Prod.fst).Nodup)
    (h : Tracks S described w.srp w.services.toList)
    (hmatter : ∀ service s, matter.Describes service s → described service s)
    (hchanged : ¬ ∀ service, service ∈ services.toList ↔
      service ∈ w.services.toList.map Prod.fst)
    (hok : (updateServices S matter services w).2.result = .ok ()) :
    Tracks S described (updateServices S matter services w).2.srp
        (updateServices S matter services w).1.toList ∧
      (updateServices S matter services w).1.toList.map Prod.fst = services.toList ∧
      ∃ added, List.Forall₂ matter.Describes services.toList added ∧
        (updateServices S matter services w).2.calls =
          w.services.toList.map (fun entry =>
            .removeService entry.2 (decide (entry.1 ∈ services.toList))) ++
          added.map .addService := by
  have hcovered := mt (covered_iff hservices htracked).mp hchanged
  unfold updateServices at hok ⊢
  rw [if_neg hcovered] at hok ⊢
  dsimp only at hok ⊢
  cases hresult : (removeServices S services.toList w.services.toList w.srp).result with
  | error e =>
      rw [hresult] at hok
      exact absurd (hresult.symm.trans hok) nofun
  | ok u =>
      rw [hresult] at hok
      obtain ⟨hcalls, hlive⟩ := removeServices_ok hS hresult
      -- every live registration was tracked, and is removed
      have hempty : Tracks S described
          (removeServices S services.toList w.services.toList w.srp).srp
          (BoundedVec.empty : MatterVec (σ × SrpServiceSlot) maxFabrics).toList :=
        tracks_nil fun slot s hs => ((hlive slot s).mp hs).1 (h.live slot s ((hlive slot s).mp hs).2)
      obtain ⟨htracks, hfst, added, hadds, hadded⟩ :=
        registerServices_ok hS hmatter hempty hok
      exact ⟨htracks, hfst, added, hadded, by rw [hcalls, hadds]⟩

end Sets

/-! ### Runs -/

section Runs

variable {S : Srp ρ} (hS : S.Lawful) {hostEui64 : Option Eui64}
  {described : σ → SrpService → Prop} {w : World σ ρ maxFabrics}

/-- While `run_register` runs, everything is in step with the services reported last. -/
def Inv (S : Srp ρ) (described : σ → SrpService → Prop) (w : World σ ρ maxFabrics) : Prop :=
  ∀ reported, w.phase.reported = some reported → reported.Nodup ∧ InStep S described w reported

theorem inv_of_stopped (h : w.phase = .stopped) : Inv S described w := by
  intro reported hreported
  rw [h] at hreported
  cases hreported

theorem collect_ok {matter : Matter σ} {services : MatterVec σ maxFabrics}
    (h : matter.collect = .ok services) : services.toList = matter.mdnsServices := by
  unfold Matter.collect at h
  split at h
  · cases h
  · rename_i collected hcollected
    have hlist := BoundedVec.foldlM_push_toList hcollected
    cases hresult : matter.result with
    | error e =>
        rw [hresult] at h
        cases h
    | ok u =>
        rw [hresult] at h
        cases h
        exact hlist

include hS

theorem inv_run (mac : Except EspError Eui64) : Inv S described (run S hostEui64 mac w).1 := by
  unfold run
  split
  · exact inv_of_stopped rfl
  · dsimp only
    split
    · exact inv_of_stopped rfl
    · rename_i r hremoved
      split
      · exact inv_of_stopped rfl
      · rename_i r' hconf
        intro reported hreported
        obtain rfl := Option.some.inj hreported
        refine ⟨List.nodup_nil, tracks_nil fun slot s hs => ?_, .refl _⟩
        rw [Srp.Live, hS.setConf _ _ _ hconf, hS.removeAll _ _ hremoved slot] at hs
        cases hs

variable [DecidableEq σ]

theorem inv_runRegister {matter : Matter σ} {reported : List σ} (hreported : reported.Nodup)
    (h : InStep S described w reported) (hnodup : matter.mdnsServices.Nodup)
    (hmatter : ∀ service s, matter.Describes service s → described service s) :
    Inv S described (runRegister S matter w).1 := by
  unfold runRegister
  split
  · exact inv_of_stopped rfl
  rename_i services hcollect
  have hservices : services.toList.Nodup := by rwa [collect_ok hcollect]
  have htracked : (w.services.toList.map Prod.fst).Nodup := h.services.symm.nodup hreported
  intro reported' hreported'
  dsimp only at hreported' ⊢
  cases hresult : (updateServices S matter services w).2.result with
  | error e =>
      rw [hresult] at hreported'
      cases hreported'
  | ok u =>
      rw [hresult] at hreported'
      obtain rfl := Option.some.inj hreported'
      refine ⟨hservices, ?_⟩
      by_cases hsame : ∀ service, service ∈ services.toList ↔
          service ∈ w.services.toList.map Prod.fst
      · have hupdate := updateServices_of_same S matter hservices htracked hsame
        constructor
        · rw [hupdate]
          exact h.tracks
        · rw [hupdate]
          exact (List.perm_ext_iff_of_nodup htracked hservices).mpr fun service =>
            (hsame service).symm
      · obtain ⟨htracks, hfst, -⟩ := updateServices_of_changed hS hservices htracked h.tracks hmatter
          hsame hresult
        exact ⟨htracks, .of_eq hfst⟩

/-- **Every step keeps the registrations in step.** -/
theorem inv_step {s : Step σ ρ} (h : Inv S described w) (hadmits : Admits S w s)
    (hdescribed : ∀ matter, s = .update matter →
      ∀ service d, matter.Describes service d → described service d) :
    Inv S described (step S hostEui64 w s).1 := by
  cases s with
  | run mac => exact inv_run hS mac
  | update matter =>
      cases hphase : w.phase with
      | stopped =>
          simp only [step, hphase]
          exact inv_of_stopped hphase
      | started =>
          obtain ⟨hnodup, hin⟩ := h [] (by rw [hphase]; rfl)
          simp only [step, hphase]
          exact inv_runRegister hS hnodup hin hadmits (hdescribed matter rfl)
      | waiting services =>
          obtain ⟨hnodup, hin⟩ := h services.toList (by rw [hphase]; rfl)
          simp only [step, hphase]
          exact inv_runRegister hS hnodup hin hadmits (hdescribed matter rfl)
  | cancel => exact inv_of_stopped rfl
  | srp srp =>
      intro reported hreported
      obtain ⟨hnodup, hin⟩ := h reported hreported
      exact ⟨hnodup, hin.tracks.congr hadmits.live, hin.services⟩

end Runs

/-- A client that keeps its registrations in a list and never uses a slot again. -/
def Srp.table : Srp (List (Option Registration)) where
  holds := fun r slot => r.getD slot none
  removeAll := fun r immediate =>
    (if immediate = true then [] else
      r.map fun entry => entry.map fun registration => { registration with removing := true }, .ok ())
  setConf := fun r _ => (r, .ok ())
  addService := fun r service => (r ++ [some ⟨service, false⟩], .ok r.length)
  removeService := fun r slot immediate =>
    (r.set slot (if immediate = true then none else
      (r.getD slot none).map fun registration => { registration with removing := true }), .ok ())

end EspIdfMatter.Thread
