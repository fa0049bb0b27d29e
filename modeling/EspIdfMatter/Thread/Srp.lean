import EspIdfMatter.Btp
import EspIdfMatter.Library.Machine

/-! The mDNS implementation for Thread, which registers the Matter services over SRP. The SRP client is
OpenThread's, and the services are reported and described by `rs-matter`: both are parameters. -/

namespace EspIdfMatter.Thread

open Library

abbrev SrpServiceSlot := Nat

abbrev Eui64 := Vector UInt8 8

/-- A service as `rs-matter` describes it. -/
structure Service where
  name : String
  serviceProtocol : String
  port : UInt16
  serviceSubtypes : List String
  txtKvs : List (String × String)
  deriving DecidableEq

structure SrpService where
  name : String
  instanceName : String
  port : UInt16
  subtypeLabels : List String
  txtEntries : List (String × Bytes)
  priority : UInt16
  weight : UInt16
  leaseSecs : UInt32
  keyLeaseSecs : UInt32
  deriving DecidableEq

structure SrpConf where
  hostName : String
  hostAddrs : List (Vector UInt8 16)
  deriving DecidableEq

/-- What `register` makes of a service. -/
def Service.toSrp (service : Service) : SrpService where
  name := service.serviceProtocol
  instanceName := service.name
  port := service.port
  subtypeLabels := service.serviceSubtypes
  txtEntries := service.txtKvs.map fun kv => (kv.1, kv.2.toUTF8.toList)
  priority := 0
  weight := 0
  leaseSecs := 0
  keyLeaseSecs := 0

/-- `{:02X}` -/
def hexByte (b : UInt8) : List Char :=
  [(Nat.digitChar (b.toNat / 16)).toUpper, (Nat.digitChar (b.toNat % 16)).toUpper]

def hostname (eui64 : Eui64) : List Char :=
  eui64.toList.flatMap hexByte

theorem length_hostname (eui64 : Eui64) : (hostname eui64).length = 16 := by
  have hbytes : ∀ bytes : List UInt8, (bytes.flatMap hexByte).length = 2 * bytes.length := by
    intro bytes
    induction bytes with
    | nil => rfl
    | cons b bytes ih =>
        rw [List.flatMap_cons, List.length_append, ih, List.length_cons, Nat.mul_succ, Nat.add_comm]
        rfl
  rw [hostname, hbytes, Vector.length_toList]

/-- `to_net_error` -/
def toNetError (_ : EspError) : ErrorCode := .noNetworkInterface

/-! ### The parameters -/

structure Registration where
  service : SrpService
  removing : Bool
  deriving DecidableEq

/-- The SRP client over a state `ρ`. -/
structure Srp (ρ : Type) where
  /-- what is registered under a slot -/
  holds : ρ → SrpServiceSlot → Option Registration
  removeAll : ρ → Bool → ρ × Except EspError Unit
  setConf : ρ → SrpConf → ρ × Except EspError Unit
  addService : ρ → SrpService → ρ × Except EspError SrpServiceSlot
  removeService : ρ → SrpServiceSlot → Bool → ρ × Except EspError Unit

/-- What the calls that succeed do to the registrations. Those that fail may do anything. -/
structure Srp.Lawful {ρ : Type} (S : Srp ρ) : Prop where
  removeAll : ∀ r r', S.removeAll r true = (r', .ok ()) → ∀ slot, S.holds r' slot = none
  setConf : ∀ r r' conf, S.setConf r conf = (r', .ok ()) → S.holds r' = S.holds r
  addService : ∀ r r' service slot, S.addService r service = (r', .ok slot) →
    S.holds r slot = none ∧
      S.holds r' = Function.update (S.holds r) slot (some ⟨service, false⟩)
  removeService_immediate : ∀ r r' slot, S.removeService r slot true = (r', .ok ()) →
    S.holds r' = Function.update (S.holds r) slot none
  removeService_graceful : ∀ r r' slot, S.removeService r slot false = (r', .ok ()) →
    S.holds r' = Function.update (S.holds r) slot
      ((S.holds r slot).map fun registration => { registration with removing := true })

/-- The client completes some of the removals. -/
def Srp.Settles {ρ : Type} (S : Srp ρ) (r r' : ρ) : Prop :=
  ∀ slot, S.holds r' slot = S.holds r slot ∨
    S.holds r' slot = none ∧ ∃ service, S.holds r slot = some ⟨service, true⟩

/-- What Matter says in one iteration. -/
structure Matter (σ : Type) where
  /-- the services that `mdns_services` reports -/
  mdnsServices : List σ
  /-- how it ends, unless the callback has failed -/
  result : Except ErrorCode Unit
  /-- how the services are described -/
  service : σ → Except ErrorCode Service

/-! ### `EspMatterThreadSrp` -/

variable {σ ρ : Type} [DecidableEq σ] {maxFabrics : Nat}

/-- `Vec<_, MAX_MATTER_SERVICES>` -/
abbrev MatterVec (α : Type) (maxFabrics : Nat) := BoundedVec α (maxFabrics + 1)

inductive Phase (σ : Type) (maxFabrics : Nat) where
  /-- not started, cancelled, or ended by an error -/
  | stopped
  /-- `run_register` is about to be entered -/
  | started
  /-- `run_register` is in `wait_mdns`, with the services it was told before -/
  | waiting (services : MatterVec σ maxFabrics)
  deriving DecidableEq

/-- The tracked services, the SRP client, and where `run` is. -/
structure World (σ ρ : Type) (maxFabrics : Nat) where
  services : MatterVec (σ × SrpServiceSlot) maxFabrics
  srp : ρ
  phase : Phase σ maxFabrics

inductive SrpCall where
  | removeAll (immediate : Bool)
  | setConf (conf : SrpConf)
  | addService (service : SrpService)
  | removeService (slot : SrpServiceSlot) (immediate : Bool)
  deriving DecidableEq

/-- What calls to the SRP client come to. -/
structure Called (ρ α : Type) where
  srp : ρ
  calls : List SrpCall
  result : Except ErrorCode α

def removeService (S : Srp ρ) (slot : SrpServiceSlot) (immediate : Bool) (r : ρ) : Called ρ Unit :=
  let removed := S.removeService r slot immediate
  ⟨removed.1, [.removeService slot immediate], removed.2.mapError toNetError⟩

def deregister (S : Srp ρ) (slot : SrpServiceSlot) (r : ρ) : Called ρ Unit :=
  removeService S slot false r

def register (S : Srp ρ) (matter : Matter σ) (service : σ) (r : ρ) : Called ρ SrpServiceSlot :=
  match matter.service service with
  | .error e => ⟨r, [], .error e⟩
  | .ok service =>
      let added := S.addService r service.toSrp
      ⟨added.1, [.addService service.toSrp], added.2.mapError toNetError⟩

/-- The removals of `update_services`. -/
def removeServices (S : Srp ρ) (services : List σ) :
    List (σ × SrpServiceSlot) → ρ → Called ρ Unit
  | [], r => ⟨r, [], .ok ()⟩
  | (service, slot) :: registered, r =>
      let removed :=
        if service ∈ services then
          -- Drop the local registration only - re-added below, into the same update
          removeService S slot true r
        else
          deregister S slot r
      match removed.result with
      | .error e => ⟨removed.srp, removed.calls, .error e⟩
      | .ok () =>
          let rest := removeServices S services registered removed.srp
          { rest with calls := removed.calls ++ rest.calls }

/-- The additions of `update_services`, and what is tracked afterwards. -/
def registerServices (S : Srp ρ) (matter : Matter σ) :
    List σ → MatterVec (σ × SrpServiceSlot) maxFabrics → ρ →
      MatterVec (σ × SrpServiceSlot) maxFabrics × Called ρ Unit
  | [], tracked, r => (tracked, ⟨r, [], .ok ()⟩)
  | service :: services, tracked, r =>
      let registered := register S matter service r
      match registered.result with
      | .error e => (tracked, ⟨registered.srp, registered.calls, .error e⟩)
      | .ok slot =>
          match tracked.push (service, slot) with
          | none => (tracked, ⟨registered.srp, registered.calls, .error .constraintError⟩)
          | some tracked =>
              let rest := registerServices S matter services tracked registered.srp
              (rest.1, { rest.2 with calls := registered.calls ++ rest.2.calls })

def updateServices (S : Srp ρ) (matter : Matter σ) (services : MatterVec σ maxFabrics)
    (w : World σ ρ maxFabrics) : MatterVec (σ × SrpServiceSlot) maxFabrics × Called ρ Unit :=
  -- Nothing to do unless the set actually changed
  if services.length = w.services.length ∧
      ∀ service ∈ services.toList, ∃ entry ∈ w.services.toList, entry.1 = service then
    (w.services, ⟨w.srp, [], .ok ()⟩)
  else
    let removed := removeServices S services.toList w.services.toList w.srp
    match removed.result with
    | .error _ => (.empty, removed)
    | .ok () =>
        let registered := registerServices S matter services.toList .empty removed.srp
        (registered.1, { registered.2 with calls := removed.calls ++ registered.2.calls })

/-- The callback of `mdns_services` collects what it is given. -/
def Matter.collect (matter : Matter σ) : Except ErrorCode (MatterVec σ maxFabrics) :=
  match matter.mdnsServices.foldlM BoundedVec.push .empty with
  | none => .error .constraintError
  | some services => matter.result.map fun _ => services

/-- `run`, up to `run_register`. -/
def run (S : Srp ρ) (hostEui64 : Option Eui64) (mac : Except EspError Eui64)
    (w : World σ ρ maxFabrics) : World σ ρ maxFabrics × List SrpCall :=
  match hostEui64.elim mac .ok with
  | .error _ => ({ w with phase := .stopped }, [])
  | .ok eui64 =>
      let conf : SrpConf := { hostName := String.ofList (hostname eui64), hostAddrs := [] }
      match S.removeAll w.srp true with
      | (srp, .error _) => ({ w with srp, phase := .stopped }, [.removeAll true])
      | (srp, .ok ()) =>
          match S.setConf srp conf with
          | (srp, .error _) =>
              ({ services := .empty, srp, phase := .stopped }, [.removeAll true, .setConf conf])
          | (srp, .ok ()) =>
              ({ services := .empty, srp, phase := .started }, [.removeAll true, .setConf conf])

/-- An iteration of `run_register`, up to `wait_mdns`. -/
def runRegister (S : Srp ρ) (matter : Matter σ) (w : World σ ρ maxFabrics) :
    World σ ρ maxFabrics × List SrpCall :=
  match matter.collect with
  | .error _ => ({ w with phase := .stopped }, [])
  | .ok services =>
      let updated := updateServices S matter services w
      ({ services := updated.1, srp := updated.2.srp,
         phase := match updated.2.result with
           | .error _ => .stopped
           | .ok () => .waiting services },
        updated.2.calls)

/-! ### Runs -/

inductive Step (σ ρ : Type) where
  /-- `run` is called; this is what reading the factory address comes to -/
  | run (mac : Except EspError Eui64)
  /-- `run_register` goes on, if it runs -/
  | update (matter : Matter σ)
  /-- `run` is dropped, or its other half fails -/
  | cancel
  /-- the SRP client makes progress on its own -/
  | srp (srp : ρ)

def step (S : Srp ρ) (hostEui64 : Option Eui64) (w : World σ ρ maxFabrics) :
    Step σ ρ → World σ ρ maxFabrics × List SrpCall
  | .run mac => run S hostEui64 mac w
  | .update matter =>
      match w.phase with
      | .stopped => (w, [])
      | _ => runRegister S matter w
  | .cancel => ({ w with phase := .stopped }, [])
  | .srp srp => ({ w with srp }, [])

/-- An `EspMatterThreadSrp` just created, over an SRP client in any state. -/
def World.new (srp : ρ) : World σ ρ maxFabrics where
  services := .empty
  srp := srp
  phase := .stopped

end EspIdfMatter.Thread
