import EspIdfMatter.Library.Bits
import EspIdfMatter.Library.Visit
import EspIdfMatter.Thread.Control

/-! The diagnostics of a Thread interface: what they make of the answers of OpenThread, and the words into
which they put an operational dataset. -/

namespace EspIdfMatter.Thread

open Library Visit Netif

/-! ### Timestamps -/

/-- `esp_idf_svc::thread::Timestamp` -/
structure Timestamp where
  seconds : BitVec 64
  ticks : BitVec 16
  authoritative : Bool
  deriving DecidableEq

/-- A Thread dataset timestamp as the 64-bit value of its TLV: seconds, ticks and the authoritative bit -/
def datasetTimestamp (timestamp : Timestamp) : BitVec 64 :=
  timestamp.seconds <<< 16 ||| timestamp.ticks.setWidth 64 <<< 1 |||
    (BitVec.ofBool timestamp.authoritative).setWidth 64

/-- The fields of a TLV. -/
def Timestamp.ofTlv (value : BitVec 64) : Timestamp where
  seconds := value >>> 16
  ticks := (value.extractLsb' 1 15).setWidth 16
  authoritative := value.getLsbD 0

/-- The TLV has 48 bits for the seconds and 15 for the ticks. -/
def Timestamp.Fits (timestamp : Timestamp) : Prop :=
  timestamp.seconds.toNat < 2 ^ 48 ∧ timestamp.ticks.toNat < 2 ^ 15

instance (timestamp : Timestamp) : Decidable timestamp.Fits :=
  inferInstanceAs (Decidable (_ ∧ _))

/-- The order of dataset timestamps: by the seconds, then the ticks, then the authoritative bit. -/
def Timestamp.Before (earlier later : Timestamp) : Prop :=
  earlier.seconds < later.seconds ∨ earlier.seconds = later.seconds ∧
    (earlier.ticks < later.ticks ∨ earlier.ticks = later.ticks ∧
      earlier.authoritative = false ∧ later.authoritative = true)

section Timestamps

variable {t u : Timestamp}

theorem ofTlv_fits (value : BitVec 64) : (Timestamp.ofTlv value).Fits := by
  refine ⟨?_, ?_⟩
  · have hshift : (value >>> 16).toNat = value.toNat / 2 ^ 16 := by
      rw [BitVec.toNat_ushiftRight, Nat.shiftRight_eq_div_pow]
    have hlt := value.isLt
    show (value >>> 16).toNat < 2 ^ 48
    omega
  · have hlt := (value.extractLsb' 1 15).isLt
    show ((value.extractLsb' 1 15).setWidth 16).toNat < 2 ^ 15
    rw [BitVec.toNat_setWidth]
    omega

/-- The three fields do not overlap. -/
theorem Timestamp.Fits.toNat (h : t.Fits) :
    (datasetTimestamp t).toNat = t.seconds.toNat * 2 ^ 16 + t.ticks.toNat * 2 + t.authoritative.toNat := by
  obtain ⟨hseconds, hticks⟩ := h
  have hbit : t.authoritative.toNat < 2 ^ 1 := Bool.toNat_lt t.authoritative
  have hlow : t.ticks.toNat * 2 + t.authoritative.toNat < 2 ^ 16 := by omega
  have hfirst : (t.seconds <<< 16).toNat = 2 ^ 16 * t.seconds.toNat := by
    rw [BitVec.toNat_shiftLeft, Nat.shiftLeft_eq, Nat.mod_eq_of_lt (by omega), Nat.mul_comm]
  have hsecond : (t.ticks.setWidth 64 <<< 1).toNat = 2 ^ 1 * t.ticks.toNat := by
    rw [BitVec.toNat_shiftLeft, BitVec.toNat_setWidth, Nat.shiftLeft_eq, Nat.mod_eq_of_lt (by omega),
      Nat.mod_eq_of_lt (by omega), Nat.mul_comm]
  have hthird : ((BitVec.ofBool t.authoritative).setWidth 64).toNat = t.authoritative.toNat := by
    rw [BitVec.toNat_setWidth, BitVec.toNat_ofBool, Nat.mod_eq_of_lt (by omega)]
  calc (datasetTimestamp t).toNat
      = 2 ^ 16 * t.seconds.toNat ||| (2 ^ 1 * t.ticks.toNat ||| t.authoritative.toNat) := by
        rw [datasetTimestamp, BitVec.toNat_or, BitVec.toNat_or, hfirst, hsecond, hthird, Nat.or_assoc]
    _ = 2 ^ 16 * t.seconds.toNat + (2 ^ 1 * t.ticks.toNat + t.authoritative.toNat) := by
        rw [← Nat.two_pow_add_eq_or_of_lt hbit, ← Nat.two_pow_add_eq_or_of_lt (by omega)]
    _ = t.seconds.toNat * 2 ^ 16 + t.ticks.toNat * 2 + t.authoritative.toNat := by omega

theorem ofTlv_datasetTimestamp (h : t.Fits) : Timestamp.ofTlv (datasetTimestamp t) = t := by
  have hvalue := h.toNat
  obtain ⟨hseconds, hticks⟩ := h
  have hbit : t.authoritative.toNat < 2 := Bool.toNat_lt t.authoritative
  have hfirst : datasetTimestamp t >>> 16 = t.seconds := by
    apply BitVec.eq_of_toNat_eq
    rw [BitVec.toNat_ushiftRight, Nat.shiftRight_eq_div_pow]
    omega
  have hsecond : ((datasetTimestamp t).extractLsb' 1 15).setWidth 16 = t.ticks := by
    apply BitVec.eq_of_toNat_eq
    rw [BitVec.toNat_setWidth, BitVec.extractLsb'_toNat, Nat.shiftRight_eq_div_pow]
    omega
  have hthird : (datasetTimestamp t).getLsbD 0 = t.authoritative := by
    rw [← BitVec.testBit_toNat, Nat.testBit_zero, hvalue]
    cases t.authoritative with
    | false => exact decide_eq_false (by simp only [Bool.toNat_false]; omega)
    | true => exact decide_eq_true (by simp only [Bool.toNat_true]; omega)
  rw [Timestamp.ofTlv, hfirst, hsecond, hthird]

theorem datasetTimestamp_ofTlv (value : BitVec 64) : datasetTimestamp (.ofTlv value) = value := by
  apply BitVec.eq_of_toNat_eq
  rw [(ofTlv_fits value).toNat]
  have hfirst : (Timestamp.ofTlv value).seconds.toNat = value.toNat / 2 ^ 16 := by
    rw [Timestamp.ofTlv, BitVec.toNat_ushiftRight, Nat.shiftRight_eq_div_pow]
  have hsecond : (Timestamp.ofTlv value).ticks.toNat = value.toNat / 2 % 2 ^ 15 := by
    rw [Timestamp.ofTlv, BitVec.toNat_setWidth, BitVec.extractLsb'_toNat, Nat.shiftRight_eq_div_pow]
    omega
  have hthird : (Timestamp.ofTlv value).authoritative.toNat = value.toNat % 2 := by
    rw [Timestamp.ofTlv, ← BitVec.testBit_toNat, Nat.testBit_zero]
    rcases Nat.mod_two_eq_zero_or_one value.toNat with hzero | hone
    · rw [hzero, decide_eq_false (by decide), Bool.toNat_false]
    · rw [hone, decide_eq_true rfl, Bool.toNat_true]
  omega

theorem datasetTimestamp_lt_iff (ht : t.Fits) (hu : u.Fits) :
    datasetTimestamp t < datasetTimestamp u ↔ t.Before u := by
  have ht' := ht.toNat
  have hu' := hu.toNat
  obtain ⟨-, htticks⟩ := ht
  obtain ⟨-, huticks⟩ := hu
  have hbits : t.authoritative.toNat < 2 ∧ u.authoritative.toNat < 2 :=
    ⟨Bool.toNat_lt t.authoritative, Bool.toNat_lt u.authoritative⟩
  have hbit : t.authoritative.toNat < u.authoritative.toNat ↔
      t.authoritative = false ∧ u.authoritative = true := by
    cases t.authoritative <;> cases u.authoritative <;> decide
  rw [Timestamp.Before, ← hbit, BitVec.lt_def, BitVec.lt_def, BitVec.lt_def, ← BitVec.toNat_inj,
    ← BitVec.toNat_inj]
  omega

/-- **Timestamps keep their order and are told apart, as far as they fit their TLV and no further; every
TLV is the value of one.** -/
theorem dataset_timestamp_exact :
    (∀ t, Timestamp.ofTlv (datasetTimestamp t) = t ↔ t.Fits) ∧
      (∀ value, datasetTimestamp (.ofTlv value) = value) ∧
      ∀ t u : Timestamp, t.Fits → u.Fits → (datasetTimestamp t < datasetTimestamp u ↔ t.Before u) := by
  refine ⟨fun t => ⟨fun h => ?_, ofTlv_datasetTimestamp⟩, datasetTimestamp_ofTlv, ?_⟩
  · rw [← h]
    exact ofTlv_fits _
  · intro t u ht hu
    exact datasetTimestamp_lt_iff ht hu

end Timestamps

/-! ### Security policies and channel masks -/

/-- `esp_idf_svc::thread::SecurityPolicy` -/
structure SecurityPolicy where
  rotationTime : UInt16
  obtainNetworkKeyEnabled : Bool
  nativeCommissioningEnabled : Bool
  routersEnabled : Bool
  externalCommissioningEnabled : Bool
  commercialCommissioningEnabled : Bool
  autonomousEnrollmentEnabled : Bool
  networkKeyProvisioningEnabled : Bool
  tobleLinkEnabled : Bool
  nonCcmRoutersEnabled : Bool
  versionThresholdForRouting : BitVec 8
  deriving DecidableEq

/-- The flags, in the order of their bits. -/
def SecurityPolicy.flags (policy : SecurityPolicy) : List Bool :=
  [policy.obtainNetworkKeyEnabled, policy.nativeCommissioningEnabled, policy.routersEnabled,
    policy.externalCommissioningEnabled, policy.commercialCommissioningEnabled,
    policy.autonomousEnrollmentEnabled, policy.networkKeyProvisioningEnabled, policy.tobleLinkEnabled,
    policy.nonCcmRoutersEnabled]

/-- The Matter `SecurityPolicy` flags bitmap -/
def securityPolicyFlags (policy : SecurityPolicy) : BitVec 16 :=
  Bits.pack 16 policy.flags ||| (policy.versionThresholdForRouting.setWidth 16 &&& 0x7) <<< 9

/-- The channel mask as Matter wants it: the lowest channel in the MSB of the first byte. -/
def channelMaskBytes (mask : BitVec 32) : Vector (BitVec 8) 4 :=
  .ofFn fun k : Fin 4 => mask.reverse.extractLsb' (24 - 8 * k.val) 8

theorem getLsbD_seven (i : Nat) : (0x7 : BitVec 16).getLsbD i = decide (i < 3) := by
  rcases Nat.lt_or_ge i 16 with hlt | hge
  · have hall : ∀ i < 16, (0x7 : BitVec 16).getLsbD i = decide (i < 3) := by decide
    exact hall i hlt
  · rw [BitVec.getLsbD_of_ge _ _ hge, decide_eq_false (by omega)]

theorem getLsbD_securityPolicyFlags (policy : SecurityPolicy) (i : Nat) :
    (securityPolicyFlags policy).getLsbD i =
      (policy.flags.getD i false ||
        (decide (9 ≤ i ∧ i < 12) && policy.versionThresholdForRouting.getLsbD (i - 9))) := by
  have hlength : policy.flags.length ≤ 16 := Nat.le_of_ble_eq_true rfl
  rw [securityPolicyFlags, BitVec.getLsbD_or, Bits.getLsbD_pack hlength, BitVec.getLsbD_shiftLeft,
    BitVec.getLsbD_and, BitVec.getLsbD_setWidth, getLsbD_seven]
  congr 1
  by_cases hi : 9 ≤ i ∧ i < 12
  · rw [decide_eq_true hi, decide_eq_true (show i < 16 by omega), decide_eq_false (show ¬ i < 9 by omega),
      decide_eq_true (show i - 9 < 16 by omega), decide_eq_true (show i - 9 < 3 by omega)]
    simp
  · rw [decide_eq_false hi]
    rcases Nat.lt_or_ge i 9 with hlt | hge
    · simp [hlt]
    · simp [show ¬ i - 9 < 3 by omega]

theorem getLsbD_flag (policy : SecurityPolicy) {i : Nat} (hi : i < 9) :
    (securityPolicyFlags policy).getLsbD i = policy.flags.getD i false := by
  rw [getLsbD_securityPolicyFlags, decide_eq_false (by omega), Bool.false_and, Bool.or_false]

theorem getLsbD_threshold (policy : SecurityPolicy) {k : Nat} (hk : k < 3) :
    (securityPolicyFlags policy).getLsbD (9 + k) = policy.versionThresholdForRouting.getLsbD k := by
  have hnone : policy.flags.getD (9 + k) false = false :=
    List.getD_eq_default _ _ (show 9 ≤ 9 + k by omega)
  rw [getLsbD_securityPolicyFlags, hnone, decide_eq_true (by omega), Bool.true_and, Bool.false_or,
    Nat.add_sub_cancel_left]

theorem flags_eq_iff (p q : SecurityPolicy) :
    p.flags = q.flags ↔ ∀ i < 9, p.flags.getD i false = q.flags.getD i false := by
  refine ⟨fun h i _ => by rw [h], fun h => ?_⟩
  apply List.ext_getElem (show p.flags.length = q.flags.length from rfl)
  intro i hp hq
  have hflag := h i hp
  rwa [List.getD_eq_getElem _ _ hp, List.getD_eq_getElem _ _ hq] at hflag

theorem securityPolicyFlags_eq_iff (p q : SecurityPolicy) : securityPolicyFlags p = securityPolicyFlags q ↔
    p.flags = q.flags ∧ p.versionThresholdForRouting.toNat % 8 = q.versionThresholdForRouting.toNat % 8 := by
  have hthreshold : p.versionThresholdForRouting.toNat % 8 = q.versionThresholdForRouting.toNat % 8 ↔
      ∀ k < 3, p.versionThresholdForRouting.getLsbD k = q.versionThresholdForRouting.getLsbD k :=
    Bits.toNat_mod_eq_iff _ _ 3
  rw [flags_eq_iff, hthreshold]
  constructor
  · intro h
    refine ⟨fun i hi => ?_, fun k hk => ?_⟩
    · rw [← getLsbD_flag p hi, ← getLsbD_flag q hi, h]
    · rw [← getLsbD_threshold p hk, ← getLsbD_threshold q hk, h]
  · rintro ⟨hflags, hbits⟩
    apply BitVec.eq_of_getLsbD_eq
    intro i _
    rcases Nat.lt_or_ge i 9 with hlow | hge
    · rw [getLsbD_flag p hlow, getLsbD_flag q hlow, hflags i hlow]
    · obtain ⟨k, rfl⟩ := Nat.exists_eq_add_of_le hge
      rcases Nat.lt_or_ge k 3 with hk | hk
      · rw [getLsbD_threshold p hk, getLsbD_threshold q hk, hbits k hk]
      · have hnone : ∀ r : SecurityPolicy, (securityPolicyFlags r).getLsbD (9 + k) = false := by
          intro r
          rw [getLsbD_securityPolicyFlags, decide_eq_false (by omega), Bool.false_and, Bool.or_false]
          exact List.getD_eq_default _ _ (show 9 ≤ 9 + k by omega)
        rw [hnone p, hnone q]

/-- **The bitmap says of every flag, and of the low three bits of the threshold, what the policy says, and
nothing else.** -/
theorem security_policy_exact (p q : SecurityPolicy) :
    (∀ i, (securityPolicyFlags p).getLsbD i =
      (p.flags.getD i false || (decide (9 ≤ i ∧ i < 12) && p.versionThresholdForRouting.getLsbD (i - 9)))) ∧
    (securityPolicyFlags p = securityPolicyFlags q ↔
      p.flags = q.flags ∧ p.versionThresholdForRouting.toNat % 8 = q.versionThresholdForRouting.toNat % 8) :=
  ⟨getLsbD_securityPolicyFlags p, securityPolicyFlags_eq_iff p q⟩

/-- **Every channel is at its place in the mask.** -/
theorem channel_mask_exact (mask : BitVec 32) (channel : Fin 32) :
    (channelMaskBytes mask)[channel.val / 8].getLsbD (7 - channel.val % 8) = mask.getLsbD channel := by
  have hlt := channel.isLt
  have hbyte : (channelMaskBytes mask)[channel.val / 8] =
      mask.reverse.extractLsb' (24 - 8 * (channel.val / 8)) 8 := Vector.getElem_ofFn _
  have hplace : 32 - 1 - (24 - 8 * (channel.val / 8) + (7 - channel.val % 8)) = channel.val := by omega
  rw [hbyte, BitVec.getLsbD_extractLsb', decide_eq_true (by omega), Bool.true_and, BitVec.getLsbD_reverse,
    BitVec.getMsbD_eq_getLsbD, decide_eq_true (by omega), Bool.true_and, hplace]

/-! ### Reading the interface -/

/-- `esp_idf_svc::thread::NeighborInfo` -/
structure NeighborInfo where
  extAddress : BitVec 64
  age : UInt32
  rloc16 : UInt16
  linkFrameCounter : UInt32
  mleFrameCounter : UInt32
  linkQualityIn : UInt8
  averageRssi : Option Int8
  lastRssi : Option Int8
  frameErrorRate : UInt8
  messageErrorRate : UInt8
  rxOnWhenIdle : Bool
  fullThreadDevice : Bool
  fullNetworkData : Bool
  isChild : Bool
  deriving DecidableEq

structure NeighborTable where
  extAddress : BitVec 64
  age : UInt32
  rloc16 : UInt16
  linkFrameCounter : UInt32
  mleFrameCounter : UInt32
  lqi : UInt8
  averageRssi : Option Int8
  lastRssi : Option Int8
  frameErrorRate : UInt8
  messageErrorRate : UInt8
  rxOnWhenIdle : Bool
  fullThreadDevice : Bool
  fullNetworkData : Bool
  isChild : Bool
  deriving DecidableEq

def NeighborInfo.toTable (info : NeighborInfo) : NeighborTable where
  extAddress := info.extAddress
  age := info.age
  rloc16 := info.rloc16
  linkFrameCounter := info.linkFrameCounter
  mleFrameCounter := info.mleFrameCounter
  lqi := info.linkQualityIn
  averageRssi := info.averageRssi
  lastRssi := info.lastRssi
  frameErrorRate := info.frameErrorRate
  messageErrorRate := info.messageErrorRate
  rxOnWhenIdle := info.rxOnWhenIdle
  fullThreadDevice := info.fullThreadDevice
  fullNetworkData := info.fullNetworkData
  isChild := info.isChild

/-- `esp_idf_svc::thread::RouteInfo`, and the row of the table that is made of it: they have the same
fields. -/
structure RouteTable where
  extAddress : BitVec 64
  rloc16 : UInt16
  routerId : UInt8
  nextHop : UInt8
  pathCost : UInt8
  lqiIn : UInt8
  lqiOut : UInt8
  age : UInt8
  allocated : Bool
  linkEstablished : Bool
  deriving DecidableEq

/-- The parts of `esp_idf_svc::thread::DatasetDiag` that are read. -/
structure DatasetDiag where
  activeTimestamp : Option Timestamp
  pendingTimestamp : Option Timestamp
  delay : Option UInt32
  channelMask : Option (BitVec 32)
  securityPolicy : Option SecurityPolicy
  deriving DecidableEq

/-- What OpenThread answers to each of the reads. A table is read row by row, and may fail after some. -/
structure ThreadReads where
  isCommissioned : Except EspError Bool
  role : Except EspError Role
  rxOnWhenIdle : Except EspError Bool
  /-- `none` without `esp_idf_openthread_ftd` -/
  routerEligible : Option (Except EspError Bool)
  channel : Except EspError UInt8
  networkName : Except EspError String
  panId : Except EspError UInt16
  extendedPanId : Except EspError (BitVec 64)
  meshLocalPrefix : Except EspError (Vector UInt8 8)
  neighborTable : List NeighborInfo × Except EspError Unit
  routeTable : List RouteTable × Except EspError Unit
  partitionId : Except EspError UInt32
  leaderWeight : Except EspError UInt8
  netDataVersion : Except EspError UInt8
  netDataStableVersion : Except EspError UInt8
  leaderRouterId : Except EspError UInt8
  extAddress : Except EspError (BitVec 64)
  rloc16 : Except EspError UInt16
  activeDatasetDiag : Except EspError (Option DatasetDiag)
  pendingDatasetDiag : Except EspError (Option DatasetDiag)

inductive RoutingRoleEnum where
  | unspecified
  | unassigned
  | sleepyEndDevice
  | endDevice
  | reed
  | router
  | leader
  deriving DecidableEq

/-- The Matter `SecurityPolicy` -/
structure SecurityPolicyInfo where
  rotationTime : UInt16
  flags : BitVec 16
  deriving DecidableEq

/-! The methods of the `ThreadDiag` of `EspMatterThreadCtl`. One that reports through a callback `f` calls it
at most once, a table apart. -/

namespace ThreadDiag

variable {α β σ : Type} (d : ThreadReads)

/-- `none`, whatever the read would answer, if the node has no Active Operational Dataset. -/
def ifCommissioned (read : Except EspError α) : Except ErrorCode (Option α) :=
  match d.isCommissioned with
  | .error e => .error (toNetError e)
  | .ok false => .ok none
  | .ok true => (read.map some).mapError toNetError

/-- Map the `Child` device role to the Matter routing role. -/
def childRoutingRole : Except EspError RoutingRoleEnum :=
  match d.rxOnWhenIdle with
  | .error e => .error e
  | .ok false => .ok .sleepyEndDevice
  | .ok true =>
      match d.routerEligible with
      | some (.error e) => .error e
      | some (.ok true) => .ok .reed
      | _ => .ok .endDevice

def routingRole : Except ErrorCode (Option RoutingRoleEnum) :=
  -- Not null even when not commissioned: OpenThread reports a valid role
  match d.role with
  | .error e => .error (toNetError e)
  | .ok .disabled => .ok (some .unspecified)
  | .ok .detached => .ok (some .unassigned)
  | .ok .child => ((childRoutingRole d).map some).mapError toNetError
  | .ok .router => .ok (some .router)
  | .ok .leader => .ok (some .leader)

def channel : Except ErrorCode (Option UInt16) := ifCommissioned d (d.channel.map UInt8.toUInt16)
def panId : Except ErrorCode (Option UInt16) := ifCommissioned d d.panId
def extendedPanId : Except ErrorCode (Option (BitVec 64)) := ifCommissioned d d.extendedPanId
def partitionId : Except ErrorCode (Option UInt32) := ifCommissioned d d.partitionId
def weighting : Except ErrorCode (Option UInt16) := ifCommissioned d (d.leaderWeight.map UInt8.toUInt16)
def dataVersion : Except ErrorCode (Option UInt16) := ifCommissioned d (d.netDataVersion.map UInt8.toUInt16)

def stableDataVersion : Except ErrorCode (Option UInt16) :=
  ifCommissioned d (d.netDataStableVersion.map UInt8.toUInt16)

def leaderRouterId : Except ErrorCode (Option UInt8) := ifCommissioned d d.leaderRouterId
def extAddress : Except ErrorCode (Option (BitVec 64)) := ifCommissioned d d.extAddress
def rloc16 : Except ErrorCode (Option UInt16) := ifCommissioned d d.rloc16

def networkName (f : Visitor σ (Option String) ErrorCode) (s : σ) : σ × Except ErrorCode Unit :=
  match d.isCommissioned with
  | .error e => (s, .error (toNetError e))
  | .ok false => f s none
  | .ok true =>
      match d.networkName with
      | .error e => (s, .error (toNetError e))
      | .ok name => f s (some name)

/-- Prefix length in bits, followed by the prefix itself -/
def meshLocalPrefix (f : Visitor σ (Option Bytes) ErrorCode) (s : σ) : σ × Except ErrorCode Unit :=
  match ifCommissioned d d.meshLocalPrefix with
  | .error e => (s, .error e)
  | .ok none => f s none
  | .ok (some bytes) => f s (some (64 :: bytes.toList))

/-- What is read off a dataset, if there is one and it has it. -/
def ofDataset (diag : Except EspError (Option DatasetDiag)) (field : DatasetDiag → Option α) :
    Except ErrorCode (Option α) :=
  (diag.map fun diag => diag.bind field).mapError toNetError

def securityPolicy : Except ErrorCode (Option SecurityPolicyInfo) :=
  (ofDataset d.activeDatasetDiag DatasetDiag.securityPolicy).map fun policy => policy.map fun policy =>
    { rotationTime := policy.rotationTime, flags := securityPolicyFlags policy }

def channelPage0Mask (f : Visitor σ (Option (Vector (BitVec 8) 4)) ErrorCode) (s : σ) :
    σ × Except ErrorCode Unit :=
  match ofDataset d.activeDatasetDiag DatasetDiag.channelMask with
  | .error e => (s, .error e)
  | .ok mask => f s (mask.map channelMaskBytes)

def activeTimestamp : Except ErrorCode (Option (BitVec 64)) :=
  (ofDataset d.activeDatasetDiag DatasetDiag.activeTimestamp).map fun timestamp => timestamp.map datasetTimestamp

def pendingTimestamp : Except ErrorCode (Option (BitVec 64)) :=
  (ofDataset d.pendingDatasetDiag DatasetDiag.pendingTimestamp).map fun timestamp =>
    timestamp.map datasetTimestamp

def delay : Except ErrorCode (Option UInt32) := ofDataset d.pendingDatasetDiag DatasetDiag.delay

/-- How a table ends: an error of OpenThread counts before one of `f`. -/
def tableResult (read : Except EspError Unit) (result : Except ErrorCode Unit) : Except ErrorCode Unit :=
  match read with
  | .error e => .error (toNetError e)
  | .ok () => result

/-- Hand the rows to `f` as OpenThread reports them. -/
def readTable (table : List α × Except EspError Unit) (toRow : α → β) (f : Visitor σ β ErrorCode) (s : σ) :
    σ × Except ErrorCode Unit :=
  let seen := table.1.foldl (sticky fun s info => f s (toRow info)) (s, .ok ())
  (seen.1, tableResult table.2 seen.2)

def neighborTable (f : Visitor σ NeighborTable ErrorCode) (s : σ) : σ × Except ErrorCode Unit :=
  readTable d.neighborTable NeighborInfo.toTable f s

def routeTable (f : Visitor σ RouteTable ErrorCode) (s : σ) : σ × Except ErrorCode Unit :=
  readTable d.routeTable id f s

/-- A read tells of a node that has a dataset what OpenThread answers, and null of one that has none. -/
def Tells (read : Except EspError α) (told : Except ErrorCode (Option α)) : Prop :=
  ∀ value, told = .ok value ↔ d.isCommissioned = .ok false ∧ value = none ∨
    d.isCommissioned = .ok true ∧ ∃ answer, read = .ok answer ∧ value = some answer

theorem tells_ifCommissioned (read : Except EspError α) : Tells d read (ifCommissioned d read) := by
  intro value
  unfold ifCommissioned
  rcases d.isCommissioned with e | _ | _
  · simp
  · simp [eq_comm]
  · cases read with
    | error e => simp [Except.map, Except.mapError]
    | ok answer => simp [Except.map, Except.mapError, eq_comm]

/-- **Of its network a node tells nothing unless it has a dataset**, and then what OpenThread answers. -/
theorem network_told :
    Tells d (d.channel.map UInt8.toUInt16) (channel d) ∧ Tells d d.panId (panId d) ∧
      Tells d d.extendedPanId (extendedPanId d) ∧ Tells d d.partitionId (partitionId d) ∧
      Tells d (d.leaderWeight.map UInt8.toUInt16) (weighting d) ∧
      Tells d (d.netDataVersion.map UInt8.toUInt16) (dataVersion d) ∧
      Tells d (d.netDataStableVersion.map UInt8.toUInt16) (stableDataVersion d) ∧
      Tells d d.leaderRouterId (leaderRouterId d) ∧ Tells d d.extAddress (extAddress d) ∧
      Tells d d.rloc16 (rloc16 d) ∧
      (d.isCommissioned = .ok false →
        (∀ (f : Visitor σ (Option String) ErrorCode) s, networkName d f s = f s none) ∧
          ∀ (f : Visitor σ (Option Bytes) ErrorCode) s, meshLocalPrefix d f s = f s none) := by
  refine ⟨tells_ifCommissioned d _, tells_ifCommissioned d _, tells_ifCommissioned d _,
    tells_ifCommissioned d _, tells_ifCommissioned d _, tells_ifCommissioned d _, tells_ifCommissioned d _,
    tells_ifCommissioned d _, tells_ifCommissioned d _, tells_ifCommissioned d _, fun hnone => ⟨?_, ?_⟩⟩
  · intro f s
    rw [networkName, hnone]
  · intro f s
    rw [meshLocalPrefix, ifCommissioned, hnone]

/-- A role is told of every node, and a child that sleeps is told from one that does not. -/
theorem role_told : routingRole d ≠ .ok none ∧
    (routingRole d = .ok (some .sleepyEndDevice) ↔ d.role = .ok .child ∧ d.rxOnWhenIdle = .ok false) := by
  unfold routingRole
  rcases d.role with e | role
  · exact ⟨nofun, nofun, fun h => by cases h.1⟩
  · cases role with
    | child =>
        dsimp only
        unfold childRoutingRole
        rcases d.rxOnWhenIdle with e | _ | _
        · exact ⟨nofun, nofun, fun h => by cases h.2⟩
        · exact ⟨nofun, fun _ => ⟨rfl, rfl⟩, fun _ => rfl⟩
        · rcases d.routerEligible with _ | e | _ | _
          all_goals exact ⟨nofun, nofun, fun h => by cases h.2⟩
    | _ => exact ⟨nofun, nofun, fun h => by cases h.1⟩

/-- **A pending dataset is told to be newer than the active one exactly when it is.** -/
theorem timestamps_told {active pending : DatasetDiag} (hactive : d.activeDatasetDiag = .ok (some active))
    (hpending : d.pendingDatasetDiag = .ok (some pending)) {t u : Timestamp}
    (ht : active.activeTimestamp = some t) (hu : pending.pendingTimestamp = some u) (htfits : t.Fits)
    (hufits : u.Fits) :
    ∃ v w, activeTimestamp d = .ok (some v) ∧ pendingTimestamp d = .ok (some w) ∧ (v < w ↔ t.Before u) ∧
      delay d = .ok pending.delay := by
  refine ⟨datasetTimestamp t, datasetTimestamp u, ?_, ?_, datasetTimestamp_lt_iff htfits hufits, ?_⟩
  · rw [activeTimestamp, ofDataset, hactive]
    simp only [Except.map, Except.mapError, Option.bind_some, ht, Option.map_some]
  · rw [pendingTimestamp, ofDataset, hpending]
    simp only [Except.map, Except.mapError, Option.bind_some, hu, Option.map_some]
  · rw [delay, ofDataset, hpending]
    rfl

/-- Two policies are told apart, but for the high bits of their thresholds. -/
theorem policies_told {d d' : ThreadReads} {active active' : DatasetDiag}
    (hactive : d.activeDatasetDiag = .ok (some active)) (hactive' : d'.activeDatasetDiag = .ok (some active'))
    {p q : SecurityPolicy} (hp : active.securityPolicy = some p) (hq : active'.securityPolicy = some q) :
    securityPolicy d = securityPolicy d' ↔ p.rotationTime = q.rotationTime ∧ p.flags = q.flags ∧
      p.versionThresholdForRouting.toNat % 8 = q.versionThresholdForRouting.toNat % 8 := by
  rw [securityPolicy, securityPolicy, ofDataset, ofDataset, hactive, hactive']
  simp only [Except.map, Except.mapError, Option.bind_some, hp, hq, Option.map_some, Except.ok.injEq,
    Option.some_inj, SecurityPolicyInfo.mk.injEq, securityPolicyFlags_eq_iff]

theorem mask_told {active : DatasetDiag} (hactive : d.activeDatasetDiag = .ok (some active)) {mask : BitVec 32}
    (hmask : active.channelMask = some mask) (f : Visitor σ (Option (Vector (BitVec 8) 4)) ErrorCode) (s : σ) :
    ∃ bytes, channelPage0Mask d f s = f s (some bytes) ∧
      ∀ channel : Fin 32, bytes[channel.val / 8].getLsbD (7 - channel.val % 8) = mask.getLsbD channel := by
  refine ⟨channelMaskBytes mask, ?_, channel_mask_exact mask⟩
  rw [channelPage0Mask, ofDataset, hactive]
  simp only [Except.map, Except.mapError, Option.bind_some, hmask, Option.map_some]

theorem readTable_visited (table : List α × Except EspError Unit) (toRow : α → β)
    (f : Visitor σ β ErrorCode) (s : σ) :
    ∃ seen, Visited f s (table.1.map toRow) seen ∧
      readTable table toRow f s = (seen.1, tableResult table.2 seen.2) := by
  refine ⟨visit f (table.1.map toRow) s, visited f _ s, ?_⟩
  rw [visit_map, readTable, foldl_sticky]

/-- **The tables are handed over row by row, in order, up to the first row that the callback fails on**,
although it cannot stop OpenThread. -/
theorem tables_visited {τ : Type} (f : Visitor σ NeighborTable ErrorCode) (s : σ)
    (g : Visitor τ RouteTable ErrorCode) (t : τ) :
    (∃ seen, Visited f s (d.neighborTable.1.map NeighborInfo.toTable) seen ∧
      neighborTable d f s = (seen.1, tableResult d.neighborTable.2 seen.2)) ∧
    ∃ seen, Visited g t d.routeTable.1 seen ∧
      routeTable d g t = (seen.1, tableResult d.routeTable.2 seen.2) := by
  refine ⟨readTable_visited _ _ f s, ?_⟩
  have hroute := readTable_visited d.routeTable id g t
  rwa [List.map_id] at hroute

end ThreadDiag

end EspIdfMatter.Thread
