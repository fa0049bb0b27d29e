import EspIdfMatter.Btp
import EspIdfMatter.Library.Gather

/-! The configuration of a network interface: what ESP-IDF reports about it, the list of its IPv6
addresses, which is gathered from two calls, and the one address that is reported for it. -/

namespace EspIdfMatter.Netif

open Library

/-- `esp_ip6_addr_t` -/
structure EspIp6Addr where
  addr : Vector UInt32 4
  zone : UInt8
  deriving DecidableEq

structure Ipv4Addr where
  octets : Vector UInt8 4
  deriving DecidableEq

structure Ipv6Addr where
  octets : Vector UInt8 16
  deriving DecidableEq

/-- `Ipv4Addr::UNSPECIFIED` -/
def Ipv4Addr.unspecified : Ipv4Addr := ⟨.replicate 4 0⟩

/-- `Ipv6Addr::UNSPECIFIED` -/
def Ipv6Addr.unspecified : Ipv6Addr := ⟨.replicate 16 0⟩

/-- The first of the big-endian 16-bit segments. -/
def Ipv6Addr.segment₀ (a : Ipv6Addr) : UInt16 :=
  (a.octets[0].toUInt16 <<< 8) ||| a.octets[1].toUInt16

/-- Whether the address is in `fe80::/10`. -/
def Ipv6Addr.isUnicastLinkLocal (a : Ipv6Addr) : Bool :=
  a.segment₀ &&& 0xffc0 == 0xfe80

/-- Byte `i` of `word.to_le_bytes()` -/
def leByte (word : UInt32) (i : Nat) : UInt8 :=
  (word >>> UInt32.ofNat (8 * i)).toUInt8

/-- Convert a raw lwIP `esp_ip6_addr_t` into a `core::net::Ipv6Addr`, word by word. -/
def espIp6ToAddr (raw : EspIp6Addr) : Ipv6Addr :=
  ⟨.ofFn fun k : Fin 16 => leByte (raw.addr.get ⟨k.val / 4, by omega⟩) (k.val % 4)⟩

inductive InterfaceTypeEnum where
  | unspecified
  | wiFi
  | ethernet
  | cellular
  | thread
  deriving DecidableEq

structure NetifInfo where
  name : Bytes
  operational : Bool
  offpremSvcReachableIpv4 : Option Bool
  offpremSvcReachableIpv6 : Option Bool
  hwAddr : Vector UInt8 8
  ipv4Addrs : List Ipv4Addr
  ipv6Addrs : List Ipv6Addr
  netifType : InterfaceTypeEnum
  netifIndex : UInt32
  deriving DecidableEq

/-- What an `EspNetif` answers. The two lists of raw addresses are those of
`esp_netif_get_all_preferred_ip6` and `esp_netif_get_all_ip6`, which fill an array of `n` entries. -/
structure EspNetif (n : Nat) where
  ipInfo : Except EspError Ipv4Addr
  preferredIp6 : BoundedVec EspIp6Addr n
  allIp6 : BoundedVec EspIp6Addr n
  mac : Except EspError (Vector UInt8 6)
  name : Bytes
  isNetifUp : Except EspError Bool
  isUp : Except EspError Bool
  index : UInt32

variable {n : Nat}

/-- Collect the IPv6 addresses, the preferred ones first. `none` is a failed `unwrap`, which panics. -/
def collectIp6 (preferred all : BoundedVec EspIp6Addr n) : Option (BoundedVec Ipv6Addr n) :=
  ((preferred.toList.map espIp6ToAddr).foldlM BoundedVec.push .empty).bind fun ipv6Addrs =>
    ipv6Addrs.gather (all.toList.map espIp6ToAddr)

/-- The MAC address, padded with zeroes. -/
def padMac (mac : Vector UInt8 6) : Vector UInt8 8 :=
  .ofFn fun k : Fin 8 => mac[k.val]?.getD 0

/-- Get the network interface configuration. `none` is a panic. -/
def getNetifConf (netif : EspNetif n) (netifType : InterfaceTypeEnum) :
    Option (Except EspError NetifInfo) :=
  match netif.ipInfo with
  | .error e => some (.error e)
  | .ok ipv4 =>
      (collectIp6 netif.preferredIp6 netif.allIp6).map fun ipv6Addrs =>
        match netif.mac with
        | .error e => .error e
        | .ok mac =>
            (if netifType = .thread then netif.isNetifUp else netif.isUp).map fun operational =>
              { name := netif.name
                operational
                offpremSvcReachableIpv4 := none
                offpremSvcReachableIpv6 := none
                hwAddr := padMac mac
                ipv4Addrs := [ipv4]
                ipv6Addrs := ipv6Addrs.toList
                netifType
                netifIndex := netif.index }

/-! ### The reported address -/

def infoIpv4Addr (info : NetifInfo) : Ipv4Addr :=
  info.ipv4Addrs.head?.getD .unspecified

def infoIpv6Addr (info : NetifInfo) : Ipv6Addr :=
  let ipv6Addr :=
    if info.netifType = .thread then
      -- the preferred addresses come first, so this is a routable one whenever there is one
      (info.ipv6Addrs.find? fun ipv6 => !ipv6.isUnicastLinkLocal).or info.ipv6Addrs.head?
    else
      info.ipv6Addrs.find? fun ipv6 => ipv6.isUnicastLinkLocal
  ipv6Addr.getD .unspecified

def infoIsOperationalV6 (l2Connected : Bool) (info : NetifInfo) : Bool :=
  l2Connected && info.operational && decide (infoIpv6Addr info ≠ .unspecified)

def infoIsOperational (l2Connected : Bool) (info : NetifInfo) : Bool :=
  infoIsOperationalV6 l2Connected info && decide (infoIpv4Addr info ≠ .unspecified)

end EspIdfMatter.Netif
