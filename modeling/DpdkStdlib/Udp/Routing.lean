import DpdkStdlib.Net

/-!
# Routing (`routing.rs`)

Where the packets of an IPv4 destination go next.  A table without a configuration sends everything directly.
-/

namespace DpdkStdlib.Udp

inductive NextHop
  | direct (ip : Ipv4Addr)
  | gateway (ip : Ipv4Addr)
deriving DecidableEq

def ipv4Bits (ip : Ipv4Addr) : BitVec 32 := ip.a.toBitVec ++ ip.b.toBitVec ++ ip.c.toBitVec ++ ip.d.toBitVec

def broadcastIp : Ipv4Addr := ⟨255, 255, 255, 255⟩

def unspecifiedIp : Ipv4Addr := ⟨0, 0, 0, 0⟩

/-- The body of both functions `mask` and `local_mask`; a release build cuts the shift to five bits. -/
def subnetMask (prefixLen : UInt8) : BitVec 32 :=
  if prefixLen = 0 then 0 else BitVec.allOnes 32 <<< ((32 - prefixLen).toNat % 32)

structure RouteEntry where
  network : Ipv4Addr
  prefixLen : UInt8
  gateway : Ipv4Addr
deriving DecidableEq

namespace RouteEntry

def mask (self : RouteEntry) : BitVec 32 := subnetMask self.prefixLen

def «matches» (self : RouteEntry) (addr : Ipv4Addr) : Bool :=
  ipv4Bits addr &&& self.mask == ipv4Bits self.network &&& self.mask

end RouteEntry

/-- `NetworkConfig` without the VLAN and the tunnels, which routing does not read. -/
structure NetworkConfig where
  localIp : Ipv4Addr := unspecifiedIp
  prefixLen : UInt8 := 0
  defaultGateway : Option Ipv4Addr := none
  staticRoutes : List RouteEntry := []
  mtu : UInt16 := 1500
deriving DecidableEq

namespace NetworkConfig

def new (localIp : Ipv4Addr) (prefixLen : UInt8) : NetworkConfig := { localIp, prefixLen }

def localMask (self : NetworkConfig) : BitVec 32 := subnetMask self.prefixLen

def isLocal (self : NetworkConfig) (addr : Ipv4Addr) : Bool :=
  if self.prefixLen = 0 then false
  else ipv4Bits self.localIp &&& self.localMask == ipv4Bits addr &&& self.localMask

end NetworkConfig

structure RoutingTable where
  config : Option NetworkConfig
deriving DecidableEq

namespace RoutingTable

def new : RoutingTable := { config := none }

def withConfig (config : NetworkConfig) : RoutingTable := { config := some config }

def bestMatch (dstIp : Ipv4Addr) (best : Option (UInt8 × Ipv4Addr)) (route : RouteEntry) :
    Option (UInt8 × Ipv4Addr) :=
  if route.matches dstIp then
    match best with
    | some (bestLen, gateway) =>
      if route.prefixLen ≤ bestLen then some (bestLen, gateway) else some (route.prefixLen, route.gateway)
    | none => some (route.prefixLen, route.gateway)
  else best

/-- `lookup`: the special addresses first, then the longest match. -/
def lookup (self : RoutingTable) (dstIp : Ipv4Addr) : NextHop :=
  if dstIp = broadcastIp then .direct dstIp
  else
    match self.config with
    | none => .direct dstIp
    | some config =>
      if dstIp.a = 169 ∧ dstIp.b = 254 then .direct dstIp
      else if dstIp.a ≥ 224 ∧ dstIp.a ≤ 239 then .direct dstIp
      else if config.isLocal dstIp then .direct dstIp
      -- the broadcast address of the subnet
      else if (config.prefixLen > 0 ∧ config.prefixLen < 32) ∧
          ipv4Bits dstIp &&& config.localMask = ipv4Bits config.localIp &&& config.localMask ∧
          ipv4Bits dstIp &&& ~~~config.localMask = ~~~config.localMask then .direct dstIp
      else
        match config.staticRoutes.foldl (bestMatch dstIp) none with
        | some (_, gateway) => .gateway gateway
        | none =>
          match config.defaultGateway with
          | some gateway => .gateway gateway
          | none => .direct dstIp

/-- Without a configuration, one that only holds the MTU. -/
def setMtu (self : RoutingTable) (mtu : UInt16) : RoutingTable :=
  match self.config with
  | some config => { config := some { config with mtu } }
  | none => { config := some { NetworkConfig.new unspecifiedIp 0 with mtu } }

end RoutingTable

end DpdkStdlib.Udp
