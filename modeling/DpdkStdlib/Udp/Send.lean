import DpdkStdlib.Udp.Tunnel

/-!
# Sending (`lib.rs`)

What a socket hands to the network card: the frame it builds for its configuration, and the mbuf that
`SocketBackend::send_frame_mode` makes of it.  A generic backend sends the frame as it is, like a card without
offloads.

The address of the next hop is an argument here; finding it is a matter of the neighbour caches.  Left out: failures of
the mbuf allocator and of `tx_burst`.
-/

namespace DpdkStdlib.Udp
open DpdkStdlib.Lib

/-! ## Configuration -/

/-- The fields of `UdpSocket` that stay as they are after the socket is set up. -/
structure SocketConfig where
  localAddr : SocketAddr
  mac : MacAddr
  /-- `active_tx_offload` of the card, zero for a generic backend. -/
  txOffload : UInt64 := 0
  ttl : UInt8 := 64
  mtu : UInt16 := 1500
  autoArp : Bool := true
  autoIcmp : Bool := true
  vlan : Option VlanConfig := none
  gue : Option GueConfig := none
  vxlan : Option VxlanConfig := none
  geneve : Option GeneveConfig := none

/-- Offload capabilities of a card (`RTE_ETH_TX_OFFLOAD_*`). -/
def txOffloadVlanInsert : UInt64 := 1
def txOffloadIpv4Cksum : UInt64 := 2
def txOffloadUdpCksum : UInt64 := 4

/-- Flags of an mbuf (`RTE_MBUF_F_TX_*`). -/
def mbufTxUdpCksum : UInt64 := (3 : UInt64) <<< 52
def mbufTxIpCksum : UInt64 := (1 : UInt64) <<< 54
def mbufTxIpv4 : UInt64 := (1 : UInt64) <<< 55
def mbufTxIpv6 : UInt64 := (1 : UInt64) <<< 56
def mbufTxVlan : UInt64 := (1 : UInt64) <<< 57

def SocketConfig.hasHwVlanInsert (cfg : SocketConfig) : Bool := cfg.txOffload &&& txOffloadVlanInsert != 0

/-! ## Building a frame -/

def SocketConfig.srcV4 (cfg : SocketConfig) : Ipv4Addr × UInt16 :=
  match cfg.localAddr with
  | .v4 ip port => (ip, port)
  | .v6 _ port _ _ => (⟨0, 0, 0, 0⟩, port)

/-- The frame part of `send_to_v4`: the tag the card is to insert, and the frame in the buffer. -/
def buildFrameV4 (cfg : SocketConfig) (scratch : List UInt8) (dstMac : MacAddr) (dstIp : Ipv4Addr) (dstPort : UInt16)
    (payload : List UInt8) : Option (Except UdpError (Option UInt16) × List UInt8) :=
  let (srcIp, srcPort) := cfg.srcV4
  let tunnel (remoteIp : Ipv4Addr) (localPort remotePort : UInt16) : TunnelFrameArgs Ipv4Addr :=
    { outerSrcMac := cfg.mac, outerDstMac := dstMac, outerSrcIp := srcIp, outerDstIp := remoteIp
      outerSrcPort := localPort, outerDstPort := remotePort, innerSrcIp := srcIp, innerDstIp := dstIp
      innerSrcPort := srcPort, innerDstPort := dstPort, payload, ttl := cfg.ttl }
  let plain : UdpFrameArgs Ipv4Addr :=
    { srcMac := cfg.mac, dstMac, srcIp, dstIp, srcPort, dstPort, payload, ttl := cfg.ttl }
  match cfg.vxlan, cfg.geneve, cfg.gue with
  | some v, _, _ => do
    let (result, frame) ← buildVxlanFrameInto scratch (tunnel v.remoteIp v.localPort v.remotePort) v.vni
      ⟨v.innerSrcMac, v.innerDstMac⟩
    return (result.map fun _ => none, frame)
  | none, some g, _ => do
    let (result, frame) ← buildGeneveFrameInto scratch (tunnel g.remoteIp g.localPort g.remotePort)
      (GeneveHeader.new g.vni) ⟨g.innerSrcMac, g.innerDstMac⟩
    return (result.map fun _ => none, frame)
  | none, none, some g => do
    let (result, frame) ← buildGueFrameInto scratch (tunnel g.remoteIp g.localPort g.remotePort)
    return (result.map fun _ => none, frame)
  | none, none, none =>
    match cfg.vlan.filter (·.tagsOnTx) with
    | some vlan =>
      if cfg.hasHwVlanInsert && !vlan.forceSoftware then do
        let (result, frame) ← buildUdpFrameInto scratch plain
        return (result.map fun _ => some vlan.encodeTci, frame)
      else do
        let (result, frame) ← buildUdpFrameIntoVlan scratch plain vlan
        return (result.map fun _ => none, frame)
    | none => do
      let (result, frame) ← buildUdpFrameInto scratch plain
      return (result.map fun _ => none, frame)

/-- The frame part of `send_to_v6`, for a socket with the given IPv6 address. -/
def buildFrameV6 (cfg : SocketConfig) (scratch : List UInt8) (srcIp : Ipv6Addr) (srcPort : UInt16) (dstMac : MacAddr)
    (dstIp : Ipv6Addr) (dstPort : UInt16) (payload : List UInt8) : Option (Except UdpError Nat × List UInt8) :=
  buildUdp6FrameInto scratch { srcMac := cfg.mac, dstMac, srcIp, dstIp, srcPort, dstPort, payload, ttl := cfg.ttl }

/-! ## The mbuf -/

/-- What the card is given: the bytes, and its orders. -/
structure Mbuf where
  data : List UInt8
  vlanTci : UInt16 := 0
  olFlags : UInt64 := 0
  l2Len : Nat := 0
  l3Len : Nat := 0
  l4Len : Nat := 0

inductive SendError
  | frameTooLarge (needed available : Nat)
deriving DecidableEq

/-- The sum over the IPv4 pseudo-header in place of the UDP checksum, as the card expects it. -/
def seedUdpCksum (data : List UInt8) : Option (List UInt8) := do
  let srcIp ← readSlice data (14 + 12) 4
  let dstIp ← readSlice data (14 + 16) 4
  let udpOff := 14 + 20
  let udpLen ← read16 data (udpOff + 4)
  writeAt data (udpOff + 6) (beBytes16 (udpPseudoHeaderChecksum srcIp dstIp udpLen))

/-- The IPv4 part of the offload: flags, `l3_len` and data. -/
def offloadIpv4 (txOffload : UInt64) (data : List UInt8) : Option (UInt64 × Nat × List UInt8) := do
  let hasIpCksum := txOffload &&& txOffloadIpv4Cksum != 0
  let hasUdpCksum := txOffload &&& txOffloadUdpCksum != 0
  if hasIpCksum || hasUdpCksum then
    let flags := mbufTxIpv4 ||| (if hasIpCksum then mbufTxIpCksum else 0) ||| (if hasUdpCksum then mbufTxUdpCksum else 0)
    -- the card expects a header checksum of zero
    let data ← if hasIpCksum then writeAt data (14 + 10) [0, 0] else some data
    let data ← if hasUdpCksum then seedUdpCksum data else some data
    return (flags, 20, data)
  else return (0, 0, data)

/-- The sum over the IPv6 pseudo-header in place of the UDP checksum. -/
def seedUdp6Cksum (data : List UInt8) : Option (List UInt8) := do
  let srcIp := Ipv6Addr.ofOctets (← readSlice data (14 + 8) 16)
  let dstIp := Ipv6Addr.ofOctets (← readSlice data (14 + 24) 16)
  let udpOff := 14 + 40
  let udpLen ← read16 data (udpOff + 4)
  writeAt data (udpOff + 6) (beBytes16 (udp6PseudoHeaderChecksum srcIp dstIp udpLen.toNat))

def offloadIpv6 (txOffload : UInt64) (data : List UInt8) : Option (UInt64 × Nat × List UInt8) := do
  let hasUdpCksum := txOffload &&& txOffloadUdpCksum != 0
  if hasUdpCksum then
    let data ← seedUdp6Cksum data
    return (mbufTxIpv6 ||| mbufTxUdpCksum, 40, data)
  else return (0, 0, data)

/-- The checksum offload: flags, `l3_len` and data, by the ethertype of the frame. -/
def offloadChecksums (txOffload : UInt64) (frame : List UInt8) : Option (UInt64 × Nat × List UInt8) :=
  if txOffload ≠ 0 ∧ frame.length ≥ 14 + 2 then do
    let ethertype ← read16 frame 12
    if ethertype = 0x0800 ∧ frame.length ≥ 42 then offloadIpv4 txOffload frame
    else if ethertype = 0x86DD ∧ frame.length ≥ 62 then offloadIpv6 txOffload frame
    else return (0, 0, frame)
  else some (0, 0, frame)

/-- `send_frame_mode` on a card with the capabilities `txOffload`, up to the mbuf it hands over. -/
def sendFrameMode (txOffload : UInt64) (bufCapacity : UInt16) (frame : List UInt8) (hwVlanTci : Option UInt16) :
    Option (Except SendError Mbuf) := do
  if bufCapacity.toNat < frame.length then return .error (.frameTooLarge frame.length bufCapacity.toNat)
  let tag := hwVlanTci.filter fun _ => txOffload &&& txOffloadVlanInsert != 0
  let (flags, l3Len, data) ← offloadChecksums txOffload frame
  return .ok
    { data, vlanTci := tag.getD 0, olFlags := (if tag.isSome then mbufTxVlan else 0) ||| flags
      l2Len := if l3Len > 0 then 14 else 0, l3Len, l4Len := if l3Len > 0 then 8 else 0 }

end DpdkStdlib.Udp
