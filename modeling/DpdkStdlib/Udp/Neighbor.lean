import DpdkStdlib.Udp.Checksum
import DpdkStdlib.Lib.AssocMap

/-!
# Neighbours: ARP and NDP (`arp.rs`, `ndp.rs`)

The cache of link-layer addresses, which both protocols have, and what the handlers do with a frame: the entry it
teaches and the reply it gets.  Every access of a parser stands behind a test of the length, so its reads are total.

The clock is an argument of every operation that reads it.
-/

namespace DpdkStdlib.Udp
open DpdkStdlib.Lib

/-! ## The cache -/

def macToU64 (mac : MacAddr) : UInt64 :=
  (mac[0].toUInt64 <<< 40) ||| (mac[1].toUInt64 <<< 32) ||| (mac[2].toUInt64 <<< 24) ||| (mac[3].toUInt64 <<< 16) |||
    (mac[4].toUInt64 <<< 8) ||| mac[5].toUInt64

def u64ToMac (val : UInt64) : MacAddr :=
  #v[(val >>> 40).toUInt8, (val >>> 32).toUInt8, (val >>> 24).toUInt8, (val >>> 16).toUInt8, (val >>> 8).toUInt8,
    val.toUInt8]

/-- An address as the number that the fast path of a cache keeps. -/
class NeighborAddr (Ip : Type) where
  bits : Ip → Nat

instance : NeighborAddr Ipv4Addr := ⟨fun ip => ofBe ip.octets⟩

/-- `ipv6_to_u64_pair`, the halves as one number. -/
instance : NeighborAddr Ipv6Addr := ⟨BitVec.toNat⟩

/-- `ArpCacheEntry`, `NdpCacheEntry`. -/
structure CacheEntry where
  mac : MacAddr
  timestamp : Instant
deriving DecidableEq

/-- `ARP_CACHE_TTL`, `NDP_CACHE_TTL`. -/
def cacheTtl : Duration := fromSecs 300

def CacheEntry.isExpired (self : CacheEntry) (now : Instant) : Bool := now - self.timestamp > cacheTtl

/-- `ArpCache`, `NdpCache`: the entries, and beside them the last pair seen (no address is zero). -/
structure NeighborCache (Ip : Type) where
  entries : AssocMap Ip CacheEntry
  fastIp : Nat
  fastMac : UInt64

namespace NeighborCache
variable {Ip : Type} [DecidableEq Ip] [NeighborAddr Ip]

def new : NeighborCache Ip := { entries := .empty, fastIp := 0, fastMac := 0 }

def lookup (self : NeighborCache Ip) (now : Instant) (ip : Ip) : Option MacAddr :=
  if self.fastIp ≠ 0 ∧ self.fastIp = NeighborAddr.bits ip then some (u64ToMac self.fastMac)
  else (self.entries.get? ip).bind fun entry => if entry.isExpired now then none else some entry.mac

def insert (self : NeighborCache Ip) (now : Instant) (ip : Ip) (mac : MacAddr) : NeighborCache Ip :=
  { entries := self.entries.insert ip ⟨mac, now⟩, fastIp := NeighborAddr.bits ip, fastMac := macToU64 mac }

/-- `insert_if_changed`: the last pair is not stored again. -/
def insertIfChanged (self : NeighborCache Ip) (now : Instant) (ip : Ip) (mac : MacAddr) : NeighborCache Ip :=
  if self.fastIp = NeighborAddr.bits ip ∧ self.fastMac = macToU64 mac then self else self.insert now ip mac

def remove (self : NeighborCache Ip) (ip : Ip) : NeighborCache Ip :=
  let self := if self.fastIp = NeighborAddr.bits ip then { self with fastIp := 0, fastMac := 0 } else self
  { self with entries := self.entries.erase ip }

def purgeExpired (self : NeighborCache Ip) (now : Instant) : NeighborCache Ip :=
  { self with entries := self.entries.filter fun _ entry => !entry.isExpired now }

def clear (_self : NeighborCache Ip) : NeighborCache Ip := { entries := .empty, fastIp := 0, fastMac := 0 }

end NeighborCache

/-- `ArpHandler`, `IcmpHandler`, `Icmpv6Handler`, `NdpHandler` without the cache: the addresses answered for. -/
structure Handler (Ip : Type) where
  localMac : MacAddr
  localIps : List Ip
deriving DecidableEq

/-! ## ARP -/

structure ArpPacket where
  hwType : UInt16 := 1
  protoType : UInt16 := 0x0800
  hwLen : UInt8 := 6
  protoLen : UInt8 := 4
  operation : UInt16
  senderMac : MacAddr
  senderIp : Ipv4Addr
  targetMac : MacAddr
  targetIp : Ipv4Addr
deriving DecidableEq

namespace ArpPacket

def request (senderMac : MacAddr) (senderIp targetIp : Ipv4Addr) : ArpPacket :=
  { operation := 1, senderMac, senderIp, targetMac := Vector.replicate 6 0, targetIp }

def reply (senderMac : MacAddr) (senderIp : Ipv4Addr) (targetMac : MacAddr) (targetIp : Ipv4Addr) : ArpPacket :=
  { operation := 2, senderMac, senderIp, targetMac, targetIp }

def isRequest (self : ArpPacket) : Bool := self.operation == 1

end ArpPacket

/-- The ARP packet at `arp`, if it is one for Ethernet and IPv4. -/
def arpPacketAt (frame : List UInt8) (arp : Nat) : Option ArpPacket :=
  let hwType := be16At frame arp
  let protoType := be16At frame (arp + 2)
  let hwLen := byteAt frame (arp + 4)
  let protoLen := byteAt frame (arp + 5)
  let operation := be16At frame (arp + 6)
  if hwType ≠ 1 ∨ protoType ≠ 0x0800 then none
  else if hwLen ≠ 6 ∨ protoLen ≠ 4 then none
  else some
    { hwType, protoType, hwLen, protoLen, operation, senderMac := macAt frame (arp + 8)
      senderIp := ipv4At frame (arp + 14), targetMac := macAt frame (arp + 18), targetIp := ipv4At frame (arp + 24) }

/-- `parse_arp_packet`, also behind one tag. -/
def parseArpPacket (frame : List UInt8) : Option ArpPacket :=
  if frame.length < 14 then none
  else
    let outer := be16At frame 12
    let (ethertype, arpOffset) :=
      if outer = 0x8100 ∧ frame.length ≥ 18 then (be16At frame 16, 18) else (outer, 14)
    if ethertype ≠ 0x0806 then none
    else if frame.length < arpOffset + 28 then none
    else arpPacketAt frame arpOffset

/-- The fields follow each other as the source writes them. -/
def buildArpFrame (srcMac dstMac : MacAddr) (arp : ArpPacket) : List UInt8 :=
  dstMac.toList ++ srcMac.toList ++ beBytes16 0x0806 ++
    beBytes16 arp.hwType ++ beBytes16 arp.protoType ++ [arp.hwLen, arp.protoLen] ++ beBytes16 arp.operation ++
    arp.senderMac.toList ++ arp.senderIp.octets ++ arp.targetMac.toList ++ arp.targetIp.octets

def broadcastMac : MacAddr := Vector.replicate 6 0xff

def buildArpRequest (srcMac : MacAddr) (srcIp targetIp : Ipv4Addr) : List UInt8 :=
  buildArpFrame srcMac broadcastMac (.request srcMac srcIp targetIp)

def buildGratuitousArp (srcMac : MacAddr) (srcIp : Ipv4Addr) : List UInt8 :=
  buildArpFrame srcMac broadcastMac (.request srcMac srcIp srcIp)

def buildArpReply (srcMac : MacAddr) (srcIp : Ipv4Addr) (dstMac : MacAddr) (dstIp : Ipv4Addr) : List UInt8 :=
  buildArpFrame srcMac dstMac (.reply srcMac srcIp dstMac dstIp)

/-- `process_arp`: the entry for the cache, and the reply. -/
def Handler.processArp (self : Handler Ipv4Addr) (frame : List UInt8) :
    Option (Ipv4Addr × MacAddr) × Option (List UInt8) :=
  match parseArpPacket frame with
  | none => (none, none)
  | some arp =>
    (some (arp.senderIp, arp.senderMac),
      if arp.isRequest ∧ arp.targetIp ∈ self.localIps then
        some (buildArpReply self.localMac arp.targetIp arp.senderMac arp.senderIp)
      else none)

def resolve (cache : NeighborCache Ipv4Addr) (now : Instant) (ip : Ipv4Addr) : Option MacAddr :=
  if ip = ⟨255, 255, 255, 255⟩ then some broadcastMac else cache.lookup now ip

def Handler.makeRequest (self : Handler Ipv4Addr) (targetIp : Ipv4Addr) : Option (List UInt8) :=
  self.localIps.head?.map fun srcIp => buildArpRequest self.localMac srcIp targetIp

def Handler.makeGratuitousArp (self : Handler Ipv4Addr) : Option (List UInt8) :=
  self.localIps.head?.map fun srcIp => buildGratuitousArp self.localMac srcIp

/-! ## NDP -/

def icmpv6Checksum (srcIp dstIp : Ipv6Addr) (icmpData : List UInt8) : UInt16 :=
  let icmpLen := icmpData.length % 2 ^ 32
  nonzeroChecksum (onesComplement (wordSum (Ipv6Addr.octets srcIp) + wordSum (Ipv6Addr.octets dstIp) + icmpLen / 65536 +
    icmpLen % 65536 + 58 + wordSum (icmpData.take 2) + wordSum (icmpData.drop 4)))

structure NdpPacket where
  srcMac : MacAddr
  dstMac : MacAddr
  srcIp : Ipv6Addr
  dstIp : Ipv6Addr
  icmpType : UInt8
  flags : BitVec 32
  target : Ipv6Addr
  linkLayerAddr : Option MacAddr
deriving DecidableEq

/-- The `while` loop over the options; a turn takes at least eight bytes. -/
def ndpOptionLoop (frame : List UInt8) (expectedType : UInt8) : Nat → Nat → Option MacAddr
  | 0, _ => none
  | fuel + 1, offset =>
    if offset + 2 ≤ frame.length then
      let optType := byteAt frame offset
      let optLen := byteAt frame (offset + 1)
      let optBytes := optLen.toNat * 8
      if optLen = 0 then none
      else if offset + optBytes > frame.length then none
      else if optType = expectedType ∧ optBytes ≥ 8 then some (macAt frame (offset + 2))
      else ndpOptionLoop frame expectedType fuel (offset + optBytes)
    else none

def parseNdpLlOption (frame : List UInt8) (optionsStart : Nat) (icmpType : UInt8) : Option MacAddr :=
  ndpOptionLoop frame (if icmpType = 135 then 1 else 2) frame.length optionsStart

/-- `parse_ndp_packet`. The offsets are those of an untagged frame. -/
def parseNdpPacket (frame : List UInt8) : Option NdpPacket :=
  if frame.length < 14 + 40 + 24 then none
  else if be16At frame 12 ≠ 0x86DD then none
  else if byteAt frame 14 >>> 4 ≠ 6 then none
  else if byteAt frame (14 + 6) ≠ 58 then none
  else if byteAt frame (14 + 7) ≠ 255 then none
  else
    let icmpStart := 14 + 40
    let icmpType := byteAt frame icmpStart
    if icmpType ≠ 135 ∧ icmpType ≠ 136 then none
    else if byteAt frame (icmpStart + 1) ≠ 0 then none
    else
      let flags := fromBe32 (byteAt frame (icmpStart + 4)) (byteAt frame (icmpStart + 5))
        (byteAt frame (icmpStart + 6)) (byteAt frame (icmpStart + 7))
      some
        { srcMac := macAt frame 6, dstMac := macAt frame 0, srcIp := ipv6At frame (14 + 8)
          dstIp := ipv6At frame (14 + 24), icmpType, flags := if icmpType = 136 then flags else 0
          target := ipv6At frame (icmpStart + 8)
          linkLayerAddr := parseNdpLlOption frame (icmpStart + 24) icmpType }

/-- `NA_FLAG_SOLICITED`, `NA_FLAG_OVERRIDE`. -/
def naFlagSolicited : BitVec 32 := 0x40000000
def naFlagOverride : BitVec 32 := 0x20000000

/-- `ff02::1:ffXX:XXXX`. -/
def solicitedNodeMulticastAddr (addr : Ipv6Addr) : Ipv6Addr :=
  Ipv6Addr.ofOctets ([0xff, 0x02, 0, 0, 0, 0, 0, 0, 0, 0, 0, 1, 0xff] ++ (Ipv6Addr.octets addr).drop 13)

def ipv6MulticastMac (mcastAddr : Ipv6Addr) : MacAddr :=
  let octets := Ipv6Addr.octets mcastAddr
  #v[0x33, 0x33, byteAt octets 12, byteAt octets 13, byteAt octets 14, byteAt octets 15]

def neighborSolicitation (srcMac : MacAddr) (targetIp : Ipv6Addr) (cksum : UInt16) : List UInt8 :=
  [135, 0] ++ beBytes16 cksum ++ beBytes32 0 ++ Ipv6Addr.octets targetIp ++ [1, 1] ++ srcMac.toList

def buildNeighborSolicitation (srcMac : MacAddr) (srcIp targetIp : Ipv6Addr) : List UInt8 :=
  let snmAddr := solicitedNodeMulticastAddr targetIp
  let dstMac := ipv6MulticastMac snmAddr
  let icmpLen : UInt16 := 24 + 8
  let cksum := icmpv6Checksum srcIp snmAddr (neighborSolicitation srcMac targetIp 0)
  dstMac.toList ++ srcMac.toList ++ beBytes16 0x86DD ++
    [0x60, 0, 0, 0] ++ beBytes16 icmpLen ++ [58, 255] ++ Ipv6Addr.octets srcIp ++ Ipv6Addr.octets snmAddr ++
    neighborSolicitation srcMac targetIp cksum

def neighborAdvertisement (srcMac : MacAddr) (srcIp : Ipv6Addr) (flags : BitVec 32) (cksum : UInt16) : List UInt8 :=
  [136, 0] ++ beBytes16 cksum ++ beBytes32 flags ++ Ipv6Addr.octets srcIp ++ [2, 1] ++ srcMac.toList

def buildNeighborAdvertisement (srcMac : MacAddr) (srcIp : Ipv6Addr) (dstMac : MacAddr) (dstIp : Ipv6Addr)
    (flags : BitVec 32) : List UInt8 :=
  let icmpLen : UInt16 := 24 + 8
  let cksum := icmpv6Checksum srcIp dstIp (neighborAdvertisement srcMac srcIp flags 0)
  dstMac.toList ++ srcMac.toList ++ beBytes16 0x86DD ++
    [0x60, 0, 0, 0] ++ beBytes16 icmpLen ++ [58, 255] ++ Ipv6Addr.octets srcIp ++ Ipv6Addr.octets dstIp ++
    neighborAdvertisement srcMac srcIp flags cksum

def buildGratuitousNa (srcMac : MacAddr) (srcIp : Ipv6Addr) : List UInt8 :=
  let allNodes := Ipv6Addr.ofOctets [0xff, 0x02, 0, 0, 0, 0, 0, 0, 0, 0, 0, 0, 0, 0, 0, 1]
  buildNeighborAdvertisement srcMac srcIp (ipv6MulticastMac allNodes) allNodes naFlagOverride

def Handler.makeSolicitation (self : Handler Ipv6Addr) (targetIp : Ipv6Addr) : Option (List UInt8) :=
  self.localIps.head?.map fun srcIp => buildNeighborSolicitation self.localMac srcIp targetIp

def Handler.makeGratuitousNa (self : Handler Ipv6Addr) : Option (List UInt8) :=
  self.localIps.head?.map fun srcIp => buildGratuitousNa self.localMac srcIp

/-- `process_ndp`: the entry for the cache, and the reply. -/
def Handler.processNdp (self : Handler Ipv6Addr) (frame : List UInt8) :
    Option (Ipv6Addr × MacAddr) × Option (List UInt8) :=
  match parseNdpPacket frame with
  | none => (none, none)
  | some pkt =>
    if pkt.icmpType = 135 then
      (if pkt.srcIp ≠ 0 then pkt.linkLayerAddr.map (pkt.srcIp, ·) else none,
        if pkt.target ∈ self.localIps then
          some (buildNeighborAdvertisement self.localMac pkt.target pkt.srcMac pkt.srcIp
            (naFlagSolicited ||| naFlagOverride))
        else none)
    else if pkt.icmpType = 136 then (pkt.linkLayerAddr.map (pkt.target, ·), none)
    else (none, none)

end DpdkStdlib.Udp
