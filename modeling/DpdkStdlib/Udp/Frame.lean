import DpdkStdlib.Net
import DpdkStdlib.Lib.OnesComplement

/-!
# Frame layout and checksums (`lib.rs`, `ipv6.rs`)

VLAN tags, IPv6 extension headers and the checksums of IPv4 and UDP.  Header lengths in bytes: Ethernet 14, VLAN tag
4, IPv4 20, IPv6 40, UDP 8.

A function that indexes into a frame returns an option whose `none` is an index out of range (the source would panic).
Sums are taken in 32-bit words, those of `ones_complement_sum` in 64-bit words, both with wrap-around.
-/

namespace DpdkStdlib.Udp
open DpdkStdlib.Lib

/-! ## VLAN tags -/

inductive VlanMode
  | access
  | trunk (allowedVlans : List UInt16) (nativeVlan : Option UInt16)
  | portTagging
deriving DecidableEq

structure VlanConfig where
  vlanId : UInt16
  priority : UInt8 := 0
  dei : Bool := false
  mode : VlanMode := .portTagging
  forceSoftware : Bool := false
deriving DecidableEq

namespace VlanConfig

def tagsOnTx (self : VlanConfig) : Bool := self.mode != .access

def acceptsFrame (self : VlanConfig) (frameVid : Option UInt16) : Bool :=
  match self.mode, frameVid with
  | .access, none => true
  | .access, some vid => vid == self.vlanId
  | .trunk allowedVlans _, some vid => allowedVlans.contains vid
  | .trunk _ nativeVlan, none => nativeVlan.isSome
  | .portTagging, some vid => vid == self.vlanId
  | .portTagging, none => false

def encodeTci (self : VlanConfig) : UInt16 :=
  let pcp := (self.priority.toUInt16 &&& 0x07) <<< 13
  let dei := if self.dei then (1 : UInt16) <<< 12 else 0
  let vid := self.vlanId &&& 0x0FFF
  pcp ||| dei ||| vid

end VlanConfig

structure FrameLayout where
  ethertype : UInt16
  l3Offset : Nat
  vlanTci : Option UInt16
deriving DecidableEq

def FrameLayout.vlanId (layout : FrameLayout) : Option UInt16 := layout.vlanTci.map (· &&& 0x0FFF)

/-- `detect_vlan`: the tag in the frame, or the one that the card has taken off. -/
def detectVlan (frame : List UInt8) (hwVlanTci : Option UInt16) : Option (Option FrameLayout) := do
  if frame.length < 14 then return none
  let outerEthertype ← read16 frame 12
  if outerEthertype = 0x8100 then
    if frame.length < 14 + 4 then return none
    let tci ← read16 frame 14
    let innerEthertype ← read16 frame 16
    return some { ethertype := innerEthertype, l3Offset := 14 + 4, vlanTci := some tci }
  else
    return some { ethertype := outerEthertype, l3Offset := 14, vlanTci := hwVlanTci }

/-! ## IPv6 extension headers -/

structure Ipv6NextHeader where
  protocol : UInt8
  payloadOffset : Nat
deriving DecidableEq

/-- The `loop` over extension headers; every turn moves on by at least eight bytes. -/
def walkLoop (data : List UInt8) : Nat → UInt8 → Nat → Option (Option Ipv6NextHeader)
  | 0, _, _ => none
  | fuel + 1, nextHeader, offset =>
    -- Hop-by-Hop, Routing, Destination Options: a length in units of eight bytes
    if nextHeader = 0 ∨ nextHeader = 43 ∨ nextHeader = 60 then
      if offset + 2 > data.length then some none
      else do
        let extNext ← data[offset]?
        let extLen := ((← data[offset + 1]?).toNat + 1) * 8
        if offset + extLen > data.length then return none
        walkLoop data fuel extNext (offset + extLen)
    -- Fragment
    else if nextHeader = 44 then
      if offset + 8 > data.length then some none
      else do walkLoop data fuel (← data[offset]?) (offset + 8)
    else some (some { protocol := nextHeader, payloadOffset := offset })

def walkExtensionHeaders (data : List UInt8) : Option (Option Ipv6NextHeader) := do
  if data.length < 40 then return none
  walkLoop data data.length (← data[6]?) 40

/-! ## Checksums -/

def fold32 (sum : Nat) : UInt16 := UInt16.ofNat (foldCarry 2 (sum % 2 ^ 32))

def ipv4Checksum (header : List UInt8) : UInt16 := onesComplement (wordSum header)

def onesComplementSum (data : List UInt8) : Nat := foldCarry 5 (dwordSum data % 2 ^ 64)

def udpHeaderSum (udpHeader : List UInt8) : Nat := wordSum (udpHeader.take 6) + wordSum (udpHeader.drop 8)

/-- A checksum of zero means none, so all ones stand for it. -/
def nonzeroChecksum (result : UInt16) : UInt16 := if result = 0 then 0xFFFF else result

def udpChecksum (srcIp dstIp udpHeader payload : List UInt8) : UInt16 :=
  nonzeroChecksum (onesComplement (wordSum srcIp + wordSum dstIp + 17 + (8 + payload.length) + udpHeaderSum udpHeader +
    onesComplementSum payload))

def udpPseudoHeaderChecksum (srcIp dstIp : List UInt8) (udpLen : UInt16) : UInt16 :=
  fold32 (wordSum srcIp + wordSum dstIp + 17 + udpLen.toNat)

/-- The IPv6 pseudo-header, its length a 32-bit field. -/
def pseudoHeader6Sum (srcIp dstIp : Ipv6Addr) (udpLen : Nat) : Nat :=
  onesComplementSum (Ipv6Addr.octets srcIp) + onesComplementSum (Ipv6Addr.octets dstIp) +
    udpLen % 2 ^ 32 / 65536 + udpLen % 65536 + 17

def udp6Checksum (srcIp dstIp : Ipv6Addr) (udpHeader payload : List UInt8) : UInt16 :=
  let sum := pseudoHeader6Sum srcIp dstIp (8 + payload.length) + udpHeaderSum udpHeader + onesComplementSum payload
  nonzeroChecksum (~~~ fold32 sum)

def udp6PseudoHeaderChecksum (srcIp dstIp : Ipv6Addr) (udpLen : Nat) : UInt16 :=
  fold32 (pseudoHeader6Sum srcIp dstIp udpLen)

/-! ## Verification -/

def verifyIpv4Checksum (frame : List UInt8) : Option Bool := do
  let some layout ← detectVlan frame none | return false
  let l3 := layout.l3Offset
  if frame.length < l3 + 20 then return false
  let ihl := ((← frame[l3]?) &&& 0x0F).toNat
  let ipHeaderLen := ihl * 4
  if ipHeaderLen < 20 ∨ frame.length < l3 + ipHeaderLen then return false
  let sum := wordSum (← readSlice frame l3 ipHeaderLen)
  return fold32 sum == 0xFFFF

def verifyUdpChecksum (frame : List UInt8) : Option Bool := do
  let some layout ← detectVlan frame none | return false
  let l3 := layout.l3Offset
  if frame.length < l3 + 20 + 8 then return false
  let ihl := ((← frame[l3]?) &&& 0x0F).toNat
  let ipHeaderLen := ihl * 4
  let udpStart := l3 + ipHeaderLen
  if frame.length < udpStart + 8 then return false
  let storedCksum ← read16 frame (udpStart + 6)
  if storedCksum = 0 then return true
  let srcIp ← readSlice frame (l3 + 12) 4
  let dstIp ← readSlice frame (l3 + 16) 4
  let udpLen := (← read16 frame (udpStart + 4)).toNat
  if frame.length < udpStart + udpLen then return false
  let udpData ← readSlice frame udpStart udpLen
  return fold32 (wordSum srcIp + wordSum dstIp + 17 + udpLen + onesComplementSum udpData) == 0xFFFF

def verifyUdp6Checksum (frame : List UInt8) : Option Bool := do
  let some layout ← detectVlan frame none | return false
  if layout.ethertype ≠ 0x86DD then return false
  let l3 := layout.l3Offset
  if frame.length < l3 + 40 then return false
  let some nh ← walkExtensionHeaders (frame.drop l3) | return false
  if nh.protocol ≠ 17 then return false
  let udpStart := l3 + nh.payloadOffset
  if frame.length < udpStart + 8 then return false
  let storedCksum ← read16 frame (udpStart + 6)
  if storedCksum = 0 then return false
  let srcIp := Ipv6Addr.ofOctets (← readSlice frame (l3 + 8) 16)
  let dstIp := Ipv6Addr.ofOctets (← readSlice frame (l3 + 24) 16)
  let udpLen := (← read16 frame (udpStart + 4)).toNat
  if udpLen < 8 ∨ frame.length < udpStart + udpLen then return false
  let udpHeader ← readSlice frame udpStart 8
  let payload ← readSlice frame (udpStart + 8) (udpLen - 8)
  return udp6Checksum srcIp dstIp udpHeader payload == storedCksum

end DpdkStdlib.Udp
