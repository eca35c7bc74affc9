import DpdkStdlib.Udp.Frame

/-!
# UDP frames (`lib.rs`, `ipv6.rs`)

Six builders and four parsers.  The builders differ in where the frame is written, in the Ethernet header and in the
TOS byte; each is `writeUdpFrame` or `writeUdp6Frame` applied to its own values.  The arguments they share are one
record, over the type of the address; what goes into the IP packet is a record of its own, since the tunnels put such a
packet into another.

A result `none` (of the outer option) is an access out of range; a builder's `Except` and a parser's inner option are
the source's `Result` and `Option`.
-/

namespace DpdkStdlib.Udp
open DpdkStdlib.Lib

inductive UdpError
  | payloadTooLarge (max actual : Nat)
deriving DecidableEq

/-- What an IP packet with a UDP datagram is built from. -/
structure UdpPacketArgs (Ip : Type) where
  srcIp : Ip
  dstIp : Ip
  srcPort : UInt16
  dstPort : UInt16
  payload : List UInt8
  ttl : UInt8
deriving DecidableEq

structure UdpFrameArgs (Ip : Type) extends UdpPacketArgs Ip where
  srcMac : MacAddr
  dstMac : MacAddr
deriving DecidableEq

instance {Ip : Type} : Coe (UdpFrameArgs Ip) (UdpPacketArgs Ip) := ⟨UdpFrameArgs.toUdpPacketArgs⟩

/-! ## Building: IPv4 -/

def ethWrites (eth : Nat) (dstMac srcMac : MacAddr) (ethertype : UInt16) : List (Nat × List UInt8) :=
  [(eth, dstMac.toList), (eth + 6, srcMac.toList), (eth + 12, beBytes16 ethertype)]

def vlanWrites {Ip : Type} (a : UdpFrameArgs Ip) (tci ethertype : UInt16) : List (Nat × List UInt8) :=
  [(0, a.dstMac.toList), (6, a.srcMac.toList), (12, beBytes16 0x8100), (14, beBytes16 tci), (16, beBytes16 ethertype)]

def ipv4HeaderWrites (ip : Nat) (ipTotalLen : UInt16) (tos ttl : UInt8) (srcIp dstIp : Ipv4Addr) :
    List (Nat × List UInt8) :=
  [(ip, [0x45]), (ip + 1, [tos]), (ip + 2, beBytes16 ipTotalLen), (ip + 4, [0x00, 0x00]), (ip + 6, [0x40, 0x00]),
    (ip + 8, [ttl]), (ip + 9, [17]), (ip + 10, [0x00, 0x00]), (ip + 12, srcIp.octets), (ip + 16, dstIp.octets)]

def udpHeaderWrites (offset : Nat) (srcPort dstPort udpLen : UInt16) : List (Nat × List UInt8) :=
  [(offset, beBytes16 srcPort), (offset + 2, beBytes16 dstPort), (offset + 4, beBytes16 udpLen),
    (offset + 6, [0x00, 0x00])]

/-- An IPv4 packet written into `out` from `ip` on, checksums last. -/
def writeUdpPacket (out : List UInt8) (ip : Nat) (a : UdpPacketArgs Ipv4Addr) (tos : UInt8) :
    Option (List UInt8) := do
  let udpLen := UInt16.ofNat (8 + a.payload.length)
  let ipTotalLen := UInt16.ofNat (20 + 8 + a.payload.length)
  let out ← writeAll out (ipv4HeaderWrites ip ipTotalLen tos a.ttl a.srcIp a.dstIp)
  let ipCksum := ipv4Checksum (← readSlice out ip 20)
  let out ← writeAt out (ip + 10) (beBytes16 ipCksum)
  let udp := ip + 20
  let out ← writeAll out (udpHeaderWrites udp a.srcPort a.dstPort udpLen)
  let out ← writeAt out (udp + 8) a.payload
  let udpCksum := udpChecksum a.srcIp.octets a.dstIp.octets (← readSlice out udp 8) a.payload
  writeAt out (udp + 6) (beBytes16 udpCksum)

/-- An IPv4 frame written into `out`: the Ethernet header and the packet from `ip` on. -/
def writeUdpFrame (out : List UInt8) (eth : List (Nat × List UInt8)) (ip : Nat) (a : UdpFrameArgs Ipv4Addr)
    (tos : UInt8) : Option (List UInt8) := do
  let out ← writeAll out eth
  writeUdpPacket out ip a tos

def buildUdpFrame (a : UdpFrameArgs Ipv4Addr) : Option (Except UdpError (List UInt8)) := do
  let maxPayload := 9015 - 42
  if a.payload.length > maxPayload then return .error (.payloadTooLarge maxPayload a.payload.length)
  let totalLen := 42 + a.payload.length
  return .ok (← writeUdpFrame (List.replicate totalLen 0) (ethWrites 0 a.dstMac a.srcMac 0x0800) 14 a 0x00)

def buildUdpFrameInto (out : List UInt8) (a : UdpFrameArgs Ipv4Addr) : Option (Except UdpError Nat × List UInt8) := do
  let maxPayload := 9015 - 42
  if a.payload.length > maxPayload then return (.error (.payloadTooLarge maxPayload a.payload.length), out)
  let totalLen := 42 + a.payload.length
  return (.ok totalLen, ← writeUdpFrame (resize out totalLen) (ethWrites 0 a.dstMac a.srcMac 0x0800) 14 a 0x00)

def buildUdpFrameIntoWithTos (out : List UInt8) (a : UdpFrameArgs Ipv4Addr) (tos : UInt8) :
    Option (Except UdpError Nat × List UInt8) := do
  let maxPayload := 9015 - 42
  if a.payload.length > maxPayload then return (.error (.payloadTooLarge maxPayload a.payload.length), out)
  let totalLen := 42 + a.payload.length
  return (.ok totalLen, ← writeUdpFrame (resize out totalLen) (ethWrites 0 a.dstMac a.srcMac 0x0800) 14 a tos)

def buildUdpFrameIntoVlan (out : List UInt8) (a : UdpFrameArgs Ipv4Addr) (vlan : VlanConfig) :
    Option (Except UdpError Nat × List UInt8) := do
  let maxPayload := 9015 - 46
  if a.payload.length > maxPayload then return (.error (.payloadTooLarge maxPayload a.payload.length), out)
  let totalLen := 46 + a.payload.length
  return (.ok totalLen, ← writeUdpFrame (resize out totalLen) (vlanWrites a vlan.encodeTci 0x0800) 18 a 0x00)

/-! ## Building: IPv6 -/

def ipv6HeaderWrites (ip : Nat) (srcIp dstIp : Ipv6Addr) (payloadLength : UInt16) (nextHeader hopLimit : UInt8) :
    List (Nat × List UInt8) :=
  [(ip, [0x60]), (ip + 1, [0x00]), (ip + 2, [0x00]), (ip + 3, [0x00]), (ip + 4, beBytes16 payloadLength),
    (ip + 6, [nextHeader]), (ip + 7, [hopLimit]), (ip + 8, Ipv6Addr.octets srcIp), (ip + 24, Ipv6Addr.octets dstIp)]

def writeUdp6Frame (out : List UInt8) (a : UdpFrameArgs Ipv6Addr) : Option (List UInt8) := do
  let udpLen := UInt16.ofNat (8 + a.payload.length)
  let udpOff := 14 + 40
  let out ← writeAll out (ethWrites 0 a.dstMac a.srcMac 0x86DD)
  let out ← writeAll out (ipv6HeaderWrites 14 a.srcIp a.dstIp udpLen 17 a.ttl)
  let out ← writeAll out (udpHeaderWrites udpOff a.srcPort a.dstPort udpLen)
  let out ← writeAt out 62 a.payload
  let cksum := udp6Checksum a.srcIp a.dstIp (← readSlice out udpOff 8) a.payload
  writeAt out (udpOff + 6) (beBytes16 cksum)

def buildUdp6Frame (a : UdpFrameArgs Ipv6Addr) : Option (Except UdpError (List UInt8)) := do
  let maxPayload := 9015 - 62
  if a.payload.length > maxPayload then return .error (.payloadTooLarge maxPayload a.payload.length)
  let totalLen := 62 + a.payload.length
  return .ok (← writeUdp6Frame (List.replicate totalLen 0) a)

def buildUdp6FrameInto (out : List UInt8) (a : UdpFrameArgs Ipv6Addr) : Option (Except UdpError Nat × List UInt8) := do
  let maxPayload := 9015 - 62
  if a.payload.length > maxPayload then return (.error (.payloadTooLarge maxPayload a.payload.length), out)
  let totalLen := 62 + a.payload.length
  return (.ok totalLen, ← writeUdp6Frame (resize out totalLen) a)

/-! ## Parsing -/

/-- `ParsedUdpPacket`, `ParsedUdp6Packet`. -/
structure ParsedUdpPacket (Ip : Type) where
  srcMac : MacAddr
  dstMac : MacAddr
  srcIp : Ip
  dstIp : Ip
  srcPort : UInt16
  dstPort : UInt16
  payload : List UInt8
  vlanId : Option UInt16
deriving DecidableEq

/-- `ParsedUdpPacketRef`, `ParsedUdp6PacketRef`: the payload is borrowed, so it has a place in the frame. -/
structure ParsedUdpPacketRef (Ip : Type) where
  srcMac : MacAddr
  srcIp : Ip
  dstIp : Ip
  srcPort : UInt16
  dstPort : UInt16
  payload : List UInt8
  payloadOffset : Nat
  vlanId : Option UInt16
deriving DecidableEq

def readIpv4 (frame : List UInt8) (i : Nat) : Option Ipv4Addr := do
  return Ipv4Addr.mk (← frame[i]?) (← frame[i + 1]?) (← frame[i + 2]?) (← frame[i + 3]?)

/-- `parse_udp_packet`; the outer `none` is an index out of range. -/
def parseUdpPacket (frame : List UInt8) : Option (Option (ParsedUdpPacket Ipv4Addr)) := do
  let some layout ← detectVlan frame none | return none
  let l3 := layout.l3Offset
  if frame.length < l3 + 20 + 8 then return none
  if layout.ethertype ≠ 0x0800 then return none
  let some dstMac := MacAddr.ofBytes (← readSlice frame 0 6) | return none
  let some srcMac := MacAddr.ofBytes (← readSlice frame 6 6) | return none
  let version := (← frame[l3]?) >>> 4 &&& 0x0F
  if version ≠ 4 then return none
  let ihl := ((← frame[l3]?) &&& 0x0F).toNat
  let ipHeaderLen := ihl * 4
  if ipHeaderLen < 20 then return none
  if (← frame[l3 + 9]?) ≠ 17 then return none
  let srcIp ← readIpv4 frame (l3 + 12)
  let dstIp ← readIpv4 frame (l3 + 16)
  let udpStart := l3 + ipHeaderLen
  if frame.length < udpStart + 8 then return none
  let srcPort ← read16 frame udpStart
  let dstPort ← read16 frame (udpStart + 2)
  let udpLen := (← read16 frame (udpStart + 4)).toNat
  if udpLen < 8 ∨ frame.length < udpStart + udpLen then return none
  let payload ← readSlice frame (udpStart + 8) (udpLen - 8)
  return some { srcMac, dstMac, srcIp, dstIp, srcPort, dstPort, payload, vlanId := layout.vlanId }

def parseUdpPacketRef (frame : List UInt8) : Option (Option (ParsedUdpPacketRef Ipv4Addr)) := do
  let some layout ← detectVlan frame none | return none
  let l3 := layout.l3Offset
  if frame.length < l3 + 20 + 8 then return none
  if layout.ethertype ≠ 0x0800 then return none
  let some srcMac := MacAddr.ofBytes (← readSlice frame 6 6) | return none
  let version := (← frame[l3]?) >>> 4 &&& 0x0F
  if version ≠ 4 then return none
  let ihl := ((← frame[l3]?) &&& 0x0F).toNat
  let ipHeaderLen := ihl * 4
  if ipHeaderLen < 20 then return none
  if (← frame[l3 + 9]?) ≠ 17 then return none
  let srcIp ← readIpv4 frame (l3 + 12)
  let dstIp ← readIpv4 frame (l3 + 16)
  let udpStart := l3 + ipHeaderLen
  if frame.length < udpStart + 8 then return none
  let srcPort ← read16 frame udpStart
  let dstPort ← read16 frame (udpStart + 2)
  let udpLen := (← read16 frame (udpStart + 4)).toNat
  if udpLen < 8 ∨ frame.length < udpStart + udpLen then return none
  let payloadStart := udpStart + 8
  let payload ← readSlice frame payloadStart (udpLen - 8)
  return some { srcMac, srcIp, dstIp, srcPort, dstPort, payload, payloadOffset := payloadStart
                vlanId := layout.vlanId }

/-- `parse_udp6_packet`, behind the extension headers. -/
def parseUdp6Packet (frame : List UInt8) : Option (Option (ParsedUdpPacket Ipv6Addr)) := do
  let some layout ← detectVlan frame none | return none
  let l3 := layout.l3Offset
  if layout.ethertype ≠ 0x86DD then return none
  if frame.length < l3 + 40 then return none
  if (← frame[l3]?) >>> 4 ≠ 6 then return none
  let some srcMac := MacAddr.ofBytes (← readSlice frame 6 6) | return none
  let some dstMac := MacAddr.ofBytes (← readSlice frame 0 6) | return none
  let srcIp := Ipv6Addr.ofOctets (← readSlice frame (l3 + 8) 16)
  let dstIp := Ipv6Addr.ofOctets (← readSlice frame (l3 + 24) 16)
  let some nh ← walkExtensionHeaders (frame.drop l3) | return none
  if nh.protocol ≠ 17 then return none
  let udpStart := l3 + nh.payloadOffset
  if frame.length < udpStart + 8 then return none
  let srcPort ← read16 frame udpStart
  let dstPort ← read16 frame (udpStart + 2)
  let udpLen := (← read16 frame (udpStart + 4)).toNat
  if udpLen < 8 ∨ frame.length < udpStart + udpLen then return none
  let payload ← readSlice frame (udpStart + 8) (udpLen - 8)
  return some { srcMac, dstMac, srcIp, dstIp, srcPort, dstPort, payload, vlanId := layout.vlanId }

def parseUdp6PacketRef (frame : List UInt8) : Option (Option (ParsedUdpPacketRef Ipv6Addr)) := do
  let some layout ← detectVlan frame none | return none
  let l3 := layout.l3Offset
  if layout.ethertype ≠ 0x86DD then return none
  if frame.length < l3 + 40 then return none
  if (← frame[l3]?) >>> 4 ≠ 6 then return none
  let some srcMac := MacAddr.ofBytes (← readSlice frame 6 6) | return none
  let srcIp := Ipv6Addr.ofOctets (← readSlice frame (l3 + 8) 16)
  let dstIp := Ipv6Addr.ofOctets (← readSlice frame (l3 + 24) 16)
  let some nh ← walkExtensionHeaders (frame.drop l3) | return none
  if nh.protocol ≠ 17 then return none
  let udpStart := l3 + nh.payloadOffset
  if frame.length < udpStart + 8 then return none
  let srcPort ← read16 frame udpStart
  let dstPort ← read16 frame (udpStart + 2)
  let udpLen := (← read16 frame (udpStart + 4)).toNat
  if udpLen < 8 ∨ frame.length < udpStart + udpLen then return none
  let payloadStart := udpStart + 8
  let payload ← readSlice frame payloadStart (udpLen - 8)
  return some { srcMac, srcIp, dstIp, srcPort, dstPort, payload, payloadOffset := payloadStart
                vlanId := layout.vlanId }

end DpdkStdlib.Udp
