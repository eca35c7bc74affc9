import DpdkStdlib.Udp.Neighbor

/-!
# ICMP and ICMPv6 (`icmp.rs`, `icmpv6.rs`)

Echo requests get a reply; error messages about a datagram of ours become an error of the socket.  Both versions carry
the same data over different addresses, so a packet and an error are records over the type of the address.

Every access of a parser stands behind a test of the length, so its reads are total.
-/

namespace DpdkStdlib.Udp
open DpdkStdlib.Lib

/-! ## Packets and errors -/

/-- `IcmpPacket`, `Icmpv6Packet`. -/
structure IcmpPacket (Ip : Type) where
  srcMac : MacAddr
  dstMac : MacAddr
  srcIp : Ip
  dstIp : Ip
  /-- `hop_limit` of ICMPv6. -/
  ttl : UInt8
  icmpType : UInt8
  icmpCode : UInt8
  checksum : UInt16
  identifier : UInt16
  sequence : UInt16
  payload : List UInt8
deriving DecidableEq

/-- `IcmpErrorInfo`, `Icmpv6ErrorInfo`. -/
structure IcmpErrorInfo (Ip : Type) where
  icmpType : UInt8
  icmpCode : UInt8
  errorSource : Ip
  originalDstIp : Ip
  originalSrcIp : Ip
  originalDstPort : UInt16
  originalSrcPort : UInt16
  /-- `next_hop_mtu` of ICMP. -/
  mtu : Nat
deriving DecidableEq

/-- `IcmpAction`, `Icmpv6Action`. -/
inductive IcmpAction (Ip : Type)
  | reply (frame : List UInt8)
  | error (info : IcmpErrorInfo Ip)
deriving DecidableEq

/-- `io::ErrorKind`, the kinds used here. -/
inductive ErrorKind
  | other
  | connectionRefused
  | permissionDenied
  | timedOut
  | invalidData
deriving DecidableEq

inductive IpAddr
  | v4 (ip : Ipv4Addr)
  | v6 (ip : Ipv6Addr)
deriving DecidableEq

/-- An `io::Error` of the socket: every message is `text` followed by `" (from source)"`. -/
structure IoError where
  kind : ErrorKind
  text : String
  source : IpAddr
deriving DecidableEq

def IcmpPacket.makeEchoReply {Ip : Type} (self : IcmpPacket Ip) (replySrcMac : MacAddr) (replyType : UInt8) :
    IcmpPacket Ip :=
  { srcMac := replySrcMac, dstMac := self.srcMac, srcIp := self.dstIp, dstIp := self.srcIp, ttl := 64
    icmpType := replyType, icmpCode := 0, checksum := 0, identifier := self.identifier, sequence := self.sequence
    payload := self.payload }

def IcmpPacket.message {Ip : Type} (self : IcmpPacket Ip) (cksum : UInt16) : List UInt8 :=
  [self.icmpType, self.icmpCode] ++ beBytes16 cksum ++ beBytes16 self.identifier ++ beBytes16 self.sequence ++
    self.payload

def icmpPacketAt {Ip : Type} (frame : List UInt8) (icmpStart : Nat) (srcIp dstIp : Ip) (ttl : UInt8) : IcmpPacket Ip :=
  { srcMac := macAt frame 6, dstMac := macAt frame 0, srcIp, dstIp, ttl
    icmpType := byteAt frame icmpStart, icmpCode := byteAt frame (icmpStart + 1)
    checksum := be16At frame (icmpStart + 2), identifier := be16At frame (icmpStart + 4)
    sequence := be16At frame (icmpStart + 6), payload := frame.drop (icmpStart + 8) }

/-! ## ICMP -/

/-- Destination unreachable, redirect, time exceeded, parameter problem. -/
def isIcmpError (icmpType : UInt8) : Bool := icmpType ∈ [3, 5, 11, 12]

def IcmpPacket.isEchoRequest (self : IcmpPacket Ipv4Addr) : Bool := self.icmpType == 8 && self.icmpCode == 0

def icmpChecksum (icmpHeaderAndData : List UInt8) : UInt16 := onesComplement (wordSum icmpHeaderAndData)

/-- Where the message starts in an ICMP packet with a header of twenty bytes or more. -/
def icmpStart (frame : List UInt8) (l3 : Nat) : Option Nat :=
  if byteAt frame l3 >>> 4 &&& 0x0F ≠ 4 then none
  else if ipHeaderLenAt frame l3 < 20 then none
  else if byteAt frame (l3 + 9) ≠ 1 then none
  else some (l3 + ipHeaderLenAt frame l3)

def parseIcmpPacket (frame : List UInt8) : Option (IcmpPacket Ipv4Addr) := do
  let layout ← layoutOf frame none
  let l3 := layout.l3Offset
  if layout.ethertype ≠ 0x0800 then none
  else if frame.length < l3 + 20 + 8 then none
  else
    let icmp ← icmpStart frame l3
    if frame.length < icmp + 8 then none
    else some (icmpPacketAt frame icmp (ipv4At frame (l3 + 12)) (ipv4At frame (l3 + 16)) (byteAt frame (l3 + 8)))

def parseIcmpError (frame : List UInt8) : Option (IcmpErrorInfo Ipv4Addr) := do
  let layout ← layoutOf frame none
  let l3 := layout.l3Offset
  if layout.ethertype ≠ 0x0800 then none
  else if frame.length < l3 + 20 + 8 + 28 then none
  else
    let icmp ← icmpStart frame l3
    if frame.length < icmp + 8 + 28 then none
    else
      let icmpType := byteAt frame icmp
      let icmpCode := byteAt frame (icmp + 1)
      if !isIcmpError icmpType then none
      else
        let nextHopMtu := if icmpType = 3 ∧ icmpCode = 4 then be16At frame (icmp + 6) else 0
        let origIp := icmp + 8
        if byteAt frame origIp >>> 4 &&& 0x0F ≠ 4 then none
        else if ipHeaderLenAt frame origIp < 20 then none
        else if byteAt frame (origIp + 9) ≠ 17 then none
        else
          let origUdp := origIp + ipHeaderLenAt frame origIp
          if frame.length < origUdp + 4 then none
          else return { icmpType, icmpCode
                        errorSource := ipv4At frame (l3 + 12), originalDstIp := ipv4At frame (origIp + 16)
                        originalSrcIp := ipv4At frame (origIp + 12), originalDstPort := be16At frame (origUdp + 2)
                        originalSrcPort := be16At frame origUdp, mtu := nextHopMtu.toNat }

/-- The IPv4 header of an ICMP packet with the given checksum. -/
def icmpIpHeader (packet : IcmpPacket Ipv4Addr) (cksum : UInt16) : List UInt8 :=
  [0x45, 0x00] ++ beBytes16 (UInt16.ofNat (20 + 8 + packet.payload.length)) ++ [0x00, 0x00, 0x40, 0x00] ++
    [packet.ttl, 1] ++ beBytes16 cksum ++ packet.srcIp.octets ++ packet.dstIp.octets

def buildIcmpFrame (packet : IcmpPacket Ipv4Addr) : List UInt8 :=
  packet.dstMac.toList ++ packet.srcMac.toList ++ beBytes16 0x0800 ++
    icmpIpHeader packet (ipv4Checksum (icmpIpHeader packet 0)) ++
    packet.message (icmpChecksum (packet.message 0))

/-- The reply to an echo request for one of our addresses. -/
def Handler.echoReply (self : Handler Ipv4Addr) (frame : List UInt8) : Option (List UInt8) := do
  let packet ← parseIcmpPacket frame
  if packet.isEchoRequest ∧ packet.dstIp ∈ self.localIps then
    some (buildIcmpFrame (packet.makeEchoReply self.localMac 0))
  else none

def Handler.processIcmp (self : Handler Ipv4Addr) (frame : List UInt8) : Option (List UInt8) := self.echoReply frame

/-- `process_icmp_full`: a reply, an error for the socket, or nothing. -/
def Handler.processIcmpFull (self : Handler Ipv4Addr) (frame : List UInt8) : Option (IcmpAction Ipv4Addr) :=
  match self.echoReply frame with
  | some reply => some (.reply reply)
  | none =>
    match parseIcmpError frame with
    | some errorInfo => if errorInfo.originalSrcIp ∈ self.localIps then some (.error errorInfo) else none
    | none => none

def IcmpErrorInfo.toIoError (self : IcmpErrorInfo Ipv4Addr) : IoError :=
  let error (kind : ErrorKind) (text : String) : IoError := { kind, text, source := .v4 self.errorSource }
  if self.icmpType = 3 then
    if self.icmpCode = 0 then error .other "ICMP: network unreachable"
    else if self.icmpCode = 1 then error .other "ICMP: host unreachable"
    else if self.icmpCode = 2 then error .connectionRefused "ICMP: protocol unreachable"
    else if self.icmpCode = 3 then error .connectionRefused "ICMP: port unreachable"
    else if self.icmpCode = 4 then
      error .other ("ICMP: fragmentation needed, next-hop MTU " ++ toString self.mtu)
    else if self.icmpCode = 13 then error .permissionDenied "ICMP: communication administratively prohibited"
    else error .other ("ICMP: destination unreachable code " ++ toString self.icmpCode.toNat)
  else if self.icmpType = 11 ∧ self.icmpCode = 0 then error .timedOut "ICMP: TTL exceeded in transit"
  else if self.icmpType = 11 ∧ self.icmpCode = 1 then error .timedOut "ICMP: fragment reassembly time exceeded"
  else if self.icmpType = 5 then error .other "ICMP: redirect"
  else if self.icmpType = 12 then error .invalidData "ICMP: parameter problem"
  else error .other
    ("ICMP error type " ++ toString self.icmpType.toNat ++ " code " ++ toString self.icmpCode.toNat)

/-! ## ICMPv6 -/

/-- Destination unreachable, packet too big, time exceeded, parameter problem. -/
def isIcmpv6Error (icmpType : UInt8) : Bool := icmpType ∈ [1, 2, 3, 4]

def IcmpPacket.isEcho6Request (self : IcmpPacket Ipv6Addr) : Bool := self.icmpType == 128 && self.icmpCode == 0

def icmpv6Start (frame : List UInt8) (layout : FrameLayout) : Option Nat :=
  let l3 := layout.l3Offset
  if layout.ethertype ≠ 0x86DD then none
  else if frame.length < l3 + 40 then none
  else if byteAt frame l3 >>> 4 ≠ 6 then none
  else
    match upperLayer (frame.drop l3) with
    | none => none
    | some nh =>
      if nh.protocol ≠ 58 then none
      else if frame.length < l3 + nh.payloadOffset + 8 then none
      else some (l3 + nh.payloadOffset)

def parseIcmpv6Packet (frame : List UInt8) : Option (IcmpPacket Ipv6Addr) := do
  let layout ← layoutOf frame none
  let l3 := layout.l3Offset
  let icmp ← icmpv6Start frame layout
  if byteAt frame icmp ≠ 128 ∧ byteAt frame icmp ≠ 129 then none
  else some (icmpPacketAt frame icmp (ipv6At frame (l3 + 8)) (ipv6At frame (l3 + 24)) (byteAt frame (l3 + 7)))

def parseIcmpv6Error (frame : List UInt8) : Option (IcmpErrorInfo Ipv6Addr) := do
  let layout ← layoutOf frame none
  let l3 := layout.l3Offset
  let icmp ← icmpv6Start frame layout
  let icmpType := byteAt frame icmp
  if !isIcmpv6Error icmpType then none
  else
    let mtu := if icmpType = 2 then
        (fromBe32 (byteAt frame (icmp + 4)) (byteAt frame (icmp + 5)) (byteAt frame (icmp + 6))
          (byteAt frame (icmp + 7))).toNat
      else 0
    let origPkt := icmp + 8
    if frame.length < origPkt + 40 + 8 then none
    else if byteAt frame origPkt >>> 4 ≠ 6 then none
    else
      let origNh ← upperLayer (frame.drop origPkt)
      if origNh.protocol ≠ 17 then none
      else
        let origUdp := origPkt + origNh.payloadOffset
        if frame.length < origUdp + 4 then none
        else return { icmpType, icmpCode := byteAt frame (icmp + 1), errorSource := ipv6At frame (l3 + 8)
                      originalDstIp := ipv6At frame (origPkt + 24), originalSrcIp := ipv6At frame (origPkt + 8)
                      originalDstPort := be16At frame (origUdp + 2), originalSrcPort := be16At frame origUdp, mtu }

def buildIcmpv6Frame (packet : IcmpPacket Ipv6Addr) : List UInt8 :=
  packet.dstMac.toList ++ packet.srcMac.toList ++ beBytes16 0x86DD ++
    [0x60, 0x00, 0x00, 0x00] ++ beBytes16 (UInt16.ofNat (8 + packet.payload.length)) ++ [58, packet.ttl] ++
    Ipv6Addr.octets packet.srcIp ++ Ipv6Addr.octets packet.dstIp ++
    packet.message (icmpv6Checksum packet.srcIp packet.dstIp (packet.message 0))

def Handler.processIcmpv6Full (self : Handler Ipv6Addr) (frame : List UInt8) : Option (IcmpAction Ipv6Addr) :=
  let echoReply := (parseIcmpv6Packet frame).bind fun packet =>
    if packet.isEcho6Request ∧ packet.dstIp ∈ self.localIps then
      some (buildIcmpv6Frame (packet.makeEchoReply self.localMac 129))
    else none
  match echoReply with
  | some reply => some (.reply reply)
  | none =>
    match parseIcmpv6Error frame with
    | some errorInfo => if errorInfo.originalSrcIp ∈ self.localIps then some (.error errorInfo) else none
    | none => none

def IcmpErrorInfo.toIoError6 (self : IcmpErrorInfo Ipv6Addr) : IoError :=
  let error (kind : ErrorKind) (text : String) : IoError := { kind, text, source := .v6 self.errorSource }
  if self.icmpType = 1 then
    if self.icmpCode = 0 then error .other "ICMPv6: no route to destination"
    else if self.icmpCode = 1 then error .permissionDenied "ICMPv6: administratively prohibited"
    else if self.icmpCode = 2 then error .other "ICMPv6: beyond scope of source address"
    else if self.icmpCode = 3 then error .other "ICMPv6: address unreachable"
    else if self.icmpCode = 4 then error .connectionRefused "ICMPv6: port unreachable"
    else error .other ("ICMPv6: destination unreachable code " ++ toString self.icmpCode.toNat)
  else if self.icmpType = 2 then error .other ("ICMPv6: packet too big, MTU " ++ toString self.mtu)
  else if self.icmpType = 3 ∧ self.icmpCode = 0 then error .timedOut "ICMPv6: hop limit exceeded in transit"
  else if self.icmpType = 3 ∧ self.icmpCode = 1 then error .timedOut "ICMPv6: fragment reassembly time exceeded"
  else if self.icmpType = 4 then error .invalidData "ICMPv6: parameter problem"
  else error .other
    ("ICMPv6 error type " ++ toString self.icmpType.toNat ++ " code " ++ toString self.icmpCode.toNat)

end DpdkStdlib.Udp
