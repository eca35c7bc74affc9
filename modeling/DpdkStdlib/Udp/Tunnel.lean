import DpdkStdlib.Udp.Checksum

/-!
# Tunnels (`gue.rs`, `vxlan.rs`, `geneve.rs`)

Three encapsulations of a UDP packet in a UDP packet.  The builders differ in the tunnel header, in the inner Ethernet
header (GUE has none) and in how they add up the lengths; the decapsulators in how they find the inner packet.

Every access of a decapsulator stands behind a test of the length, so its reads are total (`byteAt` is zero beyond the
end).  The builders only test what indexing tests: their `none` is an access out of range.
-/

namespace DpdkStdlib.Udp
open DpdkStdlib.Lib

/-! ## Configurations -/

structure GueConfig where
  remoteIp : Ipv4Addr
  remotePort : UInt16 := 6080
  localPort : UInt16 := 6080
deriving DecidableEq

/-- `VxlanConfig`. The VNI has 24 bits. -/
structure VxlanConfig where
  remoteIp : Ipv4Addr
  vni : UInt32
  remotePort : UInt16 := 4789
  localPort : UInt16 := 4789
  innerSrcMac : MacAddr := Vector.replicate 6 0
  innerDstMac : MacAddr := Vector.replicate 6 0xFF
deriving DecidableEq

structure GeneveConfig where
  remoteIp : Ipv4Addr
  vni : UInt32
  remotePort : UInt16 := 6081
  localPort : UInt16 := 6081
  innerSrcMac : MacAddr := Vector.replicate 6 0
  innerDstMac : MacAddr := Vector.replicate 6 0xFF
deriving DecidableEq

/-! ## Headers -/

structure GueHeader where
  version : UInt8
  cFlag : Bool
  hlen : UInt8
  proto : UInt8
  flags : UInt16
deriving DecidableEq

namespace GueHeader

def newData (proto : UInt8) : GueHeader := { version := 0, cFlag := false, hlen := 0, proto, flags := 0 }

def totalLen (self : GueHeader) : Nat := 4 + self.hlen.toNat * 4

def encode (self : GueHeader) (out : List UInt8) : Option (List UInt8) :=
  writeAll out
    [(0, [self.version <<< 6 ||| (if self.cFlag then (1 : UInt8) <<< 5 else 0) ||| (self.hlen &&& 0x1F)]),
      (1, [self.proto]), (2, beBytes16 self.flags)]

def parse (data : List UInt8) : Option GueHeader :=
  if data.length < 4 then none
  else
    let version := (byteAt data 0 >>> 6) &&& 0x03
    let cFlag := (byteAt data 0 >>> 5) &&& 0x01 != 0
    let hlen := byteAt data 0 &&& 0x1F
    let proto := byteAt data 1
    let flags := be16At data 2
    if version ≠ 0 then none
    else if data.length < 4 + hlen.toNat * 4 then none
    else some { version, cFlag, hlen, proto, flags }

end GueHeader

def vniAt (data : List UInt8) (i : Nat) : UInt32 :=
  ((byteAt data i).toUInt32 <<< 16) ||| ((byteAt data (i + 1)).toUInt32 <<< 8) ||| (byteAt data (i + 2)).toUInt32

def vniBytes (vni : UInt32) : List UInt8 :=
  [((vni >>> 16) &&& 0xFF).toUInt8, ((vni >>> 8) &&& 0xFF).toUInt8, (vni &&& 0xFF).toUInt8]

structure VxlanHeader where
  iFlag : Bool
  vni : UInt32
deriving DecidableEq

namespace VxlanHeader

def new (vni : UInt32) : VxlanHeader := { iFlag := true, vni }

def encode (self : VxlanHeader) (out : List UInt8) : Option (List UInt8) :=
  writeAll out
    [(0, [if self.iFlag then 0x08 else 0]), (1, [0]), (2, [0]), (3, [0]), (4, vniBytes self.vni), (7, [0])]

def parse (data : List UInt8) : Option VxlanHeader :=
  if data.length < 8 then none
  else
    let iFlag := byteAt data 0 &&& 0x08 != 0
    if !iFlag then none
    else some { iFlag, vni := vniAt data 4 }

end VxlanHeader

structure GeneveTlvOption where
  cls : UInt16
  optionType : UInt8
  data : List UInt8
deriving DecidableEq

structure GeneveHeader where
  version : UInt8
  optionsLen : Nat
  oam : Bool
  critical : Bool
  protocolType : UInt16
  vni : UInt32
  options : List GeneveTlvOption
deriving DecidableEq

namespace GeneveHeader

def new (vni : UInt32) : GeneveHeader :=
  { version := 0, optionsLen := 0, oam := false, critical := false, protocolType := 0x6558, vni, options := [] }

def headerLen (self : GeneveHeader) : Nat := 8 + self.optionsLen

def encodeOptions (out : List UInt8) (off : Nat) : List GeneveTlvOption → Option (List UInt8)
  | [] => some out
  | opt :: rest => do
    let dataLenWords := UInt8.ofNat (opt.data.length / 4)
    let out ← writeAll out
      [(off, beBytes16 opt.cls), (off + 2, [opt.optionType]), (off + 3, [dataLenWords &&& 0x1F]), (off + 4, opt.data)]
    encodeOptions out (off + 4 + opt.data.length) rest

def encode (self : GeneveHeader) (out : List UInt8) : Option (List UInt8) := do
  let optLenWords := UInt8.ofNat (self.optionsLen / 4)
  let out ← writeAll out
    [(0, [(self.version &&& 0x03) <<< 6 ||| (optLenWords &&& 0x3F)]),
      (1, [(if self.oam then 0x80 else 0) ||| (if self.critical then 0x40 else 0)]),
      (2, beBytes16 self.protocolType), (4, vniBytes self.vni), (7, [0])]
  encodeOptions out 8 self.options

/-- The `while` loop over the options; a turn takes at least four bytes. -/
def parseOptions (data : List UInt8) (totalLen : Nat) : Nat → Nat → Option (List GeneveTlvOption)
  | 0, _ => none
  | fuel + 1, off =>
    if off + 4 ≤ totalLen then
      let cls := be16At data off
      let optionType := byteAt data (off + 2)
      let dataLen := (byteAt data (off + 3) &&& 0x1F).toNat * 4
      if off + 4 + dataLen > totalLen then none
      else do
        let rest ← parseOptions data totalLen fuel (off + 4 + dataLen)
        return { cls, optionType, data := (data.drop (off + 4)).take dataLen } :: rest
    else some []

def parse (data : List UInt8) : Option GeneveHeader :=
  if data.length < 8 then none
  else
    let version := (byteAt data 0 >>> 6) &&& 0x03
    if version ≠ 0 then none
    else
      let optionsLen := (byteAt data 0 &&& 0x3F).toNat * 4
      let totalLen := 8 + optionsLen
      if data.length < totalLen then none
      else
        let oam := byteAt data 1 &&& 0x80 != 0
        let critical := byteAt data 1 &&& 0x40 != 0
        let protocolType := be16At data 2
        if protocolType ≠ 0x6558 then none
        else do
          let options ← parseOptions data totalLen totalLen 8
          return { version, optionsLen, oam, critical, protocolType, vni := vniAt data 4, options }

end GeneveHeader

/-! ## Decapsulation -/

/-- The inner packet of a tunnel frame, as the socket takes it up. -/
structure InnerDatagram where
  innerSrcIp : Ipv4Addr
  innerDstIp : Ipv4Addr
  innerSrcPort : UInt16
  innerDstPort : UInt16
  payload : List UInt8
deriving DecidableEq

structure GueDecapResult (Ip : Type) extends InnerDatagram where
  outerSrcIp : Ip
  gueHeader : GueHeader
deriving DecidableEq

structure VxlanDecapResult (Ip : Type) extends InnerDatagram where
  outerSrcIp : Ip
  vxlanHeader : VxlanHeader
  innerSrcMac : MacAddr
  innerDstMac : MacAddr
deriving DecidableEq

structure GeneveDecapResult (Ip : Type) extends InnerDatagram where
  outerSrcIp : Ip
  geneveHeader : GeneveHeader
  innerSrcMac : MacAddr
  innerDstMac : MacAddr
deriving DecidableEq

/-- The outer headers: where the tunnel header starts in a UDP packet to the tunnel's port. -/
def tunnelStart (frame : List UInt8) (l3Offset : Nat) (localPort : UInt16) : Option Nat :=
  if frame.length < l3Offset + 20 then none
  else if byteAt frame (l3Offset + 9) ≠ 17 then none
  else
    let oipIhl := ipHeaderLenAt frame l3Offset
    if oipIhl < 20 then none
    else
      let oudpOff := l3Offset + oipIhl
      if frame.length < oudpOff + 8 then none
      else if be16At frame (oudpOff + 2) ≠ localPort then none
      else some (oudpOff + 8)

/-- The outer headers: where the tunnel header starts.  Extension headers are not looked for. -/
def tunnelStart6 (frame : List UInt8) (l3Offset : Nat) (localPort : UInt16) : Option Nat :=
  if frame.length < l3Offset + 40 then none
  else if byteAt frame l3Offset >>> 4 ≠ 6 then none
  else if byteAt frame (l3Offset + 6) ≠ 17 then none
  else
    let oudpOff := l3Offset + 40
    if frame.length < oudpOff + 8 then none
    else if be16At frame (oudpOff + 2) ≠ localPort then none
    else some (oudpOff + 8)

/-- The inner packet, which starts at `innerOff`. -/
def innerDatagram (frame : List UInt8) (innerOff : Nat) : Option InnerDatagram :=
  if frame.length < innerOff + 20 then none
  else if byteAt frame innerOff >>> 4 ≠ 4 then none
  else
    let iipIhl := ipHeaderLenAt frame innerOff
    if iipIhl < 20 ∨ frame.length < innerOff + iipIhl then none
    else if byteAt frame (innerOff + 9) ≠ 17 then none
    else
      let iudpOff := innerOff + iipIhl
      if frame.length < iudpOff + 8 then none
      else
        let innerUdpLen := (be16At frame (iudpOff + 4)).toNat
        if innerUdpLen < 8 ∨ frame.length < iudpOff + innerUdpLen then none
        else some
          { innerSrcIp := ipv4At frame (innerOff + 12), innerDstIp := ipv4At frame (innerOff + 16)
            innerSrcPort := be16At frame iudpOff, innerDstPort := be16At frame (iudpOff + 2)
            payload := (frame.drop (iudpOff + 8)).take (innerUdpLen - 8) }

/-- The inner Ethernet header: where the inner IPv4 packet starts. -/
def innerEthernet (frame : List UInt8) (ieth : Nat) : Option Nat :=
  if frame.length < ieth + 14 then none
  else if be16At frame (ieth + 12) ≠ 0x0800 then none
  else some (ieth + 14)

/-- `try_decap_gue` and `try_decap_gue_v6` behind the outer headers, whose end is `start`. -/
def decapGue {Ip : Type} (frame : List UInt8) (start : Option Nat) (outerSrcIp : Ip) : Option (GueDecapResult Ip) := do
  let gueOff ← start
  let gueHeader ← GueHeader.parse (frame.drop gueOff)
  if gueHeader.cFlag then none
  else if gueHeader.proto ≠ 4 then none
  else
    let inner ← innerDatagram frame (gueOff + gueHeader.totalLen)
    return { inner with outerSrcIp, gueHeader }

/-- What both families share of VXLAN. -/
def decapVxlan {Ip : Type} (frame : List UInt8) (start : Option Nat) (outerSrcIp : Ip) (expectedVni : Option UInt32) :
    Option (VxlanDecapResult Ip) := do
  let vxlanOff ← start
  let vxlanHeader ← VxlanHeader.parse (frame.drop vxlanOff)
  if expectedVni.any (vxlanHeader.vni ≠ ·) then none
  else
    let ieth := vxlanOff + 8
    let iipOff ← innerEthernet frame ieth
    let inner ← innerDatagram frame iipOff
    return { inner with outerSrcIp, vxlanHeader, innerSrcMac := macAt frame (ieth + 6), innerDstMac := macAt frame ieth }

/-- What both families share of GENEVE. -/
def decapGeneve {Ip : Type} (frame : List UInt8) (start : Option Nat) (outerSrcIp : Ip) (expectedVni : Option UInt32) :
    Option (GeneveDecapResult Ip) := do
  let geneveOff ← start
  let geneveHeader ← GeneveHeader.parse (frame.drop geneveOff)
  if expectedVni.any (geneveHeader.vni ≠ ·) then none
  else
    let ieth := geneveOff + geneveHeader.headerLen
    let iipOff ← innerEthernet frame ieth
    let inner ← innerDatagram frame iipOff
    return { inner with outerSrcIp, geneveHeader, innerSrcMac := macAt frame (ieth + 6), innerDstMac := macAt frame ieth }

def tryDecapGue (frame : List UInt8) (l3Offset : Nat) (gueLocalPort : UInt16) : Option (GueDecapResult Ipv4Addr) :=
  decapGue frame (tunnelStart frame l3Offset gueLocalPort) (ipv4At frame (l3Offset + 12))

def tryDecapVxlan (frame : List UInt8) (l3Offset : Nat) (vxlanLocalPort : UInt16) (expectedVni : Option UInt32) :
    Option (VxlanDecapResult Ipv4Addr) :=
  decapVxlan frame (tunnelStart frame l3Offset vxlanLocalPort) (ipv4At frame (l3Offset + 12)) expectedVni

def tryDecapGeneve (frame : List UInt8) (l3Offset : Nat) (geneveLocalPort : UInt16) (expectedVni : Option UInt32) :
    Option (GeneveDecapResult Ipv4Addr) :=
  decapGeneve frame (tunnelStart frame l3Offset geneveLocalPort) (ipv4At frame (l3Offset + 12)) expectedVni

def tryDecapGueV6 (frame : List UInt8) (l3Offset : Nat) (gueLocalPort : UInt16) : Option (GueDecapResult Ipv6Addr) :=
  decapGue frame (tunnelStart6 frame l3Offset gueLocalPort) (ipv6At frame (l3Offset + 8))

def tryDecapVxlanV6 (frame : List UInt8) (l3Offset : Nat) (vxlanLocalPort : UInt16) (expectedVni : Option UInt32) :
    Option (VxlanDecapResult Ipv6Addr) :=
  decapVxlan frame (tunnelStart6 frame l3Offset vxlanLocalPort) (ipv6At frame (l3Offset + 8)) expectedVni

def tryDecapGeneveV6 (frame : List UInt8) (l3Offset : Nat) (geneveLocalPort : UInt16) (expectedVni : Option UInt32) :
    Option (GeneveDecapResult Ipv6Addr) :=
  decapGeneve frame (tunnelStart6 frame l3Offset geneveLocalPort) (ipv6At frame (l3Offset + 8)) expectedVni

/-! ## Building -/

structure TunnelFrameArgs (Ip : Type) where
  outerSrcMac : MacAddr
  outerDstMac : MacAddr
  outerSrcIp : Ip
  outerDstIp : Ip
  outerSrcPort : UInt16
  outerDstPort : UInt16
  innerSrcIp : Ipv4Addr
  innerDstIp : Ipv4Addr
  innerSrcPort : UInt16
  innerDstPort : UInt16
  payload : List UInt8
  ttl : UInt8
deriving DecidableEq

def TunnelFrameArgs.inner {Ip : Type} (a : TunnelFrameArgs Ip) : UdpPacketArgs Ipv4Addr :=
  { srcIp := a.innerSrcIp, dstIp := a.innerDstIp, srcPort := a.innerSrcPort, dstPort := a.innerDstPort
    payload := a.payload, ttl := 64 }

structure InnerMacs where
  innerSrcMac : MacAddr
  innerDstMac : MacAddr
deriving DecidableEq

/-- The writes of the inner Ethernet header, if there is one, and its length. -/
def innerEthWrites (ieth : Nat) (macs : Option InnerMacs) : List (Nat × List UInt8) :=
  macs.elim [] fun m => ethWrites ieth m.innerDstMac m.innerSrcMac 0x0800

def innerEthLen (macs : Option InnerMacs) : Nat := macs.elim 0 fun _ => 14

def writeOuterHeaders (out : List UInt8) (a : TunnelFrameArgs Ipv4Addr) (outerIpTotal outerUdpLen : UInt16) :
    Option (List UInt8) := do
  let out ← writeAll out (ethWrites 0 a.outerDstMac a.outerSrcMac 0x0800)
  let oip := 14
  let out ← writeAll out (ipv4HeaderWrites oip outerIpTotal 0x00 a.ttl a.outerSrcIp a.outerDstIp)
  let oipCksum := ipv4Checksum (← readSlice out oip 20)
  let out ← writeAt out (oip + 10) (beBytes16 oipCksum)
  let oudp := oip + 20
  writeAll out (udpHeaderWrites oudp a.outerSrcPort a.outerDstPort outerUdpLen)

/-- Over IPv6 there is no header checksum. -/
def writeOuterHeaders6 (out : List UInt8) (a : TunnelFrameArgs Ipv6Addr) (outerUdpLen : UInt16) :
    Option (List UInt8) := do
  let out ← writeAll out (ethWrites 0 a.outerDstMac a.outerSrcMac 0x86DD)
  let oip := 14
  let out ← writeAll out (ipv6HeaderWrites oip a.outerSrcIp a.outerDstIp outerUdpLen 17 a.ttl)
  writeAll out (udpHeaderWrites (oip + 40) a.outerSrcPort a.outerDstPort outerUdpLen)

/-- The outer headers: where UDP starts, how they are written, and their UDP checksum. -/
structure OuterHeaders where
  oudp : Nat
  write : List UInt8 → Option (List UInt8)
  cksum : List UInt8 → List UInt8 → UInt16

namespace TunnelFrameArgs

def outerV4 (a : TunnelFrameArgs Ipv4Addr) (outerIpTotal outerUdpLen : UInt16) : OuterHeaders :=
  { oudp := 14 + 20, write := fun out => writeOuterHeaders out a outerIpTotal outerUdpLen
    cksum := udpChecksum a.outerSrcIp.octets a.outerDstIp.octets }

def outerV6 (a : TunnelFrameArgs Ipv6Addr) (outerUdpLen : UInt16) : OuterHeaders :=
  { oudp := 14 + 40, write := fun out => writeOuterHeaders6 out a outerUdpLen
    cksum := udp6Checksum a.outerSrcIp a.outerDstIp }

end TunnelFrameArgs

/-- What follows the UDP header at `oudp`: the tunnel header, the inner Ethernet header and the inner packet. -/
def writeTunnelBody (out : List UInt8) (oudp headerLen : Nat) (encode : List UInt8 → Option (List UInt8))
    (macs : Option InnerMacs) (inner : UdpPacketArgs Ipv4Addr) : Option (List UInt8) := do
  let header ← encode (← readSlice out (oudp + 8) headerLen)
  let out ← writeAt out (oudp + 8) header
  let ieth := oudp + 8 + headerLen
  let out ← writeAll out (innerEthWrites ieth macs)
  writeUdpPacket out (ieth + innerEthLen macs) inner 0x00

/-- A tunnel frame written into `out`: the outer headers, the tunnel header by `encode`, the inner frame, and last the
outer UDP checksum. -/
def writeTunnelFrame (out : List UInt8) (outer : OuterHeaders) (headerLen : Nat)
    (encode : List UInt8 → Option (List UInt8)) (macs : Option InnerMacs) (inner : UdpPacketArgs Ipv4Addr) :
    Option (List UInt8) := do
  let out ← outer.write out
  let out ← writeTunnelBody out outer.oudp headerLen encode macs inner
  let outerPayload ← readSlice out (outer.oudp + 8) (out.length - (outer.oudp + 8))
  let outerUdpCksum := outer.cksum (← readSlice out outer.oudp 8) outerPayload
  writeAt out (outer.oudp + 6) (beBytes16 outerUdpCksum)

def buildGueFrameInto (out : List UInt8) (a : TunnelFrameArgs Ipv4Addr) :
    Option (Except UdpError Nat × List UInt8) := do
  let innerPktLen := 20 + 8 + a.payload.length
  let outerUdpPayload := 4 + innerPktLen
  let outerUdpLen := UInt16.ofNat (8 + outerUdpPayload)
  let outerIpTotal := UInt16.ofNat (20 + 8 + outerUdpPayload)
  let totalLen := 14 + outerIpTotal.toNat
  let frame ← writeTunnelFrame (resize out totalLen) (a.outerV4 outerIpTotal outerUdpLen) 4 (GueHeader.newData 4).encode
    none a.inner
  return (.ok totalLen, frame)

/-- The `outer_udp_len` and `outer_ip_total` of the VXLAN and GENEVE builders, cut to 16 bits. -/
def ethernetTunnelLens (headerLen payloadLen : Nat) : UInt16 × UInt16 :=
  let innerIpTotal := UInt16.ofNat (20 + 8 + payloadLen)
  let innerFrameLen := 14 + innerIpTotal.toNat
  let outerUdpPayloadLen := headerLen + innerFrameLen
  let outerUdpLen := UInt16.ofNat (8 + outerUdpPayloadLen)
  (outerUdpLen, UInt16.ofNat (20 + outerUdpLen.toNat))

def buildVxlanFrameInto (out : List UInt8) (a : TunnelFrameArgs Ipv4Addr) (vni : UInt32) (macs : InnerMacs) :
    Option (Except UdpError Nat × List UInt8) := do
  let (outerUdpLen, outerIpTotal) := ethernetTunnelLens 8 a.payload.length
  let totalLen := 14 + outerIpTotal.toNat
  let frame ← writeTunnelFrame (resize out totalLen) (a.outerV4 outerIpTotal outerUdpLen) 8 (VxlanHeader.new vni).encode
    macs a.inner
  return (.ok totalLen, frame)

def buildGeneveFrameInto (out : List UInt8) (a : TunnelFrameArgs Ipv4Addr) (geneveHeader : GeneveHeader)
    (macs : InnerMacs) : Option (Except UdpError Nat × List UInt8) := do
  let geneveLen := geneveHeader.headerLen
  let (outerUdpLen, outerIpTotal) := ethernetTunnelLens geneveLen a.payload.length
  let totalLen := 14 + outerIpTotal.toNat
  let frame ← writeTunnelFrame (resize out totalLen) (a.outerV4 outerIpTotal outerUdpLen) geneveLen geneveHeader.encode
    macs a.inner
  return (.ok totalLen, frame)

def buildGueFrameIntoV6 (out : List UInt8) (a : TunnelFrameArgs Ipv6Addr) :
    Option (Except UdpError Nat × List UInt8) := do
  let innerPktLen := 20 + 8 + a.payload.length
  let outerUdpPayload := 4 + innerPktLen
  let outerUdpLen := UInt16.ofNat (8 + outerUdpPayload)
  let totalLen := 14 + 40 + outerUdpLen.toNat
  let frame ← writeTunnelFrame (resize out totalLen) (a.outerV6 outerUdpLen) 4 (GueHeader.newData 4).encode none a.inner
  return (.ok totalLen, frame)

def buildVxlanFrameIntoV6 (out : List UInt8) (a : TunnelFrameArgs Ipv6Addr) (vni : UInt32) (macs : InnerMacs) :
    Option (Except UdpError Nat × List UInt8) := do
  let (outerUdpLen, _) := ethernetTunnelLens 8 a.payload.length
  let totalLen := 14 + 40 + outerUdpLen.toNat
  let frame ← writeTunnelFrame (resize out totalLen) (a.outerV6 outerUdpLen) 8 (VxlanHeader.new vni).encode macs a.inner
  return (.ok totalLen, frame)

def buildGeneveFrameIntoV6 (out : List UInt8) (a : TunnelFrameArgs Ipv6Addr) (geneveHeader : GeneveHeader)
    (macs : InnerMacs) : Option (Except UdpError Nat × List UInt8) := do
  let geneveLen := geneveHeader.headerLen
  let (outerUdpLen, _) := ethernetTunnelLens geneveLen a.payload.length
  let totalLen := 14 + 40 + outerUdpLen.toNat
  let frame ← writeTunnelFrame (resize out totalLen) (a.outerV6 outerUdpLen) geneveLen geneveHeader.encode macs a.inner
  return (.ok totalLen, frame)

end DpdkStdlib.Udp
