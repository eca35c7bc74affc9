import DpdkStdlib.Udp.Extension
import DpdkStdlib.Udp.LinkHeader
import DpdkStdlib.Udp.Roundtrip

/-!
# Echo replies (`icmp.rs`, `icmpv6.rs`)

The handlers answer an echo request with a frame that is built from what the parser read.  The parsers take everything up
to the end of the frame for the data of the message; they do not look at the length in the IP header.
-/

namespace DpdkStdlib.Udp
open DpdkStdlib.Lib

/-! ## Checksums of messages -/

section message
variable {Ip : Type} (p : IcmpPacket Ip)

theorem IcmpPacket.length_message (cksum : UInt16) : (p.message cksum).length = 8 + p.payload.length := by
  rw [IcmpPacket.message, List.length_append, Nat.add_comm, Nat.add_comm 8]
  rfl

def IcmpPacket.rest : List UInt8 := beBytes16 p.identifier ++ (beBytes16 p.sequence ++ p.payload)

theorem IcmpPacket.wordSum_message (cksum : UInt16) :
    wordSum (p.message cksum) = wordSum [p.icmpType, p.icmpCode] + wordSum p.rest + cksum.toNat :=
  wordSum_field (a := [p.icmpType, p.icmpCode]) cksum p.rest (Nat.mod_self 2)

theorem IcmpPacket.wordSum_rest_le (hlen : 8 + p.payload.length < 65536) :
    wordSum [p.icmpType, p.icmpCode] + wordSum p.rest ≤ 65535 * 32769 := by
  have hle := wordSum_le (p.message 0)
  rw [p.wordSum_message, p.length_message, UInt16.toNat_zero, Nat.add_zero] at hle
  exact hle.trans (Nat.mul_le_mul_left _ (by omega))

theorem IcmpPacket.message_valid (hlen : 8 + p.payload.length < 65536) :
    endAround (wordSum (p.message (icmpChecksum (p.message 0)))) = 65535 := by
  have hle := p.wordSum_rest_le hlen
  rw [p.wordSum_message, icmpChecksum, p.wordSum_message, UInt16.toNat_zero, Nat.add_zero,
    toNat_onesComplement (by omega), endAround_add_complement]

end message

theorem IcmpPacket.message6_valid (p : IcmpPacket Ipv6Addr) (hlen : 8 + p.payload.length < 65536) :
    endAround (wordSum (Ipv6Addr.octets p.srcIp) + wordSum (Ipv6Addr.octets p.dstIp) + (8 + p.payload.length) + 58 +
      wordSum (p.message (icmpv6Checksum p.srcIp p.dstIp (p.message 0)))) = 65535 := by
  have hle := p.wordSum_rest_le hlen
  have hsrc := wordSum_le (Ipv6Addr.octets p.srcIp)
  have hdst := wordSum_le (Ipv6Addr.octets p.dstIp)
  rw [Ipv6Addr.length_octets] at hsrc hdst
  have htake : (p.message 0).take 2 = [p.icmpType, p.icmpCode] := rfl
  have hdrop : (p.message 0).drop 4 = p.rest := rfl
  generalize hcksum : icmpv6Checksum p.srcIp p.dstIp (p.message 0) = cksum
  rw [icmpv6Checksum, htake, hdrop, p.length_message, Nat.mod_eq_of_lt (by omega), Nat.div_eq_of_lt hlen,
    Nat.mod_eq_of_lt hlen] at hcksum
  have hne : cksum ≠ 0 := hcksum ▸ nonzeroChecksum_ne_zero _
  have hsum := (nonzeroChecksum_eq_iff (by omega) (by omega) hne).1 hcksum
  rw [p.wordSum_message]
  refine (congrArg endAround ?_).trans hsum
  omega

/-! ## What a frame says -/

/-- What an ICMP frame says of a packet, its length and its checksums in order. -/
structure Says4 (frame : List UInt8) (p : IcmpPacket Ipv4Addr) : Prop where
  dstMac : macAt frame 0 = p.dstMac
  srcMac : macAt frame 6 = p.srcMac
  ethertype : be16At frame 12 = 0x0800
  version : byteAt frame 14 = 0x45
  length : (be16At frame 16).toNat = frame.length - 14
  protocol : byteAt frame 23 = 1
  srcIp : ipv4At frame 26 = p.srcIp
  dstIp : ipv4At frame 30 = p.dstIp
  kind : byteAt frame 34 = p.icmpType ∧ byteAt frame 35 = p.icmpCode
  identifier : be16At frame 38 = p.identifier
  sequence : be16At frame 40 = p.sequence
  data : frame.drop 42 = p.payload
  headerValid : Ipv4HeaderValid frame 14
  messageValid : endAround (wordSum (frame.drop 34)) = 65535

structure Says6 (frame : List UInt8) (p : IcmpPacket Ipv6Addr) : Prop where
  dstMac : macAt frame 0 = p.dstMac
  srcMac : macAt frame 6 = p.srcMac
  ethertype : be16At frame 12 = 0x86DD
  version : byteAt frame 14 >>> 4 = 6
  length : (be16At frame 18).toNat = frame.length - 54
  nextHeader : byteAt frame 20 = 58
  srcIp : ipv6At frame 22 = p.srcIp
  dstIp : ipv6At frame 38 = p.dstIp
  kind : byteAt frame 54 = p.icmpType ∧ byteAt frame 55 = p.icmpCode
  identifier : be16At frame 58 = p.identifier
  sequence : be16At frame 60 = p.sequence
  data : frame.drop 62 = p.payload
  messageValid : endAround (wordSum (Ipv6Addr.octets p.srcIp) + wordSum (Ipv6Addr.octets p.dstIp) + (frame.length - 54) +
    58 + wordSum (frame.drop 54)) = 65535

def controlEth (dstMac srcMac : MacAddr) (ethertype : UInt16) : List UInt8 :=
  dstMac.toList ++ (srcMac.toList ++ beBytes16 ethertype)

theorem length_controlEth (dstMac srcMac : MacAddr) (ethertype : UInt16) :
    (controlEth dstMac srcMac ethertype).length = 14 := by
  simp only [controlEth, List.length_append, Vector.length_toList, length_beBytes16]

theorem controlEth_fields (dstMac srcMac : MacAddr) (ethertype : UInt16) (r : List UInt8) :
    macAt (controlEth dstMac srcMac ethertype ++ r) 0 = dstMac ∧
      macAt (controlEth dstMac srcMac ethertype ++ r) 6 = srcMac ∧
      be16At (controlEth dstMac srcMac ethertype ++ r) 12 = ethertype := by
  simp only [controlEth, List.append_assoc]
  refine ⟨macAt_append (e := []) _ _ rfl, macAt_append _ _ (Vector.length_toList).symm, ?_⟩
  rw [← List.append_assoc]
  exact be16At_field (by rw [List.length_append, Vector.length_toList, Vector.length_toList])

theorem length_icmpIpHeader (p : IcmpPacket Ipv4Addr) (cksum : UInt16) : (icmpIpHeader p cksum).length = 20 := rfl

theorem wordSum_icmpIpHeader (p : IcmpPacket Ipv4Addr) :
    endAround (wordSum (icmpIpHeader p (ipv4Checksum (icmpIpHeader p 0)))) = 65535 := by
  have key : ∀ x, wordSum (icmpIpHeader p x) = wordSum ((icmpIpHeader p 0).take 10) +
      wordSum (p.srcIp.octets ++ p.dstIp.octets) + x.toNat :=
    fun x => wordSum_field (a := (icmpIpHeader p 0).take 10) x (p.srcIp.octets ++ p.dstIp.octets)
      (show 10 % 2 = 0 from rfl)
  have hle : wordSum (icmpIpHeader p 0) ≤ 65535 * ((20 + 1) / 2) := wordSum_le (icmpIpHeader p 0)
  have hzero := key 0
  rw [UInt16.toNat_zero, Nat.add_zero] at hzero
  rw [key, ← hzero, ipv4Checksum, toNat_onesComplement (by omega), endAround_add_complement]

theorem buildIcmpFrame_eq (p : IcmpPacket Ipv4Addr) : buildIcmpFrame p = controlEth p.dstMac p.srcMac 0x0800 ++
    (icmpIpHeader p (ipv4Checksum (icmpIpHeader p 0)) ++ p.message (icmpChecksum (p.message 0))) := by
  simp only [buildIcmpFrame, controlEth, List.append_assoc]

theorem drop_buildIcmpFrame (p : IcmpPacket Ipv4Addr) : (buildIcmpFrame p).drop 42 = p.payload := by
  have he := length_controlEth p.dstMac p.srcMac 0x0800
  rw [buildIcmpFrame_eq, ← List.drop_drop (i := 28) (j := 14), List.drop_left' he]
  rfl

theorem says4_buildIcmpFrame (p : IcmpPacket Ipv4Addr) (hlen : 28 + p.payload.length < 65536) :
    Says4 (buildIcmpFrame p) p := by
  have he := length_controlEth p.dstMac p.srcMac 0x0800
  have hdata := drop_buildIcmpFrame p
  rw [buildIcmpFrame_eq] at hdata ⊢
  generalize hcksum : icmpChecksum (p.message 0) = cksum at hdata ⊢
  generalize hip : ipv4Checksum (icmpIpHeader p 0) = ipCksum at hdata ⊢
  obtain ⟨hdst, hsrc, htype⟩ := controlEth_fields p.dstMac p.srcMac 0x0800 (icmpIpHeader p ipCksum ++ p.message cksum)
  have hbyte : ∀ k, byteAt (controlEth p.dstMac p.srcMac 0x0800 ++ (icmpIpHeader p ipCksum ++ p.message cksum)) (14 + k) =
      byteAt (icmpIpHeader p ipCksum ++ p.message cksum) k := fun k => he ▸ byteAt_append_right _ _ k
  have hword : ∀ k, be16At (controlEth p.dstMac p.srcMac 0x0800 ++ (icmpIpHeader p ipCksum ++ p.message cksum)) (14 + k) =
      be16At (icmpIpHeader p ipCksum ++ p.message cksum) k := fun k => he ▸ be16At_append_right _ _ k
  have hheader : ipHeaderLenAt (controlEth p.dstMac p.srcMac 0x0800 ++ (icmpIpHeader p ipCksum ++ p.message cksum)) 14 =
      20 := by
    have h0 : byteAt (controlEth p.dstMac p.srcMac 0x0800 ++ (icmpIpHeader p ipCksum ++ p.message cksum)) 14 = 0x45 :=
      hbyte 0
    rw [ipHeaderLenAt, h0]
    rfl
  have hsize : (controlEth p.dstMac p.srcMac 0x0800 ++ (icmpIpHeader p ipCksum ++ p.message cksum)).length =
      14 + (20 + (8 + p.payload.length)) := by
    rw [List.length_append, List.length_append, he, p.length_message]
    rfl
  have htotal : be16At (icmpIpHeader p ipCksum ++ p.message cksum) 2 = UInt16.ofNat (20 + 8 + p.payload.length) :=
    be16At_field (a := [0x45, 0x00]) rfl
  refine ⟨hdst, hsrc, htype, hbyte 0, ?_, hbyte 9, ?_, ?_, ⟨hbyte 20, hbyte 21⟩, ?_, ?_, hdata, ?_, ?_⟩
  · rw [hword 2, htotal, hsize, UInt16.toNat_ofNat', Nat.mod_eq_of_lt (by omega)]
    omega
  · rw [ipv4At, hbyte 12, hbyte 13, hbyte 14, hbyte 15]
    rfl
  · rw [ipv4At, hbyte 16, hbyte 17, hbyte 18, hbyte 19]
    rfl
  · rw [hword 24]
    exact be16At_field (a := (icmpIpHeader p ipCksum ++ p.message cksum).take 24) rfl
  · rw [hword 26]
    exact be16At_field (a := (icmpIpHeader p ipCksum ++ p.message cksum).take 26) rfl
  · rw [Ipv4HeaderValid, hheader, hsize, slice_append he.symm (length_icmpIpHeader p ipCksum).symm, ← hip]
    exact ⟨Nat.le_refl _, by omega, wordSum_icmpIpHeader p⟩
  · rw [← List.append_assoc, List.drop_left' (by rw [List.length_append, he]; rfl), ← hcksum]
    exact p.message_valid (by omega)

/-- The IPv6 header of an ICMPv6 packet, up to its addresses. -/
def icmpIp6Start (p : IcmpPacket Ipv6Addr) : List UInt8 :=
  [0x60, 0x00, 0x00, 0x00] ++ (beBytes16 (UInt16.ofNat (8 + p.payload.length)) ++ [58, p.ttl])

def icmp6Front (p : IcmpPacket Ipv6Addr) : List UInt8 :=
  controlEth p.dstMac p.srcMac 0x86DD ++ (icmpIp6Start p ++ (Ipv6Addr.octets p.srcIp ++ Ipv6Addr.octets p.dstIp))

theorem length_icmp6Front (p : IcmpPacket Ipv6Addr) : (icmp6Front p).length = 54 := by
  rw [icmp6Front, List.length_append, List.length_append, List.length_append, length_controlEth, Ipv6Addr.length_octets,
    Ipv6Addr.length_octets]
  rfl

theorem buildIcmpv6Frame_eq (p : IcmpPacket Ipv6Addr) :
    buildIcmpv6Frame p = icmp6Front p ++ p.message (icmpv6Checksum p.srcIp p.dstIp (p.message 0)) := by
  simp only [buildIcmpv6Frame, icmp6Front, icmpIp6Start, controlEth, List.append_assoc]

theorem drop_buildIcmpv6Frame (p : IcmpPacket Ipv6Addr) : (buildIcmpv6Frame p).drop 62 = p.payload := by
  rw [buildIcmpv6Frame_eq, ← List.drop_drop (i := 8) (j := 54), List.drop_left' (length_icmp6Front p)]
  rfl

theorem says6_buildIcmpv6Frame (p : IcmpPacket Ipv6Addr) (hlen : 8 + p.payload.length < 65536) :
    Says6 (buildIcmpv6Frame p) p := by
  have hfront := length_icmp6Front p
  have hdata := drop_buildIcmpv6Frame p
  rw [buildIcmpv6Frame_eq] at hdata ⊢
  generalize hcksum : icmpv6Checksum p.srcIp p.dstIp (p.message 0) = cksum at hdata ⊢
  have he := length_controlEth p.dstMac p.srcMac 0x86DD
  have hframe : icmp6Front p ++ p.message cksum = controlEth p.dstMac p.srcMac 0x86DD ++ (icmpIp6Start p ++
      (Ipv6Addr.octets p.srcIp ++ (Ipv6Addr.octets p.dstIp ++ p.message cksum))) := by
    simp only [icmp6Front, List.append_assoc]
  have hsize : (icmp6Front p ++ p.message cksum).length = 54 + (8 + p.payload.length) := by
    rw [List.length_append, hfront, p.length_message]
  obtain ⟨hdst, hsrc, htype⟩ := controlEth_fields p.dstMac p.srcMac 0x86DD (icmpIp6Start p ++
    (Ipv6Addr.octets p.srcIp ++ (Ipv6Addr.octets p.dstIp ++ p.message cksum)))
  have hip : ∀ k, byteAt (icmp6Front p ++ p.message cksum) (14 + k) = byteAt (icmpIp6Start p ++
      (Ipv6Addr.octets p.srcIp ++ (Ipv6Addr.octets p.dstIp ++ p.message cksum))) k :=
    fun k => hframe ▸ he ▸ byteAt_append_right _ _ k
  have htotal : be16At (icmp6Front p ++ p.message cksum) 18 = UInt16.ofNat (8 + p.payload.length) := by
    rw [hframe, icmpIp6Start, List.append_assoc, List.append_assoc, ← List.append_assoc (controlEth _ _ _)]
    exact be16At_field (by rw [List.length_append, he]; rfl)
  have hbyte : ∀ k, byteAt (icmp6Front p ++ p.message cksum) (54 + k) = byteAt (p.message cksum) k :=
    fun k => hfront ▸ byteAt_append_right _ _ k
  have hword : ∀ k, be16At (icmp6Front p ++ p.message cksum) (54 + k) = be16At (p.message cksum) k :=
    fun k => hfront ▸ be16At_append_right _ _ k
  have hsrcAt : ((icmp6Front p ++ p.message cksum).drop 22).take 16 = Ipv6Addr.octets p.srcIp := by
    rw [hframe, ← List.append_assoc]
    exact slice_append (by rw [List.length_append, he]; rfl) (Ipv6Addr.length_octets _).symm
  have hdstAt : ((icmp6Front p ++ p.message cksum).drop 38).take 16 = Ipv6Addr.octets p.dstIp := by
    rw [hframe, ← List.append_assoc, ← List.append_assoc]
    exact slice_append (by rw [List.length_append, List.length_append, he, Ipv6Addr.length_octets]; rfl)
      (Ipv6Addr.length_octets _).symm
  rw [← hframe] at hdst hsrc htype
  have hversion : byteAt (icmp6Front p ++ p.message cksum) 14 = 0x60 := hip 0
  refine ⟨hdst, hsrc, htype, by rw [hversion]; rfl, ?_, hip 6, ?_, ?_, ⟨hbyte 0, hbyte 1⟩, ?_, ?_, hdata, ?_⟩
  · rw [htotal, hsize, UInt16.toNat_ofNat', Nat.mod_eq_of_lt hlen]
    omega
  · rw [ipv6At, hsrcAt, Ipv6Addr.ofOctets_octets]
  · rw [ipv6At, hdstAt, Ipv6Addr.ofOctets_octets]
  · rw [hword 4]
    exact be16At_field (a := (p.message cksum).take 4) rfl
  · rw [hword 6]
    exact be16At_field (a := (p.message cksum).take 6) rfl
  · rw [List.drop_left' hfront, hsize, Nat.add_sub_cancel_left, ← hcksum]
    exact p.message6_valid hlen

/-! ## Requests -/

structure Ipv4Header where
  bytes : List UInt8
  version : byteAt bytes 0 >>> 4 &&& 0x0F = 4
  length_min : 20 ≤ bytes.length
  length_eq : ipHeaderLenAt bytes 0 = bytes.length

structure Echo where
  checksum : UInt16
  identifier : UInt16
  sequence : UInt16
  data : List UInt8

namespace Echo
variable (self : Echo)

def message (icmpType : UInt8) : List UInt8 :=
  [icmpType, 0] ++ (beBytes16 self.checksum ++ (beBytes16 self.identifier ++ (beBytes16 self.sequence ++ self.data)))

def answer {Ip : Type} (srcMac dstMac : MacAddr) (srcIp dstIp : Ip) (icmpType : UInt8) : IcmpPacket Ip :=
  { srcMac, dstMac, srcIp, dstIp, ttl := 64, icmpType, icmpCode := 0, checksum := 0, identifier := self.identifier
    sequence := self.sequence, payload := self.data }

/-- The message as a parser takes it that reads on to the end of the frame. -/
def padded (padding : List UInt8) : Echo := { self with data := self.data ++ padding }

theorem message_append (icmpType : UInt8) (padding : List UInt8) :
    self.message icmpType ++ padding = (self.padded padding).message icmpType := by
  simp only [message, padded, List.append_assoc]

theorem length_message_ge (icmpType : UInt8) : 8 ≤ (self.message icmpType).length := by
  simp only [message, List.length_append, List.length_cons, length_beBytes16]
  omega

end Echo

theorem icmpPacketAt_echo {Ip : Type} (front : List UInt8) (echo : Echo) (icmpType : UInt8) (srcIp dstIp : Ip)
    (ttl : UInt8) : icmpPacketAt (front ++ echo.message icmpType) front.length srcIp dstIp ttl =
      { srcMac := macAt (front ++ echo.message icmpType) 6, dstMac := macAt (front ++ echo.message icmpType) 0, srcIp
        dstIp, ttl, icmpType, icmpCode := 0, checksum := echo.checksum, identifier := echo.identifier
        sequence := echo.sequence, payload := echo.data } := by
  have htype : byteAt (front ++ echo.message icmpType) front.length = icmpType := byteAt_append_right _ _ 0
  have hcode : byteAt (front ++ echo.message icmpType) (front.length + 1) = 0 := byteAt_append_right _ _ 1
  have hword := be16At_append_right front (echo.message icmpType)
  have hchecksum : be16At (echo.message icmpType) 2 = echo.checksum := be16At_field (a := [icmpType, 0]) rfl
  have hidentifier : be16At (echo.message icmpType) 4 = echo.identifier :=
    be16At_field (a := [icmpType, 0] ++ beBytes16 echo.checksum) rfl
  have hsequence : be16At (echo.message icmpType) 6 = echo.sequence :=
    be16At_field (a := [icmpType, 0] ++ beBytes16 echo.checksum ++ beBytes16 echo.identifier) rfl
  have hdata : (front ++ echo.message icmpType).drop (front.length + 8) = echo.data := by
    rw [← List.drop_drop, List.drop_left]
    rfl
  rw [icmpPacketAt, htype, hcode, hword 2, hword 4, hword 6, hchecksum, hidentifier, hsequence, hdata]

/-- An ICMP echo request in a frame that may be padded. -/
structure EchoRequest4 where
  eth : EthHeader 0x0800
  ip : Ipv4Header
  protocol : byteAt ip.bytes 9 = 1
  echo : Echo
  total : (be16At ip.bytes 2).toNat = ip.bytes.length + (8 + echo.data.length)
  padding : List UInt8

/-- An ICMPv6 echo request behind any extension headers. -/
structure EchoRequest6 where
  eth : EthHeader 0x86DD
  ip : Ipv6Fixed
  version : ip.version = 6
  exts : List ExtHeader
  echo : Echo
  total : (be16At ip.before 4).toNat = (chainBytes 58 exts).length + (8 + echo.data.length)
  padding : List UInt8

namespace EchoRequest4
variable (self : EchoRequest4)

def frame : List UInt8 := self.eth.bytes ++ (self.ip.bytes ++ (self.echo.message 8 ++ self.padding))

def srcIp : Ipv4Addr := ipv4At self.ip.bytes 12

def dstIp : Ipv4Addr := ipv4At self.ip.bytes 16

def reply (localMac : MacAddr) : IcmpPacket Ipv4Addr :=
  self.echo.answer localMac (macAt self.eth.bytes 6) self.dstIp self.srcIp 0

end EchoRequest4

namespace EchoRequest6
variable (self : EchoRequest6)

def frame : List UInt8 := self.eth.bytes ++ self.ip.packet self.exts 58 (self.echo.message 128 ++ self.padding)

def reply (localMac : MacAddr) : IcmpPacket Ipv6Addr :=
  self.echo.answer localMac (macAt self.eth.bytes 6) self.ip.dstIp self.ip.srcIp 129

end EchoRequest6

/-! ## Replies -/

theorem processIcmpFull_echo (handler : Handler Ipv4Addr) (r : EchoRequest4) (hlocal : r.dstIp ∈ handler.localIps) :
    handler.processIcmpFull r.frame = some (.reply (buildIcmpFrame ((r.echo.padded r.padding).answer handler.localMac
      (macAt r.eth.bytes 6) r.dstIp r.srcIp 0))) := by
  have hmin := r.ip.length_min
  have hmsg := (r.echo.padded r.padding).length_message_ge 8
  have hframe : r.frame = r.eth.bytes ++ (r.ip.bytes ++ (r.echo.padded r.padding).message 8) := by
    rw [EchoRequest4.frame, r.echo.message_append]
  have hlayout := layoutOf_extend (r.ip.bytes ++ (r.echo.padded r.padding).message 8) r.eth.detected
  have hmac := r.eth.srcMac_extend (r.ip.bytes ++ (r.echo.padded r.padding).message 8)
  have hbyte : ∀ k < 20, byteAt (r.eth.bytes ++ (r.ip.bytes ++ (r.echo.padded r.padding).message 8))
      (r.eth.bytes.length + k) = byteAt r.ip.bytes k := by
    intro k hk
    rw [byteAt_append_right, byteAt_append_left _ (by omega)]
  have hversion := hbyte 0 (by decide)
  rw [Nat.add_zero] at hversion
  have hheader : ipHeaderLenAt (r.eth.bytes ++ (r.ip.bytes ++ (r.echo.padded r.padding).message 8)) r.eth.bytes.length =
      r.ip.bytes.length := by
    rw [ipHeaderLenAt, hversion]
    exact r.ip.length_eq
  have haddr : ∀ i, i + 4 ≤ 20 → ipv4At (r.eth.bytes ++ (r.ip.bytes ++ (r.echo.padded r.padding).message 8))
      (r.eth.bytes.length + i) = ipv4At r.ip.bytes i := by
    intro i hi
    rw [ipv4At, Nat.add_assoc, Nat.add_assoc, Nat.add_assoc, hbyte i (by omega), hbyte (i + 1) (by omega),
      hbyte (i + 2) (by omega), hbyte (i + 3) (by omega), ipv4At]
  have hstart : icmpStart (r.eth.bytes ++ (r.ip.bytes ++ (r.echo.padded r.padding).message 8)) r.eth.bytes.length =
      some (r.eth.bytes.length + r.ip.bytes.length) := by
    rw [icmpStart, hversion, hheader, hbyte 9 (by decide), if_neg (not_not.2 r.ip.version), if_neg (by omega),
      if_neg (not_not.2 r.protocol)]
  have hparse := icmpPacketAt_echo (r.eth.bytes ++ r.ip.bytes) (r.echo.padded r.padding) 8 r.srcIp r.dstIp
    (byteAt r.ip.bytes 8)
  rw [List.length_append, List.append_assoc, hmac] at hparse
  have hpacket : parseIcmpPacket r.frame = some (icmpPacketAt
      (r.eth.bytes ++ (r.ip.bytes ++ (r.echo.padded r.padding).message 8)) (r.eth.bytes.length + r.ip.bytes.length)
      r.srcIp r.dstIp (byteAt r.ip.bytes 8)) := by
    rw [hframe, parseIcmpPacket, hlayout]
    dsimp only [Option.bind_eq_bind, Option.bind_some]
    rw [hstart, if_neg (not_not.2 rfl), Option.bind_some, haddr 12 (by decide),
      haddr 16 (by decide), hbyte 8 (by decide)]
    simp only [List.length_append]
    rw [if_neg (by omega), if_neg (by omega)]
    rfl
  rw [Handler.processIcmpFull, Handler.echoReply, hpacket, hparse]
  dsimp only [Option.bind_eq_bind, Option.bind_some]
  rw [if_pos ⟨rfl, hlocal⟩]
  rfl

theorem processIcmpv6Full_echo (handler : Handler Ipv6Addr) (r : EchoRequest6)
    (hlocal : r.ip.dstIp ∈ handler.localIps) :
    handler.processIcmpv6Full r.frame = some (.reply (buildIcmpv6Frame ((r.echo.padded r.padding).answer
      handler.localMac (macAt r.eth.bytes 6) r.ip.dstIp r.ip.srcIp 129))) := by
  have hupper : ¬ IsExtension 58 := by
    unfold IsExtension
    decide
  have hmsg := (r.echo.padded r.padding).length_message_ge 128
  have hframe : r.frame = r.eth.bytes ++ r.ip.packet r.exts 58 ((r.echo.padded r.padding).message 128) := by
    rw [EchoRequest6.frame, r.echo.message_append]
  have hlayout := layoutOf_extend (r.ip.packet r.exts 58 ((r.echo.padded r.padding).message 128)) r.eth.detected
  have hmac := r.eth.srcMac_extend (r.ip.packet r.exts 58 ((r.echo.padded r.padding).message 128))
  have hstart : icmpv6Start (r.eth.bytes ++ r.ip.packet r.exts 58 ((r.echo.padded r.padding).message 128))
      ⟨0x86DD, r.eth.bytes.length, r.eth.tci⟩ = _ := icmpv6Start_packet r.ip r.exts _ hupper rfl rfl
  rw [if_pos ⟨r.version, rfl, hmsg⟩] at hstart
  have hsrc := srcIp_packet r.eth.bytes r.ip r.exts 58 ((r.echo.padded r.padding).message 128)
  have hdst := dstIp_packet r.eth.bytes r.ip r.exts 58 ((r.echo.padded r.padding).message 128)
  obtain ⟨front, hsplit, hfront⟩ := append_packet_split r.eth.bytes r.ip r.exts 58
    ((r.echo.padded r.padding).message 128)
  have htype : byteAt (front ++ (r.echo.padded r.padding).message 128) front.length = 128 := byteAt_append_right _ _ 0
  have hpacket : parseIcmpv6Packet r.frame = some (icmpPacketAt (front ++ (r.echo.padded r.padding).message 128)
      front.length r.ip.srcIp r.ip.dstIp (byteAt (front ++ (r.echo.padded r.padding).message 128)
        (r.eth.bytes.length + 7))) := by
    rw [hframe, parseIcmpv6Packet, hlayout]
    dsimp only [Option.bind_eq_bind, Option.bind_some]
    rw [hstart, Option.bind_some, hsrc, hdst, hsplit, ← hfront, htype, if_neg (fun h => h.1 rfl)]
  rw [Handler.processIcmpv6Full, hpacket, icmpPacketAt_echo, ← hsplit, hmac, Option.bind_some, if_pos ⟨rfl, hlocal⟩]
  rfl

/-- **Echo.** The reply to an echo request for a local address echoes it (identifier, sequence number and data, addresses
swapped, length and checksums in order) exactly if nothing follows the IP packet in the frame. -/
theorem echo_reply_iff (handler : Handler Ipv4Addr) (handler6 : Handler Ipv6Addr) :
    (∀ r : EchoRequest4, r.dstIp ∈ handler.localIps →
      ((∃ frame, handler.processIcmpFull r.frame = some (.reply frame) ∧ Says4 frame (r.reply handler.localMac)) ↔
        r.padding = [])) ∧
    ∀ r : EchoRequest6, r.ip.dstIp ∈ handler6.localIps →
      ((∃ frame, handler6.processIcmpv6Full r.frame = some (.reply frame) ∧ Says6 frame (r.reply handler6.localMac)) ↔
        r.padding = []) := by
  constructor
  · intro r hlocal
    rw [processIcmpFull_echo handler r hlocal]
    constructor
    · rintro ⟨frame, hreply, hsays⟩
      cases hreply
      have hdata := hsays.data
      rw [drop_buildIcmpFrame] at hdata
      exact List.append_right_eq_self.1 hdata
    · intro hpadding
      refine ⟨_, rfl, ?_⟩
      have hsays := says4_buildIcmpFrame (r.reply handler.localMac)
      rw [hpadding, Echo.padded, List.append_nil]
      refine hsays ?_
      -- the length of the request fits into sixteen bits
      have hlen := (be16At r.ip.bytes 2).toNat_lt
      have htotal := r.total
      have hmin := r.ip.length_min
      show 28 + r.echo.data.length < 65536
      omega
  · intro r hlocal
    rw [processIcmpv6Full_echo handler6 r hlocal]
    constructor
    · rintro ⟨frame, hreply, hsays⟩
      cases hreply
      have hdata := hsays.data
      rw [drop_buildIcmpv6Frame] at hdata
      exact List.append_right_eq_self.1 hdata
    · intro hpadding
      refine ⟨_, rfl, ?_⟩
      have hsays := says6_buildIcmpv6Frame (r.reply handler6.localMac)
      rw [hpadding, Echo.padded, List.append_nil]
      refine hsays ?_
      have hlen := (be16At r.ip.before 4).toNat_lt
      have htotal := r.total
      show 8 + r.echo.data.length < 65536
      omega

def sampleIcmpHandler : Handler Ipv4Addr := { localMac := sampleMac 1, localIps := [⟨192, 0, 2, 1⟩] }

def samplePing (padding : List UInt8) : EchoRequest4 where
  eth := { bytes := (sampleMac 1).toList ++ (sampleMac 2).toList ++ [0x08, 0x00]
           tci := none
           detected := rfl }
  ip := { bytes := [0x45, 0, 0, 30, 0, 0, 0, 0, 64, 1, 0, 0, 192, 0, 2, 2, 192, 0, 2, 1]
          version := rfl
          length_min := Nat.le_refl 20
          length_eq := rfl }
  protocol := rfl
  echo := { checksum := 0xF0F5, identifier := 1, sequence := 1, data := [7, 8] }
  total := rfl
  padding

def sampleIcmpHandler6 : Handler Ipv6Addr := { localMac := sampleMac 1, localIps := [1] }

/-- Two bytes from the host 2 to the host 1, behind a fragment header. -/
def samplePing6 : EchoRequest6 where
  eth := { bytes := (sampleMac 1).toList ++ (sampleMac 2).toList ++ [0x86, 0xDD]
           tci := none
           detected := rfl }
  ip := { before := [0x60, 0, 0, 0, 0, 18]
          after := 64 :: (List.replicate 15 0 ++ [2] ++ (List.replicate 15 0 ++ [1]))
          length_before := rfl
          length_after := rfl }
  version := rfl
  exts := [.fragment [0, 0, 0, 0, 0, 0, 9] rfl]
  echo := { checksum := 0, identifier := 1, sequence := 1, data := [7, 8] }
  total := rfl
  padding := []

/-- Both requests are echoed. -/
theorem echo_reply_sample :
    (∃ frame, sampleIcmpHandler.processIcmpFull (samplePing []).frame = some (.reply frame) ∧
      Says4 frame ((samplePing []).reply (sampleMac 1))) ∧
    ∃ frame, sampleIcmpHandler6.processIcmpv6Full samplePing6.frame = some (.reply frame) ∧
      Says6 frame (samplePing6.reply (sampleMac 1)) :=
  ⟨((echo_reply_iff sampleIcmpHandler sampleIcmpHandler6).1 (samplePing []) (by decide)).2 rfl,
    ((echo_reply_iff sampleIcmpHandler sampleIcmpHandler6).2 samplePing6 (by decide)).2 rfl⟩

/-- The same request padded to the least length of an Ethernet frame: the reply has the padding at the end of its data. -/
theorem echo_reply_padded :
    let r := samplePing (List.replicate 16 0)
    r.frame.length = 60 ∧ r.echo.data = [7, 8] ∧
      ∃ frame, sampleIcmpHandler.processIcmpFull r.frame = some (.reply frame) ∧
        frame.drop 42 = [7, 8] ++ List.replicate 16 0 ∧ be16At frame 16 = 46 ∧ ¬ Says4 frame (r.reply (sampleMac 1)) := by
  refine ⟨by decide, rfl, _, processIcmpFull_echo _ _ (by decide), by decide +kernel, by decide +kernel, ?_⟩
  intro hsays
  have hdata := hsays.data
  rw [drop_buildIcmpFrame] at hdata
  exact absurd hdata (by decide)

end DpdkStdlib.Udp
