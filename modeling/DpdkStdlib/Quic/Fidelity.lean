import DpdkStdlib.Quic.Provider
import DpdkStdlib.Udp.Datagram
import DpdkStdlib.Udp.Roundtrip

/-!
# What the endpoint receives

The event loop looks for the protocol, and the receive queue for the TOS byte, where they are in an untagged frame; the
parser finds them behind a tag as well.
-/

namespace DpdkStdlib.Quic
open DpdkStdlib.Lib DpdkStdlib.Udp

/-! ## Parsing does not go out of range -/

theorem parseToRxDatagram_eq (frame : List UInt8) (localAddr : SocketAddr) :
    parseToRxDatagram frame localAddr = some (rxDatagram frame localAddr) := by
  unfold parseToRxDatagram rxDatagram
  rw [parseUdpPacketRef_eq]
  dsimp only [Option.bind_eq_bind, Option.bind_some]
  cases hparsed : udpViewRef frame with
  | none => rfl
  | some parsed =>
    dsimp only [Option.bind_some]
    by_cases hport : parsed.dstPort = localAddr.port
    · obtain ⟨layout, hlayout, hip, -⟩ := udpViewRef_spec hparsed
      have hlen := hip.1
      rw [if_neg (not_not.2 hport), if_pos hport, getElem?_of_lt (by omega)]
      rfl
    · rw [if_pos hport, if_neg hport]
      rfl

/-! ## Frames -/

/-- A UDP datagram over IPv4 in an Ethernet frame, whatever the fields are that the provider does not look at. -/
structure UdpIpv4Frame extends UdpFrameArgs Ipv4Addr where
  /-- The control information of an 802.1Q tag. -/
  tag : Option UInt16 := none
  tos : UInt8 := 0
  totalLen : UInt16
  identification : UInt16 := 0
  fragment : UInt16 := 0
  headerCksum : UInt16
  options : List UInt8 := []
  udpCksum : UInt16 := 0
  options_words : options.length % 4 = 0 ∧ options.length ≤ 40
  payload_fits : 8 + payload.length < 65536

namespace UdpIpv4Frame
variable (u : UdpIpv4Frame)

/-- The first byte of the IP header: the version, and the length of the header in words. -/
def versionIhl : UInt8 := UInt8.ofNat (0x45 + u.options.length / 4)

def ipHeader : List UInt8 :=
  [u.versionIhl, u.tos] ++ beBytes16 u.totalLen ++ beBytes16 u.identification ++ beBytes16 u.fragment ++ [u.ttl, 17] ++
    beBytes16 u.headerCksum ++ u.srcIp.octets ++ u.dstIp.octets ++ u.options

def bytes : List UInt8 :=
  ethHeader u.toUdpFrameArgs u.tag 0x0800 ++
    (u.ipHeader ++ (udpHeader u.toUdpPacketArgs u.udpCksum ++ u.payload))

def datagram : RxDatagram :=
  { path := ⟨.v4 u.srcIp u.srcPort, .v4 u.dstIp u.dstPort⟩, ecn := extractEcn u.tos, payload := u.payload }

/-- A tagged frame has other bytes where an untagged one has the protocol and the TOS. -/
def Aligned : Prop :=
  ∀ tci ∈ u.tag, UInt8.ofNat u.identification.toNat ≠ 1 ∧ extractEcn (UInt8.ofNat tci.toNat) = extractEcn u.tos

def protocolByte : UInt8 := u.tag.elim 17 fun _ => UInt8.ofNat u.identification.toNat

def tosByte : UInt8 := u.tag.elim u.tos fun tci => UInt8.ofNat tci.toNat

theorem aligned_iff : u.Aligned ↔ u.protocolByte ≠ 1 ∧ extractEcn u.tosByte = extractEcn u.tos := by
  rw [Aligned, protocolByte, tosByte]
  cases u.tag with
  | none => simp
  | some tci => simp

theorem length_ipHeader : u.ipHeader.length = 20 + u.options.length := by
  simp only [ipHeader, List.length_append, length_beBytes16]
  rfl

theorem versionIhl_spec : u.versionIhl >>> 4 &&& 0x0F = 4 ∧ (u.versionIhl &&& 0x0F).toNat * 4 = 20 + u.options.length := by
  obtain ⟨hmod, hle⟩ := u.options_words
  obtain ⟨k, hk⟩ : ∃ k, u.options.length = 4 * k := ⟨u.options.length / 4, by omega⟩
  have hsmall : ∀ k ≤ 10, UInt8.ofNat (0x45 + k) >>> 4 &&& 0x0F = 4 ∧ (UInt8.ofNat (0x45 + k) &&& 0x0F).toNat = 5 + k := by
    decide
  obtain ⟨hversion, hihl⟩ := hsmall k (by omega)
  rw [versionIhl, hk, Nat.mul_div_cancel_left k (by decide)]
  exact ⟨hversion, by omega⟩

variable (padding : List UInt8)

def layout : FrameLayout :=
  { ethertype := 0x0800, l3Offset := (ethHeader u.toUdpFrameArgs u.tag 0x0800).length, vlanTci := u.tag }

theorem bytes_append : u.bytes ++ padding = ethHeader u.toUdpFrameArgs u.tag 0x0800 ++
    (u.ipHeader ++ (udpHeader u.toUdpPacketArgs u.udpCksum ++ (u.payload ++ padding))) := by
  simp only [bytes, List.append_assoc]

theorem layoutOf_bytes : layoutOf (u.bytes ++ padding) none = some u.layout := by
  rw [bytes_append]
  exact layoutOf_ethHeader _ _ _ (by decide)

theorem byteAt_bytes (k : Nat) : byteAt (u.bytes ++ padding) (u.layout.l3Offset + k) =
    byteAt (u.ipHeader ++ (udpHeader u.toUdpPacketArgs u.udpCksum ++ (u.payload ++ padding))) k := by
  rw [bytes_append]
  exact byteAt_append_right _ _ k

theorem byteAt_version : byteAt (u.bytes ++ padding) u.layout.l3Offset = u.versionIhl := u.byteAt_bytes padding 0

theorem udpStart4_bytes : udpStart4 (u.bytes ++ padding) u.layout = u.layout.l3Offset + (20 + u.options.length) := by
  rw [udpStart4, byteAt_version, u.versionIhl_spec.2]

theorem isUdpOverIpv4_bytes : isUdpOverIpv4 (u.bytes ++ padding) u.layout := by
  obtain ⟨hversion, hihl⟩ := u.versionIhl_spec
  refine ⟨?_, rfl, by rw [byteAt_version, hversion], by rw [byteAt_version, hihl]; omega, u.byteAt_bytes padding 9⟩
  rw [bytes_append, List.length_append, List.length_append, List.length_append, length_ipHeader, length_udpHeader, layout]
  dsimp only
  omega

theorem udpViewRef_bytes :
    udpViewRef (u.bytes ++ padding) =
      some { srcMac := u.srcMac, srcIp := u.srcIp, dstIp := u.dstIp, srcPort := u.srcPort, dstPort := u.dstPort
             payload := u.payload, payloadOffset := u.layout.l3Offset + (20 + u.options.length) + 8
             vlanId := u.tag.map (· &&& 0x0FFF) } := by
  have hudp : udpAt (u.bytes ++ padding) (u.layout.l3Offset + (20 + u.options.length)) =
      some (u.srcPort, u.dstPort, u.payload) := by
    rw [bytes_append, ← List.append_assoc]
    refine udpAt_append u.toUdpPacketArgs _ padding ?_ u.payload_fits
    rw [List.length_append, length_ipHeader]
    rfl
  have hmac : macAt (u.bytes ++ padding) 6 = u.srcMac := by
    simp only [bytes, ethHeader, List.append_assoc]
    exact macAt_append _ _ (Vector.length_toList).symm
  have hsrc : ipv4At (u.bytes ++ padding) (u.layout.l3Offset + 12) = u.srcIp := by
    simp only [ipv4At, Nat.add_assoc, byteAt_bytes]
    rfl
  have hdst : ipv4At (u.bytes ++ padding) (u.layout.l3Offset + 16) = u.dstIp := by
    simp only [ipv4At, Nat.add_assoc, byteAt_bytes]
    rfl
  rw [udpViewRef, layoutOf_bytes, Option.bind_some, if_pos (u.isUdpOverIpv4_bytes padding), udpStart4_bytes, hudp, hmac,
    hsrc, hdst]
  rfl

theorem byteAt_protocol : byteAt (u.bytes ++ padding) (14 + 9) = u.protocolByte := by
  have hlen := length_ethHeader u.toUdpFrameArgs u.tag 0x0800
  rw [protocolByte]
  cases htag : u.tag with
  | none =>
    have hl3 : u.layout.l3Offset = 14 := by rw [layout, hlen, htag]; rfl
    rw [← hl3, byteAt_bytes]
    rfl
  | some tci =>
    have hl3 : u.layout.l3Offset = 18 := by rw [layout, hlen, htag]; rfl
    have hfield : byteAt (u.bytes ++ padding) (u.layout.l3Offset + 5) = UInt8.ofNat u.identification.toNat :=
      u.byteAt_bytes padding 5
    rwa [hl3] at hfield

theorem byteAt_tos : byteAt (u.bytes ++ padding) (14 + 1) = u.tosByte := by
  rw [tosByte]
  cases htag : u.tag with
  | none =>
    have hl3 : u.layout.l3Offset = 14 := by rw [layout, length_ethHeader, htag]; rfl
    rw [← hl3, byteAt_bytes]
    rfl
  | some tci =>
    have hmacs : (u.dstMac.toList ++ u.srcMac.toList).length = 12 := by
      rw [List.length_append, Vector.length_toList, Vector.length_toList]
    rw [bytes_append, htag]
    simp only [ethHeader, Option.elim_some, List.append_assoc]
    rw [← List.append_assoc, show 14 + 1 = (u.dstMac.toList ++ u.srcMac.toList).length + 3 by rw [hmacs],
      byteAt_append_right]
    rfl

theorem dispatchFrame_bytes {localAddr : SocketAddr} (icmpHandler : Handler Ipv4Addr)
    (hport : u.dstPort = localAddr.port) :
    dispatchFrame localAddr icmpHandler (u.bytes ++ padding) =
      if u.protocolByte = 1 then .icmp (icmpHandler.processIcmpFull (u.bytes ++ padding))
      else .datagram { u.datagram with ecn := extractEcn u.tosByte } := by
  have hget : (u.bytes ++ padding)[14 + 9]?.getD 0 = u.protocolByte := u.byteAt_protocol padding
  rw [dispatchFrame, hget]
  dsimp only
  rw [rxDatagram, udpViewRef_bytes, Option.bind_some, if_pos hport, byteAt_tos]
  rfl

theorem dispatchFrame_bytes_iff {localAddr : SocketAddr} (icmpHandler : Handler Ipv4Addr)
    (hport : u.dstPort = localAddr.port) :
    dispatchFrame localAddr icmpHandler (u.bytes ++ padding) = .datagram u.datagram ↔ u.Aligned := by
  rw [dispatchFrame_bytes u padding icmpHandler hport, aligned_iff]
  by_cases hicmp : u.protocolByte = 1
  · rw [if_pos hicmp]
    exact ⟨fun h => absurd h (by simp), fun h => absurd hicmp h.1⟩
  · rw [if_neg hicmp]
    refine ⟨fun h => ⟨hicmp, ?_⟩, fun h => by rw [h.2]; rfl⟩
    exact congrArg RxDatagram.ecn (FrameOutcome.datagram.inj h)

end UdpIpv4Frame

/-! ## ICMP -/

def IsIcmp (frame : List UInt8) : Prop :=
  ∃ layout ∈ layoutOf frame none, layout.ethertype = 0x0800 ∧ byteAt frame (layout.l3Offset + 9) = 1
deriving Decidable

theorem dispatchFrame_icmp {frame : List UInt8} (h : IsIcmp frame) (localAddr : SocketAddr)
    (icmpHandler : Handler Ipv4Addr) : (dispatchFrame localAddr icmpHandler frame).datagram? = none := by
  have hview : udpViewRef frame = none := by
    refine Option.eq_none_iff_forall_not_mem.2 fun parsed hparsed => ?_
    obtain ⟨layout, hlayout, -, hproto⟩ := h
    obtain ⟨layout', hlayout', hip, -⟩ := udpViewRef_spec hparsed
    obtain rfl := Option.some.inj (hlayout.symm.trans hlayout')
    exact absurd (hproto.symm.trans hip.2.2.2.2) (by decide)
  rw [dispatchFrame, rxDatagram, hview]
  split <;> rfl

/-! ## Frames for the provider -/

def sampleArgs : UdpFrameArgs Ipv4Addr where
  srcIp := ⟨10, 0, 0, 2⟩
  dstIp := ⟨10, 0, 0, 1⟩
  srcPort := 6000
  dstPort := 4433
  payload := [1, 2, 3]
  ttl := 64
  srcMac := sampleMac 2
  dstMac := sampleMac 1

def sampleHandler : Handler Ipv4Addr := ⟨sampleMac 1, [⟨10, 0, 0, 1⟩]⟩

def optionsFrame : UdpIpv4Frame where
  toUdpFrameArgs := sampleArgs
  tos := 3
  totalLen := 35
  identification := 1
  fragment := 0x4000
  headerCksum := 0x23c2
  options := [1, 1, 1, 1]
  options_words := by decide
  payload_fits := by decide

def taggedFrame (tci identification headerCksum : UInt16) : UdpIpv4Frame where
  toUdpFrameArgs := sampleArgs
  tag := some tci
  totalLen := 31
  identification
  fragment := 0x4000
  headerCksum
  options_words := by decide
  payload_fits := by decide

end DpdkStdlib.Quic
