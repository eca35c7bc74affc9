import DpdkStdlib.Udp.Checksum

/-!
# UDP datagrams and the IP packets around them (`lib.rs`, `ipv6.rs`)

An IP header says where its packet ends and whether it is a fragment.  The parsers read neither, so a datagram they
return lies inside its packet exactly when the header fields they skip say so.
-/

namespace DpdkStdlib.Udp
open DpdkStdlib.Lib

variable {frame : List UInt8} {udpStart : Nat} {layout : FrameLayout}

/-! ## Packets -/

/-- An IP packet in a frame, as its header delimits it. -/
structure IpPacket where
  start : Nat
  /-- The least length a header of this version has. -/
  minHeader : Nat
  headerLen : Nat
  /-- Where the length field says that the packet ends. -/
  stop : Nat
  fragment : Bool
deriving DecidableEq

/-- A UDP datagram from `udpStart` to `udpEnd` is the unfragmented content of the packet, inside packet and frame. -/
structure IpPacket.Contains (packet : IpPacket) (frame : List UInt8) (udpStart udpEnd : Nat) : Prop where
  header : packet.minHeader ≤ packet.headerLen
  afterHeader : packet.start + packet.headerLen ≤ udpStart
  inPacket : udpEnd ≤ packet.stop
  inFrame : udpEnd ≤ frame.length
  whole : packet.fragment = false

/-- The packet of an IPv4 frame; MF and the fragment offset are the low 14 bits at 6. -/
def ipv4Packet (frame : List UInt8) (l3 : Nat) : IpPacket where
  start := l3
  minHeader := 20
  headerLen := ipHeaderLenAt frame l3
  stop := l3 + (be16At frame (l3 + 2)).toNat
  fragment := be16At frame (l3 + 6) &&& 0x3FFF != 0

/-- Some fragment header on the chain from `nextHeader` at `offset` has an offset or more fragments to follow. -/
def fragmentLoop (data : List UInt8) : Nat → UInt8 → Nat → Bool
  | 0, _, _ => false
  | fuel + 1, nextHeader, offset =>
    if nextHeader = 0 ∨ nextHeader = 43 ∨ nextHeader = 60 then
      fragmentLoop data fuel (byteAt data offset) (offset + ((byteAt data (offset + 1)).toNat + 1) * 8)
    else if nextHeader = 44 then
      be16At data (offset + 2) &&& 0xFFF9 != 0 || fragmentLoop data fuel (byteAt data offset) (offset + 8)
    else false

def ipv6Packet (frame : List UInt8) (l3 : Nat) : IpPacket where
  start := l3
  minHeader := 40
  headerLen := 40
  stop := l3 + 40 + (be16At frame (l3 + 4)).toNat
  fragment := fragmentLoop (frame.drop l3) (frame.drop l3).length (byteAt frame (l3 + 6)) 40

/-! ## Where payloads come from -/

theorem udpAt_spec {d : UInt16 × UInt16 × List UInt8} (h : udpAt frame udpStart = some d) :
    d.2.2 = (frame.drop (udpStart + 8)).take d.2.2.length ∧ udpStart + 8 + d.2.2.length ≤ frame.length ∧
      8 + d.2.2.length = udpLenAt frame udpStart := by
  unfold udpAt at h
  split_ifs at h with hcond
  obtain rfl := Option.some.inj h
  obtain ⟨hlen, hmin, hfit⟩ := hcond
  dsimp only
  rw [length_slice (by omega)]
  refine ⟨rfl, by omega, ?_⟩
  rw [udpLenAt]
  omega

theorem udpView_spec {p : ParsedUdpPacket Ipv4Addr} (h : udpView frame = some p) :
    ∃ layout ∈ layoutOf frame none, isUdpOverIpv4 frame layout ∧
      udpAt frame (udpStart4 frame layout) = some (p.srcPort, p.dstPort, p.payload) := by
  rw [udpView] at h
  obtain ⟨layout, hlayout, h⟩ := Option.bind_eq_some_iff.1 h
  split_ifs at h with hcond
  obtain ⟨d, hd, rfl⟩ := Option.map_eq_some_iff.1 h
  exact ⟨layout, hlayout, hcond, hd⟩

theorem udpViewRef_spec {p : ParsedUdpPacketRef Ipv4Addr} (h : udpViewRef frame = some p) :
    ∃ layout ∈ layoutOf frame none, isUdpOverIpv4 frame layout ∧
      udpAt frame (udpStart4 frame layout) = some (p.srcPort, p.dstPort, p.payload) ∧
      p.payloadOffset = udpStart4 frame layout + 8 := by
  rw [udpViewRef] at h
  obtain ⟨layout, hlayout, h⟩ := Option.bind_eq_some_iff.1 h
  split_ifs at h with hcond
  obtain ⟨d, hd, rfl⟩ := Option.map_eq_some_iff.1 h
  exact ⟨layout, hlayout, hcond, hd, rfl⟩

theorem udp6View_spec {p : ParsedUdpPacket Ipv6Addr} (h : udp6View frame = some p) :
    ∃ layout ∈ layoutOf frame none, isIpv6 frame layout ∧ ∃ udpStart ∈ udpStart6 frame layout,
      udpAt frame udpStart = some (p.srcPort, p.dstPort, p.payload) := by
  rw [udp6View] at h
  obtain ⟨layout, hlayout, h⟩ := Option.bind_eq_some_iff.1 h
  split_ifs at h with hcond
  obtain ⟨udpStart, hstart, h⟩ := Option.bind_eq_some_iff.1 h
  obtain ⟨d, hd, rfl⟩ := Option.map_eq_some_iff.1 h
  exact ⟨layout, hlayout, hcond, udpStart, hstart, hd⟩

theorem udp6ViewRef_spec {p : ParsedUdpPacketRef Ipv6Addr} (h : udp6ViewRef frame = some p) :
    ∃ layout ∈ layoutOf frame none, isIpv6 frame layout ∧ ∃ udpStart ∈ udpStart6 frame layout,
      udpAt frame udpStart = some (p.srcPort, p.dstPort, p.payload) ∧ p.payloadOffset = udpStart + 8 := by
  rw [udp6ViewRef] at h
  obtain ⟨layout, hlayout, h⟩ := Option.bind_eq_some_iff.1 h
  split_ifs at h with hcond
  obtain ⟨udpStart, hstart, h⟩ := Option.bind_eq_some_iff.1 h
  obtain ⟨d, hd, rfl⟩ := Option.map_eq_some_iff.1 h
  exact ⟨layout, hlayout, hcond, udpStart, hstart, hd, rfl⟩

theorem le_udpStart6 (h : udpStart ∈ udpStart6 frame layout) : layout.l3Offset + 40 ≤ udpStart := by
  obtain ⟨nh, hnh, h⟩ := Option.bind_eq_some_iff.1 h
  split_ifs at h with hproto
  obtain rfl := Option.some.inj h
  exact Nat.add_le_add_left (upperLayer_bounds hnh).1 _

/-! ## Inside the packet -/

/-- The IPv4 fields that the parsers skip: the total length covers the datagram, and nothing is fragmented. -/
def FitsIpv4 (frame : List UInt8) (l3 : Nat) : Prop :=
  ipHeaderLenAt frame l3 + udpLenAt frame (l3 + ipHeaderLenAt frame l3) ≤ (be16At frame (l3 + 2)).toNat ∧
    be16At frame (l3 + 6) &&& 0x3FFF = 0

/-- The IPv6 fields that the parsers skip: the payload length covers the datagram, and nothing is fragmented. -/
def FitsIpv6 (frame : List UInt8) (l3 udpStart : Nat) : Prop :=
  udpStart + udpLenAt frame udpStart ≤ l3 + 40 + (be16At frame (l3 + 4)).toNat ∧
    fragmentLoop (frame.drop l3) (frame.drop l3).length (byteAt frame (l3 + 6)) 40 = false

/-- The payload lies inside the frame; the packet contains it exactly if the skipped fields fit. -/
def WithinIff4 (frame payload : List UInt8) : Prop :=
  ∃ layout ∈ layoutOf frame none, 20 ≤ ipHeaderLenAt frame layout.l3Offset ∧
    udpStart4 frame layout + 8 + payload.length ≤ frame.length ∧
    payload = (frame.drop (udpStart4 frame layout + 8)).take payload.length ∧
    ((ipv4Packet frame layout.l3Offset).Contains frame (udpStart4 frame layout)
        (udpStart4 frame layout + 8 + payload.length) ↔ FitsIpv4 frame layout.l3Offset)

/-- The same for the UDP datagram at the end of the extension headers. -/
def WithinIff6 (frame payload : List UInt8) : Prop :=
  ∃ layout ∈ layoutOf frame none, ∃ udpStart ∈ udpStart6 frame layout,
    udpStart + 8 + payload.length ≤ frame.length ∧ payload = (frame.drop (udpStart + 8)).take payload.length ∧
    ((ipv6Packet frame layout.l3Offset).Contains frame udpStart (udpStart + 8 + payload.length) ↔
      FitsIpv6 frame layout.l3Offset udpStart)

theorem withinIff4_of_udpAt {payload : List UInt8} {srcPort dstPort : UInt16} (hlayout : layout ∈ layoutOf frame none)
    (hip : isUdpOverIpv4 frame layout)
    (hudp : udpAt frame (udpStart4 frame layout) = some (srcPort, dstPort, payload)) : WithinIff4 frame payload := by
  obtain ⟨hpayload, hframe, hlen⟩ := udpAt_spec hudp
  refine ⟨layout, hlayout, hip.2.2.2.1, hframe, hpayload, ?_⟩
  have hstart : udpStart4 frame layout = layout.l3Offset + ipHeaderLenAt frame layout.l3Offset := rfl
  rw [Nat.add_assoc, hlen, hstart]
  constructor
  · rintro ⟨-, -, hpacket, -, hwhole⟩
    refine ⟨?_, by simpa [ipv4Packet] using hwhole⟩
    dsimp only [ipv4Packet] at hpacket
    omega
  · rintro ⟨hfits, hwhole⟩
    refine ⟨hip.2.2.2.1, Nat.le_refl _, ?_, ?_, by simpa [ipv4Packet] using hwhole⟩
    · dsimp only [ipv4Packet]
      omega
    · rw [← hstart, ← hlen]
      omega

theorem withinIff6_of_udpAt {payload : List UInt8} {srcPort dstPort : UInt16} (hlayout : layout ∈ layoutOf frame none)
    (hstart : udpStart ∈ udpStart6 frame layout) (hudp : udpAt frame udpStart = some (srcPort, dstPort, payload)) :
    WithinIff6 frame payload := by
  obtain ⟨hpayload, hframe, hlen⟩ := udpAt_spec hudp
  refine ⟨layout, hlayout, udpStart, hstart, hframe, hpayload, ?_⟩
  dsimp only at hlen hframe
  rw [Nat.add_assoc, hlen]
  constructor
  · rintro ⟨-, -, hpacket, -, hwhole⟩
    exact ⟨hpacket, hwhole⟩
  · rintro ⟨hfits, hwhole⟩
    exact ⟨Nat.le_refl 40, le_udpStart6 hstart, hfits, by omega, hwhole⟩

/-- **Parsers and packets.** No byte string takes a parser or a verifier out of range.  A datagram that a parser returns
lies inside the frame, and is the content of an unfragmented packet exactly when the length and fragment fields of the IP
header, which the parsers skip, say so. -/
theorem parsers_within_packet (frame : List UInt8) :
    ((parseUdpPacket frame).isSome ∧ (parseUdpPacketRef frame).isSome ∧ (parseUdp6Packet frame).isSome ∧
      (parseUdp6PacketRef frame).isSome ∧ (verifyIpv4Checksum frame).isSome ∧ (verifyUdpChecksum frame).isSome ∧
      (verifyUdp6Checksum frame).isSome) ∧
    (∀ p, parseUdpPacket frame = some (some p) → WithinIff4 frame p.payload) ∧
    (∀ p, parseUdpPacketRef frame = some (some p) → WithinIff4 frame p.payload) ∧
    (∀ p, parseUdp6Packet frame = some (some p) → WithinIff6 frame p.payload) ∧
    ∀ p, parseUdp6PacketRef frame = some (some p) → WithinIff6 frame p.payload := by
  rw [parseUdpPacket_eq, parseUdpPacketRef_eq, parseUdp6Packet_eq, parseUdp6PacketRef_eq, verifyIpv4Checksum_eq,
    verifyUdpChecksum_eq, verifyUdp6Checksum_eq]
  refine ⟨⟨rfl, rfl, rfl, rfl, rfl, rfl, rfl⟩, fun p h => ?_, fun p h => ?_, fun p h => ?_, fun p h => ?_⟩
  · obtain ⟨layout, hlayout, hip, hudp⟩ := udpView_spec (Option.some.inj h)
    exact withinIff4_of_udpAt hlayout hip hudp
  · obtain ⟨layout, hlayout, hip, hudp, -⟩ := udpViewRef_spec (Option.some.inj h)
    exact withinIff4_of_udpAt hlayout hip hudp
  · obtain ⟨layout, hlayout, -, udpStart, hstart, hudp⟩ := udp6View_spec (Option.some.inj h)
    exact withinIff6_of_udpAt hlayout hstart hudp
  · obtain ⟨layout, hlayout, -, udpStart, hstart, hudp, -⟩ := udp6ViewRef_spec (Option.some.inj h)
    exact withinIff6_of_udpAt hlayout hstart hudp

/-! ## Outside the packet -/

/-- A UDP datagram of twelve bytes behind an IPv4 header whose total length ends with the UDP header. -/
def shortPacket : List UInt8 :=
  [2, 0, 0, 0, 0, 2, 2, 0, 0, 0, 0, 1, 0x08, 0x00] ++
    [0x45, 0, 0, 28, 0, 0, 0x40, 0, 64, 17, 0x26, 0xcf, 10, 0, 0, 1, 10, 0, 0, 2] ++
    [0x0f, 0xa0, 0x13, 0x88, 0, 12, 0, 0] ++ [1, 2, 3, 4]

def firstFragment : List UInt8 :=
  [2, 0, 0, 0, 0, 2, 2, 0, 0, 0, 0, 1, 0x86, 0xdd] ++ [0x60, 0, 0, 0, 0, 20, 44, 64] ++
    [0xfe, 0x80, 0, 0, 0, 0, 0, 0, 0, 0, 0, 0, 0, 0, 0, 1] ++ [0xfe, 0x80, 0, 0, 0, 0, 0, 0, 0, 0, 0, 0, 0, 0, 0, 2] ++
    [17, 0, 0, 1, 0, 0, 0, 7] ++ [0x0f, 0xa0, 0x13, 0x88, 0, 12, 0, 0] ++ [1, 2, 3, 4]

theorem parsers_within_packet_short : WithinIff4 shortPacket [1, 2, 3, 4] :=
  (parsers_within_packet shortPacket).2.1 _ rfl

/-- Four bytes from behind the packet are payload, and a fragment is taken for a datagram. -/
theorem parsers_beyond_packet :
    (∃ p, parseUdpPacket shortPacket = some (some p) ∧ p.payload = [1, 2, 3, 4] ∧
      verifyIpv4Checksum shortPacket = some true ∧
      ¬ (ipv4Packet shortPacket 14).Contains shortPacket 34 (34 + 8 + p.payload.length)) ∧
    ∃ p, parseUdp6Packet firstFragment = some (some p) ∧ p.payload = [1, 2, 3, 4] ∧
      ¬ (ipv6Packet firstFragment 14).Contains firstFragment 62 (62 + 8 + p.payload.length) := by
  refine ⟨⟨_, rfl, rfl, by decide, fun h => ?_⟩, ⟨_, rfl, rfl, fun h => ?_⟩⟩
  · exact absurd h.inPacket (by decide)
  · exact absurd h.whole (by decide)

end DpdkStdlib.Udp
