import DpdkStdlib.Udp.Control
import DpdkStdlib.Udp.LinkHeader
import DpdkStdlib.Udp.Offload

/-!
# Replies on a VLAN (`lib.rs`, `arp.rs`, `icmp.rs`, `ndp.rs`, `icmpv6.rs`)

A socket answers four kinds of requests on its own.  The filter lets a request in by its tag, and the handlers look for
the headers behind the tag, apart from NDP, whose offsets are those of an untagged frame.  The replies are built
without a tag and handed to the card without one, whatever the mode says about transmission.
-/

namespace DpdkStdlib.Udp
open DpdkStdlib.Lib

/-! ## Requests -/

inductive RequestKind
  | arp
  | echo
  | solicitation
  | echo6
deriving DecidableEq

def SocketConfig.localIp (cfg : SocketConfig) : IpAddr :=
  match cfg.localAddr with
  | .v4 ip _ => .v4 ip
  | .v6 ip _ _ _ => .v6 ip

/-- The ARP packet at `l3` asks for the address. -/
def ArpRequestAt (frame : List UInt8) (l3 : Nat) (ip : IpAddr) : Prop :=
  l3 + 28 ≤ frame.length ∧ be16At frame l3 = 1 ∧ be16At frame (l3 + 2) = 0x0800 ∧ byteAt frame (l3 + 4) = 6 ∧
    byteAt frame (l3 + 5) = 4 ∧ be16At frame (l3 + 6) = 1 ∧ ip = .v4 (ipv4At frame (l3 + 24))
deriving Decidable

/-- The IPv4 packet at `l3` is an echo request to the address. -/
def EchoRequestAt (frame : List UInt8) (l3 : Nat) (ip : IpAddr) : Prop :=
  byteAt frame l3 >>> 4 = 4 ∧ 20 ≤ ipHeaderLenAt frame l3 ∧ l3 + ipHeaderLenAt frame l3 + 8 ≤ frame.length ∧
    byteAt frame (l3 + 9) = 1 ∧ byteAt frame (l3 + ipHeaderLenAt frame l3) = 8 ∧
    byteAt frame (l3 + ipHeaderLenAt frame l3 + 1) = 0 ∧ ip = .v4 (ipv4At frame (l3 + 16))
deriving Decidable

/-- The IPv6 packet at `l3` is a Neighbor Solicitation for the address. -/
def SolicitationAt (frame : List UInt8) (l3 : Nat) (ip : IpAddr) : Prop :=
  l3 + 40 + 24 ≤ frame.length ∧ byteAt frame l3 >>> 4 = 6 ∧ byteAt frame (l3 + 6) = 58 ∧
    byteAt frame (l3 + 7) = 255 ∧ byteAt frame (l3 + 40) = 135 ∧ byteAt frame (l3 + 40 + 1) = 0 ∧
    ip = .v6 (ipv6At frame (l3 + 40 + 8))
deriving Decidable

/-- The IPv6 packet at `l3` is an echo request to the address, behind whatever extension headers. -/
def Echo6RequestAt (frame : List UInt8) (l3 : Nat) (ip : IpAddr) : Prop :=
  byteAt frame l3 >>> 4 = 6 ∧ ∃ nh ∈ upperLayer (frame.drop l3), nh.protocol = 58 ∧
    l3 + nh.payloadOffset + 8 ≤ frame.length ∧ byteAt frame (l3 + nh.payloadOffset) = 128 ∧
    byteAt frame (l3 + nh.payloadOffset + 1) = 0 ∧ ip = .v6 (ipv6At frame (l3 + 24))
deriving Decidable

/-- A request of the given kind for the address of the socket, in a frame with the given layout. -/
def SocketConfig.IsRequest (cfg : SocketConfig) (frame : List UInt8) (layout : FrameLayout) : RequestKind → Prop
  | .arp => layout.ethertype = 0x0806 ∧ ArpRequestAt frame layout.l3Offset cfg.localIp
  | .echo => layout.ethertype = 0x0800 ∧ EchoRequestAt frame layout.l3Offset cfg.localIp
  | .solicitation => layout.ethertype = 0x86DD ∧ SolicitationAt frame layout.l3Offset cfg.localIp
  | .echo6 => layout.ethertype = 0x86DD ∧ Echo6RequestAt frame layout.l3Offset cfg.localIp

instance (cfg : SocketConfig) (frame : List UInt8) (layout : FrameLayout) (kind : RequestKind) :
    Decidable (cfg.IsRequest frame layout kind) :=
  match kind with
  | .arp | .echo | .solicitation | .echo6 => inferInstanceAs (Decidable (_ ∧ _))

/-- Behind a tag, solicitations get lost, and echo requests over IPv6 that look like NDP there. -/
def Answerable (frame : List UInt8) (kind : RequestKind) : Prop :=
  be16At frame 12 = 0x8100 → kind ≠ .solicitation ∧
    (kind = .echo6 → ¬ (byteAt frame 20 = 58 ∧ (byteAt frame 54 = 135 ∨ byteAt frame 54 = 136)))
deriving Decidable

/-! ## Replies -/

def SocketConfig.sendAutoReply (cfg : SocketConfig) (bufCapacity : UInt16) (frame : List UInt8) :
    Option (Except SendError Mbuf) :=
  sendFrameMode cfg.txOffload bufCapacity frame none

/-- The tag of a frame on the wire. -/
def wireTag (frame : List UInt8) : Option UInt16 := (layoutOf frame none).bind (·.vlanTci)

/-- The tag that the mode prescribes for transmission. -/
def VlanConfig.txTag (vlan : VlanConfig) : Option UInt16 := if vlan.tagsOnTx then some vlan.encodeTci else none

/-- One reply is added, and whatever buffer has room for it, it leaves the card with the given tag. -/
def SocketConfig.AnswersOnce (cfg : SocketConfig) (tag : Option UInt16) (before after : Poll) : Prop :=
  ∃ reply, after.replies = before.replies ++ [reply] ∧
    ∀ bufCapacity : UInt16, reply.length ≤ bufCapacity.toNat →
      ∃ m, cfg.sendAutoReply bufCapacity reply = some (.ok m) ∧ wireTag (nicTransmit m) = tag

/-! ## Replies carry no tag -/

theorem take_of_writeAt {b b' bs : List UInt8} {off n : Nat} (h : writeAt b off bs = some b') (hn : n ≤ off) :
    b'.take n = b.take n := by
  refine List.ext_getElem? fun i => ?_
  rw [List.getElem?_take, List.getElem?_take]
  split_ifs with hi
  · exact getElem?_of_writeAt h (.inl (by omega))
  · rfl

theorem take_patch16 {data : List UInt8} {i n : Nat} (x : UInt16) (hi : n ≤ i) (hlen : n ≤ data.length) :
    (patch16 data i x).take n = data.take n := by
  rw [patch16, List.append_assoc, List.take_append_of_le_length (by rw [List.length_take]; omega), List.take_take,
    Nat.min_eq_left hi]

theorem length_patch16_ge {data : List UInt8} {i n : Nat} (x : UInt16) (hi : n ≤ i) (hlen : n ≤ data.length) :
    n ≤ (patch16 data i x).length := by
  rw [patch16, List.length_append, List.length_append, List.length_take]
  omega

theorem take_of_seedUdpCksum {data data' : List UInt8} (h : seedUdpCksum data = some data') :
    data'.take 14 = data.take 14 := by
  obtain ⟨srcIp, -, h⟩ := Option.bind_eq_some_iff.1 h
  obtain ⟨dstIp, -, h⟩ := Option.bind_eq_some_iff.1 h
  obtain ⟨udpLen, -, h⟩ := Option.bind_eq_some_iff.1 h
  exact take_of_writeAt h (by decide)

theorem take_of_seedUdp6Cksum {data data' : List UInt8} (h : seedUdp6Cksum data = some data') :
    data'.take 14 = data.take 14 := by
  obtain ⟨srcIp, -, h⟩ := Option.bind_eq_some_iff.1 h
  obtain ⟨dstIp, -, h⟩ := Option.bind_eq_some_iff.1 h
  obtain ⟨udpLen, -, h⟩ := Option.bind_eq_some_iff.1 h
  exact take_of_writeAt h (by decide)

/-- What the offload leaves to the card: the Ethernet header, no tag, and the header lengths. -/
structure HeaderKept (frame : List UInt8) (flags : UInt64) (l3Len : Nat) (data : List UInt8) : Prop where
  take_eq : data.take 14 = frame.take 14
  noTag : flags &&& mbufTxVlan = 0
  lens : flags = 0 ∨ 0 < l3Len

theorem headerKept_self (frame : List UInt8) : HeaderKept frame 0 0 frame := ⟨rfl, rfl, .inl rfl⟩

theorem headerKept_offloadIpv4 {txOffload flags : UInt64} {frame data : List UInt8} {l3Len : Nat}
    (h : offloadIpv4 txOffload frame = some (flags, l3Len, data)) : HeaderKept frame flags l3Len data := by
  revert h
  unfold offloadIpv4
  cases (txOffload &&& txOffloadIpv4Cksum != 0) <;> cases (txOffload &&& txOffloadUdpCksum != 0) <;> intro h
  · cases h
    exact headerKept_self frame
  · obtain ⟨seeded, hseeded, h⟩ := Option.bind_eq_some_iff.1 h
    cases h
    exact ⟨take_of_seedUdpCksum hseeded, by decide, .inr (by decide)⟩
  · obtain ⟨zeroed, hzeroed, h⟩ := Option.bind_eq_some_iff.1 h
    cases h
    exact ⟨take_of_writeAt hzeroed (by decide), by decide, .inr (by decide)⟩
  · obtain ⟨zeroed, hzeroed, h⟩ := Option.bind_eq_some_iff.1 h
    obtain ⟨seeded, hseeded, h⟩ := Option.bind_eq_some_iff.1 h
    cases h
    exact ⟨(take_of_seedUdpCksum hseeded).trans (take_of_writeAt hzeroed (by decide)), by decide, .inr (by decide)⟩

theorem headerKept_offloadIpv6 {txOffload flags : UInt64} {frame data : List UInt8} {l3Len : Nat}
    (h : offloadIpv6 txOffload frame = some (flags, l3Len, data)) : HeaderKept frame flags l3Len data := by
  revert h
  unfold offloadIpv6
  cases (txOffload &&& txOffloadUdpCksum != 0) <;> intro h
  · cases h
    exact headerKept_self frame
  · obtain ⟨seeded, hseeded, h⟩ := Option.bind_eq_some_iff.1 h
    cases h
    exact ⟨take_of_seedUdp6Cksum hseeded, by decide, .inr (by decide)⟩

theorem headerKept_offloadChecksums {txOffload flags : UInt64} {frame data : List UInt8} {l3Len : Nat}
    (h : offloadChecksums txOffload frame = some (flags, l3Len, data)) : HeaderKept frame flags l3Len data := by
  unfold offloadChecksums at h
  split_ifs at h
  · obtain ⟨ethertype, -, h⟩ := Option.bind_eq_some_iff.1 h
    split_ifs at h
    · exact headerKept_offloadIpv4 h
    · exact headerKept_offloadIpv6 h
    · cases h
      exact headerKept_self frame
  · cases h
    exact headerKept_self frame

theorem take_nicTransmit {m : Mbuf} (htag : m.olFlags &&& mbufTxVlan = 0) (hl2 : m.olFlags = 0 ∨ 14 ≤ m.l2Len)
    (hlen : 14 ≤ m.data.length) : (nicTransmit m).take 14 = m.data.take 14 := by
  rcases hl2 with hflags | hl2
  · simp only [nicTransmit, nicVlanInsert, nicUdpCksum, nicIpCksum, hflags]
    rfl
  have hip : (nicIpCksum m m.data).take 14 = m.data.take 14 ∧ 14 ≤ (nicIpCksum m m.data).length := by
    unfold nicIpCksum
    split_ifs
    · exact ⟨take_patch16 _ (by omega) hlen, length_patch16_ge _ (by omega) hlen⟩
    · exact ⟨rfl, hlen⟩
  rw [nicTransmit, nicVlanInsert, if_neg (not_not.2 htag), nicUdpCksum]
  split_ifs
  · exact (take_patch16 _ (by omega) hip.2).trans hip.1
  · exact hip.1

theorem exists_offloadChecksums (c : ControlFrame) (txOffload : UInt64) : ∃ flags l3Len data,
    offloadChecksums txOffload c.bytes = some (flags, l3Len, data) := by
  by_cases hudp : txOffload &&& txOffloadUdpCksum = 0
  · obtain ⟨flags, l3Len, data, h, -⟩ := leftAlone_of_no_udpCksum c hudp
    exact ⟨flags, l3Len, data, h⟩
  by_cases harp : c.ethertype = 0x0806
  · exact ⟨0, 0, c.bytes, offloadChecksums_arp c txOffload harp⟩
  · obtain ⟨flags, l3Len, data, h, -⟩ := offloadChecksums_seeds c harp hudp
    exact ⟨flags, l3Len, data, h⟩

theorem be16At_of_take {a b : List UInt8} (h : a.take 14 = b.take 14) (ha : 14 ≤ a.length) (hb : 14 ≤ b.length) :
    be16At a 12 = be16At b 12 := by
  have htake (l : List UInt8) (hl : 14 ≤ l.length) : be16At l 12 = be16At (l.take 14) 12 := by
    conv_lhs => rw [← List.take_append_drop 14 l]
    exact be16At_append_left _ (by rw [List.length_take]; omega)
  rw [htake a ha, htake b hb, h]

/-- **No tag.** A control frame leaves the card as it was built, without a tag. -/
theorem sendAutoReply_control (cfg : SocketConfig) (c : ControlFrame) {bufCapacity : UInt16}
    (hfits : c.bytes.length ≤ bufCapacity.toNat) :
    ∃ m, cfg.sendAutoReply bufCapacity c.bytes = some (.ok m) ∧ wireTag (nicTransmit m) = none := by
  have hlen := c.le_length
  obtain ⟨flags, l3Len, data, hoffload⟩ := exists_offloadChecksums c cfg.txOffload
  have hkept := headerKept_offloadChecksums hoffload
  have hdata : 14 ≤ data.length := by
    have h := congrArg List.length hkept.take_eq
    rw [List.length_take, List.length_take] at h
    omega
  let m : Mbuf :=
    { data, vlanTci := 0, olFlags := 0 ||| flags, l2Len := if l3Len > 0 then 14 else 0, l3Len
      l4Len := if l3Len > 0 then 8 else 0 }
  have hm : cfg.sendAutoReply bufCapacity c.bytes = some (.ok m) := by
    rw [SocketConfig.sendAutoReply, sendFrameMode, if_neg (by omega), hoffload]
    rfl
  have hflags : m.olFlags = flags := UInt64.zero_or
  have htake : (nicTransmit m).take 14 = c.bytes.take 14 := by
    refine (take_nicTransmit (hflags ▸ hkept.noTag) ?_ hdata).trans hkept.take_eq
    refine hkept.lens.imp hflags.trans fun hl3 => ?_
    change 14 ≤ if l3Len > 0 then 14 else 0
    rw [if_pos hl3]
  have hwire : 14 ≤ (nicTransmit m).length := by
    have h := congrArg List.length htake
    rw [List.length_take, List.length_take] at h
    omega
  have hethertype : be16At (nicTransmit m) 12 ≠ 0x8100 := by
    rw [be16At_of_take htake hwire (by omega), c.be16At_bytes]
    cases c <;> exact of_decide_eq_true rfl
  refine ⟨m, hm, ?_⟩
  rw [wireTag, layoutOf, if_neg (by omega), if_neg hethertype]
  rfl

/-! ## Who answers -/

section Dispatch

variable {cfg : SocketConfig} {frame : List UInt8} {hw : Option UInt16} {layout : FrameLayout}

theorem answerable_of_untagged (kind : RequestKind) (htag : be16At frame 12 ≠ 0x8100) : Answerable frame kind :=
  fun h => absurd h htag

theorem answerable_of_kind {kind : RequestKind} (frame : List UInt8) (h : kind ≠ .solicitation) (h6 : kind ≠ .echo6) :
    Answerable frame kind :=
  fun _ => ⟨h, fun hkind => absurd hkind h6⟩

theorem localIpv4_eq {ip : Ipv4Addr} (h : cfg.localIp = .v4 ip) : cfg.localIpv4 = ip := by
  unfold SocketConfig.localIp at h
  unfold SocketConfig.localIpv4
  cases hlocal : cfg.localAddr <;> rw [hlocal] at h <;> cases h
  rfl

theorem localIpv6_eq {ip : Ipv6Addr} (h : cfg.localIp = .v6 ip) : cfg.localIpv6 = ip := by
  unfold SocketConfig.localIp at h
  unfold SocketConfig.localIpv6
  cases hlocal : cfg.localAddr <;> rw [hlocal] at h <;> cases h
  rfl

theorem processArp_request (hlayout : layoutOf frame hw = some layout) (heth : layout.ethertype = 0x0806)
    (hreq : ArpRequestAt frame layout.l3Offset cfg.localIp) :
    ∃ reply, (cfg.handler4.processArp frame).2 = some reply ∧ reply.length ≤ frame.length := by
  obtain ⟨hlen, hhw, hproto, hhwLen, hprotoLen, hop, hip⟩ := hreq
  have hbounds := layoutOf_bounds hlayout
  unfold Handler.processArp
  rw [parseArpPacket_of_layout hlayout, if_neg (not_not.2 heth), if_neg (not_lt.2 hlen), arpPacketAt,
    if_neg (by rw [hhw, hproto]; decide), if_neg (by rw [hhwLen, hprotoLen]; decide)]
  dsimp only
  rw [if_pos ⟨by rw [ArpPacket.isRequest, hop]; rfl, by rw [← localIpv4_eq hip]; exact List.mem_singleton_self _⟩]
  refine ⟨_, rfl, ?_⟩
  rw [buildArpReply, buildArpFrame]
  simp only [List.length_append, Vector.length_toList, length_beBytes16, Ipv4Addr.length_octets, List.length_cons,
    List.length_nil]
  omega

theorem echoReply_request (hlayout : layoutOf frame hw = some layout) (heth : layout.ethertype = 0x0800)
    (hreq : EchoRequestAt frame layout.l3Offset cfg.localIp) :
    ∃ reply, cfg.handler4.echoReply frame = some reply ∧ reply.length ≤ frame.length := by
  obtain ⟨hversion, hihl, hlen, hproto, htype, hcode, hip⟩ := hreq
  obtain ⟨layout', hlayout', heth', hl3⟩ := layoutOf_none hlayout
  have hbounds := layoutOf_bounds hlayout
  have hmask : byteAt frame layout.l3Offset >>> 4 &&& 0x0F = 4 := by rw [hversion]; rfl
  have hparse : parseIcmpPacket frame = some (icmpPacketAt frame (layout.l3Offset + ipHeaderLenAt frame layout.l3Offset)
      (ipv4At frame (layout.l3Offset + 12)) (ipv4At frame (layout.l3Offset + 16))
      (byteAt frame (layout.l3Offset + 8))) := by
    unfold parseIcmpPacket
    rw [hlayout']
    dsimp only [Option.bind_eq_bind, Option.bind_some]
    rw [heth', hl3, if_neg (not_not.2 heth), if_neg (by omega), icmpStart, if_neg (not_not.2 hmask),
      if_neg (by omega), if_neg (not_not.2 hproto)]
    dsimp only [Option.bind_some]
    rw [if_neg (by omega)]
  have hecho : (icmpPacketAt frame (layout.l3Offset + ipHeaderLenAt frame layout.l3Offset)
      (ipv4At frame (layout.l3Offset + 12)) (ipv4At frame (layout.l3Offset + 16))
      (byteAt frame (layout.l3Offset + 8))).isEchoRequest := by
    rw [IcmpPacket.isEchoRequest, icmpPacketAt, htype, hcode]
    rfl
  have hdst : ipv4At frame (layout.l3Offset + 16) ∈ cfg.handler4.localIps := by
    rw [← localIpv4_eq hip]
    exact List.mem_singleton_self _
  unfold Handler.echoReply
  rw [hparse]
  dsimp only [Option.bind_eq_bind, Option.bind_some]
  rw [if_pos ⟨hecho, hdst⟩]
  refine ⟨_, rfl, ?_⟩
  rw [buildIcmpFrame, icmpIpHeader, IcmpPacket.message]
  simp only [IcmpPacket.makeEchoReply, icmpPacketAt, List.length_append, Vector.length_toList, length_beBytes16,
    Ipv4Addr.length_octets, List.length_cons, List.length_nil, List.length_drop]
  omega

theorem parseNdpPacket_tagged (htag : be16At frame 12 = 0x8100) : parseNdpPacket frame = none := by
  unfold parseNdpPacket
  split_ifs with h1 h2
  all_goals first
    | rfl
    | exact absurd (htag.symm.trans (not_not.1 h2)) (by decide)

theorem processNdp_tagged (htag : be16At frame 12 = 0x8100) : (cfg.handler6.processNdp frame).2 = none := by
  rw [Handler.processNdp, parseNdpPacket_tagged htag]

theorem processNdp_request (heth : be16At frame 12 = 0x86DD) (hreq : SolicitationAt frame 14 cfg.localIp) :
    ∃ reply, (cfg.handler6.processNdp frame).2 = some reply ∧ reply.length = 86 := by
  obtain ⟨hlen, hversion, hnext, hhop, htype, hcode, hip⟩ := hreq
  unfold Handler.processNdp parseNdpPacket
  rw [if_neg (by omega), if_neg (not_not.2 heth), if_neg (not_not.2 hversion), if_neg (not_not.2 hnext),
    if_neg (not_not.2 hhop)]
  dsimp only
  rw [if_neg (fun h => h.1 htype), if_neg (not_not.2 hcode)]
  dsimp only
  rw [if_pos htype]
  dsimp only
  rw [if_pos (by rw [← localIpv6_eq hip]; exact List.mem_singleton_self _)]
  refine ⟨_, rfl, ?_⟩
  rw [buildNeighborAdvertisement, neighborAdvertisement]
  simp only [List.length_append, Vector.length_toList, length_beBytes16, length_beBytes32, Ipv6Addr.length_octets,
    List.length_cons, List.length_nil]

theorem processIcmpv6Full_request (hlayout : layoutOf frame hw = some layout) (heth : layout.ethertype = 0x86DD)
    (hreq : Echo6RequestAt frame layout.l3Offset cfg.localIp) :
    ∃ reply, cfg.handler6.processIcmpv6Full frame = some (.reply reply) ∧ reply.length ≤ frame.length := by
  obtain ⟨hversion, nh, hnh, hproto, hlen, htype, hcode, hip⟩ := hreq
  obtain ⟨layout', hlayout', heth', hl3⟩ := layoutOf_none hlayout
  have hbounds := layoutOf_bounds hlayout
  have hge := (upperLayer_bounds hnh).1
  have hstart : icmpv6Start frame layout' = some (layout.l3Offset + nh.payloadOffset) := by
    rw [icmpv6Start, heth', hl3, if_neg (not_not.2 heth), if_neg (by omega), if_neg (not_not.2 hversion),
      Option.mem_def.1 hnh]
    dsimp only
    rw [if_neg (not_not.2 hproto), if_neg (by omega)]
  have hparse : parseIcmpv6Packet frame = some (icmpPacketAt frame (layout.l3Offset + nh.payloadOffset)
      (ipv6At frame (layout.l3Offset + 8)) (ipv6At frame (layout.l3Offset + 24))
      (byteAt frame (layout.l3Offset + 7))) := by
    unfold parseIcmpv6Packet
    rw [hlayout']
    dsimp only [Option.bind_eq_bind, Option.bind_some]
    rw [hstart, hl3]
    dsimp only [Option.bind_some]
    rw [if_neg (fun h => h.1 htype)]
  have hecho : (icmpPacketAt frame (layout.l3Offset + nh.payloadOffset) (ipv6At frame (layout.l3Offset + 8))
      (ipv6At frame (layout.l3Offset + 24)) (byteAt frame (layout.l3Offset + 7))).isEcho6Request := by
    rw [IcmpPacket.isEcho6Request, icmpPacketAt, htype, hcode]
    rfl
  have hdst : ipv6At frame (layout.l3Offset + 24) ∈ cfg.handler6.localIps := by
    rw [← localIpv6_eq hip]
    exact List.mem_singleton_self _
  unfold Handler.processIcmpv6Full
  rw [hparse]
  dsimp only [Option.bind_some]
  rw [if_pos ⟨hecho, hdst⟩]
  refine ⟨_, rfl, ?_⟩
  rw [buildIcmpv6Frame, IcmpPacket.message]
  simp only [IcmpPacket.makeEchoReply, icmpPacketAt, List.length_append, Vector.length_toList, length_beBytes16,
    Ipv6Addr.length_octets, List.length_cons, List.length_nil, List.length_drop]
  omega

theorem upperLayer_fixed {l3 : Nat} (hlen : l3 + 40 ≤ frame.length) (hnext : byteAt frame (l3 + 6) = 58) :
    upperLayer (frame.drop l3) = some { protocol := 58, payloadOffset := 40 } := by
  have hbyte : byteAt (frame.drop l3) 6 = 58 := by
    rw [← hnext, byteAt, byteAt, List.getD_eq_getElem?_getD, List.getD_eq_getElem?_getD, List.getElem?_drop]
  rw [upperLayer_of_not_extension (by rw [List.length_drop]; omega) (by rw [hbyte]; decide), hbyte]

theorem processIcmpv6Full_solicitation (hlayout : layoutOf frame hw = some layout)
    (hreq : SolicitationAt frame layout.l3Offset cfg.localIp) (reply : List UInt8) :
    cfg.handler6.processIcmpv6Full frame ≠ some (.reply reply) := by
  obtain ⟨hlen, -, hnext, -, htype, -, -⟩ := hreq
  obtain ⟨layout', hlayout', -, hl3⟩ := layoutOf_none hlayout
  have hparse : parseIcmpv6Packet frame = none := by
    unfold parseIcmpv6Packet
    rw [hlayout']
    dsimp only [Option.bind_eq_bind, Option.bind_some]
    cases hstart : icmpv6Start frame layout' with
    | none => rfl
    | some icmp =>
      have hicmp : icmp = layout.l3Offset + 40 := by
        unfold icmpv6Start at hstart
        dsimp only at hstart
        rw [hl3, upperLayer_fixed (by omega) hnext] at hstart
        dsimp only at hstart
        split_ifs at hstart
        exact (Option.some.inj hstart).symm
      dsimp only [Option.bind_some]
      rw [hicmp, htype]
      rfl
  unfold Handler.processIcmpv6Full
  rw [hparse]
  dsimp only [Option.bind_none]
  split
  · split_ifs <;> exact fun h => by cases h
  · exact fun h => by cases h

theorem looksLikeNdp_echo6 (harp : cfg.autoArp) (hlayout : layoutOf frame hw = some layout)
    (hreq : Echo6RequestAt frame layout.l3Offset cfg.localIp) :
    cfg.looksLikeNdp frame ↔ ¬ Answerable frame .echo6 := by
  obtain ⟨-, nh, hnh, hproto, hlen, htype, -, -⟩ := hreq
  have hge := (upperLayer_bounds hnh).1
  have hbounds := layoutOf_bounds hlayout
  by_cases htag : be16At frame 12 = 0x8100
  · have hlong : frame.length > 14 + 40 := by omega
    constructor
    · rintro ⟨-, -, h⟩ hanswerable
      exact (hanswerable htag).2 rfl h
    · intro h
      exact ⟨harp, hlong, not_not.1 fun hnot => h fun _ => ⟨by decide, fun _ => hnot⟩⟩
  · obtain ⟨rfl, -⟩ := layoutOf_untagged hlayout htag
    refine iff_of_false ?_ (not_not.2 (answerable_of_untagged _ htag))
    rintro ⟨-, -, hnext, htype'⟩
    dsimp only at hnh htype hlen
    rw [Option.mem_def, upperLayer_fixed (by omega) hnext] at hnh
    cases hnh
    rw [htype] at htype'
    exact absurd htype' (by decide)

variable {a : Arrival} (onlyV6 : Bool)

section Accepted

variable (hlayout : layoutOf a.data a.hwVlanTci = some layout) (haccepts : cfg.acceptsVlan layout)
include hlayout haccepts

/-- The reply to ICMPv6, by whether it looks like NDP. -/
theorem reply_ipv6 (heth : layout.ethertype = 0x86DD) (hlen : a.data.length > layout.l3Offset + 40)
    (hicmpv6 : (upperLayer (a.data.drop layout.l3Offset)).any (·.protocol = 58)) :
    (dispatch cfg onlyV6 a).reply =
      if cfg.looksLikeNdp a.data then (cfg.handler6.processNdp a.data).2 else (icmpv6Effect cfg a.data).reply := by
  rw [dispatch_ipv6 hlayout haccepts heth]
  by_cases hndp : cfg.looksLikeNdp a.data
  · rw [if_pos hndp, if_pos hndp]
  · rw [if_neg hndp, if_neg hndp, if_pos ⟨hlen, hicmpv6⟩]

/-- **Who is answered.** A request that the filter lets in gets a reply exactly if it is answerable. -/
theorem reply_request (harp : cfg.autoArp) (hicmp : cfg.autoIcmp) {kind : RequestKind}
    (hreq : cfg.IsRequest a.data layout kind) :
    if Answerable a.data kind then
      ∃ c : ControlFrame, (dispatch cfg onlyV6 a).reply = some c.bytes ∧ c.bytes.length ≤ max 86 a.data.length
    else (dispatch cfg onlyV6 a).reply = none := by
  have hbounds := layoutOf_bounds hlayout
  cases kind with
  | arp =>
    obtain ⟨heth, hreq⟩ := hreq
    obtain ⟨reply, hreply, hlen⟩ := processArp_request hlayout heth hreq
    obtain ⟨c, rfl⟩ := controlFrame_of_processArp hreply
    rw [if_pos (answerable_of_kind _ (by decide) (by decide)), dispatch_arp hlayout haccepts heth harp]
    exact ⟨c, hreply, by omega⟩
  | echo =>
    obtain ⟨heth, hreq⟩ := hreq
    obtain ⟨reply, hreply, hlen⟩ := echoReply_request hlayout heth hreq
    obtain ⟨c, rfl⟩ := controlFrame_of_echoReply hreply
    obtain ⟨-, hihl, hfits, hproto, -⟩ := hreq
    rw [if_pos (answerable_of_kind _ (by decide) (by decide)),
      dispatch_icmp hlayout haccepts ⟨heth, by omega, hproto⟩, icmpEffect, Handler.processIcmpFull, hreply]
    dsimp only
    rw [if_pos hicmp]
    exact ⟨c, rfl, by omega⟩
  | solicitation =>
    obtain ⟨heth, hreq⟩ := hreq
    obtain ⟨hlen, -, hnext, -⟩ := id hreq
    rw [reply_ipv6 onlyV6 hlayout haccepts heth (by omega) (by rw [upperLayer_fixed (by omega) hnext]; rfl)]
    by_cases htag : be16At a.data 12 = 0x8100
    · have hnone : (icmpv6Effect cfg a.data).reply = none := by
        have hno := processIcmpv6Full_solicitation hlayout hreq
        unfold icmpv6Effect
        split
        · rename_i reply hreply
          exact absurd hreply (hno reply)
        · rfl
        · rfl
      have hlost : ¬ Answerable a.data .solicitation := fun h => (h htag).1 rfl
      rw [if_neg hlost, processNdp_tagged htag, hnone, ite_self]
    · obtain ⟨rfl, -⟩ := layoutOf_untagged hlayout htag
      obtain ⟨reply, hreply, hlen⟩ := processNdp_request heth hreq
      obtain ⟨c, rfl⟩ := controlFrame_of_processNdp hreply
      rw [if_pos (answerable_of_untagged _ htag), if_pos ⟨harp, by omega, hreq.2.2.1, .inl hreq.2.2.2.2.1⟩]
      exact ⟨c, hreply, by omega⟩
  | echo6 =>
    obtain ⟨heth, hreq⟩ := hreq
    obtain ⟨reply, hreply, hlen⟩ := processIcmpv6Full_request hlayout heth hreq
    obtain ⟨c, rfl⟩ := controlFrame_of_processIcmpv6Full hreply
    have hndp := looksLikeNdp_echo6 harp hlayout hreq
    obtain ⟨-, nh, hnh, hproto, hfits, -⟩ := hreq
    have hge := (upperLayer_bounds hnh).1
    rw [reply_ipv6 onlyV6 hlayout haccepts heth (by omega)
      (by rw [Option.mem_def.1 hnh]; exact decide_eq_true hproto)]
    by_cases hanswerable : Answerable a.data .echo6
    · rw [if_pos hanswerable, if_neg (fun h => hndp.1 h hanswerable), icmpv6Effect, hreply]
      dsimp only
      rw [if_pos hicmp]
      exact ⟨c, rfl, by omega⟩
    · have htag : be16At a.data 12 = 0x8100 :=
        not_not.1 fun h => hanswerable (answerable_of_untagged _ h)
      rw [if_neg hanswerable, if_pos (hndp.2 hanswerable), processNdp_tagged htag]

end Accepted

end Dispatch

/-! ## Replies on the wire -/

theorem replies_processFrame (cfg : SocketConfig) (n : Nat) (now : Instant) (p : Poll) (frame : RxFrame) :
    (processFrame cfg n now p frame).replies =
      p.replies ++ (dispatch cfg p.sock.onlyV6 ⟨frame, p.sock.connects⟩).reply.toList := by
  unfold processFrame
  dsimp only
  split
  · rfl
  · split_ifs <;> rfl

/-- **Requests on a VLAN.** A request that the filter lets in gets one reply, with the tag that the mode prescribes for
transmission, exactly in access mode and if it is answerable. -/
theorem vlan_control_iff (cfg : SocketConfig) (vlan : VlanConfig) (hvlan : cfg.vlan = some vlan)
    (hauto : cfg.autoArp ∧ cfg.autoIcmp) (n : Nat) (now : Instant) (p : Poll) (frame : RxFrame)
    (hlen : frame.data.length < 2 ^ 16) (layout : FrameLayout)
    (hlayout : layoutOf frame.data frame.hwVlanTci = some layout) (haccepts : vlan.acceptsFrame layout.vlanId)
    (kind : RequestKind) (hreq : cfg.IsRequest frame.data layout kind) :
    cfg.AnswersOnce vlan.txTag p (processFrame cfg n now p frame) ↔
      vlan.mode = .access ∧ Answerable frame.data kind := by
  have haccepted : cfg.acceptsVlan layout := by rw [SocketConfig.acceptsVlan, hvlan]; exact haccepts
  have htx : vlan.txTag = none ↔ vlan.mode = .access := by
    unfold VlanConfig.txTag VlanConfig.tagsOnTx
    cases vlan.mode <;> simp
  have hreply := reply_request p.sock.onlyV6 (a := ⟨frame, p.sock.connects⟩) hlayout haccepted hauto.1 hauto.2 hreq
  unfold SocketConfig.AnswersOnce
  rw [replies_processFrame, ← htx]
  split_ifs at hreply with hanswerable
  · obtain ⟨c, hreply, hshort⟩ := hreply
    rw [hreply]
    have hroom : c.bytes.length ≤ (65535 : UInt16).toNat := by
      change c.bytes.length ≤ max 86 frame.data.length at hshort
      change c.bytes.length ≤ 65535
      omega
    constructor
    · rintro ⟨reply, happend, hsent⟩
      obtain rfl : c.bytes = reply := List.singleton_inj.1 (List.append_cancel_left happend)
      obtain ⟨m, hm, htag⟩ := hsent 65535 hroom
      obtain ⟨m', hm', htag'⟩ := sendAutoReply_control cfg c hroom
      rw [hm] at hm'
      cases hm'
      exact ⟨htag.symm.trans htag', hanswerable⟩
    · rintro ⟨htag, -⟩
      rw [htag]
      exact ⟨c.bytes, rfl, fun bufCapacity => sendAutoReply_control cfg c⟩
  · refine iff_of_false ?_ fun h => hanswerable h.2
    rintro ⟨reply, happend, -⟩
    rw [hreply] at happend
    exact absurd (List.append_cancel_left happend) (by simp)

def vlanSocket (localAddr : SocketAddr) (mode : VlanMode) : SocketConfig :=
  { localAddr, mac := sampleMac 1, vlan := some { vlanId := 100, mode } }

def taggedArpRequest : List UInt8 := insertTag 100 (buildArpRequest (sampleMac 2) ⟨10, 0, 0, 2⟩ ⟨10, 0, 0, 1⟩)

def taggedSolicitation : List UInt8 :=
  insertTag 100 (buildNeighborSolicitation (sampleMac 2) 0xfe800000000000000000000000000002
    0xfe800000000000000000000000000001)

/-- In access mode the ARP request gets its reply. -/
theorem vlan_control_access :
    (vlanSocket (.v4 ⟨10, 0, 0, 1⟩ 5000) .access).AnswersOnce none { sock := {} }
      (processFrame (vlanSocket (.v4 ⟨10, 0, 0, 1⟩ 5000) .access) 100 0 { sock := {} } ⟨taggedArpRequest, none⟩) :=
  (vlan_control_iff (vlanSocket (.v4 ⟨10, 0, 0, 1⟩ 5000) .access) { vlanId := 100, mode := .access } rfl ⟨rfl, rfl⟩ 100 0
    { sock := {} } ⟨taggedArpRequest, none⟩ (by decide +kernel) ⟨0x0806, 18, some 100⟩ (by decide +kernel)
    (by decide +kernel) .arp (by decide +kernel)).2 ⟨rfl, by decide +kernel⟩

/-- **A reply without its tag, and none.** On a port that tags, the ARP reply leaves without a tag; in access mode the
solicitation gets none. -/
theorem reply_without_tag :
    (layoutOf taggedArpRequest none = some ⟨0x0806, 18, some 100⟩ ∧
      VlanConfig.acceptsFrame { vlanId := 100, mode := .portTagging } (some 100) ∧
      (vlanSocket (.v4 ⟨10, 0, 0, 1⟩ 5000) .portTagging).IsRequest taggedArpRequest ⟨0x0806, 18, some 100⟩ .arp ∧
      VlanConfig.txTag { vlanId := 100, mode := .portTagging } = some 100 ∧
      ∃ reply m,
        (processFrame (vlanSocket (.v4 ⟨10, 0, 0, 1⟩ 5000) .portTagging) 100 0 { sock := {} }
          ⟨taggedArpRequest, none⟩).replies = [reply] ∧
        (vlanSocket (.v4 ⟨10, 0, 0, 1⟩ 5000) .portTagging).sendAutoReply 2048 reply = some (.ok m) ∧
        wireTag (nicTransmit m) = none) ∧
    (layoutOf taggedSolicitation none = some ⟨0x86DD, 18, some 100⟩ ∧
      VlanConfig.acceptsFrame { vlanId := 100, mode := .access } (some 100) ∧
      (vlanSocket (.v6 0xfe800000000000000000000000000001 5000 0 0) .access).IsRequest taggedSolicitation
        ⟨0x86DD, 18, some 100⟩ .solicitation ∧
      (processFrame (vlanSocket (.v6 0xfe800000000000000000000000000001 5000 0 0) .access) 100 0 { sock := {} }
        ⟨taggedSolicitation, none⟩).replies = []) := by
  have hsend := sendAutoReply_control (vlanSocket (.v4 ⟨10, 0, 0, 1⟩ 5000) .portTagging)
    (.arp #v[2, 0, 0, 0, 0, 1] #v[2, 0, 0, 0, 0, 2]
      (.reply #v[2, 0, 0, 0, 0, 1] ⟨10, 0, 0, 1⟩ #v[2, 0, 0, 0, 0, 2] ⟨10, 0, 0, 2⟩))
    (show _ ≤ (2048 : UInt16).toNat by decide +kernel)
  obtain ⟨m, hm, htag⟩ := hsend
  exact ⟨⟨by decide +kernel, by decide +kernel, by decide +kernel, by decide +kernel, _, m, by decide +kernel, hm, htag⟩,
    by decide +kernel, by decide +kernel, by decide +kernel, by decide +kernel⟩

end DpdkStdlib.Udp
