import DpdkStdlib.Udp.Socket

/-!
# Frames that carry no datagram (`lib.rs`, `arp.rs`, `ndp.rs`, `icmp.rs`, `icmpv6.rs`)

A socket also sends ARP and neighbour requests, replies and announcements, and echo replies.  They leave through
`send_frame_mode` like datagrams, and that function goes by the ethertype and the length of a frame: it does not look
at the protocol.
-/

namespace DpdkStdlib.Udp
open DpdkStdlib.Lib

variable {data frame : List UInt8} {txOffload : UInt64} {self : Handler Ipv4Addr}

/-! ## The frames -/

/-- What a frame that carries no datagram is built from. -/
inductive ControlFrame
  | arp (srcMac dstMac : MacAddr) (packet : ArpPacket)
  | icmp (packet : IcmpPacket Ipv4Addr)
  | solicitation (srcMac : MacAddr) (srcIp targetIp : Ipv6Addr)
  | advertisement (srcMac : MacAddr) (srcIp : Ipv6Addr) (dstMac : MacAddr) (dstIp : Ipv6Addr) (flags : BitVec 32)
  | icmpv6 (packet : IcmpPacket Ipv6Addr)

namespace ControlFrame

def bytes : ControlFrame → List UInt8
  | arp srcMac dstMac packet => buildArpFrame srcMac dstMac packet
  | icmp packet => buildIcmpFrame packet
  | solicitation srcMac srcIp targetIp => buildNeighborSolicitation srcMac srcIp targetIp
  | advertisement srcMac srcIp dstMac dstIp flags => buildNeighborAdvertisement srcMac srcIp dstMac dstIp flags
  | icmpv6 packet => buildIcmpv6Frame packet

def ethertype : ControlFrame → UInt16
  | arp .. => 0x0806
  | icmp _ => 0x0800
  | solicitation .. | advertisement .. | icmpv6 _ => 0x86DD

/-- A frame is as long as its headers: ARP, IPv4 and ICMP, IPv6 and ICMPv6. -/
def headersLen : ControlFrame → Nat
  | arp .. | icmp _ => 42
  | solicitation .. | advertisement .. | icmpv6 _ => 62

theorem be16At_ethertype {dstMac srcMac : MacAddr} (x : UInt16) (r : List UInt8) :
    be16At (dstMac.toList ++ (srcMac.toList ++ (beBytes16 x ++ r))) 12 = x := by
  rw [← List.append_assoc]
  exact be16At_field (by rw [List.length_append, Vector.length_toList, Vector.length_toList])

theorem be16At_bytes (c : ControlFrame) : be16At c.bytes 12 = c.ethertype := by
  cases c <;>
    simp only [bytes, buildArpFrame, buildIcmpFrame, buildNeighborSolicitation, buildNeighborAdvertisement,
      buildIcmpv6Frame, List.append_assoc] <;>
    exact be16At_ethertype _ _

theorem headersLen_le (c : ControlFrame) : c.headersLen ≤ c.bytes.length := by
  cases c <;>
    simp only [headersLen, bytes, buildArpFrame, buildIcmpFrame, icmpIpHeader, IcmpPacket.message,
      buildNeighborSolicitation, neighborSolicitation, buildNeighborAdvertisement, neighborAdvertisement,
      buildIcmpv6Frame, List.length_append, Vector.length_toList, length_beBytes16, length_beBytes32,
      Ipv4Addr.length_octets, Ipv6Addr.length_octets, List.length_cons, List.length_nil] <;>
    omega

theorem le_length (c : ControlFrame) : 42 ≤ c.bytes.length := by
  have h := c.headersLen_le
  cases c <;> simp only [headersLen] at h <;> omega

end ControlFrame

/-- The frames that a socket sends besides datagrams: the answers of its handlers, its requests and announcements. -/
inductive SocketConfig.SendsControl (cfg : SocketConfig) (frame : List UInt8) : Prop
  | arpReply (rx : List UInt8) (h : (cfg.handler4.processArp rx).2 = some frame)
  | echoReply (rx : List UInt8) (h : cfg.handler4.processIcmpFull rx = some (.reply frame))
  | pipelineEchoReply (rx : List UInt8) (h : cfg.handler4.processIcmp rx = some frame)
  | advertisement (rx : List UInt8) (h : (cfg.handler6.processNdp rx).2 = some frame)
  | echo6Reply (rx : List UInt8) (h : cfg.handler6.processIcmpv6Full rx = some (.reply frame))
  | arpRequest (targetIp : Ipv4Addr) (h : cfg.handler4.makeRequest targetIp = some frame)
  | gratuitousArp (h : cfg.handler4.makeGratuitousArp = some frame)
  | solicitation (targetIp : Ipv6Addr) (h : cfg.handler6.makeSolicitation targetIp = some frame)
  | gratuitousNa (h : cfg.handler6.makeGratuitousNa = some frame)

section Handlers

variable {rx frame : List UInt8}

theorem controlFrame_of_processArp (h : (self.processArp rx).2 = some frame) :
    ∃ c : ControlFrame, c.bytes = frame := by
  unfold Handler.processArp at h
  split at h
  · cases h
  · dsimp only at h
    split_ifs at h
    exact ⟨.arp _ _ _, Option.some.inj h⟩

theorem controlFrame_of_echoReply (h : self.echoReply rx = some frame) : ∃ c : ControlFrame, c.bytes = frame := by
  obtain ⟨packet, -, hreply⟩ := Option.bind_eq_some_iff.1 h
  split_ifs at hreply
  exact ⟨.icmp _, Option.some.inj hreply⟩

theorem controlFrame_of_processIcmpFull (h : self.processIcmpFull rx = some (.reply frame)) :
    ∃ c : ControlFrame, c.bytes = frame := by
  unfold Handler.processIcmpFull at h
  split at h
  case h_1 reply hreply =>
    cases h
    exact controlFrame_of_echoReply hreply
  case h_2 =>
    split at h
    · split_ifs at h
      cases h
    · cases h

theorem controlFrame_of_processIcmpv6Full {self : Handler Ipv6Addr}
    (h : self.processIcmpv6Full rx = some (.reply frame)) : ∃ c : ControlFrame, c.bytes = frame := by
  unfold Handler.processIcmpv6Full at h
  dsimp only at h
  split at h
  case h_1 reply hreply =>
    cases h
    obtain ⟨packet, -, hreply⟩ := Option.bind_eq_some_iff.1 hreply
    split_ifs at hreply
    exact ⟨.icmpv6 _, Option.some.inj hreply⟩
  case h_2 =>
    split at h
    · split_ifs at h
      cases h
    · cases h

theorem controlFrame_of_processNdp {self : Handler Ipv6Addr} (h : (self.processNdp rx).2 = some frame) :
    ∃ c : ControlFrame, c.bytes = frame := by
  unfold Handler.processNdp at h
  split at h
  · cases h
  · split_ifs at h <;> exact ⟨.advertisement _ _ _ _ _, Option.some.inj h⟩

end Handlers

theorem SocketConfig.SendsControl.built {cfg : SocketConfig} (h : cfg.SendsControl frame) :
    ∃ c : ControlFrame, c.bytes = frame := by
  cases h with
  | arpReply rx h => exact controlFrame_of_processArp h
  | echoReply rx h => exact controlFrame_of_processIcmpFull h
  | pipelineEchoReply rx h => exact controlFrame_of_echoReply h
  | advertisement rx h => exact controlFrame_of_processNdp h
  | echo6Reply rx h => exact controlFrame_of_processIcmpv6Full h
  | arpRequest targetIp h => exact ⟨.arp _ _ _, Option.some.inj h⟩
  | gratuitousArp h => exact ⟨.arp _ _ _, Option.some.inj h⟩
  | solicitation targetIp h => exact ⟨.solicitation _ _ _, Option.some.inj h⟩
  | gratuitousNa h => exact ⟨.advertisement _ _ _ _ _, Option.some.inj h⟩

/-! ## What the offload makes of them -/

/-- The mbuf holds the frame, up to an IPv4 header checksum left to the card, and asks for no UDP checksum. -/
structure LeftAlone (frame : List UInt8) (m : Mbuf) : Prop where
  length : m.data.length = frame.length
  bytes : ∀ i, m.data[i]? ≠ frame[i]? →
    be16At frame 12 = 0x0800 ∧ m.olFlags &&& mbufTxIpCksum ≠ 0 ∧ (i = 24 ∨ i = 25)
  noUdpCksum : m.olFlags &&& mbufTxUdpCksum = 0

theorem leftAlone_self {m : Mbuf} (hdata : m.data = frame) (hflags : m.olFlags = 0) :
    LeftAlone frame m where
  length := by rw [hdata]
  bytes i hne := absurd (by rw [hdata]) hne
  noUdpCksum := by rw [hflags]; rfl

/-- An untagged frame reaches the card as the offload leaves it. -/
theorem sendFrameMode_untagged {flags : UInt64} {bufCapacity : UInt16} {l3Len : Nat}
    (hcap : ¬ bufCapacity.toNat < frame.length) (h : offloadChecksums txOffload frame = some (flags, l3Len, data)) :
    ∃ m, sendFrameMode txOffload bufCapacity frame none = some (.ok m) ∧ m.data = data ∧ m.olFlags = flags := by
  unfold sendFrameMode
  rw [if_neg hcap, h]
  exact ⟨_, rfl, rfl, UInt64.zero_or⟩

theorem leftAlone_of_no_udpCksum (c : ControlFrame) (hudp : txOffload &&& txOffloadUdpCksum = 0) : ∃ flags l3Len data,
      offloadChecksums txOffload c.bytes = some (flags, l3Len, data) ∧
      ∀ m : Mbuf, m.data = data → m.olFlags = flags → LeftAlone c.bytes m := by
  have hlen := c.le_length
  have hudp' : (txOffload &&& txOffloadUdpCksum != 0) = false := by rw [hudp]; rfl
  unfold offloadChecksums
  rw [read16_of_le (by omega), c.be16At_bytes]
  split_ifs with hoffload
  · dsimp only [Option.bind_eq_bind, Option.bind_some]
    split_ifs with h4 h6
    · unfold offloadIpv4
      rw [hudp']
      cases (txOffload &&& txOffloadIpv4Cksum != 0)
      · exact ⟨_, _, _, rfl, fun m => leftAlone_self⟩
      · -- the header checksum is left to the card
        obtain ⟨data, hwrite⟩ : ∃ data, writeAt c.bytes (14 + 10) [0, 0] = some data :=
          ⟨_, if_pos (by rw [List.length_cons, List.length_singleton]; omega)⟩
        refine ⟨mbufTxIpv4 ||| mbufTxIpCksum ||| 0, 20, data, ?_, fun m hdata hflags => ⟨?_, fun i hne => ?_, ?_⟩⟩
        · change (writeAt c.bytes (14 + 10) [0, 0]).bind (fun data => some (_, 20, data)) = _
          rw [hwrite]
          rfl
        · rw [hdata, (length_of_writeAt hwrite).2]
        · refine ⟨c.be16At_bytes.trans h4.1, by rw [hflags]; decide, ?_⟩
          by_contra hi
          refine hne (hdata ▸ getElem?_of_writeAt hwrite ?_)
          change i < 14 + 10 ∨ 14 + 10 + 2 ≤ i
          omega
        · rw [hflags]
          decide
    · unfold offloadIpv6
      rw [hudp']
      exact ⟨_, _, _, rfl, fun m => leftAlone_self⟩
    · exact ⟨_, _, _, rfl, fun m => leftAlone_self⟩
  · exact ⟨_, _, _, rfl, fun m => leftAlone_self⟩

theorem offloadChecksums_arp (c : ControlFrame) (txOffload : UInt64) (harp : c.ethertype = 0x0806) :
    offloadChecksums txOffload c.bytes = some (0, 0, c.bytes) := by
  have hlen := c.le_length
  unfold offloadChecksums
  split_ifs
  · rw [read16_of_le (by omega), c.be16At_bytes, harp]
    rfl
  · rfl

theorem exists_seedUdpCksum (h : 42 ≤ data.length) : ∃ data', seedUdpCksum data = some data' := by
  unfold seedUdpCksum
  rw [readSlice_of_le (by omega), readSlice_of_le (by omega)]
  dsimp only [Option.bind_eq_bind, Option.bind_some]
  rw [read16_of_le (by omega)]
  exact ⟨_, if_pos (by rw [length_beBytes16]; omega)⟩

theorem exists_seedUdp6Cksum (h : 62 ≤ data.length) : ∃ data', seedUdp6Cksum data = some data' := by
  unfold seedUdp6Cksum
  rw [readSlice_of_le (by omega), readSlice_of_le (by omega)]
  dsimp only [Option.bind_eq_bind, Option.bind_some]
  rw [read16_of_le (by omega)]
  exact ⟨_, if_pos (by rw [length_beBytes16]; omega)⟩

theorem offloadIpv4_seeds (hudp : txOffload &&& txOffloadUdpCksum ≠ 0) (h : 42 ≤ frame.length) : ∃ flags l3Len data,
      offloadIpv4 txOffload frame = some (flags, l3Len, data) ∧ flags &&& mbufTxUdpCksum ≠ 0 := by
  unfold offloadIpv4
  rw [bne_iff_ne.2 hudp]
  cases (txOffload &&& txOffloadIpv4Cksum != 0)
  · obtain ⟨data, hdata⟩ := exists_seedUdpCksum h
    refine ⟨mbufTxIpv4 ||| 0 ||| mbufTxUdpCksum, 20, data, ?_, by decide⟩
    change (seedUdpCksum frame).bind (fun data => some (_, 20, data)) = _
    rw [hdata]
    rfl
  · obtain ⟨zeroed, hzeroed⟩ : ∃ zeroed, writeAt frame (14 + 10) (beBytes16 0) = some zeroed :=
      ⟨_, if_pos (by rw [length_beBytes16]; omega)⟩
    have hlen : 42 ≤ zeroed.length := by rw [(length_of_writeAt hzeroed).2]; exact h
    obtain ⟨data, hdata⟩ := exists_seedUdpCksum hlen
    refine ⟨mbufTxIpv4 ||| mbufTxIpCksum ||| mbufTxUdpCksum, 20, data, ?_, by decide⟩
    change (writeAt frame (14 + 10) (beBytes16 0)).bind (fun data =>
      (seedUdpCksum data).bind fun data => some (_, 20, data)) = _
    rw [hzeroed, Option.bind_some, hdata]
    rfl

theorem offloadIpv6_seeds (hudp : txOffload &&& txOffloadUdpCksum ≠ 0) (h : 62 ≤ frame.length) : ∃ flags l3Len data,
      offloadIpv6 txOffload frame = some (flags, l3Len, data) ∧ flags &&& mbufTxUdpCksum ≠ 0 := by
  obtain ⟨data, hdata⟩ := exists_seedUdp6Cksum h
  unfold offloadIpv6
  rw [bne_iff_ne.2 hudp, if_pos rfl, hdata]
  exact ⟨_, _, _, rfl, by decide⟩

theorem offloadChecksums_seeds (c : ControlFrame) (hip : c.ethertype ≠ 0x0806)
    (hudp : txOffload &&& txOffloadUdpCksum ≠ 0) : ∃ flags l3Len data,
      offloadChecksums txOffload c.bytes = some (flags, l3Len, data) ∧ flags &&& mbufTxUdpCksum ≠ 0 := by
  have hlen := c.le_length
  have hheaders := c.headersLen_le
  have hoffload : txOffload ≠ 0 := fun h => hudp (by rw [h]; rfl)
  unfold offloadChecksums
  rw [if_pos ⟨hoffload, by omega⟩, read16_of_le (by omega), c.be16At_bytes]
  dsimp only [Option.bind_eq_bind, Option.bind_some]
  by_cases h4 : c.ethertype = 0x0800
  · rw [if_pos ⟨h4, by omega⟩]
    exact offloadIpv4_seeds hudp (by omega)
  · have h6 : c.ethertype = 0x86DD ∧ c.headersLen = 62 := by
      cases c <;> first | exact absurd rfl hip | exact absurd rfl h4 | exact ⟨rfl, rfl⟩
    rw [if_neg (fun h => h4 h.1), if_pos ⟨h6.1, by omega⟩]
    exact offloadIpv6_seeds hudp (by omega)

/-- **Control frames and offload.** A frame that a socket sends besides datagrams reaches the card as it was built,
apart from the header checksum that the card fills in, exactly if it is ARP or the card does no UDP checksums. -/
theorem control_offload_iff (cfg : SocketConfig) (bufCapacity : UInt16) (frame : List UInt8)
    (hsent : cfg.SendsControl frame) :
    if bufCapacity.toNat < frame.length then
      sendFrameMode cfg.txOffload bufCapacity frame none =
        some (.error (.frameTooLarge frame.length bufCapacity.toNat))
    else ∃ m, sendFrameMode cfg.txOffload bufCapacity frame none = some (.ok m) ∧
      (LeftAlone frame m ↔ be16At frame 12 = 0x0806 ∨ cfg.txOffload &&& txOffloadUdpCksum = 0) := by
  obtain ⟨c, rfl⟩ := hsent.built
  rw [c.be16At_bytes]
  split_ifs with hcap
  · rw [sendFrameMode, if_pos hcap]
    rfl
  by_cases hudp : cfg.txOffload &&& txOffloadUdpCksum = 0
  · obtain ⟨flags, l3Len, data, hoffload, hleft⟩ := leftAlone_of_no_udpCksum c hudp
    obtain ⟨m, hm, hdata, hflags⟩ := sendFrameMode_untagged hcap hoffload
    exact ⟨m, hm, iff_of_true (hleft m hdata hflags) (.inr hudp)⟩
  by_cases harp : c.ethertype = 0x0806
  · obtain ⟨m, hm, hdata, hflags⟩ := sendFrameMode_untagged hcap (offloadChecksums_arp c cfg.txOffload harp)
    exact ⟨m, hm, iff_of_true (leftAlone_self hdata hflags) (.inl harp)⟩
  · obtain ⟨flags, l3Len, data, hoffload, hasked⟩ := offloadChecksums_seeds c harp hudp
    obtain ⟨m, hm, -, hflags⟩ := sendFrameMode_untagged hcap hoffload
    refine ⟨m, hm, iff_of_false (fun h => hasked (hflags ▸ h.noUdpCksum)) ?_⟩
    rintro (h | h)
    · exact harp h
    · exact hudp h

/-! ## An echo reply -/

def offloadConfig (txOffload : UInt64) : SocketConfig :=
  { localAddr := .v4 ⟨10, 0, 0, 1⟩ 5000, mac := sampleMac 1, txOffload }

def echoFrame (reply : Bool) : List UInt8 :=
  let host (x : UInt8) : MacAddr × Ipv4Addr := (sampleMac x, ⟨10, 0, 0, x⟩)
  let (src, dst, icmpType) := if reply then (host 1, host 2, 0) else (host 2, host 1, 8)
  buildIcmpFrame
    { srcMac := src.1, dstMac := dst.1, srcIp := src.2, dstIp := dst.2, ttl := 64, icmpType, icmpCode := 0
      checksum := 0, identifier := 1, sequence := 2, payload := [] }

theorem sendsControl_echoFrame (txOffload : UInt64) : (offloadConfig txOffload).SendsControl (echoFrame true) := by
  refine .echoReply (echoFrame false) ?_
  change Handler.processIcmpFull ⟨sampleMac 1, [⟨10, 0, 0, 1⟩]⟩ (echoFrame false) = _
  decide +kernel

/-- On a card that fills in header checksums only, the echo reply is left alone. -/
theorem control_offload_echo :
    ∃ m, sendFrameMode txOffloadIpv4Cksum 2048 (echoFrame true) none = some (.ok m) ∧ LeftAlone (echoFrame true) m := by
  have h := control_offload_iff (offloadConfig txOffloadIpv4Cksum) 2048 (echoFrame true) (sendsControl_echoFrame _)
  rw [if_neg (by decide +kernel)] at h
  obtain ⟨m, hm, hleft⟩ := h
  exact ⟨m, hm, hleft.2 (.inr (by decide))⟩

/-- **A spoiled echo reply.** On a card that does UDP checksums an echo reply loses its sequence number. -/
theorem echo_reply_seeded : (offloadConfig txOffloadUdpCksum).SendsControl (echoFrame true) ∧
    ∃ m, sendFrameMode txOffloadUdpCksum 2048 (echoFrame true) none = some (.ok m) ∧
      (echoFrame true).drop 40 = [0, 2] ∧ m.data.drop 40 = [20, 21] ∧
      m.olFlags &&& mbufTxUdpCksum = mbufTxUdpCksum := by
  refine ⟨sendsControl_echoFrame _, ?_⟩
  have h : ((sendFrameMode txOffloadUdpCksum 2048 (echoFrame true) none).bind (·.toOption)).any fun m =>
      (echoFrame true).drop 40 = [0, 2] ∧ m.data.drop 40 = [20, 21] ∧
        m.olFlags &&& mbufTxUdpCksum = mbufTxUdpCksum := by decide +kernel
  obtain ⟨m, hm, hfields⟩ := (Option.any_eq_true _ _).1 h
  obtain ⟨r, hr, hok⟩ := Option.bind_eq_some_iff.1 hm
  cases r with
  | error e => cases hok
  | ok m' =>
    cases hok
    exact ⟨m, hr, of_decide_eq_true hfields⟩

end DpdkStdlib.Udp
