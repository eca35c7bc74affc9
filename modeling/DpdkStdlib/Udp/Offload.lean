import DpdkStdlib.Udp.Encap
import DpdkStdlib.Udp.Send

/-!
# Checksum offload (`lib.rs`)

A card that fills in the checksums it was asked for puts on the wire the frame that was built in software.  The sum
over the pseudo-header that `send_frame_mode` leaves in the UDP checksum field is folded, so the card adds the rest of
the datagram to a folded part; a folded part adds up to the same complement (`endAround_add`).
-/

namespace DpdkStdlib.Udp
open DpdkStdlib.Lib

variable {e out data frame : List UInt8} {m : Mbuf} {n : Nat}

/-! ## The card -/

def patch16 (data : List UInt8) (i : Nat) (x : UInt16) : List UInt8 := data.take i ++ beBytes16 x ++ data.drop (i + 2)

/-- The IPv4 header checksum over `l3_len` bytes, on request. -/
def nicIpCksum (m : Mbuf) (data : List UInt8) : List UInt8 :=
  if m.olFlags &&& mbufTxIpCksum ≠ 0 then
    patch16 data (m.l2Len + 10) (onesComplement (wordSum ((data.drop m.l2Len).take m.l3Len)))
  else data

/-- The UDP checksum, on request: the complement of the sum over the datagram with what the field held, all ones for
zero. -/
def nicUdpCksum (m : Mbuf) (data : List UInt8) : List UInt8 :=
  if m.olFlags &&& mbufTxUdpCksum = mbufTxUdpCksum then
    let udp := m.l2Len + m.l3Len
    patch16 data (udp + 6) (nonzeroChecksum (onesComplement (wordSum ((data.drop udp).take (udpLenAt data udp)))))
  else data

/-- A frame with a VLAN tag inserted after the addresses. -/
def insertTag (tci : UInt16) (frame : List UInt8) : List UInt8 :=
  frame.take 12 ++ (beBytes16 0x8100 ++ beBytes16 tci) ++ frame.drop 12

def nicVlanInsert (m : Mbuf) (data : List UInt8) : List UInt8 :=
  if m.olFlags &&& mbufTxVlan ≠ 0 then insertTag m.vlanTci data else data

/-- What the card puts on the wire. -/
def nicTransmit (m : Mbuf) : List UInt8 := nicVlanInsert m (nicUdpCksum m (nicIpCksum m m.data))

theorem patch16_of_writeAt {data' : List UInt8} {i : Nat} {x : UInt16} (h : writeAt data i (beBytes16 x) = some data') :
    patch16 data i x = data' := by
  unfold writeAt at h
  split_ifs at h
  exact Option.some.inj h

/-! ## Seeds -/

/-- **IPv4.** With the pseudo-header's sum for a seed the card computes the checksum of the datagram. -/
theorem seeded4 (a : UdpPacketArgs Ipv4Addr) (hlen : 28 + a.payload.length < 65536) :
    nonzeroChecksum (onesComplement (wordSum (udpHeader a
        (udpPseudoHeaderChecksum a.srcIp.octets a.dstIp.octets (UInt16.ofNat (8 + a.payload.length))) ++ a.payload))) =
      udpChecksum a.srcIp.octets a.dstIp.octets (udpHeader a 0) a.payload := by
  have hsrc := wordSum_le a.srcIp.octets
  have hdst := wordSum_le a.dstIp.octets
  have hheader := udpHeaderSum_le (length_udpHeader a 0)
  have hpayload := wordSum_le a.payload
  have hfold := endAround_le (wordSum a.payload)
  have hseed := endAround_le (wordSum a.srcIp.octets + wordSum a.dstIp.octets + 17 + (8 + a.payload.length))
  rw [Ipv4Addr.length_octets] at hsrc hdst
  rw [wordSum_segment _ (length_udpHeader a _), be16At_udpHeader, udpHeaderSum_udpHeader, udpPseudoHeaderChecksum,
    UInt16.toNat_ofNat', Nat.mod_eq_of_lt (by omega), toNat_fold32 (by omega), udpChecksum,
    onesComplementSum_eq _ (by omega)]
  refine congrArg nonzeroChecksum (onesComplement_congr (by omega) (by omega) ?_)
  rw [endAround_add, endAround_add]
  exact congrArg endAround (by omega)

/-- **IPv6.** -/
theorem seeded6 (a : UdpPacketArgs Ipv6Addr) (hlen : 48 + a.payload.length < 65536) :
    nonzeroChecksum (onesComplement (wordSum (udpHeader a
        (udp6PseudoHeaderChecksum a.srcIp a.dstIp (UInt16.ofNat (8 + a.payload.length)).toNat) ++ a.payload))) =
      udp6Checksum a.srcIp a.dstIp (udpHeader a 0) a.payload := by
  have hheader := udpHeaderSum_le (length_udpHeader a 0)
  have hpayload := wordSum_le a.payload
  have hfold := endAround_le (wordSum a.payload)
  have hpseudo : pseudoHeader6Sum a.srcIp a.dstIp (8 + a.payload.length) < 2 ^ 20 := by
    have hsrc := endAround_le (wordSum (Ipv6Addr.octets a.srcIp))
    have hdst := endAround_le (wordSum (Ipv6Addr.octets a.dstIp))
    rw [pseudoHeader6Sum, onesComplementSum_eq _ (by rw [Ipv6Addr.length_octets]; decide),
      onesComplementSum_eq _ (by rw [Ipv6Addr.length_octets]; decide)]
    omega
  have hseed := endAround_le (pseudoHeader6Sum a.srcIp a.dstIp (8 + a.payload.length))
  rw [UInt16.toNat_ofNat', Nat.mod_eq_of_lt (by omega), wordSum_segment _ (length_udpHeader a _), be16At_udpHeader,
    udpHeaderSum_udpHeader, udp6PseudoHeaderChecksum, toNat_fold32 (by omega), udp6Checksum,
    onesComplementSum_eq _ (by omega), not_fold32 (by omega)]
  refine congrArg nonzeroChecksum (onesComplement_congr (by omega) (by omega) ?_)
  rw [endAround_add, endAround_add]
  exact congrArg endAround (by omega)

/-! ## Frames and their checksums -/

def frameWith4 (e : List UInt8) (a : UdpPacketArgs Ipv4Addr) (tos : UInt8) (ipCksum udpCksum : UInt16) : List UInt8 :=
  e ++ (ipv4Header a tos ipCksum ++ (udpHeader a udpCksum ++ a.payload))

def frameWith6 (e : List UInt8) (a : UdpPacketArgs Ipv6Addr) (udpCksum : UInt16) : List UInt8 :=
  e ++ (ipv6Header a ++ (udpHeader a udpCksum ++ a.payload))

theorem segment_eq {Ip : Type} (a : UdpPacketArgs Ip) (udpCksum : UInt16) {i : Nat} (hi : i = e.length)
    (hlen : 8 + a.payload.length < 65536) :
    ((e ++ (udpHeader a udpCksum ++ a.payload)).drop i).take
        (udpLenAt (e ++ (udpHeader a udpCksum ++ a.payload)) i) = udpHeader a udpCksum ++ a.payload := by
  subst hi
  have h := udpLenAt_append a udpCksum [] hlen (e := e)
  rw [List.append_nil] at h
  rw [h, List.drop_left, List.take_of_length_le (by rw [List.length_append, length_udpHeader])]

section Ipv4

variable {e : List UInt8} (he : e.length = 14) (a : UdpPacketArgs Ipv4Addr) (tos : UInt8) (ipCksum udpCksum : UInt16)
include he

theorem length_frameWith4 : (frameWith4 e a tos ipCksum udpCksum).length = 42 + a.payload.length := by
  simp only [frameWith4, List.length_append, length_ipv4Header, length_udpHeader, he]
  omega

theorem frameWith4_split : ∃ r : List UInt8, 14 + 20 = r.length ∧
    ∀ udpCksum, frameWith4 e a tos ipCksum udpCksum = r ++ (udpHeader a udpCksum ++ a.payload) :=
  ⟨e ++ ipv4Header a tos ipCksum, by rw [List.length_append, he]; rfl, fun _ => (List.append_assoc ..).symm⟩

theorem writeAt_ipCksum (x : UInt16) :
    writeAt (frameWith4 e a tos ipCksum udpCksum) (14 + 10) (beBytes16 x) = some (frameWith4 e a tos x udpCksum) :=
  writeAt_ipv4Header a tos x he.symm

theorem writeAt_udpCksum (x : UInt16) :
    writeAt (frameWith4 e a tos ipCksum udpCksum) (14 + 20 + 6) (beBytes16 x) =
      some (frameWith4 e a tos ipCksum x) := by
  obtain ⟨r, hr, hframe⟩ := frameWith4_split he a tos ipCksum
  rw [hframe, hframe]
  exact writeAt_udpHeader a x hr

theorem seedUdpCksum_eq :
    seedUdpCksum (frameWith4 e a tos ipCksum udpCksum) = some (frameWith4 e a tos ipCksum
      (udpPseudoHeaderChecksum a.srcIp.octets a.dstIp.octets (UInt16.ofNat (8 + a.payload.length)))) := by
  have hlen := length_frameWith4 he a tos ipCksum udpCksum
  have hsrc : ((frameWith4 e a tos ipCksum udpCksum).drop (14 + 12)).take 4 = a.srcIp.octets := by
    rw [frameWith4, ← he]
    exact slice_append_right _ _ 12 4
  have hdst : ((frameWith4 e a tos ipCksum udpCksum).drop (14 + 16)).take 4 = a.dstIp.octets := by
    rw [frameWith4, ← he]
    exact slice_append_right _ _ 16 4
  have hudpLen : be16At (frameWith4 e a tos ipCksum udpCksum) (14 + 20 + 4) = UInt16.ofNat (8 + a.payload.length) := by
    obtain ⟨r, hr, hframe⟩ := frameWith4_split he a tos ipCksum
    rw [hframe]
    exact be16At_udpLen a udpCksum _ hr
  unfold seedUdpCksum
  rw [readSlice_of_le (by omega), hsrc, readSlice_of_le (by omega), hdst]
  dsimp only [Option.bind_eq_bind, Option.bind_some]
  rw [read16_of_le (by omega), hudpLen, Option.bind_some]
  exact writeAt_udpCksum he a tos ipCksum udpCksum _

theorem nicIpCksum_asked (hl2 : m.l2Len = 14) (hl3 : m.l3Len = 20) (hflag : m.olFlags &&& mbufTxIpCksum ≠ 0) :
    nicIpCksum m (frameWith4 e a tos 0 udpCksum) = frameWith4 e a tos (ipv4Checksum (ipv4Header a tos 0)) udpCksum := by
  have hheader : ((frameWith4 e a tos 0 udpCksum).drop 14).take 20 = ipv4Header a tos 0 :=
    slice_append he.symm (length_ipv4Header a tos 0).symm
  rw [nicIpCksum, if_pos hflag, hl2, hl3, hheader]
  exact patch16_of_writeAt (writeAt_ipCksum he a tos 0 udpCksum _)

theorem nicUdpCksum_asked (hlen : 28 + a.payload.length < 65536) (hl2 : m.l2Len = 14) (hl3 : m.l3Len = 20)
    (hflag : m.olFlags &&& mbufTxUdpCksum = mbufTxUdpCksum) :
    nicUdpCksum m (frameWith4 e a tos ipCksum
        (udpPseudoHeaderChecksum a.srcIp.octets a.dstIp.octets (UInt16.ofNat (8 + a.payload.length)))) =
      frameWith4 e a tos ipCksum (udpChecksum a.srcIp.octets a.dstIp.octets (udpHeader a 0) a.payload) := by
  rw [← seeded4 a hlen, nicUdpCksum, if_pos hflag, hl2, hl3]
  generalize udpPseudoHeaderChecksum a.srcIp.octets a.dstIp.octets (UInt16.ofNat (8 + a.payload.length)) = seed
  have hsegment : ((frameWith4 e a tos ipCksum seed).drop (14 + 20)).take
      (udpLenAt (frameWith4 e a tos ipCksum seed) (14 + 20)) = udpHeader a seed ++ a.payload := by
    obtain ⟨r, hr, hframe⟩ := frameWith4_split he a tos ipCksum
    rw [hframe]
    exact segment_eq a seed hr (by omega)
  dsimp only
  rw [hsegment]
  exact patch16_of_writeAt (writeAt_udpCksum he a tos ipCksum seed _)

end Ipv4

section Ipv6

variable {e : List UInt8} (he : e.length = 14) (a : UdpPacketArgs Ipv6Addr) (udpCksum : UInt16)
include he

theorem length_frameWith6 : (frameWith6 e a udpCksum).length = 62 + a.payload.length := by
  simp only [frameWith6, List.length_append, length_ipv6Header, length_udpHeader, he]
  omega

theorem frameWith6_split : ∃ r : List UInt8, 14 + 40 = r.length ∧
    ∀ udpCksum, frameWith6 e a udpCksum = r ++ (udpHeader a udpCksum ++ a.payload) :=
  ⟨e ++ ipv6Header a, by rw [List.length_append, he, length_ipv6Header], fun _ => (List.append_assoc ..).symm⟩

theorem writeAt_udp6Cksum (x : UInt16) :
    writeAt (frameWith6 e a udpCksum) (14 + 40 + 6) (beBytes16 x) = some (frameWith6 e a x) := by
  obtain ⟨r, hr, hframe⟩ := frameWith6_split he a
  rw [hframe, hframe]
  exact writeAt_udpHeader a x hr

theorem seedUdp6Cksum_eq :
    seedUdp6Cksum (frameWith6 e a udpCksum) = some (frameWith6 e a
      (udp6PseudoHeaderChecksum a.srcIp a.dstIp (UInt16.ofNat (8 + a.payload.length)).toNat)) := by
  have hlen := length_frameWith6 he a udpCksum
  have hsrc : ((frameWith6 e a udpCksum).drop (14 + 8)).take 16 = Ipv6Addr.octets a.srcIp := by
    rw [frameWith6, ← he, slice_append_right]
    simp only [ipv6Header, List.append_assoc]
    rw [← List.append_assoc, ← List.append_assoc]
    exact slice_append (by simp) (Ipv6Addr.length_octets _).symm
  have hdst : ((frameWith6 e a udpCksum).drop (14 + 24)).take 16 = Ipv6Addr.octets a.dstIp := by
    rw [frameWith6, ← he, slice_append_right]
    simp only [ipv6Header, List.append_assoc]
    rw [← List.append_assoc, ← List.append_assoc, ← List.append_assoc]
    exact slice_append (by simp) (Ipv6Addr.length_octets _).symm
  have hudpLen : be16At (frameWith6 e a udpCksum) (14 + 40 + 4) = UInt16.ofNat (8 + a.payload.length) := by
    obtain ⟨r, hr, hframe⟩ := frameWith6_split he a
    rw [hframe]
    exact be16At_udpLen a udpCksum _ hr
  unfold seedUdp6Cksum
  rw [readSlice_of_le (by omega), hsrc]
  dsimp only [Option.bind_eq_bind, Option.bind_some]
  rw [readSlice_of_le (by omega), hdst, Option.bind_some, read16_of_le (by omega), hudpLen, Option.bind_some,
    Ipv6Addr.ofOctets_octets, Ipv6Addr.ofOctets_octets]
  exact writeAt_udp6Cksum he a udpCksum _

theorem nicUdp6Cksum_asked (hlen : 48 + a.payload.length < 65536) (hl2 : m.l2Len = 14) (hl3 : m.l3Len = 40)
    (hflag : m.olFlags &&& mbufTxUdpCksum = mbufTxUdpCksum) :
    nicUdpCksum m (frameWith6 e a
        (udp6PseudoHeaderChecksum a.srcIp a.dstIp (UInt16.ofNat (8 + a.payload.length)).toNat)) =
      frameWith6 e a (udp6Checksum a.srcIp a.dstIp (udpHeader a 0) a.payload) := by
  rw [← seeded6 a hlen, nicUdpCksum, if_pos hflag, hl2, hl3]
  generalize udp6PseudoHeaderChecksum a.srcIp a.dstIp (UInt16.ofNat (8 + a.payload.length)).toNat = seed
  have hsegment : ((frameWith6 e a seed).drop (14 + 40)).take (udpLenAt (frameWith6 e a seed) (14 + 40)) =
      udpHeader a seed ++ a.payload := by
    obtain ⟨r, hr, hframe⟩ := frameWith6_split he a
    rw [hframe]
    exact segment_eq a seed hr (by omega)
  dsimp only
  rw [hsegment]
  exact patch16_of_writeAt (writeAt_udp6Cksum he a seed _)

end Ipv6

/-! ## What an offload leaves -/

/-- The card restores the frame from what an offload leaves of it: flags, `l3_len` and data. -/
structure Restores (frame : List UInt8) (flags : UInt64) (l3Len : Nat) (data : List UInt8) : Prop where
  untagged : flags &&& mbufTxVlan = 0
  restored : ∀ m : Mbuf, m.olFlags &&& mbufTxIpCksum = flags &&& mbufTxIpCksum →
    m.olFlags &&& mbufTxUdpCksum = flags &&& mbufTxUdpCksum → (0 < l3Len → m.l2Len = 14) → m.l3Len = l3Len →
    nicUdpCksum m (nicIpCksum m data) = frame

theorem nicIpCksum_not_asked (h : m.olFlags &&& mbufTxIpCksum = 0) :
    nicIpCksum m data = data := if_neg (fun hne => hne h)

theorem nicUdpCksum_not_asked (h : m.olFlags &&& mbufTxUdpCksum = 0) :
    nicUdpCksum m data = data := if_neg (by rw [h]; decide)

theorem restores_self (frame : List UInt8) : Restores frame 0 0 frame where
  untagged := by decide
  restored m hip hudp _ _ := by
    rw [nicIpCksum_not_asked (hip.trans (by decide)), nicUdpCksum_not_asked (hudp.trans (by decide))]

theorem offloadIpv4_restores (he : e.length = 14) (a : UdpPacketArgs Ipv4Addr) (tos : UInt8)
    (hlen : 28 + a.payload.length < 65536) (txOffload : UInt64)
    (hframe : frame = frameWith4 e a tos (ipv4Checksum (ipv4Header a tos 0))
      (udpChecksum a.srcIp.octets a.dstIp.octets (udpHeader a 0) a.payload)) :
    ∃ flags l3Len data, offloadIpv4 txOffload frame = some (flags, l3Len, data) ∧ Restores frame flags l3Len data := by
  have hzero := fun ipCksum udpCksum => writeAt_ipCksum he a tos ipCksum udpCksum 0
  have hseed := fun ipCksum udpCksum => seedUdpCksum_eq he a tos ipCksum udpCksum
  have hnicIp := fun (m : Mbuf) udpCksum hl2 hl3 hflag => nicIpCksum_asked he a tos udpCksum (m := m) hl2 hl3 hflag
  have hnicUdp := fun (m : Mbuf) ipCksum hl2 hl3 hflag => nicUdpCksum_asked he a tos ipCksum (m := m) hlen hl2 hl3 hflag
  generalize ipv4Checksum (ipv4Header a tos 0) = ipCksum at hframe hnicIp
  generalize udpChecksum a.srcIp.octets a.dstIp.octets (udpHeader a 0) a.payload = udpCksum at hframe hnicUdp
  generalize udpPseudoHeaderChecksum a.srcIp.octets a.dstIp.octets (UInt16.ofNat (8 + a.payload.length)) = seed
    at hseed hnicUdp
  subst hframe
  unfold offloadIpv4
  generalize (txOffload &&& txOffloadIpv4Cksum != 0) = hasIpCksum
  generalize (txOffload &&& txOffloadUdpCksum != 0) = hasUdpCksum
  -- which of the two checksums is left to the card
  cases hasIpCksum <;> cases hasUdpCksum
  · exact ⟨_, _, _, rfl, restores_self _⟩
  · refine ⟨mbufTxIpv4 ||| 0 ||| mbufTxUdpCksum, 20, frameWith4 e a tos ipCksum seed, ?_, by decide,
      fun m hip hudp hl2 hl3 => ?_⟩
    · change (seedUdpCksum _).bind (fun data => some (_, 20, data)) = _
      rw [hseed, Option.bind_some]
      rfl
    · rw [nicIpCksum_not_asked (hip.trans (by decide)), hnicUdp m _ (hl2 (by decide)) hl3 (hudp.trans (by decide))]
  · refine ⟨mbufTxIpv4 ||| mbufTxIpCksum ||| 0, 20, frameWith4 e a tos 0 udpCksum, ?_, by decide,
      fun m hip hudp hl2 hl3 => ?_⟩
    · change (writeAt _ (14 + 10) (beBytes16 0)).bind (fun data => some (_, 20, data)) = _
      rw [hzero, Option.bind_some]
      rfl
    · rw [hnicIp m _ (hl2 (by decide)) hl3 (by rw [hip]; decide), nicUdpCksum_not_asked (hudp.trans (by decide))]
  · refine ⟨mbufTxIpv4 ||| mbufTxIpCksum ||| mbufTxUdpCksum, 20, frameWith4 e a tos 0 seed, ?_, by decide,
      fun m hip hudp hl2 hl3 => ?_⟩
    · change (writeAt _ (14 + 10) (beBytes16 0)).bind (fun data =>
        (seedUdpCksum data).bind fun data => some (_, 20, data)) = _
      rw [hzero, Option.bind_some, hseed, Option.bind_some]
      rfl
    · rw [hnicIp m _ (hl2 (by decide)) hl3 (by rw [hip]; decide),
        hnicUdp m _ (hl2 (by decide)) hl3 (hudp.trans (by decide))]

theorem offloadIpv6_restores (he : e.length = 14) (a : UdpPacketArgs Ipv6Addr) (hlen : 48 + a.payload.length < 65536)
    (txOffload : UInt64) (hframe : frame = frameWith6 e a (udp6Checksum a.srcIp a.dstIp (udpHeader a 0) a.payload)) :
    ∃ flags l3Len data, offloadIpv6 txOffload frame = some (flags, l3Len, data) ∧ Restores frame flags l3Len data := by
  unfold offloadIpv6
  generalize (txOffload &&& txOffloadUdpCksum != 0) = hasUdpCksum
  cases hasUdpCksum
  · exact ⟨_, _, _, rfl, restores_self _⟩
  · refine ⟨mbufTxIpv6 ||| mbufTxUdpCksum, 40, frameWith6 e a (udp6PseudoHeaderChecksum a.srcIp a.dstIp
      (UInt16.ofNat (8 + a.payload.length)).toNat), ?_, by decide, fun m hip hudp hl2 hl3 => ?_⟩
    · change (seedUdp6Cksum frame).bind (fun data => some (_, 40, data)) = _
      rw [hframe, seedUdp6Cksum_eq he, Option.bind_some]
    · rw [nicIpCksum_not_asked (hip.trans (by decide)),
        nicUdp6Cksum_asked he a hlen (hl2 (by decide)) hl3 (hudp.trans (by decide)), hframe]

/-- The card restores what the offload left out, over IPv4. -/
theorem offloadChecksums_udpFrame (txOffload : UInt64) (a : UdpFrameArgs Ipv4Addr) (tag : Option UInt16) (tos : UInt8)
    (hlen : 28 + a.payload.length < 65536) :
    ∃ flags l3Len data, offloadChecksums txOffload (udpFrame a tag tos) = some (flags, l3Len, data) ∧
      Restores (udpFrame a tag tos) flags l3Len data := by
  have hsize := length_udpFrame a tag tos
  have heth := length_ethHeader a tag 0x0800
  have htype : be16At (udpFrame a tag tos) 12 = tag.elim 0x0800 fun _ => 0x8100 := be16At_ethHeader a tag _ _
  change _ = (ethHeader a tag 0x0800).length + _ + _ at hsize
  unfold offloadChecksums
  split_ifs with hoffload
  · rw [read16_of_le (by omega), Option.bind_eq_bind, Option.bind_some, htype]
    cases tag with
    | none =>
      rw [Option.elim_none, if_pos ⟨rfl, by omega⟩]
      exact offloadIpv4_restores heth a tos hlen txOffload rfl
    | some tci =>
      -- a tagged frame has an ethertype of its own
      rw [Option.elim_some, if_neg (fun h => absurd h.1 (by decide)), if_neg (fun h => absurd h.1 (by decide))]
      exact ⟨_, _, _, rfl, restores_self _⟩
  · exact ⟨_, _, _, rfl, restores_self _⟩

/-- The card restores what the offload left out, over IPv6. -/
theorem offloadChecksums_udp6Frame (txOffload : UInt64) (a : UdpFrameArgs Ipv6Addr)
    (hlen : 48 + a.payload.length < 65536) :
    ∃ flags l3Len data, offloadChecksums txOffload (udp6Frame a) = some (flags, l3Len, data) ∧
      Restores (udp6Frame a) flags l3Len data := by
  have hsize := length_udp6Frame a
  have htype : be16At (udp6Frame a) 12 = 0x86DD := be16At_ethHeader a none _ _
  unfold offloadChecksums
  split_ifs with hoffload
  · rw [read16_of_le (by omega), Option.bind_eq_bind, Option.bind_some, htype,
      if_neg (fun h => absurd h.1 (by decide)), if_pos ⟨rfl, by omega⟩]
    exact offloadIpv6_restores (length_ethHeader a none _) a hlen txOffload rfl
  · exact ⟨_, _, _, rfl, restores_self _⟩

/-! ## On the wire -/

def wireFrame (hwVlanTci : Option UInt16) (frame : List UInt8) : List UInt8 :=
  hwVlanTci.elim frame (insertTag · frame)

/-- The frame is refused for its length, or it goes on the wire as it was built. -/
def SentAsBuilt (txOffload : UInt64) (bufCapacity : UInt16) (hwVlanTci : Option UInt16) (frame : List UInt8) : Prop :=
  if bufCapacity.toNat < frame.length then
    sendFrameMode txOffload bufCapacity frame hwVlanTci =
      some (.error (.frameTooLarge frame.length bufCapacity.toNat))
  else ∃ m, sendFrameMode txOffload bufCapacity frame hwVlanTci = some (.ok m) ∧
    nicTransmit m = wireFrame hwVlanTci frame

theorem or_and_of_and_eq_zero {a b c : UInt64} (h : a &&& c = 0) : (a ||| b) &&& c = b &&& c := by
  have hdistrib : (a ||| b) &&& c = (a &&& c) ||| (b &&& c) := UInt64.toBitVec_inj.1 BitVec.and_or_distrib_right
  rw [hdistrib, h, UInt64.zero_or]

theorem sentAsBuilt_of_restores {txOffload flags : UInt64} {l3Len : Nat} (bufCapacity : UInt16)
    {hwVlanTci : Option UInt16} (hleft : offloadChecksums txOffload frame = some (flags, l3Len, data))
    (hrestores : Restores frame flags l3Len data)
    (htag : hwVlanTci.isSome → (txOffload &&& txOffloadVlanInsert != 0) = true) :
    SentAsBuilt txOffload bufCapacity hwVlanTci frame := by
  have hfilter : hwVlanTci.filter (fun _ => txOffload &&& txOffloadVlanInsert != 0) = hwVlanTci := by
    cases hwVlanTci with
    | none => rfl
    | some tci => exact Option.filter_some_pos (htag rfl)
  have hflags : ∀ k, mbufTxVlan &&& k = 0 →
      ((if hwVlanTci.isSome then mbufTxVlan else 0) ||| flags) &&& k = flags &&& k := by
    intro k hk
    apply or_and_of_and_eq_zero
    split
    · exact hk
    · exact UInt64.zero_and
  unfold SentAsBuilt sendFrameMode
  split_ifs with hcap
  · rfl
  rw [hleft, hfilter]
  refine ⟨_, rfl, ?_⟩
  rw [nicTransmit, hrestores.restored _ (hflags _ (by decide)) (hflags _ (by decide)) (fun h => if_pos h) rfl,
    nicVlanInsert]
  cases hwVlanTci with
  | none =>
    refine if_neg (fun h => h ?_)
    exact (or_and_of_and_eq_zero UInt64.zero_and).trans hrestores.untagged
  | some tci =>
    refine if_pos fun h => ?_
    have hvlan : (flags ||| mbufTxVlan) &&& mbufTxVlan = mbufTxVlan &&& mbufTxVlan :=
      or_and_of_and_eq_zero hrestores.untagged
    rw [UInt64.or_comm] at hvlan
    exact absurd (hvlan.symm.trans h) (by decide)

/-! ## The frames of a socket -/

theorem buildUdpFrameInto_ok {a : UdpFrameArgs Ipv4Addr} (h : buildUdpFrameInto out a = some (.ok n, frame)) :
    frame = udpFrame a none 0 ∧ a.payload.length ≤ 9015 - 42 := by
  by_cases hlen : a.payload.length ≤ 9015 - 42
  · rw [buildUdpFrameInto_eq out hlen] at h
    cases h
    exact ⟨rfl, hlen⟩
  · rw [buildUdpFrameInto, if_pos (Nat.not_le.1 hlen)] at h
    cases h

theorem buildUdpFrameIntoVlan_ok {a : UdpFrameArgs Ipv4Addr} {vlan : VlanConfig}
    (h : buildUdpFrameIntoVlan out a vlan = some (.ok n, frame)) :
    frame = udpFrame a (some vlan.encodeTci) 0 ∧ a.payload.length ≤ 9015 - 46 := by
  by_cases hlen : a.payload.length ≤ 9015 - 46
  · rw [buildUdpFrameIntoVlan_eq out vlan hlen] at h
    cases h
    exact ⟨rfl, hlen⟩
  · rw [buildUdpFrameIntoVlan, if_pos (Nat.not_le.1 hlen)] at h
    cases h

theorem buildUdp6FrameInto_ok {a : UdpFrameArgs Ipv6Addr} (h : buildUdp6FrameInto out a = some (.ok n, frame)) :
    frame = udp6Frame a ∧ a.payload.length ≤ 9015 - 62 := by
  by_cases hlen : a.payload.length ≤ 9015 - 62
  · rw [buildUdp6FrameInto_eq out hlen] at h
    cases h
    exact ⟨rfl, hlen⟩
  · rw [buildUdp6FrameInto, if_pos (Nat.not_le.1 hlen)] at h
    cases h

theorem tunnelFrame_ok {a : TunnelFrameArgs Ipv4Addr} {payload : List UInt8}
    (h : tunnelFrame outerIpv4 a payload = some (.ok n, frame)) :
    frame = udpFrame (a.outer payload) none 0 ∧ 28 + payload.length < 65536 := by
  unfold tunnelFrame at h
  split_ifs at h with hfit
  cases h
  exact ⟨rfl, hfit⟩

/-- **What a socket sends over IPv4.** A UDP frame, tunnels included; the card is asked for a tag only if it can insert
one. -/
theorem buildFrameV4_ok {cfg : SocketConfig} {scratch payload : List UInt8} {dstMac : MacAddr} {dstIp : Ipv4Addr}
    {dstPort : UInt16} {hwVlanTci : Option UInt16}
    (h : buildFrameV4 cfg scratch dstMac dstIp dstPort payload = some (.ok hwVlanTci, frame)) :
    ∃ a tag, frame = udpFrame a tag 0 ∧ 28 + a.payload.length < 65536 ∧ (hwVlanTci.isSome → cfg.hasHwVlanInsert) := by
  have hinv : ∀ {x : Option (Except UdpError Nat × List UInt8)} {tci : Option UInt16},
      (x.bind fun r => some (r.1.map fun _ => tci, r.2)) = some (.ok hwVlanTci, frame) →
      hwVlanTci = tci ∧ ∃ n, x = some (.ok n, frame) := by
    intro x tci hx
    obtain ⟨⟨r, f⟩, rfl, hr⟩ := Option.bind_eq_some_iff.1 hx
    cases r with
    | error e => cases hr
    | ok n =>
      cases hr
      exact ⟨rfl, n, rfl⟩
  unfold buildFrameV4 at h
  dsimp only at h
  split at h
  · obtain ⟨rfl, n, hbuild⟩ := hinv h
    rw [buildVxlanFrameInto_eq] at hbuild
    obtain ⟨rfl, hfit⟩ := tunnelFrame_ok hbuild
    exact ⟨_, _, rfl, hfit, nofun⟩
  · obtain ⟨rfl, n, hbuild⟩ := hinv h
    rw [buildGeneveFrameInto_eq _ _ (GeneveHeader.consistent_new _)] at hbuild
    obtain ⟨rfl, hfit⟩ := tunnelFrame_ok hbuild
    exact ⟨_, _, rfl, hfit, nofun⟩
  · obtain ⟨rfl, n, hbuild⟩ := hinv h
    rw [buildGueFrameInto_eq] at hbuild
    obtain ⟨rfl, hfit⟩ := tunnelFrame_ok hbuild
    exact ⟨_, _, rfl, hfit, nofun⟩
  · split at h
    · split at h
      case isTrue hhw =>
        obtain ⟨rfl, n, hbuild⟩ := hinv h
        obtain ⟨rfl, hfit⟩ := buildUdpFrameInto_ok hbuild
        exact ⟨_, _, rfl, by omega, fun _ => (Bool.and_eq_true_iff.1 hhw).1⟩
      case isFalse =>
        obtain ⟨rfl, n, hbuild⟩ := hinv h
        obtain ⟨rfl, hfit⟩ := buildUdpFrameIntoVlan_ok hbuild
        exact ⟨_, _, rfl, by omega, nofun⟩
    · obtain ⟨rfl, n, hbuild⟩ := hinv h
      obtain ⟨rfl, hfit⟩ := buildUdpFrameInto_ok hbuild
      exact ⟨_, _, rfl, by omega, nofun⟩

/-- **Transparent offload.** Whatever the capabilities of the card, a frame that a socket builds, plain, tagged or
through a tunnel, goes on the wire as it was built in software, with the tag that the card was asked to insert. -/
theorem offload_transparent (cfg : SocketConfig) (scratch : List UInt8) (bufCapacity : UInt16) (dstMac : MacAddr)
    (dstPort : UInt16) (payload frame : List UInt8) :
    (∀ dstIp hwVlanTci, buildFrameV4 cfg scratch dstMac dstIp dstPort payload = some (.ok hwVlanTci, frame) →
      SentAsBuilt cfg.txOffload bufCapacity hwVlanTci frame) ∧
    ∀ srcIp srcPort dstIp n, buildFrameV6 cfg scratch srcIp srcPort dstMac dstIp dstPort payload =
      some (.ok n, frame) → SentAsBuilt cfg.txOffload bufCapacity none frame := by
  constructor
  · intro dstIp hwVlanTci h
    obtain ⟨a, tag, rfl, hfit, htag⟩ := buildFrameV4_ok h
    obtain ⟨flags, l3Len, data, hleft, hrestores⟩ := offloadChecksums_udpFrame cfg.txOffload a tag 0 hfit
    exact sentAsBuilt_of_restores bufCapacity hleft hrestores htag
  · intro srcIp srcPort dstIp n h
    obtain ⟨rfl, hfit⟩ := buildUdp6FrameInto_ok h
    obtain ⟨flags, l3Len, data, hleft, hrestores⟩ := offloadChecksums_udp6Frame cfg.txOffload _
      (Nat.lt_of_le_of_lt (Nat.add_le_add_left hfit 48) (by decide))
    exact sentAsBuilt_of_restores bufCapacity hleft hrestores nofun

/-- A card that offers all three offloads sends a plain frame as it was built. -/
theorem offload_transparent_sample :
    SentAsBuilt 7 2048 none (udpFrame sampleArgs none 0) :=
  (offload_transparent
    { localAddr := .v4 sampleArgs.srcIp sampleArgs.srcPort, mac := sampleArgs.srcMac, txOffload := 7 } [] 2048
    sampleArgs.dstMac sampleArgs.dstPort sampleArgs.payload _).1 sampleArgs.dstIp none
    (by
      change (buildUdpFrameInto [] sampleArgs).bind (fun r => some (r.1.map fun _ => none, r.2)) = _
      rw [buildUdpFrameInto_eq [] (by decide)]
      rfl)

end DpdkStdlib.Udp
