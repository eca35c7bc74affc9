import DpdkStdlib.Udp.Parse

/-!
# What the checksum verifiers accept (`lib.rs`, `ipv6.rs`)

Validity of a checksum is stated on the bytes: the one's-complement sum of the words it covers is all ones.  The
verifiers decide it, for every byte string.
-/

namespace DpdkStdlib.Udp
open DpdkStdlib.Lib

/-! ## Folded sums -/

theorem toNat_fold32 {s : Nat} (h : s < 2 ^ 32) : (fold32 s).toNat = endAround s := by
  have hle := endAround_le s
  rw [fold32, Nat.mod_eq_of_lt h, foldCarry_two h, UInt16.toNat_ofNat']
  omega

theorem fold32_beq {s : Nat} (h : s < 2 ^ 32) : (fold32 s == 0xFFFF) = decide (endAround s = 65535) := by
  rw [Bool.eq_iff_iff, beq_iff_eq, decide_eq_true_eq, ← UInt16.toNat_inj, toNat_fold32 h]
  rfl

theorem onesComplementSum_eq (data : List UInt8) (h : data.length < 2 ^ 32) :
    onesComplementSum data = endAround (wordSum data) := by
  have hle := dwordSum_le data
  have hlt : dwordSum data < 2 ^ 64 := by omega
  rw [onesComplementSum, Nat.mod_eq_of_lt hlt, foldCarry_five hlt, endAround_dwordSum]

theorem toNat_nonzeroChecksum (x : UInt16) : (nonzeroChecksum x).toNat = if x.toNat = 0 then 65535 else x.toNat := by
  rw [nonzeroChecksum]
  by_cases h : x = 0
  · rw [if_pos h, if_pos (by rw [h]; rfl)]
    rfl
  · rw [if_neg h, if_neg (fun hz : x.toNat = 0 => h (UInt16.toNat_inj.1 hz))]

theorem udpHeaderSum_le {udpHeader : List UInt8} (h : udpHeader.length = 8) : udpHeaderSum udpHeader ≤ 65535 * 3 := by
  have hle := wordSum_le (udpHeader.take 6)
  rw [udpHeaderSum, List.drop_of_length_le (by omega), wordSum_nil]
  rw [List.length_take] at hle
  omega

/-! ## Validity -/

def ipHeaderLenAt (frame : List UInt8) (l3 : Nat) : Nat := (byteAt frame l3 &&& 0x0F).toNat * 4

theorem ipHeaderLenAt_le (frame : List UInt8) (l3 : Nat) : ipHeaderLenAt frame l3 ≤ 60 := by
  have h : (byteAt frame l3 &&& 0x0F).toNat ≤ 15 := by
    rw [UInt8.toNat_and]
    exact Nat.and_le_right
  rw [ipHeaderLenAt]
  omega

def Ipv4HeaderValid (frame : List UInt8) (l3 : Nat) : Prop :=
  20 ≤ ipHeaderLenAt frame l3 ∧ l3 + ipHeaderLenAt frame l3 ≤ frame.length ∧
    endAround (wordSum ((frame.drop l3).take (ipHeaderLenAt frame l3))) = 65535
deriving Decidable

def udpLenAt (frame : List UInt8) (udpStart : Nat) : Nat := (be16At frame (udpStart + 4)).toNat

theorem udpLenAt_lt (frame : List UInt8) (udpStart : Nat) : udpLenAt frame udpStart < 65536 := UInt16.toNat_lt _

/-- The UDP datagram at `udpStart` of the IPv4 packet at `l3` carries no checksum or a valid one. -/
def Udp4Valid (frame : List UInt8) (l3 udpStart : Nat) : Prop :=
  be16At frame (udpStart + 6) = 0 ∨ udpStart + udpLenAt frame udpStart ≤ frame.length ∧
    endAround (wordSum ((frame.drop (l3 + 12)).take 4) + wordSum ((frame.drop (l3 + 16)).take 4) + 17 +
      udpLenAt frame udpStart + wordSum ((frame.drop udpStart).take (udpLenAt frame udpStart))) = 65535
deriving Decidable

/-- The UDP datagram at `udpStart` of the IPv6 packet at `l3` carries a valid checksum. -/
def Udp6Valid (frame : List UInt8) (l3 udpStart : Nat) : Prop :=
  be16At frame (udpStart + 6) ≠ 0 ∧ 8 ≤ udpLenAt frame udpStart ∧ udpStart + udpLenAt frame udpStart ≤ frame.length ∧
    endAround (wordSum ((frame.drop (l3 + 8)).take 16) + wordSum ((frame.drop (l3 + 24)).take 16) + 17 +
      udpLenAt frame udpStart + wordSum ((frame.drop udpStart).take (udpLenAt frame udpStart))) = 65535
deriving Decidable

/-! ## The verifiers -/

def ipv4ChecksumOk (frame : List UInt8) : Prop := ∃ layout ∈ layoutOf frame none, Ipv4HeaderValid frame layout.l3Offset
deriving Decidable

/-- What `verify_udp_checksum` accepts. -/
def udpChecksumOk (frame : List UInt8) : Prop :=
  ∃ layout ∈ layoutOf frame none, layout.l3Offset + 20 + 8 ≤ frame.length ∧
    udpStart4 frame layout + 8 ≤ frame.length ∧ Udp4Valid frame layout.l3Offset (udpStart4 frame layout)
deriving Decidable

def udp6ChecksumOk (frame : List UInt8) : Prop :=
  ∃ layout ∈ layoutOf frame none, layout.ethertype = 0x86DD ∧ layout.l3Offset + 40 ≤ frame.length ∧
    ∃ udpStart ∈ udpStart6 frame layout, udpStart + 8 ≤ frame.length ∧ Udp6Valid frame layout.l3Offset udpStart
deriving Decidable

theorem exists_layout {o : Option FrameLayout} {layout : FrameLayout} (h : o = some layout) (p : FrameLayout → Prop) :
    (∃ l ∈ o, p l) ↔ p layout := by
  subst h
  exact ⟨fun ⟨l, hl, hp⟩ => Option.some.inj hl ▸ hp, fun hp => ⟨layout, rfl, hp⟩⟩

theorem verifyIpv4Checksum_eq (frame : List UInt8) : verifyIpv4Checksum frame = some (decide (ipv4ChecksumOk frame)) := by
  unfold verifyIpv4Checksum
  rw [detectVlan_eq]
  cases hlayout : layoutOf frame none with
  | none => simp [ipv4ChecksumOk, hlayout]
  | some layout =>
    have hle := ipHeaderLenAt_le frame layout.l3Offset
    have hiff : ipv4ChecksumOk frame ↔ Ipv4HeaderValid frame layout.l3Offset := exists_layout hlayout _
    rw [decide_eq_decide.2 hiff]
    dsimp only [Option.bind_eq_bind, Option.bind_some]
    by_cases hlen : frame.length < layout.l3Offset + 20
    · rw [if_pos hlen, decide_eq_false (fun h => absurd h.2.1 (by have := h.1; omega))]
      rfl
    rw [if_neg hlen, getElem?_of_lt (by omega)]
    change (if ipHeaderLenAt frame layout.l3Offset < 20 ∨
      frame.length < layout.l3Offset + ipHeaderLenAt frame layout.l3Offset then some false else _) = _
    by_cases hbad : ipHeaderLenAt frame layout.l3Offset < 20 ∨
        frame.length < layout.l3Offset + ipHeaderLenAt frame layout.l3Offset
    · rw [if_pos hbad, decide_eq_false (fun h => absurd h.2.1 (by have := h.1; omega))]
    rw [if_neg hbad]
    have hsum := wordSum_le ((frame.drop layout.l3Offset).take (ipHeaderLenAt frame layout.l3Offset))
    rw [length_slice (by omega)] at hsum
    change (readSlice frame layout.l3Offset (ipHeaderLenAt frame layout.l3Offset)).bind _ = _
    rw [readSlice_of_le (by omega), Option.bind_some, fold32_beq (by omega)]
    refine congrArg some (decide_eq_decide.2 ?_)
    exact ⟨fun h => ⟨by omega, by omega, h⟩, fun h => h.2.2⟩

theorem verifyUdpChecksum_eq (frame : List UInt8) : verifyUdpChecksum frame = some (decide (udpChecksumOk frame)) := by
  unfold verifyUdpChecksum
  rw [detectVlan_eq]
  cases hlayout : layoutOf frame none with
  | none => simp [udpChecksumOk, hlayout]
  | some layout =>
    have hiff : udpChecksumOk frame ↔ layout.l3Offset + 20 + 8 ≤ frame.length ∧
        udpStart4 frame layout + 8 ≤ frame.length ∧ Udp4Valid frame layout.l3Offset (udpStart4 frame layout) :=
      exists_layout hlayout _
    rw [decide_eq_decide.2 hiff]
    dsimp only [Option.bind_eq_bind, Option.bind_some]
    by_cases hlen : frame.length < layout.l3Offset + 20 + 8
    · rw [if_pos hlen, decide_eq_false (fun h => absurd h.1 (by omega))]
      rfl
    rw [if_neg hlen, getElem?_of_lt (by omega)]
    generalize hstart : udpStart4 frame layout = udpStart
    change (if frame.length < udpStart4 frame layout + 8 then some false else _) = _
    rw [hstart]
    by_cases hudp : frame.length < udpStart + 8
    · rw [if_pos hudp, decide_eq_false (fun h => absurd h.2.1 (by omega))]
    rw [if_neg hudp]
    change (read16 frame (udpStart4 frame layout + 6)).bind _ = _
    rw [hstart, read16_of_le (by omega), Option.bind_some]
    by_cases hzero : be16At frame (udpStart + 6) = 0
    · rw [if_pos hzero, decide_eq_true ⟨by omega, by omega, Or.inl hzero⟩]
      rfl
    rw [if_neg hzero, readSlice_of_le (by omega), readSlice_of_le (by omega)]
    change (read16 frame (udpStart4 frame layout + 4)).bind _ = _
    rw [hstart, read16_of_le (by omega), Option.bind_some]
    change (if frame.length < udpStart4 frame layout + udpLenAt frame udpStart then some false else
      (readSlice frame (udpStart4 frame layout) (udpLenAt frame udpStart)).bind _) = _
    rw [hstart]
    by_cases hlong : frame.length < udpStart + udpLenAt frame udpStart
    · rw [if_pos hlong, decide_eq_false]
      rintro ⟨-, -, h | h⟩
      · exact hzero h
      · omega
    have hlt := udpLenAt_lt frame udpStart
    have hsrc := wordSum_le ((frame.drop (layout.l3Offset + 12)).take 4)
    have hdst := wordSum_le ((frame.drop (layout.l3Offset + 16)).take 4)
    rw [length_slice (by omega)] at hsrc hdst
    have hdata := onesComplementSum_eq ((frame.drop udpStart).take (udpLenAt frame udpStart))
      (by rw [length_slice (by omega)]; omega)
    have hdata' := endAround_le (wordSum ((frame.drop udpStart).take (udpLenAt frame udpStart)))
    rw [if_neg hlong, readSlice_of_le (by omega), Option.bind_some, hdata]
    change some (fold32 (_ + udpLenAt frame udpStart + _) == _) = _
    rw [fold32_beq (by omega), endAround_add]
    refine congrArg some (decide_eq_decide.2 ?_)
    exact ⟨fun h => ⟨by omega, by omega, .inr ⟨by omega, h⟩⟩, fun h => (h.2.2.resolve_left hzero).2⟩

theorem nonzeroChecksum_eq_iff {s : Nat} {stored : UInt16} (hs : 0 < s) (hlt : s < 2 ^ 32) (hne : stored ≠ 0) :
    nonzeroChecksum (onesComplement s) = stored ↔ endAround (s + stored.toNat) = 65535 := by
  have hle := endAround_le s
  have hstored := stored.toNat_lt
  have hpos : 0 < stored.toNat := Nat.pos_of_ne_zero fun h => hne (UInt16.toNat_inj.1 h)
  rw [endAround_add_eq_iff hs hpos (by omega), ← UInt16.toNat_inj, toNat_nonzeroChecksum, toNat_onesComplement hlt]
  split_ifs <;> omega

theorem not_fold32 {s : Nat} (h : s < 2 ^ 32) : ~~~ fold32 s = onesComplement s := by
  apply UInt16.toNat_inj.1
  rw [UInt16.toNat_not, toNat_fold32 h, toNat_onesComplement h]
  rfl

theorem nonzeroChecksum_ne_zero (x : UInt16) : nonzeroChecksum x ≠ 0 := by
  rw [nonzeroChecksum]
  split_ifs with h
  · decide
  · exact h

theorem wordSum_segment {udpHeader : List UInt8} (payload : List UInt8) (h : udpHeader.length = 8) :
    wordSum (udpHeader ++ payload) = udpHeaderSum udpHeader + wordSum payload + (be16At udpHeader 6).toNat := by
  rw [wordSum_append _ (by rw [h]), wordSum_split (i := 6) (by omega) (by decide), udpHeaderSum, Nat.add_right_comm]

theorem udpChecksum_eq_iff {srcIp dstIp udpHeader payload : List UInt8} {stored : UInt16} (hsrc : srcIp.length = 4)
    (hdst : dstIp.length = 4) (hheader : udpHeader.length = 8) (hpayload : 8 + payload.length < 65536)
    (hstored : be16At udpHeader 6 = stored) (hne : stored ≠ 0) :
    udpChecksum srcIp dstIp udpHeader payload = stored ↔
      endAround (wordSum srcIp + wordSum dstIp + 17 + (8 + payload.length) + wordSum (udpHeader ++ payload)) = 65535 := by
  have hsrc' := wordSum_le srcIp
  have hdst' := wordSum_le dstIp
  have hhdr := udpHeaderSum_le hheader
  have hpay := endAround_le (wordSum payload)
  have hmod := endAround_mod (wordSum payload)
  rw [hsrc] at hsrc'
  rw [hdst] at hdst'
  rw [udpChecksum, onesComplementSum_eq payload (by omega), nonzeroChecksum_eq_iff (by omega) (by omega) hne,
    wordSum_segment payload hheader, hstored]
  exact iff_of_eq (congrArg (· = 65535) (endAround_congr (by omega) (by omega)))

theorem udp6Checksum_eq_iff (srcIp dstIp : Ipv6Addr) {udpHeader payload : List UInt8} {stored : UInt16}
    (hheader : udpHeader.length = 8) (hpayload : 8 + payload.length < 65536) (hstored : be16At udpHeader 6 = stored)
    (hne : stored ≠ 0) :
    udp6Checksum srcIp dstIp udpHeader payload = stored ↔
      endAround (wordSum (Ipv6Addr.octets srcIp) + wordSum (Ipv6Addr.octets dstIp) + 17 + (8 + payload.length) +
        wordSum (udpHeader ++ payload)) = 65535 := by
  have hsrc := endAround_le (wordSum (Ipv6Addr.octets srcIp))
  have hdst := endAround_le (wordSum (Ipv6Addr.octets dstIp))
  have hpay := endAround_le (wordSum payload)
  have hsrc' := endAround_mod (wordSum (Ipv6Addr.octets srcIp))
  have hdst' := endAround_mod (wordSum (Ipv6Addr.octets dstIp))
  have hpay' := endAround_mod (wordSum payload)
  have hhdr := udpHeaderSum_le hheader
  have hpseudo : pseudoHeader6Sum srcIp dstIp (8 + payload.length) = endAround (wordSum (Ipv6Addr.octets srcIp)) +
      endAround (wordSum (Ipv6Addr.octets dstIp)) + (8 + payload.length) + 17 := by
    rw [pseudoHeader6Sum, onesComplementSum_eq _ (by rw [Ipv6Addr.length_octets]; decide),
      onesComplementSum_eq _ (by rw [Ipv6Addr.length_octets]; decide), Nat.mod_eq_of_lt (by omega),
      Nat.mod_eq_of_lt hpayload, Nat.div_eq_of_lt hpayload]
    omega
  rw [udp6Checksum, hpseudo, onesComplementSum_eq payload (by omega), not_fold32 (by omega),
    nonzeroChecksum_eq_iff (by omega) (by omega) hne, wordSum_segment payload hheader, hstored]
  exact iff_of_eq (congrArg (· = 65535) (endAround_congr (by omega) (by omega)))

theorem verifySegment6_eq {frame : List UInt8} {l3 udpStart : Nat} (hl3 : l3 + 40 ≤ frame.length) :
    (if frame.length < udpStart + 8 then some false
      else (read16 frame (udpStart + 6)).bind fun storedCksum => if storedCksum = 0 then some false
        else (readSlice frame (l3 + 8) 16).bind fun src => (readSlice frame (l3 + 24) 16).bind fun dst =>
          (read16 frame (udpStart + 4)).bind fun udpLen =>
            if udpLen.toNat < 8 ∨ frame.length < udpStart + udpLen.toNat then some false
            else (readSlice frame udpStart 8).bind fun udpHeader =>
              (readSlice frame (udpStart + 8) (udpLen.toNat - 8)).bind fun payload =>
                some (udp6Checksum (Ipv6Addr.ofOctets src) (Ipv6Addr.ofOctets dst) udpHeader payload == storedCksum)) =
      some (decide (udpStart + 8 ≤ frame.length ∧ Udp6Valid frame l3 udpStart)) := by
  by_cases hlen : frame.length < udpStart + 8
  · rw [if_pos hlen, decide_eq_false (fun h => absurd h.1 (by omega))]
  rw [if_neg hlen, read16_of_le (by omega), Option.bind_some]
  by_cases hzero : be16At frame (udpStart + 6) = 0
  · rw [if_pos hzero, decide_eq_false (fun h => h.2.1 hzero)]
  rw [if_neg hzero, readSlice_of_le (by omega), readSlice_of_le (by omega), read16_of_le (by omega)]
  dsimp only [Option.bind_some]
  change (if udpLenAt frame udpStart < 8 ∨ frame.length < udpStart + udpLenAt frame udpStart then some false else
    (readSlice frame udpStart 8).bind fun _ => (readSlice frame (udpStart + 8) (udpLenAt frame udpStart - 8)).bind _) = _
  by_cases hbad : udpLenAt frame udpStart < 8 ∨ frame.length < udpStart + udpLenAt frame udpStart
  · rw [if_pos hbad, decide_eq_false (fun h => absurd h.2.2.2.1 (by have := h.2.2.1; omega))]
  rw [if_neg hbad, readSlice_of_le (by omega), readSlice_of_le (by omega)]
  dsimp only [Option.bind_some]
  have hlt := udpLenAt_lt frame udpStart
  have hheader : ((frame.drop udpStart).take 8).length = 8 := length_slice (by omega)
  have hpayload : 8 + ((frame.drop (udpStart + 8)).take (udpLenAt frame udpStart - 8)).length < 65536 := by
    rw [length_slice (by omega)]
    omega
  have hiff := udp6Checksum_eq_iff (Ipv6Addr.ofOctets ((frame.drop (l3 + 8)).take 16))
    (Ipv6Addr.ofOctets ((frame.drop (l3 + 24)).take 16)) hheader hpayload (be16At_slice (by omega)) hzero
  rw [Ipv6Addr.octets_ofOctets (length_slice (by omega)), Ipv6Addr.octets_ofOctets (length_slice (by omega)),
    length_slice (by omega), Nat.add_sub_cancel' (by omega), slice_append_slice _ (by omega)] at hiff
  rw [Bool.eq_iff_iff.2 (beq_iff_eq.trans (hiff.trans decide_eq_true_iff.symm))]
  refine congrArg some (decide_eq_decide.2 ?_)
  exact ⟨fun h => ⟨by omega, hzero, by omega, by omega, h⟩, fun h => h.2.2.2.2⟩

theorem verifyUdp6Checksum_eq (frame : List UInt8) :
    verifyUdp6Checksum frame = some (decide (udp6ChecksumOk frame)) := by
  unfold verifyUdp6Checksum
  rw [detectVlan_eq]
  cases hlayout : layoutOf frame none with
  | none => simp [udp6ChecksumOk, hlayout]
  | some layout =>
    have hiff : udp6ChecksumOk frame ↔ layout.ethertype = 0x86DD ∧ layout.l3Offset + 40 ≤ frame.length ∧
        ∃ udpStart ∈ udpStart6 frame layout, udpStart + 8 ≤ frame.length ∧
          Udp6Valid frame layout.l3Offset udpStart := exists_layout hlayout _
    have hnone : udpStart6 frame layout = none → ¬ udp6ChecksumOk frame := by
      intro hstart h
      obtain ⟨-, -, u, hu, -⟩ := hiff.1 h
      rw [hstart] at hu
      cases hu
    dsimp only [Option.bind_eq_bind, Option.bind_some]
    by_cases heth : layout.ethertype ≠ 0x86DD
    · rw [if_pos heth, decide_eq_false (fun h => heth (hiff.1 h).1)]
      rfl
    rw [if_neg heth]
    by_cases hlen : frame.length < layout.l3Offset + 40
    · rw [if_pos hlen, decide_eq_false (fun h => absurd (hiff.1 h).2.1 (by omega))]
      rfl
    rw [if_neg hlen, walkExtensionHeaders_eq]
    cases hup : upperLayer (frame.drop layout.l3Offset) with
    | none =>
      rw [decide_eq_false (hnone (by rw [udpStart6, hup]; rfl))]
      rfl
    | some nh =>
      dsimp only [Option.bind_some]
      by_cases hproto : nh.protocol = 17
      · have hstart : udpStart6 frame layout = some (layout.l3Offset + nh.payloadOffset) := by
          rw [udpStart6, hup, Option.bind_some, if_pos hproto]
        rw [if_neg (not_not.2 hproto)]
        have hiff' : udp6ChecksumOk frame ↔ layout.l3Offset + nh.payloadOffset + 8 ≤ frame.length ∧
            Udp6Valid frame layout.l3Offset (layout.l3Offset + nh.payloadOffset) := by
          rw [hiff, hstart]
          constructor
          · rintro ⟨-, -, u, hu, h⟩
            exact Option.some.inj hu ▸ h
          · intro h
            exact ⟨not_not.1 heth, by omega, _, rfl, h⟩
        rw [decide_eq_decide.2 hiff']
        exact verifySegment6_eq (by omega)
      · rw [if_pos hproto, decide_eq_false (hnone (by rw [udpStart6, hup, Option.bind_some, if_neg hproto]))]
        rfl

end DpdkStdlib.Udp
