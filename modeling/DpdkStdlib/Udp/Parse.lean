import DpdkStdlib.Udp.Codec
import Mathlib.Tactic.IntervalCases

/-!
# What the UDP parsers read (`lib.rs`, `ipv6.rs`)

Each parser in closed form: the conditions a frame must meet, and the fields as functions of its bytes.  The closed
forms are total, so no byte string takes a parser out of range.
-/

namespace DpdkStdlib.Udp
open DpdkStdlib.Lib

variable {data frame : List UInt8} {i : Nat}

/-! ## Layout -/

def layoutOf (frame : List UInt8) (hwVlanTci : Option UInt16) : Option FrameLayout :=
  if frame.length < 14 then none
  else if be16At frame 12 = 0x8100 then
    if frame.length < 18 then none
    else some { ethertype := be16At frame 16, l3Offset := 18, vlanTci := some (be16At frame 14) }
  else some { ethertype := be16At frame 12, l3Offset := 14, vlanTci := hwVlanTci }

theorem detectVlan_eq (frame : List UInt8) (hwVlanTci : Option UInt16) :
    detectVlan frame hwVlanTci = some (layoutOf frame hwVlanTci) := by
  unfold detectVlan layoutOf
  by_cases hlen : frame.length < 14
  · rw [if_pos hlen, if_pos hlen]
    rfl
  rw [if_neg hlen, if_neg hlen, read16_of_le (by omega)]
  dsimp only [Option.bind_eq_bind, Option.bind_some]
  by_cases htag : be16At frame 12 = 0x8100
  · rw [if_pos htag, if_pos htag]
    by_cases hlen' : frame.length < 18
    · rw [if_pos hlen', if_pos hlen']
      rfl
    · rw [if_neg hlen', if_neg hlen', read16_of_le (by omega), read16_of_le (by omega)]
      rfl
  · rw [if_neg htag, if_neg htag]
    rfl

theorem layoutOf_bounds {hw : Option UInt16} {layout : FrameLayout} (h : layoutOf frame hw = some layout) :
    (layout.l3Offset = 14 ∨ layout.l3Offset = 18) ∧ layout.l3Offset ≤ frame.length := by
  unfold layoutOf at h
  split_ifs at h with h1 h2 h3 <;> cases h
  · exact ⟨.inr rfl, by dsimp only; omega⟩
  · exact ⟨.inl rfl, by dsimp only; omega⟩

/-! ## Extension headers -/

theorem walkLoop_isSome {fuel : Nat} {nextHeader : UInt8} {offset : Nat} (hoff : offset ≤ data.length)
    (hfuel : data.length < 8 * fuel + offset) : ∃ nh, walkLoop data fuel nextHeader offset = some nh := by
  induction fuel generalizing nextHeader offset with
  | zero => omega
  | succ fuel ih =>
    rw [walkLoop]
    by_cases hext : nextHeader = 0 ∨ nextHeader = 43 ∨ nextHeader = 60
    · rw [if_pos hext]
      by_cases h2 : offset + 2 > data.length
      · rw [if_pos h2]
        exact ⟨none, rfl⟩
      rw [if_neg h2, getElem?_of_lt (by omega), getElem?_of_lt (by omega)]
      dsimp only [Option.bind_eq_bind, Option.bind_some]
      split_ifs with hlong
      · exact ⟨none, rfl⟩
      · exact ih (by omega) (by omega)
    rw [if_neg hext]
    by_cases hfrag : nextHeader = 44
    · rw [if_pos hfrag]
      by_cases h8 : offset + 8 > data.length
      · rw [if_pos h8]
        exact ⟨none, rfl⟩
      rw [if_neg h8, getElem?_of_lt (by omega)]
      exact ih (by omega) (by omega)
    · rw [if_neg hfrag]
      exact ⟨_, rfl⟩

/-- Where the extension headers of an IPv6 packet lead. -/
def upperLayer (data : List UInt8) : Option Ipv6NextHeader := (walkExtensionHeaders data).getD none

theorem walkExtensionHeaders_eq (data : List UInt8) : walkExtensionHeaders data = some (upperLayer data) := by
  have hsome : ∃ nh, walkExtensionHeaders data = some nh := by
    unfold walkExtensionHeaders
    by_cases hlen : data.length < 40
    · rw [if_pos hlen]
      exact ⟨none, rfl⟩
    · rw [if_neg hlen, getElem?_of_lt (by omega)]
      exact walkLoop_isSome (by omega) (by omega)
  obtain ⟨nh, hnh⟩ := hsome
  rw [upperLayer, hnh]
  rfl

theorem walkLoop_bounds {fuel : Nat} {nextHeader : UInt8} {offset : Nat} {nh : Ipv6NextHeader}
    (hoff : offset ≤ data.length) (h : walkLoop data fuel nextHeader offset = some (some nh)) :
    offset ≤ nh.payloadOffset ∧ nh.payloadOffset ≤ data.length := by
  induction fuel generalizing nextHeader offset with
  | zero => cases h
  | succ fuel ih =>
    rw [walkLoop] at h
    split_ifs at h with hext hshort hfrag hshort
    · cases h
    · obtain ⟨extNext, -, h⟩ := Option.bind_eq_some_iff.1 h
      obtain ⟨extLen, -, h⟩ := Option.bind_eq_some_iff.1 h
      dsimp only at h
      split_ifs at h with hlong
      · cases h
      · obtain ⟨hle, hlen⟩ := ih (Nat.not_lt.1 hlong) h
        exact ⟨(Nat.le_add_right _ _).trans hle, hlen⟩
    · cases h
    · obtain ⟨extNext, -, h⟩ := Option.bind_eq_some_iff.1 h
      obtain ⟨hle, hlen⟩ := ih (Nat.not_lt.1 hshort) h
      exact ⟨(Nat.le_add_right _ _).trans hle, hlen⟩
    · cases h
      exact ⟨Nat.le_refl _, hoff⟩

theorem upperLayer_bounds {nh : Ipv6NextHeader} (h : upperLayer data = some nh) :
    40 ≤ nh.payloadOffset ∧ nh.payloadOffset ≤ data.length := by
  have hwalk := walkExtensionHeaders_eq data
  rw [h, walkExtensionHeaders] at hwalk
  split_ifs at hwalk with hshort
  · cases hwalk
  · obtain ⟨nextHeader, -, hwalk⟩ := Option.bind_eq_some_iff.1 hwalk
    exact walkLoop_bounds (Nat.not_lt.1 hshort) hwalk

theorem upperLayer_of_not_extension (hlen : 40 ≤ data.length)
    (h : ¬ (byteAt data 6 = 0 ∨ byteAt data 6 = 43 ∨ byteAt data 6 = 60 ∨ byteAt data 6 = 44)) :
    upperLayer data = some { protocol := byteAt data 6, payloadOffset := 40 } := by
  obtain ⟨n, hn⟩ : ∃ n, data.length = n + 1 := ⟨data.length - 1, by omega⟩
  rw [upperLayer, walkExtensionHeaders, if_neg (by omega), getElem?_of_lt (by omega), hn]
  change (walkLoop data (n + 1) (byteAt data 6) 40).getD none = _
  rw [walkLoop, if_neg (fun hx => h (by tauto)), if_neg (fun hx => h (by tauto))]
  rfl

/-! ## Fields -/

def macAt (frame : List UInt8) (i : Nat) : MacAddr :=
  #v[byteAt frame i, byteAt frame (i + 1), byteAt frame (i + 2), byteAt frame (i + 3), byteAt frame (i + 4),
    byteAt frame (i + 5)]

def ipv4At (frame : List UInt8) (i : Nat) : Ipv4Addr :=
  ⟨byteAt frame i, byteAt frame (i + 1), byteAt frame (i + 2), byteAt frame (i + 3)⟩

def ipv6At (frame : List UInt8) (i : Nat) : Ipv6Addr := Ipv6Addr.ofOctets ((frame.drop i).take 16)

theorem ipv4At_append_right (b c : List UInt8) (i : Nat) : ipv4At (b ++ c) (b.length + i) = ipv4At c i := by
  simp only [ipv4At, Nat.add_assoc, byteAt_append_right]

theorem readIpv4_of_le (h : i + 4 ≤ frame.length) : readIpv4 frame i = some (ipv4At frame i) := by
  rw [readIpv4, getElem?_of_lt (by omega), getElem?_of_lt (by omega), getElem?_of_lt (by omega),
    getElem?_of_lt (by omega)]
  rfl

theorem slice_six (frame : List UInt8) (h : i + 6 ≤ frame.length) :
    (frame.drop i).take 6 = (macAt frame i).toList := by
  refine List.ext_getElem? fun k => ?_
  by_cases hk : k < 6
  · rw [List.getElem?_take_of_lt hk, List.getElem?_drop, getElem?_of_lt (by omega)]
    interval_cases k <;> rfl
  · rw [List.getElem?_eq_none (by rw [List.length_take]; omega), List.getElem?_eq_none (by simp; omega)]

theorem ofBytes_slice (h : i + 6 ≤ frame.length) : MacAddr.ofBytes ((frame.drop i).take 6) = some (macAt frame i) := by
  rw [slice_six frame h]
  rfl

/-! ## The UDP datagram -/

/-- Ports and payload of the UDP datagram at `udpStart`, if its length field fits the frame. -/
def udpAt (frame : List UInt8) (udpStart : Nat) : Option (UInt16 × UInt16 × List UInt8) :=
  if udpStart + 8 ≤ frame.length ∧ 8 ≤ (be16At frame (udpStart + 4)).toNat ∧
      udpStart + (be16At frame (udpStart + 4)).toNat ≤ frame.length then
    some (be16At frame udpStart, be16At frame (udpStart + 2),
      (frame.drop (udpStart + 8)).take ((be16At frame (udpStart + 4)).toNat - 8))
  else none

theorem udpAt_append_right (b c : List UInt8) (i : Nat) : udpAt (b ++ c) (b.length + i) = udpAt c i := by
  rw [udpAt, udpAt, Nat.add_assoc, Nat.add_assoc, Nat.add_assoc, Nat.add_assoc, be16At_append_right, be16At_append_right,
    be16At_append_right, slice_append_right, List.length_append]
  simp only [Nat.add_le_add_iff_left]

theorem readUdp_eq {P : Type} (frame : List UInt8) (udpStart : Nat) (k : UInt16 → UInt16 → List UInt8 → P) :
    (if frame.length < udpStart + 8 then some none
      else (read16 frame udpStart).bind fun srcPort => (read16 frame (udpStart + 2)).bind fun dstPort =>
        (read16 frame (udpStart + 4)).bind fun udpLen =>
          if udpLen.toNat < 8 ∨ frame.length < udpStart + udpLen.toNat then some none
          else (readSlice frame (udpStart + 8) (udpLen.toNat - 8)).bind fun payload =>
            some (some (k srcPort dstPort payload))) =
      some ((udpAt frame udpStart).map fun d => k d.1 d.2.1 d.2.2) := by
  unfold udpAt
  by_cases hlen : frame.length < udpStart + 8
  · rw [if_pos hlen, if_neg (by omega)]
    rfl
  rw [if_neg hlen, read16_of_le (by omega), read16_of_le (by omega), read16_of_le (by omega)]
  dsimp only [Option.bind_some]
  by_cases hbad : (be16At frame (udpStart + 4)).toNat < 8 ∨ frame.length < udpStart + (be16At frame (udpStart + 4)).toNat
  · rw [if_pos hbad, if_neg (by omega)]
    rfl
  · rw [if_neg hbad, if_pos (by omega), readSlice_of_le (by omega)]
    rfl

/-! ## IPv4 -/

def isUdpOverIpv4 (frame : List UInt8) (layout : FrameLayout) : Prop :=
  layout.l3Offset + 20 + 8 ≤ frame.length ∧ layout.ethertype = 0x0800 ∧
    byteAt frame layout.l3Offset >>> 4 &&& 0x0F = 4 ∧ 20 ≤ (byteAt frame layout.l3Offset &&& 0x0F).toNat * 4 ∧
    byteAt frame (layout.l3Offset + 9) = 17
deriving Decidable

def udpStart4 (frame : List UInt8) (layout : FrameLayout) : Nat :=
  layout.l3Offset + (byteAt frame layout.l3Offset &&& 0x0F).toNat * 4

theorem readIpv4Udp_eq {P : Type} (frame : List UInt8) (layout : FrameLayout)
    (k : Nat → Ipv4Addr → Ipv4Addr → UInt16 → UInt16 → List UInt8 → P)
    (hlen : layout.l3Offset + 20 + 8 ≤ frame.length) (heth : layout.ethertype = 0x0800) :
    ((frame[layout.l3Offset]?).bind fun b => if b >>> 4 &&& 0x0F ≠ 4 then some none
      else (frame[layout.l3Offset]?).bind fun b => if (b &&& 0x0F).toNat * 4 < 20 then some none
        else (frame[layout.l3Offset + 9]?).bind fun proto => if proto ≠ 17 then some none
          else (readIpv4 frame (layout.l3Offset + 12)).bind fun srcIp =>
            (readIpv4 frame (layout.l3Offset + 16)).bind fun dstIp =>
              if frame.length < layout.l3Offset + (b &&& 0x0F).toNat * 4 + 8 then some none
              else (read16 frame (layout.l3Offset + (b &&& 0x0F).toNat * 4)).bind fun srcPort =>
                (read16 frame (layout.l3Offset + (b &&& 0x0F).toNat * 4 + 2)).bind fun dstPort =>
                  (read16 frame (layout.l3Offset + (b &&& 0x0F).toNat * 4 + 4)).bind fun udpLen =>
                    if udpLen.toNat < 8 ∨
                        frame.length < layout.l3Offset + (b &&& 0x0F).toNat * 4 + udpLen.toNat then some none
                    else (readSlice frame (layout.l3Offset + (b &&& 0x0F).toNat * 4 + 8) (udpLen.toNat - 8)).bind
                      fun payload => some (some
                        (k (layout.l3Offset + (b &&& 0x0F).toNat * 4) srcIp dstIp srcPort dstPort payload))) =
      some (if isUdpOverIpv4 frame layout then
        (udpAt frame (udpStart4 frame layout)).map fun d =>
          k (udpStart4 frame layout) (ipv4At frame (layout.l3Offset + 12)) (ipv4At frame (layout.l3Offset + 16)) d.1 d.2.1
            d.2.2
      else none) := by
  rw [getElem?_of_lt (by omega), getElem?_of_lt (by omega)]
  dsimp only [Option.bind_some]
  by_cases hver : byteAt frame layout.l3Offset >>> 4 &&& 0x0F ≠ 4
  · rw [if_pos hver, if_neg (fun h => hver h.2.2.1)]
  rw [if_neg hver]
  by_cases hihl : (byteAt frame layout.l3Offset &&& 0x0F).toNat * 4 < 20
  · rw [if_pos hihl, if_neg (fun h => absurd h.2.2.2.1 (by omega))]
  rw [if_neg hihl]
  by_cases hproto : byteAt frame (layout.l3Offset + 9) ≠ 17
  · rw [if_pos hproto, if_neg (fun h => hproto h.2.2.2.2)]
  rw [if_neg hproto, readIpv4_of_le (by omega), readIpv4_of_le (by omega),
    if_pos ⟨hlen, heth, not_not.1 hver, by omega, not_not.1 hproto⟩]
  exact readUdp_eq frame _ _

/-- What `parse_udp_packet` returns, without the loads. -/
def udpView (frame : List UInt8) : Option (ParsedUdpPacket Ipv4Addr) :=
  (layoutOf frame none).bind fun layout =>
    if isUdpOverIpv4 frame layout then
      (udpAt frame (udpStart4 frame layout)).map fun d =>
        { srcMac := macAt frame 6, dstMac := macAt frame 0, srcIp := ipv4At frame (layout.l3Offset + 12)
          dstIp := ipv4At frame (layout.l3Offset + 16), srcPort := d.1, dstPort := d.2.1, payload := d.2.2
          vlanId := layout.vlanId }
    else none

def udpViewRef (frame : List UInt8) : Option (ParsedUdpPacketRef Ipv4Addr) :=
  (layoutOf frame none).bind fun layout =>
    if isUdpOverIpv4 frame layout then
      (udpAt frame (udpStart4 frame layout)).map fun d =>
        { srcMac := macAt frame 6, srcIp := ipv4At frame (layout.l3Offset + 12)
          dstIp := ipv4At frame (layout.l3Offset + 16), srcPort := d.1, dstPort := d.2.1, payload := d.2.2
          payloadOffset := udpStart4 frame layout + 8, vlanId := layout.vlanId }
    else none

/-- `parse_udp_packet` stays in bounds and returns the view. -/
theorem parseUdpPacket_eq (frame : List UInt8) : parseUdpPacket frame = some (udpView frame) := by
  unfold parseUdpPacket udpView
  rw [detectVlan_eq]
  cases hlayout : layoutOf frame none with
  | none => rfl
  | some layout =>
    dsimp only [Option.bind_eq_bind, Option.bind_some]
    have hl3 := (layoutOf_bounds hlayout).1
    by_cases hlen : frame.length < layout.l3Offset + 20 + 8
    · rw [if_pos hlen, if_neg (fun h => absurd h.1 (by omega))]
      rfl
    rw [if_neg hlen]
    by_cases heth : layout.ethertype ≠ 0x0800
    · rw [if_pos heth, if_neg (fun h => heth h.2.1)]
      rfl
    rw [if_neg heth, readSlice_of_le (by omega), readSlice_of_le (by omega)]
    dsimp only [Option.bind_some]
    rw [ofBytes_slice (by omega), ofBytes_slice (by omega)]
    exact readIpv4Udp_eq frame layout (fun _ srcIp dstIp srcPort dstPort payload =>
      ({ srcMac := macAt frame 6, dstMac := macAt frame 0, srcIp, dstIp, srcPort, dstPort, payload
         vlanId := layout.vlanId } : ParsedUdpPacket Ipv4Addr)) (by omega) (not_not.1 heth)

theorem parseUdpPacketRef_eq (frame : List UInt8) : parseUdpPacketRef frame = some (udpViewRef frame) := by
  unfold parseUdpPacketRef udpViewRef
  rw [detectVlan_eq]
  cases hlayout : layoutOf frame none with
  | none => rfl
  | some layout =>
    dsimp only [Option.bind_eq_bind, Option.bind_some]
    have hl3 := (layoutOf_bounds hlayout).1
    by_cases hlen : frame.length < layout.l3Offset + 20 + 8
    · rw [if_pos hlen, if_neg (fun h => absurd h.1 (by omega))]
      rfl
    rw [if_neg hlen]
    by_cases heth : layout.ethertype ≠ 0x0800
    · rw [if_pos heth, if_neg (fun h => heth h.2.1)]
      rfl
    rw [if_neg heth, readSlice_of_le (by omega)]
    dsimp only [Option.bind_some]
    rw [ofBytes_slice (by omega)]
    exact readIpv4Udp_eq frame layout (fun udpStart srcIp dstIp srcPort dstPort payload =>
      ({ srcMac := macAt frame 6, srcIp, dstIp, srcPort, dstPort, payload
         payloadOffset := udpStart + 8, vlanId := layout.vlanId } : ParsedUdpPacketRef Ipv4Addr))
      (by omega) (not_not.1 heth)

/-! ## IPv6 -/

def isIpv6 (frame : List UInt8) (layout : FrameLayout) : Prop :=
  layout.ethertype = 0x86DD ∧ layout.l3Offset + 40 ≤ frame.length ∧ byteAt frame layout.l3Offset >>> 4 = 6
deriving Decidable

def udpStart6 (frame : List UInt8) (layout : FrameLayout) : Option Nat :=
  (upperLayer (frame.drop layout.l3Offset)).bind fun nh =>
    if nh.protocol = 17 then some (layout.l3Offset + nh.payloadOffset) else none

theorem readIpv6Udp_eq {P : Type} (frame : List UInt8) (l3 : Nat) (nh : Ipv6NextHeader)
    (k : Nat → UInt16 → UInt16 → List UInt8 → P) :
    (if nh.protocol ≠ 17 then some none
      else if frame.length < l3 + nh.payloadOffset + 8 then some none
      else (read16 frame (l3 + nh.payloadOffset)).bind fun srcPort =>
        (read16 frame (l3 + nh.payloadOffset + 2)).bind fun dstPort =>
          (read16 frame (l3 + nh.payloadOffset + 4)).bind fun udpLen =>
            if udpLen.toNat < 8 ∨ frame.length < l3 + nh.payloadOffset + udpLen.toNat then some none
            else (readSlice frame (l3 + nh.payloadOffset + 8) (udpLen.toNat - 8)).bind
              fun payload => some (some (k (l3 + nh.payloadOffset) srcPort dstPort payload))) =
      some ((if nh.protocol = 17 then some (l3 + nh.payloadOffset) else none).bind fun udpStart =>
        (udpAt frame udpStart).map fun d => k udpStart d.1 d.2.1 d.2.2) := by
  by_cases hproto : nh.protocol = 17
  · rw [if_neg (not_not.2 hproto), if_pos hproto]
    exact readUdp_eq frame _ _
  · rw [if_pos hproto, if_neg hproto]
    rfl

def udp6View (frame : List UInt8) : Option (ParsedUdpPacket Ipv6Addr) :=
  (layoutOf frame none).bind fun layout =>
    if isIpv6 frame layout then
      (udpStart6 frame layout).bind fun udpStart => (udpAt frame udpStart).map fun d =>
        { srcMac := macAt frame 6, dstMac := macAt frame 0, srcIp := ipv6At frame (layout.l3Offset + 8)
          dstIp := ipv6At frame (layout.l3Offset + 24), srcPort := d.1, dstPort := d.2.1, payload := d.2.2
          vlanId := layout.vlanId }
    else none

def udp6ViewRef (frame : List UInt8) : Option (ParsedUdpPacketRef Ipv6Addr) :=
  (layoutOf frame none).bind fun layout =>
    if isIpv6 frame layout then
      (udpStart6 frame layout).bind fun udpStart => (udpAt frame udpStart).map fun d =>
        { srcMac := macAt frame 6, srcIp := ipv6At frame (layout.l3Offset + 8)
          dstIp := ipv6At frame (layout.l3Offset + 24), srcPort := d.1, dstPort := d.2.1, payload := d.2.2
          payloadOffset := udpStart + 8, vlanId := layout.vlanId }
    else none

/-- The checks of the IPv6 parsers before they read an address. -/
theorem guardIpv6_eq {R : Type} {frame : List UInt8} {layout : FrameLayout} {rest : Option (Option R)} {view : Option R}
    (hrest : layout.l3Offset + 40 ≤ frame.length → rest = some view) :
    (if layout.ethertype ≠ 0x86DD then some none
      else if frame.length < layout.l3Offset + 40 then some none
      else frame[layout.l3Offset]?.bind fun b => if b >>> 4 ≠ 6 then some none else rest) =
      some (if isIpv6 frame layout then view else none) := by
  by_cases heth : layout.ethertype ≠ 0x86DD
  · rw [if_pos heth, if_neg (fun h => heth h.1)]
  rw [if_neg heth]
  by_cases hlen : frame.length < layout.l3Offset + 40
  · rw [if_pos hlen, if_neg (fun h => absurd h.2.1 (by omega))]
  rw [if_neg hlen, getElem?_of_lt (by omega), Option.bind_some]
  by_cases hver : byteAt frame layout.l3Offset >>> 4 ≠ 6
  · rw [if_pos hver, if_neg (fun h => hver h.2.2)]
  rw [if_neg hver, if_pos ⟨not_not.1 heth, by omega, not_not.1 hver⟩, hrest (by omega)]

theorem parseUdp6Packet_eq (frame : List UInt8) : parseUdp6Packet frame = some (udp6View frame) := by
  unfold parseUdp6Packet udp6View
  rw [detectVlan_eq]
  cases hlayout : layoutOf frame none with
  | none => rfl
  | some layout =>
    dsimp only [Option.bind_eq_bind, Option.bind_some]
    refine guardIpv6_eq fun hlen => ?_
    rw [readSlice_of_le (by omega), readSlice_of_le (by omega), readSlice_of_le (by omega), readSlice_of_le (by omega)]
    dsimp only [Option.bind_some]
    rw [ofBytes_slice (by omega), ofBytes_slice (by omega), walkExtensionHeaders_eq, udpStart6]
    cases upperLayer (frame.drop layout.l3Offset) with
    | none => rfl
    | some nh =>
      exact readIpv6Udp_eq frame layout.l3Offset nh fun _ srcPort dstPort payload =>
        ({ srcMac := macAt frame 6, dstMac := macAt frame 0, srcIp := ipv6At frame (layout.l3Offset + 8)
           dstIp := ipv6At frame (layout.l3Offset + 24), srcPort, dstPort, payload
           vlanId := layout.vlanId } : ParsedUdpPacket Ipv6Addr)

theorem parseUdp6PacketRef_eq (frame : List UInt8) : parseUdp6PacketRef frame = some (udp6ViewRef frame) := by
  unfold parseUdp6PacketRef udp6ViewRef
  rw [detectVlan_eq]
  cases hlayout : layoutOf frame none with
  | none => rfl
  | some layout =>
    dsimp only [Option.bind_eq_bind, Option.bind_some]
    refine guardIpv6_eq fun hlen => ?_
    rw [readSlice_of_le (by omega), readSlice_of_le (by omega), readSlice_of_le (by omega)]
    dsimp only [Option.bind_some]
    rw [ofBytes_slice (by omega), walkExtensionHeaders_eq, udpStart6]
    cases upperLayer (frame.drop layout.l3Offset) with
    | none => rfl
    | some nh =>
      exact readIpv6Udp_eq frame layout.l3Offset nh fun udpStart srcPort dstPort payload =>
        ({ srcMac := macAt frame 6, srcIp := ipv6At frame (layout.l3Offset + 8)
           dstIp := ipv6At frame (layout.l3Offset + 24), srcPort, dstPort, payload
           payloadOffset := udpStart + 8, vlanId := layout.vlanId } : ParsedUdpPacketRef Ipv6Addr)

end DpdkStdlib.Udp
