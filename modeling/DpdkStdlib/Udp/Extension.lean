import DpdkStdlib.Udp.Reading

/-!
# IPv6 extension headers (`ipv6.rs`, `icmpv6.rs`)

An IPv6 packet is its fixed header, a chain of extension headers each naming the next, and the upper layer.  The walk over
the chain finds the upper layer where it is, or finds that the chain is cut.
-/

namespace DpdkStdlib.Udp
open DpdkStdlib.Lib

/-! ## Packets with extension headers -/

/-- A well-formed extension header, without the field that names the next one. -/
inductive ExtHeader
  /-- Hop-by-Hop Options, Routing or Destination Options; `len` does not count the first eight bytes. -/
  | options (number len : UInt8) (body : List UInt8) (known : number = 0 ∨ number = 43 ∨ number = 60)
      (fits : body.length = len.toNat * 8 + 6)
  | fragment (body : List UInt8) (fits : body.length = 7)

namespace ExtHeader

def number : ExtHeader → UInt8
  | options number .. => number
  | fragment .. => 44

def bytes (next : UInt8) : ExtHeader → List UInt8
  | options _ len body .. => next :: len :: body
  | fragment body _ => next :: body

def size : ExtHeader → Nat
  | options _ len .. => (len.toNat + 1) * 8
  | fragment .. => 8

@[simp] theorem length_bytes (x : ExtHeader) (next : UInt8) : (x.bytes next).length = x.size := by
  cases x with
  | options number len body known fits =>
    rw [bytes, size, List.length_cons, List.length_cons, fits]
    omega
  | fragment body fits => rw [bytes, size, List.length_cons, fits]

theorem size_ge (x : ExtHeader) : 8 ≤ x.size := by
  cases x with
  | options => exact Nat.le_mul_of_pos_left 8 (Nat.succ_pos _)
  | fragment => exact Nat.le_refl 8

end ExtHeader

def IsExtension (number : UInt8) : Prop := number = 0 ∨ number = 43 ∨ number = 60 ∨ number = 44

def firstHeader (protocol : UInt8) : List ExtHeader → UInt8
  | [] => protocol
  | x :: _ => x.number

/-- The bytes of a chain before the upper-layer protocol. -/
def chainBytes (protocol : UInt8) : List ExtHeader → List UInt8
  | [] => []
  | x :: exts => x.bytes (firstHeader protocol exts) ++ chainBytes protocol exts

/-- The fixed header, without the field that names the next one. -/
structure Ipv6Fixed where
  before : List UInt8
  after : List UInt8
  length_before : before.length = 6
  length_after : after.length = 33

def Ipv6Fixed.bytes (self : Ipv6Fixed) (next : UInt8) : List UInt8 := self.before ++ next :: self.after

def Ipv6Fixed.packet (self : Ipv6Fixed) (exts : List ExtHeader) (protocol : UInt8) (upper : List UInt8) : List UInt8 :=
  self.bytes (firstHeader protocol exts) ++ (chainBytes protocol exts ++ upper)

@[simp] theorem Ipv6Fixed.length_bytes (self : Ipv6Fixed) (next : UInt8) : (self.bytes next).length = 40 := by
  rw [Ipv6Fixed.bytes, List.length_append, List.length_cons, self.length_before, self.length_after]

theorem length_chainBytes_ge (protocol : UInt8) (exts : List ExtHeader) :
    8 * exts.length ≤ (chainBytes protocol exts).length := by
  induction exts with
  | nil => exact Nat.le_refl 0
  | cons x exts ih =>
    have hx := x.size_ge
    rw [chainBytes, List.length_append, x.length_bytes, List.length_cons]
    omega

/-! ## One turn of the loop -/

theorem walkLoop_ext (x : ExtHeader) (next : UInt8) {e : List UInt8} (r : List UInt8) (fuel : Nat) :
    walkLoop (e ++ (x.bytes next ++ r)) (fuel + 1) x.number e.length =
      walkLoop (e ++ (x.bytes next ++ r)) fuel next (e.length + x.size) := by
  have hlen : (e ++ (x.bytes next ++ r)).length = e.length + x.size + r.length := by
    rw [List.length_append, List.length_append, x.length_bytes, Nat.add_assoc]
  have hsize := x.size_ge
  have hnext : (e ++ (x.bytes next ++ r))[e.length]? = some next := by
    rw [List.getElem?_append_right (Nat.le_refl _), Nat.sub_self]
    cases x <;> rfl
  cases x with
  | options number len body known fits =>
    have hword : (e ++ ((ExtHeader.options number len body known fits).bytes next ++ r))[e.length + 1]? = some len := by
      rw [List.getElem?_append_right (Nat.le_add_right _ _), Nat.add_sub_cancel_left]
      rfl
    rw [walkLoop]
    simp only [ExtHeader.number]
    rw [if_pos known, if_neg (by omega), hnext, hword]
    dsimp only [Option.bind_eq_bind, Option.bind_some]
    rw [if_neg (by rw [hlen, ExtHeader.size]; omega)]
    rfl
  | fragment body fits =>
    have hsize : (ExtHeader.fragment body fits).size = 8 := rfl
    have hnot : ¬ ((44 : UInt8) = 0 ∨ (44 : UInt8) = 43 ∨ (44 : UInt8) = 60) := by decide
    rw [walkLoop]
    simp only [ExtHeader.number]
    rw [if_neg hnot, if_pos trivial, if_neg (by omega), hnext, hsize]
    rfl

theorem walkLoop_cut (x : ExtHeader) (next : UInt8) {e : List UInt8} {k : Nat} (hk : k < x.size) (fuel : Nat) :
    walkLoop (e ++ (x.bytes next).take k) (fuel + 1) x.number e.length = some none := by
  have hlen : (e ++ (x.bytes next).take k).length = e.length + k := by
    rw [List.length_append, List.length_take, x.length_bytes]
    omega
  cases x with
  | options number len body known fits =>
    rw [walkLoop]
    simp only [ExtHeader.number]
    rw [if_pos known]
    by_cases hshort : e.length + 2 > (e ++ ((ExtHeader.options number len body known fits).bytes next).take k).length
    · rw [if_pos hshort]
    · have hword : (e ++ ((ExtHeader.options number len body known fits).bytes next).take k)[e.length + 1]? = some len := by
        rw [List.getElem?_append_right (Nat.le_add_right _ _), Nat.add_sub_cancel_left,
          List.getElem?_take_of_lt (by omega)]
        rfl
      rw [if_neg hshort, getElem?_of_lt (by omega), hword]
      dsimp only [Option.bind_eq_bind, Option.bind_some]
      rw [if_pos (by rw [hlen]; rw [ExtHeader.size] at hk; omega)]
      rfl
  | fragment body fits =>
    have hnot : ¬ ((44 : UInt8) = 0 ∨ (44 : UInt8) = 43 ∨ (44 : UInt8) = 60) := by decide
    rw [walkLoop]
    simp only [ExtHeader.number]
    rw [if_neg hnot, if_pos trivial, if_pos (by rw [hlen]; exact Nat.add_lt_add_left hk _)]

/-! ## The walk -/

/-- A chain is walked to its end. -/
theorem walkLoop_chain {protocol : UInt8} (hupper : ¬ IsExtension protocol) (exts : List ExtHeader) {e r : List UInt8}
    {fuel : Nat} (hfuel : exts.length < fuel) :
    walkLoop (e ++ (chainBytes protocol exts ++ r)) fuel (firstHeader protocol exts) e.length =
      some (some { protocol, payloadOffset := e.length + (chainBytes protocol exts).length }) := by
  induction exts generalizing e fuel with
  | nil =>
    obtain ⟨fuel, rfl⟩ := Nat.exists_eq_succ_of_ne_zero (Nat.ne_of_gt hfuel)
    rw [walkLoop, firstHeader, if_neg, if_neg]
    · rfl
    · intro h
      exact hupper (.inr (.inr (.inr h)))
    · rintro (h | h | h)
      · exact hupper (.inl h)
      · exact hupper (.inr (.inl h))
      · exact hupper (.inr (.inr (.inl h)))
  | cons x exts ih =>
    obtain ⟨fuel, rfl⟩ := Nat.exists_eq_succ_of_ne_zero (Nat.ne_of_gt (Nat.zero_lt_of_lt hfuel))
    have hrest := ih (e := e ++ x.bytes (firstHeader protocol exts)) (Nat.lt_of_succ_lt_succ hfuel)
    rw [List.append_assoc, List.length_append, x.length_bytes] at hrest
    rw [chainBytes, List.append_assoc, firstHeader, walkLoop_ext, hrest, List.length_append, x.length_bytes, Nat.add_assoc]

theorem walkLoop_chain_cut {protocol : UInt8} (exts : List ExtHeader) {e : List UInt8} {k fuel : Nat}
    (hk : k < (chainBytes protocol exts).length) (hfuel : k < 8 * fuel) :
    walkLoop (e ++ (chainBytes protocol exts).take k) fuel (firstHeader protocol exts) e.length = some none := by
  induction exts generalizing e k fuel with
  | nil => exact absurd hk (Nat.not_lt_zero k)
  | cons x exts ih =>
    obtain ⟨fuel, rfl⟩ : ∃ n, fuel = n + 1 := ⟨fuel - 1, by omega⟩
    have hsize := x.size_ge
    rw [chainBytes, List.length_append, x.length_bytes] at hk
    rw [chainBytes, firstHeader, List.take_append, x.length_bytes]
    by_cases hx : k < x.size
    · rw [Nat.sub_eq_zero_of_le (Nat.le_of_lt hx), List.take_zero, List.append_nil]
      exact walkLoop_cut x _ hx fuel
    · have hfuel : k - x.size < 8 * fuel := by omega
      have hrest := ih (e := e ++ x.bytes (firstHeader protocol exts)) (by omega) hfuel
      rw [List.append_assoc, List.length_append, x.length_bytes] at hrest
      rw [List.take_of_length_le (by rw [x.length_bytes]; omega), walkLoop_ext, hrest]

section packet
variable (ip : Ipv6Fixed) (exts : List ExtHeader) (protocol : UInt8) (upper : List UInt8)

theorem Ipv6Fixed.length_packet : (ip.packet exts protocol upper).length =
    40 + (chainBytes protocol exts).length + upper.length := by
  rw [Ipv6Fixed.packet, List.length_append, List.length_append, ip.length_bytes, Nat.add_assoc]

theorem Ipv6Fixed.getElem?_bytes (next : UInt8) (r : List UInt8) : (ip.bytes next ++ r)[6]? = some next := by
  have hlen : ip.before.length ≤ 6 := Nat.le_of_eq ip.length_before
  rw [Ipv6Fixed.bytes, List.append_assoc, List.getElem?_append_right hlen, ip.length_before]
  rfl

theorem upperLayer_packet (hupper : ¬ IsExtension protocol) : upperLayer (ip.packet exts protocol upper) =
    some { protocol, payloadOffset := 40 + (chainBytes protocol exts).length } := by
  have hlen := ip.length_packet exts protocol upper
  have hge := length_chainBytes_ge protocol exts
  have hfuel : exts.length < (ip.packet exts protocol upper).length := by omega
  have hloop := walkLoop_chain hupper exts (e := ip.bytes (firstHeader protocol exts)) (r := upper) hfuel
  rw [ip.length_bytes] at hloop
  rw [upperLayer, walkExtensionHeaders, if_neg (by omega), Ipv6Fixed.packet, ip.getElem?_bytes]
  exact congrArg (Option.getD · none) hloop

theorem upperLayer_cut {k : Nat} (hk : k < 40 + (chainBytes protocol exts).length) :
    upperLayer ((ip.packet exts protocol upper).take k) = none := by
  have hge := length_chainBytes_ge protocol exts
  have hlen : ((ip.packet exts protocol upper).take k).length = k := by
    rw [List.length_take, ip.length_packet]
    omega
  rw [upperLayer, walkExtensionHeaders, hlen]
  by_cases hshort : k < 40
  · rw [if_pos hshort]
    rfl
  · have hcut : (ip.packet exts protocol upper).take k =
        ip.bytes (firstHeader protocol exts) ++ (chainBytes protocol exts).take (k - 40) := by
      rw [Ipv6Fixed.packet, List.take_append, ip.length_bytes, List.take_of_length_le (by rw [ip.length_bytes]; omega),
        List.take_append_of_le_length (by omega)]
    have hchain : k - 40 < (chainBytes protocol exts).length := by omega
    have hfuel : k - 40 < 8 * k := by omega
    have hloop := walkLoop_chain_cut exts (e := ip.bytes (firstHeader protocol exts)) hchain hfuel
    rw [ip.length_bytes] at hloop
    rw [if_neg hshort, hcut, ip.getElem?_bytes]
    exact congrArg (Option.getD · none) hloop

end packet

/-! ## What the parsers read -/

def Ipv6Fixed.version (self : Ipv6Fixed) : UInt8 := byteAt self.before 0 >>> 4

def Ipv6Fixed.srcIp (self : Ipv6Fixed) : Ipv6Addr := ipv6At self.after 1

def Ipv6Fixed.dstIp (self : Ipv6Fixed) : Ipv6Addr := ipv6At self.after 17

section fields
variable (e : List UInt8) (ip : Ipv6Fixed) (exts : List ExtHeader) (protocol : UInt8) (upper : List UInt8)

theorem append_packet_split : ∃ front, e ++ ip.packet exts protocol upper = front ++ upper ∧
    front.length = e.length + (40 + (chainBytes protocol exts).length) := by
  refine ⟨e ++ (ip.bytes (firstHeader protocol exts) ++ chainBytes protocol exts), ?_, ?_⟩
  · rw [Ipv6Fixed.packet, List.append_assoc, List.append_assoc]
  · rw [List.length_append, List.length_append, ip.length_bytes]

theorem byteAt_version : byteAt (e ++ ip.packet exts protocol upper) e.length >>> 4 = ip.version := by
  have hlen := ip.length_before
  have hbyte := byteAt_append_right e (ip.packet exts protocol upper) 0
  rw [Nat.add_zero] at hbyte
  rw [hbyte, Ipv6Fixed.packet, Ipv6Fixed.bytes, List.append_assoc, byteAt_append_left _ (by omega), Ipv6Fixed.version]

theorem ipv6At_packet {i : Nat} (hi : i + 16 ≤ 33) :
    ipv6At (e ++ ip.packet exts protocol upper) (e.length + (7 + i)) = ipv6At ip.after i := by
  have hlen := ip.length_after
  have hfront : (ip.before ++ [firstHeader protocol exts]).length = 7 := by
    rw [List.length_append, ip.length_before]
    rfl
  have hpacket : ip.packet exts protocol upper =
      (ip.before ++ [firstHeader protocol exts]) ++ (ip.after ++ (chainBytes protocol exts ++ upper)) := by
    rw [Ipv6Fixed.packet, Ipv6Fixed.bytes, List.append_assoc, List.append_assoc, List.cons_append, List.cons_append,
      List.nil_append]
  rw [ipv6At, slice_append_right, hpacket, ← hfront, slice_append_right, slice_append_left _ (by omega), ipv6At]

theorem udpAt_packet : udpAt (e ++ ip.packet exts protocol upper)
    (e.length + (40 + (chainBytes protocol exts).length)) = udpAt upper 0 := by
  obtain ⟨front, hsplit, hfront⟩ := append_packet_split e ip exts protocol upper
  rw [hsplit, ← hfront]
  exact udpAt_append_right front upper 0

theorem srcIp_packet : ipv6At (e ++ ip.packet exts protocol upper) (e.length + 8) = ip.srcIp :=
  ipv6At_packet e ip exts protocol upper (i := 1) (by decide)

theorem dstIp_packet : ipv6At (e ++ ip.packet exts protocol upper) (e.length + 24) = ip.dstIp :=
  ipv6At_packet e ip exts protocol upper (i := 17) (by decide)

end fields

section parsers
variable {eth : List UInt8} {layout : FrameLayout} (ip : Ipv6Fixed) (exts : List ExtHeader) {protocol : UInt8}
  (upper : List UInt8)

def Ipv6Fixed.datagram (eth : List UInt8) (layout : FrameLayout) (protocol : UInt8) : Option (ParsedUdpPacket Ipv6Addr) :=
  if ip.version = 6 ∧ protocol = 17 then
    (udpAt upper 0).map fun d =>
      { srcMac := macAt eth 6, dstMac := macAt eth 0, srcIp := ip.srcIp, dstIp := ip.dstIp, srcPort := d.1
        dstPort := d.2.1, payload := d.2.2, vlanId := layout.vlanId }
  else none

/-- The same datagram, borrowed from a frame in which the upper layer starts at `start`. -/
def Ipv6Fixed.datagramRef (eth : List UInt8) (layout : FrameLayout) (protocol : UInt8) (start : Nat) :
    Option (ParsedUdpPacketRef Ipv6Addr) :=
  (ip.datagram upper eth layout protocol).map fun p =>
    { srcMac := p.srcMac, srcIp := p.srcIp, dstIp := p.dstIp, srcPort := p.srcPort, dstPort := p.dstPort
      payload := p.payload, payloadOffset := start + 8, vlanId := p.vlanId }

theorem isIpv6_packet (heth : layout.ethertype = 0x86DD) (hl3 : layout.l3Offset = eth.length) :
    isIpv6 (eth ++ ip.packet exts protocol upper) layout ↔ ip.version = 6 := by
  have hlen := ip.length_packet exts protocol upper
  rw [isIpv6, heth, hl3, byteAt_version, List.length_append]
  constructor
  · rintro ⟨-, -, hversion⟩
    exact hversion
  · intro hversion
    exact ⟨rfl, by omega, hversion⟩

theorem udpStart6_packet (hupper : ¬ IsExtension protocol) (hl3 : layout.l3Offset = eth.length) :
    udpStart6 (eth ++ ip.packet exts protocol upper) layout =
      if protocol = 17 then some (eth.length + (40 + (chainBytes protocol exts).length)) else none := by
  rw [udpStart6, hl3, List.drop_left, upperLayer_packet ip exts protocol upper hupper]
  rfl

theorem udp6View_packet (hupper : ¬ IsExtension protocol) (hlayout : layoutOf eth none = some layout)
    (heth : layout.ethertype = 0x86DD) (hl3 : layout.l3Offset = eth.length) :
    udp6View (eth ++ ip.packet exts protocol upper) = ip.datagram upper eth layout protocol ∧
      udp6ViewRef (eth ++ ip.packet exts protocol upper) =
        ip.datagramRef upper eth layout protocol (eth.length + (40 + (chainBytes protocol exts).length)) := by
  have hbounds := layoutOf_bounds hlayout
  have hip : isIpv6 (eth ++ ip.packet exts protocol upper) layout ↔ ip.version = 6 :=
    isIpv6_packet ip exts upper heth hl3
  rw [udp6View, udp6ViewRef, layoutOf_extend _ hlayout, Option.bind_some, Option.bind_some, Ipv6Fixed.datagramRef,
    Ipv6Fixed.datagram, udpStart6_packet ip exts upper hupper hl3, hl3, srcIp_packet, dstIp_packet,
    macAt_extend _ (by omega), macAt_extend _ (by omega)]
  by_cases hversion : ip.version = 6
  · rw [if_pos (hip.2 hversion), if_pos (hip.2 hversion)]
    by_cases hproto : protocol = 17
    · rw [if_pos hproto, if_pos ⟨hversion, hproto⟩, Option.bind_some, Option.bind_some, udpAt_packet, Option.map_map]
      exact ⟨rfl, rfl⟩
    · rw [if_neg hproto, if_neg (fun h => hproto h.2)]
      exact ⟨rfl, rfl⟩
  · rw [if_neg (fun h => hversion (hip.1 h)), if_neg (fun h => hversion (hip.1 h)), if_neg (fun h => hversion h.1)]
    exact ⟨rfl, rfl⟩

theorem icmpv6Start_packet (hupper : ¬ IsExtension protocol) (heth : layout.ethertype = 0x86DD)
    (hl3 : layout.l3Offset = eth.length) :
    icmpv6Start (eth ++ ip.packet exts protocol upper) layout =
      if ip.version = 6 ∧ protocol = 58 ∧ 8 ≤ upper.length then
        some (eth.length + (40 + (chainBytes protocol exts).length))
      else none := by
  have hlen := ip.length_packet exts protocol upper
  rw [icmpv6Start, heth, hl3, if_neg (not_not.2 rfl), if_neg (by rw [List.length_append]; omega), byteAt_version,
    List.drop_left, upperLayer_packet ip exts protocol upper hupper]
  dsimp only
  rw [List.length_append, hlen]
  by_cases hversion : ip.version = 6
  · by_cases hproto : protocol = 58
    · by_cases hshort : 8 ≤ upper.length
      · rw [if_neg (not_not.2 hversion), if_neg (not_not.2 hproto), if_neg (by omega), if_pos ⟨hversion, hproto, hshort⟩]
      · rw [if_neg (not_not.2 hversion), if_neg (not_not.2 hproto), if_pos (by omega), if_neg (fun h => hshort h.2.2)]
    · rw [if_neg (not_not.2 hversion), if_pos hproto, if_neg (fun h => hproto h.2.1)]
  · rw [if_pos hversion, if_neg (fun h => hversion h.1)]

def Ipv6Fixed.quotedError (icmp : List UInt8) (quoted : Ipv6Fixed) (udp : List UInt8) : IcmpErrorInfo Ipv6Addr :=
  { icmpType := byteAt icmp 0, icmpCode := byteAt icmp 1, errorSource := ip.srcIp, originalDstIp := quoted.dstIp
    originalSrcIp := quoted.srcIp, originalDstPort := be16At udp 2, originalSrcPort := be16At udp 0
    mtu := if byteAt icmp 0 = 2 then
        (fromBe32 (byteAt icmp 4) (byteAt icmp 5) (byteAt icmp 6) (byteAt icmp 7)).toNat
      else 0 }

theorem parseIcmpv6Error_packet {icmp : List UInt8} (hicmp : icmp.length = 8) (quoted : Ipv6Fixed)
    (exts' : List ExtHeader) {protocol' : UInt8} (udp : List UInt8) (hupper : ¬ IsExtension protocol)
    (hupper' : ¬ IsExtension protocol') (hlayout : layoutOf eth none = some layout)
    (heth : layout.ethertype = 0x86DD) (hl3 : layout.l3Offset = eth.length) :
    parseIcmpv6Error (eth ++ ip.packet exts protocol (icmp ++ quoted.packet exts' protocol' udp)) =
      if (ip.version = 6 ∧ protocol = 58) ∧ isIcmpv6Error (byteAt icmp 0) ∧ quoted.version = 6 ∧ protocol' = 17 ∧
          4 ≤ udp.length ∧ 8 ≤ (chainBytes protocol' exts').length + udp.length then
        some (ip.quotedError icmp quoted udp)
      else none := by
  obtain ⟨front, hsplit, hfront⟩ := append_packet_split eth ip exts protocol (icmp ++ quoted.packet exts' protocol' udp)
  have hquoted := quoted.length_packet exts' protocol' udp
  have hstart := icmpv6Start_packet ip exts (icmp ++ quoted.packet exts' protocol' udp) hupper heth hl3
  have hsrc := srcIp_packet eth ip exts protocol (icmp ++ quoted.packet exts' protocol' udp)
  rw [List.length_append, hicmp] at hstart
  rw [parseIcmpv6Error, layoutOf_extend _ hlayout]
  dsimp only [Option.bind_eq_bind, Option.bind_some]
  rw [hstart, hl3, hsrc]
  by_cases houter : ip.version = 6 ∧ protocol = 58
  swap
  · rw [if_neg (fun h => houter ⟨h.1, h.2.1⟩), if_neg (fun h => houter h.1)]
    rfl
  rw [if_pos ⟨houter.1, houter.2, Nat.le_add_right _ _⟩, Option.bind_some, hsplit, ← hfront]
  -- from here on the frame is what comes before the message, the message and the quoted packet
  have hbyte : ∀ i < 8, byteAt (front ++ (icmp ++ quoted.packet exts' protocol' udp)) (front.length + i) =
      byteAt icmp i := by
    intro i hi
    rw [byteAt_append_right, byteAt_append_left _ (by omega)]
  have htype := hbyte 0 (by decide)
  rw [Nat.add_zero] at htype
  have hpkt : front.length + 8 = (front ++ icmp).length := by rw [List.length_append, hicmp]
  obtain ⟨front', hsplit', hfront'⟩ := append_packet_split (front ++ icmp) quoted exts' protocol' udp
  have hports : ∀ i, be16At (front' ++ udp) (front'.length + i) = be16At udp i := be16At_append_right front' udp
  have hport := hports 0
  rw [Nat.add_zero] at hport
  rw [htype, hbyte 1 (by decide), hbyte 4 (by decide), hbyte 5 (by decide), hbyte 6 (by decide), hbyte 7 (by decide),
    ← List.append_assoc, hpkt, byteAt_version, srcIp_packet, dstIp_packet, List.drop_left,
    upperLayer_packet quoted exts' protocol' udp hupper']
  dsimp only [Option.bind_some]
  rw [← hfront', hsplit', hports 2, hport]
  have hlen : (front' ++ udp).length = front'.length + udp.length := List.length_append
  rw [hlen]
  by_cases herror : isIcmpv6Error (byteAt icmp 0)
  swap
  · rw [if_pos (by simpa using herror), if_neg (fun h => herror h.2.1)]
  rw [if_neg (by simpa using herror)]
  by_cases hmin : 8 ≤ (chainBytes protocol' exts').length + udp.length
  swap
  · rw [if_pos (by omega), if_neg (fun h => hmin h.2.2.2.2.2)]
  rw [if_neg (by omega)]
  by_cases hversion : quoted.version = 6
  swap
  · rw [if_pos hversion, if_neg (fun h => hversion h.2.2.1)]
  rw [if_neg (not_not.2 hversion)]
  by_cases hproto : protocol' = 17
  swap
  · rw [if_pos hproto, if_neg (fun h => hproto h.2.2.2.1)]
  rw [if_neg (not_not.2 hproto)]
  by_cases hudp : 4 ≤ udp.length
  · rw [if_neg (by omega)]
    exact (if_pos ⟨houter, herror, hversion, hproto, hudp, hmin⟩).symm
  · rw [if_pos (by omega), if_neg (fun h => hudp h.2.2.2.2.1)]

end parsers

/-- **Extension headers.** Any chain of well-formed extension headers is walked to the upper layer, a packet cut before
gives nothing, and on any bytes the walk ends within them.  The UDP parsers read the datagram there, and the parser of
ICMPv6 errors the quoted ports. -/
theorem extension_walk :
    (∀ (ip : Ipv6Fixed) (exts : List ExtHeader) (protocol : UInt8) (upper : List UInt8), ¬ IsExtension protocol →
      ∃ offset, walkExtensionHeaders (ip.packet exts protocol upper) = some (some ⟨protocol, offset⟩) ∧
        offset = 40 + (chainBytes protocol exts).length ∧ (ip.packet exts protocol upper).drop offset = upper ∧
        ∀ k < offset, walkExtensionHeaders ((ip.packet exts protocol upper).take k) = some none) ∧
    (∀ data, ∃ result, walkExtensionHeaders data = some result ∧
      ∀ nh ∈ result, 40 ≤ nh.payloadOffset ∧ nh.payloadOffset ≤ data.length) ∧
    ∀ (eth : List UInt8) (layout : FrameLayout) (ip : Ipv6Fixed) (exts : List ExtHeader) (protocol : UInt8),
      layoutOf eth none = some layout → layout.ethertype = 0x86DD → layout.l3Offset = eth.length →
      ¬ IsExtension protocol →
      (∀ upper,
        parseUdp6Packet (eth ++ ip.packet exts protocol upper) = some (ip.datagram upper eth layout protocol) ∧
        parseUdp6PacketRef (eth ++ ip.packet exts protocol upper) = some
          (ip.datagramRef upper eth layout protocol (eth.length + (40 + (chainBytes protocol exts).length)))) ∧
      ∀ (icmp : List UInt8) (quoted : Ipv6Fixed) (exts' : List ExtHeader) (protocol' : UInt8) (udp : List UInt8),
        icmp.length = 8 → ¬ IsExtension protocol' →
        parseIcmpv6Error (eth ++ ip.packet exts protocol (icmp ++ quoted.packet exts' protocol' udp)) =
          if (ip.version = 6 ∧ protocol = 58) ∧ isIcmpv6Error (byteAt icmp 0) ∧ quoted.version = 6 ∧ protocol' = 17 ∧
              4 ≤ udp.length ∧ 8 ≤ (chainBytes protocol' exts').length + udp.length then
            some (ip.quotedError icmp quoted udp)
          else none := by
  refine ⟨?_, ?_, ?_⟩
  · intro ip exts protocol upper hupper
    refine ⟨_, ?_, rfl, ?_, ?_⟩
    · rw [walkExtensionHeaders_eq, upperLayer_packet ip exts protocol upper hupper]
    · obtain ⟨front, hsplit, hfront⟩ := append_packet_split [] ip exts protocol upper
      rw [List.nil_append] at hsplit
      rw [List.length_nil, Nat.zero_add] at hfront
      rw [hsplit, ← hfront, List.drop_left]
    · intro k hk
      rw [walkExtensionHeaders_eq, upperLayer_cut ip exts protocol upper hk]
  · intro data
    exact ⟨_, walkExtensionHeaders_eq data, fun nh hnh => upperLayer_bounds hnh⟩
  · intro eth layout ip exts protocol hlayout heth hl3 hupper
    refine ⟨?_, ?_⟩
    · intro upper
      obtain ⟨hview, href⟩ := udp6View_packet ip exts upper hupper hlayout heth hl3
      rw [parseUdp6Packet_eq, parseUdp6PacketRef_eq, hview, href]
      exact ⟨rfl, rfl⟩
    · intro icmp quoted exts' protocol' udp hicmp hupper'
      exact parseIcmpv6Error_packet ip exts hicmp quoted exts' udp hupper hupper' hlayout heth hl3

/-- Hop-by-Hop options of sixteen bytes and a Fragment header before UDP. -/
theorem extension_walk_sample :
    let ip : Ipv6Fixed := ⟨[0x60, 0, 0, 0, 0, 33], List.replicate 33 1, rfl, rfl⟩
    let exts : List ExtHeader :=
      [.options 0 1 (List.replicate 14 0) (.inl rfl) rfl, .fragment (List.replicate 7 0) rfl]
    let upper : List UInt8 := [0, 53, 0, 54, 0, 9, 0, 0, 7]
    walkExtensionHeaders (ip.packet exts 17 upper) = some (some ⟨17, 64⟩) ∧
      walkExtensionHeaders ((ip.packet exts 17 upper).take 63) = some none ∧
      (udpAt upper 0).map (·.2.2) = some [7] := by
  intro ip exts upper
  obtain ⟨offset, hwalk, rfl, -, hcut⟩ := extension_walk.1 ip exts 17 upper (by unfold IsExtension; decide)
  exact ⟨hwalk, hcut 63 (by decide), by decide⟩

end DpdkStdlib.Udp
