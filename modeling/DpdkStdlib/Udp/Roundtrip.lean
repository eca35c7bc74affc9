import DpdkStdlib.Udp.Checksum

/-!
# UDP frames built and read back (`lib.rs`, `ipv6.rs`)

Every builder overwrites its whole buffer, so what it writes is the concatenation of its headers and the payload; the
parsers and the verifiers are evaluated on that concatenation followed by padding.
-/

namespace DpdkStdlib.Udp
open DpdkStdlib.Lib

variable {e r out : List UInt8} {a : UdpFrameArgs Ipv4Addr} {i ip : Nat}

/-! ## The bytes of a frame -/

def ethHeader {Ip : Type} (a : UdpFrameArgs Ip) (tag : Option UInt16) (ethertype : UInt16) : List UInt8 :=
  a.dstMac.toList ++ (a.srcMac.toList ++ (tag.elim [] (fun tci => beBytes16 0x8100 ++ beBytes16 tci) ++
    beBytes16 ethertype))

def ipv4HeaderStart (a : UdpPacketArgs Ipv4Addr) (tos : UInt8) : List UInt8 :=
  [0x45, tos] ++ beBytes16 (UInt16.ofNat (20 + 8 + a.payload.length)) ++ [0x00, 0x00, 0x40, 0x00, a.ttl, 17]

def ipv4Header (a : UdpPacketArgs Ipv4Addr) (tos : UInt8) (cksum : UInt16) : List UInt8 :=
  ipv4HeaderStart a tos ++ (beBytes16 cksum ++ (a.srcIp.octets ++ a.dstIp.octets))

def udpHeaderStart {Ip : Type} (a : UdpPacketArgs Ip) : List UInt8 :=
  beBytes16 a.srcPort ++ beBytes16 a.dstPort ++ beBytes16 (UInt16.ofNat (8 + a.payload.length))

def udpHeader {Ip : Type} (a : UdpPacketArgs Ip) (cksum : UInt16) : List UInt8 := udpHeaderStart a ++ beBytes16 cksum

def udpHeader4 (a : UdpPacketArgs Ipv4Addr) : List UInt8 :=
  udpHeader a (udpChecksum a.srcIp.octets a.dstIp.octets (udpHeader a 0) a.payload)

def udpPacket (a : UdpPacketArgs Ipv4Addr) (tos : UInt8) : List UInt8 :=
  ipv4Header a tos (ipv4Checksum (ipv4Header a tos 0)) ++
    (udpHeader4 a ++ a.payload)

/-- The frame that the IPv4 builders write. -/
def udpFrame (a : UdpFrameArgs Ipv4Addr) (tag : Option UInt16) (tos : UInt8) : List UInt8 :=
  ethHeader a tag 0x0800 ++ udpPacket a tos

theorem length_ethHeader {Ip : Type} (a : UdpFrameArgs Ip) (tag : Option UInt16) (ethertype : UInt16) :
    (ethHeader a tag ethertype).length = 14 + tag.elim 0 fun _ => 4 := by
  cases tag <;> simp [ethHeader]

@[simp] theorem length_ipv4Header (a : UdpPacketArgs Ipv4Addr) (tos : UInt8) (cksum : UInt16) :
    (ipv4Header a tos cksum).length = 20 := rfl

@[simp] theorem length_udpHeader {Ip : Type} (a : UdpPacketArgs Ip) (cksum : UInt16) : (udpHeader a cksum).length = 8 :=
  rfl

theorem writeAll_ipv4Header (a : UdpPacketArgs Ipv4Addr) (tos : UInt8) (hip : ip = e.length) (hlen : 20 ≤ r.length) :
    writeAll (e ++ r) (ipv4HeaderWrites ip (UInt16.ofNat (20 + 8 + a.payload.length)) tos a.ttl a.srcIp a.dstIp) =
      some (e ++ (ipv4Header a tos 0 ++ r.drop 20)) := by
  subst hip
  exact writeAll_consecutive
    (ipv4HeaderWrites e.length (UInt16.ofNat (20 + 8 + a.payload.length)) tos a.ttl a.srcIp a.dstIp)
    ⟨rfl, rfl, rfl, rfl, rfl, rfl, rfl, rfl, rfl, rfl, trivial⟩ hlen

theorem writeAll_udpHeader {Ip : Type} (a : UdpPacketArgs Ip) {udp : Nat} (hudp : udp = e.length)
    (hlen : 8 ≤ r.length) :
    writeAll (e ++ r) (udpHeaderWrites udp a.srcPort a.dstPort (UInt16.ofNat (8 + a.payload.length))) =
      some (e ++ (udpHeader a 0 ++ r.drop 8)) := by
  subst hudp
  exact writeAll_consecutive (udpHeaderWrites e.length a.srcPort a.dstPort (UInt16.ofNat (8 + a.payload.length)))
    ⟨rfl, rfl, rfl, rfl, trivial⟩ hlen

theorem writeAt_ipv4Header (a : UdpPacketArgs Ipv4Addr) (tos : UInt8) {old : UInt16} (cksum : UInt16)
    (hip : ip = e.length) :
    writeAt (e ++ (ipv4Header a tos old ++ r)) (ip + 10) (beBytes16 cksum) =
      some (e ++ (ipv4Header a tos cksum ++ r)) := by
  have h : writeAt ((e ++ ipv4HeaderStart a tos) ++ (beBytes16 old ++ (a.srcIp.octets ++ a.dstIp.octets ++ r))) (ip + 10)
      (beBytes16 cksum) = _ := writeAt_patch (by rw [List.length_append, hip]; rfl) rfl
  simpa only [ipv4Header, List.append_assoc] using h

theorem writeAt_udpHeader {Ip : Type} (a : UdpPacketArgs Ip) {old : UInt16} (cksum : UInt16) {udp : Nat}
    (hudp : udp = e.length) :
    writeAt (e ++ (udpHeader a old ++ r)) (udp + 6) (beBytes16 cksum) = some (e ++ (udpHeader a cksum ++ r)) := by
  have h : writeAt ((e ++ udpHeaderStart a) ++ (beBytes16 old ++ r)) (udp + 6) (beBytes16 cksum) = _ :=
    writeAt_patch (by rw [List.length_append, hudp]; rfl) rfl
  simpa only [udpHeader, List.append_assoc] using h

theorem writeAt_payload (payload : List UInt8) {off : Nat} (hoff : off = e.length) (hlen : r.length = payload.length) :
    writeAt (e ++ r) off payload = some (e ++ payload) := by
  rw [writeAt_append hoff (Nat.le_of_eq hlen.symm), ← hlen, List.drop_length, List.append_nil]

theorem consecutive_ethWrites {Ip : Type} (a : UdpFrameArgs Ip) (ethertype : UInt16) :
    Consecutive 0 (ethWrites 0 a.dstMac a.srcMac ethertype) := by
  simp [ethWrites, Consecutive]

theorem writeAll_ethHeader {Ip : Type} (a : UdpFrameArgs Ip) (ethertype : UInt16) (hlen : 14 ≤ out.length) :
    writeAll out (ethWrites 0 a.dstMac a.srcMac ethertype) = some (ethHeader a none ethertype ++ out.drop 14) := by
  have heth : (ethHeader a none ethertype).length = 14 := length_ethHeader a none _
  have h := writeAll_consecutive _ (a := []) (b := out) (consecutive_ethWrites a ethertype)
    (by change (ethHeader a none ethertype).length ≤ _; omega)
  change writeAll out _ = some (ethHeader a none ethertype ++ out.drop (ethHeader a none ethertype).length) at h
  rwa [heth] at h

theorem consecutive_vlanWrites {Ip : Type} (a : UdpFrameArgs Ip) (tci ethertype : UInt16) :
    Consecutive 0 (vlanWrites a tci ethertype) := by
  simp [vlanWrites, Consecutive]

theorem writeUdpPacket_eq {a : UdpPacketArgs Ipv4Addr} (tos : UInt8) (hip : ip = e.length)
    (hr : r.length = 28 + a.payload.length) : writeUdpPacket (e ++ r) ip a tos = some (e ++ udpPacket a tos) := by
  unfold writeUdpPacket udpPacket udpHeader4
  dsimp only [Option.bind_eq_bind]
  rw [writeAll_ipv4Header a tos hip (by omega), Option.bind_some, readSlice_append hip (length_ipv4Header a tos 0).symm,
    Option.bind_some, writeAt_ipv4Header a tos _ hip, Option.bind_some]
  generalize ipv4Checksum (ipv4Header a tos 0) = cksum
  have hudp : ip + 20 = (e ++ ipv4Header a tos cksum).length := by
    rw [List.length_append, hip]
    rfl
  rw [← List.append_assoc, writeAll_udpHeader a hudp (by rw [List.length_drop]; omega), Option.bind_some,
    ← List.append_assoc, writeAt_payload a.payload (by rw [List.length_append, ← hudp]; rfl)
      (by rw [List.length_drop, List.length_drop]; omega), Option.bind_some, List.append_assoc (_ ++ _),
    readSlice_append hudp (length_udpHeader a 0).symm, Option.bind_some, writeAt_udpHeader a _ hudp, List.append_assoc]

theorem writeUdpFrame_eq {eth : List (Nat × List UInt8)} (tag : Option UInt16) (tos : UInt8)
    (heth : eth.flatMap Prod.snd = ethHeader a tag 0x0800) (hws : Consecutive 0 eth)
    (hip : ip = (ethHeader a tag 0x0800).length) (hlen : out.length = ip + 28 + a.payload.length) :
    writeUdpFrame out eth ip a tos = some (udpFrame a tag tos) := by
  have heth' : writeAll out eth = some (ethHeader a tag 0x0800 ++ out.drop ip) := by
    have h := writeAll_consecutive eth (a := []) (b := out) hws (by rw [heth, ← hip]; omega)
    rw [heth, ← hip] at h
    exact h
  rw [writeUdpFrame, heth', Option.bind_eq_bind, Option.bind_some,
    writeUdpPacket_eq tos hip (by rw [List.length_drop]; omega), udpFrame]

theorem writeUdpFrame_plain (tos : UInt8) (hlen : out.length = 42 + a.payload.length) :
    writeUdpFrame out (ethWrites 0 a.dstMac a.srcMac 0x0800) 14 a tos = some (udpFrame a none tos) :=
  writeUdpFrame_eq none tos rfl (consecutive_ethWrites a _) (length_ethHeader a none _).symm hlen

theorem writeUdpFrame_tagged (tci : UInt16) (tos : UInt8) (hlen : out.length = 46 + a.payload.length) :
    writeUdpFrame out (vlanWrites a tci 0x0800) 18 a tos = some (udpFrame a (some tci) tos) :=
  writeUdpFrame_eq (some tci) tos rfl (consecutive_vlanWrites a _ _) (length_ethHeader a (some tci) _).symm hlen

theorem buildUdpFrame_eq (h : a.payload.length ≤ 9015 - 42) : buildUdpFrame a = some (.ok (udpFrame a none 0)) := by
  rw [buildUdpFrame, if_neg (Nat.not_lt.2 h)]
  dsimp only
  rw [writeUdpFrame_plain _ (by rw [List.length_replicate])]
  rfl

theorem buildUdpFrameInto_eq (out : List UInt8) (h : a.payload.length ≤ 9015 - 42) :
    buildUdpFrameInto out a = some (.ok (42 + a.payload.length), udpFrame a none 0) := by
  rw [buildUdpFrameInto, if_neg (Nat.not_lt.2 h)]
  dsimp only
  rw [writeUdpFrame_plain _ (by rw [length_resize])]
  rfl

theorem buildUdpFrameIntoWithTos_eq (out : List UInt8) (tos : UInt8) (h : a.payload.length ≤ 9015 - 42) :
    buildUdpFrameIntoWithTos out a tos = some (.ok (42 + a.payload.length), udpFrame a none tos) := by
  rw [buildUdpFrameIntoWithTos, if_neg (Nat.not_lt.2 h)]
  dsimp only
  rw [writeUdpFrame_plain _ (by rw [length_resize])]
  rfl

theorem buildUdpFrameIntoVlan_eq (out : List UInt8) (vlan : VlanConfig) (h : a.payload.length ≤ 9015 - 46) :
    buildUdpFrameIntoVlan out a vlan = some (.ok (46 + a.payload.length), udpFrame a (some vlan.encodeTci) 0) := by
  rw [buildUdpFrameIntoVlan, if_neg (Nat.not_lt.2 h)]
  dsimp only
  rw [writeUdpFrame_tagged _ _ (by rw [length_resize])]
  rfl

/-! ## IPv6 frames -/

def ipv6Header (a : UdpPacketArgs Ipv6Addr) : List UInt8 :=
  [0x60, 0x00, 0x00, 0x00] ++ (beBytes16 (UInt16.ofNat (8 + a.payload.length)) ++
    ([17, a.ttl] ++ (Ipv6Addr.octets a.srcIp ++ Ipv6Addr.octets a.dstIp)))

def udpHeader6 (a : UdpPacketArgs Ipv6Addr) : List UInt8 :=
  udpHeader a (udp6Checksum a.srcIp a.dstIp (udpHeader a 0) a.payload)

def udp6Packet (a : UdpPacketArgs Ipv6Addr) : List UInt8 :=
  ipv6Header a ++ (udpHeader6 a ++ a.payload)

def udp6Frame (a : UdpFrameArgs Ipv6Addr) : List UInt8 :=
  ethHeader a none 0x86DD ++ udp6Packet a

@[simp] theorem length_ipv6Header (a : UdpPacketArgs Ipv6Addr) : (ipv6Header a).length = 40 := by
  simp [ipv6Header]

theorem writeAll_ipv6Header (a : UdpPacketArgs Ipv6Addr) (hip : ip = e.length) (hlen : 40 ≤ r.length) :
    writeAll (e ++ r) (ipv6HeaderWrites ip a.srcIp a.dstIp (UInt16.ofNat (8 + a.payload.length)) 17 a.ttl) =
      some (e ++ (ipv6Header a ++ r.drop 40)) := by
  have hflat : (ipv6HeaderWrites ip a.srcIp a.dstIp (UInt16.ofNat (8 + a.payload.length)) 17 a.ttl).flatMap Prod.snd =
      ipv6Header a := by
    simp [ipv6HeaderWrites, ipv6Header]
  have h := writeAll_consecutive
    (ipv6HeaderWrites ip a.srcIp a.dstIp (UInt16.ofNat (8 + a.payload.length)) 17 a.ttl) (a := e) (b := r)
    (by rw [← hip]; simp [ipv6HeaderWrites, Consecutive])
    (by rw [hflat, length_ipv6Header]; exact hlen)
  rwa [hflat, length_ipv6Header] at h

theorem writeUdp6Frame_eq {a : UdpFrameArgs Ipv6Addr} (hlen : out.length = 62 + a.payload.length) :
    writeUdp6Frame out a = some (udp6Frame a) := by
  unfold writeUdp6Frame udp6Frame udp6Packet udpHeader6
  have heth : 14 = (ethHeader a none 0x86DD).length := (length_ethHeader a none _).symm
  rw [writeAll_ethHeader a 0x86DD (by omega)]
  have hr : (out.drop 14).length = 48 + a.payload.length := by
    rw [List.length_drop]
    omega
  generalize ethHeader a none 0x86DD = e at heth
  generalize out.drop 14 = r at hr
  dsimp only [Option.bind_eq_bind, Option.bind_some]
  have hudp : 14 + 40 = (e ++ ipv6Header a).length := by
    rw [List.length_append, ← heth, length_ipv6Header]
  rw [writeAll_ipv6Header a.toUdpPacketArgs heth (by omega), Option.bind_some, ← List.append_assoc,
    writeAll_udpHeader a.toUdpPacketArgs hudp (by rw [List.length_drop]; omega), Option.bind_some,
    ← List.append_assoc, writeAt_payload a.payload (by rw [List.length_append, ← hudp]; rfl)
      (by rw [List.length_drop, List.length_drop]; omega), Option.bind_some, List.append_assoc (_ ++ _),
    readSlice_append hudp (length_udpHeader a.toUdpPacketArgs 0).symm, Option.bind_some,
    writeAt_udpHeader a.toUdpPacketArgs _ hudp, List.append_assoc]

theorem buildUdp6Frame_eq {a : UdpFrameArgs Ipv6Addr} (h : a.payload.length ≤ 9015 - 62) :
    buildUdp6Frame a = some (.ok (udp6Frame a)) := by
  rw [buildUdp6Frame, if_neg (Nat.not_lt.2 h)]
  dsimp only
  rw [writeUdp6Frame_eq (by rw [List.length_replicate])]
  rfl

theorem buildUdp6FrameInto_eq {a : UdpFrameArgs Ipv6Addr} (out : List UInt8) (h : a.payload.length ≤ 9015 - 62) :
    buildUdp6FrameInto out a = some (.ok (62 + a.payload.length), udp6Frame a) := by
  rw [buildUdp6FrameInto, if_neg (Nat.not_lt.2 h)]
  dsimp only
  rw [writeUdp6Frame_eq (by rw [length_resize])]
  rfl

/-! ## Reading back -/

theorem macAt_append (m : MacAddr) (r : List UInt8) (hi : i = e.length) : macAt (e ++ (m.toList ++ r)) i = m := by
  have h := slice_six (e ++ (m.toList ++ r)) (i := i)
    (by rw [List.length_append, List.length_append, Vector.length_toList]; omega)
  rw [slice_append hi (Vector.length_toList).symm] at h
  exact (Vector.toList_inj.1 h).symm

theorem be16At_ethHeader {Ip : Type} (a : UdpFrameArgs Ip) (tag : Option UInt16) (ethertype : UInt16)
    (r : List UInt8) :
    be16At (ethHeader a tag ethertype ++ r) 12 = tag.elim ethertype fun _ => 0x8100 := by
  have hmacs : 12 = (a.dstMac.toList ++ a.srcMac.toList).length := by
    rw [List.length_append, Vector.length_toList, Vector.length_toList]
  cases tag with
  | none => simpa only [ethHeader, Option.elim_none, List.nil_append, List.append_assoc] using be16At_field hmacs
  | some tci => simpa only [ethHeader, Option.elim_some, List.append_assoc] using be16At_field hmacs

theorem layoutOf_ethHeader {Ip : Type} (a : UdpFrameArgs Ip) (tag : Option UInt16) {ethertype : UInt16}
    (r : List UInt8) (h : ethertype ≠ 0x8100) :
    layoutOf (ethHeader a tag ethertype ++ r) none =
      some { ethertype, l3Offset := (ethHeader a tag ethertype).length, vlanTci := tag } := by
  have hmacs : (a.dstMac.toList ++ a.srcMac.toList).length = 12 := by
    rw [List.length_append, Vector.length_toList, Vector.length_toList]
  have hlen := length_ethHeader a tag ethertype
  cases tag with
  | none =>
    rw [layoutOf, if_neg (by rw [List.length_append, hlen]; exact Nat.not_lt.2 (Nat.le_add_right 14 _)),
      be16At_ethHeader, Option.elim_none, if_neg h, hlen]
    rfl
  | some tci =>
    have hall : ethHeader a (some tci) ethertype ++ r = (a.dstMac.toList ++ a.srcMac.toList) ++
        (beBytes16 0x8100 ++ (beBytes16 tci ++ (beBytes16 ethertype ++ r))) := by
      simp only [ethHeader, Option.elim_some, List.append_assoc]
    have h14 : be16At (ethHeader a (some tci) ethertype ++ r) 14 = tci := by
      rw [hall, ← List.append_assoc]
      exact be16At_field (by rw [List.length_append, hmacs]; rfl)
    have h16 : be16At (ethHeader a (some tci) ethertype ++ r) 16 = ethertype := by
      rw [hall, ← List.append_assoc, ← List.append_assoc]
      exact be16At_field (by rw [List.length_append, List.length_append, hmacs]; rfl)
    have hge : 18 ≤ (ethHeader a (some tci) ethertype ++ r).length := by
      rw [List.length_append, hlen]
      exact Nat.le_add_right 18 _
    rw [layoutOf, if_neg (by omega), be16At_ethHeader, Option.elim_some, if_pos rfl, if_neg (by omega), h14, h16, hlen]
    rfl

theorem udpLenAt_append {Ip : Type} (a : UdpPacketArgs Ip) (cksum : UInt16) (padding : List UInt8)
    (hlen : 8 + a.payload.length < 65536) :
    udpLenAt (e ++ (udpHeader a cksum ++ (a.payload ++ padding))) e.length = 8 + a.payload.length := by
  have hfield : be16At (e ++ (udpHeader a cksum ++ (a.payload ++ padding))) (e.length + 4) =
      UInt16.ofNat (8 + a.payload.length) := by
    rw [be16At_append_right]
    simp only [udpHeader, udpHeaderStart, List.append_assoc]
    rw [← List.append_assoc]
    exact be16At_field rfl
  rw [udpLenAt, hfield, UInt16.toNat_ofNat', Nat.mod_eq_of_lt hlen]

theorem udpAt_append {Ip : Type} (a : UdpPacketArgs Ip) (cksum : UInt16) (padding : List UInt8) (hi : i = e.length)
    (hlen : 8 + a.payload.length < 65536) :
    udpAt (e ++ (udpHeader a cksum ++ (a.payload ++ padding))) i = some (a.srcPort, a.dstPort, a.payload) := by
  subst hi
  have h0 : be16At (e ++ (udpHeader a cksum ++ (a.payload ++ padding))) e.length = a.srcPort := by
    simp only [udpHeader, udpHeaderStart, List.append_assoc]
    exact be16At_field rfl
  have h2 : be16At (e ++ (udpHeader a cksum ++ (a.payload ++ padding))) (e.length + 2) = a.dstPort := by
    rw [be16At_append_right]
    simp only [udpHeader, udpHeaderStart, List.append_assoc]
    exact be16At_field rfl
  have h4 : (be16At (e ++ (udpHeader a cksum ++ (a.payload ++ padding))) (e.length + 4)).toNat =
      8 + a.payload.length := udpLenAt_append a cksum padding hlen
  have hall : (e ++ (udpHeader a cksum ++ (a.payload ++ padding))).length =
      e.length + 8 + a.payload.length + padding.length := by
    simp only [List.length_append, length_udpHeader]
    omega
  rw [udpAt, if_pos ⟨by omega, by omega, by omega⟩, h0, h2, h4, Nat.add_sub_cancel_left, ← List.append_assoc,
    slice_append (by rw [List.length_append]; rfl) rfl]

section Ipv4

variable (a : UdpFrameArgs Ipv4Addr) (tag : Option UInt16) (tos : UInt8) (padding : List UInt8)

theorem udpFrame_append : udpFrame a tag tos ++ padding = ethHeader a tag 0x0800 ++
    (ipv4Header a tos (ipv4Checksum (ipv4Header a tos 0)) ++ (udpHeader4 a ++ (a.payload ++ padding))) := by
  simp only [udpFrame, udpPacket, List.append_assoc]

def builtLayout : FrameLayout :=
  { ethertype := 0x0800, l3Offset := (ethHeader a tag 0x0800).length, vlanTci := tag }

theorem layoutOf_udpFrame : layoutOf (udpFrame a tag tos ++ padding) none = some (builtLayout a tag) := by
  rw [udpFrame_append]
  exact layoutOf_ethHeader a tag _ (by decide)

theorem byteAt_udpFrame (k : Nat) : byteAt (udpFrame a tag tos ++ padding) ((builtLayout a tag).l3Offset + k) =
    byteAt (ipv4Header a tos (ipv4Checksum (ipv4Header a tos 0)) ++
      (udpHeader4 a ++ (a.payload ++ padding))) k := by
  rw [udpFrame_append]
  exact byteAt_append_right _ _ k

theorem ipHeaderLenAt_udpFrame : ipHeaderLenAt (udpFrame a tag tos ++ padding) (builtLayout a tag).l3Offset = 20 := by
  have h : byteAt (udpFrame a tag tos ++ padding) ((builtLayout a tag).l3Offset + 0) = 0x45 :=
    byteAt_udpFrame a tag tos padding 0
  rw [Nat.add_zero] at h
  rw [ipHeaderLenAt, h]
  rfl

theorem length_udpFrame : (udpFrame a tag tos).length = (builtLayout a tag).l3Offset + 28 + a.payload.length := by
  simp only [udpFrame, udpPacket, udpHeader4, List.length_append, length_ipv4Header, length_udpHeader, builtLayout]
  omega

theorem isUdpOverIpv4_udpFrame : isUdpOverIpv4 (udpFrame a tag tos ++ padding) (builtLayout a tag) := by
  have h0 : byteAt (udpFrame a tag tos ++ padding) ((builtLayout a tag).l3Offset + 0) = 0x45 :=
    byteAt_udpFrame a tag tos padding 0
  have h9 : byteAt (udpFrame a tag tos ++ padding) ((builtLayout a tag).l3Offset + 9) = 17 :=
    byteAt_udpFrame a tag tos padding 9
  rw [Nat.add_zero] at h0
  refine ⟨?_, rfl, by rw [h0]; rfl, by rw [h0]; decide, h9⟩
  rw [List.length_append, length_udpFrame]
  omega

theorem udpStart4_udpFrame :
    udpStart4 (udpFrame a tag tos ++ padding) (builtLayout a tag) = (builtLayout a tag).l3Offset + 20 :=
  congrArg ((builtLayout a tag).l3Offset + ·) (ipHeaderLenAt_udpFrame a tag tos padding)

theorem macAt_udpFrame : macAt (udpFrame a tag tos ++ padding) 0 = a.dstMac ∧
    macAt (udpFrame a tag tos ++ padding) 6 = a.srcMac := by
  simp only [udpFrame, ethHeader, List.append_assoc]
  exact ⟨macAt_append (e := []) _ _ rfl, macAt_append _ _ (Vector.length_toList).symm⟩

theorem ipv4At_udpFrame : ipv4At (udpFrame a tag tos ++ padding) ((builtLayout a tag).l3Offset + 12) = a.srcIp ∧
    ipv4At (udpFrame a tag tos ++ padding) ((builtLayout a tag).l3Offset + 16) = a.dstIp := by
  simp only [ipv4At, Nat.add_assoc, byteAt_udpFrame]
  exact ⟨rfl, rfl⟩

theorem udpAt_udpFrame (hlen : 8 + a.payload.length < 65536) :
    udpAt (udpFrame a tag tos ++ padding) ((builtLayout a tag).l3Offset + 20) =
      some (a.srcPort, a.dstPort, a.payload) := by
  rw [udpFrame_append, udpHeader4, ← List.append_assoc]
  exact udpAt_append a.toUdpPacketArgs _ padding (by rw [List.length_append, length_ipv4Header]; rfl) hlen

/-- A built frame is read back. -/
theorem udpView_udpFrame (hlen : 8 + a.payload.length < 65536) :
    udpView (udpFrame a tag tos ++ padding) =
      some { srcMac := a.srcMac, dstMac := a.dstMac, srcIp := a.srcIp, dstIp := a.dstIp, srcPort := a.srcPort
             dstPort := a.dstPort, payload := a.payload, vlanId := tag.map (· &&& 0x0FFF) } := by
  rw [udpView, layoutOf_udpFrame, Option.bind_some, if_pos (isUdpOverIpv4_udpFrame a tag tos padding),
    udpStart4_udpFrame, udpAt_udpFrame a tag tos padding hlen, (macAt_udpFrame a tag tos padding).1,
    (macAt_udpFrame a tag tos padding).2, (ipv4At_udpFrame a tag tos padding).1, (ipv4At_udpFrame a tag tos padding).2]
  rfl

theorem udpViewRef_udpFrame (hlen : 8 + a.payload.length < 65536) :
    udpViewRef (udpFrame a tag tos ++ padding) =
      some { srcMac := a.srcMac, srcIp := a.srcIp, dstIp := a.dstIp, srcPort := a.srcPort, dstPort := a.dstPort
             payload := a.payload, payloadOffset := (builtLayout a tag).l3Offset + 28
             vlanId := tag.map (· &&& 0x0FFF) } := by
  rw [udpViewRef, layoutOf_udpFrame, Option.bind_some, if_pos (isUdpOverIpv4_udpFrame a tag tos padding),
    udpStart4_udpFrame, udpAt_udpFrame a tag tos padding hlen, (macAt_udpFrame a tag tos padding).2,
    (ipv4At_udpFrame a tag tos padding).1, (ipv4At_udpFrame a tag tos padding).2]
  rfl

theorem wordSum_ipv4Header (a : UdpPacketArgs Ipv4Addr) (tos : UInt8) :
    endAround (wordSum (ipv4Header a tos (ipv4Checksum (ipv4Header a tos 0)))) = 65535 := by
  have key : ∀ x, wordSum (ipv4Header a tos x) =
      wordSum (ipv4HeaderStart a tos) + wordSum (a.srcIp.octets ++ a.dstIp.octets) + x.toNat :=
    fun x => wordSum_field x _ (by simp [ipv4HeaderStart])
  have hle := wordSum_le (ipv4Header a tos 0)
  rw [length_ipv4Header] at hle
  have hzero := key 0
  rw [UInt16.toNat_zero, Nat.add_zero] at hzero
  rw [key, ← hzero, ipv4Checksum, toNat_onesComplement (by omega), endAround_add_complement]

theorem ipv4HeaderValid_udpPacket (a : UdpPacketArgs Ipv4Addr) (tos : UInt8) (padding : List UInt8)
    (hip : ip = e.length) : Ipv4HeaderValid (e ++ (udpPacket a tos ++ padding)) ip := by
  have hheader : ipHeaderLenAt (e ++ (udpPacket a tos ++ padding)) ip = 20 := by
    have h0 : byteAt (e ++ (udpPacket a tos ++ padding)) (e.length + 0) = 0x45 := byteAt_append_right e _ 0
    rw [ipHeaderLenAt, hip, ← Nat.add_zero e.length, h0]
    rfl
  rw [Ipv4HeaderValid, hheader]
  refine ⟨le_rfl, ?_, ?_⟩
  · simp only [List.length_append, udpPacket, length_ipv4Header]
    omega
  · rw [udpPacket, List.append_assoc, slice_append hip (length_ipv4Header _ _ _).symm]
    exact wordSum_ipv4Header a tos

theorem ipv4ChecksumOk_udpFrame : ipv4ChecksumOk (udpFrame a tag tos ++ padding) := by
  refine ⟨_, layoutOf_udpFrame a tag tos padding, ?_⟩
  rw [udpFrame, List.append_assoc]
  exact ipv4HeaderValid_udpPacket _ _ _ rfl

theorem udpHeaderSum_udpHeader {Ip : Type} (a : UdpPacketArgs Ip) (cksum : UInt16) :
    udpHeaderSum (udpHeader a cksum) = udpHeaderSum (udpHeader a 0) := rfl

theorem udpChecksum_udpHeader {Ip : Type} (srcIp dstIp : List UInt8) (a : UdpPacketArgs Ip) (cksum : UInt16) :
    udpChecksum srcIp dstIp (udpHeader a cksum) a.payload = udpChecksum srcIp dstIp (udpHeader a 0) a.payload := by
  rw [udpChecksum, udpChecksum, udpHeaderSum_udpHeader]

theorem udp6Checksum_udpHeader {Ip : Type} (srcIp dstIp : Ipv6Addr) (a : UdpPacketArgs Ip) (cksum : UInt16) :
    udp6Checksum srcIp dstIp (udpHeader a cksum) a.payload = udp6Checksum srcIp dstIp (udpHeader a 0) a.payload := by
  rw [udp6Checksum, udp6Checksum, udpHeaderSum_udpHeader]

theorem be16At_udpLen {Ip : Type} (a : UdpPacketArgs Ip) (udpCksum : UInt16) (r : List UInt8) (hi : i = e.length) :
    be16At (e ++ (udpHeader a udpCksum ++ r)) (i + 4) = UInt16.ofNat (8 + a.payload.length) := by
  subst hi
  rw [be16At_append_right]
  simp only [udpHeader, udpHeaderStart, List.append_assoc]
  rw [← List.append_assoc]
  exact be16At_field rfl

theorem be16At_udpHeader {Ip : Type} (a : UdpPacketArgs Ip) (cksum : UInt16) : be16At (udpHeader a cksum) 6 = cksum := by
  rw [udpHeader, ← List.append_nil (beBytes16 cksum)]
  exact be16At_field rfl

theorem udp4Valid_udpPacket (a : UdpPacketArgs Ipv4Addr) (tos : UInt8) (padding : List UInt8) (hip : ip = e.length)
    (hlen : 8 + a.payload.length < 65536) : Udp4Valid (e ++ (udpPacket a tos ++ padding)) ip (ip + 20) := by
  have hpacket : udpPacket a tos ++ padding = ipv4Header a tos (ipv4Checksum (ipv4Header a tos 0)) ++
      (udpHeader4 a ++ (a.payload ++ padding)) := by
    simp only [udpPacket, List.append_assoc]
  rw [hpacket]
  generalize ipv4Checksum (ipv4Header a tos 0) = cksum
  have hudp : ip + 20 = (e ++ ipv4Header a tos cksum).length := by
    rw [List.length_append, length_ipv4Header, hip]
  have hudpLen : udpLenAt (e ++ (ipv4Header a tos cksum ++ (udpHeader4 a ++ (a.payload ++ padding)))) (ip + 20) =
      8 + a.payload.length := by
    rw [udpHeader4, ← List.append_assoc, hudp]
    exact udpLenAt_append a _ padding hlen
  have hseg : ((e ++ (ipv4Header a tos cksum ++ (udpHeader4 a ++ (a.payload ++ padding)))).drop (ip + 20)).take
      (8 + a.payload.length) = udpHeader4 a ++ a.payload := by
    rw [← List.append_assoc, ← List.append_assoc (udpHeader4 _)]
    exact slice_append hudp (by rw [List.length_append, udpHeader4, length_udpHeader])
  have hsrc : ((e ++ (ipv4Header a tos cksum ++ (udpHeader4 a ++ (a.payload ++ padding)))).drop (ip + 12)).take 4 =
      a.srcIp.octets := by
    rw [hip]
    exact slice_append_right _ _ 12 4
  have hdst : ((e ++ (ipv4Header a tos cksum ++ (udpHeader4 a ++ (a.payload ++ padding)))).drop (ip + 16)).take 4 =
      a.dstIp.octets := by
    rw [hip]
    exact slice_append_right _ _ 16 4
  refine .inr ⟨?_, ?_⟩
  · rw [hudpLen, ← List.append_assoc, List.length_append, ← hudp]
    simp only [List.length_append, udpHeader4, length_udpHeader]
    omega
  · rw [hudpLen, hsrc, hdst, hseg]
    exact (udpChecksum_eq_iff rfl rfl (length_udpHeader a _) hlen (be16At_udpHeader a _)
      (nonzeroChecksum_ne_zero _)).1 (udpChecksum_udpHeader _ _ a _)

theorem udpChecksumOk_udpFrame (hlen : 8 + a.payload.length < 65536) :
    udpChecksumOk (udpFrame a tag tos ++ padding) := by
  refine ⟨_, layoutOf_udpFrame a tag tos padding, (isUdpOverIpv4_udpFrame a tag tos padding).1, ?_⟩
  rw [udpStart4_udpFrame]
  refine ⟨by rw [List.length_append, length_udpFrame]; omega, ?_⟩
  rw [udpFrame, List.append_assoc]
  exact udp4Valid_udpPacket _ _ _ rfl hlen

end Ipv4

section Ipv6

variable (a : UdpFrameArgs Ipv6Addr) (padding : List UInt8)

theorem udp6Frame_append : udp6Frame a ++ padding =
    ethHeader a none 0x86DD ++ (ipv6Header a ++ (udpHeader6 a ++ (a.payload ++ padding))) := by
  simp only [udp6Frame, udp6Packet, List.append_assoc]

def builtLayout6 : FrameLayout := { ethertype := 0x86DD, l3Offset := 14, vlanTci := none }

theorem layoutOf_udp6Frame : layoutOf (udp6Frame a ++ padding) none = some builtLayout6 := by
  rw [udp6Frame_append, layoutOf_ethHeader a none _ (by decide), length_ethHeader]
  rfl

theorem length_udp6Frame : (udp6Frame a).length = 62 + a.payload.length := by
  simp only [udp6Frame, udp6Packet, udpHeader6, List.length_append, length_ethHeader, length_ipv6Header,
    length_udpHeader, Option.elim_none]
  omega

theorem drop_udp6Frame : (udp6Frame a ++ padding).drop 14 = ipv6Header a ++
    (udpHeader6 a ++ (a.payload ++ padding)) := by
  rw [udp6Frame_append]
  exact List.drop_left' (length_ethHeader a none _)

theorem byteAt_udp6Frame (k : Nat) : byteAt (udp6Frame a ++ padding) (14 + k) = byteAt (ipv6Header a ++
    (udpHeader6 a ++ (a.payload ++ padding))) k := by
  rw [← drop_udp6Frame, byteAt, byteAt, List.getD_eq_getElem?_getD, List.getD_eq_getElem?_getD, List.getElem?_drop]

theorem isIpv6_udp6Frame : isIpv6 (udp6Frame a ++ padding) builtLayout6 := by
  have h0 : byteAt (udp6Frame a ++ padding) (14 + 0) = 0x60 := byteAt_udp6Frame a padding 0
  refine ⟨rfl, ?_, ?_⟩
  · rw [List.length_append, length_udp6Frame]
    exact Nat.le_trans (by decide : 14 + 40 ≤ 62) (by omega)
  · change byteAt (udp6Frame a ++ padding) (14 + 0) >>> 4 = 6
    rw [h0]
    rfl

theorem udpStart6_udp6Frame : udpStart6 (udp6Frame a ++ padding) builtLayout6 = some 54 := by
  have h6 : byteAt ((udp6Frame a ++ padding).drop 14) 6 = 17 := by
    rw [drop_udp6Frame]
    rfl
  have hlen : 40 ≤ ((udp6Frame a ++ padding).drop 14).length := by
    rw [List.length_drop, List.length_append, length_udp6Frame]
    omega
  change (upperLayer ((udp6Frame a ++ padding).drop 14)).bind _ = _
  rw [upperLayer_of_not_extension hlen (by rw [h6]; decide), h6]
  rfl

theorem slice_udp6Frame (k n : Nat) : ((udp6Frame a ++ padding).drop (14 + k)).take n = ((ipv6Header a ++
    (udpHeader6 a ++ (a.payload ++ padding))).drop k).take n := by
  rw [← drop_udp6Frame, List.drop_drop]

theorem srcIp_udp6Frame : ((udp6Frame a ++ padding).drop (14 + 8)).take 16 = Ipv6Addr.octets a.srcIp := by
  rw [slice_udp6Frame, ipv6Header]
  simp only [List.append_assoc]
  rw [← List.append_assoc, ← List.append_assoc]
  exact slice_append (by simp) (Ipv6Addr.length_octets _).symm

theorem dstIp_udp6Frame : ((udp6Frame a ++ padding).drop (14 + 24)).take 16 = Ipv6Addr.octets a.dstIp := by
  rw [slice_udp6Frame, ipv6Header]
  simp only [List.append_assoc]
  rw [← List.append_assoc, ← List.append_assoc, ← List.append_assoc]
  exact slice_append (by simp) (Ipv6Addr.length_octets _).symm

theorem udp6Frame_append' : udp6Frame a ++ padding = (ethHeader a none 0x86DD ++ ipv6Header a) ++
    (udpHeader6 a ++ (a.payload ++ padding)) := by
  rw [udp6Frame_append, List.append_assoc]

theorem length_headers6 : 54 = (ethHeader a none 0x86DD ++ ipv6Header a).length := by
  rw [List.length_append, length_ethHeader, length_ipv6Header]
  rfl

theorem macAt_udp6Frame : macAt (udp6Frame a ++ padding) 0 = a.dstMac ∧ macAt (udp6Frame a ++ padding) 6 = a.srcMac := by
  simp only [udp6Frame, ethHeader, List.append_assoc]
  exact ⟨macAt_append (e := []) _ _ rfl, macAt_append _ _ (Vector.length_toList).symm⟩

theorem udpAt_udp6Frame (hlen : 8 + a.payload.length < 65536) :
    udpAt (udp6Frame a ++ padding) 54 = some (a.srcPort, a.dstPort, a.payload) := by
  rw [udp6Frame_append', udpHeader6]
  exact udpAt_append a.toUdpPacketArgs _ padding (length_headers6 a) hlen

theorem udp6View_udp6Frame (hlen : 8 + a.payload.length < 65536) :
    udp6View (udp6Frame a ++ padding) =
      some { srcMac := a.srcMac, dstMac := a.dstMac, srcIp := a.srcIp, dstIp := a.dstIp, srcPort := a.srcPort
             dstPort := a.dstPort, payload := a.payload, vlanId := none } := by
  rw [udp6View, layoutOf_udp6Frame, Option.bind_some, if_pos (isIpv6_udp6Frame a padding), udpStart6_udp6Frame,
    Option.bind_some, udpAt_udp6Frame a padding hlen, (macAt_udp6Frame a padding).1, (macAt_udp6Frame a padding).2]
  change some (ParsedUdpPacket.mk _ _ (Ipv6Addr.ofOctets (((udp6Frame a ++ padding).drop (14 + 8)).take 16))
    (Ipv6Addr.ofOctets (((udp6Frame a ++ padding).drop (14 + 24)).take 16)) _ _ _ _) = _
  rw [srcIp_udp6Frame, dstIp_udp6Frame, Ipv6Addr.ofOctets_octets, Ipv6Addr.ofOctets_octets]
  rfl

theorem udp6ViewRef_udp6Frame (hlen : 8 + a.payload.length < 65536) :
    udp6ViewRef (udp6Frame a ++ padding) =
      some { srcMac := a.srcMac, srcIp := a.srcIp, dstIp := a.dstIp, srcPort := a.srcPort, dstPort := a.dstPort
             payload := a.payload, payloadOffset := 62, vlanId := none } := by
  rw [udp6ViewRef, layoutOf_udp6Frame, Option.bind_some, if_pos (isIpv6_udp6Frame a padding), udpStart6_udp6Frame,
    Option.bind_some, udpAt_udp6Frame a padding hlen, (macAt_udp6Frame a padding).2]
  change some (ParsedUdpPacketRef.mk _ (Ipv6Addr.ofOctets (((udp6Frame a ++ padding).drop (14 + 8)).take 16))
    (Ipv6Addr.ofOctets (((udp6Frame a ++ padding).drop (14 + 24)).take 16)) _ _ _ _ _) = _
  rw [srcIp_udp6Frame, dstIp_udp6Frame, Ipv6Addr.ofOctets_octets, Ipv6Addr.ofOctets_octets]
  rfl

theorem udp6ChecksumOk_udp6Frame (hlen : 8 + a.payload.length < 65536) : udp6ChecksumOk (udp6Frame a ++ padding) := by
  have hall : (udp6Frame a ++ padding).length = 62 + a.payload.length + padding.length := by
    rw [List.length_append, length_udp6Frame]
  have hudpLen : udpLenAt (udp6Frame a ++ padding) 54 = 8 + a.payload.length := by
    rw [udp6Frame_append', length_headers6 a, udpHeader6]
    exact udpLenAt_append a.toUdpPacketArgs _ padding hlen
  have hseg : ((udp6Frame a ++ padding).drop 54).take (8 + a.payload.length) =
      udpHeader6 a ++ a.payload := by
    rw [udp6Frame_append', ← List.append_assoc (udpHeader6 _)]
    exact slice_append (length_headers6 a) (by rw [List.length_append, udpHeader6, length_udpHeader])
  have hstored : be16At (udp6Frame a ++ padding) (54 + 6) =
      udp6Checksum a.srcIp a.dstIp (udpHeader a.toUdpPacketArgs 0) a.payload := by
    rw [udp6Frame_append', udpHeader6, length_headers6 a, be16At_append_right,
      be16At_append_left _ (by rw [length_udpHeader]), be16At_udpHeader]
  refine ⟨_, layoutOf_udp6Frame a padding, rfl, (isIpv6_udp6Frame a padding).2.1, 54, udpStart6_udp6Frame a padding,
    by omega, ?_⟩
  have hne : udp6Checksum a.srcIp a.dstIp (udpHeader a.toUdpPacketArgs 0) a.payload ≠ 0 := nonzeroChecksum_ne_zero _
  refine ⟨by rw [hstored]; exact hne, by omega, by omega, ?_⟩
  change endAround (wordSum (((udp6Frame a ++ padding).drop (14 + 8)).take 16) +
    wordSum (((udp6Frame a ++ padding).drop (14 + 24)).take 16) + 17 + _ + _) = _
  rw [hudpLen, hseg, srcIp_udp6Frame, dstIp_udp6Frame]
  exact (udp6Checksum_eq_iff _ _ (length_udpHeader a.toUdpPacketArgs _) hlen (be16At_udpHeader a.toUdpPacketArgs _)
    hne).1 (udp6Checksum_udpHeader _ _ a.toUdpPacketArgs _)

end Ipv6

/-! ## The builders of a family -/

theorem udpFrame_tag (a : UdpFrameArgs Ipv4Addr) (tci : UInt16) (tos : UInt8) :
    udpFrame a (some tci) tos =
      (udpFrame a none tos).take 12 ++ (beBytes16 0x8100 ++ beBytes16 tci) ++ (udpFrame a none tos).drop 12 := by
  have hmacs : 12 = (a.dstMac.toList ++ a.srcMac.toList).length := by
    rw [List.length_append, Vector.length_toList, Vector.length_toList]
  have hplain : udpFrame a none tos =
      (a.dstMac.toList ++ a.srcMac.toList) ++ (beBytes16 0x0800 ++ udpPacket a tos) := by
    simp only [udpFrame, ethHeader, Option.elim_none, List.nil_append, List.append_assoc]
  rw [hplain, List.take_left' hmacs.symm, List.drop_left' hmacs.symm]
  simp only [udpFrame, ethHeader, Option.elim_some, List.append_assoc]

theorem getElem?_ipv4Header (a : UdpPacketArgs Ipv4Addr) (tos tos' : UInt8) (cksum cksum' : UInt16) (r : List UInt8)
    {k : Nat} (h1 : k ≠ 1) (h10 : k ≠ 10) (h11 : k ≠ 11) :
    (ipv4Header a tos cksum ++ r)[k]? = (ipv4Header a tos' cksum' ++ r)[k]? := by
  by_cases hk : k < 20
  · interval_cases k <;> first | rfl | exact absurd rfl h1 | exact absurd rfl h10 | exact absurd rfl h11
  · rw [List.getElem?_append_right (by rw [length_ipv4Header]; omega),
      List.getElem?_append_right (by rw [length_ipv4Header]; omega), length_ipv4Header, length_ipv4Header]

theorem getElem?_udpFrame (a : UdpFrameArgs Ipv4Addr) (tos tos' : UInt8) (h15 : i ≠ 15) (h24 : i ≠ 24) (h25 : i ≠ 25) :
    (udpFrame a none tos)[i]? = (udpFrame a none tos')[i]? := by
  have hlen : (ethHeader a none 0x0800).length = 14 := length_ethHeader a none _
  rw [udpFrame, udpFrame]
  by_cases hi : i < 14
  · rw [List.getElem?_append_left (by omega), List.getElem?_append_left (by omega)]
  · have hdrop : ∀ r : List UInt8, (ethHeader a none 0x0800 ++ r)[i]? = r[i - 14]? := by
      intro r
      rw [List.getElem?_append_right (by omega), hlen]
    rw [hdrop, hdrop, udpPacket, udpPacket]
    exact getElem?_ipv4Header a _ _ _ _ _ (by omega) (by omega) (by omega)

/-! ## Round trip -/

/-- The borrowed form of a parsed packet, its payload at `payloadOffset`. -/
def ParsedUdpPacket.toRef {Ip : Type} (p : ParsedUdpPacket Ip) (payloadOffset : Nat) : ParsedUdpPacketRef Ip :=
  { srcMac := p.srcMac, srcIp := p.srcIp, dstIp := p.dstIp, srcPort := p.srcPort, dstPort := p.dstPort
    payload := p.payload, payloadOffset, vlanId := p.vlanId }

/-- What a frame built from `a` should be read as. -/
def UdpFrameArgs.parsed {Ip : Type} (a : UdpFrameArgs Ip) (vlanId : Option UInt16) : ParsedUdpPacket Ip :=
  { srcMac := a.srcMac, dstMac := a.dstMac, srcIp := a.srcIp, dstIp := a.dstIp, srcPort := a.srcPort
    dstPort := a.dstPort, payload := a.payload, vlanId }

/-- Followed by any padding, the frame is read back by both IPv4 parsers and accepted by both verifiers. -/
def ReadsBack4 (a : UdpFrameArgs Ipv4Addr) (vlanId : Option UInt16) (frame : List UInt8) : Prop :=
  ∀ padding, parseUdpPacket (frame ++ padding) = some (some (a.parsed vlanId)) ∧
    (∃ off, parseUdpPacketRef (frame ++ padding) = some (some ((a.parsed vlanId).toRef off))) ∧
    verifyIpv4Checksum (frame ++ padding) = some true ∧ verifyUdpChecksum (frame ++ padding) = some true

/-- Followed by any padding, the frame is read back by both IPv6 parsers and accepted by the verifier. -/
def ReadsBack6 (a : UdpFrameArgs Ipv6Addr) (frame : List UInt8) : Prop :=
  ∀ padding, parseUdp6Packet (frame ++ padding) = some (some (a.parsed none)) ∧
    (∃ off, parseUdp6PacketRef (frame ++ padding) = some (some ((a.parsed none).toRef off))) ∧
    verifyUdp6Checksum (frame ++ padding) = some true

/-- An owned and a borrowed parser both reject, or return equal packets. -/
def ParsersAgree {Ip : Type} (owned : Option (Option (ParsedUdpPacket Ip)))
    (borrowed : Option (Option (ParsedUdpPacketRef Ip))) : Prop :=
  owned = some none ∧ borrowed = some none ∨
    ∃ p off, owned = some (some p) ∧ borrowed = some (some (p.toRef off))

theorem readsBack4_udpFrame (tag : Option UInt16) (tos : UInt8) (h : a.payload.length ≤ 9015 - 42) :
    ReadsBack4 a (tag.map (· &&& 0x0FFF)) (udpFrame a tag tos) := by
  intro padding
  have hlen : 8 + a.payload.length < 65536 := by omega
  rw [parseUdpPacket_eq, parseUdpPacketRef_eq, verifyIpv4Checksum_eq, verifyUdpChecksum_eq,
    udpView_udpFrame a tag tos padding hlen, udpViewRef_udpFrame a tag tos padding hlen,
    decide_eq_true (ipv4ChecksumOk_udpFrame a tag tos padding),
    decide_eq_true (udpChecksumOk_udpFrame a tag tos padding hlen)]
  exact ⟨rfl, ⟨_, rfl⟩, rfl, rfl⟩

theorem readsBack6_udp6Frame {a : UdpFrameArgs Ipv6Addr} (h : a.payload.length ≤ 9015 - 62) :
    ReadsBack6 a (udp6Frame a) := by
  intro padding
  have hlen : 8 + a.payload.length < 65536 := by omega
  rw [parseUdp6Packet_eq, parseUdp6PacketRef_eq, verifyUdp6Checksum_eq, udp6View_udp6Frame a padding hlen,
    udp6ViewRef_udp6Frame a padding hlen, decide_eq_true (udp6ChecksumOk_udp6Frame a padding hlen)]
  exact ⟨rfl, ⟨_, rfl⟩, rfl⟩

theorem parsersAgree4 (frame : List UInt8) : ParsersAgree (parseUdpPacket frame) (parseUdpPacketRef frame) := by
  rw [parseUdpPacket_eq, parseUdpPacketRef_eq, udpView, udpViewRef]
  cases layoutOf frame none with
  | none => exact .inl ⟨rfl, rfl⟩
  | some layout =>
    dsimp only [Option.bind_some]
    by_cases h : isUdpOverIpv4 frame layout
    · rw [if_pos h, if_pos h]
      cases udpAt frame (udpStart4 frame layout) with
      | none => exact .inl ⟨rfl, rfl⟩
      | some d => exact .inr ⟨_, _, rfl, rfl⟩
    · rw [if_neg h, if_neg h]
      exact .inl ⟨rfl, rfl⟩

theorem parsersAgree6 (frame : List UInt8) : ParsersAgree (parseUdp6Packet frame) (parseUdp6PacketRef frame) := by
  rw [parseUdp6Packet_eq, parseUdp6PacketRef_eq, udp6View, udp6ViewRef]
  cases layoutOf frame none with
  | none => exact .inl ⟨rfl, rfl⟩
  | some layout =>
    dsimp only [Option.bind_some]
    by_cases h : isIpv6 frame layout
    · rw [if_pos h, if_pos h]
      cases udpStart6 frame layout with
      | none => exact .inl ⟨rfl, rfl⟩
      | some udpStart =>
        dsimp only [Option.bind_some]
        cases udpAt frame udpStart with
        | none => exact .inl ⟨rfl, rfl⟩
        | some d => exact .inr ⟨_, _, rfl, rfl⟩
    · rw [if_neg h, if_neg h]
      exact .inl ⟨rfl, rfl⟩

/-- **Round trip and agreement.** Whatever the buffer held, the builders of a family write one frame up to TOS (with its
header checksum) and VLAN tag; it is read back with whatever padding follows, its checksums accepted; and on every byte
string the owned and the borrowed parser agree. -/
theorem udp_codec_roundtrip :
    (∀ a : UdpFrameArgs Ipv4Addr, a.payload.length ≤ 9015 - 42 →
      ∃ frame, buildUdpFrame a = some (.ok frame) ∧ ReadsBack4 a none frame ∧
        (∀ out, buildUdpFrameInto out a = some (.ok frame.length, frame)) ∧
        (∀ out tos, ∃ frame', buildUdpFrameIntoWithTos out a tos = some (.ok frame.length, frame') ∧
          (∀ i, i ≠ 15 → i ≠ 24 → i ≠ 25 → frame'[i]? = frame[i]?) ∧ frame'[15]? = some tos ∧
          (tos = 0 → frame' = frame) ∧ ReadsBack4 a none frame') ∧
        (∀ out (vlan : VlanConfig), a.payload.length ≤ 9015 - 46 →
          ∃ frame', buildUdpFrameIntoVlan out a vlan = some (.ok (frame.length + 4), frame') ∧
            frame' = frame.take 12 ++ (beBytes16 0x8100 ++ beBytes16 vlan.encodeTci) ++ frame.drop 12 ∧
            ReadsBack4 a (some (vlan.encodeTci &&& 0x0FFF)) frame')) ∧
    (∀ a : UdpFrameArgs Ipv6Addr, a.payload.length ≤ 9015 - 62 →
      ∃ frame, buildUdp6Frame a = some (.ok frame) ∧ ReadsBack6 a frame ∧
        ∀ out, buildUdp6FrameInto out a = some (.ok frame.length, frame)) ∧
    ∀ frame, ParsersAgree (parseUdpPacket frame) (parseUdpPacketRef frame) ∧
      ParsersAgree (parseUdp6Packet frame) (parseUdp6PacketRef frame) := by
  refine ⟨fun a h => ?_, fun a h => ?_, fun frame => ⟨parsersAgree4 frame, parsersAgree6 frame⟩⟩
  · have hlen : (udpFrame a none 0).length = 42 + a.payload.length := by
      rw [length_udpFrame, builtLayout, length_ethHeader, Option.elim_none]
    refine ⟨udpFrame a none 0, buildUdpFrame_eq h, readsBack4_udpFrame none 0 h, fun out => ?_, fun out tos => ?_,
      fun out vlan h' => ?_⟩
    · rw [buildUdpFrameInto_eq out h, hlen]
    · refine ⟨udpFrame a none tos, ?_, fun i h15 h24 h25 => getElem?_udpFrame a _ _ h15 h24 h25, ?_, ?_,
        readsBack4_udpFrame none tos h⟩
      · rw [buildUdpFrameIntoWithTos_eq out tos h, hlen]
      · rw [udpFrame, List.getElem?_append_right (by rw [length_ethHeader]; decide), length_ethHeader]
        rfl
      · rintro rfl
        rfl
    · refine ⟨udpFrame a (some vlan.encodeTci) 0, ?_, udpFrame_tag a _ 0, readsBack4_udpFrame (some vlan.encodeTci) 0 h⟩
      rw [buildUdpFrameIntoVlan_eq out vlan h', hlen]
      congr 3
      omega
  · refine ⟨udp6Frame a, buildUdp6Frame_eq h, readsBack6_udp6Frame h, fun out => ?_⟩
    rw [buildUdp6FrameInto_eq out h, length_udp6Frame]

def sampleArgs : UdpFrameArgs Ipv4Addr where
  srcMac := sampleMac 1
  dstMac := sampleMac 2
  srcIp := ⟨10, 0, 0, 1⟩
  dstIp := ⟨10, 0, 0, 2⟩
  srcPort := 4000
  dstPort := 5000
  payload := [1, 2, 3]
  ttl := 64

theorem udp_codec_roundtrip_sample :
    ∃ frame, buildUdpFrame sampleArgs = some (.ok frame) ∧ ReadsBack4 sampleArgs none frame ∧
      buildUdpFrameInto [7, 7] sampleArgs = some (.ok frame.length, frame) :=
  let ⟨frame, hbuild, hread, hinto, _⟩ := udp_codec_roundtrip.1 sampleArgs (by decide)
  ⟨frame, hbuild, hread, hinto [7, 7]⟩

end DpdkStdlib.Udp
