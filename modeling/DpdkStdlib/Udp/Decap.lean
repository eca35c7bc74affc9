import DpdkStdlib.Udp.Encap

/-!
# Tunnel frames taken apart (`gue.rs`, `vxlan.rs`, `geneve.rs`)

A tunnel frame is a UDP frame whose payload is the tunnel header and the inner packet (`Encap`).  Each decapsulator finds
the tunnel header behind the outer UDP header, parses it, and finds the inner packet behind it; the checksums of the
inner packet do not depend on where it is.
-/

namespace DpdkStdlib.Udp
open DpdkStdlib.Lib

variable {vni : UInt32} {header : GeneveHeader} {e : List UInt8}

/-! ## Headers read back -/

theorem or_shiftLeft_bytes {a b c : Nat} (hb : b < 256) (hc : c < 256) :
    a <<< 16 ||| b <<< 8 ||| c = a * 65536 + b * 256 + c := by
  have hlow : b <<< 8 ||| c = b * 256 + c := by
    rw [← Nat.shiftLeft_add_eq_or_of_lt (i := 8) hc, Nat.shiftLeft_eq]
  rw [Nat.or_assoc, hlow, ← Nat.shiftLeft_add_eq_or_of_lt (i := 16) (by omega), Nat.shiftLeft_eq, Nat.add_assoc]

theorem toNat_vniAt (data : List UInt8) (i : Nat) : (vniAt data i).toNat =
    (byteAt data i).toNat * 65536 + (byteAt data (i + 1)).toNat * 256 + (byteAt data (i + 2)).toNat := by
  have hshift : ∀ n k, n < 256 → k ≤ 16 → n <<< k % 2 ^ 32 = n <<< k := fun n k hn hk => by
    have hpow : 2 ^ k ≤ 2 ^ 16 := Nat.pow_le_pow_right (by decide) hk
    have hle := Nat.mul_le_mul (Nat.le_of_lt hn) hpow
    exact Nat.mod_eq_of_lt (by rw [Nat.shiftLeft_eq]; omega)
  simp only [vniAt, UInt32.toNat_or, UInt32.toNat_shiftLeft, UInt8.toNat_toUInt32, UInt32.reduceToNat, Nat.reduceMod]
  rw [hshift _ _ (UInt8.toNat_lt _) (by decide), hshift _ _ (UInt8.toNat_lt _) (by decide),
    or_shiftLeft_bytes (UInt8.toNat_lt _) (UInt8.toNat_lt _)]

theorem vniBytes_eq (vni : UInt32) : vniBytes vni =
    [UInt8.ofNat (vni.toNat / 65536), UInt8.ofNat (vni.toNat / 256), UInt8.ofNat vni.toNat] := by
  have hbyte : ∀ x : UInt32, (x &&& 0xFF).toUInt8 = UInt8.ofNat x.toNat := by
    intro x
    apply UInt8.toNat_inj.1
    rw [UInt32.toNat_toUInt8, UInt32.toNat_and, UInt8.toNat_ofNat']
    change (x.toNat &&& 255) % 2 ^ 8 = _
    rw [Nat.and_two_pow_sub_one_eq_mod _ 8, Nat.mod_mod]
  have hshift : ∀ k : UInt32, k.toNat < 32 → (vni >>> k).toNat = vni.toNat / 2 ^ k.toNat := by
    intro k hk
    rw [UInt32.toNat_shiftRight, Nat.mod_eq_of_lt hk, Nat.shiftRight_eq_div_pow]
  rw [vniBytes, hbyte, hbyte, hbyte, hshift 16 (by decide), hshift 8 (by decide)]
  rfl

theorem vniAt_append (r : List UInt8) (hvni : vni.toNat < 2 ^ 24) {i : Nat} (hi : i = e.length) :
    vniAt (e ++ (vniBytes vni ++ r)) i = vni := by
  subst hi
  have hbyte := fun k => byteAt_append_right e (vniBytes vni ++ r) k
  apply UInt32.toNat_inj.1
  rw [toNat_vniAt, hbyte 1, hbyte 2, show byteAt _ e.length = _ from hbyte 0, vniBytes_eq]
  change (UInt8.ofNat (vni.toNat / 65536)).toNat * 65536 + (UInt8.ofNat (vni.toNat / 256)).toNat * 256 +
    (UInt8.ofNat vni.toNat).toNat = _
  simp only [UInt8.toNat_ofNat']
  omega

theorem GueHeader.parse_newData (r : List UInt8) : GueHeader.parse ([0, 4, 0, 0] ++ r) = some (GueHeader.newData 4) := by
  have h0 : byteAt ([0, 4, 0, 0] ++ r) 0 = 0 := rfl
  have h1 : byteAt ([0, 4, 0, 0] ++ r) 1 = 4 := rfl
  have hflags : [0, 4, 0, 0] ++ r = [0, 4] ++ (beBytes16 0 ++ r) := rfl
  have h2 : be16At ([0, 4, 0, 0] ++ r) 2 = 0 := by
    rw [hflags]
    exact be16At_field rfl
  have hlen : ¬ ([0, 4, 0, 0] ++ r).length < 4 := by
    rw [List.length_append]
    exact Nat.not_lt.2 (Nat.le_add_right 4 _)
  rw [GueHeader.parse, if_neg hlen]
  dsimp only
  rw [h0, h1, h2, if_neg (by decide)]
  exact if_neg hlen

theorem VxlanHeader.length_bytes (header : VxlanHeader) : header.bytes.length = 8 := rfl

theorem VxlanHeader.parse_bytes (hvni : vni.toNat < 2 ^ 24) (r : List UInt8) :
    VxlanHeader.parse ((VxlanHeader.new vni).bytes ++ r) = some (VxlanHeader.new vni) := by
  have h0 : byteAt ((VxlanHeader.new vni).bytes ++ r) 0 = 0x08 := rfl
  have hbytes : (VxlanHeader.new vni).bytes ++ r = [0x08, 0, 0, 0] ++ (vniBytes vni ++ ([0] ++ r)) := rfl
  have hvniAt : vniAt ((VxlanHeader.new vni).bytes ++ r) 4 = vni := by
    rw [hbytes]
    exact vniAt_append _ hvni rfl
  have hlen : ¬ ((VxlanHeader.new vni).bytes ++ r).length < 8 := by
    rw [List.length_append]
    exact Nat.not_lt.2 (Nat.le_add_right 8 _)
  rw [VxlanHeader.parse, if_neg hlen, h0, hvniAt]
  rfl

/-- An option whose length has five bits, in words of four bytes. -/
def GeneveTlvOption.WellFormed (opt : GeneveTlvOption) : Prop := opt.data.length % 4 = 0 ∧ opt.data.length / 4 < 32

/-- A header that parses back: version, Ethernet, a VNI of 24 bits, and options of at most 63 words. -/
structure GeneveHeader.WellFormed (header : GeneveHeader) : Prop where
  version : header.version = 0
  protocolType : header.protocolType = 0x6558
  vni : header.vni.toNat < 2 ^ 24
  consistent : header.Consistent
  options : ∀ opt ∈ header.options, opt.WellFormed
  optionsLen : header.optionsLen / 4 < 64

theorem GeneveHeader.wellFormed_new (hvni : vni.toNat < 2 ^ 24) : (GeneveHeader.new vni).WellFormed :=
  ⟨rfl, rfl, hvni, rfl, nofun, by change 0 / 4 < 64; decide⟩

theorem GeneveTlvOption.length_bytes (opt : GeneveTlvOption) : opt.bytes.length = 4 + opt.data.length := by
  simp only [GeneveTlvOption.bytes, List.length_append, length_beBytes16, List.length_cons, List.length_nil]
  omega

theorem GeneveTlvOption.length_flatMap {options : List GeneveTlvOption} (h : ∀ opt ∈ options, opt.WellFormed) :
    (options.flatMap GeneveTlvOption.bytes).length % 4 = 0 ∧
      4 * options.length ≤ (options.flatMap GeneveTlvOption.bytes).length := by
  induction options with
  | nil => exact ⟨rfl, Nat.le_refl _⟩
  | cons opt rest ih =>
    obtain ⟨hmod, hle⟩ := ih fun o ho => h o (List.mem_cons_of_mem _ ho)
    have hopt := (h opt List.mem_cons_self).1
    rw [List.flatMap_cons, List.length_append, opt.length_bytes, List.length_cons]
    omega

theorem GeneveTlvOption.toNat_length {opt : GeneveTlvOption} (h : opt.WellFormed) :
    ((UInt8.ofNat (opt.data.length / 4) &&& 0x1F) &&& 0x1F).toNat * 4 = opt.data.length := by
  obtain ⟨hmod, hlt⟩ := h
  have hbits : ∀ n : Nat, n &&& 31 = n % 32 := fun n => Nat.and_two_pow_sub_one_eq_mod n 5
  simp only [UInt8.toNat_and, UInt8.toNat_ofNat', UInt8.reduceToNat, hbits]
  omega

theorem GeneveHeader.parseOptions_bytes {options : List GeneveTlvOption} (h : ∀ opt ∈ options, opt.WellFormed)
    (r : List UInt8) {off total fuel : Nat} (hoff : off = e.length)
    (htotal : total = off + (options.flatMap GeneveTlvOption.bytes).length) (hfuel : options.length < fuel) :
    GeneveHeader.parseOptions (e ++ (options.flatMap GeneveTlvOption.bytes ++ r)) total fuel off = some options := by
  induction options generalizing e off fuel with
  | nil =>
    obtain ⟨fuel, rfl⟩ := Nat.exists_eq_succ_of_ne_zero (Nat.ne_of_gt hfuel)
    rw [GeneveHeader.parseOptions, if_neg (by rw [htotal, List.flatMap_nil, List.length_nil]; omega)]
  | cons opt rest ih =>
    obtain ⟨fuel, rfl⟩ := Nat.exists_eq_succ_of_ne_zero (Nat.ne_of_gt (Nat.zero_lt_of_lt hfuel))
    have hopt := opt.length_bytes
    rw [List.flatMap_cons, List.length_append, hopt] at htotal
    rw [List.flatMap_cons, List.append_assoc]
    have hrest : GeneveHeader.parseOptions (e ++ opt.bytes ++ (rest.flatMap GeneveTlvOption.bytes ++ r)) total fuel
        (off + 4 + opt.data.length) = some rest :=
      ih (fun o ho => h o (List.mem_cons_of_mem _ ho)) (by rw [List.length_append, hopt, hoff, Nat.add_assoc]) (by omega)
        (Nat.lt_of_succ_lt_succ hfuel)
    rw [List.append_assoc] at hrest
    generalize htail : rest.flatMap GeneveTlvOption.bytes ++ r = tail at hrest
    have hcls : be16At (e ++ (opt.bytes ++ tail)) off = opt.cls := be16At_field hoff
    have htype : byteAt (e ++ (opt.bytes ++ tail)) (off + 2) = opt.optionType := hoff ▸ byteAt_append_right e _ 2
    have hlength : byteAt (e ++ (opt.bytes ++ tail)) (off + 3) = UInt8.ofNat (opt.data.length / 4) &&& 0x1F :=
      hoff ▸ byteAt_append_right e _ 3
    have hdata : ((e ++ (opt.bytes ++ tail)).drop (off + 4)).take opt.data.length = opt.data := by
      have hsplit : e ++ (opt.bytes ++ tail) = (e ++ (beBytes16 opt.cls ++ [opt.optionType,
          UInt8.ofNat (opt.data.length / 4) &&& 0x1F])) ++ (opt.data ++ tail) := by
        simp only [GeneveTlvOption.bytes, List.append_assoc, List.cons_append, List.nil_append]
      rw [hsplit]
      exact slice_append (by rw [List.length_append, hoff]; rfl) rfl
    rw [GeneveHeader.parseOptions, if_pos (by omega)]
    dsimp only
    rw [hcls, htype, hlength, GeneveTlvOption.toNat_length (h opt List.mem_cons_self), if_neg (by omega), hrest, hdata]
    rfl

theorem GeneveHeader.parse_bytes (h : header.WellFormed) (r : List UInt8) :
    GeneveHeader.parse (header.bytes ++ r) = some header := by
  obtain ⟨hmod, hcount⟩ := GeneveTlvOption.length_flatMap h.options
  have hoptions : header.optionsLen = (header.options.flatMap GeneveTlvOption.bytes).length := h.consistent
  have hwords := h.optionsLen
  have hlen : (header.bytes ++ r).length = 8 + header.optionsLen + r.length := by
    rw [List.length_append, GeneveHeader.length_bytes h.consistent]
    rfl
  have hbits : ∀ n : Nat, n &&& 63 = n % 64 := fun n => Nat.and_two_pow_sub_one_eq_mod n 6
  have h0 : byteAt (header.bytes ++ r) 0 = UInt8.ofNat (header.optionsLen / 4) &&& 0x3F := by
    change (header.version &&& 0x03) <<< 6 ||| (UInt8.ofNat (header.optionsLen / 4) &&& 0x3F) = _
    rw [h.version]
    exact UInt8.zero_or
  have hversion : (UInt8.ofNat (header.optionsLen / 4) &&& 0x3F) >>> 6 &&& 0x03 = 0 := by
    apply UInt8.toNat_inj.1
    simp only [UInt8.toNat_and, UInt8.toNat_shiftRight, UInt8.toNat_ofNat', UInt8.reduceToNat, hbits]
    rw [Nat.shiftRight_eq_div_pow, Nat.div_eq_of_lt (Nat.mod_lt _ (by decide))]
    rfl
  have hlength : ((UInt8.ofNat (header.optionsLen / 4) &&& 0x3F) &&& 0x3F).toNat * 4 = header.optionsLen := by
    simp only [UInt8.toNat_and, UInt8.toNat_ofNat', UInt8.reduceToNat, hbits]
    omega
  have hflags : byteAt (header.bytes ++ r) 1 =
      (if header.oam then 0x80 else 0) ||| (if header.critical then 0x40 else 0) := rfl
  have hoam : ((((if header.oam then 0x80 else 0) ||| (if header.critical then 0x40 else 0) : UInt8) &&& 0x80) != 0) =
      header.oam := by
    cases header.oam <;> cases header.critical <;> rfl
  have hcritical : ((((if header.oam then 0x80 else 0) ||| (if header.critical then 0x40 else 0) : UInt8) &&& 0x40) !=
      0) = header.critical := by
    cases header.oam <;> cases header.critical <;> rfl
  have htype : be16At (header.bytes ++ r) 2 = 0x6558 := by
    rw [← h.protocolType]
    exact be16At_field (a := header.baseBytes.take 2) rfl
  have hvni : vniAt (header.bytes ++ r) 4 = header.vni := vniAt_append (e := header.baseBytes.take 4) _ h.vni rfl
  have hparse : GeneveHeader.parseOptions (header.baseBytes ++ (header.options.flatMap GeneveTlvOption.bytes ++ r))
      (8 + header.optionsLen) (8 + header.optionsLen) 8 = some header.options :=
    GeneveHeader.parseOptions_bytes h.options r rfl (by rw [hoptions]) (by omega)
  rw [← List.append_assoc] at hparse
  change GeneveHeader.parseOptions (header.bytes ++ r) _ _ _ = _ at hparse
  rw [GeneveHeader.parse, if_neg (by omega)]
  dsimp only
  rw [h0, if_neg (fun hne => hne hversion), hlength, if_neg (by omega), htype, if_neg (by decide), hflags, hoam, hcritical,
    hvni, hversion, hparse, ← h.protocolType, ← h.version]
  rfl

/-! ## The inner packet -/

/-- The datagram that a tunnel frame carries. -/
def TunnelFrameArgs.innerDatagram {Ip : Type} (a : TunnelFrameArgs Ip) : InnerDatagram :=
  { innerSrcIp := a.innerSrcIp, innerDstIp := a.innerDstIp, innerSrcPort := a.innerSrcPort, innerDstPort := a.innerDstPort
    payload := a.payload }

theorem innerDatagram_append {Ip : Type} (a : TunnelFrameArgs Ip) {ip : Nat} (hip : ip = e.length)
    (hlen : 8 + a.payload.length < 65536) : innerDatagram (e ++ udpPacket a.inner 0) ip = some a.innerDatagram := by
  subst hip
  have hframe : e ++ udpPacket a.inner 0 = (e ++ ipv4Header a.inner 0 (ipv4Checksum (ipv4Header a.inner 0 0))) ++
      (udpHeader4 a.inner ++ (a.inner.payload ++ [])) := by
    simp only [udpPacket, List.append_assoc, List.append_nil]
  have h0 : byteAt (e ++ udpPacket a.inner 0) (e.length + 0) = 0x45 := byteAt_append_right e _ 0
  have h9 : byteAt (e ++ udpPacket a.inner 0) (e.length + 9) = 17 := byteAt_append_right e _ 9
  have hheader : ipHeaderLenAt (e ++ udpPacket a.inner 0) e.length = 20 := by
    rw [ipHeaderLenAt, ← Nat.add_zero e.length, h0]
    rfl
  have hsrc : ipv4At (e ++ udpPacket a.inner 0) (e.length + 12) = a.innerSrcIp := ipv4At_append_right e _ 12
  have hdst : ipv4At (e ++ udpPacket a.inner 0) (e.length + 16) = a.innerDstIp := ipv4At_append_right e _ 16
  have hudp : udpAt (e ++ udpPacket a.inner 0) (e.length + 20) =
      some (a.innerSrcPort, a.innerDstPort, a.payload) := by
    rw [hframe]
    exact udpAt_append a.inner _ [] (by rw [List.length_append, length_ipv4Header]) hlen
  rw [Nat.add_zero] at h0
  unfold udpAt at hudp
  split_ifs at hudp with hfit
  obtain ⟨hfits, hmin, hend⟩ := hfit
  simp only [Option.some.injEq, Prod.mk.injEq] at hudp
  obtain ⟨hsrcPort, hdstPort, hpayload⟩ := hudp
  rw [innerDatagram, if_neg (by omega), h0, if_neg (by decide), hheader, if_neg (by omega), h9, if_neg (by decide)]
  dsimp only
  rw [if_neg (by omega), if_neg (by omega), hsrc, hdst, hsrcPort, hdstPort, hpayload]
  rfl

theorem innerEthernet_append (macs : InnerMacs) (r : List UInt8) {ieth : Nat} (hieth : ieth = e.length) :
    innerEthernet (e ++ (innerEthHeader (some macs) ++ r)) ieth = some (ieth + 14) ∧
      macAt (e ++ (innerEthHeader (some macs) ++ r)) ieth = macs.innerDstMac ∧
      macAt (e ++ (innerEthHeader (some macs) ++ r)) (ieth + 6) = macs.innerSrcMac := by
  have hheader : e ++ (innerEthHeader (some macs) ++ r) =
      e ++ (macs.innerDstMac.toList ++ (macs.innerSrcMac.toList ++ (beBytes16 0x0800 ++ r))) := by
    simp only [innerEthHeader, Option.elim_some, List.append_assoc]
  have hlen : (e ++ (innerEthHeader (some macs) ++ r)).length = ieth + 14 + r.length := by
    rw [List.length_append, List.length_append, length_innerEthHeader, hieth]
    exact (Nat.add_assoc _ _ _).symm
  have hsrc : ieth + 6 = (e ++ macs.innerDstMac.toList).length := by
    rw [List.length_append, Vector.length_toList, hieth]
  have htype : be16At (e ++ (innerEthHeader (some macs) ++ r)) (ieth + 12) = 0x0800 := by
    rw [hheader, ← List.append_assoc, ← List.append_assoc]
    exact be16At_field (by rw [List.length_append, ← hsrc, Vector.length_toList])
  refine ⟨?_, ?_, ?_⟩
  · rw [innerEthernet, if_neg (by omega), htype]
    rfl
  · rw [hheader]
    exact macAt_append _ _ hieth
  · rw [hheader, ← List.append_assoc]
    exact macAt_append _ _ hsrc

/-! ## The outer headers -/

theorem tunnelStart_udpFrame (b : UdpFrameArgs Ipv4Addr) : tunnelStart (udpFrame b none 0) 14 b.dstPort = some 42 ∧
    ipv4At (udpFrame b none 0) (14 + 12) = b.srcIp := by
  have heth : (ethHeader b none 0x0800).length = 14 := length_ethHeader b none _
  have hlen : (udpFrame b none 0).length = 42 + b.payload.length := by
    rw [udpFrame, List.length_append, heth, length_udpPacket]
    omega
  have h0 : byteAt (udpFrame b none 0) (14 + 0) = 0x45 := heth ▸ byteAt_append_right _ _ 0
  have h9 : byteAt (udpFrame b none 0) (14 + 9) = 17 := heth ▸ byteAt_append_right _ _ 9
  have hsrc : ipv4At (udpFrame b none 0) (14 + 12) = b.srcIp := heth ▸ ipv4At_append_right _ _ 12
  have hheader : ipHeaderLenAt (udpFrame b none 0) 14 = 20 := by
    rw [ipHeaderLenAt, h0]
    rfl
  have hport : be16At (udpFrame b none 0) (14 + 20 + 2) = b.dstPort := by
    rw [udpFrame, ← heth, Nat.add_assoc, be16At_append_right, udpPacket,
      ← length_ipv4Header b.toUdpPacketArgs 0 _, be16At_append_right]
    exact be16At_field (a := beBytes16 b.srcPort) rfl
  refine ⟨?_, hsrc⟩
  rw [tunnelStart, if_neg (by omega), h9, if_neg (by decide), hheader]
  dsimp only
  rw [if_neg (by decide), if_neg (by omega), hport, if_neg (fun h => h rfl)]

theorem tunnelStart6_udp6Frame (b : UdpFrameArgs Ipv6Addr) : tunnelStart6 (udp6Frame b) 14 b.dstPort = some 62 ∧
    ipv6At (udp6Frame b) (14 + 8) = b.srcIp := by
  have hlen : (udp6Frame b).length = 62 + b.payload.length := length_udp6Frame b
  have hbyte := byteAt_udp6Frame b []
  rw [List.append_nil] at hbyte
  have h0 : byteAt (udp6Frame b) 14 = 0x60 := hbyte 0
  have h6 : byteAt (udp6Frame b) (14 + 6) = 17 := hbyte 6
  have hsrc : ipv6At (udp6Frame b) (14 + 8) = b.srcIp := by
    have h := srcIp_udp6Frame b []
    rw [List.append_nil] at h
    rw [ipv6At, h, Ipv6Addr.ofOctets_octets]
  have hport : be16At (udp6Frame b) (14 + 40 + 2) = b.dstPort := by
    have h := udp6Frame_append' b []
    rw [List.append_nil] at h
    change be16At (udp6Frame b) (54 + 2) = _
    rw [h, length_headers6 b, be16At_append_right]
    exact be16At_field (a := beBytes16 b.srcPort) rfl
  refine ⟨?_, hsrc⟩
  rw [tunnelStart6, if_neg (by omega), h0, if_neg (by decide), h6, if_neg (by decide)]
  dsimp only
  rw [if_neg (by omega), hport, if_neg (fun h => h rfl)]

/-! ## Round trips -/

/-- A builder succeeds, the decapsulator takes its frame apart again, and the checksums of the frame are valid. -/
def RoundTrips {R : Type} (built : Option (Except UdpError Nat × List UInt8)) (decap : List UInt8 → Option R)
    (result : R) (verified : List UInt8 → Prop) : Prop :=
  ∃ n frame, built = some (.ok n, frame) ∧ n = frame.length ∧ decap frame = some result ∧ verified frame

/-- The two tunnel ends of a family: how the tunnel header and the sender are found, and what is checked. -/
structure TunnelEnds (Ip : Type) extends OuterFamily Ip where
  tunnelStart : List UInt8 → Nat → UInt16 → Option Nat
  srcIpAt : List UInt8 → Ip
  Valid : List UInt8 → Prop
  Exact : List UInt8 → Prop
  tunnelStart_frame : ∀ b, tunnelStart (frame b) 14 b.dstPort = some start
  srcIpAt_frame : ∀ b, srcIpAt (frame b) = b.srcIp
  valid_frame : ∀ b, counted + b.payload.length < 65536 → Valid (frame b)
  exact_frame : ∀ b, counted + b.payload.length < 65536 → Exact (frame b)

theorem valid_udpFrame (b : UdpFrameArgs Ipv4Addr) (hfit : 28 + b.payload.length < 65536) :
    ipv4ChecksumOk (udpFrame b none 0) ∧ udpChecksumOk (udpFrame b none 0) := by
  have hip := ipv4ChecksumOk_udpFrame b none 0 []
  have hudp := udpChecksumOk_udpFrame b none 0 [] (by omega)
  rw [List.append_nil] at hip hudp
  exact ⟨hip, hudp⟩

theorem valid_udp6Frame (b : UdpFrameArgs Ipv6Addr) (hfit : 8 + b.payload.length < 65536) :
    udp6ChecksumOk (udp6Frame b) := by
  have hudp := udp6ChecksumOk_udp6Frame b [] hfit
  rwa [List.append_nil] at hudp

/-- The lengths in the IPv6 and in the UDP header of a frame without extension headers. -/
def ExactLengths6 (frame : List UInt8) : Prop :=
  (be16At frame 18).toNat = frame.length - 54 ∧ (be16At frame 58).toNat = frame.length - 54

theorem exactLengths6_udp6Frame (b : UdpFrameArgs Ipv6Addr) (hfit : 8 + b.payload.length < 65536) :
    ExactLengths6 (udp6Frame b) := by
  have hip : be16At (udp6Frame b) (14 + 4) = UInt16.ofNat (8 + b.payload.length) := by
    have h := be16At_append_right (ethHeader b none 0x86DD) (udp6Packet b.toUdpPacketArgs) 4
    rw [length_ethHeader] at h
    exact h.trans (be16At_field (a := [0x60, 0, 0, 0]) rfl)
  have hudp : be16At (udp6Frame b) (54 + 4) = UInt16.ofNat (8 + b.payload.length) := by
    have h := udp6Frame_append' b []
    rw [List.append_nil] at h
    rw [h]
    exact be16At_udpLen _ _ _ (length_headers6 b)
  have hlen := length_udp6Frame b
  refine ⟨?_, ?_⟩
  · rw [hip, hlen, UInt16.toNat_ofNat', Nat.mod_eq_of_lt hfit]
    omega
  · rw [hudp, hlen, UInt16.toNat_ofNat', Nat.mod_eq_of_lt hfit]
    omega

def ipv4Ends : TunnelEnds Ipv4Addr :=
  { outerIpv4 with
    tunnelStart, srcIpAt := (ipv4At · (14 + 12)), Valid := fun frame => ipv4ChecksumOk frame ∧ udpChecksumOk frame
    Exact := (ExactAt · 14), tunnelStart_frame := fun b => (tunnelStart_udpFrame b).1
    srcIpAt_frame := fun b => (tunnelStart_udpFrame b).2, valid_frame := valid_udpFrame
    exact_frame := fun b => exactAt_udpFrame b none }

def ipv6Ends : TunnelEnds Ipv6Addr :=
  { outerIpv6 with
    tunnelStart := tunnelStart6, srcIpAt := (ipv6At · (14 + 8)), Valid := udp6ChecksumOk, Exact := ExactLengths6
    tunnelStart_frame := fun b => (tunnelStart6_udp6Frame b).1
    srcIpAt_frame := fun b => (tunnelStart6_udp6Frame b).2, valid_frame := valid_udp6Frame
    exact_frame := exactLengths6_udp6Frame }

namespace TunnelEnds

variable {Ip : Type} (ends : TunnelEnds Ip) (a : TunnelFrameArgs Ip)

/-- The checksums of a tunnel frame whose inner packet starts at `inner`. -/
structure Verified (inner : Nat) (frame : List UInt8) : Prop where
  outer : ends.Valid frame
  innerIp : Ipv4HeaderValid frame inner
  innerUdp : Udp4Valid frame inner (inner + 20)

section Frame

variable (header : List UInt8) (macs : Option InnerMacs)

/-- The frame between the tunnel ends that carries the tunnel header and the inner packet. -/
def carrier : List UInt8 := ends.frame (a.outer (tunnelPayload a header macs))

theorem drop_carrier :
    (ends.carrier a header macs).drop ends.start = header ++ (innerEthHeader macs ++ udpPacket a.inner 0) := by
  obtain ⟨e, hframe, he⟩ := ends.frame_split (a.outer (tunnelPayload a header macs))
  rw [carrier, hframe, he, List.drop_left]
  rfl

theorem innerDatagram_carrier (hlen : 8 + a.payload.length < 65536) :
    innerDatagram (ends.carrier a header macs) (ends.start + header.length + innerEthLen macs) =
      some a.innerDatagram := by
  obtain ⟨e, hframe, he⟩ := ends.frame_tunnelPayload a header macs
  rw [carrier, hframe]
  exact innerDatagram_append a he hlen

theorem innerEthernet_carrier (macs : InnerMacs) :
    innerEthernet (ends.carrier a header macs) (ends.start + header.length) = some (ends.start + header.length + 14) ∧
      macAt (ends.carrier a header macs) (ends.start + header.length) = macs.innerDstMac ∧
      macAt (ends.carrier a header macs) (ends.start + header.length + 6) = macs.innerSrcMac := by
  obtain ⟨e, hframe, he⟩ := ends.frame_split (a.outer (tunnelPayload a header macs))
  have hsplit : ends.carrier a header macs = e ++ header ++ (innerEthHeader (some macs) ++ udpPacket a.inner 0) := by
    rw [carrier, hframe, List.append_assoc]
    rfl
  rw [hsplit]
  exact innerEthernet_append macs _ (by rw [List.length_append, he])

theorem verified_carrier (hfit : ends.counted + (tunnelPayload a header macs).length < 65536) :
    ends.Verified (ends.start + header.length + innerEthLen macs) (ends.carrier a header macs) := by
  have hsize := length_tunnelPayload a header macs
  have hlen : 8 + a.inner.payload.length < 65536 := by
    change 8 + a.payload.length < 65536
    omega
  have houter := ends.valid_frame (a.outer (tunnelPayload a header macs)) hfit
  obtain ⟨e, hframe, he⟩ := ends.frame_tunnelPayload a header macs
  have hip := ipv4HeaderValid_udpPacket a.inner 0 [] he
  have hudp := udp4Valid_udpPacket a.inner 0 [] he hlen
  rw [List.append_nil, ← hframe] at hip hudp
  exact ⟨houter, hip, hudp⟩

end Frame

variable {a} {built : Option (Except UdpError Nat × List UInt8)} {header : List UInt8} {macs : Option InnerMacs}

/-- A carrier and a header that parses back give a round trip. -/
theorem roundTrips {R : Type} {decap : List UInt8 → Option R} {result : R} {inner : Nat}
    (hbuilt : built = tunnelFrame ends.toOuterFamily a (tunnelPayload a header macs))
    (hfit : ends.counted + (tunnelPayload a header macs).length < 65536)
    (hinner : inner = ends.start + header.length + innerEthLen macs)
    (hdecap : decap (ends.carrier a header macs) = some result) : RoundTrips built decap result (ends.Verified inner) := by
  obtain ⟨e, hframe, he⟩ := ends.frame_split (a.outer (tunnelPayload a header macs))
  refine ⟨_, _, hbuilt.trans (if_pos hfit), ?_, hdecap, ?_⟩
  · rw [hframe, List.length_append, he]
    rfl
  · rw [hinner]
    exact ends.verified_carrier a header macs hfit

theorem gue_roundTrips (hbuilt : built = tunnelFrame ends.toOuterFamily a (tunnelPayload a [0, 4, 0, 0] none))
    (hfit : ends.counted + 4 + 28 + a.payload.length < 65536) :
    RoundTrips built (fun frame => decapGue frame (ends.tunnelStart frame 14 a.outerDstPort) (ends.srcIpAt frame))
      { a.innerDatagram with outerSrcIp := a.outerSrcIp, gueHeader := .newData 4 } (ends.Verified (ends.start + 4)) := by
  have hsize := length_tunnelPayload a [0, 4, 0, 0] none
  change _ = 4 + 0 + 28 + a.payload.length at hsize
  have hstart : ends.tunnelStart (ends.carrier a [0, 4, 0, 0] none) 14 a.outerDstPort = _ := ends.tunnelStart_frame _
  have hsrc : ends.srcIpAt (ends.carrier a [0, 4, 0, 0] none) = a.outerSrcIp := ends.srcIpAt_frame _
  have hinner : innerDatagram (ends.carrier a [0, 4, 0, 0] none) (ends.start + (GueHeader.newData 4).totalLen) = _ :=
    ends.innerDatagram_carrier a [0, 4, 0, 0] none (by omega)
  refine ends.roundTrips hbuilt (by omega) rfl ?_
  rw [decapGue, hstart, hsrc]
  dsimp only [Option.bind_eq_bind, Option.bind_some]
  rw [ends.drop_carrier, GueHeader.parse_newData, Option.bind_some, hinner]
  rfl

theorem vxlan_roundTrips (hvni : vni.toNat < 2 ^ 24) (macs : InnerMacs)
    (hbuilt : built = tunnelFrame ends.toOuterFamily a (tunnelPayload a (VxlanHeader.new vni).bytes macs))
    (hfit : ends.counted + 8 + 14 + 28 + a.payload.length < 65536) :
    RoundTrips built
      (fun frame => decapVxlan frame (ends.tunnelStart frame 14 a.outerDstPort) (ends.srcIpAt frame) (some vni))
      { a.innerDatagram with outerSrcIp := a.outerSrcIp, vxlanHeader := .new vni
                             innerSrcMac := macs.innerSrcMac, innerDstMac := macs.innerDstMac }
      (ends.Verified (ends.start + 8 + 14)) := by
  have hsize := length_tunnelPayload a (VxlanHeader.new vni).bytes (some macs)
  change _ = 8 + 14 + 28 + a.payload.length at hsize
  have hstart : ends.tunnelStart (ends.carrier a (VxlanHeader.new vni).bytes macs) 14 a.outerDstPort = _ :=
    ends.tunnelStart_frame _
  have hsrc : ends.srcIpAt (ends.carrier a (VxlanHeader.new vni).bytes macs) = a.outerSrcIp := ends.srcIpAt_frame _
  have hinner := ends.innerDatagram_carrier a (VxlanHeader.new vni).bytes (some macs) (by omega)
  obtain ⟨heth, hdst, hsrcMac⟩ := ends.innerEthernet_carrier a (VxlanHeader.new vni).bytes macs
  rw [VxlanHeader.length_bytes] at hinner heth hdst hsrcMac
  refine ends.roundTrips hbuilt (by omega) rfl ?_
  rw [decapVxlan, hstart, hsrc]
  dsimp only [Option.bind_eq_bind, Option.bind_some]
  rw [ends.drop_carrier, VxlanHeader.parse_bytes hvni, Option.bind_some, if_neg (by simp [VxlanHeader.new]), heth,
    Option.bind_some]
  exact (congrArg (Option.bind · _) hinner).trans (by rw [hdst, hsrcMac]; rfl)

theorem geneve_roundTrips {header read : GeneveHeader} (hheader : header.Consistent)
    (hparse : ∀ r, GeneveHeader.parse (header.bytes ++ r) = some read) (hread : read.headerLen = header.headerLen)
    (macs : InnerMacs) (hbuilt : built = tunnelFrame ends.toOuterFamily a (tunnelPayload a header.bytes macs))
    (hfit : ends.counted + header.headerLen + 14 + 28 + a.payload.length < 65536) :
    RoundTrips built
      (fun frame => decapGeneve frame (ends.tunnelStart frame 14 a.outerDstPort) (ends.srcIpAt frame) (some read.vni))
      { a.innerDatagram with outerSrcIp := a.outerSrcIp, geneveHeader := read
                             innerSrcMac := macs.innerSrcMac, innerDstMac := macs.innerDstMac }
      (ends.Verified (ends.start + header.headerLen + 14)) := by
  have hlen := GeneveHeader.length_bytes hheader
  have hsize := length_tunnelPayload a header.bytes (some macs)
  change _ = header.bytes.length + 14 + 28 + a.payload.length at hsize
  have hstart : ends.tunnelStart (ends.carrier a header.bytes macs) 14 a.outerDstPort = _ := ends.tunnelStart_frame _
  have hsrc : ends.srcIpAt (ends.carrier a header.bytes macs) = a.outerSrcIp := ends.srcIpAt_frame _
  have hinner := ends.innerDatagram_carrier a header.bytes (some macs) (by omega)
  obtain ⟨heth, hdst, hsrcMac⟩ := ends.innerEthernet_carrier a header.bytes macs
  rw [hlen] at hinner heth hdst hsrcMac
  refine ends.roundTrips hbuilt (by omega) (by rw [hlen]; rfl) ?_
  rw [decapGeneve, hstart, hsrc]
  dsimp only [Option.bind_eq_bind, Option.bind_some]
  rw [ends.drop_carrier, hparse, Option.bind_some, if_neg (by simp), hread, heth, Option.bind_some]
  exact (congrArg (Option.bind · _) hinner).trans (by rw [hdst, hsrcMac]; rfl)

end TunnelEnds

/-- **Tunnel round trip.** Over IPv4 and over IPv6, whatever was in the buffer, a GUE, VXLAN or GENEVE frame whose outer
length fits in 16 bits is built, comes apart into what it was built from, and all its checksums are valid. -/
theorem tunnel_roundtrip (out : List UInt8) (macs : InnerMacs) (vni : UInt32) (hvni : vni.toNat < 2 ^ 24)
    (header : GeneveHeader) (hheader : header.WellFormed) :
    (∀ a : TunnelFrameArgs Ipv4Addr,
      (28 + 4 + 28 + a.payload.length < 65536 →
        RoundTrips (buildGueFrameInto out a) (tryDecapGue · 14 a.outerDstPort)
          { a.innerDatagram with outerSrcIp := a.outerSrcIp, gueHeader := .newData 4 } (ipv4Ends.Verified 46)) ∧
      (28 + 8 + 14 + 28 + a.payload.length < 65536 →
        RoundTrips (buildVxlanFrameInto out a vni macs) (tryDecapVxlan · 14 a.outerDstPort (some vni))
          { a.innerDatagram with outerSrcIp := a.outerSrcIp, vxlanHeader := .new vni
                                 innerSrcMac := macs.innerSrcMac, innerDstMac := macs.innerDstMac } (ipv4Ends.Verified 64)) ∧
      (28 + header.headerLen + 14 + 28 + a.payload.length < 65536 →
        RoundTrips (buildGeneveFrameInto out a header macs) (tryDecapGeneve · 14 a.outerDstPort (some header.vni))
          { a.innerDatagram with outerSrcIp := a.outerSrcIp, geneveHeader := header
                                 innerSrcMac := macs.innerSrcMac, innerDstMac := macs.innerDstMac }
          (ipv4Ends.Verified (42 + header.headerLen + 14)))) ∧
    ∀ a : TunnelFrameArgs Ipv6Addr,
      (8 + 4 + 28 + a.payload.length < 65536 →
        RoundTrips (buildGueFrameIntoV6 out a) (tryDecapGueV6 · 14 a.outerDstPort)
          { a.innerDatagram with outerSrcIp := a.outerSrcIp, gueHeader := .newData 4 } (ipv6Ends.Verified 66)) ∧
      (8 + 8 + 14 + 28 + a.payload.length < 65536 →
        RoundTrips (buildVxlanFrameIntoV6 out a vni macs) (tryDecapVxlanV6 · 14 a.outerDstPort (some vni))
          { a.innerDatagram with outerSrcIp := a.outerSrcIp, vxlanHeader := .new vni
                                 innerSrcMac := macs.innerSrcMac, innerDstMac := macs.innerDstMac } (ipv6Ends.Verified 84)) ∧
      (8 + header.headerLen + 14 + 28 + a.payload.length < 65536 →
        RoundTrips (buildGeneveFrameIntoV6 out a header macs) (tryDecapGeneveV6 · 14 a.outerDstPort (some header.vni))
          { a.innerDatagram with outerSrcIp := a.outerSrcIp, geneveHeader := header
                                 innerSrcMac := macs.innerSrcMac, innerDstMac := macs.innerDstMac }
          (ipv6Ends.Verified (62 + header.headerLen + 14))) :=
  have hparse := GeneveHeader.parse_bytes hheader
  ⟨fun a => ⟨ipv4Ends.gue_roundTrips (buildGueFrameInto_eq out a),
      ipv4Ends.vxlan_roundTrips hvni macs (buildVxlanFrameInto_eq out a vni macs),
      ipv4Ends.geneve_roundTrips hheader.consistent hparse rfl macs
        (buildGeneveFrameInto_eq out a hheader.consistent macs)⟩,
    fun a => ⟨ipv6Ends.gue_roundTrips (buildGueFrameIntoV6_eq out a),
      ipv6Ends.vxlan_roundTrips hvni macs (buildVxlanFrameIntoV6_eq out a vni macs),
      ipv6Ends.geneve_roundTrips hheader.consistent hparse rfl macs
        (buildGeneveFrameIntoV6_eq out a hheader.consistent macs)⟩⟩

/-- VNI 100, with a GENEVE option of four bytes, from 10.0.0.1 to 10.0.0.2. -/
theorem tunnel_roundtrip_sample :
    let macs : InnerMacs := ⟨#v[2, 0, 0, 0, 1, 1], #v[2, 0, 0, 0, 1, 2]⟩
    let header : GeneveHeader :=
      { GeneveHeader.new 100 with optionsLen := 8, critical := true, options := [⟨0x0102, 1, [0xAA, 0xBB, 0xCC, 0xDD]⟩] }
    let a : TunnelFrameArgs Ipv4Addr :=
      { outerSrcMac := #v[2, 0, 0, 0, 0, 1], outerDstMac := #v[2, 0, 0, 0, 0, 2], outerSrcIp := ⟨10, 0, 0, 1⟩
        outerDstIp := ⟨10, 0, 0, 2⟩, outerSrcPort := 6081, outerDstPort := 6081, innerSrcIp := ⟨192, 168, 0, 1⟩
        innerDstIp := ⟨192, 168, 0, 2⟩, innerSrcPort := 1000, innerDstPort := 2000, payload := [1, 2, 3], ttl := 64 }
    ∃ n frame, buildGeneveFrameInto [9, 9] a header macs = some (.ok n, frame) ∧
      (tryDecapGeneve frame 14 6081 (some 100)).map (·.payload) = some [1, 2, 3] := by
  intro macs header a
  have hheader : header.WellFormed :=
    ⟨rfl, rfl, by decide, rfl, by simp [header, GeneveTlvOption.WellFormed], by decide⟩
  obtain ⟨n, frame, hbuilt, -, hdecap, -⟩ :=
    ((tunnel_roundtrip [9, 9] macs 100 (by decide) header hheader).1 a).2.2 (by decide)
  exact ⟨n, frame, hbuilt, congrArg (Option.map (·.payload)) hdecap⟩

end DpdkStdlib.Udp
