import DpdkStdlib.Udp.GeneveCodec

/-!
# Tunnel frames that do not fit (`gue.rs`, `vxlan.rs`, `geneve.rs`)

The builders narrow every length to 16 bits and size the buffer by what is left, and they return no error: a payload that
is too long for the outer length fields makes them write behind the buffer.  A GENEVE header goes into the frame as it is,
also one that the format cannot hold.
-/

namespace DpdkStdlib.Udp
open DpdkStdlib.Lib

/-- An error, or a frame that gives the payload back, with lengths that are not cut. -/
def Faithful {R : Type} (built : Option (Except UdpError Nat × List UInt8)) (decap : List UInt8 → Option R)
    (payloadOf : R → List UInt8) (payload : List UInt8) (lengths : List UInt8 → Prop) : Prop :=
  (∃ error out, built = some (.error error, out)) ∨
    ∃ n frame result, built = some (.ok n, frame) ∧ decap frame = some result ∧ payloadOf result = payload ∧
      lengths frame

/-! ## Headers that come back with their length -/

theorem firstByte_fields (v w : UInt8) :
    ((((v &&& 0x03) <<< 6 ||| (w &&& 0x3F)) >>> 6) &&& 0x03 = v &&& 0x03) ∧
      ((v &&& 0x03) <<< 6 ||| (w &&& 0x3F)) &&& 0x3F = w &&& 0x3F := by
  have h : ∀ (i : Fin 4) (j : Fin 64), ((((UInt8.ofNat i) <<< 6 ||| UInt8.ofNat j) >>> 6) &&& 0x03 = UInt8.ofNat i) ∧
      ((UInt8.ofNat i) <<< 6 ||| UInt8.ofNat j) &&& 0x3F = UInt8.ofNat j := by
    decide +kernel
  have hv : (v &&& 0x03).toNat < 4 := by
    rw [UInt8.toNat_and]
    exact Nat.lt_succ_of_le Nat.and_le_right
  have hw : (w &&& 0x3F).toNat < 64 := by
    rw [UInt8.toNat_and]
    exact Nat.lt_succ_of_le Nat.and_le_right
  simpa only [UInt8.ofNat_toNat] using h ⟨_, hv⟩ ⟨_, hw⟩

theorem GeneveHeader.parseOptions_append {data : List UInt8} (r : List UInt8) {total : Nat} (htotal : total ≤ data.length)
    (fuel off : Nat) :
    GeneveHeader.parseOptions (data ++ r) total fuel off = GeneveHeader.parseOptions data total fuel off := by
  induction fuel generalizing off with
  | zero => rfl
  | succ fuel ih =>
    rw [GeneveHeader.parseOptions, GeneveHeader.parseOptions]
    by_cases hmore : off + 4 ≤ total
    · rw [if_pos hmore, if_pos hmore, be16At_append_left r (by omega), byteAt_append_left r (by omega),
        byteAt_append_left r (by omega)]
      dsimp only
      by_cases hlong : off + 4 + (byteAt data (off + 3) &&& 0x1F).toNat * 4 > total
      · rw [if_pos hlong, if_pos hlong]
      · rw [if_neg hlong, if_neg hlong, ih, slice_append_left r (by omega)]
    · rw [if_neg hmore, if_neg hmore]

/-- The headers that come back from their bytes: version zero, options of at most 63 words, through which the parser
finds its way. -/
structure GeneveHeader.Readable (header : GeneveHeader) : Prop where
  version : header.version &&& 0x03 = 0
  protocolType : header.protocolType = 0x6558
  words : header.optionsLen % 4 = 0
  optionsLen : header.optionsLen < 256
  options : (GeneveHeader.parseOptions header.bytes header.headerLen header.headerLen 8).isSome

def GeneveHeader.wireOptionsLen (data : List UInt8) : Nat := (byteAt data 0 &&& 0x3F).toNat * 4

section readable
variable {header : GeneveHeader} (r : List UInt8)

theorem GeneveHeader.wireOptionsLen_bytes :
    GeneveHeader.wireOptionsLen (header.bytes ++ r) = header.optionsLen / 4 % 64 * 4 := by
  have hbyte : byteAt (header.bytes ++ r) 0 =
    (header.version &&& 0x03) <<< 6 ||| (UInt8.ofNat (header.optionsLen / 4) &&& 0x3F) := rfl
  have hbits : ∀ n : Nat, n &&& 63 = n % 64 := fun n => Nat.and_two_pow_sub_one_eq_mod n 6
  rw [GeneveHeader.wireOptionsLen, hbyte, (firstByte_fields _ _).2]
  simp only [UInt8.toNat_and, UInt8.toNat_ofNat', UInt8.reduceToNat, hbits]
  omega

theorem GeneveHeader.wireOptionsLen_readable (hreadable : header.Readable) :
    GeneveHeader.wireOptionsLen (header.bytes ++ r) = header.optionsLen := by
  have hwords := hreadable.words
  have hfits := hreadable.optionsLen
  rw [GeneveHeader.wireOptionsLen_bytes]
  omega

theorem GeneveHeader.be16At_bytes : be16At (header.bytes ++ r) 2 = header.protocolType :=
  be16At_field (a := header.baseBytes.take 2) rfl

theorem GeneveHeader.parse_readable (hheader : header.Consistent) (hvni : header.vni.toNat < 2 ^ 24)
    (hreadable : header.Readable) : ∃ read, (∀ r, GeneveHeader.parse (header.bytes ++ r) = some read) ∧
      read.headerLen = header.headerLen ∧ read.vni = header.vni := by
  obtain ⟨options, hoptions⟩ := Option.isSome_iff_exists.1 hreadable.options
  have hlen := GeneveHeader.length_bytes hheader
  rw [GeneveHeader.headerLen] at hlen hoptions
  refine ⟨{ version := 0, optionsLen := header.optionsLen, oam := byteAt header.bytes 1 &&& 0x80 != 0
            critical := byteAt header.bytes 1 &&& 0x40 != 0, protocolType := 0x6558, vni := header.vni, options },
    ?_, rfl, rfl⟩
  intro r
  have hversion : (byteAt (header.bytes ++ r) 0 >>> 6) &&& 0x03 = 0 :=
    (firstByte_fields header.version (UInt8.ofNat (header.optionsLen / 4))).1.trans hreadable.version
  have hwire : (byteAt (header.bytes ++ r) 0 &&& 0x3F).toNat * 4 = header.optionsLen :=
    GeneveHeader.wireOptionsLen_readable r hreadable
  have hvniAt : vniAt (header.bytes ++ r) 4 = header.vni := vniAt_append (e := header.baseBytes.take 4) _ hvni rfl
  have hflags : byteAt (header.bytes ++ r) 1 = byteAt header.bytes 1 := rfl
  rw [GeneveHeader.parse, if_neg (by rw [List.length_append]; omega)]
  dsimp only
  rw [hversion, if_neg (not_not.2 rfl), hwire, if_neg (by rw [List.length_append]; omega), GeneveHeader.be16At_bytes,
    if_neg (not_not.2 hreadable.protocolType), hreadable.protocolType, hvniAt, hflags,
    GeneveHeader.parseOptions_append r (Nat.le_of_eq hlen.symm), hoptions]
  rfl

theorem GeneveHeader.readable_of_parse (hheader : header.Consistent) {read : GeneveHeader}
    (hparse : GeneveHeader.parse (header.bytes ++ r) = some read)
    (hwire : GeneveHeader.wireOptionsLen (header.bytes ++ r) = header.optionsLen) : header.Readable := by
  have hlen := GeneveHeader.length_bytes hheader
  rw [GeneveHeader.headerLen] at hlen
  obtain ⟨hversion, -, htype, options, hoptions, -⟩ := GeneveHeader.parse_eq_some hparse
  have hwords : header.optionsLen / 4 % 64 * 4 = header.optionsLen := (GeneveHeader.wireOptionsLen_bytes r).symm.trans hwire
  rw [GeneveHeader.wireOptionsLen] at hwire
  rw [hwire, GeneveHeader.parseOptions_append r (Nat.le_of_eq hlen.symm)] at hoptions
  refine ⟨?_, ?_, by omega, by omega, Option.isSome_iff_exists.2 ⟨options, hoptions⟩⟩
  · exact (firstByte_fields header.version (UInt8.ofNat (header.optionsLen / 4))).1.symm.trans hversion
  · rw [← htype, GeneveHeader.be16At_bytes]

theorem GeneveHeader.WellFormed.readable (hheader : header.WellFormed) : header.Readable := by
  have hoptions : header.optionsLen = (header.options.flatMap GeneveTlvOption.bytes).length := hheader.consistent
  have hmod := (GeneveTlvOption.length_flatMap hheader.options).1
  have hwords := hheader.optionsLen
  refine GeneveHeader.readable_of_parse [] hheader.consistent (GeneveHeader.parse_bytes hheader []) ?_
  rw [GeneveHeader.wireOptionsLen_bytes]
  omega

end readable

/-! ## Lengths on the wire -/

/-- The length fields of a tunnel frame whose inner packet starts at `inner`. -/
def TunnelEnds.Lengths {Ip : Type} (ends : TunnelEnds Ip) (inner : Nat) (frame : List UInt8) : Prop :=
  ends.Exact frame ∧ ExactAt frame inner

theorem TunnelEnds.lengths_carrier {Ip : Type} (ends : TunnelEnds Ip) (a : TunnelFrameArgs Ip) (header : List UInt8)
    (macs : Option InnerMacs) (hfit : ends.counted + (tunnelPayload a header macs).length < 65536) :
    ends.Lengths (ends.start + header.length + innerEthLen macs) (ends.carrier a header macs) :=
  ⟨ends.exact_frame _ hfit, ends.exactAt_inner a header macs hfit⟩

/-! ## The builders -/

section faithful
variable {R : Type} {decap : List UInt8 → Option R} {payloadOf : R → List UInt8} {payload : List UInt8}
  {lengths : List UInt8 → Prop} {built : Option (Except UdpError Nat × List UInt8)} {fit : Prop} [Decidable fit]
  {n : Nat} {frame : List UInt8}

theorem faithful_iff (hbuilt : built = if fit then some (.ok n, frame) else none) :
    Faithful built decap payloadOf payload lengths ↔
      fit ∧ ∃ result, decap frame = some result ∧ payloadOf result = payload ∧ lengths frame := by
  rw [hbuilt]
  constructor
  · rintro (⟨error, out, h⟩ | ⟨n', frame', result, h, hresult⟩)
    · split_ifs at h
      cases h
    · split_ifs at h with hfit
      cases h
      exact ⟨hfit, result, hresult⟩
  · rintro ⟨hfit, result, hresult⟩
    exact .inr ⟨n, frame, result, if_pos hfit, hresult⟩

theorem RoundTrips.decap_eq {result : R} {verified : List UInt8 → Prop} (h : RoundTrips built decap result verified)
    (hbuilt : built = some (.ok n, frame)) : decap frame = some result := by
  obtain ⟨n', frame', hbuilt', -, hdecap, -⟩ := h
  cases hbuilt.symm.trans hbuilt'
  exact hdecap

theorem faithful_iff_fit {result : R} {verified : List UInt8 → Prop}
    (hbuilt : built = if fit then some (.ok n, frame) else none)
    (hround : fit → RoundTrips built decap result verified) (hpayload : payloadOf result = payload)
    (hlengths : fit → lengths frame) : Faithful built decap payloadOf payload lengths ↔ fit := by
  rw [faithful_iff hbuilt]
  constructor
  · rintro ⟨hfit, -⟩
    exact hfit
  · intro hfit
    exact ⟨hfit, result, (hround hfit).decap_eq (hbuilt.trans (if_pos hfit)), hpayload, hlengths hfit⟩

end faithful

namespace TunnelEnds

variable {Ip : Type} (ends : TunnelEnds Ip) {a : TunnelFrameArgs Ip} {built : Option (Except UdpError Nat × List UInt8)}

theorem gue_faithful_iff (hbuilt : built = tunnelFrame ends.toOuterFamily a (tunnelPayload a [0, 4, 0, 0] none)) :
    Faithful built (fun frame => decapGue frame (ends.tunnelStart frame 14 a.outerDstPort) (ends.srcIpAt frame))
        (·.payload) a.payload (ends.Lengths (ends.start + 4)) ↔
      ends.counted + 4 + 28 + a.payload.length < 65536 := by
  have hsize : ends.counted + (tunnelPayload a [0, 4, 0, 0] none).length = ends.counted + 4 + 28 + a.payload.length := by
    rw [length_tunnelPayload, ← Nat.add_assoc, ← Nat.add_assoc]
    rfl
  rw [← hsize]
  exact faithful_iff_fit hbuilt (fun h => ends.gue_roundTrips hbuilt (hsize ▸ h)) rfl (ends.lengths_carrier a _ none)

theorem vxlan_faithful_iff {vni : UInt32} (hvni : vni.toNat < 2 ^ 24) (macs : InnerMacs)
    (hbuilt : built = tunnelFrame ends.toOuterFamily a (tunnelPayload a (VxlanHeader.new vni).bytes macs)) :
    Faithful built
        (fun frame => decapVxlan frame (ends.tunnelStart frame 14 a.outerDstPort) (ends.srcIpAt frame) (some vni))
        (·.payload) a.payload (ends.Lengths (ends.start + 8 + 14)) ↔
      ends.counted + 8 + 14 + 28 + a.payload.length < 65536 := by
  have hsize : ends.counted + (tunnelPayload a (VxlanHeader.new vni).bytes macs).length =
      ends.counted + 8 + 14 + 28 + a.payload.length := by
    rw [length_tunnelPayload, ← Nat.add_assoc, ← Nat.add_assoc, ← Nat.add_assoc]
    rfl
  rw [← hsize]
  exact faithful_iff_fit hbuilt (fun h => ends.vxlan_roundTrips hvni macs hbuilt (hsize ▸ h)) rfl
    (ends.lengths_carrier a _ _)

theorem geneve_faithful_iff {header : GeneveHeader} (hheader : header.Consistent) (hvni : header.vni.toNat < 2 ^ 24)
    (macs : InnerMacs) (hbuilt : built = tunnelFrame ends.toOuterFamily a (tunnelPayload a header.bytes macs)) :
    Faithful built
        (fun frame =>
          decapGeneve frame (ends.tunnelStart frame 14 a.outerDstPort) (ends.srcIpAt frame) (some header.vni))
        (·.payload) a.payload (fun frame => ends.Lengths (ends.start + header.headerLen + 14) frame ∧
          GeneveHeader.wireOptionsLen (frame.drop ends.start) = header.optionsLen) ↔
      ends.counted + header.headerLen + 14 + 28 + a.payload.length < 65536 ∧ header.Readable := by
  have hlen := GeneveHeader.length_bytes hheader
  have hsize : ends.counted + (tunnelPayload a header.bytes macs).length =
      ends.counted + header.headerLen + 14 + 28 + a.payload.length := by
    rw [length_tunnelPayload, hlen, ← Nat.add_assoc, ← Nat.add_assoc, ← Nat.add_assoc]
    rfl
  have hdrop := ends.drop_carrier a header.bytes (some macs)
  have hstart : ends.tunnelStart (ends.carrier a header.bytes macs) 14 a.outerDstPort = some ends.start :=
    ends.tunnelStart_frame _
  rw [faithful_iff hbuilt, ← carrier, hdrop, hsize]
  refine and_congr_right ?_
  intro hfit
  constructor
  · rintro ⟨result, hdecap, -, -, hwire⟩
    obtain ⟨start, hstart', hdecap⟩ := Option.bind_eq_some_iff.1 hdecap
    obtain rfl : ends.start = start := Option.some.inj (hstart.symm.trans hstart')
    obtain ⟨read, hparse, -⟩ := Option.bind_eq_some_iff.1 hdecap
    rw [hdrop] at hparse
    exact GeneveHeader.readable_of_parse _ hheader hparse hwire
  · intro hreadable
    obtain ⟨read, hparse, hread, hvni'⟩ := GeneveHeader.parse_readable hheader hvni hreadable
    have hround := ends.geneve_roundTrips hheader hparse hread macs hbuilt hfit
    rw [hvni'] at hround
    have hlengths := ends.lengths_carrier a header.bytes (some macs) (hsize ▸ hfit)
    rw [hlen] at hlengths
    exact ⟨_, hround.decap_eq (hbuilt.trans (if_pos (hsize ▸ hfit))), rfl, hlengths,
      GeneveHeader.wireOptionsLen_readable _ hreadable⟩

end TunnelEnds

/-- **Tunnel builders.** Over IPv4 and over IPv6, whatever was in the buffer, a GUE or VXLAN frame is faithful exactly if
its lengths have 16 bits, a GENEVE frame exactly if they do and the header is one that comes back with its length. -/
theorem tunnel_builders_faithful_iff (out : List UInt8) (macs : InnerMacs) (vni : UInt32) (hvni : vni.toNat < 2 ^ 24)
    (header : GeneveHeader) (hheader : header.Consistent) (hvni' : header.vni.toNat < 2 ^ 24) :
    (∀ a : TunnelFrameArgs Ipv4Addr,
      (Faithful (buildGueFrameInto out a) (tryDecapGue · 14 a.outerDstPort) (·.payload) a.payload (ipv4Ends.Lengths 46) ↔
        28 + 4 + 28 + a.payload.length < 65536) ∧
      (Faithful (buildVxlanFrameInto out a vni macs) (tryDecapVxlan · 14 a.outerDstPort (some vni)) (·.payload) a.payload
          (ipv4Ends.Lengths 64) ↔
        28 + 8 + 14 + 28 + a.payload.length < 65536) ∧
      (Faithful (buildGeneveFrameInto out a header macs) (tryDecapGeneve · 14 a.outerDstPort (some header.vni)) (·.payload)
          a.payload (fun frame => ipv4Ends.Lengths (42 + header.headerLen + 14) frame ∧
            GeneveHeader.wireOptionsLen (frame.drop 42) = header.optionsLen) ↔
        28 + header.headerLen + 14 + 28 + a.payload.length < 65536 ∧ header.Readable)) ∧
    ∀ a : TunnelFrameArgs Ipv6Addr,
      (Faithful (buildGueFrameIntoV6 out a) (tryDecapGueV6 · 14 a.outerDstPort) (·.payload) a.payload (ipv6Ends.Lengths 66) ↔
        8 + 4 + 28 + a.payload.length < 65536) ∧
      (Faithful (buildVxlanFrameIntoV6 out a vni macs) (tryDecapVxlanV6 · 14 a.outerDstPort (some vni)) (·.payload)
          a.payload (ipv6Ends.Lengths 84) ↔
        8 + 8 + 14 + 28 + a.payload.length < 65536) ∧
      (Faithful (buildGeneveFrameIntoV6 out a header macs) (tryDecapGeneveV6 · 14 a.outerDstPort (some header.vni))
          (·.payload) a.payload (fun frame => ipv6Ends.Lengths (62 + header.headerLen + 14) frame ∧
            GeneveHeader.wireOptionsLen (frame.drop 62) = header.optionsLen) ↔
        8 + header.headerLen + 14 + 28 + a.payload.length < 65536 ∧ header.Readable) := by
  refine ⟨?_, ?_⟩
  · intro a
    exact ⟨ipv4Ends.gue_faithful_iff (buildGueFrameInto_eq out a),
      ipv4Ends.vxlan_faithful_iff hvni macs (buildVxlanFrameInto_eq out a vni macs),
      ipv4Ends.geneve_faithful_iff hheader hvni' macs (buildGeneveFrameInto_eq out a hheader macs)⟩
  · intro a
    exact ⟨ipv6Ends.gue_faithful_iff (buildGueFrameIntoV6_eq out a),
      ipv6Ends.vxlan_faithful_iff hvni macs (buildVxlanFrameIntoV6_eq out a vni macs),
      ipv6Ends.geneve_faithful_iff hheader hvni' macs (buildGeneveFrameIntoV6_eq out a hheader macs)⟩

def sampleTunnelArgs (payload : List UInt8) : TunnelFrameArgs Ipv4Addr :=
  { outerSrcMac := sampleMac 1, outerDstMac := sampleMac 2, outerSrcIp := ⟨10, 0, 0, 1⟩, outerDstIp := ⟨10, 0, 0, 2⟩
    outerSrcPort := 6080, outerDstPort := 6080, innerSrcIp := ⟨192, 168, 0, 1⟩, innerDstIp := ⟨192, 168, 0, 2⟩
    innerSrcPort := 1000, innerDstPort := 2000, payload, ttl := 64 }

theorem tunnel_builders_faithful_sample :
    Faithful (buildGueFrameInto [] (sampleTunnelArgs [1, 2, 3])) (tryDecapGue · 14 6080) (·.payload) [1, 2, 3]
        (ipv4Ends.Lengths 46) ∧
      Faithful (buildGeneveFrameInto [] (sampleTunnelArgs [1, 2, 3]) (.new 100) ⟨sampleMac 3, sampleMac 4⟩)
        (tryDecapGeneve · 14 6080 (some 100)) (·.payload) [1, 2, 3] (fun frame => ipv4Ends.Lengths 64 frame ∧
          GeneveHeader.wireOptionsLen (frame.drop 42) = 0) := by
  obtain ⟨hgue, -, hgeneve⟩ := (tunnel_builders_faithful_iff [] ⟨sampleMac 3, sampleMac 4⟩ 100 (by decide) (.new 100) rfl
    (by decide)).1 (sampleTunnelArgs [1, 2, 3])
  exact ⟨hgue.2 (by decide), hgeneve.2 ⟨by decide, (GeneveHeader.wellFormed_new (by decide)).readable⟩⟩

/-- With 65476 bytes the GUE builder panics; with an option of three bytes GENEVE loses the payload. -/
theorem tunnel_builders_unfaithful :
    buildGueFrameInto [] (sampleTunnelArgs (List.replicate 65476 0)) = none ∧
      ¬ Faithful (buildGueFrameInto [] (sampleTunnelArgs (List.replicate 65476 0))) (tryDecapGue · 14 6080) (·.payload)
        (List.replicate 65476 0) (ipv4Ends.Lengths 46) ∧
      let header : GeneveHeader := { GeneveHeader.new 100 with optionsLen := 7, options := [⟨1, 1, [1, 2, 3]⟩] }
      ¬ Faithful (buildGeneveFrameInto [] (sampleTunnelArgs [1, 2, 3]) header ⟨sampleMac 3, sampleMac 4⟩)
        (tryDecapGeneve · 14 6080 (some 100)) (·.payload) [1, 2, 3] (fun frame => ipv4Ends.Lengths 71 frame ∧
          GeneveHeader.wireOptionsLen (frame.drop 42) = 7) := by
  have hgue : ∀ payload : List UInt8, payload.length = 65476 →
      buildGueFrameInto [] (sampleTunnelArgs payload) = none ∧
        ¬ Faithful (buildGueFrameInto [] (sampleTunnelArgs payload)) (tryDecapGue · 14 6080) (·.payload) payload
          (ipv4Ends.Lengths 46) := by
    intro payload hlen
    have hunfit : ¬ 28 + 4 + 28 + (sampleTunnelArgs payload).payload.length < 65536 := by
      change ¬ 28 + 4 + 28 + payload.length < 65536
      omega
    refine ⟨?_, fun h => hunfit ((ipv4Ends.gue_faithful_iff (buildGueFrameInto_eq [] _)).1 h)⟩
    rw [buildGueFrameInto_eq, tunnelFrame, if_neg]
    rw [length_tunnelPayload]
    change ¬ 28 + (4 + 0 + 28 + _) < 65536
    omega
  refine ⟨(hgue _ List.length_replicate).1, (hgue _ List.length_replicate).2, ?_⟩
  intro header h
  have hheader : header.Consistent := rfl
  have hbuilt := buildGeneveFrameInto_eq [] (sampleTunnelArgs [1, 2, 3]) hheader ⟨sampleMac 3, sampleMac 4⟩
  have hreadable := ((ipv4Ends.geneve_faithful_iff hheader (by decide) _ hbuilt).1 h).2
  exact absurd hreadable.words (by decide)

end DpdkStdlib.Udp
