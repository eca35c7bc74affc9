import DpdkStdlib.Udp.Roundtrip
import DpdkStdlib.Udp.Tunnel

/-!
# Tunnel frames as UDP frames (`gue.rs`, `vxlan.rs`, `geneve.rs`)

A frame that a tunnel builder writes is the plain UDP frame from tunnel end to tunnel end whose payload is the tunnel
header and the inner packet.  A builder that would cut a length to 16 bits does not get that far: its buffer is as long
as the cut length says, so the payload is written out of range.
-/

namespace DpdkStdlib.Udp
open DpdkStdlib.Lib

variable {e r s out out' header : List UInt8} {encode : List UInt8 → Option (List UInt8)} {oudp headerLen : Nat}
  {macs : Option InnerMacs}

def TunnelFrameArgs.outer {Ip : Type} (a : TunnelFrameArgs Ip) (payload : List UInt8) : UdpFrameArgs Ip :=
  { srcMac := a.outerSrcMac, dstMac := a.outerDstMac, srcIp := a.outerSrcIp, dstIp := a.outerDstIp
    srcPort := a.outerSrcPort, dstPort := a.outerDstPort, payload, ttl := a.ttl }

def innerEthHeader (macs : Option InnerMacs) : List UInt8 :=
  macs.elim [] fun m => m.innerDstMac.toList ++ (m.innerSrcMac.toList ++ beBytes16 0x0800)

def tunnelPayload {Ip : Type} (a : TunnelFrameArgs Ip) (header : List UInt8) (macs : Option InnerMacs) : List UInt8 :=
  header ++ (innerEthHeader macs ++ udpPacket a.inner 0)

@[simp] theorem length_innerEthHeader (macs : Option InnerMacs) : (innerEthHeader macs).length = innerEthLen macs := by
  cases macs <;> simp [innerEthHeader, innerEthLen]

theorem length_udpPacket (a : UdpPacketArgs Ipv4Addr) (tos : UInt8) :
    (udpPacket a tos).length = 28 + a.payload.length := by
  simp only [udpPacket, udpHeader4, List.length_append, length_ipv4Header, length_udpHeader]
  omega

theorem length_tunnelPayload {Ip : Type} (a : TunnelFrameArgs Ip) (header : List UInt8) (macs : Option InnerMacs) :
    (tunnelPayload a header macs).length = header.length + innerEthLen macs + 28 + a.payload.length := by
  rw [tunnelPayload, List.length_append, List.length_append, length_innerEthHeader, length_udpPacket]
  change _ + (_ + (28 + a.payload.length)) = _
  omega

theorem writeAll_innerEth (macs : Option InnerMacs) {ieth : Nat} (hieth : ieth = e.length)
    (hlen : innerEthLen macs ≤ r.length) :
    writeAll (e ++ r) (innerEthWrites ieth macs) = some (e ++ (innerEthHeader macs ++ r.drop (innerEthLen macs))) := by
  have hflat : (innerEthWrites ieth macs).flatMap Prod.snd = innerEthHeader macs := by
    cases macs <;> simp [innerEthWrites, innerEthHeader, ethWrites]
  have hws : Consecutive e.length (innerEthWrites ieth macs) := by
    cases macs <;> simp [innerEthWrites, ethWrites, Consecutive, hieth]
  have h := writeAll_consecutive (innerEthWrites ieth macs) hws (b := r)
    (by rw [hflat, length_innerEthHeader]; exact hlen)
  rwa [hflat, length_innerEthHeader] at h

/-- The outer headers, written into a buffer that holds them, are `headers` and the UDP header of `b` with no checksum. -/
structure OuterHeaders.Writes {Ip : Type} (outer : OuterHeaders) (b : UdpPacketArgs Ip) (headers : List UInt8) : Prop where
  oudp_eq : outer.oudp = headers.length
  write_eq : ∀ out : List UInt8, outer.oudp + 8 ≤ out.length →
    outer.write out = some (headers ++ (udpHeader b 0 ++ out.drop (outer.oudp + 8)))

section Outer

variable (a : TunnelFrameArgs Ipv4Addr) (payload : List UInt8)

def outerHeaders : List UInt8 :=
  ethHeader (a.outer payload) none 0x0800 ++
    ipv4Header (a.outer payload) 0 (ipv4Checksum (ipv4Header (a.outer payload) 0 0))

theorem length_outerHeaders : 34 = (outerHeaders a payload).length := by
  rw [outerHeaders, List.length_append, length_ethHeader]
  rfl

theorem udpFrame_outer : udpFrame (a.outer payload) none 0 =
    outerHeaders a payload ++ (udpHeader4 (a.outer payload) ++ payload) := by
  rw [udpFrame, udpPacket, outerHeaders, List.append_assoc]
  rfl

theorem outerV4_writes :
    (a.outerV4 (UInt16.ofNat (20 + 8 + payload.length)) (UInt16.ofNat (8 + payload.length))).Writes
      (a.outer payload).toUdpPacketArgs (outerHeaders a payload) := by
  refine ⟨length_outerHeaders a payload, fun out hlen => ?_⟩
  change 42 ≤ out.length at hlen
  have heth : 14 = (ethHeader (a.outer payload) none 0x0800).length := (length_ethHeader _ none _).symm
  have hfirst : writeAll out (ethWrites 0 a.outerDstMac a.outerSrcMac 0x0800) = _ :=
    writeAll_ethHeader (a.outer payload) 0x0800 (by omega)
  have hip : writeAll (ethHeader (a.outer payload) none 0x0800 ++ out.drop 14)
      (ipv4HeaderWrites 14 (UInt16.ofNat (20 + 8 + payload.length)) 0x00 a.ttl a.outerSrcIp a.outerDstIp) = _ :=
    writeAll_ipv4Header (a.outer payload).toUdpPacketArgs 0x00 heth (by rw [List.length_drop]; omega)
  have hudp : writeAll (outerHeaders a payload ++ out.drop 34)
      (udpHeaderWrites (14 + 20) a.outerSrcPort a.outerDstPort (UInt16.ofNat (8 + payload.length))) = _ :=
    writeAll_udpHeader (a.outer payload).toUdpPacketArgs (length_outerHeaders a payload)
      (by rw [List.length_drop]; omega)
  change writeOuterHeaders out a _ _ = _
  unfold writeOuterHeaders
  dsimp only [Option.bind_eq_bind]
  rw [hfirst, Option.bind_some, hip, Option.bind_some,
    readSlice_append heth (length_ipv4Header (a.outer payload).toUdpPacketArgs 0 0).symm, Option.bind_some,
    writeAt_ipv4Header (a.outer payload).toUdpPacketArgs 0x00 _ heth, Option.bind_some, List.drop_drop,
    ← List.append_assoc]
  exact hudp.trans (by rw [List.drop_drop]; rfl)

end Outer

theorem writeTunnelBody_eq {Ip : Type} {a : TunnelFrameArgs Ip} (macs : Option InnerMacs) (he : oudp + 8 = e.length)
    (hr : r.length = (tunnelPayload a header macs).length) (hheader : headerLen = header.length)
    (hencode : encode (r.take headerLen) = some header) :
    writeTunnelBody (e ++ r) oudp headerLen encode macs a.inner = some (e ++ tunnelPayload a header macs) := by
  have hsize := length_tunnelPayload a header macs
  have hslice : readSlice (e ++ r) (oudp + 8) headerLen = some (r.take headerLen) := by
    rw [readSlice_of_le (by rw [List.length_append]; omega), List.drop_left' he.symm]
  have hwrite : writeAt (e ++ r) (oudp + 8) header = some (e ++ header ++ r.drop headerLen) := by
    rw [writeAt_append he (by omega), hheader]
  have hieth : oudp + 8 + headerLen = (e ++ header).length := by
    rw [List.length_append]
    omega
  have hpacket : oudp + 8 + headerLen + innerEthLen macs = (e ++ header ++ innerEthHeader macs).length := by
    rw [List.length_append, length_innerEthHeader]
    omega
  unfold writeTunnelBody
  dsimp only [Option.bind_eq_bind]
  rw [hslice, Option.bind_some, hencode, Option.bind_some, hwrite, Option.bind_some,
    writeAll_innerEth macs hieth (by rw [List.length_drop]; omega), Option.bind_some, ← List.append_assoc,
    writeUdpPacket_eq 0x00 hpacket (by
      rw [List.length_drop, List.length_drop]
      change _ = 28 + a.payload.length
      omega)]
  simp only [tunnelPayload, List.append_assoc]

theorem readSlice_udpPayload {Ip : Type} (b : UdpPacketArgs Ip) (payload : List UInt8) (he : oudp = e.length) :
    readSlice (e ++ (udpHeader b 0 ++ payload)) (oudp + 8)
      ((e ++ (udpHeader b 0 ++ payload)).length - (oudp + 8)) = some payload := by
  have heu : oudp + 8 = (e ++ udpHeader b 0).length := by rw [List.length_append, length_udpHeader, he]
  rw [← List.append_assoc, List.length_append, ← heu, Nat.add_sub_cancel_left]
  have h := readSlice_append (c := []) heu (rfl : payload.length = _)
  rwa [List.append_nil] at h

/-- **A tunnel frame is a UDP frame.** In a buffer of the right length, with lengths that are not cut, the outer frame
is written with the tunnel header and the inner packet for payload. -/
theorem writeTunnelFrame_eq {Ip : Type} {a : TunnelFrameArgs Ip} {outer : OuterHeaders} {b : UdpPacketArgs Ip}
    {headers : List UInt8} (macs : Option InnerMacs) (hwrites : outer.Writes b headers)
    (hlen : out.length = outer.oudp + 8 + (tunnelPayload a header macs).length)
    (hencode : ∀ s, s.length = header.length → encode s = some header) :
    writeTunnelFrame out outer header.length encode macs a.inner =
      some (headers ++ (udpHeader b (outer.cksum (udpHeader b 0) (tunnelPayload a header macs)) ++
        tunnelPayload a header macs)) := by
  have hsize := length_tunnelPayload a header macs
  have hr : (out.drop (outer.oudp + 8)).length = (tunnelPayload a header macs).length := by
    rw [List.length_drop]
    omega
  have he : outer.oudp + 8 = (headers ++ udpHeader b 0).length := by
    rw [List.length_append, length_udpHeader, hwrites.oudp_eq]
  unfold writeTunnelFrame
  dsimp only [Option.bind_eq_bind]
  rw [hwrites.write_eq out (by omega), Option.bind_some, ← List.append_assoc,
    writeTunnelBody_eq macs he hr rfl (hencode _ (by rw [List.length_take]; omega)), Option.bind_some, List.append_assoc,
    readSlice_udpPayload _ _ hwrites.oudp_eq, Option.bind_some,
    readSlice_append hwrites.oudp_eq (length_udpHeader _ 0).symm, Option.bind_some, writeAt_udpHeader _ _ hwrites.oudp_eq]

/-! ## Lengths that are cut -/

theorem le_of_writeUdpPacket {ip : Nat} {a : UdpPacketArgs Ipv4Addr} {tos : UInt8}
    (h : writeUdpPacket out ip a tos = some out') : ip + 28 + a.payload.length ≤ out.length := by
  obtain ⟨out₁, h₁, h⟩ := Option.bind_eq_some_iff.1 h
  obtain ⟨_, _, h⟩ := Option.bind_eq_some_iff.1 h
  obtain ⟨out₂, h₂, h⟩ := Option.bind_eq_some_iff.1 h
  obtain ⟨out₃, h₃, h⟩ := Option.bind_eq_some_iff.1 h
  obtain ⟨out₄, h₄, -⟩ := Option.bind_eq_some_iff.1 h
  have hle := (length_of_writeAt h₄).1
  rwa [length_of_writeAll h₃, (length_of_writeAt h₂).2, length_of_writeAll h₁] at hle

theorem le_of_writeTunnelBody {inner : UdpPacketArgs Ipv4Addr}
    (h : writeTunnelBody out oudp headerLen encode macs inner = some out') :
    oudp + 8 + headerLen + innerEthLen macs + 28 + inner.payload.length ≤ out.length := by
  obtain ⟨_, _, h⟩ := Option.bind_eq_some_iff.1 h
  obtain ⟨_, _, h⟩ := Option.bind_eq_some_iff.1 h
  obtain ⟨out₁, h₁, h⟩ := Option.bind_eq_some_iff.1 h
  obtain ⟨out₂, h₂, h⟩ := Option.bind_eq_some_iff.1 h
  have hle := le_of_writeUdpPacket h
  rwa [length_of_writeAll h₂, (length_of_writeAt h₁).2] at hle

/-- Writing the outer headers leaves the buffer as long as it was. -/
def OuterHeaders.KeepsLength (outer : OuterHeaders) : Prop :=
  ∀ out out', outer.write out = some out' → out'.length = out.length

theorem outerV4_keepsLength (a : TunnelFrameArgs Ipv4Addr) (outerIpTotal outerUdpLen : UInt16) :
    (a.outerV4 outerIpTotal outerUdpLen).KeepsLength := by
  intro out out' h
  obtain ⟨out₁, h₁, h⟩ := Option.bind_eq_some_iff.1 h
  obtain ⟨out₂, h₂, h⟩ := Option.bind_eq_some_iff.1 h
  obtain ⟨_, _, h⟩ := Option.bind_eq_some_iff.1 h
  obtain ⟨out₃, h₃, h⟩ := Option.bind_eq_some_iff.1 h
  rw [length_of_writeAll h, (length_of_writeAt h₃).2, length_of_writeAll h₂, length_of_writeAll h₁]

theorem outerV6_keepsLength (a : TunnelFrameArgs Ipv6Addr) (outerUdpLen : UInt16) :
    (a.outerV6 outerUdpLen).KeepsLength := by
  intro out out' h
  obtain ⟨out₁, h₁, h⟩ := Option.bind_eq_some_iff.1 h
  obtain ⟨out₂, h₂, h⟩ := Option.bind_eq_some_iff.1 h
  rw [length_of_writeAll h, length_of_writeAll h₂, length_of_writeAll h₁]

theorem le_of_writeTunnelFrame {outer : OuterHeaders} {inner : UdpPacketArgs Ipv4Addr} (hkeeps : outer.KeepsLength)
    (h : writeTunnelFrame out outer headerLen encode macs inner = some out') :
    outer.oudp + 8 + headerLen + innerEthLen macs + 28 + inner.payload.length ≤ out.length := by
  obtain ⟨out₁, h₁, h⟩ := Option.bind_eq_some_iff.1 h
  obtain ⟨out₂, h₂, -⟩ := Option.bind_eq_some_iff.1 h
  have hle := le_of_writeTunnelBody h₂
  rwa [hkeeps _ _ h₁] at hle

/-! ## Tunnel headers -/

theorem GueHeader.encode_newData (hs : s.length = 4) : (GueHeader.newData 4).encode s = some [0, 4, 0, 0] := by
  have h := writeAll_consecutive (a := []) (b := s)
    [(0, [(0 : UInt8) <<< 6 ||| 0 ||| (0 &&& 0x1F)]), (1, [4]), (2, beBytes16 0)] ⟨rfl, rfl, rfl, trivial⟩
    (by rw [hs]; rfl)
  rw [List.drop_of_length_le (by rw [hs]; rfl)] at h
  exact h

def VxlanHeader.bytes (header : VxlanHeader) : List UInt8 :=
  [if header.iFlag then 0x08 else 0, 0, 0, 0] ++ (vniBytes header.vni ++ [0])

theorem VxlanHeader.encode_eq (header : VxlanHeader) (hs : s.length = 8) : header.encode s = some header.bytes := by
  have h := writeAll_consecutive (a := []) (b := s)
    [(0, [if header.iFlag then 0x08 else 0]), (1, [0]), (2, [0]), (3, [0]), (4, vniBytes header.vni), (7, [0])]
    ⟨rfl, rfl, rfl, rfl, rfl, rfl, trivial⟩ (by rw [hs]; rfl)
  rw [List.drop_of_length_le (by rw [hs]; rfl)] at h
  exact h

def GeneveTlvOption.bytes (opt : GeneveTlvOption) : List UInt8 :=
  beBytes16 opt.cls ++ ([opt.optionType] ++ ([UInt8.ofNat (opt.data.length / 4) &&& 0x1F] ++ opt.data))

def GeneveHeader.baseBytes (header : GeneveHeader) : List UInt8 :=
  [(header.version &&& 0x03) <<< 6 ||| (UInt8.ofNat (header.optionsLen / 4) &&& 0x3F),
      (if header.oam then 0x80 else 0) ||| (if header.critical then 0x40 else 0)] ++
    (beBytes16 header.protocolType ++ (vniBytes header.vni ++ [0]))

def GeneveHeader.bytes (header : GeneveHeader) : List UInt8 :=
  header.baseBytes ++ header.options.flatMap GeneveTlvOption.bytes

/-- `options_len` is the length of the options. -/
def GeneveHeader.Consistent (header : GeneveHeader) : Prop :=
  header.optionsLen = (header.options.flatMap GeneveTlvOption.bytes).length

theorem GeneveHeader.consistent_new (vni : UInt32) : (GeneveHeader.new vni).Consistent := rfl

theorem GeneveHeader.length_bytes {header : GeneveHeader} (hheader : header.Consistent) :
    header.bytes.length = header.headerLen := by
  rw [GeneveHeader.bytes, List.length_append, ← hheader]
  rfl

theorem GeneveHeader.encodeOptions_eq {options : List GeneveTlvOption} {off : Nat} (hoff : off = e.length)
    (hlen : (options.flatMap GeneveTlvOption.bytes).length ≤ r.length) :
    GeneveHeader.encodeOptions (e ++ r) off options =
      some (e ++ (options.flatMap GeneveTlvOption.bytes ++
        r.drop (options.flatMap GeneveTlvOption.bytes).length)) := by
  induction options generalizing e r off with
  | nil => rfl
  | cons opt rest ih =>
    rw [List.flatMap_cons, List.length_append] at hlen
    have hopt : opt.bytes.length = 4 + opt.data.length := by
      simp only [GeneveTlvOption.bytes, List.length_append, length_beBytes16, List.length_cons, List.length_nil]
      omega
    have hwrite := writeAll_consecutive (a := e) (b := r)
      [(off, beBytes16 opt.cls), (off + 2, [opt.optionType]),
        (off + 3, [UInt8.ofNat (opt.data.length / 4) &&& 0x1F]), (off + 4, opt.data)]
      ⟨hoff, by rw [hoff]; rfl, by rw [hoff]; rfl, by rw [hoff]; rfl, trivial⟩
    have hflat : [(off, beBytes16 opt.cls), (off + 2, [opt.optionType]),
        (off + 3, [UInt8.ofNat (opt.data.length / 4) &&& 0x1F]), (off + 4, opt.data)].flatMap Prod.snd = opt.bytes := by
      simp [GeneveTlvOption.bytes]
    rw [hflat] at hwrite
    rw [GeneveHeader.encodeOptions, hwrite (by omega), Option.bind_eq_bind, Option.bind_some, ← List.append_assoc,
      ih (by rw [List.length_append]; omega) (by rw [List.length_drop]; omega), List.flatMap_cons, List.append_assoc,
      List.append_assoc, List.drop_drop, List.length_append]

theorem GeneveHeader.encode_append {header : GeneveHeader} (hheader : header.Consistent)
    (hs : header.headerLen ≤ s.length) : header.encode s = some (header.bytes ++ s.drop header.headerLen) := by
  unfold GeneveHeader.headerLen at hs ⊢
  have h := writeAll_consecutive (a := []) (b := s)
    [(0, [(header.version &&& 0x03) <<< 6 ||| (UInt8.ofNat (header.optionsLen / 4) &&& 0x3F)]),
      (1, [(if header.oam then 0x80 else 0) ||| (if header.critical then 0x40 else 0)]),
      (2, beBytes16 header.protocolType), (4, vniBytes header.vni), (7, [0])]
    ⟨rfl, rfl, rfl, rfl, rfl, trivial⟩ (by change 8 ≤ _; omega)
  have hrest : header.optionsLen ≤ (s.drop 8).length := by
    rw [List.length_drop]
    omega
  have hoptions := GeneveHeader.encodeOptions_eq (e := header.baseBytes) rfl (hheader ▸ hrest)
  rw [← hheader, List.drop_drop, ← List.append_assoc] at hoptions
  rw [GeneveHeader.encode]
  dsimp only [Option.bind_eq_bind]
  rw [List.nil_append] at h
  rw [h, Option.bind_some, List.nil_append]
  exact hoptions

theorem GeneveHeader.encode_eq {header : GeneveHeader} (hheader : header.Consistent)
    (hs : s.length = header.headerLen) : header.encode s = some header.bytes := by
  rw [GeneveHeader.encode_append hheader hs.ge, List.drop_of_length_le hs.le, List.append_nil]

/-! ## IPv6 between the tunnel ends -/

section Outer6

variable (a : TunnelFrameArgs Ipv6Addr) (payload : List UInt8)

def outerHeaders6 : List UInt8 :=
  ethHeader (a.outer payload) none 0x86DD ++ ipv6Header (a.outer payload).toUdpPacketArgs

theorem length_outerHeaders6 : 54 = (outerHeaders6 a payload).length := by
  rw [outerHeaders6, List.length_append, length_ethHeader, length_ipv6Header]
  rfl

theorem udp6Frame_outer : udp6Frame (a.outer payload) =
    outerHeaders6 a payload ++ (udpHeader6 (a.outer payload).toUdpPacketArgs ++ payload) := by
  rw [udp6Frame, udp6Packet, outerHeaders6, List.append_assoc]
  rfl

theorem outerV6_writes : (a.outerV6 (UInt16.ofNat (8 + payload.length))).Writes (a.outer payload).toUdpPacketArgs
    (outerHeaders6 a payload) := by
  refine ⟨length_outerHeaders6 a payload, fun out hlen => ?_⟩
  change 62 ≤ out.length at hlen
  have heth : 14 = (ethHeader (a.outer payload) none 0x86DD).length := (length_ethHeader _ none _).symm
  have hfirst : writeAll out (ethWrites 0 a.outerDstMac a.outerSrcMac 0x86DD) = _ :=
    writeAll_ethHeader (a.outer payload) 0x86DD (by omega)
  have hip : writeAll (ethHeader (a.outer payload) none 0x86DD ++ out.drop 14)
      (ipv6HeaderWrites 14 a.outerSrcIp a.outerDstIp (UInt16.ofNat (8 + payload.length)) 17 a.ttl) = _ :=
    writeAll_ipv6Header (a.outer payload).toUdpPacketArgs heth (by rw [List.length_drop]; omega)
  have hudp : writeAll (outerHeaders6 a payload ++ out.drop 54)
      (udpHeaderWrites (14 + 40) a.outerSrcPort a.outerDstPort (UInt16.ofNat (8 + payload.length))) = _ :=
    writeAll_udpHeader (a.outer payload).toUdpPacketArgs (length_outerHeaders6 a payload)
      (by rw [List.length_drop]; omega)
  change writeOuterHeaders6 out a _ = _
  unfold writeOuterHeaders6
  dsimp only [Option.bind_eq_bind]
  rw [hfirst, Option.bind_some, hip, Option.bind_some, List.drop_drop, ← List.append_assoc]
  exact hudp.trans (by rw [List.drop_drop]; rfl)

end Outer6

/-! ## The builders -/

/-- The UDP frames between the tunnel ends: payload at `start`, `counted` bytes before it in the length. -/
structure OuterFamily (Ip : Type) where
  counted : Nat
  start : Nat
  frame : UdpFrameArgs Ip → List UInt8
  frame_split : ∀ b, ∃ e, frame b = e ++ b.payload ∧ start = e.length

/-- What a builder returns whose outer frame has the given payload. -/
def tunnelFrame {Ip : Type} (family : OuterFamily Ip) (a : TunnelFrameArgs Ip) (payload : List UInt8) :
    Option (Except UdpError Nat × List UInt8) :=
  if family.counted + payload.length < 65536 then
    some (.ok (family.start + payload.length), family.frame (a.outer payload))
  else none

theorem udpFrame_split (b : UdpFrameArgs Ipv4Addr) : ∃ e, udpFrame b none 0 = e ++ b.payload ∧ 42 = e.length := by
  refine ⟨ethHeader b none 0x0800 ++ (ipv4Header b.toUdpPacketArgs 0 (ipv4Checksum (ipv4Header b.toUdpPacketArgs 0 0)) ++
    udpHeader4 b.toUdpPacketArgs), ?_, ?_⟩
  · simp only [udpFrame, udpPacket, List.append_assoc]
  · rw [List.length_append, length_ethHeader]
    rfl

theorem udp6Frame_split (b : UdpFrameArgs Ipv6Addr) : ∃ e, udp6Frame b = e ++ b.payload ∧ 62 = e.length := by
  refine ⟨ethHeader b none 0x86DD ++ (ipv6Header b.toUdpPacketArgs ++ udpHeader6 b.toUdpPacketArgs), ?_, ?_⟩
  · simp only [udp6Frame, udp6Packet, List.append_assoc]
  · rw [List.length_append, List.length_append, length_ethHeader, length_ipv6Header]
    rfl

def outerIpv4 : OuterFamily Ipv4Addr := ⟨28, 42, (udpFrame · none 0), udpFrame_split⟩

def outerIpv6 : OuterFamily Ipv6Addr := ⟨8, 62, udp6Frame, udp6Frame_split⟩

theorem writeTunnelFrame_resize {Ip : Type} {family : OuterFamily Ip} {a : TunnelFrameArgs Ip} {outer : OuterHeaders}
    {totalLen : Nat} (out header : List UInt8) (macs : Option InnerMacs)
    (hencode : ∀ s, s.length = header.length → encode s = some header) (hkeeps : outer.KeepsLength)
    (hstart : outer.oudp + 8 = family.start)
    (hcut : ¬ family.counted + (tunnelPayload a header macs).length < 65536 →
      totalLen < family.start + (tunnelPayload a header macs).length)
    (hfits : family.counted + (tunnelPayload a header macs).length < 65536 →
      totalLen = family.start + (tunnelPayload a header macs).length ∧
      ∃ (b : UdpPacketArgs Ip) (headers : List UInt8), outer.Writes b headers ∧
        family.frame (a.outer (tunnelPayload a header macs)) =
          headers ++ (udpHeader b (outer.cksum (udpHeader b 0) (tunnelPayload a header macs)) ++
            tunnelPayload a header macs)) :
    (writeTunnelFrame (resize out totalLen) outer header.length encode macs a.inner).bind
      (fun frame => some (.ok totalLen, frame)) = tunnelFrame family a (tunnelPayload a header macs) := by
  have hsize := length_tunnelPayload a header macs
  rw [tunnelFrame]
  split_ifs with hfit
  · obtain ⟨rfl, b, headers, hwrites, hframe⟩ := hfits hfit
    rw [writeTunnelFrame_eq macs hwrites (by rw [length_resize, hstart]) hencode, hframe]
    rfl
  · cases h : writeTunnelFrame (resize out totalLen) outer header.length encode macs a.inner with
    | none => rfl
    | some frame =>
      have hle := le_of_writeTunnelFrame hkeeps h
      have hlt := hcut hfit
      rw [length_resize] at hle
      change _ + a.payload.length ≤ _ at hle
      omega

section Builders

variable (out : List UInt8) (a : TunnelFrameArgs Ipv4Addr)

theorem writeTunnelFrame_ipv4 (header : List UInt8) (macs : Option InnerMacs) {outerIpTotal outerUdpLen : UInt16}
    (hencode : ∀ s, s.length = header.length → encode s = some header)
    (htotal : outerIpTotal.toNat = (28 + (tunnelPayload a header macs).length) % 65536)
    (hudp : 28 + (tunnelPayload a header macs).length < 65536 →
      outerUdpLen.toNat = 8 + (tunnelPayload a header macs).length) :
    (writeTunnelFrame (resize out (14 + outerIpTotal.toNat)) (a.outerV4 outerIpTotal outerUdpLen) header.length encode macs
      a.inner).bind (fun frame => some (.ok (14 + outerIpTotal.toNat), frame)) =
      tunnelFrame outerIpv4 a (tunnelPayload a header macs) := by
  refine writeTunnelFrame_resize out header macs hencode (outerV4_keepsLength a _ _) rfl ?_ ?_ <;>
    dsimp only [outerIpv4]
  · intro hunfit
    omega
  · intro hfit
    have hip : outerIpTotal = UInt16.ofNat (20 + 8 + (tunnelPayload a header macs).length) := by
      rw [← UInt16.toNat_inj, UInt16.toNat_ofNat', htotal]
    have hlen : outerUdpLen = UInt16.ofNat (8 + (tunnelPayload a header macs).length) := by
      rw [← hudp hfit, UInt16.ofNat_toNat]
    refine ⟨by omega, _, _, ?_, udpFrame_outer a _⟩
    rw [hip, hlen]
    exact outerV4_writes a _

theorem buildGueFrameInto_eq :
    buildGueFrameInto out a = tunnelFrame outerIpv4 a (tunnelPayload a [0, 4, 0, 0] none) := by
  have hsize := length_tunnelPayload a [0, 4, 0, 0] none
  change _ = 4 + 0 + 28 + a.payload.length at hsize
  exact writeTunnelFrame_ipv4 out a [0, 4, 0, 0] none (fun _ hs => GueHeader.encode_newData hs)
    (by rw [UInt16.toNat_ofNat', hsize]; omega) (fun _ => by rw [UInt16.toNat_ofNat', hsize]; omega)

theorem ethernetTunnelLens_spec {Ip : Type} (a : TunnelFrameArgs Ip) (header : List UInt8) (macs : InnerMacs) :
    (ethernetTunnelLens header.length a.payload.length).2.toNat =
        (28 + (tunnelPayload a header (some macs)).length) % 65536 ∧
      (ethernetTunnelLens header.length a.payload.length).1.toNat =
        (8 + (tunnelPayload a header (some macs)).length) % 65536 := by
  have hsize := length_tunnelPayload a header (some macs)
  change _ = header.length + 14 + 28 + a.payload.length at hsize
  simp only [ethernetTunnelLens, UInt16.toNat_ofNat']
  omega

theorem buildVxlanFrameInto_eq (vni : UInt32) (macs : InnerMacs) :
    buildVxlanFrameInto out a vni macs = tunnelFrame outerIpv4 a (tunnelPayload a (VxlanHeader.new vni).bytes macs) := by
  obtain ⟨htotal, hudp⟩ := ethernetTunnelLens_spec a (VxlanHeader.new vni).bytes macs
  exact writeTunnelFrame_ipv4 out a _ _ (fun _ hs => VxlanHeader.encode_eq _ hs) htotal
    fun hfit => hudp.trans (Nat.mod_eq_of_lt (by omega))

theorem buildGeneveFrameInto_eq {geneveHeader : GeneveHeader} (hheader : geneveHeader.Consistent) (macs : InnerMacs) :
    buildGeneveFrameInto out a geneveHeader macs =
      tunnelFrame outerIpv4 a (tunnelPayload a geneveHeader.bytes macs) := by
  have hlen := GeneveHeader.length_bytes hheader
  obtain ⟨htotal, hudp⟩ := ethernetTunnelLens_spec a geneveHeader.bytes macs
  rw [← writeTunnelFrame_ipv4 out a _ _ (fun _ hs => GeneveHeader.encode_eq hheader (hs.trans hlen)) htotal
    fun hfit => hudp.trans (Nat.mod_eq_of_lt (by omega)), hlen]
  rfl

end Builders

section Builders6

variable (out : List UInt8) (a : TunnelFrameArgs Ipv6Addr)

theorem writeTunnelFrame_ipv6 (header : List UInt8) (macs : Option InnerMacs) {outerUdpLen : UInt16}
    (hencode : ∀ s, s.length = header.length → encode s = some header)
    (hudp : outerUdpLen.toNat = (8 + (tunnelPayload a header macs).length) % 65536) :
    (writeTunnelFrame (resize out (14 + 40 + outerUdpLen.toNat)) (a.outerV6 outerUdpLen) header.length encode macs
      a.inner).bind (fun frame => some (.ok (14 + 40 + outerUdpLen.toNat), frame)) =
      tunnelFrame outerIpv6 a (tunnelPayload a header macs) := by
  refine writeTunnelFrame_resize out header macs hencode (outerV6_keepsLength a _) rfl ?_ ?_ <;>
    dsimp only [outerIpv6]
  · intro hunfit
    omega
  · intro hfit
    have hlen : outerUdpLen = UInt16.ofNat (8 + (tunnelPayload a header macs).length) := by
      rw [← UInt16.toNat_inj, UInt16.toNat_ofNat', hudp]
    refine ⟨by omega, _, _, ?_, udp6Frame_outer a _⟩
    rw [hlen]
    exact outerV6_writes a _

theorem buildGueFrameIntoV6_eq :
    buildGueFrameIntoV6 out a = tunnelFrame outerIpv6 a (tunnelPayload a [0, 4, 0, 0] none) := by
  have hsize := length_tunnelPayload a [0, 4, 0, 0] none
  change _ = 4 + 0 + 28 + a.payload.length at hsize
  exact writeTunnelFrame_ipv6 out a [0, 4, 0, 0] none (fun _ hs => GueHeader.encode_newData hs)
    (by rw [UInt16.toNat_ofNat', hsize]; omega)

theorem buildVxlanFrameIntoV6_eq (vni : UInt32) (macs : InnerMacs) :
    buildVxlanFrameIntoV6 out a vni macs = tunnelFrame outerIpv6 a (tunnelPayload a (VxlanHeader.new vni).bytes macs) :=
  writeTunnelFrame_ipv6 out a _ _ (fun _ hs => VxlanHeader.encode_eq _ hs)
    (ethernetTunnelLens_spec a (VxlanHeader.new vni).bytes macs).2

theorem buildGeneveFrameIntoV6_eq {geneveHeader : GeneveHeader} (hheader : geneveHeader.Consistent) (macs : InnerMacs) :
    buildGeneveFrameIntoV6 out a geneveHeader macs =
      tunnelFrame outerIpv6 a (tunnelPayload a geneveHeader.bytes macs) := by
  have hlen := GeneveHeader.length_bytes hheader
  rw [← writeTunnelFrame_ipv6 out a _ _ (fun _ hs => GeneveHeader.encode_eq hheader (hs.trans hlen))
    (ethernetTunnelLens_spec a geneveHeader.bytes macs).2, hlen]
  rfl

end Builders6

/-! ## Length fields -/

/-- A UDP packet from `ip` to the end of the frame, with exact length fields. -/
structure ExactAt (frame : List UInt8) (ip : Nat) : Prop where
  fits : ip + 28 ≤ frame.length
  version : byteAt frame ip = 0x45
  protocol : byteAt frame (ip + 9) = 17
  total : (be16At frame (ip + 2)).toNat = frame.length - ip
  udpLen : (be16At frame (ip + 20 + 4)).toNat = frame.length - (ip + 20)

theorem exactAt_udpPacket {e : List UInt8} (a : UdpPacketArgs Ipv4Addr) (tos : UInt8) {ip : Nat} (hip : ip = e.length)
    (hlen : 28 + a.payload.length < 65536) : ExactAt (e ++ udpPacket a tos) ip := by
  subst hip
  have hsize : (e ++ udpPacket a tos).length = e.length + 28 + a.payload.length := by
    rw [List.length_append, length_udpPacket, Nat.add_assoc]
  constructor
  · omega
  · exact byteAt_append_right e _ 0
  · exact byteAt_append_right e _ 9
  · have hfield : be16At (e ++ udpPacket a tos) (e.length + 2) = UInt16.ofNat (20 + 8 + a.payload.length) := by
      rw [be16At_append_right]
      exact be16At_field (a := [0x45, tos]) rfl
    rw [hfield, UInt16.toNat_ofNat', Nat.mod_eq_of_lt (by omega)]
    omega
  · have hfield : be16At (e ++ udpPacket a tos) (e.length + 20 + 4) = UInt16.ofNat (8 + a.payload.length) := by
      rw [Nat.add_assoc, be16At_append_right, udpPacket, ← length_ipv4Header a tos _, be16At_append_right]
      exact be16At_field (a := beBytes16 a.srcPort ++ beBytes16 a.dstPort) rfl
    rw [hfield, UInt16.toNat_ofNat', Nat.mod_eq_of_lt (by omega)]
    omega

theorem exactAt_udpFrame (b : UdpFrameArgs Ipv4Addr) (tag : Option UInt16) (hlen : 28 + b.payload.length < 65536) :
    ExactAt (udpFrame b tag 0) (14 + tag.elim 0 fun _ => 4) :=
  exactAt_udpPacket _ 0 (length_ethHeader b tag _).symm hlen

section Family

variable {Ip : Type} (family : OuterFamily Ip) (a : TunnelFrameArgs Ip) (header : List UInt8) (macs : Option InnerMacs)

/-- A tunnel frame ends with the inner packet. -/
theorem OuterFamily.frame_tunnelPayload :
    ∃ e, family.frame (a.outer (tunnelPayload a header macs)) = e ++ udpPacket a.inner 0 ∧
      family.start + header.length + innerEthLen macs = e.length := by
  obtain ⟨e, hframe, he⟩ := family.frame_split (a.outer (tunnelPayload a header macs))
  refine ⟨e ++ (header ++ innerEthHeader macs), ?_, ?_⟩
  · rw [hframe, List.append_assoc, List.append_assoc]
    rfl
  · rw [List.length_append, List.length_append, length_innerEthHeader, he, Nat.add_assoc]

theorem OuterFamily.exactAt_inner (hfit : family.counted + (tunnelPayload a header macs).length < 65536) :
    ExactAt (family.frame (a.outer (tunnelPayload a header macs)))
      (family.start + header.length + innerEthLen macs) := by
  have hsize := length_tunnelPayload a header macs
  obtain ⟨e, hframe, he⟩ := family.frame_tunnelPayload a header macs
  rw [hframe]
  exact exactAt_udpPacket a.inner 0 he (by change 28 + a.payload.length < 65536; omega)

end Family

end DpdkStdlib.Udp
