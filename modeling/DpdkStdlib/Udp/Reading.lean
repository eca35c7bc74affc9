import DpdkStdlib.Udp.Receive

/-!
# What a path reads from a frame, and what it checks

A frame can be read as a UDP packet over IPv4 or IPv6, or as one inside a tunnel.  Each path to the application reads it
one way and makes some of the checks; the datagrams it gives are readings that pass these.
-/

namespace DpdkStdlib.Udp
open DpdkStdlib.Lib

variable {frame : List UInt8} {layout : FrameLayout} {hw : Option UInt16}

/-! ## A frame without its stripped tag -/

theorem layoutOf_none (h : layoutOf frame hw = some layout) : ∃ layout', layoutOf frame none = some layout' ∧
      layout'.ethertype = layout.ethertype ∧ layout'.l3Offset = layout.l3Offset := by
  unfold layoutOf at h ⊢
  split_ifs at h ⊢ <;> cases h
  · exact ⟨_, rfl, rfl, rfl⟩
  · exact ⟨_, rfl, rfl, rfl⟩

theorem layoutOf_untagged (h : layoutOf frame hw = some layout) (htag : be16At frame 12 ≠ 0x8100) :
    layout = ⟨be16At frame 12, 14, hw⟩ ∧ 14 ≤ frame.length := by
  unfold layoutOf at h
  split_ifs at h with hlen
  obtain rfl := Option.some.inj h
  exact ⟨rfl, by omega⟩

theorem udpViewRef_eq_none (hlayout : layoutOf frame hw = some layout) (heth : layout.ethertype ≠ 0x0800) :
    udpViewRef frame = none := by
  obtain ⟨layout', hlayout', heth', -⟩ := layoutOf_none hlayout
  rw [udpViewRef, hlayout', Option.bind_some, if_neg]
  intro hip
  exact heth (heth'.symm.trans hip.2.1)

theorem udp6ViewRef_eq_none (hlayout : layoutOf frame hw = some layout) (heth : layout.ethertype ≠ 0x86DD) :
    udp6ViewRef frame = none := by
  obtain ⟨layout', hlayout', heth', -⟩ := layoutOf_none hlayout
  rw [udp6ViewRef, hlayout', Option.bind_some, if_neg]
  intro hip
  exact heth (heth'.symm.trans hip.1)

/-! ## A frame cut short -/

section extend
variable {b : List UInt8} (c : List UInt8)

theorem layoutOf_extend (h : layoutOf b hw = some layout) : layoutOf (b ++ c) hw = some layout := by
  unfold layoutOf at h ⊢
  by_cases hlen : b.length < 14
  · rw [if_pos hlen] at h
    cases h
  rw [if_neg hlen] at h
  rw [if_neg (by rw [List.length_append]; omega), be16At_append_left c (by omega)]
  by_cases htag : be16At b 12 = 0x8100
  · rw [if_pos htag] at h ⊢
    by_cases hlen' : b.length < 18
    · rw [if_pos hlen'] at h
      cases h
    rw [if_neg hlen'] at h
    rw [if_neg (by rw [List.length_append]; omega), be16At_append_left c (by omega), be16At_append_left c (by omega), h]
  · rw [if_neg htag] at h ⊢
    exact h

theorem udpAt_extend {udpStart : Nat} {d : UInt16 × UInt16 × List UInt8} (h : udpAt b udpStart = some d) :
    udpAt (b ++ c) udpStart = some d := by
  unfold udpAt at h ⊢
  split_ifs at h with hcond
  obtain ⟨hlen, hmin, hfit⟩ := hcond
  rw [be16At_append_left c (by omega), be16At_append_left c (by omega), be16At_append_left c (by omega),
    slice_append_left c (by omega), if_pos ⟨by rw [List.length_append]; omega, hmin, by rw [List.length_append]; omega⟩, h]

theorem ipv4At_extend {i : Nat} (h : i + 4 ≤ b.length) : ipv4At (b ++ c) i = ipv4At b i := by
  rw [ipv4At, byteAt_append_left c (by omega), byteAt_append_left c (by omega), byteAt_append_left c (by omega),
    byteAt_append_left c (by omega), ipv4At]

theorem macAt_extend {i : Nat} (h : i + 6 ≤ b.length) : macAt (b ++ c) i = macAt b i := by
  rw [macAt, byteAt_append_left c (by omega), byteAt_append_left c (by omega), byteAt_append_left c (by omega),
    byteAt_append_left c (by omega), byteAt_append_left c (by omega), byteAt_append_left c (by omega), macAt]

theorem udpViewRef_extend {p : ParsedUdpPacketRef Ipv4Addr} (h : udpViewRef b = some p) :
    udpViewRef (b ++ c) = some p := by
  rw [udpViewRef] at h ⊢
  obtain ⟨layout, hlayout, h⟩ := Option.bind_eq_some_iff.1 h
  split_ifs at h with hip
  obtain ⟨d, hd, rfl⟩ := Option.map_eq_some_iff.1 h
  obtain ⟨hlen, heth, hver, hihl, hproto⟩ := hip
  have hl3 := (layoutOf_bounds hlayout).1
  have hstart : udpStart4 (b ++ c) layout = udpStart4 b layout := by
    rw [udpStart4, byteAt_append_left c (by omega), udpStart4]
  have hip' : isUdpOverIpv4 (b ++ c) layout := by
    rw [isUdpOverIpv4, byteAt_append_left c (by omega), byteAt_append_left c (by omega)]
    exact ⟨by rw [List.length_append]; omega, heth, hver, hihl, hproto⟩
  rw [layoutOf_extend c hlayout, Option.bind_some, if_pos hip', hstart, udpAt_extend c hd, macAt_extend c (by omega),
    ipv4At_extend c (by omega), ipv4At_extend c (by omega)]
  rfl

theorem ipv4ChecksumOk_extend (h : ipv4ChecksumOk b) : ipv4ChecksumOk (b ++ c) := by
  obtain ⟨layout, hlayout, hmin, hlen, hsum⟩ := h
  have hihl : ipHeaderLenAt (b ++ c) layout.l3Offset = ipHeaderLenAt b layout.l3Offset := by
    rw [ipHeaderLenAt, byteAt_append_left c (by omega), ipHeaderLenAt]
  refine ⟨layout, layoutOf_extend c hlayout, ?_⟩
  rw [Ipv4HeaderValid, hihl, slice_append_left c hlen]
  exact ⟨hmin, by rw [List.length_append]; omega, hsum⟩

theorem udpChecksumOk_extend (h : udpChecksumOk b) : udpChecksumOk (b ++ c) := by
  obtain ⟨layout, hlayout, hl3, hlen, hvalid⟩ := h
  have hstart : udpStart4 (b ++ c) layout = udpStart4 b layout := by
    rw [udpStart4, byteAt_append_left c (by omega), udpStart4]
  have hudpLen : udpLenAt (b ++ c) (udpStart4 b layout) = udpLenAt b (udpStart4 b layout) := by
    rw [udpLenAt, be16At_append_left c (by omega), udpLenAt]
  refine ⟨layout, layoutOf_extend c hlayout, by rw [List.length_append]; omega, ?_, ?_⟩
  · rw [hstart, List.length_append]
    omega
  · rw [hstart, Udp4Valid, be16At_append_left c (by omega), hudpLen]
    refine hvalid.imp_right fun hvalid => ?_
    obtain ⟨hfit, hsum⟩ := hvalid
    refine ⟨by rw [List.length_append]; omega, ?_⟩
    rwa [slice_append_left c (by omega), slice_append_left c (by omega), slice_append_left c hfit]

end extend

/-! ## Readings -/

structure Reading where
  src : SocketAddr
  dst : SocketAddr
  payload : List UInt8
  /-- Where its IP header starts. -/
  ip : Nat
  /-- Whether it was inside a tunnel. -/
  tunnelled : Bool
deriving DecidableEq

def Reading.datagram (r : Reading) (a : Arrival) : Datagram := ⟨r.payload, r.src, a⟩

def readUdp4 (frame : List UInt8) : Option Reading :=
  (layoutOf frame none).bind fun layout => (udpViewRef frame).map fun p =>
    { src := .v4 p.srcIp p.srcPort, dst := .v4 p.dstIp p.dstPort, payload := p.payload, ip := layout.l3Offset
      tunnelled := false }

def readUdp6 (frame : List UInt8) : Option Reading :=
  (layoutOf frame none).bind fun layout => (udp6ViewRef frame).map fun p =>
    { src := .v6 p.srcIp p.srcPort 0 0, dst := .v6 p.dstIp p.dstPort 0 0, payload := p.payload, ip := layout.l3Offset
      tunnelled := false }

def gueInner (frame : List UInt8) (l3Offset : Nat) (localPort : UInt16) : Option Nat :=
  (tunnelStart frame l3Offset localPort).bind fun gueOff => (GueHeader.parse (frame.drop gueOff)).bind fun header =>
    if header.cFlag then none else if header.proto ≠ 4 then none else some (gueOff + header.totalLen)

def vxlanInner (frame : List UInt8) (l3Offset : Nat) (localPort : UInt16) (vni : UInt32) : Option Nat :=
  (tunnelStart frame l3Offset localPort).bind fun vxlanOff => (VxlanHeader.parse (frame.drop vxlanOff)).bind fun header =>
    if header.vni ≠ vni then none else innerEthernet frame (vxlanOff + 8)

def geneveInner (frame : List UInt8) (l3Offset : Nat) (localPort : UInt16) (vni : UInt32) : Option Nat :=
  (tunnelStart frame l3Offset localPort).bind fun geneveOff =>
    (GeneveHeader.parse (frame.drop geneveOff)).bind fun header =>
      if header.vni ≠ vni then none else innerEthernet frame (geneveOff + header.headerLen)

def innerAt (frame : List UInt8) (start : Option Nat) : Option (Nat × InnerDatagram) :=
  start.bind fun inner => (innerDatagram frame inner).map fun p => (inner, p)

/-- The packet inside the first of the socket's tunnels that gives one. -/
def SocketConfig.innerPacket (cfg : SocketConfig) (layout : FrameLayout) (frame : List UInt8) :
    Option (Nat × InnerDatagram) :=
  if layout.ethertype ≠ 0x0800 then none
  else
    (innerAt frame (cfg.gue.bind fun gue => gueInner frame layout.l3Offset gue.localPort)).or <|
    (innerAt frame (cfg.vxlan.bind fun vxlan => vxlanInner frame layout.l3Offset vxlan.localPort vxlan.vni)).or <|
    innerAt frame (cfg.geneve.bind fun geneve => geneveInner frame layout.l3Offset geneve.localPort geneve.vni)

def SocketConfig.readTunnel (cfg : SocketConfig) (layout : FrameLayout) (frame : List UInt8) : Option Reading :=
  (cfg.innerPacket layout frame).map fun (inner, p) =>
    { src := .v4 p.innerSrcIp p.innerSrcPort, dst := .v4 p.innerDstIp p.innerDstPort, payload := p.payload, ip := inner
      tunnelled := true }

def Path.reading (cfg : SocketConfig) (onlyV6 : Bool) : Path → Arrival → Option Reading
  | .inline, a => (layoutOf a.data a.hwVlanTci).bind fun layout =>
    (cfg.readTunnel layout a.data).or (if onlyV6 then readUdp6 a.data else (readUdp4 a.data).or (readUdp6 a.data))
  | .resolve, a | .pipeline, a => readUdp4 a.data

/-! ## Checks -/

def SocketConfig.VlanOk (cfg : SocketConfig) (frame : RxFrame) : Prop :=
  ∃ layout ∈ layoutOf frame.data frame.hwVlanTci, cfg.acceptsVlan layout
deriving Decidable

def Reading.ChecksumsOk (r : Reading) (frame : List UInt8) : Prop :=
  match r.dst with
  | .v4 _ _ => Ipv4HeaderValid frame r.ip ∧ Udp4Valid frame r.ip (r.ip + ipHeaderLenAt frame r.ip)
  | .v6 _ _ _ _ => udp6ChecksumOk frame

/-- The checks that a path makes of what it reads. -/
def Path.Checks (cfg : SocketConfig) (a : Arrival) (r : Reading) : Path → Prop
  | .inline => cfg.VlanOk a.toRxFrame ∧ r.dst.port = cfg.localPort ∧ (¬ r.tunnelled → r.ChecksumsOk a.data)
  | .resolve => True
  | .pipeline => r.dst.port = cfg.pipelinePort ∧ r.ChecksumsOk a.data

/-! ## Datagrams are readings -/

theorem map_bind_eq {α β γ δ : Type*} {x : Option α} {f : α → Option β} {g : α → Option γ} {read : β → δ}
    {k : γ → Option δ} (h : ∀ a, (f a).map read = (g a).bind k) : (x.bind f).map read = (x.bind g).bind k := by
  cases x with
  | none => rfl
  | some a => exact h a

theorem map_tryDecapGue (frame : List UInt8) (l3Offset : Nat) (port : UInt16) :
    (tryDecapGue frame l3Offset port).map (·.toInnerDatagram) =
      (gueInner frame l3Offset port).bind (innerDatagram frame) := by
  refine map_bind_eq fun gueOff => map_bind_eq fun header => ?_
  split_ifs
  · rfl
  · rfl
  · rw [Option.bind_some]
    cases innerDatagram frame (gueOff + header.totalLen) <;> rfl

theorem map_tryDecapVxlan (frame : List UInt8) (l3Offset : Nat) (port : UInt16) (vni : UInt32) :
    (tryDecapVxlan frame l3Offset port (some vni)).map (·.toInnerDatagram) =
      (vxlanInner frame l3Offset port vni).bind (innerDatagram frame) := by
  refine map_bind_eq fun vxlanOff => map_bind_eq fun header => ?_
  simp only [Option.any_some, decide_eq_true_eq]
  split_ifs
  · rfl
  · cases innerEthernet frame (vxlanOff + 8) with
    | none => rfl
    | some inner =>
      rw [Option.bind_some]
      cases hinner : innerDatagram frame inner <;> simp [hinner]

theorem map_tryDecapGeneve (frame : List UInt8) (l3Offset : Nat) (port : UInt16) (vni : UInt32) :
    (tryDecapGeneve frame l3Offset port (some vni)).map (·.toInnerDatagram) =
      (geneveInner frame l3Offset port vni).bind (innerDatagram frame) := by
  refine map_bind_eq fun geneveOff => map_bind_eq fun header => ?_
  simp only [Option.any_some, decide_eq_true_eq]
  split_ifs
  · rfl
  · cases innerEthernet frame (geneveOff + header.headerLen) with
    | none => rfl
    | some inner =>
      rw [Option.bind_some]
      cases hinner : innerDatagram frame inner <;> simp [hinner]

theorem map_innerAt (frame : List UInt8) (start : Option Nat) :
    (innerAt frame start).map Prod.snd = start.bind (innerDatagram frame) := by
  cases start with
  | none => rfl
  | some inner =>
    rw [innerAt, Option.bind_some, Option.map_map, Option.bind_some]
    exact congrFun Option.map_id _

theorem decapsulate_eq (cfg : SocketConfig) (layout : FrameLayout) (frame : List UInt8) :
    cfg.decapsulate layout frame = (cfg.innerPacket layout frame).map Prod.snd := by
  unfold SocketConfig.decapsulate SocketConfig.innerPacket
  split_ifs
  · rfl
  · simp only [Option.map_or, map_innerAt, map_tryDecapGue, map_tryDecapVxlan, map_tryDecapGeneve, Option.bind_assoc]

theorem icmpEffect_datagram (cfg : SocketConfig) (frame : List UInt8) : (icmpEffect cfg frame).datagram = none := by
  unfold icmpEffect
  split <;> rfl

theorem icmpv6Effect_datagram (cfg : SocketConfig) (frame : List UInt8) : (icmpv6Effect cfg frame).datagram = none := by
  unfold icmpv6Effect
  split <;> rfl

theorem forPort_some {cfg : SocketConfig} {dstPort : UInt16} {d d' : Datagram} (h : cfg.forPort dstPort d = some d') :
    dstPort = cfg.localPort ∧ d' = d := by
  unfold SocketConfig.forPort at h
  split_ifs at h with hport
  exact ⟨not_not.1 hport, (Option.some.inj h).symm⟩

/-- The test that sends an IPv6 frame to NDP, at the offsets of an untagged frame. -/
def SocketConfig.looksLikeNdp (cfg : SocketConfig) (frame : List UInt8) : Prop :=
  cfg.autoArp ∧ frame.length > 14 + 40 ∧ byteAt frame (14 + 6) = 58 ∧
    (byteAt frame (14 + 40) = 135 ∨ byteAt frame (14 + 40) = 136)
deriving Decidable

section branches
variable {cfg : SocketConfig} {onlyV6 : Bool} {a : Arrival} {layout : FrameLayout}

theorem dispatch_arp (hlayout : layoutOf a.data a.hwVlanTci = some layout) (hvlan : cfg.acceptsVlan layout)
    (heth : layout.ethertype = 0x0806) (hauto : cfg.autoArp) :
    dispatch cfg onlyV6 a =
      { arpEntry := (cfg.handler4.processArp a.data).1, reply := (cfg.handler4.processArp a.data).2 } := by
  unfold dispatch
  rw [hlayout]
  dsimp only
  rw [if_neg (by simp [hvlan]), if_pos ⟨heth, hauto⟩]

theorem dispatch_icmp (hlayout : layoutOf a.data a.hwVlanTci = some layout) (hvlan : cfg.acceptsVlan layout)
    (hicmp : layout.ethertype = 0x0800 ∧ a.data.length > layout.l3Offset + 9 ∧ byteAt a.data (layout.l3Offset + 9) = 1) :
    dispatch cfg onlyV6 a = icmpEffect cfg a.data := by
  unfold dispatch
  rw [hlayout]
  dsimp only
  rw [if_neg (by simp [hvlan]), if_neg (by rw [hicmp.1]; exact fun h => absurd h.1 (by decide)), if_pos hicmp]

theorem dispatch_filtered (hlayout : layoutOf a.data a.hwVlanTci = some layout) (hvlan : ¬ cfg.acceptsVlan layout) :
    dispatch cfg onlyV6 a = {} := by
  unfold dispatch
  rw [hlayout]
  dsimp only
  rw [if_pos (by simpa using hvlan)]

theorem dispatch_ipv4 (hlayout : layoutOf a.data a.hwVlanTci = some layout) (hvlan : cfg.acceptsVlan layout)
    (heth : layout.ethertype = 0x0800)
    (hicmp : ¬ (a.data.length > layout.l3Offset + 9 ∧ byteAt a.data (layout.l3Offset + 9) = 1)) :
    dispatch cfg onlyV6 a =
      match cfg.decapsulate layout a.data with
      | some decap => tunnelEffect cfg a decap
      | none => plainEffect cfg onlyV6 a := by
  unfold dispatch
  rw [hlayout]
  dsimp only
  rw [if_neg (by simp [hvlan]), heth, if_neg (fun h => absurd h.1 (by decide)), if_neg (fun h => hicmp h.2),
    if_neg (fun h => absurd h.1 (by decide))]
  exact if_neg (fun h => absurd h.1 (by decide))

theorem dispatch_ipv6 (hlayout : layoutOf a.data a.hwVlanTci = some layout) (hvlan : cfg.acceptsVlan layout)
    (heth : layout.ethertype = 0x86DD) :
    dispatch cfg onlyV6 a =
      if cfg.looksLikeNdp a.data then
        { ndpEntry := (cfg.handler6.processNdp a.data).1, reply := (cfg.handler6.processNdp a.data).2 }
      else if a.data.length > layout.l3Offset + 40 ∧
          (upperLayer (a.data.drop layout.l3Offset)).any (·.protocol = 58) then icmpv6Effect cfg a.data
      else plainEffect cfg onlyV6 a := by
  have hdecap : cfg.decapsulate layout a.data = none := if_pos (by rw [heth]; decide)
  unfold dispatch
  rw [hlayout]
  dsimp only
  rw [if_neg (by simp [hvlan]), hdecap, heth, if_neg (fun h => absurd h.1 (by decide)),
    if_neg (fun h => absurd h.1 (by decide))]
  by_cases hndp : cfg.looksLikeNdp a.data
  · rw [if_pos ⟨rfl, hndp⟩, if_pos hndp]
  · rw [if_neg (fun h => hndp h.2), if_neg hndp]
    simp only [true_and]

end branches

section datagram
variable {cfg : SocketConfig} {onlyV6 : Bool} {a : Arrival} {d : Datagram}

/-- A datagram of the dispatcher passed the filter, and is a tunnel's or plain. -/
theorem dispatch_datagram (h : (dispatch cfg onlyV6 a).datagram = some d) :
    ∃ layout, layoutOf a.data a.hwVlanTci = some layout ∧ cfg.acceptsVlan layout ∧
      match cfg.decapsulate layout a.data with
      | some decap => (tunnelEffect cfg a decap).datagram = some d
      | none => (plainEffect cfg onlyV6 a).datagram = some d := by
  unfold dispatch at h
  cases hlayout : layoutOf a.data a.hwVlanTci with
  | none =>
    rw [hlayout] at h
    cases h
  | some layout =>
    rw [hlayout] at h
    dsimp only at h
    refine ⟨layout, rfl, ?_⟩
    split_ifs at h with hvlan
    · rw [icmpEffect_datagram] at h
      cases h
    · rw [icmpv6Effect_datagram] at h
      cases h
    · refine ⟨by simpa using hvlan, ?_⟩
      cases hdecap : cfg.decapsulate layout a.data with
      | some decap =>
        rw [hdecap] at h
        exact h
      | none =>
        rw [hdecap] at h
        exact h

theorem udpEffect_datagram {parsed : ParsedUdpPacketRef Ipv4Addr} (h : (udpEffect cfg a parsed).datagram = some d) :
    ipv4ChecksumOk a.data ∧ udpChecksumOk a.data ∧ parsed.dstPort = cfg.localPort ∧
      d = ⟨parsed.payload, .v4 parsed.srcIp parsed.srcPort, a⟩ := by
  unfold udpEffect at h
  split_ifs at h with hip hudp
  exact ⟨hip, hudp, forPort_some h⟩

theorem plainEffect_datagram (h : (plainEffect cfg onlyV6 a).datagram = some d) :
    (onlyV6 = false ∧ ∃ parsed, udpViewRef a.data = some parsed ∧ (udpEffect cfg a parsed).datagram = some d) ∨
      ((onlyV6 = true ∨ udpViewRef a.data = none) ∧ (udp6Effect cfg a).datagram = some d) := by
  unfold plainEffect at h
  cases onlyV6 with
  | true => exact .inr ⟨.inl rfl, h⟩
  | false =>
    cases hparsed : udpViewRef a.data with
    | none =>
      rw [hparsed] at h
      exact .inr ⟨.inr rfl, h⟩
    | some parsed =>
      rw [hparsed] at h
      exact .inl ⟨rfl, parsed, rfl, h⟩

theorem udp6Effect_datagram (h : (udp6Effect cfg a).datagram = some d) :
    ∃ parsed, udp6ViewRef a.data = some parsed ∧ udp6ChecksumOk a.data ∧ parsed.dstPort = cfg.localPort ∧
      d = ⟨parsed.payload, .v6 parsed.srcIp parsed.srcPort 0 0, a⟩ := by
  unfold udp6Effect at h
  cases hparsed : udp6ViewRef a.data with
  | none =>
    rw [hparsed] at h
    cases h
  | some parsed =>
    rw [hparsed] at h
    dsimp only at h
    split_ifs at h with hudp
    exact ⟨parsed, rfl, hudp, forPort_some h⟩

theorem resolveEffect_datagram (h : (resolveEffect cfg a).datagram = some d) :
    ∃ parsed, udpView a.data = some parsed ∧ d = ⟨parsed.payload, .v4 parsed.srcIp parsed.srcPort, a⟩ := by
  unfold resolveEffect at h
  split_ifs at h
  cases hparsed : udpView a.data with
  | none =>
    rw [hparsed] at h
    cases h
  | some parsed =>
    rw [hparsed] at h
    exact ⟨parsed, rfl, (Option.some.inj h).symm⟩

theorem workerDatagram_some (h : workerDatagram cfg a = some d) :
    ∃ parsed, udpViewRef (a.data.take frameSize) = some parsed ∧ ipv4ChecksumOk (a.data.take frameSize) ∧
      udpChecksumOk (a.data.take frameSize) ∧ parsed.dstPort = cfg.pipelinePort ∧
      d = ⟨parsed.payload, .v4 parsed.srcIp parsed.srcPort, a⟩ := by
  unfold workerDatagram at h
  cases hparsed : udpViewRef (a.data.take frameSize) with
  | none =>
    rw [hparsed] at h
    cases h
  | some parsed =>
    rw [hparsed] at h
    dsimp only at h
    split_ifs at h with hok
    exact ⟨parsed, rfl, hok.1, hok.2.1, hok.2.2, (Option.some.inj h).symm⟩

theorem udpViewRef_of_udpView {p : ParsedUdpPacket Ipv4Addr} (h : udpView frame = some p) :
    ∃ payloadOffset, udpViewRef frame = some
      { srcMac := p.srcMac, srcIp := p.srcIp, dstIp := p.dstIp, srcPort := p.srcPort, dstPort := p.dstPort
        payload := p.payload, payloadOffset, vlanId := p.vlanId } := by
  rw [udpView] at h
  obtain ⟨layout, hlayout, h⟩ := Option.bind_eq_some_iff.1 h
  split_ifs at h with hip
  obtain ⟨d, hd, rfl⟩ := Option.map_eq_some_iff.1 h
  exact ⟨_, by rw [udpViewRef, hlayout, Option.bind_some, if_pos hip, hd]; rfl⟩

theorem udpView_of_udpViewRef {p : ParsedUdpPacketRef Ipv4Addr} (h : udpViewRef frame = some p) :
    ∃ parsed, udpView frame = some parsed ∧ parsed.payload = p.payload ∧ parsed.srcIp = p.srcIp ∧
      parsed.srcPort = p.srcPort := by
  rw [udpViewRef] at h
  obtain ⟨layout, hlayout, h⟩ := Option.bind_eq_some_iff.1 h
  split_ifs at h with hip
  obtain ⟨d, hd, rfl⟩ := Option.map_eq_some_iff.1 h
  exact ⟨_, by rw [udpView, hlayout, Option.bind_some, if_pos hip, hd]; rfl, rfl, rfl, rfl⟩

theorem readUdp4_of_view {parsed : ParsedUdpPacketRef Ipv4Addr} (h : udpViewRef frame = some parsed) :
    ∃ layout, layoutOf frame none = some layout ∧ isUdpOverIpv4 frame layout ∧
      readUdp4 frame = some
        { src := .v4 parsed.srcIp parsed.srcPort, dst := .v4 parsed.dstIp parsed.dstPort, payload := parsed.payload
          ip := layout.l3Offset, tunnelled := false } := by
  obtain ⟨layout, hlayout, hip, -⟩ := udpViewRef_spec h
  exact ⟨layout, hlayout, hip, by rw [readUdp4, hlayout, h]; rfl⟩

theorem checksumsOk_of_verified {r : Reading} {ip : Ipv4Addr} {port : UInt16}
    (hlayout : layoutOf frame none = some layout) (hdst : r.dst = .v4 ip port) (hr : r.ip = layout.l3Offset)
    (hip : ipv4ChecksumOk frame) (hudp : udpChecksumOk frame) : r.ChecksumsOk frame := by
  rw [Reading.ChecksumsOk, hdst, hr]
  exact ⟨(exists_layout hlayout _).1 hip, ((exists_layout hlayout _).1 hudp).2.2⟩

/-- **What a path gives is a reading that passes its checks.** -/
theorem Path.reading_of_datagram {path : Path} (h : path.datagram cfg onlyV6 a = some d) :
    ∃ r, path.reading cfg onlyV6 a = some r ∧ d = r.datagram a ∧ path.Checks cfg a r := by
  cases path with
  | inline =>
    obtain ⟨layout, hlayout, hvlan, h⟩ := dispatch_datagram h
    have hvlan : cfg.VlanOk a.toRxFrame := ⟨layout, hlayout, hvlan⟩
    simp only [Path.reading, hlayout, Option.bind_some]
    rw [decapsulate_eq] at h
    cases hinner : cfg.innerPacket layout a.data with
    | some p =>
      rw [hinner] at h
      obtain ⟨hport, rfl⟩ := forPort_some h
      rw [SocketConfig.readTunnel, hinner]
      exact ⟨_, rfl, rfl, hvlan, hport, fun htunnel => absurd rfl htunnel⟩
    | none =>
      rw [hinner] at h
      rw [SocketConfig.readTunnel, hinner, Option.map_none, Option.none_or]
      rcases plainEffect_datagram h with ⟨rfl, parsed, hparsed, h⟩ | ⟨hv6, h⟩
      · obtain ⟨hip, hudp, hport, rfl⟩ := udpEffect_datagram h
        obtain ⟨layout, hlayout, -, hread⟩ := readUdp4_of_view hparsed
        rw [hread]
        exact ⟨_, rfl, rfl, hvlan, hport, fun _ => checksumsOk_of_verified hlayout rfl rfl hip hudp⟩
      · obtain ⟨parsed, hparsed, hudp, hport, rfl⟩ := udp6Effect_datagram h
        obtain ⟨layout, hlayout, -⟩ := udp6ViewRef_spec hparsed
        have hread : readUdp6 a.data = some
            { src := .v6 parsed.srcIp parsed.srcPort 0 0, dst := .v6 parsed.dstIp parsed.dstPort 0 0
              payload := parsed.payload, ip := layout.l3Offset, tunnelled := false } := by
          rw [readUdp6, hlayout, hparsed]
          rfl
        have hplain : (if onlyV6 then readUdp6 a.data else (readUdp4 a.data).or (readUdp6 a.data)) = readUdp6 a.data := by
          rcases hv6 with rfl | hnone
          · rfl
          · simp [readUdp4, hnone]
        rw [hplain, hread]
        exact ⟨_, rfl, rfl, hvlan, hport, fun _ => hudp⟩
  | resolve =>
    obtain ⟨parsed, hparsed, rfl⟩ := resolveEffect_datagram h
    obtain ⟨payloadOffset, href⟩ := udpViewRef_of_udpView hparsed
    obtain ⟨layout, hlayout, -, hread⟩ := readUdp4_of_view href
    exact ⟨_, hread, rfl, trivial⟩
  | pipeline =>
    obtain ⟨parsed, hparsed, hip, hudp, hport, rfl⟩ := workerDatagram_some h
    have hframe : a.data.take frameSize ++ a.data.drop frameSize = a.data := List.take_append_drop _ _
    replace hparsed := udpViewRef_extend (a.data.drop frameSize) hparsed
    replace hip := ipv4ChecksumOk_extend (a.data.drop frameSize) hip
    replace hudp := udpChecksumOk_extend (a.data.drop frameSize) hudp
    rw [hframe] at hparsed hip hudp
    obtain ⟨layout, hlayout, -, hread⟩ := readUdp4_of_view hparsed
    exact ⟨_, hread, rfl, hport, checksumsOk_of_verified hlayout rfl rfl hip hudp⟩

theorem Path.arrival_of_datagram {path : Path} (h : path.datagram cfg onlyV6 a = some d) : d.arrival = a := by
  obtain ⟨r, -, rfl, -⟩ := path.reading_of_datagram h
  rfl

end datagram

/-! ## Returned datagrams -/

/-- The frame of `d` was polled in the run, and read as `r` gave what `d` is the front of. -/
def World.ReadAs (cfg : SocketConfig) (w : World) (es : List Event) (d : Datagram) (path : Path) (r : Reading) : Prop :=
  ∃ es₁ e es₂, es = es₁ ++ e :: es₂ ∧ (path, d.arrival) ∈ (run (World.step cfg) w es₁).1.polled e ∧
    path.reading cfg (run (World.step cfg) w es₁).1.sock.onlyV6 d.arrival = some r ∧
    path.datagram cfg (run (World.step cfg) w es₁).1.sock.onlyV6 d.arrival = some (r.datagram d.arrival) ∧
    ∃ n, d = (r.datagram d.arrival).cut n

/-- **Returned datagrams are readings.** A datagram that a run returns was read from a frame that an event of the run
polled. -/
theorem readAs_of_returned {cfg : SocketConfig} {w : World} (hw : w.Fresh) {es : List Event} {e : Event} {d : Datagram}
    (hd : .returned d ∈ ((run (World.step cfg) w es).1.step cfg e).2) :
    ∃ path r, w.ReadAs cfg (es ++ [e]) d path r := by
  have hc : Carries cfg (fun v e' => ∃ es₁ es₂, es ++ [e] = es₁ ++ e' :: es₂ ∧ v = (run (World.step cfg) w es₁).1)
      fun _ d => ∃ path r, w.ReadAs cfg (es ++ [e]) d path r := by
    refine ⟨fun _ d n => ?_, fun _ _ _ _ _ h => h, fun v e' path a d hg ha hpath => ?_⟩
    · rintro ⟨path, r, es₁, e', es₂, hes, ha, hr, hpath, m, hcut⟩
      refine ⟨path, r, es₁, e', es₂, hes, ha, hr, hpath, min n m, ?_⟩
      rw [hcut]
      simp only [Datagram.cut, Reading.datagram, List.take_take]
    · obtain ⟨es₁, es₂, hes, rfl⟩ := hg
      obtain ⟨r, hr, rfl, -⟩ := path.reading_of_datagram hpath
      refine ⟨path, r, es₁, e', es₂, hes, ha, hr, hpath, r.payload.length, ?_⟩
      simp only [Datagram.cut, Reading.datagram, List.take_length]
  exact hc.returned hw (along_here w (es ++ [e])) hd

/-! ## A socket and a frame for it -/

def sampleConfig : SocketConfig := { localAddr := .v4 ⟨10, 0, 0, 1⟩ 5000, mac := Vector.replicate 6 2 }

/-- A datagram of one byte from `10.0.0.host`; the low byte of the header checksum is given. -/
def sampleFrame (host cksum : UInt8) : List UInt8 :=
  [2, 2, 2, 2, 2, 2, 2, 0, 0, 0, 0, host, 0x08, 0x00] ++
    [0x45, 0, 0, 29, 0, 0, 0x40, 0, 64, 17, 0x26, cksum, 10, 0, 0, host, 10, 0, 0, 1] ++
    [0x17, 0x70, 0x13, 0x88, 0, 9, 0, 0] ++ [1]

def sampleDatagram (host cksum : UInt8) : Datagram :=
  ⟨[1], .v4 ⟨10, 0, 0, host⟩ 6000, ⟨⟨sampleFrame host cksum, none⟩, 1⟩⟩

def sampleWorld (frame : List UInt8) : World := { wire := [⟨0, [⟨frame, none⟩]⟩] }

def gueFrame (inner : List UInt8) : List UInt8 :=
  [2, 2, 2, 2, 2, 2, 2, 0, 0, 0, 0, 2, 0x08, 0x00] ++
    [0x45, 0, 0, 61, 0, 0, 0x40, 0, 64, 17, 0x26, 0xae, 10, 0, 0, 2, 10, 0, 0, 1] ++
    [0x17, 0xc0, 0x17, 0xc0, 0, 41, 0, 0] ++ [0, 4, 0, 0] ++ inner.drop 14

theorem fresh_sampleWorld (frame : List UInt8) : (sampleWorld frame).Fresh :=
  ⟨rfl, fun _ h => absurd h (by simp [sampleWorld])⟩

end DpdkStdlib.Udp
