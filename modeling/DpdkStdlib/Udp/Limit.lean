import DpdkStdlib.Udp.Encap
import DpdkStdlib.Udp.Send

/-!
# The payload limit (`lib.rs`, `routing.rs`)

`send_to` refuses what is longer than the limit it advertises, and each builder refuses what does not fit its largest
frame.  The two agree up to an MTU of 9001, except for tags that are written in software: their builder takes the four
bytes of the tag off the payload, the advertised limit does not.
-/

namespace DpdkStdlib.Udp
open DpdkStdlib.Lib

/-! ## The limits -/

namespace SocketConfig

def maxUdpPayload (cfg : SocketConfig) : Nat := cfg.mtu.toNat - 28

def maxTunnelPayload (cfg : SocketConfig) (configured : Bool) (overhead : Nat) : Nat :=
  if configured then cfg.maxUdpPayload - overhead else cfg.maxUdpPayload

def maxGuePayload (cfg : SocketConfig) : Nat := cfg.maxTunnelPayload cfg.gue.isSome (20 + 8 + 4)
def maxVxlanPayload (cfg : SocketConfig) : Nat := cfg.maxTunnelPayload cfg.vxlan.isSome (20 + 8 + 8 + 14)
def maxGenevePayload (cfg : SocketConfig) : Nat := cfg.maxTunnelPayload cfg.geneve.isSome (20 + 8 + 8 + 14)

/-- `max_payload`: less the overhead of the first tunnel configured. -/
def maxPayload (cfg : SocketConfig) : Nat :=
  if cfg.vxlan.isSome then cfg.maxUdpPayload - (20 + 8 + 8 + 14)
  else if cfg.geneve.isSome then cfg.maxUdpPayload - (20 + 8 + 8 + 14)
  else if cfg.gue.isSome then cfg.maxUdpPayload - (20 + 8 + 4)
  else cfg.maxUdpPayload

end SocketConfig

inductive SendToError
  /-- `InvalidInput`, with the length, the limit and the MTU in its message. -/
  | payloadTooLarge (len maxPayload mtu : Nat)
  | buildFailed (e : UdpError)
deriving DecidableEq

/-- `send_to_v4` up to the frame in the buffer, for a next hop with the given address. -/
def sendToV4 (cfg : SocketConfig) (scratch : List UInt8) (dstMac : MacAddr) (dstIp : Ipv4Addr) (dstPort : UInt16)
    (buf : List UInt8) : Option (Except SendToError (Option UInt16) × List UInt8) :=
  if buf.length > cfg.maxPayload then
    some (.error (.payloadTooLarge buf.length cfg.maxPayload cfg.mtu.toNat), scratch)
  else do
    let (result, frame) ← buildFrameV4 cfg scratch dstMac dstIp dstPort buf
    return (result.mapError .buildFailed, frame)

/-! ## What a configuration promises -/

namespace SocketConfig

def advertisedPayload (cfg : SocketConfig) : Nat :=
  match cfg.vxlan, cfg.geneve, cfg.gue with
  | some _, _, _ => cfg.maxVxlanPayload
  | none, some _, _ => cfg.maxGenevePayload
  | none, none, some _ => cfg.maxGuePayload
  | none, none, none => cfg.maxUdpPayload

def innerOffset (cfg : SocketConfig) : Option Nat :=
  match cfg.vxlan, cfg.geneve, cfg.gue with
  | some _, _, _ => some (14 + 28 + 8 + 14)
  | none, some _, _ => some (14 + 28 + 8 + 14)
  | none, none, some _ => some (14 + 28 + 4)
  | none, none, none => none

/-- The headers from the outermost IP header to the payload. -/
def headerOverhead (cfg : SocketConfig) : Nat := cfg.innerOffset.elim 28 fun inner => inner - 14 + 28

def tagsInSoftware (cfg : SocketConfig) : Bool :=
  cfg.innerOffset.isNone && cfg.vlan.any fun vlan => vlan.tagsOnTx && !(cfg.hasHwVlanInsert && !vlan.forceSoftware)

def outerOffset (cfg : SocketConfig) : Nat := if cfg.tagsInSoftware then 18 else 14

end SocketConfig

theorem SocketConfig.maxPayload_eq_advertised (cfg : SocketConfig) : cfg.maxPayload = cfg.advertisedPayload := by
  unfold SocketConfig.maxPayload SocketConfig.advertisedPayload
  unfold SocketConfig.maxVxlanPayload SocketConfig.maxGenevePayload SocketConfig.maxGuePayload
  cases cfg.vxlan <;> cases cfg.geneve <;> cases cfg.gue <;> rfl

theorem SocketConfig.headerOverhead_le (cfg : SocketConfig) : cfg.headerOverhead ≤ 78 := by
  unfold SocketConfig.headerOverhead SocketConfig.innerOffset
  split <;> decide

theorem SocketConfig.advertisedPayload_eq (cfg : SocketConfig) :
    cfg.advertisedPayload = cfg.mtu.toNat - cfg.headerOverhead := by
  rw [← cfg.maxPayload_eq_advertised]
  unfold SocketConfig.maxPayload SocketConfig.maxUdpPayload SocketConfig.headerOverhead SocketConfig.innerOffset
  cases cfg.vxlan <;> cases cfg.geneve <;> cases cfg.gue <;> rfl

/-! ## What the builders make -/

/-- A frame with exact packets at the given places, `n` bytes long. -/
def ExactFrame (frame : List UInt8) (places : List Nat) (n : Nat) : Prop :=
  (∀ ip ∈ places, ExactAt frame ip) ∧ frame.length = n

theorem exactFrame_udpFrame (a : UdpFrameArgs Ipv4Addr) (tag : Option UInt16) (hlen : 28 + a.payload.length < 65536) :
    ExactFrame (udpFrame a tag 0) [14 + tag.elim 0 fun _ => 4] ((14 + tag.elim 0 fun _ => 4) + 28 + a.payload.length) := by
  refine ⟨fun ip hip => ?_, ?_⟩
  · rw [List.mem_singleton.1 hip]
    exact exactAt_udpFrame a tag hlen
  · rw [udpFrame, List.length_append, length_ethHeader, length_udpPacket, ← Nat.add_assoc]

theorem exactFrame_of_tunnel {x : Option (Except UdpError Nat × List UInt8)} {a : TunnelFrameArgs Ipv4Addr}
    {header : List UInt8} {macs : Option InnerMacs} {ip : Nat} (hx : x = tunnelFrame outerIpv4 a (tunnelPayload a header macs))
    (hip : ip = 42 + header.length + innerEthLen macs) (hlen : ip - 14 + 28 + a.payload.length < 65536) :
    ∃ tci frame, (x.bind fun built => some (built.1.map fun _ => (none : Option UInt16), built.2)) =
        some (.ok tci, frame) ∧
      ExactFrame frame [14, ip] (ip + 28 + a.payload.length) := by
  have hsize := length_tunnelPayload a header macs
  have hfit : 28 + (tunnelPayload a header macs).length < 65536 := by omega
  obtain ⟨houter, houterLen⟩ := exactFrame_udpFrame (a.outer (tunnelPayload a header macs)) none hfit
  refine ⟨none, _, by rw [hx.trans (if_pos hfit)]; rfl, fun place hplace => ?_, ?_⟩
  · rcases List.mem_pair.1 hplace with rfl | rfl
    · exact houter 14 (List.mem_singleton.2 rfl)
    · rw [hip]
      exact outerIpv4.exactAt_inner a header macs hfit
  · refine houterLen.trans ?_
    change 14 + 28 + (tunnelPayload a header macs).length = _
    omega

section Send

variable (cfg : SocketConfig) (scratch : List UInt8) (dstMac : MacAddr) (dstIp : Ipv4Addr) (dstPort : UInt16)
  (payload : List UInt8)

theorem buildFrameV4_plain (hinner : cfg.innerOffset = none) :
    ∃ plain : UdpFrameArgs Ipv4Addr, plain.payload = payload ∧
      ((cfg.tagsInSoftware = true ∧ ∃ vlan, buildFrameV4 cfg scratch dstMac dstIp dstPort payload =
          (buildUdpFrameIntoVlan scratch plain vlan).bind fun built => some (built.1.map fun _ => none, built.2)) ∨
        (cfg.tagsInSoftware = false ∧ ∃ tci, buildFrameV4 cfg scratch dstMac dstIp dstPort payload =
          (buildUdpFrameInto scratch plain).bind fun built => some (built.1.map fun _ => tci, built.2))) := by
  refine ⟨{ srcMac := cfg.mac, dstMac, srcIp := cfg.srcV4.1, dstIp, srcPort := cfg.srcV4.2, dstPort, payload
            ttl := cfg.ttl }, rfl, ?_⟩
  unfold buildFrameV4 SocketConfig.tagsInSoftware
  rw [hinner]
  unfold SocketConfig.innerOffset at hinner
  generalize cfg.vxlan = vxlan at hinner ⊢
  generalize cfg.geneve = geneve at hinner ⊢
  generalize cfg.gue = gue at hinner ⊢
  obtain rfl : vxlan = none := by cases vxlan with | none => rfl | some v => cases hinner
  obtain rfl : geneve = none := by cases geneve with | none => rfl | some g => cases hinner
  obtain rfl : gue = none := by cases gue with | none => rfl | some g => cases hinner
  dsimp only [Option.isNone_none, Bool.true_and]
  cases cfg.vlan with
  | none => exact Or.inr ⟨rfl, none, rfl⟩
  | some vlan =>
    rw [Option.any_some]
    cases htx : vlan.tagsOnTx with
    | false =>
      rw [Option.filter_some_neg htx]
      exact Or.inr ⟨rfl, none, rfl⟩
    | true =>
      rw [Option.filter_some_pos htx]
      dsimp only
      cases hhw : (cfg.hasHwVlanInsert && !vlan.forceSoftware) with
      | true => exact Or.inr ⟨rfl, some vlan.encodeTci, if_pos rfl⟩
      | false => exact Or.inl ⟨rfl, vlan, if_neg Bool.false_ne_true⟩

theorem buildFrameV4_exact (hfit : cfg.headerOverhead + payload.length ≤ 9001)
    (htag : cfg.tagsInSoftware → payload.length ≤ 9015 - 46) :
    ∃ tci frame, buildFrameV4 cfg scratch dstMac dstIp dstPort payload = some (.ok tci, frame) ∧
      ExactFrame frame (cfg.outerOffset :: cfg.innerOffset.toList)
        (cfg.outerOffset + cfg.headerOverhead + payload.length) := by
  unfold SocketConfig.outerOffset
  unfold SocketConfig.headerOverhead at hfit ⊢
  cases hinner : cfg.innerOffset with
  | none =>
    rw [hinner] at hfit
    dsimp only [Option.elim_none] at hfit ⊢
    obtain ⟨plain, rfl, ⟨hsoft, vlan, hbuild⟩ | ⟨hsoft, tci, hbuild⟩⟩ :=
      buildFrameV4_plain cfg scratch dstMac dstIp dstPort payload hinner
    · rw [hbuild, buildUdpFrameIntoVlan_eq scratch vlan (htag hsoft), if_pos hsoft]
      exact ⟨none, _, rfl, exactFrame_udpFrame plain (some vlan.encodeTci) (by omega)⟩
    · rw [hbuild, buildUdpFrameInto_eq scratch (by omega), hsoft]
      exact ⟨tci, _, rfl, exactFrame_udpFrame plain none (by omega)⟩
  | some ip =>
    have hsoft : cfg.tagsInSoftware = false := by rw [SocketConfig.tagsInSoftware, hinner]; rfl
    rw [hinner] at hfit
    rw [hsoft]
    dsimp only [Option.elim_some] at hfit ⊢
    unfold SocketConfig.innerOffset at hinner
    unfold buildFrameV4
    generalize cfg.vxlan = vxlan at hinner ⊢
    generalize cfg.geneve = geneve at hinner ⊢
    generalize cfg.gue = gue at hinner ⊢
    dsimp only
    cases vxlan with
    | some v =>
      cases hinner
      exact exactFrame_of_tunnel (buildVxlanFrameInto_eq ..) rfl (by dsimp only; omega)
    | none =>
    cases geneve with
    | some g =>
      cases hinner
      exact exactFrame_of_tunnel (buildGeneveFrameInto_eq _ _ (GeneveHeader.consistent_new _) _) rfl
        (by dsimp only; omega)
    | none =>
    cases gue with
    | some g =>
      cases hinner
      exact exactFrame_of_tunnel (buildGueFrameInto_eq ..) rfl (by dsimp only; omega)
    | none => cases hinner

theorem buildFrameV4_refuses (htag : cfg.tagsInSoftware) (hlen : 9015 - 46 < payload.length) :
    ∃ frame, buildFrameV4 cfg scratch dstMac dstIp dstPort payload =
      some (.error (.payloadTooLarge (9015 - 46) payload.length), frame) := by
  have hinner : cfg.innerOffset = none := Option.isNone_iff_eq_none.1 (Bool.and_eq_true_iff.1 htag).1
  obtain ⟨plain, rfl, ⟨-, vlan, hbuild⟩ | ⟨hsoft, -⟩⟩ :=
    buildFrameV4_plain cfg scratch dstMac dstIp dstPort payload hinner
  · rw [hbuild, buildUdpFrameIntoVlan, if_pos hlen]
    exact ⟨_, rfl⟩
  · exact absurd (htag.symm.trans hsoft) (by decide)

/-- **One payload limit.** Up to an MTU of 9001 a payload is accepted exactly if it is no longer than the advertised limit,
unless the socket writes VLAN tags itself and it is one of the last four lengths; the lengths in an accepted frame are
exact, and its packet is no longer than the MTU if the headers are not. -/
theorem payload_limit_iff (hmtu : cfg.mtu.toNat ≤ 9001) :
    ∃ result frame, sendToV4 cfg scratch dstMac dstIp dstPort payload = some (result, frame) ∧
      ((result.isOk ↔ payload.length ≤ cfg.advertisedPayload) ↔
        (cfg.tagsInSoftware → payload.length ≤ 8969 ∨ cfg.advertisedPayload < payload.length)) ∧
      (result.isOk → (∀ ip ∈ cfg.outerOffset :: cfg.innerOffset.toList, ExactAt frame ip) ∧
        (cfg.headerOverhead ≤ cfg.mtu.toNat → frame.length - cfg.outerOffset ≤ cfg.mtu.toNat)) := by
  have hlimit := cfg.advertisedPayload_eq
  unfold sendToV4
  rw [cfg.maxPayload_eq_advertised]
  split_ifs with htoo
  · refine ⟨_, _, rfl, iff_of_true ?_ fun _ => .inr htoo, nofun⟩
    exact iff_of_false Bool.false_ne_true (Nat.not_le.2 htoo)
  by_cases htag : cfg.tagsInSoftware → payload.length ≤ 9015 - 46
  · -- an MTU below the headers leaves the empty payload, which fits all the same
    have hheaders : cfg.headerOverhead ≤ 78 := cfg.headerOverhead_le
    obtain ⟨tci, frame, hbuild, hexact, hsize⟩ :=
      buildFrameV4_exact cfg scratch dstMac dstIp dstPort payload (by omega) htag
    rw [hbuild]
    refine ⟨_, _, rfl, iff_of_true (iff_of_true rfl (Nat.not_lt.1 htoo)) fun h => .inl (htag h), fun _ => ⟨hexact, ?_⟩⟩
    intro hmin
    omega
  · rw [Classical.not_imp] at htag
    obtain ⟨frame, hbuild⟩ :=
      buildFrameV4_refuses cfg scratch dstMac dstIp dstPort payload htag.1 (Nat.not_le.1 htag.2)
    rw [hbuild]
    refine ⟨_, _, rfl, iff_of_false (fun h => absurd (h.2 (Nat.not_lt.1 htoo)) Bool.false_ne_true) fun h => ?_, nofun⟩
    rcases h htag.1 with h | h
    · exact htag.2 h
    · exact htoo h

end Send

/-! ## A jumbo frame -/

def limitConfig (mtu : UInt16) (vlan : Option VlanConfig) : SocketConfig :=
  { localAddr := .v4 ⟨10, 0, 0, 1⟩ 5000, mac := sampleMac 1, mtu, vlan }

def sendZeros (cfg : SocketConfig) (n : Nat) : Option (Except SendToError (Option UInt16) × List UInt8) :=
  sendToV4 cfg [] (Vector.replicate 6 2) ⟨10, 0, 0, 2⟩ 7 (List.replicate n 0)

/-- With an MTU of 1500 and no tags, 1472 bytes are accepted. -/
theorem payload_limit_default :
    ∃ result frame, sendZeros (limitConfig 1500 none) 1472 = some (result, frame) ∧ result.isOk := by
  obtain ⟨result, frame, hsend, hok, -⟩ :=
    payload_limit_iff (limitConfig 1500 none) [] (Vector.replicate 6 2) ⟨10, 0, 0, 2⟩ 7 (List.replicate 1472 0) (by decide)
  rw [List.length_replicate] at hok
  exact ⟨result, frame, hsend, (hok.2 nofun).2 (by decide)⟩

/-- **A refused payload.** With an MTU of 9001 a socket that tags its frames advertises 8973 bytes, and refuses them. -/
theorem tagged_jumbo_refused : (limitConfig 9001 (some { vlanId := 100 })).advertisedPayload = 8973 ∧
    ∃ frame, sendZeros (limitConfig 9001 (some { vlanId := 100 })) 8973 =
      some (.error (.buildFailed (.payloadTooLarge 8969 8973)), frame) := by
  refine ⟨by decide, ?_⟩
  obtain ⟨frame, hbuild⟩ := buildFrameV4_refuses (limitConfig 9001 (some { vlanId := 100 })) [] (Vector.replicate 6 2)
    ⟨10, 0, 0, 2⟩ 7 (List.replicate 8973 0) (by decide) (by rw [List.length_replicate]; decide)
  rw [sendZeros, sendToV4, if_neg (by rw [List.length_replicate]; decide), hbuild, List.length_replicate]
  exact ⟨frame, rfl⟩

end DpdkStdlib.Udp
