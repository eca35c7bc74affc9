import DpdkStdlib.Udp.Account

/-!
# Receiving while an address is resolved

A send that waits for ARP polls the card with a dispatcher of its own.  It knows untagged ARP and UDP over IPv4, and
checks no more than the parser does, so what it makes of a frame is what the receive calls make of it for ordinary frames
alone.
-/

namespace DpdkStdlib.Udp
open DpdkStdlib.Lib

/-! ## One frame -/

/-- What of an effect the application or the peer can see. -/
structure Visible where
  reply : Option (List UInt8)
  error : Option IoError
  datagram : Option Datagram
deriving DecidableEq

def FrameEffect.visible (effect : FrameEffect) : Visible := ⟨effect.reply, effect.error, effect.datagram⟩

def Visible.none : Visible := ⟨.none, .none, .none⟩

/-- What the dispatcher checks of a UDP packet over IPv4 and `resolve_arp` does not: tunnels, checksums, the port and
`only_v6`. -/
def SameDatagram (cfg : SocketConfig) (onlyV6 : Bool) (a : Arrival) (layout : FrameLayout)
    (parsed : ParsedUdpPacketRef Ipv4Addr) : Prop :=
  (∀ inner ∈ cfg.decapsulate layout a.data, inner.innerDstPort = cfg.localPort ∧ inner.payload = parsed.payload ∧
      inner.innerSrcIp = parsed.srcIp ∧ inner.innerSrcPort = parsed.srcPort) ∧
  (cfg.decapsulate layout a.data = .none →
    onlyV6 = false ∧ ipv4ChecksumOk a.data ∧ udpChecksumOk a.data ∧ parsed.dstPort = cfg.localPort)
deriving Decidable

/-- A frame that passes the VLAN filter and is untagged ARP, or untagged UDP over IPv4 for the socket. -/
def Ordinary (cfg : SocketConfig) (onlyV6 : Bool) (a : Arrival) : Prop :=
  ∃ layout ∈ layoutOf a.data a.hwVlanTci, cfg.acceptsVlan layout ∧
    (be16At a.data 12 = 0x0806 ∨
      be16At a.data 12 = 0x0800 ∧ ∃ parsed ∈ udpViewRef a.data, SameDatagram cfg onlyV6 a layout parsed)
deriving Decidable

section ignored
variable (cfg : SocketConfig) (onlyV6 : Bool) (a : Arrival) (layout : FrameLayout)

/-- An ARP packet that does not ask for an address of the host. -/
def AsksNothing : Prop := ∀ arp ∈ parseArpPacket a.data, ¬ (arp.isRequest ∧ arp.targetIp ∈ cfg.handler4.localIps)

/-- The port that an ICMP error has to name; an IPv6 socket has none. -/
def icmpPort : UInt16 := if cfg.localAddr.isIpv6 then 0 else cfg.localPort

/-- A ping that is not to be answered, an error about a packet from another port, or a message for another host. -/
def IcmpIgnored {Ip : Type} (port : UInt16) : Option (IcmpAction Ip) → Prop
  | some (.reply _) => cfg.autoIcmp = false
  | some (.error info) => info.originalSrcPort ≠ port
  | none => True

/-- No UDP packet over IPv6, or one with a wrong checksum, or for another port. -/
def Udp6Ignored : Prop := ∀ parsed ∈ udp6ViewRef a.data, udp6ChecksumOk a.data → parsed.dstPort ≠ cfg.localPort

/-- A UDP packet for another port, in a tunnel or not, or with a wrong checksum, or none. -/
def UdpIgnored : Prop :=
  match cfg.decapsulate layout a.data with
  | some inner => inner.innerDstPort ≠ cfg.localPort
  | none =>
    if onlyV6 then Udp6Ignored cfg a
    else
      match udpViewRef a.data with
      | some parsed => ipv4ChecksumOk a.data → udpChecksumOk a.data → parsed.dstPort ≠ cfg.localPort
      | none => Udp6Ignored cfg a

/-- Nothing in a frame that passes the VLAN filter is for the socket, by what the frame holds. -/
def NotForSocket : Prop :=
  if layout.ethertype = 0x0806 ∧ cfg.autoArp then AsksNothing cfg a
  else if layout.ethertype = 0x0800 ∧ a.data.length > layout.l3Offset + 9 ∧
      byteAt a.data (layout.l3Offset + 9) = 1 then
    IcmpIgnored cfg (icmpPort cfg) (cfg.handler4.processIcmpFull a.data)
  else if layout.ethertype = 0x86DD ∧ cfg.autoArp ∧ a.data.length > 14 + 40 ∧ byteAt a.data (14 + 6) = 58 ∧
      (byteAt a.data (14 + 40) = 135 ∨ byteAt a.data (14 + 40) = 136) then
    ∀ pkt ∈ parseNdpPacket a.data, pkt.icmpType = 135 → pkt.target ∉ cfg.handler6.localIps
  else if layout.ethertype = 0x86DD ∧ a.data.length > layout.l3Offset + 40 ∧
      (upperLayer (a.data.drop layout.l3Offset)).any (·.protocol = 58) then
    IcmpIgnored cfg cfg.localPort (cfg.handler6.processIcmpv6Full a.data)
  else UdpIgnored cfg onlyV6 a layout

/-- A frame that is not for the socket, and is neither ARP for the host nor untagged UDP over IPv4. -/
def Ignored : Prop :=
  (∀ layout ∈ layoutOf a.data a.hwVlanTci, cfg.acceptsVlan layout → NotForSocket cfg onlyV6 a layout) ∧
  (be16At a.data 12 = 0x0806 → AsksNothing cfg a) ∧ (be16At a.data 12 = 0x0800 → udpViewRef a.data = none)

end ignored

section frame
variable {cfg : SocketConfig} {onlyV6 : Bool} {a : Arrival} {layout : FrameLayout}

theorem dispatch_udp4 {parsed : ParsedUdpPacketRef Ipv4Addr} (hlayout : layoutOf a.data a.hwVlanTci = some layout)
    (hvlan : cfg.acceptsVlan layout) (hparsed : udpViewRef a.data = some parsed) :
    dispatch cfg onlyV6 a = match cfg.decapsulate layout a.data with
      | some decap => tunnelEffect cfg a decap
      | none => plainEffect cfg onlyV6 a := by
  obtain ⟨layout', hlayout', hip, -⟩ := udpViewRef_spec hparsed
  have hl3 : layout.ethertype = 0x0800 ∧ byteAt a.data (layout.l3Offset + 9) = 17 := by
    obtain ⟨layout'', hlayout'', heth, hoffset⟩ := layoutOf_none hlayout
    obtain rfl := Option.some.inj (hlayout''.symm.trans hlayout')
    exact ⟨heth ▸ hip.2.1, hoffset ▸ hip.2.2.2.2⟩
  unfold dispatch
  rw [hlayout]
  dsimp only
  have hnot6 : layout.ethertype ≠ 0x86DD := by rw [hl3.1]; decide
  refine (if_neg (by simp [hvlan])).trans ((if_neg (by rw [hl3.1]; exact fun h => absurd h.1 (by decide))).trans
    ((if_neg (by rw [hl3.2]; exact fun h => absurd h.2.2 (by decide))).trans ((if_neg fun h => hnot6 h.1).trans
      ((if_neg fun h => hnot6 h.1).trans ?_))))
  rfl

theorem dispatch_accepted (h : (dispatch cfg onlyV6 a).visible ≠ .none) :
    ∃ layout, layoutOf a.data a.hwVlanTci = some layout ∧ cfg.acceptsVlan layout := by
  cases hlayout : layoutOf a.data a.hwVlanTci with
  | none =>
    rw [dispatch, hlayout] at h
    exact absurd rfl h
  | some layout =>
    refine ⟨layout, rfl, ?_⟩
    by_contra hrefused
    rw [dispatch_filtered hlayout hrefused] at h
    exact h rfl

theorem resolveEffect_udp4 {parsed : ParsedUdpPacketRef Ipv4Addr} (heth : be16At a.data 12 = 0x0800)
    (hparsed : udpViewRef a.data = some parsed) :
    (resolveEffect cfg a).visible = ⟨none, none, some ⟨parsed.payload, .v4 parsed.srcIp parsed.srcPort, a⟩⟩ := by
  obtain ⟨p, hp, hpayload, hip, hport⟩ := udpView_of_udpViewRef hparsed
  obtain ⟨layout, hlayout, -⟩ := udpViewRef_spec hparsed
  have hlen := (layoutOf_untagged hlayout (by rw [heth]; decide)).2
  unfold resolveEffect
  rw [if_neg (by omega), if_neg (by rw [heth]; decide), if_pos heth, hp]
  dsimp only [FrameEffect.visible]
  rw [hpayload, hip, hport]

theorem resolveEffect_arp (hlen : 14 ≤ a.data.length) (heth : be16At a.data 12 = 0x0806) :
    (resolveEffect cfg a).visible = ⟨(cfg.handler4.processArp a.data).2, none, none⟩ := by
  unfold resolveEffect
  rw [if_neg (by omega), if_pos heth]
  rfl

theorem resolveEffect_visible_cases (h : (resolveEffect cfg a).visible ≠ .none) :
    be16At a.data 12 = 0x0806 ∧ (cfg.handler4.processArp a.data).2.isSome ∨
      be16At a.data 12 = 0x0800 ∧ ∃ parsed, udpViewRef a.data = some parsed := by
  unfold resolveEffect at h
  by_cases hlen : a.data.length < 14
  · rw [if_pos hlen] at h
    exact absurd rfl h
  rw [if_neg hlen] at h
  by_cases harp : be16At a.data 12 = 0x0806
  · rw [if_pos harp] at h
    refine .inl ⟨harp, Option.isSome_iff_ne_none.2 fun hnone => h ?_⟩
    simp [FrameEffect.visible, Visible.none, hnone]
  rw [if_neg harp] at h
  by_cases hip : be16At a.data 12 = 0x0800
  · rw [if_pos hip] at h
    cases hview : udpView a.data with
    | none =>
      rw [hview] at h
      exact absurd rfl h
    | some parsed => exact .inr ⟨hip, (udpViewRef_of_udpView hview).elim fun _ h => ⟨_, h⟩⟩
  · rw [if_neg hip] at h
    exact absurd rfl h

theorem dispatch_visible_udp4_iff {parsed : ParsedUdpPacketRef Ipv4Addr}
    (hlayout : layoutOf a.data a.hwVlanTci = some layout) (hvlan : cfg.acceptsVlan layout)
    (hparsed : udpViewRef a.data = some parsed) :
    (dispatch cfg onlyV6 a).visible = ⟨none, none, some ⟨parsed.payload, .v4 parsed.srcIp parsed.srcPort, a⟩⟩ ↔
      SameDatagram cfg onlyV6 a layout parsed := by
  rw [dispatch_udp4 hlayout hvlan hparsed, SameDatagram]
  cases cfg.decapsulate layout a.data with
  | some inner =>
    dsimp only [tunnelEffect, FrameEffect.visible, SocketConfig.forPort]
    by_cases hport : inner.innerDstPort = cfg.localPort
    · simp [hport]
    · simp [hport]
  | none =>
    dsimp only [plainEffect]
    cases onlyV6 with
    | true =>
      refine ⟨fun h => ?_, fun h => absurd (h.2 rfl).1 (by decide)⟩
      obtain ⟨_, -, -, -, hd⟩ := udp6Effect_datagram (congrArg Visible.datagram h)
      simp at hd
    | false =>
      rw [if_neg (by simp), hparsed]
      dsimp only [udpEffect]
      by_cases hip : ipv4ChecksumOk a.data
      · by_cases hudp : udpChecksumOk a.data
        · rw [if_neg (not_not.2 hip), if_neg (not_not.2 hudp)]
          dsimp only [FrameEffect.visible, SocketConfig.forPort]
          by_cases hport : parsed.dstPort = cfg.localPort
          · simp [hport, hip, hudp]
          · simp [hport]
        · rw [if_neg (not_not.2 hip), if_pos hudp]
          simp [FrameEffect.visible, hudp]
      · rw [if_pos hip]
        simp [FrameEffect.visible, hip]

theorem processArp_reply_iff : (cfg.handler4.processArp a.data).2 = none ↔ AsksNothing cfg a := by
  unfold Handler.processArp AsksNothing
  cases parseArpPacket a.data with
  | none => simp
  | some arp => simp

theorem icmpEffect_visible_iff : (icmpEffect cfg a.data).visible = .none ↔
    IcmpIgnored cfg (icmpPort cfg) (cfg.handler4.processIcmpFull a.data) := by
  unfold icmpEffect
  cases cfg.handler4.processIcmpFull a.data with
  | none => simp [IcmpIgnored, FrameEffect.visible, Visible.none]
  | some action =>
    cases action with
    | reply => simp [IcmpIgnored, FrameEffect.visible, Visible.none]
    | error => cases haddr : cfg.localAddr <;>
        simp [IcmpIgnored, FrameEffect.visible, Visible.none, icmpPort, SocketConfig.localPort, SocketAddr.isIpv6,
          SocketAddr.port, haddr]

theorem icmpv6Effect_visible_iff : (icmpv6Effect cfg a.data).visible = .none ↔
    IcmpIgnored cfg cfg.localPort (cfg.handler6.processIcmpv6Full a.data) := by
  unfold icmpv6Effect
  cases cfg.handler6.processIcmpv6Full a.data with
  | none => simp [IcmpIgnored, FrameEffect.visible, Visible.none]
  | some action => cases action <;> simp [IcmpIgnored, FrameEffect.visible, Visible.none]

theorem udp6Effect_visible_iff : (udp6Effect cfg a).visible = .none ↔ Udp6Ignored cfg a := by
  unfold udp6Effect Udp6Ignored
  cases udp6ViewRef a.data with
  | none => simp [FrameEffect.visible, Visible.none]
  | some parsed => by_cases hudp : udp6ChecksumOk a.data <;>
      simp [hudp, FrameEffect.visible, Visible.none, SocketConfig.forPort]

theorem plainEffect_visible_iff (hdecap : cfg.decapsulate layout a.data = none) :
    (plainEffect cfg onlyV6 a).visible = .none ↔ UdpIgnored cfg onlyV6 a layout := by
  unfold plainEffect UdpIgnored
  rw [hdecap]
  dsimp only
  split_ifs
  · exact udp6Effect_visible_iff
  · cases udpViewRef a.data with
    | none => exact udp6Effect_visible_iff
    | some parsed =>
      dsimp only [udpEffect]
      by_cases hip : ipv4ChecksumOk a.data <;> by_cases hudp : udpChecksumOk a.data <;>
        simp [hip, hudp, FrameEffect.visible, Visible.none, SocketConfig.forPort]

theorem dispatch_visible_none_iff (hlayout : layoutOf a.data a.hwVlanTci = some layout)
    (hvlan : cfg.acceptsVlan layout) :
    (dispatch cfg onlyV6 a).visible = .none ↔ NotForSocket cfg onlyV6 a layout := by
  unfold dispatch NotForSocket
  rw [hlayout]
  dsimp only
  rw [if_neg (by simp [hvlan])]
  split_ifs
  · rw [← processArp_reply_iff]
    simp [FrameEffect.visible, Visible.none]
  · exact icmpEffect_visible_iff
  · unfold Handler.processNdp
    cases parseNdpPacket a.data with
    | none => simp [FrameEffect.visible, Visible.none]
    | some pkt =>
      by_cases hsolicitation : pkt.icmpType = 135
      · simp [hsolicitation, FrameEffect.visible, Visible.none]
      · by_cases hadvert : pkt.icmpType = 136 <;> simp [hsolicitation, hadvert, FrameEffect.visible, Visible.none]
  · exact icmpv6Effect_visible_iff
  · cases hdecap : cfg.decapsulate layout a.data with
    | some inner => simp [UdpIgnored, hdecap, tunnelEffect, FrameEffect.visible, Visible.none, SocketConfig.forPort]
    | none => exact plainEffect_visible_iff hdecap

theorem resolveEffect_visible_none_iff : (resolveEffect cfg a).visible = .none ↔
    (be16At a.data 12 = 0x0806 → AsksNothing cfg a) ∧ (be16At a.data 12 = 0x0800 → udpViewRef a.data = none) := by
  constructor
  · intro hnone
    refine ⟨fun harp => ?_, fun hip => ?_⟩
    · intro arp hparsed
      have hlen : 14 ≤ a.data.length := by
        by_contra hshort
        rw [parseArpPacket, if_pos (by omega)] at hparsed
        cases hparsed
      rw [resolveEffect_arp hlen harp] at hnone
      exact processArp_reply_iff.1 (congrArg Visible.reply hnone) arp hparsed
    · cases hparsed : udpViewRef a.data with
      | none => rfl
      | some parsed =>
        rw [resolveEffect_udp4 hip hparsed] at hnone
        cases congrArg Visible.datagram hnone
  · rintro ⟨harp, hip⟩
    by_contra hvisible
    rcases resolveEffect_visible_cases hvisible with ⟨heth, hreply⟩ | ⟨heth, parsed, hparsed⟩
    · rw [processArp_reply_iff.2 (harp heth)] at hreply
      cases hreply
    · rw [hip heth] at hparsed
      cases hparsed

/-- A frame is ignored exactly if neither dispatcher has anything to show for it. -/
theorem ignored_iff : Ignored cfg onlyV6 a ↔
    (dispatch cfg onlyV6 a).visible = .none ∧ (resolveEffect cfg a).visible = .none := by
  rw [Ignored, resolveEffect_visible_none_iff]
  refine and_congr_left fun _ => ⟨fun h => ?_, fun h layout hlayout hvlan => ?_⟩
  · by_contra hvisible
    obtain ⟨layout, hlayout, hvlan⟩ := dispatch_accepted hvisible
    exact hvisible ((dispatch_visible_none_iff hlayout hvlan).2 (h layout hlayout hvlan))
  · exact (dispatch_visible_none_iff hlayout hvlan).1 h

instance : Decidable (Ignored cfg onlyV6 a) := decidable_of_iff _ ignored_iff.symm

/-- **Where the two dispatchers agree.** -/
theorem visible_resolveEffect_iff (hauto : cfg.autoArp) :
    (resolveEffect cfg a).visible = (dispatch cfg onlyV6 a).visible ↔ Ordinary cfg onlyV6 a ∨ Ignored cfg onlyV6 a := by
  rw [ignored_iff]
  constructor
  · intro heq
    by_cases hnone : (resolveEffect cfg a).visible = .none
    · exact .inr ⟨heq ▸ hnone, hnone⟩
    obtain ⟨layout, hlayout, hvlan⟩ := dispatch_accepted (heq ▸ hnone)
    refine .inl ⟨layout, hlayout, hvlan, ?_⟩
    rcases resolveEffect_visible_cases hnone with ⟨harp, -⟩ | ⟨hip, parsed, hparsed⟩
    · exact .inl harp
    · rw [resolveEffect_udp4 hip hparsed] at heq
      exact .inr ⟨hip, parsed, hparsed, (dispatch_visible_udp4_iff hlayout hvlan hparsed).1 heq.symm⟩
  · rintro (⟨layout, hlayout, hvlan, harp | ⟨hip, parsed, hparsed, hsame⟩⟩ | ⟨hdispatch, hresolve⟩)
    · obtain ⟨rfl, hlen⟩ := layoutOf_untagged hlayout (by rw [harp]; decide)
      rw [resolveEffect_arp hlen harp, dispatch_arp hlayout hvlan harp hauto]
      rfl
    · rw [resolveEffect_udp4 hip hparsed, (dispatch_visible_udp4_iff hlayout hvlan hparsed).2 hsame]
    · rw [hresolve, hdispatch]

end frame

/-! ## Polls -/

def SocketState.resolveEffectsOf (cfg : SocketConfig) (st : SocketState) (bursts : List Burst) : List FrameEffect :=
  (bursts.flatMap (·.frames)).map fun frame => resolveEffect cfg ⟨frame, st.connects⟩

/-- `resolve_arp` has taken frames with these effects, and has put everything into the queue. -/
def Poll.Resolving (st : SocketState) (effects : List FrameEffect) (p : Poll) : Prop :=
  p.Accounts 0 st effects (effects.filterMap (·.datagram)) ∧ p.result = none

section polls
variable {cfg : SocketConfig} {st : SocketState} {effects : List FrameEffect} {p : Poll}

theorem Poll.Resolving.frame (h : p.Resolving st effects) (now : Instant) (frame : RxFrame) :
    (resolveFrame cfg now p frame).Resolving st (effects ++ [resolveEffect cfg ⟨frame, st.connects⟩]) := by
  have hconnects : p.sock.connects = st.connects := congrArg Mode.connects h.1.mode
  unfold resolveFrame
  dsimp only
  rw [hconnects, Poll.Resolving, List.filterMap_append, filterMap_cons_toList, List.filterMap_nil, List.append_nil]
  have hlearn := h.1.learn now (resolveEffect cfg ⟨frame, st.connects⟩)
  cases hdatagram : (resolveEffect cfg ⟨frame, st.connects⟩).datagram with
  | none => exact ⟨by simpa using hlearn, h.2⟩
  | some d => exact ⟨hlearn.enqueue d, h.2⟩

theorem Poll.Resolving.burst (h : p.Resolving st effects) (cfg : SocketConfig) (burst : Burst) :
    (resolvePoll cfg p burst).Resolving st (effects ++ st.resolveEffectsOf cfg [burst]) := by
  have hfold : ∀ (frames : List RxFrame) (p : Poll) (effects : List FrameEffect), p.Resolving st effects →
      (frames.foldl (resolveFrame cfg burst.now) p).Resolving st
        (effects ++ frames.map fun frame => resolveEffect cfg ⟨frame, st.connects⟩) := by
    intro frames
    induction frames with
    | nil => exact fun p effects h => by simpa using h
    | cons frame frames ih =>
      intro p effects h
      rw [List.map_cons, List.append_cons]
      exact ih _ _ (h.frame burst.now frame)
  simpa [SocketState.resolveEffectsOf, resolvePoll] using hfold burst.frames p effects h

theorem resolvePolls_resolving (cfg : SocketConfig) (targetIp : Ipv4Addr) (polls : Nat) (wire : List Burst)
    (h : p.Resolving st effects) :
    ∃ polled, wire = polled ++ (resolvePolls cfg targetIp polls p wire).2.2 ∧
      (resolvePolls cfg targetIp polls p wire).2.1.Resolving st (effects ++ st.resolveEffectsOf cfg polled) := by
  induction polls generalizing p wire effects with
  | zero => exact ⟨[], rfl, by simpa [SocketState.resolveEffectsOf, resolvePolls] using h⟩
  | succ polls ih =>
    cases wire with
    | nil => exact ⟨[], rfl, by simpa [SocketState.resolveEffectsOf, resolvePolls] using h⟩
    | cons burst wire =>
      rw [resolvePolls]
      have hburst := h.burst cfg burst
      cases resolve (resolvePoll cfg p burst).sock.arpCache burst.now targetIp with
      | some mac => exact ⟨[burst], rfl, hburst⟩
      | none =>
        obtain ⟨polled, hwire, hpolls⟩ := ih wire hburst
        refine ⟨burst :: polled, congrArg (burst :: ·) hwire, ?_⟩
        simpa [SocketState.resolveEffectsOf] using hpolls

theorem Poll.Resolving.request (h : p.Resolving st effects) (arpFrame : List UInt8) :
    Poll.Resolving st (effects ++ [{ reply := some arpFrame }]) { p with replies := p.replies ++ [arpFrame] } := by
  obtain ⟨haccounts, hnone⟩ := h
  refine ⟨⟨haccounts.mode, ?_, ?_, ?_, haccounts.drops, ?_, haccounts.balance⟩, hnone⟩
  · rw [haccounts.replies, List.filterMap_append]
    rfl
  · rw [List.filterMap_append]
    exact haccounts.errors.trans (congrArg (List.foldl pushError _) (List.append_nil _).symm)
  · rw [List.filterMap_append]
    exact haccounts.taken.trans (List.append_nil _).symm
  · rw [List.filterMap_append]
    intro more hmore
    exact haccounts.room more ((List.append_nil (effects.filterMap (·.datagram))) ▸ hmore)

/-- What others see of attempts: each sends the request and answers what it polls. -/
def SocketState.attemptEffects (cfg : SocketConfig) (st : SocketState) (arpFrame : List UInt8)
    (attempts : List (List Burst)) : List FrameEffect :=
  attempts.flatMap fun polled => { reply := some arpFrame } :: st.resolveEffectsOf cfg polled

/-- The attempts take in every burst they poll. -/
theorem resolveAttempts_resolving (targetIp : Ipv4Addr) (arpFrame : List UInt8) (n : Nat) (wire : List Burst)
    (h : p.Resolving st effects) :
    ∃ attempts, wire = attempts.flatten ++ (resolveAttempts cfg targetIp arpFrame n p wire).2.2 ∧
      (resolveAttempts cfg targetIp arpFrame n p wire).2.1.Resolving st
        (effects ++ st.attemptEffects cfg arpFrame attempts) := by
  induction n generalizing p wire effects with
  | zero => exact ⟨[], rfl, by simpa [SocketState.attemptEffects, resolveAttempts] using h⟩
  | succ n ih =>
    rw [resolveAttempts]
    obtain ⟨polled, hwire, hpolls⟩ := resolvePolls_resolving cfg targetIp 10000 wire (h.request arpFrame)
    split
    · next mac p' wire' heq =>
      rw [heq] at hwire hpolls
      exact ⟨[polled], by simpa using hwire, by simpa [SocketState.attemptEffects] using hpolls⟩
    · next p' wire' heq =>
      rw [heq] at hwire hpolls
      obtain ⟨attempts, hwire', hattempts⟩ := ih wire' hpolls
      refine ⟨polled :: attempts, ?_, ?_⟩
      · rw [List.flatten_cons, List.append_assoc, ← hwire']
        exact hwire
      · simpa [SocketState.attemptEffects] using hattempts

def SocketConfig.arpRequest (cfg : SocketConfig) (targetIp : Ipv4Addr) : List UInt8 :=
  buildArpRequest cfg.mac cfg.localIpv4 targetIp

/-- **What `resolve_arp` does with the bursts it polls.** -/
theorem resolveArp_resolving (cfg : SocketConfig) (dstMac : MacAddr) (targetIp : Ipv4Addr) (st : SocketState)
    (wire : List Burst) :
    ∃ attempts, wire = attempts.flatten ++ (resolveArp cfg dstMac targetIp st wire).2.2 ∧
      (resolveArp cfg dstMac targetIp st wire).2.1.Resolving st
        (st.attemptEffects cfg (cfg.arpRequest targetIp) attempts) :=
  resolveAttempts_resolving targetIp (cfg.arpRequest targetIp) 3 wire ⟨Poll.accounts_start 0 st, rfl⟩

end polls

/-! ## The same as receiving -/

/-- The frames of the bursts are ordinary or ignored, and hold no datagram from elsewhere than the peer. -/
def SocketState.Unremarkable (cfg : SocketConfig) (st : SocketState) (bursts : List Burst) : Prop :=
  ∀ burst ∈ bursts, ∀ frame ∈ burst.frames,
    (Ordinary cfg st.onlyV6 ⟨frame, st.connects⟩ ∨ Ignored cfg st.onlyV6 ⟨frame, st.connects⟩) ∧ st.Welcome cfg frame
deriving Decidable

/-- Resolving has left the socket as the receive calls of the receipts leave it, in datagrams, errors and replies, its
own requests apart. -/
structure Poll.SameAs (request : List UInt8) (s : SocketState) (receipts : List Receipt) (p : Poll) : Prop where
  datagrams : ∃ delivered,
    List.Forall₂ (fun receipt d => receipt.result = some (d.cut receipt.call.room))
      (receipts.filter (·.result.isSome)) delivered ∧
    p.sock.queue.packets = delivered ++ s.queue.packets
  errors : p.sock.pendingErrors = s.pendingErrors
  drops : p.sock.recvDrops = s.recvDrops
  mode : p.sock.mode = s.mode
  replies : ∃ replies : List (List (List UInt8)),
    p.replies = replies.flatMap (request :: ·) ∧ receipts.flatMap (·.replies) = replies.flatten

section same
variable {cfg : SocketConfig} {st : SocketState} {bursts : List Burst}

theorem visible_of_unremarkable (hauto : cfg.autoArp) (h : st.Unremarkable cfg bursts) :
    (st.resolveEffectsOf cfg bursts).map (·.visible) = (st.effectsOf cfg bursts).map (·.visible) := by
  rw [SocketState.resolveEffectsOf, SocketState.effectsOf, List.map_map, List.map_map]
  refine List.map_congr_left fun frame hframe => ?_
  obtain ⟨burst, hburst, hframe⟩ := List.mem_flatMap.1 hframe
  exact (visible_resolveEffect_iff hauto).2 (h burst hburst frame hframe).1

theorem filterMap_visible {α : Type} {effects effects' : List FrameEffect}
    (h : effects.map (·.visible) = effects'.map (·.visible)) (f : Visible → Option α) :
    effects.filterMap (fun effect => f effect.visible) = effects'.filterMap fun effect => f effect.visible := by
  have hmap := congrArg (List.filterMap f) h
  rw [List.filterMap_map, List.filterMap_map] at hmap
  exact hmap

theorem filterMap_attemptEffects {α : Type} (f : FrameEffect → Option α) (request : List UInt8)
    (hrequest : f { reply := some request } = none) (attempts : List (List Burst)) :
    (st.attemptEffects cfg request attempts).filterMap f = (st.resolveEffectsOf cfg attempts.flatten).filterMap f := by
  induction attempts with
  | nil => rfl
  | cons polled attempts ih =>
    simp only [SocketState.attemptEffects, SocketState.resolveEffectsOf, List.flatMap_cons, List.flatten_cons,
      List.flatMap_append, List.map_append, List.cons_append, List.filterMap_append] at ih ⊢
    rw [List.filterMap_cons_none hrequest, List.filterMap_append, ih]

theorem Poll.Resolving.sameAs {request : List UInt8} {attempts : List (List Burst)} {p : Poll} {s : SocketState}
    {receipts : List Receipt} {delivered : List Datagram}
    (h : p.Resolving st (st.attemptEffects cfg request attempts)) (hauto : cfg.autoArp)
    (hplain : st.Unremarkable cfg attempts.flatten)
    (hroom : st.queue.RoomFor ((st.effectsOf cfg attempts.flatten).filterMap (·.datagram)))
    (hsettled : Settled cfg st attempts.flatten delivered s receipts) : p.SameAs request s receipts := by
  obtain ⟨haccounts, hnone⟩ := h
  have hvisible := visible_of_unremarkable hauto hplain
  have hdatagrams : (st.attemptEffects cfg request attempts).filterMap (·.datagram) =
      (st.effectsOf cfg attempts.flatten).filterMap (·.datagram) :=
    (filterMap_attemptEffects _ request rfl attempts).trans (filterMap_visible hvisible Visible.datagram)
  have herrors : (st.attemptEffects cfg request attempts).filterMap (·.error) =
      (st.effectsOf cfg attempts.flatten).filterMap (·.error) :=
    (filterMap_attemptEffects _ request rfl attempts).trans (filterMap_visible hvisible Visible.error)
  have hrefused : refused p.verdicts = [] := (haccounts.room [] (by rw [hdatagrams, List.append_nil]; exact hroom)).1
  have hrefused' : refused (receipts.flatMap (·.verdicts)) = [] :=
    (hsettled.room [] (by rw [List.append_nil]; exact hroom)).1
  refine ⟨⟨delivered, hsettled.returned, ?_⟩, ?_, ?_, haccounts.mode.trans hsettled.mode.symm,
    attempts.map fun polled => (st.resolveEffectsOf cfg polled).filterMap (·.reply), ?_, ?_⟩
  · rw [haccounts.queue_eq hnone, ← hsettled.balance, kept_of_refused hrefused, kept_of_refused hrefused',
      haccounts.taken, hsettled.taken, hdatagrams]
  · rw [haccounts.errors, hsettled.errors, herrors]
  · rw [haccounts.drops, hsettled.drops, hrefused, hrefused']
  · rw [haccounts.replies, List.flatMap_map, SocketState.attemptEffects, List.filterMap_flatMap]
    rfl
  · have hreplies : (st.resolveEffectsOf cfg attempts.flatten).filterMap (·.reply) =
        (st.effectsOf cfg attempts.flatten).filterMap (·.reply) := filterMap_visible hvisible Visible.reply
    rw [hsettled.replies, ← hreplies, SocketState.resolveEffectsOf, List.flatten_eq_flatMap, List.flatMap_assoc,
      List.map_flatMap, List.filterMap_flatMap, ← List.flatMap_def]
    rfl

/-- **Waiting for ARP and receiving.** `resolve_arp` makes of a frame what the receive calls make of it exactly if it
is ordinary or ignored.  If all frames it polls are such, hold no datagram of strangers, and fit into the queue, then
the datagrams, errors and replies are those of any receive calls that poll the same bursts. -/
theorem resolve_transparent (cfg : SocketConfig) (hauto : cfg.autoArp) :
    (∀ onlyV6 a, (resolveEffect cfg a).visible = (dispatch cfg onlyV6 a).visible ↔
      Ordinary cfg onlyV6 a ∨ Ignored cfg onlyV6 a) ∧
    ∀ dstMac targetIp st wire, ∃ attempts : List (List Burst),
      wire = attempts.flatten ++ (resolveArp cfg dstMac targetIp st wire).2.2 ∧
      (st.Unremarkable cfg attempts.flatten →
        st.queue.RoomFor ((st.effectsOf cfg attempts.flatten).filterMap (·.datagram)) →
        ∀ calls, (run (receiveStep cfg) (st, attempts.flatten) calls).1.2 = [] →
          (resolveArp cfg dstMac targetIp st wire).2.1.SameAs (cfg.arpRequest targetIp)
            (run (receiveStep cfg) (st, attempts.flatten) calls).1.1
            (run (receiveStep cfg) (st, attempts.flatten) calls).2) := by
  refine ⟨fun _ _ => visible_resolveEffect_iff hauto, fun dstMac targetIp st wire => ?_⟩
  obtain ⟨attempts, hwire, hresolving⟩ := resolveArp_resolving cfg dstMac targetIp st wire
  refine ⟨attempts, hwire, fun hplain hroom calls hall => ?_⟩
  have hwelcome : ∀ b ∈ attempts.flatten, ∀ f ∈ b.frames, st.Welcome cfg f := fun b hb f hf => (hplain b hb f hf).2
  obtain ⟨consumed, delivered, hconsumed, hsettled⟩ := run_settled hwelcome calls
  rw [hall, List.append_nil] at hconsumed
  rw [← hconsumed] at hsettled
  exact hresolving.sameAs hauto hplain hroom hsettled

end same

def sampleResolve (cfg : SocketConfig) (wire : List Burst) : Option MacAddr × Poll × List Burst :=
  resolveArp cfg broadcastMac ⟨10, 0, 0, 7⟩ {} wire

theorem resolve_transparent_sample :
    (sampleResolve sampleConfig [sampleBurst]).2.1.SameAs (sampleConfig.arpRequest ⟨10, 0, 0, 7⟩)
      (run (receiveStep sampleConfig) ({}, [sampleBurst]) [.tryRecvFrom 100]).1.1
      (run (receiveStep sampleConfig) ({}, [sampleBurst]) [.tryRecvFrom 100]).2 := by
  obtain ⟨attempts, hwire, hsame⟩ := (resolve_transparent sampleConfig rfl).2 broadcastMac ⟨10, 0, 0, 7⟩ {} [sampleBurst]
  have hrest : (resolveArp sampleConfig broadcastMac ⟨10, 0, 0, 7⟩ {} [sampleBurst]).2.2 = [] := by rfl
  rw [hrest, List.append_nil] at hwire
  rw [← hwire] at hsame
  exact hsame (by decide) (by decide) [.tryRecvFrom 100] rfl

/-! ## Not the same -/

def echoRequest : List UInt8 :=
  [2, 2, 2, 2, 2, 2, 2, 0, 0, 0, 0, 2, 0x08, 0x00] ++
    [0x45, 0, 0, 28, 0, 0, 0x40, 0, 64, 1, 0x26, 0xdf, 10, 0, 0, 2, 10, 0, 0, 1] ++ [8, 0, 0xf7, 0xfd, 0, 1, 0, 1]

/-- A datagram for another port is queued by `resolve_arp` alone; an echo request is not answered. -/
theorem resolve_differs :
    ((sampleResolve { sampleConfig with localAddr := .v4 ⟨10, 0, 0, 1⟩ 5001 } [sampleBurst]).2.1.sock.queue.packets.length
        = 2 ∧
      (run (receiveStep { sampleConfig with localAddr := .v4 ⟨10, 0, 0, 1⟩ 5001 }) ({}, [sampleBurst])
        [.tryRecvFrom 100]).2.map (·.verdicts) = [[]]) ∧
    (resolveEffect sampleConfig ⟨⟨echoRequest, none⟩, 0⟩).reply = none ∧
      (dispatch sampleConfig false ⟨⟨echoRequest, none⟩, 0⟩).reply.isSome := by
  refine ⟨⟨rfl, ?_⟩, ?_, ?_⟩
  · decide
  · decide
  · decide

end DpdkStdlib.Udp
