import DpdkStdlib.Udp.Datagram
import DpdkStdlib.Udp.Reading

/-!
# Frames that a tunnel refuses (`lib.rs`, `gue.rs`, `vxlan.rs`, `geneve.rs`)

A frame to the port of a tunnel that its decapsulator refuses goes on through the dispatcher: to the decapsulators of the
other tunnels, and then to the parsers of plain UDP, which know nothing of tunnels.  They take it if the port of the
tunnel is the port of the socket as well.
-/

namespace DpdkStdlib.Udp
open DpdkStdlib.Lib

/-! ## Tunnels -/

inductive TunnelKind
  | gue
  | vxlan
  | geneve
deriving DecidableEq

def TunnelKind.all : List TunnelKind := [.gue, .vxlan, .geneve]

/-- The port on which a tunnel of the socket receives. -/
def SocketConfig.tunnelPort (cfg : SocketConfig) : TunnelKind → Option UInt16
  | .gue => cfg.gue.map (·.localPort)
  | .vxlan => cfg.vxlan.map (·.localPort)
  | .geneve => cfg.geneve.map (·.localPort)

def SocketConfig.decapBy (cfg : SocketConfig) (layout : FrameLayout) (frame : List UInt8) (kind : TunnelKind) :
    Option InnerDatagram :=
  if layout.ethertype ≠ 0x0800 then none
  else
    match kind with
    | .gue => cfg.gue.bind fun gue => (tryDecapGue frame layout.l3Offset gue.localPort).map (·.toInnerDatagram)
    | .vxlan => cfg.vxlan.bind fun vxlan =>
      (tryDecapVxlan frame layout.l3Offset vxlan.localPort (some vxlan.vni)).map (·.toInnerDatagram)
    | .geneve => cfg.geneve.bind fun geneve =>
      (tryDecapGeneve frame layout.l3Offset geneve.localPort (some geneve.vni)).map (·.toInnerDatagram)

/-- What the tunnels other than this one make of the frame. -/
def SocketConfig.decapByOther (cfg : SocketConfig) (layout : FrameLayout) (frame : List UInt8) (kind : TunnelKind) :
    Option InnerDatagram :=
  (TunnelKind.all.filter (· ≠ kind)).findSome? (cfg.decapBy layout frame)

theorem decapsulate_eq_findSome (cfg : SocketConfig) (layout : FrameLayout) (frame : List UInt8) :
    cfg.decapsulate layout frame = TunnelKind.all.findSome? (cfg.decapBy layout frame) := by
  have hall : ∀ f : TunnelKind → Option InnerDatagram,
      TunnelKind.all.findSome? f = (f .gue).or ((f .vxlan).or (f .geneve)) := by
    intro f
    simp only [TunnelKind.all, List.findSome?_cons, List.findSome?_nil]
    cases f .gue <;> cases f .vxlan <;> cases f .geneve <;> rfl
  rw [hall]
  unfold SocketConfig.decapsulate SocketConfig.decapBy
  by_cases heth : layout.ethertype ≠ 0x0800
  · simp only [if_pos heth, Option.or_none]
  · simp only [if_neg heth]

theorem decapsulate_of_refused {cfg : SocketConfig} {layout : FrameLayout} {frame : List UInt8} {kind : TunnelKind}
    (h : cfg.decapBy layout frame kind = none) :
    cfg.decapsulate layout frame = cfg.decapByOther layout frame kind := by
  have hfilter : ∀ kinds : List TunnelKind, (kinds.filter (· ≠ kind)).findSome? (cfg.decapBy layout frame) =
      kinds.findSome? (cfg.decapBy layout frame) := by
    intro kinds
    induction kinds with
    | nil => rfl
    | cons k kinds ih =>
      by_cases hk : k = kind
      · subst hk
        rw [List.filter_cons_of_neg (by simp), List.findSome?_cons, h, ih]
      · rw [List.filter_cons_of_pos (by simpa using hk), List.findSome?_cons, List.findSome?_cons, ih]
  rw [decapsulate_eq_findSome, SocketConfig.decapByOther, hfilter]

/-! ## Isolation -/

inductive OuterUdp (frame : List UInt8) (layout : FrameLayout) (port : UInt16) : Prop
  | ipv4 (start : Nat) (ethertype : layout.ethertype = 0x0800)
      (udp : tunnelStart frame layout.l3Offset port = some start)
  | ipv6 (start : Nat) (ip : isIpv6 frame layout) (udp : udpStart6 frame layout = some start)
      (fits : start + 8 ≤ frame.length) (dst : be16At frame (start + 2) = port)

/-- A frame to the port of one of the socket's tunnels, which the decapsulator of the tunnel refuses. -/
structure SocketConfig.Refuses (cfg : SocketConfig) (kind : TunnelKind) (port : UInt16) (frame : RxFrame)
    (layout : FrameLayout) : Prop where
  configured : cfg.tunnelPort kind = some port
  detected : layoutOf frame.data frame.hwVlanTci = some layout
  addressed : OuterUdp frame.data layout port
  refused : cfg.decapBy layout frame.data kind = none

/-- In every state of the socket, the frame leaves the datagram to be returned and those in the queue as they are. -/
def SocketConfig.Isolates (cfg : SocketConfig) (onlyV6 : Bool) (frame : RxFrame) : Prop :=
  ∀ (n : Nat) (now : Instant) (p : Poll), p.sock.onlyV6 = onlyV6 →
    (processFrame cfg n now p frame).result = p.result ∧
      (processFrame cfg n now p frame).sock.queue.packets = p.sock.queue.packets

/-- Isolation means that the dispatcher finds no datagram. -/
theorem isolates_iff (cfg : SocketConfig) (onlyV6 : Bool) (frame : RxFrame) :
    cfg.Isolates onlyV6 frame ↔ ∀ connects, (dispatch cfg onlyV6 ⟨frame, connects⟩).datagram = none := by
  constructor
  · intro h connects
    -- a socket that has nothing to return yet returns the datagram
    obtain ⟨hresult, -⟩ := h 0 0 { sock := { onlyV6, connects } } rfl
    by_contra hd
    obtain ⟨d, hd⟩ := Option.ne_none_iff_exists'.1 hd
    have hmode := SocketState.mode_learn { onlyV6, connects } 0 (dispatch cfg onlyV6 ⟨frame, connects⟩)
    have hconnected : (SocketState.learn { onlyV6, connects } 0
        (dispatch cfg onlyV6 ⟨frame, connects⟩)).connectedAddr = none := congrArg Mode.connectedAddr hmode
    rw [processFrame] at hresult
    simp only [hd, SocketState.isForeign, hconnected] at hresult
    exact absurd hresult (by simp [Poll.deliver])
  · intro h n now p honly
    rw [processFrame]
    simp only [honly, h, SocketState.queue_learn, and_self]

/-! ## Where a refused frame ends up -/

/-- The parsers and verifiers of plain UDP accept the frame. -/
def SocketConfig.AcceptsPlain (cfg : SocketConfig) (onlyV6 : Bool) (frame : List UInt8) (layout : FrameLayout) : Prop :=
  (layout.ethertype = 0x0800 ∧ onlyV6 = false ∧ (udpViewRef frame).isSome ∧ ipv4ChecksumOk frame ∧ udpChecksumOk frame) ∨
    (layout.ethertype = 0x86DD ∧ ¬ cfg.looksLikeNdp frame ∧ (udp6ViewRef frame).isSome ∧ udp6ChecksumOk frame)

/-- The frame passes, and another tunnel takes it for the socket, or none does and the port is the socket's. -/
def SocketConfig.Exposes (cfg : SocketConfig) (onlyV6 : Bool) (frame : List UInt8) (layout : FrameLayout)
    (kind : TunnelKind) (port : UInt16) : Prop :=
  cfg.acceptsVlan layout ∧
    match cfg.decapByOther layout frame kind with
    | some inner => inner.innerDstPort = cfg.localPort
    | none => port = cfg.localPort ∧ cfg.AcceptsPlain onlyV6 frame layout

theorem forPort_eq_none {cfg : SocketConfig} {dstPort : UInt16} {d : Datagram} :
    cfg.forPort dstPort d = none ↔ dstPort ≠ cfg.localPort := by
  unfold SocketConfig.forPort
  split_ifs with h
  · exact iff_of_true rfl h
  · exact iff_of_false nofun h

section outer
variable {cfg : SocketConfig} {onlyV6 : Bool} {a : Arrival} {layout : FrameLayout} {port : UInt16} {start : Nat}

theorem dstPort_of_tunnelStart {parsed : ParsedUdpPacketRef Ipv4Addr} (hlayout : layoutOf a.data a.hwVlanTci = some layout)
    (hstart : tunnelStart a.data layout.l3Offset port = some start) (hparsed : udpViewRef a.data = some parsed) :
    parsed.dstPort = port := by
  obtain ⟨layout', hlayout', -, hl3⟩ := layoutOf_none hlayout
  obtain ⟨layout'', hlayout'', -, hudp, -⟩ := udpViewRef_spec hparsed
  obtain rfl := Option.some.inj (hlayout'.symm.trans hlayout'')
  unfold tunnelStart at hstart
  dsimp only at hstart
  split_ifs at hstart with _ _ _ _ hport
  rw [udpStart4, hl3, udpAt] at hudp
  split_ifs at hudp
  have hdst := congrArg (·.2.1) (Option.some.inj hudp)
  exact hdst.symm.trans (not_not.1 hport)

theorem dstPort_of_udpStart6 {parsed : ParsedUdpPacketRef Ipv6Addr} (hlayout : layoutOf a.data a.hwVlanTci = some layout)
    (hstart : udpStart6 a.data layout = some start) (hport : be16At a.data (start + 2) = port)
    (hparsed : udp6ViewRef a.data = some parsed) : parsed.dstPort = port := by
  obtain ⟨layout', hlayout', -, hl3⟩ := layoutOf_none hlayout
  obtain ⟨layout'', hlayout'', -, start', hstart', hudp, -⟩ := udp6ViewRef_spec hparsed
  obtain rfl := Option.some.inj (hlayout'.symm.trans hlayout'')
  rw [udpStart6, hl3, ← udpStart6] at hstart'
  obtain rfl := Option.some.inj (hstart.symm.trans hstart')
  rw [udpAt] at hudp
  split_ifs at hudp
  have hdst := congrArg (·.2.1) (Option.some.inj hudp)
  exact hdst.symm.trans hport

theorem plainEffect_outer4 (hlayout : layoutOf a.data a.hwVlanTci = some layout) (heth : layout.ethertype = 0x0800)
    (hstart : tunnelStart a.data layout.l3Offset port = some start) :
    (plainEffect cfg onlyV6 a).datagram = none ↔ ¬ (port = cfg.localPort ∧ cfg.AcceptsPlain onlyV6 a.data layout) := by
  have h6 : udp6ViewRef a.data = none := udp6ViewRef_eq_none hlayout (by rw [heth]; decide)
  have hplain : cfg.AcceptsPlain onlyV6 a.data layout ↔ onlyV6 = false ∧ (udpViewRef a.data).isSome ∧
      ipv4ChecksumOk a.data ∧ udpChecksumOk a.data := by
    rw [SocketConfig.AcceptsPlain, heth, h6]
    simp
  rw [hplain, plainEffect, udp6Effect, h6]
  cases honly : onlyV6 with
  | true => simp
  | false =>
    cases hparsed : udpViewRef a.data with
    | none => simp
    | some parsed =>
      have hdst := dstPort_of_tunnelStart hlayout hstart hparsed
      simp only [Bool.false_eq_true, if_false, udpEffect]
      split_ifs with hip hudp
      · simp only [forPort_eq_none, hdst, Option.isSome_some, hip, hudp, and_true, ne_eq]
      · simp [hudp]
      · simp [hip]

theorem plainEffect_outer6 (hlayout : layoutOf a.data a.hwVlanTci = some layout) (hip : isIpv6 a.data layout)
    (hstart : udpStart6 a.data layout = some start) (hport : be16At a.data (start + 2) = port)
    (hndp : ¬ cfg.looksLikeNdp a.data) :
    (plainEffect cfg onlyV6 a).datagram = none ↔ ¬ (port = cfg.localPort ∧ cfg.AcceptsPlain onlyV6 a.data layout) := by
  have h4 : udpViewRef a.data = none := udpViewRef_eq_none hlayout (by rw [hip.1]; decide)
  have hplain : cfg.AcceptsPlain onlyV6 a.data layout ↔ (udp6ViewRef a.data).isSome ∧ udp6ChecksumOk a.data := by
    rw [SocketConfig.AcceptsPlain, hip.1, h4]
    simp [hndp]
  have heffect : plainEffect cfg onlyV6 a = udp6Effect cfg a := by
    rw [plainEffect, h4]
    cases onlyV6 <;> rfl
  rw [hplain, heffect, udp6Effect]
  cases hparsed : udp6ViewRef a.data with
  | none => simp
  | some parsed =>
    have hdst := dstPort_of_udpStart6 hlayout hstart hport hparsed
    dsimp only
    split_ifs with hudp
    · simp only [forPort_eq_none, hdst, Option.isSome_some, hudp, and_true, ne_eq]
    · simp [hudp]

end outer

/-- **Tunnel isolation.** A frame to a tunnel's port that its decapsulator refuses contributes nothing to what the
application gets, in any state, exactly if no other tunnel takes it with a datagram for the socket and, where none takes
it, the port is not the socket's or plain UDP refuses the frame too. -/
theorem tunnel_isolation_iff (cfg : SocketConfig) (onlyV6 : Bool) (kind : TunnelKind) (port : UInt16) (frame : RxFrame)
    (layout : FrameLayout) (h : cfg.Refuses kind port frame layout) :
    cfg.Isolates onlyV6 frame ↔ ¬ cfg.Exposes onlyV6 frame.data layout kind port := by
  have key : ∀ connects, (dispatch cfg onlyV6 ⟨frame, connects⟩).datagram = none ↔
      ¬ cfg.Exposes onlyV6 frame.data layout kind port := by
    intro connects
    have hlayout : layoutOf (Arrival.mk frame connects).data (Arrival.mk frame connects).hwVlanTci = some layout :=
      h.detected
    rw [SocketConfig.Exposes, ← decapsulate_of_refused h.refused]
    by_cases hvlan : cfg.acceptsVlan layout
    swap
    · rw [dispatch_filtered hlayout hvlan]
      exact iff_of_true rfl fun h => hvlan h.1
    rw [and_iff_right hvlan]
    cases h.addressed with
    | ipv4 start heth hstart =>
      have hicmp : ¬ (frame.data.length > layout.l3Offset + 9 ∧ byteAt frame.data (layout.l3Offset + 9) = 1) := by
        rintro ⟨-, hproto⟩
        unfold tunnelStart at hstart
        rw [hproto] at hstart
        split_ifs at hstart with _ h
        exact absurd h (by decide)
      rw [dispatch_ipv4 hlayout hvlan heth hicmp]
      cases cfg.decapsulate layout frame.data with
      | some inner => exact forPort_eq_none
      | none => exact plainEffect_outer4 hlayout heth hstart
    | ipv6 start hip hstart hfits hdst =>
      have hdecap : cfg.decapsulate layout frame.data = none := if_pos (by rw [hip.1]; decide)
      rw [dispatch_ipv6 hlayout hvlan hip.1, hdecap]
      by_cases hndp : cfg.looksLikeNdp frame.data
      · rw [if_pos hndp]
        refine iff_of_true rfl ?_
        rintro ⟨-, ⟨heth, -⟩ | ⟨-, h, -⟩⟩
        · exact absurd (hip.1.symm.trans heth) (by decide)
        · exact h hndp
      · have hupper : ¬ (frame.data.length > layout.l3Offset + 40 ∧
            (upperLayer (frame.data.drop layout.l3Offset)).any (·.protocol = 58)) := by
          rintro ⟨-, hany⟩
          obtain ⟨nh, hnh, hstart⟩ := Option.bind_eq_some_iff.1 hstart
          split_ifs at hstart with hproto
          rw [hnh, Option.any_some, decide_eq_true_eq, hproto] at hany
          exact absurd hany (by decide)
        rw [if_neg hndp, if_neg hupper]
        exact plainEffect_outer6 hlayout hip hstart hdst hndp
  rw [isolates_iff]
  constructor
  · intro h
    exact (key 0).1 (h 0)
  · intro h connects
    exact (key connects).2 h

def vxlanSocket (port : UInt16) : SocketConfig :=
  { localAddr := .v4 ⟨10, 0, 0, 1⟩ port, mac := sampleMac 1, vxlan := some { remoteIp := ⟨10, 0, 0, 2⟩, vni := 100 } }

def otherVniFrame : RxFrame where
  data := (sampleMac 1).toList ++ (sampleMac 2).toList ++ [0x08, 0x00] ++
    [0x45, 0, 0, 36, 0, 0, 0x40, 0, 64, 17, 0x26, 0xc7, 10, 0, 0, 2, 10, 0, 0, 1] ++
    [0x17, 0x70, 0x12, 0xb5, 0, 16, 0, 0] ++ [0x08, 0, 0, 0, 0, 0, 7, 0]

theorem refuses_otherVniFrame (port : UInt16) :
    (vxlanSocket port).Refuses .vxlan 4789 otherVniFrame ⟨0x0800, 14, none⟩ := by
  refine ⟨rfl, by decide, .ipv4 42 rfl (by decide), ?_⟩
  show (tryDecapVxlan otherVniFrame.data 14 4789 (some 100)).map (·.toInnerDatagram) = none
  decide

/-- A socket on a port of its own. -/
theorem tunnel_isolation_other_port : (vxlanSocket 5000).Isolates false otherVniFrame := by
  refine (tunnel_isolation_iff (vxlanSocket 5000) false .vxlan 4789 otherVniFrame ⟨0x0800, 14, none⟩
    (refuses_otherVniFrame 5000)).2 ?_
  rintro ⟨-, h⟩
  exact absurd h.1 (by decide)

/-- A socket on the port of the tunnel gets the VXLAN header of the frame that the tunnel has refused. -/
theorem tunnel_payload_delivered : (vxlanSocket 4789).Refuses .vxlan 4789 otherVniFrame ⟨0x0800, 14, none⟩ ∧
    (processFrame (vxlanSocket 4789) 100 0 { sock := {} } otherVniFrame).result.map (·.payload) =
      some [0x08, 0, 0, 0, 0, 0, 7, 0] ∧
    ¬ (vxlanSocket 4789).Isolates false otherVniFrame := by
  have hresult : (processFrame (vxlanSocket 4789) 100 0 { sock := {} } otherVniFrame).result.map (·.payload) =
      some [0x08, 0, 0, 0, 0, 0, 7, 0] := by decide
  refine ⟨refuses_otherVniFrame 4789, hresult, ?_⟩
  intro h
  rw [(h 100 0 { sock := {} } rfl).1] at hresult
  exact absurd hresult (by simp)

end DpdkStdlib.Udp
