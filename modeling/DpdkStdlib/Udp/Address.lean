import DpdkStdlib.Udp.Reading

/-!
# The bound address

A socket is bound to an address of one family.  Which family a datagram has is decided by the frame, and the test of
`only_v6` stands before one of the branches that give IPv4 datagrams; nothing stands before the IPv6 branch.  The
destination address of a datagram is not compared with the bound one on any path.
-/

namespace DpdkStdlib.SocketAddr

/-- The address, an IPv4 one as the IPv6 address it is mapped to. -/
def toIpv6Mapped : SocketAddr → Ipv6Addr
  | v4 ip _ => Ipv6Addr.ofOctets (List.replicate 10 0 ++ [0xff, 0xff] ++ ip.octets)
  | v6 ip _ _ _ => ip

def isUnspecified : SocketAddr → Bool
  | v4 ip _ => ip = ⟨0, 0, 0, 0⟩
  | v6 ip _ _ _ => ip = 0

/-- An address of one host: not the wildcard, no group, not the broadcast address. -/
def isUnicast : SocketAddr → Bool
  | v4 ip _ => ip ≠ ⟨0, 0, 0, 0⟩ ∧ ip.a &&& 0xf0 ≠ 0xe0 ∧ ip ≠ ⟨255, 255, 255, 255⟩
  | v6 ip _ _ _ => ip ≠ 0 ∧ ip.toNat / 2 ^ 120 ≠ 0xff

end DpdkStdlib.SocketAddr

namespace DpdkStdlib.Udp
open DpdkStdlib.Lib

/-! ## Families -/

def isIpv6Frame (frame : List UInt8) : Bool := (layoutOf frame none).any (·.ethertype = 0x86DD)

theorem isIpv6_readUdp4 {frame : List UInt8} {r : Reading} (h : readUdp4 frame = some r) :
    r.src.isIpv6 = false ∧ isIpv6Frame frame = false := by
  obtain ⟨layout, hlayout, h⟩ := Option.bind_eq_some_iff.1 h
  obtain ⟨parsed, hparsed, rfl⟩ := Option.map_eq_some_iff.1 h
  obtain ⟨layout', hlayout', hip, -⟩ := udpViewRef_spec hparsed
  refine ⟨rfl, ?_⟩
  rw [isIpv6Frame, Option.mem_def.1 hlayout', Option.any_some, hip.2.1]
  rfl

theorem isIpv6_readUdp6 {frame : List UInt8} {r : Reading} (h : readUdp6 frame = some r) :
    r.src.isIpv6 = true ∧ isIpv6Frame frame = true := by
  obtain ⟨layout, hlayout, h⟩ := Option.bind_eq_some_iff.1 h
  obtain ⟨parsed, hparsed, rfl⟩ := Option.map_eq_some_iff.1 h
  obtain ⟨layout', hlayout', hip, -⟩ := udp6ViewRef_spec hparsed
  refine ⟨rfl, ?_⟩
  rw [isIpv6Frame, Option.mem_def.1 hlayout', Option.any_some, hip.1]
  rfl

theorem isIpv6_readTunnel {cfg : SocketConfig} {frame : List UInt8} {hw : Option UInt16} {layout : FrameLayout}
    {r : Reading} (hlayout : layoutOf frame hw = some layout) (h : cfg.readTunnel layout frame = some r) :
    r.src.isIpv6 = false ∧ isIpv6Frame frame = false := by
  obtain ⟨p, hp, rfl⟩ := Option.map_eq_some_iff.1 h
  refine ⟨rfl, ?_⟩
  obtain ⟨layout', hlayout', heth, -⟩ := layoutOf_none hlayout
  rw [SocketConfig.innerPacket] at hp
  split_ifs at hp with hipv4
  rw [isIpv6Frame, hlayout', Option.any_some, heth, not_not.1 hipv4]
  rfl

section families
variable {cfg : SocketConfig} {onlyV6 : Bool} {path : Path} {a : Arrival} {r : Reading} {d : Datagram}

theorem Path.isIpv6_reading (h : path.reading cfg onlyV6 a = some r) : r.src.isIpv6 = isIpv6Frame a.data := by
  cases path with
  | inline =>
    obtain ⟨layout, hlayout, h⟩ := Option.bind_eq_some_iff.1 h
    rcases Option.or_eq_some_iff.1 h with h | ⟨-, h⟩
    · rw [(isIpv6_readTunnel hlayout h).1, (isIpv6_readTunnel hlayout h).2]
    cases onlyV6 with
    | true => rw [(isIpv6_readUdp6 h).1, (isIpv6_readUdp6 h).2]
    | false =>
      rcases Option.or_eq_some_iff.1 h with h | ⟨-, h⟩
      · rw [(isIpv6_readUdp4 h).1, (isIpv6_readUdp4 h).2]
      · rw [(isIpv6_readUdp6 h).1, (isIpv6_readUdp6 h).2]
  | resolve | pipeline => rw [(isIpv6_readUdp4 h).1, (isIpv6_readUdp4 h).2]

theorem Path.isIpv6_inline_iff (h : Path.inline.reading cfg true a = some r) :
    r.src.isIpv6 = true ↔ ∀ layout ∈ layoutOf a.data a.hwVlanTci, cfg.decapsulate layout a.data = none := by
  obtain ⟨layout, hlayout, h⟩ := Option.bind_eq_some_iff.1 h
  rw [hlayout]
  simp only [Option.mem_def, Option.some.injEq, forall_eq', decapsulate_eq, Option.map_eq_none_iff]
  cases hinner : cfg.innerPacket layout a.data with
  | none =>
    rw [SocketConfig.readTunnel, hinner, Option.map_none, Option.none_or] at h
    simp only [(isIpv6_readUdp6 h).1]
  | some p =>
    rw [SocketConfig.readTunnel, hinner] at h
    obtain rfl := Option.some.inj h
    simp [SocketAddr.isIpv6]

/-- A source the socket may return: an IPv4 socket those of its family, and so an IPv6 socket with `only_v6`. -/
def SocketConfig.Isolated (cfg : SocketConfig) (onlyV6 : Bool) (src : SocketAddr) : Prop :=
  if cfg.localAddr.isIpv6 then onlyV6 = true → src.isIpv6 = true else src.isIpv6 = false

/-- The frame gives no datagram of the wrong family: an IPv4 socket got no IPv6 packet, one with `only_v6` only what came
to the dispatcher outside of the tunnels. -/
def Path.SameFamily (cfg : SocketConfig) (onlyV6 : Bool) (a : Arrival) (path : Path) : Prop :=
  if cfg.localAddr.isIpv6 then
    onlyV6 = true → path = .inline ∧ ∀ layout ∈ layoutOf a.data a.hwVlanTci, cfg.decapsulate layout a.data = none
  else isIpv6Frame a.data = false
deriving Decidable

theorem Path.isolated_iff (h : path.datagram cfg onlyV6 a = some d) :
    cfg.Isolated onlyV6 d.src ↔ path.SameFamily cfg onlyV6 a := by
  obtain ⟨r, hr, rfl, -⟩ := path.reading_of_datagram h
  change cfg.Isolated onlyV6 r.src ↔ _
  unfold SocketConfig.Isolated Path.SameFamily
  split_ifs
  · refine imp_congr_right fun honly => ?_
    subst honly
    cases path with
    | inline => simp only [Path.isIpv6_inline_iff hr, true_and]
    | resolve | pipeline => simp [(isIpv6_readUdp4 hr).1]
  · rw [Path.isIpv6_reading hr]

end families

/-- Frames that give a datagram are of the socket's family, and when `only_v6` is set nothing waits that is not. -/
def FamilyKept (cfg : SocketConfig) (w : World) (e : Event) : Prop :=
  (∀ polled ∈ w.polled e, (polled.1.datagram cfg w.sock.onlyV6 polled.2).isSome →
    polled.1.SameFamily cfg w.sock.onlyV6 polled.2) ∧
  (e = .setOnlyV6 true → ∀ d, w.Waiting cfg d → d.src.isIpv6 = true)

theorem carries_isolated (cfg : SocketConfig) :
    Carries cfg (FamilyKept cfg) fun m d => cfg.Isolated m.onlyV6 d.src where
  cut _ _ _ h := h
  mode w e d hgood hwaits h := by
    rw [World.mode_step]
    cases e with
    | setOnlyV6 onlyV6 =>
      simp only [SocketState.setOnlyV6]
      split
      · exact h
      · next hlocal =>
        rw [SocketConfig.Isolated, hlocal]
        intro honly
        exact hgood.2 (congrArg _ honly) d hwaits
    | connect _ | recvFrom _ | tryRecvFrom _ | setRecvBufferSize _ | takeError | resolvePoll | rxPoll | rxFrame _
    | workerTake _ | workerFrame _ _ => exact h
  polled w e path a d hgood ha hd := (path.isolated_iff hd).2 (hgood.1 (path, a) ha (by rw [hd]; rfl))

/-- **Address families.** A frame gives a datagram of the socket's family exactly under `SameFamily`; if all frames do,
and nothing else waits when `only_v6` is set, an IPv4 socket returns nothing from IPv6, and one with `only_v6` nothing
from IPv4. -/
theorem family_isolation (cfg : SocketConfig) :
    (∀ onlyV6 (path : Path) (a : Arrival) (d : Datagram), path.datagram cfg onlyV6 a = some d →
      (cfg.Isolated onlyV6 d.src ↔ path.SameFamily cfg onlyV6 a)) ∧
    ∀ w : World, w.Fresh → ∀ es e, Along (FamilyKept cfg) (World.step cfg) w (es ++ [e]) →
      ∀ d, .returned d ∈ ((run (World.step cfg) w es).1.step cfg e).2 →
        cfg.Isolated (run (World.step cfg) w es).1.sock.onlyV6 d.src :=
  ⟨fun _ path _ _ h => path.isolated_iff h, fun _ hw _ _ hgood _ hd => (carries_isolated cfg).returned hw hgood hd⟩

def sampleFrame6 : List UInt8 :=
  [2, 2, 2, 2, 2, 2, 2, 0, 0, 0, 0, 2, 0x86, 0xdd] ++ [0x60, 0, 0, 0, 0, 9, 17, 64] ++
    [0xfe, 0x80, 0, 0, 0, 0, 0, 0, 0, 0, 0, 0, 0, 0, 0, 2] ++ [0xfe, 0x80, 0, 0, 0, 0, 0, 0, 0, 0, 0, 0, 0, 0, 0, 1] ++
    [0x17, 0x70, 0x13, 0x88, 0, 9, 0xd6, 0xdf] ++ [1]

def sampleConfig6 : SocketConfig := { sampleConfig with localAddr := .v6 1 5000 0 0 }

def sampleDatagram6 : Datagram :=
  ⟨[1], .v6 (Ipv6Addr.ofOctets [0xfe, 0x80, 0, 0, 0, 0, 0, 0, 0, 0, 0, 0, 0, 0, 0, 2]) 6000 0 0,
    ⟨⟨sampleFrame6, none⟩, 0⟩⟩

/-- An IPv4 packet and an IPv6 packet come to a socket with `only_v6`. -/
theorem family_isolation_sample : sampleConfig6.Isolated true sampleDatagram6.src :=
  (family_isolation sampleConfig6).2 { wire := [⟨0, [⟨sampleFrame 2 0xce, none⟩, ⟨sampleFrame6, none⟩]⟩] }
    ⟨rfl, fun _ h => absurd h (by simp)⟩ [.setOnlyV6 true] (.tryRecvFrom 100)
    ⟨⟨by decide, fun _ d hd => by simp [World.Waiting] at hd⟩, ⟨by decide +kernel, nofun⟩, trivial⟩ sampleDatagram6 (by decide +kernel)

def gueConfig6 : SocketConfig :=
  { sampleConfig with localAddr := .v6 1 5000 0 0, gue := some { remoteIp := ⟨10, 0, 0, 2⟩ } }

/-- An IPv4 socket returns a datagram from an IPv6 source, and one with `only_v6` an IPv4 one from a tunnel. -/
theorem family_mixed :
    (∃ d, .returned d ∈ (run (World.step sampleConfig) (sampleWorld sampleFrame6) [.tryRecvFrom 100]).2 ∧
      d.src.isIpv6 = true) ∧
    (∃ d, .returned d ∈ (run (World.step gueConfig6) (sampleWorld (gueFrame (sampleFrame 3 0xcd)))
        [.setOnlyV6 true, .tryRecvFrom 100]).2 ∧ d.src.isIpv6 = false) ∧
    ∃ d, .returned d ∈ (run (World.step gueConfig6) (sampleWorld (sampleFrame 2 0xce))
        [.setOnlyV6 true, .resolvePoll, .tryRecvFrom 100]).2 ∧ d.src.isIpv6 = false := by
  refine ⟨⟨sampleDatagram6, ?_⟩,
    ⟨⟨[1], .v4 ⟨10, 0, 0, 3⟩ 6000, ⟨⟨gueFrame (sampleFrame 3 0xcd), none⟩, 0⟩⟩, ?_⟩,
    ⟨⟨[1], .v4 ⟨10, 0, 0, 2⟩ 6000, ⟨⟨sampleFrame 2 0xce, none⟩, 0⟩⟩, ?_⟩⟩
  · decide +kernel
  · decide
  · decide

/-! ## Destinations -/

/-- The destination is a host, and not the one whose address the socket is bound to. -/
def SocketConfig.Elsewhere (cfg : SocketConfig) (dst : SocketAddr) : Prop :=
  cfg.localAddr.isUnspecified = false ∧ dst.isUnicast = true ∧ dst.toIpv6Mapped ≠ cfg.localAddr.toIpv6Mapped
deriving Decidable

/-- No frame that the event polls holds a packet for another host that the path would take a datagram from. -/
def AddressedHere (cfg : SocketConfig) (w : World) (e : Event) : Prop :=
  ∀ polled ∈ w.polled e, (polled.1.datagram cfg w.sock.onlyV6 polled.2).isSome →
    ∀ r ∈ polled.1.reading cfg w.sock.onlyV6 polled.2, ¬ cfg.Elsewhere r.dst
deriving Decidable

/-- **The bound address.** In a run in which no frame with a packet for another host gives a datagram, no such packet is
returned: what is returned was read from a polled frame, and however it was, as a packet for this host or for many. -/
theorem bound_address (cfg : SocketConfig) {w : World} (hw : w.Fresh) (es : List Event) (e : Event)
    (hgood : Along (AddressedHere cfg) (World.step cfg) w (es ++ [e])) (d : Datagram)
    (hd : .returned d ∈ ((run (World.step cfg) w es).1.step cfg e).2) :
    (∃ path r, w.ReadAs cfg (es ++ [e]) d path r) ∧
      ∀ path r, w.ReadAs cfg (es ++ [e]) d path r → ¬ cfg.Elsewhere r.dst := by
  refine ⟨readAs_of_returned hw hd, fun path r hread => ?_⟩
  obtain ⟨es₁, e', es₂, hes, hpolled, hr, hpath, -⟩ := hread
  rw [hes] at hgood
  obtain ⟨-, hhere, -⟩ := (along_append w es₁ (e' :: es₂)).1 hgood
  exact hhere (path, d.arrival) hpolled (by rw [hpath]; rfl) r hr

theorem bound_address_sample :
    (∃ path r, (sampleWorld (sampleFrame 2 0xce)).ReadAs sampleConfig
        ([.connect (.v4 ⟨10, 0, 0, 2⟩ 6000)] ++ [.tryRecvFrom 100]) (sampleDatagram 2 0xce) path r) ∧
      ∀ path r, (sampleWorld (sampleFrame 2 0xce)).ReadAs sampleConfig
        ([.connect (.v4 ⟨10, 0, 0, 2⟩ 6000)] ++ [.tryRecvFrom 100]) (sampleDatagram 2 0xce) path r →
        ¬ sampleConfig.Elsewhere r.dst :=
  bound_address sampleConfig (fresh_sampleWorld (sampleFrame 2 0xce)) [.connect (.v4 ⟨10, 0, 0, 2⟩ 6000)]
    (.tryRecvFrom 100) (by decide) (sampleDatagram 2 0xce) (by decide)

def otherHostConfig : SocketConfig := { sampleConfig with localAddr := .v4 ⟨10, 0, 0, 9⟩ 5000 }

/-- A socket bound to `10.0.0.9` returns a datagram for `10.0.0.1`. -/
theorem bound_address_ignored :
    ∃ d, .returned d ∈ (run (World.step otherHostConfig) (sampleWorld (sampleFrame 2 0xce)) [.tryRecvFrom 100]).2 ∧
      d.arrival.data = sampleFrame 2 0xce ∧
      ∃ r, Path.inline.reading otherHostConfig false d.arrival = some r ∧ r.dst = .v4 ⟨10, 0, 0, 1⟩ 5000 ∧
        otherHostConfig.Elsewhere r.dst :=
  ⟨⟨[1], .v4 ⟨10, 0, 0, 2⟩ 6000, ⟨⟨sampleFrame 2 0xce, none⟩, 0⟩⟩, by decide, rfl,
    ⟨.v4 ⟨10, 0, 0, 2⟩ 6000, .v4 ⟨10, 0, 0, 1⟩ 5000, [1], 14, false⟩, by decide, rfl, by decide⟩

end DpdkStdlib.Udp
