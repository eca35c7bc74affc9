import DpdkStdlib.Udp.Reading

/-!
# Valid datagrams

A datagram is valid if its frame passes the VLAN filter, is for the socket's port, and carries right checksums, those of
both packets if it came through a tunnel.  Each path to the application makes some of these checks: the dispatcher
verifies no checksum of a tunnel frame, `resolve_arp` checks nothing, and the pipeline does not know the VLAN filter.
-/

namespace DpdkStdlib.Udp
open DpdkStdlib.Lib

/-- The VLAN, the port and every checksum are right. -/
structure Reading.Valid (cfg : SocketConfig) (frame : RxFrame) (r : Reading) : Prop where
  vlan : cfg.VlanOk frame
  port : r.dst.port = cfg.localPort
  packet : r.ChecksumsOk frame.data
  outer : r.tunnelled → ipv4ChecksumOk frame.data ∧ udpChecksumOk frame.data

/-- The frame passes the checks that the path leaves out. -/
def Path.SkippedOk (cfg : SocketConfig) (frame : RxFrame) (r : Reading) : Path → Prop
  | .inline => r.tunnelled → r.ChecksumsOk frame.data ∧ ipv4ChecksumOk frame.data ∧ udpChecksumOk frame.data
  | .resolve => cfg.VlanOk frame ∧ r.dst.port = cfg.localPort ∧ r.ChecksumsOk frame.data
  | .pipeline => cfg.VlanOk frame ∧ cfg.pipelinePort = cfg.localPort

theorem tunnelled_readUdp4 {frame : List UInt8} {r : Reading} (h : readUdp4 frame = some r) : r.tunnelled = false := by
  obtain ⟨layout, -, h⟩ := Option.bind_eq_some_iff.1 h
  obtain ⟨parsed, -, rfl⟩ := Option.map_eq_some_iff.1 h
  rfl

/-- When what a path reads is valid. -/
theorem Path.valid_iff {cfg : SocketConfig} {onlyV6 : Bool} {path : Path} {a : Arrival} {d : Datagram} {r : Reading}
    (h : path.datagram cfg onlyV6 a = some d) (hr : path.reading cfg onlyV6 a = some r) :
    r.Valid cfg a.toRxFrame ↔ path.SkippedOk cfg a.toRxFrame r := by
  obtain ⟨r', hr', -, hc⟩ := path.reading_of_datagram h
  obtain rfl := Option.some.inj (hr.symm.trans hr')
  cases path with
  | inline =>
    obtain ⟨hvlan, hport, hplain⟩ := hc
    constructor
    · exact fun h htunnel => ⟨h.packet, h.outer htunnel⟩
    · intro h
      refine ⟨hvlan, hport, ?_, fun htunnel => (h htunnel).2⟩
      by_cases htunnel : r.tunnelled
      · exact (h htunnel).1
      · exact hplain htunnel
  | resolve =>
    have hplain : ¬ r.tunnelled := by simp [tunnelled_readUdp4 hr]
    constructor
    · exact fun h => ⟨h.vlan, h.port, h.packet⟩
    · exact fun ⟨hvlan, hport, hpacket⟩ => ⟨hvlan, hport, hpacket, fun htunnel => absurd htunnel hplain⟩
  | pipeline =>
    obtain ⟨hport, hpacket⟩ := hc
    have hplain : ¬ r.tunnelled := by simp [tunnelled_readUdp4 hr]
    constructor
    · exact fun h => ⟨h.vlan, hport ▸ h.port⟩
    · exact fun ⟨hvlan, heq⟩ => ⟨hvlan, hport.trans heq, hpacket, fun htunnel => absurd htunnel hplain⟩

/-- **Valid datagrams.** Every datagram that a run returns was read from a polled frame, and is valid exactly if the
frame passes the checks that its path leaves out. -/
theorem returned_valid_iff (cfg : SocketConfig) {w : World} (hw : w.Fresh) (es : List Event) (e : Event) (d : Datagram)
    (hd : .returned d ∈ ((run (World.step cfg) w es).1.step cfg e).2) :
    ∃ path r, w.ReadAs cfg (es ++ [e]) d path r ∧
      (r.Valid cfg d.arrival.toRxFrame ↔ path.SkippedOk cfg d.arrival.toRxFrame r) := by
  obtain ⟨path, r, hread⟩ := readAs_of_returned hw hd
  refine ⟨path, r, hread, ?_⟩
  obtain ⟨_, _, _, -, -, hr, hpath, -⟩ := hread
  exact path.valid_iff hpath hr

theorem returned_valid_iff_sample :
    ∃ path r, (sampleWorld (sampleFrame 2 0xce)).ReadAs sampleConfig
        ([.connect (.v4 ⟨10, 0, 0, 2⟩ 6000)] ++ [.tryRecvFrom 100]) (sampleDatagram 2 0xce) path r ∧
      (r.Valid sampleConfig ⟨sampleFrame 2 0xce, none⟩ ↔ path.SkippedOk sampleConfig ⟨sampleFrame 2 0xce, none⟩ r) :=
  returned_valid_iff sampleConfig (fresh_sampleWorld (sampleFrame 2 0xce)) [.connect (.v4 ⟨10, 0, 0, 2⟩ 6000)]
    (.tryRecvFrom 100) (sampleDatagram 2 0xce) (by decide)

/-! ## Datagrams that are not valid -/

def gueConfig : SocketConfig := { sampleConfig with gue := some { remoteIp := ⟨10, 0, 0, 2⟩ } }

def otherPortConfig : SocketConfig := { sampleConfig with localAddr := .v4 ⟨10, 0, 0, 1⟩ 5001 }

def vlanConfig : SocketConfig := { sampleConfig with vlan := some { vlanId := 7 } }

/-- Invalid datagrams from a tunnel, during ARP resolution, and through the pipeline. -/
theorem returned_invalid :
    (∃ d, .returned d ∈ (run (World.step gueConfig) (sampleWorld (gueFrame (sampleFrame 3 0))) [.tryRecvFrom 100]).2 ∧
      d.arrival.data = gueFrame (sampleFrame 3 0) ∧ ¬ Ipv4HeaderValid d.arrival.data 46) ∧
    (∃ d, .returned d ∈
        (run (World.step otherPortConfig) (sampleWorld (sampleFrame 2 0xce)) [.resolvePoll, .tryRecvFrom 100]).2 ∧
      d.arrival.data = sampleFrame 2 0xce ∧ be16At d.arrival.data 36 ≠ otherPortConfig.localPort) ∧
    ∃ d, .returned d ∈ (run (World.step vlanConfig)
        { sampleWorld (sampleFrame 2 0xce) with pipeline := some (.new 4 1) }
        [.rxPoll, .rxFrame 0, .workerTake 0, .workerFrame 0 0, .tryRecvFrom 100]).2 ∧
      d.arrival.data = sampleFrame 2 0xce ∧ ¬ vlanConfig.VlanOk d.arrival.toRxFrame := by
  refine ⟨⟨⟨[1], .v4 ⟨10, 0, 0, 3⟩ 6000, ⟨⟨gueFrame (sampleFrame 3 0), none⟩, 0⟩⟩, ?_⟩,
    ⟨⟨[1], .v4 ⟨10, 0, 0, 2⟩ 6000, ⟨⟨sampleFrame 2 0xce, none⟩, 0⟩⟩, ?_⟩,
    ⟨⟨[1], .v4 ⟨10, 0, 0, 2⟩ 6000, ⟨⟨sampleFrame 2 0xce, none⟩, 0⟩⟩, ?_⟩⟩
  · decide
  · decide
  · decide +kernel

end DpdkStdlib.Udp
