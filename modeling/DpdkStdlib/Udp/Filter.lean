import DpdkStdlib.Udp.Reading

/-!
# The filter of a connected socket

A connected socket compares the source of a datagram with its peer, and puts a datagram from elsewhere into the queue
that the next call takes from.  So it returns datagrams of the peer alone as long as no others arrive for its port.
-/

namespace DpdkStdlib.Udp
open DpdkStdlib.Lib

/-- Every datagram that the event polls while the socket is connected is from the peer. -/
def PeerOnly (cfg : SocketConfig) (w : World) (e : Event) : Prop :=
  ∀ polled ∈ w.polled e, ∀ d ∈ polled.1.datagram cfg w.sock.onlyV6 polled.2, ∀ peer ∈ w.sock.connectedAddr, d.src = peer
deriving Decidable

/-- When the socket is connected, nothing waits that is not from the peer. -/
def CleanConnect (cfg : SocketConfig) (w : World) : Event → Prop
  | .connect addr => ∀ d, w.Waiting cfg d → d.src = addr
  | _ => True

theorem carries_since (cfg : SocketConfig) : Carries cfg (PeerOnly cfg) fun m d =>
    d.arrival.connects ≤ m.connects ∧ (d.arrival.connects = m.connects → ∀ peer ∈ m.connectedAddr, d.src = peer) where
  cut _ _ _ h := h
  mode w e d _ _ h := by
    rw [World.mode_step]
    cases e with
    | connect addr =>
      have hlt : d.arrival.connects < w.sock.connects + 1 := Nat.lt_succ_of_le h.1
      exact ⟨Nat.le_of_lt hlt, fun heq => absurd heq (Nat.ne_of_lt hlt)⟩
    | setOnlyV6 onlyV6 =>
      simp only [SocketState.setOnlyV6]
      split <;> exact h
    | _ => exact h
  polled w e path a d hpeer ha hd := by
    obtain rfl := path.arrival_of_datagram hd
    exact ⟨Nat.le_of_eq (World.connects_of_polled ha), fun _ peer hconn => hpeer (path, _) ha d hd peer hconn⟩

theorem carries_clean (cfg : SocketConfig) : Carries cfg (fun w e => PeerOnly cfg w e ∧ CleanConnect cfg w e) fun m d =>
    ∀ peer ∈ m.connectedAddr, d.src = peer where
  cut _ _ _ h := h
  mode w e d hgood hwaits h := by
    rw [World.mode_step]
    cases e with
    | connect addr => exact fun peer hpeer => Option.some.inj hpeer ▸ hgood.2 d hwaits
    | setOnlyV6 onlyV6 =>
      simp only [SocketState.setOnlyV6]
      split <;> exact h
    | _ => exact h
  polled w e path a d hgood ha hd peer hconn := hgood.1 (path, a) ha d hd peer hconn

/-- **The filter of a connected socket.** If, while the socket is connected, only datagrams of the peer arrive for it, a
receive call returns of what arrived since `connect` only those; and nothing but these if none from elsewhere were
waiting at `connect`. -/
theorem connected_filter (cfg : SocketConfig) {w : World} (hw : w.Fresh) (es : List Event) (e : Event)
    (hpeer : Along (PeerOnly cfg) (World.step cfg) w (es ++ [e])) (d : Datagram)
    (hd : .returned d ∈ ((run (World.step cfg) w es).1.step cfg e).2) {peer : SocketAddr}
    (hconn : (run (World.step cfg) w es).1.sock.connectedAddr = some peer) :
    (d.arrival.connects = (run (World.step cfg) w es).1.sock.connects → d.src = peer) ∧
      (Along (CleanConnect cfg) (World.step cfg) w (es ++ [e]) → d.src = peer) := by
  constructor
  · intro hsince
    exact ((carries_since cfg).returned hw hpeer hd).2 hsince peer hconn
  · intro hclean
    exact (carries_clean cfg).returned hw (hpeer.and hclean) hd peer hconn

theorem connected_filter_sample :
    .returned (sampleDatagram 2 0xce) ∈ (run (World.step sampleConfig) (sampleWorld (sampleFrame 2 0xce))
      [.connect (.v4 ⟨10, 0, 0, 2⟩ 6000), .tryRecvFrom 100]).2 ∧
    (sampleDatagram 2 0xce).src = .v4 ⟨10, 0, 0, 2⟩ 6000 :=
  ⟨by decide, (connected_filter sampleConfig (fresh_sampleWorld (sampleFrame 2 0xce)) [.connect (.v4 ⟨10, 0, 0, 2⟩ 6000)]
    (.tryRecvFrom 100) (by decide) (sampleDatagram 2 0xce) (by decide) rfl).1 rfl⟩

/-- Connected to `10.0.0.2`, the socket returns a datagram of `10.0.0.3` that arrived afterwards. -/
theorem connected_foreign :
    (run (World.step sampleConfig) (sampleWorld (sampleFrame 3 0xcd))
      [.connect (.v4 ⟨10, 0, 0, 2⟩ 6000), .tryRecvFrom 100, .tryRecvFrom 100]).2 =
      [.returned (sampleDatagram 3 0xcd)] ∧
    (sampleDatagram 3 0xcd).arrival.connects = 1 ∧ (sampleDatagram 3 0xcd).src ≠ .v4 ⟨10, 0, 0, 2⟩ 6000 := by
  decide

end DpdkStdlib.Udp
