import DpdkStdlib.Tcp.Emission
import DpdkStdlib.Tcp.Receiver

/-!
# Receive accounting

What a connection acknowledges is what it has stored, whatever arrives: `rcv_nxt` counts the bytes written to
`rx_ring`, every acknowledgment carries it, and the peer's FIN is taken only right behind the last byte.
-/

namespace DpdkStdlib.Tcp
open DpdkStdlib.Lib

structure ReceiveSound (cfg : EngineConfig) (es : List ConnEvent) (t : Tcb) : Prop where
  /-- The bytes ever written to `rx_ring`, modulo `2^32`. -/
  counted : t.state.synchronised = true → BitVec.ofNat 32 t.handle.rxRing.stream.length =
    t.rcvNxt.val - t.irs.val - 1 - BitVec.ofNat 32 t.state.finConsumed.toNat
  /-- Each of them was carried by a segment at the sequence number it has in the ring. -/
  carried : t.state.synchronised = true → ∀ j b, t.handle.rxRing.stream[j]? = some b →
    ∃ clock seg, .segment clock seg ∈ es ∧ ∃ i, seg.payload[i]? = some b ∧ seg.seq.add i = t.irs.add (1 + j)
  /-- Every frame with ACK, whatever the event is, carries the `rcv_nxt` the event leaves. -/
  acks : ∀ ev, ∀ f ∈ (callTcb cfg ev t).out, f.params.flags.contains .ack = true →
    f.params.ack = ((callTcb cfg ev t).after t).rcvNxt
  /-- The peer's FIN is taken from a segment whose FIN follows the last byte in the ring, and sets EOF. -/
  fin : ∀ ev t', (callTcb cfg ev t).outcome = .live t' → t.state.finConsumed = false → t'.state.finConsumed = true →
    t'.handle.eof = true ∧ ∃ clock seg, ev = .segment clock seg ∧ seg.flags.contains .fin = true ∧
      seg.seq.add seg.payload.length = t'.irs.add (1 + t'.handle.rxRing.stream.length)

/-- Some segment of the events carries the byte at the sequence number. -/
def CarriedBy (es : List ConnEvent) (s : SeqNum) (b : UInt8) : Prop :=
  ∃ clock seg, .segment clock seg ∈ es ∧ ∃ i, seg.payload[i]? = some b ∧ seg.seq.add i = s

theorem arrives_carriedBy {es : List ConnEvent} {ev : ConnEvent} (hev : ev ∈ es) {seg : ParsedTcpSegment}
    (hseg : ev.segment? = some seg) : Receiver.Arrives (CarriedBy es) (fun _ => True) seg := by
  cases ev with
  | segment clock seg' =>
    obtain rfl := Option.some.inj hseg
    exact ⟨fun i b hb => ⟨clock, seg', hev, i, hb, rfl⟩, fun _ _ => trivial⟩
  | _ => cases hseg

theorem synchronised_ne_synSent {s : TcpState} (h : s.synchronised = true) : s ≠ .synSent := by
  rintro rfl
  cases h

theorem Receiver.Accounted.length_eq {r : Receiver} (h : r.Accounted) (hst : r.state ≠ .synSent) :
    BitVec.ofNat 32 r.ring.stream.length = r.rcvNxt.val - r.irs.val - 1 - BitVec.ofNat 32 r.finBit := by
  rw [h.counted hst, SeqNum.add, BitVec.ofNat_add, BitVec.ofNat_add, show BitVec.ofNat 32 1 = 1 from rfl]
  ring

theorem BuiltFrom.ack_eq {t : Tcb} {f : Emitted} (h : BuiltFrom t f) : f.params.ack = t.rcvNxt := by
  obtain ⟨seq, payload, hp, -⟩ := h
  rw [hp]
  rfl

/-- **Receive accounting.** In every run the opening frame, if it acknowledges, acknowledges `rcv_nxt`, and the receive
side of every TCB the run reaches is sound. -/
theorem receive_accounting (cfg : EngineConfig) (o : Opening) (es : List ConnEvent) :
    ((o.emitted cfg).params.flags.contains .ack = true → (o.emitted cfg).params.ack = (o.tcb cfg).rcvNxt) ∧
      ∀ t, (connRun cfg o es).1 = .live t → ReceiveSound cfg es t := by
  refine ⟨fun hack => ?_, fun t hrun => ?_⟩
  · cases o with
    | active =>
      have hsyn : TcpFlags.syn.contains .ack = false := by decide
      rw [show (Opening.emitted cfg _).params.flags = TcpFlags.syn from rfl, hsyn] at hack
      cases hack
    | passive => rfl
  · have hlanded : (connRun cfg o es).1.Landed (CarriedBy es) (fun _ => True) :=
      landed_run (fun _ _ => trivial) fun ev hev seg hseg => arrives_carriedBy hev hseg
    rw [hrun] at hlanded
    have hdel : Receiver.Delivered (CarriedBy es) (fun _ => True) t.receiver := hlanded
    refine ⟨fun hsync => ?_, fun hsync => ?_, fun ev f hf _ => ?_, fun ev t' hlive hopen hfin => ?_⟩
    · exact hdel.accounted.length_eq (synchronised_ne_synSent hsync)
    · exact hdel.written (synchronised_ne_synSent hsync)
    · exact (builtFrom_call cfg ev t hf).ack_eq
    · obtain ⟨htaken, -⟩ := Receiver.FinTaken.steps hopen hdel.accounted (receiver_call hlive)
      obtain ⟨heof, seg, hseg, hflag, hseq⟩ := htaken hfin
      refine ⟨heof, ?_⟩
      cases ev with
      | segment clock seg' =>
        obtain rfl := Option.some.inj hseg
        exact ⟨clock, seg', rfl, hflag, hseq⟩
      | _ => cases hseg

/-- A handshake with a peer whose stream starts right before the sequence space wraps, three bytes, then a FIN. -/
def sampleStream : List ConnEvent :=
  [.segment 1 (sampleSynAck 0xFFFFFFFE), .segment 2 (fromPeer 0xFFFFFFFF 101 .ack 500 [1, 2, 3]),
    .segment 3 (fromPeer 2 101 (TcpFlags.fin.union .ack) 500 [])]

theorem receive_accounting_sample : ∃ t, (connRun {} sampleOpen sampleStream).1 = .live t ∧ t.state = .closeWait ∧
    t.handle.rxRing.stream = [1, 2, 3] ∧ t.rcvNxt = ⟨3⟩ ∧ ReceiveSound {} sampleStream t :=
  ⟨_, rfl, by decide, by decide, by decide, (receive_accounting {} sampleOpen sampleStream).2 _ rfl⟩

end DpdkStdlib.Tcp
