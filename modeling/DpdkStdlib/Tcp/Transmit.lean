import DpdkStdlib.Tcp.Flight

/-!
# Every byte is sent as new data once

The transmit drain finds the unsent part of `send_buf` from the last entry of the retransmit queue.  `send_buf` starts
at some byte `b` of the stream, and the drain cuts fresh segments from the right place as long as that entry lies where
its sequence number says, or `send_buf` starts at the first unsent byte when the queue is empty.
-/

namespace DpdkStdlib.Tcp
open DpdkStdlib.Lib

def Sender.taken (s : Sender) : List UInt8 := s.ring.stream.take s.ring.tail

/-- `buf` starts at byte `b` of the stream, and the end of the last entry is where the unsent bytes start. -/
structure Placed (s : Sender) (L : List UInt8) (b : Nat) : Prop where
  le : b ≤ L.length
  buf : s.buf = s.taken.drop b
  queue : ∃ c, Tiles (·.len) (fun pos e => e.offset = pos - b ∧ (pos + e.len = L.length → b ≤ pos)) c s.queue L.length
  empty : s.queue = [] → b = L.length

/-- What was sent as new data is what was written; in ESTABLISHED `send_buf` starts at `snd_una`. -/
structure Ordered (s : Sender) (tr : List Sent) (u : Nat) : Prop where
  once : freshBytes tr <+: s.taken
  placed : s.state = .established ∨ s.state = .closeWait →
    ∃ b, Placed s (freshBytes tr) b ∧ (s.state = .established → b = u)

/-- An acknowledgment that leaves `send_buf` in place. -/
def AckInPlace (s : Sender) : Move → Prop
  | .segment _ (some a) _ _ =>
    (s.state = .established → ∀ e, s.queue.getLast? = some e → a = s.nxt ∨ a.le e.seq = true) ∧
      (s.state = .closeWait → a ≠ s.nxt)
  | _ => True

section
variable {s : Sender} {L : List UInt8} {b : Nat} {tr : List Sent} {u : Nat}

theorem Placed.sentOffset (h : Placed s L b) : s.sentOffset = L.length - b := by
  obtain ⟨c, htiles⟩ := h.queue
  unfold Sender.sentOffset
  cases hlast : s.queue.getLast? with
  | none =>
    have hb := h.empty (List.getLast?_eq_none_iff.1 hlast)
    simp [hb]
  | some e =>
    obtain ⟨pos, -, hend, -, hoff, hle⟩ := htiles.getLast? hlast
    have := hle hend
    simp only [Option.map_some, Option.getD_some]
    omega

theorem Placed.payload (h : Placed s L b) (n : Nat) :
    (s.buf.drop s.sentOffset).take n = (s.taken.drop L.length).take n := by
  have hle := h.le
  rw [h.sentOffset, h.buf, List.drop_drop, Nat.add_sub_cancel' hle]

theorem once_extend {d : List UInt8} (h : L <+: d) (n : Nat) : L ++ (d.drop L.length).take n <+: d := by
  obtain ⟨r, rfl⟩ := h
  rw [List.drop_left]
  exact (List.prefix_append_right_inj L).2 <| List.take_prefix n r

theorem length_taken (s : Sender) : s.taken.length = s.ring.tail := by
  have := s.ring.tail_le
  simp [Sender.taken, this]

/-! ## Moves -/

theorem taken_write (s : Sender) (data : List UInt8) : (senderStep s (.write data)).1.taken = s.taken := by
  have := s.ring.tail_le
  change (s.ring.stream ++ _).take s.ring.tail = _
  rw [List.take_append_of_le_length this]
  rfl

theorem taken_fill (s : Sender) :
    (senderStep s .fill).1.taken = s.taken ++ s.ring.unread ∧ (senderStep s .fill).1.buf = s.buf ++ s.ring.unread := by
  obtain ⟨hstream, -, htail, hbuf⟩ := s.ring.drain_eq s.buf
  refine ⟨?_, hbuf⟩
  change (s.ring.drain s.buf).1.stream.take (s.ring.drain s.buf).1.tail = _
  rw [hstream, htail, List.take_length]
  exact (List.take_append_drop _ _).symm

theorem taken_ackedBy (s : Sender) (ack : Option SeqNum) : (s.ackedBy ack).taken = s.taken := by
  cases ack with
  | none => rfl
  | some a =>
    unfold Sender.ackedBy Sender.acked
    dsimp only
    split_ifs <;> rfl

theorem Placed.congr {s' : Sender} (h : Placed s L b) (hbuf : s'.buf = s.buf) (htaken : s'.taken = s.taken)
    (hqueue : s'.queue = s.queue) : Placed s' L b :=
  ⟨h.le, by rw [hbuf, htaken]; exact h.buf, by rw [hqueue]; exact h.queue, by rw [hqueue]; exact h.empty⟩

theorem Placed.fill (h : Placed s L b) (hL : L <+: s.taken) : Placed (senderStep s .fill).1 L b := by
  obtain ⟨htaken, hbuf⟩ := taken_fill s
  have hle := h.le
  have hlen := hL.length_le
  refine ⟨h.le, ?_, h.queue, h.empty⟩
  rw [hbuf, htaken, h.buf, List.drop_append_of_le_length (by omega)]

theorem Placed.send (h : Placed s L b) {now : Instant} {n : Nat} (hn : 0 < n) {p : List UInt8} (hp : p.length = n) :
    Placed (senderStep s (.send now n)).1 (L ++ p) b := by
  have hlen : (L ++ p).length = L.length + n := by rw [List.length_append, hp]
  have hle := h.le
  obtain ⟨c, htiles⟩ := h.queue
  refine ⟨by omega, h.buf, ⟨c, ?_⟩, fun hq => ?_⟩
  · rw [hlen]
    refine tiles_append.2 ⟨L.length, htiles.mono fun pos e _ _ hstop he => ⟨he.1, fun hend => ?_⟩, tiles_singleton.2 ?_⟩
    · omega
    · exact ⟨hn, ⟨h.sentOffset, fun _ => h.le⟩, rfl⟩
  · exact absurd hq (List.append_ne_nil_of_right_ne_nil _ (List.cons_ne_nil _ _))

theorem Placed.drain (hflight : Flight s tr u) (hst : s.state = .established) (h : Placed s (freshBytes tr) u)
    (hL : freshBytes tr <+: s.taken) {a : SeqNum} (hgt : a.gt s.una = true) (hle : a.le s.nxt = true)
    (hlast : ∀ e, s.queue.getLast? = some e → a = s.nxt ∨ a.le e.seq = true) :
    Placed (s.acked a) (freshBytes tr) (u + a.diff s.una) := by
  obtain ⟨ha, hpos, hlt, hend⟩ := hflight.accept hgt hle
  have hfin : s.state.ownFin = 0 := by rw [hst]; rfl
  rw [hfin] at hend
  have hnear := hflight.near
  have hlen := hL.length_le
  have hmin : min (a.diff s.una) s.buf.length = a.diff s.una := by
    rw [h.buf, List.length_drop]
    omega
  obtain ⟨c, htiles⟩ := h.queue
  obtain ⟨⟨d, -, hretained⟩, hnil⟩ := hflight.retain hgt hle htiles.mark_last
  unfold Sender.acked
  rw [if_pos hst, hmin]
  refine ⟨hend, ?_, ⟨d, Tiles.map (RetransmitEntry.rebased _) (fun _ => rfl) (hretained.mono ?_)⟩,
    fun hq => ?_⟩
  · change s.buf.drop (a.diff s.una) = s.taken.drop _
    rw [h.buf, List.drop_drop]
  · rintro pos e - - hstop ⟨hqueued, ⟨hoff, -⟩, hmark⟩
    have hkept := hqueued.ahead
    refine ⟨?_, fun hstop' => ?_⟩
    · change e.offset - a.diff s.una = _
      omega
    · change pos + e.len = _ at hstop'
      rcases hlast e (hmark hstop') with hnxt | hseqle
      · -- everything is acknowledged, so this entry is not kept
        rw [hflight.nxt, hfin, ha, Sender.seqAt, Sender.seqAt] at hnxt
        have := SeqNum.add_inj_near _ hnxt (by omega) (by omega)
        omega
      · rw [ha] at hseqle
        exact hqueued.le_of_ack (by omega) hseqle
  · have := hnil (List.map_eq_nil_iff.1 hq)
    omega

theorem Placed.prune (hflight : Flight s tr u) (hst : s.state = .closeWait) (h : Placed s (freshBytes tr) b)
    {a : SeqNum} (hgt : a.gt s.una = true) (hle : a.le s.nxt = true) (hne : a ≠ s.nxt) :
    Placed (s.acked a) (freshBytes tr) b := by
  obtain ⟨ha, hpos, hlt, hend⟩ := hflight.accept hgt hle
  have hfin : s.state.ownFin = 0 := by rw [hst]; rfl
  rw [hfin] at hend
  obtain ⟨c, htiles⟩ := h.queue
  obtain ⟨⟨d, -, hretained⟩, hnil⟩ := hflight.retain hgt hle htiles
  unfold Sender.acked
  rw [if_neg (by rw [hst]; decide)]
  refine ⟨h.le, h.buf, ⟨d, hretained.mono fun _ _ _ _ _ he => he.2⟩, fun hq => ?_⟩
  have hall := hnil hq
  refine absurd ?_ hne
  rw [hflight.nxt, hfin, ha]
  congr 1
  omega

theorem Ordered.segment (hflight : Flight s tr u) (h : Ordered s tr u) {W : Nat} {clock : Instant}
    {ack : Option SeqNum} {next : TcpState} {disarm : Bool}
    (hm : Legal W AckInPlace s (.segment clock ack next disarm)) :
    Ordered (senderStep s (.segment clock ack next disarm)).1 tr (u + s.progress (.segment clock ack next disarm)) := by
  obtain ⟨⟨hshift, hack⟩, hA⟩ := hm
  obtain ⟨hest, htrans⟩ := hshift.transmits
  refine ⟨(taken_ackedBy s ack).symm ▸ h.once, fun hnext => ?_⟩
  obtain ⟨b, hplaced, hb⟩ := h.placed (htrans hnext)
  cases ack with
  | none => exact ⟨b, hplaced.congr rfl rfl rfl, fun hs => hb (hest hs)⟩
  | some a =>
    obtain ⟨-, hgt, hle⟩ := hack a rfl
    obtain ⟨hlast, hall⟩ := hA rfl
    rcases htrans hnext with hst | hst
    · obtain rfl := hb hst
      exact ⟨_, (hplaced.drain hflight hst h.once hgt hle (hlast hst)).congr rfl rfl rfl, fun _ => rfl⟩
    · refine ⟨b, (hplaced.prune hflight hst hgt hle (hall hst)).congr rfl rfl rfl, fun hs => ?_⟩
      rw [hest hs] at hst
      cases hst

/-- A legal move sends new data in order. -/
theorem Ordered.step {W : Nat} (s : Sender) (tr : List Sent) (u : Nat) (m : Move) (hearly : s.state.early = false)
    (hm : Legal W AckInPlace s m) (hflight : Flight s tr u) (h : Ordered s tr u) :
    Ordered (senderStep s m).1 (tr ++ (senderStep s m).2) (u + s.progress m) := by
  cases m with
  | write data =>
    rw [show (senderStep s (.write data)).2 = [] from rfl, List.append_nil]
    refine ⟨by rw [taken_write]; exact h.once, fun hst => ?_⟩
    obtain ⟨b, hplaced, hb⟩ := h.placed hst
    exact ⟨b, hplaced.congr rfl (taken_write s data) rfl, hb⟩
  | opened rto => exact absurd (hearly.symm.trans hm.1) Bool.false_ne_true
  | segment clock ack next disarm =>
    rw [show (senderStep s (.segment clock ack next disarm)).2 = [] from rfl, List.append_nil]
    exact h.segment hflight hm
  | fill =>
    rw [show (senderStep s .fill).2 = [] from rfl, List.append_nil]
    refine ⟨by rw [(taken_fill s).1]; exact h.once.trans (List.prefix_append _ _), fun hst => ?_⟩
    obtain ⟨b, hplaced, hb⟩ := h.placed hst
    exact ⟨b, hplaced.fill h.once, hb⟩
  | send now n =>
    obtain ⟨⟨hst, hn, hunsent, -⟩, -⟩ := hm
    obtain ⟨b, hplaced, hb⟩ := h.placed hst
    refine ⟨?_, fun _ => ⟨b, ?_, hb⟩⟩
    · rw [freshBytes_send, hplaced.payload]
      exact once_extend h.once n
    · rw [freshBytes_send]
      exact hplaced.send hn (length_payload hunsent)
  | expire now =>
    refine ⟨by rw [freshBytes_expire]; exact h.once, fun hst => ?_⟩
    obtain ⟨b, hplaced, hb⟩ := h.placed hst
    rw [freshBytes_expire]
    exact ⟨b, hplaced.congr rfl rfl rfl, hb⟩
  | fin clock =>
    rw [show (senderStep s (.fin clock)).2 = [] from rfl, List.append_nil]
    refine ⟨h.once, fun hst => ?_⟩
    simp only [senderStep] at hst
    split_ifs at hst <;> exact absurd hst (by decide)

end

/-! ## Runs -/

/-- The fresh segments of the run lie end to end from `iss + 1`, and their bytes are the first ones the application
wrote. -/
def FreshOnce (cfg : EngineConfig) (o : Opening) (es : List ConnEvent) : Prop :=
  Tiles (·.payload.length) (fun pos x => x.seq = (o.tcb cfg).iss.add (1 + pos)) 0 (fresh (transmissions cfg o es))
      (freshBytes (transmissions cfg o es)).length ∧
    freshBytes (transmissions cfg o es) <+: (connRun cfg o es).1.handle.txRing.stream

/-- The send window is below half the number space; no accepted ACK falls inside the last segment in flight, or covers
all in CLOSE_WAIT. -/
def FreshSafe : Outcome → ConnEvent → Prop
  | .live t, .tick .. => t.congestion.effectiveWindow t.sndWnd < 2 ^ 31
  | .live t, .segment _ seg => accepts seg t = true →
      (t.state = .established →
        ∀ e ∈ t.retransmitQueue.getLast?, seg.ack = t.sndNxt ∨ seg.ack.le e.seq = true) ∧
      (t.state = .closeWait → seg.ack ≠ t.sndNxt)
  | _, _ => True

theorem ackInPlace_of_safe {t : Tcb} {clock : Instant} {seg : ParsedTcpSegment}
    (hsafe : FreshSafe (.live t) (.segment clock seg)) (hrst : seg.flags.contains .rst = false) {m : Move}
    (hm : Arises clock seg t m) : AckInPlace t.sender m := by
  cases m with
  | segment clock' ack next disarm =>
    cases ack with
    | none => trivial
    | some a =>
      obtain ⟨rfl, hacc⟩ := hm.accepts hrst
      exact hsafe hacc
  | _ => trivial

theorem ordered_opened (s : Sender) (tr : List Sent) (rto : Duration) (h : Embryo s tr) :
    Ordered (senderStep s (.opened rto)).1 tr 0 := by
  have hbytes := h.freshBytes_eq
  have htaken : (senderStep s (.opened rto)).1.taken = [] := by
    change s.ring.stream.take s.ring.tail = []
    rw [h.tail, List.take_zero]
  refine ⟨by rw [hbytes]; exact List.nil_prefix, fun _ => ⟨0, ⟨Nat.zero_le _, ?_, ⟨0, ?_⟩, fun _ => ?_⟩, fun _ => rfl⟩⟩
  · rw [htaken]
    exact h.buf
  · rw [show (senderStep s (.opened rto)).1.queue = [] from h.queue, hbytes]
    rfl
  · rw [hbytes]
    rfl

/-- New data goes out in order along a safe run. -/
theorem ordered_run {cfg : EngineConfig} {o : Opening} {es : List ConnEvent} (h : ConnAlong FreshSafe cfg o es) :
    (connRun cfg o es).1.Sends fun s => InFlight (o.tcb cfg).iss Ordered s (transmissions cfg o es) :=
  flight_invariant (W := 2 ^ 31 - 1) (by decide) ordered_opened Ordered.step (fun _ _ _ => Nat.le_pred_of_lt)
    (fun _ _ _ hsafe hrst _ hm => ackInPlace_of_safe hsafe hrst hm) h

/-- **Every byte is sent as new data once**, in every run whose acknowledgments leave `send_buf` in place. -/
theorem fresh_once (cfg : EngineConfig) (o : Opening) (es : List ConnEvent) (h : ConnAlong FreshSafe cfg o es) :
    FreshOnce cfg o es := by
  obtain ⟨s, ⟨hiss, hs⟩, hring⟩ := (ordered_run h).exists
  unfold FreshOnce
  rw [← hring, ← hiss]
  rcases hs with ⟨-, hemb⟩ | ⟨-, u, hflight, hord⟩
  · rw [hemb.freshBytes_eq, hemb.sent]
    exact ⟨rfl, List.nil_prefix⟩
  · exact ⟨hflight.sent, hord.once.trans <| List.take_prefix _ _⟩

instance (s : Outcome) (ev : ConnEvent) : Decidable (FreshSafe s ev) := by
  unfold FreshSafe
  induction s using Outcome.casesOn <;> induction ev using ConnEvent.casesOn <;> infer_instance

/-- Three bytes are sent without delay and acknowledged up to `ack`; then three more are written and sent. -/
def sampleSend (ack : BitVec 32) : List ConnEvent :=
  [.segment 1 (sampleSynAck 7000), .setOption (.nodelay true), .write [1, 2, 3], .tick 2 2,
    .segment 3 (fromPeer 7001 ack .ack 500 []), .write [4, 5, 6], .tick 4 4]

theorem fresh_once_sample : freshBytes (transmissions {} sampleOpen (sampleSend 104)) = [1, 2, 3, 4, 5, 6] ∧
    FreshOnce {} sampleOpen (sampleSend 104) :=
  ⟨by decide +kernel, fresh_once {} sampleOpen (sampleSend 104) (by decide +kernel)⟩

/-- With one of three bytes acknowledged, the drain skips the fourth. -/
theorem partial_ack_skips : ¬FreshOnce {} sampleOpen (sampleSend 102) := by
  rintro ⟨-, h⟩
  revert h
  decide +kernel

end DpdkStdlib.Tcp
