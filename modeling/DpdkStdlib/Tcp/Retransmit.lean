import DpdkStdlib.Tcp.Flight

/-!
# Retransmissions repeat what was sent

The RTO branch takes the bytes of the oldest entry from `send_buf`, at an offset that acknowledgments move.  An
acknowledgment inside a segment moves the offset of its entry by less than it drains.
-/

namespace DpdkStdlib.Tcp
open DpdkStdlib.Lib

/-- The byte at a sequence number in the newest fresh segment that covers it. -/
def transmittedAt (tr : List Sent) (x : SeqNum) : Option UInt8 :=
  (fresh tr).reverse.findSome? fun f => f.payload[x.diff f.seq]?

/-- An entry's slice of the buffer is its slice `L` of the stream; in ESTABLISHED the buffer starts at byte `u`. -/
structure Copied (buf L : List UInt8) (drains : Prop) (u pos : Nat) (e : RetransmitEntry) : Prop where
  fits : e.offset + e.len ≤ buf.length
  bytes : entryPayload buf e = (L.drop pos).take e.len
  offset : drains → u ≤ pos ∧ e.offset = pos - u

/-- The queue tiles what was sent, each entry with its bytes. -/
def Faithful (s : Sender) (tr : List Sent) (u : Nat) : Prop :=
  ∃ c, Tiles (·.len) (Copied s.buf (freshBytes tr) (s.state = .established) u) c s.queue (freshBytes tr).length

/-- An acknowledgment of ESTABLISHED that falls strictly inside no entry. -/
def AckAtBoundary (s : Sender) : Move → Prop
  | .segment _ (some a) _ _ =>
    s.state = .established → ∀ e ∈ s.queue, a.le e.seq = true ∨ (e.seq.add e.len).le a = true
  | _ => True

/-! ## Bytes at sequence numbers -/

theorem length_flatten_payloads {P : Nat → Sent → Prop} : ∀ {a b : Nat} {xs : List Sent},
    Tiles (·.payload.length) P a xs b → a + (xs.map (·.payload)).flatten.length = b
  | _, _, [], h => h
  | a, b, x :: xs, ⟨_, _, h⟩ => by
    have : a + x.payload.length + (xs.map (·.payload)).flatten.length = b := length_flatten_payloads h
    simp only [List.map_cons, List.flatten_cons, List.length_append]
    omega

theorem findSome_payload {iss : SeqNum} {p n : Nat} {xs : List Sent}
    (h : Tiles (·.payload.length) (fun pos x => x.seq = iss.add (1 + pos)) 0 xs n)
    (hshort : ∀ x ∈ xs, x.payload.length < 2 ^ 31) (hp : p < n) (hn : n ≤ p + 2 ^ 32) :
    xs.reverse.findSome? (fun f => f.payload[(iss.add (1 + p)).diff f.seq]?) =
      ((xs.map (·.payload)).flatten)[p]? := by
  induction xs using List.reverseRecOn generalizing n with
  | nil => cases h; omega
  | append_singleton ys y ih =>
    obtain ⟨c, hys, hlast⟩ := tiles_append.1 h
    obtain ⟨hpos, hseq, hend⟩ := tiles_singleton.1 hlast
    have hlen := length_flatten_payloads hys
    have hy := hshort y (List.mem_append_right _ (List.mem_singleton.2 rfl))
    rw [List.reverse_append, List.reverse_singleton, List.singleton_append, List.findSome?_cons, hseq, List.map_append,
      List.flatten_append, List.map_singleton, List.flatten_singleton]
    by_cases hc : c ≤ p
    · -- the last segment covers it
      rw [SeqNum.diff_add_add _ (by omega) (by omega), List.getElem?_append_right (by omega),
        show 1 + p - (1 + c) = p - (ys.map (·.payload)).flatten.length by omega]
      have hlt : p - (ys.map (·.payload)).flatten.length < y.payload.length := by omega
      rw [List.getElem?_eq_getElem hlt]
    · have hbeyond : y.payload.length ≤ (iss.add (1 + p)).diff (iss.add (1 + c)) := by
        rw [SeqNum.diff_add_add_of_lt _ (by omega) (by omega)]
        omega
      rw [List.getElem?_eq_none hbeyond, List.getElem?_append_left (by omega)]
      exact ih hys (fun x hx => hshort x (List.mem_append_left _ hx)) (by omega) (by omega)

theorem Flight.transmittedAt_eq {s : Sender} {tr : List Sent} {u p : Nat} (h : Flight s tr u)
    (hp : p < (freshBytes tr).length) (hnear : (freshBytes tr).length ≤ p + 2 ^ 32) :
    transmittedAt tr (s.iss.add (1 + p)) = (freshBytes tr)[p]? :=
  findSome_payload h.sent h.short hp hnear

/-! ## Moves -/

section
variable {s : Sender} {tr : List Sent} {u : Nat}

theorem entryPayload_append {buf : List UInt8} {e : RetransmitEntry} (h : e.offset + e.len ≤ buf.length)
    (more : List UInt8) : entryPayload (buf ++ more) e = entryPayload buf e := by
  unfold entryPayload
  rw [List.drop_append_of_le_length (by omega), List.take_append_of_le_length (by rw [List.length_drop]; omega)]

theorem entryPayload_rebased {buf : List UInt8} {e : RetransmitEntry} {n : Nat} (h : n ≤ e.offset) :
    entryPayload (buf.drop n) (e.rebased n) = entryPayload buf e := by
  unfold entryPayload RetransmitEntry.rebased
  rw [List.drop_drop, Nat.add_sub_cancel' h]

theorem length_entryPayload {buf : List UInt8} {e : RetransmitEntry} (h : e.offset + e.len ≤ buf.length) :
    (entryPayload buf e).length = e.len := by
  unfold entryPayload
  rw [List.length_take, List.length_drop]
  omega

theorem slice_append {L more : List UInt8} {pos len : Nat} (h : pos + len ≤ L.length) :
    ((L ++ more).drop pos).take len = (L.drop pos).take len := by
  rw [List.drop_append_of_le_length (by omega), List.take_append_of_le_length (by rw [List.length_drop]; omega)]

theorem Faithful.sentOffset (hflight : Flight s tr u) (h : Faithful s tr u) (hst : s.state = .established) :
    s.sentOffset = (freshBytes tr).length - u := by
  obtain ⟨c, htiles⟩ := h
  unfold Sender.sentOffset
  cases hlast : s.queue.getLast? with
  | none =>
    have hall := hflight.empty (List.getLast?_eq_none_iff.1 hlast)
    simp only [Option.map_none, Option.getD_none]
    omega
  | some e =>
    obtain ⟨pos, -, hend, -, he⟩ := htiles.getLast? hlast
    obtain ⟨hle, hoff⟩ := he.offset hst
    simp only [Option.map_some, Option.getD_some]
    omega

theorem Faithful.send (hflight : Flight s tr u) (h : Faithful s tr u) {W : Nat} {now : Instant} {n : Nat}
    (hm : Enabled W s (.send now n)) :
    Faithful (senderStep s (.send now n)).1 (tr ++ (senderStep s (.send now n)).2) u := by
  obtain ⟨hst, hn, hunsent, -⟩ := hm
  have hlen := length_payload hunsent
  have hacked := hflight.acked
  rw [ownFin_of_transmits hst] at hacked
  have hoffset (hst : s.state = .established) := h.sentOffset hflight hst
  obtain ⟨c, htiles⟩ := h
  unfold Faithful
  rw [freshBytes_send, List.length_append, hlen]
  refine ⟨c, tiles_append.2 ⟨_, htiles.mono fun pos e _ _ hstop he => ?_, tiles_singleton.2 ⟨hn, ?_, rfl⟩⟩⟩
  · exact ⟨he.fits, he.bytes.trans (slice_append hstop).symm, he.offset⟩
  · refine ⟨?_, ?_, fun hs => ⟨hacked, hoffset hs⟩⟩
    · change s.sentOffset + n ≤ s.buf.length
      unfold Sender.unsent at hunsent
      omega
    · change (s.buf.drop s.sentOffset).take n = _
      rw [List.drop_left, List.take_take, Nat.min_self]

theorem Faithful.acked (hflight : Flight s tr u) (h : Faithful s tr u) {a : SeqNum} (hgt : a.gt s.una = true)
    (hle : a.le s.nxt = true)
    (hbound : s.state = .established → ∀ e ∈ s.queue, a.le e.seq = true ∨ (e.seq.add e.len).le a = true) :
    Faithful (s.acked a) tr (u + a.diff s.una) := by
  obtain ⟨ha, hpos, hlt, hend⟩ := hflight.accept hgt hle
  obtain ⟨c, htiles⟩ := h
  obtain ⟨⟨d, -, hretained⟩, -⟩ := hflight.retain hgt hle htiles
  have hnear := hflight.near
  unfold Faithful Sender.acked
  by_cases hst : s.state = .established
  · rw [if_pos hst]
    refine ⟨d, Tiles.map (RetransmitEntry.rebased _) (fun _ => rfl) (hretained.mono ?_)⟩
    rintro pos e hmem - hstop ⟨hqueued, hcopied⟩
    have hkept := hqueued.ahead
    obtain ⟨hu, hoff⟩ := hcopied.offset hst
    have hfits := hcopied.fits
    -- a surviving entry starts at or after the acknowledgment
    have hstart : u + a.diff s.una ≤ pos := by
      rcases hbound hst e (List.mem_filter.1 hmem).1 with hseq | hseq
      · rw [ha] at hseq
        exact hqueued.le_of_ack (by omega) hseq
      · rw [ha] at hseq
        exact absurd hseq (hqueued.not_end_le_ack (by omega))
    have hmin : min (a.diff s.una) s.buf.length = a.diff s.una := by omega
    rw [hmin]
    refine ⟨?_, ?_, fun _ => ⟨hstart, ?_⟩⟩
    · rw [List.length_drop]
      change e.offset - a.diff s.una + e.len ≤ _
      omega
    · exact (entryPayload_rebased (by omega)).trans hcopied.bytes
    · change e.offset - a.diff s.una = _
      omega
  · rw [if_neg hst]
    exact ⟨d, hretained.mono fun _ _ _ _ _ he => ⟨he.2.fits, he.2.bytes, fun hs => absurd hs hst⟩⟩

theorem Faithful.congr {s' : Sender} (h : Faithful s tr u) (hbuf : s'.buf = s.buf) (hqueue : s'.queue = s.queue)
    (hst : s'.state = .established → s.state = .established) : Faithful s' tr u := by
  obtain ⟨c, htiles⟩ := h
  unfold Faithful
  rw [hbuf, hqueue]
  exact ⟨c, htiles.mono fun _ _ _ _ _ he => ⟨he.fits, he.bytes, fun hs => he.offset (hst hs)⟩⟩

theorem Faithful.step {W : Nat} (s : Sender) (tr : List Sent) (u : Nat) (m : Move) (hearly : s.state.early = false)
    (hm : Legal W AckAtBoundary s m) (hflight : Flight s tr u) (h : Faithful s tr u) :
    Faithful (senderStep s m).1 (tr ++ (senderStep s m).2) (u + s.progress m) := by
  cases m with
  | write data =>
    rw [show (senderStep s (.write data)).2 = [] from rfl, List.append_nil]
    exact h.congr rfl rfl id
  | opened rto => exact absurd (hearly.symm.trans hm.1) Bool.false_ne_true
  | segment clock ack next disarm =>
    rw [show (senderStep s (.segment clock ack next disarm)).2 = [] from rfl, List.append_nil]
    obtain ⟨⟨hshift, hack⟩, hA⟩ := hm
    have hnext := hshift.transmits.1
    cases ack with
    | none => exact h.congr rfl rfl hnext
    | some a =>
      obtain ⟨-, hgt, hle⟩ := hack a rfl
      have hstate : (s.acked a).state = s.state := state_ackedBy s (some a)
      exact (h.acked hflight hgt hle (hA rfl)).congr rfl rfl fun hs => hstate.trans (hnext hs)
  | fill =>
    rw [show (senderStep s .fill).2 = [] from rfl, List.append_nil]
    obtain ⟨-, -, -, hbuf⟩ := s.ring.drain_eq s.buf
    obtain ⟨c, htiles⟩ := h
    refine ⟨c, htiles.mono fun pos e _ _ _ he => ?_⟩
    change Copied (s.ring.drain s.buf).2 _ _ u pos e
    rw [hbuf]
    exact ⟨he.fits.trans (by rw [List.length_append]; exact Nat.le_add_right _ _),
      (entryPayload_append he.fits _).trans he.bytes, he.offset⟩
  | send now n => exact h.send hflight hm.1
  | expire now =>
    unfold Faithful
    rw [freshBytes_expire]
    exact h
  | fin clock =>
    rw [show (senderStep s (.fin clock)).2 = [] from rfl, List.append_nil]
    refine h.congr rfl rfl fun hs => ?_
    simp only [senderStep] at hs
    split_ifs at hs

end

/-! ## Runs -/

/-- A retransmission carries what was sent at its numbers, and covers the oldest unacknowledged byte. -/
def RetransmitsFaithfully (cfg : EngineConfig) (o : Opening) (es : List ConnEvent) : Prop :=
  ∀ t now clock, (connRun cfg o es).1 = .live t →
    ∀ f ∈ (callTcb cfg (.tick now clock) t).out, f.site = .retransmit →
      (∀ i < f.params.payload.length,
        transmittedAt (transmissions cfg o es) (f.params.seq.add i) = f.params.payload[i]?) ∧
      t.sndUna.diff f.params.seq < f.params.payload.length

/-- The window is below half the number space, and no accepted ACK falls inside a segment in flight. -/
def RetransmitSafe : Outcome → ConnEvent → Prop
  | .live t, .tick .. => t.congestion.effectiveWindow t.sndWnd < 2 ^ 31
  | .live t, .segment _ seg => accepts seg t = true → t.state = .established →
      ∀ e ∈ t.retransmitQueue, seg.ack.le e.seq = true ∨ (e.seq.add e.len).le seg.ack = true
  | _, _ => True

theorem ackAtBoundary_of_safe {t : Tcb} {clock : Instant} {seg : ParsedTcpSegment}
    (hsafe : RetransmitSafe (.live t) (.segment clock seg)) (hrst : seg.flags.contains .rst = false) {m : Move}
    (hm : Arises clock seg t m) : AckAtBoundary t.sender m := by
  cases m with
  | segment clock' ack next disarm =>
    cases ack with
    | none => trivial
    | some a =>
      obtain ⟨rfl, hacc⟩ := hm.accepts hrst
      exact hsafe hacc
  | _ => trivial

theorem faithful_opened (s : Sender) (tr : List Sent) (rto : Duration) (h : Embryo s tr) :
    Faithful (senderStep s (.opened rto)).1 tr 0 := by
  have hbytes := h.freshBytes_eq
  refine ⟨0, ?_⟩
  rw [show (senderStep s (.opened rto)).1.queue = [] from h.queue, hbytes]
  rfl

/-- The queue stays faithful along a safe run. -/
theorem faithful_run {cfg : EngineConfig} {o : Opening} {es : List ConnEvent} (h : ConnAlong RetransmitSafe cfg o es) :
    (connRun cfg o es).1.Sends fun s => InFlight (o.tcb cfg).iss Faithful s (transmissions cfg o es) :=
  flight_invariant (W := 2 ^ 31 - 1) (by decide) faithful_opened Faithful.step (fun _ _ _ => Nat.le_pred_of_lt)
    (fun _ _ _ hsafe hrst _ hm => ackAtBoundary_of_safe hsafe hrst hm) h

theorem retransmit_of_tick {cfg : EngineConfig} {now clock : Instant} {t : Tcb} {f : Emitted}
    (hf : f ∈ (callTcb cfg (.tick now clock) t).out) (hsite : f.site = .retransmit) :
    rtoDue now t = true ∧
      ∃ e, t.retransmitQueue.head? = some e ∧ f.params.seq = e.seq ∧ f.params.payload = entryPayload t.sendBuf e := by
  cases tickFrame_of_mem hf with
  | sent h =>
    rw [hsite] at h
    rcases h with h | ⟨-, h | h⟩ <;> cases h
  | retransmitted hdue hf =>
    refine ⟨hdue, ?_⟩
    unfold retransmitFrames at hf
    cases hhead : (rtoBackoff now t).retransmitQueue.head? with
    | none => rw [hhead] at hf; cases hf
    | some e =>
      rw [hhead] at hf
      dsimp only at hf
      split_ifs at hf
      · cases hf
      · rw [List.mem_singleton.1 hf]
        exact ⟨e, hhead, rfl, rfl⟩
  | probed _ _ _ hf => rw [List.mem_singleton.1 hf] at hsite; cases hsite
  | keepalive h => rw [hsite] at h; cases h

/-- The head of the queue carries what was sent. -/
theorem head_of_faithful {s : Sender} {tr : List Sent} {u : Nat} (hflight : Flight s tr u) (h : Faithful s tr u)
    {e : RetransmitEntry} (he : s.queue.head? = some e) : ∃ pos ≤ u, pos + e.len ≤ (freshBytes tr).length ∧
      Queued s.iss u pos e ∧ Copied s.buf (freshBytes tr) (s.state = .established) u pos e := by
  obtain ⟨a, hau, hqueue⟩ := hflight.queue
  obtain ⟨c, htiles⟩ := h
  obtain ⟨-, hboth⟩ := hqueue.and htiles
  obtain ⟨-, hend, hq, hc⟩ := hboth.head? he
  exact ⟨a, hau, hend, hq, hc⟩

/-- **Retransmission fidelity**, in every run whose acknowledgments keep to segment boundaries. -/
theorem retransmits_faithfully (cfg : EngineConfig) (o : Opening) (es : List ConnEvent)
    (h : ConnAlong RetransmitSafe cfg o es) : RetransmitsFaithfully cfg o es := by
  intro t now clock hrun f hf hsite
  obtain ⟨-, e, hhead, hseq, hpayload⟩ := retransmit_of_tick hf hsite
  have hinv := faithful_run h
  rw [hrun] at hinv
  obtain ⟨-, ⟨-, hemb⟩ | ⟨-, u, hflight, hfaithful⟩⟩ := hinv
  · rw [show t.retransmitQueue = [] from hemb.queue] at hhead
    cases hhead
  · obtain ⟨pos, hpos, hend, hq, hc⟩ := head_of_faithful hflight hfaithful hhead
    have hahead := hq.ahead
    have hshort := hq.short
    have hnear := hflight.near
    have hlen : (entryPayload t.sendBuf e).length = e.len := length_entryPayload hc.fits
    rw [hpayload, hseq, hq.seq, hlen]
    refine ⟨fun i hi => ?_, ?_⟩
    · have hbytes : entryPayload t.sendBuf e = _ := hc.bytes
      rw [SeqNum.add_add, Nat.add_assoc, hflight.transmittedAt_eq (by omega) (by omega), hbytes,
        List.getElem?_take_of_lt hi, List.getElem?_drop]
    · have hun : t.sndUna = _ := hflight.una
      rw [hun, Sender.seqAt, SeqNum.diff_add_add _ (by omega) (by omega)]
      omega

instance (s : Outcome) (ev : ConnEvent) : Decidable (RetransmitSafe s ev) := by
  unfold RetransmitSafe
  induction s using Outcome.casesOn <;> induction ev using ConnEvent.casesOn <;> infer_instance

def sampleAcked (ack : BitVec 32) : List ConnEvent :=
  [.segment 1 (sampleSynAck 7000), .setOption (.nodelay true), .write [1, 2, 3], .tick 2 2, .write [4, 5], .tick 3 3,
    .segment 4 (fromPeer 7001 ack .ack 500 [])]

theorem retransmits_faithfully_sample : RetransmitsFaithfully {} sampleOpen (sampleAcked 104) :=
  retransmits_faithfully {} sampleOpen (sampleAcked 104) (by decide +kernel)

/-- After an acknowledgment of the first byte, the second is retransmitted in its place. -/
theorem partial_ack_corrupts : ¬RetransmitsFaithfully {} sampleOpen (sampleAcked 102) := by
  intro h
  have hbad := (h _ (fromSecs 2) 0 rfl _ (List.mem_singleton.2 rfl) rfl).1 0 (by decide +kernel)
  revert hbad
  decide +kernel

end DpdkStdlib.Tcp
