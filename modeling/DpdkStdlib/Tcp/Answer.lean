import DpdkStdlib.Tcp.Control
import DpdkStdlib.Tcp.Receiver

/-!
# Which data is answered

A segment with payload is answered if the call returns an ACK of everything received, or leaves the delayed-ACK timer
armed, from which a later tick sends one.  ESTABLISHED, FIN_WAIT_1 and FIN_WAIT_2 each decide on their own when to
acknowledge.
-/

namespace DpdkStdlib.Tcp
open DpdkStdlib.Lib

variable {seg : ParsedTcpSegment} {t : Tcb}

/-- The states whose handler looks at the payload. -/
def TcpState.takesData : TcpState → Bool
  | .established | .finWait1 | .finWait2 => true
  | .closed | .listen | .synSent | .synReceived | .closeWait | .closing | .lastAck | .timeWait => false

/-- The frame acknowledges everything up to `ack` to the sender of the segment. -/
structure Acknowledges (seg : ParsedTcpSegment) (ack : SeqNum) (f : Emitted) : Prop where
  src : f.params.src = seg.dst
  dst : f.params.dst = seg.src
  flag : f.params.flags.contains .ack = true
  ack : f.params.ack = ack
  built : ∀ ip port ip' port', seg.src = .v4 ip port → seg.dst = .v4 ip' port' → f.frame.isSome = true

/-- The call returned an ACK with `ack = rcv_nxt` for the segment, or left the delayed-ACK timer armed. -/
def Answered (r : CallResult) (seg : ParsedTcpSegment) : Prop :=
  ∃ t', r.engine.tcbs.get? ⟨seg.dst, seg.src⟩ = some t' ∧
    ((∃ f ∈ r.out, Acknowledges seg t'.rcvNxt f) ∨ t'.delayedAckDeadline.isSome = true)

/-- The TCB answers: an ACK is pending, the FIN is next in sequence, or the data is at `rcv_nxt` (unless FIN_WAIT_1
swallows it) or, in ESTABLISHED, ahead. -/
def AnswersData (seg : ParsedTcpSegment) (t : Tcb) : Prop :=
  t.delayedAckDeadline.isSome = true ∨ finInOrder seg (takeData seg t) = true ∨
    (seg.seq = t.rcvNxt ∧ t.state ≠ .finWait1) ∨ (seg.seq.gt t.rcvNxt = true ∧ t.state = .established)

/-! ## The handlers -/

/-- The call answers at once, or has a delayed ACK pending. -/
def Answers (r : Tcb × List Emitted) : Prop := r.2 ≠ [] ∨ r.1.delayedAckDeadline.isSome = true

theorem finInOrder_congr (seg : ParsedTcpSegment) {u : Tcb} (h : t.rcvNxt = u.rcvNxt) :
    finInOrder seg t = finInOrder seg u := by
  rw [finInOrder, finInOrder, h]

theorem takeData_of_ne (h : seg.seq ≠ t.rcvNxt) : takeData seg t = t := by
  rw [takeData, if_neg]
  simp [dataInOrder, h]

theorem delayedAckDeadline_establishedAck (seg : ParsedTcpSegment) (t : Tcb) :
    (establishedAck seg t).delayedAckDeadline = t.delayedAckDeadline := by
  unfold establishedAck updateSendWindow
  split_ifs <;> rfl

theorem rcvNxt_establishedAck (seg : ParsedTcpSegment) (t : Tcb) : (establishedAck seg t).rcvNxt = t.rcvNxt :=
  congrArg Receiver.rcvNxt (receiver_establishedAck seg t)

theorem answers_inOrder (clock : Instant) (seg : ParsedTcpSegment) (t : Tcb) : Answers (inOrder clock seg t) := by
  unfold inOrder
  dsimp only
  split_ifs with hcount harmed
  · exact Or.inl (List.cons_ne_nil _ _)
  · exact Or.inr rfl
  · exact Or.inr (by simpa [Option.isSome_iff_ne_none] using harmed)

theorem answers_establishedFin (seg : ParsedTcpSegment) (r : Tcb × List Emitted) :
    Answers (establishedFin seg r) ↔ finInOrder seg r.1 = true ∨ Answers r := by
  unfold establishedFin
  split_ifs with hfin
  · exact iff_of_true (Or.inl (List.cons_ne_nil _ _)) (Or.inl hfin)
  · simp [hfin]

/-- When ESTABLISHED answers data. -/
theorem answers_handleEstablished (clock : Instant) (hpay : seg.payload ≠ []) (t : Tcb) :
    Answers (handleEstablished clock seg t) ↔ t.delayedAckDeadline.isSome = true ∨
      finInOrder seg (takeData seg t) = true ∨ seg.seq = t.rcvNxt ∨ seg.seq.gt t.rcvNxt = true := by
  rw [handleEstablished, answers_establishedFin, establishedData, if_neg (by simpa using hpay)]
  have hnxt : (noteData clock (establishedAck seg t)).rcvNxt = t.rcvNxt := rcvNxt_establishedAck seg t
  have hdeadline : (noteData clock (establishedAck seg t)).delayedAckDeadline = t.delayedAckDeadline :=
    delayedAckDeadline_establishedAck seg t
  dsimp only
  generalize noteData clock (establishedAck seg t) = u at hnxt hdeadline ⊢
  rw [hnxt]
  split_ifs with heq hgt
  · exact iff_of_true (Or.inr (answers_inOrder clock seg u)) (Or.inr (Or.inr (Or.inl heq)))
  · exact iff_of_true (Or.inr (Or.inl (List.cons_ne_nil _ _))) (Or.inr (Or.inr (Or.inr hgt)))
  · -- old data: what is left is a FIN at `rcv_nxt` and a timer armed before
    rw [finInOrder_congr seg hnxt, takeData_of_ne heq, Answers, hdeadline]
    simp only [ne_eq, not_true_eq_false, false_or, heq, hgt, Bool.false_eq_true, or_false]
    exact or_comm

theorem rcvNxt_takeData_closingAck (seg : ParsedTcpSegment) (t : Tcb) :
    (takeData seg (closingAck seg t)).rcvNxt = (takeData seg t).rcvNxt := by
  unfold closingAck
  split_ifs
  · unfold takeData
    split_ifs with h h' h'
    · rfl
    · exact absurd h h'
    · exact absurd h' h
    · rfl
  · rfl

theorem delayedAckDeadline_takeData (seg : ParsedTcpSegment) (t : Tcb) :
    (takeData seg t).delayedAckDeadline = t.delayedAckDeadline := by
  unfold takeData closingData
  split_ifs <;> rfl

theorem delayedAckDeadline_closingAck (seg : ParsedTcpSegment) (t : Tcb) :
    (closingAck seg t).delayedAckDeadline = t.delayedAckDeadline := by
  unfold closingAck
  split_ifs <;> rfl

/-- When FIN_WAIT_1 answers data. -/
theorem answers_handleFinWait1 (clock : Instant) (seg : ParsedTcpSegment) (t : Tcb) :
    Answers (handleFinWait1 clock seg t) ↔
      t.delayedAckDeadline.isSome = true ∨ finInOrder seg (takeData seg t) = true := by
  have hfin := finInOrder_congr seg (rcvNxt_takeData_closingAck seg t)
  have hdeadline : (takeData seg (closingAck seg t)).delayedAckDeadline = t.delayedAckDeadline := by
    rw [delayedAckDeadline_takeData, delayedAckDeadline_closingAck]
  unfold handleFinWait1
  dsimp only
  generalize takeData seg (closingAck seg t) = u at hfin hdeadline ⊢
  rw [hfin]
  cases finInOrder seg (takeData seg t) <;> split_ifs <;>
    simp_all [Answers, toFinWait2, Tcb.setState]

/-- When FIN_WAIT_2 answers data. -/
theorem answers_handleFinWait2 (clock : Instant) (hpay : seg.payload ≠ []) (t : Tcb) :
    Answers (handleFinWait2 clock seg t) ↔ t.delayedAckDeadline.isSome = true ∨
      finInOrder seg (takeData seg t) = true ∨ seg.seq = t.rcvNxt := by
  have hdeadline := delayedAckDeadline_takeData seg t
  have hdata : dataInOrder seg t = true ↔ seg.seq = t.rcvNxt := by simp [dataInOrder, hpay]
  unfold handleFinWait2
  dsimp only
  split_ifs with hfin hin
  · exact iff_of_true (Or.inl (List.cons_ne_nil _ _)) (Or.inr (Or.inl hfin))
  · exact iff_of_true (Or.inl (List.cons_ne_nil _ _)) (Or.inr (Or.inr (hdata.1 hin)))
  · simp only [Answers, ne_eq, not_true_eq_false, false_or, hdeadline, hfin, ← hdata, hin, Bool.false_eq_true, or_false]

/-- **When a segment is answered.** In the states that take data, in terms of the TCB it finds. -/
theorem answers_handleExistingTcb (clock : Instant) (hpay : seg.payload ≠ []) (hst : t.state.takesData = true) :
    ∃ r, handleExistingTcb clock seg t = .keep r ∧ (Answers r ↔ AnswersData seg t) := by
  unfold handleExistingTcb AnswersData
  cases h : t.state with
  | established =>
    refine ⟨_, rfl, (answers_handleEstablished clock hpay t).trans ?_⟩
    simp
  | finWait1 =>
    refine ⟨_, rfl, (answers_handleFinWait1 clock seg t).trans ?_⟩
    simp
  | finWait2 =>
    refine ⟨_, rfl, (answers_handleFinWait2 clock hpay t).trans ?_⟩
    simp
  | _ => rw [h] at hst; cases hst

/-! ## The engine -/

theorem acknowledges_of_mem {clock : Instant} {t' : Tcb} {f : Emitted} (hkey : t.key = ⟨seg.dst, seg.src⟩)
    (hst : t.state.takesData = true) (hlive : (segmentTcb clock seg t).outcome = .live t')
    (hf : f ∈ (segmentTcb clock seg t).out) : Acknowledges seg t'.rcvNxt f := by
  have hflags : f.site.flags = .ack := by
    rcases site_segmentTcb hf with h | h | ⟨-, h⟩
    · rw [h]; rfl
    · rw [h]; rfl
    · rw [h] at hst; cases hst
  have hbuilt := built_segmentTcb clock seg t f hf
  have hkey' : t'.key = ⟨seg.dst, seg.src⟩ := (congrArg Identity.key (identity_segmentTcb hlive)).trans hkey
  have hack : TcpFlags.ack.contains .ack = true := by decide
  rw [Effect.after, hlive] at hbuilt
  obtain ⟨seq, payload, hparams, -⟩ := hbuilt
  rw [hflags] at hparams
  refine ⟨by rw [hparams, Tcb.params, hkey'], by rw [hparams, Tcb.params, hkey'], by rw [hparams]; exact hack,
    by rw [hparams]; rfl, fun ip port ip' port' hsrc hdst => ?_⟩
  rw [Emitted.frame, hparams, buildTcpFrame, Tcb.params]
  dsimp only
  rw [hkey', hdst, hsrc]
  rfl

/-- **Data is answered** by a reachable engine exactly if the TCB it finds meets `AnswersData`. -/
theorem data_answered_iff (isnGen : IsnGenerator) (cfg : EngineConfig) (evs : List EngineEvent) (clock : Instant)
    (seg : ParsedTcpSegment) (srcMac dstMac : MacAddr) (t : Tcb)
    (ht : (engineRun (.new isnGen cfg) evs).tcbs.get? ⟨seg.dst, seg.src⟩ = some t) (hst : t.state.takesData = true)
    (hrst : seg.flags.contains .rst = false) (hpay : seg.payload ≠ []) :
    Answered ((engineRun (.new isnGen cfg) evs).onSegmentWithMacs clock seg srcMac dstMac) seg ↔ AnswersData seg t := by
  obtain ⟨r, hkeep, hiff⟩ := answers_handleExistingTcb clock hpay hst
  have heff : segmentTcb clock seg t = .keep r := by
    rw [segmentTcb, if_neg (by rw [hrst]; exact Bool.false_ne_true), hkeep]
  have hlive : (segmentTcb clock seg t).outcome = .live r.1 := by rw [heff]; rfl
  have hout : (segmentTcb clock seg t).out = r.2 := by rw [heff]; rfl
  obtain ⟨hview, hcall⟩ := TcpEngine.view_onSegment clock ht srcMac dstMac
  have hafter := (TcpEngine.view_eq_live_iff _ _ _).1 (hview.trans (congrArg some hlive))
  have hkey := (reachable_identity isnGen cfg evs ht).1
  rw [← hiff, Answered, hcall, hout]
  constructor
  · rintro ⟨t', ht', hack | harmed⟩
    · obtain ⟨f, hf, -⟩ := hack
      exact Or.inl (List.ne_nil_of_mem hf)
    · obtain rfl := Option.some.inj (hafter.symm.trans ht')
      exact Or.inr harmed
  · rintro (hne | harmed)
    · obtain ⟨f, hf⟩ := List.exists_mem_of_ne_nil _ hne
      exact ⟨r.1, hafter, Or.inl ⟨f, hf, acknowledges_of_mem hkey hst hlive (by rw [hout]; exact hf)⟩⟩
    · exact ⟨r.1, hafter, Or.inr harmed⟩

/-- The sample connection, established with a peer whose stream starts at 1001, and further events. -/
def sampleHistory (evs : List EngineEvent) : TcpEngine :=
  engineRun sampleBoot
    ([.connect 0 sampleKey (Vector.replicate 6 1) (Vector.replicate 6 2) 65536 65536 0,
      .segment 1 (sampleSynAck 1000) (Vector.replicate 6 2) (Vector.replicate 6 1)] ++ evs)

def receives (seg : ParsedTcpSegment) : EngineEvent := .segment 2 seg (Vector.replicate 6 2) (Vector.replicate 6 1)

def samplePayload (seq : BitVec 32) (payload : List UInt8) : ParsedTcpSegment := fromPeer seq 101 .ack 500 payload

theorem data_answered_sample :
    Answered ((sampleHistory [receives (samplePayload 1001 [1, 2])]).onSegmentWithMacs 3 (samplePayload 1003 [3])
      (Vector.replicate 6 2) (Vector.replicate 6 1)) (samplePayload 1003 [3]) := by
  refine (data_answered_iff _ _ _ 3 (samplePayload 1003 [3]) _ _ _ rfl (by decide) (by decide) (by decide)).2 ?_
  exact Or.inr (Or.inr (Or.inl ⟨by decide, by decide⟩))

theorem not_answered {r : CallResult} (hout : r.out = [])
    (htimer : ((r.engine.tcbs.get? ⟨seg.dst, seg.src⟩).map Tcb.delayedAckDeadline) = some none) : ¬Answered r seg := by
  rintro ⟨t', ht', ⟨f, hf, -⟩ | harmed⟩
  · rw [hout] at hf
    cases hf
  · rw [ht'] at htimer
    rw [Option.some.inj htimer] at harmed
    cases harmed

/-- Data left without an answer: a retransmission in ESTABLISHED; data delivered after our FIN; data ahead of a gap
after its ACK. -/
theorem retransmission_unanswered :
    (¬Answered ((sampleHistory [receives (samplePayload 1001 [1, 2]),
          receives (samplePayload 1003 [3])]).onSegmentWithMacs 3 (samplePayload 1003 [3])
        (Vector.replicate 6 2) (Vector.replicate 6 1)) (samplePayload 1003 [3])) ∧
      (¬Answered ((sampleHistory [.shutdown 2 sampleKey .write]).onSegmentWithMacs 3 (samplePayload 1001 [1])
        (Vector.replicate 6 2) (Vector.replicate 6 1)) (samplePayload 1001 [1])) ∧
      ¬Answered ((sampleHistory [.shutdown 2 sampleKey .write,
          receives (fromPeer 1001 102 .ack 500 [])]).onSegmentWithMacs 3 (samplePayload 1002 [2])
        (Vector.replicate 6 2) (Vector.replicate 6 1)) (samplePayload 1002 [2]) :=
  ⟨not_answered (by decide) (by decide), not_answered (by decide) (by decide), not_answered (by decide) (by decide)⟩

end DpdkStdlib.Tcp
