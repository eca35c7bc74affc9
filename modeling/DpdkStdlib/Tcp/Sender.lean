import DpdkStdlib.Tcp.Emission

/-!
# The send side of a connection

`Sender` is the part of a TCB that outbound bytes go through: `snd_una`, `snd_nxt`, `send_buf`, the retransmit queue,
the ring from the application, and the retransmission timer.  `senderStep` is a machine of its own on it, whose `Move`s
are the atomic changes the engine makes; its output is what was sent with data in it.
-/

namespace DpdkStdlib.Tcp
open DpdkStdlib.Lib

structure Sender where
  state : TcpState
  iss : SeqNum
  una : SeqNum
  nxt : SeqNum
  buf : List UInt8
  queue : List RetransmitEntry
  ring : SpscByteRing
  deadline : Option Instant
  rto : Duration
  count : Nat

def Tcb.sender (t : Tcb) : Sender where
  state := t.state
  iss := t.iss
  una := t.sndUna
  nxt := t.sndNxt
  buf := t.sendBuf
  queue := t.retransmitQueue
  ring := t.handle.txRing
  deadline := t.rtoDeadline
  rto := t.congestion.rto
  count := t.retransmitCount

/-- A segment with data that was sent: when, whether its bytes were new, where they stand and what they are. -/
structure Sent where
  time : Instant
  fresh : Bool
  seq : SeqNum
  payload : List UInt8

def Emitted.sent? (time : Instant) (f : Emitted) : Option Sent :=
  match f.site with
  | .data => some ⟨time, true, f.params.seq, f.params.payload⟩
  | .retransmit => some ⟨time, false, f.params.seq, f.params.payload⟩
  | _ => none

def sentOf (time : Instant) (out : List Emitted) : List Sent := out.filterMap (Emitted.sent? time)

theorem sentOf_eq_nil {time : Instant} {out : List Emitted}
    (h : ∀ f ∈ out, f.site ≠ .data ∧ f.site ≠ .retransmit) : sentOf time out = [] := by
  refine List.filterMap_eq_nil_iff.2 fun f hf => ?_
  obtain ⟨hdata, hre⟩ := h f hf
  unfold Emitted.sent?
  split
  · next hs => exact absurd hs hdata
  · next hs => exact absurd hs hre
  · rfl

def RetransmitEntry.rebased (n : Nat) (e : RetransmitEntry) : RetransmitEntry := { e with offset := e.offset - n }

namespace Sender

/-- Where the unsent part of `buf` starts, by the engine's account. -/
def sentOffset (s : Sender) : Nat := (s.queue.getLast?.map fun e => e.offset + e.len).getD 0

def unsent (s : Sender) : Nat := s.buf.length - s.sentOffset

/-- The deadline after something is sent at `now`: armed if it was not. -/
def armed (now : Instant) (s : Sender) : Option Instant :=
  if s.deadline.isNone then some (now + s.rto) else s.deadline

/-- An accepted acknowledgment: only ESTABLISHED drains the buffer. -/
def acked (a : SeqNum) (s : Sender) : Sender :=
  if s.state = .established then
    { s with
      una := a
      queue := (retainUnacked a s.queue).map (RetransmitEntry.rebased (min (a.diff s.una) s.buf.length))
      buf := s.buf.drop (min (a.diff s.una) s.buf.length) }
  else { s with una := a, queue := retainUnacked a s.queue }

def ackedBy (s : Sender) : Option SeqNum → Sender
  | some a => s.acked a
  | none => s

def retransmission (now : Instant) (s : Sender) : List Sent :=
  match s.queue.head? with
  | some e => if (entryPayload s.buf e).isEmpty then [] else [⟨now, false, e.seq, entryPayload s.buf e⟩]
  | none => []

end Sender

inductive Move
  | write (data : List UInt8)
  | opened (rto : Duration)
  | segment (clock : Instant) (ack : Option SeqNum) (next : TcpState) (disarm : Bool)
  | fill
  | send (now : Instant) (n : Nat)
  | expire (now : Instant)
  | fin (clock : Instant)

def Move.inbound : Move → Bool
  | .opened _ | .segment .. => true
  | .write _ | .fill | .send .. | .expire _ | .fin _ => false

/-- The move is made at `time`, if it looks at the time; the FIN reads a clock of its own. -/
def Move.At (time : Instant) : Move → Prop
  | .segment clock .. => clock = time
  | .send now _ | .expire now => now = time
  | .write _ | .opened _ | .fill | .fin _ => True

def senderStep (s : Sender) : Move → Sender × List Sent
  | .write data => ({ s with ring := (s.ring.write data).1 }, [])
  | .opened rto => ({ s with state := .established, una := s.iss.add 1, deadline := none, rto }, [])
  | .segment _ ack next disarm =>
    ({ s.ackedBy ack with state := next, deadline := if disarm then none else s.deadline }, [])
  | .fill => ({ s with ring := (s.ring.drain s.buf).1, buf := (s.ring.drain s.buf).2 }, [])
  | .send now n =>
    ({ s with
        nxt := s.nxt.add n
        queue := s.queue ++ [{ seq := s.nxt, offset := s.sentOffset, len := n, sentAt := now, retransmitCount := 0 }]
        deadline := s.armed now },
      [⟨now, true, s.nxt, (s.buf.drop s.sentOffset).take n⟩])
  | .expire now =>
    ({ s with
        count := (s.count + 1) % 2 ^ 32
        rto := min (s.rto * 2) (fromSecs 60)
        deadline := some (now + min (s.rto * 2) (fromSecs 60)) },
      s.retransmission now)
  | .fin clock =>
    ({ s with
        state := if s.state = .established then .finWait1 else .lastAck
        nxt := s.nxt.add 1
        deadline := s.armed clock }, [])

/-- The state changes of inbound segments, and whether they clear the retransmission timer. -/
inductive TcpState.Shifts : TcpState → TcpState → Bool → Prop
  | stay (s) : Shifts s s false
  | finTaken : Shifts .established .closeWait false
  | finAcked : Shifts .finWait1 .finWait2 true
  | simultaneous : Shifts .finWait1 .closing false
  | both : Shifts .finWait1 .timeWait false
  | finWait2 : Shifts .finWait2 .timeWait false
  | closingAcked : Shifts .closing .timeWait true

def TcpState.takesAcks : TcpState → Bool
  | .established | .finWait1 | .closeWait => true
  | .closed | .listen | .synSent | .synReceived | .finWait2 | .closing | .lastAck | .timeWait => false

/-- When a move can happen, with a send window of `W`. -/
def Enabled (W : Nat) (s : Sender) : Move → Prop
  | .write _ => True
  | .opened _ => s.state.early = true
  | .segment _ ack next disarm => s.state.Shifts next disarm ∧
      ∀ a, ack = some a → s.state.takesAcks = true ∧ a.gt s.una = true ∧ a.le s.nxt = true
  | .fill => s.state = .established ∨ s.state = .closeWait
  | .send _ n => (s.state = .established ∨ s.state = .closeWait) ∧ 0 < n ∧ n ≤ s.unsent ∧ s.nxt.diff s.una + n ≤ W
  | .expire now => due now s.deadline = true ∧ s.queue ≠ []
  | .fin _ => (s.state = .established ∨ s.state = .closeWait) ∧ s.unsent = 0

/-- An enabled move that also meets a condition on the inbound ones. -/
def Legal (W : Nat) (A : Sender → Move → Prop) (s : Sender) (m : Move) : Prop :=
  Enabled W s m ∧ (m.inbound = true → A s m)

/-- Legal moves at `time` lead from `s` to `s'` and send what the frames of `out` carry. -/
def Acts (W : Nat) (A : Sender → Move → Prop) (time : Instant) (s : Sender) (out : List Emitted) (s' : Sender) : Prop :=
  ∃ ms, Along (fun s m => Legal W A s m ∧ m.At time) senderStep s ms ∧ run senderStep s ms = (s', sentOf time out)

section acts
variable {W : Nat} {A : Sender → Move → Prop} {time : Instant} {s s' s'' : Sender} {out out' : List Emitted}

theorem Acts.refl (s : Sender) (hout : sentOf time out = []) : Acts W A time s out s :=
  ⟨[], trivial, by rw [hout]; rfl⟩

theorem Acts.single {m : Move} (h : Legal W A s m) (hat : m.At time) (hs : (senderStep s m).1 = s')
    (hout : (senderStep s m).2 = sentOf time out) : Acts W A time s out s' :=
  ⟨[m], ⟨⟨h, hat⟩, trivial⟩, by simp [hs, hout]⟩

theorem Acts.trans (h : Acts W A time s out s') (h' : Acts W A time s' out' s'') :
    Acts W A time s (out ++ out') s'' := by
  obtain ⟨ms, hms, hrun⟩ := h
  obtain ⟨ms', hms', hrun'⟩ := h'
  refine ⟨ms ++ ms', (along_append _ _ _).2 ⟨hms, by rwa [hrun]⟩, ?_⟩
  rw [run_append, hrun, hrun']
  simp [sentOf]

theorem Enabled.legal {m : Move} (h : Enabled W s m) (hm : m.inbound = false) : Legal W A s m :=
  ⟨h, fun hin => by rw [hm] at hin; cases hin⟩

end acts

/-! ## Segments -/

/-- The acknowledgment of a segment, if it is accepted. -/
def acceptedAck (seg : ParsedTcpSegment) (t : Tcb) : Option SeqNum :=
  if seg.flags.contains .ack && ackAcceptable seg t then some seg.ack else none

/-- The segment's acknowledgment is in range, and the segment is not a reset. -/
def accepts (seg : ParsedTcpSegment) (t : Tcb) : Bool :=
  !seg.flags.contains .rst && seg.flags.contains .ack && ackAcceptable seg t

/-- The move of an inbound segment, with what the segment and the TCB must be for it. -/
inductive Arises (clock : Instant) (seg : ParsedTcpSegment) (t : Tcb) : Move → Prop
  | opened (rto) (hst : t.state.early = true) (hack : seg.ack = t.iss.add 1) : Arises clock seg t (.opened rto)
  | established (next) (hst : t.state = .established) (hnext : next = .established ∨ next = .closeWait) :
      Arises clock seg t (.segment clock (acceptedAck seg t) next false)
  | finWait1Both (hst : t.state = .finWait1) (hacked : finAcked seg t = true)
      (hfin : finInOrder seg (takeData seg t) = true) :
      Arises clock seg t (.segment clock (acceptedAck seg t) .timeWait false)
  | finWait1Acked (hst : t.state = .finWait1) (hacked : finAcked seg t = true)
      (hfin : finInOrder seg (takeData seg t) = false) :
      Arises clock seg t (.segment clock (acceptedAck seg t) .finWait2 true)
  | finWait1Fin (hst : t.state = .finWait1) (hacked : finAcked seg t = false) :
      Arises clock seg t (.segment clock (acceptedAck seg t) .closing false)
  | finWait1Open (hst : t.state = .finWait1) (hacked : finAcked seg t = false) :
      Arises clock seg t (.segment clock (acceptedAck seg t) .finWait1 false)
  | closeWait (hst : t.state = .closeWait) : Arises clock seg t (.segment clock (acceptedAck seg t) .closeWait false)
  | finWait2 (hst : t.state = .finWait2) : Arises clock seg t (.segment clock none .timeWait false)
  | closingAcked (hst : t.state = .closing) (hacked : finAcked seg t = true) :
      Arises clock seg t (.segment clock none .timeWait true)

theorem Arises.inbound {clock : Instant} {seg : ParsedTcpSegment} {t : Tcb} {m : Move} (h : Arises clock seg t m) :
    m.inbound = true := by
  cases h <;> rfl

theorem Arises.at {clock : Instant} {seg : ParsedTcpSegment} {t : Tcb} {m : Move} (h : Arises clock seg t m) :
    m.At clock := by
  cases h <;> first | rfl | trivial

theorem acceptedAck_eq_some {seg : ParsedTcpSegment} {t : Tcb} {a : SeqNum} (h : acceptedAck seg t = some a) :
    a = seg.ack ∧ seg.flags.contains .ack = true ∧ a.gt t.sndUna = true ∧ a.le t.sndNxt = true := by
  unfold acceptedAck at h
  split_ifs at h with hacc
  obtain rfl := Option.some.inj h
  rw [Bool.and_eq_true, ackAcceptable, Bool.and_eq_true] at hacc
  exact ⟨rfl, hacc.1, hacc.2⟩

theorem Arises.enabled {clock : Instant} {seg : ParsedTcpSegment} {t : Tcb} {m : Move} (h : Arises clock seg t m)
    (W : Nat) : Enabled W t.sender m := by
  have hacc (hst : t.state.takesAcks = true) : ∀ a, acceptedAck seg t = some a →
      t.state.takesAcks = true ∧ a.gt t.sndUna = true ∧ a.le t.sndNxt = true := fun a ha =>
    ⟨hst, (acceptedAck_eq_some ha).2.2⟩
  have hstate : t.sender.state = t.state := rfl
  cases h with
  | opened _ hst => exact hst
  | established next hst hnext =>
    refine ⟨?_, hacc (by rw [hst]; rfl)⟩
    rw [hstate, hst]
    rcases hnext with rfl | rfl
    · exact .stay _
    · exact .finTaken
  | finWait1Both hst => exact ⟨by rw [hstate, hst]; exact .both, hacc (by rw [hst]; rfl)⟩
  | finWait1Acked hst => exact ⟨by rw [hstate, hst]; exact .finAcked, hacc (by rw [hst]; rfl)⟩
  | finWait1Fin hst => exact ⟨by rw [hstate, hst]; exact .simultaneous, hacc (by rw [hst]; rfl)⟩
  | finWait1Open hst => exact ⟨by rw [hstate, hst]; exact .stay _, hacc (by rw [hst]; rfl)⟩
  | closeWait hst => exact ⟨by rw [hstate, hst]; exact .stay _, hacc (by rw [hst]; rfl)⟩
  | finWait2 hst => exact ⟨by rw [hstate, hst]; exact .finWait2, nofun⟩
  | closingAcked hst => exact ⟨by rw [hstate, hst]; exact .closingAcked, nofun⟩

theorem Arises.acceptedAck_eq {clock clock' : Instant} {seg : ParsedTcpSegment} {t : Tcb} {a : SeqNum} {next : TcpState}
    {disarm : Bool} (h : Arises clock seg t (.segment clock' (some a) next disarm)) : acceptedAck seg t = some a := by
  generalize hack : some a = ack at h
  cases h with
  | finWait2 | closingAcked => cases hack
  | _ => rfl

theorem Arises.accepts {clock clock' : Instant} {seg : ParsedTcpSegment} {t : Tcb} {a : SeqNum} {next : TcpState}
    {disarm : Bool} (h : Arises clock seg t (.segment clock' (some a) next disarm))
    (hrst : seg.flags.contains .rst = false) : a = seg.ack ∧ Tcp.accepts seg t = true := by
  obtain ⟨rfl, hflag, hgt, hle⟩ := acceptedAck_eq_some h.acceptedAck_eq
  exact ⟨rfl, by simp [Tcp.accepts, hrst, hflag, ackAcceptable, hgt, hle]⟩

theorem sender_updateSendWindow (seg : ParsedTcpSegment) (t : Tcb) : (updateSendWindow seg t).sender = t.sender := by
  unfold updateSendWindow
  split_ifs <;> rfl

theorem sender_ackAndDrain (seg : ParsedTcpSegment) (t : Tcb) (hst : t.state = .established) :
    (ackAndDrain seg t).sender = t.sender.acked seg.ack := by
  rw [Sender.acked, if_pos (show t.sender.state = .established from hst)]
  simp [Tcb.sender, ackAndDrain, RetransmitEntry.rebased]

theorem sender_ackAndPrune (seg : ParsedTcpSegment) (t : Tcb) (hst : t.state ≠ .established) :
    (ackAndPrune seg t).sender = t.sender.acked seg.ack := by
  rw [Sender.acked, if_neg (show t.sender.state ≠ .established from hst)]
  simp [Tcb.sender, ackAndPrune]

theorem sender_establishedAck (seg : ParsedTcpSegment) (t : Tcb) (hst : t.state = .established) :
    (establishedAck seg t).sender = t.sender.ackedBy (acceptedAck seg t) := by
  unfold establishedAck acceptedAck
  cases hflag : seg.flags.contains .ack with
  | false => rfl
  | true =>
    cases hacc : ackAcceptable seg t with
    | false => exact sender_updateSendWindow seg t
    | true => exact (sender_updateSendWindow seg _).trans (sender_ackAndDrain seg t hst)

theorem sender_closingAck (seg : ParsedTcpSegment) (t : Tcb) (hst : t.state ≠ .established) :
    (closingAck seg t).sender = t.sender.ackedBy (acceptedAck seg t) := by
  unfold closingAck acceptedAck
  split_ifs
  · exact sender_ackAndPrune seg t hst
  · rfl

theorem sender_establishedData (clock : Instant) (seg : ParsedTcpSegment) (t : Tcb) :
    (establishedData clock seg t).1.sender = t.sender := by
  unfold establishedData inOrder outOfOrder
  dsimp only
  split_ifs <;> rfl

theorem sender_takeData (seg : ParsedTcpSegment) (t : Tcb) : (takeData seg t).sender = t.sender := by
  unfold takeData
  split_ifs <;> rfl

theorem finInOrder_closingAck (seg : ParsedTcpSegment) (t : Tcb) :
    finInOrder seg (takeData seg (closingAck seg t)) = finInOrder seg (takeData seg t) := by
  unfold closingAck
  split_ifs
  · unfold takeData dataInOrder ackAndPrune
    dsimp only
    split_ifs <;> rfl
  · rfl

theorem deadline_ackedBy (s : Sender) (ack : Option SeqNum) : (s.ackedBy ack).deadline = s.deadline := by
  cases ack with
  | none => rfl
  | some a =>
    unfold Sender.ackedBy Sender.acked
    dsimp only
    split_ifs <;> rfl

theorem state_ackedBy (s : Sender) (ack : Option SeqNum) : (s.ackedBy ack).state = s.state := by
  cases ack with
  | none => rfl
  | some a =>
    unfold Sender.ackedBy Sender.acked
    dsimp only
    split_ifs <;> rfl

theorem step_segment {s s' : Sender} {clock : Instant} {ack : Option SeqNum} {next : TcpState} {disarm : Bool}
    (h : s' = { s.ackedBy ack with state := next, deadline := if disarm then none else (s.ackedBy ack).deadline }) :
    (senderStep s (.segment clock ack next disarm)).1 = s' := by
  rw [h, deadline_ackedBy]
  rfl

theorem sender_handleEstablished (clock : Instant) (seg : ParsedTcpSegment) (t : Tcb) (hst : t.state = .established) :
    ∃ next, (next = .established ∨ next = .closeWait) ∧
      (senderStep t.sender (.segment clock (acceptedAck seg t) next false)).1 =
        (handleEstablished clock seg t).1.sender := by
  have hdata := sender_establishedData clock seg (establishedAck seg t)
  rw [sender_establishedAck seg t hst] at hdata
  have hstate : (t.sender.ackedBy (acceptedAck seg t)).state = .established := (state_ackedBy _ _).trans hst
  unfold handleEstablished establishedFin
  dsimp only
  split_ifs
  · refine ⟨.closeWait, Or.inr rfl, step_segment ?_⟩
    rw [← hdata]
    rfl
  · refine ⟨.established, Or.inl rfl, step_segment ?_⟩
    rw [hdata, ← hstate]
    rfl

theorem sender_finWait1 (seg : ParsedTcpSegment) (t : Tcb) (hst : t.state = .finWait1) :
    (takeData seg (closingAck seg t)).sender = t.sender.ackedBy (acceptedAck seg t) := by
  rw [sender_takeData, sender_closingAck seg t (by rw [hst]; decide)]

theorem sender_segmentTcb {clock : Instant} {seg : ParsedTcpSegment} {t t' : Tcb}
    (h : (segmentTcb clock seg t).outcome = .live t') :
    t'.sender = t.sender ∨
      seg.flags.contains .rst = false ∧ ∃ m, Arises clock seg t m ∧ senderStep t.sender m = (t'.sender, []) := by
  by_cases hrst : seg.flags.contains .rst = true
  · rw [segmentTcb, if_pos hrst] at h
    exact Or.inl (by rw [live_handleRst h])
  refine Or.imp_right (fun hm => ⟨Bool.not_eq_true _ ▸ hrst, hm⟩) ?_
  generalize heff : segmentTcb clock seg t = eff at h
  have hone {ack : Option SeqNum} {next : TcpState} {disarm : Bool}
      (harise : Arises clock seg t (.segment clock ack next disarm))
      (hstep : (senderStep t.sender (.segment clock ack next disarm)).1 = t'.sender) :
      t'.sender = t.sender ∨ ∃ m, Arises clock seg t m ∧ senderStep t.sender m = (t'.sender, []) :=
    Or.inr ⟨_, harise, Prod.ext hstep rfl⟩
  cases segmentTcb_cases heff with
  | refused | embryoReset | reset | lastAcked => cases h
  | ignored => cases h; exact Or.inl rfl
  | challenged => cases h; exact Or.inl rfl
  | finAgain => cases h; exact Or.inl rfl
  | synAcked hst _ _ hack =>
    cases h
    refine Or.inr ⟨.opened (CongestionState.new (min t.localMss (seg.options.mss.getD defaultPeerMss))).rto,
      .opened _ (by rw [hst]; rfl) hack, ?_⟩
    unfold senderStep synAckTcb
    rw [hack]
    rfl
  | accepted hst _ hack =>
    cases h
    refine Or.inr ⟨.opened t.congestion.rto, .opened _ (by rw [hst]; rfl) hack, ?_⟩
    unfold senderStep acceptedTcb
    rw [hack]
    rfl
  | established hst =>
    obtain ⟨next, hnext, hstep⟩ := sender_handleEstablished clock seg t hst
    rw [Effect.live_keep h] at hone ⊢
    exact hone (.established next hst hnext) hstep
  | finWait1Both hst hacked hfin =>
    rw [finInOrder_closingAck] at hfin
    cases h
    exact hone (.finWait1Both hst hacked hfin) (step_segment (by rw [← sender_finWait1 seg t hst]; rfl))
  | finWait1Acked hst hacked hfin =>
    rw [finInOrder_closingAck] at hfin
    cases h
    exact hone (.finWait1Acked hst hacked hfin) (step_segment (by rw [← sender_finWait1 seg t hst]; rfl))
  | finWait1Fin hst hacked =>
    cases h
    exact hone (.finWait1Fin hst hacked) (step_segment (by rw [← sender_finWait1 seg t hst]; rfl))
  | finWait1Open hst hacked =>
    cases h
    refine hone (.finWait1Open hst hacked) (step_segment ?_)
    rw [sender_finWait1 seg t hst, ← (state_ackedBy t.sender (acceptedAck seg t)).trans hst]
    rfl
  | finWait2Fin hst =>
    cases h
    refine hone (.finWait2 hst) (step_segment ?_)
    have htake := sender_takeData seg t
    unfold Sender.ackedBy
    rw [← htake]
    rfl
  | finWait2Data => cases h; exact Or.inl (sender_takeData seg t)
  | closeWait hst =>
    cases h
    refine hone (.closeWait hst) (step_segment ?_)
    rw [sender_closingAck seg t (by rw [hst]; decide), ← (state_ackedBy t.sender (acceptedAck seg t)).trans hst]
    rfl
  | closingAcked hst hacked => cases h; exact hone (.closingAcked hst hacked) rfl

/-! ## Commands and ticks -/

section ticks
variable {W : Nat} {A : Sender → Move → Prop} {time : Instant}

theorem acts_fill (t : Tcb) (hst : t.state = .established ∨ t.state = .closeWait) :
    Acts W A time t.sender [] (drainTxRing t).sender :=
  Acts.single (m := .fill) (Enabled.legal hst rfl) trivial rfl rfl

theorem acts_sendFin (clock : Instant) (t : Tcb) (hst : t.state = .established ∨ t.state = .closeWait)
    (hunsent : t.unsent = 0) : Acts W A time t.sender (sendFin clock t).2 (sendFin clock t).1.sender := by
  have hnil : sentOf time (sendFin clock t).2 = [] := sentOf_eq_nil fun f hf => by rw [site_sendFin hf]; decide
  refine Acts.single (m := .fin clock) (Enabled.legal ⟨hst, hunsent⟩ rfl) trivial ?_ (by rw [hnil]; rfl)
  rcases hst with hst | hst <;> simp only [senderStep, sendFin, hst, Tcb.sender] <;> rfl

theorem acts_handleShutdown (clock : Instant) (how : Shutdown) (t : Tcb) :
    Acts W A time t.sender (handleShutdown clock how t).2 (handleShutdown clock how t).1.sender := by
  generalize h : handleShutdown clock how t = r
  cases handleShutdown_cases h with
  | ignored => exact Acts.refl _ rfl
  | eof => exact Acts.refl _ rfl
  | waits hst => exact acts_fill { t with finPending := true } hst
  | sends hst hunsent =>
    have hfill : Acts W A time t.sender [] (shutdownDrained t).sender := acts_fill { t with finPending := true } hst
    exact hfill.trans (acts_sendFin clock (shutdownDrained t) hst hunsent)

theorem nextSegmentLen_le {t : Tcb} (h : nextSegmentLen t ≠ 0) :
    nextSegmentLen t ≤ t.unsent ∧ t.flightSize + nextSegmentLen t ≤ t.congestion.effectiveWindow t.sndWnd := by
  unfold nextSegmentLen Tcb.availableSendWindow at *
  dsimp only at *
  split_ifs at h ⊢ <;> omega

theorem acts_segmentLoop (now : Instant) (fuel : Nat) : ∀ t : Tcb, t.state = .established ∨ t.state = .closeWait →
    t.congestion.effectiveWindow t.sndWnd ≤ W →
    Acts W A now t.sender (segmentLoop now fuel t).2 (segmentLoop now fuel t).1.sender := by
  induction fuel with
  | zero => intro t _ _; exact Acts.refl _ rfl
  | succ fuel ih =>
    intro t hst hW
    rw [segmentLoop]
    split_ifs with hn
    · exact Acts.refl _ rfl
    · obtain ⟨hle, hwin⟩ := nextSegmentLen_le hn
      have hsend : Acts W A now t.sender [(sendSegment now (nextSegmentLen t) t).2]
          (sendSegment now (nextSegmentLen t) t).1.sender :=
        Acts.single (m := .send now (nextSegmentLen t))
          (Enabled.legal ⟨hst, Nat.pos_of_ne_zero hn, hle, hwin.trans hW⟩ rfl) rfl rfl rfl
      exact hsend.trans (ih _ hst hW)

theorem sender_armTimers (now : Instant) (t : Tcb) : (armTimers now t).sender = t.sender := by
  obtain ⟨_, _, _, h⟩ := armTimers_frame now t
  rw [h]
  rfl

theorem acts_flushFin (clock : Instant) (t : Tcb) (hst : t.state = .established ∨ t.state = .closeWait) :
    Acts W A time t.sender (flushFin clock t).2 (flushFin clock t).1.sender := by
  unfold flushFin
  split_ifs with h
  · exact acts_sendFin clock t hst h.2.1
  · exact Acts.refl _ rfl

theorem acts_txSend (now : Instant) (t : Tcb) (hst : t.state = .established ∨ t.state = .closeWait)
    (hW : t.congestion.effectiveWindow t.sndWnd ≤ W) :
    Acts W A now t.sender (txSend now t).2 (txSend now t).1.sender := by
  have hloop := acts_segmentLoop (A := A) now (drainTxRing t).sendBuf.length (drainTxRing t) hst hW
  have h := (acts_fill t hst).trans hloop
  rwa [List.nil_append] at h

theorem state_txSend (now : Instant) (t : Tcb) : (txSend now t).1.state = t.state := by
  obtain ⟨_, _, _, _, hsend⟩ := txSend_frame now t
  rw [hsend]
  rfl

/-- The drain is a series of legal moves. -/
theorem acts_txDrain (now clock : Instant) (t : Tcb) (hst : t.state = .established ∨ t.state = .closeWait)
    (hW : t.congestion.effectiveWindow t.sndWnd ≤ W) :
    Acts W A now t.sender (txDrain now clock t).2 (txDrain now clock t).1.sender := by
  have hsame := sender_armTimers now (txSend now t).1
  have hstate := congrArg Sender.state hsame
  dsimp only [Tcb.sender] at hstate
  rw [state_txSend] at hstate
  have hflush : Acts W A now _ _ _ := acts_flushFin clock (armTimers now (txSend now t).1) (by rwa [hstate])
  rw [hsame] at hflush
  unfold txDrain
  dsimp only
  exact (acts_txSend now t hst hW).trans hflush

theorem sender_tickDelayedAck (now : Instant) (t : Tcb) : (tickDelayedAck now t).1.sender = t.sender := by
  obtain ⟨_, _, h⟩ := tickDelayedAck_frame now t
  rw [h]
  rfl

theorem acts_tickDelayedAck (now : Instant) (t : Tcb) :
    Acts W A time t.sender (tickDelayedAck now t).2 (tickDelayedAck now t).1.sender := by
  rw [sender_tickDelayedAck]
  exact Acts.refl _ (sentOf_eq_nil fun f hf => by rw [site_tickDelayedAck hf]; decide)

theorem acts_rtoBackoff (now : Instant) (t : Tcb) (hdue : rtoDue now t = true) :
    Acts W A now t.sender (retransmitFrames (rtoBackoff now t)) (rtoBackoff now t).sender := by
  unfold rtoDue at hdue
  rw [Bool.and_eq_true, Bool.not_eq_true', List.isEmpty_eq_false_iff] at hdue
  refine Acts.single (m := .expire now) (Enabled.legal hdue rfl) rfl rfl ?_
  change Sender.retransmission now t.sender = sentOf now (retransmitFrames t)
  unfold Sender.retransmission retransmitFrames
  change (match t.retransmitQueue.head? with | some e => _ | none => _) = _
  cases t.retransmitQueue.head? with
  | none => rfl
  | some e =>
    dsimp only
    change (if (entryPayload t.sendBuf e).isEmpty then _ else _) = _
    split_ifs <;> rfl

end ticks

/-- So is a tick. -/
theorem acts_onTickTcb {W : Nat} {A : Sender → Move → Prop} {cfg : EngineConfig} {now clock : Instant} {t t' : Tcb}
    (h : (onTickTcb cfg now clock t).outcome = .live t') (hW : t.congestion.effectiveWindow t.sndWnd ≤ W) :
    Acts W A now t.sender (onTickTcb cfg now clock t).out t'.sender := by
  generalize heff : onTickTcb cfg now clock t = eff at h
  cases onTickTcb_cases heff with
  | expired | rtoAborted | keepaliveAborted => cases h
  | retransmitted _ hdue => cases h; exact acts_rtoBackoff now t hdue
  | probed => cases h; exact Acts.refl _ rfl
  | keepaliveProbed => cases h; exact Acts.refl _ rfl
  | quiet => rw [Effect.live_keep h]; exact acts_tickDelayedAck now t
  | drained hst =>
    have hwin : (tickDelayedAck now t).1.congestion.effectiveWindow (tickDelayedAck now t).1.sndWnd ≤ W := by
      obtain ⟨_, _, hack⟩ := tickDelayedAck_frame now t
      rw [hack]
      exact hW
    have hdrain := acts_txDrain (A := A) now clock (tickDelayedAck now t).1
      (by rw [state_tickDelayedAck]; exact hst) hwin
    rw [Effect.live_keep h]
    dsimp only [Effect.keep]
    exact (acts_tickDelayedAck now t).trans hdrain

theorem sender_handleSetOption (option : SocketOption) (t : Tcb) : (handleSetOption option t).sender = t.sender :=
  field_handleSetOption option t Tcb.sender fun _ _ => rfl

/-! ## Events and runs -/

/-- When an event happens, if it sends data or looks at what was sent. -/
def ConnEvent.stamp? : ConnEvent → Option Instant
  | .segment clock _ => some clock
  | .tick now _ => some now
  | .write _ | .read _ | .shutdown .. | .close .. | .setOption _ => none

def ConnEvent.time (ev : ConnEvent) : Instant := ev.stamp?.getD 0

def Timely (es : List ConnEvent) : Prop := (es.filterMap ConnEvent.stamp?).Pairwise (· ≤ ·)

instance (es : List ConnEvent) : Decidable (Timely es) := inferInstanceAs (Decidable (List.Pairwise _ _))

theorem sentOf_call (cfg : EngineConfig) (ev : ConnEvent) (t : Tcb) (T : Instant) :
    sentOf (ev.stamp?.getD T) (callTcb cfg ev t).out = sentOf ev.time (callTcb cfg ev t).out := by
  have hquiet {out : List Emitted} (h : ∀ f ∈ out, f.site ≠ .data ∧ f.site ≠ .retransmit) (time : Instant) :
      sentOf T out = sentOf time out := (sentOf_eq_nil h).trans (sentOf_eq_nil h).symm
  cases ev with
  | segment | tick => rfl
  | write | read | setOption => rfl
  | shutdown clock how => exact hquiet (fun f hf => by rw [site_handleShutdown hf]; decide) _
  | close clock linger => exact hquiet (fun f hf => by
      rcases site_handleClose hf with h | h <;> rw [h] <;> decide) _

/-- **The send side of an event.** What an event does to the send side is a sequence of legal moves, all at the time of
the event; for an event without one any time `T` will do. -/
theorem acts_call {W : Nat} {A : Sender → Move → Prop} {cfg : EngineConfig} {ev : ConnEvent} {t t' : Tcb}
    (h : (callTcb cfg ev t).outcome = .live t')
    (hW : ∀ now clock, ev = .tick now clock → t.congestion.effectiveWindow t.sndWnd ≤ W)
    (hA : ∀ clock seg, ev = .segment clock seg → seg.flags.contains .rst = false →
      ∀ m, Arises clock seg t m → A t.sender m) (T : Instant) :
    Acts W A (ev.stamp?.getD T) t.sender (callTcb cfg ev t).out t'.sender := by
  cases ev with
  | write data => cases h; exact Acts.single (m := .write data) (Enabled.legal trivial rfl) trivial rfl rfl
  | read n => cases h; exact Acts.refl _ rfl
  | segment clock seg =>
    have hnil : sentOf clock (segmentTcb clock seg t).out = [] := sentOf_eq_nil fun f hf => by
      rcases site_segmentTcb hf with h | h | ⟨h, -⟩
      · rw [h]; decide
      · rw [h]; decide
      · rw [h]; exact ⟨nofun, nofun⟩
    rcases sender_segmentTcb h with hsame | ⟨hrst, m, hm, hstep⟩
    · rw [hsame]
      exact Acts.refl _ hnil
    · exact Acts.single ⟨hm.enabled W, fun _ => hA clock seg rfl hrst m hm⟩ hm.at (congrArg Prod.fst hstep)
        ((congrArg Prod.snd hstep).trans hnil.symm)
  | tick now clock => exact acts_onTickTcb h (hW now clock rfl)
  | shutdown clock how => cases h; exact acts_handleShutdown clock how t
  | close clock linger =>
    dsimp only [callTcb, handleClose] at h ⊢
    split_ifs at h ⊢
    · cases h
    · rw [Effect.live_keep h]
      exact acts_handleShutdown clock .write t
  | setOption option =>
    cases h
    rw [sender_handleSetOption]
    exact Acts.refl _ rfl

theorem sentOf_removed {cfg : EngineConfig} {ev : ConnEvent} {t : Tcb} {h : ConnectionHandle}
    (hrem : (callTcb cfg ev t).outcome = .removed h) (time : Instant) : sentOf time (callTcb cfg ev t).out = [] := by
  rcases (removed_call hrem).2 with hout | ⟨clock, rfl⟩
  · rw [hout]
    rfl
  · rfl

def sendingStep (cfg : EngineConfig) (s : Outcome) (ev : ConnEvent) : Outcome × List Sent :=
  ((connStep cfg s ev).1, sentOf ev.time (connStep cfg s ev).2)

/-- Everything with data in it that a run of a connection sends, oldest first. -/
def transmissions (cfg : EngineConfig) (o : Opening) (es : List ConnEvent) : List Sent :=
  (run (sendingStep cfg) (.live (o.tcb cfg)) es).2

theorem connRun_concat (cfg : EngineConfig) (o : Opening) (es : List ConnEvent) (ev : ConnEvent) :
    (connRun cfg o (es ++ [ev])).1 = (sendingStep cfg (connRun cfg o es).1 ev).1 := by
  unfold connRun
  rw [run_append]
  rfl

theorem transmissions_concat (cfg : EngineConfig) (o : Opening) (es : List ConnEvent) (ev : ConnEvent) :
    transmissions cfg o (es ++ [ev]) = transmissions cfg o es ++ (sendingStep cfg (connRun cfg o es).1 ev).2 := by
  unfold transmissions connRun
  rw [run_append, ← run_congr (connStep cfg) (sendingStep cfg) (fun _ _ => rfl)]
  simp

/-- A property of the send side; of a removed connection only the ring is left. -/
def Outcome.Sends (I : Sender → Prop) : Outcome → Prop
  | .live t => I t.sender
  | .removed h => ∃ s, I s ∧ s.ring = h.txRing

theorem Outcome.Sends.imp {I I' : Sender → Prop} {s : Outcome} (h : s.Sends I) (himp : ∀ snd, I snd → I' snd) :
    s.Sends I' := by
  cases s with
  | live t => exact himp _ h
  | removed hd => obtain ⟨snd, hI, hring⟩ := h; exact ⟨snd, himp snd hI, hring⟩

theorem Outcome.Sends.exists {I : Sender → Prop} {s : Outcome} (h : s.Sends I) :
    ∃ snd, I snd ∧ snd.ring = s.handle.txRing := by
  cases s with
  | live t => exact ⟨t.sender, h, rfl⟩
  | removed hd => exact h

section invariant
variable {W : Nat} {A : Sender → Move → Prop} {I : Sender → List Sent → Prop} {cfg : EngineConfig}

/-- An event keeps what all its moves keep. -/
theorem sends_step {s : Outcome} {ev : ConnEvent} {tr : List Sent} {T : Instant}
    (hstep : ∀ s tr m, Legal W A s m → m.At (ev.stamp?.getD T) → I s tr →
      I (senderStep s m).1 (tr ++ (senderStep s m).2))
    (hW : ∀ t now clock, s = .live t → ev = .tick now clock → t.congestion.effectiveWindow t.sndWnd ≤ W)
    (hA : ∀ t clock seg, s = .live t → ev = .segment clock seg → seg.flags.contains .rst = false →
      ∀ m, Arises clock seg t m → A t.sender m)
    (h : s.Sends fun s => I s tr) :
    (sendingStep cfg s ev).1.Sends fun s' => I s' (tr ++ (sendingStep cfg s ev).2) := by
  cases s with
  | live t =>
    change (callTcb cfg ev t).outcome.Sends fun s' => I s' (tr ++ sentOf ev.time (callTcb cfg ev t).out)
    cases hout : (callTcb cfg ev t).outcome with
    | live t' =>
      obtain ⟨ms, hms, hrun⟩ := acts_call hout (fun now clock hev => hW t now clock rfl hev)
        (fun clock seg hev => hA t clock seg rfl hev) T
      have hI := run_invariant (fun s tr m hm => hstep s tr m hm.1 hm.2) ms t.sender tr hms h
      rwa [hrun, sentOf_call] at hI
    | removed hd =>
      rw [sentOf_removed hout, List.append_nil]
      exact ⟨t.sender, h, (removed_call hout).1.2.symm⟩
  | removed hd =>
    obtain ⟨s, hI, hring⟩ := h
    change ∃ s', I s' (tr ++ []) ∧ s'.ring = (ev.onHandle hd).txRing
    rw [List.append_nil]
    cases ev with
    | write data =>
      have hw := hstep s tr (.write data) (Enabled.legal trivial rfl) trivial hI
      rw [show (senderStep s (.write data)).2 = [] from rfl, List.append_nil] at hw
      exact ⟨_, hw, congrArg (fun r : SpscByteRing => (r.write data).1) hring⟩
    | _ => exact ⟨s, hI, hring⟩

/-- **The invariant rule of the send side.** A relation between the send side and what was sent that every legal move
keeps holds after every run whose events stay within the window bound and the condition on inbound moves. -/
theorem sender_invariant (hstep : ∀ s tr m, Legal W A s m → I s tr → I (senderStep s m).1 (tr ++ (senderStep s m).2))
    {good : Outcome → ConnEvent → Prop}
    (hW : ∀ t now clock, good (.live t) (.tick now clock) → t.congestion.effectiveWindow t.sndWnd ≤ W)
    (hA : ∀ t clock seg, good (.live t) (.segment clock seg) → seg.flags.contains .rst = false →
      ∀ m, Arises clock seg t m → A t.sender m)
    {o : Opening} {es : List ConnEvent} (hgood : ConnAlong good cfg o es) (hinit : I (o.tcb cfg).sender []) :
    (connRun cfg o es).1.Sends fun s => I s (transmissions cfg o es) := by
  have halong : Along good (sendingStep cfg) (.live (o.tcb cfg)) es :=
    along_congr (connStep cfg) (sendingStep cfg) (fun _ _ => rfl) hgood
  have h := run_invariant (I := fun (s : Outcome) tr => s.Sends fun s => I s tr)
    (fun s tr ev hev hI => sends_step (T := 0) (fun s tr m hm _ => hstep s tr m hm)
      (by rintro t now clock rfl rfl; exact hW t now clock hev)
      (by rintro t clock seg rfl rfl; exact hA t clock seg hev) hI)
    es (.live (o.tcb cfg)) [] halong hinit
  rwa [run_congr (connStep cfg) (sendingStep cfg) (fun _ _ => rfl)] at h

theorem time_senderStep {s : Sender} {m : Move} {T : Instant} (hm : m.At T) : ∀ x ∈ (senderStep s m).2, x.time = T := by
  intro x hx
  cases m with
  | write | opened | segment | fill | fin => cases hx
  | send now n => rw [List.mem_singleton.1 hx]; exact hm
  | expire now =>
    change x ∈ s.retransmission now at hx
    unfold Sender.retransmission at hx
    split at hx
    · split_ifs at hx
      · cases hx
      · rw [List.mem_singleton.1 hx]; exact hm
    · cases hx

/-- **The invariant rule with time.** If the events happen in the order of their times, each move may count on
everything having been sent by its time. -/
theorem timed_invariant (hstep : ∀ T s tr m, Legal W A s m → m.At T → (∀ x ∈ tr, x.time ≤ T) → I s tr →
      I (senderStep s m).1 (tr ++ (senderStep s m).2))
    {good : Outcome → ConnEvent → Prop}
    (hW : ∀ t now clock, good (.live t) (.tick now clock) → t.congestion.effectiveWindow t.sndWnd ≤ W)
    (hA : ∀ t clock seg, good (.live t) (.segment clock seg) → seg.flags.contains .rst = false →
      ∀ m, Arises clock seg t m → A t.sender m)
    {o : Opening} {es : List ConnEvent} (hgood : ConnAlong good cfg o es) (htime : Timely es)
    (hinit : I (o.tcb cfg).sender []) :
    (connRun cfg o es).1.Sends fun s => I s (transmissions cfg o es) := by
  -- the last time so far bounds the times of what was sent
  suffices h : ∃ T, (T = 0 ∨ T ∈ es.filterMap ConnEvent.stamp?) ∧ (connRun cfg o es).1.Sends fun s =>
      I s (transmissions cfg o es) ∧ ∀ x ∈ transmissions cfg o es, x.time ≤ T by
    obtain ⟨T, -, hsends⟩ := h
    exact hsends.imp fun _ h => h.1
  induction es using List.reverseRecOn with
  | nil => exact ⟨0, Or.inl rfl, hinit, nofun⟩
  | append_singleton es ev ih =>
    obtain ⟨hes, hlast, -⟩ := (along_append _ es [ev]).1 hgood
    unfold Timely at htime
    rw [List.filterMap_append, List.pairwise_append] at htime
    obtain ⟨T, hT, hsends⟩ := ih hes htime.1
    have hle : T ≤ ev.stamp?.getD T := by
      cases hstamp : ev.stamp? with
      | none => exact Nat.le_refl T
      | some τ =>
        rcases hT with rfl | hT
        · exact Nat.zero_le _
        · exact htime.2.2 T hT τ (by simp [hstamp])
    refine ⟨ev.stamp?.getD T, ?_, ?_⟩
    · rw [List.filterMap_append]
      cases hstamp : ev.stamp? with
      | none => exact hT.imp_right (List.mem_append_left _)
      | some τ => exact Or.inr (List.mem_append_right _ (by simp [hstamp]))
    · rw [connRun_concat, transmissions_concat]
      refine sends_step (W := W) (A := A) (T := T)
        (I := fun s tr => I s tr ∧ ∀ x ∈ tr, x.time ≤ ev.stamp?.getD T) ?_ ?_ ?_ ?_
      · rintro s tr m hm hat ⟨hI, hbound⟩
        refine ⟨hstep _ s tr m hm hat hbound hI, fun x hx => ?_⟩
        rcases List.mem_append.1 hx with hx | hx
        · exact hbound x hx
        · exact Nat.le_of_eq (time_senderStep hat x hx)
      · rintro t now clock hs rfl
        unfold connRun at hs
        rw [hs] at hlast
        exact hW t now clock hlast
      · rintro t clock seg hs rfl
        unfold connRun at hs
        rw [hs] at hlast
        exact hA t clock seg hlast
      · exact hsends.imp fun snd h => ⟨h.1, fun x hx => (h.2 x hx).trans hle⟩

end invariant

/-! ## States -/

theorem state_senderStep {W : Nat} {s : Sender} {m : Move} (h : Enabled W s m) :
    ((senderStep s m).1.state.early = true → s.state.early = true) ∧
      ((senderStep s m).1.state = .established → s.state.early = true ∨ s.state = .established) := by
  cases m with
  | write | fill | send | expire => exact ⟨id, Or.inr⟩
  | opened => exact ⟨nofun, fun _ => Or.inl h⟩
  | segment clock ack next disarm =>
    obtain ⟨hshift, -⟩ := h
    change (next.early = true → _) ∧ (next = .established → _)
    generalize s.state = st at hshift
    cases hshift with
    | stay => exact ⟨id, Or.inr⟩
    | _ => exact ⟨nofun, nofun⟩
  | fin =>
    simp only [senderStep]
    split_ifs
    · exact ⟨nofun, nofun⟩
    · exact ⟨nofun, nofun⟩

theorem state_call {cfg : EngineConfig} {ev : ConnEvent} {t t' : Tcb} (h : (callTcb cfg ev t).outcome = .live t') :
    (t'.state.early = true → t.state.early = true) ∧
      (t'.state = .established → t.state.early = true ∨ t.state = .established) := by
  obtain ⟨ms, hms, hrun⟩ := acts_call (A := fun _ _ => True) h (fun _ _ _ => Nat.le_refl _)
    (fun _ _ _ _ _ _ => trivial) 0
  have hinv := run_invariant (I := fun s _ => (s.state.early = true → t.state.early = true) ∧
    (s.state = .established → t.state.early = true ∨ t.state = .established)) (fun s _ m hm hI => ?_) ms t.sender []
    hms ⟨id, Or.inr⟩
  · rwa [hrun] at hinv
  · obtain ⟨hearly, hest⟩ := state_senderStep hm.1.1
    exact ⟨fun hs => hI.1 (hearly hs), fun hs => (hest hs).elim (fun he => Or.inl (hI.1 he)) hI.2⟩

end DpdkStdlib.Tcp
