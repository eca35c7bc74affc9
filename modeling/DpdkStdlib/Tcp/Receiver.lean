import DpdkStdlib.Tcp.Connection
import Mathlib.Logic.Relation
import Mathlib.Tactic.Ring

/-!
# The receive side of a connection

`Receiver` is the part of a TCB that inbound bytes go through: `irs`, `rcv_nxt`, the ring to the application, the
reorder buffer and the EOF flag.  `Receiver.Step` lists the atomic changes the engine makes to it.
-/

namespace DpdkStdlib.Tcp
open DpdkStdlib.Lib Relation

variable {s s' : TcpState} {t t' : Tcb} {seg : ParsedTcpSegment} {cfg : EngineConfig}

/-- The receive side of a TCB. -/
structure Receiver where
  state : TcpState
  irs : SeqNum
  rcvNxt : SeqNum
  ring : SpscByteRing
  buffer : AssocMap (BitVec 32) (List UInt8)
  eof : Bool

def Tcb.receiver (t : Tcb) : Receiver where
  state := t.state
  irs := t.irs
  rcvNxt := t.rcvNxt
  ring := t.handle.rxRing
  buffer := t.reorderBuffer
  eof := t.handle.eof

namespace TcpState

/-- The states entered over the peer's FIN, or from such a state. -/
def finConsumed : TcpState → Bool
  | closeWait | closing | lastAck | timeWait => true
  | closed | listen | synSent | synReceived | established | finWait1 | finWait2 => false

/-- State changes in which no FIN of the peer is taken. -/
inductive Moves : TcpState → TcpState → Prop
  | accept : Moves synReceived established
  | close : Moves established finWait1
  | closeLast : Moves closeWait lastAck
  | finAcked : Moves finWait1 finWait2
  | closingAcked : Moves closing timeWait

/-- The changes of state by the FIN of the peer. -/
inductive TakesFin : TcpState → TcpState → Prop
  | established : TakesFin established closeWait
  | simultaneous : TakesFin finWait1 closing
  | both : TakesFin finWait1 timeWait
  | finWait2 : TakesFin finWait2 timeWait

theorem Moves.finConsumed_eq (h : Moves s s') : s'.finConsumed = s.finConsumed := by
  cases h <;> rfl

theorem TakesFin.finConsumed_eq (h : TakesFin s s') : s.finConsumed = false ∧ s'.finConsumed = true := by
  cases h <;> exact ⟨rfl, rfl⟩

theorem Moves.early_eq (h : Moves s s') : s ≠ synSent ∧ s'.early = false ∧ (s' = established → s = synReceived) := by
  cases h <;> decide

theorem TakesFin.early_eq (h : TakesFin s s') : s ≠ synSent ∧ s'.early = false ∧ s' ≠ TcpState.established := by
  cases h <;> decide

theorem ne_synSent_of_early (h : s.early = false) : s ≠ synSent := by
  rintro rfl
  cases h

end TcpState

def octets (seg : ParsedTcpSegment) : Nat := seg.payload.length + if seg.flags.contains .fin then 1 else 0

namespace Receiver

/-- Write bytes to the ring and step over those it took. -/
def write (r : Receiver) (data : List UInt8) : Receiver :=
  { r with ring := (r.ring.write data).1, rcvNxt := r.rcvNxt.add (r.ring.write data).2 }

/-- The atomic changes of the receive side, under the segment that causes them. -/
inductive Step : Option ParsedTcpSegment → Receiver → Receiver → Prop
  | read (o r n) : Step o r { r with ring := (r.ring.read n).1 }
  | eof (o r) : Step o r { r with eof := true }
  | move (o r s) (hst : r.state.Moves s) : Step o r { r with state := s }
  | synAck (seg r) (hst : r.state = .synSent) (hsyn : seg.flags.contains .syn = true)
      (hflag : seg.flags.contains .ack = true) :
      Step (some seg) r { r with state := .established, irs := seg.seq, rcvNxt := seg.seq.add 1 }
  | inOrder (seg r) (hst : r.state = .established) (hseq : seg.seq = r.rcvNxt) :
      Step (some seg) r { r.write seg.payload with buffer := rebase r.buffer (r.ring.write seg.payload).2 }
  | drained (seg r data) (hst : r.state = .established) (hget : r.buffer.get? 0 = some data) :
      Step (some seg) r { r.write data with buffer := rebase (r.buffer.erase 0) (r.ring.write data).2 }
  | held (seg r) (hst : r.state = .established) :
      Step (some seg) r { r with buffer := r.buffer.insert (seg.seq.val - r.rcvNxt.val) seg.payload }
  | closingData (seg r) (hst : r.state = .finWait1 ∨ r.state = .finWait2) (hseq : seg.seq = r.rcvNxt) :
      Step (some seg) r (r.write seg.payload)
  | fin (seg r s) (hst : r.state.TakesFin s) (hflag : seg.flags.contains .fin = true)
      (hseq : seg.seq.add seg.payload.length = r.rcvNxt) :
      Step (some seg) r { r with state := s, rcvNxt := r.rcvNxt.add 1, eof := true }

abbrev Steps (o : Option ParsedTcpSegment) : Receiver → Receiver → Prop := ReflTransGen (Step o)

def withDelivery (r : Receiver) (d : Delivery) : Receiver :=
  { r with ring := d.ring, rcvNxt := d.rcvNxt, buffer := d.buffer }

theorem steps_drainReorder (seg : ParsedTcpSegment) (r : Receiver) (hst : r.state = .established) (fuel : Nat) :
    ∀ d : Delivery, Steps (some seg) (r.withDelivery d) (r.withDelivery (drainReorder fuel d)) := by
  induction fuel with
  | zero => intro d; exact ReflTransGen.refl
  | succ fuel ih =>
    intro d
    rw [drainReorder]
    cases hget : d.buffer.get? 0 with
    | none => exact ReflTransGen.refl
    | some data =>
      have hrest := ih
        { ring := (d.ring.write data).1
          rcvNxt := d.rcvNxt.add (d.ring.write data).2
          buffer := rebase (d.buffer.erase 0) (d.ring.write data).2
          drained := d.drained + 1 }
      exact ReflTransGen.head (Step.drained seg (r.withDelivery d) data hst hget) hrest

end Receiver

open Receiver

/-! ## Segments -/

theorem receiver_establishedAck (seg : ParsedTcpSegment) (t : Tcb) : (establishedAck seg t).receiver = t.receiver := by
  unfold establishedAck updateSendWindow
  split_ifs <;> rfl

theorem receiver_closingAck (seg : ParsedTcpSegment) (t : Tcb) : (closingAck seg t).receiver = t.receiver := by
  unfold closingAck
  split_ifs <;> rfl

theorem receiver_inOrder (clock : Instant) (seg : ParsedTcpSegment) (t : Tcb) :
    (inOrder clock seg t).1.receiver = t.receiver.withDelivery (deliver seg.payload t) := by
  unfold inOrder
  dsimp only
  split_ifs <;> rfl

theorem steps_establishedData (clock : Instant) (seg : ParsedTcpSegment) (t : Tcb) (hst : t.state = .established) :
    Steps (some seg) t.receiver (establishedData clock seg t).1.receiver := by
  unfold establishedData
  dsimp only
  split_ifs with hempty hseq hgt
  · exact ReflTransGen.refl
  · rw [receiver_inOrder]
    have hrest := steps_drainReorder seg t.receiver hst t.reorderBuffer.size
      { ring := (t.handle.rxRing.write seg.payload).1
        rcvNxt := t.rcvNxt.add (t.handle.rxRing.write seg.payload).2
        buffer := rebase t.reorderBuffer (t.handle.rxRing.write seg.payload).2
        drained := 0 }
    exact ReflTransGen.head (Step.inOrder seg t.receiver hst hseq) hrest
  · exact ReflTransGen.single (Step.held seg t.receiver hst)
  · exact ReflTransGen.refl

theorem state_establishedData (clock : Instant) (seg : ParsedTcpSegment) (t : Tcb) :
    (establishedData clock seg t).1.state = t.state := by
  unfold establishedData inOrder outOfOrder
  dsimp only
  split_ifs <;> rfl

/-- **Where the data stands.** Within half the number space, data behind `rcv_nxt` is dropped, data at `rcv_nxt` is
delivered, and data ahead of it is held back. -/
theorem receiver_establishedData_at (clock : Instant) {origin : SeqNum} {start pos : Nat} (hpay : seg.payload ≠ [])
    (hseq : seg.seq = origin.add start) (hnxt : t.rcvNxt = origin.add pos) (hahead : start < pos + 2 ^ 31)
    (hbehind : pos ≤ start + 2 ^ 31) :
    (start < pos ∧ seg.seq ≠ t.rcvNxt ∧ (establishedData clock seg t).1.receiver = t.receiver) ∨
      (start = pos ∧
        (establishedData clock seg t).1.receiver = t.receiver.withDelivery (deliver seg.payload t)) ∨
      (pos < start ∧ seg.seq ≠ t.rcvNxt ∧ (establishedData clock seg t).1.receiver =
        { t.receiver with buffer := t.receiver.buffer.insert (seg.seq.val - t.rcvNxt.val) seg.payload }) := by
  have heq : seg.seq = t.rcvNxt ↔ start = pos := by
    rw [hseq, hnxt]
    exact ⟨fun h => SeqNum.add_inj_near origin h (by omega) (by omega), fun h => by rw [h]⟩
  have hgt : seg.seq.gt t.rcvNxt = true ↔ pos < start := by
    rw [hseq, hnxt, SeqNum.gt_add_add origin hahead hbehind]
  unfold establishedData
  dsimp only
  -- the keepalive bookkeeping is not on the receive side
  have hnoted : (noteData clock t).rcvNxt = t.rcvNxt := rfl
  rw [if_neg (by simpa using hpay), hnoted]
  rcases Nat.lt_trichotomy start pos with hlt | rfl | hlt
  · have hneq : seg.seq ≠ t.rcvNxt := fun h => absurd (heq.1 h) (by omega)
    rw [if_neg hneq, if_neg fun h => absurd (hgt.1 h) (by omega)]
    exact Or.inl ⟨hlt, hneq, rfl⟩
  · rw [if_pos (heq.2 rfl), receiver_inOrder]
    exact Or.inr (Or.inl ⟨rfl, rfl⟩)
  · have hneq : seg.seq ≠ t.rcvNxt := fun h => absurd (heq.1 h) (by omega)
    rw [if_neg hneq, if_pos (hgt.2 hlt)]
    exact Or.inr (Or.inr ⟨hlt, hneq, rfl⟩)

theorem step_consumeFin (hst : t.state.TakesFin s) (hfin : finInOrder seg t = true) :
    Step (some seg) t.receiver (consumeFin s t).receiver := by
  unfold finInOrder at hfin
  rw [Bool.and_eq_true, beq_iff_eq] at hfin
  exact Step.fin seg t.receiver s hst hfin.1 hfin.2

theorem steps_handleEstablished (clock : Instant) (seg : ParsedTcpSegment) (t : Tcb) (hst : t.state = .established) :
    Steps (some seg) t.receiver (handleEstablished clock seg t).1.receiver := by
  have hst' : (establishedAck seg t).state = .established :=
    (congrArg Receiver.state (receiver_establishedAck seg t)).trans hst
  have hdata := steps_establishedData clock seg (establishedAck seg t) hst'
  rw [receiver_establishedAck] at hdata
  unfold handleEstablished establishedFin
  dsimp only
  split_ifs with hfin
  · refine hdata.tail (step_consumeFin (s := .closeWait) ?_ hfin)
    rw [state_establishedData, hst']
    exact .established
  · exact hdata

theorem steps_takeData (seg : ParsedTcpSegment) (t : Tcb) (hst : t.state = .finWait1 ∨ t.state = .finWait2) :
    Steps (some seg) t.receiver (takeData seg t).receiver := by
  unfold takeData
  split_ifs with hdata
  · unfold dataInOrder at hdata
    rw [Bool.and_eq_true, beq_iff_eq] at hdata
    exact ReflTransGen.single (Step.closingData seg t.receiver hst hdata.2)
  · exact ReflTransGen.refl

theorem state_takeData (seg : ParsedTcpSegment) (t : Tcb) : (takeData seg t).state = t.state := by
  unfold takeData closingData
  split_ifs <;> rfl

theorem steps_finWait1 (seg : ParsedTcpSegment) (t : Tcb) (hst : t.state = .finWait1) :
    Steps (some seg) t.receiver (takeData seg (closingAck seg t)).receiver ∧
      (takeData seg (closingAck seg t)).state = .finWait1 := by
  have hst' : (closingAck seg t).state = .finWait1 := (congrArg Receiver.state (receiver_closingAck seg t)).trans hst
  have hsteps := steps_takeData seg (closingAck seg t) (Or.inl hst')
  rw [receiver_closingAck] at hsteps
  exact ⟨hsteps, by rw [state_takeData, hst']⟩

/-- A segment moves the receive side by legal steps. -/
theorem steps_segmentTcb {clock : Instant} (h : (segmentTcb clock seg t).outcome = .live t') :
    Steps (some seg) t.receiver t'.receiver := by
  generalize heff : segmentTcb clock seg t = eff at h
  cases segmentTcb_cases heff with
  | refused | embryoReset | reset | lastAcked => cases h
  | ignored => cases h; exact ReflTransGen.refl
  | challenged => cases h; exact ReflTransGen.refl
  | synAcked hst hsyn hflag => cases h; exact ReflTransGen.single (Step.synAck seg t.receiver hst hsyn hflag)
  | accepted hst =>
    cases h
    exact ReflTransGen.single (Step.move _ t.receiver .established (show t.state.Moves _ by rw [hst]; exact .accept))
  | established hst => cases h; exact steps_handleEstablished clock seg t hst
  | finWait1Both hst hacked hfin =>
    cases h
    obtain ⟨hsteps, hst'⟩ := steps_finWait1 seg t hst
    exact hsteps.tail (step_consumeFin (s := .timeWait) (by rw [hst']; exact .both) hfin)
  | finWait1Acked hst =>
    cases h
    obtain ⟨hsteps, hst'⟩ := steps_finWait1 seg t hst
    exact hsteps.tail (Step.move _ (takeData seg (closingAck seg t)).receiver .finWait2
      (show (takeData seg (closingAck seg t)).state.Moves _ by rw [hst']; exact .finAcked))
  | finWait1Fin hst hacked hfin =>
    cases h
    obtain ⟨hsteps, hst'⟩ := steps_finWait1 seg t hst
    exact hsteps.tail (step_consumeFin (s := .closing) (by rw [hst']; exact .simultaneous) hfin)
  | finWait1Open hst => cases h; exact (steps_finWait1 seg t hst).1
  | finWait2Fin hst hfin =>
    cases h
    have hst' : (takeData seg t).state = .finWait2 := by rw [state_takeData, hst]
    exact (steps_takeData seg t (Or.inr hst)).tail (step_consumeFin (s := .timeWait) (by rw [hst']; exact .finWait2) hfin)
  | finWait2Data hst => cases h; exact steps_takeData seg t (Or.inr hst)
  | closeWait => cases h; rw [receiver_closingAck]
  | closingAcked hst =>
    cases h
    exact ReflTransGen.single (Step.move _ t.receiver .timeWait (show t.state.Moves _ by rw [hst]; exact .closingAcked))
  | finAgain => cases h; exact ReflTransGen.refl

/-! ## Commands and ticks -/

theorem Deed.steps {now clock : Instant} {out : List Emitted} (o : Option ParsedTcpSegment)
    (h : Deed now clock t out t') : Steps o t.receiver t'.receiver := by
  cases h with
  | eof => exact ReflTransGen.single (Step.eof o t.receiver)
  | fin hst => exact ReflTransGen.single (Step.move o t.receiver .finWait1 (show t.state.Moves _ by rw [hst]; exact .close))
  | lastFin hst =>
    exact ReflTransGen.single (Step.move o t.receiver .lastAck (show t.state.Moves _ by rw [hst]; exact .closeLast))
  | _ => exact ReflTransGen.refl

/-- **The receive side of an event.** What an event does to the receive side is a sequence of its atomic steps. -/
theorem receiver_call {ev : ConnEvent} (h : (callTcb cfg ev t).outcome = .live t') :
    Steps ev.segment? t.receiver t'.receiver := by
  cases ev with
  | write data => cases h; exact ReflTransGen.refl
  | read n => cases h; exact ReflTransGen.single (Step.read _ t.receiver n)
  | segment clock seg => exact steps_segmentTcb h
  | tick | shutdown | close =>
    obtain ⟨_, _, hd⟩ := deeds_call rfl h
    exact hd.keeps (P := fun u => Steps _ t.receiver u.receiver) (fun hdeed hu => hu.trans (hdeed.steps _)) .refl
  | setOption option =>
    cases h
    rw [field_handleSetOption option t Tcb.receiver fun _ _ => rfl]

/-! ## Where the bytes of the ring come from -/

theorem get?_rebase (buf : AssocMap (BitVec 32) (List UInt8)) (w : Nat) (k : BitVec 32) :
    (rebase buf w).get? k = buf.get? (k + BitVec.ofNat 32 w) := by
  have h := AssocMap.get?_mapKeys (fun k : BitVec 32 => k - BitVec.ofNat 32 w) (sub_right_injective _) buf
    (k + BitVec.ofNat 32 w)
  rwa [show k + BitVec.ofNat 32 w - BitVec.ofNat 32 w = k by simp] at h

namespace Receiver

/-- One sequence number for the peer's FIN once it is taken. -/
def finBit (r : Receiver) : Nat := r.state.finConsumed.toNat

/-- `rcv_nxt` counts the bytes written to the ring. -/
structure Accounted (r : Receiver) : Prop where
  early : r.state = .synSent → r.ring.stream = []
  counted : r.state ≠ .synSent → r.rcvNxt = r.irs.add (1 + r.ring.stream.length + r.finBit)

/-- The payload satisfies `P` at its sequence numbers, and a SYN-ACK's origin `Q`. -/
structure Arrives (P : SeqNum → UInt8 → Prop) (Q : SeqNum → Prop) (seg : ParsedTcpSegment) : Prop where
  bytes : ∀ i b, seg.payload[i]? = some b → P (seg.seq.add i) b
  origin : seg.flags.contains .syn = true → seg.flags.contains .ack = true → Q seg.seq

/-- What is in the ring or held back satisfies `P` at its sequence numbers, from an origin in `Q`. -/
structure Delivered (P : SeqNum → UInt8 → Prop) (Q : SeqNum → Prop) (r : Receiver) : Prop where
  accounted : r.Accounted
  origin : r.state ≠ .synSent → Q r.irs
  early : r.state.early = true → ∀ k, r.buffer.get? k = none
  written : r.state ≠ .synSent → ∀ j b, r.ring.stream[j]? = some b → P (r.irs.add (1 + j)) b
  held : r.state = .established → ∀ k data, r.buffer.get? k = some data →
    ∀ i b, data[i]? = some b → P (SeqNum.add ⟨r.rcvNxt.val + k⟩ i) b

variable {P : SeqNum → UInt8 → Prop} {Q : SeqNum → Prop} {o : Option ParsedTcpSegment} {r r' : Receiver}

theorem Delivered.written_write (h : Delivered P Q r) (hsent : r.state ≠ .synSent) (hfin : r.state.finConsumed = false)
    (data : List UInt8) (hdata : ∀ i b, data[i]? = some b → P (r.rcvNxt.add i) b) :
    ∀ j b, (r.write data).ring.stream[j]? = some b → P (r.irs.add (1 + j)) b := by
  intro j b hj
  change ((r.ring.write data).1.stream)[j]? = some b at hj
  rw [SpscByteRing.stream_write] at hj
  rcases Nat.lt_or_ge j r.ring.stream.length with hlt | hge
  · rw [List.getElem?_append_left hlt] at hj
    exact h.written hsent j b hj
  · rw [List.getElem?_append_right hge, List.getElem?_take] at hj
    split_ifs at hj
    have hp := hdata _ b hj
    rw [h.accounted.counted hsent, SeqNum.add_add, finBit, hfin] at hp
    convert hp using 2
    simp only [Bool.toNat_false]
    omega

theorem Accounted.write (h : r.Accounted) (hsent : r.state ≠ .synSent) (data : List UInt8) :
    (r.write data).Accounted := by
  refine ⟨fun hs => absurd hs hsent, fun _ => ?_⟩
  change r.rcvNxt.add (r.ring.write data).2 =
    r.irs.add (1 + (r.ring.write data).1.stream.length + r.finBit)
  rw [h.counted hsent, SeqNum.add_add, SpscByteRing.length_stream_write]
  congr 1
  omega

theorem Accounted.step (h : r.Accounted) (hstep : Step o r r') : r'.Accounted := by
  cases hstep with
  | read _ _ n => exact ⟨h.early, h.counted⟩
  | eof => exact ⟨h.early, h.counted⟩
  | move _ _ s hst =>
    obtain ⟨hne, hearly, -⟩ := hst.early_eq
    refine ⟨fun hs => absurd hs (TcpState.ne_synSent_of_early hearly), fun _ => ?_⟩
    have hcount := h.counted hne
    rwa [finBit, ← hst.finConsumed_eq] at hcount
  | synAck seg _ hst =>
    refine ⟨nofun, fun _ => ?_⟩
    change seg.seq.add 1 = seg.seq.add (1 + r.ring.stream.length + 0)
    rw [h.early hst]
    rfl
  | inOrder seg _ hst =>
    have hw := h.write (by rw [hst]; decide) seg.payload
    exact ⟨hw.early, hw.counted⟩
  | drained seg _ data hst =>
    have hw := h.write (by rw [hst]; decide) data
    exact ⟨hw.early, hw.counted⟩
  | held seg _ hst => exact ⟨h.early, h.counted⟩
  | closingData seg _ hst => exact h.write (by rcases hst with hst | hst <;> rw [hst] <;> decide) seg.payload
  | fin seg _ s hst =>
    obtain ⟨h0, h1⟩ := hst.finConsumed_eq
    obtain ⟨hne, hearly, -⟩ := hst.early_eq
    refine ⟨fun hs => absurd hs (TcpState.ne_synSent_of_early hearly), fun _ => ?_⟩
    have hcount := h.counted hne
    rw [finBit, h0] at hcount
    change r.rcvNxt.add 1 = r.irs.add (1 + r.ring.stream.length + s.finConsumed.toNat)
    rw [hcount, h1, SeqNum.add_add]
    rfl

theorem Delivered.held_rebase (h : Delivered P Q r) (hst : r.state = .established) (w : Nat)
    {buf : AssocMap (BitVec 32) (List UInt8)} (hbuf : ∀ k data, buf.get? k = some data → r.buffer.get? k = some data) :
    ∀ k data, (rebase buf w).get? k = some data →
      ∀ i b, data[i]? = some b → P (SeqNum.add ⟨(r.rcvNxt.add w).val + k⟩ i) b := by
  intro k data hget i b hb
  rw [get?_rebase] at hget
  have hp := h.held hst _ data (hbuf _ _ hget) i b hb
  convert hp using 3
  simp only [SeqNum.add]
  ring

theorem Delivered.late (h : Delivered P Q r) (hacc : r'.Accounted) (hne : r.state ≠ .synSent) (hirs : r'.irs = r.irs)
    (hearly : r'.state.early = false) (hwritten : ∀ j b, r'.ring.stream[j]? = some b → P (r.irs.add (1 + j)) b)
    (hheld : r'.state = .established → ∀ k data, r'.buffer.get? k = some data →
      ∀ i b, data[i]? = some b → P (SeqNum.add ⟨r'.rcvNxt.val + k⟩ i) b) : Delivered P Q r' :=
  ⟨hacc, fun _ => hirs ▸ h.origin hne, fun hs => absurd (hearly.symm.trans hs) Bool.false_ne_true,
    fun _ => hirs ▸ hwritten, hheld⟩

/-- A step keeps every byte at its number. -/
theorem Delivered.step (h : Delivered P Q r) (harr : ∀ seg, o = some seg → Arrives P Q seg) (hstep : Step o r r') :
    Delivered P Q r' := by
  have hacc := h.accounted.step hstep
  cases hstep with
  | read _ _ n => exact ⟨hacc, h.origin, h.early, h.written, h.held⟩
  | eof => exact ⟨hacc, h.origin, h.early, h.written, h.held⟩
  | move _ _ s hst =>
    obtain ⟨hne, hearly, hest⟩ := hst.early_eq
    refine h.late hacc hne rfl hearly (h.written hne) fun hs k data hget => ?_
    -- ESTABLISHED is entered from SYN_RECEIVED, when nothing is held back yet
    have hnone := h.early (by rw [hest hs]; rfl) k
    rw [hget] at hnone
    cases hnone
  | synAck seg _ hst hsyn hflag =>
    refine ⟨hacc, fun _ => (harr seg rfl).origin hsyn hflag, nofun, fun _ j b hj => ?_, fun _ k data hget => ?_⟩
    · rw [h.accounted.early hst] at hj
      cases hj
    · rw [h.early (by rw [hst]; rfl) k] at hget
      cases hget
  | inOrder seg _ hst hseq =>
    have hne : r.state ≠ .synSent := by rw [hst]; decide
    have hearly : r.state.early = false := by rw [hst]; rfl
    have hwrite := h.written_write hne (by rw [hst]; rfl) seg.payload
      (fun i b hb => by rw [← hseq]; exact (harr seg rfl).bytes i b hb)
    exact h.late hacc hne rfl hearly hwrite fun _ => h.held_rebase hst _ fun _ _ hget => hget
  | drained seg _ data hst hget =>
    have hne : r.state ≠ .synSent := by rw [hst]; decide
    have hearly : r.state.early = false := by rw [hst]; rfl
    have hwrite := h.written_write hne (by rw [hst]; rfl) data
      (fun i b hb => by have hp := h.held hst 0 data hget i b hb; simpa using hp)
    refine h.late hacc hne rfl hearly hwrite fun _ => h.held_rebase hst _ fun k data' hget' => ?_
    rw [AssocMap.get?_erase] at hget'
    split_ifs at hget'
    exact hget'
  | held seg _ hst =>
    have hne : r.state ≠ .synSent := by rw [hst]; decide
    have hearly : r.state.early = false := by rw [hst]; rfl
    refine h.late hacc hne rfl hearly (h.written hne) fun _ k data hget i b hb => ?_
    rw [AssocMap.get?_insert] at hget
    split_ifs at hget with hk
    · obtain rfl := Option.some.inj hget
      have hp := (harr seg rfl).bytes i b hb
      rw [show (⟨r.rcvNxt.val + k⟩ : SeqNum) = seg.seq by rw [hk]; ext1; simp]
      exact hp
    · exact h.held hst k data hget i b hb
  | closingData seg _ hst hseq =>
    have hclass : r.state.early = false ∧ r.state ≠ .established ∧ r.state.finConsumed = false := by
      rcases hst with hst | hst <;> rw [hst] <;> decide
    obtain ⟨hearly, hest, hfin⟩ := hclass
    have hne := TcpState.ne_synSent_of_early hearly
    have hwrite := h.written_write hne hfin seg.payload
      (fun i b hb => by rw [← hseq]; exact (harr seg rfl).bytes i b hb)
    exact h.late hacc hne rfl hearly hwrite fun hs => absurd hs hest
  | fin seg _ s hst =>
    obtain ⟨hne, hearly, hest⟩ := hst.early_eq
    exact h.late hacc hne rfl hearly (h.written hne) fun hs => absurd hs hest

theorem Delivered.steps (h : Delivered P Q r) (harr : ∀ seg, o = some seg → Arrives P Q seg) (hsteps : Steps o r r') :
    Delivered P Q r' := by
  induction hsteps with
  | refl => exact h
  | tail _ hstep ih => exact ih.step harr hstep

/-- If the peer's FIN was taken, then by a segment whose FIN stands right behind the last byte of the ring. -/
def FinTaken (o : Option ParsedTcpSegment) (r : Receiver) : Prop :=
  r.state.finConsumed = true → r.eof = true ∧ ∃ seg, o = some seg ∧ seg.flags.contains .fin = true ∧
    seg.seq.add seg.payload.length = r.irs.add (1 + r.ring.stream.length)

theorem FinTaken.step (h : FinTaken o r) (hacc : r.Accounted) (hstep : Step o r r') : FinTaken o r' := by
  intro hfin
  have hopen {s : TcpState} (hst : r.state = s) (hs : s.finConsumed = false) (hc : r.state.finConsumed = true) :
      False := by
    rw [hst, hs] at hc
    cases hc
  cases hstep with
  | read _ _ n => exact h hfin
  | eof => exact ⟨rfl, (h hfin).2⟩
  | move _ _ s hst => exact h (hst.finConsumed_eq ▸ hfin)
  | synAck => cases hfin
  | inOrder seg _ hst => exact (hopen hst rfl hfin).elim
  | drained seg _ data hst => exact (hopen hst rfl hfin).elim
  | held seg _ hst => exact (hopen hst rfl hfin).elim
  | closingData seg _ hst => rcases hst with hst | hst <;> exact (hopen hst rfl hfin).elim
  | fin seg _ s hst hflag hseq =>
    refine ⟨rfl, seg, rfl, hflag, ?_⟩
    have hcount := hacc.counted hst.early_eq.1
    rwa [finBit, hst.finConsumed_eq.1, ← hseq] at hcount

theorem FinTaken.steps (hopen : r.state.finConsumed = false) (hacc : r.Accounted) (hsteps : Steps o r r') :
    FinTaken o r' ∧ r'.Accounted := by
  induction hsteps with
  | refl => exact ⟨fun h => (Bool.false_ne_true (hopen.symm.trans h)).elim, hacc⟩
  | tail _ hstep ih => exact ⟨ih.1.step ih.2 hstep, ih.2.step hstep⟩

end Receiver

/-! ## Runs -/

/-- What the bytes of the ring satisfy, also when the TCB is gone. -/
def Outcome.Landed (P : SeqNum → UInt8 → Prop) (Q : SeqNum → Prop) : Outcome → Prop
  | .live t => Delivered P Q t.receiver
  | .removed h => ∀ j b, h.rxRing.stream[j]? = some b → ∃ irs, Q irs ∧ P (irs.add (1 + j)) b

/-- The initial sequence number of the peer, if the opening knows it. -/
def Opening.origin? : Opening → Option SeqNum
  | .active .. => none
  | .passive _ _ seg .. => some seg.seq

theorem delivered_opening {P : SeqNum → UInt8 → Prop} {Q : SeqNum → Prop} (cfg : EngineConfig) (o : Opening)
    (hQ : ∀ irs, o.origin? = some irs → Q irs) : Delivered P Q (o.tcb cfg).receiver := by
  cases o with
  | active =>
    exact ⟨⟨fun _ => rfl, fun h => absurd rfl h⟩, fun h => absurd rfl h, fun _ _ => rfl, fun h => absurd rfl h, nofun⟩
  | passive key iss seg =>
    refine ⟨⟨nofun, fun _ => rfl⟩, fun _ => hQ seg.seq rfl, fun _ _ => rfl, fun _ j b hj => ?_, nofun⟩
    cases hj

theorem Delivered.landed {P : SeqNum → UInt8 → Prop} {Q : SeqNum → Prop} {r : Receiver} (h : Delivered P Q r) :
    ∀ j b, r.ring.stream[j]? = some b → ∃ irs, Q irs ∧ P (irs.add (1 + j)) b := by
  intro j b hj
  by_cases hst : r.state = .synSent
  · rw [h.accounted.early hst] at hj
    cases hj
  · exact ⟨r.irs, h.origin hst, h.written hst j b hj⟩

/-- An event leaves every byte where it landed. -/
theorem landed_step {P : SeqNum → UInt8 → Prop} {Q : SeqNum → Prop} (cfg : EngineConfig) (s : Outcome) (ev : ConnEvent)
    (harr : ∀ seg, ev.segment? = some seg → Arrives P Q seg) (h : s.Landed P Q) : (connStep cfg s ev).1.Landed P Q := by
  cases s with
  | live t =>
    change ((callTcb cfg ev t).outcome).Landed P Q
    cases hout : (callTcb cfg ev t).outcome with
    | live t' => exact Delivered.steps h harr (receiver_call hout)
    | removed hd =>
      intro j b hj
      rw [(removed_call hout).1.1] at hj
      exact Delivered.landed h j b hj
  | removed hd => cases ev <;> exact h

/-- **No byte is invented or moved.** If every byte that arrives satisfies `P` where it stands, every byte in the ring
satisfies `P` at its position in the peer's sequence space. -/
theorem landed_run {P : SeqNum → UInt8 → Prop} {Q : SeqNum → Prop} {o : Opening} {es : List ConnEvent}
    (hQ : ∀ irs, o.origin? = some irs → Q irs) (harr : ∀ ev ∈ es, ∀ seg, ev.segment? = some seg → Arrives P Q seg) :
    (connRun cfg o es).1.Landed P Q :=
  connRun_invariant (I := fun s _ => s.Landed P Q) (fun s _ ev hgood h => landed_step cfg s ev hgood h)
    (along_of_forall harr) (delivered_opening cfg o hQ)

end DpdkStdlib.Tcp
