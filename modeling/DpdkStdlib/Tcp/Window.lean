import DpdkStdlib.Tcp.Sender

/-!
# Send-window updates

RFC 9293 lets a segment set the send window if it is newer than the last one that did, and counts the segment that
completes the handshake as the first.  The engine starts from zero instead, and its test accepts more (any segment that
repeats the last acknowledgment) and less (an acknowledgment beyond `snd_nxt`).
-/

namespace DpdkStdlib.Tcp
open DpdkStdlib.Lib

/-- Sequence number and acknowledgment of the segment that last set the send window. -/
structure WindowMark where
  wl1 : SeqNum
  wl2 : SeqNum
deriving DecidableEq

/-- RFC 9293, 3.10.7.4: `SND.WL1 < SEG.SEQ`, or `SND.WL1 = SEG.SEQ` and `SND.WL2 =< SEG.ACK`. -/
def WindowMark.updatedBy (w : WindowMark) (seg : ParsedTcpSegment) : Bool :=
  w.wl1.lt seg.seq || (w.wl1 == seg.seq && w.wl2.le seg.ack)

def ParsedTcpSegment.mark (seg : ParsedTcpSegment) : WindowMark := ⟨seg.seq, seg.ack⟩

def Tcb.mark (t : Tcb) : WindowMark := ⟨t.sndWl1, t.sndWl2⟩

def WindowMark.zero : WindowMark := ⟨⟨0⟩, ⟨0⟩⟩

def bearsAck (seg : ParsedTcpSegment) (t : Tcb) : Bool :=
  t.state == .established && !seg.flags.contains .rst && seg.flags.contains .ack

theorem bearsAck_iff (seg : ParsedTcpSegment) (t : Tcb) : bearsAck seg t = true ↔
    t.state = .established ∧ seg.flags.contains .rst = false ∧ seg.flags.contains .ack = true := by
  simp only [bearsAck, Bool.and_eq_true, beq_iff_eq, Bool.not_eq_true', and_assoc]

/-- The mark the RFC keeps after an event that led from one state of the connection to another. -/
def nextMark (w : WindowMark) : Outcome → ConnEvent → Outcome → WindowMark
  | .live t, .segment _ seg, .live t' =>
    if t.state.early && t'.state == .established then seg.mark
    else if bearsAck seg t && w.updatedBy seg then seg.mark
    else w
  | _, _, _ => w

def markStep (cfg : EngineConfig) (s : Outcome × WindowMark) (ev : ConnEvent) : (Outcome × WindowMark) × List Emitted :=
  (((connStep cfg s.1 ev).1, nextMark s.2 s.1 ev (connStep cfg s.1 ev).1), (connStep cfg s.1 ev).2)

/-- Every event of the run meets the condition in the state and under the mark it finds. -/
def MarkAlong (good : Outcome × WindowMark → ConnEvent → Prop) (cfg : EngineConfig) (o : Opening)
    (es : List ConnEvent) : Prop :=
  Along good (markStep cfg) (.live (o.tcb cfg), .zero) es

/-- A segment in ESTABLISHED sets the window to its scaled one exactly if the RFC says so. -/
def WindowFollows : Outcome × WindowMark → ConnEvent → Prop
  | (.live t, w), .segment clock seg => bearsAck seg t = true →
      ∃ t', (segmentTcb clock seg t).outcome = .live t' ∧
        t'.sndWnd = if w.updatedBy seg then shl32 seg.window.toNat t.sndScale else t.sndWnd
  | _, _ => True

/-- The inputs on which the engine's test agrees with the RFC's.  With the RFC's mark: no older segment repeats the
last ACK, and none at the same number acknowledges beyond `snd_nxt`.  Before: the numbers are not zero, and in the
lower half exactly if they are ahead of the handshake's. -/
def WindowSafe : Outcome × WindowMark → ConnEvent → Prop
  | (.live t, w), .segment _ seg => bearsAck seg t = true →
      if t.mark = w then
        (seg.ack = w.wl2 → w.wl1.le seg.seq = true) ∧
          (seg.seq = w.wl1 → w.wl2.lt seg.ack = true → seg.ack.le t.sndNxt = true)
      else seg.seq ≠ ⟨0⟩ ∧ seg.ack ≠ ⟨0⟩ ∧
        (seg.seq.val.toNat < 2 ^ 31 ↔
          if seg.seq = w.wl1 then seg.ack.diff w.wl2 < 2 ^ 31 else seg.seq.diff w.wl1 < 2 ^ 31)
  | _, _ => True

/-! ## The two tests -/

theorem windowUpdates_iff (seg : ParsedTcpSegment) (t : Tcb) : windowUpdates seg t = true ↔
    t.sndWl1.lt seg.seq = true ∨
      ((seg.seq = t.sndWl1 ∧ seg.ack.le t.sndNxt = true) ∧ t.sndWl2.lt seg.ack = true) ∨ seg.ack = t.sndWl2 := by
  simp only [windowUpdates, SeqNum.gt, Bool.or_eq_true, Bool.and_eq_true, beq_iff_eq]

theorem WindowMark.updatedBy_iff (w : WindowMark) (seg : ParsedTcpSegment) : w.updatedBy seg = true ↔
    w.wl1.lt seg.seq = true ∨ w.wl1 = seg.seq ∧ (w.wl2 = seg.ack ∨ w.wl2.lt seg.ack = true) := by
  simp only [updatedBy, SeqNum.le_iff, Bool.or_eq_true, Bool.and_eq_true, beq_iff_eq]

theorem windowUpdates_of_mark {t : Tcb} {seg : ParsedTcpSegment} (hold : seg.ack = t.sndWl2 → t.sndWl1.le seg.seq = true)
    (hnew : seg.seq = t.sndWl1 → t.sndWl2.lt seg.ack = true → seg.ack.le t.sndNxt = true) :
    windowUpdates seg t = t.mark.updatedBy seg := by
  rw [Bool.eq_iff_iff, windowUpdates_iff, WindowMark.updatedBy_iff]
  change _ ↔ t.sndWl1.lt seg.seq = true ∨ t.sndWl1 = seg.seq ∧ (t.sndWl2 = seg.ack ∨ t.sndWl2.lt seg.ack = true)
  constructor
  · rintro (hlt | ⟨⟨hseq, -⟩, hlt⟩ | hack)
    · exact Or.inl hlt
    · exact Or.inr ⟨hseq.symm, Or.inr hlt⟩
    · rcases (SeqNum.le_iff _ _).1 (hold hack) with hseq | hlt
      · exact Or.inr ⟨hseq, Or.inl hack.symm⟩
      · exact Or.inl hlt
  · rintro (hlt | ⟨hseq, hack | hlt⟩)
    · exact Or.inl hlt
    · exact Or.inr (Or.inr hack.symm)
    · exact Or.inr (Or.inl ⟨⟨hseq.symm, hnew hseq.symm hlt⟩, hlt⟩)

theorem WindowMark.updatedBy_iff_diff (w : WindowMark) (seg : ParsedTcpSegment) : w.updatedBy seg = true ↔
    if seg.seq = w.wl1 then seg.ack.diff w.wl2 < 2 ^ 31 else seg.seq.diff w.wl1 < 2 ^ 31 := by
  rw [WindowMark.updatedBy_iff, SeqNum.lt_iff, SeqNum.lt_iff]
  have hseq := SeqNum.diff_eq_zero_iff seg.seq w.wl1
  have hack := SeqNum.diff_eq_zero_iff seg.ack w.wl2
  rw [eq_comm (a := w.wl1), eq_comm (a := w.wl2), ← hack]
  split_ifs with heq
  · rw [hseq.2 heq]
    simp only [heq, true_and]
    omega
  · simp only [heq, false_and, or_false]
    have hne : seg.seq.diff w.wl1 ≠ 0 := fun h => heq (hseq.1 h)
    omega

theorem windowUpdates_of_zero {t : Tcb} {seg : ParsedTcpSegment} (hzero : t.mark = .zero) (hseq : seg.seq ≠ ⟨0⟩)
    (hack : seg.ack ≠ ⟨0⟩) : windowUpdates seg t = true ↔ seg.seq.val.toNat < 2 ^ 31 := by
  obtain ⟨h1, h2⟩ := WindowMark.mk.inj hzero
  have hdiff : seg.seq.diff ⟨0⟩ = seg.seq.val.toNat := by simp [SeqNum.diff]
  have hpos : seg.seq.diff ⟨0⟩ ≠ 0 := fun h => hseq ((SeqNum.diff_eq_zero_iff _ _).1 h)
  rw [windowUpdates_iff, h1, h2, SeqNum.lt_iff, hdiff]
  rw [hdiff] at hpos
  constructor
  · rintro (hlt | ⟨⟨hz, -⟩, -⟩ | hz)
    · exact hlt.2
    · exact absurd hz hseq
    · exact absurd hz hack
  · exact fun hlt => Or.inl ⟨Nat.pos_of_ne_zero hpos, hlt⟩

/-! ## The window through a segment -/

structure SendWindow where
  wnd : Nat
  mark : WindowMark

def Tcb.sendWindow (t : Tcb) : SendWindow := ⟨t.sndWnd, t.mark⟩

theorem sendWindow_handleEstablished (clock : Instant) (seg : ParsedTcpSegment) (t : Tcb) :
    (handleEstablished clock seg t).1.sendWindow = (establishedAck seg t).sendWindow := by
  have hdata (u : Tcb) : (establishedData clock seg u).1.sendWindow = u.sendWindow := by
    unfold establishedData inOrder outOfOrder
    dsimp only
    split_ifs <;> rfl
  unfold handleEstablished establishedFin
  dsimp only
  split_ifs
  · exact hdata _
  · exact hdata _

theorem sendWindow_establishedAck (seg : ParsedTcpSegment) (t : Tcb) (hack : seg.flags.contains .ack = true) :
    (establishedAck seg t).sendWindow =
      if windowUpdates seg t then ⟨shl32 seg.window.toNat t.sndScale, seg.mark⟩ else t.sendWindow := by
  have hupdate (u : Tcb) (hu : u.sendWindow = t.sendWindow) (hscale : u.sndScale = t.sndScale)
      (htest : windowUpdates seg u = windowUpdates seg t) : (updateSendWindow seg u).sendWindow =
        if windowUpdates seg t then ⟨shl32 seg.window.toNat t.sndScale, seg.mark⟩ else t.sendWindow := by
    unfold updateSendWindow
    rw [htest, ← hscale]
    split_ifs
    · rfl
    · exact hu
  unfold establishedAck
  rw [if_pos hack]
  cases ackAcceptable seg t with
  | true => exact hupdate (ackAndDrain seg t) rfl rfl rfl
  | false => exact hupdate t rfl rfl rfl

theorem sendWindow_of_bearsAck (clock : Instant) {seg : ParsedTcpSegment} {t : Tcb} (h : bearsAck seg t = true) :
    ∃ t', (segmentTcb clock seg t).outcome = .live t' ∧ t'.sendWindow =
      if windowUpdates seg t then ⟨shl32 seg.window.toNat t.sndScale, seg.mark⟩ else t.sendWindow := by
  obtain ⟨hst, hrst, hack⟩ := (bearsAck_iff seg t).1 h
  refine ⟨(handleEstablished clock seg t).1, ?_, ?_⟩
  · rw [segmentTcb_established clock hst hrst]
    rfl
  · rw [sendWindow_handleEstablished, sendWindow_establishedAck seg t hack]

/-! ## The mark through a run -/

theorem mark_handleSetOption (option : SocketOption) (t : Tcb) : (handleSetOption option t).mark = t.mark :=
  field_handleSetOption option t Tcb.mark fun _ _ => rfl

theorem mark_call {cfg : EngineConfig} {ev : ConnEvent} {t t' : Tcb} (h : (callTcb cfg ev t).outcome = .live t')
    (hev : ∀ clock seg, ev = .segment clock seg → bearsAck seg t = false) : t'.mark = t.mark := by
  refine field_call h Tcb.mark (fun _ _ => rfl) (fun _ _ => rfl) (fun _ _ _ _ => rfl) (fun clock seg he hst hrst => ?_)
    fun option _ => mark_handleSetOption option t
  have hbears := hev clock seg he
  have hack : seg.flags.contains .ack = false := by simpa [bearsAck, hst, hrst] using hbears
  have hsame : (establishedAck seg t).sendWindow = t.sendWindow := by
    rw [establishedAck, if_neg (by rw [hack]; exact Bool.false_ne_true)]
  exact congrArg SendWindow.mark ((sendWindow_handleEstablished clock seg t).trans hsame)

theorem nextMark_of_established {w : WindowMark} {t t' : Tcb} {ev : ConnEvent} (hst : t.state = .established)
    (hev : ∀ clock seg, ev = .segment clock seg → bearsAck seg t = false) :
    nextMark w (.live t) ev (.live t') = w := by
  cases ev with
  | segment clock seg => simp [nextMark, hst, hev clock seg rfl, TcpState.early]
  | _ => rfl

def MarkKept : Outcome × WindowMark → Prop
  | (.live t, w) => (t.state.early = true → t.mark = .zero) ∧ (t.state = .established → t.mark = w ∨ t.mark = .zero)
  | (.removed _, _) => True

theorem windowUpdates_of_safe {t : Tcb} {w : WindowMark} {clock : Instant} {seg : ParsedTcpSegment}
    (hkept : MarkKept (.live t, w)) (hsafe : WindowSafe (.live t, w) (.segment clock seg))
    (hbears : bearsAck seg t = true) : windowUpdates seg t = w.updatedBy seg := by
  have hst := ((bearsAck_iff seg t).1 hbears).1
  have hcond := hsafe hbears
  split at hcond
  · next hmark =>
    subst hmark
    exact windowUpdates_of_mark hcond.1 hcond.2
  · next hmark =>
    rw [Bool.eq_iff_iff, windowUpdates_of_zero ((hkept.2 hst).resolve_left hmark) hcond.1 hcond.2.1, hcond.2.2,
      WindowMark.updatedBy_iff_diff]

/-- An event keeps the mark of the RFC. -/
theorem MarkKept.step {cfg : EngineConfig} (s : Outcome × WindowMark) (ev : ConnEvent) (hsafe : WindowSafe s ev)
    (h : MarkKept s) : MarkKept (markStep cfg s ev).1 := by
  obtain ⟨s, w⟩ := s
  cases s with
  | removed hd => trivial
  | live t =>
    change MarkKept ((callTcb cfg ev t).outcome, nextMark w (.live t) ev (callTcb cfg ev t).outcome)
    cases hout : (callTcb cfg ev t).outcome with
    | removed hd => trivial
    | live t' =>
      obtain ⟨hearly, hest⟩ := state_call hout
      by_cases hbears : ∃ clock seg, ev = .segment clock seg ∧ bearsAck seg t = true
      · obtain ⟨clock, seg, rfl, hbears⟩ := hbears
        have hst : t.state.early = false := by rw [((bearsAck_iff seg t).1 hbears).1]; rfl
        obtain ⟨u, hu, hwin⟩ := sendWindow_of_bearsAck clock hbears
        obtain rfl : t' = u := Outcome.live.inj (hout.symm.trans hu)
        have hmark := congrArg SendWindow.mark hwin
        rw [windowUpdates_of_safe h hsafe hbears] at hmark
        refine ⟨fun he => absurd (hearly he) (by rw [hst]; exact Bool.false_ne_true), fun hs => ?_⟩
        simp only [nextMark, hst, hbears, Bool.false_and, Bool.true_and, Bool.false_eq_true, if_false]
        split_ifs at hmark ⊢
        · exact Or.inl hmark
        · rw [show t'.mark = t.mark from hmark]
          exact h.2 (hest hs |>.resolve_left (by rw [hst]; exact Bool.false_ne_true))
      · have hnot (clock : Instant) (seg : ParsedTcpSegment) (hev : ev = .segment clock seg) : bearsAck seg t = false :=
          Bool.not_eq_true _ ▸ fun hb => hbears ⟨clock, seg, hev, hb⟩
        have hsame : t'.mark = t.mark := mark_call hout hnot
        refine ⟨fun he => hsame.trans (h.1 (hearly he)), fun hs => ?_⟩
        rw [hsame]
        rcases hest hs with he | he
        · exact Or.inr (h.1 he)
        · rw [nextMark_of_established he hnot]
          exact h.2 he

theorem MarkKept.follows (s : Outcome × WindowMark) (ev : ConnEvent) (hsafe : WindowSafe s ev) (h : MarkKept s) :
    WindowFollows s ev := by
  obtain ⟨s, w⟩ := s
  cases s with
  | removed hd => trivial
  | live t =>
    cases ev with
    | segment clock seg =>
      intro hbears
      obtain ⟨t', hout, hwin⟩ := sendWindow_of_bearsAck clock hbears
      rw [windowUpdates_of_safe h hsafe hbears] at hwin
      refine ⟨t', hout, ?_⟩
      have hwnd := congrArg SendWindow.wnd hwin
      split_ifs at hwnd ⊢ <;> exact hwnd
    | _ => trivial

/-- **Window updates.** In every run whose ACK-bearing segments are safe, each of them sets the send window exactly when
RFC 9293 says so, counting from the segment that completed the handshake. -/
theorem windowFollows_of_safe (cfg : EngineConfig) (o : Opening) (es : List ConnEvent)
    (h : MarkAlong WindowSafe cfg o es) : MarkAlong WindowFollows cfg o es := by
  refine Along.of_invariant MarkKept.step MarkKept.follows h ⟨fun _ => ?_, fun hst => ?_⟩
  · cases o <;> rfl
  · cases o <;> cases hst

instance (s : Outcome × WindowMark) (ev : ConnEvent) : Decidable (WindowSafe s ev) := by
  unfold WindowSafe
  induction s using Prod.casesOn with
  | mk s w => induction s using Outcome.casesOn <;> induction ev using ConnEvent.casesOn <;> infer_instance

instance (cfg : EngineConfig) (o : Opening) (es : List ConnEvent) : Decidable (MarkAlong WindowSafe cfg o es) :=
  inferInstanceAs (Decidable (Along _ _ _ _))

theorem windowFollows_sample : MarkAlong WindowFollows {} sampleOpen
    [.segment 1 (sampleSynAck 7000), .segment 2 (fromPeer 7001 101 .ack 500 [1]),
      .segment 3 (fromPeer 7002 101 .ack 400 [2])] :=
  windowFollows_of_safe {} sampleOpen _ (by decide +kernel)

/-- The first segment of a peer whose initial sequence number is `2^31` does not open the window. -/
theorem window_ignores_upper_half : ¬MarkAlong WindowFollows {} sampleOpen
    [.segment 1 (sampleSynAck 0x80000000), .segment 2 (fromPeer 0x80000001 101 .ack 500 [1])] := by
  rintro ⟨-, h, -⟩
  obtain ⟨t', hout, hwnd⟩ := h rfl
  cases hout
  revert hwnd
  decide +kernel

end DpdkStdlib.Tcp
