import DpdkStdlib.Tcp.Accounting
import DpdkStdlib.Tcp.Advertise
import DpdkStdlib.Tcp.Control
import DpdkStdlib.Tcp.Sender

/-!
# Resets (`engine.rs`)

An RST that is exactly in sequence aborts a connection; one that is only in the window gets an ACK that tells a real
peer where the sequence is; all others are dropped.  The window test compares serial numbers, so it is the test of the
window only as long as neither of its parts is half the number space long.
-/

namespace DpdkStdlib.Tcp
open DpdkStdlib.Lib

variable {t : Tcb} {seg : ParsedTcpSegment} {e : TcpEngine}

/-- The RST acknowledges our SYN, or comes in a later state with the sequence number expected next. -/
def RstAborts (seg : ParsedTcpSegment) (t : Tcb) : Prop :=
  (t.state = .synSent ∧ seg.flags.contains .ack = true ∧ seg.ack = t.iss.add 1) ∨
    ((t.state = .synReceived ∨ t.state.synchronised = true) ∧ seg.seq = t.rcvNxt)
deriving Decidable

/-- The RST is in the window of a synchronised connection, behind the sequence number expected next. -/
def RstChallenged (seg : ParsedTcpSegment) (t : Tcb) : Prop :=
  t.state.synchronised = true ∧ 0 < seg.seq.diff t.rcvNxt ∧ seg.seq.diff t.rcvNxt < t.rcvWnd
deriving Decidable

/-- The same engine, apart from the iteration order of the TCBs. -/
structure TcpEngine.Unchanged (e e' : TcpEngine) : Prop where
  tcbs : ∀ k, e'.tcbs.get? k = e.tcbs.get? k
  listeners : e'.listeners = e.listeners
  pendingConnects : e'.pendingConnects = e.pendingConnects
  isnGen : e'.isnGen = e.isnGen
  config : e'.config = e.config
  closed : e'.closed = e.closed

/-- The plain ACK of the TCB's state, to the sender of the segment. -/
structure ChallengeAck (seg : ParsedTcpSegment) (t : Tcb) (f : Emitted) : Prop where
  src : f.params.src = seg.dst
  dst : f.params.dst = seg.src
  flags : f.params.flags = .ack
  seq : f.params.seq = t.sndNxt
  ack : f.params.ack = t.rcvNxt
  payload : f.params.payload = []
  built : ∀ ip port ip' port', seg.src = .v4 ip port → seg.dst = .v4 ip' port' → f.frame.isSome = true

/-- What RFC 9293 asks for an RST: ignore, challenge or reset. -/
structure RstHandled (e : TcpEngine) (seg : ParsedTcpSegment) (r : CallResult) : Prop where
  /-- No TCB is removed but the one that the RST aborts. -/
  removed : ∀ k, (e.tcbs.get? k).isSome = true → r.engine.tcbs.get? k = none →
    k = ⟨seg.dst, seg.src⟩ ∧ ∃ t, e.tcbs.get? k = some t ∧ RstAborts seg t
  aborted : ∀ t, e.tcbs.get? ⟨seg.dst, seg.src⟩ = some t → RstAborts seg t →
    r.engine.tcbs.get? ⟨seg.dst, seg.src⟩ = none ∧ r.out = []
  challenged : ∀ t, e.tcbs.get? ⟨seg.dst, seg.src⟩ = some t → RstChallenged seg t →
    e.Unchanged r.engine ∧ r.sent = [] ∧ ∃ f, r.out = [f] ∧ ChallengeAck seg t f
  dropped : (∀ t, e.tcbs.get? ⟨seg.dst, seg.src⟩ = some t → ¬RstAborts seg t ∧ ¬RstChallenged seg t) →
    e.Unchanged r.engine ∧ r.sent = [] ∧ r.out = []

/-! ## The window test -/

theorem isInWindow_iff {seq rcvNxt : SeqNum} {rcvWnd : Nat} (hwnd : rcvWnd < 2 ^ 32) (hne : seq ≠ rcvNxt) :
    isInWindow seq rcvNxt rcvWnd = true ↔
      (0 < seq.diff rcvNxt ∧ seq.diff rcvNxt < rcvWnd) ∧
        seq.diff rcvNxt < 2 ^ 31 ∧ rcvWnd - seq.diff rcvNxt < 2 ^ 31 := by
  have hd := seq.diff_lt rcvNxt
  have hpos : 0 < seq.diff rcvNxt := Nat.pos_of_ne_zero fun h => hne ((SeqNum.diff_eq_zero_iff _ _).1 h)
  have hend : (rcvNxt.add rcvWnd).diff seq =
      if seq.diff rcvNxt ≤ rcvWnd then rcvWnd - seq.diff rcvNxt else 2 ^ 32 - (seq.diff rcvNxt - rcvWnd) := by
    conv_lhs => rw [← SeqNum.add_diff seq rcvNxt]
    split_ifs with hle
    · exact SeqNum.diff_add_add _ hle (by omega)
    · exact SeqNum.diff_add_add_of_lt _ (by omega) (by omega)
  have hbeq : (seq == rcvNxt) = false := by simpa using hne
  unfold isInWindow
  split_ifs with hzero
  · simp only [hbeq, Bool.false_eq_true, false_iff]
    omega
  · simp only [hbeq, Bool.false_or, Bool.and_eq_true, SeqNum.gt, SeqNum.lt_iff, hend]
    split_ifs <;> omega

theorem rcvWnd_le_call {cfg : EngineConfig} {ev : ConnEvent} {t' : Tcb} (h : (callTcb cfg ev t).outcome = .live t') :
    t'.rcvWnd ≤ t.rcvWnd := by
  by_cases hsize : ∃ size, ev = .setOption (.recvBufSize size)
  · obtain ⟨size, rfl⟩ := hsize
    cases h
    exact Nat.min_le_left _ _
  · refine (field_call h Tcb.rcvWnd (fun _ _ => rfl) (fun _ _ => rfl) (fun _ _ _ _ => rfl)
      (fun clock seg _ _ _ => field_handleEstablished clock seg t Tcb.rcvWnd fun _ _ => rfl) fun option hev => ?_).le
    cases option with
    | recvBufSize size => exact absurd ⟨size, hev⟩ hsize
    | keepalive config => cases config <;> rfl
    | _ => rfl

theorem rcvWnd_le (isnGen : IsnGenerator) (cfg : EngineConfig) (evs : List EngineEvent) {key : FourTuple}
    (ht : (engineRun (.new isnGen cfg) evs).tcbs.get? key = some t) : t.rcvWnd ≤ cfg.defaultRcvWnd := by
  refine reachable_invariant ht (P := fun t => t.rcvWnd ≤ cfg.defaultRcvWnd)
    (fun t ev t' hle hcall => (rcvWnd_le_call hcall).trans hle) fun o => ?_
  cases o <;> exact Nat.le_refl _

/-! ## The handler -/

theorem handleRst_aborts (h : RstAborts seg t) :
    ∃ hd, (handleRst seg t).outcome = .removed hd ∧ (handleRst seg t).out = [] := by
  unfold handleRst
  rcases h with ⟨hst, hflag, hack⟩ | ⟨hst, hseq⟩
  · rw [hst]
    dsimp only
    rw [if_pos (by rw [hflag, hack]; simp)]
    exact ⟨_, rfl, rfl⟩
  · cases hstate : t.state with
    | synReceived => dsimp only; rw [if_pos hseq]; exact ⟨_, rfl, rfl⟩
    | synSent | closed | listen => rw [hstate] at hst; rcases hst with hst | hst <;> cases hst
    | _ => dsimp only [handleRstRfc5961]; rw [if_pos hseq]; exact ⟨_, rfl, rfl⟩

/-- An RST that does not abort: a challenge, or nothing. -/
theorem handleRst_keeps (h : ¬RstAborts seg t) :
    handleRst seg t = .keep (t,
      if t.state.synchronised = true ∧ isInWindow seg.seq t.rcvNxt t.rcvWnd = true then
        [⟨.challengeAck, t.buildAckForTcb⟩]
      else []) := by
  have hseq (hst : t.state.synchronised = true) : seg.seq ≠ t.rcvNxt := fun hseq => h (.inr ⟨.inr hst, hseq⟩)
  unfold handleRst
  cases hstate : t.state with
  | synSent =>
    have hno : ¬(seg.flags.contains .ack && seg.ack == t.iss.add 1) = true := fun hyes =>
      h (.inl ⟨hstate, by simpa using hyes⟩)
    dsimp only
    rw [if_neg hno, if_neg (fun hsync => by cases hsync.1)]
  | synReceived =>
    dsimp only
    rw [if_neg (fun hseq => h (.inr ⟨.inl hstate, hseq⟩)), if_neg (fun hsync => by cases hsync.1)]
  | closed | listen =>
    dsimp only
    rw [if_neg (fun hsync => by cases hsync.1)]
  | _ =>
    dsimp only [handleRstRfc5961]
    rw [if_neg (hseq (by rw [hstate]; rfl))]
    simp only [TcpState.synchronised, true_and]
    split_ifs <;> rfl

/-! ## The engine -/

theorem TcpEngine.unchanged_refl (e : TcpEngine) : e.Unchanged e := ⟨fun _ => rfl, rfl, rfl, rfl, rfl, rfl⟩

theorem TcpEngine.unchanged_store {key : FourTuple} (ht : e.tcbs.get? key = some t) :
    e.Unchanged (e.store key (.live t)) := by
  refine ⟨fun k => ?_, rfl, rfl, rfl, rfl, rfl⟩
  change (e.tcbs.insert key t).get? k = _
  rw [AssocMap.get?_insert]
  split_ifs with hk
  · rw [hk, ht]
  · rfl

theorem challengeAck_buildAckForTcb (hkey : t.key = ⟨seg.dst, seg.src⟩) :
    ChallengeAck seg t ⟨.challengeAck, t.buildAckForTcb⟩ := by
  refine ⟨?_, ?_, rfl, rfl, rfl, rfl, fun ip port ip' port' hsrc hdst => ?_⟩
  · rw [Tcb.buildAckForTcb, Tcb.params, hkey]
  · rw [Tcb.buildAckForTcb, Tcb.params, hkey]
  · rw [Emitted.frame, buildTcpFrame, Tcb.buildAckForTcb, Tcb.params]
    dsimp only
    rw [hkey, hdst, hsrc]
    rfl

theorem not_challenged_of_aborts (h : RstAborts seg t) : ¬RstChallenged seg t := by
  rintro ⟨hsync, hpos, -⟩
  rcases h with ⟨hst, -⟩ | ⟨-, hseq⟩
  · rw [hst] at hsync
    cases hsync
  · rw [hseq, SeqNum.diff_self] at hpos
    exact Nat.lt_irrefl 0 hpos

theorem rstHandled_aborts (ht : e.tcbs.get? ⟨seg.dst, seg.src⟩ = some t) (h : RstAborts seg t) :
    RstHandled e seg (e.applyEffect ⟨seg.dst, seg.src⟩ (handleRst seg t)) := by
  obtain ⟨hd, houtcome, hout⟩ := handleRst_aborts h
  have htcbs : (e.applyEffect ⟨seg.dst, seg.src⟩ (handleRst seg t)).engine.tcbs = e.tcbs.erase ⟨seg.dst, seg.src⟩ := by
    rw [(TcpEngine.applyEffect_same e _ _).1, houtcome]
    rfl
  have honly (u : Tcb) (hu : e.tcbs.get? ⟨seg.dst, seg.src⟩ = some u) : u = t := Option.some.inj (hu.symm.trans ht)
  refine ⟨fun k hsome hnone => ?_, fun u _ _ => ⟨?_, ?_⟩, fun u hu hch => ?_, fun hother => ?_⟩
  · rw [htcbs, AssocMap.get?_erase] at hnone
    split_ifs at hnone with hk
    · exact ⟨hk, t, hk ▸ ht, h⟩
    · rw [hnone] at hsome
      cases hsome
  · rw [htcbs, AssocMap.get?_erase_self]
  · rw [TcpEngine.out_applyEffect, hout]
  · exact absurd (honly u hu ▸ hch) (not_challenged_of_aborts h)
  · exact absurd h (hother t ht).1

theorem rstHandled_keeps_iff (ht : e.tcbs.get? ⟨seg.dst, seg.src⟩ = some t) (hkey : t.key = ⟨seg.dst, seg.src⟩)
    (hwnd : t.rcvWnd < 2 ^ 32) (h : ¬RstAborts seg t) :
    RstHandled e seg (e.applyEffect ⟨seg.dst, seg.src⟩ (handleRst seg t)) ↔
      (RstChallenged seg t → seg.seq.diff t.rcvNxt < 2 ^ 31 ∧ t.rcvWnd - seg.seq.diff t.rcvNxt < 2 ^ 31) := by
  rw [handleRst_keeps h]
  have hne (hst : t.state.synchronised = true) : seg.seq ≠ t.rcvNxt := fun hseq => h (.inr ⟨.inr hst, hseq⟩)
  have hsame := TcpEngine.unchanged_store ht
  constructor
  · intro hhandled hch
    obtain ⟨-, -, f, hout, -⟩ := hhandled.challenged t ht hch
    by_contra hlong
    have hno : ¬(t.state.synchronised = true ∧ isInWindow seg.seq t.rcvNxt t.rcvWnd = true) := fun hin =>
      hlong ((isInWindow_iff hwnd (hne hin.1)).1 hin.2).2
    rw [if_neg hno] at hout
    cases hout
  · intro hshort
    refine ⟨fun k hsome hnone => ?_, fun u hu habort => ?_, fun u hu hch => ?_, fun hother => ?_⟩
    · rw [← hsame.tcbs k] at hsome
      exact absurd hsome (by rw [show (e.store ⟨seg.dst, seg.src⟩ (.live t)).tcbs.get? k = none from hnone]; exact nofun)
    · cases Option.some.inj (hu.symm.trans ht)
      exact absurd habort h
    · cases Option.some.inj (hu.symm.trans ht)
      have hin : isInWindow seg.seq t.rcvNxt t.rcvWnd = true := (isInWindow_iff hwnd (hne hch.1)).2 ⟨hch.2, hshort hch⟩
      refine ⟨hsame, rfl, ⟨.challengeAck, t.buildAckForTcb⟩, ?_, challengeAck_buildAckForTcb hkey⟩
      rw [if_pos ⟨hch.1, hin⟩]
      rfl
    · refine ⟨hsame, rfl, ?_⟩
      rw [if_neg fun hin => (hother t ht).2 ⟨hin.1, ((isInWindow_iff hwnd (hne hin.1)).1 hin.2).1⟩]
      rfl

/-- **Resets.** A reachable engine handles an RST as its sequence number demands, exactly if it is not one in the window
of a synchronised connection that has half the number space before or behind it in the window. -/
theorem rst_handled_iff (isnGen : IsnGenerator) (cfg : EngineConfig) (hcfg : cfg.defaultRcvWnd < 2 ^ 32)
    (evs : List EngineEvent) (clock : Instant) (seg : ParsedTcpSegment) (srcMac dstMac : MacAddr)
    (hrst : seg.flags.contains .rst = true) :
    RstHandled (engineRun (.new isnGen cfg) evs) seg
        ((engineRun (.new isnGen cfg) evs).onSegmentWithMacs clock seg srcMac dstMac) ↔
      ∀ t, (engineRun (.new isnGen cfg) evs).tcbs.get? ⟨seg.dst, seg.src⟩ = some t → RstChallenged seg t →
        seg.seq.diff t.rcvNxt < 2 ^ 31 ∧ t.rcvWnd - seg.seq.diff t.rcvNxt < 2 ^ 31 := by
  rw [TcpEngine.onSegmentWithMacs, if_pos hrst]
  cases ht : (engineRun (.new isnGen cfg) evs).tcbs.get? ⟨seg.dst, seg.src⟩ with
  | none =>
    rw [TcpEngine.onKey_of_none ht]
    refine iff_of_true ⟨fun k hsome hnone => ?_, fun t hsome => ?_, fun t hsome => ?_, fun _ => ?_⟩
      fun t hsome => by cases hsome
    · rw [hnone] at hsome
      cases hsome
    · rw [ht] at hsome
      cases hsome
    · rw [ht] at hsome
      cases hsome
    · exact ⟨TcpEngine.unchanged_refl _, rfl, rfl⟩
  | some t =>
    rw [TcpEngine.onKey_of_get? ht]
    by_cases habort : RstAborts seg t
    · refine iff_of_true (rstHandled_aborts ht habort) fun u hu hch => ?_
      cases hu
      exact absurd hch (not_challenged_of_aborts habort)
    · have hwnd := rcvWnd_le isnGen cfg evs ht
      rw [rstHandled_keeps_iff ht (reachable_identity isnGen cfg evs ht).1 (by omega) habort]
      exact ⟨fun hshort u hu hch => by cases hu; exact hshort hch, fun hshort => hshort t rfl⟩

/-- The sample connection with the given receive window, established with a peer whose stream starts at 1001. -/
def windowEngine (defaultRcvWnd : Nat) : TcpEngine :=
  engineRun (.new { hash := fun _ => 100, bootInstant := 0 } { defaultRcvWnd })
    [.connect 0 sampleKey (Vector.replicate 6 1) (Vector.replicate 6 2) 65536 65536 0,
      .segment 1 (sampleSynAck 1000) (Vector.replicate 6 2) (Vector.replicate 6 1)]

/-- With the default window an RST one byte ahead is challenged. -/
theorem rst_handled_sample :
    RstHandled (windowEngine 65535) (fromPeer 1002 0 .rst 0 [])
      ((windowEngine 65535).onSegmentWithMacs 2 (fromPeer 1002 0 .rst 0 []) (Vector.replicate 6 2)
        (Vector.replicate 6 1)) := by
  refine (rst_handled_iff _ _ (by decide) _ 2 (fromPeer 1002 0 .rst 0 []) _ _ (by decide)).2 fun t ht hch => ?_
  have hall : ((windowEngine 65535).tcbs.get? sampleKey).all fun t =>
      ((fromPeer 1002 0 .rst 0 []).seq.diff t.rcvNxt < 2 ^ 31 ∧
        t.rcvWnd - (fromPeer 1002 0 .rst 0 []).seq.diff t.rcvNxt < 2 ^ 31) := by decide
  exact of_decide_eq_true ((Option.all_eq_true _ _).1 hall t ht)

/-- **A challenge that is not sent.** The receive window is three quarters of the number space.  An RST half the number
space ahead is in it, and gets no ACK. -/
theorem challenge_missing :
    (∃ t, (windowEngine 0xC0000000).tcbs.get? sampleKey = some t ∧ t.rcvWnd = 0xC0000000 ∧ t.rcvNxt = ⟨1001⟩ ∧
      RstChallenged (fromPeer 0x800003E9 0 .rst 0 []) t) ∧
    ((windowEngine 0xC0000000).onSegmentWithMacs 2 (fromPeer 0x800003E9 0 .rst 0 []) (Vector.replicate 6 2)
      (Vector.replicate 6 1)).out = [] := by
  refine ⟨⟨_, rfl, ?_⟩, ?_⟩ <;> decide

end DpdkStdlib.Tcp
