import DpdkStdlib.Tcp.Sender
import Mathlib.Tactic.IntervalCases

/-!
# The retry budget

A connection is aborted when its retransmission timer has expired more than `max_retries` times.  RFC 6298 counts
expirations in a row, so an acknowledgment that advances `snd_una` starts the count anew; the engine's counter is only
ever incremented.
-/

namespace DpdkStdlib.Tcp
open DpdkStdlib.Lib

variable {cfg : EngineConfig} {ev : ConnEvent} {t t' : Tcb}

/-- The retransmission timer expires at this event: `on_tick` takes its RTO branch. -/
def rtoExpires : Outcome → ConnEvent → Bool
  | .live t, .tick now _ => !expired now t && rtoDue now t
  | _, _ => false

/-- The event has moved `snd_una`. -/
def unaMoved : Outcome → Outcome → Bool
  | .live t, .live t' => t'.sndUna != t.sndUna
  | _, _ => false

/-- The event is an acknowledgment that advances `snd_una`. -/
def AckProgress (cfg : EngineConfig) (s : Outcome) (ev : ConnEvent) : Prop := unaMoved s (connStep cfg s ev).1 = true
deriving Decidable

/-- The segment acknowledges something new, by the test of the state it finds. -/
def acksNew (seg : ParsedTcpSegment) (t : Tcb) : Bool :=
  !seg.flags.contains .rst &&
    ((t.state.early && seg.ack == t.iss.add 1) ||
      (t.state.takesAcks && seg.flags.contains .ack && ackAcceptable seg t))

/-- Something new is acknowledged only while no retransmission has been counted. -/
def ProgressFirst : Outcome → ConnEvent → Prop
  | .live t, .segment _ seg => acksNew seg t = true → t.retransmitCount = 0
  | _, _ => True

/-- The RTO branch removes the connection with TimedOut at this tick. -/
def RtoAborts (cfg : EngineConfig) (now clock : Instant) (t : Tcb) : Prop :=
  rtoExpires (.live t) (.tick now clock) = true ∧
    (callTcb cfg (.tick now clock) t).outcome = .removed (timedOutHandle t)

/-- If the RTO branch aborts an established connection, `max_retries + 1` expirations came in a row, from some event
`k` on without progress. -/
def AbortEarned (cfg : EngineConfig) (o : Opening) (es : List ConnEvent) : Prop :=
  ∀ t now clock, (connRun cfg o es).1 = .live t → t.state = .established → RtoAborts cfg now clock t →
    ∃ k ≤ es.length,
      Along (fun s ev => ¬AckProgress cfg s ev) (connStep cfg) (connRun cfg o (es.take k)).1 (es.drop k) ∧
      cfg.maxRetries + 1 ≤
        tally rtoExpires (connStep cfg) (connRun cfg o (es.take k)).1 (es.drop k ++ [.tick now clock])

/-! ## The counter -/

theorem count_inbound (s : Sender) {m : Move} (hm : m.inbound = true) : (senderStep s m).1.count = s.count := by
  cases m with
  | opened => rfl
  | segment clock ack next disarm =>
    cases ack with
    | none => rfl
    | some a =>
      simp only [senderStep, Sender.ackedBy, Sender.acked]
      split_ifs <;> rfl
  | _ => cases hm

theorem count_sendFin (clock : Instant) (t : Tcb) : (sendFin clock t).1.sender.count = t.sender.count := by
  unfold sendFin
  dsimp only
  split <;> rfl

theorem count_flushFin (clock : Instant) (t : Tcb) : (flushFin clock t).1.sender.count = t.sender.count := by
  unfold flushFin
  split_ifs
  · exact count_sendFin clock t
  · rfl

theorem count_txDrain (now clock : Instant) (t : Tcb) : (txDrain now clock t).1.sender.count = t.sender.count := by
  obtain ⟨_, _, _, _, hsend⟩ := txSend_frame now t
  unfold txDrain
  dsimp only
  rw [count_flushFin, sender_armTimers, hsend]
  rfl

theorem count_handleShutdown (clock : Instant) (how : Shutdown) (t : Tcb) :
    (handleShutdown clock how t).1.sender.count = t.sender.count := by
  generalize h : handleShutdown clock how t = r
  cases handleShutdown_cases h with
  | ignored | eof | waits => rfl
  | sends => exact count_sendFin clock (shutdownDrained t)

theorem count_call (h : (callTcb cfg ev t).outcome = .live t') :
    t'.sender.count ≤ t.sender.count + (rtoExpires (.live t) ev).toNat := by
  have hsame (hs : t'.sender.count = t.sender.count) :
      t'.sender.count ≤ t.sender.count + (rtoExpires (.live t) ev).toNat := by
    rw [hs]
    exact Nat.le_add_right _ _
  cases ev with
  | write | read => cases h; exact hsame rfl
  | segment clock seg =>
    rcases sender_segmentTcb h with hs | ⟨-, m, hm, hs⟩
    · exact hsame (by rw [hs])
    · have hc := count_inbound t.sender hm.inbound
      rw [hs] at hc
      exact hsame hc
  | tick now clock =>
    change (onTickTcb cfg now clock t).outcome = .live t' at h
    generalize heff : onTickTcb cfg now clock t = eff at h
    cases onTickTcb_cases heff with
    | expired | rtoAborted | keepaliveAborted => cases h
    | retransmitted hexp hdue =>
      cases h
      have hcount : rtoExpires (.live t) (.tick now clock) = true := by simp [rtoExpires, hexp, hdue]
      rw [hcount]
      exact Nat.mod_le _ _
    | probed => cases h; exact hsame rfl
    | keepaliveProbed => cases h; exact hsame rfl
    | quiet => exact hsame (by rw [Effect.live_keep h, sender_tickDelayedAck])
    | drained =>
      refine hsame ?_
      rw [Effect.live_keep h]
      dsimp only
      rw [count_txDrain, sender_tickDelayedAck]
  | shutdown clock how => cases h; exact hsame (count_handleShutdown clock how t)
  | close clock linger =>
    dsimp only [callTcb, handleClose] at h
    split_ifs at h
    · cases h
    · rw [Effect.live_keep h] at hsame ⊢
      exact hsame (count_handleShutdown clock .write t)
  | setOption option => cases h; exact hsame (by rw [sender_handleSetOption])

/-! ## Progress -/

theorem una_of_not_segment (h : (callTcb cfg ev t).outcome = .live t') (hev : ∀ clock seg, ev ≠ .segment clock seg) :
    t'.sender.una = t.sender.una := by
  obtain ⟨ms, hms, hrun⟩ := acts_call (A := fun _ _ => False) h (fun _ _ _ => Nat.le_refl _)
    (fun clock seg hseg => absurd hseg (hev clock seg)) 0
  have hinv := run_invariant (I := fun s _ => s.una = t.sender.una) (fun s _ m hm hI => ?_) ms t.sender [] hms rfl
  · rwa [hrun] at hinv
  · cases m with
    | opened | segment => exact (hm.1.2 rfl).elim
    | _ => exact hI

theorem acksNew_of_moved (h : (callTcb cfg ev t).outcome = .live t') (hmoved : t'.sender.una ≠ t.sender.una) :
    ∃ clock seg, ev = .segment clock seg ∧ acksNew seg t = true := by
  by_cases hev : ∃ clock seg, ev = .segment clock seg
  · obtain ⟨clock, seg, rfl⟩ := hev
    refine ⟨clock, seg, rfl, ?_⟩
    rcases sender_segmentTcb h with hs | ⟨hrst, m, hm, hs⟩
    · rw [hs] at hmoved
      exact absurd rfl hmoved
    · have hun : (senderStep t.sender m).1.una = t'.sender.una := by rw [hs]
      unfold acksNew
      rw [hrst]
      cases m with
      | opened rto =>
        cases hm with
        | opened _ hst hack => simp [hst, hack]
      | segment clock' ack next disarm =>
        cases ack with
        | none => exact absurd hun.symm hmoved
        | some a =>
          have hst := ((hm.enabled 0).2 a rfl).1
          obtain ⟨rfl, hflag, hgt, hle⟩ := acceptedAck_eq_some hm.acceptedAck_eq
          simp [show t.state.takesAcks = true from hst, hflag, ackAcceptable, hgt, hle]
      | _ => cases hm.inbound
  · refine absurd (una_of_not_segment h fun clock seg hseg => hev ⟨clock, seg, hseg⟩) hmoved

def Outcome.retries : Outcome → Nat
  | .live t => t.retransmitCount
  | .removed _ => 0

/-- Progress clears the count. -/
theorem retries_progress {s : Outcome} (hgood : ProgressFirst s ev) (hprog : AckProgress cfg s ev) :
    (connStep cfg s ev).1.retries = 0 := by
  unfold AckProgress at hprog
  cases s with
  | removed h => rfl
  | live t =>
    change (callTcb cfg ev t).outcome.retries = 0
    change unaMoved (.live t) (callTcb cfg ev t).outcome = true at hprog
    cases hout : (callTcb cfg ev t).outcome with
    | removed h => rfl
    | live t' =>
      rw [hout] at hprog
      have hmoved : t'.sndUna ≠ t.sndUna := bne_iff_ne.1 hprog
      obtain ⟨clock, seg, rfl, hnew⟩ := acksNew_of_moved hout hmoved
      have hzero : t.retransmitCount = 0 := hgood hnew
      have hle := count_call hout
      change t'.retransmitCount ≤ t.retransmitCount + 0 at hle
      change t'.retransmitCount = 0
      omega

theorem retries_le (cfg : EngineConfig) (s : Outcome) (ev : ConnEvent) :
    (connStep cfg s ev).1.retries ≤ s.retries + (rtoExpires s ev).toNat := by
  cases s with
  | removed h => exact Nat.zero_le _
  | live t =>
    change (callTcb cfg ev t).outcome.retries ≤ _
    cases hout : (callTcb cfg ev t).outcome with
    | removed h => exact Nat.zero_le _
    | live t' => exact count_call hout

theorem RtoAborts.retries {now clock : Instant} (h : RtoAborts cfg now clock t) :
    cfg.maxRetries ≤ t.retransmitCount := by
  obtain ⟨hexp, hout⟩ := h
  simp only [rtoExpires, Bool.and_eq_true, Bool.not_eq_true'] at hexp
  change (onTickTcb cfg now clock t).outcome = _ at hout
  rw [onTickTcb, if_neg (by rw [hexp.1]; exact Bool.false_ne_true), tickTcb, if_pos hexp.2, tickRto] at hout
  split_ifs at hout with hcount
  · have := Nat.mod_le (t.retransmitCount + 1) (2 ^ 32)
    omega
  · cases hout

/-- **Aborts are earned** as long as acknowledgments make progress before the first expiration only. -/
theorem abort_earned (cfg : EngineConfig) (o : Opening) (es : List ConnEvent)
    (hgood : ConnAlong ProgressFirst cfg o es) : AbortEarned cfg o es := by
  intro t now clock hrun _ habort
  obtain ⟨es₁, es₂, rfl, halong, hle⟩ := run_since rtoExpires (AckProgress cfg) Outcome.retries
    (fun _ _ => retries_progress) (fun s ev _ _ => retries_le cfg s ev) (by cases o <;> rfl) es hgood
  refine ⟨es₁.length, by simp, ?_⟩
  rw [List.take_left, List.drop_left]
  refine ⟨halong, ?_⟩
  have hcount := habort.retries
  have hend : (run (connStep cfg) (connRun cfg o es₁).1 es₂).1 = .live t := by
    rw [← hrun, connRun, connRun, run_append]
  rw [tally_append, hend]
  change (run (connStep cfg) _ _).1 = .live t at hrun
  rw [hrun] at hle
  have hlast : tally rtoExpires (connStep cfg) (.live t) [.tick now clock] = 1 := by simp [tally, habort.1]
  rw [hlast]
  exact Nat.add_le_add_right (hcount.trans hle) 1

/-- A byte is sent, its timer expires once, and the retransmission is acknowledged; then another byte is sent. -/
def sampleRecovery : List ConnEvent :=
  [.segment 1 (sampleSynAck 7000), .write [1], .tick 0 0, .tick (fromSecs 1) 0,
    .segment (fromSecs 1) (fromPeer 7001 102 .ack 500 []), .write [2], .tick (fromSecs 2) 0]

/-- With one retry allowed, the second byte's first expiration aborts the connection. -/
theorem abort_unearned : ¬AbortEarned { maxRetries := 1 } sampleOpen sampleRecovery := by
  intro h
  obtain ⟨k, hk, halong, hcount⟩ := h _ (fromSecs 3) 0 rfl rfl ⟨by decide +kernel, rfl⟩
  have hk7 : k ≤ 7 := hk
  revert halong hcount
  interval_cases k <;> decide +kernel

/-- With no acknowledgment at all, the abort comes after two expirations. -/
theorem abort_earned_sample :
    ∃ t, (connRun { maxRetries := 1 } sampleOpen (sampleRecovery.take 4)).1 = .live t ∧
      t.state = .established ∧ RtoAborts { maxRetries := 1 } (fromSecs 3) 0 t ∧
      AbortEarned { maxRetries := 1 } sampleOpen (sampleRecovery.take 4) :=
  ⟨_, rfl, rfl, ⟨by decide +kernel, rfl⟩,
    abort_earned { maxRetries := 1 } sampleOpen (sampleRecovery.take 4) ⟨fun _ => rfl, trivial, trivial, trivial, trivial⟩⟩

end DpdkStdlib.Tcp
