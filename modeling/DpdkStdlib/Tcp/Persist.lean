import DpdkStdlib.Tcp.Transmit
import DpdkStdlib.Tcp.Window

/-!
# A peer that keeps its window closed

A zero-window probe never gives up, but the RTO branch of a tick comes before it and the keepalive branch after it, and
both count what the peer leaves unanswered without looking at its acknowledgments: `retransmit_count` is never reset,
and `keepalive_probes_sent` by payload only.
-/

namespace DpdkStdlib.Tcp
open DpdkStdlib.Lib

variable {t t' : Tcb} {cfg : EngineConfig} {seg : ParsedTcpSegment} {ev : ConnEvent}

/-- A segment that acknowledges something between `snd_una` and `snd_nxt` and announces no window. -/
structure ClosesWindow (seg : ParsedTcpSegment) (t : Tcb) : Prop where
  notRst : seg.flags.contains .rst = false
  flag : seg.flags.contains .ack = true
  window : seg.window = 0
  range : seg.ack = t.sndUna ∨ ackAcceptable seg t = true

/-- The peer only acknowledges, in range and with a closed window. -/
def ZeroWindow : Outcome → ConnEvent → Prop
  | .live t, .segment _ seg => ClosesWindow seg t
  | _, _ => True

/-- The connection is there, without an error. -/
def Survives (s : Outcome) : Prop := ∃ t, s = .live t ∧ t.handle.error = none

/-! ## Events that leave the TCB in the map -/

/-- No closing timer has run out, and neither the retransmissions nor the probes are used up. -/
structure TickKeeps (cfg : EngineConfig) (now : Instant) (t : Tcb) : Prop where
  expiry : expired now t = false
  rto : rtoDue now t = true → (t.retransmitCount + 1) % 2 ^ 32 ≤ cfg.maxRetries
  keepalive : rtoDue now t = false → persistDue now t = false → due now t.keepaliveDeadline = true →
    ∀ ka ∈ t.keepalive, (t.keepaliveProbesSent + 1) % 2 ^ 32 ≤ ka.count

/-- No count runs out, the application does not discard the connection, and the peer does not acknowledge our last
FIN. -/
def Lasting (cfg : EngineConfig) : Outcome → ConnEvent → Prop
  | .live t, .tick now _ => TickKeeps cfg now t
  | .live _, .close _ linger => linger ≠ some 0
  | .live t, .segment _ seg => t.state = .lastAck → seg.ack ≠ t.sndNxt
  | _, _ => True

theorem exists_live_keep (r : Tcb × List Emitted) : ∃ t', (Effect.keep r).outcome = .live t' := ⟨r.1, rfl⟩

theorem not_live_removed {eff : Effect} {h : ConnectionHandle} (he : eff.outcome = .removed h) :
    ¬∃ t', eff.outcome = .live t' := by
  rintro ⟨t', ht'⟩
  rw [he] at ht'
  cases ht'

theorem live_onTickTcb_iff (cfg : EngineConfig) (now clock : Instant) (t : Tcb) :
    (∃ t', (onTickTcb cfg now clock t).outcome = .live t') ↔ TickKeeps cfg now t := by
  cases hexp : expired now t with
  | true =>
    rw [onTickTcb, if_pos hexp]
    exact ⟨fun h => absurd h (not_live_removed rfl), fun h => absurd (hexp.symm.trans h.expiry) Bool.true_eq_false.mp⟩
  | false =>
    rw [onTickTcb, if_neg (by rw [hexp]; exact Bool.false_ne_true), tickTcb]
    cases hrto : rtoDue now t with
    | true =>
      rw [if_pos rfl, tickRto]
      by_cases hcount : (t.retransmitCount + 1) % 2 ^ 32 > cfg.maxRetries
      · rw [if_pos hcount]
        exact ⟨fun h => absurd h (not_live_removed rfl), fun h => absurd (h.rto hrto) (Nat.not_le.2 hcount)⟩
      · rw [if_neg hcount]
        exact ⟨fun _ => ⟨hexp, fun _ => Nat.not_lt.1 hcount, fun h => by rw [hrto] at h; cases h⟩,
          fun _ => exists_live_keep _⟩
    | false =>
      have hno : rtoDue now t = true → (t.retransmitCount + 1) % 2 ^ 32 ≤ cfg.maxRetries := by
        intro h
        rw [hrto] at h
        cases h
      rw [if_neg Bool.false_ne_true]
      cases hpersist : persistDue now t with
      | true =>
        rw [if_pos rfl]
        exact ⟨fun _ => ⟨hexp, hno, fun _ h => by rw [hpersist] at h; cases h⟩, fun _ => exists_live_keep _⟩
      | false =>
        rw [if_neg Bool.false_ne_true]
        split
        · next ka hka hdue =>
          rw [tickKeepalive]
          by_cases hcount : (t.keepaliveProbesSent + 1) % 2 ^ 32 > ka.count
          · rw [if_pos hcount]
            exact ⟨fun h => absurd h (not_live_removed rfl), fun h =>
              absurd (h.keepalive hrto hpersist hdue ka hka) (Nat.not_le.2 hcount)⟩
          · rw [if_neg hcount]
            refine ⟨fun _ => ⟨hexp, hno, fun _ _ _ ka' hka' => ?_⟩, fun _ => exists_live_keep _⟩
            obtain rfl := Option.some.inj (hka.symm.trans hka')
            exact Nat.not_lt.1 hcount
        · next hne =>
          have hkeep : TickKeeps cfg now t := ⟨hexp, hno, fun _ _ hdue ka hka => absurd hdue (hne ka hka)⟩
          dsimp only
          split_ifs <;> exact ⟨fun _ => hkeep, fun _ => exists_live_keep _⟩

theorem live_segmentTcb_iff (clock : Instant) (hearly : t.state.early = false)
    (hrst : seg.flags.contains .rst = false) (hflag : seg.flags.contains .ack = true) :
    (∃ t', (segmentTcb clock seg t).outcome = .live t') ↔ (t.state = .lastAck → seg.ack ≠ t.sndNxt) := by
  rw [segmentTcb, if_neg (by rw [hrst]; exact Bool.false_ne_true), handleExistingTcb]
  cases hst : t.state with
  | synSent | synReceived => rw [hst] at hearly; cases hearly
  | lastAck =>
    change (∃ t', (handleLastAck seg t).outcome = .live t') ↔ _
    unfold handleLastAck
    rw [hflag, Bool.true_and]
    by_cases hack : (seg.ack == t.sndNxt) = true
    · rw [if_pos hack]
      exact ⟨fun h => absurd h (not_live_removed rfl), fun h => absurd (eq_of_beq hack) (h rfl)⟩
    · rw [if_neg hack]
      exact ⟨fun _ _ heq => hack (beq_iff_eq.2 heq), fun _ => ⟨t, rfl⟩⟩
  | established | finWait1 | finWait2 | closeWait | closing | timeWait | closed | listen =>
    exact ⟨fun _ h => absurd h (by decide), fun _ => ⟨_, rfl⟩⟩

/-- When a call leaves the TCB in the map. -/
theorem live_call_iff (hearly : t.state.early = false) (hev : ZeroWindow (.live t) ev) :
    (∃ t', (callTcb cfg ev t).outcome = .live t') ↔ Lasting cfg (.live t) ev := by
  cases ev with
  | write | read | shutdown | setOption => exact ⟨fun _ => trivial, fun _ => exists_live_keep _⟩
  | segment clock seg => exact live_segmentTcb_iff clock hearly hev.notRst hev.flag
  | tick now clock => exact live_onTickTcb_iff cfg now clock t
  | close clock linger =>
    dsimp only [callTcb, handleClose, Lasting]
    split_ifs with hzero
    · exact ⟨fun h => absurd h (not_live_removed rfl), fun h => absurd hzero h⟩
    · exact ⟨fun _ => hzero, fun _ => exists_live_keep _⟩

/-! ## Runs -/

theorem not_survives_removed (cfg : EngineConfig) (es : List ConnEvent) :
    ∀ h : ConnectionHandle, ¬Survives (run (connStep cfg) (.removed h) es).1 := by
  induction es with
  | nil =>
    rintro h ⟨t, ht, -⟩
    cases ht
  | cons ev es ih => exact fun h => ih (ev.onHandle h)

/-- A run is survived exactly if every event leaves the connection. -/
theorem survives_iff_along (cfg : EngineConfig) (es : List ConnEvent) : ∀ t : Tcb, t.state.early = false →
    t.handle.error = none → Along ZeroWindow (connStep cfg) (.live t) es →
    (Survives (run (connStep cfg) (.live t) es).1 ↔ Along (Lasting cfg) (connStep cfg) (.live t) es) := by
  induction es with
  | nil => exact fun t _ herror _ => ⟨fun _ => trivial, fun _ => ⟨t, rfl, herror⟩⟩
  | cons ev es ih =>
    intro t hearly herror hzero
    obtain ⟨hev, hes⟩ := hzero
    have hiff : (∃ t', (callTcb cfg ev t).outcome = .live t') ↔ Lasting cfg (.live t) ev := live_call_iff hearly hev
    change Along ZeroWindow (connStep cfg) (callTcb cfg ev t).outcome es at hes
    change Survives (run (connStep cfg) (callTcb cfg ev t).outcome es).1 ↔
      Lasting cfg (.live t) ev ∧ Along (Lasting cfg) (connStep cfg) (callTcb cfg ev t).outcome es
    cases hout : (callTcb cfg ev t).outcome with
    | live t' =>
      rw [hout] at hes hiff
      have hearly' : t'.state.early = false :=
        Bool.not_eq_true _ ▸ fun he => absurd (hearly.symm.trans ((state_call hout).1 he)) Bool.false_ne_true
      rw [ih t' hearly' ((error_call hout).trans herror) hes]
      exact ⟨fun h => ⟨hiff.1 ⟨t', rfl⟩, h⟩, fun h => h.2⟩
    | removed h =>
      have hgone := not_live_removed hout
      exact ⟨fun hs => absurd hs (not_survives_removed cfg es h), fun hs => absurd (hiff.2 hs.1) hgone⟩

theorem early_of_transmits {st : TcpState} (h : st = .established ∨ st = .closeWait) : st.early = false := by
  rcases h with rfl | rfl <;> rfl

/-- **A closed window.** A connection whose peer only acknowledges, with a closed window, stays and latches no error
exactly if no tick finds the retransmissions or the probes used up, and neither the application nor a closing timer or
acknowledgment ends it. -/
theorem survives_iff (cfg : EngineConfig) (o : Opening) (es₀ es : List ConnEvent) (t : Tcb)
    (hrun : (connRun cfg o es₀).1 = .live t) (hst : t.state = .established ∨ t.state = .closeWait)
    (hzero : Along ZeroWindow (connStep cfg) (.live t) es) :
    Survives (run (connStep cfg) (.live t) es).1 ↔ Along (Lasting cfg) (connStep cfg) (.live t) es :=
  survives_iff_along cfg es t (early_of_transmits hst) (identity_run hrun).2 hzero

instance : ∀ s : Outcome, Decidable (Survives s)
  | .live t => decidable_of_iff (t.handle.error = none) ⟨fun h => ⟨t, rfl, h⟩, fun ⟨_, h, he⟩ => by cases h; exact he⟩
  | .removed _ => isFalse fun ⟨_, h, _⟩ => by cases h

instance (seg : ParsedTcpSegment) (t : Tcb) : Decidable (ClosesWindow seg t) :=
  decidable_of_iff (_ ∧ _ ∧ _ ∧ _) ⟨fun h => ⟨h.1, h.2.1, h.2.2.1, h.2.2.2⟩, fun h => ⟨h.1, h.2, h.3, h.4⟩⟩

instance (s : Outcome) (ev : ConnEvent) : Decidable (ZeroWindow s ev) := by
  unfold ZeroWindow
  induction s using Outcome.casesOn <;> induction ev using ConnEvent.casesOn <;> infer_instance

instance (cfg : EngineConfig) (now : Instant) (t : Tcb) : Decidable (TickKeeps cfg now t) :=
  decidable_of_iff (_ ∧ _ ∧ _) ⟨fun h => ⟨h.1, h.2.1, h.2.2⟩, fun h => ⟨h.1, h.2, h.3⟩⟩

instance (cfg : EngineConfig) (s : Outcome) (ev : ConnEvent) : Decidable (Lasting cfg s ev) := by
  unfold Lasting
  induction s using Outcome.casesOn <;> induction ev using ConnEvent.casesOn <;> infer_instance

/-! ## Samples -/

def sampleStall : List ConnEvent := (sampleSend 104).take 4 ++ [.segment 3 (fromPeer 7001 101 .ack 0 [])]

def sampleAnswers (n : Nat) : List ConnEvent :=
  (List.range n).flatMap fun i =>
    [.tick (fromSecs (100 * (i + 1))) (fromSecs (100 * (i + 1))), .segment 5 (fromPeer 7001 101 .ack 0 [])]

theorem survives_sample : ∃ t, (connRun {} sampleOpen sampleStall).1 = .live t ∧
    Survives (run (connStep {}) (.live t) (sampleAnswers 3)).1 := by
  refine ⟨_, rfl, ?_⟩
  exact (survives_iff {} sampleOpen sampleStall (sampleAnswers 3) _ rfl (Or.inl rfl) (by decide +kernel)).2
    (by decide +kernel)

/-- The sixteenth expiry of the timer aborts the connection, although the peer has answered every retransmission. -/
theorem retries_run_out : ∃ t, (connRun {} sampleOpen sampleStall).1 = .live t ∧ t.state = .established ∧
    Along ZeroWindow (connStep {}) (.live t) (sampleAnswers 16) ∧
    ¬Survives (run (connStep {}) (.live t) (sampleAnswers 16)).1 :=
  ⟨_, rfl, rfl, by decide +kernel, by decide +kernel⟩

end DpdkStdlib.Tcp
