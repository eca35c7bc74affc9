import DpdkStdlib.Tcp.Control
import DpdkStdlib.Tcp.Projection
import DpdkStdlib.Tcp.Sender
import DpdkStdlib.Tcp.Window

/-!
# Flow and congestion limits of the transmit drain

The loop of the drain cuts segments no longer than the smaller MSS and stops at the effective window, the smaller of
the congestion window and the peer's.  The FIN that waits for the data is then sent without a look at the window,
although it takes a sequence number like a byte.
-/

namespace DpdkStdlib.Tcp
open DpdkStdlib.Lib

variable {t : Tcb} {now : Instant}

/-- What may be in flight: the smaller of the two windows. -/
def Tcb.sendLimit (t : Tcb) : Nat := t.congestion.effectiveWindow t.sndWnd

/-- Bytes that no segment has carried, in `send_buf` and `tx_ring` together, by the engine's account. -/
def Tcb.waiting (t : Tcb) : Nat := t.sendBuf.length + t.handle.txRing.availableRead - t.alreadySentOffset

/-- The drain sends all of `waiting` bytes: the window and Nagle's algorithm allow it. -/
def Tcb.SendsAll (t : Tcb) (waiting : Nat) : Prop :=
  waiting = 0 ∨ (0 < t.effectiveMss.toNat ∧ t.flightSize + waiting ≤ t.sendLimit ∧
    (t.nodelay = true ∨ t.effectiveMss.toNat ∣ waiting ∨
      (waiting < t.effectiveMss.toNat ∧ t.hasUnackedData = false)))
deriving Decidable

/-! ## The loop -/

/-- What the loop has done from `t` to `r.1`, with the segments `r.2`. -/
structure LoopDone (t : Tcb) (r : Tcb × List Emitted) : Prop where
  /-- Every byte sent takes a sequence number. -/
  moved : r.1.flightSize + r.1.unsent = t.flightSize + t.unsent
  all : r.1.unsent = 0 ↔ t.SendsAll t.unsent
  within : r.2 ≠ [] → r.1.flightSize ≤ t.sendLimit
  closed : t.sendLimit ≤ t.flightSize → r.2 = []
  segments : ∀ f ∈ r.2, f.site = .data ∧ f.params.payload.length ≤ t.effectiveMss.toNat

theorem unsent_sendSegment (now : Instant) (n : Nat) (t : Tcb) : (sendSegment now n t).1.unsent = t.unsent - n := by
  have hoffset : (sendSegment now n t).1.alreadySentOffset = t.alreadySentOffset + n := by
    simp [sendSegment, Tcb.alreadySentOffset]
  unfold Tcb.unsent
  rw [hoffset, Nat.sub_add_eq]
  rfl

theorem flightSize_sendSegment (now : Instant) {n : Nat} (h : t.flightSize + n < 2 ^ 32) :
    (sendSegment now n t).1.flightSize = t.flightSize + n := by
  change (t.sndNxt.add n).diff t.sndUna = t.sndNxt.diff t.sndUna + n
  conv_lhs => rw [← SeqNum.add_diff t.sndNxt t.sndUna, SeqNum.add_add]
  exact SeqNum.diff_add_self _ h

theorem sendsAll_of_stop (h : nextSegmentLen t = 0) : t.SendsAll t.unsent ↔ t.unsent = 0 := by
  refine ⟨?_, Or.inl⟩
  rintro (hzero | ⟨hmss, hfits, hnagle⟩)
  · exact hzero
  by_contra hpos
  have hbuf : t.sendBuf.isEmpty = false := by
    cases hb : t.sendBuf with
    | nil => rw [Tcb.unsent, hb] at hpos; simp at hpos
    | cons => rfl
  have hroom : t.unsent ≤ t.availableSendWindow := by
    unfold Tcb.availableSendWindow
    unfold Tcb.sendLimit at hfits
    omega
  have hsend : t.nagleShouldSend t.unsent = true := by
    unfold Tcb.nagleShouldSend
    rcases hnagle with hnodelay | hdvd | ⟨-, hidle⟩
    · rw [hnodelay]; rfl
    · have hle := Nat.le_of_dvd (Nat.pos_of_ne_zero hpos) hdvd
      simp [hle]
    · rw [hidle]; simp
  unfold nextSegmentLen at h
  simp only [hbuf, hsend, hpos, Bool.false_eq_true, or_false, Bool.not_true, if_false] at h
  split_ifs at h <;> omega

theorem nextSegmentLen_eq (h : nextSegmentLen t ≠ 0) :
    nextSegmentLen t = min (min t.unsent t.effectiveMss.toNat) (t.sendLimit - t.flightSize) ∧
      (t.nodelay = true ∨ t.hasUnackedData = false ∨ t.effectiveMss.toNat ≤ t.unsent) := by
  have hlen : nextSegmentLen t = min (min t.unsent t.effectiveMss.toNat) (t.sendLimit - t.flightSize) ∧
      t.nagleShouldSend t.unsent = true := by
    unfold nextSegmentLen at h ⊢
    dsimp only at h ⊢
    split_ifs at h ⊢ with h1 h2 h3
    · exact absurd rfl h
    · exact absurd rfl h
    · exact absurd rfl h
    · exact ⟨rfl, by simpa using h3⟩
  exact ⟨hlen.1, by simpa [Tcb.nagleShouldSend, or_assoc] using hlen.2⟩

theorem sendsAll_step (now : Instant) (hn : nextSegmentLen t ≠ 0) (hlimit : t.sendLimit < 2 ^ 32) :
    (sendSegment now (nextSegmentLen t) t).1.SendsAll (t.unsent - nextSegmentLen t) ↔ t.SendsAll t.unsent := by
  obtain ⟨hle, hwin⟩ := nextSegmentLen_le hn
  have hwin' : t.flightSize + nextSegmentLen t ≤ t.sendLimit := hwin
  have hflight := flightSize_sendSegment now (n := nextSegmentLen t) (t := t) (by omega)
  obtain ⟨hlen, hsend⟩ := nextSegmentLen_eq hn
  have hmss : (sendSegment now (nextSegmentLen t) t).1.effectiveMss = t.effectiveMss := rfl
  have hlim : (sendSegment now (nextSegmentLen t) t).1.sendLimit = t.sendLimit := rfl
  have hnodelay : (sendSegment now (nextSegmentLen t) t).1.nodelay = t.nodelay := rfl
  have hunacked : (sendSegment now (nextSegmentLen t) t).1.hasUnackedData = true := rfl
  unfold Tcb.SendsAll
  rw [hflight, hmss, hlim, hnodelay, hunacked]
  generalize t.effectiveMss.toNat = mss at *
  generalize nextSegmentLen t = n at *
  by_cases hlong : t.sendLimit < t.flightSize + t.unsent
  · -- the window ends before the data
    refine iff_of_false ?_ ?_
    · rintro (h | ⟨-, h, -⟩) <;> omega
    · rintro (h | ⟨-, h, -⟩) <;> omega
  by_cases hlast : t.unsent ≤ mss
  · -- the last segment
    refine iff_of_true (.inl (by omega)) (.inr ⟨by omega, by omega, ?_⟩)
    rcases hsend with h | h | h
    · exact .inl h
    · rcases Nat.lt_or_ge t.unsent mss with hlt | hge
      · exact .inr (.inr ⟨hlt, h⟩)
      · exact .inr (.inl (by rw [show t.unsent = mss by omega]))
    · exact .inr (.inl (by rw [show t.unsent = mss by omega]))
  · -- a full segment, and what is left behind it
    have hfull : n = mss := by omega
    subst hfull
    have hdvd : n ∣ t.unsent - n ↔ n ∣ t.unsent := by
      rw [Nat.dvd_sub_iff_left (by omega) (Nat.dvd_refl n)]
    rw [hdvd]
    constructor
    · rintro (h | ⟨h1, h2, h | h | ⟨-, h⟩⟩)
      · omega
      · exact .inr ⟨by omega, by omega, .inl h⟩
      · exact .inr ⟨by omega, by omega, .inr (.inl h)⟩
      · cases h
    · rintro (h | ⟨h1, h2, h | h | ⟨h, -⟩⟩)
      · omega
      · exact .inr ⟨by omega, by omega, .inl h⟩
      · exact .inr ⟨by omega, by omega, .inr (.inl h)⟩
      · omega

theorem segmentLoop_of_nil {fuel : Nat} (h : (segmentLoop now fuel t).2 = []) : (segmentLoop now fuel t).1 = t := by
  cases fuel with
  | zero => rfl
  | succ fuel =>
    rw [segmentLoop] at h ⊢
    split_ifs at h ⊢
    rfl

theorem length_payload_sendSegment (now : Instant) (n : Nat) (t : Tcb) :
    (sendSegment now n t).2.params.payload.length ≤ n := List.length_take_le _ _

theorem nextSegmentLen_le_mss (t : Tcb) : nextSegmentLen t ≤ t.effectiveMss.toNat := by
  unfold nextSegmentLen
  dsimp only
  split_ifs <;> omega

/-- **The loop.** What it does from any TCB, with as many turns as bytes wait. -/
theorem loopDone_segmentLoop (now : Instant) (fuel : Nat) : ∀ t : Tcb, t.sendLimit < 2 ^ 32 → t.unsent ≤ fuel →
    LoopDone t (segmentLoop now fuel t) := by
  have hstop (t : Tcb) (h : t.SendsAll t.unsent ↔ t.unsent = 0) : LoopDone t (t, []) :=
    ⟨rfl, h.symm, fun hne => absurd rfl hne, fun _ => rfl, fun f hf => by cases hf⟩
  induction fuel with
  | zero =>
    intro t _ hfuel
    have hzero : t.unsent = 0 := Nat.le_zero.1 hfuel
    exact hstop t (iff_of_true (.inl hzero) hzero)
  | succ fuel ih =>
    intro t hlimit hfuel
    rw [segmentLoop]
    split_ifs with hn
    · exact hstop t (sendsAll_of_stop hn)
    obtain ⟨hle, hwin⟩ := nextSegmentLen_le hn
    have hwin' : t.flightSize + nextSegmentLen t ≤ t.sendLimit := hwin
    have hflight := flightSize_sendSegment now (n := nextSegmentLen t) (t := t) (by omega)
    have hunsent := unsent_sendSegment now (nextSegmentLen t) t
    have hrest := ih (sendSegment now (nextSegmentLen t) t).1 hlimit (by omega)
    refine ⟨?_, ?_, fun _ => ?_, fun hclosed => absurd hclosed (by omega), fun f hf => ?_⟩
    · exact hrest.moved.trans (by omega)
    · rw [hrest.all, hunsent]
      exact sendsAll_step now hn hlimit
    · -- after the last segment the flight is what this turn left
      by_cases hmore : (segmentLoop now fuel (sendSegment now (nextSegmentLen t) t).1).2 = []
      · rw [segmentLoop_of_nil hmore, hflight]
        exact hwin'
      · exact hrest.within hmore
    · rcases List.mem_cons.1 hf with rfl | hf
      · exact ⟨rfl, (length_payload_sendSegment now _ t).trans (nextSegmentLen_le_mss t)⟩
      · exact hrest.segments f hf

/-! ## The drain -/

/-- The tick gets as far as the drain: no timer that it services first is due. -/
def Tcb.Drains (now : Instant) (t : Tcb) : Prop :=
  (t.state = .established ∨ t.state = .closeWait) ∧ rtoDue now t = false ∧ persistDue now t = false ∧
    ∀ ka ∈ t.keepalive, due now t.keepaliveDeadline = false
deriving Decidable

/-- A pending FIN follows the last byte that waits, and its sequence number is beyond the window. -/
def Tcb.FinOverruns (now : Instant) (t : Tcb) : Prop :=
  t.Drains now ∧ t.finPending = true ∧ t.SendsAll t.waiting ∧ t.sendLimit ≤ t.flightSize + t.waiting ∧
    t.sendLimit < 2 ^ 32 - 1
deriving Decidable

/-- The frame is a segment of the drain: fresh data or a FIN. -/
def Emitted.IsNew (f : Emitted) : Prop := f.site = .data ∨ f.site = .fin

theorem unsent_drainTxRing (t : Tcb) : (drainTxRing t).unsent = t.waiting := by
  obtain ⟨-, -, -, hbuf⟩ := t.handle.txRing.drain_eq t.sendBuf
  have hlen := congrArg List.length hbuf
  rw [List.length_append, SpscByteRing.length_unread] at hlen
  change (t.handle.txRing.drain t.sendBuf).2.length - t.alreadySentOffset = _
  rw [hlen, Tcb.waiting]

theorem loopDone_txSend (now : Instant) (hlimit : t.sendLimit < 2 ^ 32) : LoopDone (drainTxRing t) (txSend now t) :=
  loopDone_segmentLoop now _ (drainTxRing t) hlimit (Nat.sub_le _ _)

theorem counts_armTimers (now : Instant) (u : Tcb) :
    (armTimers now u).flightSize = u.flightSize ∧ (armTimers now u).unsent = u.unsent := by
  obtain ⟨_, _, _, harm⟩ := armTimers_frame now u
  rw [harm]
  exact ⟨rfl, rfl⟩

theorem flushFin_txSend (now clock : Instant) (hlimit : t.sendLimit < 2 ^ 32) :
    flushFin clock (armTimers now (txSend now t).1) =
      if t.finPending = true ∧ t.SendsAll t.waiting then sendFin clock (armTimers now (txSend now t).1)
      else (armTimers now (txSend now t).1, []) := by
  obtain ⟨_, _, _, _, hsend⟩ := txSend_frame now t
  obtain ⟨_, _, _, harm⟩ := armTimers_frame now (txSend now t).1
  have hall := (loopDone_txSend now hlimit).all
  rw [unsent_drainTxRing] at hall
  have hunsent := (counts_armTimers now (txSend now t).1).2
  have hread : (armTimers now (txSend now t).1).handle.txRing.availableRead = 0 := by
    rw [harm, hsend]
    exact t.handle.txRing.availableRead_drain t.sendBuf
  have hpending : (armTimers now (txSend now t).1).finPending = t.finPending := by rw [harm, hsend]; rfl
  have hsame : (drainTxRing t).SendsAll t.waiting ↔ t.SendsAll t.waiting := Iff.rfl
  unfold flushFin
  simp only [hunsent, hread, hpending, hall, hsame, and_true]

theorem flightSize_finSent (clock : Instant) (state : TcpState) (t : Tcb) :
    (finSent clock state t).flightSize = (t.flightSize + 1) % 2 ^ 32 := by
  have hmod (s : SeqNum) (n : Nat) : (s.add n).diff s = n % 2 ^ 32 := by
    simp only [SeqNum.add, SeqNum.diff]
    rw [BitVec.add_comm, BitVec.add_sub_cancel, BitVec.toNat_ofNat]
  change (t.sndNxt.add 1).diff t.sndUna = (t.sndNxt.diff t.sndUna + 1) % 2 ^ 32
  conv_lhs => rw [← SeqNum.add_diff t.sndNxt t.sndUna, SeqNum.add_add]
  exact hmod _ _

theorem sendFin_spec (clock : Instant) (hst : t.state = .established ∨ t.state = .closeWait) :
    (sendFin clock t).1.flightSize = (t.flightSize + 1) % 2 ^ 32 ∧ (sendFin clock t).1.sendLimit = t.sendLimit ∧
      ∃ f, (sendFin clock t).2 = [f] ∧ f.site = .fin := by
  unfold sendFin
  rcases hst with hst | hst <;> rw [hst] <;> exact ⟨flightSize_finSent .., rfl, _, rfl, rfl⟩

/-- What the drain leaves in flight and sends: the loop, and the FIN. -/
structure DrainDone (t : Tcb) (r : Tcb × List Emitted) : Prop where
  limit : r.1.sendLimit = t.sendLimit
  fin : t.finPending = true → t.SendsAll t.waiting →
    r.1.flightSize = (t.flightSize + t.waiting + 1) % 2 ^ 32 ∧ ∃ f ∈ r.2, f.IsNew
  noFin : ¬(t.finPending = true ∧ t.SendsAll t.waiting) →
    (r.2 ≠ [] → r.1.flightSize ≤ t.sendLimit) ∧ (t.sendLimit ≤ t.flightSize → r.2 = [])
  segments : ∀ f ∈ r.2, f.site = .data → f.params.payload.length ≤ t.effectiveMss.toNat

theorem drainDone_txDrain (now clock : Instant) (hst : t.state = .established ∨ t.state = .closeWait)
    (hlimit : t.sendLimit < 2 ^ 32) : DrainDone t (txDrain now clock t) := by
  have hflush := flushFin_txSend now clock hlimit
  obtain ⟨hmoved, hall, hwithin, hclosed, hsegments⟩ := loopDone_txSend now hlimit
  rw [unsent_drainTxRing] at hmoved hall
  change _ = t.flightSize + t.waiting at hmoved
  change _ ↔ t.SendsAll t.waiting at hall
  change _ → _ ≤ t.sendLimit at hwithin
  change t.sendLimit ≤ t.flightSize → _ at hclosed
  change ∀ f ∈ _, _ ∧ _ ≤ t.effectiveMss.toNat at hsegments
  have hu : (armTimers now (txSend now t).1).flightSize = (txSend now t).1.flightSize ∧
      (armTimers now (txSend now t).1).sendLimit = t.sendLimit ∧
      (armTimers now (txSend now t).1).state = t.state := by
    obtain ⟨_, _, _, _, hsend⟩ := txSend_frame now t
    obtain ⟨_, _, _, harm⟩ := armTimers_frame now (txSend now t).1
    exact ⟨(counts_armTimers now _).1, by rw [harm, hsend]; rfl, by rw [harm, hsend]; rfl⟩
  obtain ⟨hflight, hlim, hstate⟩ := hu
  rw [txDrain, hflush]
  generalize armTimers now (txSend now t).1 = u at *
  generalize txSend now t = loop at *
  obtain ⟨hfinFlight, hfinLimit, fin, hfin, hsite⟩ := sendFin_spec clock (by rw [hstate]; exact hst)
  refine ⟨?_, fun hpending hsends => ?_, fun hno => ?_, fun f hf hdata => ?_⟩
  · split_ifs
    · exact hfinLimit.trans hlim
    · exact hlim
  · have hzero := hall.2 hsends
    rw [if_pos ⟨hpending, hsends⟩, hfin, hfinFlight, hflight]
    refine ⟨?_, fin, List.mem_append_right _ List.mem_cons_self, .inr hsite⟩
    rw [← hmoved, hzero, Nat.add_zero]
  · rw [if_neg hno, List.append_nil, hflight]
    exact ⟨hwithin, hclosed⟩
  · rcases List.mem_append.1 hf with hf | hf
    · exact (hsegments f hf).2
    · split_ifs at hf
      · rw [site_sendFin hf] at hdata
        cases hdata
      · cases hf

/-! ## Ticks -/

theorem onTickTcb_of_drains (cfg : EngineConfig) (clock : Instant) (h : t.Drains now) :
    onTickTcb cfg now clock t = .keep ((txDrain now clock (tickDelayedAck now t).1).1,
      (tickDelayedAck now t).2 ++ (txDrain now clock (tickDelayedAck now t).1).2) := by
  obtain ⟨hst, hrto, hpersist, hkeep⟩ := h
  have hexp : expired now t = false := by
    unfold expired
    rcases hst with hst | hst <;> rw [hst] <;> rfl
  have hst' : (tickDelayedAck now t).1.state = .established ∨ (tickDelayedAck now t).1.state = .closeWait := by
    rwa [state_tickDelayedAck]
  rw [onTickTcb, hexp, if_neg (by decide), tickTcb, hrto, if_neg (by decide), hpersist, if_neg (by decide)]
  cases hka : t.keepalive with
  | none =>
    dsimp only
    rw [if_pos hst']
  | some ka =>
    rw [hkeep ka hka]
    dsimp only
    rw [if_pos hst']

theorem not_isNew_of_not_drains {cfg : EngineConfig} {clock : Instant} (h : ¬t.Drains now) {f : Emitted}
    (hf : f ∈ (onTickTcb cfg now clock t).out) : ¬f.IsNew := by
  have hother (site : Site) (hsite : f.site = site) (hd : site ≠ .data) (hn : site ≠ .fin) : ¬f.IsNew := by
    rintro (h | h)
    · exact hd (hsite.symm.trans h)
    · exact hn (hsite.symm.trans h)
  unfold onTickTcb at hf
  split_ifs at hf
  · cases hf
  unfold tickTcb at hf
  split_ifs at hf with hrto hpersist
  · unfold tickRto at hf
    split_ifs at hf
    · cases hf
    · exact hother _ (site_retransmitFrames hf) (by decide) (by decide)
  · exact hother .probe (by rw [List.mem_singleton.1 hf]) (by decide) (by decide)
  · split at hf
    · unfold tickKeepalive at hf
      split_ifs at hf
      · cases hf
      · exact hother .keepalive (by rw [List.mem_singleton.1 hf]) (by decide) (by decide)
    · rename_i hkeep
      dsimp only at hf
      split_ifs at hf with hst
      · refine absurd ⟨state_tickDelayedAck now t ▸ hst, by simpa using hrto, by simpa using hpersist, fun ka hka => ?_⟩ h
        by_contra hdue
        exact hkeep ka hka (by simpa using hdue)
      · exact hother _ (site_tickDelayedAck hf) (by decide) (by decide)

/-- What is new in a tick is what its drain sends. -/
theorem drainDone_onTickTcb (cfg : EngineConfig) (clock : Instant) (h : t.Drains now) (hlimit : t.sendLimit < 2 ^ 32) :
    ∃ r, DrainDone t r ∧ (onTickTcb cfg now clock t).outcome = .live r.1 ∧
      ∀ f, f.IsNew → (f ∈ (onTickTcb cfg now clock t).out ↔ f ∈ r.2) := by
  have hdone : DrainDone (tickDelayedAck now t).1 (txDrain now clock (tickDelayedAck now t).1) := by
    refine drainDone_txDrain now clock (by rw [state_tickDelayedAck]; exact h.1) ?_
    obtain ⟨_, _, hsame⟩ := tickDelayedAck_frame now t
    rw [hsame]
    exact hlimit
  have heff := onTickTcb_of_drains cfg clock h
  generalize txDrain now clock (tickDelayedAck now t).1 = r at hdone heff
  refine ⟨r, ?_, congrArg Effect.outcome heff, fun f hnew => ?_⟩
  · obtain ⟨_, _, hsame⟩ := tickDelayedAck_frame now t
    rw [hsame] at hdone
    exact ⟨hdone.limit, hdone.fin, hdone.noFin, hdone.segments⟩
  · rw [heff]
    refine List.mem_append.trans (or_iff_right fun hf => ?_)
    rcases hnew with hsite | hsite <;> rw [site_tickDelayedAck hf] at hsite <;> cases hsite

/-- What is new in the effect stays within the window, and nothing is new when the flight is beyond it. -/
structure Effect.WithinLimit (t : Tcb) (eff : Effect) : Prop where
  within : (∃ f ∈ eff.out, f.IsNew) → ∃ t', eff.outcome = .live t' ∧ t'.flightSize ≤ t'.sendLimit
  stopped : t.sendLimit < t.flightSize → ∀ f ∈ eff.out, ¬f.IsNew

theorem withinLimit_iff_of_new {t' : Tcb} {eff : Effect} (hout : eff.outcome = .live t')
    (hlimit : t'.sendLimit = t.sendLimit) (hnew : ∃ f ∈ eff.out, f.IsNew) :
    eff.WithinLimit t ↔ t'.flightSize ≤ t.sendLimit ∧ t.flightSize ≤ t.sendLimit := by
  constructor
  · intro h
    obtain ⟨u, hu, hle⟩ := h.within hnew
    obtain rfl : u = t' := Outcome.live.inj (hu.symm.trans hout)
    obtain ⟨f, hf, hfnew⟩ := hnew
    exact ⟨hlimit ▸ hle, Nat.le_of_not_lt fun hlt => h.stopped hlt f hf hfnew⟩
  · rintro ⟨hle, hopen⟩
    exact ⟨fun _ => ⟨t', hout, hlimit.symm ▸ hle⟩, fun hlt => absurd hopen (Nat.not_le.2 hlt)⟩

/-- **Ticks of a connection.** A tick keeps the limit exactly if no pending FIN overruns the window. -/
theorem tick_limits_iff (cfg : EngineConfig) (now clock : Instant) (hlimit : t.sendLimit < 2 ^ 32) :
    (onTickTcb cfg now clock t).WithinLimit t ↔ ¬t.FinOverruns now := by
  by_cases hdrains : t.Drains now
  swap
  · refine iff_of_true ⟨?_, fun _ f hf => not_isNew_of_not_drains hdrains hf⟩ fun h => hdrains h.1
    rintro ⟨f, hf, hnew⟩
    exact absurd hnew (not_isNew_of_not_drains hdrains hf)
  obtain ⟨r, hdone, hout, hmem⟩ := drainDone_onTickTcb cfg clock hdrains hlimit
  have hflight : t.flightSize < 2 ^ 32 := SeqNum.diff_lt _ _
  by_cases hfin : t.finPending = true ∧ t.SendsAll t.waiting
  · -- the FIN goes out: the flight is known
    obtain ⟨hafter, f, hf, hnew⟩ := hdone.fin hfin.1 hfin.2
    have hroom : t.waiting = 0 ∨ t.flightSize + t.waiting ≤ t.sendLimit := hfin.2.imp_right fun h => h.2.1
    have hoverruns : t.FinOverruns now ↔ t.sendLimit ≤ t.flightSize + t.waiting ∧ t.sendLimit < 2 ^ 32 - 1 :=
      ⟨fun h => h.2.2.2, fun h => ⟨hdrains, hfin.1, hfin.2, h⟩⟩
    rw [withinLimit_iff_of_new hout hdone.limit ⟨f, (hmem f hnew).2 hf, hnew⟩, hafter, hoverruns]
    omega
  · -- the loop alone
    obtain ⟨hwithin, hclosed⟩ := hdone.noFin hfin
    refine iff_of_true ⟨?_, fun hlt f hf hnew => ?_⟩ fun h => hfin ⟨h.2.1, h.2.2.1⟩
    · rintro ⟨f, hf, hnew⟩
      refine ⟨r.1, hout, ?_⟩
      rw [hdone.limit]
      exact hwithin (List.ne_nil_of_mem ((hmem f hnew).1 hf))
    · have hf' := (hmem f hnew).1 hf
      rw [hclosed (Nat.le_of_lt hlt)] at hf'
      cases hf'

/-! ## The engine -/

theorem sndWnd_lt_call {cfg : EngineConfig} {ev : ConnEvent} {t' : Tcb} (h : (callTcb cfg ev t).outcome = .live t')
    (hlt : t.sndWnd < 2 ^ 32) : t'.sndWnd < 2 ^ 32 := by
  have hshl (x : Nat) (s : UInt8) : shl32 x s < 2 ^ 32 := Nat.mod_lt _ (by decide)
  have hsame : (t'.sndWnd < 2 ^ 32) = (t.sndWnd < 2 ^ 32) := by
    refine field_call h (fun t => t.sndWnd < 2 ^ 32) (fun _ _ => rfl) (fun _ _ => rfl)
      (fun _ seg _ _ => propext (iff_of_true (hshl _ _) hlt)) (fun clock seg _ _ _ => propext (iff_of_true ?_ hlt))
      fun option _ => field_handleSetOption option t (fun t => t.sndWnd < 2 ^ 32) fun _ _ => rfl
    have hwnd := congrArg SendWindow.wnd (sendWindow_handleEstablished clock seg t)
    change (handleEstablished clock seg t).1.sndWnd = _ at hwnd
    rw [hwnd]
    by_cases hack : seg.flags.contains .ack = true
    · rw [sendWindow_establishedAck seg t hack]
      split_ifs
      · exact hshl _ _
      · exact hlt
    · rw [establishedAck, if_neg hack]
      exact hlt
  exact hsame ▸ hlt

theorem sendLimit_lt (isnGen : IsnGenerator) (cfg : EngineConfig) (evs : List EngineEvent) {key : FourTuple}
    (ht : (engineRun (.new isnGen cfg) evs).tcbs.get? key = some t) : t.sendLimit < 2 ^ 32 := by
  refine (t.congestion.effectiveWindow_le t.sndWnd).trans_lt (reachable_invariant ht (P := fun t => t.sndWnd < 2 ^ 32)
    (fun t ev t' hlt hcall => sndWnd_lt_call hcall hlt) fun o => ?_)
  cases o with
  | active => exact Nat.two_pow_pos 32
  | passive => exact Nat.mod_lt _ (Nat.two_pow_pos 32)

/-- The frame goes from the local to the remote end of the connection. -/
def Emitted.OfKey (f : Emitted) (key : FourTuple) : Prop :=
  f.params.src = key.localAddr ∧ f.params.dst = key.remoteAddr

/-- After a tick that sends anything new the flight is within both windows. -/
structure KeepsLimits (key : FourTuple) (t : Tcb) (r : CallResult) : Prop where
  within : (∃ f ∈ r.out, f.OfKey key ∧ f.IsNew) →
    ∃ t', r.engine.tcbs.get? key = some t' ∧ t'.flightSize ≤ min t'.congestion.cwnd t'.sndWnd
  stopped : min t.congestion.cwnd t.sndWnd < t.flightSize → ∀ f ∈ r.out, f.OfKey key → ¬f.IsNew

/-- **Limits of transmission.** In every reachable engine, a tick sends no data segment longer than the smaller MSS of
its connection, and keeps the limits of a connection exactly if no pending FIN overruns them. -/
theorem transmission_limits (isnGen : IsnGenerator) (cfg : EngineConfig) (evs : List EngineEvent) (now clock : Instant) :
    (∀ f ∈ ((engineRun (.new isnGen cfg) evs).onTick now clock).out, f.site = .data →
      ∃ t, (engineRun (.new isnGen cfg) evs).tcbs.get? ⟨f.params.src, f.params.dst⟩ = some t ∧
        f.params.payload.length ≤ (min t.localMss t.peerMss).toNat) ∧
    ∀ key t, (engineRun (.new isnGen cfg) evs).tcbs.get? key = some t →
      (KeepsLimits key t ((engineRun (.new isnGen cfg) evs).onTick now clock) ↔ ¬t.FinOverruns now) := by
  have hkey (k : FourTuple) (u : Tcb) (hu : (engineRun (.new isnGen cfg) evs).tcbs.get? k = some u) : u.key = k :=
    (reachable_identity isnGen cfg evs hu).1
  have hlimit (k : FourTuple) (u : Tcb) (hu : (engineRun (.new isnGen cfg) evs).tcbs.get? k = some u) :
      u.sendLimit < 2 ^ 32 := sendLimit_lt isnGen cfg evs hu
  generalize engineRun (.new isnGen cfg) evs = e at hkey hlimit
  refine ⟨fun f hf hdata => ?_, fun key t ht => ?_⟩
  · obtain ⟨k, u, hu, hf⟩ := TcpEngine.mem_out_onTick hf
    obtain ⟨hsrc, hdst⟩ := addr_onTickTcb hf
    have hdrains : u.Drains now := by
      by_contra hno
      exact not_isNew_of_not_drains hno hf (.inl hdata)
    obtain ⟨r, hdone, -, hmem⟩ := drainDone_onTickTcb e.config clock hdrains (hlimit k u hu)
    refine ⟨u, ?_, hdone.segments f ((hmem f (.inl hdata)).1 hf) hdata⟩
    rw [hsrc, hdst, hkey k u hu]
    exact hu
  · have hview := TcpEngine.view_onTick now clock ht
    rw [← tick_limits_iff e.config now clock (hlimit key t ht)]
    have hof (f : Emitted) : f ∈ (e.onTick now clock).out ∧ f.OfKey key ↔ f ∈ (onTickTcb e.config now clock t).out := by
      refine ⟨fun h => mem_out_onTick_of_key hkey ht h.1 h.2.1 h.2.2, fun h => ?_⟩
      have haddr := addr_onTickTcb h
      rw [hkey key t ht] at haddr
      exact ⟨TcpEngine.mem_out_onTick_of_get? ht h, haddr⟩
    have hlive (t' : Tcb) : (e.onTick now clock).engine.tcbs.get? key = some t' ↔
        (onTickTcb e.config now clock t).outcome = .live t' := by
      rw [← TcpEngine.view_eq_live_iff, hview, Option.some.injEq]
    constructor
    · rintro ⟨hwithin, hstopped⟩
      refine ⟨?_, fun hlt f hf => hstopped hlt f ((hof f).2 hf).1 ((hof f).2 hf).2⟩
      rintro ⟨f, hf, hnew⟩
      obtain ⟨t', ht', hle⟩ := hwithin ⟨f, ((hof f).2 hf).1, ((hof f).2 hf).2, hnew⟩
      exact ⟨t', (hlive t').1 ht', hle⟩
    · rintro ⟨hwithin, hstopped⟩
      refine ⟨?_, fun hlt f hf hfkey => hstopped hlt f ((hof f).1 ⟨hf, hfkey⟩)⟩
      rintro ⟨f, hf, hfkey, hnew⟩
      obtain ⟨t', ht', hle⟩ := hwithin ⟨f, (hof f).1 ⟨hf, hfkey⟩, hnew⟩
      exact ⟨t', (hlive t').2 ht', hle⟩

/-- The sample connection with a peer whose window is three bytes; the application has written three and is done. -/
def finEngine : TcpEngine :=
  engineRun sampleBoot
    [.connect 0 sampleKey (Vector.replicate 6 1) (Vector.replicate 6 2) 65536 65536 0,
      .segment 1 (fromPeer 1000 101 (TcpFlags.syn.union .ack) 3 []) (Vector.replicate 6 2) (Vector.replicate 6 1),
      .write sampleKey [1, 2, 3], .shutdown 2 sampleKey .write]

/-- **A FIN beyond the window.** One tick sends the three bytes and the FIN: four sequence numbers are in flight, the
window is three. -/
theorem fin_beyond_window :
    (finEngine.onTick 3 3).out.map (fun f => (f.site, f.params.seq, f.params.payload)) =
      [(.data, ⟨101⟩, [1, 2, 3]), (.fin, ⟨104⟩, [])] ∧
    ∃ t', (finEngine.onTick 3 3).engine.tcbs.get? sampleKey = some t' ∧ t'.flightSize = 4 ∧
      min t'.congestion.cwnd t'.sndWnd = 3 :=
  ⟨by decide, _, rfl, by decide, by decide⟩

end DpdkStdlib.Tcp
