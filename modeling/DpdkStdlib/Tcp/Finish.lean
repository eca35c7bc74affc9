import DpdkStdlib.Tcp.Transmit

/-!
# The FIN comes after the data

A FIN is the last frame of its call, and the engine builds it when by its own account nothing is unsent and nothing is
left in `tx_ring`.  That account is `send_buf` against the last entry of the retransmit queue, so it is right exactly
where the fresh segments are cut from the right place.
-/

namespace DpdkStdlib.Tcp
open DpdkStdlib.Lib

variable {t : Tcb} {f : Emitted} {clock : Instant} {cfg : EngineConfig} {ev : ConnEvent}

/-! ## The call that emits a FIN -/

/-- The send side a FIN is built from: nothing is unsent, by the engine's account, and the ring is drained. -/
structure Finishing (s : Sender) : Prop where
  state : s.state = .established ∨ s.state = .closeWait
  unsent : s.unsent = 0
  drained : s.ring.tail = s.ring.stream.length

/-- The frames before the FIN, and the send side it is built from. -/
def EmitsFin (W : Nat) (A : Sender → Move → Prop) (time : Instant) (t : Tcb) (out : List Emitted) (f : Emitted) : Prop :=
  ∃ pre s, out = pre ++ [f] ∧ (∀ g ∈ pre, g.site ≠ .fin) ∧ Acts W A time t.sender pre s ∧ Finishing s ∧
    s.ring.stream = t.handle.txRing.stream ∧ f.params.seq = s.nxt

section call
variable {W : Nat} {A : Sender → Move → Prop} {time : Instant}

theorem sendFin_of_mem (hf : f ∈ (sendFin clock t).2) : (sendFin clock t).2 = [f] ∧ f.params.seq = t.sndNxt := by
  unfold sendFin at hf ⊢
  dsimp only at hf ⊢
  split at hf
  · obtain rfl := List.mem_singleton.1 hf
    exact ⟨rfl, rfl⟩
  · obtain rfl := List.mem_singleton.1 hf
    exact ⟨rfl, rfl⟩
  · cases hf

theorem flushFin_of_mem (hf : f ∈ (flushFin clock t).2) :
    (flushFin clock t).2 = [f] ∧ t.sender.unsent = 0 ∧ f.params.seq = t.sender.nxt := by
  unfold flushFin at hf ⊢
  split_ifs at hf ⊢ with hflush
  · obtain ⟨hout, hseq⟩ := sendFin_of_mem hf
    exact ⟨hout, hflush.2.1, hseq⟩
  · cases hf

theorem drained_drainTxRing (t : Tcb) : (drainTxRing t).handle.txRing.stream = t.handle.txRing.stream ∧
    (drainTxRing t).handle.txRing.tail = (drainTxRing t).handle.txRing.stream.length := by
  obtain ⟨hstream, -, htail, -⟩ := t.handle.txRing.drain_eq t.sendBuf
  refine ⟨hstream, ?_⟩
  change (t.handle.txRing.drain t.sendBuf).1.tail = (t.handle.txRing.drain t.sendBuf).1.stream.length
  rw [htail, hstream]

theorem emitsFin_handleShutdown {how : Shutdown} (hf : f ∈ (handleShutdown clock how t).2) :
    EmitsFin W A time t (handleShutdown clock how t).2 f := by
  generalize h : handleShutdown clock how t = r at hf ⊢
  cases handleShutdown_cases h with
  | ignored | eof | waits => cases hf
  | sends hst hunsent =>
    obtain ⟨hout, hseq⟩ := sendFin_of_mem hf
    obtain ⟨hstream, htail⟩ := drained_drainTxRing { t with finPending := true }
    exact ⟨[], (shutdownDrained t).sender, hout, fun g hg => absurd hg List.not_mem_nil,
      acts_fill { t with finPending := true } hst, ⟨hst, hunsent, htail⟩, hstream, hseq⟩

theorem handle_txSend (now : Instant) (t : Tcb) : (txSend now t).1.handle = (drainTxRing t).handle := by
  obtain ⟨_, _, _, _, hsend⟩ := txSend_frame now t
  rw [hsend]

/-- The state in which the drain sends a FIN. -/
theorem emitsFin_txDrain {now : Instant} (hst : t.state = .established ∨ t.state = .closeWait)
    (hW : t.congestion.effectiveWindow t.sndWnd ≤ W) (hf : f ∈ (txDrain now clock t).2) (hsite : f.site = .fin) :
    EmitsFin W A now t (txDrain now clock t).2 f := by
  have hdata {g : Emitted} (hg : g ∈ (txSend now t).2) : g.site ≠ .fin := by
    rw [site_segmentLoop now _ hg]
    decide
  have hring := congrArg SpscByteRing.stream (congrArg ConnectionHandle.txRing (handle_txSend now t))
  have htail := congrArg SpscByteRing.tail (congrArg ConnectionHandle.txRing (handle_txSend now t))
  obtain ⟨hstream, hdrained⟩ := drained_drainTxRing t
  rcases List.mem_append.1 hf with hf | hf
  · exact absurd hsite (hdata hf)
  obtain ⟨hout, hunsent, hseq⟩ := flushFin_of_mem hf
  rw [sender_armTimers] at hunsent hseq
  refine ⟨(txSend now t).2, (txSend now t).1.sender, ?_, fun g => hdata, acts_txSend now t hst hW,
    ⟨?_, hunsent, htail.trans (hdrained.trans (congrArg List.length hring).symm)⟩, hring.trans hstream, hseq⟩
  · unfold txDrain
    rw [hout]
  · rw [show (txSend now t).1.sender.state = _ from state_txSend now t]
    exact hst

theorem emitsFin_onTickTcb {now : Instant} (hW : t.congestion.effectiveWindow t.sndWnd ≤ W)
    (hf : f ∈ (onTickTcb cfg now clock t).out) (hsite : f.site = .fin) :
    EmitsFin W A now t (onTickTcb cfg now clock t).out f := by
  have hother {site : Site} (h : f.site = site) (hne : site ≠ .fin) : False := hne (h.symm.trans hsite)
  have hdelayed {g : Emitted} (hg : g ∈ (tickDelayedAck now t).2) : g.site ≠ .fin := by
    rw [site_tickDelayedAck hg]
    decide
  generalize heff : onTickTcb cfg now clock t = eff at hf ⊢
  cases onTickTcb_cases heff with
  | expired | rtoAborted | keepaliveAborted => cases hf
  | retransmitted => exact (hother (site_retransmitFrames hf) (by decide)).elim
  | probed => exact (hother (congrArg Emitted.site (List.mem_singleton.1 hf)) (show Site.probe ≠ _ by decide)).elim
  | keepaliveProbed =>
    exact (hother (congrArg Emitted.site (List.mem_singleton.1 hf)) (show Site.keepalive ≠ _ by decide)).elim
  | quiet => exact absurd hsite (hdelayed hf)
  | drained hst =>
    obtain ⟨_, _, hack⟩ := tickDelayedAck_frame now t
    rcases List.mem_append.1 hf with hf | hf
    · exact absurd hsite (hdelayed hf)
    obtain ⟨pre, s, hout, hpre, hacts, hfin, hstream, hseq⟩ : EmitsFin W A now (tickDelayedAck now t).1 _ f :=
      emitsFin_txDrain (by rw [state_tickDelayedAck]; exact hst) (by rw [hack]; exact hW) hf hsite
    refine ⟨(tickDelayedAck now t).2 ++ pre, s, ?_, fun g hg => ?_, (acts_tickDelayedAck now t).trans hacts, hfin, ?_,
      hseq⟩
    · dsimp only [Effect.keep]
      rw [hout, List.append_assoc]
    · exact (List.mem_append.1 hg).elim hdelayed (hpre g)
    · rw [hstream, hack]

/-- **The FIN of a call** is its last frame, and built from a send side that the moves of the frames before it reach. -/
theorem fin_call (hW : ∀ now clock, ev = .tick now clock → t.congestion.effectiveWindow t.sndWnd ≤ W)
    (hf : f ∈ (callTcb cfg ev t).out) (hsite : f.site = .fin) : EmitsFin W A ev.time t (callTcb cfg ev t).out f := by
  cases ev with
  | write | read | setOption => cases hf
  | segment clock seg =>
    rcases site_segmentTcb hf with h | h | ⟨h, -⟩
    · rw [h] at hsite; cases hsite
    · rw [h] at hsite; cases hsite
    · rw [h] at hsite; cases hsite
  | tick now clock => exact emitsFin_onTickTcb (hW now clock rfl) hf hsite
  | shutdown clock how => exact emitsFin_handleShutdown hf
  | close clock linger =>
    dsimp only [callTcb, handleClose] at hf ⊢
    split_ifs at hf ⊢
    · rw [List.mem_singleton.1 hf] at hsite; cases hsite
    · exact emitsFin_handleShutdown hf

end call

/-! ## Runs -/

/-- The FIN stands after the bytes written, and segments that lie end to end have carried them all. -/
structure FinCovers (iss : SeqNum) (written : List UInt8) (tr : List Sent) (f : Emitted) : Prop where
  seq : f.params.seq = iss.add (1 + written.length)
  sent : Tiles (·.payload.length) (fun pos x => x.seq = iss.add (1 + pos)) 0 (fresh tr) written.length
  bytes : freshBytes tr = written

/-- Every FIN of the run covers what the application had written, with what was sent before it. -/
def FinFollows (cfg : EngineConfig) (o : Opening) (es : List ConnEvent) : Prop :=
  ∀ es₁ ev es₂ t pre f post, es = es₁ ++ ev :: es₂ → (connRun cfg o es₁).1 = .live t →
    (callTcb cfg ev t).out = pre ++ f :: post → f.params.flags.contains .fin = true →
    FinCovers (o.tcb cfg).iss t.handle.txRing.stream (transmissions cfg o es₁ ++ sentOf ev.time pre) f

theorem Ordered.finished {s : Sender} {tr : List Sent} {u : Nat} (h : Ordered s tr u) (hfin : Finishing s) :
    freshBytes tr = s.ring.stream := by
  obtain ⟨b, hplaced, -⟩ := h.placed hfin.state
  have hunsent := hfin.unsent
  have hle := hplaced.le
  have hlen := length_taken s
  rw [Sender.unsent, hplaced.sentOffset, hplaced.buf, List.length_drop] at hunsent
  have htaken : s.taken = s.ring.stream := by
    rw [Sender.taken, hfin.drained, List.take_length]
  have hall : (freshBytes tr).length = s.taken.length := by
    have := h.once.length_le
    omega
  rw [← htaken]
  exact h.once.eq_of_length hall

theorem site_of_fin (hf : f ∈ (callTcb cfg ev t).out) (hfin : f.params.flags.contains .fin = true) :
    f.site = .fin := by
  obtain ⟨seq, payload, hparams, -⟩ := builtFrom_call cfg ev t hf
  have hflags : f.params.flags = f.site.flags := congrArg TcpFrameParams.flags hparams
  rw [hflags] at hfin
  revert hfin
  cases f.site <;> decide

theorem finCovers_call {o : Opening} {es : List ConnEvent} (h : ConnAlong FreshSafe cfg o es)
    (hrun : (connRun cfg o es).1 = .live t) (hsafe : FreshSafe (.live t) ev) {pre post : List Emitted}
    (hout : (callTcb cfg ev t).out = pre ++ f :: post) (hfin : f.params.flags.contains .fin = true) :
    FinCovers (o.tcb cfg).iss t.handle.txRing.stream (transmissions cfg o es ++ sentOf ev.time pre) f := by
  have hmem : f ∈ (callTcb cfg ev t).out := by rw [hout]; simp
  have hW : ∀ now clock, ev = .tick now clock → t.congestion.effectiveWindow t.sndWnd ≤ 2 ^ 31 - 1 := by
    rintro now clock rfl
    exact Nat.le_pred_of_lt hsafe
  have hsite := site_of_fin hmem hfin
  obtain ⟨pre', s, hout', hpre', hacts, hfinishing, hstream, hseq⟩ := fin_call (A := AckInPlace) hW hmem hsite
  -- the FIN is the last frame, so there is one way to cut the list at it
  obtain rfl : pre' = pre := by
    rw [hout'] at hout
    rcases List.append_eq_append_iff.1 hout with ⟨l, hl, hr⟩ | ⟨l, hl, hr⟩
    · cases l with
      | nil => rw [hl, List.append_nil]
      | cons x l => simp at hr
    · cases l with
      | nil => rw [hl, List.append_nil]
      | cons x l =>
        obtain ⟨rfl, -⟩ := List.cons_eq_cons.1 hr
        exact absurd hsite (hpre' _ (by rw [hl]; simp))
  have hlive := ordered_run h
  rw [hrun] at hlive
  obtain ⟨hiss, hflying⟩ := InFlight.acts (by decide) ordered_opened Ordered.step hlive hacts
  rcases hflying with ⟨hearly, -⟩ | ⟨-, u, hflight, hord⟩
  · exact absurd hfinishing.state (s.state.not_early hearly).1
  · have hbytes := hord.finished hfinishing
    rw [hstream] at hbytes
    have hnxt := hflight.nxt
    have hsent := hflight.sent
    rw [ownFin_of_transmits hfinishing.state, Nat.add_zero] at hnxt
    rw [hbytes] at hnxt hsent
    refine ⟨?_, ?_, hbytes⟩
    · rw [hseq, hnxt, Sender.seqAt, hiss]
    · rw [← hiss]
      exact hsent

/-- **The FIN does not overtake data**, in every run whose acknowledgments leave `send_buf` in place. -/
theorem finFollows_of_safe (cfg : EngineConfig) (o : Opening) (es : List ConnEvent) (h : ConnAlong FreshSafe cfg o es) :
    FinFollows cfg o es := by
  rintro es₁ ev es₂ t pre f post rfl hrun hout hfin
  obtain ⟨hes, hev, -⟩ := (along_append _ es₁ (ev :: es₂)).1 h
  have hlive : (run (connStep cfg) (.live (o.tcb cfg)) es₁).1 = .live t := hrun
  rw [hlive] at hev
  exact finCovers_call hes hrun hev hout hfin

/-- Three bytes are sent and acknowledged up to `ack`; one more is written, and the application shuts its side down. -/
def sampleFinish (ack : BitVec 32) : List ConnEvent :=
  (sampleSend ack).take 5 ++ [.write [4], .shutdown 4 .write, .tick 5 5]

/-- The fourth byte goes out in the tick after the shutdown, and the FIN after it. -/
theorem finFollows_sample : FinFollows {} sampleOpen (sampleFinish 104) ∧
    freshBytes (transmissions {} sampleOpen (sampleFinish 104)) = [1, 2, 3, 4] ∧
    ((connRun {} sampleOpen (sampleFinish 104)).2.getLast?.map fun f => (f.site, f.params.seq)) =
      some (.fin, ⟨105⟩) :=
  ⟨finFollows_of_safe {} sampleOpen (sampleFinish 104) (by decide +kernel), by decide +kernel, by decide +kernel⟩

/-- With one of three bytes acknowledged, the FIN takes the sequence number of the fourth. -/
theorem fin_overtakes : ¬FinFollows {} sampleOpen (sampleFinish 102) := by
  intro h
  have hcovers := h ((sampleFinish 102).take 6) (.shutdown 4 .write) [.tick 5 5] _ [] _ [] rfl rfl rfl rfl
  exact absurd hcovers.seq (by decide +kernel)

end DpdkStdlib.Tcp
