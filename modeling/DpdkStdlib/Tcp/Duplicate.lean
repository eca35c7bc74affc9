import DpdkStdlib.Tcp.Limits

/-!
# Duplicate acknowledgments (`engine.rs`)

`congestion.rs` has the arithmetic of fast recovery, but the engine does not count duplicate ACKs and never calls it: an
ACK that acknowledges nothing new only moves the marks of the last window update.  So lost data waits for the RTO.
-/

namespace DpdkStdlib.Tcp
open DpdkStdlib.Lib

variable {t t' : Tcb} {now clock : Instant} {cfg : EngineConfig} {key : FourTuple}

/-- A duplicate ACK of the peer: nothing new acknowledged, no data, the same window. -/
def DuplicateAck (key : FourTuple) (t : Tcb) : EngineEvent → Prop
  | .segment _ seg _ _ => (seg.dst = key.localAddr ∧ seg.src = key.remoteAddr) ∧
      (seg.flags.contains .ack = true ∧ seg.flags.contains .syn = false ∧ seg.flags.contains .fin = false ∧
        seg.flags.contains .rst = false) ∧
      seg.ack = t.sndUna ∧ seg.payload = [] ∧ shl32 seg.window.toNat t.sndScale = t.sndWnd
  | _ => False

def engineFrames (e : TcpEngine) : List EngineEvent → List Emitted
  | [] => []
  | ev :: evs => (engineStep e ev).out ++ engineFrames (engineStep e ev).engine evs

/-- A frame of the events carries data at `snd_una` again. -/
def Resends (e : TcpEngine) (key : FourTuple) (t : Tcb) (evs : List EngineEvent) : Prop :=
  ∃ f ∈ engineFrames e evs, f.OfKey key ∧ f.params.seq = t.sndUna ∧ f.params.payload ≠ []

structure EntersRecovery (t t' : Tcb) : Prop where
  ssthresh : t'.congestion.ssthresh = max (t.flightSize / 2) (2 * t.effectiveMss.toNat)
  cwnd : t'.congestion.cwnd = t'.congestion.ssthresh + 3 * t.effectiveMss.toNat
  recovering : t'.congestion.inRecovery = true

/-! ## What drives the congestion state -/

/-- The congestion states an event can leave at a TCB. -/
inductive CongestionMove (t : Tcb) : CongestionState → Prop
  | same : CongestionMove t t.congestion
  | opened (mss : UInt16) : CongestionMove t (.new mss)
  | acked (bytes : Nat) : CongestionMove t (t.congestion.onAck bytes t.effectiveMss)
  | timedOut (flight : Nat) : CongestionMove t (t.congestion.onRto flight t.effectiveMss).backoffRto

theorem congestion_closingAck (seg : ParsedTcpSegment) (t : Tcb) : CongestionMove t (closingAck seg t).congestion := by
  unfold closingAck
  split_ifs
  · exact .acked (seg.ack.diff t.sndUna)
  · exact .same

theorem congestion_takeData (seg : ParsedTcpSegment) (t : Tcb) : (takeData seg t).congestion = t.congestion := by
  unfold takeData
  split_ifs <;> rfl

theorem congestion_handleEstablished (clock : Instant) (seg : ParsedTcpSegment) (t : Tcb) :
    CongestionMove t (handleEstablished clock seg t).1.congestion := by
  have hdata (u : Tcb) : (establishedData clock seg u).1.congestion = u.congestion := by
    unfold establishedData inOrder outOfOrder
    dsimp only
    split_ifs <;> rfl
  have hfin (r : Tcb × List Emitted) : (establishedFin seg r).1.congestion = r.1.congestion := by
    unfold establishedFin
    split_ifs <;> rfl
  rw [handleEstablished, hfin, hdata]
  have hwindow (u : Tcb) : (updateSendWindow seg u).congestion = u.congestion := by
    unfold updateSendWindow
    split_ifs <;> rfl
  unfold establishedAck
  split_ifs
  · rw [hwindow]
    exact .acked (seg.ack.diff t.sndUna)
  · rw [hwindow]
    exact .same
  · exact .same

theorem congestion_segmentTcb {seg : ParsedTcpSegment} (h : (segmentTcb clock seg t).outcome = .live t') :
    CongestionMove t t'.congestion := by
  have hfw1 : CongestionMove t (takeData seg (closingAck seg t)).congestion := by
    rw [congestion_takeData]
    exact congestion_closingAck seg t
  have hfw2 : CongestionMove t (takeData seg t).congestion := by
    rw [congestion_takeData]
    exact .same
  generalize heff : segmentTcb clock seg t = eff at h
  cases segmentTcb_cases heff with
  | refused | embryoReset | reset | lastAcked => cases h
  | ignored | challenged | accepted | closingAcked | finAgain => cases h; exact .same
  | synAcked => cases h; exact .opened _
  | established =>
    rw [Effect.live_keep h]
    exact congestion_handleEstablished clock seg t
  | finWait1Both | finWait1Acked | finWait1Fin | finWait1Open => cases h; exact hfw1
  | finWait2Fin | finWait2Data => cases h; exact hfw2
  | closeWait => cases h; exact congestion_closingAck seg t

theorem Deed.congestion {out : List Emitted} (h : Deed now clock t out t') : CongestionMove t t'.congestion := by
  cases h with
  | retransmit => exact .timedOut _
  | _ => exact .same

theorem CongestionMove.inRecovery {c : CongestionState} (h : CongestionMove t c)
    (hno : t.congestion.inRecovery = false) : c.inRecovery = false := by
  cases h with
  | same => exact hno
  | opened | timedOut => rfl
  | acked bytes =>
    unfold CongestionState.onAck
    dsimp only
    split_ifs <;> exact hno

/-- No call of the engine enters recovery. -/
theorem inRecovery_call {ev : ConnEvent} (h : (callTcb cfg ev t).outcome = .live t')
    (hno : t.congestion.inRecovery = false) : t'.congestion.inRecovery = false := by
  cases ev with
  | write | read => cases h; exact hno
  | segment => exact (congestion_segmentTcb h).inRecovery hno
  | tick | shutdown | close =>
    obtain ⟨_, _, hd⟩ := deeds_call rfl h
    exact hd.keeps (fun hdeed => hdeed.congestion.inRecovery) hno
  | setOption option =>
    cases h
    rw [field_handleSetOption option t Tcb.congestion fun _ _ => rfl]
    exact hno

theorem not_inRecovery (isnGen : IsnGenerator) (cfg : EngineConfig) (evs : List EngineEvent)
    (ht : (engineRun (.new isnGen cfg) evs).tcbs.get? key = some t) : t.congestion.inRecovery = false :=
  reachable_invariant ht (P := fun t => t.congestion.inRecovery = false) (fun _ _ _ hno hcall => inRecovery_call hcall hno)
    fun o => by cases o <;> rfl

/-! ## Duplicate ACKs -/

def Tcb.marked (t : Tcb) (wl1 wl2 : SeqNum) : Tcb := { t with sndWl1 := wl1, sndWl2 := wl2 }

theorem handleEstablished_duplicate (clock : Instant) {seg : ParsedTcpSegment} (hack : seg.ack = t.sndUna)
    (hfin : seg.flags.contains .fin = false) (hpayload : seg.payload = [])
    (hwnd : shl32 seg.window.toNat t.sndScale = t.sndWnd) :
    ∃ wl1 wl2, handleEstablished clock seg t = (t.marked wl1 wl2, []) := by
  have hold : ackAcceptable seg t = false := by
    have hgt : seg.ack.gt t.sndUna = false := by
      rw [hack, SeqNum.gt, ← Bool.not_eq_true, SeqNum.lt_iff, SeqNum.diff_self]
      omega
    rw [ackAcceptable, hgt, Bool.false_and]
  have hacked : ∃ wl1 wl2, establishedAck seg t = t.marked wl1 wl2 := by
    unfold establishedAck updateSendWindow
    simp only [hold, Bool.false_eq_true, if_false, hwnd]
    split_ifs
    · exact ⟨seg.seq, seg.ack, rfl⟩
    · exact ⟨t.sndWl1, t.sndWl2, rfl⟩
    · exact ⟨t.sndWl1, t.sndWl2, rfl⟩
  obtain ⟨wl1, wl2, hacked⟩ := hacked
  have hno (u : Tcb) : finInOrder seg u = false := by rw [finInOrder, hfin, Bool.false_and]
  refine ⟨wl1, wl2, ?_⟩
  rw [handleEstablished, hacked, establishedData, hpayload, establishedFin, hno]
  rfl

theorem engineStep_duplicate {e : TcpEngine} (ht : e.tcbs.get? key = some t) (hst : t.state = .established)
    {ev : EngineEvent} (hdup : DuplicateAck key t ev) :
    ∃ wl1 wl2, (engineStep e ev).engine.tcbs.get? key = some (t.marked wl1 wl2) ∧
      (engineStep e ev).out = [] := by
  cases ev with
  | segment clock seg srcMac dstMac =>
    obtain ⟨⟨hdst, hsrc⟩, ⟨-, -, hfin, hrst⟩, hack, hpayload, hwnd⟩ := hdup
    obtain rfl : (⟨seg.dst, seg.src⟩ : FourTuple) = key := by rw [hdst, hsrc]
    obtain ⟨wl1, wl2, hest⟩ := handleEstablished_duplicate clock hack hfin hpayload hwnd
    obtain ⟨hview, hout⟩ := TcpEngine.view_onSegment clock ht srcMac dstMac
    have heff : segmentTcb clock seg t = .keep (t.marked wl1 wl2, []) := by
      rw [segmentTcb, if_neg (by rw [hrst]; decide), handleExistingTcb, hst]
      exact congrArg Effect.keep hest
    rw [heff] at hview hout
    exact ⟨wl1, wl2, (TcpEngine.view_eq_live_iff _ _ _).1 hview, hout⟩
  | _ => cases hdup

/-- **Duplicate ACKs.** However many arrive, nothing is sent, and nothing else is left of them. -/
theorem run_duplicates (acks : List EngineEvent) {e : TcpEngine} (ht : e.tcbs.get? key = some t)
    (hst : t.state = .established) (hdup : ∀ ev ∈ acks, DuplicateAck key t ev) :
    ∃ wl1 wl2, (engineRun e acks).tcbs.get? key = some (t.marked wl1 wl2) ∧
      engineFrames e acks = [] := by
  induction acks generalizing e t with
  | nil => exact ⟨t.sndWl1, t.sndWl2, ht, rfl⟩
  | cons ev acks ih =>
    obtain ⟨wl1, wl2, hstep, hout⟩ := engineStep_duplicate ht hst (hdup ev List.mem_cons_self)
    -- the next ones are duplicates for the TCB that is left as well
    have hrest : ∀ ev ∈ acks, DuplicateAck key (t.marked wl1 wl2) ev := fun ev hev => by
      have := hdup ev (List.mem_cons_of_mem _ hev)
      cases ev <;> exact this
    obtain ⟨wl1', wl2', hlast, hframes⟩ := ih hstep hst hrest
    refine ⟨wl1', wl2', hlast, ?_⟩
    rw [engineFrames, hout, hframes]
    rfl

/-! ## The tick behind them -/

theorem flightSize_le_seq {fuel : Nat} : ∀ {t : Tcb}, t.sendLimit < 2 ^ 32 →
    ∀ f ∈ (segmentLoop now fuel t).2, t.flightSize ≤ f.params.seq.diff t.sndUna := by
  induction fuel with
  | zero => intro t _ f hf; cases hf
  | succ fuel ih =>
    intro t hlimit f hf
    rw [segmentLoop] at hf
    split_ifs at hf with hn
    · cases hf
    rcases List.mem_cons.1 hf with rfl | hf
    · exact Nat.le_refl _
    · have hwin : t.flightSize + nextSegmentLen t ≤ t.sendLimit := (nextSegmentLen_le hn).2
      have hflight := flightSize_sendSegment now (n := nextSegmentLen t) (t := t) (by omega)
      have hrest : _ ≤ f.params.seq.diff t.sndUna := ih (t := (sendSegment now (nextSegmentLen t) t).1) hlimit f hf
      omega

theorem payload_txDrain (hlimit : t.sendLimit < 2 ^ 32) (hflight : 0 < t.flightSize) {f : Emitted}
    (hf : f ∈ (txDrain now clock t).2) (hseq : f.params.seq = t.sndUna) : f.params.payload = [] := by
  rcases List.mem_append.1 hf with hf | hf
  · have hle : t.flightSize ≤ f.params.seq.diff t.sndUna := flightSize_le_seq (t := drainTxRing t) hlimit f hf
    rw [hseq, SeqNum.diff_self] at hle
    omega
  · have hfin (u : Tcb) (hf : f ∈ (sendFin clock u).2) : f.params.payload = [] := by
      unfold sendFin at hf
      dsimp only at hf
      split at hf
      · rw [List.mem_singleton.1 hf]; rfl
      · rw [List.mem_singleton.1 hf]; rfl
      · cases hf
    unfold flushFin at hf
    split_ifs at hf
    · exact hfin _ hf
    · cases hf

theorem payload_onTickTcb (hrto : rtoDue now t = false) (hlimit : t.sendLimit < 2 ^ 32) (hflight : 0 < t.flightSize)
    {f : Emitted} (hf : f ∈ (onTickTcb cfg now clock t).out) (hseq : f.params.seq = t.sndUna) :
    f.params.payload = [] := by
  have hack {f : Emitted} (hf : f ∈ (tickDelayedAck now t).2) : f.params.payload = [] := by
    unfold tickDelayedAck at hf
    split_ifs at hf
    · rw [List.mem_singleton.1 hf]; rfl
    · cases hf
  generalize heff : onTickTcb cfg now clock t = eff at hf
  cases onTickTcb_cases heff with
  | expired | rtoAborted | keepaliveAborted => cases hf
  | retransmitted _ hdue => rw [hrto] at hdue; cases hdue
  | probed =>
    -- the probe is behind the flight, which is not empty
    rw [List.mem_singleton.1 hf] at hseq
    change t.sndUna.add t.flightSize = t.sndUna at hseq
    have hdiff := SeqNum.diff_add_self t.sndUna (a := t.flightSize) (SeqNum.diff_lt _ _)
    rw [hseq, SeqNum.diff_self] at hdiff
    omega
  | keepaliveProbed => rw [List.mem_singleton.1 hf]; rfl
  | quiet => exact hack hf
  | drained =>
    rcases List.mem_append.1 hf with hf | hf
    · exact hack hf
    · have hsame : (tickDelayedAck now t).1.sendLimit = t.sendLimit ∧ (tickDelayedAck now t).1.flightSize = t.flightSize ∧
          (tickDelayedAck now t).1.sndUna = t.sndUna := by
        obtain ⟨_, _, hframe⟩ := tickDelayedAck_frame now t
        rw [hframe]
        exact ⟨rfl, rfl, rfl⟩
      obtain ⟨hlimit', hflight', huna⟩ := hsame
      exact payload_txDrain (hlimit' ▸ hlimit) (hflight' ▸ hflight) hf (hseq.trans huna.symm)

/-! ## The engine -/

theorem engineFrames_append (e : TcpEngine) (evs evs' : List EngineEvent) :
    engineFrames e (evs ++ evs') = engineFrames e evs ++ engineFrames (engineRun e evs) evs' := by
  induction evs generalizing e with
  | nil => rfl
  | cons ev evs ih => rw [List.cons_append, engineFrames, ih, engineFrames, List.append_assoc]; rfl

/-- **No fast retransmit.** However many duplicate ACKs come to an established connection with data in flight, the segment
at `snd_una` is not sent again before the RTO, and recovery is not entered. -/
theorem no_fast_retransmit (isnGen : IsnGenerator) (cfg : EngineConfig) (evs : List EngineEvent) (key : FourTuple)
    (t : Tcb) (ht : (engineRun (.new isnGen cfg) evs).tcbs.get? key = some t) (hst : t.state = .established)
    (hflight : 0 < t.flightSize) (acks : List EngineEvent) (hacks : ∀ ev ∈ acks, DuplicateAck key t ev)
    (now clock : Instant) (hrto : rtoDue now t = false) :
    ¬Resends (engineRun (.new isnGen cfg) evs) key t (acks ++ [.tick now clock]) ∧
      ∃ t', (engineRun (engineRun (.new isnGen cfg) evs) acks).tcbs.get? key = some t' ∧
        t'.congestion = t.congestion ∧ ¬EntersRecovery t t' := by
  have hreached : engineRun (engineRun (.new isnGen cfg) evs) acks = engineRun (.new isnGen cfg) (evs ++ acks) :=
    (List.foldl_append ..).symm
  obtain ⟨wl1, wl2, ht', hframes⟩ := run_duplicates acks ht hst hacks
  have hlimit := sendLimit_lt isnGen cfg (evs ++ acks) (hreached ▸ ht')
  refine ⟨?_, _, ht', rfl, fun hentered => ?_⟩
  · rintro ⟨f, hf, hkey, hseq, hpayload⟩
    rw [engineFrames_append, hframes, List.nil_append, engineFrames, engineFrames, List.append_nil, hreached] at hf
    rw [hreached] at ht'
    have hmem := mem_out_onTick_of_key (fun k u hu => (reachable_identity isnGen cfg (evs ++ acks) hu).1) ht' hf hkey.1
      hkey.2
    exact hpayload (payload_onTickTcb (t := t.marked wl1 wl2) hrto hlimit hflight hmem hseq)
  · have hno := not_inRecovery isnGen cfg (evs ++ acks) (hreached ▸ ht')
    rw [hentered.recovering] at hno
    cases hno

def lossHistory : List EngineEvent :=
  [.connect 0 sampleKey (Vector.replicate 6 1) (Vector.replicate 6 2) 65536 65536 0,
    .segment 1 (fromPeer 1000 101 (TcpFlags.syn.union .ack) 500 []) (Vector.replicate 6 2) (Vector.replicate 6 1),
    .write sampleKey [1, 2, 3], .tick 2 2]

def lossAcks : List EngineEvent :=
  List.replicate 3 (.segment 3 (fromPeer 1001 101 .ack 500 []) (Vector.replicate 6 2) (Vector.replicate 6 1))

theorem no_fast_retransmit_sample : ∃ t, (engineRun sampleBoot lossHistory).tcbs.get? sampleKey = some t ∧
    ¬Resends (engineRun sampleBoot lossHistory) sampleKey t (lossAcks ++ [.tick 4 4]) := by
  refine ⟨_, rfl, ?_⟩
  refine (no_fast_retransmit { hash := fun _ => 100, bootInstant := 0 } {} lossHistory sampleKey _ rfl rfl (by decide)
    lossAcks (fun ev hev => ?_) 4 4 (by decide)).1
  rw [List.eq_of_mem_replicate hev]
  exact ⟨⟨rfl, rfl⟩, ⟨rfl, rfl, rfl, rfl⟩, rfl, rfl, rfl⟩

/-- **Duplicate ACKs are ignored.** Three of them and a tick bring out nothing; the window stays at ten segments, outside
recovery, with the three bytes in flight. -/
theorem duplicates_ignored : engineFrames (engineRun sampleBoot lossHistory) (lossAcks ++ [.tick 4 4]) = [] ∧
    ((engineRun (engineRun sampleBoot lossHistory) lossAcks).tcbs.get? sampleKey).map
        (fun t => (t.sndUna, t.flightSize, t.congestion.cwnd, t.congestion.ssthresh, t.congestion.inRecovery)) =
      some (⟨101⟩, 3, 5360, u32Max, false) := by
  decide

end DpdkStdlib.Tcp
