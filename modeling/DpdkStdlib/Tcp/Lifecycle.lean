import DpdkStdlib.Tcp.Change

/-!
# The life of a connection

The engine keeps the state of a connection twice, in the TCB and in the handle that the application holds, and moves
along the diagram of RFC 9293.  When a TCB leaves the map its handle must say so: state Closed, and an error or EOF for
a reader that waits.
-/

namespace DpdkStdlib.Tcp
open DpdkStdlib.Lib

variable {t t' : Tcb} {cfg : EngineConfig} {ev : ConnEvent} {e : TcpEngine} {seg : ParsedTcpSegment} {clock : Instant}

/-! ## The diagram -/

def CoversFin (seg? : Option ParsedTcpSegment) (t : Tcb) : Prop :=
  ∃ seg, seg? = some seg ∧ seg.flags.contains .ack = true ∧ seg.ack = t.sndNxt

/-- The segment carries the peer's FIN, and the TCB has stepped over it. -/
def ConsumesFin (seg? : Option ParsedTcpSegment) (t' : Tcb) : Prop :=
  ∃ seg, seg? = some seg ∧ seg.flags.contains .fin = true ∧ t'.rcvNxt = seg.seq.add (seg.payload.length + 1) ∧
    t'.handle.eof = true

/-- The edges of RFC 9293, figure 5, between states in which there is a TCB. -/
inductive Transition (seg? : Option ParsedTcpSegment) (t t' : Tcb) : Prop
  | stays (h : t'.state = t.state)
  | synAcked (h : t.state = .synSent) (h' : t'.state = .established)
  | accepted (h : t.state = .synReceived) (h' : t'.state = .established)
  | closes (h : t.state = .established) (h' : t'.state = .finWait1)
  | closesToo (h : t.state = .closeWait) (h' : t'.state = .lastAck)
  | finTaken (h : t.state = .established) (h' : t'.state = .closeWait) (hfin : ConsumesFin seg? t')
  | finAcked (h : t.state = .finWait1) (h' : t'.state = .finWait2) (hack : CoversFin seg? t)
  | simultaneous (h : t.state = .finWait1) (h' : t'.state = .closing) (hfin : ConsumesFin seg? t')
  | both (h : t.state = .finWait1) (h' : t'.state = .timeWait) (hack : CoversFin seg? t) (hfin : ConsumesFin seg? t')
  | lastFin (h : t.state = .finWait2) (h' : t'.state = .timeWait) (hfin : ConsumesFin seg? t')
  | closingAcked (h : t.state = .closing) (h' : t'.state = .timeWait) (hack : CoversFin seg? t)

/-- The state of a TCB, the one its handle shows, and whether the handle shows the end of the stream. -/
structure Status where
  state : TcpState
  shown : TcpState
  eof : Bool

def Tcb.status (t : Tcb) : Status := ⟨t.state, t.handle.state, t.handle.eof⟩

theorem status_establishedAck (seg : ParsedTcpSegment) (t : Tcb) : (establishedAck seg t).status = t.status := by
  unfold establishedAck updateSendWindow ackAndDrain
  split_ifs <;> rfl

theorem status_establishedData (clock : Instant) (seg : ParsedTcpSegment) (t : Tcb) :
    (establishedData clock seg t).1.status = t.status := by
  unfold establishedData inOrder outOfOrder
  dsimp only
  split_ifs <;> rfl

theorem status_closingAck (seg : ParsedTcpSegment) (t : Tcb) : (closingAck seg t).status = t.status := by
  unfold closingAck
  split_ifs <;> rfl

theorem status_takeData (seg : ParsedTcpSegment) (t : Tcb) : (takeData seg t).status = t.status := by
  unfold takeData
  split_ifs <;> rfl

theorem consumesFin_of_finInOrder (hfin : finInOrder seg t = true) (hnxt : t'.rcvNxt = t.rcvNxt.add 1)
    (heof : t'.handle.eof = true) : ConsumesFin (some seg) t' := by
  unfold finInOrder at hfin
  rw [Bool.and_eq_true, beq_iff_eq] at hfin
  exact ⟨seg, rfl, hfin.1, by rw [hnxt, ← hfin.2, SeqNum.add_add], heof⟩

theorem status_handleEstablished (clock : Instant) (seg : ParsedTcpSegment) (t : Tcb) :
    (handleEstablished clock seg t).1.status = t.status ∨
      (handleEstablished clock seg t).1.status = ⟨.closeWait, .closeWait, true⟩ ∧
        ConsumesFin (some seg) (handleEstablished clock seg t).1 := by
  have hsame : (establishedData clock seg (establishedAck seg t)).1.status = t.status := by
    rw [status_establishedData, status_establishedAck]
  unfold handleEstablished establishedFin
  split_ifs with hfin
  · exact Or.inr ⟨rfl, consumesFin_of_finInOrder hfin rfl rfl⟩
  · exact Or.inl hsame

theorem coversFin_of_finAcked (h : finAcked seg t = true) : CoversFin (some seg) t := by
  unfold finAcked at h
  rw [Bool.and_eq_true, beq_iff_eq] at h
  exact ⟨seg, rfl, h⟩

/-- A segment moves a TCB along an edge. -/
theorem transition_segmentTcb (h : (segmentTcb clock seg t).outcome = .live t') : Transition (some seg) t t' := by
  have htake := congrArg Status.state (status_takeData seg t)
  have hfw1 := congrArg Status.state ((status_takeData seg (closingAck seg t)).trans (status_closingAck seg t))
  generalize heff : segmentTcb clock seg t = eff at h
  cases segmentTcb_cases heff with
  | refused | embryoReset | reset | lastAcked => cases h
  | ignored => cases h; exact .stays rfl
  | challenged => cases h; exact .stays rfl
  | synAcked hst => cases h; exact .synAcked hst rfl
  | accepted hst => cases h; exact .accepted hst rfl
  | established hst =>
    rw [Effect.live_keep h]
    rcases status_handleEstablished clock seg t with hsame | ⟨hnew, hfin⟩
    · exact .stays (congrArg Status.state hsame)
    · exact .finTaken hst (congrArg Status.state hnew) hfin
  | finWait1Both hst hacked hfin =>
    cases h
    exact .both hst rfl (coversFin_of_finAcked hacked) (consumesFin_of_finInOrder hfin rfl rfl)
  | finWait1Acked hst hacked => cases h; exact .finAcked hst rfl (coversFin_of_finAcked hacked)
  | finWait1Fin hst hacked hfin => cases h; exact .simultaneous hst rfl (consumesFin_of_finInOrder hfin rfl rfl)
  | finWait1Open => cases h; exact .stays hfw1
  | finWait2Fin hst hfin => cases h; exact .lastFin hst rfl (consumesFin_of_finInOrder hfin rfl rfl)
  | finWait2Data => cases h; exact .stays htake
  | closeWait => cases h; exact .stays (congrArg Status.state (status_closingAck seg t))
  | closingAcked hst hacked => cases h; exact .closingAcked hst rfl (coversFin_of_finAcked hacked)
  | finAgain => cases h; exact .stays rfl

/-- The changes that need no segment of the peer. -/
inductive Status.Local (s : Status) : Status → Prop
  | stays : Status.Local s s
  | reads : Status.Local s { s with eof := true }
  | closes (h : s.state = .established) : Status.Local s { s with state := .finWait1, shown := .finWait1 }
  | closesToo (h : s.state = .closeWait) : Status.Local s { s with state := .lastAck, shown := .lastAck }

theorem local_sendFin (clock : Instant) (t : Tcb) : t.status.Local (sendFin clock t).1.status := by
  unfold sendFin
  dsimp only
  split
  · next hst => exact .closes hst
  · next hst => exact .closesToo hst
  · exact .stays

theorem local_handleShutdown (clock : Instant) (how : Shutdown) (t : Tcb) :
    t.status.Local (handleShutdown clock how t).1.status := by
  generalize hr : handleShutdown clock how t = r
  cases handleShutdown_cases hr with
  | ignored => exact .stays
  | eof => exact .reads
  | waits => exact .stays
  | sends => exact local_sendFin clock (shutdownDrained t)

theorem local_flushFin (clock : Instant) (t : Tcb) : t.status.Local (flushFin clock t).1.status := by
  unfold flushFin
  split_ifs
  · exact local_sendFin clock t
  · exact .stays

theorem local_txDrain (now clock : Instant) (t : Tcb) : t.status.Local (txDrain now clock t).1.status := by
  have hsame : (armTimers now (txSend now t).1).status = t.status := by
    obtain ⟨_, _, _, _, _, _, _, hsend⟩ := transmitted_frame now t
    rw [hsend]
    rfl
  have hflush := local_flushFin clock (armTimers now (txSend now t).1)
  rw [hsame] at hflush
  unfold txDrain
  dsimp only
  exact hflush

theorem local_onTickTcb {now : Instant} (h : (onTickTcb cfg now clock t).outcome = .live t') :
    t.status.Local t'.status := by
  obtain ⟨_, _, hack⟩ := tickDelayedAck_frame now t
  have hsame : (tickDelayedAck now t).1.status = t.status := by rw [hack]; rfl
  generalize heff : onTickTcb cfg now clock t = eff at h
  cases onTickTcb_cases heff with
  | expired | rtoAborted | keepaliveAborted => cases h
  | retransmitted => cases h; exact .stays
  | probed => cases h; exact .stays
  | keepaliveProbed => cases h; exact .stays
  | quiet => rw [Effect.live_keep h, hsame]; exact .stays
  | drained =>
    rw [Effect.live_keep h, ← hsame]
    dsimp only
    exact local_txDrain now clock _

theorem local_call (h : (callTcb cfg ev t).outcome = .live t') (hev : ev.segment? = none) :
    t.status.Local t'.status := by
  cases ev with
  | segment => cases hev
  | write => cases h; exact .stays
  | read => cases h; exact .stays
  | tick now clock => exact local_onTickTcb h
  | shutdown clock how => rw [Effect.live_keep h]; exact local_handleShutdown clock how t
  | close clock linger =>
    change (handleClose clock linger t).outcome = .live t' at h
    unfold handleClose at h
    split_ifs at h
    · cases h
    · rw [Effect.live_keep h]; exact local_handleShutdown clock .write t
  | setOption option =>
    rw [Effect.live_keep h]
    dsimp only
    rw [field_handleSetOption option t Tcb.status fun _ _ => rfl]
    exact .stays

theorem Status.Local.transition (h : t.status.Local t'.status) (seg? : Option ParsedTcpSegment) :
    Transition seg? t t' := by
  generalize hs' : t'.status = s' at h
  have hstate : t'.state = s'.state := by rw [← hs']; rfl
  cases h with
  | stays => exact .stays hstate
  | reads => exact .stays hstate
  | closes hst => exact .closes hst hstate
  | closesToo hst => exact .closesToo hst hstate

/-- **Only the edges of the diagram.** An event that leaves the TCB in the map follows one of them. -/
theorem transition_call (h : (callTcb cfg ev t).outcome = .live t') : Transition ev.segment? t t' := by
  cases ev with
  | segment clock seg => exact transition_segmentTcb h
  | _ => exact (local_call h rfl).transition _

theorem state_call_ne {st : TcpState} (hearly : st.early = true) (hst : t.state ≠ st)
    (h : (callTcb cfg ev t).outcome = .live t') : t'.state ≠ st := by
  intro hst'
  cases transition_call h with
  | stays h => exact hst (h.symm.trans hst')
  | synAcked _ h | accepted _ h | closes _ h | closesToo _ h | finTaken _ h | finAcked _ h | simultaneous _ h
    | both _ h | lastFin _ h | closingAcked _ h =>
    rw [← hst', h] at hearly
    cases hearly

/-! ## The handle -/

/-- The handle shows the state of its TCB, and EOF once the peer's FIN is consumed and ours may go. -/
structure Mirrored (t : Tcb) : Prop where
  shown : t.handle.state = t.state
  ended : t.state = .closeWait ∨ t.state = .lastAck → t.handle.eof = true

/-- The handle of a TCB that has left: Closed, with an error or EOF. -/
structure Released (h : ConnectionHandle) : Prop where
  state : h.state = .closed
  told : h.eof = true ∨ h.error ≠ none

theorem Mirrored.of_status (hm : Mirrored t) (h : t'.status = t.status) : Mirrored t' := by
  have hstate : t'.state = t.state := congrArg Status.state h
  have hshown : t'.handle.state = t.handle.state := congrArg Status.shown h
  have heof : t'.handle.eof = t.handle.eof := congrArg Status.eof h
  exact ⟨by rw [hshown, hstate, hm.shown], by rw [hstate, heof]; exact hm.ended⟩

theorem Mirrored.of_local (hm : Mirrored t) (h : t.status.Local t'.status) : Mirrored t' := by
  generalize hs' : t'.status = s' at h
  have hstate : t'.state = s'.state := by rw [← hs']; rfl
  have hshown : t'.handle.state = s'.shown := by rw [← hs']; rfl
  have heof : t'.handle.eof = s'.eof := by rw [← hs']; rfl
  refine ⟨?_, ?_⟩
  · rw [hstate, hshown]
    cases h with
    | stays | reads => exact hm.shown
    | closes | closesToo => rfl
  · rw [hstate, heof]
    cases h with
    | stays => exact hm.ended
    | reads => exact fun _ => rfl
    | closes => intro h; rcases h with h | h <;> cases h
    | closesToo hst => exact fun _ => hm.ended (Or.inl hst)

theorem Mirrored.segmentTcb (hm : Mirrored t) (h : (segmentTcb clock seg t).outcome = .live t') : Mirrored t' := by
  have hfw1 := (status_takeData seg (closingAck seg t)).trans (status_closingAck seg t)
  generalize heff : Tcp.segmentTcb clock seg t = eff at h
  cases segmentTcb_cases heff with
  | refused | embryoReset | reset | lastAcked => cases h
  | ignored => cases h; exact hm
  | challenged => cases h; exact hm
  | synAcked => cases h; exact ⟨rfl, by simp [synAckTcb, Tcb.setState]⟩
  | accepted => cases h; exact ⟨rfl, by simp [acceptedTcb, Tcb.setState]⟩
  | established hst =>
    rw [Effect.live_keep h]
    rcases status_handleEstablished clock seg t with hsame | ⟨hnew, -⟩
    · exact hm.of_status hsame
    · exact ⟨(congrArg Status.shown hnew).trans (congrArg Status.state hnew).symm, fun _ => congrArg Status.eof hnew⟩
  | finWait1Both => cases h; exact ⟨rfl, fun _ => rfl⟩
  | finWait1Acked => cases h; exact ⟨rfl, by simp [toFinWait2, Tcb.setState]⟩
  | finWait1Fin => cases h; exact ⟨rfl, fun _ => rfl⟩
  | finWait1Open => cases h; exact hm.of_status hfw1
  | finWait2Fin => cases h; exact ⟨rfl, fun _ => rfl⟩
  | finWait2Data => cases h; exact hm.of_status (status_takeData seg t)
  | closeWait => cases h; exact hm.of_status (status_closingAck seg t)
  | closingAcked => cases h; exact ⟨rfl, by simp [closingToTimeWait, Tcb.setState]⟩
  | finAgain => cases h; exact hm.of_status rfl

/-- A call keeps the state that the handle shows. -/
theorem Mirrored.call (hm : Mirrored t) (h : (callTcb cfg ev t).outcome = .live t') : Mirrored t' := by
  cases ev with
  | segment clock seg => exact hm.segmentTcb h
  | _ => exact hm.of_local (local_call h rfl)

theorem Mirrored.released {h : ConnectionHandle} (hm : Mirrored t) (hrem : (callTcb cfg ev t).outcome = .removed h) :
    Released h := by
  cases ev with
  | write | read | shutdown | setOption => cases hrem
  | segment clock seg =>
    change (Tcp.segmentTcb clock seg t).outcome = .removed h at hrem
    generalize heff : Tcp.segmentTcb clock seg t = eff at hrem
    cases segmentTcb_cases heff with
    | refused => cases hrem; exact ⟨rfl, Or.inr (by simp)⟩
    | embryoReset => cases hrem; exact ⟨by rw [ConnectionHandle.state_latchError]; rfl, Or.inr (by simp)⟩
    | reset => cases hrem; exact ⟨rfl, Or.inl rfl⟩
    | lastAcked hst => cases hrem; exact ⟨rfl, Or.inl (hm.ended (Or.inr hst))⟩
    | _ => cases hrem
  | tick now clock =>
    change (onTickTcb cfg now clock t).outcome = .removed h at hrem
    generalize heff : onTickTcb cfg now clock t = eff at hrem
    cases onTickTcb_cases heff with
    | expired | rtoAborted | keepaliveAborted => cases hrem; exact ⟨rfl, Or.inl rfl⟩
    | _ => cases hrem
  | close clock linger =>
    dsimp only [callTcb, handleClose] at hrem
    split_ifs at hrem
    · cases hrem; exact ⟨rfl, Or.inl rfl⟩
    · cases hrem

theorem Released.onHandle {h : ConnectionHandle} (hr : Released h) (ev : ConnEvent) : Released (ev.onHandle h) := by
  cases ev with
  | write => exact ⟨hr.state, hr.told⟩
  | read => exact ⟨hr.state, hr.told⟩
  | _ => exact hr

theorem mirrored_opening (cfg : EngineConfig) (o : Opening) : Mirrored (o.tcb cfg) := by
  cases o with
  | active => exact ⟨rfl, by simp [Opening.tcb, connectTcb, Tcb.setState]⟩
  | passive => exact ⟨rfl, by simp [Opening.tcb, acceptTcb, Tcb.setState]⟩

/-! ## The engine -/

/-- A connect finds no TCB under its key, unless the map is full and it is turned away. -/
def ConnectsFresh (e : TcpEngine) : EngineEvent → Prop
  | .connect _ key .. => e.tcbs.get? key = none ∨ e.config.maxTcbs ≤ e.tcbs.size
  | _ => True

/-- Every handle shows the state of its TCB, and is released when the TCB has left. -/
structure TcpEngine.Mirrors (e : TcpEngine) : Prop where
  live : e.tcbs.All fun _ t => t.handle.state = t.state
  left : e.closed.All fun _ h => Released h

/-- The event moves every TCB along an edge of the diagram; one that is new starts with a SYN. -/
def Follows (e : TcpEngine) (ev : EngineEvent) : Prop :=
  (engineStep e ev).engine.tcbs.All fun key t' => match e.tcbs.get? key with
    | some t => Transition ((ev.atKey key).bind ConnEvent.segment?) t t'
    | none => t'.state = .synSent ∨ t'.state = .synReceived

namespace TcpEngine

/-- The invariant behind `Mirrors`. -/
structure Kept (e : TcpEngine) : Prop where
  live : e.tcbs.All fun _ t => Mirrored t
  left : e.closed.All fun _ h => Released h

theorem Kept.store (hk : e.Kept) (cfg : EngineConfig) {key : FourTuple} (ht : e.tcbs.get? key = some t)
    (ev : ConnEvent) : (e.store key (callTcb cfg ev t).outcome).Kept := by
  have hm := hk.live key t ht
  cases hout : (callTcb cfg ev t).outcome with
  | live t' => exact ⟨hk.live.insert (hm.call hout), hk.left⟩
  | removed h => exact ⟨hk.live.erase key, hk.left.insert (hm.released hout)⟩

theorem Kept.insertTcb (hk : e.Kept) {key : FourTuple} (hnone : e.tcbs.get? key = none) (ht : Mirrored t) :
    (e.insertTcb key t).Kept := by
  unfold TcpEngine.insertTcb
  rw [hnone]
  exact ⟨hk.live.insert ht, hk.left⟩

/-- A change of the engine keeps every handle in step. -/
theorem Kept.change {ev : EngineEvent} {e' : TcpEngine} {rs : List Response} (hk : e.Kept)
    (hfresh : ConnectsFresh e ev) (h : Change ev e e' rs) : e'.Kept := by
  cases h with
  | call key t cev hev ht =>
    obtain ⟨h1, h2, -⟩ := applyEffect_same e key (callTcb e.config cev t)
    have hstore := hk.store e.config ht cev
    exact ⟨h1 ▸ hstore.live, h2 ▸ hstore.left⟩
  | gone key h cev hev ht hh => exact ⟨hk.live, hk.left.insert ((hk.left key h hh).onHandle cev)⟩
  | full => exact hk
  | connects clock key srcMac dstMac rx tx response hev hroom =>
    subst hev
    have hnone : e.tcbs.get? key = none := hfresh.resolve_right (Nat.not_le.2 hroom)
    have hins := hk.insertTcb hnone (mirrored_opening e.config (e.activeOpen clock key srcMac dstMac rx tx))
    exact ⟨hins.live, hins.left⟩
  | admits clock seg srcMac dstMac addr l hev hadmits =>
    exact hk.insertTcb hadmits.unknown (mirrored_opening e.config (e.passiveOpen clock seg srcMac dstMac))
  | listens => exact ⟨hk.live, hk.left⟩
  | accepts addr response =>
    obtain ⟨h1, h2, -⟩ := handleAccept_same e addr response
    exact ⟨h1 ▸ hk.live, h2 ▸ hk.left⟩

theorem Kept.mirrors (hk : e.Kept) : e.Mirrors := ⟨fun key t ht => (hk.live key t ht).shown, hk.left⟩

end TcpEngine

theorem state_opening (cfg : EngineConfig) (o : Opening) :
    (o.tcb cfg).state = .synSent ∨ (o.tcb cfg).state = .synReceived := by
  cases o with
  | active => exact Or.inl rfl
  | passive => exact Or.inr rfl

theorem follows_of_fresh {ev : EngineEvent} (hfresh : ConnectsFresh e ev) : Follows e ev := by
  intro key t' ht'
  have hview' := (TcpEngine.view_eq_live_iff _ key t').2 ht'
  cases ht : e.tcbs.get? key with
  | some t =>
    have hopens : ¬ev.Opens key e := by
      intro hopens
      cases ev with
      | connect clock k =>
        obtain ⟨rfl, hroom⟩ := hopens
        rw [hfresh.resolve_right (Nat.not_le.2 hroom)] at ht
        cases ht
      | _ => exact hopens
    rw [TcpEngine.view_engineStep_of_get? ht hopens] at hview'
    unfold EngineEvent.leaves at hview'
    dsimp only
    cases hev : ev.atKey key with
    | none =>
      rw [hev] at hview'
      cases hview'
      exact .stays rfl
    | some cev =>
      rw [hev] at hview'
      exact transition_call (Option.some.inj hview')
  | none =>
    dsimp only
    have hstep := e.view_engineStep ev key
    have hdead (t : Tcb) : e.view key ≠ some (.live t) := fun h => by
      rw [TcpEngine.view_eq_live_iff, ht] at h
      cases h
    -- nothing is live under the key before, so the step can only open it
    generalize hs : e.view key = s, hs' : (engineStep e ev).engine.view key = s' at hstep
    rw [hview'] at hs'
    cases hstep with
    | same => exact absurd (hs.trans hs'.symm) (hdead t')
    | opened _ o _ => cases hs'; exact state_opening e.config o
    | event s cev =>
      cases s with
      | live t => exact absurd hs (hdead t)
      | removed h => cases hs'

/-- **State mirror and release.** In every run in which no connect finds a TCB under its key, every handle shows the
state of its TCB, every TCB moves along the diagram, and every TCB that leaves the map releases its handle. -/
theorem lifecycle (isnGen : IsnGenerator) (cfg : EngineConfig) (evs : List EngineEvent)
    (hfresh : Along ConnectsFresh answerStep (.new isnGen cfg) evs) :
    (engineRun (.new isnGen cfg) evs).Mirrors ∧ Along Follows answerStep (.new isnGen cfg) evs := by
  have hnew : (TcpEngine.new isnGen cfg).Kept := ⟨AssocMap.all_empty _, AssocMap.all_empty _⟩
  have hkept := engine_invariant (fun _ _ _ => trivial) (fun _ _ _ _ hgood h hk => TcpEngine.Kept.change hk hgood h)
    hfresh hnew
  exact ⟨hkept.mirrors, hfresh.mono fun e ev h => follows_of_fresh h⟩

instance (e : TcpEngine) (ev : EngineEvent) : Decidable (ConnectsFresh e ev) := by
  unfold ConnectsFresh
  cases ev <;> infer_instance

def samplePassiveClose : List EngineEvent :=
  [.connect 0 sampleKey (Vector.replicate 6 1) (Vector.replicate 6 2) 65536 65536 0,
    .segment 1 (sampleSynAck 7000) (Vector.replicate 6 2) (Vector.replicate 6 1),
    .segment 2 (fromPeer 7001 101 (TcpFlags.fin.union .ack) 1000 []) (Vector.replicate 6 2) (Vector.replicate 6 1),
    .close 3 sampleKey none,
    .segment 4 (fromPeer 7002 102 .ack 1000 []) (Vector.replicate 6 2) (Vector.replicate 6 1)]

theorem lifecycle_sample : (engineRun sampleBoot samplePassiveClose).Mirrors ∧
    Along Follows answerStep sampleBoot samplePassiveClose ∧
    (engineRun sampleBoot samplePassiveClose).tcbs.size = 0 ∧
    (engineRun sampleBoot samplePassiveClose).closed.size = 1 := by
  have h := lifecycle { hash := fun _ => 100, bootInstant := 0 } {} samplePassiveClose (by decide +kernel)
  exact ⟨h.1, h.2, by decide +kernel, by decide +kernel⟩

def sampleReplaced : List EngineEvent :=
  [.connect 0 sampleKey (Vector.replicate 6 1) (Vector.replicate 6 2) 65536 65536 0,
    .connect 1 sampleKey (Vector.replicate 6 1) (Vector.replicate 6 2) 65536 65536 1]

/-- The second connect drops the TCB of the first, whose handle stays in SYN_SENT with no error and no EOF. -/
theorem replaced_handle_waits : ∃ h, (engineRun sampleBoot sampleReplaced).closed.get? sampleKey = some h ∧
    h.state = .synSent ∧ h.eof = false ∧ h.error = none ∧ ¬(engineRun sampleBoot sampleReplaced).Mirrors := by
  refine ⟨_, rfl, rfl, rfl, rfl, fun hm => ?_⟩
  have hstate := (hm.left sampleKey _ rfl).state
  cases hstate

end DpdkStdlib.Tcp
