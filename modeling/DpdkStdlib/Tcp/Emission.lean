import DpdkStdlib.Tcp.Connection

/-!
# What a connection puts on the wire

Every frame of a call is built from the TCB as the call leaves it: its addresses, its `rcv_nxt` and, but for three
sites, the window of an established connection.
-/

namespace DpdkStdlib.Tcp
open DpdkStdlib.Lib

variable {t t' : Tcb} {f : Emitted} {clock : Instant} {seg : ParsedTcpSegment} {cfg : EngineConfig} {ev : ConnEvent}

/-- The part of a TCB that its frames carry or compute their window from. -/
structure Header where
  key : FourTuple
  srcMac : MacAddr
  dstMac : MacAddr
  ttl : UInt8
  rcvNxt : SeqNum
  rxRing : SpscByteRing
  recvBufSize : Nat
  rcvWnd : Nat
  rcvScale : UInt8
  localMss : UInt16
  peerMss : UInt16

def Tcb.header (t : Tcb) : Header where
  key := t.key
  srcMac := t.srcMac
  dstMac := t.dstMac
  ttl := t.ttl
  rcvNxt := t.rcvNxt
  rxRing := t.handle.rxRing
  recvBufSize := t.recvBufSize
  rcvWnd := t.rcvWnd
  rcvScale := t.rcvScale
  localMss := t.localMss
  peerMss := t.peerMss

namespace Site

def flags : Site → TcpFlags
  | syn => .syn
  | synAck => TcpFlags.syn.union .ack
  | fin => TcpFlags.fin.union .ack
  | rst => TcpFlags.rst.union .ack
  | rstReply => .rst
  | handshakeAck | ack | challengeAck | data | retransmit | probe | keepalive => .ack

def window (t : Tcb) : Site → UInt16
  | syn | synAck => encodeWindow t.rcvWnd 0
  | handshakeAck => encodeWindow t.rcvWnd t.rcvScale
  | rst | rstReply => 0
  | ack | challengeAck | data | retransmit | probe | keepalive | fin => encodeEstablishedWindow t

def loaded : Site → Bool
  | data | retransmit | probe => true
  | syn | synAck | handshakeAck | ack | challengeAck | keepalive | fin | rst | rstReply => false

end Site

/-- The frame carries the TCB's header, and its site's flags and window; only some sites give it a payload. -/
def BuiltFrom (t : Tcb) (f : Emitted) : Prop :=
  ∃ seq payload, f.params = t.params seq f.site.flags (f.site.window t) payload ∧ (f.site.loaded = false → payload = [])

/-- Every frame is built from the TCB at one of the sites. -/
def Built (t : Tcb) (out : List Emitted) : Prop := ∀ f ∈ out, BuiltFrom t f

def Effect.after (eff : Effect) (t : Tcb) : Tcb :=
  match eff.outcome with
  | .live t' => t'
  | .removed _ => t

theorem params_congr (h : t.header = t'.header) (seq : SeqNum) (flags : TcpFlags) (w : UInt16) (payload : List UInt8) :
    t.params seq flags w payload = t'.params seq flags w payload := by
  simp only [Tcb.header, Header.mk.injEq] at h
  simp only [Tcb.params, h]

theorem window_congr (h : t.header = t'.header) (site : Site) : site.window t = site.window t' := by
  simp only [Tcb.header, Header.mk.injEq] at h
  have hest : encodeEstablishedWindow t = encodeEstablishedWindow t' := by
    simp only [encodeEstablishedWindow, Tcb.effectiveMss, h]
    rfl
  cases site <;> simp only [Site.window, hest, h]

theorem BuiltFrom.congr (hf : BuiltFrom t f) (h : t.header = t'.header) : BuiltFrom t' f := by
  obtain ⟨seq, payload, hp, hload⟩ := hf
  exact ⟨seq, payload, by rw [hp, window_congr h, params_congr h], hload⟩

theorem Built.congr {out : List Emitted} (hb : Built t out) (h : t.header = t'.header) : Built t' out :=
  fun f hf => (hb f hf).congr h

theorem built_nil (t : Tcb) : Built t [] := by
  intro f hf; cases hf

theorem built_singleton (h : BuiltFrom t f) : Built t [f] := by
  intro g hg
  rw [List.mem_singleton.1 hg]
  exact h

theorem built_append {out out' : List Emitted} (h : Built t out) (h' : Built t out') : Built t (out ++ out') := by
  intro f hf
  rcases List.mem_append.1 hf with hf | hf
  · exact h f hf
  · exact h' f hf

theorem built_ack (t : Tcb) : Built t [⟨.ack, t.buildAckForTcb⟩] := built_singleton ⟨t.sndNxt, [], rfl, fun _ => rfl⟩

/-! ## Segments -/

theorem built_inOrder (clock : Instant) (seg : ParsedTcpSegment) (t : Tcb) :
    Built (inOrder clock seg t).1 (inOrder clock seg t).2 := by
  unfold inOrder
  dsimp only
  split_ifs
  · exact built_ack _
  · exact built_nil _
  · exact built_nil _

theorem built_establishedData (clock : Instant) (seg : ParsedTcpSegment) (t : Tcb) :
    Built (establishedData clock seg t).1 (establishedData clock seg t).2 := by
  unfold establishedData
  dsimp only
  split_ifs
  · exact built_nil _
  · exact built_inOrder _ _ _
  · exact built_ack _
  · exact built_nil _

theorem built_handleEstablished (clock : Instant) (seg : ParsedTcpSegment) (t : Tcb) :
    Built (handleEstablished clock seg t).1 (handleEstablished clock seg t).2 := by
  unfold handleEstablished establishedFin
  split_ifs
  · exact built_ack _
  · exact built_establishedData _ _ _

/-- What a segment makes a TCB send is built from it. -/
theorem built_segmentTcb (clock : Instant) (seg : ParsedTcpSegment) (t : Tcb) :
    Built ((segmentTcb clock seg t).after t) (segmentTcb clock seg t).out := by
  generalize h : segmentTcb clock seg t = eff
  cases segmentTcb_cases h with
  | ignored | refused | embryoReset | reset | lastAcked => exact built_nil t
  | challenged => exact built_singleton ⟨t.sndNxt, [], rfl, fun _ => rfl⟩
  | synAcked => exact built_singleton ⟨t.sndNxt, [], rfl, fun _ => rfl⟩
  | established => exact built_handleEstablished clock seg t
  | finWait1Both | finWait1Fin | finWait2Fin | finWait2Data | finAgain => exact built_ack _
  | accepted | finWait1Acked | finWait1Open | closeWait | closingAcked => exact built_nil _

/-! ## Commands and ticks -/

theorem built_retransmitFrames (t : Tcb) : Built t (retransmitFrames t) := by
  unfold retransmitFrames
  cases t.retransmitQueue.head? with
  | none => exact built_nil t
  | some entry =>
    dsimp only
    split_ifs
    · exact built_nil t
    · exact built_singleton ⟨entry.seq, _, rfl, nofun⟩

theorem Deed.built (h : Deed now clock t out t') : t'.header = t.header ∧ Built t' out := by
  cases h with
  | ack => exact ⟨rfl, built_ack _⟩
  | retransmit => exact ⟨rfl, built_retransmitFrames _⟩
  | probe => exact ⟨rfl, built_singleton ⟨_, [0], rfl, nofun⟩⟩
  | keepalive => exact ⟨rfl, built_singleton ⟨_, [], rfl, fun _ => rfl⟩⟩
  | send => exact ⟨rfl, built_singleton ⟨t.sndNxt, _, rfl, nofun⟩⟩
  | fin | lastFin => exact ⟨rfl, built_singleton ⟨t.sndNxt, [], rfl, fun _ => rfl⟩⟩
  | eof | pend | fill | arm => exact ⟨rfl, built_nil _⟩

theorem Deeds.built (h : Deeds now clock t out t') : t'.header = t.header ∧ Built t' out := by
  induction h with
  | nil t => exact ⟨rfl, built_nil t⟩
  | cons hd _ ih =>
    -- the deeds that follow leave the header alone
    obtain ⟨hsame, hrest⟩ := ih
    exact ⟨hsame.trans hd.built.1, built_append (hd.built.2.congr hsame.symm) hrest⟩

/-- **Frames of a call.** Every frame a call builds carries the header of the TCB that the call leaves. -/
theorem builtFrom_call (cfg : EngineConfig) (ev : ConnEvent) (t : Tcb) {f : Emitted} (hf : f ∈ (callTcb cfg ev t).out) :
    BuiltFrom ((callTcb cfg ev t).after t) f := by
  unfold Effect.after
  cases hout : (callTcb cfg ev t).outcome with
  | live t' =>
    have hbuilt : Built t' (callTcb cfg ev t).out := by
      cases ev with
      | write | read | setOption => exact built_nil _
      | segment clock seg =>
        have hbuilt := built_segmentTcb clock seg t
        rwa [Effect.after, show (segmentTcb clock seg t).outcome = .live t' from hout] at hbuilt
      | tick | shutdown | close =>
        obtain ⟨_, _, hd⟩ := deeds_call rfl hout
        exact hd.built.2
    exact hbuilt f hf
  | removed h =>
    rcases (removed_call hout).2 with hnil | ⟨clock, rfl⟩
    · rw [hnil] at hf
      cases hf
    · rw [List.mem_singleton.1 hf]
      exact ⟨t.sndNxt, [], rfl, fun _ => rfl⟩

/-! ## Which sites a call reaches -/

theorem site_inOrder (hf : f ∈ (inOrder clock seg t).2) : f.site = .ack := by
  unfold inOrder at hf
  dsimp only at hf
  split_ifs at hf
  · rw [List.mem_singleton.1 hf]
  · cases hf
  · cases hf

theorem site_establishedData (hf : f ∈ (establishedData clock seg t).2) : f.site = .ack := by
  unfold establishedData at hf
  dsimp only at hf
  split_ifs at hf
  · cases hf
  · exact site_inOrder hf
  · rw [List.mem_singleton.1 hf]
  · cases hf

theorem site_handleEstablished (hf : f ∈ (handleEstablished clock seg t).2) : f.site = .ack := by
  unfold handleEstablished establishedFin at hf
  dsimp only at hf
  split_ifs at hf
  · rw [List.mem_singleton.1 hf]
  · exact site_establishedData hf

structure AnswersSyn (seg : ParsedTcpSegment) (t : Tcb) : Prop where
  state : t.state = .synSent
  notRst : seg.flags.contains .rst = false
  syn : seg.flags.contains .syn = true
  flag : seg.flags.contains .ack = true
  ack : seg.ack = t.iss.add 1

theorem site_segmentTcb (hf : f ∈ (segmentTcb clock seg t).out) :
    f.site = .ack ∨ f.site = .challengeAck ∨ (f = handshakeAck (synAckTcb seg t) ∧ t.state = .synSent) := by
  generalize h : segmentTcb clock seg t = eff at hf
  cases segmentTcb_cases h with
  | established => exact Or.inl (site_handleEstablished hf)
  | challenged => exact Or.inr (Or.inl (by rw [List.mem_singleton.1 hf]))
  | synAcked hst => exact Or.inr (Or.inr ⟨List.mem_singleton.1 hf, hst⟩)
  | finWait1Both | finWait1Fin | finWait2Fin | finWait2Data | finAgain => exact Or.inl (by rw [List.mem_singleton.1 hf])
  | ignored | refused | embryoReset | reset | lastAcked | accepted | finWait1Acked | finWait1Open | closeWait
  | closingAcked => cases hf

theorem segmentTcb_answersSyn (h : AnswersSyn seg t) :
    segmentTcb clock seg t =
      { outcome := .live (synAckTcb seg t)
        out := [handshakeAck (synAckTcb seg t)]
        signal := .connected (.ok t.key) } := by
  simp [segmentTcb, handleExistingTcb, handleSynAck, h.state, h.notRst, h.syn, h.flag, h.ack]

theorem answersSyn_of_mem (hst : t.state = .synSent) (hf : f ∈ (segmentTcb clock seg t).out) : AnswersSyn seg t := by
  unfold segmentTcb handleRst handleExistingTcb handleSynAck at hf
  rw [hst] at hf
  dsimp only at hf
  split_ifs at hf with hrst hack hflags hne
  · cases hf
  · cases hf
  · cases hf
  · rw [Bool.and_eq_true] at hflags
    exact ⟨hst, by simpa using hrst, hflags.1, hflags.2, not_not.1 hne⟩
  · cases hf

theorem site_sendFin (hf : f ∈ (sendFin clock t).2) : f.site = .fin := by
  unfold sendFin at hf
  dsimp only at hf
  split at hf
  · rw [List.mem_singleton.1 hf]; rfl
  · rw [List.mem_singleton.1 hf]; rfl
  · cases hf

theorem site_handleShutdown {how : Shutdown} (hf : f ∈ (handleShutdown clock how t).2) : f.site = .fin := by
  generalize h : handleShutdown clock how t = r at hf
  cases handleShutdown_cases h with
  | ignored | eof | waits => cases hf
  | sends => exact site_sendFin hf

theorem site_flushFin (hf : f ∈ (flushFin clock t).2) : f.site = .fin := by
  unfold flushFin at hf
  split_ifs at hf
  · exact site_sendFin hf
  · cases hf

theorem site_segmentLoop (now : Instant) (fuel : Nat) : ∀ {t : Tcb} {f : Emitted},
    f ∈ (segmentLoop now fuel t).2 → f.site = .data := by
  induction fuel with
  | zero => intro t f hf; cases hf
  | succ fuel ih =>
    intro t f hf
    rw [segmentLoop] at hf
    split_ifs at hf
    · cases hf
    · rcases List.mem_cons.1 hf with rfl | hf
      · rfl
      · exact ih hf

theorem site_tickDelayedAck (hf : f ∈ (tickDelayedAck now t).2) : f.site = .ack := by
  unfold tickDelayedAck at hf
  split_ifs at hf
  · rw [List.mem_singleton.1 hf]
  · cases hf

theorem site_retransmitFrames (hf : f ∈ retransmitFrames t) : f.site = .retransmit := by
  unfold retransmitFrames at hf
  split at hf
  · dsimp only at hf
    split_ifs at hf
    · cases hf
    · rw [List.mem_singleton.1 hf]
  · cases hf

/-- Where a frame of a tick comes from: the delayed ACK and the transmit drain, or one of the timers. -/
inductive TickFrame (now : Instant) (t : Tcb) (f : Emitted) : Prop
  | sent (h : f.site = .ack ∨ (t.state = .established ∨ t.state = .closeWait) ∧ (f.site = .data ∨ f.site = .fin))
  | retransmitted (hdue : rtoDue now t = true) (h : f ∈ retransmitFrames (rtoBackoff now t))
  | probed (hexp : expired now t = false) (hdue : rtoDue now t = false) (hpersist : persistDue now t = true)
      (h : f ∈ (tickPersist now t).2)
  | keepalive (h : f.site = .keepalive)

/-- Every frame of a tick is of one of its branches. -/
theorem tickFrame_of_mem (hf : f ∈ (onTickTcb cfg now clock t).out) : TickFrame now t f := by
  have hexp : expired now t = false := by
    cases hexp : expired now t with
    | false => rfl
    | true => rw [onTickTcb, if_pos hexp] at hf; cases hf
  generalize h : onTickTcb cfg now clock t = eff at hf
  cases onTickTcb_cases h with
  | expired | rtoAborted | keepaliveAborted => cases hf
  | retransmitted _ hdue => exact .retransmitted hdue hf
  | probed hdue hpersist => exact .probed hexp hdue hpersist hf
  | keepaliveProbed => exact .keepalive (by rw [List.mem_singleton.1 hf])
  | quiet => exact .sent (Or.inl (site_tickDelayedAck hf))
  | drained hst =>
    dsimp only [Effect.keep, txDrain] at hf
    rcases List.mem_append.1 hf with hf | hf
    · exact .sent (Or.inl (site_tickDelayedAck hf))
    · rcases List.mem_append.1 hf with hf | hf
      · exact .sent (Or.inr ⟨hst, Or.inl (site_segmentLoop now _ hf)⟩)
      · exact .sent (Or.inr ⟨hst, Or.inr (site_flushFin hf)⟩)

def Site.ofTick : Site → Bool
  | ack | data | retransmit | probe | keepalive | fin => true
  | syn | synAck | handshakeAck | challengeAck | rst | rstReply => false

theorem site_onTickTcb (hf : f ∈ (onTickTcb cfg now clock t).out) : f.site.ofTick = true := by
  cases tickFrame_of_mem hf with
  | sent h => rcases h with h | ⟨-, h | h⟩ <;> rw [h] <;> rfl
  | retransmitted _ h => rw [site_retransmitFrames h]; rfl
  | probed _ _ _ h => rw [List.mem_singleton.1 h]; rfl
  | keepalive h => rw [h]; rfl

theorem site_handleClose {linger : Option Duration} (hf : f ∈ (handleClose clock linger t).out) :
    f.site = .rst ∨ f.site = .fin := by
  unfold handleClose at hf
  split_ifs at hf
  · exact Or.inl (by rw [List.mem_singleton.1 hf])
  · exact Or.inr (site_handleShutdown hf)

/-! ## What a live connection keeps -/

/-- The key a TCB was made with, the error its handle has latched, and what the application has written. -/
structure Identity where
  key : FourTuple
  error : Option TcpError
  written : List UInt8

def Tcb.identity (t : Tcb) : Identity := ⟨t.key, t.handle.error, t.handle.txRing.stream⟩

theorem identity_drainTxRing (t : Tcb) : (drainTxRing t).identity = t.identity := by
  have h := (t.handle.txRing.drain_eq t.sendBuf).1
  simp only [Tcb.identity, drainTxRing, h]

theorem identity_handleEstablished (clock : Instant) (seg : ParsedTcpSegment) (t : Tcb) :
    (handleEstablished clock seg t).1.identity = t.identity :=
  field_handleEstablished clock seg t Tcb.identity fun _ _ => rfl

theorem identity_segmentTcb (h : (segmentTcb clock seg t).outcome = .live t') : t'.identity = t.identity :=
  field_segmentTcb h Tcb.identity (fun _ _ => rfl) (fun _ => rfl) fun _ _ => identity_handleEstablished clock seg t

theorem Deed.identity (h : Deed now clock t out t') : t'.identity = t.identity := by
  cases h with
  | fill => exact identity_drainTxRing t
  | _ => rfl

theorem identity_call (h : (callTcb cfg ev t).outcome = .live t') :
    t'.identity = Tcb.identity { t with handle := ev.onHandle t.handle } := by
  cases ev with
  | write | read => cases h; rfl
  | segment clock seg => exact identity_segmentTcb h
  | tick | shutdown | close =>
    obtain ⟨_, _, hd⟩ := deeds_call rfl h
    exact hd.field Tcb.identity Deed.identity
  | setOption option =>
    cases h
    exact field_handleSetOption option t Tcb.identity fun _ _ => rfl

theorem key_call (h : (callTcb cfg ev t).outcome = .live t') :
    t'.key = t.key := congrArg Identity.key (identity_call h)

theorem error_call (h : (callTcb cfg ev t).outcome = .live t') : t'.handle.error = t.handle.error := by
  refine (congrArg Identity.error (identity_call h)).trans ?_
  cases ev <;> rfl

/-- A TCB that is there has its first key and no error. -/
theorem identity_run {o : Opening} {es : List ConnEvent} (h : (connRun cfg o es).1 = .live t) :
    t.key = o.key ∧ t.handle.error = none := by
  refine live_invariant (P := fun t => t.key = o.key ∧ t.handle.error = none) (fun u ev t' _ hI hlive => ?_)
    (along_true _ es) ?_ h
  · exact ⟨(key_call hlive).trans hI.1, (error_call hlive).trans hI.2⟩
  · cases o <;> exact ⟨rfl, rfl⟩

theorem key_after : ((callTcb cfg ev t).after t).key = t.key := by
  unfold Effect.after
  cases h : (callTcb cfg ev t).outcome with
  | live t' => exact key_call h
  | removed => rfl

end DpdkStdlib.Tcp
