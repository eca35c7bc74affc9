import DpdkStdlib.Tcp.Frames

/-!
# Inbound segments of an existing connection (`engine.rs`, `handle_existing_tcb` and `handle_rst`)

Each handler of the source looks its TCB up by key and changes only that TCB; here it is a function of the TCB.  An
`Effect` says what became of the TCB, what frames were built, and what the engine has to tell the application
besides: the answer to a pending connect, or that a passive handshake completed.

`clock` is the reading of the engine's injected clock during the call.
-/

namespace DpdkStdlib.Tcp
open DpdkStdlib.Lib

variable {t t' : Tcb} {seg : ParsedTcpSegment} {clock : Instant}

def timeWaitDuration : Duration := fromSecs 120
def finWait2Timeout : Duration := fromSecs 60
def delayedAckTimeout : Duration := fromMillis 200

/-- A TCB after a call: still in the map, or removed with its handle left to the application. -/
inductive Outcome
  | live (t : Tcb)
  | removed (h : ConnectionHandle)

inductive Signal
  | quiet
  | connected (result : Except TcpError FourTuple)
  | accepted

/-- What a handler of a segment leaves: the TCB, frames, and what the engine is told. -/
structure Effect where
  outcome : Outcome
  out : List Emitted := []
  signal : Signal := .quiet

def Effect.keep (r : Tcb × List Emitted) : Effect := { outcome := .live r.1, out := r.2 }

theorem Effect.live_keep {r : Tcb × List Emitted} (h : (Effect.keep r).outcome = .live t') : t' = r.1 :=
  (Outcome.live.inj h).symm

def Outcome.handle : Outcome → ConnectionHandle
  | .live t => t.handle
  | .removed h => h

/-! ## Handshake -/

def synAckTcb (seg : ParsedTcpSegment) (t : Tcb) : Tcb :=
  let peerMss := seg.options.mss.getD defaultPeerMss
  let peerWscale := seg.options.windowScale.getD 0
  { t.setState .established with
    sndUna := seg.ack
    rcvNxt := seg.seq.add 1
    irs := seg.seq
    rtoDeadline := none
    peerMss := peerMss
    sndScale := peerWscale
    sndWnd := shl32 seg.window.toNat peerWscale
    congestion := .new (min t.localMss peerMss) }

def handshakeAck (t : Tcb) : Emitted := ⟨.handshakeAck, t.params t.sndNxt .ack (encodeWindow t.rcvWnd t.rcvScale) []⟩

/-- `handle_syn_ack`: on to ESTABLISHED if our SYN is acknowledged. -/
def handleSynAck (seg : ParsedTcpSegment) (t : Tcb) : Effect :=
  if seg.ack ≠ t.iss.add 1 then .keep (t, [])
  else
    { outcome := .live (synAckTcb seg t)
      out := [handshakeAck (synAckTcb seg t)]
      signal := .connected (.ok t.key) }

def acceptedTcb (seg : ParsedTcpSegment) (t : Tcb) : Tcb :=
  { t.setState .established with sndUna := seg.ack, rtoDeadline := none }

/-- `handle_ack_for_syn_received`: the passive open is complete. -/
def handleAckForSynReceived (seg : ParsedTcpSegment) (t : Tcb) : Effect :=
  if seg.ack ≠ t.iss.add 1 then .keep (t, [])
  else { outcome := .live (acceptedTcb seg t), signal := .accepted }

/-! ## Acknowledgments -/

/-- Is the acknowledgment in `(snd_una, snd_nxt]`? -/
def ackAcceptable (seg : ParsedTcpSegment) (t : Tcb) : Bool := seg.ack.gt t.sndUna && seg.ack.le t.sndNxt

/-- The entries whose last byte is not acknowledged by `una`. -/
def retainUnacked (una : SeqNum) (queue : List RetransmitEntry) : List RetransmitEntry :=
  queue.filter fun e => (e.seq.add e.len).gt una

/-- An acceptable ACK in ESTABLISHED: entries are freed, `send_buf` is drained, and the offsets move. -/
def ackAndDrain (seg : ParsedTcpSegment) (t : Tcb) : Tcb :=
  let bytesAcked := seg.ack.diff t.sndUna
  let drainN := min bytesAcked t.sendBuf.length
  { t with
    sndUna := seg.ack
    retransmitQueue := (retainUnacked seg.ack t.retransmitQueue).map fun e => { e with offset := e.offset - drainN }
    sendBuf := t.sendBuf.drop drainN
    hasUnackedData := if seg.ack = t.sndNxt then false else t.hasUnackedData
    congestion := t.congestion.onAck bytesAcked t.effectiveMss }

/-- An acceptable acknowledgment in the closing states: entries are freed, `send_buf` stays. -/
def ackAndPrune (seg : ParsedTcpSegment) (t : Tcb) : Tcb :=
  { t with
    sndUna := seg.ack
    retransmitQueue := retainUnacked seg.ack t.retransmitQueue
    congestion := t.congestion.onAck (seg.ack.diff t.sndUna) t.effectiveMss }

/-- The test that lets a segment set the send window, with the source's precedence of `&&` over `||`. -/
def windowUpdates (seg : ParsedTcpSegment) (t : Tcb) : Bool :=
  seg.seq.gt t.sndWl1 ||
    ((seg.seq == t.sndWl1 && seg.ack.le t.sndNxt && seg.ack.gt t.sndWl2) || seg.ack == t.sndWl2)

/-- The window update of ESTABLISHED, with the marks of the last one. -/
def updateSendWindow (seg : ParsedTcpSegment) (t : Tcb) : Tcb :=
  if windowUpdates seg t then
    { t with sndWnd := shl32 seg.window.toNat t.sndScale, sndWl1 := seg.seq, sndWl2 := seg.ack }
  else t

def establishedAck (seg : ParsedTcpSegment) (t : Tcb) : Tcb :=
  if seg.flags.contains .ack then
    updateSendWindow seg (if ackAcceptable seg t then ackAndDrain seg t else t)
  else t

/-- The acknowledgment part of FIN_WAIT_1 and CLOSE_WAIT. -/
def closingAck (seg : ParsedTcpSegment) (t : Tcb) : Tcb :=
  if seg.flags.contains .ack && ackAcceptable seg t then ackAndPrune seg t else t

/-! ## Data -/

theorem sub_right_injective (w : BitVec 32) : Function.Injective fun k : BitVec 32 => k - w := fun a b h => by
  have := congrArg (· + w) h
  simpa using this

/-- Move every key of the reorder buffer down by `w`, wrapping as `u32` subtraction does. -/
def rebase (buf : AssocMap (BitVec 32) (List UInt8)) (w : Nat) : AssocMap (BitVec 32) (List UInt8) :=
  buf.mapKeys (fun k => k - BitVec.ofNat 32 w) (sub_right_injective _)

/-- What in-order delivery changes: ring, `rcv_nxt`, reorder buffer, and how many buffered segments it took. -/
structure Delivery where
  ring : SpscByteRing
  rcvNxt : SeqNum
  buffer : AssocMap (BitVec 32) (List UInt8)
  drained : Nat

/-- `while let Some(data) = rebased.remove(&0)`: a turn takes one entry, so the size of the buffer bounds the turns. -/
def drainReorder : Nat → Delivery → Delivery
  | 0, d => d
  | fuel + 1, d =>
    match d.buffer.get? 0 with
    | none => d
    | some data =>
      let w := d.ring.write data
      drainReorder fuel
        { ring := w.1, rcvNxt := d.rcvNxt.add w.2, buffer := rebase (d.buffer.erase 0) w.2, drained := d.drained + 1 }

/-- Data at `rcv_nxt` goes to the ring, and what is held back behind it. -/
def deliver (payload : List UInt8) (t : Tcb) : Delivery :=
  let w := t.handle.rxRing.write payload
  drainReorder t.reorderBuffer.size
    { ring := w.1, rcvNxt := t.rcvNxt.add w.2, buffer := rebase t.reorderBuffer w.2, drained := 0 }

/-- In-order payload: deliver, then acknowledge every other segment or arm the delayed ACK. -/
def inOrder (clock : Instant) (seg : ParsedTcpSegment) (t : Tcb) : Tcb × List Emitted :=
  let d := deliver seg.payload t
  let t := { t with
    handle := { t.handle with rxRing := d.ring }
    rcvNxt := d.rcvNxt
    reorderBuffer := d.buffer
    segmentsSinceAck := t.segmentsSinceAck + (1 + d.drained) }
  if t.segmentsSinceAck ≥ 2 then
    let t := { t with segmentsSinceAck := 0, delayedAckDeadline := none }
    (t, [⟨.ack, t.buildAckForTcb⟩])
  else if t.delayedAckDeadline.isNone then
    ({ t with delayedAckDeadline := some (clock + delayedAckTimeout) }, [])
  else (t, [])

/-- A segment ahead of `rcv_nxt`: buffer it and send a duplicate ACK. -/
def outOfOrder (seg : ParsedTcpSegment) (t : Tcb) : Tcb × List Emitted :=
  let t := { t with
    reorderBuffer := t.reorderBuffer.insert (seg.seq.val - t.rcvNxt.val) seg.payload
    segmentsSinceAck := 0
    delayedAckDeadline := none }
  (t, [⟨.ack, t.buildAckForTcb⟩])

def noteData (clock : Instant) (t : Tcb) : Tcb :=
  { t with
    lastDataReceived := some clock
    keepaliveProbesSent := 0
    keepaliveDeadline := match t.keepalive with
      | some ka => some (clock + ka.idle)
      | none => t.keepaliveDeadline }

/-- The data part of ESTABLISHED: old, in order, or held back. -/
def establishedData (clock : Instant) (seg : ParsedTcpSegment) (t : Tcb) : Tcb × List Emitted :=
  if seg.payload.isEmpty then (t, [])
  else
    let t := noteData clock t
    if seg.seq = t.rcvNxt then inOrder clock seg t
    else if seg.seq.gt t.rcvNxt then outOfOrder seg t
    else (t, [])

/-! ## FIN -/

def finInOrder (seg : ParsedTcpSegment) (t : Tcb) : Bool :=
  seg.flags.contains .fin && seg.seq.add seg.payload.length == t.rcvNxt

/-- Step over the peer's FIN: it takes one sequence number and ends the stream. -/
def consumeFin (state : TcpState) (t : Tcb) : Tcb :=
  { t with state, rcvNxt := t.rcvNxt.add 1, handle := t.handle.setEof.setState state }

/-- The FIN part of ESTABLISHED: on to CLOSE_WAIT. -/
def establishedFin (seg : ParsedTcpSegment) (r : Tcb × List Emitted) : Tcb × List Emitted :=
  if finInOrder seg r.1 then
    let t := { consumeFin .closeWait r.1 with segmentsSinceAck := 0, delayedAckDeadline := none }
    (t, [⟨.ack, t.buildAckForTcb⟩])
  else r

/-! ## The handlers -/

def handleEstablished (clock : Instant) (seg : ParsedTcpSegment) (t : Tcb) : Tcb × List Emitted :=
  establishedFin seg (establishedData clock seg (establishedAck seg t))

/-- Payload delivery of FIN_WAIT_1 and FIN_WAIT_2: the reorder buffer is left alone. -/
def closingData (seg : ParsedTcpSegment) (t : Tcb) : Tcb :=
  let w := t.handle.rxRing.write seg.payload
  { t with handle := { t.handle with rxRing := w.1 }, rcvNxt := t.rcvNxt.add w.2 }

def dataInOrder (seg : ParsedTcpSegment) (t : Tcb) : Bool := !seg.payload.isEmpty && seg.seq == t.rcvNxt

def takeData (seg : ParsedTcpSegment) (t : Tcb) : Tcb := if dataInOrder seg t then closingData seg t else t

def finToTimeWait (clock : Instant) (t : Tcb) : Tcb :=
  { consumeFin .timeWait t with timeWaitDeadline := some (clock + timeWaitDuration) }

def toFinWait2 (clock : Instant) (t : Tcb) : Tcb :=
  { t.setState .finWait2 with finWait2Deadline := some (clock + finWait2Timeout), rtoDeadline := none }

/-- `handle_fin_wait_1`: on to FIN_WAIT_2, CLOSING or TIME_WAIT. -/
def handleFinWait1 (clock : Instant) (seg : ParsedTcpSegment) (t : Tcb) : Tcb × List Emitted :=
  let ourFinAcked := seg.flags.contains .ack && seg.ack == t.sndNxt
  let t := takeData seg (closingAck seg t)
  if ourFinAcked && finInOrder seg t then
    let t := finToTimeWait clock t
    (t, [⟨.ack, t.buildAckForTcb⟩])
  else if ourFinAcked then (toFinWait2 clock t, [])
  else if finInOrder seg t then
    let t := consumeFin .closing t
    (t, [⟨.ack, t.buildAckForTcb⟩])
  else (t, [])

/-- `handle_fin_wait_2`: on to TIME_WAIT by the FIN of the peer. -/
def handleFinWait2 (clock : Instant) (seg : ParsedTcpSegment) (t : Tcb) : Tcb × List Emitted :=
  let acks (t : Tcb) : List Emitted := [⟨.ack, t.buildAckForTcb⟩]
  let out := if dataInOrder seg t then acks (takeData seg t) else []
  let t := takeData seg t
  if finInOrder seg t then
    let t := { finToTimeWait clock t with finWait2Deadline := none }
    (t, acks t)
  else (t, out)

def handleCloseWait (seg : ParsedTcpSegment) (t : Tcb) : Tcb × List Emitted := (closingAck seg t, [])

/-- `handle_last_ack`: the ACK of our FIN removes the TCB. -/
def handleLastAck (seg : ParsedTcpSegment) (t : Tcb) : Effect :=
  if seg.flags.contains .ack && seg.ack == t.sndNxt then
    { outcome := .removed (t.handle.setState .closed) }
  else .keep (t, [])

def closingToTimeWait (clock : Instant) (t : Tcb) : Tcb :=
  { t.setState .timeWait with timeWaitDeadline := some (clock + timeWaitDuration), rtoDeadline := none }

/-- `handle_closing`: on to TIME_WAIT by the ACK of our FIN. -/
def handleClosing (clock : Instant) (seg : ParsedTcpSegment) (t : Tcb) : Tcb × List Emitted :=
  if seg.flags.contains .ack && seg.ack == t.sndNxt then (closingToTimeWait clock t, []) else (t, [])

def restartTimeWait (clock : Instant) (t : Tcb) : Tcb := { t with timeWaitDeadline := some (clock + timeWaitDuration) }

def handleTimeWait (clock : Instant) (seg : ParsedTcpSegment) (t : Tcb) : Tcb × List Emitted :=
  if seg.flags.contains .fin then
    let t := restartTimeWait clock t
    (t, [⟨.ack, t.buildAckForTcb⟩])
  else (t, [])

def handleExistingTcb (clock : Instant) (seg : ParsedTcpSegment) (t : Tcb) : Effect :=
  match t.state with
  | .synSent =>
    if seg.flags.contains .syn && seg.flags.contains .ack then handleSynAck seg t else .keep (t, [])
  | .synReceived =>
    if seg.flags.contains .ack && !seg.flags.contains .syn then handleAckForSynReceived seg t else .keep (t, [])
  | .established => .keep (handleEstablished clock seg t)
  | .finWait1 => .keep (handleFinWait1 clock seg t)
  | .finWait2 => .keep (handleFinWait2 clock seg t)
  | .closeWait => .keep (handleCloseWait seg t)
  | .lastAck => handleLastAck seg t
  | .closing => .keep (handleClosing clock seg t)
  | .timeWait => .keep (handleTimeWait clock seg t)
  | .closed | .listen => .keep (t, [])

/-! ## RST -/

def handleRstRfc5961 (seg : ParsedTcpSegment) (t : Tcb) : Effect :=
  if seg.seq = t.rcvNxt then
    { outcome := .removed (((t.handle.latchError .connectionReset).setState .closed).setEof) }
  else if isInWindow seg.seq t.rcvNxt t.rcvWnd then .keep (t, [⟨.challengeAck, t.buildAckForTcb⟩])
  else .keep (t, [])

def handleRst (seg : ParsedTcpSegment) (t : Tcb) : Effect :=
  match t.state with
  | .synSent =>
    if seg.flags.contains .ack && seg.ack == t.iss.add 1 then
      { outcome := .removed ((t.handle.latchError .connectionRefused).setState .closed)
        signal := .connected (.error .connectionRefused) }
    else .keep (t, [])
  | .synReceived =>
    if seg.seq = t.rcvNxt then
      { outcome := .removed ((t.handle.setState .closed).latchError .connectionReset) }
    else .keep (t, [])
  | .established | .finWait1 | .finWait2 | .closeWait | .closing | .lastAck | .timeWait => handleRstRfc5961 seg t
  | .closed | .listen => .keep (t, [])

def segmentTcb (clock : Instant) (seg : ParsedTcpSegment) (t : Tcb) : Effect :=
  if seg.flags.contains .rst then handleRst seg t else handleExistingTcb clock seg t

/-! ## What a segment can do -/

/-- The states in which both ends know each other's sequence numbers. -/
def TcpState.synchronised : TcpState → Bool
  | .established | .finWait1 | .finWait2 | .closeWait | .closing | .lastAck | .timeWait => true
  | .closed | .listen | .synSent | .synReceived => false

def TcpState.early : TcpState → Bool
  | .synSent | .synReceived => true
  | .closed | .listen | .established | .finWait1 | .finWait2 | .closeWait | .closing | .lastAck | .timeWait => false

def finAcked (seg : ParsedTcpSegment) (t : Tcb) : Bool := seg.flags.contains .ack && seg.ack == t.sndNxt

/-- The effects an inbound segment can have on a TCB, with the conditions they have. -/
inductive SegmentCase (clock : Instant) (seg : ParsedTcpSegment) (t : Tcb) : Effect → Prop
  | ignored : SegmentCase clock seg t (.keep (t, []))
  | refused (hst : t.state = .synSent) : SegmentCase clock seg t
      { outcome := .removed ((t.handle.latchError .connectionRefused).setState .closed)
        signal := .connected (.error .connectionRefused) }
  | embryoReset (hst : t.state = .synReceived) : SegmentCase clock seg t
      { outcome := .removed ((t.handle.setState .closed).latchError .connectionReset) }
  | reset (hst : t.state.synchronised = true) : SegmentCase clock seg t
      { outcome := .removed (((t.handle.latchError .connectionReset).setState .closed).setEof) }
  | challenged (hst : t.state.synchronised = true) :
      SegmentCase clock seg t (.keep (t, [⟨.challengeAck, t.buildAckForTcb⟩]))
  | synAcked (hst : t.state = .synSent) (hsyn : seg.flags.contains .syn = true) (hflag : seg.flags.contains .ack = true)
      (hack : seg.ack = t.iss.add 1) : SegmentCase clock seg t
      { outcome := .live (synAckTcb seg t)
        out := [handshakeAck (synAckTcb seg t)]
        signal := .connected (.ok t.key) }
  | accepted (hst : t.state = .synReceived) (hflag : seg.flags.contains .ack = true) (hack : seg.ack = t.iss.add 1) :
      SegmentCase clock seg t { outcome := .live (acceptedTcb seg t), signal := .accepted }
  | established (hst : t.state = .established) : SegmentCase clock seg t (.keep (handleEstablished clock seg t))
  | finWait1Both (hst : t.state = .finWait1) (hacked : finAcked seg t = true)
      (hfin : finInOrder seg (takeData seg (closingAck seg t)) = true) : SegmentCase clock seg t
      (.keep (finToTimeWait clock (takeData seg (closingAck seg t)),
        [⟨.ack, (finToTimeWait clock (takeData seg (closingAck seg t))).buildAckForTcb⟩]))
  | finWait1Acked (hst : t.state = .finWait1) (hacked : finAcked seg t = true)
      (hfin : finInOrder seg (takeData seg (closingAck seg t)) = false) :
      SegmentCase clock seg t (.keep (toFinWait2 clock (takeData seg (closingAck seg t)), []))
  | finWait1Fin (hst : t.state = .finWait1) (hacked : finAcked seg t = false)
      (hfin : finInOrder seg (takeData seg (closingAck seg t)) = true) : SegmentCase clock seg t
      (.keep (consumeFin .closing (takeData seg (closingAck seg t)),
        [⟨.ack, (consumeFin .closing (takeData seg (closingAck seg t))).buildAckForTcb⟩]))
  | finWait1Open (hst : t.state = .finWait1) (hacked : finAcked seg t = false) :
      SegmentCase clock seg t (.keep (takeData seg (closingAck seg t), []))
  | finWait2Fin (hst : t.state = .finWait2) (hfin : finInOrder seg (takeData seg t) = true) : SegmentCase clock seg t
      (.keep ({ finToTimeWait clock (takeData seg t) with finWait2Deadline := none },
        [⟨.ack, Tcb.buildAckForTcb { finToTimeWait clock (takeData seg t) with finWait2Deadline := none }⟩]))
  | finWait2Data (hst : t.state = .finWait2) (hdata : dataInOrder seg t = true) :
      SegmentCase clock seg t (.keep (takeData seg t, [⟨.ack, (takeData seg t).buildAckForTcb⟩]))
  | closeWait (hst : t.state = .closeWait) : SegmentCase clock seg t (.keep (closingAck seg t, []))
  | lastAcked (hst : t.state = .lastAck) (hacked : finAcked seg t = true) :
      SegmentCase clock seg t { outcome := .removed (t.handle.setState .closed) }
  | closingAcked (hst : t.state = .closing) (hacked : finAcked seg t = true) :
      SegmentCase clock seg t (.keep (closingToTimeWait clock t, []))
  | finAgain (hst : t.state = .timeWait) :
      SegmentCase clock seg t (.keep (restartTimeWait clock t, [⟨.ack, (restartTimeWait clock t).buildAckForTcb⟩]))

theorem segmentCase_rst (clock : Instant) (seg : ParsedTcpSegment) (t : Tcb) :
    SegmentCase clock seg t (handleRst seg t) := by
  have hsync (h : t.state.synchronised = true) : SegmentCase clock seg t (handleRstRfc5961 seg t) := by
    unfold handleRstRfc5961
    split_ifs
    · exact .reset h
    · exact .challenged h
    · exact .ignored
  unfold handleRst
  cases hst : t.state with
  | synSent =>
    dsimp only
    split_ifs
    · exact .refused hst
    · exact .ignored
  | synReceived =>
    dsimp only
    split_ifs
    · exact .embryoReset hst
    · exact .ignored
  | closed | listen => exact .ignored
  | _ => exact hsync (by rw [hst]; rfl)

theorem segmentCase_finWait1 (clock : Instant) (seg : ParsedTcpSegment) (t : Tcb) (hst : t.state = .finWait1) :
    SegmentCase clock seg t (.keep (handleFinWait1 clock seg t)) := by
  unfold handleFinWait1
  cases hacked : finAcked seg t <;> cases hfin : finInOrder seg (takeData seg (closingAck seg t)) <;>
    unfold finAcked at hacked <;> simp only [hacked, hfin, Bool.false_and, Bool.true_and, Bool.false_eq_true, if_true,
      if_false]
  · exact .finWait1Open hst hacked
  · exact .finWait1Fin hst hacked hfin
  · exact .finWait1Acked hst hacked hfin
  · exact .finWait1Both hst hacked hfin

theorem segmentCase_finWait2 (clock : Instant) (seg : ParsedTcpSegment) (t : Tcb) (hst : t.state = .finWait2) :
    SegmentCase clock seg t (.keep (handleFinWait2 clock seg t)) := by
  unfold handleFinWait2
  dsimp only
  by_cases hfin : finInOrder seg (takeData seg t) = true
  · rw [if_pos hfin]
    exact .finWait2Fin hst hfin
  · rw [if_neg hfin]
    by_cases hdata : dataInOrder seg t = true
    · rw [if_pos hdata]
      exact .finWait2Data hst hdata
    · rw [if_neg hdata, takeData, if_neg hdata]
      exact .ignored

theorem segmentCase_existing (clock : Instant) (seg : ParsedTcpSegment) (t : Tcb) :
    SegmentCase clock seg t (handleExistingTcb clock seg t) := by
  unfold handleExistingTcb
  cases hst : t.state with
  | synSent =>
    dsimp only [handleSynAck]
    split_ifs with hflags hack
    · exact .ignored
    · rw [Bool.and_eq_true] at hflags
      exact .synAcked hst hflags.1 hflags.2 (not_not.1 hack)
    · exact .ignored
  | synReceived =>
    dsimp only [handleAckForSynReceived]
    split_ifs with hflags hack
    · exact .ignored
    · rw [Bool.and_eq_true] at hflags
      exact .accepted hst hflags.1 (not_not.1 hack)
    · exact .ignored
  | established => exact .established hst
  | finWait1 => exact segmentCase_finWait1 clock seg t hst
  | finWait2 => exact segmentCase_finWait2 clock seg t hst
  | closeWait => exact .closeWait hst
  | lastAck =>
    dsimp only [handleLastAck]
    split_ifs with hacked
    · exact .lastAcked hst hacked
    · exact .ignored
  | closing =>
    dsimp only [handleClosing]
    split_ifs with hacked
    · exact .closingAcked hst hacked
    · exact .ignored
  | timeWait =>
    dsimp only [handleTimeWait]
    split_ifs
    · exact .finAgain hst
    · exact .ignored
  | closed | listen => exact .ignored

/-- Whatever a segment does is one of the cases. -/
theorem segmentTcb_cases {eff : Effect} (h : segmentTcb clock seg t = eff) : SegmentCase clock seg t eff := by
  subst h
  unfold segmentTcb
  split_ifs
  · exact segmentCase_rst clock seg t
  · exact segmentCase_existing clock seg t

/-! ## What a segment leaves alone -/

/-- The fields that a segment can change in the states other than SYN_SENT and ESTABLISHED. -/
structure Reached where
  state : TcpState
  sndUna : SeqNum
  rcvNxt : SeqNum
  congestion : CongestionState
  rtoDeadline : Option Instant
  timeWaitDeadline : Option Instant
  finWait2Deadline : Option Instant
  retransmitQueue : List RetransmitEntry
  rxRing : SpscByteRing
  handleState : TcpState
  eof : Bool

def Tcb.withReached (t : Tcb) (r : Reached) : Tcb :=
  { t with
    state := r.state
    sndUna := r.sndUna
    rcvNxt := r.rcvNxt
    congestion := r.congestion
    rtoDeadline := r.rtoDeadline
    timeWaitDeadline := r.timeWaitDeadline
    finWait2Deadline := r.finWait2Deadline
    retransmitQueue := r.retransmitQueue
    handle := { t.handle with rxRing := r.rxRing, state := r.handleState, eof := r.eof } }

def Tcb.toReached (t : Tcb) : Reached where
  state := t.state
  sndUna := t.sndUna
  rcvNxt := t.rcvNxt
  congestion := t.congestion
  rtoDeadline := t.rtoDeadline
  timeWaitDeadline := t.timeWaitDeadline
  finWait2Deadline := t.finWait2Deadline
  retransmitQueue := t.retransmitQueue
  rxRing := t.handle.rxRing
  handleState := t.handle.state
  eof := t.handle.eof

theorem withReached_withReached (t : Tcb) (r r' : Reached) : (t.withReached r).withReached r' = t.withReached r' := rfl

def SameUnreached (t t' : Tcb) : Prop := t' = t.withReached t'.toReached

theorem SameUnreached.trans {t'' : Tcb} (h : SameUnreached t t') (h' : SameUnreached t' t'') :
    SameUnreached t t'' := by
  unfold SameUnreached at h h' ⊢
  rw [h, withReached_withReached] at h'
  exact h'

theorem SameUnreached.field {α : Sort*} (h : SameUnreached t t') (f : Tcb → α) (hf : ∀ t r, f (t.withReached r) = f t) :
    f t' = f t := by
  unfold SameUnreached at h
  rw [h, hf]

theorem sameUnreached_closingAck (seg : ParsedTcpSegment) (t : Tcb) : SameUnreached t (closingAck seg t) := by
  unfold closingAck
  split_ifs <;> exact rfl

theorem sameUnreached_takeData (seg : ParsedTcpSegment) (t : Tcb) : SameUnreached t (takeData seg t) := by
  unfold takeData
  split_ifs <;> exact rfl

theorem live_handleRst (h : (handleRst seg t).outcome = .live t') : t' = t := by
  unfold handleRst handleRstRfc5961 at h
  split at h <;> (try split_ifs at h) <;> cases h <;> rfl

theorem segmentTcb_established (clock : Instant) (hst : t.state = .established)
    (hrst : seg.flags.contains .rst = false) : segmentTcb clock seg t = .keep (handleEstablished clock seg t) := by
  rw [segmentTcb, if_neg (by rw [hrst]; exact Bool.false_ne_true), handleExistingTcb, hst]

theorem sameUnreached_segmentTcb (h : (segmentTcb clock seg t).outcome = .live t') (hsyn : t.state ≠ .synSent)
    (hest : t.state ≠ .established) : SameUnreached t t' := by
  have htake := sameUnreached_takeData seg t
  have hfw1 := (sameUnreached_closingAck seg t).trans (sameUnreached_takeData seg (closingAck seg t))
  generalize heff : segmentTcb clock seg t = eff at h
  cases segmentTcb_cases heff with
  | refused | embryoReset | reset | lastAcked => cases h
  | synAcked hst => exact absurd hst hsyn
  | established hst => exact absurd hst hest
  | ignored => cases h; exact rfl
  | challenged => cases h; exact rfl
  | accepted => cases h; exact rfl
  | finWait1Both => cases h; exact hfw1.trans rfl
  | finWait1Acked => cases h; exact hfw1.trans rfl
  | finWait1Fin => cases h; exact hfw1.trans rfl
  | finWait1Open => cases h; exact hfw1
  | finWait2Fin => cases h; exact htake.trans rfl
  | finWait2Data => cases h; exact htake
  | closeWait => cases h; exact sameUnreached_closingAck seg t
  | closingAcked => cases h; exact rfl
  | finAgain => cases h; exact rfl

theorem segmentTcb_synSent (h : (segmentTcb clock seg t).outcome = .live t') (hst : t.state = .synSent) :
    t' = t ∨ t' = synAckTcb seg t := by
  by_cases hrst : seg.flags.contains .rst = true
  · rw [segmentTcb, if_pos hrst] at h
    exact Or.inl (live_handleRst h)
  · rw [segmentTcb, if_neg hrst, handleExistingTcb, hst] at h
    dsimp only [handleSynAck] at h
    split_ifs at h <;> cases h
    · exact Or.inl rfl
    · exact Or.inr rfl
    · exact Or.inl rfl

theorem field_segmentTcb {α : Sort*} (h : (segmentTcb clock seg t).outcome = .live t') (f : Tcb → α)
    (hreached : ∀ t r, f (Tcb.withReached t r) = f t) (hsyn : t.state = .synSent → f (synAckTcb seg t) = f t)
    (hest : t.state = .established → seg.flags.contains .rst = false → f (handleEstablished clock seg t).1 = f t) :
    f t' = f t := by
  by_cases hst : t.state = .synSent
  · rcases segmentTcb_synSent h hst with rfl | rfl
    · rfl
    · exact hsyn hst
  by_cases hst' : t.state = .established
  · cases hrst : seg.flags.contains .rst with
    | true =>
      rw [segmentTcb, if_pos hrst] at h
      rw [live_handleRst h]
    | false =>
      rw [segmentTcb_established clock hst' hrst] at h
      rw [Effect.live_keep h]
      exact hest hst' hrst
  exact (sameUnreached_segmentTcb h hst hst').field f hreached

/-- The fields that the handler of ESTABLISHED changes. -/
structure Streamed where
  state : TcpState
  sndUna : SeqNum
  sndWnd : Nat
  sndWl1 : SeqNum
  sndWl2 : SeqNum
  rcvNxt : SeqNum
  congestion : CongestionState
  keepaliveDeadline : Option Instant
  delayedAckDeadline : Option Instant
  sendBuf : List UInt8
  retransmitQueue : List RetransmitEntry
  reorderBuffer : AssocMap (BitVec 32) (List UInt8)
  hasUnackedData : Bool
  keepaliveProbesSent : Nat
  lastDataReceived : Option Instant
  segmentsSinceAck : Nat
  rxRing : SpscByteRing
  handleState : TcpState
  eof : Bool

def Tcb.withStreamed (t : Tcb) (s : Streamed) : Tcb :=
  { t with
    state := s.state
    sndUna := s.sndUna
    sndWnd := s.sndWnd
    sndWl1 := s.sndWl1
    sndWl2 := s.sndWl2
    rcvNxt := s.rcvNxt
    congestion := s.congestion
    keepaliveDeadline := s.keepaliveDeadline
    delayedAckDeadline := s.delayedAckDeadline
    sendBuf := s.sendBuf
    retransmitQueue := s.retransmitQueue
    reorderBuffer := s.reorderBuffer
    hasUnackedData := s.hasUnackedData
    keepaliveProbesSent := s.keepaliveProbesSent
    lastDataReceived := s.lastDataReceived
    segmentsSinceAck := s.segmentsSinceAck
    handle := { t.handle with rxRing := s.rxRing, state := s.handleState, eof := s.eof } }

theorem field_handleEstablished {α : Sort*} (clock : Instant) (seg : ParsedTcpSegment) (t : Tcb) (f : Tcb → α)
    (hf : ∀ t s, f (Tcb.withStreamed t s) = f t) : f (handleEstablished clock seg t).1 = f t := by
  have hsame {u v : Tcb} (h : ∃ s, v = u.withStreamed s) : f v = f u := by
    obtain ⟨s, rfl⟩ := h
    exact hf u s
  have hack : f (establishedAck seg t) = f t := by
    unfold establishedAck updateSendWindow ackAndDrain
    split_ifs <;> exact hsame ⟨Streamed.mk .., rfl⟩
  have hdata (u : Tcb) : f (establishedData clock seg u).1 = f u := by
    unfold establishedData inOrder outOfOrder noteData
    dsimp only
    split_ifs <;> exact hsame ⟨Streamed.mk .., rfl⟩
  have hfin (r : Tcb × List Emitted) : f (establishedFin seg r).1 = f r.1 := by
    unfold establishedFin
    split_ifs
    · exact hsame ⟨Streamed.mk .., rfl⟩
    · rfl
  rw [handleEstablished, hfin, hdata, hack]

end DpdkStdlib.Tcp
