import DpdkStdlib.Tcp.Segment

/-!
# Timers, transmission and commands on one connection (`engine.rs`, `on_tick` and `on_command`)

`tickTcb` is the body of `on_tick`'s second pass for one TCB: the RTO, persist and keepalive branches leave the pass
(`continue`), the delayed ACK does not, and the transmit drain runs in ESTABLISHED and CLOSE_WAIT only.
-/

namespace DpdkStdlib.Tcp
open DpdkStdlib.Lib

structure EngineConfig where
  maxTcbs : Nat := 1024
  defaultBacklog : Nat := 128
  localMss : UInt16 := 1460
  defaultRcvWnd : Nat := 65535
  defaultRcvScale : UInt8 := 7
  initialRto : Duration := fromSecs 1
  maxRetries : Nat := 15

def due (now : Instant) (deadline : Option Instant) : Bool := deadline.any fun d => decide (d ≤ now)

/-! ## FIN and commands -/

def finFrame (t : Tcb) : Emitted := ⟨.fin, t.params t.sndNxt (TcpFlags.fin.union .ack) (encodeEstablishedWindow t) []⟩

/-- The TCB once its FIN is out: the FIN takes a sequence number and is covered by the RTO. -/
def finSent (clock : Instant) (state : TcpState) (t : Tcb) : Tcb :=
  { t.setState state with
    sndNxt := t.sndNxt.add 1
    rtoDeadline := if t.rtoDeadline.isNone then some (clock + t.congestion.rto) else t.rtoDeadline }

def sendFin (clock : Instant) (t : Tcb) : Tcb × List Emitted :=
  let t := { t with finPending := false }
  match t.state with
  | .established => (finSent clock .finWait1 t, [finFrame t])
  | .closeWait => (finSent clock .lastAck t, [finFrame t])
  | _ => (t, [])

def drainTxRing (t : Tcb) : Tcb :=
  let r := t.handle.txRing.drain t.sendBuf
  { t with handle := { t.handle with txRing := r.1 }, sendBuf := r.2 }

def Tcb.unsent (t : Tcb) : Nat := t.sendBuf.length - t.alreadySentOffset

def handleShutdown (clock : Instant) (how : Shutdown) (t : Tcb) : Tcb × List Emitted :=
  match how with
  | .write | .both =>
    if t.state = .established ∨ t.state = .closeWait then
      let t := drainTxRing { t with finPending := true }
      if t.unsent = 0 then sendFin clock t else (t, [])
    else (t, [])
  | .read => ({ t with handle := t.handle.setEof }, [])

def handleCloseRst (t : Tcb) : Effect :=
  { outcome := .removed (((t.handle.latchError .connectionAborted).setState .closed).setEof)
    out := [⟨.rst, t.params t.sndNxt (TcpFlags.rst.union .ack) 0 []⟩] }

def handleClose (clock : Instant) (linger : Option Duration) (t : Tcb) : Effect :=
  if linger = some 0 then handleCloseRst t else .keep (handleShutdown clock .write t)

def handleSetOption (option : SocketOption) (t : Tcb) : Tcb :=
  match option with
  | .nodelay val => { t with nodelay := val }
  | .keepalive config =>
    if config.isNone then { t with keepalive := config, keepaliveDeadline := none, keepaliveProbesSent := 0 }
    else { t with keepalive := config }
  | .linger val => { t with linger := val, handle := { t.handle with linger := val } }
  | .recvBufSize size => { t with recvBufSize := size, rcvWnd := min t.rcvWnd (size % 2 ^ 32) }
  | .sendBufSize size => { t with sendBufSize := size }
  | .reuseAddr val => { t with reuseaddr := val }
  | .ttl val => { t with ttl := val }
  | .readTimeout _ | .writeTimeout _ | .nonblocking _ => t

structure Options where
  rcvWnd : Nat
  keepaliveDeadline : Option Instant
  nodelay : Bool
  keepaliveProbesSent : Nat
  keepalive : Option KeepaliveConfig
  linger : Option Duration
  recvBufSize : Nat
  sendBufSize : Nat
  reuseaddr : Bool
  ttl : UInt8
  handleLinger : Option Duration

def Tcb.withOptions (t : Tcb) (o : Options) : Tcb :=
  { t with
    rcvWnd := o.rcvWnd
    keepaliveDeadline := o.keepaliveDeadline
    nodelay := o.nodelay
    keepaliveProbesSent := o.keepaliveProbesSent
    keepalive := o.keepalive
    linger := o.linger
    recvBufSize := o.recvBufSize
    sendBufSize := o.sendBufSize
    reuseaddr := o.reuseaddr
    ttl := o.ttl
    handle := { t.handle with linger := o.handleLinger } }

theorem field_handleSetOption {α : Sort*} (option : SocketOption) (t : Tcb) (f : Tcb → α)
    (hf : ∀ t o, f (Tcb.withOptions t o) = f t) : f (handleSetOption option t) = f t := by
  have hsame {u : Tcb} (h : ∃ o, u = t.withOptions o) : f u = f t := by
    obtain ⟨o, rfl⟩ := h
    exact hf t o
  unfold handleSetOption
  split
  case h_2 => split_ifs <;> exact hsame ⟨Options.mk .., rfl⟩
  all_goals exact hsame ⟨Options.mk .., rfl⟩

/-! ## Timers -/

/-- TIME_WAIT or FIN_WAIT_2 has run out: the first pass of `on_tick` removes the TCB. -/
def expired (now : Instant) (t : Tcb) : Bool :=
  (t.state == .timeWait && due now t.timeWaitDeadline) || (t.state == .finWait2 && due now t.finWait2Deadline)

def rtoDue (now : Instant) (t : Tcb) : Bool := due now t.rtoDeadline && !t.retransmitQueue.isEmpty

def timedOutHandle (t : Tcb) : ConnectionHandle := ((t.handle.latchError .timedOut).setState .closed).setEof

def entryPayload (buf : List UInt8) (e : RetransmitEntry) : List UInt8 := (buf.drop e.offset).take e.len

def retransmitFrames (t : Tcb) : List Emitted :=
  match t.retransmitQueue.head? with
  | some entry =>
    let payload := entryPayload t.sendBuf entry
    if payload.isEmpty then []
    else [⟨.retransmit, t.params entry.seq .ack (encodeEstablishedWindow t) payload⟩]
  | none => []

/-- RTO expiry short of the limit: count, collapse the window, back off and re-arm. -/
def rtoBackoff (now : Instant) (t : Tcb) : Tcb :=
  let congestion := (t.congestion.onRto t.flightSize t.effectiveMss).backoffRto
  { t with
    retransmitCount := (t.retransmitCount + 1) % 2 ^ 32
    congestion
    rtoDeadline := some (now + congestion.rto) }

/-- RTO expiry: abort after `max_retries`, else back off, re-arm and retransmit. -/
def tickRto (cfg : EngineConfig) (now : Instant) (t : Tcb) : Effect :=
  if (t.retransmitCount + 1) % 2 ^ 32 > cfg.maxRetries then
    { outcome := .removed (timedOutHandle t), signal := .connected (.error .timedOut) }
  else .keep (rtoBackoff now t, retransmitFrames (rtoBackoff now t))

def persistDue (now : Instant) (t : Tcb) : Bool := due now t.persistDeadline

/-- Zero-window probe: one zero byte at `snd_una + flight`. -/
def tickPersist (now : Instant) (t : Tcb) : Tcb × List Emitted :=
  let frame := t.params (t.sndUna.add t.flightSize) .ack (encodeEstablishedWindow t) [0]
  let backoff := min (t.persistBackoff * 2) (fromSecs 60)
  ({ t with persistBackoff := backoff, persistDeadline := some (now + backoff) }, [⟨.probe, frame⟩])

/-- A keepalive probe at `snd_una - 1`, and the next deadline. -/
def keepaliveProbe (now : Instant) (ka : KeepaliveConfig) (t : Tcb) : Tcb × List Emitted :=
  ({ t with
      keepaliveProbesSent := (t.keepaliveProbesSent + 1) % 2 ^ 32
      keepaliveDeadline := some (now + ka.interval) },
    [⟨.keepalive, t.params (t.sndUna.add u32Max) .ack (encodeEstablishedWindow t) []⟩])

/-- Keepalive: abort after the configured number of probes, else probe. -/
def tickKeepalive (now : Instant) (ka : KeepaliveConfig) (t : Tcb) : Effect :=
  if (t.keepaliveProbesSent + 1) % 2 ^ 32 > ka.count then { outcome := .removed (timedOutHandle t) }
  else .keep (keepaliveProbe now ka t)

def tickDelayedAck (now : Instant) (t : Tcb) : Tcb × List Emitted :=
  if due now t.delayedAckDeadline then
    let t := { t with delayedAckDeadline := none, segmentsSinceAck := 0 }
    (t, [⟨.ack, t.buildAckForTcb⟩])
  else (t, [])

/-! ## The transmit drain -/

def nextSegmentLen (t : Tcb) : Nat :=
  let availableWindow := t.availableSendWindow
  if availableWindow = 0 ∨ t.sendBuf.isEmpty then 0
  else if t.unsent = 0 then 0
  else if !t.nagleShouldSend t.unsent then 0
  else min (min t.unsent t.effectiveMss.toNat) availableWindow

def sendSegment (now : Instant) (n : Nat) (t : Tcb) : Tcb × Emitted :=
  let offset := t.alreadySentOffset
  let payload := (t.sendBuf.drop offset).take n
  ({ t with
      sndNxt := t.sndNxt.add n
      hasUnackedData := true
      retransmitQueue := t.retransmitQueue ++ [{ seq := t.sndNxt, offset, len := n, sentAt := now, retransmitCount := 0 }]
      rtoDeadline := if t.rtoDeadline.isNone then some (now + t.congestion.rto) else t.rtoDeadline },
    ⟨.data, t.params t.sndNxt .ack (encodeEstablishedWindow t) payload⟩)

/-- The segmentation loop; a turn sends at least one unsent byte, so `send_buf.len` bounds the turns. -/
def segmentLoop (now : Instant) : Nat → Tcb → Tcb × List Emitted
  | 0, t => (t, [])
  | fuel + 1, t =>
    if nextSegmentLen t = 0 then (t, [])
    else
      let s := sendSegment now (nextSegmentLen t) t
      let r := segmentLoop now fuel s.1
      (r.1, s.2 :: r.2)

/-- Arm the persist timer on a closed window with unsent data, clear it on an open one. -/
def armPersist (now : Instant) (t : Tcb) : Tcb :=
  let hasUnsent := decide (t.sendBuf.length > t.alreadySentOffset)
  let t := if t.availableSendWindow = 0 ∧ hasUnsent ∧ t.persistDeadline.isNone then
      { t with persistBackoff := t.congestion.rto, persistDeadline := some (now + t.congestion.rto) }
    else t
  if t.availableSendWindow > 0 ∧ t.persistDeadline.isSome then
    { t with persistDeadline := none, persistBackoff := fromSecs 1 }
  else t

def armKeepalive (now : Instant) (t : Tcb) : Tcb :=
  match t.keepalive with
  | some ka =>
    if t.state = .established ∧ t.keepaliveDeadline.isNone then { t with keepaliveDeadline := some (now + ka.idle) }
    else t
  | none => t

def flushFin (clock : Instant) (t : Tcb) : Tcb × List Emitted :=
  if t.finPending ∧ t.unsent = 0 ∧ t.handle.txRing.availableRead = 0 then sendFin clock t else (t, [])

def txSend (now : Instant) (t : Tcb) : Tcb × List Emitted :=
  segmentLoop now (drainTxRing t).sendBuf.length (drainTxRing t)

def armTimers (now : Instant) (t : Tcb) : Tcb := armKeepalive now (armPersist now t)

/-- The transmit drain: send, arm persist and keepalive, flush a pending FIN. -/
def txDrain (now clock : Instant) (t : Tcb) : Tcb × List Emitted :=
  ((flushFin clock (armTimers now (txSend now t).1)).1,
    (txSend now t).2 ++ (flushFin clock (armTimers now (txSend now t).1)).2)

def tickTcb (cfg : EngineConfig) (now clock : Instant) (t : Tcb) : Effect :=
  if rtoDue now t then tickRto cfg now t
  else if persistDue now t then .keep (tickPersist now t)
  else match t.keepalive, due now t.keepaliveDeadline with
    | some ka, true => tickKeepalive now ka t
    | _, _ =>
      let a := tickDelayedAck now t
      if a.1.state = .established ∨ a.1.state = .closeWait then
        let d := txDrain now clock a.1
        .keep (d.1, a.2 ++ d.2)
      else .keep a

def onTickTcb (cfg : EngineConfig) (now clock : Instant) (t : Tcb) : Effect :=
  if expired now t then { outcome := .removed ((t.handle.setState .closed).setEof) } else tickTcb cfg now clock t

/-! ## What transmission leaves alone -/

theorem segmentLoop_frame (now : Instant) (fuel : Nat) : ∀ t : Tcb, ∃ nxt queue latch rto,
    (segmentLoop now fuel t).1 =
      { t with sndNxt := nxt, retransmitQueue := queue, hasUnackedData := latch, rtoDeadline := rto } := by
  induction fuel with
  | zero => intro t; exact ⟨_, _, _, _, rfl⟩
  | succ fuel ih =>
    intro t
    rw [segmentLoop]
    split_ifs
    · exact ⟨_, _, _, _, rfl⟩
    · obtain ⟨nxt, queue, latch, rto, h⟩ := ih (sendSegment now (nextSegmentLen t) t).1
      exact ⟨nxt, queue, latch, rto, h⟩

theorem armTimers_frame (now : Instant) (t : Tcb) : ∃ backoff persist keepalive,
    armTimers now t =
      { t with persistBackoff := backoff, persistDeadline := persist, keepaliveDeadline := keepalive } := by
  have harm (u : Tcb) : ∃ keepalive, armKeepalive now u = { u with keepaliveDeadline := keepalive } := by
    unfold armKeepalive
    split
    · split_ifs <;> exact ⟨_, rfl⟩
    · exact ⟨_, rfl⟩
  have hpersist : ∃ backoff persist, armPersist now t =
      { t with persistBackoff := backoff, persistDeadline := persist } := by
    unfold armPersist
    dsimp only
    split_ifs <;> exact ⟨_, _, rfl⟩
  obtain ⟨backoff, persist, hp⟩ := hpersist
  obtain ⟨keepalive, hk⟩ := harm (armPersist now t)
  exact ⟨backoff, persist, keepalive, by rw [armTimers, hk, hp]⟩

theorem txSend_frame (now : Instant) (t : Tcb) : ∃ nxt queue latch rto, (txSend now t).1 =
    { drainTxRing t with sndNxt := nxt, retransmitQueue := queue, hasUnackedData := latch, rtoDeadline := rto } :=
  segmentLoop_frame now (drainTxRing t).sendBuf.length (drainTxRing t)

theorem transmitted_frame (now : Instant) (t : Tcb) : ∃ nxt queue latch rto backoff persist keepalive,
    armTimers now (txSend now t).1 =
      { drainTxRing t with
        sndNxt := nxt
        retransmitQueue := queue
        hasUnackedData := latch
        rtoDeadline := rto
        persistBackoff := backoff
        persistDeadline := persist
        keepaliveDeadline := keepalive } := by
  obtain ⟨nxt, queue, latch, rto, hsend⟩ := txSend_frame now t
  obtain ⟨backoff, persist, keepalive, harm⟩ := armTimers_frame now (txSend now t).1
  exact ⟨nxt, queue, latch, rto, backoff, persist, keepalive, by rw [harm, hsend]⟩

theorem tickDelayedAck_frame (now : Instant) (t : Tcb) : ∃ deadline count,
    (tickDelayedAck now t).1 = { t with delayedAckDeadline := deadline, segmentsSinceAck := count } := by
  unfold tickDelayedAck
  split_ifs <;> exact ⟨_, _, rfl⟩

/-- The fields that transmission, the timers and a shutdown change. -/
structure Local where
  state : TcpState
  sndNxt : SeqNum
  congestion : CongestionState
  rtoDeadline : Option Instant
  persistDeadline : Option Instant
  keepaliveDeadline : Option Instant
  delayedAckDeadline : Option Instant
  retransmitCount : Nat
  sendBuf : List UInt8
  retransmitQueue : List RetransmitEntry
  hasUnackedData : Bool
  finPending : Bool
  persistBackoff : Duration
  keepaliveProbesSent : Nat
  segmentsSinceAck : Nat
  txRing : SpscByteRing
  handleState : TcpState
  eof : Bool

def Tcb.withLocal (t : Tcb) (l : Local) : Tcb :=
  { t with
    state := l.state
    sndNxt := l.sndNxt
    congestion := l.congestion
    rtoDeadline := l.rtoDeadline
    persistDeadline := l.persistDeadline
    keepaliveDeadline := l.keepaliveDeadline
    delayedAckDeadline := l.delayedAckDeadline
    retransmitCount := l.retransmitCount
    sendBuf := l.sendBuf
    retransmitQueue := l.retransmitQueue
    hasUnackedData := l.hasUnackedData
    finPending := l.finPending
    persistBackoff := l.persistBackoff
    keepaliveProbesSent := l.keepaliveProbesSent
    segmentsSinceAck := l.segmentsSinceAck
    handle := { t.handle with txRing := l.txRing, state := l.handleState, eof := l.eof } }

def Tcb.toLocal (t : Tcb) : Local where
  state := t.state
  sndNxt := t.sndNxt
  congestion := t.congestion
  rtoDeadline := t.rtoDeadline
  persistDeadline := t.persistDeadline
  keepaliveDeadline := t.keepaliveDeadline
  delayedAckDeadline := t.delayedAckDeadline
  retransmitCount := t.retransmitCount
  sendBuf := t.sendBuf
  retransmitQueue := t.retransmitQueue
  hasUnackedData := t.hasUnackedData
  finPending := t.finPending
  persistBackoff := t.persistBackoff
  keepaliveProbesSent := t.keepaliveProbesSent
  segmentsSinceAck := t.segmentsSinceAck
  txRing := t.handle.txRing
  handleState := t.handle.state
  eof := t.handle.eof

theorem withLocal_withLocal (t : Tcb) (l l' : Local) : (t.withLocal l).withLocal l' = t.withLocal l' := rfl

def SameRemote (t t' : Tcb) : Prop := t' = t.withLocal t'.toLocal

theorem SameRemote.refl (t : Tcb) : SameRemote t t := rfl

theorem SameRemote.trans {t t' t'' : Tcb} (h : SameRemote t t') (h' : SameRemote t' t'') : SameRemote t t'' := by
  unfold SameRemote at h h' ⊢
  rw [h, withLocal_withLocal] at h'
  exact h'

theorem SameRemote.field {α : Sort*} {t t' : Tcb} (h : SameRemote t t') (f : Tcb → α)
    (hf : ∀ t l, f (t.withLocal l) = f t) : f t' = f t := by
  unfold SameRemote at h
  rw [h, hf]

/-! ## What a command or a tick can do -/

/-- The TCB a shutdown of the write side leaves before it looks for unsent data. -/
def shutdownDrained (t : Tcb) : Tcb := drainTxRing { t with finPending := true }

inductive ShutdownCase (clock : Instant) (t : Tcb) : Tcb × List Emitted → Prop
  | ignored : ShutdownCase clock t (t, [])
  | eof : ShutdownCase clock t ({ t with handle := t.handle.setEof }, [])
  | waits (hst : t.state = .established ∨ t.state = .closeWait) (hunsent : (shutdownDrained t).unsent ≠ 0) :
      ShutdownCase clock t (shutdownDrained t, [])
  | sends (hst : t.state = .established ∨ t.state = .closeWait) (hunsent : (shutdownDrained t).unsent = 0) :
      ShutdownCase clock t (sendFin clock (shutdownDrained t))

theorem handleShutdown_cases {clock : Instant} {how : Shutdown} {t : Tcb} {r : Tcb × List Emitted}
    (h : handleShutdown clock how t = r) : ShutdownCase clock t r := by
  subst h
  have hwrite : ShutdownCase clock t (handleShutdown clock .write t) := by
    unfold handleShutdown
    dsimp only
    split_ifs with hst hunsent
    · exact .sends hst hunsent
    · exact .waits hst hunsent
    · exact .ignored
  cases how with
  | read => exact .eof
  | write => exact hwrite
  | both => exact hwrite

inductive TickCase (cfg : EngineConfig) (now clock : Instant) (t : Tcb) : Effect → Prop
  | expired (hexp : expired now t = true) :
      TickCase cfg now clock t { outcome := .removed ((t.handle.setState .closed).setEof) }
  | rtoAborted (hexp : expired now t = false) (hdue : rtoDue now t = true)
      (hcount : (t.retransmitCount + 1) % 2 ^ 32 > cfg.maxRetries) :
      TickCase cfg now clock t { outcome := .removed (timedOutHandle t), signal := .connected (.error .timedOut) }
  | retransmitted (hexp : expired now t = false) (hdue : rtoDue now t = true)
      (hcount : ¬(t.retransmitCount + 1) % 2 ^ 32 > cfg.maxRetries) :
      TickCase cfg now clock t (.keep (rtoBackoff now t, retransmitFrames (rtoBackoff now t)))
  | probed (hdue : rtoDue now t = false) (hpersist : persistDue now t = true) :
      TickCase cfg now clock t (.keep (tickPersist now t))
  | keepaliveAborted (ka : KeepaliveConfig) (hexp : expired now t = false) (hdue : rtoDue now t = false)
      (hpersist : persistDue now t = false) (hka : t.keepalive = some ka) (hkeep : due now t.keepaliveDeadline = true)
      (hcount : (t.keepaliveProbesSent + 1) % 2 ^ 32 > ka.count) :
      TickCase cfg now clock t { outcome := .removed (timedOutHandle t) }
  | keepaliveProbed (ka : KeepaliveConfig) (hdue : rtoDue now t = false) (hka : t.keepalive = some ka)
      (hcount : ¬(t.keepaliveProbesSent + 1) % 2 ^ 32 > ka.count) (hkeep : due now t.keepaliveDeadline = true) :
      TickCase cfg now clock t (.keep (keepaliveProbe now ka t))
  | quiet (hst : ¬(t.state = .established ∨ t.state = .closeWait)) (hdue : rtoDue now t = false)
      (hkeep : ∀ ka, t.keepalive = some ka → due now t.keepaliveDeadline = false) :
      TickCase cfg now clock t (.keep (tickDelayedAck now t))
  | drained (hst : t.state = .established ∨ t.state = .closeWait) : TickCase cfg now clock t
      (.keep ((txDrain now clock (tickDelayedAck now t).1).1,
        (tickDelayedAck now t).2 ++ (txDrain now clock (tickDelayedAck now t).1).2))

theorem state_tickDelayedAck (now : Instant) (t : Tcb) : (tickDelayedAck now t).1.state = t.state := by
  obtain ⟨_, _, h⟩ := tickDelayedAck_frame now t
  rw [h]

/-- Whatever a tick does is one of the cases. -/
theorem onTickTcb_cases {cfg : EngineConfig} {now clock : Instant} {t : Tcb} {eff : Effect}
    (h : onTickTcb cfg now clock t = eff) : TickCase cfg now clock t eff := by
  subst h
  unfold onTickTcb
  split_ifs with hexp
  · exact .expired hexp
  rw [Bool.not_eq_true] at hexp
  unfold tickTcb
  split_ifs with hrto hpersist
  · unfold tickRto
    split_ifs with hcount
    · exact .rtoAborted hexp hrto hcount
    · exact .retransmitted hexp hrto hcount
  · exact .probed (Bool.not_eq_true _ ▸ hrto) hpersist
  · rw [Bool.not_eq_true] at hrto hpersist
    split
    · next ka hka hkeep =>
      unfold tickKeepalive
      split_ifs with hcount
      · exact .keepaliveAborted ka hexp hrto hpersist hka hkeep hcount
      · exact .keepaliveProbed ka hrto hka hcount hkeep
    · next hkeep =>
      dsimp only
      rw [state_tickDelayedAck]
      by_cases hst : t.state = .established ∨ t.state = .closeWait
      · rw [if_pos hst]
        exact .drained hst
      · rw [if_neg hst]
        refine .quiet hst hrto fun ka hka => Bool.not_eq_true _ ▸ fun hdue => ?_
        exact hkeep ka hka hdue

/-! ## The deeds of ticks and commands -/

/-- One thing that a tick, a shutdown or a close does to a TCB that it keeps, with the frames it sends. -/
inductive Deed (now clock : Instant) (t : Tcb) : List Emitted → Tcb → Prop
  | ack : Deed now clock t [⟨.ack, Tcb.buildAckForTcb { t with delayedAckDeadline := none, segmentsSinceAck := 0 }⟩]
      { t with delayedAckDeadline := none, segmentsSinceAck := 0 }
  | retransmit (hdue : rtoDue now t = true) :
      Deed now clock t (retransmitFrames (rtoBackoff now t)) (rtoBackoff now t)
  | probe : Deed now clock t (tickPersist now t).2 (tickPersist now t).1
  | keepalive (ka : KeepaliveConfig) : Deed now clock t (keepaliveProbe now ka t).2 (keepaliveProbe now ka t).1
  | eof : Deed now clock t [] { t with handle := t.handle.setEof }
  | pend : Deed now clock t [] { t with finPending := true }
  | fill (hst : t.state = .established ∨ t.state = .closeWait) : Deed now clock t [] (drainTxRing t)
  | send (hst : t.state = .established ∨ t.state = .closeWait) (hn : nextSegmentLen t ≠ 0) :
      Deed now clock t [(sendSegment now (nextSegmentLen t) t).2] (sendSegment now (nextSegmentLen t) t).1
  | arm (backoff : Duration) (persist keepalive : Option Instant) : Deed now clock t []
      { t with persistBackoff := backoff, persistDeadline := persist, keepaliveDeadline := keepalive }
  | fin (hst : t.state = .established) (hunsent : t.unsent = 0) :
      Deed now clock t [finFrame t] (finSent clock .finWait1 { t with finPending := false })
  | lastFin (hst : t.state = .closeWait) (hunsent : t.unsent = 0) :
      Deed now clock t [finFrame t] (finSent clock .lastAck { t with finPending := false })

inductive Deeds (now clock : Instant) : Tcb → List Emitted → Tcb → Prop
  | nil (t : Tcb) : Deeds now clock t [] t
  | cons {t u v : Tcb} {out out' : List Emitted} (h : Deed now clock t out u) (hs : Deeds now clock u out' v) :
      Deeds now clock t (out ++ out') v

section deeds
variable {now clock : Instant} {t t' u : Tcb} {out out' : List Emitted}

theorem Deed.single (h : Deed now clock t out u) : Deeds now clock t out u := by
  have hs := Deeds.cons h (.nil u)
  rwa [List.append_nil] at hs

theorem Deeds.trans (h : Deeds now clock t out u) (h' : Deeds now clock u out' t') :
    Deeds now clock t (out ++ out') t' := by
  induction h with
  | nil => exact h'
  | cons hd _ ih =>
    rw [List.append_assoc]
    exact .cons hd (ih h')

theorem deeds_tickDelayedAck : Deeds now clock t (tickDelayedAck now t).2 (tickDelayedAck now t).1 := by
  unfold tickDelayedAck
  split_ifs
  · exact Deed.ack.single
  · exact .nil t

theorem deeds_sendFin (hst : t.state = .established ∨ t.state = .closeWait) (hunsent : t.unsent = 0) :
    Deeds now clock t (sendFin clock t).2 (sendFin clock t).1 := by
  rcases hst with hst | hst <;> simp only [sendFin, hst]
  · exact (Deed.fin hst hunsent).single
  · exact (Deed.lastFin hst hunsent).single

theorem deeds_flushFin (hst : t.state = .established ∨ t.state = .closeWait) :
    Deeds now clock t (flushFin clock t).2 (flushFin clock t).1 := by
  unfold flushFin
  split_ifs with hfin
  · exact deeds_sendFin hst hfin.2.1
  · exact .nil t

theorem deeds_segmentLoop (fuel : Nat) (hst : t.state = .established ∨ t.state = .closeWait) :
    Deeds now clock t (segmentLoop now fuel t).2 (segmentLoop now fuel t).1 := by
  induction fuel generalizing t with
  | zero => exact .nil t
  | succ fuel ih =>
    rw [segmentLoop]
    split_ifs with hn
    · exact .nil t
    · exact .cons (.send hst hn) (ih hst)

theorem deeds_txSend (hst : t.state = .established ∨ t.state = .closeWait) :
    Deeds now clock t (txSend now t).2 (txSend now t).1 :=
  .cons (.fill hst) (deeds_segmentLoop _ hst)

theorem deeds_txDrain (hst : t.state = .established ∨ t.state = .closeWait) :
    Deeds now clock t (txDrain now clock t).2 (txDrain now clock t).1 := by
  have harm : Deeds now clock (txSend now t).1 [] (armTimers now (txSend now t).1) := by
    obtain ⟨_, _, _, h⟩ := armTimers_frame now (txSend now t).1
    rw [h]
    exact (Deed.arm _ _ _).single
  have hstate : (armTimers now (txSend now t).1).state = t.state := by
    obtain ⟨_, _, _, _, _, _, _, hsent⟩ := transmitted_frame now t
    rw [hsent]
    rfl
  have hrest := harm.trans (deeds_flushFin (by rw [hstate]; exact hst))
  rw [List.nil_append] at hrest
  unfold txDrain
  dsimp only
  exact (deeds_txSend hst).trans hrest

theorem deeds_onTickTcb {cfg : EngineConfig} (h : (onTickTcb cfg now clock t).outcome = .live t') :
    Deeds now clock t (onTickTcb cfg now clock t).out t' := by
  generalize heff : onTickTcb cfg now clock t = eff at h ⊢
  cases onTickTcb_cases heff with
  | expired | rtoAborted | keepaliveAborted => cases h
  | retransmitted _ hdue => cases h; exact (Deed.retransmit hdue).single
  | probed => cases h; exact Deed.probe.single
  | keepaliveProbed ka => cases h; exact (Deed.keepalive ka).single
  | quiet => rw [Effect.live_keep h]; exact deeds_tickDelayedAck
  | drained hst =>
    have hdrain : Deeds now clock _ _ _ := deeds_txDrain (t := (tickDelayedAck now t).1)
      (by rw [state_tickDelayedAck]; exact hst)
    rw [Effect.live_keep h]
    dsimp only [Effect.keep]
    exact deeds_tickDelayedAck.trans hdrain

theorem deeds_handleShutdown (now : Instant) (how : Shutdown) :
    Deeds now clock t (handleShutdown clock how t).2 (handleShutdown clock how t).1 := by
  have hdrained (hst : t.state = .established ∨ t.state = .closeWait) : Deeds now clock t [] (shutdownDrained t) := by
    have hfill : Deed now clock { t with finPending := true } [] (shutdownDrained t) := .fill hst
    exact .cons .pend hfill.single
  generalize hr : handleShutdown clock how t = r
  cases handleShutdown_cases hr with
  | ignored => exact .nil t
  | eof => exact Deed.eof.single
  | waits hst => exact hdrained hst
  | sends hst hunsent => exact (hdrained hst).trans (deeds_sendFin hst hunsent)

theorem deeds_handleClose (now : Instant) {linger : Option Duration}
    (h : (handleClose clock linger t).outcome = .live t') :
    Deeds now clock t (handleClose clock linger t).out t' := by
  unfold handleClose at h ⊢
  split_ifs at h ⊢
  · cases h
  · rw [Effect.live_keep h]
    exact deeds_handleShutdown now .write

theorem Deeds.keeps {P : Tcb → Prop} (h : Deeds now clock t out t')
    (hP : ∀ {t out u}, Deed now clock t out u → P t → P u) (ht : P t) : P t' := by
  induction h with
  | nil => exact ht
  | cons hd _ ih => exact ih (hP hd ht)

theorem Deeds.field {α : Sort*} (h : Deeds now clock t out t') (f : Tcb → α)
    (hf : ∀ {t out u}, Deed now clock t out u → f u = f t) : f t' = f t :=
  h.keeps (P := fun u => f u = f t) (fun hd hu => (hf hd).trans hu) rfl

theorem Deeds.sameRemote (h : Deeds now clock t out t') : SameRemote t t' := by
  induction h with
  | nil => exact .refl _
  | cons hd _ ih =>
    refine SameRemote.trans ?_ ih
    cases hd <;> exact rfl

end deeds

end DpdkStdlib.Tcp
