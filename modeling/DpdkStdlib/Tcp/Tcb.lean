import DpdkStdlib.Lib.AssocMap
import DpdkStdlib.Tcp.Congestion
import DpdkStdlib.Tcp.Contract

/-!
# Transmission control blocks (`tcb.rs`)

The per-connection state of the engine.  `sendBuf` starts at the oldest byte the engine still keeps; an entry of
`retransmitQueue` says where in `sendBuf` the bytes of a sent segment lie.  `reorderBuffer` maps the distance of a
segment from `rcvNxt` to its payload.
-/

namespace DpdkStdlib.Tcp
open DpdkStdlib.Lib

structure RetransmitEntry where
  seq : SeqNum
  offset : Nat
  len : Nat
  sentAt : Instant
  retransmitCount : Nat

def defaultPeerMss : UInt16 := 536

structure Tcb where
  key : FourTuple
  state : TcpState
  sndUna : SeqNum
  sndNxt : SeqNum
  sndWnd : Nat
  sndWl1 : SeqNum
  sndWl2 : SeqNum
  iss : SeqNum
  rcvNxt : SeqNum
  rcvWnd : Nat
  irs : SeqNum
  sndScale : UInt8
  rcvScale : UInt8
  localMss : UInt16
  peerMss : UInt16
  congestion : CongestionState
  rtoDeadline : Option Instant
  persistDeadline : Option Instant
  keepaliveDeadline : Option Instant
  timeWaitDeadline : Option Instant
  finWait2Deadline : Option Instant
  delayedAckDeadline : Option Instant
  retransmitCount : Nat
  sendBuf : List UInt8
  retransmitQueue : List RetransmitEntry
  reorderBuffer : AssocMap (BitVec 32) (List UInt8)
  nodelay : Bool
  hasUnackedData : Bool
  finPending : Bool
  persistBackoff : Duration
  keepaliveProbesSent : Nat
  lastDataReceived : Option Instant
  segmentsSinceAck : Nat
  keepalive : Option KeepaliveConfig
  linger : Option Duration
  recvBufSize : Nat
  sendBufSize : Nat
  reuseaddr : Bool
  ttl : UInt8
  srcMac : MacAddr
  dstMac : MacAddr
  handle : ConnectionHandle

namespace Tcb

def new (key : FourTuple) (iss : SeqNum) (localMss : UInt16) (handle : ConnectionHandle) (srcMac dstMac : MacAddr) :
    Tcb where
  key := key
  state := .closed
  sndUna := iss
  sndNxt := iss
  sndWnd := 0
  sndWl1 := ⟨0⟩
  sndWl2 := ⟨0⟩
  iss := iss
  rcvNxt := ⟨0⟩
  rcvWnd := 0
  irs := ⟨0⟩
  sndScale := 0
  rcvScale := 0
  localMss := localMss
  peerMss := defaultPeerMss
  congestion := .new localMss
  rtoDeadline := none
  persistDeadline := none
  keepaliveDeadline := none
  timeWaitDeadline := none
  finWait2Deadline := none
  delayedAckDeadline := none
  retransmitCount := 0
  sendBuf := []
  retransmitQueue := []
  reorderBuffer := .empty
  nodelay := false
  hasUnackedData := false
  finPending := false
  persistBackoff := fromSecs 1
  keepaliveProbesSent := 0
  lastDataReceived := none
  segmentsSinceAck := 0
  keepalive := none
  linger := none
  recvBufSize := 65536
  sendBufSize := 65536
  reuseaddr := false
  ttl := 64
  srcMac := srcMac
  dstMac := dstMac
  handle := handle

def effectiveMss (t : Tcb) : UInt16 := min t.localMss t.peerMss

def flightSize (t : Tcb) : Nat := t.sndNxt.diff t.sndUna

/-- What the effective window leaves beyond the flight; saturating. -/
def availableSendWindow (t : Tcb) : Nat := t.congestion.effectiveWindow t.sndWnd - t.flightSize

def nagleShouldSend (t : Tcb) (pendingBytes : Nat) : Bool :=
  t.nodelay || !t.hasUnackedData || decide (pendingBytes ≥ t.effectiveMss.toNat)

/-- Where the unsent part of `sendBuf` starts: the end of the last entry of the queue. -/
def alreadySentOffset (t : Tcb) : Nat := (t.retransmitQueue.getLast?.map fun e => e.offset + e.len).getD 0

def setState (t : Tcb) (state : TcpState) : Tcb := { t with state, handle := t.handle.setState state }

end Tcb

end DpdkStdlib.Tcp
