import DpdkStdlib.Tcp.Tcb

/-!
# Frames of a connection (`engine.rs`, frame builders and window encoders)

The engine's handlers return what they build frames from, marked with the place in the source that builds it; the
bytes are `Emitted.frame`, which is `none` when `buildTcpFrame` refuses (the source then drops the frame).

Shifts are those of a release build: the shift amount is taken modulo 32 and the result modulo `2^32`.
-/

namespace DpdkStdlib.Tcp

def shl32 (x : Nat) (s : UInt8) : Nat := x * 2 ^ (s.toNat % 32) % 2 ^ 32

def shr32 (x : Nat) (s : UInt8) : Nat := x / 2 ^ (s.toNat % 32)

/-- The places of the source that emit a frame. -/
inductive Site
  | syn | synAck | handshakeAck | ack | challengeAck | data | retransmit | probe | keepalive | fin | rst | rstReply
deriving DecidableEq

/-- A frame the engine builds, with the place that builds it. -/
structure Emitted where
  site : Site
  params : TcpFrameParams
deriving DecidableEq

def Emitted.frame (e : Emitted) : Option (List UInt8) := (buildTcpFrame e.params).toOption

/-- Window of an established connection: nothing below the silly-window threshold, else what the ring takes, scaled. -/
def encodeEstablishedWindow (t : Tcb) : UInt16 :=
  let available := t.handle.rxRing.availableWrite % 2 ^ 32
  let halfBuffer := t.recvBufSize % 2 ^ 32 / 2
  let mss := t.effectiveMss.toNat
  let threshold := min mss halfBuffer
  let wnd := if available < threshold then 0 else min available t.rcvWnd
  UInt16.ofNat (min (shr32 wnd t.rcvScale) 65535)

def encodeWindow (rcvWnd : Nat) (_rcvScale : UInt8) : UInt16 := UInt16.ofNat (min rcvWnd 65535)

namespace Tcb

/-- A frame from this end of the connection to the other, with the options of a non-SYN segment. -/
def params (t : Tcb) (seq : SeqNum) (flags : TcpFlags) (window : UInt16) (payload : List UInt8) : TcpFrameParams where
  srcMac := t.srcMac
  dstMac := t.dstMac
  src := t.key.localAddr
  dst := t.key.remoteAddr
  seq := seq
  ack := t.rcvNxt
  flags := flags
  window := window
  options := {}
  payload := payload
  ttl := t.ttl

def buildAckForTcb (t : Tcb) : TcpFrameParams := t.params t.sndNxt .ack (encodeEstablishedWindow t) []

def synOptions (t : Tcb) : TcpOptions where
  mss := some t.localMss
  windowScale := some t.rcvScale
  sackPermitted := true
  timestamps := some (0, 0)

def buildSynFrame (t : Tcb) : TcpFrameParams :=
  { t.params t.iss .syn (encodeWindow t.rcvWnd 0) [] with ack := ⟨0⟩, options := t.synOptions }

def buildSynAckFrame (t : Tcb) : TcpFrameParams :=
  { t.params t.iss (TcpFlags.syn.union .ack) (encodeWindow t.rcvWnd 0) [] with options := t.synOptions }

end Tcb

/-- Is `seq` in `[rcvNxt, rcvNxt + rcvWnd)`? -/
def isInWindow (seq rcvNxt : SeqNum) (rcvWnd : Nat) : Bool :=
  if rcvWnd = 0 then seq == rcvNxt
  else
    let rcvEnd := rcvNxt.add rcvWnd
    seq == rcvNxt || (seq.gt rcvNxt && rcvEnd.gt seq)

def segmentLen (seg : ParsedTcpSegment) : Nat :=
  (seg.payload.length + (if seg.flags.contains .syn then 1 else 0) + if seg.flags.contains .fin then 1 else 0) % 2 ^ 32

end DpdkStdlib.Tcp
