import DpdkStdlib.Tcp.Ring
import DpdkStdlib.Tcp.Codec

/-!
# What application and engine share (`contract.rs`)

`ConnectionHandle` is the part of the shared handle that carries data: the two rings, the mirrored state, the EOF flag,
the latched error and the linger setting.  Wakers, condition variables and reference counts change nothing that the
engine reads.  A response channel is its number.
-/

namespace DpdkStdlib.Tcp

structure KeepaliveConfig where
  idle : Duration
  interval : Duration
  count : Nat
deriving DecidableEq

inductive SocketOption
  | nodelay (val : Bool)
  | keepalive (config : Option KeepaliveConfig)
  | linger (val : Option Duration)
  | recvBufSize (size : Nat)
  | sendBufSize (size : Nat)
  | reuseAddr (val : Bool)
  | ttl (val : UInt8)
  | readTimeout (val : Option Duration)
  | writeTimeout (val : Option Duration)
  | nonblocking (val : Bool)

inductive Shutdown
  | read | write | both
deriving DecidableEq

/-- What the stream and the engine share of a connection. -/
structure ConnectionHandle where
  rxRing : SpscByteRing
  txRing : SpscByteRing
  state : TcpState
  eof : Bool
  error : Option TcpError
  key : FourTuple
  linger : Option Duration

namespace ConnectionHandle

def new (rxCapacity txCapacity : Nat) (key : FourTuple) : ConnectionHandle where
  rxRing := .new rxCapacity
  txRing := .new txCapacity
  state := .closed
  eof := false
  error := none
  key := key
  linger := none

def setState (h : ConnectionHandle) (state : TcpState) : ConnectionHandle := { h with state }

/-- `latch_error`: the first error stays. -/
def latchError (h : ConnectionHandle) (err : TcpError) : ConnectionHandle :=
  if h.error.isNone then { h with error := some err } else h

def setEof (h : ConnectionHandle) : ConnectionHandle := { h with eof := true }

@[simp] theorem rxRing_setState (h : ConnectionHandle) (s : TcpState) : (h.setState s).rxRing = h.rxRing := rfl
@[simp] theorem txRing_setState (h : ConnectionHandle) (s : TcpState) : (h.setState s).txRing = h.txRing := rfl
@[simp] theorem error_setState (h : ConnectionHandle) (s : TcpState) : (h.setState s).error = h.error := rfl
@[simp] theorem eof_setState (h : ConnectionHandle) (s : TcpState) : (h.setState s).eof = h.eof := rfl
@[simp] theorem rxRing_setEof (h : ConnectionHandle) : h.setEof.rxRing = h.rxRing := rfl
@[simp] theorem txRing_setEof (h : ConnectionHandle) : h.setEof.txRing = h.txRing := rfl
@[simp] theorem error_setEof (h : ConnectionHandle) : h.setEof.error = h.error := rfl
@[simp] theorem eof_setEof (h : ConnectionHandle) : h.setEof.eof = true := rfl

@[simp] theorem rxRing_latchError (h : ConnectionHandle) (e : TcpError) : (h.latchError e).rxRing = h.rxRing := by
  unfold latchError; split <;> rfl

@[simp] theorem txRing_latchError (h : ConnectionHandle) (e : TcpError) : (h.latchError e).txRing = h.txRing := by
  unfold latchError; split <;> rfl

@[simp] theorem state_latchError (h : ConnectionHandle) (e : TcpError) : (h.latchError e).state = h.state := by
  unfold latchError; split <;> rfl

@[simp] theorem error_latchError (h : ConnectionHandle) (e : TcpError) :
    (h.latchError e).error = some (h.error.getD e) := by
  unfold latchError
  cases he : h.error with
  | none => simp
  | some err => simp [he]

end ConnectionHandle

abbrev Channel := Nat

inductive EngineCommand
  | connect (localAddr remoteAddr : SocketAddr) (srcMac dstMac : MacAddr) (handle : ConnectionHandle)
      (response : Channel)
  | listen (addr : SocketAddr) (backlog : Nat) (response : Channel)
  | accept (listenAddr : SocketAddr) (response : Channel)
  | shutdown (key : FourTuple) (how : Shutdown)
  | setOption (key : FourTuple) (option : SocketOption)
  | close (key : FourTuple) (linger : Option Duration)

end DpdkStdlib.Tcp
