import DpdkStdlib.Tcp.Tick

/-!
# The engine (`engine.rs`, `isn.rs`)

`TcpEngine` with its three maps.  Every call returns the engine afterwards, the frames it built and the responses it
sent.  `closed` is not a field of the source: it keeps, by key, the handle of the last TCB that left the map, which the
application may still hold.

The keyed hash of the ISN generator is a third-party function and a parameter of the generator.
-/

namespace DpdkStdlib.Tcp
open DpdkStdlib.Lib

/-- The 4-tuple as hashed for the ISN; zeros when an address is IPv6. -/
def FourTuple.toBytes (k : FourTuple) : List UInt8 :=
  match k.localAddr, k.remoteAddr with
  | .v4 lip lport, .v4 rip rport => lip.octets ++ beBytes16 lport ++ rip.octets ++ beBytes16 rport
  | _, _ => List.replicate 12 0

structure IsnGenerator where
  hash : List UInt8 → BitVec 32
  bootInstant : Instant

/-- Elapsed microseconds over four, plus the keyed hash of the 4-tuple. -/
def IsnGenerator.generate (g : IsnGenerator) (key : FourTuple) (clock : Instant) : SeqNum :=
  ⟨BitVec.ofNat 32 ((clock - g.bootInstant) / 1000 / 4) + g.hash key.toBytes⟩

structure ListenState where
  backlog : Nat
  acceptQueue : List Channel
  completed : List FourTuple

structure TcpEngine where
  tcbs : AssocMap FourTuple Tcb
  listeners : AssocMap SocketAddr ListenState
  pendingConnects : AssocMap FourTuple Channel
  isnGen : IsnGenerator
  config : EngineConfig
  closed : AssocMap FourTuple ConnectionHandle

inductive Response
  | connect (ch : Channel) (result : Except TcpError FourTuple)
  | listen (ch : Channel) (result : Except TcpError Unit)
  | accept (ch : Channel) (result : Except TcpError FourTuple)

structure CallResult where
  engine : TcpEngine
  out : List Emitted := []
  sent : List Response := []

/-! ## New connections -/

/-- The TCB of an active open, in SYN_SENT. -/
def connectTcb (cfg : EngineConfig) (key : FourTuple) (iss : SeqNum) (handle : ConnectionHandle)
    (srcMac dstMac : MacAddr) (clock : Instant) : Tcb :=
  { (Tcb.new key iss cfg.localMss handle srcMac dstMac).setState .synSent with
    sndNxt := iss.add 1
    rcvWnd := cfg.defaultRcvWnd
    rcvScale := cfg.defaultRcvScale
    rtoDeadline := some (clock + cfg.initialRto) }

/-- The TCB of a passive open, in SYN_RECEIVED. -/
def acceptTcb (cfg : EngineConfig) (key : FourTuple) (iss : SeqNum) (seg : ParsedTcpSegment)
    (srcMac dstMac : MacAddr) (clock : Instant) : Tcb :=
  let peerMss := seg.options.mss.getD defaultPeerMss
  let peerWscale := seg.options.windowScale.getD 0
  { (Tcb.new key iss cfg.localMss (.new 65536 65536 key) srcMac dstMac).setState .synReceived with
    sndNxt := iss.add 1
    rcvNxt := seg.seq.add 1
    irs := seg.seq
    peerMss := peerMss
    sndScale := peerWscale
    rcvScale := cfg.defaultRcvScale
    rcvWnd := cfg.defaultRcvWnd
    sndWnd := shl32 seg.window.toNat peerWscale
    rtoDeadline := some (clock + cfg.initialRto)
    congestion := .new (min cfg.localMss peerMss) }

namespace TcpEngine

def new (isnGen : IsnGenerator) (config : EngineConfig) : TcpEngine where
  tcbs := .empty
  listeners := .empty
  pendingConnects := .empty
  isnGen := isnGen
  config := config
  closed := .empty

def insertTcb (e : TcpEngine) (key : FourTuple) (t : Tcb) : TcpEngine :=
  { e with
    tcbs := e.tcbs.insert key t
    closed := match e.tcbs.get? key with
      | some old => e.closed.insert key old.handle
      | none => e.closed }

/-- `handle_connect`: a TCB, its SYN, and the pending request. -/
def handleConnect (e : TcpEngine) (clock : Instant) (localAddr remoteAddr : SocketAddr) (srcMac dstMac : MacAddr)
    (handle : ConnectionHandle) (response : Channel) : CallResult :=
  let key : FourTuple := ⟨localAddr, remoteAddr⟩
  if e.tcbs.size ≥ e.config.maxTcbs then
    { engine := e, sent := [.connect response (.error (.resourceLimit "max TCBs exceeded"))] }
  else
    let t := connectTcb e.config key (e.isnGen.generate key clock) handle srcMac dstMac clock
    { engine := { e.insertTcb key t with pendingConnects := e.pendingConnects.insert key response }
      out := [⟨.syn, t.buildSynFrame⟩] }

def handleListen (e : TcpEngine) (addr : SocketAddr) (backlog : Nat) (response : Channel) : CallResult :=
  let backlog := if backlog = 0 then e.config.defaultBacklog else backlog
  { engine := { e with listeners := e.listeners.insert addr { backlog, acceptQueue := [], completed := [] } }
    sent := [.listen response (.ok ())] }

/-- Hand out the connection completed last, or park the request. -/
def handleAccept (e : TcpEngine) (listenAddr : SocketAddr) (response : Channel) : CallResult :=
  match e.listeners.get? listenAddr with
  | some l =>
    match l.completed.getLast? with
    | some conn =>
      { engine := { e with listeners := e.listeners.insert listenAddr { l with completed := l.completed.dropLast } }
        sent := [.accept response (.ok conn)] }
    | none =>
      { engine := { e with
          listeners := e.listeners.insert listenAddr { l with acceptQueue := l.acceptQueue ++ [response] } } }
  | none => { engine := e, sent := [.accept response (.error .notConnected)] }

/-- The listener responsible for a local address: its own, else the wildcard of its port. -/
def listenerFor (e : TcpEngine) (addr : SocketAddr) : Option (SocketAddr × ListenState) :=
  match e.listeners.get? addr with
  | some l => some (addr, l)
  | none => (e.listeners.get? (.wildcard addr.port)).map (Prod.mk (.wildcard addr.port))

/-- `send_rst_for_segment`: the numbers of RFC 9293, and zero MACs. -/
def sendRstForSegment (seg : ParsedTcpSegment) : List Emitted :=
  let zero : MacAddr := Vector.replicate 6 0
  [⟨.rstReply,
    { srcMac := zero
      dstMac := zero
      src := seg.dst
      dst := seg.src
      seq := if seg.flags.contains .ack then seg.ack else ⟨0⟩
      ack := if seg.flags.contains .ack then ⟨0⟩ else seg.seq.add (segmentLen seg)
      flags := if seg.flags.contains .ack then .rst else TcpFlags.rst.union .ack
      window := 0
      options := {}
      payload := []
      ttl := 64 }⟩]

/-- SYN_RECEIVED TCBs on the port of `addr`. -/
def embryonic (e : TcpEngine) (addr : SocketAddr) : Nat :=
  (e.tcbs.entries.filter fun p => p.2.state = .synReceived ∧
    (p.2.key.localAddr = addr ∨ p.2.key.localAddr.port = addr.port)).length

/-- `handle_syn_with_macs`: refused over the limits, answered with a SYN-ACK otherwise. -/
def handleSynWithMacs (e : TcpEngine) (clock : Instant) (seg : ParsedTcpSegment) (key : FourTuple)
    (frameSrcMac frameDstMac : MacAddr) : CallResult :=
  match e.listenerFor seg.dst with
  | none => { engine := e, out := sendRstForSegment seg }
  | some (_, l) =>
    if e.embryonic seg.dst + l.completed.length ≥ l.backlog then { engine := e, out := sendRstForSegment seg }
    else if e.tcbs.size ≥ e.config.maxTcbs then { engine := e, out := sendRstForSegment seg }
    else
      -- the frame came to our MAC from the peer's: replies go the other way
      let t := acceptTcb e.config key (e.isnGen.generate key clock) seg frameDstMac frameSrcMac clock
      { engine := e.insertTcb key t, out := [⟨.synAck, t.buildSynAckFrame⟩] }

/-- Hand a completed passive open to the request that was parked last, or keep it for the next one. -/
def deliverAccepted (e : TcpEngine) (key : FourTuple) : CallResult :=
  match e.listenerFor key.localAddr with
  | none => { engine := e }
  | some (addr, l) =>
    match l.acceptQueue.getLast? with
    | some ch =>
      { engine := { e with listeners := e.listeners.insert addr { l with acceptQueue := l.acceptQueue.dropLast } }
        sent := [.accept ch (.ok key)] }
    | none => { engine := { e with listeners := e.listeners.insert addr { l with completed := l.completed ++ [key] } } }

def answerConnect (e : TcpEngine) (key : FourTuple) (result : Except TcpError FourTuple) : CallResult :=
  match e.pendingConnects.get? key with
  | some ch => { engine := { e with pendingConnects := e.pendingConnects.erase key }, sent := [.connect ch result] }
  | none => { engine := e }

def store (e : TcpEngine) (key : FourTuple) : Outcome → TcpEngine
  | .live t => { e with tcbs := e.tcbs.insert key t }
  | .removed h => { e with tcbs := e.tcbs.erase key, closed := e.closed.insert key h }

/-- Carry out the effect of a call on the TCB of `key`. -/
def applyEffect (e : TcpEngine) (key : FourTuple) (eff : Effect) : CallResult :=
  let e := e.store key eff.outcome
  let r : CallResult := match eff.signal with
    | .quiet => { engine := e }
    | .connected result => e.answerConnect key result
    | .accepted => e.deliverAccepted key
  { r with out := eff.out }

/-- A handler applied to the TCB of a key, with what follows for the engine. -/
def onKey (e : TcpEngine) (key : FourTuple) (f : Tcb → Effect) : CallResult :=
  match e.tcbs.get? key with
  | some t => e.applyEffect key (f t)
  | none => { engine := e }

/-! ## The engine's entry points -/

/-- `on_segment_with_macs`: an RST, a segment of a TCB, or a SYN; the rest is dropped. -/
def onSegmentWithMacs (e : TcpEngine) (clock : Instant) (seg : ParsedTcpSegment) (frameSrcMac frameDstMac : MacAddr) :
    CallResult :=
  let key : FourTuple := ⟨seg.dst, seg.src⟩
  if seg.flags.contains .rst then e.onKey key (handleRst seg)
  else if e.tcbs.contains key then e.onKey key (handleExistingTcb clock seg)
  else if seg.flags.contains .syn && !seg.flags.contains .ack then
    e.handleSynWithMacs clock seg key frameSrcMac frameDstMac
  else { engine := e }

/-- Entry point without Ethernet context: a passive open gets zero MACs. -/
def onSegment (e : TcpEngine) (clock : Instant) (seg : ParsedTcpSegment) : CallResult :=
  e.onSegmentWithMacs clock seg (Vector.replicate 6 0) (Vector.replicate 6 0)

def onCommand (e : TcpEngine) (clock : Instant) : EngineCommand → CallResult
  | .connect localAddr remoteAddr srcMac dstMac handle response =>
    e.handleConnect clock localAddr remoteAddr srcMac dstMac handle response
  | .listen addr backlog response => e.handleListen addr backlog response
  | .accept listenAddr response => e.handleAccept listenAddr response
  | .shutdown key how => e.onKey key fun t => .keep (handleShutdown clock how t)
  | .setOption key option => e.onKey key fun t => .keep (handleSetOption option t, [])
  | .close key linger => e.onKey key (handleClose clock linger)

/-- First pass of `on_tick`: remove the TCB of a key when TIME_WAIT or FIN_WAIT_2 has run out. -/
def expireKey (now : Instant) (e : TcpEngine) (key : FourTuple) : TcpEngine :=
  match e.tcbs.get? key with
  | some t => if expired now t then e.store key (.removed ((t.handle.setState .closed).setEof)) else e
  | none => e

def tickKey (now clock : Instant) (r : CallResult) (key : FourTuple) : CallResult :=
  let s := r.engine.onKey key (tickTcb r.engine.config now clock)
  { engine := s.engine, out := r.out ++ s.out, sent := r.sent ++ s.sent }

/-- `on_tick`: expired TCBs are removed, then each one left has its turn. -/
def onTick (e : TcpEngine) (now clock : Instant) : CallResult :=
  let e := e.tcbs.keys.foldl (expireKey now) e
  e.tcbs.keys.foldl (tickKey now clock) { engine := e }

/-! ## The application's side of the rings -/

/-- Change the handle of a connection: in its TCB, or after the TCB is gone. -/
def updateHandle (e : TcpEngine) (key : FourTuple) (f : ConnectionHandle → ConnectionHandle) : TcpEngine :=
  match e.tcbs.get? key with
  | some t => { e with tcbs := e.tcbs.insert key { t with handle := f t.handle } }
  | none => match e.closed.get? key with
    | some h => { e with closed := e.closed.insert key (f h) }
    | none => e

end TcpEngine

end DpdkStdlib.Tcp
