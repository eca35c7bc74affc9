import DpdkStdlib.Udp.Parse
import DpdkStdlib.Udp.Icmp
import DpdkStdlib.Lib.Run

/-!
# The QUIC provider (`dpdk-stdlib-quic`)

A thread polls the card, hands the datagrams for its port to the endpoint, and sends what the endpoint has pushed into the
transmit queue.  What the endpoint is to the provider is here the messages it pushes.

A result `none` of the outer option is a panic of the source; `Except` and the inner option are its `Result` and `Option`.
-/

namespace DpdkStdlib.Quic
open DpdkStdlib.Lib DpdkStdlib.Udp

/-! ## ECN (`ecn.rs`) -/

inductive ExplicitCongestionNotification
  | notEct
  | ect1
  | ect0
  | ce
deriving DecidableEq, Repr

def extractEcn (tosByte : UInt8) : ExplicitCongestionNotification :=
  let ecnBits := tosByte &&& 0x03
  if ecnBits = 0 then .notEct else if ecnBits = 1 then .ect1 else if ecnBits = 2 then .ect0 else .ce

def ecnToTosBits : ExplicitCongestionNotification → UInt8
  | .notEct => 0
  | .ect1 => 1
  | .ect0 => 2
  | .ce => 3

theorem extractEcn_ecnToTosBits (ecn : ExplicitCongestionNotification) : extractEcn (ecnToTosBits ecn) = ecn := by
  cases ecn <;> rfl

/-! ## Receiving (`path_handle.rs`, `rx.rs`) -/

structure DpdkPathHandle where
  remoteAddress : SocketAddr
  localAddress : SocketAddr
deriving DecidableEq

/-- A path whose local address is not known yet: `LocalAddress::default()`. -/
def DpdkPathHandle.fromRemoteAddress (remoteAddress : SocketAddr) : DpdkPathHandle :=
  { remoteAddress, localAddress := .v4 ⟨0, 0, 0, 0⟩ 0 }

/-- `RxDatagram` with the two fields of its header. -/
structure RxDatagram where
  path : DpdkPathHandle
  ecn : ExplicitCongestionNotification
  payload : List UInt8
deriving DecidableEq

def parseToRxDatagram (frame : List UInt8) (localAddr : SocketAddr) : Option (Option RxDatagram) := do
  let some parsed ← parseUdpPacketRef frame | return none
  let localPort := localAddr.port
  if parsed.dstPort ≠ localPort then return none
  let tosByte ← frame[14 + 1]?
  let ecn := extractEcn tosByte
  let remote := SocketAddr.v4 parsed.srcIp parsed.srcPort
  let path := { DpdkPathHandle.fromRemoteAddress remote with localAddress := .v4 parsed.dstIp parsed.dstPort }
  return some { path, ecn, payload := parsed.payload }

def rxDatagram (frame : List UInt8) (localAddr : SocketAddr) : Option RxDatagram :=
  (udpViewRef frame).bind fun parsed =>
    if parsed.dstPort = localAddr.port then
      some { path := ⟨.v4 parsed.srcIp parsed.srcPort, .v4 parsed.dstIp parsed.dstPort⟩
             ecn := extractEcn (byteAt frame (14 + 1)), payload := parsed.payload }
    else none

/-! ## Sending (`frame.rs`, `tx.rs`) -/

inductive TxError
  | emptyPayload
  | undersizedBuffer
  | atCapacity
deriving DecidableEq

/-- A message of the endpoint: its bytes, and its answers when asked for a segment (never twice in one `push`). -/
structure Message where
  path : DpdkPathHandle
  ecn : ExplicitCongestionNotification
  bytes : List UInt8
  canGso : Nat → Nat → Bool
  /-- How much it writes into a buffer of so many bytes, from a byte offset on. -/
  writeLen : Nat → Nat → Except TxError Nat
  writeLen_le : ∀ bufLen offset n, writeLen bufLen offset = .ok n → n ≤ bufLen ∧ n ≤ bytes.length - offset

/-- `write_payload`: how much was written, and the buffer. -/
def Message.writePayload (message : Message) (buffer : List UInt8) (gsoOffset : Nat) : Except TxError (Nat × List UInt8) :=
  (message.writeLen buffer.length gsoOffset).map fun n =>
    (n, (message.bytes.drop gsoOffset).take n ++ buffer.drop n)

def buildQuicFrame (out : List UInt8) (srcMac gatewayMac : MacAddr) (srcIp dstIp : Ipv4Addr) (srcPort dstPort : UInt16)
    (payload : List UInt8) (tos : UInt8) : Option (Except UdpError Nat × List UInt8) :=
  buildUdpFrameIntoWithTos out { srcIp, dstIp, srcPort, dstPort, payload, ttl := 64, srcMac, dstMac := gatewayMac } tos

/-- `DpdkTxQueue`; a `TxDatagram` is its frame. -/
structure DpdkTxQueue where
  pending : List (List UInt8) := []
  capacity : Nat
  localAddr : SocketAddr
  srcMac : MacAddr
  gatewayMac : MacAddr
  frameBuf : List UInt8 := []

def socketAddressToV4 : SocketAddr → Option (Ipv4Addr × UInt16)
  | .v4 ip port => some (ip, port)
  | .v6 _ _ _ _ => none

structure Outcome where
  len : Nat
  index : Nat
deriving DecidableEq

/-- Where a message's segments come from and go to, and their TOS byte. -/
structure Route where
  srcIp : Ipv4Addr
  dstIp : Ipv4Addr
  srcPort : UInt16
  dstPort : UInt16
  tos : UInt8
deriving DecidableEq

def maxUdpPayload : Nat := 1472

namespace DpdkTxQueue

def drain (self : DpdkTxQueue) : List (List UInt8) × DpdkTxQueue := (self.pending, { self with pending := [] })

def boundIp (self : DpdkTxQueue) : Ipv4Addr :=
  match self.localAddr with
  | .v4 ip _ => ip
  | .v6 _ _ _ _ => ⟨0, 0, 0, 0⟩

def route (self : DpdkTxQueue) (message : Message) : Option Route := do
  let (dstIp, dstPort) ← socketAddressToV4 message.path.remoteAddress
  let (srcIp, srcPort) := (socketAddressToV4 message.path.localAddress).getD (self.boundIp, self.localAddr.port)
  let srcIp := if srcIp = ⟨0, 0, 0, 0⟩ then self.boundIp else srcIp
  let srcPort := if srcPort = 0 then self.localAddr.port else srcPort
  return { srcIp, dstIp, srcPort, dstPort, tos := ecnToTosBits message.ecn }

def pushSegment (self : DpdkTxQueue) (route : Route) (payload : List UInt8) :
    Option (Except TxError Unit × DpdkTxQueue) := do
  let (built, frameBuf) ← buildQuicFrame [] self.srcMac self.gatewayMac route.srcIp route.dstIp route.srcPort
    route.dstPort payload route.tos
  match built with
  | .error _ => return (.error .undersizedBuffer, { self with frameBuf })
  | .ok _ => return (.ok (), { self with frameBuf, pending := self.pending ++ [frameBuf] })

theorem pushSegment_grows {self q : DpdkTxQueue} {route : Route} {payload : List UInt8}
    (h : self.pushSegment route payload = some (.ok (), q)) :
    q.capacity = self.capacity ∧ q.pending.length = self.pending.length + 1 := by
  obtain ⟨⟨built, frameBuf⟩, -, h⟩ := Option.bind_eq_some_iff.1 h
  cases built with
  | error _ => exact absurd h (by simp)
  | ok _ =>
    obtain ⟨-, rfl⟩ := Prod.mk.inj (Option.some.inj h)
    exact ⟨rfl, by simp⟩

/-- The loop over further segments: the total length, and the queue. -/
def pushSegments (self : DpdkTxQueue) (message : Message) (route : Route) (written gsoOffset totalLen segmentCount : Nat) :
    Option (Except TxError Nat × DpdkTxQueue) :=
  if message.canGso written (segmentCount + 1) then
    if _hroom : self.pending.length ≥ self.capacity then some (.ok totalLen, self)
    else
      match message.writePayload (List.replicate maxUdpPayload 0) gsoOffset with
      | .error _ => some (.ok totalLen, self)
      | .ok (n, segBuf) =>
        if n > 0 then
          (readSlice segBuf 0 n).bind fun payload =>
            match hq : self.pushSegment route payload with
            | none => none
            | some (.error e, q) => some (.error e, q)
            | some (.ok (), q) => q.pushSegments message route written (gsoOffset + n) (totalLen + n) (segmentCount + 1)
        else some (.ok totalLen, self)
  else some (.ok totalLen, self)
termination_by self.capacity - self.pending.length
decreasing_by
  obtain ⟨hcapacity, hlength⟩ := pushSegment_grows hq
  omega

def push (self : DpdkTxQueue) (message : Message) : Option (Except TxError Outcome × DpdkTxQueue) := do
  if self.pending.length ≥ self.capacity then return (.error .atCapacity, self)
  let route ← self.route message
  let index := self.pending.length
  match message.writePayload (List.replicate maxUdpPayload 0) 0 with
  | .error e => return (.error e, self)
  | .ok (written, payloadBuf) =>
    if written = 0 then return (.error .emptyPayload, self)
    match ← self.pushSegment route (← readSlice payloadBuf 0 written) with
    | (.error e, q) => return (.error e, q)
    | (.ok (), q) =>
      match ← q.pushSegments message route written written written 1 with
      | (.error e, q) => return (.error e, q)
      | (.ok len, q) => return (.ok { len, index }, q)

end DpdkTxQueue

/-! ## The event loop (`event_loop.rs`, `stats.rs`) -/

/-- The counters, which wrap. -/
structure ProviderStats where
  rxBurstCalls : UInt64 := 0
  txBurstCalls : UInt64 := 0
  datagramsReceived : UInt64 := 0
  datagramsTransmitted : UInt64 := 0
  rxDrops : UInt64 := 0
  txDrops : UInt64 := 0
  timerWakeups : UInt64 := 0

inductive FrameOutcome
  | icmp (action : Option (IcmpAction Ipv4Addr))
  | datagram (d : RxDatagram)
  | ignored
deriving DecidableEq

namespace FrameOutcome

def datagram? : FrameOutcome → Option RxDatagram
  | datagram d => some d
  | icmp _ | ignored => none

def reply? : FrameOutcome → Option (List UInt8)
  | icmp (some (.reply reply)) => some reply
  | _ => none

end FrameOutcome

def dispatchFrame (localAddr : SocketAddr) (icmpHandler : Handler Ipv4Addr) (frame : List UInt8) : FrameOutcome :=
  let protocol := frame[14 + 9]?.getD 0
  if protocol = 1 then .icmp (icmpHandler.processIcmpFull frame)
  else
    match rxDatagram frame localAddr with
    | some d => .datagram d
    | none => .ignored

/-- The datagrams that these frames yield, in order. -/
def datagramsOf (localAddr : SocketAddr) (icmpHandler : Handler Ipv4Addr) (frames : List (List UInt8)) :
    List RxDatagram :=
  frames.filterMap fun frame => (dispatchFrame localAddr icmpHandler frame).datagram?

/-- The frames queued by these pushes, in order, and the queue; a panic leaves none. -/
def DpdkTxQueue.pushAll : DpdkTxQueue → List Message → List (List UInt8) × Option DpdkTxQueue
  | q, [] => ([], some q)
  | q, message :: messages =>
    match q.push message with
    | none => ([], none)
    | some (_, q') =>
      let (frames, last) := q'.pushAll messages
      (q'.pending.drop q.pending.length ++ frames, last)

structure LoopState where
  localAddr : SocketAddr
  icmpHandler : Handler Ipv4Addr
  txQueue : DpdkTxQueue
  rxQueue : List RxDatagram := []
  stats : ProviderStats := {}
  running : Bool := true

/-- What the rest of the program and the card do in an iteration of the loop. -/
structure Iteration where
  shutdown : Bool := false
  /-- `poll_wakeups` reports that all handles are gone. -/
  closed : Bool := false
  /-- `recv_frames`; nothing is an error. -/
  frames : Option (List (List UInt8)) := some []
  messages : List Message := []
  /-- The result of the `k`-th `send_frame` for the transmit queue. -/
  sends : Nat → Bool := fun _ => true

/-- What an iteration took in and gave out. -/
structure Record where
  parsed : List RxDatagram
  given : List RxDatagram
  /-- The replies of ICMP; whether the backend takes them does not matter. -/
  replies : List (List UInt8)
  pushed : List (List UInt8)
  /-- The frames offered to the backend, with its answers. -/
  offered : List (List UInt8 × Bool)
  panicked : Bool

namespace LoopState

/-- The frames of a burst: with the state, the replies. -/
def receiveBurst (s : LoopState) (frames : List (List UInt8)) : LoopState × List (List UInt8) :=
  let outcomes := frames.map (dispatchFrame s.localAddr s.icmpHandler)
  let datagrams := outcomes.filterMap (·.datagram?)
  ({ s with
      rxQueue := s.rxQueue ++ datagrams
      stats := { s.stats with datagramsReceived := s.stats.datagramsReceived + .ofNat datagrams.length } },
    outcomes.filterMap (·.reply?))

/-- The receiving half: with the state, what the endpoint is given, and the replies. -/
def rxPath (s : LoopState) (frames : Option (List (List UInt8))) :
    LoopState × List RxDatagram × List (List UInt8) :=
  let s := { s with stats := { s.stats with rxBurstCalls := s.stats.rxBurstCalls + 1 } }
  let (s, replies) := match frames with
    | some frames => s.receiveBurst frames
    | none => ({ s with stats := { s.stats with rxDrops := s.stats.rxDrops + 1 } }, [])
  ({ s with rxQueue := [] }, s.rxQueue, replies)

/-- The frames of the transmit queue are offered to the backend, one after the other. -/
def txPath (s : LoopState) (txQueue : DpdkTxQueue) (sends : Nat → Bool) : LoopState × List (List UInt8 × Bool) :=
  let (frames, txQueue) := txQueue.drain
  let offered := frames.mapIdx fun k frame => (frame, sends k)
  ({ s with
      txQueue
      stats := { s.stats with
        datagramsTransmitted := s.stats.datagramsTransmitted + .ofNat (offered.countP (·.2))
        txDrops := s.stats.txDrops + .ofNat (offered.countP (!·.2)) } },
    offered)

/-- An iteration; a push that panics ends the thread. -/
def iterate (s : LoopState) (it : Iteration) : LoopState × List Record :=
  if !s.running then (s, [])
  else if it.shutdown || it.closed then ({ s with running := false }, [])
  else
    let parsed := datagramsOf s.localAddr s.icmpHandler (it.frames.getD [])
    let s := { s with stats := { s.stats with timerWakeups := s.stats.timerWakeups + 1 } }
    let (s, given, replies) := s.rxPath it.frames
    let s := { s with stats := { s.stats with txBurstCalls := s.stats.txBurstCalls + 1 } }
    match s.txQueue.pushAll it.messages with
    | (pushed, none) =>
      ({ s with running := false }, [{ parsed, given, replies, pushed, offered := [], panicked := true }])
    | (pushed, some txQueue) =>
      let (s, offered) := s.txPath txQueue it.sends
      (s, [{ parsed, given, replies, pushed, offered, panicked := false }])

end LoopState

end DpdkStdlib.Quic
