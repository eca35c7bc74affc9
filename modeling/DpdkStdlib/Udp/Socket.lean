import DpdkStdlib.Udp.Icmp
import DpdkStdlib.Udp.Send

/-!
# The socket: receiving (`lib.rs`)

The receive queue, the dispatcher `process_frame_zerocopy_locked`, one poll of the run-to-completion receive calls, and
one poll of `resolve_arp`, which has a dispatcher of its own.

What a frame makes the socket do depends on its bytes, on the configuration and on `only_v6`: `dispatch` and
`resolveEffect` say it, in the order of the source's branches, and `processFrame` and `resolveFrame` do it.  The parsers
and verifiers are called in their closed forms (`parseUdpPacketRef_eq` and the like).

A datagram carries the frame it came from, and a frame the number of `connect` calls before it: both are there for
specifications only and no function looks at them.  Left out: performance counters and latency samples, the
non-blocking variants (which differ in giving up where these wait), errors of the backend.
-/

namespace DpdkStdlib.Udp
open DpdkStdlib.Lib

/-! ## Frames and datagrams -/

/-- A frame as the backend returns it, with the tag that the card has stripped off, if it has. -/
structure RxFrame where
  data : List UInt8
  hwVlanTci : Option UInt16 := none
deriving DecidableEq

/-- A frame, and how often `connect` had been called when it was received. -/
structure Arrival extends RxFrame where
  connects : Nat
deriving DecidableEq

structure Datagram where
  payload : List UInt8
  src : SocketAddr
  arrival : Arrival
deriving DecidableEq

def Datagram.cut (d : Datagram) (n : Nat) : Datagram := { d with payload := d.payload.take n }

/-- What one call of the backend's receive function returns, at one reading of the clock. -/
structure Burst where
  now : Instant
  frames : List RxFrame

/-! ## The receive queue -/

/-- `ReceiveQueue`, the oldest datagram first.  Its bytes are in memory, so sums of their number do not overflow. -/
structure ReceiveQueue where
  packets : List Datagram := []
  maxPackets : Nat := 4096
  maxBytes : Nat := 262144
  currentBytes : Nat := 0
  freeList : List (List UInt8) := []

namespace ReceiveQueue

def pushSlice (self : ReceiveQueue) (d : Datagram) : Bool × ReceiveQueue :=
  let size := d.payload.length
  if self.packets.length ≥ self.maxPackets ∨ self.currentBytes + size > self.maxBytes then (false, self)
  else
    let v := self.freeList.getLast?.getD []
    -- `clear` and `extend_from_slice`
    let v := v.take 0 ++ d.payload
    (true,
      { self with
        freeList := self.freeList.dropLast
        currentBytes := self.currentBytes + size
        packets := self.packets ++ [{ d with payload := v }] })

def popInto (self : ReceiveQueue) (n : Nat) : Option Datagram × ReceiveQueue :=
  match self.packets with
  | [] => (none, self)
  | d :: packets =>
    (some (d.cut n),
      { self with
        packets
        currentBytes := self.currentBytes - d.payload.length
        freeList := if self.freeList.length < 256 then self.freeList ++ [d.payload] else self.freeList })

end ReceiveQueue

/-! ## State -/

/-- `RecvDropStats`, of atomic counters, which wrap. -/
structure RecvDropStats where
  packets : UInt64 := 0
  bytes : UInt64 := 0
deriving DecidableEq

/-- `ConnectionState`, what receiving counts.  The counters wrap, as in a build without overflow checks. -/
structure ConnectionState where
  localAddr : SocketAddr
  remoteAddr : SocketAddr
  packetsReceived : UInt64 := 0
  bytesReceived : UInt64 := 0

/-- The fields of `UdpSocket` that change.  `is_connected` and `has_connection_state` say whether the two options are
set. -/
structure SocketState where
  onlyV6 : Bool := false
  connectedAddr : Option SocketAddr := none
  connectionState : Option ConnectionState := none
  queue : ReceiveQueue := {}
  rrIndex : Nat := 0
  hasBufferedPackets : Bool := false
  recvDrops : RecvDropStats := {}
  errorQueue : List IoError := []
  hasPendingError : Bool := false
  arpCache : NeighborCache Ipv4Addr := .new
  ndpCache : NeighborCache Ipv6Addr := .new
  /-- How often `connect` has been called; for specifications only. -/
  connects : Nat := 0

namespace SocketState

/-- Whether the datagram was taken, and the socket afterwards. -/
def rxEnqueue (st : SocketState) (d : Datagram) : Bool × SocketState :=
  match st.queue.pushSlice d with
  | (false, _) =>
    (false, { st with recvDrops := { packets := st.recvDrops.packets + 1
                                     bytes := st.recvDrops.bytes + .ofNat d.payload.length } })
  | (true, queue) => (true, { st with queue, hasBufferedPackets := true })

def rxDequeueInto (st : SocketState) (n : Nat) : Option Datagram × SocketState :=
  let (popped, queue) := st.queue.popInto n
  (popped, { st with queue, hasBufferedPackets := if queue.packets.isEmpty then false else st.hasBufferedPackets })

def queueIcmpError (st : SocketState) (error : IoError) : SocketState :=
  if st.errorQueue.length < 16 then { st with errorQueue := st.errorQueue ++ [error], hasPendingError := true } else st

/-- `take_error`: the oldest pending error. -/
def takeError (st : SocketState) : Option IoError × SocketState :=
  if st.hasPendingError then
    let errorQueue := st.errorQueue.tail
    (st.errorQueue.head?,
      { st with errorQueue, hasPendingError := if errorQueue.isEmpty then false else st.hasPendingError })
  else (none, st)

def recordRecv (st : SocketState) (bytes : Nat) : SocketState :=
  { st with connectionState := st.connectionState.map fun state =>
      { state with packetsReceived := state.packetsReceived + 1, bytesReceived := state.bytesReceived + .ofNat bytes } }

def connect (cfg : SocketConfig) (st : SocketState) (addr : SocketAddr) : SocketState :=
  { st with
    connectionState := some { localAddr := cfg.localAddr, remoteAddr := addr }
    connectedAddr := some addr
    connects := st.connects + 1 }

def setOnlyV6 (cfg : SocketConfig) (st : SocketState) (onlyV6 : Bool) : SocketState :=
  match cfg.localAddr with
  | .v4 _ _ => st
  | .v6 _ _ _ _ => { st with onlyV6 }

def setRecvBufferSize (st : SocketState) (bytes : Nat) : SocketState :=
  if bytes = 0 then st else { st with queue := { st.queue with maxBytes := bytes } }

/-- The socket is connected, and not to this source. -/
def isForeign (st : SocketState) (src : SocketAddr) : Bool := st.connectedAddr.any (src ≠ ·)

end SocketState

/-! ## What a frame makes the socket do -/

/-- The address of a socket's own family, as the handlers of both families were given it. -/
def SocketConfig.localIpv4 (cfg : SocketConfig) : Ipv4Addr :=
  match cfg.localAddr with
  | .v4 ip _ => ip
  | .v6 _ _ _ _ => ⟨0, 0, 0, 0⟩

def SocketConfig.localIpv6 (cfg : SocketConfig) : Ipv6Addr :=
  match cfg.localAddr with
  | .v4 _ _ => 0
  | .v6 ip _ _ _ => ip

def SocketConfig.localPort (cfg : SocketConfig) : UInt16 := cfg.localAddr.port

def SocketConfig.handler4 (cfg : SocketConfig) : Handler Ipv4Addr := ⟨cfg.mac, [cfg.localIpv4]⟩

def SocketConfig.handler6 (cfg : SocketConfig) : Handler Ipv6Addr := ⟨cfg.mac, [cfg.localIpv6]⟩

def SocketConfig.acceptsVlan (cfg : SocketConfig) (layout : FrameLayout) : Bool :=
  cfg.vlan.all fun vlan => vlan.acceptsFrame layout.vlanId

structure FrameEffect where
  arpEntry : Option (Ipv4Addr × MacAddr) := none
  ndpEntry : Option (Ipv6Addr × MacAddr) := none
  reply : Option (List UInt8) := none
  error : Option IoError := none
  datagram : Option Datagram := none
  /-- Whether handing the datagram over counts as received on the connection. -/
  recorded : Bool := false

/-- The branch for ICMP: an IPv6 socket has no IPv4 port, zero stands for it. -/
def icmpEffect (cfg : SocketConfig) (frame : List UInt8) : FrameEffect :=
  match cfg.handler4.processIcmpFull frame with
  | some (.reply reply) => { reply := if cfg.autoIcmp then some reply else none }
  | some (.error info) =>
    let localPort := match cfg.localAddr with
      | .v4 _ port => port
      | .v6 _ _ _ _ => 0
    { error := if info.originalSrcPort = localPort then some info.toIoError else none }
  | none => {}

def icmpv6Effect (cfg : SocketConfig) (frame : List UInt8) : FrameEffect :=
  match cfg.handler6.processIcmpv6Full frame with
  | some (.reply reply) => { reply := if cfg.autoIcmp then some reply else none }
  | some (.error info) => { error := if info.originalSrcPort = cfg.localPort then some info.toIoError6 else none }
  | none => {}

/-- The three decapsulators, in turn, on an IPv4 frame. -/
def SocketConfig.decapsulate (cfg : SocketConfig) (layout : FrameLayout) (frame : List UInt8) : Option InnerDatagram :=
  if layout.ethertype ≠ 0x0800 then none
  else
    (cfg.gue.bind fun gue => (tryDecapGue frame layout.l3Offset gue.localPort).map (·.toInnerDatagram)).or <|
    (cfg.vxlan.bind fun vxlan =>
      (tryDecapVxlan frame layout.l3Offset vxlan.localPort (some vxlan.vni)).map (·.toInnerDatagram)).or <|
    cfg.geneve.bind fun geneve =>
      (tryDecapGeneve frame layout.l3Offset geneve.localPort (some geneve.vni)).map (·.toInnerDatagram)

def SocketConfig.forPort (cfg : SocketConfig) (dstPort : UInt16) (d : Datagram) : Option Datagram :=
  if dstPort ≠ cfg.localPort then none else some d

/-- The branches of the tunnels: no checksum is verified. -/
def tunnelEffect (cfg : SocketConfig) (a : Arrival) (decap : InnerDatagram) : FrameEffect :=
  { datagram := cfg.forPort decap.innerDstPort ⟨decap.payload, .v4 decap.innerSrcIp decap.innerSrcPort, a⟩ }

/-- The IPv4 branch, on a frame that the parser accepts. -/
def udpEffect (cfg : SocketConfig) (a : Arrival) (parsed : ParsedUdpPacketRef Ipv4Addr) : FrameEffect :=
  if ¬ ipv4ChecksumOk a.data then {}
  else if ¬ udpChecksumOk a.data then {}
  else
    { arpEntry := some (parsed.srcIp, parsed.srcMac)
      datagram := cfg.forPort parsed.dstPort ⟨parsed.payload, .v4 parsed.srcIp parsed.srcPort, a⟩
      recorded := true }

def udp6Effect (cfg : SocketConfig) (a : Arrival) : FrameEffect :=
  match udp6ViewRef a.data with
  | none => {}
  | some parsed =>
    if ¬ udp6ChecksumOk a.data then {}
    else
      { ndpEntry := some (parsed.srcIp, parsed.srcMac)
        datagram := cfg.forPort parsed.dstPort ⟨parsed.payload, .v6 parsed.srcIp parsed.srcPort 0 0, a⟩
        recorded := true }

def plainEffect (cfg : SocketConfig) (onlyV6 : Bool) (a : Arrival) : FrameEffect :=
  if onlyV6 then udp6Effect cfg a
  else
    match udpViewRef a.data with
    | some parsed => udpEffect cfg a parsed
    | none => udp6Effect cfg a

/-- What a frame makes a receive call do, by its kind. -/
def dispatch (cfg : SocketConfig) (onlyV6 : Bool) (a : Arrival) : FrameEffect :=
  match layoutOf a.data a.hwVlanTci with
  | none => {}
  | some layout =>
    let l3 := layout.l3Offset
    if !cfg.acceptsVlan layout then {}
    else if layout.ethertype = 0x0806 ∧ cfg.autoArp then
      let (arpEntry, reply) := cfg.handler4.processArp a.data
      { arpEntry, reply }
    else if layout.ethertype = 0x0800 ∧ a.data.length > l3 + 9 ∧ byteAt a.data (l3 + 9) = 1 then icmpEffect cfg a.data
    -- the offsets of NDP are those of an untagged frame
    else if layout.ethertype = 0x86DD ∧ cfg.autoArp ∧ a.data.length > 14 + 40 ∧ byteAt a.data (14 + 6) = 58 ∧
        (byteAt a.data (14 + 40) = 135 ∨ byteAt a.data (14 + 40) = 136) then
      let (ndpEntry, reply) := cfg.handler6.processNdp a.data
      { ndpEntry, reply }
    else if layout.ethertype = 0x86DD ∧ a.data.length > l3 + 40 ∧
        (upperLayer (a.data.drop l3)).any (·.protocol = 58) then icmpv6Effect cfg a.data
    else
      match cfg.decapsulate layout a.data with
      | some decap => tunnelEffect cfg a decap
      | none => plainEffect cfg onlyV6 a

/-- What `resolve_arp` does with a frame: the tag is not looked at, and nothing but ARP and IPv4 is. -/
def resolveEffect (cfg : SocketConfig) (a : Arrival) : FrameEffect :=
  if a.data.length < 14 then {}
  else if be16At a.data 12 = 0x0806 then
    let (arpEntry, reply) := cfg.handler4.processArp a.data
    { arpEntry, reply }
  else if be16At a.data 12 = 0x0800 then
    match udpView a.data with
    | some parsed =>
      { arpEntry := some (parsed.srcIp, macAt a.data 6)
        datagram := some ⟨parsed.payload, .v4 parsed.srcIp parsed.srcPort, a⟩ }
    | none => {}
  else {}

/-! ## Doing it -/

def SocketState.learn (st : SocketState) (now : Instant) (effect : FrameEffect) : SocketState :=
  let st := effect.arpEntry.elim st fun (ip, mac) => { st with arpCache := st.arpCache.insert now ip mac }
  let st := effect.ndpEntry.elim st fun (ip, mac) => { st with ndpCache := st.ndpCache.insertIfChanged now ip mac }
  effect.error.elim st st.queueIcmpError

/-- A receive call on its way: the socket, the datagram it will return, the replies, and, for specifications, which
datagrams were kept. -/
structure Poll where
  sock : SocketState
  result : Option Datagram := none
  replies : List (List UInt8) := []
  verdicts : List (Datagram × Bool) := []

namespace Poll

def enqueue (p : Poll) (d : Datagram) : Poll :=
  let (kept, sock) := p.sock.rxEnqueue d
  { p with sock, verdicts := p.verdicts ++ [(d, kept)] }

/-- Hand a datagram over to the caller, whose buffer has `n` bytes. -/
def deliver (p : Poll) (n : Nat) (recorded : Bool) (d : Datagram) : Poll :=
  { p with
    sock := if recorded then p.sock.recordRecv (min n d.payload.length) else p.sock
    result := some (d.cut n)
    verdicts := p.verdicts ++ [(d, true)] }

end Poll

/-- `process_frame_zerocopy_locked` for a call with a buffer of `n` bytes. -/
def processFrame (cfg : SocketConfig) (n : Nat) (now : Instant) (p : Poll) (frame : RxFrame) : Poll :=
  let effect := dispatch cfg p.sock.onlyV6 ⟨frame, p.sock.connects⟩
  let p := { p with sock := p.sock.learn now effect, replies := p.replies ++ effect.reply.toList }
  match effect.datagram with
  | none => p
  | some d =>
    if p.sock.isForeign d.src then p.enqueue d
    else if p.result.isNone then p.deliver n effect.recorded d
    else p.enqueue d

/-- One turn of `recv_from_inline`, and all of `try_recv_from_inline_poll`; with it, the bursts left. -/
def recvInline (cfg : SocketConfig) (n : Nat) (p : Poll) (wire : List Burst) : Poll × List Burst :=
  match p.sock.rxDequeueInto n with
  | (some d, sock) => ({ p with sock, result := some d }, wire)
  | (none, sock) =>
    match wire with
    | [] => ({ p with sock }, [])
    | burst :: wire => (burst.frames.foldl (processFrame cfg n burst.now) { p with sock }, wire)

def recvFromInline (cfg : SocketConfig) (n : Nat) : Nat → Poll → List Burst → Poll × List Burst
  | 0, p, wire => (p, wire)
  | turns + 1, p, wire =>
    let (p, wire) := recvInline cfg n p wire
    if p.result.isSome then (p, wire) else recvFromInline cfg n turns p wire

def resolveFrame (cfg : SocketConfig) (now : Instant) (p : Poll) (frame : RxFrame) : Poll :=
  let effect := resolveEffect cfg ⟨frame, p.sock.connects⟩
  let p := { p with sock := p.sock.learn now effect, replies := p.replies ++ effect.reply.toList }
  effect.datagram.elim p p.enqueue

def resolvePoll (cfg : SocketConfig) (p : Poll) (burst : Burst) : Poll :=
  burst.frames.foldl (resolveFrame cfg burst.now) p

/-- The polls of one attempt, until the address is known; with it, the bursts left. -/
def resolvePolls (cfg : SocketConfig) (targetIp : Ipv4Addr) :
    Nat → Poll → List Burst → Option MacAddr × Poll × List Burst
  | 0, p, wire => (none, p, wire)
  | _ + 1, p, [] => (none, p, [])
  | polls + 1, p, burst :: wire =>
    let p := resolvePoll cfg p burst
    match resolve p.sock.arpCache burst.now targetIp with
    | some mac => (some mac, p, wire)
    | none => resolvePolls cfg targetIp polls p wire

def resolveAttempts (cfg : SocketConfig) (targetIp : Ipv4Addr) (arpFrame : List UInt8) :
    Nat → Poll → List Burst → Option MacAddr × Poll × List Burst
  | 0, p, wire => (none, p, wire)
  | attempts + 1, p, wire =>
    match resolvePolls cfg targetIp 10000 { p with replies := p.replies ++ [arpFrame] } wire with
    | (some mac, p, wire) => (some mac, p, wire)
    | (none, p, wire) => resolveAttempts cfg targetIp arpFrame attempts p wire

/-- `resolve_arp`: without an address of its own the socket takes `dst_mac`; no result is the error
`AddrNotAvailable`. -/
def resolveArp (cfg : SocketConfig) (dstMac : MacAddr) (targetIp : Ipv4Addr) (st : SocketState) (wire : List Burst) :
    Option MacAddr × Poll × List Burst :=
  match cfg.handler4.makeRequest targetIp with
  | none => (some dstMac, { sock := st }, wire)
  | some arpFrame => resolveAttempts cfg targetIp arpFrame 3 { sock := st } wire

end DpdkStdlib.Udp
