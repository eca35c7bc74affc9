import DpdkStdlib.Udp.Socket
import DpdkStdlib.Lib.Run

/-!
# The pipeline, and runs of a socket (`frame_pool.rs`, `topology.rs`, `lib.rs`)

A receive thread copies frames into a pool and hands references to workers; these hand what they have checked to the
application, which copies the payload and frees the slot.  A thread's step is one burst, one batch or one frame; steps
of different threads interleave in any order.

A ring between two threads is a queue of bounded length.  A slot has 2048 bytes, so the 16-bit lengths and offsets in
references hold.
-/

namespace DpdkStdlib.Udp
open DpdkStdlib.Lib

/-! ## The frame pool -/

structure FrameRef where
  poolIdx : Nat
  len : Nat
deriving DecidableEq

/-- `AppPacket`, the fields that the application reads. -/
structure AppPacket where
  frameRef : FrameRef
  payloadOffset : Nat
  payloadLen : Nat
  srcAddr : SocketAddr
deriving DecidableEq

def frameSize : Nat := 2048

/-- `FramePool`: the free list has the index to allocate next first. -/
structure FramePool where
  buffer : Nat → List UInt8
  freeList : List Nat
  /-- The frame last copied into a slot; for specifications only. -/
  origin : Nat → Arrival

namespace FramePool

def new (capacity : Nat) : FramePool :=
  { buffer := fun _ => List.replicate frameSize 0, freeList := List.range capacity, origin := fun _ => ⟨⟨[], none⟩, 0⟩ }

def copyIn (self : FramePool) (idx : Nat) (a : Arrival) : FramePool :=
  let len := min a.data.length frameSize
  let slot := a.data.take len ++ (self.buffer idx).drop len
  { self with buffer := Function.update self.buffer idx slot, origin := Function.update self.origin idx a }

def allocCopy (self : FramePool) (a : Arrival) : Option FrameRef × FramePool :=
  match self.freeList with
  | [] => (none, self)
  | idx :: freeList => (some ⟨idx, min a.data.length frameSize⟩, { self with freeList }.copyIn idx a)

def free (self : FramePool) (idx : Nat) : FramePool := { self with freeList := self.freeList ++ [idx] }

def frame (self : FramePool) (ref : FrameRef) : List UInt8 := (self.buffer ref.poolIdx).take ref.len

/-- The datagram that an entry of an application ring stands for. -/
def datagram (self : FramePool) (pkt : AppPacket) : Datagram :=
  { payload := ((self.buffer pkt.frameRef.poolIdx).drop pkt.payloadOffset).take pkt.payloadLen
    src := pkt.srcAddr
    arrival := self.origin pkt.frameRef.poolIdx }

/-- The receive function of the pipeline: what finds no slot is lost. -/
def recvInto (self : FramePool) : List Arrival → List FrameRef × FramePool
  | [] => ([], self)
  | a :: rest =>
    let (ref, pool) := self.allocCopy a
    let (refs, pool) := pool.recvInto rest
    (ref.toList ++ refs, pool)

end FramePool

/-! ## The threads -/

/-- A worker: the ring it reads, the batch it has in hand, the ring it writes. -/
structure Worker where
  ring : List FrameRef := []
  batch : List FrameRef := []
  appRing : List AppPacket := []

/-- The frame pool, the receive ring, and the workers. -/
structure Pipeline where
  ringCapacity : Nat
  pool : FramePool
  workers : List Worker
  rxRefs : List FrameRef := []
  rrIndex : Nat := 0

namespace Pipeline

/-- `start_pipeline`, where the capacity is 16384. -/
def new (capacity numWorkers : Nat) : Pipeline :=
  { ringCapacity := capacity, pool := .new capacity, workers := List.replicate numWorkers {} }

def free (self : Pipeline) (ref : FrameRef) : Pipeline := { self with pool := self.pool.free ref.poolIdx }

def modifyWorker (self : Pipeline) (w : Nat) (f : Worker → Worker) : Pipeline :=
  { self with workers := self.workers.modify w f }

/-- The first worker from the round-robin index on whose ring has room. -/
def findRing (self : Pipeline) : Option Nat :=
  let numWorkers := self.workers.length
  let target := self.rrIndex % numWorkers
  ((List.range numWorkers).map fun offset => (target + offset) % numWorkers).find? fun idx =>
    self.workers[idx]?.any (·.ring.length < self.ringCapacity)

/-- To the first ring with room, or back to the pool. -/
def toWorker (self : Pipeline) (ref : FrameRef) : Pipeline :=
  let next := { self with rrIndex := (self.rrIndex + 1) % 2 ^ 64 }
  match self.findRing with
  | some idx => next.modifyWorker idx fun worker => { worker with ring := worker.ring ++ [ref] }
  | none => next.free ref

end Pipeline

/-- `rx_loop` on one frame: the pipeline, and what the frame makes the socket do. -/
def rxFrame (cfg : SocketConfig) (pl : Pipeline) : Pipeline × FrameEffect :=
  match pl.rxRefs with
  | [] => (pl, {})
  | ref :: rxRefs =>
    let pl := { pl with rxRefs }
    let frame := pl.pool.frame ref
    if ref.len < 14 then (pl.free ref, {})
    else if be16At frame 12 = 0x0806 then
      let (arpEntry, reply) := cfg.handler4.processArp frame
      (pl.free ref, { arpEntry, reply })
    else if be16At frame 12 = 0x0800 ∧ ref.len > 14 + 9 ∧ byteAt frame (14 + 9) = 1 then
      (pl.free ref, { reply := cfg.handler4.processIcmp frame })
    else (pl.toWorker ref, {})

/-- The port that the workers filter by; an IPv6 socket has no IPv4 port, zero stands for it. -/
def SocketConfig.pipelinePort (cfg : SocketConfig) : UInt16 :=
  match cfg.localAddr with
  | .v4 _ port => port
  | .v6 _ _ _ _ => 0

def Worker.takeBatch (worker : Worker) : Worker :=
  if worker.batch.isEmpty then { worker with batch := worker.ring.take 32, ring := worker.ring.drop 32 } else worker

/-- What a worker makes of a frame: the entry it learns, and the packet for the application. -/
def workerEffect (cfg : SocketConfig) (ref : FrameRef) (frame : List UInt8) :
    Option (Ipv4Addr × MacAddr) × Option AppPacket :=
  match udpViewRef frame with
  | none => (none, none)
  | some parsed =>
    if ¬ ipv4ChecksumOk frame ∨ ¬ udpChecksumOk frame then (none, none)
    else
      (some (parsed.srcIp, macAt frame 6),
        if parsed.dstPort = cfg.pipelinePort then some
          { frameRef := ref, payloadOffset := parsed.payloadOffset, payloadLen := parsed.payload.length
            srcAddr := .v4 parsed.srcIp parsed.srcPort }
        else none)

/-- `worker_loop` on one frame of worker `w`; with it, the entry it learns. -/
def workerFrame (cfg : SocketConfig) (w : Nat) (pl : Pipeline) : Pipeline × Option (Ipv4Addr × MacAddr) :=
  match pl.workers[w]? with
  | none => (pl, none)
  | some worker =>
    match worker.batch with
    | [] => (pl, none)
    | ref :: batch =>
      let pl := pl.modifyWorker w fun worker => { worker with batch }
      let (entry, packet) := workerEffect cfg ref (pl.pool.frame ref)
      match packet with
      | none => (pl.free ref, entry)
      | some pkt =>
        if worker.appRing.length < pl.ringCapacity then
          (pl.modifyWorker w fun worker => { worker with appRing := worker.appRing ++ [pkt] }, entry)
        else (pl.free ref, entry)

/-! ## The application -/

/-- `dequeue_app_rings`: the packet, the new round-robin index and the pipeline. -/
def Pipeline.dequeueAppRings (self : Pipeline) (rrIndex : Nat) : Option (AppPacket × Nat × Pipeline) :=
  let n := self.workers.length
  let full := ((List.range (rrIndex + n)).map fun offset => offset % n).find? fun idx =>
    self.workers[idx]?.any (!·.appRing.isEmpty)
  full.bind fun idx =>
    self.workers[idx]?.bind fun worker =>
      worker.appRing.head?.map fun pkt =>
        (pkt, idx + 1, self.modifyWorker idx fun worker => { worker with appRing := worker.appRing.tail })

def takePacket (recorded : Bool) (n : Nat) (p : Poll) (pl : Pipeline) : Poll × Pipeline :=
  match pl.dequeueAppRings p.sock.rrIndex with
  | none => (p, pl)
  | some (pkt, rrIndex, pl) =>
    let p := { p with sock := { p.sock with rrIndex } }
    let d := pl.pool.datagram pkt
    let pl := pl.free pkt.frameRef
    -- what is queued is what was copied
    if p.sock.isForeign d.src then (p.enqueue (d.cut n), pl) else (p.deliver n recorded d, pl)

/-- One turn of `recv_from_pipeline` (`recorded`), or all of `try_recv_from_pipeline`. -/
def recvPipeline (recorded : Bool) (n : Nat) (p : Poll) (pl : Pipeline) : Poll × Pipeline :=
  if p.sock.hasBufferedPackets then
    match p.sock.rxDequeueInto n with
    | (some d, sock) => ({ p with sock, result := some d }, pl)
    | (none, sock) => takePacket recorded n { p with sock := { sock with hasBufferedPackets := false } } pl
  else takePacket recorded n p pl

/-! ## Runs -/

/-- A socket with what is still to arrive; without a pipeline it runs to completion. -/
structure World where
  sock : SocketState := {}
  wire : List Burst := []
  pipeline : Option Pipeline := none

inductive Event
  /-- One turn of `recv_from`, with a buffer of so many bytes: a blocked call takes one turn after the other. -/
  | recvFrom (n : Nat)
  | tryRecvFrom (n : Nat)
  | connect (addr : SocketAddr)
  | setOnlyV6 (onlyV6 : Bool)
  | setRecvBufferSize (bytes : Nat)
  | takeError
  | resolvePoll
  | rxPoll
  | rxFrame (now : Instant)
  | workerTake (w : Nat)
  | workerFrame (w : Nat) (now : Instant)

inductive Output
  | returned (d : Datagram)
  | sent (frame : List UInt8)
  | error (e : IoError)
deriving DecidableEq

def Poll.outputs (p : Poll) : List Output := p.result.toList.map .returned ++ p.replies.map .sent

namespace World

def receive (cfg : SocketConfig) (w : World) (recorded : Bool) (n : Nat) : World × List Output :=
  match w.pipeline with
  | none =>
    let (p, wire) := recvInline cfg n { sock := w.sock } w.wire
    ({ w with sock := p.sock, wire }, p.outputs)
  | some pl =>
    let (p, pl) := recvPipeline recorded n { sock := w.sock } pl
    ({ w with sock := p.sock, pipeline := some pl }, p.outputs)

def step (cfg : SocketConfig) (w : World) : Event → World × List Output
  | .recvFrom n => w.receive cfg true n
  | .tryRecvFrom n => w.receive cfg false n
  | .connect addr => ({ w with sock := w.sock.connect cfg addr }, [])
  | .setOnlyV6 onlyV6 => ({ w with sock := w.sock.setOnlyV6 cfg onlyV6 }, [])
  | .setRecvBufferSize bytes => ({ w with sock := w.sock.setRecvBufferSize bytes }, [])
  | .takeError =>
    let (e, sock) := w.sock.takeError
    ({ w with sock }, e.toList.map .error)
  | .resolvePoll =>
    match w.wire with
    | [] => (w, [])
    | burst :: wire =>
      let p := Udp.resolvePoll cfg { sock := w.sock } burst
      ({ w with sock := p.sock, wire }, p.outputs)
  | .rxPoll =>
    match w.pipeline, w.wire with
    | some pl, burst :: wire =>
      if pl.rxRefs.isEmpty then
        let (rxRefs, pool) := pl.pool.recvInto (burst.frames.map (⟨·, w.sock.connects⟩))
        ({ w with wire, pipeline := some { pl with rxRefs, pool } }, [])
      else (w, [])
    | _, _ => (w, [])
  | .rxFrame now =>
    match w.pipeline with
    | none => (w, [])
    | some pl =>
      let (pl, effect) := Udp.rxFrame cfg pl
      ({ w with sock := w.sock.learn now effect, pipeline := some pl }, effect.reply.toList.map .sent)
  | .workerTake worker =>
    ({ w with pipeline := w.pipeline.map fun pl => pl.modifyWorker worker Worker.takeBatch }, [])
  | .workerFrame worker now =>
    match w.pipeline with
    | none => (w, [])
    | some pl =>
      let (pl, entry) := Udp.workerFrame cfg worker pl
      let arpCache := entry.elim w.sock.arpCache fun (ip, mac) => w.sock.arpCache.insertIfChanged now ip mac
      ({ w with sock := { w.sock with arpCache }, pipeline := some pl }, [])

end World

end DpdkStdlib.Udp
