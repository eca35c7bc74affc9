import DpdkStdlib.Udp.Pipeline
import DpdkStdlib.Udp.Datagram
import DpdkStdlib.Lib.Places

/-!
# Slots of the frame pool (`frame_pool.rs`, `topology.rs`)

A slot is in one place at a time: free, in the hands of a thread, or in a ring.  So what a worker and the application
read is the frame that was copied into the slot.
-/

namespace DpdkStdlib.Udp
open DpdkStdlib.Lib

variable {ref : FrameRef} {rest : List FrameRef} {pkt : AppPacket} {cfg : SocketConfig} {pl : Pipeline} {w : Nat}
  {k : Worker} {pool : FramePool}

/-! ## What a worker accepts -/

theorem workerEffect_some {frame : List UInt8} (h : (workerEffect cfg ref frame).2 = some pkt) :
    ∃ parsed, udpViewRef frame = some parsed ∧ ipv4ChecksumOk frame ∧ udpChecksumOk frame ∧
      parsed.dstPort = cfg.pipelinePort ∧
      pkt = { frameRef := ref, payloadOffset := parsed.payloadOffset, payloadLen := parsed.payload.length
              srcAddr := .v4 parsed.srcIp parsed.srcPort } := by
  unfold workerEffect at h
  split at h
  · exact absurd h (by simp)
  · next parsed hparsed =>
    by_cases hok : ¬ ipv4ChecksumOk frame ∨ ¬ udpChecksumOk frame
    · rw [if_pos hok] at h
      exact absurd h (by simp)
    rw [if_neg hok] at h
    obtain ⟨hip, hudp⟩ := not_or.1 hok
    by_cases hport : parsed.dstPort = cfg.pipelinePort
    · rw [if_pos hport] at h
      exact ⟨parsed, hparsed, not_not.1 hip, not_not.1 hudp, hport, (Option.some.inj h).symm⟩
    · rw [if_neg hport] at h
      exact absurd h (by simp)

/-- The datagram that a frame becomes in the pipeline, which keeps what fits into a slot. -/
def workerDatagram (cfg : SocketConfig) (a : Arrival) : Option Datagram :=
  match udpViewRef (a.data.take frameSize) with
  | none => none
  | some parsed =>
    if ipv4ChecksumOk (a.data.take frameSize) ∧ udpChecksumOk (a.data.take frameSize) ∧
        parsed.dstPort = cfg.pipelinePort then some ⟨parsed.payload, .v4 parsed.srcIp parsed.srcPort, a⟩
    else none

/-! ## What is where -/

namespace Pipeline

def pending (pl : Pipeline) : List FrameRef := pl.rxRefs ++ pl.workers.flatMap fun k => k.ring ++ k.batch

def packets (pl : Pipeline) : List AppPacket := pl.workers.flatMap (·.appRing)

def places (pl : Pipeline) (i : Nat) : Nat :=
  pl.pending.countP (·.poolIdx = i) + pl.packets.countP (·.frameRef.poolIdx = i) + pl.pool.freeList.count i

/-- No frame is in two places, and what waits is a copy of what came. -/
structure Sound (pl : Pipeline) : Prop where
  owned : ∀ i, pl.places i ≤ 1
  copied : ∀ ref ∈ pl.pending, pl.pool.frame ref = (pl.pool.origin ref.poolIdx).data.take frameSize

@[simp] theorem places_free (pl : Pipeline) (ref : FrameRef) (i : Nat) :
    (pl.free ref).places i = pl.places i + if ref.poolIdx = i then 1 else 0 := by
  simp only [places, pending, packets, free, FramePool.free, List.count_append, List.count_singleton, beq_iff_eq]
  omega

theorem places_modifyWorker (hk : pl.workers[w]? = some k) (f : Worker → Worker) (i : Nat) :
    (pl.modifyWorker w f).places i + (k.ring ++ k.batch).countP (·.poolIdx = i) +
        k.appRing.countP (·.frameRef.poolIdx = i) =
      pl.places i + ((f k).ring ++ (f k).batch).countP (·.poolIdx = i) +
        (f k).appRing.countP (·.frameRef.poolIdx = i) := by
  have hpending := countP_flatMap_modify (fun k => k.ring ++ k.batch) hk f (·.poolIdx = i)
  have hpackets := countP_flatMap_modify (·.appRing) hk f (·.frameRef.poolIdx = i)
  simp only [places, pending, packets, modifyWorker, List.countP_append] at hpending hpackets ⊢
  omega

theorem places_popRx (h : pl.rxRefs = ref :: rest) (i : Nat) :
    ({ pl with rxRefs := rest } : Pipeline).places i + (if ref.poolIdx = i then 1 else 0) = pl.places i := by
  simp only [places, pending, packets, h, List.cons_append, List.countP_cons, decide_eq_true_eq]
  omega

end Pipeline

/-! ## Steps that copy no frame -/

/-- The slots stay as they are, and every reference and packet comes from where the last step left it. -/
structure Moves (cfg : SocketConfig) (pl pl' : Pipeline) : Prop where
  buffer : pl'.pool.buffer = pl.pool.buffer
  origin : pl'.pool.origin = pl.pool.origin
  places : ∀ i, pl'.places i = pl.places i
  pending : ∀ ref ∈ pl'.pending, ref ∈ pl.pending
  packets : ∀ pkt ∈ pl'.packets, pkt ∈ pl.packets ∨
    pkt.frameRef ∈ pl.pending ∧ (workerEffect cfg pkt.frameRef (pl.pool.frame pkt.frameRef)).2 = some pkt

namespace Moves
variable {cfg : SocketConfig} {pl pl' : Pipeline}

theorem refl (pl : Pipeline) : Moves cfg pl pl := ⟨rfl, rfl, fun _ => rfl, fun _ h => h, fun _ h => .inl h⟩

theorem frame (h : Moves cfg pl pl') : pl'.pool.frame = pl.pool.frame := by
  funext ref
  rw [FramePool.frame, FramePool.frame, h.buffer]

theorem datagram (h : Moves cfg pl pl') : pl'.pool.datagram = pl.pool.datagram := by
  funext pkt
  rw [FramePool.datagram, FramePool.datagram, h.buffer, h.origin]

theorem withRrIndex (h : Moves cfg pl pl') (rrIndex : Nat) : Moves cfg pl { pl' with rrIndex } :=
  ⟨h.buffer, h.origin, h.places, h.pending, h.packets⟩

theorem sound (h : Moves cfg pl pl') (hs : pl.Sound) : pl'.Sound where
  owned i := h.places i ▸ hs.owned i
  copied ref href := by rw [h.frame, h.origin]; exact hs.copied ref (h.pending ref href)

end Moves

section moves
variable {cfg : SocketConfig} {pl : Pipeline}

theorem moves_freeRx (h : pl.rxRefs = ref :: rest) :
    Moves cfg pl (({ pl with rxRefs := rest } : Pipeline).free ref) where
  buffer := rfl
  origin := rfl
  places i := by
    have := Pipeline.places_popRx h i
    rw [Pipeline.places_free]
    omega
  pending r hr := by
    simp only [Pipeline.pending, Pipeline.free, h, List.cons_append, List.mem_cons] at hr ⊢
    exact .inr hr
  packets pkt hpkt := .inl hpkt

theorem exists_of_findRing {idx : Nat} (h : pl.findRing = some idx) : ∃ k, pl.workers[idx]? = some k := by
  have hp := List.find?_some h
  cases hk : pl.workers[idx]? with
  | none => rw [hk] at hp; exact absurd hp (by simp)
  | some k => exact ⟨k, rfl⟩

theorem moves_toWorker (h : pl.rxRefs = ref :: rest) :
    Moves cfg pl (({ pl with rxRefs := rest } : Pipeline).toWorker ref) := by
  unfold Pipeline.toWorker
  dsimp only
  split
  · next idx hfind =>
    obtain ⟨k, hk⟩ := exists_of_findRing hfind
    refine ⟨rfl, rfl, fun i => ?_, fun r hr => ?_, fun pkt hpkt => .inl ?_⟩
    · have hpop := Pipeline.places_popRx h i
      have hmod := @Pipeline.places_modifyWorker
        { pl with rxRefs := rest, rrIndex := (pl.rrIndex + 1) % 2 ^ 64 } idx k hk
        (fun worker => { worker with ring := worker.ring ++ [ref] }) i
      have hrr : ({ pl with rxRefs := rest, rrIndex := (pl.rrIndex + 1) % 2 ^ 64 } : Pipeline).places i =
        ({ pl with rxRefs := rest } : Pipeline).places i := rfl
      simp only [List.countP_append, List.countP_cons, List.countP_nil, decide_eq_true_eq] at hmod
      omega
    · rw [Pipeline.pending, h]
      rcases List.mem_append.1 hr with hr | hr
      · exact List.mem_append_left _ (List.mem_cons_of_mem _ hr)
      · rcases mem_flatMap_modify _ hk _ hr with hr | hr
        · exact List.mem_append_right _ hr
        · simp only [List.mem_append, List.mem_singleton] at hr
          rcases hr with (hr | rfl) | hr
          · exact List.mem_append_right _ (List.mem_flatMap.2 ⟨k, List.mem_of_getElem? hk, List.mem_append_left _ hr⟩)
          · exact List.mem_append_left _ List.mem_cons_self
          · exact List.mem_append_right _ (List.mem_flatMap.2 ⟨k, List.mem_of_getElem? hk, List.mem_append_right _ hr⟩)
    · exact mem_flatMap_of_modify _ hk (fun _ hx => hx) hpkt
  · exact (moves_freeRx h).withRrIndex _

theorem moves_rxFrame (cfg : SocketConfig) (pl : Pipeline) : Moves cfg pl (rxFrame cfg pl).1 := by
  unfold rxFrame
  split
  · exact .refl pl
  · next ref rest h =>
    dsimp only
    split_ifs
    · exact moves_freeRx h
    · exact moves_freeRx h
    · exact moves_freeRx h
    · exact moves_toWorker h

theorem moves_takeBatch (cfg : SocketConfig) (pl : Pipeline) (w : Nat) :
    Moves cfg pl (pl.modifyWorker w Worker.takeBatch) := by
  cases hk : pl.workers[w]? with
  | none =>
    rw [Pipeline.modifyWorker, modify_of_none hk]
    exact .refl pl
  | some k =>
    have hperm : (k.takeBatch.ring ++ k.takeBatch.batch).Perm (k.ring ++ k.batch) ∧ k.takeBatch.appRing = k.appRing := by
      unfold Worker.takeBatch
      split
      · next hbatch =>
        rw [List.isEmpty_iff.1 hbatch, List.append_nil]
        exact ⟨List.perm_append_comm.trans (by rw [List.take_append_drop]), rfl⟩
      · exact ⟨.rfl, rfl⟩
    refine ⟨rfl, rfl, fun i => ?_, fun r hr => ?_, fun pkt hpkt => .inl ?_⟩
    · have hmod := Pipeline.places_modifyWorker hk Worker.takeBatch i
      rw [hperm.1.countP_eq, hperm.2] at hmod
      omega
    · rcases List.mem_append.1 hr with hr | hr
      · exact List.mem_append_left _ hr
      · exact List.mem_append_right _ (mem_flatMap_of_modify _ hk (fun _ hx => hperm.1.mem_iff.1 hx) hr)
    · exact mem_flatMap_of_modify _ hk (fun _ hx => hperm.2 ▸ hx) hpkt

theorem Pipeline.pending_of_popBatch (hk : pl.workers[w]? = some k) (h : k.batch = ref :: rest) {f : Worker → Worker}
    (hring : (f k).ring = k.ring) (hbatch : (f k).batch = rest) {r : FrameRef} (hr : r ∈ (pl.modifyWorker w f).pending) :
    r ∈ pl.pending := by
  rcases List.mem_append.1 hr with hr | hr
  · exact List.mem_append_left _ hr
  · refine List.mem_append_right _ (mem_flatMap_of_modify _ hk (fun x hx => ?_) hr)
    rw [hring, hbatch] at hx
    rw [h]
    exact (List.mem_append.1 hx).elim (List.mem_append_left _) fun hx =>
      List.mem_append_right _ (List.mem_cons_of_mem _ hx)

theorem moves_freeBatch (hk : pl.workers[w]? = some k) (h : k.batch = ref :: rest) :
    Moves cfg pl ((pl.modifyWorker w fun worker => { worker with batch := rest }).free ref) where
  buffer := rfl
  origin := rfl
  places i := by
    have hmod := Pipeline.places_modifyWorker hk (fun worker => { worker with batch := rest }) i
    simp only [h, List.countP_append, List.countP_cons, decide_eq_true_eq] at hmod
    rw [Pipeline.places_free]
    omega
  pending _ hr := Pipeline.pending_of_popBatch hk h rfl rfl hr
  packets pkt hpkt := .inl (mem_flatMap_of_modify _ hk (fun _ hx => hx) hpkt)

theorem moves_toApp (hk : pl.workers[w]? = some k) (h : k.batch = ref :: rest) (href : pkt.frameRef = ref)
    (heffect : (workerEffect cfg ref (pl.pool.frame ref)).2 = some pkt) :
    Moves cfg pl (pl.modifyWorker w fun worker => { worker with batch := rest, appRing := worker.appRing ++ [pkt] }) where
  buffer := rfl
  origin := rfl
  places i := by
    have hmod := Pipeline.places_modifyWorker hk
      (fun worker => { worker with batch := rest, appRing := worker.appRing ++ [pkt] }) i
    simp only [h, List.countP_append, List.countP_cons, List.countP_nil, decide_eq_true_eq, href] at hmod
    omega
  pending _ hr := Pipeline.pending_of_popBatch hk h rfl rfl hr
  packets p hp := by
    rcases mem_flatMap_modify _ hk _ hp with hp | hp
    · exact .inl hp
    rcases List.mem_append.1 hp with hp | hp
    · exact .inl (List.mem_flatMap.2 ⟨k, List.mem_of_getElem? hk, hp⟩)
    · obtain rfl := List.mem_singleton.1 hp
      refine .inr ⟨?_, href ▸ heffect⟩
      refine List.mem_append_right _ (List.mem_flatMap.2 ⟨k, List.mem_of_getElem? hk, List.mem_append_right _ ?_⟩)
      rw [h, href]
      exact List.mem_cons_self

theorem moves_workerFrame (cfg : SocketConfig) (w : Nat) (pl : Pipeline) : Moves cfg pl (workerFrame cfg w pl).1 := by
  unfold workerFrame
  split
  · exact .refl pl
  · next k hk =>
    split
    · exact .refl pl
    · next ref rest h =>
      dsimp only
      split
      · exact moves_freeBatch hk h
      · next pkt hpkt =>
        split_ifs
        · obtain ⟨_, _, _, _, _, href⟩ := workerEffect_some hpkt
          have hmodify := moves_toApp hk h (href ▸ rfl) hpkt
          simp only [Pipeline.modifyWorker, List.modify_modify_eq] at hmodify ⊢
          exact hmodify
        · exact moves_freeBatch hk h

theorem moves_dequeueAppRings (cfg : SocketConfig) {rrIndex rrIndex' : Nat} {pl' : Pipeline}
    (h : pl.dequeueAppRings rrIndex = some (pkt, rrIndex', pl')) :
    pkt ∈ pl.packets ∧ Moves cfg pl (pl'.free pkt.frameRef) := by
  obtain ⟨idx, -, h⟩ := Option.bind_eq_some_iff.1 h
  obtain ⟨k, hk, h⟩ := Option.bind_eq_some_iff.1 h
  obtain ⟨pkt', hpkt, h⟩ := Option.map_eq_some_iff.1 h
  obtain ⟨rfl, rfl, rfl⟩ : pkt' = pkt ∧ idx + 1 = rrIndex' ∧
      (pl.modifyWorker idx fun worker => { worker with appRing := worker.appRing.tail }) = pl' := by
    simpa using h
  have hring : k.appRing = pkt' :: k.appRing.tail := (List.cons_head?_tail hpkt).symm
  refine ⟨List.mem_flatMap.2 ⟨k, List.mem_of_getElem? hk, List.mem_of_mem_head? hpkt⟩, rfl, rfl, fun i => ?_,
    fun r hr => ?_, fun p hp => .inl (mem_flatMap_of_modify _ hk (List.tail_subset _) hp)⟩
  · have hmod := Pipeline.places_modifyWorker hk (fun worker => { worker with appRing := worker.appRing.tail }) i
    have hcount : k.appRing.countP (·.frameRef.poolIdx = i) =
        k.appRing.tail.countP (·.frameRef.poolIdx = i) + if pkt'.frameRef.poolIdx = i then 1 else 0 := by
      conv_lhs => rw [hring]
      simp only [List.countP_cons, decide_eq_true_eq]
    dsimp only at hmod
    rw [Pipeline.places_free]
    omega
  · rcases List.mem_append.1 hr with hr | hr
    · exact List.mem_append_left _ hr
    · exact List.mem_append_right _ (mem_flatMap_of_modify _ hk (fun _ hx => hx) hr)

end moves

/-! ## Datagrams on their way -/

theorem payload_udpViewRef {frame : List UInt8} {parsed : ParsedUdpPacketRef Ipv4Addr}
    (h : udpViewRef frame = some parsed) :
    parsed.payload = (frame.drop parsed.payloadOffset).take parsed.payload.length ∧
      parsed.payloadOffset + parsed.payload.length ≤ frame.length := by
  obtain ⟨layout, -, -, hat, hoffset⟩ := udpViewRef_spec h
  obtain ⟨hpayload, hfit, -⟩ := udpAt_spec hat
  rw [hoffset]
  exact ⟨hpayload, hfit⟩

theorem datagram_of_workerEffect (h : (workerEffect cfg ref (pool.frame ref)).2 = some pkt)
    (hcopied : pool.frame ref = (pool.origin ref.poolIdx).data.take frameSize) :
    workerDatagram cfg (pool.origin ref.poolIdx) = some (pool.datagram pkt) := by
  obtain ⟨parsed, hparsed, hip, hudp, hport, rfl⟩ := workerEffect_some h
  obtain ⟨hpayload, hfit⟩ := payload_udpViewRef hparsed
  have hslot : parsed.payload = ((pool.buffer ref.poolIdx).drop parsed.payloadOffset).take parsed.payload.length := by
    have hle := List.length_take_le ref.len (pool.buffer ref.poolIdx)
    rw [FramePool.frame] at hfit hpayload
    conv_lhs => rw [hpayload, List.drop_take, List.take_take, min_eq_left (by omega)]
  rw [hcopied] at hparsed hip hudp
  rw [workerDatagram, hparsed]
  dsimp only
  rw [if_pos ⟨hip, hudp, hport⟩, FramePool.datagram, ← hslot]

namespace Pipeline

/-- A datagram that the application can take from the rings, now or once the workers are through. -/
def Waits (cfg : SocketConfig) (pl : Pipeline) (d : Datagram) : Prop :=
  (∃ pkt ∈ pl.packets, pl.pool.datagram pkt = d) ∨
    ∃ ref ∈ pl.pending, workerDatagram cfg (pl.pool.origin ref.poolIdx) = some d

end Pipeline

theorem Moves.waits {pl' : Pipeline} (h : Moves cfg pl pl') (hs : pl.Sound) {d : Datagram} (hd : pl'.Waits cfg d) :
    pl.Waits cfg d := by
  rcases hd with ⟨pkt, hpkt, rfl⟩ | ⟨ref, href, hd⟩
  · rw [h.datagram]
    rcases h.packets pkt hpkt with hold | ⟨hpending, heffect⟩
    · exact .inl ⟨pkt, hold, rfl⟩
    · exact .inr ⟨pkt.frameRef, hpending, datagram_of_workerEffect heffect (hs.copied _ hpending)⟩
  · rw [h.origin] at hd
    exact .inr ⟨ref, h.pending ref href, hd⟩

/-! ## Copying frames -/

namespace FramePool

theorem frame_copyIn (pool : FramePool) (idx : Nat) (a : Arrival) :
    (pool.copyIn idx a).frame ⟨idx, min a.data.length frameSize⟩ = a.data.take frameSize := by
  change (Function.update pool.buffer idx _ idx).take (min a.data.length frameSize) = _
  rw [Function.update_self, List.take_append_of_le_length (by simp), List.take_take, min_self, min_comm,
    ← List.take_take, List.take_length]

theorem recvInto_of_empty (h : pool.freeList = []) (a : Arrival) (rest : List Arrival) :
    pool.recvInto (a :: rest) = pool.recvInto rest := by
  simp only [recvInto, allocCopy, h, Option.toList_none, List.nil_append]

theorem recvInto_of_free {idx : Nat} {freeList : List Nat} (h : pool.freeList = idx :: freeList) (a : Arrival)
    (rest : List Arrival) :
    pool.recvInto (a :: rest) =
      (⟨idx, min a.data.length frameSize⟩ :: (({ pool with freeList }.copyIn idx a).recvInto rest).1,
        (({ pool with freeList }.copyIn idx a).recvInto rest).2) := by
  simp only [recvInto, allocCopy, h, Option.toList_some, List.singleton_append]

/-- The slots that are given out were free, the others stay as they are, and each holds its frame. -/
structure Fills (pool : FramePool) (arrivals : List Arrival) (refs : List FrameRef) (pool' : FramePool) : Prop where
  given : ∀ i, refs.countP (·.poolIdx = i) + pool'.freeList.count i = pool.freeList.count i
  others : ∀ i ∉ pool.freeList, pool'.buffer i = pool.buffer i ∧ pool'.origin i = pool.origin i
  copied : ∀ ref ∈ refs, pool'.frame ref = (pool'.origin ref.poolIdx).data.take frameSize ∧
    pool'.origin ref.poolIdx ∈ arrivals

theorem fills_recvInto (pool : FramePool) (hnodup : pool.freeList.Nodup) (arrivals : List Arrival) :
    pool.Fills arrivals (pool.recvInto arrivals).1 (pool.recvInto arrivals).2 := by
  induction arrivals generalizing pool with
  | nil => exact ⟨fun _ => Nat.zero_add _, fun _ _ => ⟨rfl, rfl⟩, fun _ h => absurd h List.not_mem_nil⟩
  | cons a rest ih =>
    cases hfree : pool.freeList with
    | nil =>
      rw [recvInto_of_empty hfree]
      have h := ih pool hnodup
      exact ⟨h.given, h.others, fun ref href =>
        ⟨(h.copied ref href).1, List.mem_cons_of_mem _ (h.copied ref href).2⟩⟩
    | cons idx freeList =>
      rw [recvInto_of_free hfree]
      rw [hfree, List.nodup_cons] at hnodup
      have h := ih ({ pool with freeList }.copyIn idx a) hnodup.2
      refine ⟨fun i => ?_, fun i hi => ?_, fun ref href => ?_⟩
      · have hgiven := h.given i
        rw [hfree, List.countP_cons, List.count_cons]
        simp only [copyIn, decide_eq_true_eq, beq_iff_eq] at hgiven ⊢
        omega
      · rw [hfree, List.mem_cons, not_or] at hi
        have hothers := h.others i hi.2
        simp only [copyIn, Function.update_of_ne hi.1] at hothers
        exact hothers
      · rcases List.mem_cons.1 href with rfl | href
        · -- the rest of the burst leaves this slot alone
          obtain ⟨hbuffer, horigin⟩ := h.others idx hnodup.1
          have horigin : (({ pool with freeList }.copyIn idx a).recvInto rest).2.origin idx = a := by
            rw [horigin]
            exact Function.update_self ..
          refine ⟨?_, by rw [horigin]; exact List.mem_cons_self⟩
          rw [horigin, ← frame_copyIn { pool with freeList } idx a, frame, frame, hbuffer]
        · exact ⟨(h.copied ref href).1, List.mem_cons_of_mem _ (h.copied ref href).2⟩

end FramePool

section recv
variable {cfg : SocketConfig} {pl : Pipeline} {arrivals : List Arrival} {refs : List FrameRef} {pool : FramePool}

theorem Pipeline.Sound.not_free (hs : pl.Sound) {i : Nat}
    (h : (∃ ref ∈ pl.pending, ref.poolIdx = i) ∨ ∃ pkt ∈ pl.packets, pkt.frameRef.poolIdx = i) :
    i ∉ pl.pool.freeList := by
  intro hfree
  have howned := hs.owned i
  have hcount := List.count_pos_iff.2 hfree
  rw [Pipeline.places] at howned
  rcases h with ⟨ref, href, hi⟩ | ⟨pkt, hpkt, hi⟩
  · have hpos : 0 < pl.pending.countP (·.poolIdx = i) := List.countP_pos_iff.2 ⟨ref, href, decide_eq_true hi⟩
    omega
  · have hpos : 0 < pl.packets.countP (·.frameRef.poolIdx = i) :=
      List.countP_pos_iff.2 ⟨pkt, hpkt, decide_eq_true hi⟩
    omega

theorem Pipeline.Sound.nodup_freeList (hs : pl.Sound) : pl.pool.freeList.Nodup :=
  List.nodup_iff_count_le_one.2 fun i => by
    have := hs.owned i
    rw [Pipeline.places] at this
    omega

/-- A received burst keeps the pool sound. -/
theorem Pipeline.Sound.recv (hs : pl.Sound) (hrx : pl.rxRefs = []) (h : pl.pool.Fills arrivals refs pool) :
    Pipeline.Sound { pl with rxRefs := refs, pool } where
  owned i := by
    have howned := hs.owned i
    have hgiven := h.given i
    simp only [Pipeline.places, Pipeline.pending, Pipeline.packets, hrx, List.countP_append, List.countP_nil] at howned ⊢
    omega
  copied ref href := by
    rcases List.mem_append.1 href with href | href
    · exact (h.copied ref href).1
    · have hpending : ref ∈ pl.pending := List.mem_append_right _ href
      obtain ⟨hbuffer, horigin⟩ := h.others ref.poolIdx (hs.not_free (.inl ⟨ref, hpending, rfl⟩))
      have hcopied := hs.copied ref hpending
      rw [FramePool.frame] at hcopied ⊢
      rw [hbuffer, horigin, hcopied]

theorem Pipeline.Sound.waits_recv (hs : pl.Sound) (h : pl.pool.Fills arrivals refs pool) {d : Datagram}
    (hd : Pipeline.Waits cfg { pl with rxRefs := refs, pool } d) :
    pl.Waits cfg d ∨ ∃ a ∈ arrivals, workerDatagram cfg a = some d := by
  rcases hd with ⟨pkt, hpkt, rfl⟩ | ⟨ref, href, hd⟩
  · obtain ⟨hbuffer, horigin⟩ := h.others pkt.frameRef.poolIdx (hs.not_free (.inr ⟨pkt, hpkt, rfl⟩))
    refine .inl (.inl ⟨pkt, hpkt, ?_⟩)
    rw [FramePool.datagram, FramePool.datagram, hbuffer, horigin]
  · rcases List.mem_append.1 href with href | href
    · exact .inr ⟨_, (h.copied ref href).2, hd⟩
    · have hpending : ref ∈ pl.pending := List.mem_append_right _ href
      obtain ⟨-, horigin⟩ := h.others ref.poolIdx (hs.not_free (.inl ⟨ref, hpending, rfl⟩))
      exact .inl (.inr ⟨ref, hpending, by rw [← horigin]; exact hd⟩)

end recv

/-! ## The start -/

namespace Pipeline

theorem pending_new (capacity numWorkers : Nat) : (Pipeline.new capacity numWorkers).pending = [] :=
  List.flatMap_eq_nil_iff.2 fun k hk => by rw [List.eq_of_mem_replicate hk]; rfl

theorem packets_new (capacity numWorkers : Nat) : (Pipeline.new capacity numWorkers).packets = [] :=
  List.flatMap_eq_nil_iff.2 fun k hk => by rw [List.eq_of_mem_replicate hk]

theorem sound_new (capacity numWorkers : Nat) : (Pipeline.new capacity numWorkers).Sound := by
  refine ⟨fun i => ?_, fun ref href => absurd href (by rw [pending_new]; exact List.not_mem_nil)⟩
  rw [places, pending_new, packets_new, List.countP_nil, List.countP_nil, Nat.zero_add]
  exact List.nodup_iff_count_le_one.1 List.nodup_range i

theorem not_waits_new (cfg : SocketConfig) (capacity numWorkers : Nat) (d : Datagram) :
    ¬ (Pipeline.new capacity numWorkers).Waits cfg d := by
  simp [Waits, pending_new, packets_new]

end Pipeline

end DpdkStdlib.Udp
