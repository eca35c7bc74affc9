import DpdkStdlib.Udp.Pool

/-!
# Where returned datagrams come from

What the functions of the receive paths do to the queue and leave alone, and the rule that all properties of returned
datagrams follow from: a datagram is returned if a frame that was polled earlier gave it, on one of three paths, and
nothing on the way changes it but a buffer that is too short.
-/

namespace DpdkStdlib.Udp
open DpdkStdlib.Lib

/-! ## The queue -/

@[simp] theorem Datagram.src_cut (d : Datagram) (n : Nat) : (d.cut n).src = d.src := rfl

@[simp] theorem Datagram.arrival_cut (d : Datagram) (n : Nat) : (d.cut n).arrival = d.arrival := rfl

namespace SocketState
variable (st : SocketState)

theorem rxEnqueue_cases (d : Datagram) :
    st.rxEnqueue d = (false, { st with recvDrops := { packets := st.recvDrops.packets + 1
                                                      bytes := st.recvDrops.bytes + .ofNat d.payload.length } }) ∨
      ∃ queue, st.rxEnqueue d = (true, { st with queue, hasBufferedPackets := true }) ∧
        queue.packets = st.queue.packets ++ [d] := by
  unfold rxEnqueue ReceiveQueue.pushSlice
  dsimp only
  by_cases hfull : st.queue.packets.length ≥ st.queue.maxPackets ∨
      st.queue.currentBytes + d.payload.length > st.queue.maxBytes
  · rw [if_pos hfull]
    exact .inl rfl
  · rw [if_neg hfull, List.take_zero, List.nil_append]
    exact .inr ⟨_, rfl, rfl⟩

theorem rxDequeueInto_cases (n : Nat) :
    (st.queue.packets = [] ∧ st.rxDequeueInto n = (none, { st with hasBufferedPackets := false })) ∨
      ∃ d rest queue hasBufferedPackets, st.queue.packets = d :: rest ∧ queue.packets = rest ∧
        st.rxDequeueInto n = (some (d.cut n), { st with queue, hasBufferedPackets }) := by
  unfold rxDequeueInto ReceiveQueue.popInto
  cases h : st.queue.packets with
  | nil => exact .inl ⟨rfl, by simp [h]⟩
  | cons d rest => exact .inr ⟨d, rest, _, _, rfl, rfl, rfl⟩

theorem queueIcmpError_eq (error : IoError) : ∃ errorQueue hasPendingError,
    st.queueIcmpError error = { st with errorQueue, hasPendingError } := by
  by_cases h : st.errorQueue.length < 16
  · exact ⟨_, _, if_pos h⟩
  · exact ⟨_, _, if_neg h⟩

theorem learn_eq (now : Instant) (effect : FrameEffect) :
    ∃ arpCache ndpCache errorQueue hasPendingError,
      st.learn now effect = { st with arpCache, ndpCache, errorQueue, hasPendingError } := by
  have hlearn : ∃ arpCache ndpCache, st.learn now effect =
      effect.error.elim { st with arpCache, ndpCache } (queueIcmpError { st with arpCache, ndpCache }) := by
    unfold learn
    cases effect.arpEntry <;> cases effect.ndpEntry <;> exact ⟨_, _, rfl⟩
  obtain ⟨arpCache, ndpCache, hlearn⟩ := hlearn
  rw [hlearn]
  cases effect.error with
  | none => exact ⟨_, _, _, _, rfl⟩
  | some error =>
    obtain ⟨errorQueue, hasPendingError, h⟩ := queueIcmpError_eq { st with arpCache, ndpCache } error
    exact ⟨_, _, errorQueue, hasPendingError, h⟩

end SocketState

/-! ## What receiving leaves alone -/

/-- The settings that decide what a frame is to the socket. -/
structure Mode where
  onlyV6 : Bool
  connectedAddr : Option SocketAddr
  connects : Nat

def SocketState.mode (st : SocketState) : Mode := ⟨st.onlyV6, st.connectedAddr, st.connects⟩

namespace SocketState
variable (st : SocketState)

@[simp] theorem mode_learn (now : Instant) (effect : FrameEffect) : (st.learn now effect).mode = st.mode := by
  obtain ⟨_, _, _, _, h⟩ := st.learn_eq now effect
  rw [h]
  rfl

@[simp] theorem queue_learn (now : Instant) (effect : FrameEffect) : (st.learn now effect).queue = st.queue := by
  obtain ⟨_, _, _, _, h⟩ := st.learn_eq now effect
  rw [h]

theorem mode_rxEnqueue (d : Datagram) : (st.rxEnqueue d).2.mode = st.mode := by
  rcases st.rxEnqueue_cases d with h | ⟨_, h, -⟩ <;> rw [h] <;> rfl

theorem mode_takeError : st.takeError.2.mode = st.mode := by
  unfold takeError
  split <;> rfl

theorem mode_setRecvBufferSize (bytes : Nat) : (st.setRecvBufferSize bytes).mode = st.mode := by
  unfold setRecvBufferSize
  split <;> rfl

end SocketState

/-! ## A call in progress -/

/-- The mode is `m`, and everything in the call's hands satisfies `P`. -/
structure Poll.Holds (m : Mode) (P : Datagram → Prop) (p : Poll) : Prop where
  mode : p.sock.mode = m
  queue : ∀ d ∈ p.sock.queue.packets, P d
  result : ∀ d ∈ p.result, P d

section holds
variable {cfg : SocketConfig} {m : Mode} {P : Datagram → Prop} {p : Poll}

theorem Poll.Holds.enqueue (h : p.Holds m P) {d : Datagram} (hd : P d) : (p.enqueue d).Holds m P where
  mode := (p.sock.mode_rxEnqueue d).trans h.mode
  queue x hx := by
    change x ∈ (p.sock.rxEnqueue d).2.queue.packets at hx
    rcases p.sock.rxEnqueue_cases d with henq | ⟨queue, henq, hpackets⟩
    · rw [henq] at hx
      exact h.queue x hx
    · rw [henq] at hx
      change x ∈ queue.packets at hx
      rw [hpackets] at hx
      exact (List.mem_append.1 hx).elim (h.queue x) fun hx => List.mem_singleton.1 hx ▸ hd
  result := h.result

theorem Poll.Holds.deliver (h : p.Holds m P) (n : Nat) (recorded : Bool) {d : Datagram} (hd : P (d.cut n)) :
    (p.deliver n recorded d).Holds m P := by
  have hsock : (p.deliver n recorded d).sock.mode = p.sock.mode ∧ (p.deliver n recorded d).sock.queue = p.sock.queue := by
    unfold Poll.deliver
    dsimp only
    split <;> exact ⟨rfl, rfl⟩
  exact ⟨hsock.1.trans h.mode, by rw [hsock.2]; exact h.queue, fun x hx => Option.some.inj hx ▸ hd⟩

theorem Poll.Holds.learn (h : p.Holds m P) (now : Instant) (effect : FrameEffect) (replies : List (List UInt8)) :
    Poll.Holds m P { p with sock := p.sock.learn now effect, replies } where
  mode := (p.sock.mode_learn now effect).trans h.mode
  queue := by rw [p.sock.queue_learn]; exact h.queue
  result := h.result

theorem Poll.Holds.dequeue (h : p.Holds m P) {n : Nat} (hcut : ∀ d, P d → P (d.cut n)) :
    (p.sock.rxDequeueInto n).2.mode = m ∧ (∀ x ∈ (p.sock.rxDequeueInto n).2.queue.packets, P x) ∧
      ∀ x ∈ (p.sock.rxDequeueInto n).1, P x := by
  rcases p.sock.rxDequeueInto_cases n with ⟨-, heq⟩ | ⟨head, rest, queue, _, hpackets, hrest, heq⟩
  · rw [heq]
    exact ⟨h.mode, h.queue, fun _ hx => absurd hx (by simp)⟩
  · rw [heq]
    have hqueue := h.queue
    rw [hpackets] at hqueue
    exact ⟨h.mode, fun x hx => hqueue x (List.mem_cons_of_mem _ (hrest ▸ hx)), fun x hx =>
      Option.some.inj hx ▸ hcut _ (hqueue _ List.mem_cons_self)⟩

theorem processFrame_holds {n : Nat} {now : Instant} {frame : RxFrame} (h : p.Holds m P)
    (hcut : ∀ d, P d → P (d.cut n))
    (hd : ∀ d, (dispatch cfg m.onlyV6 ⟨frame, m.connects⟩).datagram = some d → P d) :
    (processFrame cfg n now p frame).Holds m P := by
  unfold processFrame
  dsimp only
  have hmode : p.sock.onlyV6 = m.onlyV6 ∧ p.sock.connects = m.connects := by
    rw [← h.mode]
    exact ⟨rfl, rfl⟩
  rw [hmode.1, hmode.2]
  have hlearn := h.learn now (dispatch cfg m.onlyV6 ⟨frame, m.connects⟩)
    (p.replies ++ (dispatch cfg m.onlyV6 ⟨frame, m.connects⟩).reply.toList)
  split
  · exact hlearn
  · next d hdatagram =>
    split_ifs
    · exact hlearn.enqueue (hd d hdatagram)
    · exact hlearn.deliver n _ (hcut d (hd d hdatagram))
    · exact hlearn.enqueue (hd d hdatagram)

theorem resolveFrame_holds {now : Instant} {frame : RxFrame} (h : p.Holds m P)
    (hd : ∀ d, (resolveEffect cfg ⟨frame, m.connects⟩).datagram = some d → P d) :
    (resolveFrame cfg now p frame).Holds m P := by
  unfold resolveFrame
  dsimp only
  have hconnects : p.sock.connects = m.connects := by
    rw [← h.mode]
    rfl
  rw [hconnects]
  have hlearn := h.learn now (resolveEffect cfg ⟨frame, m.connects⟩)
    (p.replies ++ (resolveEffect cfg ⟨frame, m.connects⟩).reply.toList)
  cases hdatagram : (resolveEffect cfg ⟨frame, m.connects⟩).datagram with
  | none => exact hlearn
  | some d => exact hlearn.enqueue (hd d hdatagram)

theorem recvInline_holds {n : Nat} {wire : List Burst} (h : p.Holds m P) (hcut : ∀ d, P d → P (d.cut n))
    (hd : ∀ burst ∈ wire.head?, p.sock.queue.packets = [] → ∀ frame ∈ burst.frames, ∀ d,
      (dispatch cfg m.onlyV6 ⟨frame, m.connects⟩).datagram = some d → P d) :
    (recvInline cfg n p wire).1.Holds m P := by
  have hdequeue := h.dequeue hcut
  unfold recvInline
  rcases p.sock.rxDequeueInto_cases n with ⟨hempty, heq⟩ | ⟨head, rest, queue, _, -, -, heq⟩
  · rw [heq] at hdequeue ⊢
    have hstart : Poll.Holds m P { p with sock := { p.sock with hasBufferedPackets := false } } :=
      ⟨hdequeue.1, hdequeue.2.1, h.result⟩
    cases wire with
    | nil => exact hstart
    | cons burst wire =>
      exact List.foldlRecOn burst.frames _ hstart fun q hq frame hframe =>
        processFrame_holds hq hcut (hd burst rfl hempty frame hframe)
  · rw [heq] at hdequeue ⊢
    exact ⟨hdequeue.1, hdequeue.2.1, hdequeue.2.2⟩

theorem resolvePoll_holds {burst : Burst} (h : p.Holds m P)
    (hd : ∀ frame ∈ burst.frames, ∀ d, (resolveEffect cfg ⟨frame, m.connects⟩).datagram = some d → P d) :
    (resolvePoll cfg p burst).Holds m P :=
  List.foldlRecOn burst.frames _ h fun _ hq frame hframe => resolveFrame_holds hq (hd frame hframe)

theorem takePacket_holds {pl : Pipeline} (recorded : Bool) {n : Nat} (h : p.Holds m P) (hcut : ∀ d, P d → P (d.cut n))
    (hwaits : ∀ d, pl.Waits cfg d → P d) :
    (takePacket recorded n p pl).1.Holds m P ∧ Moves cfg pl (takePacket recorded n p pl).2 := by
  unfold takePacket
  split
  · exact ⟨h, .refl pl⟩
  · next pkt rrIndex pl' heq =>
    obtain ⟨hpkt, hmoves⟩ := moves_dequeueAppRings cfg heq
    have hd : P (pl'.pool.datagram pkt) := hwaits _ (.inl ⟨pkt, hpkt, by
      rw [← hmoves.datagram]
      rfl⟩)
    have hsock : Poll.Holds m P { p with sock := { p.sock with rrIndex } } := ⟨h.mode, h.queue, h.result⟩
    dsimp only
    split_ifs
    · exact ⟨hsock.enqueue (hcut _ hd), hmoves⟩
    · exact ⟨hsock.deliver n recorded (hcut _ hd), hmoves⟩

theorem recvPipeline_holds {pl : Pipeline} (recorded : Bool) {n : Nat} (h : p.Holds m P)
    (hcut : ∀ d, P d → P (d.cut n)) (hwaits : ∀ d, pl.Waits cfg d → P d) :
    (recvPipeline recorded n p pl).1.Holds m P ∧ Moves cfg pl (recvPipeline recorded n p pl).2 := by
  unfold recvPipeline
  split_ifs
  · have hdequeue := h.dequeue hcut
    split
    · next heq =>
      rw [heq] at hdequeue
      exact ⟨⟨hdequeue.1, hdequeue.2.1, hdequeue.2.2⟩, .refl pl⟩
    · next heq =>
      rw [heq] at hdequeue
      exact takePacket_holds recorded ⟨hdequeue.1, hdequeue.2.1, h.result⟩ hcut hwaits
  · exact takePacket_holds recorded h hcut hwaits

end holds

/-! ## Paths -/

/-- How a frame comes to the socket. -/
inductive Path
  | inline
  | resolve
  | pipeline
deriving DecidableEq

def Path.datagram (cfg : SocketConfig) (onlyV6 : Bool) : Path → Arrival → Option Datagram
  | .inline, a => (dispatch cfg onlyV6 a).datagram
  | .resolve, a => (resolveEffect cfg a).datagram
  | .pipeline, a => workerDatagram cfg a

namespace World

def arriving (w : World) : List Arrival :=
  w.wire.head?.elim [] fun burst => burst.frames.map (⟨·, w.sock.connects⟩)

def polled (w : World) : Event → List (Path × Arrival)
  | .recvFrom _ | .tryRecvFrom _ =>
    if w.pipeline.isNone ∧ w.sock.queue.packets = [] then w.arriving.map (.inline, ·) else []
  | .resolvePoll => w.arriving.map (.resolve, ·)
  | .rxPoll => if w.pipeline.any (·.rxRefs.isEmpty) then w.arriving.map (.pipeline, ·) else []
  | _ => []

/-- The datagram is queued in the socket or the pipeline. -/
def Waiting (cfg : SocketConfig) (w : World) (d : Datagram) : Prop :=
  d ∈ w.sock.queue.packets ∨ ∃ pl ∈ w.pipeline, pl.Waits cfg d

structure Fresh (w : World) : Prop where
  queue : w.sock.queue.packets = []
  pipeline : ∀ pl ∈ w.pipeline, ∃ capacity numWorkers, pl = .new capacity numWorkers

end World

theorem World.connects_of_polled {w : World} {e : Event} {path : Path} {a : Arrival} (h : (path, a) ∈ w.polled e) :
    a.connects = w.sock.connects := by
  have harriving : ∀ path', (path, a) ∈ w.arriving.map (path', ·) → a.connects = w.sock.connects := by
    intro path' h
    obtain ⟨b, hb, heq⟩ := List.mem_map.1 h
    obtain rfl := (Prod.ext_iff.1 heq).2
    rw [arriving] at hb
    cases hburst : w.wire.head? with
    | none =>
      rw [hburst] at hb
      exact absurd hb List.not_mem_nil
    | some burst =>
      rw [hburst] at hb
      obtain ⟨frame, -, rfl⟩ := List.mem_map.1 hb
      rfl
  cases e with
  | recvFrom _ | tryRecvFrom _ | rxPoll =>
    rw [polled] at h
    split_ifs at h
    · exact harriving _ h
    · exact absurd h List.not_mem_nil
  | resolvePoll => exact harriving _ h
  | connect _ | setOnlyV6 _ | setRecvBufferSize _ | takeError | rxFrame _ | workerTake _ | workerFrame _ _ =>
    exact absurd h List.not_mem_nil

theorem World.mode_receive (cfg : SocketConfig) (w : World) (recorded : Bool) (n : Nat) :
    (w.receive cfg recorded n).1.sock.mode = w.sock.mode := by
  have hstart : Poll.Holds w.sock.mode (fun _ => True) { sock := w.sock } :=
    ⟨rfl, fun _ _ => trivial, fun _ _ => trivial⟩
  unfold World.receive
  split
  · exact (recvInline_holds hstart (fun _ _ => trivial) fun _ _ _ _ _ _ _ => trivial).mode
  · next pl _ =>
    have hwaits : ∀ d, pl.Waits cfg d → True := fun _ _ => trivial
    exact (recvPipeline_holds recorded hstart (fun _ _ => trivial) hwaits).1.mode

theorem World.mode_step (cfg : SocketConfig) (w : World) (e : Event) : (w.step cfg e).1.sock.mode =
    match e with
    | .connect addr => (w.sock.connect cfg addr).mode
    | .setOnlyV6 onlyV6 => (w.sock.setOnlyV6 cfg onlyV6).mode
    | _ => w.sock.mode := by
  have hstart : Poll.Holds w.sock.mode (fun _ => True) { sock := w.sock } :=
    ⟨rfl, fun _ _ => trivial, fun _ _ => trivial⟩
  cases e with
  | recvFrom n => exact w.mode_receive cfg true n
  | tryRecvFrom n => exact w.mode_receive cfg false n
  | connect addr | setOnlyV6 onlyV6 | workerTake _ => rfl
  | setRecvBufferSize bytes => exact w.sock.mode_setRecvBufferSize bytes
  | takeError => exact w.sock.mode_takeError
  | resolvePoll =>
    simp only [World.step]
    split
    · rfl
    · exact (resolvePoll_holds hstart fun _ _ _ _ => trivial).mode
  | rxPoll =>
    simp only [World.step]
    split
    · split <;> rfl
    · rfl
  | rxFrame now =>
    simp only [World.step]
    split
    · rfl
    · exact w.sock.mode_learn now _
  | workerFrame k now =>
    simp only [World.step]
    split <;> rfl

/-! ## The rule -/

/-- A property of datagrams that cutting, good events and the frames they poll keep. -/
structure Carries (cfg : SocketConfig) (good : World → Event → Prop) (J : Mode → Datagram → Prop) : Prop where
  cut : ∀ m d n, J m d → J m (d.cut n)
  mode : ∀ w e d, good w e → w.Waiting cfg d → J w.sock.mode d → J (w.step cfg e).1.sock.mode d
  polled : ∀ w e path a d, good w e → (path, a) ∈ w.polled e → path.datagram cfg w.sock.onlyV6 a = some d →
    J w.sock.mode d

structure World.Carried (cfg : SocketConfig) (J : Mode → Datagram → Prop) (w : World) : Prop where
  sound : ∀ pl ∈ w.pipeline, pl.Sound
  waiting : ∀ d, w.Waiting cfg d → J w.sock.mode d

section rule
variable {cfg : SocketConfig} {good : World → Event → Prop} {J : Mode → Datagram → Prop} {w : World} {e : Event}

theorem World.Fresh.carried (h : w.Fresh) : w.Carried cfg J where
  sound pl hpl := by
    obtain ⟨capacity, numWorkers, rfl⟩ := h.pipeline pl hpl
    exact Pipeline.sound_new capacity numWorkers
  waiting d hd := by
    rcases hd with hd | ⟨pl, hpl, hd⟩
    · exact absurd hd (by rw [h.queue]; exact List.not_mem_nil)
    · obtain ⟨capacity, numWorkers, rfl⟩ := h.pipeline pl hpl
      exact absurd hd (Pipeline.not_waits_new cfg capacity numWorkers d)

theorem mem_outputs_returned {p : Poll} {d : Datagram} : .returned d ∈ p.outputs ↔ d ∈ p.result := by
  simp [Poll.outputs]

theorem World.Carried.of_poll {p : Poll} {pipeline : Option Pipeline} {wire : List Burst}
    (hp : p.Holds w.sock.mode (J w.sock.mode)) (hsound : ∀ pl ∈ pipeline, pl.Sound)
    (hwaits : ∀ pl ∈ pipeline, ∀ d, pl.Waits cfg d → J w.sock.mode d) :
    World.Carried cfg J { sock := p.sock, wire, pipeline } ∧ ∀ d, .returned d ∈ p.outputs → J w.sock.mode d := by
  refine ⟨⟨hsound, fun d hd => ?_⟩, fun d hd => hp.result d (mem_outputs_returned.1 hd)⟩
  rw [hp.mode]
  rcases hd with hd | ⟨pl, hpl, hd⟩
  · exact hp.queue d hd
  · exact hwaits pl hpl d hd

theorem Carries.receive (hc : Carries cfg good J) (hw : w.Carried cfg J) (recorded : Bool) (n : Nat)
    (hpolled : w.pipeline = none → w.sock.queue.packets = [] → ∀ a ∈ w.arriving, ∀ d,
      (dispatch cfg w.sock.onlyV6 a).datagram = some d → J w.sock.mode d) :
    (w.receive cfg recorded n).1.Carried cfg J ∧
      ∀ d, .returned d ∈ (w.receive cfg recorded n).2 → J w.sock.mode d := by
  have hstart : Poll.Holds w.sock.mode (J w.sock.mode) { sock := w.sock } :=
    ⟨rfl, fun d hd => hw.waiting d (.inl hd), fun d hd => absurd hd (by simp)⟩
  unfold World.receive
  split
  · next hnone =>
    refine World.Carried.of_poll
      (recvInline_holds hstart (fun d => hc.cut _ d n) fun burst hburst hempty frame hframe d hd =>
        hpolled hnone hempty _ ?_ d hd)
      (fun pl hpl => absurd hpl (by simp [hnone])) fun pl hpl => absurd hpl (by simp [hnone])
    rw [World.arriving, hburst]
    exact List.mem_map_of_mem hframe
  · next pl hsome =>
    have hsound := hw.sound pl hsome
    obtain ⟨hp, hmoves⟩ := recvPipeline_holds recorded hstart (fun d => hc.cut _ d n)
      fun d hd => hw.waiting d (.inr ⟨pl, hsome, hd⟩)
    refine World.Carried.of_poll hp (fun pl' hpl' => ?_) fun pl' hpl' d hd => ?_
    · obtain rfl := Option.some.inj hpl'
      exact hmoves.sound hsound
    · obtain rfl := Option.some.inj hpl'
      exact hw.waiting d (.inr ⟨pl, hsome, hmoves.waits hsound hd⟩)

theorem World.Carried.of_moves {w' : World} (hw : w.Carried cfg J)
    (hqueue : w'.sock.queue.packets = w.sock.queue.packets)
    (hmoves : ∀ pl' ∈ w'.pipeline, ∃ pl ∈ w.pipeline, Moves cfg pl pl')
    (hmode : ∀ d, w.Waiting cfg d → J w.sock.mode d → J w'.sock.mode d) : w'.Carried cfg J := by
  refine ⟨fun pl' hpl' => ?_, fun d hd => ?_⟩
  · obtain ⟨pl, hpl, h⟩ := hmoves pl' hpl'
    exact h.sound (hw.sound pl hpl)
  · have hold : w.Waiting cfg d := by
      rcases hd with hd | ⟨pl', hpl', hd⟩
      · exact .inl (hqueue ▸ hd)
      · obtain ⟨pl, hpl, h⟩ := hmoves pl' hpl'
        exact .inr ⟨pl, hpl, h.waits (hw.sound pl hpl) hd⟩
    exact hmode d hold (hw.waiting d hold)

theorem Carries.rxPoll (hc : Carries cfg good J) (hg : good w .rxPoll) (hw : w.Carried cfg J) :
    (w.step cfg .rxPoll).1.Carried cfg J ∧ ∀ d, .returned d ∈ (w.step cfg .rxPoll).2 → J w.sock.mode d := by
  have hnone : ∀ d, .returned d ∈ ([] : List Output) → J w.sock.mode d := fun _ h => absurd h List.not_mem_nil
  unfold World.step
  dsimp only
  split
  · next pl burst wire hpl hwire =>
    by_cases hrx : pl.rxRefs.isEmpty
    · rw [if_pos hrx]
      have hsound := hw.sound pl hpl
      have hfills := pl.pool.fills_recvInto hsound.nodup_freeList (burst.frames.map (⟨·, w.sock.connects⟩))
      refine ⟨⟨fun pl' hpl' => ?_, fun d hd => ?_⟩, hnone⟩
      · obtain rfl := Option.some.inj hpl'
        exact hsound.recv (List.isEmpty_iff.1 hrx) hfills
      rcases hd with hd | ⟨pl', hpl', hd⟩
      · exact hw.waiting d (.inl hd)
      · obtain rfl := Option.some.inj hpl'
        rcases hsound.waits_recv hfills hd with hd | ⟨a, ha, hd⟩
        · exact hw.waiting d (.inr ⟨pl, hpl, hd⟩)
        · refine hc.polled w _ .pipeline a d hg ?_ hd
          rw [World.polled, hpl, World.arriving, hwire]
          simpa [hrx] using ha
    · rw [if_neg hrx]
      exact ⟨hw, hnone⟩
  · exact ⟨hw, hnone⟩

theorem Carries.resolvePoll (hc : Carries cfg good J) (hg : good w .resolvePoll) (hw : w.Carried cfg J) :
    (w.step cfg .resolvePoll).1.Carried cfg J ∧
      ∀ d, .returned d ∈ (w.step cfg .resolvePoll).2 → J w.sock.mode d := by
  have hstart : Poll.Holds w.sock.mode (J w.sock.mode) { sock := w.sock } :=
    ⟨rfl, fun d hd => hw.waiting d (.inl hd), fun d hd => absurd hd (by simp)⟩
  unfold World.step
  dsimp only
  split
  · exact ⟨hw, fun _ h => absurd h List.not_mem_nil⟩
  · next burst wire hwire =>
    refine World.Carried.of_poll (resolvePoll_holds hstart fun frame hframe d hd =>
      hc.polled w _ .resolve _ d hg ?_ hd) hw.sound fun pl hpl d hd => hw.waiting d (.inr ⟨pl, hpl, hd⟩)
    rw [World.polled, World.arriving, hwire]
    exact List.mem_map_of_mem (List.mem_map_of_mem hframe)

def Event.isQuiet : Event → Bool
  | .recvFrom _ | .tryRecvFrom _ | .resolvePoll | .rxPoll => false
  | _ => true

theorem World.step_quiet (cfg : SocketConfig) (w : World) (h : e.isQuiet) :
    (w.step cfg e).1.sock.queue.packets = w.sock.queue.packets ∧
      (∀ pl' ∈ (w.step cfg e).1.pipeline, ∃ pl ∈ w.pipeline, Moves cfg pl pl') ∧
      ∀ d, .returned d ∉ (w.step cfg e).2 := by
  have hsame : ∀ pl' ∈ w.pipeline, ∃ pl ∈ w.pipeline, Moves cfg pl pl' := fun pl hpl => ⟨pl, hpl, .refl pl⟩
  cases e with
  | recvFrom _ | tryRecvFrom _ | resolvePoll | rxPoll => exact absurd h Bool.false_ne_true
  | connect addr => exact ⟨rfl, hsame, fun _ => List.not_mem_nil⟩
  | setOnlyV6 onlyV6 =>
    refine ⟨?_, hsame, fun _ => List.not_mem_nil⟩
    simp only [World.step, SocketState.setOnlyV6]
    split <;> rfl
  | setRecvBufferSize bytes =>
    refine ⟨?_, hsame, fun _ => List.not_mem_nil⟩
    simp only [World.step, SocketState.setRecvBufferSize]
    split <;> rfl
  | takeError =>
    refine ⟨?_, hsame, fun _ => by simp [World.step]⟩
    simp only [World.step, SocketState.takeError]
    split <;> rfl
  | rxFrame now =>
    simp only [World.step]
    split
    · exact ⟨rfl, hsame, fun _ => List.not_mem_nil⟩
    · next pl hpl =>
      exact ⟨congrArg _ (w.sock.queue_learn now _), fun pl' hpl' => ⟨pl, hpl, Option.some.inj hpl' ▸ moves_rxFrame cfg pl⟩,
        fun _ => by simp⟩
  | workerTake k =>
    refine ⟨rfl, fun pl' hpl' => ?_, fun _ => List.not_mem_nil⟩
    obtain ⟨pl, hpl, rfl⟩ := Option.map_eq_some_iff.1 hpl'
    exact ⟨pl, hpl, moves_takeBatch cfg pl k⟩
  | workerFrame k now =>
    simp only [World.step]
    split
    · exact ⟨rfl, hsame, fun _ => List.not_mem_nil⟩
    · next pl hpl =>
      exact ⟨rfl, fun pl' hpl' => ⟨pl, hpl, Option.some.inj hpl' ▸ moves_workerFrame cfg k pl⟩, fun _ => List.not_mem_nil⟩

theorem Carries.quiet (hc : Carries cfg good J) (hg : good w e) (hw : w.Carried cfg J) (he : e.isQuiet) :
    (w.step cfg e).1.Carried cfg J ∧ ∀ d, .returned d ∈ (w.step cfg e).2 → J w.sock.mode d := by
  obtain ⟨hqueue, hmoves, hnone⟩ := World.step_quiet cfg w he
  exact ⟨hw.of_moves hqueue hmoves fun d => hc.mode w e d hg, fun d hd => absurd hd (hnone d)⟩

/-- An event carries the property on. -/
theorem Carries.step (hc : Carries cfg good J) (hg : good w e) (hw : w.Carried cfg J) :
    (w.step cfg e).1.Carried cfg J ∧ ∀ d, .returned d ∈ (w.step cfg e).2 → J w.sock.mode d := by
  have hinline : (w.polled e = if w.pipeline.isNone ∧ w.sock.queue.packets = [] then w.arriving.map (.inline, ·) else []) →
      w.pipeline = none → w.sock.queue.packets = [] → ∀ a ∈ w.arriving, ∀ d,
        (dispatch cfg w.sock.onlyV6 a).datagram = some d → J w.sock.mode d := by
    intro hpolled hnone hempty a ha d
    refine hc.polled w e .inline a d hg ?_
    rw [hpolled, if_pos ⟨by rw [hnone]; rfl, hempty⟩]
    exact List.mem_map_of_mem ha
  cases e with
  | recvFrom n => exact hc.receive hw true n (hinline rfl)
  | tryRecvFrom n => exact hc.receive hw false n (hinline rfl)
  | resolvePoll => exact hc.resolvePoll hg hw
  | rxPoll => exact hc.rxPoll hg hw
  | connect _ | setOnlyV6 _ | setRecvBufferSize _ | takeError | rxFrame _ | workerTake _ | workerFrame _ _ =>
    exact hc.quiet hg hw rfl

/-- **What polled frames bring, returned datagrams have.** -/
theorem Carries.returned (hc : Carries cfg good J) (hw : w.Fresh) {es : List Event}
    (hgood : Along good (World.step cfg) w (es ++ [e])) {d : Datagram}
    (hd : .returned d ∈ ((run (World.step cfg) w es).1.step cfg e).2) : J (run (World.step cfg) w es).1.sock.mode d := by
  obtain ⟨hes, hlast, -⟩ := (along_append w es [e]).1 hgood
  have hinv := run_invariant (I := fun w _ => w.Carried cfg J) (fun w _ e hg hI => (hc.step hg hI).1) es w [] hes
    hw.carried
  exact (hc.step hlast hinv).2 d hd

end rule

end DpdkStdlib.Udp
