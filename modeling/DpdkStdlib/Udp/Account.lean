import DpdkStdlib.Udp.Reading

/-!
# Accounting for datagrams without a pipeline

The first datagram of a burst goes to the caller past the queue, the others into it.  The queue is empty when a burst is
polled, so the order of arrival is kept; and what the queue refuses is counted.
-/

namespace DpdkStdlib.Udp
open DpdkStdlib.Lib

/-! ## Verdicts -/

def kept (verdicts : List (Datagram × Bool)) : List Datagram := (verdicts.filter (·.2)).map Prod.fst

def refused (verdicts : List (Datagram × Bool)) : List Datagram := (verdicts.filter (!·.2)).map Prod.fst

@[simp] theorem kept_nil : kept [] = [] := rfl

@[simp] theorem refused_nil : refused [] = [] := rfl

@[simp] theorem kept_append (v v' : List (Datagram × Bool)) : kept (v ++ v') = kept v ++ kept v' := by simp [kept]

@[simp] theorem refused_append (v v' : List (Datagram × Bool)) : refused (v ++ v') = refused v ++ refused v' := by
  simp [refused]

theorem kept_of_refused {verdicts : List (Datagram × Bool)} (h : refused verdicts = []) :
    kept verdicts = verdicts.map Prod.fst := by
  rw [refused, List.map_eq_nil_iff, List.filter_eq_nil_iff] at h
  rw [kept, List.filter_eq_self.2 fun verdict hverdict => by simpa using h verdict hverdict]

def RecvDropStats.add (stats : RecvDropStats) (lost : List Datagram) : RecvDropStats :=
  ⟨stats.packets + .ofNat lost.length, stats.bytes + .ofNat (lost.map (·.payload.length)).sum⟩

@[simp] theorem RecvDropStats.add_nil (stats : RecvDropStats) : stats.add [] = stats := by
  simp [add]

theorem RecvDropStats.add_append (stats : RecvDropStats) (l l' : List Datagram) :
    stats.add (l ++ l') = (stats.add l).add l' := by
  simp [add, UInt64.ofNat_add, UInt64.add_assoc]

/-! ## Room -/

def ReceiveQueue.RoomFor (queue : ReceiveQueue) (ds : List Datagram) : Prop :=
  queue.packets.length + ds.length ≤ queue.maxPackets ∧
    queue.currentBytes + (ds.map (·.payload.length)).sum ≤ queue.maxBytes
deriving Decidable

theorem ReceiveQueue.RoomFor.tail {queue : ReceiveQueue} {d : Datagram} {ds : List Datagram}
    (h : queue.RoomFor (d :: ds)) : queue.RoomFor ds := by
  simp only [RoomFor, List.length_cons, List.map_cons, List.sum_cons] at h ⊢
  omega

theorem SocketState.rxEnqueue_room {st : SocketState} {d : Datagram} {ds : List Datagram}
    (h : st.queue.RoomFor (d :: ds)) :
    (st.rxEnqueue d).1 = true ∧ (st.rxEnqueue d).2.queue.RoomFor ds := by
  simp only [ReceiveQueue.RoomFor, List.length_cons, List.map_cons, List.sum_cons] at h
  unfold rxEnqueue ReceiveQueue.pushSlice
  dsimp only
  rw [if_neg (by omega)]
  refine ⟨rfl, ?_⟩
  simp only [ReceiveQueue.RoomFor, List.length_append, List.length_singleton]
  omega

theorem SocketState.rxDequeueInto_room {st : SocketState} {ds : List Datagram} (h : st.queue.RoomFor ds) (n : Nat) :
    (st.rxDequeueInto n).2.queue.RoomFor ds := by
  unfold rxDequeueInto ReceiveQueue.popInto
  cases hpackets : st.queue.packets with
  | nil => exact h
  | cons d rest =>
    simp only [ReceiveQueue.RoomFor, hpackets, List.length_cons] at h ⊢
    omega

/-! ## Errors -/

/-- The error queue and its flag after one more error. -/
def pushError (pending : List IoError × Bool) (error : IoError) : List IoError × Bool :=
  if pending.1.length < 16 then (pending.1 ++ [error], true) else pending

def SocketState.pendingErrors (st : SocketState) : List IoError × Bool := (st.errorQueue, st.hasPendingError)

theorem SocketState.pendingErrors_learn (st : SocketState) (now : Instant) (effect : FrameEffect) :
    (st.learn now effect).pendingErrors = effect.error.toList.foldl pushError st.pendingErrors := by
  unfold learn
  dsimp only
  cases effect.error with
  | none => cases effect.arpEntry <;> cases effect.ndpEntry <;> rfl
  | some error =>
    have hpush : ∀ s : SocketState, (s.queueIcmpError error).pendingErrors = pushError s.pendingErrors error := by
      intro s
      unfold queueIcmpError pushError
      by_cases h : s.errorQueue.length < 16
      · rw [if_pos h, if_pos (by exact h)]
        rfl
      · rw [if_neg h, if_neg (by exact h)]
    cases effect.arpEntry <;> cases effect.ndpEntry <;> exact hpush _

/-! ## A call in progress -/

/-- A call with a buffer of `n` bytes has taken these frames, and these datagrams from them. -/
structure Poll.Accounts (n : Nat) (st : SocketState) (effects : List FrameEffect) (ds : List Datagram) (p : Poll) :
    Prop where
  mode : p.sock.mode = st.mode
  replies : p.replies = effects.filterMap (·.reply)
  errors : p.sock.pendingErrors = (effects.filterMap (·.error)).foldl pushError st.pendingErrors
  taken : p.verdicts.map Prod.fst = ds
  drops : p.sock.recvDrops = st.recvDrops.add (refused p.verdicts)
  room : ∀ more, st.queue.RoomFor (ds ++ more) → refused p.verdicts = [] ∧ p.sock.queue.RoomFor more
  balance : ∃ got : Option Datagram, p.result = got.map (·.cut n) ∧
    st.queue.packets ++ kept p.verdicts = got.toList ++ p.sock.queue.packets

/-- Nothing is left in the queue of a call that has no result. -/
def Poll.Drained (p : Poll) : Prop := p.result = none → p.sock.queue.packets = []

section accounts
variable {cfg : SocketConfig} {n : Nat} {st : SocketState} {effects : List FrameEffect} {ds : List Datagram} {p : Poll}

theorem Poll.accounts_start (n : Nat) (st : SocketState) : Poll.Accounts n st [] [] { sock := st } where
  mode := rfl
  replies := rfl
  errors := rfl
  taken := rfl
  drops := st.recvDrops.add_nil.symm
  room _ h := ⟨rfl, h⟩
  balance := ⟨none, rfl, List.append_nil _⟩

namespace Poll.Accounts

theorem queue_eq (h : p.Accounts n st effects ds) (hnone : p.result = none) :
    p.sock.queue.packets = st.queue.packets ++ kept p.verdicts := by
  obtain ⟨got, hresult, hbalance⟩ := h.balance
  rw [hnone] at hresult
  rw [Option.map_eq_none_iff.1 hresult.symm] at hbalance
  exact hbalance.symm

theorem learn (h : p.Accounts n st effects ds) (now : Instant) (effect : FrameEffect) :
    Poll.Accounts n st (effects ++ [effect]) ds
      { p with sock := p.sock.learn now effect, replies := p.replies ++ effect.reply.toList } where
  mode := (p.sock.mode_learn now effect).trans h.mode
  replies := by
    rw [h.replies, List.filterMap_append, filterMap_cons_toList, List.filterMap_nil, List.append_nil]
  errors := by
    rw [SocketState.pendingErrors_learn, h.errors, List.filterMap_append, List.foldl_append, filterMap_cons_toList,
      List.filterMap_nil, List.append_nil]
  taken := h.taken
  drops := by
    obtain ⟨_, _, _, _, heq⟩ := p.sock.learn_eq now effect
    rw [heq]
    exact h.drops
  room := by
    rw [p.sock.queue_learn]
    exact h.room
  balance := by
    rw [p.sock.queue_learn]
    exact h.balance

theorem enqueue (h : p.Accounts n st effects ds) (d : Datagram) :
    (p.enqueue d).Accounts n st effects (ds ++ [d]) := by
  obtain ⟨got, hresult, hbalance⟩ := h.balance
  have htaken : (p.enqueue d).verdicts.map Prod.fst = ds ++ [d] := by
    rw [Poll.enqueue, List.map_append, h.taken]
    rfl
  have hmode : (p.enqueue d).sock.mode = st.mode := (p.sock.mode_rxEnqueue d).trans h.mode
  have hroom : ∀ more, st.queue.RoomFor (ds ++ [d] ++ more) →
      refused (p.enqueue d).verdicts = [] ∧ (p.enqueue d).sock.queue.RoomFor more := by
    intro more hmore
    rw [List.append_assoc] at hmore
    obtain ⟨hrefused, hqueue⟩ := h.room (d :: more) hmore
    obtain ⟨hkept, hrest⟩ := SocketState.rxEnqueue_room hqueue
    refine ⟨?_, hrest⟩
    rw [Poll.enqueue, refused_append, hrefused, hkept]
    rfl
  rcases p.sock.rxEnqueue_cases d with henq | ⟨queue, henq, hpackets⟩
  · refine ⟨hmode, h.replies, ?_, htaken, ?_, hroom, got, hresult, ?_⟩
    · simp only [Poll.enqueue, henq]
      exact h.errors
    · simp only [Poll.enqueue, henq, refused_append, RecvDropStats.add_append, ← h.drops]
      rfl
    · simp only [Poll.enqueue, henq, kept_append]
      rw [← hbalance]
      exact congrArg _ (List.append_nil _)
  · refine ⟨hmode, h.replies, ?_, htaken, ?_, hroom, got, hresult, ?_⟩
    · simp only [Poll.enqueue, henq]
      exact h.errors
    · simp only [Poll.enqueue, henq, refused_append, RecvDropStats.add_append, ← h.drops]
      exact p.sock.recvDrops.add_nil.symm
    · simp only [Poll.enqueue, henq, kept_append, hpackets]
      rw [← List.append_assoc, hbalance, List.append_assoc]
      rfl

theorem deliver (h : p.Accounts n st effects ds) (hnone : p.result = none) (hempty : p.sock.queue.packets = [])
    (recorded : Bool) (d : Datagram) : (p.deliver n recorded d).Accounts n st effects (ds ++ [d]) := by
  have hsock : (p.deliver n recorded d).sock.mode = p.sock.mode ∧ (p.deliver n recorded d).sock.queue = p.sock.queue ∧
      (p.deliver n recorded d).sock.recvDrops = p.sock.recvDrops ∧
      (p.deliver n recorded d).sock.pendingErrors = p.sock.pendingErrors := by
    unfold Poll.deliver
    dsimp only
    split <;> exact ⟨rfl, rfl, rfl, rfl⟩
  obtain ⟨hmode, hqueue, hdrops, herrors⟩ := hsock
  refine ⟨hmode.trans h.mode, h.replies, herrors.trans h.errors, ?_, ?_, fun more hmore => ?_, some d, rfl, ?_⟩
  · rw [Poll.deliver, List.map_append, h.taken]
    rfl
  · rw [hdrops, h.drops, Poll.deliver]
    simp only [refused_append, RecvDropStats.add_append]
    exact (RecvDropStats.add_nil _).symm
  · rw [List.append_assoc] at hmore
    obtain ⟨hrefused, hroom⟩ := h.room (d :: more) hmore
    refine ⟨?_, by rw [hqueue]; exact hroom.tail⟩
    rw [Poll.deliver, refused_append, hrefused]
    rfl
  · rw [hqueue, hempty, Poll.deliver]
    simp only [kept_append]
    rw [← List.append_assoc, ← h.queue_eq hnone, hempty]
    rfl

end Poll.Accounts

/-- What a frame makes a socket do that is in the state `st`. -/
def SocketState.effect (cfg : SocketConfig) (st : SocketState) (frame : RxFrame) : FrameEffect :=
  dispatch cfg st.onlyV6 ⟨frame, st.connects⟩

/-- The datagram of the frame, if it has one, is not from elsewhere than the peer. -/
def SocketState.Welcome (cfg : SocketConfig) (st : SocketState) (frame : RxFrame) : Prop :=
  ∀ d ∈ (st.effect cfg frame).datagram, st.isForeign d.src = false
deriving Decidable

/-- A frame is accounted for. -/
theorem processFrame_accounts (h : p.Accounts n st effects ds) (hdrained : p.Drained) (now : Instant) {frame : RxFrame}
    (hwelcome : st.Welcome cfg frame) :
    (processFrame cfg n now p frame).Accounts n st (effects ++ [st.effect cfg frame])
        (ds ++ (st.effect cfg frame).datagram.toList) ∧
      (processFrame cfg n now p frame).Drained := by
  have heffect : dispatch cfg p.sock.onlyV6 ⟨frame, p.sock.connects⟩ = st.effect cfg frame := by
    have honly : p.sock.onlyV6 = st.onlyV6 := congrArg Mode.onlyV6 h.mode
    have hconnects : p.sock.connects = st.connects := congrArg Mode.connects h.mode
    rw [honly, hconnects, SocketState.effect]
  unfold processFrame
  dsimp only
  rw [heffect]
  have hlearn := h.learn now (st.effect cfg frame)
  have hqueue := p.sock.queue_learn now (st.effect cfg frame)
  split
  · next hdatagram =>
    rw [hdatagram]
    refine ⟨by simpa using hlearn, fun hnone => ?_⟩
    rw [hqueue]
    exact hdrained hnone
  · next d hdatagram =>
    rw [hdatagram]
    have hforeign : (p.sock.learn now (st.effect cfg frame)).isForeign d.src = false := by
      have hconn : (p.sock.learn now (st.effect cfg frame)).connectedAddr = st.connectedAddr :=
        congrArg Mode.connectedAddr hlearn.mode
      rw [SocketState.isForeign, hconn]
      exact hwelcome d hdatagram
    rw [if_neg (by rw [hforeign]; exact Bool.false_ne_true)]
    by_cases hresult : p.result.isNone
    · rw [if_pos hresult]
      have hnone : p.result = none := Option.isNone_iff_eq_none.1 hresult
      exact ⟨hlearn.deliver hnone (by rw [hqueue]; exact hdrained hnone) _ d, nofun⟩
    · rw [if_neg hresult]
      exact ⟨hlearn.enqueue d, fun hnone => absurd (by rw [show p.result = none from hnone]; rfl) hresult⟩

theorem foldl_processFrame_accounts (now : Instant) (frames : List RxFrame) (hwelcome : ∀ f ∈ frames, st.Welcome cfg f)
    (h : p.Accounts n st effects ds) (hdrained : p.Drained) :
    (frames.foldl (processFrame cfg n now) p).Accounts n st (effects ++ frames.map (st.effect cfg))
        (ds ++ (frames.map (st.effect cfg)).filterMap (·.datagram)) ∧
      (frames.foldl (processFrame cfg n now) p).Drained := by
  induction frames generalizing p effects ds with
  | nil => simpa using ⟨h, hdrained⟩
  | cons frame frames ih =>
    obtain ⟨hstep, hdrained⟩ := processFrame_accounts h hdrained now (hwelcome frame List.mem_cons_self)
    have hrest := ih (fun f hf => hwelcome f (List.mem_cons_of_mem _ hf)) hstep hdrained
    rw [List.map_cons, filterMap_cons_toList, List.foldl_cons, ← List.append_assoc, List.append_cons]
    exact hrest

/-- The effects of bursts on a socket in the state `st`. -/
def SocketState.effectsOf (cfg : SocketConfig) (st : SocketState) (bursts : List Burst) : List FrameEffect :=
  (bursts.flatMap (·.frames)).map (st.effect cfg)

/-- A turn of a receive call accounts for its burst. -/
theorem recvInline_accounts {wire : List Burst} (hwelcome : ∀ b ∈ wire, ∀ f ∈ b.frames, st.Welcome cfg f)
    (h : p.Accounts n st effects ds) (hnone : p.result = none) :
    ∃ consumed, wire = consumed ++ (recvInline cfg n p wire).2 ∧
      (recvInline cfg n p wire).1.Accounts n st (effects ++ st.effectsOf cfg consumed)
        (ds ++ (st.effectsOf cfg consumed).filterMap (·.datagram)) ∧
      (recvInline cfg n p wire).1.Drained := by
  unfold recvInline
  rcases p.sock.rxDequeueInto_cases n with ⟨hempty, heq⟩ | ⟨head, rest, queue, hasBufferedPackets, hpackets, hrest, heq⟩
  · rw [heq]
    have hstart : Poll.Accounts n st effects ds { p with sock := { p.sock with hasBufferedPackets := false } } :=
      ⟨h.mode, h.replies, h.errors, h.taken, h.drops, h.room, h.balance⟩
    cases wire with
    | nil => exact ⟨[], rfl, by simpa [SocketState.effectsOf] using hstart, fun _ => hempty⟩
    | cons burst wire =>
      refine ⟨[burst], rfl, ?_⟩
      have hfold := foldl_processFrame_accounts burst.now burst.frames (hwelcome burst List.mem_cons_self) hstart
        fun _ => hempty
      simpa [SocketState.effectsOf] using hfold
  · rw [heq]
    refine ⟨[], rfl, ?_, nofun⟩
    have hbalance := h.queue_eq hnone
    rw [hpackets] at hbalance
    have hroom : ∀ more, st.queue.RoomFor (ds ++ more) → refused p.verdicts = [] ∧ queue.RoomFor more := by
      intro more hmore
      obtain ⟨hrefused, hqueue⟩ := h.room more hmore
      have hpopped := SocketState.rxDequeueInto_room hqueue n
      rw [heq] at hpopped
      exact ⟨hrefused, hpopped⟩
    have htake : Poll.Accounts n st effects ds
        { p with sock := { p.sock with queue, hasBufferedPackets }, result := some (head.cut n) } :=
      ⟨h.mode, h.replies, h.errors, h.taken, h.drops, hroom, some head, rfl, by rw [← hbalance, ← hrest]; rfl⟩
    simpa [SocketState.effectsOf] using htake

theorem recvFromInline_accounts (turns : Nat) {wire : List Burst}
    (hwelcome : ∀ b ∈ wire, ∀ f ∈ b.frames, st.Welcome cfg f) (h : p.Accounts n st effects ds) (hnone : p.result = none) :
    ∃ consumed, wire = consumed ++ (recvFromInline cfg n turns p wire).2 ∧
      (recvFromInline cfg n turns p wire).1.Accounts n st (effects ++ st.effectsOf cfg consumed)
        (ds ++ (st.effectsOf cfg consumed).filterMap (·.datagram)) ∧
      (0 < turns → (recvFromInline cfg n turns p wire).1.Drained) := by
  induction turns generalizing p effects ds wire with
  | zero =>
    exact ⟨[], rfl, by simpa [SocketState.effectsOf, recvFromInline] using h,
      fun hturns => absurd hturns (Nat.lt_irrefl 0)⟩
  | succ turns ih =>
    obtain ⟨consumed, hwire, haccounts, hdrained⟩ := recvInline_accounts hwelcome h hnone
    rw [recvFromInline]
    dsimp only
    by_cases hsome : (recvInline cfg n p wire).1.result.isSome
    · rw [if_pos hsome]
      exact ⟨consumed, hwire, haccounts, fun _ => hdrained⟩
    rw [if_neg hsome]
    have hnone' : (recvInline cfg n p wire).1.result = none := by simpa using hsome
    have hwelcome' : ∀ b ∈ (recvInline cfg n p wire).2, ∀ f ∈ b.frames, st.Welcome cfg f := fun b hb =>
      hwelcome b (by rw [hwire]; exact List.mem_append_right _ hb)
    obtain ⟨consumed', hwire', haccounts', hdrained'⟩ := ih hwelcome' haccounts hnone'
    refine ⟨consumed ++ consumed', ?_, ?_, fun _ => ?_⟩
    · rw [List.append_assoc, ← hwire', ← hwire]
    · simpa [SocketState.effectsOf] using haccounts'
    · cases turns with
      | zero => exact hdrained
      | succ turns => exact hdrained' (Nat.succ_pos turns)

end accounts

/-! ## Runs of calls -/

/-- A receive call: the bytes of its buffer and, for `recv_from`, the turns that its deadline leaves it. -/
inductive Call
  | recvFrom (n turns : Nat)
  | tryRecvFrom (n : Nat)
deriving DecidableEq

namespace Call

def room : Call → Nat
  | recvFrom n _ | tryRecvFrom n => n

def turns : Call → Nat
  | recvFrom _ turns => turns
  | tryRecvFrom _ => 1

def poll (cfg : SocketConfig) (st : SocketState) (wire : List Burst) : Call → Poll × List Burst
  | recvFrom n turns => recvFromInline cfg n turns { sock := st } wire
  | tryRecvFrom n => recvInline cfg n { sock := st } wire

end Call

/-- What a call has given back and sent, and what became of the datagrams it took. -/
structure Receipt where
  call : Call
  result : Option Datagram
  replies : List (List UInt8)
  verdicts : List (Datagram × Bool)
deriving DecidableEq

/-- A receive call on the socket and the bursts that wait. -/
def receiveStep (cfg : SocketConfig) (s : SocketState × List Burst) (call : Call) :
    (SocketState × List Burst) × List Receipt :=
  let (p, wire) := call.poll cfg s.1 s.2
  ((p.sock, wire), [⟨call, p.result, p.replies, p.verdicts⟩])

/-- Calls begun in `st` have polled `consumed`, returned `delivered`, and led to `s`. -/
structure Settled (cfg : SocketConfig) (st : SocketState) (consumed : List Burst) (delivered : List Datagram)
    (s : SocketState) (receipts : List Receipt) : Prop where
  mode : s.mode = st.mode
  replies : receipts.flatMap (·.replies) = (st.effectsOf cfg consumed).filterMap (·.reply)
  errors : s.pendingErrors = ((st.effectsOf cfg consumed).filterMap (·.error)).foldl pushError st.pendingErrors
  /-- The calls took every datagram of the bursts once, in order. -/
  taken : (receipts.flatMap (·.verdicts)).map Prod.fst = (st.effectsOf cfg consumed).filterMap (·.datagram)
  drops : s.recvDrops = st.recvDrops.add (refused (receipts.flatMap (·.verdicts)))
  /-- Nothing is refused as long as there is room for everything. -/
  room : ∀ more, st.queue.RoomFor ((st.effectsOf cfg consumed).filterMap (·.datagram) ++ more) →
    refused (receipts.flatMap (·.verdicts)) = [] ∧ s.queue.RoomFor more
  /-- What was queued before and what was kept is delivered or queued, in order. -/
  balance : st.queue.packets ++ kept (receipts.flatMap (·.verdicts)) = delivered ++ s.queue.packets
  /-- A call returns what it is due, cut to its buffer. -/
  returned : List.Forall₂ (fun receipt d => receipt.result = some (d.cut receipt.call.room))
    (receipts.filter (·.result.isSome)) delivered
  /-- A call that polled and has nothing to return leaves nothing in the queue. -/
  drained : ∀ receipt ∈ receipts.getLast?, 0 < receipt.call.turns → receipt.result = none → s.queue.packets = []

section run
variable {cfg : SocketConfig} {st : SocketState}

theorem Call.poll_accounts (call : Call) {wire : List Burst} (hwelcome : ∀ b ∈ wire, ∀ f ∈ b.frames, st.Welcome cfg f) :
    ∃ consumed, wire = consumed ++ (call.poll cfg st wire).2 ∧
      (call.poll cfg st wire).1.Accounts call.room st (st.effectsOf cfg consumed)
        ((st.effectsOf cfg consumed).filterMap (·.datagram)) ∧
      (0 < call.turns → (call.poll cfg st wire).1.Drained) := by
  cases call with
  | recvFrom n turns => exact recvFromInline_accounts turns hwelcome (Poll.accounts_start n st) rfl
  | tryRecvFrom n =>
    obtain ⟨consumed, hwire, haccounts, hdrained⟩ := recvInline_accounts hwelcome (Poll.accounts_start n st) rfl
    exact ⟨consumed, hwire, haccounts, fun _ => hdrained⟩

theorem effect_of_mode {s : SocketState} (h : s.mode = st.mode) : s.effect cfg = st.effect cfg := by
  have honly : s.onlyV6 = st.onlyV6 := congrArg Mode.onlyV6 h
  have hconnects : s.connects = st.connects := congrArg Mode.connects h
  funext frame
  rw [SocketState.effect, SocketState.effect, honly, hconnects]

theorem welcome_of_mode {s : SocketState} (h : s.mode = st.mode) {frame : RxFrame} (hw : st.Welcome cfg frame) :
    s.Welcome cfg frame := by
  have hconn : s.connectedAddr = st.connectedAddr := congrArg Mode.connectedAddr h
  intro d hd
  rw [effect_of_mode h] at hd
  rw [SocketState.isForeign, hconn]
  exact hw d hd

theorem Settled.call {consumed : List Burst} {delivered : List Datagram} {s : SocketState × List Burst}
    {receipts : List Receipt} (h : Settled cfg st consumed delivered s.1 receipts) (call : Call)
    (hwelcome : ∀ b ∈ s.2, ∀ f ∈ b.frames, st.Welcome cfg f) :
    ∃ consumed' delivered', s.2 = consumed' ++ (receiveStep cfg s call).1.2 ∧
      Settled cfg st (consumed ++ consumed') (delivered ++ delivered') (receiveStep cfg s call).1.1
        (receipts ++ (receiveStep cfg s call).2) := by
  have hwelcome' : ∀ b ∈ s.2, ∀ f ∈ b.frames, s.1.Welcome cfg f := fun b hb f hf =>
    welcome_of_mode h.mode (hwelcome b hb f hf)
  obtain ⟨consumed', hwire, hcall, hdrained⟩ := call.poll_accounts hwelcome'
  obtain ⟨got, hresult, hbalance⟩ := hcall.balance
  have heffects : s.1.effectsOf cfg consumed' = st.effectsOf cfg consumed' := by
    rw [SocketState.effectsOf, effect_of_mode h.mode, SocketState.effectsOf]
  rw [heffects] at hcall
  have hsplit : st.effectsOf cfg (consumed ++ consumed') = st.effectsOf cfg consumed ++ st.effectsOf cfg consumed' := by
    simp [SocketState.effectsOf]
  refine ⟨consumed', got.toList, hwire, hcall.mode.trans h.mode, ?_, ?_, ?_, ?_, fun more hmore => ?_, ?_, ?_, ?_⟩
  · rw [hsplit, List.flatMap_append, h.replies, List.filterMap_append, ← hcall.replies]
    simp [receiveStep]
  · rw [hsplit, List.filterMap_append, List.foldl_append, ← h.errors]
    exact hcall.errors
  · rw [hsplit, List.flatMap_append, List.map_append, h.taken, List.filterMap_append, ← hcall.taken]
    simp [receiveStep]
  · rw [List.flatMap_append, refused_append, RecvDropStats.add_append, ← h.drops]
    simpa [receiveStep] using hcall.drops
  · rw [hsplit, List.filterMap_append, List.append_assoc] at hmore
    obtain ⟨hrefused, hroom⟩ := h.room _ hmore
    obtain ⟨hrefused', hroom'⟩ := hcall.room more hroom
    refine ⟨?_, hroom'⟩
    rw [List.flatMap_append, refused_append, hrefused]
    simpa [receiveStep] using hrefused'
  · rw [List.flatMap_append, kept_append, ← List.append_assoc, h.balance, List.append_assoc, List.append_assoc]
    simpa [receiveStep] using congrArg (delivered ++ ·) hbalance
  · rw [List.filter_append]
    refine List.rel_append h.returned ?_
    cases got with
    | none => simp [receiveStep, hresult]
    | some d => simp [receiveStep, hresult]
  · intro receipt hreceipt hturns hnone
    obtain rfl : ⟨call, _, _, _⟩ = receipt := by simpa [receiveStep] using hreceipt
    exact hdrained hturns hnone

/-- **Every run of calls settles.** -/
theorem run_settled {wire : List Burst} (hwelcome : ∀ b ∈ wire, ∀ f ∈ b.frames, st.Welcome cfg f) (calls : List Call) :
    ∃ consumed delivered, wire = consumed ++ (run (receiveStep cfg) (st, wire) calls).1.2 ∧
      Settled cfg st consumed delivered (run (receiveStep cfg) (st, wire) calls).1.1
        (run (receiveStep cfg) (st, wire) calls).2 := by
  have hstep : ∀ (s : SocketState × List Burst) receipts call, True →
      (∃ consumed delivered, wire = consumed ++ s.2 ∧ Settled cfg st consumed delivered s.1 receipts) →
      ∃ consumed delivered, wire = consumed ++ (receiveStep cfg s call).1.2 ∧
        Settled cfg st consumed delivered (receiveStep cfg s call).1.1 (receipts ++ (receiveStep cfg s call).2) := by
    rintro s receipts call - ⟨consumed, delivered, hwire, h⟩
    obtain ⟨consumed', delivered', hwire', h'⟩ := h.call call fun b hb =>
      hwelcome b (by rw [hwire]; exact List.mem_append_right _ hb)
    exact ⟨_, _, by rw [List.append_assoc, ← hwire', ← hwire], h'⟩
  have hinit : Settled cfg st [] [] st [] :=
    ⟨rfl, rfl, rfl, rfl, st.recvDrops.add_nil.symm, fun _ h => ⟨rfl, h⟩, List.append_nil _, .nil,
      fun _ h => absurd h (by simp)⟩
  exact run_invariant (I := fun s receipts => ∃ consumed delivered, wire = consumed ++ s.2 ∧
      Settled cfg st consumed delivered s.1 receipts) hstep calls (st, wire) [] (along_true _ calls)
    ⟨[], [], rfl, hinit⟩

theorem recvInline_polls (n : Nat) (hempty : st.queue.packets = []) (wire : List Burst) :
    (recvInline cfg n { sock := st } wire).2 = wire.tail := by
  unfold recvInline
  rcases st.rxDequeueInto_cases n with ⟨-, heq⟩ | ⟨head, rest, queue, hasBufferedPackets, hpackets, -, heq⟩
  · rw [heq]
    cases wire <;> rfl
  · rw [hempty] at hpackets
    cases hpackets

theorem recvInline_suffix (n : Nat) (p : Poll) (wire : List Burst) : (recvInline cfg n p wire).2 <:+ wire := by
  unfold recvInline
  split
  · exact List.suffix_rfl
  · cases wire with
    | nil => exact List.suffix_rfl
    | cons burst wire => exact List.suffix_cons burst wire

theorem recvFromInline_suffix (n turns : Nat) (p : Poll) (wire : List Burst) :
    (recvFromInline cfg n turns p wire).2 <:+ wire := by
  induction turns generalizing p wire with
  | zero => exact List.suffix_rfl
  | succ turns ih =>
    rw [recvFromInline]
    dsimp only
    split_ifs
    · exact recvInline_suffix n p wire
    · exact (ih _ _).trans (recvInline_suffix n p wire)

/-- A call on an empty queue takes the next burst off the wire. -/
theorem Call.poll_suffix_tail {call : Call} (hturns : 0 < call.turns) (hempty : st.queue.packets = [])
    (wire : List Burst) : (call.poll cfg st wire).2 <:+ wire.tail := by
  cases call with
  | tryRecvFrom n => rw [Call.poll, recvInline_polls n hempty]
  | recvFrom n turns =>
    obtain ⟨turns, rfl⟩ := Nat.exists_eq_add_of_lt hturns
    rw [Call.poll, Nat.zero_add, recvFromInline]
    have hpolls : (recvInline cfg n { sock := st } wire).2 = _ := recvInline_polls n hempty wire
    dsimp only
    rw [← hpolls]
    split_ifs
    · exact List.suffix_rfl
    · exact recvFromInline_suffix n turns _ _

end run

/-- **Datagrams are conserved in order.** On an unconnected socket without a pipeline, receive calls take every
datagram of the polled bursts once and in order; they return these, cut to their buffers, without what the queue
refused and counted, up to what is queued; a call that returns nothing leaves nothing queued, and one on an empty queue
polls. -/
theorem receive_conserves (cfg : SocketConfig) (st : SocketState) (hconn : st.connectedAddr = none) (wire : List Burst)
    (calls : List Call) :
    (∃ consumed delivered, wire = consumed ++ (run (receiveStep cfg) (st, wire) calls).1.2 ∧
      Settled cfg st consumed delivered (run (receiveStep cfg) (st, wire) calls).1.1
        (run (receiveStep cfg) (st, wire) calls).2) ∧
    ∀ s call, 0 < call.turns → s.1.queue.packets = [] → (receiveStep cfg s call).1.2 <:+ s.2.tail := by
  refine ⟨run_settled (fun b _ f _ d _ => ?_) calls, fun s call hturns hempty => call.poll_suffix_tail hturns hempty s.2⟩
  rw [SocketState.isForeign, hconn]
  rfl

def sampleBurst : Burst := ⟨0, [⟨sampleFrame 2 0xce, none⟩, ⟨sampleFrame 3 0xcd, none⟩]⟩

theorem receive_conserves_sample :
    (run (receiveStep sampleConfig) ({}, [sampleBurst]) [.tryRecvFrom 100, .recvFrom 0 2]).2.map
        (fun receipt => receipt.result.map fun d => (d.payload, d.src)) =
      [some ([1], .v4 ⟨10, 0, 0, 2⟩ 6000), some ([], .v4 ⟨10, 0, 0, 3⟩ 6000)] ∧
    ∃ consumed delivered, [sampleBurst] = consumed ++
        (run (receiveStep sampleConfig) ({}, [sampleBurst]) [.tryRecvFrom 100, .recvFrom 0 2]).1.2 ∧
      Settled sampleConfig {} consumed delivered
        (run (receiveStep sampleConfig) ({}, [sampleBurst]) [.tryRecvFrom 100, .recvFrom 0 2]).1.1
        (run (receiveStep sampleConfig) ({}, [sampleBurst]) [.tryRecvFrom 100, .recvFrom 0 2]).2 :=
  ⟨by decide, (receive_conserves sampleConfig {} rfl [sampleBurst] [.tryRecvFrom 100, .recvFrom 0 2]).1⟩

end DpdkStdlib.Udp
