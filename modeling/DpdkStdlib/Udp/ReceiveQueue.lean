import DpdkStdlib.Net
import Mathlib.Algebra.BigOperators.Group.List.Basic

/-!
# The receive queue as it is stored (`lib.rs`)

The source copies a payload into a recycled `Vec`, keeps the queued bytes in a `usize` and compares a saturated sum with
the limit.  `none` is a copy that finds no memory: there are at most `2^64 - 1` bytes.
-/

namespace DpdkStdlib.Udp

/-! ## Recycled vectors -/

/-- The bytes of a `Vec<u8>`, and what its allocation holds behind them. -/
structure Vec where
  bytes : List UInt8 := []
  spare : List UInt8 := []

def Vec.clear (v : Vec) : Vec := { bytes := [], spare := v.bytes ++ v.spare }

def Vec.extendFromSlice (v : Vec) (data : List UInt8) : Vec :=
  { bytes := v.bytes ++ data, spare := v.spare.drop data.length }

/-! ## The queue -/

def maxPooledBuffers : Nat := 256

def saturatingAdd (a b : Nat) : Nat := min (a + b) (2 ^ 64 - 1)

/-- `ReceiveQueue`; the vector recycled last is the last of the free list. -/
structure StoredQueue where
  packets : List (Vec × SocketAddr) := []
  maxPackets : Nat
  maxBytes : Nat
  currentBytes : Nat := 0
  freeList : List Vec := []

inductive QueueCall
  | pushSlice (payload : List UInt8) (src : SocketAddr)
  | popInto (buf : List UInt8)
  | setMaxBytes (maxBytes : Nat)

inductive QueueAnswer
  | pushed (ok : Bool)
  /-- What `pop_into` returns, and the buffer after it. -/
  | popped (result : Option (Nat × SocketAddr)) (buf : List UInt8)
  | set

namespace StoredQueue

def view (self : StoredQueue) : List (List UInt8 × SocketAddr) := self.packets.map fun p => (p.1.bytes, p.2)

def pushCopy (self : StoredQueue) (payload : List UInt8) (src : SocketAddr) : StoredQueue :=
  let v := self.freeList.getLast?.getD {}
  { self with
    freeList := self.freeList.dropLast
    currentBytes := (self.currentBytes + payload.length) % 2 ^ 64
    packets := self.packets ++ [(v.clear.extendFromSlice payload, src)] }

def pushSlice (self : StoredQueue) (payload : List UInt8) (src : SocketAddr) : Option (StoredQueue × Bool) :=
  let size := payload.length
  if self.packets.length ≥ self.maxPackets ∨ saturatingAdd self.currentBytes size > self.maxBytes then
    some (self, false)
  -- the vectors of the queue and the new one are all in memory
  else if (self.view.map (·.1.length)).sum + size ≥ 2 ^ 64 then none
  else some (self.pushCopy payload src, true)

def popInto (self : StoredQueue) (buf : List UInt8) : StoredQueue × Option (Nat × SocketAddr) × List UInt8 :=
  match self.packets with
  | [] => (self, none, buf)
  | (payload, src) :: packets =>
    let copyLen := min buf.length payload.bytes.length
    ({ self with
      packets
      currentBytes := self.currentBytes - payload.bytes.length
      freeList := if self.freeList.length < maxPooledBuffers then self.freeList ++ [payload] else self.freeList },
      some (copyLen, src), payload.bytes.take copyLen ++ buf.drop copyLen)

def call (self : StoredQueue) : QueueCall → Option (StoredQueue × QueueAnswer)
  | .pushSlice payload src => (self.pushSlice payload src).map fun (q, ok) => (q, .pushed ok)
  | .popInto buf => let (q, result, buf) := self.popInto buf; some (q, .popped result buf)
  | .setMaxBytes maxBytes => some ({ self with maxBytes }, .set)

def calls (self : StoredQueue) : List QueueCall → Option (StoredQueue × List QueueAnswer)
  | [] => some (self, [])
  | c :: cs => (self.call c).bind fun r => (r.1.calls cs).map fun rest => (rest.1, r.2 :: rest.2)

end StoredQueue

/-! ## What it stands for -/

/-- A first-in first-out queue with limits on its payloads and on the sum of their lengths. -/
structure BoundedFifo where
  items : List (List UInt8 × SocketAddr)
  maxPackets : Nat
  maxBytes : Nat

namespace BoundedFifo

def bytes (q : BoundedFifo) : Nat := (q.items.map (·.1.length)).sum

def call (q : BoundedFifo) : QueueCall → BoundedFifo × QueueAnswer
  | .pushSlice payload src =>
    if q.items.length < q.maxPackets ∧ q.bytes + payload.length ≤ q.maxBytes then
      ({ q with items := q.items ++ [(payload, src)] }, .pushed true)
    else (q, .pushed false)
  | .popInto buf =>
    match q.items with
    | [] => (q, .popped none buf)
    | (payload, src) :: items =>
      ({ q with items }, .popped (some (min buf.length payload.length, src)) (payload.take buf.length ++
        buf.drop payload.length))
  | .setMaxBytes maxBytes => ({ q with maxBytes }, .set)

def calls (q : BoundedFifo) : List QueueCall → BoundedFifo × List QueueAnswer
  | [] => (q, [])
  | c :: cs => (((q.call c).1.calls cs).1, (q.call c).2 :: ((q.call c).1.calls cs).2)

/-- The call pushes a payload that memory has no room for beside those in the queue. -/
def OutOfMemory (q : BoundedFifo) : QueueCall → Prop
  | .pushSlice payload _ => 2 ^ 64 ≤ q.bytes + payload.length
  | .popInto _ | .setMaxBytes _ => False

end BoundedFifo

namespace StoredQueue

/-- The bounded queue that it stands for. -/
def toFifo (self : StoredQueue) : BoundedFifo :=
  { items := self.view, maxPackets := self.maxPackets, maxBytes := self.maxBytes }

/-- The counter is the sum of the queued lengths, and they are in memory. -/
structure Counted (q : StoredQueue) : Prop where
  current : q.currentBytes = q.toFifo.bytes
  lt : q.toFifo.bytes < 2 ^ 64

variable {q : StoredQueue}

/-- Of the recycled vector only its capacity is left. -/
theorem view_pushCopy (payload : List UInt8) (src : SocketAddr) :
    (q.pushCopy payload src).view = q.view ++ [(payload, src)] := by
  rw [view, pushCopy, List.map_append]
  rfl

theorem Counted.pushCopy (h : q.Counted) {payload : List UInt8} (src : SocketAddr)
    (hmem : q.toFifo.bytes + payload.length < 2 ^ 64) : (q.pushCopy payload src).Counted := by
  have hbytes : (q.pushCopy payload src).toFifo.bytes = q.toFifo.bytes + payload.length := by
    rw [BoundedFifo.bytes, toFifo, view_pushCopy, List.map_append, List.sum_append, List.map_singleton,
      List.sum_singleton]
    rfl
  refine ⟨?_, hbytes ▸ hmem⟩
  rw [hbytes, ← h.current]
  exact Nat.mod_eq_of_lt (h.current ▸ hmem)

/-- The limits are compared as in the unbounded queue, unless memory has no room for the payload. -/
theorem full_iff (h : q.Counted) {payload : List UInt8} (hmem : q.toFifo.bytes + payload.length < 2 ^ 64) :
    (q.packets.length ≥ q.maxPackets ∨ saturatingAdd q.currentBytes payload.length > q.maxBytes) ↔
      ¬(q.toFifo.items.length < q.toFifo.maxPackets ∧ q.toFifo.bytes + payload.length ≤ q.toFifo.maxBytes) := by
  have hlen : q.toFifo.items.length = q.packets.length := List.length_map _
  have hsat : saturatingAdd q.currentBytes payload.length = q.toFifo.bytes + payload.length := by
    rw [saturatingAdd, h.current]
    omega
  rw [hlen, hsat, Decidable.not_and_iff_or_not, Nat.not_lt, Nat.not_le]
  rfl

/-- **One call.** It answers as the bounded queue does and keeps the count, unless memory runs out. -/
theorem call_refines (h : q.Counted) (c : QueueCall) :
    (∃ q', q.call c = some (q', (q.toFifo.call c).2) ∧ q'.toFifo = (q.toFifo.call c).1 ∧ q'.Counted) ∨
      q.call c = none ∧ q.toFifo.OutOfMemory c := by
  cases c with
  | pushSlice payload src =>
    rcases Nat.lt_or_ge (q.toFifo.bytes + payload.length) (2 ^ 64) with hmem | hmem
    · have hfull := full_iff h hmem
      rw [call, pushSlice, BoundedFifo.call]
      by_cases hroom : q.toFifo.items.length < q.toFifo.maxPackets ∧
          q.toFifo.bytes + payload.length ≤ q.toFifo.maxBytes
      · rw [if_neg fun hf => hfull.1 hf hroom,
          if_neg (show ¬(q.view.map (·.1.length)).sum + payload.length ≥ 2 ^ 64 from Nat.not_le.2 hmem), if_pos hroom]
        refine .inl ⟨q.pushCopy payload src, rfl, ?_, h.pushCopy src hmem⟩
        rw [toFifo, view_pushCopy]
        rfl
      · rw [if_pos (hfull.2 hroom), if_neg hroom]
        exact .inl ⟨q, rfl, rfl, h⟩
    · rw [call, pushSlice]
      by_cases hf : q.packets.length ≥ q.maxPackets ∨ saturatingAdd q.currentBytes payload.length > q.maxBytes
      · have hroom : ¬(q.toFifo.items.length < q.toFifo.maxPackets ∧
            q.toFifo.bytes + payload.length ≤ q.toFifo.maxBytes) := by
          rintro ⟨hlt, hle⟩
          rcases hf with hf | hf
          · exact absurd (hlt.trans_le hf) (by rw [toFifo, view, List.length_map]; exact lt_irrefl _)
          · have hmax : q.toFifo.maxBytes = q.maxBytes := rfl
            rw [saturatingAdd] at hf
            omega
        rw [BoundedFifo.call, if_pos hf, if_neg hroom]
        exact .inl ⟨q, rfl, rfl, h⟩
      · rw [if_neg hf, if_pos (show (q.view.map (·.1.length)).sum + payload.length ≥ 2 ^ 64 from hmem)]
        exact .inr ⟨rfl, hmem⟩
  | popInto buf =>
    refine .inl ?_
    rcases q with ⟨_ | ⟨⟨payload, src⟩, packets⟩, maxPackets, maxBytes, current, freeList⟩
    · exact ⟨_, rfl, rfl, h⟩
    · have hcurrent := h.current
      have hlt := h.lt
      have hbytes : (toFifo ⟨(payload, src) :: packets, maxPackets, maxBytes, current, freeList⟩).bytes =
        payload.bytes.length + ((packets.map fun p => (p.1.bytes, p.2)).map (·.1.length)).sum := rfl
      have htake : payload.bytes.take (min buf.length payload.bytes.length) = payload.bytes.take buf.length := by
        rw [← List.take_take, List.take_length]
      have hdrop : buf.drop (min buf.length payload.bytes.length) = buf.drop payload.bytes.length := by
        rcases Nat.le_total payload.bytes.length buf.length with hle | hle
        · rw [Nat.min_eq_right hle]
        · rw [Nat.min_eq_left hle, List.drop_length, List.drop_of_length_le hle]
      refine ⟨(popInto ⟨(payload, src) :: packets, maxPackets, maxBytes, current, freeList⟩ buf).1, ?_, rfl, ?_, ?_⟩
      · show some (_, QueueAnswer.popped _ (_ ++ _)) = _
        rw [htake, hdrop]
        rfl
      · show current - payload.bytes.length = ((packets.map fun p => (p.1.bytes, p.2)).map (·.1.length)).sum
        exact Nat.sub_eq_of_eq_add ((hcurrent.trans hbytes).trans (Nat.add_comm _ _))
      · show ((packets.map fun p => (p.1.bytes, p.2)).map (·.1.length)).sum < 2 ^ 64
        omega
  | setMaxBytes maxBytes => exact .inl ⟨_, rfl, rfl, h.current, h.lt⟩

/-- Any calls answer as those of the queue, until memory runs out. -/
theorem calls_refines (cs : List QueueCall) (h : q.Counted) :
    (∃ q', q.calls cs = some (q', (q.toFifo.calls cs).2) ∧ q'.toFifo = (q.toFifo.calls cs).1 ∧ q'.Counted) ∨
      q.calls cs = none ∧ ∃ cs₁ c cs₂, cs = cs₁ ++ c :: cs₂ ∧ (q.toFifo.calls cs₁).1.OutOfMemory c := by
  induction cs generalizing q with
  | nil => exact .inl ⟨q, rfl, rfl, h⟩
  | cons c cs ih =>
    rcases call_refines h c with ⟨q', hcall, hfifo, h'⟩ | ⟨hcall, hmem⟩
    · rcases ih h' with ⟨q'', hcalls, hfifo', h''⟩ | ⟨hcalls, cs₁, c', cs₂, rfl, hmem⟩
      · rw [hfifo] at hcalls hfifo'
        refine .inl ⟨q'', ?_, hfifo', h''⟩
        rw [calls, hcall, Option.bind_some, hcalls]
        rfl
      · refine .inr ⟨?_, c :: cs₁, c', cs₂, rfl, ?_⟩
        · rw [calls, hcall, Option.bind_some, hcalls]
          rfl
        · rw [BoundedFifo.calls, ← hfifo]
          exact hmem
    · refine .inr ⟨?_, [], c, cs, rfl, hmem⟩
      rw [calls, hcall]
      rfl

end StoredQueue

/-- **The receive queue is a bounded queue.** From an empty queue with any limits, every series of calls is answered as by
the bounded queue of payloads and sources, without buffers to recycle; the counter is the sum of the queued lengths, and a
push that fails changes nothing. -/
theorem receive_queue_refines (maxPackets maxBytes : Nat) (cs : List QueueCall) :
    let fifo := BoundedFifo.calls ⟨[], maxPackets, maxBytes⟩ cs
    ((∃ q, StoredQueue.calls { maxPackets, maxBytes } cs = some (q, fifo.2) ∧ q.view = fifo.1.items ∧
        q.maxBytes = fifo.1.maxBytes ∧ q.currentBytes = (q.view.map (·.1.length)).sum ∧
        ∀ payload src q', q.pushSlice payload src = some (q', false) → q' = q) ∨
      StoredQueue.calls { maxPackets, maxBytes } cs = none ∧ ∃ cs₁ c cs₂, cs = cs₁ ++ c :: cs₂ ∧
        (BoundedFifo.calls ⟨[], maxPackets, maxBytes⟩ cs₁).1.OutOfMemory c) := by
  refine (StoredQueue.calls_refines (q := { maxPackets, maxBytes }) cs ⟨rfl, Nat.two_pow_pos 64⟩).imp_left ?_
  rintro ⟨q, hcalls, hfifo, h⟩
  refine ⟨q, hcalls, congrArg BoundedFifo.items hfifo, congrArg BoundedFifo.maxBytes hfifo, h.current, ?_⟩
  intro payload src q' hpush
  rw [StoredQueue.pushSlice] at hpush
  split_ifs at hpush
  · cases hpush
    rfl
  · cases hpush

end DpdkStdlib.Udp
