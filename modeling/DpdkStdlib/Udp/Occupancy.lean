import DpdkStdlib.Udp.FreeList
import DpdkStdlib.Udp.MpscRing

/-!
# What an observer sees of the rings and the pool (`ring.rs`, `frame_pool.rs`)

`len`, `is_empty`, `available` and `in_use` load the counter of the producing side, then that of the consuming side, and
subtract.  Any number of steps may lie between the loads, so the states of the two loads are those after `es₁` and after
`es₁ ++ es₂`.
-/

namespace DpdkStdlib.Rings
open DpdkStdlib.Lib DpdkStdlib.Tcp

variable {α : Type*}

/-- `len` of both rings, of the values loaded; `none` where the subtraction underflows. -/
def len (head tail : Nat) : Option Nat := if tail ≤ head then some (head - tail) else none

def isEmpty (head tail : Nat) : Option Bool := (len head tail).map (· == 0)

def available (head tail : Nat) : Option Nat := len head tail

def inUse (capacity head tail : Nat) : Option Nat :=
  (available head tail).bind fun n => if n ≤ capacity then some (capacity - n) else none

/-- The calls do not underflow, and the numbers are at most the capacity. -/
def Plausible (capacity head tail : Nat) : Prop :=
  (∃ n ∈ len head tail, n ≤ capacity) ∧ isEmpty head tail ≠ none ∧ ∃ n ∈ inUse capacity head tail, n ≤ capacity
deriving Decidable

theorem plausible_iff {capacity head tail : Nat} :
    Plausible capacity head tail ↔ tail ≤ head ∧ head ≤ tail + capacity := by
  unfold Plausible inUse available isEmpty len
  by_cases hle : tail ≤ head
  · simp [hle]
    omega
  · simp [hle]

/-! ## The counters over a run -/

section
variable {capacity : Nat} (hcap : Cyclic capacity)
include hcap

theorem spsc_counters (es : List (SpscEvent α))
    (hops : (put (run (SpscRing.step capacity) {} es).2).length < 2 ^ 64) :
    let (s, tr) := run (SpscRing.step capacity) {} es
    s.tail ≤ s.head ∧ s.head ≤ s.tail + capacity ∧ s.tail = (obtained tr).length := by
  obtain ⟨queue, seen, haccepts, hr, -, hlen⟩ := spscInv_run hcap es hops
  have hput := congrArg List.length haccepts.put_eq
  rw [List.length_append] at hput
  have hhead := hr.head
  have hfits := hr.fits
  exact ⟨by omega, by omega, by omega⟩

theorem mpsc_counters (es : List (MpscEvent α))
    (hops : (claims (run (MpscRing.step capacity) {} es).2).length + capacity ≤ 2 ^ 63) :
    let (s, tr) := run (MpscRing.step capacity) {} es
    s.tail ≤ s.head ∧ s.head ≤ s.tail + capacity + 1 ∧ s.tail = (dequeuedItems tr).length := by
  obtain ⟨hsound, hhistory⟩ := mpscInv_run hcap es hops
  have hdequeued := congrArg List.length hhistory.dequeued
  rw [List.length_append, hhistory.moved, List.length_take, List.length_map, Nat.min_eq_left hsound.read_le,
    MpscRing.read] at hdequeued
  have hhead := hsound.head
  have hroom := hsound.room
  have hle := hsound.le
  have hgone : (run (MpscRing.step capacity) {} es).1.tail ≤ (run (MpscRing.step capacity) {} es).1.gone ∧
      (run (MpscRing.step capacity) {} es).1.gone ≤ (run (MpscRing.step capacity) {} es).1.tail + 1 := by
    rw [MpscRing.gone]
    split <;> omega
  exact ⟨by omega, by omega, by omega⟩

end

def allocations (tr : List PoolOutcome) : Nat :=
  tr.countP fun
    | .allocated _ => true
    | .exhausted => false

namespace PoolInv
variable {capacity : Nat} {s : FreeList} {log : List Nat}

theorem freeHead_le (h : PoolInv capacity s log) : s.freeTail ≤ s.freeHead ∧ s.freeHead ≤ s.freeTail + capacity := by
  have hlen := h.length
  have hle := h.le
  have hhead := h.head
  cases hpc : s.alloc with
  | idle | loaded | spinning =>
    have hconsumed : s.consumed = s.freeTail := by rw [FreeList.consumed, hpc]
    omega
  | taken idx tail =>
    have hconsumed : s.consumed = s.freeTail + 1 := by rw [FreeList.consumed, hpc]
    have hhands : s.hands = idx :: s.held := by rw [FreeList.hands, hpc]
    rw [hhands, List.length_cons] at hlen
    omega

theorem freeTail_step (h : PoolInv capacity s log) (e : PoolEvent) :
    (s.step e).1.freeTail = s.freeTail + allocations (s.step e).2 := by
  cases e with
  | alloc | free | freeStep =>
    rw [FreeList.step]
    split <;> rfl
  | allocStep =>
    show s.allocStep.1.freeTail = s.freeTail + allocations s.allocStep.2
    cases hpc : s.alloc with
    | idle =>
      simp only [FreeList.allocStep, hpc]
      rfl
    | loaded | spinning =>
      simp only [FreeList.allocStep, hpc]
      split <;> rfl
    | taken idx tail =>
      have halloc := h.alloc
      have hle := h.le
      have hlt := h.lt
      rw [hpc] at halloc
      have htail : tail = s.freeTail := halloc
      have hconsumed : s.consumed = s.freeTail + 1 := by rw [FreeList.consumed, hpc]
      simp only [FreeList.allocStep, hpc]
      rw [wrappingAdd_of_lt (by omega), htail]
      rfl

/-- The allocator's counter counts the frames it has given out. -/
theorem freeTail_run (h : PoolInv capacity s log) {es : List PoolEvent}
    (hfair : Along FreeList.Fair FreeList.step s es) :
    (run FreeList.step s es).1.freeTail = s.freeTail + allocations (run FreeList.step s es).2 := by
  have hrun := run_invariant
    (I := fun s' tr => (∃ log, PoolInv capacity s' log) ∧ s'.freeTail = s.freeTail + allocations tr)
    (fun s' tr e he hI => by
      obtain ⟨⟨log', hinv⟩, htail⟩ := hI
      refine ⟨hinv.step he, ?_⟩
      rw [hinv.freeTail_step, htail, allocations, allocations, allocations, List.countP_append, Nat.add_assoc])
    es s [] hfair ⟨⟨log, h⟩, rfl⟩
  exact hrun.2

end PoolInv

/-- With `n` items taken out between the loads, the second counter is `tail + n`. -/
theorem plausible_between {capacity head tail n : Nat} (hle : tail ≤ head) :
    Plausible capacity head (tail + n) ↔ head - tail - capacity ≤ n ∧ n ≤ head - tail := by
  rw [plausible_iff]
  omega

/-- Two items fill the ring, the consumer gives the first slot back, and a third item is claimed before `tail` is
stored. -/
def fullRing : List (MpscEvent Nat) :=
  [.enqueue 0 7, .producer 0 false, .producer 0 false, .producer 0 false, .producer 0 false,
    .enqueue 0 8, .producer 0 false, .producer 0 false, .producer 0 false, .producer 0 false,
    .dequeue, .consumer, .consumer, .consumer, .enqueue 0 9, .producer 0 false, .producer 0 false]

/-- **What an observer sees.** For any steps before and between its two loads, until a counter wraps: the occupancy of
a ring with one producer, and of a pool, is plausible exactly if no more is taken out between the loads than was there
at the first.  With many producers, a slot given back and not counted has to be counted between the loads. -/
theorem occupancy_plausible_iff (requested : Nat) {capacity : Nat} (hcapacity : capacity = ringCapacity requested) :
    (∀ es₁ es₂ : List (SpscEvent α), (put (run (SpscRing.step capacity) {} (es₁ ++ es₂)).2).length < 2 ^ 64 →
      let s := (run (SpscRing.step capacity) {} es₁).1
      let (s', between) := run (SpscRing.step capacity) s es₂
      (Plausible capacity s.head s'.tail ↔ (obtained between).length ≤ s.head - s.tail)) ∧
    (∀ es₁ es₂ : List (MpscEvent α),
      (claims (run (MpscRing.step capacity) {} (es₁ ++ es₂)).2).length + capacity ≤ 2 ^ 63 →
      let s := (run (MpscRing.step capacity) {} es₁).1
      let (s', between) := run (MpscRing.step capacity) s es₂
      s.head - s.tail ≤ capacity + 1 ∧
        (Plausible capacity s.head s'.tail ↔ s.head - s.tail - capacity ≤ (dequeuedItems between).length ∧
          (dequeuedItems between).length ≤ s.head - s.tail)) ∧
    (requested ≤ 2 ^ 31 → ∀ es₁ es₂, Along FreeList.Fair FreeList.step (.new capacity) (es₁ ++ es₂) →
      let s := (run FreeList.step (.new capacity) es₁).1
      let (s', between) := run FreeList.step s es₂
      (Plausible capacity s.freeHead s'.freeTail ↔ allocations between ≤ s.freeHead - s.freeTail)) := by
  have hcap : Cyclic capacity := hcapacity ▸ cyclic_ringCapacity requested
  refine ⟨fun es₁ es₂ hops => ?_, fun es₁ es₂ hops => ?_, fun hsmall es₁ es₂ hfair => ?_⟩
  · have htail' := (spsc_counters hcap (es₁ ++ es₂) hops).2.2
    rw [run_append] at hops htail'
    obtain ⟨hle, hroom, htail⟩ := spsc_counters hcap es₁ ((length_put_le _ _).trans_lt hops)
    dsimp only [obtained] at htail htail' ⊢
    rw [List.flatMap_append, List.length_append, ← htail] at htail'
    rw [htail', plausible_between hle]
    omega
  · have htail' := (mpsc_counters hcap (es₁ ++ es₂) hops).2.2
    rw [run_append] at hops htail'
    obtain ⟨hle, hroom, htail⟩ := mpsc_counters hcap es₁
      ((Nat.add_le_add_right (length_claims_le _ _) _).trans hops)
    dsimp only [dequeuedItems] at htail htail' ⊢
    rw [List.filterMap_append, List.length_append, ← htail] at htail'
    rw [htail', plausible_between hle]
    exact ⟨by omega, Iff.rfl⟩
  · obtain ⟨hfair₁, hfair₂⟩ := (along_append _ _ _).1 hfair
    obtain ⟨log, h⟩ : ∃ log, PoolInv capacity (run FreeList.step (.new capacity) es₁).1 log :=
      run_invariant (I := fun s _ => ∃ log, PoolInv capacity s log)
        (fun _ _ _ he h => h.elim fun _ h => h.step he) es₁ _ [] hfair₁ ⟨_, hcapacity ▸ poolInv_new hsmall⟩
    obtain ⟨hle, hroom⟩ := h.freeHead_le
    dsimp only
    rw [h.freeTail_run hfair₂, plausible_between hle]
    omega

/-- Between the loads the consumer of each ring takes an item out, and the allocator a frame. -/
theorem occupancy_plausible_iff_two :
    Plausible 2 (run (SpscRing.step 2) ({} : SpscRing Nat) [.enqueue 7, .producer, .producer, .producer]).1.head
      (run (SpscRing.step 2) (run (SpscRing.step 2) ({} : SpscRing Nat) [.enqueue 7, .producer, .producer, .producer]).1
        [.take .dequeue, .consumer, .consumer, .consumer]).1.tail ∧
    Plausible 2 (run (MpscRing.step 2) ({} : MpscRing Nat) fullRing).1.head
      (run (MpscRing.step 2) (run (MpscRing.step 2) ({} : MpscRing Nat) fullRing).1 [.consumer]).1.tail ∧
    Plausible 2 (run FreeList.step (.new 2) []).1.freeHead
      (run FreeList.step (run FreeList.step (.new 2) []).1
        [.alloc, .allocStep, .allocStep, .allocStep]).1.freeTail := by
  refine ⟨?_, ?_, ?_⟩
  · exact ((occupancy_plausible_iff 2 (by decide)).1 [.enqueue 7, .producer, .producer, .producer]
      [.take .dequeue, .consumer, .consumer, .consumer] (by decide)).2 (by decide)
  · exact ((occupancy_plausible_iff 2 (by decide)).2.1 fullRing [.consumer] (by decide)).2.2 (by decide)
  · exact ((occupancy_plausible_iff (α := Nat) 2 (by decide)).2.2 (by decide) []
      [.alloc, .allocStep, .allocStep, .allocStep] ⟨trivial, trivial, trivial, trivial, trivial⟩).2 (by decide)

/-- An item that comes and goes between the loads, and a slot given back in a full ring before its counter. -/
theorem occupancy_implausible :
    ¬Plausible 2 (run (SpscRing.step 2) ({} : SpscRing Nat) []).1.head
      (run (SpscRing.step 2) ({} : SpscRing Nat) [.enqueue 7, .producer, .producer, .producer, .take .dequeue, .consumer,
        .consumer, .consumer]).1.tail ∧
    ¬Plausible 2 (run (MpscRing.step 2) ({} : MpscRing Nat) fullRing).1.head
      (run (MpscRing.step 2) ({} : MpscRing Nat) fullRing).1.tail := by
  decide

end DpdkStdlib.Rings
