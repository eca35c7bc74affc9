import DpdkStdlib.Lib.Cycle
import DpdkStdlib.Lib.Run
import DpdkStdlib.Tcp.ByteRing

/-!
# The ring of one producer and one consumer (`ring.rs`)

Every access to the ring's memory is a step, and the steps of the two threads interleave.  A slot keeps its content when
it is read, as `assume_init_read` leaves it.
-/

namespace DpdkStdlib.Rings
open DpdkStdlib.Lib DpdkStdlib.Tcp

variable {α : Type*}

/-! ## Slots -/

/-- `capacity.max(2).next_power_of_two()`; zero in a release build if that is too large. -/
def ringCapacity (capacity : Nat) : Nat := usizeNextPowerOfTwo (max capacity 2)

def slotOf (capacity i : Nat) : Nat := i &&& wrappingSub capacity 1

/-- A ring without slots, or one whose counters take the slots in turn. -/
def Cyclic (capacity : Nat) : Prop := capacity = 0 ∨ 2 ≤ capacity ∧ ∀ i, slotOf capacity i = i % capacity

theorem slotOf_two_pow {k : Nat} (hk : k < 64) (i : Nat) : slotOf (2 ^ k) i = i % 2 ^ k := by
  have hpos := Nat.two_pow_pos k
  have hlt : 2 ^ k < 2 ^ 64 := Nat.pow_lt_pow_right (by decide) hk
  have hmask : wrappingSub (2 ^ k) 1 = 2 ^ k - 1 := by
    rw [wrappingSub]
    omega
  rw [slotOf, hmask, Nat.and_two_pow_sub_one_eq_mod]

theorem cyclic_ringCapacity (capacity : Nat) : Cyclic (ringCapacity capacity) := by
  obtain ⟨k, hk⟩ := nextPowerOfTwo_eq_pow (max capacity 2)
  have htwo : 2 ≤ nextPowerOfTwo (max capacity 2) := by
    have hle := Nat.le_max_right capacity 2
    rw [nextPowerOfTwo]
    split_ifs
    · exact hle
    · rw [Nat.pow_succ]
      exact Nat.le_mul_of_pos_left 2 (Nat.two_pow_pos _)
  rw [ringCapacity, usizeNextPowerOfTwo, hk]
  rcases Nat.lt_or_ge k 64 with hlt | hge
  · rw [Nat.mod_eq_of_lt (Nat.pow_lt_pow_right (by decide) hlt)]
    exact .inr ⟨hk ▸ htwo, slotOf_two_pow hlt⟩
  · exact .inl (Nat.mod_eq_zero_of_dvd (Nat.pow_dvd_pow 2 hge))

theorem Cyclic.slotOf_ne {capacity i j : Nat} (h : Cyclic capacity) (hij : i ≠ j) (hi : i < j + capacity)
    (hj : j < i + capacity) : slotOf capacity i ≠ slotOf capacity j := by
  rcases h with rfl | ⟨-, hmod⟩
  · omega
  · rw [hmod, hmod]
    exact mod_ne_of_ne hij hi hj

theorem Cyclic.exists_turn {capacity i : Nat} (h : Cyclic capacity) (hi : i < capacity) (t : Nat) :
    ∃ q, t ≤ q ∧ q < t + capacity ∧ slotOf capacity q = i := by
  rcases h with rfl | ⟨-, hmod⟩
  · omega
  · have hpos : 0 < capacity := by omega
    have hmul : t ≤ capacity * t := Nat.le_mul_of_pos_left _ hpos
    refine ⟨t + (i + capacity * t - t) % capacity, Nat.le_add_right _ _, Nat.add_lt_add_left (Nat.mod_lt _ hpos) _, ?_⟩
    rw [hmod, Nat.add_mod_mod, Nat.add_sub_cancel' (by omega), Nat.add_mul_mod_self_left, Nat.mod_eq_of_lt hi]

theorem wrappingAdd_of_lt {a b : Nat} (h : a + b < 2 ^ 64) : wrappingAdd a b = a + b := Nat.mod_eq_of_lt h

theorem wrappingSub_of_le {a b : Nat} (hle : b ≤ a) (hlt : a < 2 ^ 64) : wrappingSub a b = a - b := by
  rw [wrappingSub]
  omega

/-! ## The ring -/

inductive Take
  | dequeue
  | dequeueBatch (max : Nat)
deriving DecidableEq

def Take.max : Take → Nat
  | dequeue => 1
  | dequeueBatch max => max

/-- Where the producer is in `enqueue`, with the value of `head` that it loaded. -/
inductive Producer (α : Type*)
  | idle
  | loaded (item : α) (head : Nat)
  | admitted (item : α) (head : Nat)
  | written (item : α) (head : Nat)

/-- Where the consumer is: the `tail` it loaded, how many items it will read, and those read. -/
inductive Consumer (α : Type*)
  | idle
  | loaded (call : Take) (tail : Nat)
  | reading (call : Take) (tail count : Nat) (items : List α)

structure SpscRing (α : Type*) where
  head : Nat := 0
  tail : Nat := 0
  slots : Nat → Option α := fun _ => none
  producer : Producer α := .idle
  consumer : Consumer α := .idle

/-- A call, up to the first load, or the next step of a thread. -/
inductive SpscEvent (α : Type*)
  | enqueue (item : α)
  | take (call : Take)
  | producer
  | consumer

inductive SpscOutcome (α : Type*)
  | enqueued (item : α)
  | full (item : α)
  | loaded
  | moved (item : α)
  /-- A slot was read that was never written. -/
  | uninit
  | returned (call : Take) (items : List α)

namespace SpscRing

def producerStep (capacity : Nat) (s : SpscRing α) : SpscRing α × List (SpscOutcome α) :=
  match s.producer with
  | .idle => (s, [])
  | .loaded item head =>
    if wrappingSub head s.tail ≥ capacity then ({ s with producer := .idle }, [.full item])
    else ({ s with producer := .admitted item head }, [])
  | .admitted item head =>
    ({ s with slots := Function.update s.slots (slotOf capacity head) (some item), producer := .written item head }, [])
  | .written item head => ({ s with head := wrappingAdd head 1, producer := .idle }, [.enqueued item])

def consumerStep (capacity : Nat) (s : SpscRing α) : SpscRing α × List (SpscOutcome α) :=
  match s.consumer with
  | .idle => (s, [])
  | .loaded .dequeue tail =>
    if tail ≥ s.head then ({ s with consumer := .idle }, [.loaded, .returned .dequeue []])
    else ({ s with consumer := .reading .dequeue tail 1 [] }, [.loaded])
  | .loaded (.dequeueBatch max) tail =>
    ({ s with consumer := .reading (.dequeueBatch max) tail (min (wrappingSub s.head tail) max) [] }, [.loaded])
  | .reading call tail count items =>
    if items.length < count then
      match s.slots (slotOf capacity (tail + items.length)) with
      | some item => ({ s with consumer := .reading call tail count (items ++ [item]) }, [.moved item])
      | none => ({ s with consumer := .idle }, [.uninit])
    else ({ s with tail := wrappingAdd tail count, consumer := .idle }, [.returned call items])

def step (capacity : Nat) (s : SpscRing α) : SpscEvent α → SpscRing α × List (SpscOutcome α)
  | .enqueue item =>
    match s.producer with
    | .idle => ({ s with producer := .loaded item s.head }, [])
    | _ => (s, [])
  | .take call =>
    match s.consumer with
    | .idle => ({ s with consumer := .loaded call s.tail }, [])
    | _ => (s, [])
  | .producer => s.producerStep capacity
  | .consumer => s.consumerStep capacity

/-- `drop`: the slots between the counters. -/
def drop (capacity : Nat) (s : SpscRing α) : List (Option α) :=
  (List.range' s.tail (s.head - s.tail)).map fun i => s.slots (slotOf capacity i)

end SpscRing

/-! ## Histories of a bounded queue -/

def put (tr : List (SpscOutcome α)) : List α := tr.filterMap fun
  | .enqueued item => some item
  | _ => none

def moved (tr : List (SpscOutcome α)) : List α := tr.filterMap fun
  | .moved item => some item
  | _ => none

def obtained (tr : List (SpscOutcome α)) : List α := tr.flatMap fun
  | .returned _ items => items
  | _ => []

/-- The histories of a queue of `capacity` items, with its content and what the consumer saw. -/
inductive Accepts (capacity : Nat) : List (SpscOutcome α) → List α → List α → Prop
  | nil : Accepts capacity [] [] []
  | enqueued {tr queue seen} (item : α) : Accepts capacity tr queue seen → queue.length < capacity →
      Accepts capacity (tr ++ [.enqueued item]) (queue ++ [item]) seen
  | full {tr queue seen} (item : α) : Accepts capacity tr queue seen → queue.length = capacity →
      Accepts capacity (tr ++ [.full item]) queue seen
  | loaded {tr queue seen} : Accepts capacity tr queue seen → Accepts capacity (tr ++ [.loaded]) queue queue
  | moved {tr queue seen} (item : α) : Accepts capacity tr queue seen →
      Accepts capacity (tr ++ [.moved item]) queue seen
  | returned {tr queue seen items} (call : Take) : Accepts capacity tr (items ++ queue) seen →
      items = seen.take call.max → Accepts capacity (tr ++ [.returned call items]) queue seen

theorem Accepts.put_eq {capacity : Nat} {tr : List (SpscOutcome α)} {queue seen : List α}
    (h : Accepts capacity tr queue seen) : put tr = obtained tr ++ queue := by
  induction h with
  | nil => rfl
  | enqueued item _ _ ih | full item _ _ ih | loaded _ ih | moved item _ ih | returned call _ _ ih =>
    simp_all [put, obtained]

/-! ## The ring is one -/

def Consumer.read : Consumer α → Nat
  | .idle | .loaded _ _ => 0
  | .reading _ _ _ items => items.length

/-- What the ring and its threads know of the queue. -/
structure Refines (capacity : Nat) (s : SpscRing α) (queue seen : List α) : Prop where
  head : s.head = s.tail + queue.length
  fits : queue.length ≤ capacity
  slots : ∀ i < queue.length, s.slots (slotOf capacity (s.tail + i)) = queue[i]?
  producer : match s.producer with
    | .idle => True
    | .loaded _ head => head = s.head
    | .admitted _ head => head = s.head ∧ queue.length < capacity
    | .written item head => head = s.head ∧ queue.length < capacity ∧ s.slots (slotOf capacity head) = some item
  consumer : match s.consumer with
    | .idle => True
    | .loaded _ tail => tail = s.tail
    | .reading call tail count items => tail = s.tail ∧ seen <+: queue ∧ count = min seen.length call.max ∧
      items.length ≤ count ∧ items = queue.take items.length

/-- The history so far, as long as the counters have not wrapped. -/
def SpscInv (capacity : Nat) (s : SpscRing α) (tr : List (SpscOutcome α)) : Prop :=
  (put tr).length < 2 ^ 64 → ∃ queue seen, Accepts capacity tr queue seen ∧ Refines capacity s queue seen ∧
    put tr = moved tr ++ queue.drop s.consumer.read ∧ s.head = (put tr).length

section
variable {capacity : Nat} {s : SpscRing α} {tr : List (SpscOutcome α)}

theorem length_put_le (tr out : List (SpscOutcome α)) : (put tr).length ≤ (put (tr ++ out)).length := by
  rw [put, put, List.filterMap_append, List.length_append]
  exact Nat.le_add_right _ _

theorem Refines.read_le {queue seen : List α} (h : Refines capacity s queue seen) :
    s.consumer.read ≤ queue.length := by
  have hconsumer := h.consumer
  cases hpc : s.consumer with
  | idle | loaded => exact Nat.zero_le _
  | reading call tail count items =>
    rw [hpc] at hconsumer
    obtain ⟨-, hseen, hcount, hle, -⟩ := hconsumer
    have := hseen.length_le
    show items.length ≤ queue.length
    omega

theorem SpscInv.of_silent {s' : SpscRing α} (h : SpscInv capacity s tr) (hhead : s'.head = s.head)
    (hread : s'.consumer.read = s.consumer.read)
    (hrefines : ∀ queue seen, s.head < 2 ^ 64 → Refines capacity s queue seen → Refines capacity s' queue seen) :
    SpscInv capacity s' (tr ++ []) := by
  rw [List.append_nil]
  intro hlt
  obtain ⟨queue, seen, haccepts, hr, hput, hlen⟩ := h hlt
  exact ⟨queue, seen, haccepts, hrefines queue seen (hlen ▸ hlt) hr, hread ▸ hput, hhead.trans hlen⟩

theorem SpscInv.producerStep (hcap : Cyclic capacity) (h : SpscInv capacity s tr) :
    SpscInv capacity (s.producerStep capacity).1 (tr ++ (s.producerStep capacity).2) := by
  unfold SpscRing.producerStep
  split
  · exact h.of_silent rfl rfl fun _ _ _ hr => hr
  · next item head hpc =>
    split_ifs with hfull
    · intro hlt
      obtain ⟨queue, seen, haccepts, hr, hput, hlen⟩ := h (by simpa [put] using hlt)
      have hhead : head = s.head := by simpa only [hpc] using hr.producer
      have hle := hr.fits
      have hlen' : s.head < 2 ^ 64 := by rw [hlen]; simpa [put] using hlt
      rw [hhead, wrappingSub_of_le (by have := hr.head; omega) hlen', hr.head, Nat.add_sub_cancel_left] at hfull
      refine ⟨queue, seen, haccepts.full item (by omega), ⟨hr.head, hr.fits, hr.slots, trivial, hr.consumer⟩, ?_, ?_⟩
      · simpa [put, moved] using hput
      · simpa [put] using hlen
    · refine h.of_silent rfl rfl fun queue seen hlt hr => ⟨hr.head, hr.fits, hr.slots, ?_, hr.consumer⟩
      have hhead : head = s.head := by simpa only [hpc] using hr.producer
      rw [hhead, wrappingSub_of_le (by have := hr.head; omega) hlt, hr.head, Nat.add_sub_cancel_left] at hfull
      exact ⟨hhead, Nat.lt_of_not_le hfull⟩
  · next item head hpc =>
    refine h.of_silent rfl rfl fun queue seen hlt hr => ?_
    obtain ⟨hhead, hroom⟩ : head = s.head ∧ queue.length < capacity := by simpa only [hpc] using hr.producer
    refine ⟨hr.head, hr.fits, fun i hi => ?_, ⟨hhead, hroom, Function.update_self _ _ _⟩, hr.consumer⟩
    have hne : slotOf capacity (s.tail + i) ≠ slotOf capacity head := by
      have := hr.head
      exact hcap.slotOf_ne (by omega) (by omega) (by omega)
    rw [← hr.slots i hi]
    exact Function.update_of_ne hne _ _
  · next item head hpc =>
    intro hlt
    have hput' : put (tr ++ [.enqueued item]) = put tr ++ [item] := by simp [put]
    rw [hput', List.length_append, List.length_singleton] at hlt
    obtain ⟨queue, seen, haccepts, hr, hput, hlen⟩ := h (by omega)
    obtain ⟨hhead, hroom, hslot⟩ : head = s.head ∧ queue.length < capacity ∧
        s.slots (slotOf capacity head) = some item := by
      simpa only [hpc] using hr.producer
    have hnext : wrappingAdd head 1 = s.head + 1 := by rw [wrappingAdd, hhead, hlen, Nat.mod_eq_of_lt hlt]
    refine ⟨queue ++ [item], seen, haccepts.enqueued item hroom, ⟨?_, ?_, fun i hi => ?_, trivial, ?_⟩, ?_, ?_⟩
    · show wrappingAdd head 1 = s.tail + (queue ++ [item]).length
      rw [hnext, hr.head, List.length_append, List.length_singleton, Nat.add_assoc]
    · rw [List.length_append]
      exact hroom
    · rw [List.length_append, List.length_singleton] at hi
      rcases Nat.lt_succ_iff_lt_or_eq.1 hi with hi | rfl
      · rw [List.getElem?_append_left hi]
        exact hr.slots i hi
      · rw [List.getElem?_concat_length]
        show s.slots (slotOf capacity (s.tail + queue.length)) = some item
        rw [← hr.head, ← hhead, hslot]
    · have hconsumer := hr.consumer
      dsimp only
      split at hconsumer
      · trivial
      · exact hconsumer
      · obtain ⟨htail, hseen, hcount, hle, hitems⟩ := hconsumer
        refine ⟨htail, hseen.trans (List.prefix_append _ _), hcount, hle, ?_⟩
        have := hseen.length_le
        rw [List.take_append_of_le_length (by omega)]
        exact hitems
    · have hmoved : moved (tr ++ [.enqueued item]) = moved tr := by simp [moved]
      rw [hput', hput, hmoved, List.drop_append_of_le_length hr.read_le, List.append_assoc]
    · rw [hput', List.length_append, ← hlen]
      exact hnext

theorem SpscInv.load {call : Take} {tail count : Nat} (h : SpscInv capacity s tr) (hpc : s.consumer = .loaded call tail)
    (hcount : ∀ n, s.head = tail + n → s.head < 2 ^ 64 → count = min n call.max) :
    SpscInv capacity { s with consumer := .reading call tail count [] } (tr ++ [.loaded]) := by
  intro hlt
  have hput' : put (tr ++ [.loaded]) = put tr := by simp [put]
  have hmoved : moved (tr ++ [.loaded]) = moved tr := by simp [moved]
  rw [hput'] at hlt
  obtain ⟨queue, seen, haccepts, hr, hput, hlen⟩ := h hlt
  have htail : tail = s.tail := by simpa only [hpc] using hr.consumer
  refine ⟨queue, queue, haccepts.loaded, ⟨hr.head, hr.fits, hr.slots, hr.producer, htail, List.prefix_rfl,
    hcount _ (htail ▸ hr.head) (hlen ▸ hlt), Nat.zero_le _, rfl⟩, ?_, hlen.trans (by rw [hput'])⟩
  rw [hput', hmoved, hput, hpc]
  rfl

theorem SpscInv.reading {call : Take} {tail count : Nat} {items queue seen : List α} (hr : Refines capacity s queue seen)
    (hpc : s.consumer = .reading call tail count items) : tail = s.tail ∧ seen <+: queue ∧
      count = min seen.length call.max ∧ items.length ≤ count ∧ items = queue.take items.length := by
  simpa only [hpc] using hr.consumer

theorem SpscInv.move {call : Take} {tail count : Nat} {items : List α} (h : SpscInv capacity s tr)
    (hpc : s.consumer = .reading call tail count items) (hmore : items.length < count) :
    SpscInv capacity (s.consumerStep capacity).1 (tr ++ (s.consumerStep capacity).2) := by
  intro hlt
  have hlt' : (put tr).length < 2 ^ 64 := (length_put_le _ _).trans_lt hlt
  obtain ⟨queue, seen, haccepts, hr, hput, hlen⟩ := h hlt'
  obtain ⟨htail, hseen, hcount, hle, hitems⟩ := SpscInv.reading hr hpc
  have hlt'' : items.length < queue.length := by
    have := hseen.length_le
    omega
  have hslot : s.slots (slotOf capacity (tail + items.length)) = some queue[items.length] := by
    rw [htail, hr.slots _ hlt'', List.getElem?_eq_getElem hlt'']
  have hput' : put (tr ++ [.moved queue[items.length]]) = put tr := by simp [put]
  have hmoved : moved (tr ++ [.moved queue[items.length]]) = moved tr ++ [queue[items.length]] := by simp [moved]
  simp only [SpscRing.consumerStep, hpc, if_pos hmore, hslot]
  refine ⟨queue, seen, haccepts.moved _, ⟨hr.head, hr.fits, hr.slots, hr.producer, htail, hseen, hcount, ?_, ?_⟩, ?_,
    hlen.trans (by rw [hput'])⟩
  · rw [List.length_append]
    exact hmore
  · rw [List.length_append, List.length_singleton, List.take_succ_eq_append_getElem hlt'', ← hitems]
  · rw [hput', hmoved, hput, hpc]
    show moved tr ++ queue.drop items.length = moved tr ++ [_] ++ queue.drop (items ++ [_]).length
    rw [List.length_append, List.length_singleton, List.drop_eq_getElem_cons hlt'', List.append_assoc]
    rfl

theorem SpscInv.release {call : Take} {tail count : Nat} {items : List α} (h : SpscInv capacity s tr)
    (hpc : s.consumer = .reading call tail count items) (hdone : ¬items.length < count) :
    SpscInv capacity { s with tail := wrappingAdd tail count, consumer := .idle } (tr ++ [.returned call items]) := by
  intro hlt
  have hput' : put (tr ++ [.returned call items]) = put tr := by simp [put]
  have hmoved : moved (tr ++ [.returned call items]) = moved tr := by simp [moved]
  rw [hput'] at hlt
  obtain ⟨queue, seen, haccepts, hr, hput, hlen⟩ := h hlt
  obtain ⟨htail, hseen, hcount, hle, hitems⟩ := SpscInv.reading hr hpc
  have hlen' : items.length = count := by omega
  have hseenle := hseen.length_le
  have hhead := hr.head
  have hnext : wrappingAdd tail count = s.tail + count := by
    rw [wrappingAdd, htail, Nat.mod_eq_of_lt (by omega)]
  have hsplit : queue = items ++ queue.drop count := by
    rw [hlen'] at hitems
    rw [hitems, List.take_append_drop]
  have htake : items = seen.take call.max := by
    rw [hitems, hlen', hcount, List.prefix_iff_eq_take.1 hseen, List.take_take, List.length_take,
      Nat.min_eq_left hseenle, Nat.min_comm]
  refine ⟨queue.drop count, seen, (hsplit ▸ haccepts).returned call htake, ⟨?_, ?_, fun i hi => ?_, ?_, trivial⟩,
    ?_, hlen.trans (by rw [hput'])⟩
  · show s.head = wrappingAdd tail count + (queue.drop count).length
    rw [hnext, List.length_drop]
    omega
  · rw [List.length_drop]
    have := hr.fits
    omega
  · rw [List.length_drop] at hi
    show s.slots (slotOf capacity (wrappingAdd tail count + i)) = _
    rw [hnext, List.getElem?_drop, Nat.add_assoc, hr.slots _ (by omega)]
  · have hproducer := hr.producer
    have hdrop : (queue.drop count).length ≤ queue.length := by rw [List.length_drop]; exact Nat.sub_le _ _
    dsimp only
    split at hproducer
    · trivial
    · exact hproducer
    · exact ⟨hproducer.1, hdrop.trans_lt hproducer.2⟩
    · exact ⟨hproducer.1, hdrop.trans_lt hproducer.2.1, hproducer.2.2⟩
  · rw [hput', hmoved, hput, hpc]
    show moved tr ++ queue.drop items.length = moved tr ++ (queue.drop count).drop 0
    rw [hlen', List.drop_zero]

theorem SpscInv.consumerStep (h : SpscInv capacity s tr) :
    SpscInv capacity (s.consumerStep capacity).1 (tr ++ (s.consumerStep capacity).2) := by
  unfold SpscRing.consumerStep
  split
  · exact h.of_silent rfl rfl fun _ _ _ hr => hr
  · next tail hpc =>
    split_ifs with hempty
    · intro hlt
      obtain ⟨queue, seen, haccepts, hr, hput, hlen⟩ := h (by simpa [put] using hlt)
      have htail : tail = s.tail := by simpa only [hpc] using hr.consumer
      have hnil : queue = [] := List.length_eq_zero_iff.1 (by have := hr.head; omega)
      subst hnil
      refine ⟨[], [], ?_, ⟨hr.head, hr.fits, hr.slots, hr.producer, trivial⟩, ?_, ?_⟩
      · have hreturned := haccepts.loaded.returned .dequeue (show [] = _ from rfl)
        rwa [List.append_assoc] at hreturned
      · simpa [put, moved, hpc, Consumer.read] using hput
      · simpa [put] using hlen
    · exact h.load hpc fun n hhead _ => by rw [Take.max]; omega
  · next max tail hpc =>
    exact h.load hpc fun n hhead hlt => by rw [wrappingSub_of_le (by omega) hlt, hhead, Nat.add_sub_cancel_left]; rfl
  · next call tail count items hpc =>
    split_ifs with hmore
    · have hmove := h.move hpc hmore
      simpa only [SpscRing.consumerStep, hpc, if_pos hmore] using hmove
    · exact h.release hpc hmore

/-- Every step keeps the invariant. -/
theorem SpscInv.step (hcap : Cyclic capacity) (h : SpscInv capacity s tr) (e : SpscEvent α) :
    SpscInv capacity (s.step capacity e).1 (tr ++ (s.step capacity e).2) := by
  cases e with
  | enqueue item =>
    rw [SpscRing.step]
    split
    · exact h.of_silent rfl rfl fun _ _ _ hr => ⟨hr.head, hr.fits, hr.slots, rfl, hr.consumer⟩
    · exact h.of_silent rfl rfl fun _ _ _ hr => hr
  | take call =>
    rw [SpscRing.step]
    split
    · next hpc =>
      refine h.of_silent rfl ?_ fun _ _ _ hr => ⟨hr.head, hr.fits, hr.slots, hr.producer, rfl⟩
      rw [hpc]
      rfl
    · exact h.of_silent rfl rfl fun _ _ _ hr => hr
  | producer => exact h.producerStep hcap
  | consumer => exact h.consumerStep

/-- The invariant holds along every run. -/
theorem spscInv_run (hcap : Cyclic capacity) (es : List (SpscEvent α)) :
    SpscInv capacity (run (SpscRing.step capacity) {} es).1 (run (SpscRing.step capacity) {} es).2 := by
  have hinit : SpscInv capacity ({} : SpscRing α) [] := fun _ =>
    ⟨[], [], .nil, ⟨rfl, Nat.zero_le _, fun _ hi => absurd hi (Nat.not_lt_zero _), trivial, trivial⟩, rfl, rfl⟩
  exact run_invariant (I := SpscInv capacity) (fun _ _ e _ h => h.step hcap e) es {} []
    (along_true _ _) hinit

/-! ## Calls return -/

/-- The item of the call that the producer is in, and the steps of its own that it needs at most to return. -/
def Producer.call : Producer α → Option (α × Nat)
  | .idle => none
  | .loaded item _ => some (item, 3)
  | .admitted item _ => some (item, 2)
  | .written item _ => some (item, 1)

/-- The call that the consumer is in, and the steps of its own that it needs at most to return. -/
def Consumer.call (capacity : Nat) : Consumer α → Option (Take × Nat)
  | .idle => none
  | .loaded call _ => some (call, min call.max capacity + 2)
  | .reading call _ count items => some (call, count - items.length + 1)

def SpscEvent.isProducer : SpscEvent α → Bool
  | .producer => true
  | _ => false

def SpscEvent.isConsumer : SpscEvent α → Bool
  | .consumer => true
  | _ => false

theorem producer_consumerStep (capacity : Nat) (s : SpscRing α) : (s.consumerStep capacity).1.producer = s.producer := by
  unfold SpscRing.consumerStep
  split
  · rfl
  · split_ifs <;> rfl
  · rfl
  · split_ifs
    · split <;> rfl
    · rfl

theorem consumer_producerStep (capacity : Nat) (s : SpscRing α) : (s.producerStep capacity).1.consumer = s.consumer := by
  unfold SpscRing.producerStep
  split
  · rfl
  · split_ifs <;> rfl
  · rfl
  · rfl

/-- An event ends the producer's call, or leaves it nearer to its end if it is a step of the producer. -/
theorem producer_nearer {item : α} {n : Nat} (h : s.producer.call = some (item, n)) (e : SpscEvent α) :
    (∃ x ∈ (s.step capacity e).2, x = .enqueued item ∨ x = .full item) ∨
      ∃ m, (s.step capacity e).1.producer.call = some (item, m) ∧ m + e.isProducer.toNat ≤ n := by
  cases e with
  | enqueue item' =>
    refine .inr ⟨n, ?_, le_rfl⟩
    rw [SpscRing.step]
    split
    · next hidle =>
      rw [hidle] at h
      cases h
    · exact h
  | take call =>
    refine .inr ⟨n, ?_, le_rfl⟩
    rw [SpscRing.step]
    split <;> exact h
  | consumer =>
    refine .inr ⟨n, ?_, le_rfl⟩
    rw [SpscRing.step, producer_consumerStep]
    exact h
  | producer =>
    rw [SpscRing.step]
    unfold SpscRing.producerStep
    split <;> rename_i hpc <;> rw [hpc] at h <;> cases h
    · split_ifs
      · exact .inl ⟨_, List.mem_cons_self, .inr rfl⟩
      · exact .inr ⟨2, rfl, le_rfl⟩
    · exact .inr ⟨1, rfl, le_rfl⟩
    · exact .inl ⟨_, List.mem_cons_self, .inl rfl⟩

/-- An event ends the consumer's call, or leaves it nearer to its end if it is a step of the consumer. -/
theorem consumer_nearer {call : Take} {n : Nat} {queue seen : List α} (hr : Refines capacity s queue seen)
    (hlt : s.head < 2 ^ 64) (h : s.consumer.call capacity = some (call, n)) (e : SpscEvent α) :
    (∃ x ∈ (s.step capacity e).2, ∃ items, x = .returned call items) ∨
      ∃ m, (s.step capacity e).1.consumer.call capacity = some (call, m) ∧ m + e.isConsumer.toNat ≤ n := by
  cases e with
  | enqueue item =>
    refine .inr ⟨n, ?_, le_rfl⟩
    rw [SpscRing.step]
    split <;> exact h
  | take call' =>
    refine .inr ⟨n, ?_, le_rfl⟩
    rw [SpscRing.step]
    split
    · next hidle =>
      rw [hidle] at h
      cases h
    · exact h
  | producer =>
    refine .inr ⟨n, ?_, le_rfl⟩
    rw [SpscRing.step, consumer_producerStep]
    exact h
  | consumer =>
    have hhead := hr.head
    have hfits := hr.fits
    have hconsumer := hr.consumer
    rw [SpscRing.step]
    unfold SpscRing.consumerStep
    split <;> rename_i hpc <;> rw [hpc] at h hconsumer <;> cases h
    · split_ifs with hempty
      · exact .inl ⟨_, List.mem_cons_of_mem _ List.mem_cons_self, [], rfl⟩
      · refine .inr ⟨_, rfl, ?_⟩
        dsimp only [Take.max, SpscEvent.isConsumer, List.length_nil, Bool.toNat_true] at hconsumer ⊢
        omega
    · refine .inr ⟨_, rfl, ?_⟩
      dsimp only [Take.max, SpscEvent.isConsumer, List.length_nil, Bool.toNat_true] at hconsumer ⊢
      rw [wrappingSub_of_le (by omega) hlt]
      omega
    · obtain ⟨rfl, hseen, hcount, hle, -⟩ := hconsumer
      split_ifs with hmore
      · have hseenle := hseen.length_le
        rw [hr.slots _ (by omega), List.getElem?_eq_getElem (by omega)]
        refine .inr ⟨_, rfl, ?_⟩
        dsimp only [SpscEvent.isConsumer, Bool.toNat_true]
        rw [List.length_append, List.length_singleton]
        omega
      · exact .inl ⟨_, List.mem_cons_self, _, rfl⟩

/-- A call of `enqueue` returns within three steps of its own. -/
theorem enqueue_returns (hidle : s.producer = .idle) (item : α) {fs : List (SpscEvent α)}
    (hfs : 3 ≤ fs.countP (·.isProducer)) :
    ∃ x ∈ (run (SpscRing.step capacity) s (.enqueue item :: fs)).2, x = .enqueued item ∨ x = .full item := by
  have hcall : (s.step capacity (.enqueue item)).1.producer.call = some (item, 3) := by
    rw [SpscRing.step, hidle]
    rfl
  obtain ⟨x, hx, hended⟩ := run_progress (fun (s : SpscRing α) n => s.producer.call = some (item, n)) (·.isProducer) _
    (fun s => by cases s.producer <;> simp [Producer.call]) (fun s e n _ h => producer_nearer h e) fs _ 3 (along_true _ _)
    hcall hfs
  exact ⟨x, List.mem_append_right _ hx, hended⟩

/-- Without a wrap, `dequeue` and `dequeue_batch` return within two steps more than the items they can read. -/
theorem take_returns (hcap : Cyclic capacity) {es : List (SpscEvent α)} {call : Take} {fs : List (SpscEvent α)}
    (hidle : (run (SpscRing.step capacity) {} es).1.consumer = .idle)
    (hops : (put (run (SpscRing.step capacity) {} (es ++ .take call :: fs)).2).length < 2 ^ 64)
    (hfs : min call.max capacity + 2 ≤ fs.countP (·.isConsumer)) :
    ∃ x ∈ (run (SpscRing.step capacity) (run (SpscRing.step capacity) {} es).1 (.take call :: fs)).2,
      ∃ items, x = .returned call items := by
  have hgood : Along (fun s _ => (∃ queue seen, Refines capacity s queue seen) ∧ s.head < 2 ^ 64)
      (SpscRing.step capacity) {} (es ++ .take call :: fs) := by
    refine (along_here _ _).mono fun s e => ?_
    rintro ⟨es₁, es₂, hes, rfl⟩
    rw [hes, run_append] at hops
    have hlt := (length_put_le _ _).trans_lt hops
    obtain ⟨queue, seen, -, hr, -, hhead⟩ := spscInv_run hcap es₁ hlt
    exact ⟨⟨queue, seen, hr⟩, hhead ▸ hlt⟩
  have hrest := ((along_append _ _ _).1 hgood).2
  generalize (run (SpscRing.step capacity) {} es).1 = s at hidle hrest ⊢
  have hcall : (s.step capacity (.take call)).1.consumer.call capacity = some (call, min call.max capacity + 2) := by
    rw [SpscRing.step, hidle]
    rfl
  obtain ⟨x, hx, hended⟩ := run_progress (fun (s : SpscRing α) n => s.consumer.call capacity = some (call, n)) (·.isConsumer) _
    (fun s => by cases s.consumer <;> simp [Consumer.call])
    (fun s e n hgood h => by
      obtain ⟨⟨_, _, hr⟩, hlt⟩ := hgood
      exact consumer_nearer hr hlt h e) fs _ _ hrest.2 hcall hfs
  exact ⟨x, List.mem_append_right _ hx, hended⟩

end

/-- **The ring is a bounded queue.** As long as fewer than `2^64` items are enqueued, the calls and loads are a history
of a queue of the ring's capacity: items come out in order, `enqueue` fails only on a full queue, and a call returns
the oldest items that it saw.  Every item is moved out at most once, and `drop` finds the rest.  A call returns after
three steps of its own, or two more than it can read items. -/
theorem spsc_ring_refines (requested : Nat) (es : List (SpscEvent α))
    (hops : (put (run (SpscRing.step (ringCapacity requested)) {} es).2).length < 2 ^ 64) :
    let capacity := ringCapacity requested
    let (s, tr) := run (SpscRing.step capacity) {} es
    (∃ queue seen, Accepts capacity tr queue seen ∧ put tr = obtained tr ++ queue ∧ moved tr <+: put tr ∧
      (s.consumer = .idle → moved tr = obtained tr ∧ (put tr).map some = (moved tr).map some ++ s.drop capacity)) ∧
    (s.producer = .idle → ∀ item fs, 3 ≤ fs.countP (·.isProducer) →
      ∃ x ∈ (run (SpscRing.step capacity) s (.enqueue item :: fs)).2, x = .enqueued item ∨ x = .full item) ∧
    (s.consumer = .idle → ∀ call fs, (put (run (SpscRing.step capacity) {} (es ++ .take call :: fs)).2).length < 2 ^ 64 →
      min call.max capacity + 2 ≤ fs.countP (·.isConsumer) →
        ∃ x ∈ (run (SpscRing.step capacity) s (.take call :: fs)).2, ∃ items, x = .returned call items) := by
  have hcap := cyclic_ringCapacity requested
  refine ⟨?_, fun hidle item fs => enqueue_returns hidle item, fun hidle call fs => take_returns hcap hidle⟩
  obtain ⟨queue, seen, haccepts, hr, hput, -⟩ := spscInv_run hcap es hops
  refine ⟨queue, seen, haccepts, haccepts.put_eq, ⟨_, hput.symm⟩, fun hidle => ?_⟩
  rw [hidle] at hput
  have hdrop : (run (SpscRing.step (ringCapacity requested)) {} es).1.drop (ringCapacity requested) = queue.map some := by
    rw [SpscRing.drop, hr.head, Nat.add_sub_cancel_left]
    refine List.ext_getElem (by simp) fun i hi hi' => ?_
    rw [List.length_map] at hi'
    rw [List.getElem_map, List.getElem_map, List.getElem_range', Nat.one_mul, hr.slots i hi',
      List.getElem?_eq_getElem hi']
  refine ⟨List.append_cancel_right (hput.symm.trans haccepts.put_eq), ?_⟩
  rw [hdrop, hput]
  exact List.map_append

/-- An item is enqueued while a call is about to take it. -/
def samplePass : List (SpscEvent Nat) :=
  [.enqueue 7, .producer, .producer, .take (.dequeueBatch 4), .producer, .consumer, .consumer, .consumer]

theorem spsc_ring_refines_two :
    let (s, tr) := run (SpscRing.step (ringCapacity 2)) {} samplePass
    (∃ queue seen, Accepts 2 tr queue seen) ∧ put tr = [7] ∧ obtained tr = [7] ∧
      ∃ x ∈ (run (SpscRing.step (ringCapacity 2)) s [.enqueue 8, .producer, .producer, .producer]).2,
        x = .enqueued 8 ∨ x = .full 8 := by
  obtain ⟨⟨queue, seen, haccepts, -⟩, hproducer, -⟩ := spsc_ring_refines 2 samplePass (by decide)
  exact ⟨⟨queue, seen, haccepts⟩, by decide, by decide,
    hproducer rfl 8 [.producer, .producer, .producer] (by decide)⟩

end DpdkStdlib.Rings
