import DpdkStdlib.Udp.SpscRing

/-!
# The ring of many producers and one consumer (`ring.rs`)

A producer claims a position with a compare-and-swap on `head`, writes the slot and publishes it through the slot's
sequence number.  Every access is a step of one thread.
-/

namespace DpdkStdlib.Rings
open DpdkStdlib.Lib DpdkStdlib.Tcp

variable {α : Type*}

/-! ## The ring -/

/-- Where a producer is in `enqueue`, with the `head` that it loaded; `panicked` is a slot out of bounds. -/
inductive MpscProducer (α : Type*)
  | idle
  | reload (item : α)
  | loaded (item : α) (head : Nat)
  | ready (item : α) (head : Nat)
  | claimed (item : α) (head : Nat)
  | written (item : α) (head : Nat)
  | panicked

/-- Where the consumer is in `dequeue`, with the value of `tail` that it loaded. -/
inductive MpscConsumer (α : Type*)
  | idle
  | loaded (tail : Nat)
  | readable (tail : Nat)
  | taken (item : α) (tail : Nat)
  | released (item : α) (tail : Nat)
  | panicked

/-- The slots, the two counters, and where every thread is. -/
structure MpscRing (α : Type*) where
  head : Nat := 0
  tail : Nat := 0
  seq : Nat → Nat := id
  data : Nat → Option α := fun _ => none
  producers : Nat → MpscProducer α := fun _ => .idle
  consumer : MpscConsumer α := .idle

/-- A call, up to the first load, or the next step of a thread; a weak compare-and-swap may fail without a reason. -/
inductive MpscEvent (α : Type*)
  | enqueue (p : Nat) (item : α)
  | producer (p : Nat) (spurious : Bool)
  | dequeue
  | consumer

inductive MpscOutcome (α : Type*)
  /-- The compare-and-swap on `head` succeeded. -/
  | claimed (p : Nat) (item : α)
  | enqueued (p : Nat) (item : α)
  | full (p : Nat) (item : α)
  | moved (item : α)
  | uninit
  | dequeued (item : α)
  | empty

/-- Of a difference of 64 bits: negative as an `i64`. -/
def Negative (diff : Nat) : Prop := 2 ^ 63 ≤ diff
deriving Decidable

namespace MpscRing

def setProducer (s : MpscRing α) (p : Nat) (pc : MpscProducer α) : MpscRing α :=
  { s with producers := Function.update s.producers p pc }

@[simp] theorem producers_setProducer_self (s : MpscRing α) (p : Nat) (pc : MpscProducer α) :
    (s.setProducer p pc).producers p = pc := Function.update_self _ _ _

theorem producers_setProducer_of_ne (s : MpscRing α) {p p' : Nat} (pc : MpscProducer α) (h : p' ≠ p) :
    (s.setProducer p pc).producers p' = s.producers p' := Function.update_of_ne h _ _

/-- What `enqueue` does with the difference `seq as i64 - head as i64`. -/
def compare (s : MpscRing α) (p : Nat) (item : α) (head diff : Nat) : MpscRing α × List (MpscOutcome α) :=
  if diff = 0 then (s.setProducer p (.ready item head), [])
  else if Negative diff then (s.setProducer p .idle, [.full p item])
  else (s.setProducer p (.reload item), [])

def producerStep (capacity : Nat) (s : MpscRing α) (p : Nat) (spurious : Bool) : MpscRing α × List (MpscOutcome α) :=
  match s.producers p with
  | .idle | .panicked => (s, [])
  | .reload item => (s.setProducer p (.loaded item s.head), [])
  | .loaded item head =>
    if slotOf capacity head < capacity then
      s.compare p item head (wrappingSub (s.seq (slotOf capacity head)) head)
    else (s.setProducer p .panicked, [])
  | .ready item head =>
    if s.head = head ∧ spurious = false then
      ({ s with head := wrappingAdd head 1 }.setProducer p (.claimed item head), [.claimed p item])
    else (s.setProducer p (.loaded item s.head), [])
  | .claimed item head =>
    ({ s with data := Function.update s.data (slotOf capacity head) (some item) }.setProducer p (.written item head), [])
  | .written item head =>
    ({ s with seq := Function.update s.seq (slotOf capacity head) (wrappingAdd head 1) }.setProducer p .idle,
      [.enqueued p item])

def consumerStep (capacity : Nat) (s : MpscRing α) : MpscRing α × List (MpscOutcome α) :=
  match s.consumer with
  | .idle | .panicked => (s, [])
  | .loaded tail =>
    if slotOf capacity tail < capacity then
      if s.seq (slotOf capacity tail) ≠ wrappingAdd tail 1 then ({ s with consumer := .idle }, [.empty])
      else ({ s with consumer := .readable tail }, [])
    else ({ s with consumer := .panicked }, [])
  | .readable tail =>
    match s.data (slotOf capacity tail) with
    | some item => ({ s with consumer := .taken item tail }, [.moved item])
    | none => ({ s with consumer := .idle }, [.uninit])
  | .taken item tail =>
    ({ s with
      seq := Function.update s.seq (slotOf capacity tail) (wrappingAdd tail capacity)
      consumer := .released item tail }, [])
  | .released item tail => ({ s with tail := wrappingAdd tail 1, consumer := .idle }, [.dequeued item])

def step (capacity : Nat) (s : MpscRing α) : MpscEvent α → MpscRing α × List (MpscOutcome α)
  | .enqueue p item =>
    match s.producers p with
    | .idle => (s.setProducer p (.loaded item s.head), [])
    | _ => (s, [])
  | .producer p spurious => s.producerStep capacity p spurious
  | .dequeue =>
    match s.consumer with
    | .idle => ({ s with consumer := .loaded s.tail }, [])
    | _ => (s, [])
  | .consumer => s.consumerStep capacity

end MpscRing

/-! ## Histories -/

def claims (tr : List (MpscOutcome α)) : List (Nat × α) := tr.filterMap fun
  | .claimed p item => some (p, item)
  | _ => none

def enqueuedBy (p : Nat) (tr : List (MpscOutcome α)) : List α := tr.filterMap fun
  | .enqueued p' item => if p' = p then some item else none
  | _ => none

def claimedBy (p : Nat) (tr : List (MpscOutcome α)) : List α := tr.filterMap fun
  | .claimed p' item => if p' = p then some item else none
  | _ => none

def movedOut (tr : List (MpscOutcome α)) : List α := tr.filterMap fun
  | .moved item => some item
  | _ => none

def dequeuedItems (tr : List (MpscOutcome α)) : List α := tr.filterMap fun
  | .dequeued item => some item
  | _ => none

def MpscProducer.holding : MpscProducer α → Option (α × Nat)
  | .claimed item head | .written item head => some (item, head)
  | _ => none

def MpscConsumer.holding : MpscConsumer α → List α
  | .taken item _ | .released item _ => [item]
  | _ => []

namespace MpscRing

def gone (s : MpscRing α) : Nat :=
  match s.consumer with
  | .released _ _ => s.tail + 1
  | _ => s.tail

def read (s : MpscRing α) : Nat := s.tail + s.consumer.holding.length

end MpscRing

/-! ## The invariant -/

/-- A position of the ring: unclaimed, about to be published, or readable. -/
inductive SlotState (capacity : Nat) (s : MpscRing α) (log : List (Nat × α)) (q : Nat) : Prop
  | free : s.seq (slotOf capacity q) = q → log.length ≤ q → SlotState capacity s log q
  | claimed (p : Nat) (item : α) : s.seq (slotOf capacity q) = q → log[q]? = some (p, item) →
      (s.producers p).holding = some (item, q) → SlotState capacity s log q
  | published (p : Nat) (item : α) : s.seq (slotOf capacity q) = q + 1 → log[q]? = some (p, item) →
      s.data (slotOf capacity q) = some item → SlotState capacity s log q

def ProducerKnows (capacity : Nat) (s : MpscRing α) (log : List (Nat × α)) (p : Nat) : MpscProducer α → Prop
  | .loaded _ head => head ≤ s.head
  | .ready _ head => head < s.gone + capacity
  | .claimed item head => s.gone ≤ head ∧ s.seq (slotOf capacity head) = head ∧ log[head]? = some (p, item)
  | .written item head => s.gone ≤ head ∧ s.seq (slotOf capacity head) = head ∧ log[head]? = some (p, item) ∧
      s.data (slotOf capacity head) = some item
  | .idle | .reload _ | .panicked => True

def ConsumerKnows (capacity : Nat) (s : MpscRing α) (log : List (Nat × α)) : MpscConsumer α → Prop
  | .loaded tail => tail = s.tail
  | .readable tail => tail = s.tail ∧ s.seq (slotOf capacity tail) = tail + 1 ∧ 0 < capacity
  | .taken item tail => tail = s.tail ∧ s.seq (slotOf capacity tail) = tail + 1 ∧ 0 < capacity ∧
      (log[tail]?).map (·.2) = some item
  | .released _ tail => tail = s.tail
  | .idle | .panicked => True

/-- What holds between two steps, with the log of the claims. -/
structure MpscSound (capacity : Nat) (s : MpscRing α) (log : List (Nat × α)) : Prop where
  head : s.head = log.length
  le : s.gone ≤ s.head
  room : s.head ≤ s.gone + capacity
  slots : ∀ q, s.gone ≤ q → q < s.gone + capacity → SlotState capacity s log q
  producers : ∀ p, ProducerKnows capacity s log p (s.producers p)
  consumer : ConsumerKnows capacity s log s.consumer

structure MpscHistory (s : MpscRing α) (tr : List (MpscOutcome α)) : Prop where
  moved : movedOut tr = ((claims tr).map (·.2)).take s.read
  dequeued : dequeuedItems tr ++ s.consumer.holding = movedOut tr
  fifo : ∀ p, enqueuedBy p tr ++ ((s.producers p).holding.map (·.1)).toList = claimedBy p tr
  init : .uninit ∉ tr

/-- As long as no two counters are half a word apart. -/
def MpscInv (capacity : Nat) (s : MpscRing α) (tr : List (MpscOutcome α)) : Prop :=
  (claims tr).length + capacity ≤ 2 ^ 63 → MpscSound capacity s (claims tr) ∧ MpscHistory s tr

section
variable {capacity : Nat} {s s' : MpscRing α} {tr : List (MpscOutcome α)} {log log' : List (Nat × α)} {p q : Nat}
  {pc : MpscProducer α}

theorem getElem?_of_log (hlogs : log <+: log') {x : Nat × α} (hx : log[q]? = some x) : log'[q]? = some x := by
  obtain ⟨more, rfl⟩ := hlogs
  rw [List.getElem?_append_left (List.getElem?_eq_some_iff.1 hx).1, hx]

theorem holding_setProducer {p' : Nat} {item : α} (hp : ∀ item, (s.producers p).holding ≠ some (item, q))
    (h : (s.producers p').holding = some (item, q)) : ((s.setProducer p pc).producers p').holding = some (item, q) := by
  rwa [MpscRing.producers_setProducer_of_ne]
  rintro rfl
  exact hp item h

theorem SlotState.mono (h : SlotState capacity s log q) (hseq : s'.seq (slotOf capacity q) = s.seq (slotOf capacity q))
    (hdata : s'.data (slotOf capacity q) = s.data (slotOf capacity q)) (hlog : log' = log ∨ q < log.length)
    (hlogs : log <+: log')
    (hprod : ∀ p item, (s.producers p).holding = some (item, q) → (s'.producers p).holding = some (item, q)) :
    SlotState capacity s' log' q := by
  cases h with
  | free h hq =>
    rcases hlog with rfl | hlt
    · exact .free (hseq.trans h) hq
    · exact absurd hlt (Nat.not_lt.2 hq)
  | claimed p item h hx hp => exact .claimed p item (hseq.trans h) (getElem?_of_log hlogs hx) (hprod p item hp)
  | published p item h hx hd => exact .published p item (hseq.trans h) (getElem?_of_log hlogs hx) (hdata.trans hd)

/-- What a producer knows stays true while the counters grow and its slot is left alone. -/
theorem ProducerKnows.mono (h : ProducerKnows capacity s log p pc) (hhead : s.head ≤ s'.head) (hgone : s.gone ≤ s'.gone)
    (hlogs : log <+: log')
    (hslot : ∀ item head, pc.holding = some (item, head) → s'.gone ≤ head ∧
      s'.seq (slotOf capacity head) = s.seq (slotOf capacity head) ∧
      s'.data (slotOf capacity head) = s.data (slotOf capacity head)) : ProducerKnows capacity s' log' p pc := by
  cases pc with
  | idle | reload | panicked => trivial
  | loaded item head => exact Nat.le_trans h hhead
  | ready item head => exact Nat.lt_of_lt_of_le h (Nat.add_le_add_right hgone _)
  | claimed item head =>
    obtain ⟨hle, hseq, -⟩ := hslot item head rfl
    exact ⟨hle, hseq.trans h.2.1, getElem?_of_log hlogs h.2.2⟩
  | written item head =>
    obtain ⟨hle, hseq, hdata⟩ := hslot item head rfl
    exact ⟨hle, hseq.trans h.2.1, getElem?_of_log hlogs h.2.2.1, hdata.trans h.2.2.2⟩

theorem ProducerKnows.holding {item : α} {head : Nat} (h : ProducerKnows capacity s log p pc)
    (hpc : pc.holding = some (item, head)) :
    s.gone ≤ head ∧ s.seq (slotOf capacity head) = head ∧ log[head]? = some (p, item) := by
  cases pc with
  | idle | reload | panicked | loaded | ready => cases hpc
  | claimed => cases hpc; exact h
  | written => cases hpc; exact ⟨h.1, h.2.1, h.2.2.1⟩

theorem knows_setProducer (hknows : ProducerKnows capacity s log p pc)
    (hother : ∀ p', p' ≠ p → ProducerKnows capacity s log p' (s.producers p')) (p' : Nat) :
    ProducerKnows capacity (s.setProducer p pc) log p' ((s.setProducer p pc).producers p') := by
  by_cases hp : p' = p
  · subst hp
    rw [MpscRing.producers_setProducer_self]
    exact hknows
  · rw [MpscRing.producers_setProducer_of_ne _ _ hp]
    exact hother p' hp

theorem ConsumerKnows.mono {pc : MpscConsumer α} (h : ConsumerKnows capacity s log pc) (htail : s'.tail = s.tail)
    (hlogs : log <+: log') (hseq : s.seq (slotOf capacity s.tail) = s.tail + 1 → 0 < capacity →
      s'.seq (slotOf capacity s.tail) = s.tail + 1) : ConsumerKnows capacity s' log' pc := by
  cases pc with
  | idle | panicked => trivial
  | loaded | released => exact h.trans htail.symm
  | readable tail =>
    obtain ⟨rfl, hread, hpos⟩ := h
    exact ⟨htail.symm, hseq hread hpos, hpos⟩
  | taken item tail =>
    obtain ⟨rfl, hread, hpos, hitem⟩ := h
    obtain ⟨x, hx, hx'⟩ := Option.map_eq_some_iff.1 hitem
    exact ⟨htail.symm, hseq hread hpos, hpos, by rw [getElem?_of_log hlogs hx, ← hx']; rfl⟩

/-! ## Steps of the producers -/

namespace MpscSound

theorem setProducer (h : MpscSound capacity s log) (hnone : (s.producers p).holding = none)
    (hknows : ProducerKnows capacity s log p pc) : MpscSound capacity (s.setProducer p pc) log := by
  refine ⟨h.head, h.le, h.room, fun q hle hlt => (h.slots q hle hlt).mono rfl rfl (.inl rfl) List.prefix_rfl
    fun p' item => holding_setProducer (by simp [hnone]), knows_setProducer hknows fun p' _ => h.producers p', h.consumer⟩

variable {item : α} {head tail : Nat}

/-- The slot that a producer looks at is of this turn of the ring, or `head` is one turn ahead. -/
theorem turn (h : MpscSound capacity s log) (hcap : Cyclic capacity) (hle : head ≤ s.head)
    (hslot : slotOf capacity head < capacity) :
    ∃ q, s.gone ≤ q ∧ q < s.gone + capacity ∧ (head ≤ q ∨ head = q + capacity) ∧
      (s.seq (slotOf capacity head) = q ∨ s.seq (slotOf capacity head) = q + 1 ∧ q < log.length) := by
  have hroom := h.room
  have hseq {q : Nat} (hq : s.gone ≤ q) (hlt : q < s.gone + capacity) (hsame : slotOf capacity q = slotOf capacity head) :
      s.seq (slotOf capacity head) = q ∨ s.seq (slotOf capacity head) = q + 1 ∧ q < log.length := by
    rw [← hsame]
    cases h.slots q hq hlt with
    | free hseq | claimed _ _ hseq => exact .inl hseq
    | published p item hseq hlog => exact .inr ⟨hseq, (List.getElem?_eq_some_iff.1 hlog).1⟩
  obtain ⟨q, hq, hlt, hsame⟩ := hcap.exists_turn hslot s.gone
  refine ⟨q, hq, hlt, ?_, hseq hq hlt hsame⟩
  by_contra hne
  exact hcap.slotOf_ne (by omega) (by omega) (by omega) hsame

/-- A producer that finds its slot free is within one turn of the consumer. -/
theorem ready (h : MpscSound capacity s log) (hcap : Cyclic capacity) (hle : head ≤ s.head)
    (hslot : slotOf capacity head < capacity) (hsmall : log.length + capacity ≤ 2 ^ 63)
    (hdiff : wrappingSub (s.seq (slotOf capacity head)) head = 0) : head < s.gone + capacity := by
  obtain ⟨q, hq, hlt, hturn, hseq⟩ := h.turn hcap hle hslot
  have htwo : 2 ≤ capacity := hcap.elim (by omega) And.left
  have hgone := h.le
  have hlen := h.head
  rw [wrappingSub] at hdiff
  omega

/-- A slot that is behind in its sequence is one that the consumer has not given back. -/
theorem full (h : MpscSound capacity s log) (hcap : Cyclic capacity) (hle : head ≤ s.head)
    (hslot : slotOf capacity head < capacity) (hsmall : log.length + capacity ≤ 2 ^ 63)
    (hdiff : Negative (wrappingSub (s.seq (slotOf capacity head)) head)) : s.head = s.gone + capacity := by
  obtain ⟨q, hq, hlt, hturn, hseq⟩ := h.turn hcap hle hslot
  have hgone := h.le
  have hroom := h.room
  have hlen := h.head
  rw [Negative, wrappingSub] at hdiff
  omega

theorem claim (h : MpscSound capacity s log) (hpc : s.producers p = .ready item head) (hhead : s.head = head)
    (hsmall : (log ++ [(p, item)]).length + capacity ≤ 2 ^ 63) :
    MpscSound capacity ({ s with head := wrappingAdd head 1 }.setProducer p (.claimed item head))
      (log ++ [(p, item)]) := by
  have hready : head < s.gone + capacity := by
    have hknows := h.producers p
    rwa [hpc] at hknows
  have hlen := h.head
  have hle := h.le
  rw [List.length_append, List.length_singleton] at hsmall
  have hnext : wrappingAdd head 1 = s.head + 1 := (wrappingAdd_of_lt (by omega)).trans (hhead ▸ rfl)
  have hlast : (log ++ [(p, item)])[head]? = some (p, item) := by
    rw [← hhead, hlen, List.getElem?_concat_length]
  have hnone : (s.producers p).holding = none := by rw [hpc]; rfl
  have hfree : s.seq (slotOf capacity head) = head := by
    cases h.slots head (by omega) hready with
    | free hseq | claimed _ _ hseq => exact hseq
    | published _ _ _ hlog => exact absurd (List.getElem?_eq_some_iff.1 hlog).1 (by omega)
  refine ⟨?_, (hle.trans (Nat.le_succ _)).trans hnext.ge, ?_, fun q hq hlt => ?_, knows_setProducer
    ⟨show s.gone ≤ head by omega, hfree, hlast⟩ fun p' _ => (h.producers p').mono ((Nat.le_succ _).trans hnext.ge) le_rfl
      (List.prefix_append _ _) fun item' head' hp' => ⟨((h.producers p').holding hp').1, rfl, rfl⟩,
    h.consumer.mono rfl (List.prefix_append _ _) fun hseq _ => hseq⟩
  · rw [List.length_append, ← hlen]
    exact hnext
  · show wrappingAdd head 1 ≤ s.gone + capacity
    omega
  · rcases Nat.lt_trichotomy q head with hqh | rfl | hqh
    · refine (h.slots q hq hlt).mono rfl rfl (.inr (by omega)) (List.prefix_append _ _) fun p' item' => ?_
      exact holding_setProducer (by simp [hnone])
    · exact .claimed p item hfree hlast (by rw [MpscRing.producers_setProducer_self]; rfl)
    · cases h.slots q hq hlt with
      | free hseq hge =>
        refine .free hseq ?_
        rw [List.length_append, List.length_singleton]
        omega
      | claimed _ _ _ hx | published _ _ _ hx => exact absurd (List.getElem?_eq_some_iff.1 hx).1 (by omega)

/-- Positions that two producers have claimed have different slots. -/
theorem slot_ne (h : MpscSound capacity s log) (hcap : Cyclic capacity) {p' head' : Nat} {item' : α} (hp : p' ≠ p)
    (hhold : (s.producers p).holding = some (item, head)) (hhold' : (s.producers p').holding = some (item', head')) :
    slotOf capacity head' ≠ slotOf capacity head := by
  obtain ⟨hle, -, hlog⟩ := (h.producers p).holding hhold
  obtain ⟨hle', -, hlog'⟩ := (h.producers p').holding hhold'
  have hroom := h.room
  have hlen := h.head
  have hlt := (List.getElem?_eq_some_iff.1 hlog).1
  have hlt' := (List.getElem?_eq_some_iff.1 hlog').1
  refine hcap.slotOf_ne ?_ (by omega) (by omega)
  rintro rfl
  rw [hlog] at hlog'
  cases hlog'
  exact hp rfl

theorem write (h : MpscSound capacity s log) (hcap : Cyclic capacity) (hpc : s.producers p = .claimed item head) :
    MpscSound capacity ({ s with data := Function.update s.data (slotOf capacity head) (some item) }.setProducer p
      (.written item head)) log := by
  have hhold : (s.producers p).holding = some (item, head) := by rw [hpc]; rfl
  obtain ⟨hle, hseq, hlog⟩ := (h.producers p).holding hhold
  have hroom := h.room
  have hlen := h.head
  have hlt := (List.getElem?_eq_some_iff.1 hlog).1
  refine ⟨h.head, h.le, h.room, fun q hq hqlt => ?_, knows_setProducer
    ⟨hle, hseq, hlog, Function.update_self _ _ _⟩ fun p' hp => (h.producers p').mono le_rfl le_rfl List.prefix_rfl
      fun item' head' hp' => ⟨((h.producers p').holding hp').1, rfl,
        Function.update_of_ne (h.slot_ne hcap hp hhold hp') _ _⟩,
    h.consumer⟩
  change s.gone ≤ q at hq
  change q < s.gone + capacity at hqlt
  by_cases hqh : q = head
  · subst hqh
    exact .claimed p item hseq hlog (by rw [MpscRing.producers_setProducer_self]; rfl)
  · refine (h.slots q hq hqlt).mono rfl ?_ (.inl rfl) List.prefix_rfl fun p' item' => ?_
    · exact Function.update_of_ne (hcap.slotOf_ne hqh (by omega) (by omega)) _ _
    · exact holding_setProducer (by simp [hhold, Ne.symm hqh])

theorem publish (h : MpscSound capacity s log) (hcap : Cyclic capacity) (hpc : s.producers p = .written item head)
    (hsmall : log.length + capacity ≤ 2 ^ 63) :
    MpscSound capacity ({ s with seq := Function.update s.seq (slotOf capacity head) (wrappingAdd head 1) }.setProducer p
      .idle) log := by
  have hhold : (s.producers p).holding = some (item, head) := by rw [hpc]; rfl
  obtain ⟨hle, hseq, hlog⟩ := (h.producers p).holding hhold
  have hdata : s.data (slotOf capacity head) = some item := by
    have hknows := h.producers p
    rw [hpc] at hknows
    exact hknows.2.2.2
  have hroom := h.room
  have hgone := h.le
  have hlen := h.head
  have hlt := (List.getElem?_eq_some_iff.1 hlog).1
  have hnext : wrappingAdd head 1 = head + 1 := wrappingAdd_of_lt (by omega)
  refine ⟨h.head, h.le, h.room, fun q hq hqlt => ?_, knows_setProducer trivial fun p' hp =>
    (h.producers p').mono le_rfl le_rfl List.prefix_rfl fun item' head' hp' =>
      ⟨((h.producers p').holding hp').1, Function.update_of_ne (h.slot_ne hcap hp hhold hp') _ _, rfl⟩,
    h.consumer.mono rfl List.prefix_rfl fun hread hpos => ?_⟩
  · change s.gone ≤ q at hq
    change q < s.gone + capacity at hqlt
    by_cases hqh : q = head
    · subst hqh
      refine .published p item ?_ hlog hdata
      exact (Function.update_self _ _ _).trans hnext
    · refine (h.slots q hq hqlt).mono ?_ rfl (.inl rfl) List.prefix_rfl fun p' item' => ?_
      · exact Function.update_of_ne (hcap.slotOf_ne hqh (by omega) (by omega)) _ _
      · exact holding_setProducer (by simp [hhold, Ne.symm hqh])
  · -- the slot that the consumer reads is published
    have hne : slotOf capacity s.tail ≠ slotOf capacity head := by
      intro hsame
      rw [hsame, hseq] at hread
      have htwo : 2 ≤ capacity := hcap.elim (by omega) And.left
      exact hcap.slotOf_ne (by omega) (by omega) (by omega) hsame
    rw [← hread]
    exact Function.update_of_ne hne _ _

/-! ## Steps of the consumer -/

theorem setConsumer (h : MpscSound capacity s log) {pc : MpscConsumer α} (hgone : { s with consumer := pc }.gone = s.gone)
    (hknows : ConsumerKnows capacity s log pc) : MpscSound capacity { s with consumer := pc } log := by
  refine ⟨h.head, hgone.trans_le h.le, hgone.symm ▸ h.room, fun q hq hlt => ?_, fun p => ?_, ?_⟩
  · rw [hgone] at hq hlt
    exact (h.slots q hq hlt).mono rfl rfl (.inl rfl) List.prefix_rfl fun _ _ hp => hp
  · refine (h.producers p).mono le_rfl hgone.ge List.prefix_rfl fun item head hp => ⟨?_, rfl, rfl⟩
    exact hgone.trans_le ((h.producers p).holding hp).1
  · exact hknows.mono rfl List.prefix_rfl fun hseq _ => hseq

theorem read (h : MpscSound capacity s log) (hpc : s.consumer = .readable tail) :
    ∃ p item, log[tail]? = some (p, item) ∧ s.data (slotOf capacity tail) = some item := by
  have hknows := h.consumer
  rw [hpc] at hknows
  obtain ⟨rfl, hseq, hpos⟩ := hknows
  have hgone : s.gone = s.tail := by rw [MpscRing.gone, hpc]
  cases h.slots s.tail hgone.le (by omega) with
  | free hseq' | claimed _ _ hseq' => omega
  | published p item _ hlog hdata => exact ⟨p, item, hlog, hdata⟩

theorem release (h : MpscSound capacity s log) (hcap : Cyclic capacity) (hpc : s.consumer = .taken item tail)
    (hsmall : log.length + capacity ≤ 2 ^ 63) :
    MpscSound capacity { s with
      seq := Function.update s.seq (slotOf capacity tail) (wrappingAdd tail capacity)
      consumer := .released item tail } log := by
  have hknows := h.consumer
  rw [hpc] at hknows
  obtain ⟨rfl, hseq, hpos, hitem⟩ := hknows
  obtain ⟨x, hx, -⟩ := Option.map_eq_some_iff.1 hitem
  have hlt := (List.getElem?_eq_some_iff.1 hx).1
  have hgone : s.gone = s.tail := by rw [MpscRing.gone, hpc]
  have hlen := h.head
  have hroom := h.room
  have hnext : wrappingAdd s.tail capacity = s.tail + capacity := wrappingAdd_of_lt (by omega)
  refine ⟨h.head, show s.tail + 1 ≤ s.head by omega, show s.head ≤ s.tail + 1 + capacity by omega, fun q hq hqlt => ?_,
    fun p => ?_, rfl⟩
  · change s.tail + 1 ≤ q at hq
    change q < s.tail + 1 + capacity at hqlt
    rcases Nat.lt_or_ge q (s.tail + capacity) with hq' | hq'
    · refine (h.slots q (by omega) (by omega)).mono ?_ rfl (.inl rfl) List.prefix_rfl fun _ _ hp => hp
      exact Function.update_of_ne (hcap.slotOf_ne (by omega) (by omega) (by omega)) _ _
    · -- the slot given back is the last one of the next turn
      obtain rfl : q = s.tail + capacity := by omega
      obtain rfl | ⟨-, hmod⟩ := hcap
      · omega
      · refine .free ?_ (by omega)
        show Function.update s.seq (slotOf capacity s.tail) _ (slotOf capacity (s.tail + capacity)) = _
        rw [hmod, hmod, Nat.add_mod_right, Function.update_self, hnext]
  · refine (h.producers p).mono le_rfl (hgone.le.trans (Nat.le_succ _)) List.prefix_rfl fun item' head hp => ?_
    obtain ⟨hle, hseq', hlog⟩ := (h.producers p).holding hp
    have hlt' := (List.getElem?_eq_some_iff.1 hlog).1
    have hne : head ≠ s.tail := by
      rintro rfl
      omega
    refine ⟨show s.tail + 1 ≤ head by omega, ?_, rfl⟩
    exact Function.update_of_ne (hcap.slotOf_ne hne (by omega) (by omega)) _ _

theorem advance (h : MpscSound capacity s log) (hpc : s.consumer = .released item tail)
    (hsmall : log.length + capacity ≤ 2 ^ 63) :
    MpscSound capacity { s with tail := wrappingAdd tail 1, consumer := .idle } log := by
  have hknows := h.consumer
  rw [hpc] at hknows
  obtain rfl : tail = s.tail := hknows
  have hgone : s.gone = s.tail + 1 := by rw [MpscRing.gone, hpc]
  have hle := h.le
  have hlen := h.head
  have hnext : wrappingAdd s.tail 1 = s.gone := (wrappingAdd_of_lt (by omega)).trans hgone.symm
  refine ⟨h.head, hnext.trans_le h.le, ?_, fun q hq hlt => ?_, fun p => ?_, trivial⟩
  · show s.head ≤ wrappingAdd s.tail 1 + capacity
    rw [hnext]
    exact h.room
  · refine (h.slots q (hnext.ge.trans hq) (hlt.trans_eq (congrArg (· + capacity) hnext))).mono rfl rfl (.inl rfl)
      List.prefix_rfl fun _ _ hp => hp
  · refine (h.producers p).mono le_rfl hnext.ge List.prefix_rfl fun item' head hp => ⟨?_, rfl, rfl⟩
    exact hnext.trans_le ((h.producers p).holding hp).1

theorem read_le (h : MpscSound capacity s log) : s.read ≤ log.length := by
  have hle := h.le
  have hlen := h.head
  have hknows := h.consumer
  rw [MpscRing.read]
  rw [MpscRing.gone] at hle
  cases hpc : s.consumer with
  | idle | loaded | readable | panicked | released =>
    rw [hpc] at hle
    exact hle.trans hlen.le
  | taken item tail =>
    rw [hpc] at hknows
    obtain ⟨rfl, -, -, hitem⟩ := hknows
    obtain ⟨x, hx, -⟩ := Option.map_eq_some_iff.1 hitem
    exact (List.getElem?_eq_some_iff.1 hx).1

theorem gone_le_read (s : MpscRing α) : s.gone ≤ s.read := by
  rw [MpscRing.gone, MpscRing.read]
  split
  · next hpc => rw [hpc]; exact le_rfl
  · exact Nat.le_add_right _ _

/-- An item that has not been moved out is in its slot, or with the producer that is writing it. -/
theorem stored (h : MpscSound capacity s log) (hq : s.read ≤ q) (hlog : log[q]? = some (p, item)) :
    s.seq (slotOf capacity q) = q + 1 ∧ s.data (slotOf capacity q) = some item ∨
      (s.producers p).holding = some (item, q) := by
  have hlt := (List.getElem?_eq_some_iff.1 hlog).1
  have hroom := h.room
  have hhead := h.head
  cases h.slots q ((gone_le_read s).trans hq) (by omega) with
  | free _ hge => exact absurd hlt (Nat.not_lt.2 hge)
  | claimed p' item' _ hlog' hhold =>
    cases hlog.symm.trans hlog'
    exact .inr hhold
  | published p' item' hseq hlog' hdata =>
    cases hlog.symm.trans hlog'
    exact .inl ⟨hseq, hdata⟩

end MpscSound

/-! ## What the history says -/

section history
variable {t : MpscRing α} (out : List (MpscOutcome α))

/-- A step of a producer: what it held and has claimed, it has enqueued or holds now. -/
theorem MpscHistory.producer (h : MpscHistory s tr) (hread : s.read ≤ (claims tr).length)
    (hprods : t.producers = s.producers) (hconsumer : t.consumer = s.consumer) (htail : t.tail = s.tail)
    (hfifo : enqueuedBy p out ++ (pc.holding.map (·.1)).toList =
      ((s.producers p).holding.map (·.1)).toList ++ claimedBy p out)
    (hother : ∀ p', p' ≠ p → enqueuedBy p' out = [] ∧ claimedBy p' out = []) (hmoved : movedOut out = [])
    (hdequeued : dequeuedItems out = []) (hinit : .uninit ∉ out) : MpscHistory (t.setProducer p pc) (tr ++ out) := by
  have hread' : (t.setProducer p pc).read = s.read := by
    show t.tail + t.consumer.holding.length = s.tail + s.consumer.holding.length
    rw [htail, hconsumer]
  refine ⟨?_, ?_, fun p' => ?_, fun hmem => (List.mem_append.1 hmem).elim h.init hinit⟩
  · rw [movedOut, List.filterMap_append, claims, List.filterMap_append, List.map_append, hread']
    refine (congrArg₂ (· ++ ·) h.moved hmoved).trans ?_
    rw [List.append_nil, List.take_append_of_le_length (by rw [List.length_map]; exact hread)]
    rfl
  · show dequeuedItems (tr ++ out) ++ t.consumer.holding = _
    rw [dequeuedItems, List.filterMap_append, movedOut, List.filterMap_append, hconsumer]
    show dequeuedItems tr ++ dequeuedItems out ++ _ = movedOut tr ++ movedOut out
    rw [hdequeued, hmoved, List.append_nil, List.append_nil, h.dequeued]
  · have henqueued : enqueuedBy p' (tr ++ out) = enqueuedBy p' tr ++ enqueuedBy p' out := List.filterMap_append
    have hclaimed : claimedBy p' (tr ++ out) = claimedBy p' tr ++ claimedBy p' out := List.filterMap_append
    rw [henqueued, hclaimed, ← h.fifo p']
    by_cases hp : p' = p
    · subst hp
      rw [MpscRing.producers_setProducer_self, List.append_assoc, hfifo, List.append_assoc]
    · obtain ⟨he, hc⟩ := hother p' hp
      rw [MpscRing.producers_setProducer_of_ne _ _ hp, hprods, he, hc, List.append_nil, List.append_nil]

/-- A step of the consumer: what it held and has moved out, it has returned or holds now. -/
theorem MpscHistory.consumer (h : MpscHistory s tr) (hprods : t.producers = s.producers)
    (hmoved : movedOut tr ++ movedOut out = ((claims tr).map (·.2)).take t.read)
    (hdequeued : dequeuedItems out ++ t.consumer.holding = s.consumer.holding ++ movedOut out)
    (hclaims : claims out = []) (hother : ∀ p, enqueuedBy p out = [] ∧ claimedBy p out = [])
    (hinit : .uninit ∉ out) : MpscHistory t (tr ++ out) := by
  refine ⟨?_, ?_, fun p => ?_, fun hmem => (List.mem_append.1 hmem).elim h.init hinit⟩
  · rw [claims, List.filterMap_append, movedOut, List.filterMap_append]
    refine hmoved.trans ?_
    show _ = ((claims tr ++ claims out).map (·.2)).take t.read
    rw [hclaims, List.append_nil]
  · rw [dequeuedItems, List.filterMap_append, movedOut, List.filterMap_append]
    show dequeuedItems tr ++ dequeuedItems out ++ _ = movedOut tr ++ movedOut out
    rw [List.append_assoc, hdequeued, ← List.append_assoc, h.dequeued]
  · obtain ⟨he, hc⟩ := hother p
    rw [enqueuedBy, List.filterMap_append, claimedBy, List.filterMap_append, hprods]
    show enqueuedBy p tr ++ enqueuedBy p out ++ _ = claimedBy p tr ++ claimedBy p out
    rw [he, hc, List.append_nil, List.append_nil, h.fifo]

end history

/-! ## Every step -/

theorem length_claims_le (tr out : List (MpscOutcome α)) : (claims tr).length ≤ (claims (tr ++ out)).length := by
  rw [claims, claims, List.filterMap_append, List.length_append]
  exact Nat.le_add_right _ _

theorem MpscInv.setProducer {out : List (MpscOutcome α)} (h : MpscInv capacity s tr)
    (hnone : (s.producers p).holding = none) (hpc : pc.holding = none)
    (hknows : (claims tr).length + capacity ≤ 2 ^ 63 → MpscSound capacity s (claims tr) →
      ProducerKnows capacity s (claims tr) p pc)
    (hout : out = [] ∨ ∃ item, out = [.full p item]) : MpscInv capacity (s.setProducer p pc) (tr ++ out) := by
  intro hsmall
  have hclaims : claims (tr ++ out) = claims tr := by
    rcases hout with rfl | ⟨item, rfl⟩ <;> simp [claims]
  rw [hclaims] at hsmall ⊢
  obtain ⟨hsound, hhistory⟩ := h hsmall
  refine ⟨hsound.setProducer hnone (hknows hsmall hsound), ?_⟩
  rcases hout with rfl | ⟨item, rfl⟩ <;>
    exact hhistory.producer _ hsound.read_le rfl rfl rfl (by rw [hnone, hpc]; rfl) (fun _ _ => ⟨rfl, rfl⟩) rfl rfl
      (by simp)

section
variable {item : α} {head : Nat}

theorem MpscInv.compare (hcap : Cyclic capacity) (h : MpscInv capacity s tr) (hpc : s.producers p = .loaded item head)
    (hslot : slotOf capacity head < capacity) {diff : Nat}
    (hdiff : wrappingSub (s.seq (slotOf capacity head)) head = diff) :
    MpscInv capacity (s.compare p item head diff).1 (tr ++ (s.compare p item head diff).2) := by
  have hnone : (s.producers p).holding = none := by rw [hpc]; rfl
  unfold MpscRing.compare
  split_ifs with hzero hfull
  · refine h.setProducer hnone rfl (fun hsmall hsound => ?_) (.inl rfl)
    have hle := hsound.producers p
    rw [hpc] at hle
    exact hsound.ready hcap hle hslot hsmall (hdiff.trans hzero)
  · exact h.setProducer hnone rfl (fun _ _ => trivial) (.inr ⟨item, rfl⟩)
  · exact h.setProducer hnone rfl (fun _ _ => trivial) (.inl rfl)

theorem MpscInv.claim (h : MpscInv capacity s tr) (hpc : s.producers p = .ready item head) (hhead : s.head = head) :
    MpscInv capacity ({ s with head := wrappingAdd head 1 }.setProducer p (.claimed item head))
      (tr ++ [.claimed p item]) := by
  intro hsmall
  obtain ⟨hsound, hhistory⟩ := h ((Nat.add_le_add_right (length_claims_le tr _) _).trans hsmall)
  have hclaims : claims (tr ++ [.claimed p item]) = claims tr ++ [(p, item)] := by simp [claims]
  rw [hclaims] at hsmall ⊢
  refine ⟨hsound.claim hpc hhead hsmall, hhistory.producer [.claimed p item] hsound.read_le rfl rfl rfl ?_ ?_ rfl rfl
    (by simp)⟩
  · rw [hpc]
    simp [enqueuedBy, claimedBy, MpscProducer.holding]
  · intro p' hp
    simp [enqueuedBy, claimedBy, Ne.symm hp]

theorem MpscInv.write (hcap : Cyclic capacity) (h : MpscInv capacity s tr) (hpc : s.producers p = .claimed item head) :
    MpscInv capacity ({ s with data := Function.update s.data (slotOf capacity head) (some item) }.setProducer p
      (.written item head)) tr := by
  intro hsmall
  obtain ⟨hsound, hhistory⟩ := h hsmall
  refine ⟨hsound.write hcap hpc, ?_⟩
  rw [← List.append_nil tr]
  exact hhistory.producer [] hsound.read_le rfl rfl rfl (by rw [hpc]; rfl) (fun _ _ => ⟨rfl, rfl⟩) rfl rfl
    List.not_mem_nil

theorem MpscInv.publish (hcap : Cyclic capacity) (h : MpscInv capacity s tr) (hpc : s.producers p = .written item head) :
    MpscInv capacity ({ s with seq := Function.update s.seq (slotOf capacity head) (wrappingAdd head 1) }.setProducer p
      .idle) (tr ++ [.enqueued p item]) := by
  intro hsmall
  have hclaims : claims (tr ++ [.enqueued p item]) = claims tr := by simp [claims]
  rw [hclaims] at hsmall ⊢
  obtain ⟨hsound, hhistory⟩ := h hsmall
  refine ⟨hsound.publish hcap hpc hsmall, hhistory.producer [.enqueued p item] hsound.read_le rfl rfl rfl ?_ ?_ rfl rfl
    (by simp)⟩
  · rw [hpc]
    simp [enqueuedBy, claimedBy, MpscProducer.holding]
  · intro p' hp
    simp [enqueuedBy, claimedBy, Ne.symm hp]

end

theorem MpscInv.producerStep (hcap : Cyclic capacity) (h : MpscInv capacity s tr) (p : Nat) (spurious : Bool) :
    MpscInv capacity (s.producerStep capacity p spurious).1 (tr ++ (s.producerStep capacity p spurious).2) := by
  unfold MpscRing.producerStep
  split
  · rwa [List.append_nil]
  · rwa [List.append_nil]
  · next item hpc => exact h.setProducer (by rw [hpc]; rfl) rfl (fun _ _ => Nat.le_refl s.head) (.inl rfl)
  · next item head hpc =>
    split_ifs with hslot
    · exact h.compare hcap hpc hslot rfl
    · exact h.setProducer (by rw [hpc]; rfl) rfl (fun _ _ => trivial) (.inl rfl)
  · next item head hpc =>
    split_ifs with hcas
    · exact h.claim hpc hcas.1
    · exact h.setProducer (by rw [hpc]; rfl) rfl (fun _ _ => Nat.le_refl s.head) (.inl rfl)
  · next item head hpc =>
    rw [List.append_nil]
    exact h.write hcap hpc
  · next item head hpc => exact h.publish hcap hpc

theorem MpscInv.setConsumer {out : List (MpscOutcome α)} {pc : MpscConsumer α} (h : MpscInv capacity s tr)
    (hgone : { s with consumer := pc }.gone = s.gone) (hhold : pc.holding = s.consumer.holding)
    (hknows : (claims tr).length + capacity ≤ 2 ^ 63 → MpscSound capacity s (claims tr) →
      ConsumerKnows capacity s (claims tr) pc)
    (hout : out = [] ∨ out = [.empty]) : MpscInv capacity { s with consumer := pc } (tr ++ out) := by
  intro hsmall
  have hclaims : claims (tr ++ out) = claims tr := by
    rcases hout with rfl | rfl <;> simp [claims]
  rw [hclaims] at hsmall ⊢
  obtain ⟨hsound, hhistory⟩ := h hsmall
  have hread : { s with consumer := pc }.read = s.read := by rw [MpscRing.read, hhold, MpscRing.read]
  refine ⟨hsound.setConsumer hgone (hknows hsmall hsound), ?_⟩
  rcases hout with rfl | rfl <;>
    exact hhistory.consumer _ rfl (by rw [hread, ← hhistory.moved]; exact List.append_nil _)
      (by rw [hhold]; exact (List.append_nil _).symm) rfl (fun _ => ⟨rfl, rfl⟩) (by simp)

section
variable {item : α} {tail : Nat}

theorem MpscInv.read (h : MpscInv capacity s tr) (hpc : s.consumer = .readable tail) :
    MpscInv capacity (s.consumerStep capacity).1 (tr ++ (s.consumerStep capacity).2) := by
  intro hsmall
  obtain ⟨hsound, hhistory⟩ := h ((Nat.add_le_add_right (length_claims_le tr _) _).trans hsmall)
  obtain ⟨p, item, hlog, hdata⟩ := hsound.read hpc
  have hstep : s.consumerStep capacity = ({ s with consumer := .taken item tail }, [.moved item]) := by
    simp only [MpscRing.consumerStep, hpc, hdata]
  have hclaims : claims (tr ++ [.moved item]) = claims tr := by simp [claims]
  have hknows := hsound.consumer
  rw [hpc] at hknows
  obtain ⟨rfl, hseq, hpos⟩ := hknows
  have hread : s.read = s.tail := by rw [MpscRing.read, hpc]; rfl
  rw [hstep, hclaims]
  refine ⟨hsound.setConsumer (by rw [MpscRing.gone, MpscRing.gone, hpc]) ⟨rfl, hseq, hpos, by rw [hlog]; rfl⟩,
    hhistory.consumer [.moved item] rfl ?_ (by rw [hpc]; rfl) rfl (fun _ => ⟨rfl, rfl⟩) (by simp)⟩
  show movedOut tr ++ [item] = ((claims tr).map (·.2)).take (s.tail + 1)
  rw [hhistory.moved, hread, List.take_add_one, List.getElem?_map, hlog]
  rfl

theorem MpscInv.release (hcap : Cyclic capacity) (h : MpscInv capacity s tr) (hpc : s.consumer = .taken item tail) :
    MpscInv capacity { s with
      seq := Function.update s.seq (slotOf capacity tail) (wrappingAdd tail capacity)
      consumer := .released item tail } tr := by
  intro hsmall
  obtain ⟨hsound, hhistory⟩ := h hsmall
  refine ⟨hsound.release hcap hpc hsmall, hhistory.moved.trans ?_, ?_, hhistory.fifo, hhistory.init⟩
  · rw [MpscRing.read, hpc]
    rfl
  · rw [← hhistory.dequeued, hpc]
    rfl

theorem MpscInv.advance (h : MpscInv capacity s tr) (hpc : s.consumer = .released item tail) :
    MpscInv capacity { s with tail := wrappingAdd tail 1, consumer := .idle } (tr ++ [.dequeued item]) := by
  intro hsmall
  have hclaims : claims (tr ++ [.dequeued item]) = claims tr := by simp [claims]
  rw [hclaims] at hsmall ⊢
  obtain ⟨hsound, hhistory⟩ := h hsmall
  have hknows := hsound.consumer
  rw [hpc] at hknows
  obtain rfl : tail = s.tail := hknows
  have hle := hsound.read_le
  have hread : s.read = s.tail + 1 := by rw [MpscRing.read, hpc]; rfl
  have hnext : wrappingAdd s.tail 1 = s.tail + 1 := wrappingAdd_of_lt (by omega)
  refine ⟨hsound.advance hpc hsmall, hhistory.consumer [.dequeued item] rfl ?_ (by rw [hpc]; rfl) rfl
    (fun _ => ⟨rfl, rfl⟩) (by simp)⟩
  show movedOut tr ++ [] = ((claims tr).map (·.2)).take (wrappingAdd s.tail 1 + 0)
  rw [hnext, List.append_nil, hhistory.moved, hread]

end

theorem MpscInv.consumerStep (hcap : Cyclic capacity) (h : MpscInv capacity s tr) :
    MpscInv capacity (s.consumerStep capacity).1 (tr ++ (s.consumerStep capacity).2) := by
  cases hpc : s.consumer with
  | idle | panicked =>
    simp only [MpscRing.consumerStep, hpc, List.append_nil]
    exact h
  | loaded tail =>
    simp only [MpscRing.consumerStep, hpc]
    split_ifs with hslot hseq
    · exact h.setConsumer (by rw [MpscRing.gone, MpscRing.gone, hpc]) (by rw [hpc]; rfl) (fun _ _ => trivial) (.inr rfl)
    · refine h.setConsumer (by rw [MpscRing.gone, MpscRing.gone, hpc]) (by rw [hpc]; rfl) (fun hsmall hsound => ?_)
        (.inl rfl)
      have hknows := hsound.consumer
      rw [hpc] at hknows
      have htail : tail = s.tail := hknows
      have hle := hsound.le
      have hlen := hsound.head
      have hgone : s.gone = s.tail := by rw [MpscRing.gone, hpc]
      exact ⟨htail, (not_not.1 hseq).trans (wrappingAdd_of_lt (by omega)), by omega⟩
    · exact h.setConsumer (by rw [MpscRing.gone, MpscRing.gone, hpc]) (by rw [hpc]; rfl) (fun _ _ => trivial) (.inl rfl)
  | readable tail => exact h.read hpc
  | taken item tail =>
    simp only [MpscRing.consumerStep, hpc, List.append_nil]
    exact h.release hcap hpc
  | released item tail =>
    simp only [MpscRing.consumerStep, hpc]
    exact h.advance hpc

/-- Every step keeps the invariant. -/
theorem MpscInv.step (hcap : Cyclic capacity) (h : MpscInv capacity s tr) (e : MpscEvent α) :
    MpscInv capacity (s.step capacity e).1 (tr ++ (s.step capacity e).2) := by
  cases e with
  | enqueue p item =>
    rw [MpscRing.step]
    split
    · next hpc => exact h.setProducer (by rw [hpc]; rfl) rfl (fun _ _ => Nat.le_refl s.head) (.inl rfl)
    · rwa [List.append_nil]
  | producer p spurious => exact h.producerStep hcap p spurious
  | dequeue =>
    rw [MpscRing.step]
    split
    · next hpc =>
      exact h.setConsumer (by rw [MpscRing.gone, MpscRing.gone, hpc]) (by rw [hpc]; rfl) (fun _ _ => rfl) (.inl rfl)
    · rwa [List.append_nil]
  | consumer => exact h.consumerStep hcap

/-- The invariant holds along every run. -/
theorem mpscInv_run (hcap : Cyclic capacity) (es : List (MpscEvent α)) :
    MpscInv capacity (run (MpscRing.step capacity) {} es).1 (run (MpscRing.step capacity) {} es).2 := by
  have hinit : MpscInv capacity ({} : MpscRing α) [] := by
    refine fun _ => ⟨⟨rfl, le_rfl, Nat.zero_le _, fun q _ hq => .free ?_ (Nat.zero_le _), fun _ => trivial, trivial⟩,
      rfl, rfl, fun _ => rfl, List.not_mem_nil⟩
    have hlt : q < capacity := by simpa [MpscRing.gone] using hq
    show slotOf capacity q = q
    obtain rfl | ⟨-, hmod⟩ := hcap
    · exact absurd hlt (Nat.not_lt_zero _)
    · rw [hmod, Nat.mod_eq_of_lt hlt]
  exact run_invariant (I := MpscInv capacity) (fun _ _ e _ h => h.step hcap e) es {} []
    (along_true _ _) hinit

/-- A call that fails finds all slots claimed and none given back. -/
theorem full_of_step (hcap : Cyclic capacity) (hsmall : (claims tr).length + capacity ≤ 2 ^ 63)
    (h : MpscInv capacity s tr) {e : MpscEvent α} {item : α} (hfull : .full p item ∈ (s.step capacity e).2) :
    s.head = s.gone + capacity := by
  obtain ⟨hsound, -⟩ := h hsmall
  cases e with
  | enqueue | dequeue =>
    rw [MpscRing.step] at hfull
    split at hfull <;> cases hfull
  | consumer =>
    change _ ∈ (s.consumerStep capacity).2 at hfull
    unfold MpscRing.consumerStep at hfull
    repeat' split at hfull
    all_goals simp at hfull
  | producer p' spurious =>
    change _ ∈ (s.producerStep capacity p' spurious).2 at hfull
    unfold MpscRing.producerStep at hfull
    cases hpc : s.producers p' with
    | idle | reload | claimed | written | panicked => simp [hpc] at hfull
    | ready =>
      simp only [hpc] at hfull
      split at hfull <;> simp at hfull
    | loaded item head =>
      have hle := hsound.producers p'
      rw [hpc] at hle
      simp only [hpc, MpscRing.compare] at hfull
      generalize hdiff : wrappingSub (s.seq (slotOf capacity head)) head = diff at hfull
      split_ifs at hfull with hslot hzero hneg
      · cases hfull
      · exact hsound.full hcap hle hslot hsmall (hdiff ▸ hneg)
      · cases hfull
      · cases hfull

end

/-- **The ring is a queue for each producer.** As long as fewer items than half a word less the capacity are claimed:
items are moved out in the order of the claims, each once, and every producer's are claimed in the order it enqueues
them; one not moved out is published, or with its producer; no slot is read before it was written; and a call fails
only on a full ring. -/
theorem mpsc_ring_fifo (requested : Nat) (es : List (MpscEvent α))
    (hops : (claims (run (MpscRing.step (ringCapacity requested)) {} es).2).length + ringCapacity requested ≤ 2 ^ 63) :
    let capacity := ringCapacity requested
    let (s, tr) := run (MpscRing.step capacity) {} es
    movedOut tr <+: (claims tr).map (·.2) ∧ dequeuedItems tr ++ s.consumer.holding = movedOut tr ∧
      (∀ p, enqueuedBy p tr ++ ((s.producers p).holding.map (·.1)).toList = claimedBy p tr) ∧
      (∀ q p item, (movedOut tr).length ≤ q → (claims tr)[q]? = some (p, item) →
        s.seq (slotOf capacity q) = q + 1 ∧ s.data (slotOf capacity q) = some item ∨
          (s.producers p).holding = some (item, q)) ∧
      .uninit ∉ tr ∧
      Along (fun s e => ∀ p item, .full p item ∈ (s.step capacity e).2 → s.head = s.gone + capacity)
        (MpscRing.step capacity) {} es := by
  have hcap := cyclic_ringCapacity requested
  obtain ⟨hsound, hhistory⟩ := mpscInv_run hcap es hops
  refine ⟨hhistory.moved ▸ List.take_prefix _ _, hhistory.dequeued, hhistory.fifo, fun q p item hq hlog => ?_,
    hhistory.init, ?_⟩
  · refine hsound.stored ?_ hlog
    rwa [hhistory.moved, List.length_take, List.length_map, Nat.min_eq_left hsound.read_le] at hq
  · refine (along_here _ _).mono fun s e => ?_
    rintro ⟨es₁, es₂, rfl, rfl⟩ p item hfull
    rw [run_append] at hops
    exact full_of_step hcap ((Nat.add_le_add_right (length_claims_le _ _) _).trans hops) (mpscInv_run hcap es₁) hfull

/-- Two producers load `head` before either claims: one compare-and-swap fails and is tried again. -/
def sampleTwo : List (MpscEvent Nat) :=
  [.enqueue 3 7, .enqueue 5 8, .producer 3 false, .producer 5 false, .producer 3 false, .producer 5 false] ++
    List.replicate 4 (.producer 5 false) ++ List.replicate 2 (.producer 3 false) ++
    .dequeue :: List.replicate 4 .consumer ++ .dequeue :: List.replicate 4 .consumer

theorem mpsc_ring_fifo_two :
    let tr := (run (MpscRing.step (ringCapacity 2)) {} sampleTwo).2
    movedOut tr <+: (claims tr).map (·.2) ∧ claims tr = [(3, 7), (5, 8)] ∧ dequeuedItems tr = [7, 8] :=
  ⟨(mpsc_ring_fifo 2 sampleTwo (by decide)).1, by decide, by decide⟩

/-! ## A call that sleeps for half a word -/

def passing : List (MpscEvent Unit) :=
  [.enqueue 1 (), .producer 1 false, .producer 1 false, .producer 1 false, .producer 1 false, .dequeue, .consumer,
    .consumer, .consumer, .consumer]

/-- The ring after `n` rounds, producer `0` being where it was before the first. -/
structure AfterRounds (n : Nat) (s : MpscRing Unit) : Prop where
  head : s.head = n
  tail : s.tail = n
  sleeper : s.producers 0 = .loaded () 0
  idle : s.producers 1 = .idle
  consumer : s.consumer = .idle
  seq : ∀ q, n ≤ q → q < n + 4 → s.seq (slotOf 4 q) = q

theorem AfterRounds.next {n : Nat} {s : MpscRing Unit} (h : AfterRounds n s) (hn : n < 2 ^ 63) :
    AfterRounds (n + 1) (run (MpscRing.step 4) s passing).1 ∧
      Along (fun s _ => s.head ≤ s.tail + 1) (MpscRing.step 4) s passing := by
  have hmod : ∀ i, slotOf 4 i = i % 4 := slotOf_two_pow (k := 2) (by decide)
  have hsub : wrappingSub n n = 0 := by rw [wrappingSub]; omega
  have hadd : wrappingAdd n 1 = n + 1 := wrappingAdd_of_lt (by omega)
  have hadd4 : wrappingAdd n 4 = n + 4 := wrappingAdd_of_lt (by omega)
  have hslot : n % 4 < 4 := Nat.mod_lt _ (by decide)
  have hseq := h.seq n le_rfl (by omega)
  rw [hmod] at hseq
  have hrun : run (MpscRing.step 4) s passing = ({ s with
      head := n + 1
      tail := n + 1
      seq := Function.update (Function.update s.seq (n % 4) (n + 1)) (n % 4) (n + 4)
      data := Function.update s.data (n % 4) (some ())
      producers := Function.update (Function.update (Function.update (Function.update (Function.update s.producers 1
        (.loaded () n)) 1 (.ready () n)) 1 (.claimed () n)) 1 (.written () n)) 1 .idle
      consumer := .idle }, [.claimed 1 (), .enqueued 1 (), .moved (), .dequeued ()]) := by
    simp [passing, run_cons, MpscRing.step, MpscRing.producerStep, MpscRing.consumerStep, MpscRing.compare,
      MpscRing.setProducer, h.idle, h.consumer, h.head, h.tail, hmod, hslot, hseq, hsub, hadd, hadd4]
  refine ⟨?_, ?_⟩
  · rw [hrun]
    refine ⟨rfl, rfl, ?_, ?_, rfl, fun q hq hlt => ?_⟩
    · simp [h.sleeper]
    · simp
    · show Function.update (Function.update s.seq (n % 4) (n + 1)) (n % 4) (n + 4) (slotOf 4 q) = q
      rw [hmod, Function.update_idem]
      rcases Nat.lt_or_ge q (n + 4) with hlt' | hge
      · rw [Function.update_of_ne (mod_ne_of_ne (by omega) (by omega) (by omega)), ← hmod, h.seq q (by omega) hlt']
      · obtain rfl : q = n + 4 := by omega
        rw [Nat.add_mod_right, Function.update_self]
  · simp [Along, passing, MpscRing.step, MpscRing.producerStep, MpscRing.consumerStep, MpscRing.compare,
      MpscRing.setProducer, h.idle, h.consumer, h.head, h.tail, hmod, hslot, hseq, hsub, hadd, hadd4]

def sleeping (n : Nat) : List (MpscEvent Unit) := .enqueue 0 () :: (List.replicate n passing).flatten

theorem afterRounds_sleeping (n : Nat) (hn : n ≤ 2 ^ 63) :
    AfterRounds n (run (MpscRing.step 4) {} (sleeping n)).1 ∧
      Along (fun s _ => s.head ≤ s.tail + 1) (MpscRing.step 4) {} (sleeping n) := by
  induction n with
  | zero =>
    refine ⟨⟨rfl, rfl, rfl, rfl, rfl, fun q _ hq => ?_⟩, Nat.zero_le _, trivial⟩
    show slotOf 4 q = q
    exact (slotOf_two_pow (k := 2) (by decide) q).trans (Nat.mod_eq_of_lt (by omega))
  | succ n ih =>
    obtain ⟨hafter, halong⟩ := ih (by omega)
    obtain ⟨hafter', halong'⟩ := hafter.next (by omega)
    have hsucc : sleeping (n + 1) = sleeping n ++ passing := by
      rw [sleeping, List.replicate_succ', List.flatten_append, List.flatten_singleton, sleeping, List.cons_append]
    rw [hsucc, run_append]
    exact ⟨hafter', (along_append _ _ _).2 ⟨halong, halong'⟩⟩

/-- A producer that sleeps between its loads while `2^63` items pass fails on an empty ring. -/
theorem mpsc_refused_on_empty : ∃ es : List (MpscEvent Unit),
    .full 0 () ∈ (run (MpscRing.step (ringCapacity 4)) {} es).2 ∧
      Along (fun s _ => s.head ≤ s.tail + 1) (MpscRing.step (ringCapacity 4)) {} es := by
  obtain ⟨n, hn⟩ : ∃ n, n = 2 ^ 63 := ⟨_, rfl⟩
  obtain ⟨hafter, halong⟩ := afterRounds_sleeping n hn.le
  have hcap : ringCapacity 4 = 4 := by decide
  rw [hcap]
  have hseq : (run (MpscRing.step 4) {} (sleeping n)).1.seq 0 = n := by
    have hslot : slotOf 4 n = 0 := (slotOf_two_pow (k := 2) (by decide) n).trans (by omega)
    have hseq := hafter.seq n le_rfl (by omega)
    rwa [hslot] at hseq
  have hdiff : wrappingSub n 0 = 2 ^ 63 := by
    rw [wrappingSub]
    omega
  refine ⟨sleeping n ++ [.producer 0 false], ?_, (along_append _ _ _).2 ⟨halong, ?_, trivial⟩⟩
  · rw [run_append]
    refine List.mem_append_right _ (List.mem_append_left _ ?_)
    have hslot : slotOf 4 0 = 0 := by decide
    simp [MpscRing.step, MpscRing.producerStep, hafter.sleeper, hslot, hseq, hdiff, MpscRing.compare, Negative]
  · exact (hafter.head.trans hafter.tail.symm).le.trans (Nat.le_succ _)

end DpdkStdlib.Rings
