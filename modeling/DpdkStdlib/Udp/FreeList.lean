import DpdkStdlib.Udp.SpscRing
import Mathlib.Data.List.Perm.Basic

/-!
# The free list of the frame pool (`frame_pool.rs`)

One thread allocates, any number of threads free.  `free` claims a place in the list with `fetch_add` and stores the
index in a second step; `alloc` swaps a sentinel in until it finds an index.
-/

namespace DpdkStdlib.Rings
open DpdkStdlib.Lib DpdkStdlib.Tcp

/-! ## The list -/

def sentinel : Nat := 2 ^ 32 - 1

/-- Where the allocating thread is in `alloc`, with the value of `free_tail` that it loaded. -/
inductive Alloc
  | idle
  | loaded (tail : Nat)
  | spinning (tail : Nat)
  | taken (idx tail : Nat)

structure FreeList where
  freeHead : Nat
  freeTail : Nat := 0
  freeList : Nat → Nat
  freeCapacity : Nat
  alloc : Alloc := .idle
  held : List Nat := []
  /-- The index that a thread is freeing, and the place that it has claimed for it. -/
  freeing : Nat → Option (Nat × Nat) := fun _ => none

inductive PoolEvent
  | alloc
  | allocStep
  | free (thread idx : Nat)
  | freeStep (thread : Nat)

inductive PoolOutcome
  | allocated (idx : Nat)
  | exhausted

namespace FreeList

def new (capacity : Nat) : FreeList where
  freeHead := capacity
  freeList i := if i < capacity then i % 2 ^ 32 else sentinel
  freeCapacity := usizeNextPowerOfTwo (max (capacity * 2 % 2 ^ 64) 1)

/-- The next step of the `alloc` on its way. -/
def allocStep (s : FreeList) : FreeList × List PoolOutcome :=
  match s.alloc with
  | .idle => (s, [])
  | .loaded tail =>
    if tail ≥ s.freeHead then ({ s with alloc := .idle }, [.exhausted]) else ({ s with alloc := .spinning tail }, [])
  | .spinning tail =>
    let slot := slotOf s.freeCapacity tail
    let v := s.freeList slot
    let s := { s with freeList := Function.update s.freeList slot sentinel }
    if v ≠ sentinel then ({ s with alloc := .taken v tail }, []) else (s, [])
  | .taken idx tail =>
    ({ s with freeTail := wrappingAdd tail 1, alloc := .idle, held := idx :: s.held }, [.allocated idx])

def claim (s : FreeList) (thread idx : Nat) : FreeList :=
  { s with
    freeHead := wrappingAdd s.freeHead 1
    held := s.held.erase idx
    freeing := Function.update s.freeing thread (some (idx, s.freeHead)) }

/-- Every step conserves the indices. -/
def step (s : FreeList) : PoolEvent → FreeList × List PoolOutcome
  | .alloc =>
    match s.alloc with
    | .idle => ({ s with alloc := .loaded s.freeTail }, [])
    | _ => (s, [])
  | .allocStep => s.allocStep
  | .free thread idx =>
    match s.freeing thread with
    | none => (s.claim thread idx, [])
    | some _ => (s, [])
  | .freeStep thread =>
    match s.freeing thread with
    | none => (s, [])
    | some (idx, head) =>
      ({ s with
        freeList := Function.update s.freeList (slotOf s.freeCapacity head) idx
        freeing := Function.update s.freeing thread none }, [])

def hands (s : FreeList) : List Nat :=
  match s.alloc with
  | .taken idx _ => idx :: s.held
  | _ => s.held

def Listed (s : FreeList) (idx : Nat) : Prop := idx ≠ sentinel ∧ ∃ i < s.freeCapacity, s.freeList i = idx

def Freeing (s : FreeList) (idx : Nat) : Prop := ∃ thread head, s.freeing thread = some (idx, head)

/-- No index is held twice or lost, and a thread that frees one has an empty place. -/
structure Conserved (capacity : Nat) (s : FreeList) : Prop where
  nodup : s.hands.Nodup
  all : ∀ idx, idx < capacity ↔ idx ∈ s.hands ∨ s.Listed idx ∨ s.Freeing idx
  disjoint : ∀ idx ∈ s.hands, ¬s.Listed idx ∧ ¬s.Freeing idx
  empty : ∀ thread idx head, s.freeing thread = some (idx, head) → s.freeList (slotOf s.freeCapacity head) = sentinel

/-- A thread frees only an index that is held, and `free_head` does not wrap. -/
def Fair (s : FreeList) : PoolEvent → Prop
  | .free _ idx => idx ∈ s.held ∧ s.freeHead + 1 < 2 ^ 64
  | .alloc | .allocStep | .freeStep _ => True

def consumed (s : FreeList) : Nat :=
  match s.alloc with
  | .taken _ _ => s.freeTail + 1
  | _ => s.freeTail

end FreeList

/-! ## The invariant -/

/-- A place of the list: unclaimed, about to get its index, or with it. -/
inductive PlaceState (s : FreeList) (log : List Nat) (q : Nat) : Prop
  | free : s.freeList (slotOf s.freeCapacity q) = sentinel → log.length ≤ q → PlaceState s log q
  | claimed (thread idx : Nat) : s.freeList (slotOf s.freeCapacity q) = sentinel → log[q]? = some idx →
      s.freeing thread = some (idx, q) → PlaceState s log q
  | stored (idx : Nat) : s.freeList (slotOf s.freeCapacity q) = idx → log[q]? = some idx → PlaceState s log q

def AllocKnows (s : FreeList) : Alloc → Prop
  | .idle => True
  | .loaded tail | .taken _ tail => tail = s.freeTail
  | .spinning tail => tail = s.freeTail ∧ tail < s.freeHead

/-- The log has the index of every place that was filled or claimed. -/
structure PoolInv (capacity : Nat) (s : FreeList) (log : List Nat) : Prop where
  cyclic : Cyclic s.freeCapacity
  turn : s.freeCapacity = 2 * capacity
  small : capacity ≤ 2 ^ 31
  head : s.freeHead = log.length
  lt : log.length < 2 ^ 64
  le : s.consumed ≤ log.length
  perm : (s.hands ++ log.drop s.consumed).Perm (List.range capacity)
  places : ∀ q, s.consumed ≤ q → q < s.consumed + s.freeCapacity → PlaceState s log q
  freeing : ∀ thread idx head, s.freeing thread = some (idx, head) → s.consumed ≤ head ∧ log[head]? = some idx ∧
    s.freeList (slotOf s.freeCapacity head) = sentinel
  alone : ∀ thread thread' idx idx' head, s.freeing thread = some (idx, head) → s.freeing thread' = some (idx', head) →
    thread' = thread
  alloc : AllocKnows s s.alloc

theorem AllocKnows.mono {s s' : FreeList} {pc : Alloc} (h : AllocKnows s pc) (hhead : s.freeHead ≤ s'.freeHead)
    (htail : s'.freeTail = s.freeTail) : AllocKnows s' pc := by
  cases pc with
  | idle => trivial
  | loaded | taken => exact h.trans htail.symm
  | spinning => exact ⟨h.1.trans htail.symm, h.2.trans_le hhead⟩

theorem PlaceState.mono {s s' : FreeList} {log : List Nat} {q : Nat} (h : PlaceState s log q)
    (hcap : s'.freeCapacity = s.freeCapacity)
    (hlist : s'.freeList (slotOf s.freeCapacity q) = s.freeList (slotOf s.freeCapacity q))
    (hfreeing : ∀ thread idx, s.freeing thread = some (idx, q) → s'.freeing thread = some (idx, q)) :
    PlaceState s' log q := by
  cases h with
  | free hs hq => exact .free (by rw [hcap, hlist, hs]) hq
  | claimed thread idx hs hlog hf => exact .claimed thread idx (by rw [hcap, hlist, hs]) hlog (hfreeing _ _ hf)
  | stored idx hs hlog => exact .stored idx (by rw [hcap, hlist, hs]) hlog

namespace PoolInv
variable {capacity : Nat} {s : FreeList} {log : List Nat}

theorem length (h : PoolInv capacity s log) : s.hands.length + (log.length - s.consumed) = capacity := by
  have hlen := h.perm.length_eq
  rwa [List.length_append, List.length_drop, List.length_range] at hlen

/-- What is in the list from the allocator's place on is an index. -/
theorem lt_sentinel (h : PoolInv capacity s log) {q idx : Nat} (hq : s.consumed ≤ q) (hlog : log[q]? = some idx) :
    idx < capacity ∧ idx ≠ sentinel ∧ idx ∉ s.hands := by
  have hmem : idx ∈ log.drop s.consumed := by
    refine List.mem_of_getElem? (i := q - s.consumed) ?_
    rw [List.getElem?_drop, Nat.add_sub_cancel' hq, hlog]
  have hlt : idx < capacity := List.mem_range.1 (h.perm.mem_iff.1 (List.mem_append_right _ hmem))
  have hsmall := h.small
  refine ⟨hlt, ?_, fun hheld => ?_⟩
  · rw [sentinel]
    omega
  · have hnodup := h.perm.nodup_iff.2 List.nodup_range
    exact (List.nodup_append.1 hnodup).2.2 idx hheld idx hmem rfl

theorem conserved (h : PoolInv capacity s log) : s.Conserved capacity := by
  have hnodup := h.perm.nodup_iff.2 List.nodup_range
  have hfree {idx : Nat} (hf : s.Freeing idx) : idx < capacity ∧ idx ∉ s.hands := by
    obtain ⟨thread, head, hf⟩ := hf
    obtain ⟨hle, hlog, -⟩ := h.freeing _ _ _ hf
    have hidx := h.lt_sentinel hle hlog
    exact ⟨hidx.1, hidx.2.2⟩
  have hlisted {idx : Nat} (hl : s.Listed idx) : idx < capacity ∧ idx ∉ s.hands := by
    obtain ⟨hne, i, hi, rfl⟩ := hl
    obtain ⟨q, hq, hlt, rfl⟩ := h.cyclic.exists_turn hi s.consumed
    cases h.places q hq hlt with
    | free hs | claimed _ _ hs => exact absurd hs hne
    | stored idx hs hlog =>
      have hidx := h.lt_sentinel hq hlog
      exact hs ▸ ⟨hidx.1, hidx.2.2⟩
  refine ⟨(List.nodup_append.1 hnodup).1, fun idx => ⟨fun hlt => ?_, ?_⟩, fun idx hidx => ⟨fun hl => ?_, fun hf => ?_⟩,
    fun thread idx head hf => (h.freeing _ _ _ hf).2.2⟩
  · rcases List.mem_append.1 (h.perm.mem_iff.2 (List.mem_range.2 hlt)) with hmem | hmem
    · exact .inl hmem
    · obtain ⟨i, hi⟩ := List.mem_iff_getElem?.1 hmem
      rw [List.getElem?_drop] at hi
      have hlt' := (List.getElem?_eq_some_iff.1 hi).1
      have hlen := h.length
      have hturn := h.turn
      cases h.places (s.consumed + i) (Nat.le_add_right _ _) (by omega) with
      | free _ hge => omega
      | claimed thread idx' _ hlog hf =>
        rw [hi] at hlog
        cases hlog
        exact .inr (.inr ⟨thread, _, hf⟩)
      | stored idx' hs hlog =>
        rw [hi] at hlog
        cases hlog
        have hpos : 0 < s.freeCapacity := by omega
        refine .inr (.inl ⟨(h.lt_sentinel (Nat.le_add_right _ _) hi).2.1, slotOf s.freeCapacity (s.consumed + i), ?_, hs⟩)
        rcases h.cyclic with h0 | ⟨-, hmod⟩
        · omega
        · rw [hmod]
          exact Nat.mod_lt _ hpos
  · rintro (hmem | hl | hf)
    · exact List.mem_range.1 (h.perm.mem_iff.1 (List.mem_append_left _ hmem))
    · exact (hlisted hl).1
    · exact (hfree hf).1
  · exact (hlisted hl).2 hidx
  · exact (hfree hf).2 hidx

/-- An allocator that finds the list empty finds every index in a hand. -/
theorem exhausted (h : PoolInv capacity s log) {tail : Nat} (hpc : s.alloc = .loaded tail) (hempty : tail ≥ s.freeHead)
    {idx : Nat} (hidx : idx < capacity) : idx ∈ s.hands := by
  have halloc := h.alloc
  rw [hpc] at halloc
  have htail : tail = s.freeTail := halloc
  have hconsumed : s.consumed = s.freeTail := by rw [FreeList.consumed, hpc]
  have hhead := h.head
  have hdrop : log.drop s.consumed = [] := List.drop_eq_nil_of_le (by omega)
  have hmem := h.perm.mem_iff.2 (List.mem_range.2 hidx)
  rwa [hdrop, List.append_nil] at hmem

/-! ## Every step -/

theorem setAlloc (h : PoolInv capacity s log) {pc : Alloc}
    (hsame : { s with alloc := pc }.consumed = s.consumed ∧ { s with alloc := pc }.hands = s.hands)
    (halloc : AllocKnows s pc) : PoolInv capacity { s with alloc := pc } log where
  cyclic := h.cyclic
  turn := h.turn
  small := h.small
  head := h.head
  lt := h.lt
  le := hsame.1.trans_le h.le
  perm := by rw [hsame.1, hsame.2]; exact h.perm
  places q hq hlt := by
    rw [hsame.1] at hq hlt
    exact (h.places q hq hlt).mono rfl rfl fun _ _ hf => hf
  freeing thread idx head hf := by rw [hsame.1]; exact h.freeing thread idx head hf
  alone := h.alone
  alloc := halloc

theorem take (h : PoolInv capacity s log) {tail idx : Nat} (hpc : s.alloc = .spinning tail)
    (hlist : s.freeList (slotOf s.freeCapacity tail) = idx) (hlog : log[tail]? = some idx) :
    PoolInv capacity { s with
      freeList := Function.update s.freeList (slotOf s.freeCapacity tail) sentinel
      alloc := .taken idx tail } log := by
  have halloc := h.alloc
  rw [hpc] at halloc
  obtain ⟨rfl, hlt⟩ : tail = s.freeTail ∧ tail < s.freeHead := halloc
  have hconsumed : s.consumed = s.freeTail := by rw [FreeList.consumed, hpc]
  have hhands : s.hands = s.held := by rw [FreeList.hands, hpc]
  have hlen := h.length
  have hturn := h.turn
  have hhead := h.head
  obtain ⟨hlt', hget⟩ := List.getElem?_eq_some_iff.1 hlog
  have hne {q : Nat} (hq : s.freeTail < q) (hqlt : q < s.freeTail + s.freeCapacity) :
      slotOf s.freeCapacity q ≠ slotOf s.freeCapacity s.freeTail := h.cyclic.slotOf_ne (by omega) (by omega) (by omega)
  refine ⟨h.cyclic, h.turn, h.small, h.head, h.lt, hlt', ?_, fun q hq hqlt => ?_,
    fun thread idx' head hf => ?_, h.alone, rfl⟩
  · have hperm := h.perm
    rw [hconsumed, hhands, List.drop_eq_getElem_cons hlt', hget] at hperm
    exact List.perm_middle.symm.trans hperm
  · change s.freeTail + 1 ≤ q at hq
    change q < s.freeTail + 1 + s.freeCapacity at hqlt
    rcases Nat.lt_or_ge q (s.freeTail + s.freeCapacity) with hq' | hq'
    · exact (h.places q (by omega) (by omega)).mono rfl (Function.update_of_ne (hne hq hq') _ _) fun _ _ hf => hf
    · obtain rfl : q = s.freeTail + s.freeCapacity := by omega
      refine .free ?_ (by omega)
      rcases h.cyclic with h0 | ⟨-, hmod⟩
      · omega
      · show Function.update s.freeList (slotOf s.freeCapacity s.freeTail) _ (slotOf s.freeCapacity _) = sentinel
        rw [hmod, hmod, Nat.add_mod_right, Function.update_self]
  · obtain ⟨hle, hlog', hs⟩ := h.freeing thread idx' head hf
    have hlt'' := (List.getElem?_eq_some_iff.1 hlog').1
    have hhead' : head ≠ s.freeTail := by
      rintro rfl
      exact (h.lt_sentinel hconsumed.le hlog).2.1 (hlist ▸ hs)
    refine ⟨show s.freeTail + 1 ≤ head by omega, hlog', ?_⟩
    exact (Function.update_of_ne (hne (by omega) (by omega)) _ _).trans hs

theorem returned (h : PoolInv capacity s log) {tail idx : Nat} (hpc : s.alloc = .taken idx tail) :
    PoolInv capacity { s with freeTail := wrappingAdd tail 1, alloc := .idle, held := idx :: s.held } log := by
  have halloc := h.alloc
  rw [hpc] at halloc
  have htail : tail = s.freeTail := halloc
  have hconsumed : s.consumed = s.freeTail + 1 := by rw [FreeList.consumed, hpc]
  have hhands : s.hands = idx :: s.held := by rw [FreeList.hands, hpc]
  have hle := h.le
  have hlt := h.lt
  have hnext : wrappingAdd tail 1 = s.consumed := (wrappingAdd_of_lt (by omega)).trans (by omega)
  refine ⟨h.cyclic, h.turn, h.small, h.head, h.lt, hnext.trans_le h.le, ?_, fun q hq hqlt => ?_,
    fun thread idx' head hf => ?_, h.alone, trivial⟩
  · show (idx :: s.held ++ log.drop (wrappingAdd tail 1)).Perm _
    rw [hnext, ← hhands]
    exact h.perm
  · exact (h.places q (hnext.ge.trans hq) (hqlt.trans_eq (congrArg (· + s.freeCapacity) hnext))).mono rfl rfl
      fun _ _ hf => hf
  · obtain ⟨hle, hrest⟩ := h.freeing thread idx' head hf
    exact ⟨hnext.trans_le hle, hrest⟩

theorem allocStep (h : PoolInv capacity s log) : PoolInv capacity s.allocStep.1 log := by
  have halloc := h.alloc
  cases hpc : s.alloc with
  | idle =>
    simp only [FreeList.allocStep, hpc]
    exact h
  | loaded tail =>
    rw [hpc] at halloc
    simp only [FreeList.allocStep, hpc]
    split_ifs with hempty
    · exact h.setAlloc (by simp [FreeList.consumed, FreeList.hands, hpc]) trivial
    · exact h.setAlloc (by simp [FreeList.consumed, FreeList.hands, hpc]) ⟨halloc, Nat.lt_of_not_le hempty⟩
  | spinning tail =>
    rw [hpc] at halloc
    obtain ⟨htail, hlt⟩ := halloc
    have hconsumed : s.consumed = s.freeTail := by rw [FreeList.consumed, hpc]
    have hhead := h.head
    have hlen := h.length
    have hturn := h.turn
    simp only [FreeList.allocStep, hpc]
    cases h.places tail (by omega) (by omega) with
    | free _ hge => omega
    | claimed thread idx hs hlog hf =>
      rw [if_neg (not_not.2 hs), ← hs, Function.update_eq_self]
      exact h.setAlloc (by simp [FreeList.consumed, FreeList.hands, hpc]) ⟨htail, hlt⟩
    | stored idx hs hlog =>
      rw [if_pos (hs ▸ (h.lt_sentinel (by omega) hlog).2.1), hs]
      exact h.take hpc hs hlog
  | taken idx tail =>
    simp only [FreeList.allocStep, hpc]
    exact h.returned hpc

theorem hands_claim (thread : Nat) {idx : Nat} (hheld : idx ∈ s.held) :
    s.hands.Perm (idx :: (s.claim thread idx).hands) := by
  have herase := List.perm_cons_erase hheld
  unfold FreeList.hands FreeList.claim
  dsimp only
  split
  · exact (herase.cons _).trans (List.Perm.swap _ _ _)
  · exact herase

theorem freeing_claim {thread idx t i q : Nat} (hf : (s.claim thread idx).freeing t = some (i, q)) :
    t = thread ∧ i = idx ∧ q = s.freeHead ∨ s.freeing t = some (i, q) := by
  change Function.update s.freeing thread (some (idx, s.freeHead)) t = _ at hf
  by_cases ht : t = thread
  · rw [ht, Function.update_self] at hf
    cases hf
    exact .inl ⟨ht, rfl, rfl⟩
  · rw [Function.update_of_ne ht] at hf
    exact .inr hf

theorem claim (h : PoolInv capacity s log) {thread idx : Nat} (hnone : s.freeing thread = none) (hheld : idx ∈ s.held)
    (hwrap : s.freeHead + 1 < 2 ^ 64) :
    PoolInv capacity (s.claim thread idx) (log ++ [idx]) := by
  have hhead := h.head
  have hle := h.le
  have hlen := h.length
  have hturn := h.turn
  have hnext : wrappingAdd s.freeHead 1 = log.length + 1 := (wrappingAdd_of_lt hwrap).trans (by omega)
  have hlog {q idx' : Nat} (hx : log[q]? = some idx') : (log ++ [idx])[q]? = some idx' := by
    rw [List.getElem?_append_left (List.getElem?_eq_some_iff.1 hx).1, hx]
  have hlast : (log ++ [idx])[s.freeHead]? = some idx := by rw [hhead, List.getElem?_concat_length]
  have hhands := hands_claim thread hheld
  have hpos : s.freeHead < s.consumed + capacity := by
    have := hhands.length_eq
    rw [List.length_cons] at this
    omega
  have hold {thread' idx' head : Nat} (hf : s.freeing thread' = some (idx', head)) :
      thread' ≠ thread ∧ head < s.freeHead := by
    refine ⟨?_, hhead ▸ (List.getElem?_eq_some_iff.1 (h.freeing _ _ _ hf).2.1).1⟩
    rintro rfl
    rw [hnone] at hf
    cases hf
  have hempty : s.freeList (slotOf s.freeCapacity s.freeHead) = sentinel := by
    cases h.places s.freeHead (by omega) (by omega) with
    | free hs | claimed _ _ hs => exact hs
    | stored _ _ hx => exact absurd (List.getElem?_eq_some_iff.1 hx).1 (by omega)
  refine ⟨h.cyclic, h.turn, h.small, ?_, ?_, ?_, ?_, fun q hq hqlt => ?_, fun thread' idx' head hf => ?_,
    fun t t' i i' head hf hf' => ?_, ?_⟩
  · rw [List.length_append]
    exact hnext
  · rw [List.length_append, List.length_singleton]
    omega
  · rw [List.length_append]
    exact Nat.le_trans hle (Nat.le_add_right _ _)
  · show (_ ++ (log ++ [idx]).drop s.consumed).Perm _
    rw [List.drop_append_of_le_length hle, ← List.append_assoc]
    refine ((List.perm_append_singleton idx _).trans ?_).trans h.perm
    exact (hhands.append_right _).symm
  · change s.consumed ≤ q at hq
    change q < s.consumed + s.freeCapacity at hqlt
    rcases Nat.lt_trichotomy q s.freeHead with hqh | rfl | hqh
    · cases h.places q hq hqlt with
      | free _ hge => omega
      | claimed thread' idx' hs hx hf =>
        exact .claimed thread' idx' hs (hlog hx) ((Function.update_of_ne (hold hf).1 _ _).trans hf)
      | stored idx' hs hx => exact .stored idx' hs (hlog hx)
    · exact .claimed thread idx hempty hlast (Function.update_self _ _ _)
    · cases h.places q hq hqlt with
      | free hs hge => exact .free hs (by rw [List.length_append, List.length_singleton]; omega)
      | claimed _ _ _ hx | stored _ _ hx => exact absurd (List.getElem?_eq_some_iff.1 hx).1 (by omega)
  · rcases freeing_claim hf with ⟨-, rfl, rfl⟩ | hf
    · exact ⟨show s.consumed ≤ s.freeHead by omega, hlast, hempty⟩
    · obtain ⟨hle', hx, hs⟩ := h.freeing _ _ _ hf
      exact ⟨hle', hlog hx, hs⟩
  · rcases freeing_claim hf with ⟨ht, -, hq⟩ | hf <;> rcases freeing_claim hf' with ⟨ht', -, hq'⟩ | hf'
    · rw [ht, ht']
    · exact absurd (hold hf').2 (by omega)
    · exact absurd (hold hf).2 (by omega)
    · exact h.alone t t' i i' head hf hf'
  · exact h.alloc.mono (show s.freeHead ≤ wrappingAdd s.freeHead 1 by omega) rfl

theorem store (h : PoolInv capacity s log) {thread idx head : Nat} (hf : s.freeing thread = some (idx, head)) :
    PoolInv capacity { s with
      freeList := Function.update s.freeList (slotOf s.freeCapacity head) idx
      freeing := Function.update s.freeing thread none } log := by
  obtain ⟨hle, hlog, hs⟩ := h.freeing _ _ _ hf
  have hlt := (List.getElem?_eq_some_iff.1 hlog).1
  have hlen := h.length
  have hturn := h.turn
  have hne {q : Nat} (hq : s.consumed ≤ q) (hqlt : q < s.consumed + s.freeCapacity) (hqh : q ≠ head) :
      slotOf s.freeCapacity q ≠ slotOf s.freeCapacity head := h.cyclic.slotOf_ne hqh (by omega) (by omega)
  have hold {thread' idx' head' : Nat} (hf' : Function.update s.freeing thread none thread' = some (idx', head')) :
      s.freeing thread' = some (idx', head') ∧ head' ≠ head := by
    by_cases ht : thread' = thread
    · rw [ht, Function.update_self] at hf'
      cases hf'
    · rw [Function.update_of_ne ht] at hf'
      refine ⟨hf', ?_⟩
      rintro rfl
      exact ht (h.alone _ _ _ _ _ hf hf')
  refine ⟨h.cyclic, h.turn, h.small, h.head, h.lt, h.le, h.perm, fun q hq hqlt => ?_, fun thread' idx' head' hf' => ?_,
    fun t t' i i' head' ht ht' => h.alone t t' i i' head' (hold ht).1 (hold ht').1, h.alloc⟩
  · by_cases hqh : q = head
    · subst hqh
      exact .stored idx (Function.update_self _ _ _) hlog
    · refine (h.places q hq hqlt).mono rfl (Function.update_of_ne (hne hq hqlt hqh) _ _) fun thread' idx' hf' => ?_
      refine (Function.update_of_ne ?_ _ _).trans hf'
      rintro rfl
      rw [hf] at hf'
      cases hf'
      exact hqh rfl
  · obtain ⟨hf'', hne'⟩ := hold hf'
    obtain ⟨hle', hx, hs'⟩ := h.freeing _ _ _ hf''
    have hlt' := (List.getElem?_eq_some_iff.1 hx).1
    exact ⟨hle', hx, (Function.update_of_ne (hne hle' (by omega) hne') _ _).trans hs'⟩

theorem step (h : PoolInv capacity s log) {e : PoolEvent} (hfair : s.Fair e) :
    ∃ log', PoolInv capacity (s.step e).1 log' := by
  cases e with
  | alloc =>
    rw [FreeList.step]
    split
    · next hpc => exact ⟨log, h.setAlloc (by simp [FreeList.consumed, FreeList.hands, hpc]) rfl⟩
    · exact ⟨log, h⟩
  | allocStep => exact ⟨log, h.allocStep⟩
  | free thread idx =>
    rw [FreeList.step]
    split
    · next hnone => exact ⟨log ++ [idx], h.claim hnone hfair.1 hfair.2⟩
    · exact ⟨log, h⟩
  | freeStep thread =>
    rw [FreeList.step]
    split
    · exact ⟨log, h⟩
    · next idx head hf => exact ⟨log, h.store hf⟩

end PoolInv

theorem nextPowerOfTwo_le {n j : Nat} (hn : n ≠ 0) (h : n ≤ 2 ^ j) : nextPowerOfTwo n ≤ 2 ^ j := by
  rw [nextPowerOfTwo]
  split_ifs with hpow
  · exact h
  · refine Nat.pow_le_pow_right (by decide) ((Nat.pow_lt_pow_iff_right (by decide : 1 < 2)).1 ?_)
    exact (Nat.lt_of_le_of_ne (Nat.log2_self_le hn) hpow).trans_le h

theorem ringCapacity_eq {requested : Nat} (h : requested ≤ 2 ^ 31) : ∃ k ≤ 31, ringCapacity requested = 2 ^ k := by
  obtain ⟨k, hk⟩ := nextPowerOfTwo_eq_pow (max requested 2)
  have hle : 2 ^ k ≤ 2 ^ 31 := hk ▸ nextPowerOfTwo_le (by omega) (by omega)
  have hk' : k ≤ 31 := (Nat.pow_le_pow_iff_right (by decide : 1 < 2)).1 hle
  refine ⟨k, hk', ?_⟩
  rw [ringCapacity, usizeNextPowerOfTwo, hk]
  exact Nat.mod_eq_of_lt (Nat.pow_lt_pow_right (by decide) (by omega))

theorem poolInv_new {requested : Nat} (h : requested ≤ 2 ^ 31) :
    PoolInv (ringCapacity requested) (.new (ringCapacity requested)) (List.range (ringCapacity requested)) := by
  obtain ⟨k, hk, hcap⟩ := ringCapacity_eq h
  rw [hcap]
  have hlt : 2 ^ (k + 1) < 2 ^ 64 := Nat.pow_lt_pow_right (by decide) (by omega)
  have hsmall : 2 ^ k ≤ 2 ^ 31 := Nat.pow_le_pow_right (by decide) hk
  have hfree : (FreeList.new (2 ^ k)).freeCapacity = 2 ^ (k + 1) := by
    have hpow : 2 ^ k * 2 = 2 ^ (k + 1) := rfl
    have hnext : nextPowerOfTwo (2 ^ (k + 1)) = 2 ^ (k + 1) := by rw [nextPowerOfTwo, Nat.log2_two_pow, if_pos rfl]
    show usizeNextPowerOfTwo (max (2 ^ k * 2 % 2 ^ 64) 1) = 2 ^ (k + 1)
    rw [hpow, Nat.mod_eq_of_lt hlt, Nat.max_eq_left (Nat.two_pow_pos _), usizeNextPowerOfTwo, hnext, Nat.mod_eq_of_lt hlt]
  have hslot := slotOf_two_pow (k := k + 1) (by omega)
  have hpos := Nat.two_pow_pos k
  refine ⟨?_, ?_, hsmall, List.length_range.symm, ?_, Nat.zero_le _, .refl _, fun q _ hq => ?_, ?_, ?_, trivial⟩
  · rw [hfree]
    exact .inr ⟨by rw [Nat.pow_succ]; omega, hslot⟩
  · rw [hfree, Nat.pow_succ, Nat.mul_comm]
  · rw [List.length_range]
    omega
  · have hqlt : q < 2 ^ (k + 1) := by
      rw [hfree] at hq
      exact hq.trans_eq (Nat.zero_add _)
    have hlist : (FreeList.new (2 ^ k)).freeList (slotOf (FreeList.new (2 ^ k)).freeCapacity q) =
        if q < 2 ^ k then q % 2 ^ 32 else sentinel := by
      rw [hfree, hslot, Nat.mod_eq_of_lt hqlt]
      rfl
    by_cases hq' : q < 2 ^ k
    · refine .stored q ?_ (List.getElem?_range hq')
      rw [hlist, if_pos hq', Nat.mod_eq_of_lt (by omega)]
    · exact .free (by rw [hlist, if_neg hq']) (by rw [List.length_range]; omega)
  · intro _ _ _ hf
    cases hf
  · intro _ _ _ _ _ hf
    cases hf

/-- **The pool conserves its indices.** As long as threads free only what is held and `free_head` does not wrap: no
index is held twice, those held, being freed and in the list are those below the capacity, no `free` stores into a full
place, and `alloc` returns `None` only if every index is held. -/
theorem free_list_conserved (requested : Nat) (hcap : requested ≤ 2 ^ 31) (es : List PoolEvent)
    (hfair : Along FreeList.Fair FreeList.step (.new (ringCapacity requested)) es) :
    (run FreeList.step (.new (ringCapacity requested)) es).1.Conserved (ringCapacity requested) ∧
      Along (fun s e => .exhausted ∈ (s.step e).2 → ∀ idx < ringCapacity requested, idx ∈ s.hands) FreeList.step
        (.new (ringCapacity requested)) es := by
  have hstep (s : FreeList) (e : PoolEvent) (he : s.Fair e) :
      (∃ log, PoolInv (ringCapacity requested) s log) → ∃ log, PoolInv (ringCapacity requested) (s.step e).1 log :=
    fun ⟨_, h⟩ => h.step he
  constructor
  · obtain ⟨log, h⟩ := run_invariant (I := fun s _ => ∃ log, PoolInv (ringCapacity requested) s log)
      (fun s _ e he h => hstep s e he h) es _ [] hfair ⟨_, poolInv_new hcap⟩
    exact h.conserved
  · refine hfair.of_invariant hstep (fun s e _ => ?_) ⟨_, poolInv_new hcap⟩
    rintro ⟨log, h⟩ hnone idx hidx
    cases e with
    | alloc | free | freeStep =>
      rw [FreeList.step] at hnone
      split at hnone <;> cases hnone
    | allocStep =>
      change _ ∈ s.allocStep.2 at hnone
      unfold FreeList.allocStep at hnone
      split at hnone
      · cases hnone
      · next tail hpc =>
        split_ifs at hnone with hempty
        · exact h.exhausted hpc hempty hidx
        · cases hnone
      · dsimp only at hnone
        split_ifs at hnone <;> cases hnone
      · simp at hnone

theorem free_list_conserved_two :
    (run FreeList.step (.new (ringCapacity 2)) [.alloc, .allocStep, .allocStep, .allocStep, .free 5 0]).1.Conserved 2 :=
  (free_list_conserved 2 (by decide) [.alloc, .allocStep, .allocStep, .allocStep, .free 5 0]
    ⟨trivial, trivial, trivial, trivial, ⟨by decide, by decide⟩, trivial⟩).1

/-- In a pool of `2^32` frames the last index is the sentinel: it is not in the list, and nobody holds it. -/
theorem free_list_loses_last : ¬(FreeList.new (ringCapacity (2 ^ 32))).Conserved (ringCapacity (2 ^ 32)) := by
  have hcap : ringCapacity (2 ^ 32) = 2 ^ 32 := by decide
  rw [hcap]
  intro h
  rcases (h.all sentinel).1 (by decide) with hheld | ⟨hne, -⟩ | ⟨_, _, hf⟩
  · cases hheld
  · exact hne rfl
  · cases hf

end DpdkStdlib.Rings
