import Mathlib.Data.List.Rotate

/-!
# Bounded queues, and circular buffers

* `Fifo` : a queue of bounded length, with its `calls`;
* `copy` : a bounds-checked copy of a piece of memory into another;
* `copyIn`, `copyOut` : copies into and out of a circular buffer, in two pieces where they run past its end.  Seen from
  the place where they start (`List.rotate`), both are plain (`copyIn_spec`, `copyOut_spec`);
* `take_rotate_copyIn` : a copy behind what a circular buffer holds leaves that in place.
-/

namespace DpdkStdlib.Lib

variable {α : Type*}

/-! ## Queues -/

/-- A queue that holds at most `capacity` items, oldest first. -/
structure Fifo (α : Type*) where
  capacity : Nat
  items : List α
  fits : items.length ≤ capacity

namespace Fifo

/-- A call on a queue; `read` and `peek` name the buffer that they fill. -/
inductive Call (α : Type*)
  | write (data : List α)
  | read (dst : List α)
  | peek (dst : List α)
  | availableRead
  | availableWrite

inductive Answer (α : Type*)
  | count (n : Nat)
  /-- How many items were copied, and the buffer after that. -/
  | filled (n : Nat) (dst : List α)

def availableRead (q : Fifo α) : Nat := q.items.length

def availableWrite (q : Fifo α) : Nat := q.capacity - q.items.length

/-- The queue with what fits of the items behind the others. -/
def push (q : Fifo α) (data : List α) : Fifo α where
  capacity := q.capacity
  items := q.items ++ data.take (min data.length q.availableWrite)
  fits := by
    have := q.fits
    simp only [List.length_append, List.length_take, availableWrite]
    omega

/-- The queue without its `n` oldest items, or as many as there are. -/
def pop (q : Fifo α) (n : Nat) : Fifo α where
  capacity := q.capacity
  items := q.items.drop (min n q.availableRead)
  fits := by
    have := q.fits
    rw [List.length_drop]
    omega

/-- The oldest items at the front of a buffer, as many as it takes. -/
def fill (q : Fifo α) (dst : List α) : List α :=
  q.items.take (min dst.length q.availableRead) ++ dst.drop (min dst.length q.availableRead)

def call (q : Fifo α) : Call α → Fifo α × Answer α
  | .write data => (q.push data, .count (min data.length q.availableWrite))
  | .read dst => (q.pop dst.length, .filled (min dst.length q.availableRead) (q.fill dst))
  | .peek dst => (q, .filled (min dst.length q.availableRead) (q.fill dst))
  | .availableRead => (q, .count q.availableRead)
  | .availableWrite => (q, .count q.availableWrite)

def calls (q : Fifo α) : List (Call α) → Fifo α × List (Answer α)
  | [] => (q, [])
  | c :: cs => (((q.call c).1.calls cs).1, (q.call c).2 :: ((q.call c).1.calls cs).2)

@[ext] theorem ext {q q' : Fifo α} (hcapacity : q.capacity = q'.capacity) (hitems : q.items = q'.items) : q = q' := by
  cases q
  cases q'
  cases hcapacity
  cases hitems
  rfl

theorem available (q : Fifo α) : q.availableRead + q.availableWrite = q.capacity := Nat.add_sub_of_le q.fits

end Fifo

/-! ## Copies -/

/-- Copy `n` items from an offset of `src` to an offset of `dst`; `none` is an access out of bounds. -/
def copy (src : List α) (srcOffset : Nat) (dst : List α) (dstOffset n : Nat) : Option (List α) :=
  if srcOffset + n ≤ src.length ∧ dstOffset + n ≤ dst.length then
    some (dst.take dstOffset ++ (src.drop srcOffset).take n ++ dst.drop (dstOffset + n))
  else none

/-- Copy `n` items to a circular buffer, from `start` on. -/
def copyIn (capacity : Nat) (src buf : List α) (start n : Nat) : Option (List α) := do
  let firstChunk := min n (capacity - start)
  let buf ← copy src 0 buf start firstChunk
  if firstChunk < n then copy src firstChunk buf 0 (n - firstChunk) else some buf

/-- Copy `n` items of a circular buffer, from `start` on. -/
def copyOut (capacity : Nat) (buf : List α) (start : Nat) (dst : List α) (n : Nat) : Option (List α) := do
  let firstChunk := min n (capacity - start)
  let dst ← copy buf start dst 0 firstChunk
  if firstChunk < n then copy buf 0 dst firstChunk (n - firstChunk) else some dst

variable {src buf dst : List α} {start n : Nat}

theorem copy_eq {srcOffset dstOffset : Nat} (hsrc : srcOffset + n ≤ src.length) (hdst : dstOffset + n ≤ dst.length) :
    copy src srcOffset dst dstOffset n =
      some (dst.take dstOffset ++ (src.drop srcOffset).take n ++ dst.drop (dstOffset + n)) := if_pos ⟨hsrc, hdst⟩

/-- Items come out in the order that they have from `start` on. -/
theorem copyOut_spec (hstart : start < buf.length) (hn : n ≤ buf.length) (hdst : n ≤ dst.length) :
    copyOut buf.length buf start dst n = some ((buf.rotate start).take n ++ dst.drop n) := by
  obtain ⟨front, back, rfl, rfl⟩ : ∃ front back, buf = front ++ back ∧ start = front.length :=
    ⟨buf.take start, buf.drop start, (List.take_append_drop _ _).symm, (List.length_take_of_le hstart.le).symm⟩
  rw [List.length_append] at hstart hn
  rw [copyOut, List.rotate_append_length_eq, List.length_append, Nat.add_sub_cancel_left,
    copy_eq (by rw [List.length_append]; omega) (by omega), Option.bind_eq_bind, Option.bind_some]
  rcases Nat.le_total n back.length with hle | hle
  · rw [Nat.min_eq_left hle, if_neg (lt_irrefl n), List.take_append_of_le_length hle]
    simp
  · -- the rest comes from the front of the buffer
    rw [Nat.min_eq_right hle]
    split_ifs with hlt
    · obtain ⟨k, rfl⟩ := Nat.exists_eq_add_of_le hle
      have hk : k ≤ front.length := by omega
      rw [copy_eq (by rw [List.length_append]; omega) (by simp; omega)]
      simp [List.take_append, List.drop_append, Nat.sub_eq_zero_of_le hk, List.take_of_length_le hle,
        List.drop_eq_nil_of_le hle]
    · obtain rfl : n = back.length := by omega
      simp

/-- Seen from `start`, the items that went in come first and the rest is as it was. -/
theorem copyIn_spec (hstart : start < buf.length) (hn : n ≤ buf.length) (hsrc : n ≤ src.length) :
    ∃ buf', copyIn buf.length src buf start n = some buf' ∧ buf'.length = buf.length ∧
      buf'.rotate start = src.take n ++ (buf.rotate start).drop n := by
  obtain ⟨front, back, rfl, rfl⟩ : ∃ front back, buf = front ++ back ∧ start = front.length :=
    ⟨buf.take start, buf.drop start, (List.take_append_drop _ _).symm, (List.length_take_of_le hstart.le).symm⟩
  rw [List.length_append] at hstart hn
  rw [copyIn, List.rotate_append_length_eq, List.length_append, Nat.add_sub_cancel_left,
    copy_eq (by omega) (by rw [List.length_append]; omega), Option.bind_eq_bind, Option.bind_some]
  rcases Nat.le_total n back.length with hle | hle
  · rw [Nat.min_eq_left hle, if_neg (lt_irrefl n), List.drop_append_of_le_length hle]
    refine ⟨_, rfl, ?_, ?_⟩
    · simp
      omega
    · have hsplit : (front ++ back).take front.length ++ (src.drop 0).take n ++
          (front ++ back).drop (front.length + n) = front ++ (src.take n ++ back.drop n) := by
        simp [List.drop_append]
      rw [hsplit, List.rotate_append_length_eq, List.append_assoc]
  · rw [Nat.min_eq_right hle]
    split_ifs with hlt
    · obtain ⟨k, rfl⟩ := Nat.exists_eq_add_of_le hle
      have hk : k ≤ front.length := by omega
      have hsplit : ((src.drop back.length).take k ++ front.drop k).length = front.length := by simp; omega
      rw [copy_eq (by omega) (by simp; omega)]
      refine ⟨(src.drop back.length).take k ++ front.drop k ++ src.take back.length, ?_, ?_, ?_⟩
      · simp [List.drop_append, Nat.sub_eq_zero_of_le hk]
      · rw [List.length_append, hsplit, List.length_take_of_le (by omega)]
      · conv_lhs => rw [← hsplit, List.rotate_append_length_eq]
        simp [List.take_add, List.drop_append]
    · obtain rfl : n = back.length := by omega
      refine ⟨front ++ src.take back.length, by simp, by simp [hsrc], ?_⟩
      rw [List.rotate_append_length_eq, List.drop_append_of_le_length le_rfl, List.drop_length, List.nil_append]

/-- Items that went in behind the `held` items from `start` on are behind these, which stay. -/
theorem take_rotate_copyIn {data buf' : List α} {held : Nat} (hheld : held + data.length ≤ buf.length)
    (h : buf'.rotate (start + held) = data ++ (buf.rotate (start + held)).drop data.length) :
    (buf'.rotate start).take (held + data.length) = (buf.rotate start).take held ++ data := by
  obtain ⟨first, rest, hview, rfl⟩ : ∃ first rest, buf.rotate start = first ++ rest ∧ first.length = held :=
    ⟨_, _, (List.take_append_drop held _).symm, List.length_take_of_le (by rw [List.length_rotate]; omega)⟩
  have hlen : first.length + rest.length = buf.length := by rw [← List.length_append, ← hview, List.length_rotate]
  have hview' : buf'.rotate start = first ++ (data ++ rest.drop data.length) := by
    refine List.rotate_injective first.length ?_
    dsimp only
    rw [List.rotate_append_length_eq, List.rotate_rotate, h, ← List.rotate_rotate, hview, List.rotate_append_length_eq,
      List.drop_append_of_le_length (by omega), List.append_assoc]
  rw [hview, hview', List.take_left, ← List.append_assoc, ← List.length_append, List.take_left]

end DpdkStdlib.Lib
