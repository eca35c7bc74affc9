import Mathlib.Data.BitVec
import Mathlib.Data.List.Basic

/-!
# The byte ring between application and engine (`ring.rs`)

`SpscByteRing` keeps every byte ever written (`stream`) and how many of them were read (`tail`): the source's `head`
is `stream.length`, and the bytes between `tail` and `head` are what the buffer holds.  A ring that holds more than
its capacity, or that was read past its head, cannot be built.
-/

namespace DpdkStdlib.Tcp

def nextPowerOfTwo (n : Nat) : Nat := if 2 ^ n.log2 = n then n else 2 ^ (n.log2 + 1)

/-- A single-producer, single-consumer byte ring with its history. -/
structure SpscByteRing where
  capacity : Nat
  stream : List UInt8
  tail : Nat
  tail_le : tail ≤ stream.length
  fits : stream.length - tail ≤ capacity

namespace SpscByteRing

def new (capacity : Nat) : SpscByteRing where
  capacity := nextPowerOfTwo (max capacity 1)
  stream := []
  tail := 0
  tail_le := Nat.zero_le _
  fits := Nat.zero_le _

/-- The bytes written and not yet read. -/
def unread (r : SpscByteRing) : List UInt8 := r.stream.drop r.tail

def availableRead (r : SpscByteRing) : Nat := r.stream.length - r.tail

def availableWrite (r : SpscByteRing) : Nat := r.capacity - r.availableRead

def write (r : SpscByteRing) (data : List UInt8) : SpscByteRing × Nat :=
  let n := min data.length r.availableWrite
  ({ r with
      stream := r.stream ++ data.take n
      tail_le := by
        have := r.tail_le
        simp only [List.length_append]
        omega
      fits := by
        have := r.tail_le
        have := r.fits
        simp only [List.length_append, List.length_take, availableWrite, availableRead, n]
        omega }, n)

def read (r : SpscByteRing) (n : Nat) : SpscByteRing × List UInt8 :=
  let k := min n r.availableRead
  ({ r with
      tail := r.tail + k
      tail_le := by
        have := r.tail_le
        simp only [availableRead, k]
        omega
      fits := by
        have := r.fits
        omega }, r.unread.take k)

/-- The engine's drain loop: read chunks of `chunk` bytes onto `buf` until a read returns nothing. -/
def drainLoop (chunk : Nat) : Nat → SpscByteRing → List UInt8 → SpscByteRing × List UInt8
  | 0, r, buf => (r, buf)
  | fuel + 1, r, buf =>
    if (r.read chunk).2.length = 0 then (r, buf)
    else drainLoop chunk fuel (r.read chunk).1 (buf ++ (r.read chunk).2)

/-- `drainLoop` with a turn for every byte the ring can hold. -/
def drain (r : SpscByteRing) (buf : List UInt8) : SpscByteRing × List UInt8 :=
  drainLoop 4096 (r.availableRead + 1) r buf

@[simp] theorem length_unread (r : SpscByteRing) : r.unread.length = r.availableRead := by
  simp [unread, availableRead]

@[simp] theorem stream_write (r : SpscByteRing) (data : List UInt8) :
    (r.write data).1.stream = r.stream ++ data.take (r.write data).2 := rfl

@[simp] theorem tail_write (r : SpscByteRing) (data : List UInt8) : (r.write data).1.tail = r.tail := rfl

@[simp] theorem capacity_write (r : SpscByteRing) (data : List UInt8) : (r.write data).1.capacity = r.capacity := rfl

theorem write_le (r : SpscByteRing) (data : List UInt8) : (r.write data).2 ≤ data.length := Nat.min_le_left _ _

theorem length_stream_write (r : SpscByteRing) (data : List UInt8) :
    (r.write data).1.stream.length = r.stream.length + (r.write data).2 := by
  rw [stream_write, List.length_append, List.length_take, Nat.min_eq_left (write_le r data)]

theorem write_of_fits (r : SpscByteRing) (data : List UInt8) (h : data.length ≤ r.availableWrite) :
    (r.write data).2 = data.length := Nat.min_eq_left h

theorem availableWrite_write (r : SpscByteRing) (data : List UInt8) :
    (r.write data).1.availableWrite = r.availableWrite - (r.write data).2 := by
  have := r.tail_le
  simp only [availableWrite, availableRead, length_stream_write, capacity_write, tail_write]
  omega

@[simp] theorem stream_read (r : SpscByteRing) (n : Nat) : (r.read n).1.stream = r.stream := rfl

@[simp] theorem capacity_read (r : SpscByteRing) (n : Nat) : (r.read n).1.capacity = r.capacity := rfl

theorem unread_read (r : SpscByteRing) (n : Nat) : (r.read n).2 ++ (r.read n).1.unread = r.unread := by
  simp only [read, unread, ← List.drop_drop]
  exact List.take_append_drop _ _

theorem length_read (r : SpscByteRing) (n : Nat) : (r.read n).2.length = min n r.availableRead := by
  simp [read]

theorem drainLoop_spec (fuel : Nat) : ∀ (r : SpscByteRing) (buf : List UInt8), r.availableRead < fuel →
    (drainLoop 4096 fuel r buf).1.stream = r.stream ∧
      (drainLoop 4096 fuel r buf).1.capacity = r.capacity ∧
      (drainLoop 4096 fuel r buf).1.tail = r.stream.length ∧
      (drainLoop 4096 fuel r buf).2 = buf ++ r.unread := by
  induction fuel with
  | zero => intro r buf h; omega
  | succ fuel ih =>
    intro r buf h
    have hlen := length_read r 4096
    have htail := r.tail_le
    rw [drainLoop]
    split_ifs with hz
    · -- nothing was read, so nothing is left
      have h0 : r.availableRead = 0 := by omega
      have hnil : r.unread = [] := List.length_eq_zero_iff.1 (by rw [length_unread, h0])
      simp only [availableRead] at h0
      exact ⟨rfl, rfl, by show r.tail = r.stream.length; omega, by simp [hnil]⟩
    · have hr : (r.read 4096).1.availableRead < fuel := by
        have h1 : (r.read 4096).1.tail = r.tail + min 4096 r.availableRead := rfl
        simp only [availableRead, stream_read] at *
        omega
      obtain ⟨h1, h2, h3, h4⟩ := ih (r.read 4096).1 (buf ++ (r.read 4096).2) hr
      refine ⟨by rw [h1, stream_read], by rw [h2, capacity_read], by rw [h3, stream_read], ?_⟩
      rw [h4, List.append_assoc, unread_read]

theorem drain_eq (r : SpscByteRing) (buf : List UInt8) :
    (r.drain buf).1.stream = r.stream ∧ (r.drain buf).1.capacity = r.capacity ∧
      (r.drain buf).1.tail = r.stream.length ∧ (r.drain buf).2 = buf ++ r.unread :=
  drainLoop_spec _ r buf (Nat.lt_succ_self _)

theorem availableRead_drain (r : SpscByteRing) (buf : List UInt8) : (r.drain buf).1.availableRead = 0 := by
  obtain ⟨h1, -, h2, -⟩ := drain_eq r buf
  rw [availableRead, h1, h2, Nat.sub_self]

end SpscByteRing

end DpdkStdlib.Tcp
