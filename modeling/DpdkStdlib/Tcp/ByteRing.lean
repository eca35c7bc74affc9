import DpdkStdlib.Tcp.Ring
import DpdkStdlib.Lib.Fifo

/-!
# The ring as it is stored (`ring.rs`)

The source keeps `SpscByteRing` as a buffer of a power of two bytes with two free-running counters.  `ByteRing` has
these fields; its counters wrap at `2^64`, an index is a counter under a mask, and bytes are copied in two pieces where
they run past the end.  `none` is a copy out of bounds, or a buffer too large to allocate.
-/

namespace DpdkStdlib.Tcp
open DpdkStdlib.Lib

/-! ## The ring -/

def wrappingAdd (a b : Nat) : Nat := (a + b) % 2 ^ 64

def wrappingSub (a b : Nat) : Nat := (a + 2 ^ 64 - b) % 2 ^ 64

/-- `usize::next_power_of_two`: zero where the power is too large. -/
def usizeNextPowerOfTwo (n : Nat) : Nat := nextPowerOfTwo n % 2 ^ 64

/-- `SpscByteRing`: a buffer and two counters that wrap. -/
structure ByteRing where
  buf : List UInt8
  head : Nat
  tail : Nat
  capacity : Nat

namespace ByteRing

/-- `vec!` does not allocate more than `isize::MAX` bytes. -/
def new (capacity : Nat) : Option ByteRing :=
  let capacity := usizeNextPowerOfTwo (max capacity 1)
  if capacity < 2 ^ 63 then some { buf := List.replicate capacity 0, head := 0, tail := 0, capacity } else none

def availableRead (self : ByteRing) : Nat := wrappingSub self.head self.tail

def availableWrite (self : ByteRing) : Nat := wrappingSub self.capacity (wrappingSub self.head self.tail)

def isEmpty (self : ByteRing) : Bool := self.availableRead == 0

/-- `write`: two copies, the second one from the start of the buffer. -/
def write (self : ByteRing) (data : List UInt8) : Option (ByteRing × Nat) := do
  let free := wrappingSub self.capacity (wrappingSub self.head self.tail)
  let n := min data.length free
  if n = 0 then return (self, 0)
  let mask := self.capacity - 1
  let start := self.head &&& mask
  let buf ← copyIn self.capacity data self.buf start n
  return ({ self with buf, head := wrappingAdd self.head n }, n)

/-- What `read` and `peek` share: the buffer after the copy, and how many bytes were copied. -/
def peek (self : ByteRing) (dst : List UInt8) : Option (List UInt8 × Nat) := do
  let available := wrappingSub self.head self.tail
  let n := min dst.length available
  if n = 0 then return (dst, 0)
  let mask := self.capacity - 1
  let start := self.tail &&& mask
  let dst ← copyOut self.capacity self.buf start dst n
  return (dst, n)

/-- `read`: two copies, as for `write`. -/
def read (self : ByteRing) (dst : List UInt8) : Option (ByteRing × List UInt8 × Nat) := do
  let (dst, n) ← self.peek dst
  return ({ self with tail := wrappingAdd self.tail n }, dst, n)

def call (self : ByteRing) : Fifo.Call UInt8 → Option (ByteRing × Fifo.Answer UInt8)
  | .write data => (self.write data).map fun (r, n) => (r, .count n)
  | .read dst => (self.read dst).map fun (r, dst, n) => (r, .filled n dst)
  | .peek dst => (self.peek dst).map fun (dst, n) => (self, .filled n dst)
  | .availableRead => some (self, .count self.availableRead)
  | .availableWrite => some (self, .count self.availableWrite)

def calls (self : ByteRing) : List (Fifo.Call UInt8) → Option (ByteRing × List (Fifo.Answer UInt8))
  | [] => some (self, [])
  | c :: cs => do
    let (r, answer) ← self.call c
    let (r, answers) ← r.calls cs
    return (r, answer :: answers)

/-! ## What it stands for -/

/-- The counters are `usize`, and the capacity is a power of two below `2^64`, or zero. -/
structure Wf (r : ByteRing) : Prop where
  length : r.buf.length = r.capacity
  pow : r.capacity = 0 ∨ ∃ k ≤ 62, r.capacity = 2 ^ k
  head : r.head < 2 ^ 64
  tail : r.tail < 2 ^ 64
  fits : r.availableRead ≤ r.capacity

/-- The bytes from the reading counter on; `take capacity` takes them all. -/
def toFifo (self : ByteRing) : Fifo UInt8 where
  capacity := self.capacity
  items := ((self.buf.rotate self.tail).take self.availableRead).take self.capacity
  fits := List.length_take_le _ _

variable {r : ByteRing}

theorem Wf.capacity_lt (h : r.Wf) : r.capacity < 2 ^ 63 := by
  rcases h.pow with h0 | ⟨k, hk, hpow⟩
  · omega
  · rw [hpow]
    exact Nat.pow_lt_pow_right (by decide) (by omega)

theorem Wf.items (h : r.Wf) : r.toFifo.items = (r.buf.rotate r.tail).take r.availableRead := by
  show List.take _ (List.take _ _) = _
  rw [List.take_take, Nat.min_eq_right h.fits]

theorem Wf.length_items (h : r.Wf) : r.toFifo.items.length = r.availableRead := by
  rw [h.items, List.length_take_of_le (by rw [List.length_rotate, h.length]; exact h.fits)]

theorem Wf.availableWrite_eq (h : r.Wf) : r.availableWrite = r.toFifo.availableWrite := by
  have hlt := h.capacity_lt
  have hfits := h.fits
  rw [Fifo.availableWrite, h.length_items]
  show (r.capacity + 2 ^ 64 - r.availableRead) % 2 ^ 64 = r.capacity - r.availableRead
  omega

theorem Wf.index (h : r.Wf) (hpos : 0 < r.capacity) (x : Nat) :
    x &&& (r.capacity - 1) = x % r.buf.length ∧ r.buf.length ∣ 2 ^ 64 := by
  rcases h.pow with h0 | ⟨k, hk, hpow⟩
  · omega
  · rw [h.length, hpow]
    exact ⟨Nat.and_two_pow_sub_one_eq_mod _ _, Nat.pow_dvd_pow 2 (by omega)⟩

theorem add_wrappingSub {head tail : Nat} (hhead : head < 2 ^ 64) (htail : tail < 2 ^ 64) :
    (tail + wrappingSub head tail) % 2 ^ 64 = head := by
  rw [wrappingSub]
  omega

theorem rotate_wrap {l : List UInt8} (hdvd : l.length ∣ 2 ^ 64) (x : Nat) : l.rotate (x % 2 ^ 64) = l.rotate x := by
  rw [← List.rotate_mod, Nat.mod_mod_of_dvd _ hdvd, List.rotate_mod]

theorem Wf.rotate_head (h : r.Wf) {l : List UInt8} (hdvd : l.length ∣ 2 ^ 64) :
    l.rotate r.head = l.rotate (r.tail + r.availableRead) := by
  rw [← rotate_wrap hdvd (r.tail + r.availableRead), availableRead, add_wrappingSub h.head h.tail]

/-! ## Writing -/

theorem availableRead_write (h : r.Wf) {n : Nat} (hn : r.availableRead + n < 2 ^ 64) (buf : List UInt8) :
    ({ r with buf, head := wrappingAdd r.head n } : ByteRing).availableRead = r.availableRead + n := by
  have hhead := h.head
  have htail := h.tail
  simp only [availableRead, wrappingSub, wrappingAdd] at hn ⊢
  omega

/-- `write` appends to the queue. -/
theorem write_refines (h : r.Wf) (data : List UInt8) : ∃ r', r'.Wf ∧ r'.toFifo = r.toFifo.push data ∧
    r.write data = some (r', min data.length r.toFifo.availableWrite) := by
  have hlt := h.capacity_lt
  have hfits := h.fits
  have hfree := h.availableWrite_eq
  rw [availableWrite] at hfree
  have hroom : r.availableRead + r.toFifo.availableWrite = r.capacity := by
    have := r.toFifo.available
    rwa [Fifo.availableRead, h.length_items] at this
  unfold write
  dsimp only
  rw [hfree]
  split_ifs with hzero
  · refine ⟨r, h, Fifo.ext rfl ?_, by rw [hzero]; rfl⟩
    show r.toFifo.items = r.toFifo.items ++ data.take (min data.length r.toFifo.availableWrite)
    rw [hzero, List.take_zero, List.append_nil]
  · have hpos : 0 < r.capacity := by omega
    obtain ⟨hindex, hdvd⟩ := h.index hpos r.head
    have hlen := h.length
    generalize hn : min data.length r.toFifo.availableWrite = n at *
    obtain ⟨buf, hcopy, hlen', hview⟩ := copyIn_spec (Nat.mod_lt r.head (by omega : 0 < r.buf.length))
      (by omega : n ≤ r.buf.length) (by omega : n ≤ data.length)
    have hread := availableRead_write h (n := n) (by omega) buf
    have hwf : ({ r with buf, head := wrappingAdd r.head n } : ByteRing).Wf :=
      ⟨hlen'.trans hlen, h.pow, Nat.mod_lt _ (by decide), h.tail, by rw [hread]; show _ ≤ r.capacity; omega⟩
    refine ⟨_, hwf, Fifo.ext rfl ?_, by rw [hindex, ← hlen, hcopy]; rfl⟩
    -- the new bytes are behind the held ones, seen from the reading counter
    have hdata : (data.take n).length = n := List.length_take_of_le (by omega)
    have hview : buf.rotate (r.tail + r.availableRead) =
        data.take n ++ (r.buf.rotate (r.tail + r.availableRead)).drop (data.take n).length := by
      rw [← h.rotate_head (hlen' ▸ hdvd), ← h.rotate_head hdvd, hdata, ← List.rotate_mod, hlen', hview, List.rotate_mod]
    have hitems := take_rotate_copyIn (by omega) hview
    rw [hdata] at hitems
    rw [hwf.items, hread]
    show (buf.rotate r.tail).take _ = r.toFifo.items ++ data.take (min data.length r.toFifo.availableWrite)
    rw [hitems, h.items, hn]

/-! ## Reading -/

theorem peek_refines (h : r.Wf) (dst : List UInt8) :
    r.peek dst = some (r.toFifo.fill dst, min dst.length r.toFifo.availableRead) := by
  have hread : r.toFifo.availableRead = r.availableRead := h.length_items
  have hlen := h.length
  have hfits := h.fits
  unfold peek
  dsimp only
  rw [Fifo.fill, hread, h.items, List.take_take, Nat.min_eq_left (Nat.min_le_right _ _), ← availableRead]
  split_ifs with hzero
  · rw [hzero]
    rfl
  · obtain ⟨hindex, hdvd⟩ := h.index (by omega) r.tail
    rw [hindex, ← hlen, copyOut_spec (Nat.mod_lt _ (by omega)) (by omega) (by omega), List.rotate_mod]
    rfl

theorem availableRead_read (h : r.Wf) {n : Nat} (hn : n ≤ r.availableRead) :
    ({ r with tail := wrappingAdd r.tail n } : ByteRing).availableRead = r.availableRead - n := by
  have hhead := h.head
  have htail := h.tail
  simp only [availableRead, wrappingSub, wrappingAdd] at hn ⊢
  omega

/-- `read` takes from the front of the queue. -/
theorem read_refines (h : r.Wf) (dst : List UInt8) : ∃ r', r'.Wf ∧ r'.toFifo = r.toFifo.pop dst.length ∧
    r.read dst = some (r', r.toFifo.fill dst, min dst.length r.toFifo.availableRead) := by
  have hread : r.toFifo.availableRead = r.availableRead := h.length_items
  have hlen := h.length
  have hfits := h.fits
  have hlt := h.capacity_lt
  unfold read
  rw [peek_refines h, hread]
  generalize hn : min dst.length r.availableRead = n
  have hread' := availableRead_read h (n := n) (by omega)
  have hwf : ({ r with tail := wrappingAdd r.tail n } : ByteRing).Wf :=
    ⟨hlen, h.pow, h.head, Nat.mod_lt _ (by decide), by rw [hread']; show _ ≤ r.capacity; omega⟩
  refine ⟨_, hwf, Fifo.ext rfl ?_, rfl⟩
  rw [hwf.items, hread']
  show (r.buf.rotate (wrappingAdd r.tail n)).take (r.availableRead - n) =
    r.toFifo.items.drop (min dst.length r.toFifo.availableRead)
  rw [hread, hn, h.items]
  rcases Nat.eq_zero_or_pos r.capacity with hcap | hpos
  · rw [List.length_eq_zero_iff.1 (hlen.trans hcap)]
    simp
  · obtain ⟨-, hdvd⟩ := h.index hpos r.tail
    rw [wrappingAdd, rotate_wrap hdvd, ← List.rotate_rotate,
      List.rotate_eq_drop_append_take (by rw [List.length_rotate]; omega),
      List.take_append_of_le_length (by rw [List.length_drop, List.length_rotate]; omega), List.drop_take]

/-! ## Calls -/

/-- Every call answers as the queue does, and stays in bounds. -/
theorem call_refines (h : r.Wf) (c : Fifo.Call UInt8) : ∃ r', r'.Wf ∧ r'.toFifo = (r.toFifo.call c).1 ∧
    r.call c = some (r', (r.toFifo.call c).2) := by
  cases c with
  | write data =>
    obtain ⟨r', hwf, hfifo, hwrite⟩ := write_refines h data
    exact ⟨r', hwf, hfifo, by rw [call, hwrite]; rfl⟩
  | read dst =>
    obtain ⟨r', hwf, hfifo, hread⟩ := read_refines h dst
    exact ⟨r', hwf, hfifo, by rw [call, hread]; rfl⟩
  | peek dst => exact ⟨r, h, rfl, by rw [call, peek_refines h]; rfl⟩
  | availableRead => exact ⟨r, h, rfl, by rw [call, ← h.length_items]; rfl⟩
  | availableWrite => exact ⟨r, h, rfl, by rw [call, h.availableWrite_eq]; rfl⟩

theorem calls_refine (cs : List (Fifo.Call UInt8)) (r : ByteRing) (h : r.Wf) :
    ∃ r', r'.Wf ∧ r'.toFifo = (r.toFifo.calls cs).1 ∧ r.calls cs = some (r', (r.toFifo.calls cs).2) := by
  induction cs generalizing r with
  | nil => exact ⟨r, h, rfl, rfl⟩
  | cons c cs ih =>
    obtain ⟨r₁, hwf₁, hfifo₁, hcall⟩ := call_refines h c
    obtain ⟨r₂, hwf₂, hfifo₂, hcalls⟩ := ih r₁ hwf₁
    rw [hfifo₁] at hfifo₂ hcalls
    refine ⟨r₂, hwf₂, hfifo₂, ?_⟩
    rw [calls, hcall, Option.bind_eq_bind, Option.bind_some]
    dsimp only
    rw [hcalls]
    rfl

end ByteRing

/-! ## Rings of every size -/

theorem nextPowerOfTwo_eq_pow (n : Nat) : ∃ k, nextPowerOfTwo n = 2 ^ k := by
  unfold nextPowerOfTwo
  split_ifs with h
  · exact ⟨_, h.symm⟩
  · exact ⟨_, rfl⟩

namespace ByteRing

theorem capacity_of_new {cap : Nat} {r : ByteRing} (h : new cap = some r) :
    r.capacity = usizeNextPowerOfTwo (max cap 1) ∧ (r.capacity = 0 ∨ ∃ k ≤ 62, r.capacity = 2 ^ k) := by
  unfold new at h
  dsimp only at h
  split_ifs at h with hlt
  cases h
  refine ⟨rfl, ?_⟩
  obtain ⟨k, hk⟩ := nextPowerOfTwo_eq_pow (max cap 1)
  show usizeNextPowerOfTwo (max cap 1) = 0 ∨ _
  rw [usizeNextPowerOfTwo, hk] at hlt ⊢
  rcases Nat.lt_or_ge k 64 with hlt' | hge
  · rw [Nat.mod_eq_of_lt (Nat.pow_lt_pow_right (by decide) hlt')] at hlt ⊢
    have := (Nat.pow_lt_pow_iff_right (by decide : 1 < 2)).1 hlt
    exact .inr ⟨k, by omega, rfl⟩
  · exact .inl (Nat.mod_eq_zero_of_dvd (Nat.pow_dvd_pow 2 hge))

end ByteRing

/-- **The ring is a bounded queue.** From any buffer and any values of its counters, it answers every series of calls as
the queue does that it stands for, and stands for the queue after them; no copy is out of bounds. -/
theorem ring_refines_fifo (cap : Nat) (r₀ : ByteRing) (hnew : ByteRing.new cap = some r₀) (buf : List UInt8)
    (hbuf : buf.length = r₀.capacity) (head tail : Nat) (hhead : head < 2 ^ 64) (htail : tail < 2 ^ 64)
    (hfits : wrappingSub head tail ≤ r₀.capacity) (cs : List (Fifo.Call UInt8)) :
    let r : ByteRing := { r₀ with buf, head, tail }
    r.toFifo.capacity = usizeNextPowerOfTwo (max cap 1) ∧
    ∃ r', r.calls cs = some (r', (r.toFifo.calls cs).2) ∧ r'.toFifo = (r.toFifo.calls cs).1 ∧
      r'.availableRead + r'.availableWrite = r'.capacity := by
  obtain ⟨hcap, hpow⟩ := ByteRing.capacity_of_new hnew
  intro r
  have hwf : r.Wf := ⟨hbuf, hpow, hhead, htail, hfits⟩
  obtain ⟨r', hwf', hfifo, hcalls⟩ := ByteRing.calls_refine cs r hwf
  refine ⟨hcap, r', hcalls, hfifo, ?_⟩
  rw [hwf'.availableWrite_eq, ← hwf'.length_items]
  exact r'.toFifo.available

/-- Eight bytes whose counters are about to wrap: five are held, so three of four more are taken. -/
theorem ring_wraps :
    ∃ r', ({ buf := [1, 2, 3, 4, 5, 6, 7, 8], head := 2, tail := 2 ^ 64 - 3, capacity := 8 } : ByteRing).calls
      [.write [10, 11, 12, 13], .peek [0], .read (List.replicate 9 0), .availableWrite] =
        some (r', [.count 3, .filled 1 [6], .filled 8 [6, 7, 8, 1, 2, 10, 11, 12, 0], .count 8]) := by
  obtain ⟨-, r', hcalls, -⟩ := ring_refines_fifo 5 ⟨List.replicate 8 0, 0, 0, 8⟩ rfl [1, 2, 3, 4, 5, 6, 7, 8] rfl 2
    (2 ^ 64 - 3) (by decide) (by decide) (by decide)
    [.write [10, 11, 12, 13], .peek [0], .read (List.replicate 9 0), .availableWrite]
  exact ⟨r', hcalls⟩

end DpdkStdlib.Tcp
