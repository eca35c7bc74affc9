import Mathlib.Algebra.Order.Ring.Nat
import Mathlib.Data.Nat.Basic

/-!
# The layout of a PACKET_MMAP ring (`ring_buffer.rs`)

The kernel cuts the mapped region into blocks and each block into frames; no frame goes over the end of a block.  The ring
finds frame `i` at `i * frame_size`.
-/

namespace DpdkStdlib.Mmap

structure TpacketReq where
  tpBlockSize : Nat
  tpBlockNr : Nat
  tpFrameSize : Nat
  tpFrameNr : Nat
deriving DecidableEq

structure RingConfig where
  frameSize : Nat
  frameCount : Nat

/-- The loop of `block_size`: double until a frame fits.  The first argument bounds the turns. -/
def growBlock (frameSize : Nat) : Nat → Nat → Nat
  | 0, blockSize => blockSize
  | fuel + 1, blockSize => if blockSize < frameSize then growBlock frameSize fuel (blockSize * 2) else blockSize

theorem le_growBlock (frameSize : Nat) : ∀ fuel blockSize, 0 < blockSize → frameSize ≤ fuel + blockSize →
    frameSize ≤ growBlock frameSize fuel blockSize := by
  intro fuel
  induction fuel with
  | zero => intro blockSize _ h; simpa [growBlock] using h
  | succ fuel ih =>
    intro blockSize hpos h
    unfold growBlock
    split_ifs with hlt
    · exact ih (blockSize * 2) (by omega) (by omega)
    · omega

namespace RingConfig
variable (c : RingConfig)

def wholeBlock : Nat := growBlock c.frameSize c.frameSize 4096

def blockSize : Nat := c.wholeBlock % 2 ^ 32

def framesPerBlock : Nat := c.blockSize / c.frameSize

def blockCount : Nat :=
  if c.framesPerBlock = 0 then c.frameCount
  else (c.frameCount + c.framesPerBlock - 1) % 2 ^ 32 / (c.framesPerBlock % 2 ^ 32)

def totalSize : Nat := c.blockSize * c.blockCount

def toTpacketReq : TpacketReq where
  tpBlockSize := c.blockSize
  tpBlockNr := c.blockCount
  tpFrameSize := c.frameSize % 2 ^ 32
  tpFrameNr := c.blockCount * c.framesPerBlock % 2 ^ 32

/-- Frames of a positive multiple of 16 bytes, at least one, and no size is cut by a cast. -/
structure Fits : Prop where
  frameSize : 0 < c.frameSize ∧ 16 ∣ c.frameSize
  frameCount : 0 < c.frameCount
  block : c.wholeBlock < 2 ^ 32
  rounded : c.frameCount + c.framesPerBlock - 1 < 2 ^ 32
  frames : c.blockCount * c.framesPerBlock < 2 ^ 32

end RingConfig

/-- Where the kernel has a frame: frames are counted block by block. -/
def kernelOffset (req : TpacketReq) (index : Nat) : Nat :=
  index / (req.tpBlockSize / req.tpFrameSize) * req.tpBlockSize +
    index % (req.tpBlockSize / req.tpFrameSize) * req.tpFrameSize

def frameHeader (c : RingConfig) (index : Nat) : Nat := index * c.frameSize

/-- The request asks for enough whole frames; they lie apart in the mapped region, and where the kernel has them. -/
structure RingConfig.LaidOut (c : RingConfig) : Prop where
  count : c.toTpacketReq.tpFrameNr =
      c.toTpacketReq.tpBlockNr * (c.toTpacketReq.tpBlockSize / c.toTpacketReq.tpFrameSize) ∧
    c.frameCount ≤ c.toTpacketReq.tpFrameNr
  inside : ∀ i < c.toTpacketReq.tpFrameNr, frameHeader c i + c.frameSize ≤ c.totalSize
  apart : ∀ i < c.toTpacketReq.tpFrameNr, ∀ j < c.toTpacketReq.tpFrameNr, i < j →
    frameHeader c i + c.frameSize ≤ frameHeader c j
  address : ∀ i < c.toTpacketReq.tpFrameNr, frameHeader c i = kernelOffset c.toTpacketReq i

section layout
variable {c : RingConfig}

theorem RingConfig.Fits.numbers (h : c.Fits) :
    c.frameSize ≤ c.blockSize ∧ 0 < c.framesPerBlock ∧ c.framesPerBlock * c.frameSize ≤ c.blockSize ∧
      c.frameCount ≤ c.blockCount * c.framesPerBlock ∧ 0 < c.blockCount ∧
      c.toTpacketReq = ⟨c.blockSize, c.blockCount, c.frameSize, c.blockCount * c.framesPerBlock⟩ := by
  have hblock : c.blockSize = c.wholeBlock := Nat.mod_eq_of_lt h.block
  have hle : c.frameSize ≤ c.blockSize := by
    rw [hblock]
    exact le_growBlock _ _ _ (by decide) (Nat.le_add_right _ _)
  have hper : 0 < c.framesPerBlock := Nat.div_pos hle h.frameSize.1
  have hsize : c.blockSize < 2 ^ 32 := hblock ▸ h.block
  have hperLt : c.framesPerBlock < 2 ^ 32 := Nat.lt_of_le_of_lt (Nat.div_le_self _ _) hsize
  have hcount : c.blockCount = (c.frameCount + c.framesPerBlock - 1) / c.framesPerBlock := by
    rw [RingConfig.blockCount, if_neg (Nat.ne_of_gt hper), Nat.mod_eq_of_lt h.rounded, Nat.mod_eq_of_lt hperLt]
  have henough : c.frameCount ≤ c.blockCount * c.framesPerBlock := by
    have hdiv := Nat.div_add_mod (c.frameCount + c.framesPerBlock - 1) c.framesPerBlock
    have hmod := Nat.mod_lt (c.frameCount + c.framesPerBlock - 1) hper
    rw [hcount, Nat.mul_comm]
    omega
  have hblocks : 0 < c.blockCount := by
    rcases Nat.eq_zero_or_pos c.blockCount with hzero | hpos
    · rw [hzero, Nat.zero_mul] at henough
      have := h.frameCount
      omega
    · exact hpos
  refine ⟨hle, hper, Nat.div_mul_le_self _ _, henough, hblocks, ?_⟩
  rw [RingConfig.toTpacketReq, Nat.mod_eq_of_lt h.frames, Nat.mod_eq_of_lt (Nat.lt_of_le_of_lt hle hsize)]

theorem address_iff {size block blocks : Nat} (hper : 0 < block / size) (hblocks : 0 < blocks) :
    (∀ i < blocks * (block / size), i * size = i / (block / size) * block + i % (block / size) * size) ↔
      block % size = 0 ∨ blocks = 1 := by
  have hdiv := Nat.div_add_mod block size
  constructor
  · intro h
    rcases Nat.lt_or_ge 1 blocks with hmany | hone
    · -- the first frame of the second block
      have hsecond := h (block / size) (by
        calc block / size = 1 * (block / size) := (Nat.one_mul _).symm
          _ < blocks * (block / size) := Nat.mul_lt_mul_of_pos_right hmany hper)
      rw [Nat.div_self hper, Nat.mod_self, Nat.one_mul, Nat.zero_mul, Nat.add_zero, Nat.mul_comm] at hsecond
      exact .inl (by omega)
    · exact .inr (by omega)
  · rintro (hfill | rfl) i hi
    · have hblock : i / (block / size) * block = block / size * (i / (block / size)) * size := by
        rw [Nat.mul_comm (block / size), Nat.mul_assoc, Nat.mul_comm (block / size)]
        congr 1
        omega
      rw [hblock, ← Nat.add_mul, Nat.div_add_mod]
    · rw [Nat.one_mul] at hi
      rw [Nat.div_eq_of_lt hi, Nat.mod_eq_of_lt hi, Nat.zero_mul, Nat.zero_add]

/-- **The layout of the ring.** The request asks for at least the frames wanted, in whole blocks, and the ring's frames are
apart and inside the region; they are where the kernel has them exactly if the frame size divides the block size, or one
block is all. -/
theorem ring_layout_iff (c : RingConfig) (h : c.Fits) :
    c.LaidOut ↔ c.blockSize % c.frameSize = 0 ∨ c.blockCount = 1 := by
  obtain ⟨-, hper, hfit, hcount, hblocks, hreq⟩ := h.numbers
  have haddress := address_iff hper hblocks
  constructor
  · intro hl
    refine haddress.1 fun i hi => ?_
    have hi' := hl.address i
    rw [hreq] at hi'
    exact hi' hi
  · intro hcond
    refine ⟨?_, ?_, ?_, ?_⟩ <;> rw [hreq]
    · exact ⟨rfl, hcount⟩
    · intro i hi
      calc i * c.frameSize + c.frameSize = (i + 1) * c.frameSize := (Nat.succ_mul _ _).symm
        _ ≤ c.blockCount * c.framesPerBlock * c.frameSize := Nat.mul_le_mul_right _ hi
        _ = c.blockCount * (c.framesPerBlock * c.frameSize) := Nat.mul_assoc _ _ _
        _ ≤ c.blockCount * c.blockSize := Nat.mul_le_mul_left _ hfit
        _ = c.totalSize := Nat.mul_comm _ _
    · intro i _ j _ hij
      calc i * c.frameSize + c.frameSize = (i + 1) * c.frameSize := (Nat.succ_mul _ _).symm
        _ ≤ j * c.frameSize := Nat.mul_le_mul_right _ hij
    · exact haddress.2 hcond

end layout

/-- The default: 256 frames of 2048 bytes. -/
theorem ring_layout_default : RingConfig.LaidOut ⟨2048, 256⟩ :=
  (ring_layout_iff ⟨2048, 256⟩ ⟨⟨by decide, by decide⟩, by decide, by decide, by decide, by decide⟩).2 (.inl (by decide))

/-- Frames of 1536 bytes: two to a block, and the third is at 4096, not at 3072. -/
theorem ring_layout_straddled :
    RingConfig.Fits ⟨1536, 4⟩ ∧ (RingConfig.toTpacketReq ⟨1536, 4⟩).tpFrameNr = 4 ∧
      frameHeader ⟨1536, 4⟩ 2 = 3072 ∧ kernelOffset (RingConfig.toTpacketReq ⟨1536, 4⟩) 2 = 4096 :=
  ⟨⟨⟨by decide, by decide⟩, by decide, by decide, by decide, by decide⟩, by decide, by decide, by decide⟩

end DpdkStdlib.Mmap
