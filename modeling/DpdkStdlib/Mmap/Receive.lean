import DpdkStdlib.Lib.Cycle
import DpdkStdlib.Lib.Run

/-!
# Receiving from a PACKET_MMAP ring (`ring_buffer.rs`, `backend_raw.rs`)

The kernel fills the slots of the ring one after the other and hands each to user space by its status; `recv_mmap` reads
the slot at its own index, hands it back, and only then moves on.
-/

namespace DpdkStdlib.Mmap
open DpdkStdlib.Lib

/-- A slot: the header's fields that the reader looks at, and the memory from the header on. -/
structure Slot where
  tpStatus : Nat := 0
  tpSnaplen : Nat := 0
  tpMac : Nat := 0
  bytes : List UInt8 := []

def Slot.frameData (slot : Slot) : Option (List UInt8) :=
  if slot.tpMac = 0 ∨ slot.tpSnaplen = 0 then none else some ((slot.bytes.drop slot.tpMac).take slot.tpSnaplen)

def Slot.isUser (slot : Slot) : Prop := slot.tpStatus &&& 1 ≠ 0
deriving Decidable

structure MmapRing where
  frameCount : Nat
  slots : Nat → Slot := fun _ => {}
  currentFrame : Nat := 0
  /-- Where the kernel puts the next packet. -/
  kernelFrame : Nat := 0

inductive RingOutput
  | handed (slot : Slot)
  /-- The reader hands slot `index` back, with what it has read from it. -/
  | returned (index : Nat) (packet : Option (List UInt8))

def handed (outs : List RingOutput) : List Slot := outs.filterMap fun
  | .handed slot => some slot
  | .returned .. => none

def returned (outs : List RingOutput) : List (Nat × Option (List UInt8)) := outs.filterMap fun
  | .handed _ => none
  | .returned index packet => some (index, packet)

namespace MmapRing

def readRxFrame (ring : MmapRing) : Option (List UInt8 × MmapRing) :=
  let slot := ring.slots ring.currentFrame
  if ¬slot.isUser then none
  else slot.frameData.map fun data =>
    (data, { ring with slots := Function.update ring.slots ring.currentFrame { slot with tpStatus := 0 } })

def advance (ring : MmapRing) : MmapRing :=
  { ring with currentFrame := (ring.currentFrame + 1) % ring.frameCount }

def recvMmap (ring : MmapRing) : Nat → MmapRing × List RingOutput
  | 0 => (ring, [])
  | maxFrames + 1 =>
    match ring.readRxFrame with
    | none => (ring, [])
    | some (frame, ring') =>
      let (last, outs) := ring'.advance.recvMmap maxFrames
      (last, .returned ring.currentFrame (some frame) :: outs)

/-- The kernel puts a packet into its next slot, if it owns it; otherwise the packet is lost. -/
def fill (ring : MmapRing) (slot : Slot) : MmapRing × List RingOutput :=
  if (ring.slots ring.kernelFrame).isUser then (ring, [])
  else
    let slot := { slot with tpStatus := slot.tpStatus ||| 1 }
    ({ ring with
        slots := Function.update ring.slots ring.kernelFrame slot
        kernelFrame := (ring.kernelFrame + 1) % ring.frameCount },
      [.handed slot])

end MmapRing

inductive RingEvent
  | fill (slot : Slot)
  | recv (maxFrames : Nat)

def step (ring : MmapRing) : RingEvent → MmapRing × List RingOutput
  | .fill slot => ring.fill slot
  | .recv maxFrames => ring.recvMmap maxFrames

/-- What the reader hands back when it consumes the slots in ring order: each once, with its packet if it has one. -/
def consumed (n : Nat) (slots : List Slot) : List (Nat × Option (List UInt8)) :=
  slots.mapIdx fun j slot => (j % n, slot.frameData)

/-- How many packets the calls of the reader ask for. -/
def asked : List RingEvent → Nat
  | [] => 0
  | .fill _ :: es => asked es
  | .recv maxFrames :: es => maxFrames + asked es

/-- However the run goes on: once the reader has asked for as many packets as slots were handed over, all are consumed,
and nothing else is. -/
def Progress (n : Nat) (es : List RingEvent) : Prop :=
  ∀ later, (handed (run step { frameCount := n } es).2).length ≤ asked later →
    consumed n (handed (run step { frameCount := n } es).2) <+:
        returned (run step { frameCount := n } (es ++ later)).2 ∧
      returned (run step { frameCount := n } (es ++ later)).2 <+:
        consumed n (handed (run step { frameCount := n } (es ++ later)).2)

/-! ## The invariant -/

theorem isUser_handed (slot : Slot) : Slot.isUser { slot with tpStatus := slot.tpStatus ||| 1 } := by
  unfold Slot.isUser
  dsimp only
  rw [Nat.and_one_is_mod, Nat.or_mod_two_eq_one.2 (.inr rfl)]
  decide

/-- `hs` are the slots handed over so far, and the reader has consumed the first `c` of them, each with its packet. -/
structure Reading (n : Nat) (ring : MmapRing) (hs : List Slot) (c : Nat) (done : List (Nat × Option (List UInt8))) :
    Prop where
  count : ring.frameCount = n
  bounds : c ≤ hs.length ∧ hs.length ≤ c + n
  current : ring.currentFrame = c % n
  kernel : ring.kernelFrame = hs.length % n
  waiting : ∀ j, c ≤ j → (hj : j < hs.length) → ring.slots (j % n) = hs[j]
  free : ∀ j, hs.length ≤ j → j < c + n → (ring.slots (j % n)).tpStatus = 0
  user : ∀ slot ∈ hs, slot.isUser
  done : done = consumed n (hs.take c)
  packets : ∀ slot ∈ hs.take c, slot.frameData ≠ none

section reading
variable {n c : Nat} {ring : MmapRing} {hs : List Slot} {done : List (Nat × Option (List UInt8))}

theorem Reading.fill (h : Reading n ring hs c done) (hn : 0 < n) (slot : Slot) :
    Reading n (ring.fill slot).1 (hs ++ handed (ring.fill slot).2) c (done ++ returned (ring.fill slot).2) := by
  unfold MmapRing.fill
  split_ifs with huser
  · simpa [handed, returned] using h
  · obtain ⟨hle, hroom⟩ := h.bounds
    -- the kernel owns its next slot, so the ring is not full
    have hlt : hs.length < c + n := by
      refine Nat.lt_of_le_of_ne hroom fun hfull => huser ?_
      have hc : c < hs.length := by omega
      rw [h.kernel, hfull, Nat.add_mod_right, h.waiting c (Nat.le_refl c) hc]
      exact h.user _ (List.getElem_mem hc)
    have hother (j : Nat) (hj : c ≤ j ∧ j < c + n) (hne : j ≠ hs.length) : j % n ≠ ring.kernelFrame := by
      rw [h.kernel]
      rcases Nat.lt_or_ge j hs.length with hj' | hj'
      · exact mod_ne_mod hj' (by omega)
      · exact (mod_ne_mod (by omega) (by omega)).symm
    simp only [handed, returned, List.filterMap_cons, List.filterMap_nil, List.append_nil]
    refine ⟨h.count, ?_, h.current, ?_, fun j hcj hj => ?_, fun j hj hjn => ?_, fun s hs' => ?_, ?_, ?_⟩
    · rw [List.length_append, List.length_singleton]
      omega
    · rw [List.length_append, List.length_singleton, h.count, h.kernel, Nat.mod_add_mod]
    · rw [List.length_append, List.length_singleton] at hj
      by_cases hlast : j = hs.length
      · subst hlast
        rw [← h.kernel]
        simp
      · dsimp only
        rw [Function.update_of_ne (hother j (by omega) hlast), h.waiting j hcj (by omega),
          List.getElem_append_left (by omega)]
    · rw [List.length_append, List.length_singleton] at hj
      dsimp only
      rw [Function.update_of_ne (hother j (by omega) (by omega))]
      exact h.free j (by omega) hjn
    · rcases List.mem_append.1 hs' with hs' | hs'
      · exact h.user s hs'
      · rw [List.mem_singleton.1 hs']
        exact isUser_handed slot
    · rw [List.take_append_of_le_length hle]
      exact h.done
    · rw [List.take_append_of_le_length hle]
      exact h.packets

theorem Reading.read (h : Reading n ring hs c done) (hn : 0 < n) :
    (ring.readRxFrame = none ∧ (c = hs.length ∨ ∃ hc : c < hs.length, hs[c].frameData = none)) ∨
      ∃ frame ring', ring.readRxFrame = some (frame, ring') ∧ c < hs.length ∧
        Reading n ring'.advance hs (c + 1) (done ++ [(ring.currentFrame, some frame)]) := by
  unfold MmapRing.readRxFrame
  dsimp only
  rcases Nat.lt_or_ge c hs.length with hc | hc
  · have hslot : ring.slots ring.currentFrame = hs[c] := by
      rw [h.current]
      exact h.waiting c (Nat.le_refl c) hc
    rw [hslot, if_neg (not_not.2 (h.user _ (List.getElem_mem hc)))]
    cases hdata : hs[c].frameData with
    | none => exact .inl ⟨rfl, .inr ⟨hc, hdata⟩⟩
    | some frame =>
      refine .inr ⟨frame, _, rfl, hc, ?_⟩
      have htake : hs.take (c + 1) = hs.take c ++ [hs[c]] := List.take_succ_eq_append_getElem hc
      have hlen : (hs.take c).length = c := by rw [List.length_take]; omega
      have hbounds := h.bounds
      refine ⟨h.count, by omega, ?_, h.kernel, fun j hcj hj => ?_, fun j hj hjn => ?_, h.user, ?_, ?_⟩
      · dsimp only [MmapRing.advance]
        rw [h.count, h.current, Nat.mod_add_mod]
      · dsimp only [MmapRing.advance]
        rw [Function.update_of_ne (by rw [h.current]; exact (mod_ne_mod (by omega) (by omega)).symm)]
        exact h.waiting j (by omega) hj
      · dsimp only [MmapRing.advance]
        rcases Nat.lt_or_ge j (c + n) with hjn' | hjn'
        · rw [Function.update_of_ne (by rw [h.current]; exact (mod_ne_mod (by omega) (by omega)).symm)]
          exact h.free j hj hjn'
        · -- the slot that has just been handed back
          obtain rfl : j = c + n := by omega
          rw [Nat.add_mod_right, ← h.current, Function.update_self]
      · rw [htake, consumed, List.mapIdx_concat, hlen, h.done, hdata, h.current, consumed]
      · rw [htake]
        intro slot hslot'
        rcases List.mem_append.1 hslot' with hslot' | hslot'
        · exact h.packets slot hslot'
        · rw [List.mem_singleton.1 hslot', hdata]
          exact Option.some_ne_none _
  · refine .inl ⟨?_, .inl (by have := h.bounds; omega)⟩
    rw [if_pos]
    have hzero := h.free c hc (by omega)
    rw [h.current, Slot.isUser, hzero]
    decide

theorem Reading.recv (hn : 0 < n) (maxFrames : Nat) : ∀ {ring : MmapRing} {c : Nat} {done}, Reading n ring hs c done →
    handed (ring.recvMmap maxFrames).2 = [] ∧ ∃ c',
      Reading n (ring.recvMmap maxFrames).1 hs c' (done ++ returned (ring.recvMmap maxFrames).2) ∧
      (c + maxFrames ≤ c' ∨ c' = hs.length ∨ ∃ hc : c' < hs.length, hs[c'].frameData = none) := by
  induction maxFrames with
  | zero => exact fun h => ⟨rfl, _, by simpa [MmapRing.recvMmap, returned] using h, .inl (Nat.le_refl _)⟩
  | succ maxFrames ih =>
    intro ring c done h
    rw [MmapRing.recvMmap]
    rcases h.read hn with ⟨hnone, hend⟩ | ⟨frame, ring', hsome, hc, hnext⟩
    · rw [hnone]
      exact ⟨rfl, c, by simpa [returned] using h, .inr hend⟩
    · rw [hsome]
      obtain ⟨hquiet, c', hlast, hfar⟩ := ih hnext
      refine ⟨hquiet, c', ?_, hfar.imp_left fun hle => by omega⟩
      rw [List.append_assoc, List.singleton_append] at hlast
      exact hlast

theorem handed_append (outs outs' : List RingOutput) : handed (outs ++ outs') = handed outs ++ handed outs' :=
  List.filterMap_append

theorem returned_append (outs outs' : List RingOutput) : returned (outs ++ outs') = returned outs ++ returned outs' :=
  List.filterMap_append

/-- In a run from a state of the invariant the reader comes as far as it asks for. -/
theorem Reading.run {front : List Slot} (hn : 0 < n) (hall : ∀ slot ∈ front, slot.frameData ≠ none)
    (es : List RingEvent) : ∀ {ring : MmapRing} {c : Nat} {back done}, Reading n ring (front ++ back) c done →
    ∃ c', min front.length (c + asked es) ≤ c' ∧ Reading n (Lib.run step ring es).1
      (front ++ back ++ handed (Lib.run step ring es).2) c' (done ++ returned (Lib.run step ring es).2) := by
  induction es with
  | nil => exact fun h => ⟨_, Nat.min_le_right _ _, by simpa [handed, returned, asked] using h⟩
  | cons e es ih =>
    intro ring c back done h
    rw [run_cons, handed_append, returned_append, ← List.append_assoc, ← List.append_assoc]
    cases e with
    | fill slot =>
      have hnext := h.fill hn slot
      rw [List.append_assoc] at hnext
      rw [List.append_assoc front]
      exact ih hnext
    | recv maxFrames =>
      obtain ⟨hquiet, c', hnext, hfar⟩ := h.recv hn maxFrames
      obtain ⟨c'', hlast, hreading⟩ := ih hnext
      refine ⟨c'', ?_, by simpa [step, hquiet] using hreading⟩
      rw [asked]
      rcases hfar with hfar | hfar | ⟨hc, hnone⟩
      · omega
      · rw [List.length_append] at hfar
        omega
      · -- the reader can only be stuck behind `front`
        have hout : front.length ≤ c' := by
          refine Nat.le_of_not_lt fun hin => ?_
          rw [List.getElem_append_left hin] at hnone
          exact hall _ (List.getElem_mem hin) hnone
        omega

theorem reading_init (n : Nat) : Reading n { frameCount := n } [] 0 [] where
  count := rfl
  bounds := ⟨Nat.zero_le _, Nat.zero_le _⟩
  current := (Nat.zero_mod n).symm
  kernel := (Nat.zero_mod n).symm
  waiting _ _ hj := absurd hj (Nat.not_lt_zero _)
  free _ _ _ := rfl
  user _ hslot := absurd hslot List.not_mem_nil
  done := rfl
  packets _ hslot := absurd hslot List.not_mem_nil

theorem reading_run (hn : 0 < n) (es : List RingEvent) :
    ∃ c, Reading n (Lib.run step { frameCount := n } es).1 (handed (Lib.run step { frameCount := n } es).2) c
      (returned (Lib.run step { frameCount := n } es).2) := by
  obtain ⟨c, -, h⟩ := Reading.run hn (fun _ hslot => absurd hslot List.not_mem_nil) es
    (reading_init n : Reading n _ ([] ++ []) 0 [])
  exact ⟨c, h⟩

theorem consumed_mono {front : List Slot} (h : front <+: hs) : consumed n front <+: consumed n hs := by
  obtain ⟨back, rfl⟩ := h
  rw [consumed, consumed, List.mapIdx_append]
  exact List.prefix_append _ _

theorem Reading.consumed_prefix_iff (h : Reading n ring hs c done) {front : List Slot} (hfront : front <+: hs) :
    consumed n front <+: done ↔ front.length ≤ c := by
  rw [h.done]
  constructor
  · intro hpre
    have hlen := hpre.length_le
    rw [consumed, consumed, List.length_mapIdx, List.length_mapIdx, List.length_take] at hlen
    omega
  · exact fun hle => consumed_mono (List.prefix_take_iff.2 ⟨hfront, hle⟩)

end reading

/-- **Progress of the reader.** In every run of the kernel and the reader: if the reader keeps calling, every slot handed
over is consumed in ring order, once and with its packet, exactly if each has a MAC offset and a capture length. -/
theorem mmap_progress_iff (n : Nat) (hn : 0 < n) (es : List RingEvent) :
    Progress n es ↔ ∀ slot ∈ handed (run step { frameCount := n } es).2, slot.tpMac ≠ 0 ∧ slot.tpSnaplen ≠ 0 := by
  have hdata (slot : Slot) : slot.frameData ≠ none ↔ slot.tpMac ≠ 0 ∧ slot.tpSnaplen ≠ 0 := by
    simp [Slot.frameData, not_or]
  simp only [← hdata]
  have hfront (later : List RingEvent) : handed (run step { frameCount := n } es).2 <+:
      handed (run step { frameCount := n } (es ++ later)).2 := by
    rw [run_append, handed_append]
    exact List.prefix_append _ _
  constructor
  · intro h slot hslot
    let later : List RingEvent := [.recv (handed (run step { frameCount := n } es).2).length]
    obtain ⟨c, hreading⟩ := reading_run hn (es ++ later)
    have hfar := (hreading.consumed_prefix_iff (hfront later)).1 (h later (Nat.le_refl _)).1
    exact hreading.packets slot ((List.prefix_take_iff.2 ⟨hfront later, hfar⟩).mem hslot)
  · intro hall later hle
    obtain ⟨c, hreading⟩ := reading_run hn es
    rw [← List.append_nil (handed _)] at hreading
    obtain ⟨c', hfar, hlast⟩ := hreading.run hn hall later
    rw [List.append_nil, ← handed_append, ← returned_append] at hlast
    have hfront := hfront later
    rw [run_append] at hfront ⊢
    refine ⟨(hlast.consumed_prefix_iff hfront).2 (by omega), ?_⟩
    rw [hlast.done]
    exact consumed_mono <| List.take_prefix _ _

/-- Two packets in a ring of four slots. -/
theorem mmap_progress_sample : Progress 4 [.fill ⟨1, 2, 1, [0, 7, 8]⟩, .recv 1, .fill ⟨1, 1, 1, [0, 9]⟩] :=
  (mmap_progress_iff 4 (by decide) _).2 (by decide)

/-- A slot with a zero capture length: the packet behind it is never delivered, however often the reader calls. -/
theorem mmap_stuck :
    returned (run step { frameCount := 4 } ([.fill ⟨1, 0, 1, []⟩, .fill ⟨1, 1, 1, [0, 9]⟩] ++
        (List.replicate 8 8).map .recv)).2 = [] ∧
      ¬Progress 4 [.fill ⟨1, 0, 1, []⟩, .fill ⟨1, 1, 1, [0, 9]⟩] := by
  refine ⟨by decide, fun h => ?_⟩
  exact absurd (h [.recv 2] (by decide)).1 (by decide)

end DpdkStdlib.Mmap
