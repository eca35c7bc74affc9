import DpdkStdlib.Tcp.Holding
import DpdkStdlib.Tcp.Reassembly

/-!
# Overlapping segments

The reorder buffer maps the distance of a segment from `rcv_nxt` to its bytes, and every delivery moves the keys down by
the bytes it wrote.  A key below that number underflows.  `Holds` says which distances a buffer covers, `Intake` what the
receive side has of the bytes that arrived.
-/

namespace DpdkStdlib.Tcp
open DpdkStdlib.Lib Receiver

variable {buf : ReorderBuffer} {data : List UInt8} {w : Nat} {k : BitVec 32}

/-! ## The subtractions of the rebase -/

/-- `k - w` does not underflow, for any key `k` of the buffer. -/
def RebaseSafe (w : Nat) (buf : ReorderBuffer) : Prop := buf.All fun k _ => w ≤ k.toNat
deriving Decidable

/-- No subtraction in the turns of `drainReorder` underflows. -/
def DrainSafe : Nat → Delivery → Prop
  | 0, _ => True
  | fuel + 1, d =>
    match d.buffer.get? 0 with
    | none => True
    | some data =>
      let w := d.ring.write data
      RebaseSafe w.2 (d.buffer.erase 0) ∧
        DrainSafe fuel
          { ring := w.1, rcvNxt := d.rcvNxt.add w.2, buffer := rebase (d.buffer.erase 0) w.2, drained := d.drained + 1 }

instance : ∀ (fuel : Nat) (d : Delivery), Decidable (DrainSafe fuel d)
  | 0, _ => isTrue trivial
  | fuel + 1, d => by
    unfold DrainSafe
    cases d.buffer.get? 0 with
    | none => exact isTrue trivial
    | some data =>
      have := instDecidableDrainSafe fuel
      exact inferInstanceAs (Decidable (_ ∧ _))

/-- Bytes go to the ring, `buf` moves with `rcv_nxt`. -/
def Delivery.write (d : Delivery) (data : List UInt8) (buf : ReorderBuffer) (drained : Nat) : Delivery where
  ring := (d.ring.write data).1
  rcvNxt := d.rcvNxt.add (d.ring.write data).2
  buffer := rebase buf (d.ring.write data).2
  drained := drained

/-- The receive side as the delivery loop finds it. -/
def Receiver.delivery (r : Receiver) : Delivery := ⟨r.ring, r.rcvNxt, r.buffer, 0⟩

/-- No subtraction underflows while the receive side takes the segment: the keys move only when it is in order. -/
def NoUnderflow (r : Receiver) (seg : ParsedTcpSegment) : Prop :=
  seg.payload ≠ [] → seg.seq = r.rcvNxt →
    RebaseSafe (r.ring.write seg.payload).2 r.buffer ∧ DrainSafe r.buffer.size (r.delivery.write seg.payload r.buffer 0)
deriving Decidable

/-! ## What a buffer covers -/

/-- The buffer has the byte `x` places behind `rcv_nxt`. -/
def Holds (buf : ReorderBuffer) (x : Nat) : Prop :=
  ∃ k data, buf.get? k = some data ∧ k.toNat ≤ x ∧ x < k.toNat + data.length

def Filled (buf : ReorderBuffer) : Prop := buf.All fun _ data => data ≠ []

theorem RebaseSafe.mono {w' : Nat} (h : RebaseSafe w buf) (hle : w' ≤ w) : RebaseSafe w' buf :=
  fun k data hget => hle.trans (h k data hget)

theorem RebaseSafe.get?_rebase_sub (hsafe : RebaseSafe w buf) (h : buf.get? k = some data) :
    ∃ k', (rebase buf w).get? k' = some data ∧ k'.toNat + w = k.toNat := by
  have hle : w ≤ k.toNat := hsafe _ _ h
  have hlt := k.isLt
  refine ⟨k - BitVec.ofNat 32 w, ?_, ?_⟩
  · rw [get?_rebase, sub_add_cancel]
    exact h
  · rw [BitVec.toNat_sub, BitVec.toNat_ofNat]
    omega

theorem Holds.rebase (hsafe : RebaseSafe w buf) {x : Nat} (h : Holds buf (x + w)) : Holds (rebase buf w) x := by
  obtain ⟨k, data, hget, hle, hlt⟩ := h
  obtain ⟨k', hget', hk'⟩ := hsafe.get?_rebase_sub hget
  exact ⟨k', data, hget', by omega, by omega⟩

theorem Filled.rebase (h : Filled buf) (hsafe : RebaseSafe w buf) : Filled (rebase buf w) := by
  intro k data hget
  obtain ⟨j, hj, -⟩ := key_of_rebase hsafe hget
  exact h j data hj

theorem Holds.insert (hsep : ∀ old, buf.get? k = some old → old.length ≤ data.length) {x : Nat} (h : Holds buf x) :
    Holds (buf.insert k data) x := by
  obtain ⟨j, old, hget, hle, hlt⟩ := h
  by_cases hjk : j = k
  · subst hjk
    exact ⟨j, data, AssocMap.get?_insert_self _ _ _, hle, by have := hsep old hget; omega⟩
  · exact ⟨j, old, by rw [AssocMap.get?_insert_ne _ _ hjk]; exact hget, hle, hlt⟩

/-! ## What the receive side has of the bytes that arrived -/

/-- The bytes at the positions `got` are in the ring or held back, up to `limit`. -/
structure Intake (origin : SeqNum) (limit : Nat) (got : Nat → Prop) (d : Delivery) : Prop where
  nxt : d.rcvNxt = origin.add d.ring.stream.length
  room : d.ring.stream.length + d.ring.availableWrite = limit
  spread : Spread d.buffer (2 ^ 31)
  filled : Filled d.buffer
  kept : ∀ x, got x → x < d.ring.stream.length ∨ d.ring.stream.length = limit ∨
    ∃ y, x = d.ring.stream.length + y ∧ Holds d.buffer y

section
variable {origin : SeqNum} {limit : Nat} {got : Nat → Prop} {d : Delivery}

theorem Intake.mono {got' : Nat → Prop} (h : Intake origin limit got d)
    (hgot : ∀ x, got' x → got x ∨ x < d.ring.stream.length) : Intake origin limit got' d :=
  ⟨h.nxt, h.room, h.spread, h.filled, fun x hx => (hgot x hx).elim (h.kept x) Or.inl⟩

theorem Intake.advance (h : Intake origin limit got d) (hspread : Spread buf (2 ^ 31)) (hfilled : Filled buf)
    (hsafe : RebaseSafe data.length buf) (drained : Nat) {got' : Nat → Prop}
    (hkept : ∀ x, got' x → x < d.ring.stream.length + data.length ∨ d.ring.stream.length = limit ∨
      ∃ y, x = d.ring.stream.length + y ∧ Holds buf y) : Intake origin limit got' (d.write data buf drained) := by
  have hw : RebaseSafe (d.ring.write data).2 buf := hsafe.mono (SpscByteRing.write_le _ _)
  have hlen := SpscByteRing.length_stream_write d.ring data
  have havail := SpscByteRing.availableWrite_write d.ring data
  have hmin : (d.ring.write data).2 = min data.length d.ring.availableWrite := rfl
  have hroom := h.room
  refine ⟨?_, ?_, hspread.rebase hw, hfilled.rebase hw, fun x hx => ?_⟩ <;> dsimp only [Delivery.write]
  · rw [h.nxt, SeqNum.add_add, hlen]
  · omega
  · rcases hkept x hx with hlt | hfull | ⟨y, rfl, k, old, hget, hle, hlt⟩
    · rcases Nat.lt_or_ge d.ring.availableWrite data.length with hshort | hfits
      · exact Or.inr (Or.inl (by omega))
      · exact Or.inl (by omega)
    · exact Or.inr (Or.inl (by omega))
    · -- the keys move down by as much as `rcv_nxt` moves up
      have hkey : (d.ring.write data).2 ≤ k.toNat := hw k old hget
      obtain ⟨y', rfl⟩ : ∃ y', y = y' + (d.ring.write data).2 := ⟨y - (d.ring.write data).2, by omega⟩
      exact Or.inr (Or.inr ⟨y', by omega, Holds.rebase hw ⟨k, old, hget, hle, hlt⟩⟩)

theorem Intake.take (h : Intake origin limit got d) (hget : d.buffer.get? 0 = some data) (drained : Nat) :
    Intake origin limit got (d.write data (d.buffer.erase 0) drained) := by
  refine h.advance (h.spread.erase 0) (h.filled.erase 0) (h.spread.le_key_of_erase hget) drained fun x hx => ?_
  rcases h.kept x hx with hlt | hfull | ⟨y, rfl, k, old, hold, hle, hlt⟩
  · exact Or.inl (by omega)
  · exact Or.inr (Or.inl hfull)
  · by_cases hk : k = 0
    · subst hk
      obtain rfl := Option.some.inj (hget.symm.trans hold)
      exact Or.inl (by simpa using hlt)
    · exact Or.inr (Or.inr ⟨y, rfl, k, old, by rw [AssocMap.get?_erase_ne _ hk]; exact hold, hle, hlt⟩)

theorem size_write_buffer (d : Delivery) (data : List UInt8) (buf : ReorderBuffer) (drained : Nat) :
    (d.write data buf drained).buffer.size = buf.size := by
  rw [Delivery.write, rebase, AssocMap.size_mapKeys]

theorem Intake.drain (fuel : Nat) : ∀ d : Delivery, d.buffer.size ≤ fuel → Intake origin limit got d →
    DrainSafe fuel d ∧ Intake origin limit got (drainReorder fuel d) ∧ (drainReorder fuel d).buffer.get? 0 = none := by
  induction fuel with
  | zero =>
    intro d hsize h
    have hnil : d.buffer.entries = [] := List.length_eq_zero_iff.1 (Nat.le_zero.1 hsize)
    exact ⟨trivial, h, by rw [drainReorder, AssocMap.get?, hnil]; rfl⟩
  | succ fuel ih =>
    intro d hsize h
    rw [drainReorder, DrainSafe]
    cases hget : d.buffer.get? 0 with
    | none => exact ⟨trivial, h, hget⟩
    | some data =>
      have hsafe : RebaseSafe data.length (d.buffer.erase 0) := h.spread.le_key_of_erase hget
      have hsize' := AssocMap.size_erase_of_get? hget
      have hrest := ih (d.write data (d.buffer.erase 0) (d.drained + 1)) (by rw [size_write_buffer]; omega)
        (h.take hget _)
      exact ⟨⟨hsafe.mono (SpscByteRing.write_le _ _), hrest.1⟩, hrest.2⟩

theorem Intake.next (h : Intake origin limit got d) (hsafe : RebaseSafe data.length d.buffer) :
    DrainSafe d.buffer.size (d.write data d.buffer 0) ∧
      Intake origin limit (fun x => got x ∨ d.ring.stream.length ≤ x ∧ x < d.ring.stream.length + data.length)
        (drainReorder d.buffer.size (d.write data d.buffer 0)) ∧
      (drainReorder d.buffer.size (d.write data d.buffer 0)).buffer.get? 0 = none := by
  refine Intake.drain _ _ (by rw [size_write_buffer]) (h.advance h.spread h.filled hsafe 0 fun x hx => ?_)
  rcases hx with hx | hx
  · exact (h.kept x hx).imp_left fun hlt => by omega
  · exact Or.inl hx.2

theorem Intake.hold (h : Intake origin limit got d) (hne : data ≠ []) (hnear : k.toNat + data.length ≤ 2 ^ 31)
    (hsep : d.buffer.All fun j old =>
      j.toNat + old.length ≤ k.toNat ∨ k.toNat + data.length ≤ j.toNat ∨
        (j.toNat = k.toNat ∧ old.length ≤ data.length)) :
    Intake origin limit
      (fun x => got x ∨ d.ring.stream.length + k.toNat ≤ x ∧ x < d.ring.stream.length + k.toNat + data.length)
      { d with buffer := d.buffer.insert k data } := by
  have hapart (j : BitVec 32) (old : List UInt8) (hold : d.buffer.get? j = some old) (hjk : j ≠ k) :
      k.toNat + data.length ≤ j.toNat ∨ j.toNat + old.length ≤ k.toNat := by
    rcases hsep j old hold with hle | hle | ⟨heq, -⟩
    · exact Or.inr hle
    · exact Or.inl hle
    · exact absurd (BitVec.eq_of_toNat_eq heq) hjk
  refine ⟨h.nxt, h.room, h.spread.insert hnear hapart, h.filled.insert hne, fun x hx => ?_⟩
  rcases hx with hx | ⟨hle, hlt⟩
  · rcases h.kept x hx with hwritten | hfull | ⟨y, rfl, hy⟩
    · exact Or.inl hwritten
    · exact Or.inr (Or.inl hfull)
    · refine Or.inr (Or.inr ⟨y, rfl, Holds.insert (fun old hold => ?_) hy⟩)
      have hpos : 0 < old.length := List.length_pos_iff.2 (h.filled k old hold)
      have hpos' : 0 < data.length := List.length_pos_iff.2 hne
      rcases hsep k old hold with hle | hle | ⟨-, hle⟩ <;> omega
  · obtain ⟨y, rfl⟩ : ∃ y, x = d.ring.stream.length + y := ⟨x - d.ring.stream.length, by omega⟩
    exact Or.inr (Or.inr ⟨y, rfl, k, data, AssocMap.get?_insert_self _ _ _, by omega, by omega⟩)

end

/-! ## Arrivals -/

/-- A segment that is handed to the engine, with the position of its first byte in the peer's stream. -/
structure SliceArrival where
  clock : Instant
  start : Nat
  seg : ParsedTcpSegment

namespace SliceArrival

def stop (a : SliceArrival) : Nat := a.start + a.seg.payload.length

/-- The segment brings a slice of the stream `S` to the connection of `key`; its ACK part, window and options are
arbitrary. -/
structure SliceOf (key : FourTuple) (irs : SeqNum) (S : List UInt8) (a : SliceArrival) : Prop where
  dst : a.seg.dst = key.localAddr
  src : a.seg.src = key.remoteAddr
  noRst : a.seg.flags.contains .rst = false
  noFin : a.seg.flags.contains .fin = false
  seq : a.seg.seq = irs.add (1 + a.start)
  payload : a.seg.payload = (S.drop a.start).take a.seg.payload.length

/-- The slice is old, or starts at or above `rcv_nxt` and overlaps nothing held but a shorter piece of its start. -/
def Separate (r : Receiver) (a : SliceArrival) : Prop :=
  a.seg.payload = [] ∨ (a.stop ≤ r.ring.stream.length ∧ r.ring.stream.length ≤ a.start + 2 ^ 31) ∨
    (r.ring.stream.length ≤ a.start ∧ a.stop ≤ r.ring.stream.length + 2 ^ 31 ∧ r.buffer.All fun k data =>
      r.ring.stream.length + k.toNat + data.length ≤ a.start ∨ a.stop ≤ r.ring.stream.length + k.toNat ∨
        (r.ring.stream.length + k.toNat = a.start ∧ data.length ≤ a.seg.payload.length))
deriving Decidable

end SliceArrival

section
open SliceArrival
variable {origin : SeqNum} {limit : Nat} {got : Nat → Prop}

/-- **An arrival.** A separate slice is written, held back or old; no key underflows, and its bytes are not lost. -/
theorem Intake.arrive {t : Tcb} (h : Intake origin limit got t.receiver.delivery)
    (hzero : t.reorderBuffer.get? 0 = none) (clock : Instant) {a : SliceArrival}
    (hseq : a.seg.seq = origin.add a.start) (hsep : Separate t.receiver a) :
    NoUnderflow t.receiver a.seg ∧ (establishedData clock a.seg t).1.reorderBuffer.get? 0 = none ∧
      Intake origin limit (fun x => got x ∨ a.start ≤ x ∧ x < a.stop)
        (establishedData clock a.seg t).1.receiver.delivery := by
  have hstop : a.stop = a.start + a.seg.payload.length := rfl
  by_cases hpay : a.seg.payload = []
  · refine ⟨fun hne => absurd hpay hne, ?_⟩
    rw [establishedData, if_pos (by rw [hpay]; rfl)]
    refine ⟨hzero, h.mono fun x hx => hx.imp_right fun hx => ?_⟩
    rw [hstop, hpay, List.length_nil] at hx
    omega
  have hpos : 0 < a.seg.payload.length := List.length_pos_iff.2 hpay
  obtain ⟨pos, hposition⟩ : ∃ pos, pos = t.handle.rxRing.stream.length := ⟨_, rfl⟩
  have hnxt : t.rcvNxt = origin.add pos := hposition ▸ h.nxt
  simp only [Separate, Tcb.receiver, ← hposition] at hsep
  replace hsep := hsep.resolve_left hpay
  change _ ∧ (establishedData clock a.seg t).1.receiver.buffer.get? 0 = none ∧ _
  rcases receiver_establishedData_at clock hpay hseq hnxt (by omega) (by omega) with
    ⟨hlt, hneq, hrecv⟩ | ⟨hat, hrecv⟩ | ⟨hlt, hneq, hrecv⟩ <;> rw [hrecv]
  · refine ⟨fun _ heq => absurd heq hneq, hzero, h.mono fun x hx => hx.imp_right fun hx => ?_⟩
    change x < t.handle.rxRing.stream.length
    omega
  · obtain ⟨-, -, hapart⟩ := hsep.resolve_left (by omega)
    have hsafe : RebaseSafe a.seg.payload.length t.reorderBuffer := by
      intro k data hget
      have hne : 0 < data.length := List.length_pos_iff.2 (h.filled k data hget)
      have hk : k.toNat ≠ 0 := fun hz => by
        obtain rfl : k = 0 := BitVec.eq_of_toNat_eq hz
        rw [hzero] at hget
        cases hget
      rcases hapart k data hget with hle | hle | ⟨heq, -⟩ <;> omega
    obtain ⟨hdrain, hintake, hnone⟩ := h.next hsafe
    refine ⟨fun _ _ => ⟨hsafe.mono (SpscByteRing.write_le _ _), hdrain⟩, hnone, ?_⟩
    rw [hstop, hat, hposition]
    exact ⟨hintake.nxt, hintake.room, hintake.spread, hintake.filled, hintake.kept⟩
  · obtain ⟨-, hnear, hapart⟩ := hsep.resolve_left (by omega)
    have hdist : (a.seg.seq.val - t.rcvNxt.val).toNat = a.start - pos := by
      rw [hseq, hnxt]
      exact SeqNum.diff_add_add origin hlt.le (by omega)
    have hhold := h.hold hpay (k := a.seg.seq.val - t.rcvNxt.val) (by omega) fun k data hget => by
      rcases hapart k data hget with hle | hle | ⟨heq, hle⟩ <;> omega
    refine ⟨fun _ heq => absurd heq hneq, ?_, hhold.mono fun x hx => Or.inl (hx.imp_right fun hx => ?_)⟩
    · have hzk : (0 : BitVec 32) ≠ a.seg.seq.val - t.rcvNxt.val := fun hz => by
        rw [← hz] at hdist
        change 0 = a.start - pos at hdist
        omega
      exact (AssocMap.get?_insert_ne _ _ hzk).trans hzero
    · change t.handle.rxRing.stream.length + _ ≤ x ∧ x < t.handle.rxRing.stream.length + _ + _
      omega

end

/-! ## Runs -/

def arriveSlice (e : TcpEngine) (a : SliceArrival) : TcpEngine × List Emitted :=
  ((e.onSegment a.clock a.seg).engine, (e.onSegment a.clock a.seg).out)

def AtConnection (key : FourTuple) (p : Receiver → SliceArrival → Prop) (e : TcpEngine) (a : SliceArrival) : Prop :=
  ∀ t ∈ e.tcbs.get? key, p t.receiver a

instance (key : FourTuple) (p : Receiver → SliceArrival → Prop) [∀ r a, Decidable (p r a)] (e : TcpEngine)
    (a : SliceArrival) : Decidable (AtConnection key p e a) :=
  inferInstanceAs (Decidable (∀ t ∈ e.tcbs.get? key, p t.receiver a))

section
open SliceArrival
variable {key : FourTuple} {irs : SeqNum} {S : List UInt8} {limit : Nat}

/-- A separate slice is taken in without underflow. -/
theorem Intake.onSegment {e : TcpEngine} {t : Tcb} {got : Nat → Prop} {a : SliceArrival}
    (ht : e.tcbs.get? key = some t) (hst : t.state = .established) (hzero : t.reorderBuffer.get? 0 = none)
    (h : Intake (irs.add 1) limit got t.receiver.delivery) (ha : a.SliceOf key irs S) (hsep : Separate t.receiver a) :
    NoUnderflow t.receiver a.seg ∧ ∃ t', (arriveSlice e a).1.tcbs.get? key = some t' ∧ t'.state = .established ∧
      t'.reorderBuffer.get? 0 = none ∧
      Intake (irs.add 1) limit (fun x => got x ∨ a.start ≤ x ∧ x < a.stop) t'.receiver.delivery := by
  obtain rfl : key = ⟨a.seg.dst, a.seg.src⟩ := by rw [ha.dst, ha.src]
  have hack := receiver_establishedAck a.seg t
  rw [← hack] at h hsep ⊢
  have hseq : a.seg.seq = (irs.add 1).add a.start := by rw [ha.seq, SeqNum.add_add]
  obtain ⟨hsafe, hnone, hintake⟩ :=
    h.arrive ((congrArg (fun r => r.buffer.get? 0) hack).trans hzero) a.clock hseq hsep
  have hview := (TcpEngine.view_onSegment a.clock ht (Vector.replicate 6 0) (Vector.replicate 6 0)).1
  rw [receiver_segmentTcb hst ha.noRst ha.noFin] at hview
  refine ⟨hsafe, _, (TcpEngine.view_eq_live_iff _ _ _).1 hview, ?_, hnone, hintake⟩
  rw [state_establishedData]
  exact (congrArg Receiver.state hack).trans hst

/-- So are any separate slices, one after the other. -/
theorem Intake.run : ∀ (as : List SliceArrival) (e : TcpEngine) (t : Tcb) (got : Nat → Prop),
    e.tcbs.get? key = some t → t.state = .established → t.reorderBuffer.get? 0 = none →
    Intake (irs.add 1) limit got t.receiver.delivery → (∀ a ∈ as, a.SliceOf key irs S) →
    Along (AtConnection key Separate) arriveSlice e as →
    Along (AtConnection key fun r a => NoUnderflow r a.seg) arriveSlice e as ∧
      ∃ t', (Lib.run arriveSlice e as).1.tcbs.get? key = some t' ∧ t'.reorderBuffer.get? 0 = none ∧
        Intake (irs.add 1) limit (fun x => got x ∨ ∃ a ∈ as, a.start ≤ x ∧ x < a.stop) t'.receiver.delivery := by
  intro as
  induction as with
  | nil =>
    intro e t got ht hst hzero h _ _
    exact ⟨trivial, t, ht, hzero, h.mono fun x hx => Or.inl (by simpa using hx)⟩
  | cons a as ih =>
    intro e t got ht hst hzero h hslices ⟨hsep, hrest⟩
    obtain ⟨hsafe, t₁, ht₁, hst₁, hzero₁, h₁⟩ := h.onSegment ht hst hzero (hslices a List.mem_cons_self) (hsep t ht)
    obtain ⟨halong, t', ht', hzero', h'⟩ :=
      ih _ t₁ _ ht₁ hst₁ hzero₁ h₁ (fun b hb => hslices b (List.mem_cons_of_mem a hb)) hrest
    refine ⟨⟨fun u hu => ?_, halong⟩, t', ht', hzero', h'.mono fun x hx => Or.inl ?_⟩
    · obtain rfl := Option.some.inj (ht.symm.trans hu)
      exact hsafe
    · rcases hx with hx | ⟨b, hb, hx⟩
      · exact Or.inl (Or.inl hx)
      · rcases List.mem_cons.1 hb with rfl | hb
        · exact Or.inl (Or.inr hx)
        · exact Or.inr ⟨b, hb, hx⟩

end

theorem Intake.reached {origin : SeqNum} {limit : Nat} {got : Nat → Prop} {d : Delivery}
    (h : Intake origin limit got d) (hzero : d.buffer.get? 0 = none) {n : Nat} (hn : n ≤ limit)
    (hgot : ∀ x < n, d.ring.stream.length ≤ x → got x) : n ≤ d.ring.stream.length := by
  by_contra hlt
  have hnext := hgot d.ring.stream.length (by omega) (Nat.le_refl _)
  rcases h.kept _ hnext with hlt' | hfull | ⟨y, hy, k, data, hget, hle, -⟩
  · omega
  · omega
  · obtain rfl : k = 0 := BitVec.eq_of_toNat_eq (by simp; omega)
    rw [hzero] at hget
    cases hget

/-- **Overlapping segments.** An established connection is handed slices of the peer's stream, each separate from what
is held.  Then no key of the reorder buffer underflows, and once the slices cover the stream up to `n`, within the
ring's space, `rcv_nxt` has passed `n` bytes. -/
theorem overlapping_slices (e : TcpEngine) (key : FourTuple) (t : Tcb) (ht : e.tcbs.get? key = some t)
    (hst : t.state = .established) (hnxt : t.rcvNxt = t.irs.add (1 + t.handle.rxRing.stream.length))
    (hbuf : t.reorderBuffer.isEmpty = true) (S : List UInt8) (as : List SliceArrival)
    (hslices : ∀ a ∈ as, a.SliceOf key t.irs S)
    (hsep : Along (AtConnection key SliceArrival.Separate) arriveSlice e as) :
    Along (AtConnection key fun r a => NoUnderflow r a.seg) arriveSlice e as ∧
      ∃ t', (run arriveSlice e as).1.tcbs.get? key = some t' ∧
        t'.rcvNxt = t.irs.add (1 + t'.handle.rxRing.stream.length) ∧
        ∀ n ≤ t.handle.rxRing.stream.length + t.handle.rxRing.availableWrite,
          (∀ x < n, t.handle.rxRing.stream.length ≤ x → ∃ a ∈ as, a.start ≤ x ∧ x < a.stop) →
          n ≤ t'.handle.rxRing.stream.length := by
  have hempty (k : BitVec 32) : t.reorderBuffer.get? k = none := by
    rw [AssocMap.get?, (AssocMap.isEmpty_iff _).1 hbuf]
    rfl
  have hinit : Intake (t.irs.add 1) (t.handle.rxRing.stream.length + t.handle.rxRing.availableWrite)
      (fun x => x < t.handle.rxRing.stream.length) t.receiver.delivery := by
    have hnone {p : Prop} {k : BitVec 32} {data : List UInt8} (hget : t.reorderBuffer.get? k = some data) : p := by
      rw [hempty k] at hget
      cases hget
    exact ⟨by rw [SeqNum.add_add]; exact hnxt, rfl, ⟨fun _ _ => hnone, fun _ _ _ _ hget => hnone hget⟩,
      fun _ _ => hnone, fun x hx => Or.inl hx⟩
  obtain ⟨halong, t', ht', hzero', h'⟩ := Intake.run as e t _ ht hst (hempty 0) hinit hslices hsep
  refine ⟨halong, t', ht', ?_, fun n hn hcover => h'.reached hzero' hn fun x hx _ => ?_⟩
  · rw [← SeqNum.add_add]
    exact h'.nxt
  · rcases Nat.lt_or_ge x t.handle.rxRing.stream.length with hlt | hge
    · exact Or.inl hlt
    · exact Or.inr (hcover x hx hge)

def sampleSlice (start len : Nat) : SliceArrival where
  clock := 5
  start := start
  seg := fromPeer (BitVec.ofNat 32 (1001 + start)) 101 .ack 500 (([1, 2, 3, 4, 5, 6, 7, 8, 9, 10].drop start).take len)

theorem sampleSlice_of (start len : Nat) :
    (sampleSlice start len).SliceOf sampleKey ⟨1000⟩ [1, 2, 3, 4, 5, 6, 7, 8, 9, 10] := by
  have hrst : TcpFlags.ack.contains .rst = false := by decide
  have hfin : TcpFlags.ack.contains .fin = false := by decide
  refine ⟨rfl, rfl, hrst, hfin, ?_, ?_⟩
  · ext1
    change BitVec.ofNat 32 (1001 + start) = 1000 + BitVec.ofNat 32 (1 + start)
    rw [show (1000 : BitVec 32) = BitVec.ofNat 32 1000 from rfl, ← BitVec.ofNat_add, ← Nat.add_assoc]
  · simp [sampleSlice, fromPeer]

def separateSlices : List SliceArrival :=
  [sampleSlice 6 2, sampleSlice 6 3, sampleSlice 0 2, sampleSlice 2 4, sampleSlice 1 5, sampleSlice 9 1]

theorem overlapping_slices_sample : ∃ t', (run arriveSlice (sampleEngine 1000) separateSlices).1.tcbs.get? sampleKey =
    some t' ∧ t'.rcvNxt = (⟨1000⟩ : SeqNum).add (1 + t'.handle.rxRing.stream.length) ∧
      10 ≤ t'.handle.rxRing.stream.length := by
  obtain ⟨-, t', ht', hnxt, hreach⟩ := overlapping_slices (sampleEngine 1000) sampleKey _ rfl rfl rfl rfl
    [1, 2, 3, 4, 5, 6, 7, 8, 9, 10] separateSlices
    (by simp only [separateSlices, List.forall_mem_cons, List.not_mem_nil, IsEmpty.forall_iff, implies_true, and_true]
        exact ⟨sampleSlice_of 6 2, sampleSlice_of 6 3, sampleSlice_of 0 2, sampleSlice_of 2 4, sampleSlice_of 1 5,
          sampleSlice_of 9 1⟩)
    (by decide)
  exact ⟨t', ht', hnxt, hreach 10 (by decide) (by decide)⟩

/-- Two ways to lose bytes: a key that underflows, when what is held starts inside the gap's filling, and a slice that
begins below `rcv_nxt`. -/
theorem overlap_underflows :
    (∀ start len, (sampleSlice start len).SliceOf sampleKey ⟨1000⟩ [1, 2, 3, 4, 5, 6, 7, 8, 9, 10]) ∧
      ¬Along (AtConnection sampleKey fun r a => NoUnderflow r a.seg) arriveSlice (sampleEngine 1000)
        [sampleSlice 5 5, sampleSlice 0 7] ∧
      (∀ x < 10, ∃ a ∈ [sampleSlice 5 5, sampleSlice 0 7], a.start ≤ x ∧ x < a.stop) ∧
      ((run arriveSlice (sampleEngine 1000) [sampleSlice 5 5, sampleSlice 0 7]).1.tcbs.get? sampleKey).map
        (fun t => (t.state, t.rcvNxt)) = some (.established, ⟨1008⟩) ∧
      (∀ x < 10, ∃ a ∈ [sampleSlice 0 5, sampleSlice 3 7], a.start ≤ x ∧ x < a.stop) ∧
      ((run arriveSlice (sampleEngine 1000) [sampleSlice 0 5, sampleSlice 3 7]).1.tcbs.get? sampleKey).map
        (fun t => (t.state, t.rcvNxt)) = some (.established, ⟨1006⟩) := by
  refine ⟨sampleSlice_of, ?_⟩
  decide

end DpdkStdlib.Tcp
