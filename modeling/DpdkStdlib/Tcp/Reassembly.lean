import DpdkStdlib.Lib.Pieces
import DpdkStdlib.Tcp.Projection
import DpdkStdlib.Tcp.Receiver
import Mathlib.Tactic.IntervalCases

/-!
# Reassembly

A stream cut into consecutive non-empty pieces arrives piece by piece, in any order and with repetitions.
`Assembling` says what the receive side holds when the pieces in `S` have arrived: the first `k` are in the ring, and
the reorder buffer maps the distance of each later one from `rcv_nxt` to its bytes.
-/

namespace DpdkStdlib.Tcp
open DpdkStdlib.Lib Receiver

variable {i j : Nat} {ps : List (List UInt8)} {t : Tcb} {seg : ParsedTcpSegment} {key : FourTuple} {irs : SeqNum}
  {old : List UInt8}

/-- What the receive side holds when the pieces of `S` have arrived and the first `k` are written. -/
structure Assembling (origin : SeqNum) (old : List UInt8) (ps : List (List UInt8)) (S : Nat → Prop) (k : Nat)
    (r : Receiver) : Prop where
  state : r.state = .established
  le : k ≤ ps.length
  nxt : r.rcvNxt = origin.add (offset ps k)
  written : r.ring.stream = old ++ (ps.take k).flatten
  room : ps.flatten.length - offset ps k ≤ r.ring.availableWrite
  bounded : ∀ j, S j → j < ps.length
  held : ∀ key data, r.buffer.get? key = some data ↔
    ∃ j, S j ∧ k ≤ j ∧ ps[j]? = some data ∧ key = BitVec.ofNat 32 (offset ps j - offset ps k)

section
variable {origin : SeqNum} {old : List UInt8} {ps : List (List UInt8)} {S : Nat → Prop} {k : Nat} {r : Receiver}
  (hne : ∀ p ∈ ps, p ≠ []) (hlen : ps.flatten.length ≤ 2 ^ 31)

include hne hlen

theorem key_ne_zero (hkj : k < j) (hj : j < ps.length) : BitVec.ofNat 32 (offset ps j - offset ps k) ≠ 0 := by
  have hlt := offset_lt hne hkj (by omega)
  have hle := offset_le ps j
  intro h
  have := congrArg BitVec.toNat h
  rw [BitVec.toNat_ofNat, Nat.mod_eq_of_lt (by omega)] at this
  simp at this
  omega

theorem key_inj (hki : k ≤ i) (hkj : k ≤ j) (hi : i < ps.length) (hj : j < ps.length)
    (h : BitVec.ofNat 32 (offset ps i - offset ps k) = BitVec.ofNat 32 (offset ps j - offset ps k)) : i = j := by
  have hi' := offset_mono ps hki
  have hj' := offset_mono ps hkj
  have hle := offset_le ps i
  have hle' := offset_le ps j
  have := congrArg BitVec.toNat h
  rw [BitVec.toNat_ofNat, BitVec.toNat_ofNat, Nat.mod_eq_of_lt (by omega), Nat.mod_eq_of_lt (by omega)] at this
  exact offset_inj hne (by omega) (by omega) (by omega)

theorem Assembling.advance (h : Assembling origin old ps S k r) {data : List UInt8} (hp : ps[k]? = some data)
    (S' : Nat → Prop) (hS : ∀ j, k < j → (S' j ↔ S j)) (hbounded : ∀ j, S' j → j < ps.length)
    (buf : AssocMap (BitVec 32) (List UInt8)) (hzero : buf.get? 0 = none)
    (hbuf : ∀ key, key ≠ 0 → buf.get? key = r.buffer.get? key) :
    Assembling origin old ps S' (k + 1) { r.write data with buffer := rebase buf (r.ring.write data).2 } := by
  have hk : k < ps.length := (List.getElem?_eq_some_iff.1 hp).1
  have hsucc := offset_succ hp
  have htotal := offset_le ps (k + 1)
  have hroom := h.room
  have hw : (r.ring.write data).2 = data.length := SpscByteRing.write_of_fits _ _ (by omega)
  -- seen from piece `k + 1`, a later piece is closer by the length of piece `k`
  have hkey (j : Nat) (hj : k < j) : BitVec.ofNat 32 (offset ps j - offset ps (k + 1)) + BitVec.ofNat 32 data.length =
      BitVec.ofNat 32 (offset ps j - offset ps k) := by
    have hmono : offset ps (k + 1) ≤ offset ps j := offset_mono ps hj
    rw [← BitVec.ofNat_add]
    congr 1
    omega
  refine ⟨h.state, hk, ?_, ?_, ?_, hbounded, fun key data' => ?_⟩
  · change r.rcvNxt.add (r.ring.write data).2 = _
    rw [h.nxt, hw, hsucc, SeqNum.add_add]
  · change (r.ring.write data).1.stream = _
    rw [SpscByteRing.stream_write, hw, List.take_length, h.written, take_succ_flatten hp, List.append_assoc]
  · change _ ≤ (r.ring.write data).1.availableWrite
    rw [SpscByteRing.availableWrite_write, hw]
    omega
  · change (rebase buf (r.ring.write data).2).get? key = some data' ↔ _
    rw [get?_rebase, hw]
    constructor
    · intro hget
      have hnz : key + BitVec.ofNat 32 data.length ≠ 0 := by
        intro hz
        rw [hz, hzero] at hget
        cases hget
      rw [hbuf _ hnz] at hget
      obtain ⟨j, hj, hkj, hpj, hkeyj⟩ := (h.held _ _).1 hget
      have hlt : k < j := by
        rcases Nat.lt_or_ge k j with hlt | hge
        · exact hlt
        · obtain rfl : k = j := by omega
          rw [Nat.sub_self] at hkeyj
          exact absurd hkeyj hnz
      refine ⟨j, (hS j hlt).2 hj, hlt, hpj, ?_⟩
      rw [← hkey j hlt] at hkeyj
      exact add_right_cancel hkeyj
    · rintro ⟨j, hj, hlt, hpj, rfl⟩
      have hlt' : k < j := hlt
      rw [hkey j hlt', hbuf _ (key_ne_zero hne hlen hlt' (hbounded j hj))]
      exact (h.held _ _).2 ⟨j, (hS j hlt').1 hj, by omega, hpj, rfl⟩

theorem Assembling.drain (fuel : Nat) : ∀ (k : Nat) (d : Delivery), d.buffer.size ≤ fuel →
    Assembling origin old ps S k (r.withDelivery d) →
    ∃ k', Assembling origin old ps S k' (r.withDelivery (drainReorder fuel d)) ∧ ¬S k' := by
  have hnext (k : Nat) (d : Delivery) (h : Assembling origin old ps S k (r.withDelivery d))
      (hnone : d.buffer.get? 0 = none) : ¬S k := by
    intro hk
    obtain ⟨p, hp⟩ : ∃ p, ps[k]? = some p := ⟨_, List.getElem?_eq_getElem (h.bounded k hk)⟩
    have hget := (h.held 0 _).2 ⟨k, hk, le_refl k, hp, by rw [Nat.sub_self]; rfl⟩
    change d.buffer.get? 0 = _ at hget
    rw [hnone] at hget
    cases hget
  induction fuel with
  | zero =>
    intro k d hsize h
    have hnil : d.buffer.entries = [] := List.length_eq_zero_iff.1 (Nat.le_zero.1 hsize)
    exact ⟨k, h, hnext k d h (by rw [AssocMap.get?, hnil]; rfl)⟩
  | succ fuel ih =>
    intro k d hsize h
    rw [drainReorder]
    cases hget : d.buffer.get? 0 with
    | none => exact ⟨k, h, hnext k d h hget⟩
    | some data =>
      -- only the piece at `rcv_nxt` has key zero
      obtain ⟨j, hj, hkj, hp, hkey⟩ := (h.held 0 data).1 hget
      obtain rfl : k = j := by
        rcases Nat.lt_or_ge k j with hlt | hge
        · exact absurd hkey.symm (key_ne_zero hne hlen hlt (h.bounded j hj))
        · omega
      have hadv := h.advance hne hlen hp S (fun _ _ => Iff.rfl) h.bounded
        (d.buffer.erase 0) (AssocMap.get?_erase_self _ _) (fun key hk => AssocMap.get?_erase_ne _ hk)
      refine ih (k + 1) _ ?_ hadv
      have hsize := AssocMap.size_erase_of_get? hget
      change (rebase (d.buffer.erase 0) _).size ≤ fuel
      rw [rebase, AssocMap.size_mapKeys]
      omega

theorem Assembling.hold (h : Assembling origin old ps S k r) {data : List UInt8} (hp : ps[i]? = some data)
    (hki : k < i) (seq : SeqNum) (hseq : seq = origin.add (offset ps i)) :
    Assembling origin old ps (fun j => S j ∨ j = i) k
      { r with buffer := r.buffer.insert (seq.val - r.rcvNxt.val) data } := by
  have hi : i < ps.length := (List.getElem?_eq_some_iff.1 hp).1
  have hmono := offset_mono ps (Nat.le_of_lt hki)
  have hdist : seq.val - r.rcvNxt.val = BitVec.ofNat 32 (offset ps i - offset ps k) := by
    have hsub := Serial.sub_ofNat_add origin.val (offset ps k) (offset ps i - offset ps k)
    rw [Nat.add_sub_cancel' hmono] at hsub
    rw [hseq, h.nxt]
    exact hsub
  refine ⟨h.state, h.le, h.nxt, h.written, h.room, ?_, fun key data' => ?_⟩
  · rintro j (hj | rfl)
    · exact h.bounded j hj
    · exact hi
  · change (r.buffer.insert (seq.val - r.rcvNxt.val) data).get? key = some data' ↔ _
    rw [AssocMap.get?_insert, hdist]
    split_ifs with hkey
    · constructor
      · intro heq
        obtain rfl := Option.some.inj heq
        exact ⟨i, Or.inr rfl, by omega, hp, hkey⟩
      · rintro ⟨j, hj, hkj, hpj, hkeyj⟩
        have hjlt : j < ps.length := (List.getElem?_eq_some_iff.1 hpj).1
        obtain rfl := key_inj hne hlen (Nat.le_of_lt hki) hkj hi hjlt (hkey.symm.trans hkeyj)
        rw [← hp, hpj]
    · rw [h.held]
      constructor
      · rintro ⟨j, hj, hrest⟩
        exact ⟨j, Or.inl hj, hrest⟩
      · rintro ⟨j, hj | rfl, hrest⟩
        · exact ⟨j, hj, hrest⟩
        · exact absurd hrest.2.2 hkey

omit hne hlen in
theorem Assembling.forget (h : Assembling origin old ps S k r) (hi : i < k) :
    Assembling origin old ps (fun j => S j ∨ j = i) k r := by
  refine ⟨h.state, h.le, h.nxt, h.written, h.room, ?_, fun key data => ?_⟩
  · rintro j (hj | rfl)
    · exact h.bounded j hj
    · exact Nat.lt_of_lt_of_le hi h.le
  · rw [h.held]
    constructor
    · rintro ⟨j, hj, hrest⟩
      exact ⟨j, Or.inl hj, hrest⟩
    · rintro ⟨j, hj | rfl, hkj, hrest⟩
      · exact ⟨j, hj, hkj, hrest⟩
      · omega

/-- **An arrival.** Whichever piece a segment brings, the engine writes it, holds it back or drops it as it should. -/
theorem Assembling.arrive (h : Assembling origin old ps S k t.receiver) (hk : ¬S k) (clock : Instant)
    (hp : ps[i]? = some seg.payload) (hseq : seg.seq = origin.add (offset ps i)) :
    ∃ k', Assembling origin old ps (fun j => S j ∨ j = i) k' (establishedData clock seg t).1.receiver ∧
      ¬(S k' ∨ k' = i) := by
  have hi : i < ps.length := (List.getElem?_eq_some_iff.1 hp).1
  have hpay : seg.payload ≠ [] := hne _ (List.mem_of_getElem? hp)
  have hile := offset_le ps i
  have hkle := offset_le ps k
  have hsucc := offset_le ps (i + 1)
  have hnext : offset ps i < offset ps (i + 1) := offset_lt hne (Nat.lt_succ_self i) hi
  rcases receiver_establishedData_at clock hpay hseq h.nxt (by omega) (by omega) with
    ⟨hlt, -, hrecv⟩ | ⟨heq, hrecv⟩ | ⟨hlt, -, hrecv⟩ <;> rw [hrecv]
  · have hik : i < k := lt_of_not_ge fun hge => absurd (offset_mono ps hge) (by omega)
    exact ⟨k, h.forget hik, by rintro (hs | rfl); exacts [hk hs, by omega]⟩
  · obtain rfl : i = k := offset_inj hne (by omega) h.le heq
    have hzero : t.reorderBuffer.get? 0 = none := by
      cases hget : t.reorderBuffer.get? 0 with
      | none => rfl
      | some data =>
        obtain ⟨j, hj, hkj, -, hkey⟩ := (h.held 0 data).1 hget
        rcases Nat.lt_or_ge i j with hlt | hge
        · exact absurd hkey.symm (key_ne_zero hne hlen hlt (h.bounded j hj))
        · exact absurd (show S i by rwa [show i = j by omega]) hk
    have hadv := h.advance hne hlen hp (fun j => S j ∨ j = i)
      (fun j hj => ⟨fun hs => hs.resolve_right (by omega), Or.inl⟩)
      (fun j hj => hj.elim (h.bounded j) (fun e => e ▸ hi)) t.reorderBuffer hzero (fun _ _ => rfl)
    refine Assembling.drain hne hlen _ (i + 1) _ ?_ hadv
    change (rebase t.reorderBuffer _).size ≤ t.reorderBuffer.size
    rw [rebase, AssocMap.size_mapKeys]
  · have hki : k < i := lt_of_not_ge fun hge => absurd (offset_mono ps hge) (by omega)
    refine ⟨k, h.hold hne hlen hp hki seg.seq hseq, ?_⟩
    rintro (hs | rfl)
    · exact hk hs
    · omega

end

/-- The segment brings piece `i` of the stream at `irs + 1` to the connection; all else is arbitrary. -/
structure BringsPiece (key : FourTuple) (irs : SeqNum) (ps : List (List UInt8)) (i : Nat) (seg : ParsedTcpSegment) :
    Prop where
  dst : seg.dst = key.localAddr
  src : seg.src = key.remoteAddr
  noRst : seg.flags.contains .rst = false
  noFin : seg.flags.contains .fin = false
  seq : seg.seq = irs.add (1 + offset ps i)
  payload : ps[i]? = some seg.payload

theorem BringsPiece.unique (hi : BringsPiece key irs ps i seg) (hne : ∀ p ∈ ps, p ≠ [])
    (hlen : ps.flatten.length ≤ 2 ^ 31) (hj : BringsPiece key irs ps j seg) : i = j := by
  have hlt := (List.getElem?_eq_some_iff.1 hi.payload).1
  have hlt' := (List.getElem?_eq_some_iff.1 hj.payload).1
  have hle := offset_le ps i
  have hle' := offset_le ps j
  have hoff := SeqNum.add_inj irs (hi.seq.symm.trans hj.seq) (by omega) (by omega)
  exact offset_inj hne (by omega) (by omega) (by omega)

def deliverAll (e : TcpEngine) (ds : List (Instant × ParsedTcpSegment)) : TcpEngine :=
  ds.foldl (fun e d => (e.onSegment d.1 d.2).engine) e

theorem receiver_segmentTcb {clock : Instant} (hst : t.state = .established) (hrst : seg.flags.contains .rst = false)
    (hfin : seg.flags.contains .fin = false) :
    (segmentTcb clock seg t).outcome = .live (establishedData clock seg (establishedAck seg t)).1 := by
  simp [segmentTcb, handleExistingTcb, handleEstablished, establishedFin, finInOrder, Effect.keep, hst, hrst, hfin]

/-- A piece of the stream, new or old, keeps the assembly. -/
theorem Assembling.onSegment {origin : SeqNum} {S : Nat → Prop} {k : Nat} (hne : ∀ p ∈ ps, p ≠ [])
    (hlen : ps.flatten.length ≤ 2 ^ 31) {e : TcpEngine} (ht : e.tcbs.get? key = some t) (horigin : origin = irs.add 1)
    (h : Assembling origin old ps S k t.receiver) (hk : ¬S k) (clock : Instant) (hseg : BringsPiece key irs ps i seg) :
    ∃ t' k', (e.onSegment clock seg).engine.tcbs.get? key = some t' ∧
      Assembling origin old ps (fun j => S j ∨ j = i) k' t'.receiver ∧ ¬(S k' ∨ k' = i) := by
  have hkey : key = ⟨seg.dst, seg.src⟩ := by rw [hseg.dst, hseg.src]
  rw [← receiver_establishedAck seg t] at h
  obtain ⟨k', h', hk'⟩ := h.arrive hne hlen hk clock hseg.payload (by rw [hseg.seq, horigin, SeqNum.add_add])
  refine ⟨_, k', ?_, h', hk'⟩
  subst hkey
  have hview := (TcpEngine.view_onSegment clock ht (Vector.replicate 6 0) (Vector.replicate 6 0)).1
  have hst : t.state = .established := by rw [receiver_establishedAck] at h; exact h.state
  rw [receiver_segmentTcb hst hseg.noRst hseg.noFin] at hview
  exact (TcpEngine.view_eq_live_iff _ _ _).1 hview

/-- So do any pieces, in any order. -/
theorem Assembling.deliverAll (hne : ∀ p ∈ ps, p ≠ []) (hlen : ps.flatten.length ≤ 2 ^ 31) :
    ∀ (ds : List (Instant × ParsedTcpSegment))
      (e : TcpEngine) (t : Tcb) (S : Nat → Prop) (k : Nat), e.tcbs.get? key = some t →
      Assembling (irs.add 1) old ps S k t.receiver → ¬S k → (∀ d ∈ ds, ∃ i, BringsPiece key irs ps i d.2) →
      ∃ t' S' k', (deliverAll e ds).tcbs.get? key = some t' ∧ Assembling (irs.add 1) old ps S' k' t'.receiver ∧ ¬S' k' ∧
        (∀ j, S j → S' j) ∧ ∀ d ∈ ds, ∀ i, BringsPiece key irs ps i d.2 → S' i := by
  intro ds
  induction ds with
  | nil => intro e t S k ht h hk _; exact ⟨t, S, k, ht, h, hk, fun _ hj => hj, fun _ hd => absurd hd List.not_mem_nil⟩
  | cons d ds ih =>
    intro e t S k ht h hk hds
    obtain ⟨i, hi⟩ := hds d List.mem_cons_self
    obtain ⟨t1, k1, ht1, h1, hk1⟩ := h.onSegment hne hlen ht rfl hk d.1 hi
    obtain ⟨t', S', k', ht', h', hk', hmono, hcover⟩ :=
      ih _ t1 _ k1 ht1 h1 hk1 fun d' hd' => hds d' (List.mem_cons_of_mem _ hd')
    refine ⟨t', S', k', ht', h', hk', fun j hj => hmono j (Or.inl hj), fun d' hd' j hj => ?_⟩
    rcases List.mem_cons.1 hd' with rfl | hd'
    · obtain rfl := hi.unique hne hlen hj
      exact hmono i (Or.inr rfl)
    · exact hcover d' hd' j hj

theorem assembling_init (hst : t.state = .established) (hnxt : t.rcvNxt = t.irs.add 1)
    (hbuf : t.reorderBuffer.isEmpty = true) (hfit : ps.flatten.length ≤ t.handle.rxRing.availableWrite) :
    Assembling (t.irs.add 1) t.handle.rxRing.stream ps (fun _ => False) 0 t.receiver := by
  refine ⟨hst, Nat.zero_le _, ?_, by simp [Tcb.receiver], ?_, fun _ hj => hj.elim, fun key data => ?_⟩
  · rw [offset_zero, SeqNum.add_zero]
    exact hnxt
  · rw [offset_zero, Nat.sub_zero]
    exact hfit
  · change t.reorderBuffer.get? key = some data ↔ _
    rw [AssocMap.get?, (AssocMap.isEmpty_iff _).1 hbuf]
    simp

theorem Assembling.buffer_isEmpty {origin : SeqNum} {S : Nat → Prop} {r : Receiver}
    (h : Assembling origin old ps S ps.length r) : r.buffer.isEmpty = true := by
  rw [AssocMap.isEmpty_iff]
  rcases hentries : r.buffer.entries with _ | ⟨p, rest⟩
  · rfl
  · have hget := (AssocMap.mem_entries_iff r.buffer p.1 p.2).1 (by rw [hentries]; exact List.mem_cons_self)
    obtain ⟨j, -, hj, hp, -⟩ := (h.held p.1 p.2).1 hget
    have hlt := (List.getElem?_eq_some_iff.1 hp).1
    omega

/-- **Reassembly.** A connection that has just been established is handed a stream in pieces that fits its ring, each
piece at least once, in any order: the ring takes exactly the stream, `rcv_nxt` stands behind it and nothing is held
back. -/
theorem reassembly (e : TcpEngine) (key : FourTuple) (t : Tcb) (ht : e.tcbs.get? key = some t)
    (hst : t.state = .established) (hnxt : t.rcvNxt = t.irs.add 1) (hbuf : t.reorderBuffer.isEmpty = true)
    (hcap : t.handle.rxRing.capacity ≤ 2 ^ 31) (B : List UInt8) (hfit : B.length ≤ t.handle.rxRing.availableWrite)
    (ps : List (List UInt8)) (hne : ∀ p ∈ ps, p ≠ []) (hB : ps.flatten = B) (ds : List (Instant × ParsedTcpSegment))
    (hds : ∀ d ∈ ds, ∃ i, BringsPiece key t.irs ps i d.2)
    (hall : ∀ i < ps.length, ∃ d ∈ ds, BringsPiece key t.irs ps i d.2) :
    ∃ t', (deliverAll e ds).tcbs.get? key = some t' ∧ t'.handle.rxRing.stream = t.handle.rxRing.stream ++ B ∧
      t'.rcvNxt = t.irs.add (1 + B.length) ∧ t'.reorderBuffer.isEmpty = true := by
  subst hB
  have hlen : ps.flatten.length ≤ 2 ^ 31 := hfit.trans ((Nat.sub_le _ _).trans hcap)
  obtain ⟨t', S', k', ht', h', hk', -, hcover⟩ :=
    Assembling.deliverAll hne hlen ds e t _ 0 ht (assembling_init hst hnxt hbuf hfit) id hds
  -- every piece has arrived, so there is no next one
  have hend : k' = ps.length := by
    rcases Nat.lt_or_ge k' ps.length with hlt | hge
    · obtain ⟨d, hd, hbr⟩ := hall k' hlt
      exact absurd (hcover d hd k' hbr) hk'
    · exact Nat.le_antisymm h'.le hge
  subst hend
  refine ⟨t', ht', ?_, ?_, h'.buffer_isEmpty⟩
  · have hw := h'.written
    rwa [List.take_length] at hw
  · have hn := h'.nxt
    rwa [offset_length, SeqNum.add_add] at hn

def samplePieces : List (List UInt8) := [[1, 2], [3], [4, 5, 6]]

/-- A segment with piece `i`, from a peer whose stream starts two bytes before the sequence space wraps. -/
def samplePiece (i : Nat) : ParsedTcpSegment :=
  fromPeer (BitVec.ofNat 32 (0xFFFFFFFE + offset samplePieces i)) 101 .ack 500 (samplePieces.getD i [])

theorem samplePiece_brings (hi : i < 3) : BringsPiece sampleKey ⟨0xFFFFFFFD⟩ samplePieces i (samplePiece i) := by
  interval_cases i <;> exact ⟨rfl, rfl, by decide, by decide, by decide, rfl⟩

theorem reassembly_sample : ∃ t', (deliverAll (sampleEngine 0xFFFFFFFD)
      [(5, samplePiece 2), (6, samplePiece 1), (7, samplePiece 2), (8, samplePiece 0)]).tcbs.get? sampleKey = some t' ∧
    t'.handle.rxRing.stream = [1, 2, 3, 4, 5, 6] ∧ t'.rcvNxt = ⟨4⟩ ∧ t'.reorderBuffer.isEmpty = true := by
  have hds (i : Nat) (hi : i < 3) : ∃ j, BringsPiece sampleKey ⟨0xFFFFFFFD⟩ samplePieces j (samplePiece i) :=
    ⟨i, samplePiece_brings hi⟩
  refine reassembly (sampleEngine 0xFFFFFFFD) sampleKey _ rfl rfl rfl rfl (by decide) [1, 2, 3, 4, 5, 6] (by decide)
    samplePieces (by decide) rfl _ ?_ ?_
  · simp only [List.mem_cons, List.not_mem_nil, or_false, forall_eq_or_imp, forall_eq]
    exact ⟨hds 2 (by decide), hds 1 (by decide), hds 2 (by decide), hds 0 (by decide)⟩
  · intro i hi
    have hi' : i < 3 := hi
    refine ⟨(if i = 0 then 8 else if i = 1 then 6 else 5, samplePiece i), ?_, samplePiece_brings hi'⟩
    interval_cases i <;> simp

end DpdkStdlib.Tcp
