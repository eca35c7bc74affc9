import DpdkStdlib.Tcp.Receiver

/-!
# What the reorder buffer holds

The engine puts every segment ahead of `rcv_nxt` into the reorder buffer, whatever its distance, and moves the keys down
by what the ring takes, wrapping.  So the buffer stays within the receive window only if the peer stays within it, and
only if no two pieces overlap.
-/

namespace DpdkStdlib.Tcp
open DpdkStdlib.Lib Receiver

variable {t : Tcb} {data : List UInt8} {seg : ParsedTcpSegment}

abbrev ReorderBuffer := AssocMap (BitVec 32) (List UInt8)

/-! ## Pieces that do not overlap -/

theorem key_of_rebase {buf : ReorderBuffer} {w : Nat} (hw : ∀ k data, buf.get? k = some data → w ≤ k.toNat)
    {k : BitVec 32} (h : (rebase buf w).get? k = some data) :
    ∃ j : BitVec 32, buf.get? j = some data ∧ j.toNat = k.toNat + w := by
  rw [get?_rebase] at h
  refine ⟨_, h, ?_⟩
  have hle := hw _ data h
  have hlt := k.isLt
  rw [BitVec.toNat_add, BitVec.toNat_ofNat] at hle ⊢
  omega

/-- The pieces held end within `wnd` and do not overlap. -/
structure Spread (buf : ReorderBuffer) (wnd : Nat) : Prop where
  fits : ∀ k data, buf.get? k = some data → k.toNat + data.length ≤ wnd
  apart : ∀ k data k' data', buf.get? k = some data → buf.get? k' = some data' → k.toNat < k'.toNat →
    k.toNat + data.length ≤ k'.toNat

namespace Spread

variable {buf : ReorderBuffer} {wnd : Nat}

theorem empty (wnd : Nat) : Spread .empty wnd :=
  ⟨fun _ _ h => (Option.some_ne_none _ h.symm).elim, fun _ _ _ _ h => (Option.some_ne_none _ h.symm).elim⟩

theorem mono {wnd' : Nat} (h : Spread buf wnd)
    (hfits : ∀ k data, buf.get? k = some data → k.toNat + data.length ≤ wnd') :
    Spread buf wnd' :=
  ⟨hfits, h.apart⟩

theorem erase (h : Spread buf wnd) (k : BitVec 32) : Spread (buf.erase k) wnd := by
  have hsub (j : BitVec 32) (data : List UInt8) (hj : (buf.erase k).get? j = some data) : buf.get? j = some data := by
    rw [AssocMap.get?_erase] at hj
    split_ifs at hj
    exact hj
  exact ⟨fun j data hj => h.fits j data (hsub j data hj),
    fun j data j' data' hj hj' => h.apart j data j' data' (hsub j data hj) (hsub j' data' hj')⟩

theorem rebase (h : Spread buf wnd) {w : Nat} (hw : ∀ k data, buf.get? k = some data → w ≤ k.toNat) :
    Spread (rebase buf w) wnd := by
  constructor
  · intro k data hk
    obtain ⟨j, hj, hval⟩ := key_of_rebase hw hk
    have := h.fits j data hj
    omega
  · intro k data k' data' hk hk' hlt
    obtain ⟨j, hj, hval⟩ := key_of_rebase hw hk
    obtain ⟨j', hj', hval'⟩ := key_of_rebase hw hk'
    have := h.apart j data j' data' hj hj' (by omega)
    omega

theorem insert (h : Spread buf wnd) {k : BitVec 32} (hfits : k.toNat + data.length ≤ wnd)
    (hapart : ∀ j data', buf.get? j = some data' → j ≠ k →
      k.toNat + data.length ≤ j.toNat ∨ j.toNat + data'.length ≤ k.toNat) : Spread (buf.insert k data) wnd := by
  constructor
  · intro j data' hj
    rw [AssocMap.get?_insert] at hj
    split_ifs at hj with hjk
    · obtain rfl := Option.some.inj hj
      rw [hjk]
      exact hfits
    · exact h.fits j data' hj
  · intro j d j' d' hj hj' hlt
    rw [AssocMap.get?_insert] at hj hj'
    split_ifs at hj hj' with hjk hjk' hjk'
    · rw [hjk, hjk'] at hlt
      omega
    · obtain rfl := Option.some.inj hj
      rw [hjk] at hlt ⊢
      have := hapart j' d' hj' hjk'
      omega
    · obtain rfl := Option.some.inj hj'
      rw [hjk'] at hlt ⊢
      have := hapart j d hj hjk
      omega
    · exact h.apart j d j' d' hj hj' hlt

theorem le_key_of_erase (h : Spread buf wnd) (hget : buf.get? 0 = some data) :
    ∀ k data', (buf.erase 0).get? k = some data' → data.length ≤ k.toNat := by
  intro k data' hk
  rw [AssocMap.get?_erase] at hk
  split_ifs at hk with hzero
  have hpos : k.toNat ≠ 0 := fun hz => hzero (BitVec.eq_of_toNat_eq hz)
  have := h.apart 0 data k data' hget hk (by change 0 < k.toNat; omega)
  change 0 + data.length ≤ k.toNat at this
  omega

theorem drain (fuel : Nat) : ∀ d : Delivery, d.buffer.size ≤ fuel → Spread d.buffer wnd →
    Spread (drainReorder fuel d).buffer wnd ∧ (drainReorder fuel d).buffer.get? 0 = none := by
  induction fuel with
  | zero =>
    intro d hsize h
    have hnil : d.buffer.entries = [] := List.length_eq_zero_iff.1 (Nat.le_zero.1 hsize)
    exact ⟨h, by rw [drainReorder, AssocMap.get?, hnil]; rfl⟩
  | succ fuel ih =>
    intro d hsize h
    rw [drainReorder]
    cases hget : d.buffer.get? 0 with
    | none => exact ⟨h, hget⟩
    | some data =>
      refine ih _ ?_ ((h.erase 0).rebase fun k data' hk => ?_)
      · have hsize := AssocMap.size_erase_of_get? hget
        change (Tcp.rebase (d.buffer.erase 0) _).size ≤ fuel
        rw [Tcp.rebase, AssocMap.size_mapKeys]
        omega
      · exact (d.ring.write_le data).trans (h.le_key_of_erase hget k data' hk)

end Spread

/-! ## What is held through an event -/

/-- The reorder buffer and the window it is measured against. -/
structure Holding where
  buffer : ReorderBuffer
  wnd : Nat

/-- What is held back, and the window. -/
def Tcb.holding (t : Tcb) : Holding := ⟨t.reorderBuffer, t.rcvWnd⟩

/-- Nothing is held at `rcv_nxt`, and what is held is spread over the window. -/
structure Holding.Sound (s : Holding) : Prop where
  spread : Spread s.buffer s.wnd
  none_zero : s.buffer.get? 0 = none

/-- Every piece held lies ahead of `rcv_nxt` and within the receive window. -/
def HeldWithin (t : Tcb) : Prop :=
  ∀ k data, t.reorderBuffer.get? k = some data → 0 < k.toNat ∧ k.toNat + data.length ≤ t.rcvWnd

theorem Holding.Sound.heldWithin (h : t.holding.Sound) : HeldWithin t := by
  intro k data hget
  refine ⟨Nat.pos_of_ne_zero fun hz => ?_, h.spread.fits k data hget⟩
  rw [show k = 0 from BitVec.eq_of_toNat_eq hz, show t.reorderBuffer.get? 0 = none from h.none_zero] at hget
  cases hget

/-- No octet of the segment lies in `[rcv_nxt, rcv_nxt + rcv_wnd)`. -/
def OutsideWindow (seg : ParsedTcpSegment) (t : Tcb) : Prop :=
  ∀ i < octets seg, t.rcvWnd ≤ (seg.seq.add i).diff t.rcvNxt

/-- Payload at `rcv_nxt` ends before what is held; payload ahead is in the window and overlaps nothing. -/
structure FitsWindow (seg : ParsedTcpSegment) (t : Tcb) : Prop where
  opened : 0 < t.rcvWnd
  next : seg.seq = t.rcvNxt →
    ∀ p ∈ t.reorderBuffer.entries, min seg.payload.length t.handle.rxRing.availableWrite ≤ p.1.toNat
  ahead : seg.payload ≠ [] → seg.seq.gt t.rcvNxt = true →
    seg.seq.diff t.rcvNxt + seg.payload.length ≤ t.rcvWnd ∧
      ∀ p ∈ t.reorderBuffer.entries, p.1.toNat ≠ seg.seq.diff t.rcvNxt →
        seg.seq.diff t.rcvNxt + seg.payload.length ≤ p.1.toNat ∨ p.1.toNat + p.2.length ≤ seg.seq.diff t.rcvNxt

/-- Segments in ESTABLISHED fit the window, and the buffer is not made smaller than what it holds. -/
def HoldSafe : Outcome → ConnEvent → Prop
  | .live t, .segment _ seg =>
    t.state = .established → seg.flags.contains .rst = false → 0 < octets seg → FitsWindow seg t
  | .live t, .setOption (.recvBufSize size) =>
    ∀ p ∈ t.reorderBuffer.entries, p.1.toNat + p.2.length ≤ size % 2 ^ 32
  | _, _ => True

/-- A segment in ESTABLISHED that lies wholly outside the window leaves reorder buffer, `rcv_nxt` and ring alone. -/
def OutsideIgnored : Outcome → ConnEvent → Prop
  | .live t, .segment clock seg => t.state = .established → OutsideWindow seg t →
      (segmentTcb clock seg t).outcome.handle.rxRing = t.handle.rxRing ∧
        ∀ t', (segmentTcb clock seg t).outcome = .live t' → t'.reorderBuffer = t.reorderBuffer ∧ t'.rcvNxt = t.rcvNxt
  | _, _ => True

theorem holding_establishedAck (seg : ParsedTcpSegment) (t : Tcb) : (establishedAck seg t).holding = t.holding := by
  unfold establishedAck updateSendWindow
  split_ifs <;> rfl

theorem holding_inOrder (clock : Instant) (seg : ParsedTcpSegment) (t : Tcb) :
    (inOrder clock seg t).1.holding = ⟨(deliver seg.payload t).buffer, t.rcvWnd⟩ := by
  unfold inOrder
  dsimp only
  split_ifs <;> rfl

theorem holding_establishedFin (seg : ParsedTcpSegment) (r : Tcb × List Emitted) :
    (establishedFin seg r).1.holding = r.1.holding := by
  unfold establishedFin
  split_ifs <;> rfl

theorem sound_deliver {payload : List UInt8} (h : t.holding.Sound)
    (hnext : ∀ p ∈ t.reorderBuffer.entries, min payload.length t.handle.rxRing.availableWrite ≤ p.1.toNat) :
    Holding.Sound ⟨(deliver payload t).buffer, t.rcvWnd⟩ := by
  have hrebased : Spread (rebase t.reorderBuffer (t.handle.rxRing.write payload).2) t.rcvWnd :=
    h.spread.rebase fun k data hk => hnext (k, data) ((AssocMap.mem_entries_iff _ k data).2 hk)
  obtain ⟨hspread, hzero⟩ := Spread.drain t.reorderBuffer.size
    { ring := (t.handle.rxRing.write payload).1
      rcvNxt := t.rcvNxt.add (t.handle.rxRing.write payload).2
      buffer := rebase t.reorderBuffer (t.handle.rxRing.write payload).2
      drained := 0 } (by rw [rebase, AssocMap.size_mapKeys]) hrebased
  exact ⟨hspread, hzero⟩

theorem sound_hold (h : t.holding.Sound) (hfits : FitsWindow seg t) (hpayload : seg.payload ≠ [])
    (hgt : seg.seq.gt t.rcvNxt = true) :
    Holding.Sound ⟨t.reorderBuffer.insert (seg.seq.val - t.rcvNxt.val) seg.payload, t.rcvWnd⟩ := by
  obtain ⟨hwithin, hapart⟩ := hfits.ahead hpayload hgt
  have hpos := ((SeqNum.lt_iff t.rcvNxt seg.seq).1 hgt).1
  refine ⟨h.spread.insert hwithin fun j data hj hne => ?_, ?_⟩
  · refine hapart (j, data) ((AssocMap.mem_entries_iff _ j data).2 hj) fun hval => hne ?_
    exact BitVec.eq_of_toNat_eq hval
  · change (t.reorderBuffer.insert _ _).get? 0 = none
    rw [AssocMap.get?_insert_ne]
    · exact h.none_zero
    · intro hz
      have hval : seg.seq.diff t.rcvNxt = 0 := (congrArg BitVec.toNat hz).symm
      omega

theorem sound_established {clock : Instant} (h : t.holding.Sound) (hfits : 0 < octets seg → FitsWindow seg t) :
    (handleEstablished clock seg t).1.holding.Sound := by
  have hack := holding_establishedAck seg t
  have hrecv := receiver_establishedAck seg t
  rw [handleEstablished, holding_establishedFin]
  generalize hu : establishedAck seg t = u at hack hrecv ⊢
  have hnxt : u.rcvNxt = t.rcvNxt := congrArg Receiver.rcvNxt hrecv
  have hring : u.handle.rxRing = t.handle.rxRing := congrArg Receiver.ring hrecv
  have hbuf : u.reorderBuffer = t.reorderBuffer := congrArg Receiver.buffer hrecv
  have hwnd : u.rcvWnd = t.rcvWnd := congrArg Holding.wnd hack
  have hsound : u.holding.Sound := by rw [hack]; exact h
  unfold establishedData
  dsimp only
  split_ifs with hempty hseq hgt
  · exact hsound
  all_goals
    have hpayload : seg.payload ≠ [] := fun hnil => hempty (by rw [hnil]; rfl)
    have hlen := List.length_pos_iff.2 hpayload
    have hfit := hfits (by unfold octets; omega)
  · rw [holding_inOrder]
    refine sound_deliver (t := noteData clock u) hsound ?_
    change ∀ p ∈ u.reorderBuffer.entries, min seg.payload.length u.handle.rxRing.availableWrite ≤ p.1.toNat
    rw [hbuf, hring]
    exact hfit.next (hseq.trans hnxt)
  · have hgt' : seg.seq.gt t.rcvNxt = true := by rw [← hnxt]; exact hgt
    have hheld := sound_hold h hfit hpayload hgt'
    rw [← hbuf, ← hnxt, ← hwnd] at hheld
    exact hheld
  · exact hsound

theorem sound_handleSetOption {option : SocketOption} (hsound : t.holding.Sound)
    (hsafe : HoldSafe (.live t) (.setOption option)) : (handleSetOption option t).holding.Sound := by
  cases option with
  | recvBufSize size =>
    refine ⟨hsound.spread.mono fun k data hk => ?_, hsound.none_zero⟩
    have hsize := hsafe (k, data) ((AssocMap.mem_entries_iff _ k data).2 hk)
    exact Nat.le_min.2 ⟨hsound.spread.fits k data hk, hsize⟩
  | keepalive config => cases config <;> exact hsound
  | _ => exact hsound

/-- A call that fits keeps what is held in the window. -/
theorem sound_call {cfg : EngineConfig} {ev : ConnEvent} {t' : Tcb} (h : (callTcb cfg ev t).outcome = .live t')
    (hsafe : HoldSafe (.live t) ev) (hsound : t.holding.Sound) : t'.holding.Sound := by
  have hkept : t'.holding.Sound = t.holding.Sound := by
    refine field_call h (fun t => t.holding.Sound) (fun _ _ => rfl) (fun _ _ => rfl) (fun _ _ _ _ => rfl)
      (fun clock seg hev hst hrst => ?_) fun option hev => ?_
    · subst hev
      exact propext ⟨fun _ => hsound, fun _ => sound_established hsound (hsafe hst hrst)⟩
    · subst hev
      exact propext ⟨fun _ => hsound, fun _ => sound_handleSetOption hsound hsafe⟩
  rw [hkept]
  exact hsound

/-! ## Segments outside the window -/

/-- A segment outside of the window leaves the receive side alone. -/
theorem receiver_outside (clock : Instant) (hout : OutsideWindow seg t) (hfits : 0 < octets seg → FitsWindow seg t) :
    (handleEstablished clock seg t).1.receiver = t.receiver := by
  have hrecv := receiver_establishedAck seg t
  rw [handleEstablished]
  generalize establishedAck seg t = u at hrecv ⊢
  have hnxt : u.rcvNxt = t.rcvNxt := congrArg Receiver.rcvNxt hrecv
  have hdata : (establishedData clock seg u).1.receiver = u.receiver := by
    unfold establishedData
    dsimp only
    split_ifs with hempty hseq hgt
    · rfl
    all_goals
      have hpayload : seg.payload ≠ [] := fun hnil => hempty (by rw [hnil]; rfl)
      have hlen := List.length_pos_iff.2 hpayload
      have hpos : 0 < octets seg := by unfold octets; omega
      have hfirst := hout 0 hpos
      rw [SeqNum.add_zero] at hfirst
    · -- the first byte stands at the left edge
      have hopen := (hfits hpos).opened
      rw [hseq.trans hnxt, SeqNum.diff_self] at hfirst
      omega
    · have hwithin := ((hfits hpos).ahead hpayload (by rw [← hnxt]; exact hgt)).1
      omega
    · rfl
  unfold establishedFin
  rw [← hrecv, ← hdata]
  split_ifs with hfin
  · have hnxt' : (establishedData clock seg u).1.rcvNxt = t.rcvNxt := (congrArg Receiver.rcvNxt hdata).trans hnxt
    unfold finInOrder at hfin
    rw [Bool.and_eq_true, beq_iff_eq, hnxt'] at hfin
    have hoct : octets seg = seg.payload.length + 1 := by rw [octets, if_pos hfin.1]
    have hlast := hout seg.payload.length (by omega)
    have hopen := (hfits (by omega)).opened
    rw [hfin.2, SeqNum.diff_self] at hlast
    omega
  · rfl

theorem outsideIgnored_of_safe (s : Outcome) (ev : ConnEvent) (hsafe : HoldSafe s ev) : OutsideIgnored s ev := by
  cases s with
  | removed hd => trivial
  | live t =>
    cases ev with
    | segment clock seg =>
      intro hst hout
      have hlive (t' : Tcb) (h : (segmentTcb clock seg t).outcome = .live t') : t'.receiver = t.receiver := by
        by_cases hrst : seg.flags.contains .rst = true
        · rw [segmentTcb, if_pos hrst] at h
          rw [live_handleRst h]
        · have hrst' : seg.flags.contains .rst = false := Bool.not_eq_true _ ▸ hrst
          rw [segmentTcb_established clock hst hrst'] at h
          rw [Effect.live_keep h]
          exact receiver_outside clock hout (hsafe hst hrst')
      refine ⟨?_, fun t' h => ⟨congrArg Receiver.buffer (hlive t' h), congrArg Receiver.rcvNxt (hlive t' h)⟩⟩
      cases h : (segmentTcb clock seg t).outcome with
      | live t' => exact congrArg Receiver.ring (hlive t' h)
      | removed hd => exact (@removed_call {} (.segment clock seg) t hd h).1.1
    | _ => trivial

/-! ## Runs -/

/-- **The reorder buffer and the window.** In every run whose segments fit the window, every piece held lies ahead of
`rcv_nxt` and within the receive window, and a segment wholly outside of the window changes nothing. -/
theorem window_kept (cfg : EngineConfig) (o : Opening) (es : List ConnEvent) (h : ConnAlong HoldSafe cfg o es) :
    (∀ t, (connRun cfg o es).1 = .live t → HeldWithin t) ∧ ConnAlong OutsideIgnored cfg o es := by
  refine ⟨fun t ht => ?_, Along.mono outsideIgnored_of_safe h⟩
  have hinit : (o.tcb cfg).holding.Sound := by cases o <;> exact ⟨Spread.empty _, rfl⟩
  have hsound := live_invariant (P := fun t => t.holding.Sound) (fun _ _ _ hsafe hI hlive => sound_call hlive hsafe hI)
    h hinit ht
  exact hsound.heldWithin

instance (seg : ParsedTcpSegment) (t : Tcb) : Decidable (FitsWindow seg t) :=
  decidable_of_iff (_ ∧ _ ∧ _) ⟨fun h => ⟨h.1, h.2.1, h.2.2⟩, fun h => ⟨h.opened, h.next, h.ahead⟩⟩

instance (s : Outcome) (ev : ConnEvent) : Decidable (HoldSafe s ev) := by
  unfold HoldSafe
  split <;> infer_instance

def sampleHeld : List ConnEvent :=
  [.segment 1 (sampleSynAck 7000), .segment 2 (fromPeer 7003 101 .ack 500 [3]),
    .segment 3 (fromPeer 7005 101 .ack 500 [5, 6]), .segment 4 (fromPeer 7001 101 .ack 500 [1, 2])]

theorem window_kept_sample : (∀ t, (connRun {} sampleOpen sampleHeld).1 = .live t → HeldWithin t) ∧
    ConnAlong OutsideIgnored {} sampleOpen sampleHeld :=
  window_kept {} sampleOpen sampleHeld (by decide +kernel)

/-- A segment a gigabyte ahead of `rcv_nxt` is held. -/
theorem far_segment_held : ¬∀ t, (connRun {} sampleOpen
    [.segment 1 (sampleSynAck 7000), .segment 2 (fromPeer 0x40000000 101 .ack 500 [1])]).1 = .live t → HeldWithin t := by
  intro h
  have hheld := (h _ rfl (0x40000000 - 7001) [1] (by decide +kernel)).2
  revert hheld
  decide +kernel

end DpdkStdlib.Tcp
