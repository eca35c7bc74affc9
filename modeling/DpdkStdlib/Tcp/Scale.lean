import DpdkStdlib.Tcp.Advertise
import DpdkStdlib.Tcp.Codec
import DpdkStdlib.Tcp.Lifecycle
import DpdkStdlib.Tcp.Projection

/-!
# Window-scale negotiation

The SYN or SYN-ACK of the peer fixes both shifts of a connection: `snd_scale` is the byte of its window-scale option,
zero without one, and `rcv_scale` stays what the configuration says.
-/

namespace DpdkStdlib.Tcp
open DpdkStdlib.Lib

/-- The segment opens a connection, or completes the active open of one, and leaves it with this TCB. -/
structure Negotiated (e : TcpEngine) (clock : Instant) (seg : ParsedTcpSegment) (srcMac dstMac : MacAddr) (t₀ : Tcb) :
    Prop where
  before : ∀ t ∈ e.tcbs.get? ⟨seg.dst, seg.src⟩, t.state = .synSent
  after : (e.onSegmentWithMacs clock seg srcMac dstMac).engine.tcbs.get? ⟨seg.dst, seg.src⟩ = some t₀
  done : t₀.state ≠ .synSent

/-- The shifts of a TCB are below 32, the peer's is at most 14 and loses no bit, and nothing is shifted if the peer did
not offer the option. -/
structure ScaleSafe (seg : ParsedTcpSegment) (t : Tcb) : Prop where
  sndShift : t.sndScale.toNat < 32
  rcvShift : t.rcvScale.toNat < 32
  lossless : ∀ window : UInt16, shl32 window.toNat t.sndScale = window.toNat * 2 ^ t.sndScale.toNat
  limit : t.sndScale.toNat ≤ 14
  unscaled : seg.options.windowScale = none → t.sndScale = 0 ∧ t.rcvScale = 0

/-- The configured shift is one of a 32-bit word, and zero if the peer does not scale; the peer's is at most 14. -/
def ScaleNegotiable (cfg : EngineConfig) (seg : ParsedTcpSegment) : Prop :=
  cfg.defaultRcvScale.toNat < 32 ∧
    match seg.options.windowScale with
    | some shift => shift.toNat ≤ 14
    | none => cfg.defaultRcvScale = 0

/-! ## The shifts through a run -/

def Tcb.scales (t : Tcb) : UInt8 × UInt8 := (t.sndScale, t.rcvScale)

theorem scales_handleEstablished (clock : Instant) (seg : ParsedTcpSegment) (t : Tcb) :
    (handleEstablished clock seg t).1.scales = t.scales :=
  field_handleEstablished clock seg t Tcb.scales fun _ _ => rfl

theorem scales_handleSetOption (option : SocketOption) (t : Tcb) : (handleSetOption option t).scales = t.scales :=
  field_handleSetOption option t Tcb.scales fun _ _ => rfl

theorem scales_call {cfg : EngineConfig} {ev : ConnEvent} {t t' : Tcb} (h : (callTcb cfg ev t).outcome = .live t')
    (hsyn : t.state ≠ .synSent) : t'.scales = t.scales :=
  field_call h Tcb.scales (fun _ _ => rfl) (fun _ _ => rfl) (fun _ _ _ hst => absurd hst hsyn)
    (fun clock seg _ _ _ => scales_handleEstablished clock seg t) fun option _ => scales_handleSetOption option t

theorem rcvScale_call {cfg : EngineConfig} {ev : ConnEvent} {t t' : Tcb} (h : (callTcb cfg ev t).outcome = .live t') :
    t'.rcvScale = t.rcvScale :=
  field_call h Tcb.rcvScale (fun _ _ => rfl) (fun _ _ => rfl) (fun _ _ _ _ => rfl)
    (fun clock seg _ _ _ => congrArg Prod.snd (scales_handleEstablished clock seg t))
    fun option _ => congrArg Prod.snd (scales_handleSetOption option t)

theorem scales_run {cfg : EngineConfig} {t₀ t : Tcb} (hsyn : t₀.state ≠ .synSent) {es : List ConnEvent}
    (h : (run (connStep cfg) (.live t₀) es).1 = .live t) : t.scales = t₀.scales := by
  have hkept := live_invariant (P := fun t => t.state ≠ .synSent ∧ t.scales = t₀.scales)
    (fun u ev t' _ hI hlive => ⟨state_call_ne rfl hI.1 hlive, (scales_call hlive hI.1).trans hI.2⟩)
    (along_true _ es) ⟨hsyn, rfl⟩ h
  exact hkept.2

theorem reachable_rcvScale (isnGen : IsnGenerator) (cfg : EngineConfig) (evs : List EngineEvent) {key : FourTuple}
    {t : Tcb} (ht : (engineRun (.new isnGen cfg) evs).tcbs.get? key = some t) : t.rcvScale = cfg.defaultRcvScale := by
  refine reachable_invariant ht (P := fun t => t.rcvScale = cfg.defaultRcvScale)
    (fun _ _ _ hI hlive => (rcvScale_call hlive).trans hI) fun o => ?_
  cases o <;> rfl

/-! ## The handshake -/

theorem Negotiated.scales_eq {isnGen : IsnGenerator} {cfg : EngineConfig} {evs : List EngineEvent} {clock : Instant}
    {seg : ParsedTcpSegment} {srcMac dstMac : MacAddr} {t₀ : Tcb}
    (h : Negotiated (engineRun (.new isnGen cfg) evs) clock seg srcMac dstMac t₀) :
    t₀.scales = (seg.options.windowScale.getD 0, cfg.defaultRcvScale) := by
  have hcfg := (reachable_view isnGen cfg evs ⟨seg.dst, seg.src⟩).1
  have hbefore := h.before
  have hafter := h.after
  cases ht : (engineRun (.new isnGen cfg) evs).tcbs.get? ⟨seg.dst, seg.src⟩ with
  | none =>
    rcases TcpEngine.onSegmentWithMacs_of_none clock ht srcMac dstMac with ⟨hsame, -⟩ | ⟨-, -, -, hinsert, -⟩
    · rw [hsame, ht] at hafter
      cases hafter
    · rw [hinsert, TcpEngine.tcbs_insertTcb, AssocMap.get?_insert_self, hcfg] at hafter
      obtain rfl := Option.some.inj hafter
      rfl
  | some t =>
    have hst : t.state = .synSent := hbefore t ht
    have hview := (TcpEngine.view_onSegment clock ht srcMac dstMac).1
    have hlive := Option.some.inj (hview.symm.trans ((TcpEngine.view_eq_live_iff _ _ _).2 hafter))
    rcases segmentTcb_synSent hlive hst with rfl | rfl
    · exact absurd hst h.done
    · have hrcv := reachable_rcvScale isnGen cfg evs ht
      change (seg.options.windowScale.getD 0, t.rcvScale) = _
      rw [hrcv]

theorem shl32_eq_of_le (window : UInt16) {s : UInt8} (h : s.toNat ≤ 16) :
    shl32 window.toNat s = window.toNat * 2 ^ s.toNat := by
  have hlt := window.toNat_lt
  have hpow : 2 ^ s.toNat ≤ 2 ^ 16 := Nat.pow_le_pow_right (by decide) h
  have hmul : window.toNat * 2 ^ s.toNat < 2 ^ 32 :=
    calc window.toNat * 2 ^ s.toNat ≤ window.toNat * 2 ^ 16 := Nat.mul_le_mul_left _ hpow
      _ < 2 ^ 32 := by omega
  rw [shl32, Nat.mod_eq_of_lt (show s.toNat < 32 by omega), Nat.mod_eq_of_lt hmul]

theorem scaleSafe_iff {cfg : EngineConfig} {seg : ParsedTcpSegment} {t : Tcb}
    (h : t.scales = (seg.options.windowScale.getD 0, cfg.defaultRcvScale)) :
    ScaleSafe seg t ↔ ScaleNegotiable cfg seg := by
  obtain ⟨hsnd, hrcv⟩ := Prod.mk.inj h
  unfold ScaleNegotiable
  constructor
  · intro hsafe
    refine ⟨hrcv ▸ hsafe.rcvShift, ?_⟩
    have hlimit := hsafe.limit
    have hunscaled := hsafe.unscaled
    cases hopt : seg.options.windowScale with
    | some shift => rw [hsnd, hopt] at hlimit; exact hlimit
    | none => exact hrcv.symm.trans (hunscaled hopt).2
  · rintro ⟨hword, hopt⟩
    have hlimit : t.sndScale.toNat ≤ 14 := by
      rw [hsnd]
      cases hws : seg.options.windowScale with
      | some shift => rw [hws] at hopt; exact hopt
      | none => exact Nat.zero_le 14
    refine ⟨by omega, hrcv ▸ hword, fun window => shl32_eq_of_le window (by omega), hlimit, fun hnone => ?_⟩
    rw [hnone] at hopt hsnd
    exact ⟨hsnd, hrcv.trans hopt⟩

/-- **Window-scale negotiation.** Whatever options the peer's SYN or SYN-ACK carries, the shifts of the connection it
opens are safe for the rest of its life exactly if `ScaleNegotiable` holds. -/
theorem window_scale_iff (isnGen : IsnGenerator) (cfg : EngineConfig) (evs : List EngineEvent) (clock : Instant)
    (seg : ParsedTcpSegment) (srcMac dstMac : MacAddr) (t₀ : Tcb)
    (h : Negotiated (engineRun (.new isnGen cfg) evs) clock seg srcMac dstMac t₀) :
    (∀ es t, (run (connStep cfg) (.live t₀) es).1 = .live t → ScaleSafe seg t) ↔ ScaleNegotiable cfg seg := by
  constructor
  · intro hsafe
    exact (scaleSafe_iff h.scales_eq).1 (hsafe [] t₀ rfl)
  · intro hcond es t hrun
    exact (scaleSafe_iff ((scales_run h.done hrun).trans h.scales_eq)).2 hcond

def scaledSynAck (windowScale : Option UInt8) : ParsedTcpSegment :=
  { sampleSynAck 1000 with options := { mss := some 1460, windowScale } }

def synSentEngine : TcpEngine :=
  engineRun sampleBoot
    [.connect 0 sampleKey (Vector.replicate 6 1) (Vector.replicate 6 2) 65536 65536 0]

def negotiatedTcb (windowScale : Option UInt8) : Option Tcb :=
  (synSentEngine.onSegment 1 (scaledSynAck windowScale)).engine.tcbs.get? sampleKey

theorem window_scale_sample : ∃ t₀, negotiatedTcb (some 7) = some t₀ ∧ t₀.state = .established ∧
    ∀ es t, (run (connStep {}) (.live t₀) es).1 = .live t → ScaleSafe (scaledSynAck (some 7)) t := by
  have hlimit : (7 : UInt8).toNat ≤ 14 := by decide
  have hst : (negotiatedTcb (some 7)).map Tcb.state = some .established := by decide
  obtain ⟨t₀, ht₀, hest⟩ := Option.map_eq_some_iff.1 hst
  refine ⟨t₀, ht₀, hest,
    (window_scale_iff _ _ _ 1 (scaledSynAck (some 7)) _ _ t₀ ⟨by decide, ht₀, ?_⟩).2 ⟨by decide, hlimit⟩⟩
  rw [hest]
  decide

/-- The shift 255 is taken from the wire; and without the option our own windows are still scaled. -/
theorem scale_unchecked :
    parseOptions [3, 3, 255, 0] = some { windowScale := some 255 } ∧
      (negotiatedTcb (some 255)).map (fun t => (t.state, t.sndScale, shl32 3 t.sndScale)) =
        some (.established, 255, 2 ^ 31) ∧
      (negotiatedTcb none).map (fun t => (t.state, t.sndScale, t.rcvScale)) = some (.established, 0, 7) ∧
      (∀ t ∈ negotiatedTcb (some 255), ¬ScaleSafe (scaledSynAck (some 255)) t) ∧
      ∀ t ∈ negotiatedTcb none, ¬ScaleSafe (scaledSynAck none) t := by
  refine ⟨by decide, by decide, by decide, fun t ht hsafe => ?_, fun t ht hsafe => ?_⟩
  · have hscale : (negotiatedTcb (some 255)).map Tcb.sndScale = some 255 := by decide
    rw [ht] at hscale
    have hlimit := hsafe.limit
    rw [Option.some.inj hscale] at hlimit
    exact absurd hlimit (by decide)
  · have hscale : (negotiatedTcb none).map Tcb.rcvScale = some 7 := by decide
    rw [ht] at hscale
    have hzero := (hsafe.unscaled rfl).2
    rw [Option.some.inj hscale] at hzero
    exact absurd hzero (by decide)

end DpdkStdlib.Tcp
