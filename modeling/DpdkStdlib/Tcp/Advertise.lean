import DpdkStdlib.Tcp.Emission

/-!
# Advertised windows

The peer shifts the window field left by the scale we announced.  A window is backed when that value is at most the
free space of `rx_ring` and at most `rcv_wnd`.
-/

namespace DpdkStdlib.Tcp

/-- The bytes the peer reads from a window field, `window * 2 ^ scale`; a scale over 31 is masked as `>>` does. -/
def scaledUp (n : Nat) (scale : UInt8) : Nat := n * 2 ^ (scale.toNat % 32)

/-- The peer reads no more from the window than this end can take. -/
def WindowBacked (t : Tcb) (window : UInt16) : Prop :=
  scaledUp window.toNat t.rcvScale ≤ t.handle.rxRing.availableWrite ∧ scaledUp window.toNat t.rcvScale ≤ t.rcvWnd

theorem scaledUp_shr32_le (x : Nat) (s : UInt8) : scaledUp (min (shr32 x s) 65535) s ≤ x :=
  calc scaledUp (min (shr32 x s) 65535) s ≤ shr32 x s * 2 ^ (s.toNat % 32) :=
        Nat.mul_le_mul_right _ (Nat.min_le_left _ _)
    _ ≤ x := Nat.div_mul_le_self _ _

theorem toNat_clamped (n : Nat) : (UInt16.ofNat (min n 65535)).toNat = min n 65535 := by
  rw [UInt16.toNat_ofNat_of_lt']
  have := Nat.min_le_right n 65535
  simp only [UInt16.size]
  omega

theorem windowBacked_zero (t : Tcb) : WindowBacked t 0 := by
  simp [WindowBacked, scaledUp]

theorem encodeEstablishedWindow_backed (t : Tcb) : WindowBacked t (encodeEstablishedWindow t) := by
  unfold WindowBacked encodeEstablishedWindow
  dsimp only
  rw [toNat_clamped]
  split_ifs
  · have h := scaledUp_shr32_le 0 t.rcvScale
    exact ⟨by omega, by omega⟩
  · have h := scaledUp_shr32_le (min (t.handle.rxRing.availableWrite % 2 ^ 32) t.rcvWnd) t.rcvScale
    have hmod := Nat.mod_le t.handle.rxRing.availableWrite (2 ^ 32)
    exact ⟨by omega, by omega⟩

/-- The peer has agreed to window scaling: during the handshake its SYN-ACK has to say so. -/
def PeerScales (t : Tcb) : ConnEvent → Prop
  | .segment _ seg => t.state = .synSent → seg.options.windowScale.isSome = true
  | _ => True

/-- Every frame of the call without SYN has a backed window, in the TCB as the call leaves it. -/
def WindowsBacked (cfg : EngineConfig) (ev : ConnEvent) (t : Tcb) : Prop :=
  PeerScales t ev → ∀ f ∈ (callTcb cfg ev t).out, f.params.flags.contains .syn = false →
    WindowBacked ((callTcb cfg ev t).after t) f.params.window

/-- If the event completes an active open with scaling, the unscaled window is small enough once it is scaled up. -/
def HandshakeWindowFits (t : Tcb) : ConnEvent → Prop
  | .segment _ seg => AnswersSyn seg t → seg.options.windowScale.isSome = true →
      scaledUp (min t.rcvWnd 65535) t.rcvScale ≤ t.handle.rxRing.availableWrite ∧
        scaledUp (min t.rcvWnd 65535) t.rcvScale ≤ t.rcvWnd
  | _ => True

theorem BuiltFrom.backed {t : Tcb} {f : Emitted} (hf : BuiltFrom t f) (hsyn : f.params.flags.contains .syn = false)
    (hsite : f.site ≠ .handshakeAck) : WindowBacked t f.params.window := by
  obtain ⟨seq, payload, hp, -⟩ := hf
  rw [hp] at hsyn ⊢
  change f.site.flags.contains .syn = false at hsyn
  change WindowBacked t (f.site.window t)
  cases hs : f.site with
  | syn => rw [hs] at hsyn; exact absurd hsyn (by decide)
  | synAck => rw [hs] at hsyn; exact absurd hsyn (by decide)
  | handshakeAck => exact absurd hs hsite
  | rst | rstReply => exact windowBacked_zero t
  | ack | challengeAck | data | retransmit | probe | keepalive | fin => exact encodeEstablishedWindow_backed t

theorem site_ne_handshakeAck {cfg : EngineConfig} {ev : ConnEvent} {t : Tcb} {f : Emitted}
    (hf : f ∈ (callTcb cfg ev t).out) (hev : ∀ clock seg, ev = .segment clock seg → ¬AnswersSyn seg t) :
    f.site ≠ .handshakeAck := by
  cases ev with
  | write | read | setOption => cases hf
  | segment clock seg =>
    rcases site_segmentTcb hf with h | h | ⟨-, hst⟩
    · rw [h]; decide
    · rw [h]; decide
    · exact absurd (answersSyn_of_mem hst hf) (hev clock seg rfl)
  | tick now clock =>
    intro hs
    have hsite := site_onTickTcb hf
    rw [hs] at hsite
    cases hsite
  | shutdown clock how => rw [site_handleShutdown hf]; decide
  | close clock linger => rcases site_handleClose hf with h | h <;> rw [h] <;> decide

/-- **Advertised windows.** A call advertises more than the receiver has only by the ACK that completes an active open:
its frames are backed exactly when the window of that ACK, which is not scaled down, fits after the peer scales it. -/
theorem windowsBacked_iff (cfg : EngineConfig) (ev : ConnEvent) (t : Tcb) :
    WindowsBacked cfg ev t ↔ HandshakeWindowFits t ev := by
  constructor
  · intro h
    cases ev with
    | segment clock seg =>
      intro hans hscale
      have hcall : callTcb cfg (.segment clock seg) t = _ := segmentTcb_answersSyn hans
      have hmem : handshakeAck (synAckTcb seg t) ∈ (callTcb cfg (.segment clock seg) t).out := by
        rw [hcall]; exact List.mem_singleton.2 rfl
      have hflag : TcpFlags.ack.contains .syn = false := by decide
      have hw := h (fun _ => hscale) (handshakeAck (synAckTcb seg t)) hmem hflag
      rw [hcall] at hw
      have hn : (handshakeAck (synAckTcb seg t)).params.window.toNat = min t.rcvWnd 65535 := toNat_clamped t.rcvWnd
      unfold WindowBacked at hw
      rwa [hn] at hw
    | _ => trivial
  · intro h hscale f hf hsyn
    have hbuilt := builtFrom_call cfg ev t hf
    by_cases hans : ∃ clock seg, ev = .segment clock seg ∧ AnswersSyn seg t
    · obtain ⟨clock, seg, rfl, hans⟩ := hans
      have hcall : callTcb cfg (.segment clock seg) t = _ := segmentTcb_answersSyn hans
      rw [hcall] at hf ⊢
      rw [List.mem_singleton.1 hf]
      have hn : (handshakeAck (synAckTcb seg t)).params.window.toNat = min t.rcvWnd 65535 := toNat_clamped t.rcvWnd
      unfold WindowBacked
      rw [hn]
      exact h hans (hscale hans.state)
    · refine hbuilt.backed hsyn (site_ne_handshakeAck hf fun clock seg hev hs => hans ⟨clock, seg, hev, hs⟩)

/-- With the default configuration the ACK of the handshake advertises `65535 << 7` bytes of a 65536-byte ring. -/
theorem handshake_overadvertises :
    ¬WindowsBacked {} (.segment 0 (sampleSynAck 7000)) (sampleOpen.tcb {}) := by
  intro h
  have hans : AnswersSyn (sampleSynAck 7000) (sampleOpen.tcb {}) := ⟨rfl, by decide, by decide, by decide, rfl⟩
  have hcall : callTcb {} (.segment 0 (sampleSynAck 7000)) (sampleOpen.tcb {}) = _ := segmentTcb_answersSyn hans
  unfold WindowsBacked at h
  rw [hcall] at h
  have hfree := (h (fun _ => rfl) _ (List.mem_singleton.2 rfl) (by decide)).1
  revert hfree
  decide

end DpdkStdlib.Tcp
