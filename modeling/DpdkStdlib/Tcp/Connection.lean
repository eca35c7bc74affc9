import DpdkStdlib.Lib.Run
import DpdkStdlib.Tcp.Engine

/-!
# Runs of one connection

The engine's handlers touch one TCB each, so a connection has a life of its own: it opens actively or passively
(`Opening`), and then every event of the engine that concerns it is a `ConnEvent`.
-/

namespace DpdkStdlib.Tcp
open DpdkStdlib.Lib

/-- What happens to a connection. -/
inductive ConnEvent
  | write (data : List UInt8)
  | read (n : Nat)
  | segment (clock : Instant) (seg : ParsedTcpSegment)
  | tick (now clock : Instant)
  | shutdown (clock : Instant) (how : Shutdown)
  | close (clock : Instant) (linger : Option Duration)
  | setOption (option : SocketOption)

def ConnEvent.segment? : ConnEvent → Option ParsedTcpSegment
  | .segment _ seg => some seg
  | _ => none

def ConnectionHandle.appWrite (data : List UInt8) (h : ConnectionHandle) : ConnectionHandle :=
  { h with txRing := (h.txRing.write data).1 }

def ConnectionHandle.appRead (n : Nat) (h : ConnectionHandle) : ConnectionHandle :=
  { h with rxRing := (h.rxRing.read n).1 }

/-- The handler of the engine for an event of a connection. -/
def callTcb (cfg : EngineConfig) : ConnEvent → Tcb → Effect
  | .write data, t => .keep ({ t with handle := t.handle.appWrite data }, [])
  | .read n, t => .keep ({ t with handle := t.handle.appRead n }, [])
  | .segment clock seg, t => segmentTcb clock seg t
  | .tick now clock, t => onTickTcb cfg now clock t
  | .shutdown clock how, t => .keep (handleShutdown clock how t)
  | .close clock linger, t => handleClose clock linger t
  | .setOption option, t => .keep (handleSetOption option t, [])

def ConnEvent.onHandle (h : ConnectionHandle) : ConnEvent → ConnectionHandle
  | .write data => h.appWrite data
  | .read n => h.appRead n
  | _ => h

def connStep (cfg : EngineConfig) : Outcome → ConnEvent → Outcome × List Emitted
  | .live t, ev => ((callTcb cfg ev t).outcome, (callTcb cfg ev t).out)
  | .removed h, ev => (.removed (ev.onHandle h), [])

/-- How a connection comes to be: by a connect, or by a SYN. -/
inductive Opening
  | active (key : FourTuple) (iss : SeqNum) (rxCapacity txCapacity : Nat) (srcMac dstMac : MacAddr) (clock : Instant)
  | passive (key : FourTuple) (iss : SeqNum) (seg : ParsedTcpSegment) (srcMac dstMac : MacAddr) (clock : Instant)

def Opening.key : Opening → FourTuple
  | .active key .. => key
  | .passive key .. => key

def Opening.tcb (cfg : EngineConfig) : Opening → Tcb
  | .active key iss rx tx srcMac dstMac clock => connectTcb cfg key iss (.new rx tx key) srcMac dstMac clock
  | .passive key iss seg srcMac dstMac clock => acceptTcb cfg key iss seg srcMac dstMac clock

def Opening.emitted (cfg : EngineConfig) (o : Opening) : Emitted :=
  match o with
  | .active .. => ⟨.syn, (o.tcb cfg).buildSynFrame⟩
  | .passive .. => ⟨.synAck, (o.tcb cfg).buildSynAckFrame⟩

/-- A connection after its events, with all it has sent. -/
def connRun (cfg : EngineConfig) (o : Opening) (es : List ConnEvent) : Outcome × List Emitted :=
  ((run (connStep cfg) (.live (o.tcb cfg)) es).1, o.emitted cfg :: (run (connStep cfg) (.live (o.tcb cfg)) es).2)

def ConnAlong (good : Outcome → ConnEvent → Prop) (cfg : EngineConfig) (o : Opening) (es : List ConnEvent) : Prop :=
  Along good (connStep cfg) (.live (o.tcb cfg)) es

instance {good : Outcome → ConnEvent → Prop} [∀ s ev, Decidable (good s ev)] (cfg : EngineConfig) (o : Opening)
    (es : List ConnEvent) : Decidable (ConnAlong good cfg o es) :=
  inferInstanceAs (Decidable (Along _ _ _ _))

theorem removed_call {cfg : EngineConfig} {ev : ConnEvent} {t : Tcb} {h : ConnectionHandle}
    (hrem : (callTcb cfg ev t).outcome = .removed h) :
    (h.rxRing = t.handle.rxRing ∧ h.txRing = t.handle.txRing) ∧
      ((callTcb cfg ev t).out = [] ∨ ∃ clock, ev = .close clock (some 0)) := by
  cases ev with
  | write | read | shutdown | setOption => cases hrem
  | segment clock seg =>
    dsimp only [callTcb] at hrem ⊢
    generalize heff : segmentTcb clock seg t = eff at hrem ⊢
    cases segmentTcb_cases heff with
    | refused | embryoReset | reset | lastAcked => cases hrem; simp
    | _ => cases hrem
  | tick now clock =>
    dsimp only [callTcb] at hrem ⊢
    generalize heff : onTickTcb cfg now clock t = eff at hrem ⊢
    cases onTickTcb_cases heff with
    | expired | rtoAborted | keepaliveAborted => cases hrem; simp [timedOutHandle]
    | _ => cases hrem
  | close clock linger =>
    dsimp only [callTcb, handleClose] at hrem
    split_ifs at hrem with hlinger
    · cases hrem; simp [hlinger]
    · cases hrem

/-- The events that are deeds of the connection's own. -/
def ConnEvent.own : ConnEvent → Bool
  | .tick .. | .shutdown .. | .close .. => true
  | .write .. | .read .. | .segment .. | .setOption .. => false

theorem deeds_call {cfg : EngineConfig} {ev : ConnEvent} {t t' : Tcb} (hown : ev.own = true)
    (h : (callTcb cfg ev t).outcome = .live t') : ∃ now clock, Deeds now clock t (callTcb cfg ev t).out t' := by
  cases ev with
  | tick now clock => exact ⟨now, clock, deeds_onTickTcb h⟩
  | shutdown clock how => cases h; exact ⟨0, clock, deeds_handleShutdown 0 how⟩
  | close clock linger => exact ⟨0, clock, deeds_handleClose 0 h⟩
  | write | read | segment | setOption => cases hown

theorem field_call {α : Sort*} {cfg : EngineConfig} {ev : ConnEvent} {t t' : Tcb}
    (h : (callTcb cfg ev t).outcome = .live t') (f : Tcb → α) (hlocal : ∀ t l, f (Tcb.withLocal t l) = f t)
    (hreached : ∀ t r, f (Tcb.withReached t r) = f t)
    (hsyn : ∀ clock seg, ev = .segment clock seg → t.state = .synSent → f (synAckTcb seg t) = f t)
    (hest : ∀ clock seg, ev = .segment clock seg → t.state = .established → seg.flags.contains .rst = false →
      f (handleEstablished clock seg t).1 = f t)
    (hoption : ∀ option, ev = .setOption option → f (handleSetOption option t) = f t) : f t' = f t := by
  cases ev with
  | write data =>
    have hsame : SameRemote t t' := by cases h; exact rfl
    exact hsame.field f hlocal
  | read n =>
    have hsame : SameUnreached t t' := by cases h; exact rfl
    exact hsame.field f hreached
  | segment clock seg => exact field_segmentTcb h f hreached (hsyn clock seg rfl) (hest clock seg rfl)
  | tick | shutdown | close =>
    obtain ⟨_, _, hd⟩ := deeds_call rfl h
    exact hd.sameRemote.field f hlocal
  | setOption option => cases h; exact hoption option rfl

/-- What every event of a connection keeps holds after a run. -/
theorem connRun_invariant {good : Outcome → ConnEvent → Prop} {cfg : EngineConfig} {I : Outcome → List Emitted → Prop}
    (hstep : ∀ s tr ev, good s ev → I s tr → I (connStep cfg s ev).1 (tr ++ (connStep cfg s ev).2))
    {o : Opening} {es : List ConnEvent} (hgood : ConnAlong good cfg o es)
    (hinit : I (.live (o.tcb cfg)) [o.emitted cfg]) : I (connRun cfg o es).1 (connRun cfg o es).2 :=
  run_invariant hstep es _ _ hgood hinit

/-- The rule for a property of the TCB as long as there is one. -/
theorem live_invariant {good : Outcome → ConnEvent → Prop} {cfg : EngineConfig} {P : Tcb → Prop}
    (hcall : ∀ t ev t', good (.live t) ev → P t → (callTcb cfg ev t).outcome = .live t' → P t') {t₀ t : Tcb}
    {es : List ConnEvent} (hgood : Along good (connStep cfg) (.live t₀) es) (hinit : P t₀)
    (h : (run (connStep cfg) (.live t₀) es).1 = .live t) : P t := by
  have hstep : ∀ (s : Outcome) (_ : List Emitted) ev, good s ev → (∀ t, s = .live t → P t) →
      ∀ t', (connStep cfg s ev).1 = .live t' → P t' := by
    intro s _ ev hev hs t' ht'
    cases s with
    | live u => exact hcall u ev t' hev (hs u rfl) ht'
    | removed hd => cases ht'
  exact run_invariant (I := fun (s : Outcome) _ => ∀ t, s = .live t → P t) hstep es (.live t₀) [] hgood
    (fun t ht => Outcome.live.inj ht ▸ hinit) t h

/-! ## A sample connection

The runs that show a behaviour on concrete input all start from this active open. -/

def sampleKey : FourTuple := ⟨.v4 ⟨10, 0, 0, 1⟩ 5000, .v4 ⟨10, 0, 0, 2⟩ 80⟩

def sampleOpen : Opening := .active sampleKey ⟨100⟩ 65536 65536 (Vector.replicate 6 1) (Vector.replicate 6 2) 0

def fromPeer (seq ack : BitVec 32) (flags : TcpFlags) (window : UInt16) (payload : List UInt8) : ParsedTcpSegment where
  src := sampleKey.remoteAddr
  dst := sampleKey.localAddr
  seq := ⟨seq⟩
  ack := ⟨ack⟩
  flags := flags
  window := window
  options := {}
  payload := payload

def sampleSynAck (irs : BitVec 32) : ParsedTcpSegment :=
  { fromPeer irs 101 (TcpFlags.syn.union .ack) 65535 [] with options := { mss := some 1460, windowScale := some 7 } }

end DpdkStdlib.Tcp
