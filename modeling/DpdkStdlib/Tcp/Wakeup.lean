import DpdkStdlib.Lib.Monitor
import DpdkStdlib.Lib.Run

/-!
# Waking the engine (`contract.rs`, `stream.rs`)

A command is put into a channel, and `EngineWakeup` tells the engine: a flag that is stored without the lock, and a
condition variable.  The engine loop waits for the signal, in its branch `RxReadiness::Fd`, and then takes commands
until there is none.  A step is one access to the channel, the flag or the lock; any number of threads send.
-/

namespace DpdkStdlib.Tcp
open DpdkStdlib.Lib

/-- Where a thread is in `CommandSender::send` or `EngineWakeup::signal`. -/
inductive Signalling
  | idle | storing | locking | notifying
deriving DecidableEq

/-- The channel and the wakeup, the threads that send, and whether the loop is taking commands. -/
structure EngineLoop (α : Type*) where
  queue : List α := []
  flag : Bool := false
  monitor : Monitor Unit Nat := {}
  senders : Nat → Signalling := fun _ => .idle
  draining : Bool := false

inductive WakeupEvent (α : Type*)
  /-- A thread sends a command, or only signals. -/
  | send (thread : Nat) (cmd : Option α)
  | step (thread : Nat)
  /-- A spurious wakeup, or the end of the timed wait. -/
  | wake
  | engine

namespace EngineLoop
variable {α : Type*} {s : EngineLoop α}

/-- `EngineWakeup::wait`: lock, swap the flag, park, and when woken swap it again under the lock. -/
def wait (s : EngineLoop α) : EngineLoop α :=
  match s.monitor.place () with
  | .away => if s.monitor.lock = none then { s with monitor := s.monitor.enter () } else s
  | .checking 0 =>
    if s.flag then { s with flag := false, monitor := s.monitor.leave (), draining := true }
    else { s with monitor := s.monitor.look () 0 }
  | .checking (_ + 1) => { s with monitor := s.monitor.park () }
  | .parked => s
  | .woken =>
    if s.monitor.lock = none then { s with flag := false, monitor := s.monitor.leave (), draining := true } else s

/-- A turn of the loop that takes commands. -/
def drain (s : EngineLoop α) : EngineLoop α × List α :=
  match s.queue with
  | cmd :: queue => ({ s with queue }, [cmd])
  | [] => ({ s with draining := false }, [])

/-- `EngineWakeup::signal`: store the flag, take the lock, and notify the one thread that can wait. -/
def signal (s : EngineLoop α) (thread : Nat) : EngineLoop α :=
  match s.senders thread with
  | .idle => s
  | .storing => { s with flag := true, senders := Function.update s.senders thread .locking }
  | .locking =>
    if s.monitor.lock = none then
      { s with monitor := s.monitor.take thread, senders := Function.update s.senders thread .notifying }
    else s
  | .notifying =>
    if s.monitor.lock = some (.inr thread) then
      { s with monitor := s.monitor.notifyAll, senders := Function.update s.senders thread .idle }
    else s

def step (s : EngineLoop α) : WakeupEvent α → EngineLoop α × List α
  | .send thread cmd =>
    if s.senders thread = .idle then
      ({ s with queue := s.queue ++ cmd.toList, senders := Function.update s.senders thread .storing }, [])
    else (s, [])
  | .step thread => (s.signal thread, [])
  | .wake => if s.monitor.place () = .parked then ({ s with monitor := s.monitor.wake () }, []) else (s, [])
  | .engine => if s.draining then s.drain else (s.wait, [])

/-- There is something to do for the engine, and nobody is going to tell. -/
def Lost (s : EngineLoop α) (_ : Unit) (n : Nat) : Prop :=
  n = 0 ∧ (s.queue ≠ [] ∨ s.flag = true) ∧ ∀ thread, s.senders thread = .idle

structure Alert (s : EngineLoop α) : Prop where
  sound : s.monitor.Sound s.Lost
  /-- A command that the loop has not seen is signalled, or going to be. -/
  signalled : s.draining = false → s.monitor.place () = .away ∨ s.monitor.place () = .checking 0 → s.queue ≠ [] →
    s.flag = true ∨ ∃ thread, s.senders thread = .storing

theorem alert_drain (hs : Alert s) (hdrain : s.draining = true) : Alert s.drain.1 := by
  unfold drain
  split
  · next cmd queue hqueue =>
    exact ⟨hs.sound.mono fun _ n h => ⟨h.1, h.2.1.imp_left fun _ => by rw [hqueue]; simp, h.2.2⟩,
      fun hf => absurd (hdrain.symm.trans hf) (by decide)⟩
  · next hqueue => exact ⟨hs.sound, fun _ _ hne => absurd hqueue hne⟩

/-- Back to the loop, with the flag taken down. -/
theorem alert_returned (hsound : (s.monitor.leave ()).Sound s.Lost) :
    Alert { s with flag := false, monitor := s.monitor.leave (), draining := true } :=
  ⟨hsound.mono fun _ _ h => ⟨h.1, .inl (h.2.1.resolve_right Bool.false_ne_true), h.2.2⟩, fun hf => absurd hf (by simp)⟩

theorem alert_wait (hs : Alert s) (hdrain : s.draining = false) : Alert s.wait := by
  unfold wait
  split
  · next hplace =>
    split_ifs with hfree
    exacts [⟨hs.sound.enter hfree (), fun hd _ => hs.signalled hd (.inl hplace)⟩, hs]
  · next hplace =>
    split_ifs with hflag
    · exact alert_returned (hs.sound.leave hplace)
    · refine ⟨hs.sound.look hplace fun hlost => ?_, fun _ hp => by simp [Monitor.look] at hp⟩
      -- the flag is down, so a thread has still to store it
      obtain hstored | ⟨thread, hthread⟩ := hs.signalled hdrain (.inr hplace) (hlost.2.1.resolve_right hflag)
      · exact hflag hstored
      · exact absurd (hthread.symm.trans (hlost.2.2 thread)) (by decide)
  · next n hplace =>
    exact ⟨hs.sound.park hplace fun j hj => by rw [hj.1]; exact n.succ_pos, fun _ hp => by simp [Monitor.park] at hp⟩
  · exact hs
  · split_ifs with hfree
    exacts [alert_returned (hs.sound.leave_free hfree ()), hs]

theorem alert_signal (hs : Alert s) (thread : Nat) : Alert (s.signal thread) := by
  have hstill {other : Nat} (hother : s.senders other = .storing) (hthread : s.senders thread ≠ .storing)
      (phase : Signalling) : Function.update s.senders thread phase other = .storing := by
    rwa [Function.update_of_ne]
    rintro rfl
    exact hthread hother
  have hbusy {phase : Signalling} (hphase : phase ≠ .idle) :
      ¬∀ other, Function.update s.senders thread phase other = .idle :=
    fun h => hphase (by simpa using h thread)
  unfold signal
  split
  · exact hs
  · exact ⟨hs.sound.mono fun _ _ h => absurd h.2.2 (hbusy (by decide)), fun _ _ _ => .inl rfl⟩
  · next hthread =>
    split_ifs with hfree
    · exact ⟨(hs.sound.take hfree thread).mono fun _ _ h => absurd h.2.2 (hbusy (by decide)), fun hd hp hne =>
        (hs.signalled hd hp hne).imp_right (Exists.imp fun _ h => hstill h (by rw [hthread]; decide) _)⟩
    · exact hs
  · next hthread =>
    split_ifs with hlock
    · refine ⟨hs.sound.notifyAll hlock, fun hd hp hne => ?_⟩
      have hp' := hp.imp (Monitor.place_of_notifyAll (by decide)) (Monitor.place_of_notifyAll (by decide))
      exact (hs.signalled hd hp' hne).imp_right (Exists.imp fun _ h => hstill h (by rw [hthread]; decide) _)
    · exact hs

/-- A step strands no command. -/
theorem alert_step (hs : Alert s) (e : WakeupEvent α) : Alert (s.step e).1 := by
  unfold step
  cases e with
  | send thread cmd =>
    dsimp only
    split_ifs
    · exact ⟨hs.sound.mono fun _ _ h => by simpa using h.2.2 thread, fun _ _ _ => .inr ⟨thread, by simp⟩⟩
    · exact hs
  | step thread => exact alert_signal hs thread
  | wake =>
    dsimp only
    split_ifs
    exacts [⟨hs.sound.wake (), fun _ hp => by simp [Monitor.wake] at hp⟩, hs]
  | engine =>
    dsimp only
    split_ifs with hdrain
    exacts [alert_drain hs hdrain, alert_wait hs (Bool.not_eq_true _ ▸ hdrain)]

/-- **No stranded command.**  Whatever threads send and signal, when none of them is in the middle of it and the engine
sleeps in `wait`, no command is queued and no signal is pending. -/
theorem no_stranded_command (es : List (WakeupEvent α)) (s : EngineLoop α) (hs : s = (run step {} es).1)
    (hidle : ∀ thread, s.senders thread = .idle) (hparked : s.monitor.place () = .parked) :
    s.queue = [] ∧ s.flag = false := by
  have halert : Alert s := hs ▸ run_invariant (I := fun s _ => Alert s) (fun _ _ e _ hs => alert_step hs e) es {} []
    (along_true _ _) ⟨Monitor.sound_new, fun _ _ hne => absurd rfl hne⟩
  have hkept := halert.sound.kept () 0 (by rw [hparked]; trivial)
  simpa [Lost, hidle] using hkept

/-- The engine sleeps; a thread sends a command and signals; the engine takes the command and sleeps again. -/
def sampleCommand : List (WakeupEvent Nat) :=
  List.replicate 3 .engine ++ .send 0 (some 7) :: List.replicate 3 (.step 0) ++ List.replicate 6 .engine

theorem signalled_engine_sleeps :
    (run step {} sampleCommand).2 = [7] ∧ (run step {} sampleCommand).1.monitor.place () = .parked ∧
      (run step {} sampleCommand).1.queue = [] ∧ (run step {} sampleCommand).1.flag = false := by
  have hidle (thread : Nat) : (run step {} sampleCommand).1.senders thread = .idle := by
    simp [sampleCommand, List.replicate, step, signal, wait, drain, Monitor.enter, Monitor.look, Monitor.park,
      Monitor.move, Monitor.take, Monitor.notifyAll, Monitor.leave]
  exact ⟨by decide, by decide, no_stranded_command sampleCommand _ rfl hidle (by decide)⟩

end EngineLoop

end DpdkStdlib.Tcp
