import DpdkStdlib.Lib.Run

/-!
# Who owns a connection (`split.rs`, `stream.rs`, `tcp_stream.rs`)

A stream owns its connection until it is split into two halves.  Whoever is dropped last, by `app_refcount`, sends the
close command.  The handle is shared with the engine through an `Arc`.  A step is one access to a counter or to the
channel, and the halves are dropped by different threads.
-/

namespace DpdkStdlib.Tcp
open DpdkStdlib.Lib

/-- What holds a reference to the handle of a stream. -/
inductive Owner
  | stream | readHalf | writeHalf
deriving DecidableEq

/-- Where an owner is in its `drop`. -/
inductive Ownership
  | absent
  | live
  /-- The write half has sent its `Shutdown::Write`. -/
  | told
  /-- It has found itself to be the last. -/
  | last
  | gone
deriving DecidableEq

/-- `Close` and `Shutdown` with `Shutdown::Write`. -/
inductive Farewell
  | shutdown | close
deriving DecidableEq

/-- The two counters, the owners, whether the engine has its reference, and the commands sent. -/
structure Owners where
  appRefcount : Nat := 1
  strong : Nat := 2
  stream : Ownership := .live
  readHalf : Ownership := .absent
  writeHalf : Ownership := .absent
  engine : Bool := true
  sent : List Farewell := []
deriving DecidableEq

inductive OwnerEvent
  | split
  | drop (owner : Owner)
  /-- The engine removes the connection. -/
  | remove
deriving DecidableEq

namespace Owners

def get (s : Owners) : Owner → Ownership
  | .stream => s.stream
  | .readHalf => s.readHalf
  | .writeHalf => s.writeHalf

def set (s : Owners) (v : Ownership) : Owner → Owners
  | .stream => { s with stream := v }
  | .readHalf => { s with readHalf := v }
  | .writeHalf => { s with writeHalf := v }

/-- The end of a `drop`: the owner's reference goes. -/
def finish (s : Owners) (owner : Owner) : Owners := { s.set .gone owner with strong := s.strong - 1 }

/-- `app_refcount.fetch_sub(1) == 1`. -/
def release (s : Owners) (owner : Owner) : Owners :=
  let s' := { s with appRefcount := s.appRefcount - 1 }
  if s.appRefcount = 1 then s'.set .last owner else s'.finish owner

def step (s : Owners) : OwnerEvent → Owners × List Farewell
  | .split =>
    -- the handle is cloned for each half, and the stream that had one is forgotten, not dropped
    if s.stream = .live then
      ({ s with
          appRefcount := 2, strong := s.strong + 2, stream := .absent, readHalf := .live, writeHalf := .live }, [])
    else (s, [])
  | .drop owner => match s.get owner, owner with
    | .live, .writeHalf => ({ s with writeHalf := .told, sent := s.sent ++ [.shutdown] }, [])
    | .live, _ | .told, _ => (s.release owner, [])
    | .last, _ => ({ s.finish owner with sent := s.sent ++ [.close] }, [])
    | _, _ => (s, [])
  | .remove => if s.engine then ({ s with engine := false, strong := s.strong - 1 }, []) else (s, [])

def Split (s : Owners) : Prop := s.readHalf ≠ .absent
deriving Decidable

/-- Every owner there was has been dropped. -/
def Dropped (s : Owners) : Prop := ∀ owner ∈ [s.stream, s.readHalf, s.writeHalf], owner = .absent ∨ owner = .gone
deriving Decidable

/-- What the program can count on. -/
def Orderly (s : Owners) : Prop :=
  s.sent <+: (if s.Split then [.shutdown, .close] else [.close]) ∧ (.close ∈ s.sent ↔ s.Dropped) ∧
    (s.strong = 0 ↔ s.Dropped ∧ s.engine = false ∧ ¬s.Split)
deriving Decidable

def events : List OwnerEvent := [.split, .drop .stream, .drop .readHalf, .drop .writeHalf, .remove]

/-- The states that at most `n` steps lead to. -/
def reach : Nat → List Owners
  | 0 => [{}]
  | n + 1 => (reach n).foldl (fun acc s => events.foldl (fun acc e => acc.insert (s.step e).1) acc) (reach n)

theorem reach_closed : ∀ s ∈ reach 7, ∀ e ∈ events, (s.step e).1 ∈ reach 7 := by decide +kernel

theorem reach_orderly : ∀ s ∈ reach 7, s.Orderly := by decide +kernel

theorem mem_events (e : OwnerEvent) : e ∈ events := by
  rcases e with _ | (_ | _ | _) | _ <;> decide

/-- **One close.**  In whatever order the owners are dropped, the last sends the one close command, behind the shutdown of
the write half; the handle is freed with the last reference, unless the stream was split, which forgets one. -/
theorem one_close (es : List OwnerEvent) : (run step {} es).1.Orderly := by
  have hmem := run_invariant (I := fun s _ => s ∈ reach 7)
    (fun s _ e _ hs => reach_closed s hs e (mem_events e)) es {} [] (along_true _ _) (by decide +kernel)
  exact reach_orderly _ hmem

end Owners

end DpdkStdlib.Tcp
