import DpdkStdlib.Tcp.Contract
import DpdkStdlib.Lib.Monitor
import DpdkStdlib.Lib.Run

/-!
# Blocking reads and writes (`stream.rs`, `tcp_stream.rs`, `split.rs`)

A read or write that finds nothing to do sleeps on the condition variable of its connection; the engine changes the
handle and notifies.  A step is one access to the handle or to `notify_lock`, and the steps of reader, writer and engine
interleave.  `read_mutex` and `write_mutex` admit one call on a side, so a side is one thread.
-/

namespace DpdkStdlib.Tcp
open DpdkStdlib.Lib

/-! ## The application -/

inductive Side
  | reader | writer
deriving DecidableEq

/-- A call of `read` or `write`, on a stream with these settings; `timed` is a stream with a timeout. -/
structure Call where
  nonblocking : Bool
  timed : Bool
  buf : List UInt8

inductive IoResult
  | read (bytes : List UInt8)
  | wrote (n : Nat)
  | error (err : TcpError)
  | wouldBlock
  | timedOut
deriving DecidableEq

/-- The steps of a call before it waits: the handle after one, and the result with which the call returns. -/
def tries (call : Call) : Side → List (ConnectionHandle → ConnectionHandle × Option IoResult)
  | .reader =>
    [fun h => (h, h.error.map .error),
      fun h => ({ h with rxRing := (h.rxRing.read call.buf.length).1 },
        if (h.rxRing.read call.buf.length).2.length > 0 then some (.read (h.rxRing.read call.buf.length).2) else none),
      fun h => (h, if h.eof then some (.read []) else none),
      fun h => (h, if call.nonblocking then some .wouldBlock else none)]
  | .writer =>
    [fun h => (h, h.error.map .error),
      fun h => ({ h with txRing := (h.txRing.write call.buf).1 },
        if (h.txRing.write call.buf).2 > 0 then some (.wrote (h.txRing.write call.buf).2) else none),
      fun h => (h, if call.nonblocking then some .wouldBlock else none)]

def rechecks : Side → List (ConnectionHandle → Bool)
  | .reader => [fun h => h.rxRing.availableRead > 0, fun h => h.eof, fun h => h.error.isSome]
  | .writer => [fun h => h.txRing.availableWrite > 0, fun h => h.error.isSome]

/-! ## The engine -/

/-- What the engine changes of a handle at one of its sites. -/
inductive HandleChange
  | state (state : TcpState)
  | latch (err : TcpError)
  | eof
  | deliver (payload : List UInt8)
  /-- A turn of a loop that drains the transmit ring. -/
  | chunk

def HandleChange.apply : HandleChange → ConnectionHandle → ConnectionHandle
  | .state st, h => h.setState st
  | .latch err, h => h.latchError err
  | .eof, h => h.setEof
  | .deliver payload, h => { h with rxRing := (h.rxRing.write payload).1 }
  | .chunk, h => { h with txRing := (h.txRing.read 4096).1 }

/-- Where the engine touches a handle. -/
inductive EngineSite
  /-- `on_tick`: the end of TIME_WAIT or FIN_WAIT_2. -/
  | expired
  /-- The retransmission and keepalive limits, `handle_close_rst`, `handle_rst_rfc5961`. -/
  | abort (err : TcpError)
  | refused
  | embryonicReset
  /-- `handle_syn_ack`, `handle_ack_for_syn_received`. -/
  | established
  /-- A segment in order, with what the reorder buffer adds to it. -/
  | data (payloads : List (List UInt8))
  | fin (state : TcpState)
  | lastAck
  /-- A state that nobody waits for: `handle_connect`, `handle_syn`, `send_fin`, `handle_closing`. -/
  | moved (state : TcpState)
  | shutdownRead
  /-- `handle_shutdown` drains the transmit ring. -/
  | shutdownWrite (turns : Nat)
  /-- `on_tick` drains it, and tells the writer if the send window is open after that. -/
  | drain (turns : Nat) (windowOpen : Bool)

def EngineSite.changes : EngineSite → List HandleChange
  | .expired => [.state .closed, .eof]
  | .abort err => [.latch err, .state .closed, .eof]
  | .refused => [.latch .connectionRefused, .state .closed]
  | .embryonicReset => [.state .closed, .latch .connectionReset]
  | .established => [.state .established]
  | .data payloads => payloads.map .deliver
  | .fin state => [.eof, .state state]
  | .lastAck => [.state .closed]
  | .moved state => [.state state]
  | .shutdownRead => [.eof]
  | .shutdownWrite turns | .drain turns _ => List.replicate turns .chunk

/-- The sites that end with `notify_all`. -/
def EngineSite.notifies : EngineSite → Bool
  | .moved _ | .shutdownWrite _ | .drain _ false => false
  | _ => true

/-! ## The two together -/

/-- The handle, its lock, the calls on their way, and what the engine has left to do at a site. -/
structure Blocking where
  handle : ConnectionHandle
  monitor : Monitor Side Unit := {}
  calls : Side → Option (Call × Nat) := fun _ => none
  todo : List HandleChange := []
  notifies : Bool := false
  /-- For specifications only: the bytes delivered when the reader last looked at its ring. -/
  looked : Nat := 0

inductive IoEvent
  | call (side : Side) (call : Call)
  | step (side : Side)
  /-- A spurious wakeup, or the end of a timed wait. -/
  | wake (side : Side)
  /-- The deadline has passed when the call is about to wait. -/
  | expire (side : Side)
  | site (site : EngineSite)
  | engine

namespace Blocking

def restart (s : Blocking) (side : Side) (call : Call) : Blocking :=
  { s with monitor := s.monitor.leave side, calls := Function.update s.calls side (some (call, 0)) }

/-- One try of the call, which may end it. -/
def attempt (s : Blocking) (side : Side) (call : Call) (k : Nat)
    (f : ConnectionHandle → ConnectionHandle × Option IoResult) : Blocking × List (Side × IoResult) :=
  ({ s with
      handle := (f s.handle).1
      calls := Function.update s.calls side (if (f s.handle).2.isSome then none else some (call, k + 1))
      looked := if side = Side.reader ∧ k = 1 then s.handle.rxRing.stream.length else s.looked },
    (f s.handle).2.toList.map (side, ·))

def advance (s : Blocking) (side : Side) (call : Call) (k : Nat) : Blocking × List (Side × IoResult) :=
  match s.monitor.place side with
  | .away => match (tries call side)[k]? with
    | some f => s.attempt side call k f
    | none => if s.monitor.lock = none then ({ s with monitor := s.monitor.enter side }, []) else (s, [])
  | .checking n => match (rechecks side)[n]? with
    | some recheck =>
      if recheck s.handle then (s.restart side call, []) else ({ s with monitor := s.monitor.look side n }, [])
    | none => ({ s with monitor := s.monitor.park side }, [])
  | .parked => (s, [])
  | .woken => if s.monitor.lock = none then (s.restart side call, []) else (s, [])

/-- The next thing the engine does at a site: a change, or its part in `notify_all`. -/
def engine (s : Blocking) : Blocking :=
  match s.todo with
  | change :: todo => { s with handle := change.apply s.handle, todo }
  | [] =>
    if s.notifies = false then s
    else if s.monitor.lock = some (.inr ()) then { s with monitor := s.monitor.notifyAll, notifies := false }
    else if s.monitor.lock = none then { s with monitor := s.monitor.take () }
    else s

/-- The engine is between two sites. -/
def AtRest (s : Blocking) : Prop := s.todo = [] ∧ s.notifies = false
deriving Decidable

def step (s : Blocking) : IoEvent → Blocking × List (Side × IoResult)
  | .call side call =>
    if s.calls side = none then ({ s with calls := Function.update s.calls side (some (call, 0)) }, []) else (s, [])
  | .step side => match s.calls side with
    | some (call, k) => s.advance side call k
    | none => (s, [])
  | .wake side => if s.monitor.place side = .parked then ({ s with monitor := s.monitor.wake side }, []) else (s, [])
  | .expire side => match s.calls side, s.monitor.place side with
    | some (call, _), .checking n =>
      if call.timed ∧ (rechecks side).length ≤ n then
        ({ s with monitor := s.monitor.leave side, calls := Function.update s.calls side none }, [(side, .timedOut)])
      else (s, [])
    | _, _ => (s, [])
  | .site site => if s.AtRest then ({ s with todo := site.changes, notifies := site.notifies }, []) else (s, [])
  | .engine => (s.engine, [])

/-! ## What a run keeps -/

/-- There is something to do for a side, and the engine will not tell. -/
def Lost (quiet : Prop) (s : Blocking) (side : Side) (n : Nat) : Prop :=
  s.notifies = false ∧ (∃ recheck, (rechecks side)[n]? = some recheck ∧ recheck s.handle = true) ∧
    (side = .writer → n = 0 → quiet)

/-- The engine makes room in the transmit ring and does not tell. -/
def Silent : IoEvent → Prop
  | .site site => site.notifies = false ∧ HandleChange.chunk ∈ site.changes
  | _ => False

/-- No call sleeps on something it could return. -/
structure Awake (quiet : Prop) (s : Blocking) : Prop where
  sound : s.monitor.Sound (Lost quiet s)
  silent : s.notifies = false → ∀ change ∈ s.todo, (∃ state, change = .state state) ∨ change = .chunk ∧ ¬quiet
  /-- A reader that has looked at the ring in vain has read all there was. -/
  looked : ∀ call k, s.calls .reader = some (call, k) → 2 ≤ k → call.buf ≠ [] → s.handle.rxRing.tail = s.looked

/-- The result fits the call and the handle as the call saw it. -/
def Justified (s : Blocking) (call : Call) : Side × IoResult → Prop
  | (_, .error err) => s.handle.error = some err
  | (.reader, .read bytes) =>
    bytes ≠ [] ∧ bytes = s.handle.rxRing.unread.take call.buf.length ∨
      bytes = [] ∧ s.handle.eof = true ∧
        (call.buf ≠ [] → s.handle.rxRing.unread = s.handle.rxRing.stream.drop s.looked)
  | (.writer, .wrote n) => 0 < n ∧ n = min call.buf.length s.handle.txRing.availableWrite
  | (_, .wouldBlock) => call.nonblocking = true
  | (_, .timedOut) => call.timed = true
  | _ => False

/-- What a step from `s` leads to and returns. -/
def Fits (quiet : Prop) (s : Blocking) (next : Blocking × List (Side × IoResult)) : Prop :=
  Awake quiet next.1 ∧ ∀ out ∈ next.2, ∃ call k, s.calls out.1 = some (call, k) ∧ Justified s call out

variable {quiet : Prop} {s : Blocking} {call : Call} {side : Side} {k : Nat}
  {f : ConnectionHandle → ConnectionHandle × Option IoResult}

theorem Awake.fits {s' : Blocking} (hs' : Awake quiet s') : Fits quiet s (s', []) :=
  ⟨hs', fun _ h => absurd h List.not_mem_nil⟩

/-! ## The tries -/

theorem availableRead_read (r : SpscByteRing) (n : Nat) : (r.read n).1.availableRead ≤ r.availableRead := by
  show r.stream.length - (r.tail + _) ≤ r.stream.length - r.tail
  omega

/-- A change of the handle that gives nobody anything to do. -/
theorem Lost.mono {h : ConnectionHandle} {s' : Blocking} (hhandle : s'.handle = h)
    (hnotifies : s'.notifies = s.notifies) (hrx : h.rxRing.availableRead ≤ s.handle.rxRing.availableRead)
    (htx : quiet → h.txRing.availableWrite ≤ s.handle.txRing.availableWrite) (heof : h.eof = s.handle.eof)
    (herror : h.error = s.handle.error) (side : Side) (n : Nat) (hlost : Lost quiet s' side n) :
    Lost quiet s side n := by
  subst hhandle
  obtain ⟨hn, ⟨recheck, hrecheck, htrue⟩, hquiet⟩ := hlost
  refine ⟨hnotifies ▸ hn, ⟨recheck, hrecheck, ?_⟩, hquiet⟩
  cases side <;> rcases n with _ | _ | _ | n <;> simp [rechecks] at hrecheck <;> subst hrecheck <;> simp_all <;> omega

/-- A try takes bytes out of the receive ring or puts some into the transmit ring, and changes nothing else. -/
theorem try_frame (hf : f ∈ tries call side) (h : ConnectionHandle) :
    (f h).1.rxRing.availableRead ≤ h.rxRing.availableRead ∧
      (f h).1.txRing.availableWrite ≤ h.txRing.availableWrite ∧ (f h).1.eof = h.eof ∧ (f h).1.error = h.error := by
  cases side with
  | reader =>
    simp only [tries, List.mem_cons, List.not_mem_nil, or_false] at hf
    rcases hf with rfl | rfl | rfl | rfl
    case inr.inl => exact ⟨availableRead_read _ _, le_rfl, rfl, rfl⟩
    all_goals exact ⟨le_rfl, le_rfl, rfl, rfl⟩
  | writer =>
    simp only [tries, List.mem_cons, List.not_mem_nil, or_false] at hf
    rcases hf with rfl | rfl | rfl
    case inr.inl => exact ⟨le_rfl, by rw [SpscByteRing.availableWrite_write]; exact Nat.sub_le _ _, rfl, rfl⟩
    all_goals exact ⟨le_rfl, le_rfl, rfl, rfl⟩

theorem looked_attempt (hs : Awake quiet s) (hcall : s.calls side = some (call, k))
    (hf : (tries call side)[k]? = some f) (call' : Call) (k' : Nat)
    (hcall' : (s.attempt side call k f).1.calls .reader = some (call', k')) (hk : 2 ≤ k') (hbuf : call'.buf ≠ []) :
    (f s.handle).1.rxRing.tail = (s.attempt side call k f).1.looked := by
  cases side with
  | writer =>
    -- the writer does not touch the receive ring
    have hrx : (f s.handle).1.rxRing = s.handle.rxRing := by
      rcases k with _ | _ | _ | k <;> simp [tries] at hf <;> subst hf <;> rfl
    simp only [attempt, Function.update_of_ne (show Side.reader ≠ .writer by decide)] at hcall'
    simpa [attempt, hrx] using hs.looked _ _ hcall' hk hbuf
  | reader =>
    simp only [attempt, Function.update_self] at hcall' ⊢
    split_ifs at hcall' with hsome
    cases hcall'
    rcases k with _ | _ | _ | _ | k <;> simp [tries] at hf
    · omega
    · -- nothing was there to read
      subst hf
      have htail := s.handle.rxRing.tail_le
      have hlen := List.length_pos_iff.2 hbuf
      simp [SpscByteRing.read, SpscByteRing.availableRead] at hsome ⊢
      omega
    all_goals
      subst hf
      simpa using hs.looked _ _ hcall (by omega) hbuf

/-- A result of a try is justified. -/
theorem justified_try (hs : Awake quiet s) (hcall : s.calls side = some (call, k)) (hf : (tries call side)[k]? = some f)
    {r : IoResult} (hr : (f s.handle).2 = some r) : Justified s call (side, r) := by
  cases side with
  | reader =>
    rcases k with _ | _ | _ | _ | k <;> simp [tries] at hf <;> subst hf
    · obtain ⟨err, herror, rfl⟩ := Option.map_eq_some_iff.1 hr
      exact herror
    · obtain ⟨hpos, ⟨⟩⟩ := Option.ite_none_right_eq_some.1 hr
      refine .inl ⟨List.ne_nil_of_length_pos hpos, ?_⟩
      show s.handle.rxRing.unread.take (min _ _) = _
      rw [← SpscByteRing.length_unread, ← List.take_take, List.take_length]
    · obtain ⟨heof, ⟨⟩⟩ := Option.ite_none_right_eq_some.1 hr
      exact .inr ⟨rfl, heof, fun hbuf => by rw [← hs.looked _ _ hcall (by decide) hbuf]; rfl⟩
    · obtain ⟨hnb, ⟨⟩⟩ := Option.ite_none_right_eq_some.1 hr
      exact hnb
  | writer =>
    rcases k with _ | _ | _ | k <;> simp [tries] at hf <;> subst hf
    · obtain ⟨err, herror, rfl⟩ := Option.map_eq_some_iff.1 hr
      exact herror
    · obtain ⟨hpos, ⟨⟩⟩ := Option.ite_none_right_eq_some.1 hr
      exact ⟨hpos, rfl⟩
    · obtain ⟨hnb, ⟨⟩⟩ := Option.ite_none_right_eq_some.1 hr
      exact hnb

/-! ## The steps -/

/-- A call that begins, begins again or ends has not looked. -/
theorem Awake.reset (hs : Awake quiet s) (side : Side) {monitor : Monitor Side Unit}
    (hsound : monitor.Sound (Lost quiet s)) {v : Option (Call × Nat)} (hv : ∀ call k, v = some (call, k) → k = 0) :
    Awake quiet { s with monitor, calls := Function.update s.calls side v } := by
  refine ⟨hsound, hs.silent, fun call k hcall hk => ?_⟩
  by_cases hside : Side.reader = side
  · subst hside
    have := hv call k (by simpa using hcall)
    omega
  · exact hs.looked call k (by simpa [hside] using hcall) hk

theorem fits_advance (hs : Awake quiet s) (hcall : s.calls side = some (call, k)) :
    Fits quiet s (s.advance side call k) := by
  have hagain : ∀ call' k', some (call, 0) = some (call', k') → k' = 0 := fun _ _ h => by cases h; rfl
  unfold advance
  cases hplace : s.monitor.place side with
  | away =>
    dsimp only
    split
    · next f hf =>
      obtain ⟨hrx, htx, heof, herror⟩ := try_frame (List.mem_of_getElem? hf) s.handle
      refine ⟨⟨hs.sound.mono (Lost.mono rfl rfl hrx (fun _ => htx) heof herror), hs.silent, looked_attempt hs hcall hf⟩,
        fun out hout => ?_⟩
      obtain ⟨r, hr, rfl⟩ := List.mem_map.1 hout
      exact ⟨call, k, hcall, justified_try hs hcall hf (Option.mem_toList.1 hr)⟩
    · split_ifs with hfree
      exacts [Awake.fits ⟨hs.sound.enter hfree side, hs.silent, hs.looked⟩, hs.fits]
  | checking n =>
    dsimp only
    split
    · next recheck hrecheck =>
      split_ifs with htrue
      · exact (hs.reset side (hs.sound.leave hplace) hagain).fits
      · refine Awake.fits ⟨hs.sound.look hplace fun hlost => ?_, hs.silent, hs.looked⟩
        obtain ⟨-, ⟨recheck', hn, htrue'⟩, -⟩ := hlost
        rw [hrecheck] at hn
        cases hn
        exact htrue htrue'
    · next hnone =>
      refine Awake.fits ⟨hs.sound.park hplace fun j hlost => ?_, hs.silent, hs.looked⟩
      obtain ⟨-, ⟨recheck, hj, -⟩, -⟩ := hlost
      exact ((List.getElem?_eq_some_iff.1 hj).1).trans_le (List.getElem?_eq_none_iff.1 hnone)
  | parked => exact hs.fits
  | woken =>
    dsimp only
    split_ifs with hfree
    exacts [(hs.reset side (hs.sound.leave_free hfree side) hagain).fits, hs.fits]

/-- Without a notification the engine only sets the state, or makes room. -/
theorem silent_change {site : EngineSite} (hn : site.notifies = false) {change : HandleChange}
    (hmem : change ∈ site.changes) (hquiet : HandleChange.chunk ∈ site.changes → ¬quiet) :
    (∃ state, change = .state state) ∨ change = .chunk ∧ ¬quiet := by
  cases site with
  | moved state => exact .inl ⟨state, List.mem_singleton.1 hmem⟩
  | shutdownWrite turns =>
    obtain rfl := List.eq_of_mem_replicate hmem
    exact .inr ⟨rfl, hquiet hmem⟩
  | drain turns windowOpen =>
    obtain rfl := List.eq_of_mem_replicate hmem
    exact .inr ⟨rfl, hquiet hmem⟩
  | _ => cases hn

theorem tail_change (change : HandleChange) (h : ConnectionHandle) : (change.apply h).rxRing.tail = h.rxRing.tail := by
  cases change <;> simp [HandleChange.apply]

theorem awake_engine (hs : Awake quiet s) : Awake quiet s.engine := by
  unfold engine
  split
  · next change todo htodo =>
    refine ⟨?_, fun hn c hc => hs.silent hn c (htodo ▸ List.mem_cons_of_mem _ hc), fun call k hcall hk hbuf =>
      (tail_change change s.handle).trans (hs.looked call k hcall hk hbuf)⟩
    by_cases hn : s.notifies = false
    · rcases hs.silent hn change (htodo ▸ List.mem_cons_self) with ⟨st, rfl⟩ | ⟨rfl, hquiet⟩
      · exact hs.sound.mono (Lost.mono rfl rfl le_rfl (fun _ => le_rfl) rfl rfl)
      · exact hs.sound.mono (Lost.mono rfl rfl le_rfl (fun hq => absurd hq hquiet) rfl rfl)
    · exact hs.sound.mono fun _ _ hlost => absurd hlost.1 hn
  · next htodo =>
    split_ifs with hn hlock hfree
    · exact hs
    · exact ⟨hs.sound.notifyAll hlock, fun _ _ hc => absurd hc (by rw [htodo]; simp), hs.looked⟩
    · exact ⟨hs.sound.take hfree (), hs.silent, hs.looked⟩
    · exact hs

/-- A step keeps `Awake`, and its results are justified. -/
theorem fits_step (hs : Awake quiet s) (e : IoEvent) (he : Silent e → ¬quiet) : Fits quiet s (s.step e) := by
  unfold step
  cases e with
  | call side call =>
    dsimp only
    split_ifs
    exacts [(hs.reset side hs.sound fun _ _ h => by cases h; rfl).fits, hs.fits]
  | step side =>
    dsimp only
    split
    · next hcall => exact fits_advance hs hcall
    · exact hs.fits
  | wake side =>
    dsimp only
    split_ifs
    exacts [Awake.fits ⟨hs.sound.wake side, hs.silent, hs.looked⟩, hs.fits]
  | expire side =>
    dsimp only
    split
    · next call k n hcall hplace =>
      split_ifs with htimed
      · refine ⟨hs.reset side (hs.sound.leave hplace) fun _ _ h => absurd h (by simp), fun out hout => ?_⟩
        obtain rfl := List.mem_singleton.1 hout
        exact ⟨call, k, hcall, htimed.1⟩
      · exact hs.fits
    · exact hs.fits
  | site site =>
    dsimp only
    split_ifs with hrest
    · exact Awake.fits ⟨hs.sound.mono fun _ _ hlost => ⟨hrest.2, hlost.2⟩, fun hn change hchange =>
        silent_change hn hchange fun hchunk => he ⟨hn, hchunk⟩, hs.looked⟩
    · exact hs.fits
  | engine => exact (awake_engine hs).fits

/-- A run whose silent events respect `quiet` strands no call. -/
theorem awake_run (es : List IoEvent) (h : ConnectionHandle) (hes : ∀ e ∈ es, Silent e → ¬quiet) :
    Awake quiet (run step { handle := h } es).1 :=
  run_invariant (I := fun s _ => Awake quiet s) (fun _ _ e he hs => (fits_step hs e he).1) es { handle := h } []
    (along_of_forall hes)
    ⟨Monitor.sound_new, fun _ _ hc => absurd hc List.not_mem_nil, fun _ _ hcall => absurd hcall (by simp)⟩

/-! ## Nobody sleeps for nothing, and nothing is made up -/

def sampleHandle : ConnectionHandle := .new 4 4 ⟨.v4 ⟨10, 0, 0, 1⟩ 49152, .v4 ⟨10, 0, 0, 2⟩ 80⟩

/-- **Results are justified.** A call returns bytes only from the front of its ring, an error only if it is latched,
`WouldBlock` and `TimedOut` only if the stream is set so, and the end of the stream only when all delivered before the
call looked is read. -/
theorem results_justified (h : ConnectionHandle) (es : List IoEvent) (e : IoEvent) (s : Blocking)
    (hs : s = (run step { handle := h } es).1) (out : Side × IoResult) (hout : out ∈ (s.step e).2) :
    ∃ call k, s.calls out.1 = some (call, k) ∧ Justified s call out := by
  have hawake : Awake False s := hs ▸ awake_run es h fun _ _ _ => not_false
  exact (fits_step hawake e fun _ => not_false).2 out hout

/-- A byte and the end of the stream come between the two looks of a read: the byte stays unread. -/
def lateByte : List IoEvent :=
  [.call .reader ⟨false, false, [0]⟩, .step .reader, .step .reader, .site (.data [[7]]), .engine, .engine, .engine,
    .site (.fin .closeWait), .engine]

theorem late_byte_unread : ((run step { handle := sampleHandle } lateByte).1.step (.step .reader)).2 =
      [(.reader, .read [])] ∧ (run step { handle := sampleHandle } lateByte).1.handle.rxRing.unread = [7] ∧
    ∃ call k, (run step { handle := sampleHandle } lateByte).1.calls .reader = some (call, k) ∧
      Justified (run step { handle := sampleHandle } lateByte).1 call (.reader, .read []) :=
  ⟨by decide, by decide, results_justified sampleHandle lateByte (.step .reader) _ rfl (.reader, .read []) (by decide)⟩

end Blocking

end DpdkStdlib.Tcp
