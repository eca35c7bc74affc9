import DpdkStdlib.Lib.Cycle
import DpdkStdlib.Lib.Run

/-!
# Ephemeral ports (`lib.rs`, `provider.rs`, `tcp_stream.rs`)

Three allocators count through a range of ports with a shared 16-bit counter.  One sets the counter back when it has
left the range, in a step of its own; one lets it overflow, and seeds it anew from the process ID when it finds it at
zero; the one of TCP lets it overflow and counts up to the range again.  Every access to a counter is a step, and the
steps of any number of threads interleave.
-/

namespace DpdkStdlib.Ports
open DpdkStdlib.Lib

def UniqueWithin (size : Nat) (ports : List Nat) : Prop :=
  ∀ window, window <:+: ports → window.length ≤ size → window.Nodup

/-! ## The two allocators -/

/-- `NEXT_EPHEMERAL_PORT` of the UDP sockets, and the threads that have found it out of range and will set it back. -/
structure UdpPorts where
  counter : Nat := 32768
  resetting : List Nat := []
deriving DecidableEq

/-- A step of a thread in `allocate_ephemeral_port`, with the port if it returns one. -/
def UdpPorts.step (s : UdpPorts) (thread : Nat) : UdpPorts × List Nat :=
  if thread ∈ s.resetting then ({ counter := 32769, resetting := s.resetting.filter (· ≠ thread) }, [32768])
  else
    let port := s.counter
    let s := { s with counter := (port + 1) % 2 ^ 16 }
    if port ≥ 32768 ∧ port ≤ 60999 then (s, [port]) else ({ s with resetting := thread :: s.resetting }, [])

/-- `NEXT_EPHEMERAL_PORT` of the QUIC provider, and the threads that have made their `compare_exchange`. -/
structure QuicPorts where
  counter : Nat := 0
  seeded : List Nat := []
deriving DecidableEq

/-- A step of a thread in `ephemeral_port`. -/
def QuicPorts.step (pid : Nat) (s : QuicPorts) (thread : Nat) : QuicPorts × List Nat :=
  if thread ∈ s.seeded then
    let n := s.counter
    ({ counter := (n + 1) % 2 ^ 16, seeded := s.seeded.filter (· ≠ thread) }, [49152 + (n + (2 ^ 16 - 1)) % 2 ^ 16 % 16384])
  else
    let seed := pid % 16384
    ({ counter := if s.counter = 0 then seed + 1 else s.counter, seeded := thread :: s.seeded }, [])

def UdpPorts.Undisturbed (s : UdpPorts) (thread : Nat) : Prop := ∀ other ∈ s.resetting, other = thread
deriving Decidable

def QuicPorts.Unseeded (s : QuicPorts) (thread : Nat) : Prop := thread ∈ s.seeded ∨ s.counter ≠ 0
deriving Decidable

/-! ## Around the range -/

section consecutive
variable {σ : Type} {good : σ → Nat → Prop} {step : σ → Nat → σ × List Nat} {first size : Nat} {next : σ → Nat}

/-- A step returns nothing, or the next port of the range, and the one after it is next. -/
def Consecutive (good : σ → Nat → Prop) (step : σ → Nat → σ × List Nat) (first size : Nat) (next : σ → Nat) : Prop :=
  ∀ s thread, good s thread → (step s thread).2 = [] ∧ next (step s thread).1 = next s ∨
    (step s thread).2 = [first + next s % size] ∧ next (step s thread).1 % size = (next s + 1) % size

theorem Consecutive.unique (h : Consecutive good step first size next) {s : σ} {threads : List Nat}
    (hgood : Along good step s threads) : UniqueWithin size (run step s threads).2 := by
  have hinv := run_invariant (I := fun u ports => ports = (cycle size (next s) ports.length).map (first + ·) ∧
    next u % size = (next s + ports.length) % size) (fun u ports thread hu hI => ?_) threads s [] hgood ⟨rfl, rfl⟩
  · intro window hwindow hlen
    rw [List.nil_append] at hinv
    rw [hinv.1] at hwindow
    obtain ⟨offsets, hoffsets, rfl⟩ := List.infix_map_iff.1 hwindow
    rw [List.length_map] at hlen
    exact (nodup_of_infix_cycle hoffsets hlen).map fun _ _ h => Nat.add_left_cancel h
  · obtain ⟨hports, hnext⟩ := hI
    rcases h u thread hu with ⟨hout, hsame⟩ | ⟨hout, hsucc⟩
    · rw [hout, hsame, List.append_nil]
      exact ⟨hports, hnext⟩
    · rw [hout, List.length_append, List.length_singleton, cycle_succ, List.map_append, ← hports, hsucc, hnext]
      refine ⟨rfl, ?_⟩
      rw [Nat.add_mod, hnext, ← Nat.add_mod, Nat.add_assoc]

end consecutive

def UdpPorts.next (s : UdpPorts) : Nat :=
  if s.resetting = [] ∧ s.counter ≥ 32768 ∧ s.counter ≤ 60999 then s.counter - 32768 else 0

theorem consecutive_udp : Consecutive UdpPorts.Undisturbed UdpPorts.step 32768 28232 UdpPorts.next := by
  rintro ⟨counter, resetting⟩ thread hgood
  unfold UdpPorts.step
  by_cases hthread : thread ∈ resetting
  · have hne : resetting ≠ [] := List.ne_nil_of_mem hthread
    have hnil : resetting.filter (· ≠ thread) = [] := List.filter_eq_nil_iff.2 fun other hother => by
      simpa using hgood other hother
    rw [if_pos hthread, hnil]
    exact .inr ⟨by simp [UdpPorts.next, hne], by simp [UdpPorts.next, hne]⟩
  · obtain rfl : resetting = [] :=
      List.eq_nil_iff_forall_not_mem.2 fun other hother => hthread (hgood other hother ▸ hother)
    rw [if_neg hthread]
    dsimp only
    split_ifs with hrange
    · refine .inr ⟨?_, ?_⟩
      · simp only [UdpPorts.next, hrange, and_self, if_true, List.cons.injEq, and_true]
        omega
      · simp only [UdpPorts.next, hrange, true_and, and_self, if_true]
        split_ifs <;> omega
    · exact .inl ⟨rfl, by simp [UdpPorts.next, hrange]⟩

def QuicPorts.next (s : QuicPorts) : Nat := (s.counter + (2 ^ 16 - 1)) % 2 ^ 16

theorem consecutive_quic (pid : Nat) :
    Consecutive QuicPorts.Unseeded (QuicPorts.step pid) 49152 16384 QuicPorts.next := by
  rintro ⟨counter, seeded⟩ thread hgood
  unfold QuicPorts.step
  by_cases hthread : thread ∈ seeded
  · rw [if_pos hthread]
    refine .inr ⟨rfl, ?_⟩
    dsimp only [QuicPorts.next]
    omega
  · rw [if_neg hthread]
    dsimp only
    rw [if_neg (hgood.resolve_left hthread)]
    exact .inl ⟨rfl, rfl⟩

theorem mem_step_udp {s : UdpPorts} {thread port : Nat} (h : port ∈ (s.step thread).2) : 32768 ≤ port ∧ port ≤ 60999 := by
  unfold UdpPorts.step at h
  dsimp only at h
  split_ifs at h with _ hrange
  · rw [List.mem_singleton.1 h]
    decide
  · rw [List.mem_singleton.1 h]
    exact hrange
  · cases h

theorem mem_step_quic {pid : Nat} {s : QuicPorts} {thread port : Nat} (h : port ∈ (s.step pid thread).2) :
    49152 ≤ port ∧ port ≤ 65535 := by
  unfold QuicPorts.step at h
  by_cases hthread : thread ∈ s.seeded
  · rw [if_pos hthread] at h
    rw [List.mem_singleton.1 h]
    omega
  · rw [if_neg hthread] at h
    cases h

/-- **Ephemeral ports.** In every interleaving every port is in its range.  From every state reached, the ports returned
one after the other are distinct up to the size of the range: with UDP as long as no other thread takes a step between
the two of a reset, with QUIC as long as the counter is not seeded. -/
theorem ephemeral_ports_unique (pid : Nat) (before threads : List Nat) :
    ((∀ port ∈ (run UdpPorts.step {} before).2, 32768 ≤ port ∧ port ≤ 60999) ∧
      ∀ port ∈ (run (QuicPorts.step pid) {} before).2, 49152 ≤ port ∧ port ≤ 65535) ∧
    (Along UdpPorts.Undisturbed UdpPorts.step (run UdpPorts.step {} before).1 threads →
      UniqueWithin 28232 (run UdpPorts.step (run UdpPorts.step {} before).1 threads).2) ∧
    (Along QuicPorts.Unseeded (QuicPorts.step pid) (run (QuicPorts.step pid) {} before).1 threads →
      UniqueWithin 16384 (run (QuicPorts.step pid) (run (QuicPorts.step pid) {} before).1 threads).2) := by
  refine ⟨⟨fun port hport => ?_, fun port hport => ?_⟩, consecutive_udp.unique, (consecutive_quic pid).unique⟩
  · obtain ⟨_, _, _, _, h⟩ := mem_run.1 hport
    exact mem_step_udp h
  · obtain ⟨_, _, _, _, h⟩ := mem_run.1 hport
    exact mem_step_quic h

/-- Three threads in turn; and two threads of process 7, one of which has seeded the counter. -/
theorem ephemeral_ports_sample :
    ((run UdpPorts.step (run UdpPorts.step {} []).1 [0, 1, 2]).2 = [32768, 32769, 32770] ∧
      UniqueWithin 28232 (run UdpPorts.step (run UdpPorts.step {} []).1 [0, 1, 2]).2) ∧
    (run (QuicPorts.step 7) (run (QuicPorts.step 7) {} [0]).1 [0, 1, 1, 0, 0]).2 = [49159, 49160, 49161] ∧
      UniqueWithin 16384 (run (QuicPorts.step 7) (run (QuicPorts.step 7) {} [0]).1 [0, 1, 1, 0, 0]).2 :=
  ⟨⟨by decide, (ephemeral_ports_unique 7 [] [0, 1, 2]).2.1 (by decide)⟩, by decide,
    (ephemeral_ports_unique 7 [0] [0, 1, 1, 0, 0]).2.2 (by decide)⟩

/-! ## The end of the range -/

theorem run_udp (m : Nat) : ∀ {c d : Nat}, 32768 ≤ c → c + m = d → d ≤ 61000 →
    (run UdpPorts.step ⟨c, []⟩ (List.replicate m 0)).1 = ⟨d, []⟩ := by
  induction m with
  | zero => rintro c _ - rfl -; rfl
  | succ m ih =>
    intro c d hc hd hle
    have hstep : UdpPorts.step ⟨c, []⟩ 0 = (⟨c + 1, []⟩, [c]) := by
      rw [UdpPorts.step, if_neg List.not_mem_nil]
      dsimp only
      rw [if_pos ⟨hc, by omega⟩, Nat.mod_eq_of_lt (by omega)]
    rw [List.replicate_succ, run_cons, hstep]
    exact ih (by omega) (by omega) hle

theorem run_quic (pid m : Nat) : ∀ {c d : Nat}, 0 < c → c + m = d → d ≤ 65535 →
    (run (QuicPorts.step pid) ⟨c, []⟩ (List.replicate m [0, 0]).flatten).1 = ⟨d, []⟩ := by
  induction m with
  | zero => rintro c _ - rfl -; rfl
  | succ m ih =>
    intro c d hc hd hle
    have hcall : (run (QuicPorts.step pid) ⟨c, []⟩ [0, 0]).1 = ⟨c + 1, []⟩ := by
      have hne : c ≠ 0 := by omega
      have hmod : (c + 1) % 65536 = c + 1 := Nat.mod_eq_of_lt (by omega)
      simp [QuicPorts.step, hne, hmod]
    rw [List.replicate_succ, List.flatten_cons, run_append]
    dsimp only
    rw [hcall]
    exact ih (by omega) (by omega) hle

theorem exists_run_udp {d : Nat} (h : 32768 ≤ d) (hle : d ≤ 61000) :
    ∃ before, (run UdpPorts.step {} before).1 = ⟨d, []⟩ :=
  ⟨List.replicate (d - 32768) 0, run_udp _ (Nat.le_refl _) (by omega) hle⟩

theorem exists_run_quic (pid : Nat) {d : Nat} (h : pid % 16384 + 2 ≤ d) (hle : d ≤ 65535) :
    ∃ before, (run (QuicPorts.step pid) {} before).1 = ⟨d, []⟩ := by
  refine ⟨[0, 0] ++ (List.replicate (d - (pid % 16384 + 2)) [0, 0]).flatten, ?_⟩
  have hmod : (pid % 16384 + 1 + 1) % 65536 = pid % 16384 + 2 := by omega
  have hfirst : (run (QuicPorts.step pid) {} [0, 0]).1 = ⟨pid % 16384 + 2, []⟩ := by simp [QuicPorts.step, hmod]
  rw [run_append]
  dsimp only
  rw [hfirst]
  exact run_quic pid _ (Nat.succ_pos _) (by omega) hle

/-- Two threads past the range both return its first UDP port; and QUIC gives the port 65534 twice for the process ID
16382. -/
theorem ephemeral_ports_repeat :
    (∃ before, (run UdpPorts.step {} before).1 = ⟨61000, []⟩ ∧
      (run UdpPorts.step ⟨61000, []⟩ [1, 2, 1, 2]).2 = [32768, 32768]) ∧
    ∃ before, (run (QuicPorts.step 16382) {} before).1 = ⟨65535, []⟩ ∧
      (run (QuicPorts.step 16382) ⟨65535, []⟩ [0, 0, 0, 0]).2 = [65534, 65534] := by
  obtain ⟨before, hbefore⟩ := exists_run_udp (d := 61000) (by decide) (by decide)
  obtain ⟨before', hbefore'⟩ := exists_run_quic 16382 (d := 65535) (by decide) (by decide)
  exact ⟨⟨before, hbefore, by decide⟩, before', hbefore', by decide⟩

/-! ## The allocator of TCP (`tcp_stream.rs`) -/

/-- A turn of the loop in `TcpContext::allocate_port`, with the port if it returns one. -/
def tcpStep (nextPort : UInt16) (_thread : Nat) : UInt16 × List Nat :=
  if nextPort ≥ 49152 then
    if nextPort ≤ 65535 then (nextPort + 1, [nextPort.toNat]) else (49152, [])
  else (nextPort + 1, [])

def tcpNext (nextPort : UInt16) : Nat := nextPort.toNat - 49152

theorem tcpStep_low {c : UInt16} (h : c.toNat < 49152) (thread : Nat) : tcpStep c thread = (c + 1, []) :=
  if_neg fun hle => absurd (UInt16.le_iff_toNat_le.1 hle) (Nat.not_le.2 h)

theorem tcpStep_high {c : UInt16} (h : 49152 ≤ c.toNat) (thread : Nat) : tcpStep c thread = (c + 1, [c.toNat]) := by
  have hlow : c ≥ 49152 := UInt16.le_iff_toNat_le.2 h
  have hhigh : c ≤ 65535 := UInt16.le_iff_toNat_le.2 (Nat.le_of_lt_succ c.toNat_lt)
  rw [tcpStep, if_pos hlow, if_pos hhigh]

theorem toNat_succ (c : UInt16) : (c + 1).toNat = (c.toNat + 1) % 2 ^ 16 := UInt16.toNat_add c 1

theorem consecutive_tcp : Consecutive (fun _ _ => True) tcpStep 49152 16384 tcpNext := by
  intro c thread _
  have hlt : c.toNat < 65536 := c.toNat_lt
  have hsucc := toNat_succ c
  by_cases h : c.toNat < 49152
  · have hnext : tcpNext (c + 1) = tcpNext c := by unfold tcpNext; omega
    exact .inl ⟨by rw [tcpStep_low h], by rw [tcpStep_low h, hnext]⟩
  · have hport : c.toNat = 49152 + tcpNext c % 16384 := by unfold tcpNext; omega
    have hnext : tcpNext (c + 1) % 16384 = (tcpNext c + 1) % 16384 := by unfold tcpNext; omega
    rw [Nat.not_lt] at h
    exact .inr ⟨by rw [tcpStep_high h, ← hport], by rw [tcpStep_high h, hnext]⟩

/-- A run that returns nothing stays below the range. -/
theorem low_of_run_nil : ∀ (threads : List Nat) (c : UInt16), threads ≠ [] → (run tcpStep c threads).2 = [] →
    c.toNat + threads.length ≤ 49152
  | [], _, hne, _ => absurd rfl hne
  | thread :: threads, c, _, hnil => by
    have hlow : c.toNat < 49152 := by
      by_contra hhigh
      rw [run_cons, tcpStep_high (by omega)] at hnil
      cases hnil
    rw [run_cons, tcpStep_low hlow, List.nil_append] at hnil
    rw [List.length_cons]
    rcases eq_or_ne threads [] with rfl | hne
    · exact hlow
    · have hrest := low_of_run_nil threads (c + 1) hne hnil
      rw [toNat_succ, Nat.mod_eq_of_lt (by omega)] at hrest
      omega

/-- **TCP's ephemeral ports.**  From every value of the counter and in every interleaving of any threads the ports are
in the range, those returned one after the other are distinct up to its size, and no more than 49152 turns in a row are
in vain. -/
theorem tcp_ports_unique (nextPort : UInt16) (threads : List Nat) :
    (∀ port ∈ (run tcpStep nextPort threads).2, 49152 ≤ port ∧ port ≤ 65535) ∧
      UniqueWithin 16384 (run tcpStep nextPort threads).2 ∧
      (49152 < threads.length → (run tcpStep nextPort threads).2 ≠ []) := by
  refine ⟨fun port hport => ?_, consecutive_tcp.unique (along_true _ _), fun hlen hnil => ?_⟩
  · obtain ⟨es₁, thread, es₂, -, h⟩ := mem_run.1 hport
    have hlt := (run tcpStep nextPort es₁).1.toNat_lt
    by_cases hlow : (run tcpStep nextPort es₁).1.toNat < 49152
    · rw [tcpStep_low hlow] at h
      cases h
    · rw [tcpStep_high (by omega), List.mem_singleton] at h
      omega
  · have hle := low_of_run_nil threads nextPort (List.ne_nil_of_length_pos (by omega)) hnil
    omega

end DpdkStdlib.Ports
