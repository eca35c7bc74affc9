import DpdkStdlib.Quic.Segments

/-!
# Paths to anywhere (`path_handle.rs`, `tx.rs`)

`push` unwraps the IPv4 form of the remote address, on the ground that path handles refuse IPv6.  Only `try_new` does; the
operations of `path::Handle`, by which the endpoint makes and migrates paths, take any address.
-/

namespace DpdkStdlib.Quic
open DpdkStdlib.Udp

namespace DpdkPathHandle

def setRemoteAddress (self : DpdkPathHandle) (remoteAddress : SocketAddr) : DpdkPathHandle := { self with remoteAddress }

def setLocalAddress (self : DpdkPathHandle) (localAddress : SocketAddr) : DpdkPathHandle := { self with localAddress }

def maybeUpdate (self other : DpdkPathHandle) : DpdkPathHandle :=
  { self with remoteAddress := other.remoteAddress, localAddress := other.localAddress }

/-- The handles that the operations of `path::Handle` make, in any order and with any addresses. -/
inductive Reachable : DpdkPathHandle → Prop
  | fromRemoteAddress (addr : SocketAddr) : Reachable (.fromRemoteAddress addr)
  | setRemoteAddress {path : DpdkPathHandle} (h : Reachable path) (addr : SocketAddr) :
      Reachable (path.setRemoteAddress addr)
  | setLocalAddress {path : DpdkPathHandle} (h : Reachable path) (addr : SocketAddr) :
      Reachable (path.setLocalAddress addr)
  | maybeUpdate {path other : DpdkPathHandle} (h : Reachable path) (h' : Reachable other) :
      Reachable (path.maybeUpdate other)

theorem reachable (path : DpdkPathHandle) : path.Reachable :=
  (Reachable.fromRemoteAddress path.remoteAddress).setLocalAddress path.localAddress

end DpdkPathHandle

namespace DpdkTxQueue

/-- The push returns, and an IPv6 remote address is an error that leaves the queue as it was. -/
def Returns (q : DpdkTxQueue) (message : Message) : Prop :=
  ∃ result q', q.push message = some (result, q') ∧
    (message.path.remoteAddress.isIpv6 = true → (∃ e, result = .error e) ∧ q'.pending = q.pending)

theorem push_of_full {q : DpdkTxQueue} (message : Message) (h : q.capacity ≤ q.pending.length) :
    q.push message = some (.error .atCapacity, q) := by
  unfold push
  rw [if_pos h]
  rfl

theorem push_of_ipv6 {q : DpdkTxQueue} {message : Message} (h : message.path.remoteAddress.isIpv6 = true)
    (hroom : q.pending.length < q.capacity) : q.push message = none := by
  have hroute : q.route message = none := by
    unfold route
    cases haddr : message.path.remoteAddress with
    | v4 => rw [haddr] at h; cases h
    | v6 => rfl
  unfold push
  rw [if_neg (Nat.not_le.2 hroom), hroute]
  rfl

theorem push_of_ipv4 (q : DpdkTxQueue) {message : Message} (h : message.path.remoteAddress.isIpv6 = false) :
    ∃ result q', q.push message = some (result, q') := by
  cases haddr : message.path.remoteAddress with
  | v6 => rw [haddr] at h; cases h
  | v4 ip port =>
    obtain ⟨route, hroute, -⟩ := q.route_spec haddr
    rcases push_appends hroute with ⟨e, hpush⟩ | ⟨pieces, q', hpush, -⟩
    · exact ⟨_, _, hpush⟩
    · exact ⟨_, _, hpush⟩

theorem push_eq_none_iff (q : DpdkTxQueue) (message : Message) :
    q.push message = none ↔ message.path.remoteAddress.isIpv6 = true ∧ q.pending.length < q.capacity := by
  constructor
  · intro h
    rcases Nat.lt_or_ge q.pending.length q.capacity with hroom | hfull
    · refine ⟨by_contra fun hip => ?_, hroom⟩
      obtain ⟨result, q', hpush⟩ := q.push_of_ipv4 (Bool.eq_false_iff.2 hip)
      cases h.symm.trans hpush
    · cases h.symm.trans (push_of_full message hfull)
  · exact fun h => push_of_ipv6 h.1 h.2

end DpdkTxQueue

/-- **Pushes to any path.** The endpoint can make every path; for every message on one and every queue, the push returns,
with an error and nothing queued for an IPv6 remote, exactly if the remote address is IPv4 or the queue is full; otherwise
it panics. -/
theorem push_returns_iff (message : Message) (q : DpdkTxQueue) :
    message.path.Reachable ∧
      (q.Returns message ↔ message.path.remoteAddress.isIpv6 = false ∨ q.capacity ≤ q.pending.length) ∧
      (q.push message = none ↔ message.path.remoteAddress.isIpv6 = true ∧ q.pending.length < q.capacity) := by
  refine ⟨message.path.reachable, ⟨?_, ?_⟩, q.push_eq_none_iff message⟩
  · rintro ⟨result, q', hpush, -⟩
    by_contra hnot
    simp only [not_or, Bool.not_eq_false, Nat.not_le] at hnot
    cases hpush.symm.trans ((q.push_eq_none_iff message).2 hnot)
  · rintro (hip | hfull)
    · obtain ⟨result, q', hpush⟩ := q.push_of_ipv4 hip
      exact ⟨result, q', hpush, fun h => absurd (h.symm.trans hip) (by decide)⟩
    · exact ⟨_, _, DpdkTxQueue.push_of_full message hfull, fun _ => ⟨⟨_, rfl⟩, rfl⟩⟩

theorem push_returns_sample : (sampleQueue ⟨10, 0, 0, 1⟩).Returns sampleMessage :=
  ((push_returns_iff sampleMessage _).2.1).2 (.inl rfl)

/-- A client whose peer is `[::1]:4433` panics with its first packet. -/
theorem push_panics :
    (DpdkPathHandle.fromRemoteAddress (.v6 1 4433 0 0)).Reachable ∧
      (sampleQueue ⟨10, 0, 0, 1⟩).push { sampleMessage with path := .fromRemoteAddress (.v6 1 4433 0 0) } = none :=
  ⟨.fromRemoteAddress _, rfl⟩

end DpdkStdlib.Quic
