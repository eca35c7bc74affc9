import DpdkStdlib.Lib.Run
import DpdkStdlib.Lib.Slot
import DpdkStdlib.Udp.Expiry

/-!
# Threads at a neighbour cache (`arp.rs`, `ndp.rs`)

The operations of a cache, one access to shared memory a step: a load or a store of one of the atomics of the fast path,
or a section under the lock.  The steps of the threads interleave in any order.

The atomics are `fast_ip` and `fast_mac` of the ARP cache, `fast_ip_hi`, `fast_ip_lo` and `fast_mac` of the NDP cache; a
thread loads and stores them in this order.
-/

namespace DpdkStdlib.Udp
open DpdkStdlib.Lib

/-- An address as the words that the fast path keeps. -/
class SlotAddr (Ip : Type) extends NeighborAddr Ip where
  count : Nat
  split : Nat → List Nat
  count_pos : 0 < count
  length_split : ∀ n, (split n).length = count
  split_injective : Function.Injective split
  split_zero : split 0 = List.replicate count 0
  bits_injective : Function.Injective bits

/-- `u32::from`. -/
instance : SlotAddr Ipv4Addr where
  count := 1
  split n := [n]
  count_pos := Nat.one_pos
  length_split := fun _ => rfl
  split_injective := fun _ _ h => (List.cons.inj h).1
  split_zero := rfl
  bits_injective := bits_ipv4_injective

/-- `ipv6_to_u64_pair`. -/
instance : SlotAddr Ipv6Addr where
  count := 2
  split n := [n / 2 ^ 64, n % 2 ^ 64]
  count_pos := Nat.two_pos
  length_split := fun _ => rfl
  split_injective := by
    intro x y h
    simp only [List.cons.injEq, and_true] at h
    rw [← Nat.div_add_mod x (2 ^ 64), ← Nat.div_add_mod y (2 ^ 64), h.1, h.2]
  split_zero := rfl
  bits_injective := bits_ipv6_injective

def SlotAddr.words {Ip : Type} [SlotAddr Ip] (ip : Ip) : List Nat := SlotAddr.split Ip (NeighborAddr.bits ip)

theorem SlotAddr.length_words {Ip : Type} [SlotAddr Ip] (ip : Ip) : (words ip).length = count Ip := length_split _

theorem SlotAddr.words_injective {Ip : Type} [SlotAddr Ip] : Function.Injective (words : Ip → List Nat) :=
  split_injective.comp bits_injective

/-- A call of the application, of a worker or of the receive thread. -/
inductive CacheCall (Ip : Type)
  | lookup (ip : Ip)
  | insert (ip : Ip) (mac : MacAddr)
  | insertIfChanged (ip : Ip) (mac : MacAddr)
  | remove (ip : Ip)
deriving DecidableEq

/-- Where a thread is in its call. -/
inductive CachePhase (Ip : Type)
  | idle
  /-- A lookup loads the next word; when it has those of the address, the next one is `fast_mac`. -/
  | lookup (ip : Ip) (loaded : List Nat)
  | lookupLock (ip : Ip)
  | check (ip : Ip) (mac : MacAddr) (i : Nat)
  | store (ip : Ip) (mac : MacAddr) (i : Nat)
  | storeLock (ip : Ip) (mac : MacAddr)
  | removeCheck (ip : Ip) (i : Nat)
  | reset (ip : Ip) (i : Nat)
  | removeLock (ip : Ip)
deriving DecidableEq

/-- The atomics, `fast_mac` last, and the map under the lock. -/
structure SharedCache (Ip : Type) where
  fast : List Nat
  entries : AssocMap Ip CacheEntry

variable {Ip : Type} [SlotAddr Ip]

def slotWords (ip : Ip) (mac : MacAddr) : List Nat := SlotAddr.words ip ++ [(macToU64 mac).toNat]

@[simp] theorem length_slotWords (ip : Ip) (mac : MacAddr) : (slotWords ip mac).length = SlotAddr.count Ip + 1 := by
  rw [slotWords, List.length_append, SlotAddr.length_words]
  rfl

def emptySlot (Ip : Type) [SlotAddr Ip] : List Nat := List.replicate (SlotAddr.count Ip + 1) 0

def CacheCall.start : CacheCall Ip → CachePhase Ip
  | lookup ip => .lookup ip []
  | insert ip mac => .store ip mac 0
  | insertIfChanged ip mac => .check ip mac 0
  | remove ip => .removeCheck ip 0

def CacheCall.pair : CacheCall Ip → Option (Ip × MacAddr)
  | insert ip mac | insertIfChanged ip mac => some (ip, mac)
  | lookup _ | remove _ => none

variable [DecidableEq Ip]

/-- The load of a lookup: the word, and what comes next. -/
def lookupNext (ip : Ip) (loaded : List Nat) : CachePhase Ip :=
  if loaded.length < SlotAddr.count Ip then .lookup ip loaded
  else if (loaded.any (· ≠ 0)) ∧ loaded = SlotAddr.words ip then .lookup ip loaded
  else .lookupLock ip

/-- The access of a thread, at a time: where it is, what is shared, and what it returns. -/
def CachePhase.go (now : Instant) (mem : SharedCache Ip) :
    CachePhase Ip → CachePhase Ip × SharedCache Ip × List (Ip × MacAddr)
  | idle => (idle, mem, [])
  | lookup ip loaded =>
    let word := mem.fast.getD loaded.length 0
    if loaded.length < SlotAddr.count Ip then (lookupNext ip (loaded ++ [word]), mem, [])
    else (idle, mem, [(ip, u64ToMac (UInt64.ofNat word))])
  | lookupLock ip =>
    let found := (mem.entries.get? ip).bind fun entry => if entry.isExpired now then none else some entry.mac
    (idle, mem, found.toList.map fun mac => (ip, mac))
  | check ip mac i =>
    if mem.fast.getD i 0 = (slotWords ip mac).getD i 0 then
      (if i < SlotAddr.count Ip then check ip mac (i + 1) else idle, mem, [])
    else (store ip mac 0, mem, [])
  | store ip mac i =>
    (if i < SlotAddr.count Ip then store ip mac (i + 1) else storeLock ip mac,
      { mem with fast := mem.fast.set i ((slotWords ip mac).getD i 0) }, [])
  | storeLock ip mac => (idle, { mem with entries := mem.entries.insert ip ⟨mac, now⟩ }, [])
  | removeCheck ip i =>
    if mem.fast.getD i 0 = (SlotAddr.words ip).getD i 0 then
      (if i + 1 < SlotAddr.count Ip then removeCheck ip (i + 1) else reset ip 0, mem, [])
    else (removeLock ip, mem, [])
  | reset ip i =>
    (if i < SlotAddr.count Ip then reset ip (i + 1) else removeLock ip, { mem with fast := mem.fast.set i 0 }, [])
  | removeLock ip => (idle, { mem with entries := mem.entries.erase ip }, [])

/-- Any number of threads.  The pairs that calls were to put into the cache are for specifications only. -/
structure CacheThreads (Ip : Type) where
  phase : Nat → CachePhase Ip
  mem : SharedCache Ip
  inserted : List (Ip × MacAddr)

inductive CacheEvent (Ip : Type)
  | call (thread : Nat) (call : CacheCall Ip)
  | go (thread : Nat) (now : Instant)

namespace CacheThreads

def new : CacheThreads Ip := { phase := fun _ => .idle, mem := { fast := emptySlot Ip, entries := .empty }, inserted := [] }

/-- A call begins, or a thread does its next access. -/
def step (s : CacheThreads Ip) : CacheEvent Ip → CacheThreads Ip × List (Ip × MacAddr)
  | .call thread call =>
    if s.phase thread = .idle then
      ({ s with phase := Function.update s.phase thread call.start, inserted := s.inserted ++ call.pair.toList }, [])
    else (s, [])
  | .go thread now =>
    let (phase, mem, out) := (s.phase thread).go now s.mem
    ({ s with phase := Function.update s.phase thread phase, mem }, out)

end CacheThreads

end DpdkStdlib.Udp
