import DpdkStdlib.Udp.Neighbor
import Mathlib.Tactic.IntervalCases

/-!
# Neighbour caches as maps with expiry

A cache in the hands of one thread, and beside it a log of what it was told.
-/

namespace DpdkStdlib.Udp
open DpdkStdlib.Lib

/-! ## Packed addresses -/

theorem u64ToMac_macToU64 (mac : MacAddr) : u64ToMac (macToU64 mac) = mac := by
  obtain ⟨a, b, c, d, e, f, h⟩ := toList_mac mac
  obtain rfl : mac = #v[a, b, c, d, e, f] := Vector.toList_inj.1 h
  have byte (x : UInt64) (y : UInt8) (h : ∀ i < 8, x.toBitVec.getLsbD i = y.toBitVec.getLsbD i) : x.toUInt8 = y := by
    apply UInt8.toBitVec_inj.1
    apply BitVec.eq_of_getLsbD_eq
    intro i hi
    rw [UInt64.toBitVec_toUInt8, BitVec.getLsbD_setWidth, h i hi]
    simp [hi]
  apply Vector.toList_inj.1
  change [_, _, _, _, _, _] = [a, b, c, d, e, f]
  simp only [List.cons.injEq, and_true]
  refine ⟨?_, ?_, ?_, ?_, ?_, ?_⟩ <;> apply byte <;> intro i hi <;> interval_cases i <;> simp [macToU64]

theorem macToU64_injective : Function.Injective macToU64 := Function.LeftInverse.injective u64ToMac_macToU64

theorem bits_ipv4_injective : Function.Injective (NeighborAddr.bits : Ipv4Addr → Nat) := by
  intro x y h
  have hoctets : x.octets = y.octets := by
    rw [← beBytes_ofBe x.octets, ← beBytes_ofBe y.octets]
    exact congrArg (beBytes 4) h
  obtain ⟨a, b, c, d⟩ := x
  obtain ⟨a', b', c', d'⟩ := y
  simpa [Ipv4Addr.octets] using hoctets

theorem bits_ipv6_injective : Function.Injective (NeighborAddr.bits : Ipv6Addr → Nat) :=
  fun _ _ h => BitVec.eq_of_toNat_eq h

/-! ## Operations -/

inductive CacheOp (Ip : Type)
  | insert (ip : Ip) (mac : MacAddr)
  | insertIfChanged (ip : Ip) (mac : MacAddr)
  | remove (ip : Ip)
  | purgeExpired
  | clear
  | wait (d : Duration)

variable {Ip : Type} [DecidableEq Ip] [NeighborAddr Ip]

def cacheStep (s : NeighborCache Ip × Instant) : CacheOp Ip → NeighborCache Ip × Instant
  | .insert ip mac => (s.1.insert s.2 ip mac, s.2)
  | .insertIfChanged ip mac => (s.1.insertIfChanged s.2 ip mac, s.2)
  | .remove ip => (s.1.remove ip, s.2)
  | .purgeExpired => (s.1.purgeExpired s.2, s.2)
  | .clear => (s.1.clear, s.2)
  | .wait d => (s.1, s.2 + d)

def cacheRun (start : Instant) (ops : List (CacheOp Ip)) : NeighborCache Ip × Instant :=
  ops.foldl cacheStep (.new, start)

/-! ## The log -/

/-- What the operations say, whatever the cache does with it. -/
structure CacheLog (Ip : Type) where
  now : Instant
  /-- The link-layer address last inserted or learned, and when. -/
  learned : Ip → Option (MacAddr × Instant) := fun _ => none
  /-- The same, but a pair learned again while it is the last one does not count. -/
  stored : Ip → Option (MacAddr × Instant) := fun _ => none
  /-- The pair last inserted or learned, unless it was removed. -/
  last : Option (Ip × MacAddr) := none

namespace CacheLog

/-- The answer of a map whose entries live for `cacheTtl`. -/
def lookup (log : CacheLog Ip) (ip : Ip) : Option MacAddr :=
  (log.learned ip).bind fun (mac, t) => if log.now - t < cacheTtl then some mac else none

omit [DecidableEq Ip] [NeighborAddr Ip] in
theorem lookup_eq_some_iff (log : CacheLog Ip) {ip : Ip} {mac : MacAddr} {t : Instant}
    (h : log.learned ip = some (mac, t)) (mac' : MacAddr) :
    log.lookup ip = some mac' ↔ mac' = mac ∧ log.now - t < cacheTtl := by
  rw [lookup, h, Option.bind_some]
  dsimp only
  split_ifs with hlt
  · simp [hlt, eq_comm]
  · simp [hlt]

/-- The pair is the last one; with none, the zero addresses are taken for it. -/
def repeats (log : CacheLog Ip) (ip : Ip) (mac : MacAddr) : Prop :=
  log.last = some (ip, mac) ∨ (log.last = none ∧ NeighborAddr.bits ip = 0 ∧ macToU64 mac = 0)

instance (log : CacheLog Ip) (ip : Ip) (mac : MacAddr) : Decidable (log.repeats ip mac) :=
  inferInstanceAs (Decidable (_ ∨ _))

def insert (log : CacheLog Ip) (ip : Ip) (mac : MacAddr) : CacheLog Ip :=
  { log with
    learned := Function.update log.learned ip (some (mac, log.now))
    stored := Function.update log.stored ip (some (mac, log.now))
    last := some (ip, mac) }

def step (log : CacheLog Ip) : CacheOp Ip → CacheLog Ip
  | .insert ip mac => log.insert ip mac
  | .insertIfChanged ip mac =>
    if log.repeats ip mac then { log with learned := Function.update log.learned ip (some (mac, log.now)) }
    else log.insert ip mac
  | .remove ip =>
    { log with
      learned := Function.update log.learned ip none
      stored := Function.update log.stored ip none
      last := log.last.filter fun p => p.1 ≠ ip }
  | .purgeExpired => log
  | .clear => { now := log.now }
  | .wait d => { log with now := log.now + d }

def run (start : Instant) (ops : List (CacheOp Ip)) : CacheLog Ip := ops.foldl step { now := start }

/-- The address is that of the last pair; the address zero is never found there. -/
def isLast (log : CacheLog Ip) (ip : Ip) : Prop := NeighborAddr.bits ip ≠ 0 ∧ ∃ mac, log.last = some (ip, mac)

end CacheLog

/-! ## The cache follows the log -/

/-- The cache holds what the log of its operations says. -/
structure Tracks (c : NeighborCache Ip) (log : CacheLog Ip) : Prop where
  fastIp : c.fastIp = log.last.elim 0 fun p => NeighborAddr.bits p.1
  fastMac : c.fastMac = log.last.elim 0 fun p => macToU64 p.2
  last : ∀ ip mac, log.last = some (ip, mac) → ∃ t, log.learned ip = some (mac, t)
  entry : ∀ ip entry, c.entries.get? ip = some entry → log.stored ip = some (entry.mac, entry.timestamp)
  /-- What was stored and is not there was purged. -/
  gone : ∀ ip mac t, log.stored ip = some (mac, t) → c.entries.get? ip = none → log.now - t > cacheTtl
  learned : ∀ ip, log.learned ip = none → log.stored ip = none

theorem tracks_new (start : Instant) : Tracks (.new : NeighborCache Ip) { now := start } where
  fastIp := rfl
  fastMac := rfl
  last := by
    intro ip mac h
    cases h
  entry := by
    intro ip entry h
    cases h
  gone := by
    intro ip mac t h
    cases h
  learned := fun _ _ => rfl

theorem tracks_insert {c : NeighborCache Ip} {log : CacheLog Ip} (h : Tracks c log) (ip : Ip) (mac : MacAddr) :
    Tracks (c.insert log.now ip mac) (log.insert ip mac) where
  fastIp := rfl
  fastMac := rfl
  last := by
    intro ip' mac' hl
    obtain ⟨rfl, rfl⟩ := Prod.mk.inj (Option.some_inj.1 hl)
    exact ⟨log.now, Function.update_self ..⟩
  entry := by
    intro ip' entry he
    rw [NeighborCache.insert, AssocMap.get?_insert] at he
    by_cases hip : ip' = ip
    · rw [if_pos hip] at he
      obtain rfl := Option.some_inj.1 he
      rw [hip]
      exact Function.update_self ..
    · rw [if_neg hip] at he
      exact (Function.update_of_ne hip ..).trans (h.entry ip' entry he)
  gone := by
    intro ip' mac' t hs he
    rw [NeighborCache.insert, AssocMap.get?_insert] at he
    by_cases hip : ip' = ip
    · rw [if_pos hip] at he
      cases he
    · rw [if_neg hip] at he
      exact h.gone ip' mac' t ((Function.update_of_ne hip ..).symm.trans hs) he
  learned := by
    intro ip' hl
    by_cases hip : ip' = ip
    · rw [hip] at hl
      exact absurd ((Function.update_self ..).symm.trans hl) (Option.some_ne_none _)
    · exact (Function.update_of_ne hip ..).trans (h.learned ip' ((Function.update_of_ne hip ..).symm.trans hl))

section Injective
variable (hbits : Function.Injective (NeighborAddr.bits : Ip → Nat))
include hbits

theorem fast_eq_iff_repeats {c : NeighborCache Ip} {log : CacheLog Ip} (h : Tracks c log) (ip : Ip) (mac : MacAddr) :
    (c.fastIp = NeighborAddr.bits ip ∧ c.fastMac = macToU64 mac) ↔ log.repeats ip mac := by
  rw [h.fastIp, h.fastMac, CacheLog.repeats]
  cases log.last with
  | none => simp [eq_comm]
  | some p => simp [hbits.eq_iff, macToU64_injective.eq_iff, Prod.ext_iff]

theorem tracks_insertIfChanged {c : NeighborCache Ip} {log : CacheLog Ip} (h : Tracks c log) (ip : Ip) (mac : MacAddr) :
    Tracks (c.insertIfChanged log.now ip mac) (log.step (.insertIfChanged ip mac)) := by
  rw [NeighborCache.insertIfChanged, CacheLog.step]
  by_cases hr : log.repeats ip mac
  · rw [if_pos hr, if_pos ((fast_eq_iff_repeats hbits h ip mac).2 hr)]
    refine ⟨h.fastIp, h.fastMac, ?_, h.entry, h.gone, ?_⟩
    · intro ip' mac' hl
      rcases hr with hr | ⟨hr, -⟩
      · obtain ⟨rfl, rfl⟩ := Prod.mk.inj (Option.some_inj.1 (hl.symm.trans hr))
        exact ⟨log.now, Function.update_self ..⟩
      · exact absurd (hl.symm.trans hr) (Option.some_ne_none _)
    · intro ip' hl
      by_cases hip : ip' = ip
      · rw [hip] at hl
        exact absurd ((Function.update_self ..).symm.trans hl) (Option.some_ne_none _)
      · exact h.learned ip' ((Function.update_of_ne hip ..).symm.trans hl)
  · rw [if_neg hr, if_neg fun hf => hr ((fast_eq_iff_repeats hbits h ip mac).1 hf)]
    exact tracks_insert h ip mac

theorem tracks_remove {c : NeighborCache Ip} {log : CacheLog Ip} (h : Tracks c log) (ip : Ip) :
    Tracks (c.remove ip) (log.step (.remove ip)) := by
  have hentries : (c.remove ip).entries = c.entries.erase ip := by
    rw [NeighborCache.remove]
    split_ifs <;> rfl
  have hfast : (c.remove ip).fastIp = ((log.last.filter fun p => p.1 ≠ ip).elim 0 fun p => NeighborAddr.bits p.1) ∧
      (c.remove ip).fastMac = (log.last.filter fun p => p.1 ≠ ip).elim 0 fun p => macToU64 p.2 := by
    have hip := h.fastIp
    have hmac := h.fastMac
    rw [NeighborCache.remove]
    cases hl : log.last with
    | none =>
      rw [hl] at hip hmac
      split_ifs
      · exact ⟨rfl, rfl⟩
      · exact ⟨hip, hmac⟩
    | some p =>
      rw [hl] at hip hmac
      have hiff : c.fastIp = NeighborAddr.bits ip ↔ p.1 = ip := by
        rw [hip]
        exact hbits.eq_iff
      by_cases hp : p.1 = ip
      · simp [Option.filter, hiff.2 hp, hp]
      · rw [if_neg fun hf => hp (hiff.1 hf)]
        simp [Option.filter, hp, hip, hmac]
  refine ⟨hfast.1, hfast.2, ?_, ?_, ?_, ?_⟩
  · intro ip' mac' hl
    obtain ⟨hl, hne⟩ := Option.filter_eq_some_iff.1 hl
    obtain ⟨t, ht⟩ := h.last ip' mac' hl
    exact ⟨t, (Function.update_of_ne (by simpa using hne) ..).trans ht⟩
  · intro ip' entry he
    rw [hentries, AssocMap.get?_erase] at he
    split_ifs at he with hip
    exact (Function.update_of_ne hip ..).trans (h.entry ip' entry he)
  · intro ip' mac' t hs he
    by_cases hip : ip' = ip
    · rw [hip] at hs
      exact absurd ((Function.update_self ..).symm.trans hs).symm (Option.some_ne_none _)
    · rw [hentries, AssocMap.get?_erase, if_neg hip] at he
      exact h.gone ip' mac' t ((Function.update_of_ne hip ..).symm.trans hs) he
  · intro ip' hl
    by_cases hip : ip' = ip
    · rw [hip]
      exact Function.update_self ..
    · exact (Function.update_of_ne hip ..).trans (h.learned ip' ((Function.update_of_ne hip ..).symm.trans hl))

theorem tracks_step {c : NeighborCache Ip} {log : CacheLog Ip} (h : Tracks c log) (op : CacheOp Ip) :
    Tracks (cacheStep (c, log.now) op).1 (log.step op) := by
  cases op with
  | insert ip mac => exact tracks_insert h ip mac
  | insertIfChanged ip mac => exact tracks_insertIfChanged hbits h ip mac
  | remove ip => exact tracks_remove hbits h ip
  | purgeExpired =>
    refine ⟨h.fastIp, h.fastMac, h.last, ?_, ?_, h.learned⟩
    · intro ip entry he
      rw [cacheStep, NeighborCache.purgeExpired, AssocMap.get?_filter, Option.filter_eq_some_iff] at he
      exact h.entry ip entry he.1
    · intro ip mac t hs he
      rw [cacheStep, NeighborCache.purgeExpired, AssocMap.get?_filter] at he
      cases hget : c.entries.get? ip with
      | none => exact h.gone ip mac t hs hget
      | some entry =>
        obtain ⟨rfl, rfl⟩ := Prod.mk.inj (Option.some_inj.1 ((h.entry ip entry hget).symm.trans hs))
        have hlt : cacheTtl + entry.timestamp < log.now := by simpa [hget, CacheEntry.isExpired] using he
        exact Nat.lt_sub_of_add_lt hlt
  | clear => exact tracks_new log.now
  | wait d =>
    refine ⟨h.fastIp, h.fastMac, h.last, h.entry, ?_, h.learned⟩
    intro ip mac t hs he
    exact Nat.lt_of_lt_of_le (h.gone ip mac t hs he) (Nat.sub_le_sub_right (Nat.le_add_right ..) _)

omit hbits in
theorem now_step (s : NeighborCache Ip × Instant) (log : CacheLog Ip) (h : s.2 = log.now) (op : CacheOp Ip) :
    (cacheStep s op).2 = (log.step op).now := by
  cases op with
  | insertIfChanged ip mac =>
    rw [CacheLog.step]
    split_ifs <;> exact h
  | wait d => exact congrArg (· + d) h
  | _ => exact h

/-- The cache follows the log along a run. -/
theorem tracks_run (start : Instant) (ops : List (CacheOp Ip)) :
    Tracks (cacheRun start ops).1 (CacheLog.run start ops) ∧ (cacheRun start ops).2 = (CacheLog.run start ops).now := by
  induction ops using List.reverseRecOn with
  | nil => exact ⟨tracks_new start, rfl⟩
  | append_singleton ops op ih =>
    obtain ⟨htracks, hnow⟩ := ih
    rw [cacheRun, CacheLog.run, List.foldl_append, List.foldl_append, ← cacheRun, ← CacheLog.run]
    refine ⟨?_, now_step _ _ hnow op⟩
    have hpair : cacheRun start ops = ((cacheRun start ops).1, (CacheLog.run start ops).now) := Prod.ext rfl hnow
    rw [hpair]
    exact tracks_step hbits htracks op

/-! ## Lookups -/

theorem fast_iff_isLast {c : NeighborCache Ip} {log : CacheLog Ip} (h : Tracks c log) (ip : Ip) :
    (c.fastIp ≠ 0 ∧ c.fastIp = NeighborAddr.bits ip) ↔ log.isLast ip := by
  rw [h.fastIp, CacheLog.isLast]
  cases log.last with
  | none => simp
  | some p =>
    obtain ⟨ip', mac⟩ := p
    simp only [Option.elim_some, hbits.eq_iff, Option.some.injEq, Prod.mk.injEq, exists_and_left, exists_eq',
      and_true]
    constructor
    · rintro ⟨h0, rfl⟩
      exact ⟨h0, rfl⟩
    · rintro ⟨h0, rfl⟩
      exact ⟨h0, rfl⟩

theorem lookup_of_isLast {c : NeighborCache Ip} {log : CacheLog Ip} (h : Tracks c log) {ip : Ip} {mac : MacAddr}
    {t : Instant} (hl : log.isLast ip) (hlearned : log.learned ip = some (mac, t)) :
    c.lookup log.now ip = some mac := by
  rw [NeighborCache.lookup, if_pos ((fast_iff_isLast hbits h ip).2 hl), h.fastMac]
  obtain ⟨-, mac', hlast⟩ := hl
  obtain ⟨t', ht'⟩ := h.last ip mac' hlast
  obtain ⟨rfl, rfl⟩ := Prod.mk.inj (Option.some_inj.1 (hlearned.symm.trans ht'))
  rw [hlast, Option.elim_some, u64ToMac_macToU64]

theorem lookup_of_not_isLast {c : NeighborCache Ip} {log : CacheLog Ip} (h : Tracks c log) {ip : Ip}
    (hl : ¬ log.isLast ip) (mac : MacAddr) :
    c.lookup log.now ip = some mac ↔ ∃ t, log.stored ip = some (mac, t) ∧ log.now - t ≤ cacheTtl := by
  rw [NeighborCache.lookup, if_neg fun hf => hl ((fast_iff_isLast hbits h ip).1 hf)]
  cases hget : c.entries.get? ip with
  | none =>
    constructor
    · intro hnone
      cases hnone
    · rintro ⟨t, hs, ht⟩
      exact absurd (h.gone ip mac t hs hget) (Nat.not_lt_of_le ht)
  | some entry =>
    have hs := h.entry ip entry hget
    rw [Option.bind_some, CacheEntry.isExpired, hs]
    constructor
    · intro hmac
      split_ifs at hmac with hexp
      obtain rfl := Option.some_inj.1 hmac
      exact ⟨entry.timestamp, rfl, by simpa using hexp⟩
    · rintro ⟨t, heq, ht⟩
      obtain ⟨rfl, rfl⟩ := Prod.mk.inj (Option.some_inj.1 heq)
      rw [if_neg (by simpa using ht)]

/-- A learned address is live exactly if the cache has it: always on the fast path, else up to `cacheTtl`. -/
def Timely (log : CacheLog Ip) (ip : Ip) : Prop :=
  ∀ mac t, log.learned ip = some (mac, t) →
    (log.isLast ip → log.now - t < cacheTtl) ∧
    (¬ log.isLast ip →
      (log.now - t < cacheTtl → ∃ t', log.stored ip = some (mac, t') ∧ log.now - t' ≤ cacheTtl) ∧
      ∀ mac' t', log.stored ip = some (mac', t') → log.now - t' ≤ cacheTtl → mac' = mac ∧ log.now - t < cacheTtl)

theorem lookup_eq_log_iff {c : NeighborCache Ip} {log : CacheLog Ip} (h : Tracks c log) (ip : Ip) :
    c.lookup log.now ip = log.lookup ip ↔ Timely log ip := by
  rw [Option.ext_iff]
  cases hlearned : log.learned ip with
  | none =>
    have hnot : ¬ log.isLast ip := by
      rintro ⟨-, mac, hlast⟩
      obtain ⟨t, ht⟩ := h.last ip mac hlast
      exact absurd (ht.symm.trans hlearned) (Option.some_ne_none _)
    have hlog : log.lookup ip = none := by rw [CacheLog.lookup, hlearned, Option.bind_none]
    refine iff_of_true (fun mac => ?_) fun mac t hl => absurd (hl.symm.trans hlearned) (Option.some_ne_none _)
    rw [lookup_of_not_isLast hbits h hnot, hlog, h.learned ip hlearned]
    simp
  | some p =>
    obtain ⟨mac, t⟩ := p
    have htimely : Timely log ip ↔ _ := ⟨fun ht => ht mac t hlearned, fun ht mac' t' hl => by
      obtain ⟨rfl, rfl⟩ := Prod.mk.inj (Option.some_inj.1 (hlearned.symm.trans hl))
      exact ht⟩
    rw [htimely]
    simp only [log.lookup_eq_some_iff hlearned]
    by_cases hlast : log.isLast ip
    · simp only [lookup_of_isLast hbits h hlast hlearned, hlast, Option.some.injEq, true_implies, not_true_eq_false,
        false_implies, and_true]
      constructor
      · exact fun heq => ((heq mac).1 rfl).2
      · exact fun hlt mac' => ⟨fun heq => ⟨heq.symm, hlt⟩, fun heq => heq.1.symm⟩
    · simp only [lookup_of_not_isLast hbits h hlast, hlast, false_implies, not_false_eq_true, true_implies, true_and]
      constructor
      · intro heq
        exact ⟨fun hlt => (heq mac).2 ⟨rfl, hlt⟩, fun mac' t' hs ht' => (heq mac').1 ⟨t', hs, ht'⟩⟩
      · rintro ⟨hlive, hkept⟩ mac'
        constructor
        · rintro ⟨t', hs, ht'⟩
          exact hkept mac' t' hs ht'
        · rintro ⟨rfl, hlt⟩
          exact hlive hlt

/-- When a lookup after a run answers as the log. -/
theorem lookup_run_iff (start : Instant) (ops : List (CacheOp Ip)) (ip : Ip) :
    (cacheRun start ops).1.lookup (cacheRun start ops).2 ip = (CacheLog.run start ops).lookup ip ↔
      Timely (CacheLog.run start ops) ip := by
  obtain ⟨htracks, hnow⟩ := tracks_run hbits start ops
  rw [hnow]
  exact lookup_eq_log_iff hbits htracks ip

end Injective

/-- **Expiry.** After any operations on an ARP or an NDP cache, a lookup answers as a map with expiry exactly for the
addresses whose entry is kept as long as it is live and no longer. -/
theorem cache_lookup_iff_timely (start : Instant) :
    (∀ (ops : List (CacheOp Ipv4Addr)) (ip : Ipv4Addr),
      (cacheRun start ops).1.lookup (cacheRun start ops).2 ip = (CacheLog.run start ops).lookup ip ↔
        Timely (CacheLog.run start ops) ip) ∧
    ∀ (ops : List (CacheOp Ipv6Addr)) (ip : Ipv6Addr),
      (cacheRun start ops).1.lookup (cacheRun start ops).2 ip = (CacheLog.run start ops).lookup ip ↔
        Timely (CacheLog.run start ops) ip :=
  ⟨lookup_run_iff bits_ipv4_injective start, lookup_run_iff bits_ipv6_injective start⟩

/-- The last address is found long after its time; one learned again and again is lost after five minutes. -/
theorem cache_lookup_untimely :
    let peer : Ipv4Addr := ⟨10, 0, 0, 2⟩
    let other : Ipv4Addr := ⟨10, 0, 0, 3⟩
    let stale : List (CacheOp Ipv4Addr) := [.insert peer (sampleMac 2), .wait (fromSecs 400)]
    let refreshed : List (CacheOp Ipv4Addr) :=
      [.insertIfChanged peer (sampleMac 2), .wait (fromSecs 299), .insertIfChanged peer (sampleMac 2),
        .wait (fromSecs 2), .insert other (sampleMac 3)]
    let stale6 : List (CacheOp Ipv6Addr) := [.insert 2 (sampleMac 2), .wait (fromSecs 400)]
    ((cacheRun 0 stale).1.lookup (cacheRun 0 stale).2 peer = some (sampleMac 2) ∧
      (CacheLog.run 0 stale).lookup peer = none) ∧
    ((cacheRun 0 refreshed).1.lookup (cacheRun 0 refreshed).2 peer = none ∧
      (CacheLog.run 0 refreshed).lookup peer = some (sampleMac 2)) ∧
    (cacheRun 0 stale6).1.lookup (cacheRun 0 stale6).2 2 = some (sampleMac 2) ∧
      (CacheLog.run 0 stale6).lookup 2 = none := by
  decide +kernel

end DpdkStdlib.Udp
