import DpdkStdlib.Udp.CacheThreads

/-!
# Pairs of the fast path

* `CachePhase.access` : where a thread is with the atomics;
* `Undisturbed` : no store falls between the stores, or the loads of a lookup, of another thread, and no load of a lookup
  between the stores of another thread;
* `CacheInv` : the atomics hold a pair that was inserted, or nothing, or what a thread is storing (`CacheInv.step`);
* `lookup_of_undisturbed` : in an undisturbed run a lookup returns what was inserted for its address;
* `lookup_mixed` : without that it need not.
-/

namespace DpdkStdlib.Udp
open DpdkStdlib.Lib

variable {Ip : Type} [SlotAddr Ip]

/-! ## The discipline -/

/-- Where a thread is with the atomics: it has begun to store a pair, or zeros, or to load a pair for a lookup. -/
def CachePhase.access : CachePhase Ip → Access
  | lookup _ loaded => if loaded = [] then .free else .loading loaded
  | store ip mac i => if i = 0 then .free else .storing (slotWords ip mac) i
  | reset _ i => if i = 0 then .free else .storing (emptySlot Ip) i
  | idle | lookupLock _ | check _ _ _ | storeLock _ _ | removeCheck _ _ | removeLock _ => .free

/-- The step does not fall between the accesses of another thread. -/
def Undisturbed (s : CacheThreads Ip) : CacheEvent Ip → Prop
  | .call _ _ => True
  | .go thread _ =>
    match s.phase thread with
    | .store _ _ _ | .reset _ _ => ∀ t, t ≠ thread → (s.phase t).access = .free
    | .lookup _ _ => ∀ t, t ≠ thread → ¬ (s.phase t).access.IsStoring
    | _ => True

/-! ## The invariant -/

def AllowedSlot (inserted : List (Ip × MacAddr)) (w : List Nat) : Prop :=
  w = emptySlot Ip ∨ ∃ p ∈ inserted, w = slotWords p.1 p.2

/-- What a thread is about to do fits what was called. -/
def CachePhase.Ok (inserted : List (Ip × MacAddr)) : CachePhase Ip → Prop
  | lookup ip loaded => loaded.length < SlotAddr.count Ip ∨ (loaded.any (· ≠ 0) ∧ loaded = SlotAddr.words ip)
  | check ip mac i | store ip mac i => (ip, mac) ∈ inserted ∧ i ≤ SlotAddr.count Ip
  | storeLock ip mac => (ip, mac) ∈ inserted
  | reset _ i => i ≤ SlotAddr.count Ip
  | idle | lookupLock _ | removeCheck _ _ | removeLock _ => True

theorem length_of_allowedSlot {inserted : List (Ip × MacAddr)} (w : List Nat) (h : AllowedSlot inserted w) :
    w.length = SlotAddr.count Ip + 1 := by
  rcases h with rfl | ⟨p, -, rfl⟩
  · exact List.length_replicate
  · exact length_slotWords p.1 p.2

theorem CachePhase.Ok.mono {inserted : List (Ip × MacAddr)} {phase : CachePhase Ip} (h : phase.Ok inserted)
    (more : List (Ip × MacAddr)) : phase.Ok (inserted ++ more) := by
  cases phase with
  | check | store => exact ⟨List.mem_append_left _ h.1, h.2⟩
  | storeLock => exact List.mem_append_left _ h
  | _ => exact h

theorem mem_of_allowedSlot {inserted : List (Ip × MacAddr)} {ip : Ip} {word : Nat}
    (hne : (SlotAddr.words ip).any (· ≠ 0)) (h : AllowedSlot inserted (SlotAddr.words ip ++ [word])) :
    (ip, u64ToMac (UInt64.ofNat word)) ∈ inserted := by
  rcases h with h | ⟨p, hp, h⟩
  · have hzero : ∀ x ∈ SlotAddr.words ip, x = 0 := by
      intro x hx
      exact List.eq_of_mem_replicate (h ▸ List.mem_append_left _ hx)
    rw [List.any_eq_true] at hne
    obtain ⟨x, hx, hx0⟩ := hne
    simp [hzero x hx] at hx0
  · obtain ⟨hwords, hword⟩ := List.append_inj' h rfl
    obtain rfl := SlotAddr.words_injective hwords
    obtain rfl := (List.cons.inj hword).1
    rwa [UInt64.ofNat_toNat, u64ToMac_macToU64]

variable [DecidableEq Ip]

/-- Whatever the threads are at, they have only what was inserted. -/
structure CacheInv (s : CacheThreads Ip) : Prop where
  slot : SlotInv (SlotAddr.count Ip + 1) (AllowedSlot s.inserted) s.mem.fast (CachePhase.access ∘ s.phase)
  phase : ∀ t, (s.phase t).Ok s.inserted
  entries : s.mem.entries.All fun ip entry => (ip, entry.mac) ∈ s.inserted

theorem cacheInv_new : CacheInv (.new : CacheThreads Ip) where
  slot :=
    { length_slot := List.length_replicate
      length_of_allowed := length_of_allowedSlot
      storing := by
        intro t w i h
        cases h
      loading := by
        intro t l h
        cases h
      whole := fun _ => .inl rfl }
  phase := fun _ => trivial
  entries := AssocMap.all_empty _

theorem CacheInv.call {s : CacheThreads Ip} (h : CacheInv s) (thread : Nat) (call : CacheCall Ip) :
    CacheInv (s.step (.call thread call)).1 := by
  rw [CacheThreads.step]
  split_ifs with hidle
  · have hstart : call.start.access = .free := by
      cases call <;> rfl
    refine ⟨?_, ?_, ?_⟩
    · dsimp only
      rw [Function.comp_update, hstart]
      refine (h.slot.mono ?_ length_of_allowedSlot).leave ?_
      · rintro w (rfl | ⟨p, hp, rfl⟩)
        · exact .inl rfl
        · exact .inr ⟨p, List.mem_append_left _ hp, rfl⟩
      · rw [Function.comp_apply, hidle]
        exact id
    · rw [Function.forall_update_iff s.phase fun _ phase => phase.Ok (s.inserted ++ call.pair.toList)]
      refine ⟨?_, fun t _ => (h.phase t).mono _⟩
      cases call with
      | lookup ip => exact .inl SlotAddr.count_pos
      | insert ip mac => exact ⟨by simp [CacheCall.pair], Nat.zero_le _⟩
      | insertIfChanged ip mac => exact ⟨by simp [CacheCall.pair], Nat.zero_le _⟩
      | remove ip => trivial
    · exact fun ip entry he => List.mem_append_left _ (h.entries ip entry he)
  · exact h

theorem CacheInv.leave {s : CacheThreads Ip} (h : CacheInv s) {thread : Nat} (phase : CachePhase Ip)
    (hfree : ¬ (s.phase thread).access.IsStoring) (haccess : phase.access = .free) (hok : phase.Ok s.inserted)
    {entries : AssocMap Ip CacheEntry} (hentries : entries.All fun ip entry => (ip, entry.mac) ∈ s.inserted) :
    CacheInv { s with phase := Function.update s.phase thread phase, mem := { s.mem with entries } } where
  slot := by
    dsimp only
    rw [Function.comp_update, haccess]
    exact h.slot.leave hfree
  phase := (Function.forall_update_iff s.phase fun _ phase => phase.Ok s.inserted).2 ⟨hok, fun t _ => h.phase t⟩
  entries := hentries

theorem CacheInv.lookup {s : CacheThreads Ip} (h : CacheInv s) {thread : Nat} {now : Instant} {ip : Ip}
    {loaded : List Nat} (hphase : s.phase thread = .lookup ip loaded) (hu : Undisturbed s (.go thread now)) :
    CacheInv (s.step (.go thread now)).1 ∧ ∀ p ∈ (s.step (.go thread now)).2, p ∈ s.inserted := by
  have hothers : ∀ t, t ≠ thread → ¬ (s.phase t).access.IsStoring := by
    rw [Undisturbed, hphase] at hu
    exact hu
  have hok := h.phase thread
  rw [hphase] at hok
  have hle : loaded.length ≤ SlotAddr.count Ip := by
    rcases hok with hlt | ⟨-, heq⟩
    · exact Nat.le_of_lt hlt
    · rw [heq, SlotAddr.length_words]
  have haccess : (s.phase thread).access = .loading loaded ∨ (s.phase thread).access = .free ∧ loaded = [] := by
    rw [hphase, CachePhase.access]
    by_cases hnil : loaded = []
    · exact .inr ⟨if_pos hnil, hnil⟩
    · exact .inl (if_neg hnil)
  have hfree : ¬ (s.phase thread).access.IsStoring := by
    rcases haccess with haccess | ⟨haccess, -⟩ <;> rw [haccess] <;> exact id
  obtain ⟨hload, hwhole⟩ := h.slot.load (t := thread) haccess (Nat.lt_succ_of_le hle) hothers
  rw [CacheThreads.step, hphase, CachePhase.go]
  by_cases hlt : loaded.length < SlotAddr.count Ip
  · rw [if_pos hlt]
    dsimp only
    refine ⟨?_, fun p hp => absurd hp List.not_mem_nil⟩
    rw [lookupNext]
    have hnext (hok' : (CachePhase.lookup ip (loaded ++ [s.mem.fast.getD loaded.length 0])).Ok s.inserted) :
        CacheInv { s with
          phase := Function.update s.phase thread (.lookup ip (loaded ++ [s.mem.fast.getD loaded.length 0])) } := by
      refine ⟨?_, (Function.forall_update_iff s.phase fun _ phase => phase.Ok s.inserted).2 ⟨hok', fun t _ => h.phase t⟩,
        h.entries⟩
      dsimp only
      rw [Function.comp_update, CachePhase.access, if_neg (by simp)]
      exact hload
    split_ifs with hmore hmatch
    · exact hnext (.inl hmore)
    · exact hnext (.inr hmatch)
    · exact h.leave (.lookupLock ip) hfree rfl trivial h.entries
  · rw [if_neg hlt]
    dsimp only
    refine ⟨h.leave .idle hfree rfl trivial h.entries, ?_⟩
    obtain ⟨hne, heq⟩ := hok.resolve_left hlt
    intro p hp
    obtain rfl := List.mem_singleton.1 hp
    have hallowed := hwhole (by omega)
    rw [heq] at hne hallowed
    exact heq ▸ mem_of_allowedSlot hne hallowed

theorem CacheInv.store {s : CacheThreads Ip} (h : CacheInv s) {thread : Nat} {w : List Nat} {i : Nat}
    {phase : CachePhase Ip} (hw : AllowedSlot s.inserted w) (hi : i ≤ SlotAddr.count Ip)
    (haccess : (s.phase thread).access = if i = 0 then .free else .storing w i)
    (hothers : ∀ t, t ≠ thread → (s.phase t).access = .free)
    (hnext : phase.access = if i + 1 < SlotAddr.count Ip + 1 then .storing w (i + 1) else .free)
    (hok : phase.Ok s.inserted) :
    CacheInv { s with phase := Function.update s.phase thread phase
                      mem := { s.mem with fast := s.mem.fast.set i (w.getD i 0) } } where
  slot := by
    dsimp only
    rw [Function.comp_update, hnext]
    refine h.slot.store hw ?_ (Nat.lt_succ_of_le hi) hothers
    by_cases h0 : i = 0
    · exact .inr ⟨haccess.trans (if_pos h0), h0⟩
    · exact .inl (haccess.trans (if_neg h0))
  phase := (Function.forall_update_iff s.phase fun _ phase => phase.Ok s.inserted).2 ⟨hok, fun t _ => h.phase t⟩
  entries := h.entries

/-- A step of a thread keeps the invariant. -/
theorem CacheInv.go {s : CacheThreads Ip} (h : CacheInv s) {thread : Nat} {now : Instant}
    (hu : Undisturbed s (.go thread now)) :
    CacheInv (s.step (.go thread now)).1 ∧ ∀ p ∈ (s.step (.go thread now)).2, p ∈ s.inserted := by
  have hok := h.phase thread
  have hnone (p : Ip × MacAddr) (hp : p ∈ ([] : List (Ip × MacAddr))) : p ∈ s.inserted := absurd hp List.not_mem_nil
  cases hphase : s.phase thread with
  | lookup ip loaded => exact h.lookup hphase hu
  | idle =>
    rw [CacheThreads.step, hphase]
    exact ⟨h.leave .idle (by rw [hphase]; exact id) rfl trivial h.entries, hnone⟩
  | lookupLock ip =>
    rw [CacheThreads.step, hphase]
    refine ⟨h.leave .idle (by rw [hphase]; exact id) rfl trivial h.entries, fun p hp => ?_⟩
    obtain ⟨mac, hmac, rfl⟩ := List.mem_map.1 hp
    rw [Option.mem_toList] at hmac
    obtain ⟨entry, hentry, hmac⟩ := Option.bind_eq_some_iff.1 hmac
    split_ifs at hmac
    obtain rfl := Option.some_inj.1 hmac
    exact h.entries ip entry hentry
  | check ip mac i =>
    rw [hphase] at hok
    rw [CacheThreads.step, hphase, CachePhase.go]
    have hfree : ¬ (s.phase thread).access.IsStoring := by rw [hphase]; exact id
    split_ifs with heq hi
    · exact ⟨h.leave (.check ip mac (i + 1)) hfree rfl ⟨hok.1, hi⟩ h.entries, hnone⟩
    · exact ⟨h.leave .idle hfree rfl trivial h.entries, hnone⟩
    · exact ⟨h.leave (.store ip mac 0) hfree rfl ⟨hok.1, Nat.zero_le _⟩ h.entries, hnone⟩
  | store ip mac i =>
    rw [hphase] at hok
    rw [Undisturbed, hphase] at hu
    rw [CacheThreads.step, hphase, CachePhase.go]
    have hw : AllowedSlot s.inserted (slotWords ip mac) := .inr ⟨_, hok.1, rfl⟩
    have haccess : (s.phase thread).access = if i = 0 then .free else .storing (slotWords ip mac) i := by rw [hphase]; rfl
    refine ⟨h.store hw hok.2 haccess hu ?_ ?_, hnone⟩
    · by_cases hi : i < SlotAddr.count Ip
      · rw [if_pos hi, if_pos (Nat.succ_lt_succ hi)]
        rfl
      · rw [if_neg hi, if_neg fun hlt => hi (Nat.lt_of_succ_lt_succ hlt)]
        rfl
    · split_ifs with hi
      · exact ⟨hok.1, hi⟩
      · exact hok.1
  | storeLock ip mac =>
    rw [hphase] at hok
    rw [CacheThreads.step, hphase]
    exact ⟨h.leave .idle (by rw [hphase]; exact id) rfl trivial (h.entries.insert hok), hnone⟩
  | removeCheck ip i =>
    rw [CacheThreads.step, hphase, CachePhase.go]
    have hfree : ¬ (s.phase thread).access.IsStoring := by rw [hphase]; exact id
    split_ifs
    · exact ⟨h.leave (.removeCheck ip (i + 1)) hfree rfl trivial h.entries, hnone⟩
    · exact ⟨h.leave (.reset ip 0) hfree rfl (Nat.zero_le _) h.entries, hnone⟩
    · exact ⟨h.leave (.removeLock ip) hfree rfl trivial h.entries, hnone⟩
  | reset ip i =>
    rw [hphase] at hok
    rw [Undisturbed, hphase] at hu
    rw [CacheThreads.step, hphase, CachePhase.go]
    have haccess : (s.phase thread).access = if i = 0 then .free else .storing (emptySlot Ip) i := by rw [hphase]; rfl
    have hzero : (emptySlot Ip).getD i 0 = 0 := by
      rw [emptySlot, List.getD_eq_getElem?_getD, List.getElem?_replicate]
      split_ifs <;> rfl
    refine ⟨hzero ▸ h.store (.inl rfl) hok haccess hu ?_ ?_, hnone⟩
    · by_cases hi : i < SlotAddr.count Ip
      · rw [if_pos hi, if_pos (Nat.succ_lt_succ hi)]
        rfl
      · rw [if_neg hi, if_neg fun hlt => hi (Nat.lt_of_succ_lt_succ hlt)]
        rfl
    · split_ifs with hi
      · exact hi
      · trivial
  | removeLock ip =>
    rw [CacheThreads.step, hphase]
    exact ⟨h.leave .idle (by rw [hphase]; exact id) rfl trivial (h.entries.erase ip), hnone⟩

/-! ## Lookups -/

theorem mem_inserted_step {s : CacheThreads Ip} {p : Ip × MacAddr} (h : p ∈ s.inserted) (e : CacheEvent Ip) :
    p ∈ (s.step e).1.inserted := by
  cases e with
  | call thread call =>
    rw [CacheThreads.step]
    split_ifs
    · exact List.mem_append_left _ h
    · exact h
  | go thread now => exact h

theorem lookups_step (s : CacheThreads Ip) (tr : List (Ip × MacAddr)) (e : CacheEvent Ip) (hu : Undisturbed s e)
    (h : CacheInv s ∧ ∀ p ∈ tr, p ∈ s.inserted) :
    CacheInv (s.step e).1 ∧ ∀ p ∈ tr ++ (s.step e).2, p ∈ (s.step e).1.inserted := by
  obtain ⟨hs, htr⟩ := h
  have hstep : CacheInv (s.step e).1 ∧ ∀ p ∈ (s.step e).2, p ∈ s.inserted := by
    cases e with
    | call thread call =>
      refine ⟨hs.call thread call, fun p hp => ?_⟩
      rw [CacheThreads.step] at hp
      split_ifs at hp <;> exact absurd hp List.not_mem_nil
    | go thread now => exact hs.go hu
  refine ⟨hstep.1, fun p hp => ?_⟩
  rcases List.mem_append.1 hp with hp | hp
  · exact mem_inserted_step (htr p hp) e
  · exact mem_inserted_step (hstep.2 p hp) e

/-- Lookups of an undisturbed run return what was inserted. -/
theorem lookups_run (es : List (CacheEvent Ip)) (h : Along Undisturbed CacheThreads.step .new es) :
    ∀ p ∈ (run CacheThreads.step .new es).2, p ∈ (run CacheThreads.step .new es).1.inserted :=
  (run_invariant lookups_step es .new [] h ⟨cacheInv_new, fun _ hp => absurd hp List.not_mem_nil⟩).2

/-- **Pairs.** In a run of threads at an ARP or an NDP cache where nobody disturbs an access to the pair of the fast path,
a lookup returns what was inserted for its address. -/
theorem lookup_of_undisturbed (es : List (CacheEvent Ipv4Addr)) (es6 : List (CacheEvent Ipv6Addr)) :
    (Along Undisturbed CacheThreads.step .new es →
      ∀ p ∈ (run CacheThreads.step .new es).2, p ∈ (run CacheThreads.step .new es).1.inserted) ∧
    (Along Undisturbed CacheThreads.step .new es6 →
      ∀ p ∈ (run CacheThreads.step .new es6).2, p ∈ (run CacheThreads.step .new es6).1.inserted) :=
  ⟨lookups_run es, lookups_run es6⟩

/-- The events of one thread. -/
def OfThread (thread : Nat) (e : CacheEvent Ip) : Prop := (∃ call, e = .call thread call) ∨ ∃ now, e = .go thread now

theorem phase_step_of_ne {thread t : Nat} (ht : t ≠ thread) (s : CacheThreads Ip) {e : CacheEvent Ip}
    (he : OfThread thread e) : (s.step e).1.phase t = s.phase t := by
  rcases he with ⟨call, rfl⟩ | ⟨now, rfl⟩
  · rw [CacheThreads.step]
    split_ifs
    · exact Function.update_of_ne ht ..
    · rfl
  · exact Function.update_of_ne ht ..

theorem phase_run_of_ne {thread t : Nat} (ht : t ≠ thread) (s : CacheThreads Ip) {es : List (CacheEvent Ip)}
    (h : ∀ e ∈ es, OfThread thread e) : (run CacheThreads.step s es).1.phase t = s.phase t := by
  induction es generalizing s with
  | nil => rfl
  | cons e es ih =>
    obtain ⟨he, hes⟩ := List.forall_mem_cons.1 h
    exact (ih _ hes).trans (phase_step_of_ne ht s he)

theorem undisturbed_of_alone (thread : Nat) {s : CacheThreads Ip} (hs : ∀ t, t ≠ thread → s.phase t = .idle)
    {es : List (CacheEvent Ip)} (h : ∀ e ∈ es, OfThread thread e) : Along Undisturbed CacheThreads.step s es := by
  induction es generalizing s with
  | nil => trivial
  | cons e es ih =>
    have hfree (t : Nat) (ht : t ≠ thread) : (s.phase t).access = .free := by
      rw [hs t ht]
      rfl
    obtain ⟨he, hes⟩ := List.forall_mem_cons.1 h
    refine ⟨?_, ih (fun t ht => (phase_step_of_ne ht s he).trans (hs t ht)) hes⟩
    rcases he with ⟨call, rfl⟩ | ⟨now, rfl⟩
    · trivial
    · rw [Undisturbed]
      split
      · exact hfree
      · exact hfree
      · intro t ht
        rw [hfree t ht]
        exact id
      · trivial

/-- One thread inserts a pair, then another one looks its address up. -/
def sampleInsert : List (CacheEvent Ipv4Addr) :=
  .call 0 (.insert ⟨10, 0, 0, 2⟩ (sampleMac 2)) :: List.replicate 3 (.go 0 0)

def sampleLookup : List (CacheEvent Ipv4Addr) := .call 1 (.lookup ⟨10, 0, 0, 2⟩) :: List.replicate 2 (.go 1 0)

theorem lookup_of_undisturbed_sample :
    let es := sampleInsert ++ sampleLookup
    Along Undisturbed CacheThreads.step .new es ∧
      (⟨10, 0, 0, 2⟩, sampleMac 2) ∈ (run CacheThreads.step .new es).2 ∧
      (⟨10, 0, 0, 2⟩, sampleMac 2) ∈ (run CacheThreads.step .new es).1.inserted := by
  intro es
  have hinsert : ∀ e ∈ sampleInsert, OfThread 0 e := by simp [sampleInsert, OfThread]
  have hlookup : ∀ e ∈ sampleLookup, OfThread 1 e := by simp [sampleLookup, OfThread]
  have hes : Along Undisturbed CacheThreads.step .new es := by
    refine (along_append _ _ _).2 ⟨undisturbed_of_alone 0 (fun _ _ => rfl) hinsert,
      undisturbed_of_alone 1 (fun t _ => ?_) hlookup⟩
    by_cases ht : t = 0
    · subst ht
      decide +kernel
    · exact phase_run_of_ne ht _ hinsert
  have hout : (⟨10, 0, 0, 2⟩, sampleMac 2) ∈ (run CacheThreads.step .new es).2 := by decide +kernel
  exact ⟨hes, hout, (lookup_of_undisturbed es []).1 hes _ hout⟩

/-- A lookup between the two stores of an insertion finds the link-layer address of another pair. -/
def sampleMixed {Ip : Type} (words : Nat) (first second : Ip) : List (CacheEvent Ip) :=
  [.call 0 (.insert first (sampleMac 2))] ++ List.replicate (words + 2) (.go 0 0) ++
    [.call 1 (.insert second (sampleMac 3))] ++ List.replicate words (.go 1 0) ++
    [.call 2 (.lookup second)] ++ List.replicate (words + 1) (.go 2 0)

def sampleMixed4 : List (CacheEvent Ipv4Addr) := sampleMixed 1 ⟨10, 0, 0, 2⟩ ⟨10, 0, 0, 3⟩

def sampleMixed6 : List (CacheEvent Ipv6Addr) := sampleMixed 2 2 3

/-- The address of one thread with the link-layer address of another. -/
theorem lookup_mixed :
    ((⟨10, 0, 0, 3⟩, sampleMac 2) ∈ (run CacheThreads.step .new sampleMixed4).2 ∧
      (⟨10, 0, 0, 3⟩, sampleMac 2) ∉ (run CacheThreads.step .new sampleMixed4).1.inserted) ∧
    (3, sampleMac 2) ∈ (run CacheThreads.step .new sampleMixed6).2 ∧
      (3, sampleMac 2) ∉ (run CacheThreads.step .new sampleMixed6).1.inserted := by
  decide +kernel

end DpdkStdlib.Udp
