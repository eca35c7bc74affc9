import DpdkStdlib.Tcp.Connection

/-!
# The engine as a family of connections

An engine call acts on each key on its own.
-/

namespace DpdkStdlib.Tcp
open DpdkStdlib.Lib

variable {k key : FourTuple} {e : TcpEngine} {t : Tcb} {f : Emitted} {now clock : Instant} {seg : ParsedTcpSegment}

namespace TcpEngine

/-- The connection of a key, as far as the engine or the application still knows it. -/
def view (e : TcpEngine) (key : FourTuple) : Option Outcome :=
  match e.tcbs.get? key with
  | some t => some (.live t)
  | none => (e.closed.get? key).map .removed

theorem view_eq_live_iff (e : TcpEngine) (key : FourTuple) (t : Tcb) :
    e.view key = some (.live t) ↔ e.tcbs.get? key = some t := by
  unfold view
  cases e.tcbs.get? key with
  | some u => simp
  | none => cases e.closed.get? key <;> simp

theorem view_congr {e' : TcpEngine} (h : e.tcbs = e'.tcbs) (h' : e.closed = e'.closed) (key : FourTuple) :
    e.view key = e'.view key := by
  unfold view
  rw [h, h']

/-! ## One key at a time -/

theorem view_store_self (e : TcpEngine) (key : FourTuple) (s : Outcome) : (e.store key s).view key = some s := by
  cases s with
  | live t => simp [store, view]
  | removed h => simp [store, view]

theorem view_store_ne (e : TcpEngine) (h : k ≠ key) (s : Outcome) : (e.store key s).view k = e.view k := by
  cases s with
  | live t => simp [store, view, AssocMap.get?_insert_ne _ _ h]
  | removed hd => simp [store, view, AssocMap.get?_insert_ne _ _ h, AssocMap.get?_erase_ne _ h]

theorem get?_store_ne (e : TcpEngine) (h : k ≠ key) (s : Outcome) : (e.store key s).tcbs.get? k = e.tcbs.get? k := by
  cases s with
  | live t => exact AssocMap.get?_insert_ne _ _ h
  | removed hd => exact AssocMap.get?_erase_ne _ h

theorem config_store (e : TcpEngine) (key : FourTuple) (s : Outcome) : (e.store key s).config = e.config := by
  cases s <;> rfl

theorem answerConnect_same (e : TcpEngine) (key : FourTuple) (r : Except TcpError FourTuple) :
    (e.answerConnect key r).engine.tcbs = e.tcbs ∧ (e.answerConnect key r).engine.closed = e.closed ∧
      (e.answerConnect key r).engine.config = e.config := by
  unfold answerConnect
  split <;> exact ⟨rfl, rfl, rfl⟩

theorem deliverAccepted_same (e : TcpEngine) (key : FourTuple) :
    (e.deliverAccepted key).engine.tcbs = e.tcbs ∧ (e.deliverAccepted key).engine.closed = e.closed ∧
      (e.deliverAccepted key).engine.config = e.config := by
  unfold deliverAccepted
  split
  · exact ⟨rfl, rfl, rfl⟩
  · split <;> exact ⟨rfl, rfl, rfl⟩

theorem applyEffect_same (e : TcpEngine) (key : FourTuple) (eff : Effect) :
    (e.applyEffect key eff).engine.tcbs = (e.store key eff.outcome).tcbs ∧
      (e.applyEffect key eff).engine.closed = (e.store key eff.outcome).closed ∧
      (e.applyEffect key eff).engine.config = e.config := by
  unfold applyEffect
  cases eff.signal with
  | quiet => exact ⟨rfl, rfl, config_store e key _⟩
  | connected r =>
    obtain ⟨h1, h2, h3⟩ := answerConnect_same (e.store key eff.outcome) key r
    exact ⟨h1, h2, h3.trans (config_store e key _)⟩
  | accepted =>
    obtain ⟨h1, h2, h3⟩ := deliverAccepted_same (e.store key eff.outcome) key
    exact ⟨h1, h2, h3.trans (config_store e key _)⟩

theorem out_applyEffect (e : TcpEngine) (key : FourTuple) (eff : Effect) : (e.applyEffect key eff).out = eff.out := rfl

theorem view_applyEffect (e : TcpEngine) (key k : FourTuple) (eff : Effect) :
    (e.applyEffect key eff).engine.view k = (e.store key eff.outcome).view k := by
  obtain ⟨h1, h2, -⟩ := applyEffect_same e key eff
  exact view_congr h1 h2 k

theorem onKey_of_get? (ht : e.tcbs.get? key = some t) (f : Tcb → Effect) :
    e.onKey key f = e.applyEffect key (f t) := by
  rw [onKey, ht]

theorem onKey_of_none (ht : e.tcbs.get? key = none) (f : Tcb → Effect) : e.onKey key f = { engine := e } := by
  rw [onKey, ht]

theorem view_onKey_ne (e : TcpEngine) (h : k ≠ key) (f : Tcb → Effect) : (e.onKey key f).engine.view k = e.view k := by
  cases ht : e.tcbs.get? key with
  | none => rw [onKey_of_none ht]
  | some t => rw [onKey_of_get? ht, view_applyEffect, view_store_ne e h]

theorem get?_onKey_ne (e : TcpEngine) (h : k ≠ key) (f : Tcb → Effect) :
    (e.onKey key f).engine.tcbs.get? k = e.tcbs.get? k := by
  cases ht : e.tcbs.get? key with
  | none => rw [onKey_of_none ht]
  | some t => rw [onKey_of_get? ht, (applyEffect_same e key (f t)).1, get?_store_ne e h]

theorem view_onKey_self (ht : e.tcbs.get? key = some t) (f : Tcb → Effect) :
    (e.onKey key f).engine.view key = some (f t).outcome := by
  rw [onKey_of_get? ht, view_applyEffect, view_store_self]

theorem config_onKey (e : TcpEngine) (key : FourTuple) (f : Tcb → Effect) : (e.onKey key f).engine.config = e.config := by
  cases ht : e.tcbs.get? key with
  | none => rw [onKey_of_none ht]
  | some t => rw [onKey_of_get? ht, (applyEffect_same e key (f t)).2.2]

/-! ## Segments -/

theorem onSegmentWithMacs_of_get? (ht : e.tcbs.get? ⟨seg.dst, seg.src⟩ = some t) (srcMac dstMac : MacAddr) :
    e.onSegmentWithMacs clock seg srcMac dstMac = e.applyEffect ⟨seg.dst, seg.src⟩ (segmentTcb clock seg t) := by
  have hc : e.tcbs.contains ⟨seg.dst, seg.src⟩ = true := by simp [AssocMap.contains, ht]
  unfold onSegmentWithMacs segmentTcb
  dsimp only
  split_ifs
  · rw [onKey_of_get? ht]
  · rw [onKey_of_get? ht]

/-- A segment does to its connection what `segmentTcb` does. -/
theorem view_onSegment (clock : Instant) (ht : e.tcbs.get? ⟨seg.dst, seg.src⟩ = some t) (srcMac dstMac : MacAddr) :
    (e.onSegmentWithMacs clock seg srcMac dstMac).engine.view ⟨seg.dst, seg.src⟩ =
        some (segmentTcb clock seg t).outcome ∧
      (e.onSegmentWithMacs clock seg srcMac dstMac).out = (segmentTcb clock seg t).out := by
  rw [onSegmentWithMacs_of_get? ht]
  exact ⟨by rw [view_applyEffect, view_store_self], rfl⟩

theorem tcbs_insertTcb (e : TcpEngine) (key : FourTuple) (t : Tcb) : (e.insertTcb key t).tcbs = e.tcbs.insert key t := rfl

theorem view_insertTcb_self (e : TcpEngine) (key : FourTuple) (t : Tcb) :
    (e.insertTcb key t).view key = some (.live t) := by
  simp [insertTcb, view]

theorem view_insertTcb_ne (e : TcpEngine) (h : k ≠ key) (t : Tcb) : (e.insertTcb key t).view k = e.view k := by
  unfold insertTcb view
  dsimp only
  rw [AssocMap.get?_insert_ne _ _ h]
  cases e.tcbs.get? key with
  | none => rfl
  | some old => dsimp only; rw [AssocMap.get?_insert_ne _ _ h]

def passiveOpen (e : TcpEngine) (clock : Instant) (seg : ParsedTcpSegment) (srcMac dstMac : MacAddr) : Opening :=
  .passive ⟨seg.dst, seg.src⟩ (e.isnGen.generate ⟨seg.dst, seg.src⟩ clock) seg dstMac srcMac clock

theorem handleSynWithMacs_cases (e : TcpEngine) (clock : Instant) (seg : ParsedTcpSegment) (srcMac dstMac : MacAddr) :
    e.handleSynWithMacs clock seg ⟨seg.dst, seg.src⟩ srcMac dstMac = { engine := e, out := sendRstForSegment seg } ∨
      e.handleSynWithMacs clock seg ⟨seg.dst, seg.src⟩ srcMac dstMac =
        { engine := e.insertTcb ⟨seg.dst, seg.src⟩ ((e.passiveOpen clock seg srcMac dstMac).tcb e.config)
          out := [(e.passiveOpen clock seg srcMac dstMac).emitted e.config] } := by
  unfold handleSynWithMacs
  cases e.listenerFor seg.dst with
  | none => exact Or.inl rfl
  | some al =>
    dsimp only
    split_ifs
    · exact Or.inl rfl
    · exact Or.inl rfl
    · exact Or.inr rfl

theorem onSegmentWithMacs_of_none (clock : Instant) (ht : e.tcbs.get? ⟨seg.dst, seg.src⟩ = none)
    (srcMac dstMac : MacAddr) :
    ((e.onSegmentWithMacs clock seg srcMac dstMac).engine = e ∧
        ∀ f ∈ (e.onSegmentWithMacs clock seg srcMac dstMac).out, f ∈ sendRstForSegment seg) ∨
      (seg.flags.contains .syn = true ∧ seg.flags.contains .ack = false ∧ seg.flags.contains .rst = false ∧
        (e.onSegmentWithMacs clock seg srcMac dstMac).engine =
          e.insertTcb ⟨seg.dst, seg.src⟩ ((e.passiveOpen clock seg srcMac dstMac).tcb e.config) ∧
        (e.onSegmentWithMacs clock seg srcMac dstMac).out =
          [(e.passiveOpen clock seg srcMac dstMac).emitted e.config]) := by
  have hc : e.tcbs.contains ⟨seg.dst, seg.src⟩ = false := by simp [AssocMap.contains, ht]
  unfold onSegmentWithMacs
  dsimp only
  split_ifs with hrst hcon hsyn
  · rw [onKey_of_none ht]
    exact Or.inl ⟨rfl, fun f hf => absurd hf List.not_mem_nil⟩
  · rw [hc] at hcon
    cases hcon
  · simp only [Bool.and_eq_true, Bool.not_eq_true', Bool.not_eq_true] at hsyn hrst
    rcases handleSynWithMacs_cases e clock seg srcMac dstMac with h | h
    · rw [h]
      exact Or.inl ⟨rfl, fun f hf => hf⟩
    · rw [h]
      exact Or.inr ⟨hsyn.1, hsyn.2, hrst, rfl, rfl⟩
  · exact Or.inl ⟨rfl, fun f hf => absurd hf List.not_mem_nil⟩

/-- A segment leaves the other connections alone. -/
theorem view_onSegment_ne (e : TcpEngine) (clock : Instant) (seg : ParsedTcpSegment) (srcMac dstMac : MacAddr)
    (h : k ≠ ⟨seg.dst, seg.src⟩) : (e.onSegmentWithMacs clock seg srcMac dstMac).engine.view k = e.view k := by
  cases ht : e.tcbs.get? ⟨seg.dst, seg.src⟩ with
  | some t => rw [onSegmentWithMacs_of_get? ht, view_applyEffect, view_store_ne e h]
  | none =>
    rcases onSegmentWithMacs_of_none clock ht srcMac dstMac with ⟨he, -⟩ | ⟨-, -, -, he, -⟩
    · rw [he]
    · rw [he, view_insertTcb_ne e h]

/-! ## Ticks -/

/-- What the expiry pass of a tick makes of a TCB. -/
def expireTcb (now : Instant) (t : Tcb) : Outcome :=
  if expired now t then .removed ((t.handle.setState .closed).setEof) else .live t

theorem expireKey_of_get? (now : Instant) (ht : e.tcbs.get? key = some t) :
    (expireKey now e key).view key = some (expireTcb now t) := by
  unfold expireKey expireTcb
  rw [ht]
  dsimp only
  split_ifs
  · rw [view_store_self]
  · exact (view_eq_live_iff e key t).2 ht

theorem expireKey_ne (now : Instant) (e : TcpEngine) (h : k ≠ key) :
    (expireKey now e key).view k = e.view k ∧ (expireKey now e key).tcbs.get? k = e.tcbs.get? k := by
  unfold expireKey
  cases e.tcbs.get? key with
  | none => exact ⟨rfl, rfl⟩
  | some t =>
    dsimp only
    split_ifs
    · exact ⟨view_store_ne e h _, get?_store_ne e h _⟩
    · exact ⟨rfl, rfl⟩

theorem config_expireKey (now : Instant) (e : TcpEngine) (key : FourTuple) :
    (expireKey now e key).config = e.config := by
  unfold expireKey
  cases e.tcbs.get? key with
  | none => rfl
  | some t =>
    dsimp only
    split_ifs
    · exact config_store e key _
    · rfl

theorem foldl_expireKey_notMem (now : Instant) {ks : List FourTuple} (hk : k ∉ ks) (e : TcpEngine) :
    (ks.foldl (expireKey now) e).view k = e.view k ∧ (ks.foldl (expireKey now) e).tcbs.get? k = e.tcbs.get? k :=
  have hne (key : FourTuple) (hkey : key ∈ ks) : k ≠ key := fun h => hk (h ▸ hkey)
  ⟨foldl_unchanged (·.view k) (fun e key hkey => (expireKey_ne now e (hne key hkey)).1) e,
    foldl_unchanged (·.tcbs.get? k) (fun e key hkey => (expireKey_ne now e (hne key hkey)).2) e⟩

theorem view_foldl_expireKey (now : Instant) {ks : List FourTuple} (hnodup : ks.Nodup) (hk : k ∈ ks)
    (ht : e.tcbs.get? k = some t) : (ks.foldl (expireKey now) e).view k = some (expireTcb now t) := by
  obtain ⟨before, after, rfl, hbefore, hafter⟩ := exists_split_of_nodup hnodup hk
  have ht' := (foldl_expireKey_notMem now hbefore e).2.trans ht
  rw [List.foldl_append, List.foldl_cons, (foldl_expireKey_notMem now hafter _).1, expireKey_of_get? now ht']

theorem config_foldl_expireKey (now : Instant) (ks : List FourTuple) (e : TcpEngine) :
    (ks.foldl (expireKey now) e).config = e.config :=
  foldl_unchanged (·.config) (fun e key _ => config_expireKey now e key) e

theorem tickKey_ne (now clock : Instant) (r : CallResult) (h : k ≠ key) :
    (tickKey now clock r key).engine.view k = r.engine.view k ∧
      (tickKey now clock r key).engine.tcbs.get? k = r.engine.tcbs.get? k :=
  ⟨view_onKey_ne r.engine h _, get?_onKey_ne r.engine h _⟩

theorem config_tickKey (now clock : Instant) (r : CallResult) (key : FourTuple) :
    (tickKey now clock r key).engine.config = r.engine.config := config_onKey r.engine key _

theorem foldl_tickKey_notMem (now clock : Instant) {ks : List FourTuple} (hk : k ∉ ks) (r : CallResult) :
    (ks.foldl (tickKey now clock) r).engine.view k = r.engine.view k ∧
      (ks.foldl (tickKey now clock) r).engine.tcbs.get? k = r.engine.tcbs.get? k :=
  have hne (key : FourTuple) (hkey : key ∈ ks) : k ≠ key := fun h => hk (h ▸ hkey)
  ⟨foldl_unchanged (·.engine.view k) (fun r key hkey => (tickKey_ne now clock r (hne key hkey)).1) r,
    foldl_unchanged (·.engine.tcbs.get? k) (fun r key hkey => (tickKey_ne now clock r (hne key hkey)).2) r⟩

theorem config_foldl_tickKey (now clock : Instant) (ks : List FourTuple) (r : CallResult) :
    (ks.foldl (tickKey now clock) r).engine.config = r.engine.config :=
  foldl_unchanged (·.engine.config) (fun r key _ => config_tickKey now clock r key) r

theorem view_foldl_tickKey (now clock : Instant) {ks : List FourTuple} {r : CallResult} (hnodup : ks.Nodup)
    (hk : k ∈ ks) (ht : r.engine.tcbs.get? k = some t) :
    (ks.foldl (tickKey now clock) r).engine.view k = some (tickTcb r.engine.config now clock t).outcome := by
  obtain ⟨before, after, rfl, hbefore, hafter⟩ := exists_split_of_nodup hnodup hk
  have ht' := (foldl_tickKey_notMem now clock hbefore r).2.trans ht
  rw [List.foldl_append, List.foldl_cons, (foldl_tickKey_notMem now clock hafter _).1,
    ← config_foldl_tickKey now clock before r]
  exact view_onKey_self ht' _

theorem mem_keys_of_get? (h : e.tcbs.get? k = some t) : k ∈ e.tcbs.keys :=
  List.mem_map.2 ⟨(k, t), (AssocMap.mem_entries_iff _ _ _).2 h, rfl⟩

theorem notMem_keys_of_none (h : e.tcbs.get? k = none) : k ∉ e.tcbs.keys := by
  intro hm
  obtain ⟨p, hp, rfl⟩ := List.mem_map.1 hm
  rw [(AssocMap.mem_entries_iff e.tcbs p.1 p.2).1 hp] at h
  cases h

/-- **A tick, key by key.** Both passes of `on_tick`, seen from a key that has a TCB. -/
theorem view_onTick (now clock : Instant) (ht : e.tcbs.get? k = some t) :
    (e.onTick now clock).engine.view k = some (onTickTcb e.config now clock t).outcome := by
  have hview := view_foldl_expireKey now e.tcbs.nodup_keys (mem_keys_of_get? ht) ht
  have hcfg := config_foldl_expireKey now e.tcbs.keys e
  unfold onTick onTickTcb
  dsimp only
  generalize e.tcbs.keys.foldl (expireKey now) e = e1 at hview hcfg ⊢
  unfold expireTcb at hview
  split_ifs at hview ⊢
  · -- removed by the first pass, so the second has no key for it
    have hnone : e1.tcbs.get? k = none := by
      cases h1 : e1.tcbs.get? k with
      | none => rfl
      | some u => rw [(view_eq_live_iff e1 k u).2 h1] at hview; cases hview
    rw [(foldl_tickKey_notMem now clock (notMem_keys_of_none hnone) _).1]
    exact hview
  · have h1 := (view_eq_live_iff e1 k t).1 hview
    exact (view_foldl_tickKey now clock e1.tcbs.nodup_keys (mem_keys_of_get? h1) h1).trans (by rw [hcfg])

/-- A tick leaves a key without a TCB alone. -/
theorem view_onTick_of_none (now clock : Instant) (ht : e.tcbs.get? k = none) :
    (e.onTick now clock).engine.view k = e.view k := by
  obtain ⟨h1, h2⟩ := foldl_expireKey_notMem now (notMem_keys_of_none ht) e
  unfold onTick
  dsimp only
  generalize e.tcbs.keys.foldl (expireKey now) e = e1 at h1 h2 ⊢
  rw [(foldl_tickKey_notMem now clock (notMem_keys_of_none (h2.trans ht)) _).1, h1]

theorem config_onTick (e : TcpEngine) (now clock : Instant) : (e.onTick now clock).engine.config = e.config := by
  unfold onTick
  rw [config_foldl_tickKey, config_foldl_expireKey]

theorem mem_out_foldl_tickKey (now clock : Instant) :
    ∀ (ks : List FourTuple) (r : CallResult), ks.Nodup → f ∈ (ks.foldl (tickKey now clock) r).out →
      f ∈ r.out ∨ ∃ k ∈ ks, ∃ t, r.engine.tcbs.get? k = some t ∧ f ∈ (tickTcb r.engine.config now clock t).out := by
  intro ks
  induction ks with
  | nil => intro r _ hf; exact Or.inl hf
  | cons key ks ih =>
    intro r hnd hf
    rw [List.nodup_cons] at hnd
    rcases ih _ hnd.2 hf with hf | ⟨k, hk, t, ht, hf⟩
    · rcases List.mem_append.1 hf with hf | hf
      · exact Or.inl hf
      · cases ht : r.engine.tcbs.get? key with
        | none => rw [onKey_of_none ht] at hf; cases hf
        | some t => rw [onKey_of_get? ht, out_applyEffect] at hf; exact Or.inr ⟨key, List.mem_cons_self, t, ht, hf⟩
    · have hne : k ≠ key := fun h => hnd.1 (h ▸ hk)
      rw [(tickKey_ne now clock r hne).2] at ht
      rw [config_tickKey] at hf
      exact Or.inr ⟨k, List.mem_cons_of_mem _ hk, t, ht, hf⟩

theorem mem_out_tickKey_of_mem (now clock : Instant) {r : CallResult} (hf : f ∈ r.out) (ks : List FourTuple) :
    f ∈ (ks.foldl (tickKey now clock) r).out := by
  induction ks generalizing r with
  | nil => exact hf
  | cons key ks ih => exact ih (List.mem_append_left _ hf)

theorem mem_out_foldl_tickKey_of_get? (now clock : Instant) {ks : List FourTuple} {r : CallResult}
    (hnodup : ks.Nodup) (hk : k ∈ ks) (ht : r.engine.tcbs.get? k = some t)
    (hf : f ∈ (tickTcb r.engine.config now clock t).out) : f ∈ (ks.foldl (tickKey now clock) r).out := by
  obtain ⟨before, after, rfl, hbefore, -⟩ := exists_split_of_nodup hnodup hk
  have ht' := (foldl_tickKey_notMem now clock hbefore r).2.trans ht
  rw [List.foldl_append, List.foldl_cons]
  refine mem_out_tickKey_of_mem now clock (List.mem_append_right _ ?_) after
  rw [onKey_of_get? ht', config_foldl_tickKey]
  exact hf

theorem live_foldl_expireKey (h : (e.tcbs.keys.foldl (expireKey now) e).tcbs.get? k = some t) :
    e.tcbs.get? k = some t ∧ expired now t = false := by
  have hv := (view_eq_live_iff _ k t).2 h
  cases hk : e.tcbs.get? k with
  | none => rw [(foldl_expireKey_notMem now (notMem_keys_of_none hk) e).2, hk] at h; cases h
  | some u =>
    rw [view_foldl_expireKey now e.tcbs.nodup_keys (mem_keys_of_get? hk) hk, expireTcb] at hv
    split_ifs at hv with hexp
    · cases hv
    · cases hv; exact ⟨rfl, Bool.eq_false_iff.2 hexp⟩

theorem mem_out_onTick (hf : f ∈ (e.onTick now clock).out) :
    ∃ k t, e.tcbs.get? k = some t ∧ f ∈ (onTickTcb e.config now clock t).out := by
  have hcfg := config_foldl_expireKey now e.tcbs.keys e
  have hlive (k : FourTuple) (t : Tcb) (h : (e.tcbs.keys.foldl (expireKey now) e).tcbs.get? k = some t) :=
    live_foldl_expireKey h
  unfold onTick at hf
  dsimp only at hf
  generalize e.tcbs.keys.foldl (expireKey now) e = e1 at hf hcfg hlive
  rcases mem_out_foldl_tickKey now clock e1.tcbs.keys { engine := e1 } e1.tcbs.nodup hf with hf | ⟨k, -, t, ht, hf⟩
  · cases hf
  · obtain ⟨hk, hexp⟩ := hlive k t ht
    refine ⟨k, t, hk, ?_⟩
    rw [onTickTcb, hexp, ← hcfg]
    exact hf

theorem mem_out_onTick_of_get? (ht : e.tcbs.get? k = some t) (hf : f ∈ (onTickTcb e.config now clock t).out) :
    f ∈ (e.onTick now clock).out := by
  have hview := view_foldl_expireKey now e.tcbs.nodup_keys (mem_keys_of_get? ht) ht
  have hcfg := config_foldl_expireKey now e.tcbs.keys e
  unfold onTickTcb at hf
  unfold onTick
  dsimp only
  generalize e.tcbs.keys.foldl (expireKey now) e = e1 at hview hcfg ⊢
  unfold expireTcb at hview
  split_ifs at hview hf
  · cases hf
  · have h1 := (view_eq_live_iff e1 k t).1 hview
    exact mem_out_foldl_tickKey_of_get? now clock e1.tcbs.nodup_keys (mem_keys_of_get? h1) h1 (by rwa [hcfg])

end TcpEngine

/-! ## Events of an engine -/

/-- Everything that happens to an engine.  The handle of a connect is a new one. -/
inductive EngineEvent
  | segment (clock : Instant) (seg : ParsedTcpSegment) (frameSrcMac frameDstMac : MacAddr)
  | tick (now clock : Instant)
  | connect (clock : Instant) (key : FourTuple) (srcMac dstMac : MacAddr) (rxCapacity txCapacity : Nat)
      (response : Channel)
  | listen (addr : SocketAddr) (backlog : Nat) (response : Channel)
  | accept (addr : SocketAddr) (response : Channel)
  | shutdown (clock : Instant) (key : FourTuple) (how : Shutdown)
  | close (clock : Instant) (key : FourTuple) (linger : Option Duration)
  | setOption (clock : Instant) (key : FourTuple) (option : SocketOption)
  | write (key : FourTuple) (data : List UInt8)
  | read (key : FourTuple) (n : Nat)

/-- One event of the engine. -/
def engineStep (e : TcpEngine) : EngineEvent → CallResult
  | .segment clock seg frameSrcMac frameDstMac => e.onSegmentWithMacs clock seg frameSrcMac frameDstMac
  | .tick now clock => e.onTick now clock
  | .connect clock key srcMac dstMac rx tx response =>
    e.onCommand clock (.connect key.localAddr key.remoteAddr srcMac dstMac (.new rx tx key) response)
  | .listen addr backlog response => e.onCommand 0 (.listen addr backlog response)
  | .accept addr response => e.onCommand 0 (.accept addr response)
  | .shutdown clock key how => e.onCommand clock (.shutdown key how)
  | .close clock key linger => e.onCommand clock (.close key linger)
  | .setOption clock key option => e.onCommand clock (.setOption key option)
  | .write key data => { engine := e.updateHandle key (·.appWrite data) }
  | .read key n => { engine := e.updateHandle key (·.appRead n) }

def engineRun (e : TcpEngine) (evs : List EngineEvent) : TcpEngine := evs.foldl (fun e ev => (engineStep e ev).engine) e

/-- What an event of the engine is to the connection of one key. -/
inductive ViewStep (cfg : EngineConfig) (key : FourTuple) : Option Outcome → Option Outcome → Prop
  | same (s) : ViewStep cfg key s s
  | opened (s) (o : Opening) (hkey : o.key = key) : ViewStep cfg key s (some (.live (o.tcb cfg)))
  | event (s : Outcome) (ev : ConnEvent) : ViewStep cfg key (some s) (some (connStep cfg s ev).1)

namespace TcpEngine

theorem view_updateHandle_ne (e : TcpEngine) (h : k ≠ key) (f : ConnectionHandle → ConnectionHandle) :
    (e.updateHandle key f).view k = e.view k := by
  unfold updateHandle
  split
  · simp [view, AssocMap.get?_insert_ne _ _ h]
  · split
    · simp [view, AssocMap.get?_insert_ne _ _ h]
    · rfl

theorem viewStep_updateHandle (e : TcpEngine) (key : FourTuple) (f : ConnectionHandle → ConnectionHandle)
    (ev : ConnEvent) (hlive : ∀ t, connStep e.config (.live t) ev = (.live { t with handle := f t.handle }, []))
    (hgone : ∀ h, connStep e.config (.removed h) ev = (.removed (f h), [])) :
    ViewStep e.config key (e.view key) ((e.updateHandle key f).view key) := by
  unfold updateHandle
  cases ht : e.tcbs.get? key with
  | some t =>
    have h : ViewStep e.config key _ _ := .event (.live t) ev
    rw [hlive] at h
    simpa [view, ht] using h
  | none =>
    cases hc : e.closed.get? key with
    | some hd =>
      have h : ViewStep e.config key _ _ := .event (.removed hd) ev
      rw [hgone] at h
      simpa [view, ht, hc] using h
    | none => exact .same _

theorem viewStep_onKey {f : Tcb → Effect} (ev : ConnEvent) (hev : ∀ t, callTcb e.config ev t = f t) :
    ViewStep e.config k (e.view k) ((e.onKey key f).engine.view k) := by
  by_cases hk : k = key
  · subst hk
    cases ht : e.tcbs.get? k with
    | none => rw [onKey_of_none ht]; exact .same _
    | some t =>
      have h : ViewStep e.config k _ _ := .event (.live t) ev
      rw [connStep, hev] at h
      rw [view_onKey_self ht, (view_eq_live_iff e k t).2 ht]
      exact h
  · rw [view_onKey_ne e hk]
    exact .same _

def activeOpen (e : TcpEngine) (clock : Instant) (key : FourTuple) (srcMac dstMac : MacAddr) (rx tx : Nat) : Opening :=
  .active key (e.isnGen.generate key clock) rx tx srcMac dstMac clock

/-- A connect is refused, or opens a connection. -/
theorem handleConnect_cases (e : TcpEngine) (clock : Instant) (key : FourTuple) (srcMac dstMac : MacAddr)
    (rx tx : Nat) (response : Channel) :
    (e.config.maxTcbs ≤ e.tcbs.size ∧
        e.handleConnect clock key.localAddr key.remoteAddr srcMac dstMac (.new rx tx key) response =
          { engine := e, sent := [.connect response (.error (.resourceLimit "max TCBs exceeded"))] }) ∨
      (e.tcbs.size < e.config.maxTcbs ∧
        e.handleConnect clock key.localAddr key.remoteAddr srcMac dstMac (.new rx tx key) response =
          { engine := { e.insertTcb key ((e.activeOpen clock key srcMac dstMac rx tx).tcb e.config) with
              pendingConnects := e.pendingConnects.insert key response }
            out := [(e.activeOpen clock key srcMac dstMac rx tx).emitted e.config] }) := by
  unfold handleConnect
  dsimp only
  split_ifs with hfull
  · exact Or.inl ⟨hfull, rfl⟩
  · exact Or.inr ⟨Nat.lt_of_not_le hfull, rfl⟩

theorem viewStep_connect (e : TcpEngine) (clock : Instant) (key k : FourTuple) (srcMac dstMac : MacAddr)
    (rx tx : Nat) (response : Channel) :
    ViewStep e.config k (e.view k)
      ((e.handleConnect clock key.localAddr key.remoteAddr srcMac dstMac (.new rx tx key) response).engine.view k) := by
  rcases e.handleConnect_cases clock key srcMac dstMac rx tx response with ⟨-, h⟩ | ⟨-, h⟩
  · rw [h]
    exact .same _
  · rw [h]
    change ViewStep e.config k (e.view k) ((e.insertTcb key _).view k)
    by_cases hk : k = key
    · subst hk
      rw [view_insertTcb_self]
      exact .opened _ _ rfl
    · rw [view_insertTcb_ne e hk]
      exact .same _

theorem viewStep_segment (e : TcpEngine) (clock : Instant) (seg : ParsedTcpSegment) (srcMac dstMac : MacAddr)
    (k : FourTuple) :
    ViewStep e.config k (e.view k) ((e.onSegmentWithMacs clock seg srcMac dstMac).engine.view k) := by
  by_cases hk : k = ⟨seg.dst, seg.src⟩
  · subst hk
    cases ht : e.tcbs.get? ⟨seg.dst, seg.src⟩ with
    | some t =>
      rw [(view_onSegment clock ht srcMac dstMac).1, (view_eq_live_iff e _ t).2 ht]
      exact .event (.live t) (.segment clock seg)
    | none =>
      rcases onSegmentWithMacs_of_none clock ht srcMac dstMac with ⟨he, -⟩ | ⟨-, -, -, he, -⟩
      · rw [he]; exact .same _
      · rw [he, view_insertTcb_self]
        exact .opened _ _ rfl
  · rw [view_onSegment_ne e clock seg srcMac dstMac hk]
    exact .same _

theorem handleAccept_same (e : TcpEngine) (addr : SocketAddr) (response : Channel) :
    (e.handleAccept addr response).engine.tcbs = e.tcbs ∧ (e.handleAccept addr response).engine.closed = e.closed ∧
      (e.handleAccept addr response).engine.config = e.config := by
  unfold handleAccept
  split
  · split <;> exact ⟨rfl, rfl, rfl⟩
  · exact ⟨rfl, rfl, rfl⟩

/-- **One event, one key.** An event of the engine opens the connection of a key, is an event of it, or is nothing. -/
theorem view_engineStep (e : TcpEngine) (ev : EngineEvent) (k : FourTuple) :
    ViewStep e.config k (e.view k) ((engineStep e ev).engine.view k) := by
  cases ev with
  | segment clock seg srcMac dstMac => exact viewStep_segment e clock seg srcMac dstMac k
  | tick now clock =>
    cases ht : e.tcbs.get? k with
    | some t =>
      change ViewStep e.config k (e.view k) ((e.onTick now clock).engine.view k)
      rw [view_onTick now clock ht, (view_eq_live_iff e k t).2 ht]
      exact .event (.live t) (.tick now clock)
    | none =>
      change ViewStep e.config k (e.view k) ((e.onTick now clock).engine.view k)
      rw [view_onTick_of_none now clock ht]
      exact .same _
  | connect clock key srcMac dstMac rx tx response => exact viewStep_connect e clock key k srcMac dstMac rx tx response
  | listen addr backlog response => exact .same _
  | accept addr response =>
    obtain ⟨h1, h2, -⟩ := handleAccept_same e addr response
    change ViewStep e.config k (e.view k) ((e.handleAccept addr response).engine.view k)
    rw [view_congr h1 h2]
    exact .same _
  | shutdown clock key how => exact viewStep_onKey (.shutdown clock how) fun _ => rfl
  | close clock key linger => exact viewStep_onKey (.close clock linger) fun _ => rfl
  | setOption clock key option => exact viewStep_onKey (.setOption option) fun _ => rfl
  | write key data =>
    by_cases hk : k = key
    · subst hk
      exact viewStep_updateHandle e k _ (.write data) (fun _ => rfl) fun _ => rfl
    · change ViewStep e.config k (e.view k) ((e.updateHandle key _).view k)
      rw [view_updateHandle_ne e hk]
      exact .same _
  | read key n =>
    by_cases hk : k = key
    · subst hk
      exact viewStep_updateHandle e k _ (.read n) (fun _ => rfl) fun _ => rfl
    · change ViewStep e.config k (e.view k) ((e.updateHandle key _).view k)
      rw [view_updateHandle_ne e hk]
      exact .same _

theorem config_engineStep (e : TcpEngine) (ev : EngineEvent) : (engineStep e ev).engine.config = e.config := by
  cases ev with
  | segment clock seg srcMac dstMac =>
    cases ht : e.tcbs.get? ⟨seg.dst, seg.src⟩ with
    | some t =>
      change (e.onSegmentWithMacs clock seg srcMac dstMac).engine.config = e.config
      rw [onSegmentWithMacs_of_get? ht, (applyEffect_same e _ _).2.2]
    | none =>
      change (e.onSegmentWithMacs clock seg srcMac dstMac).engine.config = e.config
      rcases onSegmentWithMacs_of_none clock ht srcMac dstMac with ⟨he, -⟩ | ⟨-, -, -, he, -⟩
      · rw [he]
      · rw [he]; rfl
  | tick now clock => exact config_onTick e now clock
  | connect clock key srcMac dstMac rx tx response =>
    change (e.handleConnect clock key.localAddr key.remoteAddr srcMac dstMac (.new rx tx key) response).engine.config = _
    unfold handleConnect
    dsimp only
    split_ifs <;> rfl
  | listen addr backlog response => rfl
  | accept addr response => exact (handleAccept_same e addr response).2.2
  | shutdown clock key how => exact config_onKey e key _
  | close clock key linger => exact config_onKey e key _
  | setOption clock key option => exact config_onKey e key _
  | write key data =>
    change (e.updateHandle key _).config = e.config
    unfold updateHandle
    split
    · rfl
    · split <;> rfl
  | read key n =>
    change (e.updateHandle key _).config = e.config
    unfold updateHandle
    split
    · rfl
    · split <;> rfl

end TcpEngine

/-- The connection of a key is one that a run of its own reaches. -/
def ViewReached (cfg : EngineConfig) (key : FourTuple) (s : Option Outcome) : Prop :=
  ∀ out, s = some out → ∃ o es, o.key = key ∧ (connRun cfg o es).1 = out

theorem ViewReached.step {cfg : EngineConfig} {s s' : Option Outcome} (h : ViewReached cfg key s)
    (hstep : ViewStep cfg key s s') : ViewReached cfg key s' := by
  cases hstep with
  | same => exact h
  | opened _ o hkey =>
    intro out hout
    obtain rfl := Option.some.inj hout
    exact ⟨o, [], hkey, rfl⟩
  | event s ev =>
    intro out hout
    obtain rfl := Option.some.inj hout
    obtain ⟨o, es, hkey, hrun⟩ := h s rfl
    refine ⟨o, es ++ [ev], hkey, ?_⟩
    subst hrun
    simp [connRun, run_append]

/-- **Reachable connections.** Every connection of a reachable engine is reached by a run of its own, under its key. -/
theorem reachable_view (isnGen : IsnGenerator) (cfg : EngineConfig) (evs : List EngineEvent) (key : FourTuple) :
    (engineRun (.new isnGen cfg) evs).config = cfg ∧
      ViewReached cfg key ((engineRun (.new isnGen cfg) evs).view key) := by
  have hrun : ∀ (evs : List EngineEvent) (e : TcpEngine), e.config = cfg → ViewReached cfg key (e.view key) →
      (engineRun e evs).config = cfg ∧ ViewReached cfg key ((engineRun e evs).view key) := by
    intro evs
    induction evs with
    | nil => intro e hcfg h; exact ⟨hcfg, h⟩
    | cons ev evs ih =>
      intro e hcfg h
      have hstep := e.view_engineStep ev key
      rw [hcfg] at hstep
      exact ih _ ((e.config_engineStep ev).trans hcfg) (h.step hstep)
  have hnew : (TcpEngine.new isnGen cfg).view key = none := rfl
  refine hrun evs _ rfl fun out hout => ?_
  rw [hnew] at hout
  cases hout

section reachable
variable {isnGen : IsnGenerator} {cfg : EngineConfig} {evs : List EngineEvent} {key : FourTuple} {t : Tcb}
  (ht : (engineRun (.new isnGen cfg) evs).tcbs.get? key = some t)
include ht

theorem reachable_tcb : ∃ o es, o.key = key ∧ (connRun cfg o es).1 = .live t :=
  (reachable_view isnGen cfg evs key).2 _ ((TcpEngine.view_eq_live_iff _ _ _).2 ht)

/-- The rule for the TCBs of reachable engines. -/
theorem reachable_invariant {P : Tcb → Prop}
    (hcall : ∀ t ev t', P t → (callTcb cfg ev t).outcome = .live t' → P t') (hinit : ∀ o : Opening, P (o.tcb cfg)) :
    P t := by
  obtain ⟨o, es, -, hrun⟩ := reachable_tcb ht
  exact live_invariant (fun t ev t' _ => hcall t ev t') (along_true _ es) (hinit o) hrun

end reachable

/-- An engine that has just been started. -/
def sampleBoot : TcpEngine := .new { hash := fun _ => 100, bootInstant := 0 } {}

/-- An engine in which the sample connection has just been established, with a peer of initial sequence number `irs`. -/
def sampleEngine (irs : BitVec 32) : TcpEngine :=
  engineRun sampleBoot
    [.connect 0 sampleKey (Vector.replicate 6 1) (Vector.replicate 6 2) 65536 65536 0,
      .segment 1 (sampleSynAck irs) (Vector.replicate 6 2) (Vector.replicate 6 1)]

end DpdkStdlib.Tcp
