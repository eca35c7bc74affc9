import DpdkStdlib.Lib.FirstMax
import DpdkStdlib.Lib.PrefixMask
import DpdkStdlib.Udp.Routing

/-!
# Longest-prefix match

* `InSubnet network len addr` : the addresses agree in their first `len` bits;
* `StaysDirect`, `Selects`, `NextHopIs` : what a lookup is to answer, without masks and without a running best match;
* `lookup_eq_iff` : it answers that;
* `lookup_congr_of_filter` : routes of one prefix length have to keep their order, others need not;
* `lookup_setMtu` : a lookup does not depend on the MTU.
-/

namespace DpdkStdlib.Udp
open DpdkStdlib.Lib

variable {config : NetworkConfig} {routes : List RouteEntry}

/-! ## Subnets -/

theorem toNat_ipv4Bits (ip : Ipv4Addr) :
    (ipv4Bits ip).toNat = ip.a.toNat * 2 ^ 24 + ip.b.toNat * 2 ^ 16 + ip.c.toNat * 2 ^ 8 + ip.d.toNat := by
  have ha := ip.a.toNat_lt
  have hb := ip.b.toNat_lt
  have hc := ip.c.toNat_lt
  have hd := ip.d.toNat_lt
  have happ {n : Nat} (x : BitVec n) (y : UInt8) : (x ++ y.toBitVec).toNat = x.toNat * 2 ^ 8 + y.toNat := by
    rw [BitVec.toNat_append, ← Nat.shiftLeft_add_eq_or_of_lt y.toBitVec.isLt, Nat.shiftLeft_eq]
    rfl
  rw [ipv4Bits, happ, happ, happ]
  change ((ip.a.toNat * 2 ^ 8 + ip.b.toNat) * 2 ^ 8 + ip.c.toNat) * 2 ^ 8 + ip.d.toNat = _
  omega

/-- The first `len` bits of the addresses are the same. -/
def InSubnet (network : Ipv4Addr) (len : Nat) (addr : Ipv4Addr) : Prop :=
  (ipv4Bits addr).toNat / 2 ^ (32 - len) = (ipv4Bits network).toNat / 2 ^ (32 - len)

theorem subnetMask_eq {prefixLen : UInt8} (h : prefixLen.toNat ≤ 32) :
    subnetMask prefixLen = prefixMask 32 prefixLen.toNat := by
  have hsub : (32 - prefixLen).toNat = 32 - prefixLen.toNat := UInt8.toNat_sub_of_le _ _ (UInt8.le_iff_toNat_le.2 h)
  rw [subnetMask, hsub]
  split_ifs with h0
  · rw [h0]
    decide
  · have hpos : prefixLen.toNat ≠ 0 := fun hz => h0 (UInt8.toNat_inj.1 hz)
    rw [Nat.mod_eq_of_lt (by omega), prefixMask]

theorem RouteEntry.matches_iff {route : RouteEntry} (h : route.prefixLen.toNat ≤ 32) (addr : Ipv4Addr) :
    route.matches addr ↔ InSubnet route.network route.prefixLen.toNat addr := by
  rw [RouteEntry.matches, beq_iff_eq, RouteEntry.mask, subnetMask_eq h, and_prefixMask_eq_iff]
  rfl

theorem NetworkConfig.isLocal_iff (h : config.prefixLen.toNat ≤ 32) (addr : Ipv4Addr) :
    config.isLocal addr ↔ config.prefixLen ≠ 0 ∧ InSubnet config.localIp config.prefixLen.toNat addr := by
  rw [NetworkConfig.isLocal]
  split_ifs with h0
  · simp [h0]
  · rw [beq_iff_eq, NetworkConfig.localMask, subnetMask_eq h, and_prefixMask_eq_iff, InSubnet, eq_comm]
    simp [h0]

theorem inSubnet_linkLocal (ip : Ipv4Addr) : InSubnet ⟨169, 254, 0, 0⟩ 16 ip ↔ ip.a = 169 ∧ ip.b = 254 := by
  have hc := ip.c.toNat_lt
  have hd := ip.d.toNat_lt
  have hb := ip.b.toNat_lt
  rw [InSubnet, toNat_ipv4Bits, toNat_ipv4Bits, ← UInt8.toNat_inj, ← UInt8.toNat_inj]
  simp only [UInt8.reduceToNat]
  omega

theorem inSubnet_multicast (ip : Ipv4Addr) : InSubnet ⟨224, 0, 0, 0⟩ 4 ip ↔ ip.a ≥ 224 ∧ ip.a ≤ 239 := by
  have hb := ip.b.toNat_lt
  have hc := ip.c.toNat_lt
  have hd := ip.d.toNat_lt
  rw [InSubnet, toNat_ipv4Bits, toNat_ipv4Bits, ge_iff_le, UInt8.le_iff_toNat_le, UInt8.le_iff_toNat_le]
  simp only [UInt8.reduceToNat]
  omega

/-! ## What a lookup is to answer -/

/-- Broadcast, link-local, multicast, or on the subnet of the interface; a prefix of no bits means that there is no
subnet. -/
def StaysDirect (config : NetworkConfig) (dst : Ipv4Addr) : Prop :=
  dst = ⟨255, 255, 255, 255⟩ ∨ InSubnet ⟨169, 254, 0, 0⟩ 16 dst ∨ InSubnet ⟨224, 0, 0, 0⟩ 4 dst ∨
    (config.prefixLen ≠ 0 ∧ InSubnet config.localIp config.prefixLen.toNat dst)

/-- The first of the routes to the destination with the longest prefix. -/
def Selects (routes : List RouteEntry) (dst : Ipv4Addr) (route : RouteEntry) : Prop :=
  ∃ pre post, routes = pre ++ route :: post ∧ InSubnet route.network route.prefixLen.toNat dst ∧
    (∀ r ∈ pre, InSubnet r.network r.prefixLen.toNat dst → r.prefixLen < route.prefixLen) ∧
    ∀ r ∈ post, InSubnet r.network r.prefixLen.toNat dst → r.prefixLen ≤ route.prefixLen

/-- The next hop of a destination, by what the routes say. -/
inductive NextHopIs (config : NetworkConfig) (dst : Ipv4Addr) : NextHop → Prop
  | stays : StaysDirect config dst → NextHopIs config dst (.direct dst)
  | route (route : RouteEntry) : ¬ StaysDirect config dst → Selects config.staticRoutes dst route →
      NextHopIs config dst (.gateway route.gateway)
  | default (gateway : Ipv4Addr) : ¬ StaysDirect config dst →
      (∀ r ∈ config.staticRoutes, ¬ InSubnet r.network r.prefixLen.toNat dst) →
      config.defaultGateway = some gateway → NextHopIs config dst (.gateway gateway)
  | unrouted : ¬ StaysDirect config dst →
      (∀ r ∈ config.staticRoutes, ¬ InSubnet r.network r.prefixLen.toNat dst) →
      config.defaultGateway = none → NextHopIs config dst (.direct dst)

/-! ## The loop over the static routes -/

/-- The loop finds the longest match. -/
theorem foldl_bestMatch (dst : Ipv4Addr) (routes : List RouteEntry) :
    routes.foldl (RoutingTable.bestMatch dst) none =
      ((routes.filter (·.matches dst)).argmax (·.prefixLen.toNat)).map fun r => (r.prefixLen, r.gateway) := by
  have hturn : RoutingTable.bestMatch dst = fun best route =>
      if route.matches dst then better (·.1.toNat) best (route.prefixLen, route.gateway) else best := by
    funext best route
    cases best with
    | none => rfl
    | some b => simp only [RoutingTable.bestMatch, better, UInt8.le_iff_toNat_le]
  rw [hturn]
  change scanMax (·.1.toNat) (·.matches dst) (fun r => (r.prefixLen, r.gateway)) routes = _
  rw [scanMax_eq_argmax]
  rfl

theorem argmax_matches_iff (h : ∀ r ∈ routes, r.prefixLen.toNat ≤ 32) (dst : Ipv4Addr) (route : RouteEntry) :
    (routes.filter (·.matches dst)).argmax (·.prefixLen.toNat) = some route ↔ Selects routes dst route := by
  rw [argmax_filter_eq_some_iff]
  refine exists₂_congr fun pre post => and_congr_right ?_
  rintro rfl
  have hmatch {r : RouteEntry} (hr : r ∈ pre ++ route :: post) := RouteEntry.matches_iff (h r hr) dst
  refine and_congr (hmatch (by simp)) (and_congr (forall₂_congr fun r hr => ?_) (forall₂_congr fun r hr => ?_))
  · rw [hmatch (List.mem_append_left _ hr), UInt8.lt_iff_toNat_lt]
  · rw [hmatch (by simp [hr]), UInt8.le_iff_toNat_le]

theorem argmax_matches_eq_none_iff (h : ∀ r ∈ routes, r.prefixLen.toNat ≤ 32) (dst : Ipv4Addr) :
    (routes.filter (·.matches dst)).argmax (·.prefixLen.toNat) = none ↔
      ∀ r ∈ routes, ¬ InSubnet r.network r.prefixLen.toNat dst := by
  rw [List.argmax_eq_none, List.filter_eq_nil_iff]
  refine forall₂_congr fun r hr => ?_
  rw [RouteEntry.matches_iff (h r hr)]

/-! ## The lookup -/

def routed (config : NetworkConfig) (dst : Ipv4Addr) : NextHop :=
  match (config.staticRoutes.filter (·.matches dst)).argmax (·.prefixLen.toNat) with
  | some route => .gateway route.gateway
  | none => config.defaultGateway.elim (.direct dst) .gateway

theorem not_subnetBroadcast {dst : Ipv4Addr} (h : ¬ config.isLocal dst) :
    ¬ ((config.prefixLen > 0 ∧ config.prefixLen < 32) ∧
      ipv4Bits dst &&& config.localMask = ipv4Bits config.localIp &&& config.localMask ∧
      ipv4Bits dst &&& ~~~config.localMask = ~~~config.localMask) := by
  rintro ⟨⟨hpos, -⟩, heq, -⟩
  apply h
  have h0 : config.prefixLen ≠ 0 := by
    rintro h0
    rw [h0] at hpos
    exact absurd hpos (by decide)
  rw [NetworkConfig.isLocal, if_neg h0, heq]
  exact beq_self_eq_true _

theorem lookup_withConfig (config : NetworkConfig) (dst : Ipv4Addr) :
    (RoutingTable.withConfig config).lookup dst =
      if dst = broadcastIp ∨ (dst.a = 169 ∧ dst.b = 254) ∨ (dst.a ≥ 224 ∧ dst.a ≤ 239) ∨ config.isLocal dst then
        .direct dst
      else routed config dst := by
  rw [RoutingTable.lookup, RoutingTable.withConfig]
  dsimp only
  by_cases hb : dst = broadcastIp
  · rw [if_pos hb, if_pos (.inl hb)]
  by_cases hl : dst.a = 169 ∧ dst.b = 254
  · rw [if_neg hb, if_pos hl, if_pos (.inr (.inl hl))]
  by_cases hm : dst.a ≥ 224 ∧ dst.a ≤ 239
  · rw [if_neg hb, if_neg hl, if_pos hm, if_pos (.inr (.inr (.inl hm)))]
  by_cases hs : config.isLocal dst
  · rw [if_neg hb, if_neg hl, if_neg hm, if_pos hs, if_pos (.inr (.inr (.inr hs)))]
  rw [if_neg hb, if_neg hl, if_neg hm, if_neg hs, if_neg (not_subnetBroadcast hs), foldl_bestMatch,
    if_neg (by tauto), routed]
  cases (config.staticRoutes.filter (·.matches dst)).argmax (·.prefixLen.toNat) with
  | some route => rfl
  | none => cases config.defaultGateway <;> rfl

theorem staysDirect_iff (h : config.prefixLen.toNat ≤ 32) (dst : Ipv4Addr) :
    StaysDirect config dst ↔
      dst = broadcastIp ∨ (dst.a = 169 ∧ dst.b = 254) ∨ (dst.a ≥ 224 ∧ dst.a ≤ 239) ∨ config.isLocal dst := by
  rw [StaysDirect, inSubnet_linkLocal, inSubnet_multicast, NetworkConfig.isLocal_iff h]
  rfl

theorem nextHopIs_lookup (hlen : config.prefixLen.toNat ≤ 32)
    (hroutes : ∀ r ∈ config.staticRoutes, r.prefixLen.toNat ≤ 32) (dst : Ipv4Addr) :
    NextHopIs config dst ((RoutingTable.withConfig config).lookup dst) := by
  rw [lookup_withConfig]
  by_cases hs : StaysDirect config dst
  · rw [if_pos ((staysDirect_iff hlen dst).1 hs)]
    exact .stays hs
  · rw [if_neg fun h => hs ((staysDirect_iff hlen dst).2 h), routed]
    cases hmax : (config.staticRoutes.filter (·.matches dst)).argmax (·.prefixLen.toNat) with
    | some route => exact .route route hs ((argmax_matches_iff hroutes dst route).1 hmax)
    | none =>
      have hno := (argmax_matches_eq_none_iff hroutes dst).1 hmax
      cases hgw : config.defaultGateway with
      | some gateway => exact .default gateway hs hno hgw
      | none => exact .unrouted hs hno hgw

theorem NextHopIs.unique (hroutes : ∀ r ∈ config.staticRoutes, r.prefixLen.toNat ≤ 32) {dst : Ipv4Addr}
    {hop hop' : NextHop} (h : NextHopIs config dst hop) (h' : NextHopIs config dst hop') : hop = hop' := by
  have hsel {route : RouteEntry} (hr : Selects config.staticRoutes dst route)
      (hno : ∀ r ∈ config.staticRoutes, ¬ InSubnet r.network r.prefixLen.toNat dst) : False := by
    obtain ⟨pre, post, hsplit, hin, -⟩ := hr
    exact hno route (by rw [hsplit]; simp) hin
  cases h with
  | stays hs =>
    cases h' with
    | stays => rfl
    | route _ hs' => exact absurd hs hs'
    | default _ hs' => exact absurd hs hs'
    | unrouted hs' => exact absurd hs hs'
  | route route hs hr =>
    cases h' with
    | stays hs' => exact absurd hs' hs
    | route route' _ hr' =>
      have heq := ((argmax_matches_iff hroutes dst route).2 hr).symm.trans ((argmax_matches_iff hroutes dst route').2 hr')
      rw [Option.some_inj.1 heq]
    | default _ _ hno => exact (hsel hr hno).elim
    | unrouted _ hno => exact (hsel hr hno).elim
  | default gateway hs hno hgw =>
    cases h' with
    | stays hs' => exact absurd hs' hs
    | route _ _ hr => exact (hsel hr hno).elim
    | default gateway' _ _ hgw' => rw [Option.some_inj.1 (hgw.symm.trans hgw')]
    | unrouted _ _ hgw' => exact absurd (hgw.symm.trans hgw') (Option.some_ne_none _)
  | unrouted hs hno hgw =>
    cases h' with
    | stays => rfl
    | route _ _ hr => exact (hsel hr hno).elim
    | default _ _ _ hgw' => exact absurd (hgw'.symm.trans hgw) (Option.some_ne_none _)
    | unrouted => rfl

theorem lookup_eq_iff (hlen : config.prefixLen.toNat ≤ 32)
    (hroutes : ∀ r ∈ config.staticRoutes, r.prefixLen.toNat ≤ 32) (dst : Ipv4Addr) (hop : NextHop) :
    (RoutingTable.withConfig config).lookup dst = hop ↔ NextHopIs config dst hop := by
  constructor
  · rintro rfl
    exact nextHopIs_lookup hlen hroutes dst
  · exact (nextHopIs_lookup hlen hroutes dst).unique hroutes

theorem lookup_congr_of_filter (config : NetworkConfig)
    (h : ∀ len, (routes.filter fun r => r.prefixLen = len) = config.staticRoutes.filter fun r => r.prefixLen = len)
    (dst : Ipv4Addr) : (RoutingTable.withConfig { config with staticRoutes := routes }).lookup dst =
      (RoutingTable.withConfig config).lookup dst := by
  have hmax : (routes.filter (·.matches dst)).argmax (·.prefixLen.toNat) =
      (config.staticRoutes.filter (·.matches dst)).argmax (·.prefixLen.toNat) := by
    apply argmax_congr_of_filter
    intro b
    have hkey (l : List RouteEntry) : (l.filter (·.matches dst)).filter (fun r => r.prefixLen.toNat = b) =
        (l.filter fun r => r.prefixLen.toNat = b).filter (·.matches dst) := List.filter_comm _ _ _
    have hlen (l : List RouteEntry) (hb : b < 256) : l.filter (fun r => r.prefixLen.toNat = b) =
        l.filter fun r => r.prefixLen = UInt8.ofNat b := by
      refine List.filter_congr fun r _ => ?_
      rw [decide_eq_decide, ← UInt8.toNat_inj, UInt8.toNat_ofNat_of_lt' hb]
    by_cases hb : b < 256
    · rw [hkey, hkey, hlen _ hb, hlen _ hb, h]
    · have hnone (l : List RouteEntry) : l.filter (fun r => decide (r.prefixLen.toNat = b)) = [] := by
        rw [List.filter_eq_nil_iff]
        intro r _ hr
        have := r.prefixLen.toNat_lt
        rw [decide_eq_true_iff] at hr
        omega
      rw [hnone, hnone]
  rw [lookup_withConfig, lookup_withConfig, routed, routed, hmax]
  rfl

theorem lookup_setMtu (table : RoutingTable) (mtu : UInt16) (dst : Ipv4Addr) :
    (table.setMtu mtu).lookup dst = table.lookup dst := by
  obtain ⟨config⟩ := table
  cases config with
  | some config => rfl
  | none =>
    change (RoutingTable.withConfig { NetworkConfig.new unspecifiedIp 0 with mtu }).lookup dst = _
    rw [lookup_withConfig, RoutingTable.lookup]
    split_ifs <;> rfl

/-- **Longest-prefix match.** A lookup answers what `NextHopIs` says, whatever the order of routes with different prefix
lengths, and whatever the MTU is set to. -/
theorem lookup_longest_prefix (config : NetworkConfig) (hlen : config.prefixLen ≤ 32)
    (hroutes : ∀ r ∈ config.staticRoutes, r.prefixLen ≤ 32) :
    (∀ dst hop, (RoutingTable.withConfig config).lookup dst = hop ↔ NextHopIs config dst hop) ∧
    (∀ routes : List RouteEntry,
      (∀ len, (routes.filter fun r => r.prefixLen = len) = config.staticRoutes.filter fun r => r.prefixLen = len) →
      ∀ dst, (RoutingTable.withConfig { config with staticRoutes := routes }).lookup dst =
        (RoutingTable.withConfig config).lookup dst) ∧
    ∀ (table : RoutingTable) (mtu : UInt16) (dst : Ipv4Addr), (table.setMtu mtu).lookup dst = table.lookup dst := by
  refine ⟨lookup_eq_iff (UInt8.le_iff_toNat_le.1 hlen) fun r hr => UInt8.le_iff_toNat_le.1 (hroutes r hr), ?_,
    lookup_setMtu⟩
  intro routes hfilter
  exact lookup_congr_of_filter config hfilter

def sampleRoutes : NetworkConfig :=
  { localIp := ⟨10, 0, 0, 5⟩, prefixLen := 24, defaultGateway := some ⟨10, 0, 0, 1⟩
    staticRoutes := [⟨⟨10, 9, 0, 0⟩, 16, ⟨10, 0, 0, 2⟩⟩, ⟨⟨10, 9, 1, 0⟩, 24, ⟨10, 0, 0, 3⟩⟩,
      ⟨⟨10, 9, 1, 0⟩, 24, ⟨10, 0, 0, 4⟩⟩] }

theorem lookup_longest_prefix_sample :
    (sampleRoutes.prefixLen ≤ 32 ∧ ∀ r ∈ sampleRoutes.staticRoutes, r.prefixLen ≤ 32) ∧
      NextHopIs sampleRoutes ⟨10, 9, 1, 7⟩ (.gateway ⟨10, 0, 0, 3⟩) ∧
      NextHopIs sampleRoutes ⟨10, 9, 2, 7⟩ (.gateway ⟨10, 0, 0, 2⟩) ∧
      NextHopIs sampleRoutes ⟨8, 8, 8, 8⟩ (.gateway ⟨10, 0, 0, 1⟩) ∧
      NextHopIs sampleRoutes ⟨10, 0, 0, 255⟩ (.direct ⟨10, 0, 0, 255⟩) := by
  obtain ⟨h, -⟩ := lookup_longest_prefix sampleRoutes (by decide) (by decide)
  exact ⟨⟨by decide, by decide⟩, (h _ _).1 (by decide), (h _ _).1 (by decide), (h _ _).1 (by decide),
    (h _ _).1 (by decide)⟩

end DpdkStdlib.Udp
