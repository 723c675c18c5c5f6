import AgenticNetops.Fabricplan.PlanShape
import AgenticNetops.Fabricplan.PlanVlans
import AgenticNetops.Fabricplan.Renderings
import Mathlib.Data.List.Pairwise

set_option autoImplicit false

/- The order of a Network's lists: two orders of them give one plan when the services of
   an attachment name, the routers of a name and the bridge domains of a VLAN are settled. -/
namespace AgenticNetops.Fabricplan

open GoText Kubenet Fallible KeyedAppend

structure Reordered (net other : Network) : Prop where
  attachments : net.attachments.Perm other.attachments
  routers : net.routers.Perm other.routers
  bridgeDomains : net.bridgeDomains.Perm other.bridgeDomains
  vlans : net.vlans.Perm other.vlans
  rest : other = { net with attachments := other.attachments, routers := other.routers, bridgeDomains := other.bridgeDomains, vlans := other.vlans }

-- The same ops, checks and rollback in the same order, node by node.
def SamePlan (plan other : NetworkPlan) : Prop := ∀ n, plan.get? n = other.get? n

-- The router of an attachment, or else its VLAN.
def servedBy (att : NetworkAttachment) : String × Int := if att.vrf ≠ "" then (att.vrf, 0) else ("", att.vlan)

def announcedRT (r : NetworkRouter) : String := firstRT r.routeTargets r.rd

structure SameRouting (r other : NetworkRouter) : Prop where
  l3vni : r.l3vni = other.l3vni
  rd : rtRD r.rd (announcedRT r) = rtRD other.rd (announcedRT other)
  rt : announcedRT r = announcedRT other

structure SameRouter (r other : NetworkRouter) : Prop extends SameRouting r other where
  families : afisFor r.prefixes = afisFor other.prefixes
  gateway : (r.prefixes.take 1).map sviAddr = (other.prefixes.take 1).map sviAddr
  network : announced (r.prefixes.take 1) = announced (other.prefixes.take 1)

def declaredGateways (irb : BridgeDomainIRB) : List String := [irb.gatewayV4, irb.gatewayV6].filter (· ≠ "")

structure SameDomain (bd other : BridgeDomain) : Prop where
  l2vni : bd.l2vni = other.l2vni
  rt : l2RT bd = l2RT other
  irb : (bd.irb.map fun irb => (irb.vrf, declaredGateways irb)) = other.irb.map fun irb => (irb.vrf, declaredGateways irb)

structure OrderSettled (net : Network) : Prop where
  services : ∀ att ∈ net.attachments, ∀ other ∈ net.attachments, att.node = other.node → att.attachment = other.attachment →
    Served att → Served other → servedBy att = servedBy other
  banded : ∀ r ∈ net.routers, r.l3vni ≠ 0 → evpnVNIMin ≤ r.l3vni ∧ r.l3vni ≤ evpnVNIMax
  apart : ∀ r ∈ net.routers, ∀ other ∈ net.routers, r.name ≠ other.name → r.l3vni ≠ 0 → other.l3vni ≠ 0 →
    r.l3vni % l3VLANBandSize ≠ other.l3vni % l3VLANBandSize
  routers : ∀ att ∈ net.attachments, att.vrf ≠ "" → ∀ r ∈ net.routers, ∀ other ∈ net.routers, r.name = att.vrf → other.name = att.vrf →
    SameRouter r other
  domains : ∀ att ∈ net.attachments, Bridged att → ∀ bd ∈ net.bridgeDomains, ∀ other ∈ net.bridgeDomains,
    bd.vlan = att.vlan → other.vlan = att.vlan → SameDomain bd other
  gateways : ∀ att ∈ net.attachments, Bridged att → ∀ bd ∈ net.bridgeDomains, bd.vlan = att.vlan → ∀ irb, bd.irb = some irb →
    ∀ r ∈ net.routers, ∀ other ∈ net.routers, r.name = irb.vrf → other.name = irb.vrf → SameRouting r other

section Held
variable {α : Type} (under : α → Bool) (entries : List α)

theorem held_none_iff : heldLast under entries = none ↔ ∀ entry ∈ entries, under entry ≠ true := by
  rw [heldLast, List.find?_eq_none]
  simp only [List.mem_reverse]

theorem held_reordered (other : List α) (perm : entries.Perm other) (entry : α) (held : heldLast under entries = some entry) :
    ∃ found, heldLast under other = some found ∧ found ∈ entries ∧ under found = true := by
  cases missing : heldLast under other with
  | none =>
      have absent := (held_none_iff under other).mp missing
      obtain ⟨listed, named⟩ := held_last_listed under entries entry held
      exact absurd named (absent entry (perm.mem_iff.mp listed))
  | some found =>
      obtain ⟨listed, named⟩ := held_last_listed under other found missing
      exact ⟨found, rfl, perm.mem_iff.mpr listed, named⟩

theorem held_none_reordered (other : List α) (perm : entries.Perm other) (missing : heldLast under entries = none) :
    heldLast under other = none := by
  rw [held_none_iff] at missing ⊢
  intro entry listed
  exact missing entry (perm.mem_iff.mpr listed)

end Held

section Checks
variable (net : Network)

theorem check_router_names_iff (rs : List NetworkRouter) : checkRouterNames rs = .ok () ↔ ∀ r ∈ rs, r.name ≠ "" := by
  induction rs with
  | nil => simp [checkRouterNames]
  | cons r rest ih => rw [checkRouterNames, guard_ok, ih, List.forall_mem_cons]

theorem check_declared_iff (kind : String) (entries : List (String × Int)) :
    checkDeclaredVLANs kind entries = .ok () ↔ ∀ entry ∈ entries, entry.2 ≤ l3VLANBase := by
  refine ⟨check_declared_vlans kind entries, ?_⟩
  induction entries with
  | nil => exact fun _ => rfl
  | cons entry rest ih =>
      intro low
      have here := low entry List.mem_cons_self
      rw [checkDeclaredVLANs, guard_ok]
      exact ⟨by omega, ih fun other listed => low other (List.mem_cons_of_mem entry listed)⟩

-- The L3VLANs of routers, each derived and none taken before.
-- A router whose L3 VLAN is derived: it is free, or the list is refused.
theorem check_l3_vlans_derived (owners : List (Int × NetworkRouter)) (r : NetworkRouter) (rest : List NetworkRouter) (vlan : Int)
    (some_ : r.l3vni ≠ 0) (derived : l3VLANForVNI r.l3vni = .ok vlan) :
    checkL3VLANs owners (r :: rest) = .ok () ↔ owners.lookup vlan = none ∧ checkL3VLANs ((vlan, r) :: owners) rest = .ok () := by
  rw [checkL3VLANs, if_neg some_, derived]
  cases taken : owners.lookup vlan with
  | some prev =>
      refine iff_of_false (fun done => ?_) (fun free => by cases free.1)
      simp only [bind, Except.bind, taken] at done
      cases done
  | none =>
      simp only [bind, Except.bind, taken, true_and]

theorem check_l3_vlans_iff (owners : List (Int × NetworkRouter)) (rs : List NetworkRouter) :
    checkL3VLANs owners rs = .ok () ↔
      (∀ r ∈ rs, r.l3vni ≠ 0 → ∃ vlan, l3VLANForVNI r.l3vni = .ok vlan ∧ owners.lookup vlan = none) ∧
      rs.Pairwise fun r other => r.l3vni ≠ 0 → other.l3vni ≠ 0 → l3VLANForVNI r.l3vni ≠ l3VLANForVNI other.l3vni := by
  induction rs generalizing owners with
  | nil => simp [checkL3VLANs]
  | cons r rest ih =>
      rw [List.forall_mem_cons, List.pairwise_cons]
      by_cases none_ : r.l3vni = 0
      · rw [checkL3VLANs, if_pos none_, ih]
        simp [none_]
      · cases derived : l3VLANForVNI r.l3vni with
        | error message =>
            rw [checkL3VLANs, if_neg none_, derived]
            refine iff_of_false (fun done => ?_) (fun parts => ?_)
            · cases done
            · obtain ⟨vlan, impossible, _⟩ := parts.1.1 none_
              cases impossible
        | ok vlan =>
            rw [check_l3_vlans_derived owners r rest vlan none_ derived]
            cases taken : owners.lookup vlan with
            | some prev =>
                refine iff_of_false (fun done => ?_) (fun parts => ?_)
                · cases done.1
                · obtain ⟨other, same, free⟩ := parts.1.1 none_
                  cases same
                  rw [taken] at free
                  cases free
            | none =>
                refine Iff.trans ⟨fun both => both.2, fun checked => ⟨rfl, checked⟩⟩ (Iff.trans (ih ((vlan, r) :: owners)) ?_)
                have lookup (other : Int) : ((vlan, r) :: owners).lookup other = none ↔ other ≠ vlan ∧ owners.lookup other = none := by
                  by_cases same : other = vlan
                  · simp [same]
                  · simp [List.lookup_cons, same, beq_eq_false_iff_ne.mpr same]
                simp only [lookup]
                constructor
                · intro parts
                  obtain ⟨later, pairs⟩ := parts
                  refine ⟨⟨fun _ => ⟨vlan, rfl, taken⟩, fun other listed some_ => ?_⟩, fun other listed _ some_ => ?_, pairs⟩
                  · obtain ⟨own, made, _, free⟩ := later other listed some_
                    exact ⟨own, made, free⟩
                  · obtain ⟨own, made, apart, _⟩ := later other listed some_
                    rw [made]
                    exact fun same => apart (Except.ok.inj same).symm
                · intro parts
                  obtain ⟨⟨_, later⟩, heads, pairs⟩ := parts
                  refine ⟨fun other listed some_ => ?_, pairs⟩
                  obtain ⟨own, made, free⟩ := later other listed some_
                  refine ⟨own, made, fun same => ?_, free⟩
                  exact heads other listed none_ some_ (by rw [made, same])

theorem router_names (name : String) (r : NetworkRouter) (named : routerNamed net name = some r) : name ∈ routerNames net := by
  obtain ⟨listed, under⟩ := held_last_listed _ _ r named
  rw [routerNames, sortStrings, List.mem_insertionSort, List.mem_dedup]
  exact List.mem_map.mpr ⟨r, listed, of_decide_eq_true under⟩

-- Two names do not fold onto one L3VLAN.
def NamesApart (name other : String) : Prop :=
  ∀ r, routerNamed net name = some r → ∀ found, routerNamed net other = some found →
    r.l3vni ≠ 0 → found.l3vni ≠ 0 → l3VLANForVNI r.l3vni ≠ l3VLANForVNI found.l3vni

instance : Std.Symm (NamesApart net) where
  symm _ _ apart r named found held some_ also := (apart found held r named also some_).symm

structure PassesChecks : Prop where
  named : ∀ r ∈ net.routers, r.name ≠ ""
  derived : ∀ name r, routerNamed net name = some r → r.l3vni ≠ 0 → ∃ vlan, l3VLANForVNI r.l3vni = .ok vlan
  apart : ∀ name other, name ≠ other → NamesApart net name other
  domains : ∀ bd ∈ net.bridgeDomains, bd.vlan ≤ l3VLANBase
  vlans : ∀ v ∈ net.vlans, v.vlan ≤ l3VLANBase

theorem check_network_iff : checkNetwork net = .ok () ↔ PassesChecks net := by
  have once : (routerNames net).Nodup := (List.perm_insertionSort _ _).nodup_iff.mpr (List.nodup_dedup _)
  have l3 := check_l3_vlans_iff [] ((routerNames net).filterMap (routerNamed net))
  rw [List.pairwise_filterMap] at l3
  change _ ↔ _ ∧ (routerNames net).Pairwise (NamesApart net) at l3
  have names := check_router_names_iff net.routers
  have domains := check_declared_iff "bridgeDomain" (net.bridgeDomains.map fun bd => (bd.name, bd.vlan))
  have vlans := check_declared_iff "vlan" (net.vlans.map fun v => (v.name, v.vlan))
  rw [List.forall_mem_map] at domains vlans
  rw [checkNetwork]
  constructor
  · intro passed
    obtain ⟨_, first, passed⟩ := bind_ok _ _ _ passed
    obtain ⟨_, second, passed⟩ := bind_ok _ _ _ passed
    obtain ⟨_, third, passed⟩ := bind_ok _ _ _ passed
    obtain ⟨each, pairs⟩ := l3.mp second
    refine ⟨names.mp first, fun name r named some_ => ?_, fun name other differ r named found held => ?_, domains.mp third, vlans.mp passed⟩
    · obtain ⟨vlan, made, _⟩ := each r (List.mem_filterMap.mpr ⟨name, router_names net name r named, named⟩) some_
      exact ⟨vlan, made⟩
    · exact pairs.forall (router_names net name r named) (router_names net other found held) differ r named found held
  · intro passes
    have second := l3.mpr ⟨fun r listed some_ => ?_, once.pairwise_of_forall_ne fun name _ other _ => passes.apart name other⟩
    · rw [names.mpr passes.named]
      change (checkL3VLANs [] _ >>= _) = _
      rw [second]
      change (checkDeclaredVLANs _ _ >>= _) = _
      rw [domains.mpr passes.domains]
      exact vlans.mpr passes.vlans
    · obtain ⟨name, _, named⟩ := List.mem_filterMap.mp listed
      obtain ⟨vlan, made⟩ := passes.derived name r named some_
      exact ⟨vlan, made, rfl⟩

variable (other : Network)

-- Settled lists pass the checks in any order in which they are given.
theorem checks_reordered (settled : OrderSettled net) (order : Reordered net other) (passes : PassesChecks net) : PassesChecks other := by
  have listed (name : String) (r : NetworkRouter) (named : routerNamed other name = some r) : r ∈ net.routers ∧ r.name = name := by
    obtain ⟨inside, under⟩ := held_last_listed _ _ r named
    exact ⟨order.routers.mem_iff.mpr inside, of_decide_eq_true under⟩
  refine ⟨fun r inside => passes.named r (order.routers.mem_iff.mpr inside), fun name r named some_ => ?_,
    fun name name' differ r named found held some_ also => ?_, fun bd inside => passes.domains bd (order.bridgeDomains.mem_iff.mpr inside),
    fun v inside => passes.vlans v (order.vlans.mem_iff.mpr inside)⟩
  · obtain ⟨low, high⟩ := settled.banded r (listed name r named).1 some_
    exact ⟨_, l3_vlan_for_vni r.l3vni low high⟩
  · obtain ⟨inside, own⟩ := listed name r named
    obtain ⟨beside, their⟩ := listed name' found held
    obtain ⟨low, high⟩ := settled.banded r inside some_
    obtain ⟨low', high'⟩ := settled.banded found beside also
    rw [Ne, l3_vlan_same_iff r.l3vni found.l3vni low high low' high']
    exact settled.apart r inside found beside (by rw [own, their]; exact differ) some_ also

end Checks

section Views

theorem context_same_routing (r other : NetworkRouter) (c : L3Context) (names : r.name = other.name) (same : SameRouting r other)
    (context : l3ContextFor r = .ok c) : l3ContextFor other = .ok c := by
  have views : l3ContextFor other = l3ContextFor r := by
    have rd := same.rd
    have rt := same.rt
    rw [announcedRT, announcedRT] at rd rt
    rw [rt] at rd
    rw [l3ContextFor, l3ContextFor, names, same.l3vni, rt]
    simp only [rd]
  rw [views]
  exact context

theorem announced_kept (prefixes : List String) : announced (prefixes.filter (· ≠ "")) = announced prefixes := by
  rw [announced, announced, List.filter_filter]
  simp

theorem families_kept (prefixes : List String) (seen : Families) :
    prefixFamilies seen (prefixes.filter (· ≠ "")) = prefixFamilies seen prefixes := by
  induction prefixes generalizing seen with
  | nil => rfl
  | cons pfx rest ih =>
      by_cases skipped : pfx = ""
      · rw [List.filter_cons_of_neg (by simpa using skipped), ih, prefixFamilies, if_pos skipped]
      · rw [List.filter_cons_of_pos (by simpa using skipped), prefixFamilies, prefixFamilies, if_neg skipped, if_neg skipped]
        simp only [ih]

theorem gateway_views (irb other : BridgeDomainIRB) (same : declaredGateways irb = declaredGateways other) :
    afisFor [irb.gatewayV4, irb.gatewayV6] = afisFor [other.gatewayV4, other.gatewayV6] ∧
    announced [irb.gatewayV4, irb.gatewayV6] = announced [other.gatewayV4, other.gatewayV6] := by
  rw [declaredGateways, declaredGateways] at same
  constructor
  · rw [afisFor, afisFor, ← families_kept [irb.gatewayV4, irb.gatewayV6], same, families_kept]
  · rw [← announced_kept [irb.gatewayV4, irb.gatewayV6], same, announced_kept]

variable (opts : Options) (port : String)

theorem bridged_part_same (bd other : BridgeDomain) (vlan : bd.vlan = other.vlan) (same : SameDomain bd other) :
    bridgedPart opts port bd = bridgedPart opts port other := by
  simp only [bridgedPart, l2Overlay, l2EVPNOp, l2Checks, l2Rollback, vlan, same.l2vni, same.rt]

theorem irb_part_same (bd other : BridgeDomain) (vlan : bd.vlan = other.vlan) (same : SameDomain bd other) (c : L3Context)
    (afis gateways others needles : List String) (kept : gateways.filter (· ≠ "") = others.filter (· ≠ "")) :
    irbPart opts port bd c afis gateways needles = irbPart opts port other c afis others needles := by
  simp only [irbPart, l2Overlay, l2EVPNOp, l2Checks, l2Rollback, sviShell, vlan, same.l2vni, same.rt, kept]

end Views

section Attachments
variable (net other : Network) (att : NetworkAttachment)

theorem renders_reordered (settled : OrderSettled net) (order : Reordered net other) (listed : att ∈ net.attachments)
    (rendering : Rendering) (renders : RendersAs net att rendering) :
    ∃ later, RendersAs other att later ∧ ∀ opts port, later.part opts port = rendering.part opts port := by
  have routers (name : String) (r : NetworkRouter) (named : routerNamed net name = some r) :
      r ∈ net.routers ∧ r.name = name ∧ ∃ found, routerNamed other name = some found ∧ found ∈ net.routers ∧ found.name = name := by
    obtain ⟨inside, under⟩ := held_last_listed _ _ r named
    obtain ⟨found, held, beside, also⟩ := held_reordered _ _ _ order.routers r named
    exact ⟨inside, of_decide_eq_true under, found, held, beside, of_decide_eq_true also⟩
  have domains (vlan : Int) (bd : BridgeDomain) (on : domainOn net vlan = some bd) :
      bd ∈ net.bridgeDomains ∧ bd.vlan = vlan ∧ ∃ found, domainOn other vlan = some found ∧ found ∈ net.bridgeDomains ∧ found.vlan = vlan := by
    obtain ⟨inside, under⟩ := held_last_listed _ _ bd on
    obtain ⟨found, held, beside, also⟩ := held_reordered _ _ _ order.bridgeDomains bd on
    exact ⟨inside, of_decide_eq_true under, found, held, beside, of_decide_eq_true also⟩
  cases renders with
  | routed r _ asked named reading =>
      obtain ⟨inside, own, found, held, beside, their⟩ := routers att.vrf r named
      have same := settled.routers att listed asked r inside found beside own their
      cases reading with
      | read c afis needles context families type5 =>
          have context' := context_same_routing r found c (own.trans their.symm) same.toSameRouting context
          rw [same.families] at families
          rw [same.network] at type5
          have reading' := RoutedBy.read c afis needles context' families type5
          refine ⟨_, .routed found _ asked held reading', fun opts port => ?_⟩
          rw [same.gateway]
  | bridged bd _ unrouted asked on plain reading =>
      obtain ⟨inside, own, found, held, beside, their⟩ := domains att.vlan bd on
      have same := settled.domains att listed ⟨unrouted, asked⟩ bd inside found beside own their
      cases reading with
      | read numbered =>
          have plain' : found.irb = none := by
            have irb := same.irb
            rw [plain] at irb
            exact Option.map_eq_none_iff.mp irb.symm
          rw [same.l2vni] at numbered
          refine ⟨_, .bridged found _ unrouted asked held plain' (.read numbered), fun opts port => ?_⟩
          exact (bridged_part_same opts port bd found (own.trans their.symm) same).symm
  | gateway bd irb r _ unrouted asked on shared named reading =>
      obtain ⟨inside, own, found, held, beside, their⟩ := domains att.vlan bd on
      have same := settled.domains att listed ⟨unrouted, asked⟩ bd inside found beside own their
      obtain ⟨irb', shared', views⟩ : ∃ irb', found.irb = some irb' ∧ (irb'.vrf, declaredGateways irb') = (irb.vrf, declaredGateways irb) := by
        have irbs := same.irb
        rw [shared] at irbs
        exact Option.map_eq_some_iff.mp irbs.symm
      obtain ⟨vrf, gateways⟩ := Prod.mk.inj views
      obtain ⟨routerInside, name, router, routerHeld, routerBeside, name'⟩ := routers irb.vrf r named
      have routing := settled.gateways att listed ⟨unrouted, asked⟩ bd inside own irb shared r routerInside router routerBeside name name'
      cases reading with
      | read c afis needles numbered context families type5 =>
          obtain ⟨afisSame, needlesSame⟩ := gateway_views irb' irb gateways
          have context' := context_same_routing r router c (name.trans name'.symm) routing context
          rw [same.l2vni] at numbered
          rw [← afisSame] at families
          rw [← needlesSame] at type5
          rw [← vrf] at routerHeld
          refine ⟨_, .gateway found irb' router _ unrouted asked held shared' routerHeld (.read c afis needles numbered context' families type5),
            fun opts port => ?_⟩
          exact (irb_part_same opts port bd found (own.trans their.symm) same c afis _ _ needles gateways.symm).symm
  | isolated v unrouted asked unshared on =>
      obtain ⟨_, under⟩ := held_last_listed _ _ v on
      obtain ⟨found, held, _, also⟩ := held_reordered _ _ _ order.vlans v on
      have vlan : found.vlan = v.vlan := (of_decide_eq_true also).trans (of_decide_eq_true under).symm
      have unshared' : domainOn other att.vlan = none := held_none_reordered _ _ _ order.bridgeDomains unshared
      exact ⟨_, .isolated found unrouted asked unshared' held, fun opts port => by rw [vlan]⟩

variable (opts : Options)

theorem rendered_reordered (settled : OrderSettled net) (order : Reordered net other) (listed : att ∈ net.attachments)
    (rendered : (renderAttachment net opts att).isOk = true) : renderAttachment other opts att = renderAttachment net opts att := by
  obtain ⟨part, made⟩ := is_ok_value _ rendered
  rw [made]
  by_cases served : Served att
  · obtain ⟨rendering, port, renders, attached, whole⟩ := (render_attachment_iff net opts att served part).mp made
    obtain ⟨later, renders', same⟩ := renders_reordered net other att settled order listed rendering renders
    exact (render_attachment_iff other opts att served part).mpr ⟨later, port, renders', attached, by rw [same, whole]⟩
  · have accessLists : other.accessLists = net.accessLists := by rw [order.rest]
    rw [unserved_iff other opts att served part, accessLists]
    exact (unserved_iff net opts att served part).mp made

-- Attachments of one name and one service render alike.
theorem same_service_part (beside : NetworkAttachment) (node : att.node = beside.node) (name : att.attachment = beside.attachment)
    (service : servedBy att = servedBy beside) : renderAttachment net opts att = renderAttachment net opts beside := by
  have port : opts.attachedPort att = opts.attachedPort beside := by
    rw [Options.attachedPort, Options.attachedPort, node, name]
  have l3 (r : NetworkRouter) : renderL3 r att opts = renderL3 r beside opts := by rw [renderL3, renderL3, port]
  have l2 (bd : BridgeDomain) : renderL2 bd att opts = renderL2 bd beside opts := by rw [renderL2, renderL2, port]
  have irb (bd : BridgeDomain) (irb : BridgeDomainIRB) (r : NetworkRouter) : renderIRB bd irb r att opts = renderIRB bd irb r beside opts := by
    rw [renderIRB, renderIRB, port]
  have vlan (v : NetworkVLAN) : renderVLAN v att opts = renderVLAN v beside opts := by rw [renderVLAN, renderVLAN, port]
  have services : att.vrf = beside.vrf ∧ (att.vrf = "" → att.vlan = beside.vlan) := by
    rw [servedBy, servedBy] at service
    by_cases one : att.vrf = "" <;> by_cases two : beside.vrf = "" <;> simp_all
  rw [renderAttachment, renderAttachment, ← services.1]
  by_cases routed : att.vrf ≠ ""
  · rw [if_pos routed, if_pos routed, node, name]
    simp only [l3]
  · rw [if_neg routed, if_neg routed, ← services.2 (not_not.mp routed), node, name]
    simp only [l2, irb, vlan]

end Attachments

section Nodes
variable (net other : Network) (opts : Options) (n : String)

instance : Std.Total attachmentBefore where
  total a b := by
    rw [attachmentBefore, attachmentBefore]
    cases lt_trichotomy a.node b.node with
    | inl below => exact Or.inl (Or.inl below)
    | inr rest =>
        cases rest with
        | inl same =>
            cases le_total a.attachment b.attachment with
            | inl up => exact Or.inl (Or.inr ⟨same, up⟩)
            | inr down => exact Or.inr (Or.inr ⟨same.symm, down⟩)
        | inr above => exact Or.inr (Or.inl above)

instance : IsTrans NetworkAttachment attachmentBefore where
  trans a b c first second := by
    rw [attachmentBefore] at *
    cases first with
    | inl below =>
        cases second with
        | inl further => exact Or.inl (lt_trans below further)
        | inr level => exact Or.inl (by rw [← level.1]; exact below)
    | inr level =>
        cases second with
        | inl further => exact Or.inl (by rw [level.1]; exact further)
        | inr flat => exact Or.inr ⟨level.1.trans flat.1, le_trans level.2 flat.2⟩

theorem on_node_sorted : (onNode net n).Pairwise fun a b => a.attachment ≤ b.attachment := by
  have sorted : (onNode net n).Pairwise attachmentBefore :=
    List.Pairwise.sublist List.filter_sublist (List.pairwise_insertionSort attachmentBefore net.attachments)
  refine sorted.imp_of_mem ?_
  intro a b inside beside before
  have here : a.node = n := of_decide_eq_true (List.mem_filter.mp inside).2
  have there : b.node = n := of_decide_eq_true (List.mem_filter.mp beside).2
  cases before with
  | inl below =>
      rw [here, there] at below
      exact absurd below (lt_irrefl n)
  | inr level => exact level.2

theorem on_node_listed (att : NetworkAttachment) (inside : att ∈ onNode net n) : att ∈ net.attachments ∧ att.node = n := by
  obtain ⟨sorted, node⟩ := List.mem_filter.mp inside
  exact ⟨(mem_sorted net att).mp sorted, of_decide_eq_true node⟩

theorem on_node_reordered (order : Reordered net other) : (onNode net n).Perm (onNode other n) :=
  List.Perm.filter _ (((List.perm_insertionSort _ _).trans order.attachments).trans (List.perm_insertionSort _ _).symm)

-- Attachments that nothing serves add nothing.
theorem served_parts (atts : List NetworkAttachment) (np : NetworkNodePlan) (rendered : ∀ att ∈ atts, (renderAttachment net opts att).isOk = true) :
    (atts.map (attachmentPart net opts)).foldl NodePlan.add np =
      ((atts.filter fun att => Served att).map (attachmentPart net opts)).foldl NodePlan.add np := by
  induction atts generalizing np with
  | nil => rfl
  | cons att rest ih =>
      have later := fun np => ih np fun other listed => rendered other (List.mem_cons_of_mem att listed)
      by_cases served : Served att
      · rw [List.filter_cons_of_pos (by simpa using served), List.map_cons, List.map_cons, List.foldl_cons, List.foldl_cons, later]
      · obtain ⟨part, made_⟩ := is_ok_value _ (rendered att List.mem_cons_self)
        have empty : attachmentPart net opts att = {} := by
          rw [attachmentPart, made_ok _ part made_, ((unserved_iff net opts att served part).mp made_).2]
        have kept : np.add {} = np := by simp [NodePlan.add]
        rw [List.filter_cons_of_neg (by simpa using served), List.map_cons, List.foldl_cons, empty, kept, later]

theorem parts_reordered (settled : OrderSettled net) (order : Reordered net other) (accepts : Accepts net opts) (np : NetworkNodePlan) :
    ((onNode net n).map (attachmentPart net opts)).foldl NodePlan.add np =
      ((onNode other n).map (attachmentPart other opts)).foldl NodePlan.add np := by
  have rendered : ∀ att ∈ onNode net n, (renderAttachment net opts att).isOk = true := fun att inside =>
    accepts.rendered att (on_node_listed net n att inside).1
  have perm := on_node_reordered net other n order
  have alike : ∀ att ∈ onNode net n, renderAttachment other opts att = renderAttachment net opts att := fun att inside =>
    rendered_reordered net other att opts settled order (on_node_listed net n att inside).1 (rendered att inside)
  have rendered' : ∀ att ∈ onNode other n, (renderAttachment other opts att).isOk = true := by
    intro att inside
    have here := perm.mem_iff.mpr inside
    rw [alike att here]
    exact rendered att here
  have parts : (onNode other n).map (attachmentPart other opts) = (onNode other n).map (attachmentPart net opts) := by
    refine List.map_congr_left fun att inside => ?_
    rw [attachmentPart, attachmentPart, alike att (perm.mem_iff.mpr inside)]
  have rendered'' : ∀ att ∈ onNode other n, (renderAttachment net opts att).isOk = true := fun att inside =>
    rendered att (perm.mem_iff.mpr inside)
  rw [parts, served_parts net opts _ np rendered, served_parts net opts _ np rendered'']
  refine congrArg (List.foldl NodePlan.add np) ?_
  refine keyed_values_same NetworkAttachment.attachment (attachmentPart net opts) _ _ (perm.filter _)
    (List.Pairwise.sublist List.filter_sublist (on_node_sorted net n)) (List.Pairwise.sublist List.filter_sublist (on_node_sorted other n)) ?_
  intro att first beside second name
  obtain ⟨inside, served⟩ := List.mem_filter.mp first
  obtain ⟨inside', served'⟩ := List.mem_filter.mp second
  obtain ⟨listed, node⟩ := on_node_listed net n att inside
  obtain ⟨listed', node'⟩ := on_node_listed net n beside inside'
  have nodes := node.trans node'.symm
  rw [attachmentPart, attachmentPart, same_service_part net att opts beside nodes name
    (settled.services att listed beside listed' nodes name (of_decide_eq_true served) (of_decide_eq_true served'))]

theorem ports_reordered (order : Reordered net other) : portsOn (portsInOrder net opts) n = portsOn (portsInOrder other opts) n := by
  have sorted : (sortedAttachments net).Perm (sortedAttachments other) :=
    ((List.perm_insertionSort _ _).trans order.attachments).trans (List.perm_insertionSort _ _).symm
  rw [portsOn, portsOn, dedupStrings, dedupStrings]
  exact sort_strings_same _ _ (((sorted.map _).filter _).map _).dedup

theorem acl_reordered (order : Reordered net other) (al : AccessList) :
    aclResult net opts (portsInOrder net opts) al n = aclResult other opts (portsInOrder other opts) al n := by
  have name : other.name = net.name := by rw [order.rest]
  have inNamespace : other.inNamespace = net.inNamespace := by rw [order.rest]
  rw [aclResult, aclResult, ports_reordered net other opts n order, name, inNamespace]

theorem accepts_reordered (settled : OrderSettled net) (order : Reordered net other) (accepts : Accepts net opts) : Accepts other opts := by
  have accessLists : other.accessLists = net.accessLists := by rw [order.rest]
  have listed (att : NetworkAttachment) : att ∈ other.attachments ↔ att ∈ net.attachments := order.attachments.mem_iff.symm
  have passes := checks_reordered net other settled order ((check_network_iff net).mp accepts.checked)
  refine ⟨(check_network_iff other).mpr passes, ?_, fun att inside => ?_, fun some_ att inside => ?_, fun al within att inside => ?_⟩
  · intro none
    have lists := order.attachments
    rw [none] at lists
    exact accepts.present (List.Perm.eq_nil lists)
  · have here := (listed att).mp inside
    rw [rendered_reordered net other att opts settled order here (accepts.rendered att here)]
    exact accepts.rendered att here
  · rw [accessLists] at some_
    exact accepts.resolved some_ att ((listed att).mp inside)
  · rw [accessLists] at within
    rw [← acl_reordered net other opts att.node order]
    exact accepts.filtered al within att ((listed att).mp inside)

theorem plan_reordered (settled : OrderSettled net) (order : Reordered net other) (accepts : Accepts net opts) :
    SamePlan (fillPlan [] (planEntries net opts)) (fillPlan [] (planEntries other opts)) := by
  intro n
  have accessLists : other.accessLists = net.accessLists := by rw [order.rest]
  have lists : aclParts net opts n = aclParts other opts n := by
    rw [aclParts, aclParts, accessLists]
    simp only [acl_reordered net other opts n order]
  have absent : onNode net n = [] ↔ onNode other n = [] := by
    have perm := on_node_reordered net other n order
    exact ⟨fun none => by rw [none] at perm; exact List.Perm.nil_eq perm |>.symm, fun none => by rw [none] at perm; exact List.Perm.eq_nil perm⟩
  rw [plan_get, plan_get, nodeParts, nodeParts, List.foldl_append, List.foldl_append, lists]
  simp only [absent, parts_reordered net other opts n settled order accepts]

end Nodes

end AgenticNetops.Fabricplan
