import AgenticNetops.Fabricplan.PlanOrderNeeded

set_option autoImplicit false

/- The choice among routers of one name or bridge domains of one VLAN: the last of the list
   is taken, so where the plan does not show which one stands last, they read the same. -/
namespace AgenticNetops.Fabricplan

open GoText Kubenet Fallible KeyedAppend

section Inversions
variable (net : Network) (att : NetworkAttachment) (rendering : Rendering) (renders : RendersAs net att rendering)
include renders

theorem renders_routed (asked : att.vrf ≠ "") : ∃ r, routerNamed net att.vrf = some r ∧ RoutedBy r rendering := by
  cases renders with
  | routed r _ _ named reading => exact ⟨r, named, reading⟩
  | bridged | gateway | isolated => contradiction

theorem renders_on_domain (bridged : Bridged att) (bd : BridgeDomain) (on : domainOn net att.vlan = some bd) :
    (bd.irb = none ∧ BridgedBy bd rendering) ∨
    ∃ irb r, bd.irb = some irb ∧ routerNamed net irb.vrf = some r ∧ GatewayBy bd irb r rendering := by
  cases renders with
  | routed r _ asked => exact absurd bridged.1 asked
  | bridged other _ _ _ held plain reading =>
      rw [on] at held
      cases held
      exact Or.inl ⟨plain, reading⟩
  | gateway other irb r _ _ _ held shared named reading =>
      rw [on] at held
      cases held
      exact Or.inr ⟨irb, r, shared, named, reading⟩
  | isolated v _ _ unshared =>
      rw [on] at unshared
      cases unshared

theorem renders_alone (bridged : Bridged att) (on : domainOn net att.vlan = none) : ∃ vlan, rendering = .isolated vlan := by
  cases renders with
  | routed r _ asked => exact absurd bridged.1 asked
  | isolated v => exact ⟨v.vlan, rfl⟩
  | bridged other _ _ _ held | gateway other _ _ _ _ _ held =>
      rw [on] at held
      cases held

end Inversions

section Lengths
variable (opts : Options) (port : String) (rendering : Rendering)

-- The checks of a routed attachment that depend on its router's first prefix.
def prefixChecks (r : NetworkRouter) : Nat := (r.prefixes.take 1).length + (announced (r.prefixes.take 1)).length

theorem routed_lengths (r : NetworkRouter) (reading : RoutedBy r rendering) :
    (rendering.part opts port).ops.length = (vtepBaselineForKind opts).length + 6 ∧
    (rendering.part opts port).checks.length = 7 + prefixChecks r := by
  cases reading with
  | read c afis needles context families type5 =>
      rw [prefixChecks, type5]
      simp [Rendering.part, routedPart, L3Context.frrOps, L3Context.l3Checks]
      omega

def routeChecks (bd : BridgeDomain) : Nat := if l2RT bd = "" then 0 else 1

theorem l2_checks_length (bd : BridgeDomain) (vlanName : String) : (l2Checks bd vlanName port opts).length = 8 + routeChecks bd := by
  rw [l2Checks, routeChecks]
  split <;> simp

theorem bridged_lengths (bd : BridgeDomain) (reading : BridgedBy bd rendering) :
    (rendering.part opts port).ops.length = (vtepBaselineForKind opts).length + 2 + (l2EVPNOp bd opts).length ∧
    (rendering.part opts port).checks.length = 8 + routeChecks bd := by
  cases reading with
  | read numbered =>
      refine ⟨?_, l2_checks_length opts port bd _⟩
      simp only [Rendering.part, bridgedPart, List.length_append, List.length_cons, List.length_nil]

theorem gateway_lengths (bd : BridgeDomain) (irb : BridgeDomainIRB) (r : NetworkRouter) (reading : GatewayBy bd irb r rendering) :
    (rendering.part opts port).ops.length = (vtepBaselineForKind opts).length + 6 + (l2EVPNOp bd opts).length ∧
    (rendering.part opts port).checks.length =
      15 + routeChecks bd + (declaredGateways irb).length + (announced [irb.gatewayV4, irb.gatewayV6]).length := by
  cases reading with
  | read c afis needles numbered context families type5 =>
      rw [type5]
      simp only [Rendering.part, irbPart, L3Context.frrOps, L3Context.l3Checks, List.length_append, List.length_cons, List.length_nil,
        List.length_map, l2_checks_length, declaredGateways]
      omega

/- What a bridge domain is rendered to has as many ops and checks on every attachment, and
   whichever router holds its gateway. -/
theorem domain_lengths (bd : BridgeDomain) : ∃ ops checks, ∀ net att rendering port, RendersAs net att rendering → Bridged att →
    domainOn net att.vlan = some bd → (rendering.part opts port).ops.length = ops ∧ (rendering.part opts port).checks.length = checks := by
  cases shared : bd.irb with
  | none =>
      refine ⟨(vtepBaselineForKind opts).length + 2 + (l2EVPNOp bd opts).length, 8 + routeChecks bd,
        fun net att rendering port renders bridged on => ?_⟩
      cases renders_on_domain net att rendering renders bridged bd on with
      | inl plain => exact bridged_lengths opts port rendering bd plain.2
      | inr routed =>
          obtain ⟨irb, _, with_, _⟩ := routed
          rw [shared] at with_
          cases with_
  | some irb =>
      refine ⟨(vtepBaselineForKind opts).length + 6 + (l2EVPNOp bd opts).length,
        15 + routeChecks bd + (declaredGateways irb).length + (announced [irb.gatewayV4, irb.gatewayV6]).length,
        fun net att rendering port renders bridged on => ?_⟩
      cases renders_on_domain net att rendering renders bridged bd on with
      | inl plain =>
          rw [shared] at plain
          cases plain.1
      | inr routed =>
          obtain ⟨other, r, with_, _, reading⟩ := routed
          rw [shared] at with_
          cases with_
          exact gateway_lengths opts port rendering bd irb r reading

theorem lengths_agree (one two : Network) (att : NetworkAttachment) (served : Served att) (other : Rendering) (renders : RendersAs one att rendering)
    (renders' : RendersAs two att other) (routers : att.vrf ≠ "" → routerNamed one att.vrf = routerNamed two att.vrf)
    (domains : Bridged att → domainOn one att.vlan = domainOn two att.vlan) :
    (rendering.part opts port).ops.length = (other.part opts port).ops.length ∧
    (rendering.part opts port).checks.length = (other.part opts port).checks.length := by
  by_cases asked : att.vrf ≠ ""
  · obtain ⟨r, named, reading⟩ := renders_routed one att rendering renders asked
    obtain ⟨found, held, reading'⟩ := renders_routed two att other renders' asked
    rw [routers asked, held] at named
    cases named
    obtain ⟨ops, checks⟩ := routed_lengths opts port rendering r reading
    obtain ⟨ops', checks'⟩ := routed_lengths opts port other r reading'
    exact ⟨ops.trans ops'.symm, checks.trans checks'.symm⟩
  · have bridged : Bridged att := ⟨not_not.mp asked, served.resolve_left asked⟩
    have same := domains bridged
    cases on : domainOn two att.vlan with
    | none =>
        obtain ⟨vlan, rfl⟩ := renders_alone one att rendering renders bridged (same.trans on)
        obtain ⟨vlan', rfl⟩ := renders_alone two att other renders' bridged on
        exact ⟨rfl, rfl⟩
    | some bd =>
        obtain ⟨ops, checks, lengths⟩ := domain_lengths opts bd
        have here := lengths one att rendering port renders bridged (same.trans on)
        have there := lengths two att other port renders' bridged on
        exact ⟨here.1.trans there.1.symm, here.2.trans there.2.symm⟩

end Lengths

section Choices
variable (one two : Network) (opts : Options)

-- Two networks with the same attachments and access lists.
structure Alongside : Prop where
  attachments : two.attachments = one.attachments
  accessLists : two.accessLists = one.accessLists
  name : two.name = one.name
  inNamespace : two.inNamespace = one.inNamespace

theorem alongside_parts (beside : Alongside one two) (n : String) :
    onNode two n = onNode one n ∧ aclParts two opts n = aclParts one opts n := by
  have sorted : sortedAttachments two = sortedAttachments one := by rw [sortedAttachments, sortedAttachments, beside.attachments]
  refine ⟨by rw [onNode, onNode, sorted], ?_⟩
  rw [aclParts, aclParts, beside.accessLists]
  refine List.map_congr_left fun al _ => ?_
  rw [aclResult, aclResult, portsInOrder, portsInOrder, sorted, beside.name, beside.inNamespace]

/- One plan for both, where a part of the one is longer on all the attachments that a
   choice touches, or on none: then the choice shows on no attachment. -/
theorem choice_same {γ : Type} (field : Part → List γ) (beside : Alongside one two)
    (whole : ∀ n, onNode one n ≠ [] → (nodeParts one opts n).flatMap field = (nodeParts two opts n).flatMap field)
    (touched : NetworkAttachment → Prop) (here there : Nat)
    (lengths : ∀ att ∈ one.attachments, touched att →
      (field (attachmentPart one opts att)).length = here ∧ (field (attachmentPart two opts att)).length = there)
    (rest : ∀ att ∈ one.attachments, ¬ touched att →
      (field (attachmentPart one opts att)).length = (field (attachmentPart two opts att)).length) :
    ∀ att ∈ one.attachments, field (attachmentPart one opts att) = field (attachmentPart two opts att) := by
  intro att listed
  have inside : att ∈ onNode one att.node := List.mem_filter.mpr ⟨(mem_sorted one att).mpr listed, decide_eq_true rfl⟩
  have same := whole att.node (List.ne_nil_of_mem inside)
  obtain ⟨nodes, lists⟩ := alongside_parts one two opts beside att.node
  rw [nodeParts, nodeParts, nodes, lists, List.flatMap_append, List.flatMap_append, List.append_cancel_right_eq, List.flatMap_map,
    List.flatMap_map] at same
  cases le_total here there with
  | inl up =>
      refine segments_same _ _ _ (fun other within => ?_) same att inside
      have known := (on_node_listed one att.node other within).1
      by_cases hit : touched other
      · rw [(lengths other known hit).1, (lengths other known hit).2]
        exact up
      · exact le_of_eq (rest other known hit)
  | inr down =>
      refine (segments_same _ _ _ (fun other within => ?_) same.symm att inside).symm
      have known := (on_node_listed one att.node other within).1
      by_cases hit : touched other
      · rw [(lengths other known hit).1, (lengths other known hit).2]
        exact down
      · exact le_of_eq (rest other known hit).symm

theorem served_part (net : Network) (accepts : Accepts net opts) (att : NetworkAttachment) (listed : att ∈ net.attachments) (served : Served att) :
    ∃ rendering port, RendersAs net att rendering ∧ opts.attachedPort att = .ok port ∧ attachmentPart net opts att = rendering.part opts port := by
  obtain ⟨part, made_⟩ := is_ok_value _ (accepts.rendered att listed)
  obtain ⟨rendering, port, renders, attached, whole⟩ := (render_attachment_iff net opts att served part).mp made_
  exact ⟨rendering, port, renders, attached, by rw [attachmentPart, made_ok _ part made_, whole]⟩

theorem unserved_part (net : Network) (accepts : Accepts net opts) (att : NetworkAttachment) (listed : att ∈ net.attachments)
    (unserved : ¬ Served att) : attachmentPart net opts att = {} := by
  obtain ⟨part, made_⟩ := is_ok_value _ (accepts.rendered att listed)
  rw [attachmentPart, made_ok _ part made_]
  exact ((unserved_iff net opts att unserved part).mp made_).2

-- Both parts of a served attachment, on its one port.
theorem served_parts_of (beside : Alongside one two) (accepts : Accepts one opts) (accepts' : Accepts two opts) (att : NetworkAttachment)
    (listed : att ∈ one.attachments) (served : Served att) :
    ∃ rendering other port, RendersAs one att rendering ∧ RendersAs two att other ∧
      attachmentPart one opts att = rendering.part opts port ∧ attachmentPart two opts att = other.part opts port := by
  obtain ⟨rendering, port, renders, attached, whole⟩ := served_part opts one accepts att listed served
  obtain ⟨other, port', renders', attached', whole'⟩ := served_part opts two accepts' att (by rw [beside.attachments]; exact listed) served
  rw [attached] at attached'
  cases attached'
  exact ⟨rendering, other, port, renders, renders', whole, whole'⟩

/- What a choice of the one network and a choice of the other give to the attachments that
   they touch. -/
structure Touches (touched : NetworkAttachment → Prop) (net : Network) (ops checks : Nat) : Prop where
  served : ∀ att, touched att → Served att
  lengths : ∀ att rendering port, touched att → RendersAs net att rendering →
    (rendering.part opts port).ops.length = ops ∧ (rendering.part opts port).checks.length = checks

theorem choice_parts (beside : Alongside one two) (accepts : Accepts one opts) (accepts' : Accepts two opts)
    (same : SamePlan (fillPlan [] (planEntries one opts)) (fillPlan [] (planEntries two opts)))
    (touched : NetworkAttachment → Prop) (ops checks ops' checks' : Nat) (here : Touches opts touched one ops checks)
    (there : Touches opts touched two ops' checks')
    (routers : ∀ att, ¬ touched att → att.vrf ≠ "" → routerNamed one att.vrf = routerNamed two att.vrf)
    (domains : ∀ att, ¬ touched att → Bridged att → domainOn one att.vlan = domainOn two att.vlan) :
    ∀ att ∈ one.attachments, (attachmentPart one opts att).ops = (attachmentPart two opts att).ops ∧
      (attachmentPart one opts att).checks = (attachmentPart two opts att).checks := by
  have whole (n : String) (present : onNode one n ≠ []) :=
    node_parts_same one two opts n same present (by rw [(alongside_parts one two opts beside n).1]; exact present)
  have lengths (att : NetworkAttachment) (listed : att ∈ one.attachments) (hit : touched att) :
      ((attachmentPart one opts att).ops.length = ops ∧ (attachmentPart one opts att).checks.length = checks) ∧
      (attachmentPart two opts att).ops.length = ops' ∧ (attachmentPart two opts att).checks.length = checks' := by
    obtain ⟨rendering, other, port, renders, renders', part, part'⟩ :=
      served_parts_of one two opts beside accepts accepts' att listed (here.served att hit)
    rw [part, part']
    exact ⟨here.lengths att rendering port hit renders, there.lengths att other port hit renders'⟩
  have rest (att : NetworkAttachment) (listed : att ∈ one.attachments) (missed : ¬ touched att) :
      (attachmentPart one opts att).ops.length = (attachmentPart two opts att).ops.length ∧
      (attachmentPart one opts att).checks.length = (attachmentPart two opts att).checks.length := by
    by_cases served : Served att
    · obtain ⟨rendering, other, port, renders, renders', part, part'⟩ :=
        served_parts_of one two opts beside accepts accepts' att listed served
      rw [part, part']
      exact lengths_agree opts port rendering one two att served other renders renders' (routers att missed) (domains att missed)
    · rw [unserved_part opts one accepts att listed served,
        unserved_part opts two accepts' att (by rw [beside.attachments]; exact listed) served]
      exact ⟨rfl, rfl⟩
  intro att listed
  constructor
  · exact choice_same one two opts Part.ops beside (fun n present => (whole n present).1) touched ops ops'
      (fun other within hit => ⟨(lengths other within hit).1.1, (lengths other within hit).2.1⟩)
      (fun other within missed => (rest other within missed).1) att listed
  · exact choice_same one two opts Part.checks beside (fun n present => (whole n present).2) touched checks checks'
      (fun other within hit => ⟨(lengths other within hit).1.2, (lengths other within hit).2.2⟩)
      (fun other within missed => (rest other within missed).2) att listed

end Choices

section Needed
variable (net : Network) (opts : Options) (free : OrderFree net opts)

-- The network with this router and these bridge domains at the end of their lists.
def choosing (domains : List BridgeDomain) (r : NetworkRouter) : Network :=
  { net with routers := withLast net.routers r, bridgeDomains := domains }

theorem choosing_reordered (domains : List BridgeDomain) (perm : net.bridgeDomains.Perm domains) (r : NetworkRouter) (listed : r ∈ net.routers) :
    Reordered net (choosing net domains r) :=
  ⟨List.Perm.refl _, with_last_perm net.routers r listed, perm, List.Perm.refl _, rfl⟩

theorem chosen_router (domains : List BridgeDomain) (r : NetworkRouter) : routerNamed (choosing net domains r) r.name = some r :=
  held_with_last _ net.routers r (decide_eq_true rfl)

theorem other_router (domains : List BridgeDomain) (r : NetworkRouter) (name : String) (other : name ≠ r.name) :
    routerNamed (choosing net domains r) name = routerNamed net name :=
  held_with_other_last _ net.routers r (by simpa using Ne.symm other)

-- The network with this bridge domain at the end of its list.
def bridging (net : Network) (bd : BridgeDomain) : Network := { net with bridgeDomains := withLast net.bridgeDomains bd }

theorem bridging_reordered (bd : BridgeDomain) (listed : bd ∈ net.bridgeDomains) : Reordered net (bridging net bd) :=
  ⟨List.Perm.refl _, List.Perm.refl _, with_last_perm net.bridgeDomains bd listed, List.Perm.refl _, rfl⟩

theorem routing_same (r other : NetworkRouter) (c : L3Context) (context : l3ContextFor r = .ok c) (context' : l3ContextFor other = .ok c) :
    SameRouting r other := by
  obtain ⟨l3vni, rd, rt⟩ := context_fields r c context
  obtain ⟨l3vni', rd', rt'⟩ := context_fields other c context'
  exact ⟨l3vni.symm.trans l3vni', rd.symm.trans rd', rt.symm.trans rt'⟩

include free

-- Which of two routers of a name stands last shows on no attachment.
theorem router_choice (domains : List BridgeDomain) (perm : net.bridgeDomains.Perm domains) (r other : NetworkRouter) (listed : r ∈ net.routers)
    (beside : other ∈ net.routers) (names : r.name = other.name) (named : r.name ≠ "") :
    ∀ att ∈ net.attachments,
      (attachmentPart (choosing net domains r) opts att).ops = (attachmentPart (choosing net domains other) opts att).ops ∧
      (attachmentPart (choosing net domains r) opts att).checks = (attachmentPart (choosing net domains other) opts att).checks := by
  obtain ⟨accepts, same⟩ := order_free_accepts net opts free _ (choosing_reordered net domains perm r listed)
  obtain ⟨accepts', same'⟩ := order_free_accepts net opts free _ (choosing_reordered net domains perm other beside)
  have touches (chosen : NetworkRouter) (own : chosen.name = r.name) :
      Touches opts (fun att => att.vrf = r.name) (choosing net domains chosen) ((vtepBaselineForKind opts).length + 6) (7 + prefixChecks chosen) := by
    refine ⟨fun att hit => Or.inl (by rw [hit]; exact named), fun att rendering port hit renders => ?_⟩
    obtain ⟨found, held, reading⟩ := renders_routed _ att rendering renders (by rw [hit]; exact named)
    rw [hit, ← own, chosen_router] at held
    cases held
    exact routed_lengths opts port rendering chosen reading
  exact choice_parts (choosing net domains r) (choosing net domains other) opts ⟨rfl, rfl, rfl, rfl⟩ accepts accepts'
    (fun n => (same n).symm.trans (same' n)) (fun att => att.vrf = r.name) _ _ _ _ (touches r rfl) (touches other names.symm)
    (fun att missed _ => by rw [other_router net domains r att.vrf missed, other_router net domains other att.vrf (by rw [← names]; exact missed)])
    (fun _ _ _ => rfl)

theorem routers_needed : ∀ att ∈ net.attachments, att.vrf ≠ "" → ∀ r ∈ net.routers, ∀ other ∈ net.routers,
    r.name = att.vrf → other.name = att.vrf → SameRouter r other := by
  intro att within asked r listed other beside own their
  have accepted (chosen : NetworkRouter) (inside : chosen ∈ net.routers) :=
    (order_free_accepts net opts free _ (choosing_reordered net net.bridgeDomains (List.Perm.refl _) chosen inside)).1
  obtain ⟨ops, checks⟩ := router_choice net opts free net.bridgeDomains (List.Perm.refl _) r other listed beside (own.trans their.symm)
    (by rw [own]; exact asked) att within
  obtain ⟨rendering, rendering', port, renders, renders', part, part'⟩ :=
    served_parts_of (choosing net net.bridgeDomains r) (choosing net net.bridgeDomains other) opts ⟨rfl, rfl, rfl, rfl⟩ (accepted r listed)
      (accepted other beside) att within (Or.inl asked)
  rw [part, part'] at ops checks
  obtain ⟨found, held, reading⟩ := renders_routed _ att rendering renders asked
  obtain ⟨found', held', reading'⟩ := renders_routed _ att rendering' renders' asked
  rw [← own, chosen_router] at held
  rw [← their, chosen_router] at held'
  cases held
  cases held'
  cases reading with
  | read c afis needles context families type5 =>
      cases reading' with
      | read c' afis' needles' context' families' type5' =>
          obtain ⟨contexts, afisSame, addrs, needlesSame⟩ := routed_same opts port c c' afis afis' _ _ needles needles' _ _ families families' ops checks
          rw [contexts] at context
          refine ⟨routing_same r other c' context context', ?_, addrs, ?_⟩
          · rw [families, families', afisSame]
          · rw [type5, type5', needlesSame]

theorem gateways_needed (named : ∀ r ∈ net.routers, r.name ≠ "") : ∀ att ∈ net.attachments, Bridged att →
    ∀ bd ∈ net.bridgeDomains, bd.vlan = att.vlan → ∀ irb, bd.irb = some irb →
    ∀ r ∈ net.routers, ∀ other ∈ net.routers, r.name = irb.vrf → other.name = irb.vrf → SameRouting r other := by
  intro att within bridged bd inside vlan irb shared r listed other beside own their
  have perm := with_last_perm net.bridgeDomains bd inside
  have on (chosen : NetworkRouter) : domainOn (choosing net (withLast net.bridgeDomains bd) chosen) att.vlan = some bd :=
    held_with_last _ net.bridgeDomains bd (decide_eq_true vlan)
  have accepted (chosen : NetworkRouter) (held : chosen ∈ net.routers) :=
    (order_free_accepts net opts free _ (choosing_reordered net _ perm chosen held)).1
  obtain ⟨ops, checks⟩ := router_choice net opts free _ perm r other listed beside (own.trans their.symm) (named r listed) att within
  obtain ⟨rendering, rendering', port, renders, renders', part, part'⟩ :=
    served_parts_of (choosing net (withLast net.bridgeDomains bd) r) (choosing net (withLast net.bridgeDomains bd) other) opts
      ⟨rfl, rfl, rfl, rfl⟩ (accepted r listed) (accepted other beside) att within (Or.inr bridged.2)
  rw [part, part'] at ops checks
  have reads (chosen : NetworkRouter) (name : chosen.name = irb.vrf) (found : Rendering)
      (as_ : RendersAs (choosing net (withLast net.bridgeDomains bd) chosen) att found) : GatewayBy bd irb chosen found := by
    cases renders_on_domain _ att found as_ bridged bd (on chosen) with
    | inl plain =>
        rw [shared] at plain
        cases plain.1
    | inr routed =>
        obtain ⟨irb', holder, with_, held, reading⟩ := routed
        rw [shared] at with_
        cases with_
        rw [← name, chosen_router] at held
        cases held
        exact reading
  cases reads r own rendering renders with
  | read c afis needles _ context families type5 =>
      cases reads other their rendering' renders' with
      | read c' afis' needles' _ context' families' type5' =>
          obtain ⟨_, contexts, _⟩ := irb_same opts port bd bd c c' afis afis' _ _ needles needles' _ _ families families' ops checks
          rw [contexts] at context
          exact routing_same r other c' context context'

theorem domain_choice (bd other : BridgeDomain) (listed : bd ∈ net.bridgeDomains) (beside : other ∈ net.bridgeDomains)
    (vlans : bd.vlan = other.vlan) : ∀ att ∈ net.attachments,
      (attachmentPart (bridging net bd) opts att).ops = (attachmentPart (bridging net other) opts att).ops ∧
      (attachmentPart (bridging net bd) opts att).checks = (attachmentPart (bridging net other) opts att).checks := by
  obtain ⟨accepts, same⟩ := order_free_accepts net opts free _ (bridging_reordered net bd listed)
  obtain ⟨accepts', same'⟩ := order_free_accepts net opts free _ (bridging_reordered net other beside)
  have touches (chosen : BridgeDomain) (own : chosen.vlan = bd.vlan) : ∃ ops checks,
      Touches opts (fun att => Bridged att ∧ att.vlan = bd.vlan) (bridging net chosen) ops checks := by
    obtain ⟨ops, checks, lengths⟩ := domain_lengths opts chosen
    refine ⟨ops, checks, fun att hit => Or.inr hit.1.2, fun att rendering port hit renders => ?_⟩
    exact lengths _ att rendering port renders hit.1 (held_with_last _ net.bridgeDomains chosen (decide_eq_true (own.trans hit.2.symm)))
  obtain ⟨_, _, here⟩ := touches bd rfl
  obtain ⟨_, _, there⟩ := touches other vlans.symm
  refine choice_parts (bridging net bd) (bridging net other) opts ⟨rfl, rfl, rfl, rfl⟩ accepts accepts'
    (fun n => (same n).symm.trans (same' n)) _ _ _ _ _ here there (fun _ _ _ => rfl) (fun att missed bridged => ?_)
  have away : att.vlan ≠ bd.vlan := fun on => missed ⟨bridged, on⟩
  have kept (chosen : BridgeDomain) (own : chosen.vlan = bd.vlan) : domainOn (bridging net chosen) att.vlan = domainOn net att.vlan :=
    held_with_other_last _ net.bridgeDomains chosen (by simpa [own] using Ne.symm away)
  rw [kept bd rfl, kept other vlans.symm]

theorem domains_needed (passes : PassesChecks net) : ∀ att ∈ net.attachments, Bridged att → ∀ bd ∈ net.bridgeDomains, ∀ other ∈ net.bridgeDomains,
    bd.vlan = att.vlan → other.vlan = att.vlan → SameDomain bd other := by
  intro att within bridged bd listed other beside own their
  have accepted (chosen : BridgeDomain) (inside : chosen ∈ net.bridgeDomains) :=
    (order_free_accepts net opts free _ (bridging_reordered net chosen inside)).1
  have on (chosen : BridgeDomain) (vlan : chosen.vlan = att.vlan) : domainOn (bridging net chosen) att.vlan = some chosen :=
    held_with_last _ net.bridgeDomains chosen (decide_eq_true vlan)
  obtain ⟨ops, checks⟩ := domain_choice net opts free bd other listed beside (own.trans their.symm) att within
  obtain ⟨rendering, rendering', port, renders, renders', part, part'⟩ :=
    served_parts_of (bridging net bd) (bridging net other) opts ⟨rfl, rfl, rfl, rfl⟩ (accepted bd listed) (accepted other beside) att within
      (Or.inr bridged.2)
  rw [part, part'] at ops checks
  have marks := commuting_mark opts rendering rendering' port port (by rw [ops])
  cases renders_on_domain _ att rendering renders bridged bd (on bd own) with
  | inl plain =>
      obtain ⟨unshared, reading⟩ := plain
      cases reading with
      | read numbered =>
          cases renders_on_domain _ att rendering' renders' bridged other (on other their) with
          | inl also =>
              obtain ⟨unshared', reading'⟩ := also
              cases reading' with
              | read numbered' =>
                  have segment := bridged_same opts port bd other ops
                  exact ⟨segment.l2vni, segment.rt, by rw [unshared, unshared']⟩
          | inr routed =>
              obtain ⟨irb, r, _, _, reading'⟩ := routed
              cases reading'
              cases (Prod.mk.inj marks).1
  | inr routed =>
      obtain ⟨irb, r, shared, held, reading⟩ := routed
      cases reading with
      | read c afis needles _ context families type5 =>
          cases renders_on_domain _ att rendering' renders' bridged other (on other their) with
          | inl plain =>
              obtain ⟨_, reading'⟩ := plain
              cases reading'
              cases (Prod.mk.inj marks).1
          | inr also =>
              obtain ⟨irb', r', shared', held', reading'⟩ := also
              cases reading' with
              | read c' afis' needles' _ context' families' type5' =>
                  obtain ⟨segment, contexts, _, gateways, _⟩ :=
                    irb_same opts port bd other c c' afis afis' _ _ needles needles' _ _ families families' ops checks
                  rw [contexts] at context
                  have routing := routing_same r r' c' context context'
                  -- Routers of two names never share an L3VNI.
                  have vrf : irb.vrf = irb'.vrf := by
                    by_contra differ
                    have some_ := (l3_context r c' context).1
                    exact passes.apart irb.vrf irb'.vrf differ r held r' held' some_ (by rw [← routing.l3vni]; exact some_) (by rw [routing.l3vni])
                  refine ⟨segment.l2vni, segment.rt, ?_⟩
                  rw [shared, shared', Option.map_some, Option.map_some, vrf, declaredGateways, declaredGateways, gateways]

end Needed

section Whole
variable (net : Network) (opts : Options)

theorem order_settled_iff (accepts : Accepts net opts) : OrderFree net opts ↔ OrderSettled net := by
  have passes := (check_network_iff net).mp accepts.checked
  constructor
  · intro free
    exact {
      services := services_needed opts net free accepts
      banded := banded_needed net opts free
      apart := apart_needed net opts free
      routers := routers_needed net opts free
      domains := domains_needed net opts free passes
      gateways := gateways_needed net opts free passes.named }
  · intro settled other order
    have accepts' := accepts_reordered net other opts settled order accepts
    exact ⟨_, (render_network_iff other opts _).mpr ⟨accepts', rfl⟩, plan_reordered net other opts settled order accepts⟩

-- The options are read before the network.
theorem for_network_options (plan : NetworkPlan) (accepted : forNetwork net opts = .ok plan) :
    ∃ used, ∀ other : Network, forNetwork other opts = renderNetwork other used := by
  rw [forNetwork, guard_ok] at accepted
  obtain ⟨ports, accepted⟩ := accepted
  rw [guard_ok] at accepted
  obtain ⟨kind, _⟩ := accepted
  refine ⟨if opts.vtepName = "" then { opts with vtepName := "vtep1" } else opts, fun other => ?_⟩
  rw [forNetwork, if_neg ports, if_neg kind]

theorem plan_order_free_iff (plan : NetworkPlan) (accepted : forNetwork net opts = .ok plan) :
    (∀ other, Reordered net other → ∃ later, forNetwork other opts = .ok later ∧ SamePlan plan later) ↔ OrderSettled net := by
  obtain ⟨used, renders⟩ := for_network_options net opts plan accepted
  rw [renders] at accepted
  obtain ⟨accepts, whole⟩ := (render_network_iff net used plan).mp accepted
  rw [← order_settled_iff net used accepts, whole]
  simp only [renders, OrderFree]

def sharedPort (first second : Int) : Network where
  name := "net-1"
  attachments := [{ node := "leaf1", attachment := "eth1", vlan := first }, { node := "leaf1", attachment := "eth1", vlan := second }]
  vlans := [{ name := "blue", vlan := 10 }, { name := "red", vlan := 20 }]

def onePort : Options := { ports := [("eth1", "Ethernet0")] }

def sharedPlan (first second : Int) : NetworkPlan := (forNetwork (sharedPort first second) onePort).toOption.getD []

def redFirst : Network := { sharedPort 10 10 with vlans := [{ name := "red", vlan := 20 }, { name := "blue", vlan := 10 }] }

-- An attachment listed twice is one service, in any order of the VLANs.
theorem listed_twice_order_free :
    ∃ later, forNetwork redFirst onePort = .ok later ∧ SamePlan (sharedPlan 10 10) later := by
  refine (plan_order_free_iff (sharedPort 10 10) onePort (sharedPlan 10 10) (by decide +kernel)).mpr ?_ redFirst
    ⟨List.Perm.refl _, List.Perm.refl _, List.Perm.refl _, List.Perm.swap _ _ _, rfl⟩
  exact {
    services := by decide
    banded := by decide
    apart := by decide
    routers := by intro att _ _ r listed; cases listed
    domains := by intro att _ _ bd listed; cases listed
    gateways := by intro att _ _ bd listed; cases listed }

-- Two VLANs of one port: the first of the list has the port's untagged VLAN.
theorem shared_port_ordered : forNetwork (sharedPort 10 20) onePort = .ok (sharedPlan 10 20) ∧
    Reordered (sharedPort 10 20) (sharedPort 20 10) ∧
    ¬ ∃ later, forNetwork (sharedPort 20 10) onePort = .ok later ∧ SamePlan (sharedPlan 10 20) later := by
  refine ⟨by decide +kernel, ⟨List.Perm.swap _ _ _, List.Perm.refl _, List.Perm.refl _, List.Perm.refl _, rfl⟩, ?_⟩
  intro found
  obtain ⟨later, rendered, same⟩ := found
  have other : forNetwork (sharedPort 20 10) onePort = .ok (sharedPlan 20 10) := by decide +kernel
  rw [other] at rendered
  cases rendered
  have leaf := same "leaf1"
  exact absurd leaf (by decide +kernel)

end Whole

end AgenticNetops.Fabricplan
