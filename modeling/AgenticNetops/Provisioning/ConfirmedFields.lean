import AgenticNetops.Provisioning.BuildIntent
import AgenticNetops.Schemas.Validation

set_option autoImplicit false

/- What the operator confirmed and what the allocator hands on: the fields that each
   construct and transport carries over, and where the others come from. -/
namespace AgenticNetops.Provisioning

open GoText Exits Schemas

def attachmentPoint (endpoint : Endpoint) : String × String := (endpoint.node, endpoint.attachment)

def askedPoint (endpoint : EndpointIntent) : String × String := (endpoint.siteOrNode, endpoint.attachment)

-- An interpretation that names no transport means vxlan.
def transportText : Option Transport → String
  | some .srv6 => "srv6"
  | some .vxlan | none => "vxlan"

structure CarriesFilter (asked : Interpretation.ACL) (carried : ACL) : Prop where
  rules : carried.rules = some asked.rules
  stage : carried.stage = some asked.stage
  type : carried.type = some asked.type
  defaultAction : carried.defaultAction = asked.defaultAction

-- What the intent takes over from the interpretation.
structure Carries (interp : Interpretation) (intent : NormalizedServiceIntent) : Prop where
  construct : intent.type = interp.serviceType.value
  tenant : intent.tenant = interp.tenant
  serviceID : intent.serviceID = interp.serviceID
  transport : intent.transport = transportText interp.transport
  attachments : (intent.endpoints.map attachmentPoint).Perm (interp.endpoints.map askedPoint)
  filter : ∀ asked ∈ interp.acl, ∃ carried ∈ intent.acl, CarriesFilter asked carried
  noFilter : interp.acl = none → intent.acl = none
  spine : interp.transport = some .srv6 → intent.preferredSpine = interp.preferredSpine
  vlans : interp.serviceType ≠ .ipVRF → ∀ asked ∈ interp.endpoints, ∀ vlan ∈ asked.vlan,
    ∃ endpoint ∈ intent.endpoints, attachmentPoint endpoint = askedPoint asked ∧ endpoint.vlan = some vlan
  families : interp.serviceType = .ipVRF → interp.ipv4Prefixes ≠ [] ∨ interp.ipv6Prefixes ≠ [] →
    intent.addressFamilies = some ⟨interp.ipv4Prefixes, interp.ipv6Prefixes⟩
  gateway : interp.serviceType = .macVRF → ∀ asked ∈ interp.anycastGateway,
    intent.anycastGateway = some { gatewayIPv4 := asked.ipv4.getD "", gatewayIPv6 := asked.ipv6.getD "" }

-- Where an identifier or an address of the intent comes from.
structure Traced (interp : Interpretation) (assignment : Assignment) : Prop where
  vlan : ∀ endpoint ∈ assignment.intent.endpoints, ∀ vlan ∈ endpoint.vlan,
    (∃ asked ∈ interp.endpoints, asked.vlan = some vlan) ∨ .number vlanIndex vlan ∈ assignment.claimed
  l2vni : ∀ vni ∈ assignment.intent.l2vni, .number l2vniIndex vni ∈ assignment.claimed
  l3vni : ∀ vni ∈ assignment.intent.l3vni, .number l3vniIndex vni ∈ assignment.claimed
  rdRt : ∀ rdRt ∈ assignment.intent.rdRt, ∃ number, rdRt = rdRtOf number ∧ .number extcommIndex number ∈ assignment.claimed
  prefixes : ∀ endpoint ∈ assignment.intent.endpoints, ∀ prefixes ∈ endpoint.prefixes, ∃ claimed gateway before after,
    gatewayAddress claimed before = (after, .ok gateway) ∧ prefixes = [gateway] ∧ .subnet claimed ∈ assignment.claimed
  families : ∀ families ∈ assignment.intent.addressFamilies, families = ⟨interp.ipv4Prefixes, interp.ipv6Prefixes⟩ ∨
    (interp.serviceType = .ipVRF ∧ interp.ipv4Prefixes = [] ∧ interp.ipv6Prefixes = [] ∧ families = ⟨["10.0.0.0/24"], []⟩)
  gateway : ∀ gateway ∈ assignment.intent.anycastGateway, ∃ asked ∈ interp.anycastGateway,
    gateway = { gatewayIPv4 := asked.ipv4.getD "", gatewayIPv6 := asked.ipv6.getD "" }

theorem normalized_filter (interp : Interpretation) (asked : Interpretation.ACL) (named : asked ∈ interp.acl) :
    ∃ carried ∈ normalizedACL interp, CarriesFilter asked carried := by
  have isNamed : interp.acl = some asked := named
  exact ⟨_, by rw [normalizedACL, isNamed]; rfl, ⟨rfl, rfl, rfl, rfl⟩⟩

theorem no_filter (interp : Interpretation) (none : interp.acl = none) : normalizedACL interp = Option.none := by
  rw [normalizedACL, none]
  rfl

theorem address_families_named (interp : Interpretation) (named : interp.ipv4Prefixes ≠ [] ∨ interp.ipv6Prefixes ≠ []) :
    addressFamilies interp = ⟨interp.ipv4Prefixes, interp.ipv6Prefixes⟩ := if_pos named

theorem address_families_cases (interp : Interpretation) :
    addressFamilies interp = ⟨interp.ipv4Prefixes, interp.ipv6Prefixes⟩ ∨
      (interp.ipv4Prefixes = [] ∧ interp.ipv6Prefixes = [] ∧ addressFamilies interp = ⟨["10.0.0.0/24"], []⟩) := by
  by_cases named : interp.ipv4Prefixes ≠ [] ∨ interp.ipv6Prefixes ≠ []
  · exact .inl (address_families_named interp named)
  · have none : interp.ipv4Prefixes = [] ∧ interp.ipv6Prefixes = [] := by simpa using named
    exact .inr ⟨none.1, none.2, if_neg named⟩

section Endpoints

-- The endpoints of a bridged service: every one on the same vlan.
def onVLAN (vlan : Option Int) (endpoint : Endpoint) : Endpoint :=
  { node := endpoint.node, attachment := endpoint.attachment, vlan }

def orderedEndpoints (interp : Interpretation) : List Endpoint :=
  deterministicEndpoints (interp.endpoints.map plainEndpoint)

theorem ordered_points (interp : Interpretation) :
    ((orderedEndpoints interp).map attachmentPoint).Perm (interp.endpoints.map askedPoint) := by
  have perm : (orderedEndpoints interp).Perm (interp.endpoints.map plainEndpoint) := List.perm_insertionSort _ _
  have points := perm.map attachmentPoint
  rwa [List.map_map] at points

theorem on_vlan_points (interp : Interpretation) (vlan : Option Int) :
    (((orderedEndpoints interp).map (onVLAN vlan)).map attachmentPoint).Perm (interp.endpoints.map askedPoint) := by
  rw [List.map_map]
  exact ordered_points interp

theorem named_vlan_iff (interp : Interpretation) (vlan : Int) :
    vlan ∈ namedVLANs (orderedEndpoints interp) ↔ ∃ asked ∈ interp.endpoints, asked.vlan = some vlan := by
  rw [namedVLANs, (List.perm_insertionSort _ _).mem_iff, List.mem_dedup, List.mem_filterMap]
  constructor
  · intro parts
    obtain ⟨endpoint, member, carries⟩ := parts
    obtain ⟨asked, listed, same⟩ := (mem_plain_endpoints interp endpoint).mp member
    exact ⟨asked, listed, by rw [← carries, ← same]; rfl⟩
  · intro parts
    obtain ⟨asked, listed, carries⟩ := parts
    exact ⟨plainEndpoint asked, (mem_plain_endpoints interp _).mpr ⟨asked, listed, rfl⟩, carries⟩

-- A vlan that some endpoint was asked to have is the vlan of all.
theorem on_vlan_carries (interp : Interpretation) (vlan : Int) (only : namedVLANs (orderedEndpoints interp) = [vlan])
    (asked : EndpointIntent) (listed : asked ∈ interp.endpoints) (number : Int) (named : number ∈ asked.vlan) :
    ∃ endpoint ∈ (orderedEndpoints interp).map (onVLAN (some vlan)),
      attachmentPoint endpoint = askedPoint asked ∧ endpoint.vlan = some number := by
  have one : number ∈ namedVLANs (orderedEndpoints interp) := (named_vlan_iff interp number).mpr ⟨asked, listed, named⟩
  rw [only] at one
  rw [List.mem_singleton.mp one]
  have member : plainEndpoint asked ∈ orderedEndpoints interp := (mem_plain_endpoints interp _).mpr ⟨asked, listed, rfl⟩
  exact ⟨onVLAN (some vlan) (plainEndpoint asked), List.mem_map.mpr ⟨_, member, rfl⟩, rfl, rfl⟩

variable (fallback : Bool) (correlationID : String) (before after : Store)

theorem l2_endpoints_built (endpoints : List Endpoint) (service : String) (answers : NumberAnswers)
    (result : List Endpoint × List Identifier)
    (ran : l2Endpoints fallback endpoints correlationID service answers before = (after, .ok result)) :
    ∃ vlan, result.1 = endpoints.map (onVLAN (some vlan)) ∧
      (namedVLANs endpoints = [] ∧ .number vlanIndex vlan ∈ result.2 ∨ namedVLANs endpoints = [vlan]) := by
  unfold l2Endpoints at ran
  cases named : namedVLANs endpoints with
  | nil =>
      simp only [named] at ran
      obtain ⟨mid, vlan, _, later⟩ := bind_ran before _ _ after result ran
      obtain ⟨last, made, isMade, ends⟩ := bind_ran mid _ _ after result later
      cases ends
      exact ⟨vlan, make_endpoints_ran _ _ (onVLAN (some vlan)) endpoints made isMade, .inl ⟨rfl, List.mem_singleton_self _⟩⟩
  | cons vlan rest =>
      cases rest with
      | nil =>
          simp only [named] at ran
          obtain ⟨mid, made, isMade, ends⟩ := bind_ran before _ _ after result ran
          cases ends
          exact ⟨vlan, make_endpoints_ran _ _ (onVLAN (some vlan)) endpoints made isMade, .inr rfl⟩
      | cons other more =>
          simp only [named] at ran
          cases ran

theorem srv6_endpoints_built (endpoints made : List Endpoint)
    (ran : srv6Endpoints endpoints before = (after, .ok made)) :
    (namedVLANs endpoints = [] ∧ made = endpoints.map (onVLAN none)) ∨
      ∃ vlan, namedVLANs endpoints = [vlan] ∧ made = endpoints.map (onVLAN (some vlan)) := by
  unfold srv6Endpoints at ran
  cases named : namedVLANs endpoints with
  | nil =>
      simp only [named] at ran
      exact .inl ⟨rfl, make_endpoints_ran _ _ (onVLAN none) endpoints made ran⟩
  | cons vlan rest =>
      cases rest with
      | nil =>
          simp only [named] at ran
          exact .inr ⟨vlan, rfl, make_endpoints_ran _ _ (onVLAN (some vlan)) endpoints made ran⟩
      | cons other more =>
          simp only [named] at ran
          cases ran

theorem claim_gateways_points (tenant : String) (answers : Nat → PrefixAnswers) (endpoints : List Endpoint) (position : Nat)
    (result : List Endpoint × List Identifier)
    (ran : claimGateways tenant correlationID answers position endpoints before = (after, .ok result)) :
    result.1.map attachmentPoint = endpoints.map attachmentPoint := by
  induction endpoints generalizing position before result with
  | nil =>
      cases ran
      rfl
  | cons endpoint rest ih =>
      obtain ⟨first, claimed, _, ran⟩ := bind_ran before _ _ after result ran
      obtain ⟨last, gateway, _, ran⟩ := bind_ran first _ _ after result ran
      obtain ⟨made, checked, isMade, ran⟩ := bind_ran last _ _ after result ran
      obtain ⟨mid, later, isLater, ends⟩ := bind_ran made _ _ after result ran
      cases ends
      rw [List.map_cons, List.map_cons, ih made (position + 1) later isLater, make_endpoint_ran _ _ _ _ isMade]
      rfl

end Endpoints

section Building
variable (fallback : Bool) (correlationID : String) (before after : Store)

-- The part of it that the builders show one by one; the claims are `NamesClaims`.
structure BuiltFrom (interp : Interpretation) (assignment : Assignment) : Prop where
  carries : Carries interp assignment.intent
  vlan : ∀ endpoint ∈ assignment.intent.endpoints, ∀ vlan ∈ endpoint.vlan,
    (∃ asked ∈ interp.endpoints, asked.vlan = some vlan) ∨ .number vlanIndex vlan ∈ assignment.claimed
  families : assignment.intent.addressFamilies = none ∨
    (interp.serviceType = .ipVRF ∧ assignment.intent.addressFamilies = some (addressFamilies interp))
  gateway : ∀ gateway ∈ assignment.intent.anycastGateway, ∃ asked ∈ interp.anycastGateway,
    gateway = { gatewayIPv4 := asked.ipv4.getD "", gatewayIPv6 := asked.ipv6.getD "" }

theorem on_vlan_traced (interp : Interpretation) (vlan : Int) (claimed : List Identifier)
    (source : namedVLANs (orderedEndpoints interp) = [] ∧ .number vlanIndex vlan ∈ claimed ∨
      namedVLANs (orderedEndpoints interp) = [vlan])
    (endpoint : Endpoint) (member : endpoint ∈ (orderedEndpoints interp).map (onVLAN (some vlan))) (number : Int)
    (carried : number ∈ endpoint.vlan) :
    (∃ asked ∈ interp.endpoints, asked.vlan = some number) ∨ .number vlanIndex number ∈ claimed := by
  obtain ⟨plain, _, same⟩ := List.mem_map.mp member
  rw [← same] at carried
  cases carried
  cases source with
  | inl free => exact .inr free.2
  | inr named => exact .inl ((named_vlan_iff interp vlan).mp (named ▸ List.mem_singleton_self vlan))

theorem on_vlan_carries_of_source (interp : Interpretation) (vlan : Int) (claimed : List Identifier)
    (source : namedVLANs (orderedEndpoints interp) = [] ∧ .number vlanIndex vlan ∈ claimed ∨
      namedVLANs (orderedEndpoints interp) = [vlan])
    (asked : EndpointIntent) (listed : asked ∈ interp.endpoints) (number : Int) (named : number ∈ asked.vlan) :
    ∃ endpoint ∈ (orderedEndpoints interp).map (onVLAN (some vlan)),
      attachmentPoint endpoint = askedPoint asked ∧ endpoint.vlan = some number := by
  cases source with
  | inl free =>
      have member := (named_vlan_iff interp number).mpr ⟨asked, listed, named⟩
      rw [free.1] at member
      exact absurd member List.not_mem_nil
  | inr only => exact on_vlan_carries interp vlan only asked listed number named

def gatewayOf (asked : AnycastGatewayIntent) : AnycastGateway :=
  { gatewayIPv4 := asked.ipv4.getD "", gatewayIPv6 := asked.ipv6.getD "" }

def inVRF (tenant : String) (endpoint : Endpoint) : Endpoint :=
  { node := endpoint.node, attachment := endpoint.attachment, vrf := some (vrfOf endpoint tenant) }

theorem routed_gateway_built (interp : Interpretation) (answers : NumberAnswers) (routed : Option Int × Option AnycastGateway)
    (ran : routedGateway fallback interp correlationID answers before = (after, .ok routed)) :
    routed.2 = interp.anycastGateway.map gatewayOf := by
  unfold routedGateway at ran
  cases named : interp.anycastGateway with
  | none =>
      simp only [named] at ran
      cases ran
      rfl
  | some asked =>
      simp only [named] at ran
      obtain ⟨_, l3vni, _, ends⟩ := bind_ran before _ _ after routed ran
      cases ends
      rfl

theorem vxlan_intent_built (interp : Interpretation) (vxlan : interp.transport ≠ some .srv6) (answers : CallAnswers)
    (assignment : Assignment)
    (ran : vxlanIntent fallback interp (normalizedACL interp) (orderedEndpoints interp) correlationID answers before =
      (after, .ok assignment)) : BuiltFrom interp assignment := by
  have transport : "vxlan" = transportText interp.transport := by
    cases named : interp.transport with
    | none => rfl
    | some transport =>
        cases transport with
        | vxlan => rfl
        | srv6 => exact absurd named vxlan
  unfold vxlanIntent at ran
  cases construct : interp.serviceType with
  | acl =>
      simp only [construct] at ran
      obtain ⟨mid, intent, isIntent, ends⟩ := bind_ran before _ _ after assignment ran
      cases ends
      rw [make_intent_ran _ _ _ _ isIntent]
      have asked (endpoint : Endpoint) (member : endpoint ∈ orderedEndpoints interp) (vlan : Int) (carried : vlan ∈ endpoint.vlan) :
          ∃ asked ∈ interp.endpoints, asked.vlan = some vlan := by
        obtain ⟨plain, listed, same⟩ := (mem_plain_endpoints interp endpoint).mp member
        rw [← same] at carried
        exact ⟨plain, listed, carried⟩
      have carries : Carries interp
          { serviceID := interp.serviceID, type := "acl", tenant := interp.tenant, acl := normalizedACL interp,
            endpoints := orderedEndpoints interp } := {
        construct := by rw [construct]; rfl
        tenant := rfl
        serviceID := rfl
        transport := transport
        attachments := ordered_points interp
        filter := normalized_filter interp
        noFilter := no_filter interp
        spine := fun srv6 => absurd srv6 vxlan
        vlans := fun _ asked listed vlan named =>
          ⟨plainEndpoint asked, (mem_plain_endpoints interp _).mpr ⟨asked, listed, rfl⟩, rfl, named⟩
        families := fun routed => by rw [construct] at routed; cases routed
        gateway := fun bridged => by rw [construct] at bridged; cases bridged }
      exact ⟨carries, fun endpoint member vlan carried => .inl (asked endpoint member vlan carried), .inl rfl,
        fun _ named => by cases named⟩
  | vlan =>
      simp only [construct] at ran
      obtain ⟨mid, made, isMade, ran⟩ := bind_ran before _ _ after assignment ran
      obtain ⟨vlan, laid, source⟩ := l2_endpoints_built fallback correlationID before mid _ _ _ made isMade
      obtain ⟨last, intent, isIntent, ends⟩ := bind_ran mid _ _ after assignment ran
      cases ends
      rw [make_intent_ran _ _ _ _ isIntent, laid]
      have carries : Carries interp
          { serviceID := interp.serviceID, type := "vlan", acl := normalizedACL interp, tenant := interp.tenant,
            endpoints := (orderedEndpoints interp).map (onVLAN (some vlan)) } := {
        construct := by rw [construct]; rfl
        tenant := rfl
        serviceID := rfl
        transport := transport
        attachments := on_vlan_points interp (some vlan)
        filter := normalized_filter interp
        noFilter := no_filter interp
        spine := fun srv6 => absurd srv6 vxlan
        vlans := fun _ => on_vlan_carries_of_source interp vlan made.2 source
        families := fun routed => by rw [construct] at routed; cases routed
        gateway := fun bridged => by rw [construct] at bridged; cases bridged }
      exact ⟨carries, on_vlan_traced interp vlan made.2 source, .inl rfl, fun _ named => by cases named⟩
  | macVRF =>
      simp only [construct] at ran
      obtain ⟨mid, made, isMade, ran⟩ := bind_ran before _ _ after assignment ran
      obtain ⟨vlan, laid, source⟩ := l2_endpoints_built fallback correlationID before mid _ _ _ made isMade
      obtain ⟨_, l2vni, _, ran⟩ := bind_ran mid _ _ after assignment ran
      obtain ⟨_, rt, _, ran⟩ := bind_ran _ _ _ after assignment ran
      obtain ⟨_, routed, isRouted, ran⟩ := bind_ran _ _ _ after assignment ran
      obtain ⟨_, intent, isIntent, ends⟩ := bind_ran _ _ _ after assignment ran
      cases ends
      rw [make_intent_ran _ _ _ _ isIntent, laid, routed_gateway_built fallback correlationID _ _ interp _ routed isRouted]
      have carries : Carries interp
          { serviceID := interp.serviceID, type := "mac-vrf", acl := normalizedACL interp, tenant := interp.tenant,
            rdRt := some (rdRtOf rt), l2vni := some l2vni, l3vni := routed.1,
            anycastGateway := interp.anycastGateway.map gatewayOf,
            endpoints := (orderedEndpoints interp).map (onVLAN (some vlan)) } := {
        construct := by rw [construct]; rfl
        tenant := rfl
        serviceID := rfl
        transport := transport
        attachments := on_vlan_points interp (some vlan)
        filter := normalized_filter interp
        noFilter := no_filter interp
        spine := fun srv6 => absurd srv6 vxlan
        vlans := fun _ => on_vlan_carries_of_source interp vlan made.2 source
        families := fun routed => by rw [construct] at routed; cases routed
        gateway := fun _ asked named => by
          have isNamed : interp.anycastGateway = some asked := named
          rw [isNamed]
          rfl }
      refine ⟨carries, ?_, .inl rfl, ?_⟩
      · intro endpoint member number carried
        have traced := on_vlan_traced interp vlan made.2 source endpoint member number carried
        exact traced.imp_right fun claimed => by simp [claimed]
      · intro gateway named
        have mapped : interp.anycastGateway.map gatewayOf = some gateway := named
        obtain ⟨asked, isAsked, same⟩ := Option.map_eq_some_iff.mp mapped
        exact ⟨asked, isAsked, same.symm⟩
  | ipVRF =>
      simp only [construct] at ran
      obtain ⟨_, made, isMade, ran⟩ := bind_ran before _ _ after assignment ran
      obtain ⟨_, l3vni, _, ran⟩ := bind_ran _ _ _ after assignment ran
      obtain ⟨_, rt, _, ran⟩ := bind_ran _ _ _ after assignment ran
      obtain ⟨_, intent, isIntent, ends⟩ := bind_ran _ _ _ after assignment ran
      cases ends
      rw [make_intent_ran _ _ _ _ isIntent,
        make_endpoints_ran _ _ (inVRF interp.tenant) (orderedEndpoints interp) made isMade]
      have carries : Carries interp
          { serviceID := interp.serviceID, type := "ip-vrf", acl := normalizedACL interp, tenant := interp.tenant,
            rdRt := some (rdRtOf rt), l3vni := some l3vni, addressFamilies := some (addressFamilies interp),
            endpoints := (orderedEndpoints interp).map (inVRF interp.tenant) } := {
        construct := by rw [construct]; rfl
        tenant := rfl
        serviceID := rfl
        transport := transport
        attachments := by
          rw [List.map_map]
          exact ordered_points interp
        filter := normalized_filter interp
        noFilter := no_filter interp
        spine := fun srv6 => absurd srv6 vxlan
        vlans := fun bridged => absurd construct bridged
        families := fun _ named => congrArg some (address_families_named interp named)
        gateway := fun bridged => by rw [construct] at bridged; cases bridged }
      refine ⟨carries, ?_, .inr ⟨construct, rfl⟩, fun _ named => by cases named⟩
      intro endpoint member number carried
      obtain ⟨plain, _, same⟩ := List.mem_map.mp member
      rw [← same] at carried
      cases carried

theorem srv6_intent_built (interp : Interpretation) (srv6 : interp.transport = some .srv6) (answers : Nat → PrefixAnswers)
    (assignment : Assignment)
    (ran : srv6Intent interp (normalizedACL interp) (orderedEndpoints interp) correlationID answers before =
      (after, .ok assignment)) : BuiltFrom interp assignment := by
  have transport : "srv6" = transportText interp.transport := by rw [srv6]; rfl
  unfold srv6Intent at ran
  cases construct : interp.serviceType with
  | vlan =>
      simp only [construct] at ran
      cases ran
  | acl =>
      simp only [construct] at ran
      cases ran
  | macVRF =>
      simp only [construct] at ran
      split at ran
      · cases ran
      · rename_i noGateway
        have isNone : interp.anycastGateway = none := by simpa using noGateway
        obtain ⟨_, made, isMade, ran⟩ := bind_ran before _ _ after assignment ran
        obtain ⟨_, intent, isIntent, ends⟩ := bind_ran _ _ _ after assignment ran
        cases ends
        rw [make_intent_ran _ _ _ _ isIntent]
        have laid := srv6_endpoints_built before _ _ made isMade
        have points : (made.map attachmentPoint).Perm (interp.endpoints.map askedPoint) := by
          cases laid with
          | inl free =>
              rw [free.2]
              exact on_vlan_points interp none
          | inr named =>
              obtain ⟨vlan, _, same⟩ := named
              rw [same]
              exact on_vlan_points interp (some vlan)
        have carries : Carries interp
            { serviceID := interp.serviceID, type := "mac-vrf", transport := "srv6",
              signalling := some ((interp.signalling.getD .evpn).value), preferredSpine := interp.preferredSpine,
              acl := normalizedACL interp, tenant := interp.tenant, endpoints := made } := {
          construct := by rw [construct]; rfl
          tenant := rfl
          serviceID := rfl
          transport := transport
          attachments := points
          filter := normalized_filter interp
          noFilter := no_filter interp
          spine := fun _ => rfl
          vlans := fun _ asked listed vlan named => by
            have member := (named_vlan_iff interp vlan).mpr ⟨asked, listed, named⟩
            cases laid with
            | inl free =>
                rw [free.1] at member
                cases member
            | inr only =>
                obtain ⟨declared, one, same⟩ := only
                rw [same]
                exact on_vlan_carries interp declared one asked listed vlan named
          families := fun routed => by rw [construct] at routed; cases routed
          gateway := fun _ asked named => by rw [isNone] at named; cases named }
        refine ⟨carries, ?_, .inl rfl, fun _ named => by cases named⟩
        intro endpoint member number carried
        cases laid with
        | inl free =>
            have inMade : endpoint ∈ made := member
            rw [free.2] at inMade
            obtain ⟨plain, _, same⟩ := List.mem_map.mp inMade
            rw [← same] at carried
            cases carried
        | inr only =>
            obtain ⟨declared, one, same⟩ := only
            have inMade : endpoint ∈ made := member
            rw [same] at inMade
            exact on_vlan_traced interp declared [] (.inr one) endpoint inMade number carried |>.imp_right
              fun claimed => absurd claimed List.not_mem_nil
  | ipVRF =>
      simp only [construct] at ran
      obtain ⟨_, made, isMade, ran⟩ := bind_ran before _ _ after assignment ran
      obtain ⟨_, intent, isIntent, ends⟩ := bind_ran _ _ _ after assignment ran
      cases ends
      rw [make_intent_ran _ _ _ _ isIntent]
      have bare := claim_gateways_ran correlationID before _ interp.tenant answers _ 0 made isMade
      have carries : Carries interp
          { serviceID := interp.serviceID, type := "ip-vrf", transport := "srv6",
            signalling := some ((interp.signalling.getD .vpn).value), preferredSpine := interp.preferredSpine,
            acl := normalizedACL interp, tenant := interp.tenant, addressFamilies := some (addressFamilies interp),
            endpoints := made.1 } := {
        construct := by rw [construct]; rfl
        tenant := rfl
        serviceID := rfl
        transport := transport
        attachments := by
          rw [claim_gateways_points correlationID before _ interp.tenant answers _ 0 made isMade]
          exact ordered_points interp
        filter := normalized_filter interp
        noFilter := no_filter interp
        spine := fun _ => rfl
        vlans := fun bridged => absurd construct bridged
        families := fun _ named => congrArg some (address_families_named interp named)
        gateway := fun bridged => by rw [construct] at bridged; cases bridged }
      refine ⟨carries, ?_, .inr ⟨construct, rfl⟩, fun _ named => by cases named⟩
      intro endpoint member number carried
      rw [(bare endpoint member).1] at carried
      cases carried

theorem build_intent_built (validateAllOrNothing : NormalizedServiceIntent → Option Message) (interp : Interpretation)
    (answers : CallAnswers) (assignment : Assignment)
    (ran : buildIntent fallback validateAllOrNothing interp correlationID answers before = (after, .ok assignment)) :
    BuiltFrom interp assignment := by
  obtain ⟨_, made, isMade, ran⟩ := bind_ran before _ _ after assignment ran
  obtain ⟨_, built, isBuilt, ran⟩ := bind_ran _ _ _ after assignment ran
  have same : built = assignment := by
    cases validated : validateAllOrNothing built.intent with
    | some causes => simp [validated] at ran
    | none =>
        simp only [validated] at ran
        cases ran
        rfl
  subst same
  rw [make_endpoints_ran _ _ plainEndpoint _ made isMade] at isBuilt
  unfold constructIntent at isBuilt
  split at isBuilt
  · rename_i srv6
    exact srv6_intent_built correlationID _ _ interp srv6 answers.subnets built isBuilt
  · rename_i vxlan
    exact vxlan_intent_built fallback correlationID _ _ interp vxlan answers built isBuilt

/- Whatever the claim store answers: an intent that comes out carries the request over,
   and the rest of it was claimed in this call. The one exception is the address family
   that an ip-vrf gets when the request names none. -/
theorem intent_confirmed (validateAllOrNothing : NormalizedServiceIntent → Option Message) (interp : Interpretation)
    (answers : CallAnswers) (assignment : Assignment)
    (ran : buildIntent fallback validateAllOrNothing interp correlationID answers before = (after, .ok assignment)) :
    Carries interp assignment.intent ∧ Traced interp assignment := by
  have built := build_intent_built fallback correlationID before after validateAllOrNothing interp answers assignment ran
  have names := build_intent_names fallback correlationID before after validateAllOrNothing interp answers assignment ran
  refine ⟨built.carries, built.vlan, names.l2vni, names.l3vni, names.rdRt, names.gateways, ?_, built.gateway⟩
  intro families carried
  cases built.families with
  | inl none =>
      rw [none] at carried
      cases carried
  | inr routed =>
      have same : assignment.intent.addressFamilies = some families := carried
      rw [routed.2] at same
      cases same
      exact (address_families_cases interp).imp_right fun unnamed => ⟨routed.1, unnamed⟩

end Building

def labRouted : Interpretation where
  serviceID := "vpn-1"
  serviceType := .ipVRF
  tenant := "acme"
  endpoints := [{ siteOrNode := "leaf02", attachment := "wan1" }, { siteOrNode := "leaf01", attachment := "wan1" }]
  ipv4Prefixes := ["10.20.0.0/16"]

def labNumbers : CallAnswers where
  vlan := { uuid := "000000000001", create := .served (some 120) }
  l2vni := { uuid := "000000000002", create := .served (some 10120) }
  rt := { uuid := "000000000003", create := .served (some 42) }
  l3vni := { uuid := "000000000004", create := .served (some 10042) }
  subnets := fun _ => { create := .served "10.1.0.0/24" }

-- The intent's own validation, with no spines configured and ASCII digits only.
def ownValidation (intent : NormalizedServiceIntent) : Option Message :=
  Schemas.validateAllOrNothing (fun _ => none) intent "" false

def labBuilt (interp : Interpretation) : Store × Except Failure Assignment :=
  buildIntent true ownValidation interp "4f2a" labNumbers {}

theorem lab_routed_confirmed :
    ∃ after assignment, labBuilt labRouted = (after, .ok assignment) ∧ Carries labRouted assignment.intent ∧
      Traced labRouted assignment := by
  have built : (labBuilt labRouted).2.isOk = true := by decide +kernel
  cases ran : labBuilt labRouted with
  | mk after result =>
      cases result with
      | error failure =>
          rw [ran] at built
          cases built
      | ok assignment =>
          exact ⟨after, assignment, rfl, intent_confirmed true "4f2a" {} after ownValidation labRouted labNumbers assignment ran⟩

-- A routed service that names no prefix is given one that nobody named or claimed.
theorem routed_default_prefix :
    ¬ ∀ (fallback : Bool) (correlationID : String) (before after : Store) (interp : Interpretation) (answers : CallAnswers)
      (assignment : Assignment), interp.isComplete →
        buildIntent fallback ownValidation interp correlationID answers before = (after, .ok assignment) →
          ∀ families ∈ assignment.intent.addressFamilies, ∀ pfx ∈ families.ipv4Prefixes ++ families.ipv6Prefixes,
            pfx ∈ interp.ipv4Prefixes ++ interp.ipv6Prefixes ∨ .subnet pfx ∈ assignment.claimed := by
  intro always
  let unnamed : Interpretation := { labRouted with ipv4Prefixes := [] }
  have built : ∃ assignment, (labBuilt unnamed).2 = .ok assignment ∧
      (assignment.intent.addressFamilies = some { ipv4Prefixes := ["10.0.0.0/24"] } ∧
        .subnet "10.0.0.0/24" ∉ assignment.claimed) := by
    cases result : (labBuilt unnamed).2 with
    | error failure =>
        have ok : (labBuilt unnamed).2.isOk = true := by decide +kernel
        rw [result] at ok
        cases ok
    | ok assignment =>
        have fields : (labBuilt unnamed).2.toOption.all fun assignment =>
            assignment.intent.addressFamilies = some { ipv4Prefixes := ["10.0.0.0/24"] } ∧
              .subnet "10.0.0.0/24" ∉ assignment.claimed := by decide +kernel
        rw [result] at fields
        have holds := of_decide_eq_true (show decide (_ ∧ _) = true from fields)
        exact ⟨assignment, rfl, holds⟩
  obtain ⟨assignment, ran, families, unclaimed⟩ := built
  have outcome : labBuilt unnamed = ((labBuilt unnamed).1, .ok assignment) := Prod.ext rfl ran
  have traced := always true "4f2a" {} _ unnamed labNumbers assignment (by decide) outcome _ families "10.0.0.0/24"
    (by simp)
  obtain named | claimed := traced
  · cases named
  · exact unclaimed claimed

end AgenticNetops.Provisioning
