import AgenticNetops.Schemas.ValidationRules
import AgenticNetops.Migration.AclRules
import AgenticNetops.Migration.Wire

set_option autoImplicit false

/- What ValidateAllOrNothing lets through of the intents that the deployer posts, in the
   terms of the intent. The rules come in two groups: those that the intent's own
   validation has as well, and those of the translator alone. -/
namespace AgenticNetops.Migration

open GoText Causes Schemas

def posted (intent : NormalizedServiceIntent) : ServiceInput := (wire intent).canonicalize

section Fields
variable (intent : NormalizedServiceIntent)

theorem construct_type_fixed (type : String) (construct : IsConstruct type) :
    canonicalWord canonicalTypes (typeKey type) type = type ∧ legacyTypes.get? (typeKey type) = none := by
  have listed : (type, type) ∈ [(serviceVLAN, serviceVLAN), (serviceMACVRF, serviceMACVRF), (serviceIPVRF, serviceIPVRF),
      (serviceACL, serviceACL)] := by
    obtain isType | isType | isType | isType := construct
    all_goals
      rw [isType]
      decide
  have fixed : ∀ pair ∈ [(serviceVLAN, serviceVLAN), (serviceMACVRF, serviceMACVRF), (serviceIPVRF, serviceIPVRF),
      (serviceACL, serviceACL)], canonicalTypes.get? (typeKey pair.1) = some pair.1 ∧
        legacyTypes.get? (typeKey pair.1) = none := by decide +kernel
  have holds := fixed (type, type) listed
  exact ⟨canonical_word_known canonicalTypes _ _ type holds.1, holds.2⟩

theorem posted_type (construct : IsConstruct intent.type) : (posted intent).type = intent.type := by
  have fixed := (construct_type_fixed intent.type construct).1
  simp only [posted, ServiceInput.canonicalize, wire, fixed]

-- A construct's own name is no legacy name.
theorem posted_source_type (construct : IsConstruct intent.type) : (posted intent).sourceType = "" := by
  have fixed := canonical_word_unknown legacyTypes (typeKey intent.type) "" (construct_type_fixed intent.type construct).2
  simp only [posted, ServiceInput.canonicalize, wire, fixed]

@[simp] theorem posted_service_id : (posted intent).serviceID = intent.serviceID := by simp [posted, wire]

@[simp] theorem posted_tenant : (posted intent).tenant = intent.tenant := by simp [posted, wire]

@[simp] theorem posted_transport : (posted intent).transport = intent.transport := by simp [posted, wire]

@[simp] theorem posted_signalling : (posted intent).signalling = intent.signalling.getD "" := by simp [posted, wire]

@[simp] theorem posted_spine : (posted intent).preferredSpine = intent.preferredSpine.getD "" := by simp [posted, wire]

@[simp] theorem posted_rdRt : (posted intent).rdRt = intent.rdRt.map wireRdRt := by simp [posted, wire]

@[simp] theorem posted_l2vni : (posted intent).l2vni = intent.l2vni.getD 0 := by simp [posted, wire]

@[simp] theorem posted_l3vni : (posted intent).l3vni = intent.l3vni.getD 0 := by simp [posted, wire]

@[simp] theorem posted_families : (posted intent).addressFamilies = intent.addressFamilies.map wireFamilies := by
  simp [posted, wire]

@[simp] theorem posted_endpoints : (posted intent).endpoints = intent.endpoints.map wireEndpoint := by simp [posted, wire]

@[simp] theorem posted_unsupported : (posted intent).unsupported = wireUnsupported intent.claims := by simp [posted, wire]

@[simp] theorem posted_acl : (posted intent).acl = intent.acl.map fun a => (wireACL a).canonicalize := by
  simp [posted, wire, Option.map_map, Function.comp_def]

@[simp] theorem posted_gateway : (posted intent).anycastGateway = intent.anycastGateway.map wireGateway := by
  simp [posted, wire, ServiceInput.gateway]

end Fields

section Services
variable (intent : NormalizedServiceIntent)

theorem wire_vlans : (intent.endpoints.map wireEndpoint).map Endpoint.vlan = vlansOf intent := by
  rw [List.map_map]
  rfl

theorem posted_vlan_causes (service : String) :
    (endpointVLANCauses (intent.endpoints.map wireEndpoint) service = [] ∧
      reservedVLANCauses (intent.endpoints.map wireEndpoint) = []) ↔ OneVLAN (vlansOf intent) := by
  rw [endpoint_vlan_causes_nil_iff, reserved_vlan_causes_nil_iff]
  simp [OneVLAN, vlansOf, wireEndpoint]

theorem posted_no_identifiers : ((posted intent).l2vni = 0 ∧ (posted intent).l3vni = 0 ∧ (posted intent).rdRt = none) ↔
    NoIdentifiers intent := by
  simp [NoIdentifiers, no_number_iff]

theorem unsupported_nil_iff (u : Schemas.UnsupportedClaims) : unsupportedCauses (wireUnsupported u) = [] ↔ u.present = [] := by
  simp [unsupportedCauses, wireUnsupported, Schemas.UnsupportedClaims.present]

-- The gateway of a bridged service has an address.
def GatewayAddressed : Prop := ∀ gateway ∈ intent.anycastGateway, gateway.gatewayIPv4 ≠ "" ∨ gateway.gatewayIPv6 ≠ ""

theorem posted_vlan_service_nil_iff (endpoints : intent.endpoints ≠ []) :
    vlanServiceCauses (posted intent) = [] ↔ VLANShape intent := by
  have vlans := posted_vlan_causes intent "vlan"
  have identifiers := posted_no_identifiers intent
  simp only [posted_l2vni, posted_l3vni, posted_rdRt] at identifiers
  simp only [vlanServiceCauses, List.append_eq_nil_iff, cause_if_nil_iff, posted_l2vni, posted_l3vni, posted_rdRt,
    posted_gateway, posted_endpoints, not_not, ne_eq]
  constructor
  · intro parts
    obtain ⟨⟨⟨⟨⟨⟨l2vni, l3vni⟩, rdRt⟩, gateway⟩, _⟩, shared⟩, reserved⟩ := parts
    exact ⟨identifiers.mp ⟨l2vni, l3vni, rdRt⟩, by simpa using gateway, vlans.mp ⟨shared, reserved⟩⟩
  · intro shape
    obtain ⟨l2vni, l3vni, rdRt⟩ := identifiers.mpr shape.identifiers
    obtain ⟨shared, reserved⟩ := vlans.mpr shape.vlans
    exact ⟨⟨⟨⟨⟨⟨l2vni, l3vni⟩, rdRt⟩, by simpa using shape.gateway⟩, by simpa using endpoints⟩, shared⟩, reserved⟩

theorem posted_min_endpoints : minEndpoints (posted intent) = Schemas.minEndpoints intent := by
  cases named : intent.anycastGateway with
  | none => simp [minEndpoints, Schemas.minEndpoints, named]
  | some gateway => simp [minEndpoints, Schemas.minEndpoints, named]

theorem gateway_addressed_iff (gateway : Schemas.AnycastGateway) (named : intent.anycastGateway = some gateway) :
    ¬ ((wireGateway gateway).gatewayV4 = "" ∧ (wireGateway gateway).gatewayV6 = "") ↔ GatewayAddressed intent := by
  unfold GatewayAddressed
  rw [named]
  simp [wireGateway, ← not_and_or]

theorem posted_routed_half_vxlan_iff (vxlan : intent.transport ≠ "srv6") :
    routedHalfCauses (posted intent) = [] ↔
      (intent.anycastGateway ≠ none → inL3VNIBand (intent.l3vni.getD 0)) ∧
        (intent.anycastGateway = none → noNumber intent.l3vni) ∧ GatewayAddressed intent := by
  have notSRv6 : intent.transport ≠ transportSRv6 := vxlan
  unfold routedHalfCauses
  cases named : intent.anycastGateway with
  | none =>
      simp [notSRv6, no_number_iff, GatewayAddressed, named]
  | some gateway =>
      have carried : (posted intent).anycastGateway = some (wireGateway gateway) := by rw [posted_gateway, named]; rfl
      simp only [carried, List.append_eq_nil_iff, cause_if_nil_iff, l3vniRenderableCauses, posted_l3vni, posted_transport,
        gateway_addressed_iff intent gateway named, ne_eq, notSRv6, not_false_eq_true, if_true, and_true, not_not]
      have band : (¬ intent.l3vni.getD 0 = 0) ∧ (intent.l3vni.getD 0 = 0 ∨ 10000 ≤ intent.l3vni.getD 0 ∧ intent.l3vni.getD 0 ≤ 14094) ↔
          inL3VNIBand (intent.l3vni.getD 0) := by
        unfold inL3VNIBand
        omega
      rw [band]
      simp

theorem posted_mac_vrf_vxlan_iff (construct : IsConstruct intent.type) (vxlan : intent.transport ≠ "srv6") :
    macVRFCauses (posted intent) = [] ↔ MACVRFShape intent ∧ GatewayAddressed intent := by
  have notSRv6 : intent.transport ≠ transportSRv6 := vxlan
  have pseudowire : pseudowireCauses (posted intent) = [] := by
    rw [pseudowireCauses, posted_source_type intent construct, if_neg (by decide)]
  have vlans := posted_vlan_causes intent "mac-vrf"
  simp only [macVRFCauses, List.append_eq_nil_iff, cause_if_nil_iff, pseudowire, posted_routed_half_vxlan_iff intent vxlan,
    posted_min_endpoints, posted_l2vni, posted_rdRt, posted_endpoints, posted_transport, List.length_map, notSRv6, ne_eq, not_false_eq_true, and_true, Nat.not_lt]
  constructor
  · intro parts
    obtain ⟨⟨⟨⟨⟨l2vni, rdRt⟩, reserved⟩, endpoints⟩, shared⟩, routed, bridged, addressed⟩ := parts
    have shape : MACVRFShape intent := {
      l2vni := fun absent => l2vni ((no_number_iff _).mp absent)
      rdRt := by simpa using rdRt
      endpoints := endpoints
      vlans := vlans.mp ⟨shared, reserved⟩
      routed := routed
      bridged := bridged }
    exact ⟨shape, addressed⟩
  · intro parts
    obtain ⟨shape, addressed⟩ := parts
    obtain ⟨shared, reserved⟩ := vlans.mpr shape.vlans
    exact ⟨⟨⟨⟨⟨fun zero => shape.l2vni ((no_number_iff _).mpr zero), by simpa using shape.rdRt⟩, reserved⟩, shape.endpoints⟩, shared⟩,
      shape.routed, shape.bridged, addressed⟩

theorem two_endpoints (shape : SRv6Shape intent) : intent.endpoints.length = 2 := by
  have joined := shape.twoNodes
  unfold Schemas.joinsTwoNodes at joined
  split at joined
  · rename_i a b two
    rw [two]
    rfl
  · cases joined

theorem posted_mac_vrf_srv6_iff (construct : IsConstruct intent.type) (srv6 : intent.transport = "srv6")
    (shape : SRv6Shape intent) :
    macVRFCauses (posted intent) = [] ↔ OneVLAN (vlansOf intent) ∧ GatewayAddressed intent := by
  have isSRv6 : intent.transport = transportSRv6 := srv6
  have pseudowire : pseudowireCauses (posted intent) = [] := by
    rw [pseudowireCauses, posted_source_type intent construct, if_neg (by decide)]
  have vlans := posted_vlan_causes intent "mac-vrf"
  have enough : ¬ intent.endpoints.length < Schemas.minEndpoints intent := by
    rw [two_endpoints intent shape]
    unfold Schemas.minEndpoints
    split <;> omega
  have routed : routedHalfCauses (posted intent) = [] ↔ GatewayAddressed intent := by
    unfold routedHalfCauses
    cases named : intent.anycastGateway with
    | none =>
        simp [isSRv6, GatewayAddressed, named]
    | some gateway =>
        have carried : (posted intent).anycastGateway = some (wireGateway gateway) := by rw [posted_gateway, named]; rfl
        simp only [carried, List.append_eq_nil_iff, cause_if_nil_iff, posted_transport, isSRv6, gateway_addressed_iff intent gateway named]
        simp
  simp only [macVRFCauses, List.append_eq_nil_iff, cause_if_nil_iff, pseudowire, routed, posted_min_endpoints, posted_endpoints,
    posted_transport, List.length_map, isSRv6, not_true, and_false, ne_eq, not_false_eq_true, true_and, and_true, enough]
  constructor
  · intro parts
    obtain ⟨⟨reserved, shared⟩, addressed⟩ := parts
    exact ⟨vlans.mp ⟨shared, reserved⟩, addressed⟩
  · intro parts
    obtain ⟨one, addressed⟩ := parts
    obtain ⟨shared, reserved⟩ := vlans.mpr one
    exact ⟨⟨reserved, shared⟩, addressed⟩

theorem posted_no_prefixes : noPrefixes (posted intent).addressFamilies ↔ Schemas.noPrefixes intent.addressFamilies := by
  rw [posted_families]
  cases intent.addressFamilies with
  | none => simp [noPrefixes, Schemas.noPrefixes]
  | some families => simp [noPrefixes, Schemas.noPrefixes, wireFamilies]

-- The cause that an endpoint has no VRF.
theorem vrf_causes_iff (transport : String) (endpoints : List Endpoint) :
    (endpoints.zipIdx.flatMap fun (ep, i) =>
      causeIf (ep.vrf = "" ∧ transport ≠ transportSRv6) (endpointCause i "vrf" [.lit "required for ip-vrf"])) = [] ↔
      transport = transportSRv6 ∨ ∀ ep ∈ endpoints, ¬ ep.vrf = "" := by
  by_cases srv6 : transport = transportSRv6
  · rw [zip_causes_nil_iff _ (fun _ : Endpoint => True) (fun ep i => by simp [srv6])]
    exact iff_of_true (fun _ _ => trivial) (.inl srv6)
  · rw [zip_causes_nil_iff _ (fun ep : Endpoint => ¬ ep.vrf = "") (fun ep i => by simp [srv6]), or_iff_right srv6]

theorem posted_ip_vrf_vxlan_iff (vxlan : intent.transport ≠ "srv6") (endpoints : intent.endpoints ≠ []) :
    ipVRFCauses (posted intent) = [] ↔ IPVRFShape intent := by
  have notSRv6 : intent.transport ≠ transportSRv6 := vxlan
  have vrfs := vrf_causes_iff (posted intent).transport (posted intent).endpoints
  have named : ((posted intent).transport = transportSRv6 ∨ ∀ ep ∈ (posted intent).endpoints, ¬ ep.vrf = "") ↔
      ∀ ep ∈ intent.endpoints, ¬ noText ep.vrf := by
    rw [or_iff_right (show ¬ (posted intent).transport = transportSRv6 from notSRv6)]
    simp [wireEndpoint, no_text_iff]
  rw [named] at vrfs
  have band : (¬ intent.l3vni.getD 0 = 0) ∧ (intent.l3vni.getD 0 = 0 ∨ 10000 ≤ intent.l3vni.getD 0 ∧ intent.l3vni.getD 0 ≤ 14094) ↔
      inL3VNIBand (intent.l3vni.getD 0) := by
    unfold inL3VNIBand
    omega
  simp only [ipVRFCauses, List.append_eq_nil_iff, vrfs]
  simp only [l3vniRenderableCauses, cause_if_nil_iff, posted_no_prefixes, posted_l2vni, posted_l3vni, posted_rdRt,
    posted_gateway, posted_endpoints, posted_transport, notSRv6, if_true, ne_eq, not_false_eq_true, and_true, true_and, not_not]
  constructor
  · intro parts
    obtain ⟨⟨⟨⟨⟨⟨⟨nonzero, inBand⟩, rdRt⟩, prefixes⟩, l2vni⟩, gateway⟩, _⟩, labels⟩ := parts
    exact {
      l3vni := band.mp ⟨nonzero, inBand⟩
      rdRt := by simpa using rdRt
      prefixes := prefixes
      l2vni := (no_number_iff _).mpr l2vni
      gateway := by simpa using gateway
      vrfs := labels }
  · intro shape
    obtain ⟨nonzero, inBand⟩ := band.mpr shape.l3vni
    exact ⟨⟨⟨⟨⟨⟨⟨nonzero, inBand⟩, by simpa using shape.rdRt⟩, shape.prefixes⟩, (no_number_iff _).mp shape.l2vni⟩,
      by simpa using shape.gateway⟩, by simpa using endpoints⟩, shape.vrfs⟩

theorem posted_ip_vrf_srv6_iff (srv6 : intent.transport = "srv6") (endpoints : intent.endpoints ≠ []) :
    ipVRFCauses (posted intent) = [] ↔ intent.anycastGateway = none := by
  have isSRv6 : intent.transport = transportSRv6 := srv6
  have vrfs := (vrf_causes_iff (posted intent).transport (posted intent).endpoints).mpr (.inl isSRv6)
  simp only [ipVRFCauses, List.append_eq_nil_iff, vrfs]
  simp [isSRv6, endpoints]

theorem posted_acl_service_iff (endpoints : intent.endpoints ≠ []) :
    aclServiceCauses (posted intent) = [] ↔ intent.acl ≠ none ∧ NoIdentifiers intent ∧ intent.anycastGateway = none := by
  simp only [aclServiceCauses, List.append_eq_nil_iff, cause_if_nil_iff, posted_l2vni, posted_l3vni, posted_rdRt, posted_gateway,
    posted_endpoints, posted_acl]
  simp [NoIdentifiers, no_number_iff, endpoints, and_assoc]

end Services

end AgenticNetops.Migration
