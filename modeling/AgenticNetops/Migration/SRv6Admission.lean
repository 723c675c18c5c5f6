import AgenticNetops.Api.Admission
import AgenticNetops.Migration.Translate

set_option autoImplicit false

/- From the rules of the validator to the rules of the API server: which validated srv6
   inputs become an SRv6Service that the server admits. -/
namespace AgenticNetops.Migration

open GoText Causes

-- What the validator's rules leave of an srv6 input.
structure ValidSRv6 (input : ServiceInput) : Prop where
  construct : input.type = serviceMACVRF ∨ input.type = serviceIPVRF
  twoNodes : ∃ a b, input.endpoints = [a, b] ∧ a.node ≠ b.node
  bridged : ¬ (input.type = serviceMACVRF ∧ input.signalling = signallingVPN)
  oneVLAN : input.type = serviceMACVRF → ∃ shared, shared ≠ 0 ∧ shared ≤ 4000 ∧ ∀ ep ∈ input.endpoints, ep.vlan = shared
  noGateway : input.type = serviceIPVRF → input.anycastGateway = none

section Valid
variable (site : Option SiteInventory) (input : ServiceInput) (dupServiceID : Bool)

theorem valid_construct (service : input.type ≠ serviceVLAN ∧ input.type ≠ serviceACL)
    (accepted : constructCauses input = []) : input.type = serviceMACVRF ∨ input.type = serviceIPVRF := by
  unfold constructCauses at accepted
  by_cases mac : input.type = serviceMACVRF
  · exact .inl mac
  · by_cases ip : input.type = serviceIPVRF
    · exact .inr ip
    · rw [if_neg service.1, if_neg mac, if_neg ip, if_neg service.2] at accepted
      cases accepted

theorem valid_mac_vrf (mac : input.type = serviceMACVRF) (accepted : constructCauses input = []) :
    ∃ shared, shared ≠ 0 ∧ (∀ ep ∈ input.endpoints, ep.vlan ≤ 4000) ∧ ∀ ep ∈ input.endpoints, ep.vlan = shared := by
  unfold constructCauses at accepted
  rw [if_neg (by rw [mac]; decide), if_pos mac] at accepted
  simp only [macVRFCauses, List.append_eq_nil_iff, reserved_vlan_causes_nil_iff, endpoint_vlan_causes_nil_iff] at accepted
  obtain ⟨⟨⟨⟨⟨_, reserved⟩, _⟩, shared, named, same⟩, _⟩, _⟩ := accepted
  exact ⟨shared, named, reserved, same⟩

theorem valid_ip_vrf (ip : input.type = serviceIPVRF) (accepted : constructCauses input = []) :
    input.anycastGateway = none := by
  unfold constructCauses at accepted
  rw [if_neg (by rw [ip]; decide), if_neg (by rw [ip]; decide), if_pos ip] at accepted
  simp only [ipVRFCauses, List.append_eq_nil_iff, cause_if_nil_iff] at accepted
  exact not_not.mp accepted.1.1.2

theorem valid_srv6 (srv6 : input.transport = transportSRv6) (accepted : canonicalCauses site input dupServiceID = []) :
    ValidSRv6 input := by
  simp only [canonicalCauses, List.append_eq_nil_iff] at accepted
  obtain ⟨⟨⟨⟨⟨_, transport⟩, _⟩, construct⟩, _⟩, _⟩ := accepted
  have notVXLAN : ¬ (input.transport = "" ∨ input.transport = transportVXLAN) := by rw [srv6]; decide
  unfold transportCauses at transport
  rw [if_neg notVXLAN, if_pos srv6] at transport
  simp only [List.append_eq_nil_iff, cause_if_nil_iff, not_or, Bool.not_eq_true, Bool.not_eq_false] at transport
  obtain ⟨⟨⟨⟨service, _⟩, bridged⟩, joined⟩, _⟩ := transport
  have construct' := valid_construct input service construct
  obtain ⟨a, b, two, apart⟩ := (joins_two_nodes_iff input.endpoints).mp joined
  exact {
    construct := construct'
    twoNodes := ⟨a, b, two, apart⟩
    bridged := bridged
    oneVLAN := by
      intro mac
      obtain ⟨shared, named, reserved, same⟩ := valid_mac_vrf input mac construct
      have first : a ∈ input.endpoints := by rw [two]; exact List.mem_cons_self
      have bounded := reserved a first
      rw [same a first] at bounded
      exact ⟨shared, named, bounded, same⟩
    noGateway := fun ip => valid_ip_vrf input ip construct }

end Valid

-- The emitted object as the API server reads it: what is zero or empty was left out.
def SRv6ServiceSpec.received (spec : SRv6ServiceSpec) : Api.SRv6ServiceSpec :=
  { tenant := spec.tenant
    construct := spec.construct
    signalling := spec.signalling
    attachments := spec.attachments.map fun a => { node := a.node, port := a.port, gateway := a.gateway }
    vlan := if spec.vlan = 0 then none else some spec.vlan
    path := { preferredSpine := (spec.path.map SRv6Path.preferredSpine).getD "" } }

-- An endpoint whose attachment the server admits.
structure AdmissibleEndpoint (ep : Endpoint) : Prop where
  node : ep.node ≠ ""
  attachment : ep.attachment ≠ ""
  few : ep.prefixes.length ≤ 4
  prefixes : ∀ g ∈ ep.prefixes, Api.isGatewayPrefix g ∧ g.length ≤ 45

/- What the validator leaves unchecked of an input, and the schema does not: the word
   for the signalling, empty names, the prefixes of an endpoint, and the sign of a vlan. -/
structure AdmissibleInput (input : ServiceInput) : Prop where
  signalling : input.signalling = "" ∨ input.signalling = signallingVPN ∨ input.signalling = signallingEVPN
  endpoints : ∀ ep ∈ input.endpoints, AdmissibleEndpoint ep
  prefixes : input.type = serviceIPVRF → ∀ ep ∈ input.endpoints, ep.prefixes ≠ []
  vlan : input.type = serviceMACVRF → ∀ ep ∈ input.endpoints, 0 < ep.vlan

section Admission
variable (input : ServiceInput)

theorem received_signalling :
    (signallingOf input = "" ∨ signallingOf input = Api.signallingVPN ∨ signallingOf input = Api.signallingEVPN) ↔
      (input.signalling = "" ∨ input.signalling = signallingVPN ∨ input.signalling = signallingEVPN) := by
  unfold signallingOf
  by_cases named : input.signalling = ""
  · by_cases mac : input.type = serviceMACVRF
    · simp [named, mac, signallingEVPN, Api.signallingEVPN]
    · simp [named, mac, signallingVPN, Api.signallingVPN]
  · rw [if_pos named]
    rfl

theorem received_attachment (ep : Endpoint) :
    Api.AdmittedAttachment { node := ep.node, port := ep.attachment, gateway := ep.prefixes } ↔ AdmissibleEndpoint ep := by
  constructor
  · intro admitted
    exact ⟨admitted.node, admitted.port, admitted.few,
      fun g member => ⟨(admitted.prefixes g member).1, (admitted.prefixes g member).2.2⟩⟩
  · intro admissible
    have shaped (g : String) (member : g ∈ ep.prefixes) := admissible.prefixes g member
    exact ⟨admissible.node, admissible.attachment, admissible.few,
      fun g member => ⟨(shaped g member).1, Api.gateway_prefix_length g (shaped g member).1, (shaped g member).2⟩⟩

theorem spec_admitted_iff (valid : ValidSRv6 input) (label : Api.isDNSLabel input.tenant) (short : input.tenant.length ≤ 63) :
    Api.Admitted (srv6Spec input).received ↔ AdmissibleInput input := by
  obtain ⟨a, b, two, apart⟩ := valid.twoNodes
  constructor
  · intro admitted
    have attachments (ep : Endpoint) (member : ep ∈ input.endpoints) : AdmissibleEndpoint ep := by
      apply (received_attachment ep).mp
      apply admitted.attachments
      simp only [SRv6ServiceSpec.received, srv6Spec, List.map_map]
      exact List.mem_map.mpr ⟨ep, member, rfl⟩
    exact {
      signalling := (received_signalling input).mp admitted.signalling
      endpoints := attachments
      prefixes := by
        intro ip ep member
        apply admitted.gateways ip { node := ep.node, port := ep.attachment, gateway := ep.prefixes }
        simp only [SRv6ServiceSpec.received, srv6Spec, List.map_map]
        exact List.mem_map.mpr ⟨ep, member, rfl⟩
      vlan := by
        intro mac ep member
        obtain ⟨shared, named, _, same⟩ := valid.oneVLAN mac
        have first : a.vlan = shared := same a (by rw [two]; exact List.mem_cons_self)
        have carried : (srv6Spec input).received.vlan = some shared := by
          simp [SRv6ServiceSpec.received, srv6Spec, mac, two, endpointVLAN, first, named]
        have bound := admitted.vlanBound shared carried
        rw [same ep member]
        omega }
  · intro admissible
    have vlan (mac : input.type = serviceMACVRF) :
        ∃ shared, (srv6Spec input).received.vlan = some shared ∧ 1 ≤ shared ∧ shared ≤ 4094 := by
      obtain ⟨shared, named, small, same⟩ := valid.oneVLAN mac
      have here : a ∈ input.endpoints := by rw [two]; exact List.mem_cons_self
      have first : a.vlan = shared := same a here
      have positive := admissible.vlan mac a here
      have carried : (srv6Spec input).received.vlan = some shared := by
        simp [SRv6ServiceSpec.received, srv6Spec, mac, two, endpointVLAN, first, named]
      exact ⟨shared, carried, by omega, by omega⟩
    have noVLAN (other : input.type ≠ serviceMACVRF) : (srv6Spec input).received.vlan = none := by
      simp [SRv6ServiceSpec.received, srv6Spec, other]
    exact {
      tenant := ⟨label, short⟩
      construct := valid.construct.symm
      signalling := (received_signalling input).mpr admissible.signalling
      bridged := by
        intro parts
        obtain ⟨mac, vpn⟩ := parts
        have isMAC : input.type = serviceMACVRF := mac
        have isVPN : signallingOf input = signallingVPN := vpn
        unfold signallingOf at isVPN
        by_cases named : input.signalling = ""
        · simp [named, isMAC, signallingEVPN, signallingVPN] at isVPN
        · rw [if_pos named] at isVPN
          exact valid.bridged ⟨isMAC, isVPN⟩
      twoNodes := by
        simp only [SRv6ServiceSpec.received, srv6Spec, two, List.map_cons, List.map_nil]
        exact ⟨_, _, rfl, apart⟩
      attachments := by
        intro attachment member
        simp only [SRv6ServiceSpec.received, srv6Spec, List.map_map] at member
        obtain ⟨ep, listed, same⟩ := List.mem_map.mp member
        rw [← same]
        exact (received_attachment ep).mpr (admissible.endpoints ep listed)
      vlan := by
        constructor
        · intro parts
          obtain ⟨number, carried, _⟩ := parts
          by_contra other
          rw [noVLAN other] at carried
          cases carried
        · intro mac
          obtain ⟨shared, carried, bounds⟩ := vlan mac
          exact ⟨shared, carried, bounds⟩
      vlanBound := by
        intro number carried
        by_cases mac : input.type = serviceMACVRF
        · obtain ⟨shared, same, bounds⟩ := vlan mac
          rw [same] at carried
          cases carried
          exact bounds
        · rw [noVLAN mac] at carried
          cases carried
      gateways := by
        intro ip attachment member
        simp only [SRv6ServiceSpec.received, srv6Spec, List.map_map] at member
        obtain ⟨ep, listed, same⟩ := List.mem_map.mp member
        rw [← same]
        exact admissible.prefixes ip ep listed
      spines := fun _ other => absurd rfl other }

end Admission

-- Translating gives an SRv6Service, and the API server admits it.
def TranslatesAdmitted (canonicalHash : ServiceInput → String) (input : ServiceInput) : Prop :=
  ∃ bundle service, translate canonicalHash input = .ok bundle ∧ bundle.manifest = .srv6Service service ∧
    Api.Admitted service.spec.received

def labRoutedService : ServiceInput :=
  { serviceID := "vpn-1", type := "ip-vrf", tenant := "acme", transport := "srv6"
    endpoints := [{ node := "leaf01", attachment := "wan1", prefixes := ["10.1.0.1/24"] },
      { node := "leaf02", attachment := "wan1", prefixes := ["10.2.0.1/24"] }] }

end AgenticNetops.Migration
