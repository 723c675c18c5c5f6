import AgenticNetops.Migration.Posted

set_option autoImplicit false

/- The two validators at the two ends of the wire: which intents the one accepts and the
   other refuses. -/
namespace AgenticNetops.Migration

open GoText Causes Schemas

-- The document that the deployer posts decodes to one input, and that input is valid.
def TranslatorAccepts (intent : NormalizedServiceIntent) : Prop :=
  ∃ input, parseStrictBatch intent.dump = some [input] ∧ validateAllOrNothing none input false = []

/- The rules that the intent's own validation does not have: an integer of 64 bits, a
   protocol that is a text, and the access list of every construct, with the rule for the
   gateways and the vlans that a service over srv6 carries. -/
structure TranslatorOnly (intent : NormalizedServiceIntent) : Prop where
  l2vni : FitsInt intent.l2vni
  protocols : ∀ a ∈ intent.acl, ∀ r ∈ a.rules.getD [], Named r.protocol
  filter : ∀ a ∈ intent.acl, AcceptedACL (wireACL a).canonicalize
  filterPresent : intent.type = "acl" → intent.acl ≠ none
  addressed : intent.type = "mac-vrf" → GatewayAddressed intent
  routed : isSRv6 intent → intent.type = "ip-vrf" → intent.anycastGateway = none
  bridged : isSRv6 intent → intent.type = "mac-vrf" → OneVLAN (vlansOf intent)

section Wire
variable (intent : NormalizedServiceIntent)

theorem translator_accepts_iff : TranslatorAccepts intent ↔ Fits intent ∧ canonicalCauses none (posted intent) false = [] := by
  have again : (posted intent).canonicalize = posted intent := canonicalize_again (wire intent)
  unfold TranslatorAccepts
  rw [parse_intent]
  by_cases fits : Fits intent
  · rw [if_pos fits]
    constructor
    · intro parts
      obtain ⟨input, same, valid⟩ := parts
      cases same
      rw [validateAllOrNothing] at valid
      change canonicalCauses none (posted intent).canonicalize false = [] at valid
      rw [again] at valid
      exact ⟨fits, valid⟩
    · intro parts
      obtain ⟨_, valid⟩ := parts
      refine ⟨posted intent, rfl, ?_⟩
      rw [validateAllOrNothing, again]
      exact valid
  · rw [if_neg fits]
    constructor
    · intro parts
      obtain ⟨input, same, _⟩ := parts
      cases same
    · intro parts
      obtain ⟨holds, _⟩ := parts
      exact absurd holds fits

theorem no_number_fits (value : Option Int) (absent : noNumber value) : FitsInt value := by
  intro n named
  obtain none | zero := absent
  · rw [none] at named
    cases named
  · rw [zero] at named
    cases named
    omega

theorem in_band_fits (value : Option Int) (band : inL3VNIBand (value.getD 0)) : FitsInt value := by
  intro n named
  have same : value = some n := named
  rw [same] at band
  obtain ⟨low, high⟩ := band
  simp only [Option.getD_some] at low high
  omega

theorem shared_l3vni_fits (construct : IsConstruct intent.type) (shared : Shared intent) : FitsInt intent.l3vni := by
  by_cases srv6 : isSRv6 intent
  · exact no_number_fits _ (shared.srv6 srv6).identifiers.2.1
  · obtain isVLAN | isMAC | isIP | isACL := construct
    · exact no_number_fits _ (shared.vlan srv6 isVLAN).identifiers.2.1
    · have shape := shared.macVRF srv6 isMAC
      by_cases gateway : intent.anycastGateway = none
      · exact no_number_fits _ (shape.bridged gateway)
      · exact in_band_fits _ (shape.routed gateway)
    · exact in_band_fits _ (shared.ipVRF srv6 isIP).l3vni
    · exact no_number_fits _ (shared.acl srv6 isACL).identifiers.2.1

theorem shared_fits_iff (wellFormed : WellFormed intent) (construct : IsConstruct intent.type) (shared : Shared intent) :
    Fits intent ↔ FitsInt intent.l2vni ∧ ∀ a ∈ intent.acl, ∀ r ∈ a.rules.getD [], Named r.protocol := by
  constructor
  · intro parts
    obtain ⟨l2vni, _, filter, _⟩ := parts
    exact ⟨l2vni, fun a carried r member => (filter a carried r member).2⟩
  · intro parts
    obtain ⟨l2vni, named⟩ := parts
    refine ⟨l2vni, shared_l3vni_fits intent construct shared, ?_, ?_⟩
    · intro a carried r member
      obtain ⟨_, low, high⟩ := wellFormed.rules a carried r member
      refine ⟨?_, named a carried r member⟩
      intro n same
      cases same
      omega
    · intro ep member n same
      obtain ⟨low, high⟩ := (wellFormed.endpoints ep member).2.2 n same
      omega

end Wire

section Verdict
variable (intent : NormalizedServiceIntent) (wellFormed : WellFormed intent) (construct : IsConstruct intent.type)

theorem posted_filter_nil_iff :
    (posted intent).acl.elim [] aclCauses = [] ↔ ∀ a ∈ intent.acl, AcceptedACL (wireACL a).canonicalize := by
  rw [posted_acl]
  cases intent.acl with
  | none => simp
  | some a => simp [acl_causes_nil_iff]

-- What the posted document must have at both ends, taken apart.
structure PostedRules : Prop where
  supported : intent.claims.present = []
  transport : transportCauses none (posted intent) = []
  endpoints : intent.endpoints ≠ []
  service : constructCauses (posted intent) = []
  filter : ∀ a ∈ intent.acl, AcceptedACL (wireACL a).canonicalize

include wellFormed construct in
theorem posted_nil_iff : canonicalCauses none (posted intent) false = [] ↔ PostedRules intent := by
  have named : (posted intent).type ≠ "" := by
    rw [posted_type intent construct]
    obtain isType | isType | isType | isType := construct
    all_goals
      rw [isType]
      decide
  simp only [canonicalCauses, List.append_eq_nil_iff, cause_if_nil_iff, posted_service_id, posted_tenant, wellFormed.serviceID,
    wellFormed.tenant, named, posted_unsupported, unsupported_nil_iff, posted_filter_nil_iff, validateEndpoints,
    posted_endpoints, List.map_eq_nil_iff]
  constructor
  · intro parts
    obtain ⟨⟨⟨⟨⟨⟨_, supported⟩, transport⟩, endpoints⟩, service⟩, filter⟩, _⟩ := parts
    exact ⟨supported, transport, endpoints, service, filter⟩
  · intro rules
    exact ⟨⟨⟨⟨⟨⟨⟨⟨⟨fun other => other, fun other => other⟩, fun other => other⟩, Bool.false_ne_true⟩, rules.supported⟩,
      rules.transport⟩, rules.endpoints⟩, rules.service⟩, rules.filter⟩, trivial⟩

include construct in
theorem posted_construct : constructCauses (posted intent) =
    if intent.type = "vlan" then vlanServiceCauses (posted intent)
    else if intent.type = "mac-vrf" then macVRFCauses (posted intent)
    else if intent.type = "ip-vrf" then ipVRFCauses (posted intent)
    else aclServiceCauses (posted intent) := by
  have type := posted_type intent construct
  obtain isType | isType | isType | isType := construct
  all_goals
    rw [isType] at type
    simp [constructCauses, type, isType, serviceVLAN, serviceMACVRF, serviceIPVRF, serviceACL]

theorem posted_plain_nil_iff (plain : intent.transport = "" ∨ intent.transport = "vxlan")
    (supported : intent.claims.present = []) :
    transportCauses none (posted intent) = [] ↔ noText intent.signalling ∧ noText intent.preferredSpine := by
  have policy : (wireUnsupported intent.claims).tePolicy = false := no_te_policy intent supported
  have vxlan : (posted intent).transport = "" ∨ (posted intent).transport = transportVXLAN := by
    rw [posted_transport]
    exact plain
  rw [transportCauses, if_pos vxlan]
  simp [policy, no_text_iff]

theorem posted_joins_two_nodes (named : ∀ ep ∈ intent.endpoints, ep.node ≠ "") :
    joinsTwoNodes (posted intent).endpoints = Schemas.joinsTwoNodes intent.endpoints := by
  rw [posted_endpoints]
  unfold joinsTwoNodes Schemas.joinsTwoNodes
  match intent.endpoints, named with
  | [], _ => rfl
  | [_], _ => rfl
  | [a, b], named =>
      have first := named a List.mem_cons_self
      simp [wireEndpoint, first]
  | _ :: _ :: _ :: _, _ => rfl

include wellFormed construct in
theorem posted_srv6_nil_iff (srv6 : isSRv6 intent) : transportCauses none (posted intent) = [] ↔ SRv6Shape intent := by
  have transport : intent.transport = transportSRv6 := srv6
  have notVXLAN : ¬ (intent.transport = "" ∨ intent.transport = transportVXLAN) := by
    rw [transport]
    decide
  have type := posted_type intent construct
  have joined := posted_joins_two_nodes intent fun ep member => (wellFormed.endpoints ep member).1
  have identifiers := posted_no_identifiers intent
  have service : (¬ (intent.type = serviceVLAN ∨ intent.type = serviceACL)) ↔ intent.type = "ip-vrf" ∨ intent.type = "mac-vrf" := by
    obtain isType | isType | isType | isType := construct
    all_goals
      rw [isType]
      decide
  have vpn : intent.signalling.getD "" = signallingVPN ↔ intent.signalling = some "vpn" := by
    cases intent.signalling with
    | none => simp [signallingVPN]
    | some word => simp [signallingVPN]
  have spines : (if intent.preferredSpine.getD "" ≠ "" ∧ ¬ (wireUnsupported intent.claims).tePolicy then
      spineCauses none (posted intent) else []) = [] := by
    split <;> rfl
  rw [transportCauses, posted_transport, if_neg notVXLAN, if_pos transport, posted_signalling, posted_spine, posted_unsupported,
    spines, joined, type]
  simp only [List.append_eq_nil_iff, cause_if_nil_iff, service, vpn, not_or, not_not, and_true, ne_eq]
  constructor
  · intro parts
    obtain ⟨⟨⟨isService, l2vni, l3vni, rdRt⟩, bridged⟩, twoNodes⟩ := parts
    exact ⟨isService, identifiers.mp ⟨l2vni, l3vni, rdRt⟩, bridged, twoNodes⟩
  · intro shape
    obtain ⟨l2vni, l3vni, rdRt⟩ := identifiers.mpr shape.identifiers
    exact ⟨⟨⟨shape.construct, l2vni, l3vni, rdRt⟩, shape.bridged⟩, shape.twoNodes⟩

theorem posted_unknown_transport (other : intent.transport ≠ "" ∧ intent.transport ≠ "vxlan" ∧ intent.transport ≠ "srv6") :
    transportCauses none (posted intent) ≠ [] := by
  have notVXLAN : ¬ (intent.transport = "" ∨ intent.transport = transportVXLAN) := not_or.mpr ⟨other.1, other.2.1⟩
  have notSRv6 : ¬ intent.transport = transportSRv6 := other.2.2
  rw [transportCauses, posted_transport, if_neg notVXLAN, if_neg notSRv6]
  exact List.cons_ne_nil _ _

-- What the translator wants of an access list includes what the intent's own validation wants.
theorem shaped_of_accepted (a : Schemas.ACL) (accepted : AcceptedACL (wireACL a).canonicalize) : ShapedACL a := by
  have stage : a.stage ≠ none := by
    intro absent
    have known := accepted.stage
    simp only [ACL.canonicalize, wireACL, absent, Option.map_none, Option.getD_none] at known
    revert known
    decide +kernel
  have type : a.type ≠ none := by
    intro absent
    have known := accepted.type
    simp only [ACL.canonicalize, wireACL, absent, Option.map_none, Option.getD_none] at known
    revert known
    decide +kernel
  have bindTo : noText a.bindTo ∨ a.bindTo = some "port" := by
    have bound := accepted.bindTo
    simp only [ACL.canonicalize, wireACL] at bound
    cases named : a.bindTo with
    | none => exact .inl (.inl rfl)
    | some word =>
        rw [named, Option.getD_some] at bound
        exact bound.imp (fun empty => .inr (congrArg some empty)) (congrArg some)
  have rules : a.rules.getD [] ≠ [] := by
    intro empty
    apply accepted.rules
    simp only [ACL.canonicalize, wireACL, empty, List.map_nil]
  have names := accepted.distinctNames
  have priorities := accepted.distinctPriorities
  simp only [ACL.canonicalize, wireACL, List.map_map] at names priorities
  exact ⟨stage, type, bindTo, rules, names, priorities⟩

include construct in
theorem posted_service_vxlan_iff (vxlan : ¬ isSRv6 intent) (endpoints : intent.endpoints ≠ []) :
    constructCauses (posted intent) = [] ↔
      (intent.type = "vlan" → VLANShape intent) ∧
        (intent.type = "mac-vrf" → MACVRFShape intent ∧ GatewayAddressed intent) ∧
        (intent.type = "ip-vrf" → IPVRFShape intent) ∧
        (intent.type = "acl" → intent.acl ≠ none ∧ NoIdentifiers intent ∧ intent.anycastGateway = none) := by
  rw [posted_construct intent construct]
  have macVRF := posted_mac_vrf_vxlan_iff intent construct vxlan
  have type := construct
  obtain isType | isType | isType | isType := type
  · simp [isType, posted_vlan_service_nil_iff intent endpoints]
  · rw [if_neg (by rw [isType]; decide), if_pos isType, macVRF]
    simp [isType]
  · simp [isType, posted_ip_vrf_vxlan_iff intent vxlan endpoints]
  · rw [if_neg (by rw [isType]; decide), if_neg (by rw [isType]; decide), if_neg (by rw [isType]; decide),
      posted_acl_service_iff intent endpoints]
    simp [isType]

include construct in
theorem posted_service_srv6_iff (srv6 : isSRv6 intent) (shape : SRv6Shape intent) (endpoints : intent.endpoints ≠ []) :
    constructCauses (posted intent) = [] ↔
      (intent.type = "mac-vrf" → OneVLAN (vlansOf intent) ∧ GatewayAddressed intent) ∧
        (intent.type = "ip-vrf" → intent.anycastGateway = none) := by
  rw [posted_construct intent construct]
  obtain isIP | isMAC := shape.construct
  · simp [isIP, posted_ip_vrf_srv6_iff intent srv6 endpoints]
  · rw [if_neg (by rw [isMAC]; decide), if_pos isMAC, posted_mac_vrf_srv6_iff intent construct srv6 shape]
    simp [isMAC]

include wellFormed construct in
theorem posted_rules_hold (rules : PostedRules intent) (fits : Fits intent) : Shared intent ∧ TranslatorOnly intent := by
  have named : ∀ a ∈ intent.acl, ∀ r ∈ a.rules.getD [], Named r.protocol :=
    fun a carried r member => (fits.2.2.1 a carried r member).2
  by_cases srv6 : isSRv6 intent
  · have shape := (posted_srv6_nil_iff intent wellFormed construct srv6).mp rules.transport
    obtain ⟨macVRF, ipVRF⟩ := (posted_service_srv6_iff intent construct srv6 shape rules.endpoints).mp rules.service
    have shared : Shared intent := {
      supported := rules.supported
      endpoints := rules.endpoints
      transport := .inr (.inr srv6)
      plain := fun other => absurd srv6 other
      vlan := fun other => absurd srv6 other
      macVRF := fun other => absurd srv6 other
      ipVRF := fun other => absurd srv6 other
      acl := fun other => absurd srv6 other
      srv6 := fun _ => shape }
    have own : TranslatorOnly intent := {
      l2vni := fits.1
      protocols := named
      filter := rules.filter
      filterPresent := by
        intro isACL
        have service := shape.construct
        rw [isACL] at service
        simp at service
      addressed := fun isMAC => (macVRF isMAC).2
      routed := fun _ => ipVRF
      bridged := fun _ isMAC => (macVRF isMAC).1 }
    exact ⟨shared, own⟩
  · have plain : intent.transport = "" ∨ intent.transport = "vxlan" := by
      by_contra other
      obtain ⟨empty, vxlan⟩ := not_or.mp other
      exact posted_unknown_transport intent ⟨empty, vxlan, srv6⟩ rules.transport
    obtain ⟨vlan, macVRF, ipVRF, acl⟩ := (posted_service_vxlan_iff intent construct srv6 rules.endpoints).mp rules.service
    have shared : Shared intent := {
      supported := rules.supported
      endpoints := rules.endpoints
      transport := plain.imp_right .inl
      plain := fun _ => (posted_plain_nil_iff intent plain rules.supported).mp rules.transport
      vlan := fun _ => vlan
      macVRF := fun _ isMAC => (macVRF isMAC).1
      ipVRF := fun _ => ipVRF
      acl := fun _ isACL =>
        ⟨(acl isACL).2.1, (acl isACL).2.2, fun a carried => shaped_of_accepted a (rules.filter a carried)⟩
      srv6 := fun other => absurd other srv6 }
    have own : TranslatorOnly intent := {
      l2vni := fits.1
      protocols := named
      filter := rules.filter
      filterPresent := fun isACL => (acl isACL).1
      addressed := fun isMAC => (macVRF isMAC).2
      routed := fun other => absurd other srv6
      bridged := fun other => absurd other srv6 }
    exact ⟨shared, own⟩

include wellFormed construct in
theorem posted_rules_of (shared : Shared intent) (own : TranslatorOnly intent) : PostedRules intent := by
  by_cases srv6 : isSRv6 intent
  · have shape := shared.srv6 srv6
    exact {
      supported := shared.supported
      transport := (posted_srv6_nil_iff intent wellFormed construct srv6).mpr shape
      endpoints := shared.endpoints
      service := (posted_service_srv6_iff intent construct srv6 shape shared.endpoints).mpr
        ⟨fun isMAC => ⟨own.bridged srv6 isMAC, own.addressed isMAC⟩, own.routed srv6⟩
      filter := own.filter }
  · have plain : intent.transport = "" ∨ intent.transport = "vxlan" := by
      obtain empty | vxlan | other := shared.transport
      · exact .inl empty
      · exact .inr vxlan
      · exact absurd other srv6
    exact {
      supported := shared.supported
      transport := (posted_plain_nil_iff intent plain shared.supported).mpr (shared.plain srv6)
      endpoints := shared.endpoints
      service := (posted_service_vxlan_iff intent construct srv6 shared.endpoints).mpr
        ⟨shared.vlan srv6, fun isMAC => ⟨shared.macVRF srv6 isMAC, own.addressed isMAC⟩, shared.ipVRF srv6,
          fun isACL => ⟨own.filterPresent isACL, (shared.acl srv6 isACL).identifiers, (shared.acl srv6 isACL).gateway⟩⟩
      filter := own.filter }

include wellFormed construct in
theorem translator_accepts_shared_iff : TranslatorAccepts intent ↔ Shared intent ∧ TranslatorOnly intent := by
  rw [translator_accepts_iff, posted_nil_iff intent wellFormed construct]
  constructor
  · intro parts
    obtain ⟨fits, rules⟩ := parts
    exact posted_rules_hold intent wellFormed construct rules fits
  · intro parts
    obtain ⟨shared, own⟩ := parts
    have fits := (shared_fits_iff intent wellFormed construct shared).mpr ⟨own.l2vni, own.protocols⟩
    exact ⟨fits, posted_rules_of intent wellFormed construct shared own⟩

end Verdict

def labVLANIntent : NormalizedServiceIntent :=
  { serviceID := "vlan-1", type := "vlan", tenant := "acme"
    endpoints := [{ node := "leaf01", attachment := "wan1", vlan := some 120 }] }

def filteredVLANIntent : NormalizedServiceIntent :=
  { labVLANIntent with
    acl := some { stage := some .ingress, type := some .l3,
                  rules := some [{ name := "web", priority := 100, action := .permit, destinationPort := some "80" }] } }

end AgenticNetops.Migration
