import AgenticNetops.Schemas.Validation

set_option autoImplicit false

/- What validate_all_or_nothing lets through where no spines are configured. The rules
   are kept in two groups: those that the translator has as well, and those of its own. -/
namespace AgenticNetops.Schemas

open GoText PyText Causes

-- A value that pydantic builds: the bounds on its fields hold.
structure WellFormed (intent : NormalizedServiceIntent) : Prop where
  serviceID : intent.serviceID ≠ ""
  tenant : intent.tenant ≠ ""
  l2vni : ∀ vni ∈ intent.l2vni, 1 ≤ vni
  l3vni : ∀ vni ∈ intent.l3vni, 1 ≤ vni
  endpoints : ∀ ep ∈ intent.endpoints, ep.node ≠ "" ∧ ep.attachment ≠ "" ∧ ∀ vlan ∈ ep.vlan, 1 ≤ vlan ∧ vlan ≤ 4094
  rd : ∀ rdRt ∈ intent.rdRt, rdRt.rd ≠ ""
  rules : ∀ a ∈ intent.acl, ∀ r ∈ a.rules.getD [], r.name ≠ "" ∧ 2 ≤ r.priority ∧ r.priority ≤ 65535

section Rules
variable (decimalDigit : Char → Option Nat)

def AcceptedProtocol (protocol : Option Protocol) : Prop :=
  (protocolText protocol = "" ∨ protocolText protocol ∈ protocolWords ∨
    ∃ n ∈ PyText.int decimalDigit (protocolText protocol), 0 ≤ n ∧ n ≤ 255) ∧
  protocolText protocol ∉ ["icmpv6", "ipv6-icmp"]

def AcceptedPrefix (type : Option ACLType) (pfx : Option String) : Prop :=
  noText pfx ∨ ∃ net ∈ IPNetwork.ipNetwork (pfx.getD ""),
    (type = some .l3 → net.version = .v4) ∧ (type = some .l3v6 → net.version = .v6)

def AcceptedPort (protocol : Option Protocol) (port : Option String) : Prop :=
  noText port ∨ protocolText protocol ∈ ["tcp", "udp"] ∧
    match splitDash (port.getD "") with
    | (_, none) => numberUpTo decimalDigit 65535 (port.getD "") ≠ none
    | (lo, some hi) => ∃ first ∈ numberUpTo decimalDigit 65535 (strip lo),
        ∃ last ∈ numberUpTo decimalDigit 65535 (strip hi), first ≤ last

structure AcceptedTexts (type : Option ACLType) (r : ACLRule) : Prop where
  protocol : AcceptedProtocol decimalDigit r.protocol
  sourcePrefix : AcceptedPrefix type r.sourcePrefix
  destinationPrefix : AcceptedPrefix type r.destinationPrefix
  sourcePort : AcceptedPort decimalDigit r.protocol r.sourcePort
  destinationPort : AcceptedPort decimalDigit r.protocol r.destinationPort

-- An access list but for what its rules match.
structure ShapedACL (a : ACL) : Prop where
  stage : a.stage ≠ none
  type : a.type ≠ none
  bindTo : noText a.bindTo ∨ a.bindTo = some "port"
  rules : a.rules.getD [] ≠ []
  distinctNames : ((a.rules.getD []).map ACLRule.name).Nodup
  distinctPriorities : ((a.rules.getD []).map ACLRule.priority).Nodup

theorem no_text_iff (text : Option String) : noText text ↔ text.getD "" = "" := by
  cases text with
  | none => simp [noText]
  | some value => simp [noText]

theorem no_number_iff (value : Option Int) : noNumber value ↔ value.getD 0 = 0 := by
  cases value with
  | none => simp [noNumber]
  | some number => simp [noNumber]

theorem number_up_to_none_iff (bound : Int) (text : String) :
    numberUpTo decimalDigit bound text = none ↔ ¬ ∃ n ∈ PyText.int decimalDigit text, 0 ≤ n ∧ n ≤ bound := by
  unfold numberUpTo
  cases PyText.int decimalDigit text with
  | none => simp
  | some n => simp [Option.filter]

theorem protocol_causes_nil_iff (i : Nat) (protocol : Option Protocol) :
    protocolCauses decimalDigit i protocol = [] ↔ AcceptedProtocol decimalDigit protocol := by
  simp only [protocolCauses, AcceptedProtocol, List.append_eq_nil_iff, cause_if_nil_iff, number_up_to_none_iff, not_and,
    not_not]
  constructor
  · intro parts
    obtain ⟨read, other⟩ := parts
    refine ⟨?_, other⟩
    by_contra refused
    obtain ⟨named, unknown⟩ := not_or.mp refused
    obtain ⟨unlisted, unread⟩ := not_or.mp unknown
    exact unread (read named unlisted)
  · intro parts
    obtain ⟨read, other⟩ := parts
    refine ⟨?_, other⟩
    intro named unlisted
    exact (read.resolve_left named).resolve_left unlisted

theorem prefix_causes_nil_iff (i : Nat) (field : String) (pfx : Option String) (type : Option ACLType) :
    prefixCauses i field pfx type = [] ↔ AcceptedPrefix type pfx := by
  unfold prefixCauses AcceptedPrefix
  rw [no_text_iff]
  by_cases empty : pfx.getD "" = ""
  · simp [empty]
  · simp only [empty, if_false, false_or]
    cases IPNetwork.ipNetwork (pfx.getD "") with
    | none => simp
    | some net => simp

theorem port_causes_nil_iff (i : Nat) (field : String) (port : Option String) (protocol : Option Protocol) :
    portCauses decimalDigit i field port protocol = [] ↔ AcceptedPort decimalDigit protocol port := by
  unfold portCauses AcceptedPort
  rw [no_text_iff]
  by_cases empty : port.getD "" = ""
  · simp [empty]
  · simp only [empty, if_false, false_or]
    by_cases carries : protocolText protocol ∈ ["tcp", "udp"]
    · rw [if_neg (not_not.mpr carries), and_iff_right carries]
      cases cut : splitDash (port.getD "") with
      | mk lo rest =>
          cases rest with
          | none => simp
          | some hi =>
              cases low : numberUpTo decimalDigit 65535 (strip lo) with
              | none => simp [low]
              | some first =>
                  cases high : numberUpTo decimalDigit 65535 (strip hi) with
                  | none => simp [low, high]
                  | some last => simp [low, high]
    · rw [if_pos carries]
      exact ⟨fun silent => absurd silent (List.cons_ne_nil _ _), fun holds => absurd holds.1 carries⟩

theorem rule_text_causes_nil_iff (type : Option ACLType) (i : Nat) (r : ACLRule) :
    ruleTextCauses decimalDigit type i r = [] ↔ AcceptedTexts decimalDigit type r := by
  have action : actionCauses i r.action = [] := by
    cases r.action with
    | permit => rfl
    | deny => rfl
  simp only [ruleTextCauses, List.append_eq_nil_iff, action, true_and, protocol_causes_nil_iff, prefix_causes_nil_iff,
    port_causes_nil_iff]
  constructor
  · intro parts
    obtain ⟨⟨⟨⟨protocol, source⟩, destination⟩, sourcePort⟩, destinationPort⟩ := parts
    exact ⟨protocol, source, destination, sourcePort, destinationPort⟩
  · intro accepted
    exact ⟨⟨⟨⟨accepted.protocol, accepted.sourcePrefix⟩, accepted.destinationPrefix⟩, accepted.sourcePort⟩,
      accepted.destinationPort⟩

theorem name_causes_nil_iff (i : Nat) (seen : List String) (name : String) :
    nameCauses i seen name = [] ↔ name ≠ "" ∧ name ∉ seen := by
  unfold nameCauses
  by_cases empty : name = ""
  · simp [empty]
  · by_cases old : name ∈ seen
    · simp [empty, old]
    · simp [empty, old]

theorem priority_causes_nil_iff (i : Nat) (seen : List Int) (priority : Int) :
    priorityCauses i seen priority = [] ↔ (2 ≤ priority ∧ priority ≤ 65535) ∧ priority ∉ seen := by
  unfold priorityCauses
  by_cases reserved : priority = 1
  · simp [reserved]
  · by_cases outside : priority < 2 ∨ 65535 < priority
    · have out : ¬ (2 ≤ priority ∧ priority ≤ 65535) := by omega
      rw [if_neg reserved, if_pos outside]
      simp [out]
    · have within : 2 ≤ priority ∧ priority ≤ 65535 := by omega
      rw [if_neg reserved, if_neg outside]
      by_cases old : priority ∈ seen
      · simp [old]
      · simp [old, within.1, within.2]

-- Of a value that pydantic built, the names and the priorities are in their bounds.
theorem acl_causes_nil_iff (a : ACL) (bounded : ∀ r ∈ a.rules.getD [], r.name ≠ "" ∧ 2 ≤ r.priority ∧ r.priority ≤ 65535) :
    aclCauses decimalDigit a = [] ↔ ShapedACL a ∧ ∀ r ∈ a.rules.getD [], AcceptedTexts decimalDigit a.type r := by
  have rules := distinct_causes_nil_iff ACLRule.name ACLRule.priority nameCauses priorityCauses
    (ruleTextCauses decimalDigit a.type) (fun name => name ≠ "") (fun priority => 2 ≤ priority ∧ priority ≤ 65535)
    (AcceptedTexts decimalDigit a.type) name_causes_nil_iff priority_causes_nil_iff
    (rule_text_causes_nil_iff decimalDigit a.type) 0 [] [] (a.rules.getD [])
  have present (first : Message) (more : List Message) :
      (if a.rules.getD [] = [] then first :: more else []) = [] ↔ a.rules.getD [] ≠ [] := by
    by_cases empty : a.rules.getD [] = []
    · simp [empty]
    · simp [empty]
  unfold aclCauses rulesCauses
  simp only [List.append_eq_nil_iff, cause_if_nil_iff, present, rules]
  constructor
  · intro parts
    obtain ⟨⟨⟨⟨stage, type⟩, bindTo⟩, rules⟩, each, names, priorities⟩ := parts
    have shaped : ShapedACL a := {
      stage := stage
      type := type
      bindTo := by
        by_contra other
        exact bindTo (not_or.mp other)
      rules := rules
      distinctNames := names
      distinctPriorities := priorities }
    exact ⟨shaped, fun r member => (each r member).2.2.1⟩
  · intro parts
    obtain ⟨shaped, texts⟩ := parts
    have each (r : ACLRule) (member : r ∈ a.rules.getD []) : r.name ≠ "" ∧ (2 ≤ r.priority ∧ r.priority ≤ 65535) ∧
        AcceptedTexts decimalDigit a.type r ∧ r.name ∉ ([] : List String) ∧ r.priority ∉ ([] : List Int) :=
      ⟨(bounded r member).1, (bounded r member).2, texts r member, List.not_mem_nil, List.not_mem_nil⟩
    exact ⟨⟨⟨⟨shaped.stage, shaped.type⟩, fun other => not_or.mpr other shaped.bindTo⟩, shaped.rules⟩, each,
      shaped.distinctNames, shaped.distinctPriorities⟩

end Rules

section Services
variable (intent : NormalizedServiceIntent)

-- One bridge domain: every endpoint is on one vlan, below the reserved band.
def OneVLAN (vlans : List Int) : Prop := (∃ shared, shared ≠ 0 ∧ ∀ vlan ∈ vlans, vlan = shared) ∧ ∀ vlan ∈ vlans, vlan ≤ 4000

def vlansOf : List Int := intent.endpoints.map fun ep => ep.vlan.getD 0

def NoIdentifiers : Prop := noNumber intent.l2vni ∧ noNumber intent.l3vni ∧ intent.rdRt = none

theorem vlan_causes_from_nil_iff (service : String) (vlan : Int) (i : Nat) (endpoints : List Endpoint) :
    vlanCausesFrom service vlan i endpoints = [] ↔
      (∃ shared, shared ≠ 0 ∧ (vlan ≠ 0 → shared = vlan) ∧ ∀ ep ∈ endpoints, ep.vlan.getD 0 = shared) ∧
        ∀ ep ∈ endpoints, ep.vlan.getD 0 ≤ 4000 := by
  induction endpoints generalizing vlan i with
  | nil =>
      have shared : ∃ shared : Int, shared ≠ 0 ∧ (vlan ≠ 0 → shared = vlan) := by
        by_cases named : vlan = 0
        · exact ⟨1, by decide, fun other => absurd named other⟩
        · exact ⟨vlan, named, fun _ => rfl⟩
      simpa [vlanCausesFrom] using shared
  | cons ep rest ih =>
      by_cases absent : ep.vlan.getD 0 = 0
      · have unnamed : noNumber ep.vlan := (no_number_iff ep.vlan).mpr absent
        simp [vlanCausesFrom, unnamed, absent]
      · have named : ¬ noNumber ep.vlan := fun none => absent ((no_number_iff ep.vlan).mp none)
        simp only [vlanCausesFrom, named, if_false, List.append_eq_nil_iff, cause_if_nil_iff, not_and, not_not, ih,
          List.forall_mem_cons, Int.not_lt]
        by_cases first : vlan = 0
        · simp only [first, if_true]
          constructor
          · intro parts
            obtain ⟨⟨small, _⟩, ⟨shared, nonzero, same, others⟩, smaller⟩ := parts
            exact ⟨⟨shared, nonzero, fun other => absurd rfl other, (same absent).symm, others⟩, small, smaller⟩
          · intro parts
            obtain ⟨⟨shared, nonzero, _, here, others⟩, small, smaller⟩ := parts
            exact ⟨⟨small, fun other => absurd rfl other⟩, ⟨shared, nonzero, fun _ => here.symm, others⟩, smaller⟩
        · simp only [first, if_false]
          constructor
          · intro parts
            obtain ⟨⟨small, agrees⟩, ⟨shared, nonzero, same, others⟩, smaller⟩ := parts
            exact ⟨⟨shared, nonzero, same, (agrees first).trans (same first).symm, others⟩, small, smaller⟩
          · intro parts
            obtain ⟨⟨shared, nonzero, same, here, others⟩, small, smaller⟩ := parts
            exact ⟨⟨small, fun _ => here.trans (same first)⟩, ⟨shared, nonzero, same, others⟩, smaller⟩

theorem vlan_causes_nil_iff (service : String) : vlanCausesFrom service 0 0 intent.endpoints = [] ↔ OneVLAN (vlansOf intent) := by
  rw [vlan_causes_from_nil_iff]
  simp [OneVLAN, vlansOf]

-- Over vxlan, the rules that the translator has as well.
structure VLANShape : Prop where
  identifiers : NoIdentifiers intent
  gateway : intent.anycastGateway = none
  vlans : OneVLAN (vlansOf intent)

structure MACVRFShape : Prop where
  l2vni : ¬ noNumber intent.l2vni
  rdRt : intent.rdRt ≠ none
  endpoints : minEndpoints intent ≤ intent.endpoints.length
  vlans : OneVLAN (vlansOf intent)
  routed : intent.anycastGateway ≠ none → inL3VNIBand (intent.l3vni.getD 0)
  bridged : intent.anycastGateway = none → noNumber intent.l3vni

structure IPVRFShape : Prop where
  l3vni : inL3VNIBand (intent.l3vni.getD 0)
  rdRt : intent.rdRt ≠ none
  prefixes : ¬ noPrefixes intent.addressFamilies
  l2vni : noNumber intent.l2vni
  gateway : intent.anycastGateway = none
  vrfs : ∀ ep ∈ intent.endpoints, ¬ noText ep.vrf

structure ACLShape : Prop where
  identifiers : NoIdentifiers intent
  gateway : intent.anycastGateway = none
  filter : ∀ a ∈ intent.acl, ShapedACL a

structure SRv6Shape : Prop where
  construct : intent.type = "ip-vrf" ∨ intent.type = "mac-vrf"
  identifiers : NoIdentifiers intent
  bridged : ¬ (intent.type = "mac-vrf" ∧ intent.signalling = some "vpn")
  twoNodes : joinsTwoNodes intent.endpoints = true

structure Shared : Prop where
  supported : intent.claims.present = []
  endpoints : intent.endpoints ≠ []
  transport : intent.transport = "" ∨ intent.transport = "vxlan" ∨ intent.transport = "srv6"
  plain : ¬ isSRv6 intent → noText intent.signalling ∧ noText intent.preferredSpine
  vlan : ¬ isSRv6 intent → intent.type = "vlan" → VLANShape intent
  macVRF : ¬ isSRv6 intent → intent.type = "mac-vrf" → MACVRFShape intent
  ipVRF : ¬ isSRv6 intent → intent.type = "ip-vrf" → IPVRFShape intent
  acl : ¬ isSRv6 intent → intent.type = "acl" → ACLShape intent
  srv6 : isSRv6 intent → SRv6Shape intent

/- The rules that the translator does not have: the empty word for a transport, a
   signalling or a spine, and what Python reads in the rules of an access list service. -/
structure PythonOnly (decimalDigit : Char → Option Nat) : Prop where
  transport : intent.transport ≠ ""
  plain : ¬ isSRv6 intent → intent.signalling ≠ some "" ∧ intent.preferredSpine ≠ some ""
  rules : intent.type = "acl" → ∀ a ∈ intent.acl, ∀ r ∈ a.rules.getD [], AcceptedTexts decimalDigit a.type r

theorem vlan_service_nil_iff (vxlan : ¬ isSRv6 intent) (endpoints : intent.endpoints ≠ []) :
    vlanServiceCauses intent = [] ↔ VLANShape intent := by
  simp only [vlanServiceCauses, List.append_eq_nil_iff, cause_if_nil_iff, vxlan, vlan_causes_nil_iff, not_false_eq_true,
    true_and, not_not]
  constructor
  · intro parts
    obtain ⟨⟨⟨⟨⟨l2vni, l3vni⟩, rdRt⟩, gateway⟩, _⟩, vlans⟩ := parts
    exact ⟨⟨l2vni, l3vni, rdRt⟩, gateway, vlans⟩
  · intro shape
    obtain ⟨l2vni, l3vni, rdRt⟩ := shape.identifiers
    exact ⟨⟨⟨⟨⟨l2vni, l3vni⟩, rdRt⟩, shape.gateway⟩, endpoints⟩, shape.vlans⟩

theorem in_band_named (value : Option Int) (band : inL3VNIBand (value.getD 0)) : ¬ noNumber value := by
  intro absent
  rw [(no_number_iff value).mp absent] at band
  obtain ⟨low, _⟩ := band
  omega

theorem mac_vrf_nil_iff (vxlan : ¬ isSRv6 intent) : macVRFCauses intent = [] ↔ MACVRFShape intent := by
  have routed : routedHalfCauses intent = [] ↔ (intent.anycastGateway ≠ none → inL3VNIBand (intent.l3vni.getD 0)) ∧
      (intent.anycastGateway = none → noNumber intent.l3vni) := by
    unfold routedHalfCauses
    by_cases gateway : intent.anycastGateway = none
    · simp [gateway, vxlan]
    · have band : ¬ noNumber intent.l3vni ∧ inL3VNIBand (intent.l3vni.getD 0) ↔ inL3VNIBand (intent.l3vni.getD 0) :=
        and_iff_right_of_imp (in_band_named intent.l3vni)
      simp [gateway, vxlan, band]
  simp only [macVRFCauses, List.append_eq_nil_iff, cause_if_nil_iff, vxlan, not_false_eq_true, true_and, if_false,
    vlan_causes_nil_iff, routed, Nat.not_lt]
  constructor
  · intro parts
    obtain ⟨⟨⟨⟨l2vni, rdRt⟩, endpoints⟩, vlans⟩, withGateway, withoutGateway⟩ := parts
    exact ⟨l2vni, rdRt, endpoints, vlans, withGateway, withoutGateway⟩
  · intro shape
    exact ⟨⟨⟨⟨shape.l2vni, shape.rdRt⟩, shape.endpoints⟩, shape.vlans⟩, shape.routed, shape.bridged⟩

theorem ip_vrf_labels_iff (endpoints : List Endpoint) :
    (endpoints.zipIdx.flatMap fun (ep, i) => causeIf (noText ep.vrf) (endpointCause i "vrf" [.lit "required for ip-vrf"])) = [] ↔
      ∀ ep ∈ endpoints, ¬ noText ep.vrf := by
  apply zip_causes_nil_iff
  intro ep i
  exact cause_if_nil_iff _ _

theorem ip_vrf_nil_iff (vxlan : ¬ isSRv6 intent) (endpoints : intent.endpoints ≠ []) :
    ipVRFCauses intent = [] ↔ IPVRFShape intent := by
  have vrfs := ip_vrf_labels_iff intent.endpoints
  have band : ¬ noNumber intent.l3vni ∧ (∀ vni ∈ intent.l3vni, inL3VNIBand vni) ↔ inL3VNIBand (intent.l3vni.getD 0) := by
    cases named : intent.l3vni with
    | none => simp [noNumber, inL3VNIBand]
    | some vni =>
        have nonzero : inL3VNIBand vni → ¬ noNumber (some vni) := in_band_named (some vni)
        constructor
        · intro parts
          obtain ⟨_, bound⟩ := parts
          exact bound vni rfl
        · intro bound
          exact ⟨nonzero bound, fun other same => by cases same; exact bound⟩
  simp only [ipVRFCauses, List.append_eq_nil_iff, cause_if_nil_iff, vxlan, not_false_eq_true, true_and, if_false, not_not,
    vrfs]
  constructor
  · intro parts
    obtain ⟨⟨⟨⟨⟨⟨⟨named, inBand⟩, rdRt⟩, prefixes⟩, l2vni⟩, gateway⟩, _⟩, labels⟩ := parts
    exact ⟨band.mp ⟨named, inBand⟩, rdRt, prefixes, l2vni, gateway, labels⟩
  · intro shape
    obtain ⟨named, inBand⟩ := band.mpr shape.l3vni
    exact ⟨⟨⟨⟨⟨⟨⟨named, inBand⟩, shape.rdRt⟩, shape.prefixes⟩, shape.l2vni⟩, shape.gateway⟩, endpoints⟩, shape.vrfs⟩

theorem acl_service_nil_iff (decimalDigit : Char → Option Nat) (wellFormed : WellFormed intent) (vxlan : ¬ isSRv6 intent)
    (endpoints : intent.endpoints ≠ []) :
    aclServiceCauses decimalDigit intent = [] ↔
      ACLShape intent ∧ ∀ a ∈ intent.acl, ∀ r ∈ a.rules.getD [], AcceptedTexts decimalDigit a.type r := by
  have filter : intent.acl.elim [] (aclCauses decimalDigit) = [] ↔
        ∀ a ∈ intent.acl, ShapedACL a ∧ ∀ r ∈ a.rules.getD [], AcceptedTexts decimalDigit a.type r := by
    cases carried : intent.acl with
    | none => simp
    | some a =>
        have rule := acl_causes_nil_iff decimalDigit a (wellFormed.rules a carried)
        simp [rule]
  simp only [aclServiceCauses, List.append_eq_nil_iff, cause_if_nil_iff, vxlan, not_false_eq_true, true_and, filter]
  constructor
  · intro parts
    obtain ⟨⟨free, _⟩, lists⟩ := parts
    obtain ⟨l2vni, free⟩ := not_or.mp free
    obtain ⟨l3vni, free⟩ := not_or.mp free
    obtain ⟨rdRt, gateway⟩ := not_or.mp free
    have shape : ACLShape intent := {
      identifiers := ⟨not_not.mp l2vni, not_not.mp l3vni, not_not.mp rdRt⟩
      gateway := not_not.mp gateway
      filter := fun a carried => (lists a carried).1 }
    exact ⟨shape, fun a carried => (lists a carried).2⟩
  · intro parts
    obtain ⟨shape, texts⟩ := parts
    obtain ⟨l2vni, l3vni, rdRt⟩ := shape.identifiers
    have free : ¬ (¬ noNumber intent.l2vni ∨ ¬ noNumber intent.l3vni ∨ intent.rdRt ≠ none ∨ intent.anycastGateway ≠ none) := by
      simp [l2vni, l3vni, rdRt, shape.gateway]
    exact ⟨⟨free, endpoints⟩, fun a carried => ⟨shape.filter a carried, texts a carried⟩⟩

def IsConstruct (type : String) : Prop := type = "vlan" ∨ type = "mac-vrf" ∨ type = "ip-vrf" ∨ type = "acl"

variable (decimalDigit : Char → Option Nat) (wellFormed : WellFormed intent) (construct : IsConstruct intent.type)

include construct wellFormed in
theorem construct_nil_iff (vxlan : ¬ isSRv6 intent) (endpoints : intent.endpoints ≠ []) :
    constructCauses decimalDigit intent = [] ↔
      (intent.type = "vlan" → VLANShape intent) ∧ (intent.type = "mac-vrf" → MACVRFShape intent) ∧
        (intent.type = "ip-vrf" → IPVRFShape intent) ∧ (intent.type = "acl" → ACLShape intent ∧
          ∀ a ∈ intent.acl, ∀ r ∈ a.rules.getD [], AcceptedTexts decimalDigit a.type r) := by
  unfold constructCauses
  obtain isVLAN | isMAC | isIP | isACL := construct
  · simp [isVLAN, vlan_service_nil_iff intent vxlan endpoints]
  · simp [isMAC, mac_vrf_nil_iff intent vxlan]
  · simp [isIP, ip_vrf_nil_iff intent vxlan endpoints]
  · rw [if_neg (by rw [isACL]; decide), if_neg (by rw [isACL]; decide), if_neg (by rw [isACL]; decide), if_pos isACL,
      acl_service_nil_iff intent decimalDigit wellFormed vxlan endpoints]
    simp [isACL]

theorem no_te_policy (supported : intent.claims.present = []) : intent.claims.tePolicy = false := by
  have none := List.map_eq_nil_iff.mp supported
  have first := List.filter_eq_nil_iff.mp none (intent.claims.tePolicy, "tePolicy") (by simp)
  simpa using first

theorem vxlan_transport_nil_iff (vxlan : intent.transport = "vxlan") (supported : intent.claims.present = []) :
    transportCauses "" intent = [] ↔ intent.signalling = none ∧ intent.preferredSpine = none := by
  have policy := no_te_policy intent supported
  simp [transportCauses, vxlan, policy]

theorem srv6_transport_nil_iff (srv6 : isSRv6 intent) : transportCauses "" intent = [] ↔ SRv6Shape intent := by
  have named : intent.transport = "srv6" := srv6
  have spine : spineCauses "" intent = [] := by
    unfold spineCauses
    cases intent.preferredSpine with
    | none => rfl
    | some spine => simp
  have notVXLAN : ¬ (intent.transport ≠ "vxlan" ∧ intent.transport ≠ "srv6") := fun other => other.2 named
  rw [transportCauses, if_neg notVXLAN, if_pos named, spine]
  simp only [List.append_eq_nil_iff, cause_if_nil_iff, and_true, not_and, not_not, ne_eq, not_or]
  constructor
  · intro parts
    obtain ⟨⟨⟨service, l2vni, l3vni, rdRt⟩, bridged⟩, joined⟩ := parts
    exact {
      construct := by
        by_contra other
        obtain ⟨ip, mac⟩ := not_or.mp other
        exact mac (service ip)
      identifiers := ⟨l2vni, l3vni, rdRt⟩
      bridged := fun both => bridged both.1 both.2
      twoNodes := by simpa using joined }
  · intro shape
    obtain ⟨l2vni, l3vni, rdRt⟩ := shape.identifiers
    exact ⟨⟨⟨fun other => shape.construct.resolve_left other, l2vni, l3vni, rdRt⟩, fun mac vpn => shape.bridged ⟨mac, vpn⟩⟩,
      by simpa using shape.twoNodes⟩

include construct wellFormed in
theorem validation_nil_iff :
    validationCauses decimalDigit intent "" false = [] ↔ Shared intent ∧ PythonOnly intent decimalDigit := by
  have named : intent.type ≠ "" := by
    obtain isType | isType | isType | isType := construct
    all_goals
      rw [isType]
      decide
  have parts : validationCauses decimalDigit intent "" false = [] ↔
      ((intent.claims.present = [] ∧ intent.endpoints ≠ []) ∧ transportCauses "" intent = []) ∧
        constructCauses decimalDigit intent = [] := by
    simp [validationCauses, wellFormed.serviceID, wellFormed.tenant, named, and_assoc]
  rw [parts]
  by_cases srv6 : isSRv6 intent
  · rw [srv6_transport_nil_iff intent srv6]
    have transport : intent.transport = "srv6" := srv6
    constructor
    · intro parts
      obtain ⟨⟨⟨supported, endpoints⟩, shape⟩, _⟩ := parts
      have shared : Shared intent := {
        supported, endpoints
        transport := .inr (.inr transport)
        plain := fun other => absurd srv6 other
        vlan := fun other => absurd srv6 other
        macVRF := fun other => absurd srv6 other
        ipVRF := fun other => absurd srv6 other
        acl := fun other => absurd srv6 other
        srv6 := fun _ => shape }
      have own : PythonOnly intent decimalDigit := {
        transport := by rw [transport]; decide
        plain := fun other => absurd srv6 other
        rules := by
          intro isACL
          have service := shape.construct
          rw [isACL] at service
          simp at service }
      exact ⟨shared, own⟩
    · intro parts
      obtain ⟨shared, _⟩ := parts
      have shape := shared.srv6 srv6
      have free : constructCauses decimalDigit intent = [] := by
        obtain isIP | isMAC := shape.construct
        · simp [constructCauses, isIP, ipVRFCauses, srv6]
        · simp [constructCauses, isMAC, macVRFCauses, routedHalfCauses, vlanCausesFrom, srv6]
      exact ⟨⟨⟨shared.supported, shared.endpoints⟩, shape⟩, free⟩
  · by_cases vxlan : intent.transport = "vxlan"
    · constructor
      · intro parts
        obtain ⟨⟨⟨supported, endpoints⟩, transport⟩, service⟩ := parts
        obtain ⟨signalling, spine⟩ := (vxlan_transport_nil_iff intent vxlan supported).mp transport
        obtain ⟨vlan, macVRF, ipVRF, acl⟩ :=
          (construct_nil_iff intent decimalDigit wellFormed construct srv6 endpoints).mp service
        have shared : Shared intent := {
          supported, endpoints
          transport := .inr (.inl vxlan)
          plain := fun _ => ⟨.inl signalling, .inl spine⟩
          vlan := fun _ => vlan
          macVRF := fun _ => macVRF
          ipVRF := fun _ => ipVRF
          acl := fun _ isACL => (acl isACL).1
          srv6 := fun other => absurd other srv6 }
        have own : PythonOnly intent decimalDigit := {
          transport := by rw [vxlan]; decide
          plain := by
            intro _
            rw [signalling, spine]
            simp
          rules := fun isACL => (acl isACL).2 }
        exact ⟨shared, own⟩
      · intro parts
        obtain ⟨shared, own⟩ := parts
        obtain ⟨signalling, spine⟩ := shared.plain srv6
        obtain ⟨noSignalling, noSpine⟩ := own.plain srv6
        have transport := (vxlan_transport_nil_iff intent vxlan shared.supported).mpr
          ⟨signalling.resolve_right noSignalling, spine.resolve_right noSpine⟩
        have service := (construct_nil_iff intent decimalDigit wellFormed construct srv6 shared.endpoints).mpr
          ⟨shared.vlan srv6, shared.macVRF srv6, shared.ipVRF srv6, fun isACL => ⟨shared.acl srv6 isACL, own.rules isACL⟩⟩
        exact ⟨⟨⟨shared.supported, shared.endpoints⟩, transport⟩, service⟩
    · have unknown : intent.transport ≠ "vxlan" ∧ intent.transport ≠ "srv6" := ⟨vxlan, srv6⟩
      constructor
      · intro parts
        obtain ⟨⟨_, transport⟩, _⟩ := parts
        rw [transportCauses, if_pos unknown] at transport
        cases transport
      · intro parts
        obtain ⟨shared, own⟩ := parts
        obtain empty | isVXLAN | isSRv6 := shared.transport
        · exact absurd empty own.transport
        · exact absurd isVXLAN vxlan
        · exact absurd isSRv6 srv6

end Services

end AgenticNetops.Schemas
