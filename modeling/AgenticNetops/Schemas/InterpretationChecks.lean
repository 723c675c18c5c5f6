import AgenticNetops.Lib.IPNetwork
import AgenticNetops.Lib.Regex
import AgenticNetops.Schemas.Interpretation

set_option autoImplicit false

/- common/schemas/interpretation.py: what model_validate checks of the fields, and the
   spelling it gives the prefixes. `none` is pydantic's ValidationError. -/
namespace AgenticNetops.Schemas

open GoText Regex PyText

def isLabelEnd (c : Char) : Bool := ('a' ≤ c && c ≤ 'z') || NetIP.isDigit c

-- ^[a-z0-9]([-a-z0-9]*[a-z0-9])?$
def rfc1123 : Pattern :=
  .char isLabelEnd ++ opt (.many true (.char fun c => isLabelEnd c || c = '-') ++ .char isLabelEnd) ++ .finish

def EndpointIntent.Valid (endpoint : EndpointIntent) : Prop :=
  endpoint.siteOrNode ≠ "" ∧ endpoint.attachment ≠ "" ∧ ∀ vlan ∈ endpoint.vlan, 1 ≤ vlan ∧ vlan ≤ 4094

instance (endpoint : EndpointIntent) : Decidable endpoint.Valid := inferInstanceAs (Decidable (_ ∧ _ ∧ _))

def ACLRule.Valid (rule : ACLRule) : Prop := rule.name ≠ "" ∧ 2 ≤ rule.priority ∧ rule.priority ≤ 65535

instance (rule : ACLRule) : Decidable rule.Valid := inferInstanceAs (Decidable (_ ∧ _ ∧ _))

def AnycastGatewayIntent.Valid (gateway : AnycastGatewayIntent) : Prop := gateway.ipv4 ≠ none ∨ gateway.ipv6 ≠ none

instance (gateway : AnycastGatewayIntent) : Decidable gateway.Valid := inferInstanceAs (Decidable (_ ∨ _))

def validPrefix (version : IPNetwork.Version) (value : String) : Option String :=
  match IPNetwork.ipNetwork value with
  | none => none
  | some network => if network.version = version then some (IPNetwork.networkText network) else none

def validPrefixes (version : IPNetwork.Version) (values : List String) : Option (List String) :=
  values.mapM (validPrefix version)

def interpretationProtocols : List String := ["any", "tcp", "udp", "icmp", "igmp", "rsvp", "gre", "ah", "pim", "l2tp"]

variable (table : CharTable)

-- str.isdigit
def isDigits (text : List Char) : Bool :=
  !text.isEmpty && text.all fun c => if isAscii c then NetIP.isDigit c else table.isDigit c

def ProtocolAllowed : Option Protocol → Prop
  | some (.name text) =>
      let word := lowerText table (trimChars isBlank text.toList)
      word = [] ∨ String.ofList word ∈ interpretationProtocols ∨ isDigits table word
  | _ => True

instance : (protocol : Option Protocol) → Decidable (ProtocolAllowed table protocol)
  | none => isTrue trivial
  | some (.number _) => isTrue trivial
  | some (.name _) => inferInstanceAs (Decidable (_ ∨ _ ∨ _))

-- When the construct is acl, the filter is there and its protocols are known.
def Interpretation.FilterAllowed (interp : Interpretation) : Prop :=
  interp.serviceType = .acl → interp.acl ≠ none ∧ ∀ acl ∈ interp.acl, ∀ rule ∈ acl.rules, ProtocolAllowed table rule.protocol

instance (interp : Interpretation) : Decidable (interp.FilterAllowed table) := inferInstanceAs (Decidable (_ → _))

structure Interpretation.Valid (interp : Interpretation) : Prop where
  serviceID : 1 ≤ interp.serviceID.length ∧ interp.serviceID.length ≤ 15
  tenant : (fullMatch rfc1123 interp.tenant.toList).isSome
  endpoints : interp.endpoints ≠ [] ∧ ∀ endpoint ∈ interp.endpoints, endpoint.Valid
  rules : ∀ acl ∈ interp.acl, ∀ rule ∈ acl.rules, rule.Valid
  gateway : ∀ gateway ∈ interp.anycastGateway, gateway.Valid ∧ interp.serviceType = .macVRF
  exclusive : interp.missingFields = [] ∨ interp.unsupportedProperties = []
  filter : interp.FilterAllowed table

instance (interp : Interpretation) : Decidable (interp.Valid table) :=
  decidable_of_iff
    ((1 ≤ interp.serviceID.length ∧ interp.serviceID.length ≤ 15) ∧ (fullMatch rfc1123 interp.tenant.toList).isSome ∧
      (interp.endpoints ≠ [] ∧ ∀ endpoint ∈ interp.endpoints, endpoint.Valid) ∧
      (∀ acl ∈ interp.acl, ∀ rule ∈ acl.rules, rule.Valid) ∧
      (∀ gateway ∈ interp.anycastGateway, gateway.Valid ∧ interp.serviceType = .macVRF) ∧
      (interp.missingFields = [] ∨ interp.unsupportedProperties = []) ∧ interp.FilterAllowed table)
    ⟨fun ⟨serviceID, tenant, endpoints, rules, gateway, exclusive, filter⟩ =>
        ⟨serviceID, tenant, endpoints, rules, gateway, exclusive, filter⟩,
      fun valid => ⟨valid.serviceID, valid.tenant, valid.endpoints, valid.rules, valid.gateway, valid.exclusive, valid.filter⟩⟩

def Interpretation.modelValidate (interp : Interpretation) : Option Interpretation :=
  if interp.Valid table then do
    let ipv4Prefixes ← validPrefixes .v4 interp.ipv4Prefixes
    let ipv6Prefixes ← validPrefixes .v6 interp.ipv6Prefixes
    return { interp with ipv4Prefixes, ipv6Prefixes }
  else none

-- Validation respells prefixes and changes nothing else.
theorem model_validate_some (interp validated : Interpretation) (done : interp.modelValidate table = some validated) :
    interp.Valid table ∧ ∃ ipv4Prefixes ipv6Prefixes, validated = { interp with ipv4Prefixes, ipv6Prefixes } := by
  unfold Interpretation.modelValidate at done
  by_cases valid : interp.Valid table
  · rw [if_pos valid] at done
    obtain ⟨ipv4Prefixes, _, rest⟩ := Option.bind_eq_some_iff.mp done
    obtain ⟨ipv6Prefixes, _, built⟩ := Option.bind_eq_some_iff.mp rest
    exact ⟨valid, ipv4Prefixes, ipv6Prefixes, (Option.some.inj built).symm⟩
  · rw [if_neg valid] at done
    cases done

end AgenticNetops.Schemas
