import AgenticNetops.Lib.Json
import AgenticNetops.Schemas.Validation

set_option autoImplicit false

/- `model_dump(mode="json")` of a NormalizedServiceIntent: every field, nulls included.
   An unsupported claim that is there may hold any value; true stands for it. -/
namespace AgenticNetops.Schemas

open JsonValue

def dumpOptional {α : Type} (dump : α → Json) : Option α → Json
  | none => .null
  | some value => dump value

def dumpStrings (texts : List String) : Json := .arr (texts.map .str)

def RdRt.dump (rdRt : RdRt) : Json :=
  .obj [("rd", .str rdRt.rd), ("importRT", dumpStrings rdRt.importRT), ("exportRT", dumpStrings rdRt.exportRT)]

def AddressFamilies.dump (families : AddressFamilies) : Json :=
  .obj [("ipv4Prefixes", dumpStrings families.ipv4Prefixes), ("ipv6Prefixes", dumpStrings families.ipv6Prefixes)]

def Endpoint.dump (endpoint : Endpoint) : Json :=
  .obj [("node", .str endpoint.node), ("attachment", .str endpoint.attachment), ("vlan", dumpOptional .num endpoint.vlan),
    ("vrf", dumpOptional .str endpoint.vrf), ("prefixes", dumpOptional dumpStrings endpoint.prefixes)]

def AnycastGateway.dump (gateway : AnycastGateway) : Json :=
  .obj [("ipVrf", dumpOptional .str gateway.ipVrf), ("gatewayIPv4", .str gateway.gatewayIPv4),
    ("gatewayIPv6", .str gateway.gatewayIPv6)]

def Policies.dump (policies : Policies) : Json := .obj [("vpwsLimitedEquivalence", .bool policies.vpwsLimitedEquivalence)]

def dumpClaim (present : Bool) : Json := if present then .bool true else .null

def UnsupportedClaims.dump (u : UnsupportedClaims) : Json :=
  .obj [("tePolicy", dumpClaim u.tePolicy), ("pseudowireOAM", dumpClaim u.pseudowireOAM),
    ("controlWord", dumpClaim u.controlWord), ("multicastVPN", dumpClaim u.multicastVPN),
    ("complexQoS", dumpClaim u.complexQoS), ("serviceChain", dumpClaim u.serviceChain), ("rawCLI", dumpClaim u.rawCLI)]

def Protocol.dump : Protocol → Json
  | .name text => .str text
  | .number value => .num value

def ACLRule.dump (rule : ACLRule) : Json :=
  .obj [("name", .str rule.name), ("priority", .num rule.priority), ("action", .str rule.action.value),
    ("protocol", dumpOptional Protocol.dump rule.protocol), ("sourcePrefix", dumpOptional .str rule.sourcePrefix),
    ("destinationPrefix", dumpOptional .str rule.destinationPrefix), ("sourcePort", dumpOptional .str rule.sourcePort),
    ("destinationPort", dumpOptional .str rule.destinationPort), ("description", dumpOptional .str rule.description)]

def dumpRules (rules : List ACLRule) : Json := .arr (rules.map ACLRule.dump)

def ACL.dump (acl : ACL) : Json :=
  .obj [("name", dumpOptional .str acl.name), ("stage", dumpOptional (fun stage => .str stage.value) acl.stage),
    ("type", dumpOptional (fun type => .str type.value) acl.type),
    ("defaultAction", dumpOptional (fun action => .str action.value) acl.defaultAction),
    ("bindTo", dumpOptional .str acl.bindTo), ("rules", dumpOptional dumpRules acl.rules)]

def NormalizedServiceIntent.dump (intent : NormalizedServiceIntent) : Json :=
  .obj [("serviceId", .str intent.serviceID), ("type", .str intent.type), ("tenant", .str intent.tenant),
    ("rdRt", dumpOptional RdRt.dump intent.rdRt), ("l2vni", dumpOptional .num intent.l2vni),
    ("l3vni", dumpOptional .num intent.l3vni), ("addressFamilies", dumpOptional AddressFamilies.dump intent.addressFamilies),
    ("anycastGateway", dumpOptional AnycastGateway.dump intent.anycastGateway), ("transport", .str intent.transport),
    ("signalling", dumpOptional .str intent.signalling), ("preferredSpine", dumpOptional .str intent.preferredSpine),
    ("endpoints", .arr (intent.endpoints.map Endpoint.dump)), ("policies", dumpOptional Policies.dump intent.policies),
    ("unsupported", dumpOptional UnsupportedClaims.dump intent.unsupported), ("acl", dumpOptional ACL.dump intent.acl)]

end AgenticNetops.Schemas
