import AgenticNetops.Lib.Json
import AgenticNetops.Migration.Input

set_option autoImplicit false

/- pkg/migration/parse.go: a JSON document as encoding/json reads it into a ServiceInput.
   A null leaves the zero value that an absent field has, an unknown name is refused, and
   names are matched as they are spelled. `none` is the decoder's error. -/
namespace AgenticNetops.Migration

open JsonValue

section Decoders
variable {α : Type}

def decodeString : Json → Option String
  | .null => some ""
  | .str value => some value
  | _ => none

-- An int has 64 bits.
def decodeInt : Json → Option Int
  | .null => some 0
  | .num value => if -2 ^ 63 ≤ value ∧ value < 2 ^ 63 then some value else none
  | _ => none

def decodeBool : Json → Option Bool
  | .null => some false
  | .bool value => some value
  | _ => none

-- Whether a value of any kind is there.
def decodeAny : Json → Option Bool
  | .null => some false
  | _ => some true

def decodeSlice (decode : Json → Option α) : Json → Option (List α)
  | .null => some []
  | .arr items => items.mapM decode
  | _ => none

def decodePointer (decode : Json → Option α) : Json → Option (Option α)
  | .null => some none
  | value => (decode value).map some

-- A field that the object does not have reads as null.
def decodeStruct (names : List String) (build : Json → Option α) : Json → Option α
  | .null => build .null
  | .obj fields => if fields.all fun entry => entry.1 ∈ names then build (.obj fields) else none
  | _ => none

end Decoders

def decodeRdRt : Json → Option RdRt :=
  decodeStruct ["rd", "importRT", "exportRT"] fun value => do
    let rd ← decodeString (value.field "rd")
    let importRT ← decodeSlice decodeString (value.field "importRT")
    let exportRT ← decodeSlice decodeString (value.field "exportRT")
    return { rd, importRT, exportRT }

def decodeFamilies : Json → Option AddressFamilies :=
  decodeStruct ["ipv4Prefixes", "ipv6Prefixes"] fun value => do
    let ipv4Prefixes ← decodeSlice decodeString (value.field "ipv4Prefixes")
    let ipv6Prefixes ← decodeSlice decodeString (value.field "ipv6Prefixes")
    return { ipv4Prefixes, ipv6Prefixes }

def decodeEndpoint : Json → Option Endpoint :=
  decodeStruct ["node", "attachment", "vlan", "vrf", "prefixes"] fun value => do
    let node ← decodeString (value.field "node")
    let attachment ← decodeString (value.field "attachment")
    let vlan ← decodeInt (value.field "vlan")
    let vrf ← decodeString (value.field "vrf")
    let prefixes ← decodeSlice decodeString (value.field "prefixes")
    return { node, attachment, vlan, vrf, prefixes }

def decodeGateway : Json → Option AnycastGateway :=
  decodeStruct ["ipVrf", "gatewayIPv4", "gatewayIPv6"] fun value => do
    let ipVRF ← decodeString (value.field "ipVrf")
    let gatewayV4 ← decodeString (value.field "gatewayIPv4")
    let gatewayV6 ← decodeString (value.field "gatewayIPv6")
    return { ipVRF, gatewayV4, gatewayV6 }

def decodeIRBGateway : Json → Option IRBGateway :=
  decodeStruct ["vrf", "gatewayIPv4", "gatewayIPv6"] fun value => do
    let vrf ← decodeString (value.field "vrf")
    let gatewayV4 ← decodeString (value.field "gatewayIPv4")
    let gatewayV6 ← decodeString (value.field "gatewayIPv6")
    return { vrf, gatewayV4, gatewayV6 }

def decodePolicies : Json → Option Policies :=
  decodeStruct ["vpwsLimitedEquivalence"] fun value => do
    let vpwsLimitedEquivalence ← decodeBool (value.field "vpwsLimitedEquivalence")
    return { vpwsLimitedEquivalence }

def decodeUnsupported : Json → Option UnsupportedClaims :=
  decodeStruct ["tePolicy", "pseudowireOAM", "controlWord", "multicastVPN", "complexQoS", "serviceChain", "rawCLI"]
    fun value => do
      let tePolicy ← decodeAny (value.field "tePolicy")
      let pseudowireOAM ← decodeAny (value.field "pseudowireOAM")
      let controlWord ← decodeAny (value.field "controlWord")
      let multicastVPN ← decodeAny (value.field "multicastVPN")
      let complexQoS ← decodeAny (value.field "complexQoS")
      let serviceChain ← decodeAny (value.field "serviceChain")
      let rawCLI ← decodeAny (value.field "rawCLI")
      return { tePolicy, pseudowireOAM, controlWord, multicastVPN, complexQoS, serviceChain, rawCLI }

def decodeRule : Json → Option ACLRule :=
  decodeStruct ["name", "priority", "action", "protocol", "sourcePrefix", "destinationPrefix", "sourcePort",
      "destinationPort", "description"] fun value => do
    let name ← decodeString (value.field "name")
    let priority ← decodeInt (value.field "priority")
    let action ← decodeString (value.field "action")
    let protocol ← decodeString (value.field "protocol")
    let sourcePrefix ← decodeString (value.field "sourcePrefix")
    let destinationPrefix ← decodeString (value.field "destinationPrefix")
    let sourcePort ← decodeString (value.field "sourcePort")
    let destinationPort ← decodeString (value.field "destinationPort")
    let description ← decodeString (value.field "description")
    return { name, priority, action, protocol, sourcePrefix, destinationPrefix, sourcePort, destinationPort, description }

def decodeACL : Json → Option ACL :=
  decodeStruct ["name", "stage", "type", "rules", "defaultAction", "bindTo"] fun value => do
    let name ← decodeString (value.field "name")
    let stage ← decodeString (value.field "stage")
    let type ← decodeString (value.field "type")
    let rules ← decodeSlice decodeRule (value.field "rules")
    let defaultAction ← decodeString (value.field "defaultAction")
    let bindTo ← decodeString (value.field "bindTo")
    return { name, stage, type, rules, defaultAction, bindTo }

def serviceInputNames : List String :=
  ["serviceId", "type", "tenant", "transport", "signalling", "preferredSpine", "rdRt", "l2vni", "l3vni", "addressFamilies",
    "anycastGateway", "irbGateway", "acl", "endpoints", "policies", "unsupported"]

-- strictUnmarshal
def decodeServiceInput : Json → Option ServiceInput :=
  decodeStruct serviceInputNames fun value => do
    let serviceID ← decodeString (value.field "serviceId")
    let type ← decodeString (value.field "type")
    let tenant ← decodeString (value.field "tenant")
    let transport ← decodeString (value.field "transport")
    let signalling ← decodeString (value.field "signalling")
    let preferredSpine ← decodeString (value.field "preferredSpine")
    let rdRt ← decodePointer decodeRdRt (value.field "rdRt")
    let l2vni ← decodeInt (value.field "l2vni")
    let l3vni ← decodeInt (value.field "l3vni")
    let addressFamilies ← decodePointer decodeFamilies (value.field "addressFamilies")
    let anycastGateway ← decodePointer decodeGateway (value.field "anycastGateway")
    let irbGateway ← decodePointer decodeIRBGateway (value.field "irbGateway")
    let acl ← decodePointer decodeACL (value.field "acl")
    let endpoints ← decodeSlice decodeEndpoint (value.field "endpoints")
    let policies ← decodePolicies (value.field "policies")
    let unsupported ← decodeUnsupported (value.field "unsupported")
    return { serviceID, type, tenant, transport, signalling, preferredSpine, rdRt, l2vni, l3vni, addressFamilies,
             anycastGateway, irbGateway, acl, endpoints, policies, unsupported }

def parseStrictBatch : Json → Option (List ServiceInput)
  | .arr items => items.mapM fun item => (decodeServiceInput item).map ServiceInput.canonicalize
  | .obj fields => (decodeServiceInput (.obj fields)).map fun input => [input.canonicalize]
  | _ => none

end AgenticNetops.Migration
