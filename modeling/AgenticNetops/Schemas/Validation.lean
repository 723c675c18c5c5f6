import AgenticNetops.Lib.Causes
import AgenticNetops.Lib.IPNetwork
import AgenticNetops.Lib.PyText
import AgenticNetops.Schemas.NormalizedIntent

set_option autoImplicit false

/- NormalizedServiceIntent.validate_all_or_nothing. `spineEnv` is FABRIC_SPINE_NODES, the
   empty text where it is not set. A repr is written as the text between single quotes. -/
namespace AgenticNetops.Schemas

open GoText PyText Causes

def Stage.value : Stage → String
  | .ingress => "ingress"
  | .egress => "egress"

def ACLType.value : ACLType → String
  | .l3 => "l3"
  | .l3v6 => "l3v6"

def Action.value : Action → String
  | .permit => "permit"
  | .deny => "deny"

def UnsupportedClaims.present (u : UnsupportedClaims) : List String :=
  ([(u.tePolicy, "tePolicy"), (u.pseudowireOAM, "pseudowireOAM"), (u.controlWord, "controlWord"),
    (u.multicastVPN, "multicastVPN"), (u.complexQoS, "complexQoS"), (u.serviceChain, "serviceChain"),
    (u.rawCLI, "rawCLI")].filter Prod.fst).map Prod.snd

def NormalizedServiceIntent.claims (intent : NormalizedServiceIntent) : UnsupportedClaims := intent.unsupported.getD {}

-- `not value` of an optional number, and of an optional text.
def noNumber (value : Option Int) : Prop := value = none ∨ value = some 0

def noText (value : Option String) : Prop := value = none ∨ value = some ""

instance (value : Option Int) : Decidable (noNumber value) := inferInstanceAs (Decidable (_ ∨ _))

instance (value : Option String) : Decidable (noText value) := inferInstanceAs (Decidable (_ ∨ _))

-- f"{value}"
def numberPiece : Option Int → Piece
  | none => .lit "None"
  | some value => .int value

def textRepr (text : Option String) : Message :=
  match text with
  | none => [.lit "None"]
  | some text => [.lit "'", .str text, .lit "'"]

def endpointCause (i : Nat) (field : String) (rest : Message) : Message :=
  [.lit "endpoints[", .int i, .lit "].", .lit field, .lit ": "] ++ rest

def ruleCause (i : Nat) (field : String) (rest : Message) : Message :=
  [.lit "acl.rules[", .int i, .lit "].", .lit field, .lit ": "] ++ rest

section Transport
variable (spineEnv : String) (intent : NormalizedServiceIntent)

def spines : List String := ((split spineEnv ',').map strip).filter (· ≠ "")

def spineCauses : List Message :=
  match intent.preferredSpine with
  | none => []
  | some spine =>
      causeIf (spine ≠ "" ∧ ¬ intent.claims.tePolicy ∧ spineEnv ≠ "" ∧ spine ∉ spines spineEnv)
        [.lit "preferredSpine: unknown '", .str spine, .lit "' (site has: ", .str (join (spines spineEnv) ", "), .lit ")"]

def joinsTwoNodes (endpoints : List Endpoint) : Bool :=
  match endpoints with
  | [a, b] => a.node ≠ "" ∧ a.node ≠ b.node
  | _ => false

-- The rules V1 to V8.
def transportCauses : List Message :=
  if intent.transport ≠ "vxlan" ∧ intent.transport ≠ "srv6" then
    [[.lit "transport: unsupported '", .str intent.transport, .lit "' (transports: vxlan, srv6)"]]
  else if intent.transport = "srv6" then
    causeIf (intent.type ≠ "ip-vrf" ∧ intent.type ≠ "mac-vrf") [.lit "transport: srv6 applies to ip-vrf and mac-vrf only"] ++
      causeIf (¬ noNumber intent.l2vni ∨ ¬ noNumber intent.l3vni ∨ intent.rdRt ≠ none)
        [.lit "srv6: identifiers are allocated by the fabric, not supplied"] ++
      causeIf (intent.type = "mac-vrf" ∧ intent.signalling = some "vpn") [.lit "signalling: mac-vrf over srv6 uses evpn"] ++
      causeIf (¬ joinsTwoNodes intent.endpoints)
        [.lit "endpoints: an srv6 service joins exactly two attachments on distinct nodes"] ++
      spineCauses spineEnv intent
  else
    causeIf (intent.signalling ≠ none) [.lit "signalling: only valid with transport srv6"] ++
      causeIf (intent.preferredSpine ≠ none ∧ ¬ intent.claims.tePolicy)
        [.lit "preferredSpine: only valid with transport srv6"]

end Transport

section Constructs

-- `vlan` is the first one that an earlier endpoint carried, 0 before there is one.
def vlanCausesFrom (service : String) (vlan : Int) : Nat → List Endpoint → List Message
  | _, [] => []
  | i, ep :: rest =>
      if noNumber ep.vlan then
        endpointCause i "vlan" [.lit "required for ", .str service] :: vlanCausesFrom service vlan (i + 1) rest
      else
        let number := ep.vlan.getD 0
        causeIf (4000 < number) (endpointCause i "vlan" [.int number, .lit " is reserved (4001-4094); usable range is 1-4000"]) ++
          causeIf (vlan ≠ 0 ∧ number ≠ vlan)
            (endpointCause i "vlan" [.str service, .lit " is one bridge domain, so every endpoint must share one vlan (got ",
              .int vlan, .lit " and ", .int number, .lit ")"]) ++
          vlanCausesFrom service (if vlan = 0 then number else vlan) (i + 1) rest

variable (intent : NormalizedServiceIntent)

def isSRv6 : Prop := intent.transport = "srv6"

instance : Decidable (isSRv6 intent) := inferInstanceAs (Decidable (_ = _))

def vlanServiceCauses : List Message :=
  causeIf (¬ isSRv6 intent ∧ ¬ noNumber intent.l2vni)
      [.lit "l2vni: a vlan is local to the node; ask for a mac-vrf to extend it over the fabric"] ++
    causeIf (¬ isSRv6 intent ∧ ¬ noNumber intent.l3vni)
      [.lit "l3vni: a vlan carries no routed instance; ask for an ip-vrf, or a mac-vrf with an anycastGateway"] ++
    causeIf (¬ isSRv6 intent ∧ intent.rdRt ≠ none)
      [.lit "rdRt: a vlan is not advertised by EVPN and has no route distinguisher or targets"] ++
    causeIf (¬ isSRv6 intent ∧ intent.anycastGateway ≠ none)
      [.lit "anycastGateway: only a mac-vrf carries an anycast gateway"] ++
    causeIf (intent.endpoints = []) [.lit "endpoints: vlan requires >=1 endpoint"] ++
    vlanCausesFrom "vlan" 0 0 intent.endpoints

def minEndpoints : Nat := if intent.anycastGateway ≠ none then 1 else 2

def inL3VNIBand (vni : Int) : Prop := 10000 ≤ vni ∧ vni ≤ 14094

instance (vni : Int) : Decidable (inL3VNIBand vni) := inferInstanceAs (Decidable (_ ∧ _))

def unrenderable : Message :=
  [.lit "l3vni: ", numberPiece intent.l3vni, .lit " has no derivable service VLAN; this fabric renders L3VNIs in 10000-14094"]

def routedHalfCauses : List Message :=
  if intent.anycastGateway ≠ none ∧ ¬ isSRv6 intent then
    causeIf (noNumber intent.l3vni) [.lit "l3vni: required for a mac-vrf with an anycastGateway (the ip-vrf it routes into)"] ++
      causeIf (¬ inL3VNIBand (intent.l3vni.getD 0)) (unrenderable intent)
  else
    causeIf (¬ isSRv6 intent ∧ ¬ noNumber intent.l3vni)
      [.lit "l3vni: a mac-vrf carries an L3VNI only when it declares an anycastGateway"]

-- Over srv6 the vlans of a mac-vrf are not looked at.
def macVRFCauses : List Message :=
  causeIf (¬ isSRv6 intent ∧ noNumber intent.l2vni) [.lit "l2vni: required for mac-vrf"] ++
    causeIf (¬ isSRv6 intent ∧ intent.rdRt = none) [.lit "rdRt: required for mac-vrf"] ++
    causeIf (¬ isSRv6 intent ∧ intent.endpoints.length < minEndpoints intent)
      [.lit "endpoints: mac-vrf requires >=", .int (minEndpoints intent), .lit " endpoints"] ++
    vlanCausesFrom "mac-vrf" 0 0 (if isSRv6 intent then [] else intent.endpoints) ++ routedHalfCauses intent

def noPrefixes (families : Option AddressFamilies) : Prop :=
  ∀ af ∈ families, af.ipv4Prefixes = [] ∧ af.ipv6Prefixes = []

instance (families : Option AddressFamilies) : Decidable (noPrefixes families) :=
  inferInstanceAs (Decidable (∀ af ∈ families, _))

def ipVRFCauses : List Message :=
  causeIf (¬ isSRv6 intent ∧ noNumber intent.l3vni) [.lit "l3vni: required for ip-vrf"] ++
    causeIf (¬ isSRv6 intent ∧ ¬ ∀ vni ∈ intent.l3vni, inL3VNIBand vni) (unrenderable intent) ++
    causeIf (¬ isSRv6 intent ∧ intent.rdRt = none) [.lit "rdRt: required for ip-vrf"] ++
    causeIf (¬ isSRv6 intent ∧ noPrefixes intent.addressFamilies)
      [.lit "addressFamilies: at least one prefix is required for ip-vrf"] ++
    causeIf (¬ isSRv6 intent ∧ ¬ noNumber intent.l2vni)
      [.lit "l2vni: an ip-vrf carries no bridge domain; ask for a mac-vrf with an anycastGateway to get both"] ++
    causeIf (¬ isSRv6 intent ∧ intent.anycastGateway ≠ none)
      [.lit "anycastGateway: belongs to the mac-vrf whose SVI carries it, not to the ip-vrf"] ++
    causeIf (¬ isSRv6 intent ∧ intent.endpoints = []) [.lit "endpoints: ip-vrf requires >=1 endpoint"] ++
    if isSRv6 intent then []
    else intent.endpoints.zipIdx.flatMap fun (ep, i) =>
      causeIf (noText ep.vrf) (endpointCause i "vrf" [.lit "required for ip-vrf"])

end Constructs

section Filter
variable (decimalDigit : Char → Option Nat)

-- `str(proto_raw or "").lower()`
def protocolText : Option Protocol → String
  | none => ""
  | some (.name text) => lower text
  | some (.number value) => if value = 0 then "" else toString value

def protocolPiece : Option Protocol → Message
  | none => textRepr none
  | some (.name text) => textRepr (some text)
  | some (.number value) => [.int value]

def protocolWords : List String := ["any", "tcp", "udp", "icmp", "igmp", "rsvp", "gre", "ah", "pim", "l2tp"]

-- int() of a text, if it is a number from 0 to a bound.
def numberUpTo (bound : Int) (text : String) : Option Int := (PyText.int decimalDigit text).filter fun n => 0 ≤ n ∧ n ≤ bound

def badProtocol (i : Nat) (protocol : Option Protocol) : Message :=
  ruleCause i "protocol" ([.lit ("one of any, tcp, udp, icmp, igmp, rsvp, gre, ah, pim, l2tp or an IP protocol number 0-255 " ++
    "(got ")] ++ protocolPiece protocol ++ [.lit ")"])

def protocolCauses (i : Nat) (protocol : Option Protocol) : List Message :=
  causeIf (protocolText protocol ≠ "" ∧ protocolText protocol ∉ protocolWords ∧
      numberUpTo decimalDigit 255 (protocolText protocol) = none) (badProtocol i protocol) ++
    causeIf (protocolText protocol ∈ ["icmpv6", "ipv6-icmp"]) (badProtocol i protocol)

def prefixCauses (i : Nat) (field : String) (pfx : Option String) (type : Option ACLType) : List Message :=
  let text := pfx.getD ""
  if text = "" then []
  else
    match IPNetwork.ipNetwork text with
    | none => [ruleCause i field ([.lit "not a CIDR prefix ("] ++ textRepr text ++ [.lit ")"])]
    | some net =>
        causeIf (type = some .l3 ∧ net.version ≠ .v4)
            (ruleCause i field [.str text, .lit " is IPv6 but the acl type is l3 (IPv4); use type l3v6"]) ++
          causeIf (type = some .l3v6 ∧ net.version ≠ .v6)
            (ruleCause i field [.str text, .lit " is IPv4 but the acl type is l3v6; use type l3"])

-- port.split("-", 1), where there is a dash.
def splitDash (port : String) : String × Option String :=
  match port.toList.dropWhile (· ≠ '-') with
  | [] => (port, none)
  | _ :: rest => (String.ofList (port.toList.takeWhile (· ≠ '-')), some (String.ofList rest))

def portCauses (i : Nat) (field : String) (asked : Option String) (protocol : Option Protocol) : List Message :=
  let port := asked.getD ""
  if port = "" then []
  else if protocolText protocol ∉ ["tcp", "udp"] then
    [ruleCause i field ([.lit "L4 ports require protocol tcp or udp (got "] ++ protocolPiece protocol ++ [.lit ")"])]
  else
    match splitDash port with
    | (_, none) =>
        causeIf (numberUpTo decimalDigit 65535 port = none)
          (ruleCause i field ([.lit "not a port in 0-65535 ("] ++ textRepr port ++ [.lit ")"]))
    | (lo, some hi) =>
        match numberUpTo decimalDigit 65535 (strip lo), numberUpTo decimalDigit 65535 (strip hi) with
        | some loN, some hiN =>
            causeIf (hiN < loN) (ruleCause i field ([.lit "range "] ++ textRepr port ++ [.lit " ends below where it starts"]))
        | _, _ => [ruleCause i field ([.lit "not a port range in 0-65535 ("] ++ textRepr port ++ [.lit ")"])]

def nameCauses (i : Nat) (seen : List String) (name : String) : List Message :=
  if name = "" then [ruleCause i "name" [.lit "required"]]
  else if name ∈ seen then [ruleCause i "name" ([.lit "duplicate rule name "] ++ textRepr name)]
  else []

def priorityCauses (i : Nat) (seen : List Int) (priority : Int) : List Message :=
  if priority = 1 then
    [ruleCause i "priority" [.lit "1 is reserved for the default action; usable priorities are 2-65535"]]
  else if priority < 2 ∨ 65535 < priority then
    [ruleCause i "priority" [.lit "must be 2-65535 (got ", .int priority, .lit ")"]]
  else if priority ∈ seen then
    [ruleCause i "priority" [.int priority, .lit " is already used by another rule; priorities must be distinct"]]
  else []

def actionCauses (i : Nat) (action : Action) : List Message :=
  causeIf (lower action.value ∉ ["permit", "deny"])
    (ruleCause i "action" ([.lit "required, one of permit, deny (got "] ++ textRepr action.value ++ [.lit ")"]))

-- The causes that one rule's own values give.
def ruleTextCauses (type : Option ACLType) (i : Nat) (r : ACLRule) : List Message :=
  actionCauses i r.action ++ protocolCauses decimalDigit i r.protocol ++
    prefixCauses i "sourcePrefix" r.sourcePrefix type ++ prefixCauses i "destinationPrefix" r.destinationPrefix type ++
    portCauses decimalDigit i "sourcePort" r.sourcePort r.protocol ++
    portCauses decimalDigit i "destinationPort" r.destinationPort r.protocol

def rulesCauses (type : Option ACLType) : Nat → List String → List Int → List ACLRule → List Message :=
  distinctCauses ACLRule.name ACLRule.priority nameCauses priorityCauses (ruleTextCauses decimalDigit type)

def aclCauses (a : ACL) : List Message :=
  causeIf (a.stage = none) ([.lit "acl.stage: required, one of ingress, egress (got "] ++ textRepr (a.stage.map Stage.value) ++ [.lit ")"]) ++
    causeIf (a.type = none) ([.lit "acl.type: required, one of l3, l3v6 (got "] ++ textRepr (a.type.map ACLType.value) ++ [.lit ")"]) ++
    causeIf (¬ noText a.bindTo ∧ a.bindTo ≠ some "port")
      ([.lit "acl.bindTo: "] ++ textRepr a.bindTo ++ [.lit " is unsupported; an access list binds to ports"]) ++
    (if a.rules.getD [] = [] then [.lit "acl.rules: at least one rule is required"] ::
      causeIf (¬ noText a.name)
        [.lit "acl: a service carries its own rules and its name is a label; provide rules instead of referencing by name"] else []) ++
    rulesCauses decimalDigit a.type 0 [] [] (a.rules.getD [])

variable (intent : NormalizedServiceIntent)

-- The access list is only looked at where it is the service.
def aclServiceCauses : List Message :=
  causeIf (¬ isSRv6 intent ∧ (¬ noNumber intent.l2vni ∨ ¬ noNumber intent.l3vni ∨ intent.rdRt ≠ none ∨
      intent.anycastGateway ≠ none))
    [.lit ("acl: an acl binds to ports and carries no VNI, route targets or gateway; attach it to a vlan, mac-vrf or " ++
      "ip-vrf to filter that service")] ++
    causeIf (intent.endpoints = []) [.lit "endpoints: acl requires >=1 endpoint to bind to"] ++
    intent.acl.elim [] (aclCauses decimalDigit)

def constructCauses : List Message :=
  if intent.type = "vlan" then vlanServiceCauses intent
  else if intent.type = "mac-vrf" then macVRFCauses intent
  else if intent.type = "ip-vrf" then ipVRFCauses intent
  else if intent.type = "acl" then aclServiceCauses decimalDigit intent
  else [[.lit "type: unsupported '", .str intent.type, .lit "'"]]

variable (spineEnv : String)

def validationCauses (dupServiceID : Bool) : List Message :=
  causeIf (intent.serviceID = "") [.lit "serviceId: required"] ++
    causeIf (intent.tenant = "") [.lit "tenant: required"] ++
    causeIf (intent.type = "") [.lit "type: required"] ++
    causeIf dupServiceID [.lit "collision: duplicate serviceId '", .str intent.serviceID, .lit "' in batch"] ++
    intent.claims.present.map (fun name => [.lit "unsupported: ", .str name]) ++
    causeIf (intent.endpoints = []) [.lit "endpoints: at least one endpoint is required"] ++
    transportCauses spineEnv intent ++ constructCauses decimalDigit intent

-- `none` where the intent is valid, and the causes one after the other where it is not.
def validateAllOrNothing (dupServiceID : Bool) : Option Message :=
  match validationCauses decimalDigit intent spineEnv dupServiceID with
  | [] => none
  | first :: rest => some (first ++ rest.flatMap fun cause => .lit ", " :: cause)

end Filter

end AgenticNetops.Schemas
