import AgenticNetops.Mapper.SRv6
import AgenticNetops.Schemas.InterpretationChecks

set_option autoImplicit false

/- agents/provisioning/mapper/agent.py: `_map_node` and `ainvoke`. The generated service
   id is an argument; the summary that goes with the interpretation is left out. -/
namespace AgenticNetops.Mapper

open GoText Regex PyText Schemas

variable (table : CharTable)

-- The dict that `_map_node` validates.
structure Payload where
  serviceID : String
  serviceType : ServiceType
  tenant : String
  endpoints : List EndpointIntent
  bandwidth : Option String := none
  ipv4Prefixes : List String := []
  ipv6Prefixes : List String := []
  acl : Option ACLBlock := none
  anycastGateway : Option AnycastGatewayIntent := none
  transport : Option Transport := none
  signalling : Option Signalling := none
  preferredSpine : Option String := none
  alternateSpine : Option String := none
  missingFields : List String := []
  unsupportedProperties : List String := []
deriving DecidableEq, Repr

section Validation

def stageNamed (stage : String) : Option Stage :=
  if stage = "ingress" then some .ingress else if stage = "egress" then some .egress else none

def ACLBlock.interpret (block : ACLBlock) : Option Interpretation.ACL :=
  (stageNamed block.stage).map fun stage =>
    { stage, type := block.type, defaultAction := block.defaultAction, rules := block.rules }

def interpretFilter : Option ACLBlock → Option (Option Interpretation.ACL)
  | none => some none
  | some block => block.interpret.map some

def Payload.interpret (payload : Payload) (acl : Option Interpretation.ACL) : Interpretation :=
  { serviceID := payload.serviceID, serviceType := payload.serviceType, tenant := payload.tenant,
    endpoints := payload.endpoints, bandwidth := payload.bandwidth, ipv4Prefixes := payload.ipv4Prefixes,
    ipv6Prefixes := payload.ipv6Prefixes, acl := acl, anycastGateway := payload.anycastGateway,
    transport := payload.transport, signalling := payload.signalling, preferredSpine := payload.preferredSpine,
    alternateSpine := payload.alternateSpine, missingFields := payload.missingFields,
    unsupportedProperties := payload.unsupportedProperties }

def Payload.modelValidate (payload : Payload) : Option Interpretation := do
  let acl ← interpretFilter payload.acl
  (payload.interpret acl).modelValidate table

end Validation

section Plain

-- The construct of a request that does not name SRv6, or why there is none.
def plainConstruct (request : List Char) : ServiceType × List String :=
  match detectServiceType table request with
  | some construct => (construct, [])
  | none =>
      match detectUnsupportedServiceType table request with
      | some label => (.vlan, ["serviceType:" ++ label])
      | none => (.vlan, ["constructs: vlan, mac-vrf, ip-vrf, acl"])

def minEndpoints (construct : ServiceType) : Nat := if construct = .macVRF then 2 else 1

def padEndpoints (count : Nat) (endpoints : List EndpointIntent) : List EndpointIntent :=
  endpoints ++ List.replicate (count - endpoints.length) missingEndpoint

-- The filter of a request, and what it asks for: of another construct's filter, never its rules.
def plainFilter (request : List Char) (construct : ServiceType) : Option ACLBlock × List String :=
  if construct = .acl then parseACL table request
  else if found (aclFilterClause table) request then
    match parseACL table request with
    | (some block, _) => (some block, [])
    | (none, missing) => (none, if missing.contains "acl.rules" then [] else missing)
  else (none, [])

structure PlainGateway where
  gateway : Option AnycastGatewayIntent := none
  missing : List String := []
  unsupported : List String := []

def plainGateway (request : List Char) (construct : ServiceType) : PlainGateway :=
  match parseAnycastGateway table request with
  | (_, false) => {}
  | (gateway, true) =>
      if construct ≠ .macVRF then { unsupported := ["anycastGateway: only a mac-vrf carries an anycast gateway"] }
      else if gateway = none then { missing := ["anycast_gateway"] }
      else { gateway := gateway }

def plainPayload (serviceID : String) (request : List Char) : Except MapError Payload := do
  let (construct, refused) := plainConstruct table request
  let tenant := (detectTenant table request).getD ""
  let endpoints ← parseEndpoints table request
  let minimum := minEndpoints construct
  let (ipv4, ipv6) := if construct = .ipVRF then parsePrefixes table request else ([], [])
  let (acl, aclMissing) := plainFilter table request construct
  let gateway := plainGateway table request construct
  let unsupported := detectUnsupported table request ++
    fieldIf ((parsePreferredSpine table request).2 = true) "tePolicy" ++ refused ++ gateway.unsupported
  let missing := fieldIf (tenant = "") "tenant" ++ fieldIf (endpoints.length < minimum) "endpoints" ++ aclMissing ++
    gateway.missing
  return { serviceID, serviceType := construct, tenant := if tenant = "" then "missing" else tenant,
           endpoints := padEndpoints minimum endpoints, ipv4Prefixes := ipv4, ipv6Prefixes := ipv6, acl,
           anycastGateway := gateway.gateway, missingFields := if unsupported = [] then missing else [],
           unsupportedProperties := unsupported }

end Plain

def srv6Payload (serviceID : String) (request : List Char) : Except MapError Payload := do
  let fields ← srv6Mapping table request
  let unsupported := detectUnsupported table request ++ fields.unsupported
  return { serviceID, serviceType := fields.serviceType, tenant := fields.tenant, endpoints := fields.endpoints,
           ipv4Prefixes := fields.ipv4Prefixes, ipv6Prefixes := fields.ipv6Prefixes, transport := fields.transport,
           signalling := fields.signalling, preferredSpine := fields.preferredSpine,
           alternateSpine := fields.alternateSpine, missingFields := if unsupported = [] then fields.missing else [],
           unsupportedProperties := unsupported }

def bandwidthOf (request : List Char) : Option String :=
  if bandwidthHints.any fun hint => found hint request then
    (search (bandwidthRE table) request).map fun found =>
      String.ofList (lowerText table ((groupText found "1").filter fun c => c ≠ ' '))
  else none

-- What is left of a message without its data fences.
def requestText (content : List Char) : List Char := trimChars isBlank (sub dataFence (fun _ => []) content)

-- Whether the request names SRv6 is asked before anything else.
def requestPayload (serviceID : String) (request : List Char) : Except MapError Payload :=
  if detectSRv6 table request then srv6Payload table serviceID request else plainPayload table serviceID request

def mapNode (serviceID : String) (content : List Char) : Except MapError (Option Interpretation) := do
  let payload ← requestPayload table serviceID (requestText content)
  return { payload with bandwidth := bandwidthOf table (requestText content) }.modelValidate table

-- The payload is validated once more; with no payload, that fails.
def ainvoke (serviceID : String) (content : List Char) : Except MapError Interpretation :=
  match mapNode table serviceID content with
  | .error failure => .error failure
  | .ok none => .error .interpretationInvalid
  | .ok (some interp) =>
      match interp.modelValidate table with
      | none => .error .interpretationInvalid
      | some again => .ok again

-- Text of ASCII characters only needs none of Unicode's tables.
def asciiTable : CharTable where
  isAlnum := fun _ => false
  isDigit := fun _ => false
  decimalDigit := fun _ => none
  lower := id

end AgenticNetops.Mapper
