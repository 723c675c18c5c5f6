import AgenticNetops.Mapper.Parsing

set_option autoImplicit false

/- agents/provisioning/mapper/agent.py: srv6_mapping, the mapping of a request that
   names SRv6. Its construct is a placeholder wherever a flag is set. -/
namespace AgenticNetops.Mapper

open Regex PyText Schemas

def srv6ConstructField : String := "srv6_construct"
def srv6SignallingField : String := "srv6_signalling"
def srv6OtherEndpointField : String := "srv6_other_endpoint"
def srv6PrefixField : String := "srv6_prefix"
def srv6VLANField : String := "srv6_vlan"
def srv6PreferredSpineField : String := "srv6_preferred_spine"
def srv6TransportConflict : String := "srv6TransportConflict"
def srv6UnsupportedConstruct : String := "srv6UnsupportedConstruct"

structure SRv6Fields where
  serviceType : ServiceType
  tenant : String
  endpoints : List EndpointIntent
  ipv4Prefixes : List String := []
  ipv6Prefixes : List String := []
  transport : Option Transport := none
  signalling : Option Signalling := none
  preferredSpine : Option String := none
  alternateSpine : Option String := none
  missing : List String := []
  unsupported : List String := []
deriving DecidableEq, Repr

inductive SRv6Construct where
  | macVRF
  | ipVRF
  | blocked
  | unclear
deriving DecidableEq, Repr

def missingEndpoint : EndpointIntent := { siteOrNode := "missing", attachment := "missing" }

variable (table : CharTable)

def detectSRv6Construct (request : List Char) : SRv6Construct :=
  if found (srv6ACL table) request then .blocked
  else if found (srv6MACVRF table) request then .macVRF
  else if found (srv6IPVRF table) request ∨ (ipVRFPatterns table).any fun pattern => found pattern request then .ipVRF
  else if found (vlanRE table) request then .blocked
  else .unclear

-- The order in which the questions are asked.
def fieldOrder (field : String) : Nat :=
  if field = srv6ConstructField ∨ field = srv6SignallingField then 0
  else if field = "tenant" then 1
  else if field = srv6OtherEndpointField then 2
  else if field = srv6PrefixField then 3
  else if field = srv6VLANField then 4
  else if field = srv6PreferredSpineField then 5
  else 9

def sortFields (fields : List String) : List String := fields.insertionSort fun a b => fieldOrder a ≤ fieldOrder b

def fieldIf (absent : Prop) [Decidable absent] (field : String) : List String := if absent then [field] else []

def orMissing (endpoints : List EndpointIntent) : List EndpointIntent :=
  if endpoints = [] then [missingEndpoint] else endpoints

def preferredSpineFields (request : List Char) : Option String × List String :=
  match parsePreferredSpine table request with
  | (_, false) => (none, [])
  | (some name, true) => (some name, [])
  | (none, true) => (none, [srv6PreferredSpineField])

-- An SRv6 service joins two attachments on distinct nodes.
def otherEndpointFields (endpoints : List EndpointIntent) : List String :=
  fieldIf (endpoints.length < 2 ∨ (endpoints.map fun ep => lowerText table ep.siteOrNode.toList).dedup.length < 2)
    srv6OtherEndpointField

def routedMapping (request : List Char) (tenant : String) (missing : List String) (endpoints : List EndpointIntent) :
    SRv6Fields :=
  let (ipv4, ipv6) := parsePrefixes table request
  let (spine, spineMissing) := preferredSpineFields table request
  { serviceType := .ipVRF
    tenant := tenant
    endpoints :=
      if ipv4 = [] ∧ ipv6 = [] then orMissing endpoints
      else attachEndpointPrefixes table request (orMissing endpoints) (ipv4 ++ ipv6)
    ipv4Prefixes := ipv4
    ipv6Prefixes := ipv6
    transport := some .srv6
    signalling := some (if found (srv6EVPN table) request then .evpn else .vpn)
    preferredSpine := spine
    alternateSpine := parseAlternateSpine table request
    missing := sortFields (missing ++ otherEndpointFields table endpoints ++
      fieldIf (ipv4 = [] ∧ ipv6 = []) srv6PrefixField ++ spineMissing) }

def bridgedMapping (request : List Char) (tenant : String) (missing : List String) (endpoints : List EndpointIntent) :
    SRv6Fields :=
  let (spine, spineMissing) := preferredSpineFields table request
  { serviceType := .macVRF
    tenant := tenant
    endpoints := orMissing endpoints
    transport := some .srv6
    signalling := some .evpn
    preferredSpine := spine
    alternateSpine := parseAlternateSpine table request
    missing := sortFields (missing ++ otherEndpointFields table endpoints ++
      fieldIf (¬ found (vlanRE table) request) srv6VLANField ++ spineMissing) }

def srv6Mapping (request : List Char) : Except MapError SRv6Fields :=
  let tenant := (detectTenant table request).getD ""
  let missing := fieldIf (tenant = "") "tenant"
  let tenant := if tenant = "" then "missing" else tenant
  let flagged : SRv6Fields := { serviceType := .vlan, tenant := tenant, endpoints := [missingEndpoint], missing := missing }
  if found (srv6VXLANTerms table) request then .ok { flagged with unsupported := [srv6TransportConflict] }
  else
    match detectSRv6Construct table request with
    | .blocked => .ok { flagged with unsupported := [srv6UnsupportedConstruct] }
    | .unclear =>
        let field := if found (srv6EVPN table) request then srv6SignallingField else srv6ConstructField
        .ok { flagged with transport := some .srv6, missing := missing ++ [field] }
    | .macVRF => do
        let endpoints ← parseEndpoints table request
        return bridgedMapping table request tenant missing endpoints
    | .ipVRF => do
        let endpoints ← parseEndpoints table request
        return routedMapping table request tenant missing endpoints

end AgenticNetops.Mapper
