import AgenticNetops.Lib.IPNetwork
import AgenticNetops.Mapper.Patterns

set_option autoImplicit false

/- agents/provisioning/mapper/agent.py: what the mapper reads out of a request, part by
   part. A vlan number out of bounds is a ValidationError of the endpoint's own. -/
namespace AgenticNetops.Mapper

open GoText Regex PyText Schemas

inductive MapError where
  | endpointInvalid
  | interpretationInvalid
deriving DecidableEq, Repr

variable (table : CharTable)

def detectSRv6 (request : List Char) : Bool := (srv6Patterns table).any fun pattern => found pattern request

def detectServiceType (request : List Char) : Option ServiceType :=
  ((servicePatterns table).find? fun (_, patterns) => patterns.any fun pattern => found pattern request).map Prod.fst

def detectUnsupportedServiceType (request : List Char) : Option String :=
  ((unsupportedServiceTypes table).find? fun (pattern, _) => found pattern request).map Prod.snd

def detectUnsupported (request : List Char) : List String :=
  (unsupportedFeatures table).foldl
    (fun props (pattern, name) => if found pattern request && !props.contains name then props ++ [name] else props) []

section Spines

def groupText (found : Match) (name : String) : List Char := (found.group name).getD []

def lowerGroup (found : Match) (name : String) : String := String.ofList (lowerText table (groupText found name))

def parseAlternateSpine (request : List Char) : Option String :=
  (search (srv6Alternate table) request).map fun found => lowerGroup table found "name"

def isSpineWord (word : String) : Bool := word = "spine" || word = "spines"

-- The words after `prefer`: the name of a spine, if there is one, and whether a spine is meant.
def preferredAmong (words : List String) : Option String × Bool :=
  match words.filter fun word => hasPrefix word "spine" with
  | [] => (none, false)
  | spine :: spines =>
      if words.head?.any fun first => srv6SpineStop.contains first then
        ((spine :: spines).find? fun word => !isSpineWord word, true)
      else (if isSpineWord spine then none else some spine, true)

def parsePreferredSpine (request : List Char) : Option String × Bool :=
  match search (srv6SpineVia table) request with
  | some found => (some (lowerGroup table found "name"), true)
  | none =>
      match search (srv6Prefer table) request with
      | none => (none, false)
      | some found =>
          let words := (findAll (srv6Word table) (groupText found "tail")).map fun word =>
            String.ofList (lowerText table word.text)
          preferredAmong (words.filter fun word => word ≠ "an")

end Spines

def detectTenant (request : List Char) : Option String :=
  (search tenantRE request).map fun found => lowerGroup table found "tenant"

-- The IPv4 and the IPv6 networks, each one once.
def parsePrefixes (request : List Char) : List String × List String :=
  (findAll (prefixToken table) request).foldl
    (fun (ipv4, ipv6) found =>
      match IPNetwork.ipNetwork (String.ofList (groupText found "prefix")) with
      | none => (ipv4, ipv6)
      | some network =>
          let text := IPNetwork.networkText network
          match network.version with
          | .v4 => (if ipv4.contains text then ipv4 else ipv4 ++ [text], ipv6)
          | .v6 => (ipv4, if ipv6.contains text then ipv6 else ipv6 ++ [text]))
    ([], [])

section Endpoints

def parseVLAN (clause : List Char) : Option Int :=
  (search (vlanRE table) clause).bind fun found => int table.decimalDigit (String.ofList (groupText found "vlan"))

def endpointOrNone (node attachment : List Char) (vlan : Option Int) : Except MapError (Option EndpointIntent) :=
  let node := trimChars (anyOf ",.;:") (trimChars isBlank node)
  let attachment := trimChars (anyOf ",.;:") (trimChars isBlank attachment)
  if node = [] ∨ attachment = [] then .ok none
  else if node.any isBlank ∨ attachment.any isBlank then .ok none
  else if ∀ number ∈ vlan, 1 ≤ number ∧ number ≤ 4094 then
    .ok (some { siteOrNode := String.ofList node, attachment := String.ofList attachment, vlan })
  else .error .endpointInvalid

-- The two clauses of a request that joins two attachments.
def endpointPair (request : List Char) : Option Match :=
  (search endpointBetween request).or (search (endpointAttach table) request)

def blankSeparated (text : List Char) : List (List Char) := (text.splitOnP isBlank).filter fun part => !part.isEmpty

def cleanedClause (clause : List Char) : List Char :=
  let ended := subOnce endpointSentenceEnd (fun _ => []) clause
  let bounded := sub (endpointTrailingClause table) (fun _ => []) ended
  trimChars (anyOf " ,.;") (sub (vlanRE table) (fun _ => []) bounded)

def endpointOf (globalVLAN : Option Int) (clause : List Char) : Except MapError (Option EndpointIntent) :=
  let vlan := (parseVLAN table clause).or globalVLAN
  let clean := cleanedClause table clause
  match fullMatch attachmentOnNode clean with
  | some found => endpointOrNone (groupText found "node") (groupText found "attachment") vlan
  | none =>
      match blankSeparated clean with
      | node :: attachment :: _ => endpointOrNone node attachment vlan
      | _ => .ok none

def parseEndpoints (request : List Char) : Except MapError (List EndpointIntent) :=
  match endpointPair table request with
  | none =>
      match search (endpointSingleOn table) request with
      | none => .ok []
      | some single => do
          let endpoint ← endpointOrNone (groupText single "node") (groupText single "attachment") (parseVLAN table request)
          return endpoint.toList
  | some pair => do
      let globalVLAN := parseVLAN table request
      let left ← endpointOf table globalVLAN (trimChars isBlank (groupText pair "left"))
      let right ← endpointOf table globalVLAN (trimChars isBlank (groupText pair "right"))
      return left.toList ++ right.toList

def endpointPrefixClauses (request : List Char) : List (List Char) :=
  match endpointPair table request with
  | none => ((search (endpointSingleOn table) request).map Match.text).toList
  | some pair => [groupText pair "left", groupText pair "right"]

-- The prefixes of an endpoint's own clause, or else the one that is next in the request.
def endpointPrefixes (clauses : List (List Char)) (prefixes : List String) (position : Nat) : List String :=
  let own := (clauses[position]?.map fun clause => (parsePrefixes table clause).1 ++ (parsePrefixes table clause).2).getD []
  if own = [] then prefixes[position]?.toList else own

def attachEndpointPrefixes (request : List Char) (endpoints : List EndpointIntent) (prefixes : List String) :
    List EndpointIntent :=
  let clauses := endpointPrefixClauses table request
  endpoints.mapIdx fun position endpoint =>
    match endpointPrefixes table clauses prefixes position with
    | [] => endpoint
    | own => { endpoint with prefixes := some own }

end Endpoints

section Filters

def aclRule (request : List Char) : Option ACLRule :=
  let proto := search (aclProto table) request
  let port := search (aclPort table) request
  let src := search (aclSrcPrefix table) request
  let dst := search (aclDstPrefix table) request
  if proto.isSome ∨ port.isSome ∨ src.isSome then
    some
      { name := "rule-1"
        priority := 100
        action := if found (aclPermit table) request then .permit else .deny
        protocol := proto.map fun found => .name (lowerGroup table found "proto")
        destinationPort := port.bind fun found =>
          (((found.group "port").or (found.group "slashed")).or (found.group "bare")).map String.ofList
        sourcePrefix := src.map fun found => String.ofList (groupText found "prefix")
        destinationPrefix := dst.map fun found => String.ofList (groupText found "prefix") }
  else none

-- The acl of a payload, before it is validated: its stage is still text.
structure ACLBlock where
  stage : String
  type : ACLType
  defaultAction : Option Action := none
  rules : List ACLRule
deriving DecidableEq, Repr

-- The filter that the request describes, or the fields it is missing.
def parseACL (request : List Char) : Option ACLBlock × List String :=
  match search (aclStage table) request, aclRule table request with
  | none, none => (none, ["acl.stage", "acl.rules"])
  | none, some _ => (none, ["acl.stage"])
  | some _, none => (none, ["acl.rules"])
  | some stage, some rule =>
      (some
        { stage := lowerGroup table stage "stage"
          type := if found (aclV6 table) request then .l3v6 else .l3
          defaultAction := if found (aclDenyRest table) request ∧ rule.action = .permit then some .deny else none
          rules := [rule] }, [])

-- The address of a gateway, and whether the request names a gateway at all.
def parseAnycastGateway (request : List Char) : Option AnycastGatewayIntent × Bool :=
  if found anycastGateway request then
    match search (gatewayAddr table) request with
    | none => (none, true)
    | some found =>
        let addr := groupText found "addr"
        if addr.contains ':' then (some { ipv6 := some (String.ofList addr) }, true)
        else (some { ipv4 := some (String.ofList addr) }, true)
  else (none, false)

end Filters

end AgenticNetops.Mapper
