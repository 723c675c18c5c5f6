import AgenticNetops.Fabricplan.Attachments

set_option autoImplicit false

/- pkg/fabricplan/plan.go: what an access list adds to the plan of a node, bound to that
   node's ports. -/
namespace AgenticNetops.Fabricplan

open GoText Kubenet Migration

-- A field of an ACL rule's row; an undeclared one is not written.
abbrev RowField := String × String

def declared (field value : String) : List RowField := if value ≠ "" then [(field, value)] else []

def portField (single range value : String) : List RowField :=
  if value = "" then [] else if contains value "-" then [(range, value)] else [(single, value)]

-- The match fields of a rule: protocol, addresses of the list's family, ports.
def matchFields (al : AccessList) (r : ACLRule) : List RowField :=
  let v6 := equalFold al.type "l3v6"
  declared "IP_PROTOCOL" (protoToNumber r.protocol) ++
    declared (if v6 then "SRC_IPV6" else "SRC_IP") r.sourcePrefix ++
    declared (if v6 then "DST_IPV6" else "DST_IP") r.destinationPrefix ++
    portField "L4_SRC_PORT" "L4_SRC_PORT_RANGE" r.sourcePort ++ portField "L4_DST_PORT" "L4_DST_PORT_RANGE" r.destinationPort

def verdictFields (priority : Int) (action : String) : List RowField :=
  [("PRIORITY", toString priority), ("PACKET_ACTION", actionToPacket action)]

def fieldOps (row : ConfigRow) (fields : List RowField) : NetworkOp := { redis := fields.map fun field => .hset row [field] }

def fieldChecks (row : ConfigRow) (fields : List RowField) : List Check :=
  { type := .redisExists, redisKey := row.text } ::
    fields.map fun field => { type := .redisHget, redisKey := row.text, redisField := field.1, expect := field.2 }

def rulePart (al : AccessList) (table : String) (r : ACLRule) : Part :=
  let row := aclRuleRow table r.name
  let fields := verdictFields r.priority r.action ++ matchFields al r
  { ops := [fieldOps row (fields ++ declared "RULE_DESCRIPTION" r.description)]
    checks := fieldChecks row fields
    rollback := [{ redis := [.del row] }] }

-- The default action, at the lowest priority.
def defaultPart (al : AccessList) (table : String) : Part :=
  if al.defaultAction = "" then {}
  else
    let row := aclRuleRow table "default"
    let fields := verdictFields 1 al.defaultAction
    { ops := [fieldOps row fields], checks := fieldChecks row fields, rollback := [{ redis := [.del row] }] }

-- A rule that a sonic-vm renders as an entry has something to match on.
def qualified (r : ACLRule) : Bool :=
  r.protocol ≠ "" || r.sourcePrefix ≠ "" || r.destinationPrefix ≠ "" || r.sourcePort ≠ "" || r.destinationPort ≠ ""

def minEntries (al : AccessList) (opts : Options) : Nat :=
  if opts.onVM then (al.rules.filter qualified).length else al.rules.length + if al.defaultAction ≠ "" then 1 else 0

def stageSAI (al : AccessList) : String :=
  if equalFold al.stage "egress" then "SAI_ACL_STAGE_EGRESS" else "SAI_ACL_STAGE_INGRESS"

def tableChecks (al : AccessList) (table portsCSV : String) (opts : Options) : List Check :=
  let key := (aclTableRow table).text
  [{ type := .redisExists, redisKey := key },
   { type := .redisHget, redisKey := key, redisField := "stage", expect := toUpper al.stage },
   { type := .redisHget, redisKey := key, redisField := "type", expect := toUpper (replaceAll al.type 'v' "V") },
   { type := .redisHgetContains, redisKey := key, redisField := "ports@", expect := portsCSV },
   { type := .redisKeysMatch, redisDB := "1", redisKey := "ASIC_STATE:SAI_OBJECT_TYPE_ACL_TABLE:*"
     matchFields :=
       [("SAI_ACL_TABLE_ATTR_ACL_STAGE", stageSAI al),
        ("SAI_ACL_TABLE_ATTR_ACL_BIND_POINT_TYPE_LIST",
          if opts.onVM then "~SAI_ACL_BIND_POINT_TYPE_PORT" else "SAI_ACL_BIND_POINT_TYPE_PORT")] }] ++
  if minEntries al opts = 0 then []
  else
    [{ type := .redisKeysMatch, redisDB := "1", redisKey := "ASIC_STATE:SAI_OBJECT_TYPE_ACL_ENTRY:*", minCount := minEntries al opts }]

def renderACL (al : AccessList) (ports : List String) (serviceID tenant : String) (opts : Options) : Except Error Part :=
  if ports = [] then .ok {}
  else do
    let table ← deviceACLTableName serviceID al.stage
    let portsCSV := join ports ","
    let row := aclTableRow table
    let rules := al.rules.map (rulePart al table)
    let fallback := defaultPart al table
    return {
      ops :=
        fieldOps row [("stage", toUpper al.stage), ("type", toUpper al.type), ("ports@", portsCSV), ("policy_desc", tenant ++ "/" ++ serviceID)] ::
          rules.flatMap Part.ops ++ fallback.ops ++ if opts.onVM then [{ shell := [.awaitACLTable (stageSAI al)] }] else []
      checks := rules.flatMap Part.checks ++ fallback.checks ++ tableChecks al table portsCSV opts
      rollback := rules.flatMap Part.rollback ++ fallback.rollback ++ [{ redis := [.del row] }] }

end AgenticNetops.Fabricplan
