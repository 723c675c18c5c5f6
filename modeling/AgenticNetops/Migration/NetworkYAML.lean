import AgenticNetops.Migration.Translate

set_option autoImplicit false

/- pkg/migration/translate.go: the text that a Network is written out as, line by line
   in a fixed order. No value is quoted but a route target. -/
namespace AgenticNetops.Migration

open GoText

def yamlIf (present : Prop) [Decidable present] (lines : List String) : List String := if present then lines else []

def annotationOrder : List String :=
  ["agentic-netops.io/translator", "agentic-netops.io/translator-version", "agentic-netops.io/mapping-version",
    "agentic-netops.io/migration-input-hash", "agentic-netops.io/tenant", "agentic-netops.io/service-type",
    "agentic-netops.io/source-service-type", "agentic-netops.io/limited-equivalence"]

def annotationLines (annotations : GoMap String) : List String :=
  annotationOrder.flatMap fun key =>
    ((annotations.get? key).map fun value => "    " ++ key ++ ": " ++ value).toList

-- The import and the export list below a routeTargets line.
def targetLines (indent : String) (targets : RouteTargets) : List String :=
  yamlIf (targets.imported ≠ [])
      ((indent ++ "import:") :: targets.imported.map fun rt => indent ++ "- \"" ++ rt ++ "\"") ++
    yamlIf (targets.exported ≠ [])
      ((indent ++ "export:") :: targets.exported.map fun rt => indent ++ "- \"" ++ rt ++ "\"")

def vlanLines (v : NetworkVLAN) : List String := ["  - name: " ++ v.name, "    vlan: " ++ toString v.vlan]

def irbLines (irb : IRB) : List String :=
  ["    irb:", "      vrf: " ++ irb.vrf] ++
    yamlIf (irb.gatewayV4 ≠ "") ["      gatewayIPv4: " ++ irb.gatewayV4] ++
    yamlIf (irb.gatewayV6 ≠ "") ["      gatewayIPv6: " ++ irb.gatewayV6]

def domainLines (bd : BridgeDomain) : List String :=
  ["  - name: " ++ bd.name] ++
    yamlIf (bd.vlan ≠ 0) ["    vlan: " ++ toString bd.vlan] ++
    yamlIf (bd.l2vni ≠ 0) ["    l2vni: " ++ toString bd.l2vni] ++
    bd.evpn.elim [] (fun evpn => ["    evpn:", "      routeTargets:"] ++ targetLines "        " evpn.routeTargets) ++
    bd.irb.elim [] irbLines

def routerLines (r : Router) : List String :=
  ["  - name: " ++ r.name, "    rd: " ++ r.rd, "    routeTargets:"] ++ targetLines "      " r.routeTargets ++
    yamlIf (r.l3vni ≠ 0) ["    l3vni: " ++ toString r.l3vni] ++
    yamlIf (r.prefixes ≠ []) ("    prefixes:" :: r.prefixes.map fun p => "    - " ++ p)

def ruleLines (r : ACLRule) : List String :=
  ["    - name: " ++ r.name] ++
    yamlIf (r.priority ≠ 0) ["      priority: " ++ toString r.priority] ++
    yamlIf (r.action ≠ "") ["      action: " ++ r.action] ++
    yamlIf (r.protocol ≠ "") ["      protocol: " ++ r.protocol] ++
    yamlIf (r.sourcePrefix ≠ "") ["      sourcePrefix: " ++ r.sourcePrefix] ++
    yamlIf (r.destinationPrefix ≠ "") ["      destinationPrefix: " ++ r.destinationPrefix] ++
    yamlIf (r.sourcePort ≠ "") ["      sourcePort: " ++ r.sourcePort] ++
    yamlIf (r.destinationPort ≠ "") ["      destinationPort: " ++ r.destinationPort] ++
    yamlIf (r.description ≠ "") ["      description: " ++ r.description]

def accessListLines (a : ACL) : List String :=
  ["  - name: " ++ a.name, "    stage: " ++ a.stage, "    type: " ++ a.type] ++
    yamlIf (a.defaultAction ≠ "") ["    defaultAction: " ++ a.defaultAction] ++
    yamlIf (a.rules ≠ []) ("    rules:" :: a.rules.flatMap ruleLines)

def attachmentLines (a : Attachment) : List String :=
  ["  - node: " ++ a.node] ++ yamlIf (a.vlan ≠ 0) ["    vlan: " ++ toString a.vlan] ++
    yamlIf (a.vrf ≠ "") ["    vrf: " ++ a.vrf] ++ ["    attachment: " ++ a.attachment]

-- A list of the spec and its heading, unless there is nothing in it.
def listLines {α : Type} (heading : String) (items : List α) (lines : α → List String) : List String :=
  yamlIf (items.length > 0) (heading :: items.flatMap lines)

-- The description has no %q, so the Unicode tables do not matter.
def descriptionText (description : Message) : String := String.ofList (Message.chars (fun _ => true) description)

def buildYAML (n : KubenetNetwork) : String :=
  String.join (
    (["apiVersion: network.kubenet.dev/v1alpha1", "kind: Network", "metadata:", "  name: " ++ n.name,
        "  namespace: " ++ n.inNamespace, "  annotations:"] ++
      annotationLines n.annotations ++
      ["spec:", "  description: " ++ descriptionText n.spec.description] ++
      listLines "  vlans:" n.spec.vlans vlanLines ++
      listLines "  bridgeDomains:" n.spec.bridgeDomains domainLines ++
      listLines "  routers:" n.spec.routers routerLines ++
      listLines "  accessLists:" n.spec.accessLists accessListLines ++
      listLines "  attachments:" n.spec.attachments attachmentLines).map fun line => line ++ "\n")

end AgenticNetops.Migration
