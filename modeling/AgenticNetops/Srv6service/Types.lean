import AgenticNetops.Fabricplan.SRv6

set_option autoImplicit false

/- controllers/srv6service: types.go, the site facts of validate.go, the service
   SIDs of allocate.go and the plan stage (plan.go). -/
namespace AgenticNetops.Srv6service

open GoText Api Fabricplan

inductive RefusalKind where
  | site
  | port
  | cap
  | variant
  | pool
  | vlan
  | apply
  | check
  | locator
  | dataPath
  | path
  | finalizing
deriving DecidableEq, Repr

def RefusalKind.terminal : RefusalKind → Bool
  | .site | .port | .cap | .variant | .pool | .vlan => true
  | _ => false

structure Refusal where
  reason : Reason
  message : Message
  kind : RefusalKind
deriving DecidableEq, Repr

def correlationID (svc : SRv6Service) : String :=
  if svc.labels.text correlationIDLabel ≠ "" then svc.labels.text correlationIDLabel else svc.uid

structure SiteFacts where
  nodes : GoMap String
  portMap : PortMapper
  spineLinks : GoMap (GoMap String)
  locators : GoMap String
  nodeKind : String
deriving DecidableEq, Repr

def roleLeaf : String := "leaf"
def roleSpine : String := "spine"

-- The pinned sonic-vm lab.
def defaultSiteFacts : SiteFacts where
  nodes := [("leaf01", roleLeaf), ("leaf02", roleLeaf), ("spine01", roleSpine), ("spine02", roleSpine)]
  portMap := [("wan1", "Ethernet12")]
  spineLinks :=
    [("leaf01", [("spine01", "2001:db8:1::3"), ("spine02", "2001:db8:2::3")]),
     ("leaf02", [("spine01", "2001:db8:1::5"), ("spine02", "2001:db8:2::5")])]
  locators :=
    [("spine01", "fcbb:bbbb:1::/48"), ("spine02", "fcbb:bbbb:2::/48"),
     ("leaf01", "fcbb:bbbb:3::/48"), ("leaf02", "fcbb:bbbb:4::/48")]
  nodeKind := "sonic-vm"

def srv6SIDFunction : String := "11"

def serviceSIDFromLocator (locator : String) : Except Message String :=
  if hasSuffix locator "::/48" then .ok (trimSuffix locator "::/48" ++ ":" ++ srv6SIDFunction ++ "::/64")
  else .error [.lit "locator ", .quoted locator, .lit " is not a /48"]

def serviceSIDsOf (locators : GoMap String) : List Attachment → GoMap String → Except Message (GoMap String)
  | [], out => .ok out
  | att :: rest, out =>
      let loc := locators.text att.node
      if loc = "" then .error [.lit "no bootstrap locator carried for attachment node ", .str att.node]
      else
        match serviceSIDFromLocator loc with
        | .error message => .error message
        | .ok sid => serviceSIDsOf locators rest (out.set att.node sid)

def serviceSIDs (spec : SRv6ServiceSpec) (locators : GoMap String) : Except Message (GoMap String) :=
  serviceSIDsOf locators spec.attachments []

structure Allocation where
  allocations : Api.Allocations
  serviceSIDs : GoMap String
deriving DecidableEq, Repr

def buildPlan (spec : SRv6ServiceSpec) (alloc : Allocation) (facts : SiteFacts) : Except Fabricplan.Error SRv6Plan :=
  forSRv6Service spec
    { serviceID := alloc.allocations.serviceID, vrf := alloc.allocations.vrf,
      serviceSIDs := alloc.serviceSIDs, clientPrefixes := alloc.allocations.clientPrefixes }
    { ports := facts.portMap, nodeKind := facts.nodeKind, spineLinks := facts.spineLinks,
      locators := facts.locators }

def planOrder (plan : SRv6Plan) : List String := plan.sortedKeys

/- The JSON form of an op, up to encoding: its fields with every command as text.
   canonicalOp and nodeHash read an op through it only. -/
def canonicalOp (op : SRv6Op) : Op Empty String :=
  { gcu := op.gcu, redis := op.redis, shell := op.shell.map IpCommand.text, vtysh := op.vtysh,
    frrConf := op.frrConf, onClient := op.onClient }

-- sha256 over the JSON of an ops list; which digest it is plays no part here.
abbrev Digest := List (Op Empty String) → String

def nodeHash (digest : Digest) (ops : List SRv6Op) : String := digest (ops.map canonicalOp)

def planHashes (digest : Digest) (plan : SRv6Plan) : GoMap String :=
  plan.map fun entry => (entry.1, nodeHash digest entry.2.ops)

def hashesEqual (stored fresh : GoMap String) : Bool :=
  ¬ stored.isEmpty && fresh.all fun entry => stored.text entry.1 = entry.2

end AgenticNetops.Srv6service
