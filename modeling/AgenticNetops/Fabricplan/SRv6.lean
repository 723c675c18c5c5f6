import AgenticNetops.Lib.NetIP
import AgenticNetops.Api.SRv6Service
import AgenticNetops.Fabricplan.Plan

set_option autoImplicit false

/- pkg/fabricplan/srv6.go: one SRv6Service rendered into per-node ops, checks and
   rollback. The shell commands keep their arguments apart; `text` is the
   command as the source formats it. -/
namespace AgenticNetops.Fabricplan

open GoText NetIP Api

structure SRv6Options where
  ports : PortMapper
  nodeKind : String := ""
  spineLinks : GoMap (GoMap String)
  locators : GoMap String

structure Allocations where
  serviceID : Int
  vrf : String
  serviceSIDs : GoMap String
  clientPrefixes : GoMap String

def srv6Uplink : String := "Ethernet0"

inductive IpCommand where
  | decapReplace (sid vrf : String)
  | steerReplace (client vrf segs : String)
  | locatorPinReplace (locator via : String)
  | preferredPinReplace (sid via : String)
  | addrFlush (dev : String)
  | addrAdd (addr dev : String)
  | defaultReplace (via dev : String)
  | routeDelLoop (pfx : String)
  | vrfRouteDel (vrf pfx : String)
  | routeDel (pfx : String)
deriving DecidableEq, Repr

def IpCommand.text : IpCommand → String
  | .decapReplace sid vrf =>
      "ip -6 route replace " ++ sid ++ " encap seg6local action End.DT46 vrftable $(ip -d link show " ++ vrf ++
        " 2>/dev/null | grep -o 'table [0-9]*' | cut -d' ' -f2) count dev " ++ vrf
  | .steerReplace client vrf segs =>
      "ip route replace " ++ client ++ " vrf " ++ vrf ++ " encap seg6 mode encap segs " ++ segs ++ " dev " ++ srv6Uplink
  | .locatorPinReplace locator via =>
      "ip -6 route replace " ++ locator ++ " via " ++ via ++ " dev " ++ srv6Uplink ++ " metric 5"
  | .preferredPinReplace sid via =>
      "ip -6 route replace " ++ sid ++ " from :: via " ++ via ++ " dev " ++ srv6Uplink ++ " metric 20"
  | .addrFlush dev => "ip addr flush dev " ++ dev
  | .addrAdd addr dev => "ip addr add " ++ addr ++ " dev " ++ dev
  | .defaultReplace via dev => "ip route replace default via " ++ via ++ " dev " ++ dev
  | .routeDelLoop pfx => "for i in 1 2 3 4 5; do ip -6 route del " ++ pfx ++ " 2>/dev/null || break; done; true"
  | .vrfRouteDel vrf pfx => "ip route del vrf " ++ vrf ++ " " ++ pfx ++ " 2>/dev/null; true"
  | .routeDel pfx => "ip -6 route del " ++ pfx ++ " 2>/dev/null; true"

-- The SRv6 renderer emits no Redis command at all.
abbrev SRv6Op := Op Empty IpCommand
abbrev SRv6NodePlan := NodePlan Empty IpCommand
abbrev SRv6Plan := Plan Empty IpCommand

def hostAddr (octet : Nat) (pfx : String) : Except Error String :=
  match parsePrefix pfx with
  | .error message => .error message
  | .ok ⟨.v4 octets, 24⟩ => .ok (octetsText (octets.take 3 ++ [octet]) ++ "/24")
  | .ok _ => .error [.lit "client prefix ", .quoted pfx, .lit " is not an IPv4 /24"]

def gatewayAddr (pfx : String) : Except Error String := hostAddr 1 pfx

def clientHostAddr (pfx : String) : Except Error String := hostAddr 2 pfx

structure Attach where
  port : String
  logic : String
  sid : String
  sidFn : String
  client : String
  gw : String
  loc : String

def renderAttach (spec : SRv6ServiceSpec) (alloc : Allocations) (opts : SRv6Options) (n : String) :
    Except Error Attach :=
  let sid := alloc.serviceSIDs.text n
  let client := alloc.clientPrefixes.text n
  let loc := opts.locators.text n
  if sid = "" then .error [.lit "no service SID allocated for attachment node ", .str n]
  else if ¬ hasSuffix sid "/64" then
    .error [.lit "service SID ", .quoted sid, .lit " for ", .str n, .lit " is not a /64"]
  else if client = "" then .error [.lit "no client prefix allocated for attachment node ", .str n]
  else
    match gatewayAddr client with
    | .error message => .error ([.lit "client prefix ", .quoted client, .lit " for ", .str n, .lit ": "] ++ message)
    | .ok gw =>
        if loc = "" then .error [.lit "no bootstrap locator carried for attachment node ", .str n]
        else
          let logic := ((spec.attachments.find? fun att => att.node = n).map Attachment.port).getD ""
          match opts.ports.port logic with
          | .error message => .error message
          | .ok port => .ok { port, logic, sid, sidFn := trimSuffix sid "/64", client, gw, loc }

/- The spine whose leg the /48 pin uses on node n: the preferred spine when the
   service is steered, else the sorted-first spine with a leg address. -/
def pinLinkFor (spec : SRv6ServiceSpec) (opts : SRv6Options) (n : String) : Except Error String :=
  let legs := (opts.spineLinks.get? n).getD []
  if legs = [] then
    .error [.lit "no spine link addresses carried for node ", .str n, .lit " (opts.SpineLinks)"]
  else
    let missing (spine : String) : Error :=
      [.lit "no spine link address carried for spine ", .str spine, .lit " on node ", .str n]
    if spec.path.preferredSpine ≠ "" then
      if legs.text spec.path.preferredSpine = "" then .error (missing spec.path.preferredSpine)
      else .ok (legs.text spec.path.preferredSpine)
    else
      match sortStrings (legs.keys.filter fun spine => legs.text spine ≠ "") with
      | [] => .error [.lit "no spine link address carried for node ", .str n, .lit " (opts.SpineLinks)"]
      | pinSpine :: _ => .ok (legs.text pinSpine)

def gwKey (self : Attach) : String := "/INTERFACE/" ++ self.port ++ "|" ++ replaceAll self.gw '/' "~1"

def renderOps (vrf : String) (n : String) (self peer : Attach) (pinLink : String) (pinned : Bool)
    (clientAddr : String) : List SRv6Op :=
  [{ gcu := [.add ("/VRF/" ++ vrf) []] },
   { gcu := [.add ("/INTERFACE/" ++ self.port) [("vrf_name", vrf)], .add (gwKey self) []] },
   { shell := [.decapReplace self.sid vrf] },
   { shell := [.steerReplace peer.client vrf peer.sidFn] },
   { shell := [.locatorPinReplace peer.loc pinLink] }] ++
  (if pinned then [{ shell := [.preferredPinReplace peer.sidFn pinLink] }] else []) ++
  [{ onClient := n ++ "/" ++ self.logic,
     shell := [.addrFlush "eth1", .addrAdd clientAddr "eth1", .defaultReplace (trimSuffix self.gw "/24") "eth1"] }]

def renderChecks (vrf : String) (n : String) (self peer : Attach) (pinLink : String) (pinned : Bool)
    (clientAddr : String) : List Check :=
  [{ type := .redisExists, redisKey := "VRF|" ++ vrf, redisDB := "4" },
   { type := .ipAddr, iface := self.port, addr := self.gw },
   { type := .ipMaster, iface := self.port, master := vrf },
   { type := .command, command := "ip -br link show " ++ vrf, expect := "UP" },
   { type := .command, command := "ip -6 route show | grep seg6local",
     expect := self.sid ++ "  encap seg6local action End.DT46" },
   { type := .command, command := "ip route show vrf " ++ vrf ++ " | grep encap",
     expect := "encap seg6 mode encap segs 1 [ " ++ peer.sidFn ++ " ]" },
   { type := .command, command := "ip -6 route show | grep 'metric 5'", expect := peer.loc ++ " via " ++ pinLink },
   { type := .ipAddr, iface := "eth1", addr := clientAddr, onClient := n ++ "/" ++ self.logic }] ++
  (if pinned then
    [{ type := .command, command := "ip -6 route show", expect := peer.sidFn ++ " from :: via " ++ pinLink }]
  else [])

def renderRollback (vrf : String) (n : String) (self peer : Attach) (pinned : Bool) : List SRv6Op :=
  [{ shell := (if pinned then [.routeDelLoop peer.sidFn] else []) ++
      [.vrfRouteDel vrf peer.client, .routeDelLoop self.sid, .routeDel peer.loc] },
   { gcu := [.remove (gwKey self), .remove ("/INTERFACE/" ++ self.port)] },
   { gcu := [.remove "/VRF"] },
   { shell := [.addrFlush self.port] },
   { shell := [.addrFlush "eth1"], onClient := n ++ "/" ++ self.logic }]

def renderNode (spec : SRv6ServiceSpec) (opts : SRv6Options) (vrf first n : String) (self peer : Attach) :
    Except Error SRv6NodePlan :=
  match pinLinkFor spec opts n with
  | .error message => .error message
  | .ok pinLink =>
      let pinned : Bool := spec.path.preferredSpine ≠ "" && n = first
      match clientHostAddr self.client with
      | .error message => .error ([.lit "client address for ", .str n, .lit ": "] ++ message)
      | .ok clientAddr =>
          .ok { node := n,
                ops := renderOps vrf n self peer pinLink pinned clientAddr,
                checks := renderChecks vrf n self peer pinLink pinned clientAddr,
                rollback := renderRollback vrf n self peer pinned }

def vrfName (serviceID : Int) : String := "Vrf" ++ toString serviceID

/- The gates in front of the rendering: variant, node kind, port map, the two
   attachments, the allocated identifiers. Returns the two nodes, sorted. -/
def srv6Gates (spec : SRv6ServiceSpec) (alloc : Allocations) (opts : SRv6Options) : Except Error (String × String) :=
  let rendered := spec.construct ++ "/" ++ spec.signalling
  let variant := if rendered = "mac-vrf/" then "mac-vrf/evpn" else rendered
  if variant = "ip-vrf/evpn" ∨ variant = "mac-vrf/evpn" then
    .error [.lit "variant ", .str variant, .lit " has no proven recipe on this site (supported: ip-vrf/vpn, steering)"]
  else if variant ≠ "ip-vrf/vpn" then
    .error [.lit "unknown SRv6 variant ", .quoted variant, .lit " (supported: ip-vrf/vpn, steering)"]
  else if opts.nodeKind ≠ "" ∧ opts.nodeKind ≠ "sonic-vm" ∧ opts.nodeKind ≠ "sonic-vs" then
    .error [.lit "unknown node kind ", .quoted opts.nodeKind, .lit " (want sonic-vm or sonic-vs)"]
  else if opts.ports = [] then .error [.lit "site port map is empty"]
  else
    match spec.attachments with
    | [a0, a1] =>
        if a0.node = "" ∨ a1.node = "" then .error [.lit "attachment with empty node"]
        else if a0.node = a1.node then
          .error [.lit "attachments must be on distinct nodes (both ", .quoted a0.node, .lit ")"]
        else if alloc.serviceID ≤ 0 then .error [.lit "service id must be > 0"]
        else if alloc.vrf ≠ "" ∧ alloc.vrf ≠ vrfName alloc.serviceID then
          .error [.lit "allocated VRF ", .quoted alloc.vrf, .lit " does not match Vrf<service-id> shape (",
            .str (vrfName alloc.serviceID), .lit ")"]
        else if a0.node ≤ a1.node then .ok (a0.node, a1.node) else .ok (a1.node, a0.node)
    | attachments =>
        .error [.lit "exactly two attachments are required, got ", .int attachments.length]

def forSRv6Service (spec : SRv6ServiceSpec) (alloc : Allocations) (opts : SRv6Options) : Except Error SRv6Plan := do
  let (first, second) ← srv6Gates spec alloc opts
  let vrf := vrfName alloc.serviceID
  let a ← renderAttach spec alloc opts first
  let b ← renderAttach spec alloc opts second
  let planA ← renderNode spec opts vrf first first a b
  let planB ← renderNode spec opts vrf first second b a
  return [(first, planA), (second, planB)]

end AgenticNetops.Fabricplan
