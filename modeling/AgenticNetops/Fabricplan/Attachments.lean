import AgenticNetops.Fabricplan.Commands
import AgenticNetops.Fabricplan.Derivations

set_option autoImplicit false

/- pkg/fabricplan/plan.go: what one attachment of a Network adds to the plan of its
   node. A renderer appends to the node's plan or fails, and a failure drops the whole
   plan, so each of them returns the part it adds. -/
namespace AgenticNetops.Fabricplan

open GoText Kubenet

structure Part where
  ops : List NetworkOp := []
  checks : List Check := []
  rollback : List NetworkOp := []
deriving DecidableEq, Repr

def NodePlan.add (np : NetworkNodePlan) (part : Part) : NetworkNodePlan :=
  { np with ops := np.ops ++ part.ops, checks := np.checks ++ part.checks, rollback := np.rollback ++ part.rollback }

-- errf("...: %v", err).
def inContext {α : Type} (context : Message) (result : Except Error α) : Except Error α := result.mapError (context ++ ·)

def Options.attachedPort (opts : Options) (att : NetworkAttachment) : Except Error String :=
  inContext [.lit "attachment ", .str att.attachment, .lit "@", .str att.node, .lit ": "] (opts.ports.port att.attachment)

structure L3Context where
  vrfName : String
  l3vni : Int
  l3vlan : Int
  l3vlanDev : String
  rd : String
  rt : String

def l3ContextFor (r : NetworkRouter) : Except Error L3Context :=
  if r.l3vni = 0 then .error [.lit "router ", .quoted r.name, .lit " has no l3vni"]
  else do
    let vrfName ← inContext [.lit "router ", .quoted r.name, .lit ": "] (deviceVRFName r.name)
    let l3vlan ← l3VLANForVNI r.l3vni
    let rt := firstRT r.routeTargets r.rd
    return { vrfName, l3vni := r.l3vni, l3vlan, l3vlanDev := vlanDevice l3vlan, rd := rtRD r.rd rt, rt }

namespace L3Context
variable (c : L3Context) (opts : Options)

def vrfOp : NetworkOp := { gcu := [.add ("/VRF/" ++ c.vrfName) [("vni", toString c.l3vni)]] }

def vrfRemoval : NetworkOp := { gcu := [.remove ("/VRF/" ++ c.vrfName)] }

def l3OverlayRedis : List RedisCommand := [.hset (vlanRow c.l3vlanDev) [("vlanid", toString c.l3vlan)]]

def mapRow : ConfigRow := tunnelMapRow opts.vtepName c.l3vni c.l3vlanDev

def l3TunnelMapShell : List NetworkCommand := [.l3TunnelMap (c.mapRow opts) c.l3vni c.l3vlanDev]

def evpnVNIAdoptionShell : List NetworkCommand := [.adoptVNI c.l3vni c.vrfName]

-- What both FRR dialects say of an optional line.
def optionalLine (line value : String) : List String := if value ≠ "" then [line ++ value] else []

def vtyLines (afis : List String) (asn : String) : List String :=
  ["conf t", "vrf " ++ c.vrfName, "vni " ++ toString c.l3vni, "exit-vrf",
    "router bgp " ++ asnOr asn "65000" ++ " vrf " ++ c.vrfName, "no bgp ebgp-requires-policy"] ++
  afis.flatMap (fun afi => ["address-family " ++ afi, "redistribute connected", "exit-address-family"]) ++
  ["address-family l2vpn evpn"] ++ afis.map ("advertise " ++ ·) ++
  optionalLine "rd " c.rd ++ optionalLine "route-target both " c.rt ++ ["exit-address-family", "end"]

def frrLines (afis : List String) (asn : String) : List String :=
  ["vrf " ++ c.vrfName, " vni " ++ toString c.l3vni, "exit-vrf", "!",
    "router bgp " ++ asnOr asn "65000" ++ " vrf " ++ c.vrfName, " no bgp ebgp-requires-policy"] ++
  afis.flatMap (fun afi => [" address-family " ++ afi, "  redistribute connected", " exit-address-family", " !"]) ++
  [" address-family l2vpn evpn"] ++ afis.map ("  advertise " ++ ·) ++
  optionalLine "  rd " c.rd ++ optionalLine "  route-target both " c.rt ++ [" exit-address-family", "!"]

def frrOps (afis : List String) (asn : String) : List NetworkOp := [{ vtysh := c.vtyLines afis asn }, { frrConf := c.frrLines afis asn }]

def l3Checks : List Check :=
  let vtep := vtepDevice opts.vtepName c.l3vlan
  [{ type := .redisHget, redisKey := (vrfRow c.vrfName).text, redisField := "vni", expect := toString c.l3vni },
   { type := .redisExists, redisKey := (c.mapRow opts).text },
   { type := .ipMaster, iface := c.l3vlanDev, master := c.vrfName },
   { type := .ipMaster, iface := vtep, master := "Bridge" },
   { type := .linkVxlanId, iface := vtep, expect := toString c.l3vni },
   { type := .vtyshContains, command := "show bgp l2vpn evpn vni " ++ toString c.l3vni, expect := "Tenant VRF: " ++ c.vrfName }]

def type5Check (pfx : String) : Except Error Check := do
  let needle ← inContext [.lit "invalid prefix ", .quoted pfx, .lit ": "] (type5RouteNeedle pfx)
  return { type := .vtyshContains
           command := if c.rd ≠ "" then "show bgp l2vpn evpn route rd " ++ c.rd
             else "show bgp l2vpn evpn route type prefix self-originate"
           expect := needle }

def type5Checks (prefixes : List String) : Except Error (List Check) := (prefixes.filter (· ≠ "")).mapM c.type5Check

end L3Context

def sviShell (dev : String) (vid : Int) (vrfName : String) (addrs : List String) : List NetworkCommand :=
  [.ensureBridge, .awaitVlanDevice dev vid, .waitMaster dev vrfName, .linkUp dev, .bridgeSelf vid] ++
    (addrs.filter (· ≠ "")).map (.sviAddress dev ·)

def accessPortShell (port : String) (vid : Int) : List NetworkCommand :=
  [.joinBridge port, .dropDefaultVlan port, .accessVlan port vid, .portUp port]

def vtepShell (vtep : String) (vid vni : Int) (vlanName : String) : List NetworkCommand :=
  let dev := vtepDevice vtep vid
  [.bounceTunnelMap dev (tunnelMapRow vtep vni vlanName) vni vlanName, .awaitVtep dev, .vtepMaster dev, .vtepDropDefault dev,
    .vtepVlan dev vid, .vtepUp dev]

-- vtepBaselineForKind; a sonic-vs node has the baseline from its bootstrap.
def vtepBaselineForKind (opts : Options) : List NetworkOp :=
  if opts.onVM then [{ shell := [.vtepBaseline opts.vtepName] }] else []

def renderL3 (r : NetworkRouter) (att : NetworkAttachment) (opts : Options) : Except Error Part := do
  let c ← l3ContextFor r
  let port ← opts.attachedPort att
  let afis ← inContext [.lit "router ", .quoted r.name, .lit ": "] (afisFor r.prefixes)
  let addrs := (r.prefixes.take 1).map sviAddr
  let type5 ← inContext [.lit "router ", .quoted r.name, .lit ": "] (c.type5Checks (r.prefixes.take 1))
  return {
    ops := vtepBaselineForKind opts ++
      [c.vrfOp, { redis := c.l3OverlayRedis },
       { shell := sviShell c.l3vlanDev c.l3vlan c.vrfName addrs ++ accessPortShell port c.l3vlan ++ c.l3TunnelMapShell opts ++
           vtepShell opts.vtepName c.l3vlan c.l3vni c.l3vlanDev }] ++
      c.frrOps afis opts.bgpASN ++ [{ shell := c.evpnVNIAdoptionShell }]
    checks := c.l3Checks opts ++ [{ type := .bridgeVid, iface := port, vid := c.l3vlan }] ++
      addrs.map (fun addr => { type := .ipAddr, iface := c.l3vlanDev, addr }) ++ type5
    rollback := [{ redis := [.del (c.mapRow opts), .del (vlanRow c.l3vlanDev)] }, { shell := [.leaveVlan port c.l3vlan] }, c.vrfRemoval] }

def l2RT (bd : BridgeDomain) : String := firstRT (bd.evpn.getD none) ""

def l2Overlay (bd : BridgeDomain) (vlanName : String) (opts : Options) : List RedisCommand :=
  [.hset (vlanRow vlanName) [("vlanid", toString bd.vlan)],
   .hset (tunnelMapRow opts.vtepName bd.l2vni vlanName) [("vni", toString bd.l2vni), ("vlan", vlanName)]]

def l2EVPNOp (bd : BridgeDomain) (opts : Options) : List NetworkOp :=
  if l2RT bd = "" then [] else [{ shell := [.l2EVPN opts.onVM bd.l2vni (l2RT bd)] }]

def l2Checks (bd : BridgeDomain) (vlanName port : String) (opts : Options) : List Check :=
  let vtep := vtepDevice opts.vtepName bd.vlan
  [{ type := .redisExists, redisKey := (tunnelRow opts.vtepName).text },
   { type := .redisHget, redisKey := (vlanRow vlanName).text, redisField := "vlanid", expect := toString bd.vlan },
   { type := .redisExists, redisKey := (tunnelMapRow opts.vtepName bd.l2vni vlanName).text },
   { type := .ipMaster, iface := port, master := "Bridge" },
   { type := .bridgeVid, iface := port, vid := bd.vlan },
   { type := .ipMaster, iface := vtep, master := "Bridge" },
   { type := .bridgeVid, iface := vtep, vid := bd.vlan },
   { type := .linkVxlanId, iface := vtep, expect := toString bd.l2vni }] ++
  if l2RT bd = "" then []
  else [{ type := .vtyshContains, command := "show bgp l2vpn evpn vni " ++ toString bd.l2vni, expect := "RD: " ++ l2RT bd }]

def l2Rollback (bd : BridgeDomain) (vlanName port : String) (opts : Options) : List NetworkOp :=
  [{ redis := [.del (tunnelMapRow opts.vtepName bd.l2vni vlanName), .del (vlanRow vlanName)] },
   { shell := [.leaveVlan port bd.vlan] }]

def unnumbered (bd : BridgeDomain) : Error := [.lit "bridgeDomain ", .quoted bd.name, .lit " has no l2vni"]

def renderL2 (bd : BridgeDomain) (att : NetworkAttachment) (opts : Options) : Except Error Part :=
  if bd.l2vni = 0 then .error (unnumbered bd)
  else do
    let vlanName := vlanDevice bd.vlan
    let port ← opts.attachedPort att
    return {
      ops := vtepBaselineForKind opts ++
        [{ redis := l2Overlay bd vlanName opts },
         { shell := [.ensureBridge] ++ accessPortShell port bd.vlan ++ [.cleanupTunnelMaps opts.vtepName vlanName bd.l2vni] ++
             vtepShell opts.vtepName bd.vlan bd.l2vni vlanName }] ++ l2EVPNOp bd opts
      checks := l2Checks bd vlanName port opts
      rollback := l2Rollback bd vlanName port opts }

def renderIRB (bd : BridgeDomain) (irb : BridgeDomainIRB) (r : NetworkRouter) (att : NetworkAttachment) (opts : Options) :
    Except Error Part :=
  if bd.l2vni = 0 then .error (unnumbered bd)
  else do
    let c ← l3ContextFor r
    let vlanName := vlanDevice bd.vlan
    let port ← opts.attachedPort att
    let gateways := [irb.gatewayV4, irb.gatewayV6]
    let afis ← inContext [.lit "bridgeDomain ", .quoted bd.name, .lit ": "] (afisFor gateways)
    let type5 ← inContext [.lit "bridgeDomain ", .quoted bd.name, .lit ": "] (c.type5Checks gateways)
    return {
      ops := vtepBaselineForKind opts ++
        [c.vrfOp, { redis := l2Overlay bd vlanName opts ++ c.l3OverlayRedis },
         { shell := sviShell c.l3vlanDev c.l3vlan c.vrfName [] ++ sviShell vlanName bd.vlan c.vrfName gateways ++
             c.l3TunnelMapShell opts ++ accessPortShell port bd.vlan ++ [.cleanupTunnelMaps opts.vtepName vlanName bd.l2vni] ++
             vtepShell opts.vtepName bd.vlan bd.l2vni vlanName }] ++
        l2EVPNOp bd opts ++ c.frrOps afis opts.bgpASN ++ [{ shell := c.evpnVNIAdoptionShell }]
      checks := l2Checks bd vlanName port opts ++ c.l3Checks opts ++ [{ type := .ipMaster, iface := vlanName, master := c.vrfName }] ++
        (gateways.filter (· ≠ "")).map (fun gw => { type := .ipAddr, iface := vlanName, addr := gw }) ++ type5
      rollback := l2Rollback bd vlanName port opts ++ [{ redis := [.del (c.mapRow opts), .del (vlanRow c.l3vlanDev)] }, c.vrfRemoval] }

def renderVLAN (v : NetworkVLAN) (att : NetworkAttachment) (opts : Options) : Except Error Part := do
  let vlanName := vlanDevice v.vlan
  let port ← opts.attachedPort att
  return {
    ops := [{ redis := [.hset (vlanRow vlanName) [("vlanid", toString v.vlan)]] }, { shell := .ensureBridge :: accessPortShell port v.vlan }]
    checks :=
      [{ type := .redisHget, redisKey := (vlanRow vlanName).text, redisField := "vlanid", expect := toString v.vlan },
       { type := .ipMaster, iface := port, master := "Bridge" },
       { type := .bridgeVid, iface := port, vid := v.vlan }]
    rollback := [{ redis := [.del (vlanRow vlanName)] }, { shell := [.leaveVlan port v.vlan] }] }

end AgenticNetops.Fabricplan
