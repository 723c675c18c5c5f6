import AgenticNetops.Fabricplan.AccessLists

set_option autoImplicit false

/- pkg/fabricplan/plan.go: ForNetwork, the plan of a whole Network. -/
namespace AgenticNetops.Fabricplan

open GoText Kubenet

-- A map filled in list order: the last entry written under a key is the one that it holds.
def heldLast {α : Type} (under : α → Bool) (entries : List α) : Option α := entries.reverse.find? under

def routerNamed (net : Network) (name : String) : Option NetworkRouter := heldLast (fun r => r.name = name) net.routers

def domainOn (net : Network) (vlan : Int) : Option BridgeDomain := heldLast (fun bd => bd.vlan = vlan) net.bridgeDomains

def localVLANOn (net : Network) (vlan : Int) : Option NetworkVLAN := heldLast (fun v => v.vlan = vlan) net.vlans

def routerNames (net : Network) : List String := sortStrings (net.routers.map NetworkRouter.name).dedup

def checkRouterNames : List NetworkRouter → Except Error Unit
  | [] => .ok ()
  | r :: rest => if r.name = "" then .error [.lit "router with empty name"] else checkRouterNames rest

-- The fold collision of L3VLANs, in name order; `owners` are the routers before.
def checkL3VLANs (owners : List (Int × NetworkRouter)) : List NetworkRouter → Except Error Unit
  | [] => .ok ()
  | r :: rest =>
      if r.l3vni = 0 then checkL3VLANs owners rest
      else do
        let vlan ← l3VLANForVNI r.l3vni
        match owners.lookup vlan with
        | some prev =>
            .error [.lit "routers ", .quoted prev.name, .lit " (l3vni ", .int prev.l3vni, .lit ") and ", .quoted r.name, .lit " (l3vni ",
              .int r.l3vni, .lit ") both derive L3VLAN ", .int vlan, .lit "; l3vnis that differ by a multiple of ", .int l3VLANBandSize,
              .lit " collide in the reserved band — renumber one"]
        | none => checkL3VLANs ((vlan, r) :: owners) rest

-- The declared VLAN of a bridge domain or a local VLAN stays below the derived band.
def checkDeclaredVLANs (kind : String) : List (String × Int) → Except Error Unit
  | [] => .ok ()
  | (name, vlan) :: rest =>
      if vlan > l3VLANBase then
        .error [.lit kind, .lit " ", .quoted name, .lit " uses vlan ", .int vlan, .lit ", reserved for derived L3VLANs (",
          .int (l3VLANBase + 1), .lit "-4094); pick a vlan at or below ", .int l3VLANBase]
      else checkDeclaredVLANs kind rest

def checkNetwork (net : Network) : Except Error Unit := do
  checkRouterNames net.routers
  checkL3VLANs [] ((routerNames net).filterMap (routerNamed net))
  checkDeclaredVLANs "bridgeDomain" (net.bridgeDomains.map fun bd => (bd.name, bd.vlan))
  checkDeclaredVLANs "vlan" (net.vlans.map fun v => (v.name, v.vlan))

-- The VLANs in the order of the message; `last` is the one before.
def declaredParts (last : Int) : List Int → List String
  | [] => []
  | vlan :: rest => if vlan = last then declaredParts last rest else ("vlan " ++ toString vlan) :: declaredParts vlan rest

def declaredVLANs (net : Network) : String :=
  let vlans := (net.bridgeDomains.map BridgeDomain.vlan).dedup.filter (· ≠ 0) ++ (net.vlans.map NetworkVLAN.vlan).dedup.filter (· ≠ 0)
  if vlans = [] then "no bridgeDomains or vlans" else join (declaredParts (-1) (vlans.insertionSort (· ≤ ·))) ", "

def attachmentBefore (a b : NetworkAttachment) : Prop := a.node < b.node ∨ (a.node = b.node ∧ a.attachment ≤ b.attachment)

instance : DecidableRel attachmentBefore := fun a b =>
  inferInstanceAs (Decidable (a.node < b.node ∨ (a.node = b.node ∧ a.attachment ≤ b.attachment)))

def sortedAttachments (net : Network) : List NetworkAttachment := net.attachments.insertionSort attachmentBefore

-- What an attachment adds to its node; an attachment of access lists only adds nothing here.
def renderAttachment (net : Network) (opts : Options) (att : NetworkAttachment) : Except Error Part :=
  if att.vrf ≠ "" then
    match routerNamed net att.vrf with
    | none => .error [.lit "attachment ", .str att.attachment, .lit "@", .str att.node, .lit " references unknown router ", .quoted att.vrf]
    | some r => renderL3 r att opts
  else if att.vlan ≠ 0 then
    match domainOn net att.vlan with
    | some bd =>
        match bd.irb with
        | none => renderL2 bd att opts
        | some irb =>
            match routerNamed net irb.vrf with
            | none => .error [.lit "bridgeDomain ", .quoted bd.name, .lit " declares irb.vrf ", .quoted irb.vrf, .lit " with no matching router"]
            | some r => renderIRB bd irb r att opts
    | none =>
        match localVLANOn net att.vlan with
        | some v => renderVLAN v att opts
        | none =>
            .error [.lit "attachment ", .str att.attachment, .lit "@", .str att.node, .lit " references vlan ", .int att.vlan,
              .lit " with no bridgeDomain or local VLAN (this network declares ", .str (declaredVLANs net), .lit ")"]
  else if net.accessLists ≠ [] then .ok {}
  else .error [.lit "attachment ", .str att.attachment, .lit "@", .str att.node, .lit " has neither vrf nor vlan"]

-- plan.node(name), then the part appended.
def GoMap.addPart (plan : NetworkPlan) (name : String) (part : Part) : NetworkPlan :=
  plan.set name (((plan.get? name).getD { node := name }).add part)

def renderAttachments (net : Network) (opts : Options) : NetworkPlan → List NetworkAttachment → Except Error NetworkPlan
  | plan, [] => .ok plan
  | plan, att :: rest => do
      let part ← renderAttachment net opts att
      renderAttachments net opts (GoMap.addPart plan att.node part) rest

def portsOn (bound : List (String × String)) (node : String) : List String :=
  dedupStrings ((bound.filter fun entry => entry.1 = node).map Prod.snd)

-- An access list goes onto every node with an attachment; the order of the nodes does not show.
def renderACLOn (net : Network) (opts : Options) (bound : List (String × String)) (al : AccessList) :
    NetworkPlan → List String → Except Error NetworkPlan
  | plan, [] => .ok plan
  | plan, node :: rest => do
      let part ← renderACL al (portsOn bound node) net.name net.inNamespace opts
      renderACLOn net opts bound al (GoMap.addPart plan node part) rest

def renderACLs (net : Network) (opts : Options) (bound : List (String × String)) : NetworkPlan → List AccessList → Except Error NetworkPlan
  | plan, [] => .ok plan
  | plan, al :: rest => do
      let plan ← renderACLOn net opts bound al plan (bound.map Prod.fst).dedup
      renderACLs net opts bound plan rest

def boundPorts (opts : Options) (atts : List NetworkAttachment) : Except Error (List (String × String)) :=
  atts.mapM fun att => do
    let port ← opts.attachedPort att
    return (att.node, port)

def renderNetwork (net : Network) (opts : Options) : Except Error NetworkPlan := do
  checkNetwork net
  let atts := sortedAttachments net
  let attached ← renderAttachments net opts [] atts
  let plan ← if net.accessLists = [] then pure attached else do
    let bound ← boundPorts opts atts
    renderACLs net opts bound attached net.accessLists
  if plan = [] then .error [.lit "network has no usable attachments"] else return plan

def forNetwork (net : Network) (opts : Options) : Except Error NetworkPlan :=
  if opts.ports = [] then .error [.lit "site port map is empty"]
  else if opts.nodeKind ≠ "" ∧ opts.nodeKind ≠ "sonic-vs" ∧ opts.nodeKind ≠ "sonic-vm" then
    .error [.lit "unknown node kind ", .quoted opts.nodeKind, .lit " (want sonic-vs or sonic-vm)"]
  else renderNetwork net (if opts.vtepName = "" then { opts with vtepName := "vtep1" } else opts)

end AgenticNetops.Fabricplan
