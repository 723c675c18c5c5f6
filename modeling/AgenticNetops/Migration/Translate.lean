import AgenticNetops.Migration.Input
import AgenticNetops.Lib.Fallible

set_option autoImplicit false

/- pkg/migration/translate.go and the rendering half of acl.go: the object that a
   validated input becomes. The bundle keeps the object itself where the program writes
   it out as YAML; `canonicalHash` stands for the digest of the input. -/
namespace AgenticNetops.Migration

open GoText

def translatorName : String := "agentic-netops-migration-translator"
def translatorVersion : String := "v0.1.0"
def mappingVersion : String := "v0.1.0"

structure RouteTargets where
  imported : List String := []
  exported : List String := []
deriving DecidableEq, Repr

structure EVPN where
  routeTargets : RouteTargets := {}
deriving DecidableEq, Repr

structure IRB where
  vrf : String
  gatewayV4 : String := ""
  gatewayV6 : String := ""
deriving DecidableEq, Repr

structure BridgeDomain where
  name : String
  vlan : Int := 0
  l2vni : Int := 0
  evpn : Option EVPN := none
  irb : Option IRB := none
deriving DecidableEq, Repr

structure Router where
  name : String
  rd : String
  routeTargets : RouteTargets := {}
  l3vni : Int := 0
  prefixes : List String := []
deriving DecidableEq, Repr

structure NetworkVLAN where
  name : String
  vlan : Int
deriving DecidableEq, Repr

structure Attachment where
  node : String
  vlan : Int := 0
  vrf : String := ""
  attachment : String
deriving DecidableEq, Repr

structure NetworkSpec where
  description : Message := []
  vlans : List NetworkVLAN := []
  bridgeDomains : List BridgeDomain := []
  routers : List Router := []
  accessLists : List ACL := []
  attachments : List Attachment := []
deriving DecidableEq, Repr

structure KubenetNetwork where
  name : String
  inNamespace : String
  annotations : GoMap String
  spec : NetworkSpec
deriving DecidableEq, Repr

structure SRv6Attachment where
  node : String
  port : String
  gateway : List String := []
deriving DecidableEq, Repr

structure SRv6Path where
  preferredSpine : String := ""
deriving DecidableEq, Repr

structure SRv6ServiceSpec where
  tenant : String
  construct : String
  signalling : String
  vlan : Int := 0
  attachments : List SRv6Attachment
  path : Option SRv6Path := none
deriving DecidableEq, Repr

structure SRv6Service where
  name : String
  inNamespace : String
  annotations : GoMap String
  spec : SRv6ServiceSpec
deriving DecidableEq, Repr

-- One object of one of the two kinds, never one of each.
inductive Manifest where
  | network (object : KubenetNetwork)
  | srv6Service (object : SRv6Service)
deriving DecidableEq, Repr

def Manifest.kind : Manifest → String
  | .network _ => "Network"
  | .srv6Service _ => "SRv6Service"

structure OutputBundle where
  translator : String := translatorName
  version : String := translatorVersion
  mapping : String := mappingVersion
  inputHash : String
  annotations : GoMap String
  manifest : Manifest
deriving DecidableEq, Repr

inductive TranslateError where
  | unsupportedType (type : ServiceType)
  | nilDereference
deriving DecidableEq, Repr

def accessListFor (a : ACL) (serviceID : String) : ACL :=
  { a with name := if a.name = "" then "acl-" ++ serviceID else a.name }

def attachmentsForPorts (endpoints : List Endpoint) : List Attachment :=
  endpoints.map fun ep => { node := ep.node, attachment := ep.attachment }

def attachmentsForL2 (endpoints : List Endpoint) : List Attachment :=
  endpoints.map fun ep => { node := ep.node, vlan := ep.vlan, attachment := ep.attachment }

def attachmentsForL3 (endpoints : List Endpoint) (vrf : String) : List Attachment :=
  endpoints.map fun ep => { node := ep.node, vrf := vrf, attachment := ep.attachment }

def endpointVLAN (endpoints : List Endpoint) : Int :=
  match endpoints with
  | [] => 0
  | ep :: _ => ep.vlan

def concatPrefixes (families : Option AddressFamilies) : List String :=
  match families with
  | none => []
  | some af => af.ipv4Prefixes ++ af.ipv6Prefixes

section SRv6

-- The default depends on the construct; the input keeps what it has.
def signallingOf (input : ServiceInput) : String :=
  if input.signalling ≠ "" then input.signalling
  else if input.type = serviceMACVRF then signallingEVPN else signallingVPN

def srv6Attachment (ep : Endpoint) : SRv6Attachment :=
  { node := ep.node, port := ep.attachment, gateway := ep.prefixes }

def srv6Spec (input : ServiceInput) : SRv6ServiceSpec :=
  { tenant := input.tenant
    construct := input.type
    signalling := signallingOf input
    vlan := if input.type = serviceMACVRF then endpointVLAN input.endpoints else 0
    attachments := input.endpoints.map srv6Attachment
    path := if input.preferredSpine ≠ "" then some ⟨input.preferredSpine⟩ else none }

def srv6Annotations (input : ServiceInput) (hash : String) : GoMap String :=
  [("agentic-netops.io/translator", translatorName), ("agentic-netops.io/translator-version", translatorVersion),
    ("agentic-netops.io/mapping-version", mappingVersion), ("agentic-netops.io/migration-input-hash", hash),
    ("agentic-netops.io/tenant", input.tenant), ("agentic-netops.io/service-type", input.type),
    ("agentic-netops.io/transport", transportSRv6)]

def translateSRv6 (input : ServiceInput) (hash : String) : OutputBundle :=
  let annotations := srv6Annotations input hash
  { inputHash := hash
    annotations := annotations
    manifest := .srv6Service
      { name := input.serviceID
        inNamespace := "agentic-netops-intent"
        annotations := annotations
        spec := srv6Spec input } }

end SRv6

def networkAnnotations (input : ServiceInput) (hash : String) : GoMap String :=
  [("agentic-netops.io/translator", translatorName), ("agentic-netops.io/translator-version", translatorVersion),
    ("agentic-netops.io/mapping-version", mappingVersion), ("agentic-netops.io/migration-input-hash", hash),
    ("agentic-netops.io/tenant", input.tenant), ("agentic-netops.io/service-type", input.type)] ++
  (if input.sourceType ≠ "" then [("agentic-netops.io/source-service-type", input.sourceType)] else []) ++
  (if input.sourceType = legacyVPWS then [("agentic-netops.io/limited-equivalence", "vpws-to-l2vni")] else [])

def targetsOf (rdRt : RdRt) : RouteTargets := { imported := rdRt.importRT, exported := rdRt.exportRT }

def routerFor (input : ServiceInput) (rdRt : RdRt) (prefixes : List String) : Router :=
  { name := "vrf-" ++ input.serviceID
    rd := rdRt.rd
    routeTargets := targetsOf rdRt
    l3vni := input.l3vni
    prefixes := prefixes }

def bridgeDomainFor (input : ServiceInput) (rdRt : RdRt) : BridgeDomain :=
  { name := "bd-" ++ input.serviceID
    vlan := endpointVLAN input.endpoints
    l2vni := input.l2vni
    evpn := some ⟨targetsOf rdRt⟩
    irb := input.anycastGateway.map fun gateway =>
      { vrf := "vrf-" ++ input.serviceID, gatewayV4 := gateway.gatewayV4, gatewayV6 := gateway.gatewayV6 } }

def constructSpec (input : ServiceInput) : Except TranslateError NetworkSpec :=
  if input.type = serviceVLAN then
    .ok { vlans := [⟨"vlan-" ++ input.serviceID, endpointVLAN input.endpoints⟩]
          attachments := attachmentsForL2 input.endpoints }
  else if input.type = serviceMACVRF then
    match input.rdRt with
    | none => .error .nilDereference
    | some rdRt =>
        .ok { routers := (input.anycastGateway.map fun _ => routerFor input rdRt []).toList
              bridgeDomains := [bridgeDomainFor input rdRt]
              attachments := attachmentsForL2 input.endpoints }
  else if input.type = serviceIPVRF then
    match input.rdRt with
    | none => .error .nilDereference
    | some rdRt =>
        let router := routerFor input rdRt (concatPrefixes input.addressFamilies)
        .ok { routers := [router], attachments := attachmentsForL3 input.endpoints router.name }
  else if input.type = serviceACL then .ok { attachments := attachmentsForPorts input.endpoints }
  else .error (.unsupportedType input.type)

def translateNetwork (input : ServiceInput) (hash : String) : Except TranslateError OutputBundle := do
  let spec ← constructSpec input
  let annotations := networkAnnotations input hash
  return { inputHash := hash
           annotations := annotations
           manifest := .network
             { name := "migr-" ++ input.serviceID
               inNamespace := "kubenet-system"
               annotations := annotations
               spec := { spec with
                 description := [.lit "Migrated service ", .str input.serviceID, .lit " (", .str input.type, .lit ")"]
                 accessLists := (input.acl.map fun acl => accessListFor acl input.serviceID).toList } } }

variable (canonicalHash : ServiceInput → String)

-- Hashing folds the vocabulary of the input first.
def translate (input : ServiceInput) : Except TranslateError OutputBundle :=
  let folded := input.canonicalize
  let hash := canonicalHash folded
  if folded.transport = transportSRv6 then .ok (translateSRv6 folded hash) else translateNetwork folded hash

section Kind

variable (input : ServiceInput) (bundle : OutputBundle)

theorem translate_srv6 (srv6 : input.transport = transportSRv6) :
    translate canonicalHash input = .ok (translateSRv6 input.canonicalize (canonicalHash input.canonicalize)) := by
  have folded : input.canonicalize.transport = transportSRv6 := by rw [canonicalize_transport, srv6]
  simp only [translate, folded, if_true]

-- Without the srv6 transport, what comes out is a Network.
theorem translate_network (other : input.transport ≠ transportSRv6) (done : translate canonicalHash input = .ok bundle) :
    ∃ network, bundle.manifest = .network network := by
  simp only [translate, canonicalize_transport, if_neg other, translateNetwork] at done
  obtain ⟨spec, _, rendered⟩ := Fallible.bind_ok _ _ _ done
  cases rendered
  exact ⟨_, rfl⟩

end Kind

end AgenticNetops.Migration
