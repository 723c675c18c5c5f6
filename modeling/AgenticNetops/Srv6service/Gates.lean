import AgenticNetops.Kubenet.Network
import AgenticNetops.Srv6service.Types

set_option autoImplicit false

/- The gates of the pipeline that decide before any claim: site validation
   (validate.go, C1-C3), the capability record (capability.go, C5 and C8), the
   supported variant (supported.go, C6) and the conflicts (conflict.go, C4 and C7). -/
namespace AgenticNetops.Srv6service

open GoText Api Fabricplan Kubenet

def joinNames (names : List String) : String := if names = [] then "none" else join names ", "

def SiteFacts.namesOfRole (facts : SiteFacts) (role : String) : List String :=
  sortStrings (facts.nodes.keys.filter fun node => facts.nodes.text node = role)

def SiteFacts.leaves (facts : SiteFacts) : List String := facts.namesOfRole roleLeaf

def SiteFacts.spines (facts : SiteFacts) : List String := facts.namesOfRole roleSpine

def checkLeaf (facts : SiteFacts) (att : Attachment) : Option Refusal :=
  match facts.nodes.get? att.node with
  | none =>
      some ⟨.invalidSite, [.lit "node ", .quoted att.node, .lit " is not a node of the fabric (valid nodes: ",
        .str (joinNames facts.nodes.sortedKeys), .lit ")"], .site⟩
  | some role =>
      if role ≠ roleLeaf then
        some ⟨.invalidSite, [.lit "node ", .quoted att.node, .lit " is a ", .str role, .lit ", not a leaf (valid leaves: ",
          .str (joinNames facts.leaves), .lit ")"], .site⟩
      else none

def checkPort (facts : SiteFacts) (att : Attachment) : Option Refusal :=
  match facts.portMap.port att.port with
  | .ok _ => none
  | .error _ =>
      some ⟨.invalidSite, [.lit "port ", .quoted att.port, .lit " does not resolve in the site port map (valid ports: ",
        .str (joinNames facts.portMap.known), .lit ")"], .site⟩

def checkSpine (facts : SiteFacts) (spine : String) : Option Refusal :=
  if spine = "" ∨ facts.nodes.get? spine = some roleSpine then none
  else
    some ⟨.invalidSite, [.lit "spine ", .quoted spine, .lit " is not a spine of the fabric (valid spines: ",
      .str (joinNames facts.spines), .lit ")"], .site⟩

def validateSite (spec : SRv6ServiceSpec) (facts : SiteFacts) : Option Refusal :=
  (spec.attachments.findSome? (checkLeaf facts)).or
    ((spec.attachments.findSome? (checkPort facts)).or
      ([spec.path.preferredSpine, spec.path.alternateSpine].findSome? (checkSpine facts)))

structure Capability where
  saiSRV6 : Bool
  supported : List String
  probeAttachments : List String
deriving DecidableEq, Repr

def keySAISRV6 : String := "cap-sai-srv6"
def keySRv6Supported : String := "srv6-supported"
def keyProbeAttachments : String := "srv6-probe-attachments"

def splitCSV (value : String) : List String :=
  sortStrings (((split value ',').map trimSpace).filter fun part => part ≠ "")

-- compat.PinsConfigMapNamespace/PinsConfigMapName
def pinsConfigMap : String := "agentic-netops-system/fabric-compat-pins"

-- The uncached read of the record: its data, or why it is unreadable.
def readCapability (record : Except String (GoMap String)) : Except Refusal Capability :=
  match record with
  | .error reason =>
      .error ⟨.capabilityMissing, [.lit "capability record ", .str pinsConfigMap, .lit " is unreadable: ", .str reason],
        .cap⟩
  | .ok data =>
      .ok { saiSRV6 := trimSpace (data.text keySAISRV6) = "true",
            supported := splitCSV (data.text keySRv6Supported),
            probeAttachments := splitCSV (data.text keyProbeAttachments) }

def attachmentKey (att : Attachment) : String := att.node ++ "/" ++ att.port

def checkCapability (spec : SRv6ServiceSpec) (cap : Capability) : Option Refusal :=
  if ¬ cap.saiSRV6 then
    some ⟨.capabilityMissing, [.lit "SRv6 is not proven on this site (key ", .str keySAISRV6,
      .lit " is not \"true\"; configmap ", .str pinsConfigMap, .lit ")"], .cap⟩
  else
    let keys := spec.attachments.map attachmentKey
    let missing := keys.filter fun key => key ∉ cap.probeAttachments
    if missing = [] then none
    else
      some ⟨.dataPathUnverifiable, [.lit "no probe host registered for ", .str (joinNames missing),
        .lit " (verifiable attachments: ", .str (joinNames (keys.filter fun key => key ∈ cap.probeAttachments)),
        .lit ")"], .cap⟩

def variantOf (spec : SRv6ServiceSpec) : String :=
  let signalling :=
    if spec.signalling ≠ "" then spec.signalling
    else if spec.construct = constructMACVRF then signallingEVPN
    else signallingVPN
  spec.construct ++ "/" ++ signalling

def formatSupported (supported : List String) : String :=
  if supported = [] then "(empty)" else "[" ++ join supported ", " ++ "]"

def checkSupported (spec : SRv6ServiceSpec) (cap : Capability) : Option Refusal :=
  if variantOf spec ∉ cap.supported then
    some ⟨.unsupportedVariant, [.lit "variant ", .str (variantOf spec), .lit " is not in the supported set ",
      .str (formatSupported cap.supported)], .variant⟩
  else if spec.path.preferredSpine ≠ "" ∧ "steering" ∉ cap.supported then
    some ⟨.unsupportedVariant, [.lit "variant ", .str (variantOf spec),
      .lit " is supported but steering (spec.path) is not: supported set ", .str (formatSupported cap.supported)],
      .variant⟩
  else none

def attachmentKeys (spec : SRv6ServiceSpec) : List String := sortStrings (spec.attachments.map attachmentKey)

-- The part of each key behind its first '/'.
def portsOf (keys : List String) : List String :=
  sortStrings (keys.filterMap fun key =>
    match key.toList.dropWhile (· ≠ '/') with
    | [] => none
    | _ :: port => some (String.ofList port))

def specPorts (spec : SRv6ServiceSpec) : List String := portsOf (attachmentKeys spec)

def firstResource (a b : SRv6Service) : Bool :=
  if a.creationTimestamp ≠ b.creationTimestamp then a.creationTimestamp < b.creationTimestamp else a.uid < b.uid

def terminalReason : Reason → Bool
  | .invalidSite | .portInUse | .capabilityMissing | .unsupportedVariant | .poolExhausted | .dataPathUnverifiable
  | .vlanInUse => true
  | _ => false

-- The first Ready condition decides, and only for the current generation.
def isTerminalRefused (svc : SRv6Service) : Bool :=
  match svc.status.conditions.find? fun cond => cond.type = .ready with
  | none => false
  | some cond => cond.observedGeneration = svc.generation && terminalReason cond.reason && ¬ cond.status

-- A service this one must yield to when they want the same thing.
def holdsAgainst (svc other : SRv6Service) : Bool :=
  other.uid ≠ svc.uid && ¬ isTerminalRefused other && firstResource other svc

def serviceConflict (svc other : SRv6Service) : Option Refusal :=
  let keys := attachmentKeys svc.spec
  let ports := specPorts svc.spec
  if other.spec.tenant = svc.spec.tenant ∧ keys = attachmentKeys other.spec then
    some ⟨.portInUse, [.lit "attachments ", .str (join keys ", "), .lit " for tenant ", .quoted svc.spec.tenant,
      .lit " already held by SRv6Service ", .quoted other.name], .port⟩
  else
    match (specPorts other.spec).find? fun port => port ∈ ports with
    | some port =>
        some ⟨.portInUse, [.lit "port ", .str port, .lit " is already held by SRv6Service ", .quoted other.name,
          .lit " (this service wants ", .str (join ports ", "), .lit ")"], .port⟩
    | none =>
        match svc.spec.vlan with
        | none => none
        | some vlan =>
            if other.spec.vlan = some vlan then
              some ⟨.vlanInUse, [.lit "vlan ", .int vlan, .lit " is already named by SRv6Service ", .quoted other.name],
                .vlan⟩
            else none

def networkConflict (ports : List String) (net : Network) : Option Refusal :=
  match net.attachments.find? fun na => na.attachment ∈ ports with
  | none => none
  | some na =>
      some ⟨.portInUse, [.lit "port ", .str na.attachment, .lit " is already held by Network ", .quoted net.name,
        .lit " (this service wants ", .str (join ports ", "), .lit ")"], .port⟩

/- The two lists of the service's namespace, or the failure to read one: a failed
   list ends the check without a conflict. -/
structure ConflictLists where
  services : Option (List SRv6Service)
  networks : Option (List Network)

def checkConflicts (svc : SRv6Service) (lists : ConflictLists) : Option Refusal :=
  match lists.services with
  | none => none
  | some services =>
      ((services.filter (holdsAgainst svc)).findSome? (serviceConflict svc)).or
        (match lists.networks with
        | none => none
        | some networks => networks.findSome? (networkConflict (specPorts svc.spec)))

end AgenticNetops.Srv6service
