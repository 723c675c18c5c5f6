import AgenticNetops.Migration.Constructs

set_option autoImplicit false

/- pkg/migration/input.go and site.go: the normalized migration input and what refuses
   it. A validation lists every cause; no cause means that the input passes. -/
namespace AgenticNetops.Migration

open GoText Causes

def transportVXLAN : String := "vxlan"
def transportSRv6 : String := "srv6"
def signallingVPN : String := "vpn"
def signallingEVPN : String := "evpn"

structure AddressFamilies where
  ipv4Prefixes : List String := []
  ipv6Prefixes : List String := []
deriving DecidableEq, Repr

structure RdRt where
  rd : String := ""
  importRT : List String := []
  exportRT : List String := []
deriving DecidableEq, Repr

structure Endpoint where
  node : String := ""
  attachment : String := ""
  vlan : Int := 0
  vrf : String := ""
  prefixes : List String := []
deriving DecidableEq, Repr

structure IRBGateway where
  vrf : String := ""
  gatewayV4 : String := ""
  gatewayV6 : String := ""
deriving DecidableEq, Repr

structure Policies where
  vpwsLimitedEquivalence : Bool := false
deriving DecidableEq, Repr

-- Which of the claims are there at all; their values are never read.
structure UnsupportedClaims where
  tePolicy : Bool := false
  pseudowireOAM : Bool := false
  controlWord : Bool := false
  multicastVPN : Bool := false
  complexQoS : Bool := false
  serviceChain : Bool := false
  rawCLI : Bool := false
deriving DecidableEq, Repr

structure ServiceInput where
  serviceID : String := ""
  type : ServiceType := ""
  tenant : String := ""
  sourceType : ServiceType := ""
  transport : String := ""
  signalling : String := ""
  preferredSpine : String := ""
  rdRt : Option RdRt := none
  l2vni : Int := 0
  l3vni : Int := 0
  addressFamilies : Option AddressFamilies := none
  anycastGateway : Option AnycastGateway := none
  irbGateway : Option IRBGateway := none
  acl : Option ACL := none
  endpoints : List Endpoint := []
  policies : Policies := {}
  unsupported : UnsupportedClaims := {}
deriving DecidableEq, Repr

-- The routed half that the input declares, under either name.
def ServiceInput.gateway (input : ServiceInput) : Option AnycastGateway :=
  input.anycastGateway.or (input.irbGateway.map fun legacy => { gatewayV4 := legacy.gatewayV4, gatewayV6 := legacy.gatewayV6 })

def ServiceInput.canonicalize (input : ServiceInput) : ServiceInput :=
  { input with
    sourceType := canonicalWord legacyTypes (typeKey input.type) input.sourceType
    type := canonicalWord canonicalTypes (typeKey input.type) input.type
    anycastGateway := input.gateway
    irbGateway := none
    acl := input.acl.map ACL.canonicalize }

section Canonical
variable (input : ServiceInput)

-- What folding the vocabulary leaves alone.
@[simp] theorem canonicalize_tenant : input.canonicalize.tenant = input.tenant := by simp only [ServiceInput.canonicalize]

@[simp] theorem canonicalize_transport : input.canonicalize.transport = input.transport := by
  simp only [ServiceInput.canonicalize]

@[simp] theorem canonicalize_signalling : input.canonicalize.signalling = input.signalling := by
  simp only [ServiceInput.canonicalize]

@[simp] theorem canonicalize_spine : input.canonicalize.preferredSpine = input.preferredSpine := by
  simp only [ServiceInput.canonicalize]

@[simp] theorem canonicalize_families : input.canonicalize.addressFamilies = input.addressFamilies := by
  simp only [ServiceInput.canonicalize]

@[simp] theorem canonicalize_endpoints : input.canonicalize.endpoints = input.endpoints := by
  simp only [ServiceInput.canonicalize]

@[simp] theorem canonicalize_service_id : input.canonicalize.serviceID = input.serviceID := by
  simp only [ServiceInput.canonicalize]

@[simp] theorem canonicalize_rdRt : input.canonicalize.rdRt = input.rdRt := by simp only [ServiceInput.canonicalize]

@[simp] theorem canonicalize_l2vni : input.canonicalize.l2vni = input.l2vni := by simp only [ServiceInput.canonicalize]

@[simp] theorem canonicalize_l3vni : input.canonicalize.l3vni = input.l3vni := by simp only [ServiceInput.canonicalize]

@[simp] theorem canonicalize_unsupported : input.canonicalize.unsupported = input.unsupported := by
  simp only [ServiceInput.canonicalize]

@[simp] theorem canonicalize_acl : input.canonicalize.acl = input.acl.map ACL.canonicalize := by
  simp only [ServiceInput.canonicalize]

@[simp] theorem canonicalize_gateway : input.canonicalize.anycastGateway = input.gateway := by
  simp only [ServiceInput.canonicalize]

-- Every canonical spelling is one that folding leaves as it is, and no legacy one.
theorem canonical_types_fixed : ∀ entry ∈ canonicalTypes,
    canonicalTypes.get? (typeKey entry.2) = some entry.2 ∧ legacyTypes.get? (typeKey entry.2) = none := by decide +kernel

theorem canonicalize_again : input.canonicalize.canonicalize = input.canonicalize := by
  have type := canonical_word_again canonicalTypes typeKey (fun entry member => (canonical_types_fixed entry member).1) input.type
  have acl : (input.acl.map ACL.canonicalize).map ACL.canonicalize = input.acl.map ACL.canonicalize := by
    cases input.acl with
    | none => rfl
    | some a => exact congrArg some (canonicalize_acl_again a)
  have source : canonicalWord legacyTypes (typeKey (canonicalWord canonicalTypes (typeKey input.type) input.type))
      (canonicalWord legacyTypes (typeKey input.type) input.sourceType) =
        canonicalWord legacyTypes (typeKey input.type) input.sourceType := by
    cases found : canonicalTypes.get? (typeKey input.type) with
    | none =>
        rw [canonical_word_unknown canonicalTypes (typeKey input.type) input.type found]
        cases legacy : legacyTypes.get? (typeKey input.type) with
        | none => rw [canonical_word_unknown legacyTypes _ _ legacy, canonical_word_unknown legacyTypes _ _ legacy]
        | some old => rw [canonical_word_known legacyTypes _ _ old legacy, canonical_word_known legacyTypes _ _ old legacy]
    | some spelled =>
        rw [canonical_word_known canonicalTypes (typeKey input.type) input.type spelled found]
        obtain ⟨before, after, split, _⟩ := List.lookup_eq_some_iff.mp found
        have new := (canonical_types_fixed (typeKey input.type, spelled) (by rw [split]; simp)).2
        exact canonical_word_unknown legacyTypes _ _ new
  simp only [ServiceInput.canonicalize, type, source, acl, ServiceInput.gateway, Option.map_none, Option.or_none]

end Canonical

section Site

structure SiteInventory where
  nodes : List String := []
  attachments : List String := []
  spines : List String := []
deriving DecidableEq, Repr

def isSiteNameChar (c : Char) : Bool := ('a' ≤ c && c ≤ 'z') || ('0' ≤ c && c ≤ '9')

def normalizeSiteName (s : String) : String := String.ofList ((s.toList.map lowerToAscii).filter isSiteNameChar)

def knows (names : List String) (want : String) : Bool :=
  names.any fun n => normalizeSiteName n = normalizeSiteName want

def endpointCause (i : Nat) (field : String) (rest : Message) : Message :=
  [.lit "endpoints[", .int i, .lit "].", .lit field, .lit ": "] ++ rest

def siteNameCauses (i : Nat) (field kind : String) (names : List String) (name : String) : List Message :=
  if names ≠ [] ∧ ¬ knows names name then
    [endpointCause i field [.quoted name, .lit (" is not " ++ kind ++ " at this site (site has: "), .str (join names ", "), .lit ")"]]
  else []

-- A site that is not configured validates nothing.
def validateEndpoints (site : Option SiteInventory) (endpoints : List Endpoint) : List Message :=
  match site with
  | none => []
  | some s => endpoints.zipIdx.flatMap fun (ep, i) =>
      siteNameCauses i "node" "a node" s.nodes ep.node ++
        siteNameCauses i "attachment" "an attachment point" s.attachments ep.attachment

end Site

section Validation

def l3vniRenderableCauses (vni : Int) : List Message :=
  causeIf (¬ (vni = 0 ∨ (10000 ≤ vni ∧ vni ≤ 14094)))
    [.lit "l3vni: ", .int vni, .lit " has no derivable service VLAN; this fabric renders L3VNIs in 10000-14094"]

-- `vlan` is the first one that an earlier endpoint carried, 0 before there is one.
def vlanCausesFrom (service : String) (vlan : Int) : Nat → List Endpoint → List Message
  | _, [] => []
  | i, ep :: rest =>
      if ep.vlan = 0 then
        endpointCause i "vlan" [.lit "required for ", .str service] :: vlanCausesFrom service vlan (i + 1) rest
      else if vlan = 0 then vlanCausesFrom service ep.vlan (i + 1) rest
      else
        causeIf (ep.vlan ≠ vlan)
          (endpointCause i "vlan" [.str service, .lit " is one bridge domain, so every endpoint must share one vlan (got ",
            .int vlan, .lit " and ", .int ep.vlan, .lit ")"]) ++ vlanCausesFrom service vlan (i + 1) rest

def endpointVLANCauses (endpoints : List Endpoint) (service : String) : List Message :=
  vlanCausesFrom service 0 0 endpoints

def reservedVLANCauses (endpoints : List Endpoint) : List Message :=
  endpoints.zipIdx.flatMap fun (ep, i) =>
    causeIf (4000 < ep.vlan) (endpointCause i "vlan" [.int ep.vlan, .lit " is reserved (4001-4094); usable range is 1-4000"])

def unsupportedCauses (u : UnsupportedClaims) : List Message :=
  [(u.tePolicy, "tePolicy"), (u.pseudowireOAM, "pseudowireOAM"), (u.controlWord, "controlWord"),
    (u.multicastVPN, "multicastVPN"), (u.complexQoS, "complexQoS"), (u.serviceChain, "serviceChain"),
    (u.rawCLI, "rawCLI")].flatMap fun (present, name) => causeIf present [.lit "unsupported: ", .lit name]

variable (site : Option SiteInventory) (input : ServiceInput)

def spineCauses : List Message :=
  match site with
  | none => []
  | some s =>
      causeIf (s.spines ≠ [] ∧ ¬ knows s.spines input.preferredSpine)
        [.lit "preferredSpine: unknown '", .str input.preferredSpine, .lit "' (site has: ", .str (join s.spines ", "), .lit ")"]

def joinsTwoNodes (endpoints : List Endpoint) : Bool :=
  match endpoints with
  | [a, b] => a.node ≠ b.node
  | _ => false

-- The rules V1 to V8. A tePolicy claim keeps the refusal a tePolicy refusal.
def transportCauses : List Message :=
  if input.transport = "" ∨ input.transport = transportVXLAN then
    causeIf (input.signalling ≠ "") [.lit "signalling: only valid with transport srv6"] ++
      causeIf (input.preferredSpine ≠ "" ∧ ¬ input.unsupported.tePolicy) [.lit "preferredSpine: only valid with transport srv6"]
  else if input.transport = transportSRv6 then
    causeIf (input.type = serviceVLAN ∨ input.type = serviceACL) [.lit "transport: srv6 applies to ip-vrf and mac-vrf only"] ++
      causeIf (input.l2vni ≠ 0 ∨ input.l3vni ≠ 0 ∨ input.rdRt ≠ none)
        [.lit "srv6: identifiers are allocated by the fabric, not supplied"] ++
      causeIf (input.type = serviceMACVRF ∧ input.signalling = signallingVPN)
        [.lit "signalling: mac-vrf over srv6 uses evpn"] ++
      causeIf (¬ joinsTwoNodes input.endpoints)
        [.lit "endpoints: an srv6 service joins exactly two attachments on distinct nodes"] ++
      if input.preferredSpine ≠ "" ∧ ¬ input.unsupported.tePolicy then spineCauses site input else []
  else [[.lit "transport: unsupported '", .str input.transport, .lit "' (transports: vxlan, srv6)"]]

def vlanServiceCauses : List Message :=
  causeIf (input.l2vni ≠ 0) [.lit "l2vni: a vlan is local to the node; ask for a mac-vrf to extend it over the fabric"] ++
    causeIf (input.l3vni ≠ 0)
      [.lit "l3vni: a vlan carries no routed instance; ask for an ip-vrf, or a mac-vrf with an anycastGateway"] ++
    causeIf (input.rdRt ≠ none)
      [.lit "rdRt: a vlan is not advertised by EVPN and has no route distinguisher or targets"] ++
    causeIf (input.anycastGateway ≠ none) [.lit "anycastGateway: only a mac-vrf carries an anycast gateway"] ++
    causeIf (input.endpoints = []) [.lit "endpoints: vlan requires >=1 endpoint"] ++
    endpointVLANCauses input.endpoints "vlan" ++ reservedVLANCauses input.endpoints

-- A mac-vrf that terminates a gateway is useful on a single leaf.
def minEndpoints : Nat := if input.anycastGateway ≠ none then 1 else 2

def routedHalfCauses : List Message :=
  match input.anycastGateway with
  | some gateway =>
      causeIf (input.l3vni = 0 ∧ input.transport ≠ transportSRv6)
          [.lit "l3vni: required for a mac-vrf with an anycastGateway (the ip-vrf it routes into)"] ++
        (if input.transport ≠ transportSRv6 then l3vniRenderableCauses input.l3vni else []) ++
        causeIf (gateway.gatewayV4 = "" ∧ gateway.gatewayV6 = "")
          [.lit "anycastGateway: at least one of gatewayIPv4/gatewayIPv6 is required"]
  | none =>
      causeIf (input.l3vni ≠ 0 ∧ input.transport ≠ transportSRv6)
        [.lit "l3vni: a mac-vrf carries an L3VNI only when it declares an anycastGateway"]

-- The two rules that outlive the VPWS alias.
def pseudowireCauses : List Message :=
  if input.sourceType = legacyVPWS then
    causeIf (input.endpoints.length ≠ 2) [.lit "endpoints: VPWS requires exactly 2 endpoints"] ++
      causeIf (¬ input.policies.vpwsLimitedEquivalence)
        [.lit "policy: vpwsLimitedEquivalence must be true to allow limited equivalence mapping"]
  else []

def macVRFCauses : List Message :=
  causeIf (input.l2vni = 0 ∧ input.transport ≠ transportSRv6) [.lit "l2vni: required for mac-vrf"] ++
    causeIf (input.rdRt = none ∧ input.transport ≠ transportSRv6) [.lit "rdRt: required for mac-vrf"] ++
    reservedVLANCauses input.endpoints ++
    causeIf (input.endpoints.length < minEndpoints input)
      [.lit "endpoints: mac-vrf requires >=", .int (minEndpoints input), .lit " endpoints"] ++
    endpointVLANCauses input.endpoints "mac-vrf" ++ routedHalfCauses input ++ pseudowireCauses input

def noPrefixes (families : Option AddressFamilies) : Prop :=
  ∀ af ∈ families, af.ipv4Prefixes = [] ∧ af.ipv6Prefixes = []

instance (families : Option AddressFamilies) : Decidable (noPrefixes families) :=
  inferInstanceAs (Decidable (∀ af ∈ families, _))

def ipVRFCauses : List Message :=
  causeIf (input.l3vni = 0 ∧ input.transport ≠ transportSRv6) [.lit "l3vni: required for ip-vrf"] ++
    (if input.transport ≠ transportSRv6 then l3vniRenderableCauses input.l3vni else []) ++
    causeIf (input.rdRt = none ∧ input.transport ≠ transportSRv6) [.lit "rdRt: required for ip-vrf"] ++
    causeIf (input.transport ≠ transportSRv6 ∧ noPrefixes input.addressFamilies)
      [.lit "addressFamilies: at least one prefix is required for ip-vrf"] ++
    causeIf (input.l2vni ≠ 0 ∧ input.transport ≠ transportSRv6)
      [.lit "l2vni: an ip-vrf carries no bridge domain; ask for a mac-vrf with an anycastGateway to get both"] ++
    causeIf (input.anycastGateway ≠ none)
      [.lit "anycastGateway: belongs to the mac-vrf whose SVI carries it, not to the ip-vrf"] ++
    causeIf (input.endpoints = []) [.lit "endpoints: ip-vrf requires >=1 endpoint"] ++
    input.endpoints.zipIdx.flatMap fun (ep, i) =>
      causeIf (ep.vrf = "" ∧ input.transport ≠ transportSRv6) (endpointCause i "vrf" [.lit "required for ip-vrf"])

def aclServiceCauses : List Message :=
  causeIf (input.acl = none) [.lit "acl: required for an acl service"] ++
    causeIf (input.l2vni ≠ 0 ∨ input.l3vni ≠ 0 ∨ input.rdRt ≠ none ∨ input.anycastGateway ≠ none)
      [.lit ("acl: an acl binds to ports and carries no VNI, route targets or gateway; attach it to a vlan, mac-vrf or " ++
        "ip-vrf to filter that service")] ++
    causeIf (input.endpoints = []) [.lit "endpoints: acl requires >=1 endpoint to bind to"]

def constructCauses : List Message :=
  if input.type = serviceVLAN then vlanServiceCauses input
  else if input.type = serviceMACVRF then macVRFCauses input
  else if input.type = serviceIPVRF then ipVRFCauses input
  else if input.type = serviceACL then aclServiceCauses input
  else [[.lit "type: unsupported '", .str input.type, .lit "' (constructs: ", .str constructList, .lit ")"]]

-- The causes of an input that Canonicalize has folded.
def canonicalCauses (dupServiceID : Bool) : List Message :=
  causeIf (input.serviceID = "") [.lit "serviceId: required"] ++
    causeIf (input.tenant = "") [.lit "tenant: required"] ++
    causeIf (input.type = "") [.lit "type: required"] ++
    causeIf dupServiceID [.lit "collision: duplicate serviceId '", .str input.serviceID, .lit "' in batch"] ++
    unsupportedCauses input.unsupported ++ transportCauses site input ++
    causeIf (input.endpoints = []) [.lit "endpoints: at least one endpoint is required"] ++
    constructCauses input ++
    input.acl.elim [] aclCauses ++
    validateEndpoints site input.endpoints

def validateAllOrNothing (dupServiceID : Bool) : List Message := canonicalCauses site input.canonicalize dupServiceID

end Validation

theorem vlan_causes_from_nil_iff (service : String) (vlan : Int) (position : Nat) (endpoints : List Endpoint) :
    vlanCausesFrom service vlan position endpoints = [] ↔
      ∃ shared, shared ≠ 0 ∧ (vlan ≠ 0 → shared = vlan) ∧ ∀ ep ∈ endpoints, ep.vlan = shared := by
  induction endpoints generalizing vlan position with
  | nil =>
      have shared : ∃ shared : Int, shared ≠ 0 ∧ (vlan ≠ 0 → shared = vlan) := by
        by_cases named : vlan = 0
        · exact ⟨1, by decide, fun other => absurd named other⟩
        · exact ⟨vlan, named, fun _ => rfl⟩
      simpa [vlanCausesFrom] using shared
  | cons ep rest ih =>
      by_cases absent : ep.vlan = 0
      · simp [vlanCausesFrom, absent]
      · by_cases first : vlan = 0
        · simp only [vlanCausesFrom, absent, first, if_false, if_true, ih]
          constructor
          · intro parts
            obtain ⟨shared, named, same, others⟩ := parts
            exact ⟨shared, named, fun none => absurd rfl none, by simpa [same absent] using others⟩
          · intro parts
            obtain ⟨shared, named, _, all⟩ := parts
            have here : ep.vlan = shared := all ep List.mem_cons_self
            exact ⟨shared, named, fun _ => here.symm, fun other member => all other (List.mem_cons_of_mem ep member)⟩
        · simp only [vlanCausesFrom, absent, first, if_false, List.append_eq_nil_iff, cause_if_nil_iff, ih]
          constructor
          · intro parts
            obtain ⟨agrees, shared, named, same, others⟩ := parts
            have here : ep.vlan = shared := by rw [same first]; exact not_not.mp agrees
            exact ⟨shared, named, same, by simpa [here] using others⟩
          · intro parts
            obtain ⟨shared, named, same, all⟩ := parts
            have here : ep.vlan = shared := all ep List.mem_cons_self
            exact ⟨not_not.mpr (here.trans (same first)), shared, named, same,
              fun other member => all other (List.mem_cons_of_mem ep member)⟩

-- One bridge domain: every endpoint is on the same vlan, and it is one.
theorem endpoint_vlan_causes_nil_iff (endpoints : List Endpoint) (service : String) :
    endpointVLANCauses endpoints service = [] ↔ ∃ shared, shared ≠ 0 ∧ ∀ ep ∈ endpoints, ep.vlan = shared := by
  rw [endpointVLANCauses, vlan_causes_from_nil_iff]
  simp

theorem reserved_vlan_causes_nil_iff (endpoints : List Endpoint) :
    reservedVLANCauses endpoints = [] ↔ ∀ ep ∈ endpoints, ep.vlan ≤ 4000 := by
  unfold reservedVLANCauses
  apply zip_causes_nil_iff
  intro ep i
  simp only [cause_if_nil_iff, Int.not_lt]

theorem joins_two_nodes_iff (endpoints : List Endpoint) :
    joinsTwoNodes endpoints = true ↔ ∃ a b, endpoints = [a, b] ∧ a.node ≠ b.node := by
  unfold joinsTwoNodes
  split
  · simp
  · rename_i other
    constructor
    · intro joined
      cases joined
    · intro parts
      obtain ⟨a, b, two, _⟩ := parts
      exact absurd two (other a b)

end AgenticNetops.Migration
