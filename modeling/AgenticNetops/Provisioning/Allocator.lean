import Mathlib.Data.List.Sort
import AgenticNetops.Lib.IPNetwork
import AgenticNetops.Schemas.NormalizedIntent
import AgenticNetops.Provisioning.KuidClient

set_option autoImplicit false

/- agents/provisioning/allocator/agent.py. The key of the memo (a SHA-256 of the
   canonical JSON) and the intent's own validation are parameters: what is said of a
   history of calls holds whichever they are. -/
namespace AgenticNetops.Provisioning

open GoText Exits Schemas

-- What a claim or a lease stands for: a number of an index, or a client prefix.
inductive Identifier where
  | number (index : String) (value : Int)
  | subnet (text : String)
deriving DecidableEq, Repr

-- An intent with the identifiers that were claimed for it.
structure Assignment where
  intent : NormalizedServiceIntent
  claimed : List Identifier
deriving DecidableEq, Repr

-- The answers to the claims of one call; the prefixes are claimed endpoint by endpoint.
structure CallAnswers where
  vlan : NumberAnswers
  l2vni : NumberAnswers
  rt : NumberAnswers
  l3vni : NumberAnswers
  subnets : Nat → PrefixAnswers

def gatewayAddress (pfx : String) : Client String :=
  match IPNetwork.ipNetwork pfx with
  | none => pure pfx
  | some network =>
      if network.networkAddress + 1 ≥ 2 ^ network.version.maxPrefixlen then leave (.value [.lit "address out of range"])
      else pure (IPNetwork.addressText network.version (network.networkAddress + 1) ++ "/" ++ toString network.prefixlen)

def deterministicEndpoints (endpoints : List Endpoint) : List Endpoint :=
  endpoints.insertionSort fun first second =>
    first.node < second.node ∨ first.node = second.node ∧ first.attachment ≤ second.attachment

def makeEndpoint (endpoint : Endpoint) : Client Endpoint :=
  match endpoint.make with
  | some made => pure made
  | none => leave .invalid

def makeIntent (intent : NormalizedServiceIntent) : Client NormalizedServiceIntent :=
  match intent.make with
  | some made => pure made
  | none => leave .invalid

def namedVLANs (endpoints : List Endpoint) : List Int :=
  (endpoints.filterMap Endpoint.vlan).dedup.insertionSort (· ≤ ·)

def numberList (numbers : List Int) : Message :=
  [.str (join (numbers.map toString) ", ")]

variable (fallback : Bool)

-- The second component is what was claimed.
def l2Endpoints (endpoints : List Endpoint) (correlationID service : String) (answers : NumberAnswers) :
    Client (List Endpoint × List Identifier) := do
  let onVLAN (vlan : Int) : Client (List Endpoint) := mapEach
    (fun endpoint => makeEndpoint { node := endpoint.node, attachment := endpoint.attachment, vlan := some vlan }) endpoints
  match namedVLANs endpoints with
  | [] => do
      let vlan ← allocateVLAN fallback correlationID answers
      let endpoints ← onVLAN vlan
      return (endpoints, [.number vlanIndex vlan])
  | [vlan] => do
      let endpoints ← onVLAN vlan
      return (endpoints, [])
  | declared => leave (.value ([.str service, .lit " is one bridge domain, so all endpoints share one vlan; the request names ",
      .int declared.length, .lit ": "] ++ numberList declared))

def normalizedACL (interp : Interpretation) : Option ACL :=
  interp.acl.map fun acl =>
    { name := acl.name, stage := some acl.stage, type := some acl.type, defaultAction := acl.defaultAction,
      rules := some acl.rules }

def addressFamilies (interp : Interpretation) : AddressFamilies :=
  if interp.ipv4Prefixes ≠ [] ∨ interp.ipv6Prefixes ≠ [] then
    { ipv4Prefixes := interp.ipv4Prefixes, ipv6Prefixes := interp.ipv6Prefixes }
  else { ipv4Prefixes := ["10.0.0.0/24"] }

def srv6Endpoints (endpoints : List Endpoint) : Client (List Endpoint) :=
  match namedVLANs endpoints with
  | _ :: _ :: _ =>
      leave (.value ([.lit "mac-vrf over srv6 is one bridge domain, so all endpoints share one vlan; the request names ",
        .int (namedVLANs endpoints).length, .lit ": "] ++ numberList (namedVLANs endpoints)))
  | declared => mapEach (fun endpoint =>
      makeEndpoint { node := endpoint.node, attachment := endpoint.attachment, vlan := declared.head? }) endpoints

def attachmentKey (endpoint : Endpoint) : String := endpoint.node ++ "-" ++ endpoint.attachment

-- `e.vrf or f"vrf-{interp.tenant}"`
def vrfOf (endpoint : Endpoint) (tenant : String) : String :=
  match endpoint.vrf with
  | none => "vrf-" ++ tenant
  | some vrf => if vrf = "" then "vrf-" ++ tenant else vrf

def claimGateways (tenant correlationID : String) (answers : Nat → PrefixAnswers) :
    Nat → List Endpoint → Client (List Endpoint × List Identifier)
  | _, [] => pure ([], [])
  | position, endpoint :: rest => do
      let claimed ← allocateClientPrefix correlationID (attachmentKey endpoint) (answers position)
      let gateway ← gatewayAddress claimed
      let made ← makeEndpoint { node := endpoint.node, attachment := endpoint.attachment,
                                vrf := some (vrfOf endpoint tenant), prefixes := some [gateway] }
      let (endpoints, identifiers) ← claimGateways tenant correlationID answers (position + 1) rest
      return (made :: endpoints, .subnet claimed :: identifiers)

def srv6Intent (interp : Interpretation) (acl : Option ACL) (endpoints : List Endpoint) (correlationID : String)
    (answers : Nat → PrefixAnswers) : Client Assignment :=
  match interp.serviceType with
  | .macVRF =>
      if interp.anycastGateway.isSome then
        leave (.value [.lit "mac-vrf over srv6 is bridged: it carries no anycast gateway"])
      else do
        let endpoints ← srv6Endpoints endpoints
        let intent ← makeIntent
          { serviceID := interp.serviceID, type := "mac-vrf", transport := "srv6",
            signalling := some ((interp.signalling.getD .evpn).value), preferredSpine := interp.preferredSpine,
            acl := acl, tenant := interp.tenant, endpoints := endpoints }
        return ⟨intent, []⟩
  | .ipVRF => do
      let (endpoints, identifiers) ← claimGateways interp.tenant correlationID answers 0 endpoints
      let intent ← makeIntent
        { serviceID := interp.serviceID, type := "ip-vrf", transport := "srv6",
          signalling := some ((interp.signalling.getD .vpn).value), preferredSpine := interp.preferredSpine,
          acl := acl, tenant := interp.tenant, addressFamilies := some (addressFamilies interp),
          endpoints := endpoints }
      return ⟨intent, identifiers⟩
  | other => leave (.value [.lit "transport srv6 applies to ip-vrf and mac-vrf only (got ", .str other.value, .lit ")"])

def rdRtOf (number : Int) : RdRt :=
  let rt := fabricASN ++ ":" ++ toString number
  { rd := rt, importRT := [rt], exportRT := [rt] }

-- Only a mac-vrf that routes claims an L3VNI.
def routedGateway (interp : Interpretation) (correlationID : String) (answers : NumberAnswers) :
    Client (Option Int × Option AnycastGateway) :=
  match interp.anycastGateway with
  | none => pure (none, none)
  | some asked => do
      let l3vni ← allocateL3VNI fallback correlationID answers
      return (some l3vni, some { gatewayIPv4 := asked.ipv4.getD "", gatewayIPv6 := asked.ipv6.getD "" })

def vxlanIntent (interp : Interpretation) (acl : Option ACL) (endpoints : List Endpoint) (correlationID : String)
    (answers : CallAnswers) : Client Assignment :=
  match interp.serviceType with
  | .vlan => do
      let (endpoints, vlans) ← l2Endpoints fallback endpoints correlationID "vlan" answers.vlan
      let intent ← makeIntent
        { serviceID := interp.serviceID, type := "vlan", acl := acl, tenant := interp.tenant, endpoints := endpoints }
      return ⟨intent, vlans⟩
  | .macVRF => do
      let (endpoints, vlans) ← l2Endpoints fallback endpoints correlationID "mac-vrf" answers.vlan
      let l2vni ← allocateL2VNI fallback correlationID answers.l2vni
      let rt ← allocateRT fallback correlationID answers.rt
      let (l3vni, gateway) ← routedGateway fallback interp correlationID answers.l3vni
      let intent ← makeIntent
        { serviceID := interp.serviceID, type := "mac-vrf", acl := acl, tenant := interp.tenant,
          rdRt := some (rdRtOf rt), l2vni := some l2vni, l3vni := l3vni, anycastGateway := gateway,
          endpoints := endpoints }
      return ⟨intent, vlans ++ [.number l2vniIndex l2vni, .number extcommIndex rt] ++
        (l3vni.map (Identifier.number l3vniIndex)).toList⟩
  | .ipVRF => do
      let endpoints ← mapEach (fun endpoint =>
        makeEndpoint { node := endpoint.node, attachment := endpoint.attachment,
                       vrf := some (vrfOf endpoint interp.tenant) }) endpoints
      let l3vni ← allocateL3VNI fallback correlationID answers.l3vni
      let rt ← allocateRT fallback correlationID answers.rt
      let intent ← makeIntent
        { serviceID := interp.serviceID, type := "ip-vrf", acl := acl, tenant := interp.tenant,
          rdRt := some (rdRtOf rt), l3vni := some l3vni, addressFamilies := some (addressFamilies interp),
          endpoints := endpoints }
      return ⟨intent, [.number l3vniIndex l3vni, .number extcommIndex rt]⟩
  | .acl => do
      let intent ← makeIntent
        { serviceID := interp.serviceID, type := "acl", tenant := interp.tenant, acl := acl, endpoints := endpoints }
      return ⟨intent, []⟩

def constructIntent (interp : Interpretation) (acl : Option ACL) (endpoints : List Endpoint) (correlationID : String)
    (answers : CallAnswers) : Client Assignment :=
  if interp.transport = some .srv6 then srv6Intent interp acl endpoints correlationID answers.subnets
  else vxlanIntent fallback interp acl endpoints correlationID answers

variable (validateAllOrNothing : NormalizedServiceIntent → Option Message)

def buildIntent (interp : Interpretation) (correlationID : String) (answers : CallAnswers) : Client Assignment := do
  let acl := normalizedACL interp
  let endpoints ← mapEach (fun (endpoint : EndpointIntent) =>
    makeEndpoint { node := endpoint.siteOrNode, attachment := endpoint.attachment, vlan := endpoint.vlan }) interp.endpoints
  let endpoints := deterministicEndpoints endpoints
  let assignment ← constructIntent fallback interp acl endpoints correlationID answers
  match validateAllOrNothing assignment.intent with
  | some causes => leave (.value ([.lit "validation failed: "] ++ causes))
  | none => return assignment

-- One worker process: the claim store it talks to and its memo.
structure Worker where
  store : Store := {}
  memo : GoMap Assignment := []
deriving DecidableEq, Repr

/- One call. `payload` is the interpretation, if the message parses as one;
   `correlationID` the one the message carries, or what stands in for an empty one. -/
structure Call where
  payload : Option Interpretation
  correlationID : String
  answers : CallAnswers

variable (hashInterpretation : Interpretation → String)

-- `_alloc_node` under `ainvoke`: no payload is a ValueError there.
def allocNode (call : Call) (worker : Worker) : Worker × Except Failure Assignment :=
  match call.payload with
  | none => (worker, .error (.value [.lit "allocator produced invalid normalized intent"]))
  | some interp =>
      let key := hashInterpretation interp
      match worker.memo.get? key with
      | some cached => (worker, .ok cached)
      | none =>
          match buildIntent fallback validateAllOrNothing interp call.correlationID call.answers worker.store with
          | (store, .error failure) => ({ worker with store }, .error failure)
          | (store, .ok assignment) => (⟨store, worker.memo.set key assignment⟩, .ok assignment)

end AgenticNetops.Provisioning
