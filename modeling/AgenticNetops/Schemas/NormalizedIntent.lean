import AgenticNetops.Schemas.Interpretation

set_option autoImplicit false

/- common/schemas/normalized_intent.py: the allocator's output. The constructors'
   own field bounds are checked by `Endpoint.make` and `NormalizedServiceIntent.make`. -/
namespace AgenticNetops.Schemas

structure RdRt where
  rd : String
  importRT : List String := []
  exportRT : List String := []
deriving DecidableEq, Repr

structure AddressFamilies where
  ipv4Prefixes : List String := []
  ipv6Prefixes : List String := []
deriving DecidableEq, Repr

structure Endpoint where
  node : String
  attachment : String
  vlan : Option Int := none
  vrf : Option String := none
  prefixes : Option (List String) := none
deriving DecidableEq, Repr

structure AnycastGateway where
  ipVrf : Option String := none
  gatewayIPv4 : String := ""
  gatewayIPv6 : String := ""
deriving DecidableEq, Repr

structure Policies where
  vpwsLimitedEquivalence : Bool := false
deriving DecidableEq, Repr

-- Which of the explicitly modelled unsupported features are named.
structure UnsupportedClaims where
  tePolicy : Bool := false
  pseudowireOAM : Bool := false
  controlWord : Bool := false
  multicastVPN : Bool := false
  complexQoS : Bool := false
  serviceChain : Bool := false
  rawCLI : Bool := false
deriving DecidableEq, Repr

structure ACL where
  name : Option String := none
  stage : Option Stage := none
  type : Option ACLType := none
  defaultAction : Option Action := none
  bindTo : Option String := none
  rules : Option (List ACLRule) := none
deriving DecidableEq, Repr

structure NormalizedServiceIntent where
  serviceID : String
  type : String
  tenant : String
  rdRt : Option RdRt := none
  l2vni : Option Int := none
  l3vni : Option Int := none
  addressFamilies : Option AddressFamilies := none
  anycastGateway : Option AnycastGateway := none
  transport : String := "vxlan"
  signalling : Option String := none
  preferredSpine : Option String := none
  endpoints : List Endpoint
  policies : Option Policies := none
  unsupported : Option UnsupportedClaims := none
  acl : Option ACL := none
deriving DecidableEq, Repr

-- `none` is pydantic's ValidationError.
def Endpoint.make (endpoint : Endpoint) : Option Endpoint :=
  if endpoint.node ≠ "" ∧ endpoint.attachment ≠ "" ∧ ∀ vlan ∈ endpoint.vlan, 1 ≤ vlan ∧ vlan ≤ 4094 then some endpoint
  else none

def NormalizedServiceIntent.make (intent : NormalizedServiceIntent) : Option NormalizedServiceIntent :=
  if intent.serviceID ≠ "" ∧ intent.tenant ≠ "" ∧ (∀ vni ∈ intent.l2vni, 1 ≤ vni) ∧ ∀ vni ∈ intent.l3vni, 1 ≤ vni then
    some intent
  else none

theorem endpoint_make_some (endpoint made : Endpoint) (valid : endpoint.make = some made) : made = endpoint := by
  unfold Endpoint.make at valid
  split at valid
  · exact (Option.some.inj valid).symm
  · cases valid

theorem intent_make_some (intent made : NormalizedServiceIntent) (valid : intent.make = some made) : made = intent := by
  unfold NormalizedServiceIntent.make at valid
  split at valid
  · exact (Option.some.inj valid).symm
  · cases valid

end AgenticNetops.Schemas
