import AgenticNetops.Lib.GoText

set_option autoImplicit false

/- api/v1alpha1/srv6service_types.go and pkg/reasons: the SRv6Service object.
   Times are the ticks of one clock; a zero metav1.Time is an absent option. -/
namespace AgenticNetops.Api

open GoText

inductive Reason where
  | verified
  | invalidSite
  | portInUse
  | capabilityMissing
  | unsupportedVariant
  | poolExhausted
  | applyFailed
  | checkFailed
  | locatorMissing
  | dataPathFailed
  | dataPathUnverifiable
  | vlanInUse
  | pathDown
  | finalizing
deriving DecidableEq, Repr

def Reason.text : Reason → String
  | .verified => "Verified"
  | .invalidSite => "InvalidSite"
  | .portInUse => "PortInUse"
  | .capabilityMissing => "CapabilityMissing"
  | .unsupportedVariant => "UnsupportedVariant"
  | .poolExhausted => "PoolExhausted"
  | .applyFailed => "ApplyFailed"
  | .checkFailed => "CheckFailed"
  | .locatorMissing => "LocatorMissing"
  | .dataPathFailed => "DataPathFailed"
  | .dataPathUnverifiable => "DataPathUnverifiable"
  | .vlanInUse => "VlanInUse"
  | .pathDown => "PathDown"
  | .finalizing => "Finalizing"

def constructIPVRF : String := "ip-vrf"
def constructMACVRF : String := "mac-vrf"
def signallingVPN : String := "vpn"
def signallingEVPN : String := "evpn"
def srv6Finalizer : String := "agentic-netops.dev/srv6"
def correlationIDLabel : String := "agentic-netops.io/correlation-id"

structure Attachment where
  node : String
  port : String
  gateway : List String := []
deriving DecidableEq, Repr

structure PathSelection where
  preferredSpine : String := ""
  alternateSpine : String := ""
deriving DecidableEq, Repr

structure SRv6ServiceSpec where
  tenant : String
  construct : String
  signalling : String := ""
  attachments : List Attachment
  vlan : Option Int := none
  path : PathSelection := {}
deriving DecidableEq, Repr

structure Allocations where
  serviceID : Int
  vrf : String
  clientPrefixes : GoMap String
  vlan : Option Int := none
deriving DecidableEq, Repr

structure NodeStatus where
  node : String
  applied : Bool := false
  verified : Bool
  failedCheck : Message := []
deriving DecidableEq, Repr

structure DataPathStatus where
  checkedAt : Option Nat
  result : String
deriving DecidableEq, Repr

inductive ConditionType where
  | ready
  | degraded
deriving DecidableEq, Repr

structure Condition where
  type : ConditionType
  status : Bool
  observedGeneration : Nat
  lastTransitionTime : Nat
  reason : Reason
  message : Message
deriving DecidableEq, Repr

structure SRv6ServiceStatus where
  observedGeneration : Nat := 0
  conditions : List Condition := []
  allocations : Option Allocations := none
  nodes : List NodeStatus := []
  activePath : String := ""
  dataPath : Option DataPathStatus := none
  configHashes : GoMap String := []
  appliedSpec : Option SRv6ServiceSpec := none
  correlationID : String := ""
deriving DecidableEq, Repr

structure SRv6Service where
  inNamespace : String
  name : String
  uid : String
  labels : GoMap String := []
  creationTimestamp : Nat
  generation : Nat
  deletionTimestamp : Option Nat := none
  finalizers : List String := []
  spec : SRv6ServiceSpec
  status : SRv6ServiceStatus := {}
deriving DecidableEq, Repr

end AgenticNetops.Api
