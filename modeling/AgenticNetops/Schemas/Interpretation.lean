import Mathlib.Data.String.Basic

set_option autoImplicit false

/- common/schemas/interpretation.py: what the operator confirms first. A value here
   is one that model_validate has built: folded service type, checked fields. -/
namespace AgenticNetops.Schemas

inductive ServiceType where
  | vlan
  | macVRF
  | ipVRF
  | acl
deriving DecidableEq, Repr

def ServiceType.value : ServiceType → String
  | .vlan => "vlan"
  | .macVRF => "mac-vrf"
  | .ipVRF => "ip-vrf"
  | .acl => "acl"

inductive Action where
  | permit
  | deny
deriving DecidableEq, Repr

inductive Stage where
  | ingress
  | egress
deriving DecidableEq, Repr

inductive ACLType where
  | l3
  | l3v6
deriving DecidableEq, Repr

inductive Protocol where
  | name (text : String)
  | number (value : Int)
deriving DecidableEq, Repr

structure ACLRule where
  name : String
  priority : Int
  action : Action
  protocol : Option Protocol := none
  sourcePrefix : Option String := none
  destinationPrefix : Option String := none
  sourcePort : Option String := none
  destinationPort : Option String := none
  description : Option String := none
deriving DecidableEq, Repr

structure Interpretation.ACL where
  name : Option String := none
  stage : Stage
  type : ACLType
  defaultAction : Option Action := none
  rules : List ACLRule
deriving DecidableEq, Repr

structure EndpointIntent where
  siteOrNode : String
  attachment : String
  vlan : Option Int := none
  prefixes : Option (List String) := none
deriving DecidableEq, Repr

structure AnycastGatewayIntent where
  ipv4 : Option String := none
  ipv6 : Option String := none
deriving DecidableEq, Repr

inductive Transport where
  | vxlan
  | srv6
deriving DecidableEq, Repr

inductive Signalling where
  | vpn
  | evpn
deriving DecidableEq, Repr

def Signalling.value : Signalling → String
  | .vpn => "vpn"
  | .evpn => "evpn"

structure Interpretation where
  serviceID : String
  serviceType : ServiceType
  sourceServiceType : Option String := none
  tenant : String
  endpoints : List EndpointIntent
  bandwidth : Option String := none
  sla : Option String := none
  ipv4Prefixes : List String := []
  ipv6Prefixes : List String := []
  acl : Option Interpretation.ACL := none
  anycastGateway : Option AnycastGatewayIntent := none
  transport : Option Transport := none
  signalling : Option Signalling := none
  preferredSpine : Option String := none
  alternateSpine : Option String := none
  missingFields : List String := []
  unsupportedProperties : List String := []
deriving DecidableEq, Repr

def Interpretation.isComplete (interp : Interpretation) : Bool :=
  interp.missingFields.isEmpty && interp.unsupportedProperties.isEmpty

end AgenticNetops.Schemas
