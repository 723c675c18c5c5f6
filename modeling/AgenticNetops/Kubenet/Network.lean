import AgenticNetops.Lib.GoText

set_option autoImplicit false

/- pkg/kubenet/network.go: a Network as its typed accessors read it. -/
namespace AgenticNetops.Kubenet

open GoText

structure NetworkVLAN where
  name : String := ""
  vlan : Int := 0
deriving DecidableEq, Repr

structure ACLRule where
  name : String := ""
  priority : Int := 0
  action : String := ""
  protocol : String := ""
  sourcePrefix : String := ""
  destinationPrefix : String := ""
  sourcePort : String := ""
  destinationPort : String := ""
  description : String := ""
deriving DecidableEq, Repr

structure AccessList where
  name : String := ""
  stage : String := ""
  type : String := ""
  defaultAction : String := ""
  rules : List ACLRule := []
deriving DecidableEq, Repr

structure RouteTargets where
  importTargets : List String := []
  exportTargets : List String := []
deriving DecidableEq, Repr

structure NetworkRouter where
  name : String := ""
  l3vni : Int := 0
  rd : String := ""
  routeTargets : Option RouteTargets := none
  prefixes : List String := []
deriving DecidableEq, Repr

structure NetworkAttachment where
  node : String := ""
  attachment : String := ""
  vrf : String := ""
  vlan : Int := 0
deriving DecidableEq, Repr

structure BridgeDomainIRB where
  vrf : String := ""
  gatewayV4 : String := ""
  gatewayV6 : String := ""
deriving DecidableEq, Repr

-- `evpn` is the evpn block, whose route targets may be absent.
structure BridgeDomain where
  name : String := ""
  vlan : Int := 0
  l2vni : Int := 0
  evpn : Option (Option RouteTargets) := none
  irb : Option BridgeDomainIRB := none
deriving DecidableEq, Repr

structure Network where
  inNamespace : String := ""
  name : String := ""
  annotations : GoMap String := []
  routers : List NetworkRouter := []
  attachments : List NetworkAttachment := []
  vlans : List NetworkVLAN := []
  bridgeDomains : List BridgeDomain := []
  accessLists : List AccessList := []
deriving DecidableEq, Repr

end AgenticNetops.Kubenet
