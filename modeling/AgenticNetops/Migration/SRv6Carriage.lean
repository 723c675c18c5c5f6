import AgenticNetops.Migration.SRv6Admission

set_option autoImplicit false

/- What an srv6 input asks of the forwarding, and what of it the spec of the emitted
   SRv6Service still says. -/
namespace AgenticNetops.Migration

open GoText

structure Forwarding where
  acl : Option ACL
  gateway : Option AnycastGateway
  families : List String
  vlans : List Int
  prefixes : List (List String)
  preferredSpine : String
  signalling : String
deriving DecidableEq, Repr

-- An input that names no signalling declares the construct's own.
def declaredBy (input : ServiceInput) : Forwarding :=
  { acl := input.acl
    gateway := input.anycastGateway
    families := concatPrefixes input.addressFamilies
    vlans := input.endpoints.map Endpoint.vlan
    prefixes := input.endpoints.map Endpoint.prefixes
    preferredSpine := input.preferredSpine
    signalling := signallingOf input }

/- The spec has no place for an access list, an anycast gateway or address families, and
   one vlan for both of its attachments. -/
def carriedBy (spec : SRv6ServiceSpec) : Forwarding :=
  { acl := none
    gateway := none
    families := []
    vlans := spec.attachments.map fun _ => spec.vlan
    prefixes := spec.attachments.map SRv6Attachment.gateway
    preferredSpine := (spec.path.map SRv6Path.preferredSpine).getD ""
    signalling := spec.signalling }

-- The inputs that declare only what the spec has a place for.
structure Carriable (input : ServiceInput) : Prop where
  acl : input.acl = none
  gateway : input.anycastGateway = none
  families : concatPrefixes input.addressFamilies = []
  vlans : input.type = serviceIPVRF → ∀ ep ∈ input.endpoints, ep.vlan = 0

def TranslatesCarried (canonicalHash : ServiceInput → String) (input : ServiceInput) : Prop :=
  ∃ bundle service, translate canonicalHash input = .ok bundle ∧ bundle.manifest = .srv6Service service ∧
    carriedBy service.spec = declaredBy input.canonicalize

section Carriage
variable (input : ServiceInput)

theorem carried_spine : ((srv6Spec input).path.map SRv6Path.preferredSpine).getD "" = input.preferredSpine := by
  by_cases named : input.preferredSpine = ""
  · simp [srv6Spec, named]
  · simp [srv6Spec, named]

theorem carried_prefixes :
    (srv6Spec input).attachments.map SRv6Attachment.gateway = input.endpoints.map Endpoint.prefixes := by
  simp only [srv6Spec, List.map_map]
  rfl

theorem carried_vlans_mac_vrf (mac : input.type = serviceMACVRF) (valid : ValidSRv6 input) :
    ((srv6Spec input).attachments.map fun _ => (srv6Spec input).vlan) = input.endpoints.map Endpoint.vlan := by
  obtain ⟨a, b, two, _⟩ := valid.twoNodes
  obtain ⟨shared, _, _, same⟩ := valid.oneVLAN mac
  have first : a.vlan = shared := same a (by rw [two]; exact List.mem_cons_self)
  have second : b.vlan = shared := same b (by rw [two]; exact List.mem_cons_of_mem a List.mem_cons_self)
  simp [srv6Spec, mac, two, endpointVLAN, first, second]

-- A routed service has no vlan in its spec.
theorem carried_vlans_ip_vrf (ip : input.type = serviceIPVRF) :
    ((srv6Spec input).attachments.map fun _ => (srv6Spec input).vlan) = input.endpoints.map Endpoint.vlan ↔
      ∀ ep ∈ input.endpoints, ep.vlan = 0 := by
  have other : ¬ input.type = serviceMACVRF := by rw [ip]; decide
  have none : (srv6Spec input).vlan = 0 := if_neg other
  rw [none]
  simp only [srv6Spec, List.map_map]
  constructor
  · intro same ep member
    exact (List.map_inj_left.mp same ep member).symm
  · intro unset
    exact List.map_inj_left.mpr fun ep member => (unset ep member).symm

theorem spec_carries_iff (valid : ValidSRv6 input) : carriedBy (srv6Spec input) = declaredBy input ↔ Carriable input := by
  constructor
  · intro same
    exact {
      acl := (congrArg Forwarding.acl same).symm
      gateway := (congrArg Forwarding.gateway same).symm
      families := (congrArg Forwarding.families same).symm
      vlans := fun ip => (carried_vlans_ip_vrf input ip).mp (congrArg Forwarding.vlans same) }
  · intro carriable
    have vlans : ((srv6Spec input).attachments.map fun _ => (srv6Spec input).vlan) = input.endpoints.map Endpoint.vlan := by
      cases valid.construct with
      | inl mac => exact carried_vlans_mac_vrf input mac valid
      | inr ip => exact (carried_vlans_ip_vrf input ip).mpr (carriable.vlans ip)
    simp only [carriedBy, declaredBy, carriable.acl, carriable.gateway, carriable.families, vlans, carried_prefixes,
      carried_spine]
    rfl

theorem translates_carried_iff (canonicalHash : ServiceInput → String) (srv6 : input.transport = transportSRv6) :
    TranslatesCarried canonicalHash input ↔ carriedBy (srv6Spec input.canonicalize) = declaredBy input.canonicalize := by
  have translated := translate_srv6 canonicalHash input srv6
  constructor
  · intro parts
    obtain ⟨bundle, service, done, isService, same⟩ := parts
    rw [translated] at done
    cases done
    cases isService
    exact same
  · intro same
    exact ⟨_, _, translated, rfl, same⟩

end Carriage

def labBridgedService : ServiceInput :=
  { serviceID := "l2-1", type := "mac-vrf", tenant := "acme", transport := "srv6", preferredSpine := "spine01"
    endpoints := [{ node := "leaf01", attachment := "wan1", vlan := 120 }, { node := "leaf02", attachment := "wan1", vlan := 120 }] }

def sshOnly : ACL :=
  { stage := "ingress", type := "l3", defaultAction := "deny"
    rules := [{ name := "ssh", priority := 100, action := "permit", protocol := "tcp", destinationPort := "22" }] }

end AgenticNetops.Migration
