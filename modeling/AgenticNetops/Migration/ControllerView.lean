import AgenticNetops.Migration.Translate
import AgenticNetops.Fabricplan.PlanVlans

set_option autoImplicit false

/- The Network of a translated input as the accessors of pkg/kubenet/network.go decode it:
   an empty field was left out of the object, and an absent one is empty again. -/
namespace AgenticNetops.Migration

open GoText Causes

def RouteTargets.decoded (targets : RouteTargets) : Option Kubenet.RouteTargets :=
  if targets.imported = [] ∧ targets.exported = [] then none
  else some { importTargets := targets.imported, exportTargets := targets.exported }

def BridgeDomain.decoded (bd : BridgeDomain) : Kubenet.BridgeDomain :=
  { name := bd.name
    vlan := bd.vlan
    l2vni := bd.l2vni
    evpn := bd.evpn.map fun evpn => evpn.routeTargets.decoded
    irb := bd.irb.map fun irb => { vrf := irb.vrf, gatewayV4 := irb.gatewayV4, gatewayV6 := irb.gatewayV6 } }

def Router.decoded (r : Router) : Kubenet.NetworkRouter :=
  { name := r.name, l3vni := r.l3vni, rd := r.rd, routeTargets := r.routeTargets.decoded, prefixes := r.prefixes }

def ACLRule.decoded (r : ACLRule) : Kubenet.ACLRule :=
  { name := r.name
    priority := r.priority
    action := r.action
    protocol := r.protocol
    sourcePrefix := r.sourcePrefix
    destinationPrefix := r.destinationPrefix
    sourcePort := r.sourcePort
    destinationPort := r.destinationPort
    description := r.description }

def ACL.decoded (a : ACL) : Kubenet.AccessList :=
  { name := a.name, stage := a.stage, type := a.type, defaultAction := a.defaultAction, rules := a.rules.map ACLRule.decoded }

def Attachment.decoded (att : Attachment) : Kubenet.NetworkAttachment :=
  { node := att.node, attachment := att.attachment, vrf := att.vrf, vlan := att.vlan }

def KubenetNetwork.decoded (object : KubenetNetwork) : Kubenet.Network :=
  { inNamespace := object.inNamespace
    name := object.name
    annotations := object.annotations
    routers := object.spec.routers.map Router.decoded
    attachments := object.spec.attachments.map Attachment.decoded
    vlans := object.spec.vlans.map fun v => { name := v.name, vlan := v.vlan }
    bridgeDomains := object.spec.bridgeDomains.map BridgeDomain.decoded
    accessLists := object.spec.accessLists.map ACL.decoded }

section Vlans

-- The constructs that join their endpoints on a VLAN.
def ServiceInput.bridged (input : ServiceInput) : Prop := input.type = serviceVLAN ∨ input.type = serviceMACVRF

instance (input : ServiceInput) : Decidable input.bridged := inferInstanceAs (Decidable (_ ∨ _))

theorem construct_vlans (input : ServiceInput) (spec : NetworkSpec) (made : constructSpec input = .ok spec) :
    spec.bridgeDomains.map BridgeDomain.vlan ++ spec.vlans.map NetworkVLAN.vlan =
      if input.bridged then [endpointVLAN input.endpoints] else [] := by
  rw [constructSpec] at made
  split at made
  · rename_i vlan
    have bridged : input.bridged := Or.inl vlan
    cases made
    rw [if_pos bridged]
    rfl
  · rename_i notVlan
    split at made
    · rename_i macVRF
      have bridged : input.bridged := Or.inr macVRF
      rw [if_pos bridged]
      cases targets : input.rdRt with
      | none =>
          rw [targets] at made
          cases made
      | some rdRt =>
          rw [targets] at made
          cases made
          rfl
    · rename_i notMac
      have unbridged : ¬ input.bridged := fun bridged => bridged.elim notVlan notMac
      rw [if_neg unbridged]
      split at made
      · cases targets : input.rdRt with
        | none =>
            rw [targets] at made
            cases made
        | some rdRt =>
            rw [targets] at made
            cases made
            rfl
      · split at made
        · cases made
          rfl
        · cases made

-- A translated Network declares the VLAN of its first endpoint and no other.
theorem translated_vlans (canonicalHash : ServiceInput → String) (input : ServiceInput) (bundle : OutputBundle) (object : KubenetNetwork)
    (other : input.transport ≠ transportSRv6) (done : translate canonicalHash input = .ok bundle)
    (kind : bundle.manifest = .network object) :
    Fabricplan.serviceVLANs object.decoded =
      (if input.canonicalize.bridged then [endpointVLAN input.endpoints] else []).filter (· ≠ 0) := by
  rw [translate, canonicalize_transport, if_neg other, translateNetwork] at done
  obtain ⟨spec, made, done⟩ := Fallible.bind_ok _ _ _ done
  cases done
  cases kind
  have vlans := construct_vlans input.canonicalize spec made
  rw [canonicalize_endpoints] at vlans
  rw [← vlans, Fabricplan.serviceVLANs, KubenetNetwork.decoded, List.map_map, List.map_map]
  rfl

variable (site : Option SiteInventory) (dupServiceID : Bool) (input : ServiceInput)

-- A bridged service that passes is one broadcast domain, below the reserved band.
theorem accepted_endpoint_vlans (accepted : validateAllOrNothing site input dupServiceID = []) (bridged : input.canonicalize.bridged) :
    input.endpoints ≠ [] ∧ ∃ shared, shared ≠ 0 ∧ shared ≤ 4000 ∧ ∀ ep ∈ input.endpoints, ep.vlan = shared := by
  simp only [validateAllOrNothing, canonicalCauses, List.append_eq_nil_iff, cause_if_nil_iff, canonicalize_endpoints] at accepted
  obtain ⟨⟨⟨⟨_, present⟩, construct⟩, _⟩, _⟩ := accepted
  have causes : endpointVLANCauses input.endpoints input.canonicalize.type = [] ∧ reservedVLANCauses input.endpoints = [] := by
    rw [constructCauses] at construct
    cases bridged with
    | inl vlan =>
        simp only [vlan, if_true, vlanServiceCauses, List.append_eq_nil_iff, canonicalize_endpoints] at construct
        rw [vlan]
        exact ⟨construct.1.2, construct.2⟩
    | inr macVRF =>
        have other : serviceMACVRF ≠ serviceVLAN := by decide
        simp only [macVRF, other, if_false, if_true, macVRFCauses, List.append_eq_nil_iff, canonicalize_endpoints] at construct
        rw [macVRF]
        exact ⟨construct.1.1.2, construct.1.1.1.1.2⟩
  obtain ⟨shared, named, all⟩ := (endpoint_vlan_causes_nil_iff _ _).mp causes.1
  have below := (reserved_vlan_causes_nil_iff _).mp causes.2
  refine ⟨present, shared, named, ?_, all⟩
  obtain ⟨first, listed⟩ := List.exists_mem_of_ne_nil _ present
  rw [← all first listed]
  exact below first listed

def NonNegativeEndpoints (input : ServiceInput) : Prop := input.canonicalize.bridged → ∀ ep ∈ input.endpoints, 0 ≤ ep.vlan

instance : Decidable (NonNegativeEndpoints input) := inferInstanceAs (Decidable (_ → _))

theorem endpoint_vlans_legal_iff (accepted : validateAllOrNothing site input dupServiceID = []) :
    (input.canonicalize.bridged → ∀ ep ∈ input.endpoints, 1 ≤ ep.vlan ∧ ep.vlan ≤ 4000) ↔ NonNegativeEndpoints input := by
  constructor
  · intro legal bridged ep listed
    have low := (legal bridged ep listed).1
    omega
  · intro nonNegative bridged ep listed
    obtain ⟨_, shared, named, high, all⟩ := accepted_endpoint_vlans site dupServiceID input accepted bridged
    have low := nonNegative bridged ep listed
    rw [all ep listed] at low ⊢
    exact ⟨by omega, high⟩

theorem translated_non_negative_iff (canonicalHash : ServiceInput → String) (bundle : OutputBundle) (object : KubenetNetwork)
    (accepted : validateAllOrNothing site input dupServiceID = []) (other : input.transport ≠ transportSRv6)
    (done : translate canonicalHash input = .ok bundle) (kind : bundle.manifest = .network object) :
    Fabricplan.NoNegativeVLAN object.decoded ↔ NonNegativeEndpoints input := by
  rw [Fabricplan.NoNegativeVLAN, translated_vlans canonicalHash input bundle object other done kind, NonNegativeEndpoints]
  by_cases bridged : input.canonicalize.bridged
  · obtain ⟨present, shared, named, _, all⟩ := accepted_endpoint_vlans site dupServiceID input accepted bridged
    obtain ⟨first, rest, listed⟩ := List.exists_cons_of_ne_nil present
    have head : endpointVLAN input.endpoints = shared := by
      rw [listed, endpointVLAN]
      exact all first (by rw [listed]; exact List.mem_cons_self)
    rw [if_pos bridged, head]
    constructor
    · intro nonNegative _ ep member
      rw [all ep member]
      exact nonNegative shared (by simpa using named)
    · intro nonNegative vid member
      have same : vid = shared := by
        have listed := (List.mem_filter.mp member).1
        simpa using listed
      have low := nonNegative bridged first (by rw [listed]; exact List.mem_cons_self)
      rw [all first (by rw [listed]; exact List.mem_cons_self)] at low
      rw [same]
      exact low
  · rw [if_neg bridged]
    simp [bridged]

/- Nothing on the way from an input to a device asks that a VLAN be positive: the tests are
   for 0 and for more than 4000. -/
theorem device_vlans_legal_iff (canonicalHash : ServiceInput → String) :
    (∀ (net : Kubenet.Network) (opts : Fabricplan.Options) (plan : Fabricplan.NetworkPlan), Fabricplan.forNetwork net opts = .ok plan →
      (Fabricplan.VLANsLegal net plan ↔ Fabricplan.NoNegativeVLAN net) ∧
      ((∀ vid, Fabricplan.Mentioned plan vid → 1 ≤ vid ∧ vid ≤ 4094) ↔
        ∀ att ∈ net.attachments, Fabricplan.Bridged att → 0 ≤ att.vlan)) ∧
    (∀ (site : Option SiteInventory) (dupServiceID : Bool) (input : ServiceInput),
      validateAllOrNothing site input dupServiceID = [] → input.transport ≠ transportSRv6 →
      ((input.canonicalize.bridged → ∀ ep ∈ input.endpoints, 1 ≤ ep.vlan ∧ ep.vlan ≤ 4000) ↔ NonNegativeEndpoints input) ∧
      ∀ (bundle : OutputBundle) (object : KubenetNetwork) (opts : Fabricplan.Options)
        (plan : Fabricplan.NetworkPlan), translate canonicalHash input = .ok bundle → bundle.manifest = .network object →
        Fabricplan.forNetwork object.decoded opts = .ok plan →
        (Fabricplan.VLANsLegal object.decoded plan ↔ NonNegativeEndpoints input)) := by
  constructor
  · intro net opts plan accepted
    exact ⟨Fabricplan.vlans_legal_iff net opts plan accepted, Fabricplan.rendered_legal_iff net opts plan accepted⟩
  · intro site dupServiceID input accepted other
    refine ⟨endpoint_vlans_legal_iff site dupServiceID input accepted, ?_⟩
    intro bundle object opts plan done kind rendered
    rw [Fabricplan.vlans_legal_iff object.decoded opts plan rendered]
    exact translated_non_negative_iff site dupServiceID input canonicalHash bundle object accepted other done kind

-- A local broadcast domain of one port.
def labVLANInput (vlan : Int) : ServiceInput :=
  { serviceID := "svc-vlan"
    type := "vlan"
    tenant := "tenant-a"
    transport := "vxlan"
    endpoints := [{ node := "leaf1", attachment := "eth1", vlan := vlan }] }

def labVLANObject (vlan : Int) : KubenetNetwork :=
  { name := "migr-svc-vlan"
    inNamespace := "kubenet-system"
    annotations := networkAnnotations (labVLANInput vlan).canonicalize "hash"
    spec :=
      { description := [.lit "Migrated service ", .str "svc-vlan", .lit " (", .str "vlan", .lit ")"]
        vlans := [⟨"vlan-svc-vlan", vlan⟩]
        attachments := [{ node := "leaf1", vlan := vlan, attachment := "eth1" }] } }

def labOptions : Fabricplan.Options := { ports := [("eth1", "Ethernet0")] }

-- The words of the input are canonical already, whatever its VLAN.
theorem lab_vlan_translated (vlan : Int) :
    ∃ bundle, translate (fun _ => "hash") (labVLANInput vlan) = .ok bundle ∧ bundle.manifest = .network (labVLANObject vlan) := by
  have type : canonicalWord canonicalTypes (typeKey "vlan") "vlan" = serviceVLAN := by decide +kernel
  have source : canonicalWord legacyTypes (typeKey "vlan") "" = "" := by decide +kernel
  have folded : (labVLANInput vlan).canonicalize = labVLANInput vlan := by
    simp only [ServiceInput.canonicalize, labVLANInput, type, source, ServiceInput.gateway, Option.map_none, Option.or_none]
    rfl
  have vxlan : transportVXLAN ≠ transportSRv6 := by decide
  rw [translate, folded]
  exact ⟨_, if_neg vxlan, by rw [labVLANObject, folded]; rfl⟩

theorem lab_vlan_legal :
    ∃ plan, Fabricplan.forNetwork (labVLANObject 100).decoded labOptions = .ok plan ∧ Fabricplan.VLANsLegal (labVLANObject 100).decoded plan := by
  obtain ⟨bundle, done, kind⟩ := lab_vlan_translated 100
  obtain ⟨plan, rendered⟩ := Fallible.is_ok_value (Fabricplan.forNetwork (labVLANObject 100).decoded labOptions) (by decide +kernel)
  have passes := (device_vlans_legal_iff fun _ => "hash").2 none false (labVLANInput 100) (by decide +kernel) (by decide)
  exact ⟨plan, rendered, (passes.2 bundle _ labOptions plan done kind rendered).mpr (by decide +kernel)⟩

theorem negative_vlan_rendered :
    validateAllOrNothing none (labVLANInput (-5)) false = [] ∧
    (∃ bundle, translate (fun _ => "hash") (labVLANInput (-5)) = .ok bundle ∧ bundle.manifest = .network (labVLANObject (-5))) ∧
    ∃ plan, Fabricplan.forNetwork (labVLANObject (-5)).decoded labOptions = .ok plan ∧
      Fabricplan.Mentioned plan (-5) ∧ ¬ Fabricplan.VLANsLegal (labVLANObject (-5)).decoded plan := by
  refine ⟨by decide +kernel, lab_vlan_translated (-5), ?_⟩
  obtain ⟨plan, rendered⟩ := Fallible.is_ok_value (Fabricplan.forNetwork (labVLANObject (-5)).decoded labOptions) (by decide +kernel)
  have mentioned := Fabricplan.bridged_vlan_rendered _ _ plan rendered
    { node := "leaf1", attachment := "eth1", vlan := -5 } (by decide) ⟨rfl, by decide⟩
  exact ⟨plan, rendered, mentioned, fun legal => absurd (legal.rendered (-5) mentioned).1 (by decide)⟩

end Vlans

end AgenticNetops.Migration
