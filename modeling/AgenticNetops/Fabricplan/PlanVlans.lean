import AgenticNetops.Fabricplan.VlanIds

set_option autoImplicit false

/- The VLAN ids of a whole Network plan: what one attachment adds, what the run over the
   attachments and the access lists carries, and when all of them are legal. -/
namespace AgenticNetops.Fabricplan

open GoText Kubenet Fallible

def nodeVLANs (np : NetworkNodePlan) : List Int := np.ops.flatMap opVLANs ++ np.checks.flatMap Check.vlans

-- Some node's ops or checks carry the id.
def Mentioned (plan : NetworkPlan) (vid : Int) : Prop := ∃ n np, plan.get? n = some np ∧ vid ∈ nodeVLANs np

section Run

theorem node_add_vlans (np : NetworkNodePlan) (part : Part) (vid : Int) :
    vid ∈ nodeVLANs (np.add part) ↔ vid ∈ nodeVLANs np ∨ vid ∈ part.vlans := by
  simp only [nodeVLANs, NodePlan.add, Part.vlans, List.flatMap_append, List.mem_append]
  tauto

theorem mentioned_add (plan : NetworkPlan) (name : String) (part : Part) (vid : Int) :
    Mentioned (GoMap.addPart plan name part) vid ↔ Mentioned plan vid ∨ vid ∈ part.vlans := by
  have there : (GoMap.addPart plan name part).get? name = some (((plan.get? name).getD { node := name }).add part) := get_set_same _ _ _
  have elsewhere (n : String) (other : n ≠ name) : (GoMap.addPart plan name part).get? n = plan.get? n := get_set_other _ _ _ _ other
  constructor
  · intro mentioned
    obtain ⟨n, np, found, carried⟩ := mentioned
    by_cases here : n = name
    · rw [here, there] at found
      cases found
      cases (node_add_vlans _ _ _).mp carried with
      | inr added => exact Or.inr added
      | inl before =>
          left
          cases held : plan.get? name with
          | none =>
              rw [held] at before
              cases before
          | some np =>
              rw [held] at before
              exact ⟨name, np, held, before⟩
    · rw [elsewhere n here] at found
      exact Or.inl ⟨n, np, found, carried⟩
  · intro either
    cases either with
    | inr added => exact ⟨name, _, there, (node_add_vlans _ _ _).mpr (Or.inr added)⟩
    | inl before =>
        obtain ⟨n, np, found, carried⟩ := before
        by_cases here : n = name
        · rw [here] at found
          refine ⟨name, _, there, (node_add_vlans _ _ _).mpr (Or.inl ?_)⟩
          rw [found]
          exact carried
        · exact ⟨n, np, by rw [elsewhere n here]; exact found, carried⟩

-- The VLANs that a Network declares for its services; 0 is an absent one.
def serviceVLANs (net : Network) : List Int :=
  (net.bridgeDomains.map BridgeDomain.vlan ++ net.vlans.map NetworkVLAN.vlan).filter (· ≠ 0)

def Derived (net : Network) (vid : Int) : Prop := ∃ r ∈ net.routers, l3VLANForVNI r.l3vni = .ok vid

theorem held_last_listed {α : Type} (under : α → Bool) (entries : List α) (entry : α) (held : heldLast under entries = some entry) :
    entry ∈ entries ∧ under entry = true :=
  ⟨List.mem_reverse.mp (List.mem_of_find?_eq_some held), List.find?_some held⟩

theorem router_listed (net : Network) (name : String) (r : NetworkRouter) (held : routerNamed net name = some r) : r ∈ net.routers :=
  (held_last_listed _ _ r held).1

theorem domain_on (net : Network) (vlan : Int) (bd : BridgeDomain) (held : domainOn net vlan = some bd) (served : vlan ≠ 0) :
    bd.vlan = vlan ∧ vlan ∈ serviceVLANs net := by
  obtain ⟨listed, under⟩ := held_last_listed _ _ bd held
  have same : bd.vlan = vlan := of_decide_eq_true under
  have declared : vlan ∈ net.bridgeDomains.map BridgeDomain.vlan := List.mem_map.mpr ⟨bd, listed, same⟩
  exact ⟨same, List.mem_filter.mpr ⟨List.mem_append_left _ declared, decide_eq_true served⟩⟩

theorem local_vlan_on (net : Network) (vlan : Int) (v : NetworkVLAN) (held : localVLANOn net vlan = some v) (served : vlan ≠ 0) :
    v.vlan = vlan ∧ vlan ∈ serviceVLANs net := by
  obtain ⟨listed, under⟩ := held_last_listed _ _ v held
  have same : v.vlan = vlan := of_decide_eq_true under
  have declared : vlan ∈ net.vlans.map NetworkVLAN.vlan := List.mem_map.mpr ⟨v, listed, same⟩
  exact ⟨same, List.mem_filter.mpr ⟨List.mem_append_right _ declared, decide_eq_true served⟩⟩

variable (net : Network) (opts : Options)

-- An attachment that no router takes is served by its own VLAN.
def Bridged (att : NetworkAttachment) : Prop := att.vrf = "" ∧ att.vlan ≠ 0

/- One attachment: an id of its part is the L3VLAN of a router or the VLAN that it is
   bridged on, and a bridged attachment's part carries that VLAN. -/
theorem attachment_vlans (att : NetworkAttachment) (part : Part) (made : renderAttachment net opts att = .ok part) :
    (∀ vid ∈ part.vlans, Derived net vid ∨ (Bridged att ∧ vid = att.vlan ∧ vid ∈ serviceVLANs net)) ∧
    (Bridged att → att.vlan ∈ part.vlans) := by
  rw [renderAttachment] at made
  split at made
  · rename_i routed
    have notBridged : ¬ Bridged att := fun bridged => routed bridged.1
    cases found : routerNamed net att.vrf with
    | none =>
        rw [found] at made
        cases made
    | some r =>
        rw [found] at made
        obtain ⟨l3vlan, derived, carries⟩ := l3_part_vlans opts att part r made
        refine ⟨fun vid carried => Or.inl ⟨r, router_listed net att.vrf r found, ?_⟩, fun bridged => absurd bridged notBridged⟩
        rw [(carries vid).mp carried]
        exact derived
  · rename_i unrouted
    split at made
    · rename_i served
      have bridged : Bridged att := ⟨not_not.mp unrouted, served⟩
      cases domain : domainOn net att.vlan with
      | some bd =>
          obtain ⟨same, declared⟩ := domain_on net att.vlan bd domain served
          rw [domain] at made
          cases irb : bd.irb with
          | none =>
              simp only [irb] at made
              have carries := l2_part_vlans opts att part bd made
              refine ⟨fun vid carried => ?_, fun _ => (carries att.vlan).mpr same.symm⟩
              have isVlan : vid = att.vlan := ((carries vid).mp carried).trans same
              exact Or.inr ⟨bridged, isVlan, by rw [isVlan]; exact declared⟩
          | some routed =>
              simp only [irb] at made
              cases found : routerNamed net routed.vrf with
              | none =>
                  rw [found] at made
                  cases made
              | some r =>
                  rw [found] at made
                  obtain ⟨l3vlan, derived, carries⟩ := irb_part_vlans opts att part bd routed r made
                  refine ⟨fun vid carried => ?_, fun _ => (carries att.vlan).mpr (Or.inl same.symm)⟩
                  cases (carries vid).mp carried with
                  | inl own =>
                      have isVlan : vid = att.vlan := own.trans same
                      exact Or.inr ⟨bridged, isVlan, by rw [isVlan]; exact declared⟩
                  | inr l3 =>
                      rw [l3]
                      exact Or.inl ⟨r, router_listed net routed.vrf r found, derived⟩
      | none =>
          rw [domain] at made
          cases vlan : localVLANOn net att.vlan with
          | none =>
              rw [vlan] at made
              cases made
          | some v =>
              obtain ⟨same, declared⟩ := local_vlan_on net att.vlan v vlan served
              rw [vlan] at made
              have carries := vlan_part_vlans opts att part v made
              refine ⟨fun vid carried => ?_, fun _ => (carries att.vlan).mpr same.symm⟩
              have isVlan : vid = att.vlan := ((carries vid).mp carried).trans same
              exact Or.inr ⟨bridged, isVlan, by rw [isVlan]; exact declared⟩
    · rename_i unserved
      have notBridged : ¬ Bridged att := fun bridged => unserved bridged.2
      split at made
      · cases made
        exact ⟨fun _ carried => (List.not_mem_nil carried).elim, fun bridged => absurd bridged notBridged⟩
      · cases made

theorem render_attachments_vlans (atts : List NetworkAttachment) (plan out : NetworkPlan) (vid : Int)
    (done : renderAttachments net opts plan atts = .ok out) :
    Mentioned out vid ↔ Mentioned plan vid ∨ ∃ att ∈ atts, ∃ part, renderAttachment net opts att = .ok part ∧ vid ∈ part.vlans := by
  induction atts generalizing plan with
  | nil =>
      cases done
      simp
  | cons att rest ih =>
      rw [renderAttachments] at done
      obtain ⟨part, made, done⟩ := bind_ok _ _ _ done
      rw [ih _ done, mentioned_add]
      constructor
      · intro cases_
        cases cases_ with
        | inl before =>
            cases before with
            | inl held => exact Or.inl held
            | inr added => exact Or.inr ⟨att, List.mem_cons_self, part, made, added⟩
        | inr later =>
            obtain ⟨other, listed, rendered⟩ := later
            exact Or.inr ⟨other, List.mem_cons_of_mem _ listed, rendered⟩
      · intro cases_
        cases cases_ with
        | inl held => exact Or.inl (Or.inl held)
        | inr later =>
            obtain ⟨other, listed, rendered⟩ := later
            cases List.mem_cons.mp listed with
            | inl here =>
                obtain ⟨samePart, sameMade, carried⟩ := rendered
                rw [here, made] at sameMade
                cases sameMade
                exact Or.inl (Or.inr carried)
            | inr behind => exact Or.inr ⟨other, behind, rendered⟩

theorem render_attachments_all (atts : List NetworkAttachment) (plan out : NetworkPlan)
    (done : renderAttachments net opts plan atts = .ok out) : ∀ att ∈ atts, ∃ part, renderAttachment net opts att = .ok part := by
  induction atts generalizing plan with
  | nil => simp
  | cons att rest ih =>
      rw [renderAttachments] at done
      obtain ⟨part, made, done⟩ := bind_ok _ _ _ done
      intro other listed
      cases List.mem_cons.mp listed with
      | inl here => exact ⟨part, by rw [here]; exact made⟩
      | inr behind => exact ih _ done other behind

theorem render_acl_on_vlans (bound : List (String × String)) (al : AccessList) (nodes : List String) (plan out : NetworkPlan) (vid : Int)
    (done : renderACLOn net opts bound al plan nodes = .ok out) : Mentioned out vid ↔ Mentioned plan vid := by
  induction nodes generalizing plan with
  | nil =>
      cases done
      rfl
  | cons node rest ih =>
      rw [renderACLOn] at done
      obtain ⟨part, made, done⟩ := bind_ok _ _ _ done
      rw [ih _ done, mentioned_add, acl_part_vlans al _ _ _ opts part made]
      simp

theorem render_acls_vlans (bound : List (String × String)) (als : List AccessList) (plan out : NetworkPlan) (vid : Int)
    (done : renderACLs net opts bound plan als = .ok out) : Mentioned out vid ↔ Mentioned plan vid := by
  induction als generalizing plan with
  | nil =>
      cases done
      rfl
  | cons al rest ih =>
      rw [renderACLs] at done
      obtain ⟨next, on, done⟩ := bind_ok _ _ _ done
      rw [ih _ done, render_acl_on_vlans net opts bound al _ plan next vid on]

theorem render_network_steps (plan : NetworkPlan) (done : renderNetwork net opts = .ok plan) :
    checkNetwork net = .ok () ∧ ∃ attached, renderAttachments net opts [] (sortedAttachments net) = .ok attached ∧
      ∀ vid, Mentioned plan vid ↔ Mentioned attached vid := by
  rw [renderNetwork] at done
  obtain ⟨checked, passed, done⟩ := bind_ok _ _ _ done
  obtain ⟨attached, run, done⟩ := bind_ok _ _ _ done
  have whole (filled : NetworkPlan) (last : (if filled = [] then .error [.lit "network has no usable attachments"] else pure filled) =
      (Except.ok plan : Except Error NetworkPlan)) : filled = plan := by
    split at last
    · cases last
    · cases last
      rfl
  refine ⟨passed, attached, run, ?_⟩
  intro vid
  split at done
  · rw [whole attached done]
  · obtain ⟨bound, _, done⟩ := bind_ok _ _ _ done
    obtain ⟨filtered, acls, done⟩ := bind_ok _ _ _ done
    rw [← whole filtered done]
    exact render_acls_vlans net opts bound net.accessLists attached filtered vid acls

-- The ids of a whole plan are those of its attachments' parts.
theorem render_network_vlans (plan : NetworkPlan) (done : renderNetwork net opts = .ok plan) (vid : Int) :
    Mentioned plan vid ↔ ∃ att ∈ net.attachments, ∃ part, renderAttachment net opts att = .ok part ∧ vid ∈ part.vlans := by
  obtain ⟨_, attached, run, same⟩ := render_network_steps net opts plan done
  have started : ¬ Mentioned ([] : NetworkPlan) vid := by
    intro mentioned
    obtain ⟨n, np, found, _⟩ := mentioned
    cases found
  rw [same, render_attachments_vlans net opts _ _ _ vid run, or_iff_right started]
  simp only [sortedAttachments, List.mem_insertionSort]

end Run

section Declared
variable (net : Network) (opts : Options)

theorem check_declared_vlans (kind : String) (entries : List (String × Int)) (passed : checkDeclaredVLANs kind entries = .ok ()) :
    ∀ entry ∈ entries, entry.2 ≤ l3VLANBase := by
  induction entries with
  | nil => simp
  | cons entry rest ih =>
      rw [checkDeclaredVLANs, guard_ok] at passed
      intro other listed
      cases List.mem_cons.mp listed with
      | inl here => rw [here]; omega
      | inr behind => exact ih passed.2 other behind

-- What the network's own checks leave of its declared VLANs.
theorem service_vlans_bounded (passed : checkNetwork net = .ok ()) : ∀ vid ∈ serviceVLANs net, vid ≠ 0 ∧ vid ≤ 4000 := by
  rw [checkNetwork] at passed
  obtain ⟨_, _, passed⟩ := bind_ok _ _ _ passed
  obtain ⟨_, _, passed⟩ := bind_ok _ _ _ passed
  obtain ⟨_, domains, locals⟩ := bind_ok _ _ _ passed
  intro vid listed
  obtain ⟨declared, named⟩ := List.mem_filter.mp listed
  refine ⟨of_decide_eq_true named, ?_⟩
  cases List.mem_append.mp declared with
  | inl domain =>
      obtain ⟨bd, held, rfl⟩ := List.mem_map.mp domain
      exact check_declared_vlans _ _ domains (bd.name, bd.vlan) (List.mem_map.mpr ⟨bd, held, rfl⟩)
  | inr local_ =>
      obtain ⟨v, held, rfl⟩ := List.mem_map.mp local_
      exact check_declared_vlans _ _ locals (v.name, v.vlan) (List.mem_map.mpr ⟨v, held, rfl⟩)

structure VLANsLegal (net : Network) (plan : NetworkPlan) : Prop where
  rendered : ∀ vid, Mentioned plan vid → 1 ≤ vid ∧ vid ≤ 4094
  service : ∀ vid ∈ serviceVLANs net, 1 ≤ vid ∧ vid ≤ 4000
  derived : ∀ vid, Derived net vid → 4001 ≤ vid ∧ vid ≤ 4094

def NoNegativeVLAN (net : Network) : Prop := ∀ vid ∈ serviceVLANs net, 0 ≤ vid

instance (net : Network) : Decidable (NoNegativeVLAN net) := inferInstanceAs (Decidable (∀ vid ∈ serviceVLANs net, 0 ≤ vid))

theorem derived_in_band (vid : Int) (derived : Derived net vid) : 4001 ≤ vid ∧ vid ≤ 4094 := by
  obtain ⟨r, _, vlan⟩ := derived
  obtain ⟨low, high⟩ := l3_vlan_in_band r.l3vni vid vlan
  rw [l3VLANBase] at low
  exact ⟨by omega, high⟩

variable (plan : NetworkPlan) (accepted : forNetwork net opts = .ok plan)
include accepted

theorem for_network_accepts : ∃ used, renderNetwork net used = .ok plan := by
  rw [forNetwork, guard_ok] at accepted
  obtain ⟨_, accepted⟩ := accepted
  rw [guard_ok] at accepted
  exact ⟨_, accepted.2⟩

theorem rendered_vlans (vid : Int) (mentioned : Mentioned plan vid) :
    Derived net vid ∨ (vid ∈ serviceVLANs net ∧ ∃ att ∈ net.attachments, Bridged att ∧ vid = att.vlan) := by
  obtain ⟨used, rendered⟩ := for_network_accepts net opts plan accepted
  obtain ⟨att, listed, part, made, carried⟩ := (render_network_vlans net used plan rendered vid).mp mentioned
  cases (attachment_vlans net used att part made).1 vid carried with
  | inl derived => exact Or.inl derived
  | inr served => exact Or.inr ⟨served.2.2, att, listed, served.1, served.2.1⟩

theorem bridged_vlan_rendered (att : NetworkAttachment) (listed : att ∈ net.attachments) (bridged : Bridged att) :
    Mentioned plan att.vlan := by
  obtain ⟨used, rendered⟩ := for_network_accepts net opts plan accepted
  obtain ⟨_, attached, run, _⟩ := render_network_steps net used plan rendered
  have inOrder : att ∈ sortedAttachments net := (List.mem_insertionSort _).mpr listed
  obtain ⟨part, made⟩ := render_attachments_all net used _ _ _ run att inOrder
  have carried := (attachment_vlans net used att part made).2 bridged
  exact (render_network_vlans net used plan rendered att.vlan).mpr ⟨att, listed, part, made, carried⟩

theorem accepted_vlans_bounded : ∀ vid ∈ serviceVLANs net, vid ≠ 0 ∧ vid ≤ 4000 := by
  obtain ⟨used, rendered⟩ := for_network_accepts net opts plan accepted
  exact service_vlans_bounded net (render_network_steps net used plan rendered).1

-- The ids that reach a device are legal when no attachment is bridged on a negative VLAN.
theorem rendered_legal_iff :
    (∀ vid, Mentioned plan vid → 1 ≤ vid ∧ vid ≤ 4094) ↔ ∀ att ∈ net.attachments, Bridged att → 0 ≤ att.vlan := by
  have bounded := accepted_vlans_bounded net opts plan accepted
  constructor
  · intro legal att listed bridged
    have low := (legal att.vlan (bridged_vlan_rendered net opts plan accepted att listed bridged)).1
    omega
  · intro nonNegative vid mentioned
    cases rendered_vlans net opts plan accepted vid mentioned with
    | inl derived =>
        obtain ⟨low, high⟩ := derived_in_band net vid derived
        exact ⟨by omega, high⟩
    | inr served =>
        obtain ⟨declared, att, listed, bridged, same⟩ := served
        obtain ⟨named, high⟩ := bounded vid declared
        have low := nonNegative att listed bridged
        exact ⟨by omega, by omega⟩

theorem vlans_legal_iff : VLANsLegal net plan ↔ NoNegativeVLAN net := by
  have bounded := accepted_vlans_bounded net opts plan accepted
  constructor
  · intro legal vid listed
    have low := (legal.service vid listed).1
    omega
  · intro nonNegative
    have service (vid : Int) (listed : vid ∈ serviceVLANs net) : 1 ≤ vid ∧ vid ≤ 4000 := by
      obtain ⟨named, high⟩ := bounded vid listed
      have low := nonNegative vid listed
      exact ⟨by omega, high⟩
    refine ⟨fun vid mentioned => ?_, service, derived_in_band net⟩
    cases rendered_vlans net opts plan accepted vid mentioned with
    | inl derived =>
        obtain ⟨low, high⟩ := derived_in_band net vid derived
        exact ⟨by omega, high⟩
    | inr served =>
        obtain ⟨low, high⟩ := service vid served.1
        exact ⟨low, by omega⟩

end Declared

end AgenticNetops.Fabricplan
