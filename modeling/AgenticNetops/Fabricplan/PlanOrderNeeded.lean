import AgenticNetops.Fabricplan.PlanOrder
import AgenticNetops.Fabricplan.RenderingReads

set_option autoImplicit false

/- What a plan that no order of the lists changes says of them: each condition of a settled
   order is needed. -/
namespace AgenticNetops.Fabricplan

open GoText Kubenet Fallible KeyedAppend

section Last
variable {α : Type} [DecidableEq α] (under : α → Bool) (entries : List α)

-- The same entries with this one at the end.
def withLast (entry : α) : List α := entries.erase entry ++ [entry]

theorem with_last_perm (entry : α) (listed : entry ∈ entries) : entries.Perm (withLast entries entry) :=
  (List.perm_cons_erase listed).trans (List.perm_append_singleton entry _).symm

theorem held_with_last (entry : α) (named : under entry = true) : heldLast under (withLast entries entry) = some entry := by
  rw [heldLast, withLast, List.reverse_append, List.reverse_singleton, List.singleton_append, List.find?_cons_of_pos named]

theorem held_with_other_last (entry : α) (other : under entry ≠ true) : heldLast under (withLast entries entry) = heldLast under entries := by
  have filtered (l : List α) : heldLast under l = (l.filter under).reverse.head? := by
    rw [heldLast, ← List.head?_filter, List.filter_reverse]
  have kept : (withLast entries entry).filter under = entries.filter under := by
    have absent : entry ∉ entries.filter under := fun inside => other (List.mem_filter.mp inside).2
    rw [withLast, List.filter_append, List.filter_cons_of_neg other, List.filter_nil, List.append_nil, ← List.erase_filter, List.erase_of_not_mem absent]
  rw [filtered, filtered, kept]

end Last

section Orders
variable (net : Network) (opts : Options)

def OrderFree : Prop := ∀ other, Reordered net other →
  ∃ plan, renderNetwork other opts = .ok plan ∧ SamePlan (fillPlan [] (planEntries net opts)) plan

variable (free : OrderFree net opts)
include free

theorem order_free_accepts (other : Network) (order : Reordered net other) :
    Accepts other opts ∧ SamePlan (fillPlan [] (planEntries net opts)) (fillPlan [] (planEntries other opts)) := by
  obtain ⟨plan, rendered, same⟩ := free other order
  obtain ⟨accepts, whole⟩ := (render_network_iff other opts plan).mp rendered
  rw [whole] at same
  exact ⟨accepts, same⟩

theorem banded_needed : ∀ r ∈ net.routers, r.l3vni ≠ 0 → evpnVNIMin ≤ r.l3vni ∧ r.l3vni ≤ evpnVNIMax := by
  intro r listed some_
  have order : Reordered net { net with routers := withLast net.routers r } :=
    ⟨List.Perm.refl _, with_last_perm net.routers r listed, List.Perm.refl _, List.Perm.refl _, rfl⟩
  have passes := (check_network_iff _).mp (order_free_accepts net opts free _ order).1.checked
  obtain ⟨vlan, derived⟩ := passes.derived r.name r (held_with_last _ net.routers r (decide_eq_true rfl)) some_
  obtain ⟨low, high, _⟩ := l3_vlan_ranged r.l3vni vlan derived
  exact ⟨low, high⟩

theorem apart_needed : ∀ r ∈ net.routers, ∀ other ∈ net.routers, r.name ≠ other.name → r.l3vni ≠ 0 → other.l3vni ≠ 0 →
    r.l3vni % l3VLANBandSize ≠ other.l3vni % l3VLANBandSize := by
  intro r listed other beside differ some_ also
  have once := with_last_perm net.routers r listed
  have twice := with_last_perm (withLast net.routers r) other (once.mem_iff.mp beside)
  have order : Reordered net { net with routers := withLast (withLast net.routers r) other } :=
    ⟨List.Perm.refl _, once.trans twice, List.Perm.refl _, List.Perm.refl _, rfl⟩
  have passes := (check_network_iff _).mp (order_free_accepts net opts free _ order).1.checked
  have second := held_with_last (fun entry => entry.name = other.name) (withLast net.routers r) other (decide_eq_true rfl)
  have first : heldLast (fun entry => entry.name = r.name) (withLast (withLast net.routers r) other) = some r := by
    rw [held_with_other_last _ _ other (by simpa using Ne.symm differ)]
    exact held_with_last _ net.routers r (decide_eq_true rfl)
  have folded := passes.apart r.name other.name differ r first other second some_ also
  obtain ⟨low, high⟩ := banded_needed net opts free r listed some_
  obtain ⟨low', high'⟩ := banded_needed net opts free other beside also
  rw [Ne, l3_vlan_same_iff r.l3vni other.l3vni low high low' high'] at folded
  exact folded

end Orders

section Fields

theorem context_fields (r : NetworkRouter) (c : L3Context) (context : l3ContextFor r = .ok c) :
    c.l3vni = r.l3vni ∧ c.rd = rtRD r.rd (announcedRT r) ∧ c.rt = announcedRT r := by
  rw [l3ContextFor, guard_ok] at context
  obtain ⟨_, context⟩ := context
  obtain ⟨vrfName, _, context⟩ := bind_ok _ _ _ context
  obtain ⟨l3vlan, _, context⟩ := bind_ok _ _ _ context
  cases context
  exact ⟨rfl, rfl, rfl⟩

theorem renders_mark (net : Network) (att : NetworkAttachment) (rendering : Rendering) (renders : RendersAs net att rendering) :
    (att.vrf ≠ "" ∧ ∃ r, routerNamed net att.vrf = some r ∧ r.l3vni ≠ 0 ∧ rendering.mark = (0, r.l3vni)) ∨
    (Bridged att ∧ ∃ kind, kind ≠ 0 ∧ rendering.mark = (kind, att.vlan)) := by
  have domain (bd : BridgeDomain) (on : domainOn net att.vlan = some bd) : bd.vlan = att.vlan :=
    of_decide_eq_true (held_last_listed _ _ bd on).2
  cases renders with
  | routed r _ asked named reading =>
      cases reading with
      | read c afis needles context families type5 =>
          refine Or.inl ⟨asked, r, named, (l3_context r c context).1, ?_⟩
          rw [Rendering.mark, (context_fields r c context).1]
  | bridged bd _ unrouted asked on plain reading =>
      cases reading with
      | read numbered => exact Or.inr ⟨⟨unrouted, asked⟩, 1, by decide, by rw [Rendering.mark, domain bd on]⟩
  | gateway bd irb r _ unrouted asked on shared named reading =>
      cases reading with
      | read c afis needles => exact Or.inr ⟨⟨unrouted, asked⟩, 2, by decide, by rw [Rendering.mark, domain bd on]⟩
  | isolated v unrouted asked unshared on =>
      have vlan : v.vlan = att.vlan := of_decide_eq_true (held_last_listed _ _ v on).2
      exact Or.inr ⟨⟨unrouted, asked⟩, 3, by decide, by rw [Rendering.mark, vlan]⟩

-- Equal marks are marks of one service, since no two routers share an L3VNI.
theorem mark_service (net : Network) (passes : PassesChecks net) (att beside : NetworkAttachment) (one two : Rendering)
    (renders : RendersAs net att one) (renders' : RendersAs net beside two) (marks : one.mark = two.mark) :
    servedBy att = servedBy beside := by
  rw [servedBy, servedBy]
  cases renders_mark net att one renders with
  | inl routed =>
      obtain ⟨asked, r, named, some_, mark⟩ := routed
      cases renders_mark net beside two renders' with
      | inl also =>
          obtain ⟨asked', found, held, some', mark'⟩ := also
          have l3vni : r.l3vni = found.l3vni := by
            rw [mark, mark'] at marks
            exact (Prod.mk.inj marks).2
          have vrf : att.vrf = beside.vrf := by
            by_contra differ
            exact passes.apart att.vrf beside.vrf differ r named found held some_ some' (by rw [l3vni])
          rw [if_pos asked, if_pos asked', vrf]
      | inr bridged =>
          obtain ⟨_, kind, nonzero, mark'⟩ := bridged
          rw [mark, mark'] at marks
          exact absurd (Prod.mk.inj marks).1.symm nonzero
  | inr bridged =>
      obtain ⟨on, kind, nonzero, mark⟩ := bridged
      cases renders_mark net beside two renders' with
      | inl routed =>
          obtain ⟨_, _, _, _, mark'⟩ := routed
          rw [mark, mark'] at marks
          exact absurd (Prod.mk.inj marks).1 nonzero
      | inr also =>
          obtain ⟨on', kind', _, mark'⟩ := also
          rw [mark, mark'] at marks
          rw [if_neg (by simpa using on.1), if_neg (by simpa using on'.1), (Prod.mk.inj marks).2]

end Fields

section Nodes
variable (one two : Network) (opts : Options) (n : String)

-- One plan has one list of ops and one list of checks for a node.
theorem node_parts_same (same : SamePlan (fillPlan [] (planEntries one opts)) (fillPlan [] (planEntries two opts)))
    (here : onNode one n ≠ []) (there : onNode two n ≠ []) :
    (nodeParts one opts n).flatMap Part.ops = (nodeParts two opts n).flatMap Part.ops ∧
    (nodeParts one opts n).flatMap Part.checks = (nodeParts two opts n).flatMap Part.checks := by
  have got := same n
  rw [plan_get, plan_get, if_neg here, if_neg there, Option.some.injEq, add_parts, add_parts, NodePlan.mk.injEq] at got
  obtain ⟨_, ops, checks, _⟩ := got
  exact ⟨List.append_cancel_left ops, List.append_cancel_left checks⟩

theorem services_needed (net : Network) (free : OrderFree net opts) (accepts : Accepts net opts) :
    ∀ att ∈ net.attachments, ∀ other ∈ net.attachments, att.node = other.node → att.attachment = other.attachment →
      Served att → Served other → servedBy att = servedBy other := by
  intro att listed beside also node name served served'
  by_cases itself : att = beside
  · rw [itself]
  · have inside : beside ∈ net.attachments.erase att := (List.mem_erase_of_ne (Ne.symm itself)).mpr also
    have perm : net.attachments.Perm (att :: beside :: (net.attachments.erase att).erase beside) :=
      (List.perm_cons_erase listed).trans ((List.perm_cons_erase inside).cons att)
    generalize (net.attachments.erase att).erase beside = rest at perm
    have order (atts : List NetworkAttachment) (reordered : net.attachments.Perm atts) : Reordered net { net with attachments := atts } :=
      ⟨reordered, List.Perm.refl _, List.Perm.refl _, List.Perm.refl _, rfl⟩
    have one := (order_free_accepts net opts free _ (order _ perm)).2
    have two := (order_free_accepts net opts free _ (order _ (perm.trans (List.Perm.swap beside att rest)))).2
    have up : attachmentBefore att beside := Or.inr ⟨node, le_of_eq name⟩
    have down : attachmentBefore beside att := Or.inr ⟨node.symm, le_of_eq name.symm⟩
    obtain ⟨front, back, sorted, swapped⟩ := sorted_swap attachmentBefore att beside rest up down
    -- The two stand side by side on their node, in either order.
    have first : onNode { net with attachments := att :: beside :: rest } att.node =
        front.filter (fun other => other.node = att.node) ++ att :: beside :: back.filter fun other => other.node = att.node := by
      rw [onNode, sortedAttachments, sorted]
      simp [node]
    have second : onNode { net with attachments := beside :: att :: rest } att.node =
        front.filter (fun other => other.node = att.node) ++ beside :: att :: back.filter fun other => other.node = att.node := by
      rw [onNode, sortedAttachments, swapped]
      simp [node]
    have parts (atts : List NetworkAttachment) : attachmentPart { net with attachments := atts } opts = attachmentPart net opts := rfl
    obtain ⟨ops, _⟩ := node_parts_same { net with attachments := att :: beside :: rest } { net with attachments := beside :: att :: rest } opts
      att.node (fun n => (one n).symm.trans (two n)) 
      (by rw [first]; exact List.append_ne_nil_of_right_ne_nil _ (List.cons_ne_nil _ _))
      (by rw [second]; exact List.append_ne_nil_of_right_ne_nil _ (List.cons_ne_nil _ _))
    rw [nodeParts, nodeParts, first, second] at ops
    simp only [List.map_append, List.map_cons, List.flatMap_append, List.flatMap_cons, List.append_assoc, parts,
      List.append_cancel_left_eq] at ops
    have commute := swapped_words _ _ _ _ ops
    obtain ⟨part, made_⟩ := is_ok_value _ (accepts.rendered att listed)
    obtain ⟨part', made'⟩ := is_ok_value _ (accepts.rendered beside also)
    obtain ⟨rendering, port, renders, _, whole⟩ := (render_attachment_iff net opts att served part).mp made_
    obtain ⟨rendering', port', renders', _, whole'⟩ := (render_attachment_iff net opts beside served' part').mp made'
    rw [attachmentPart, attachmentPart, made_ok _ part made_, made_ok _ part' made', whole, whole'] at commute
    exact mark_service net ((check_network_iff net).mp accepts.checked) att beside rendering rendering' renders renders'
      (commuting_mark opts rendering rendering' port port' commute)

end Nodes

end AgenticNetops.Fabricplan
