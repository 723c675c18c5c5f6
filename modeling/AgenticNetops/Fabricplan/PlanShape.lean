import AgenticNetops.Lib.KeyedAppend
import AgenticNetops.Lib.Fallible
import AgenticNetops.Fabricplan.Network

set_option autoImplicit false

/- A Network plan node by node: the parts of the node's attachments in their sorted order,
   then the parts of the access lists. -/
namespace AgenticNetops.Fabricplan

open GoText Kubenet Fallible KeyedAppend

def freshNode (name : String) : NetworkNodePlan := { node := name }

abbrev fillPlan (plan : NetworkPlan) (entries : List (String × Part)) : NetworkPlan := fill freshNode NodePlan.add plan entries

theorem add_parts (np : NetworkNodePlan) (parts : List Part) :
    parts.foldl NodePlan.add np =
      { np with ops := np.ops ++ parts.flatMap Part.ops
                checks := np.checks ++ parts.flatMap Part.checks
                rollback := np.rollback ++ parts.flatMap Part.rollback } := by
  induction parts generalizing np with
  | nil => simp
  | cons part rest ih =>
      rw [List.foldl_cons, ih]
      simp [NodePlan.add]

instance : Inhabited Part := ⟨{}⟩

section Runs
variable (net : Network) (opts : Options)

def attachmentPart (att : NetworkAttachment) : Part := made (renderAttachment net opts att)

def attachmentEntries (atts : List NetworkAttachment) : List (String × Part) :=
  atts.map fun att => (att.node, attachmentPart net opts att)

theorem render_attachments_iff (plan out : NetworkPlan) (atts : List NetworkAttachment) :
    renderAttachments net opts plan atts = .ok out ↔
      (∀ att ∈ atts, (renderAttachment net opts att).isOk = true) ∧ out = fillPlan plan (attachmentEntries net opts atts) :=
  run_iff freshNode NodePlan.add (renderAttachment net opts) NetworkAttachment.node (renderAttachments net opts)
    (fun _ => rfl) (fun _ _ _ => rfl) plan out atts

variable (bound : List (String × String))

def aclResult (al : AccessList) (node : String) : Except Error Part := renderACL al (portsOn bound node) net.name net.inNamespace opts

def aclEntries (nodes : List String) (als : List AccessList) : List (String × Part) :=
  als.flatMap fun al => nodes.map fun node => (node, made (aclResult net opts bound al node))

theorem render_acl_on_iff (al : AccessList) (plan out : NetworkPlan) (nodes : List String) :
    renderACLOn net opts bound al plan nodes = .ok out ↔
      (∀ node ∈ nodes, (aclResult net opts bound al node).isOk = true) ∧
      out = fillPlan plan (nodes.map fun node => (node, made (aclResult net opts bound al node))) :=
  run_iff freshNode NodePlan.add (aclResult net opts bound al) id (renderACLOn net opts bound al)
    (fun _ => rfl) (fun _ _ _ => rfl) plan out nodes

theorem render_acls_iff (plan out : NetworkPlan) (als : List AccessList) :
    renderACLs net opts bound plan als = .ok out ↔
      (∀ al ∈ als, ∀ node ∈ (bound.map Prod.fst).dedup, (aclResult net opts bound al node).isOk = true) ∧
      out = fillPlan plan (aclEntries net opts bound (bound.map Prod.fst).dedup als) := by
  induction als generalizing plan with
  | nil =>
      rw [renderACLs, Except.ok.injEq]
      exact ⟨fun same => ⟨by simp, same.symm⟩, fun parts => parts.2.symm⟩
  | cons al rest ih =>
      have next (plan : NetworkPlan) : fillPlan plan (aclEntries net opts bound (bound.map Prod.fst).dedup (al :: rest)) =
          fillPlan (fillPlan plan ((bound.map Prod.fst).dedup.map fun node => (node, made (aclResult net opts bound al node))))
            (aclEntries net opts bound (bound.map Prod.fst).dedup rest) := by
        rw [aclEntries, List.flatMap_cons, fillPlan, fill_append]
        rfl
      rw [renderACLs, next]
      constructor
      · intro done
        obtain ⟨filled, on, done⟩ := bind_ok _ _ _ done
        obtain ⟨oks, same⟩ := (render_acl_on_iff net opts bound al plan filled _).mp on
        obtain ⟨later, whole⟩ := (ih filled).mp done
        refine ⟨?_, by rw [whole, same]⟩
        intro other listed
        cases List.mem_cons.mp listed with
        | inl here => rw [here]; exact oks
        | inr behind => exact later other behind
      · intro parts
        have on := (render_acl_on_iff net opts bound al plan _ _).mpr ⟨parts.1 al List.mem_cons_self, rfl⟩
        rw [on]
        exact (ih _).mpr ⟨fun other listed => parts.1 other (List.mem_cons_of_mem _ listed), parts.2⟩

end Runs

section Whole
variable (net : Network) (opts : Options)

-- The node and port of every attachment, in sorted order.
def portsInOrder : List (String × String) :=
  (sortedAttachments net).map fun att => (att.node, made (opts.attachedPort att))

def boundPort (att : NetworkAttachment) : Except Error (String × String) := do
  let port ← opts.attachedPort att
  return (att.node, port)

theorem bound_port (att : NetworkAttachment) :
    (boundPort opts att).isOk = (opts.attachedPort att).isOk ∧
    ((opts.attachedPort att).isOk = true → made (boundPort opts att) = (att.node, made (opts.attachedPort att))) := by
  rw [boundPort]
  cases opts.attachedPort att with
  | error message => exact ⟨rfl, fun ok => by cases ok⟩
  | ok port => exact ⟨rfl, fun _ => rfl⟩

theorem bound_ports_iff (atts : List NetworkAttachment) (bound : List (String × String)) :
    boundPorts opts atts = .ok bound ↔
      (∀ att ∈ atts, (opts.attachedPort att).isOk = true) ∧ bound = atts.map fun att => (att.node, made (opts.attachedPort att)) := by
  have whole := map_iff (boundPort opts) atts bound
  have oks : (∀ att ∈ atts, (boundPort opts att).isOk = true) ↔ ∀ att ∈ atts, (opts.attachedPort att).isOk = true := by
    simp only [(bound_port opts _).1]
  rw [oks] at whole
  refine Iff.trans whole (and_congr_right fun resolved => ?_)
  have entries : (atts.map fun att => made (boundPort opts att)) = atts.map fun att => (att.node, made (opts.attachedPort att)) :=
    List.map_congr_left fun att member => (bound_port opts att).2 (resolved att member)
  rw [entries]

def planEntries : List (String × Part) :=
  attachmentEntries net opts (sortedAttachments net) ++
    aclEntries net opts (portsInOrder net opts) ((portsInOrder net opts).map Prod.fst).dedup net.accessLists

structure Accepts : Prop where
  checked : checkNetwork net = .ok ()
  present : net.attachments ≠ []
  rendered : ∀ att ∈ net.attachments, (renderAttachment net opts att).isOk = true
  resolved : net.accessLists ≠ [] → ∀ att ∈ net.attachments, (opts.attachedPort att).isOk = true
  filtered : ∀ al ∈ net.accessLists, ∀ att ∈ net.attachments, (aclResult net opts (portsInOrder net opts) al att.node).isOk = true

theorem mem_sorted (att : NetworkAttachment) : att ∈ sortedAttachments net ↔ att ∈ net.attachments := by
  rw [sortedAttachments, List.mem_insertionSort]

theorem entries_nil_iff : planEntries net opts = [] ↔ net.attachments = [] := by
  have sorted : sortedAttachments net = [] ↔ net.attachments = [] := by
    simp only [List.eq_nil_iff_forall_not_mem, mem_sorted]
  rw [planEntries, List.append_eq_nil_iff, attachmentEntries, List.map_eq_nil_iff, sorted]
  constructor
  · intro parts
    exact parts.1
  · intro none
    refine ⟨none, ?_⟩
    rw [portsInOrder, sorted.mpr none, aclEntries]
    simp

theorem ports_in_order_node (node : String) :
    node ∈ ((portsInOrder net opts).map Prod.fst).dedup ↔ ∃ att ∈ net.attachments, att.node = node := by
  rw [List.mem_dedup, portsInOrder, List.map_map, List.mem_map]
  simp only [mem_sorted, Function.comp]

theorem acl_steps_iff :
    (∀ al ∈ net.accessLists, ∀ node ∈ ((portsInOrder net opts).map Prod.fst).dedup,
        (aclResult net opts (portsInOrder net opts) al node).isOk = true) ↔
      ∀ al ∈ net.accessLists, ∀ att ∈ net.attachments, (aclResult net opts (portsInOrder net opts) al att.node).isOk = true := by
  constructor
  · intro steps al listed att member
    exact steps al listed att.node ((ports_in_order_node net opts att.node).mpr ⟨att, member, rfl⟩)
  · intro steps al listed node member
    obtain ⟨att, known, rfl⟩ := (ports_in_order_node net opts node).mp member
    exact steps al listed att known

-- A network is rendered exactly when every step of the loops succeeds, into the map of all parts.
theorem render_network_iff (plan : NetworkPlan) :
    renderNetwork net opts = .ok plan ↔ Accepts net opts ∧ plan = fillPlan [] (planEntries net opts) := by
  have split (m : NetworkPlan) (front back : List (String × Part)) : fillPlan m (front ++ back) = fillPlan (fillPlan m front) back :=
    fill_append freshNode NodePlan.add m front back
  have last (filled : NetworkPlan) :
      (if filled = [] then .error [.lit "network has no usable attachments"] else pure filled) = (Except.ok plan : Except Error NetworkPlan) ↔
        filled ≠ [] ∧ plan = filled := by
    rw [guard_ok]
    exact and_congr_right fun _ => ⟨fun same => (Except.ok.inj same).symm, fun same => congrArg Except.ok same.symm⟩
  have usable : fillPlan [] (planEntries net opts) ≠ [] ↔ net.attachments ≠ [] := by
    rw [Ne, Ne, fillPlan, fill_nil_iff, entries_nil_iff]
  rw [renderNetwork]
  constructor
  · intro done
    obtain ⟨_, passed, done⟩ := bind_ok _ _ _ done
    obtain ⟨attached, run, done⟩ := bind_ok _ _ _ done
    obtain ⟨oks, filled⟩ := (render_attachments_iff net opts [] attached _).mp run
    have rendered : ∀ att ∈ net.attachments, (renderAttachment net opts att).isOk = true := fun att member =>
      oks att ((mem_sorted net att).mpr member)
    split at done
    · rename_i none
      obtain ⟨present, same⟩ := (last attached).mp done
      have whole : attached = fillPlan [] (planEntries net opts) := by
        rw [planEntries, none, filled]
        simp [aclEntries]
      rw [whole] at present same
      exact ⟨⟨passed, usable.mp present, rendered, fun some_ => absurd none some_, by rw [none]; simp⟩, same⟩
    · obtain ⟨bound, ports, done⟩ := bind_ok _ _ _ done
      obtain ⟨listed, acls, done⟩ := bind_ok _ _ _ done
      obtain ⟨resolved, ordered⟩ := (bound_ports_iff opts _ bound).mp ports
      have inOrder : bound = portsInOrder net opts := ordered
      rw [inOrder] at acls
      obtain ⟨filtered, on⟩ := (render_acls_iff net opts _ attached listed _).mp acls
      obtain ⟨present, same⟩ := (last listed).mp done
      have whole : listed = fillPlan [] (planEntries net opts) := by rw [on, filled, planEntries, split]
      rw [whole] at present same
      exact ⟨⟨passed, usable.mp present, rendered, fun _ att member => resolved att ((mem_sorted net att).mpr member),
        (acl_steps_iff net opts).mp filtered⟩, same⟩
  · intro parts
    obtain ⟨accepts, whole⟩ := parts
    have run := (render_attachments_iff net opts [] _ (sortedAttachments net)).mpr
      ⟨fun att member => accepts.rendered att ((mem_sorted net att).mp member), rfl⟩
    have present := usable.mpr accepts.present
    rw [accepts.checked]
    change (renderAttachments net opts [] (sortedAttachments net) >>= _) = _
    rw [run]
    by_cases none : net.accessLists = []
    · have alone : fillPlan [] (planEntries net opts) = fillPlan [] (attachmentEntries net opts (sortedAttachments net)) := by
        rw [planEntries, none]
        simp [aclEntries]
      rw [alone] at present whole
      change (if net.accessLists = [] then _ else _) = _
      rw [if_pos none]
      exact (last _).mpr ⟨present, whole⟩
    · have ports := (bound_ports_iff opts (sortedAttachments net) (portsInOrder net opts)).mpr
        ⟨fun att member => accepts.resolved none att ((mem_sorted net att).mp member), rfl⟩
      have acls := (render_acls_iff net opts (portsInOrder net opts) (fillPlan [] (attachmentEntries net opts (sortedAttachments net))) _ _).mpr
        ⟨(acl_steps_iff net opts).mpr accepts.filtered, rfl⟩
      have joined : fillPlan (fillPlan [] (attachmentEntries net opts (sortedAttachments net)))
          (aclEntries net opts (portsInOrder net opts) ((portsInOrder net opts).map Prod.fst).dedup net.accessLists) =
            fillPlan [] (planEntries net opts) := by rw [planEntries, split]
      change (if net.accessLists = [] then _ else _) = _
      rw [if_neg none]
      rw [ports]
      change (renderACLs net opts (portsInOrder net opts) _ net.accessLists >>= _) = _
      rw [acls, joined]
      exact (last _).mpr ⟨present, whole⟩

end Whole

section Nodes
variable (net : Network) (opts : Options) (n : String)

def onNode : List NetworkAttachment := (sortedAttachments net).filter fun att => att.node = n

def aclParts : List Part := net.accessLists.map fun al => made (aclResult net opts (portsInOrder net opts) al n)

def nodeParts : List Part := (onNode net n).map (attachmentPart net opts) ++ if onNode net n = [] then [] else aclParts net opts n

theorem attachment_parts : partsUnder (attachmentEntries net opts (sortedAttachments net)) n = (onNode net n).map (attachmentPart net opts) := by
  rw [partsUnder, attachmentEntries, List.filter_map, List.map_map]
  rfl

theorem on_node_iff : onNode net n ≠ [] ↔ ∃ att ∈ net.attachments, att.node = n := by
  rw [onNode, Ne, List.filter_eq_nil_iff]
  simp [mem_sorted]

theorem acl_entry_parts : partsUnder (aclEntries net opts (portsInOrder net opts) ((portsInOrder net opts).map Prod.fst).dedup net.accessLists) n =
    if onNode net n = [] then [] else aclParts net opts n := by
  have once : (((portsInOrder net opts).map Prod.fst).dedup).Nodup := List.nodup_dedup _
  have known : n ∈ ((portsInOrder net opts).map Prod.fst).dedup ↔ onNode net n ≠ [] := by
    rw [ports_in_order_node, on_node_iff]
  generalize ((portsInOrder net opts).map Prod.fst).dedup = nodes at once known
  -- Among distinct nodes, at most one entry of a list is this node's.
  have one (part : String → Part) : partsUnder (nodes.map fun node => (node, part node)) n = if n ∈ nodes then [part n] else [] := by
    clear known
    induction nodes with
    | nil => rfl
    | cons node rest ih =>
        obtain ⟨fresh, later⟩ := List.nodup_cons.mp once
        by_cases here : node = n
        · have rest_ : partsUnder (rest.map fun node => (node, part node)) n = [] := by
            rw [ih later, if_neg (by rw [← here]; exact fresh)]
          rw [partsUnder] at rest_ ⊢
          rw [List.map_cons, List.filter_cons_of_pos (by simpa using here), List.map_cons, rest_, here, if_pos List.mem_cons_self]
        · have other : n ∈ node :: rest ↔ n ∈ rest := by
            rw [List.mem_cons, or_iff_right (Ne.symm here)]
          have kept := ih later
          rw [partsUnder] at kept ⊢
          rw [List.map_cons, List.filter_cons_of_neg (by simpa using here), kept]
          simp only [other]
  rw [aclEntries, aclParts]
  induction net.accessLists with
  | nil => simp [partsUnder]
  | cons al rest ih =>
      rw [List.flatMap_cons, parts_under_append, ih, one, List.map_cons]
      by_cases absent : onNode net n = []
      · have unknown : n ∉ nodes := fun member => known.mp member absent
        simp [absent, unknown]
      · have member := known.mpr absent
        simp [absent, member]

theorem plan_get : (fillPlan [] (planEntries net opts)).get? n =
    if onNode net n = [] then none else some ((nodeParts net opts n).foldl NodePlan.add (freshNode n)) := by
  have parts : partsUnder (planEntries net opts) n = nodeParts net opts n := by
    rw [planEntries, parts_under_append, attachment_parts, acl_entry_parts, nodeParts]
  rw [fillPlan, fill_get, parts]
  by_cases absent : onNode net n = []
  · simp [nodeParts, absent, GoMap.get?]
  · have some_ : nodeParts net opts n ≠ [] := by simp [nodeParts, absent]
    simp only [if_neg absent, if_neg some_]
    rfl

end Nodes

end AgenticNetops.Fabricplan
