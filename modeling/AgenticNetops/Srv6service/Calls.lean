import AgenticNetops.Fabricplan.Rendered
import AgenticNetops.Srv6service.Apply

set_option autoImplicit false

/- Which calls the stages of apply.go and update.go make, and what a list of calls
   does to one node. Each stage calls the nodes of its order up to the first one
   that stops it, and every node at most once. -/
namespace AgenticNetops.Srv6service

open GoText Api Fabricplan KeyedRows

-- The nodes that a stage gets to: up to and with the first that stops it.
def reached (stops : String → Bool) : List String → List String
  | [] => []
  | node :: rest => if stops node then [node] else node :: reached stops rest

theorem reached_mem (stops : String → Bool) (order : List String) (node : String) (called : node ∈ reached stops order) :
    node ∈ order := by
  induction order with
  | nil => simp [reached] at called
  | cons head rest ih =>
      rw [reached] at called
      split at called
      · rw [List.mem_singleton.mp called]
        exact List.mem_cons_self
      · rcases List.mem_cons.mp called with here | later
        · rw [here]
          exact List.mem_cons_self
        · exact List.mem_cons_of_mem head (ih later)

theorem reached_all (stops : String → Bool) (order : List String) (through : ∀ node ∈ order, ¬ stops node) :
    reached stops order = order := by
  induction order with
  | nil => rfl
  | cons head rest ih =>
      rw [reached, if_neg (through head List.mem_cons_self), ih fun node member => through node (List.mem_cons_of_mem head member)]

theorem reached_nodup (stops : String → Bool) (order : List String) (distinct : order.Nodup) :
    (reached stops order).Nodup := by
  induction order with
  | nil => simp [reached]
  | cons head rest ih =>
      obtain ⟨fresh, distinct⟩ := List.nodup_cons.mp distinct
      rw [reached]
      split
      · simp
      · exact List.nodup_cons.mpr ⟨fun later => fresh (reached_mem stops rest head later), ih distinct⟩

def applyStops (answers : ApplyAnswers) (site : CallSite) (node : String) : Bool := answers site node ≠ .ok

-- Only an error stops the removal; an OK=false result does not.
def removalStops (answers : ApplyAnswers) (node : String) : Bool :=
  match answers .removal node with
  | .transport _ _ | .permanent _ => true
  | _ => false

section Stages
variable (answers : ApplyAnswers) (site : CallSite) (plan : SRv6Plan)

theorem apply_plan_calls (order : List String) :
    (applyPlan answers site plan order).1 = (reached (applyStops answers site) order).map (callNode answers site plan) := by
  induction order with
  | nil => rfl
  | cons node rest ih =>
      have answered : (callNode answers site plan node).answer = answers site node := rfl
      rw [applyPlan, reached, applyStops]
      simp only [answered]
      cases answers site node with
      | ok => simp [ih]
      | rejected ran error => simp
      | transport ran error => simp
      | permanent error => simp

theorem apply_plan_failed_iff (order : List String) :
    (applyPlan answers site plan order).2 ≠ none ↔ ∃ node ∈ order, applyStops answers site node := by
  induction order with
  | nil => simp [applyPlan]
  | cons node rest ih =>
      have answered : (callNode answers site plan node).answer = answers site node := rfl
      rw [applyPlan, List.exists_mem_cons_iff, ← ih]
      simp only [answered, applyStops]
      cases answers site node with
      | ok => simp
      | rejected ran error => simp
      | transport ran error => simp
      | permanent error => simp

theorem remove_nodes_calls (order : List String) :
    (removeNodes answers plan order).1 = (reached (removalStops answers) order).map (callNode answers .removal plan) := by
  induction order with
  | nil => rfl
  | cons node rest ih =>
      have answered : (callNode answers .removal plan node).answer = answers .removal node := rfl
      rw [removeNodes, reached, removalStops]
      simp only [answered]
      cases answers .removal node with
      | ok => simp [ih]
      | rejected ran error => simp [ih]
      | transport ran error => simp
      | permanent error => simp

theorem remove_nodes_failed_iff (order : List String) :
    (removeNodes answers plan order).2 ≠ none ↔ ∃ node ∈ order, removalStops answers node := by
  induction order with
  | nil => simp [removeNodes]
  | cons node rest ih =>
      have answered : (callNode answers .removal plan node).answer = answers .removal node := rfl
      rw [removeNodes, List.exists_mem_cons_iff, ← ih]
      simp only [answered, removalStops]
      cases answers .removal node with
      | ok => simp
      | rejected ran error => simp
      | transport ran error => simp
      | permanent error => simp

end Stages

theorem sort_strings_mem (names : List String) (name : String) : name ∈ sortStrings names ↔ name ∈ names :=
  (List.perm_insertionSort _ names).mem_iff

theorem sort_strings_nodup (names : List String) : (sortStrings names).Nodup ↔ names.Nodup :=
  (List.perm_insertionSort _ names).nodup_iff

theorem plan_order_mem (plan : SRv6Plan) (node : String) : node ∈ planOrder plan ↔ node ∈ plan.keys :=
  sort_strings_mem plan.keys node

theorem plan_node_of_mem (plan : SRv6Plan) (node : String) (member : node ∈ plan.keys) :
    plan.get? node = some (planNode plan node) := by
  obtain ⟨np, entry⟩ := (keys_mem_iff plan node).mp member
  rw [planNode, entry]
  rfl

theorem plan_node_of_not_mem (plan : SRv6Plan) (node : String) (absent : node ∉ plan.keys) :
    planNode plan node = { node } := by
  have missing : plan.get? node = none := by
    by_contra present
    obtain ⟨np, entry⟩ := Option.ne_none_iff_exists'.mp present
    exact absent ((keys_mem_iff plan node).mpr ⟨np, entry⟩)
  rw [planNode, missing]
  rfl

theorem plan_order_nodup (plan : SRv6Plan) : (planOrder plan).Nodup :=
  (sort_strings_nodup plan.keys).mpr (keys_nodup plan)

section Members
variable (answers : ApplyAnswers) (site : CallSite) (plan : SRv6Plan) (call : Call)

theorem apply_plan_mem (called : call ∈ (applyPlan answers site plan (planOrder plan)).1) :
    ∃ node ∈ plan.keys, call = callNode answers site plan node := by
  rw [apply_plan_calls, List.mem_map] at called
  obtain ⟨node, reachedNode, rfl⟩ := called
  exact ⟨node, (plan_order_mem plan node).mp (reached_mem _ _ node reachedNode), rfl⟩

theorem rollback_plan_mem (called : call ∈ rollbackPlan answers site plan (planOrder plan)) :
    ∃ node ∈ plan.keys, call = callNode answers site plan node := by
  obtain ⟨node, listed, rfl⟩ := List.mem_map.mp (List.mem_of_mem_filter called)
  exact ⟨node, (plan_order_mem plan node).mp ((sort_strings_mem _ node).mp listed), rfl⟩

theorem diff_nodes_mem (prev next : SRv6Plan) (node : String) (differs : node ∈ diffNodes prev next) : node ∈ prev.keys :=
  (plan_order_mem prev node).mp (List.mem_of_mem_filter differs)

theorem remove_nodes_mem (next : SRv6Plan) (called : call ∈ (removeNodes answers plan (diffNodes plan next)).1) :
    ∃ node ∈ plan.keys, call = callNode answers .removal plan node := by
  rw [remove_nodes_calls, List.mem_map] at called
  obtain ⟨node, reachedNode, rfl⟩ := called
  exact ⟨node, diff_nodes_mem plan next node (reached_mem _ _ node reachedNode), rfl⟩

end Members

theorem plan_rollback_nonempty (spec : SRv6ServiceSpec) (alloc : Allocation) (facts : SiteFacts) (plan : SRv6Plan)
    (rendered : buildPlan spec alloc facts = .ok plan) (node : String) (listed : node ∈ plan.keys) :
    (planNode plan node).rollback ≠ [] := by
  obtain ⟨parts⟩ := rendered_node _ _ _ plan node _ rendered (plan_node_of_mem plan node listed)
  rw [parts.rollback]
  simp [renderRollback]

-- Every node of a rendered plan is called by its rollback.
theorem rollback_call_mem (answers : ApplyAnswers) (site : CallSite) (spec : SRv6ServiceSpec) (alloc : Allocation)
    (facts : SiteFacts) (plan : SRv6Plan) (rendered : buildPlan spec alloc facts = .ok plan) (node : String)
    (listed : node ∈ plan.keys) : callNode answers site plan node ∈ rollbackPlan answers site plan (planOrder plan) := by
  have inOrder : node ∈ sortStrings (planOrder plan) := (sort_strings_mem _ node).mpr ((plan_order_mem plan node).mpr listed)
  have nonempty := plan_rollback_nonempty spec alloc facts plan rendered node listed
  exact List.mem_filter.mpr ⟨List.mem_map_of_mem inOrder, decide_eq_true nonempty⟩

section Effect
variable (vrfTable : String → String)

theorem acts_on_append (first second : List Call) (node : String) :
    actsOn vrfTable (first ++ second) node = actsOn vrfTable first node ++ actsOn vrfTable second node := by
  simp [actsOn]

-- Calls to distinct nodes: a node gets the acts of its own call.
theorem acts_on_map (answers : ApplyAnswers) (site : CallSite) (plan : SRv6Plan) (nodes : List String)
    (distinct : nodes.Nodup) (node : String) :
    actsOn vrfTable (nodes.map (callNode answers site plan)) node =
      if node ∈ nodes then (callNode answers site plan node).acts vrfTable else [] := by
  induction nodes with
  | nil => rfl
  | cons head rest ih =>
      obtain ⟨fresh, distinct⟩ := List.nodup_cons.mp distinct
      have front : actsOn vrfTable ((head :: rest).map (callNode answers site plan)) node =
          actsOn vrfTable [callNode answers site plan head] node ++
            actsOn vrfTable (rest.map (callNode answers site plan)) node :=
        acts_on_append vrfTable [callNode answers site plan head] _ node
      rw [front, ih distinct]
      by_cases here : node = head
      · subst here
        simp [actsOn, callNode, fresh]
      · have other : ¬ head = node := fun same => here same.symm
        simp [actsOn, callNode, here, other]

theorem call_acts_ok (call : Call) (answered : call.answer = .ok) :
    call.acts vrfTable = opsActs vrfTable call.sends := by
  rw [Call.acts, Call.unitsRun, answered]
  simp [opsActs]

-- What a call runs is a part of what it sends.
theorem call_acts_subset (call : Call) (act : DeviceAct) (member : act ∈ call.acts vrfTable) :
    act ∈ opsActs vrfTable call.sends := by
  obtain ⟨unit, taken, inUnit⟩ := List.mem_flatten.mp member
  exact List.mem_flatten.mpr ⟨unit, List.mem_of_mem_take taken, inUnit⟩

section Whole
variable (answers : ApplyAnswers) (site : CallSite) (plan : SRv6Plan)
  (accepted : ∀ node ∈ planOrder plan, answers site node = .ok)
include accepted

-- A stage whose every call is answered OK runs every node's list.
theorem apply_plan_acts (applies : site.isRollback = false) (node : String) :
    actsOn vrfTable (applyPlan answers site plan (planOrder plan)).1 node = opsActs vrfTable (planNode plan node).ops := by
  have through : ∀ name ∈ planOrder plan, ¬ applyStops answers site name := fun name member => by
    simp [applyStops, accepted name member]
  rw [apply_plan_calls, reached_all _ _ through, acts_on_map vrfTable answers site plan _ (plan_order_nodup plan) node]
  by_cases member : node ∈ planOrder plan
  · rw [if_pos member, call_acts_ok vrfTable _ (accepted node member)]
    simp [Call.sends, callNode, applies]
  · rw [if_neg member, plan_node_of_not_mem plan node fun listed => member ((plan_order_mem plan node).mpr listed)]
    rfl

theorem rollback_plan_acts (undoes : site.isRollback = true) (node : String) :
    actsOn vrfTable (rollbackPlan answers site plan (planOrder plan)) node =
      opsActs vrfTable (planNode plan node).rollback := by
  have listed : rollbackPlan answers site plan (planOrder plan) =
      ((sortStrings (planOrder plan)).filter fun name => (planNode plan name).rollback ≠ []).map
        (callNode answers site plan) := by
    rw [rollbackPlan, List.filter_map]
    rfl
  have distinct := ((sort_strings_nodup _).mpr (plan_order_nodup plan)).filter
    fun name => decide ((planNode plan name).rollback ≠ [])
  rw [listed, acts_on_map vrfTable answers site plan _ distinct node]
  by_cases member : node ∈ planOrder plan
  · by_cases empty : (planNode plan node).rollback = []
    · simp [empty, opsActs, opsUnits]
    · have called : node ∈ (sortStrings (planOrder plan)).filter fun name => (planNode plan name).rollback ≠ [] := by
        simp [sort_strings_mem, member, empty]
      rw [if_pos called, call_acts_ok vrfTable _ (accepted node member)]
      simp [Call.sends, callNode, undoes]
  · have absent := plan_node_of_not_mem plan node fun listed => member ((plan_order_mem plan node).mpr listed)
    simp [absent, opsActs, opsUnits]

end Whole

end Effect

end AgenticNetops.Srv6service
