import AgenticNetops.Srv6service.World

set_option autoImplicit false

/- What a refused update leaves on the nodes. Each of the three refusals of
   applyUpdate has its own condition under which the state of the previous plan
   stands; nothing restores it after a refused removal or a refused verification. -/
namespace AgenticNetops.Srv6service

open GoText Api Fabricplan KeyedRows Exits

abbrev Fleet := String → DeviceRows

section Rows
variable (vrfTable : String → String)

-- The rows of a node behind the calls that a pass has made.
def rowsAfter (fleet : Fleet) (calls : List Executed) (node : String) : DeviceRows :=
  run (actsOn vrfTable (calls.map Executed.call) node) (fleet node)

theorem rows_after_append (fleet : Fleet) (before later : List Executed) (node : String) :
    rowsAfter vrfTable fleet (before ++ later) node =
      run (actsOn vrfTable (later.map Executed.call) node) (rowsAfter vrfTable fleet before node) := by
  rw [rowsAfter, rowsAfter, List.map_append, acts_on_append, run_append]

variable (spec : SRv6ServiceSpec) (alloc : Fabricplan.Allocations) (opts : SRv6Options) (n : String) (np : SRv6NodePlan)

theorem rollback_only_erases (node : RenderedNode spec alloc opts n np) : OnlyErases (opsActs vrfTable np.rollback) := by
  rw [node.rollback, render_rollback_acts]
  cases node.pinned <;> simp [OnlyErases, GcuStep.act]

-- The first command of a rollback takes away a route that the plan wrote.
theorem rollback_first_unit (node : RenderedNode spec alloc opts n np) :
    ∃ act rest key value, opsUnits vrfTable np.rollback = [act] :: rest ∧ act.decides key = some none ∧
      outcome (opsActs vrfTable np.ops) key = some (some value) := by
  rw [node.rollback, node.ops, render_ops_acts]
  cases node.pinned with
  | true =>
      refine ⟨.erase (coversRoute6 node.peer.sidFn), _, .route6 node.peer.sidFn "::" 20, [node.pinLink, srv6Uplink], rfl, ?_, ?_⟩
      · simp [Act.decides, coversRoute6]
      · simp [outcome, Act.decides, GcuStep.act, coversClient]
  | false =>
      refine ⟨.erase fun key => key = .vrfRoute (vrfTable (vrfName alloc.serviceID)) node.peer.client, _,
        .vrfRoute (vrfTable (vrfName alloc.serviceID)) node.peer.client, ["encap", node.peer.sidFn, srv6Uplink], rfl, ?_, ?_⟩
      · simp [Act.decides]
      · simp [outcome, Act.decides, GcuStep.act, coversClient]

/- A removal call on a node that holds its plan leaves the rows only when none of its
   commands ran. -/
theorem removal_call_keeps_iff (node : RenderedNode spec alloc opts n np) (rows : DeviceRows)
    (settled : run (opsActs vrfTable np.ops) rows = rows) (answer : ApplyAnswer) :
    run ((Call.mk .removal n np answer).acts vrfTable) rows = rows ↔ answer.ranNothing := by
  obtain ⟨act, rest, key, value, units, erases, written⟩ := rollback_first_unit vrfTable spec alloc opts n np node
  have present : rows key = some value := by
    have held := congrFun settled key
    rw [run_keeps_iff] at held
    exact held (some value) written
  have only := rollback_only_erases vrfTable spec alloc opts n np node
  have taken : ∀ ran, run ((opsUnits vrfTable np.rollback).take (ran + 1)).flatten rows key = none := by
    intro ran
    have erased : outcome ((opsUnits vrfTable np.rollback).take (ran + 1)).flatten key ≠ none := by
      rw [Ne, outcome_none_iff, units]
      intro undecided
      have first := undecided act (by simp)
      rw [erases] at first
      cases first
    have part : OnlyErases ((opsUnits vrfTable np.rollback).take (ran + 1)).flatten :=
      only_erases_part _ _ only fun other member => by
        obtain ⟨unit, inTake, inUnit⟩ := List.mem_flatten.mp member
        exact List.mem_flatten.mpr ⟨unit, List.mem_of_mem_take inTake, inUnit⟩
    obtain ⟨result, decided⟩ := Option.ne_none_iff_exists'.mp erased
    rw [run_apply, decided, outcome_only_erases _ part key result decided]
    rfl
  have changed : ∀ ran, run ((opsUnits vrfTable np.rollback).take (ran + 1)).flatten rows ≠ rows := by
    intro ran same
    have kept := congrFun same key
    rw [taken ran, present] at kept
    cases kept
  cases answer with
  | ok =>
      have whole : (Call.mk .removal n np .ok).acts vrfTable = ((opsUnits vrfTable np.rollback).take (rest.length + 1)).flatten := by
        rw [Call.acts, Call.unitsRun]
        simp [Call.sends, CallSite.isRollback, units]
      rw [whole]
      exact iff_of_false (changed rest.length) (by simp [ApplyAnswer.ranNothing])
  | rejected ran error =>
      cases ran with
      | zero => simp [Call.acts, Call.unitsRun, ApplyAnswer.ranNothing, run_nil]
      | succ ran => exact iff_of_false (changed ran) (by simp [ApplyAnswer.ranNothing])
  | transport ran error =>
      cases ran with
      | zero => simp [Call.acts, Call.unitsRun, ApplyAnswer.ranNothing, run_nil]
      | succ ran => exact iff_of_false (changed ran) (by simp [ApplyAnswer.ranNothing])
  | permanent error => simp [Call.acts, Call.unitsRun, ApplyAnswer.ranNothing, run_nil]

end Rows

section Drive
variable (vrfTable : String → String) (answers : ApplyAnswers) (prev plan : SRv6Plan)

def RemovalRefused : Prop := ∃ node ∈ diffNodes prev plan, removalStops answers node

def NewPlanRefused : Prop := ∃ node ∈ planOrder plan, applyStops answers .updateApply node

-- The nodes whose removal is sent.
def removalNodes : List String := reached (removalStops answers) (diffNodes prev plan)

def removalActs (node : String) : List DeviceAct :=
  if node ∈ removalNodes answers prev plan then (callNode answers .removal prev node).acts vrfTable else []

-- What ran of the new plan.
def freshActs (node : String) : List DeviceAct :=
  if node ∈ reached (applyStops answers .updateApply) (planOrder plan) then
    (callNode answers .updateApply plan node).acts vrfTable
  else []

theorem removal_calls_acts (node : String) :
    actsOn vrfTable (removeNodes answers prev (diffNodes prev plan)).1 node = removalActs vrfTable answers prev plan node := by
  have distinct : (diffNodes prev plan).Nodup := (plan_order_nodup prev).filter _
  rw [remove_nodes_calls, acts_on_map vrfTable answers .removal prev _ (reached_nodup _ _ distinct) node]
  rfl

theorem fresh_calls_acts (node : String) :
    actsOn vrfTable (applyPlan answers .updateApply plan (planOrder plan)).1 node = freshActs vrfTable answers plan node := by
  rw [apply_plan_calls, acts_on_map vrfTable answers .updateApply plan _ (reached_nodup _ _ (plan_order_nodup plan)) node]
  rfl

theorem drive_update_failed_iff (order : List String) (planned : order = planOrder plan) :
    (driveUpdate answers prev plan order).2 ≠ none ↔ RemovalRefused answers prev plan ∨ NewPlanRefused answers plan := by
  subst planned
  rw [RemovalRefused, NewPlanRefused, ← remove_nodes_failed_iff answers prev,
    ← apply_plan_failed_iff answers .updateApply plan, driveUpdate]
  rcases removeNodes answers prev (diffNodes prev plan) with ⟨removals, _ | ⟨failed, err⟩⟩
  · rcases applyPlan answers .updateApply plan (planOrder plan) with ⟨applied, _ | ⟨failed, err⟩⟩
    · simp
    · simp
  · simp

theorem removal_refused_acts (refused : RemovalRefused answers prev plan) (node : String) :
    actsOn vrfTable (driveUpdate answers prev plan (planOrder plan)).1 node = removalActs vrfTable answers prev plan node := by
  have failed := (remove_nodes_failed_iff answers prev _).mpr refused
  rw [← removal_calls_acts, driveUpdate]
  rcases outcome : removeNodes answers prev (diffNodes prev plan) with ⟨removals, _ | ⟨stopped, err⟩⟩
  · rw [outcome] at failed
    exact absurd rfl failed
  · rfl

theorem new_plan_refused_acts (removed : ¬ RemovalRefused answers prev plan) (refused : NewPlanRefused answers plan)
    (undone : ∀ node ∈ planOrder prev, answers .restoreRollback node = .ok)
    (redone : ∀ node ∈ planOrder prev, answers .restoreApply node = .ok) (node : String) :
    actsOn vrfTable (driveUpdate answers prev plan (planOrder plan)).1 node =
      removalActs vrfTable answers prev plan node ++ freshActs vrfTable answers plan node ++
        opsActs vrfTable (planNode prev node).rollback ++ opsActs vrfTable (planNode prev node).ops := by
  have through := mt (remove_nodes_failed_iff answers prev _).mp removed
  have failed := (apply_plan_failed_iff answers .updateApply plan _).mpr refused
  rw [← removal_calls_acts, ← fresh_calls_acts, ← rollback_plan_acts vrfTable answers .restoreRollback prev undone rfl,
    ← apply_plan_acts vrfTable answers .restoreApply prev redone rfl, ← acts_on_append, ← acts_on_append,
    ← acts_on_append, driveUpdate]
  rcases removal : removeNodes answers prev (diffNodes prev plan) with ⟨removals, _ | ⟨stopped, err⟩⟩
  · rcases outcome : applyPlan answers .updateApply plan (planOrder plan) with ⟨applied, _ | ⟨stopped, err⟩⟩
    · rw [outcome] at failed
      exact absurd rfl failed
    · rfl
  · rw [removal] at through
    exact absurd (Option.some_ne_none _) through

theorem new_plan_applied_acts (removed : ¬ RemovalRefused answers prev plan) (applied : ¬ NewPlanRefused answers plan)
    (node : String) :
    actsOn vrfTable (driveUpdate answers prev plan (planOrder plan)).1 node =
      removalActs vrfTable answers prev plan node ++ freshActs vrfTable answers plan node := by
  have through := mt (remove_nodes_failed_iff answers prev _).mp removed
  have held := mt (apply_plan_failed_iff answers .updateApply plan _).mp applied
  rw [← removal_calls_acts, ← fresh_calls_acts, ← acts_on_append, driveUpdate]
  rcases removal : removeNodes answers prev (diffNodes prev plan) with ⟨removals, _ | ⟨stopped, err⟩⟩
  · rcases outcome : applyPlan answers .updateApply plan (planOrder plan) with ⟨calls, _ | ⟨stopped, err⟩⟩
    · rfl
    · rw [outcome] at held
      exact absurd (Option.some_ne_none _) held
  · rw [removal] at through
    exact absurd (Option.some_ne_none _) through

/- Behind a refused new plan: the previous plan's rows come back; of the others, the
   previous rollback takes absent ones only, and what ran of the new plan keeps those
   that this rollback does not reach. -/
def RestoresRows (rows : Fleet) : Prop :=
  ∀ node key, outcome (opsActs vrfTable (planNode prev node).ops) key = none →
    (outcome (opsActs vrfTable (planNode prev node).rollback) key ≠ none → rows node key = none) ∧
      (outcome (opsActs vrfTable (planNode prev node).rollback) key = none →
        Keeps (freshActs vrfTable answers plan node) (rows node) key)

/- Behind a refused verification: every row the new plan writes is there already, and
   the removal took no row that the new plan does not write. -/
def LeavesRows (rows : Fleet) : Prop :=
  ∀ node key, Keeps (freshActs vrfTable answers plan node) (rows node) key ∧
    (outcome (freshActs vrfTable answers plan node) key = none →
      outcome (removalActs vrfTable answers prev plan node) key ≠ none → rows node key = none)

-- When a refused update leaves the nodes as the previous plan has them.
def UpdateUndone (rows : Fleet) : Prop :=
  (RemovalRefused answers prev plan → ∀ node ∈ removalNodes answers prev plan, (answers .removal node).ranNothing) ∧
  (¬ RemovalRefused answers prev plan → NewPlanRefused answers plan → RestoresRows vrfTable answers prev plan rows) ∧
  (¬ RemovalRefused answers prev plan → ¬ NewPlanRefused answers plan → LeavesRows vrfTable answers prev plan rows)

variable (spec : SRv6ServiceSpec) (alloc : Allocation) (facts : SiteFacts) (rows : Fleet)

theorem removal_acts_inside (node : String) :
    ∀ act ∈ removalActs vrfTable answers prev plan node, act ∈ opsActs vrfTable (planNode prev node).rollback := by
  intro act member
  rw [removalActs] at member
  split at member
  · exact call_acts_subset vrfTable _ act member
  · cases member

theorem plan_rollback_erases (rendered : buildPlan spec alloc facts = .ok prev) (node : String) :
    OnlyErases (opsActs vrfTable (planNode prev node).rollback) := by
  by_cases listed : node ∈ prev.keys
  · obtain ⟨parts⟩ := rendered_node _ _ _ prev node _ rendered (plan_node_of_mem prev node listed)
    exact rollback_only_erases vrfTable _ _ _ node _ parts
  · rw [plan_node_of_not_mem prev node listed]
    exact fun act member => by cases member

theorem removal_refused_keeps_iff (rendered : buildPlan spec alloc facts = .ok prev)
    (settled : ∀ node, run (opsActs vrfTable (planNode prev node).ops) (rows node) = rows node) :
    (∀ node, run (removalActs vrfTable answers prev plan node) (rows node) = rows node) ↔
      ∀ node ∈ removalNodes answers prev plan, (answers .removal node).ranNothing := by
  refine forall_congr' fun node => ?_
  rw [removalActs]
  by_cases called : node ∈ removalNodes answers prev plan
  · have listed := diff_nodes_mem prev plan node (reached_mem _ _ node called)
    obtain ⟨parts⟩ := rendered_node _ _ _ prev node _ rendered (plan_node_of_mem prev node listed)
    have keeps := removal_call_keeps_iff vrfTable _ _ _ node _ parts (rows node) (settled node) (answers .removal node)
    simp only [called, forall_const]
    exact keeps
  · simp [called, run_nil]

-- The rows after the device work of a refused update, against the rows before it.
theorem drive_update_keeps_iff (rendered : buildPlan spec alloc facts = .ok prev)
    (settled : ∀ node, run (opsActs vrfTable (planNode prev node).ops) (rows node) = rows node)
    (undone : ∀ node ∈ planOrder prev, answers .restoreRollback node = .ok)
    (redone : ∀ node ∈ planOrder prev, answers .restoreApply node = .ok) :
    (∀ node, run (actsOn vrfTable (driveUpdate answers prev plan (planOrder plan)).1 node) (rows node) = rows node) ↔
      UpdateUndone vrfTable answers prev plan rows := by
  have only := plan_rollback_erases vrfTable prev spec alloc facts rendered
  have inside := removal_acts_inside vrfTable answers prev plan
  rw [UpdateUndone]
  by_cases removal : RemovalRefused answers prev plan
  · have keeps := removal_refused_keeps_iff vrfTable answers prev plan spec alloc facts rows rendered settled
    simp only [removal_refused_acts vrfTable answers prev plan removal, removal, keeps, true_implies, not_true_eq_false,
      false_implies, and_true]
  · by_cases fresh : NewPlanRefused answers plan
    · simp only [new_plan_refused_acts vrfTable answers prev plan removal fresh undone redone, removal, fresh,
        true_implies, not_true_eq_false, not_false_eq_true, false_implies, implies_true, and_true, true_and, RestoresRows]
      refine forall_congr' fun node => ?_
      rw [funext_iff]
      exact forall_congr' fun key =>
        undo_redo_keeps_iff _ _ _ _ (only node) (inside node) (rows node) key (congrFun (settled node) key)
    · simp only [new_plan_applied_acts vrfTable answers prev plan removal fresh, removal, fresh, true_implies,
        not_false_eq_true, false_implies, true_and, LeavesRows]
      refine forall_congr' fun node => ?_
      rw [funext_iff]
      exact forall_congr' fun key =>
        erase_write_keeps_iff _ _ (only_erases_part _ _ (only node) (inside node)) (rows node) key

end Drive

section Update
variable (site : Site) (answers : Answers) (svc : SRv6Service) (alloc : Allocation) (prev plan : SRv6Plan)
  (hashes : GoMap String)

-- The refusals of an update: of the removal, of the new plan, of the verification.
def UpdateRefused : Prop :=
  RemovalRefused answers.apply prev plan ∨ NewPlanRefused answers.apply plan ∨
    (verifyPlan answers.verify .update plan site.facts.locators (planOrder plan)).2 ≠ none

-- A refused update has made its calls and written nothing.
theorem apply_update_refused (pass : Pass) (applied : SRv6ServiceSpec) (recorded : pass.status.appliedSpec = some applied)
    (prevRendered : buildPlan applied alloc site.facts = .ok prev) (refused : UpdateRefused site answers prev plan) :
    ∃ ref nodes, applyUpdate site answers svc alloc plan (planOrder plan) hashes pass =
      ({ pass with
          calls := pass.calls ++ (driveUpdate answers.apply prev plan (planOrder plan)).1.map fun call =>
            ⟨svc.uid, correlationID svc, alloc.allocations, call⟩,
          status := { pass.status with nodes } }, .ok (some ref)) := by
  have failed := drive_update_failed_iff answers.apply prev plan (planOrder plan) rfl
  have previous : renderAppliedPlan pass.status.appliedSpec alloc site.facts = .ok (some prev) := by
    rw [recorded, renderAppliedPlan, prevRendered]
    rfl
  rw [applyUpdate]
  simp only [bind_run, read_run, previous]
  rcases drive : driveUpdate answers.apply prev plan (planOrder plan) with ⟨calls, _ | ref⟩
  · rcases verify : verifyPlan answers.verify .update plan site.facts.locators (planOrder plan) with ⟨nodes, _ | ref⟩
    · rw [drive] at failed
      rw [UpdateRefused, verify, ← or_assoc, ← failed] at refused
      simp at refused
    · exact ⟨ref, nodes, by simp [logCalls, setNodes]⟩
  · exact ⟨ref, pass.status.nodes, by simp [logCalls]⟩

/- Every node is as before the update, and the record still names the previous spec,
   in the API server and in the copy of the pass. -/
def UpdateAtomic (vrfTable : String → String) (fleet : Fleet) (before after : Pass) : Prop :=
  (∀ node, rowsAfter vrfTable fleet after.calls node = rowsAfter vrfTable fleet before.calls node) ∧
    after.status.appliedSpec = before.status.appliedSpec ∧
    after.stored.status.appliedSpec = before.stored.status.appliedSpec

end Update

/- A refused update of a converged service is atomic exactly in these cases: the
   removal was refused before any of its commands ran; the new plan was refused, and
   it and the previous rollback reached no row outside the previous plan; the
   verification was refused, and the update had changed no row at all. -/
theorem refused_update_atomic_iff (vrfTable : String → String) (fleet : Fleet) (site : Site) (answers : Answers)
    (svc : SRv6Service) (alloc : Allocation) (applied : SRv6ServiceSpec) (prev plan : SRv6Plan) (hashes : GoMap String)
    (pass : Pass) (recorded : pass.status.appliedSpec = some applied)
    (prevRendered : buildPlan applied alloc site.facts = .ok prev)
    (converged : ∀ node, run (opsActs vrfTable (planNode prev node).ops) (rowsAfter vrfTable fleet pass.calls node) =
      rowsAfter vrfTable fleet pass.calls node)
    (undone : ∀ node ∈ planOrder prev, answers.apply .restoreRollback node = .ok)
    (redone : ∀ node ∈ planOrder prev, answers.apply .restoreApply node = .ok)
    (refused : UpdateRefused site answers prev plan) :
    UpdateAtomic vrfTable fleet pass (applyUpdate site answers svc alloc plan (planOrder plan) hashes pass).1 ↔
      UpdateUndone vrfTable answers.apply prev plan (rowsAfter vrfTable fleet pass.calls) := by
  obtain ⟨ref, nodes, result⟩ :=
    apply_update_refused site answers svc alloc prev plan hashes pass applied recorded prevRendered refused
  rw [result, UpdateAtomic, ← drive_update_keeps_iff vrfTable answers.apply prev plan applied alloc site.facts
    (rowsAfter vrfTable fleet pass.calls) prevRendered converged undone redone]
  simp only [rows_after_append, List.map_map, Function.comp_def, List.map_id', and_self, and_true]

/- The lab's red service moved from wan1 to wan2 of both leaves: every apply call is
   accepted, and the verification of leaf01 gets no answer. -/
def labRedMoved : SRv6Plan := labPlan "red" "wan2" 7 "192.168.1.0/24" "192.168.2.0/24"

def labRedService (port : String) : SRv6Service :=
  { labService "red" port with status := { appliedSpec := some (labSpec "red" "wan1") } }

def labConverged : Pass := ⟨labRedService "wan2", (labRedService "wan2").status, {}, [], []⟩

def labFleet : Fleet := fun node => run (opsActs (fun vrf => vrf) (planNode labRed node).ops) fun _ => none

def labUnverified : Answers := { labAnswers 7 "192.168.1.0/24" "192.168.2.0/24" with verify := labSilent }

theorem lab_update_atomic_iff :
    UpdateAtomic (fun vrf => vrf) labFleet labConverged
        (applyUpdate labSite labUnverified (labRedService "wan2") (labAllocation 7 "192.168.1.0/24" "192.168.2.0/24")
          labRedMoved (planOrder labRedMoved) [] labConverged).1 ↔
      UpdateUndone (fun vrf => vrf) labUnverified.apply labRed labRedMoved labFleet :=
  refused_update_atomic_iff (fun vrf => vrf) labFleet labSite labUnverified (labRedService "wan2")
    (labAllocation 7 "192.168.1.0/24" "192.168.2.0/24") (labSpec "red" "wan1") labRed labRedMoved [] labConverged rfl
    (by decide) (fun _ => run_again _ _) (fun _ _ => rfl) (fun _ _ => rfl) (Or.inr (Or.inr (by decide)))

-- leaf01 keeps the interface row of the new port.
theorem lab_update_not_atomic :
    buildPlan (labSpec "red" "wan1") (labAllocation 7 "192.168.1.0/24" "192.168.2.0/24") labFacts = .ok labRed ∧
    buildPlan (labSpec "red" "wan2") (labAllocation 7 "192.168.1.0/24" "192.168.2.0/24") labFacts = .ok labRedMoved ∧
    UpdateRefused labSite labUnverified labRed labRedMoved ∧
    ¬ UpdateAtomic (fun vrf => vrf) labFleet labConverged
        (applyUpdate labSite labUnverified (labRedService "wan2") (labAllocation 7 "192.168.1.0/24" "192.168.2.0/24")
          labRedMoved (planOrder labRedMoved) [] labConverged).1 := by
  refine ⟨by decide, by decide, Or.inr (Or.inr (by decide)), ?_⟩
  rintro ⟨kept, _⟩
  have row := congrFun (kept "leaf01") (.configRow "INTERFACE" "Ethernet16")
  exact absurd row (by decide)

end AgenticNetops.Srv6service
