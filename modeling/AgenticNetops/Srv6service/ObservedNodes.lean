import AgenticNetops.Srv6service.World

set_option autoImplicit false

/- The node list of the status. A pass keeps what its verifications return in its copy;
   every patch takes the copy as its base, so the list is in none of them. -/
namespace AgenticNetops.Srv6service

open GoText Api Kuid Kubenet Fabricplan Runs Exits

-- A list that some verification of a plan of the service returns.
def Verified (site : Site) (answers : Answers) (spec : SRv6ServiceSpec) (nodes : List NodeStatus) : Prop :=
  ∃ stage alloc plan, buildPlan spec alloc site.facts = .ok plan ∧
    nodes = (verifyPlan answers.verify stage plan site.facts.locators (planOrder plan)).1

-- The server has no list, the copy none or one that a verification of this pass has returned.
structure NodesUnsent (site : Site) (answers : Answers) (spec : SRv6ServiceSpec) (pass : Pass) : Prop where
  server : pass.stored.status.nodes = []
  copy : pass.status.nodes = [] ∨ Verified site answers spec pass.status.nodes

section Unsent
variable (site : Site) (lists : ConflictLists) (answers : Answers) (svc : SRv6Service)

abbrev KeepsUnsent {α : Type} (m : PassM α) : Prop := Keeps (NodesUnsent site answers svc.spec) m

-- A patch to a status with the list of the copy sends no list.
theorem patched_unsent (pass : Pass) (next : SRv6ServiceStatus) (here : NodesUnsent site answers svc.spec pass)
    (same : next.nodes = pass.status.nodes) : NodesUnsent site answers svc.spec (pass.patched next) := by
  have merged : (mergeStatus pass.stored.status pass.status next).nodes = [] := by
    have kept : mergeField pass.stored.status.nodes pass.status.nodes next.nodes = pass.stored.status.nodes := by
      rw [mergeField, if_pos same.symm]
    exact kept.trans here.server
  constructor
  · exact merged
  · have copied : (pass.patched next).status.nodes = pass.status.nodes := by
      rw [Pass.patched]
      simp only [merged, if_true, same]
    rw [copied]
    exact here.copy

theorem triple_patch_unsent (place : PatchSite) (next : SRv6ServiceStatus) (pass : Pass)
    (here : NodesUnsent site answers svc.spec pass) (same : next.nodes = pass.status.nodes) :
    Triple (fun s => s = pass) (patchStatus answers place next)
      (fun landed s => NodesUnsent site answers svc.spec s ∧ (landed = false → s = pass))
      (fun _ s => NodesUnsent site answers svc.spec s) := by
  intro current start
  subst start
  unfold patchStatus
  by_cases lands : answers.patch place
  · rw [if_pos lands]
    exact ⟨patched_unsent site answers svc current next here same, fun wrong => by cases wrong⟩
  · rw [if_neg lands]
    exact ⟨here, fun _ => rfl⟩

-- A patch that leaves the list of the copy, then whatever keeps the lists.
theorem patch_then_unsent {α : Type} (place : PatchSite) (next : SRv6ServiceStatus) (rest : Bool → PassM α) (pass : Pass)
    (here : NodesUnsent site answers svc.spec pass) (same : next.nodes = pass.status.nodes)
    (kept : KeepsUnsent site answers svc (rest true))
    (failed : Triple (fun s => s = pass) (rest false) (fun _ s => NodesUnsent site answers svc.spec s)
      (fun _ s => NodesUnsent site answers svc.spec s)) :
    Triple (fun s => s = pass) (patchStatus answers place next >>= rest) (fun _ s => NodesUnsent site answers svc.spec s)
      (fun _ s => NodesUnsent site answers svc.spec s) := by
  apply triple_bind _ _ _ _ _ _ (triple_patch_unsent site answers svc place next pass here same)
  intro landed s reached
  cases landed with
  | true => exact kept s reached.1
  | false => exact failed s (reached.2 rfl)

-- A refusal ends the pass.
theorem refuse_ends_unsent {α : Type} (ref : Refusal) :
    Triple (NodesUnsent site answers svc.spec) (refuse answers svc ref : PassM α) (fun _ _ => False)
      (fun _ s => NodesUnsent site answers svc.spec s) := by
  apply triple_read_bind
  intro pass here
  have patches := triple_patch_unsent site answers svc .refusal (setRefusal answers.now pass.status svc.generation ref) pass here rfl
  apply triple_bind _ _ _ _ _ _ patches
  intro patched s reached
  have ends : ∀ result : ReconcileResult, Triple (NodesUnsent site answers svc.spec) (leave result : PassM α) (fun _ _ => False)
      (fun _ s => NodesUnsent site answers svc.spec s) := fun _ _ kept => kept
  exact triple_ite _ _ _ _ _ _ (fun _ => ends .failed)
    (fun _ => triple_ite _ _ _ _ _ _ (fun _ => ends .settled) fun _ => ends (.requeueAfter failureBackoff)) s reached.1

theorem refuse_unsent {α : Type} (ref : Refusal) : KeepsUnsent site answers svc (refuse answers svc ref : PassM α) :=
  triple_weaken _ _ _ _ _ _ _ (refuse_ends_unsent site answers svc ref) (fun _ here => here)
    (fun _ _ impossible => impossible.elim) fun _ _ here => here

theorem refuse_if_unsent (refusal : Option Refusal) : KeepsUnsent site answers svc (refuseIf answers svc refusal) := by
  cases refusal with
  | none => exact keeps_pure _ ()
  | some ref => exact refuse_unsent site answers svc ref

theorem or_refuse_unsent {α : Type} (value : Except Refusal α) : KeepsUnsent site answers svc (orRefuse answers svc value) := by
  cases value with
  | ok value => exact keeps_pure _ value
  | error ref => exact refuse_unsent site answers svc ref

theorem log_calls_unsent (alloc : Api.Allocations) (calls : List Call) : KeepsUnsent site answers svc (logCalls svc alloc calls) :=
  keeps_change _ _ fun _ here => ⟨here.server, here.copy⟩

variable (alloc : Allocation) (plan : SRv6Plan) (rendered : buildPlan svc.spec alloc site.facts = .ok plan)
include rendered

theorem set_nodes_unsent (stage : VerifyStage) :
    KeepsUnsent site answers svc (setNodes (verifyPlan answers.verify stage plan site.facts.locators (planOrder plan)).1) :=
  keeps_change _ _ fun _ here => ⟨here.server, Or.inr ⟨stage, alloc, plan, rendered, rfl⟩⟩

omit rendered in
-- The update writes its outcome with the list of the copy, and keeps it in the copy where that fails.
theorem update_outcome_unsent (hashes : GoMap String) :
    KeepsUnsent site answers svc (do
      let pass ← read
      let next := setReadyOutcome answers.now pass.status svc.generation hashes svc.spec (correlationID svc)
        pass.status.activePath alloc.allocations
      let patched ← patchStatus answers .updateStatus next
      if patched then pure (none : Option Refusal)
      else do
        change fun pass => { pass with status := next }
        pure (some ⟨.applyFailed, [.lit "update verified but the status write failed"], .apply⟩)) := by
  apply keeps_read_bind
  intro pass here
  apply patch_then_unsent site answers svc .updateStatus _ _ pass here
  · rfl
  · exact keeps_pure _ _
  · intro current same
    subst same
    exact ⟨here.server, here.copy⟩

theorem apply_update_unsent (hashes : GoMap String) :
    KeepsUnsent site answers svc (applyUpdate site answers svc alloc plan (planOrder plan) hashes) := by
  apply keeps_read_bind
  intro pass here
  apply keeps_from _ _ pass _ here
  cases renderAppliedPlan pass.status.appliedSpec alloc site.facts with
  | error message => exact keeps_pure _ _
  | ok previous =>
      cases previous with
      | none => exact keeps_pure _ _
      | some prev =>
          dsimp only
          apply keeps_bind _ _ _ (log_calls_unsent site answers svc alloc.allocations _)
          intro _
          cases (driveUpdate answers.apply prev plan (planOrder plan)).2 with
          | some ref => exact keeps_pure _ _
          | none =>
              apply keeps_bind _ _ _ (set_nodes_unsent site answers svc alloc plan rendered .update)
              intro _
              cases (verifyPlan answers.verify .update plan site.facts.locators (planOrder plan)).2 with
              | some ref => exact keeps_pure _ _
              | none => exact update_outcome_unsent site answers svc alloc hashes

omit rendered in
theorem first_apply_unsent : KeepsUnsent site answers svc (firstApply answers svc alloc plan (planOrder plan)) := by
  rw [firstApply]
  cases applied : applyPlan answers.apply .firstApply plan (planOrder plan) with
  | mk calls failed =>
      cases failed with
      | none => exact log_calls_unsent site answers svc alloc.allocations calls
      | some stop =>
          apply keeps_bind _ _ _ (log_calls_unsent site answers svc alloc.allocations _)
          intro _
          apply keeps_bind
          · exact keeps_change _ _ fun _ here => ⟨here.server, here.copy⟩
          · intro _
            exact refuse_unsent site answers svc _

theorem apply_stage_unsent (hashes : GoMap String) (unchanged : Bool) :
    KeepsUnsent site answers svc (applyStage site answers svc alloc plan (planOrder plan) hashes unchanged) := by
  apply keeps_read_bind
  intro pass here
  apply keeps_from _ _ pass _ here
  apply keeps_ite
  · intro _
    apply keeps_bind _ _ _ (apply_update_unsent site answers svc alloc plan rendered hashes)
    intro refusal
    exact refuse_if_unsent site answers svc refusal
  · intro _
    apply keeps_ite
    · intro _
      exact first_apply_unsent site answers svc alloc plan
    · intro _
      exact keeps_pure _ ()

omit rendered in
theorem record_drift_unsent (ref : Refusal) : KeepsUnsent site answers svc (recordDrift answers svc ref) := by
  apply keeps_read_bind
  intro pass here
  apply patch_then_unsent site answers svc .drift _ _ pass here
  · rfl
  · exact keeps_pure _ ()
  · intro current same
    subst same
    exact ⟨here.server, here.copy⟩

theorem repair_drift_unsent (drift : Refusal) :
    KeepsUnsent site answers svc (repairDrift site answers svc alloc plan (planOrder plan) drift) := by
  apply keeps_bind _ _ _ (record_drift_unsent site answers svc drift)
  intro _
  cases applied : applyPlan answers.apply .driftApply plan (planOrder plan) with
  | mk calls failed =>
      cases failed with
      | none =>
          apply keeps_bind _ _ _ (log_calls_unsent site answers svc alloc.allocations calls)
          intro _
          apply keeps_bind _ _ _ (set_nodes_unsent site answers svc alloc plan rendered .repair)
          intro _
          exact keeps_pure _ _
      | some stop =>
          apply keeps_bind _ _ _ (log_calls_unsent site answers svc alloc.allocations _)
          intro _
          exact refuse_unsent site answers svc _

theorem verify_stage_unsent (unchanged : Bool) :
    KeepsUnsent site answers svc (verifyStage site answers svc alloc plan (planOrder plan) unchanged) := by
  apply keeps_bind _ _ _ (set_nodes_unsent site answers svc alloc plan rendered .main)
  intro _
  dsimp only
  split
  · exact keeps_leave _ _
  · apply keeps_bind _ _ _ (refuse_if_unsent site answers svc _)
    intro _
    split
    · exact keeps_pure _ _
    · apply keeps_ite
      · intro _
        apply keeps_bind _ _ _ (repair_drift_unsent site answers svc alloc plan rendered _)
        intro remaining
        apply keeps_bind _ _ _ (refuse_if_unsent site answers svc remaining)
        intro _
        exact keeps_pure _ _
      · intro _
        exact refuse_unsent site answers svc _

omit rendered in
theorem record_ready_unsent (pass : Pass) (next : SRv6ServiceStatus) (here : NodesUnsent site answers svc.spec pass)
    (same : next.nodes = pass.status.nodes) :
    Triple (fun s => s = pass) (recordReady answers pass.status next) (fun _ s => NodesUnsent site answers svc.spec s)
      (fun _ s => NodesUnsent site answers svc.spec s) := by
  apply triple_ite
  · intro _
    exact keeps_from _ _ pass (keeps_pure _ _) here
  · intro _
    apply patch_then_unsent site answers svc .ready next _ pass here same
    · exact keeps_pure _ _
    · exact keeps_from _ _ pass (keeps_leave _ _) here

omit rendered in
theorem ready_stage_unsent (hashes : GoMap String) (activePath : String) :
    KeepsUnsent site answers svc (readyStage answers svc alloc hashes activePath) := by
  apply keeps_read_bind
  intro pass here
  have recorded : ∀ next : SRv6ServiceStatus, next.nodes = pass.status.nodes →
      Triple (fun s => s = pass) (recordReady answers pass.status next) (fun _ s => NodesUnsent site answers svc.spec s)
        (fun _ s => NodesUnsent site answers svc.spec s) := fun next same =>
    record_ready_unsent site answers svc pass next here same
  dsimp only
  apply triple_ite
  · intro _
    split
    · exact keeps_from _ _ pass (fun s kept => kept) here
    · apply triple_bind _ _ _ _ (fun _ _ => False)
      · intro current same
        subst same
        exact refuse_ends_unsent site answers svc _ current here
      · intro _ s impossible
        exact impossible.elim
    · apply recorded
      split <;> rfl
  · intro _
    apply recorded
    split <;> rfl

-- The stages behind the claims and the plan, and with them every live pass.
theorem drive_stages_unsent : KeepsUnsent site answers svc (driveStages site answers svc alloc plan) := by
  apply keeps_read_bind
  intro pass here
  apply keeps_from _ _ pass _ here
  apply keeps_bind _ _ _ (apply_stage_unsent site answers svc alloc plan rendered _ _)
  intro _
  apply keeps_bind _ _ _ (verify_stage_unsent site answers svc alloc plan rendered _)
  intro activePath
  exact ready_stage_unsent site answers svc alloc _ activePath

end Unsent

section Reconcile
variable (site : Site) (lists : ConflictLists) (answers : Answers) (svc : SRv6Service) (store : Store)

theorem finalizing_unsent (message : Message) : KeepsUnsent site answers svc (finalizing answers svc message : PassM ReconcileResult) := by
  apply keeps_read_bind
  intro pass here
  apply patch_then_unsent site answers svc .finalizing _ _ pass here
  · rfl
  · exact keeps_leave _ _
  · exact keeps_from _ _ pass (keeps_leave _ _) here

theorem finalize_delete_unsent : KeepsUnsent site answers svc (finalizeDelete site answers svc) := by
  apply keeps_bind
  · rw [rollbackForDelete]
    cases finalizePlan site svc with
    | none => exact keeps_pure _ []
    | some found => exact keeps_bind _ _ _ (log_calls_unsent site answers svc _ _) fun _ => keeps_pure _ _
  · intro dirty
    apply keeps_ite
    · intro _
      exact finalizing_unsent site answers svc _
    · intro _
      apply keeps_read_bind
      intro pass here
      apply keeps_from _ _ pass _ here
      dsimp only
      apply keeps_bind
      · exact keeps_change _ _ fun _ kept => ⟨kept.server, kept.copy⟩
      · intro _
        split
        · exact finalizing_unsent site answers svc _
        · apply keeps_ite
          · intro _
            exact keeps_bind _ _ _ (keeps_change _ _ fun _ kept => ⟨kept.server, kept.copy⟩) fun _ => keeps_pure _ _
          · intro _
            exact keeps_leave _ _

variable (unset : svc.status.nodes = [])
include unset

theorem start_unsent (claims : Store) : NodesUnsent site answers svc.spec (claimedPass svc store claims) := ⟨unset, Or.inl unset⟩

theorem quiet_ends_unsent : QuietEnds site lists answers svc store (NodesUnsent site answers svc.spec) where
  refused := by
    intro α claimed ref _ s same
    subst same
    exact refuse_ends_unsent site answers svc ref _ (start_unsent site answers svc store unset claimed)
  stopped := fun claimed _ => start_unsent site answers svc store unset claimed
  added := ⟨unset, Or.inl unset⟩

-- A pass over an object without a list leaves it without one.
theorem reconcile_unsent : NodesUnsent site answers svc.spec (reconcile site lists answers svc (startPass svc store)).1 := by
  have start : NodesUnsent site answers svc.spec (startPass svc store) := ⟨unset, Or.inl unset⟩
  have ended : Triple (fun s => s = startPass svc store) (reconcile site lists answers svc)
      (fun _ s => NodesUnsent site answers svc.spec s) (fun _ s => NodesUnsent site answers svc.spec s) := by
    rw [reconcile]
    apply triple_ite
    · intro _
      apply triple_ite
      · intro _
        exact keeps_from _ _ _ (finalize_delete_unsent site answers svc) start
      · intro _
        exact keeps_from _ _ _ (keeps_pure _ _) start
    · intro _
      apply triple_reconcile_live site lists answers svc store _ (quiet_ends_unsent site lists answers svc store unset)
      intro alloc plan claimed admitted
      exact keeps_from _ _ _ (drive_stages_unsent site answers svc alloc plan admitted.rendered)
        (start_unsent site answers svc store unset claimed)
  have reached := ended (startPass svc store) rfl
  cases outcome : reconcile site lists answers svc (startPass svc store) with
  | mk pass result =>
      rw [outcome] at reached
      cases result with
      | ok value => exact reached
      | error value => exact reached

end Reconcile

-- A plan has two nodes, and a verification says something of the first.
theorem plan_order_nonempty (site : Site) (spec : SRv6ServiceSpec) (alloc : Allocation) (plan : SRv6Plan)
    (rendered : buildPlan spec alloc site.facts = .ok plan) : planOrder plan ≠ [] := by
  obtain ⟨first, second, _, _, planA, planB, _, _, _, _, _, listed⟩ := for_srv6_service_parts _ _ _ plan rendered
  intro empty
  have member : first ∈ planOrder plan := (plan_order_mem plan first).mpr (by simp [listed, GoMap.keys])
  rw [empty] at member
  exact absurd member List.not_mem_nil

theorem verify_plan_nonempty (answers : VerifyAnswers) (stage : VerifyStage) (plan : SRv6Plan) (locators : GoMap String)
    (order : List String) (some_node : order ≠ []) : (verifyPlan answers stage plan locators order).1 ≠ [] := by
  cases order with
  | nil => exact absurd rfl some_node
  | cons node rest =>
      rw [verifyPlan]
      dsimp only
      split <;> exact List.cons_ne_nil _ _

theorem verified_nonempty (site : Site) (answers : Answers) (spec : SRv6ServiceSpec) (nodes : List NodeStatus)
    (verified : Verified site answers spec nodes) : nodes ≠ [] := by
  obtain ⟨stage, alloc, plan, rendered, same⟩ := verified
  rw [same]
  exact verify_plan_nonempty answers.verify stage plan site.facts.locators _ (plan_order_nonempty site spec alloc plan rendered)

-- No object of the world has a list.
def ListsUnset (w : World) : Prop := ∀ svc ∈ w.services, svc.status.nodes = []

theorem put_unset (services : List SRv6Service) (stored : SRv6Service) (unset : ∀ svc ∈ services, svc.status.nodes = [])
    (own : stored.status.nodes = []) : ∀ svc ∈ putObject services stored, svc.status.nodes = [] := by
  intro svc member
  obtain ⟨old, before, kept⟩ := List.mem_filterMap.mp member
  by_cases same : old.uid = stored.uid
  · by_cases gone : isGone stored
    · simp [same, gone] at kept
    · simp only [same, if_true, if_neg gone, Option.some.injEq] at kept
      rw [← kept]
      exact own
  · simp only [same, if_false, Option.some.injEq] at kept
    rw [← kept]
    exact unset old before

theorem step_unset (site : Site) (w w' : World) (action : Action) (unset : ListsUnset w) (step : Step site w action w') :
    ListsUnset w' := by
  rcases step_cases site w w' action step with ⟨svc, _, fresh, same⟩ | ⟨svc, spec, _, found, same⟩ |
    ⟨svc, now, _, found, _, same⟩ | ⟨svc, networks, answers, _, found, _, same⟩
  · intro other member
    rw [same] at member
    cases List.mem_append.mp member with
    | inl old => exact unset other old
    | inr new =>
        rw [List.mem_singleton] at new
        simp only [isNew, Bool.and_eq_true, decide_eq_true_eq] at fresh
        rw [new, fresh.1.1.2]
  · rw [same]
    exact put_unset _ _ unset (unset svc (find_uid w _ svc found).2)
  · rw [same]
    exact put_unset _ _ unset (unset svc (find_uid w _ svc found).2)
  · rw [same]
    exact put_unset _ _ unset (reconcile_unsent site _ answers svc w.store (unset svc (find_uid w _ svc found).2)).server

theorem reached_unset (site : Site) (guard : World → Action → Prop) (actions : List Action) (w : World)
    (reached : Reached site guard actions w) : ListsUnset w :=
  run_invariant (Step site) guard ListsUnset
    (fun before action after unset _ step => step_unset site before after action unset step) {} actions w
    (fun _ none => absurd none List.not_mem_nil) reached

/- In no run does a pass persist what a verification of it has returned: the copy holds
   the last list at the end, if there is one, and the server none. -/
theorem observed_nodes_unpersisted (site : Site) (guard : World → Action → Prop) (actions : List Action) (w : World)
    (reached : Reached site guard actions w) (uid : String) (svc : SRv6Service) (found : w.find uid = some svc)
    (networks : List Network) (answers : Answers) :
    ((w.pass site svc networks answers).status.nodes = [] ∨
        Verified site answers svc.spec (w.pass site svc networks answers).status.nodes) ∧
      ∀ nodes, Verified site answers svc.spec nodes → (w.pass site svc networks answers).stored.status.nodes ≠ nodes := by
  have unset : svc.status.nodes = [] := reached_unset site guard actions w reached svc (find_uid w uid svc found).2
  have unsent := reconcile_unsent site (w.lists svc networks answers) answers svc w.store unset
  constructor
  · exact unsent.copy
  · intro nodes verified same
    exact verified_nonempty site answers svc.spec nodes verified (same.symm.trans unsent.server)

/- The lab's red up to its first Ready: created, the finalizer added, then applied,
   verified and written. -/
def labVerifiedActions : List Action :=
  [.create (labService "red" "wan1"), .reconcile "uid-red" [] (labAnswers 7 "192.168.1.0/24" "192.168.2.0/24")]

def labVerifiedWorld : World := (World.play labSite labVerifiedActions).getD {}

def labVerifiedService : SRv6Service := (labVerifiedWorld.find "uid-red").getD (labService "red" "wan1")

def labVerifiedPass : Pass :=
  labVerifiedWorld.pass labSite labVerifiedService [] (labAnswers 7 "192.168.1.0/24" "192.168.2.0/24")

def labVerifiedNodes : List NodeStatus := [{ node := "leaf01", verified := true }, { node := "leaf02", verified := true }]

theorem lab_observed_nodes_unpersisted :
    labVerifiedWorld.find "uid-red" = some labVerifiedService ∧
      ∀ nodes, Verified labSite (labAnswers 7 "192.168.1.0/24" "192.168.2.0/24") labVerifiedService.spec nodes →
        labVerifiedPass.stored.status.nodes ≠ nodes :=
  have found : labVerifiedWorld.find "uid-red" = some labVerifiedService := by decide +kernel
  ⟨found, (observed_nodes_unpersisted labSite (fun _ _ => True) labVerifiedActions labVerifiedWorld
    (world_played labSite (fun _ _ => True) labVerifiedActions (by decide +kernel)) "uid-red" labVerifiedService found []
    (labAnswers 7 "192.168.1.0/24" "192.168.2.0/24")).2⟩

-- Ready=True is written, both nodes were verified, and the stored list is empty.
theorem lab_nodes_lost :
    labVerifiedPass.written ≠ [] ∧ labVerifiedPass.status.nodes = labVerifiedNodes ∧
      (verifyPlan (labAnswers 7 "192.168.1.0/24" "192.168.2.0/24").verify .main labRed labFacts.locators (planOrder labRed)).1 =
        labVerifiedNodes ∧
      labVerifiedPass.stored.status.nodes ≠ labVerifiedNodes := by
  decide +kernel

end AgenticNetops.Srv6service
