import AgenticNetops.Srv6service.ReadyJustified
import AgenticNetops.Srv6service.Reuse

set_option autoImplicit false

/- What a pass over a Ready service leaves, and what the next pass makes of it: every
   field that the Ready stage writes is the one it would write again. -/
namespace AgenticNetops.Srv6service

open GoText Api Kuid Kubenet Fabricplan Exits

section Conditions
variable (conds : List Condition) (cond : Condition)

def conditionOf (type : ConditionType) : Option Condition := conds.find? fun other => other.type = type

-- The transition time aside, the condition is there.
def HasCondition : Prop := ∃ since, conditionOf conds cond.type = some { cond with lastTransitionTime := since }

theorem upsert_has : HasCondition (upsertCondition conds cond) cond := by
  induction conds with
  | nil => exact ⟨cond.lastTransitionTime, by simp [conditionOf, upsertCondition]⟩
  | cons first rest ih =>
      rw [upsertCondition]
      by_cases same : first.type = cond.type
      · rw [if_pos same]
        by_cases still : first.status = cond.status
        · rw [if_pos still]
          exact ⟨first.lastTransitionTime, by simp [conditionOf]⟩
        · rw [if_neg still]
          exact ⟨cond.lastTransitionTime, by simp [conditionOf]⟩
      · rw [if_neg same]
        obtain ⟨since, found⟩ := ih
        refine ⟨since, ?_⟩
        rw [conditionOf] at found ⊢
        rw [List.find?_cons_of_neg (by simpa using same)]
        exact found

theorem upsert_other (type : ConditionType) (apart : cond.type ≠ type) :
    conditionOf (upsertCondition conds cond) type = conditionOf conds type := by
  induction conds with
  | nil => simp [conditionOf, upsertCondition, apart]
  | cons first rest ih =>
      rw [upsertCondition]
      by_cases same : first.type = cond.type
      · have skipped : first.type ≠ type := fun here => apart (same.symm.trans here)
        by_cases still : first.status = cond.status
        · simp [conditionOf, same, still, apart]
        · simp [conditionOf, same, still, apart]
      · rw [if_neg same]
        by_cases here : first.type = type
        · simp [conditionOf, here]
        · simpa [conditionOf, here] using ih

-- What is there is put there once more.
theorem upsert_again (since now : Nat) (there : conditionOf conds cond.type = some { cond with lastTransitionTime := since }) :
    upsertCondition conds { cond with lastTransitionTime := now } = conds := by
  induction conds with
  | nil => simp [conditionOf] at there
  | cons first rest ih =>
      rw [upsertCondition]
      by_cases same : first.type = cond.type
      · have found : first = { cond with lastTransitionTime := since } := by simpa [conditionOf, same] using there
        subst found
        simp
      · rw [if_neg same]
        have later : conditionOf rest cond.type = some { cond with lastTransitionTime := since } := by
          simpa [conditionOf, same] using there
        rw [ih later]

end Conditions

-- The pair of a Ready status stays what it is, whenever it is written again.
theorem ready_pair_steady (now later : Nat) (status again : SRv6ServiceStatus) (gen : Nat)
    (same : again.conditions = (setReadyTrue now status gen).conditions) :
    (setReadyTrue later again gen).conditions = again.conditions := by
  have degraded := upsert_has (upsertCondition status.conditions (readyTrue now gen))
    (newCondition now .degraded .verified [.lit "no failures observed"] false gen)
  have ready : HasCondition again.conditions (readyTrue now gen) := by
    obtain ⟨since, found⟩ := upsert_has status.conditions (readyTrue now gen)
    refine ⟨since, ?_⟩
    rw [same]
    exact (upsert_other _ _ _ fun wrong => by cases wrong).trans found
  obtain ⟨readySince, readyThere⟩ := ready
  have kept : upsertCondition again.conditions (readyTrue later gen) = again.conditions :=
    upsert_again again.conditions (readyTrue now gen) readySince later readyThere
  change upsertCondition (upsertCondition again.conditions (readyTrue later gen)) _ = again.conditions
  rw [kept]
  obtain ⟨since, there⟩ := degraded
  refine upsert_again again.conditions (newCondition now .degraded .verified [.lit "no failures observed"] false gen) since later ?_
  rw [same]
  exact there

section Status
variable (svc : SRv6Service) (alloc : Allocation) (hashes : GoMap String) (activePath : String)

/- The Ready stage would write every field of the status as it is, but for the
   generation. -/
structure SteadyStatus (status : SRv6ServiceStatus) : Prop where
  conditions : ∀ now, (setReadyTrue now status svc.generation).conditions = status.conditions
  allocations : status.allocations = some alloc.allocations
  activePath : status.activePath = activePath
  probed : dataPathPassed status = true
  hashes : status.configHashes = hashes
  applied : status.appliedSpec = some svc.spec
  correlated : status.correlationID = correlationID svc

theorem settled_outcome (status : SRv6ServiceStatus) (settled : SteadyStatus svc alloc hashes activePath status) (now : Nat) :
    setReadyOutcome now status svc.generation hashes svc.spec (correlationID svc) activePath alloc.allocations =
      { status with observedGeneration := svc.generation } := by
  have conditions : upsertCondition (upsertCondition status.conditions (readyTrue now svc.generation))
      (newCondition now .degraded .verified [.lit "no failures observed"] false svc.generation) = status.conditions :=
    settled.conditions now
  rw [setReadyOutcome, setReadyTrue, ← settled.allocations, ← settled.activePath, ← settled.hashes, ← settled.applied,
    ← settled.correlated]
  dsimp only
  rw [conditions]

theorem settled_same_iff (status : SRv6ServiceStatus) (settled : SteadyStatus svc alloc hashes activePath status) (now : Nat) :
    setReadyOutcome now status svc.generation hashes svc.spec (correlationID svc) activePath alloc.allocations = status ↔
      status.observedGeneration = svc.generation := by
  rw [settled_outcome svc alloc hashes activePath status settled now]
  constructor
  · intro same
    exact (congrArg SRv6ServiceStatus.observedGeneration same).symm
  · intro same
    rw [← same]

end Status

/- The status in the API server against the copy that the pass goes on with: the same
   but for the nodes, a refusal in the copy's conditions, and, where the record of a
   drift has been lost, the generation. -/
def restOf (status : SRv6ServiceStatus) :
    Option Api.Allocations × String × Option DataPathStatus × GoMap String × Option SRv6ServiceSpec × String :=
  (status.allocations, status.activePath, status.dataPath, status.configHashes, status.appliedSpec, status.correlationID)

structure Tracked (svc : SRv6Service) (lost : Prop) (pass : Pass) : Prop where
  rest : restOf pass.status = restOf pass.stored.status
  conditions : pass.status.conditions = pass.stored.status.conditions ∨ isReady pass.status = false
  kept : ¬ lost → pass.status.observedGeneration = pass.stored.status.observedGeneration
  stale : lost → pass.status.observedGeneration = svc.generation ∧
    pass.stored.status.observedGeneration = svc.status.observedGeneration

section Merging
variable (stored base next : SRv6ServiceStatus)

theorem merge_rest (same : restOf base = restOf stored) : restOf (mergeStatus stored base next) = restOf next := by
  simp only [restOf, Prod.mk.injEq] at same
  obtain ⟨allocations, activePath, dataPath, hashes, applied, correlated⟩ := same
  simp only [restOf, mergeStatus, ← allocations, ← activePath, ← dataPath, ← hashes, ← applied, ← correlated, merge_field_of_base]

-- Conditions that become Ready are sent, whether the server has those of the copy or not.
theorem merge_conditions (agree : base.conditions = stored.conditions ∨ (isReady base = false ∧ isReady next = true)) :
    (mergeStatus stored base next).conditions = next.conditions := by
  rw [mergeStatus]
  cases agree with
  | inl same =>
      rw [← same]
      exact merge_field_of_base base.conditions next.conditions
  | inr turned =>
      have apart : base.conditions ≠ next.conditions := by
        intro same
        rw [isReady, same] at turned
        rw [isReady, turned.1] at turned
        cases turned.2
      exact if_neg apart

end Merging

-- A patch that lands brings the copy and the server together.
theorem patched_tracked (svc : SRv6Service) (pass : Pass) (next : SRv6ServiceStatus) : Tracked svc False (pass.patched next) where
  rest := rfl
  conditions := Or.inl rfl
  kept _ := rfl
  stale impossible := impossible.elim

section Stages
variable (site : Site) (answers : Answers) (svc : SRv6Service) (alloc : Allocation) (plan : SRv6Plan)

theorem start_tracked (store claimed : Store) : Tracked svc False (claimedPass svc store claimed) where
  rest := rfl
  conditions := Or.inl rfl
  kept _ := rfl
  stale impossible := impossible.elim

-- Refusals end the pass: nothing is claimed about what they leave.
theorem refuse_stops {α : Type} (pre : Pass → Prop) (ref : Refusal) :
    Triple pre (refuse answers svc ref : PassM α) (fun _ _ => False) (fun _ _ => True) := by
  intro pass _
  have refused := refuse_wrote answers svc True ref (α := α) pass fun _ => trivial
  cases outcome : (refuse answers svc ref : PassM α) pass with
  | mk after result =>
      rw [outcome] at refused
      cases result with
      | ok value => exact refused
      | error value => trivial

theorem refuse_if_stops (pre : Pass → Prop) (refusal : Option Refusal) :
    Triple pre (refuseIf answers svc refusal) (fun _ s => refusal = none ∧ pre s) (fun _ _ => True) :=
  triple_gate answers svc _ _ (fun ref => refuse_stops answers svc pre ref) refusal

theorem log_calls_tracked (lost : Prop) (calls : List Call) (left : ReconcileResult → Pass → Prop) :
    Triple (Tracked svc lost) (logCalls svc alloc.allocations calls) (fun _ s => Tracked svc lost s) left :=
  fun _ here => ⟨here.rest, here.conditions, here.kept, here.stale⟩

theorem set_nodes_tracked (lost : Prop) (nodes : List NodeStatus) (left : ReconcileResult → Pass → Prop) :
    Triple (Tracked svc lost) (setNodes nodes) (fun _ s => Tracked svc lost s) left :=
  fun _ here => ⟨here.rest, here.conditions, here.kept, here.stale⟩

-- The update goes through with the outcome it has written.
theorem apply_update_tracked (pass : Pass) (here : Tracked svc False pass) (recorded : pass.status.appliedSpec.isSome = true)
    (hashes : GoMap String) :
    Triple (fun s => s = pass) (applyUpdate site answers svc alloc plan (planOrder plan) hashes)
      (fun refusal s => refusal = none → Tracked svc False s) (fun _ _ => True) := by
  obtain ⟨applied, recorded⟩ := Option.isSome_iff_exists.mp recorded
  apply triple_read_bind
  intro current same
  subst same
  rw [recorded, renderAppliedPlan]
  cases buildPlan applied alloc site.facts with
  | error message => exact fun s _ wrong => by cases wrong
  | ok prev =>
      dsimp only [Except.map]
      apply triple_bind _ _ _ _ (fun _ s => Tracked svc False s)
      · exact fun s same => log_calls_tracked svc alloc False _ (fun _ _ => True) s (same ▸ here)
      · intro _
        cases (driveUpdate answers.apply prev plan (planOrder plan)).2 with
        | some ref => exact fun s _ wrong => by cases wrong
        | none =>
            apply triple_bind _ _ _ _ (fun _ s => Tracked svc False s) _ (set_nodes_tracked svc False _ _)
            intro _
            cases (verifyPlan answers.verify .update plan site.facts.locators (planOrder plan)).2 with
            | some ref => exact fun s _ wrong => by cases wrong
            | none =>
                apply triple_read_bind
                intro late _ current same
                subst same
                simp only [bind_run]
                unfold patchStatus
                by_cases lands : answers.patch .updateStatus
                · rw [if_pos lands]
                  exact fun _ => patched_tracked svc current _
                · rw [if_neg lands]
                  exact fun wrong => by cases wrong

theorem apply_stage_tracked (store claimed : Store) :
    Triple (fun s => s = claimedPass svc store claimed)
      (applyStage site answers svc alloc plan (planOrder plan) (planHashes site.digest plan) (unchangedPlan site svc plan))
      (fun _ s => Tracked svc False s ∧
        (unchangedPlan site svc plan = true → s.stored.status.observedGeneration = svc.status.observedGeneration))
      (fun _ _ => True) := by
  have start := start_tracked svc store claimed
  apply triple_read_bind
  intro pass same
  subst same
  apply triple_ite
  · intro update
    have changed : ¬ unchangedPlan site svc plan = true := update.2
    apply triple_bind _ _ _ _ _ _ (apply_update_tracked site answers svc alloc plan _ start update.1 _)
    intro refusal s tracked
    cases refusal with
    | none => exact ⟨tracked rfl, fun same => absurd same changed⟩
    | some ref =>
        exact triple_weaken _ _ _ _ _ _ _ (refuse_stops answers svc (fun _ => True) ref) (fun _ here => here)
          (fun _ _ impossible => impossible.elim) (fun _ _ here => here) s trivial
  · intro _
    apply triple_ite
    · intro changed
      rw [firstApply]
      cases applyPlan answers.apply .firstApply plan (planOrder plan) with
      | mk calls failed =>
          cases failed with
          | none =>
              intro s here
              subst here
              exact ⟨log_calls_tracked svc alloc False calls (fun _ _ => True) _ start, fun same => absurd same changed⟩
          | some stop =>
              intro s here
              subst here
              exact triple_weaken _ _ _ _ _ _ _ (refuse_stops answers svc (fun _ => True) (applyFailedRefusal stop.1 stop.2))
                (fun _ here => here) (fun _ _ impossible => impossible.elim) (fun _ _ here => here) _ trivial
    · intro _ s here
      subst here
      exact ⟨start, fun _ => rfl⟩

-- A drift whose record does not land stays in the copy alone.
theorem record_drift_tracked (ref : Refusal) (left : ReconcileResult → Pass → Prop) :
    Triple (fun s => Tracked svc False s ∧ s.stored.status.observedGeneration = svc.status.observedGeneration)
      (recordDrift answers svc ref) (fun _ s => Tracked svc (answers.patch .drift = false) s) left := by
  apply triple_read_bind
  intro pass here current same
  subst same
  simp only [bind_run]
  unfold patchStatus
  by_cases lands : answers.patch .drift
  · rw [if_pos lands]
    have tracked := patched_tracked svc current (setRefusal answers.now current.status svc.generation ref)
    exact ⟨tracked.rest, tracked.conditions, fun _ => tracked.kept id, fun lost => absurd lost (by simp [lands])⟩
  · rw [if_neg lands]
    have lost : answers.patch .drift = false := by simpa using lands
    exact ⟨here.1.rest, Or.inr (refusal_unready _ _ _ _), fun kept => absurd lost kept, fun _ => ⟨rfl, here.2⟩⟩

theorem repair_drift_tracked (drift : Refusal) :
    Triple (fun s => Tracked svc False s ∧ s.stored.status.observedGeneration = svc.status.observedGeneration)
      (repairDrift site answers svc alloc plan (planOrder plan) drift)
      (fun _ s => Tracked svc (answers.patch .drift = false) s) (fun _ _ => True) := by
  apply triple_bind _ _ _ _ _ _ (record_drift_tracked answers svc drift _)
  intro _
  cases applyPlan answers.apply .driftApply plan (planOrder plan) with
  | mk calls failed =>
      cases failed with
      | none => exact fun s here => ⟨here.rest, here.conditions, here.kept, here.stale⟩
      | some stop =>
          intro s _
          exact triple_weaken _ _ _ _ _ _ _ (refuse_stops answers svc (fun _ => True) (applyFailedRefusal stop.1 stop.2))
            (fun _ here => here) (fun _ _ impossible => impossible.elim) (fun _ _ here => here) _ trivial

-- The record of the drift is lost: the plan was repaired and the patch did not land.
def driftLost : Prop := repaired site answers svc alloc plan = true ∧ answers.patch .drift = false

-- The path that the pass goes on with: observed, with a leg that serves the pin.
def PathTaken (activePath : String) : Prop :=
  ∃ observation, observed site answers svc alloc plan = .ok observation ∧
    ∃ path, path = steerPathOutcome svc.spec (steeredPathView svc.spec (planOrder plan) alloc.serviceSIDs site.facts.spineLinks)
        observation (mainRefusal site answers plan) ∧ path.refusal = none ∧ activePath = path.activePath

theorem drift_tracked (path : SteerPath)
    (repairing : repairs site answers svc alloc plan = (¬ path.skipRepair && (mainRefusal site answers plan).any fun ref => ref.kind = .check)) :
    Triple (fun s => Tracked svc False s ∧
        (unchangedPlan site svc plan = true → s.stored.status.observedGeneration = svc.status.observedGeneration))
      (do
        refuseIf answers svc path.refusal
        match if path.skipRepair then none else mainRefusal site answers plan with
        | none => pure path.activePath
        | some ref =>
            if unchangedPlan site svc plan ∧ ref.kind = .check then do
              let remaining ← repairDrift site answers svc alloc plan (planOrder plan) ref
              refuseIf answers svc remaining
              pure path.activePath
            else refuse answers svc ref)
      (fun activePath s => (path.refusal = none ∧ activePath = path.activePath) ∧ Tracked svc (driftLost site answers svc alloc plan) s)
      (fun _ _ => True) := by
  apply triple_bind _ _ _ _ _ _ (refuse_if_stops answers svc _ path.refusal)
  intro _
  have untouched : repaired site answers svc alloc plan = false → ∀ s, Tracked svc False s →
      Tracked svc (driftLost site answers svc alloc plan) s := by
    intro clean s here
    have kept : ¬ driftLost site answers svc alloc plan := fun lost => by
      rw [driftLost, clean] at lost
      cases lost.1
    exact ⟨here.rest, here.conditions, fun _ => here.kept id, fun lost => absurd lost kept⟩
  cases failing : (if path.skipRepair then none else mainRefusal site answers plan) with
  | none =>
      have clean : repaired site answers svc alloc plan = false := by
        rw [repaired, repairing]
        by_cases skip : path.skipRepair
        · simp [skip]
        · rw [if_neg skip] at failing
          simp [failing]
      exact fun s here => ⟨⟨here.1, rfl⟩, untouched clean s here.2.1⟩
  | some ref =>
      apply triple_ite
      · intro drifting
        have again : repaired site answers svc alloc plan = true := by
          rw [repaired, drifting.1, repairing]
          by_cases skip : path.skipRepair
          · simp [skip] at failing
          · rw [if_neg skip] at failing
            simp [skip, failing, drifting.2]
        intro s here
        have start : Tracked svc False s ∧ s.stored.status.observedGeneration = svc.status.observedGeneration :=
          ⟨here.2.1, here.2.2 drifting.1⟩
        apply triple_bind _ _ _ _ _ _ (repair_drift_tracked site answers svc alloc plan ref) _ s start
        intro remaining t tracked
        apply triple_bind _ _ _ _ _ _ (refuse_if_stops answers svc _ remaining) _ t tracked
        intro _ last reached
        have tracked := reached.2
        refine ⟨⟨here.1, rfl⟩, tracked.rest, tracked.conditions, fun kept => tracked.kept fun failed => kept ⟨again, failed⟩,
          fun lost => tracked.stale lost.2⟩
      · intro _
        exact triple_weaken _ _ _ _ _ _ _ (refuse_stops answers svc (fun _ => True) ref) (fun _ _ => trivial)
          (fun _ _ impossible => impossible.elim) (fun _ _ here => here)

theorem verify_stage_tracked :
    Triple (fun s => Tracked svc False s ∧
        (unchangedPlan site svc plan = true → s.stored.status.observedGeneration = svc.status.observedGeneration))
      (verifyStage site answers svc alloc plan (planOrder plan) (unchangedPlan site svc plan))
      (fun activePath s => PathTaken site answers svc alloc plan activePath ∧ Tracked svc (driftLost site answers svc alloc plan) s)
      (fun _ _ => True) := by
  apply triple_bind _ _ _ _ (fun _ s => Tracked svc False s ∧
    (unchangedPlan site svc plan = true → s.stored.status.observedGeneration = svc.status.observedGeneration))
  · exact fun s here => ⟨⟨here.1.rest, here.1.conditions, here.1.kept, here.1.stale⟩, here.2⟩
  · intro _
    have behind := drift_tracked site answers svc alloc plan
    have repairing := repairs.eq_def site answers svc alloc plan
    have taken := PathTaken.eq_def site answers svc alloc plan
    rw [observed] at taken
    dsimp only at repairing taken ⊢
    cases steered : steeredPathView svc.spec (planOrder plan) alloc.serviceSIDs site.facts.spineLinks with
    | none =>
        rw [steered] at repairing taken
        exact triple_weaken _ _ _ _ _ _ _ (behind _ repairing) (fun _ here => here)
          (fun activePath s held => ⟨by rw [taken]; exact ⟨_, rfl, _, rfl, held.1⟩, held.2⟩) fun _ _ here => here
    | some view =>
        rw [steered] at repairing taken
        dsimp only at repairing taken ⊢
        cases seen : observePath answers.verify view with
        | error err => exact fun s here => trivial
        | ok observation =>
            rw [seen] at repairing taken
            exact triple_weaken _ _ _ _ _ _ _ (behind _ repairing) (fun _ here => here)
              (fun activePath s held => ⟨by rw [taken]; exact ⟨_, rfl, _, rfl, held.1⟩, held.2⟩) fun _ _ here => here

-- A status with the fields of an outcome is settled.
theorem outcome_settles (now : Nat) (probed status : SRv6ServiceStatus) (hashes : GoMap String) (activePath : String)
    (checked : dataPathPassed probed = true)
    (rest : restOf status = restOf (setReadyOutcome now probed svc.generation hashes svc.spec (correlationID svc) activePath alloc.allocations))
    (conditions : status.conditions = (setReadyTrue now probed svc.generation).conditions) :
    SteadyStatus svc alloc hashes activePath status := by
  simp only [restOf, setReadyOutcome, Prod.mk.injEq] at rest
  obtain ⟨allocations, path, dataPath, hashed, applied, correlated⟩ := rest
  refine ⟨?_, allocations, path, ?_, hashed, applied, correlated⟩
  · exact fun later => ready_pair_steady now later probed status svc.generation conditions
  · rw [dataPathPassed, dataPath]
    exact checked

-- What the Ready stage leaves in the API server.
structure ReadyLeft (hashes : GoMap String) (activePath : String) (lost : Prop) (pass : Pass) : Prop where
  settled : SteadyStatus svc alloc hashes activePath pass.stored.status
  current : ¬ lost → pass.stored.status.observedGeneration = svc.generation
  stale : lost → pass.stored.status.observedGeneration = svc.status.observedGeneration

theorem record_ready_leaves (lost : Prop) (pass : Pass) (tracked : Tracked svc lost pass) (probed : SRv6ServiceStatus)
    (checked : dataPathPassed probed = true) (hashes : GoMap String) (activePath : String) :
    Triple (fun s => s = pass)
      (recordReady answers pass.status
        (setReadyOutcome answers.now probed svc.generation hashes svc.spec (correlationID svc) activePath alloc.allocations))
      (fun _ s => ReadyLeft svc alloc hashes activePath lost s) (fun _ _ => True) := by
  have ready := ready_outcome_ready answers.now probed svc.generation hashes svc.spec (correlationID svc) activePath alloc.allocations
  apply triple_ite
  · intro same current start
    subst start
    rw [same] at ready
    have conditions : current.status.conditions = current.stored.status.conditions := by
      cases tracked.conditions with
      | inl agree => exact agree
      | inr unready =>
          rw [unready] at ready
          cases ready
    refine ⟨outcome_settles svc alloc answers.now probed _ hashes activePath checked ?_ ?_, fun kept => ?_, fun gone => ?_⟩
    · rw [same]
      exact tracked.rest.symm
    · rw [← conditions, ← same]
      rfl
    · rw [← tracked.kept kept, ← same]
      rfl
    · exact (tracked.stale gone).2
  · intro _ current start
    subst start
    simp only [bind_run]
    unfold patchStatus
    by_cases lands : answers.patch .ready
    · rw [if_pos lands]
      refine ⟨outcome_settles svc alloc answers.now probed _ hashes activePath checked ?_ ?_, fun kept => ?_, fun gone => ?_⟩
      · exact merge_rest _ _ _ tracked.rest
      · apply merge_conditions
        cases tracked.conditions with
        | inl agree => exact Or.inl agree
        | inr unready => exact Or.inr ⟨unready, ready⟩
      · change mergeField _ _ _ = svc.generation
        rw [← tracked.kept kept]
        exact merge_field_of_base _ _
      · change mergeField _ _ _ = svc.status.observedGeneration
        rw [(tracked.stale gone).1, (tracked.stale gone).2, mergeField]
        exact if_pos rfl
    · rw [if_neg lands]
      trivial

theorem ready_stage_leaves (lost : Prop) (hashes : GoMap String) (activePath : String) :
    Triple (Tracked svc lost) (readyStage answers svc alloc hashes activePath)
      (fun _ s => ReadyLeft svc alloc hashes activePath lost s) (fun _ _ => True) := by
  apply triple_read_bind
  intro pass tracked
  have recording := record_ready_leaves answers svc alloc lost pass tracked
  dsimp only
  by_cases probed : dataPathPassed pass.status = true
  · rw [if_neg (not_not.mpr probed), if_pos probed]
    exact recording pass.status probed hashes activePath
  · rw [if_pos probed, if_neg probed]
    cases runDataPath answers.verify svc.spec alloc with
    | transport err => exact fun _ _ => trivial
    | verdict passed detail =>
        cases passed with
        | false =>
            apply triple_bind _ _ _ _ (fun _ _ => False) _ (refuse_stops answers svc _ _)
            exact fun _ _ impossible => impossible.elim
        | true => exact recording _ rfl hashes activePath

end Stages

section Pass
variable (site : Site) (lists : ConflictLists) (answers : Answers) (svc : SRv6Service) (store : Store)

/- A pass that took the Ready path: how it came to its verification's end, which path it
   took, and what it has left in the API server. -/
structure TookReady (pass : Pass) (alloc : Allocation) (plan : SRv6Plan) (claimed : Store) : Prop where
  admitted : Admitted site lists answers svc store alloc plan claimed
  verified : VerifiedWay site answers svc alloc plan
  leaves : ∃ activePath, PathTaken site answers svc alloc plan activePath ∧
    ReadyLeft svc alloc (planHashes site.digest plan) activePath (driftLost site answers svc alloc plan) pass

theorem drive_stages_left (alloc : Allocation) (plan : SRv6Plan) (claimed : Store)
    (admitted : Admitted site lists answers svc store alloc plan claimed) :
    Triple (fun s => s = claimedPass svc store claimed) (driveStages site answers svc alloc plan)
      (fun _ s => ∃ alloc plan claimed, TookReady site lists answers svc store s alloc plan claimed) (fun _ _ => True) := by
  apply triple_read_bind
  intro pass same
  subst same
  have applied := triple_and _ _ _ _ _ _ _ (apply_stage_tracked site answers svc alloc plan store claimed)
    (apply_stage_wrote site answers svc alloc plan store claimed)
  apply triple_bind _ _ _ _ _ _ (triple_weaken _ _ _ _ _ _ _ applied (fun _ here => ⟨here, here⟩) (fun _ _ held => held)
    fun _ _ _ => trivial)
  intro _
  have verified := triple_and _ _ _ _ _ _ _ (verify_stage_tracked site answers svc alloc plan)
    (verify_stage_wrote site answers svc alloc plan (updates site svc plan = true))
  apply triple_bind _ _ _ _ _ _ (triple_weaken _ _ _ _ _ _ _ verified (fun _ here => ⟨here.1, here.2.2⟩) (fun _ _ held => held)
    fun _ _ _ => trivial)
  intro activePath s here
  have last := ready_stage_leaves answers svc alloc (driftLost site answers svc alloc plan) (planHashes site.digest plan) activePath
  exact triple_weaken _ _ _ _ _ _ _ last (fun _ start => start)
    (fun _ _ left => ⟨alloc, plan, claimed, admitted, here.2.1, activePath, here.1.1, left⟩) (fun _ _ _ => trivial) s here.1.2

theorem resync_took_ready (returned : resultOf (reconcile site lists answers svc (startPass svc store)).2 = resync) :
    ∃ alloc plan claimed,
      TookReady site lists answers svc store (reconcile site lists answers svc (startPass svc store)).1 alloc plan claimed := by
  obtain ⟨_, live, through⟩ := resync_through site lists answers svc (startPass svc store) returned
  have quiet : QuietEnds site lists answers svc store (fun _ => True) :=
    ⟨fun _ _ ref _ => refuse_stops answers svc _ ref, fun _ _ => trivial, trivial⟩
  have ended := triple_reconcile_live site lists answers svc store _ quiet _ (drive_stages_left site lists answers svc store)
    (startPass svc store) rfl
  rw [live] at through ⊢
  cases outcome : reconcileLive site lists answers svc (startPass svc store) with
  | mk pass result =>
      rw [outcome] at ended through
      cases result with
      | ok value => exact ended
      | error value => cases through

end Pass

/- The next pass makes no executor call, lands no status patch and returns the resync
   interval. A patch that is tried and fails shows in the result. -/
def QuietPass (outcome : Pass × Except ReconcileResult ReconcileResult) : Prop :=
  outcome.1.calls = [] ∧ outcome.1.written = [] ∧ resultOf outcome.2 = resync

instance (outcome : Pass × Except ReconcileResult ReconcileResult) : Decidable (QuietPass outcome) :=
  inferInstanceAs (Decidable (outcome.1.calls = [] ∧ outcome.1.written = [] ∧ resultOf outcome.2 = resync))

/- What the environment says once more: the capability record, and on every device what
   the last verification and the path read have seen. The clock, the claim server and the
   API writes are free. -/
structure SameAnswers (answers again : Answers) (last : VerifyStage) : Prop where
  capability : again.capability = answers.capability
  locator : again.verify.locator .main = answers.verify.locator last
  checks : again.verify.checks .main = answers.verify.checks last
  path : again.verify.path = answers.verify.path

theorem verify_node_same (first second : VerifyAnswers) (stage other : VerifyStage) (node : String) (checks : List Check)
    (locator : String) (sameLocator : first.locator stage = second.locator other)
    (sameChecks : first.checks stage = second.checks other) :
    verifyNode first stage node checks locator = verifyNode second other node checks locator := by
  rw [verifyNode, verifyNode, sameLocator, sameChecks]

theorem verify_plan_same (first second : VerifyAnswers) (stage other : VerifyStage) (plan : SRv6Plan) (locators : GoMap String)
    (order : List String) (sameLocator : first.locator stage = second.locator other)
    (sameChecks : first.checks stage = second.checks other) :
    verifyPlan first stage plan locators order = verifyPlan second other plan locators order := by
  induction order with
  | nil => rfl
  | cons node rest ih =>
      rw [verifyPlan, verifyPlan, ih, verify_node_same first second stage other node _ _ sameLocator sameChecks]

-- The hashes of a plan with two nodes are their own.
theorem plan_hashes_equal (digest : Digest) (spec : SRv6ServiceSpec) (alloc : Fabricplan.Allocations) (opts : SRv6Options)
    (plan : SRv6Plan) (rendered : forSRv6Service spec alloc opts = .ok plan) :
    hashesEqual (planHashes digest plan) (planHashes digest plan) = true := by
  obtain ⟨first, second, _, _, planA, planB, gates, _, _, _, _, same⟩ := for_srv6_service_parts spec alloc opts plan rendered
  subst same
  have apart : (second == first) = false := beq_eq_false_iff_ne.mpr (Ne.symm gates.differ)
  simp [hashesEqual, planHashes, GoMap.text, List.lookup_cons, apart]

section Again
variable (site : Site) (lists : ConflictLists) (again : Answers) (svc : SRv6Service) (store : Store)
  (alloc : Allocation) (plan : SRv6Plan)

-- Through the gates, over a recorded allocation, the pass comes to its plan as it started.
theorem gates_drive (gates : passesGates site lists again svc = true) (alive : svc.deletionTimestamp = none)
    (reused : reuseAllocation svc (correlationID svc) site.facts.locators = some alloc)
    (rendered : buildPlan svc.spec alloc site.facts = .ok plan) :
    reconcile site lists again svc (startPass svc store) = driveStages site again svc alloc plan (startPass svc store) := by
  simp only [passesGates, Bool.and_eq_true, Option.isNone_iff_eq_none] at gates
  obtain ⟨⟨⟨finalizer, siteValid⟩, capable⟩, free⟩ := gates
  cases read : readCapability again.capability with
  | error ref => simp [read] at capable
  | ok cap =>
      simp only [read, Bool.and_eq_true, Option.isNone_iff_eq_none] at capable
      have same : reuseAllocation { svc with status := (startPass svc store).status } (correlationID svc) site.facts.locators = some alloc :=
        reused
      rw [reconcile, if_neg (by simp [alive]), reconcileLive, ensureFinalizer, if_pos finalizer, siteValid, read, free]
      simp only [bind_run, pure_run, refuseIf, orRefuse, capable.1, capable.2, claimStage, read_run, same, rendered, Except.mapError]
      rfl

theorem verify_stage_steady (observation : PathObservation) (path : SteerPath) (seen : observed site again svc alloc plan = .ok observation)
    (outcome : path = steerPathOutcome svc.spec (steeredPathView svc.spec (planOrder plan) alloc.serviceSIDs site.facts.spineLinks)
      observation (mainRefusal site again plan))
    (served : path.refusal = none) (excused : (if path.skipRepair then none else mainRefusal site again plan) = none)
    (unchanged : Bool) (pass : Pass) :
    verifyStage site again svc alloc plan (planOrder plan) unchanged pass =
      ({ pass with status := { pass.status with
          nodes := (verifyPlan again.verify .main plan site.facts.locators (planOrder plan)).1 } }, .ok path.activePath) := by
  rw [verifyStage]
  rw [observed] at seen
  simp only [bind_run, setNodes, change_run]
  rw [mainRefusal] at outcome excused
  cases steered : steeredPathView svc.spec (planOrder plan) alloc.serviceSIDs site.facts.spineLinks with
  | none =>
      rw [steered] at seen outcome
      cases seen
      simp only [← outcome, bind_run, served, refuseIf, pure_run, excused]
  | some view =>
      rw [steered] at seen outcome
      have seen : observePath again.verify view = .ok observation := seen
      simp only [seen, ← outcome, bind_run, served, refuseIf, pure_run, excused]

-- Over a settled status the Ready stage has nothing to write but a stale generation.
theorem ready_stage_steady (hashes : GoMap String) (activePath : String) (pass : Pass)
    (settled : SteadyStatus svc alloc hashes activePath pass.status) :
    readyStage again svc alloc hashes activePath pass =
      recordReady again pass.status { pass.status with observedGeneration := svc.generation } pass := by
  rw [readyStage]
  simp only [bind_run, read_run, settled.probed, not_true, if_false, if_true]
  rw [settled_outcome svc alloc hashes activePath pass.status settled again.now]

theorem record_ready_quiet_iff (pass : Pass) (uncalled : pass.calls = []) (unwritten : pass.written = []) :
    QuietPass (recordReady again pass.status { pass.status with observedGeneration := svc.generation } pass) ↔
      pass.status.observedGeneration = svc.generation := by
  rw [recordReady]
  by_cases same : pass.status.observedGeneration = svc.generation
  · have unchanged : { pass.status with observedGeneration := svc.generation } = pass.status := by rw [← same]
    rw [if_pos unchanged]
    exact ⟨fun _ => same, fun _ => ⟨uncalled, unwritten, rfl⟩⟩
  · have changed : ¬ { pass.status with observedGeneration := svc.generation } = pass.status := fun whole =>
      same (congrArg SRv6ServiceStatus.observedGeneration whole).symm
    rw [if_neg changed]
    refine ⟨fun quiet => absurd quiet ?_, fun equal => absurd equal same⟩
    simp only [bind_run]
    unfold patchStatus
    by_cases lands : again.patch .ready
    · rw [if_pos lands]
      intro quiet
      have wrote : pass.written ++ [{ pass.status with observedGeneration := svc.generation }] = [] := quiet.2.1
      simp at wrote
    · rw [if_neg lands]
      intro quiet
      have failed : ReconcileResult.failed = resync := quiet.2.2
      exact absurd failed (by decide)

theorem drive_stages_quiet_iff (hashed : unchangedPlan site svc plan = true) (activePath : String) (observation : PathObservation)
    (path : SteerPath) (seen : observed site again svc alloc plan = .ok observation)
    (outcome : path = steerPathOutcome svc.spec (steeredPathView svc.spec (planOrder plan) alloc.serviceSIDs site.facts.spineLinks)
      observation (mainRefusal site again plan))
    (served : path.refusal = none) (excused : (if path.skipRepair then none else mainRefusal site again plan) = none)
    (taken : activePath = path.activePath)
    (settled : SteadyStatus svc alloc (planHashes site.digest plan) activePath svc.status) :
    QuietPass (driveStages site again svc alloc plan (startPass svc store)) ↔ svc.status.observedGeneration = svc.generation := by
  have applied : applyStage site again svc alloc plan (planOrder plan) (planHashes site.digest plan) true (startPass svc store) =
      (startPass svc store, .ok ()) := by
    rw [applyStage]
    simp
  have hashed : hashesEqual (startPass svc store).status.configHashes (planHashes site.digest plan) = true := hashed
  rw [driveStages]
  simp only [bind_run, read_run, hashed, applied]
  rw [verify_stage_steady site again svc alloc plan observation path seen outcome served excused true (startPass svc store), ← taken]
  dsimp only
  rw [ready_stage_steady again svc alloc (planHashes site.digest plan) activePath]
  · exact record_ready_quiet_iff again svc _ rfl rfl
  · exact ⟨settled.conditions, settled.allocations, settled.activePath, settled.probed, settled.hashes, settled.applied, settled.correlated⟩

end Again

section Steady
variable (site : Site) (answers again : Answers) (svc stored : SRv6Service) (alloc : Allocation) (plan : SRv6Plan)

theorem steer_apart_from_repair (spec : SRv6ServiceSpec) (view : Option PathView) (observation : PathObservation) (first second : Option Refusal) :
    (steerPathOutcome spec view observation first).refusal = (steerPathOutcome spec view observation second).refusal ∧
      (steerPathOutcome spec view observation first).activePath = (steerPathOutcome spec view observation second).activePath := by
  cases view with
  | none => exact ⟨rfl, rfl⟩
  | some view =>
      rw [steerPathOutcome, steerPathOutcome]
      by_cases down : observation.down <;> simp [down]

-- A failed check of a service on its alternate is not repaired.
theorem rides_skips (observation : PathObservation) (seen : observed site answers svc alloc plan = .ok observation)
    (rides : ridesAlternate site answers svc alloc plan = true) (vref : Option Refusal)
    (checked : vref.any (fun ref => ref.kind = .check) = true) :
    (steerPathOutcome svc.spec (steeredPathView svc.spec (planOrder plan) alloc.serviceSIDs site.facts.spineLinks) observation vref).skipRepair =
      true := by
  rw [ridesAlternate, seen] at rides
  cases steered : steeredPathView svc.spec (planOrder plan) alloc.serviceSIDs site.facts.spineLinks with
  | none => simp [steered] at rides
  | some view =>
      simp only [steered, Option.isSome_some, Bool.true_and, Bool.and_eq_true] at rides
      have up : observation.down = false := by simpa using rides.1.1
      simp [steerPathOutcome, up, checked, rides.1.2, rides.2]

/- What the last verification of a Ready pass has found is no reason for a repair when it
   is found once more. -/
theorem found_again_excused (verified : VerifiedWay site answers svc alloc plan)
    (observation : PathObservation) (seen : observed site answers svc alloc plan = .ok observation)
    (same : SameAnswers answers again (lastStage site answers svc alloc plan)) :
    (if (steerPathOutcome svc.spec (steeredPathView svc.spec (planOrder plan) alloc.serviceSIDs site.facts.spineLinks) observation
        (mainRefusal site again plan)).skipRepair then none else mainRefusal site again plan) = none := by
  have found : mainRefusal site again plan =
      (verifyPlan answers.verify (lastStage site answers svc alloc plan) plan site.facts.locators (planOrder plan)).2 := by
    rw [mainRefusal, verify_plan_same again.verify answers.verify .main _ plan _ _ same.locator same.checks]
  have byMain : repaired site answers svc alloc plan = false → mainRefusal site again plan = mainRefusal site answers plan := by
    intro unrepaired
    rw [found, lastStage, unrepaired]
    rfl
  rcases verified with clean | ⟨checked, rides⟩ | ⟨repaired, clean⟩
  · have unrepaired : repaired site answers svc alloc plan = false := by
      rw [repaired, unfailing_unrepaired site answers svc alloc plan clean, Bool.and_false]
    rw [byMain unrepaired, clean, ite_self]
  · have unrepaired : repaired site answers svc alloc plan = false := by
      rw [repaired, rides_unrepaired site answers svc alloc plan rides, Bool.and_false]
    rw [byMain unrepaired, if_pos (rides_skips site answers svc alloc plan observation seen rides _ checked)]
  · rw [lastStage, repaired] at found
    have again_clean : mainRefusal site again plan = none := found.trans clean
    rw [again_clean, ite_self]

end Steady

section Next
variable (site : Site) (lists : ConflictLists) (answers : Answers) (svc : SRv6Service) (store : Store)

-- The gates that let a service through do so again where the conflicts are decided the same.
theorem gates_again (again : Answers) (againLists : ConflictLists) (stored : SRv6Service) (same : SameObject svc stored)
    (gates : passesGates site lists answers svc = true) (capability : again.capability = answers.capability)
    (conflicts : checkConflicts stored againLists = checkConflicts svc lists) :
    passesGates site againLists again stored = true := by
  obtain ⟨status, finalizers, kept, rfl⟩ := same
  have finalizer := (same_object_finalizer svc _ ⟨status, finalizers, kept, rfl⟩
    (passes_gates_finalizer site lists answers svc gates)).1
  simp only [passesGates, Bool.and_eq_true] at gates ⊢
  refine ⟨⟨⟨finalizer, gates.1.1.2⟩, ?_⟩, by rw [conflicts]; exact gates.2⟩
  rw [capability]
  exact gates.1.2

/- Behind a pass that took the Ready path, the next one over what it has left and the
   same answers is quiet, unless the pass repaired a drift whose record did not land and
   the status was of another generation. -/
theorem steady_state_iff (returned : resultOf (reconcile site lists answers svc (startPass svc store)).2 = resync) :
    ∃ alloc plan claimed, Admitted site lists answers svc store alloc plan claimed ∧
      ∀ (again : Answers) (againLists : ConflictLists) (againStore : Store),
        SameAnswers answers again (lastStage site answers svc alloc plan) →
        checkConflicts (reconcile site lists answers svc (startPass svc store)).1.stored againLists = checkConflicts svc lists →
        (QuietPass (reconcile site againLists again (reconcile site lists answers svc (startPass svc store)).1.stored
            (startPass (reconcile site lists answers svc (startPass svc store)).1.stored againStore)) ↔
          ¬ (repaired site answers svc alloc plan = true ∧ answers.patch .drift = false ∧
            svc.status.observedGeneration ≠ svc.generation)) := by
  obtain ⟨alloc, plan, claimed, took⟩ := resync_took_ready site lists answers svc store returned
  obtain ⟨alive, _, _⟩ := resync_through site lists answers svc (startPass svc store) returned
  refine ⟨alloc, plan, claimed, took.admitted, ?_⟩
  intro again againLists againStore same conflicts
  obtain ⟨activePath, ⟨observation, seen, path, outcome, served, taken⟩, left⟩ := took.leaves
  have object : SameObject svc (reconcile site lists answers svc (startPass svc store)).1.stored := by
    rcases pass_stored site lists answers svc store _ (reconcile_ends site lists answers svc store) with object | ⟨_, deleting, _⟩
    · exact object
    · exact absurd alive deleting
  have gates := gates_again site lists answers svc again againLists _ object took.admitted.gates same.capability conflicts
  have serves := admitted_serves site lists answers svc store claimed alloc plan took.admitted
  have excused := found_again_excused site answers again svc alloc plan took.verified observation seen same
  have apart := steer_apart_from_repair svc.spec
    (steeredPathView svc.spec (planOrder plan) alloc.serviceSIDs site.facts.spineLinks) observation
    (mainRefusal site again plan) (mainRefusal site answers plan)
  have seenAgain : observed site again svc alloc plan = .ok observation := by
    rw [← seen, observed, observed]
    cases steeredPathView svc.spec (planOrder plan) alloc.serviceSIDs site.facts.spineLinks with
    | none => rfl
    | some view => simp only [observePath, same.path]
  generalize (reconcile site lists answers svc (startPass svc store)).1 = pass at left object gates ⊢
  obtain ⟨status, finalizers, kept, stored⟩ := object
  rw [stored] at gates ⊢
  have settled : SteadyStatus svc alloc (planHashes site.digest plan) activePath status := by
    have settled := left.settled
    rw [stored] at settled
    exact settled
  have reused : reuseAllocation { svc with status, finalizers } (correlationID svc) site.facts.locators = some alloc :=
    serves_reused { svc with status, finalizers } (correlationID svc) site.facts.locators alloc settled.allocations
      settled.correlated serves
  have hashed : unchangedPlan site { svc with status, finalizers } plan = true := by
    rw [unchangedPlan]
    change hashesEqual status.configHashes _ = true
    rw [settled.hashes]
    exact plan_hashes_equal site.digest _ _ _ plan took.admitted.rendered
  rw [gates_drive site againLists again { svc with status, finalizers } againStore alloc plan gates alive reused took.admitted.rendered]
  rw [drive_stages_quiet_iff site again { svc with status, finalizers } againStore alloc plan hashed activePath observation _ seenAgain rfl
    (apart.1.trans (outcome ▸ served)) excused (taken.trans (outcome ▸ apart.2.symm)) ⟨settled.conditions, settled.allocations,
      settled.activePath, settled.probed, settled.hashes, settled.applied, settled.correlated⟩]
  change status.observedGeneration = svc.generation ↔ _
  have generation : pass.stored.status.observedGeneration = status.observedGeneration := by rw [stored]
  rw [← generation]
  by_cases lost : driftLost site answers svc alloc plan
  · rw [left.stale lost]
    constructor
    · exact fun current condition => condition.2.2 current
    · exact fun condition => not_not.mp fun stale => condition ⟨lost.1, lost.2, stale⟩
  · constructor
    · exact fun _ condition => lost ⟨condition.1, condition.2.1⟩
    · exact fun _ => left.current lost

end Next

-- The lab's red again, after its activation.
def labSteadyAnswers : Answers := labAnswers 7 "192.168.1.0/24" "192.168.2.0/24"

theorem lab_steady_state :
    resultOf (labActivation labSteadyAnswers labFinalized).2 = resync ∧
      ∃ alloc plan claimed, Admitted labSite labAlone labSteadyAnswers labFinalized {} alloc plan claimed ∧
        ∀ (again : Answers) (againLists : ConflictLists) (againStore : Store),
          SameAnswers labSteadyAnswers again (lastStage labSite labSteadyAnswers labFinalized alloc plan) →
          checkConflicts (labActivation labSteadyAnswers labFinalized).1.stored againLists = checkConflicts labFinalized labAlone →
          (QuietPass (reconcile labSite againLists again (labActivation labSteadyAnswers labFinalized).1.stored
              (startPass (labActivation labSteadyAnswers labFinalized).1.stored againStore)) ↔
            ¬ (repaired labSite labSteadyAnswers labFinalized alloc plan = true ∧ labSteadyAnswers.patch .drift = false ∧
              labFinalized.status.observedGeneration ≠ labFinalized.generation)) :=
  have returned : resultOf (labActivation labSteadyAnswers labFinalized).2 = resync := by decide +kernel
  ⟨returned, steady_state_iff labSite labAlone labSteadyAnswers labFinalized {} returned⟩

/- Red is edited to name an alternate spine, which leaves its plan as it is; then a check
   fails, the record of the drift does not land, and the repair verifies clean. -/
def labEdited : SRv6Service :=
  { (labActivation labSteadyAnswers labFinalized).1.stored with
    generation := 2
    spec := { labSpec "red" "wan1" with path := { alternateSpine := "spine02" } } }

def labDriftAnswers : Answers :=
  { labSteadyAnswers with
    verify :=
      { labSteadyAnswers.verify with
        checks := fun stage _ =>
          .ok (if stage = .main then ⟨"", false, "", ""⟩ :: List.replicate 7 ⟨"", true, "", ""⟩ else List.replicate 8 ⟨"", true, "", ""⟩) }
    patch := fun place => place ≠ .drift }

def labRepairedPass : Pass × Except ReconcileResult ReconcileResult :=
  reconcile labSite labAlone labDriftAnswers labEdited (startPass labEdited {})

-- The next pass over the same answers patches the status once more.
theorem lab_steady_state_broken :
    resultOf labRepairedPass.2 = resync ∧ SameAnswers labDriftAnswers labSteadyAnswers .repair ∧
      checkConflicts labRepairedPass.1.stored labAlone = checkConflicts labEdited labAlone ∧
      ¬ QuietPass (reconcile labSite labAlone labSteadyAnswers labRepairedPass.1.stored (startPass labRepairedPass.1.stored {})) := by
  refine ⟨by decide +kernel, ⟨rfl, rfl, ?_, rfl⟩, by decide +kernel, by decide +kernel⟩
  funext node
  rfl

end AgenticNetops.Srv6service
