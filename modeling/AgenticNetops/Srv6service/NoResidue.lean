import AgenticNetops.Srv6service.ReadyWrites
import AgenticNetops.Srv6service.Reuse
import AgenticNetops.Srv6service.World

set_option autoImplicit false

/- Which ops of a service are in effect when Ready=True is written, against the plan
   its status records. A render that was applied but never verified is recorded
   nowhere, and no later pass removes it. -/
namespace AgenticNetops.Srv6service

open GoText Api Kuid Kubenet Fabricplan Pending Runs

-- How many units an op runs as.
def unitCount (op : SRv6Op) : Nat := if op.onClient = "" ∧ op.gcu ≠ [] then 1 else op.shell.length

theorem units_length (vrfTable : String → String) (op : SRv6Op) : (SRv6Op.units vrfTable op).length = unitCount op := by
  unfold SRv6Op.units unitCount
  by_cases client : op.onClient = ""
  · by_cases patch : op.gcu = [] <;> simp [client, patch]
  · simp [client]

-- The ops of which something ran when `ran` units did.
def opsReached : Nat → List SRv6Op → List SRv6Op
  | _, [] => []
  | 0, _ :: _ => []
  | ran + 1, op :: rest => op :: opsReached (ran + 1 - unitCount op) rest

def Call.executedOps (call : Call) : List SRv6Op :=
  match call.answer with
  | .ok => call.plan.ops
  | .rejected ran _ | .transport ran _ => opsReached ran call.plan.ops
  | .permanent _ => []

-- An op of the service that ran on the node and that no later rollback there undid.
def InEffect (log : List Executed) (uid node : String) (op : SRv6Op) : Prop :=
  ∃ e, InForce log e ∧ e.uid = uid ∧ e.call.node = node ∧ op ∈ e.call.executedOps

-- The plan that status.appliedSpec and status.allocations stand for.
def recordedPlan (site : Site) (status : SRv6ServiceStatus) : Option SRv6Plan :=
  match status.appliedSpec, status.allocations with
  | some spec, some recorded =>
      match serviceSIDs spec site.facts.locators with
      | .ok sids => (buildPlan spec ⟨recorded, sids⟩ site.facts).toOption
      | .error _ => none
  | _, _ => none

/- The ops in effect are those of the recorded plan, on every node. -/
def Exact (site : Site) (w : World) (uid : String) : Prop :=
  ∃ svc plan, w.find uid = some svc ∧ recordedPlan site svc.status = some plan ∧
    svc.status.configHashes = planHashes site.digest plan ∧
    ∀ node op, InEffect w.log uid node op ↔ op ∈ (planNode plan node).ops

-- A pass that writes Ready=True leaves exactly the recorded plan in effect.
def ReadyExact (site : Site) (w : World) : Action → Prop
  | .reconcile uid networks answers =>
      ∀ svc, w.find uid = some svc → ReadyWritten (w.pass site svc networks answers) →
        ∀ w', Step site w (.reconcile uid networks answers) w' → Exact site w' uid
  | _ => True

section Cover
variable (site : Site) (answers : Answers) (svc : SRv6Service) (alloc : Allocation) (plan : SRv6Plan)

-- The plan before, as the removal of an update renders it.
def previousPlan : Option SRv6Plan :=
  if unchangedPlan site svc plan then none
  else svc.status.appliedSpec.bind fun applied => (buildPlan applied alloc site.facts).toOption

/- The removal of the update undoes the render: its node lost an op, the executor
   answers OK, and the rollback of the previous plan has every step of the render's. -/
def RemovedBy (e : Executed) : Prop :=
  ∃ prev ∈ previousPlan site svc alloc plan, e.call.node ∈ diffNodes prev plan ∧
    answers.apply .removal e.call.node = .ok ∧ Undoes (planNode prev e.call.node) e.call.plan

instance (e : Executed) : Decidable (RemovedBy site answers svc alloc plan e) :=
  inferInstanceAs (Decidable (∃ prev ∈ previousPlan site svc alloc plan, e.call.node ∈ diffNodes prev plan ∧
    answers.apply .removal e.call.node = .ok ∧ Undoes (planNode prev e.call.node) e.call.plan))

-- Every render in force stays within the plan, or the removal undoes it.
def ResidueCovered (log : List Executed) : Prop :=
  ∀ e ∈ log, InForce log e → e.uid = svc.uid →
    (∀ op ∈ e.call.executedOps, op ∈ (planNode plan e.call.node).ops) ∨ RemovedBy site answers svc alloc plan e

-- Where the pass applies nothing, the plan is in effect already.
def NothingMissing (log : List Executed) : Prop :=
  unchangedPlan site svc plan = true → repairs site answers svc alloc plan = false →
    ∀ node ∈ planOrder plan, ∀ op ∈ (planNode plan node).ops,
      ∃ e ∈ log, InForce log e ∧ e.uid = svc.uid ∧ e.call.node = node ∧ op ∈ e.call.executedOps

end Cover

-- The allocations and the plan that a pass drives.
def passPlan (site : Site) (answers : Answers) (svc : SRv6Service) (store : Store) : Option (Allocation × SRv6Plan) :=
  let claimed : Option Allocation :=
    match reuseAllocation svc (correlationID svc) site.facts.locators with
    | some alloc => some alloc
    | none => (allocate store svc.spec (correlationID svc) site.facts.locators answers.kuid).2.toOption
  claimed.bind fun alloc => (buildPlan svc.spec alloc site.facts).toOption.map fun plan => (alloc, plan)

/- The condition on the state before a pass that writes Ready=True: whatever the service
   has in effect is in the plan or goes with the removal, and nothing is missing where
   nothing is applied. -/
def CoversEarlier (site : Site) (w : World) : Action → Prop
  | .reconcile uid networks answers =>
      ∀ svc ∈ w.find uid, ReadyWritten (w.pass site svc networks answers) →
        ∀ found ∈ passPlan site answers svc w.store,
          ResidueCovered site answers svc found.1 found.2 w.log ∧ NothingMissing site answers svc found.1 found.2 w.log
  | _ => True

instance (site : Site) (answers : Answers) (svc : SRv6Service) (alloc : Allocation) (plan : SRv6Plan) (log : List Executed) :
    Decidable (ResidueCovered site answers svc alloc plan log) := by
  unfold ResidueCovered
  infer_instance

instance (site : Site) (answers : Answers) (svc : SRv6Service) (alloc : Allocation) (plan : SRv6Plan) (log : List Executed) :
    Decidable (NothingMissing site answers svc alloc plan log) := by
  unfold NothingMissing
  infer_instance

instance (site : Site) (w : World) (action : Action) : Decidable (CoversEarlier site w action) := by
  unfold CoversEarlier
  split <;> infer_instance

section Stages
variable (site : Site) (lists : ConflictLists) (answers : Answers) (svc : SRv6Service) (store : Store)
  (alloc : Allocation) (plan : SRv6Plan)

theorem admitted_plan (claimed : Store) (admitted : Admitted site lists answers svc store alloc plan claimed) :
    passPlan site answers svc store = some (alloc, plan) := by
  unfold passPlan
  cases admitted.claims with
  | inl reused => simp [reused.1, admitted.rendered, Except.toOption]
  | inr made => simp [made.1, made.2, admitted.rendered, Except.toOption]

-- What the status of a Ready write records is the plan that the pass drove.
theorem ready_recorded (claimed : Store) (admitted : Admitted site lists answers svc store alloc plan claimed)
    (status : SRv6ServiceStatus) (new : shownOf status = readyShown site svc alloc plan) :
    recordedPlan site status = some plan ∧ status.configHashes = planHashes site.digest plan := by
  simp only [shownOf, readyShown, newRecord, recordOf, Prod.mk.injEq] at new
  obtain ⟨⟨allocations, appliedSpec, _⟩, hashes⟩ := new
  refine ⟨?_, hashes⟩
  have sids := claimed_sids site answers svc store alloc claimed admitted.claims
  unfold recordedPlan
  rw [allocations, appliedSpec]
  simp [sids, admitted.rendered, Except.toOption]

theorem apply_calls_through (place : CallSite) (accepted : Accepted answers plan place) :
    applyCalls answers svc alloc plan place = logged svc alloc ((planOrder plan).map (callNode answers.apply place plan)) := by
  have through : ∀ node ∈ planOrder plan, ¬ applyStops answers.apply place node := fun node member => by
    simp [applyStops, accepted node member]
  rw [applyCalls, apply_plan_calls, reached_all _ _ through]

theorem removal_calls_through (prev : SRv6Plan) (removed : ∀ node ∈ diffNodes prev plan, ¬ removalStops answers.apply node) :
    removalCalls answers svc alloc plan prev =
      logged svc alloc ((diffNodes prev plan).map (callNode answers.apply .removal prev)) := by
  rw [removalCalls, remove_nodes_calls, reached_all _ _ removed]

-- The effect of a whole application: the plan, on every node.
theorem apply_calls_effect (place : CallSite) (applies : place.isRollback = false) (accepted : Accepted answers plan place)
    (node : String) (op : SRv6Op) :
    (∃ e ∈ applyCalls answers svc alloc plan place, Applied e ∧ e.call.node = node ∧ op ∈ e.call.executedOps) ↔
      op ∈ (planNode plan node).ops := by
  rw [apply_calls_through answers svc alloc plan place accepted, logged]
  constructor
  · intro ran
    obtain ⟨e, member, _, here, executed⟩ := ran
    obtain ⟨call, called, rfl⟩ := List.mem_map.mp member
    obtain ⟨name, listed, rfl⟩ := List.mem_map.mp called
    have same : name = node := here
    subst same
    have answered : answers.apply place name = .ok := accepted name listed
    simpa [Call.executedOps, callNode, answered] using executed
  · intro planned
    have listed : node ∈ planOrder plan := by
      rw [plan_order_mem]
      by_contra absent
      rw [plan_node_of_not_mem plan node absent] at planned
      cases planned
    have answered : answers.apply place node = .ok := accepted node listed
    refine ⟨_, List.mem_map_of_mem (List.mem_map_of_mem listed), ⟨applies, ?_⟩, rfl, ?_⟩
    · simp [callNode, answered, ApplyAnswer.ranNothing]
    · simpa [Call.executedOps, callNode, answered] using planned

theorem apply_calls_settle (place : CallSite) (applies : place.isRollback = false) (later e : Executed)
    (called : later ∈ applyCalls answers svc alloc plan place) : ¬ RollsBack later e := by
  obtain ⟨call, made, rfl⟩ := List.mem_map.mp called
  obtain ⟨node, _, rfl⟩ := apply_plan_mem answers.apply place plan call made
  intro undone
  have rollback := undone.2.2.1
  rw [callNode, applies] at rollback
  cases rollback

theorem apply_calls_force (place : CallSite) (applies : place.isRollback = false) (e : Executed) :
    InForce (applyCalls answers svc alloc plan place) e ↔ e ∈ applyCalls answers svc alloc plan place ∧ Applied e :=
  open_unsettled Applied RollsBack _ e fun later called => apply_calls_settle answers svc alloc plan place applies later e called

-- What the removal of an update takes back.
theorem removal_calls_roll (prev : SRv6Plan) (removed : ∀ node ∈ diffNodes prev plan, ¬ removalStops answers.apply node)
    (e : Executed) (own : e.uid = svc.uid) :
    (∃ later ∈ removalCalls answers svc alloc plan prev, RollsBack later e) ↔
      e.call.node ∈ diffNodes prev plan ∧ answers.apply .removal e.call.node = .ok ∧
        Undoes (planNode prev e.call.node) e.call.plan := by
  rw [removal_calls_through answers svc alloc plan prev removed]
  constructor
  · intro rolled
    obtain ⟨later, member, _, here, _, answered, undoes⟩ := rolled
    obtain ⟨call, called, rfl⟩ := List.mem_map.mp member
    obtain ⟨node, listed, rfl⟩ := List.mem_map.mp called
    have same : node = e.call.node := here
    subst same
    exact ⟨listed, answered, undoes⟩
  · intro covered
    exact ⟨_, List.mem_map_of_mem (List.mem_map_of_mem covered.1), own.symm, rfl, rfl, covered.2.1, covered.2.2⟩

variable (calls : List Executed) (ready : ReadyCalls site answers svc alloc plan calls)
include ready

theorem ready_calls_roll (e : Executed) (own : e.uid = svc.uid) :
    (∃ later ∈ calls, RollsBack later e) ↔ RemovedBy site answers svc alloc plan e := by
  have kept : ∀ place : CallSite, place.isRollback = false → previousPlan site svc alloc plan = none →
      ((∃ later ∈ applyCalls answers svc alloc plan place, RollsBack later e) ↔ RemovedBy site answers svc alloc plan e) := by
    intro place applies none
    refine iff_of_false ?_ ?_
    · intro rolled
      obtain ⟨later, called, rolls⟩ := rolled
      exact apply_calls_settle answers svc alloc plan place applies later e called rolls
    · intro removed
      obtain ⟨prev, here, _⟩ := removed
      rw [none] at here
      cases here
  cases ready with
  | first fresh changed accepted => exact kept .firstApply rfl (by simp [previousPlan, changed, fresh])
  | update applied prev recorded rendered changed removed accepted =>
      have previous : previousPlan site svc alloc plan = some prev := by
        simp [previousPlan, changed, recorded, rendered, Except.toOption]
      rw [RemovedBy, previous]
      have rolls := removal_calls_roll answers svc alloc plan prev removed e own
      constructor
      · intro rolled
        obtain ⟨later, called, undone⟩ := rolled
        cases List.mem_append.mp called with
        | inl removal => exact ⟨prev, rfl, rolls.mp ⟨later, removal, undone⟩⟩
        | inr apply => exact absurd undone (apply_calls_settle answers svc alloc plan .updateApply rfl later e apply)
      · intro covered
        obtain ⟨other, same, covers⟩ := covered
        cases same
        obtain ⟨later, called, undone⟩ := rolls.mpr covers
        exact ⟨later, List.mem_append_left _ called, undone⟩
  | untouched same clean =>
      refine iff_of_false (by simp) ?_
      intro removed
      obtain ⟨prev, here, _⟩ := removed
      simp [previousPlan, same] at here
  | repaired same drifted accepted => exact kept .driftApply rfl (by simp [previousPlan, same])

theorem ready_calls_fresh (node : String) (op : SRv6Op) :
    InEffect calls svc.uid node op ↔
      ¬ (unchangedPlan site svc plan = true ∧ repairs site answers svc alloc plan = false) ∧
        op ∈ (planNode plan node).ops := by
  have fresh : ∀ place : CallSite, place.isRollback = false → Accepted answers plan place →
      (InEffect (applyCalls answers svc alloc plan place) svc.uid node op ↔ op ∈ (planNode plan node).ops) := by
    intro place applies accepted
    rw [← apply_calls_effect answers svc alloc plan place applies accepted node op]
    constructor
    · intro effect
      obtain ⟨e, force, _, here, ran⟩ := effect
      obtain ⟨member, applied⟩ := (apply_calls_force answers svc alloc plan place applies e).mp force
      exact ⟨e, member, applied, here, ran⟩
    · intro executed
      obtain ⟨e, member, applied, here, ran⟩ := executed
      have force := (apply_calls_force answers svc alloc plan place applies e).mpr ⟨member, applied⟩
      exact ⟨e, force, (logged_uid svc alloc _ e member).1, here, ran⟩
  cases ready with
  | first _ changed accepted => simp [fresh .firstApply rfl accepted, changed]
  | update applied prev _ _ changed removed accepted =>
      rw [← fresh .updateApply rfl accepted]
      simp only [changed, Bool.false_eq_true, false_and, not_false_eq_true, true_and]
      constructor
      · intro effect
        obtain ⟨e, force, rest⟩ := effect
        cases (open_append Applied RollsBack _ _ e).mp force with
        | inl removal =>
            obtain ⟨member, applied, _⟩ := open_mem Applied RollsBack _ e removal.1
            obtain ⟨call, called, rfl⟩ := List.mem_map.mp member
            obtain ⟨name, _, rfl⟩ := remove_nodes_mem answers.apply prev call plan called
            cases applied
        | inr apply => exact ⟨e, apply, rest⟩
      · intro effect
        obtain ⟨e, force, rest⟩ := effect
        exact ⟨e, (open_append Applied RollsBack _ _ e).mpr (Or.inr force), rest⟩
  | untouched same clean =>
      refine iff_of_false ?_ (by simp [same, clean])
      intro effect
      obtain ⟨e, force, _⟩ := effect
      cases force
  | repaired same drifted accepted => simp [fresh .driftApply rfl accepted, drifted]

/- In effect behind the pass: what was before and its removal does not undo, and its
   own plan where it applies one. -/
theorem ready_effect (log : List Executed) (node : String) (op : SRv6Op) :
    InEffect (log ++ calls) svc.uid node op ↔
      (∃ e, InForce log e ∧ e.uid = svc.uid ∧ e.call.node = node ∧ op ∈ e.call.executedOps ∧
        ¬ RemovedBy site answers svc alloc plan e) ∨
      (¬ (unchangedPlan site svc plan = true ∧ repairs site answers svc alloc plan = false) ∧
        op ∈ (planNode plan node).ops) := by
  rw [← ready_calls_fresh site answers svc alloc plan calls ready node op]
  constructor
  · intro effect
    obtain ⟨e, force, own, here, ran⟩ := effect
    cases (open_append Applied RollsBack log calls e).mp force with
    | inl earlier =>
        refine Or.inl ⟨e, earlier.1, own, here, ran, fun removed => ?_⟩
        obtain ⟨later, called, rolls⟩ := (ready_calls_roll site answers svc alloc plan calls ready e own).mpr removed
        exact earlier.2 later called rolls
    | inr fresh => exact Or.inr ⟨e, fresh, own, here, ran⟩
  · intro effect
    cases effect with
    | inl earlier =>
        obtain ⟨e, force, own, here, ran, kept⟩ := earlier
        refine ⟨e, (open_append Applied RollsBack log calls e).mpr (Or.inl ⟨force, fun later called rolls => ?_⟩), own, here, ran⟩
        exact kept ((ready_calls_roll site answers svc alloc plan calls ready e own).mp ⟨later, called, rolls⟩)
    | inr fresh =>
        obtain ⟨e, force, rest⟩ := fresh
        exact ⟨e, (open_append Applied RollsBack log calls e).mpr (Or.inr force), rest⟩

theorem ready_exact_calls_iff (log : List Executed) :
    (∀ node op, InEffect (log ++ calls) svc.uid node op ↔ op ∈ (planNode plan node).ops) ↔
      ResidueCovered site answers svc alloc plan log ∧ NothingMissing site answers svc alloc plan log := by
  have effect := ready_effect site answers svc alloc plan calls ready log
  constructor
  · intro exact
    constructor
    · intro e _ force own
      by_cases removed : RemovedBy site answers svc alloc plan e
      · exact Or.inr removed
      · exact Or.inl fun op ran =>
          (exact e.call.node op).mp ((effect e.call.node op).mpr (Or.inl ⟨e, force, own, rfl, ran, removed⟩))
    · intro same clean node _ op planned
      cases (effect node op).mp ((exact node op).mpr planned) with
      | inl earlier =>
          obtain ⟨e, force, own, here, ran, _⟩ := earlier
          exact ⟨e, (open_mem Applied RollsBack log e force).1, force, own, here, ran⟩
      | inr applied => exact absurd ⟨same, clean⟩ applied.1
  · intro covered node op
    rw [effect node op]
    constructor
    · intro cases
      cases cases with
      | inl earlier =>
          obtain ⟨e, force, own, here, ran, kept⟩ := earlier
          have inPlan := (covered.1 e (open_mem Applied RollsBack log e force).1 force own).resolve_right kept
          exact here ▸ inPlan op ran
      | inr applied => exact applied.2
    · intro planned
      by_cases idle : unchangedPlan site svc plan = true ∧ repairs site answers svc alloc plan = false
      · have listed : node ∈ planOrder plan := by
          rw [plan_order_mem]
          by_contra absent
          rw [plan_node_of_not_mem plan node absent] at planned
          cases planned
        obtain ⟨e, _, force, own, here, ran⟩ := covered.2 idle.1 idle.2 node listed op planned
        refine Or.inl ⟨e, force, own, here, ran, fun removed => ?_⟩
        obtain ⟨prev, previous, _⟩ := removed
        simp [previousPlan, idle.1] at previous
      · exact Or.inr ⟨idle, planned⟩

end Stages

section Step
variable (site : Site) (w : World) (action : Action)

-- Ready=True is written over the exact plan if and only if the state before was covered.
theorem ready_exact_step_iff (svc : SRv6Service) (networks : List Network) (answers : Answers)
    (found : w.find svc.uid = some svc) (written : ReadyWritten (w.pass site svc networks answers)) (w' : World)
    (step : Step site w (.reconcile svc.uid networks answers) w') :
    Exact site w' svc.uid ↔ ∀ found ∈ passPlan site answers svc w.store,
      ResidueCovered site answers svc found.1 found.2 w.log ∧ NothingMissing site answers svc found.1 found.2 w.log := by
  have ready := reconcile_ready_end site (w.lists svc networks answers) answers svc w.store
  have ended := reconcile_ends site (w.lists svc networks answers) answers svc w.store
  change ReadyEnd site _ answers svc w.store (w.pass site svc networks answers) ∧ _ at ready
  change PassEnd site _ answers svc w.store (w.pass site svc networks answers) at ended
  obtain ⟨alloc, plan, claimed, admitted, calls, shown⟩ := ready.1 written
  have alive := ready.2 written
  have reached : w' =
      { services := putObject w.services (w.pass site svc networks answers).stored,
        store := (w.pass site svc networks answers).store,
        log := w.log ++ (w.pass site svc networks answers).calls } := by
    simpa [Step, World.next, found] using step.symm
  generalize w.pass site svc networks answers = pass at ended written calls shown reached
  have same : SameObject svc pass.stored :=
    (pass_stored site _ answers svc w.store pass ended).resolve_right fun deleted => deleted.2.1 alive
  have present : w'.find svc.uid = some pass.stored := by
    have uid := same_object_uid svc pass.stored same
    have kept := same_object_finalizer svc pass.stored same (passes_gates_finalizer site _ answers svc admitted.gates)
    rw [reached, World.find, ← uid]
    exact find_put_same w.services pass.stored (by simp [isGone, kept.2]) svc (by rw [uid]; exact found)
  obtain ⟨recorded, hashes⟩ := ready_recorded site _ answers svc w.store alloc plan claimed admitted pass.stored.status shown
  have log : w'.log = w.log ++ pass.calls := by rw [reached]
  rw [admitted_plan site _ answers svc w.store alloc plan claimed admitted]
  have exactCalls := ready_exact_calls_iff site answers svc alloc plan pass.calls calls w.log
  constructor
  · intro exactly other here
    obtain ⟨stored, shownPlan, there, named, _, effect⟩ := exactly
    rw [present, Option.some.injEq] at there
    subst there
    rw [recorded, Option.some.injEq] at named
    subst named
    cases here
    rw [log] at effect
    exact exactCalls.mp effect
  · intro covered
    refine ⟨pass.stored, plan, present, recorded, hashes, ?_⟩
    rw [log]
    exact exactCalls.mpr (covered (alloc, plan) rfl)

theorem ready_exact_guard_iff (possible : ∃ w', Step site w action w') :
    CoversEarlier site w action ↔ ReadyExact site w action := by
  obtain ⟨w', step⟩ := possible
  cases action with
  | create svc => exact Iff.rfl
  | edit uid spec => exact Iff.rfl
  | delete uid now => exact Iff.rfl
  | reconcile uid networks answers =>
      constructor
      · intro covers svc found written final last
        obtain ⟨rfl, _⟩ := find_uid w uid svc found
        exact (ready_exact_step_iff site w svc networks answers found written final last).mpr (covers svc found written)
      · intro exactly svc found written
        obtain ⟨rfl, _⟩ := find_uid w uid svc found
        exact (ready_exact_step_iff site w svc networks answers found written w' step).mp (exactly svc found written w' step)

end Step

/- In a run, every Ready=True stands over exactly the recorded plan if and only if every
   pass that writes it starts from a state it covers. -/
theorem ready_exact_iff (site : Site) (actions : List Action) (w : World) :
    Reached site (CoversEarlier site) actions w ↔ Reached site (ReadyExact site) actions w := by
  constructor
  · intro run
    induction run with
    | start => exact .start _
    | snoc labels mid label final _ covers last ih =>
        exact .snoc _ labels mid label final ih ((ready_exact_guard_iff site mid label ⟨final, last⟩).mp covers) last
  · intro run
    induction run with
    | start => exact .start _
    | snoc labels mid label final _ exactly last ih =>
        exact .snoc _ labels mid label final ih ((ready_exact_guard_iff site mid label ⟨final, last⟩).mpr exactly) last

/- The lab's red service is applied on wan1 of both leaves and the verification gets no
   answer; then its spec names wan2. -/
def labMovedUnverified : List Action :=
  [.create (labService "red" "wan1"), .reconcile "uid-red" [] (labAnswers 7 "192.168.1.0/24" "192.168.2.0/24"),
   .reconcile "uid-red" [] { labAnswers 7 "192.168.1.0/24" "192.168.2.0/24" with verify := labSilent },
   .edit "uid-red" (labSpec "red" "wan2")]

def labMovedPass : Action := .reconcile "uid-red" [] (labAnswers 7 "192.168.1.0/24" "192.168.2.0/24")

-- Ready=True is written and wan1 still carries the service.
theorem lab_residue_at_ready :
    Reached labSite (fun _ _ => True) labMovedUnverified ((World.play labSite labMovedUnverified).getD {}) ∧
    ¬ ReadyExact labSite ((World.play labSite labMovedUnverified).getD {}) labMovedPass := by
  refine ⟨world_played labSite (fun _ _ => True) labMovedUnverified (by decide), fun exactly => ?_⟩
  have possible : (World.next labSite ((World.play labSite labMovedUnverified).getD {}) labMovedPass).isSome := by decide
  have covers := (ready_exact_guard_iff labSite _ labMovedPass (Option.isSome_iff_exists.mp possible)).mpr exactly
  revert covers
  decide

end AgenticNetops.Srv6service
