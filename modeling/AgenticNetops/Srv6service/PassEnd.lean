import AgenticNetops.Srv6service.Calls
import AgenticNetops.Srv6service.Reconcile

set_option autoImplicit false

/- How a pass can end: which calls it has made, what it did to the store of claims
   and what it has recorded. The history results read a pass through these ends
   only, and never unfold the pipeline again. -/
namespace AgenticNetops.Srv6service

open GoText Api Kuid Fabricplan Exits

-- The part of a status that says what the service has been given and has applied.
abbrev Record := Option Api.Allocations × Option SRv6ServiceSpec × String

def recordOf (status : SRv6ServiceStatus) : Record := (status.allocations, status.appliedSpec, status.correlationID)

theorem merge_record (stored base next : SRv6ServiceStatus) :
    recordOf (mergeStatus stored base next) =
      (mergeField stored.allocations base.allocations next.allocations,
        mergeField stored.appliedSpec base.appliedSpec next.appliedSpec,
        mergeField stored.correlationID base.correlationID next.correlationID) := rfl

-- A patch that does not touch the record leaves the server's.
theorem merge_record_same (stored base next : SRv6ServiceStatus) (same : recordOf next = recordOf base) :
    recordOf (mergeStatus stored base next) = recordOf stored := by
  simp only [recordOf, Prod.mk.injEq] at same
  obtain ⟨allocations, appliedSpec, correlation⟩ := same
  rw [merge_record, allocations, appliedSpec, correlation]
  simp [mergeField, recordOf]

theorem merge_field_of_base {α : Type} [DecidableEq α] (base next : α) : mergeField base base next = next := by
  by_cases same : base = next <;> simp [mergeField, same]

theorem merge_field_of_next {α : Type} [DecidableEq α] (base next : α) : mergeField next base next = next := by
  by_cases same : base = next <;> simp [mergeField, same]

/- Where the server and the copy each hold the old record or the new one, a patch to
   the new one ends in one of the two, whole. -/
theorem merge_record_new (stored base next : SRv6ServiceStatus) (old : Record)
    (server : recordOf stored = old ∨ recordOf stored = recordOf next)
    (copy : recordOf base = old ∨ recordOf base = recordOf next) :
    recordOf (mergeStatus stored base next) = old ∨ recordOf (mergeStatus stored base next) = recordOf next := by
  rcases copy with copy | copy
  · right
    rcases server with server | server
    · have agree := server.trans copy.symm
      simp only [recordOf, Prod.mk.injEq] at agree
      rw [merge_record, agree.1, agree.2.1, agree.2.2, merge_field_of_base, merge_field_of_base, merge_field_of_base]
      rfl
    · have agree := server
      simp only [recordOf, Prod.mk.injEq] at agree
      rw [merge_record, agree.1, agree.2.1, agree.2.2, merge_field_of_next, merge_field_of_next, merge_field_of_next]
      rfl
  · rw [merge_record_same stored base next copy.symm]
    exact server

-- The stored object is still the service, its status and added finalizers apart.
def SameObject (svc stored : SRv6Service) : Prop :=
  ∃ status finalizers, (∀ finalizer ∈ svc.finalizers, finalizer ∈ finalizers) ∧
    stored = { svc with status, finalizers }

/- Where a pass stands: the store it has come to, the calls it has made, and the
   record, in the API server and in the copy. -/
structure At (svc : SRv6Service) (store : Store) (made : List Executed → Prop) (records : Record → Prop)
    (pass : Pass) : Prop where
  store : pass.store = store
  calls : made pass.calls
  object : SameObject svc pass.stored
  record : records (recordOf pass.status)
  stored : records (recordOf pass.stored.status)

theorem same_object_uid (svc stored : SRv6Service) (same : SameObject svc stored) : stored.uid = svc.uid := by
  obtain ⟨_, _, _, rfl⟩ := same
  rfl

theorem same_object_finalizer (svc stored : SRv6Service) (same : SameObject svc stored)
    (finalizer : hasSRv6Finalizer svc) : hasSRv6Finalizer stored ∧ stored.finalizers ≠ [] := by
  obtain ⟨_, finalizers, kept, rfl⟩ := same
  have present : srv6Finalizer ∈ finalizers := kept srv6Finalizer (by simpa [hasSRv6Finalizer] using finalizer)
  exact ⟨by simpa [hasSRv6Finalizer] using present, List.ne_nil_of_mem present⟩

section Writes
variable (answers : Answers) (svc : SRv6Service) (store : Store) (made : List Executed → Prop) (records : Record → Prop)

theorem patched_at (pass : Pass) (next : SRv6ServiceStatus) (here : At svc store made records pass)
    (merged : records (recordOf (mergeStatus pass.stored.status pass.status next))) :
    At svc store made records (pass.patched next) := by
  obtain ⟨status, finalizers, kept, same⟩ := here.object
  exact ⟨here.store, here.calls, ⟨_, finalizers, kept, by rw [Pass.patched, same]⟩, merged, merged⟩

-- A status patch that leaves the record as the copy has it keeps the pass where it stands.
theorem triple_patch_same (site : PatchSite) (next : SRv6ServiceStatus) (pass : Pass)
    (here : At svc store made records pass) (same : recordOf next = recordOf pass.status)
    (left : ReconcileResult → Pass → Prop) :
    Triple (fun s => s = pass) (patchStatus answers site next) (fun _ s => At svc store made records s) left := by
  rintro _ rfl
  unfold patchStatus
  by_cases lands : answers.patch site
  · rw [if_pos lands]
    refine patched_at svc store made records _ next here ?_
    rw [merge_record_same _ _ _ same]
    exact here.stored
  · rw [if_neg lands]
    exact here

theorem triple_refuse {α : Type} (ref : Refusal) (post : α → Pass → Prop) :
    Triple (At svc store made records) (refuse answers svc ref : PassM α) post
      (fun _ s => At svc store made records s) := by
  refine triple_read_bind _ _ _ _ fun pass here => ?_
  refine triple_bind _ _ _ _ (fun _ s => At svc store made records s) _ ?_ fun patched => ?_
  · exact triple_patch_same answers svc store made records .refusal
      (setRefusal answers.now pass.status svc.generation ref) pass here rfl _
  · have ends : ∀ result, Triple (At svc store made records) (leave result : PassM α) post
        (fun _ s => At svc store made records s) := fun result => triple_leave post (fun _ s => At svc store made records s) result
    exact triple_ite _ _ _ _ _ _ (fun _ => ends .failed) fun _ =>
      triple_ite _ _ _ _ _ _ (fun _ => ends .settled) fun _ => ends (.requeueAfter failureBackoff)

end Writes

/- A gate lets a pass through as it came; a refused one ends where a refusal ends. -/
section Gate
variable (answers : Answers) (svc : SRv6Service) (pre : Pass → Prop) (left : ReconcileResult → Pass → Prop)

theorem triple_gate (refused : ∀ ref, Triple pre (refuse answers svc ref : PassM Unit) (fun _ _ => False) left)
    (refusal : Option Refusal) : Triple pre (refuseIf answers svc refusal) (fun _ s => refusal = none ∧ pre s) left := by
  cases refusal with
  | none => exact fun s here => ⟨rfl, here⟩
  | some ref =>
      exact triple_weaken _ _ _ _ _ _ _ (refused ref) (fun _ here => here) (fun _ _ impossible => impossible.elim)
        fun _ _ ended => ended

theorem triple_or_refuse {α : Type} (refused : ∀ ref, Triple pre (refuse answers svc ref : PassM α) (fun _ _ => False) left)
    (value : Except Refusal α) :
    Triple pre (orRefuse answers svc value) (fun result s => value = .ok result ∧ pre s) left := by
  cases value with
  | ok result => exact fun s here => ⟨rfl, here⟩
  | error ref =>
      exact triple_weaken _ _ _ _ _ _ _ (refused ref) (fun _ here => here) (fun _ _ impossible => impossible.elim)
        fun _ _ ended => ended

end Gate

-- The pass before its first step.
def startPass (svc : SRv6Service) (store : Store) : Pass := ⟨svc, svc.status, store, [], []⟩

section Live
variable (site : Site) (lists : ConflictLists) (answers : Answers) (svc : SRv6Service) (store : Store)

-- What the claim stage goes on with: recorded allocations, or freshly made ones.
def Claimed (alloc : Allocation) (claimed : Store) : Prop :=
  (reuseAllocation svc (correlationID svc) site.facts.locators = some alloc ∧ claimed = store) ∨
  (reuseAllocation svc (correlationID svc) site.facts.locators = none ∧
    allocate store svc.spec (correlationID svc) site.facts.locators answers.kuid = (claimed, .ok alloc))

-- A call on a node of the plan, from a live pass.
def PlanCall (apply : ApplyAnswers) (plan : SRv6Plan) (call : Call) : Prop :=
  ∃ place node, place ≠ .finalizeRollback ∧ node ∈ plan.keys ∧ call = callNode apply place plan node

-- A call of a live pass: for its own plan, or for the plan applied before.
def MadeFor (alloc : Allocation) (plan : SRv6Plan) (e : Executed) : Prop :=
  e.uid = svc.uid ∧ e.correlationID = correlationID svc ∧ e.alloc = alloc.allocations ∧
  (PlanCall answers.apply plan e.call ∨
    ∃ applied prev, svc.status.appliedSpec = some applied ∧ buildPlan applied alloc site.facts = .ok prev ∧
      PlanCall answers.apply prev e.call)

def newRecord (alloc : Allocation) : Record := (some alloc.allocations, some svc.spec, correlationID svc)

def OldOrNew (alloc : Allocation) (record : Record) : Prop :=
  record = recordOf svc.status ∨ record = newRecord svc alloc

def logged (alloc : Allocation) (calls : List Call) : List Executed :=
  calls.map fun call => ⟨svc.uid, correlationID svc, alloc.allocations, call⟩

-- The calls of a first application that a node refused.
def undoneCalls (plan : SRv6Plan) : List Call :=
  (applyPlan answers.apply .firstApply plan (planOrder plan)).1 ++
    rollbackPlan answers.apply .firstRollback plan (planOrder plan)

-- Every gate in front of the claims lets the service through.
def passesGates : Bool :=
  hasSRv6Finalizer svc && (validateSite svc.spec site.facts).isNone &&
    (match readCapability answers.capability with
      | .error _ => false
      | .ok cap => (checkCapability svc.spec cap).isNone && (checkSupported svc.spec cap).isNone) &&
    (checkConflicts svc lists).isNone

-- A pass that came through the gates with a plan.
structure Admitted (alloc : Allocation) (plan : SRv6Plan) (claimed : Store) : Prop where
  gates : passesGates site lists answers svc = true
  claims : Claimed site answers svc store alloc claimed
  rendered : buildPlan svc.spec alloc site.facts = .ok plan

def Calm (claims : Store) (pass : Pass) : Prop :=
  At svc claims (fun calls => calls = []) (fun record => record = recordOf svc.status) pass

def Driving (alloc : Allocation) (plan : SRv6Plan) (claimed : Store) (pass : Pass) : Prop :=
  At svc claimed (fun calls => ∀ e ∈ calls, MadeFor site answers svc alloc plan e) (OldOrNew svc alloc) pass

/- The ends of a live pass. It called nothing, with or without claiming; or it drove
   its plan; or it undid a refused first application and released the claims. -/
inductive LiveEnd (pass : Pass) : Prop
  | idle (here : Calm svc store pass)
  | claiming (claimed : Store) (result : Except StageError Allocation)
      (gates : passesGates site lists answers svc = true)
      (fresh : reuseAllocation svc (correlationID svc) site.facts.locators = none)
      (made : allocate store svc.spec (correlationID svc) site.facts.locators answers.kuid = (claimed, result))
      (here : Calm svc claimed pass)
  | driven (alloc : Allocation) (plan : SRv6Plan) (claimed : Store)
      (admitted : Admitted site lists answers svc store alloc plan claimed)
      (here : Driving site answers svc alloc plan claimed pass)
  | undone (alloc : Allocation) (plan : SRv6Plan) (claimed : Store)
      (admitted : Admitted site lists answers svc store alloc plan claimed)
      (first : svc.status.appliedSpec = none)
      (refused : ∃ node ∈ planOrder plan, applyStops answers.apply .firstApply node)
      (here : At svc (releaseAll claimed (correlationID svc) answers.kuid.release)
        (fun calls => calls = logged svc alloc (undoneCalls answers plan))
        (fun record => record = recordOf svc.status) pass)

theorem passes_gates_finalizer (passed : passesGates site lists answers svc = true) : hasSRv6Finalizer svc := by
  simp only [passesGates, Bool.and_eq_true] at passed
  exact passed.1.1.1

theorem passes_gates_conflict (passed : passesGates site lists answers svc = true) : checkConflicts svc lists = none := by
  simp only [passesGates, Bool.and_eq_true, Option.isNone_iff_eq_none] at passed
  exact passed.2

theorem start_calm (claims : Store) : Calm svc claims { startPass svc store with store := claims } :=
  ⟨rfl, rfl, ⟨svc.status, svc.finalizers, fun _ member => member, rfl⟩, rfl, rfl⟩

def claimedPass (claimed : Store) : Pass := { startPass svc store with store := claimed }

theorem drive_update_mem (apply : ApplyAnswers) (prev plan : SRv6Plan) (call : Call)
    (called : call ∈ (driveUpdate apply prev plan (planOrder plan)).1) : PlanCall apply plan call ∨ PlanCall apply prev call := by
  have removal : call ∈ (removeNodes apply prev (diffNodes prev plan)).1 → PlanCall apply prev call := fun called =>
    let ⟨node, listed, same⟩ := remove_nodes_mem apply prev call plan called
    ⟨.removal, node, by decide, listed, same⟩
  have fresh : call ∈ (applyPlan apply .updateApply plan (planOrder plan)).1 → PlanCall apply plan call := fun called =>
    let ⟨node, listed, same⟩ := apply_plan_mem apply .updateApply plan call called
    ⟨.updateApply, node, by decide, listed, same⟩
  have undone : call ∈ rollbackPlan apply .restoreRollback prev (planOrder prev) → PlanCall apply prev call := fun called =>
    let ⟨node, listed, same⟩ := rollback_plan_mem apply .restoreRollback prev call called
    ⟨.restoreRollback, node, by decide, listed, same⟩
  have redone : call ∈ (applyPlan apply .restoreApply prev (planOrder prev)).1 → PlanCall apply prev call := fun called =>
    let ⟨node, listed, same⟩ := apply_plan_mem apply .restoreApply prev call called
    ⟨.restoreApply, node, by decide, listed, same⟩
  unfold driveUpdate at called
  rcases removals : removeNodes apply prev (diffNodes prev plan) with ⟨removalCalls, _ | ⟨stopped, err⟩⟩
  · rw [removals] at called removal
    rcases applies : applyPlan apply .updateApply plan (planOrder plan) with ⟨applyCalls, _ | ⟨stopped, err⟩⟩
    · simp only [applies, List.mem_append] at called fresh
      rcases called with called | called
      · exact Or.inr (removal called)
      · exact Or.inl (fresh called)
    · simp only [applies, List.mem_append] at called fresh
      rcases called with ((called | called) | called) | called
      · exact Or.inr (removal called)
      · exact Or.inl (fresh called)
      · exact Or.inr (undone called)
      · exact Or.inr (redone called)
  · rw [removals] at called removal
    exact Or.inr (removal called)

variable (alloc : Allocation) (plan : SRv6Plan) (claimed : Store)

theorem made_in_plan (place : CallSite) (live : place ≠ .finalizeRollback) (calls : List Call)
    (inPlan : ∀ call ∈ calls, ∃ node ∈ plan.keys, call = callNode answers.apply place plan node) :
    ∀ e ∈ logged svc alloc calls, MadeFor site answers svc alloc plan e := by
  intro e member
  obtain ⟨call, called, rfl⟩ := List.mem_map.mp member
  obtain ⟨node, listed, same⟩ := inPlan call called
  exact ⟨rfl, rfl, rfl, Or.inl ⟨place, node, live, listed, same⟩⟩

theorem made_in_update (applied : SRv6ServiceSpec) (prev : SRv6Plan) (recorded : svc.status.appliedSpec = some applied)
    (prevRendered : buildPlan applied alloc site.facts = .ok prev) :
    ∀ e ∈ logged svc alloc (driveUpdate answers.apply prev plan (planOrder plan)).1, MadeFor site answers svc alloc plan e := by
  intro e member
  obtain ⟨call, called, rfl⟩ := List.mem_map.mp member
  rcases drive_update_mem answers.apply prev plan call called with inPlan | inPrev
  · exact ⟨rfl, rfl, rfl, Or.inl inPlan⟩
  · exact ⟨rfl, rfl, rfl, Or.inr ⟨applied, prev, recorded, prevRendered, inPrev⟩⟩

theorem claimed_pass_driving (pass : Pass) (start : pass = claimedPass svc store claimed) :
    Driving site answers svc alloc plan claimed pass := by
  subst start
  refine ⟨rfl, ?_, ⟨svc.status, svc.finalizers, fun _ member => member, rfl⟩, Or.inl rfl, Or.inl rfl⟩
  exact fun e member => by cases member

theorem triple_log_calls (calls : List Call) (left : ReconcileResult → Pass → Prop)
    (made : ∀ e ∈ logged svc alloc calls, MadeFor site answers svc alloc plan e) :
    Triple (Driving site answers svc alloc plan claimed) (logCalls svc alloc.allocations calls)
      (fun _ s => Driving site answers svc alloc plan claimed s) left := by
  intro pass here
  refine ⟨here.store, ?_, here.object, here.record, here.stored⟩
  exact fun e member => (List.mem_append.mp member).elim (here.calls e) (made e)

theorem triple_set_nodes (nodes : List NodeStatus) (left : ReconcileResult → Pass → Prop) :
    Triple (Driving site answers svc alloc plan claimed) (setNodes nodes)
      (fun _ s => Driving site answers svc alloc plan claimed s) left :=
  fun _ here => ⟨here.store, here.calls, here.object, here.record, here.stored⟩

theorem triple_patch_new (place : PatchSite) (next : SRv6ServiceStatus) (new : recordOf next = newRecord svc alloc)
    (left : ReconcileResult → Pass → Prop) :
    Triple (Driving site answers svc alloc plan claimed) (patchStatus answers place next)
      (fun _ s => Driving site answers svc alloc plan claimed s) left := by
  intro pass here
  unfold patchStatus
  by_cases lands : answers.patch place
  · rw [if_pos lands]
    refine patched_at svc claimed _ _ pass next here ?_
    have server := here.stored
    have copy := here.record
    rw [OldOrNew, ← new] at server copy ⊢
    exact merge_record_new _ _ next _ server copy
  · rw [if_neg lands]
    exact here

theorem triple_keep_copy (next : SRv6ServiceStatus) (held : OldOrNew svc alloc (recordOf next))
    (left : ReconcileResult → Pass → Prop) :
    Triple (Driving site answers svc alloc plan claimed) (change fun pass => { pass with status := next })
      (fun _ s => Driving site answers svc alloc plan claimed s) left :=
  fun _ here => ⟨here.store, here.calls, here.object, held, here.stored⟩

theorem triple_refuse_driving {α : Type} (ref : Refusal) (post : α → Pass → Prop) :
    Triple (Driving site answers svc alloc plan claimed) (refuse answers svc ref : PassM α) post
      (fun _ s => Driving site answers svc alloc plan claimed s) :=
  triple_refuse answers svc claimed (fun calls => ∀ e ∈ calls, MadeFor site answers svc alloc plan e)
    (OldOrNew svc alloc) ref post

theorem triple_refuse_if_driving (refusal : Option Refusal) :
    Triple (Driving site answers svc alloc plan claimed) (refuseIf answers svc refusal)
      (fun _ s => Driving site answers svc alloc plan claimed s)
      (fun _ s => Driving site answers svc alloc plan claimed s) := by
  refine triple_weaken _ _ _ _ _ _ _ (triple_gate answers svc _ (fun _ s => Driving site answers svc alloc plan claimed s)
    (fun ref => triple_refuse_driving site answers svc alloc plan claimed ref fun _ _ => False) refusal)
    (fun _ here => here) (fun _ _ held => held.2) fun _ _ ended => ended

theorem triple_apply_update (hashes : GoMap String) :
    Triple (fun s => s = claimedPass svc store claimed)
      (applyUpdate site answers svc alloc plan (planOrder plan) hashes)
      (fun _ s => Driving site answers svc alloc plan claimed s)
      (fun _ s => Driving site answers svc alloc plan claimed s) := by
  refine triple_read_bind _ _ _ _ fun pass start => ?_
  have driving := claimed_pass_driving site answers svc store alloc plan claimed pass start
  have copy : pass.status.appliedSpec = svc.status.appliedSpec := by rw [start]; rfl
  have stay : ∀ result : Option Refusal, Triple (fun s => s = pass) (pure result : PassM (Option Refusal))
      (fun _ s => Driving site answers svc alloc plan claimed s)
      (fun _ s => Driving site answers svc alloc plan claimed s) := by
    rintro result _ rfl
    exact driving
  rw [copy]
  rcases previous : renderAppliedPlan svc.status.appliedSpec alloc site.facts with message | _ | prev
  · exact stay _
  · exact stay none
  · obtain ⟨applied, recorded, prevRendered⟩ : ∃ applied, svc.status.appliedSpec = some applied ∧
        buildPlan applied alloc site.facts = .ok prev := by
      cases recorded : svc.status.appliedSpec with
      | none => simp [recorded, renderAppliedPlan] at previous
      | some applied =>
          rw [recorded, renderAppliedPlan] at previous
          cases rendered : buildPlan applied alloc site.facts with
          | error message => simp [rendered, Except.map] at previous
          | ok built =>
              rw [rendered] at previous
              cases previous
              exact ⟨applied, rfl, rendered⟩
    have made := made_in_update site answers svc alloc plan applied prev recorded prevRendered
    simp only
    refine triple_bind _ _ _ _ (fun _ s => Driving site answers svc alloc plan claimed s) _ ?_ fun _ => ?_
    · rintro current rfl
      exact triple_log_calls site answers svc alloc plan claimed _ (fun _ s => Driving site answers svc alloc plan claimed s)
        made current driving
    · cases (driveUpdate answers.apply prev plan (planOrder plan)).2 with
      | some ref => exact fun _ here => here
      | none =>
          refine triple_bind _ _ _ _ (fun _ s => Driving site answers svc alloc plan claimed s) _
            (triple_set_nodes site answers svc alloc plan claimed _ _) fun _ => ?_
          cases (verifyPlan answers.verify .update plan site.facts.locators (planOrder plan)).2 with
          | some ref => exact fun _ here => here
          | none =>
              refine triple_read_bind _ _ _ _ fun late here => ?_
              refine triple_bind _ _ _ _ (fun _ s => Driving site answers svc alloc plan claimed s) _ ?_ fun patched => ?_
              · rintro _ rfl
                exact triple_patch_new site answers svc alloc plan claimed .updateStatus _ rfl _ _ here
              · refine triple_ite _ _ _ _ _ _ (fun _ => fun _ here => here) fun _ => ?_
                exact triple_bind _ _ _ _ (fun _ s => Driving site answers svc alloc plan claimed s) _
                  (triple_keep_copy site answers svc alloc plan claimed _ (Or.inr rfl) _) fun _ => fun _ here => here

theorem triple_first_apply (admitted : Admitted site lists answers svc store alloc plan claimed)
    (first : svc.status.appliedSpec = none) :
    Triple (fun s => s = claimedPass svc store claimed) (firstApply answers svc alloc plan (planOrder plan))
      (fun _ s => Driving site answers svc alloc plan claimed s)
      (fun _ s => LiveEnd site lists answers svc store s) := by
  have driving := claimed_pass_driving site answers svc store alloc plan claimed _ rfl
  have made := made_in_plan site answers svc alloc plan .firstApply (by decide)
    (applyPlan answers.apply .firstApply plan (planOrder plan)).1
    fun call called => apply_plan_mem answers.apply .firstApply plan call called
  unfold firstApply
  rcases outcome : applyPlan answers.apply .firstApply plan (planOrder plan) with ⟨calls, _ | ⟨node, err⟩⟩
  · rintro _ rfl
    rw [outcome] at made
    exact triple_log_calls site answers svc alloc plan claimed calls (fun _ s => LiveEnd site lists answers svc store s) made
      _ driving
  · have refused : ∃ node ∈ planOrder plan, applyStops answers.apply .firstApply node :=
      (apply_plan_failed_iff _ _ _ _).mp (by rw [outcome]; exact Option.some_ne_none _)
    have atUndone : At svc (releaseAll claimed (correlationID svc) answers.kuid.release)
        (fun calls => calls = logged svc alloc (undoneCalls answers plan)) (fun record => record = recordOf svc.status)
        { claimedPass svc store claimed with
          calls := logged svc alloc (undoneCalls answers plan),
          store := releaseAll claimed (correlationID svc) answers.kuid.release } :=
      ⟨rfl, rfl, ⟨svc.status, svc.finalizers, fun _ member => member, rfl⟩, rfl, rfl⟩
    have called : calls ++ rollbackPlan answers.apply .firstRollback plan (planOrder plan) = undoneCalls answers plan := by
      rw [undoneCalls, outcome]
    rintro _ rfl
    simp only [called]
    exact triple_weaken _ _ _ _ _ _ _ (triple_refuse answers svc _ _ _ (applyFailedRefusal node err)
      (fun (_ : Unit) s => Driving site answers svc alloc plan claimed s)) (fun _ here => here) (fun _ _ held => held)
      (fun _ s here => LiveEnd.undone alloc plan claimed admitted first refused here) _ atUndone

theorem triple_apply_stage (admitted : Admitted site lists answers svc store alloc plan claimed) (hashes : GoMap String)
    (unchanged : Bool) :
    Triple (fun s => s = claimedPass svc store claimed)
      (applyStage site answers svc alloc plan (planOrder plan) hashes unchanged)
      (fun _ s => Driving site answers svc alloc plan claimed s)
      (fun _ s => LiveEnd site lists answers svc store s) := by
  have ends : ∀ s, Driving site answers svc alloc plan claimed s → LiveEnd site lists answers svc store s := fun s here =>
    .driven alloc plan claimed admitted here
  refine triple_read_bind _ _ _ _ fun pass start => ?_
  have copy : pass.status.appliedSpec = svc.status.appliedSpec := by rw [start]; rfl
  rw [start] at copy ⊢
  by_cases update : svc.status.appliedSpec.isSome ∧ ¬ unchanged
  · rw [if_pos (by rw [copy]; exact update)]
    refine triple_bind _ _ _ _ (fun _ s => Driving site answers svc alloc plan claimed s) _ ?_ fun refusal => ?_
    · exact triple_weaken _ _ _ _ _ _ _ (triple_apply_update site answers svc store alloc plan claimed hashes)
        (fun _ here => here) (fun _ _ held => held) fun _ s here => ends s here
    · exact triple_weaken _ _ _ _ _ _ _ (triple_refuse_if_driving site answers svc alloc plan claimed refusal)
        (fun _ here => here) (fun _ _ held => held) fun _ s here => ends s here
  · rw [if_neg (by rw [copy]; exact update)]
    by_cases fresh : ¬ unchanged
    · rw [if_pos fresh]
      refine triple_first_apply site lists answers svc store alloc plan claimed admitted ?_
      by_contra recorded
      exact update ⟨Option.isSome_iff_ne_none.mpr recorded, fresh⟩
    · rw [if_neg fresh]
      rintro _ rfl
      exact claimed_pass_driving site answers svc store alloc plan claimed _ rfl

theorem triple_record_drift (ref : Refusal) :
    Triple (Driving site answers svc alloc plan claimed) (recordDrift answers svc ref)
      (fun _ s => Driving site answers svc alloc plan claimed s)
      (fun _ s => Driving site answers svc alloc plan claimed s) := by
  refine triple_read_bind _ _ _ _ fun pass here => ?_
  refine triple_bind _ _ _ _ (fun _ s => Driving site answers svc alloc plan claimed s) _ ?_ fun patched => ?_
  · exact triple_patch_same answers svc claimed _ _ .drift (setRefusal answers.now pass.status svc.generation ref) pass
      here rfl _
  · refine triple_ite _ _ _ _ _ _ (fun _ => fun _ held => held) fun _ => ?_
    exact triple_keep_copy site answers svc alloc plan claimed (setRefusal answers.now pass.status svc.generation ref)
      here.record _

theorem triple_repair_drift (drift : Refusal) :
    Triple (Driving site answers svc alloc plan claimed) (repairDrift site answers svc alloc plan (planOrder plan) drift)
      (fun _ s => Driving site answers svc alloc plan claimed s)
      (fun _ s => Driving site answers svc alloc plan claimed s) := by
  refine triple_bind _ _ _ _ (fun _ s => Driving site answers svc alloc plan claimed s) _
    (triple_record_drift site answers svc alloc plan claimed drift) fun _ => ?_
  have applied := made_in_plan site answers svc alloc plan .driftApply (by decide)
    (applyPlan answers.apply .driftApply plan (planOrder plan)).1
    fun call called => apply_plan_mem answers.apply .driftApply plan call called
  have undone := made_in_plan site answers svc alloc plan .driftRollback (by decide)
    (rollbackPlan answers.apply .driftRollback plan (planOrder plan))
    fun call called => rollback_plan_mem answers.apply .driftRollback plan call called
  rcases outcome : applyPlan answers.apply .driftApply plan (planOrder plan) with ⟨calls, _ | ⟨node, err⟩⟩
  · rw [outcome] at applied
    refine triple_bind _ _ _ _ (fun _ s => Driving site answers svc alloc plan claimed s) _
      (triple_log_calls site answers svc alloc plan claimed calls _ applied) fun _ => ?_
    exact triple_bind _ _ _ _ (fun _ s => Driving site answers svc alloc plan claimed s) _
      (triple_set_nodes site answers svc alloc plan claimed _ _) fun _ => fun _ here => here
  · rw [outcome] at applied
    refine triple_bind _ _ _ _ (fun _ s => Driving site answers svc alloc plan claimed s) _ ?_ fun _ => ?_
    · refine triple_log_calls site answers svc alloc plan claimed _ _ fun e member => ?_
      rw [logged, List.map_append] at member
      exact (List.mem_append.mp member).elim (applied e) (undone e)
    · exact triple_refuse_driving site answers svc alloc plan claimed _ _

theorem triple_verify_stage (unchanged : Bool) :
    Triple (Driving site answers svc alloc plan claimed) (verifyStage site answers svc alloc plan (planOrder plan) unchanged)
      (fun _ s => Driving site answers svc alloc plan claimed s)
      (fun _ s => Driving site answers svc alloc plan claimed s) := by
  unfold verifyStage
  refine triple_bind _ _ _ _ (fun _ s => Driving site answers svc alloc plan claimed s) _
    (triple_set_nodes site answers svc alloc plan claimed _ _) fun _ => ?_
  dsimp only
  split
  · exact triple_leave _ (fun _ s => Driving site answers svc alloc plan claimed s) _
  · refine triple_bind _ _ _ _ (fun _ s => Driving site answers svc alloc plan claimed s) _
      (triple_refuse_if_driving site answers svc alloc plan claimed _) fun _ => ?_
    split
    · exact fun _ here => here
    · refine triple_ite _ _ _ _ _ _ (fun _ => ?_) fun _ => triple_refuse_driving site answers svc alloc plan claimed _ _
      refine triple_bind _ _ _ _ (fun _ s => Driving site answers svc alloc plan claimed s) _
        (triple_repair_drift site answers svc alloc plan claimed _) fun remaining => ?_
      exact triple_bind _ _ _ _ (fun _ s => Driving site answers svc alloc plan claimed s) _
        (triple_refuse_if_driving site answers svc alloc plan claimed remaining) fun _ => fun _ here => here

theorem triple_ready_stage (hashes : GoMap String) (activePath : String) :
    Triple (Driving site answers svc alloc plan claimed) (readyStage answers svc alloc hashes activePath)
      (fun _ s => Driving site answers svc alloc plan claimed s)
      (fun _ s => Driving site answers svc alloc plan claimed s) := by
  unfold readyStage
  refine triple_read_bind _ _ _ _ fun pass here => ?_
  have start : ∀ s, s = pass → Driving site answers svc alloc plan claimed s := fun _ same => same ▸ here
  have recording : ∀ next, recordOf next = newRecord svc alloc →
      Triple (fun s => s = pass) (recordReady answers pass.status next)
        (fun _ s => Driving site answers svc alloc plan claimed s)
        (fun _ s => Driving site answers svc alloc plan claimed s) := by
    intro next new
    refine triple_ite _ _ _ _ _ _ (fun _ => start) fun _ => ?_
    refine triple_bind _ _ _ _ (fun _ s => Driving site answers svc alloc plan claimed s) _ ?_ fun patched => ?_
    · exact triple_weaken _ _ _ _ _ _ _ (triple_patch_new site answers svc alloc plan claimed .ready next new
        fun _ s => Driving site answers svc alloc plan claimed s) start (fun _ _ held => held) fun _ _ held => held
    · exact triple_ite _ _ _ _ _ _ (fun _ => fun _ held => held) fun _ => fun _ held => held
  have failing : ∀ (ref : Refusal) (rest : Unit → PassM ReconcileResult),
      Triple (fun s => s = pass) (refuse answers svc ref >>= rest)
        (fun _ s => Driving site answers svc alloc plan claimed s)
        (fun _ s => Driving site answers svc alloc plan claimed s) := by
    intro ref rest
    refine triple_bind _ _ _ _ (fun _ _ => False) _ ?_ fun _ _ impossible => impossible.elim
    exact triple_weaken _ _ _ _ _ _ _ (triple_refuse_driving site answers svc alloc plan claimed ref fun _ _ => False)
      start (fun _ _ held => held) fun _ _ held => held
  dsimp only
  by_cases probed : dataPathPassed pass.status
  · rw [if_neg (not_not.mpr probed)]
    exact recording _ rfl
  · rw [if_pos probed]
    rcases runDataPath answers.verify svc.spec alloc with err | ⟨_ | _, detail⟩
    · exact start
    · exact failing _ _
    · exact recording _ rfl

-- The store of a pass that has driven nothing: as it was, or with claims made behind the gates.
def Undriven : Prop :=
  claimed = store ∨
    ∃ result, passesGates site lists answers svc = true ∧
      reuseAllocation svc (correlationID svc) site.facts.locators = none ∧
      allocate store svc.spec (correlationID svc) site.facts.locators answers.kuid = (claimed, result)

/- A kind of end that every pass has which drives nothing: refused, stopped, or with
   the finalizer just added. -/
structure QuietEnds (left : Pass → Prop) : Prop where
  refused : ∀ (α : Type) claimed ref, Undriven site lists answers svc store claimed →
    Triple (fun s => s = claimedPass svc store claimed) (refuse answers svc ref : PassM α) (fun _ _ => False)
      (fun _ s => left s)
  stopped : ∀ claimed, Undriven site lists answers svc store claimed → left (claimedPass svc store claimed)
  added : left
    { startPass svc store with stored := { svc with finalizers := svc.finalizers ++ [srv6Finalizer] } }

-- The stages behind the claims and the plan.
def driveStages : PassM ReconcileResult := do
  let pass ← read
  let unchanged := hashesEqual pass.status.configHashes (planHashes site.digest plan)
  applyStage site answers svc alloc plan (planOrder plan) (planHashes site.digest plan) unchanged
  let activePath ← verifyStage site answers svc alloc plan (planOrder plan) unchanged
  readyStage answers svc alloc (planHashes site.digest plan) activePath

section Way
variable (left : Pass → Prop) (quiet : QuietEnds site lists answers svc store left)
include quiet

theorem triple_ensure_finalizer :
    Triple (fun s => s = startPass svc store) (ensureFinalizer answers svc)
      (fun _ s => hasSRv6Finalizer svc ∧ s = startPass svc store) (fun _ s => left s) := by
  rintro _ rfl
  unfold ensureFinalizer
  by_cases present : hasSRv6Finalizer svc
  · rw [if_pos present]
    exact ⟨present, rfl⟩
  · rw [if_neg present]
    by_cases lands : answers.patch .finalizerAdd
    · rw [if_pos lands]
      exact quiet.added
    · rw [if_neg lands]
      exact quiet.stopped store (Or.inl rfl)

theorem triple_claim_stage (gates : passesGates site lists answers svc = true) :
    Triple (fun s => s = startPass svc store) (claimStage site answers svc)
      (fun alloc s => ∃ claimed, Claimed site answers svc store alloc claimed ∧ s = claimedPass svc store claimed)
      (fun _ s => left s) := by
  refine triple_read_bind _ _ _ _ fun pass start => ?_
  subst start
  dsimp only
  cases reuse : reuseAllocation { svc with status := (startPass svc store).status } (correlationID svc)
      site.facts.locators with
  | some alloc =>
      rintro _ rfl
      exact ⟨store, Or.inl ⟨reuse, rfl⟩, rfl⟩
  | none =>
      rcases made : allocate store svc.spec (correlationID svc) site.facts.locators answers.kuid with ⟨claimed, result⟩
      have undriven : Undriven site lists answers svc store claimed := Or.inr ⟨result, gates, reuse, made⟩
      simp only [startPass, made]
      refine triple_bind _ _ _ _ (fun _ s => s = claimedPass svc store claimed) _ ?_ fun _ => ?_
      · rintro _ rfl
        rfl
      · cases result with
        | ok alloc =>
            rintro _ rfl
            exact ⟨claimed, Or.inr ⟨reuse, made⟩, rfl⟩
        | error err =>
            cases err with
            | transient text =>
                rintro _ rfl
                exact quiet.stopped claimed undriven
            | refusal ref =>
                exact triple_weaken _ _ _ _ _ _ _ (quiet.refused Allocation claimed ref undriven) (fun _ here => here)
                  (fun _ _ impossible => impossible.elim) fun _ _ here => here

variable (post : ReconcileResult → Pass → Prop)
  (drives : ∀ alloc plan claimed, Admitted site lists answers svc store alloc plan claimed →
    Triple (fun s => s = claimedPass svc store claimed) (driveStages site answers svc alloc plan) post (fun _ s => left s))
include drives

-- Behind the gates: claims, plan, and the stages that drive it.
theorem triple_behind_gates (gates : passesGates site lists answers svc = true) :
    Triple (fun s => s = startPass svc store)
      (do
        let alloc ← claimStage site answers svc
        let plan ← orRefuse answers svc
          ((buildPlan svc.spec alloc site.facts).mapError fun message =>
            ⟨.applyFailed, [.lit "plan could not be rendered: "] ++ message, .apply⟩)
        driveStages site answers svc alloc plan)
      post (fun _ s => left s) := by
  refine triple_bind _ _ _ _ _ _ (triple_claim_stage site lists answers svc store left quiet gates) fun alloc => ?_
  rintro _ ⟨claimed, claims, rfl⟩
  have undriven : Undriven site lists answers svc store claimed := by
    rcases claims with ⟨_, rfl⟩ | ⟨fresh, made⟩
    · exact Or.inl rfl
    · exact Or.inr ⟨.ok alloc, gates, fresh, made⟩
  refine triple_bind (fun s => s = claimedPass svc store claimed) _ _ _ _ _ (triple_or_refuse answers svc _ _
    (fun ref => quiet.refused SRv6Plan claimed ref undriven) _) (fun plan => ?_) _ rfl
  rintro _ ⟨rendered, rfl⟩
  have built : buildPlan svc.spec alloc site.facts = .ok plan := by
    cases found : buildPlan svc.spec alloc site.facts with
    | error message => simp [found, Except.mapError] at rendered
    | ok other => simpa [found, Except.mapError] using rendered
  exact drives alloc plan claimed ⟨gates, claims, built⟩ _ rfl

-- The way of a live pass: to a quiet end, or through the gates to its plan.
theorem triple_reconcile_live :
    Triple (fun s => s = startPass svc store) (reconcileLive site lists answers svc) post (fun _ s => left s) := by
  have refused : ∀ (α : Type) ref, Triple (fun s => s = startPass svc store) (refuse answers svc ref : PassM α)
      (fun _ _ => False) (fun _ s => left s) := fun α ref => quiet.refused α store ref (Or.inl rfl)
  have gate := triple_gate answers svc (fun s => s = startPass svc store) (fun _ s => left s) (refused Unit)
  refine triple_bind _ _ _ _ _ _ (triple_ensure_finalizer site lists answers svc store left quiet) fun _ => ?_
  rintro _ ⟨finalizer, rfl⟩
  refine triple_bind (fun s => s = startPass svc store) _ _ _ _ _ (gate (validateSite svc.spec site.facts)) (fun _ => ?_) _ rfl
  rintro _ ⟨siteValid, rfl⟩
  refine triple_bind (fun s => s = startPass svc store) _ _ _ _ _
    (triple_or_refuse answers svc _ _ (refused Capability) (readCapability answers.capability)) (fun cap => ?_) _ rfl
  rintro _ ⟨read, rfl⟩
  refine triple_bind (fun s => s = startPass svc store) _ _ _ _ _ (gate (checkCapability svc.spec cap)) (fun _ => ?_) _ rfl
  rintro _ ⟨capable, rfl⟩
  refine triple_bind (fun s => s = startPass svc store) _ _ _ _ _ (gate (checkSupported svc.spec cap)) (fun _ => ?_) _ rfl
  rintro _ ⟨supported, rfl⟩
  refine triple_bind (fun s => s = startPass svc store) _ _ _ _ _ (gate (checkConflicts svc lists)) (fun _ => ?_) _ rfl
  rintro _ ⟨noConflict, rfl⟩
  have gates : passesGates site lists answers svc = true := by
    simp [passesGates, finalizer, siteValid, read, capable, supported, noConflict]
  exact triple_behind_gates site lists answers svc store left quiet post drives gates _ rfl

end Way

theorem undriven_ends (pass : Pass) (undriven : Undriven site lists answers svc store claimed) (here : Calm svc claimed pass) :
    LiveEnd site lists answers svc store pass := by
  rcases undriven with rfl | ⟨result, gates, fresh, made⟩
  · exact .idle here
  · exact .claiming claimed result gates fresh made here

theorem quiet_live_ends : QuietEnds site lists answers svc store (LiveEnd site lists answers svc store) where
  refused := by
    intro α claimed ref undriven
    exact triple_weaken _ _ _ _ _ _ _ (triple_refuse answers svc claimed (fun calls => calls = [])
      (fun record => record = recordOf svc.status) ref fun _ _ => False)
      (fun s (start : s = claimedPass svc store claimed) => start ▸ start_calm svc store claimed)
      (fun _ _ impossible => impossible) fun _ s here => undriven_ends site lists answers svc store claimed s undriven here
  stopped := fun claimed undriven =>
    undriven_ends site lists answers svc store claimed _ undriven (start_calm svc store claimed)
  added := .idle ⟨rfl, rfl, ⟨svc.status, svc.finalizers ++ [srv6Finalizer], fun _ => List.mem_append_left _, rfl⟩, rfl, rfl⟩

theorem triple_drive_stages (admitted : Admitted site lists answers svc store alloc plan claimed) :
    Triple (fun s => s = claimedPass svc store claimed) (driveStages site answers svc alloc plan)
      (fun _ s => LiveEnd site lists answers svc store s) (fun _ s => LiveEnd site lists answers svc store s) := by
  have ends : ∀ s, Driving site answers svc alloc plan claimed s → LiveEnd site lists answers svc store s := fun s here =>
    .driven alloc plan claimed admitted here
  refine triple_read_bind (fun s => s = claimedPass svc store claimed) _ _ _ fun pass start => ?_
  subst start
  refine triple_bind _ _ _ _ _ _ (triple_apply_stage site lists answers svc store alloc plan claimed admitted _ _)
    fun _ => ?_
  refine triple_bind _ _ _ _ (fun _ s => Driving site answers svc alloc plan claimed s) _ ?_ fun activePath => ?_
  · exact triple_weaken _ _ _ _ _ _ _ (triple_verify_stage site answers svc alloc plan claimed _) (fun _ here => here)
      (fun _ _ held => held) fun _ s here => ends s here
  · exact triple_weaken _ _ _ _ _ _ _ (triple_ready_stage site answers svc alloc plan claimed _ activePath)
      (fun _ here => here) (fun _ s here => ends s here) fun _ s here => ends s here

-- Every live pass ends in one of the four ways.
theorem reconcile_live_ends :
    Triple (fun s => s = startPass svc store) (reconcileLive site lists answers svc)
      (fun _ s => LiveEnd site lists answers svc store s) (fun _ s => LiveEnd site lists answers svc store s) :=
  triple_reconcile_live site lists answers svc store _ (quiet_live_ends site lists answers svc store) _
    (triple_drive_stages site lists answers svc store)

end Live

theorem finalize_plan_rendered (site : Site) (svc : SRv6Service) (alloc : Allocation) (plan : SRv6Plan)
    (found : finalizePlan site svc = some (alloc, plan)) : buildPlan svc.spec alloc site.facts = .ok plan := by
  unfold finalizePlan at found
  cases recorded : finalizeAllocation site svc with
  | none => simp [recorded] at found
  | some from_status =>
      simp only [recorded] at found
      cases rendered : buildPlan svc.spec from_status site.facts with
      | error message => simp [rendered] at found
      | ok built =>
          simp only [rendered, Option.some.injEq, Prod.mk.injEq] at found
          obtain ⟨rfl, rfl⟩ := found
          exact rendered

section Finalize
variable (site : Site) (lists : ConflictLists) (answers : Answers) (svc : SRv6Service) (store : Store)

-- The calls of a deletion.
def finalizeCalls : List Executed :=
  match finalizePlan site svc with
  | none => []
  | some (alloc, plan) => logged svc alloc (rollbackPlan answers.apply .finalizeRollback plan (planOrder plan))

def released : Store := (releaseByCorrelationID store (correlationID svc) answers.kuid.release).1

def Finalizing (claims : Store) (pass : Pass) : Prop :=
  At svc claims (fun calls => calls = finalizeCalls site answers svc) (fun record => record = recordOf svc.status) pass

/- The ends of a deletion. A node gave no answer and everything stays; or the claims
   went, in part or all; or the finalizer went too. -/
inductive FinalizeEnd (pass : Pass) : Prop
  | dirty (here : Finalizing site answers svc store pass)
  | unfinished (clean : ∀ e ∈ finalizeCalls site answers svc, ¬ isDirty e.call)
      (here : Finalizing site answers svc (released answers svc store) pass)
  | finalized (clean : ∀ e ∈ finalizeCalls site answers svc, ¬ isDirty e.call)
      (done : answers.kuid.release = .done) (lands : answers.patch .finalizerRemove)
      (claims : pass.store = released answers svc store) (calls : pass.calls = finalizeCalls site answers svc)
      (stored : pass.stored = { svc with finalizers := svc.finalizers.filter fun f => f ≠ srv6Finalizer })

def finalizingPass (claims : Store) : Pass :=
  { startPass svc store with store := claims, calls := finalizeCalls site answers svc }

theorem finalizing_pass_at (claims : Store) : Finalizing site answers svc claims (finalizingPass site answers svc store claims) :=
  ⟨rfl, rfl, ⟨svc.status, svc.finalizers, fun _ member => member, rfl⟩, rfl, rfl⟩

theorem triple_finalizing (claims : Store) (message : Message) (post : ReconcileResult → Pass → Prop) :
    Triple (fun s => s = finalizingPass site answers svc store claims) (finalizing answers svc message) post
      (fun _ s => Finalizing site answers svc claims s) := by
  refine triple_read_bind _ _ _ _ fun pass start => ?_
  have here : Finalizing site answers svc claims pass := start ▸ finalizing_pass_at site answers svc store claims
  refine triple_bind _ _ _ _ (fun _ s => Finalizing site answers svc claims s) _ ?_ fun _ => ?_
  · exact triple_patch_same answers svc claims _ _ .finalizing (setFinalizing answers.now pass.status svc.generation message)
      pass here rfl _
  · exact triple_leave post (fun _ s => Finalizing site answers svc claims s) _

theorem triple_rollback_for_delete (left : ReconcileResult → Pass → Prop) :
    Triple (fun s => s = startPass svc store) (rollbackForDelete site answers svc)
      (fun dirty s => (dirty = [] ↔ ∀ e ∈ finalizeCalls site answers svc, ¬ isDirty e.call) ∧
        s = finalizingPass site answers svc store store) left := by
  rintro _ rfl
  unfold rollbackForDelete finalizingPass finalizeCalls
  rcases finalizePlan site svc with _ | ⟨alloc, plan⟩
  · exact ⟨by simp, rfl⟩
  · refine ⟨?_, rfl⟩
    simp [logged, List.filter_eq_nil_iff]

theorem finalize_delete_ends :
    Triple (fun s => s = startPass svc store) (finalizeDelete site answers svc)
      (fun _ s => FinalizeEnd site answers svc store s) (fun _ s => FinalizeEnd site answers svc store s) := by
  refine triple_bind _ _ _ _ _ _ (triple_rollback_for_delete site answers svc store _) fun dirty => ?_
  refine triple_ite _ _ _ _ _ _ (fun unconfirmed => ?_) fun confirmed => ?_
  · refine triple_weaken _ _ _ _ _ _ _ (triple_finalizing site answers svc store store _ fun _ _ => False)
      (fun _ held => held.2) (fun _ _ impossible => impossible.elim) fun _ _ here => .dirty here
  · rintro _ ⟨confirmedIff, rfl⟩
    have clean := confirmedIff.mp (not_not.mp confirmed)
    refine triple_read_bind (fun s => s = finalizingPass site answers svc store store) _ _ _ (fun pass start => ?_) _ rfl
    subst start
    have claims : (releaseByCorrelationID (finalizingPass site answers svc store store).store (correlationID svc)
        answers.kuid.release).1 = released answers svc store := rfl
    rcases outcome : releaseByCorrelationID (finalizingPass site answers svc store store).store (correlationID svc)
      answers.kuid.release with ⟨left, err | done⟩
    · rw [outcome] at claims
      subst claims
      refine triple_bind _ _ _ _ (fun _ s => s = finalizingPass site answers svc store (released answers svc store)) _ ?_
        fun _ => ?_
      · rintro _ rfl
        rfl
      · exact triple_weaken _ _ _ _ _ _ _ (triple_finalizing site answers svc store _ _ fun _ _ => False)
          (fun _ held => held) (fun _ _ impossible => impossible.elim) fun _ _ here => .unfinished clean here
    · have finished : answers.kuid.release = .done := by
        cases answer : answers.kuid.release with
        | done => rfl
        | failed deleted err => simp [releaseByCorrelationID, answer] at outcome
      rw [outcome] at claims
      subst claims
      refine triple_bind _ _ _ _ (fun _ s => s = finalizingPass site answers svc store (released answers svc store)) _ ?_
        fun _ => ?_
      · rintro _ rfl
        rfl
      · refine triple_ite _ _ _ _ _ _ (fun lands => ?_) fun _ => ?_
        · rintro _ rfl
          exact .finalized clean finished lands rfl rfl rfl
        · rintro _ rfl
          exact .unfinished clean (finalizing_pass_at site answers svc store _)

/- A whole pass: a deletion, a live pass, or nothing to do. -/
inductive PassEnd (pass : Pass) : Prop
  | live (alive : svc.deletionTimestamp = none) (ended : LiveEnd site lists answers svc store pass)
  | finalize (deleting : svc.deletionTimestamp ≠ none) (finalizer : hasSRv6Finalizer svc)
      (ended : FinalizeEnd site answers svc store pass)
  | nothing (unchanged : pass = startPass svc store)

theorem reconcile_ends : PassEnd site lists answers svc store (reconcile site lists answers svc (startPass svc store)).1 := by
  unfold reconcile
  by_cases deleting : svc.deletionTimestamp.isSome
  · rw [if_pos deleting]
    by_cases finalizer : hasSRv6Finalizer svc
    · rw [if_pos finalizer]
      have ended := finalize_delete_ends site answers svc store (startPass svc store) rfl
      rcases outcome : finalizeDelete site answers svc (startPass svc store) with ⟨pass, _ | _⟩
      · rw [outcome] at ended
        exact .finalize (Option.isSome_iff_ne_none.mp deleting) finalizer ended
      · rw [outcome] at ended
        exact .finalize (Option.isSome_iff_ne_none.mp deleting) finalizer ended
    · rw [if_neg finalizer]
      exact .nothing rfl
  · rw [if_neg deleting]
    have alive : svc.deletionTimestamp = none := by simpa using deleting
    have ended := reconcile_live_ends site lists answers svc store (startPass svc store) rfl
    rcases outcome : reconcileLive site lists answers svc (startPass svc store) with ⟨pass, _ | _⟩
    · rw [outcome] at ended
      exact .live alive ended
    · rw [outcome] at ended
      exact .live alive ended

theorem logged_uid (alloc : Allocation) (calls : List Call) (e : Executed) (member : e ∈ logged svc alloc calls) :
    e.uid = svc.uid ∧ e.correlationID = correlationID svc ∧ e.alloc = alloc.allocations := by
  obtain ⟨call, _, rfl⟩ := List.mem_map.mp member
  exact ⟨rfl, rfl, rfl⟩

theorem finalize_calls_uid (e : Executed) (member : e ∈ finalizeCalls site answers svc) :
    e.uid = svc.uid ∧ e.correlationID = correlationID svc := by
  unfold finalizeCalls at member
  split at member
  · cases member
  · have fields := logged_uid svc _ _ e member
    exact ⟨fields.1, fields.2.1⟩

theorem finalize_calls_rollback (e : Executed) (member : e ∈ finalizeCalls site answers svc) :
    e.call.site.isRollback = true := by
  unfold finalizeCalls at member
  split at member
  · cases member
  · obtain ⟨call, called, rfl⟩ := List.mem_map.mp member
    obtain ⟨node, _, rfl⟩ := rollback_plan_mem _ _ _ call called
    rfl

section Ended
variable (pass : Pass) (ended : PassEnd site lists answers svc store pass)
include ended

-- A pass calls nodes for its own service only.
theorem pass_calls_own (e : Executed) (member : e ∈ pass.calls) :
    e.uid = svc.uid ∧ e.correlationID = correlationID svc := by
  rcases ended with ⟨_, live⟩ | ⟨_, _, final⟩ | start
  · rcases live with here | ⟨_, _, _, _, _, here⟩ | ⟨_, _, _, _, here⟩ | ⟨alloc, plan, _, _, _, _, here⟩
    · rw [here.calls] at member
      cases member
    · rw [here.calls] at member
      cases member
    · exact ⟨(here.calls e member).1, (here.calls e member).2.1⟩
    · rw [here.calls] at member
      have fields := logged_uid svc alloc _ e member
      exact ⟨fields.1, fields.2.1⟩
  · have own := finalize_calls_uid site answers svc e
    rcases final with here | ⟨_, here⟩ | ⟨_, _, _, _, calls, _⟩
    · exact own (here.calls ▸ member)
    · exact own (here.calls ▸ member)
    · exact own (calls ▸ member)
  · rw [start] at member
    cases member

-- It calls them only under the finalizer.
theorem pass_calls_finalizer (called : pass.calls ≠ []) : hasSRv6Finalizer svc := by
  rcases ended with ⟨_, live⟩ | ⟨_, finalizer, _⟩ | start
  · rcases live with here | ⟨_, _, _, _, _, here⟩ | ⟨_, _, _, admitted, _⟩ | ⟨_, _, _, admitted, _, _, _⟩
    · exact absurd here.calls called
    · exact absurd here.calls called
    · exact passes_gates_finalizer site lists answers svc admitted.gates
    · exact passes_gates_finalizer site lists answers svc admitted.gates
  · exact finalizer
  · rw [start] at called
    exact absurd rfl called

/- The stored object is the service's own. Its finalizer stays, unless this was the
   pass of a deletion that takes it. -/
theorem pass_stored :
    SameObject svc pass.stored ∨
      hasSRv6Finalizer svc ∧ svc.deletionTimestamp ≠ none ∧ pass.calls = finalizeCalls site answers svc ∧
        (∀ e ∈ finalizeCalls site answers svc, ¬ isDirty e.call) ∧ answers.kuid.release = .done ∧
        answers.patch .finalizerRemove ∧
        pass.stored = { svc with finalizers := svc.finalizers.filter fun f => f ≠ srv6Finalizer } := by
  rcases ended with ⟨_, live⟩ | ⟨deleting, finalizer, final⟩ | start
  · rcases live with here | ⟨_, _, _, _, _, here⟩ | ⟨_, _, _, _, here⟩ | ⟨_, _, _, _, _, _, here⟩
    all_goals exact Or.inl here.object
  · rcases final with here | ⟨_, here⟩ | ⟨clean, done, lands, _, calls, stored⟩
    · exact Or.inl here.object
    · exact Or.inl here.object
    · exact Or.inr ⟨finalizer, deleting, calls, clean, done, lands, stored⟩
  · rw [start]
    exact Or.inl ⟨svc.status, svc.finalizers, fun _ member => member, rfl⟩

theorem pass_stored_uid : pass.stored.uid = svc.uid := by
  rcases pass_stored site lists answers svc store pass ended with same | ⟨_, _, _, _, _, _, stored⟩
  · exact same_object_uid svc pass.stored same
  · rw [stored]

end Ended

end Finalize

end AgenticNetops.Srv6service
