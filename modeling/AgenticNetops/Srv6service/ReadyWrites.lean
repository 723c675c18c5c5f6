import AgenticNetops.Srv6service.PassEnd

set_option autoImplicit false

/- Which passes write Ready=True, what they have called by then, and what the status
   they leave records. -/
namespace AgenticNetops.Srv6service

open GoText Api Kuid Fabricplan Exits

def shows (type : ConditionType) (conds : List Condition) : Bool :=
  (conds.find? fun cond => cond.type = type).any Condition.status

def isReady (status : SRv6ServiceStatus) : Bool := shows .ready status.conditions

-- A status with Ready=True was sent to the API server and landed.
def ReadyWritten (pass : Pass) : Prop := ∃ status ∈ pass.written, isReady status

instance (pass : Pass) : Decidable (ReadyWritten pass) :=
  inferInstanceAs (Decidable (∃ status ∈ pass.written, isReady status))

-- What a status says about the plan on the devices.
abbrev Shown := Record × GoMap String

def shownOf (status : SRv6ServiceStatus) : Shown := (recordOf status, status.configHashes)

theorem upsert_shows (type : ConditionType) (conds : List Condition) (cond : Condition) :
    shows type (upsertCondition conds cond) = if cond.type = type then cond.status else shows type conds := by
  induction conds with
  | nil => by_cases same : cond.type = type <;> simp [shows, upsertCondition, same]
  | cons first rest ih =>
      rw [upsertCondition]
      by_cases replaced : first.type = cond.type
      · by_cases status : first.status = cond.status
        · by_cases same : cond.type = type <;> simp [shows, replaced, status, same]
        · by_cases same : cond.type = type <;> simp [shows, replaced, status, same]
      · rw [if_neg replaced]
        by_cases here : first.type = type
        · have other : ¬ cond.type = type := fun same => replaced (here.trans same.symm)
          simp [shows, here, other]
        · simpa [shows, here] using ih

-- The pair of a refusal says Ready=False, whatever stood there.
theorem refusal_unready (now : Nat) (status : SRv6ServiceStatus) (gen : Nat) (ref : Refusal) :
    isReady (setRefusal now status gen ref) = false := by
  simp [isReady, setRefusal, upsert_shows, newCondition]

theorem ready_outcome_ready (now : Nat) (status : SRv6ServiceStatus) (gen : Nat) (hashes : GoMap String)
    (applied : SRv6ServiceSpec) (corrID activePath : String) (alloc : Api.Allocations) :
    isReady (setReadyOutcome now status gen hashes applied corrID activePath alloc) = true := by
  simp [isReady, setReadyOutcome, setReadyTrue, upsert_shows, readyTrue, newCondition]

theorem shown_refusal (now : Nat) (status : SRv6ServiceStatus) (gen : Nat) (ref : Refusal) :
    shownOf (setRefusal now status gen ref) = shownOf status := rfl

section Merge
variable (stored base next : SRv6ServiceStatus)

theorem merge_shown_same (same : shownOf next = shownOf base) :
    shownOf (mergeStatus stored base next) = shownOf stored := by
  have parts := Prod.mk.inj same
  refine Prod.ext (merge_record_same stored base next parts.1) ?_
  simp [shownOf, mergeStatus, mergeField, parts.2]

theorem merge_shown_new (agree : shownOf stored = shownOf base) :
    shownOf (mergeStatus stored base next) = shownOf next := by
  have parts := Prod.mk.inj agree
  simp only [recordOf, Prod.mk.injEq] at parts
  rw [shownOf, merge_record, parts.1.1, parts.1.2.1, parts.1.2.2, merge_field_of_base, merge_field_of_base,
    merge_field_of_base]
  simp only [mergeStatus, parts.2, merge_field_of_base]
  rfl

end Merge

/- Where a pass stands: the calls it has made, what the API server shows of the plan,
   and that it has written Ready=True only where `wrote` says so. -/
structure Served (calls : List Executed) (shown : Shown) (wrote : Prop) (pass : Pass) : Prop where
  calls : pass.calls = calls
  server : shownOf pass.stored.status = shown
  ready : ReadyWritten pass → wrote

-- The copy agrees with the server.
structure Stands (calls : List Executed) (shown : Shown) (wrote : Prop) (pass : Pass) : Prop where
  served : Served calls shown wrote pass
  copy : shownOf pass.status = shown

theorem served_self (pass : Pass) : Served pass.calls (shownOf pass.stored.status) (ReadyWritten pass) pass :=
  ⟨rfl, rfl, id⟩

section Patches
variable (answers : Answers) (svc : SRv6Service) (calls : List Executed) (shown : Shown) (wrote : Prop)

theorem ready_written_patched (pass : Pass) (next : SRv6ServiceStatus) :
    ReadyWritten (pass.patched next) ↔ ReadyWritten pass ∨ isReady next := by
  simp [ReadyWritten, Pass.patched, or_and_right, exists_or]

-- A patch that is not Ready and leaves what the copy shows.
theorem triple_patch_unready (place : PatchSite) (next : SRv6ServiceStatus) (unready : isReady next = false) (pass : Pass)
    (here : Served calls shown wrote pass) (same : shownOf next = shownOf pass.status)
    (left : ReconcileResult → Pass → Prop) :
    Triple (fun s => s = pass) (patchStatus answers place next)
      (fun landed s => Served calls shown wrote s ∧ (if landed then shownOf s.status = shown else s = pass)) left := by
  rintro _ rfl
  unfold patchStatus
  by_cases lands : answers.patch place
  · rw [if_pos lands]
    have merged := (merge_shown_same _ _ next same).trans here.server
    refine ⟨⟨here.calls, merged, fun written => ?_⟩, merged⟩
    rw [ready_written_patched] at written
    exact here.ready (written.resolve_right (by simp [unready]))
  · rw [if_neg lands]
    exact ⟨here, rfl⟩

theorem triple_refuse_served {α : Type} (ref : Refusal) (post : α → Pass → Prop) :
    Triple (Served calls shown wrote) (refuse answers svc ref : PassM α) post
      (fun _ s => Served calls shown wrote s) := by
  refine triple_read_bind _ _ _ _ fun pass here => ?_
  refine triple_bind _ _ _ _ (fun _ s => Served calls shown wrote s) _ ?_ fun patched => ?_
  · exact triple_weaken _ _ _ _ _ _ _ (triple_patch_unready answers calls shown wrote .refusal
      (setRefusal answers.now pass.status svc.generation ref) (refusal_unready _ _ _ _) pass here (shown_refusal _ _ _ _)
      fun _ _ => False) (fun _ start => start) (fun _ _ held => held.1) fun _ _ impossible => impossible.elim
  · have ends : ∀ result, Triple (Served calls shown wrote) (leave result : PassM α) post
        (fun _ s => Served calls shown wrote s) := fun result => triple_leave post (fun _ s => Served calls shown wrote s) result
    exact triple_ite _ _ _ _ _ _ (fun _ => ends .failed) fun _ =>
      triple_ite _ _ _ _ _ _ (fun _ => ends .settled) fun _ => ends (.requeueAfter failureBackoff)

end Patches

section Ready
variable (site : Site) (lists : ConflictLists) (answers : Answers) (svc : SRv6Service) (store : Store)
  (alloc : Allocation) (plan : SRv6Plan)

-- What a status written with Ready=True shows.
def readyShown : Shown := (newRecord svc alloc, planHashes site.digest plan)

def unchangedPlan : Bool := hashesEqual svc.status.configHashes (planHashes site.digest plan)

/- The main verification finds a failed check and no alternate path excuses it: what an
   unchanged plan is applied again for. -/
def repairs : Bool :=
  let vref := (verifyPlan answers.verify .main plan site.facts.locators (planOrder plan)).2
  let view := steeredPathView svc.spec (planOrder plan) alloc.serviceSIDs site.facts.spineLinks
  let observed : Except String PathObservation :=
    match view with
    | none => .ok {}
    | some view => observePath answers.verify view
  match observed with
  | .error _ => false
  | .ok observation =>
      ¬ (steerPathOutcome svc.spec view observation vref).skipRepair && vref.any fun ref => ref.kind = .check

def Accepted (place : CallSite) : Prop := ∀ node ∈ planOrder plan, answers.apply place node = .ok

def applyCalls (place : CallSite) : List Executed :=
  logged svc alloc (applyPlan answers.apply place plan (planOrder plan)).1

def removalCalls (prev : SRv6Plan) : List Executed :=
  logged svc alloc (removeNodes answers.apply prev (diffNodes prev plan)).1

/- The calls behind a Ready=True: a whole first application, a removal and a whole
   application, nothing, or a whole repair. -/
inductive ReadyCalls : List Executed → Prop
  | first (fresh : svc.status.appliedSpec = none) (changed : unchangedPlan site svc plan = false)
      (accepted : Accepted answers plan .firstApply) : ReadyCalls (applyCalls answers svc alloc plan .firstApply)
  | update (applied : SRv6ServiceSpec) (prev : SRv6Plan) (recorded : svc.status.appliedSpec = some applied)
      (rendered : buildPlan applied alloc site.facts = .ok prev) (changed : unchangedPlan site svc plan = false)
      (removed : ∀ node ∈ diffNodes prev plan, ¬ removalStops answers.apply node)
      (accepted : Accepted answers plan .updateApply) :
      ReadyCalls (removalCalls answers svc alloc plan prev ++ applyCalls answers svc alloc plan .updateApply)
  | untouched (same : unchangedPlan site svc plan = true) (clean : repairs site answers svc alloc plan = false) :
      ReadyCalls []
  | repaired (same : unchangedPlan site svc plan = true) (drifted : repairs site answers svc alloc plan = true)
      (accepted : Accepted answers plan .driftApply) : ReadyCalls (applyCalls answers svc alloc plan .driftApply)

-- Where a pass has written Ready=True, its calls and what it has recorded.
def ReadyEnd (pass : Pass) : Prop :=
  ReadyWritten pass →
    ∃ alloc plan claimed, Admitted site lists answers svc store alloc plan claimed ∧
      ReadyCalls site answers svc alloc plan pass.calls ∧ shownOf pass.stored.status = readyShown site svc alloc plan

variable (calls : List Executed) (shown : Shown) (wrote : Prop)

theorem apply_plan_accepted (place : CallSite) (order : List String) :
    (applyPlan answers.apply place plan order).2 = none ↔ ∀ node ∈ order, answers.apply place node = .ok := by
  have failed := apply_plan_failed_iff answers.apply place plan order
  constructor
  · intro through node member
    by_contra refused
    exact failed.mpr ⟨node, member, by simpa [applyStops] using refused⟩ through
  · intro accepted
    by_contra stopped
    obtain ⟨node, member, stops⟩ := failed.mp stopped
    simp [applyStops, accepted node member] at stops

theorem triple_record_drift_stands (ref : Refusal) (left : ReconcileResult → Pass → Prop) :
    Triple (Stands calls shown wrote) (recordDrift answers svc ref) (fun _ s => Stands calls shown wrote s) left := by
  refine triple_read_bind _ _ _ _ fun pass here => ?_
  refine triple_bind _ _ _ _ _ _ (triple_patch_unready answers calls shown wrote .drift
    (setRefusal answers.now pass.status svc.generation ref) (refusal_unready _ _ _ _) pass here.served
    (shown_refusal _ _ _ _) left) fun landed => ?_
  cases landed with
  | true => exact fun s held => ⟨held.1, by simpa using held.2⟩
  | false =>
      rintro s ⟨served, same⟩
      exact ⟨⟨served.calls, served.server, served.ready⟩, here.copy⟩

theorem triple_repair_stands (drift : Refusal) :
    Triple (Stands calls shown wrote) (repairDrift site answers svc alloc plan (planOrder plan) drift)
      (fun _ s => Accepted answers plan .driftApply ∧
        Stands (calls ++ applyCalls answers svc alloc plan .driftApply) shown wrote s)
      (fun _ s => ReadyWritten s → wrote) := by
  refine triple_bind _ _ _ _ _ _ (triple_record_drift_stands answers svc calls shown wrote drift _) fun _ => ?_
  have accepted := apply_plan_accepted answers plan .driftApply (planOrder plan)
  have made : applyCalls answers svc alloc plan .driftApply =
      logged svc alloc (applyPlan answers.apply .driftApply plan (planOrder plan)).1 := rfl
  rcases outcome : applyPlan answers.apply .driftApply plan (planOrder plan) with ⟨applied, _ | ⟨node, err⟩⟩
  · rw [outcome] at accepted made
    intro pass here
    refine ⟨accepted.mp rfl, ⟨⟨?_, here.served.server, here.served.ready⟩, here.copy⟩⟩
    rw [made, ← here.served.calls]
    rfl
  · intro pass here
    have refused := triple_refuse_served answers svc (pass.calls ++ logged svc alloc (applied ++
      rollbackPlan answers.apply .driftRollback plan (planOrder plan))) shown wrote (applyFailedRefusal node err)
      (fun (_ : Option Refusal) _ => False)
    exact triple_weaken _ _ _ _ _ _ _ refused (fun _ start => start) (fun _ _ impossible => impossible.elim)
      (fun _ _ served => served.ready) _ ⟨rfl, here.served.server, here.served.ready⟩

-- A refusal out of a stage, where the calls no longer matter.
theorem triple_refuse_if_wrote (refusal : Option Refusal) :
    Triple (Stands calls shown wrote) (refuseIf answers svc refusal)
      (fun _ s => refusal = none ∧ Stands calls shown wrote s) (fun _ s => Served calls shown wrote s) :=
  triple_gate answers svc _ _ (fun ref => triple_weaken _ _ _ _ _ _ _ (triple_refuse_served answers svc calls shown wrote ref
    fun _ _ => False) (fun _ here => here.served) (fun _ _ impossible => impossible) fun _ _ here => here) refusal

/- The verification leaves the calls as they are, or it is the repair of an unchanged
   plan and has applied all of it again. -/
def VerifyCalls (unchanged : Bool) (before after : List Executed) : Prop :=
  (unchanged = true ∧ repairs site answers svc alloc plan = true ∧ Accepted answers plan .driftApply ∧
    after = before ++ applyCalls answers svc alloc plan .driftApply) ∨
  ((unchanged = true → repairs site answers svc alloc plan = false) ∧ after = before)

def StageLeft (unchanged : Bool) (pass : Pass) : Prop :=
  (unchanged = false → Served calls shown wrote pass) ∧ (ReadyWritten pass → wrote)

theorem served_stage_left (unchanged : Bool) (pass : Pass) (here : Served calls shown wrote pass) :
    StageLeft calls shown wrote unchanged pass := ⟨fun _ => here, here.ready⟩

-- Behind the path: the repair of what the verification found, or its refusal.
theorem triple_drift_stands (unchanged : Bool) (path : SteerPath) (vref : Option Refusal)
    (repairing : repairs site answers svc alloc plan = (¬ path.skipRepair && vref.any fun ref => ref.kind = .check)) :
    Triple (Stands calls shown wrote)
      (do
        refuseIf answers svc path.refusal
        match if path.skipRepair then none else vref with
        | none => pure path.activePath
        | some ref =>
            if unchanged ∧ ref.kind = .check then do
              let remaining ← repairDrift site answers svc alloc plan (planOrder plan) ref
              refuseIf answers svc remaining
              pure path.activePath
            else refuse answers svc ref)
      (fun _ s => ∃ after, VerifyCalls site answers svc alloc plan unchanged calls after ∧ Stands after shown wrote s)
      (fun _ s => StageLeft calls shown wrote unchanged s) := by
  have leaves := served_stage_left calls shown wrote unchanged
  refine triple_bind _ _ _ _ (fun _ s => Stands calls shown wrote s) _ ?_ fun _ => ?_
  · exact triple_weaken _ _ _ _ _ _ _ (triple_refuse_if_wrote answers svc calls shown wrote path.refusal)
      (fun _ here => here) (fun _ _ held => held.2) fun _ s here => leaves s here
  cases failing : (if path.skipRepair then none else vref) with
  | none =>
      have clean : repairs site answers svc alloc plan = false := by
        rw [repairing]
        by_cases skip : path.skipRepair
        · simp [skip]
        · rw [if_neg skip] at failing
          simp [failing]
      exact fun s here => ⟨calls, Or.inr ⟨fun _ => clean, rfl⟩, here⟩
  | some ref =>
      refine triple_ite _ _ _ _ _ _ (fun checked => ?_) fun _ => ?_
      · have drifted : repairs site answers svc alloc plan = true := by
          rw [repairing]
          by_cases skip : path.skipRepair
          · simp [skip] at failing
          · rw [if_neg skip] at failing
            simp [skip, failing, checked.2]
        have out : ∀ s, (ReadyWritten s → wrote) → StageLeft calls shown wrote unchanged s := by
          intro s ready
          refine ⟨fun changed => ?_, ready⟩
          rw [changed] at checked
          cases checked.1
        refine triple_bind _ _ _ _ _ _ (triple_weaken _ _ _ _ _ _ _
          (triple_repair_stands site answers svc alloc plan calls shown wrote ref)
          (fun _ here => here) (fun _ _ held => held) fun _ s ready => out s ready) fun remaining => ?_
        have again := triple_refuse_if_wrote answers svc (calls ++ applyCalls answers svc alloc plan .driftApply) shown wrote
          remaining
        intro pass held
        refine triple_bind _ _ _ _ _ _ (triple_weaken _ _ _ _ _ _ _ again (fun s here => here)
          (fun _ _ held => held.2) fun _ s here => out s here.ready) (fun _ s here => ?_) pass held.2
        exact ⟨_, Or.inl ⟨checked.1, drifted, held.1, rfl⟩, here⟩
      · exact triple_weaken _ _ _ _ _ _ _ (triple_refuse_served answers svc calls shown wrote ref fun _ _ => False)
          (fun _ here => here.served) (fun _ _ impossible => impossible.elim) fun _ s here => leaves s here

theorem triple_verify_stands (unchanged : Bool) :
    Triple (Stands calls shown wrote) (verifyStage site answers svc alloc plan (planOrder plan) unchanged)
      (fun _ s => ∃ after, VerifyCalls site answers svc alloc plan unchanged calls after ∧ Stands after shown wrote s)
      (fun _ s => StageLeft calls shown wrote unchanged s) := by
  refine triple_bind _ _ _ _ (fun _ s => Stands calls shown wrote s) _ ?_ fun _ => ?_
  · exact fun s here => ⟨⟨here.served.calls, here.served.server, here.served.ready⟩, here.copy⟩
  have behind := triple_drift_stands site answers svc alloc plan calls shown wrote unchanged
  have repairing := repairs.eq_def site answers svc alloc plan
  dsimp only at repairing ⊢
  generalize steeredPathView svc.spec (planOrder plan) alloc.serviceSIDs site.facts.spineLinks = view at repairing ⊢
  cases view with
  | none => exact behind _ _ repairing
  | some view =>
      dsimp only at repairing ⊢
      cases seen : observePath answers.verify view with
      | error err => exact fun s here => served_stage_left calls shown wrote unchanged s here.served
      | ok observation =>
          rw [seen] at repairing
          exact behind _ _ repairing

theorem triple_ready_served (hashes : GoMap String) (activePath : String) :
    Triple (Stands calls shown wrote) (readyStage answers svc alloc hashes activePath)
      (fun _ s => Served calls shown wrote s ∨ Served calls (newRecord svc alloc, hashes) True s)
      (fun _ s => Served calls shown wrote s) := by
  refine triple_read_bind _ _ _ _ fun pass here => ?_
  have recording : ∀ next, shownOf next = (newRecord svc alloc, hashes) →
      Triple (fun s => s = pass) (recordReady answers pass.status next)
        (fun _ s => Served calls shown wrote s ∨ Served calls (newRecord svc alloc, hashes) True s)
        (fun _ s => Served calls shown wrote s) := by
    intro next new
    refine triple_ite _ _ _ _ _ _ (fun _ => fun s same => Or.inl (same ▸ here.served)) fun _ => ?_
    refine triple_bind _ _ _ _ (fun landed s => if landed then Served calls (newRecord svc alloc, hashes) True s
      else Served calls shown wrote s) _ ?_ fun landed => ?_
    · rintro _ rfl
      unfold patchStatus
      by_cases lands : answers.patch .ready
      · rw [if_pos lands]
        exact ⟨here.served.calls, (merge_shown_new _ _ next (here.served.server.trans here.copy.symm)).trans new,
          fun _ => trivial⟩
      · rw [if_neg lands]
        exact here.served
    · cases landed with
      | true => exact fun s held => Or.inr held
      | false => exact fun s held => held
  have failing : ∀ (ref : Refusal) (rest : Unit → PassM ReconcileResult),
      Triple (fun s => s = pass) (refuse answers svc ref >>= rest)
        (fun _ s => Served calls shown wrote s ∨ Served calls (newRecord svc alloc, hashes) True s)
        (fun _ s => Served calls shown wrote s) := by
    intro ref rest
    refine triple_bind _ _ _ _ (fun _ _ => False) _ ?_ fun _ _ impossible => impossible.elim
    exact triple_weaken _ _ _ _ _ _ _ (triple_refuse_served answers svc calls shown wrote ref fun _ _ => False)
      (fun s same => same ▸ here.served) (fun _ _ impossible => impossible) fun _ _ held => held
  dsimp only
  by_cases probed : dataPathPassed pass.status
  · rw [if_neg (not_not.mpr probed)]
    exact recording _ rfl
  · rw [if_pos probed]
    rcases runDataPath answers.verify svc.spec alloc with err | ⟨_ | _, detail⟩
    · exact fun s same => same ▸ here.served
    · exact failing _ _
    · exact recording _ rfl

def Unready (pass : Pass) : Prop := ¬ ReadyWritten pass

theorem triple_refuse_unready {α : Type} (ref : Refusal) (post : α → Pass → Prop) :
    Triple Unready (refuse answers svc ref : PassM α) post (fun _ s => Unready s) := by
  intro pass unready
  exact triple_weaken _ _ _ _ _ _ _ (triple_refuse_served answers svc pass.calls (shownOf pass.stored.status) False ref post)
    (fun s (same : s = pass) => by subst same; exact ⟨rfl, rfl, unready⟩) (fun _ _ held => held) (fun _ _ served => served.ready) pass rfl

variable (claimed : Store)

theorem claimed_pass_stands : Stands [] (shownOf svc.status) False (claimedPass svc store claimed) := by
  refine ⟨⟨rfl, rfl, ?_⟩, rfl⟩
  intro written
  obtain ⟨status, member, _⟩ := written
  cases member

-- An update that nothing stops.
theorem drive_update_through (prev : SRv6Plan) (through : (driveUpdate answers.apply prev plan (planOrder plan)).2 = none) :
    (∀ node ∈ diffNodes prev plan, ¬ removalStops answers.apply node) ∧ Accepted answers plan .updateApply ∧
      logged svc alloc (driveUpdate answers.apply prev plan (planOrder plan)).1 =
        removalCalls answers svc alloc plan prev ++ applyCalls answers svc alloc plan .updateApply := by
  have stops := remove_nodes_failed_iff answers.apply prev (diffNodes prev plan)
  have accepted := apply_plan_accepted answers plan .updateApply (planOrder plan)
  unfold removalCalls applyCalls
  unfold driveUpdate at through ⊢
  rcases removals : removeNodes answers.apply prev (diffNodes prev plan) with ⟨removed, _ | ⟨node, err⟩⟩
  · rcases applies : applyPlan answers.apply .updateApply plan (planOrder plan) with ⟨applied, _ | ⟨node, err⟩⟩
    · rw [removals] at stops
      rw [applies] at accepted
      have clean : ∀ node ∈ diffNodes prev plan, ¬ removalStops answers.apply node := by simpa using stops
      exact ⟨clean, accepted.mp rfl, by simp [logged]⟩
    · simp [removals, applies] at through
  · simp [removals] at through

-- Behind an accepted removal and application: the verification and the status write.
theorem triple_update_shown (changed : unchangedPlan site svc plan = false) :
    Triple (fun s => s = claimedPass svc store claimed ∧ svc.status.appliedSpec.isSome)
      (applyUpdate site answers svc alloc plan (planOrder plan) (planHashes site.digest plan))
      (fun refusal s => match refusal with
        | none => ∃ calls, ReadyCalls site answers svc alloc plan calls ∧ Stands calls (readyShown site svc alloc plan) True s
        | some _ => Unready s)
      (fun _ s => Unready s) := by
  rintro _ ⟨rfl, recorded⟩
  obtain ⟨applied, recorded⟩ := Option.isSome_iff_exists.mp recorded
  have start := claimed_pass_stands svc store claimed
  refine triple_read_bind (fun s => s = claimedPass svc store claimed) _ _ _ (fun pass same => ?_) _ rfl
  have copy : pass.status.appliedSpec = some applied := by rw [same]; exact recorded
  rw [copy, renderAppliedPlan]
  cases rendered : buildPlan applied alloc site.facts with
  | error message => exact fun s here => here ▸ same ▸ start.served.ready
  | ok prev =>
      dsimp only [Except.map]
      refine triple_bind _ _ _ _ (fun _ s => Stands (logged svc alloc (driveUpdate answers.apply prev plan (planOrder plan)).1)
        (shownOf svc.status) False s) _ ?_ fun _ => ?_
      · intro s here
        rw [here, same]
        exact ⟨⟨rfl, rfl, start.served.ready⟩, rfl⟩
      cases failed : (driveUpdate answers.apply prev plan (planOrder plan)).2 with
      | some ref => exact fun s here => here.served.ready
      | none =>
          obtain ⟨removed, accepted, made⟩ := drive_update_through answers svc alloc plan prev failed
          rw [made]
          have ready : ReadyCalls site answers svc alloc plan _ := .update applied prev recorded rendered changed removed accepted
          generalize removalCalls answers svc alloc plan prev ++ applyCalls answers svc alloc plan .updateApply = calls at ready ⊢
          refine triple_bind _ _ _ _ (fun _ s => Stands calls (shownOf svc.status) False s) _ ?_ fun _ => ?_
          · exact fun s here => ⟨⟨here.served.calls, here.served.server, here.served.ready⟩, here.copy⟩
          cases (verifyPlan answers.verify .update plan site.facts.locators (planOrder plan)).2 with
          | some ref => exact fun s here => here.served.ready
          | none =>
              refine triple_read_bind _ _ _ _ fun late here => ?_
              intro current this
              subst this
              simp only [bind_run]
              unfold patchStatus
              by_cases lands : answers.patch .updateStatus
              · rw [if_pos lands]
                have merged := merge_shown_new _ _ (setReadyOutcome answers.now current.status svc.generation
                  (planHashes site.digest plan) svc.spec (correlationID svc) current.status.activePath alloc.allocations)
                  (here.served.server.trans here.copy.symm)
                exact ⟨_, ready, ⟨here.served.calls, merged, fun _ => trivial⟩, merged⟩
              · rw [if_neg lands]
                exact here.served.ready

/- Behind the apply stage: a plan applied anew, with or without the record of it, or a
   plan that has not changed and no call. -/
def StageThrough (calls : List Executed) (shown : Shown) (wrote : Prop) : Prop :=
  (unchangedPlan site svc plan = false ∧ ReadyCalls site answers svc alloc plan calls ∧
    (wrote → shown = readyShown site svc alloc plan)) ∨
  (unchangedPlan site svc plan = true ∧ calls = [] ∧ ¬ wrote)

theorem triple_apply_shown :
    Triple (fun s => s = claimedPass svc store claimed)
      (applyStage site answers svc alloc plan (planOrder plan) (planHashes site.digest plan) (unchangedPlan site svc plan))
      (fun _ s => ∃ calls shown wrote, StageThrough site answers svc alloc plan calls shown wrote ∧ Stands calls shown wrote s)
      (fun _ s => Unready s) := by
  have start := claimed_pass_stands svc store claimed
  refine triple_read_bind _ _ _ _ fun pass same => ?_
  have copy : pass.status.appliedSpec = svc.status.appliedSpec := by rw [same]; rfl
  rw [copy, same]
  refine triple_ite _ _ _ _ _ _ (fun update => ?_) fun other => ?_
  · have changed : unchangedPlan site svc plan = false := by simpa using update.2
    refine triple_bind _ _ _ _ _ _ (triple_weaken _ _ _ _ _ _ _
      (triple_update_shown site answers svc store alloc plan claimed changed)
      (fun s here => ⟨here, update.1⟩) (fun _ _ held => held) fun _ _ here => here) fun refusal => ?_
    cases refusal with
    | none =>
        rintro s ⟨calls, ready, here⟩
        exact ⟨calls, _, True, Or.inl ⟨changed, ready, fun _ => rfl⟩, here⟩
    | some ref =>
        exact triple_weaken _ _ _ _ _ _ _ (triple_refuse_unready answers svc ref fun _ _ => False) (fun _ here => here)
          (fun _ _ impossible => impossible.elim) fun _ _ here => here
  · refine triple_ite _ _ _ _ _ _ (fun fresh => ?_) fun same => ?_
    · have changed : unchangedPlan site svc plan = false := by simpa using fresh
      have first : svc.status.appliedSpec = none := by
        by_contra recorded
        exact other ⟨Option.isSome_iff_ne_none.mpr recorded, fresh⟩
      have accepted := apply_plan_accepted answers plan .firstApply (planOrder plan)
      have made : applyCalls answers svc alloc plan .firstApply =
          logged svc alloc (applyPlan answers.apply .firstApply plan (planOrder plan)).1 := rfl
      unfold firstApply
      rcases outcome : applyPlan answers.apply .firstApply plan (planOrder plan) with ⟨applied, _ | ⟨node, err⟩⟩
      · rw [outcome] at accepted made
        have ready : ReadyCalls site answers svc alloc plan _ := .first first changed (accepted.mp rfl)
        rintro _ rfl
        refine ⟨_, _, False, Or.inl ⟨changed, ready, False.elim⟩, ⟨⟨?_, rfl, start.served.ready⟩, rfl⟩⟩
        rw [made]
        rfl
      · rintro _ rfl
        exact triple_refuse_unready answers svc _ (fun (_ : Unit) s => ∃ calls shown wrote,
          StageThrough site answers svc alloc plan calls shown wrote ∧ Stands calls shown wrote s) _ start.served.ready
    · rintro _ rfl
      exact ⟨[], _, False, Or.inr ⟨by simpa using same, rfl, id⟩, start⟩

-- The pass behind its claims and its plan.
theorem triple_drive_ready (admitted : Admitted site lists answers svc store alloc plan claimed) :
    Triple (fun s => s = claimedPass svc store claimed) (driveStages site answers svc alloc plan)
      (fun _ s => ReadyEnd site lists answers svc store s) (fun _ s => ReadyEnd site lists answers svc store s) := by
  have ends : ∀ calls shown wrote s, Served calls shown wrote s →
      (wrote → ReadyCalls site answers svc alloc plan calls ∧ shown = readyShown site svc alloc plan) →
      ReadyEnd site lists answers svc store s := by
    intro calls shown wrote s here known written
    obtain ⟨ready, new⟩ := known (here.ready written)
    exact ⟨alloc, plan, claimed, admitted, here.calls ▸ ready, here.server.trans new⟩
  have unready : ∀ s, Unready s → ReadyEnd site lists answers svc store s := fun s silent written => absurd written silent
  refine triple_read_bind (fun s => s = claimedPass svc store claimed) _ _ _ fun pass same => ?_
  subst same
  refine triple_bind _ _ _ _ _ _ (triple_weaken _ _ _ _ _ _ _ (triple_apply_shown site answers svc store alloc plan claimed)
    (fun _ here => here) (fun _ _ held => held) fun _ s silent => unready s silent) fun _ => ?_
  rintro driven ⟨calls, shown, wrote, through, here⟩
  refine triple_bind _ _ _ _ _ _ (triple_weaken _ _ _ _ _ _ _
    (triple_verify_stands site answers svc alloc plan calls shown wrote (unchangedPlan site svc plan))
    (fun _ here => here) (fun _ _ held => held) fun _ s left => ?_) (fun activePath => ?_) driven here
  · cases through with
    | inl changed => exact ends _ _ _ s (left.1 changed.1) fun written => ⟨changed.2.1, changed.2.2 written⟩
    | inr unchanged => exact unready s fun written => unchanged.2.2 (left.2 written)
  · rintro verified ⟨after, verifies, here⟩
    have ready : ReadyCalls site answers svc alloc plan after ∧ (wrote → shown = readyShown site svc alloc plan) := by
      cases through with
      | inl changed =>
          cases verifies with
          | inl repair => exact absurd repair.1 (by simp [changed.1])
          | inr kept => exact ⟨kept.2 ▸ changed.2.1, changed.2.2⟩
      | inr unchanged =>
          obtain ⟨same, rfl, silent⟩ := unchanged
          refine ⟨?_, fun written => absurd written silent⟩
          cases verifies with
          | inl repair => exact repair.2.2.2 ▸ .repaired same repair.2.1 repair.2.2.1
          | inr kept => exact kept.2 ▸ .untouched same (kept.1 same)
    refine triple_weaken _ _ _ _ _ _ _ (triple_ready_served answers svc alloc after shown wrote
      (planHashes site.digest plan) activePath) (fun _ here => here) (fun _ s held => ?_) (fun _ s held => ?_) verified here
    · cases held with
      | inl old => exact ends _ _ _ s old fun written => ⟨ready.1, ready.2 written⟩
      | inr new => exact ends _ _ _ s new fun _ => ⟨ready.1, rfl⟩
    · exact ends _ _ _ s held fun written => ⟨ready.1, ready.2 written⟩

theorem quiet_ready_ends : QuietEnds site lists answers svc store (ReadyEnd site lists answers svc store) where
  refused := by
    intro α claimed ref _
    exact triple_weaken _ _ _ _ _ _ _ (triple_refuse_unready answers svc ref fun _ _ => False)
      (fun s (start : s = claimedPass svc store claimed) => start ▸ (claimed_pass_stands svc store claimed).served.ready)
      (fun _ _ impossible => impossible) fun _ s silent written => absurd written silent
  stopped := fun claimed _ written => ((claimed_pass_stands svc store claimed).served.ready written).elim
  added := fun written => ((claimed_pass_stands svc store store).served.ready written).elim

theorem triple_finalizing_unready (message : Message) (post : ReconcileResult → Pass → Prop) :
    Triple Unready (finalizing answers svc message) post (fun _ s => Unready s) := by
  refine triple_read_bind _ _ _ _ fun pass silent => ?_
  have unready : isReady (setFinalizing answers.now pass.status svc.generation message) = false := by
    simp [isReady, setFinalizing, upsert_shows, newCondition]
  refine triple_bind _ _ _ _ (fun _ s => Unready s) _ ?_ fun _ => triple_leave post (fun _ s => Unready s) _
  exact triple_weaken _ _ _ _ _ _ _ (triple_patch_unready answers pass.calls (shownOf pass.stored.status) False .finalizing _
    unready pass ⟨rfl, rfl, silent⟩ rfl fun _ _ => False) (fun _ here => here) (fun _ _ held => held.1.ready)
    fun _ _ impossible => impossible.elim

-- A deletion writes no Ready=True.
theorem finalize_delete_unready :
    Triple Unready (finalizeDelete site answers svc) (fun _ s => Unready s) (fun _ s => Unready s) := by
  refine triple_bind _ _ _ _ (fun _ s => Unready s) _ ?_ fun dirty => ?_
  · unfold rollbackForDelete
    cases finalizePlan site svc with
    | none => exact fun s silent => silent
    | some found => exact fun s silent => silent
  refine triple_ite _ _ _ _ _ _ (fun _ => triple_finalizing_unready answers svc _ _) fun _ => ?_
  refine triple_read_bind _ _ _ _ fun pass silent => ?_
  rcases outcome : releaseByCorrelationID pass.store (correlationID svc) answers.kuid.release with ⟨left, err | done⟩
  · refine triple_bind _ _ _ _ (fun _ s => Unready s) _ ?_ fun _ => triple_finalizing_unready answers svc _ _
    exact fun s here => here ▸ silent
  · refine triple_bind _ _ _ _ (fun _ s => Unready s) _ (fun s here => here ▸ silent) fun _ => ?_
    exact triple_ite _ _ _ _ _ _ (fun _ => fun s silent => silent) fun _ => fun s silent => silent

-- What a pass that writes Ready=True has called and recorded.
theorem reconcile_ready_end :
    ReadyEnd site lists answers svc store (reconcile site lists answers svc (startPass svc store)).1 ∧
      (ReadyWritten (reconcile site lists answers svc (startPass svc store)).1 → svc.deletionTimestamp = none) := by
  have silent : Unready (startPass svc store) := (claimed_pass_stands svc store store).served.ready
  have never : ∀ pass, Unready pass →
      ReadyEnd site lists answers svc store pass ∧ (ReadyWritten pass → svc.deletionTimestamp = none) :=
    fun pass unready => ⟨fun written => absurd written unready, fun written => absurd written unready⟩
  unfold reconcile
  by_cases deleting : svc.deletionTimestamp.isSome
  · rw [if_pos deleting]
    by_cases finalizer : hasSRv6Finalizer svc
    · rw [if_pos finalizer]
      have ended := finalize_delete_unready site answers svc (startPass svc store) silent
      rcases outcome : finalizeDelete site answers svc (startPass svc store) with ⟨pass, _ | _⟩
      · exact never pass (by rw [outcome] at ended; exact ended)
      · exact never pass (by rw [outcome] at ended; exact ended)
    · rw [if_neg finalizer]
      exact never _ silent
  · rw [if_neg deleting]
    have alive : svc.deletionTimestamp = none := by simpa using deleting
    have ended := triple_reconcile_live site lists answers svc store _ (quiet_ready_ends site lists answers svc store)
      (fun _ s => ReadyEnd site lists answers svc store s) (triple_drive_ready site lists answers svc store)
      (startPass svc store) rfl
    rcases outcome : reconcileLive site lists answers svc (startPass svc store) with ⟨pass, _ | _⟩
    · exact ⟨by rw [outcome] at ended; exact ended, fun _ => alive⟩
    · exact ⟨by rw [outcome] at ended; exact ended, fun _ => alive⟩

end Ready

end AgenticNetops.Srv6service
