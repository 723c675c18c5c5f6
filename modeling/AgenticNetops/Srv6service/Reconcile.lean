import AgenticNetops.Srv6service.Pass

set_option autoImplicit false

/- controller.go, update.go and finalizer.go: one reconcile of one service. Events,
   logs and metrics are left out; everything that decides, writes or calls is here. -/
namespace AgenticNetops.Srv6service

open GoText Api Kuid Fabricplan Exits

def hasSRv6Finalizer (svc : SRv6Service) : Bool := srv6Finalizer ∈ svc.finalizers

-- The patch itself triggers the next reconcile.
def ensureFinalizer (answers : Answers) (svc : SRv6Service) : PassM Unit :=
  if hasSRv6Finalizer svc then pure ()
  else if answers.patch .finalizerAdd then do
    change fun pass =>
      { pass with stored := { pass.stored with finalizers := pass.stored.finalizers ++ [srv6Finalizer] } }
    leave .settled
  else leave .failed

def claimStage (site : Site) (answers : Answers) (svc : SRv6Service) : PassM Allocation := do
  let pass ← read
  let corrID := correlationID svc
  match reuseAllocation { svc with status := pass.status } corrID site.facts.locators with
  | some alloc => pure alloc
  | none =>
      let (store, claimed) := allocate pass.store svc.spec corrID site.facts.locators answers.kuid
      change fun pass => { pass with store }
      match claimed with
      | .ok alloc => pure alloc
      | .error (.refusal ref) => refuse answers svc ref
      | .error (.transient _) => leave (.requeueAfter failureBackoff)

def renderAppliedPlan (applied : Option SRv6ServiceSpec) (alloc : Allocation) (facts : SiteFacts) :
    Except Fabricplan.Error (Option SRv6Plan) :=
  match applied with
  | none => .ok none
  | some spec => (buildPlan spec alloc facts).map some

/- The device work of an update: the removal on every node that lost items, the new
   plan, and on a failure of the new plan the way back to the previous one. -/
def driveUpdate (answers : ApplyAnswers) (prev plan : SRv6Plan) (order : List String) : List Call × Option Refusal :=
  match removeNodes answers prev (diffNodes prev plan) with
  | (removals, some (node, err)) => (removals, some (applyFailedRefusal node err))
  | (removals, none) =>
      match applyPlan answers .updateApply plan order with
      | (applied, none) => (removals ++ applied, none)
      | (applied, some (node, err)) =>
          let undone := rollbackPlan answers .restoreRollback prev (planOrder prev)
          let restored := (applyPlan answers .restoreApply prev (planOrder prev)).1
          (removals ++ applied ++ undone ++ restored, some (applyFailedRefusal node err))

def applyUpdate (site : Site) (answers : Answers) (svc : SRv6Service) (alloc : Allocation) (plan : SRv6Plan)
    (order : List String) (hashes : GoMap String) : PassM (Option Refusal) := do
  let pass ← read
  match renderAppliedPlan pass.status.appliedSpec alloc site.facts with
  | .error message =>
      pure (some ⟨.applyFailed,
        [.lit "previous plan could not be re-rendered from status.appliedSpec: "] ++ message, .apply⟩)
  | .ok none => pure none
  | .ok (some prev) =>
      let (calls, failed) := driveUpdate answers.apply prev plan order
      logCalls svc alloc.allocations calls
      match failed with
      | some ref => pure (some ref)
      | none =>
          let (nodeStatus, vref) := verifyPlan answers.verify .update plan site.facts.locators order
          setNodes nodeStatus
          match vref with
          | some ref => pure (some ref)
          | none =>
              let pass ← read
              let next := setReadyOutcome answers.now pass.status svc.generation hashes svc.spec (correlationID svc)
                pass.status.activePath alloc.allocations
              let patched ← patchStatus answers .updateStatus next
              if patched then pure none
              else do
                -- The copy keeps the outcome that the server did not take.
                change fun pass => { pass with status := next }
                pure (some ⟨.applyFailed, [.lit "update verified but the status write failed"], .apply⟩)

-- The first application: on a node failure every node is rolled back and the claims go.
def firstApply (answers : Answers) (svc : SRv6Service) (alloc : Allocation) (plan : SRv6Plan) (order : List String) :
    PassM Unit :=
  match applyPlan answers.apply .firstApply plan order with
  | (calls, none) => logCalls svc alloc.allocations calls
  | (calls, some (node, err)) => do
      logCalls svc alloc.allocations (calls ++ rollbackPlan answers.apply .firstRollback plan order)
      change fun pass =>
        { pass with store := releaseAll pass.store (correlationID svc) answers.kuid.release }
      refuse answers svc (applyFailedRefusal node err)

def applyStage (site : Site) (answers : Answers) (svc : SRv6Service) (alloc : Allocation) (plan : SRv6Plan)
    (order : List String) (hashes : GoMap String) (unchanged : Bool) : PassM Unit := do
  let pass ← read
  if pass.status.appliedSpec.isSome ∧ ¬ unchanged then do
    let refusal ← applyUpdate site answers svc alloc plan order hashes
    refuseIf answers svc refusal
  else if ¬ unchanged then firstApply answers svc alloc plan order
  else pure ()

/- patchDriftObserved is best effort: the refusal pair is recorded when the patch
   lands; the copy carries it either way. -/
def recordDrift (answers : Answers) (svc : SRv6Service) (ref : Refusal) : PassM Unit := do
  let pass ← read
  let next := setRefusal answers.now pass.status svc.generation ref
  let patched ← patchStatus answers .drift next
  if patched then pure () else change fun pass => { pass with status := next }

-- Drift repair: the idempotent ops once more, then the second verification.
def repairDrift (site : Site) (answers : Answers) (svc : SRv6Service) (alloc : Allocation) (plan : SRv6Plan)
    (order : List String) (drift : Refusal) : PassM (Option Refusal) := do
  recordDrift answers svc drift
  match applyPlan answers.apply .driftApply plan order with
  | (calls, none) =>
      logCalls svc alloc.allocations calls
      let (nodeStatus, vref) := verifyPlan answers.verify .repair plan site.facts.locators order
      setNodes nodeStatus
      pure vref
  | (calls, some (node, err)) =>
      logCalls svc alloc.allocations (calls ++ rollbackPlan answers.apply .driftRollback plan order)
      refuse answers svc (applyFailedRefusal node err)

-- Verify, path and drift repair; returns the active path.
def verifyStage (site : Site) (answers : Answers) (svc : SRv6Service) (alloc : Allocation) (plan : SRv6Plan)
    (order : List String) (unchanged : Bool) : PassM String := do
  let (nodeStatus, vref) := verifyPlan answers.verify .main plan site.facts.locators order
  setNodes nodeStatus
  let view := steeredPathView svc.spec order alloc.serviceSIDs site.facts.spineLinks
  let observed : Except String PathObservation :=
    match view with
    | none => .ok {}
    | some view => observePath answers.verify view
  match observed with
  | .error _ => leave (.requeueAfter failureBackoff)
  | .ok observation =>
      let path := steerPathOutcome svc.spec view observation vref
      refuseIf answers svc path.refusal
      match if path.skipRepair then none else vref with
      | none => pure path.activePath
      | some ref =>
          if unchanged ∧ ref.kind = .check then do
            let remaining ← repairDrift site answers svc alloc plan order ref
            refuseIf answers svc remaining
            pure path.activePath
          else refuse answers svc ref

-- The outcome is written only where it differs from what the copy holds.
def recordReady (answers : Answers) (base next : SRv6ServiceStatus) : PassM ReconcileResult :=
  if next = base then pure (.requeueAfter resyncInterval)
  else do
    let patched ← patchStatus answers .ready next
    if patched then pure (.requeueAfter resyncInterval) else leave .failed

def readyStage (answers : Answers) (svc : SRv6Service) (alloc : Allocation) (hashes : GoMap String)
    (activePath : String) : PassM ReconcileResult := do
  let pass ← read
  let base := pass.status
  if ¬ dataPathPassed base then
    match runDataPath answers.verify svc.spec alloc with
    | .transport _ => leave (.requeueAfter failureBackoff)
    | .verdict false detail => refuse answers svc (dataPathRefusal detail)
    | .verdict true _ => pure ()
  let probed :=
    if dataPathPassed base then base
    else { base with dataPath := some { checkedAt := some answers.now, result := "pass" } }
  recordReady answers base (setReadyOutcome answers.now probed svc.generation hashes svc.spec (correlationID svc) activePath
    alloc.allocations)

def reconcileLive (site : Site) (lists : ConflictLists) (answers : Answers) (svc : SRv6Service) :
    PassM ReconcileResult := do
  ensureFinalizer answers svc
  refuseIf answers svc (validateSite svc.spec site.facts)
  let cap ← orRefuse answers svc (readCapability answers.capability)
  refuseIf answers svc (checkCapability svc.spec cap)
  refuseIf answers svc (checkSupported svc.spec cap)
  refuseIf answers svc (checkConflicts svc lists)
  let alloc ← claimStage site answers svc
  let plan ← orRefuse answers svc
    ((buildPlan svc.spec alloc site.facts).mapError fun message =>
      ⟨.applyFailed, [.lit "plan could not be rendered: "] ++ message, .apply⟩)
  let order := planOrder plan
  let hashes := planHashes site.digest plan
  let pass ← read
  let unchanged := hashesEqual pass.status.configHashes hashes
  applyStage site answers svc alloc plan order hashes unchanged
  let activePath ← verifyStage site answers svc alloc plan order unchanged
  readyStage answers svc alloc hashes activePath

-- finalizeAllocation: the recorded allocations with the SIDs of the current spec.
def finalizeAllocation (site : Site) (svc : SRv6Service) : Option Allocation :=
  match svc.status.allocations with
  | none => none
  | some st =>
      if st.serviceID ≤ 0 then none
      else
        match serviceSIDs svc.spec site.facts.locators with
        | .error _ => none
        | .ok sids => some ⟨st, sids⟩

-- The plan a deletion rolls back: none without allocations or without a rendering.
def finalizePlan (site : Site) (svc : SRv6Service) : Option (Allocation × SRv6Plan) :=
  match finalizeAllocation site svc with
  | none => none
  | some alloc =>
      match buildPlan svc.spec alloc site.facts with
      | .ok plan => some (alloc, plan)
      | .error _ => none

def finalizing {α : Type} (answers : Answers) (svc : SRv6Service) (message : Message) : PassM α := do
  let pass ← read
  let _ ← patchStatus answers .finalizing (setFinalizing answers.now pass.status svc.generation message)
  leave (.requeueAfter failureBackoff)

-- A node whose rollback got no answer; an OK=false answer does not make it one.
def isDirty (call : Call) : Bool :=
  match call.answer with
  | .transport _ _ => true
  | _ => false

def rollbackForDelete (site : Site) (answers : Answers) (svc : SRv6Service) : PassM (List String) :=
  match finalizePlan site svc with
  | none => pure []
  | some (alloc, plan) => do
      let calls := rollbackPlan answers.apply .finalizeRollback plan (planOrder plan)
      logCalls svc alloc.allocations calls
      pure ((calls.filter isDirty).map Call.node)

def finalizeDelete (site : Site) (answers : Answers) (svc : SRv6Service) : PassM ReconcileResult := do
  let dirty ← rollbackForDelete site answers svc
  if dirty ≠ [] then
    finalizing answers svc [.lit "rollback not yet confirmed on ", .str (join (sortStrings dirty) ", "),
      .lit "; finalizer and claims kept"]
  else do
    let pass ← read
    let (store, released) := releaseByCorrelationID pass.store (correlationID svc) answers.kuid.release
    change fun pass => { pass with store }
    match released with
    | .error err =>
        finalizing answers svc [.lit "claims not yet released (", .str err.text, .lit "); finalizer kept"]
    | .ok _ =>
        if answers.patch .finalizerRemove then do
          change fun pass =>
            { pass with
              stored := { pass.stored with finalizers := pass.stored.finalizers.filter fun f => f ≠ srv6Finalizer } }
          pure .settled
        else leave .failed

def reconcile (site : Site) (lists : ConflictLists) (answers : Answers) (svc : SRv6Service) :
    PassM ReconcileResult :=
  if svc.deletionTimestamp.isSome then
    if hasSRv6Finalizer svc then finalizeDelete site answers svc else pure .settled
  else reconcileLive site lists answers svc

end AgenticNetops.Srv6service
