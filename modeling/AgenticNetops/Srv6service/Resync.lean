import AgenticNetops.Srv6service.PassEnd

set_option autoImplicit false

/- The result of a pass. The resync interval is the Ready stage's own: no stage leaves
   with it. -/
namespace AgenticNetops.Srv6service

open GoText Api Kuid Fabricplan Exits

def resync : ReconcileResult := .requeueAfter resyncInterval

-- What the reconciler returns, whether the pass has run through or was left.
def resultOf (outcome : Except ReconcileResult ReconcileResult) : ReconcileResult :=
  match outcome with
  | .ok result => result
  | .error result => result

-- The program leaves with another result than the resync interval.
abbrev Backs {α : Type} (m : PassM α) : Prop := Triple (fun _ => True) m (fun _ _ => True) (fun result _ => result ≠ resync)

theorem backs_bind {α β : Type} (m : PassM α) (f : α → PassM β) (first : Backs m) (rest : ∀ value, Backs (f value)) :
    Backs (m >>= f) := triple_bind _ _ m f (fun _ _ => True) _ first rest

theorem backs_pure {α : Type} (value : α) : Backs (pure value : PassM α) := fun _ _ => trivial

theorem backs_leave {α : Type} (result : ReconcileResult) (other : result ≠ resync) : Backs (leave result : PassM α) :=
  fun _ _ => other

theorem backs_read : Backs (read : PassM Pass) := fun _ _ => trivial

theorem backs_change (f : Pass → Pass) : Backs (change f : PassM Unit) := fun _ _ => trivial

theorem backs_ite {α : Type} (choice : Prop) [Decidable choice] (m n : PassM α) (yes : Backs m) (no : Backs n) :
    Backs (if choice then m else n) := triple_ite _ _ _ choice m n (fun _ => yes) fun _ => no

section Stages
variable (site : Site) (lists : ConflictLists) (answers : Answers) (svc : SRv6Service)

theorem patch_backs (place : PatchSite) (next : SRv6ServiceStatus) : Backs (patchStatus answers place next) := by
  intro pass _
  unfold patchStatus
  by_cases lands : answers.patch place
  · rw [if_pos lands]
    trivial
  · rw [if_neg lands]
    trivial

theorem refuse_backs {α : Type} (ref : Refusal) : Backs (refuse answers svc ref : PassM α) := by
  apply backs_bind _ _ backs_read
  intro pass
  apply backs_bind _ _ (patch_backs answers _ _)
  intro patched
  apply backs_ite
  · exact backs_leave _ (by decide)
  · exact backs_ite _ _ _ (backs_leave _ (by decide)) (backs_leave _ (by decide))

theorem refuse_if_backs (refusal : Option Refusal) : Backs (refuseIf answers svc refusal) := by
  cases refusal with
  | none => exact backs_pure ()
  | some ref => exact refuse_backs answers svc ref

theorem or_refuse_backs {α : Type} (value : Except Refusal α) : Backs (orRefuse answers svc value) := by
  cases value with
  | ok value => exact backs_pure value
  | error ref => exact refuse_backs answers svc ref

theorem ensure_finalizer_backs : Backs (ensureFinalizer answers svc) := by
  apply backs_ite
  · exact backs_pure ()
  · apply backs_ite
    · exact backs_bind _ _ (backs_change _) fun _ => backs_leave _ (by decide)
    · exact backs_leave _ (by decide)

theorem claim_stage_backs : Backs (claimStage site answers svc) := by
  apply backs_bind _ _ backs_read
  intro pass
  dsimp only
  split
  · exact backs_pure _
  · apply backs_bind _ _ (backs_change _)
    intro _
    split
    · exact backs_pure _
    · exact refuse_backs answers svc _
    · exact backs_leave _ (by decide)

variable (alloc : Allocation) (plan : SRv6Plan) (order : List String) (hashes : GoMap String)

theorem apply_update_backs : Backs (applyUpdate site answers svc alloc plan order hashes) := by
  apply backs_bind _ _ backs_read
  intro pass
  dsimp only
  split
  · exact backs_pure _
  · exact backs_pure _
  · apply backs_bind _ _ (backs_change _)
    intro _
    split
    · exact backs_pure _
    · apply backs_bind _ _ (backs_change _)
      intro _
      split
      · exact backs_pure _
      · apply backs_bind _ _ backs_read
        intro late
        apply backs_bind _ _ (patch_backs answers _ _)
        intro patched
        apply backs_ite
        · exact backs_pure _
        · exact backs_bind _ _ (backs_change _) fun _ => backs_pure _

theorem apply_stage_backs (unchanged : Bool) : Backs (applyStage site answers svc alloc plan order hashes unchanged) := by
  apply backs_bind _ _ backs_read
  intro pass
  apply backs_ite
  · exact backs_bind _ _ (apply_update_backs site answers svc alloc plan order hashes) fun refusal =>
      refuse_if_backs answers svc refusal
  · apply backs_ite
    · unfold firstApply
      split
      · exact backs_change _
      · apply backs_bind _ _ (backs_change _)
        intro _
        exact backs_bind _ _ (backs_change _) fun _ => refuse_backs answers svc _
    · exact backs_pure ()

theorem repair_drift_backs (drift : Refusal) : Backs (repairDrift site answers svc alloc plan order drift) := by
  apply backs_bind
  · apply backs_bind _ _ backs_read
    intro pass
    apply backs_bind _ _ (patch_backs answers _ _)
    intro patched
    exact backs_ite _ _ _ (backs_pure ()) (backs_change _)
  · intro _
    split
    · apply backs_bind _ _ (backs_change _)
      intro _
      exact backs_bind _ _ (backs_change _) fun _ => backs_pure _
    · exact backs_bind _ _ (backs_change _) fun _ => refuse_backs answers svc _

theorem verify_stage_backs (unchanged : Bool) : Backs (verifyStage site answers svc alloc plan order unchanged) := by
  apply backs_bind _ _ (backs_change _)
  intro _
  dsimp only
  split
  · exact backs_leave _ (by decide)
  · apply backs_bind _ _ (refuse_if_backs answers svc _)
    intro _
    split
    · exact backs_pure _
    · apply backs_ite
      · apply backs_bind _ _ (repair_drift_backs site answers svc alloc plan order _)
        intro remaining
        exact backs_bind _ _ (refuse_if_backs answers svc remaining) fun _ => backs_pure _
      · exact refuse_backs answers svc _

theorem ready_stage_backs (activePath : String) : Backs (readyStage answers svc alloc hashes activePath) := by
  have recorded : ∀ base next, Backs (recordReady answers base next) := by
    intro base next
    apply backs_ite
    · exact backs_pure _
    · apply backs_bind _ _ (patch_backs answers _ _)
      intro patched
      exact backs_ite _ _ _ (backs_pure _) (backs_leave _ (by decide))
  apply backs_bind _ _ backs_read
  intro pass
  dsimp only
  apply backs_ite
  · split
    · exact backs_bind _ _ (backs_leave _ (by decide)) fun _ => recorded _ _
    · exact backs_bind _ _ (refuse_backs answers svc _) fun _ => recorded _ _
    · exact recorded _ _
  · exact recorded _ _

theorem reconcile_live_backs : Backs (reconcileLive site lists answers svc) := by
  apply backs_bind _ _ (ensure_finalizer_backs answers svc)
  intro _
  apply backs_bind _ _ (refuse_if_backs answers svc _)
  intro _
  apply backs_bind _ _ (or_refuse_backs answers svc _)
  intro cap
  apply backs_bind _ _ (refuse_if_backs answers svc _)
  intro _
  apply backs_bind _ _ (refuse_if_backs answers svc _)
  intro _
  apply backs_bind _ _ (refuse_if_backs answers svc _)
  intro _
  apply backs_bind _ _ (claim_stage_backs site answers svc)
  intro alloc
  apply backs_bind _ _ (or_refuse_backs answers svc _)
  intro plan
  apply backs_bind _ _ backs_read
  intro pass
  apply backs_bind _ _ (apply_stage_backs site answers svc alloc plan _ _ _)
  intro _
  apply backs_bind _ _ (verify_stage_backs site answers svc alloc plan _ _)
  intro activePath
  exact ready_stage_backs answers svc alloc _ activePath

-- A deletion returns no resync interval either.
theorem finalize_delete_backs :
    Triple (fun _ => True) (finalizeDelete site answers svc) (fun result _ => result ≠ resync) (fun result _ => result ≠ resync) := by
  have finalized : ∀ message, Triple (fun _ => True) (finalizing answers svc message : PassM ReconcileResult)
      (fun result _ => result ≠ resync) (fun result _ => result ≠ resync) := by
    intro message
    apply triple_bind _ _ _ _ (fun _ _ => True) _ (fun _ _ => trivial)
    intro pass
    apply triple_bind _ _ _ _ (fun _ _ => True) _ (patch_backs answers _ _)
    intro patched s _
    change ReconcileResult.requeueAfter failureBackoff ≠ resync
    decide
  apply triple_bind _ _ _ _ (fun _ _ => True)
  · rw [rollbackForDelete]
    split
    · exact backs_pure _
    · exact backs_bind _ _ (backs_change _) fun _ => backs_pure _
  · intro dirty
    apply triple_ite
    · intro _
      exact finalized _
    · intro _
      apply triple_bind _ _ _ _ (fun _ _ => True) _ backs_read
      intro pass
      apply triple_bind _ _ _ _ (fun _ _ => True) _ (backs_change _)
      intro _
      split
      · exact finalized _
      · apply triple_ite
        · intro _
          apply triple_bind _ _ _ _ (fun _ _ => True) _ (backs_change _)
          intro _ s _
          change ReconcileResult.settled ≠ resync
          decide
        · intro _ s _
          change ReconcileResult.failed ≠ resync
          decide

-- A pass that returns the resync interval is a live one that has run through.
theorem resync_through (start : Pass) (returned : resultOf (reconcile site lists answers svc start).2 = resync) :
    svc.deletionTimestamp = none ∧ reconcile site lists answers svc start = reconcileLive site lists answers svc start ∧
      (reconcile site lists answers svc start).2 = .ok resync := by
  by_cases deleting : svc.deletionTimestamp.isSome
  · have other : resultOf (reconcile site lists answers svc start).2 ≠ resync := by
      rw [reconcile, if_pos deleting]
      by_cases finalizer : hasSRv6Finalizer svc
      · rw [if_pos finalizer]
        have ended := finalize_delete_backs site answers svc start trivial
        cases outcome : finalizeDelete site answers svc start with
        | mk pass result =>
            rw [outcome] at ended
            cases result <;> exact ended
      · rw [if_neg finalizer]
        change ReconcileResult.settled ≠ resync
        decide
    exact absurd returned other
  · have same : reconcile site lists answers svc start = reconcileLive site lists answers svc start := by
      rw [reconcile, if_neg deleting]
    have ended := reconcile_live_backs site lists answers svc start trivial
    rw [same] at returned ⊢
    refine ⟨by simpa using deleting, rfl, ?_⟩
    cases outcome : reconcileLive site lists answers svc start with
    | mk pass result =>
        rw [outcome] at ended returned
        cases result with
        | ok value => exact congrArg Except.ok returned
        | error value => exact absurd returned ended

end Stages

end AgenticNetops.Srv6service
