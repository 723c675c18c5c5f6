import AgenticNetops.Srv6service.NodeIsolation
import AgenticNetops.Srv6service.World

set_option autoImplicit false

/- When the finalizer of a service goes. The deletion rolls back what it can render
   from the current spec and the recorded allocations, and takes an OK=false answer
   for done; what was applied otherwise stays on the nodes. -/
namespace AgenticNetops.Srv6service

open GoText Api Fabricplan Pending Runs

-- The executor refused the node for good, behind the application.
def RefusesNode (later e : Executed) : Prop :=
  later.uid = e.uid ∧ later.call.node = e.call.node ∧ later.call.answer.isPermanent = true

def Settles (later e : Executed) : Prop := RollsBack later e ∨ RefusesNode later e

-- Whatever ran for the service has been rolled back, or its node is refused for good.
def Settled (log : List Executed) (uid : String) : Prop := ∀ e, e.uid = uid → ¬ Open Applied Settles log e

-- Nothing in the answers keeps the finalizer of a deleted service.
def FinalizerGoes (site : Site) (answers : Answers) (svc : SRv6Service) : Prop :=
  svc.deletionTimestamp ≠ none ∧ (∀ e ∈ finalizeCalls site answers svc, ¬ isDirty e.call) ∧
    answers.kuid.release = .done ∧ answers.patch .finalizerRemove

/- The deletion reaches an application: the plan it renders has the node, and that
   node's rollback undoes the application and is accepted, or is refused for good. -/
def reachedByDeletion (site : Site) (answers : Answers) (svc : SRv6Service) (e : Executed) : Bool :=
  match finalizePlan site svc with
  | none => false
  | some (_, plan) =>
      e.call.node ∈ plan.keys &&
        match answers.apply .finalizeRollback e.call.node with
        | .ok => Undoes (planNode plan e.call.node) e.call.plan
        | .permanent _ => true
        | _ => false

-- A pass that takes the finalizer reaches whatever of the service is not settled.
def DeletionReaches (site : Site) (w : World) : Action → Prop
  | .reconcile uid _ answers =>
      ∀ svc ∈ w.find uid, FinalizerGoes site answers svc →
        ∀ e ∈ w.log, e.uid = uid → Open Applied Settles w.log e → reachedByDeletion site answers svc e = true
  | _ => True

instance (later e : Executed) : Decidable (Settles later e) :=
  inferInstanceAs (Decidable (RollsBack later e ∨
    later.uid = e.uid ∧ later.call.node = e.call.node ∧ later.call.answer.isPermanent = true))

instance (site : Site) (answers : Answers) (svc : SRv6Service) : Decidable (FinalizerGoes site answers svc) :=
  inferInstanceAs (Decidable (_ ∧ _ ∧ _ ∧ _))

instance (site : Site) (w : World) (action : Action) : Decidable (DeletionReaches site w action) :=
  match action with
  | .reconcile uid _ answers =>
      inferInstanceAs (Decidable (∀ svc ∈ w.find uid, FinalizerGoes site answers svc →
        ∀ e ∈ w.log, e.uid = uid → Open Applied Settles w.log e → reachedByDeletion site answers svc e = true))
  | .create _ | .edit _ _ | .delete _ _ => isTrue trivial

def FinalizerKept (w : World) : Prop :=
  ∀ uid, Settled w.log uid ∨ ∃ svc, w.find uid = some svc ∧ hasSRv6Finalizer svc

theorem settled_append (log more : List Executed) (uid : String) (settled : Settled log uid)
    (others : ∀ e ∈ more, e.uid ≠ uid) : Settled (log ++ more) uid := by
  intro e same pending
  rcases (open_append Applied Settles log more e).mp pending with ⟨before, _⟩ | fresh
  · exact settled e same before
  · exact others e (open_mem Applied Settles more e fresh).1 same

-- Every node of the deletion's plan is called.
theorem finalize_call_mem (site : Site) (answers : Answers) (svc : SRv6Service) (alloc : Allocation) (plan : SRv6Plan)
    (found : finalizePlan site svc = some (alloc, plan)) (node : String) (listed : node ∈ plan.keys) :
    ⟨svc.uid, correlationID svc, alloc.allocations, callNode answers.apply .finalizeRollback plan node⟩ ∈
      finalizeCalls site answers svc := by
  have rendered := finalize_plan_rendered site svc alloc plan found
  rw [finalizeCalls, found]
  exact List.mem_map.mpr ⟨callNode answers.apply .finalizeRollback plan node,
    rollback_call_mem answers.apply .finalizeRollback svc.spec alloc site.facts plan rendered node listed, rfl⟩

-- What the deletion reaches, its calls settle.
theorem reached_settles (site : Site) (answers : Answers) (svc : SRv6Service) (e : Executed) (same : e.uid = svc.uid)
    (reached : reachedByDeletion site answers svc e = true) : ∃ later ∈ finalizeCalls site answers svc, Settles later e := by
  unfold reachedByDeletion at reached
  rcases found : finalizePlan site svc with _ | ⟨alloc, plan⟩
  · simp [found] at reached
  · simp only [found, Bool.and_eq_true, decide_eq_true_eq] at reached
    obtain ⟨listed, outcome⟩ := reached
    refine ⟨_, finalize_call_mem site answers svc alloc plan found e.call.node listed, ?_⟩
    cases answer : answers.apply .finalizeRollback e.call.node with
    | ok =>
        rw [answer] at outcome
        exact Or.inl ⟨same.symm, rfl, rfl, answer, of_decide_eq_true outcome⟩
    | permanent error => exact Or.inr ⟨same.symm, rfl, by rw [callNode, answer]; rfl⟩
    | rejected ran error => simp [answer] at outcome
    | transport ran error => simp [answer] at outcome

/- The service of a pass: still under its finalizer, or settled by the deletion, or
   as it was. -/
theorem pass_keeps_finalizer (site : Site) (w : World) (svc : SRv6Service) (networks : List Kubenet.Network) (answers : Answers)
    (found : w.find svc.uid = some svc)
    (ended : PassEnd site (w.lists svc networks answers) answers svc w.store (w.pass site svc networks answers))
    (reaches : DeletionReaches site w (.reconcile svc.uid networks answers))
    (before : Settled w.log svc.uid ∨ ∃ other, w.find svc.uid = some other ∧ hasSRv6Finalizer other) :
    Settled (w.log ++ (w.pass site svc networks answers).calls) svc.uid ∨
      ∃ stored, (putObject w.services (w.pass site svc networks answers).stored).find? (fun o => o.uid = svc.uid) =
        some stored ∧ hasSRv6Finalizer stored := by
  generalize w.pass site svc networks answers = pass at ended ⊢
  rcases pass_stored site _ answers svc w.store pass ended with same | ⟨_, deleting, calls, clean, done, lands, _⟩
  · have uid := same_object_uid svc pass.stored same
    by_cases finalizer : hasSRv6Finalizer svc
    · obtain ⟨kept, nonempty⟩ := same_object_finalizer svc pass.stored same finalizer
      have there : isGone pass.stored = false := by simp [isGone, nonempty]
      refine Or.inr ⟨pass.stored, ?_, kept⟩
      rw [← uid] at found ⊢
      exact find_put_same w.services pass.stored there svc found
    · have quiet : pass.calls = [] := by
        by_contra called
        exact finalizer (pass_calls_finalizer site _ answers svc w.store pass ended called)
      rw [quiet, List.append_nil]
      rcases before with settled | ⟨other, there, has⟩
      · exact Or.inl settled
      · rw [found, Option.some.injEq] at there
        exact absurd (there ▸ has) finalizer
  · refine Or.inl fun e own pending => ?_
    rw [calls] at pending
    rcases (open_append Applied Settles w.log _ e).mp pending with ⟨open_before, unsettled⟩ | fresh
    · have reached := reaches svc found ⟨deleting, clean, done, lands⟩ e (open_mem Applied Settles _ e open_before).1 own
        open_before
      obtain ⟨later, called, settles⟩ := reached_settles site answers svc e own reached
      exact unsettled later called settles
    · obtain ⟨member, applied, _⟩ := open_mem Applied Settles _ e fresh
      rw [finalize_calls_rollback site answers svc e member] at applied
      cases applied

-- An object that is changed and keeps its finalizers.
theorem put_keeps_finalizer (w : World) (svc stored : SRv6Service) (uid : String) (found : w.find svc.uid = some svc)
    (sameUid : stored.uid = svc.uid) (sameFinalizers : stored.finalizers = svc.finalizers)
    (before : ∃ other, w.find uid = some other ∧ hasSRv6Finalizer other) :
    ∃ other, (putObject w.services stored).find? (fun o => o.uid = uid) = some other ∧ hasSRv6Finalizer other := by
  obtain ⟨other, there, has⟩ := before
  by_cases same : uid = svc.uid
  · subst same
    rw [found, Option.some.injEq] at there
    subst there
    have finalizer : hasSRv6Finalizer stored := by rw [hasSRv6Finalizer, sameFinalizers]; exact has
    have nonempty : stored.finalizers ≠ [] := List.ne_nil_of_mem (by simpa [hasSRv6Finalizer] using finalizer)
    refine ⟨stored, ?_, finalizer⟩
    rw [← sameUid] at found ⊢
    exact find_put_same w.services stored (by simp [isGone, nonempty]) svc found
  · have different : uid ≠ stored.uid := fun alike => same (alike.trans sameUid)
    exact ⟨other, (find_put_other w.services stored uid different).trans there, has⟩

theorem finalizer_kept_step (site : Site) (w w' : World) (action : Action) (kept : FinalizerKept w)
    (reaches : DeletionReaches site w action) (step : Step site w action w') : FinalizerKept w' := by
  intro uid
  rcases step_cases site w w' action step with
    ⟨svc, rfl, new, rfl⟩ | ⟨svc, spec, rfl, found, rfl⟩ | ⟨svc, now, rfl, found, _, rfl⟩ |
    ⟨svc, networks, answers, rfl, found, ended, rfl⟩
  · rcases kept uid with settled | ⟨other, there, has⟩
    · exact Or.inl settled
    · exact Or.inr ⟨other, by simp [World.find] at there ⊢; simp [there], has⟩
  · exact (kept uid).imp_right (put_keeps_finalizer w svc _ uid found rfl rfl)
  · exact (kept uid).imp_right (put_keeps_finalizer w svc _ uid found rfl rfl)
  · by_cases same : uid = svc.uid
    · subst same
      exact pass_keeps_finalizer site w svc networks answers found ended reaches (kept svc.uid)
    · have stored : (w.pass site svc networks answers).stored.uid = svc.uid := pass_stored_uid site _ answers svc w.store _ ended
      rcases kept uid with settled | ⟨other, there, has⟩
      · refine Or.inl (settled_append w.log _ uid settled fun e member => ?_)
        rw [(pass_calls_own site _ answers svc w.store _ ended e member).1]
        exact Ne.symm same
      · refine Or.inr ⟨other, ?_, has⟩
        exact (find_put_other w.services _ uid (by rw [stored]; exact same)).trans there

/- In every run whose deletions reach what the service has in force: an object whose
   finalizer is gone is settled on every node. -/
theorem finalizer_kept_until_settled (site : Site) (actions : List Action) (w : World)
    (run : Reached site (DeletionReaches site) actions w) : FinalizerKept w := by
  refine run_invariant (Step site) (DeletionReaches site) FinalizerKept ?_ {} actions w ?_ run
  · exact fun w action w' kept reaches step => finalizer_kept_step site w w' action kept reaches step
  · exact fun uid => Or.inl fun e _ pending => pending

-- The lab's red service: created, applied, deleted, rolled back.
def labLifetime : List Action :=
  [.create (labService "red" "wan1"), .reconcile "uid-red" [] (labAnswers 7 "192.168.1.0/24" "192.168.2.0/24"),
   .reconcile "uid-red" [] (labAnswers 7 "192.168.1.0/24" "192.168.2.0/24"), .delete "uid-red" 3,
   .reconcile "uid-red" [] (labAnswers 7 "192.168.1.0/24" "192.168.2.0/24")]

theorem lab_lifetime_settled : FinalizerKept ((World.play labSite labLifetime).getD {}) :=
  finalizer_kept_until_settled labSite labLifetime _ (world_played labSite (DeletionReaches labSite) labLifetime (by decide))

/- Applied, but never verified: the status has no allocations yet, so the deletion has
   no plan to roll back, and the finalizer goes. -/
def labUnverifiedLifetime : List Action :=
  [.create (labService "red" "wan1"), .reconcile "uid-red" [] (labAnswers 7 "192.168.1.0/24" "192.168.2.0/24"),
   .reconcile "uid-red" [] { labAnswers 7 "192.168.1.0/24" "192.168.2.0/24" with verify := labSilent },
   .delete "uid-red" 3, .reconcile "uid-red" [] (labAnswers 7 "192.168.1.0/24" "192.168.2.0/24")]

theorem lab_unverified_left_behind :
    Reached labSite (fun _ _ => True) labUnverifiedLifetime ((World.play labSite labUnverifiedLifetime).getD {}) ∧
    ¬ FinalizerKept ((World.play labSite labUnverifiedLifetime).getD {}) := by
  refine ⟨world_played labSite (fun _ _ => True) labUnverifiedLifetime (by decide), fun kept => ?_⟩
  rcases kept "uid-red" with settled | ⟨svc, found, _⟩
  · have applied : ∃ e ∈ ((World.play labSite labUnverifiedLifetime).getD {}).log, e.uid = "uid-red" ∧
        Open Applied Settles ((World.play labSite labUnverifiedLifetime).getD {}).log e := by decide
    obtain ⟨e, _, own, pending⟩ := applied
    exact settled e own pending
  · have gone : ((World.play labSite labUnverifiedLifetime).getD {}).find "uid-red" = none := by decide
    rw [gone] at found
    cases found

end AgenticNetops.Srv6service
