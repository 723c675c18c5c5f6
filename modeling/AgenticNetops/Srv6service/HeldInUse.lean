import AgenticNetops.Srv6service.PassClaims
import AgenticNetops.Srv6service.World

set_option autoImplicit false

/- Whether what a node runs with stays claimed. A pass releases the claims of its
   correlation id behind rollbacks whose answers it does not look at, or behind none;
   and another service of the same correlation id may be the one that is in force. -/
namespace AgenticNetops.Srv6service

open GoText Api Kuid Fabricplan Ledger Pending Runs

/- What a node runs with is held under the service's correlation id and under no
   other, and no other service with something in force has that correlation id. -/
def HeldInUse (w : World) : Prop :=
  ∀ e, InForce w.log e →
    Holds w.store e.correlationID e.alloc ∧
    (∀ owner, w.store.HoldsID owner e.alloc.serviceID → owner = e.correlationID) ∧
    (∀ entry ∈ e.alloc.clientPrefixes, entry.2 ≠ "" → ∀ owner, w.store.HoldsPrefix owner entry.2 → owner = e.correlationID) ∧
    ∀ other, InForce w.log other → other.correlationID = e.correlationID → other.uid = e.uid

section Conditions
variable (site : Site) (w : World) (svc : SRv6Service) (answers : Answers)

-- The renders in force that carry the service's correlation id.
def InForceHere (e : Executed) : Prop := InForce w.log e ∧ e.correlationID = correlationID svc

instance (e : Executed) : Decidable (InForceHere w svc e) := inferInstanceAs (Decidable (_ ∧ _))

-- The rollbacks of this place undo the render, with OK.
def undoneAt (place : CallSite) (plan : SRv6Plan) (e : Executed) : Bool :=
  e.uid = svc.uid && e.call.node ∈ plan.keys && answers.apply place e.call.node = .ok &&
    Undoes (planNode plan e.call.node) e.call.plan

-- The plan that the pass would drive.
def stagedPlan : Option SRv6Plan :=
  let alloc :=
    match reuseAllocation svc (correlationID svc) site.facts.locators with
    | some alloc => some alloc
    | none => (allocate w.store svc.spec (correlationID svc) site.facts.locators answers.kuid).2.toOption
  alloc.bind fun alloc => (buildPlan svc.spec alloc site.facts).toOption

/- A first application that a node refuses: whatever ran on a node, in this pass or
   before it, is rolled back there with OK. -/
def RefusedUndone : Prop :=
  ∀ plan ∈ stagedPlan site w svc answers, (∃ node ∈ planOrder plan, applyStops answers.apply .firstApply node) →
    (∀ node ∈ reached (applyStops answers.apply .firstApply) (planOrder plan),
      (answers.apply .firstApply node).ranNothing = false → answers.apply .firstRollback node = .ok) ∧
    ∀ e ∈ w.log, InForceHere w svc e → undoneAt svc answers .firstRollback plan e = true

instance : Decidable (RefusedUndone site w svc answers) := inferInstanceAs (Decidable (∀ plan ∈ stagedPlan site w svc answers,
  (∃ node ∈ planOrder plan, applyStops answers.apply .firstApply node) →
    (∀ node ∈ reached (applyStops answers.apply .firstApply) (planOrder plan),
      (answers.apply .firstApply node).ranNothing = false → answers.apply .firstRollback node = .ok) ∧
    ∀ e ∈ w.log, InForceHere w svc e → undoneAt svc answers .firstRollback plan e = true))

/- What a live pass behind the gates may meet. Nothing of its correlation id is in
   force for another service; what it reuses is still held; what it is given is its
   own; and it releases nothing that is in force. -/
structure LiveKeeps : Prop where
  single : ∀ e ∈ w.log, InForceHere w svc e → e.uid = svc.uid
  reused : ∀ alloc ∈ reuseAllocation svc (correlationID svc) site.facts.locators,
    Holds w.store (correlationID svc) alloc.allocations
  fresh : reuseAllocation svc (correlationID svc) site.facts.locators = none →
    ShowsHolders w.store (correlationID svc) svc.spec answers.kuid ∧
    ServesFresh w.store (correlationID svc) svc.spec answers.kuid ∧
    (rangeSpent w.store (correlationID svc) answers.kuid = true ∨
      vlanTaken w.store (correlationID svc) svc.spec.vlan answers.kuid = true → ∀ e ∈ w.log, ¬ InForceHere w svc e)
  refused : svc.status.appliedSpec = none → RefusedUndone site w svc answers

theorem live_keeps_iff : LiveKeeps site w svc answers ↔
    (∀ e ∈ w.log, InForceHere w svc e → e.uid = svc.uid) ∧
    (∀ alloc ∈ reuseAllocation svc (correlationID svc) site.facts.locators,
      Holds w.store (correlationID svc) alloc.allocations) ∧
    (reuseAllocation svc (correlationID svc) site.facts.locators = none →
      ShowsHolders w.store (correlationID svc) svc.spec answers.kuid ∧
      ServesFresh w.store (correlationID svc) svc.spec answers.kuid ∧
      (rangeSpent w.store (correlationID svc) answers.kuid = true ∨
        vlanTaken w.store (correlationID svc) svc.spec.vlan answers.kuid = true → ∀ e ∈ w.log, ¬ InForceHere w svc e)) ∧
    (svc.status.appliedSpec = none → RefusedUndone site w svc answers) :=
  ⟨fun keeps => ⟨keeps.single, keeps.reused, keeps.fresh, keeps.refused⟩,
    fun ⟨single, reused, fresh, refused⟩ => ⟨single, reused, fresh, refused⟩⟩

instance : Decidable (LiveKeeps site w svc answers) := decidable_of_iff _ (live_keeps_iff site w svc answers).symm

-- A deletion without a dirty node: whatever is in force is rolled back by it, with OK.
def DeletionKeeps : Prop :=
  (∀ e ∈ finalizeCalls site answers svc, ¬ isDirty e.call) → ∀ e ∈ w.log, InForceHere w svc e →
    ∃ found ∈ finalizePlan site svc, undoneAt svc answers .finalizeRollback found.2 e = true

instance : Decidable (DeletionKeeps site w svc answers) :=
  inferInstanceAs (Decidable ((∀ e ∈ finalizeCalls site answers svc, ¬ isDirty e.call) → ∀ e ∈ w.log, InForceHere w svc e →
    ∃ found ∈ finalizePlan site svc, undoneAt svc answers .finalizeRollback found.2 e = true))

end Conditions

-- What a pass releases is not in force, and what it takes is its own.
def ReleasesSettled (site : Site) (w : World) : Action → Prop
  | .reconcile uid networks answers =>
      ∀ svc ∈ w.find uid,
        (svc.deletionTimestamp = none → passesGates site (w.lists svc networks answers) answers svc = true →
          LiveKeeps site w svc answers) ∧
        (svc.deletionTimestamp ≠ none → hasSRv6Finalizer svc = true → DeletionKeeps site w svc answers)
  | _ => True

instance (site : Site) (w : World) (action : Action) : Decidable (ReleasesSettled site w action) :=
  match action with
  | .reconcile uid networks answers =>
      inferInstanceAs (Decidable (∀ svc ∈ w.find uid,
        (svc.deletionTimestamp = none → passesGates site (w.lists svc networks answers) answers svc = true →
          LiveKeeps site w svc answers) ∧
        (svc.deletionTimestamp ≠ none → hasSRv6Finalizer svc = true → DeletionKeeps site w svc answers)))
  | .create _ | .edit _ _ | .delete _ _ => isTrue trivial

-- The invariant: the store is in order and covers what is in force.
structure Covered (w : World) : Prop where
  formed : w.store.WellFormed
  single : OneHolder w.store
  held : ∀ e, InForce w.log e → e.alloc.serviceID ≠ 0 ∧ Holds w.store e.correlationID e.alloc
  apart : ∀ e other, InForce w.log e → InForce w.log other → other.correlationID = e.correlationID → other.uid = e.uid

theorem covered_held_in_use (w : World) (covered : Covered w) : HeldInUse w := by
  intro e inForce
  obtain ⟨nonzero, held⟩ := covered.held e inForce
  refine ⟨held, fun owner other => ?_, fun entry member nonempty owner other => ?_, ?_⟩
  · exact covered.single.ids owner e.correlationID _ ⟨nonzero, other⟩ ⟨nonzero, held.1⟩
  · exact covered.single.prefixes owner e.correlationID _ ⟨nonempty, other⟩ ⟨nonempty, held.2 entry member⟩
  · exact fun other otherForce same => covered.apart e other inForce otherForce same

section Pass
variable (site : Site) (w : World) (svc : SRv6Service) (networks : List Kubenet.Network) (answers : Answers)

theorem undone_rolled_back (place : CallSite) (undoes : place.isRollback = true) (alloc : Allocation) (plan : SRv6Plan)
    (rendered : buildPlan svc.spec alloc site.facts = .ok plan) (e : Executed)
    (undone : undoneAt svc answers place plan e = true) :
    ∃ later ∈ logged svc alloc (rollbackPlan answers.apply place plan (planOrder plan)), RollsBack later e := by
  simp only [undoneAt, Bool.and_eq_true, decide_eq_true_eq] at undone
  obtain ⟨⟨⟨same, listed⟩, accepted⟩, covers⟩ := undone
  have called := rollback_call_mem answers.apply place svc.spec alloc site.facts plan rendered e.call.node listed
  exact ⟨_, List.mem_map_of_mem called, same.symm, rfl, undoes, accepted, covers⟩

theorem staged_plan_admitted (lists : ConflictLists) (alloc : Allocation) (plan : SRv6Plan) (grown : Store)
    (admitted : Admitted site lists answers svc w.store alloc plan grown) : plan ∈ stagedPlan site w svc answers := by
  have rendered := admitted.rendered
  rcases admitted.claims with ⟨reused, _⟩ | ⟨fresh, made⟩
  · simp [stagedPlan, reused, rendered, Except.toOption]
  · simp [stagedPlan, fresh, made, rendered, Except.toOption]

-- What ran of a refused first application, its own rollbacks undo.
theorem first_apply_undone (alloc : Allocation) (plan : SRv6Plan) (rendered : buildPlan svc.spec alloc site.facts = .ok plan)
    (accepted : ∀ node ∈ reached (applyStops answers.apply .firstApply) (planOrder plan),
      (answers.apply .firstApply node).ranNothing = false → answers.apply .firstRollback node = .ok) (e : Executed) :
    ¬ Open Applied RollsBack (logged svc alloc (undoneCalls answers plan)) e := by
  rw [logged, undoneCalls, List.map_append]
  intro pending
  rcases (open_append Applied RollsBack _ _ e).mp pending with ⟨applied, unsettled⟩ | rolledBack
  · obtain ⟨member, _, ran⟩ := open_mem Applied RollsBack _ e applied
    obtain ⟨call, called, rfl⟩ := List.mem_map.mp member
    rw [apply_plan_calls] at called
    obtain ⟨node, listed, rfl⟩ := List.mem_map.mp called
    have inPlan := (plan_order_mem plan node).mp (reached_mem _ _ node listed)
    have undo := rollback_call_mem answers.apply .firstRollback svc.spec alloc site.facts plan rendered node inPlan
    exact unsettled _ (List.mem_map_of_mem undo) ⟨rfl, rfl, rfl, accepted node listed ran, fun _ step => step⟩
  · obtain ⟨member, applied, _⟩ := open_mem Applied RollsBack _ e rolledBack
    obtain ⟨call, called, rfl⟩ := List.mem_map.mp member
    obtain ⟨node, _, rfl⟩ := rollback_plan_mem _ _ _ call called
    cases applied

-- Behind a release nothing is in force that carries the released correlation id.
theorem released_settled (grown : Store) (calls : List Executed)
    (live : svc.deletionTimestamp = none → passesGates site (w.lists svc networks answers) answers svc = true →
      LiveKeeps site w svc answers)
    (deletion : svc.deletionTimestamp ≠ none → hasSRv6Finalizer svc = true → DeletionKeeps site w svc answers)
    (releases : Releases site (w.lists svc networks answers) answers svc w.store grown calls) (e : Executed)
    (pending : InForce (w.log ++ calls) e) : e.correlationID ≠ correlationID svc := by
  intro here
  rcases releases with ⟨anew, spent, quiet⟩ | ⟨alive, alloc, plan, admitted, first, stopped, undone⟩ |
    ⟨deleting, finalizer, clean, undone⟩
  · rw [quiet, List.append_nil] at pending
    have keeps := (live anew.alive anew.gates).fresh anew.fresh
    exact keeps.2.2 spent e (open_mem Applied RollsBack _ e pending).1 ⟨pending, here⟩
  · have staged := staged_plan_admitted site w svc answers _ alloc plan grown admitted
    obtain ⟨accepted, earlier⟩ := (live alive admitted.gates).refused first plan staged stopped
    subst undone
    rcases (open_append Applied RollsBack w.log _ e).mp pending with ⟨before, unsettled⟩ | fresh
    · have reachedHere := earlier e (open_mem Applied RollsBack _ e before).1 ⟨before, here⟩
      obtain ⟨later, called, settles⟩ :=
        undone_rolled_back site svc answers .firstRollback rfl alloc plan admitted.rendered e reachedHere
      refine unsettled later ?_ settles
      rw [logged, undoneCalls, List.map_append]
      exact List.mem_append_right _ called
    · exact first_apply_undone site svc answers alloc plan admitted.rendered accepted e fresh
  · subst undone
    rcases (open_append Applied RollsBack w.log _ e).mp pending with ⟨before, unsettled⟩ | fresh
    · obtain ⟨⟨alloc, plan⟩, found, reachedHere⟩ :=
        deletion deleting finalizer clean e (open_mem Applied RollsBack _ e before).1 ⟨before, here⟩
      have rendered := finalize_plan_rendered site svc alloc plan found
      obtain ⟨later, called, settles⟩ :=
        undone_rolled_back site svc answers .finalizeRollback rfl alloc plan rendered e reachedHere
      refine unsettled later ?_ settles
      have planned : finalizePlan site svc = some (alloc, plan) := found
      rw [finalizeCalls, planned]
      exact called
    · obtain ⟨member, applied, _⟩ := open_mem Applied RollsBack _ e fresh
      rw [finalize_calls_rollback site answers svc e member] at applied
      cases applied

theorem pass_covered (covered : Covered w) (found : w.find svc.uid = some svc)
    (settled : ReleasesSettled site w (.reconcile svc.uid networks answers))
    (ended : PassEnd site (w.lists svc networks answers) answers svc w.store (w.pass site svc networks answers)) :
    Covered { services := putObject w.services (w.pass site svc networks answers).stored,
              store := (w.pass site svc networks answers).store,
              log := w.log ++ (w.pass site svc networks answers).calls } := by
  obtain ⟨live, deletion⟩ := settled svc found
  have calledOwn := pass_calls_own site _ answers svc w.store _ ended
  have formed := pass_formed site _ answers svc w.store covered.formed _ ended
  have single := pass_one_holder site _ answers svc w.store covered.formed _ ended covered.single
    fun anew => ((live anew.alive anew.gates).fresh anew.fresh).2.1
  have stays := fun e : Executed => spared_holds site _ answers svc w.store covered.formed _ ended e.correlationID e.alloc
  obtain ⟨grown, _, ends⟩ := pass_claims site _ answers svc w.store covered.formed _ ended
  generalize w.pass site svc networks answers = pass at *
  have spared : ∀ e, InForce (w.log ++ pass.calls) e → ∀ grown,
      Releases site (w.lists svc networks answers) answers svc w.store grown pass.calls → e.correlationID ≠ correlationID svc :=
    fun e pending grown releases =>
      released_settled site w svc networks answers grown pass.calls live deletion releases e pending
  -- an application of this pass, and what it says about its service
  have fresh : ∀ e, InForce (w.log ++ pass.calls) e → Open Applied RollsBack pass.calls e →
      LiveKeeps site w svc answers ∧ e.uid = svc.uid ∧ e.correlationID = correlationID svc ∧ e.alloc.serviceID ≠ 0 ∧
        Holds pass.store (correlationID svc) e.alloc := by
    intro e pending opened
    obtain ⟨member, applied, _⟩ := open_mem Applied RollsBack _ e opened
    obtain ⟨uid, own⟩ := calledOwn e member
    rcases ends with ⟨kept, admits⟩ | ⟨_, releases⟩
    · obtain ⟨alive, alloc, plan, admitted, same⟩ := admits e member applied
      have keeps := live alive admitted.gates
      have holds := (admitted_staged site _ answers svc w.store covered.formed alive alloc plan grown admitted).2.1 keeps.reused
        fun anew => (keeps.fresh anew).1
      obtain ⟨_, _, _, _, _, _, gates, _⟩ := for_srv6_service_parts _ _ _ plan admitted.rendered
      have positive : 0 < alloc.allocations.serviceID := gates.positive
      exact ⟨keeps, uid, own, by rw [same]; omega, by rw [kept, same]; exact holds⟩
    · exact absurd own (spared e pending grown releases)
  refine ⟨formed, single, ?_, ?_⟩
  · intro e pending
    rcases (open_append Applied RollsBack w.log _ e).mp pending with ⟨before, _⟩ | opened
    · obtain ⟨nonzero, held⟩ := covered.held e before
      exact ⟨nonzero, stays e held (spared e pending)⟩
    · obtain ⟨_, _, own, nonzero, held⟩ := fresh e pending opened
      exact ⟨nonzero, own ▸ held⟩
  · intro e other pending otherPending same
    rcases (open_append Applied RollsBack w.log _ e).mp pending with ⟨before, _⟩ | opened
    · rcases (open_append Applied RollsBack w.log _ other).mp otherPending with ⟨otherBefore, _⟩ | otherOpened
      · exact covered.apart e other before otherBefore same
      · obtain ⟨keeps, uid, own, _⟩ := fresh other otherPending otherOpened
        exact uid.trans (keeps.single e (open_mem Applied RollsBack _ e before).1 ⟨before, same.symm.trans own⟩).symm
    · obtain ⟨keeps, uid, own, _⟩ := fresh e pending opened
      rcases (open_append Applied RollsBack w.log _ other).mp otherPending with ⟨otherBefore, _⟩ | otherOpened
      · exact (keeps.single other (open_mem Applied RollsBack _ other otherBefore).1 ⟨otherBefore, same.trans own⟩).trans
          uid.symm
      · exact (fresh other otherPending otherOpened).2.1.trans uid.symm

end Pass

theorem covered_step (site : Site) (w w' : World) (action : Action) (covered : Covered w)
    (settled : ReleasesSettled site w action) (step : Step site w action w') : Covered w' := by
  rcases step_cases site w w' action step with
    ⟨svc, rfl, _, rfl⟩ | ⟨svc, spec, rfl, _, rfl⟩ | ⟨svc, now, rfl, _, _, rfl⟩ |
    ⟨svc, networks, answers, rfl, found, ended, rfl⟩
  · exact ⟨covered.formed, covered.single, covered.held, covered.apart⟩
  · exact ⟨covered.formed, covered.single, covered.held, covered.apart⟩
  · exact ⟨covered.formed, covered.single, covered.held, covered.apart⟩
  · exact pass_covered site w svc networks answers covered found settled ended

theorem covered_empty : Covered {} where
  formed := ⟨List.nodup_nil, List.nodup_nil, fun _ none => by cases none⟩
  single := one_holder_empty
  held _ none := none.elim
  apart _ _ none := none.elim

/- In every run that releases nothing in force and takes nothing of another one's:
   what is in force is held, by its own correlation id only. -/
theorem held_in_use (site : Site) (actions : List Action) (w : World)
    (run : Reached site (ReleasesSettled site) actions w) : HeldInUse w := by
  refine covered_held_in_use w (run_invariant (Step site) (ReleasesSettled site) Covered ?_ {} actions w covered_empty run)
  exact fun w action w' covered settled step => covered_step site w w' action covered settled step

/- Red is refused on its second leaf and undone, applied in the next pass, and
   deleted; blue is applied meanwhile, under its own correlation id. -/
def labRefusing (rollback : ApplyAnswer) : Answers :=
  { labAnswers 7 "192.168.1.0/24" "192.168.2.0/24" with
    apply := fun place node =>
      if place = .firstApply ∧ node = "leaf02" then .rejected 0 "no such port"
      else if place = .firstRollback ∧ node = "leaf01" then rollback else .ok }

def labRefusedOnce : List Action :=
  [.create (labService "red" "wan1"), .reconcile "uid-red" [] (labRefusing .ok), .reconcile "uid-red" [] (labRefusing .ok),
   .create (labService "blue" "wan2"), .reconcile "uid-blue" [] (labAnswers 8 "192.168.3.0/24" "192.168.4.0/24"),
   .reconcile "uid-blue" [] (labAnswers 8 "192.168.3.0/24" "192.168.4.0/24"),
   .reconcile "uid-red" [] (labAnswers 7 "192.168.1.0/24" "192.168.2.0/24"), .delete "uid-red" 3,
   .reconcile "uid-red" [] (labAnswers 7 "192.168.1.0/24" "192.168.2.0/24")]

theorem lab_refused_held : HeldInUse ((World.play labSite labRefusedOnce).getD {}) :=
  held_in_use labSite labRefusedOnce _ (world_played labSite (ReleasesSettled labSite) labRefusedOnce (by decide))

-- The rollback of the first leaf gets no answer: the claims go, the leaf keeps red's ops.
def labRollbackLost : List Action :=
  [.create (labService "red" "wan1"), .reconcile "uid-red" [] (labRefusing .ok),
   .reconcile "uid-red" [] (labRefusing (.transport 0 "timeout"))]

theorem lab_claims_lost :
    Reached labSite (fun _ _ => True) labRollbackLost ((World.play labSite labRollbackLost).getD {}) ∧
    ¬ HeldInUse ((World.play labSite labRollbackLost).getD {}) := by
  refine ⟨world_played labSite (fun _ _ => True) labRollbackLost (by decide), fun held => ?_⟩
  have lost : ∃ e ∈ ((World.play labSite labRollbackLost).getD {}).log,
      InForce ((World.play labSite labRollbackLost).getD {}).log e ∧
      ¬ Holds ((World.play labSite labRollbackLost).getD {}).store e.correlationID e.alloc := by decide
  obtain ⟨e, _, inForce, missing⟩ := lost
  exact missing (held e inForce).1

end AgenticNetops.Srv6service
