import AgenticNetops.Srv6service.SteadyState

set_option autoImplicit false

/- Whatever has been recorded and whatever went wrong before: once the surroundings answer
   well, the service is Ready within two passes, and the passes behind them leave the world
   as it is. -/
namespace AgenticNetops.Srv6service

open GoText Api Kuid Kubenet Fabricplan Exits Runs

section Calls
variable (answers : ApplyAnswers) (accepted : ∀ place node, answers place node = .ok)
include accepted

theorem apply_accepted (place : CallSite) (plan : SRv6Plan) (order : List String) : (applyPlan answers place plan order).2 = none := by
  induction order with
  | nil => rfl
  | cons node rest ih =>
      rw [applyPlan]
      simp only [callNode, accepted place node]
      exact ih

theorem remove_accepted (prev : SRv6Plan) (nodes : List String) : (removeNodes answers prev nodes).2 = none := by
  induction nodes with
  | nil => rfl
  | cons node rest ih =>
      rw [removeNodes]
      simp only [callNode, accepted .removal node]
      exact ih

theorem drive_update_accepted (prev plan : SRv6Plan) (order : List String) : (driveUpdate answers prev plan order).2 = none := by
  have removed := remove_accepted answers accepted prev (diffNodes prev plan)
  have applied := apply_accepted answers accepted .updateApply plan order
  rw [driveUpdate]
  cases removing : removeNodes answers prev (diffNodes prev plan) with
  | mk removals stopped =>
      rw [removing] at removed
      subst removed
      cases applying : applyPlan answers .updateApply plan order with
      | mk calls failed =>
          rw [applying] at applied
          subst applied
          rfl

end Calls

section Good
variable (site : Site) (lists : ConflictLists) (answers : Answers) (svc : SRv6Service) (store : Store)
  (alloc : Allocation) (plan : SRv6Plan) (claimed : Store)

/- Every answer that the pass can ask for is a good one: the gates let the service through,
   its identifiers are served, the plan and the one applied before it render, every node takes
   its calls and verifies, a leg serves the path, the probe passes, and the writes land. -/
structure Favourable : Prop where
  admitted : Admitted site lists answers svc store alloc plan claimed
  previous : ∀ applied, svc.status.appliedSpec = some applied → ∃ prev, buildPlan applied alloc site.facts = .ok prev
  accepted : ∀ place node, answers.apply place node = .ok
  verified : ∀ stage, (verifyPlan answers.verify stage plan site.facts.locators (planOrder plan)).2 = none
  served : ∃ observation, observed site answers svc alloc plan = .ok observation ∧
    (steerPathOutcome svc.spec (steeredPathView svc.spec (planOrder plan) alloc.serviceSIDs site.facts.spineLinks) observation
      none).refusal = none
  probed : ∃ detail, runDataPath answers.verify svc.spec alloc = .verdict true detail
  written : ∀ place, answers.patch place = true

-- Through the gates and over its claims, the pass comes to its stages.
theorem admitted_drives (alive : svc.deletionTimestamp = none) (admitted : Admitted site lists answers svc store alloc plan claimed) :
    reconcile site lists answers svc (startPass svc store) = driveStages site answers svc alloc plan (claimedPass svc store claimed) := by
  cases admitted.claims with
  | inl reused =>
      obtain ⟨reused, same⟩ := reused
      subst same
      exact gates_drive site lists answers svc claimed alloc plan admitted.gates alive reused admitted.rendered
  | inr fresh =>
      have gates := admitted.gates
      simp only [passesGates, Bool.and_eq_true, Option.isNone_iff_eq_none] at gates
      obtain ⟨⟨⟨finalizer, siteValid⟩, capable⟩, free⟩ := gates
      cases read : readCapability answers.capability with
      | error ref => simp [read] at capable
      | ok cap =>
          simp only [read, Bool.and_eq_true, Option.isNone_iff_eq_none] at capable
          have none : reuseAllocation { svc with status := (startPass svc store).status } (correlationID svc) site.facts.locators = none :=
            fresh.1
          have made : allocate (startPass svc store).store svc.spec (correlationID svc) site.facts.locators answers.kuid =
            (claimed, .ok alloc) := fresh.2
          rw [reconcile, if_neg (by simp [alive]), reconcileLive, ensureFinalizer, if_pos finalizer, siteValid, read, free]
          simp only [bind_run, pure_run, refuseIf, orRefuse, capable.1, capable.2, claimStage, read_run, none, made, change_run,
            admitted.rendered, Except.mapError]
          rfl

variable (good : Favourable site lists answers svc store alloc plan claimed)
include good

theorem patch_lands (place : PatchSite) (next : SRv6ServiceStatus) (pass : Pass) :
    patchStatus answers place next pass = (pass.patched next, .ok true) := by
  rw [patchStatus, if_pos (good.written place)]

theorem apply_update_through (hashes : GoMap String) (pass : Pass) (same : pass.status.appliedSpec = svc.status.appliedSpec) :
    ∃ after, applyUpdate site answers svc alloc plan (planOrder plan) hashes pass = (after, .ok none) := by
  rw [applyUpdate]
  simp only [bind_run, read_run, same]
  cases recorded : svc.status.appliedSpec with
  | none => exact ⟨pass, rfl⟩
  | some applied =>
      obtain ⟨prev, rendered⟩ := good.previous applied recorded
      have driven := drive_update_accepted answers.apply good.accepted prev plan (planOrder plan)
      have verified := good.verified .update
      simp only [renderAppliedPlan, rendered, Except.map]
      cases driving : driveUpdate answers.apply prev plan (planOrder plan) with
      | mk calls failed =>
          rw [driving] at driven
          subst driven
          cases verifying : verifyPlan answers.verify .update plan site.facts.locators (planOrder plan) with
          | mk nodes refusal =>
              rw [verifying] at verified
              subst verified
              simp only [bind_run, logCalls, change_run, setNodes, read_run,
                patch_lands site lists answers svc store alloc plan claimed good]
              exact ⟨_, rfl⟩

theorem apply_stage_through (hashes : GoMap String) (unchanged : Bool) (pass : Pass)
    (same : pass.status.appliedSpec = svc.status.appliedSpec) :
    ∃ after, applyStage site answers svc alloc plan (planOrder plan) hashes unchanged pass = (after, .ok ()) := by
  rw [applyStage]
  simp only [bind_run, read_run]
  by_cases update : pass.status.appliedSpec.isSome ∧ ¬ unchanged
  · obtain ⟨after, through⟩ := apply_update_through site lists answers svc store alloc plan claimed good hashes pass same
    rw [if_pos update]
    simp only [bind_run, through]
    exact ⟨after, rfl⟩
  · rw [if_neg update]
    by_cases first : ¬ unchanged
    · rw [if_pos first, firstApply]
      have applied := apply_accepted answers.apply good.accepted .firstApply plan (planOrder plan)
      cases applying : applyPlan answers.apply .firstApply plan (planOrder plan) with
      | mk calls failed =>
          rw [applying] at applied
          subst applied
          exact ⟨_, rfl⟩
    · rw [if_neg first]
      exact ⟨pass, rfl⟩

theorem ready_stage_through (hashes : GoMap String) (activePath : String) (pass : Pass) :
    ∃ after, readyStage answers svc alloc hashes activePath pass = (after, .ok resync) := by
  obtain ⟨detail, probed⟩ := good.probed
  have recording : ∀ next, ∃ after, recordReady answers pass.status next pass = (after, .ok resync) := by
    intro next
    rw [recordReady]
    by_cases same : next = pass.status
    · rw [if_pos same]
      exact ⟨pass, rfl⟩
    · rw [if_neg same]
      simp only [bind_run, patch_lands site lists answers svc store alloc plan claimed good]
      exact ⟨_, rfl⟩
  rw [readyStage]
  simp only [bind_run, read_run, probed]
  by_cases passed : dataPathPassed pass.status = true
  · rw [if_neg (not_not.mpr passed)]
    exact recording _
  · rw [if_pos passed]
    exact recording _

/- The pass takes the Ready path to its end. -/
theorem favourable_resyncs (alive : svc.deletionTimestamp = none) :
    resultOf (reconcile site lists answers svc (startPass svc store)).2 = resync := by
  obtain ⟨observation, seen, leg⟩ := good.served
  have clean : mainRefusal site answers plan = none := good.verified .main
  rw [admitted_drives site lists answers svc store alloc plan claimed alive good.admitted, driveStages]
  simp only [bind_run, read_run]
  obtain ⟨applied, through⟩ := apply_stage_through site lists answers svc store alloc plan claimed good (planHashes site.digest plan)
    (hashesEqual (claimedPass svc store claimed).status.configHashes (planHashes site.digest plan)) (claimedPass svc store claimed) rfl
  simp only [through]
  rw [verify_stage_steady site answers svc alloc plan observation _ seen rfl (by rw [clean]; exact leg) (by rw [clean, ite_self])]
  dsimp only
  obtain ⟨after, ended⟩ := ready_stage_through site lists answers svc store alloc plan claimed good (planHashes site.digest plan) _ _
  rw [ended]
  rfl

end Good

/- The object as the Ready stage leaves it: its record is the current spec's, and another
   Ready stage would write it as it is. -/
structure Converged (site : Site) (svc : SRv6Service) (alloc : Allocation) (plan : SRv6Plan) (activePath : String)
    (stored : SRv6Service) : Prop where
  object : SameObject svc stored
  ready : isReady stored.status = true
  current : stored.status.observedGeneration = svc.generation
  settled : SteadyStatus svc alloc (planHashes site.digest plan) activePath stored.status

section Settled
variable (site : Site) (lists : ConflictLists) (answers : Answers) (svc : SRv6Service) (store : Store)
  (alloc : Allocation) (plan : SRv6Plan) (claimed : Store)

-- The leg that the pass goes on with; none for a service that is not steered.
def takenPath : String :=
  match observed site answers svc alloc plan with
  | .ok observation =>
      (steerPathOutcome svc.spec (steeredPathView svc.spec (planOrder plan) alloc.serviceSIDs site.facts.spineLinks) observation
        none).activePath
  | .error _ => ""

theorem admitted_same (other : Allocation) (rendered : SRv6Plan) (made : Store)
    (first : Admitted site lists answers svc store alloc plan claimed) (second : Admitted site lists answers svc store other rendered made) :
    other = alloc ∧ rendered = plan := by
  have same : other = alloc := by
    rcases first.claims with ⟨reused, _⟩ | ⟨fresh, made⟩
    · rcases second.claims with ⟨again, _⟩ | ⟨absent, _⟩
      · exact Option.some.inj (again.symm.trans reused)
      · cases absent.symm.trans reused
    · rcases second.claims with ⟨again, _⟩ | ⟨_, remade⟩
      · cases fresh.symm.trans again
      · have results := congrArg Prod.snd (remade.symm.trans made)
        exact Except.ok.inj results
  subst same
  exact ⟨rfl, Except.ok.inj (second.rendered.symm.trans first.rendered)⟩

theorem settled_ready (hashes : GoMap String) (activePath : String) (status : SRv6ServiceStatus)
    (settled : SteadyStatus svc alloc hashes activePath status) : isReady status = true := by
  have ready := ready_outcome_ready 0 status svc.generation hashes svc.spec (correlationID svc) activePath alloc.allocations
  rw [settled_outcome svc alloc hashes activePath status settled 0] at ready
  exact ready

/- A pass under good answers leaves the service converged, whatever was recorded before. -/
theorem favourable_converges (alive : svc.deletionTimestamp = none)
    (good : Favourable site lists answers svc store alloc plan claimed) :
    Converged site svc alloc plan (takenPath site answers svc alloc plan)
      (reconcile site lists answers svc (startPass svc store)).1.stored := by
  have returned := favourable_resyncs site lists answers svc store alloc plan claimed good alive
  obtain ⟨other, rendered, made, took⟩ := resync_took_ready site lists answers svc store returned
  obtain ⟨sameAlloc, samePlan⟩ := admitted_same site lists answers svc store alloc plan claimed other rendered made good.admitted took.admitted
  subst sameAlloc samePlan
  have clean : mainRefusal site answers rendered = none := good.verified .main
  obtain ⟨activePath, ⟨observation, seen, path, outcome, _, taken⟩, left⟩ := took.leaves
  have unlost : ¬ driftLost site answers svc other rendered := by
    intro lost
    have unrepaired := unfailing_unrepaired site answers svc other rendered clean
    rw [driftLost, repaired, unrepaired, Bool.and_false] at lost
    exact Bool.false_ne_true lost.1
  have leg : activePath = takenPath site answers svc other rendered := by
    rw [takenPath, seen, taken, outcome, clean]
  subst leg
  have object : SameObject svc (reconcile site lists answers svc (startPass svc store)).1.stored := by
    rcases pass_stored site lists answers svc store _ (reconcile_ends site lists answers svc store) with object | ⟨_, deleting, _⟩
    · exact object
    · exact absurd alive deleting
  exact ⟨object, settled_ready svc other _ _ _ left.settled, left.current unlost, left.settled⟩

/- Over a converged object a pass under good answers touches nothing. -/
theorem converged_fixed (stored : SRv6Service) (activePath : String) (alive : svc.deletionTimestamp = none)
    (admitted : Admitted site lists answers svc store alloc plan claimed)
    (good : Favourable site lists answers svc store alloc plan claimed) (again : ConflictLists) (claims : Store)
    (gates : passesGates site again answers stored = true)
    (taken : activePath = takenPath site answers svc alloc plan)
    (converged : Converged site svc alloc plan activePath stored) :
    let pass := (reconcile site again answers stored (startPass stored claims)).1
    pass.stored = stored ∧ pass.store = claims ∧ pass.calls = [] := by
  obtain ⟨observation, seen, leg⟩ := good.served
  have clean : mainRefusal site answers plan = none := good.verified .main
  have serves := admitted_serves site lists answers svc store claimed alloc plan admitted
  obtain ⟨⟨status, finalizers, kept, same⟩, _, current, settled⟩ := converged
  subst same
  have reused : reuseAllocation { svc with status, finalizers } (correlationID svc) site.facts.locators = some alloc :=
    serves_reused { svc with status, finalizers } (correlationID svc) site.facts.locators alloc settled.allocations
      settled.correlated serves
  have hashed : hashesEqual (startPass { svc with status, finalizers } claims).status.configHashes (planHashes site.digest plan) = true := by
    change hashesEqual status.configHashes _ = true
    rw [settled.hashes]
    exact plan_hashes_equal site.digest _ _ _ plan admitted.rendered
  have unapplied : applyStage site answers { svc with status, finalizers } alloc plan (planOrder plan) (planHashes site.digest plan) true
      (startPass { svc with status, finalizers } claims) = (startPass { svc with status, finalizers } claims, .ok ()) := by
    rw [applyStage]
    simp
  dsimp only
  rw [gates_drive site again answers { svc with status, finalizers } claims alloc plan gates alive reused admitted.rendered, driveStages]
  simp only [bind_run, read_run, hashed, unapplied]
  rw [verify_stage_steady site answers { svc with status, finalizers } alloc plan observation _ seen rfl (by rw [clean]; exact leg)
    (by rw [clean, ite_self])]
  dsimp only
  have path : (steerPathOutcome svc.spec (steeredPathView svc.spec (planOrder plan) alloc.serviceSIDs site.facts.spineLinks) observation
      (mainRefusal site answers plan)).activePath = activePath := by
    rw [taken, takenPath, seen, clean]
  rw [path, ready_stage_steady answers { svc with status, finalizers } alloc (planHashes site.digest plan) activePath _
    ⟨settled.conditions, settled.allocations, settled.activePath, settled.probed, settled.hashes, settled.applied, settled.correlated⟩,
    recordReady, if_pos]
  · exact ⟨rfl, rfl, rfl⟩
  · have generation : status.observedGeneration = svc.generation := current
    change ({ status with nodes := _, observedGeneration := svc.generation } : SRv6ServiceStatus) = { status with nodes := _ }
    rw [← generation]

end Settled

section Others
variable (services : List SRv6Service) (stored : SRv6Service)

-- An exchanged object does not count where no object of its name does.
theorem put_filtered (keep : SRv6Service → Bool) (gone : isGone stored = false)
    (dropped : ∀ other : SRv6Service, other.uid = stored.uid → keep other = false) :
    (putObject services stored).filter keep = services.filter keep := by
  induction services with
  | nil => rfl
  | cons first rest ih =>
      rw [putObject] at ih ⊢
      by_cases same : first.uid = stored.uid
      · have firstDropped := dropped first same
        have storedDropped := dropped stored rfl
        rw [List.filterMap_cons_some (b := stored) (by simp [same, gone]), List.filter_cons_of_neg (by simp [storedDropped]),
          List.filter_cons_of_neg (by simp [firstDropped])]
        exact ih
      · rw [List.filterMap_cons_some (b := first) (by simp [same]), List.filter_cons, List.filter_cons, ih]

theorem put_conflicts (w : World) (svc : SRv6Service) (networks : List Network) (answers : Answers) (own : stored.uid = svc.uid)
    (gone : isGone stored = false) (store : Store) (log : List Executed) :
    checkConflicts svc (World.lists ⟨putObject w.services stored, store, log⟩ svc networks answers) =
      checkConflicts svc (w.lists svc networks answers) := by
  unfold checkConflicts World.lists
  by_cases listed : answers.servicesListed
  · simp only [listed, if_true]
    have dropped : ∀ other : SRv6Service, other.uid = stored.uid →
        (holdsAgainst svc other && decide (other.inNamespace = svc.inNamespace)) = false := by
      intro other same
      simp [holdsAgainst, same.trans own]
    rw [List.filter_filter, List.filter_filter, put_filtered w.services stored _ gone dropped]
  · simp only [listed, Bool.false_eq_true, if_false]

-- What has been put is there once for all that bore its name.
theorem put_only (gone : isGone stored = false) (other : SRv6Service) (member : other ∈ putObject services stored)
    (same : other.uid = stored.uid) : other = stored := by
  obtain ⟨old, _, kept⟩ := List.mem_filterMap.mp member
  by_cases own : old.uid = stored.uid
  · simp only [own, if_true, gone, Bool.false_eq_true, if_false, Option.some.injEq] at kept
    exact kept.symm
  · simp only [own, if_false, Option.some.injEq] at kept
    subst kept
    exact absurd same own

theorem put_again (gone : isGone stored = false) (only : ∀ other ∈ services, other.uid = stored.uid → other = stored) :
    putObject services stored = services := by
  induction services with
  | nil => rfl
  | cons first rest ih =>
      have later := ih fun other member => only other (List.mem_cons_of_mem first member)
      rw [putObject] at later ⊢
      by_cases same : first.uid = stored.uid
      · have whole := only first List.mem_cons_self same
        rw [List.filterMap_cons_some (b := stored) (by simp [same, gone]), later, whole]
      · rw [List.filterMap_cons_some (b := first) (by simp [same]), later]

end Others

-- The object with the finalizer that a first pass would add.
def finalized (svc : SRv6Service) : SRv6Service :=
  if hasSRv6Finalizer svc then svc else { svc with finalizers := svc.finalizers ++ [srv6Finalizer] }

section Worlds
variable (site : Site) (w : World) (networks : List Network) (answers : Answers) (svc : SRv6Service)

theorem next_reconcile (found : w.find svc.uid = some svc) :
    w.next site (.reconcile svc.uid networks answers) =
      some ⟨putObject w.services (w.pass site svc networks answers).stored, (w.pass site svc networks answers).store,
        w.log ++ (w.pass site svc networks answers).calls⟩ := by
  rw [World.next]
  simp only [found]

theorem alive_stays (stored : SRv6Service) (same : stored.deletionTimestamp = none) : isGone stored = false := by
  simp [isGone, same]

theorem same_object_alive (stored : SRv6Service) (alive : svc.deletionTimestamp = none) (same : SameObject svc stored) :
    stored.deletionTimestamp = none := by
  obtain ⟨_, _, _, same⟩ := same
  rw [same]
  exact alive

theorem same_object_conflicts (stored : SRv6Service) (same : SameObject svc stored) (world : World) :
    checkConflicts stored (world.lists stored networks answers) = checkConflicts svc (world.lists svc networks answers) := by
  obtain ⟨_, _, _, rfl⟩ := same
  rfl

variable (alloc : Allocation) (plan : SRv6Plan) (claimed : Store)

/- From an object with its finalizer one pass is enough: the world it ends in is one that
   the same pass leaves as it is. -/
theorem settles (alive : svc.deletionTimestamp = none) (found : w.find svc.uid = some svc)
    (good : Favourable site (w.lists svc networks answers) answers svc w.store alloc plan claimed) :
    ∃ settled : World, w.next site (.reconcile svc.uid networks answers) = some settled ∧
      settled.next site (.reconcile svc.uid networks answers) = some settled ∧
      ∃ stored, settled.find svc.uid = some stored ∧
        Converged site svc alloc plan (takenPath site answers svc alloc plan) stored := by
  have converged := favourable_converges site (w.lists svc networks answers) answers svc w.store alloc plan claimed alive good
  have stepped := next_reconcile site w networks answers svc found
  change Converged site svc alloc plan (takenPath site answers svc alloc plan) (w.pass site svc networks answers).stored at converged
  generalize (w.pass site svc networks answers).stored = stored at converged stepped
  generalize (w.pass site svc networks answers).store = store at stepped
  generalize w.log ++ (w.pass site svc networks answers).calls = log at stepped
  have own : stored.uid = svc.uid := same_object_uid svc stored converged.object
  have kept := alive_stays stored (same_object_alive svc stored alive converged.object)
  have there : (World.find ⟨putObject w.services stored, store, log⟩ svc.uid) = some stored := by
    rw [← own]
    exact find_put_same w.services stored kept svc (own.symm ▸ found)
  have gates : passesGates site (World.lists ⟨putObject w.services stored, store, log⟩ stored networks answers) answers stored = true := by
    apply gates_again site (w.lists svc networks answers) answers svc answers _ stored converged.object good.admitted.gates rfl
    rw [same_object_conflicts networks answers svc stored converged.object]
    exact put_conflicts stored w svc networks answers own kept store log
  obtain ⟨object, claims, calls⟩ := converged_fixed site (w.lists svc networks answers) answers svc w.store alloc plan claimed stored _
    alive good.admitted good (World.lists ⟨putObject w.services stored, store, log⟩ stored networks answers) store gates rfl converged
  refine ⟨_, stepped, ?_, stored, there, converged⟩
  have again := next_reconcile site ⟨putObject w.services stored, store, log⟩ networks answers stored (own.symm ▸ there)
  rw [own] at again
  rw [again]
  unfold World.pass
  rw [object, claims, calls, List.append_nil,
    put_again (putObject w.services stored) stored kept fun other member => put_only w.services stored kept other member]

-- Without its finalizer the object gets it, and nothing else happens.
theorem adds_finalizer (alive : svc.deletionTimestamp = none) (lacks : hasSRv6Finalizer svc = false)
    (lands : answers.patch .finalizerAdd = true) (lists : ConflictLists) (store : Store) :
    (reconcile site lists answers svc (startPass svc store)).1 =
      { startPass svc store with stored := { svc with finalizers := svc.finalizers ++ [srv6Finalizer] } } := by
  rw [reconcile, if_neg (by simp [alive]), reconcileLive, ensureFinalizer, if_neg (by simp [lacks]), if_pos lands]
  rfl

theorem play_first (world next : World) (action : Action) (moved : world.next site action = some next) (n : Nat) :
    play (World.next site) world (List.replicate (n + 1) action) = play (World.next site) next (List.replicate n action) := by
  rw [List.replicate_succ, play, List.foldlM_cons, moved]
  rfl

theorem play_fixed (world : World) (action : Action) (fixed : world.next site action = some world) (n : Nat) :
    play (World.next site) world (List.replicate n action) = some world := by
  induction n with
  | zero => rfl
  | succ n ih => rw [play_first site world world action fixed, ih]

/- Whatever the world has come to, a live service that the answers favour is Ready for its
   current spec after two passes at most, and every later pass leaves the world as it is. -/
theorem recovers (alive : svc.deletionTimestamp = none) (found : w.find svc.uid = some svc)
    (good : Favourable site (w.lists svc networks answers) answers (finalized svc) w.store alloc plan claimed) :
    ∃ settled : World,
      (∀ n, 2 ≤ n → play (World.next site) w (List.replicate n (.reconcile svc.uid networks answers)) = some settled) ∧
      ∃ stored, settled.find svc.uid = some stored ∧
        Converged site (finalized svc) alloc plan (takenPath site answers (finalized svc) alloc plan) stored := by
  by_cases present : hasSRv6Finalizer svc = true
  · rw [finalized, if_pos present] at good ⊢
    obtain ⟨settled, first, fixed, last⟩ := settles site w networks answers svc alloc plan claimed alive found good
    refine ⟨settled, fun n enough => ?_, last⟩
    obtain ⟨more, rfl⟩ : ∃ more, n = more + 1 := ⟨n - 1, by omega⟩
    rw [play_first site w settled _ first, play_fixed site settled _ fixed]
  · have lacks : hasSRv6Finalizer svc = false := by simpa using present
    have shape : finalized svc = { svc with finalizers := svc.finalizers ++ [srv6Finalizer] } := by rw [finalized, if_neg present]
    have kept : isGone (finalized svc) = false := alive_stays _ (by rw [shape]; exact alive)
    have own : (finalized svc).uid = svc.uid := by rw [shape]
    have stepped : w.next site (.reconcile svc.uid networks answers) = some ⟨putObject w.services (finalized svc), w.store, w.log⟩ := by
      rw [next_reconcile site w networks answers svc found]
      unfold World.pass
      rw [adds_finalizer site answers svc alive lacks (good.written .finalizerAdd), ← shape]
      simp [startPass]
    have there : (World.find ⟨putObject w.services (finalized svc), w.store, w.log⟩ (finalized svc).uid) = some (finalized svc) :=
      find_put_same w.services (finalized svc) kept svc (own.symm ▸ found)
    have conflicts := put_conflicts (finalized svc) w (finalized svc) networks answers rfl kept w.store w.log
    have goodNext : Favourable site (World.lists ⟨putObject w.services (finalized svc), w.store, w.log⟩ (finalized svc) networks answers)
        answers (finalized svc) w.store alloc plan claimed := by
      have before : w.lists svc networks answers = w.lists (finalized svc) networks answers := by rw [shape]; rfl
      rw [before] at good
      refine { good with admitted := { good.admitted with gates := ?_ } }
      exact gates_again site (w.lists (finalized svc) networks answers) answers (finalized svc) answers _ (finalized svc)
        ⟨_, _, fun _ member => member, rfl⟩ good.admitted.gates rfl conflicts
    obtain ⟨settled, second, fixed, last⟩ := settles site ⟨putObject w.services (finalized svc), w.store, w.log⟩ networks answers
      (finalized svc) alloc plan claimed (by rw [shape]; exact alive) there goodNext
    rw [own] at second fixed last
    refine ⟨settled, fun n enough => ?_, last⟩
    obtain ⟨more, rfl⟩ : ∃ more, n = more + 1 + 1 := ⟨n - 2, by omega⟩
    rw [play_first site w _ _ stepped, play_first site _ settled _ second, play_fixed site settled _ fixed]

end Worlds

-- Red without its finalizer, with the record of a first plan that leaf02 did not take.
def labTroubledRed : SRv6Service :=
  { labService "red" "wan1" with status := setRefusal 0 {} 1 (applyFailedRefusal "leaf02" [.str "timeout"]) }

def labTroubled : World := { services := [labTroubledRed] }

def labReclaimed : Store × Except StageError Allocation :=
  allocate {} labTroubledRed.spec (correlationID labTroubledRed) labFacts.locators labSteadyAnswers.kuid

def labRedAllocation : Allocation :=
  match labReclaimed.2 with
  | .ok alloc => alloc
  | .error _ => labAllocation 7 "192.168.1.0/24" "192.168.2.0/24"

def labRedPlan : SRv6Plan :=
  match buildPlan labTroubledRed.spec labRedAllocation labFacts with
  | .ok plan => plan
  | .error _ => []

deriving instance DecidableEq for ProbeOutcome

theorem lab_recovers :
    isReady labTroubledRed.status = false ∧
      ∃ settled : World,
        (∀ n, 2 ≤ n → play (World.next labSite) labTroubled (List.replicate n (.reconcile labTroubledRed.uid [] labSteadyAnswers)) =
          some settled) ∧
        ∃ stored, settled.find labTroubledRed.uid = some stored ∧
          Converged labSite (finalized labTroubledRed) labRedAllocation labRedPlan
            (takenPath labSite labSteadyAnswers (finalized labTroubledRed) labRedAllocation labRedPlan) stored := by
  refine ⟨by decide +kernel, recovers labSite labTroubled [] labSteadyAnswers labTroubledRed labRedAllocation labRedPlan labReclaimed.1
    (by decide +kernel) (by decide +kernel) ?_⟩
  refine ⟨⟨by decide +kernel, Or.inr ⟨by decide +kernel, by decide +kernel⟩, by decide +kernel⟩, ?_, fun _ _ => rfl, ?_, ?_, ?_,
    fun _ => rfl⟩
  · intro applied recorded
    have first : (finalized labTroubledRed).status.appliedSpec = none := by decide +kernel
    rw [first] at recorded
    cases recorded
  · intro stage
    cases stage with
    | update => decide +kernel
    | main => decide +kernel
    | repair => decide +kernel
  · exact ⟨{}, by decide +kernel, by decide +kernel⟩
  · exact ⟨[.lit "probe ", .str "leaf01/wan1", .lit " -> ", .str "192.168.2.2", .lit " (", .int 8900, .lit " bytes x", .int 3,
      .lit ", DF): pass"], by decide +kernel⟩

end AgenticNetops.Srv6service
