import AgenticNetops.Srv6service.PassClaims
import AgenticNetops.Srv6service.World

set_option autoImplicit false

/- Which service ids the services of a cluster have recorded. Claims, leases and
   releases are keyed by the correlation id, so all of this is about services whose
   correlation ids differ. -/
namespace AgenticNetops.Srv6service

open GoText Api Kuid Fabricplan Ledger Runs

-- Two live services have two service ids and two VRF names.
def IDsApart (w : World) : Prop :=
  ∀ a ∈ w.services, ∀ b ∈ w.services, a.uid ≠ b.uid → a.deletionTimestamp = none → b.deletionTimestamp = none →
    ∀ allocA ∈ a.status.allocations, ∀ allocB ∈ b.status.allocations,
      allocA.serviceID ≠ allocB.serviceID ∧ allocA.vrf ≠ allocB.vrf

def Action.uid : Action → String
  | .create svc => svc.uid
  | .edit uid _ | .delete uid _ | .reconcile uid _ _ => uid

-- No step on one service takes a claim or a lease of another one that exists.
def OthersKeep (w : World) (action : Action) (w' : World) : Prop :=
  ∀ other ∈ w.services, other.uid ≠ action.uid →
    (∀ claim ∈ w.store.claims, claim.correlationID = correlationID other → claim ∈ w'.store.claims) ∧
    ∀ lease ∈ w.store.leases, lease.correlationID = correlationID other → lease ∈ w'.store.leases

section Conditions
variable (site : Site) (w : World) (svc : SRv6Service) (answers : Answers)

-- No other service that exists has the service's correlation id.
def SoleClaimant : Prop := ∀ other ∈ w.services, other.uid ≠ svc.uid → correlationID other ≠ correlationID svc

/- What a pass that claims anew may meet: the values it is given are its own, and it
   releases nothing that the status still names. -/
def FreshKeeps : Prop :=
  reuseAllocation svc (correlationID svc) site.facts.locators = none →
    ShowsHolders w.store (correlationID svc) svc.spec answers.kuid ∧
    ServesFresh w.store (correlationID svc) svc.spec answers.kuid ∧
    (rangeSpent w.store (correlationID svc) answers.kuid = true ∨
      vlanTaken w.store (correlationID svc) svc.spec.vlan answers.kuid = true → svc.status.allocations = none)

end Conditions

-- The passes that claim or release are of services with a correlation id of their own.
def ClaimsApart (site : Site) (w : World) : Action → Prop
  | .reconcile uid networks answers =>
      ∀ svc ∈ w.find uid,
        (svc.deletionTimestamp = none → passesGates site (w.lists svc networks answers) answers svc = true →
          SoleClaimant w svc ∧ FreshKeeps site w svc answers) ∧
        (svc.deletionTimestamp ≠ none → hasSRv6Finalizer svc = true → SoleClaimant w svc)
  | _ => True

instance (w : World) (svc : SRv6Service) : Decidable (SoleClaimant w svc) :=
  inferInstanceAs (Decidable (∀ other ∈ w.services, other.uid ≠ svc.uid → correlationID other ≠ correlationID svc))

instance (site : Site) (w : World) (svc : SRv6Service) (answers : Answers) : Decidable (FreshKeeps site w svc answers) :=
  inferInstanceAs (Decidable (_ = none → _ ∧ _ ∧ (_ ∨ _ → svc.status.allocations = none)))

instance (site : Site) (w : World) (action : Action) : Decidable (ClaimsApart site w action) :=
  match action with
  | .reconcile uid networks answers =>
      inferInstanceAs (Decidable (∀ svc ∈ w.find uid,
        (svc.deletionTimestamp = none → passesGates site (w.lists svc networks answers) answers svc = true →
          SoleClaimant w svc ∧ FreshKeeps site w svc answers) ∧
        (svc.deletionTimestamp ≠ none → hasSRv6Finalizer svc = true → SoleClaimant w svc)))
  | .create _ | .edit _ _ | .delete _ _ => isTrue trivial

-- What the status of a live service names is its own.
def Recorded (store : Store) (svc : SRv6Service) : Prop :=
  ∀ alloc ∈ svc.status.allocations, alloc.serviceID ≠ 0 ∧ alloc.vrf = vrfName alloc.serviceID ∧
    Holds store (correlationID svc) alloc

structure IDsHeld (w : World) : Prop where
  formed : w.store.WellFormed
  single : OneHolder w.store
  whole : ∀ svc ∈ w.services, svc.status.appliedSpec = none → svc.status.allocations = none
  recorded : ∀ svc ∈ w.services, svc.deletionTimestamp = none → Recorded w.store svc
  sole : ∀ a ∈ w.services, ∀ b ∈ w.services, a.status.allocations ≠ none → b.status.allocations ≠ none →
    correlationID a = correlationID b → a.uid = b.uid

theorem ids_held_apart (w : World) (held : IDsHeld w) : IDsApart w := by
  intro a memberA b memberB differ aliveA aliveB allocA inA allocB inB
  obtain ⟨nonzeroA, namedA, holdsA⟩ := held.recorded a memberA aliveA allocA inA
  obtain ⟨nonzeroB, namedB, holdsB⟩ := held.recorded b memberB aliveB allocB inB
  have ids : allocA.serviceID ≠ allocB.serviceID := by
    intro same
    have owners := held.single.ids _ _ allocA.serviceID ⟨nonzeroA, holdsA.1⟩ ⟨nonzeroA, same ▸ holdsB.1⟩
    exact differ (held.sole a memberA b memberB (Option.ne_none_iff_exists'.mpr ⟨_, inA⟩)
      (Option.ne_none_iff_exists'.mpr ⟨_, inB⟩) owners)
  refine ⟨ids, fun same => ids (vrf_name_injective _ _ ?_)⟩
  rw [← namedA, ← namedB, same]

theorem put_mem (services : List SRv6Service) (stored svc : SRv6Service) (member : svc ∈ putObject services stored) :
    svc = stored ∨ svc ∈ services ∧ svc.uid ≠ stored.uid := by
  obtain ⟨old, listed, kept⟩ := List.mem_filterMap.mp member
  by_cases same : old.uid = stored.uid
  · by_cases gone : isGone stored
    · simp [same, gone] at kept
    · simp only [same, gone, if_true, if_false, Option.some.injEq, Bool.false_eq_true] at kept
      exact Or.inl kept.symm
  · simp only [same, if_false, Option.some.injEq] at kept
    subst kept
    exact Or.inr ⟨listed, same⟩

section Pass
variable (site : Site) (w : World) (svc : SRv6Service) (networks : List Kubenet.Network) (answers : Answers)

/- What a pass leaves of its object: the status still names what it named, or what the
   plan of this pass was made with. -/
theorem pass_record (lists : ConflictLists) (pass : Pass) (ended : PassEnd site lists answers svc w.store pass) :
    ∃ status finalizers, pass.stored = { svc with status, finalizers } ∧
      (recordOf status = recordOf svc.status ∨ svc.deletionTimestamp = none ∧
        ∃ alloc plan, Admitted site lists answers svc w.store alloc plan pass.store ∧ recordOf status = newRecord svc alloc) := by
  have same : ∀ claims made, At svc claims made (fun record => record = recordOf svc.status) pass →
      ∃ status finalizers, pass.stored = { svc with status, finalizers } ∧ recordOf status = recordOf svc.status := by
    intro claims made here
    obtain ⟨status, finalizers, _, stored⟩ := here.object
    exact ⟨status, finalizers, stored, by rw [← here.stored, stored]⟩
  have unchanged : (∃ status finalizers, pass.stored = { svc with status, finalizers } ∧ recordOf status = recordOf svc.status) →
      ∃ status finalizers, pass.stored = { svc with status, finalizers } ∧
        (recordOf status = recordOf svc.status ∨ svc.deletionTimestamp = none ∧
          ∃ alloc plan, Admitted site lists answers svc w.store alloc plan pass.store ∧
            recordOf status = newRecord svc alloc) :=
    fun ⟨status, finalizers, stored, record⟩ => ⟨status, finalizers, stored, Or.inl record⟩
  rcases ended with ⟨alive, live⟩ | ⟨_, _, final⟩ | start
  · rcases live with here | ⟨_, _, _, _, _, here⟩ | ⟨alloc, plan, claimed, admitted, here⟩ | ⟨_, _, _, _, _, _, here⟩
    · exact unchanged (same _ _ here)
    · exact unchanged (same _ _ here)
    · obtain ⟨status, finalizers, _, stored⟩ := here.object
      have record := here.stored
      rw [stored] at record
      refine ⟨status, finalizers, stored, record.imp_right fun new => ⟨alive, alloc, plan, ?_, new⟩⟩
      rw [here.store]
      exact admitted
    · exact unchanged (same _ _ here)
  · rcases final with here | ⟨_, here⟩ | ⟨_, _, _, _, _, stored⟩
    · exact unchanged (same _ _ here)
    · exact unchanged (same _ _ here)
    · exact ⟨svc.status, _, stored, Or.inl rfl⟩
  · rw [start]
    exact ⟨svc.status, svc.finalizers, rfl, Or.inl rfl⟩

-- A release is of a pass behind the gates, or of a deletion.
theorem releases_gated (lists : ConflictLists) (grown : Store) (calls : List Executed)
    (releases : Releases site lists answers svc w.store grown calls) :
    svc.deletionTimestamp = none ∧ passesGates site lists answers svc = true ∨
      svc.deletionTimestamp ≠ none ∧ hasSRv6Finalizer svc = true := by
  rcases releases with ⟨anew, _, _⟩ | ⟨alive, _, _, admitted, _, _, _⟩ | ⟨deleting, finalizer, _, _⟩
  · exact Or.inl ⟨anew.alive, anew.gates⟩
  · exact Or.inl ⟨alive, admitted.gates⟩
  · exact Or.inr ⟨deleting, finalizer⟩

theorem reuse_recorded (alloc : Allocation) (locators : GoMap String)
    (reused : reuseAllocation svc (correlationID svc) locators = some alloc) : svc.status.allocations = some alloc.allocations := by
  unfold reuseAllocation at reused
  cases recorded : svc.status.allocations with
  | none => simp [recorded] at reused
  | some stored =>
      simp only [recorded] at reused
      split_ifs at reused
      cases derived : serviceSIDs svc.spec locators with
      | error message => simp [derived] at reused
      | ok sids =>
          simp only [derived, Option.some.injEq] at reused
          rw [← reused]

variable (held : IDsHeld w) (found : w.find svc.uid = some svc)
  (apart : ClaimsApart site w (.reconcile svc.uid networks answers))
  (ended : PassEnd site (w.lists svc networks answers) answers svc w.store (w.pass site svc networks answers))
include held found apart ended

theorem pass_ids_held :
    IDsHeld { services := putObject w.services (w.pass site svc networks answers).stored,
              store := (w.pass site svc networks answers).store,
              log := w.log ++ (w.pass site svc networks answers).calls } := by
  obtain ⟨live, deletion⟩ := apart svc found
  have listed : svc ∈ w.services := (find_uid w svc.uid svc found).2
  have formed := pass_formed site _ answers svc w.store held.formed _ ended
  have single := pass_one_holder site _ answers svc w.store held.formed _ ended held.single
    fun anew => ((live anew.alive anew.gates).2 anew.fresh).2.1
  have stays := fun owner alloc => spared_holds site _ answers svc w.store held.formed _ ended owner alloc
  obtain ⟨status, finalizers, stored, record⟩ := pass_record site w svc answers _ _ ended
  generalize w.pass site svc networks answers = pass at *
  rw [stored]
  -- a release spares the other services, and comes only where the status names nothing
  have sole : ∀ grown, Releases site (w.lists svc networks answers) answers svc w.store grown pass.calls →
      SoleClaimant w svc := by
    intro grown releases
    rcases releases_gated site w svc answers _ grown _ releases with ⟨alive, gates⟩ | ⟨deleting, finalizer⟩
    · exact (live alive gates).1
    · exact deletion deleting finalizer
  have nothing : ∀ grown, Releases site (w.lists svc networks answers) answers svc w.store grown pass.calls →
      svc.deletionTimestamp = none → svc.status.allocations = none := by
    intro grown releases alive
    rcases releases with ⟨anew, spent, _⟩ | ⟨_, _, _, _, first, _, _⟩ | ⟨deleting, _, _, _⟩
    · exact ((live anew.alive anew.gates).2 anew.fresh).2.2 spent
    · exact held.whole svc listed first
    · exact absurd alive deleting
  refine ⟨formed, single, ?_, ?_, ?_⟩
  · intro other member unapplied
    rcases put_mem _ _ other member with rfl | ⟨old, _⟩
    · rcases record with same | ⟨_, alloc, _, _, new⟩
      · simp only [recordOf, Prod.mk.injEq] at same
        exact same.1.trans (held.whole svc listed (same.2.1.symm.trans unapplied))
      · simp only [recordOf, newRecord, Prod.mk.injEq] at new
        rw [new.2.1] at unapplied
        cases unapplied
    · exact held.whole other old unapplied
  · intro other member alive
    rcases put_mem _ _ other member with rfl | ⟨old, differ⟩
    · intro alloc named
      rcases record with same | ⟨_, made, plan, admitted, new⟩
      · simp only [recordOf, Prod.mk.injEq] at same
        have before : alloc ∈ svc.status.allocations := by rw [← same.1]; exact named
        obtain ⟨nonzero, vrf, holds⟩ := held.recorded svc listed alive alloc before
        refine ⟨nonzero, vrf, stays _ alloc holds fun grown releases => ?_⟩
        rw [nothing grown releases alive] at before
        cases before
      · simp only [recordOf, newRecord, Prod.mk.injEq] at new
        have same : made.allocations = alloc := Option.some.inj (new.1.symm.trans named)
        obtain ⟨_, fresh⟩ := live alive admitted.gates
        obtain ⟨_, holds, source⟩ := admitted_staged site _ answers svc w.store held.formed alive made plan _ admitted
        obtain ⟨_, _, _, _, _, _, gates, _⟩ := for_srv6_service_parts _ _ _ plan admitted.rendered
        have positive : 0 < made.allocations.serviceID := gates.positive
        have recorded : ∀ used ∈ reuseAllocation svc (correlationID svc) site.facts.locators,
            used.allocations.vrf = vrfName used.allocations.serviceID ∧ Holds w.store (correlationID svc) used.allocations :=
          fun used reused => (held.recorded svc listed alive _ (reuse_recorded svc used _ reused)).2
        subst same
        refine ⟨by omega, ?_, holds (fun used reused => (recorded used reused).2) fun anew => (fresh anew).1⟩
        rcases source with reused | allotted
        · exact (recorded made reused).1
        · exact allotted.vrf
    · intro alloc named
      obtain ⟨nonzero, vrf, holds⟩ := held.recorded other old alive alloc named
      exact ⟨nonzero, vrf, stays _ alloc holds fun grown releases => sole grown releases other old differ⟩
  · -- two that have recorded something: only a new record can be of the pass's own service
    have own : ∀ other ∈ w.services, other.uid ≠ svc.uid → other.status.allocations ≠ none → status.allocations ≠ none →
        correlationID other ≠ correlationID svc := by
      intro other member differ otherNamed named same
      rcases record with old | ⟨alive, _, _, admitted, _⟩
      · simp only [recordOf, Prod.mk.injEq] at old
        exact differ (held.sole other member svc listed otherNamed (old.1 ▸ named) same)
      · exact (live alive admitted.gates).1 other member differ same
    intro a memberA b memberB namedA namedB same
    rcases put_mem _ _ a memberA with rfl | ⟨oldA, differA⟩
    · rcases put_mem _ _ b memberB with rfl | ⟨oldB, differB⟩
      · rfl
      · exact absurd same.symm (own b oldB differB namedB namedA)
    · rcases put_mem _ _ b memberB with rfl | ⟨oldB, _⟩
      · exact absurd same (own a oldA differA namedA namedB)
      · exact held.sole a oldA b oldB namedA namedB same

-- The pass of a deletion or of an admitted service takes nothing of the others.
theorem pass_others_keep (w' : World) (after : w'.store = (w.pass site svc networks answers).store) :
    OthersKeep w (.reconcile svc.uid networks answers) w' := by
  intro other member differ
  obtain ⟨live, deletion⟩ := apart svc found
  rw [after]
  refine pass_spares site _ answers svc w.store held.formed _ ended _ fun grown releases => ?_
  rcases releases_gated site w svc answers _ grown _ releases with ⟨alive, gates⟩ | ⟨deleting, finalizer⟩
  · exact (live alive gates).1 other member differ
  · exact deletion deleting finalizer other member differ

end Pass

-- An object that is changed in what the records do not depend on.
theorem put_ids_held (w : World) (svc stored : SRv6Service) (held : IDsHeld w) (listed : svc ∈ w.services)
    (sameUid : stored.uid = svc.uid) (sameStatus : stored.status = svc.status)
    (sameCorrelation : correlationID stored = correlationID svc)
    (alive : stored.deletionTimestamp = none → svc.deletionTimestamp = none) :
    IDsHeld { w with services := putObject w.services stored } := by
  have before : ∀ other ∈ putObject w.services stored, ∃ old ∈ w.services, other.uid = old.uid ∧ other.status = old.status ∧
      correlationID other = correlationID old ∧ (other.deletionTimestamp = none → old.deletionTimestamp = none) := by
    intro other member
    rcases put_mem _ _ other member with rfl | ⟨old, _⟩
    · exact ⟨svc, listed, sameUid, sameStatus, sameCorrelation, alive⟩
    · exact ⟨other, old, rfl, rfl, rfl, fun here => here⟩
  refine ⟨held.formed, held.single, ?_, ?_, ?_⟩
  · intro other member unapplied
    obtain ⟨old, there, _, status, _, _⟩ := before other member
    rw [status] at unapplied ⊢
    exact held.whole old there unapplied
  · intro other member here alloc named
    obtain ⟨old, there, _, status, correlation, stillAlive⟩ := before other member
    rw [correlation]
    exact held.recorded old there (stillAlive here) alloc (status ▸ named)
  · intro a memberA b memberB namedA namedB same
    obtain ⟨oldA, thereA, uidA, statusA, correlationA, _⟩ := before a memberA
    obtain ⟨oldB, thereB, uidB, statusB, correlationB, _⟩ := before b memberB
    rw [uidA, uidB]
    exact held.sole oldA thereA oldB thereB (statusA ▸ namedA) (statusB ▸ namedB)
      (correlationA.symm.trans (same.trans correlationB))

theorem new_ids_held (w : World) (svc : SRv6Service) (held : IDsHeld w) (new : isNew w svc = true) :
    IDsHeld { w with services := w.services ++ [svc] } := by
  have blank : svc.status.allocations = none := by
    simp only [isNew, Bool.and_eq_true, decide_eq_true_eq] at new
    rw [new.1.1.2]
  have cases_of : ∀ other ∈ w.services ++ [svc], other ∈ w.services ∨ other.status.allocations = none := by
    intro other member
    rcases List.mem_append.mp member with old | fresh
    · exact Or.inl old
    · rw [List.mem_singleton.mp fresh]
      exact Or.inr blank
  refine ⟨held.formed, held.single, ?_, ?_, ?_⟩
  · intro other member unapplied
    rcases cases_of other member with old | none
    · exact held.whole other old unapplied
    · exact none
  · intro other member alive alloc named
    rcases cases_of other member with old | none
    · exact held.recorded other old alive alloc named
    · rw [none] at named
      cases named
  · intro a memberA b memberB namedA namedB same
    rcases cases_of a memberA with oldA | none
    · rcases cases_of b memberB with oldB | none
      · exact held.sole a oldA b oldB namedA namedB same
      · exact absurd none namedB
    · exact absurd none namedA

theorem ids_held_step (site : Site) (w w' : World) (action : Action) (held : IDsHeld w) (apart : ClaimsApart site w action)
    (step : Step site w action w') : IDsHeld w' ∧ OthersKeep w action w' := by
  have same : ∀ services log, OthersKeep w action { services, store := w.store, log } :=
    fun _ _ _ _ _ => ⟨fun _ member _ => member, fun _ member _ => member⟩
  rcases step_cases site w w' action step with
    ⟨svc, rfl, new, rfl⟩ | ⟨svc, spec, rfl, found, rfl⟩ | ⟨svc, now, rfl, found, _, rfl⟩ |
    ⟨svc, networks, answers, rfl, found, ended, rfl⟩
  · exact ⟨new_ids_held w svc held new, same _ _⟩
  · exact ⟨put_ids_held w svc _ held (find_uid w _ svc found).2 rfl rfl rfl fun alive => alive, same _ _⟩
  · exact ⟨put_ids_held w svc _ held (find_uid w _ svc found).2 rfl rfl rfl (fun alive => by cases alive), same _ _⟩
  · exact ⟨pass_ids_held site w svc networks answers held found apart ended,
      pass_others_keep site w svc networks answers held found apart ended _ rfl⟩

theorem ids_held_empty : IDsHeld {} where
  formed := ⟨List.nodup_nil, List.nodup_nil, fun _ none => by cases none⟩
  single := one_holder_empty
  whole _ none := by cases none
  recorded _ none := by cases none
  sole _ none := by cases none

/- In every run whose claiming and releasing services have correlation ids of their
   own: the recorded ids are apart, and no further step takes another one's claim. -/
theorem service_ids_apart (site : Site) (actions : List Action) (w : World) (run : Reached site (ClaimsApart site) actions w) :
    IDsApart w ∧ ∀ action w', ClaimsApart site w action → Step site w action w' → OthersKeep w action w' := by
  have held : IDsHeld w := run_invariant (Step site) (ClaimsApart site) IDsHeld
    (fun w action w' held apart step => (ids_held_step site w w' action held apart step).1) {} actions w ids_held_empty run
  exact ⟨ids_held_apart w held, fun action w' apart step => (ids_held_step site w w' action held apart step).2⟩

/- Red and blue under correlation ids of their own: both become ready, and red is
   deleted again. -/
def labTwoReady : List Action :=
  [.create (labService "red" "wan1"), .reconcile "uid-red" [] (labAnswers 7 "192.168.1.0/24" "192.168.2.0/24"),
   .reconcile "uid-red" [] (labAnswers 7 "192.168.1.0/24" "192.168.2.0/24"),
   .create (labService "blue" "wan2"), .reconcile "uid-blue" [] (labAnswers 8 "192.168.3.0/24" "192.168.4.0/24"),
   .reconcile "uid-blue" [] (labAnswers 8 "192.168.3.0/24" "192.168.4.0/24"), .delete "uid-red" 3,
   .reconcile "uid-red" [] (labAnswers 7 "192.168.1.0/24" "192.168.2.0/24")]

theorem lab_ids_apart :
    IDsApart ((World.play labSite labTwoReady).getD {}) ∧
    ∀ action w', ClaimsApart labSite ((World.play labSite labTwoReady).getD {}) action →
      Step labSite ((World.play labSite labTwoReady).getD {}) action w' →
      OthersKeep ((World.play labSite labTwoReady).getD {}) action w' :=
  service_ids_apart labSite labTwoReady _ (world_played labSite (ClaimsApart labSite) labTwoReady (by decide))

/- One thread submits red and blue under its one correlation id: blue gets red's
   claim and records its service id. -/
def labOneThread : List Action :=
  [.create (labService "red" "wan1"), .reconcile "uid-red" [] (labAnswers 7 "192.168.1.0/24" "192.168.2.0/24"),
   .reconcile "uid-red" [] (labAnswers 7 "192.168.1.0/24" "192.168.2.0/24"),
   .create { labService "blue" "wan2" with labels := (labService "red" "wan1").labels },
   .reconcile "uid-blue" [] (labAnswers 8 "192.168.3.0/24" "192.168.4.0/24"),
   .reconcile "uid-blue" [] (labAnswers 8 "192.168.3.0/24" "192.168.4.0/24")]

theorem lab_id_shared :
    Reached labSite (fun _ _ => True) labOneThread ((World.play labSite labOneThread).getD {}) ∧
    ¬ IDsApart ((World.play labSite labOneThread).getD {}) := by
  refine ⟨world_played labSite (fun _ _ => True) labOneThread (by decide), fun apart => ?_⟩
  have shared : ∃ a ∈ ((World.play labSite labOneThread).getD {}).services,
      ∃ b ∈ ((World.play labSite labOneThread).getD {}).services, a.uid ≠ b.uid ∧ a.deletionTimestamp = none ∧
        b.deletionTimestamp = none ∧ ∃ allocA ∈ a.status.allocations, ∃ allocB ∈ b.status.allocations,
          allocA.serviceID = allocB.serviceID := by decide
  obtain ⟨a, memberA, b, memberB, differ, aliveA, aliveB, allocA, namedA, allocB, namedB, same⟩ := shared
  exact (apart a memberA b memberB differ aliveA aliveB allocA namedA allocB namedB).1 same

end AgenticNetops.Srv6service
