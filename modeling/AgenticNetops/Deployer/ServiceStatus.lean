import Mathlib.Data.List.Induction
import AgenticNetops.Deployer.Watch

set_option autoImplicit false

/- deployer/tools/deployer_tools.py: the phase that a question about a deployment is
   answered with, beside the watch's own outcomes over the same objects. The summary's
   service type and its unverified checks, which the phase does not read, are left out. -/
namespace AgenticNetops.Deployer

open PyText JsonValue Polling

section Summary

structure ConditionEntry where
  status : Option Bool := none
  reason : String := ""
  message : String := ""
  lastTransitionTime : String := ""
deriving DecidableEq, Repr

structure ConditionSummary where
  kind : String
  name : String
  ready : ConditionEntry
  degraded : ConditionEntry
deriving DecidableEq, Repr

def entryOf (condition : Json) : ConditionEntry where
  status := if statusOf condition = "true" then some true else if statusOf condition = "false" then some false else none
  reason := strOr [condition.field "reason"] ""
  message := strOr [condition.field "message"] ""
  lastTransitionTime := strOr [condition.field "lastTransitionTime"] ""

-- `found[type]`: a later condition of the type replaces the earlier one.
def lastOf (type : String) (conditions : List Json) : ConditionEntry :=
  conditions.foldl (fun found condition => if typeOf condition = type then entryOf condition else found) {}

-- `_condition_summary`
def conditionSummary (object : Json) : ConditionSummary where
  kind := strOr [object.field "kind"] ""
  name := strOr [(dictOf (object.field "metadata")).field "name"] ""
  ready := lastOf "Ready" (conditionsOf object)
  degraded := lastOf "Degraded" (conditionsOf object)

inductive StatusPhase where
  | notFound
  | failed
  | deployed
  | converging
deriving DecidableEq, Repr

def StatusPhase.text : StatusPhase → String
  | .notFound => "NotFound"
  | .failed => "Failed"
  | .deployed => "Deployed"
  | .converging => "Converging"

-- `_phase_from`
def phaseFrom (resources : List ConditionSummary) : StatusPhase :=
  if resources = [] then .notFound
  else if ∃ resource ∈ resources, resource.ready.status = some false ∨ resource.degraded.status = some true then .failed
  else if ∀ resource ∈ resources, resource.ready.status = some true then .deployed
  else .converging

end Summary

section Readers

-- The status of the last condition of a type.
def lastStatus (type : String) (object : Json) : Option String :=
  ((conditionsOf object).filter fun condition => typeOf condition = type).getLast?.map statusOf

theorem last_of (type : String) (conditions : List Json) :
    (lastOf type conditions).status =
      ((conditions.filter fun condition => typeOf condition = type).getLast?.map entryOf).bind ConditionEntry.status := by
  induction conditions using List.reverseRecOn with
  | nil => rfl
  | append_singleton rest condition ih =>
      rw [lastOf, List.foldl_append, List.foldl_cons, List.foldl_nil, List.filter_append]
      by_cases named : typeOf condition = type
      · rw [if_pos named, List.filter_cons_of_pos (by exact decide_eq_true named), List.filter_nil, List.getLast?_append_of_ne_nil _ (List.cons_ne_nil _ _)]
        rfl
      · rw [if_neg named, List.filter_cons_of_neg (by exact fun same => named (of_decide_eq_true same)), List.filter_nil, List.append_nil]
        exact ih

-- Entries record the two statuses that the phase asks for.
theorem entry_status (conditions : List Json) (type : String) :
    ((lastOf type conditions).status = some true ↔
      (conditions.filter fun condition => typeOf condition = type).getLast?.map statusOf = some "true") ∧
    ((lastOf type conditions).status = some false ↔
      (conditions.filter fun condition => typeOf condition = type).getLast?.map statusOf = some "false") := by
  rw [last_of]
  cases (conditions.filter fun condition => typeOf condition = type).getLast? with
  | none => exact ⟨iff_of_false (by simp) (by simp), iff_of_false (by simp) (by simp)⟩
  | some condition =>
      have unlike : "false" ≠ "true" := by decide
      rw [Option.map_some, Option.map_some, Option.bind_some, entryOf, Option.some.injEq, Option.some.injEq]
      dsimp only
      by_cases holds : statusOf condition = "true"
      · rw [if_pos holds, holds]
        exact ⟨iff_of_true rfl rfl, iff_of_false (by simp) (Ne.symm unlike)⟩
      · rw [if_neg holds]
        by_cases fails : statusOf condition = "false"
        · rw [if_pos fails, fails]
          exact ⟨iff_of_false (by simp) unlike, iff_of_true rfl rfl⟩
        · rw [if_neg fails]
          exact ⟨iff_of_false (by simp) holds, iff_of_false (by simp) fails⟩

-- The last Ready condition is False, or the last Degraded condition True.
def FailsLast (object : Json) : Prop := lastStatus "Ready" object = some "false" ∨ lastStatus "Degraded" object = some "true"

/- A failure condition comes before any Ready=True; or there is neither, and some condition
   is Ready=False or the phase is a failure. -/
def FailsFirst (object : Json) : Prop := leading object = some false ∨ leading object = none ∧ FailsLate object

theorem summary_fails (object : Json) :
    ((conditionSummary object).ready.status = some false ∨ (conditionSummary object).degraded.status = some true) ↔ FailsLast object :=
  or_congr (entry_status (conditionsOf object) "Ready").2 (entry_status (conditionsOf object) "Degraded").1

theorem summary_ready (object : Json) : (conditionSummary object).ready.status = some true ↔ lastStatus "Ready" object = some "true" :=
  (entry_status (conditionsOf object) "Ready").1

theorem verdict_cases (object : Json) :
    (verdictOf object = some true ↔ leading object = some true) ∧ (verdictOf object = some false ↔ FailsFirst object) := by
  rw [verdictOf, FailsFirst]
  cases leading object with
  | some ready =>
      dsimp only
      refine ⟨Iff.rfl, ?_⟩
      exact (or_iff_left fun both => Option.some_ne_none ready both.1).symm
  | none =>
      dsimp only
      by_cases late : FailsLate object
      · rw [if_pos late]
        exact ⟨iff_of_false (by simp) (by simp), iff_of_true rfl (Or.inr ⟨rfl, late⟩)⟩
      · rw [if_neg late]
        exact ⟨Iff.rfl, iff_of_false (by simp) fun either => either.elim (fun none' => by cases none') fun both => late both.2⟩

-- A last Ready=True is a Ready=True, so something decides at once.
theorem last_ready_leads (object : Json) (ready : lastStatus "Ready" object = some "true") : leading object ≠ none := by
  intro silent
  rw [lastStatus] at ready
  obtain ⟨condition, last, holds⟩ := Option.map_eq_some_iff.mp ready
  obtain ⟨member, named⟩ := List.mem_filter.mp (List.mem_of_getLast? last)
  have waits := List.findSome?_eq_none_iff.mp silent condition member
  rw [decisive, if_pos ⟨of_decide_eq_true named, holds⟩] at waits
  cases waits

end Readers

section Agreement

-- One poll of the watch over the objects as they are.
def polledOnce (objects : List Json) (timeoutSeconds : String) : Option (List WatchOutcome) :=
  (watchConvergence (objects.map refOf) [fun index => objects[index]?.elim .unreadable .object] timeoutSeconds).map
    fun outcomes => outcomes.map ConvergenceOutcome.outcome

def watched (object : Json) : WatchOutcome :=
  match verdictOf object with
  | some true => .ready
  | some false => .failed
  | none => .timeout

theorem polled_once (objects : List Json) (timeoutSeconds : String) :
    polledOnce objects timeoutSeconds = some (objects.map watched) := by
  rw [polledOnce, watch_outcomes, Option.map_some, List.map_map, List.zipIdx_map, List.map_map]
  congr 1
  refine (List.map_congr_left fun entry member => ?_).trans ((List.map_map).symm.trans (congrArg (List.map watched) (List.zipIdx_map_fst 0 objects)))
  obtain ⟨_, _, here⟩ := List.mem_zipIdx member
  have present : objects[entry.2]? = some entry.1 := by
    rw [here]
    exact List.getElem?_eq_getElem _
  have decided : firstVerdict conclude [fun index => objects[index]?.elim .unreadable .object] entry.2 = conclude (.object entry.1) := by
    rw [firstVerdict, List.findSome?_cons]
    dsimp only
    rw [present, Option.elim_some]
    cases conclude (.object entry.1) with
    | some verdict => rfl
    | none => rfl
  show (outcomeOf (refOf entry.1) (firstVerdict conclude _ entry.2) timeoutSeconds).outcome = watched entry.1
  rw [decided, concludes_object, watched]
  cases verdictOf entry.1 with
  | none => rfl
  | some ready =>
      cases ready with
      | true => rfl
      | false => rfl

/- The phase is Deployed where one poll reports every object ready, Failed where it reports
   one failed, and Converging otherwise. -/
def Agree (objects : List Json) (timeoutSeconds : String) : Prop :=
  ∃ outcomes, polledOnce objects timeoutSeconds = some outcomes ∧
    (phaseFrom (objects.map conditionSummary) = .deployed ↔ ∀ outcome ∈ outcomes, outcome = .ready) ∧
    (phaseFrom (objects.map conditionSummary) = .failed ↔ .failed ∈ outcomes) ∧
    (phaseFrom (objects.map conditionSummary) = .converging ↔ ¬ (∀ outcome ∈ outcomes, outcome = .ready) ∧ .failed ∉ outcomes)

theorem all_watched (objects : List Json) :
    (∀ outcome ∈ objects.map watched, outcome = .ready) ↔ ∀ object ∈ objects, leading object = some true := by
  rw [List.forall_mem_map]
  refine forall₂_congr fun object _ => ?_
  rw [← (verdict_cases object).1, watched]
  cases verdictOf object with
  | none => exact iff_of_false (by decide) (by decide)
  | some ready =>
      cases ready with
      | true => exact iff_of_true rfl rfl
      | false => exact iff_of_false (by decide) (by decide)

theorem some_failed (objects : List Json) : .failed ∈ objects.map watched ↔ ∃ object ∈ objects, FailsFirst object := by
  rw [List.mem_map]
  refine exists_congr fun object => and_congr_right fun _ => ?_
  rw [← (verdict_cases object).2, watched]
  cases verdictOf object with
  | none => exact iff_of_false (by decide) (by decide)
  | some ready =>
      cases ready with
      | true => exact iff_of_false (by decide) (by decide)
      | false => exact iff_of_true rfl rfl

theorem phase_from (objects : List Json) (nonempty : objects ≠ []) :
    ((∃ object ∈ objects, FailsLast object) → phaseFrom (objects.map conditionSummary) = .failed) ∧
      ((∀ object ∈ objects, ¬ FailsLast object) →
        ((∀ object ∈ objects, lastStatus "Ready" object = some "true") → phaseFrom (objects.map conditionSummary) = .deployed) ∧
        (¬ (∀ object ∈ objects, lastStatus "Ready" object = some "true") → phaseFrom (objects.map conditionSummary) = .converging)) := by
  have present : objects.map conditionSummary ≠ [] := fun empty => nonempty (List.map_eq_nil_iff.mp empty)
  have fails : (∃ resource ∈ objects.map conditionSummary, resource.ready.status = some false ∨ resource.degraded.status = some true) ↔
      ∃ object ∈ objects, FailsLast object := by
    simp only [List.mem_map, exists_exists_and_eq_and]
    exact exists_congr fun object => and_congr_right fun _ => summary_fails object
  have ready : (∀ resource ∈ objects.map conditionSummary, resource.ready.status = some true) ↔
      ∀ object ∈ objects, lastStatus "Ready" object = some "true" := by
    rw [List.forall_mem_map]
    exact forall₂_congr fun object _ => summary_ready object
  rw [phaseFrom, if_neg present]
  refine ⟨fun failed => if_pos (fails.mpr failed), fun none' => ?_⟩
  have unfailed : ¬ ∃ resource ∈ objects.map conditionSummary, resource.ready.status = some false ∨ resource.degraded.status = some true := by
    intro failed
    obtain ⟨object, member, bad⟩ := fails.mp failed
    exact none' object member bad
  rw [if_neg unfailed]
  exact ⟨fun all => if_pos (ready.mpr all), fun some' => if_neg fun all => some' (ready.mp all)⟩

/- The two readers agree exactly when each of them finds a failure, or neither does and no
   Ready=True that the watch stops at is overruled by a later Ready condition everywhere. -/
theorem readers_agree_iff (objects : List Json) (nonempty : objects ≠ []) (timeoutSeconds : String) :
    Agree objects timeoutSeconds ↔
      ((∃ object ∈ objects, FailsLast object) ∧ ∃ object ∈ objects, FailsFirst object) ∨
      ((∀ object ∈ objects, ¬ FailsLast object ∧ ¬ FailsFirst object) ∧
        ((∀ object ∈ objects, lastStatus "Ready" object = some "true") ∨ ∃ object ∈ objects, leading object ≠ some true)) := by
  obtain ⟨failing, passing⟩ := phase_from objects nonempty
  have unfailed : (∀ object ∈ objects, leading object = some true) → ¬ ∃ object ∈ objects, FailsFirst object := by
    intro all failed
    obtain ⟨object, member, first⟩ := failed
    cases first with
    | inl leads => cases (all object member).symm.trans leads
    | inr late => cases (all object member).symm.trans late.1
  have reads : Agree objects timeoutSeconds ↔
      (phaseFrom (objects.map conditionSummary) = .deployed ↔ ∀ object ∈ objects, leading object = some true) ∧
      (phaseFrom (objects.map conditionSummary) = .failed ↔ ∃ object ∈ objects, FailsFirst object) ∧
      (phaseFrom (objects.map conditionSummary) = .converging ↔
        ¬ (∀ object ∈ objects, leading object = some true) ∧ ¬ ∃ object ∈ objects, FailsFirst object) := by
    rw [Agree, polled_once, ← all_watched, ← some_failed]
    constructor
    · intro agree
      obtain ⟨outcomes, same, rest⟩ := agree
      cases same
      exact rest
    · intro rest
      exact ⟨_, rfl, rest⟩
  rw [reads]
  by_cases last : ∃ object ∈ objects, FailsLast object
  · rw [failing last]
    have only : ¬ ∀ object ∈ objects, ¬ FailsLast object ∧ ¬ FailsFirst object := by
      intro none'
      obtain ⟨object, member, bad⟩ := last
      exact (none' object member).1 bad
    rw [or_iff_left fun both => only both.1, and_iff_right last]
    constructor
    · intro agree
      exact agree.2.1.mp rfl
    · intro first
      have some' : ¬ ∀ object ∈ objects, leading object = some true := fun all => unfailed all first
      exact ⟨iff_of_false (by decide) some', iff_of_true rfl first, iff_of_false (by decide) fun both => both.2 first⟩
  · have none' : ∀ object ∈ objects, ¬ FailsLast object := fun object member bad => last ⟨object, member, bad⟩
    obtain ⟨deployed, converging⟩ := passing none'
    rw [or_iff_right fun both => last both.1]
    by_cases ready : ∀ object ∈ objects, lastStatus "Ready" object = some "true"
    · rw [deployed ready]
      constructor
      · intro agree
        have all := agree.1.mp rfl
        exact ⟨fun object member => ⟨none' object member, fun first => unfailed all ⟨object, member, first⟩⟩, Or.inl ready⟩
      · intro both
        have first : ¬ ∃ object ∈ objects, FailsFirst object := by
          intro failed
          obtain ⟨object, member, bad⟩ := failed
          exact (both.1 object member).2 bad
        have all : ∀ object ∈ objects, leading object = some true := by
          intro object member
          cases leads : leading object with
          | none => exact absurd leads (last_ready_leads object (ready object member))
          | some value =>
              cases value with
              | true => rfl
              | false => exact absurd (Or.inl leads) (both.1 object member).2
        exact ⟨iff_of_true rfl all, iff_of_false (by decide) first, iff_of_false (by decide) fun neither => neither.1 all⟩
    · rw [converging ready]
      have unlike : (∃ object ∈ objects, leading object ≠ some true) ↔ ¬ ∀ object ∈ objects, leading object = some true := by
        simp only [not_forall, exists_prop]
      rw [or_iff_right ready, unlike]
      constructor
      · intro agree
        have neither := agree.2.2.mp rfl
        exact ⟨fun object member => ⟨none' object member, fun first => neither.2 ⟨object, member, first⟩⟩, neither.1⟩
      · intro both
        have first : ¬ ∃ object ∈ objects, FailsFirst object := by
          intro failed
          obtain ⟨object, member, bad⟩ := failed
          exact (both.1 object member).2 bad
        exact ⟨iff_of_false (by decide) both.2, iff_of_false (by decide) first, iff_of_true rfl ⟨both.2, first⟩⟩

def labCondition (type status reason : String) : Json :=
  .obj [("type", .str type), ("status", .str status), ("reason", .str reason), ("observedGeneration", .num 1)]

-- A service with these conditions.
def labService (conditions : List Json) : Json :=
  .obj [("kind", .str "SRv6Service"), ("metadata", .obj [("name", .str "blue"), ("generation", .num 1)]),
    ("status", .obj [("conditions", .arr conditions)])]

def labVerified : Json := labService [labCondition "Ready" "True" "Verified", labCondition "Degraded" "False" "Verified"]

-- A steered service whose preferred path is down: it carries traffic, and is Ready and Degraded.
def labSteered : Json := labService [labCondition "Ready" "True" "Verified", labCondition "Degraded" "True" "PathDown"]

theorem lab_verified_agrees : Agree [labVerified] "300" :=
  (readers_agree_iff [labVerified] (List.cons_ne_nil _ _) "300").mpr (Or.inr (by
    have neither : ¬ FailsLast labVerified ∧ ¬ FailsFirst labVerified := by
      have last : lastStatus "Ready" labVerified = some "true" ∧ lastStatus "Degraded" labVerified = some "false" := by
        decide +kernel
      have first : leading labVerified = some true := by
        decide +kernel
      refine ⟨?_, ?_⟩
      · rw [FailsLast, last.1, last.2]
        decide
      · rw [FailsFirst, first]
        exact fun either => either.elim (fun same => by cases same) fun both => by cases both.1
    have ready : lastStatus "Ready" labVerified = some "true" := by
      decide +kernel
    exact ⟨fun object member => List.mem_singleton.mp member ▸ neither, Or.inl fun object member => List.mem_singleton.mp member ▸ ready⟩))

theorem steered_readers_disagree : ¬ ∀ (objects : List Json) (timeoutSeconds : String), objects ≠ [] → Agree objects timeoutSeconds := by
  intro agree
  obtain ⟨outcomes, polled, _, failed, _⟩ := agree [labSteered] "300" (List.cons_ne_nil _ _)
  have ready : polledOnce [labSteered] "300" = some [.ready] := by
    decide +kernel
  have told : phaseFrom ([labSteered].map conditionSummary) = .failed := by
    decide +kernel
  cases ready.symm.trans polled
  exact absurd (failed.mp told) (by decide)

end Agreement

end AgenticNetops.Deployer
