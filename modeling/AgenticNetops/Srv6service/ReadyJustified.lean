import AgenticNetops.Srv6service.ReadyWrites
import AgenticNetops.Srv6service.Resync
import AgenticNetops.Srv6service.World

set_option autoImplicit false

/- What stands behind a Ready=True: which nodes the verification has asked, what they
   answered, and when a failed check is none because the service rides its alternate
   spine. -/
namespace AgenticNetops.Srv6service

open GoText Api Kuid Kubenet Fabricplan Exits

section Verification
variable (answers : VerifyAnswers) (stage : VerifyStage) (plan : SRv6Plan) (locators : GoMap String)

-- The nodes that the verification comes to: it stops at the first failure.
def asked (order : List String) : List String := (verifyPlan answers stage plan locators order).1.map NodeStatus.node

def located (node : String) : Bool :=
  match answers.locator stage node with
  | .ok results => checkOK results 0
  | .error _ => false

-- Every check of the node passes that is not excused.
def checksPass (excused : Check → Bool) (node : String) : Bool :=
  let checks := (planNode plan node).checks
  checks = [] ||
    match answers.checks stage node with
    | .ok results => (List.range checks.length).all fun i => checkOK results i || checks[i]?.any excused
    | .error _ => false

def passes (excused : Check → Bool) (node : String) : Bool := located answers stage node && checksPass answers stage plan excused node

-- A call to the node that the verification makes and that fails.
def unanswered (node : String) : Bool :=
  match answers.locator stage node with
  | .error _ => true
  | .ok results =>
      checkOK results 0 && (planNode plan node).checks ≠ [] &&
        match answers.checks stage node with
        | .error _ => true
        | .ok _ => false

def strict : Check → Bool := fun _ => false

theorem passes_answered (excused : Check → Bool) (node : String) (passed : passes answers stage plan excused node = true) :
    unanswered answers stage plan node = false := by
  rw [passes, Bool.and_eq_true, located, checksPass] at passed
  rw [unanswered]
  cases probe : answers.locator stage node with
  | error err => simp [probe] at passed
  | ok results =>
      cases checked : answers.checks stage node with
      | ok other => simp
      | error err =>
          have none : (planNode plan node).checks = [] := by simpa [checked] using passed.2
          simp [none]

theorem passes_weaken (excused : Check → Bool) (node : String) (passed : passes answers stage plan strict node = true) :
    passes answers stage plan excused node = true := by
  simp only [passes, Bool.and_eq_true] at passed ⊢
  refine ⟨passed.1, ?_⟩
  have whole := passed.2
  simp only [checksPass] at whole ⊢
  cases checked : answers.checks stage node with
  | error err => simpa [checked] using whole
  | ok results =>
      rw [checked] at whole
      by_cases none : (planNode plan node).checks = []
      · simp [none]
      · simp only [none, decide_false, Bool.false_or, List.all_eq_true] at whole ⊢
        intro i member
        have here := whole i member
        have passed : checkOK results i = true := by
          cases found : (planNode plan node).checks[i]? with
          | none => simpa [found] using here
          | some check => simpa [found, strict] using here
        rw [passed, Bool.true_or]

-- One node: it passes, or it does not answer, or a probe or check of it fails.
theorem verify_node_cases (node : String) :
    let result := verifyNode answers stage node (planNode plan node).checks (locators.text node)
    (passes answers stage plan strict node = true ∧ result.err = none ∧ result.refusal = none) ∨
    (passes answers stage plan strict node = false ∧ unanswered answers stage plan node = true ∧ ∃ err, result.err = some err) ∨
    (passes answers stage plan strict node = false ∧ unanswered answers stage plan node = false ∧ result.err = none ∧
      ∃ ref, result.refusal = some ref ∧ (ref.kind = .check ↔ located answers stage node = true)) := by
  dsimp only
  rw [verifyNode, passes, unanswered, located, checksPass]
  cases probe : answers.locator stage node with
  | error err => exact Or.inr (Or.inl ⟨rfl, rfl, err, rfl⟩)
  | ok results =>
      dsimp only
      by_cases there : checkOK results 0 = true
      · simp only [there, not_true, if_false, Bool.true_and]
        by_cases none : (planNode plan node).checks = []
        · simp only [none, if_true, decide_true, Bool.true_or]
          exact Or.inl ⟨trivial, trivial, trivial⟩
        · simp only [if_neg none, decide_eq_false none, Bool.false_or]
          cases checked : answers.checks stage node with
          | error err => exact Or.inr (Or.inl ⟨rfl, by simp [none], err, rfl⟩)
          | ok found =>
              dsimp only
              cases failing : (List.range (planNode plan node).checks.length).find? fun i => ¬ checkOK found i with
              | none =>
                  have whole := List.find?_eq_none.mp failing
                  refine Or.inl ⟨List.all_eq_true.mpr ?_, rfl, rfl⟩
                  intro i member
                  have here := whole i member
                  have passed : checkOK found i = true := by simpa using here
                  rw [passed, Bool.true_or]
              | some i =>
                  have member := List.mem_of_find?_eq_some failing
                  have failed : checkOK found i = false := by simpa using List.find?_some failing
                  refine Or.inr (Or.inr ⟨List.all_eq_false.mpr ⟨i, member, ?_⟩, by simp, rfl, _, rfl, by simp⟩)
                  rw [failed]
                  cases (planNode plan node).checks[i]? <;> simp [strict]
      · have gone : checkOK results 0 = false := by simpa using there
        simp only [gone, Bool.false_eq_true, not_false_eq_true, if_true, Bool.false_and]
        exact Or.inr (Or.inr ⟨trivial, trivial, trivial, _, rfl, by simp⟩)

/- The nodes in order: all are asked and pass, or the verification ends at the first one
   that does not. -/
theorem verify_plan_cases (order : List String) :
    ((∀ node ∈ order, passes answers stage plan strict node = true) ∧ asked answers stage plan locators order = order ∧
        (verifyPlan answers stage plan locators order).2 = none) ∨
    ∃ earlier node rest ref, order = earlier ++ node :: rest ∧
      (∀ n ∈ earlier, passes answers stage plan strict n = true) ∧ passes answers stage plan strict node = false ∧
      asked answers stage plan locators order = earlier ++ [node] ∧
      (verifyPlan answers stage plan locators order).2 = some ref ∧
      (ref.kind = .check ↔ unanswered answers stage plan node = true ∨ located answers stage node = true) := by
  induction order with
  | nil => exact Or.inl ⟨fun _ none => absurd none List.not_mem_nil, rfl, rfl⟩
  | cons node rest ih =>
      have here := verify_node_cases answers stage plan locators node
      rw [asked, verifyPlan]
      dsimp only at here ⊢
      rcases here with ⟨passed, err, refusal⟩ | ⟨failed, silent, err, reported⟩ | ⟨failed, answered, err, ref, refusal, kind⟩
      · simp only [err, refusal]
        rcases ih with ⟨all, whole, clean⟩ | ⟨earlier, last, later, ref, split, before, failed, reached, refused, kind⟩
        · refine Or.inl ⟨?_, ?_, clean⟩
          · intro other member
            cases List.mem_cons.mp member with
            | inl same => exact same ▸ passed
            | inr later => exact all other later
          · rw [List.map_cons, ← asked, whole]
        · refine Or.inr ⟨node :: earlier, last, later, ref, by rw [split, List.cons_append], ?_, failed, ?_, refused, kind⟩
          · intro other member
            cases List.mem_cons.mp member with
            | inl same => exact same ▸ passed
            | inr later => exact before other later
          · rw [List.map_cons, ← asked, reached, List.cons_append]
      · simp only [reported]
        exact Or.inr ⟨[], node, rest, _, rfl, fun _ none => absurd none List.not_mem_nil, failed, rfl, rfl, by simp [silent]⟩
      · simp only [err, refusal]
        exact Or.inr ⟨[], node, rest, ref, rfl, fun _ none => absurd none List.not_mem_nil, failed, rfl, rfl,
          by simp [kind, answered]⟩

end Verification

-- The commands that assert where the preferred spine's pins point.
def isPin (check : Check) : Bool := check.command = "ip -6 route show | grep 'metric 5'" || check.command = "ip -6 route show"

section Ready
variable (site : Site) (answers : Answers) (svc : SRv6Service) (alloc : Allocation) (plan : SRv6Plan)

def mainRefusal : Option Refusal := (verifyPlan answers.verify .main plan site.facts.locators (planOrder plan)).2

-- What the pass observes of the path; nothing for a service that is not steered.
def observed : Except String PathObservation :=
  match steeredPathView svc.spec (planOrder plan) alloc.serviceSIDs site.facts.spineLinks with
  | none => .ok {}
  | some view => observePath answers.verify view

-- The pin rides a known leg that is not the preferred one.
def ridesAlternate : Bool :=
  (steeredPathView svc.spec (planOrder plan) alloc.serviceSIDs site.facts.spineLinks).isSome &&
    match observed site answers svc alloc plan with
    | .ok seen => ¬ seen.down && seen.active ≠ "" && seen.active ≠ svc.spec.path.preferredSpine
    | .error _ => false

-- The plan takes the place of one applied before.
def updates : Bool := svc.status.appliedSpec.isSome && ¬ unchangedPlan site svc plan

-- The drift repair runs, and with it a second verification.
def repaired : Bool := unchangedPlan site svc plan && repairs site answers svc alloc plan

def lastStage : VerifyStage := if repaired site answers svc alloc plan then .repair else .main

def ran : VerifyStage → Bool
  | .update => updates site svc plan
  | .main => true
  | .repair => repaired site answers svc alloc plan

def askedIn (stage : VerifyStage) : List String := asked answers.verify stage plan site.facts.locators (planOrder plan)

/- The last verification of the pass has asked every node of the plan; each has its
   locator and passes its checks, the pins apart where the service rides another leg.
   And no verification of the pass went without an answer. -/
structure Justified : Prop where
  passed : ∀ node ∈ planOrder plan,
    node ∈ askedIn site answers plan (lastStage site answers svc alloc plan) ∧
      passes answers.verify (lastStage site answers svc alloc plan) plan (fun check => ridesAlternate site answers svc alloc plan && isPin check) node = true
  answered : ∀ stage, ran site answers svc alloc plan stage = true →
    ∀ node ∈ askedIn site answers plan stage, unanswered answers.verify stage plan node = false

-- Every node but the last passes whole, the last one but for its pins.
def onlyLastPins : Bool :=
  (planOrder plan).dropLast.all (passes answers.verify .main plan strict) &&
    (planOrder plan).getLast?.all (passes answers.verify .main plan isPin)

/- Nothing fails in the main verification; or the service rides its alternate and only
   pins of the last node fail; or the plan is unchanged, the service does not ride its
   alternate, and every call was answered. -/
def SoundlyReady : Prop :=
  mainRefusal site answers plan = none ∨
    if ridesAlternate site answers svc alloc plan then onlyLastPins answers plan = true
    else unchangedPlan site svc plan = true ∧
      ∀ node ∈ askedIn site answers plan .main, unanswered answers.verify .main plan node = false

-- The ways in which a pass can come to end with Ready=True.
structure ReadyWay : Prop where
  updated : updates site svc plan = true → (verifyPlan answers.verify .update plan site.facts.locators (planOrder plan)).2 = none
  verified : mainRefusal site answers plan = none ∨
    ((mainRefusal site answers plan).any (fun ref => ref.kind = .check) = true ∧ ridesAlternate site answers svc alloc plan = true) ∨
    (repaired site answers svc alloc plan = true ∧
      (verifyPlan answers.verify .repair plan site.facts.locators (planOrder plan)).2 = none) ∨
    updates site svc plan = true

section Ways

-- A verification without a refusal has asked all nodes, and all pass.
theorem clean_passes (stage : VerifyStage) (excused : Check → Bool)
    (clean : (verifyPlan answers.verify stage plan site.facts.locators (planOrder plan)).2 = none) :
    (∀ node ∈ planOrder plan, node ∈ askedIn site answers plan stage ∧ passes answers.verify stage plan excused node = true) ∧
      ∀ node ∈ askedIn site answers plan stage, unanswered answers.verify stage plan node = false := by
  rcases verify_plan_cases answers.verify stage plan site.facts.locators (planOrder plan) with
    ⟨all, whole, _⟩ | ⟨_, _, _, ref, _, _, _, _, refused, _⟩
  · rw [askedIn, whole]
    constructor
    · intro node member
      exact ⟨member, passes_weaken answers.verify stage plan excused node (all node member)⟩
    · intro node member
      exact passes_answered answers.verify stage plan strict node (all node member)
  · rw [clean] at refused
    cases refused

theorem rides_unrepaired (rides : ridesAlternate site answers svc alloc plan = true) :
    repairs site answers svc alloc plan = false := by
  rw [ridesAlternate, observed] at rides
  rw [repairs]
  cases steered : steeredPathView svc.spec (planOrder plan) alloc.serviceSIDs site.facts.spineLinks with
  | none => simp [steered] at rides
  | some view =>
      simp only [steered, Option.isSome_some, Bool.true_and] at rides ⊢
      cases seen : observePath answers.verify view with
      | error err => rfl
      | ok observation =>
          simp only [seen, Bool.and_eq_true, decide_eq_true_eq] at rides
          obtain ⟨⟨up, known⟩, other⟩ := rides
          have up : observation.down = false := by simpa using up
          simp only [steerPathOutcome, up, Bool.false_eq_true, if_false, decide_eq_true known, decide_eq_true other, Bool.and_true]
          cases (verifyPlan answers.verify .main plan site.facts.locators (planOrder plan)).2.any fun ref => ref.kind = .check <;> rfl

-- Where something fails in the main verification and pins may be excused.
theorem excused_passes_iff (order : List String) (distinct : order.Nodup)
    (failing : (verifyPlan answers.verify .main plan site.facts.locators order).2 ≠ none) :
    ((∀ node ∈ order, node ∈ asked answers.verify .main plan site.facts.locators order ∧
        passes answers.verify .main plan isPin node = true) ∧
      ∀ node ∈ asked answers.verify .main plan site.facts.locators order, unanswered answers.verify .main plan node = false) ↔
    (order.dropLast.all (passes answers.verify .main plan strict) && order.getLast?.all (passes answers.verify .main plan isPin)) = true := by
  rcases verify_plan_cases answers.verify .main plan site.facts.locators order with
    ⟨_, _, clean⟩ | ⟨earlier, node, rest, ref, split, before, failed, reached, _, _⟩
  · exact absurd clean failing
  · rw [reached]
    constructor
    · intro both
      have last : rest = [] := by
        cases rest with
        | nil => rfl
        | cons other more =>
            have member : other ∈ order := by rw [split]; simp
            have came := (both.1 other member).1
            rw [split, List.nodup_append] at distinct
            cases List.mem_append.mp came with
            | inl early => exact absurd rfl (distinct.2.2 other early other (by simp))
            | inr here =>
                rw [List.mem_singleton] at here
                exact absurd (by rw [here]; simp) (List.nodup_cons.mp distinct.2.1).1
      rw [split, last, List.dropLast_concat, List.getLast?_concat, Bool.and_eq_true]
      exact ⟨List.all_eq_true.mpr before, (both.1 node (by rw [split]; simp)).2⟩
    · intro ends
      rw [Bool.and_eq_true] at ends
      obtain ⟨whole, final⟩ := ends
      have last : rest = [] := by
        cases rest with
        | nil => rfl
        | cons other more =>
            have inside : node ∈ order.dropLast := by
              rw [split, List.dropLast_append_of_ne_nil (List.cons_ne_nil _ _), List.dropLast_cons_of_ne_nil (List.cons_ne_nil _ _)]
              simp
            have passed := List.all_eq_true.mp whole node inside
            rw [passed] at failed
            cases failed
      rw [split, last, List.getLast?_concat] at final
      have final : passes answers.verify .main plan isPin node = true := final
      rw [split, last]
      constructor
      · intro other member
        refine ⟨member, ?_⟩
        cases List.mem_append.mp member with
        | inl early => exact passes_weaken answers.verify .main plan isPin other (before other early)
        | inr here =>
            rw [List.mem_singleton] at here
            exact here ▸ final
      · intro other member
        cases List.mem_append.mp member with
        | inl early => exact passes_answered answers.verify .main plan strict other (before other early)
        | inr here =>
            rw [List.mem_singleton] at here
            exact here ▸ passes_answered answers.verify .main plan isPin node final

-- Some node fails the main verification, and none of its checks is excused.
theorem unexcused_fails (failing : mainRefusal site answers plan ≠ none) :
    ¬ ∀ node ∈ planOrder plan, node ∈ askedIn site answers plan .main ∧ passes answers.verify .main plan strict node = true := by
  rcases verify_plan_cases answers.verify .main plan site.facts.locators (planOrder plan) with
    ⟨_, _, clean⟩ | ⟨earlier, node, rest, ref, split, _, failed, _, _, _⟩
  · exact absurd clean failing
  · intro all
    have passed := (all node (by rw [split]; simp)).2
    rw [failed] at passed
    cases passed

theorem unfailing_unrepaired (clean : mainRefusal site answers plan = none) : repairs site answers svc alloc plan = false := by
  rw [mainRefusal] at clean
  rw [repairs]
  simp only [clean, Option.any_none, Bool.and_false]
  split <;> rfl

theorem unrepaired_last (clean : repaired site answers svc alloc plan = false) :
    lastStage site answers svc alloc plan = .main ∧ ran site answers svc alloc plan .repair = false := by
  constructor
  · rw [lastStage, clean]
    rfl
  · exact clean

section Justifying
variable (updateAnswered : ran site answers svc alloc plan .update = true →
  ∀ node ∈ askedIn site answers plan .update, unanswered answers.verify .update plan node = false)
include updateAnswered

-- Without a repair the main verification is the last one.
theorem justified_by_main_iff (clean : repaired site answers svc alloc plan = false) :
    Justified site answers svc alloc plan ↔
      (∀ node ∈ planOrder plan, node ∈ askedIn site answers plan .main ∧
        passes answers.verify .main plan (fun check => ridesAlternate site answers svc alloc plan && isPin check) node = true) ∧
      ∀ node ∈ askedIn site answers plan .main, unanswered answers.verify .main plan node = false := by
  obtain ⟨last, silent⟩ := unrepaired_last site answers svc alloc plan clean
  constructor
  · intro sound
    have passed := sound.passed
    rw [last] at passed
    exact ⟨passed, sound.answered .main rfl⟩
  · intro both
    constructor
    · rw [last]
      exact both.1
    · intro stage happened
      cases stage with
      | update => exact updateAnswered happened
      | main => exact both.2
      | repair =>
          rw [silent] at happened
          cases happened

-- A repair that verifies clean leaves the answers of the verification before it.
theorem justified_by_repair_iff (again : repaired site answers svc alloc plan = true)
    (clean : (verifyPlan answers.verify .repair plan site.facts.locators (planOrder plan)).2 = none) :
    Justified site answers svc alloc plan ↔
      ∀ node ∈ askedIn site answers plan .main, unanswered answers.verify .main plan node = false := by
  have last : lastStage site answers svc alloc plan = .repair := by rw [lastStage, again]; rfl
  obtain ⟨passed, answered⟩ := clean_passes site answers plan .repair
    (fun check => ridesAlternate site answers svc alloc plan && isPin check) clean
  constructor
  · intro sound
    exact sound.answered .main rfl
  · intro mainAnswered
    constructor
    · rw [last]
      exact passed
    · intro stage happened
      cases stage with
      | update => exact updateAnswered happened
      | main => exact mainAnswered
      | repair => exact answered

end Justifying

-- Whichever way a pass has come to its Ready=True, it is justified exactly where the condition holds.
theorem way_justified_iff (way : ReadyWay site answers svc alloc plan) :
    Justified site answers svc alloc plan ↔ SoundlyReady site answers svc alloc plan := by
  have updateAnswered : ran site answers svc alloc plan .update = true →
      ∀ node ∈ askedIn site answers plan .update, unanswered answers.verify .update plan node = false := fun updating =>
    (clean_passes site answers plan .update strict (way.updated updating)).2
  cases refused : mainRefusal site answers plan with
  | none =>
      have unrepaired : repaired site answers svc alloc plan = false := by
        rw [repaired, unfailing_unrepaired site answers svc alloc plan refused, Bool.and_false]
      rw [justified_by_main_iff site answers svc alloc plan updateAnswered unrepaired]
      constructor
      · intro _
        exact Or.inl refused
      · intro _
        exact clean_passes site answers plan .main _ refused
  | some ref =>
      have failing : mainRefusal site answers plan ≠ none := by rw [refused]; exact Option.some_ne_none ref
      rw [SoundlyReady, or_iff_right failing]
      cases rides : ridesAlternate site answers svc alloc plan with
      | true =>
          have unrepaired : repaired site answers svc alloc plan = false := by
            rw [repaired, rides_unrepaired site answers svc alloc plan rides, Bool.and_false]
          rw [justified_by_main_iff site answers svc alloc plan updateAnswered unrepaired, if_pos rfl, rides]
          simp only [Bool.true_and]
          exact excused_passes_iff site answers plan (planOrder plan) (plan_order_nodup plan) failing
      | false =>
          rw [if_neg Bool.false_ne_true]
          rcases way.verified with clean | ⟨_, wrong⟩ | ⟨again, clean⟩ | updating
          · exact absurd clean failing
          · rw [rides] at wrong
            cases wrong
          · have unchanged : unchangedPlan site svc plan = true := by
              rw [repaired, Bool.and_eq_true] at again
              exact again.1
            rw [justified_by_repair_iff site answers svc alloc plan updateAnswered again clean, unchanged]
            simp
          · have changed : unchangedPlan site svc plan = false := by
              rw [updates, Bool.and_eq_true] at updating
              simpa using updating.2
            have unrepaired : repaired site answers svc alloc plan = false := by rw [repaired, changed, Bool.false_and]
            rw [justified_by_main_iff site answers svc alloc plan updateAnswered unrepaired, rides, changed]
            constructor
            · intro sound
              exact absurd sound.1 (unexcused_fails site answers plan failing)
            · intro both
              cases both.1

end Ways

-- What a pass has sent: Ready=True only where `wrote` says so.
def Wrote (wrote : Prop) (pass : Pass) : Prop := ReadyWritten pass → wrote

section Passing
variable (wrote : Prop)

theorem refuse_wrote {α : Type} (ref : Refusal) :
    Triple (Wrote wrote) (refuse answers svc ref : PassM α) (fun _ _ => False) (fun _ s => Wrote wrote s) := by
  intro pass here
  exact triple_weaken _ _ _ _ _ _ _
    (triple_refuse_served answers svc pass.calls (shownOf pass.stored.status) wrote ref fun _ _ => False)
    (fun s (same : s = pass) => by subst same; exact ⟨rfl, rfl, here⟩) (fun _ _ impossible => impossible)
    (fun _ _ served => served.ready) pass rfl

theorem refuse_if_wrote (refusal : Option Refusal) :
    Triple (Wrote wrote) (refuseIf answers svc refusal) (fun _ s => refusal = none ∧ Wrote wrote s) (fun _ s => Wrote wrote s) :=
  triple_gate answers svc _ _ (fun ref => refuse_wrote answers svc wrote ref) refusal

/- The update runs through without a refusal only behind a clean verification, and
   writes Ready=True only then. -/
theorem apply_update_wrote (pass : Pass) (silent : ¬ ReadyWritten pass) (recorded : pass.status.appliedSpec.isSome = true)
    (hashes : GoMap String) :
    Triple (fun s => s = pass) (applyUpdate site answers svc alloc plan (planOrder plan) hashes)
      (fun refusal s =>
        (refusal = none ∧ (verifyPlan answers.verify .update plan site.facts.locators (planOrder plan)).2 = none) ∨
          (refusal ≠ none ∧ ¬ ReadyWritten s))
      (fun _ s => ¬ ReadyWritten s) := by
  obtain ⟨applied, recorded⟩ := Option.isSome_iff_exists.mp recorded
  apply triple_read_bind
  intro current same
  subst same
  rw [recorded, renderAppliedPlan]
  cases buildPlan applied alloc site.facts with
  | error message =>
      intro s here
      exact Or.inr ⟨Option.some_ne_none _, here ▸ silent⟩
  | ok prev =>
      dsimp only [Except.map]
      apply triple_bind _ _ _ _ (fun _ s => ¬ ReadyWritten s)
      · intro s here
        subst here
        exact silent
      · intro _
        cases (driveUpdate answers.apply prev plan (planOrder plan)).2 with
        | some ref => exact fun s here => Or.inr ⟨Option.some_ne_none _, here⟩
        | none =>
            apply triple_bind _ _ _ _ (fun _ s => ¬ ReadyWritten s)
            · exact fun s here => here
            · intro _
              cases clean : (verifyPlan answers.verify .update plan site.facts.locators (planOrder plan)).2 with
              | some ref => exact fun s here => Or.inr ⟨Option.some_ne_none _, here⟩
              | none =>
                  apply triple_read_bind
                  intro late here current same
                  subst same
                  simp only [bind_run]
                  unfold patchStatus
                  by_cases lands : answers.patch .updateStatus
                  · rw [if_pos lands]
                    exact Or.inl ⟨rfl, trivial⟩
                  · rw [if_neg lands]
                    exact Or.inr ⟨Option.some_ne_none _, here⟩

-- Behind the apply stage.
theorem apply_stage_wrote (store claimed : Store) :
    Triple (fun s => s = claimedPass svc store claimed)
      (applyStage site answers svc alloc plan (planOrder plan) (planHashes site.digest plan) (unchangedPlan site svc plan))
      (fun _ s => (updates site svc plan = true →
          (verifyPlan answers.verify .update plan site.facts.locators (planOrder plan)).2 = none) ∧
        Wrote (updates site svc plan = true) s)
      (fun _ s => ¬ ReadyWritten s) := by
  have silent : ¬ ReadyWritten (claimedPass svc store claimed) := (claimed_pass_stands svc store claimed).served.ready
  apply triple_read_bind
  intro pass same
  subst same
  have updating : updates site svc plan = true ↔
      ((claimedPass svc store claimed).status.appliedSpec.isSome = true ∧ ¬ unchangedPlan site svc plan = true) := by
    rw [updates, Bool.and_eq_true, decide_eq_true_eq]
    rfl
  apply triple_ite
  · intro update
    apply triple_bind _ _ _ _ _ _ (apply_update_wrote site answers svc alloc plan _ silent update.1 _)
    intro refusal s reached
    have changed : updates site svc plan = true := updating.mpr update
    cases refusal with
    | none =>
        rcases reached with ⟨_, clean⟩ | ⟨wrong, _⟩
        · exact ⟨fun _ => clean, fun _ => changed⟩
        · exact absurd rfl wrong
    | some ref =>
        rcases reached with ⟨wrong, _⟩ | ⟨_, unwritten⟩
        · cases wrong
        · exact triple_weaken _ _ _ _ _ _ _ (refuse_wrote answers svc False ref) (fun _ here => here)
            (fun _ _ impossible => impossible.elim) (fun _ _ here => here) s unwritten
  · intro other
    have still : ¬ updates site svc plan = true := fun update => other (updating.mp update)
    have kept : ∀ s, ¬ ReadyWritten s → (updates site svc plan = true →
        (verifyPlan answers.verify .update plan site.facts.locators (planOrder plan)).2 = none) ∧
        Wrote (updates site svc plan = true) s := fun s unwritten =>
      ⟨fun update => absurd update still, fun written => absurd written unwritten⟩
    apply triple_ite
    · intro _
      rw [firstApply]
      cases applyPlan answers.apply .firstApply plan (planOrder plan) with
      | mk calls failed =>
          cases failed with
          | none =>
              intro s here
              subst here
              exact kept _ silent
          | some stop =>
              intro s here
              subst here
              exact triple_weaken _ _ _ _ _ _ _ (refuse_wrote answers svc False (applyFailedRefusal stop.1 stop.2))
                (fun _ here => here) (fun _ _ impossible => impossible.elim) (fun _ _ here => here) _ silent
    · intro _ s here
      subst here
      exact kept _ silent

theorem record_drift_wrote (ref : Refusal) (left : ReconcileResult → Pass → Prop) :
    Triple (Wrote wrote) (recordDrift answers svc ref) (fun _ s => Wrote wrote s) left := by
  apply triple_read_bind
  intro pass here
  have patches := triple_patch_unready answers pass.calls (shownOf pass.stored.status) wrote .drift
    (setRefusal answers.now pass.status svc.generation ref) (refusal_unready _ _ _ _) pass ⟨rfl, rfl, here⟩ (shown_refusal _ _ _ _) left
  apply triple_bind _ _ _ _ _ _ patches
  intro landed s reached
  cases landed with
  | true => exact reached.1.ready
  | false => exact reached.1.ready

-- The repair runs through with what the second verification says.
theorem repair_drift_wrote (drift : Refusal) :
    Triple (Wrote wrote) (repairDrift site answers svc alloc plan (planOrder plan) drift)
      (fun remaining s => remaining = (verifyPlan answers.verify .repair plan site.facts.locators (planOrder plan)).2 ∧ Wrote wrote s)
      (fun _ s => Wrote wrote s) := by
  apply triple_bind _ _ _ _ _ _ (record_drift_wrote answers svc wrote drift _)
  intro _
  cases applyPlan answers.apply .driftApply plan (planOrder plan) with
  | mk calls failed =>
      cases failed with
      | none => exact fun s here => ⟨rfl, here⟩
      | some stop =>
          intro s here
          exact triple_weaken _ _ _ _ _ _ _ (refuse_wrote answers svc wrote (applyFailedRefusal stop.1 stop.2))
            (fun _ here => here) (fun _ _ impossible => impossible.elim) (fun _ _ here => here) _ here

-- What a verification stage that runs through has found.
def VerifiedWay : Prop :=
  mainRefusal site answers plan = none ∨
    ((mainRefusal site answers plan).any (fun ref => ref.kind = .check) = true ∧ ridesAlternate site answers svc alloc plan = true) ∨
    (repaired site answers svc alloc plan = true ∧
      (verifyPlan answers.verify .repair plan site.facts.locators (planOrder plan)).2 = none)

-- Behind the path: what it excuses, and the repair of the rest.
theorem drift_wrote (path : SteerPath)
    (excused : path.skipRepair = true → (mainRefusal site answers plan).any (fun ref => ref.kind = .check) = true ∧
      ridesAlternate site answers svc alloc plan = true)
    (repairing : repairs site answers svc alloc plan = (¬ path.skipRepair && (mainRefusal site answers plan).any fun ref => ref.kind = .check)) :
    Triple (Wrote wrote)
      (do
        refuseIf answers svc path.refusal
        match if path.skipRepair then none else mainRefusal site answers plan with
        | none => pure path.activePath
        | some ref =>
            if unchangedPlan site svc plan ∧ ref.kind = .check then do
              let remaining ← repairDrift site answers svc alloc plan (planOrder plan) ref
              refuseIf answers svc remaining
              pure path.activePath
            else refuse answers svc ref)
      (fun _ s => VerifiedWay site answers svc alloc plan ∧ Wrote wrote s) (fun _ s => Wrote wrote s) := by
  apply triple_bind _ _ _ _ _ _ (refuse_if_wrote answers svc wrote path.refusal)
  intro _
  cases skip : path.skipRepair with
  | true =>
      rw [if_pos rfl]
      exact fun s here => ⟨Or.inr (Or.inl (excused skip)), here.2⟩
  | false =>
      rw [if_neg Bool.false_ne_true]
      cases failing : mainRefusal site answers plan with
      | none => exact fun s here => ⟨Or.inl failing, here.2⟩
      | some ref =>
          apply triple_ite
          · intro drifting
            have again : repaired site answers svc alloc plan = true := by
              rw [repaired, drifting.1, repairing, skip, failing]
              simp [drifting.2]
            intro s here
            apply triple_bind _ _ _ _ _ _ (repair_drift_wrote site answers svc alloc plan wrote ref) _ s here.2
            intro remaining t reached
            obtain ⟨found, kept⟩ := reached
            apply triple_bind _ _ _ _ _ _ (refuse_if_wrote answers svc wrote remaining) _ t kept
            intro _ last clean
            exact ⟨Or.inr (Or.inr ⟨again, found.symm.trans clean.1⟩), clean.2⟩
          · intro _ s here
            exact triple_weaken _ _ _ _ _ _ _ (refuse_wrote answers svc wrote ref) (fun _ here => here)
              (fun _ _ impossible => impossible.elim) (fun _ _ here => here) s here.2

theorem verify_stage_wrote :
    Triple (Wrote wrote) (verifyStage site answers svc alloc plan (planOrder plan) (unchangedPlan site svc plan))
      (fun _ s => VerifiedWay site answers svc alloc plan ∧ Wrote wrote s) (fun _ s => Wrote wrote s) := by
  apply triple_bind _ _ _ _ (fun _ s => Wrote wrote s)
  · exact fun s here => here
  · intro _
    have behind := drift_wrote site answers svc alloc plan wrote
    have repairing := repairs.eq_def site answers svc alloc plan
    have riding := ridesAlternate.eq_def site answers svc alloc plan
    rw [observed] at riding
    dsimp only at repairing ⊢
    cases steered : steeredPathView svc.spec (planOrder plan) alloc.serviceSIDs site.facts.spineLinks with
    | none =>
        rw [steered] at repairing
        exact behind _ (fun skip => absurd skip (by simp [steerPathOutcome])) repairing
    | some view =>
        rw [steered] at repairing riding
        dsimp only at repairing riding ⊢
        cases seen : observePath answers.verify view with
        | error err => exact fun s here => here
        | ok observation =>
            rw [seen] at repairing riding
            apply behind _ _ repairing
            intro skip
            simp only [steerPathOutcome] at skip
            cases down : observation.down with
            | true => simp [down] at skip
            | false =>
                simp only [down, Bool.false_eq_true, if_false, Bool.and_eq_true] at skip
                refine ⟨skip.1.1, ?_⟩
                rw [riding]
                simp [down, skip.1.2, skip.2]

theorem ready_stage_wrote (hashes : GoMap String) (activePath : String) :
    Triple (Wrote wrote) (readyStage answers svc alloc hashes activePath) (fun _ _ => True) (fun _ s => Wrote wrote s) := by
  apply triple_read_bind
  intro pass here
  have recording : ∀ next, Triple (fun s => s = pass) (recordReady answers pass.status next) (fun _ _ => True) (fun _ s => Wrote wrote s) := by
    intro next
    apply triple_ite
    · exact fun _ s _ => trivial
    · intro _ s same
      subst same
      simp only [bind_run]
      unfold patchStatus
      by_cases lands : answers.patch .ready
      · rw [if_pos lands]
        trivial
      · rw [if_neg lands]
        exact here
  dsimp only
  apply triple_ite
  · intro _
    split
    · exact fun s same => same ▸ here
    · apply triple_bind _ _ _ _ (fun _ _ => False)
      · intro s same
        subst same
        exact refuse_wrote answers svc wrote _ s here
      · exact fun _ _ impossible => impossible.elim
    · exact recording _
  · intro _
    exact recording _

end Passing

end Ready

/- The pass ends with Ready=True: it returns what the Ready stage returns, or it has
   written Ready=True and the object still shows it. -/
def EndsReady (result : ReconcileResult) (pass : Pass) : Prop :=
  result = resync ∨ (ReadyWritten pass ∧ isReady pass.stored.status = true)

instance (result : ReconcileResult) (pass : Pass) : Decidable (EndsReady result pass) :=
  inferInstanceAs (Decidable (result = resync ∨ (ReadyWritten pass ∧ isReady pass.stored.status = true)))

section Pass
variable (site : Site) (lists : ConflictLists) (answers : Answers) (svc : SRv6Service) (store : Store)

-- The pass came through the gates to a plan, and in one of the ways to its end.
def CameReady : Prop :=
  ∃ alloc plan claimed, Admitted site lists answers svc store alloc plan claimed ∧ ReadyWay site answers svc alloc plan

theorem drive_stages_ready (alloc : Allocation) (plan : SRv6Plan) (claimed : Store)
    (admitted : Admitted site lists answers svc store alloc plan claimed) :
    Triple (fun s => s = claimedPass svc store claimed) (driveStages site answers svc alloc plan)
      (fun _ _ => CameReady site lists answers svc store)
      (fun _ s => Wrote (CameReady site lists answers svc store) s) := by
  have came : ReadyWay site answers svc alloc plan → CameReady site lists answers svc store := fun way =>
    ⟨alloc, plan, claimed, admitted, way⟩
  apply triple_read_bind
  intro pass same
  subst same
  have applied := apply_stage_wrote site answers svc alloc plan store claimed
  apply triple_bind _ _ _ _ _ _ (triple_weaken _ _ _ _ _ _ _ applied (fun _ here => here) (fun _ _ held => held)
    fun _ s silent written => absurd written silent)
  intro _ s reached
  obtain ⟨updated, wrote⟩ := reached
  have verified := verify_stage_wrote site answers svc alloc plan (updates site svc plan = true)
  apply triple_bind _ _ _ _ _ _ (triple_weaken _ _ _ _ _ _ _ verified (fun _ here => here) (fun _ _ held => held) ?_) _ s wrote
  · intro _ t sent written
    exact came ⟨updated, Or.inr (Or.inr (Or.inr (sent written)))⟩
  · intro activePath t found
    obtain ⟨way, sent⟩ := found
    have here : ReadyWay site answers svc alloc plan := by
      refine ⟨updated, ?_⟩
      rcases way with clean | excused | again
      · exact Or.inl clean
      · exact Or.inr (Or.inl excused)
      · exact Or.inr (Or.inr (Or.inl again))
    have last := ready_stage_wrote answers svc alloc (updates site svc plan = true) (planHashes site.digest plan) activePath
    have out : ∀ u, Wrote (CameReady site lists answers svc store) u := fun _ _ => came here
    exact triple_weaken _ _ _ _ _ _ _ last (fun _ start => start) (fun _ _ _ => came here) (fun _ u _ => out u) t sent

theorem quiet_ends_wrote :
    QuietEnds site lists answers svc store (fun s => Wrote (CameReady site lists answers svc store) s) where
  refused := by
    intro α claimed ref _ s same
    subst same
    have silent := (claimed_pass_stands svc store claimed).served.ready
    exact refuse_wrote answers svc _ ref _ fun written => absurd written silent
  stopped := fun claimed _ written => absurd written (claimed_pass_stands svc store claimed).served.ready
  added := fun written => absurd written (claimed_pass_stands svc store store).served.ready

-- A pass that ends with Ready=True has come there in one of the ways.
theorem ends_ready_came
    (ready : EndsReady (resultOf (reconcile site lists answers svc (startPass svc store)).2)
      (reconcile site lists answers svc (startPass svc store)).1) : CameReady site lists answers svc store := by
  have ended := triple_reconcile_live site lists answers svc store _ (quiet_ends_wrote site lists answers svc store)
    (fun _ _ => CameReady site lists answers svc store) (drive_stages_ready site lists answers svc store) (startPass svc store) rfl
  have live : reconcile site lists answers svc (startPass svc store) = reconcileLive site lists answers svc (startPass svc store) := by
    cases ready with
    | inl returned => exact (resync_through site lists answers svc (startPass svc store) returned).2.1
    | inr written =>
        have alive := (reconcile_ready_end site lists answers svc store).2 written.1
        rw [reconcile, if_neg (by simp [alive])]
  cases outcome : reconcileLive site lists answers svc (startPass svc store) with
  | mk pass result =>
      rw [live] at ready
      rw [outcome] at ended ready
      cases result with
      | ok value => exact ended
      | error value =>
          cases ready with
          | inl returned =>
              have through := (resync_through site lists answers svc (startPass svc store) (by rw [live, outcome]; exact returned)).2.2
              rw [live, outcome] at through
              cases through
          | inr written => exact ended written.1

/- For every pass that ends with Ready=True, what it verified justifies that exactly
   where the condition on the answers holds. -/
theorem ready_justified_iff
    (ready : EndsReady (resultOf (reconcile site lists answers svc (startPass svc store)).2)
      (reconcile site lists answers svc (startPass svc store)).1) :
    ∃ alloc plan claimed, Admitted site lists answers svc store alloc plan claimed ∧
      (Justified site answers svc alloc plan ↔ SoundlyReady site answers svc alloc plan) := by
  obtain ⟨alloc, plan, claimed, admitted, way⟩ := ends_ready_came site lists answers svc store ready
  exact ⟨alloc, plan, claimed, admitted, way_justified_iff site answers svc alloc plan way⟩

end Pass


/- The lab's red on its first activation: everything answers well; and, with a path over
   spine01, the VRF check of leaf01 fails, leaf02 would not answer, and the pin rides
   spine02. -/
def labFinalized : SRv6Service := { labService "red" "wan1" with finalizers := [srv6Finalizer] }

def labSteered : SRv6Service :=
  { labFinalized with
    spec := { labSpec "red" "wan1" with path := { preferredSpine := "spine01", alternateSpine := "spine02" } } }

def labSteeredAnswers : Answers :=
  { labAnswers 7 "192.168.1.0/24" "192.168.2.0/24" with
    capability :=
      .ok [(keySAISRV6, "true"), (keySRv6Supported, "ip-vrf/vpn,steering"), (keyProbeAttachments, "leaf01/wan1,leaf02/wan1")]
    verify :=
      { locator := fun _ node => if node = "leaf01" then .ok [⟨"", true, "", ""⟩] else .error "timeout",
        checks := fun _ _ => .ok (⟨"", false, "", "no such key"⟩ :: List.replicate 8 ⟨"", true, "", ""⟩),
        path := fun _ => .ok [⟨"", true, "fcbb:bbbb:4:11:: via 2001:db8:2::3 dev Ethernet4", ""⟩],
        probe := fun _ => .ok [⟨"", true, "", ""⟩] } }

def labAlone : ConflictLists := ⟨some [], some []⟩

def labActivation (answers : Answers) (svc : SRv6Service) : Pass × Except ReconcileResult ReconcileResult :=
  reconcile labSite labAlone answers svc (startPass svc {})

theorem lab_ready_justified :
    EndsReady (resultOf (labActivation (labAnswers 7 "192.168.1.0/24" "192.168.2.0/24") labFinalized).2)
        (labActivation (labAnswers 7 "192.168.1.0/24" "192.168.2.0/24") labFinalized).1 ∧
      ∃ alloc plan claimed,
        Admitted labSite labAlone (labAnswers 7 "192.168.1.0/24" "192.168.2.0/24") labFinalized {} alloc plan claimed ∧
        (Justified labSite (labAnswers 7 "192.168.1.0/24" "192.168.2.0/24") labFinalized alloc plan ↔
          SoundlyReady labSite (labAnswers 7 "192.168.1.0/24" "192.168.2.0/24") labFinalized alloc plan) :=
  have ready : EndsReady (resultOf (labActivation (labAnswers 7 "192.168.1.0/24" "192.168.2.0/24") labFinalized).2)
      (labActivation (labAnswers 7 "192.168.1.0/24" "192.168.2.0/24") labFinalized).1 := by decide +kernel
  ⟨ready, ready_justified_iff labSite labAlone (labAnswers 7 "192.168.1.0/24" "192.168.2.0/24") labFinalized {} ready⟩

def labSteeredPlan : SRv6Plan :=
  match buildPlan labSteered.spec (labAllocation 7 "192.168.1.0/24" "192.168.2.0/24") labFacts with
  | .ok plan => plan
  | .error _ => []

-- Ready=True is written, with a failed VRF check and a node that nobody has asked.
theorem lab_ready_unjustified :
    EndsReady (resultOf (labActivation labSteeredAnswers labSteered).2) (labActivation labSteeredAnswers labSteered).1 ∧
      ReadyWritten (labActivation labSteeredAnswers labSteered).1 ∧
      (labActivation labSteeredAnswers labSteered).1.status.nodes.map NodeStatus.node = ["leaf01"] ∧
      ¬ Justified labSite labSteeredAnswers labSteered (labAllocation 7 "192.168.1.0/24" "192.168.2.0/24") labSteeredPlan := by
  refine ⟨by decide +kernel, by decide +kernel, by decide +kernel, ?_⟩
  intro sound
  have listed : "leaf02" ∈ planOrder labSteeredPlan := by decide +kernel
  have unasked : "leaf02" ∉ askedIn labSite labSteeredAnswers labSteeredPlan
      (lastStage labSite labSteeredAnswers labSteered (labAllocation 7 "192.168.1.0/24" "192.168.2.0/24") labSteeredPlan) := by
    decide +kernel
  exact unasked (sound.passed "leaf02" listed).1

end AgenticNetops.Srv6service
