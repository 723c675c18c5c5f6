import AgenticNetops.Sonicprovider.NetworkController

set_option autoImplicit false

/- controllers/sonicprovider/network_controller.go: the same reconcile with the clock that
   its conditions are stamped from, and what the next reconcile writes. -/
namespace AgenticNetops.Sonicprovider

open GoText Kubenet Fabricplan

-- A stamp is stored in RFC 3339, in whole seconds.
structure StampedCondition where
  condition : NetworkCondition
  lastTransitionTime : Nat
deriving DecidableEq, Repr

structure StampedStatus where
  conditions : List StampedCondition := []
  observedGeneration : Nat := 0
deriving DecidableEq, Repr

structure StampedNetwork where
  network : Network
  finalizers : List String := []
  deletionTimestamp : Option Int := none
  generation : Nat := 1
  status : StampedStatus := {}
deriving DecidableEq, Repr

-- The object with its stamps left out.
def StampedNetwork.plain (net : StampedNetwork) : NetworkObject :=
  { network := net.network
    finalizers := net.finalizers
    deletionTimestamp := net.deletionTimestamp
    generation := net.generation
    status :=
      { conditions := net.status.conditions.map StampedCondition.condition
        observedGeneration := net.status.observedGeneration } }

-- The second of a clock that counts nanoseconds.
def secondOf (now : Nat) : Nat := now / 10 ^ 9

def upsertStamped (conds : List StampedCondition) (c : StampedCondition) : List StampedCondition :=
  match conds with
  | [] => [c]
  | first :: rest => if first.condition.type = c.condition.type then c :: rest else first :: upsertStamped rest c

section Write
variable (now : Nat) (outcome : Bool × String × Message) (generation : Nat)

def readyCondition : StampedCondition :=
  ⟨{ type := "Ready", status := outcome.1, reason := outcome.2.1, message := outcome.2.2, observedGeneration := generation },
    secondOf now⟩

def degradedCondition : StampedCondition :=
  ⟨{ type := "Degraded", status := false, reason := "NoFailuresObserved", observedGeneration := generation }, secondOf now⟩

def stampedStatus (status : StampedStatus) : StampedStatus :=
  { conditions := upsertStamped (upsertStamped status.conditions (readyCondition now outcome generation))
      (degradedCondition now generation)
    observedGeneration := generation }

end Write

/- What a reconcile of a live Network sets its conditions to, whichever way it ends. -/
def verdict (site : Site) (answers : Answers) (net : Network) : Bool × String × Message :=
  match answers.pins with
  | .error (reason, message) => (false, reason, message)
  | .ok () =>
      match site.plan net with
      | .error message => (false, reasonSchemaMismatch, message)
      | .ok plan =>
          match applyNodes answers plan plan.sortedKeys with
          | (_, some failure) => (false, reasonApplyFailed, failure)
          | (_, none) => (true, reasonApplySucceeded, [.lit "applied and verified on all nodes"])

def setConditionsAt (now : Nat) (answers : Answers) (net : StampedNetwork) (outcome : Bool × String × Message) : StampedNetwork :=
  if answers.patch then { net with status := stampedStatus now outcome net.generation net.status } else net

-- Only a live Network that has its finalizer gets conditions.
def reconcileAt (now : Nat) (site : Site) (answers : Answers) (net : StampedNetwork) : Option StampedNetwork :=
  if net.deletionTimestamp.isSome then
    (finalize site answers net.plain).object.map fun left => { net with finalizers := left.finalizers }
  else if networkFinalizer ∉ net.finalizers then
    if answers.update then some { net with finalizers := net.finalizers ++ [networkFinalizer] } else some net
  else some (setConditionsAt now answers net (verdict site answers net.network))

section Refinement
variable (now : Nat) (site : Site) (answers : Answers) (net : StampedNetwork)

theorem upsert_plain (conds : List StampedCondition) (c : StampedCondition) :
    (upsertStamped conds c).map StampedCondition.condition =
      upsertCondition (conds.map StampedCondition.condition) c.condition := by
  induction conds with
  | nil => rfl
  | cons first rest inner =>
      rw [upsertStamped, List.map_cons, upsertCondition]
      by_cases same : first.condition.type = c.condition.type
      · rw [if_pos same, if_pos same]
        rfl
      · rw [if_neg same, if_neg same, List.map_cons, inner]

theorem set_conditions_plain (outcome : Bool × String × Message) :
    (setConditionsAt now answers net outcome).plain = setConditions answers net.plain outcome.1 outcome.2.1 outcome.2.2 := by
  rw [setConditionsAt, setConditions]
  by_cases landed : answers.patch = true
  · rw [if_pos landed, if_pos landed]
    simp only [StampedNetwork.plain, stampedStatus, upsert_plain, readyCondition, degradedCondition]
  · rw [if_neg landed, if_neg landed]

theorem converge_verdict : (converge site answers net.plain).object =
    some (setConditions answers net.plain (verdict site answers net.network).1 (verdict site answers net.network).2.1
      (verdict site answers net.network).2.2) := by
  have same : net.plain.network = net.network := rfl
  unfold converge verdict
  rw [same]
  cases answers.pins with
  | error refused => rfl
  | ok _ =>
      cases site.plan net.network with
      | error message => rfl
      | ok plan =>
          dsimp only
          cases applyNodes answers plan plan.sortedKeys with
          | mk calls failure => cases failure <;> rfl

theorem finalize_object (left : NetworkObject) (kept : (finalize site answers net.plain).object = some left) :
    { net with finalizers := left.finalizers }.plain = left := by
  unfold finalize at kept
  dsimp only at kept
  split at kept
  · injection kept with same
    rw [← same]
    rfl
  · split at kept
    · injection kept with same
      rw [← same]
      rfl
    · unfold released at kept
      dsimp only at kept
      split at kept
      · exact absurd kept.symm (Option.some_ne_none left)
      · injection kept with same
        rw [← same]
        rfl

/- Without its stamps, the object is the one that the reconcile leaves. -/
theorem reconcile_at_plain :
    (reconcileAt now site answers net).map StampedNetwork.plain = (reconcile site answers net.plain).object := by
  unfold reconcileAt reconcile
  by_cases deleting : net.deletionTimestamp.isSome = true
  · have same : net.plain.deletionTimestamp.isSome = true := deleting
    rw [if_pos deleting, if_pos same, Option.map_map]
    cases kept : (finalize site answers net.plain).object with
    | none => rfl
    | some left => exact congrArg some (finalize_object site answers net left kept)
  · have same : ¬ net.plain.deletionTimestamp.isSome = true := deleting
    rw [if_neg deleting, if_neg same]
    by_cases owned : networkFinalizer ∉ net.finalizers
    · have absent : networkFinalizer ∉ net.plain.finalizers := owned
      rw [if_pos owned, if_pos absent]
      by_cases updated : answers.update = true
      · rw [if_pos updated, if_pos updated]
        rfl
      · rw [if_neg updated, if_neg updated]
        rfl
    · have present : ¬ networkFinalizer ∉ net.plain.finalizers := owned
      rw [if_neg owned, if_neg present, converge_verdict]
      exact congrArg some (set_conditions_plain now answers net _)

end Refinement

section Stamps

def stampedOf (conds : List StampedCondition) (type : String) : Option StampedCondition :=
  conds.find? fun c => c.condition.type = type

theorem upsert_found (conds : List StampedCondition) (c : StampedCondition) :
    stampedOf (upsertStamped conds c) c.condition.type = some c := by
  induction conds with
  | nil => exact List.find?_cons_of_pos (decide_eq_true rfl)
  | cons first rest inner =>
      rw [upsertStamped]
      by_cases same : first.condition.type = c.condition.type
      · rw [if_pos same]
        exact List.find?_cons_of_pos (decide_eq_true rfl)
      · rw [if_neg same, stampedOf, List.find?_cons_of_neg (by simpa using same)]
        exact inner

theorem upsert_found_other (conds : List StampedCondition) (c : StampedCondition) (type : String)
    (apart : c.condition.type ≠ type) : stampedOf (upsertStamped conds c) type = stampedOf conds type := by
  induction conds with
  | nil => exact List.find?_cons_of_neg (by simpa using apart)
  | cons first rest inner =>
      rw [upsertStamped]
      by_cases same : first.condition.type = c.condition.type
      · have skipped : first.condition.type ≠ type := fun here => apart (same.symm.trans here)
        rw [if_pos same, stampedOf, stampedOf, List.find?_cons_of_neg (by simpa using apart),
          List.find?_cons_of_neg (by simpa using skipped)]
      · rw [if_neg same]
        by_cases here : first.condition.type = type
        · rw [stampedOf, stampedOf, List.find?_cons_of_pos (by simpa using here), List.find?_cons_of_pos (by simpa using here)]
        · rw [stampedOf, stampedOf, List.find?_cons_of_neg (by simpa using here), List.find?_cons_of_neg (by simpa using here)]
          exact inner

-- What is there already is put in its own place.
theorem upsert_present (conds : List StampedCondition) (c : StampedCondition)
    (there : stampedOf conds c.condition.type = some c) : upsertStamped conds c = conds := by
  induction conds with
  | nil => exact absurd there.symm (Option.some_ne_none c)
  | cons first rest inner =>
      rw [upsertStamped]
      by_cases same : first.condition.type = c.condition.type
      · rw [stampedOf, List.find?_cons_of_pos (by simpa using same)] at there
        rw [if_pos same, Option.some.inj there]
      · rw [stampedOf, List.find?_cons_of_neg (by simpa using same)] at there
        rw [if_neg same, inner there]

variable (outcome : Bool × String × Message) (generation : Nat) (status : StampedStatus)

theorem stamped_ready (now : Nat) :
    stampedOf (stampedStatus now outcome generation status).conditions "Ready" =
      some (readyCondition now outcome generation) := by
  rw [stampedStatus, upsert_found_other _ _ "Ready" (show "Degraded" ≠ "Ready" by decide)]
  exact upsert_found _ (readyCondition now outcome generation)

theorem stamped_degraded (now : Nat) :
    stampedOf (stampedStatus now outcome generation status).conditions "Degraded" =
      some (degradedCondition now generation) :=
  upsert_found _ (degradedCondition now generation)

/- Written once more, the status is the same when the clock shows the same second:
   the stamp is always taken from the clock. -/
theorem stamped_again_iff (now later : Nat) :
    stampedStatus later outcome generation (stampedStatus now outcome generation status) =
        stampedStatus now outcome generation status ↔
      secondOf later = secondOf now := by
  constructor
  · intro same
    have again := stamped_ready outcome generation (stampedStatus now outcome generation status) later
    rw [same, stamped_ready] at again
    exact (congrArg StampedCondition.lastTransitionTime (Option.some.inj again)).symm
  · intro second
    have readySame : readyCondition later outcome generation = readyCondition now outcome generation := by
      rw [readyCondition, readyCondition, second]
    have degradedSame : degradedCondition later generation = degradedCondition now generation := by
      rw [degradedCondition, degradedCondition, second]
    have first := upsert_present _ (readyCondition now outcome generation)
      (stamped_ready outcome generation status now)
    have both := upsert_present _ (degradedCondition now generation)
      (stamped_degraded outcome generation status now)
    conv_lhs => rw [stampedStatus, readySame, degradedSame, first, both]
    rfl

end Stamps

section Fixpoint
variable (site : Site) (answers : Answers) (net : StampedNetwork)

-- The event filter looks at the namespace alone: any write to a watched object comes
-- back as an event.
def ownEvent (stored written : StampedNetwork) : Prop :=
  stored.network.inNamespace = "agentic-netops-intent" ∧ written.status ≠ stored.status

/- After a reconcile at `now`, one at `later` over the same answers leaves the status
   as it is stored. -/
def StatusFixpoint (now later : Nat) : Prop :=
  ∀ stored, reconcileAt now site answers net = some stored →
    ∀ written, reconcileAt later site answers stored = some written →
      written.status = stored.status ∧ ¬ ownEvent stored written

theorem live_pass (now : Nat) (alive : net.deletionTimestamp.isSome = false) (owned : networkFinalizer ∈ net.finalizers)
    (landed : answers.patch = true) :
    reconcileAt now site answers net =
      some { net with status := stampedStatus now (verdict site answers net.network) net.generation net.status } := by
  have notDeleting : ¬ net.deletionTimestamp.isSome = true := by simp [alive]
  rw [reconcileAt, if_neg notDeleting, if_neg (not_not.mpr owned), setConditionsAt, if_pos landed]

theorem deleting_fixpoint (now later : Nat) (deleting : net.deletionTimestamp.isSome = true) :
    StatusFixpoint site answers net now later := by
  intro stored first written second
  rw [reconcileAt, if_pos deleting] at first
  obtain ⟨left, _, same⟩ := Option.map_eq_some_iff.mp first
  have stillDeleting : stored.deletionTimestamp.isSome = true := by
    rw [← same]
    exact deleting
  rw [reconcileAt, if_pos stillDeleting] at second
  obtain ⟨_, _, again⟩ := Option.map_eq_some_iff.mp second
  have status : written.status = stored.status := by rw [← again]
  exact ⟨status, fun event => event.2 status⟩

theorem status_fixpoint_iff (now later : Nat) (owned : networkFinalizer ∈ net.finalizers) (landed : answers.patch = true) :
    StatusFixpoint site answers net now later ↔ net.deletionTimestamp.isSome = true ∨ secondOf later = secondOf now := by
  cases deleting : net.deletionTimestamp.isSome with
  | true => exact iff_of_true (deleting_fixpoint site answers net now later deleting) (Or.inl rfl)
  | false =>
      have first := live_pass site answers net now deleting owned landed
      have second := live_pass site answers
        { net with status := stampedStatus now (verdict site answers net.network) net.generation net.status }
        later deleting owned landed
      have again := stamped_again_iff (verdict site answers net.network) net.generation net.status now later
      constructor
      · intro fixed
        exact Or.inr (again.mp (fixed _ first _ second).1)
      · intro condition
        cases condition with
        | inl other => exact absurd other Bool.false_ne_true
        | inr sameSecond =>
            intro stored readStored written readWritten
            rw [first] at readStored
            injection readStored with isStored
            subst isStored
            rw [second] at readWritten
            injection readWritten with isWritten
            subst isWritten
            have kept := again.mpr sameSecond
            exact ⟨kept, fun event => event.2 kept⟩

end Fixpoint

section Lab

def labStamped : StampedNetwork :=
  { network := { inNamespace := "agentic-netops-intent", name := "migr-svc1" }
    finalizers := [networkFinalizer] }

def labBareSite : Site := { ports := [] }

def labSilent : Answers :=
  { exchange := fun _ _ => { nodeMap := [], devices := fun _ _ => { ok := true } }
    verify := fun _ => .ok [] }

-- Two reconciles within one second.
theorem lab_status_fixpoint : StatusFixpoint labBareSite labSilent labStamped 5000000000 5400000000 :=
  (status_fixpoint_iff labBareSite labSilent labStamped 5000000000 5400000000 (by decide) rfl).mpr (Or.inr (by decide))

-- One second later the converged Network is stamped again, and its own event comes back.
theorem converged_status_restamped : ¬ StatusFixpoint labBareSite labSilent labStamped 5000000000 6000000000 := by
  intro fixed
  have condition := (status_fixpoint_iff labBareSite labSilent labStamped 5000000000 6000000000 (by decide) rfl).mp fixed
  exact absurd condition (by decide)

end Lab

end AgenticNetops.Sonicprovider
