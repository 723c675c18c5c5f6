import AgenticNetops.Lib.Polling
import AgenticNetops.Lib.PyText
import AgenticNetops.Deployer.Objects
import AgenticNetops.Sonicprovider.NetworkController
import AgenticNetops.Srv6service.Gates

set_option autoImplicit false

/- deployer/watch.py: the convergence watch over the submitted objects, each read as the
   JSON the API returns, and what its outcomes say of the objects. -/
namespace AgenticNetops.Deployer

open GoText PyText JsonValue Polling

section Values

-- bool(value)
def truthy : Json → Bool
  | .null => false
  | .bool value => value
  | .num value => value ≠ 0
  | .str value => value ≠ ""
  | .arr items => items ≠ []
  | .obj fields => fields ≠ []

-- str(value), of a list or a dict only as far as its bracket.
def pyStr : Json → String
  | .null => "None"
  | .bool true => "True"
  | .bool false => "False"
  | .num value => toString value
  | .str value => value
  | .arr _ => "["
  | .obj _ => "\x7b"

-- str(first or second or … or default)
def strOr (values : List Json) (default : String) : String := ((values.find? truthy).map pyStr).getD default

def dictOf (value : Json) : Json := if value.isObject then value else .obj []

end Values

section Observation

-- The conditions under an object's status, without the items that are no dicts.
def conditionsOf (object : Json) : List Json := ((dictOf (object.field "status")).field "conditions").items.filter Json.isObject

def typeOf (condition : Json) : String := strOr [condition.field "type"] ""

def statusOf (condition : Json) : String := lower (strOr [condition.field "status"] "")

def phaseText (object : Json) : String := strOr [(dictOf (object.field "status")).field "phase"] ""

def readyConditionType : String := "Ready"

def terminalFailureConditions : List String := ["Failed", "Error"]

def terminalFailurePhases : List String := ["Failed", "Error", "Rejected"]

def quote (condition : Json) (default : String) : String := strOr [condition.field "message", condition.field "reason"] default

/- The loop over the conditions. The first Ready=True or failure condition decides; the last
   Ready=False is kept for the end. -/
def observeConditions (object : Json) : List Json → Option String → Option Bool × Option String
  | [], some detail => (some false, some detail)
  | [], none => if phaseText object ∈ terminalFailurePhases then (some false, some ("phase " ++ phaseText object)) else (none, none)
  | condition :: rest, readyFalseDetail =>
      if typeOf condition = readyConditionType then
        if statusOf condition = "true" then
          (some true, if quote condition "" = "" then none else some (quote condition ""))
        else if statusOf condition = "false" then
          observeConditions object rest (some (quote condition "Ready condition is False"))
        else observeConditions object rest readyFalseDetail
      else if typeOf condition ∈ terminalFailureConditions ∧ statusOf condition = "true" then
        (some false, some (quote condition (typeOf condition ++ " condition is True")))
      else observeConditions object rest readyFalseDetail

-- `_observe`
def observe (object : Json) : Option Bool × Option String := observeConditions object (conditionsOf object) none

-- What a condition says that decides at once.
def decisive (condition : Json) : Option Bool :=
  if typeOf condition = readyConditionType ∧ statusOf condition = "true" then some true
  else if typeOf condition ∈ terminalFailureConditions ∧ statusOf condition = "true" then some false
  else none

-- The first of the conditions that decides at once.
def leading (object : Json) : Option Bool := (conditionsOf object).findSome? decisive

-- With nothing that decides at once: some condition is Ready=False, or the phase is one of the failures.
def FailsLate (object : Json) : Prop :=
  (∃ condition ∈ conditionsOf object, typeOf condition = readyConditionType ∧ statusOf condition = "false") ∨
    phaseText object ∈ terminalFailurePhases

instance (object : Json) : Decidable (FailsLate object) :=
  inferInstanceAs (Decidable ((∃ condition ∈ conditionsOf object, _) ∨ phaseText object ∈ terminalFailurePhases))

def verdictOf (object : Json) : Option Bool :=
  match leading object with
  | some ready => some ready
  | none => if FailsLate object then some false else none

theorem observe_conditions (object : Json) (conditions : List Json) (detail : Option String) :
    (observeConditions object conditions detail).1 =
      match conditions.findSome? decisive with
      | some ready => some ready
      | none =>
          if detail.isSome = true ∨ (∃ condition ∈ conditions, typeOf condition = readyConditionType ∧ statusOf condition = "false") ∨
            phaseText object ∈ terminalFailurePhases then some false else none := by
  induction conditions generalizing detail with
  | nil =>
      cases detail with
      | some detail =>
          rw [observeConditions, List.findSome?_nil]
          exact (if_pos (Or.inl rfl)).symm
      | none =>
          have only : (Option.isSome (none : Option String) = true ∨
              (∃ condition ∈ ([] : List Json), typeOf condition = readyConditionType ∧ statusOf condition = "false") ∨
                phaseText object ∈ terminalFailurePhases) ↔ phaseText object ∈ terminalFailurePhases := by
            simp
          rw [observeConditions, List.findSome?_nil]
          dsimp only
          rw [if_congr only rfl rfl]
          by_cases ends : phaseText object ∈ terminalFailurePhases
          · rw [if_pos ends, if_pos ends]
          · rw [if_neg ends, if_neg ends]
  | cons condition rest ih =>
      rw [observeConditions, List.findSome?_cons]
      by_cases ready : typeOf condition = readyConditionType
      · rw [if_pos ready]
        by_cases holds : statusOf condition = "true"
        · have decides : decisive condition = some true := if_pos ⟨ready, holds⟩
          rw [if_pos holds, decides]
        · have waits : decisive condition = none := by
            rw [decisive, if_neg fun both => holds both.2, if_neg fun both => holds both.2]
          rw [if_neg holds, waits]
          by_cases fails : statusOf condition = "false"
          · rw [if_pos fails, ih]
            have now : ∃ condition' ∈ condition :: rest, typeOf condition' = readyConditionType ∧ statusOf condition' = "false" :=
              ⟨condition, List.mem_cons_self, ready, fails⟩
            simp only [Option.isSome_some, true_or, if_true, now, or_true]
          · rw [if_neg fails, ih]
            simp only [List.exists_mem_cons_iff, fails, and_false, false_or]
      · rw [if_neg ready]
        by_cases fatal : typeOf condition ∈ terminalFailureConditions ∧ statusOf condition = "true"
        · have decides : decisive condition = some false := by
            rw [decisive, if_neg fun both => ready both.1, if_pos fatal]
          rw [if_pos fatal, decides]
        · have waits : decisive condition = none := by
            rw [decisive, if_neg fun both => ready both.1, if_neg fatal]
          rw [if_neg fatal, waits, ih]
          simp only [List.exists_mem_cons_iff, ready, false_and, false_or]

theorem observe_verdict (object : Json) : (observe object).1 = verdictOf object := by
  rw [observe, observe_conditions, verdictOf, leading]
  simp only [Option.isSome_none, Bool.false_eq_true, false_or]
  rfl

end Observation

section Watch

inductive WatchOutcome where
  | ready
  | failed
  | timeout
deriving DecidableEq, Repr

-- `ready` is the ref's own field.
structure ConvergenceOutcome where
  ref : Ref
  outcome : WatchOutcome
  ready : Option Bool
  detail : Option String
deriving DecidableEq, Repr

-- What `client.get` gives: it raises, there is no such object, or its JSON.
inductive Reading where
  | unreadable
  | absent
  | object (value : Json)
deriving DecidableEq, Repr

def conclude : Reading → Option (Bool × Option String)
  | .unreadable => none
  | .absent => some (false, some "object disappeared during convergence watch")
  | .object value => (observe value).1.map fun ready => (ready, (observe value).2)

def concluded (ref : Ref) (verdict : Bool × Option String) : ConvergenceOutcome where
  ref := ref
  outcome := if verdict.1 then .ready else .failed
  ready := some verdict.1
  detail := verdict.2

def timedOut (ref : Ref) (timeoutSeconds : String) : ConvergenceOutcome where
  ref := ref
  outcome := .timeout
  ready := none
  detail := some ("convergence timeout after " ++ timeoutSeconds ++ "s")

/- The rounds that are polled before the deadline, each over the refs that are still
   pending; what is pending then has timed out. -/
def watchConvergence (refs : List Ref) (polls : List (Nat → Reading)) (timeoutSeconds : String) : Option (List ConvergenceOutcome) :=
  let (pending, outcomes) := rounds conclude polls (List.range refs.length) []
  refs.zipIdx.mapM fun (ref, index) =>
    match outcomes.lookup index with
    | some verdict => some (concluded ref verdict)
    | none => if index ∈ pending then some (timedOut ref timeoutSeconds) else none

-- The reading that decides a ref's outcome.
def deciding (polls : List (Nat → Reading)) (index : Nat) : Option Reading :=
  (polls.map fun poll => poll index).find? fun reading => (conclude reading).isSome

def outcomeOf (ref : Ref) (decided : Option (Bool × Option String)) (timeoutSeconds : String) : ConvergenceOutcome :=
  match decided with
  | some verdict => concluded ref verdict
  | none => timedOut ref timeoutSeconds

theorem map_all {α β : Type} (f : α → Option β) (g : α → β) (items : List α) (all : ∀ item ∈ items, f item = some (g item)) :
    items.mapM f = some (items.map g) := by
  induction items with
  | nil => rfl
  | cons item rest ih =>
      rw [List.mapM_cons, all item List.mem_cons_self, ih fun other member => all other (List.mem_cons_of_mem item member)]
      rfl

-- Every ref has an outcome, from its own readings alone and in the given order.
theorem watch_outcomes (refs : List Ref) (polls : List (Nat → Reading)) (timeoutSeconds : String) :
    watchConvergence refs polls timeoutSeconds =
      some (refs.zipIdx.map fun (ref, index) => outcomeOf ref (firstVerdict conclude polls index) timeoutSeconds) := by
  rw [watchConvergence]
  refine map_all _ _ _ fun entry member => ?_
  have inside : entry.2 ∈ List.range refs.length := by
    have below := List.snd_lt_of_mem_zipIdx member
    exact List.mem_range.mpr (by omega)
  have found := rounds_settled conclude polls (List.range refs.length) [] entry.2
  rw [List.lookup_nil, Option.none_or, if_pos inside] at found
  dsimp only
  rw [found]
  cases decided : firstVerdict conclude polls entry.2 with
  | some verdict => rfl
  | none =>
      dsimp only
      rw [if_pos ((rounds_pending conclude polls (List.range refs.length) [] entry.2).mpr ⟨inside, decided⟩)]
      rfl

theorem first_deciding (polls : List (Nat → Reading)) (index : Nat) :
    firstVerdict conclude polls index = (deciding polls index).bind conclude := by
  rw [firstVerdict, deciding]
  induction polls with
  | nil => rfl
  | cons poll rest ih =>
      rw [List.findSome?_cons, List.map_cons, List.find?_cons]
      cases decided : conclude (poll index) with
      | some verdict => exact decided.symm
      | none => exact ih

end Watch

section Meaning

def observedFor (object condition : Json) : Bool :=
  match condition.field "observedGeneration", (metadataOf object).field "generation" with
  | .num observed, .num generation => observed = generation
  | _, _ => false

-- A Ready condition of the object's current generation with this status.
def CurrentReady (object : Json) (status : String) (allowed : Json → Prop) : Prop :=
  ∃ condition ∈ conditionsOf object, typeOf condition = readyConditionType ∧ statusOf condition = status ∧
    observedFor object condition = true ∧ allowed condition

def terminalReasonTexts : List String :=
  ([.invalidSite, .portInUse, .capabilityMissing, .unsupportedVariant, .poolExhausted, .dataPathUnverifiable, .vlanInUse] : List Api.Reason).map
    Api.Reason.text

/- The controllers do not retry: the Network controller always requeues, the SRv6Service
   controller does not behind its terminal refusals. -/
def notRetried (object condition : Json) : Prop :=
  (object.field "kind").text = "SRv6Service" ∧ (condition.field "reason").text ∈ terminalReasonTexts

instance (object condition : Json) : Decidable (notRetried object condition) :=
  inferInstanceAs (Decidable ((object.field "kind").text = "SRv6Service" ∧ (condition.field "reason").text ∈ terminalReasonTexts))

theorem terminal_texts (reason : Api.Reason) : Srv6service.terminalReason reason = true ↔ reason.text ∈ terminalReasonTexts := by
  cases reason <;> decide

theorem network_retried (site : Sonicprovider.Site) (answers : Sonicprovider.Answers) (net : Sonicprovider.NetworkObject) :
    ∃ seconds, (Sonicprovider.converge site answers net).result = .requeueAfter seconds := by
  rw [Sonicprovider.converge]
  cases answers.pins with
  | error refusal => exact ⟨30, rfl⟩
  | ok _ =>
      cases site.plan net.network with
      | error message => exact ⟨30, rfl⟩
      | ok plan =>
          dsimp only
          cases applied : Sonicprovider.applyNodes answers plan plan.sortedKeys with
          | mk calls failure =>
              cases failure with
              | some failure => exact ⟨5, rfl⟩
              | none => exact ⟨Sonicprovider.resyncInterval, rfl⟩

def Ready (object : Json) : Prop := CurrentReady object "true" fun _ => True

def Refused (object : Json) : Prop := CurrentReady object "false" (notRetried object)

-- What an outcome says of the object it was decided by.
def Justified (polls : List (Nat → Reading)) (index : Nat) (outcome : ConvergenceOutcome) : Prop :=
  match outcome.outcome with
  | .ready => ∃ object, deciding polls index = some (.object object) ∧ Ready object
  | .failed => deciding polls index = some .absent ∨ ∃ object, deciding polls index = some (.object object) ∧ Refused object
  | .timeout => deciding polls index = none

/- An object that leads with Ready=True is ready for its current generation; one that is
   decided otherwise is refused for it, and not retried. -/
def Sound (object : Json) : Prop := if leading object = some true then Ready object else Refused object

theorem concludes_object (object : Json) : conclude (.object object) = (verdictOf object).map fun ready => (ready, (observe object).2) := by
  rw [conclude, observe_verdict]

theorem justified_iff (polls : List (Nat → Reading)) (index : Nat) (ref : Ref) (timeoutSeconds : String) :
    Justified polls index (outcomeOf ref (firstVerdict conclude polls index) timeoutSeconds) ↔
      ∀ object, deciding polls index = some (.object object) → Sound object := by
  rw [first_deciding]
  cases decided : deciding polls index with
  | none => exact iff_of_true decided fun object other => by cases other
  | some reading =>
      have concludes : (conclude reading).isSome = true := by
        have found := List.find?_some decided
        exact found
      cases reading with
      | unreadable => cases concludes
      | absent => exact iff_of_true (Or.inl decided) fun object other => by cases other
      | object object =>
          rw [Option.bind_some, concludes_object]
          rw [concludes_object, Option.isSome_map] at concludes
          have only : (∀ other, some (Reading.object object) = some (.object other) → Sound other) ↔ Sound object :=
            ⟨fun all => all object rfl, fun sound other same => by cases same; exact sound⟩
          have sole (holds : Json → Prop) : (∃ other, deciding polls index = some (.object other) ∧ holds other) ↔ holds object := by
            rw [decided]
            exact ⟨fun some' => by obtain ⟨other, same, held⟩ := some'; cases same; exact held, fun held => ⟨object, rfl, held⟩⟩
          rw [only, Sound]
          cases said : verdictOf object with
          | none =>
              rw [said] at concludes
              cases concludes
          | some ready =>
              cases ready with
              | true =>
                  have leads : leading object = some true := by
                    rw [verdictOf] at said
                    cases led : leading object with
                    | some ready =>
                        rw [led] at said
                        exact said
                    | none =>
                        rw [led] at said
                        dsimp only at said
                        by_cases late : FailsLate object
                        · rw [if_pos late] at said
                          cases said
                        · rw [if_neg late] at said
                          cases said
                  rw [if_pos leads]
                  exact sole Ready
              | false =>
                  have trails : leading object ≠ some true := by
                    intro led
                    rw [verdictOf, led] at said
                    cases said
                  rw [if_neg trails]
                  have present : deciding polls index ≠ some .absent := by
                    rw [decided]
                    exact fun same => by cases same
                  exact (or_iff_right present).trans (sole Refused)

/- The watch returns one outcome for each ref in the given order; the outcomes are justified
   by the objects exactly when each ref's deciding object is sound. -/
theorem outcomes_current_iff (refs : List Ref) (polls : List (Nat → Reading)) (timeoutSeconds : String) :
    (∃ outcomes, watchConvergence refs polls timeoutSeconds = some outcomes ∧ outcomes.map (·.ref) = refs ∧
      ∀ (index : Nat) (outcome : ConvergenceOutcome), outcomes[index]? = some outcome → Justified polls index outcome) ↔
      ∀ index < refs.length, ∀ object, deciding polls index = some (.object object) → Sound object := by
  have kept : (refs.zipIdx.map fun (ref, index) => outcomeOf ref (firstVerdict conclude polls index) timeoutSeconds).map (·.ref) = refs := by
    have same (entry : Ref × Nat) : (outcomeOf entry.1 (firstVerdict conclude polls entry.2) timeoutSeconds).ref = entry.1 := by
      cases firstVerdict conclude polls entry.2 with
      | some verdict => rfl
      | none => rfl
    rw [List.map_map]
    exact (List.map_congr_left fun entry _ => same entry).trans (List.zipIdx_map_fst 0 refs)
  have at_ (index : Nat) : (refs.zipIdx.map fun (ref, index) => outcomeOf ref (firstVerdict conclude polls index) timeoutSeconds)[index]? =
      refs[index]?.map fun ref => outcomeOf ref (firstVerdict conclude polls index) timeoutSeconds := by
    rw [List.getElem?_map, List.getElem?_zipIdx, Option.map_map, Nat.zero_add]
    rfl
  constructor
  · intro faithful index below object decided
    obtain ⟨outcomes, watched, _, justified⟩ := faithful
    have same := Option.some.inj ((watch_outcomes refs polls timeoutSeconds).symm.trans watched)
    have here := at_ index
    rw [same, List.getElem?_eq_getElem below] at here
    exact (justified_iff polls index refs[index] timeoutSeconds).mp (justified index _ here) object decided
  · intro sound
    refine ⟨_, watch_outcomes refs polls timeoutSeconds, kept, fun index outcome present => ?_⟩
    rw [at_] at present
    obtain ⟨ref, held, same⟩ := Option.map_eq_some_iff.mp present
    obtain ⟨below, _⟩ := List.getElem?_eq_some_iff.mp held
    rw [← same]
    exact (justified_iff polls index ref timeoutSeconds).mpr (sound index below)

-- A Network whose apply has failed, which its controller tries again five seconds later.
def labRetried : Json :=
  .obj [("kind", .str networkKind), ("metadata", .obj [("name", .str "blue"), ("generation", .num 1)]),
    ("status", .obj [("conditions", .arr [.obj [("type", .str "Ready"), ("status", .str "False"), ("reason", .str "ApplyFailed"),
      ("observedGeneration", .num 1)]])])]

theorem retried_reported_failed : ¬ ∀ (refs : List Ref) (polls : List (Nat → Reading)) (timeoutSeconds : String),
    ∃ outcomes, watchConvergence refs polls timeoutSeconds = some outcomes ∧ outcomes.map (·.ref) = refs ∧
      ∀ (index : Nat) (outcome : ConvergenceOutcome), outcomes[index]? = some outcome → Justified polls index outcome := by
  intro faithful
  obtain ⟨outcomes, watched, _, justified⟩ := faithful [⟨networkKind, "blue"⟩] [fun _ => .object labRetried] "300"
  have failed : watchConvergence [⟨networkKind, "blue"⟩] [fun _ => .object labRetried] "300" =
      some [⟨⟨networkKind, "blue"⟩, .failed, some false, some "ApplyFailed"⟩] := by
    decide +kernel
  cases failed.symm.trans watched
  have sound : deciding [fun _ => .object labRetried] 0 = some .absent ∨
      ∃ object, deciding [fun _ => .object labRetried] 0 = some (.object object) ∧ Refused object := justified 0 _ rfl
  have decided : deciding [fun _ => .object labRetried] 0 = some (.object labRetried) := by
    decide +kernel
  cases sound with
  | inl absent =>
      rw [decided] at absent
      cases absent
  | inr present =>
      obtain ⟨object, same, condition, member, _, _, _, terminal⟩ := present
      rw [decided] at same
      cases same
      exact absurd terminal.1 (by decide)

end Meaning

end AgenticNetops.Deployer
