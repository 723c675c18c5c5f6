import AgenticNetops.Supervisor.Moves

set_option autoImplicit false

/- The bounds of one request: a deadline that every message sets anew, and a count of the
   rounds through the reflection that stays in the checkpointed state of the thread. -/
namespace AgenticNetops.Supervisor

open Runs Schemas

section Exits

inductive Bound where
  | deadline
  | iterations
deriving DecidableEq, Repr

def Bound.why : Bound → String
  | .deadline => "wall-clock deadline exceeded"
  | .iterations => iterationBound

-- The reflection has a question to put, or waits for a clarification.
def GraphState.asks (state : GraphState) : Bool :=
  state.awaitingConfirmation &&
    (state.pendingAction = some .confirm1 || state.pendingAction = some .confirm2 || state.pendingAction = some .clarify)

def GraphState.ended (state : GraphState) : Bool := state.workflowStatus = .failed || state.workflowStatus = .completed

def spent (state : GraphState) (answers : Answers) : Option Bound :=
  if answers.deadlineExceeded then some .deadline else if maxIterations ≤ state.iterationCount then some .iterations else none

-- The bound that ends the turn at a node.
def reached (node : Node) (state : GraphState) (answers : Answers) : Option Bound :=
  match node with
  | .supervisor => (spent state answers).filter fun bound => bound = .deadline || !state.awaitingConfirmation
  | .reflection => if state.asks || state.ended then none else spent state answers
  | _ => none

variable (tier : Tier) (state : GraphState) (answers : Answers)

theorem onward_open (open' : state.ended = false) : onward state answers =
    match spent state answers with
    | some bound => boundedExit state bound.why
    | none => { state := { state with iterationCount := state.iterationCount + 1 }, next := some .supervisor } := by
  have free : ¬ (state.workflowStatus = .failed ∨ state.workflowStatus = .completed) := by
    intro either
    rw [GraphState.ended] at open'
    cases either with
    | inl failed => simp [failed] at open'
    | inr completed => simp [completed] at open'
  rw [onward, if_neg free, spent]
  by_cases late : answers.deadlineExceeded = true
  · rw [if_pos late, if_pos late]
    rfl
  · rw [if_neg late, if_neg late]
    by_cases full : maxIterations ≤ state.iterationCount
    · rw [if_pos full, if_pos full]
      rfl
    · rw [if_neg full, if_neg full]

theorem reflection_onward (silent : state.asks = false) : reflectionNode state answers = onward state answers := by
  rw [reflectionNode]
  by_cases awaiting : state.awaitingConfirmation = true
  · rw [if_pos awaiting]
    cases pending : state.pendingAction with
    | none => rfl
    | some question =>
        rw [GraphState.asks, awaiting, pending] at silent
        cases question with
        | confirmRemove => rfl
        | confirm1 => cases silent
        | confirm2 => cases silent
        | clarify => cases silent
  · rw [if_neg awaiting]

-- A bound that is reached is an explicit outcome, and nothing else of the node runs.
theorem reached_exit (node : Node) (bound : Bound) (hit : reached node state answers = some bound) :
    runNode tier node state answers = boundedExit state bound.why := by
  cases node with
  | supervisor =>
      obtain ⟨isSpent, allowed⟩ := Option.filter_eq_some_iff.mp hit
      rw [spent] at isSpent
      rw [runNode, supervisorNode]
      by_cases late : answers.deadlineExceeded = true
      · rw [if_pos late] at isSpent ⊢
        cases isSpent
        rfl
      · rw [if_neg late] at isSpent ⊢
        by_cases full : maxIterations ≤ state.iterationCount
        · rw [if_pos full] at isSpent
          cases isSpent
          have settled : ¬ state.awaitingConfirmation = true := by simpa using allowed
          rw [if_pos ⟨settled, full⟩]
          rfl
        · rw [if_neg full] at isSpent
          cases isSpent
  | reflection =>
      rw [reached] at hit
      by_cases free : (state.asks || state.ended) = true
      · rw [if_pos free] at hit
        cases hit
      · rw [if_neg free] at hit
        obtain ⟨silent, open'⟩ := Bool.or_eq_false_iff.mp (Bool.eq_false_of_not_eq_true free)
        rw [runNode, reflection_onward state answers silent, onward_open state answers open', hit]
  | mapper => cases hit
  | allocator => cases hit
  | deployer => cases hit
  | generalInfo => cases hit

end Exits

section Counting
variable (tier : Tier) (state : GraphState) (answers : Answers)

-- A node that does not go back to the supervisor leaves the count alone.
def Outcome.Onwards (outcome : Outcome) : Prop :=
  outcome.next ≠ some .supervisor ∧ outcome.state.iterationCount = state.iterationCount

theorem ends_onwards (outcome : Outcome) (ends : outcome.next = none) (kept : outcome.state.iterationCount = state.iterationCount) :
    outcome.Onwards state :=
  ⟨fun again => absurd (ends.symm.trans again) (by decide), kept⟩

theorem goes_onwards (outcome : Outcome) (node : Node) (goes : outcome.next = some node) (other : node ≠ .supervisor)
    (kept : outcome.state.iterationCount = state.iterationCount) : outcome.Onwards state :=
  ⟨fun again => other (Option.some.inj (goes.symm.trans again)), kept⟩

theorem refuse_onwards (reason suggestion : String) : (refuse state reason suggestion).Onwards state :=
  ends_onwards state _ rfl rfl

theorem start_onwards : (startProvisioning state).Onwards state :=
  goes_onwards state _ .mapper rfl (by decide) rfl

theorem classify_onwards (content : String) : (classifyAndRoute tier state content answers).Onwards state := by
  rw [classifyAndRoute]
  cases answers.classifier with
  | failed =>
      cases tier.fallbackClassification content with
      | none => exact ends_onwards state _ rfl rfl
      | some classification =>
          cases classification with
          | provisionable => exact start_onwards state
          | informational => exact goes_onwards state _ .generalInfo rfl (by decide) rfl
          | unsupported => exact ends_onwards state _ rfl rfl
  | reply classification =>
      cases classification with
      | none => exact goes_onwards state _ .generalInfo rfl (by decide) rfl
      | some classification =>
          cases classification with
          | provisionable => exact start_onwards state
          | informational => exact goes_onwards state _ .generalInfo rfl (by decide) rfl
          | unsupported => exact refuse_onwards state _ _

theorem text_route_onwards (content : String) (routed : Outcome) (taken : textRoute tier state content = some routed) :
    routed.Onwards state := by
  cases text_route_cases tier state content routed taken with
  | inl refuses =>
      obtain ⟨reason, suggestion, refuses⟩ := refuses
      rw [refuses]
      exact refuse_onwards state reason suggestion
  | inr asks =>
      obtain ⟨request, asks⟩ := asks
      cases asks with
      | inl status =>
          rw [status]
          exact goes_onwards state _ .deployer rfl (by decide) rfl
      | inr removal =>
          rw [removal]
          exact ends_onwards state _ rfl rfl

theorem answer_onwards (pending : PendingAction) (reply : String) : (answerPending state pending reply).Onwards state := by
  rw [answerPending]
  by_cases confirms : takenAsConfirm reply = true
  · rw [if_pos confirms]
    cases pending with
    | confirm1 => exact goes_onwards state _ .allocator rfl (by decide) rfl
    | confirm2 => exact goes_onwards state _ .deployer rfl (by decide) rfl
    | confirmRemove => exact goes_onwards state _ .deployer rfl (by decide) rfl
    | clarify => exact goes_onwards state _ .deployer rfl (by decide) rfl
  · rw [if_neg confirms]
    by_cases declines : takenAsDecline reply = true
    · rw [if_pos declines]
      cases pending with
      | confirmRemove => exact ends_onwards state _ rfl rfl
      | confirm1 => exact ends_onwards state _ rfl rfl
      | confirm2 => exact ends_onwards state _ rfl rfl
      | clarify => exact ends_onwards state _ rfl rfl
    · rw [if_neg declines]
      exact ends_onwards state _ rfl rfl

theorem request_onwards (content : String) : (requestRoute tier state content answers).Onwards state := by
  have classified := classify_onwards tier state answers content
  rw [requestRoute]
  by_cases clarifies : state.awaitingConfirmation = true ∧ state.pendingAction = some .clarify
  · rw [if_pos clarifies]
    exact classified
  · rw [if_neg clarifies]
    cases tier.directDevice content with
    | some hit => exact refuse_onwards state _ _
    | none =>
        cases tier.unsupportedFeature content with
        | some hit => exact refuse_onwards state _ _
        | none =>
            by_cases both : tier.provisioningRequest content ∧ tier.deploymentStatusQuery content
            · simp only [if_pos both]
              exact start_onwards state
            · simp only [if_neg both]
              exact classified

theorem supervisor_onwards : (supervisorNode tier state answers).Onwards state := by
  rw [supervisorNode]
  by_cases late : answers.deadlineExceeded = true
  · rw [if_pos late]
    exact refuse_onwards state _ _
  · rw [if_neg late]
    by_cases full : ¬ state.awaitingConfirmation = true ∧ maxIterations ≤ state.iterationCount
    · rw [if_pos full]
      exact refuse_onwards state _ _
    · rw [if_neg full]
      cases state.userMessage with
      | none => exact goes_onwards state _ .generalInfo rfl (by decide) rfl
      | some content =>
          dsimp only
          cases routed : textRoute tier state content with
          | some outcome => exact text_route_onwards tier state content outcome routed
          | none =>
              cases openQuestion state with
              | some pending => exact answer_onwards state pending content
              | none => exact request_onwards tier state answers content

theorem failed_or_reflection_onwards : failedOrReflection state ≠ some .supervisor := by
  rw [failedOrReflection]
  by_cases failed : state.workflowStatus = .failed
  · rw [if_pos failed]
    decide
  · rw [if_neg failed]
    decide

theorem mapper_onwards : (mapperNode tier state answers).Onwards state := by
  rw [mapperNode]
  cases state.userMessage with
  | none => exact refuse_onwards state _ _
  | some content =>
      dsimp only
      by_cases unproven : tier.namesSRv6 content ∧ ¬ answers.srv6Available
      · rw [if_pos unproven]
        exact refuse_onwards state _ _
      · rw [if_neg unproven]
        cases answers.mapper with
        | unavailable => exact ⟨failed_or_reflection_onwards state, rfl⟩
        | errorReply => exact ends_onwards state _ rfl rfl
        | payload result =>
            cases result with
            | error error => exact refuse_onwards state _ _
            | ok interp =>
                dsimp only
                rw [mappedInterpretation]
                by_cases unsupported : interp.unsupportedProperties ≠ []
                · rw [if_pos unsupported]
                  exact refuse_onwards state _ _
                · rw [if_neg unsupported]
                  by_cases missing : interp.missingFields ≠ []
                  · rw [if_pos missing]
                    exact goes_onwards state _ .reflection rfl (by decide) rfl
                  · rw [if_neg missing]
                    cases (if interp.transport = some .srv6 then answers.srv6GuardRefusal interp else none) with
                    | some reason => exact refuse_onwards state _ _
                    | none => exact goes_onwards state _ .reflection rfl (by decide) rfl

theorem allocator_onwards : (allocatorNode tier state answers).Onwards state := by
  rw [allocatorNode]
  cases present state.mappedParameters with
  | none => exact refuse_onwards state _ _
  | some mapped =>
      dsimp only
      cases tier.readInterpretation mapped with
      | error error => exact refuse_onwards state _ _
      | ok interp =>
          dsimp only
          cases answers.allocator with
          | unavailable => exact ⟨failed_or_reflection_onwards state, rfl⟩
          | errorReply => exact ends_onwards state _ rfl rfl
          | payload result =>
              cases result with
              | error error => exact ends_onwards state _ rfl rfl
              | ok intent =>
                  dsimp only
                  cases validateAllocatorPayload tier intent interp with
                  | some error => exact ends_onwards state _ rfl rfl
                  | none => exact goes_onwards state _ .reflection rfl (by decide) rfl

theorem report_count (correlationID : String) (payload : DeployerPayload) :
    (submissionReport state correlationID payload).iterationCount = state.iterationCount := by
  rw [submissionReport]
  cases payload.failed with
  | some failure => rfl
  | none =>
      cases payload.submitted with
      | none => rfl
      | some resources =>
          cases resources with
          | none => rfl
          | some resources =>
              dsimp only
              by_cases failed : .failed ∈ payload.convergence
              · rw [if_pos failed]
              · rw [if_neg failed]
                by_cases ready : .ready ∈ payload.convergence ∧ .timeout ∉ payload.convergence
                · rw [if_pos ready]
                · rw [if_neg ready]

theorem tools_onwards (action : ToolAction) : (deployerTools tier state action answers).Onwards state := by
  rw [deployerTools]
  dsimp only
  cases answers.deployer with
  | unavailable => exact ends_onwards state _ rfl rfl
  | errorReply => exact ends_onwards state _ rfl rfl
  | payload payload =>
      cases payload with
      | none => exact ends_onwards state _ rfl rfl
      | some payload =>
          dsimp only
          by_cases empty : payload.status.isNone = true ∧ ¬ payload.removed = true
          · rw [if_pos empty]
            exact ends_onwards state _ rfl rfl
          · rw [if_neg empty]
            refine ends_onwards state _ rfl ?_
            cases action with
            | remove => rfl
            | status =>
                cases payload.status with
                | none => rfl
                | some status =>
                    cases status with
                    | none => rfl
                    | some phase =>
                        dsimp only
                        cases phaseStatus phase with
                        | none => rfl
                        | some status => cases status <;> rfl

theorem deployer_onwards : (deployerNode tier state answers).Onwards state := by
  rw [deployerNode]
  cases state.toolAction with
  | some action => exact tools_onwards tier state answers action
  | none =>
      dsimp only
      cases preconditions tier state with
      | error precondition => exact refuse_onwards state _ _
      | ok intent =>
          dsimp only
          cases answers.deployer with
          | unavailable => exact ends_onwards state _ rfl rfl
          | errorReply => exact ends_onwards state _ rfl rfl
          | payload payload =>
              cases payload with
              | none => exact ends_onwards state _ rfl (report_count state _ _)
              | some payload => exact ends_onwards state _ rfl (report_count state _ _)

theorem general_onwards : (generalResponseNode state).Onwards state := by
  refine ends_onwards state _ rfl ?_
  rw [generalResponseNode]
  dsimp only
  by_cases kept : state.workflowStatus ∈ [.failed, .provisioning, .mapped, .allocated, .approved]
  · rw [if_pos kept]
  · rw [if_neg kept]

-- One more round, and only below the bound.
def Outcome.Again (outcome : Outcome) : Prop :=
  outcome.next = some .supervisor ∧ state.iterationCount < maxIterations ∧ outcome.state.iterationCount = state.iterationCount + 1

theorem onward_rounds : (onward state answers).Onwards state ∨ (onward state answers).Again state := by
  rw [onward]
  by_cases ended : state.workflowStatus = .failed ∨ state.workflowStatus = .completed
  · rw [if_pos ended]
    exact Or.inl (ends_onwards state _ rfl rfl)
  · rw [if_neg ended]
    by_cases late : answers.deadlineExceeded = true
    · rw [if_pos late]
      exact Or.inl (refuse_onwards state _ _)
    · rw [if_neg late]
      by_cases full : maxIterations ≤ state.iterationCount
      · rw [if_pos full]
        exact Or.inl (refuse_onwards state _ _)
      · rw [if_neg full]
        exact Or.inr ⟨rfl, Nat.lt_of_not_le full, rfl⟩

theorem reflection_rounds : (reflectionNode state answers).Onwards state ∨ (reflectionNode state answers).Again state := by
  have rounds := onward_rounds state answers
  rw [reflectionNode]
  by_cases awaiting : state.awaitingConfirmation = true
  · rw [if_pos awaiting]
    cases state.pendingAction with
    | none => exact rounds
    | some question =>
        cases question with
        | confirm1 => exact Or.inl (ends_onwards state _ rfl rfl)
        | confirm2 => exact Or.inl (ends_onwards state _ rfl rfl)
        | clarify => exact Or.inl (ends_onwards state _ rfl rfl)
        | confirmRemove => exact rounds
  · rw [if_neg awaiting]
    exact rounds

theorem run_node_rounds (node : Node) :
    (runNode tier node state answers).Onwards state ∨ (runNode tier node state answers).Again state := by
  cases node with
  | supervisor => exact Or.inl (supervisor_onwards tier state answers)
  | mapper => exact Or.inl (mapper_onwards tier state answers)
  | allocator => exact Or.inl (allocator_onwards tier state answers)
  | deployer => exact Or.inl (deployer_onwards tier state answers)
  | reflection => exact reflection_rounds state answers
  | generalInfo => exact Or.inl (general_onwards state)

end Counting

section Requests

/- A thread with the deadline of its last message. `own` and `earlier` are the rounds that
   the turn of that message and the turns before it went; no node reads them. -/
structure Request where
  thread : Thread := {}
  deadline : Option Nat := none
  own : Nat := 0
  earlier : Nat := 0
deriving DecidableEq, Repr

-- What happens, and the time at which it does.
inductive Timed where
  | message (message : Message) (now : Nat)
  | run (answers : Answers) (now : Nat)

def Request.late (request : Request) (now : Nat) : Bool := request.deadline.any fun deadline => deadline < now

def Request.timed (request : Request) (answers : Answers) (now : Nat) : Answers :=
  { answers with deadlineExceeded := request.late now }

variable (tier : Tier) (period : Nat)

def Request.next (request : Request) : Timed → Option Request
  | .message message now =>
      (request.thread.next tier (.message message)).map fun thread =>
        { thread, deadline := some (now + period), own := 0, earlier := request.earlier + request.own }
  | .run answers now =>
      (request.thread.next tier (.run (request.timed answers now))).map fun thread =>
        { request with thread, own := request.own + if thread.node = some .supervisor then 1 else 0 }

def Request.Step (request : Request) (input : Timed) (after : Request) : Prop := request.next tier period input = some after

-- The bound is the request's own: its deadline has passed, or its turn went round as often as is allowed.
def Request.Own (request : Request) (now : Nat) : Bound → Prop
  | .deadline => ∃ deadline, request.deadline = some deadline ∧ deadline < now
  | .iterations => maxIterations ≤ request.own

structure Request.Counted (request : Request) : Prop where
  total : request.thread.state.iterationCount = request.own + request.earlier
  bounded : request.thread.state.iterationCount ≤ maxIterations

theorem step_counted (request : Request) (input : Timed) (after : Request) (counted : request.Counted)
    (step : request.Step tier period input after) : after.Counted := by
  cases input with
  | message message now =>
      obtain ⟨thread, moved, same⟩ := Option.map_eq_some_iff.mp step
      rw [Thread.next] at moved
      cases idle : request.thread.node with
      | some node =>
          rw [idle] at moved
          cases moved
      | none =>
          rw [idle] at moved
          cases moved
          rw [← same]
          refine ⟨?_, counted.bounded⟩
          have total := counted.total
          show request.thread.state.iterationCount = 0 + (request.earlier + request.own)
          omega
  | run answers now =>
      obtain ⟨thread, moved, same⟩ := Option.map_eq_some_iff.mp step
      obtain ⟨node, _, ran⟩ := Option.map_eq_some_iff.mp moved
      rw [← same, ← ran]
      have total := counted.total
      cases run_node_rounds tier request.thread.state (request.timed answers now) node with
      | inl on =>
          refine ⟨?_, ?_⟩
          · dsimp only
            rw [if_neg on.1, on.2]
            exact total
          · dsimp only
            rw [on.2]
            exact counted.bounded
      | inr again =>
          obtain ⟨goes, below, counts⟩ := again
          refine ⟨?_, ?_⟩
          · dsimp only
            rw [if_pos goes, counts]
            omega
          · dsimp only
            rw [counts]
            exact below

theorem run_counted (inputs : List Timed) (final : Request) (run : Run (Request.Step tier period) (fun _ _ => True) {} inputs final) :
    final.Counted :=
  run_invariant (Request.Step tier period) (fun _ _ => True) Request.Counted
    (fun request input after counted _ step => step_counted tier period request input after counted step) {} inputs final ⟨rfl, Nat.zero_le _⟩ run

-- What the bound that is reached says of the state.
theorem reached_spent (node : Node) (state : GraphState) (answers : Answers) (bound : Bound) (hit : reached node state answers = some bound) :
    (bound = .deadline → answers.deadlineExceeded = true) ∧ (bound = .iterations → maxIterations ≤ state.iterationCount) := by
  have isSpent : spent state answers = some bound := by
    cases node with
    | supervisor => exact (Option.filter_eq_some_iff.mp hit).1
    | reflection =>
        rw [reached] at hit
        by_cases free : (state.asks || state.ended) = true
        · rw [if_pos free] at hit
          cases hit
        · rw [if_neg free] at hit
          exact hit
    | mapper => cases hit
    | allocator => cases hit
    | deployer => cases hit
    | generalInfo => cases hit
  rw [spent] at isSpent
  by_cases late : answers.deadlineExceeded = true
  · rw [if_pos late] at isSpent
    cases isSpent
    exact ⟨fun _ => late, Bound.noConfusion⟩
  · rw [if_neg late] at isSpent
    by_cases full : maxIterations ≤ state.iterationCount
    · rw [if_pos full] at isSpent
      cases isSpent
      exact ⟨Bound.noConfusion, fun _ => full⟩
    · rw [if_neg full] at isSpent
      cases isSpent

/- Whatever the history of a thread, a turn that a bound ends is ended by its own deadline,
   or else by its own rounds exactly when no turn before it went round. -/
theorem bounded_exit_own_iff (inputs : List Timed) (final : Request)
    (run : Run (Request.Step tier period) (fun _ _ => True) {} inputs final) (node : Node) (answers : Answers) (now : Nat) (bound : Bound)
    (hit : reached node final.thread.state (final.timed answers now) = some bound) :
    final.Own now bound ↔ bound = .deadline ∨ final.earlier = 0 := by
  have counted := run_counted tier period inputs final run
  have total := counted.total
  have bounded := counted.bounded
  obtain ⟨late, full⟩ := reached_spent node _ _ bound hit
  cases bound with
  | deadline =>
      have passed : final.late now = true := late rfl
      refine iff_of_true ?_ (Or.inl rfl)
      rw [Request.late] at passed
      cases isSet : final.deadline with
      | none =>
          rw [isSet] at passed
          cases passed
      | some deadline =>
          rw [isSet] at passed
          exact ⟨deadline, isSet, of_decide_eq_true passed⟩
  | iterations =>
      have most := full rfl
      show maxIterations ≤ final.own ↔ _
      refine ⟨fun own => Or.inr (by omega), fun either => ?_⟩
      have none' := either.resolve_left Bound.noConfusion
      omega

-- A request whose mapper does not answer, three rounds long.
def labRound : List Timed :=
  [.run { classifier := .reply (some .provisionable) } 1, .run {} 1, .run {} 1]

def labUnmapped : List Timed :=
  .message { prompt := "extend vlan 100 on leaf01" } 0 :: (labRound ++ labRound ++ labRound)

def labStuck : Option Request := play (Request.next labTier 300) {} labUnmapped

-- The same thread when it gets its next message.
def labLater : Option Request :=
  play (Request.next labTier 300) {} (labUnmapped ++ [.run {} 1, .message { prompt := "extend vlan 200 on leaf02" } 1000])

theorem lab_own_rounds : ∃ final, labStuck = some final ∧
    reached .supervisor final.thread.state (final.timed {} 1) = some .iterations ∧ final.Own 1 .iterations := by
  have stuck : labStuck.any (fun final => reached .supervisor final.thread.state (final.timed {} 1) = some .iterations ∧ final.earlier = 0) = true := by
    decide +kernel
  cases ends : labStuck with
  | none =>
      rw [ends] at stuck
      cases stuck
  | some final =>
      rw [ends] at stuck
      obtain ⟨hit, none'⟩ := of_decide_eq_true stuck
      exact ⟨final, rfl, hit, (bounded_exit_own_iff labTier 300 labUnmapped final (play_run (Request.next labTier 300) {} _ final ends) .supervisor {} 1 .iterations hit).mpr
        (Or.inr none')⟩

theorem earlier_rounds_end_request : ¬ ∀ (inputs : List Timed) (final : Request), Run (Request.Step labTier 300) (fun _ _ => True) {} inputs final →
    ∀ node answers now bound, final.thread.node = some node → reached node final.thread.state (final.timed answers now) = some bound →
      final.Own now bound := by
  intro own
  have later : labLater.any (fun final => final.thread.node = some .supervisor ∧
      reached .supervisor final.thread.state (final.timed {} 1001) = some .iterations ∧ final.own = 0) = true := by
    decide +kernel
  cases ends : labLater with
  | none =>
      rw [ends] at later
      cases later
  | some final =>
      rw [ends] at later
      obtain ⟨here, hit, none'⟩ := of_decide_eq_true later
      have rounds : maxIterations ≤ final.own := own _ final (play_run (Request.next labTier 300) {} _ final ends) .supervisor {} 1001 .iterations here hit
      rw [none'] at rounds
      exact absurd rounds (by decide)

end Requests

section Ending

-- How many nodes may still run before the turn is over or goes another round.
def Node.ahead : Node → Nat
  | .supervisor => 3
  | .mapper => 2
  | .allocator => 2
  | .deployer => 2
  | .reflection => 1
  | .generalInfo => 1

def ahead (next : Option Node) : Nat := next.elim 0 Node.ahead

-- What is left of the thread's rounds, each of three nodes, and of the round under way.
def runsLeft (state : GraphState) (next : Option Node) : Nat := 3 * (maxIterations - state.iterationCount) + ahead next

variable (tier : Tier) (state : GraphState) (answers : Answers)

theorem onward_next : (onward state answers).next = none ∨ (onward state answers).next = some .supervisor := by
  rw [onward]
  by_cases ended : state.workflowStatus = .failed ∨ state.workflowStatus = .completed
  · rw [if_pos ended]
    exact Or.inl rfl
  · rw [if_neg ended]
    by_cases late : answers.deadlineExceeded = true
    · rw [if_pos late]
      exact Or.inl rfl
    · rw [if_neg late]
      by_cases full : maxIterations ≤ state.iterationCount
      · rw [if_pos full]
        exact Or.inl rfl
      · rw [if_neg full]
        exact Or.inr rfl

theorem reflection_next : (reflectionNode state answers).next = none ∨ (reflectionNode state answers).next = some .supervisor := by
  have rounds := onward_next state answers
  rw [reflectionNode]
  by_cases awaiting : state.awaitingConfirmation = true
  · rw [if_pos awaiting]
    cases state.pendingAction with
    | none => exact rounds
    | some question =>
        cases question with
        | confirm1 => exact Or.inl rfl
        | confirm2 => exact Or.inl rfl
        | clarify => exact Or.inl rfl
        | confirmRemove => exact rounds
  · rw [if_neg awaiting]
    exact rounds

-- Within a round the graph only goes forward.
theorem moves_ahead (node : Node) (gate : Gate) (next : Option Node) (events : List Event)
    (moves : Moves tier state answers node gate next events) (before : node ≠ .reflection ∧ node ≠ .generalInfo)
    (forward : next ≠ some .supervisor) : ahead next < node.ahead := by
  have short : next = none ∨ next = some .reflection ∨ next = some .generalInfo → ahead next < node.ahead := by
    intro back
    have one : ahead next ≤ 1 := by
      obtain none' | reflection | general := back
      · rw [none']
        exact Nat.zero_le _
      · rw [reflection]
        exact Nat.le_refl _
      · rw [general]
        exact Nat.le_refl _
    have two : 2 ≤ node.ahead := by
      cases node with
      | reflection => exact absurd rfl before.1
      | generalInfo => exact absurd rfl before.2
      | _ => decide
    omega
  cases moves with
  | keeps _ _ _ quiet back asked elsewhere =>
      obtain none' | reflection | again | general := back
      · exact short (Or.inl none')
      · exact short (Or.inr (Or.inl reflection))
      · exact absurd again forward
      · exact short (Or.inr (Or.inr general))
  | closes _ _ _ quiet back elsewhere =>
      obtain none' | general := back
      · exact short (Or.inl none')
      · exact short (Or.inr (Or.inr general))
  | starts => decide
  | asksStatus request => decide
  | asksRemoval request encoded => decide
  | confirms pending reply said unrouted isOpen taken =>
      by_cases first : pending = .confirm1
      · rw [if_pos first]
        decide
      · rw [if_neg first]
        decide
  | maps mapped pending kind => decide
  | sends mapped held after next events quiet gate back =>
      obtain none' | reflection := back
      · exact short (Or.inl none')
      · exact short (Or.inr (Or.inl reflection))
  | allocates mapped intent held => decide
  | asksInterpretation isOpen => exact short (Or.inl rfl)
  | asksDeployment isOpen => exact short (Or.inl rfl)
  | tools action held request holds after events quiet gate => decide
  | submits free intent held after gate => decide
  | refuses free precondition => decide

theorem run_node_left (node : Node) :
    runsLeft (runNode tier node state answers).state (runNode tier node state answers).next < runsLeft state (some node) := by
  cases run_node_rounds tier state answers node with
  | inl onwards =>
      obtain ⟨forward, kept⟩ := onwards
      have closer : ahead (runNode tier node state answers).next < node.ahead := by
        cases node with
        | reflection =>
            have ends := (reflection_next state answers).resolve_right forward
            rw [show (runNode tier .reflection state answers).next = none from ends]
            decide
        | generalInfo => exact Nat.zero_lt_one
        | supervisor => exact moves_ahead tier state answers _ _ _ _ (run_node_moves tier state answers .supervisor) (by decide) forward
        | mapper => exact moves_ahead tier state answers _ _ _ _ (run_node_moves tier state answers .mapper) (by decide) forward
        | allocator => exact moves_ahead tier state answers _ _ _ _ (run_node_moves tier state answers .allocator) (by decide) forward
        | deployer => exact moves_ahead tier state answers _ _ _ _ (run_node_moves tier state answers .deployer) (by decide) forward
      rw [runsLeft, runsLeft, kept]
      exact Nat.add_lt_add_left closer _
  | inr again =>
      obtain ⟨goes, below, counts⟩ := again
      have some' : 1 ≤ node.ahead := by cases node <;> decide
      rw [runsLeft, runsLeft, counts, goes]
      show 3 * (maxIterations - (state.iterationCount + 1)) + 3 < 3 * (maxIterations - state.iterationCount) + node.ahead
      omega

def Thread.runsLeft (thread : Thread) : Nat := Supervisor.runsLeft thread.state thread.node

def Input.runs : Input → Bool
  | .run _ => true
  | .message _ => false

def Input.talks (input : Input) : Bool := !input.runs

-- A message adds one round to what is left, and a node that runs takes from it.
theorem step_left (thread : Thread) (input : Input) (after : Thread) (step : thread.Step tier input after) :
    after.runsLeft + (if input.runs then 1 else 0) ≤ thread.runsLeft + 3 * (if input.talks then 1 else 0) := by
  rw [Thread.Step, Thread.next.eq_def] at step
  cases input with
  | message message =>
      cases idle : thread.node with
      | some node =>
          rw [idle] at step
          cases step
      | none =>
          rw [idle] at step
          cases step
          rw [Thread.runsLeft, Thread.runsLeft, idle]
          exact Nat.le_refl _
  | run answers =>
      obtain ⟨node, here, ran⟩ := Option.map_eq_some_iff.mp step
      have closer := run_node_left tier thread.state answers node
      rw [← ran, Thread.runsLeft, Thread.runsLeft, here]
      exact closer

theorem run_left (inputs : List Input) (final : Thread) (run : Run (Thread.Step tier) (fun _ _ => True) {} inputs final) :
    final.runsLeft + inputs.countP Input.runs ≤ 3 * maxIterations + 3 * inputs.countP Input.talks := by
  induction run with
  | start => exact Nat.le_refl _
  | snoc labels mid label final earlier allowed last ih =>
      have stepped := step_left tier mid label final last
      rw [List.countP_append, List.countP_append, List.countP_singleton, List.countP_singleton]
      omega

-- The nodes that run on the answers in turn.
def replies (answers : Nat → Answers) (runs : Nat) : List Input := (List.range runs).map fun i => .run (answers i)

theorem replies_succ (answers : Nat → Answers) (runs : Nat) :
    replies answers (runs + 1) = .run (answers 0) :: replies (fun i => answers (i + 1)) runs := by
  rw [replies, List.range_succ_eq_map, List.map_cons, List.map_map]
  rfl

theorem turn_ends (thread : Thread) (answers : Nat → Answers) : ∃ runs ≤ thread.runsLeft, ∃ ended,
    play (Thread.next tier) thread (replies answers runs) = some ended ∧ ended.node = none := by
  induction size : thread.runsLeft using Nat.strongRecOn generalizing thread answers with
  | ind bound ih =>
      cases here : thread.node with
      | none => exact ⟨0, Nat.zero_le _, thread, rfl, here⟩
      | some node =>
          let outcome := runNode tier node thread.state (answers 0)
          let after : Thread := { state := outcome.state, node := outcome.next, log := thread.log ++ outcome.events }
          have step : thread.next tier (.run (answers 0)) = some after := by
            rw [Thread.next, here]
            rfl
          have closer : after.runsLeft < thread.runsLeft := by
            rw [Thread.runsLeft, Thread.runsLeft, here]
            exact run_node_left tier thread.state (answers 0) node
          obtain ⟨runs, few, ended, played, rests⟩ := ih after.runsLeft (size ▸ closer) after (fun i => answers (i + 1)) rfl
          refine ⟨runs + 1, by omega, ended, ?_, rests⟩
          rw [replies_succ, play, List.foldlM_cons, step]
          exact played

/- Over the whole life of a thread its nodes run at most three times for each message and
   nine times more; and from wherever it stands, whatever the workers answer, the turn
   under way is over after twelve runs at most. -/
theorem turns_bounded (inputs : List Input) (thread : Thread)
    (run : Run (Thread.Step tier) (fun _ _ => True) {} inputs thread) :
    inputs.countP Input.runs ≤ 3 * inputs.countP Input.talks + 9 ∧
      ∀ answers, ∃ runs ≤ 12, ∃ ended, play (Thread.next tier) thread (replies answers runs) = some ended ∧ ended.node = none := by
  have bounded := run_left tier inputs thread run
  have most : maxIterations = 3 := rfl
  refine ⟨by omega, ?_⟩
  intro answers
  have few : thread.runsLeft ≤ 12 := by
    have three : ahead thread.node ≤ 3 := by
      cases thread.node with
      | none => decide
      | some node => cases node <;> decide
    rw [Thread.runsLeft, runsLeft]
    omega
  obtain ⟨runs, fewer, ends⟩ := turn_ends tier thread answers
  exact ⟨runs, by omega, ends⟩

theorem lab_turns_bounded :
    ∃ thread, play (Thread.next labTier) {} labMapped = some thread ∧ labMapped.countP Input.runs ≤ 3 * labMapped.countP Input.talks + 9 := by
  have mapped : (play (Thread.next labTier) {} labMapped).isSome = true := by decide +kernel
  obtain ⟨thread, ends⟩ := Option.isSome_iff_exists.mp mapped
  exact ⟨thread, ends, (turns_bounded labTier labMapped thread (play_run (Thread.next labTier) {} _ thread ends)).1⟩

end Ending

end AgenticNetops.Supervisor
