import AgenticNetops.Supervisor.Thread

set_option autoImplicit false

/- What a run of one node can do to the fields that decide what a reply is taken for and
   what is sent. Every invariant of a thread is derived from this list. -/
namespace AgenticNetops.Supervisor

open GoText Schemas

structure Gate where
  awaiting : Bool
  pending : Option PendingAction
  mapped : Option String
  allocated : Option String
  toolAction : Option ToolAction
  toolRequest : Option String
deriving DecidableEq, Repr

def GraphState.gate (state : GraphState) : Gate where
  awaiting := state.awaitingConfirmation
  pending := state.pendingAction
  mapped := state.mappedParameters
  allocated := state.allocatedResources
  toolAction := state.toolAction
  toolRequest := state.toolRequest

def Gate.closed (gate : Gate) : Gate := { gate with awaiting := false, pending := none }

def Gate.fresh : Gate where
  awaiting := false
  pending := none
  mapped := none
  allocated := none
  toolAction := none
  toolRequest := none

-- A refusal or a declined question: nothing is asked, confirmed or sent.
def Event.quiet : Event → Bool
  | .refused _ => true
  | .declined _ _ => true
  | _ => false

def Quiet (events : List Event) : Prop := ∀ event ∈ events, event.quiet = true

theorem quiet_nil : Quiet [] := fun _ member => nomatch member

theorem quiet_refused (reason : String) : Quiet [.refused reason] := by
  intro event member
  rw [List.mem_singleton.mp member]
  rfl

theorem quiet_declined (question : PendingAction) (reply : String) : Quiet [.declined question reply] := by
  intro event member
  rw [List.mem_singleton.mp member]
  rfl

inductive Moves (tier : Tier) (state : GraphState) (answers : Answers) : Node → Gate → Option Node → List Event → Prop
  | keeps (node : Node) (next : Option Node) (events : List Event) (quiet : Quiet events)
      (back : next = none ∨ next = some .reflection ∨ next = some .supervisor ∨ next = some .generalInfo)
      (asked : node = .reflection → state.awaitingConfirmation = true →
        state.pendingAction ≠ some .confirm1 ∧ state.pendingAction ≠ some .confirm2) (elsewhere : node ≠ .deployer) :
      Moves tier state answers node state.gate next events
  | closes (node : Node) (next : Option Node) (events : List Event) (quiet : Quiet events)
      (back : next = none ∨ next = some .generalInfo) (elsewhere : node ≠ .deployer) :
      Moves tier state answers node state.gate.closed next events
  | starts : Moves tier state answers .supervisor Gate.fresh (some .mapper) [.started]
  | asksStatus (request : String) :
      Moves tier state answers .supervisor { state.gate with toolAction := some .status, toolRequest := some request }
        (some .deployer) []
  | asksRemoval (request : String) (encoded : request ≠ "") :
      Moves tier state answers .supervisor
        { state.gate with
          toolAction := some .remove
          toolRequest := some request
          awaiting := true
          pending := some .confirmRemove } none [.askedRemoval request]
  | confirms (pending : PendingAction) (reply : String) (said : state.userMessage = some reply)
      (unrouted : textRoute tier state reply = none) (isOpen : openQuestion state = some pending)
      (taken : takenAsConfirm reply) :
      Moves tier state answers .supervisor state.gate.closed (some (if pending = .confirm1 then .allocator else .deployer))
        [.confirmed pending reply]
  | maps (mapped : String) (pending : PendingAction) (kind : pending = .clarify ∨ pending = .confirm1) :
      Moves tier state answers .mapper { state.gate with mapped := some mapped, awaiting := true, pending := some pending }
        (some .reflection) []
  | sends (mapped : String) (held : state.mappedParameters = some mapped) (after : Gate) (next : Option Node)
      (events : List Event) (quiet : Quiet events) (gate : after = state.gate ∨ after = state.gate.closed)
      (back : next = none ∨ next = some .reflection) :
      Moves tier state answers .allocator after next
        (.sentInterpretation (correlatedInterpretation tier state mapped)
          (tier.redact (correlatedInterpretation tier state mapped)) :: events)
  | allocates (mapped intent : String) (held : state.mappedParameters = some mapped) :
      Moves tier state answers .allocator
        { state.gate with allocated := some intent, awaiting := true, pending := some .confirm2 } (some .reflection)
        [.sentInterpretation (correlatedInterpretation tier state mapped)
          (tier.redact (correlatedInterpretation tier state mapped)), .allocated intent]
  | asksInterpretation (isOpen : openQuestion state = some .confirm1) :
      Moves tier state answers .reflection state.gate none [.askedInterpretation (state.mappedParameters.getD "")]
  | asksDeployment (isOpen : openQuestion state = some .confirm2) :
      Moves tier state answers .reflection state.gate none [.askedDeployment (state.allocatedResources.getD "")]
  | tools (action : ToolAction) (held : state.toolAction = some action) (request : String)
      (holds : request = (present state.toolRequest).getD "\x7b\x7d") (after : Gate) (events : List Event)
      (quiet : Quiet events) (gate : after = state.gate ∨ after = state.gate.closed) :
      Moves tier state answers .deployer after none (.sentToolRequest request (tier.redact request) :: events)
  | submits (free : state.toolAction = none) (intent : String) (held : state.allocatedResources = some intent)
      (after : Gate) (gate : after = state.gate ∨ after = state.gate.closed) :
      Moves tier state answers .deployer after none
        [.sentEnvelope (submittedEnvelope tier state answers intent)
          (tier.redact (submittedEnvelope tier state answers intent))]
  | refuses (free : state.toolAction = none) (precondition : Precondition) :
      Moves tier state answers .deployer state.gate.closed none [.refused precondition.reason]

variable (tier : Tier) (state : GraphState) (answers : Answers)

def Outcome.By (node : Node) (outcome : Outcome) : Prop :=
  Moves tier state answers node outcome.state.gate outcome.next outcome.events

theorem refuse_moves (node : Node) (elsewhere : node ≠ .deployer) (reason suggestion : String) :
    (refuse state reason suggestion).By tier state answers node :=
  .closes node none _ (quiet_refused reason) (.inl rfl) elsewhere

theorem present_some (text : Option String) (value : String) (held : present text = some value) : text = some value := by
  cases text with
  | none => cases held
  | some text =>
      by_cases empty : text = ""
      · subst empty
        cases held
      · simpa [present, empty] using held

section Supervisor

theorem start_moves : (startProvisioning state).By tier state answers .supervisor := .starts

-- A request starts over, is refused, or leaves the gate as it is.
theorem classify_cases (content : String) (routed : Outcome)
    (taken : classifyAndRoute tier state content answers = routed) :
    routed = startProvisioning state ∨ (∃ reason suggestion, routed = refuse state reason suggestion) ∨
      routed.state.gate = state.gate ∧ Quiet routed.events ∧ (routed.next = none ∨ routed.next = some .generalInfo) := by
  subst taken
  cases classified : answers.classifier with
  | failed =>
      simp only [classifyAndRoute, classified]
      cases fallback : tier.fallbackClassification content with
      | none => exact .inr (.inr ⟨rfl, quiet_refused _, .inl rfl⟩)
      | some classification =>
          cases classification with
          | provisionable => exact .inl rfl
          | informational => exact .inr (.inr ⟨rfl, quiet_nil, .inr rfl⟩)
          | unsupported => exact .inr (.inr ⟨rfl, quiet_refused _, .inl rfl⟩)
  | reply classification =>
      simp only [classifyAndRoute, classified]
      cases classification with
      | none => exact .inr (.inr ⟨rfl, quiet_nil, .inr rfl⟩)
      | some classification =>
          cases classification with
          | provisionable => exact .inl rfl
          | informational => exact .inr (.inr ⟨rfl, quiet_nil, .inr rfl⟩)
          | unsupported => exact .inr (.inl ⟨_, _, rfl⟩)

theorem classify_moves (content : String) :
    (classifyAndRoute tier state content answers).By tier state answers .supervisor := by
  cases classify_cases tier state answers content _ rfl with
  | inl starts =>
      rw [starts]
      exact start_moves tier state answers
  | inr other =>
      cases other with
      | inl refuses =>
          obtain ⟨reason, suggestion, refuses⟩ := refuses
          rw [refuses]
          exact refuse_moves tier state answers .supervisor (by decide) reason suggestion
      | inr kept =>
          obtain ⟨gate, quiet, back⟩ := kept
          rw [Outcome.By, gate]
          exact .keeps .supervisor _ _ quiet (back.imp_right fun same => .inr (.inr same)) (fun other => nomatch other) (by decide)

-- The answer to a clarification is classified, and the clarification is over.
theorem clarified_moves (content : String) (routed : Outcome)
    (taken : classifyAndRoute tier state content answers = routed) :
    ({ routed with
      state := { routed.state with awaitingConfirmation := false, pendingAction := none } } : Outcome).By tier state answers
        .supervisor := by
  cases classify_cases tier state answers content routed taken with
  | inl starts =>
      rw [starts]
      exact .starts
  | inr other =>
      cases other with
      | inl refuses =>
          obtain ⟨reason, suggestion, refuses⟩ := refuses
          rw [refuses]
          exact refuse_moves tier state answers .supervisor (by decide) reason suggestion
      | inr kept =>
          obtain ⟨gate, quiet, back⟩ := kept
          have closed : ({ routed.state with awaitingConfirmation := false, pendingAction := none } : GraphState).gate =
              state.gate.closed := by
            rw [← gate]
            rfl
          rw [Outcome.By, closed]
          exact .closes .supervisor routed.next routed.events quiet back (by decide)

-- A text route is a refusal, a status call or the question about a removal.
theorem text_route_cases (content : String) (routed : Outcome) (taken : textRoute tier state content = some routed) :
    (∃ reason suggestion, routed = refuse state reason suggestion) ∨
      (∃ request, routed = askStatus tier state request ∨ routed = askRemoval tier state request) := by
  simp only [textRoute] at taken
  by_cases several : 2 ≤ (tier.findConstructs content).length
  · rw [if_pos several] at taken
    cases taken
    exact .inl ⟨_, _, rfl⟩
  · rw [if_neg several] at taken
    cases submitted : submissionAsked tier state content with
    | some submittedBy =>
        rw [submitted] at taken
        cases taken
        exact .inr ⟨_, .inl rfl⟩
    | none =>
        rw [submitted] at taken
        cases asked : statusOf content with
        | some serviceID =>
            rw [asked] at taken
            cases taken
            exact .inr ⟨_, .inl rfl⟩
        | none =>
            rw [asked] at taken
            cases named : removeService content with
            | some serviceID =>
                rw [named] at taken
                cases taken
                exact .inr ⟨_, .inr rfl⟩
            | none =>
                rw [named] at taken
                obtain ⟨correlationID, _, same⟩ := Option.map_eq_some_iff.mp taken
                exact .inr ⟨_, .inr same.symm⟩

theorem text_route_moves (content : String) (routed : Outcome) (taken : textRoute tier state content = some routed) :
    routed.By tier state answers .supervisor := by
  cases text_route_cases tier state content routed taken with
  | inl refuses =>
      obtain ⟨reason, suggestion, refuses⟩ := refuses
      rw [refuses]
      exact refuse_moves tier state answers .supervisor (by decide) reason suggestion
  | inr asks =>
      obtain ⟨request, asks⟩ := asks
      cases asks with
      | inl status =>
          rw [status]
          exact .asksStatus _
      | inr removal =>
          rw [removal]
          exact .asksRemoval _ (tier.encoded request)

theorem confirm_moves (pending : PendingAction) (reply : String) (said : state.userMessage = some reply)
    (unrouted : textRoute tier state reply = none) (isOpen : openQuestion state = some pending)
    (taken : takenAsConfirm reply = true) : (confirmPending state pending reply).By tier state answers .supervisor := by
  have move : Moves tier state answers .supervisor state.gate.closed
      (some (if pending = .confirm1 then .allocator else .deployer)) [.confirmed pending reply] :=
    .confirms pending reply said unrouted isOpen taken
  cases pending with
  | confirm1 => exact move
  | confirm2 => exact move
  | confirmRemove => exact move
  | clarify => exact move

theorem decline_moves (pending : PendingAction) (reply : String) :
    (declinePending state pending reply).By tier state answers .supervisor := by
  have move : Moves tier state answers .supervisor state.gate.closed none [.declined pending reply] :=
    .closes .supervisor none _ (quiet_declined pending reply) (.inl rfl) (by decide)
  cases pending with
  | confirm1 => exact move
  | confirm2 => exact move
  | confirmRemove => exact move
  | clarify => exact move

theorem open_awaits (pending : PendingAction) (isOpen : openQuestion state = some pending) :
    state.awaitingConfirmation = true ∧ state.pendingAction = some pending := by
  unfold openQuestion at isOpen
  split at isOpen
  · rename_i awaiting
    refine ⟨awaiting, ?_⟩
    split at isOpen
    · cases isOpen
      assumption
    · cases isOpen
      assumption
    · cases isOpen
      assumption
    · cases isOpen
  · cases isOpen

theorem answer_moves (pending : PendingAction) (reply : String) (said : state.userMessage = some reply)
    (unrouted : textRoute tier state reply = none) (isOpen : openQuestion state = some pending) :
    (answerPending state pending reply).By tier state answers .supervisor := by
  rw [answerPending]
  by_cases confirmed : takenAsConfirm reply = true
  · rw [if_pos confirmed]
    exact confirm_moves tier state answers pending reply said unrouted isOpen confirmed
  · rw [if_neg confirmed]
    by_cases declined : takenAsDecline reply = true
    · rw [if_pos declined]
      exact decline_moves tier state answers pending reply
    · rw [if_neg declined]
      have awaiting := (open_awaits state pending isOpen).1
      have same : { state with awaitingConfirmation := true } = state := by rw [← awaiting]
      rw [same]
      exact .keeps .supervisor none [] quiet_nil (.inl rfl) (fun other => nomatch other) (by decide)

theorem request_moves (content : String) :
    (requestRoute tier state content answers).By tier state answers .supervisor := by
  rw [requestRoute]
  split
  · exact clarified_moves tier state answers content _ rfl
  · split
    · exact refuse_moves tier state answers .supervisor (by decide) _ _
    · split
      · exact refuse_moves tier state answers .supervisor (by decide) _ _
      · split
        · exact start_moves tier state answers
        · exact classify_moves tier state answers content

theorem supervisor_moves : (supervisorNode tier state answers).By tier state answers .supervisor := by
  rw [supervisorNode]
  by_cases late : answers.deadlineExceeded = true
  · rw [if_pos late]
    exact refuse_moves tier state answers .supervisor (by decide) _ _
  · rw [if_neg late]
    by_cases exhausted : ¬ state.awaitingConfirmation ∧ maxIterations ≤ state.iterationCount
    · rw [if_pos exhausted]
      exact refuse_moves tier state answers .supervisor (by decide) _ _
    · rw [if_neg exhausted]
      cases said : state.userMessage with
      | none => exact .keeps .supervisor _ [] quiet_nil (.inr (.inr (.inr rfl))) (fun other => nomatch other) (by decide)
      | some content =>
          cases unrouted : textRoute tier state content with
          | some routed => simpa only [unrouted] using text_route_moves tier state answers content routed unrouted
          | none =>
              cases isOpen : openQuestion state with
              | some pending => simpa only [unrouted, isOpen] using answer_moves tier state answers pending content said unrouted isOpen
              | none => simpa only [unrouted, isOpen] using request_moves tier state answers content

end Supervisor

theorem failed_or_reflection (next : Option Node) (same : failedOrReflection state = next) :
    next = none ∨ next = some .reflection := by
  subst same
  by_cases failed : state.workflowStatus = .failed
  · exact .inl (if_pos failed)
  · exact .inr (if_neg failed)

theorem mapper_moves : (mapperNode tier state answers).By tier state answers .mapper := by
  have refuses (reason suggestion : String) := refuse_moves tier state answers .mapper (by decide) reason suggestion
  have away (next : Option Node) (back : next = none ∨ next = some .reflection) :
      Moves tier state answers .mapper state.gate next [] :=
    .keeps .mapper next [] quiet_nil (back.imp_right fun same => .inl same) (fun other => nomatch other) (by decide)
  rw [mapperNode]
  cases state.userMessage with
  | none => exact refuses _ _
  | some content =>
      by_cases unavailable : tier.namesSRv6 content ∧ ¬ answers.srv6Available
      · simp only [if_pos unavailable]
        exact refuses _ _
      · simp only [if_neg unavailable]
        cases answers.mapper with
        | unavailable =>
            exact away _ (failed_or_reflection state _ rfl)
        | errorReply => exact away none (.inl rfl)
        | payload reply =>
            cases reply with
            | error error => exact refuses _ _
            | ok interp =>
                simp only [mappedInterpretation]
                split
                · exact refuses _ _
                · split
                  · exact .maps _ .clarify (.inl rfl)
                  · split
                    · exact refuses _ _
                    · exact .maps _ .confirm1 (.inr rfl)

theorem allocator_moves : (allocatorNode tier state answers).By tier state answers .allocator := by
  have refuses (reason suggestion : String) := refuse_moves tier state answers .allocator (by decide) reason suggestion
  rw [allocatorNode]
  cases held : present state.mappedParameters with
  | none => exact refuses _ _
  | some mapped =>
      have held := present_some state.mappedParameters mapped held
      simp only
      cases tier.readInterpretation mapped with
      | error error => exact refuses _ _
      | ok interp =>
          simp only
          cases answers.allocator with
          | unavailable => exact .sends mapped held _ _ [] quiet_nil (.inl rfl) (failed_or_reflection state _ rfl)
          | errorReply => exact .sends mapped held _ _ [] quiet_nil (.inl rfl) (.inl rfl)
          | payload reply =>
              cases reply with
              | error error => exact .sends mapped held _ _ _ (quiet_refused _) (.inr rfl) (.inl rfl)
              | ok intent =>
                  simp only
                  cases validateAllocatorPayload tier intent interp with
                  | some error => exact .sends mapped held _ _ _ (quiet_refused _) (.inr rfl) (.inl rfl)
                  | none => exact .allocates mapped _ held

-- A status report changes nothing but the status.
theorem tools_moves (action : ToolAction) (held : state.toolAction = some action) :
    (deployerTools tier state action answers).By tier state answers .deployer := by
  have kept : state.gate = { state.gate with toolAction := some action } := by rw [← held]; rfl
  rw [deployerTools]
  cases answers.deployer with
  | unavailable => exact .tools action held _ rfl _ [] quiet_nil (.inl rfl)
  | errorReply => exact .tools action held _ rfl _ [] quiet_nil (.inl rfl)
  | payload reply =>
      cases reply with
      | none => exact .tools action held _ rfl _ _ (quiet_refused _) (.inr rfl)
      | some payload =>
          by_cases missing : payload.status.isNone ∧ ¬ payload.removed
          · simp only [if_pos missing]
            exact .tools action held _ rfl _ _ (quiet_refused _) (.inr rfl)
          · simp only [if_neg missing]
            refine .tools action held _ rfl _ [] quiet_nil (.inl ?_)
            rw [kept]
            split
            · split
              · rfl
              · rfl
              · rfl
            · rfl

theorem report_gate (correlationID : String) (payload : DeployerPayload) :
    (submissionReport state correlationID payload).gate = state.gate ∨
      (submissionReport state correlationID payload).gate = state.gate.closed := by
  rw [submissionReport]
  split
  · exact .inr rfl
  · split
    · exact .inl rfl
    · split
      · exact .inr rfl
      · exact .inl rfl
  · exact .inr rfl
  · exact .inr rfl

theorem preconditions_allocated (intent : String) (checked : preconditions tier state = .ok intent) :
    state.allocatedResources = some intent := by
  unfold preconditions at checked
  split at checked
  · cases checked
  · split at checked
    · cases checked
    · cases held : present state.allocatedResources with
      | none =>
          rw [held] at checked
          cases checked
      | some text =>
          rw [held] at checked
          simp only at checked
          cases read : tier.readIntent text with
          | error error =>
              rw [read] at checked
              cases checked
          | ok _ =>
              rw [read] at checked
              cases checked
              exact present_some state.allocatedResources _ held

theorem deployer_moves : (deployerNode tier state answers).By tier state answers .deployer := by
  rw [deployerNode]
  cases held : state.toolAction with
  | some action => exact tools_moves tier state answers action held
  | none =>
      simp only
      cases checked : preconditions tier state with
      | error precondition => exact .refuses held precondition
      | ok intent =>
          have allocated : state.allocatedResources = some intent := preconditions_allocated tier state intent checked
          simp only
          cases answers.deployer with
          | unavailable => exact .submits held intent allocated _ (.inl rfl)
          | errorReply => exact .submits held intent allocated _ (.inl rfl)
          | payload reply =>
              cases reply with
              | none => exact .submits held intent allocated _ (report_gate state _ _)
              | some payload => exact .submits held intent allocated _ (report_gate state _ _)

-- With no question of its own to put, the reflection ends the turn or loops.
theorem onward_moves
    (asked : state.awaitingConfirmation = true → state.pendingAction ≠ some .confirm1 ∧ state.pendingAction ≠ some .confirm2) :
    (onward state answers).By tier state answers .reflection := by
  have away (next : Option Node) (back : next = none ∨ next = some .supervisor) :
      Moves tier state answers .reflection state.gate next [] :=
    .keeps .reflection next [] quiet_nil (back.imp_right fun same => .inr (.inl same)) (fun _ => asked) (by decide)
  rw [onward]
  split
  · exact away none (.inl rfl)
  · split
    · exact refuse_moves tier state answers .reflection (by decide) _ _
    · split
      · exact refuse_moves tier state answers .reflection (by decide) _ _
      · exact away (some .supervisor) (.inr rfl)

theorem reflection_moves : (reflectionNode state answers).By tier state answers .reflection := by
  rw [reflectionNode]
  by_cases awaiting : state.awaitingConfirmation = true
  · rw [if_pos awaiting]
    cases pending : state.pendingAction with
    | none => exact onward_moves tier state answers (fun _ => by simp [pending])
    | some question =>
        cases question with
        | confirm1 => exact .asksInterpretation (by simp [openQuestion, awaiting, pending])
        | confirm2 => exact .asksDeployment (by simp [openQuestion, awaiting, pending])
        | confirmRemove => exact onward_moves tier state answers (fun _ => by simp [pending])
        | clarify => exact .keeps .reflection none [] quiet_nil (.inl rfl) (fun _ _ => by simp [pending]) (by decide)
  · rw [if_neg awaiting]
    exact onward_moves tier state answers (fun same => absurd same awaiting)

theorem general_response_moves : (generalResponseNode state).By tier state answers .generalInfo := by
  rw [generalResponseNode]
  have keeps : Moves tier state answers .generalInfo state.gate none [] :=
    .keeps .generalInfo none [] quiet_nil (.inl rfl) (fun other => nomatch other) (by decide)
  rw [Outcome.By]
  split
  · exact keeps
  · exact keeps

theorem run_node_moves (node : Node) : (runNode tier node state answers).By tier state answers node := by
  cases node with
  | supervisor => exact supervisor_moves tier state answers
  | mapper => exact mapper_moves tier state answers
  | allocator => exact allocator_moves tier state answers
  | deployer => exact deployer_moves tier state answers
  | reflection => exact reflection_moves tier state answers
  | generalInfo => exact general_response_moves tier state answers

end AgenticNetops.Supervisor
