import AgenticNetops.Supervisor.Bounds

set_option autoImplicit false

/- What is left of a thread when a worker does not answer. The question that the operator
   has confirmed is closed before the worker is called, and nothing opens it again. -/
namespace AgenticNetops.Supervisor

open Runs Schemas

-- A call to the allocator or a submission.
def Event.calls : Event → Bool
  | .sentInterpretation _ _ => true
  | .sentEnvelope _ _ => true
  | _ => false

section Idle

/- No reply to such a thread confirms an interpretation or a deployment, and no node that
   calls a worker with them is next. -/
structure Idle (gate : Gate) (node : Option Node) : Prop where
  unasked : gate.awaiting = true → gate.pending ≠ some .confirm1 ∧ gate.pending ≠ some .confirm2 ∧
    (gate.pending = some .confirmRemove → gate.toolAction ≠ none)
  mapper : node ≠ some .mapper
  allocator : node ≠ some .allocator
  deployer : node = some .deployer → gate.toolAction ≠ none

def Thread.Idle (thread : Thread) : Prop := Supervisor.Idle thread.state.gate thread.node

theorem idle_closed (gate : Gate) (next : Option Node) (closed : gate.awaiting = false)
    (back : next = none ∨ next = some .reflection ∨ next = some .supervisor ∨ next = some .generalInfo) : Idle gate next := by
  have elsewhere : next ≠ some .mapper ∧ next ≠ some .allocator ∧ next ≠ some .deployer := by
    rcases back with same | same | same | same <;> rw [same] <;> decide
  exact ⟨fun awaiting => absurd (closed.symm.trans awaiting) Bool.false_ne_true, elsewhere.1, elsewhere.2.1, fun here => absurd here elsewhere.2.2⟩

theorem idle_kept (gate : Gate) (node next : Option Node) (idle : Idle gate node)
    (back : next = none ∨ next = some .reflection ∨ next = some .supervisor ∨ next = some .generalInfo) : Idle gate next := by
  have elsewhere : next ≠ some .mapper ∧ next ≠ some .allocator ∧ next ≠ some .deployer := by
    rcases back with same | same | same | same <;> rw [same] <;> decide
  exact ⟨idle.unasked, elsewhere.1, elsewhere.2.1, fun here => absurd here elsewhere.2.2⟩

theorem quiet_uncalled (events : List Event) (quiet : Quiet events) : ∀ event ∈ events, event.calls = false := by
  intro event member
  have silent := quiet event member
  cases event with
  | refused reason => rfl
  | declined question reply => rfl
  | _ => cases silent

theorem open_no_clarify (state : GraphState) : openQuestion state ≠ some .clarify := by
  intro isOpen
  obtain ⟨awaiting, same⟩ := open_awaits state _ isOpen
  rw [openQuestion, if_pos awaiting, same] at isOpen
  cases isOpen

variable (tier : Tier)

-- A node of an idle thread starts a new request, or calls nobody and leaves the thread idle.
theorem node_idle (state : GraphState) (node : Node) (answers : Answers) (after : Gate) (next : Option Node) (events : List Event)
    (idle : Idle state.gate (some node)) (moves : Moves tier state answers node after next events) :
    (∃ event ∈ events, event.starts = true) ∨ (Idle after next ∧ ∀ event ∈ events, event.calls = false) := by
  have none_ : ∀ event ∈ ([] : List Event), event.calls = false := fun event member => absurd member List.not_mem_nil
  cases moves with
  | keeps node next events quiet back asked elsewhere =>
      exact Or.inr ⟨idle_kept _ _ next idle back, quiet_uncalled events quiet⟩
  | closes node next events quiet back elsewhere =>
      exact Or.inr ⟨idle_closed _ next rfl (back.imp_right fun info => Or.inr (Or.inr info)), quiet_uncalled events quiet⟩
  | starts => exact Or.inl ⟨.started, List.mem_singleton_self _, rfl⟩
  | asksStatus request =>
      refine Or.inr ⟨⟨fun awaiting => ?_, by decide, by decide, fun _ => Option.some_ne_none _⟩, none_⟩
      have unasked := idle.unasked awaiting
      exact ⟨unasked.1, unasked.2.1, fun _ => Option.some_ne_none _⟩
  | asksRemoval request encoded =>
      have removal : some PendingAction.confirmRemove ≠ some .confirm1 ∧ some PendingAction.confirmRemove ≠ some .confirm2 := by
        decide
      refine Or.inr ⟨⟨fun _ => ⟨removal.1, removal.2, fun _ => Option.some_ne_none _⟩, by decide, by decide, fun _ => Option.some_ne_none _⟩, fun event member => ?_⟩
      rw [List.mem_singleton.mp member]
      rfl
  | confirms pending reply said unrouted isOpen taken =>
      obtain ⟨awaiting, same⟩ := open_awaits state pending isOpen
      have unasked := idle.unasked awaiting
      refine Or.inr ⟨?_, fun event member => ?_⟩
      · cases pending with
        | confirm1 => exact absurd same unasked.1
        | confirm2 => exact absurd same unasked.2.1
        | confirmRemove =>
            exact ⟨fun again => absurd again Bool.false_ne_true, by decide, by decide, fun _ => unasked.2.2 same⟩
        | clarify => exact absurd isOpen (open_no_clarify state)
      · rw [List.mem_singleton.mp member]
        rfl
  | maps mapped pending kind => exact absurd rfl idle.mapper
  | sends mapped held after next events quiet gate back => exact absurd rfl idle.allocator
  | allocates mapped intent held => exact absurd rfl idle.allocator
  | asksInterpretation isOpen =>
      obtain ⟨awaiting, same⟩ := open_awaits state _ isOpen
      exact absurd same (idle.unasked awaiting).1
  | asksDeployment isOpen =>
      obtain ⟨awaiting, same⟩ := open_awaits state _ isOpen
      exact absurd same (idle.unasked awaiting).2.1
  | tools action held request holds after events quiet gate =>
      refine Or.inr ⟨?_, fun event member => ?_⟩
      · cases gate with
        | inl same => exact same ▸ idle_kept _ _ none idle (Or.inl rfl)
        | inr same => exact same ▸ idle_closed _ none rfl (Or.inl rfl)
      · cases List.mem_cons.mp member with
        | inl first => rw [first]; rfl
        | inr rest => exact quiet_uncalled events quiet event rest
  | submits free intent held after gate => exact absurd free (idle.deployer rfl)
  | refuses free precondition => exact absurd free (idle.deployer rfl)

theorem step_idle (thread : Thread) (input : Input) (after : Thread) (idle : thread.Idle) (step : thread.Step tier input after) :
    ∃ events, after.log = thread.log ++ events ∧
      ((∃ event ∈ events, event.starts = true) ∨ (after.Idle ∧ ∀ event ∈ events, event.calls = false)) := by
  cases input with
  | message message =>
      rw [Thread.Step, Thread.next] at step
      cases resting : thread.node with
      | some node =>
          rw [resting] at step
          cases step
      | none =>
          rw [resting] at step
          cases step
          have elsewhere : some Node.supervisor ≠ some .mapper ∧ some Node.supervisor ≠ some .allocator ∧
              some Node.supervisor ≠ some .deployer := by decide
          exact ⟨[], (List.append_nil _).symm, Or.inr ⟨⟨idle.unasked, elsewhere.1, elsewhere.2.1, fun here => absurd here elsewhere.2.2⟩,
            fun event member => absurd member List.not_mem_nil⟩⟩
  | run answers =>
      obtain ⟨node, here, ran⟩ := Option.map_eq_some_iff.mp step
      rw [← ran]
      have idle' : Idle thread.state.gate (some node) := here ▸ idle
      exact ⟨_, rfl, node_idle tier thread.state node answers _ _ _ idle' (run_node_moves tier thread.state answers node)⟩

-- Until a new request starts, an idle thread stays idle, whatever is said and answered.
theorem run_idle (thread : Thread) (inputs : List Input) (final : Thread) (idle : thread.Idle)
    (run : Run (Thread.Step tier) (fun _ _ => True) thread inputs final) :
    ∃ events, final.log = thread.log ++ events ∧
      ((∃ event ∈ events, event.starts = true) ∨ (final.Idle ∧ ∀ event ∈ events, event.calls = false)) := by
  induction run with
  | start => exact ⟨[], (List.append_nil _).symm, Or.inr ⟨idle, fun event member => absurd member List.not_mem_nil⟩⟩
  | snoc inputs mid input final _ _ last ih =>
      obtain ⟨events, log, before⟩ := ih
      cases before with
      | inl started =>
          obtain ⟨event, member, starts⟩ := started
          obtain ⟨more, log'⟩ : ∃ more, final.log = mid.log ++ more := by
            cases input with
            | message message =>
                rw [Thread.Step, Thread.next] at last
                cases resting : mid.node with
                | some node =>
                    rw [resting] at last
                    cases last
                | none =>
                    rw [resting] at last
                    cases last
                    exact ⟨[], (List.append_nil _).symm⟩
            | run answers =>
                obtain ⟨node, _, ran⟩ := Option.map_eq_some_iff.mp last
                rw [← ran]
                exact ⟨_, rfl⟩
          exact ⟨events ++ more, by rw [log', log, List.append_assoc], Or.inl ⟨event, List.mem_append_left more member, starts⟩⟩
      | inr quiet =>
          obtain ⟨more, log', next⟩ := step_idle tier mid input final quiet.1 last
          refine ⟨events ++ more, by rw [log', log, List.append_assoc], ?_⟩
          cases next with
          | inl started =>
              obtain ⟨event, member, starts⟩ := started
              exact Or.inl ⟨event, List.mem_append_right events member, starts⟩
          | inr still =>
              refine Or.inr ⟨still.1, fun event member => ?_⟩
              cases List.mem_append.mp member with
              | inl old => exact quiet.2 event old
              | inr new => exact still.2 event new

end Idle

section Calling
variable (tier : Tier)

-- Where the allocator or a submission is next, no question is open.
def CallsClosed (gate : Gate) (node : Option Node) : Prop :=
  node = some .allocator ∨ (node = some .deployer ∧ gate.toolAction = none) → gate.awaiting = false

theorem calls_elsewhere (gate : Gate) (next : Option Node)
    (back : next = none ∨ next = some .mapper ∨ next = some .reflection ∨ next = some .supervisor ∨ next = some .generalInfo) :
    CallsClosed gate next := by
  intro calling
  have elsewhere : next ≠ some .allocator ∧ next ≠ some .deployer := by
    rcases back with same | same | same | same | same <;> rw [same] <;> decide
  exact absurd calling fun either => either.elim elsewhere.1 fun both => elsewhere.2 both.1

theorem moves_calls_closed (state : GraphState) (node : Node) (answers : Answers) (after : Gate) (next : Option Node) (events : List Event)
    (moves : Moves tier state answers node after next events) : CallsClosed after next := by
  have ends (gate : Gate) : CallsClosed gate none := calls_elsewhere gate none (Or.inl rfl)
  have reflects (gate : Gate) : CallsClosed gate (some .reflection) := calls_elsewhere gate _ (Or.inr (Or.inr (Or.inl rfl)))
  cases moves with
  | keeps node next events quiet back asked elsewhere =>
      exact calls_elsewhere _ next (back.imp_right Or.inr)
  | closes node next events quiet back elsewhere => exact fun _ => rfl
  | starts => exact fun _ => rfl
  | asksStatus request =>
      exact fun calling => calling.elim (fun here => absurd here (by decide)) fun both => absurd both.2 (Option.some_ne_none _)
  | asksRemoval request encoded => exact ends _
  | confirms pending reply said unrouted isOpen taken => exact fun _ => rfl
  | maps mapped pending kind => exact reflects _
  | sends mapped held after next events quiet gate back =>
      cases back with
      | inl same => exact same ▸ ends _
      | inr same => exact same ▸ reflects _
  | allocates mapped intent held => exact reflects _
  | asksInterpretation isOpen => exact ends _
  | asksDeployment isOpen => exact ends _
  | tools action held request holds after events quiet gate => exact ends _
  | submits free intent held after gate => exact ends _
  | refuses free precondition => exact ends _

theorem run_calls_closed (inputs : List Input) (final : Thread) (run : Run (Thread.Step tier) (fun _ _ => True) {} inputs final) :
    CallsClosed final.state.gate final.node := by
  refine run_invariant (Thread.Step tier) (fun _ _ => True) (fun thread => CallsClosed thread.state.gate thread.node) ?_ {} inputs final
    (calls_elsewhere _ _ (Or.inl rfl)) run
  intro thread input after _ _ step
  cases input with
  | message message =>
      rw [Thread.Step, Thread.next] at step
      cases resting : thread.node with
      | some node =>
          rw [resting] at step
          cases step
      | none =>
          rw [resting] at step
          cases step
          exact calls_elsewhere _ _ (Or.inr (Or.inr (Or.inr (Or.inl rfl))))
  | run answers =>
      obtain ⟨node, _, ran⟩ := Option.map_eq_some_iff.mp step
      rw [← ran]
      exact moves_calls_closed tier thread.state node answers _ _ _ (run_node_moves tier thread.state answers node)

end Calling

section Remapping
variable (tier : Tier)

def Admitted (content : String) : Prop := tier.directDevice content = none ∧ tier.unsupportedFeature content = none

-- A thread whose operator's text has started a request that is not mapped yet.
structure Requested (content : String) (state : GraphState) : Prop where
  asked : state.userMessage = some content
  unrouted : textRoute tier state content = none
  settled : state.awaitingConfirmation = false
  received : state.workflowStatus = .receivedRequest

-- A text that takes no text route takes none after the thread has changed, if it asks about no submission then.
theorem unrouted_after (state after : GraphState) (content : String) (unrouted : textRoute tier state content = none)
    (unasked : submissionAsked tier state content = none → submissionAsked tier after content = none) :
    textRoute tier after content = none := by
  rw [textRoute] at unrouted ⊢
  dsimp only at unrouted ⊢
  by_cases several : 2 ≤ (tier.findConstructs content).length
  · rw [if_pos several] at unrouted
    cases unrouted
  · rw [if_neg several] at unrouted ⊢
    cases submitted : submissionAsked tier state content with
    | some submittedBy =>
        rw [submitted] at unrouted
        cases unrouted
    | none =>
        rw [submitted] at unrouted
        rw [unasked submitted]
        dsimp only at unrouted ⊢
        cases asked : statusOf content with
        | some serviceID =>
            rw [asked] at unrouted
            cases unrouted
        | none =>
            rw [asked] at unrouted
            dsimp only at unrouted ⊢
            cases named : removeService content with
            | some serviceID =>
                rw [named] at unrouted
                cases unrouted
            | none =>
                rw [named] at unrouted
                dsimp only at unrouted ⊢
                rw [Option.map_eq_none_iff] at unrouted ⊢
                exact unrouted

theorem start_requested (state : GraphState) (content : String) (said : state.userMessage = some content)
    (unrouted : textRoute tier state content = none) : Requested tier content (startProvisioning state).state := by
  have unsubmitted : submissionAsked tier (startProvisioning state).state content = none :=
    if_neg fun both => absurd both.1 Bool.false_ne_true
  exact ⟨said, unrouted_after tier state _ content unrouted fun _ => unsubmitted, rfl, rfl⟩

theorem counted_requested (state : GraphState) (content : String) (count : Nat) (requested : Requested tier content state) :
    Requested tier content { state with iterationCount := count } :=
  ⟨requested.asked, unrouted_after tier state _ content requested.unrouted fun unasked => unasked, requested.settled, requested.received⟩

theorem answer_elsewhere (state : GraphState) (pending : PendingAction) (reply : String) :
    (answerPending state pending reply).next ≠ some .mapper := by
  have elsewhere : some Node.allocator ≠ some .mapper ∧ some Node.deployer ≠ some .mapper ∧ none ≠ some Node.mapper := by decide
  rw [answerPending]
  by_cases confirms : takenAsConfirm reply = true
  · rw [if_pos confirms]
    cases pending with
    | confirm1 => exact elsewhere.1
    | confirm2 => exact elsewhere.2.1
    | confirmRemove => exact elsewhere.2.1
    | clarify => exact elsewhere.2.1
  · rw [if_neg confirms]
    by_cases declines : takenAsDecline reply = true
    · rw [if_pos declines]
      cases pending with
      | confirm1 => exact elsewhere.2.2
      | confirm2 => exact elsewhere.2.2
      | confirmRemove => exact elsewhere.2.2
      | clarify => exact elsewhere.2.2
    · rw [if_neg declines]
      exact elsewhere.2.2

theorem classify_mapper (state : GraphState) (content : String) (answers : Answers)
    (goes : (classifyAndRoute tier state content answers).next = some .mapper) :
    classifyAndRoute tier state content answers = startProvisioning state := by
  cases classify_cases tier state answers content _ rfl with
  | inl starts => exact starts
  | inr other =>
      cases other with
      | inl refuses =>
          obtain ⟨reason, suggestion, refuses⟩ := refuses
          rw [refuses] at goes
          cases goes
      | inr kept =>
          obtain ⟨_, _, back⟩ := kept
          cases back with
          | inl ends =>
              rw [ends] at goes
              cases goes
          | inr info =>
              rw [info] at goes
              cases goes

-- The supervisor sends only a started request to the mapper.
theorem supervisor_requested (state : GraphState) (answers : Answers) (goes : (supervisorNode tier state answers).next = some .mapper) :
    ∃ content, Requested tier content (supervisorNode tier state answers).state := by
  rw [supervisorNode] at goes ⊢
  by_cases late : answers.deadlineExceeded = true
  · rw [if_pos late] at goes
    cases goes
  · rw [if_neg late] at goes ⊢
    by_cases full : ¬ state.awaitingConfirmation = true ∧ maxIterations ≤ state.iterationCount
    · rw [if_pos full] at goes
      cases goes
    · rw [if_neg full] at goes ⊢
      cases said : state.userMessage with
      | none =>
          rw [said] at goes
          cases goes
      | some content =>
          rw [said] at goes
          dsimp only at goes ⊢
          refine ⟨content, ?_⟩
          cases routed : textRoute tier state content with
          | some outcome =>
              rw [routed] at goes
              dsimp only at goes
              cases text_route_cases tier state content outcome routed with
              | inl refuses =>
                  obtain ⟨reason, suggestion, refuses⟩ := refuses
                  rw [refuses] at goes
                  cases goes
              | inr asks =>
                  obtain ⟨request, asks⟩ := asks
                  cases asks with
                  | inl status =>
                      rw [status] at goes
                      cases goes
                  | inr removal =>
                      rw [removal] at goes
                      cases goes
          | none =>
              rw [routed] at goes
              dsimp only at goes ⊢
              have starts := start_requested tier state content said routed
              cases isOpen : openQuestion state with
              | some pending =>
                  rw [isOpen] at goes
                  exact absurd goes (answer_elsewhere state pending content)
              | none =>
                  rw [isOpen] at goes
                  dsimp only at goes ⊢
                  rw [requestRoute] at goes ⊢
                  by_cases clarifies : state.awaitingConfirmation = true ∧ state.pendingAction = some .clarify
                  · rw [if_pos clarifies] at goes ⊢
                    dsimp only at goes ⊢
                    rw [classify_mapper tier state content answers goes]
                    exact starts
                  · rw [if_neg clarifies] at goes ⊢
                    cases direct : tier.directDevice content with
                    | some hit =>
                        rw [direct] at goes
                        cases goes
                    | none =>
                        rw [direct] at goes
                        dsimp only at goes ⊢
                        cases unsupported : tier.unsupportedFeature content with
                        | some hit =>
                            rw [unsupported] at goes
                            cases goes
                        | none =>
                            rw [unsupported] at goes
                            dsimp only at goes ⊢
                            by_cases both : tier.provisioningRequest content ∧ tier.deploymentStatusQuery content
                            · rw [if_pos both]
                              exact starts
                            · rw [if_neg both] at goes ⊢
                              rw [classify_mapper tier state content answers goes]
                              exact starts

theorem mapper_from_supervisor (state : GraphState) (node : Node) (answers : Answers) (after : Gate) (events : List Event)
    (moves : Moves tier state answers node after (some .mapper) events) : node = .supervisor := by
  generalize goes : some Node.mapper = next at moves
  cases moves with
  | starts => rfl
  | keeps node next events quiet back asked elsewhere => rcases back with same | same | same | same <;> cases goes.trans same
  | closes node next events quiet back elsewhere => rcases back with same | same <;> cases goes.trans same
  | asksStatus request => rfl
  | asksRemoval request encoded => rfl
  | confirms pending reply said unrouted isOpen taken => rfl
  | maps mapped pending kind => cases goes
  | sends mapped held after next events quiet gate back => rcases back with same | same <;> cases goes.trans same
  | allocates mapped intent held => cases goes
  | asksInterpretation isOpen => cases goes
  | asksDeployment isOpen => cases goes
  | tools action held request holds after events quiet gate => cases goes
  | submits free intent held after gate => cases goes
  | refuses free precondition => cases goes

theorem run_requested (inputs : List Input) (final : Thread) (run : Run (Thread.Step tier) (fun _ _ => True) {} inputs final)
    (here : final.node = some .mapper) : ∃ content, Requested tier content final.state := by
  cases run with
  | start => cases here
  | snoc inputs mid input final _ _ last =>
      cases input with
      | message message =>
          rw [Thread.Step, Thread.next] at last
          cases resting : mid.node with
          | some node =>
              rw [resting] at last
              cases last
          | none =>
              rw [resting] at last
              cases last
              cases here
      | run answers =>
          obtain ⟨node, _, ran⟩ := Option.map_eq_some_iff.mp last
          rw [← ran] at here ⊢
          dsimp only at here ⊢
          have moves := run_node_moves tier mid.state answers node
          rw [Outcome.By, here] at moves
          have supervised := mapper_from_supervisor tier mid.state node answers _ _ moves
          rw [supervised] at here ⊢
          exact supervisor_requested tier mid.state answers here

end Remapping

section Turn
variable (tier : Tier)

def Thread.ran (thread : Thread) (node : Node) (answers : Answers) : Thread :=
  let outcome := runNode tier node thread.state answers
  { state := outcome.state, node := outcome.next, log := thread.log ++ outcome.events }

-- The rest of a turn.
def Thread.turn (thread : Thread) (rest : List Answers) : Option Thread := play (Thread.next tier) thread (rest.map Input.run)

theorem turn_step (thread : Thread) (node : Node) (here : thread.node = some node) (answers : Answers) (rest : List Answers) :
    thread.turn tier (answers :: rest) = (thread.ran tier node answers).turn tier rest := by
  have moved : thread.next tier (.run answers) = some (thread.ran tier node answers) := by
    rw [Thread.next, here]
    rfl
  simp [Thread.turn, play, moved]

theorem turn_over (thread : Thread) (over' : thread.node = none) (rest : List Answers) (ended : Thread)
    (turn : thread.turn tier rest = some ended) : rest = [] ∧ ended = thread := by
  cases rest with
  | nil =>
      cases turn
      exact ⟨rfl, rfl⟩
  | cons answers rest =>
      have stuck : thread.next tier (.run answers) = none := by
        rw [Thread.next, over']
        rfl
      simp [Thread.turn, play, stuck] at turn

-- A turn that is over has run its next node.
theorem turn_runs (thread : Thread) (node : Node) (here : thread.node = some node) (rest : List Answers) (ended : Thread)
    (turn : thread.turn tier rest = some ended) (over' : ended.node = none) :
    ∃ answers more, rest = answers :: more ∧ (thread.ran tier node answers).turn tier more = some ended := by
  cases rest with
  | nil =>
      cases turn
      cases here.symm.trans over'
  | cons answers more => exact ⟨answers, more, rfl, (turn_step tier thread node here answers more).symm.trans turn⟩

/- The classifier takes the text for a question. -/
def informs (content : String) (answers : Answers) : Bool :=
  !(tier.provisioningRequest content && tier.deploymentStatusQuery content) &&
    match answers.classifier with
    | .failed => tier.fallbackClassification content = some .informational
    | .reply none => true
    | .reply (some .informational) => true
    | .reply (some _) => false

/- The mapper answers with an interpretation that is put to the operator, or its reply ends the turn. -/
def takes (content : String) (answers : Answers) : Bool :=
  (!tier.namesSRv6 content || answers.srv6Available) &&
    match answers.mapper with
    | .unavailable => false
    | .errorReply => true
    | .payload (.error _) => false
    | .payload (.ok interp) => interp.unsupportedProperties = [] &&
        (interp.missingFields ≠ [] || (if interp.transport = some .srv6 then answers.srv6GuardRefusal interp else none) = none)

/- Of the answers that a turn gets after a mapper call has failed, those of the supervisor and
   of the node behind it decide: reflection, supervisor, and the mapper again. -/
def spared (content : String) : List Answers → Bool
  | _ :: routed :: served :: rest => informs tier content routed || takes tier content served || spared content rest
  | _ => false

-- The node has ended the turn as failed.
def Outcome.Failed (outcome : Outcome) : Prop := outcome.next = none ∧ outcome.state.workflowStatus = .failed

theorem refuse_failed (state : GraphState) (reason suggestion : String) : (refuse state reason suggestion).Failed := ⟨rfl, rfl⟩

theorem reflection_requested (content : String) (state : GraphState) (answers : Answers) (requested : Requested tier content state) :
    (reflectionNode state answers).Failed ∨
      reflectionNode state answers = { state := { state with iterationCount := state.iterationCount + 1 }, next := some .supervisor } := by
  have live : ¬ (state.workflowStatus = .failed ∨ state.workflowStatus = .completed) := by
    rw [requested.received]
    decide
  rw [reflectionNode, if_neg (Bool.eq_false_iff.mp requested.settled), onward, if_neg live]
  by_cases late : answers.deadlineExceeded = true
  · rw [if_pos late]
    exact Or.inl (refuse_failed state _ _)
  · rw [if_neg late]
    by_cases full : maxIterations ≤ state.iterationCount
    · rw [if_pos full]
      exact Or.inl (refuse_failed state _ _)
    · rw [if_neg full]
      exact Or.inr rfl

-- What the classifier makes of a request: it fails, is answered as a question, or starts again.
theorem classify_requested (content : String) (state : GraphState) (answers : Answers)
    (single : ¬ (tier.provisioningRequest content = true ∧ tier.deploymentStatusQuery content = true)) :
    (classifyAndRoute tier state content answers).Failed ∨
      (informs tier content answers = true ∧ ∃ classification,
        classifyAndRoute tier state content answers = { state := { state with classification }, next := some .generalInfo }) ∨
      (informs tier content answers = false ∧ classifyAndRoute tier state content answers = startProvisioning state) := by
  have free : (!(tier.provisioningRequest content && tier.deploymentStatusQuery content)) = true :=
    (Bool.not_eq_true' _).mpr (Bool.eq_false_iff.mpr fun both => single (Bool.and_eq_true_iff.mp both))
  rw [informs, free, Bool.true_and, classifyAndRoute]
  cases answers.classifier with
  | failed =>
      dsimp only
      cases tier.fallbackClassification content with
      | none => exact Or.inl ⟨rfl, rfl⟩
      | some classification =>
          cases classification with
          | provisionable => exact Or.inr (Or.inr ⟨rfl, rfl⟩)
          | informational => exact Or.inr (Or.inl ⟨rfl, _, rfl⟩)
          | unsupported => exact Or.inl ⟨rfl, rfl⟩
  | reply classification =>
      cases classification with
      | none => exact Or.inr (Or.inl ⟨rfl, _, rfl⟩)
      | some classification =>
          cases classification with
          | provisionable => exact Or.inr (Or.inr ⟨rfl, rfl⟩)
          | informational => exact Or.inr (Or.inl ⟨rfl, _, rfl⟩)
          | unsupported => exact Or.inl (refuse_failed state _ _)

theorem supervisor_again (content : String) (state : GraphState) (answers : Answers) (requested : Requested tier content state) :
    (supervisorNode tier state answers).Failed ∨
      (state.iterationCount < maxIterations ∧ informs tier content answers = true ∧ ∃ classification,
        supervisorNode tier state answers = { state := { state with classification }, next := some .generalInfo }) ∨
      (state.iterationCount < maxIterations ∧ informs tier content answers = false ∧
        supervisorNode tier state answers = startProvisioning state) := by
  have settled := Bool.eq_false_iff.mp requested.settled
  have unopened : openQuestion state = none := if_neg settled
  rw [supervisorNode]
  by_cases late : answers.deadlineExceeded = true
  · rw [if_pos late]
    exact Or.inl (refuse_failed state _ _)
  · rw [if_neg late]
    by_cases full : ¬ state.awaitingConfirmation = true ∧ maxIterations ≤ state.iterationCount
    · rw [if_pos full]
      exact Or.inl (refuse_failed state _ _)
    · have below : state.iterationCount < maxIterations := Nat.lt_of_not_le fun most => full ⟨settled, most⟩
      rw [if_neg full, requested.asked]
      dsimp only
      rw [requested.unrouted, unopened]
      dsimp only
      rw [requestRoute, if_neg fun both => settled both.1]
      cases tier.directDevice content with
      | some hit => exact Or.inl (refuse_failed state _ _)
      | none =>
          cases tier.unsupportedFeature content with
          | some hit => exact Or.inl (refuse_failed state _ _)
          | none =>
              dsimp only
              by_cases both : tier.provisioningRequest content = true ∧ tier.deploymentStatusQuery content = true
              · rw [if_pos both]
                refine Or.inr (Or.inr ⟨below, ?_, rfl⟩)
                rw [informs, both.1, both.2]
                rfl
              · rw [if_neg both]
                rcases classify_requested tier content state answers both with failed | ⟨asks, classification, same⟩ | ⟨starts, same⟩
                · exact Or.inl failed
                · exact Or.inr (Or.inl ⟨below, asks, classification, by rw [same, requested.asked]⟩)
                · exact Or.inr (Or.inr ⟨below, starts, same⟩)

-- The mapper's question, or an unfinished turn: neither is a failure.
def Outcome.Kept (outcome : Outcome) (count : Nat) : Prop :=
  outcome.state.workflowStatus ≠ .failed ∧ outcome.state.iterationCount = count ∧
    (outcome.next = none ∨ outcome.next = some .reflection ∧ outcome.state.asks = true)

theorem mapper_again (content : String) (state : GraphState) (answers : Answers) (requested : Requested tier content state) :
    (takes tier content answers = false ∧ (mapperNode tier state answers).Failed) ∨
      (takes tier content answers = false ∧ mapperNode tier state answers = { state, next := some .reflection }) ∨
      (takes tier content answers = true ∧ (mapperNode tier state answers).Kept state.iterationCount) := by
  have live : state.workflowStatus ≠ .failed := by
    rw [requested.received]
    decide
  rw [mapperNode, requested.asked, takes]
  dsimp only
  by_cases unproven : tier.namesSRv6 content = true ∧ ¬ answers.srv6Available = true
  · rw [if_pos unproven]
    refine Or.inl ⟨?_, refuse_failed state _ _⟩
    rw [unproven.1, Bool.eq_false_iff.mpr unproven.2]
    rfl
  · have proven : (!tier.namesSRv6 content || answers.srv6Available) = true := by
      cases named : tier.namesSRv6 content with
      | false => rfl
      | true => simpa [named] using unproven
    rw [if_neg unproven, proven, Bool.true_and]
    cases answers.mapper with
    | unavailable =>
        refine Or.inr (Or.inl ⟨rfl, ?_⟩)
        dsimp only
        rw [failedOrReflection, if_neg live]
    | errorReply => exact Or.inr (Or.inr ⟨rfl, live, rfl, Or.inl rfl⟩)
    | payload result =>
        cases result with
        | error error => exact Or.inl ⟨rfl, refuse_failed state _ _⟩
        | ok interp =>
            dsimp only
            rw [mappedInterpretation]
            by_cases unsupported : interp.unsupportedProperties ≠ []
            · rw [if_pos unsupported]
              refine Or.inl ⟨?_, refuse_failed state _ _⟩
              rw [decide_eq_false unsupported]
              rfl
            · rw [if_neg unsupported, decide_eq_true (not_not.mp unsupported), Bool.true_and]
              have mapped : Status.mapped ≠ .failed := by decide
              by_cases missing : interp.missingFields ≠ []
              · rw [if_pos missing, decide_eq_true missing]
                exact Or.inr (Or.inr ⟨rfl, mapped, rfl, Or.inr ⟨rfl, rfl⟩⟩)
              · rw [if_neg missing, decide_eq_false missing]
                cases (if interp.transport = some .srv6 then answers.srv6GuardRefusal interp else none) with
                | some reason => exact Or.inl ⟨rfl, refuse_failed state _ _⟩
                | none => exact Or.inr (Or.inr ⟨rfl, mapped, rfl, Or.inr ⟨rfl, rfl⟩⟩)

-- The operator's next request goes to the mapper, unless it is refused by its text, its class or the deadline.
def TakesRequests (thread : Thread) : Prop :=
  ∀ (message : Message) (answers : Answers), openQuestion thread.state = none → Admitted tier message.prompt →
    textRoute tier (seeded thread.state message) message.prompt = none → answers.deadlineExceeded = false →
    answers.classifier = .reply (some .provisionable) → (supervisorNode tier (seeded thread.state message) answers).next = some .mapper

theorem below_takes (thread : Thread) (below : thread.state.iterationCount < maxIterations) : TakesRequests tier thread := by
  intro message answers unopened admitted unrouted inTime provisionable
  have starts (state : GraphState) : (classifyAndRoute tier state message.prompt answers).next = some .mapper := by
    rw [classifyAndRoute, provisionable]
    rfl
  have unopened' : openQuestion (seeded thread.state message) = none := unopened
  have free : ¬ (¬ (seeded thread.state message).awaitingConfirmation = true ∧ maxIterations ≤ (seeded thread.state message).iterationCount) :=
    fun both => absurd both.2 (Nat.not_le_of_lt below)
  have said : (seeded thread.state message).userMessage = some message.prompt := rfl
  rw [supervisorNode, if_neg (Bool.eq_false_iff.mp inTime), if_neg free, said]
  dsimp only
  rw [unrouted, unopened']
  dsimp only
  rw [requestRoute]
  by_cases clarifies : (seeded thread.state message).awaitingConfirmation = true ∧ (seeded thread.state message).pendingAction = some .clarify
  · rw [if_pos clarifies]
    exact starts _
  · rw [if_neg clarifies, admitted.1]
    dsimp only
    rw [admitted.2]
    dsimp only
    by_cases both : tier.provisioningRequest message.prompt = true ∧ tier.deploymentStatusQuery message.prompt = true
    · rw [if_pos both]
      rfl
    · rw [if_neg both]
      exact starts _

-- The turn is not failed, and the thread takes the next request.
def Thread.Resumable (thread : Thread) : Prop := thread.state.workflowStatus ≠ .failed ∧ TakesRequests tier thread

theorem failed_ends (thread : Thread) (node : Node) (answers : Answers) (failed : (runNode tier node thread.state answers).Failed)
    (more : List Answers) (ended : Thread) (turn : (thread.ran tier node answers).turn tier more = some ended) :
    more = [] ∧ ¬ ended.Resumable tier := by
  obtain ⟨done, same⟩ := turn_over tier _ failed.1 more ended turn
  exact ⟨done, fun resumable => absurd failed.2 (same ▸ resumable).1⟩

theorem reflection_asks (state : GraphState) (answers : Answers) (asks : state.asks = true) :
    (reflectionNode state answers).state = state ∧ (reflectionNode state answers).next = none := by
  obtain ⟨awaiting, question⟩ := Bool.and_eq_true_iff.mp asks
  rw [reflectionNode, if_pos awaiting]
  cases pending : state.pendingAction with
  | none =>
      rw [pending] at question
      cases question
  | some pending' =>
      rw [pending] at question
      cases pending' with
      | confirmRemove => cases question
      | confirm1 => exact ⟨rfl, rfl⟩
      | confirm2 => exact ⟨rfl, rfl⟩
      | clarify => exact ⟨rfl, rfl⟩

-- The reflection puts an open question and the turn is over.
theorem asking_ends (thread : Thread) (here : thread.node = some .reflection) (asks : thread.state.asks = true) (rest : List Answers)
    (ended : Thread) (turn : thread.turn tier rest = some ended) (over' : ended.node = none) : ended.state = thread.state := by
  obtain ⟨last, more, _, turn⟩ := turn_runs tier thread .reflection here rest ended turn over'
  obtain ⟨held, ends⟩ := reflection_asks thread.state last asks
  obtain ⟨_, same⟩ := turn_over tier (thread.ran tier .reflection last) ends more ended turn
  rw [same]
  exact held

theorem kept_ends (thread : Thread) (node : Node) (answers : Answers) (below : thread.state.iterationCount < maxIterations)
    (kept : (runNode tier node thread.state answers).Kept thread.state.iterationCount) (more : List Answers) (ended : Thread)
    (turn : (thread.ran tier node answers).turn tier more = some ended) (over' : ended.node = none) : ended.Resumable tier := by
  obtain ⟨live, count, goes⟩ := kept
  have held : ended.state = (runNode tier node thread.state answers).state := by
    cases goes with
    | inl ends =>
        obtain ⟨_, same⟩ := turn_over tier (thread.ran tier node answers) ends more ended turn
        rw [same]
        rfl
    | inr reflects => exact asking_ends tier (thread.ran tier node answers) reflects.1 reflects.2 more ended turn over'
  have below' : ended.state.iterationCount < maxIterations := by
    rw [held, count]
    exact below
  refine ⟨?_, below_takes tier ended below'⟩
  rw [held]
  exact live

/- A turn that looks again at an unmapped request: it is spared, it fails, or the mapper
   is called once more in vain and the request is looked at again. -/
theorem round_cases (content : String) (rest : List Answers) (thread ended : Thread) (here : thread.node = some .reflection)
    (requested : Requested tier content thread.state) (turn : thread.turn tier rest = some ended) (over' : ended.node = none) :
    (ended.Resumable tier ↔ spared tier content rest = true) ∨
      ∃ looked routed served more again, rest = looked :: routed :: served :: more ∧ informs tier content routed = false ∧
        takes tier content served = false ∧ Thread.node again = some .reflection ∧ Requested tier content again.state ∧
        again.turn tier more = some ended := by
  obtain ⟨looked, rest, first, onLook⟩ := turn_runs tier thread .reflection here rest ended turn over'
  subst first
  cases reflection_requested tier content thread.state looked requested with
  | inl failed =>
      obtain ⟨done, unresumable⟩ := failed_ends tier thread .reflection looked failed rest ended onLook
      subst done
      exact Or.inl (iff_of_false unresumable Bool.false_ne_true)
  | inr again =>
      have requested' := counted_requested tier thread.state content (thread.state.iterationCount + 1) requested
      have moved : (thread.ran tier .reflection looked).state = { thread.state with iterationCount := thread.state.iterationCount + 1 } ∧
          (thread.ran tier .reflection looked).node = some .supervisor := by
        rw [Thread.ran, runNode, again]
        exact ⟨rfl, rfl⟩
      generalize thread.ran tier .reflection looked = counted at onLook moved
      obtain ⟨routed, rest, second, onRoute⟩ := turn_runs tier counted .supervisor moved.2 rest ended onLook over'
      subst second
      rw [← moved.1] at requested'
      rcases supervisor_again tier content counted.state routed requested' with failed | ⟨below, asks, classification, same⟩ | ⟨below, starts, same⟩
      · obtain ⟨done, unresumable⟩ := failed_ends tier counted .supervisor routed failed rest ended onRoute
        subst done
        exact Or.inl (iff_of_false unresumable Bool.false_ne_true)
      · have informed : (counted.ran tier .supervisor routed).state = { counted.state with classification } ∧
            (counted.ran tier .supervisor routed).node = some .generalInfo := by
          rw [Thread.ran, runNode, same]
          exact ⟨rfl, rfl⟩
        generalize counted.ran tier .supervisor routed = told at onRoute informed
        obtain ⟨served, rest, third, onServe⟩ := turn_runs tier told .generalInfo informed.2 rest ended onRoute over'
        subst third
        have kept : (runNode tier .generalInfo told.state served).Kept told.state.iterationCount := by
          have received : told.state.workflowStatus = .receivedRequest := by
            rw [informed.1]
            exact requested'.received
          have unended : told.state.workflowStatus ∉ [.failed, .provisioning, .mapped, .allocated, .approved] := by
            rw [received]
            decide
          have completed : Status.completed ≠ .failed := by decide
          rw [runNode, generalResponseNode, if_neg unended]
          exact ⟨completed, rfl, Or.inl rfl⟩
        have below' : told.state.iterationCount < maxIterations := by
          rw [informed.1]
          exact below
        refine Or.inl (iff_of_true (kept_ends tier told .generalInfo served below' kept rest ended onServe over') ?_)
        rw [spared, asks]
        rfl
      · have started : (counted.ran tier .supervisor routed).state = (startProvisioning counted.state).state ∧
            (counted.ran tier .supervisor routed).node = some .mapper := by
          rw [Thread.ran, runNode, same]
          exact ⟨rfl, rfl⟩
        have fresh := start_requested tier counted.state content requested'.asked requested'.unrouted
        have below' : (startProvisioning counted.state).state.iterationCount < maxIterations := below
        rw [← started.1] at fresh below'
        generalize counted.ran tier .supervisor routed = unmapped at onRoute started fresh below'
        obtain ⟨served, rest, third, onServe⟩ := turn_runs tier unmapped .mapper started.2 rest ended onRoute over'
        subst third
        rcases mapper_again tier content unmapped.state served fresh with ⟨vain, failed⟩ | ⟨vain, unanswered⟩ | ⟨answered, kept⟩
        · obtain ⟨done, unresumable⟩ := failed_ends tier unmapped .mapper served failed rest ended onServe
          subst done
          refine Or.inl (iff_of_false unresumable ?_)
          rw [spared, starts, vain]
          exact Bool.false_ne_true
        · have back : (unmapped.ran tier .mapper served).state = unmapped.state ∧
              (unmapped.ran tier .mapper served).node = some .reflection := by
            rw [Thread.ran, runNode, unanswered]
            exact ⟨rfl, rfl⟩
          rw [← back.1] at fresh
          exact Or.inr ⟨looked, routed, served, rest, _, rfl, starts, vain, back.2, fresh, onServe⟩
        · refine Or.inl (iff_of_true (kept_ends tier unmapped .mapper served below' kept rest ended onServe over') ?_)
          rw [spared, answered, Bool.or_true]
          rfl

-- A turn that looks again at an unmapped request is resumable exactly when its answers spare it.
theorem turn_spared (content : String) (rest : List Answers) (thread ended : Thread) (here : thread.node = some .reflection)
    (requested : Requested tier content thread.state) (turn : thread.turn tier rest = some ended) (over' : ended.node = none) :
    ended.Resumable tier ↔ spared tier content rest = true := by
  induction size : rest.length using Nat.strongRecOn generalizing rest thread with
  | ind n ih =>
      cases round_cases tier content rest thread ended here requested turn over' with
      | inl decided => exact decided
      | inr more =>
          obtain ⟨looked, routed, served, more, again, same, asks, vain, here', requested', turn'⟩ := more
          have shorter : more.length < n := by
            rw [← size, same]
            simp only [List.length_cons]
            omega
          have inner := ih more.length shorter more again here' requested' turn' rfl
          rw [same, spared, asks, vain]
          exact inner

end Turn

section Outages
variable (tier : Tier)

-- The call of a node to its worker ends with WorkerUnavailableError.
inductive Outage (state : GraphState) (answers : Answers) : Node → Prop
  | mapper (called : ¬ (tier.namesSRv6 (state.userMessage.getD "") = true ∧ ¬ answers.srv6Available = true))
      (unanswered : answers.mapper = .unavailable) : Outage state answers .mapper
  | allocator (mapped : String) (interp : Interpretation) (held : present state.mappedParameters = some mapped)
      (read : tier.readInterpretation mapped = .ok interp) (unanswered : answers.allocator = .unavailable) : Outage state answers .allocator
  | deployer (free : state.toolAction = none) (intent : String) (ready : preconditions tier state = .ok intent)
      (unanswered : answers.deployer = .unavailable) : Outage state answers .deployer

-- A later reply brings a call, before a new request starts.
def CalledAgain (thread : Thread) : Prop :=
  ∃ inputs final events, Run (Thread.Step tier) (fun _ _ => True) thread inputs final ∧ final.log = thread.log ++ events ∧
    (∀ event ∈ events, event.starts = false) ∧ ∃ event ∈ events, event.calls = true

def Resumed (node : Node) (after ended : Thread) : Prop := if node = .mapper then ended.Resumable tier else CalledAgain tier after

theorem idle_uncalled (thread : Thread) (idle : thread.Idle) : ¬ CalledAgain tier thread := by
  intro again
  obtain ⟨inputs, final, events, run, log, unstarted, event, member, calls⟩ := again
  obtain ⟨events', log', either⟩ := run_idle tier thread inputs final idle run
  have same : events' = events := List.append_cancel_left (log'.symm.trans log)
  rw [same] at either
  cases either with
  | inl started =>
      obtain ⟨event', member', starts⟩ := started
      exact absurd starts (Bool.eq_false_iff.mp (unstarted event' member'))
  | inr quiet => exact absurd calls (Bool.eq_false_iff.mp (quiet.2 event member))

-- The confirmed question is closed by the time the worker does not answer.
theorem outage_idle (thread : Thread) (closed : CallsClosed thread.state.gate thread.node) (node : Node) (here : thread.node = some node)
    (answers : Answers) (outage : Outage tier thread.state answers node) (elsewhere : node ≠ .mapper) : (thread.ran tier node answers).Idle := by
  cases outage with
  | mapper called unanswered => exact absurd rfl elsewhere
  | allocator mapped interp held read unanswered =>
      have ran : runNode tier .allocator thread.state answers =
          { state := thread.state, next := failedOrReflection thread.state, events := (runNode tier .allocator thread.state answers).events } := by
        rw [runNode, allocatorNode, held]
        dsimp only
        rw [read]
        dsimp only
        rw [unanswered]
      have back : failedOrReflection thread.state = none ∨ failedOrReflection thread.state = some .reflection := by
        rw [failedOrReflection]
        by_cases failed : thread.state.workflowStatus = .failed
        · exact Or.inl (if_pos failed)
        · exact Or.inr (if_neg failed)
      rw [Thread.ran, ran]
      exact idle_closed thread.state.gate _ (closed (Or.inl here)) (back.imp_right Or.inl)
  | deployer free intent ready unanswered =>
      have ran : runNode tier .deployer thread.state answers =
          { state := thread.state, next := none, events := (runNode tier .deployer thread.state answers).events } := by
        rw [runNode, deployerNode, free]
        dsimp only
        rw [ready]
        dsimp only
        rw [unanswered]
      rw [Thread.ran, ran]
      exact idle_closed thread.state.gate none (closed (Or.inr ⟨here, free⟩)) (Or.inl rfl)

theorem unmapped_outage (content : String) (state : GraphState) (answers : Answers) (requested : Requested tier content state)
    (outage : Outage tier state answers .mapper) : mapperNode tier state answers = { state, next := some .reflection } := by
  cases outage with
  | mapper called unanswered =>
      have live : state.workflowStatus ≠ .failed := by
        rw [requested.received]
        decide
      rw [requested.asked, Option.getD_some] at called
      rw [mapperNode, requested.asked]
      dsimp only
      rw [if_neg called, unanswered]
      dsimp only
      rw [failedOrReflection, if_neg live]

/- Whatever the thread's history: after an outage of the allocator or the deployer no reply
   brings the call again, and after one of the mapper the turn leaves the thread resumable
   exactly when the classifier or the mapper itself spares it within the turn. -/
theorem outage_resumed_iff (inputs : List Input) (thread : Thread) (run : Run (Thread.Step tier) (fun _ _ => True) {} inputs thread)
    (node : Node) (here : thread.node = some node) (answers : Answers) (outage : Outage tier thread.state answers node)
    (rest : List Answers) (ended : Thread) (turn : (thread.ran tier node answers).turn tier rest = some ended) (over' : ended.node = none) :
    Resumed tier node (thread.ran tier node answers) ended ↔
      node = .mapper ∧ spared tier (thread.state.userMessage.getD "") rest = true := by
  rw [Resumed]
  by_cases mapping : node = .mapper
  · subst mapping
    obtain ⟨content, requested⟩ := run_requested tier inputs thread run here
    have back : (thread.ran tier .mapper answers).state = thread.state ∧ (thread.ran tier .mapper answers).node = some .reflection := by
      rw [Thread.ran, runNode, unmapped_outage tier content thread.state answers requested outage]
      exact ⟨rfl, rfl⟩
    have requested' := requested
    rw [← back.1] at requested'
    have decided := turn_spared tier content rest _ ended back.2 requested' turn over'
    rw [if_pos rfl, requested.asked]
    exact decided.trans (iff_and_self.mpr fun _ => rfl)
  · rw [if_neg mapping]
    have closed := run_calls_closed tier inputs thread run
    have idle := outage_idle tier thread closed node here answers outage mapping
    exact iff_of_false (idle_uncalled tier _ idle) fun both => mapping both.1

def labAsked : List Input := [said "extend vlan 100 on leaf01", .run { classifier := .reply (some .provisionable) }]

-- The answers of one round in which the mapper is still away.
def labRepeat : List Answers := [{}, { classifier := .reply (some .provisionable) }, {}]

def labGone : List Answers := labRepeat ++ labRepeat ++ labRepeat.take 2

def labAway : Option Thread := play (Thread.next labTier) {} labAsked

def labBack : List Answers := [{}, { classifier := .reply (some .provisionable) }, { mapper := .payload (.ok labInterpretation) }, {}]

-- The mapper does not answer the first call, and does answer the second one.
theorem lab_mapper_back : ∃ thread ended, labAway = some thread ∧
    (thread.ran labTier .mapper {}).turn labTier labBack = some ended ∧ Resumed labTier .mapper (thread.ran labTier .mapper {}) ended := by
  have away : labAway.any (fun thread => thread.node = some .mapper ∧
      ((thread.ran labTier .mapper {}).turn labTier labBack).any (fun ended => ended.node = none) = true ∧
      spared labTier (thread.state.userMessage.getD "") labBack = true) = true := by
    decide +kernel
  cases started : labAway with
  | none =>
      rw [started] at away
      cases away
  | some thread =>
      rw [started] at away
      obtain ⟨here, ends, served⟩ := of_decide_eq_true away
      cases turn : (thread.ran labTier .mapper {}).turn labTier labBack with
      | none =>
          rw [turn] at ends
          cases ends
      | some ended =>
          rw [turn] at ends
          have run := play_run (Thread.next labTier) {} labAsked thread started
          have outage : Outage labTier thread.state {} .mapper := .mapper (fun both => Bool.false_ne_true both.1) rfl
          exact ⟨thread, ended, rfl, turn, (outage_resumed_iff labTier labAsked thread run .mapper here {} outage labBack ended turn (of_decide_eq_true ends)).mpr
            ⟨rfl, served⟩⟩

-- The mapper stays away for the turn, and the thread's status is FAILED.
theorem outage_not_resumed : ¬ ∀ (inputs : List Input) (thread : Thread), Run (Thread.Step labTier) (fun _ _ => True) {} inputs thread →
    ∀ node answers rest ended, thread.node = some node → Outage labTier thread.state answers node →
      (thread.ran labTier node answers).turn labTier rest = some ended → ended.node = none →
        Resumed labTier node (thread.ran labTier node answers) ended := by
  intro resumed
  have away : labAway.any (fun thread => thread.node = some .mapper ∧
      ((thread.ran labTier .mapper {}).turn labTier labGone).any
        (fun ended => ended.node = none ∧ ended.state.workflowStatus = .failed) = true) = true := by
    decide +kernel
  cases started : labAway with
  | none =>
      rw [started] at away
      cases away
  | some thread =>
      rw [started] at away
      obtain ⟨here, ends⟩ := of_decide_eq_true away
      cases turn : (thread.ran labTier .mapper {}).turn labTier labGone with
      | none =>
          rw [turn] at ends
          cases ends
      | some ended =>
          rw [turn] at ends
          obtain ⟨over', failed⟩ := of_decide_eq_true ends
          have run := play_run (Thread.next labTier) {} labAsked thread started
          have outage : Outage labTier thread.state {} .mapper := .mapper (fun both => Bool.false_ne_true both.1) rfl
          have kept := resumed labAsked thread run .mapper {} labGone ended here outage turn over'
          rw [Resumed, if_pos rfl] at kept
          exact absurd failed kept.1

end Outages

end AgenticNetops.Supervisor
