import AgenticNetops.Lib.EventLog
import AgenticNetops.Lib.Runs
import AgenticNetops.Supervisor.Moves

set_option autoImplicit false

/- What a confirmation sets off: the deployer's next call, against the question that was
   put last. The tool request is a field of its own that the question does not clear. -/
namespace AgenticNetops.Supervisor

open EventLog Runs Schemas

def Event.deployment : Event → Option String
  | .askedDeployment intent => some intent
  | _ => none

def Event.removal : Event → Option String
  | .askedRemoval request => some request
  | _ => none

-- The intent, or the removal request, of the last such question.
def lastDeployment (log : List Event) : Option String := latest Event.deployment log

def lastRemoval (log : List Event) : Option String := latest Event.removal log

/- The call that follows a confirmation: the envelope of the pending intent or a named
   precondition's refusal, and the request that the removal question was put for. -/
def ActsOn (tier : Tier) (before : List Event) (confirmed call : Event) : Prop :=
  match confirmed with
  | .confirmed .confirm2 _ =>
      (∃ intent correlationID principal, lastDeployment before = some intent ∧
        call = .sentEnvelope (tier.envelope intent correlationID tier.threadID principal)
          (tier.redact (tier.envelope intent correlationID tier.threadID principal))) ∨
      ∃ precondition : Precondition, call = .refused precondition.reason
  | .confirmed .confirmRemove _ =>
      ∃ request, lastRemoval before = some request ∧ call = .sentToolRequest request (tier.redact request)
  | _ => True

def ConfirmationsActOn (tier : Tier) (log : List Event) : Prop := Successive (ActsOn tier) log

/- The run of the supervisor that takes a confirmation finds the tool request of the
   question that is pending: none for a deployment, the removal for a removal. -/
def OwnRequest (tier : Tier) (state : GraphState) : Node → Prop
  | .supervisor =>
      ∀ reply ∈ state.userMessage, textRoute tier state reply = none → takenAsConfirm reply = true →
        (openQuestion state = some .confirm2 → state.toolAction = none) ∧
          (openQuestion state = some .confirmRemove → state.toolAction = some .remove)
  | _ => True

def Uninterrupted (tier : Tier) (thread : Thread) : Input → Prop
  | .message _ => True
  | .run _ => ∀ node ∈ thread.node, OwnRequest tier thread.state node

instance (tier : Tier) (state : GraphState) (node : Node) : Decidable (OwnRequest tier state node) :=
  match node with
  | .supervisor => inferInstanceAs (Decidable (∀ reply ∈ state.userMessage, textRoute tier state reply = none →
      takenAsConfirm reply = true → (openQuestion state = some .confirm2 → state.toolAction = none) ∧
        (openQuestion state = some .confirmRemove → state.toolAction = some .remove)))
  | .mapper => isTrue trivial
  | .allocator => isTrue trivial
  | .deployer => isTrue trivial
  | .reflection => isTrue trivial
  | .generalInfo => isTrue trivial

instance (tier : Tier) (thread : Thread) (input : Input) : Decidable (Uninterrupted tier thread input) :=
  match input with
  | .message _ => isTrue trivial
  | .run _ => inferInstanceAs (Decidable (∀ node ∈ thread.node, OwnRequest tier thread.state node))

def Event.confirms : Event → Bool
  | .confirmed _ _ => true
  | _ => false

-- A confirmation at the end of the log: the deployer is next and holds what it is for.
def Handed (gate : Gate) (node : Option Node) (log : List Event) : Prop :=
  ∀ before question reply, log = before ++ [.confirmed question reply] →
    (question = .confirm2 → node = some .deployer ∧ gate.toolAction = none ∧ gate.allocated = lastDeployment before) ∧
      (question = .confirmRemove → node = some .deployer ∧ gate.toolAction = some .remove)

structure Outstanding (gate : Gate) (node : Option Node) (log : List Event) : Prop where
  removal : gate.toolAction = some .remove →
    ∃ request, request ≠ "" ∧ gate.toolRequest = some request ∧ lastRemoval log = some request
  deployment : gate.awaiting = true → gate.pending = some .confirm2 →
    ∃ intent, gate.allocated = some intent ∧ (node ≠ some .reflection → lastDeployment log = some intent)
  handed : Handed gate node log

section Quiet

theorem quiet_deployment (events : List Event) (quiet : Quiet events) : ∀ event ∈ events, event.deployment = none := by
  intro event member
  have still := quiet event member
  cases event with
  | refused reason => rfl
  | declined question reply => rfl
  | _ => cases still

theorem quiet_removal (events : List Event) (quiet : Quiet events) : ∀ event ∈ events, event.removal = none := by
  intro event member
  have still := quiet event member
  cases event with
  | refused reason => rfl
  | declined question reply => rfl
  | _ => cases still

theorem quiet_confirms (events : List Event) (quiet : Quiet events) : ∀ event ∈ events, event.confirms = false := by
  intro event member
  have still := quiet event member
  cases event with
  | refused reason => rfl
  | declined question reply => rfl
  | _ => cases still

end Quiet

section Handed

-- Behind something that is no confirmation, none is at the end.
theorem handed_append (gate : Gate) (node : Option Node) (log events : List Event) (some_ : events ≠ [])
    (none_ : ∀ event ∈ events, event.confirms = false) : Handed gate node (log ++ events) := by
  intro before question reply same
  have last : (Event.confirmed question reply) ∈ events := by
    have ends := congrArg List.getLast? same
    rw [List.getLast?_append_of_ne_nil log some_, List.getLast?_concat] at ends
    exact List.mem_of_getLast? ends
  cases none_ _ last

-- Nodes other than the deployer are not run behind a confirmation of the two questions.
theorem handed_elsewhere (gate after : Gate) (node : Node) (next : Option Node) (log events : List Event)
    (elsewhere : node ≠ .deployer) (none_ : ∀ event ∈ events, event.confirms = false)
    (handed : Handed gate (some node) log) : Handed after next (log ++ events) := by
  cases events with
  | cons event rest => exact handed_append after next log (event :: rest) (List.cons_ne_nil event rest) none_
  | nil =>
      rw [List.append_nil]
      intro before question reply same
      have due := handed before question reply same
      constructor
      · intro deployment
        exact absurd (Option.some.inj (due.1 deployment).1) elsewhere
      · intro removal
        exact absurd (Option.some.inj (due.2 removal).1) elsewhere

end Handed

section Outstanding

theorem outstanding_kept (gate after : Gate) (node next : Option Node) (log events : List Event)
    (same : after = gate ∨ after = gate.closed) (removals : ∀ event ∈ events, event.removal = none)
    (closed : after = gate → after.awaiting = true → after.pending = some .confirm2 → node ≠ some .reflection)
    (deployments : ∀ event ∈ events, event.deployment = none)
    (handed : Handed after next (log ++ events)) (outstanding : Outstanding gate node log) :
    Outstanding after next (log ++ events) where
  removal tool := by
    have kept : after.toolAction = gate.toolAction ∧ after.toolRequest = gate.toolRequest := by
      cases same with
      | inl same => simp [same]
      | inr same => simp [same, Gate.closed]
    obtain ⟨request, full, held, last⟩ := outstanding.removal (kept.1 ▸ tool)
    exact ⟨request, full, kept.2.trans held, (latest_append_none Event.removal log events removals).trans last⟩
  deployment awaiting pending := by
    cases same with
    | inr same =>
        rw [same] at awaiting
        cases awaiting
    | inl same =>
        have asked := closed same awaiting pending
        rw [same] at awaiting pending ⊢
        obtain ⟨intent, held, last⟩ := outstanding.deployment awaiting pending
        exact ⟨intent, held, fun _ => (latest_append_none Event.deployment log events deployments).trans (last asked)⟩
  handed := handed

theorem confirm_outstanding (tier : Tier) (state : GraphState) (log : List Event) (pending : PendingAction) (reply : String)
    (said : state.userMessage = some reply) (unrouted : textRoute tier state reply = none)
    (isOpen : openQuestion state = some pending) (taken : takenAsConfirm reply = true)
    (own : OwnRequest tier state .supervisor) (outstanding : Outstanding state.gate (some .supervisor) log) :
    Outstanding state.gate.closed (some (if pending = .confirm1 then .allocator else .deployer))
      (log ++ [.confirmed pending reply]) := by
  obtain ⟨awaiting, asked⟩ := open_awaits state pending isOpen
  have request := own reply said unrouted taken
  have handed : Handed state.gate.closed (some (if pending = .confirm1 then .allocator else .deployer))
      (log ++ [.confirmed pending reply]) := by
    intro before question answer same
    obtain ⟨front, back⟩ := List.append_inj' same rfl
    obtain ⟨rfl, rfl⟩ : pending = question ∧ reply = answer := by simpa using back
    subst front
    constructor
    · intro deployment
      subst deployment
      obtain ⟨intent, held, last⟩ := outstanding.deployment awaiting asked
      exact ⟨rfl, request.1 isOpen, held.trans (last (by decide)).symm⟩
    · intro removal
      subst removal
      exact ⟨rfl, request.2 isOpen⟩
  exact outstanding_kept state.gate _ _ _ log _ (.inr rfl) (by simp [Event.removal]) (fun _ waits => nomatch waits)
    (by simp [Event.deployment]) handed outstanding

theorem step_outstanding (tier : Tier) (state : GraphState) (node : Node) (answers : Answers) (log : List Event)
    (after : Gate) (next : Option Node) (events : List Event) (own : OwnRequest tier state node)
    (outstanding : Outstanding state.gate (some node) log) (moves : Moves tier state answers node after next events) :
    Outstanding after next (log ++ events) := by
  have handed := outstanding.handed
  cases moves with
  | keeps node next events quiet back asked elsewhere =>
      refine outstanding_kept state.gate _ (some node) next log events (.inl rfl) (quiet_removal events quiet) ?_
        (quiet_deployment events quiet)
        (handed_elsewhere _ _ node next log events elsewhere (quiet_confirms events quiet) handed) outstanding
      intro _ awaiting pending reflects
      exact (asked (Option.some.inj reflects) awaiting).2 pending
  | closes node next events quiet back elsewhere =>
      exact outstanding_kept state.gate _ (some node) next log events (.inr rfl) (quiet_removal events quiet)
        (fun _ waits => nomatch waits) (quiet_deployment events quiet)
        (handed_elsewhere _ _ node next log events elsewhere (quiet_confirms events quiet) handed) outstanding
  | starts =>
      constructor
      · intro tool
        cases tool
      · intro awaiting
        cases awaiting
      · exact handed_append _ _ log _ (by simp) (by simp [Event.confirms])
  | asksStatus request =>
      have moved := handed_elsewhere _ { state.gate with toolAction := some .status, toolRequest := some request }
        .supervisor (some .deployer) log [] (by decide) (by simp) handed
      constructor
      · intro tool
        cases tool
      · intro awaiting pending
        obtain ⟨intent, held, last⟩ := outstanding.deployment awaiting pending
        rw [List.append_nil]
        exact ⟨intent, held, fun _ => last (by decide)⟩
      · exact moved
  | asksRemoval request encoded =>
      constructor
      · intro _
        exact ⟨request, encoded, rfl, latest_snoc Event.removal log (.askedRemoval request)⟩
      · intro _ pending
        cases pending
      · exact handed_append _ _ log _ (by simp) (by simp [Event.confirms])
  | confirms pending reply said unrouted isOpen taken =>
      exact confirm_outstanding tier state log pending reply said unrouted isOpen taken own outstanding
  | maps mapped pending kind =>
      have moved := handed_elsewhere _
        { state.gate with mapped := some mapped, awaiting := true, pending := some pending } .mapper (some .reflection)
        log [] (by decide) (by simp) handed
      constructor
      · intro tool
        obtain ⟨request, full, held, last⟩ := outstanding.removal tool
        rw [List.append_nil]
        exact ⟨request, full, held, last⟩
      · intro _ same
        cases kind with
        | inl clarify => simp [clarify] at same
        | inr confirm1 => simp [confirm1] at same
      · exact moved
  | sends mapped held after next events quiet same back =>
      have silent := quiet_confirms events quiet
      exact outstanding_kept state.gate after (some .allocator) next log _ same
        (List.forall_mem_cons.mpr ⟨rfl, quiet_removal events quiet⟩) (fun _ _ _ other => nomatch other)
        (List.forall_mem_cons.mpr ⟨rfl, quiet_deployment events quiet⟩)
        (handed_append _ _ log _ (List.cons_ne_nil _ _) (List.forall_mem_cons.mpr ⟨rfl, silent⟩)) outstanding
  | allocates mapped intent held =>
      constructor
      · intro tool
        obtain ⟨request, full, held, last⟩ := outstanding.removal tool
        refine ⟨request, full, held, ?_⟩
        rw [lastRemoval, latest_append_none Event.removal log _ (by simp [Event.removal])]
        exact last
      · intro _ _
        exact ⟨intent, rfl, fun elsewhere => absurd rfl elsewhere⟩
      · exact handed_append _ _ log _ (by simp) (by simp [Event.confirms])
  | asksInterpretation isOpen =>
      have pending := (open_awaits state .confirm1 isOpen).2
      refine outstanding_kept state.gate _ (some .reflection) none log _ (.inl rfl) (by simp [Event.removal]) ?_
        (by simp [Event.deployment]) (handed_append _ _ log _ (by simp) (by simp [Event.confirms])) outstanding
      intro _ _ other
      have same : state.pendingAction = some .confirm2 := other
      rw [pending] at same
      cases same
  | asksDeployment isOpen =>
      obtain ⟨awaiting, pending⟩ := open_awaits state .confirm2 isOpen
      obtain ⟨intent, held, _⟩ := outstanding.deployment awaiting pending
      have text : state.allocatedResources.getD "" = intent := by
        rw [show state.allocatedResources = some intent from held, Option.getD_some]
      constructor
      · intro tool
        obtain ⟨request, full, held, last⟩ := outstanding.removal tool
        refine ⟨request, full, held, ?_⟩
        rw [lastRemoval, latest_append_none Event.removal log _ (by simp [Event.removal])]
        exact last
      · intro _ _
        refine ⟨intent, held, fun _ => ?_⟩
        rw [text]
        exact latest_snoc Event.deployment log (.askedDeployment intent)
      · exact handed_append _ _ log _ (by simp) (by simp [Event.confirms])
  | tools action held request holds after events quiet same =>
      have silent := quiet_confirms events quiet
      exact outstanding_kept state.gate after (some .deployer) none log _ same
        (List.forall_mem_cons.mpr ⟨rfl, quiet_removal events quiet⟩) (fun _ _ _ other => nomatch other)
        (List.forall_mem_cons.mpr ⟨rfl, quiet_deployment events quiet⟩)
        (handed_append _ _ log _ (List.cons_ne_nil _ _) (List.forall_mem_cons.mpr ⟨rfl, silent⟩)) outstanding
  | submits free intent held after same =>
      exact outstanding_kept state.gate after (some .deployer) none log _ same (by simp [Event.removal])
        (fun _ _ _ other => nomatch other) (by simp [Event.deployment])
        (handed_append _ _ log _ (by simp) (by simp [Event.confirms])) outstanding
  | refuses free precondition =>
      exact outstanding_kept state.gate _ (some .deployer) none log _ (.inr rfl) (by simp [Event.removal])
        (fun _ waits => nomatch waits) (by simp [Event.deployment])
        (handed_append _ _ log _ (by simp) (by simp [Event.confirms])) outstanding

end Outstanding

section Calls
variable (tier : Tier)

-- The deployer's first event behind a confirmation is the call that it was given for.
theorem deployment_call (state : GraphState) (answers : Answers) (before : List Event) (after : Gate) (next : Option Node)
    (call : Event) (rest : List Event) (free : state.gate.toolAction = none)
    (pending : state.gate.allocated = lastDeployment before) (reply : String)
    (moves : Moves tier state answers .deployer after next (call :: rest)) :
    ActsOn tier before (.confirmed .confirm2 reply) call := by
  have free : state.toolAction = none := free
  cases moves with
  | keeps node next events quiet back asked elsewhere => exact absurd rfl elsewhere
  | closes node next events quiet back elsewhere => exact absurd rfl elsewhere
  | tools action held request holds after events quiet same =>
      rw [free] at held
      cases held
  | submits free intent held after same =>
      have asked : lastDeployment before = some intent := pending.symm.trans held
      exact .inl ⟨intent, _, _, asked, rfl⟩
  | refuses free precondition => exact .inr ⟨precondition, rfl⟩

theorem removal_call (state : GraphState) (answers : Answers) (before : List Event) (after : Gate) (next : Option Node)
    (call : Event) (rest : List Event) (tool : state.gate.toolAction = some .remove) (request : String) (full : request ≠ "")
    (pending : state.gate.toolRequest = some request) (asked : lastRemoval before = some request) (reply : String)
    (moves : Moves tier state answers .deployer after next (call :: rest)) :
    ActsOn tier before (.confirmed .confirmRemove reply) call := by
  have tool : state.toolAction = some .remove := tool
  have pending : state.toolRequest = some request := pending
  cases moves with
  | keeps node next events quiet back asked elsewhere => exact absurd rfl elsewhere
  | closes node next events quiet back elsewhere => exact absurd rfl elsewhere
  | tools action held sent holds after events quiet same =>
      have text : sent = request := by
        rw [holds, pending]
        simp [present, full]
      rw [text]
      exact ⟨request, asked, rfl⟩
  | submits free intent held after same =>
      rw [tool] at free
      cases free
  | refuses free precondition =>
      rw [tool] at free
      cases free

theorem handed_call (state : GraphState) (node : Node) (answers : Answers) (log before : List Event) (after : Gate)
    (next : Option Node) (first call : Event) (rest : List Event) (last : log = before ++ [first])
    (outstanding : Outstanding state.gate (some node) log)
    (moves : Moves tier state answers node after next (call :: rest)) : ActsOn tier before first call := by
  cases first with
  | confirmed question reply =>
      have due := outstanding.handed before question reply last
      cases question with
      | confirm1 => trivial
      | clarify => trivial
      | confirm2 =>
          obtain ⟨deploys, free, pending⟩ := due.1 rfl
          cases deploys
          exact deployment_call tier state answers before after next call rest free pending reply moves
      | confirmRemove =>
          obtain ⟨deploys, tool⟩ := due.2 rfl
          cases deploys
          obtain ⟨request, full, held, asked⟩ := outstanding.removal tool
          rw [last, lastRemoval, latest_snoc] at asked
          exact removal_call tier state answers before after next call rest tool request full held asked reply moves
  | _ => trivial

-- No node confirms and goes on.
theorem moves_inner (state : GraphState) (node : Node) (answers : Answers) (after : Gate) (next : Option Node)
    (log events before rest : List Event) (first second : Event) (moves : Moves tier state answers node after next events)
    (split : events = before ++ first :: second :: rest) : ActsOn tier (log ++ before) first second := by
  have inside : first ∈ events := by
    rw [split]
    exact List.mem_append_right before (List.mem_cons_self ..)
  have several : 2 ≤ events.length := by
    rw [split, List.length_append, List.length_cons, List.length_cons]
    omega
  have unconfirmed : first.confirms = false := by
    cases moves with
    | keeps node next events quiet back asked elsewhere => exact quiet_confirms events quiet first inside
    | closes node next events quiet back elsewhere => exact quiet_confirms events quiet first inside
    | sends mapped held after next events quiet same back =>
        cases List.mem_cons.mp inside with
        | inl same =>
            rw [same]
            rfl
        | inr later => exact quiet_confirms events quiet first later
    | tools action held request holds after events quiet same =>
        cases List.mem_cons.mp inside with
        | inl same =>
            rw [same]
            rfl
        | inr later => exact quiet_confirms events quiet first later
    | allocates mapped intent held =>
        cases List.mem_cons.mp inside with
        | inl same =>
            rw [same]
            rfl
        | inr later =>
            rw [List.mem_singleton.mp later]
            rfl
    | _ => simp at several
  cases first with
  | confirmed question reply => cases unconfirmed
  | _ => trivial

end Calls

section Runs
variable (tier : Tier)

def Answering (thread : Thread) : Prop :=
  Outstanding thread.state.gate thread.node thread.log ∧ ConfirmationsActOn tier thread.log

theorem message_outstanding (thread : Thread) (message : Message) (idle : thread.node = none)
    (outstanding : Outstanding thread.state.gate thread.node thread.log) :
    Outstanding (seeded thread.state message).gate (some .supervisor) thread.log := by
  rw [idle] at outstanding
  constructor
  · exact outstanding.removal
  · intro awaiting pending
    obtain ⟨intent, held, last⟩ := outstanding.deployment awaiting pending
    exact ⟨intent, held, fun _ => last (by decide)⟩
  · intro before question reply same
    have due := outstanding.handed before question reply same
    constructor
    · intro deployment
      cases (due.1 deployment).1
    · intro removal
      cases (due.2 removal).1

theorem step_answering (thread : Thread) (input : Input) (after : Thread) (holds : Answering tier thread)
    (clear : Uninterrupted tier thread input) (step : thread.Step tier input after) : Answering tier after := by
  obtain ⟨outstanding, acts⟩ := holds
  cases input with
  | message message =>
      cases idle : thread.node with
      | some node => simp [Thread.Step, Thread.next, idle] at step
      | none =>
          simp only [Thread.Step, Thread.next, idle, Option.some.injEq] at step
          subst step
          exact ⟨message_outstanding thread message idle outstanding, acts⟩
  | run answers =>
      obtain ⟨state, node, log⟩ := thread
      cases node with
      | none => simp [Thread.Step, Thread.next] at step
      | some node =>
          simp only [Thread.Step, Thread.next, Option.map_some, Option.some.injEq] at step
          subst step
          have moves := run_node_moves tier state answers node
          have own : OwnRequest tier state node := clear node rfl
          refine ⟨step_outstanding tier state node answers log _ _ _ own outstanding moves, ?_⟩
          apply successive_append _ log _ acts
          · intro before first second rest last events
            rw [Outcome.By, events] at moves
            exact handed_call tier state node answers log before _ _ first second rest last outstanding moves
          · intro before first second rest split
            exact moves_inner tier state node answers _ _ log _ before rest first second moves split

theorem new_thread_answering : Answering tier {} := by
  constructor
  · constructor
    · intro tool
      cases tool
    · intro awaiting
      cases awaiting
    · intro before question reply same
      simp at same
  · exact successive_nil _

-- Where no other request comes between, each confirmation is followed by what it was asked for.
theorem confirmations_act_on (inputs : List Input) (final : Thread)
    (run : Run (Thread.Step tier) (Uninterrupted tier) {} inputs final) : ConfirmationsActOn tier final.log :=
  (run_invariant (Thread.Step tier) (Uninterrupted tier) (Answering tier) (step_answering tier) {} inputs final
    (new_thread_answering tier) run).2

end Runs

def labRemoval (reply : String) : List Input :=
  [said "remove service vlan-blue", .run {}, said reply, .run {}, .run { deployer := .payload (some { removed := true }) }]

-- A deployment and a removal, each confirmed right behind its question.
theorem lab_confirmations_act_on :
    ∃ log, labLog (labSubmitted "yes" "go ahead" ++ labRemoval "yes") = some log ∧
      Event.sentToolRequest "remove" "remove" ∈ log ∧ ConfirmationsActOn labTier log := by
  let inputs := labSubmitted "yes" "go ahead" ++ labRemoval "yes"
  have played : Played (Uninterrupted labTier) (Thread.next labTier) {} inputs := by decide
  obtain ⟨final, ends⟩ := played_ends _ (Thread.next labTier) _ _ played
  have logged : labLog inputs = some final.log := by
    rw [labLog, ends]
    rfl
  have removed : Event.sentToolRequest "remove" "remove" ∈ final.log := by
    have inside : ∀ log ∈ labLog inputs, Event.sentToolRequest "remove" "remove" ∈ log := by decide
    exact inside final.log logged
  exact ⟨final.log, logged, removed,
    confirmations_act_on labTier inputs final (played_run _ (Thread.next labTier) _ _ final played ends)⟩

-- Every confirmation, in every run of the thread.
def ConfirmationsAct (tier : Tier) : Prop :=
  ∀ (inputs : List Input) (final : Thread), Run (Thread.Step tier) (fun _ _ => True) {} inputs final →
    ConfirmationsActOn tier final.log

def labStatusBetween : List Input :=
  labAllocated "yes" ++
    [said "status of vlan-blue", .run {}, .run { deployer := .payload (some { status := some none }) }, said "confirm",
      .run {}, .run { deployer := .payload (some { status := some none }) }]

def labStatusTrail : List Event :=
  [.started, .askedInterpretation "interpretation", .confirmed .confirm1 "yes",
    .sentInterpretation "interpretation 4f2a" "interpretation 4f2a", .allocated "intent", .askedDeployment "intent",
    .sentToolRequest "status" "status"]

-- A status question asked in between is asked again in place of the confirmed deployment.
theorem lab_status_redirects : ¬ ConfirmationsAct labTier := by
  intro act
  have logged : labLog labStatusBetween =
      some (labStatusTrail ++ [.confirmed .confirm2 "confirm", .sentToolRequest "status" "status"]) := by decide
  have played : Played (fun _ _ => True) (Thread.next labTier) {} labStatusBetween := by decide
  obtain ⟨final, ends, split⟩ := Option.map_eq_some_iff.mp logged
  have run := played_run _ (Thread.next labTier) _ _ final played ends
  have call := act _ final run labStatusTrail _ _ [] split
  cases call with
  | inl submitted =>
      obtain ⟨intent, correlationID, principal, asked, same⟩ := submitted
      cases same
  | inr refused =>
      obtain ⟨precondition, same⟩ := refused
      cases same

end AgenticNetops.Supervisor
