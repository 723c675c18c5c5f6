import AgenticNetops.Lib.EventLog
import AgenticNetops.Lib.Runs
import AgenticNetops.Supervisor.Moves

set_option autoImplicit false

/- What stands behind a submission: the two questions of one provisioning request, in
   order, each answered by a reply that confirms and does not decline. -/
namespace AgenticNetops.Supervisor

open EventLog Runs Schemas

def Agreed (reply : String) : Prop := Confirms reply ∧ ¬ Declines reply

instance (reply : String) : Decidable (Agreed reply) := inferInstanceAs (Decidable (_ ∧ _))

-- The interpretation that was confirmed, as the allocator is sent it.
def Carries (tier : Tier) (mapped request : String) : Prop :=
  request = mapped ∨ ∃ correlationID, request = tier.withCorrelation mapped correlationID

inductive Reached where
  | interpretationAsked (mapped : String)
  | interpretationConfirmed (mapped : String)
  | allocated (intent : String)
  | deploymentAsked (intent : String)
  | deploymentConfirmed (intent : String)

-- The events that lead to a point of the request.
inductive Trail (tier : Tier) : Reached → List Event → Prop
  | asksInterpretation (mapped : String) : Trail tier (.interpretationAsked mapped) [.askedInterpretation mapped]
  | confirmsInterpretation (mapped reply : String) (trail : List Event)
      (earlier : Trail tier (.interpretationAsked mapped) trail) (agreed : Agreed reply) :
      Trail tier (.interpretationConfirmed mapped) (trail ++ [.confirmed .confirm1 reply])
  | allocates (mapped request intent : String) (trail : List Event)
      (earlier : Trail tier (.interpretationConfirmed mapped) trail) (carries : Carries tier mapped request) :
      Trail tier (.allocated intent) (trail ++ [.sentInterpretation request request, .allocated intent])
  | asksDeployment (intent : String) (trail : List Event) (earlier : Trail tier (.allocated intent) trail) :
      Trail tier (.deploymentAsked intent) (trail ++ [.askedDeployment intent])
  | confirmsDeployment (intent reply : String) (trail : List Event)
      (earlier : Trail tier (.deploymentAsked intent) trail) (agreed : Agreed reply) :
      Trail tier (.deploymentConfirmed intent) (trail ++ [.confirmed .confirm2 reply])

-- Since the last start of a provisioning request, the log leads there.
def LeadsTo (tier : Tier) (log : List Event) (reached : Reached) : Prop :=
  ∃ trail, Trail tier reached trail ∧ trail.Sublist (sinceStart log)

structure Authorized (tier : Tier) (log : List Event) (request sent : String) : Prop where
  confirmed : ∃ intent correlationID principal, LeadsTo tier log (.deploymentConfirmed intent) ∧
    request = tier.envelope intent correlationID tier.threadID principal
  unaltered : sent = request

def SubmitsOnlyConfirmed (tier : Tier) (log : List Event) : Prop :=
  Each (fun before event => ∀ request sent, event = .sentEnvelope request sent → Authorized tier before request sent) log

/- The runs of a node on which the gate holds. A reply that is taken as a confirmation of
   either question confirms and does not decline, and no credential is redacted out of
   the interpretation or the envelope. -/
def ClearRun (tier : Tier) (state : GraphState) (answers : Answers) : Node → Prop
  | .supervisor =>
      ∀ reply ∈ state.userMessage, textRoute tier state reply = none →
        ∀ question ∈ openQuestion state, question ≠ .confirmRemove → takenAsConfirm reply = true → Agreed reply
  | .allocator =>
      ∀ mapped ∈ state.mappedParameters,
        tier.redact (correlatedInterpretation tier state mapped) = correlatedInterpretation tier state mapped
  | .deployer =>
      state.toolAction = none → ∀ intent ∈ state.allocatedResources,
        tier.redact (submittedEnvelope tier state answers intent) = submittedEnvelope tier state answers intent
  | _ => True

def Unmistaken (tier : Tier) (thread : Thread) : Input → Prop
  | .message _ => True
  | .run answers => ∀ node ∈ thread.node, ClearRun tier thread.state answers node

instance (tier : Tier) (state : GraphState) (answers : Answers) (node : Node) :
    Decidable (ClearRun tier state answers node) :=
  match node with
  | .supervisor => inferInstanceAs (Decidable (∀ reply ∈ state.userMessage, textRoute tier state reply = none →
      ∀ question ∈ openQuestion state, question ≠ .confirmRemove → takenAsConfirm reply = true → Agreed reply))
  | .allocator => inferInstanceAs (Decidable (∀ mapped ∈ state.mappedParameters,
      tier.redact (correlatedInterpretation tier state mapped) = correlatedInterpretation tier state mapped))
  | .deployer => inferInstanceAs (Decidable (state.toolAction = none → ∀ intent ∈ state.allocatedResources,
      tier.redact (submittedEnvelope tier state answers intent) = submittedEnvelope tier state answers intent))
  | .mapper => isTrue trivial
  | .reflection => isTrue trivial
  | .generalInfo => isTrue trivial

instance (tier : Tier) (thread : Thread) (input : Input) : Decidable (Unmistaken tier thread input) :=
  match input with
  | .message _ => isTrue trivial
  | .run answers => inferInstanceAs (Decidable (∀ node ∈ thread.node, ClearRun tier thread.state answers node))

section Trails
variable (tier : Tier)

theorem quiet_unstarted (events : List Event) (quiet : Quiet events) : ∀ event ∈ events, event.starts = false := by
  intro event member
  have still := quiet event member
  cases event with
  | refused reason => rfl
  | declined question reply => rfl
  | _ => cases still

theorem leads_append (log events : List Event) (unstarted : ∀ event ∈ events, event.starts = false) (reached : Reached)
    (leads : LeadsTo tier log reached) : LeadsTo tier (log ++ events) reached := by
  obtain ⟨trail, derived, inside⟩ := leads
  refine ⟨trail, derived, inside.trans ?_⟩
  rw [sinceStart, sinceStart, since_append Event.starts log events unstarted]
  exact List.sublist_append_left _ _

theorem leads_extend (log events : List Event) (unstarted : ∀ event ∈ events, event.starts = false)
    (reached further : Reached) (leads : LeadsTo tier log reached)
    (onward : ∀ trail, Trail tier reached trail → Trail tier further (trail ++ events)) :
    LeadsTo tier (log ++ events) further := by
  obtain ⟨trail, derived, inside⟩ := leads
  refine ⟨trail ++ events, onward trail derived, ?_⟩
  rw [sinceStart, since_append Event.starts log events unstarted]
  exact inside.append (List.Sublist.refl events)

theorem leads_asked (log : List Event) (mapped : String) :
    LeadsTo tier (log ++ [.askedInterpretation mapped]) (.interpretationAsked mapped) := by
  refine ⟨[.askedInterpretation mapped], .asksInterpretation mapped, ?_⟩
  rw [sinceStart, since_append Event.starts log _ (by simp [Event.starts])]
  exact List.sublist_append_right _ _

-- The confirmed question's reply is in the log.
theorem confirmed_reply (log : List Event) (intent : String) (leads : LeadsTo tier log (.deploymentConfirmed intent)) :
    ∃ reply, Agreed reply ∧ Event.confirmed .confirm2 reply ∈ sinceStart log := by
  obtain ⟨trail, derived, inside⟩ := leads
  cases derived with
  | confirmsDeployment _ reply earlierTrail earlier agreed =>
      exact ⟨reply, agreed, inside.subset (List.mem_append_right _ (List.mem_singleton.mpr rfl))⟩

end Trails

/- Where a thread stands: a pending question has its text and was put unless the
   reflection is next, and the allocator and the deployer are next behind a confirmed one. -/
structure Gated (tier : Tier) (gate : Gate) (node : Option Node) (log : List Event) : Prop where
  interpretation : gate.awaiting = true → gate.pending = some .confirm1 →
    ∃ mapped, gate.mapped = some mapped ∧ (node ≠ some .reflection → LeadsTo tier log (.interpretationAsked mapped))
  deployment : gate.awaiting = true → gate.pending = some .confirm2 →
    ∃ intent, gate.allocated = some intent ∧ LeadsTo tier log (.allocated intent) ∧
      (node ≠ some .reflection → LeadsTo tier log (.deploymentAsked intent))
  removal : gate.awaiting = true → gate.pending = some .confirmRemove → gate.toolAction.isSome = true
  allocator : node = some .allocator →
    ∃ mapped, gate.mapped = some mapped ∧ LeadsTo tier log (.interpretationConfirmed mapped)
  deployer : node = some .deployer → gate.toolAction = none →
    ∃ intent, gate.allocated = some intent ∧ LeadsTo tier log (.deploymentConfirmed intent)

section Gated
variable (tier : Tier)

theorem gated_settled (gate : Gate) (node : Option Node) (log : List Event) (closed : gate.awaiting = false)
    (allocator : node = some .allocator →
      ∃ mapped, gate.mapped = some mapped ∧ LeadsTo tier log (.interpretationConfirmed mapped))
    (deployer : node = some .deployer → gate.toolAction = none →
      ∃ intent, gate.allocated = some intent ∧ LeadsTo tier log (.deploymentConfirmed intent)) :
    Gated tier gate node log where
  interpretation awaiting := by simp [closed] at awaiting
  deployment awaiting := by simp [closed] at awaiting
  removal awaiting := by simp [closed] at awaiting
  allocator := allocator
  deployer := deployer

theorem gated_closed (gate : Gate) (node : Option Node) (log : List Event) (closed : gate.awaiting = false)
    (away : node ≠ some .allocator ∧ node ≠ some .deployer) : Gated tier gate node log :=
  gated_settled tier gate node log closed (fun next => absurd next away.1) (fun next => absurd next away.2)

-- A node that leaves the gate as it is: the questions stay pending as they were put.
theorem gated_kept (gate : Gate) (node : Node) (next : Option Node) (log events : List Event)
    (unstarted : ∀ event ∈ events, event.starts = false) (away : next ≠ some .allocator ∧ next ≠ some .deployer)
    (asked : node = .reflection → gate.awaiting = true → gate.pending ≠ some .confirm1 ∧ gate.pending ≠ some .confirm2)
    (gated : Gated tier gate (some node) log) : Gated tier gate next (log ++ events) where
  interpretation awaiting pending := by
    obtain ⟨mapped, held, leads⟩ := gated.interpretation awaiting pending
    refine ⟨mapped, held, fun _ => leads_append tier log events unstarted _ (leads ?_)⟩
    intro reflects
    exact (asked (Option.some.inj reflects) awaiting).1 pending
  deployment awaiting pending := by
    obtain ⟨intent, held, allocated, leads⟩ := gated.deployment awaiting pending
    refine ⟨intent, held, leads_append tier log events unstarted _ allocated,
      fun _ => leads_append tier log events unstarted _ (leads ?_)⟩
    intro reflects
    exact (asked (Option.some.inj reflects) awaiting).2 pending
  removal := gated.removal
  allocator next := absurd next away.1
  deployer next := absurd next away.2

theorem gated_or_closed (gate after : Gate) (node : Node) (next : Option Node) (log events : List Event)
    (same : after = gate ∨ after = gate.closed) (unstarted : ∀ event ∈ events, event.starts = false)
    (away : next ≠ some .allocator ∧ next ≠ some .deployer) (asker : node ≠ .reflection)
    (gated : Gated tier gate (some node) log) : Gated tier after next (log ++ events) := by
  cases same with
  | inl kept =>
      rw [kept]
      exact gated_kept tier gate node next log events unstarted away (fun reflects => absurd reflects asker) gated
  | inr closed =>
      rw [closed]
      exact gated_closed tier _ next _ rfl away

theorem carries_correlated (state : GraphState) (mapped : String) :
    Carries tier mapped (correlatedInterpretation tier state mapped) := by
  rw [correlatedInterpretation]
  split
  · exact .inl rfl
  · exact .inr ⟨_, rfl⟩

-- A reply that confirms moves the request one point on.
theorem gated_confirms (state : GraphState) (log : List Event) (pending : PendingAction) (reply : String)
    (isOpen : openQuestion state = some pending) (agreed : pending ≠ .confirmRemove → Agreed reply)
    (gated : Gated tier state.gate (some .supervisor) log) :
    Gated tier state.gate.closed (some (if pending = .confirm1 then .allocator else .deployer))
      (log ++ [.confirmed pending reply]) := by
  obtain ⟨awaiting, asked⟩ := open_awaits state pending isOpen
  have unstarted : ∀ event ∈ [Event.confirmed pending reply], event.starts = false := by simp [Event.starts]
  cases pending with
  | confirm1 =>
      obtain ⟨mapped, held, leads⟩ := gated.interpretation awaiting asked
      have confirmed : LeadsTo tier (log ++ [.confirmed .confirm1 reply]) (.interpretationConfirmed mapped) :=
        leads_extend tier log _ unstarted _ _ (leads (by decide))
          (fun trail earlier => .confirmsInterpretation mapped reply trail earlier (agreed (by decide)))
      exact gated_settled tier _ _ _ rfl (fun _ => ⟨mapped, held, confirmed⟩) (fun next => nomatch next)
  | confirm2 =>
      obtain ⟨intent, held, _, leads⟩ := gated.deployment awaiting asked
      have confirmed : LeadsTo tier (log ++ [.confirmed .confirm2 reply]) (.deploymentConfirmed intent) :=
        leads_extend tier log _ unstarted _ _ (leads (by decide))
          (fun trail earlier => .confirmsDeployment intent reply trail earlier (agreed (by decide)))
      exact gated_settled tier _ _ _ rfl (fun next => nomatch next) (fun _ _ => ⟨intent, held, confirmed⟩)
  | confirmRemove =>
      refine gated_settled tier _ _ _ rfl (fun next => nomatch next) ?_
      intro _ free
      have tool : state.gate.toolAction.isSome = true := gated.removal awaiting asked
      have none : state.gate.toolAction = none := free
      rw [none] at tool
      cases tool
  | clarify =>
      unfold openQuestion at isOpen
      rw [if_pos awaiting, asked] at isOpen
      cases isOpen

theorem gated_allocates (state : GraphState) (log : List Event) (mapped intent : String)
    (held : state.mappedParameters = some mapped)
    (unaltered : tier.redact (correlatedInterpretation tier state mapped) = correlatedInterpretation tier state mapped)
    (gated : Gated tier state.gate (some .allocator) log) :
    Gated tier { state.gate with allocated := some intent, awaiting := true, pending := some .confirm2 }
      (some .reflection)
      (log ++ [.sentInterpretation (correlatedInterpretation tier state mapped)
        (tier.redact (correlatedInterpretation tier state mapped)), .allocated intent]) where
  interpretation _ pending := nomatch pending
  deployment _ _ := by
    obtain ⟨confirmed, same, leads⟩ := gated.allocator rfl
    have carried : confirmed = mapped := Option.some.inj (same.symm.trans held)
    rw [carried] at leads
    rw [unaltered]
    have extended := leads_extend tier log _ (by simp [Event.starts]) _ (.allocated intent) leads (fun trail earlier =>
      .allocates mapped (correlatedInterpretation tier state mapped) intent trail earlier
        (carries_correlated tier state mapped))
    exact ⟨intent, rfl, extended, fun elsewhere => absurd rfl elsewhere⟩
  removal _ pending := nomatch pending
  allocator next := nomatch next
  deployer next := nomatch next

-- The reflection puts the question that is pending.
theorem gated_asks_interpretation (state : GraphState) (log : List Event) (isOpen : openQuestion state = some .confirm1)
    (gated : Gated tier state.gate (some .reflection) log) :
    Gated tier state.gate none (log ++ [.askedInterpretation (state.mappedParameters.getD "")]) := by
  obtain ⟨awaiting, asked⟩ := open_awaits state .confirm1 isOpen
  obtain ⟨mapped, held, _⟩ := gated.interpretation awaiting asked
  have text : state.mappedParameters.getD "" = mapped := by
    rw [show state.mappedParameters = some mapped from held, Option.getD_some]
  have pending : state.gate.pending = some .confirm1 := asked
  rw [text]
  constructor
  · intro _ _
    exact ⟨mapped, held, fun _ => leads_asked tier log mapped⟩
  · intro _ other
    rw [pending] at other
    cases other
  · intro _ other
    rw [pending] at other
    cases other
  · intro next
    cases next
  · intro next
    cases next

theorem gated_asks_deployment (state : GraphState) (log : List Event) (isOpen : openQuestion state = some .confirm2)
    (gated : Gated tier state.gate (some .reflection) log) :
    Gated tier state.gate none (log ++ [.askedDeployment (state.allocatedResources.getD "")]) := by
  obtain ⟨awaiting, asked⟩ := open_awaits state .confirm2 isOpen
  obtain ⟨intent, held, allocated, _⟩ := gated.deployment awaiting asked
  have text : state.allocatedResources.getD "" = intent := by
    rw [show state.allocatedResources = some intent from held, Option.getD_some]
  have pending : state.gate.pending = some .confirm2 := asked
  have unstarted : ∀ event ∈ [Event.askedDeployment intent], event.starts = false := by simp [Event.starts]
  rw [text]
  constructor
  · intro _ other
    rw [pending] at other
    cases other
  · intro _ _
    have put : LeadsTo tier (log ++ [.askedDeployment intent]) (.deploymentAsked intent) :=
      leads_extend tier log _ unstarted _ _ allocated (fun trail earlier => .asksDeployment intent trail earlier)
    exact ⟨intent, held, leads_append tier log _ unstarted _ allocated, fun _ => put⟩
  · intro _ other
    rw [pending] at other
    cases other
  · intro next
    cases next
  · intro next
    cases next

theorem step_gated (state : GraphState) (node : Node) (answers : Answers) (log : List Event) (after : Gate)
    (next : Option Node) (events : List Event) (clear : ClearRun tier state answers node)
    (gated : Gated tier state.gate (some node) log) (moves : Moves tier state answers node after next events) :
    Gated tier after next (log ++ events) := by
  cases moves with
  | keeps node next events quiet back asked elsewhere =>
      apply gated_kept tier state.gate node next log events (quiet_unstarted events quiet) _ asked gated
      constructor
      · intro same
        simp [same] at back
      · intro same
        simp [same] at back
  | closes node next events quiet back elsewhere =>
      apply gated_closed tier _ next _ rfl
      constructor
      · intro same
        simp [same] at back
      · intro same
        simp [same] at back
  | starts => exact gated_closed tier _ _ _ rfl (by decide)
  | asksStatus request =>
      rw [List.append_nil]
      constructor
      · intro awaiting pending
        obtain ⟨mapped, held, leads⟩ := gated.interpretation awaiting pending
        exact ⟨mapped, held, fun _ => leads (by decide)⟩
      · intro awaiting pending
        obtain ⟨intent, held, allocated, leads⟩ := gated.deployment awaiting pending
        exact ⟨intent, held, allocated, fun _ => leads (by decide)⟩
      · intro _ _
        rfl
      · intro next
        cases next
      · intro _ free
        cases free
  | asksRemoval request encoded =>
      constructor
      · intro _ pending
        cases pending
      · intro _ pending
        cases pending
      · intro _ _
        rfl
      · intro next
        cases next
      · intro next
        cases next
  | confirms pending reply said unrouted isOpen taken =>
      exact gated_confirms tier state log pending reply isOpen
        (fun other => clear reply said unrouted pending isOpen other taken) gated
  | maps mapped pending kind =>
      rw [List.append_nil]
      constructor
      · intro _ _
        exact ⟨mapped, rfl, fun elsewhere => absurd rfl elsewhere⟩
      · intro _ same
        cases kind with
        | inl clarify => simp [clarify] at same
        | inr confirm1 => simp [confirm1] at same
      · intro _ same
        cases kind with
        | inl clarify => simp [clarify] at same
        | inr confirm1 => simp [confirm1] at same
      · intro next
        cases next
      · intro next
        cases next
  | sends mapped held after next events quiet same back =>
      have unstarted := quiet_unstarted events quiet
      refine gated_or_closed tier state.gate after .allocator next log _ same
        (List.forall_mem_cons.mpr ⟨rfl, unstarted⟩) ?_ (by decide) gated
      constructor
      · intro same
        simp [same] at back
      · intro same
        simp [same] at back
  | allocates mapped intent held => exact gated_allocates tier state log mapped intent held (clear mapped held) gated
  | asksInterpretation isOpen => exact gated_asks_interpretation tier state log isOpen gated
  | asksDeployment isOpen => exact gated_asks_deployment tier state log isOpen gated
  | tools action held request holds after events quiet same =>
      have unstarted := quiet_unstarted events quiet
      exact gated_or_closed tier state.gate after .deployer none log _ same
        (List.forall_mem_cons.mpr ⟨rfl, unstarted⟩) (by decide) (by decide) gated
  | submits free intent held after same =>
      exact gated_or_closed tier state.gate after .deployer none log _ same (by simp [Event.starts]) (by decide)
        (by decide) gated
  | refuses free precondition => exact gated_closed tier _ none _ rfl (by decide)

-- An envelope leaves the deployer for the intent that the thread holds, with no tool request in its way.
theorem moves_envelope (state : GraphState) (node : Node) (answers : Answers) (after : Gate) (next : Option Node)
    (events : List Event) (moves : Moves tier state answers node after next events) (request sent : String)
    (member : .sentEnvelope request sent ∈ events) :
    node = .deployer ∧ state.toolAction = none ∧ events = [.sentEnvelope request sent] ∧
      ∃ intent, state.allocatedResources = some intent ∧ request = submittedEnvelope tier state answers intent ∧
        sent = tier.redact request := by
  cases moves with
  | keeps node next events quiet back asked elsewhere => exact nomatch quiet _ member
  | closes node next events quiet back elsewhere => exact nomatch quiet _ member
  | sends mapped held after next events quiet same back =>
      cases List.mem_cons.mp member with
      | inl same => cases same
      | inr later => exact nomatch quiet _ later
  | tools action held request holds after events quiet same =>
      cases List.mem_cons.mp member with
      | inl same => cases same
      | inr later => exact nomatch quiet _ later
  | submits free intent held after same =>
      cases List.mem_singleton.mp member
      exact ⟨rfl, free, rfl, intent, held, rfl, rfl⟩
  | _ => simp at member

theorem step_submits (state : GraphState) (node : Node) (answers : Answers) (log : List Event) (after : Gate)
    (next : Option Node) (events : List Event) (clear : ClearRun tier state answers node)
    (gated : Gated tier state.gate (some node) log) (moves : Moves tier state answers node after next events)
    (earlier : SubmitsOnlyConfirmed tier log) : SubmitsOnlyConfirmed tier (log ++ events) := by
  apply each_append _ log events earlier
  intro before event rest split request sent envelope
  have member : Event.sentEnvelope request sent ∈ events := by
    rw [split, envelope]
    exact List.mem_append_right before (List.mem_cons_self ..)
  obtain ⟨deploys, free, only, intent, held, built, redacted⟩ :=
    moves_envelope tier state node answers after next events moves request sent member
  subst deploys
  rw [only] at split
  have first : before = [] := by
    cases before with
    | nil => rfl
    | cons head tail => simp at split
  obtain ⟨confirmed, same, leads⟩ := gated.deployer rfl free
  have intents : confirmed = intent := Option.some.inj (same.symm.trans held)
  rw [first, List.append_nil]
  constructor
  · exact ⟨intent, _, _, intents ▸ leads, built⟩
  · rw [redacted, built]
    exact clear free intent held

end Gated

section Runs
variable (tier : Tier)

def Submitting (thread : Thread) : Prop :=
  Gated tier thread.state.gate thread.node thread.log ∧ SubmitsOnlyConfirmed tier thread.log

-- A new turn leaves the gate as it is.
theorem message_gated (thread : Thread) (message : Message) (idle : thread.node = none)
    (gated : Gated tier thread.state.gate thread.node thread.log) :
    Gated tier (seeded thread.state message).gate (some .supervisor) thread.log := by
  rw [idle] at gated
  constructor
  · intro awaiting pending
    obtain ⟨mapped, held, leads⟩ := gated.interpretation awaiting pending
    exact ⟨mapped, held, fun _ => leads (by decide)⟩
  · intro awaiting pending
    obtain ⟨intent, held, allocated, leads⟩ := gated.deployment awaiting pending
    exact ⟨intent, held, allocated, fun _ => leads (by decide)⟩
  · exact gated.removal
  · intro next
    cases next
  · intro next
    cases next

theorem step_submitting (thread : Thread) (input : Input) (after : Thread) (holds : Submitting tier thread)
    (clear : Unmistaken tier thread input) (step : thread.Step tier input after) : Submitting tier after := by
  obtain ⟨gated, submits⟩ := holds
  cases input with
  | message message =>
      cases idle : thread.node with
      | some node => simp [Thread.Step, Thread.next, idle] at step
      | none =>
          simp only [Thread.Step, Thread.next, idle, Option.some.injEq] at step
          subst step
          exact ⟨message_gated tier thread message idle gated, submits⟩
  | run answers =>
      obtain ⟨state, node, log⟩ := thread
      cases node with
      | none => simp [Thread.Step, Thread.next] at step
      | some node =>
          simp only [Thread.Step, Thread.next, Option.map_some, Option.some.injEq] at step
          subst step
          have moves := run_node_moves tier state answers node
          have clear : ClearRun tier state answers node := clear node rfl
          exact ⟨step_gated tier state node answers log _ _ _ clear gated moves,
            step_submits tier state node answers log _ _ _ clear gated moves submits⟩

theorem new_thread_submitting : Submitting tier {} :=
  ⟨gated_closed tier _ none [] rfl (by decide), each_nil _⟩

-- In every run of unmistaken inputs, nothing is submitted but what was confirmed twice.
theorem submissions_confirmed (inputs : List Input) (final : Thread)
    (run : Run (Thread.Step tier) (Unmistaken tier) {} inputs final) : SubmitsOnlyConfirmed tier final.log :=
  (run_invariant (Thread.Step tier) (Unmistaken tier) (Submitting tier) (step_submitting tier) {} inputs final
    (new_thread_submitting tier) run).2

end Runs

-- Confirmed twice in so many words, the intent is submitted.
theorem lab_submission_confirmed :
    ∃ log, labLog (labSubmitted "yes" "go ahead") = some log ∧
      Event.sentEnvelope "intent 4f2a lab operator" "intent 4f2a lab operator" ∈ log ∧ SubmitsOnlyConfirmed labTier log := by
  have played : Played (Unmistaken labTier) (Thread.next labTier) {} (labSubmitted "yes" "go ahead") := by decide
  obtain ⟨final, ends⟩ := played_ends _ (Thread.next labTier) _ _ played
  have logged : labLog (labSubmitted "yes" "go ahead") = some final.log := by rw [labLog, ends]; rfl
  have submitted : Event.sentEnvelope "intent 4f2a lab operator" "intent 4f2a lab operator" ∈ final.log := by
    have inside : ∀ log ∈ labLog (labSubmitted "yes" "go ahead"),
        Event.sentEnvelope "intent 4f2a lab operator" "intent 4f2a lab operator" ∈ log := by decide
    exact inside final.log logged
  exact ⟨final.log, logged, submitted,
    submissions_confirmed labTier _ final (played_run _ (Thread.next labTier) _ _ final played ends)⟩

-- Every submission, in every run of the thread.
def SubmissionsConfirmed (tier : Tier) : Prop :=
  ∀ (inputs : List Input) (final : Thread), Run (Thread.Step tier) (fun _ _ => True) {} inputs final →
    SubmitsOnlyConfirmed tier final.log

def labDeclinedTrail : List Event :=
  [.started, .askedInterpretation "interpretation", .confirmed .confirm1 "yes",
    .sentInterpretation "interpretation 4f2a" "interpretation 4f2a", .allocated "intent", .askedDeployment "intent",
    .confirmed .confirm2 "no, do not deploy"]

-- "no, do not deploy" contains a confirming word, and the intent is submitted.
theorem lab_declining_reply_submits : ¬ SubmissionsConfirmed labTier := by
  intro confirmed
  have logged : labLog (labSubmitted "yes" "no, do not deploy") =
      some (labDeclinedTrail ++ [.sentEnvelope "intent 4f2a lab operator" "intent 4f2a lab operator"]) := by decide
  have played : Played (fun _ _ => True) (Thread.next labTier) {} (labSubmitted "yes" "no, do not deploy") := by decide
  obtain ⟨final, ends, split⟩ := Option.map_eq_some_iff.mp logged
  have run := played_run _ (Thread.next labTier) _ _ final played ends
  have authorized := confirmed _ final run labDeclinedTrail _ [] split _ _ rfl
  obtain ⟨intent, _, _, leads, _⟩ := authorized.confirmed
  obtain ⟨reply, agreed, inside⟩ := confirmed_reply labTier labDeclinedTrail intent leads
  have only : reply = "no, do not deploy" := by
    have listed : sinceStart labDeclinedTrail = labDeclinedTrail.tail := by decide
    rw [listed] at inside
    simpa [labDeclinedTrail] using inside
  subst only
  exact agreed.2 (by decide)

end AgenticNetops.Supervisor
