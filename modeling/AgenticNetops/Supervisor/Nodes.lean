import AgenticNetops.Supervisor.State

set_option autoImplicit false

/- The nodes of the provisioning graph and the edges between them. -/
namespace AgenticNetops.Supervisor

open GoText Schemas

variable (tier : Tier)

def classifyAndRoute (state : GraphState) (content : String) (answers : Answers) : Outcome :=
  match answers.classifier with
  | .failed =>
      match tier.fallbackClassification content with
      | some .provisionable => startProvisioning state
      | some .informational =>
          { state := { state with classification := some .informational }, next := some .generalInfo }
      | _ =>
          { state := { state with
              classification := none
              workflowStatus := .failed
              refusalReason := some tier.providerUnavailable
              suggestion := some "Configure the llm-provider Secret and retry the request." }
            next := none
            events := [.refused tier.providerUnavailable] }
  | .reply (some .provisionable) => startProvisioning state
  | .reply (some .informational) =>
      { state := { state with classification := some .informational }, next := some .generalInfo }
  | .reply (some .unsupported) =>
      refuse state ("the request is outside the declarative service contract; supported constructs are: " ++
        supportedConstructs ++ ", each provisioned declaratively and only after the two explicit confirmations")
        defaultSuggestion
  | .reply none => { state := { state with classification := none }, next := some .generalInfo }

-- Neither absent nor empty.
def present : Option String → Option String
  | some "" => none
  | text => text

def askStatus (state : GraphState) (request : Document) : Outcome :=
  { state := { state with toolAction := some .status, toolRequest := some (tier.canonicalJSON request) }
    next := some .deployer }

def askRemoval (state : GraphState) (request : Document) : Outcome :=
  { state := { state with
      toolAction := some .remove
      toolRequest := some (tier.canonicalJSON request)
      awaitingConfirmation := true
      pendingAction := some .confirmRemove }
    next := none
    events := [.askedRemoval (tier.canonicalJSON request)] }

-- The submission that a question about the deployment is answered from.
def submissionAsked (state : GraphState) (content : String) : Option String :=
  if state.submittedResources.isSome ∧ tier.deploymentStatusQuery content ∧ ¬ tier.provisioningRequest content then
    present state.submittedCorrelationID
  else none

/- The routes that look at the text alone, in front of the confirmation handling: two
   constructs, a question about the submitted deployment, a status query, a removal. -/
def textRoute (state : GraphState) (content : String) : Option Outcome :=
  let constructs := tier.findConstructs content
  if 2 ≤ constructs.length then
    some (refuse state ("one construct per request; you named: " ++ join (sortStrings constructs) ", " ++
      ". Supported constructs: " ++ supportedConstructs) defaultSuggestion)
  else
    match submissionAsked tier state content with
    | some submittedBy =>
        let serviceID := (present state.allocatedResources).bind tier.serviceIDIn
        some (askStatus tier state (.toolRequest .status serviceID (some submittedBy)))
    | none =>
        match statusOf content with
        | some serviceID => some (askStatus tier state (.toolRequest .status (some serviceID) none))
        | none =>
            match removeService content with
            | some serviceID => some (askRemoval tier state (.toolRequest .remove (some serviceID) none))
            | none =>
                (removeCorrelation content).map fun correlationID =>
                  askRemoval tier state (.toolRequest .remove none (some correlationID))

def confirmationName : PendingAction → String
  | .confirm1 => "confirmation_1"
  | _ => "confirmation_2"

-- The reply is taken as a confirmation of the pending question.
def confirmPending (state : GraphState) (pending : PendingAction) (reply : String) : Outcome :=
  let decision : Decision := ⟨.confirm, state.principal⟩
  let settled := { state with awaitingConfirmation := false, pendingAction := none }
  match pending with
  | .confirm1 =>
      { state := { settled with confirmation1 := some decision }
        next := some .allocator
        events := [.confirmed pending reply] }
  | .confirm2 =>
      { state := { settled with confirmation2 := some decision, workflowStatus := .approved }
        next := some .deployer
        events := [.confirmed pending reply] }
  | _ => { state := settled, next := some .deployer, events := [.confirmed pending reply] }

def declinePending (state : GraphState) (pending : PendingAction) (reply : String) : Outcome :=
  let decision : Decision := ⟨.decline, state.principal⟩
  match pending with
  | .confirmRemove =>
      { state := fail state "remove-service declined by operator" defaultSuggestion
        next := none
        events := [.declined pending reply] }
  | _ =>
      { state := { fail state (confirmationName pending ++ " declined by operator") defaultSuggestion with
          confirmation1 := if pending = .confirm1 then some decision else state.confirmation1
          confirmation2 := if pending = .confirm2 then some decision else state.confirmation2 }
        next := none
        events := [.declined pending reply] }

-- Confirming words are looked for first; a reply with neither is asked again.
def answerPending (state : GraphState) (pending : PendingAction) (reply : String) : Outcome :=
  if takenAsConfirm reply then confirmPending state pending reply
  else if takenAsDecline reply then declinePending state pending reply
  else { state := { state with awaitingConfirmation := true }, next := none }

-- The question that a reply would settle.
def openQuestion (state : GraphState) : Option PendingAction :=
  if state.awaitingConfirmation then
    match state.pendingAction with
    | some .confirm1 => some .confirm1
    | some .confirm2 => some .confirm2
    | some .confirmRemove => some .confirmRemove
    | _ => none
  else none

-- The safety layer and the classifier, for a text that answers no question.
def requestRoute (state : GraphState) (content : String) (answers : Answers) : Outcome :=
  if state.awaitingConfirmation ∧ state.pendingAction = some .clarify then
    let routed := classifyAndRoute tier state content answers
    { routed with state := { routed.state with awaitingConfirmation := false, pendingAction := none } }
  else
    match tier.directDevice content with
    | some hit => refuse state hit.reason hit.suggestion
    | none =>
        match tier.unsupportedFeature content with
        | some hit => refuse state hit.reason hit.suggestion
        | none =>
            if tier.provisioningRequest content ∧ tier.deploymentStatusQuery content then startProvisioning state
            else classifyAndRoute tier state content answers

def supervisorNode (state : GraphState) (answers : Answers) : Outcome :=
  if answers.deadlineExceeded then boundedExit state "wall-clock deadline exceeded"
  else if ¬ state.awaitingConfirmation ∧ maxIterations ≤ state.iterationCount then boundedExit state iterationBound
  else
    match state.userMessage with
    | none => { state, next := some .generalInfo }
    | some content =>
        match textRoute tier state content with
        | some routed => routed
        | none =>
            match openQuestion state with
            | some pending => answerPending state pending content
            | none => requestRoute tier state content answers

-- The edge behind the mapper and the allocator.
def failedOrReflection (state : GraphState) : Option Node :=
  if state.workflowStatus = .failed then none else some .reflection

def srv6TransportConflict : String := "srv6TransportConflict"
def srv6UnsupportedConstruct : String := "srv6UnsupportedConstruct"

def unsupportedReason (properties : List String) : String :=
  if srv6TransportConflict ∈ properties then
    "The request names both SRv6 and VXLAN. A service uses one transport; say which."
  else if srv6UnsupportedConstruct ∈ properties then
    "SRv6 applies to ip-vrf and mac-vrf. A vlan or an acl has no transport."
  else "unsupported properties: " ++ join properties ", " ++ " (no equivalent in the fabric)"

-- A complete, valid interpretation is put to the operator; anything else ends the turn.
def mappedInterpretation (state : GraphState) (interp : Interpretation) (answers : Answers) : Outcome :=
  if interp.unsupportedProperties ≠ [] then
    refuse state (unsupportedReason interp.unsupportedProperties) defaultSuggestion
  else if interp.missingFields ≠ [] then
    { state := { state with
        workflowStatus := .mapped
        mappedParameters := some (tier.canonicalJSON (.interpretation interp interp.missingFields))
        missingFields := some interp.missingFields
        awaitingConfirmation := true
        pendingAction := some .clarify }
      next := some .reflection }
  else
    match (if interp.transport = some .srv6 then answers.srv6GuardRefusal interp else none) with
    | some reason => refuse state reason defaultSuggestion
    | none =>
        { state := { state with
            workflowStatus := .mapped
            mappedParameters := some (tier.canonicalJSON (.interpretation interp []))
            awaitingConfirmation := true
            pendingAction := some .confirm1 }
          next := some .reflection }

def mapperNode (state : GraphState) (answers : Answers) : Outcome :=
  match state.userMessage with
  | none => rejectOutOfContract state "mapper" "no user message to map"
  | some content =>
      if tier.namesSRv6 content ∧ ¬ answers.srv6Available then
        refuse state "SRv6 is not available on this lab profile: the capability has not been proven here."
          defaultSuggestion
      else
        match answers.mapper with
        | .unavailable => { state, next := failedOrReflection state }
        | .errorReply => { state, next := none }
        | .payload (.error error) => rejectOutOfContract state "mapper" error
        | .payload (.ok interp) => mappedInterpretation tier state interp answers

-- `validate_allocator_payload`, of a payload that the schema accepts.
def validateAllocatorPayload (intent : NormalizedServiceIntent) (interp : Interpretation) : Option String :=
  match tier.validateAllOrNothing intent with
  | some causes => some causes
  | none =>
      if intent.type = interp.serviceType.value then none
      else some ("type mismatch between stages: interpretation service_type=" ++ interp.serviceType.value ++
        ", allocator returned type='" ++ intent.type ++ "' (data-model.md §3 contract violation)")

-- The interpretation as it is sent, under the thread's correlation id.
def correlatedInterpretation (state : GraphState) (mapped : String) : String :=
  if state.correlationID = "" then mapped else tier.withCorrelation mapped state.correlationID

def allocatorNode (state : GraphState) (answers : Answers) : Outcome :=
  match present state.mappedParameters with
  | none => rejectOutOfContract state "allocator" "no interpretation available to allocate"
  | some mapped =>
      match tier.readInterpretation mapped with
      | .error error => rejectOutOfContract state "allocator" ("stored interpretation invalid: " ++ error)
      | .ok interp =>
          let request := correlatedInterpretation tier state mapped
          let sent : Event := .sentInterpretation request (tier.redact request)
          let rejected (error : String) : Outcome :=
            let outcome := rejectOutOfContract state "allocator" error
            { outcome with events := sent :: outcome.events }
          match answers.allocator with
          | .unavailable => { state, next := failedOrReflection state, events := [sent] }
          | .errorReply => { state, next := none, events := [sent] }
          | .payload (.error error) => rejected error
          | .payload (.ok intent) =>
              match validateAllocatorPayload tier intent interp with
              | some error => rejected error
              | none =>
                  let text := tier.canonicalJSON (.intent intent)
                  { state := { state with
                      workflowStatus := .allocated
                      allocatedResources := some text
                      awaitingConfirmation := true
                      pendingAction := some .confirm2 }
                    next := some .reflection
                    events := [sent, .allocated text] }

-- `_STATUS_PHASE_TO_WORKFLOW`
def phaseStatus : String → Option Status
  | "Deployed" => some .completed
  | "Failed" => some .failed
  | "Converging" => some .provisioning
  | "NotFound" => some .failed
  | _ => none

-- The tool path: the request is whatever the thread holds.
def deployerTools (state : GraphState) (action : ToolAction) (answers : Answers) : Outcome :=
  let request := (present state.toolRequest).getD "\x7b\x7d"
  let sent : Event := .sentToolRequest request (tier.redact request)
  let noContract : Outcome :=
    let outcome := rejectOutOfContract state "deployer" "no contract tools report"
    { outcome with events := sent :: outcome.events }
  match answers.deployer with
  | .unavailable => { state, next := none, events := [sent] }
  | .errorReply => { state, next := none, events := [sent] }
  | .payload none => noContract
  | .payload (some payload) =>
      if payload.status.isNone ∧ ¬ payload.removed then noContract
      else
        let reported := { state with toolAction := some action, toolResult := some payload }
        let resolved :=
          match action, payload.status with
          | .status, some (some phase) =>
              match phaseStatus phase with
              | some .failed =>
                  { reported with
                    workflowStatus := .failed
                    refusalReason := some "deployer resolved the deployment status"
                    suggestion := some defaultSuggestion }
              | some status => { reported with workflowStatus := status }
              | none => reported
          | _, _ => reported
        { state := resolved, next := none, events := [sent] }

-- The submission preconditions, by the refusal that names them.
inductive Precondition where
  | approved (status : Status)
  | confirmed (decided : Option Decided)
  | allocated
  | valid (error : String)
deriving DecidableEq, Repr

def decidedText : Option Decided → String
  | none => "None"
  | some .confirm => "confirm"
  | some .decline => "decline"

def Precondition.reason : Precondition → String
  | .approved status => "submission precondition failed: workflow_status is '" ++ status.value ++
      "', not APPROVED — nothing can be submitted"
  | .confirmed decided => "submission precondition failed: confirmation_2.decided is '" ++ decidedText decided ++
      "', not 'confirm' — nothing can be submitted"
  | .allocated => "submission precondition failed: no allocated normalized intent to submit"
  | .valid error => "submission precondition failed: the allocated intent is not a valid normalized service intent (" ++
      error ++ ")"

def preconditions (state : GraphState) : Except Precondition String :=
  if state.workflowStatus ≠ .approved then .error (.approved state.workflowStatus)
  else if state.confirmation2.map Decision.decided ≠ some .confirm then
    .error (.confirmed (state.confirmation2.map Decision.decided))
  else
    match present state.allocatedResources with
    | none => .error .allocated
    | some text =>
        match tier.readIntent text with
        | .error error => .error (.valid error)
        | .ok _ => .ok text

-- What the report of a submission makes of the thread.
def submissionReport (state : GraphState) (correlationID : String) (payload : DeployerPayload) : GraphState :=
  match payload.failed, payload.submitted with
  | some failure, _ => fail state ("deployer transaction failure during " ++ failure.phase ++ ": " ++ failure.message)
      defaultSuggestion
  | none, some (some resources) =>
      let carried := { state with
        submittedResources := some resources
        submittedCorrelationID := some correlationID
        convergence := some payload.convergence }
      if .failed ∈ payload.convergence then
        { carried with
          workflowStatus := .failed
          refusalReason := some "deployer submitted but convergence failed"
          suggestion := some ("Inspect the resource's Ready condition, correct the intent, and submit a fresh request; " ++
            "the submitted objects were not rolled back.") }
      else if .ready ∈ payload.convergence ∧ .timeout ∉ payload.convergence then
        { carried with workflowStatus := .completed, awaitingConfirmation := false, pendingAction := none }
      else { carried with workflowStatus := .provisioning }
  | none, some none => (rejectOutOfContract state "deployer" "submission report resources invalid").state
  | none, none => (rejectOutOfContract state "deployer"
      "no contract submission report; nothing was submitted").state

-- The submit envelope, with its trace id, thread and principal.
def submittedEnvelope (state : GraphState) (answers : Answers) (intent : String) : String :=
  let correlationID := if state.correlationID = "" then answers.nonce else state.correlationID
  tier.envelope intent correlationID tier.threadID (if state.principal = "" then "operator" else state.principal)

def deployerNode (state : GraphState) (answers : Answers) : Outcome :=
  match state.toolAction with
  | some action => deployerTools tier state action answers
  | none =>
      match preconditions tier state with
      | .error precondition => refuse state precondition.reason defaultSuggestion
      | .ok intent =>
          let correlationID := if state.correlationID = "" then answers.nonce else state.correlationID
          let request := submittedEnvelope tier state answers intent
          let sent : Event := .sentEnvelope request (tier.redact request)
          match answers.deployer with
          | .unavailable => { state, next := none, events := [sent] }
          | .errorReply => { state, next := none, events := [sent] }
          | .payload none =>
              { state := submissionReport state correlationID {}, next := none, events := [sent] }
          | .payload (some payload) =>
              { state := submissionReport state correlationID payload, next := none, events := [sent] }

def generalResponseNode (state : GraphState) : Outcome where
  state :=
    if state.workflowStatus ∈ [.failed, .provisioning, .mapped, .allocated, .approved] then state
    else { state with workflowStatus := .completed }
  next := none

-- The reflection with no question to put: the turn ends, or the supervisor looks again.
def onward (state : GraphState) (answers : Answers) : Outcome :=
  if state.workflowStatus = .failed ∨ state.workflowStatus = .completed then { state, next := none }
  else if answers.deadlineExceeded then boundedExit state "wall-clock deadline exceeded"
  else if maxIterations ≤ state.iterationCount then boundedExit state iterationBound
  else { state := { state with iterationCount := state.iterationCount + 1 }, next := some .supervisor }

def reflectionNode (state : GraphState) (answers : Answers) : Outcome :=
  if state.awaitingConfirmation then
    match state.pendingAction with
    | some .confirm1 =>
        { state, next := none, events := [.askedInterpretation (state.mappedParameters.getD "")] }
    | some .confirm2 =>
        { state, next := none, events := [.askedDeployment (state.allocatedResources.getD "")] }
    | some .clarify => { state, next := none }
    | _ => onward state answers
  else onward state answers

def runNode (node : Node) (state : GraphState) (answers : Answers) : Outcome :=
  match node with
  | .supervisor => supervisorNode tier state answers
  | .mapper => mapperNode tier state answers
  | .allocator => allocatorNode tier state answers
  | .deployer => deployerNode tier state answers
  | .reflection => reflectionNode state answers
  | .generalInfo => generalResponseNode state

end AgenticNetops.Supervisor
