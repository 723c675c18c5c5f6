import AgenticNetops.Schemas.NormalizedIntent
import AgenticNetops.Supervisor.Words

set_option autoImplicit false

/- agents/supervisors/provisioning/graph/graph.py: the state of a thread, and what the
   nodes share. The operator-facing messages are left out, except the questions. -/
namespace AgenticNetops.Supervisor

open GoText Schemas

-- NetworkProvisioningStatus
inductive Status where
  | receivedRequest
  | validated
  | mapped
  | allocated
  | approved
  | provisioning
  | configured
  | verified
  | completed
  | failed
  | statusUnknown
deriving DecidableEq, Repr

def Status.value : Status → String
  | .receivedRequest => "RECEIVED_REQUEST"
  | .validated => "VALIDATED"
  | .mapped => "MAPPED"
  | .allocated => "ALLOCATED"
  | .approved => "APPROVED"
  | .provisioning => "PROVISIONING"
  | .configured => "CONFIGURED"
  | .verified => "VERIFIED"
  | .completed => "COMPLETED"
  | .failed => "FAILED"
  | .statusUnknown => "STATUS_UNKNOWN"

inductive Node where
  | supervisor
  | mapper
  | allocator
  | deployer
  | reflection
  | generalInfo
deriving DecidableEq, Repr

inductive PendingAction where
  | confirm1
  | confirm2
  | confirmRemove
  | clarify
deriving DecidableEq, Repr

inductive Decided where
  | confirm
  | decline
deriving DecidableEq, Repr

structure Decision where
  decided : Decided
  principal : String
deriving DecidableEq, Repr

inductive Classification where
  | provisionable
  | informational
  | unsupported
deriving DecidableEq, Repr

inductive ToolAction where
  | status
  | remove
deriving DecidableEq, Repr

structure ResourceRef where
  kind : String
  name : String
deriving DecidableEq, Repr

inductive Convergence where
  | failed
  | timeout
  | ready
  | other
deriving DecidableEq, Repr

structure FailureReport where
  phase : String
  message : String
deriving DecidableEq, Repr

/- What the deployer's payload carries under the keys the supervisor looks at. `status`
   is a report with its phase when the value is an object; `submitted` holds no list
   when one of its items is not a resource reference. -/
structure DeployerPayload where
  status : Option (Option String) := none
  removed : Bool := false
  failed : Option FailureReport := none
  submitted : Option (Option (List ResourceRef)) := none
  convergence : List Convergence := []
deriving DecidableEq, Repr

/- GraphState. The texts that are sent on (`mappedParameters`, `allocatedResources`,
   `toolRequest`) are the canonical JSON the source keeps; of `messages` the last one of
   the operator is kept. -/
structure GraphState where
  userMessage : Option String := none
  iterationCount : Nat := 0
  awaitingConfirmation : Bool := false
  mappedParameters : Option String := none
  allocatedResources : Option String := none
  missingFields : Option (List String) := none
  pendingAction : Option PendingAction := none
  correlationID : String := ""
  workflowStatus : Status := .receivedRequest
  principal : String := "operator"
  confirmation1 : Option Decision := none
  confirmation2 : Option Decision := none
  refusalReason : Option String := none
  suggestion : Option String := none
  classification : Option Classification := none
  toolAction : Option ToolAction := none
  toolRequest : Option String := none
  toolResult : Option DeployerPayload := none
  convergence : Option (List Convergence) := none
  submittedResources : Option (List ResourceRef) := none
  submittedCorrelationID : Option String := none
deriving DecidableEq, Repr

structure DetectionHit where
  reason : String
  suggestion : String
deriving DecidableEq, Repr

-- The documents whose canonical JSON is kept or sent. `blanked` names the fields set to null.
inductive Document where
  | interpretation (interp : Interpretation) (blanked : List String)
  | intent (intent : NormalizedServiceIntent)
  | toolRequest (action : ToolAction) (serviceID correlationID : Option String)
deriving DecidableEq, Repr

/- What a thread runs under: the text detectors, the credential redaction, the JSON
   encoding and decoding of the documents, and the intent's own validation. -/
structure Tier where
  threadID : String
  findConstructs : String → List String
  deploymentStatusQuery : String → Bool
  provisioningRequest : String → Bool
  directDevice : String → Option DetectionHit
  unsupportedFeature : String → Option DetectionHit
  fallbackClassification : String → Option Classification
  providerUnavailable : String
  namesSRv6 : String → Bool
  redact : String → String
  canonicalJSON : Document → String
  encoded : ∀ document, canonicalJSON document ≠ ""
  readInterpretation : String → Except String Interpretation
  readIntent : String → Except String NormalizedServiceIntent
  serviceIDIn : String → Option String
  withCorrelation : String → String → String
  envelope : String → String → String → String → String
  validateAllOrNothing : NormalizedServiceIntent → Option String

-- How the classifier call ends: a reply parsed against the enum, or an exception.
inductive ClassifierAnswer where
  | reply (classification : Option Classification)
  | failed
deriving DecidableEq, Repr

/- How a worker call ends: WorkerUnavailableError out of the call, the same error out of
   reading an A2A error reply (which ends the turn), or a payload. -/
inductive Reply (α : Type) where
  | unavailable
  | errorReply
  | payload (value : α)
deriving DecidableEq, Repr

-- What the surroundings answer while one node runs.
structure Answers where
  deadlineExceeded : Bool := false
  classifier : ClassifierAnswer := .reply none
  srv6Available : Bool := true
  srv6GuardRefusal : Interpretation → Option String := fun _ => none
  mapper : Reply (Except String Interpretation) := .unavailable
  allocator : Reply (Except String NormalizedServiceIntent) := .unavailable
  deployer : Reply (Option DeployerPayload) := .unavailable
  nonce : String := ""

/- What a run of the nodes leaves behind for an observer: the questions put, the replies
   taken, what was sent to the allocator and the deployer, and the refusals. What is
   sent is given before and after redaction. -/
inductive Event where
  | started
  | askedInterpretation (mapped : String)
  | askedDeployment (intent : String)
  | askedRemoval (request : String)
  | confirmed (question : PendingAction) (reply : String)
  | declined (question : PendingAction) (reply : String)
  | sentInterpretation (request sent : String)
  | allocated (intent : String)
  | sentEnvelope (request sent : String)
  | sentToolRequest (request sent : String)
  | refused (reason : String)
deriving DecidableEq, Repr

structure Outcome where
  state : GraphState
  next : Option Node
  events : List Event := []
deriving DecidableEq, Repr

def maxIterations : Nat := 3

def supportedConstructs : String := "vlan, mac-vrf, ip-vrf, acl"

def defaultSuggestion : String :=
  "provision it declaratively instead — e.g. 'extend vlan 100 as a mac-vrf across <siteA> <portA> and <siteB> <portB> " ++
  "for tenant <tenant>' or 'give tenant <tenant> an ip-vrf carrying 10.50.0.0/24 on <siteA> wan1'. I will map it into an " ++
  "interpretation, allocate from the allocation authority, and submit it to the cluster only after your two explicit " ++
  "confirmations."

def fail (state : GraphState) (reason suggestion : String) : GraphState :=
  { state with
    workflowStatus := .failed
    refusalReason := some reason
    suggestion := some suggestion
    awaitingConfirmation := false
    pendingAction := none }

def refuse (state : GraphState) (reason suggestion : String) : Outcome :=
  { state := fail state reason suggestion, next := none, events := [.refused reason] }

def rejectOutOfContract (state : GraphState) (stage error : String) : Outcome :=
  refuse state (stage ++ " payload out of contract: " ++ error) defaultSuggestion

def boundedExit (state : GraphState) (why : String) : Outcome :=
  refuse state ("request bound reached (" ++ why ++ "); no further action taken") defaultSuggestion

def iterationBound : String := "iteration bound " ++ toString maxIterations ++ " reached"

-- `_start_provisioning`: a clean transaction on a new or a reused thread.
def startProvisioning (state : GraphState) : Outcome where
  state := { state with
    classification := some .provisionable
    workflowStatus := .receivedRequest
    toolAction := none
    toolRequest := none
    toolResult := none
    awaitingConfirmation := false
    pendingAction := none
    mappedParameters := none
    missingFields := none
    allocatedResources := none
    submittedResources := none
    submittedCorrelationID := none
    convergence := none
    confirmation1 := none
    confirmation2 := none
    refusalReason := none
    suggestion := none }
  next := some .mapper
  events := [.started]

end AgenticNetops.Supervisor
