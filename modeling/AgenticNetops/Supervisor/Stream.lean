import AgenticNetops.Lib.Json
import AgenticNetops.Lib.PyText
import AgenticNetops.Lib.Traces

set_option autoImplicit false

/- agents/supervisors/provisioning/main.py: the NDJSON stream of one chat request, over the
   updates that the graph gives, and the protocol that a client may count on. -/
namespace AgenticNetops.Supervisor.Stream

open GoText JsonValue Exits Traces

/- What a node has returned. The keys that go into the accumulated state are told apart
   from their value: a key that is there overrides, with None too. -/
structure NodeState where
  messages : List (Option String) := []
  workflowStatus : Option (Option String) := none
  refusalReason : Option (Option String) := none
  suggestion : Option (Option String) := none
  pendingAction : Option String := none
  missingFields : List String := []
  mappedParameters : Option String := none
  allocatedResources : Option String := none
  toolResult : Option String := none
  toolAction : Option String := none
  convergence : Option String := none
  submittedResources : Option String := none
deriving DecidableEq, Repr

-- A node without a state of its own comes as None, and cannot be merged.
abbrev Update := List (String × Option NodeState)

inductive Stage where
  | mapper
  | allocator
deriving DecidableEq, Repr

def Stage.settled : Stage → String
  | .mapper => "MAPPED"
  | .allocator => "ALLOCATED"

inductive Chunk where
  | status (status threadID : String)
  | stage (stage : Stage) (status : Option String) (payload : Json)
  | confirmationRequest (stage : Stage) (prompt : String)
  | clarificationRequest (status : Option String) (missingFields : List String) (prompt : String)
  | tools (status : Option String) (tool : String) (result : Json)
  | deployed (status : Option String) (payload : Option (Json × Json))
  | progress (status : Option String) (message : String) (details : Json)
  | removalRequest (prompt : String)
  | final (status : Option String) (message : Option String)
  | error (stage : String) (status reason : String) (suggestion : Option String)
deriving DecidableEq, Repr

def failed : String := "FAILED"

section Texts

def clarificationHint : String :=
  " Constructs: vlan (local broadcast domain), mac-vrf (L2VNI over EVPN), ip-vrf (routed instance with L3VNI), " ++
  "acl (filter bound to service ports) — each between named attachment points for one tenant. Example: 'Extend vlan 100 " ++
  "as a mac-vrf across leaf01 ethernet2 and leaf02 ethernet2 for tenant acme'."

def clarificationPrompt (missingFields : List String) : String :=
  let fields := if join missingFields ", " = "" then "required service fields" else join missingFields ", "
  "Before I can map this service I need: " ++ fields ++ ". Please restate the full request including those values " ++
    "(no defaults are substituted for service-defining fields)." ++ clarificationHint

def Stage.prompt : Stage → String
  | .mapper => "Confirm this interpretation? Reply 'confirm' to proceed to allocation, or 'decline' to cancel."
  | .allocator => "Deploy this service? Reply 'confirm' to submit it to the cluster, or 'decline' to cancel."

def removalPrompt : String := "Remove this service? Reply 'confirm' to proceed or 'decline' to cancel."

def deployerOutcomes : List String := ["PROVISIONING", "COMPLETED", "FAILED"]

-- The stage that a refusal names.
def responsibleStage (reason : String) : String :=
  if hasPrefix reason "mapper payload out of contract" then "mapper"
  else if hasPrefix reason "allocator payload out of contract" then "allocator"
  else if hasPrefix reason "deployer payload out of contract" then "deployer"
  else if contains reason ": " then String.ofList (trimEnd (reason.toList.takeWhile fun c => c ≠ ' '))
  else "supervisor"
where
  trimEnd (name : List Char) : List Char := (name.reverse.dropWhile fun c => c = ':').reverse

end Texts

def truthy : Json → Bool
  | .null => false
  | .bool value => value
  | .num value => value ≠ 0
  | .str value => value ≠ ""
  | .arr items => items ≠ []
  | .obj fields => fields ≠ []

-- What the stream uses of Python and of the redaction.
structure Runtime where
  loads : String → Except String Json
  str : Json → String
  redact : String → String

-- The accumulated state, of what the end of the stream reads.
structure Acc where
  workflowStatus : Option String := some "RECEIVED_REQUEST"
  refusalReason : Option String := none
  suggestion : Option String := none
  finalMessage : String := ""
  suppressFinalMessage : Bool := false
deriving DecidableEq, Repr

abbrev StreamM (α : Type) := Prog (List Chunk) String α

variable (py : Runtime)

-- text or default, of a value that may be absent or empty.
def orText (text : Option String) (default : String) : String :=
  match text with
  | none | some "" => default
  | some value => value

section Nodes

def Acc.merged (acc : Acc) (node : NodeState) : Acc :=
  { acc with
    workflowStatus := node.workflowStatus.getD acc.workflowStatus
    refusalReason := node.refusalReason.getD acc.refusalReason
    suggestion := node.suggestion.getD acc.suggestion
    finalMessage := node.messages.foldl (fun last content =>
      match content with
      | some text => if PyText.strip text = "" then last else PyText.strip text
      | none => last) acc.finalMessage }

-- node_state.get("workflow_status") or last.get("workflow_status")
def statusOf (acc : Acc) (node : NodeState) : Option String :=
  match node.workflowStatus with
  | some (some "") | some none | none => acc.workflowStatus
  | some (some status) => some status

def loaded (text : Option String) (default : String) : StreamM Json :=
  match py.loads (orText text default) with
  | .ok json => pure json
  | .error reason => leave reason

-- A stage card and its question.
def card (stage : Stage) (status : Option String) (parameters : Option String) : StreamM Unit := do
  let payload ← loaded py parameters "\x7b\x7d"
  emit (.stage stage status payload)
  emit (.confirmationRequest stage stage.prompt)

def recovered (text : Option String) (default : String) (otherwise : Json) : Json :=
  match py.loads (orText text default) with
  | .ok json => json
  | .error _ => otherwise

def fieldText (fields : List (String × Json)) (name default : String) : String :=
  match fields.lookup name with
  | some value => if truthy value then py.str value else default
  | none => default

def verdictText (outcome : String) : String :=
  if outcome = "ready" then "converged"
  else if outcome = "failed" then "failed to converge"
  else if outcome = "timeout" then "still converging at the watch bound"
  else if outcome = "" then "observed"
  else outcome

-- An observation that is no dict is passed over.
def observed (status : Option String) : List Json → StreamM Unit
  | [] => pure ()
  | .obj fields :: rest => do
      let message := fieldText py fields "resource" "resource" ++ " " ++ verdictText (fieldText py fields "outcome" "")
      let detail := PyText.strip (fieldText py fields "detail" "")
      emit (.progress status (py.redact (if detail = "" then message else message ++ ": " ++ detail)) (.obj fields))
      observed status rest
  | _ :: rest => observed status rest

-- for observation in convergence
def iterated : Json → Except String (List Json)
  | .arr items => .ok items
  | .obj fields => .ok (fields.map fun field => .str field.1)
  | .str value => .ok (value.toList.map fun c => .str (String.singleton c))
  | .null => .error "'NoneType' object is not iterable"
  | .bool _ => .error "'bool' object is not iterable"
  | .num _ => .error "'int' object is not iterable"

def deployed (status : Option String) (node : NodeState) : StreamM Unit := do
  let convergence := recovered py node.convergence "[]" (.arr [])
  let submitted := recovered py node.submittedResources "[]" (.arr [])
  emit (.deployed status (if truthy submitted || truthy convergence then some (submitted, convergence) else none))
  match iterated convergence with
  | .error reason => leave reason
  | .ok observations => observed py status observations

/- One node of an update: what is accumulated behind it, and whether the loop over the
   update's nodes is left. -/
def handleNode (acc : Acc) (name : String) (node : NodeState) : StreamM (Acc × Bool) := do
  let acc := acc.merged node
  let status := statusOf acc node
  if name = "mapper" ∧ status = some Stage.mapper.settled then
    if node.pendingAction = some "clarify" then do
      emit (.clarificationRequest status node.missingFields (clarificationPrompt node.missingFields))
      return ({ acc with suppressFinalMessage := true }, false)
    else do
      card py .mapper status node.mappedParameters
      return ({ acc with suppressFinalMessage := true }, false)
  else if name = "allocator" ∧ status = some Stage.allocator.settled then do
    card py .allocator status node.allocatedResources
    return ({ acc with suppressFinalMessage := true }, false)
  else if name = "deployer" ∧ node.toolResult ≠ none ∧ node.toolResult ≠ some "" then do
    emit (.tools status (orText node.toolAction "") (recovered py node.toolResult "\x7b\x7d" (.obj [])))
    return (acc, false)
  else if name = "deployer" ∧ ∃ outcome ∈ deployerOutcomes, status = some outcome then do
    deployed py status node
    return (acc, false)
  else if name = "supervisor" ∧ node.pendingAction = some "confirm_remove" then do
    emit (.removalRequest removalPrompt)
    return (acc, false)
  else return (acc, decide (status = some failed))

def handleUpdate (acc : Acc) : Update → StreamM Acc
  | [] => pure acc
  | (_, none) :: _ => leave "'NoneType' object is not a mapping"
  | (name, some node) :: rest => do
      let (acc, left) ← handleNode py acc name node
      if left then return acc else handleUpdate acc rest

def handleUpdates (acc : Acc) : List Update → StreamM Acc
  | [] => pure acc
  | update :: rest => do
      let acc ← handleUpdate py acc update
      handleUpdates acc rest

end Nodes

section End

-- The last chunk of a stream that the graph has ended.
def conclusion (acc : Acc) : Chunk :=
  if acc.workflowStatus = some failed then
    let reason := orText acc.refusalReason "request failed"
    .error (responsibleStage reason) failed (py.redact reason) (some (py.redact (orText acc.suggestion "")))
  else
    .final acc.workflowStatus
      (if acc.finalMessage ≠ "" ∧ ¬ acc.suppressFinalMessage then some (py.redact acc.finalMessage) else none)

-- What the graph gives: its updates, and the exception that it ends with, if any.
structure GraphRun where
  updates : List Update
  raised : Option String := none

def body (run : GraphRun) : StreamM Unit := do
  let acc ← handleUpdates py {} run.updates
  match run.raised with
  | some reason => leave reason
  | none => emit (conclusion py acc)

def stream (threadID : String) (run : GraphRun) : List Chunk :=
  match body py run [.status "RECEIVED_REQUEST" threadID] with
  | (sent, .ok ()) => sent
  | (sent, .error reason) => sent ++ [.error "supervisor" failed (py.redact ("internal error: " ++ reason)) none]

end End

section Protocol

-- Where a client stands: `told` is that the text of the answer has already been shown.
inductive Client where
  | waiting
  | listening (told : Bool)
  | asked (stage : Stage)
  | reporting (told : Bool) (status : Option String)
  | done
deriving DecidableEq, Repr

-- What may come while no question is due.
def Client.hears (told : Bool) : Chunk → Option Client
  | .stage stage status _ => if status = some stage.settled then some (.asked stage) else none
  | .clarificationRequest status missing prompt =>
      if status = some Stage.mapper.settled ∧ prompt = clarificationPrompt missing then some (.listening true) else none
  | .tools _ _ _ => some (.listening told)
  | .deployed status _ => if ∃ outcome ∈ deployerOutcomes, status = some outcome then some (.reporting told status) else none
  | .removalRequest prompt => if prompt = removalPrompt then some (.listening told) else none
  | .final status message => if status ≠ some failed ∧ (told = true → message = none) then some .done else none
  | .error _ status _ _ => if status = failed then some .done else none
  | _ => none

/- The protocol: the request is received; then cards, each a stage and its question, and
   reports, each with the observations it goes with; last, one final or error chunk. -/
def Client.next : Client → Chunk → Option Client
  | .waiting, .status status _ => if status = "RECEIVED_REQUEST" then some (.listening false) else none
  | .listening told, chunk => Client.hears told chunk
  | .asked card, .confirmationRequest stage prompt =>
      if stage = card ∧ prompt = card.prompt then some (.listening true) else none
  | .reporting told status, .progress given _ _ => if given = status then some (.reporting told status) else none
  | .reporting told _, chunk => Client.hears told chunk
  | _, _ => none

-- A client that may be told anything: with or without observations to come.
def Client.Open (told : Bool) (client : Client) : Prop := client = .listening told ∨ ∃ status, client = .reporting told status

def Client.Somewhere (client : Client) : Prop := ∃ told, client.Open told

theorem open_hears (told : Bool) (client later : Client) (opened : client.Open told) (chunk : Chunk)
    (heard : Client.hears told chunk = some later) : client.next chunk = some later := by
  cases opened with
  | inl listening =>
      rw [listening]
      exact heard
  | inr reporting =>
      obtain ⟨status, here⟩ := reporting
      rw [here]
      cases chunk with
      | progress given message details => cases heard
      | _ => exact heard

end Protocol

section Following

abbrev Speaks {α : Type} (m : StreamM α) (told : Bool) (behind : α → Bool) : Prop :=
  Obeys Client.next (Client.Open told) m (fun value => Client.Open (behind value)) Client.Somewhere

theorem speaks_pure {α : Type} (value : α) (told : Bool) (behind : α → Bool) (same : behind value = told) :
    Speaks (pure value) told behind := by
  apply obeys_pure
  intro client opened
  rw [same]
  exact opened

theorem speaks_leave {α : Type} (reason : String) (told : Bool) (behind : α → Bool) :
    Speaks (leave reason : StreamM α) told behind :=
  obeys_leave _ _ _ _ reason fun _ opened => ⟨told, opened⟩

theorem speaks_bind {α β : Type} (m : StreamM α) (f : α → StreamM β) (told : Bool) (mid : α → Bool) (behind : β → Bool)
    (first : Speaks m told mid) (rest : ∀ value, Speaks (f value) (mid value) behind) : Speaks (m >>= f) told behind :=
  obeys_bind _ _ _ _ m f _ first rest

-- A chunk that changes nothing but, at most, what the client is to be told later.
theorem speaks_emit (chunk : Chunk) (told later : Bool) (client : Client) (opened : client.Open later)
    (heard : Client.hears told chunk = some client) : Speaks (emit chunk) told fun _ => later :=
  obeys_emit _ _ _ chunk _ fun given here => ⟨client, open_hears told given client here chunk heard, opened⟩

theorem speaks_loaded (text : Option String) (default : String) (told : Bool) :
    Speaks (loaded py text default) told fun _ => told := by
  rw [loaded]
  cases py.loads (orText text default) with
  | ok json => exact speaks_pure json told _ rfl
  | error reason => exact speaks_leave reason told _

theorem speaks_card (stage : Stage) (status parameters : Option String) (told : Bool)
    (settled : status = some stage.settled) : Speaks (card py stage status parameters) told fun _ => true := by
  apply speaks_bind _ _ _ (fun _ => told) _ (speaks_loaded py parameters "\x7b\x7d" told)
  intro payload
  apply obeys_bind _ _ _ (fun _ client => client = .asked stage)
  · apply obeys_emit
    intro client opened
    refine ⟨.asked stage, open_hears told client _ opened _ ?_, rfl⟩
    exact if_pos settled
  · intro value
    apply obeys_emit
    intro client asked
    refine ⟨.listening true, ?_, Or.inl rfl⟩
    rw [asked]
    exact if_pos ⟨rfl, rfl⟩

-- Observations only follow a report, and carry its status.
theorem observed_obeys (status : Option String) (observations : List Json) (told : Bool) :
    Obeys Client.next (fun client => client = .reporting told status) (observed py status observations)
      (fun _ client => client = .reporting told status) Client.Somewhere := by
  induction observations with
  | nil => exact obeys_pure _ _ _ _ () fun _ here => here
  | cons observation rest ih =>
      cases observation with
      | obj fields =>
          rw [observed]
          apply obeys_bind _ _ _ (fun _ client => client = .reporting told status)
          · apply obeys_emit
            intro client here
            refine ⟨.reporting told status, ?_, rfl⟩
            rw [here]
            exact if_pos rfl
          · intro value
            exact ih
      | _ => exact ih

theorem speaks_deployed (status : Option String) (node : NodeState) (told : Bool)
    (outcome : ∃ outcome ∈ deployerOutcomes, status = some outcome) :
    Speaks (deployed py status node) told fun _ => told := by
  rw [deployed]
  apply obeys_bind _ _ _ (fun _ client => client = .reporting told status)
  · apply obeys_emit
    intro client opened
    refine ⟨.reporting told status, open_hears told client _ opened _ ?_, rfl⟩
    exact if_pos outcome
  · intro value
    cases iterated (recovered py node.convergence "[]" (.arr [])) with
    | error reason => exact obeys_leave _ _ _ _ reason fun client here => ⟨told, Or.inr ⟨status, here⟩⟩
    | ok observations =>
        apply obeys_weaken _ _ _ _ _ _ _ _ (observed_obeys py status observations told) (fun _ here => here)
        · intro value client here
          exact Or.inr ⟨status, here⟩
        · intro client here
          exact here

theorem speaks_then {α : Type} (m : StreamM Unit) (value : α) (told later : Bool) (behind : α → Bool)
    (first : Speaks m told fun _ => later) (same : behind value = later) :
    Speaks (do m; return value) told behind :=
  speaks_bind m _ told _ behind first fun _ => speaks_pure value later behind same

theorem speaks_handleNode (acc : Acc) (name : String) (node : NodeState) :
    Speaks (handleNode py acc name node) acc.suppressFinalMessage fun out => out.1.suppressFinalMessage := by
  rw [handleNode]
  apply obeys_ite
  · intro mapped
    apply obeys_ite
    · intro clarify
      apply speaks_then _ _ _ true _ _ rfl
      exact speaks_emit _ _ true (.listening true) (Or.inl rfl) (if_pos ⟨mapped.2, rfl⟩)
    · intro complete
      exact speaks_then _ _ _ true _ (speaks_card py .mapper _ node.mappedParameters _ mapped.2) rfl
  · intro notMapped
    apply obeys_ite
    · intro allocated
      exact speaks_then _ _ _ true _ (speaks_card py .allocator _ node.allocatedResources _ allocated.2) rfl
    · intro notAllocated
      apply obeys_ite
      · intro tools
        refine speaks_then _ _ _ _ _ ?_ rfl
        exact speaks_emit _ _ _ _ (Or.inl rfl) rfl
      · intro noTools
        apply obeys_ite
        · intro outcome
          exact speaks_then _ _ _ _ _ (speaks_deployed py _ node _ outcome.2) rfl
        · intro noOutcome
          apply obeys_ite
          · intro removal
            refine speaks_then _ _ _ _ _ ?_ rfl
            apply speaks_emit _ _ _ (.listening acc.suppressFinalMessage) (Or.inl rfl)
            rw [Client.hears, if_pos rfl]
          · intro other
            exact speaks_pure _ _ _ rfl

theorem speaks_handleUpdate (acc : Acc) (update : Update) :
    Speaks (handleUpdate py acc update) acc.suppressFinalMessage Acc.suppressFinalMessage := by
  induction update generalizing acc with
  | nil => exact speaks_pure acc _ _ rfl
  | cons entry rest ih =>
      obtain ⟨name, node⟩ := entry
      cases node with
      | none => exact speaks_leave _ _ _
      | some node =>
          rw [handleUpdate]
          apply speaks_bind _ _ _ _ _ (speaks_handleNode py acc name node)
          intro out
          apply obeys_ite
          · intro left
            exact speaks_pure out.1 _ _ rfl
          · intro onward
            exact ih out.1

theorem speaks_handleUpdates (acc : Acc) (updates : List Update) :
    Speaks (handleUpdates py acc updates) acc.suppressFinalMessage Acc.suppressFinalMessage := by
  induction updates generalizing acc with
  | nil => exact speaks_pure acc _ _ rfl
  | cons update rest ih =>
      rw [handleUpdates]
      exact speaks_bind _ _ _ _ _ (speaks_handleUpdate py acc update) ih

-- What ends the stream is heard by a client that knows whether the text was shown.
theorem conclusion_heard (acc : Acc) : Client.hears acc.suppressFinalMessage (conclusion py acc) = some .done := by
  rw [conclusion]
  by_cases refused : acc.workflowStatus = some failed
  · rw [if_pos refused, Client.hears, if_pos rfl]
  · rw [if_neg refused]
    apply if_pos
    refine ⟨refused, ?_⟩
    intro told
    rw [if_neg]
    intro repeated
    exact repeated.2 told

theorem body_obeys (run : GraphRun) :
    Obeys Client.next (Client.Open false) (body py run) (fun _ client => client = .done) Client.Somewhere := by
  rw [body]
  apply obeys_bind _ _ _ (fun acc => Client.Open acc.suppressFinalMessage)
  · exact speaks_handleUpdates py {} run.updates
  · intro acc
    cases run.raised with
    | some reason => exact speaks_leave reason _ fun _ => true
    | none =>
        apply obeys_emit
        intro client opened
        exact ⟨.done, open_hears _ client _ opened _ (conclusion_heard py acc), rfl⟩

/- Whatever the graph gives, and however it ends, the stream of a request follows the
   protocol to its end: one last chunk, a final or an error. -/
theorem stream_follows (threadID : String) (run : GraphRun) :
    followed Client.next (stream py threadID run) .waiting = some .done := by
  have opened : Client.next .waiting (.status "RECEIVED_REQUEST" threadID) = some (.listening false) := by
    rw [Client.next, if_pos rfl]
  have onward : ∀ chunks, followed Client.next (.status "RECEIVED_REQUEST" threadID :: chunks) .waiting =
      followed Client.next chunks (.listening false) := by
    intro chunks
    rw [followed, List.foldlM_cons, opened]
    rfl
  obtain ⟨more, sent, ended⟩ := body_obeys py run (.listening false) (Or.inl rfl) [.status "RECEIVED_REQUEST" threadID]
  rw [stream]
  cases outcome : body py run [.status "RECEIVED_REQUEST" threadID] with
  | mk chunks result =>
      rw [outcome] at sent ended
      have added : chunks = .status "RECEIVED_REQUEST" threadID :: more := sent
      cases result with
      | ok _ =>
          obtain ⟨client, told, done⟩ := ended
          rw [added]
          exact (onward more).trans (told.trans (congrArg some done))
      | error reason =>
          obtain ⟨client, told, listening, somewhere⟩ := ended
          rw [added]
          refine (onward (more ++ [_])).trans ?_
          have heard : ∀ text, Client.hears listening (.error "supervisor" failed text none) = some .done := by
            intro text
            rw [Client.hears, if_pos rfl]
          rw [followed_append, told, Option.bind_some, followed, List.foldlM_cons,
            open_hears listening client .done somewhere _ (heard _)]
          rfl

end Following

end AgenticNetops.Supervisor.Stream
