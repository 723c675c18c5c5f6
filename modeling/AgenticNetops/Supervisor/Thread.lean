import AgenticNetops.Lib.EventLog
import AgenticNetops.Lib.Runs
import AgenticNetops.Supervisor.Nodes

set_option autoImplicit false

/- A thread over its turns: the checkpointed state, the node that runs next while a turn
   is under way, and the log of what its nodes did. -/
namespace AgenticNetops.Supervisor

open Runs Schemas

structure Thread where
  state : GraphState := {}
  node : Option Node := none
  log : List Event := []
deriving DecidableEq, Repr

-- A chat request. `remembered`: the checkpointed correlation id could be read.
structure Message where
  prompt : String
  principal : String := ""
  freshID : String := ""
  remembered : Bool := true
deriving DecidableEq, Repr

inductive Input where
  | message (message : Message)
  | run (answers : Answers)

-- The stream's seed, merged into the checkpointed state.
def seeded (state : GraphState) (message : Message) : GraphState :=
  let known := if message.remembered then state.correlationID else ""
  { state with
    userMessage := some message.prompt
    correlationID := if known = "" then message.freshID else known
    principal := if message.principal = "" then "operator" else message.principal
    workflowStatus := .receivedRequest }

def Event.starts : Event → Bool
  | .started => true
  | _ => false

-- What has happened since the last start of a provisioning request.
def sinceStart (log : List Event) : List Event := EventLog.since Event.starts log

section Turns
variable (tier : Tier)

-- A message starts a turn at the supervisor; a turn ends where no node is next.
def Thread.next (thread : Thread) : Input → Option Thread
  | .message message =>
      match thread.node with
      | none => some { thread with state := seeded thread.state message, node := some .supervisor }
      | some _ => none
  | .run answers =>
      thread.node.map fun node =>
        let outcome := runNode tier node thread.state answers
        { state := outcome.state, node := outcome.next, log := thread.log ++ outcome.events }

def Thread.Step (thread : Thread) (input : Input) (after : Thread) : Prop := thread.next tier input = some after

end Turns

section Lab

-- A VLAN service between two ports, and workers that map, allocate and submit it.
def labInterpretation : Interpretation where
  serviceID := "vlan-blue"
  serviceType := .vlan
  tenant := "blue"
  endpoints := [{ siteOrNode := "leaf01", attachment := "eth1" }]

def labIntent : NormalizedServiceIntent where
  serviceID := "vlan-blue"
  type := "vlan"
  tenant := "blue"
  endpoints := [{ node := "leaf01", attachment := "eth1", vlan := some 100 }]

def labEncoding : Document → String
  | .interpretation _ _ => "interpretation"
  | .intent _ => "intent"
  | .toolRequest .status _ _ => "status"
  | .toolRequest .remove _ _ => "remove"

theorem lab_encoded (document : Document) : labEncoding document ≠ "" := by
  cases document with
  | interpretation interp blanked => simp [labEncoding]
  | intent intent => simp [labEncoding]
  | toolRequest action serviceID correlationID =>
      cases action with
      | status => simp [labEncoding]
      | remove => simp [labEncoding]

def labTier : Tier where
  threadID := "lab"
  findConstructs _ := []
  deploymentStatusQuery _ := false
  provisioningRequest _ := false
  directDevice _ := none
  unsupportedFeature _ := none
  fallbackClassification _ := none
  providerUnavailable := "provider unavailable"
  namesSRv6 _ := false
  redact text := text
  canonicalJSON := labEncoding
  encoded := lab_encoded
  readInterpretation _ := .ok labInterpretation
  readIntent _ := .ok labIntent
  serviceIDIn _ := none
  withCorrelation text correlationID := text ++ " " ++ correlationID
  envelope intent correlationID threadID principal := String.intercalate " " [intent, correlationID, threadID, principal]
  validateAllOrNothing _ := none

def said (prompt : String) : Input := .message { prompt, freshID := "4f2a" }

-- One request up to the interpretation question, and one confirmed reply up to the deployment question.
def labMapped : List Input :=
  [said "extend vlan 100 on leaf01", .run { classifier := .reply (some .provisionable) },
    .run { mapper := .payload (.ok labInterpretation) }, .run {}]

def labAllocated (reply : String) : List Input :=
  labMapped ++ [said reply, .run {}, .run { allocator := .payload (.ok labIntent) }, .run {}]

def labSubmitted (first second : String) : List Input :=
  labAllocated first ++ [said second, .run {}, .run { deployer := .payload (some { submitted := some (some []) }) }]

def labLog (inputs : List Input) : Option (List Event) := (play (Thread.next labTier) {} inputs).map Thread.log

end Lab

end AgenticNetops.Supervisor
