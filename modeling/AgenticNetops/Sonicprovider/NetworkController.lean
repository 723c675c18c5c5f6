import AgenticNetops.Fabricplan.Network
import AgenticNetops.FabricExecutor.Apply

set_option autoImplicit false

/- controllers/sonicprovider/network_controller.go: one reconcile of a Network. It renders
   the Network, drives the executor node by node, and sets Ready from what it hears; on
   deletion it rolls the rendered plan back and releases its finalizer. -/
namespace AgenticNetops.Sonicprovider

open GoText Kubenet Fabricplan FabricExecutor

def networkFinalizer : String := "agentic-netops.dev/fabric"

def reasonApplyFailed : String := "ApplyFailed"
def reasonApplySucceeded : String := "ApplySucceeded"
def reasonSchemaMismatch : String := "SchemaMismatch"

structure NetworkCondition where
  type : String
  status : Bool
  reason : String
  message : Message := []
  observedGeneration : Nat
deriving DecidableEq, Repr

structure NetworkStatus where
  conditions : List NetworkCondition := []
  observedGeneration : Nat := 0
deriving DecidableEq, Repr

structure NetworkObject where
  network : Network
  finalizers : List String := []
  deletionTimestamp : Option Int := none
  generation : Nat := 1
  status : NetworkStatus := {}
deriving DecidableEq, Repr

-- FABRIC_PORT_MAP and FABRIC_NODE_KIND.
structure Site where
  ports : PortMapper
  nodeKind : String := ""

def Site.plan (site : Site) (net : Network) : Except Error NetworkPlan :=
  forNetwork net { ports := site.ports, nodeKind := site.nodeKind }

inductive Phase where
  | apply
  | rollback
deriving DecidableEq, Repr

structure VerifyResult where
  check : String
  ok : Bool
  error : String := ""
deriving DecidableEq, Repr

/- What a reconcile is told: what the compatibility gate says, the exchanges with the
   executor, and whether its own writes to the API land. -/
structure Answers where
  pins : Except (String × Message) Unit := .ok ()
  exchange : Phase → String → Exchange
  verify : String → Except String (List VerifyResult)
  update : Bool := true
  patch : Bool := true

inductive ReconcileResult where
  | done
  | failed
  | requeueAfter (seconds : Nat)
deriving DecidableEq, Repr

-- resyncInterval, in seconds.
def resyncInterval : Nat := 300

/- An executor call as it took place: where the executor resolved the node, what ran
   there, and the rollback that the same plan has for the node. -/
structure Executed where
  phase : Phase
  node : String
  device : Option String
  ops : List NetworkOp
  undo : List NetworkOp
  results : List OpResult
  refused : Bool
deriving DecidableEq, Repr

section Calls
variable (answers : Answers) (phase : Phase) (np : NetworkNodePlan)

def Phase.ops : List NetworkOp :=
  match phase with
  | .apply => np.ops
  | .rollback => np.rollback

def executed (node : String) : Executed :=
  let x := answers.exchange phase node
  let ops := phase.ops np
  { phase, node, ops, undo := np.rollback,
    device := if (x.ran node ops).isEmpty then none else nodeFor x.nodeMap node,
    results := x.ran node ops,
    refused := x.refuses node ops }

def executorApply (node : String) : Except ApplyError ApplyResponse := (answers.exchange phase node).apply node (phase.ops np)

end Calls

section Rollback
variable (answers : Answers) (plan : NetworkPlan)

/- The nodes in name order. A node that the executor refuses is skipped, an answer of
   either kind is a rollback applied, and any other error retains the finalizer. -/
def rollbackNodes : List String → List Executed × Bool
  | [] => ([], true)
  | node :: rest =>
      match plan.get? node with
      | none => rollbackNodes rest
      | some np =>
          if np.rollback = [] then rollbackNodes rest
          else
            match executorApply answers .rollback np node with
            | .error (.transient _) => ([executed answers .rollback np node], false)
            | .error (.permanent _) | .ok _ =>
                (executed answers .rollback np node :: (rollbackNodes rest).1, (rollbackNodes rest).2)

end Rollback

section Apply
variable (answers : Answers) (plan : NetworkPlan)

def truncateStr (s : String) (n : Nat) : String :=
  if s.length ≤ n then s else String.ofList (s.toList.take n) ++ "…"

def describeError : ApplyError → Message
  | .transient error => [.str error]
  | .permanent error => error

-- The first failure of a node's apply and verification, as the condition tells it.
def applyFailure (node : String) : Except ApplyError ApplyResponse → Option Message
  | .error error => some ([.lit "node ", .str node, .lit ": executor unreachable: "] ++ describeError error)
  | .ok response =>
      (response.results.find? fun r => !r.ok).map fun r =>
        [.lit "node ", .str node, .lit " ", .str r.kind, .lit ": ", .str r.error, .lit " | ", .str (truncateStr r.output 1500)]

def verifyFailure (node : String) : Except String (List VerifyResult) → Option Message
  | .error error => some [.lit "node ", .str node, .lit ": executor verify unreachable: ", .str error]
  | .ok results =>
      (results.find? fun r => !r.ok).map fun r => [.lit "node ", .str node, .lit " ", .str r.check, .lit ": ", .str r.error]

-- The nodes in name order, up to the first that fails.
def applyNodes : List String → List Executed × Option Message
  | [] => ([], none)
  | node :: rest =>
      match plan.get? node with
      | none => applyNodes rest
      | some np =>
          match applyFailure node (executorApply answers .apply np node) with
          | some failure => ([executed answers .apply np node], some failure)
          | none =>
              match verifyFailure node (answers.verify node) with
              | some failure => ([executed answers .apply np node], some failure)
              | none => (executed answers .apply np node :: (applyNodes rest).1, (applyNodes rest).2)

end Apply

def upsertCondition (conds : List NetworkCondition) (c : NetworkCondition) : List NetworkCondition :=
  match conds with
  | [] => [c]
  | first :: rest => if first.type = c.type then c :: rest else first :: upsertCondition rest c

-- A patch that does not land is logged, and the reconcile goes on.
def setConditions (answers : Answers) (net : NetworkObject) (ready : Bool) (reason : String) (message : Message) : NetworkObject :=
  let conds := upsertCondition net.status.conditions
    { type := "Ready", status := ready, reason, message, observedGeneration := net.generation }
  let conds := upsertCondition conds
    { type := "Degraded", status := false, reason := "NoFailuresObserved", observedGeneration := net.generation }
  if answers.patch then { net with status := { conditions := conds, observedGeneration := net.generation } } else net

-- The API server drops a deleted object with its last finalizer.
def released (net : NetworkObject) : Option NetworkObject :=
  let finalizers := net.finalizers.filter (· ≠ networkFinalizer)
  if finalizers = [] then none else some { net with finalizers }

structure Pass where
  object : Option NetworkObject
  calls : List Executed := []
  result : ReconcileResult

def rollBack (site : Site) (answers : Answers) (net : NetworkObject) : List Executed × Bool :=
  match site.plan net.network with
  | .error _ => ([], true)
  | .ok plan => rollbackNodes answers plan plan.sortedKeys

def finalize (site : Site) (answers : Answers) (net : NetworkObject) : Pass :=
  let (calls, through) := rollBack site answers net
  if !through then { object := some net, calls, result := .requeueAfter 15 }
  else if !answers.update then { object := some net, calls, result := .failed }
  else { object := released net, calls, result := .done }

def converge (site : Site) (answers : Answers) (net : NetworkObject) : Pass :=
  match answers.pins with
  | .error (reason, message) => { object := some (setConditions answers net false reason message), result := .requeueAfter 30 }
  | .ok () =>
      match site.plan net.network with
      | .error message => { object := some (setConditions answers net false reasonSchemaMismatch message), result := .requeueAfter 30 }
      | .ok plan =>
          match applyNodes answers plan plan.sortedKeys with
          | (calls, some failure) =>
              { object := some (setConditions answers net false reasonApplyFailed failure), calls, result := .requeueAfter 5 }
          | (calls, none) =>
              { object := some (setConditions answers net true reasonApplySucceeded [.lit "applied and verified on all nodes"]), calls,
                result := .requeueAfter resyncInterval }

def reconcile (site : Site) (answers : Answers) (net : NetworkObject) : Pass :=
  if net.deletionTimestamp.isSome then finalize site answers net
  else if networkFinalizer ∉ net.finalizers then
    if answers.update then { object := some { net with finalizers := net.finalizers ++ [networkFinalizer] }, result := .requeueAfter 1 }
    else { object := some net, result := .failed }
  else converge site answers net

end AgenticNetops.Sonicprovider
