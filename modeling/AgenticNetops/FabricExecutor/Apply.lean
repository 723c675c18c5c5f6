import AgenticNetops.Fabricplan.Commands

set_option autoImplicit false

/- cmd/fabric-executor: the apply handler, and what the client of pkg/executorclient makes
   of one exchange with it. What a device says to an op is the environment's. -/
namespace AgenticNetops.FabricExecutor

open GoText Fabricplan

def normalizeNode (node : String) : String := normalizePortKey node

-- The site map's key for a node: its own spelling, or the first one that folds to the same.
def nodeFor (nodeMap : GoMap String) (node : String) : Option String :=
  if nodeMap.text node ≠ "" then some node
  else nodeMap.sortedKeys.find? fun key => normalizeNode key = normalizeNode node ∧ nodeMap.text key ≠ ""

structure OpResult where
  kind : String
  ok : Bool
  output : String := ""
  error : String := ""
deriving DecidableEq, Repr

structure DeviceAnswer where
  ok : Bool
  output : String := ""
  error : String := ""
deriving DecidableEq, Repr

-- A device answers an op by its place in the request.
abbrev Devices := Nat → NetworkOp → DeviceAnswer

-- Which field of an op the handler runs; an op with none is a plan bug.
def opKind (op : NetworkOp) : Option String :=
  if op.onClient ≠ "" then some ("client[" ++ op.onClient ++ "]")
  else if op.gcu ≠ [] then some "gcu"
  else if op.redis ≠ [] then some "redis"
  else if op.shell ≠ [] then some "shell"
  else if op.vtysh ≠ [] then some "vtysh"
  else if op.frrConf ≠ [] then some "frrconf"
  else none

def applyOp (devices : Devices) (i : Nat) (op : NetworkOp) : OpResult :=
  let place := "ops[" ++ toString i ++ "]"
  match opKind op with
  | none => { kind := place, ok := false, error := "empty op" }
  | some kind =>
      let said := devices i op
      { kind := place ++ "." ++ kind, ok := said.ok, output := said.output, error := said.error }

-- The handler stops behind the first op that fails.
def runOps (devices : Devices) : Nat → List NetworkOp → List OpResult
  | _, [] => []
  | i, op :: rest =>
      let result := applyOp devices i op
      if result.ok then result :: runOps devices (i + 1) rest else [result]

structure ApplyResponse where
  node : String
  ok : Bool
  results : List OpResult
deriving DecidableEq, Repr

-- The body of an apply request, or why it does not decode.
abbrev ApplyRequest := Except String (String × List NetworkOp)

-- An error is an HTTP 400, before anything runs.
def handleApply (nodeMap : GoMap String) (devices : Devices) (request : ApplyRequest) : Except Message ApplyResponse :=
  match request with
  | .error reason => .error [.lit "bad request: ", .str reason]
  | .ok (node, ops) =>
      match nodeFor nodeMap node with
      | none => .error [.lit "node ", .quoted node, .lit " not in site map"]
      | some _ =>
          let results := runOps devices 0 ops
          .ok { node, ok := results.all OpResult.ok, results }

inductive Delivery where
  | answered
  | answerLost
  | undelivered
deriving DecidableEq, Repr

-- An exchange: the executor's site map, whether the body decodes there, and its devices.
structure Exchange where
  nodeMap : GoMap String
  devices : Devices
  decodes : Bool := true
  delivery : Delivery := .answered

inductive ApplyError where
  | transient (error : String)
  | permanent (error : Message)
deriving DecidableEq, Repr

section Exchanges
variable (x : Exchange) (node : String) (ops : List NetworkOp)

def Exchange.handled : Except Message ApplyResponse :=
  handleApply x.nodeMap x.devices (if x.decodes then .ok (node, ops) else .error "unexpected EOF")

-- Client.Apply; only a 4xx is permanent.
def Exchange.apply : Except ApplyError ApplyResponse :=
  match x.delivery, x.handled node ops with
  | .answered, .ok response => .ok response
  | .answered, .error message => .error (.permanent message)
  | .answerLost, _ | .undelivered, _ => .error (.transient "no usable response")

-- What ran on the node, whether or not the client heard of it.
def Exchange.ran : List OpResult :=
  match x.delivery, x.handled node ops with
  | .undelivered, _ | _, .error _ => []
  | _, .ok response => response.results

def Exchange.refuses : Bool :=
  match x.delivery, x.handled node ops with
  | .undelivered, _ | _, .ok _ => false
  | _, .error _ => true

end Exchanges

theorem run_ops_through (devices : Devices) (i : Nat) (ops : List NetworkOp) (through : (runOps devices i ops).all OpResult.ok = true) :
    (runOps devices i ops).length = ops.length := by
  induction ops generalizing i with
  | nil => rfl
  | cons op rest ih =>
      by_cases ok : (applyOp devices i op).ok = true
      · simp only [runOps, if_pos ok, List.all_cons, Bool.and_eq_true, List.length_cons] at through ⊢
        rw [ih (i + 1) through.2]
      · simp only [runOps, if_neg ok, List.all_cons, Bool.and_eq_true] at through
        exact absurd through.1 ok

theorem run_ops_some (devices : Devices) (i : Nat) (ops : List NetworkOp) : runOps devices i ops = [] ↔ ops = [] := by
  cases ops with
  | nil => exact ⟨fun _ => rfl, fun _ => rfl⟩
  | cons op rest =>
      have ran : runOps devices i (op :: rest) ≠ [] := by
        rw [runOps]
        split
        · exact List.cons_ne_nil _ _
        · exact List.cons_ne_nil _ _
      exact ⟨fun none => absurd none ran, fun none => absurd none (List.cons_ne_nil _ _)⟩

end AgenticNetops.FabricExecutor
