import AgenticNetops.Fabricplan.Device
import AgenticNetops.Srv6service.Types

set_option autoImplicit false

/- The executor seen from the controller (executor.go, pkg/executorclient), the
   apply stage (apply.go) and the plan difference of update.go. A stage returns the
   calls it made, in order, next to its result. -/
namespace AgenticNetops.Srv6service

open GoText Fabricplan

/- One apply call's answer: every op ran; HTTP 200 with OK=false, the ops stopping
   behind `ran` units; no usable response after `ran` units; a 4xx, which the
   executor gives before it runs anything. -/
inductive ApplyAnswer where
  | ok
  | rejected (ran : Nat) (error : String)
  | transport (ran : Nat) (error : String)
  | permanent (error : String)
deriving DecidableEq, Repr

-- No command ran.
def ApplyAnswer.ranNothing : ApplyAnswer → Bool
  | .ok => false
  | .rejected ran _ | .transport ran _ => ran = 0
  | .permanent _ => true

def ApplyAnswer.isPermanent : ApplyAnswer → Bool
  | .permanent _ => true
  | _ => false

-- The places that call Executor.Apply; one pass reaches each at most once a node.
inductive CallSite where
  | firstApply
  | firstRollback
  | removal
  | updateApply
  | restoreRollback
  | restoreApply
  | driftApply
  | driftRollback
  | finalizeRollback
deriving DecidableEq, Repr

def CallSite.isRollback : CallSite → Bool
  | .firstRollback | .removal | .restoreRollback | .driftRollback | .finalizeRollback => true
  | _ => false

structure Call where
  site : CallSite
  node : String
  plan : SRv6NodePlan
  answer : ApplyAnswer
deriving DecidableEq, Repr

-- The ops the call sends: the node plan's own, or its rollback.
def Call.sends (call : Call) : List SRv6Op := if call.site.isRollback then call.plan.rollback else call.plan.ops

abbrev ApplyAnswers := CallSite → String → ApplyAnswer

def planNode (plan : SRv6Plan) (node : String) : SRv6NodePlan := (plan.get? node).getD { node }

def callNode (answers : ApplyAnswers) (site : CallSite) (plan : SRv6Plan) (node : String) : Call :=
  ⟨site, node, planNode plan node, answers site node⟩

def applyPlan (answers : ApplyAnswers) (site : CallSite) (plan : SRv6Plan) :
    List String → List Call × Option (String × Message)
  | [] => ([], none)
  | node :: rest =>
      let call := callNode answers site plan node
      match call.answer with
      | .ok =>
          let (calls, failed) := applyPlan answers site plan rest
          (call :: calls, failed)
      | .rejected _ error =>
          ([call], some (node, [.lit "node ", .str node, .lit " rejected its plan: ", .str error]))
      | .transport _ error | .permanent error => ([call], some (node, [.str error]))

/- rollbackPlan attempts every node, whatever the others answered. Its error is only
   logged by every caller. -/
def rollbackPlan (answers : ApplyAnswers) (site : CallSite) (plan : SRv6Plan) (order : List String) : List Call :=
  ((sortStrings order).map (callNode answers site plan)).filter fun call => call.plan.rollback ≠ []

def applyFailedRefusal (node : String) (err : Message) : Refusal :=
  ⟨.applyFailed, [.lit "node ", .str node, .lit " failed to apply: "] ++ err ++ [.lit " (rolled back on every node)"],
    .apply⟩

/- diffPlans, reduced to what its caller uses: the nodes of the previous plan with an
   op that the new plan no longer contains. -/
def removedOps (prev next : SRv6Plan) (node : String) : List SRv6Op :=
  (planNode prev node).ops.filter fun op => canonicalOp op ∉ (planNode next node).ops.map canonicalOp

def diffNodes (prev next : SRv6Plan) : List String :=
  (planOrder prev).filter fun node => removedOps prev next node ≠ []

/- The removal drive of an update: only a call that returns an error stops it, an
   OK=false result counts as done. -/
def removeNodes (answers : ApplyAnswers) (prev : SRv6Plan) : List String → List Call × Option (String × Message)
  | [] => ([], none)
  | node :: rest =>
      let call := callNode answers .removal prev node
      match call.answer with
      | .ok | .rejected _ _ =>
          let (calls, failed) := removeNodes answers prev rest
          (call :: calls, failed)
      | .transport _ error | .permanent error => ([call], some (node, [.str error]))

section Effect
variable (vrfTable : String → String)

-- How many of the call's units ran on the node.
def Call.unitsRun (call : Call) : Nat :=
  match call.answer with
  | .ok => (opsUnits vrfTable call.sends).length
  | .rejected ran _ | .transport ran _ => ran
  | .permanent _ => 0

-- The device acts of a call: the units in front of the one that failed.
def Call.acts (call : Call) : List DeviceAct :=
  ((opsUnits vrfTable call.sends).take (call.unitsRun vrfTable)).flatten

-- The acts that a list of calls has on one node.
def actsOn (calls : List Call) (node : String) : List DeviceAct :=
  (calls.filter fun call => call.node = node).flatMap (Call.acts vrfTable)

end Effect

end AgenticNetops.Srv6service
