import AgenticNetops.Lib.Exits
import AgenticNetops.Srv6service.Allocate
import AgenticNetops.Srv6service.Gates
import AgenticNetops.Srv6service.Verify

set_option autoImplicit false

/- One pass of the reconciler: its state, the answers of its environment, and the
   status writes of ready.go. `stored` is the object in the API server, `status` the
   copy the pass works on; a status patch sends the fields in which the copy differs
   from the base it was taken against. `written` keeps the statuses of the patches
   that landed. -/
namespace AgenticNetops.Srv6service

open GoText Api Kuid Fabricplan Exits

def resyncInterval : Nat := 300
def failureBackoff : Nat := 30

inductive ReconcileResult where
  | settled
  | requeueAfter (seconds : Nat)
  | failed
deriving DecidableEq, Repr

-- An apply call of the pass: the service it is for and the allocations of its plan.
structure Executed where
  uid : String
  correlationID : String
  alloc : Api.Allocations
  call : Call
deriving DecidableEq, Repr

structure Pass where
  stored : SRv6Service
  status : SRv6ServiceStatus
  store : Store
  calls : List Executed := []
  written : List SRv6ServiceStatus := []

-- The API writes of a pass; each happens at most once.
inductive PatchSite where
  | finalizerAdd
  | refusal
  | drift
  | updateStatus
  | ready
  | finalizing
  | finalizerRemove
deriving DecidableEq, Repr

structure Answers where
  now : Nat
  capability : Except String (GoMap String)
  servicesListed : Bool := true
  networksListed : Bool := true
  kuid : KuidAnswers := {}
  apply : ApplyAnswers
  verify : VerifyAnswers
  patch : PatchSite → Bool := fun _ => true

structure Site where
  facts : SiteFacts
  digest : Digest

abbrev PassM (α : Type) := Prog Pass ReconcileResult α

-- upsertCondition keeps the transition time of a condition whose status stays.
def upsertCondition (conds : List Condition) (c : Condition) : List Condition :=
  match conds with
  | [] => [c]
  | old :: rest =>
      if old.type = c.type then
        (if old.status = c.status then { c with lastTransitionTime := old.lastTransitionTime } else c) :: rest
      else old :: upsertCondition rest c

def newCondition (now : Nat) (type : ConditionType) (reason : Reason) (message : Message) (status : Bool) (gen : Nat) :
    Condition :=
  { type, status, observedGeneration := gen, lastTransitionTime := now, reason, message }

def readyTrue (now gen : Nat) : Condition :=
  newCondition now .ready .verified
    [.lit "applied on every attachment node, every check passes, data path verified"] true gen

def setRefusal (now : Nat) (st : SRv6ServiceStatus) (gen : Nat) (ref : Refusal) : SRv6ServiceStatus :=
  let conds := upsertCondition st.conditions (newCondition now .ready ref.reason ref.message false gen)
  { st with
    conditions := upsertCondition conds (newCondition now .degraded ref.reason ref.message true gen),
    observedGeneration := gen }

def setFinalizing (now : Nat) (st : SRv6ServiceStatus) (gen : Nat) (message : Message) : SRv6ServiceStatus :=
  { st with
    conditions := upsertCondition st.conditions (newCondition now .ready .finalizing message false gen),
    observedGeneration := gen }

def setReadyTrue (now : Nat) (st : SRv6ServiceStatus) (gen : Nat) : SRv6ServiceStatus :=
  let conds := upsertCondition st.conditions (readyTrue now gen)
  { st with
    conditions := upsertCondition conds
      (newCondition now .degraded .verified [.lit "no failures observed"] false gen),
    observedGeneration := gen }

def setReadyOutcome (now : Nat) (st : SRv6ServiceStatus) (gen : Nat) (hashes : GoMap String) (applied : SRv6ServiceSpec)
    (corrID activePath : String) (alloc : Api.Allocations) : SRv6ServiceStatus :=
  { setReadyTrue now st gen with
    configHashes := hashes,
    appliedSpec := some applied,
    correlationID := corrID,
    activePath := activePath,
    allocations := some alloc }

section Merge
variable {α : Type} [DecidableEq α]

def mergeField (stored base next : α) : α := if base = next then stored else next

end Merge

-- client.MergeFrom(base) over the status subresource, field by field.
def mergeStatus (stored base next : SRv6ServiceStatus) : SRv6ServiceStatus where
  observedGeneration := mergeField stored.observedGeneration base.observedGeneration next.observedGeneration
  conditions := mergeField stored.conditions base.conditions next.conditions
  allocations := mergeField stored.allocations base.allocations next.allocations
  nodes := mergeField stored.nodes base.nodes next.nodes
  activePath := mergeField stored.activePath base.activePath next.activePath
  dataPath := mergeField stored.dataPath base.dataPath next.dataPath
  configHashes := mergeField stored.configHashes base.configHashes next.configHashes
  appliedSpec := mergeField stored.appliedSpec base.appliedSpec next.appliedSpec
  correlationID := mergeField stored.correlationID base.correlationID next.correlationID

/- A status patch that lands: the object comes back into the copy. The response
   leaves out what is empty, so empty stored nodes keep the copy's own. -/
def Pass.patched (pass : Pass) (next : SRv6ServiceStatus) : Pass :=
  let merged := mergeStatus pass.stored.status pass.status next
  { pass with
    stored := { pass.stored with status := merged },
    status := { merged with nodes := if merged.nodes = [] then next.nodes else merged.nodes },
    written := pass.written ++ [next] }

-- Status().Patch: whether it succeeded.
def patchStatus (answers : Answers) (site : PatchSite) (next : SRv6ServiceStatus) : PassM Bool := fun pass =>
  if answers.patch site then (pass.patched next, .ok true) else (pass, .ok false)

def logCalls (svc : SRv6Service) (alloc : Api.Allocations) (calls : List Call) : PassM Unit :=
  change fun pass => { pass with calls := pass.calls ++ calls.map fun call => ⟨svc.uid, correlationID svc, alloc, call⟩ }

def setNodes (nodes : List NodeStatus) : PassM Unit :=
  change fun pass => { pass with status := { pass.status with nodes } }

-- refuse: the Ready/Degraded pair, and the requeue that the refusal allows.
def refuse {α : Type} (answers : Answers) (svc : SRv6Service) (ref : Refusal) : PassM α := do
  let pass ← read
  let patched ← patchStatus answers .refusal (setRefusal answers.now pass.status svc.generation ref)
  if ¬ patched then leave .failed
  else if ref.kind.terminal then leave .settled
  else leave (.requeueAfter failureBackoff)

def refuseIf (answers : Answers) (svc : SRv6Service) : Option Refusal → PassM Unit
  | none => pure ()
  | some ref => refuse answers svc ref

def orRefuse {α : Type} (answers : Answers) (svc : SRv6Service) : Except Refusal α → PassM α
  | .ok value => pure value
  | .error ref => refuse answers svc ref

end AgenticNetops.Srv6service
