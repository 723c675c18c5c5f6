import AgenticNetops.Lib.Exits
import AgenticNetops.Deployer.Objects
import AgenticNetops.Supervisor.Words

set_option autoImplicit false

/- deployer/submit.py: the deployment transaction. Validation, preflight and the whole
   bundle's dry run come before the first write; a failing apply ends in a rollback by
   the correlation label. -/
namespace AgenticNetops.Deployer

open GoText PyText JsonValue Exits Supervisor

inductive Phase where
  | requestValidation
  | translation
  | manifestValidation
  | preFlight
  | dryRun
  | apply
  | rollback
deriving DecidableEq, Repr

def Phase.text : Phase → String
  | .requestValidation => "request-validation"
  | .translation => "translation"
  | .manifestValidation => "manifest-validation"
  | .preFlight => "pre-flight"
  | .dryRun => "dry-run"
  | .apply => "apply"
  | .rollback => "rollback"

structure TransactionError where
  phase : Phase
  message : Message
  resource : Option String := none
  rolledBack : List Ref := []
  survivors : List Ref := []
deriving DecidableEq, Repr

-- The report's "message": the phase, the resource if there is one, and the message.
def TransactionError.detail (err : TransactionError) : Message :=
  [.str err.phase.text, .lit " failed"] ++ (err.resource.elim [] fun resource => [.lit " for ", .str resource]) ++
    .lit ": " :: err.message

structure DeploymentContext where
  correlationID : String
  threadID : String
  principal : String
deriving Repr

def isCorrelationID (text : String) : Bool := text.toList.length = 32 && text.toList.all isHexChar

def blank (text : String) : Bool := text.toList.all isBlank

def invalidRequest (message : String) : TransactionError := ⟨.requestValidation, [.lit message], none, [], []⟩

def DeploymentContext.validate (context : DeploymentContext) : Except TransactionError Unit :=
  if ¬ isCorrelationID context.correlationID then
    .error (invalidRequest "correlationId must be exactly 32 lowercase hexadecimal characters")
  else if blank context.threadID then .error (invalidRequest "threadId is required")
  else if blank context.principal then .error (invalidRequest "principal is required")
  else .ok ()

section Manifests

-- f"{value}" of a scalar; the text of a list or an object is not kept.
def shown : Json → String
  | .null => "None"
  | .bool true => "True"
  | .bool false => "False"
  | .num value => toString value
  | .str value => value
  | .arr _ | .obj _ => ""

def orUnknown (text unknown : String) : String := if text = "" then unknown else text

def resourceIdentity (manifest : Json) : String :=
  orUnknown (manifest.field "kind").text "<unknown>" ++ "/" ++ orUnknown (nameOf manifest) "<unnamed>"

def isNameChar (c : Char) : Bool := ('a' ≤ c && c ≤ 'z') || ('0' ≤ c && c ≤ '9')

-- ^[a-z0-9](?:[-a-z0-9.]*[a-z0-9])?$, and at most 253 characters.
def isDNSSubdomain (name : String) : Bool :=
  name.toList.length ≤ 253 && name.toList.all (fun c => isNameChar c || c = '-' || c = '.') &&
    name.toList.head?.any isNameChar && name.toList.getLast?.any isNameChar

def invalidManifest (message : Message) (resource : Option String) : TransactionError :=
  ⟨.manifestValidation, message, resource, [], []⟩

-- metadata.setdefault(key, {})
def mapOf (metadata : Json) (key : String) : Json := (metadata.field? key).getD (.obj [])

def serverFields : List String := ["uid", "resourceVersion", "generation", "managedFields"]

-- The metadata with the tier's namespace, without the server's fields, and stamped.
def stampMetadata (context : DeploymentContext) (timestamp : String) (metadata : Json) : Json :=
  let placed := serverFields.foldl Json.without (metadata.with "namespace" (.str "agentic-netops-intent"))
  let labels := ((mapOf metadata "labels").with correlationLabel (.str context.correlationID)).with
    "agentic-netops.io/tier" (.str "intent")
  let annotations := (((mapOf metadata "annotations").with "agentic-netops.io/intent-thread-id" (.str context.threadID)).with
    "agentic-netops.io/intent-principal" (.str context.principal)).with
    "agentic-netops.io/intent-submitted-at" (.str timestamp)
  (placed.with "labels" labels).with "annotations" annotations

def stampManifest (context : DeploymentContext) (timestamp : String) (seen : List Ref) (raw : Json) :
    Except TransactionError Json :=
  let kind := (raw.field "kind").text
  let metadata := metadataOf raw
  let name := kind ++ "/" ++ nameOf raw
  if ¬ raw.isObject then .error (invalidManifest [.lit "translator returned a non-object manifest"] none)
  else if ((raw.field "apiVersion").text, kind) ∉ resourcePaths then
    .error (invalidManifest [.lit "resource ", .str (shown (raw.field "apiVersion")), .lit "/", .str (shown (raw.field "kind")),
      .lit " is outside the deployer allow-list"] (some (resourceIdentity raw)))
  else if ¬ metadata.isObject then
    .error (invalidManifest [.lit "metadata must be an object"] (some (resourceIdentity raw)))
  else if ¬ (metadata.field "name").text?.any isDNSSubdomain then
    .error (invalidManifest [.lit "metadata.name is not a valid DNS subdomain"] (some (resourceIdentity raw)))
  else if ¬ (specOf raw).isObject then .error (invalidManifest [.lit "spec must be an object"] (some name))
  else if refOf raw ∈ seen then
    .error (invalidManifest [.lit "duplicate resource in translated bundle"] (some name))
  else if ¬ ((mapOf metadata "labels").isObject ∧ (mapOf metadata "annotations").isObject) then
    .error (invalidManifest [.lit "metadata labels/annotations must be objects"] (some name))
  else .ok (raw.with "metadata" (stampMetadata context timestamp metadata))

def stampAll (context : DeploymentContext) (timestamp : String) (prepared : List Json) :
    List Json → Except TransactionError (List Json)
  | [] => .ok prepared
  | raw :: rest => do
      let manifest ← stampManifest context timestamp (prepared.map refOf) raw
      stampAll context timestamp (prepared ++ [manifest]) rest

def deterministicApplyOrder (manifests : List Json) : List Json :=
  manifests.insertionSort fun a b => (refOf a).le (refOf b)

def validateAndStampManifests (context : DeploymentContext) (timestamp : String) (manifests : List Json) :
    Except TransactionError (List Json) := do
  context.validate
  let prepared ← stampAll context timestamp [] manifests
  if prepared = [] then .error (invalidManifest [.lit "translator returned an empty manifest bundle"] none)
  else .ok (deterministicApplyOrder prepared)

end Manifests

section Preflight

-- text.lower()
def lowerText (text : String) : String := String.ofList (text.toList.flatMap lowerChar)

-- The attachments of a Network's spec as they are spelled, without the unnamed ones.
def portNames (object : Json) : List String :=
  ((((specOf object).field "attachments").items.filter Json.isObject).map fun item => (item.field "attachment").text).filter
    (· ≠ "")

-- The stage and the name of each access list that is bound.
def boundLists (object : Json) : List (String × String) :=
  ((((specOf object).field "accessLists").items.filter Json.isObject).map fun item =>
    (lowerText (item.field "stage").text, (item.field "name").text)).filter fun list => list.1 ∈ ["ingress", "egress"]

-- Port and stage of each binding, with the name of its list.
def bindings (object : Json) : List ((String × String) × String) :=
  (boundLists object).flatMap fun (stage, name) => (portNames object).map fun port => ((port, stage), name)

-- port_stage_to_holder: the latest entry of a key is the one that is read.
abbrev Holders := List ((String × String) × (String × String))

def register (holders : Holders) (service : String) (own : List ((String × String) × String)) : Holders :=
  own.foldl (fun holders entry => (entry.1, (service, entry.2)) :: holders) holders

def holdersOf (existing : List Json) : Holders :=
  existing.foldl (fun holders object => register holders (nameOf object) (bindings object)) []

def heldByOther (holders : Holders) (service : String) (key : String × String) : Option (String × String) :=
  (holders.lookup key).filter fun holder => holder.1 ≠ service

def portBindingError (key holder : String × String) : TransactionError :=
  ⟨.preFlight, [.lit "refuse_acl_port_binding: port ", .str key.1, .lit " already bound to an ACL at ", .str key.2,
    .lit " stage by service ", .str holder.1, .lit " (acl ", .str holder.2, .lit "); refusing to bind a second ACL"],
    none, [], []⟩

def checkBindings (holders : Holders) (service : String) : List ((String × String) × String) → Except TransactionError Unit
  | [] => .ok ()
  | (key, _) :: rest =>
      match heldByOther holders service key with
      | some holder => .error (portBindingError key holder)
      | none => checkBindings holders service rest

-- The manifests in turn; each one's own new bindings count for the next.
def checkManifests (holders : Holders) : List Json → Except TransactionError Unit
  | [] => .ok ()
  | manifest :: rest =>
      if (refOf manifest).kind = networkKind then do
        checkBindings holders (nameOf manifest) (bindings manifest)
        let own := (bindings manifest).filter fun entry => holders.lookup entry.1 = none
        checkManifests (register holders (nameOf manifest) own) rest
      else checkManifests holders rest

def preflightACLBinding (existing manifests : List Json) : Except TransactionError Unit :=
  checkManifests (holdersOf existing) manifests

end Preflight

section Transaction

/- How the API answers a server-side apply: a failed one may have been carried out all
   the same (a timeout, a response that cannot be read). -/
inductive ApplyAnswer where
  | ok
  | failed (err : Message) (landed : Bool)
deriving DecidableEq, Repr

/- A delete is reported done or not; one that is not may have been carried out. An
   object that still waits for its finalizers counts as deleted. -/
inductive DeleteAnswer where
  | deleted
  | failed (carriedOut : Bool)
deriving DecidableEq, Repr

def DeleteAnswer.removes : DeleteAnswer → Bool
  | .deleted => true
  | .failed carriedOut => carriedOut

structure Answers where
  listNetworks : Option Message := none
  dryRun : Ref → Option Message := fun _ => none
  apply : Ref → ApplyAnswer := fun _ => .ok
  listByCorrelation : Option Message := none
  delete : Ref → DeleteAnswer := fun _ => .deleted

variable (api : ServerSideApply) (answers : Answers)

def dryRunAll : List Json → Except TransactionError Unit
  | [] => .ok ()
  | manifest :: rest =>
      match answers.dryRun (refOf manifest) with
      | some err => .error ⟨.dryRun, err, some (resourceIdentity manifest), [], []⟩
      | none => dryRunAll rest

def listNetworks (cluster : Cluster) : Except TransactionError (List Json) :=
  match answers.listNetworks with
  | some err => .error ⟨.preFlight, .lit "could not list existing Networks: " :: err, none, [], []⟩
  | none => .ok cluster.networks

-- What the transaction checks before it applies anything, with the objects it goes on to apply.
def checked (context : DeploymentContext) (timestamp : String) (translated : Except TransactionError (List Json))
    (cluster : Cluster) : Except TransactionError (List Json) := do
  context.validate
  let manifests ← translated
  let prepared ← validateAndStampManifests context timestamp manifests
  let existing ← listNetworks answers cluster
  preflightACLBinding existing prepared
  dryRunAll answers prepared
  return prepared

def rollbackOrder (objects : List Json) : List Ref := (objects.map refOf).insertionSort fun a b => a.le b

def deleteAll : List Ref → Prog Cluster TransactionError Unit
  | [] => pure ()
  | ref :: rest => do
      change fun cluster => if (answers.delete ref).removes then cluster.delete ref else cluster
      deleteAll rest

-- The refs whose deletion was reported done, and the others.
def rollbackBySelector (correlationID : String) : Prog Cluster TransactionError (List Ref × List Ref) := do
  match answers.listByCorrelation with
  | some err => leave ⟨.rollback, .lit "could not enumerate rollback set: " :: err, none, [], []⟩
  | none =>
      let cluster ← read
      let refs := rollbackOrder (cluster.labelled correlationID)
      deleteAll answers refs
      return refs.partition fun ref => answers.delete ref = .deleted

-- A failed apply: the rollback, and the error that reports it.
def abandon (correlationID : String) (submitted : List Ref) (manifest : Json) (err : Message) :
    Prog Cluster TransactionError (List Ref) := fun cluster =>
  match rollbackBySelector answers correlationID cluster with
  | (after, .error failure) =>
      (after, .error ⟨.apply, err ++ [.lit "; rollback also failed: "] ++ failure.detail, some (resourceIdentity manifest),
        [], submitted⟩)
  | (after, .ok (rolledBack, survivors)) =>
      let message := if survivors = [] then err else err ++ [.lit "; rollback incomplete"]
      (after, .error ⟨.apply, message, some (resourceIdentity manifest), rolledBack, survivors⟩)

def applyEach (correlationID : String) (submitted : List Ref) : List Json → Prog Cluster TransactionError (List Ref)
  | [] => pure submitted
  | manifest :: rest =>
      match answers.apply (refOf manifest) with
      | .ok => do
          change fun cluster => cluster.write api manifest
          applyEach correlationID (submitted ++ [refOf manifest]) rest
      | .failed err landed => do
          change fun cluster => if landed then cluster.write api manifest else cluster
          abandon answers correlationID submitted manifest err

def applyAll (correlationID : String) (manifests : List Json) : Prog Cluster TransactionError (List Ref) :=
  applyEach api answers correlationID [] (deterministicApplyOrder manifests)

/- The intent's own validation and the translator's call (`translated`) come first and
   touch no object; the watch after the last apply never fails the transaction. -/
def runDeploymentTransaction (context : DeploymentContext) (timestamp : String)
    (translated : Except TransactionError (List Json)) : Prog Cluster TransactionError (List Ref) := do
  let cluster ← read
  match checked answers context timestamp translated cluster with
  | .error err => leave err
  | .ok prepared => applyAll api answers context.correlationID prepared

end Transaction

end AgenticNetops.Deployer
