import AgenticNetops.Compat.Pins
import AgenticNetops.Lib.Exits
import AgenticNetops.Lib.Json

set_option autoImplicit false

/- controllers/sonicprovider/controller.go: the NetworkDevice reconciler and the SDC Config
   it owns, with pkg/sdc's checks of what it renders. Between any two calls to the API others
   act on the same objects, and a call may fail, land unheard or be the controller's last. -/
namespace AgenticNetops.Sonicprovider.Device

open GoText JsonValue Exits Compat

def finalizerName : String := "agentic-netops.dev/finalizer"
def annotationHash : String := "agentic-netops.dev/config-hash"
def finalizedAt : String := "agentic-netops.dev/finalized-at"

def reasonPendingGates : String := "Pending"
def reasonApplySucceeded : String := "ApplySucceeded"
def reasonApplyFailed : String := "ApplyFailed"
def reasonDeviationObserved : String := "DeviationObserved"

structure Condition where
  type : String
  status : Bool
  observedGeneration : Nat
  reason : String
  message : Message
deriving DecidableEq, Repr

-- The conditions are absent as long as the object has no status map.
structure NetworkDevice where
  uid : Nat
  resourceVersion : Nat
  generation : Nat := 1
  finalizers : List String := []
  annotations : GoMap String := []
  labels : GoMap String := []
  deleting : Bool := false
  conditions : Option (List Condition) := none
deriving DecidableEq, Repr

structure ConfigStatus where
  ready : Bool := false
  deviation : List String := []
deriving DecidableEq, Repr

-- The owned Config: what the controller applies, its status, and whether a finalizer of SDC's holds it.
structure Config where
  owner : Nat
  annotations : GoMap String
  spec : GoMap Json
  status : ConfigStatus := {}
  held : Bool := false
  deleting : Bool := false
deriving DecidableEq, Repr

/- One device name, the Config of that name and the site's ConfigMap. `clock` stands above
   every uid and version; `readied` has the owners of the Configs that were read as ready. -/
structure World where
  device : Option NetworkDevice := none
  config : Option Config := none
  site : Option (GoMap String) := none
  clock : Nat := 0
  readied : List Nat := []

section Others

inductive Event where
  | create (finalizers : List String) (annotations labels : GoMap String)
  | annotate (annotations labels : GoMap String)
  | edit
  | hold (finalizer : String)
  | release (finalizer : String)
  | delete
  | publish (site : Option (GoMap String))
  | report (status : ConfigStatus)
  | holdConfig
  | releaseConfig
  | deleteConfig
deriving DecidableEq, Repr

variable (w : World)

-- A deleted object without finalizers is gone.
def World.store (d : NetworkDevice) : World :=
  if d.deleting ∧ d.finalizers = [] then { w with device := none, clock := w.clock + 1 }
  else { w with device := some { d with resourceVersion := w.clock + 1 }, clock := w.clock + 1 }

def World.storeConfig (c : Config) : World := { w with config := if c.deleting ∧ ¬ c.held then none else some c }

-- Nobody else touches the controller's finalizer, and its Config is only deleted by others.
def World.happens : Event → World
  | .create finalizers annotations labels =>
      match w.device with
      | none => w.store { uid := w.clock + 1, resourceVersion := 0, finalizers, annotations, labels }
      | some _ => w
  | .annotate annotations labels =>
      match w.device with
      | none => w
      | some d => w.store { d with annotations, labels }
  | .edit =>
      match w.device with
      | none => w
      | some d => w.store { d with generation := d.generation + 1 }
  | .hold finalizer =>
      match w.device with
      | none => w
      | some d => if d.deleting ∨ finalizer = finalizerName then w else w.store { d with finalizers := d.finalizers ++ [finalizer] }
  | .release finalizer =>
      match w.device with
      | none => w
      | some d =>
          if finalizer = finalizerName then w else w.store { d with finalizers := d.finalizers.filter (· ≠ finalizer) }
  | .delete =>
      match w.device with
      | none => w
      | some d => w.store { d with deleting := true }
  | .publish site => { w with site }
  | .report status =>
      match w.config with
      | none => w
      | some c => { w with config := some { c with status } }
  | .holdConfig =>
      match w.config with
      | none => w
      | some c => if c.deleting then w else w.storeConfig { c with held := true }
  | .releaseConfig =>
      match w.config with
      | none => w
      | some c => w.storeConfig { c with held := false }
  | .deleteConfig =>
      match w.config with
      | none => w
      | some c => w.storeConfig { c with deleting := true }

end Others

section Calls

inductive Delivery where
  | served
  | refused
  | lost
  | killed (landed : Bool)
deriving DecidableEq, Repr

-- What comes with one call: what others do first, and what becomes of the call.
structure Turn where
  before : List Event := []
  delivery : Delivery := .served
deriving DecidableEq, Repr

structure Session where
  world : World
  turns : List Turn := []

inductive ApiError where
  | notFound
  | conflict
  | other
deriving DecidableEq, Repr

def ApiError.text : ApiError → String
  | .notFound => "not found"
  | .conflict => "the object has been modified"
  | .other => "api server error"

inductive PassResult where
  | done
  | failed
  | backoff (transient : Bool)
  | killed
deriving DecidableEq, Repr

abbrev PassM (α : Type) := Prog Session PassResult α

variable {α : Type}

-- A call to the API: its effect on the objects as they are by then.
def call (effect : World → World × Except ApiError α) : PassM (Except ApiError α) := fun s =>
  let turn := s.turns.headD {}
  let w := turn.before.foldl World.happens s.world
  let turns := s.turns.tail
  match turn.delivery with
  | .served => ({ world := (effect w).1, turns }, .ok (effect w).2)
  | .refused => ({ world := w, turns }, .ok (.error .other))
  | .lost => ({ world := (effect w).1, turns }, .ok (.error .other))
  | .killed true => ({ world := (effect w).1, turns }, .error .killed)
  | .killed false => ({ world := w, turns }, .error .killed)

def World.read (w : World) : World × Except ApiError NetworkDevice :=
  match w.device with
  | none => (w, .error .notFound)
  | some d => (w, .ok d)

-- Update is refused where the object is another one or has changed since it was read.
def World.update (nd : NetworkDevice) (w : World) : World × Except ApiError NetworkDevice :=
  match w.device with
  | none => (w, .error .notFound)
  | some d =>
      if d.uid ≠ nd.uid ∨ d.resourceVersion ≠ nd.resourceVersion then (w, .error .conflict)
      else (w.store { d with finalizers := nd.finalizers, annotations := nd.annotations },
        .ok { nd with resourceVersion := w.clock + 1 })

def World.remember (w : World) (c : Config) : World := if c.status.ready then { w with readied := c.owner :: w.readied } else w

def World.readConfig (w : World) : World × Except ApiError ConfigStatus :=
  match w.config with
  | none => (w, .error .notFound)
  | some c => (w.remember c, .ok c.status)

def World.removeConfig (w : World) : World × Except ApiError Unit :=
  match w.config with
  | none => (w, .error .notFound)
  | some c => (w.storeConfig { c with deleting := true }, .ok ())

-- Server-side apply: it makes the Config, or sets the fields that are the controller's.
def World.applyFields (c : Config) (w : World) : World × Except ApiError Unit :=
  match w.config with
  | none => ({ w with config := some c }, .ok ())
  | some old => ({ w with config := some { old with owner := c.owner, annotations := c.annotations, spec := c.spec } }, .ok ())

def getDevice : PassM (Except ApiError NetworkDevice) := call World.read
def updateDevice (nd : NetworkDevice) : PassM (Except ApiError NetworkDevice) := call (World.update nd)
def getConfig : PassM (Except ApiError ConfigStatus) := call World.readConfig
def deleteConfig : PassM (Except ApiError Unit) := call World.removeConfig
def applyConfig (c : Config) : PassM (Except ApiError Unit) := call (World.applyFields c)

-- An unreadable ConfigMap is as good as none.
def readSite : PassM (Option (GoMap String)) := do
  match ← call fun w => (w, (.ok w.site : Except ApiError (Option (GoMap String)))) with
  | .ok site => return site
  | .error _ => return none

end Calls

section Status

/- upsertConditionGeneric writes into the status map that it is given, so that the object
   it was read from has the new conditions too; only where there is no map it makes one. The
   conditions of a read object are no []metav1.Condition, and are replaced as a whole. -/
def upsertConditionGeneric (base : Option (List Condition)) (c : Condition) : Option (List Condition) × Option (List Condition) :=
  match base with
  | none => (none, some [c])
  | some _ => (some [c], some [c])

-- The merge patch from an object to its changed copy, on the conditions.
def mergeFrom (base updated : Option (List Condition)) (stored : Option (List Condition)) : Option (List Condition) :=
  if base = updated then stored else updated

def World.patch (nd : NetworkDevice) (c : Condition) (w : World) : World × Except ApiError Unit :=
  match w.device with
  | none => (w, .error .notFound)
  | some d =>
      let (base, updated) := upsertConditionGeneric nd.conditions c
      if base = updated then (w, .ok ())
      else (w.store { d with conditions := mergeFrom base updated d.conditions }, .ok ())

def patchStatus (nd : NetworkDevice) (c : Condition) : PassM (Except ApiError Unit) := call (World.patch nd c)

def condition (nd : NetworkDevice) (type : String) (status : Bool) (reason : String) (message : Message) : Condition :=
  { type, status, observedGeneration := nd.generation, reason, message }

def pendingGates (nd : NetworkDevice) : Condition :=
  condition nd "Ready" false reasonPendingGates [.lit "Waiting for Kubenet/KUID, targets, schema, SDC validation"]

def readyTrue (nd : NetworkDevice) : Condition := condition nd "Ready" true reasonApplySucceeded [.lit "rendered and applied"]

def degraded (nd : NetworkDevice) (status : ConfigStatus) : Condition :=
  condition nd "Degraded" true reasonDeviationObserved [.int status.deviation.length, .lit " deviations"]

-- A patch whose answer is thrown away.
def report (nd : NetworkDevice) (c : Condition) (result : PassResult) : PassM PassResult := do
  let _ ← patchStatus nd c
  return result

end Status

section Rendering

def offlineValidate (spec : GoMap Json) : Except Message Unit :=
  match spec.keys.find? fun path => !hasPrefix path "/" with
  | some path => .error [.lit "invalid rendered path (must start with '/'): ", .str path]
  | none => .ok ()

def defaultRegister : List String := [
  "/interfaces/interface",
  "/interfaces/interface[vtep]",
  "/network-instances/network-instance",
  "/network-instances/network-instance/protocols/bgp/neighbors",
  "/network-instances/network-instance/bridges",
  "/sonic-bgp:sonic-bgp/BGP_GLOBALS",
  "/sonic-srv6:sonic-srv6/SRV6_MY_LOCATORS",
  "/sonic-srv6:sonic-srv6/SRV6_MY_SIDS"]

def validateSpecAgainstRegister (spec : GoMap Json) : Except Message Unit :=
  let missing := spec.sortedKeys.filter fun path => path ∉ defaultRegister
  if missing = [] then .ok () else .error [.lit "unregistered rendered paths: [", .str (join missing " "), .lit "]"]

def renderedSpec : GoMap Json := [("/interfaces/interface", .arr [.obj [("name", .str "Ethernet1")]])]

def buildPolicy (priority : Nat) (operation : String) (revertive : Bool) (deletionPolicy : String) : Json :=
  .obj [("priority", .num priority), ("operation", .str operation), ("revertive", .bool revertive), ("deletionPolicy", .str deletionPolicy)]

def compatKeys : List String := [
  "agentic-netops.dev/sonic-image",
  "agentic-netops.dev/openconfig-commit",
  "agentic-netops.dev/sonic-native-commit",
  "agentic-netops.dev/mapping-version",
  "agentic-netops.dev/kubenet-commit",
  "agentic-netops.dev/kuid-commit",
  "agentic-netops.dev/sdc-release"]

def copyCompatAnnotations (src dst : GoMap String) : GoMap String :=
  compatKeys.foldl (fun dst key => if src.text key ≠ "" then dst.set key (src.text key) else dst) dst

variable (canonicalHash : GoMap Json → String)

def ownedConfig (nd : NetworkDevice) (spec : GoMap Json) : Config := {
  owner := nd.uid
  annotations := copyCompatAnnotations nd.annotations [(annotationHash, canonicalHash spec)]
  spec := ("$policy", buildPolicy 100 "replace" true "retain") :: spec
}

end Rendering

section Pass
variable (canonicalHash : GoMap Json → String) (now : String)

-- The finalizer goes when a read of the same pass has not found the Config.
def finalize (nd : NetworkDevice) : PassM PassResult := do
  let _ ← deleteConfig
  match ← getConfig with
  | .ok _ => return .backoff false
  | .error .notFound =>
      match ← updateDevice { nd with
          annotations := nd.annotations.set finalizedAt now
          finalizers := nd.finalizers.filter (· ≠ finalizerName) } with
      | .ok _ => return .done
      | .error _ => return .failed
  | .error _ => return .backoff true

def ensureFinalizer (nd : NetworkDevice) : PassM NetworkDevice :=
  if finalizerName ∈ nd.finalizers then pure nd
  else do
    match ← updateDevice { nd with finalizers := nd.finalizers ++ [finalizerName] } with
    | .ok updated => return updated
    | .error _ => leave .failed

-- SDC's status after the apply; the events that it gives rise to are left out.
def observe (nd : NetworkDevice) : PassM PassResult := do
  match ← getConfig with
  | .ok status =>
      if status.ready then report nd (readyTrue nd) .done
      else if status.deviation ≠ [] then report nd (degraded nd status) (.backoff true)
      else return .backoff true
  | .error _ => return .backoff true

def renderAndApply (nd : NetworkDevice) (spec : GoMap Json) : PassM PassResult :=
  match offlineValidate spec with
  | .error reason =>
      report nd (condition nd "Ready" false reasonApplyFailed ([.lit "offline schema validation failed: "] ++ reason)) (.backoff true)
  | .ok () =>
      match validateSpecAgainstRegister spec with
      | .error reason =>
          report nd (condition nd "Ready" false reasonApplyFailed ([.lit "register validation failed: "] ++ reason)) (.backoff true)
      | .ok () => do
          match ← applyConfig (ownedConfig canonicalHash nd spec) with
          | .error err => report nd (condition nd "Ready" false reasonApplyFailed [.str err.text]) (.backoff true)
          | .ok () => observe nd

-- The gates and what SDC says, up to the apply.
def converge (nd : NetworkDevice) : PassM PassResult := do
  match ← patchStatus nd (pendingGates nd) with
  | .error _ => return .failed
  | .ok () =>
      let _ ← getConfig
      let site ← readSite
      let pins := resolveSitePins site nd.annotations nd.labels
      match gate pins .networkDevice with
      | .error err =>
          report nd (condition nd "Ready" false err.reason ([.str err.text, .lit " ("] ++ pins.provenance ++ [.lit ")"])) (.backoff false)
      | .ok () =>
          match ← getConfig with
          | .error _ => renderAndApply canonicalHash nd renderedSpec
          | .ok status =>
              if status.deviation ≠ [] then report nd (degraded nd status) (.backoff false)
              else if status.ready then report nd (readyTrue nd) .done
              else renderAndApply canonicalHash nd renderedSpec

def reconcile : PassM PassResult := do
  match ← getDevice with
  | .error .notFound => return .done
  | .error _ => return .failed
  | .ok nd =>
      if nd.deleting then finalize now nd
      else do
        let nd ← ensureFinalizer nd
        converge canonicalHash nd

-- One pass of the controller, with what happens around its calls.
structure Pass where
  turns : List Turn := []
  now : String := ""

inductive Action where
  | event (event : Event)
  | pass (pass : Pass)

def World.next (w : World) : Action → World
  | .event event => w.happens event
  | .pass pass => (reconcile canonicalHash pass.now { world := w, turns := pass.turns }).1.world

end Pass

end AgenticNetops.Sonicprovider.Device
