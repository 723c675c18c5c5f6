import AgenticNetops.Lib.Pending
import AgenticNetops.Lib.Runs
import AgenticNetops.Srv6service.NodeIsolation
import AgenticNetops.Srv6service.PassEnd

set_option autoImplicit false

/- The services of a cluster over one store of claims, with everything that was ever
   sent to a node. Passes run one after another, each on the current object; between
   them objects are created, edited and deleted in any order. -/
namespace AgenticNetops.Srv6service

open GoText Api Kuid Kubenet Fabricplan Pending Runs

structure World where
  services : List SRv6Service := []
  store : Store := {}
  log : List Executed := []
deriving DecidableEq

inductive Action where
  | create (svc : SRv6Service)
  | edit (uid : String) (spec : SRv6ServiceSpec)
  | delete (uid : String) (now : Nat)
  | reconcile (uid : String) (networks : List Network) (answers : Answers)

def World.find (w : World) (uid : String) : Option SRv6Service := w.services.find? fun svc => svc.uid = uid

-- An object that is being deleted goes with its last finalizer.
def isGone (svc : SRv6Service) : Bool := svc.deletionTimestamp.isSome && svc.finalizers.isEmpty

def putObject (services : List SRv6Service) (stored : SRv6Service) : List SRv6Service :=
  services.filterMap fun svc =>
    if svc.uid = stored.uid then if isGone stored then none else some stored else some svc

-- The two lists of the service's namespace, as the pass reads them.
def World.lists (w : World) (svc : SRv6Service) (networks : List Network) (answers : Answers) : ConflictLists where
  services :=
    if answers.servicesListed then some (w.services.filter fun other => other.inNamespace = svc.inNamespace) else none
  networks := if answers.networksListed then some networks else none

def World.pass (site : Site) (w : World) (svc : SRv6Service) (networks : List Network) (answers : Answers) : Pass :=
  (reconcile site (w.lists svc networks answers) answers svc (startPass svc w.store)).1

-- The fields of a spec that the CRD lets no edit change.
def sameImmutable (old new : SRv6ServiceSpec) : Bool :=
  old.tenant = new.tenant && old.construct = new.construct && old.signalling = new.signalling

-- A new object: a fresh uid and nothing that a controller has written.
def isNew (w : World) (svc : SRv6Service) : Bool :=
  (w.find svc.uid).isNone && (w.log.all fun e => e.uid ≠ svc.uid) && svc.status = {} && svc.finalizers.isEmpty &&
    svc.deletionTimestamp.isNone

def World.next (site : Site) (w : World) : Action → Option World
  | .create svc => if isNew w svc then some { w with services := w.services ++ [svc] } else none
  | .edit uid spec =>
      match w.find uid with
      | some svc =>
          if sameImmutable svc.spec spec ∧ spec ≠ svc.spec then
            some { w with services := putObject w.services { svc with spec, generation := svc.generation + 1 } }
          else none
      | none => none
  | .delete uid now =>
      match w.find uid with
      | some svc =>
          if svc.deletionTimestamp.isNone then
            some { w with
              services := putObject w.services
                { svc with deletionTimestamp := some now, generation := svc.generation + 1 } }
          else none
      | none => none
  | .reconcile uid networks answers =>
      match w.find uid with
      | some svc =>
          let pass := w.pass site svc networks answers
          some { services := putObject w.services pass.stored, store := pass.store, log := w.log ++ pass.calls }
      | none => none

def Step (site : Site) (w : World) (action : Action) (w' : World) : Prop := w.next site action = some w'

-- A run from the world in which nothing has been created yet.
abbrev Reached (site : Site) (guard : World → Action → Prop) (actions : List Action) (w : World) : Prop :=
  Run (Step site) guard {} actions w

section Objects
variable (services : List SRv6Service) (stored : SRv6Service) (uid : String)

theorem find_put_other (other : uid ≠ stored.uid) :
    (putObject services stored).find? (fun svc => svc.uid = uid) = services.find? fun svc => svc.uid = uid := by
  induction services with
  | nil => rfl
  | cons first rest ih =>
      rw [putObject] at ih ⊢
      by_cases same : first.uid = stored.uid
      · have skipped : ¬ first.uid = uid := fun here => other (here ▸ same)
        by_cases gone : isGone stored
        · simpa [same, gone, other.symm] using ih
        · simpa [same, gone, other.symm] using ih
      · by_cases here : first.uid = uid
        · simp [here, other]
        · simpa [same, here, other] using ih

theorem find_put_same (gone : isGone stored = false) (svc : SRv6Service)
    (found : services.find? (fun svc => svc.uid = stored.uid) = some svc) :
    (putObject services stored).find? (fun svc => svc.uid = stored.uid) = some stored := by
  induction services with
  | nil => cases found
  | cons first rest ih =>
      rw [putObject] at ih ⊢
      by_cases same : first.uid = stored.uid
      · simp [same, gone]
      · have later : rest.find? (fun svc => svc.uid = stored.uid) = some svc := by simpa [same] using found
        simpa [same] using ih later

theorem find_put_gone (gone : isGone stored = true) :
    (putObject services stored).find? (fun svc => svc.uid = stored.uid) = none := by
  rw [List.find?_eq_none]
  intro svc member
  obtain ⟨old, _, kept⟩ := List.mem_filterMap.mp member
  by_cases same : old.uid = stored.uid
  · simp [same, gone] at kept
  · simp only [same, if_false, Option.some.injEq] at kept
    subst kept
    simpa using same

end Objects

theorem find_uid (w : World) (uid : String) (svc : SRv6Service) (found : w.find uid = some svc) :
    svc.uid = uid ∧ svc ∈ w.services :=
  ⟨by simpa using List.find?_some found, List.mem_of_find?_eq_some found⟩

-- Each step, by what it starts from.
theorem step_cases (site : Site) (w w' : World) (action : Action) (step : Step site w action w') :
    (∃ svc, action = .create svc ∧ isNew w svc ∧ w' = { w with services := w.services ++ [svc] }) ∨
    (∃ svc spec, action = .edit svc.uid spec ∧ w.find svc.uid = some svc ∧
      w' = { w with services := putObject w.services { svc with spec, generation := svc.generation + 1 } }) ∨
    (∃ svc now, action = .delete svc.uid now ∧ w.find svc.uid = some svc ∧ svc.deletionTimestamp = none ∧
      w' = { w with
        services := putObject w.services { svc with deletionTimestamp := some now, generation := svc.generation + 1 } }) ∨
    (∃ svc networks answers, action = .reconcile svc.uid networks answers ∧ w.find svc.uid = some svc ∧
      PassEnd site (w.lists svc networks answers) answers svc w.store (w.pass site svc networks answers) ∧
      w' = { services := putObject w.services (w.pass site svc networks answers).stored,
             store := (w.pass site svc networks answers).store,
             log := w.log ++ (w.pass site svc networks answers).calls }) := by
  unfold Step World.next at step
  cases action with
  | create svc =>
      simp only [Option.ite_none_right_eq_some, Option.some.injEq] at step
      exact Or.inl ⟨svc, rfl, step.1, step.2.symm⟩
  | edit uid spec =>
      cases found : w.find uid with
      | none => simp [found] at step
      | some svc =>
          obtain ⟨rfl, _⟩ := find_uid w uid svc found
          simp only [found, Option.ite_none_right_eq_some, Option.some.injEq] at step
          exact Or.inr (Or.inl ⟨svc, spec, rfl, found, step.2.symm⟩)
  | delete uid now =>
      cases found : w.find uid with
      | none => simp [found] at step
      | some svc =>
          obtain ⟨rfl, _⟩ := find_uid w uid svc found
          simp only [found, Option.ite_none_right_eq_some, Option.some.injEq, Option.isNone_iff_eq_none] at step
          exact Or.inr (Or.inr (Or.inl ⟨svc, now, rfl, found, step.1, step.2.symm⟩))
  | reconcile uid networks answers =>
      cases found : w.find uid with
      | none => simp [found] at step
      | some svc =>
          obtain ⟨rfl, _⟩ := find_uid w uid svc found
          simp only [found, Option.some.injEq] at step
          exact Or.inr (Or.inr (Or.inr ⟨svc, networks, answers, rfl, found,
            reconcile_ends site (w.lists svc networks answers) answers svc w.store, step.symm⟩))

/- What a rollback consists of, command by command, with the client each command
   runs on. -/
inductive SentStep where
  | patch (onClient : String) (step : GcuStep)
  | command (onClient : String) (command : IpCommand)
deriving DecidableEq

def opSteps (op : SRv6Op) : List SentStep := op.gcu.map (.patch op.onClient) ++ op.shell.map (.command op.onClient)

def rollbackSteps (np : SRv6NodePlan) : List SentStep := np.rollback.flatMap opSteps

-- A rollback that has every command of another one.
def Undoes (np rendered : SRv6NodePlan) : Prop := ∀ step ∈ rollbackSteps rendered, step ∈ rollbackSteps np

-- An apply call of which something ran on the node.
def Applied (e : Executed) : Prop := e.call.site.isRollback = false ∧ e.call.answer.ranNothing = false

-- A rollback that ran through and undoes what was applied.
def RollsBack (later e : Executed) : Prop :=
  later.uid = e.uid ∧ later.call.node = e.call.node ∧ later.call.site.isRollback = true ∧ later.call.answer = .ok ∧
    Undoes later.call.plan e.call.plan

instance (np rendered : SRv6NodePlan) : Decidable (Undoes np rendered) :=
  inferInstanceAs (Decidable (∀ step ∈ rollbackSteps rendered, step ∈ rollbackSteps np))

instance (e : Executed) : Decidable (Applied e) :=
  inferInstanceAs (Decidable (e.call.site.isRollback = false ∧ e.call.answer.ranNothing = false))

instance (later e : Executed) : Decidable (RollsBack later e) :=
  inferInstanceAs (Decidable (later.uid = e.uid ∧ later.call.node = e.call.node ∧ later.call.site.isRollback = true ∧
    later.call.answer = .ok ∧ Undoes later.call.plan e.call.plan))

-- A render that ran on a node and that no rollback there has undone since.
abbrev InForce (log : List Executed) (e : Executed) : Prop := Open Applied RollsBack log e

section Played
variable (site : Site) (guard : World → Action → Prop) (actions : List Action)

def World.play : Option World := Runs.play (World.next site) {} actions

-- The actions that can be played reach the world they end in.
theorem world_played (played : Played guard (World.next site) {} actions) :
    Reached site guard actions ((World.play site actions).getD {}) := by
  obtain ⟨final, ends⟩ := played_ends guard (World.next site) {} actions played
  have reached := played_run guard (World.next site) {} actions final played ends
  rw [World.play, ends]
  exact reached

end Played

/- The lab's services and a site in which everything answers well. -/
def labSite : Site := ⟨labFacts, fun _ => ""⟩

def labService (tenant port : String) : SRv6Service where
  inNamespace := "default"
  name := tenant
  uid := "uid-" ++ tenant
  labels := [(correlationIDLabel, "req-" ++ tenant)]
  creationTimestamp := 0
  generation := 1
  spec := labSpec tenant port

def labAnswers (serviceID : Int) (left right : String) : Answers where
  now := 0
  capability :=
    .ok [(keySAISRV6, "true"), (keySRv6Supported, "ip-vrf/vpn"),
      (keyProbeAttachments, "leaf01/wan1,leaf02/wan1,leaf01/wan2,leaf02/wan2")]
  kuid :=
    { serviceID := { create := .serve { id := serviceID } },
      clientPrefix := fun node => { create := .serve { address := if node = "leaf01" then left else right } } }
  apply := fun _ _ => .ok
  verify :=
    { locator := fun _ _ => .ok [⟨"", true, "", ""⟩], checks := fun _ _ => .ok (List.replicate 8 ⟨"", true, "", ""⟩),
      path := fun _ => .ok [], probe := fun _ => .ok [⟨"", true, "", ""⟩] }

-- No verification gets an answer.
def labSilent : VerifyAnswers where
  locator := fun _ _ => .error "timeout"
  checks := fun _ _ => .error "timeout"
  path := fun _ => .error "timeout"
  probe := fun _ => .error "timeout"

end AgenticNetops.Srv6service
