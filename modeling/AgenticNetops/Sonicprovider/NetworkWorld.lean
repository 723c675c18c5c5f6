import AgenticNetops.Lib.Pending
import AgenticNetops.Lib.Runs
import AgenticNetops.Sonicprovider.NetworkController

set_option autoImplicit false

/- A Network over its life: its spec is edited and it is deleted at any time, and
   reconciles come between with any answers. The log has every executor call. -/
namespace AgenticNetops.Sonicprovider

open GoText Kubenet Fabricplan FabricExecutor Pending Runs

structure World where
  object : Option NetworkObject
  log : List Executed := []

inductive Action where
  | edit (spec : Network)
  | delete (now : Int)
  | reconcile (answers : Answers)

-- An edit leaves the object's name as it is.
def edited (net : NetworkObject) (spec : Network) : NetworkObject :=
  { net with
    network := { spec with name := net.network.name, inNamespace := net.network.inNamespace }
    generation := net.generation + 1 }

-- The API server drops an object without finalizers at once, and marks any other.
def deleted (net : NetworkObject) (now : Int) : Option NetworkObject :=
  if net.finalizers = [] then none else some { net with deletionTimestamp := some now }

def World.next (site : Site) (w : World) (action : Action) : Option World :=
  match w.object with
  | none => none
  | some net =>
      match action with
      | .edit spec => some { w with object := some (edited net spec) }
      | .delete now => if net.deletionTimestamp.isSome then none else some { w with object := deleted net now }
      | .reconcile answers =>
          let pass := reconcile site answers net
          some { object := pass.object, log := w.log ++ pass.calls }

def Step (site : Site) (w : World) (action : Action) (w' : World) : Prop := w.next site action = some w'

def startWorld (net : NetworkObject) : World := { object := some net }

abbrev Reached (site : Site) (guard : World → Action → Prop) (net : NetworkObject) (actions : List Action) (w : World) : Prop :=
  Run (Step site) guard (startWorld net) actions w

theorem step_reads (site : Site) (w w' : World) (action : Action) (step : Step site w action w') :
    ∃ net, w.object = some net ∧
      ((∃ spec, action = .edit spec ∧ w' = { w with object := some (edited net spec) }) ∨
       (∃ now, action = .delete now ∧ net.deletionTimestamp = none ∧ w' = { w with object := deleted net now }) ∨
       (∃ answers, action = .reconcile answers ∧
         w' = { object := (reconcile site answers net).object, log := w.log ++ (reconcile site answers net).calls })) := by
  rw [Step, World.next] at step
  cases present : w.object with
  | none => simp [present] at step
  | some net =>
      refine ⟨net, rfl, ?_⟩
      cases action with
      | edit spec =>
          simp only [present, Option.some.injEq] at step
          exact Or.inl ⟨spec, rfl, step.symm⟩
      | delete now =>
          simp only [present, Option.ite_none_left_eq_some, Option.some.injEq] at step
          refine Or.inr (Or.inl ⟨now, rfl, ?_, step.2.symm⟩)
          simpa using step.1
      | reconcile answers =>
          simp only [present, Option.some.injEq] at step
          exact Or.inr (Or.inr ⟨answers, rfl, step.symm⟩)

section Calls
variable (answers : Answers) (plan : NetworkPlan)

-- The executor has given an answer for every node of the list that has a rollback.
def Heard (names : List String) : Prop :=
  ∀ node ∈ names, ∀ np, plan.get? node = some np → np.rollback ≠ [] → (answers.exchange .rollback node).delivery = .answered

theorem apply_transient_iff (x : Exchange) (node : String) (ops : List NetworkOp) :
    (∃ error, x.apply node ops = .error (.transient error)) ↔ x.delivery ≠ .answered := by
  rw [Exchange.apply]
  cases sent : x.delivery with
  | answered =>
      cases handled : x.handled node ops with
      | ok response => simp
      | error message => simp
  | answerLost => simp
  | undelivered => simp

theorem rollback_nodes_through_iff (names : List String) : (rollbackNodes answers plan names).2 = true ↔ Heard answers plan names := by
  induction names with
  | nil => exact ⟨fun _ node member => absurd member List.not_mem_nil, fun _ => rfl⟩
  | cons node rest ih =>
      have tail : Heard answers plan (node :: rest) ↔
          (∀ np, plan.get? node = some np → np.rollback ≠ [] → (answers.exchange .rollback node).delivery = .answered) ∧
            Heard answers plan rest := List.forall_mem_cons
      rw [tail, rollbackNodes, ← ih]
      cases found : plan.get? node with
      | none => simp
      | some np =>
          by_cases empty : np.rollback = []
          · simp [empty]
          · have transient := apply_transient_iff (answers.exchange .rollback node) node (Phase.ops .rollback np)
            simp only [Option.some.injEq, forall_eq', ne_eq, empty, not_false_eq_true, forall_const]
            cases answered : executorApply answers .rollback np node with
            | ok response =>
                have heard : (answers.exchange .rollback node).delivery = .answered := by
                  by_contra lost
                  obtain ⟨error, failed⟩ := transient.mpr lost
                  rw [executorApply, failed] at answered
                  cases answered
                simp [heard]
            | error error =>
                cases error with
                | transient text =>
                    have lost := transient.mp ⟨text, answered⟩
                    simp [lost]
                | permanent message =>
                    have heard : (answers.exchange .rollback node).delivery = .answered := by
                      by_contra lost
                      obtain ⟨error, failed⟩ := transient.mpr lost
                      rw [executorApply, failed] at answered
                      cases answered
                    simp [heard]

-- The calls of a rollback that got through: one for every node that has a rollback.
theorem rollback_nodes_calls (names : List String) (through : (rollbackNodes answers plan names).2 = true) (f : Executed) :
    f ∈ (rollbackNodes answers plan names).1 ↔
      ∃ node ∈ names, ∃ np, plan.get? node = some np ∧ np.rollback ≠ [] ∧ f = executed answers .rollback np node := by
  induction names with
  | nil => simp [rollbackNodes]
  | cons node rest ih =>
      rw [rollbackNodes] at through ⊢
      cases found : plan.get? node with
      | none =>
          simp only [found] at through ⊢
          rw [ih through]
          simp [found]
      | some np =>
          simp only [found] at through ⊢
          by_cases empty : np.rollback = []
          · simp only [if_pos empty] at through ⊢
            rw [ih through]
            simp [found, empty]
          · simp only [if_neg empty] at through ⊢
            have called (later : (rollbackNodes answers plan rest).2 = true) :
                f ∈ executed answers .rollback np node :: (rollbackNodes answers plan rest).1 ↔
                  ∃ name ∈ node :: rest, ∃ np, plan.get? name = some np ∧ np.rollback ≠ [] ∧ f = executed answers .rollback np name := by
              rw [List.mem_cons, ih later]
              simp [found, empty]
            cases answered : executorApply answers .rollback np node with
            | ok response =>
                simp only [answered] at through ⊢
                exact called through
            | error error =>
                cases error with
                | transient text => simp [answered] at through
                | permanent message =>
                    simp only [answered] at through ⊢
                    exact called through

theorem rollback_nodes_phase (names : List String) (f : Executed) (called : f ∈ (rollbackNodes answers plan names).1) :
    f.phase = .rollback := by
  induction names with
  | nil => cases called
  | cons node rest ih =>
      rw [rollbackNodes] at called
      cases found : plan.get? node with
      | none =>
          simp only [found] at called
          exact ih called
      | some np =>
          simp only [found] at called
          split at called
          · exact ih called
          · split at called
            · cases List.mem_singleton.mp called
              rfl
            · cases List.mem_cons.mp called with
              | inl here =>
                  rw [here]
                  rfl
              | inr later => exact ih later
            · cases List.mem_cons.mp called with
              | inl here =>
                  rw [here]
                  rfl
              | inr later => exact ih later

end Calls

end AgenticNetops.Sonicprovider
