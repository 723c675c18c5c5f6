import AgenticNetops.Provisioning.Unclaimed
import AgenticNetops.Supervisor.Thread

set_option autoImplicit false

/- What a request that was never submitted leaves in the claim store. The allocator may
   run a message several times, since an unanswered call is sent again, and nothing on
   the way out of a failed request asks it to release anything. -/
namespace AgenticNetops.Supervisor

open Provisioning Runs Schemas

/- The supervisor with the allocator behind it. `receive` is what the allocator reads out
   of a message: the interpretation, and the correlation id it carries. -/
structure Pipeline where
  tier : Tier
  fallback : Bool
  validateAllOrNothing : NormalizedServiceIntent → Option GoText.Message
  hashInterpretation : Interpretation → String
  receive : String → Option Interpretation × String

-- One run of the allocator; `standIn` is its own id for a message that carries none.
structure Allocation where
  answers : CallAnswers
  standIn : String := ""

/- `created` keeps the correlation ids for which the claim server or the lease server has
   carried out a create, those of the objects that were there before among them. -/
structure World where
  thread : Thread := {}
  worker : Worker := {}
  created : List String := []

inductive WorldInput where
  | message (message : Message)
  | run (answers : Answers) (allocations : List Allocation)

def Event.sentToAllocator : Event → Option String
  | .sentInterpretation _ sent => some sent
  | _ => none

section World
variable (pipeline : Pipeline)

def callOf (sent : String) (allocation : Allocation) : Call :=
  let received := pipeline.receive sent
  { payload := received.1
    correlationID := if received.2 = "" then allocation.standIn else received.2
    answers := allocation.answers }

-- The runs of the allocator on the message that a node has sent it.
def callsFor (events : List Event) (allocations : List Allocation) : List Call :=
  match events.findSome? Event.sentToAllocator with
  | none => []
  | some sent => allocations.map (callOf pipeline sent)

def allocate (call : Call) (worker : Worker) : Worker × Except Failure Assignment :=
  allocNode pipeline.fallback pipeline.validateAllOrNothing pipeline.hashInterpretation call worker

-- The calls one after the other, with the intents they return.
def allocateAll (worker : Worker) : List Call → Worker × List NormalizedServiceIntent
  | [] => (worker, [])
  | call :: rest =>
      let ran := allocate pipeline call worker
      let later := allocateAll ran.1 rest
      (later.1, (ran.2.toOption.map Assignment.intent).toList ++ later.2)

def createdBy (worker : Worker) : List Call → List String
  | [] => []
  | call :: rest =>
      (if callCreated pipeline.fallback pipeline.hashInterpretation worker call then [call.correlationID] else []) ++
        createdBy (allocate pipeline call worker).1 rest

-- An intent that comes back is one that a run of the allocator returned.
def answered (reply : Reply (Except String NormalizedServiceIntent)) (intents : List NormalizedServiceIntent) : Bool :=
  match reply with
  | .payload (.ok intent) => intents.contains intent
  | _ => true

def World.next (world : World) : WorldInput → Option World
  | .message message => (world.thread.next pipeline.tier (.message message)).map fun thread => { world with thread }
  | .run answers allocations =>
      world.thread.node.bind fun node =>
        let outcome := runNode pipeline.tier node world.thread.state answers
        let calls := callsFor pipeline outcome.events allocations
        let ran := allocateAll pipeline world.worker calls
        if answered answers.allocator ran.2 then
          some { thread := { state := outcome.state, node := outcome.next, log := world.thread.log ++ outcome.events }
                 worker := ran.1
                 created := createdBy pipeline world.worker calls ++ world.created }
        else none

def World.Step (world : World) (input : WorldInput) (after : World) : Prop := world.next pipeline input = some after

end World

-- A new thread in front of a worker with a history of its own.
def World.start (worker : Worker) : World where
  worker := worker
  created := worker.store.claims.map Claim.correlationID ++ worker.store.leases.map Lease.correlationID

def Event.submits : Event → Bool
  | .sentEnvelope _ _ => true
  | _ => false

-- The turn is over, the request is FAILED, and no envelope was sent since it started.
def FailedUnsubmitted (thread : Thread) : Prop :=
  thread.node = none ∧ thread.state.workflowStatus = .failed ∧ ∀ event ∈ sinceStart thread.log, event.submits = false

instance (thread : Thread) : Decidable (FailedUnsubmitted thread) := inferInstanceAs (Decidable (_ ∧ _ ∧ _))

def NothingStaysClaimed (world : World) : Prop :=
  FailedUnsubmitted world.thread → ¬ Labelled world.thread.state.correlationID world.worker.store

def NothingWasCreated (world : World) : Prop :=
  FailedUnsubmitted world.thread → world.thread.state.correlationID ∉ world.created

section Labels
variable (pipeline : Pipeline)

theorem allocate_all_labels (correlationID : String) (calls : List Call) (worker : Worker) :
    Labelled correlationID (allocateAll pipeline worker calls).1.store ↔
      Labelled correlationID worker.store ∨ correlationID ∈ createdBy pipeline worker calls := by
  induction calls generalizing worker with
  | nil => simp [allocateAll, createdBy]
  | cons call rest ih =>
      have first := call_labels pipeline.fallback pipeline.validateAllOrNothing pipeline.hashInterpretation worker call
        correlationID
      have own : correlationID ∈
          (if callCreated pipeline.fallback pipeline.hashInterpretation worker call then [call.correlationID] else []) ↔
            correlationID = call.correlationID ∧
              callCreated pipeline.fallback pipeline.hashInterpretation worker call = true := by
        split
        · rename_i created
          simp [created]
        · rename_i idle
          simp [idle]
      have later := ih (allocate pipeline call worker).1
      rw [allocateAll, createdBy, List.mem_append, own]
      simp only
      rw [later, show (allocate pipeline call worker) =
        allocNode pipeline.fallback pipeline.validateAllOrNothing pipeline.hashInterpretation call worker from rfl, first,
        or_assoc]

-- What the store carries is what was created, and nothing has gone since.
def Recorded (world : World) : Prop :=
  ∀ correlationID, Labelled correlationID world.worker.store ↔ correlationID ∈ world.created

theorem start_recorded (worker : Worker) : Recorded (World.start worker) := by
  intro correlationID
  simp [World.start, Labelled]

theorem step_recorded (world : World) (input : WorldInput) (after : World) (recorded : Recorded world)
    (step : world.Step pipeline input after) : Recorded after := by
  cases input with
  | message message =>
      obtain ⟨thread, _, same⟩ := Option.map_eq_some_iff.mp step
      rw [← same]
      exact recorded
  | run answers allocations =>
      obtain ⟨node, _, ran⟩ := Option.bind_eq_some_iff.mp step
      simp only at ran
      split at ran
      · cases ran
        intro correlationID
        rw [allocate_all_labels, recorded correlationID, List.mem_append]
        exact or_comm
      · cases ran

-- Nothing that was created goes away before the request ends: it fails clean if nothing was.
theorem unsubmitted_claims_nothing_iff (worker : Worker) (inputs : List WorldInput) (final : World)
    (run : Run (World.Step pipeline) (fun _ _ => True) (World.start worker) inputs final) :
    NothingStaysClaimed final ↔ NothingWasCreated final := by
  have recorded := run_invariant (World.Step pipeline) (fun _ _ => True) Recorded
    (fun world input after recorded _ step => step_recorded pipeline world input after recorded step) _ inputs final
    (start_recorded worker) run
  have same := recorded final.thread.state.correlationID
  constructor
  · intro clean failed created
    exact clean failed (same.mpr created)
  · intro none failed labelled
    exact none failed (same.mp labelled)

end Labels

section Lab

-- KUID serves VLAN 100 and every number it is asked for.
def labAllocation : Allocation where
  answers := {
    vlan := { uuid := "000000000001", create := .served (some 100) }
    l2vni := { uuid := "000000000002", create := .served (some 10000) }
    rt := { uuid := "000000000003", create := .served (some 1) }
    l3vni := { uuid := "000000000004", create := .served (some 10000) }
    subnets := fun _ => { create := .served "192.168.1.0/24" } }

def labPipeline (interp : Interpretation) : Pipeline where
  tier := labTier
  fallback := true
  validateAllOrNothing _ := none
  hashInterpretation := Interpretation.serviceID
  receive _ := (some interp, "4f2a")

def labWorldInput : Input → WorldInput
  | .message message => .message message
  | .run answers => .run answers [labAllocation]

-- Declined at the deployment question.
def labDeclined : List WorldInput := (labAllocated "yes" ++ [said "decline", .run {}]).map labWorldInput

def labWorld (interp : Interpretation) (inputs : List WorldInput) : Option World :=
  play (World.next (labPipeline interp)) (World.start {}) inputs

def labNamedVLAN : Interpretation :=
  { labInterpretation with endpoints := [{ siteOrNode := "leaf01", attachment := "eth1", vlan := some 100 }] }

-- The operator names the VLAN, so that nothing is claimed, and the declined request leaves nothing.
theorem lab_named_vlan_leaves_nothing :
    ∃ final, labWorld labNamedVLAN labDeclined = some final ∧ FailedUnsubmitted final.thread ∧ NothingStaysClaimed final := by
  have played : Played (fun _ _ => True) (World.next (labPipeline labNamedVLAN)) (World.start {}) labDeclined := by decide
  obtain ⟨final, ends⟩ := played_ends _ (World.next (labPipeline labNamedVLAN)) _ _ played
  have reached : labWorld labNamedVLAN labDeclined = some final := ends
  have ended : ∀ final ∈ labWorld labNamedVLAN labDeclined, FailedUnsubmitted final.thread ∧ final.created = [] := by decide
  obtain ⟨failed, none⟩ := ended final reached
  have idle : NothingWasCreated final := by
    intro _ created
    rw [none] at created
    cases created
  exact ⟨final, reached, failed, (unsubmitted_claims_nothing_iff (labPipeline labNamedVLAN) {} labDeclined final
    (played_run _ (World.next (labPipeline labNamedVLAN)) _ _ final played ends)).mpr idle⟩

-- Every state that every run of the thread reaches.
def NothingEverStays (pipeline : Pipeline) (worker : Worker) : Prop :=
  ∀ (inputs : List WorldInput) (final : World),
    Run (World.Step pipeline) (fun _ _ => True) (World.start worker) inputs final → NothingStaysClaimed final

-- Declined at the deployment question, the request leaves VLAN 100 claimed under its correlation id.
theorem lab_declined_stays_claimed : ¬ NothingEverStays (labPipeline labInterpretation) {} := by
  intro nothing
  have played : Played (fun _ _ => True) (World.next (labPipeline labInterpretation)) (World.start {}) labDeclined := by
    decide
  obtain ⟨final, ends⟩ := played_ends _ (World.next (labPipeline labInterpretation)) _ _ played
  have run := played_run _ (World.next (labPipeline labInterpretation)) _ _ final played ends
  have reached : labWorld labInterpretation labDeclined = some final := ends
  have ended : ∀ final ∈ labWorld labInterpretation labDeclined, FailedUnsubmitted final.thread ∧
      Labelled final.thread.state.correlationID final.worker.store := by decide
  obtain ⟨failed, labelled⟩ := ended final reached
  exact nothing labDeclined final run failed labelled

end Lab

end AgenticNetops.Supervisor
