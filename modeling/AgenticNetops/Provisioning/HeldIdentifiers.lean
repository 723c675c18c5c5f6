import AgenticNetops.Lib.Runs
import AgenticNetops.Provisioning.BuildIntent

set_option autoImplicit false

/- Whether the identifiers of a returned intent are held. The memo answers by the
   interpretation alone: for which correlation id its entry was claimed, and whether
   those claims still stand, it does not ask. -/
namespace AgenticNetops.Provisioning

open GoText Exits Runs Schemas

-- An intent the allocator returned, and for which correlation id.
structure Returned where
  correlationID : String
  assignment : Assignment
deriving DecidableEq, Repr

/- One worker's calls and the releases between them. `latest` says which entry of the
   memo the claims of a correlation id were last made for. -/
structure History where
  worker : Worker := {}
  latest : String → Option String := fun _ => none
  returned : List Returned := []

inductive Act where
  | call (call : Call)
  | release (correlationID : String) (spared : StoredObject → Bool)

section History
variable (fallback : Bool) (validateAllOrNothing : NormalizedServiceIntent → Option Message)
variable (hashInterpretation : Interpretation → String)

def latestAfter (history : History) (call : Call) (answered : Bool) : String → Option String :=
  match call.payload with
  | none => history.latest
  | some interp =>
      match history.worker.memo.get? (hashInterpretation interp) with
      | some _ => history.latest
      | none => Function.update history.latest call.correlationID
          (if answered then some (hashInterpretation interp) else none)

def History.next (history : History) : Act → History × Option Returned
  | .release correlationID spared =>
      let store := releaseByCorrelation fallback correlationID spared history.worker.store
      ({ history with worker := { history.worker with store },
                      latest := Function.update history.latest correlationID none }, none)
  | .call call =>
      match allocNode fallback validateAllOrNothing hashInterpretation call history.worker with
      | (worker, .error _) =>
          ({ history with worker, latest := latestAfter hashInterpretation history call false }, none)
      | (worker, .ok assignment) =>
          let result : Returned := ⟨call.correlationID, assignment⟩
          ({ worker, latest := latestAfter hashInterpretation history call true,
             returned := history.returned ++ [result] }, some result)

def History.Step (history : History) (act : Act) (after : History) : Prop :=
  (history.next fallback validateAllOrNothing hashInterpretation act).1 = after

def History.after (acts : List Act) : History :=
  acts.foldl (fun history act => (history.next fallback validateAllOrNothing hashInterpretation act).1) {}

end History

/- What a returned intent promises at the moment it is returned: the identifiers that it
   carries as claimed are held for it, for no other returned intent, and nothing else is. -/
structure ReallyHeld (returned : List Returned) (store : Store) (result : Returned) : Prop where
  carried : ∃ interp, NamesClaims interp result.assignment
  held : ∀ x ∈ result.assignment.claimed, x ∈ heldUnder store result.correlationID
  sole : ∀ other ∈ returned, other.correlationID ≠ result.correlationID → ∀ x ∈ result.assignment.claimed,
    x ∈ other.assignment.claimed → x ∉ heldUnder store other.correlationID
  nothingElse : ∀ x ∈ heldUnder store result.correlationID, x ∈ result.assignment.claimed

-- Of the correlation id, the store holds client prefixes of the call's endpoints and nothing else.
def HoldsOwnPrefixes (store : Store) (correlationID : String) (interp : Interpretation) : Prop :=
  (∀ claim ∈ store.claims, claim.correlationID = correlationID → claim.identifier.isSome →
    ClaimsPrefixes interp ∧ claim.plural = "ipclaims" ∧
      ∃ endpoint ∈ interp.endpoints, claim.name = prefixClaimName correlationID endpoint) ∧
  ∀ lease ∈ store.leases, lease.correlationID = correlationID → lease.identifier = none

instance (store : Store) (correlationID : String) (interp : Interpretation) :
    Decidable (HoldsOwnPrefixes store correlationID interp) := inferInstanceAs (Decidable (_ ∧ _))

/- The acts that keep the promise. A memo entry answers for the correlation id whose
   claims were last made for it, or claimed nothing for one that holds nothing; a new
   request meets no left-overs of its correlation id and is handed nothing of another's. -/
def CleanAct (hashInterpretation : Interpretation → String) (history : History) : Act → Prop
  | .release _ _ => True
  | .call call =>
      ∀ interp ∈ call.payload,
        (∀ cached ∈ history.worker.memo.get? (hashInterpretation interp),
          history.latest call.correlationID = some (hashInterpretation interp) ∨
            cached.claimed = [] ∧ heldUnder history.worker.store call.correlationID = []) ∧
        (history.worker.memo.get? (hashInterpretation interp) = none →
          HoldsOwnPrefixes history.worker.store call.correlationID interp ∧
            CleanCall history.worker.store call.correlationID interp call.answers)

instance (hashInterpretation : Interpretation → String) (history : History) (act : Act) :
    Decidable (CleanAct hashInterpretation history act) :=
  match act with
  | .release _ _ => isTrue trivial
  | .call call => inferInstanceAs (Decidable (∀ interp ∈ call.payload,
      (∀ cached ∈ history.worker.memo.get? (hashInterpretation interp),
        history.latest call.correlationID = some (hashInterpretation interp) ∨
          cached.claimed = [] ∧ heldUnder history.worker.store call.correlationID = []) ∧
      (history.worker.memo.get? (hashInterpretation interp) = none →
        HoldsOwnPrefixes history.worker.store call.correlationID interp ∧
          CleanCall history.worker.store call.correlationID interp call.answers)))

structure Sound (history : History) : Prop where
  exclusive : ∀ x first second, x ∈ heldUnder history.worker.store first → x ∈ heldUnder history.worker.store second →
    first = second
  unique : UniqueNames history.worker.store
  memo : ∀ key cached, history.worker.memo.get? key = some cached → ∃ interp, NamesClaims interp cached
  latest : ∀ correlationID key, history.latest correlationID = some key →
    ∃ cached, history.worker.memo.get? key = some cached ∧
      ∀ x, x ∈ heldUnder history.worker.store correlationID ↔ x ∈ cached.claimed

theorem start_sound : Sound {} where
  exclusive x first second held := by simp [heldUnder] at held
  unique := List.nodup_nil
  memo _ _ stored := by cases stored
  latest _ _ known := by cases known

-- Additions that hand out nothing of another's leave every identifier with one correlation id.
theorem progress_exclusive (correlationID : String) (before after : Store) (handed : List Identifier)
    (progress : Progress correlationID before handed after)
    (exclusive : ∀ x first second, x ∈ heldUnder before first → x ∈ heldUnder before second → first = second)
    (x : Identifier) (first second : String) (heldFirst : x ∈ heldUnder after first)
    (heldSecond : x ∈ heldUnder after second) : first = second := by
  have alone (other : String) (different : other ≠ correlationID) (own : x ∈ heldUnder after correlationID)
      (others : x ∈ heldUnder after other) : False := by
    have old := (progress.grown.others other different x).mp others
    cases (progress.grown.own x).mp own with
    | inl held => exact different (exclusive x other correlationID old held)
    | inr handed =>
        cases progress.fresh x handed with
        | inl held => exact different (exclusive x other correlationID old held)
        | inr fresh => exact fresh other different old
  by_cases isFirst : first = correlationID
  · by_cases isSecond : second = correlationID
    · rw [isFirst, isSecond]
    · exact (alone second isSecond (isFirst ▸ heldFirst) heldSecond).elim
  · by_cases isSecond : second = correlationID
    · exact (alone first isFirst (isSecond ▸ heldSecond) heldFirst).elim
    · exact exclusive x first second ((progress.grown.others first isFirst x).mp heldFirst)
        ((progress.grown.others second isSecond x).mp heldSecond)

section Releases
variable (fallback : Bool) (correlationID : String) (spared : StoredObject → Bool) (store : Store)

theorem release_held_sub (other : String) (x : Identifier)
    (held : x ∈ heldUnder (releaseByCorrelation fallback correlationID spared store) other) : x ∈ heldUnder store other := by
  cases (held_under_iff _ _ _).mp held with
  | inl claimed =>
      obtain ⟨claim, member, stands⟩ := claimed
      exact (held_under_iff _ _ _).mpr (.inl ⟨claim, List.mem_of_mem_filter member, stands⟩)
  | inr leased =>
      obtain ⟨lease, member, stands⟩ := leased
      exact (held_under_iff _ _ _).mpr (.inr ⟨lease, List.mem_of_mem_filter member, stands⟩)

theorem release_held_other (other : String) (different : other ≠ correlationID) (x : Identifier) :
    x ∈ heldUnder (releaseByCorrelation fallback correlationID spared store) other ↔ x ∈ heldUnder store other := by
  constructor
  · exact release_held_sub fallback correlationID spared store other x
  · intro held
    cases (held_under_iff _ _ _).mp held with
    | inl claimed =>
        obtain ⟨claim, member, owner, stands⟩ := claimed
        refine (held_under_iff _ _ _).mpr (.inl ⟨claim, List.mem_filter.mpr ⟨member, ?_⟩, owner, stands⟩)
        simp [owner, different]
    | inr leased =>
        obtain ⟨lease, member, owner, stands⟩ := leased
        refine (held_under_iff _ _ _).mpr (.inr ⟨lease, List.mem_filter.mpr ⟨member, ?_⟩, owner, stands⟩)
        simp [owner, different]

theorem release_unique (unique : UniqueNames store) :
    UniqueNames (releaseByCorrelation fallback correlationID spared store) :=
  List.Nodup.sublist (List.filter_sublist.map _) unique

end Releases

section Steps
variable (fallback : Bool) (validateAllOrNothing : NormalizedServiceIntent → Option Message)
variable (hashInterpretation : Interpretation → String)

theorem release_sound (history : History) (correlationID : String) (spared : StoredObject → Bool) (sound : Sound history) :
    Sound (history.next fallback validateAllOrNothing hashInterpretation (.release correlationID spared)).1 where
  exclusive x first second heldFirst heldSecond :=
    sound.exclusive x first second (release_held_sub fallback correlationID spared _ first x heldFirst)
      (release_held_sub fallback correlationID spared _ second x heldSecond)
  unique := release_unique fallback correlationID spared _ sound.unique
  memo := sound.memo
  latest other key known := by
    by_cases same : other = correlationID
    · simp [History.next, same] at known
    · have before : history.latest other = some key := by simpa [History.next, same] using known
      obtain ⟨cached, stored, holds⟩ := sound.latest other key before
      exact ⟨cached, stored, fun x =>
        (release_held_other fallback correlationID spared _ other same x).trans (holds x)⟩

-- Everything the correlation id held before the call is named by the intent.
theorem own_prefixes_claimed (store after : Store) (correlationID : String) (interp : Interpretation)
    (claimed : List Identifier) (unique : UniqueNames store) (own : HoldsOwnPrefixes store correlationID interp)
    (grown : Grown correlationID store claimed after)
    (named : ClaimsPrefixes interp → ∀ endpoint ∈ interp.endpoints,
      NamedPrefix claimed after (prefixClaimName correlationID endpoint))
    (x : Identifier) (held : x ∈ heldUnder store correlationID) : x ∈ claimed := by
  cases (held_under_iff _ _ _).mp held with
  | inr leased =>
      obtain ⟨lease, member, owner, stands⟩ := leased
      rw [own.2 lease member owner] at stands
      cases stands
  | inl claim =>
      obtain ⟨claim, member, owner, stands⟩ := claim
      obtain ⟨claims, plural, endpoint, inList, name⟩ := own.1 claim member owner (by simp [stands])
      obtain ⟨found, isFound, text, foundStands, inClaimed⟩ := named claims endpoint inList
      have stays := grown.found _ _ claim (find_unique store unique claim member)
      rw [plural, name, isFound] at stays
      cases stays
      rw [foundStands] at stands
      cases stands
      exact inClaimed

-- What one new allocation leaves: the store it has grown, and the intent if it was built.
theorem alloc_new (history : History) (call : Call) (interp : Interpretation) (payload : call.payload = some interp)
    (missed : history.worker.memo.get? (hashInterpretation interp) = none) (sound : Sound history)
    (own : HoldsOwnPrefixes history.worker.store call.correlationID interp)
    (clean : CleanCall history.worker.store call.correlationID interp call.answers) :
    match allocNode fallback validateAllOrNothing hashInterpretation call history.worker with
    | (worker, .error _) => worker.memo = history.worker.memo ∧
        Left call.correlationID history.worker.store .transport worker.store
    | (worker, .ok assignment) => worker.memo = history.worker.memo.set (hashInterpretation interp) assignment ∧
        NamesClaims interp assignment ∧
        Progress call.correlationID history.worker.store assignment.claimed worker.store ∧
        ∀ x, x ∈ heldUnder worker.store call.correlationID ↔ x ∈ assignment.claimed := by
  have built := triple_build_intent fallback call.correlationID history.worker.store validateAllOrNothing interp
    call.answers clean history.worker.store rfl
  unfold allocNode
  simp only [payload, missed]
  cases outcome : buildIntent fallback validateAllOrNothing interp call.correlationID call.answers history.worker.store with
  | mk store result =>
      rw [outcome] at built
      cases result with
      | error failure => exact ⟨rfl, built⟩
      | ok assignment =>
          obtain ⟨progress, named⟩ := built
          have names := build_intent_names fallback call.correlationID history.worker.store store validateAllOrNothing
            interp call.answers assignment outcome
          refine ⟨rfl, names, progress, fun x => (progress.grown.own x).trans ?_⟩
          exact or_iff_right_of_imp (own_prefixes_claimed history.worker.store store call.correlationID interp
            assignment.claimed sound.unique own progress.grown named x)

theorem really_held (returned : List Returned) (store : Store) (result : Returned)
    (carried : ∃ interp, NamesClaims interp result.assignment)
    (exclusive : ∀ x first second, x ∈ heldUnder store first → x ∈ heldUnder store second → first = second)
    (exactly : ∀ x, x ∈ heldUnder store result.correlationID ↔ x ∈ result.assignment.claimed) :
    ReallyHeld returned store result where
  carried := carried
  held x member := (exactly x).mpr member
  sole other _ different x member _ held :=
    different (exclusive x other.correlationID result.correlationID held ((exactly x).mpr member))
  nothingElse x held := (exactly x).mp held

-- A call that only adds to the store and the memo leaves the other correlation ids their entries.
theorem grown_sound (history : History) (sound : Sound history) (correlationID : String) (handed : List Identifier)
    (worker : Worker) (progress : Progress correlationID history.worker.store handed worker.store)
    (memo : ∀ key cached, history.worker.memo.get? key = some cached → worker.memo.get? key = some cached)
    (named : ∀ key cached, worker.memo.get? key = some cached → ∃ interp, NamesClaims interp cached)
    (entry : Option String) (returned : List Returned)
    (own : ∀ key, entry = some key → ∃ cached, worker.memo.get? key = some cached ∧
      ∀ x, x ∈ heldUnder worker.store correlationID ↔ x ∈ cached.claimed) :
    Sound { worker := worker, latest := Function.update history.latest correlationID entry, returned := returned } where
  exclusive := progress_exclusive correlationID history.worker.store worker.store handed progress sound.exclusive
  unique := progress.grown.unique sound.unique
  memo := named
  latest other key known := by
    by_cases same : other = correlationID
    · subst same
      exact own key (by simpa using known)
    · obtain ⟨cached, stored, holds⟩ := sound.latest other key (by simpa [same] using known)
      exact ⟨cached, memo key cached stored, fun x => (progress.grown.others other same x).trans (holds x)⟩

theorem call_hit (history : History) (call : Call) (interp : Interpretation) (payload : call.payload = some interp)
    (cached : Assignment) (hit : history.worker.memo.get? (hashInterpretation interp) = some cached) :
    history.next fallback validateAllOrNothing hashInterpretation (.call call) =
      ({ history with returned := history.returned ++ [⟨call.correlationID, cached⟩] },
        some ⟨call.correlationID, cached⟩) := by
  simp [History.next, allocNode, latestAfter, payload, hit]

section Missed
variable (history : History) (call : Call) (interp : Interpretation) (payload : call.payload = some interp)
variable (missed : history.worker.memo.get? (hashInterpretation interp) = none)
include payload missed

theorem call_failed (worker : Worker) (failure : Failure)
    (outcome : allocNode fallback validateAllOrNothing hashInterpretation call history.worker = (worker, .error failure)) :
    history.next fallback validateAllOrNothing hashInterpretation (.call call) =
      ({ history with worker, latest := Function.update history.latest call.correlationID none }, none) := by
  simp [History.next, outcome, latestAfter, payload, missed]

theorem call_answered (worker : Worker) (assignment : Assignment)
    (outcome : allocNode fallback validateAllOrNothing hashInterpretation call history.worker = (worker, .ok assignment)) :
    history.next fallback validateAllOrNothing hashInterpretation (.call call) =
      ({ worker, latest := Function.update history.latest call.correlationID (some (hashInterpretation interp)),
         returned := history.returned ++ [⟨call.correlationID, assignment⟩] },
        some ⟨call.correlationID, assignment⟩) := by
  simp [History.next, outcome, latestAfter, payload, missed]

end Missed

-- What one call keeps, and what it promises of the intent it returns.
theorem call_sound (history : History) (call : Call) (sound : Sound history)
    (clean : CleanAct hashInterpretation history (.call call)) :
    Sound (history.next fallback validateAllOrNothing hashInterpretation (.call call)).1 ∧
      ∀ result ∈ (history.next fallback validateAllOrNothing hashInterpretation (.call call)).2,
        ReallyHeld history.returned
          (history.next fallback validateAllOrNothing hashInterpretation (.call call)).1.worker.store result := by
  cases payload : call.payload with
  | none =>
      have idle : history.next fallback validateAllOrNothing hashInterpretation (.call call) = (history, none) := by
        simp [History.next, allocNode, latestAfter, payload]
      rw [idle]
      exact ⟨sound, fun result member => by cases member⟩
  | some interp =>
      have allowed := clean interp payload
      cases hit : history.worker.memo.get? (hashInterpretation interp) with
      | some cached =>
          rw [call_hit fallback validateAllOrNothing hashInterpretation history call interp payload cached hit]
          have answers := allowed.1 cached hit
          refine ⟨⟨sound.exclusive, sound.unique, sound.memo, sound.latest⟩, fun result member => ?_⟩
          cases member
          refine really_held _ _ _ (sound.memo _ cached hit) sound.exclusive fun x => ?_
          cases answers with
          | inl latest =>
              obtain ⟨stored, same, holds⟩ := sound.latest call.correlationID _ latest
              rw [hit] at same
              cases same
              exact holds x
          | inr empty => simp [empty.1, empty.2]
      | none =>
          have fresh := allowed.2 hit
          have made := alloc_new fallback validateAllOrNothing hashInterpretation history call interp payload hit sound
            fresh.1 fresh.2
          cases outcome : allocNode fallback validateAllOrNothing hashInterpretation call history.worker with
          | mk worker result =>
              rw [outcome] at made
              cases result with
              | error failure =>
                  obtain ⟨sameMemo, more, progress⟩ := made
                  rw [call_failed fallback validateAllOrNothing hashInterpretation history call interp payload hit worker
                    failure outcome]
                  refine ⟨?_, fun result member => by cases member⟩
                  exact grown_sound history sound call.correlationID more worker progress
                    (fun key cached stored => by rw [sameMemo]; exact stored)
                    (fun key cached stored => sound.memo key cached (by rw [← sameMemo]; exact stored)) none _
                    fun key known => by cases known
              | ok assignment =>
                  obtain ⟨newMemo, names, progress, exactly⟩ := made
                  rw [call_answered fallback validateAllOrNothing hashInterpretation history call interp payload hit
                    worker assignment outcome]
                  refine ⟨?_, fun result member => ?_⟩
                  · refine grown_sound history sound call.correlationID _ worker progress ?_ ?_
                      (some (hashInterpretation interp)) _ fun key known => ?_
                    · intro key cached stored
                      have other : key ≠ hashInterpretation interp := by
                        intro same
                        rw [same, hit] at stored
                        cases stored
                      rw [newMemo, get_set_other _ _ _ _ other]
                      exact stored
                    · intro key cached stored
                      rw [newMemo] at stored
                      by_cases same : key = hashInterpretation interp
                      · rw [same, get_set_same] at stored
                        cases stored
                        exact ⟨interp, names⟩
                      · rw [get_set_other _ _ _ _ same] at stored
                        exact sound.memo key cached stored
                    · cases known
                      exact ⟨assignment, by rw [newMemo, get_set_same], exactly⟩
                  · cases member
                    exact really_held _ _ _ ⟨interp, names⟩ (progress_exclusive call.correlationID history.worker.store worker.store _
                      progress sound.exclusive) exactly

theorem run_sound (acts : List Act) (history : History)
    (run : Run (History.Step fallback validateAllOrNothing hashInterpretation) (CleanAct hashInterpretation) {} acts
      history) : Sound history := by
  refine run_invariant _ _ Sound ?_ {} acts history start_sound run
  intro history act after sound clean step
  rw [History.Step] at step
  rw [← step]
  cases act with
  | release correlationID spared =>
      exact release_sound fallback validateAllOrNothing hashInterpretation history correlationID spared sound
  | call call => exact (call_sound fallback validateAllOrNothing hashInterpretation history call sound clean).1

end Steps

-- A vlan service of one endpoint, for which the claim server serves VLAN 100.
def labVLAN : Interpretation where
  serviceID := "vlan-blue"
  serviceType := .vlan
  tenant := "blue"
  endpoints := [{ siteOrNode := "leaf01", attachment := "eth1" }]

def labNumber (uuid : String) (number : Int) : NumberAnswers := { uuid, create := .served (some number) }

def labCall (correlationID uuid : String) : Call where
  payload := some labVLAN
  correlationID := correlationID
  answers := {
    vlan := labNumber uuid 100
    l2vni := labNumber uuid 10000
    rt := labNumber uuid 1
    l3vni := labNumber uuid 10000
    subnets := fun _ => { create := .served "192.168.1.0/24" } }

def labNext (history : History) (act : Act) : History × Option Returned :=
  history.next true (fun _ => none) Interpretation.serviceID act

def labAfter (acts : List Act) : History := acts.foldl (fun history act => (labNext history act).1) {}

def labFirst : Act := .call (labCall "4f2a" "000000000001")

def labReturned (correlationID : String) : Returned where
  correlationID := correlationID
  assignment := {
    intent := { serviceID := "vlan-blue", type := "vlan", tenant := "blue",
                endpoints := [{ node := "leaf01", attachment := "eth1", vlan := some 100 }] }
    claimed := [.number "fabric-vlan" 100] }

-- The claim for every sequence of calls and releases, as one statement.
def IdentifiersHeld (fallback : Bool) (validateAllOrNothing : NormalizedServiceIntent → Option Message)
    (hashInterpretation : Interpretation → String) : Prop :=
  ∀ (acts : List Act) (call : Call) (result : Returned),
    let history := History.after fallback validateAllOrNothing hashInterpretation acts
    let next := history.next fallback validateAllOrNothing hashInterpretation (.call call)
    next.2 = some result → ReallyHeld history.returned next.1.worker.store result

end AgenticNetops.Provisioning
