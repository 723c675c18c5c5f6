import Mathlib.Data.List.Pairwise
import AgenticNetops.Lib.Runs
import AgenticNetops.Kuid.Lease

set_option autoImplicit false

/- Any number of AllocateLeaseID calls and releases over one store of leases, one
   request at a time. `moments` is every store that has stood so far, the current one
   last: a ghost that only statements read. -/
namespace AgenticNetops.Kuid

open GoText Runs

/- A call after its list: walking over the values it saw free, about to read the lease
   behind a taken name, or at its end. `atMoment` counts the moments up to there. -/
inductive LeasePhase where
  | walking (free : List Int)
  | reading (value : Int) (rest : List Int)
  | held (value : Int)
  | failed (err : KuidError)
  | exhausted (atMoment : Nat)
deriving Repr

structure LeaseCall where
  kind : String
  pool : String
  first : Nat
  last : Nat
  correlationID : String
  began : Nat
  phase : LeasePhase
deriving Repr

def LeaseCall.range (call : LeaseCall) : List Int :=
  (List.range (call.last + 1 - call.first)).map fun step => ((call.first + step : Nat) : Int)

-- What the call returns once it has ended.
def LeaseCall.result (call : LeaseCall) : Option (Except KuidError Int) :=
  match call.phase with
  | .walking _ | .reading _ _ => none
  | .held value => some (.ok value)
  | .failed err => some (.error err)
  | .exhausted _ =>
      some (.error (.exhaustion call.pool [.lit "no available ", .str call.kind, .lit " ids (", .int call.first, .lit "-",
        .int call.last, .lit ")"]))

def LeaseCall.Active (call : LeaseCall) : Prop := call.result = none

instance (call : LeaseCall) : Decidable call.Active := inferInstanceAs (Decidable (_ = none))

structure LeaseWorld where
  leases : List Lease := []
  moments : List (List Lease) := [[]]
  calls : List LeaseCall := []
  releases : List (List String) := []
deriving Repr

/- A create that fails otherwise than on a taken name may have been carried out
   (`landed`). -/
inductive LeaseAnswer where
  | served
  | failed (err : ApiError) (landed : Bool)
deriving Repr

inductive LeaseMove where
  | allocate (kind pool : String) (first last : Nat) (correlationID : String)
  | create (i : Nat) (answer : LeaseAnswer)
  | get (i : Nat) (failed : Bool)
  | release (correlationID : String)
  | delete (i : Nat) (failed : Bool)
deriving Repr

-- The next free value, or the end of the scan.
def advance (moments : Nat) : List Int → LeasePhase
  | [] => .exhausted moments
  | value :: rest => .walking (value :: rest)

-- The list with which a call starts.
def listed (world : LeaseWorld) (kind pool : String) (range : List Int) (correlationID : String) : LeasePhase :=
  match heldLeaseID world.leases kind pool correlationID with
  | some value => .held value
  | none => advance world.moments.length (range.filter fun value => value ∉ usedLeaseIDs world.leases pool)

def LeaseWorld.begin (world : LeaseWorld) (kind pool : String) (first last : Nat) (correlationID : String) : LeaseCall :=
  let call : LeaseCall := ⟨kind, pool, first, last, correlationID, world.moments.length - 1, .walking []⟩
  { call with phase := listed world kind pool call.range correlationID }

def addUnlessTaken (leases : List Lease) (lease : Lease) : List Lease :=
  if leases.any fun held => held.name = lease.name then leases else leases ++ [lease]

def LeaseCall.afterCreate (call : LeaseCall) (leases : List Lease) (value : Int) (rest : List Int) :
    LeaseAnswer → List Lease × LeasePhase
  | .served =>
      if leases.any fun held => held.name = leaseName call.kind call.pool value then (leases, .reading value rest)
      else (leases ++ [newLease call.kind call.pool value call.correlationID], .held value)
  | .failed err landed =>
      let stored := if landed then addUnlessTaken leases (newLease call.kind call.pool value call.correlationID) else leases
      (stored, .failed (classify call.pool err))

def LeaseCall.afterGet (call : LeaseCall) (world : LeaseWorld) (value : Int) (rest : List Int) (failed : Bool) : LeasePhase :=
  match world.leases.find? fun held => held.name = leaseName call.kind call.pool value with
  | some existing =>
      if ¬ failed ∧ existing.correlationID = call.correlationID then .held value
      else advance world.moments.length rest
  | none => advance world.moments.length rest

def LeaseWorld.put (world : LeaseWorld) (leases : List Lease) (calls : List LeaseCall) : LeaseWorld :=
  { world with leases, calls, moments := world.moments ++ [leases] }

def leaseNamesOf (leases : List Lease) (correlationID : String) : List String :=
  (leases.filter fun lease => lease.correlationID = correlationID).map Lease.name

def LeaseWorld.next (world : LeaseWorld) : LeaseMove → Option LeaseWorld
  | .allocate kind pool first last correlationID =>
      some (world.put world.leases (world.calls ++ [world.begin kind pool first last correlationID]))
  | .create i answer =>
      match world.calls[i]? with
      | none => none
      | some call =>
          match call.phase with
          | .walking (value :: rest) =>
              let (leases, phase) := call.afterCreate world.leases value rest answer
              some (world.put leases (world.calls.set i { call with phase }))
          | _ => none
  | .get i failed =>
      match world.calls[i]? with
      | none => none
      | some call =>
          match call.phase with
          | .reading value rest =>
              let phase := call.afterGet world value rest failed
              some (world.put world.leases (world.calls.set i { call with phase }))
          | _ => none
  | .release correlationID =>
      some { world with releases := world.releases ++ [leaseNamesOf world.leases correlationID] }
  | .delete i failed =>
      match world.releases[i]? with
      | some (name :: rest) =>
          let leases := world.leases.filter fun lease => lease.name ≠ name ∨ failed
          some { world.put leases world.calls with releases := world.releases.set i rest }
      | _ => none

def LeaseStep (world : LeaseWorld) (move : LeaseMove) (world' : LeaseWorld) : Prop := world.next move = some world'

-- The calls of one correlation id run one after the other.
def OneCallAtATime (world : LeaseWorld) : LeaseMove → Prop
  | .allocate _ _ _ _ correlationID => ∀ call ∈ world.calls, call.Active → call.correlationID ≠ correlationID
  | _ => True

instance (world : LeaseWorld) (move : LeaseMove) : Decidable (OneCallAtATime world move) :=
  match move with
  | .allocate _ _ _ _ correlationID =>
      inferInstanceAs (Decidable (∀ call ∈ world.calls, call.Active → call.correlationID ≠ correlationID))
  | .create _ _ | .get _ _ | .release _ | .delete _ _ => isTrue trivial

-- The correlation id holds the value of the kind and pool.
def Holds (leases : List Lease) (kind pool : String) (value : Int) (correlationID : String) : Prop :=
  newLease kind pool value correlationID ∈ leases

instance (leases : List Lease) (kind pool : String) (value : Int) (correlationID : String) :
    Decidable (Holds leases kind pool value correlationID) := inferInstanceAs (Decidable (_ ∈ leases))

-- The stores that stood while an exhausted call ran.
def LeaseCall.during (call : LeaseCall) (moments : List (List Lease)) : List (List Lease) :=
  match call.phase with
  | .exhausted atMoment => (moments.take atMoment).drop call.began
  | _ => moments.drop call.began

-- The labels under which a call looks for its own lease.
def LeaseCall.Owns (call : LeaseCall) (lease : Lease) : Prop :=
  lease.kind = sanitize call.kind ∧ lease.pool = sanitize call.pool ∧ lease.correlationID = call.correlationID

instance (call : LeaseCall) (lease : Lease) : Decidable (call.Owns lease) := inferInstanceAs (Decidable (_ ∧ _ ∧ _))

/- A lease that is not the call's own bars the value: it carries it in the pool, or it
   has the name of the value's lease. -/
def LeaseCall.Barred (call : LeaseCall) (leases : List Lease) (value : Int) : Prop :=
  ∃ lease ∈ leases, ¬ call.Owns lease ∧
    ((lease.pool = sanitize call.pool ∧ lease.allocatedID = some value) ∨ lease.name = leaseName call.kind call.pool value)

def LeaseCall.BarredDuring (call : LeaseCall) (moments : List (List Lease)) (value : Int) : Prop :=
  ∃ leases ∈ call.during moments, call.Barred leases value

-- The values that the scan has not come to yet.
def LeasePhase.left : LeasePhase → Option (List Int)
  | .walking free => some free
  | .reading _ rest => some rest
  | .exhausted _ => some []
  | .held _ | .failed _ => none

structure StoreSound (leases : List Lease) : Prop where
  names : (leases.map Lease.name).Nodup
  origin : ∀ lease ∈ leases, ∃ kind pool value correlationID, lease = newLease kind pool value correlationID
  single : leases.Pairwise fun a b => ¬ (a.kind = b.kind ∧ a.pool = b.pool ∧ a.correlationID = b.correlationID)

-- A running call holds nothing yet, and every value it has passed was barred meanwhile.
structure CallSound (leases : List Lease) (moments : List (List Lease)) (call : LeaseCall) : Prop where
  began : call.began < moments.length
  ended : ∀ atMoment, call.phase = .exhausted atMoment → call.began < atMoment ∧ atMoment ≤ moments.length
  unheld : call.Active → ∀ lease ∈ leases, ¬ call.Owns lease
  barred : ∀ left, call.phase.left = some left → ∀ value ∈ call.range, value ∈ left ∨ call.BarredDuring moments value

structure WorldSound (world : LeaseWorld) : Prop where
  store : StoreSound world.leases
  current : world.moments.getLast? = some world.leases
  calls : ∀ (i : Nat) (call : LeaseCall), world.calls[i]? = some call → CallSound world.leases world.moments call
  apart : ∀ (i j : Nat) (a b : LeaseCall), world.calls[i]? = some a → world.calls[j]? = some b → a.Active → b.Active →
    a.correlationID = b.correlationID → i = j

section Moments
variable (moments : List (List Lease)) (leases : List Lease) (call : LeaseCall)

theorem during_append (ended : ∀ atMoment, call.phase = .exhausted atMoment → atMoment ≤ moments.length)
    (earlier : List Lease) (inside : earlier ∈ call.during moments) : earlier ∈ call.during (moments ++ [leases]) := by
  rw [LeaseCall.during] at inside ⊢
  cases phase : call.phase with
  | exhausted atMoment =>
      rw [phase] at inside
      simp only at inside ⊢
      rw [List.take_append_of_le_length (ended atMoment phase)]
      exact inside
  | _ =>
      rw [phase] at inside
      simp only at inside ⊢
      by_cases within : call.began ≤ moments.length
      · rw [List.drop_append_of_le_length within]
        exact List.mem_append_left _ inside
      · rw [List.drop_eq_nil_of_le (by omega)] at inside
        cases inside

-- The current store is among the moments of a call that is still running, or ends now.
theorem current_during (current : moments.getLast? = some leases) (began : call.began < moments.length) :
    leases ∈ moments.drop call.began := by
  have nonempty : moments ≠ [] := by
    intro empty
    rw [empty] at began
    exact absurd began (Nat.not_lt_zero _)
  have last : moments.getLast nonempty = leases := by
    rw [List.getLast?_eq_getLast_of_ne_nil nonempty] at current
    exact Option.some.inj current
  have rest : moments.drop call.began ≠ [] := by
    intro empty
    have short := List.drop_eq_nil_iff.mp empty
    omega
  rw [← last, ← List.getLast_drop rest]
  exact List.getLast_mem rest

theorem call_sound_put (stored : List Lease) (sound : CallSound leases moments call)
    (unheld : call.Active → ∀ lease ∈ stored, ¬ call.Owns lease) : CallSound stored (moments ++ [stored]) call where
  began := by
    have before := sound.began
    simp only [List.length_append, List.length_singleton]
    omega
  ended atMoment phase := by
    have before := sound.ended atMoment phase
    simp only [List.length_append, List.length_singleton]
    omega
  unheld := unheld
  barred left phase value inside := by
    cases sound.barred left phase value inside with
    | inl coming => exact .inl coming
    | inr barred =>
        obtain ⟨earlier, member, bars⟩ := barred
        exact .inr ⟨earlier, during_append moments stored call (fun at' ends => (sound.ended at' ends).2) earlier member, bars⟩

theorem running_during (running : ∀ atMoment, call.phase ≠ .exhausted atMoment) :
    call.during moments = moments.drop call.began := by
  rw [LeaseCall.during]
  cases phase : call.phase with
  | exhausted atMoment => exact absurd phase (running atMoment)
  | walking _ => rfl
  | reading _ _ => rfl
  | held _ => rfl
  | failed _ => rfl

theorem scanning_sound (left : List Int) (remains : call.phase.left = some left)
    (running : ∀ atMoment, call.phase ≠ .exhausted atMoment) (began : call.began < moments.length)
    (unheld : ∀ lease ∈ leases, ¬ call.Owns lease)
    (barred : ∀ value ∈ call.range, value ∈ left ∨ ∃ earlier ∈ moments.drop call.began, call.Barred earlier value) :
    CallSound leases moments call where
  began := began
  ended atMoment ends := absurd ends (running atMoment)
  unheld _ := unheld
  barred other remains' value inside := by
    rw [remains] at remains'
    cases remains'
    rw [LeaseCall.BarredDuring, running_during moments call running]
    exact barred value inside

-- A call that goes on with the rest of the scan, or ends it here.
theorem advanced_sound (rest : List Int) (phase : call.phase = advance moments.length rest)
    (began : call.began < moments.length) (unheld : ∀ lease ∈ leases, ¬ call.Owns lease)
    (barred : ∀ value ∈ call.range, value ∈ rest ∨ ∃ earlier ∈ moments.drop call.began, call.Barred earlier value) :
    CallSound leases moments call := by
  cases rest with
  | nil =>
      rw [advance] at phase
      have whole : call.during moments = moments.drop call.began := by
        rw [LeaseCall.during, phase]
        simp only [List.take_length]
      refine ⟨began, ?_, fun _ => unheld, ?_⟩
      · intro atMoment ends
        rw [phase] at ends
        cases ends
        exact ⟨began, Nat.le_refl _⟩
      · intro left remains value inside
        rw [phase] at remains
        cases remains
        cases barred value inside with
        | inl coming => cases coming
        | inr bars =>
            rw [LeaseCall.BarredDuring, whole]
            exact .inr bars
  | cons next rest =>
      rw [advance] at phase
      apply scanning_sound moments leases call (next :: rest) _ _ began unheld barred
      · rw [phase]
        rfl
      · intro atMoment ends
        rw [phase] at ends
        cases ends

theorem ended_sound (began : call.began < moments.length) (value : Except KuidError Int) (result : call.result = some value)
    (running : ∀ atMoment, call.phase ≠ .exhausted atMoment) : CallSound leases moments call := by
  refine ⟨began, ?_, ?_, ?_⟩
  · intro atMoment ends
    exact absurd ends (running atMoment)
  · intro active
    rw [LeaseCall.Active, result] at active
    cases active
  · intro left remains
    cases phase : call.phase with
    | held _ =>
        rw [phase] at remains
        cases remains
    | failed _ =>
        rw [phase] at remains
        cases remains
    | exhausted atMoment => exact absurd phase (running atMoment)
    | walking _ => simp [LeaseCall.result, phase] at result
    | reading _ _ => simp [LeaseCall.result, phase] at result

end Moments

section Lists
variable (leases : List Lease) (call : LeaseCall)

theorem nothing_held (origin : ∀ lease ∈ leases, ∃ kind pool value correlationID, lease = newLease kind pool value correlationID)
    (none_held : heldLeaseID leases call.kind call.pool call.correlationID = none) : ∀ lease ∈ leases, ¬ call.Owns lease := by
  intro lease member owns
  obtain ⟨kind, pool, value, correlationID, rfl⟩ := origin lease member
  have inPool : newLease kind pool value correlationID ∈ leasesOfPool leases call.pool :=
    List.mem_filter.mpr ⟨member, by simpa using owns.2.1⟩
  have skipped := List.findSome?_eq_none_iff.mp none_held _ inPool
  rw [if_pos ⟨owns.1, owns.2.2⟩] at skipped
  cases skipped

theorem unlisted_barred (unheld : ∀ lease ∈ leases, ¬ call.Owns lease) (value : Int) (inside : value ∈ call.range) :
    value ∈ call.range.filter (fun value => value ∉ usedLeaseIDs leases call.pool) ∨ call.Barred leases value := by
  by_cases used : value ∈ usedLeaseIDs leases call.pool
  · right
    obtain ⟨lease, inPool, carries⟩ := List.mem_filterMap.mp used
    obtain ⟨member, pool⟩ := List.mem_filter.mp inPool
    exact ⟨lease, member, unheld lease member, .inl ⟨by simpa using pool, carries⟩⟩
  · left
    exact List.mem_filter.mpr ⟨inside, by simpa using used⟩

-- A call whose correlation id holds a value of the kind and pool finds that value.
theorem held_found (store : StoreSound leases) (kind pool : String) (value : Int) (correlationID : String)
    (held : Holds leases kind pool value correlationID) : heldLeaseID leases kind pool correlationID = some value := by
  cases found : heldLeaseID leases kind pool correlationID with
  | none =>
      exact absurd ⟨rfl, rfl, rfl⟩
        (nothing_held leases ⟨kind, pool, 0, 0, correlationID, 0, .walking []⟩ store.origin found _ held)
  | some other =>
      obtain ⟨lease, inPool, carries⟩ := List.exists_of_findSome?_eq_some found
      obtain ⟨member, pooled⟩ := List.mem_filter.mp inPool
      by_cases own : lease.kind = sanitize kind ∧ lease.correlationID = correlationID
      · rw [if_pos own] at carries
        by_cases same : lease = newLease kind pool value correlationID
        · rw [same] at carries
          exact carries.symm
        · have apart : Std.Symm fun a b : Lease => ¬ (a.kind = b.kind ∧ a.pool = b.pool ∧ a.correlationID = b.correlationID) :=
            ⟨fun a b different equal => different ⟨equal.1.symm, equal.2.1.symm, equal.2.2.symm⟩⟩
          have sharesPool : lease.pool = sanitize pool := by simpa using pooled
          exact absurd ⟨own.1, sharesPool, own.2⟩ (store.single.forall member held same)
      · rw [if_neg own] at carries
        cases carries

end Lists

section Steps

theorem store_sound_add (leases : List Lease) (call : LeaseCall) (value : Int) (store : StoreSound leases)
    (unheld : ∀ lease ∈ leases, ¬ call.Owns lease)
    (unnamed : ∀ lease ∈ leases, lease.name ≠ leaseName call.kind call.pool value) :
    StoreSound (leases ++ [newLease call.kind call.pool value call.correlationID]) where
  names := by
    rw [List.map_append, List.nodup_append]
    refine ⟨store.names, List.nodup_singleton _, ?_⟩
    intro name inside other single same
    obtain ⟨held, member, called⟩ := List.mem_map.mp inside
    rw [List.map_singleton, List.mem_singleton] at single
    exact unnamed held member (by rw [called, same, single]; rfl)
  origin lease member := by
    cases List.mem_append.mp member with
    | inl old => exact store.origin lease old
    | inr new => exact ⟨call.kind, call.pool, value, call.correlationID, List.mem_singleton.mp new⟩
  single := by
    apply List.pairwise_append.mpr
    refine ⟨store.single, List.pairwise_singleton _ _, ?_⟩
    intro held member other single same
    rw [List.mem_singleton.mp single] at same
    exact unheld held member same

theorem store_sound_fewer (leases fewer : List Lease) (store : StoreSound leases) (inside : fewer.Sublist leases) :
    StoreSound fewer where
  names := store.names.sublist (inside.map _)
  origin lease member := store.origin lease (inside.subset member)
  single := store.single.sublist inside

/- What one step changes: the store, and one call (or a new one). Everybody else's call
   stays sound when the store grows by a lease of the moving call, or shrinks. -/
theorem world_sound_put (world : LeaseWorld) (sound : WorldSound world) (leases : List Lease) (i : Nat) (call moved : LeaseCall)
    (found : world.calls[i]? = some call) (store : StoreSound leases) (same : moved.correlationID = call.correlationID)
    (wasActive : call.Active) (movedSound : CallSound leases (world.moments ++ [leases]) moved)
    (grown : ∀ lease ∈ leases, lease ∈ world.leases ∨ lease.correlationID = call.correlationID) :
    WorldSound (world.put leases (world.calls.set i moved)) where
  store := store
  current := by simp [LeaseWorld.put]
  calls j other at' := by
    simp only [LeaseWorld.put, List.getElem?_set] at at' ⊢
    by_cases here : i = j
    · subst here
      rw [if_pos rfl] at at'
      by_cases bound : i < world.calls.length
      · rw [if_pos bound] at at'
        cases at'
        exact movedSound
      · rw [if_neg bound] at at'
        cases at'
    · rw [if_neg here] at at'
      apply call_sound_put world.moments world.leases other leases (sound.calls j other at')
      intro active lease member owns
      cases grown lease member with
      | inl old => exact (sound.calls j other at').unheld active lease old owns
      | inr fresh => exact here (sound.apart i j call other found at' wasActive active (fresh.symm.trans owns.2.2))
  apart j k a b first second := by
    have original : ∀ (n : Nat) (other : LeaseCall), (world.calls.set i moved)[n]? = some other → other.Active →
        ∃ before, world.calls[n]? = some before ∧ before.Active ∧ before.correlationID = other.correlationID := by
      intro n other at' active
      rw [List.getElem?_set] at at'
      by_cases here : i = n
      · subst here
        rw [if_pos rfl] at at'
        by_cases bound : i < world.calls.length
        · rw [if_pos bound] at at'
          cases at'
          exact ⟨call, found, wasActive, same.symm⟩
        · rw [if_neg bound] at at'
          cases at'
      · rw [if_neg here] at at'
        exact ⟨other, at', active, rfl⟩
    intro activeA activeB equal
    obtain ⟨beforeA, atA, wasA, corrA⟩ := original j a first activeA
    obtain ⟨beforeB, atB, wasB, corrB⟩ := original k b second activeB
    exact sound.apart j k beforeA beforeB atA atB wasA wasB (by rw [corrA, corrB, equal])

theorem began_in (world : LeaseWorld) (sound : WorldSound world) : 0 < world.moments.length := by
  apply List.length_pos_iff.mpr
  intro empty
  have current := sound.current
  rw [empty] at current
  cases current

theorem begin_sound (world : LeaseWorld) (sound : WorldSound world) (kind pool : String) (first last : Nat)
    (correlationID : String) :
    CallSound world.leases world.moments (world.begin kind pool first last correlationID) := by
  have some_moment := began_in world sound
  let call := world.begin kind pool first last correlationID
  have began : call.began < world.moments.length := by
    change world.moments.length - 1 < world.moments.length
    omega
  cases found : heldLeaseID world.leases kind pool correlationID with
  | some value =>
      have phase : call.phase = .held value := by
        change listed _ _ _ _ _ = _
        rw [listed, found]
      apply ended_sound world.moments world.leases call began (.ok value)
      · rw [LeaseCall.result, phase]
      · intro atMoment ends
        rw [phase] at ends
        cases ends
  | none =>
      have unheld := nothing_held world.leases call sound.store.origin found
      have phase : call.phase = advance world.moments.length
          (call.range.filter fun value => value ∉ usedLeaseIDs world.leases pool) := by
        change listed _ _ _ _ _ = _
        rw [listed, found]
        rfl
      apply advanced_sound world.moments world.leases call _ phase began unheld
      intro value inside
      cases unlisted_barred world.leases call unheld value inside with
      | inl free => exact .inl free
      | inr barred => exact .inr ⟨world.leases, current_during world.moments world.leases call sound.current began, barred⟩

theorem sound_allocate (world : LeaseWorld) (sound : WorldSound world) (kind pool : String) (first last : Nat)
    (correlationID : String) (alone : OneCallAtATime world (.allocate kind pool first last correlationID)) :
    WorldSound (world.put world.leases (world.calls ++ [world.begin kind pool first last correlationID])) where
  store := sound.store
  current := by simp [LeaseWorld.put]
  calls j call at' := by
    simp only [LeaseWorld.put] at at' ⊢
    by_cases old : j < world.calls.length
    · rw [List.getElem?_append_left old] at at'
      have before := sound.calls j call at'
      exact call_sound_put world.moments world.leases call world.leases before before.unheld
    · rw [List.getElem?_append_right (by omega), List.getElem?_singleton] at at'
      by_cases new : j - world.calls.length = 0
      · rw [if_pos new] at at'
        cases at'
        have fresh := begin_sound world sound kind pool first last correlationID
        exact call_sound_put world.moments world.leases _ world.leases fresh fresh.unheld
      · rw [if_neg new] at at'
        cases at'
  apart j k a b first' second := by
    have position : ∀ (n : Nat) (call : LeaseCall),
        (world.calls ++ [world.begin kind pool first last correlationID])[n]? = some call →
          world.calls[n]? = some call ∨ (n = world.calls.length ∧ call.correlationID = correlationID) := by
      intro n call at'
      by_cases old : n < world.calls.length
      · rw [List.getElem?_append_left old] at at'
        exact .inl at'
      · rw [List.getElem?_append_right (by omega), List.getElem?_singleton] at at'
        by_cases new : n - world.calls.length = 0
        · rw [if_pos new] at at'
          cases at'
          exact .inr ⟨by omega, rfl⟩
        · rw [if_neg new] at at'
          cases at'
    intro activeA activeB equal
    cases position j a first' with
    | inl oldA =>
        cases position k b second with
        | inl oldB => exact sound.apart j k a b oldA oldB activeA activeB equal
        | inr newB => exact absurd (equal.trans newB.2) (alone a (List.mem_of_getElem? oldA) activeA)
    | inr newA =>
        cases position k b second with
        | inl oldB => exact absurd (equal.symm.trans newA.2) (alone b (List.mem_of_getElem? oldB) activeB)
        | inr newB => rw [newA.1, newB.1]

theorem scan_so_far (world : LeaseWorld) (call : LeaseCall) (left : List Int)
    (before : CallSound world.leases world.moments call) (remains : call.phase.left = some left)
    (running : ∀ atMoment, call.phase ≠ .exhausted atMoment) (value : Int) (inside : value ∈ call.range) :
    value ∈ left ∨ ∃ earlier ∈ world.moments.drop call.began, call.Barred earlier value := by
  rw [← running_during world.moments call running]
  exact before.barred left remains value inside

theorem began_later (world : LeaseWorld) (leases : List Lease) (call : LeaseCall)
    (before : CallSound world.leases world.moments call) : call.began < (world.moments ++ [leases]).length := by
  have earlier := before.began
  simp only [List.length_append, List.length_singleton]
  omega

theorem answered_sound (world : LeaseWorld) (leases : List Lease) (call : LeaseCall) (after : LeasePhase)
    (before : CallSound world.leases world.moments call) (value : Except KuidError Int)
    (result : { call with phase := after }.result = some value) (running : ∀ atMoment, after ≠ .exhausted atMoment) :
    CallSound leases (world.moments ++ [leases]) { call with phase := after } :=
  ended_sound _ _ { call with phase := after } (began_later world leases call before) value result running

theorem sound_create (world : LeaseWorld) (sound : WorldSound world) (i : Nat) (call : LeaseCall) (value : Int)
    (rest : List Int) (answer : LeaseAnswer) (found : world.calls[i]? = some call) (phase : call.phase = .walking (value :: rest))
    (leases : List Lease) (after : LeasePhase) (created : call.afterCreate world.leases value rest answer = (leases, after)) :
    WorldSound (world.put leases (world.calls.set i { call with phase := after })) := by
  have before := sound.calls i call found
  have active : call.Active := by
    rw [LeaseCall.Active, LeaseCall.result, phase]
  have unheld := before.unheld active
  have remains : call.phase.left = some (value :: rest) := by
    rw [phase]
    rfl
  have running : ∀ atMoment, call.phase ≠ .exhausted atMoment := by
    intro atMoment ends
    rw [phase] at ends
    cases ends
  have added : ∀ lease ∈ world.leases ++ [newLease call.kind call.pool value call.correlationID],
      lease ∈ world.leases ∨ lease.correlationID = call.correlationID := by
    intro lease member
    cases List.mem_append.mp member with
    | inl old => exact .inl old
    | inr new => exact .inr (by rw [List.mem_singleton.mp new]; rfl)
  cases answer with
  | served =>
      rw [LeaseCall.afterCreate] at created
      by_cases taken : (world.leases.any fun held => held.name = leaseName call.kind call.pool value) = true
      · rw [if_pos taken] at created
        cases created
        have reading : CallSound world.leases world.moments { call with phase := .reading value rest } := by
          apply scanning_sound world.moments world.leases { call with phase := .reading value rest } rest rfl _ before.began unheld
          · intro v inside
            cases scan_so_far world call (value :: rest) before remains running v inside with
            | inr barred => exact .inr barred
            | inl coming =>
                cases List.mem_cons.mp coming with
                | inr later => exact .inl later
                | inl here =>
                    obtain ⟨lease, member, named⟩ := List.any_eq_true.mp taken
                    subst here
                    exact .inr ⟨world.leases, current_during world.moments world.leases call sound.current before.began,
                      lease, member, unheld lease member, .inr (by simpa using named)⟩
          · intro atMoment ends
            cases ends
        exact world_sound_put world sound world.leases i call _ found sound.store rfl active
          (call_sound_put _ _ _ world.leases reading reading.unheld) (fun lease member => .inl member)
      · rw [if_neg taken] at created
        cases created
        have unnamed : ∀ lease ∈ world.leases, lease.name ≠ leaseName call.kind call.pool value := by
          intro lease member named
          exact taken (List.any_eq_true.mpr ⟨lease, member, by simpa using named⟩)
        have moved := answered_sound world (world.leases ++ [newLease call.kind call.pool value call.correlationID]) call
          (.held value) before (.ok value) rfl (by intro atMoment ends; cases ends)
        exact world_sound_put world sound _ i call _ found
          (store_sound_add world.leases call value sound.store unheld unnamed) rfl active moved added
  | failed err landed =>
      rw [LeaseCall.afterCreate] at created
      cases created
      have stored : StoreSound (if landed then addUnlessTaken world.leases (newLease call.kind call.pool value call.correlationID)
          else world.leases) ∧ ∀ lease ∈ (if landed then
            addUnlessTaken world.leases (newLease call.kind call.pool value call.correlationID) else world.leases),
          lease ∈ world.leases ∨ lease.correlationID = call.correlationID := by
        cases landed with
        | false => exact ⟨sound.store, fun lease member => .inl member⟩
        | true =>
            simp only [if_pos, addUnlessTaken]
            by_cases taken : (world.leases.any fun held => held.name = (newLease call.kind call.pool value call.correlationID).name) = true
            · rw [if_pos taken]
              exact ⟨sound.store, fun lease member => .inl member⟩
            · rw [if_neg taken]
              refine ⟨store_sound_add world.leases call value sound.store unheld ?_, added⟩
              intro lease member named
              exact taken (List.any_eq_true.mpr ⟨lease, member, decide_eq_true named⟩)
      have moved := answered_sound world (if landed then addUnlessTaken world.leases
        (newLease call.kind call.pool value call.correlationID) else world.leases) call (.failed (classify call.pool err))
        before (.error (classify call.pool err)) rfl (by intro atMoment ends; cases ends)
      exact world_sound_put world sound _ i call _ found stored.1 rfl active moved stored.2

theorem sound_get (world : LeaseWorld) (sound : WorldSound world) (i : Nat) (call : LeaseCall) (value : Int)
    (rest : List Int) (failed : Bool) (found : world.calls[i]? = some call) (phase : call.phase = .reading value rest) :
    WorldSound (world.put world.leases (world.calls.set i { call with phase := call.afterGet world value rest failed })) := by
  have before := sound.calls i call found
  have active : call.Active := by
    rw [LeaseCall.Active, LeaseCall.result, phase]
  have unheld := before.unheld active
  have remains : call.phase.left = some rest := by
    rw [phase]
    rfl
  have running : ∀ atMoment, call.phase ≠ .exhausted atMoment := by
    intro atMoment ends
    rw [phase] at ends
    cases ends
  have advanced : CallSound world.leases world.moments { call with phase := advance world.moments.length rest } :=
    advanced_sound world.moments world.leases { call with phase := advance world.moments.length rest } rest rfl before.began unheld
      (scan_so_far world call rest before remains running)
  have moved : CallSound world.leases (world.moments ++ [world.leases])
      { call with phase := call.afterGet world value rest failed } := by
    rw [LeaseCall.afterGet]
    split
    · rename_i existing _
      by_cases own : ¬ failed ∧ existing.correlationID = call.correlationID
      · rw [if_pos own]
        exact answered_sound world _ call (.held value) before (.ok value) rfl (by intro atMoment ends; cases ends)
      · rw [if_neg own]
        exact call_sound_put _ _ _ world.leases advanced advanced.unheld
    · exact call_sound_put _ _ _ world.leases advanced advanced.unheld
  exact world_sound_put world sound world.leases i call _ found sound.store rfl active moved (fun lease member => .inl member)

theorem sound_delete (world : LeaseWorld) (sound : WorldSound world) (name : String) (failed : Bool) (releases : List (List String)) :
    WorldSound { world.put (world.leases.filter fun lease => lease.name ≠ name ∨ failed) world.calls with releases } where
  store := store_sound_fewer world.leases _ sound.store List.filter_sublist
  current := by simp [LeaseWorld.put]
  calls i call found := by
    have before := sound.calls i call found
    exact call_sound_put _ _ _ _ before fun active lease member => before.unheld active lease (List.mem_of_mem_filter member)
  apart := sound.apart

theorem sound_move (world : LeaseWorld) (move : LeaseMove) (world' : LeaseWorld) (sound : WorldSound world)
    (alone : OneCallAtATime world move) (step : LeaseStep world move world') : WorldSound world' := by
  cases move with
  | allocate kind pool first last correlationID =>
      cases step
      exact sound_allocate world sound kind pool first last correlationID alone
  | create i answer =>
      simp only [LeaseStep, LeaseWorld.next] at step
      cases found : world.calls[i]? with
      | none => simp [found] at step
      | some call =>
          simp only [found] at step
          split at step
          · rename_i value rest phase
            cases step
            exact sound_create world sound i call value rest answer found phase _ _ rfl
          · cases step
  | get i failed =>
      simp only [LeaseStep, LeaseWorld.next] at step
      cases found : world.calls[i]? with
      | none => simp [found] at step
      | some call =>
          simp only [found] at step
          split at step
          · rename_i value rest phase
            cases step
            exact sound_get world sound i call value rest failed found phase
          · cases step
  | release correlationID =>
      cases step
      exact ⟨sound.store, sound.current, sound.calls, sound.apart⟩
  | delete i failed =>
      simp only [LeaseStep, LeaseWorld.next] at step
      split at step
      · cases step
        exact sound_delete world sound _ failed _
      · cases step

end Steps

theorem world_sound (moves : List LeaseMove) (world : LeaseWorld) (run : Run LeaseStep OneCallAtATime {} moves world) :
    WorldSound world := by
  have empty : WorldSound {} := ⟨⟨List.nodup_nil, by simp, List.Pairwise.nil⟩, rfl, by simp, by simp⟩
  exact run_invariant LeaseStep OneCallAtATime WorldSound sound_move {} moves world empty run

structure Allocated (world : LeaseWorld) : Prop where
  exclusive : ∀ kind pool value owner other, Holds world.leases kind pool value owner →
    Holds world.leases kind pool value other → owner = other
  single : ∀ kind pool value value' owner, Holds world.leases kind pool value owner →
    Holds world.leases kind pool value' owner → value = value'
  stable : ∀ kind pool value owner first last, Holds world.leases kind pool value owner →
    (world.begin kind pool first last owner).result = some (.ok value)
  justified : ∀ call ∈ world.calls, ∀ atMoment, call.phase = .exhausted atMoment → ∀ value ∈ call.range,
    call.BarredDuring world.moments value

/- Whatever the interleaving: a value of a kind and pool has one holder, a holder one
   value, which its next call returns; and a scan ends in exhaustion only after each
   value of its range was barred by a lease that is not the call's own. -/
theorem lease_allocation_exclusive_and_stable (moves : List LeaseMove) (world : LeaseWorld)
    (run : Run LeaseStep OneCallAtATime {} moves world) : Allocated world := by
  have sound := world_sound moves world run
  refine ⟨?_, ?_, ?_, ?_⟩
  · intro kind pool value owner other held held'
    have same := List.inj_on_of_nodup_map sound.store.names held held' rfl
    exact congrArg Lease.correlationID same
  · intro kind pool value value' owner held held'
    have found := held_found world.leases sound.store kind pool value owner held
    have found' := held_found world.leases sound.store kind pool value' owner held'
    exact Option.some.inj (found.symm.trans found')
  · intro kind pool value owner first last held
    have found := held_found world.leases sound.store kind pool value owner held
    change LeaseCall.result { kind, pool, first, last, correlationID := owner, began := _, phase := listed _ _ _ _ _ } = _
    rw [listed, found]
    rfl
  · intro call member atMoment phase value inside
    obtain ⟨i, _, at'⟩ := List.getElem_of_mem member
    have called := (sound.calls i call (by rw [← at']; exact List.getElem?_eq_getElem _)).barred [] (by rw [phase]; rfl) value inside
    cases called with
    | inl coming => cases coming
    | inr barred => exact barred

-- Two holders and a scan of one value that has found it taken.
def labLeaseMoves : List LeaseMove :=
  [.allocate "service" "srv6-service-ids" 1 1 "4f2a", .create 0 .served, .allocate "service" "srv6-service-ids" 1 1 "9c1e"]

theorem lab_lease_allocation :
    ∃ world ∈ play LeaseWorld.next {} labLeaseMoves,
      world.leases = [newLease "service" "srv6-service-ids" 1 "4f2a"] ∧ Allocated world := by
  have played : Played OneCallAtATime LeaseWorld.next {} labLeaseMoves := by decide
  obtain ⟨world, ends⟩ := played_ends _ LeaseWorld.next _ _ played
  have stored : ∀ world ∈ play LeaseWorld.next {} labLeaseMoves,
      world.leases = [newLease "service" "srv6-service-ids" 1 "4f2a"] := by decide
  exact ⟨world, ends, stored world ends,
    lease_allocation_exclusive_and_stable labLeaseMoves world (played_run _ LeaseWorld.next _ _ world played ends)⟩

-- Another correlation id holds the value of the call's kind and pool.
def HeldByAnother (call : LeaseCall) (leases : List Lease) (value : Int) : Prop :=
  ∃ lease ∈ leases, lease = newLease call.kind call.pool value lease.correlationID ∧ lease.correlationID ≠ call.correlationID

instance (call : LeaseCall) (leases : List Lease) (value : Int) : Decidable (HeldByAnother call leases value) :=
  inferInstanceAs (Decidable (∃ lease ∈ leases, _ ∧ _))

def LeaseCall.Exhausted (call : LeaseCall) : Prop :=
  match call.result with
  | some (.error (.exhaustion _ _)) => True
  | _ => False

instance (call : LeaseCall) : Decidable call.Exhausted :=
  match h : call.result with
  | some (.error (.exhaustion _ _)) => isTrue (by rw [LeaseCall.Exhausted, h]; trivial)
  | none | some (.ok _) | some (.error (.collision _ _)) | some (.error (.timeout _ _)) | some (.error (.unavailable _ _))
  | some (.error (.other _)) => isFalse (by rw [LeaseCall.Exhausted, h]; exact id)

def OnlyHeldByOthers (world : LeaseWorld) : Prop :=
  ∀ call ∈ world.calls, call.Exhausted → ∀ value ∈ call.range, ∃ leases ∈ call.during world.moments, HeldByAnother call leases value

instance (world : LeaseWorld) : Decidable (OnlyHeldByOthers world) :=
  inferInstanceAs (Decidable (∀ call ∈ world.calls, call.Exhausted → ∀ value ∈ call.range, ∃ leases ∈ call.during world.moments, _))

-- One correlation id asks a pool of one value for two kinds.
def twoKindsOfOnePool : List LeaseMove :=
  [.allocate "l2vni" "evpn-vni" 1 1 "4f2a", .create 0 .served, .allocate "l3vni" "evpn-vni" 1 1 "4f2a"]

-- The API refuses the create of a free value with a text that reads as an exhaustion.
def refusedAsExhausted : List LeaseMove :=
  [.allocate "service" "srv6-service-ids" 1 1 "4f2a", .create 0 (.failed { text := "resource exhausted" } false)]

theorem exhaustion_without_another_holder :
    (¬ ∀ (moves : List LeaseMove) (world : LeaseWorld), Run LeaseStep OneCallAtATime {} moves world → OnlyHeldByOthers world) ∧
      (∃ world ∈ play LeaseWorld.next {} twoKindsOfOnePool, ¬ OnlyHeldByOthers world) ∧
      ∃ world ∈ play LeaseWorld.next {} refusedAsExhausted, ¬ OnlyHeldByOthers world := by
  have alone : ∃ world ∈ play LeaseWorld.next {} twoKindsOfOnePool, ¬ OnlyHeldByOthers world := by decide
  refine ⟨?_, alone, by decide⟩
  intro claimed
  have played : Played OneCallAtATime LeaseWorld.next {} twoKindsOfOnePool := by decide
  obtain ⟨world, ends, unheld⟩ := alone
  exact unheld (claimed twoKindsOfOnePool world (played_run _ LeaseWorld.next _ _ world played ends))

end AgenticNetops.Kuid
