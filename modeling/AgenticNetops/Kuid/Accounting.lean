import AgenticNetops.Lib.EventLog
import AgenticNetops.Lib.Runs
import AgenticNetops.Kuid.Lease
import AgenticNetops.Kuid.Repeats

set_option autoImplicit false

/- Who created what is in the store, over runs of all four operations. Every creation
   is entered under the correlation id of its call; a release looks at labels and
   annotations only. -/
namespace AgenticNetops.Kuid

open GoText EventLog Runs

def Store.names (store : Store) : List StoredObject :=
  (store.claims.map fun claim => .claim claim.ref) ++ store.leases.map fun lease => .lease lease.name

-- The pools that the package declares.
abbrev KnownPool := { pool : Pool // pool ∈ pools }

inductive Operation where
  | create (pool : KnownPool) (corrID : String) (parts : List String) (answers : CreateAnswers)
  | reserve (pool : KnownPool) (corrID : String) (value : Int) (answers : CreateAnswers)
  | lease (kind pool : String) (first last : Nat) (corrID : String) (answers : LeaseAnswers)
  | release (corrID : String) (answer : ReleaseAnswer)

def Operation.corrID : Operation → String
  | .create _ corrID _ _ | .reserve _ corrID _ _ | .lease _ _ _ _ corrID _ | .release corrID _ => corrID

def Operation.creates : Operation → Bool
  | .release _ _ => false
  | _ => true

def Operation.run (store : Store) : Operation → Store
  | .create pool corrID parts answers => { store with claims := (createClaim store.claims pool corrID parts answers).1 }
  | .reserve pool corrID value answers => { store with claims := (reserveValue store.claims pool corrID value answers).1 }
  | .lease kind pool first last corrID answers =>
      { store with leases := (allocateLeaseID store.leases kind pool first last corrID answers).1 }
  | .release corrID answer => (releaseByCorrelationID store corrID answer).1

-- The store, and every creation under the correlation id of its call.
structure Account where
  store : Store := {}
  created : List (StoredObject × String) := []

def Account.creator (account : Account) (name : StoredObject) : Option String :=
  latest (fun entry => if entry.1 = name then some entry.2 else none) account.created

def Account.next (account : Account) (operation : Operation) : Account :=
  let after := operation.run account.store
  { store := after,
    created := account.created ++
      (after.names.filter fun name => name ∉ account.store.names).map fun name => (name, operation.corrID) }

def Step (account : Account) (operation : Operation) (after : Account) : Prop := account.next operation = after

abbrev Reached (operations : List Operation) (account : Account) : Prop := Run Step (fun _ _ => True) {} operations account

section Growth
variable (corrID : String) (store : Store)

-- What a create may make of a store: nothing, or one more object of its own under a free name.
inductive Grown : Store → Prop
  | same : Grown store
  | claim (claim : Claim) (own : claim.correlationID = corrID) (known : claim.ref.pool ∈ pools)
      (free : store.claims.find claim.ref = none) : Grown { store with claims := store.claims ++ [claim] }
  | lease (lease : Lease) (own : lease.correlationID = corrID)
      (free : store.leases.find? (fun other => other.name = lease.name) = none) :
      Grown { store with leases := store.leases ++ [lease] }

theorem grown_keeps (after : Store) (grown : Grown corrID store after) :
    (∀ claim ∈ store.claims, claim ∈ after.claims) ∧ ∀ lease ∈ store.leases, lease ∈ after.leases := by
  cases grown with
  | same => exact ⟨fun _ member => member, fun _ member => member⟩
  | claim claim own known free => exact ⟨fun _ member => List.mem_append_left _ member, fun _ member => member⟩
  | lease lease own free => exact ⟨fun _ member => member, fun _ member => List.mem_append_left _ member⟩

theorem create_claim_grown (pool : KnownPool) (parts : List String) (answers : CreateAnswers) :
    Grown corrID store { store with claims := (createClaim store.claims pool corrID parts answers).1 } := by
  rw [createClaim]
  cases answered : answers.create with
  | serve result =>
      cases free : store.claims.find ⟨pool, claimName pool corrID parts⟩ with
      | none =>
          exact .claim ⟨⟨pool, claimName pool corrID parts⟩, corrID, claimSpec pool, result⟩ rfl pool.2 free
      | some existing =>
          exact .same
  | fail err =>
      by_cases shaped : isExists err
      · simp only [if_pos shaped]
        exact .same
      · simp only [if_neg shaped]
        exact .same

theorem reserve_value_grown (pool : KnownPool) (value : Int) (answers : CreateAnswers) :
    Grown corrID store { store with claims := (reserveValue store.claims pool corrID value answers).1 } := by
  rw [reserveValue]
  by_cases nonpositive : value ≤ 0
  · rw [if_pos nonpositive]
    exact .same
  · rw [if_neg nonpositive]
    by_cases anonymous : corrID = ""
    · rw [if_pos anonymous]
      exact .same
    · rw [if_neg anonymous]
      cases answered : answers.create with
      | serve result =>
          cases free : store.claims.find ⟨pool, reserveName pool value⟩ with
          | none =>
              exact .claim ⟨⟨pool, reserveName pool value⟩, corrID, { index := pool.1.name, id := some value }, result⟩ rfl
                pool.2 free
          | some existing =>
              exact .same
      | fail err =>
          by_cases status : err.alreadyExists
          · simp only [if_pos status]
            exact .same
          · simp only [if_neg status]
            exact .same

-- The lease behind a value that the fallback returns.
def LeasedAs (kind pool : String) (value : Int) (lease : Lease) : Prop :=
  lease.name = leaseName kind pool value ∨
    lease.kind = sanitize kind ∧ lease.pool = sanitize pool ∧ lease.allocatedID = some value

def HoldsValue (kind pool : String) (value : Int) (leases : List Lease) : Prop :=
  ∃ lease ∈ leases, lease.correlationID = corrID ∧ LeasedAs kind pool value lease

theorem create_lease_grown (kind pool : String) (answer : Int → Option ApiError) (free : List Int) (leases : List Lease)
    (result : Except KuidError (Option Int)) (made : createLease store.leases kind pool corrID answer free = (leases, result)) :
    Grown corrID store { store with leases } ∧
      ∀ value, result = .ok (some value) → HoldsValue corrID kind pool value leases := by
  induction free with
  | nil =>
      cases made
      exact ⟨.same, fun value done => by cases done⟩
  | cons value rest ih =>
      have own : ∀ existing, store.leases.find? (fun lease => lease.name = leaseName kind pool value) = some existing →
          existing.correlationID = corrID → HoldsValue corrID kind pool value store.leases := by
        intro existing found held
        have named : existing.name = leaseName kind pool value := by simpa using List.find?_some found
        exact ⟨existing, List.mem_of_find?_eq_some found, held, Or.inl named⟩
      have kept : ∀ existing, store.leases.find? (fun lease => lease.name = leaseName kind pool value) = some existing →
          existing.correlationID = corrID → (store.leases, Except.ok (some value)) = (leases, result) →
          Grown corrID store { store with leases } ∧
            ∀ value, result = .ok (some value) → HoldsValue corrID kind pool value leases := by
        intro existing found held same
        cases same
        refine ⟨.same, fun other done => ?_⟩
        cases done
        exact own existing found held
      rw [createLease] at made
      cases answered : answer value with
      | none =>
          cases found : store.leases.find? (fun lease => lease.name = leaseName kind pool value) with
          | none =>
              simp only [answered, found] at made
              cases made
              refine ⟨.lease (newLease kind pool value corrID) rfl found, fun other done => ?_⟩
              cases done
              exact ⟨_, List.mem_append_right _ (List.mem_singleton.mpr rfl), rfl, Or.inl rfl⟩
          | some existing =>
              simp only [answered, found] at made
              by_cases held : existing.correlationID = corrID
              · rw [if_pos held] at made
                exact kept existing found held made
              · rw [if_neg held] at made
                exact ih made
      | some err =>
          simp only [answered] at made
          by_cases other : ¬ err.alreadyExists
          · rw [if_pos other] at made
            cases made
            exact ⟨.same, fun value done => by cases done⟩
          · rw [if_neg other] at made
            cases found : store.leases.find? (fun lease => lease.name = leaseName kind pool value) with
            | none =>
                simp only [found, Option.map_none] at made
                exact ih made
            | some existing =>
                simp only [found, Option.map_some, Option.some.injEq] at made
                by_cases held : existing.correlationID = corrID
                · rw [if_pos held] at made
                  exact kept existing found held made
                · rw [if_neg held] at made
                  exact ih made

theorem held_lease_id (leases : List Lease) (kind pool : String) (value : Int)
    (held : heldLeaseID leases kind pool corrID = some value) : HoldsValue corrID kind pool value leases := by
  obtain ⟨lease, member, found⟩ := List.exists_of_findSome?_eq_some held
  obtain ⟨stored, inPool⟩ := List.mem_filter.mp member
  rw [Option.ite_none_right_eq_some] at found
  exact ⟨lease, stored, found.1.2, Or.inr ⟨found.1.1, of_decide_eq_true inPool, found.2⟩⟩

theorem allocate_lease_grown (kind pool : String) (first last : Nat) (answers : LeaseAnswers) (leases : List Lease)
    (result : Except KuidError Int)
    (made : allocateLeaseID store.leases kind pool first last corrID answers = (leases, result)) :
    Grown corrID store { store with leases } ∧ ∀ value, result = .ok value → HoldsValue corrID kind pool value leases := by
  rw [allocateLeaseID] at made
  cases listed : answers.list with
  | some err =>
      simp only [listed] at made
      cases made
      exact ⟨.same, fun value done => by cases done⟩
  | none =>
      cases held : heldLeaseID store.leases kind pool corrID with
      | some value =>
          simp only [listed, held] at made
          cases made
          refine ⟨.same, fun other done => ?_⟩
          cases done
          exact held_lease_id corrID store.leases kind pool value held
      | none =>
          simp only [listed, held] at made
          generalize free : (((List.range (last + 1 - first)).map fun step => ((first + step : Nat) : Int)).filter
            fun value => value ∉ usedLeaseIDs store.leases pool) = values at made
          cases created : createLease store.leases kind pool corrID answers.create values with
          | mk after outcome =>
              obtain ⟨grown, holds⟩ := create_lease_grown corrID store kind pool answers.create values after outcome created
              rw [created] at made
              cases outcome with
              | error err =>
                  cases made
                  exact ⟨grown, fun value done => by cases done⟩
              | ok found =>
                  cases found with
                  | none =>
                      cases made
                      exact ⟨grown, fun value done => by cases done⟩
                  | some value =>
                      cases made
                      refine ⟨grown, fun other done => ?_⟩
                      cases done
                      exact holds value rfl

-- Every operation but a release grows the store for its own correlation id.
theorem operation_grown (operation : Operation) (creates : operation.creates) :
    Grown operation.corrID store (operation.run store) := by
  cases operation with
  | create pool corrID parts answers => exact create_claim_grown corrID store pool parts answers
  | reserve pool corrID value answers => exact reserve_value_grown corrID store pool value answers
  | lease kind pool first last corrID answers =>
      exact (allocate_lease_grown corrID store kind pool first last answers _ _ rfl).1
  | release corrID answer => exact absurd creates Bool.false_ne_true

end Growth

/- The invariant: names are unique, every claim is in a pool of the package, and what an
   object carries as its correlation id is the id that created it. -/
structure Accounted (account : Account) : Prop where
  refs : (account.store.claims.map Claim.ref).Nodup
  names : (account.store.leases.map Lease.name).Nodup
  known : ∀ claim ∈ account.store.claims, claim.ref.pool ∈ pools
  claims : ∀ claim ∈ account.store.claims, account.creator (.claim claim.ref) = some claim.correlationID
  leases : ∀ lease ∈ account.store.leases, account.creator (.lease lease.name) = some lease.correlationID

section Entries
variable (account : Account) (operation : Operation)

theorem claim_name_mem (store : Store) (claim : Claim) (member : claim ∈ store.claims) : .claim claim.ref ∈ store.names :=
  List.mem_append_left _ (List.mem_map_of_mem member)

theorem lease_name_mem (store : Store) (lease : Lease) (member : lease ∈ store.leases) : .lease lease.name ∈ store.names :=
  List.mem_append_right _ (List.mem_map_of_mem member)

-- What stays keeps its creator.
theorem creator_kept (name : StoredObject) (member : name ∈ account.store.names) :
    (account.next operation).creator name = account.creator name := by
  refine latest_append_none _ _ _ fun entry fresh => ?_
  obtain ⟨other, new, rfl⟩ := List.mem_map.mp fresh
  have absent : other ∉ account.store.names := of_decide_eq_true (List.mem_filter.mp new).2
  have differs : ¬ other = name := fun same => absent (same ▸ member)
  exact if_neg differs

-- What comes is the call's own.
theorem creator_new (name : StoredObject) (absent : name ∉ account.store.names)
    (present : name ∈ (operation.run account.store).names) :
    (account.next operation).creator name = some operation.corrID := by
  have listed : (name, operation.corrID) ∈ ((operation.run account.store).names.filter fun name =>
      name ∉ account.store.names).map fun name => (name, operation.corrID) :=
    List.mem_map_of_mem (List.mem_filter.mpr ⟨present, decide_eq_true absent⟩)
  have own : ∀ entry ∈ ((operation.run account.store).names.filter fun name =>
      name ∉ account.store.names).map fun name => (name, operation.corrID), entry.2 = operation.corrID := by
    intro entry fresh
    obtain ⟨other, _, rfl⟩ := List.mem_map.mp fresh
    rfl
  refine latest_append_found _ _ _ _ (fun entry fresh => ?_) ⟨_, listed, if_pos rfl⟩
  by_cases same : entry.1 = name
  · exact Or.inr (by rw [if_pos same, own entry fresh])
  · exact Or.inl (if_neg same)

end Entries

section Released
variable (store : Store) (corrID : String)

theorem claim_not_targeted (claim : Claim) (member : claim ∈ store.claims) (known : claim.ref.pool ∈ pools)
    (kept : .claim claim.ref ∉ releaseTargets store corrID) : claim.correlationID ≠ corrID := by
  intro own
  refine kept (List.mem_append_left _ (List.mem_flatMap.mpr ⟨claim.ref.pool, known, ?_⟩))
  exact List.mem_map_of_mem (List.mem_filter.mpr ⟨member, decide_eq_true ⟨rfl, own⟩⟩)

theorem lease_not_targeted (lease : Lease) (member : lease ∈ store.leases)
    (kept : .lease lease.name ∉ releaseTargets store corrID) : lease.correlationID ≠ corrID := by
  intro own
  exact kept (List.mem_append_right _ (List.mem_map_of_mem (List.mem_filter.mpr ⟨member, decide_eq_true own⟩)))

theorem targeted_claim (ref : ClaimRef) (target : .claim ref ∈ releaseTargets store corrID) :
    ∃ claim ∈ store.claims, claim.ref = ref ∧ claim.correlationID = corrID := by
  cases List.mem_append.mp target with
  | inl inPools =>
      obtain ⟨pool, _, here⟩ := List.mem_flatMap.mp inPools
      obtain ⟨claim, kept, same⟩ := List.mem_map.mp here
      obtain ⟨stored, fields⟩ := List.mem_filter.mp kept
      exact ⟨claim, stored, StoredObject.claim.inj same, (of_decide_eq_true fields).2⟩
  | inr inLeases =>
      obtain ⟨lease, _, same⟩ := List.mem_map.mp inLeases
      cases same

theorem targeted_lease (name : String) (target : .lease name ∈ releaseTargets store corrID) :
    ∃ lease ∈ store.leases, lease.name = name ∧ lease.correlationID = corrID := by
  cases List.mem_append.mp target with
  | inl inPools =>
      obtain ⟨pool, _, here⟩ := List.mem_flatMap.mp inPools
      obtain ⟨claim, _, same⟩ := List.mem_map.mp here
      cases same
  | inr inLeases =>
      obtain ⟨lease, kept, same⟩ := List.mem_map.mp inLeases
      obtain ⟨stored, own⟩ := List.mem_filter.mp kept
      exact ⟨lease, stored, StoredObject.lease.inj same, of_decide_eq_true own⟩

-- Whatever a release reaches, it only takes objects away.
theorem release_deletes (answer : ReleaseAnswer) :
    ∃ targets, (releaseByCorrelationID store corrID answer).1 = store.delete targets := by
  cases answer with
  | done => exact ⟨_, rfl⟩
  | failed deleted err => exact ⟨_, rfl⟩

end Released

section Invariant

theorem claim_unlisted (store : Store) (ref : ClaimRef) (free : store.claims.find ref = none) : .claim ref ∉ store.names := by
  intro listed
  cases List.mem_append.mp listed with
  | inl inClaims =>
      obtain ⟨claim, member, same⟩ := List.mem_map.mp inClaims
      exact List.find?_eq_none.mp free claim member (decide_eq_true (StoredObject.claim.inj same))
  | inr inLeases =>
      obtain ⟨lease, _, same⟩ := List.mem_map.mp inLeases
      cases same

theorem lease_unlisted (store : Store) (name : String)
    (free : store.leases.find? (fun other => other.name = name) = none) : .lease name ∉ store.names := by
  intro listed
  cases List.mem_append.mp listed with
  | inl inClaims =>
      obtain ⟨claim, _, same⟩ := List.mem_map.mp inClaims
      cases same
  | inr inLeases =>
      obtain ⟨lease, member, same⟩ := List.mem_map.mp inLeases
      exact List.find?_eq_none.mp free lease member (decide_eq_true (StoredObject.lease.inj same))

variable (account : Account) (operation : Operation) (accounted : Accounted account)
include accounted

-- An object that stays has the same entry, and so its own id.
theorem kept_claim_entry (claim : Claim) (member : claim ∈ account.store.claims) :
    (account.next operation).creator (.claim claim.ref) = some claim.correlationID := by
  rw [creator_kept account operation _ (claim_name_mem account.store claim member)]
  exact accounted.claims claim member

theorem kept_lease_entry (lease : Lease) (member : lease ∈ account.store.leases) :
    (account.next operation).creator (.lease lease.name) = some lease.correlationID := by
  rw [creator_kept account operation _ (lease_name_mem account.store lease member)]
  exact accounted.leases lease member

theorem accounted_grown (grown : Grown operation.corrID account.store (operation.run account.store)) :
    Accounted (account.next operation) := by
  have claims := kept_claim_entry account operation accounted
  have leases := kept_lease_entry account operation accounted
  have entered := creator_new account operation
  have stored : (account.next operation).store = operation.run account.store := rfl
  generalize account.next operation = after at claims leases entered stored ⊢
  generalize operation.run account.store = grownStore at grown entered stored
  cases grown with
  | same =>
      exact ⟨stored ▸ accounted.refs, stored ▸ accounted.names, stored ▸ accounted.known, stored ▸ claims, stored ▸ leases⟩
  | claim claim own known free =>
      have unlisted := claim_unlisted account.store claim.ref free
      have listed : .claim claim.ref ∈ ({ account.store with claims := account.store.claims ++ [claim] } : Store).names :=
        claim_name_mem _ claim (List.mem_append_right _ (List.mem_singleton.mpr rfl))
      refine ⟨?_, by rw [stored]; exact accounted.names, ?_, ?_, by rw [stored]; exact leases⟩
      · rw [stored, List.map_append, List.map_singleton]
        refine List.Nodup.append accounted.refs (List.nodup_singleton _) (List.disjoint_singleton.mpr fun taken => ?_)
        obtain ⟨other, member, same⟩ := List.mem_map.mp taken
        exact List.find?_eq_none.mp free other member (decide_eq_true same)
      · rw [stored]
        exact List.forall_mem_append.mpr ⟨accounted.known, by simpa using known⟩
      · rw [stored]
        refine List.forall_mem_append.mpr ⟨claims, fun other here => ?_⟩
        rw [List.mem_singleton.mp here, entered _ unlisted listed, own]
  | lease lease own free =>
      have unlisted := lease_unlisted account.store lease.name free
      have listed : .lease lease.name ∈ ({ account.store with leases := account.store.leases ++ [lease] } : Store).names :=
        lease_name_mem _ lease (List.mem_append_right _ (List.mem_singleton.mpr rfl))
      refine ⟨by rw [stored]; exact accounted.refs, ?_, by rw [stored]; exact accounted.known, by rw [stored]; exact claims, ?_⟩
      · rw [stored, List.map_append, List.map_singleton]
        refine List.Nodup.append accounted.names (List.nodup_singleton _) (List.disjoint_singleton.mpr fun taken => ?_)
        obtain ⟨other, member, same⟩ := List.mem_map.mp taken
        exact List.find?_eq_none.mp free other member (decide_eq_true same)
      · rw [stored]
        refine List.forall_mem_append.mpr ⟨leases, fun other here => ?_⟩
        rw [List.mem_singleton.mp here, entered _ unlisted listed, own]

theorem accounted_release (corrID : String) (answer : ReleaseAnswer) :
    Accounted (account.next (.release corrID answer)) := by
  obtain ⟨targets, deleted⟩ := release_deletes account.store corrID answer
  have claims := kept_claim_entry account (.release corrID answer) accounted
  have leases := kept_lease_entry account (.release corrID answer) accounted
  have stored : (account.next (.release corrID answer)).store = account.store.delete targets := deleted
  have fewer : ∀ claim ∈ (account.next (.release corrID answer)).store.claims, claim ∈ account.store.claims := by
    rw [stored]
    exact fun claim member => List.mem_of_mem_filter member
  refine ⟨?_, ?_, fun claim member => accounted.known claim (fewer claim member),
    fun claim member => claims claim (fewer claim member), ?_⟩
  · rw [stored]
    exact accounted.refs.sublist (List.Sublist.map _ List.filter_sublist)
  · rw [stored]
    exact accounted.names.sublist (List.Sublist.map _ List.filter_sublist)
  · rw [stored]
    exact fun lease member => leases lease (List.mem_of_mem_filter member)

theorem accounted_step : Accounted (account.next operation) := by
  cases operation with
  | create pool corrID parts answers => exact accounted_grown account _ accounted (operation_grown _ _ rfl)
  | reserve pool corrID value answers => exact accounted_grown account _ accounted (operation_grown _ _ rfl)
  | lease kind pool first last corrID answers => exact accounted_grown account _ accounted (operation_grown _ _ rfl)
  | release corrID answer => exact accounted_release account accounted corrID answer

end Invariant

theorem reached_accounted (operations : List Operation) (account : Account) (reached : Reached operations account) :
    Accounted account := by
  refine run_invariant Step _ Accounted ?_ {} operations account ?_ reached
  · intro before operation after accounted _ step
    exact step ▸ accounted_step before operation accounted
  · exact ⟨List.nodup_nil, List.nodup_nil, by simp, by simp, by simp⟩

section Taken
variable (claims : Claims) (existing : Claim) (corrID : String) (answers : CreateAnswers) (request : Request)

/- A name that another correlation id holds, and that the server shows: no request for it
   succeeds, and one that is told of the name is a collision. -/
theorem taken_refused (stored : claims.find (request.ref corrID) = some existing) (other : existing.correlationID ≠ corrID)
    (shown : answers.get = .shown) :
    ∃ err, (request.send claims corrID answers).2 = .error err ∧
      (request.accepted corrID → saysExists answers → ∃ detail, err = .collision (request.ref corrID).pool.name detail) := by
  by_cases shaped : saysExists answers
  · cases request with
    | create pool parts =>
        have repeated := create_repeated claims existing corrID answers pool parts stored shaped
        rw [Repeated, if_neg other] at repeated
        obtain ⟨_, detail, refused⟩ := repeated
        exact ⟨_, refused, fun _ _ => ⟨detail, rfl⟩⟩
    | reserve pool value =>
        by_cases accepted : (Request.reserve pool value).accepted corrID
        · obtain ⟨_, outcome⟩ := reserve_taken claims existing corrID answers pool value stored accepted shaped
          rw [if_neg fun own => other own.1] at outcome
          obtain ⟨detail, refused⟩ := outcome
          exact ⟨_, refused, fun _ _ => ⟨detail, rfl⟩⟩
        · rw [Request.send, reserveValue]
          by_cases nonpositive : value ≤ 0
          · rw [if_pos nonpositive]
            exact ⟨_, rfl, fun taken => absurd taken accepted⟩
          · have anonymous : corrID = "" := by
              by_contra named
              exact accepted (by simp [Request.accepted, named]; omega)
            rw [if_neg nonpositive, if_pos anonymous]
            exact ⟨_, rfl, fun taken => absurd taken accepted⟩
  · cases answered : answers.create with
    | serve result => exact absurd (by simp [saysExists, shown, answered]) shaped
    | fail err =>
        have unrelated : isExists err = false := by simpa [saysExists, shown, answered] using shaped
        have status : err.alreadyExists = false := (Bool.or_eq_false_iff.mp unrelated).1
        cases request with
        | create pool parts =>
            rw [Request.send, createClaim]
            simp only [answered, unrelated, Bool.false_eq_true, if_false]
            exact ⟨_, rfl, fun _ said => absurd said shaped⟩
        | reserve pool value =>
            rw [Request.send, reserveValue]
            by_cases nonpositive : value ≤ 0
            · rw [if_pos nonpositive]
              exact ⟨_, rfl, fun _ said => absurd said shaped⟩
            · rw [if_neg nonpositive]
              by_cases anonymous : corrID = ""
              · rw [if_pos anonymous]
                exact ⟨_, rfl, fun _ said => absurd said shaped⟩
              · rw [if_neg anonymous]
                simp only [answered, status, Bool.false_eq_true, if_false]
                exact ⟨_, rfl, fun _ said => absurd said shaped⟩

end Taken

section Accounting
variable (account : Account)

-- A release that succeeds takes what its correlation id created, and nothing else.
def ReleasesOwn : Prop :=
  ∀ corrID answer after deleted, releaseByCorrelationID account.store corrID answer = (after, .ok deleted) →
    (∀ name ∈ after.names, account.creator name ≠ some corrID) ∧
    (∀ claim ∈ account.store.claims, account.creator (.claim claim.ref) ≠ some corrID → claim ∈ after.claims) ∧
    ∀ lease ∈ account.store.leases, account.creator (.lease lease.name) ≠ some corrID → lease ∈ after.leases

-- A create leaves every object as it is, and what it adds is its own.
def CreatesOwn : Prop :=
  ∀ operation : Operation, operation.creates →
    (∀ claim ∈ account.store.claims, claim ∈ (operation.run account.store).claims) ∧
    (∀ lease ∈ account.store.leases, lease ∈ (operation.run account.store).leases) ∧
    ∀ name ∈ (operation.run account.store).names, name ∉ account.store.names →
      (account.next operation).creator name = some operation.corrID

-- A claim or reservation under a name that another correlation id created.
def RefusesTaken : Prop :=
  ∀ corrID answers (request : Request) owner, .claim (request.ref corrID) ∈ account.store.names →
    account.creator (.claim (request.ref corrID)) = some owner → owner ≠ corrID → answers.get = .shown →
      ∃ err, (request.send account.store.claims corrID answers).2 = .error err ∧
        (request.accepted corrID → saysExists answers → ∃ detail, err = .collision (request.ref corrID).pool.name detail)

-- The value that the fallback returns is one that the correlation id's own lease holds.
def LeasesOwn : Prop :=
  ∀ kind pool first last corrID answers leases value,
    allocateLeaseID account.store.leases kind pool first last corrID answers = (leases, .ok value) →
      ∃ lease ∈ leases, LeasedAs kind pool value lease ∧
        (account.next (.lease kind pool first last corrID answers)).creator (.lease lease.name) = some corrID

variable (accounted : Accounted account)
include accounted

theorem releases_own : ReleasesOwn account := by
  intro corrID answer after deleted released
  have whole : after = account.store.delete (releaseTargets account.store corrID) := by
    cases answer with
    | done => exact (congrArg Prod.fst released).symm
    | failed count err => cases congrArg Prod.snd released
  subst whole
  refine ⟨fun name listed => ?_, fun claim member other => ?_, fun lease member other => ?_⟩
  · cases List.mem_append.mp listed with
    | inl inClaims =>
        obtain ⟨claim, kept, rfl⟩ := List.mem_map.mp inClaims
        obtain ⟨member, untouched⟩ := List.mem_filter.mp kept
        rw [accounted.claims claim member]
        intro own
        exact claim_not_targeted account.store corrID claim member (accounted.known claim member)
          (of_decide_eq_true untouched) (Option.some.inj own)
    | inr inLeases =>
        obtain ⟨lease, kept, rfl⟩ := List.mem_map.mp inLeases
        obtain ⟨member, untouched⟩ := List.mem_filter.mp kept
        rw [accounted.leases lease member]
        intro own
        exact lease_not_targeted account.store corrID lease member (of_decide_eq_true untouched) (Option.some.inj own)
  · refine List.mem_filter.mpr ⟨member, decide_eq_true fun target => ?_⟩
    obtain ⟨found, stored, same, own⟩ := targeted_claim account.store corrID claim.ref target
    rw [← same, accounted.claims found stored, own] at other
    exact other rfl
  · refine List.mem_filter.mpr ⟨member, decide_eq_true fun target => ?_⟩
    obtain ⟨found, stored, same, own⟩ := targeted_lease account.store corrID lease.name target
    rw [← same, accounted.leases found stored, own] at other
    exact other rfl

omit accounted in
theorem creates_own : CreatesOwn account := by
  intro operation creates
  have kept := grown_keeps operation.corrID account.store _ (operation_grown account.store operation creates)
  exact ⟨kept.1, kept.2, fun name listed fresh => creator_new account operation name fresh listed⟩

theorem refuses_taken : RefusesTaken account := by
  intro corrID answers request owner listed created other shown
  cases List.mem_append.mp listed with
  | inl inClaims =>
      obtain ⟨claim, member, same⟩ := List.mem_map.mp inClaims
      have named : claim.ref = request.ref corrID := StoredObject.claim.inj same
      have found : (account.store.claims.find (request.ref corrID)).isSome :=
        List.find?_isSome.mpr ⟨claim, member, decide_eq_true named⟩
      obtain ⟨existing, stored⟩ := Option.isSome_iff_exists.mp found
      have present := List.mem_of_find?_eq_some stored
      have sameRef : existing.ref = request.ref corrID := by simpa using List.find?_some stored
      have holder : existing.correlationID = owner := by
        have entered := accounted.claims existing present
        rw [sameRef, created] at entered
        exact (Option.some.inj entered).symm
      exact taken_refused account.store.claims existing corrID answers request stored (holder ▸ other) shown
  | inr inLeases =>
      obtain ⟨lease, _, same⟩ := List.mem_map.mp inLeases
      cases same

theorem leases_own : LeasesOwn account := by
  intro kind pool first last corrID answers leases value allocated
  obtain ⟨_, holds⟩ := allocate_lease_grown corrID account.store kind pool first last answers leases _ allocated
  obtain ⟨lease, member, own, named⟩ := holds value rfl
  have stored : Operation.run account.store (.lease kind pool first last corrID answers) = { account.store with leases } := by
    simp only [Operation.run, allocated]
  have after := accounted_step account (.lease kind pool first last corrID answers) accounted
  have present : lease ∈ (account.next (.lease kind pool first last corrID answers)).store.leases := by
    have same : (account.next (.lease kind pool first last corrID answers)).store =
        Operation.run account.store (.lease kind pool first last corrID answers) := rfl
    rw [same, stored]
    exact member
  have entered := after.leases lease present
  rw [own] at entered
  exact ⟨lease, member, named, entered⟩

end Accounting

-- In every run the store is accounted for: creates add their own objects, releases take them.
theorem claim_store_accounted (operations : List Operation) (account : Account) (reached : Reached operations account) :
    ReleasesOwn account ∧ CreatesOwn account ∧ RefusesTaken account ∧ LeasesOwn account := by
  have accounted := reached_accounted operations account reached
  exact ⟨releases_own account accounted, creates_own account, refuses_taken account accounted, leases_own account accounted⟩

-- A served id, a fallback lease and a reservation of red, then a lease of blue.
def labOperations : List Operation :=
  [.create ⟨serviceIDPool, by decide⟩ "req-red" [] { create := .serve { id := 7 } },
   .lease "service" serviceIDPool.name 1 999 "req-red" {},
   .reserve ⟨vlanPool, by decide⟩ "req-red" 100 { create := .serve {} },
   .lease "service" serviceIDPool.name 1 999 "req-blue" {}]

def labAccount : Account := labOperations.foldl Account.next {}

theorem lab_store_accounted :
    ReleasesOwn labAccount ∧ CreatesOwn labAccount ∧ RefusesTaken labAccount ∧ LeasesOwn labAccount :=
  claim_store_accounted labOperations labAccount
    (.snoc _ _ _ _ _ (.snoc _ _ _ _ _ (.snoc _ _ _ _ _ (.snoc _ _ _ _ _ (.start _) trivial rfl) trivial rfl) trivial rfl)
      trivial rfl)

/- Red holds the first value of the range and blue is not told of a collision: it gets the
   next one. And a name that red holds goes to blue where the server hides red's object. -/
theorem lab_taken_without_collision :
    (allocateLeaseID [newLease "service" serviceIDPool.name 1 "req-red"] "service" serviceIDPool.name 1 999 "req-blue" {}).2 =
        .ok 2 ∧
      (createClaim [⟨⟨clientV4Pool, claimName clientV4Pool "req-1" ["leaf01-wan1"]⟩, "req-1", claimSpec clientV4Pool, {}⟩]
        clientV4Pool "req_1" ["leaf01-wan1"] { create := .serve {}, get := .hidden }).2 =
        .ok ⟨clientV4Pool, claimName clientV4Pool "req-1" ["leaf01-wan1"]⟩ := by
  decide +kernel

end AgenticNetops.Kuid
