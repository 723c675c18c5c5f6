import AgenticNetops.Kuid.Claim

set_option autoImplicit false

/- pkg/kuid lease.go and release.go over one store of claims and fallback leases.
   Lists and reads of leases return the current store. -/
namespace AgenticNetops.Kuid

open GoText

-- A fallback lease; `allocatedID` is what strconv.Atoi makes of its annotation.
structure Lease where
  name : String
  kind : String
  pool : String
  correlationID : String
  allocatedID : Option Int
deriving DecidableEq, Repr

structure Store where
  claims : Claims := []
  leases : List Lease := []
deriving DecidableEq, Repr

def leaseName (kind pool : String) (value : Int) : String :=
  sanitize ("agentic-netops-" ++ kind ++ "-" ++ pool) ++ "-" ++ toString value

def newLease (kind pool : String) (value : Int) (correlationID : String) : Lease where
  name := leaseName kind pool value
  kind := sanitize kind
  pool := sanitize pool
  correlationID := correlationID
  allocatedID := some value

-- The error the list fails with, and the one the create of a value fails with.
structure LeaseAnswers where
  list : Option ApiError := none
  create : Int → Option ApiError := fun _ => none

def leasesOfPool (leases : List Lease) (pool : String) : List Lease :=
  leases.filter fun lease => lease.pool = sanitize pool

-- The value this correlation id already holds in the pool.
def heldLeaseID (leases : List Lease) (kind pool correlationID : String) : Option Int :=
  (leasesOfPool leases pool).findSome? fun lease =>
    if lease.kind = sanitize kind ∧ lease.correlationID = correlationID then lease.allocatedID else none

def usedLeaseIDs (leases : List Lease) (pool : String) : List Int :=
  (leasesOfPool leases pool).filterMap Lease.allocatedID

/- The create loop over the free values, lowest first. A name that is taken is ours
   when the lease carries our correlation id, and spent otherwise. -/
def createLease (leases : List Lease) (kind pool correlationID : String) (answer : Int → Option ApiError) :
    List Int → List Lease × Except KuidError (Option Int)
  | [] => (leases, .ok none)
  | value :: rest =>
      let stored := leases.find? fun lease => lease.name = leaseName kind pool value
      match answer value, stored with
      | none, none => (leases ++ [newLease kind pool value correlationID], .ok (some value))
      | some err, _ =>
          if ¬ err.alreadyExists then (leases, .error (classify pool err))
          else if stored.map Lease.correlationID = some correlationID then (leases, .ok (some value))
          else createLease leases kind pool correlationID answer rest
      | none, some existing =>
          if existing.correlationID = correlationID then (leases, .ok (some value))
          else createLease leases kind pool correlationID answer rest

def allocateLeaseID (leases : List Lease) (kind pool : String) (first last : Nat) (correlationID : String)
    (answers : LeaseAnswers) : List Lease × Except KuidError Int :=
  match answers.list with
  | some err => (leases, .error (classify pool err))
  | none =>
      match heldLeaseID leases kind pool correlationID with
      | some value => (leases, .ok value)
      | none =>
          let free := ((List.range (last + 1 - first)).map fun step => ((first + step : Nat) : Int)).filter
            fun value => value ∉ usedLeaseIDs leases pool
          match createLease leases kind pool correlationID answers.create free with
          | (leases, .error err) => (leases, .error err)
          | (leases, .ok (some value)) => (leases, .ok value)
          | (leases, .ok none) =>
              (leases, .error (.exhaustion pool [.lit "no available ", .str kind, .lit " ids (", .int first, .lit "-",
                .int last, .lit ")"]))

/- ReleaseByCorrelationID deletes the claims of each pool in turn, then the leases.
   `deleted` is how many objects go before the error that ends the walk. -/
inductive ReleaseAnswer where
  | done
  | failed (deleted : Nat) (err : ApiError)
deriving DecidableEq, Repr

inductive StoredObject where
  | claim (ref : ClaimRef)
  | lease (name : String)
deriving DecidableEq, Repr

def releaseTargets (store : Store) (correlationID : String) : List StoredObject :=
  (pools.flatMap fun pool =>
    (store.claims.filter fun claim => claim.ref.pool = pool ∧ claim.correlationID = correlationID).map
      fun claim => .claim claim.ref) ++
  (store.leases.filter fun lease => lease.correlationID = correlationID).map fun lease => .lease lease.name

def Store.delete (store : Store) (targets : List StoredObject) : Store where
  claims := store.claims.filter fun claim => .claim claim.ref ∉ targets
  leases := store.leases.filter fun lease => .lease lease.name ∉ targets

def releaseByCorrelationID (store : Store) (correlationID : String) (answer : ReleaseAnswer) :
    Store × Except ApiError Nat :=
  let targets := releaseTargets store correlationID
  match answer with
  | .done => (store.delete targets, .ok targets.length)
  | .failed deleted err => (store.delete (targets.take deleted), .error err)

end AgenticNetops.Kuid
