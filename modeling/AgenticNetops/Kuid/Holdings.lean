import AgenticNetops.Lib.Ledger
import AgenticNetops.Kuid.Lease
import Std.Data.String.ToInt

set_option autoImplicit false

/- What a correlation id holds in the store: its served claims and its fallback
   leases. One description of what an operation may add, and what a release takes. -/
namespace AgenticNetops.Kuid

open GoText Ledger

def isServiceLease (lease : Lease) : Bool := lease.kind = sanitize "service" && lease.pool = sanitize serviceIDPool.name

-- The correlation id holds the service id, as a served claim or as a lease.
def Store.HoldsID (store : Store) (corrID : String) (id : Int) : Prop :=
  (∃ claim ∈ store.claims, claim.ref.pool = serviceIDPool ∧ claim.correlationID = corrID ∧ claim.result.id = id) ∨
  ∃ lease ∈ store.leases, isServiceLease lease ∧ lease.correlationID = corrID ∧ lease.allocatedID = some id

def Store.HoldsPrefix (store : Store) (corrID pfx : String) : Prop :=
  ∃ claim ∈ store.claims, claim.ref.pool = clientV4Pool ∧ claim.correlationID = corrID ∧ claim.result.address = pfx

instance (store : Store) (corrID : String) (id : Int) : Decidable (store.HoldsID corrID id) :=
  inferInstanceAs (Decidable
    ((∃ claim ∈ store.claims, claim.ref.pool = serviceIDPool ∧ claim.correlationID = corrID ∧ claim.result.id = id) ∨
      ∃ lease ∈ store.leases, isServiceLease lease ∧ lease.correlationID = corrID ∧ lease.allocatedID = some id))

instance (store : Store) (corrID pfx : String) : Decidable (store.HoldsPrefix corrID pfx) :=
  inferInstanceAs (Decidable
    (∃ claim ∈ store.claims, claim.ref.pool = clientV4Pool ∧ claim.correlationID = corrID ∧ claim.result.address = pfx))

/- Names are unique, and a lease is one that the fallback of the service ids made. -/
structure Store.WellFormed (store : Store) : Prop where
  refs : (store.claims.map Claim.ref).Nodup
  names : (store.leases.map Lease.name).Nodup
  leases : ∀ lease ∈ store.leases, ∃ value, lease = newLease "service" serviceIDPool.name value lease.correlationID

/- What an operation for one correlation id may do to the store: everything stays,
   and what comes is its own and of the given kinds. -/
structure Adds (corrID : String) (claimed : Claim → Prop) (leased : Lease → Prop) (store grown : Store) : Prop where
  claims : ∀ claim ∈ store.claims, claim ∈ grown.claims
  leases : ∀ lease ∈ store.leases, lease ∈ grown.leases
  newClaims : ∀ claim ∈ grown.claims, claim ∈ store.claims ∨ claim.correlationID = corrID ∧ claimed claim
  newLeases : ∀ lease ∈ grown.leases, lease ∈ store.leases ∨ lease.correlationID = corrID ∧ leased lease
  wellFormed : store.WellFormed → grown.WellFormed

section Adding
variable (corrID : String) (claimed : Claim → Prop) (leased : Lease → Prop)

theorem adds_refl (store : Store) : Adds corrID claimed leased store store :=
  ⟨fun _ member => member, fun _ member => member, fun _ => Or.inl, fun _ => Or.inl, id⟩

theorem adds_trans (store mid grown : Store) (first : Adds corrID claimed leased store mid)
    (second : Adds corrID claimed leased mid grown) : Adds corrID claimed leased store grown where
  claims claim member := second.claims claim (first.claims claim member)
  leases lease member := second.leases lease (first.leases lease member)
  newClaims claim member := (second.newClaims claim member).elim (first.newClaims claim) Or.inr
  newLeases lease member := (second.newLeases lease member).elim (first.newLeases lease) Or.inr
  wellFormed held := second.wellFormed (first.wellFormed held)

theorem adds_weaken (moreClaimed : Claim → Prop) (moreLeased : Lease → Prop) (store grown : Store)
    (wideClaimed : ∀ claim, claimed claim → moreClaimed claim) (wideLeased : ∀ lease, leased lease → moreLeased lease)
    (adds : Adds corrID claimed leased store grown) : Adds corrID moreClaimed moreLeased store grown where
  claims := adds.claims
  leases := adds.leases
  newClaims claim member := (adds.newClaims claim member).imp_right (And.imp_right (wideClaimed claim))
  newLeases lease member := (adds.newLeases lease member).imp_right (And.imp_right (wideLeased lease))
  wellFormed := adds.wellFormed

variable (store grown : Store) (adds : Adds corrID claimed leased store grown)
include adds

theorem holds_id_grows (owner : String) (id : Int) (held : store.HoldsID owner id) : grown.HoldsID owner id := by
  rcases held with ⟨claim, member, fields⟩ | ⟨lease, member, fields⟩
  · exact Or.inl ⟨claim, adds.claims claim member, fields⟩
  · exact Or.inr ⟨lease, adds.leases lease member, fields⟩

theorem holds_prefix_grows (owner pfx : String) (held : store.HoldsPrefix owner pfx) : grown.HoldsPrefix owner pfx := by
  obtain ⟨claim, member, fields⟩ := held
  exact ⟨claim, adds.claims claim member, fields⟩

theorem holds_id_new (owner : String) (id : Int) (held : grown.HoldsID owner id) :
    store.HoldsID owner id ∨ owner = corrID ∧
      ((∃ claim, claimed claim ∧ claim.ref.pool = serviceIDPool ∧ claim.result.id = id) ∨
        ∃ lease, leased lease ∧ lease.allocatedID = some id) := by
  rcases held with ⟨claim, member, pool, own, value⟩ | ⟨lease, member, service, own, value⟩
  · rcases adds.newClaims claim member with old | ⟨mine, kind⟩
    · exact Or.inl (Or.inl ⟨claim, old, pool, own, value⟩)
    · exact Or.inr ⟨own.symm.trans mine, Or.inl ⟨claim, kind, pool, value⟩⟩
  · rcases adds.newLeases lease member with old | ⟨mine, kind⟩
    · exact Or.inl (Or.inr ⟨lease, old, service, own, value⟩)
    · exact Or.inr ⟨own.symm.trans mine, Or.inr ⟨lease, kind, value⟩⟩

theorem holds_prefix_new (owner pfx : String) (held : grown.HoldsPrefix owner pfx) :
    store.HoldsPrefix owner pfx ∨ owner = corrID ∧
      ∃ claim, claimed claim ∧ claim.ref.pool = clientV4Pool ∧ claim.result.address = pfx := by
  obtain ⟨claim, member, pool, own, value⟩ := held
  rcases adds.newClaims claim member with old | ⟨mine, kind⟩
  · exact Or.inl ⟨claim, old, pool, own, value⟩
  · exact Or.inr ⟨own.symm.trans mine, claim, kind, pool, value⟩

end Adding

-- A new claim object under a free name.
theorem add_claim_adds (store : Store) (claim : Claim) (free : store.claims.find claim.ref = none) :
    Adds claim.correlationID (fun new => new = claim) (fun _ => False) store { store with claims := store.claims ++ [claim] } where
  claims _ member := List.mem_append_left _ member
  leases _ member := member
  newClaims found member := by
    rcases List.mem_append.mp member with old | new
    · exact Or.inl old
    · rw [List.mem_singleton] at new
      exact Or.inr ⟨by rw [new], new⟩
  newLeases _ member := Or.inl member
  wellFormed formed := by
    refine ⟨?_, formed.names, formed.leases⟩
    rw [List.map_append, List.map_singleton]
    refine List.Nodup.append formed.refs (List.nodup_singleton _) ?_
    rw [List.disjoint_singleton]
    intro taken
    obtain ⟨found, member, same⟩ := List.mem_map.mp taken
    have absent := List.find?_eq_none.mp free found member
    exact absent (by simpa using same)

-- A create either leaves the claims or adds the claim it serves.
theorem create_claim_claims (claims : Claims) (pool : Pool) (corrID : String) (parts : List String) (answers : CreateAnswers) :
    (createClaim claims pool corrID parts answers).1 = claims ∨
      ∃ result, answers.create = .serve result ∧ claims.find ⟨pool, claimName pool corrID parts⟩ = none ∧
        (createClaim claims pool corrID parts answers).1 =
          claims ++ [⟨⟨pool, claimName pool corrID parts⟩, corrID, claimSpec pool, result⟩] := by
  unfold createClaim
  cases answered : answers.create with
  | serve result =>
      cases free : claims.find ⟨pool, claimName pool corrID parts⟩ with
      | none => exact Or.inr ⟨result, rfl, rfl, by simp [free]⟩
      | some existing => exact Or.inl (by simp [free])
  | fail err => by_cases shaped : isExists err <;> exact Or.inl (by simp [shaped])

-- A claim of the pool that the create has just served.
def Served (pool : Pool) (answers : CreateAnswers) (claim : Claim) : Prop :=
  claim.ref.pool = pool ∧ answers.create = .serve claim.result

theorem create_claim_adds (store : Store) (pool : Pool) (corrID : String) (parts : List String) (answers : CreateAnswers) :
    Adds corrID (Served pool answers) (fun _ => False) store
      { store with claims := (createClaim store.claims pool corrID parts answers).1 } := by
  rcases create_claim_claims store.claims pool corrID parts answers with same | ⟨result, served, free, added⟩
  · rw [same]
    exact adds_refl _ _ _ store
  · rw [added]
    refine adds_weaken _ _ _ _ _ _ _ ?_ (fun _ impossible => impossible)
      (add_claim_adds store ⟨⟨pool, claimName pool corrID parts⟩, corrID, claimSpec pool, result⟩ free)
    rintro _ rfl
    exact ⟨rfl, served⟩

theorem reserve_vlan_adds (store : Store) (corrID : String) (value : Int) (answers : CreateAnswers) :
    Adds corrID (Served vlanPool answers) (fun _ => False) store
      { store with claims := (reserveVLAN store.claims corrID value answers).1 } := by
  have unchanged : ∀ claims, claims = store.claims →
      Adds corrID (Served vlanPool answers) (fun _ => False) store { store with claims } := by
    rintro _ rfl
    exact adds_refl _ _ _ store
  unfold reserveVLAN
  by_cases outside : value < 1 ∨ value > 4094
  · exact unchanged _ (by rw [if_pos outside])
  · rw [if_neg outside]
    unfold reserveValue
    by_cases positive : value ≤ 0
    · exact unchanged _ (by simp [positive])
    · by_cases anonymous : corrID = ""
      · exact unchanged _ (by simp [positive, anonymous])
      · cases answered : answers.create with
        | fail err => by_cases shaped : err.alreadyExists <;> exact unchanged _ (by simp [positive, anonymous, shaped])
        | serve result =>
            cases free : store.claims.find ⟨vlanPool, reserveName vlanPool value⟩ with
            | some existing => exact unchanged _ (by simp [positive, anonymous, free])
            | none =>
                have added := add_claim_adds store
                  ⟨⟨vlanPool, reserveName vlanPool value⟩, corrID, { index := vlanPool.name, id := some value }, result⟩ free
                simp only [positive, anonymous, if_false, free]
                refine adds_weaken _ _ _ _ _ _ _ ?_ (fun _ impossible => impossible) added
                rintro _ rfl
                exact ⟨rfl, answered⟩

section Leases
variable (store : Store) (corrID : String)

theorem lease_name_injective (kind pool : String) (a b : Int) (same : leaseName kind pool a = leaseName kind pool b) : a = b := by
  have chars := congrArg String.toList same
  simp only [leaseName, String.toList_append] at chars
  exact Int.repr_injective (String.toList_inj.mp (List.append_cancel_left chars))

theorem new_lease_service (value : Int) : isServiceLease (newLease "service" serviceIDPool.name value corrID) := by
  simp [isServiceLease, newLease]

-- A new lease under a free name.
theorem add_lease_adds (value : Int)
    (free : store.leases.find? (fun lease => lease.name = leaseName "service" serviceIDPool.name value) = none) :
    Adds corrID (fun _ => False) (fun lease => lease.allocatedID = some value) store
      { store with leases := store.leases ++ [newLease "service" serviceIDPool.name value corrID] } where
  claims _ member := member
  leases _ member := List.mem_append_left _ member
  newClaims _ member := Or.inl member
  newLeases lease member := by
    rcases List.mem_append.mp member with old | new
    · exact Or.inl old
    · rw [List.mem_singleton] at new
      subst new
      exact Or.inr ⟨rfl, rfl⟩
  wellFormed formed := by
    refine ⟨formed.refs, ?_, ?_⟩
    · rw [List.map_append, List.map_singleton]
      refine List.Nodup.append formed.names (List.nodup_singleton _) ?_
      rw [List.disjoint_singleton]
      intro taken
      obtain ⟨lease, member, same⟩ := List.mem_map.mp taken
      exact List.find?_eq_none.mp free lease member (by simpa [newLease] using same)
    · intro lease member
      rcases List.mem_append.mp member with old | new
      · exact formed.leases lease old
      · rw [List.mem_singleton] at new
        subst new
        exact ⟨value, rfl⟩

/- What the create loop does over its free values: it adds at most one lease, for one
   of them; and a value it returns is then held under the correlation id. -/
theorem create_lease_spec (answer : Int → Option ApiError) (free : List Int) (leases : List Lease)
    (result : Except KuidError (Option Int))
    (made : createLease store.leases "service" serviceIDPool.name corrID answer free = (leases, result)) :
    Adds corrID (fun _ => False) (fun lease => ∃ id ∈ free, lease.allocatedID = some id) store { store with leases } ∧
      ∀ value, result = .ok (some value) → store.WellFormed →
        ∃ lease ∈ leases, isServiceLease lease ∧ lease.correlationID = corrID ∧ lease.allocatedID = some value := by
  induction free with
  | nil =>
      cases made
      exact ⟨adds_refl _ _ _ store, fun value done => by cases done⟩
  | cons value rest ih =>
      have own : ∀ existing, store.leases.find? (fun lease => lease.name = leaseName "service" serviceIDPool.name value) =
          some existing → existing.correlationID = corrID → store.WellFormed → ∃ lease ∈ store.leases,
            isServiceLease lease ∧ lease.correlationID = corrID ∧ lease.allocatedID = some value := by
        intro existing found held formed
        have named : existing.name = leaseName "service" serviceIDPool.name value := by simpa using List.find?_some found
        have member := List.mem_of_find?_eq_some found
        obtain ⟨stored, shape⟩ := formed.leases existing member
        have same : stored = value := lease_name_injective _ _ _ _ (by rw [← named, shape]; rfl)
        refine ⟨existing, member, ?_, held, ?_⟩
        · rw [shape]
          exact new_lease_service _ stored
        · rw [shape, same]
          rfl
      have later := fun tail => (ih tail).imp_left fun adds =>
        adds_weaken _ _ _ (fun _ => False) (fun lease => ∃ id ∈ value :: rest, lease.allocatedID = some id) store _
          (fun _ impossible => impossible) (fun _ ⟨id, member, held⟩ => ⟨id, List.mem_cons_of_mem value member, held⟩) adds
      have unchanged : Adds corrID (fun _ => False) (fun lease => ∃ id ∈ value :: rest, lease.allocatedID = some id) store
          store := adds_refl _ _ _ store
      rw [createLease] at made
      cases answered : answer value with
      | none =>
          cases found : store.leases.find? (fun lease => lease.name = leaseName "service" serviceIDPool.name value) with
          | none =>
              simp only [answered, found] at made
              cases made
              refine ⟨adds_weaken _ _ _ _ _ _ _ (fun _ impossible => impossible) ?_ (add_lease_adds store corrID value found), ?_⟩
              · exact fun lease held => ⟨value, List.mem_cons_self, held⟩
              · rintro _ done _
                cases done
                exact ⟨_, List.mem_append_right _ (List.mem_singleton.mpr rfl), new_lease_service _ value, rfl, rfl⟩
          | some existing =>
              simp only [answered, found] at made
              by_cases held : existing.correlationID = corrID
              · rw [if_pos held] at made
                cases made
                refine ⟨unchanged, ?_⟩
                rintro _ done formed
                cases done
                exact own existing found held formed
              · rw [if_neg held] at made
                exact later made
      | some err =>
          simp only [answered] at made
          by_cases shaped : ¬ err.alreadyExists
          · rw [if_pos shaped] at made
            cases made
            exact ⟨unchanged, fun value done => by cases done⟩
          · rw [if_neg shaped] at made
            cases found : store.leases.find? (fun lease => lease.name = leaseName "service" serviceIDPool.name value) with
            | none =>
                simp only [found, Option.map_none] at made
                exact later made
            | some existing =>
                simp only [found, Option.map_some, Option.some.injEq] at made
                by_cases held : existing.correlationID = corrID
                · rw [if_pos held] at made
                  cases made
                  refine ⟨unchanged, ?_⟩
                  rintro _ done formed
                  cases done
                  exact own existing found held formed
                · rw [if_neg held] at made
                  exact later made

-- A lease for a value of the range that no lease of the pool uses.
def LeasedFree (first last : Nat) (lease : Lease) : Prop :=
  ∃ id : Int, lease.allocatedID = some id ∧ first ≤ id ∧ id ≤ last ∧ id ∉ usedLeaseIDs store.leases serviceIDPool.name

-- The fallback: a lease of the range, for a value that no lease of the pool uses.
theorem allocate_lease_spec (first last : Nat) (answers : LeaseAnswers) (leases : List Lease) (result : Except KuidError Int)
    (made : allocateLeaseID store.leases "service" serviceIDPool.name first last corrID answers = (leases, result)) :
    Adds corrID (fun _ => False) (LeasedFree store first last) store { store with leases } ∧
      ∀ value, result = .ok value → store.WellFormed →
        ∃ lease ∈ leases, isServiceLease lease ∧ lease.correlationID = corrID ∧ lease.allocatedID = some value := by
  have unchanged : Adds corrID (fun _ => False) (LeasedFree store first last) store store := adds_refl _ _ _ store
  unfold allocateLeaseID at made
  cases listed : answers.list with
  | some err =>
      simp only [listed] at made
      cases made
      exact ⟨unchanged, fun _ done => by cases done⟩
  | none =>
      cases held : heldLeaseID store.leases "service" serviceIDPool.name corrID with
      | some value =>
          simp only [listed, held] at made
          cases made
          refine ⟨unchanged, ?_⟩
          rintro _ done _
          cases done
          obtain ⟨lease, member, kept⟩ := List.exists_of_findSome?_eq_some held
          simp only [leasesOfPool, List.mem_filter, decide_eq_true_eq] at member
          simp only [Option.ite_none_right_eq_some] at kept
          exact ⟨lease, member.1, by simp [isServiceLease, kept.1.1, member.2], kept.1.2, kept.2⟩
      | none =>
          simp only [listed, held] at made
          rcases created : createLease store.leases "service" serviceIDPool.name corrID answers.create
            (((List.range (last + 1 - first)).map fun step => ((first + step : Nat) : Int)).filter
              fun value => value ∉ usedLeaseIDs store.leases serviceIDPool.name) with ⟨after, outcome⟩
          obtain ⟨adds, holds⟩ := create_lease_spec store corrID answers.create _ after outcome created
          have inRange := adds_weaken _ _ _ (fun _ => False) (LeasedFree store first last) _ _
            (fun _ impossible => impossible) ?_ adds
          · rw [created] at made
            cases outcome with
            | error err =>
                cases made
                exact ⟨inRange, fun _ done => by cases done⟩
            | ok found =>
                cases found with
                | none =>
                    cases made
                    exact ⟨inRange, fun _ done => by cases done⟩
                | some value =>
                    cases made
                    refine ⟨inRange, ?_⟩
                    rintro _ done formed
                    cases done
                    exact holds value rfl formed
          · rintro lease ⟨id, member, held⟩
            obtain ⟨inRange, unused⟩ := List.mem_filter.mp member
            obtain ⟨step, bound, rfl⟩ := List.mem_map.mp inRange
            have below := List.mem_range.mp bound
            exact ⟨_, held, by omega, by omega, by simpa using unused⟩

end Leases

section Release
variable (store : Store) (corrID : String) (answer : ReleaseAnswer)

theorem release_targets_own (target : StoredObject) (member : target ∈ releaseTargets store corrID) :
    (∃ claim ∈ store.claims, target = .claim claim.ref ∧ claim.correlationID = corrID) ∨
      ∃ lease ∈ store.leases, target = .lease lease.name ∧ lease.correlationID = corrID := by
  rcases List.mem_append.mp member with inPools | inLeases
  · obtain ⟨pool, _, here⟩ := List.mem_flatMap.mp inPools
    obtain ⟨claim, kept, rfl⟩ := List.mem_map.mp here
    obtain ⟨stored, fields⟩ := List.mem_filter.mp kept
    exact Or.inl ⟨claim, stored, rfl, (of_decide_eq_true fields).2⟩
  · obtain ⟨lease, kept, rfl⟩ := List.mem_map.mp inLeases
    obtain ⟨stored, own⟩ := List.mem_filter.mp kept
    exact Or.inr ⟨lease, stored, rfl, of_decide_eq_true own⟩

-- Whatever the release reaches is the correlation id's own.
theorem released_targets :
    ∃ targets, (∀ target ∈ targets, target ∈ releaseTargets store corrID) ∧
      (releaseByCorrelationID store corrID answer).1 = store.delete targets := by
  cases answer with
  | done => exact ⟨releaseTargets store corrID, fun _ member => member, rfl⟩
  | failed deleted err => exact ⟨_, fun _ member => List.mem_of_mem_take member, rfl⟩

theorem release_sub_claims (claim : Claim) (member : claim ∈ (releaseByCorrelationID store corrID answer).1.claims) :
    claim ∈ store.claims := by
  obtain ⟨targets, _, same⟩ := released_targets store corrID answer
  rw [same] at member
  exact List.mem_of_mem_filter member

theorem release_sub_leases (lease : Lease) (member : lease ∈ (releaseByCorrelationID store corrID answer).1.leases) :
    lease ∈ store.leases := by
  obtain ⟨targets, _, same⟩ := released_targets store corrID answer
  rw [same] at member
  exact List.mem_of_mem_filter member

theorem release_keeps_formed (formed : store.WellFormed) : (releaseByCorrelationID store corrID answer).1.WellFormed := by
  obtain ⟨targets, _, same⟩ := released_targets store corrID answer
  rw [same]
  refine ⟨?_, ?_, fun lease member => formed.leases lease (List.mem_of_mem_filter member)⟩
  · exact formed.refs.sublist (List.Sublist.map _ List.filter_sublist)
  · exact formed.names.sublist (List.Sublist.map _ List.filter_sublist)

-- Another one's claims and leases stay.
theorem release_keeps_claim (formed : store.WellFormed) (claim : Claim) (member : claim ∈ store.claims)
    (other : claim.correlationID ≠ corrID) : claim ∈ (releaseByCorrelationID store corrID answer).1.claims := by
  obtain ⟨targets, own, same⟩ := released_targets store corrID answer
  rw [same]
  refine List.mem_filter.mpr ⟨member, decide_eq_true fun target => ?_⟩
  rcases release_targets_own store corrID _ (own _ target) with ⟨found, stored, named, mine⟩ | ⟨_, _, named, _⟩
  · have alike := List.inj_on_of_nodup_map formed.refs member stored (StoredObject.claim.inj named)
    exact other (alike ▸ mine)
  · cases named

theorem release_keeps_lease (formed : store.WellFormed) (lease : Lease) (member : lease ∈ store.leases)
    (other : lease.correlationID ≠ corrID) : lease ∈ (releaseByCorrelationID store corrID answer).1.leases := by
  obtain ⟨targets, own, same⟩ := released_targets store corrID answer
  rw [same]
  refine List.mem_filter.mpr ⟨member, decide_eq_true fun target => ?_⟩
  rcases release_targets_own store corrID _ (own _ target) with ⟨_, _, named, _⟩ | ⟨found, stored, named, mine⟩
  · cases named
  · have alike := List.inj_on_of_nodup_map formed.names member stored (StoredObject.lease.inj named)
    exact other (alike ▸ mine)

theorem release_keeps_id (formed : store.WellFormed) (owner : String) (id : Int) (other : owner ≠ corrID)
    (held : store.HoldsID owner id) : (releaseByCorrelationID store corrID answer).1.HoldsID owner id := by
  rcases held with ⟨claim, member, pool, own, value⟩ | ⟨lease, member, service, own, value⟩
  · exact Or.inl ⟨claim, release_keeps_claim store corrID answer formed claim member (own ▸ other), pool, own, value⟩
  · exact Or.inr ⟨lease, release_keeps_lease store corrID answer formed lease member (own ▸ other), service, own, value⟩

theorem release_keeps_prefix (formed : store.WellFormed) (owner pfx : String) (other : owner ≠ corrID)
    (held : store.HoldsPrefix owner pfx) : (releaseByCorrelationID store corrID answer).1.HoldsPrefix owner pfx := by
  obtain ⟨claim, member, pool, own, value⟩ := held
  exact ⟨claim, release_keeps_claim store corrID answer formed claim member (own ▸ other), pool, own, value⟩

theorem release_sub_id (owner : String) (id : Int) (held : (releaseByCorrelationID store corrID answer).1.HoldsID owner id) :
    store.HoldsID owner id := by
  rcases held with ⟨claim, member, fields⟩ | ⟨lease, member, fields⟩
  · exact Or.inl ⟨claim, release_sub_claims store corrID answer claim member, fields⟩
  · exact Or.inr ⟨lease, release_sub_leases store corrID answer lease member, fields⟩

theorem release_sub_prefix (owner pfx : String)
    (held : (releaseByCorrelationID store corrID answer).1.HoldsPrefix owner pfx) : store.HoldsPrefix owner pfx := by
  obtain ⟨claim, member, fields⟩ := held
  exact ⟨claim, release_sub_claims store corrID answer claim member, fields⟩

end Release

end AgenticNetops.Kuid
