import AgenticNetops.Kuid.Accounting
import AgenticNetops.Srv6service.ClaimStage
import AgenticNetops.Srv6service.NodeIsolation

set_option autoImplicit false

/- What a terminal refusal of the claim stage leaves in the store under the service's
   correlation id. Two of its exits release first; a pool that the server itself
   reports as exhausted does not. -/
namespace AgenticNetops.Srv6service

open GoText Api Kuid

-- No claim of the package's pools and no lease carries the correlation id.
def Unclaimed (store : Store) (corrID : String) : Prop :=
  (∀ claim ∈ store.claims, claim.ref.pool ∈ pools → claim.correlationID ≠ corrID) ∧
    ∀ lease ∈ store.leases, lease.correlationID ≠ corrID

instance (store : Store) (corrID : String) : Decidable (Unclaimed store corrID) :=
  inferInstanceAs (Decidable
    ((∀ claim ∈ store.claims, claim.ref.pool ∈ pools → claim.correlationID ≠ corrID) ∧
      ∀ lease ∈ store.leases, lease.correlationID ≠ corrID))

-- The server reports the pool as exhausted to a create.
def createSpent (created : Claims × Except KuidError ClaimRef) : Bool :=
  match created.2 with
  | .error (.exhaustion _ _) => true
  | _ => false

def idSpent (store : Store) (corrID : String) (answers : KuidAnswers) : Bool :=
  createSpent (createServiceIDClaim store.claims corrID answers.serviceID)

def prefixSpent (store : Store) (corrID : String) (answers : KuidAnswers) (att : Attachment) : Bool :=
  createSpent (createClientPrefixClaim store.claims corrID (attachmentName att) (answers.clientPrefix att.node))

-- The name is another correlation id's.
def heldByOther (store : Store) (corrID : String) (ref : ClaimRef) : Bool :=
  (store.claims.find ref).any fun claim => claim.correlationID ≠ corrID

-- The same for one of the creates of the attachments, each on what the ones before have stored.
def prefixesSpent (corrID : String) (answers : KuidAnswers) (claims : Claims) : List Attachment → Bool
  | [] => false
  | att :: rest =>
      let made := createClientPrefixClaim claims corrID (attachmentName att) (answers.clientPrefix att.node)
      createSpent made || prefixesSpent corrID answers made.1 rest

-- A pool that the stage claims from before it comes to the VLAN is reported as exhausted.
def poolSpent (store : Store) (corrID : String) (answers : KuidAnswers) (spec : SRv6ServiceSpec) : Bool :=
  idSpent store corrID answers ||
    prefixesSpent corrID answers (createServiceIDClaim store.claims corrID answers.serviceID).1 (orderedAttachments spec)

def prefixRef (corrID : String) (att : Attachment) : ClaimRef :=
  ⟨clientV4Pool, claimName clientV4Pool corrID [attachmentName att]⟩

-- The attachments whose claims come before the first exhausted one.
def claimedBefore (store : Store) (corrID : String) (answers : KuidAnswers) (atts : List Attachment) : List Attachment :=
  atts.takeWhile fun att => ¬ prefixSpent store corrID answers att

/- Every name that the stage has claimed by then is another one's, so that nothing of
   its own has come about. -/
def ClaimsOthers (store : Store) (corrID : String) (answers : KuidAnswers) (spec : SRv6ServiceSpec) : Prop :=
  fallsBack store corrID answers = false ∧ heldByOther store corrID ⟨serviceIDPool, claimName serviceIDPool corrID []⟩ ∧
    ∀ att ∈ claimedBefore store corrID answers (orderedAttachments spec), heldByOther store corrID (prefixRef corrID att)

section Effect
variable (store : Store) (corrID : String)

-- A whole release leaves nothing.
theorem release_unclaimed : Unclaimed (releaseAll store corrID .done) corrID := by
  constructor
  · intro claim kept known
    obtain ⟨member, untouched⟩ := List.mem_filter.mp kept
    exact claim_not_targeted store corrID claim member known (of_decide_eq_true untouched)
  · intro lease kept
    obtain ⟨member, untouched⟩ := List.mem_filter.mp kept
    exact lease_not_targeted store corrID lease member (of_decide_eq_true untouched)

/- A create whose object is there: the store stays clean exactly where it was and the
   object is another one's. -/
theorem created_unclaimed_iff (pool : Pool) (known : pool ∈ pools) (parts : List String) (answers : CreateAnswers)
    (claims : Claims) (ref : ClaimRef) (claim : Claim)
    (made : createClaim store.claims pool corrID parts answers = (claims, .ok ref)) (found : claims.find ref = some claim) :
    (Unclaimed { store with claims } corrID ↔ Unclaimed store corrID ∧ heldByOther store corrID ref) ∧
      (heldByOther store corrID ref → claims = store.claims) := by
  have named : ref = ⟨pool, claimName pool corrID parts⟩ := create_claim_ref store.claims pool corrID parts answers ref (by rw [made])
  have effect := create_claim_claims store.claims pool corrID parts answers
  rw [made] at effect
  rcases effect with same | ⟨result, _, free, added⟩
  · have same : claims = store.claims := same
    subst same
    obtain ⟨member, sameRef⟩ := find_claim store.claims ref claim found
    refine ⟨⟨fun clean => ⟨clean, ?_⟩, fun both => both.1⟩, fun _ => rfl⟩
    have inPool : claim.ref.pool ∈ pools := by rw [sameRef, named]; exact known
    rw [heldByOther, found]
    exact decide_eq_true (clean.1 claim member inPool)
  · have added : claims = store.claims ++ [⟨⟨pool, claimName pool corrID parts⟩, corrID, claimSpec pool, result⟩] := added
    have unheld : heldByOther store corrID ref = false := by rw [heldByOther, named, free]; rfl
    refine ⟨⟨fun clean => ?_, fun both => absurd both.2 (by simp [unheld])⟩, fun held => absurd held (by simp [unheld])⟩
    have own : (⟨⟨pool, claimName pool corrID parts⟩, corrID, claimSpec pool, result⟩ : Claim) ∈ claims := by
      rw [added]
      exact List.mem_append_right _ (List.mem_singleton.mpr rfl)
    exact absurd rfl (clean.1 _ own known)

end Effect

section Calls
variable (claims : Claims)

-- A create or a reservation that fails has stored nothing.
theorem create_claim_failed (pool : Pool) (corrID : String) (parts : List String) (answers : CreateAnswers) (after : Claims)
    (err : KuidError) (made : createClaim claims pool corrID parts answers = (after, .error err)) : after = claims := by
  rw [createClaim] at made
  cases answered : answers.create with
  | serve result =>
      cases free : claims.find ⟨pool, claimName pool corrID parts⟩ with
      | none => simp [answered, free] at made
      | some existing =>
          simp only [answered, free, Prod.mk.injEq] at made
          exact made.1.symm
  | fail failure =>
      by_cases shaped : isExists failure
      · simp only [answered, if_pos shaped, Prod.mk.injEq] at made
        exact made.1.symm
      · simp only [answered, if_neg shaped, Prod.mk.injEq] at made
        exact made.1.symm

theorem reserve_vlan_failed (corrID : String) (vlan : Int) (answers : CreateAnswers) (after : Claims) (err : KuidError)
    (made : reserveVLAN claims corrID vlan answers = (after, .error err)) : after = claims := by
  rw [reserveVLAN] at made
  by_cases outside : vlan < 1 ∨ vlan > 4094
  · rw [if_pos outside] at made
    exact (Prod.mk.inj made).1.symm
  · rw [if_neg outside, reserveValue] at made
    by_cases nonpositive : vlan ≤ 0
    · rw [if_pos nonpositive] at made
      exact (Prod.mk.inj made).1.symm
    · rw [if_neg nonpositive] at made
      by_cases anonymous : corrID = ""
      · rw [if_pos anonymous] at made
        exact (Prod.mk.inj made).1.symm
      · rw [if_neg anonymous] at made
        cases answered : answers.create with
        | serve result =>
            cases free : claims.find ⟨vlanPool, reserveName vlanPool vlan⟩ with
            | none => simp [answered, free] at made
            | some existing =>
                simp only [answered, free, Prod.mk.injEq] at made
                exact made.1.symm
        | fail failure =>
            by_cases status : failure.alreadyExists
            · simp only [answered, if_pos status, Prod.mk.injEq] at made
              exact made.1.symm
            · simp only [answered, if_neg status, Prod.mk.injEq] at made
              exact made.1.symm

-- A create leaves what the names of the other pools resolve to.
theorem create_claim_find (pool : Pool) (corrID : String) (parts : List String) (answers : CreateAnswers) (ref : ClaimRef)
    (other : pool ≠ ref.pool) : (createClaim claims pool corrID parts answers).1.find ref = claims.find ref := by
  have effect := create_claim_claims claims pool corrID parts answers
  cases effect with
  | inl same => rw [same]
  | inr grown =>
      obtain ⟨result, _, _, added⟩ := grown
      have apart : ¬ (⟨pool, claimName pool corrID parts⟩ : ClaimRef) = ref := fun same => other (congrArg ClaimRef.pool same)
      rw [added, Claims.find, List.find?_append, List.find?_singleton, if_neg (by simpa using apart), Option.or_none]
      rfl

-- A wait ends in a value or runs out of time.
theorem wait_error (ref : ClaimRef) (ready : Bool) (err : KuidError) (waited : waitForClaim claims ref ready = .error err) :
    ∃ pool name, err = .timeout pool name := by
  rw [waitForClaim] at waited
  cases found : claims.find ref with
  | none =>
      rw [found] at waited
      exact ⟨_, _, (Except.error.inj waited).symm⟩
  | some claim =>
      cases ready with
      | true => simp [found] at waited
      | false =>
          simp only [found, Bool.false_eq_true, if_false] at waited
          exact ⟨_, _, (Except.error.inj waited).symm⟩

end Calls

section Stage
variable (store : Store) (corrID : String) (answers : KuidAnswers)

/- The service-id stage: it is refused at the create, goes to the fallback, is served,
   or ends in a transient error. -/
theorem allocate_service_id_cases (after : Store) (result : Except StageError Int)
    (made : allocateServiceID store corrID answers = (after, result)) :
    (idSpent store corrID answers ∧ fallsBack store corrID answers = false ∧ after = store ∧
      ∃ message, result = .error (.refusal ⟨.poolExhausted, message, .pool⟩)) ∨
    (idSpent store corrID answers = false ∧ fallsBack store corrID answers ∧ ∃ claims,
      (createServiceIDClaim store.claims corrID answers.serviceID).1 = claims ∧
        fallbackServiceID { store with claims } corrID answers = (after, result)) ∨
    (idSpent store corrID answers = false ∧ fallsBack store corrID answers = false ∧
      ∃ claims ref served, createServiceIDClaim store.claims corrID answers.serviceID = (claims, .ok ref) ∧
        waitForClaim claims ref answers.serviceIDReady = .ok served ∧ after = { store with claims } ∧ result = .ok served.id) ∨
    (idSpent store corrID answers = false ∧ ∃ text, result = .error (.transient text)) := by
  unfold allocateServiceID at made
  have effect := create_claim_claims store.claims serviceIDPool corrID [] answers.serviceID
  cases created : createServiceIDClaim store.claims corrID answers.serviceID with
  | mk claims outcome =>
      have created' : createClaim store.claims serviceIDPool corrID [] answers.serviceID = (claims, outcome) := created
      simp only [created] at made
      cases outcome with
      | error err =>
          have unchanged : claims = store.claims := create_claim_failed store.claims serviceIDPool corrID [] _ claims err created'
          cases err with
          | exhaustion pool detail =>
              cases made
              exact Or.inl ⟨by simp [idSpent, createSpent, created], by simp [fallsBack, created], by rw [unchanged], _, rfl⟩
          | unavailable pool detail =>
              exact Or.inr (Or.inl ⟨by simp [idSpent, createSpent, created], by simp [fallsBack, created], claims, rfl, made⟩)
          | collision pool detail =>
              cases made
              exact Or.inr (Or.inr (Or.inr ⟨by simp [idSpent, createSpent, created], _, rfl⟩))
          | timeout pool name =>
              cases made
              exact Or.inr (Or.inr (Or.inr ⟨by simp [idSpent, createSpent, created], _, rfl⟩))
          | other text =>
              cases made
              exact Or.inr (Or.inr (Or.inr ⟨by simp [idSpent, createSpent, created], _, rfl⟩))
      | ok ref =>
          have unspent : idSpent store corrID answers = false := by simp [idSpent, createSpent, created]
          cases waited : waitForClaim claims ref answers.serviceIDReady with
          | error err =>
              simp only [waited] at made
              obtain ⟨pool, name, rfl⟩ := wait_error claims ref answers.serviceIDReady err waited
              exact Or.inr (Or.inl ⟨unspent, by simp [fallsBack, created, waited], claims, rfl, made⟩)
          | ok served =>
              simp only [waited] at made
              by_cases absent : served.id = 0
              · rw [if_pos absent] at made
                exact Or.inr (Or.inl ⟨unspent, by simp [fallsBack, created, waited, absent], claims, rfl, made⟩)
              · rw [if_neg absent] at made
                cases made
                exact Or.inr (Or.inr (Or.inl ⟨unspent, by simp [fallsBack, created, waited, absent], claims, ref, served, rfl,
                  waited, rfl, rfl⟩))

-- The fallback refuses a spent range only, and releases first.
theorem fallback_refused (start after : Store) (ref : Refusal)
    (made : fallbackServiceID start corrID answers = (after, .error (.refusal ref))) :
    (∃ mid, after = releaseAll mid corrID answers.release) ∧
      ∃ pool detail, (allocateLeaseID start.leases "service" serviceIDPool.name leaseIDFirst leaseIDLast corrID answers.lease).2 =
        .error (.exhaustion pool detail) := by
  rw [fallbackServiceID] at made
  cases leased : allocateLeaseID start.leases "service" serviceIDPool.name leaseIDFirst leaseIDLast corrID answers.lease with
  | mk leases outcome =>
      simp only [leased] at made
      cases outcome with
      | ok id => cases made
      | error err =>
          cases err with
          | exhaustion pool detail =>
              cases made
              exact ⟨⟨_, rfl⟩, pool, detail, rfl⟩
          | collision pool detail => cases made
          | timeout pool name => cases made
          | unavailable pool detail => cases made
          | other text => cases made

-- An id of the fallback is held by a lease of the correlation id.
theorem fallback_holds (start after : Store) (id : Int) (made : fallbackServiceID start corrID answers = (after, .ok id)) :
    ¬ Unclaimed after corrID := by
  rw [fallbackServiceID] at made
  cases leased : allocateLeaseID start.leases "service" serviceIDPool.name leaseIDFirst leaseIDLast corrID answers.lease with
  | mk leases outcome =>
      obtain ⟨_, holds⟩ := allocate_lease_grown corrID start _ _ _ _ answers.lease leases outcome leased
      simp only [leased] at made
      cases outcome with
      | ok id =>
          cases made
          obtain ⟨lease, member, own, _⟩ := holds id rfl
          exact fun clean => clean.2 lease member own
      | error err => cases err <;> cases made

theorem fallback_claims (start after : Store) (id : Int) (made : fallbackServiceID start corrID answers = (after, .ok id)) :
    after.claims = start.claims := by
  rw [fallbackServiceID] at made
  cases leased : allocateLeaseID start.leases "service" serviceIDPool.name leaseIDFirst leaseIDLast corrID answers.lease with
  | mk leases outcome =>
      simp only [leased] at made
      cases outcome with
      | ok id =>
          cases made
          rfl
      | error err => cases err <;> cases made

-- The claims of the attachments: clean exactly where they were and only another one's names came up.
theorem claim_prefixes_unclaimed_iff (atts : List Attachment) (prefixes : GoMap String) (after : Store)
    (result : Except StageError (GoMap String)) (made : claimPrefixes store corrID answers atts prefixes = (after, result))
    (decided : ∀ text, result ≠ .error (.transient text)) :
    Unclaimed after corrID ↔
      Unclaimed store corrID ∧ ∀ att ∈ claimedBefore store corrID answers atts, heldByOther store corrID (prefixRef corrID att) := by
  induction atts generalizing store prefixes with
  | nil =>
      cases made
      exact ⟨fun clean => ⟨clean, fun att none => absurd none List.not_mem_nil⟩, fun both => both.1⟩
  | cons att rest ih =>
      rw [claimPrefixes] at made
      cases created : createClientPrefixClaim store.claims corrID (attachmentName att) (answers.clientPrefix att.node) with
      | mk claims outcome =>
          have created' : createClaim store.claims clientV4Pool corrID [attachmentName att] (answers.clientPrefix att.node) =
              (claims, outcome) := created
          simp only [created] at made
          cases outcome with
          | error err =>
              have unchanged := create_claim_failed store.claims clientV4Pool corrID _ _ claims err created'
              cases err with
              | exhaustion pool detail =>
                  cases made
                  have spent : prefixSpent store corrID answers att = true := by simp [prefixSpent, createSpent, created]
                  have none : claimedBefore store corrID answers (att :: rest) = [] := by simp [claimedBefore, spent]
                  rw [none, unchanged]
                  exact ⟨fun clean => ⟨clean, fun att none => absurd none List.not_mem_nil⟩, fun both => both.1⟩
              | collision pool detail => exact absurd (Prod.mk.inj made).2.symm (decided _)
              | timeout pool name => exact absurd (Prod.mk.inj made).2.symm (decided _)
              | unavailable pool detail => exact absurd (Prod.mk.inj made).2.symm (decided _)
              | other text => exact absurd (Prod.mk.inj made).2.symm (decided _)
          | ok ref =>
              have unspent : prefixSpent store corrID answers att = false := by simp [prefixSpent, createSpent, created]
              have named : ref = prefixRef corrID att :=
                create_claim_ref store.claims clientV4Pool corrID _ _ ref (by rw [created'])
              have before : claimedBefore store corrID answers (att :: rest) = att :: claimedBefore store corrID answers rest := by
                simp [claimedBefore, unspent]
              cases waited : waitForClaim claims ref (answers.clientPrefixReady att.node) with
              | error err =>
                  simp only [waited] at made
                  exact absurd (Prod.mk.inj made).2.symm (decided _)
              | ok served =>
                  simp only [waited] at made
                  obtain ⟨claim, found, _⟩ := waited_claim claims ref _ served waited
                  obtain ⟨clean_iff, kept⟩ := created_unclaimed_iff store corrID clientV4Pool (by decide) _ _ claims ref claim
                    created' found
                  have later := ih { store with claims } (prefixes.set att.node served.address) made
                  rw [later, before, List.forall_mem_cons, ← named]
                  by_cases held : heldByOther store corrID ref = true
                  · have same := kept held
                    subst same
                    simp only [held, true_and]
                  · constructor
                    · intro both
                      exact absurd (clean_iff.mp both.1).2 held
                    · intro both
                      exact absurd both.2.1 held

theorem claim_prefixes_refused (atts : List Attachment) (prefixes : GoMap String) (after : Store) (ref : Refusal)
    (made : claimPrefixes store corrID answers atts prefixes = (after, .error (.refusal ref))) :
    ref.reason = .poolExhausted ∧ prefixesSpent corrID answers store.claims atts = true := by
  induction atts generalizing store prefixes with
  | nil => cases made
  | cons att rest ih =>
      rw [claimPrefixes] at made
      cases created : createClientPrefixClaim store.claims corrID (attachmentName att) (answers.clientPrefix att.node) with
      | mk claims outcome =>
          simp only [created] at made
          cases outcome with
          | error err =>
              cases err with
              | exhaustion pool detail =>
                  cases made
                  exact ⟨rfl, by simp [prefixesSpent, createSpent, created]⟩
              | collision pool detail => cases made
              | timeout pool name => cases made
              | unavailable pool detail => cases made
              | other text => cases made
          | ok held =>
              cases waited : waitForClaim claims held (answers.clientPrefixReady att.node) with
              | error err =>
                  simp only [waited] at made
                  cases made
              | ok served =>
                  simp only [waited] at made
                  obtain ⟨reason, spent⟩ := ih { store with claims } _ made
                  exact ⟨reason, by simp [prefixesSpent, created, spent]⟩

-- Once every prefix is claimed, no create has been told that the pool is exhausted.
theorem claim_prefixes_served (atts : List Attachment) (prefixes served : GoMap String) (after : Store)
    (made : claimPrefixes store corrID answers atts prefixes = (after, .ok served)) :
    prefixesSpent corrID answers store.claims atts = false ∧
      ∀ ref : ClaimRef, clientV4Pool ≠ ref.pool → after.claims.find ref = store.claims.find ref := by
  induction atts generalizing store prefixes with
  | nil =>
      cases made
      exact ⟨rfl, fun ref other => rfl⟩
  | cons att rest ih =>
      rw [claimPrefixes] at made
      have effect := create_claim_find store.claims clientV4Pool corrID [attachmentName att] (answers.clientPrefix att.node)
      cases created : createClientPrefixClaim store.claims corrID (attachmentName att) (answers.clientPrefix att.node) with
      | mk claims outcome =>
          rw [createClientPrefixClaim] at created
          rw [created] at effect
          have created : createClientPrefixClaim store.claims corrID (attachmentName att) (answers.clientPrefix att.node) =
            (claims, outcome) := created
          simp only [created] at made
          cases outcome with
          | error err => cases made
          | ok held =>
              cases waited : waitForClaim claims held (answers.clientPrefixReady att.node) with
              | error err =>
                  simp only [waited] at made
                  cases made
              | ok value =>
                  simp only [waited] at made
                  obtain ⟨unspent, kept⟩ := ih { store with claims } _ made
                  refine ⟨by simp [prefixesSpent, createSpent, created, unspent], ?_⟩
                  intro ref other
                  rw [kept ref other]
                  exact effect ref other

-- The VLAN: a collision releases, an exhausted pool leaves what is there.
theorem reserve_spec_vlan_refused (start after : Store) (vlan : Option Int) (ref : Refusal)
    (made : reserveSpecVLAN start corrID answers vlan = (after, .error (.refusal ref))) :
    (vlanTaken start corrID vlan answers = true ∧ after = releaseAll start corrID answers.release) ∨
      (vlanTaken start corrID vlan answers = false ∧ after = start) := by
  cases vlan with
  | none => cases made
  | some value =>
      rw [reserveSpecVLAN] at made
      cases reserved : reserveVLAN start.claims corrID value answers.vlan with
      | mk claims outcome =>
          simp only [reserved] at made
          cases outcome with
          | ok ref => cases made
          | error err =>
              have unchanged := reserve_vlan_failed start.claims corrID value answers.vlan claims err reserved
              subst unchanged
              cases err with
              | collision pool detail =>
                  cases made
                  exact Or.inl ⟨by rw [vlanTaken, reserved], rfl⟩
              | exhaustion pool detail =>
                  cases made
                  exact Or.inr ⟨by rw [vlanTaken, reserved], rfl⟩
              | timeout pool name => cases made
              | unavailable pool detail => cases made
              | other text => cases made

theorem vlan_taken_same (start : Store) (vlan : Option Int)
    (same : ∀ ref : ClaimRef, ref.pool = vlanPool → start.claims.find ref = store.claims.find ref) :
    vlanTaken start corrID vlan answers = vlanTaken store corrID vlan answers := by
  cases vlan with
  | none => rfl
  | some value => rw [vlanTaken, vlanTaken, reserve_result_same corrID start.claims store.claims value answers.vlan (same _ rfl)]

-- Behind the service id: the store that the id has left is clean where the id is another one's.
theorem id_unclaimed_iff (claimed : Store) (id : Int)
    (first : allocateServiceID store corrID answers = (claimed, .ok id)) :
    idSpent store corrID answers = false ∧ rangeSpent store corrID answers = false ∧
      claimed.claims = (createServiceIDClaim store.claims corrID answers.serviceID).1 ∧
      (Unclaimed claimed corrID ↔ Unclaimed store corrID ∧ fallsBack store corrID answers = false ∧
        heldByOther store corrID ⟨serviceIDPool, claimName serviceIDPool corrID []⟩) ∧
      (fallsBack store corrID answers = false → heldByOther store corrID ⟨serviceIDPool, claimName serviceIDPool corrID []⟩ →
        claimed = store) := by
  rcases allocate_service_id_cases store corrID answers claimed (.ok id) first with
    ⟨_, _, _, _, wrong⟩ | ⟨unspent, falls, claims, rfl, fallen⟩ | ⟨unspent, served, claims, ref, value, created, waited, rfl, _⟩ |
    ⟨_, _, wrong⟩
  · cases wrong
  · have held := fallback_holds corrID answers _ claimed id fallen
    refine ⟨unspent, ?_, fallback_claims corrID answers _ claimed id fallen, ⟨fun clean => absurd clean held, fun both => ?_⟩, fun served => ?_⟩
    · rw [fallbackServiceID] at fallen
      cases leased : allocateLeaseID store.leases "service" serviceIDPool.name leaseIDFirst leaseIDLast corrID answers.lease with
      | mk leases outcome =>
          cases outcome with
          | ok value => simp [rangeSpent, leased]
          | error err =>
              simp only [leased] at fallen
              cases err <;> cases fallen
    · rw [falls] at both
      exact absurd both.2.1.symm Bool.false_ne_true
    · rw [falls] at served
      cases served
  · obtain ⟨claim, found, _⟩ := waited_claim claims ref _ value waited
    have named : ref = ⟨serviceIDPool, claimName serviceIDPool corrID []⟩ :=
      create_claim_ref store.claims serviceIDPool corrID [] answers.serviceID ref (congrArg Prod.snd created)
    obtain ⟨clean_iff, kept⟩ := created_unclaimed_iff store corrID serviceIDPool (by decide) [] _ claims ref claim created found
    rw [named] at clean_iff kept
    refine ⟨unspent, by simp [rangeSpent, served], by rw [created], ?_, fun _ held => by rw [kept held]⟩
    rw [clean_iff]
    simp only [served, true_and]
  · cases wrong

theorem behind_id_iff (spec : SRv6ServiceSpec) (claimed after : Store) (id : Int) (ref : Refusal) (sids : GoMap String)
    (first : allocateServiceID store corrID answers = (claimed, .ok id))
    (refused : (match claimPrefixes claimed corrID answers (orderedAttachments spec) [] with
      | (store, .error err) => (store, .error err)
      | (store, .ok clientPrefixes) =>
          match reserveSpecVLAN store corrID answers spec.vlan with
          | (store, .error err) => (store, .error err)
          | (store, .ok vlan) =>
              (store, .ok ⟨{ serviceID := id, vrf := Fabricplan.vrfName id, clientPrefixes, vlan }, sids⟩) :
        Store × Except StageError Allocation) = (after, .error (.refusal ref)))
    (deletes : answers.release = .done) :
    Unclaimed after corrID ↔
      rangeSpent store corrID answers ∨ (poolSpent store corrID answers spec = false ∧ vlanTaken store corrID spec.vlan answers) ∨
        Unclaimed store corrID ∧ (idSpent store corrID answers ∨ ClaimsOthers store corrID answers spec) := by
  obtain ⟨unspent, inRange, sameClaims, clean_iff, kept⟩ := id_unclaimed_iff store corrID answers claimed id first
  -- where the id is another one's, the store has not changed
  have others : (Unclaimed claimed corrID ∧ ∀ att ∈ claimedBefore claimed corrID answers (orderedAttachments spec),
      heldByOther claimed corrID (prefixRef corrID att)) ↔ Unclaimed store corrID ∧ ClaimsOthers store corrID answers spec := by
    rw [clean_iff, ClaimsOthers]
    constructor
    · intro both
      obtain ⟨⟨clean, served, held⟩, rest⟩ := both
      rw [kept served held] at rest
      exact ⟨clean, served, held, rest⟩
    · intro both
      obtain ⟨clean, served, held, rest⟩ := both
      rw [kept served held]
      exact ⟨⟨clean, served, held⟩, rest⟩
  cases second : claimPrefixes claimed corrID answers (orderedAttachments spec) [] with
  | mk prefixed outcome =>
      simp only [second] at refused
      cases outcome with
      | error err =>
          cases refused
          have prefixes := claim_prefixes_unclaimed_iff claimed corrID answers _ [] after _ second fun text wrong => by cases wrong
          obtain ⟨reason, spent⟩ := claim_prefixes_refused claimed corrID answers _ [] after ref second
          rw [sameClaims] at spent
          rw [prefixes, others]
          simp [unspent, inRange, poolSpent, spent]
      | ok clientPrefixes =>
          have prefixes := claim_prefixes_unclaimed_iff claimed corrID answers _ [] prefixed _ second fun text wrong => by cases wrong
          obtain ⟨unspentPrefixes, finds⟩ := claim_prefixes_served claimed corrID answers _ [] clientPrefixes prefixed second
          have sameVLAN : vlanTaken prefixed corrID spec.vlan answers = vlanTaken store corrID spec.vlan answers := by
            apply vlan_taken_same
            intro named inVLAN
            have apart : clientV4Pool ≠ named.pool := by rw [inVLAN]; decide
            rw [finds named apart, sameClaims]
            exact create_claim_find store.claims serviceIDPool corrID [] answers.serviceID named (by rw [inVLAN]; decide)
          rw [sameClaims] at unspentPrefixes
          have unspentPools : poolSpent store corrID answers spec = false := by rw [poolSpent, unspent, unspentPrefixes]; rfl
          cases third : reserveSpecVLAN prefixed corrID answers spec.vlan with
          | mk reserved last =>
              simp only [third] at refused
              cases last with
              | ok vlan => cases refused
              | error err =>
                  cases refused
                  rcases reserve_spec_vlan_refused corrID answers prefixed after spec.vlan ref third with
                    ⟨taken, released⟩ | ⟨untaken, same⟩
                  · have whole : Unclaimed after corrID := by
                      rw [released, deletes]
                      exact release_unclaimed prefixed corrID
                    exact ⟨fun _ => Or.inr (Or.inl ⟨unspentPools, sameVLAN.symm.trans taken⟩), fun _ => whole⟩
                  · rw [sameVLAN] at untaken
                    rw [same, prefixes, others]
                    simp [unspent, inRange, untaken]

/- A terminal refusal leaves nothing claimed exactly where it comes from the spent
   fallback or from a taken VLAN, or where there was nothing and the stage has claimed
   nothing of its own. -/
theorem refusal_leaves_nothing_iff (spec : SRv6ServiceSpec) (locators : GoMap String) (after : Store) (ref : Refusal)
    (refused : allocate store spec corrID locators answers = (after, .error (.refusal ref)))
    (terminal : ref.reason = .poolExhausted ∨ ref.reason = .vlanInUse) (deletes : answers.release = .done) :
    Unclaimed after corrID ↔
      rangeSpent store corrID answers ∨ (poolSpent store corrID answers spec = false ∧ vlanTaken store corrID spec.vlan answers) ∨
        Unclaimed store corrID ∧ (idSpent store corrID answers ∨ ClaimsOthers store corrID answers spec) := by
  rw [allocate] at refused
  cases derived : serviceSIDs spec locators with
  | error message =>
      simp only [derived] at refused
      cases refused
      rcases terminal with wrong | wrong <;> cases wrong
  | ok sids =>
      simp only [derived] at refused
      cases first : allocateServiceID store corrID answers with
      | mk claimed outcome =>
          have ends := allocate_service_id_cases store corrID answers claimed outcome first
          simp only [first] at refused
          cases outcome with
          | error err =>
              cases refused
              rcases ends with ⟨spent, served, rfl, message, same⟩ | ⟨unspent, falls, claims, _, fallen⟩ |
                ⟨_, _, _, _, _, _, _, _, wrong⟩ | ⟨_, text, wrong⟩
              · cases same
                simp [rangeSpent, served, spent, poolSpent]
              · obtain ⟨⟨mid, released⟩, pool, detail, exhausted⟩ := fallback_refused corrID answers _ after ref fallen
                have whole : Unclaimed after corrID := by
                  rw [released, deletes]
                  exact release_unclaimed mid corrID
                have range : rangeSpent store corrID answers = true := by
                  rw [rangeSpent, falls, Bool.true_and, exhausted]
                exact ⟨fun _ => Or.inl range, fun _ => whole⟩
              · cases wrong
              · cases wrong
          | ok id =>
              exact behind_id_iff store corrID answers spec claimed after id ref sids first refused deletes

end Stage

/- The lab's red, with a VLAN that is reserved for another one. -/
def labVLANSpec : SRv6ServiceSpec := { labSpec "red" "wan1" with vlan := some 100 }

def labReserved : Store where
  claims := [⟨⟨vlanPool, reserveName vlanPool 100⟩, "req-blue", { index := vlanPool.name, id := some 100 }, {}⟩]

def labRefusedAnswers : KuidAnswers where
  serviceID := { create := .serve { id := 7 } }
  clientPrefix := fun _ => { create := .serve { address := "192.168.1.0/24" } }

def labRefused : Store × Except StageError Allocation :=
  allocate labReserved labVLANSpec "req-red" labFacts.locators labRefusedAnswers

def labVLANRefusal : Refusal where
  reason := .vlanInUse
  message := [.lit "vlan ", .int 100, .lit " is reserved by another holder: ", .lit "kuid collision in pool ", .str "fabric-vlan",
    .lit ": ", .lit "value ", .int 100, .lit " of pool ", .str "fabric-vlan", .lit " already held by correlation id ",
    .quoted "req-blue"]
  kind := .vlan

theorem lab_refusal_leaves_nothing : labRefused = (labRefused.1, .error (.refusal labVLANRefusal)) ∧ Unclaimed labRefused.1 "req-red" :=
  have refused : labRefused = (labRefused.1, .error (.refusal labVLANRefusal)) := by decide +kernel
  ⟨refused, (refusal_leaves_nothing_iff labReserved "req-red" labRefusedAnswers labVLANSpec labFacts.locators labRefused.1
    labVLANRefusal refused (Or.inr rfl) rfl).mpr (Or.inr (Or.inl (by decide +kernel)))⟩

-- The client pool runs out behind a served service id.
def labSpentAnswers : KuidAnswers where
  serviceID := { create := .serve { id := 7 } }
  clientPrefix := fun _ => { create := .fail { text := "no available prefixes in index srv6-client-v4" } }

-- The service is refused PoolExhausted, and its service id stays claimed.
theorem lab_refusal_keeps_id :
    (∃ message, (allocate {} (labSpec "red" "wan1") "req-red" labFacts.locators labSpentAnswers).2 =
        .error (.refusal ⟨.poolExhausted, message, .pool⟩)) ∧
      ¬ Unclaimed (allocate {} (labSpec "red" "wan1") "req-red" labFacts.locators labSpentAnswers).1 "req-red" := by
  exact ⟨⟨_, rfl⟩, by decide +kernel⟩

end AgenticNetops.Srv6service
