import AgenticNetops.Kuid.Holdings
import AgenticNetops.Srv6service.ClientSubnets

set_option autoImplicit false

/- What the claim stage does to the store: it only adds objects of its own
   correlation id, or it adds and then releases, where the fallback range is spent
   or the named VLAN is another one's. What it returns is held. -/
namespace AgenticNetops.Srv6service

open GoText Api Kuid Ledger

-- The service-id claim is not served, so the fallback range decides.
def fallsBack (store : Store) (corrID : String) (answers : KuidAnswers) : Bool :=
  match createServiceIDClaim store.claims corrID answers.serviceID with
  | (claims, .ok ref) =>
      match waitForClaim claims ref answers.serviceIDReady with
      | .ok result => result.id = 0
      | .error (.timeout _ _) | .error (.unavailable _ _) => true
      | .error _ => false
  | (_, .error (.unavailable _ _)) => true
  | (_, .error _) => false

def rangeSpent (store : Store) (corrID : String) (answers : KuidAnswers) : Bool :=
  fallsBack store corrID answers &&
    match (allocateLeaseID store.leases "service" serviceIDPool.name leaseIDFirst leaseIDLast corrID answers.lease).2 with
    | .error (.exhaustion _ _) => true
    | _ => false

def vlanTaken (store : Store) (corrID : String) (vlan : Option Int) (answers : KuidAnswers) : Bool :=
  match vlan with
  | none => false
  | some value =>
      match (reserveVLAN store.claims corrID value answers.vlan).2 with
      | .error (.collision _ _) => true
      | _ => false

-- A claim that one of the stage's creates has served.
def StageClaimed (spec : SRv6ServiceSpec) (answers : KuidAnswers) (claim : Claim) : Prop :=
  Served serviceIDPool answers.serviceID claim ∨
    (∃ att ∈ spec.attachments, Served clientV4Pool (answers.clientPrefix att.node) claim) ∨
    Served vlanPool answers.vlan claim

def StageLeased (store : Store) (corrID : String) (answers : KuidAnswers) (lease : Lease) : Prop :=
  fallsBack store corrID answers = true ∧ LeasedFree store leaseIDFirst leaseIDLast lease

-- The server shows the object behind every name of the service that it calls taken.
def ShowsHolders (store : Store) (corrID : String) (spec : SRv6ServiceSpec) (answers : KuidAnswers) : Prop :=
  ¬ HidesHolder store.claims serviceIDPool corrID [] answers.serviceID ∧
    ∀ att ∈ spec.attachments, ¬ HidesHolder store.claims clientV4Pool corrID [attachmentName att] (answers.clientPrefix att.node)

-- What the allocations name is held under the correlation id.
def Holds (store : Store) (corrID : String) (alloc : Api.Allocations) : Prop :=
  store.HoldsID corrID alloc.serviceID ∧ ∀ entry ∈ alloc.clientPrefixes, store.HoldsPrefix corrID entry.2

instance (store : Store) (corrID : String) (spec : SRv6ServiceSpec) (answers : KuidAnswers) :
    Decidable (ShowsHolders store corrID spec answers) := inferInstanceAs (Decidable (_ ∧ _))

instance (store : Store) (corrID : String) (alloc : Api.Allocations) : Decidable (Holds store corrID alloc) :=
  inferInstanceAs (Decidable (store.HoldsID corrID alloc.serviceID ∧ ∀ entry ∈ alloc.clientPrefixes, store.HoldsPrefix corrID entry.2))

theorem holds_grows (corrID owner : String) (claimed : Claim → Prop) (leased : Lease → Prop) (store grown : Store)
    (adds : Adds corrID claimed leased store grown) (alloc : Api.Allocations) (held : Holds store owner alloc) :
    Holds grown owner alloc :=
  ⟨holds_id_grows corrID claimed leased store grown adds owner _ held.1,
    fun entry member => holds_prefix_grows corrID claimed leased store grown adds owner _ (held.2 entry member)⟩

section Creates
variable (corrID : String) (pool : Pool) (parts : List String) (answers : CreateAnswers)

-- A name that hides nobody's object before hides nobody's after claims of one's own.
theorem shown_grows (claimed : Claim → Prop) (leased : Lease → Prop) (store grown : Store)
    (adds : Adds corrID claimed leased store grown) (formed : store.WellFormed)
    (shown : ¬ HidesHolder store.claims pool corrID parts answers) :
    ¬ HidesHolder grown.claims pool corrID parts answers := by
  rintro ⟨⟨existing, found, other⟩, taken, hidden⟩
  obtain ⟨member, named⟩ := find_claim grown.claims _ existing found
  rcases adds.newClaims existing member with old | ⟨own, _⟩
  · refine shown ⟨⟨existing, ?_, other⟩, taken, hidden⟩
    cases before : store.claims.find ⟨pool, claimName pool corrID parts⟩ with
    | none =>
        have absent := List.find?_eq_none.mp before existing old
        exact absurd (by simpa using named) absent
    | some earlier =>
        obtain ⟨stored, sameName⟩ := find_claim store.claims _ earlier before
        rw [List.inj_on_of_nodup_map formed.refs stored old (sameName.trans named.symm)]
  · exact other own

-- The object behind a create that goes on is the correlation id's own.
theorem created_own (store : Store) (claims : Claims) (ref : ClaimRef) (claim : Claim)
    (shown : ¬ HidesHolder store.claims pool corrID parts answers)
    (created : createClaim store.claims pool corrID parts answers = (claims, .ok ref))
    (found : claims.find ref = some claim) : claim ∈ claims ∧ claim.ref.pool = pool ∧ claim.correlationID = corrID := by
  obtain ⟨member, named⟩ := find_claim claims ref claim found
  have refNamed := create_claim_ref store.claims pool corrID parts answers ref (by rw [created])
  refine ⟨member, by rw [named, refNamed], ?_⟩
  rcases create_claim_claims store.claims pool corrID parts answers with same | ⟨result, _, free, added⟩
  · rw [created] at same
    simp only at same
    rw [same] at found
    exact (never_shared_iff store.claims pool corrID parts answers).mpr shown ref claim (by rw [created]) found
  · rw [created] at added
    simp only at added
    subst added refNamed
    have appended : (store.claims ++ [(⟨⟨pool, claimName pool corrID parts⟩, corrID, claimSpec pool, result⟩ : Claim)]).find?
        (fun claim => claim.ref = ⟨pool, claimName pool corrID parts⟩) =
        some ⟨⟨pool, claimName pool corrID parts⟩, corrID, claimSpec pool, result⟩ := by
      rw [List.find?_append, show store.claims.find? _ = none from free]
      simp
    rw [Claims.find, appended, Option.some.injEq] at found
    rw [← found]

theorem waited_claim (claims : Claims) (ref : ClaimRef) (ready : Bool) (result : ClaimResult)
    (waited : waitForClaim claims ref ready = .ok result) : ∃ claim, claims.find ref = some claim ∧ claim.result = result := by
  unfold waitForClaim at waited
  cases found : claims.find ref with
  | none => simp [found] at waited
  | some claim =>
      simp only [found] at waited
      by_cases served : ready
      · rw [if_pos served] at waited
        exact ⟨claim, rfl, Except.ok.inj waited⟩
      · rw [if_neg served] at waited
        cases waited

end Creates

section Stage
variable (store : Store) (corrID : String) (answers : KuidAnswers)

theorem lease_name_service (result : Except KuidError Int) (leases : List Lease) (claims : Claims)
    (made : allocateLeaseID store.leases "service" serviceIDPool.name leaseIDFirst leaseIDLast corrID answers.lease =
      (leases, result)) :
    Adds corrID (fun _ => False) (LeasedFree store leaseIDFirst leaseIDLast) { store with claims } { claims, leases } ∧
      ∀ value, result = .ok value → store.WellFormed → Store.HoldsID { claims, leases } corrID value := by
  have made' : allocateLeaseID ({ store with claims } : Store).leases "service" serviceIDPool.name leaseIDFirst leaseIDLast
      corrID answers.lease = (leases, result) := made
  obtain ⟨adds, _⟩ := allocate_lease_spec { store with claims } corrID _ _ answers.lease leases result made'
  obtain ⟨_, holds⟩ := allocate_lease_spec store corrID _ _ answers.lease leases result made
  refine ⟨adds, fun value done formed => ?_⟩
  obtain ⟨lease, member, service, own, held⟩ := holds value done formed
  exact Or.inr ⟨lease, member, service, own, held⟩

/- The fallback: it holds what it returns; only a spent range releases. -/
theorem fallback_spec (claims : Claims) (after : Store) (result : Except StageError Int)
    (made : fallbackServiceID { store with claims } corrID answers = (after, result)) :
    ∃ grown, Adds corrID (fun _ => False) (LeasedFree store leaseIDFirst leaseIDLast) { store with claims } grown ∧
      ((after = grown ∧ ∀ id, result = .ok id → store.WellFormed → grown.HoldsID corrID id) ∨
        (after = releaseAll grown corrID answers.release ∧ (∃ err, result = .error err) ∧
          ∃ pool detail, (allocateLeaseID store.leases "service" serviceIDPool.name leaseIDFirst leaseIDLast corrID
            answers.lease).2 = .error (.exhaustion pool detail))) := by
  unfold fallbackServiceID at made
  rcases leased : allocateLeaseID store.leases "service" serviceIDPool.name leaseIDFirst leaseIDLast corrID
    answers.lease with ⟨leases, outcome⟩
  obtain ⟨adds, holds⟩ := lease_name_service store corrID answers outcome leases claims leased
  refine ⟨{ claims, leases }, adds, ?_⟩
  simp only [leased] at made
  cases outcome with
  | ok id =>
      cases made
      refine Or.inl ⟨rfl, ?_⟩
      rintro _ done formed
      cases done
      exact holds id rfl formed
  | error err =>
      cases err with
      | exhaustion pool detail =>
          cases made
          exact Or.inr ⟨rfl, ⟨_, rfl⟩, pool, detail, rfl⟩
      | collision pool detail =>
          cases made
          exact Or.inl ⟨rfl, fun _ done => by cases done⟩
      | timeout pool name =>
          cases made
          exact Or.inl ⟨rfl, fun _ done => by cases done⟩
      | unavailable pool detail =>
          cases made
          exact Or.inl ⟨rfl, fun _ done => by cases done⟩
      | other text =>
          cases made
          exact Or.inl ⟨rfl, fun _ done => by cases done⟩

abbrev StageAdds (spec : SRv6ServiceSpec) (grown : Store) : Prop :=
  Adds corrID (StageClaimed spec answers) (StageLeased store corrID answers) store grown

abbrev IDAdds (grown : Store) : Prop :=
  Adds corrID (Served serviceIDPool answers.serviceID) (StageLeased store corrID answers) store grown

theorem allocate_service_id_spec (after : Store) (result : Except StageError Int)
    (made : allocateServiceID store corrID answers = (after, result)) :
    ∃ grown, IDAdds store corrID answers grown ∧
      ((after = grown ∧ ∀ id, result = .ok id → store.WellFormed →
          ¬ HidesHolder store.claims serviceIDPool corrID [] answers.serviceID → grown.HoldsID corrID id) ∨
        (after = releaseAll grown corrID answers.release ∧ (∃ err, result = .error err) ∧
          rangeSpent store corrID answers = true)) := by
  have created := create_claim_adds store serviceIDPool corrID [] answers.serviceID
  have claimedOnly : ∀ claims, (createServiceIDClaim store.claims corrID answers.serviceID).1 = claims →
      IDAdds store corrID answers { store with claims } := by
    rintro _ rfl
    exact adds_weaken _ _ _ _ _ _ _ (fun _ served => served) (fun _ impossible => impossible.elim) created
  -- the fallback behind a create that was not served
  have fallen : ∀ claims, (createServiceIDClaim store.claims corrID answers.serviceID).1 = claims →
      fallsBack store corrID answers = true → fallbackServiceID { store with claims } corrID answers = (after, result) →
      ∃ grown, IDAdds store corrID answers grown ∧
        ((after = grown ∧ ∀ id, result = .ok id → store.WellFormed →
            ¬ HidesHolder store.claims serviceIDPool corrID [] answers.serviceID → grown.HoldsID corrID id) ∨
          (after = releaseAll grown corrID answers.release ∧ (∃ err, result = .error err) ∧
            rangeSpent store corrID answers = true)) := by
    intro claims first falls rest
    obtain ⟨grown, adds, ends⟩ := fallback_spec store corrID answers claims after result rest
    have leasing := adds_weaken _ _ _ (Served serviceIDPool answers.serviceID) (StageLeased store corrID answers) _ _
      (fun _ impossible => impossible.elim) (fun _ free => ⟨falls, free⟩) adds
    refine ⟨grown, adds_trans _ _ _ store _ grown (claimedOnly claims first) leasing, ?_⟩
    rcases ends with ⟨same, holds⟩ | ⟨released, failed, pool, detail, spent⟩
    · exact Or.inl ⟨same, fun id done formed _ => holds id done formed⟩
    · exact Or.inr ⟨released, failed, by simp [rangeSpent, falls, spent]⟩
  unfold allocateServiceID at made
  rcases first : createServiceIDClaim store.claims corrID answers.serviceID with ⟨claims, err | ref⟩
  · have claimed := claimedOnly claims (by rw [first])
    simp only [first] at made
    cases err with
    | unavailable pool detail => exact fallen claims (by rw [first]) (by simp [fallsBack, first]) made
    | collision pool detail =>
        cases made
        exact ⟨_, claimed, Or.inl ⟨rfl, fun _ done => by cases done⟩⟩
    | exhaustion pool detail =>
        cases made
        exact ⟨_, claimed, Or.inl ⟨rfl, fun _ done => by cases done⟩⟩
    | timeout pool name =>
        cases made
        exact ⟨_, claimed, Or.inl ⟨rfl, fun _ done => by cases done⟩⟩
    | other text =>
        cases made
        exact ⟨_, claimed, Or.inl ⟨rfl, fun _ done => by cases done⟩⟩
  · have claimed := claimedOnly claims (by rw [first])
    simp only [first] at made
    rcases waited : waitForClaim claims ref answers.serviceIDReady with err | served
    · simp only [waited] at made
      cases err with
      | unavailable pool detail => exact fallen claims (by rw [first]) (by simp [fallsBack, first, waited]) made
      | timeout pool name => exact fallen claims (by rw [first]) (by simp [fallsBack, first, waited]) made
      | collision pool detail =>
          cases made
          exact ⟨_, claimed, Or.inl ⟨rfl, fun _ done => by cases done⟩⟩
      | exhaustion pool detail =>
          cases made
          exact ⟨_, claimed, Or.inl ⟨rfl, fun _ done => by cases done⟩⟩
      | other text =>
          cases made
          exact ⟨_, claimed, Or.inl ⟨rfl, fun _ done => by cases done⟩⟩
    · simp only [waited] at made
      by_cases absent : served.id = 0
      · rw [if_pos absent] at made
        exact fallen claims (by rw [first]) (by simp [fallsBack, first, waited, absent]) made
      · rw [if_neg absent] at made
        cases made
        refine ⟨_, claimed, Or.inl ⟨rfl, ?_⟩⟩
        rintro _ done _ shown
        cases done
        obtain ⟨claim, found, value⟩ := waited_claim claims ref answers.serviceIDReady served waited
        obtain ⟨member, pool, own⟩ := created_own corrID serviceIDPool [] answers.serviceID store claims ref claim shown first found
        exact Or.inl ⟨claim, member, pool, own, by rw [value]⟩

theorem claim_prefixes_spec (attachments : List Attachment) (prefixes : GoMap String) (after : Store)
    (result : Except StageError (GoMap String))
    (made : claimPrefixes store corrID answers attachments prefixes = (after, result)) :
    Adds corrID (fun claim => ∃ att ∈ attachments, Served clientV4Pool (answers.clientPrefix att.node) claim) (fun _ => False) store after ∧
      ∀ out, result = .ok out → store.WellFormed →
        (∀ att ∈ attachments,
          ¬ HidesHolder store.claims clientV4Pool corrID [attachmentName att] (answers.clientPrefix att.node)) →
        (∀ entry ∈ prefixes, store.HoldsPrefix corrID entry.2) → ∀ entry ∈ out, after.HoldsPrefix corrID entry.2 := by
  induction attachments generalizing store prefixes with
  | nil =>
      cases made
      refine ⟨adds_refl _ _ _ after, ?_⟩
      rintro _ done _ _ held
      cases done
      exact held
  | cons att rest ih =>
      have created := create_claim_adds store clientV4Pool corrID [attachmentName att] (answers.clientPrefix att.node)
      have claimed := adds_weaken _ _ _
        (fun claim => ∃ other ∈ att :: rest, Served clientV4Pool (answers.clientPrefix other.node) claim) (fun _ => False) _ _
        (fun _ served => ⟨att, List.mem_cons_self, served⟩) (fun _ impossible => impossible) created
      rw [claimPrefixes] at made
      rcases first : createClientPrefixClaim store.claims corrID (attachmentName att) (answers.clientPrefix att.node) with
        ⟨claims, err | ref⟩
      · simp only [first] at made
        cases made
        unfold createClientPrefixClaim at first
        rw [first] at claimed
        exact ⟨claimed, fun _ done => by cases done⟩
      · simp only [first] at made
        unfold createClientPrefixClaim at first
        rw [first] at claimed
        rcases waited : waitForClaim claims ref (answers.clientPrefixReady att.node) with err | served
        · simp only [waited] at made
          cases made
          exact ⟨claimed, fun _ done => by cases done⟩
        · simp only [waited] at made
          obtain ⟨adds, holds⟩ := ih { store with claims } (prefixes.set att.node served.address) made
          have later := adds_weaken _ _ _
            (fun claim => ∃ other ∈ att :: rest, Served clientV4Pool (answers.clientPrefix other.node) claim) (fun _ => False) _
            after (fun _ ⟨other, member, served⟩ => ⟨other, List.mem_cons_of_mem att member, served⟩)
            (fun _ impossible => impossible) adds
          refine ⟨adds_trans _ _ _ store _ after claimed later, ?_⟩
          intro out done formed shown held
          refine holds out done (claimed.wellFormed formed) ?_ ?_
          · intro other member
            exact shown_grows corrID clientV4Pool [attachmentName other] (answers.clientPrefix other.node) _ _ store _ claimed
              formed (shown other (List.mem_cons_of_mem att member))
          · intro entry member
            rcases set_mem prefixes att.node served.address entry member with rfl | old
            · obtain ⟨claim, found, value⟩ := waited_claim claims ref _ served waited
              obtain ⟨stored, pool, own⟩ := created_own corrID clientV4Pool [attachmentName att] _ store claims ref claim
                (shown att List.mem_cons_self) first found
              exact ⟨claim, stored, pool, own, by rw [value]⟩
            · exact holds_prefix_grows _ _ _ store _ claimed corrID entry.2 (held entry old)

-- Claims of the other pools leave what a pool's name resolves to.
theorem find_grows (claimed : Claim → Prop) (leased : Lease → Prop) (grown : Store)
    (adds : Adds corrID claimed leased store grown) (formed : store.WellFormed) (ref : ClaimRef)
    (others : ∀ claim, claimed claim → claim.ref.pool ≠ ref.pool) : grown.claims.find ref = store.claims.find ref := by
  cases before : store.claims.find ref with
  | none =>
      refine List.find?_eq_none.mpr fun claim member named => ?_
      have same : claim.ref = ref := by simpa using named
      rcases adds.newClaims claim member with old | ⟨_, new⟩
      · exact List.find?_eq_none.mp before claim old named
      · exact others claim new (congrArg ClaimRef.pool same)
  | some claim =>
      obtain ⟨member, named⟩ := find_claim store.claims ref claim before
      have there := adds.claims claim member
      cases after : grown.claims.find ref with
      | none => exact absurd (by simpa using named) (List.find?_eq_none.mp after claim there)
      | some other =>
          obtain ⟨stored, sameName⟩ := find_claim grown.claims ref other after
          rw [List.inj_on_of_nodup_map (adds.wellFormed formed).refs stored there (sameName.trans named.symm)]

theorem reserve_result_same (claims others : Claims) (value : Int) (create : CreateAnswers)
    (same : claims.find ⟨vlanPool, reserveName vlanPool value⟩ = others.find ⟨vlanPool, reserveName vlanPool value⟩) :
    (reserveVLAN claims corrID value create).2 = (reserveVLAN others corrID value create).2 := by
  unfold reserveVLAN reserveValue
  simp only [same]
  split_ifs
  · rfl
  · rfl
  · rfl
  · cases create.create with
    | serve result => cases others.find ⟨vlanPool, reserveName vlanPool value⟩ <;> rfl
    | fail err =>
        dsimp only
        split_ifs <;> rfl

theorem reserve_spec_vlan (mid : Store) (vlan : Option Int) (after : Store) (result : Except StageError (Option Int))
    (same : ∀ name, mid.claims.find ⟨vlanPool, name⟩ = store.claims.find ⟨vlanPool, name⟩)
    (made : reserveSpecVLAN mid corrID answers vlan = (after, result)) :
    ∃ grown, Adds corrID (Served vlanPool answers.vlan) (fun _ => False) mid grown ∧
      ((after = grown ∧ ∀ value, result = .ok value → value = vlan) ∨
        (after = releaseAll grown corrID answers.release ∧ (∃ err, result = .error err) ∧
          vlanTaken store corrID vlan answers = true)) := by
  cases vlan with
  | none =>
      cases made
      exact ⟨mid, adds_refl _ _ _ mid, Or.inl ⟨rfl, fun _ done => (Except.ok.inj done).symm⟩⟩
  | some value =>
      have adds := reserve_vlan_adds mid corrID value answers.vlan
      have outcome := reserve_result_same corrID mid.claims store.claims value answers.vlan (same _)
      unfold reserveSpecVLAN at made
      rcases reserved : reserveVLAN mid.claims corrID value answers.vlan with ⟨claims, err | ref⟩
      · rw [reserved] at adds outcome
        refine ⟨{ mid with claims }, adds, ?_⟩
        simp only [reserved] at made
        cases err with
        | collision pool detail =>
            cases made
            exact Or.inr ⟨rfl, ⟨_, rfl⟩, by simp [vlanTaken, ← outcome]⟩
        | exhaustion pool detail =>
            cases made
            exact Or.inl ⟨rfl, fun _ done => by cases done⟩
        | timeout pool name =>
            cases made
            exact Or.inl ⟨rfl, fun _ done => by cases done⟩
        | unavailable pool detail =>
            cases made
            exact Or.inl ⟨rfl, fun _ done => by cases done⟩
        | other text =>
            cases made
            exact Or.inl ⟨rfl, fun _ done => by cases done⟩
      · rw [reserved] at adds
        simp only [reserved] at made
        cases made
        exact ⟨{ mid with claims }, adds, Or.inl ⟨rfl, fun _ done => (Except.ok.inj done).symm⟩⟩

-- What a successful stage returns.
structure Allotted (spec : SRv6ServiceSpec) (locators : GoMap String) (alloc : Allocation) : Prop where
  sids : serviceSIDs spec locators = .ok alloc.serviceSIDs
  vrf : alloc.allocations.vrf = Fabricplan.vrfName alloc.allocations.serviceID
  vlan : alloc.allocations.vlan = spec.vlan

/- The whole stage. It adds, and what it returns is held; or it adds and releases,
   for one of the two reasons. -/
theorem allocate_spec (spec : SRv6ServiceSpec) (locators : GoMap String) (after : Store) (result : Except StageError Allocation)
    (formed : store.WellFormed) (made : allocate store spec corrID locators answers = (after, result)) :
    ∃ grown, StageAdds store corrID answers spec grown ∧
      ((after = grown ∧ ∀ alloc, result = .ok alloc → Allotted spec locators alloc ∧
          (ShowsHolders store corrID spec answers → Holds grown corrID alloc.allocations)) ∨
        (after = releaseAll grown corrID answers.release ∧ (∃ err, result = .error err) ∧
          (rangeSpent store corrID answers = true ∨ vlanTaken store corrID spec.vlan answers = true))) := by
  unfold allocate at made
  rcases derived : serviceSIDs spec locators with message | sids
  · simp only [derived] at made
    cases made
    exact ⟨store, adds_refl _ _ _ store, Or.inl ⟨rfl, fun _ done => by cases done⟩⟩
  simp only [derived] at made
  rcases first : allocateServiceID store corrID answers with ⟨claimed, err | id⟩
  · simp only [first] at made
    cases made
    obtain ⟨grown, adds, ends⟩ := allocate_service_id_spec store corrID answers after (.error err) first
    refine ⟨grown, adds_weaken _ _ _ _ _ store grown (fun _ served => Or.inl served) (fun _ leased => leased) adds, ?_⟩
    rcases ends with ⟨same, _⟩ | ⟨released, _, spent⟩
    · exact Or.inl ⟨same, fun _ done => by cases done⟩
    · exact Or.inr ⟨released, ⟨err, rfl⟩, Or.inl spent⟩
  simp only [first] at made
  obtain ⟨grown, adds, ⟨rfl, holdsID⟩ | ⟨_, ⟨_, failed⟩, _⟩⟩ := allocate_service_id_spec store corrID answers claimed (.ok id) first
  swap
  · cases failed
  rcases second : claimPrefixes claimed corrID answers (orderedAttachments spec) [] with ⟨prefixed, outcome⟩
  obtain ⟨more, holdsPrefixes⟩ := claim_prefixes_spec claimed corrID answers _ [] prefixed outcome second
  -- so far, nothing in the VLAN pool
  have adding : Adds corrID (fun claim => StageClaimed spec answers claim ∧ claim.ref.pool ≠ vlanPool)
      (StageLeased store corrID answers) store prefixed := by
    refine adds_trans _ _ _ store claimed prefixed
      (adds_weaken _ _ _ _ _ store claimed ?_ (fun _ leased => leased) adds)
      (adds_weaken _ _ _ _ _ claimed prefixed ?_ (fun _ impossible => impossible.elim) more)
    · exact fun claim served => ⟨Or.inl served, by rw [served.1]; decide⟩
    · rintro claim ⟨att, listed, served⟩
      have named := (List.perm_insertionSort _ spec.attachments).mem_iff.mp listed
      exact ⟨Or.inr (Or.inl ⟨att, named, served⟩), by rw [served.1]; decide⟩
  have addsPrefixed : StageAdds store corrID answers spec prefixed :=
    adds_weaken _ _ _ _ _ store prefixed (fun _ claimed => claimed.1) (fun _ leased => leased) adding
  have sameVLAN : ∀ name, prefixed.claims.find ⟨vlanPool, name⟩ = store.claims.find ⟨vlanPool, name⟩ := fun name =>
    find_grows store corrID _ _ prefixed adding formed ⟨vlanPool, name⟩ fun _ claimed => claimed.2
  cases outcome with
  | error err =>
      simp only [second] at made
      cases made
      exact ⟨after, addsPrefixed, Or.inl ⟨rfl, fun _ done => by cases done⟩⟩
  | ok clientPrefixes =>
      simp only [second] at made
      rcases third : reserveSpecVLAN prefixed corrID answers spec.vlan with ⟨reserved, last⟩
      obtain ⟨grown, most, ends⟩ := reserve_spec_vlan store corrID answers prefixed spec.vlan reserved last sameVLAN third
      have addsAll : StageAdds store corrID answers spec grown := adds_trans _ _ _ store prefixed grown addsPrefixed
        (adds_weaken _ _ _ _ _ prefixed grown (fun _ served => Or.inr (Or.inr served)) (fun _ impossible => impossible.elim) most)
      refine ⟨grown, addsAll, ?_⟩
      rcases ends with ⟨rfl, kept⟩ | ⟨released, ⟨err, rfl⟩, taken⟩
      · cases last with
        | error err =>
            simp only [third] at made
            cases made
            exact Or.inl ⟨rfl, fun _ done => by cases done⟩
        | ok vlan =>
            simp only [third] at made
            cases made
            refine Or.inl ⟨rfl, ?_⟩
            rintro _ done
            cases done
            refine ⟨⟨derived, rfl, kept vlan rfl⟩, fun shown => ⟨?_, ?_⟩⟩
            · have held := holdsID id rfl formed shown.1
              have later := holds_id_grows _ _ _ claimed prefixed more corrID id held
              exact holds_id_grows _ _ _ prefixed after most corrID id later
            · intro entry member
              refine holds_prefix_grows _ _ _ prefixed after most corrID entry.2 ?_
              refine holdsPrefixes clientPrefixes rfl (adds.wellFormed formed) ?_ (fun _ none => by cases none) entry member
              intro att listed
              refine shown_grows corrID clientV4Pool _ _ _ _ store claimed adds formed (shown.2 att ?_)
              exact (List.perm_insertionSort _ spec.attachments).mem_iff.mp listed
      · simp only [third] at made
        cases made
        exact Or.inr ⟨released, ⟨err, rfl⟩, Or.inr taken⟩

end Stage

end AgenticNetops.Srv6service
