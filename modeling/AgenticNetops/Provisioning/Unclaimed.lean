import AgenticNetops.Provisioning.BuildIntent

set_option autoImplicit false

/- When a call leaves an object of its correlation id behind: exactly when the create
   request of its first claim is carried out. A call whose first claim creates nothing
   fails there, with the store as it was. -/
namespace AgenticNetops.Provisioning

open GoText Exits Schemas

-- The store has a claim or a lease that carries the correlation id.
def Labelled (correlationID : String) (store : Store) : Prop :=
  (∃ claim ∈ store.claims, claim.correlationID = correlationID) ∨
    ∃ lease ∈ store.leases, lease.correlationID = correlationID

instance (correlationID : String) (store : Store) : Decidable (Labelled correlationID store) :=
  inferInstanceAs (Decidable (_ ∨ _))

-- Objects of the correlation id do not break the property.
structure Kept (correlationID : String) (holds : Store → Prop) : Prop where
  claim : ∀ store claim, claim.correlationID = correlationID → holds store → holds (store.addClaim claim)
  lease : ∀ store lease, lease.correlationID = correlationID → holds store → holds (store.addLease lease)

theorem labelled_claim (store : Store) (claim : Claim) : Labelled claim.correlationID (store.addClaim claim) :=
  .inl ⟨claim, List.mem_append_right _ (List.mem_singleton_self claim), rfl⟩

theorem labelled_lease (store : Store) (lease : Lease) : Labelled lease.correlationID (store.addLease lease) :=
  .inr ⟨lease, List.mem_append_right _ (List.mem_singleton_self lease), rfl⟩

theorem kept_labelled (correlationID other : String) : Kept correlationID (Labelled other) where
  claim store claim _ labelled := by
    cases labelled with
    | inl claimed =>
        obtain ⟨held, member, owner⟩ := claimed
        exact .inl ⟨held, List.mem_append_left _ member, owner⟩
    | inr leased => exact .inr leased
  lease store lease _ labelled := by
    cases labelled with
    | inl claimed => exact .inl claimed
    | inr leased =>
        obtain ⟨held, member, owner⟩ := leased
        exact .inr ⟨held, List.mem_append_left _ member, owner⟩

theorem kept_unlabelled (correlationID other : String) (different : other ≠ correlationID) :
    Kept correlationID (fun store => ¬ Labelled other store) where
  claim store claim owner free labelled := by
    apply free
    cases labelled with
    | inr leased => exact .inr leased
    | inl claimed =>
        obtain ⟨held, member, carries⟩ := claimed
        cases List.mem_append.mp member with
        | inl old => exact .inl ⟨held, old, carries⟩
        | inr new =>
            rw [List.mem_singleton.mp new, owner] at carries
            exact absurd carries.symm different
  lease store lease owner free labelled := by
    apply free
    cases labelled with
    | inl claimed => exact .inl claimed
    | inr leased =>
        obtain ⟨held, member, carries⟩ := leased
        cases List.mem_append.mp member with
        | inl old => exact .inr ⟨held, old, carries⟩
        | inr new =>
            rw [List.mem_singleton.mp new, owner] at carries
            exact absurd carries.symm different

section Keeps
variable {α β : Type} (holds : Store → Prop)

-- The program does not break the property, whichever way it ends.
def Keeps (m : Client α) : Prop := Triple holds m (fun _ => holds) (fun _ => holds)

theorem keeps_state (m : Client α) (keeps : Keeps holds m) (s : Store) (entered : holds s) : holds (m s).1 := by
  have reached := keeps s entered
  cases outcome : m s with
  | mk after result =>
      rw [outcome] at reached
      cases result with
      | ok value => exact reached
      | error failure => exact reached

theorem keeps_bind (m : Client α) (f : α → Client β) (first : Keeps holds m) (rest : ∀ value, Keeps holds (f value)) :
    Keeps holds (m >>= f) := triple_bind _ _ _ _ _ _ first rest

theorem keeps_pure (value : α) : Keeps holds (pure value : Client α) := fun _ entered => entered

theorem keeps_leave (failure : Failure) : Keeps holds (leave failure : Client α) := fun _ entered => entered

theorem keeps_read (f : Store → Client α) (each : ∀ store, Keeps holds (f store)) : Keeps holds (read >>= f) :=
  fun s entered => each s s entered

theorem keeps_map_each (f : α → Client β) (elements : List α) (each : ∀ a ∈ elements, Keeps holds (f a)) :
    Keeps holds (mapEach f elements) := triple_map_each holds _ f elements each

variable (correlationID : String)

-- Claims of the correlation id in one collection do not break the property.
def TakesClaims (plural : String) : Prop :=
  ∀ store claim, claim.plural = plural → claim.correlationID = correlationID → holds store → holds (store.addClaim claim)

theorem keeps_create_claim (plural index name : String) (answer : Answer ClaimStatus)
    (takes : TakesClaims holds correlationID plural) : Keeps holds (createClaim plural index name correlationID answer) := by
  apply keeps_read
  intro store
  cases answer with
  | refused statusCode bodyText => exact keeps_leave holds _
  | served status =>
      cases store.find plural name with
      | some held => exact keeps_leave holds _
      | none => exact fun s entered => takes s _ rfl rfl entered
  | broken carriedOut =>
      cases carriedOut with
      | none => exact keeps_leave holds _
      | some status =>
          cases store.find plural name with
          | some held => exact keeps_leave holds _
          | none => exact fun s entered => takes s _ rfl rfl entered

variable (kept : Kept correlationID holds)
include kept

theorem kept_takes_claims (plural : String) : TakesClaims holds correlationID plural :=
  fun store claim _ owner entered => kept.claim store claim owner entered

omit kept in
theorem keeps_wait (plural name : String) (answer : WaitAnswer) : Keeps holds (waitForClaim plural name answer) := by
  apply keeps_read
  intro store
  cases answer.failure name with
  | some failure => exact keeps_leave holds failure
  | none =>
      cases store.find plural name with
      | some claim => exact keeps_pure holds claim
      | none => exact keeps_leave holds _

omit kept in
theorem keeps_claim_id (claim : Claim) (what : String) : Keeps holds (claimID claim what) := by
  rw [claimID]
  split
  · exact keeps_pure holds _
  · exact keeps_leave holds _

theorem keeps_claim_number (plural index what : String) (answers : NumberAnswers) :
    Keeps holds (claimNumber plural index what correlationID answers) :=
  keeps_bind holds _ _ (keeps_create_claim holds correlationID plural index _ _ (kept_takes_claims holds correlationID kept plural)) fun _ =>
    keeps_bind holds _ _ (keeps_wait holds plural _ answers.wait) fun claim => keeps_claim_id holds claim what

theorem keeps_create_free_lease (kind index : String) (answer : Int → Answer Unit) (free : List Int) :
    Keeps holds (createFreeLease kind index correlationID answer free) := by
  induction free with
  | nil => exact keeps_pure holds none
  | cons value rest ih =>
      apply keeps_read
      intro store
      cases answer value with
      | served _ =>
          apply triple_ite
          · intro _
            exact ih
          · intro _ s entered
            exact kept.lease s _ rfl entered
      | refused statusCode bodyText =>
          apply triple_ite
          · intro _
            exact ih
          · intro _
            exact keeps_leave holds _
      | broken carriedOut =>
          cases carriedOut with
          | none => exact keeps_leave holds _
          | some _ =>
              apply triple_ite
              · intro _
                exact keeps_leave holds _
              · intro _ s entered
                exact kept.lease s _ rfl entered

omit kept in
theorem keeps_list_leases (answer : Answer Unit) : Keeps holds (listLeases answer) := by
  cases answer with
  | served _ => exact keeps_pure holds ()
  | refused statusCode bodyText => exact keeps_leave holds _
  | broken carriedOut => exact keeps_leave holds _

theorem keeps_fallback_rounds (kind index : String) (first last : Nat) (answers : LeaseAnswers) (rounds : List Nat) :
    Keeps holds (fallbackRounds kind index correlationID first last answers rounds) := by
  induction rounds with
  | nil => exact keeps_leave holds _
  | cons round later ih =>
      apply keeps_bind holds _ _ (keeps_list_leases holds (answers.list round))
      intro _
      apply keeps_read
      intro store
      apply keeps_bind holds _ _ (keeps_create_free_lease holds correlationID kept kind index (answers.create round) _)
      intro result
      cases result with
      | none => exact ih
      | some value => exact keeps_pure holds value

theorem keeps_allocate_number (fallback : Bool) (what plural index : String) (first last : Nat) (answers : NumberAnswers) :
    Keeps holds (withLeaseFallback fallback what index first last correlationID answers.lease
      (claimNumber plural index what correlationID answers)) := by
  intro s entered
  have reached := keeps_claim_number holds correlationID kept plural index what answers s entered
  rw [withLeaseFallback]
  cases outcome : claimNumber plural index what correlationID answers s with
  | mk mid result =>
      rw [outcome] at reached
      cases result with
      | ok value => exact reached
      | error failure =>
          cases failure with
          | api text =>
              by_cases enabled : fallback
              · simp only [if_pos enabled]
                exact keeps_fallback_rounds holds correlationID kept what index first last answers.lease [0, 1, 2, 3] mid
                  reached
              · simp only [if_neg enabled]
                exact reached
          | collision text => exact reached
          | exhaustion text => exact reached
          | transport => exact reached
          | value text => exact reached
          | invalid => exact reached

omit kept in
theorem keeps_allocate_client (attachment : String) (answers : PrefixAnswers)
    (takes : TakesClaims holds correlationID "ipclaims") : Keeps holds (allocateClientPrefix correlationID attachment answers) := by
  have create (name : String) : Keeps holds (createPrefixClaim name correlationID answers) :=
    keeps_create_claim holds correlationID _ _ name _ takes
  apply keeps_bind
  · apply keeps_read
    intro store
    cases answers.get with
    | served _ =>
        cases store.find "ipclaims" (claimName clientV4Pool correlationID [attachment]) with
        | none => exact create _
        | some held =>
            apply triple_ite
            · intro _
              exact keeps_pure holds ()
            · intro _
              exact keeps_leave holds _
    | refused statusCode bodyText =>
        apply triple_ite
        · intro _
          exact create _
        · intro _
          exact keeps_leave holds _
    | broken _ => exact keeps_leave holds _
  · intro _
    apply keeps_bind holds _ _ (keeps_wait holds _ _ answers.wait)
    intro final
    rw [claimPrefix]
    split
    · apply triple_ite
      · intro _
        exact keeps_leave holds _
      · intro _
        exact keeps_pure holds _
    · exact keeps_leave holds _

end Keeps

section KeepsIntents
variable (holds : Store → Prop) (correlationID : String)

theorem keeps_make_endpoint (endpoint : Endpoint) : Keeps holds (makeEndpoint endpoint) :=
  triple_make_endpoint endpoint holds _ fun _ entered => entered

theorem keeps_make_intent (intent : NormalizedServiceIntent) : Keeps holds (makeIntent intent) :=
  triple_make_intent intent holds _ fun _ entered => entered

theorem keeps_make_endpoints {α : Type} (build : α → Endpoint) (elements : List α) :
    Keeps holds (mapEach (fun element => makeEndpoint (build element)) elements) :=
  keeps_map_each holds _ elements fun element _ => keeps_make_endpoint holds (build element)

theorem keeps_claim_gateways (tenant : String) (answers : Nat → PrefixAnswers) (endpoints : List Endpoint) (position : Nat)
    (takes : TakesClaims holds correlationID "ipclaims") :
    Keeps holds (claimGateways tenant correlationID answers position endpoints) := by
  induction endpoints generalizing position with
  | nil => exact keeps_pure holds _
  | cons endpoint rest ih =>
      apply keeps_bind holds _ _ (keeps_allocate_client holds correlationID _ (answers position) takes)
      intro claimed
      apply keeps_bind holds _ _ (triple_gateway_address claimed holds _ fun _ _ entered => entered)
      intro gateway
      apply keeps_bind holds _ _ (keeps_make_endpoint holds _)
      intro made
      exact keeps_bind holds _ _ (ih (position + 1)) fun later => keeps_pure holds _

theorem keeps_srv6_intent (interp : Interpretation) (acl : Option ACL) (endpoints : List Endpoint)
    (answers : Nat → PrefixAnswers) (takes : TakesClaims holds correlationID "ipclaims") :
    Keeps holds (srv6Intent interp acl endpoints correlationID answers) := by
  have bridged : Keeps holds (srv6Endpoints endpoints) := by
    rw [srv6Endpoints]
    split
    · exact keeps_leave holds _
    · exact keeps_make_endpoints holds _ endpoints
  rw [srv6Intent]
  split
  · split
    · exact keeps_leave holds _
    · apply keeps_bind holds _ _ bridged
      intro made
      exact keeps_bind holds _ _ (keeps_make_intent holds _) fun intent => keeps_pure holds _
  · apply keeps_bind holds _ _ (keeps_claim_gateways holds correlationID interp.tenant answers endpoints 0 takes)
    intro result
    exact keeps_bind holds _ _ (keeps_make_intent holds _) fun intent => keeps_pure holds _
  · exact keeps_leave holds _

variable (kept : Kept correlationID holds) (fallback : Bool)
include kept

theorem keeps_l2_endpoints (endpoints : List Endpoint) (service : String) (answers : NumberAnswers) :
    Keeps holds (l2Endpoints fallback endpoints correlationID service answers) := by
  rw [l2Endpoints]
  split
  · apply keeps_bind holds _ _ (keeps_allocate_number holds correlationID kept fallback _ _ _ _ _ answers)
    intro vlan
    exact keeps_bind holds _ _ (keeps_make_endpoints holds _ endpoints) fun made => keeps_pure holds _
  · exact keeps_bind holds _ _ (keeps_make_endpoints holds _ endpoints) fun made => keeps_pure holds _
  · exact keeps_leave holds _

theorem keeps_vxlan_intent (interp : Interpretation) (acl : Option ACL) (endpoints : List Endpoint) (answers : CallAnswers) :
    Keeps holds (vxlanIntent fallback interp acl endpoints correlationID answers) := by
  have number (what plural index : String) (first last : Nat) (answers : NumberAnswers) :=
    keeps_allocate_number holds correlationID kept fallback what plural index first last answers
  rw [vxlanIntent]
  split
  · apply keeps_bind holds _ _ (keeps_l2_endpoints holds correlationID kept fallback endpoints _ answers.vlan)
    intro result
    exact keeps_bind holds _ _ (keeps_make_intent holds _) fun intent => keeps_pure holds _
  · apply keeps_bind holds _ _ (keeps_l2_endpoints holds correlationID kept fallback endpoints _ answers.vlan)
    intro result
    apply keeps_bind holds _ _ (number _ _ _ _ _ answers.l2vni)
    intro l2vni
    apply keeps_bind holds _ _ (number _ _ _ _ _ answers.rt)
    intro rt
    apply keeps_bind
    · rw [routedGateway]
      split
      · exact keeps_pure holds _
      · exact keeps_bind holds _ _ (number _ _ _ _ _ answers.l3vni) fun l3vni => keeps_pure holds _
    · intro routed
      exact keeps_bind holds _ _ (keeps_make_intent holds _) fun intent => keeps_pure holds _
  · apply keeps_bind holds _ _ (keeps_make_endpoints holds _ endpoints)
    intro made
    apply keeps_bind holds _ _ (number _ _ _ _ _ answers.l3vni)
    intro l3vni
    apply keeps_bind holds _ _ (number _ _ _ _ _ answers.rt)
    intro rt
    exact keeps_bind holds _ _ (keeps_make_intent holds _) fun intent => keeps_pure holds _
  · exact keeps_bind holds _ _ (keeps_make_intent holds _) fun intent => keeps_pure holds _

theorem keeps_build_intent (validateAllOrNothing : NormalizedServiceIntent → Option Message) (interp : Interpretation)
    (answers : CallAnswers) : Keeps holds (buildIntent fallback validateAllOrNothing interp correlationID answers) := by
  apply keeps_bind holds _ _ (keeps_make_endpoints holds plainEndpoint interp.endpoints)
  intro endpoints
  apply keeps_bind
  · rw [constructIntent]
    split
    · exact keeps_srv6_intent holds correlationID interp _ _ answers.subnets (kept_takes_claims holds correlationID kept _)
    · exact keeps_vxlan_intent holds correlationID kept fallback interp _ _ answers
  · intro assignment
    split
    · exact keeps_leave holds _
    · exact keeps_pure holds _

end KeepsIntents

section FirstClaim
variable (store : Store)

-- The create request stores an object: the server carries it out, and the name is free.
def claimCarriedOut {α : Type} (plural name : String) (answer : Answer α) : Bool :=
  answer.carried.isSome && (store.find plural name).isNone

-- The refusal is a plain KUIDAPIError, for which the leases stand in.
def apiRefused {α : Type} : Answer α → Bool
  | .refused statusCode bodyText => (classifyHttpError statusCode bodyText).isAPI
  | _ => false

-- A walk over the free values ends at the first request that is not answered with a 409.
inductive Walk where
  | creates
  | stops
  | exhausted
deriving DecidableEq, Repr

def leaseTaken (kind index : String) (value : Int) : Bool :=
  store.leases.any fun lease => lease.name = fallbackLeaseName kind index value

def leaseWalk (isTaken : Int → Bool) (answer : Int → Answer Unit) : List Int → Walk
  | [] => .exhausted
  | value :: rest =>
      match answer value with
      | .served () => if isTaken value then leaseWalk isTaken answer rest else .creates
      | .refused statusCode _ => if statusCode = 409 then leaseWalk isTaken answer rest else .stops
      | .broken none => .stops
      | .broken (some ()) => if isTaken value then .stops else .creates

def freeValues (index : String) (first last : Nat) : List Int :=
  (values first last).filter fun value => value ∉ usedIDs store.leases index

def leaseRounds (kind index : String) (first last : Nat) (answers : LeaseAnswers) : List Nat → Bool
  | [] => false
  | round :: later =>
      match answers.list round with
      | .served () =>
          match leaseWalk (leaseTaken store kind index) (answers.create round) (freeValues store index first last) with
          | .creates => true
          | .stops => false
          | .exhausted => leaseRounds kind index first last answers later
      | _ => false

-- A number's claim, or the lease that stands in for it, is created.
def numberCreated (fallback : Bool) (plural kind index : String) (first last : Nat) (answers : NumberAnswers) : Bool :=
  claimCarriedOut store plural answers.name answers.create ||
    apiRefused answers.create && fallback && leaseRounds store kind index first last answers.lease [0, 1, 2, 3]

def prefixCreated (correlationID attachment : String) (answers : PrefixAnswers) : Bool :=
  let created := claimCarriedOut store "ipclaims" (claimName clientV4Pool correlationID [attachment]) answers.create
  match answers.get with
  | .served () => created
  | .refused statusCode _ => statusCode = 404 && created
  | .broken _ => false

end FirstClaim

section Exact
variable (store : Store) (correlationID : String)

-- What the first claim of a call comes to: an object, or a failure with nothing created.
structure Exact {α : Type} (created : Bool) (m : Client α) : Prop where
  leaves : created = true → Labelled correlationID (m store).1
  fails : created = false → ∃ failure, m store = (store, .error failure)

-- A program that leaves where it starts is exact, and a labelled object stays.
theorem exact_bind {α β : Type} (created : Bool) (m : Client α) (f : α → Client β) (first : Exact store correlationID created m)
    (rest : ∀ value, Keeps (Labelled correlationID) (f value)) : Exact store correlationID created (m >>= f) where
  leaves isCreated := by
    have labelled := first.leaves isCreated
    rw [bind_run]
    cases outcome : m store with
    | mk mid result =>
        rw [outcome] at labelled
        cases result with
        | ok value => exact keeps_state _ (f value) (rest value) mid labelled
        | error failure => exact labelled
  fails isNot := by
    obtain ⟨failure, same⟩ := first.fails isNot
    exact ⟨failure, by rw [bind_run, same]⟩

theorem exact_failed {α : Type} (m : Client α) (failure : Failure) (left : m store = (store, .error failure)) :
    Exact store correlationID false m where
  leaves created := nomatch created
  fails _ := ⟨failure, left⟩

theorem exact_created {α : Type} (m : Client α) (labelled : Labelled correlationID (m store).1) :
    Exact store correlationID true m where
  leaves _ := labelled
  fails created := nomatch created

theorem create_claim_exact (plural index name : String) (answer : Answer ClaimStatus) :
    Exact store correlationID (claimCarriedOut store plural name answer)
      (createClaim plural index name correlationID answer) := by
  cases answer with
  | refused statusCode bodyText =>
      exact exact_failed store correlationID _ (classifyHttpError statusCode bodyText) rfl
  | served status =>
      cases free : store.find plural name with
      | none =>
          have carried : claimCarriedOut store plural name (.served status) = true := by
            simp [claimCarriedOut, Answer.carried, free]
          rw [carried]
          apply exact_created
          simp only [createClaim, bind_run, read_run, free, change_run]
          exact labelled_claim store ⟨plural, name, index, correlationID, status⟩
      | some held =>
          have idle : claimCarriedOut store plural name (.served status) = false := by simp [claimCarriedOut, free]
          rw [idle]
          exact exact_failed store correlationID _ (.collision (taken plural name)) (by simp [createClaim, free])
  | broken carriedOut =>
      cases carriedOut with
      | none => exact exact_failed store correlationID _ .transport rfl
      | some status =>
          cases free : store.find plural name with
          | none =>
              have carried : claimCarriedOut store plural name (.broken (some status)) = true := by
                simp [claimCarriedOut, Answer.carried, free]
              rw [carried]
              apply exact_created
              simp only [createClaim, bind_run, read_run, free, change_run, leave_run]
              exact labelled_claim store ⟨plural, name, index, correlationID, status⟩
          | some held =>
              have idle : claimCarriedOut store plural name (.broken (some status)) = false := by
                simp [claimCarriedOut, free]
              rw [idle]
              exact exact_failed store correlationID _ .transport (by simp [createClaim, free])

-- A create that stores nothing fails plainly where it is refused plainly.
theorem create_claim_refused (plural index name : String) (answer : Answer ClaimStatus) (failure : Failure)
    (idle : claimCarriedOut store plural name answer = false)
    (left : createClaim plural index name correlationID answer store = (store, .error failure)) :
    failure.isAPI = apiRefused answer := by
  cases answer with
  | refused statusCode bodyText =>
      cases left
      rfl
  | served status =>
      cases free : store.find plural name with
      | none => simp [claimCarriedOut, Answer.carried, free] at idle
      | some held =>
          simp only [createClaim, bind_run, read_run, free, leave_run] at left
          cases left
          rfl
  | broken carriedOut =>
      cases carriedOut with
      | none =>
          cases left
          rfl
      | some status =>
          cases free : store.find plural name with
          | none => simp [claimCarriedOut, Answer.carried, free] at idle
          | some held =>
              simp only [createClaim, bind_run, read_run, free, leave_run] at left
              cases left
              rfl

-- How a walk over the free values ends.
theorem lease_walk_exact (kind index : String) (answer : Int → Answer Unit) (free : List Int) :
    match leaseWalk (leaseTaken store kind index) answer free with
    | .creates => Labelled correlationID (createFreeLease kind index correlationID answer free store).1
    | .stops => ∃ failure, createFreeLease kind index correlationID answer free store = (store, .error failure)
    | .exhausted => createFreeLease kind index correlationID answer free store = (store, .ok none) := by
  induction free with
  | nil => rfl
  | cons value rest ih =>
      cases answered : answer value with
      | served _ =>
          by_cases isTaken : leaseTaken store kind index value = true
          · have next : createFreeLease kind index correlationID answer (value :: rest) store =
                createFreeLease kind index correlationID answer rest store := by
              simp only [createFreeLease, bind_run, read_run, answered]
              exact congrFun (if_pos isTaken) store
            simpa only [leaseWalk, answered, if_pos isTaken, next] using ih
          · have added : createFreeLease kind index correlationID answer (value :: rest) store =
                (store.addLease (fallbackLease kind index value correlationID), .ok (some value)) := by
              simp only [createFreeLease, bind_run, read_run, answered]
              exact congrFun (if_neg isTaken) store
            simp only [leaseWalk, answered, if_neg isTaken, added]
            exact labelled_lease store (fallbackLease kind index value correlationID)
      | refused statusCode bodyText =>
          by_cases conflict : statusCode = 409
          · have next : createFreeLease kind index correlationID answer (value :: rest) store =
                createFreeLease kind index correlationID answer rest store := by
              simp only [createFreeLease, bind_run, read_run, answered]
              exact congrFun (if_pos conflict) store
            simpa only [leaseWalk, answered, if_pos conflict, next] using ih
          · simp only [leaseWalk, answered, if_neg conflict]
            refine ⟨classifyHttpError statusCode bodyText, ?_⟩
            simp only [createFreeLease, bind_run, read_run, answered]
            exact congrFun (if_neg conflict) store
      | broken carriedOut =>
          cases carriedOut with
          | none =>
              simp only [leaseWalk, answered]
              refine ⟨.transport, ?_⟩
              simp only [createFreeLease, bind_run, read_run, answered, leave_run]
          | some _ =>
              by_cases isTaken : leaseTaken store kind index value = true
              · simp only [leaseWalk, answered, if_pos isTaken]
                refine ⟨.transport, ?_⟩
                simp only [createFreeLease, bind_run, read_run, answered]
                exact congrFun (if_pos isTaken) store
              · have added : createFreeLease kind index correlationID answer (value :: rest) store =
                    (store.addLease (fallbackLease kind index value correlationID), .error .transport) := by
                  simp only [createFreeLease, bind_run, read_run, answered]
                  exact congrFun (if_neg isTaken) store
                simp only [leaseWalk, answered, if_neg isTaken, added]
                exact labelled_lease store (fallbackLease kind index value correlationID)

-- A value that was found, or what the rounds behind come to.
def foundOr (behind : Client Int) : Option Int → Client Int
  | some value => pure value
  | none => behind

theorem lease_rounds_exact (kind index : String) (first last : Nat) (answers : LeaseAnswers) (rounds : List Nat) :
    Exact store correlationID (leaseRounds store kind index first last answers rounds)
      (fallbackRounds kind index correlationID first last answers rounds) := by
  induction rounds with
  | nil => exact exact_failed store correlationID _ _ rfl
  | cons round later ih =>
      cases listed : answers.list round with
      | refused statusCode bodyText =>
          have idle : leaseRounds store kind index first last answers (round :: later) = false := by
            simp [leaseRounds, listed]
          rw [idle]
          exact exact_failed store correlationID _ (classifyHttpError statusCode bodyText)
            (by simp [fallbackRounds, listed, listLeases])
      | broken carriedOut =>
          have idle : leaseRounds store kind index first last answers (round :: later) = false := by
            simp [leaseRounds, listed]
          rw [idle]
          exact exact_failed store correlationID _ .transport (by simp [fallbackRounds, listed, listLeases])
      | served _ =>
          have walk := lease_walk_exact store correlationID kind index (answers.create round)
            (freeValues store index first last)
          have unfolded : fallbackRounds kind index correlationID first last answers (round :: later) store =
              (createFreeLease kind index correlationID (answers.create round) (freeValues store index first last) >>=
                foundOr (fallbackRounds kind index correlationID first last answers later)) store := by
            simp only [fallbackRounds, bind_run, listed, listLeases, pure_run, read_run, freeValues]
            rfl
          cases ended : leaseWalk (leaseTaken store kind index) (answers.create round)
              (freeValues store index first last) with
          | creates =>
              rw [ended] at walk
              have created : leaseRounds store kind index first last answers (round :: later) = true := by
                simp [leaseRounds, listed, ended]
              rw [created]
              apply exact_created
              rw [unfolded]
              refine (exact_bind store correlationID true _ _ (exact_created store correlationID _ walk) ?_).leaves rfl
              intro result
              cases result with
              | some value => exact keeps_pure _ value
              | none => exact keeps_fallback_rounds _ correlationID (kept_labelled correlationID correlationID) _ _ _ _ _ later
          | stops =>
              rw [ended] at walk
              obtain ⟨failure, left⟩ := walk
              have idle : leaseRounds store kind index first last answers (round :: later) = false := by
                simp [leaseRounds, listed, ended]
              rw [idle]
              exact exact_failed store correlationID _ failure (by rw [unfolded, bind_run, left])
          | exhausted =>
              rw [ended] at walk
              have next : fallbackRounds kind index correlationID first last answers (round :: later) store =
                  fallbackRounds kind index correlationID first last answers later store := by
                rw [unfolded, bind_run, walk]
                rfl
              have onward : leaseRounds store kind index first last answers (round :: later) =
                  leaseRounds store kind index first last answers later := by simp [leaseRounds, listed, ended]
              rw [onward]
              exact ⟨fun created => next ▸ ih.leaves created, fun idle => next ▸ ih.fails idle⟩

theorem claim_number_exact (plural index what : String) (answers : NumberAnswers) :
    Exact store correlationID (claimCarriedOut store plural answers.name answers.create)
      (claimNumber plural index what correlationID answers) := by
  have same : claimCarriedOut store plural answers.name (answers.create.map ClaimStatus.id) =
      claimCarriedOut store plural answers.name answers.create := by
    cases asked : answers.create with
    | served value => rfl
    | refused statusCode bodyText => rfl
    | broken carriedOut =>
        cases carriedOut with
        | none => rfl
        | some value => rfl
  rw [← same]
  apply exact_bind store correlationID _ _ _ (create_claim_exact store correlationID plural index _ _)
  intro _
  exact keeps_bind _ _ _ (keeps_wait _ plural _ answers.wait) fun claim => keeps_claim_id _ claim what

theorem claim_number_refused (plural index what : String) (answers : NumberAnswers) (failure : Failure)
    (idle : claimCarriedOut store plural answers.name answers.create = false)
    (left : claimNumber plural index what correlationID answers store = (store, .error failure)) :
    failure.isAPI = apiRefused answers.create := by
  have silent : claimCarriedOut store plural answers.name (answers.create.map ClaimStatus.id) = false ∧
      apiRefused (answers.create.map ClaimStatus.id) = apiRefused answers.create := by
    cases asked : answers.create with
    | served value =>
        rw [asked] at idle
        exact ⟨idle, rfl⟩
    | refused statusCode bodyText =>
        rw [asked] at idle
        exact ⟨idle, rfl⟩
    | broken carriedOut =>
        rw [asked] at idle
        cases carriedOut with
        | none => exact ⟨idle, rfl⟩
        | some value => exact ⟨idle, rfl⟩
  obtain ⟨early, failed⟩ := (create_claim_exact store correlationID plural index answers.name _).fails silent.1
  have ends : claimNumber plural index what correlationID answers store = (store, .error early) := by
    simp only [claimNumber, bind_run]
    rw [show "claim-" ++ answers.uuid = answers.name from rfl, failed]
  rw [ends] at left
  cases left
  rw [← silent.2]
  exact create_claim_refused store correlationID plural index answers.name _ _ silent.1 failed

theorem number_exact (fallback : Bool) (plural kind index : String) (first last : Nat) (answers : NumberAnswers) :
    Exact store correlationID (numberCreated store fallback plural kind index first last answers)
      (withLeaseFallback fallback kind index first last correlationID answers.lease
        (claimNumber plural index kind correlationID answers)) := by
  have asked := claim_number_exact store correlationID plural index kind answers
  have kept := kept_labelled correlationID correlationID
  cases carried : claimCarriedOut store plural answers.name answers.create with
  | true =>
      have created : numberCreated store fallback plural kind index first last answers = true := by
        simp [numberCreated, carried]
      rw [created]
      apply exact_created
      have labelled := asked.leaves carried
      rw [withLeaseFallback]
      cases outcome : claimNumber plural index kind correlationID answers store with
      | mk mid result =>
          rw [outcome] at labelled
          split
          · rename_i later text ends
            cases ends
            split
            · exact keeps_state _ _ (keeps_fallback_rounds _ correlationID kept kind index first last answers.lease _) mid
                labelled
            · exact labelled
          · exact labelled
  | false =>
      obtain ⟨failure, left⟩ := asked.fails carried
      have plain := claim_number_refused store correlationID plural index kind answers failure carried left
      have rounds := lease_rounds_exact store correlationID kind index first last answers.lease [0, 1, 2, 3]
      have onward : numberCreated store fallback plural kind index first last answers =
          (failure.isAPI && fallback && leaseRounds store kind index first last answers.lease [0, 1, 2, 3]) := by
        simp [numberCreated, carried, plain]
      rw [onward]
      cases failure with
      | api text =>
          cases fallback with
          | true =>
              have next : withLeaseFallback true kind index first last correlationID answers.lease
                  (claimNumber plural index kind correlationID answers) store =
                  allocateFallbackLease kind index correlationID first last answers.lease store := by
                simp [withLeaseFallback, left]
              exact ⟨fun created => next ▸ rounds.leaves created, fun idle => next ▸ rounds.fails idle⟩
          | false => exact exact_failed store correlationID _ (.api text) (by simp [withLeaseFallback, left])
      | collision text => exact exact_failed store correlationID _ (.collision text) (by simp [withLeaseFallback, left])
      | exhaustion text => exact exact_failed store correlationID _ (.exhaustion text) (by simp [withLeaseFallback, left])
      | transport => exact exact_failed store correlationID _ .transport (by simp [withLeaseFallback, left])
      | value text => exact exact_failed store correlationID _ (.value text) (by simp [withLeaseFallback, left])
      | invalid => exact exact_failed store correlationID _ .invalid (by simp [withLeaseFallback, left])

-- With nothing of the correlation id in the store, no prefix claim is reused.
theorem prefix_exact (attachment : String) (answers : PrefixAnswers) (free : ¬ Labelled correlationID store) :
    Exact store correlationID (prefixCreated store correlationID attachment answers)
      (allocateClientPrefix correlationID attachment answers) := by
  have claim (name : String) : Exact store correlationID (claimCarriedOut store "ipclaims" name answers.create)
      (createPrefixClaim name correlationID answers) := by
    have same : claimCarriedOut store "ipclaims" name (answers.create.map ClaimStatus.pfx) =
        claimCarriedOut store "ipclaims" name answers.create := by
      cases asked : answers.create with
      | served value => rfl
      | refused statusCode bodyText => rfl
      | broken carriedOut =>
          cases carriedOut with
          | none => rfl
          | some value => rfl
    rw [← same]
    exact create_claim_exact store correlationID "ipclaims" clientV4Pool name _
  have ensured (name : String) (created : Bool)
      (exact_ : Exact store correlationID created (ensurePrefixClaim name correlationID answers))
      (same : name = claimName clientV4Pool correlationID [attachment]) :
      Exact store correlationID created (allocateClientPrefix correlationID attachment answers) := by
    subst same
    apply exact_bind store correlationID created _ _ exact_
    intro _
    apply keeps_bind _ _ _ (keeps_wait _ _ _ answers.wait)
    intro final
    rw [claimPrefix]
    split
    · apply triple_ite
      · intro _
        exact keeps_leave _ _
      · intro _
        exact keeps_pure _ _
    · exact keeps_leave _ _
  apply ensured _ _ _ rfl
  generalize named : claimName clientV4Pool correlationID [attachment] = name
  rw [prefixCreated]
  simp only [named]
  cases asked : answers.get with
  | served _ =>
      cases found : store.find "ipclaims" name with
      | none =>
          have next : ensurePrefixClaim name correlationID answers store =
              createPrefixClaim name correlationID answers store := by
            simp [ensurePrefixClaim, asked, found]
          exact ⟨fun created => next ▸ (claim name).leaves created, fun idle => next ▸ (claim name).fails idle⟩
      | some held =>
          have idle : claimCarriedOut store "ipclaims" name answers.create = false := by
            simp [claimCarriedOut, found]
          have other : held.correlationID ≠ correlationID := fun same =>
            free (.inl ⟨held, (find_some store "ipclaims" name held found).1, same⟩)
          simp only [idle]
          exact exact_failed store correlationID _
            (.collision [.lit "claim ", .str name, .lit " already held by correlation id ", .quoted held.correlationID])
            (by simp only [ensurePrefixClaim, bind_run, read_run, asked, found, if_neg other, leave_run])
  | refused statusCode bodyText =>
      by_cases missing : statusCode = 404
      · have next : ensurePrefixClaim name correlationID answers store =
            createPrefixClaim name correlationID answers store := by
          simp [ensurePrefixClaim, asked, missing]
        simp only [missing, decide_true, Bool.true_and]
        exact ⟨fun created => next ▸ (claim name).leaves created, fun idle => next ▸ (claim name).fails idle⟩
      · simp only [missing, decide_false, Bool.false_and]
        exact exact_failed store correlationID _ (classifyHttpError statusCode bodyText)
          (by simp only [ensurePrefixClaim, bind_run, read_run, asked, if_neg missing, leave_run])
  | broken carriedOut =>
      exact exact_failed store correlationID _ .transport (by simp only [ensurePrefixClaim, bind_run, read_run, asked,
        leave_run])

end Exact

/- The first claim of a call, by the construct: the VLAN if none is named, the L2VNI if
   one is, the L3VNI, or the first attachment's prefix. -/
def vxlanFirstCreated (fallback : Bool) (store : Store) (interp : Interpretation) (endpoints : List Endpoint)
    (answers : CallAnswers) : Bool :=
  match interp.serviceType, namedVLANs endpoints with
  | .vlan, [] => numberCreated store fallback "vlanclaims" "vlan" vlanIndex 100 4000 answers.vlan
  | .macVRF, [] => numberCreated store fallback "vlanclaims" "vlan" vlanIndex 100 4000 answers.vlan
  | .macVRF, [_] => numberCreated store fallback "genidclaims" "l2vni" l2vniIndex 10000 20000 answers.l2vni
  | .ipVRF, _ => numberCreated store fallback "genidclaims" "l3vni" l3vniIndex 10000 14094 answers.l3vni
  | _, _ => false

def srv6FirstCreated (store : Store) (correlationID : String) (interp : Interpretation) (endpoints : List Endpoint)
    (answers : Nat → PrefixAnswers) : Bool :=
  match interp.serviceType, endpoints with
  | .ipVRF, first :: _ => prefixCreated store correlationID (attachmentKey first) (answers 0)
  | _, _ => false

-- The endpoints hold, and the first claim of the construct is created.
def firstClaimCreated (fallback : Bool) (store : Store) (correlationID : String) (interp : Interpretation)
    (answers : CallAnswers) : Bool :=
  let endpoints := deterministicEndpoints (interp.endpoints.map plainEndpoint)
  interp.endpoints.all (fun endpoint => (plainEndpoint endpoint).make.isSome) &&
    if interp.transport = some .srv6 then srv6FirstCreated store correlationID interp endpoints answers.subnets
    else vxlanFirstCreated fallback store interp endpoints answers

section Calls
variable (store : Store) (correlationID : String)

structure Marks {α : Type} (created : Bool) (m : Client α) : Prop where
  leaves : created = true → Labelled correlationID (m store).1
  idle : created = false → (m store).1 = store

theorem exact_marks {α : Type} (created : Bool) (m : Client α) (exact_ : Exact store correlationID created m) :
    Marks store correlationID created m where
  leaves := exact_.leaves
  idle isNot := by
    obtain ⟨failure, left⟩ := exact_.fails isNot
    rw [left]

-- A program that touches nothing.
theorem marks_idle {α : Type} (m : Client α) (still : (m store).1 = store) : Marks store correlationID false m where
  leaves created := nomatch created
  idle _ := still

theorem still_state {α : Type} (m : Client α) (keeps : Keeps (fun s => s = store) m) : (m store).1 = store :=
  keeps_state _ m keeps store rfl

theorem marks_after {α β : Type} (created : Bool) (m : Client α) (value : α) (ran : m store = (store, .ok value))
    (f : α → Client β) (next : Marks store correlationID created (f value)) : Marks store correlationID created (m >>= f) where
  leaves isCreated := by
    rw [bind_run, ran]
    exact next.leaves isCreated
  idle isNot := by
    rw [bind_run, ran]
    exact next.idle isNot

-- What follows touches nothing.
theorem marks_then {α β : Type} (created : Bool) (m : Client α) (f : α → Client β) (first : Marks store correlationID created m)
    (still : ∀ holds value, Keeps holds (f value)) : Marks store correlationID created (m >>= f) where
  leaves isCreated := by
    have labelled := first.leaves isCreated
    rw [bind_run]
    cases outcome : m store with
    | mk mid result =>
        rw [outcome] at labelled
        cases result with
        | ok value => exact keeps_state _ (f value) (still _ value) mid labelled
        | error failure => exact labelled
  idle isNot := by
    have same := first.idle isNot
    rw [bind_run]
    cases outcome : m store with
    | mk mid result =>
        rw [outcome] at same
        cases result with
        | ok value => exact keeps_state (fun s => s = store) (f value) (still _ value) mid same
        | error failure => exact same

theorem made_iff (endpoint : Endpoint) : endpoint.make.isSome = true ↔
    endpoint.node ≠ "" ∧ endpoint.attachment ≠ "" ∧ ∀ vlan ∈ endpoint.vlan, 1 ≤ vlan ∧ vlan ≤ 4094 := by
  unfold Endpoint.make
  split
  · rename_i valid
    exact ⟨fun _ => valid, fun _ => rfl⟩
  · rename_i broken
    exact ⟨fun made => (nomatch made), fun valid => absurd valid broken⟩

theorem make_endpoint_valid (endpoint : Endpoint) (valid : endpoint.make.isSome = true) :
    makeEndpoint endpoint store = (store, .ok endpoint) := by
  obtain ⟨made, result⟩ := Option.isSome_iff_exists.mp valid
  have same := endpoint_make_some endpoint made result
  subst same
  simp [makeEndpoint, result]

theorem make_endpoint_invalid (endpoint : Endpoint) (invalid : ¬ endpoint.make.isSome = true) :
    makeEndpoint endpoint store = (store, .error .invalid) := by
  have none := Option.not_isSome_iff_eq_none.mp invalid
  simp [makeEndpoint, none]

theorem make_endpoints_valid {α : Type} (build : α → Endpoint) (elements : List α)
    (valid : ∀ element ∈ elements, (build element).make.isSome = true) :
    mapEach (fun element => makeEndpoint (build element)) elements store = (store, .ok (elements.map build)) := by
  induction elements with
  | nil => rfl
  | cons element rest ih =>
      have made := make_endpoint_valid store (build element) (valid element List.mem_cons_self)
      have later := ih fun other member => valid other (List.mem_cons_of_mem element member)
      simp only [mapEach, bind_run, made, later, pure_run, List.map_cons]

theorem make_endpoints_invalid {α : Type} (build : α → Endpoint) (elements : List α) (broken : α)
    (member : broken ∈ elements) (invalid : ¬ (build broken).make.isSome = true) :
    mapEach (fun element => makeEndpoint (build element)) elements store = (store, .error .invalid) := by
  induction elements with
  | nil => cases member
  | cons element rest ih =>
      by_cases valid : (build element).make.isSome = true
      · have made := make_endpoint_valid store (build element) valid
        have inRest : broken ∈ rest := by
          cases List.mem_cons.mp member with
          | inl same => exact absurd (same ▸ valid) invalid
          | inr later => exact later
        simp only [mapEach, bind_run, made, ih inRest]
      · have left := make_endpoint_invalid store (build element) valid
        simp only [mapEach, bind_run, left]

variable (fallback : Bool)

-- Without a VLAN named, the VLAN is the first claim.
theorem l2_endpoints_exact (endpoints : List Endpoint) (service : String) (answers : NumberAnswers)
    (unnamed : namedVLANs endpoints = []) :
    Exact store correlationID (numberCreated store fallback "vlanclaims" "vlan" vlanIndex 100 4000 answers)
      (l2Endpoints fallback endpoints correlationID service answers) := by
  simp only [l2Endpoints, unnamed]
  apply exact_bind store correlationID _ _ _
    (number_exact store correlationID fallback "vlanclaims" "vlan" vlanIndex 100 4000 answers)
  intro vlan
  exact keeps_bind _ _ _ (keeps_make_endpoints _ _ endpoints) fun made => keeps_pure _ _

theorem named_vlan_valid (endpoints : List Endpoint) (valid : ∀ endpoint ∈ endpoints, endpoint.make.isSome = true)
    (vlan : Int) (rest : List Int) (named : namedVLANs endpoints = vlan :: rest) : 1 ≤ vlan ∧ vlan ≤ 4094 := by
  have listed : vlan ∈ namedVLANs endpoints := by
    rw [named]
    exact List.mem_cons_self
  rw [namedVLANs, (List.perm_insertionSort _ _).mem_iff, List.mem_dedup] at listed
  obtain ⟨endpoint, member, carries⟩ := List.mem_filterMap.mp listed
  exact ((made_iff endpoint).mp (valid endpoint member)).2.2 vlan carries

theorem l2_endpoints_named (endpoints : List Endpoint) (service : String) (answers : NumberAnswers) (vlan : Int)
    (valid : ∀ endpoint ∈ endpoints, endpoint.make.isSome = true) (named : namedVLANs endpoints = [vlan]) :
    ∃ made, l2Endpoints fallback endpoints correlationID service answers store = (store, .ok (made, [])) := by
  have bounds := named_vlan_valid endpoints valid vlan [] named
  have made := make_endpoints_valid store
    (fun (endpoint : Endpoint) => ({ node := endpoint.node, attachment := endpoint.attachment, vlan := some vlan } : Endpoint))
    endpoints (by
      intro endpoint member
      obtain ⟨node, attachment, _⟩ := (made_iff endpoint).mp (valid endpoint member)
      exact (made_iff _).mpr ⟨node, attachment, fun other same => by cases same; exact bounds⟩)
  exact ⟨_, by simp only [l2Endpoints, named, bind_run, made, pure_run]; rfl⟩

theorem keeps_still_intent (intent : NormalizedServiceIntent) (claimed : List Identifier) :
    Keeps (fun s => s = store) (makeIntent intent >>= fun made => (pure ⟨made, claimed⟩ : Client Assignment)) :=
  keeps_bind _ _ _ (keeps_make_intent _ _) fun _ => keeps_pure _ _

-- What follows the L2 VNI of a bridged service.
theorem keeps_bridged (interp : Interpretation) (acl : Option ACL) (answers : CallAnswers) (endpoints : List Endpoint)
    (vlans : List Identifier) (l2vni : Int) :
    Keeps (Labelled correlationID) (do
      let rt ← allocateRT fallback correlationID answers.rt
      let (l3vni, gateway) ← routedGateway fallback interp correlationID answers.l3vni
      let intent ← makeIntent
        { serviceID := interp.serviceID, type := "mac-vrf", acl := acl, tenant := interp.tenant,
          rdRt := some (rdRtOf rt), l2vni := some l2vni, l3vni := l3vni, anycastGateway := gateway,
          endpoints := endpoints }
      return (⟨intent, vlans ++ [.number l2vniIndex l2vni, .number extcommIndex rt] ++
        (l3vni.map (Identifier.number l3vniIndex)).toList⟩ : Assignment)) := by
  have kept := kept_labelled correlationID correlationID
  have number (what plural index : String) (first last : Nat) (answers : NumberAnswers) :=
    keeps_allocate_number _ correlationID kept fallback what plural index first last answers
  apply keeps_bind _ _ _ (number _ _ _ _ _ answers.rt)
  intro rt
  apply keeps_bind
  · rw [routedGateway]
    split
    · exact keeps_pure _ _
    · exact keeps_bind _ _ _ (number _ _ _ _ _ answers.l3vni) fun l3vni => keeps_pure _ _
  · intro routed
    exact keeps_bind _ _ _ (keeps_make_intent _ _) fun intent => keeps_pure _ _

theorem vxlan_intent_marks (interp : Interpretation) (acl : Option ACL) (endpoints : List Endpoint) (answers : CallAnswers)
    (valid : ∀ endpoint ∈ endpoints, endpoint.make.isSome = true) :
    Marks store correlationID (vxlanFirstCreated fallback store interp endpoints answers)
      (vxlanIntent fallback interp acl endpoints correlationID answers) := by
  have kept := kept_labelled correlationID correlationID
  have number (what plural index : String) (first last : Nat) (answers : NumberAnswers) :=
    keeps_allocate_number _ correlationID kept fallback what plural index first last answers
  unfold vxlanIntent vxlanFirstCreated
  cases construct : interp.serviceType with
  | acl => exact marks_idle store correlationID _ (still_state store _ (keeps_still_intent store _ []))
  | vlan =>
      cases named : namedVLANs endpoints with
      | nil =>
          apply exact_marks
          apply exact_bind store correlationID _ _ _
            (l2_endpoints_exact store correlationID fallback endpoints "vlan" answers.vlan named)
          intro result
          exact keeps_bind _ _ _ (keeps_make_intent _ _) fun intent => keeps_pure _ _
      | cons vlan rest =>
          apply marks_idle
          apply still_state
          apply keeps_bind
          · simp only [l2Endpoints, named]
            cases rest with
            | nil => exact keeps_bind _ _ _ (keeps_make_endpoints _ _ endpoints) fun made => keeps_pure _ _
            | cons other more => exact keeps_leave _ _
          · intro result
            exact keeps_still_intent store _ result.2
  | ipVRF =>
      have made := make_endpoints_valid store
        (fun (endpoint : Endpoint) =>
          ({ node := endpoint.node, attachment := endpoint.attachment, vrf := some (vrfOf endpoint interp.tenant) } : Endpoint))
        endpoints (by
          intro endpoint member
          obtain ⟨node, attachment, _⟩ := (made_iff endpoint).mp (valid endpoint member)
          exact (made_iff _).mpr ⟨node, attachment, fun other same => by cases same⟩)
      apply marks_after store correlationID _ _ _ made
      apply exact_marks
      apply exact_bind store correlationID _ _ _
        (number_exact store correlationID fallback "genidclaims" "l3vni" l3vniIndex 10000 14094 answers.l3vni)
      intro l3vni
      apply keeps_bind _ _ _ (number _ _ _ _ _ answers.rt)
      intro rt
      exact keeps_bind _ _ _ (keeps_make_intent _ _) fun intent => keeps_pure _ _
  | macVRF =>
      have later := keeps_bridged correlationID fallback interp acl answers
      cases named : namedVLANs endpoints with
      | nil =>
          apply exact_marks
          apply exact_bind store correlationID _ _ _
            (l2_endpoints_exact store correlationID fallback endpoints "mac-vrf" answers.vlan named)
          intro result
          exact keeps_bind _ _ _ (number _ _ _ _ _ answers.l2vni) fun l2vni => later result.1 result.2 l2vni
      | cons vlan rest =>
          cases rest with
          | nil =>
              obtain ⟨made, ran⟩ := l2_endpoints_named store correlationID fallback endpoints "mac-vrf" answers.vlan vlan valid
                named
              apply marks_after store correlationID _ _ _ ran
              apply exact_marks
              exact exact_bind store correlationID _ _ _
                (number_exact store correlationID fallback "genidclaims" "l2vni" l2vniIndex 10000 20000 answers.l2vni)
                fun l2vni => later made [] l2vni
          | cons other more =>
              apply marks_idle
              simp only [bind_run, l2Endpoints, named, leave_run]

theorem srv6_intent_marks (interp : Interpretation) (acl : Option ACL) (endpoints : List Endpoint)
    (answers : Nat → PrefixAnswers) (free : ¬ Labelled correlationID store) :
    Marks store correlationID (srv6FirstCreated store correlationID interp endpoints answers)
      (srv6Intent interp acl endpoints correlationID answers) := by
  have kept := kept_labelled correlationID correlationID
  unfold srv6Intent srv6FirstCreated
  cases construct : interp.serviceType with
  | vlan => exact marks_idle store correlationID _ rfl
  | acl => exact marks_idle store correlationID _ rfl
  | macVRF =>
      apply marks_idle
      apply still_state
      simp only
      split
      · exact keeps_leave _ _
      · apply keeps_bind
        · rw [srv6Endpoints]
          split
          · exact keeps_leave _ _
          · exact keeps_make_endpoints _ _ endpoints
        · intro made
          exact keeps_still_intent store _ []
  | ipVRF =>
      cases endpoints with
      | nil => exact marks_idle store correlationID _ (still_state store _ (keeps_still_intent store _ []))
      | cons first rest =>
          refine exact_marks store correlationID (prefixCreated store correlationID (attachmentKey first) (answers 0)) _ ?_
          have gateways : Exact store correlationID (prefixCreated store correlationID (attachmentKey first) (answers 0))
              (claimGateways interp.tenant correlationID answers 0 (first :: rest)) := by
            apply exact_bind store correlationID _ _ _
              (prefix_exact store correlationID (attachmentKey first) (answers 0) free)
            intro claimed
            apply keeps_bind _ _ _ (triple_gateway_address claimed _ _ fun _ _ entered => entered)
            intro gateway
            apply keeps_bind _ _ _ (keeps_make_endpoint _ _)
            intro made
            exact keeps_bind _ _ _ (keeps_claim_gateways _ correlationID interp.tenant answers rest 1 (kept_takes_claims _ correlationID kept _))
              fun later => keeps_pure _ _
          apply exact_bind store correlationID _ _ _ gateways
          intro result
          exact keeps_bind _ _ _ (keeps_make_intent _ _) fun intent => keeps_pure _ _

theorem construct_intent_marks (interp : Interpretation) (acl : Option ACL) (endpoints : List Endpoint)
    (answers : CallAnswers) (valid : ∀ endpoint ∈ endpoints, endpoint.make.isSome = true)
    (free : ¬ Labelled correlationID store) :
    Marks store correlationID
      (if interp.transport = some .srv6 then srv6FirstCreated store correlationID interp endpoints answers.subnets
      else vxlanFirstCreated fallback store interp endpoints answers)
      (constructIntent fallback interp acl endpoints correlationID answers) := by
  rw [constructIntent]
  by_cases srv6 : interp.transport = some .srv6
  · rw [if_pos srv6, if_pos srv6]
    exact srv6_intent_marks store correlationID interp acl endpoints answers.subnets free
  · rw [if_neg srv6, if_neg srv6]
    exact vxlan_intent_marks store correlationID fallback interp acl endpoints answers valid

variable (validateAllOrNothing : NormalizedServiceIntent → Option Message)

theorem build_intent_marks (interp : Interpretation) (answers : CallAnswers) (free : ¬ Labelled correlationID store) :
    Marks store correlationID (firstClaimCreated fallback store correlationID interp answers)
      (buildIntent fallback validateAllOrNothing interp correlationID answers) := by
  rw [firstClaimCreated]
  by_cases all : (interp.endpoints.all fun endpoint => (plainEndpoint endpoint).make.isSome) = true
  · rw [all]
    have each := List.all_eq_true.mp all
    have made := make_endpoints_valid store plainEndpoint interp.endpoints each
    have valid (endpoint : Endpoint) (member : endpoint ∈ deterministicEndpoints (interp.endpoints.map plainEndpoint)) :
        endpoint.make.isSome = true := by
      obtain ⟨asked, listed, same⟩ := (mem_plain_endpoints interp endpoint).mp member
      rw [← same]
      exact each asked listed
    apply marks_after store correlationID _ _ _ made
    simp only [Bool.true_and]
    exact marks_then store correlationID _ _ _
      (construct_intent_marks store correlationID fallback interp (normalizedACL interp) _ answers valid free)
      fun holds assignment => by
        cases validateAllOrNothing assignment.intent with
        | none => exact keeps_pure _ _
        | some causes => exact keeps_leave _ _
  · have broken : (interp.endpoints.all fun endpoint => (plainEndpoint endpoint).make.isSome) = false := by
      simpa using all
    rw [broken]
    obtain ⟨endpoint, member, invalid⟩ := List.all_eq_false.mp broken
    apply marks_idle
    have left := make_endpoints_invalid store plainEndpoint interp.endpoints endpoint member invalid
    have ends : buildIntent fallback validateAllOrNothing interp correlationID answers store = (store, .error .invalid) := by
      rw [buildIntent]
      simp only [bind_run]
      rw [show mapEach (fun (endpoint : EndpointIntent) => makeEndpoint
        { node := endpoint.siteOrNode, attachment := endpoint.attachment, vlan := endpoint.vlan }) interp.endpoints store =
          (store, .error .invalid) from left]
    rw [ends]

end Calls

section Worker
variable (fallback : Bool) (validateAllOrNothing : NormalizedServiceIntent → Option Message)
variable (hashInterpretation : Interpretation → String)

-- A call leaves an object behind: its interpretation is new to the memo, and its first claim is created.
def callCreated (worker : Worker) (call : Call) : Bool :=
  match call.payload with
  | none => false
  | some interp =>
      (worker.memo.get? (hashInterpretation interp)).isNone &&
        firstClaimCreated fallback worker.store call.correlationID interp call.answers

theorem alloc_store (worker : Worker) (call : Call) (interp : Interpretation) (asked : call.payload = some interp)
    (new : worker.memo.get? (hashInterpretation interp) = none) :
    (allocNode fallback validateAllOrNothing hashInterpretation call worker).1.store =
      (buildIntent fallback validateAllOrNothing interp call.correlationID call.answers worker.store).1 := by
  rw [allocNode]
  simp only [asked, new]
  cases buildIntent fallback validateAllOrNothing interp call.correlationID call.answers worker.store with
  | mk store result =>
      cases result with
      | ok assignment => rfl
      | error failure => rfl

theorem alloc_idle (worker : Worker) (call : Call)
    (known : ∀ interp ∈ call.payload, (worker.memo.get? (hashInterpretation interp)).isSome = true) :
    (allocNode fallback validateAllOrNothing hashInterpretation call worker).1.store = worker.store := by
  rw [allocNode]
  cases asked : call.payload with
  | none => rfl
  | some interp =>
      obtain ⟨cached, memo⟩ := Option.isSome_iff_exists.mp (known interp asked)
      simp only [memo]

-- Which correlation ids the store carries behind a call.
theorem call_labels (worker : Worker) (call : Call) (correlationID : String) :
    Labelled correlationID (allocNode fallback validateAllOrNothing hashInterpretation call worker).1.store ↔
      Labelled correlationID worker.store ∨
        correlationID = call.correlationID ∧ callCreated fallback hashInterpretation worker call = true := by
  rw [callCreated]
  cases asked : call.payload with
  | none =>
      rw [alloc_idle fallback validateAllOrNothing hashInterpretation worker call (by simp [asked])]
      simp
  | some interp =>
      cases memo : worker.memo.get? (hashInterpretation interp) with
      | some cached =>
          rw [alloc_idle fallback validateAllOrNothing hashInterpretation worker call (by simp [asked, memo])]
          simp [memo]
      | none =>
          rw [alloc_store fallback validateAllOrNothing hashInterpretation worker call interp asked memo]
          simp only [memo, Option.isNone_none, Bool.true_and]
          have stays (other : String) (held : Labelled other worker.store) : Labelled other
              (buildIntent fallback validateAllOrNothing interp call.correlationID call.answers worker.store).1 :=
            keeps_state _ _ (keeps_build_intent _ _ (kept_labelled call.correlationID other) fallback
              validateAllOrNothing interp call.answers) worker.store held
          by_cases own : correlationID = call.correlationID
          · subst own
            by_cases held : Labelled call.correlationID worker.store
            · exact ⟨fun _ => .inl held, fun _ => stays _ held⟩
            · have marks := build_intent_marks worker.store call.correlationID fallback validateAllOrNothing interp
                call.answers held
              cases created : firstClaimCreated fallback worker.store call.correlationID interp call.answers with
              | true => exact ⟨fun _ => .inr ⟨rfl, rfl⟩, fun _ => marks.leaves created⟩
              | false =>
                  rw [marks.idle created]
                  simp
          · constructor
            · intro after
              by_contra neither
              have free := keeps_state _ _ (keeps_build_intent _ _ (kept_unlabelled call.correlationID correlationID own)
                fallback validateAllOrNothing interp call.answers) worker.store (fun held => neither (.inl held))
              exact free after
            · intro before
              cases before with
              | inl held => exact stays _ held
              | inr created => exact absurd created.1 own

end Worker

end AgenticNetops.Provisioning
