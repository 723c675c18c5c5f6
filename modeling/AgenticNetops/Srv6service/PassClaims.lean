import AgenticNetops.Srv6service.ClaimStage
import AgenticNetops.Srv6service.PassEnd

set_option autoImplicit false

/- The claims after a pass: what its claim stage added stays, or is released for one
   of three reasons. And who holds what then, where the values given out are fresh. -/
namespace AgenticNetops.Srv6service

open GoText Api Kuid Fabricplan Ledger

def served : CreateAnswer → Option ClaimResult
  | .serve result => some result
  | .fail _ => none

-- The claims and leases of the value are the correlation id's own.
def IDIsOwn (store : Store) (corrID : String) (id : Int) : Prop :=
  (∀ claim ∈ store.claims, claim.ref.pool = serviceIDPool → claim.result.id = id → claim.correlationID = corrID) ∧
    ∀ lease ∈ store.leases, isServiceLease lease → lease.allocatedID = some id → lease.correlationID = corrID

def PrefixIsOwn (store : Store) (corrID pfx : String) : Prop :=
  ∀ claim ∈ store.claims, claim.ref.pool = clientV4Pool → claim.result.address = pfx → claim.correlationID = corrID

-- No id that the fallback can take, which knows the leases only, is another one's claim.
def RangeIsOwn (store : Store) (corrID : String) : Prop :=
  ∀ claim ∈ store.claims, claim.ref.pool = serviceIDPool → claim.correlationID ≠ corrID →
    ¬ (leaseIDFirst ≤ claim.result.id ∧ claim.result.id ≤ leaseIDLast ∧
      claim.result.id ∉ usedLeaseIDs store.leases serviceIDPool.name)

-- No value that the stage is given is another correlation id's.
def ServesFresh (store : Store) (corrID : String) (spec : SRv6ServiceSpec) (answers : KuidAnswers) : Prop :=
  (∀ result ∈ served answers.serviceID.create, result.id ≠ 0 → IDIsOwn store corrID result.id) ∧
  (fallsBack store corrID answers = true → RangeIsOwn store corrID) ∧
  ∀ att ∈ spec.attachments, ∀ result ∈ served (answers.clientPrefix att.node).create,
    result.address ≠ "" → PrefixIsOwn store corrID result.address

instance (store : Store) (corrID : String) (id : Int) : Decidable (IDIsOwn store corrID id) :=
  inferInstanceAs (Decidable (_ ∧ _))

instance (store : Store) (corrID pfx : String) : Decidable (PrefixIsOwn store corrID pfx) :=
  inferInstanceAs (Decidable (∀ claim ∈ store.claims, _ → _ → claim.correlationID = corrID))

instance (store : Store) (corrID : String) : Decidable (RangeIsOwn store corrID) :=
  inferInstanceAs (Decidable (∀ claim ∈ store.claims, _ → _ → ¬ _))

instance (store : Store) (corrID : String) (spec : SRv6ServiceSpec) (answers : KuidAnswers) :
    Decidable (ServesFresh store corrID spec answers) := inferInstanceAs (Decidable (_ ∧ _ ∧ _))

-- A served id is not zero, and a served prefix not empty.
def OwnsID (store : Store) (owner : String) (id : Int) : Prop := id ≠ 0 ∧ store.HoldsID owner id

def OwnsPrefix (store : Store) (owner pfx : String) : Prop := pfx ≠ "" ∧ store.HoldsPrefix owner pfx

-- No value has two holders.
structure OneHolder (store : Store) : Prop where
  ids : Exclusive (OwnsID store)
  prefixes : Exclusive (OwnsPrefix store)

theorem one_holder_empty : OneHolder {} := by
  constructor
  · rintro a b id ⟨_, ⟨claim, none, _⟩ | ⟨lease, none, _⟩⟩ _
    · cases none
    · cases none
  · rintro a b pfx ⟨_, claim, none, _⟩ _
    cases none

section Stage
variable (store grown : Store) (corrID : String) (spec : SRv6ServiceSpec) (answers : KuidAnswers)

theorem id_is_own (owner : String) (id : Int) (own : IDIsOwn store corrID id) (held : store.HoldsID owner id) :
    owner = corrID := by
  rcases held with ⟨claim, member, pool, mine, value⟩ | ⟨lease, member, service, mine, value⟩
  · exact mine.symm.trans (own.1 claim member pool value)
  · exact mine.symm.trans (own.2 lease member service value)

theorem lease_used (lease : Lease) (id : Int) (member : lease ∈ store.leases) (service : isServiceLease lease)
    (value : lease.allocatedID = some id) : id ∈ usedLeaseIDs store.leases serviceIDPool.name := by
  simp only [isServiceLease, Bool.and_eq_true, decide_eq_true_eq] at service
  refine List.mem_filterMap.mpr ⟨lease, ?_, value⟩
  exact List.mem_filter.mpr ⟨member, decide_eq_true service.2⟩

-- The stage keeps one holder for every value.
theorem stage_one_holder (adds : StageAdds store corrID answers spec grown) (fresh : ServesFresh store corrID spec answers)
    (single : OneHolder store) : OneHolder grown := by
  obtain ⟨freshID, freshLease, freshPrefix⟩ := fresh
  constructor
  · refine exclusive_grow (OwnsID store) (OwnsID grown) corrID
      (fun id => id ≠ 0 ∧ ((∃ claim, StageClaimed spec answers claim ∧ claim.ref.pool = serviceIDPool ∧ claim.result.id = id) ∨
        ∃ lease, StageLeased store corrID answers lease ∧ lease.allocatedID = some id)) ?_ ?_ single.ids
    · rintro owner id ⟨nonzero, held⟩
      rcases holds_id_new _ _ _ store grown adds owner id held with old | ⟨mine, new⟩
      · exact Or.inl ⟨nonzero, old⟩
      · exact Or.inr ⟨mine, nonzero, new⟩
    · rintro owner id ⟨_, held⟩ ⟨nonzero, ⟨claim, claimed, pool, value⟩ | ⟨lease, ⟨falls, own, leased, low, high, unused⟩, value⟩⟩
      · rcases claimed with ⟨_, given⟩ | ⟨att, _, other, _⟩ | ⟨other, _⟩
        · have result : claim.result ∈ served answers.serviceID.create := by rw [given]; rfl
          exact id_is_own store corrID owner id (value ▸ freshID claim.result result (value ▸ nonzero)) held
        · rw [pool] at other
          exact absurd other (by decide)
        · rw [pool] at other
          exact absurd other (by decide)
      · rw [value, Option.some.injEq] at leased
        subst leased
        rcases held with ⟨claim, member, pool, mine, same⟩ | ⟨other, member, service, _, same⟩
        · by_contra foreign
          exact freshLease falls claim member pool (mine ▸ foreign) ⟨same ▸ low, same ▸ high, same ▸ unused⟩
        · exact absurd (lease_used store other id member service same) unused
  · refine exclusive_grow (OwnsPrefix store) (OwnsPrefix grown) corrID
      (fun pfx => pfx ≠ "" ∧ ∃ claim, StageClaimed spec answers claim ∧ claim.ref.pool = clientV4Pool ∧ claim.result.address = pfx)
      ?_ ?_ single.prefixes
    · rintro owner pfx ⟨nonempty, held⟩
      rcases holds_prefix_new _ _ _ store grown adds owner pfx held with old | ⟨mine, new⟩
      · exact Or.inl ⟨nonempty, old⟩
      · exact Or.inr ⟨mine, nonempty, new⟩
    · rintro owner pfx ⟨_, stored, member, inPool, mine, same⟩ ⟨nonempty, claim, claimed, pool, value⟩
      rcases claimed with ⟨other, _⟩ | ⟨att, listed, _, given⟩ | ⟨other, _⟩
      · rw [pool] at other
        exact absurd other (by decide)
      · have result : claim.result ∈ served (answers.clientPrefix att.node).create := by rw [given]; rfl
        have own := freshPrefix att listed claim.result result (value ▸ nonempty)
        exact mine.symm.trans (own stored member inPool (same.trans value.symm))
      · rw [pool] at other
        exact absurd other (by decide)

theorem release_one_holder (answer : ReleaseAnswer) (single : OneHolder store) : OneHolder (releaseAll store corrID answer) where
  ids := exclusive_sub _ _ (fun owner id held => ⟨held.1, release_sub_id store corrID answer owner id held.2⟩) single.ids
  prefixes :=
    exclusive_sub _ _ (fun owner pfx held => ⟨held.1, release_sub_prefix store corrID answer owner pfx held.2⟩) single.prefixes

end Stage

section Pass
variable (site : Site) (lists : ConflictLists) (answers : Answers) (svc : SRv6Service) (store : Store)

-- The pass claims anew: it is live, comes through the gates and has nothing to reuse.
structure ClaimsAnew : Prop where
  alive : svc.deletionTimestamp = none
  gates : passesGates site lists answers svc = true
  fresh : reuseAllocation svc (correlationID svc) site.facts.locators = none

-- The store behind the claim stage, before any release.
def Staged (grown : Store) : Prop :=
  grown = store ∨ ClaimsAnew site lists answers svc ∧ StageAdds store (correlationID svc) answers.kuid svc.spec grown

-- Every application of the pass is of a plan that came through the gates and the stage.
def AppliesAdmitted (grown : Store) (calls : List Executed) : Prop :=
  ∀ e ∈ calls, e.call.site.isRollback = false → svc.deletionTimestamp = none ∧
    ∃ alloc plan, Admitted site lists answers svc store alloc plan grown ∧ e.alloc = alloc.allocations

-- Why a pass has released the claims of its correlation id.
inductive Releases (grown : Store) (calls : List Executed) : Prop
  | stage (anew : ClaimsAnew site lists answers svc)
      (spent : rangeSpent store (correlationID svc) answers.kuid = true ∨
        vlanTaken store (correlationID svc) svc.spec.vlan answers.kuid = true)
      (quiet : calls = [])
  | refused (alive : svc.deletionTimestamp = none) (alloc : Allocation) (plan : SRv6Plan)
      (admitted : Admitted site lists answers svc store alloc plan grown) (first : svc.status.appliedSpec = none)
      (stopped : ∃ node ∈ planOrder plan, applyStops answers.apply .firstApply node)
      (undone : calls = logged svc alloc (undoneCalls answers plan))
  | deleted (deleting : svc.deletionTimestamp ≠ none) (finalizer : hasSRv6Finalizer svc)
      (clean : ∀ e ∈ finalizeCalls site answers svc, ¬ isDirty e.call) (undone : calls = finalizeCalls site answers svc)

def ClaimsEnd (pass : Pass) : Prop :=
  ∃ grown, Staged site lists answers svc store grown ∧
    ((pass.store = grown ∧ AppliesAdmitted site lists answers svc store grown pass.calls) ∨
      (pass.store = releaseAll grown (correlationID svc) answers.kuid.release ∧
        Releases site lists answers svc store grown pass.calls))

variable (formed : store.WellFormed)
include formed

-- A plan that was admitted was staged in its store, and holds its allocations there.
theorem admitted_staged (alive : svc.deletionTimestamp = none) (alloc : Allocation) (plan : SRv6Plan) (grown : Store)
    (admitted : Admitted site lists answers svc store alloc plan grown) :
    Staged site lists answers svc store grown ∧
      ((∀ recorded ∈ reuseAllocation svc (correlationID svc) site.facts.locators,
          Holds store (correlationID svc) recorded.allocations) →
        (reuseAllocation svc (correlationID svc) site.facts.locators = none →
          ShowsHolders store (correlationID svc) svc.spec answers.kuid) →
        Holds grown (correlationID svc) alloc.allocations) ∧
      (reuseAllocation svc (correlationID svc) site.facts.locators = some alloc ∨
        Allotted svc.spec site.facts.locators alloc) := by
  rcases admitted.claims with ⟨reused, rfl⟩ | ⟨fresh, made⟩
  · exact ⟨Or.inl rfl, fun kept _ => kept alloc reused, Or.inl reused⟩
  · obtain ⟨after, adds, ⟨rfl, holds⟩ | ⟨_, ⟨_, failed⟩, _⟩⟩ :=
      allocate_spec store (correlationID svc) answers.kuid svc.spec site.facts.locators grown (.ok alloc) formed made
    · exact ⟨Or.inr ⟨⟨alive, admitted.gates, fresh⟩, adds⟩, fun _ shown => (holds alloc rfl).2 (shown fresh),
        Or.inr (holds alloc rfl).1⟩
    · cases failed

theorem pass_claims (pass : Pass) (ended : PassEnd site lists answers svc store pass) :
    ClaimsEnd site lists answers svc store pass := by
  have quietly : pass.store = store → (∀ e ∈ pass.calls, e.call.site.isRollback = true) →
      ClaimsEnd site lists answers svc store pass := by
    intro same rollbacks
    refine ⟨store, Or.inl rfl, Or.inl ⟨same, fun e member applies => ?_⟩⟩
    rw [rollbacks e member] at applies
    cases applies
  have rollbacks := finalize_calls_rollback site answers svc
  rcases ended with ⟨alive, live⟩ | ⟨deleting, finalizer, final⟩ | start
  · rcases live with here | ⟨claimed, result, gates, fresh, made, here⟩ | ⟨alloc, plan, claimed, admitted, here⟩ |
      ⟨alloc, plan, claimed, admitted, first, stopped, here⟩
    · exact quietly here.store (by rw [here.calls]; exact fun _ none => by cases none)
    · have quiet : ∀ grown, AppliesAdmitted site lists answers svc store grown pass.calls := by
        rw [here.calls]
        exact fun _ _ none => by cases none
      obtain ⟨grown, adds, ⟨same, _⟩ | ⟨released, _, spent⟩⟩ :=
        allocate_spec store (correlationID svc) answers.kuid svc.spec site.facts.locators claimed result formed made
      · exact ⟨grown, Or.inr ⟨⟨alive, gates, fresh⟩, adds⟩, Or.inl ⟨here.store.trans same, quiet grown⟩⟩
      · exact ⟨grown, Or.inr ⟨⟨alive, gates, fresh⟩, adds⟩,
          Or.inr ⟨here.store.trans released, .stage ⟨alive, gates, fresh⟩ spent here.calls⟩⟩
    · refine ⟨claimed, (admitted_staged site lists answers svc store formed alive alloc plan claimed admitted).1,
        Or.inl ⟨here.store, fun e member _ => ⟨alive, alloc, plan, admitted, ?_⟩⟩⟩
      exact (here.calls e member).2.2.1
    · exact ⟨claimed, (admitted_staged site lists answers svc store formed alive alloc plan claimed admitted).1,
        Or.inr ⟨here.store, .refused alive alloc plan admitted first stopped here.calls⟩⟩
  · rcases final with here | ⟨clean, here⟩ | ⟨clean, _, _, claims, calls, _⟩
    · exact quietly here.store (by rw [here.calls]; exact rollbacks)
    · exact ⟨store, Or.inl rfl, Or.inr ⟨here.store, .deleted deleting finalizer clean here.calls⟩⟩
    · exact ⟨store, Or.inl rfl, Or.inr ⟨claims, .deleted deleting finalizer clean calls⟩⟩
  · refine quietly (by rw [start]; rfl) ?_
    rw [start]
    exact fun _ none => by cases none

variable (pass : Pass) (ended : PassEnd site lists answers svc store pass)
include ended

theorem pass_formed : pass.store.WellFormed := by
  obtain ⟨grown, staged, ends⟩ := pass_claims site lists answers svc store formed pass ended
  have here : grown.WellFormed := by
    rcases staged with rfl | ⟨_, adds⟩
    · exact formed
    · exact adds.wellFormed formed
  rcases ends with ⟨same, _⟩ | ⟨released, _⟩
  · exact same ▸ here
  · rw [released]
    exact release_keeps_formed grown _ _ here

theorem pass_one_holder (single : OneHolder store)
    (fresh : ClaimsAnew site lists answers svc → ServesFresh store (correlationID svc) svc.spec answers.kuid) :
    OneHolder pass.store := by
  obtain ⟨grown, staged, ends⟩ := pass_claims site lists answers svc store formed pass ended
  have here : OneHolder grown := by
    rcases staged with rfl | ⟨anew, adds⟩
    · exact single
    · exact stage_one_holder store grown _ svc.spec answers.kuid adds (fresh anew) single
  rcases ends with ⟨same, _⟩ | ⟨released, _⟩
  · exact same ▸ here
  · rw [released]
    exact release_one_holder grown _ _ here

-- The pass takes no claim and no lease of a correlation id that its releases spare.
theorem pass_spares (owner : String)
    (spared : ∀ grown, Releases site lists answers svc store grown pass.calls → owner ≠ correlationID svc) :
    (∀ claim ∈ store.claims, claim.correlationID = owner → claim ∈ pass.store.claims) ∧
      (∀ lease ∈ store.leases, lease.correlationID = owner → lease ∈ pass.store.leases) := by
  obtain ⟨grown, staged, ends⟩ := pass_claims site lists answers svc store formed pass ended
  have kept : grown.WellFormed ∧ (∀ claim ∈ store.claims, claim ∈ grown.claims) ∧ ∀ lease ∈ store.leases, lease ∈ grown.leases := by
    rcases staged with rfl | ⟨_, adds⟩
    · exact ⟨formed, fun _ member => member, fun _ member => member⟩
    · exact ⟨adds.wellFormed formed, adds.claims, adds.leases⟩
  obtain ⟨here, claims, leases⟩ := kept
  rcases ends with ⟨same, _⟩ | ⟨released, releases⟩
  · rw [same]
    exact ⟨fun claim member _ => claims claim member, fun lease member _ => leases lease member⟩
  · have other := spared grown releases
    rw [released]
    exact ⟨fun claim member own => release_keeps_claim grown _ _ here claim (claims claim member) (own ▸ other),
      fun lease member own => release_keeps_lease grown _ _ here lease (leases lease member) (own ▸ other)⟩

theorem spared_holds (owner : String) (alloc : Api.Allocations) (holds : Holds store owner alloc)
    (spared : ∀ grown, Releases site lists answers svc store grown pass.calls → owner ≠ correlationID svc) :
    Holds pass.store owner alloc := by
  obtain ⟨claims, leases⟩ := pass_spares site lists answers svc store formed pass ended owner spared
  constructor
  · rcases holds.1 with ⟨claim, member, pool, own, value⟩ | ⟨lease, member, service, own, value⟩
    · exact Or.inl ⟨claim, claims claim member own, pool, own, value⟩
    · exact Or.inr ⟨lease, leases lease member own, service, own, value⟩
  · intro entry listed
    obtain ⟨claim, member, pool, own, value⟩ := holds.2 entry listed
    exact ⟨claim, claims claim member own, pool, own, value⟩

end Pass

end AgenticNetops.Srv6service
