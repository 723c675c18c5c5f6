import AgenticNetops.Provisioning.Allocator

set_option autoImplicit false

/- What the claim store holds under a correlation id, and what one call adds to it:
   a call only adds objects of its own correlation id, and each identifier it is
   handed is held by no other. -/
namespace AgenticNetops.Provisioning

open GoText Exits

def Claim.identifier (claim : Claim) : Option Identifier :=
  match claim.status with
  | .id value => value.map (Identifier.number claim.index)
  | .pfx text => if text = "" then none else some (.subnet text)

def Lease.identifier (lease : Lease) : Option Identifier := lease.allocatedID.map (Identifier.number lease.pool)

def heldUnder (store : Store) (correlationID : String) : List Identifier :=
  (store.claims.filter fun claim => claim.correlationID = correlationID).filterMap Claim.identifier ++
    (store.leases.filter fun lease => lease.correlationID = correlationID).filterMap Lease.identifier

theorem held_under_iff (store : Store) (correlationID : String) (x : Identifier) :
    x ∈ heldUnder store correlationID ↔
      (∃ claim ∈ store.claims, claim.correlationID = correlationID ∧ claim.identifier = some x) ∨
        ∃ lease ∈ store.leases, lease.correlationID = correlationID ∧ lease.identifier = some x := by
  simp [heldUnder, and_assoc]

-- No claim name of a resource is given twice.
def UniqueNames (store : Store) : Prop := (store.claims.map fun claim => (claim.plural, claim.name)).Nodup

theorem find_some (store : Store) (plural name : String) (claim : Claim) (found : store.find plural name = some claim) :
    claim ∈ store.claims ∧ claim.plural = plural ∧ claim.name = name := by
  have named := List.find?_some found
  exact ⟨List.mem_of_find?_eq_some found, by simpa using named⟩

theorem find_unique (store : Store) (unique : UniqueNames store) (claim : Claim) (member : claim ∈ store.claims) :
    store.find claim.plural claim.name = some claim := by
  cases found : store.find claim.plural claim.name with
  | none =>
      have absent := List.find?_eq_none.mp found claim member
      simp at absent
  | some other =>
      obtain ⟨otherMember, samePlural, sameName⟩ := find_some store _ _ other found
      have same : other = claim :=
        List.inj_on_of_nodup_map unique otherMember member (by rw [samePlural, sameName])
      rw [same]

section Additions
variable (store : Store)

theorem add_claim_held (claim : Claim) (correlationID : String) (x : Identifier) :
    x ∈ heldUnder (store.addClaim claim) correlationID ↔
      x ∈ heldUnder store correlationID ∨ claim.correlationID = correlationID ∧ claim.identifier = some x := by
  rw [held_under_iff, held_under_iff]
  constructor
  · intro held
    cases held with
    | inr lease => exact .inl (.inr lease)
    | inl claimed =>
        obtain ⟨other, member, owner, stands⟩ := claimed
        cases List.mem_append.mp member with
        | inl old => exact .inl (.inl ⟨other, old, owner, stands⟩)
        | inr new =>
            cases List.mem_singleton.mp new
            exact .inr ⟨owner, stands⟩
  · intro held
    cases held with
    | inr new => exact .inl ⟨claim, List.mem_append_right _ (List.mem_singleton_self claim), new⟩
    | inl old =>
        cases old with
        | inr lease => exact .inr lease
        | inl claimed =>
            obtain ⟨other, member, stands⟩ := claimed
            exact .inl ⟨other, List.mem_append_left _ member, stands⟩

theorem add_lease_held (lease : Lease) (correlationID : String) (x : Identifier) :
    x ∈ heldUnder (store.addLease lease) correlationID ↔
      x ∈ heldUnder store correlationID ∨ lease.correlationID = correlationID ∧ lease.identifier = some x := by
  rw [held_under_iff, held_under_iff]
  constructor
  · intro held
    cases held with
    | inl claimed => exact .inl (.inl claimed)
    | inr leased =>
        obtain ⟨other, member, owner, stands⟩ := leased
        cases List.mem_append.mp member with
        | inl old => exact .inl (.inr ⟨other, old, owner, stands⟩)
        | inr new =>
            cases List.mem_singleton.mp new
            exact .inr ⟨owner, stands⟩
  · intro held
    cases held with
    | inr new => exact .inr ⟨lease, List.mem_append_right _ (List.mem_singleton_self lease), new⟩
    | inl old =>
        cases old with
        | inl claimed => exact .inl claimed
        | inr leased =>
            obtain ⟨other, member, stands⟩ := leased
            exact .inr ⟨other, List.mem_append_left _ member, stands⟩

theorem add_claim_find (claim : Claim) (plural name : String) (free : store.find claim.plural claim.name = none) :
    (store.addClaim claim).find plural name =
      if claim.plural = plural ∧ claim.name = name then some claim else store.find plural name := by
  have split : (store.addClaim claim).find plural name =
      (store.find plural name).or ([claim].find? fun claim => claim.plural = plural ∧ claim.name = name) := by
    simp [Store.find, Store.addClaim, List.find?_append]
  rw [split]
  by_cases same : claim.plural = plural ∧ claim.name = name
  · rw [if_pos same, ← same.1, ← same.2, free]
    simp
  · rw [if_neg same, List.find?_cons_of_neg (by simpa using same), List.find?_nil, Option.or_none]

theorem add_claim_unique (claim : Claim) (unique : UniqueNames store) (free : store.find claim.plural claim.name = none) :
    UniqueNames (store.addClaim claim) := by
  unfold UniqueNames Store.addClaim
  rw [List.map_append, List.nodup_append]
  have single : (([claim] : List Claim).map fun claim => (claim.plural, claim.name)).Nodup := by simp
  refine ⟨unique, single, ?_⟩
  intro key old other new same
  obtain ⟨held, member, named⟩ := List.mem_map.mp old
  have key' : other = (claim.plural, claim.name) := by simpa using new
  have taken := List.find?_eq_none.mp free held member
  rw [same, key'] at named
  simp only [Prod.mk.injEq] at named
  simp [named] at taken

end Additions

/- What a call under `correlationID` has made of `before` once it was handed `handed`. -/
structure Grown (correlationID : String) (before : Store) (handed : List Identifier) (after : Store) : Prop where
  others : ∀ other, other ≠ correlationID → ∀ x, x ∈ heldUnder after other ↔ x ∈ heldUnder before other
  own : ∀ x, x ∈ heldUnder after correlationID ↔ x ∈ heldUnder before correlationID ∨ x ∈ handed
  leases : ∀ lease ∈ before.leases, lease ∈ after.leases
  found : ∀ plural name claim, before.find plural name = some claim → after.find plural name = some claim
  unique : UniqueNames before → UniqueNames after

section Growing
variable (correlationID : String) (before : Store)

theorem grown_refl : Grown correlationID before [] before where
  others _ _ _ := Iff.rfl
  own x := by simp
  leases _ member := member
  found _ _ _ found := found
  unique unique := unique

theorem grown_trans (mid after : Store) (first later : List Identifier) (start : Grown correlationID before first mid)
    (rest : Grown correlationID mid later after) : Grown correlationID before (first ++ later) after where
  others other different x := (rest.others other different x).trans (start.others other different x)
  own x := by
    rw [rest.own, start.own, List.mem_append, or_assoc]
  leases lease member := rest.leases lease (start.leases lease member)
  found plural name claim found := rest.found plural name claim (start.found plural name claim found)
  unique unique := rest.unique (start.unique unique)

theorem grown_claim (claim : Claim) (owner : claim.correlationID = correlationID)
    (free : before.find claim.plural claim.name = none) :
    Grown correlationID before claim.identifier.toList (before.addClaim claim) where
  others other different x := by
    rw [add_claim_held, owner]
    exact or_iff_left fun new => different new.1.symm
  own x := by
    rw [add_claim_held, Option.mem_toList]
    simp [owner]
  leases _ member := member
  found plural name held found := by
    rw [add_claim_find before claim plural name free, if_neg, found]
    intro same
    rw [← same.1, ← same.2, free] at found
    cases found
  unique unique := add_claim_unique before claim unique free

theorem grown_lease (lease : Lease) (owner : lease.correlationID = correlationID) :
    Grown correlationID before lease.identifier.toList (before.addLease lease) where
  others other different x := by
    rw [add_lease_held, owner]
    exact or_iff_left fun new => different new.1.symm
  own x := by
    rw [add_lease_held, Option.mem_toList]
    simp [owner]
  leases _ member := List.mem_append_left _ member
  found _ _ _ found := found
  unique unique := unique

-- No other correlation id holds the identifier.
def FreshFor (x : Identifier) : Prop := ∀ other, other ≠ correlationID → x ∉ heldUnder before other

theorem fresh_for_iff (x : Identifier) : FreshFor correlationID before x ↔
    (∀ claim ∈ before.claims, claim.identifier = some x → claim.correlationID = correlationID) ∧
      ∀ lease ∈ before.leases, lease.identifier = some x → lease.correlationID = correlationID := by
  constructor
  · intro fresh
    constructor
    · intro claim member stands
      by_contra other
      exact fresh _ other ((held_under_iff _ _ _).mpr (.inl ⟨claim, member, rfl, stands⟩))
    · intro lease member stands
      by_contra other
      exact fresh _ other ((held_under_iff _ _ _).mpr (.inr ⟨lease, member, rfl, stands⟩))
  · intro free other different held
    cases (held_under_iff _ _ _).mp held with
    | inl claimed =>
        obtain ⟨claim, member, owner, stands⟩ := claimed
        exact different (owner.symm.trans (free.1 claim member stands))
    | inr leased =>
        obtain ⟨lease, member, owner, stands⟩ := leased
        exact different (owner.symm.trans (free.2 lease member stands))

instance (x : Identifier) : Decidable (FreshFor correlationID before x) :=
  decidable_of_iff _ (fresh_for_iff correlationID before x).symm

structure Progress (handed : List Identifier) (after : Store) : Prop where
  grown : Grown correlationID before handed after
  fresh : ∀ x ∈ handed, x ∈ heldUnder before correlationID ∨ FreshFor correlationID before x

theorem progress_refl : Progress correlationID before [] before := ⟨grown_refl correlationID before, by simp⟩

theorem progress_more (mid after : Store) (handed more : List Identifier)
    (start : Progress correlationID before handed mid) (grown : Grown correlationID mid more after)
    (fresh : ∀ x ∈ more, x ∈ heldUnder before correlationID ∨ FreshFor correlationID before x) :
    Progress correlationID before (handed ++ more) after where
  grown := grown_trans correlationID before mid after handed more start.grown grown
  fresh x member := by
    cases List.mem_append.mp member with
    | inl early => exact start.fresh x early
    | inr late => exact fresh x late

-- What others hold is as it was, so what is free for the call now was free before.
theorem fresh_before (mid : Store) (handed : List Identifier) (start : Grown correlationID before handed mid)
    (x : Identifier) (fresh : FreshFor correlationID mid x) : FreshFor correlationID before x :=
  fun other different held => fresh other different ((start.others other different x).mpr held)

end Growing

end AgenticNetops.Provisioning
