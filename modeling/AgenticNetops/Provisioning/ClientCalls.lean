import AgenticNetops.Provisioning.Growth

set_option autoImplicit false

/- What each call of the allocation client makes of the store. Both authorities give
   out numbers without asking the other, so a call is clean when the number the claim
   server serves is no other's, a numbered claim is not given up for a lease, and the
   leases show every number in their range that others have claimed. -/
namespace AgenticNetops.Provisioning

open GoText Exits

-- What a request leaves in the store if it gets that far.
def Answer.carried {α : Type} : Answer α → Option α
  | .served value => some value
  | .refused _ _ => none
  | .broken carriedOut => carriedOut

def Failure.isAPI : Failure → Bool
  | .api _ => true
  | _ => false

def Claim.numberOf (index : String) (claim : Claim) : Option Int :=
  match claim.status with
  | .id value => if claim.index = index then value else none
  | .pfx _ => none

def LeasesShow (store : Store) (correlationID index : String) (first last : Nat) : Prop :=
  ∀ claim ∈ store.claims, claim.correlationID ≠ correlationID → ∀ value ∈ claim.numberOf index,
    (first : Int) ≤ value → value ≤ last → value ∈ usedIDs store.leases index

-- The claim server answers with a number.
def NumberAnswers.settled (answers : NumberAnswers) : Bool :=
  match answers.create, answers.wait with
  | .served (some _), .ready => true
  | _, _ => false

def NumberAnswers.name (answers : NumberAnswers) : String := "claim-" ++ answers.uuid

structure CleanNumber (before : Store) (correlationID index : String) (first last : Nat) (answers : NumberAnswers) :
    Prop where
  served : ∀ carried ∈ answers.create.carried, ∀ value ∈ carried,
    FreshFor correlationID before (.number index value)
  kept : ∀ carried ∈ answers.create.carried, carried.isSome → ∀ failure ∈ answers.wait.failure answers.name,
    ¬ failure.isAPI
  shown : ¬ answers.settled → LeasesShow before correlationID index first last

structure CleanPrefix (before : Store) (correlationID : String) (answers : PrefixAnswers) : Prop where
  served : ∀ text ∈ answers.create.carried, FreshFor correlationID before (.subnet text)

section Decisions
variable (before : Store) (correlationID index : String) (first last : Nat)

instance : Decidable (LeasesShow before correlationID index first last) :=
  inferInstanceAs (Decidable (∀ claim ∈ before.claims, claim.correlationID ≠ correlationID →
    ∀ value ∈ claim.numberOf index, (first : Int) ≤ value → value ≤ last → value ∈ usedIDs before.leases index))

theorem clean_number_iff (answers : NumberAnswers) : CleanNumber before correlationID index first last answers ↔
    (∀ carried ∈ answers.create.carried, ∀ value ∈ carried, FreshFor correlationID before (.number index value)) ∧
    (∀ carried ∈ answers.create.carried, carried.isSome → ∀ failure ∈ answers.wait.failure answers.name,
      ¬ failure.isAPI) ∧
    (¬ answers.settled → LeasesShow before correlationID index first last) :=
  ⟨fun clean => ⟨clean.served, clean.kept, clean.shown⟩, fun ⟨served, kept, shown⟩ => ⟨served, kept, shown⟩⟩

instance (answers : NumberAnswers) : Decidable (CleanNumber before correlationID index first last answers) :=
  decidable_of_iff _ (clean_number_iff before correlationID index first last answers).symm

instance (answers : PrefixAnswers) : Decidable (CleanPrefix before correlationID answers) :=
  decidable_of_iff (∀ text ∈ answers.create.carried, FreshFor correlationID before (.subnet text))
    ⟨fun served => ⟨served⟩, fun clean => clean.served⟩

end Decisions

section Specs
variable (correlationID : String) (before : Store) (handed : List Identifier)

-- Where a call leaves, it has still been handed nothing of another's.
def Left (_ : Failure) (after : Store) : Prop := ∃ more, Progress correlationID before more after

-- A failure that the leases stand in for has handed nothing.
def LeftForLease (failure : Failure) (after : Store) : Prop :=
  Left correlationID before failure after ∧ (failure.isAPI → Progress correlationID before handed after)

theorem left_kept (failure : Failure) (after : Store) (progress : Progress correlationID before handed after) :
    LeftForLease correlationID before handed failure after := ⟨⟨handed, progress⟩, fun _ => progress⟩

theorem triple_create_claim (plural index name : String) (answer : Answer ClaimStatus)
    (served : ∀ status ∈ answer.carried, ∀ x,
      (⟨plural, name, index, correlationID, status⟩ : Claim).identifier = some x → FreshFor correlationID before x) :
    Triple (Progress correlationID before handed) (createClaim plural index name correlationID answer)
      (fun _ after => ∃ status, answer = .served status ∧
        after.find plural name = some ⟨plural, name, index, correlationID, status⟩ ∧
        Progress correlationID before
          (handed ++ (⟨plural, name, index, correlationID, status⟩ : Claim).identifier.toList) after)
      (fun failure after => LeftForLease correlationID before handed failure after ∧
        (failure.isAPI → ∀ status, answer ≠ .served status)) := by
  have added (status : ClaimStatus) (carried : status ∈ answer.carried) (mid : Store)
      (progress : Progress correlationID before handed mid) (free : mid.find plural name = none) :
      Progress correlationID before (handed ++ (⟨plural, name, index, correlationID, status⟩ : Claim).identifier.toList)
        (mid.addClaim ⟨plural, name, index, correlationID, status⟩) :=
    progress_more correlationID before mid _ handed _ progress (grown_claim correlationID mid _ rfl free)
      fun x member => .inr (served status carried x (Option.mem_toList.mp member))
  apply triple_read_bind
  intro mid progress
  cases answer with
  | refused statusCode bodyText =>
      intro s same
      subst same
      exact ⟨left_kept correlationID before handed _ s progress, fun _ status => by simp⟩
  | served status =>
      cases free : mid.find plural name with
      | some held =>
          intro s same
          subst same
          exact ⟨left_kept correlationID before handed _ s progress, fun api => absurd api (by simp [Failure.isAPI])⟩
      | none =>
          intro s same
          subst same
          exact ⟨status, rfl, by rw [add_claim_find s _ _ _ free, if_pos ⟨rfl, rfl⟩], added status rfl s progress free⟩
  | broken carriedOut =>
      cases carriedOut with
      | none =>
          intro s same
          subst same
          exact ⟨left_kept correlationID before handed _ s progress, fun _ status => by simp⟩
      | some status =>
          cases free : mid.find plural name with
          | some held =>
              intro s same
              subst same
              exact ⟨left_kept correlationID before handed _ s progress, fun _ status => by simp⟩
          | none =>
              intro s same
              subst same
              exact ⟨⟨⟨_, added status rfl s progress free⟩, fun api => absurd api (by simp [Failure.isAPI])⟩,
                fun _ status => by simp⟩

theorem wait_failure_none (answer : WaitAnswer) (name : String) : answer.failure name = none ↔ answer = .ready := by
  cases answer <;> simp [WaitAnswer.failure]

-- A wait that comes back comes back with the claim of that name.
theorem triple_wait (plural name : String) (answer : WaitAnswer) (claim : Claim) (left : Failure → Store → Prop)
    (out : ∀ failure ∈ answer.failure name, ∀ after, after.find plural name = some claim ∧
      Progress correlationID before handed after → left failure after) :
    Triple (fun after => after.find plural name = some claim ∧ Progress correlationID before handed after)
      (waitForClaim plural name answer)
      (fun found after => found = claim ∧ answer = .ready ∧ after.find plural name = some claim ∧
        Progress correlationID before handed after) left := by
  apply triple_read_bind
  intro mid entered s same
  subst same
  cases failed : answer.failure name with
  | some failure => exact out failure failed s entered
  | none =>
      simp only [entered.1]
      exact ⟨rfl, (wait_failure_none answer name).mp failed, entered⟩

theorem triple_claim_number (plural index what : String) (first last : Nat) (answers : NumberAnswers)
    (clean : CleanNumber before correlationID index first last answers) :
    Triple (Progress correlationID before handed) (claimNumber plural index what correlationID answers)
      (fun value after => Progress correlationID before (handed ++ [.number index value]) after)
      (fun failure after => LeftForLease correlationID before handed failure after ∧
        (failure.isAPI → ¬ answers.settled)) := by
  have served : ∀ status ∈ (answers.create.map ClaimStatus.id).carried, ∀ x,
      (⟨plural, answers.name, index, correlationID, status⟩ : Claim).identifier = some x →
        FreshFor correlationID before x := by
    intro status carried x stands
    cases answer : answers.create with
    | refused statusCode bodyText => simp [answer, Answer.map, Answer.carried] at carried
    | served value =>
        have same : ClaimStatus.id value = status := by simpa [answer, Answer.map, Answer.carried] using carried
        subst same
        cases value with
        | none => simp [Claim.identifier] at stands
        | some number =>
            cases stands
            exact clean.served (some number) (by simp [answer, Answer.carried]) number rfl
    | broken carriedOut =>
        cases carriedOut with
        | none => simp [answer, Answer.map, Answer.carried] at carried
        | some value =>
            have same : ClaimStatus.id value = status := by simpa [answer, Answer.map, Answer.carried] using carried
            subst same
            cases value with
            | none => simp [Claim.identifier] at stands
            | some number =>
                cases stands
                exact clean.served (some number) (by simp [answer, Answer.carried]) number rfl
  have created : Triple (Progress correlationID before handed)
      (createClaim plural index answers.name correlationID (answers.create.map ClaimStatus.id)) _
      (fun failure after => LeftForLease correlationID before handed failure after ∧
        (failure.isAPI → ¬ answers.settled)) :=
    triple_weaken _ _ _ _ _ _ _
      (triple_create_claim correlationID before handed plural index answers.name _ served) (fun _ progress => progress)
      (fun _ _ entered => entered) fun failure after left => ⟨left.1, fun api settled => by
        have refused := left.2 api
        cases asked : answers.create with
        | served value => exact refused (.id value) (by rw [asked]; rfl)
        | refused statusCode bodyText => simp [NumberAnswers.settled, asked] at settled
        | broken carriedOut => simp [NumberAnswers.settled, asked] at settled⟩
  refine triple_bind _ _ _ _ _ _ created fun _ => ?_
  intro s entered
  obtain ⟨status, answered, found, progress⟩ := entered
  obtain ⟨value, asked, rfl⟩ : ∃ value, answers.create = .served value ∧ ClaimStatus.id value = status := by
    cases answer : answers.create with
    | served value => exact ⟨value, rfl, by simpa [answer, Answer.map] using answered⟩
    | refused statusCode bodyText => simp [answer, Answer.map] at answered
    | broken carriedOut => simp [answer, Answer.map] at answered
  refine triple_bind _ _ _ _ _ _ (triple_wait correlationID before _ plural answers.name answers.wait
    ⟨plural, answers.name, index, correlationID, .id value⟩
    (fun failure after => LeftForLease correlationID before handed failure after ∧
      (failure.isAPI → ¬ answers.settled)) ?_)
    (fun claim => ?_) s ⟨found, progress⟩
  · intro failure failed after entered
    have notReady : answers.wait ≠ .ready := by
      intro ready
      rw [ready] at failed
      cases failed
    refine ⟨⟨⟨_, entered.2⟩, fun api => ?_⟩, fun _ settled => ?_⟩
    · cases value with
      | none => simpa [Claim.identifier] using entered.2
      | some number =>
          exact absurd api (clean.kept (some number) (by simp [asked, Answer.carried]) rfl failure failed)
    · cases waited : answers.wait with
      | ready => exact notReady waited
      | refused statusCode bodyText => simp [NumberAnswers.settled, asked, waited] at settled
      | timeout => simp [NumberAnswers.settled, asked, waited] at settled
      | broken => simp [NumberAnswers.settled, asked, waited] at settled
  · intro after entered
    obtain ⟨same, _, _, progress⟩ := entered
    subst same
    cases value with
    | none =>
        exact ⟨left_kept correlationID before handed _ after (by simpa [Claim.identifier] using progress),
          fun _ settled => by simp [NumberAnswers.settled, asked] at settled⟩
    | some number =>
        have handedOut : Progress correlationID before (handed ++ [.number index number]) after := by
          simpa [Claim.identifier] using progress
        exact handedOut

-- The values a walk is over are no other's, so the lease it ends with hands out a free one.
theorem triple_create_free_lease (kind index : String) (answer : Int → Answer Unit) (free : List Int)
    (fresh : ∀ value ∈ free, FreshFor correlationID before (.number (labelValue index) value)) :
    Triple (Progress correlationID before handed) (createFreeLease kind index correlationID answer free)
      (fun result after => Progress correlationID before
        (handed ++ (result.map (Identifier.number (labelValue index))).toList) after)
      (Left correlationID before) := by
  induction free with
  | nil =>
      intro s progress
      have same : Progress correlationID before (handed ++ []) s := by simpa using progress
      exact same
  | cons value rest ih =>
      have later := ih fun other member => fresh other (List.mem_cons_of_mem value member)
      have added (mid : Store) (progress : Progress correlationID before handed mid) :
          Progress correlationID before (handed ++ [.number (labelValue index) value])
            (mid.addLease (fallbackLease kind index value correlationID)) :=
        progress_more correlationID before mid _ handed _ progress
          (grown_lease correlationID mid (fallbackLease kind index value correlationID) rfl)
          fun x member => .inr (by
            have same : x = .number (labelValue index) value := by simpa using member
            rw [same]
            exact fresh value List.mem_cons_self)
      apply triple_read_bind
      intro mid progress
      cases answer value with
      | served _ =>
          apply triple_ite
          · intro _ s same
            subst same
            exact later s progress
          · intro _ s same
            subst same
            exact added s progress
      | refused statusCode bodyText =>
          apply triple_ite
          · intro _ s same
            subst same
            exact later s progress
          · intro _ s same
            subst same
            exact ⟨handed, progress⟩
      | broken carriedOut =>
          cases carriedOut with
          | none =>
              intro s same
              subst same
              exact ⟨handed, progress⟩
          | some _ =>
              apply triple_ite
              · intro _ s same
                subst same
                exact ⟨handed, progress⟩
              · intro _ s same
                subst same
                exact ⟨_, added s progress⟩

theorem mem_values (first last : Nat) (value : Int) (member : value ∈ values first last) :
    (first : Int) ≤ value ∧ value ≤ last := by
  obtain ⟨step, bound, same⟩ := List.mem_map.mp member
  have below := List.mem_range.mp bound
  omega

theorem used_ids_mono (first later : List Lease) (index : String) (kept : ∀ lease ∈ first, lease ∈ later) (value : Int)
    (used : value ∈ usedIDs first index) : value ∈ usedIDs later index := by
  obtain ⟨lease, member, allocated⟩ := List.mem_filterMap.mp used
  obtain ⟨old, pooled⟩ := List.mem_filter.mp member
  exact List.mem_filterMap.mpr ⟨lease, List.mem_filter.mpr ⟨kept lease old, pooled⟩, allocated⟩

-- A value the leases show as free is held by no other.
theorem free_value_fresh (index : String) (first last : Nat) (labelled : labelValue index = index)
    (shown : LeasesShow before correlationID index first last) (mid : Store)
    (grown : Grown correlationID before handed mid) (value : Int) (inRange : value ∈ values first last)
    (free : value ∉ usedIDs mid.leases index) : FreshFor correlationID before (.number (labelValue index) value) := by
  have notBefore : value ∉ usedIDs before.leases index :=
    fun used => free (used_ids_mono before.leases mid.leases index grown.leases value used)
  have bounds := mem_values first last value inRange
  intro other different held
  cases (held_under_iff before other _).mp held with
  | inl claimed =>
      obtain ⟨claim, member, owner, stands⟩ := claimed
      have number : value ∈ claim.numberOf index := by
        cases status : claim.status with
        | id stored =>
            simp only [Claim.identifier, status, Option.map_eq_some_iff, Identifier.number.injEq] at stands
            obtain ⟨number, isStored, sameIndex, sameValue⟩ := stands
            simp [Claim.numberOf, status, sameIndex.trans labelled, isStored, sameValue]
        | pfx text =>
            simp only [Claim.identifier, status] at stands
            split at stands <;> cases stands
      exact notBefore (shown claim member (owner ▸ different) value number bounds.1 bounds.2)
  | inr leased =>
      obtain ⟨lease, member, _, stands⟩ := leased
      simp only [Lease.identifier, Option.map_eq_some_iff, Identifier.number.injEq] at stands
      obtain ⟨number, allocated, pooled, sameValue⟩ := stands
      exact notBefore (List.mem_filterMap.mpr ⟨lease, List.mem_filter.mpr ⟨member, by simpa using pooled⟩,
        allocated.trans (congrArg some sameValue)⟩)

theorem triple_list_leases (answer : Answer Unit) :
    Triple (Progress correlationID before handed) (listLeases answer)
      (fun _ => Progress correlationID before handed) (Left correlationID before) := by
  cases answer with
  | served _ => exact fun s progress => progress
  | refused statusCode bodyText => exact fun s progress => ⟨handed, progress⟩
  | broken carriedOut => exact fun s progress => ⟨handed, progress⟩

theorem triple_fallback_rounds (kind index : String) (first last : Nat) (answers : LeaseAnswers) (rounds : List Nat)
    (labelled : labelValue index = index) (shown : LeasesShow before correlationID index first last) :
    Triple (Progress correlationID before handed)
      (fallbackRounds kind index correlationID first last answers rounds)
      (fun value after => Progress correlationID before (handed ++ [.number index value]) after)
      (Left correlationID before) := by
  induction rounds with
  | nil => exact fun s progress => ⟨handed, progress⟩
  | cons round later ih =>
      refine triple_bind _ _ _ _ _ _ (triple_list_leases correlationID before handed (answers.list round)) fun _ => ?_
      apply triple_read_bind
      intro mid progress s same
      have walk := triple_create_free_lease correlationID before handed kind index (answers.create round)
        ((values first last).filter fun value => value ∉ usedIDs mid.leases index) (by
          intro value member
          obtain ⟨inRange, free⟩ := List.mem_filter.mp member
          exact free_value_fresh correlationID before handed index first last labelled shown mid progress.grown value
            inRange (by simpa using free))
      refine triple_bind _ _ _ _ _ _ walk (fun result => ?_) s (by rw [same]; exact progress)
      cases result with
      | none =>
          intro after entered
          have idle : Progress correlationID before handed after := by simpa using entered
          exact ih after idle
      | some value =>
          intro after entered
          have leased : Progress correlationID before (handed ++ [.number index value]) after := by
            simpa [labelled] using entered
          exact leased

theorem triple_with_lease_fallback (fallback : Bool) (what index : String) (first last : Nat) (answers : LeaseAnswers)
    (allocate : Client Int) (labelled : labelValue index = index) (settled : Bool)
    (shown : ¬ settled → LeasesShow before correlationID index first last)
    (asked : Triple (Progress correlationID before handed) allocate
      (fun value after => Progress correlationID before (handed ++ [.number index value]) after)
      (fun failure after => LeftForLease correlationID before handed failure after ∧ (failure.isAPI → ¬ settled))) :
    Triple (Progress correlationID before handed)
      (withLeaseFallback fallback what index first last correlationID answers allocate)
      (fun value after => Progress correlationID before (handed ++ [.number index value]) after)
      (Left correlationID before) := by
  intro s progress
  have reached := asked s progress
  unfold withLeaseFallback
  cases outcome : allocate s with
  | mk mid result =>
      rw [outcome] at reached
      cases result with
      | ok value => exact reached
      | error failure =>
          cases failure with
          | api text =>
              by_cases enabled : fallback
              · simp only [enabled, if_true]
                exact triple_fallback_rounds correlationID before handed what index first last answers [0, 1, 2, 3]
                  labelled (shown (reached.2 rfl)) mid (reached.1.2 rfl)
              · simp only [enabled]
                exact reached.1.1
          | collision text => exact reached.1.1
          | exhaustion text => exact reached.1.1
          | transport => exact reached.1.1
          | value text => exact reached.1.1
          | invalid => exact reached.1.1

theorem triple_allocate_number (fallback : Bool) (what plural index : String) (first last : Nat)
    (answers : NumberAnswers) (labelled : labelValue index = index)
    (clean : CleanNumber before correlationID index first last answers) :
    Triple (Progress correlationID before handed)
      (withLeaseFallback fallback what index first last correlationID answers.lease
        (claimNumber plural index what correlationID answers))
      (fun value after => Progress correlationID before (handed ++ [.number index value]) after)
      (Left correlationID before) :=
  triple_with_lease_fallback correlationID before handed fallback what index first last answers.lease _ labelled
    answers.settled clean.shown
    (triple_claim_number correlationID before handed plural index what first last answers clean)

-- An object of the call's own correlation id may be handed out once more.
theorem progress_reuse (mid : Store) (x : Identifier) (progress : Progress correlationID before handed mid)
    (held : x ∈ heldUnder mid correlationID) : Progress correlationID before (handed ++ [x]) mid where
  grown := {
    others := progress.grown.others
    own := fun y => by
      rw [progress.grown.own, List.mem_append, List.mem_singleton, ← or_assoc]
      constructor
      · exact .inl
      · intro either
        cases either with
        | inl early => exact early
        | inr same => exact (progress.grown.own y).mp (same ▸ held)
    leases := progress.grown.leases
    found := progress.grown.found
    unique := progress.grown.unique }
  fresh y member := by
    cases List.mem_append.mp member with
    | inl early => exact progress.fresh y early
    | inr late =>
        rw [List.mem_singleton.mp late]
        cases (progress.grown.own x).mp held with
        | inl before => exact .inl before
        | inr early => exact progress.fresh x early

theorem triple_create_prefix_claim (name : String) (answers : PrefixAnswers)
    (clean : CleanPrefix before correlationID answers) :
    Triple (Progress correlationID before handed) (createPrefixClaim name correlationID answers)
      (fun _ after => ∃ claim, after.find "ipclaims" name = some claim ∧
        Progress correlationID before (handed ++ claim.identifier.toList) after)
      (Left correlationID before) := by
  have served : ∀ status ∈ (answers.create.map ClaimStatus.pfx).carried, ∀ x,
      (⟨"ipclaims", name, clientV4Pool, correlationID, status⟩ : Claim).identifier = some x →
        FreshFor correlationID before x := by
    intro status carried x stands
    have text : ∃ text ∈ answers.create.carried, ClaimStatus.pfx text = status := by
      cases asked : answers.create with
      | refused statusCode bodyText => simp [asked, Answer.map, Answer.carried] at carried
      | served text => exact ⟨text, rfl, by simpa [asked, Answer.map, Answer.carried] using carried⟩
      | broken carriedOut =>
          obtain ⟨text, kept, same⟩ : ∃ text, carriedOut = some text ∧ ClaimStatus.pfx text = status := by
            simpa [asked, Answer.map, Answer.carried] using carried
          exact ⟨text, by simp [Answer.carried, kept], same⟩
    obtain ⟨text, carriedText, same⟩ := text
    subst same
    simp only [Claim.identifier] at stands
    split at stands
    · cases stands
    · cases stands
      exact clean.served text carriedText
  refine triple_weaken _ _ _ _ _ _ _
    (triple_create_claim correlationID before handed "ipclaims" clientV4Pool name _ served) (fun _ progress => progress)
    ?_ fun _ _ left => left.1.1
  intro _ after entered
  obtain ⟨status, _, found, progress⟩ := entered
  exact ⟨_, found, progress⟩

theorem triple_ensure_prefix_claim (name : String) (answers : PrefixAnswers)
    (clean : CleanPrefix before correlationID answers) :
    Triple (Progress correlationID before handed) (ensurePrefixClaim name correlationID answers)
      (fun _ after => ∃ claim, after.find "ipclaims" name = some claim ∧
        Progress correlationID before (handed ++ claim.identifier.toList) after)
      (Left correlationID before) := by
  have create := triple_create_prefix_claim correlationID before handed name answers clean
  apply triple_read_bind
  intro mid progress
  cases answers.get with
  | served _ =>
      cases found : mid.find "ipclaims" name with
      | none =>
          intro s same
          exact create s (by rw [same]; exact progress)
      | some claim =>
          apply triple_ite
          · intro owner s same
            subst same
            refine ⟨claim, found, ?_⟩
            cases stands : claim.identifier with
            | none => simpa using progress
            | some x =>
                have member := (find_some s "ipclaims" name claim found).1
                exact progress_reuse correlationID before handed s x progress
                  ((held_under_iff s correlationID x).mpr (.inl ⟨claim, member, owner, stands⟩))
          · intro _ s same
            subst same
            exact ⟨handed, progress⟩
  | refused statusCode bodyText =>
      apply triple_ite
      · intro _ s same
        exact create s (by rw [same]; exact progress)
      · intro _ s same
        subst same
        exact ⟨handed, progress⟩
  | broken carriedOut =>
      intro s same
      subst same
      exact ⟨handed, progress⟩

theorem triple_allocate_client_prefix (attachment : String) (answers : PrefixAnswers)
    (clean : CleanPrefix before correlationID answers) :
    Triple (Progress correlationID before handed) (allocateClientPrefix correlationID attachment answers)
      (fun text after => ∃ claim,
        after.find "ipclaims" (claimName clientV4Pool correlationID [attachment]) = some claim ∧
        claim.identifier = some (.subnet text) ∧ Progress correlationID before (handed ++ [.subnet text]) after)
      (Left correlationID before) := by
  refine triple_bind _ _ _ _ _ _ (triple_ensure_prefix_claim correlationID before handed _ answers clean) fun _ => ?_
  intro s entered
  obtain ⟨claim, found, progress⟩ := entered
  refine triple_bind _ _ _ _ _ _ (triple_wait correlationID before _ "ipclaims" _ answers.wait claim
    (Left correlationID before) fun _ _ _ entered => ⟨_, entered.2⟩) (fun final => ?_) s ⟨found, progress⟩
  intro after entered
  obtain ⟨same, _, found, progress⟩ := entered
  subst same
  unfold claimPrefix
  cases status : final.status with
  | id value => exact ⟨_, progress⟩
  | pfx text =>
      by_cases empty : text = ""
      · simp only [if_pos empty]
        exact ⟨_, progress⟩
      · have stands : final.identifier = some (.subnet text) := by simp [Claim.identifier, status, empty]
        simp only [if_neg empty]
        exact ⟨final, found, stands, by simpa [stands] using progress⟩

end Specs

end AgenticNetops.Provisioning
