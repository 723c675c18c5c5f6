import AgenticNetops.Lib.Fallible
import AgenticNetops.Deployer.Submit

set_option autoImplicit false

/- What a failed transaction leaves on the cluster. -/
namespace AgenticNetops.Deployer

open GoText JsonValue Exits Fallible

section Stamped
variable (context : DeploymentContext) (timestamp : String)

theorem without_all_field (keys : List String) (value : Json) (key : String) (kept : key ∉ keys) :
    (keys.foldl Json.without value).field? key = value.field? key := by
  induction keys generalizing value with
  | nil => rfl
  | cons removed rest ih =>
      have other : key ≠ removed := fun same => kept (same ▸ List.mem_cons_self)
      rw [List.foldl_cons, ih (value.without removed) fun member => kept (List.mem_cons_of_mem _ member),
        field_without_other value removed key other]

theorem stamp_metadata_name (metadata : Json) : (stampMetadata context timestamp metadata).field? "name" = metadata.field? "name" := by
  rw [stampMetadata, field_with_other _ _ _ _ (by decide), field_with_other _ _ _ _ (by decide),
    without_all_field serverFields _ "name" (by decide), field_with_other _ _ _ _ (by decide)]

theorem stamp_metadata_label (metadata : Json) :
    ((stampMetadata context timestamp metadata).field "labels").field? correlationLabel = some (.str context.correlationID) := by
  rw [stampMetadata, Json.field, field_with_other _ _ _ _ (by decide), field_with_same, Option.getD_some,
    field_with_other _ _ _ _ (by decide), field_with_same]

theorem stamp_manifest (seen : List Ref) (raw manifest : Json)
    (stamped : stampManifest context timestamp seen raw = .ok manifest) :
    refOf manifest ∉ seen ∧ correlationOf manifest = some context.correlationID := by
  simp only [stampManifest, guard_ok] at stamped
  obtain ⟨_, _, _, _, _, fresh, _, written⟩ := stamped
  cases written
  have metadata : metadataOf (raw.with "metadata" (stampMetadata context timestamp (metadataOf raw))) =
      stampMetadata context timestamp (metadataOf raw) := by
    rw [metadataOf, Json.field, field_with_same, Option.getD_some]
  constructor
  · have same : refOf (raw.with "metadata" (stampMetadata context timestamp (metadataOf raw))) = refOf raw := by
      rw [refOf, refOf, nameOf, nameOf, metadata, Json.field, field_with_other _ _ _ _ (by decide), Json.field,
        stamp_metadata_name, Json.field, Json.field]
    rw [same]
    exact fresh
  · rw [correlationOf, metadata, stamp_metadata_label]
    rfl

-- The manifests of a bundle name distinct objects and carry the transaction's label.
structure Stamped (manifests : List Json) : Prop where
  distinct : (manifests.map refOf).Nodup
  labelled : ∀ manifest ∈ manifests, correlationOf manifest = some context.correlationID

theorem stamp_all (prepared raws manifests : List Json) (before : Stamped context prepared)
    (stamped : stampAll context timestamp prepared raws = .ok manifests) : Stamped context manifests := by
  induction raws generalizing prepared with
  | nil =>
      cases stamped
      exact before
  | cons raw rest ih =>
      obtain ⟨manifest, first, stamped⟩ := bind_ok _ _ _ stamped
      obtain ⟨fresh, labelled⟩ := stamp_manifest context timestamp _ raw manifest first
      have next : Stamped context (prepared ++ [manifest]) := by
        constructor
        · rw [List.map_append, List.map_singleton]
          exact List.nodup_append.mpr ⟨before.distinct, List.nodup_singleton _, by
            intro ref member other single same
            rw [List.mem_singleton.mp single] at same
            exact fresh (same ▸ member)⟩
        · intro other member
          cases List.mem_append.mp member with
          | inl earlier => exact before.labelled other earlier
          | inr last =>
              rw [List.mem_singleton.mp last]
              exact labelled
      exact ih (prepared ++ [manifest]) next stamped

theorem stamped_order (manifests : List Json) (stamped : Stamped context manifests) :
    Stamped context (deterministicApplyOrder manifests) := by
  have perm : (deterministicApplyOrder manifests).Perm manifests := List.perm_insertionSort _ _
  exact ⟨((perm.map refOf).nodup_iff).mpr stamped.distinct, fun manifest member => stamped.labelled manifest (perm.mem_iff.mp member)⟩

theorem validate_and_stamp (raws manifests : List Json)
    (valid : validateAndStampManifests context timestamp raws = .ok manifests) : Stamped context manifests := by
  obtain ⟨_, _, valid⟩ := bind_ok _ _ _ valid
  obtain ⟨prepared, stamped, valid⟩ := bind_ok _ _ _ valid
  rw [guard_ok] at valid
  cases valid.2
  exact stamped_order context prepared
    (stamp_all context timestamp [] raws prepared ⟨List.nodup_nil, by simp⟩ stamped)

theorem checked_stamped (answers : Answers) (translated : Except TransactionError (List Json)) (cluster : Cluster)
    (manifests : List Json) (passed : checked answers context timestamp translated cluster = .ok manifests) :
    Stamped context manifests := by
  obtain ⟨_, _, passed⟩ := bind_ok _ _ _ passed
  obtain ⟨raws, _, passed⟩ := bind_ok _ _ _ passed
  obtain ⟨prepared, valid, passed⟩ := bind_ok _ _ _ passed
  obtain ⟨_, _, passed⟩ := bind_ok _ _ _ passed
  obtain ⟨_, _, passed⟩ := bind_ok _ _ _ passed
  obtain ⟨_, _, passed⟩ := bind_ok _ _ _ passed
  cases passed
  exact validate_and_stamp context timestamp raws _ valid

end Stamped

section Writes
variable (api : ServerSideApply) (answers : Answers)

def writes (cluster : Cluster) (manifests : List Json) : Cluster :=
  manifests.foldl (fun cluster manifest => cluster.write api manifest) cluster

-- Each manifest is merged into what the cluster held before all of them.
theorem mem_writes (cluster : Cluster) (manifests : List Json) (distinct : (manifests.map refOf).Nodup) (object : Json) :
    object ∈ (writes api cluster manifests).objects ↔
      (object ∈ cluster.objects ∧ refOf object ∉ manifests.map refOf) ∨
        ∃ manifest ∈ manifests, object = api.merged (cluster.get (refOf manifest)) manifest := by
  induction manifests generalizing cluster with
  | nil => simp [writes]
  | cons manifest rest ih =>
      obtain ⟨fresh, distinct⟩ := List.nodup_cons.mp distinct
      have later : ∀ other ∈ rest, (cluster.write api manifest).get (refOf other) = cluster.get (refOf other) := by
        intro other member
        have differ : refOf other ≠ refOf manifest := fun same => fresh (List.mem_map.mpr ⟨other, member, same⟩)
        exact get_write_other cluster api manifest (refOf other) differ
      have unfolded : writes api cluster (manifest :: rest) = writes api (cluster.write api manifest) rest := rfl
      rw [unfolded, ih (cluster.write api manifest) distinct, mem_write, List.map_cons]
      constructor
      · intro either
        cases either with
        | inl untouched =>
            cases untouched.1 with
            | inl kept => exact .inl ⟨kept.1, by simp [kept.2, untouched.2]⟩
            | inr stored => exact .inr ⟨manifest, List.mem_cons_self, stored⟩
        | inr written =>
            obtain ⟨other, member, stored⟩ := written
            rw [later other member] at stored
            exact .inr ⟨other, List.mem_cons_of_mem _ member, stored⟩
      · intro either
        cases either with
        | inl kept =>
            have first : refOf object ≠ refOf manifest := fun same => kept.2 (List.mem_cons.mpr (.inl same))
            exact .inl ⟨.inl ⟨kept.1, first⟩, fun member => kept.2 (List.mem_cons_of_mem _ member)⟩
        | inr written =>
            obtain ⟨other, member, stored⟩ := written
            cases List.mem_cons.mp member with
            | inl here =>
                rw [here] at stored
                have named : refOf object = refOf manifest := by rw [stored, api.ref_kept]
                exact .inl ⟨.inr stored, named ▸ fresh⟩
            | inr there => exact .inr ⟨other, there, by rw [later other there, stored]⟩

def ApplyAnswer.landed : ApplyAnswer → Bool
  | .ok => true
  | .failed _ landed => landed

def appliedBefore (manifests : List Json) : List Json :=
  manifests.takeWhile fun manifest => answers.apply (refOf manifest) = .ok

-- The manifest of the failing apply, if its write landed all the same.
def ambiguous (manifests : List Json) : Option Json :=
  (manifests.find? fun manifest => answers.apply (refOf manifest) ≠ .ok).filter fun manifest =>
    (answers.apply (refOf manifest)).landed

def written (manifests : List Json) : List Json := appliedBefore answers manifests ++ (ambiguous answers manifests).toList

theorem written_applied (manifest : Json) (rest : List Json) (answer : answers.apply (refOf manifest) = .ok) :
    written answers (manifest :: rest) = manifest :: written answers rest := by
  simp [written, appliedBefore, ambiguous, answer]

theorem written_failed (manifest : Json) (rest : List Json) (message : Message) (landed : Bool)
    (answer : answers.apply (refOf manifest) = .failed message landed) :
    written answers (manifest :: rest) = if landed then [manifest] else [] := by
  cases landed with
  | true => simp [written, appliedBefore, ambiguous, answer, ApplyAnswer.landed]
  | false => simp [written, appliedBefore, ambiguous, answer, ApplyAnswer.landed]

theorem written_sublist (manifests : List Json) : List.Sublist (written answers manifests) manifests := by
  induction manifests with
  | nil => exact List.Sublist.slnil
  | cons manifest rest ih =>
      cases answer : answers.apply (refOf manifest) with
      | ok =>
          rw [written_applied answers manifest rest answer]
          exact ih.cons_cons manifest
      | failed message landed =>
          rw [written_failed answers manifest rest message landed answer]
          cases landed with
          | true => exact (List.nil_sublist rest).cons_cons manifest
          | false => exact List.nil_sublist _

-- A bundle that fails is written up to the failing apply, and then abandoned.
theorem apply_each_failed (correlationID : String) (submitted : List Ref) (manifests : List Json) (cluster after : Cluster)
    (err : TransactionError) (failed : applyEach api answers correlationID submitted manifests cluster = (after, .error err)) :
    ∃ manifest message, abandon answers correlationID (submitted ++ (appliedBefore answers manifests).map refOf) manifest message
      (writes api cluster (written answers manifests)) = (after, .error err) := by
  induction manifests generalizing submitted cluster with
  | nil => cases failed
  | cons manifest rest ih =>
      cases answer : answers.apply (refOf manifest) with
      | ok =>
          have next : applyEach api answers correlationID (submitted ++ [refOf manifest]) rest (cluster.write api manifest) =
              (after, .error err) := by simpa [applyEach, answer] using failed
          obtain ⟨failing, message, abandoned⟩ := ih _ _ next
          rw [written_applied answers manifest rest answer]
          exact ⟨failing, message, by simpa [appliedBefore, answer, writes] using abandoned⟩
      | failed message landed =>
          rw [written_failed answers manifest rest message landed answer]
          refine ⟨manifest, message, ?_⟩
          cases landed with
          | true => simpa [applyEach, appliedBefore, answer, writes] using failed
          | false => simpa [applyEach, appliedBefore, answer, writes] using failed

end Writes

section Rollback
variable (answers : Answers)

theorem mem_delete_all (refs : List Ref) (cluster : Cluster) :
    ∃ after, deleteAll answers refs cluster = (after, .ok ()) ∧ ∀ object, object ∈ after.objects ↔
      object ∈ cluster.objects ∧ ¬ (refOf object ∈ refs ∧ (answers.delete (refOf object)).removes) := by
  induction refs generalizing cluster with
  | nil => exact ⟨cluster, rfl, by simp⟩
  | cons ref rest ih =>
      obtain ⟨after, ran, members⟩ := ih (if (answers.delete ref).removes then cluster.delete ref else cluster)
      refine ⟨after, by simpa [deleteAll] using ran, ?_⟩
      intro object
      rw [members object]
      by_cases removes : (answers.delete ref).removes
      · rw [if_pos removes, mem_delete]
        by_cases named : refOf object = ref
        · simp [named, removes]
        · simp [named]
      · rw [if_neg removes]
        by_cases named : refOf object = ref
        · simp [named, removes]
        · simp [named]

-- The rollback's listing came, and the deletion of the object was carried out.
def Erased (ref : Ref) : Prop := answers.listByCorrelation = none ∧ (answers.delete ref).removes

instance (ref : Ref) : Decidable (Erased answers ref) := inferInstanceAs (Decidable (_ ∧ _))

structure Abandoned (correlationID : String) (submitted : List Ref) (cluster after : Cluster) (survivors : List Ref) : Prop where
  objects : ∀ object, object ∈ after.objects ↔
    object ∈ cluster.objects ∧ ¬ (correlationOf object = some correlationID ∧ Erased answers (refOf object))
  unlisted : answers.listByCorrelation ≠ none → survivors = submitted
  listed : answers.listByCorrelation = none → ∀ ref, ref ∈ survivors ↔
    (∃ object ∈ cluster.objects, correlationOf object = some correlationID ∧ refOf object = ref) ∧ answers.delete ref ≠ .deleted

theorem abandon_ends (correlationID : String) (submitted : List Ref) (manifest : Json) (message : Message)
    (cluster after : Cluster) (err : TransactionError)
    (ended : abandon answers correlationID submitted manifest message cluster = (after, .error err)) :
    Abandoned answers correlationID submitted cluster after err.survivors := by
  cases listing : answers.listByCorrelation with
  | some problem =>
      simp only [abandon, rollbackBySelector, listing, leave_run] at ended
      cases ended
      constructor
      · intro object
        simp [Erased, listing]
      · intro _
        rfl
      · intro none
        rw [listing] at none
        cases none
  | none =>
      obtain ⟨deleted, ran, members⟩ := mem_delete_all answers (rollbackOrder (cluster.labelled correlationID)) cluster
      have order : ∀ ref, ref ∈ rollbackOrder (cluster.labelled correlationID) ↔
          ∃ object ∈ cluster.objects, correlationOf object = some correlationID ∧ refOf object = ref := by
        intro ref
        rw [rollbackOrder, (List.perm_insertionSort _ _).mem_iff, List.mem_map]
        simp [Cluster.labelled, and_assoc]
      simp only [abandon, rollbackBySelector, listing, bind_run, read_run, ran, pure_run] at ended
      cases ended
      constructor
      · intro object
        rw [members object, order]
        have same : object ∈ cluster.objects → ((∃ other ∈ cluster.objects, correlationOf other = some correlationID ∧
            refOf other = refOf object) ↔ correlationOf object = some correlationID) := by
          intro member
          constructor
          · intro parts
            obtain ⟨other, other_member, labelled, named⟩ := parts
            exact List.inj_on_of_nodup_map cluster.unique other_member member named ▸ labelled
          · intro labelled
            exact ⟨object, member, labelled, rfl⟩
        constructor
        · intro parts
          obtain ⟨member, kept⟩ := parts
          exact ⟨member, fun ⟨labelled, erased⟩ => kept ⟨(same member).mpr labelled, erased.2⟩⟩
        · intro parts
          obtain ⟨member, kept⟩ := parts
          exact ⟨member, fun ⟨found, removes⟩ => kept ⟨(same member).mp found, listing, removes⟩⟩
      · intro some
        exact absurd listing some
      · intro _ ref
        rw [← order]
        simp

end Rollback

section Outcome
variable (api : ServerSideApply) (answers : Answers) (context : DeploymentContext)

-- What was there is there unchanged; what is new is named as a survivor.
structure AllOrNothing (before after : Cluster) (survivors : List Ref) : Prop where
  kept : ∀ object ∈ before.objects, object ∈ after.objects
  accounted : ∀ object ∈ after.objects, refOf object ∉ before.refs → refOf object ∈ survivors

instance (before after : Cluster) (survivors : List Ref) : Decidable (AllOrNothing before after survivors) :=
  decidable_of_iff ((∀ object ∈ before.objects, object ∈ after.objects) ∧
      ∀ object ∈ after.objects, refOf object ∉ before.refs → refOf object ∈ survivors)
    ⟨fun both => ⟨both.1, both.2⟩, fun whole => ⟨whole.kept, whole.accounted⟩⟩

/- A failing bundle that does no harm: each write to an object stores what was there, no
   object that was there and carries the label is erased, and the write of a failed apply
   is not left unnamed by a listing that fails. -/
structure Harmless (before : Cluster) (manifests : List Json) : Prop where
  rewritten : ∀ object ∈ before.objects, ∀ manifest ∈ written answers manifests, refOf manifest = refOf object →
    api.merged (some object) manifest = object
  spared : ∀ object ∈ before.labelled context.correlationID, ¬ Erased answers (refOf object)
  found : answers.listByCorrelation ≠ none → ∀ manifest ∈ ambiguous answers manifests, refOf manifest ∈ before.refs

variable (before : Cluster) (manifests : List Json)

theorem written_manifest_cases (manifest : Json) (member : manifest ∈ written answers manifests) :
    manifest ∈ appliedBefore answers manifests ∨ manifest ∈ ambiguous answers manifests := by
  cases List.mem_append.mp member with
  | inl applied => exact .inl applied
  | inr last => exact .inr (Option.mem_toList.mp last)

variable (stamped : Stamped context manifests)
include stamped

theorem written_distinct : ((written answers manifests).map refOf).Nodup :=
  ((written_sublist answers manifests).map refOf).nodup stamped.distinct

theorem ambiguous_not_applied (manifest : Json) (last : manifest ∈ ambiguous answers manifests) :
    refOf manifest ∉ (appliedBefore answers manifests).map refOf := by
  intro member
  have distinct := written_distinct answers context manifests stamped
  rw [written, List.map_append, List.nodup_append] at distinct
  exact distinct.2.2 (refOf manifest) member (refOf manifest)
    (List.mem_map.mpr ⟨manifest, Option.mem_toList.mpr last, rfl⟩) rfl

theorem written_object (object manifest : Json) (held : object ∈ before.objects) (member : manifest ∈ written answers manifests)
    (named : refOf manifest = refOf object) :
    object ∈ (writes api before (written answers manifests)).objects ↔ api.merged (some object) manifest = object := by
  have found : before.get (refOf manifest) = some object := (get_eq_some_iff before object _).mpr ⟨held, named.symm⟩
  have distinct := written_distinct answers context manifests stamped
  rw [mem_writes api before _ distinct]
  constructor
  · intro either
    cases either with
    | inl untouched => exact absurd (List.mem_map.mpr ⟨manifest, member, named⟩) untouched.2
    | inr stored =>
        obtain ⟨other, other_member, same⟩ := stored
        have other_named : refOf other = refOf manifest := by rw [named, same, api.ref_kept]
        have one : other = manifest := List.inj_on_of_nodup_map distinct other_member member other_named
        rw [one, found] at same
        exact same.symm
  · intro same
    exact .inr ⟨manifest, member, by rw [found, same]⟩

theorem abandoned_all_or_nothing_iff (after : Cluster) (survivors : List Ref)
    (abandoned : Abandoned answers context.correlationID ((appliedBefore answers manifests).map refOf)
      (writes api before (written answers manifests)) after survivors) :
    AllOrNothing before after survivors ↔ Harmless api answers context before manifests := by
  have distinct := written_distinct answers context manifests stamped
  constructor
  · intro whole
    have stays : ∀ object ∈ before.objects, object ∈ (writes api before (written answers manifests)).objects ∧
        ¬ (correlationOf object = some context.correlationID ∧ Erased answers (refOf object)) :=
      fun object held => (abandoned.objects object).mp (whole.kept object held)
    constructor
    · intro object held manifest member named
      exact (written_object api answers context before manifests stamped object manifest held member named).mp
        (stays object held).1
    · intro object labelled erased
      obtain ⟨held, label⟩ := List.mem_filter.mp labelled
      exact (stays object held).2 ⟨of_decide_eq_true label, erased⟩
    · intro unlisted manifest last
      by_contra created
      have member : manifest ∈ written answers manifests := List.mem_append.mpr (.inr (Option.mem_toList.mpr last))
      let object := api.merged (before.get (refOf manifest)) manifest
      have named : refOf object = refOf manifest := api.ref_kept _ _
      have present : object ∈ after.objects := (abandoned.objects object).mpr
        ⟨(mem_writes api before _ distinct object).mpr (.inr ⟨manifest, member, rfl⟩), fun both => unlisted both.2.1⟩
      have survivor := whole.accounted object present (named ▸ created)
      rw [abandoned.unlisted unlisted, named] at survivor
      exact ambiguous_not_applied answers context manifests stamped manifest last survivor
  · intro harmless
    constructor
    · intro object held
      apply (abandoned.objects object).mpr
      constructor
      · by_cases touched : refOf object ∈ (written answers manifests).map refOf
        · obtain ⟨manifest, member, named⟩ := List.mem_map.mp touched
          exact (written_object api answers context before manifests stamped object manifest held member named).mpr
            (harmless.rewritten object held manifest member named)
        · exact (mem_writes api before _ distinct object).mpr (.inl ⟨held, touched⟩)
      · intro parts
        obtain ⟨label, erased⟩ := parts
        exact harmless.spared object (List.mem_filter.mpr ⟨held, decide_eq_true label⟩) erased
    · intro object present fresh
      obtain ⟨stored, kept⟩ := (abandoned.objects object).mp present
      cases (mem_writes api before _ distinct object).mp stored with
      | inl old => exact absurd (List.mem_map.mpr ⟨object, old.1, rfl⟩) fresh
      | inr merged =>
          obtain ⟨manifest, member, same⟩ := merged
          have named : refOf object = refOf manifest := by rw [same, api.ref_kept]
          have label : correlationOf object = some context.correlationID := by
            rw [same]
            exact api.label_set _ _ _ (stamped.labelled manifest ((written_sublist answers manifests).subset member))
          cases listing : answers.listByCorrelation with
          | none =>
              have standing : answers.delete (refOf object) ≠ .deleted :=
                fun deleted => kept ⟨label, listing, by rw [deleted]; rfl⟩
              exact (abandoned.listed listing _).mpr ⟨⟨object, stored, label, rfl⟩, standing⟩
          | some problem =>
              have unlisted : answers.listByCorrelation ≠ none := by simp [listing]
              rw [abandoned.unlisted unlisted, named]
              cases written_manifest_cases answers manifests manifest member with
              | inl applied => exact List.mem_map.mpr ⟨manifest, applied, rfl⟩
              | inr last => exact absurd (harmless.found unlisted manifest last) (named ▸ fresh)

end Outcome

theorem transaction_refused (api : ServerSideApply) (answers : Answers) (context : DeploymentContext) (timestamp : String)
    (translated : Except TransactionError (List Json)) (before : Cluster) (refusal : TransactionError)
    (refused : checked answers context timestamp translated before = .error refusal) :
    runDeploymentTransaction api answers context timestamp translated before = (before, .error refusal) := by
  simp only [runDeploymentTransaction, bind_run, read_run, refused, leave_run]

theorem transaction_applied (api : ServerSideApply) (answers : Answers) (context : DeploymentContext) (timestamp : String)
    (translated : Except TransactionError (List Json)) (before : Cluster) (prepared : List Json)
    (passed : checked answers context timestamp translated before = .ok prepared) :
    runDeploymentTransaction api answers context timestamp translated before =
      applyAll api answers context.correlationID prepared before := by
  simp only [runDeploymentTransaction, bind_run, read_run, passed]

/- The report of a failed transaction is right exactly if the bundle it went on to apply
   did no harm; one that was refused before the first apply changed nothing. -/
theorem transaction_all_or_nothing_iff (api : ServerSideApply) (answers : Answers) (context : DeploymentContext)
    (timestamp : String) (translated : Except TransactionError (List Json)) (before after : Cluster) (err : TransactionError)
    (failed : runDeploymentTransaction api answers context timestamp translated before = (after, .error err)) :
    AllOrNothing before after err.survivors ↔
      ∀ prepared, checked answers context timestamp translated before = .ok prepared →
        Harmless api answers context before (deterministicApplyOrder prepared) := by
  cases passed : checked answers context timestamp translated before with
  | error refusal =>
      rw [transaction_refused api answers context timestamp translated before refusal passed] at failed
      cases failed
      have untouched : AllOrNothing before before err.survivors :=
        ⟨fun _ member => member, fun object member fresh => absurd (List.mem_map.mpr ⟨object, member, rfl⟩) fresh⟩
      exact ⟨fun _ _ refused => (nomatch refused), fun _ => untouched⟩
  | ok prepared =>
      rw [transaction_applied api answers context timestamp translated before prepared passed] at failed
      have stamped := stamped_order context prepared (checked_stamped context timestamp answers translated before prepared passed)
      obtain ⟨manifest, message, abandoned⟩ := apply_each_failed api answers context.correlationID [] _ before after err failed
      have iff := abandoned_all_or_nothing_iff api answers context before _ stamped after err.survivors
        (abandon_ends answers context.correlationID _ manifest message _ after err abandoned)
      rw [iff]
      constructor
      · intro harmless other same
        cases same
        exact harmless
      · intro each
        exact each prepared rfl

section Resubmitted

def labContext : DeploymentContext := ⟨"0123456789abcdef0123456789abcdef", "bare-intent:svc-alpha", "compat-direct"⟩

def labNetwork (name : String) : Json :=
  .obj [("apiVersion", .str "network.kubenet.dev/v1alpha1"), ("kind", .str "Network"),
    ("metadata", .obj [("name", .str name)]), ("spec", .obj [])]

def labTransaction (answers : Answers) (names : List String) (before : Cluster) :
    Cluster × Except TransactionError (List Ref) :=
  runDeploymentTransaction replacing answers labContext "2026-09-04T00:00:00Z" (.ok (names.map labNetwork)) before

theorem lab_refused (answers : Answers) (names : List String) (before : Cluster)
    (refused : (labTransaction answers names before).2.isOk = false) :
    ∃ err, labTransaction answers names before = ((labTransaction answers names before).1, .error err) := by
  cases ended : labTransaction answers names before with
  | mk after result =>
      cases result with
      | error err => exact ⟨err, rfl⟩
      | ok submitted => simp [ended, Except.isOk, Except.toBool] at refused

def labUnanswered : Answers := { apply := fun _ => .failed [.lit "request timed out"] false }

-- An apply that is not answered, on an empty cluster.
theorem lab_transaction_all_or_nothing : ∃ after err,
    labTransaction labUnanswered ["net-svc-alpha"] ⟨[], List.nodup_nil⟩ = (after, .error err) ∧
      (AllOrNothing ⟨[], List.nodup_nil⟩ after err.survivors ↔ ∀ prepared,
        checked labUnanswered labContext "2026-09-04T00:00:00Z" (.ok [labNetwork "net-svc-alpha"]) ⟨[], List.nodup_nil⟩ =
          .ok prepared →
        Harmless replacing labUnanswered labContext ⟨[], List.nodup_nil⟩ (deterministicApplyOrder prepared)) := by
  obtain ⟨err, failed⟩ := lab_refused labUnanswered ["net-svc-alpha"] ⟨[], List.nodup_nil⟩ (by decide +kernel)
  exact ⟨_, err, failed, transaction_all_or_nothing_iff replacing labUnanswered labContext _ _ _ _ err failed⟩

/- The same bare intent once more: it has the same correlation id, the apply is not
   answered, and the rollback deletes the object of the first submission. -/
theorem resubmission_deletes_the_earlier_object : ¬ ∀ (api : ServerSideApply) (answers : Answers) (context : DeploymentContext)
    (timestamp : String) (translated : Except TransactionError (List Json)) (before after : Cluster) (err : TransactionError),
    runDeploymentTransaction api answers context timestamp translated before = (after, .error err) →
      AllOrNothing before after err.survivors := by
  intro all
  let before := (labTransaction {} ["net-svc-alpha"] ⟨[], List.nodup_nil⟩).1
  obtain ⟨err, failed⟩ := lab_refused labUnanswered ["net-svc-alpha"] before (by decide +kernel)
  have whole := all replacing labUnanswered labContext _ _ before _ err failed
  have lost : ¬ ∀ object ∈ before.objects, object ∈ (labTransaction labUnanswered ["net-svc-alpha"] before).1.objects := by
    decide +kernel
  exact lost whole.kept

end Resubmitted

end AgenticNetops.Deployer
