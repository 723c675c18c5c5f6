import AgenticNetops.Lib.Runs
import AgenticNetops.Fabricplan.Derivations
import AgenticNetops.Deployer.AllOrNothing

set_option autoImplicit false

/- The preflight's comparison of spelled names against the ports and nodes that the
   renderer and the executor resolve them to, over sequences of transactions. -/
namespace AgenticNetops.Deployer

open GoText JsonValue Exits Fallible Runs Fabricplan

section Resolution

-- What one site declares: its port map and the executor's node map.
structure Site where
  ports : PortMapper
  nodeMap : GoMap String

def normalizeNodeName (s : String) : String := normalizePortKey s

def Site.nodeFor (site : Site) (node : String) : Option String :=
  if site.nodeMap.text node ≠ "" then some node
  else
    site.nodeMap.sortedKeys.find? fun key =>
      normalizeNodeName key = normalizeNodeName node ∧ site.nodeMap.text key ≠ ""

structure BoundPort where
  node : String
  port : String
  stage : String
deriving DecidableEq, Repr

-- Where an attachment's node and port resolve to.
def Site.resolve (site : Site) (attachment : Json) : Option (String × String) :=
  match site.nodeFor (attachment.field "node").text, site.ports.port (attachment.field "attachment").text with
  | some node, .ok port => some (node, port)
  | _, _ => none

-- The ports of a Network's attachments at which the renderer binds its access lists.
def boundPorts (site : Site) (object : Json) : List BoundPort :=
  (((specOf object).field "accessLists").items.filter Json.isObject).flatMap fun list =>
    (((specOf object).field "attachments").items.filter Json.isObject).filterMap fun attachment =>
      (site.resolve attachment).map fun (node, port) => ⟨node, port, toUpper (list.field "stage").text⟩

end Resolution

section Comparison

def spelledKeys (object : Json) : List (String × String) := (bindings object).map Prod.fst

def SharesSpelling (a b : Json) : Prop := ∃ key ∈ spelledKeys a, key ∈ spelledKeys b

def SharesPort (site : Site) (a b : Json) : Prop := ∃ bound ∈ boundPorts site a, bound ∈ boundPorts site b

instance (a b : Json) : Decidable (SharesSpelling a b) := inferInstanceAs (Decidable (∃ key ∈ spelledKeys a, _))

instance (site : Site) (a b : Json) : Decidable (SharesPort site a b) :=
  inferInstanceAs (Decidable (∃ bound ∈ boundPorts site a, _))

theorem shares_spelling_comm (a b : Json) : SharesSpelling a b ↔ SharesSpelling b a :=
  exists_congr fun _ => and_comm

theorem shares_port_comm (site : Site) (a b : Json) : SharesPort site a b ↔ SharesPort site b a :=
  exists_congr fun _ => and_comm

def networksOf (objects : List Json) : List Json := objects.filter fun object => (refOf object).kind = networkKind

/- Some other service, on the cluster or in the same bundle, binds an access list where
   a manifest does. -/
def Conflict (site : Site) (existing manifests : List Json) : Prop :=
  ∃ manifest ∈ networksOf manifests, ∃ other ∈ existing ++ networksOf manifests,
    nameOf other ≠ nameOf manifest ∧ SharesPort site manifest other

-- Two services name a common port as the other does exactly where they resolve to one.
def SpelledAsResolved (site : Site) (existing manifests : List Json) : Prop :=
  ∀ manifest ∈ networksOf manifests, ∀ other ∈ existing ++ networksOf manifests,
    nameOf other ≠ nameOf manifest → (SharesSpelling manifest other ↔ SharesPort site manifest other)

def Exclusive (site : Site) (cluster : Cluster) : Prop :=
  ∀ a ∈ cluster.networks, ∀ b ∈ cluster.networks, ∀ bound ∈ boundPorts site a, bound ∈ boundPorts site b → nameOf a = nameOf b

instance (site : Site) (existing manifests : List Json) : Decidable (Conflict site existing manifests) :=
  inferInstanceAs (Decidable (∃ manifest ∈ networksOf manifests, _))

instance (site : Site) (existing manifests : List Json) : Decidable (SpelledAsResolved site existing manifests) :=
  inferInstanceAs (Decidable (∀ manifest ∈ networksOf manifests, _))

instance (site : Site) (cluster : Cluster) : Decidable (Exclusive site cluster) :=
  inferInstanceAs (Decidable (∀ a ∈ cluster.networks, _))

def SpelledApart (objects : List Json) : Prop :=
  ∀ a ∈ objects, ∀ b ∈ objects, nameOf a ≠ nameOf b → ¬ SharesSpelling a b

instance (objects : List Json) : Decidable (SpelledApart objects) := inferInstanceAs (Decidable (∀ a ∈ objects, _))

end Comparison

section Preflight

-- The holders of a list of objects: each key they spell, under the name of one of them.
structure Holding (holders : Holders) (objects : List Json) : Prop where
  held : ∀ key service acl, holders.lookup key = some (service, acl) →
    ∃ object ∈ objects, nameOf object = service ∧ key ∈ spelledKeys object
  all : ∀ object ∈ objects, ∀ key ∈ spelledKeys object, holders.lookup key ≠ none

theorem register_held (holders : Holders) (service : String) (own : List ((String × String) × String)) (key : String × String)
    (holder : String × String) (found : (register holders service own).lookup key = some holder) :
    (holder.1 = service ∧ key ∈ own.map Prod.fst) ∨ holders.lookup key = some holder := by
  induction own generalizing holders with
  | nil => exact .inr found
  | cons entry rest ih =>
      cases ih ((entry.1, (service, entry.2)) :: holders) found with
      | inl later => exact .inl ⟨later.1, List.mem_cons_of_mem _ later.2⟩
      | inr earlier =>
          by_cases here : key = entry.1
          · have stored : some (service, entry.2) = some holder := by simpa [List.lookup_cons, here] using earlier
            cases stored
            exact .inl ⟨rfl, here ▸ List.mem_cons_self⟩
          · exact .inr (by simpa [List.lookup_cons, beq_eq_false_iff_ne.mpr here] using earlier)

theorem register_all (holders : Holders) (service : String) (own : List ((String × String) × String)) (key : String × String)
    (present : key ∈ own.map Prod.fst ∨ holders.lookup key ≠ none) : (register holders service own).lookup key ≠ none := by
  induction own generalizing holders with
  | nil =>
      cases present with
      | inl absent => cases absent
      | inr held => exact held
  | cons entry rest ih =>
      apply ih ((entry.1, (service, entry.2)) :: holders)
      by_cases here : key = entry.1
      · exact .inr (by simp [here])
      · cases present with
        | inl own => exact .inl ((List.mem_cons.mp own).resolve_left here)
        | inr held => exact .inr (by simpa [List.lookup_cons, beq_eq_false_iff_ne.mpr here] using held)

-- Adding one more object's bindings, all of them or the ones that nobody holds.
theorem holding_register (holders : Holders) (objects : List Json) (object : Json) (own : List ((String × String) × String))
    (holding : Holding holders objects) (inside : ∀ key ∈ own.map Prod.fst, key ∈ spelledKeys object)
    (rest : ∀ key ∈ spelledKeys object, key ∈ own.map Prod.fst ∨ holders.lookup key ≠ none) :
    Holding (register holders (nameOf object) own) (objects ++ [object]) := by
  constructor
  · intro key service acl found
    cases register_held holders (nameOf object) own key (service, acl) found with
    | inl new => exact ⟨object, List.mem_append.mpr (.inr (List.mem_singleton.mpr rfl)), new.1.symm, inside key new.2⟩
    | inr old =>
        obtain ⟨other, member, named, spelled⟩ := holding.held key service acl old
        exact ⟨other, List.mem_append.mpr (.inl member), named, spelled⟩
  · intro other member key spelled
    cases List.mem_append.mp member with
    | inl old => exact register_all holders (nameOf object) own key (.inr (holding.all other old key spelled))
    | inr new =>
        rw [List.mem_singleton.mp new] at spelled
        exact register_all holders (nameOf object) own key (rest key spelled)

theorem holders_of_holding (existing : List Json) : Holding (holdersOf existing) existing := by
  have each : ∀ (rest objects : List Json) (holders : Holders), Holding holders objects →
      Holding (rest.foldl (fun holders object => register holders (nameOf object) (bindings object)) holders)
        (objects ++ rest) := by
    intro rest
    induction rest with
    | nil =>
        intro objects holders holding
        rwa [List.append_nil]
    | cons object rest ih =>
        intro objects holders holding
        have next := holding_register holders objects object (bindings object) holding (fun _ member => member)
          (fun _ spelled => .inl spelled)
        simpa using ih (objects ++ [object]) _ next
  have empty : Holding [] [] := ⟨fun key service acl found => (nomatch found), fun _ member => (nomatch member)⟩
  exact each existing [] [] empty

theorem check_bindings_ok_iff (holders : Holders) (service : String) (own : List ((String × String) × String)) :
    checkBindings holders service own = .ok () ↔ ∀ key ∈ own.map Prod.fst, heldByOther holders service key = none := by
  induction own with
  | nil => simp [checkBindings]
  | cons entry rest ih =>
      cases held : heldByOther holders service entry.1 with
      | none => simp [checkBindings, held, ih]
      | some holder => simp [checkBindings, held]

-- Where no two services spell a common key, its holder is any of the objects with it.
theorem held_by_other_iff (holders : Holders) (objects : List Json) (holding : Holding holders objects)
    (apart : SpelledApart objects) (manifest : Json) :
    (∀ key ∈ spelledKeys manifest, heldByOther holders (nameOf manifest) key = none) ↔
      ∀ other ∈ objects, nameOf other ≠ nameOf manifest → ¬ SharesSpelling manifest other := by
  constructor
  · intro free other member different shared
    obtain ⟨key, own, theirs⟩ := shared
    cases found : holders.lookup key with
    | none => exact holding.all other member key theirs found
    | some holder =>
        obtain ⟨object, object_member, named, spelled⟩ := holding.held key holder.1 holder.2 found
        have same : nameOf other = nameOf object := by
          by_contra differ
          exact apart other member object object_member differ ⟨key, theirs, spelled⟩
        have foreign : holder.1 ≠ nameOf manifest := by
          rw [← named, ← same]
          exact different
        have refused : heldByOther holders (nameOf manifest) key = some holder := by
          simp [heldByOther, found, foreign]
        rw [free key own] at refused
        cases refused
  · intro clear key own
    cases found : holders.lookup key with
    | none => simp [heldByOther, found]
    | some holder =>
        obtain ⟨object, member, named, spelled⟩ := holding.held key holder.1 holder.2 found
        have same : holder.1 = nameOf manifest := by
          by_contra foreign
          exact clear object member (named ▸ foreign) ⟨key, own, spelled⟩
        simp [heldByOther, found, same]

theorem spelled_apart_snoc (objects : List Json) (manifest : Json) (apart : SpelledApart objects)
    (clear : ∀ other ∈ objects, nameOf other ≠ nameOf manifest → ¬ SharesSpelling manifest other) :
    SpelledApart (objects ++ [manifest]) := by
  intro a a_member b b_member differ shares
  cases List.mem_append.mp a_member with
  | inl a_old =>
      cases List.mem_append.mp b_member with
      | inl b_old => exact apart a a_old b b_old differ shares
      | inr b_new =>
          rw [List.mem_singleton.mp b_new] at differ shares
          exact clear a a_old differ ((shares_spelling_comm a manifest).mp shares)
  | inr a_new =>
      rw [List.mem_singleton.mp a_new] at differ shares
      cases List.mem_append.mp b_member with
      | inl b_old => exact clear b b_old differ.symm shares
      | inr b_new =>
          rw [List.mem_singleton.mp b_new] at differ
          exact differ rfl

theorem check_manifests_ok_iff (holders : Holders) (objects manifests : List Json) (holding : Holding holders objects)
    (apart : SpelledApart objects) :
    checkManifests holders manifests = .ok () ↔
      ∀ manifest ∈ networksOf manifests, ∀ other ∈ objects ++ networksOf manifests,
        nameOf other ≠ nameOf manifest → ¬ SharesSpelling manifest other := by
  induction manifests generalizing holders objects with
  | nil => simp [checkManifests, networksOf]
  | cons manifest rest ih =>
      by_cases network : (refOf manifest).kind = networkKind
      · have listed : networksOf (manifest :: rest) = manifest :: networksOf rest := by simp [networksOf, network]
        let own := (bindings manifest).filter fun entry => holders.lookup entry.1 = none
        have next : Holding (register holders (nameOf manifest) own) (objects ++ [manifest]) := by
          apply holding_register holders objects manifest own holding
          · intro key member
            obtain ⟨entry, kept, same⟩ := List.mem_map.mp member
            exact List.mem_map.mpr ⟨entry, List.mem_of_mem_filter kept, same⟩
          · intro key spelled
            by_cases free : holders.lookup key = none
            · obtain ⟨entry, member, same⟩ := List.mem_map.mp spelled
              exact .inl (List.mem_map.mpr ⟨entry, List.mem_filter.mpr ⟨member, by simpa [same] using free⟩, same⟩)
            · exact .inr free
        have first : checkBindings holders (nameOf manifest) (bindings manifest) = .ok () ↔
            ∀ other ∈ objects, nameOf other ≠ nameOf manifest → ¬ SharesSpelling manifest other :=
          (check_bindings_ok_iff holders (nameOf manifest) (bindings manifest)).trans
            (held_by_other_iff holders objects holding apart manifest)
        have parted : checkManifests holders (manifest :: rest) = .ok () ↔
            checkBindings holders (nameOf manifest) (bindings manifest) = .ok () ∧
              checkManifests (register holders (nameOf manifest) own) rest = .ok () := by
          rw [checkManifests, if_pos network]
          cases checkBindings holders (nameOf manifest) (bindings manifest) with
          | error err => simp [bind, Except.bind]
          | ok _ => simp [bind, Except.bind, own]
        have regrouped : objects ++ manifest :: networksOf rest = objects ++ [manifest] ++ networksOf rest := by simp
        rw [parted, first, listed, regrouped]
        constructor
        · intro parts
          obtain ⟨clear, passed⟩ := parts
          have later := (ih _ _ next (spelled_apart_snoc objects manifest apart clear)).mp passed
          intro checked member other other_member differ
          cases List.mem_cons.mp member with
          | inr rest_member => exact later checked rest_member other other_member differ
          | inl here =>
              rw [here] at differ ⊢
              cases List.mem_append.mp other_member with
              | inr rest_member =>
                  have last : manifest ∈ objects ++ [manifest] ++ networksOf rest := by simp
                  exact fun shares => later other rest_member manifest last differ.symm ((shares_spelling_comm _ _).mp shares)
              | inl earlier =>
                  cases List.mem_append.mp earlier with
                  | inl old => exact clear other old differ
                  | inr same => exact absurd (by rw [List.mem_singleton.mp same]) differ
        · intro all
          have clear : ∀ other ∈ objects, nameOf other ≠ nameOf manifest → ¬ SharesSpelling manifest other :=
            fun other member => all manifest List.mem_cons_self other (by simp [member])
          exact ⟨clear, (ih _ _ next (spelled_apart_snoc objects manifest apart clear)).mpr
            fun checked member => all checked (List.mem_cons_of_mem _ member)⟩
      · have listed : networksOf (manifest :: rest) = networksOf rest := by simp [networksOf, network]
        rw [listed, ← ih holders objects holding apart, checkManifests, if_neg network]

-- The preflight's verdict, where spelling and resolution tell the same services apart.
theorem preflight_refuses_iff (site : Site) (existing manifests : List Json) (apart : SpelledApart existing)
    (alike : SpelledAsResolved site existing manifests) :
    (∃ err, preflightACLBinding existing manifests = .error err) ↔ Conflict site existing manifests := by
  have passes := check_manifests_ok_iff (holdersOf existing) existing manifests (holders_of_holding existing) apart
  have refuses : (∃ err, preflightACLBinding existing manifests = .error err) ↔
      preflightACLBinding existing manifests ≠ .ok () := by
    cases preflightACLBinding existing manifests with
    | error err => simp
    | ok _ => simp
  rw [refuses, preflightACLBinding, Ne, passes]
  constructor
  · intro some
    by_contra none
    apply some
    intro manifest member other other_member differ shares
    exact none ⟨manifest, member, other, other_member, differ, (alike manifest member other other_member differ).mp shares⟩
  · intro parts clear
    obtain ⟨manifest, member, other, other_member, differ, shares⟩ := parts
    exact clear manifest member other other_member differ ((alike manifest member other other_member differ).mpr shares)

end Preflight

section Transactions
variable (api : ServerSideApply) (site : Site)

-- One transaction as it is submitted, with the answers it meets.
structure Submission where
  answers : Answers
  context : DeploymentContext
  timestamp : String
  translated : Except TransactionError (List Json)

def Submission.passed (submission : Submission) (cluster : Cluster) : Except TransactionError (List Json) :=
  checked submission.answers submission.context submission.timestamp submission.translated cluster

def Cluster.afterSubmission (cluster : Cluster) (submission : Submission) : Cluster :=
  (runDeploymentTransaction api submission.answers submission.context submission.timestamp submission.translated cluster).1

def submit (cluster : Cluster) (submission : Submission) : Option Cluster := some (cluster.afterSubmission api submission)

-- The condition on a submission that gets as far as the apply.
def SubmittedAlike (cluster : Cluster) (submission : Submission) : Prop :=
  match submission.passed cluster with
  | .ok prepared => SpelledAsResolved site cluster.networks prepared
  | .error _ => True

instance (cluster : Cluster) (submission : Submission) : Decidable (SubmittedAlike site cluster submission) :=
  match passed : submission.passed cluster with
  | .ok prepared => decidable_of_iff (SpelledAsResolved site cluster.networks prepared) (by simp [SubmittedAlike, passed])
  | .error _ => isTrue (by simp [SubmittedAlike, passed])

-- No two services name a common port, as they spell it or as it resolves.
structure Apart (cluster : Cluster) : Prop where
  spelled : SpelledApart cluster.networks
  exclusive : Exclusive site cluster

theorem merged_lists (held : Option Json) (manifest : Json) :
    bindings (api.merged held manifest) = bindings manifest ∧
      boundPorts site (api.merged held manifest) = boundPorts site manifest := by
  have attachments := api.lists_set held manifest "attachments" (.inl rfl)
  have accessLists := api.lists_set held manifest "accessLists" (.inr rfl)
  constructor
  · simp only [bindings, boundLists, portNames, attachments, accessLists]
  · simp only [boundPorts, attachments, accessLists]

theorem abandon_objects (answers : Answers) (correlationID : String) (submitted : List Ref) (manifest : Json)
    (message : Message) (cluster : Cluster) (object : Json)
    (present : object ∈ (abandon answers correlationID submitted manifest message cluster).1.objects) :
    object ∈ cluster.objects := by
  cases ended : abandon answers correlationID submitted manifest message cluster with
  | mk after result =>
      rw [ended] at present
      cases result with
      | error err =>
          have left := abandon_ends answers correlationID submitted manifest message cluster after err ended
          exact ((left.objects object).mp present).1
      | ok refs =>
          unfold abandon at ended
          cases rolled : rollbackBySelector answers correlationID cluster with
          | mk last outcome => cases outcome <;> simp [rolled] at ended

theorem apply_each_objects (answers : Answers) (correlationID : String) (submitted : List Ref) (manifests : List Json)
    (cluster : Cluster) (object : Json)
    (present : object ∈ (applyEach api answers correlationID submitted manifests cluster).1.objects) :
    object ∈ cluster.objects ∨ ∃ manifest ∈ manifests, ∃ held, object = api.merged held manifest := by
  induction manifests generalizing submitted cluster with
  | nil => exact .inl present
  | cons manifest rest ih =>
      have first : object ∈ (cluster.write api manifest).objects →
          object ∈ cluster.objects ∨ ∃ other ∈ manifest :: rest, ∃ held, object = api.merged held other := by
        intro stored
        cases (mem_write cluster object api manifest).mp stored with
        | inl old => exact .inl old.1
        | inr merged => exact .inr ⟨manifest, List.mem_cons_self, _, merged⟩
      cases answer : answers.apply (refOf manifest) with
      | ok =>
          have later : object ∈ (applyEach api answers correlationID (submitted ++ [refOf manifest]) rest
              (cluster.write api manifest)).1.objects := by simpa [applyEach, answer] using present
          cases ih _ _ later with
          | inl stored => exact first stored
          | inr merged =>
              obtain ⟨other, member, held, same⟩ := merged
              exact .inr ⟨other, List.mem_cons_of_mem _ member, held, same⟩
      | failed message landed =>
          cases landed with
          | true =>
              have left := abandon_objects answers correlationID submitted manifest message (cluster.write api manifest) object
                (by simpa [applyEach, answer] using present)
              exact first left
          | false =>
              exact .inl (abandon_objects answers correlationID submitted manifest message cluster object
                (by simpa [applyEach, answer] using present))

theorem submission_objects (cluster : Cluster) (submission : Submission) (object : Json)
    (present : object ∈ (cluster.afterSubmission api submission).objects) :
    object ∈ cluster.objects ∨
      ∃ prepared, submission.passed cluster = .ok prepared ∧ ∃ manifest ∈ prepared, ∃ held, object = api.merged held manifest := by
  cases passed : submission.passed cluster with
  | error refusal =>
      rw [Cluster.afterSubmission, transaction_refused api _ _ _ _ _ refusal passed] at present
      exact .inl present
  | ok prepared =>
      rw [Cluster.afterSubmission, transaction_applied api _ _ _ _ _ prepared passed] at present
      cases apply_each_objects api submission.answers submission.context.correlationID [] _ cluster object present with
      | inl old => exact .inl old
      | inr merged =>
          obtain ⟨manifest, member, held, same⟩ := merged
          have bundled : manifest ∈ prepared := (List.perm_insertionSort _ _).mem_iff.mp member
          exact .inr ⟨prepared, rfl, manifest, bundled, held, same⟩

theorem passed_preflight (cluster : Cluster) (submission : Submission) (prepared : List Json)
    (passed : submission.passed cluster = .ok prepared) : preflightACLBinding cluster.networks prepared = .ok () := by
  obtain ⟨_, _, passed⟩ := bind_ok _ _ _ passed
  obtain ⟨_, _, passed⟩ := bind_ok _ _ _ passed
  obtain ⟨bundle, _, passed⟩ := bind_ok _ _ _ passed
  obtain ⟨existing, listed, passed⟩ := bind_ok _ _ _ passed
  obtain ⟨_, cleared, passed⟩ := bind_ok _ _ _ passed
  obtain ⟨_, _, passed⟩ := bind_ok _ _ _ passed
  cases passed
  have same : existing = cluster.networks := by
    unfold listNetworks at listed
    cases answer : submission.answers.listNetworks with
    | none =>
        simp only [answer] at listed
        cases listed
        rfl
    | some err => simp [answer] at listed
  rw [← same]
  exact cleared

-- The same service with the same lists, bindings and ports.
structure Restated (object manifest : Json) : Prop where
  name : nameOf object = nameOf manifest
  spelled : spelledKeys object = spelledKeys manifest
  bound : boundPorts site object = boundPorts site manifest

-- Every Network after a submission restates one from before it or one of its bundle.
theorem network_source (cluster : Cluster) (submission : Submission) (object : Json)
    (present : object ∈ (cluster.afterSubmission api submission).networks) :
    ∃ source, Restated site object source ∧ (source ∈ cluster.networks ∨
      ∃ prepared, submission.passed cluster = .ok prepared ∧ source ∈ networksOf prepared) := by
  obtain ⟨member, network⟩ := List.mem_filter.mp present
  cases submission_objects api cluster submission object member with
  | inl old => exact ⟨object, ⟨rfl, rfl, rfl⟩, .inl (List.mem_filter.mpr ⟨old, network⟩)⟩
  | inr merged =>
      obtain ⟨prepared, passed, manifest, bundled, held, same⟩ := merged
      have ref : refOf object = refOf manifest := by rw [same, api.ref_kept]
      have restated : Restated site object manifest := by
        constructor
        · exact congrArg Ref.name ref
        · rw [spelledKeys, spelledKeys, same, (merged_lists api site held manifest).1]
        · rw [same, (merged_lists api site held manifest).2]
      exact ⟨manifest, restated, .inr ⟨prepared, passed, List.mem_filter.mpr ⟨bundled, ref ▸ network⟩⟩⟩

theorem bundle_apart (cluster : Cluster) (submission : Submission) (prepared : List Json) (apart : Apart site cluster)
    (alike : SubmittedAlike site cluster submission) (passed : submission.passed cluster = .ok prepared)
    (manifest other : Json) (member : manifest ∈ networksOf prepared)
    (other_member : other ∈ cluster.networks ++ networksOf prepared) (differ : nameOf other ≠ nameOf manifest) :
    ¬ SharesSpelling manifest other ∧ ¬ SharesPort site manifest other := by
  have cleared := (check_manifests_ok_iff (holdersOf cluster.networks) cluster.networks prepared
    (holders_of_holding cluster.networks) apart.spelled).mp (passed_preflight cluster submission prepared passed)
  have resolved : SpelledAsResolved site cluster.networks prepared := by simpa [SubmittedAlike, passed] using alike
  have spelled := cleared manifest member other other_member differ
  exact ⟨spelled, fun shares => spelled ((resolved manifest member other other_member differ).mpr shares)⟩

theorem submitted_apart (cluster : Cluster) (submission : Submission) (apart : Apart site cluster)
    (alike : SubmittedAlike site cluster submission) (a b : Json)
    (a_present : a ∈ (cluster.afterSubmission api submission).networks)
    (b_present : b ∈ (cluster.afterSubmission api submission).networks) (differ : nameOf a ≠ nameOf b) :
    ¬ SharesSpelling a b ∧ ¬ SharesPort site a b := by
  obtain ⟨first, a_restated, a_source⟩ := network_source api site cluster submission a a_present
  obtain ⟨second, b_restated, b_source⟩ := network_source api site cluster submission b b_present
  rw [SharesSpelling, SharesPort, a_restated.spelled, b_restated.spelled, a_restated.bound, b_restated.bound]
  rw [a_restated.name, b_restated.name] at differ
  cases a_source with
  | inl a_old =>
      cases b_source with
      | inl b_old =>
          exact ⟨apart.spelled first a_old second b_old differ,
            fun ⟨bound, one, two⟩ => differ (apart.exclusive first a_old second b_old bound one two)⟩
      | inr b_new =>
          obtain ⟨prepared, passed, member⟩ := b_new
          have clear := bundle_apart site cluster submission prepared apart alike passed second first member
            (List.mem_append.mpr (.inl a_old)) differ
          exact ⟨fun shares => clear.1 ((shares_spelling_comm _ _).mp shares),
            fun shares => clear.2 ((shares_port_comm site _ _).mp shares)⟩
  | inr a_new =>
      obtain ⟨prepared, passed, member⟩ := a_new
      have present : second ∈ cluster.networks ++ networksOf prepared := by
        cases b_source with
        | inl b_old => exact List.mem_append.mpr (.inl b_old)
        | inr b_new =>
            obtain ⟨other, other_passed, b_member⟩ := b_new
            rw [passed] at other_passed
            cases other_passed
            exact List.mem_append.mpr (.inr b_member)
      exact bundle_apart site cluster submission prepared apart alike passed first second member present differ.symm

theorem apart_step (cluster after : Cluster) (submission : Submission) (apart : Apart site cluster)
    (alike : SubmittedAlike site cluster submission) (stepped : submit api cluster submission = some after) :
    Apart site after := by
  cases stepped
  constructor
  · intro a a_present b b_present differ
    exact (submitted_apart api site cluster submission apart alike a b a_present b_present differ).1
  · intro a a_present b b_present bound one two
    by_contra differ
    exact (submitted_apart api site cluster submission apart alike a b a_present b_present differ).2 ⟨bound, one, two⟩

/- From a cluster on which the services keep apart, over every sequence of transactions,
   whatever the API answers, in which names are spelled as they resolve. -/
theorem acl_bindings_exclusive (start cluster : Cluster) (submissions : List Submission) (apart : Apart site start)
    (run : Run (fun cluster submission after => submit api cluster submission = some after) (SubmittedAlike site)
      start submissions cluster) :
    Exclusive site cluster ∧ ∀ manifests, SpelledAsResolved site cluster.networks manifests →
      ((∃ err, preflightACLBinding cluster.networks manifests = .error err) ↔ Conflict site cluster.networks manifests) := by
  have kept : Apart site cluster := run_invariant _ _ (Apart site)
    (fun before submission after apart alike stepped => apart_step api site before after submission apart alike stepped)
    start submissions cluster apart run
  exact ⟨kept.exclusive, fun manifests alike => preflight_refuses_iff site cluster.networks manifests kept.spelled alike⟩

def labSite : Site where
  ports := [("wan1", "Ethernet12"), ("lan1", "Ethernet8")]
  nodeMap := [("leaf01", "clab-leaf01"), ("leaf02", "clab-leaf02")]

def labFilter (name node attachment : String) : Json :=
  (labNetwork name).with "spec" (.obj [
    ("attachments", .arr [.obj [("node", .str node), ("attachment", .str attachment)]]),
    ("accessLists", .arr [.obj [("name", .str "web"), ("stage", .str "ingress")]])])

def labSubmission (name node attachment : String) : Submission :=
  ⟨{}, labContext, "2026-09-04T00:00:00Z", .ok [labFilter name node attachment]⟩

def noObjects : Cluster := ⟨[], List.nodup_nil⟩

theorem no_objects_apart (site : Site) : Apart site noObjects :=
  ⟨fun _ member => (nomatch member), fun _ member => (nomatch member)⟩

theorem lab_acl_bindings_exclusive : ∃ cluster,
    play (submit replacing) noObjects [labSubmission "svc-a" "leaf01" "wan1", labSubmission "svc-b" "leaf02" "lan1"] =
      some cluster ∧
    Exclusive labSite cluster ∧ ∀ manifests, SpelledAsResolved labSite cluster.networks manifests →
      ((∃ err, preflightACLBinding cluster.networks manifests = .error err) ↔
        Conflict labSite cluster.networks manifests) := by
  have played : Played (SubmittedAlike labSite) (submit replacing) noObjects
      [labSubmission "svc-a" "leaf01" "wan1", labSubmission "svc-b" "leaf02" "lan1"] := by decide +kernel
  obtain ⟨cluster, ends⟩ := played_ends _ _ _ _ played
  exact ⟨cluster, ends, acl_bindings_exclusive replacing labSite noObjects cluster _ (no_objects_apart labSite)
    (played_run _ _ _ _ _ played ends)⟩

/- Two services on one port that the second spells another way: the preflight lets it
   through, and the port is bound twice. -/
theorem two_spellings_bind_twice : ¬ ∀ (api : ServerSideApply) (site : Site) (submissions : List Submission) (cluster : Cluster),
    Run (fun cluster submission after => submit api cluster submission = some after) (fun _ _ => True) noObjects
      submissions cluster →
    Exclusive site cluster ∧ ∀ manifests,
      ((∃ err, preflightACLBinding cluster.networks manifests = .error err) ↔ Conflict site cluster.networks manifests) := by
  intro all
  have played : Played (fun _ _ => True) (submit replacing) noObjects
      [labSubmission "svc-a" "leaf01" "wan1", labSubmission "svc-b" "leaf01" "WAN-1"] := ⟨trivial, _, rfl, trivial, _, rfl, trivial⟩
  obtain ⟨cluster, ends⟩ := played_ends _ _ _ _ played
  have exclusive := (all replacing labSite _ cluster (played_run _ _ _ _ _ played ends)).1
  have twice : ¬ ∃ cluster ∈ play (submit replacing) noObjects
      [labSubmission "svc-a" "leaf01" "wan1", labSubmission "svc-b" "leaf01" "WAN-1"], Exclusive labSite cluster := by
    decide +kernel
  exact twice ⟨cluster, ends, exclusive⟩

-- One port name on two nodes: refused, though no port is shared.
example : ¬ Conflict labSite [labFilter "svc-a" "leaf01" "wan1"] [labFilter "svc-b" "leaf02" "wan1"] ∧
    (preflightACLBinding [labFilter "svc-a" "leaf01" "wan1"] [labFilter "svc-b" "leaf02" "wan1"]).isOk = false := by
  decide +kernel

end Transactions

end AgenticNetops.Deployer
