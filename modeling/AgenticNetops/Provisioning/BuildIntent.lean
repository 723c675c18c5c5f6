import AgenticNetops.Provisioning.ClientCalls

set_option autoImplicit false

/- What building one intent makes of the claim store: it hands out the identifiers the
   intent was built with and no others, and names the prefix claims of its endpoints. -/
namespace AgenticNetops.Provisioning

open GoText Exits Schemas

-- A number that a construct asks for: its index, its range and the answers it gets.
structure NumberClaim where
  index : String
  first : Nat
  last : Nat
  answers : NumberAnswers

def namesVLAN (interp : Interpretation) : Bool := interp.endpoints.any fun endpoint => endpoint.vlan.isSome

def vlanClaims (interp : Interpretation) (answers : CallAnswers) : List NumberClaim :=
  if namesVLAN interp then [] else [⟨vlanIndex, 100, 4000, answers.vlan⟩]

def numberClaims (interp : Interpretation) (answers : CallAnswers) : List NumberClaim :=
  if interp.transport = some .srv6 then []
  else
    match interp.serviceType with
    | .vlan => vlanClaims interp answers
    | .macVRF => vlanClaims interp answers ++
        [⟨l2vniIndex, 10000, 20000, answers.l2vni⟩, ⟨extcommIndex, 1, 65535, answers.rt⟩] ++
        if interp.anycastGateway.isSome then [⟨l3vniIndex, 10000, 14094, answers.l3vni⟩] else []
    | .ipVRF => [⟨l3vniIndex, 10000, 14094, answers.l3vni⟩, ⟨extcommIndex, 1, 65535, answers.rt⟩]
    | .acl => []

def ClaimsPrefixes (interp : Interpretation) : Prop := interp.transport = some .srv6 ∧ interp.serviceType = .ipVRF

instance (interp : Interpretation) : Decidable (ClaimsPrefixes interp) := inferInstanceAs (Decidable (_ ∧ _))

def prefixClaimName (correlationID : String) (endpoint : EndpointIntent) : String :=
  claimName clientV4Pool correlationID [endpoint.siteOrNode ++ "-" ++ endpoint.attachment]

structure CleanCall (before : Store) (correlationID : String) (interp : Interpretation) (answers : CallAnswers) :
    Prop where
  numbers : ∀ claim ∈ numberClaims interp answers,
    CleanNumber before correlationID claim.index claim.first claim.last claim.answers
  prefixes : ClaimsPrefixes interp → ∀ position < interp.endpoints.length,
    CleanPrefix before correlationID (answers.subnets position)

instance (before : Store) (correlationID : String) (interp : Interpretation) (answers : CallAnswers) :
    Decidable (CleanCall before correlationID interp answers) :=
  decidable_of_iff
    ((∀ claim ∈ numberClaims interp answers,
      CleanNumber before correlationID claim.index claim.first claim.last claim.answers) ∧
      (ClaimsPrefixes interp → ∀ position < interp.endpoints.length,
        CleanPrefix before correlationID (answers.subnets position)))
    ⟨fun clean => ⟨clean.1, clean.2⟩, fun clean => ⟨clean.numbers, clean.prefixes⟩⟩

section Endpoints

theorem make_endpoints {α : Type} (build : α → Endpoint) (elements : List α) (s : Store) :
    mapEach (fun element => makeEndpoint (build element)) elements s = (s, .ok (elements.map build)) ∨
      mapEach (fun element => makeEndpoint (build element)) elements s = (s, .error .invalid) := by
  induction elements with
  | nil => exact .inl rfl
  | cons element rest ih =>
      by_cases valid : (build element).make = some (build element)
      · have ran : makeEndpoint (build element) s = (s, .ok (build element)) := by simp [makeEndpoint, valid]
        cases ih with
        | inl made => exact .inl (by simp only [mapEach, bind_run, ran, made, pure_run, List.map_cons])
        | inr failed => exact .inr (by simp only [mapEach, bind_run, ran, failed])
      · have refused : (build element).make = none := by
          unfold Endpoint.make at valid ⊢
          split at valid
          · exact absurd rfl valid
          · rename_i broken
            exact if_neg broken
        have left : makeEndpoint (build element) s = (s, .error .invalid) := by simp [makeEndpoint, refused]
        exact .inr (by simp only [mapEach, bind_run, left])

theorem triple_make_endpoints {α : Type} (build : α → Endpoint) (elements : List α) (pre : Store → Prop)
    (left : Failure → Store → Prop) (out : ∀ s, pre s → left .invalid s) :
    Triple pre (mapEach (fun element => makeEndpoint (build element)) elements)
      (fun made after => made = elements.map build ∧ pre after) left := by
  intro s entered
  cases make_endpoints build elements s with
  | inl made =>
      rw [made]
      exact ⟨rfl, entered⟩
  | inr failed =>
      rw [failed]
      exact out s entered

theorem triple_make_endpoint (endpoint : Endpoint) (pre : Store → Prop) (left : Failure → Store → Prop)
    (out : ∀ s, pre s → left .invalid s) : Triple pre (makeEndpoint endpoint) (fun _ => pre) left := by
  intro s entered
  unfold makeEndpoint
  cases endpoint.make with
  | some made => exact entered
  | none => exact out s entered

theorem triple_make_intent (intent : NormalizedServiceIntent) (pre : Store → Prop) (left : Failure → Store → Prop)
    (out : ∀ s, pre s → left .invalid s) : Triple pre (makeIntent intent) (fun _ => pre) left := by
  intro s entered
  unfold makeIntent
  cases intent.make with
  | some made => exact entered
  | none => exact out s entered

theorem triple_gateway_address (pfx : String) (pre : Store → Prop) (left : Failure → Store → Prop)
    (out : ∀ failure s, pre s → left failure s) : Triple pre (gatewayAddress pfx) (fun _ => pre) left := by
  intro s entered
  unfold gatewayAddress
  cases IPNetwork.ipNetwork pfx with
  | none => exact entered
  | some network =>
      by_cases last : network.networkAddress + 1 ≥ 2 ^ network.version.maxPrefixlen
      · simp only [if_pos last]
        exact out _ s entered
      · simp only [if_neg last]
        exact entered

end Endpoints

section Intents
variable (correlationID : String) (before : Store)

theorem left_progress (handed : List Identifier) (failure : Failure) (after : Store)
    (progress : Progress correlationID before handed after) : Left correlationID before failure after := ⟨handed, progress⟩

-- An endpoint's prefix claim stands in the store, and its prefix is among the handed ones.
def NamedPrefix (handed : List Identifier) (after : Store) (name : String) : Prop :=
  ∃ claim, after.find "ipclaims" name = some claim ∧ ∃ text, claim.identifier = some (.subnet text) ∧ .subnet text ∈ handed

theorem progress_trans (mid after : Store) (first later : List Identifier)
    (start : Progress correlationID before first mid) (rest : Progress correlationID mid later after) :
    Progress correlationID before (first ++ later) after where
  grown := grown_trans correlationID before mid after first later start.grown rest.grown
  fresh x member := by
    cases List.mem_append.mp member with
    | inl early => exact start.fresh x early
    | inr late =>
        cases rest.fresh x late with
        | inr fresh => exact .inr (fresh_before correlationID before mid first start.grown x fresh)
        | inl held =>
            cases (start.grown.own x).mp held with
            | inl old => exact .inl old
            | inr handed => exact start.fresh x handed

theorem fresh_later (mid : Store) (handed : List Identifier) (grown : Grown correlationID before handed mid)
    (x : Identifier) (fresh : FreshFor correlationID before x) : FreshFor correlationID mid x :=
  fun other different held => fresh other different ((grown.others other different x).mp held)

end Intents

theorem triple_claim_gateways (tenant correlationID : String) (answers : Nat → PrefixAnswers)
    (endpoints : List Endpoint) (position : Nat) (before : Store)
    (clean : ∀ later, position ≤ later → later < position + endpoints.length →
      CleanPrefix before correlationID (answers later)) :
    Triple (fun s => s = before) (claimGateways tenant correlationID answers position endpoints)
      (fun result after => Progress correlationID before result.2 after ∧
        ∀ endpoint ∈ endpoints,
          NamedPrefix result.2 after (claimName clientV4Pool correlationID [attachmentKey endpoint]))
      (Left correlationID before) := by
  induction endpoints generalizing position before with
  | nil =>
      intro s same
      subst same
      exact ⟨progress_refl correlationID s, by simp⟩
  | cons endpoint rest ih =>
      have first := triple_allocate_client_prefix correlationID before [] (attachmentKey endpoint) (answers position)
        (clean position (Nat.le_refl _) (by simp))
      have entry : ∀ s, s = before → Progress correlationID before [] s := fun s same => by
        rw [same]
        exact progress_refl correlationID before
      refine triple_bind _ _ _ _ _ _ (triple_weaken _ _ _ _ _ _ _ first entry (fun _ _ entered => entered)
        fun _ _ out => out) fun claimed => ?_
      refine triple_bind _ _ _ _ _ _ (triple_gateway_address claimed _ _ fun failure s entered =>
        left_progress correlationID before _ failure s entered.choose_spec.2.2) fun gateway => ?_
      refine triple_bind _ _ _ _ _ _ (triple_make_endpoint _ _ _ fun s entered =>
        left_progress correlationID before _ _ s entered.choose_spec.2.2) fun made => ?_
      intro mid entered
      obtain ⟨claim, found, stands, progress⟩ := entered
      have later := ih (position + 1) mid fun next above below =>
        ⟨fun text carried => fresh_later correlationID before mid _ progress.grown _
          ((clean next (by omega) (by simp only [List.length_cons]; omega)).served text carried)⟩
      refine triple_bind _ _ _ _ _ _ (triple_weaken _ _ _ _ _ _ _ later (fun _ same => same)
        (fun _ _ entered => entered) fun failure after out => ?_) (fun result => ?_) mid rfl
      · obtain ⟨more, grown⟩ := out
        exact ⟨_, progress_trans correlationID before mid after _ more progress grown⟩
      · intro after entered
        obtain ⟨grown, named⟩ := entered
        have whole := progress_trans correlationID before mid after _ result.2 progress grown
        refine ⟨by simpa using whole, ?_⟩
        intro other member
        cases List.mem_cons.mp member with
        | inl same =>
            subst same
            exact ⟨claim, grown.grown.found _ _ claim found, claimed, stands, List.mem_cons_self⟩
        | inr inRest =>
            obtain ⟨held, heldFound, text, heldStands, heldMember⟩ := named other inRest
            exact ⟨held, heldFound, text, heldStands, List.mem_cons_of_mem _ heldMember⟩

section Building
variable (fallback : Bool) (correlationID : String) (before : Store)

-- The endpoint that `_build_intent` starts from.
def plainEndpoint (endpoint : EndpointIntent) : Endpoint :=
  { node := endpoint.siteOrNode, attachment := endpoint.attachment, vlan := endpoint.vlan }

theorem mem_plain_endpoints (interp : Interpretation) (endpoint : Endpoint) :
    endpoint ∈ deterministicEndpoints (interp.endpoints.map plainEndpoint) ↔
      ∃ asked ∈ interp.endpoints, plainEndpoint asked = endpoint := by
  rw [deterministicEndpoints, (List.perm_insertionSort _ _).mem_iff, List.mem_map]

theorem unnamed_of_nil (interp : Interpretation)
    (none : namedVLANs (deterministicEndpoints (interp.endpoints.map plainEndpoint)) = []) : ¬ namesVLAN interp := by
  intro named
  obtain ⟨asked, member, carries⟩ := List.any_eq_true.mp named
  obtain ⟨vlan, isVLAN⟩ := Option.isSome_iff_exists.mp carries
  have listed : vlan ∈ namedVLANs (deterministicEndpoints (interp.endpoints.map plainEndpoint)) := by
    rw [namedVLANs, (List.perm_insertionSort _ _).mem_iff, List.mem_dedup]
    exact List.mem_filterMap.mpr ⟨plainEndpoint asked, (mem_plain_endpoints interp _).mpr ⟨asked, member, rfl⟩, isVLAN⟩
  rw [none] at listed
  exact List.not_mem_nil listed

theorem triple_l2_endpoints (endpoints : List Endpoint) (service : String) (answers : NumberAnswers)
    (clean : namedVLANs endpoints = [] → CleanNumber before correlationID vlanIndex 100 4000 answers) :
    Triple (Progress correlationID before []) (l2Endpoints fallback endpoints correlationID service answers)
      (fun result after => Progress correlationID before result.2 after) (Left correlationID before) := by
  unfold l2Endpoints
  cases named : namedVLANs endpoints with
  | nil =>
      refine triple_bind _ _ _ _ _ _ (triple_allocate_number correlationID before [] fallback "vlan" "vlanclaims" vlanIndex
        100 4000 answers (by decide) (clean named)) fun vlan => ?_
      refine triple_bind _ _ _ _ _ _ (triple_make_endpoints _ _ _ _ fun s progress => ⟨_, progress⟩) fun made => ?_
      exact fun s entered => entered.2
  | cons vlan rest =>
      cases rest with
      | nil =>
          refine triple_bind _ _ _ _ _ _ (triple_make_endpoints _ _ _ _ fun s progress => ⟨_, progress⟩) fun made => ?_
          exact fun s entered => entered.2
      | cons other more => exact fun s progress => ⟨_, progress⟩

theorem triple_routed_gateway (handed : List Identifier) (interp : Interpretation) (answers : NumberAnswers)
    (clean : interp.anycastGateway.isSome → CleanNumber before correlationID l3vniIndex 10000 14094 answers) :
    Triple (Progress correlationID before handed) (routedGateway fallback interp correlationID answers)
      (fun routed after =>
        Progress correlationID before (handed ++ (routed.1.map (Identifier.number l3vniIndex)).toList) after)
      (Left correlationID before) := by
  unfold routedGateway
  cases named : interp.anycastGateway with
  | none =>
      intro s progress
      have idle : Progress correlationID before (handed ++ []) s := by simpa using progress
      exact idle
  | some gateway =>
      refine triple_bind _ _ _ _ _ _ (triple_allocate_number correlationID before _ fallback "l3vni" "genidclaims"
        l3vniIndex 10000 14094 answers (by decide) (clean (by simp [named]))) fun l3vni => ?_
      exact fun s progress => progress

theorem triple_vxlan_intent (interp : Interpretation) (acl : Option ACL) (endpoints : List Endpoint)
    (answers : CallAnswers) (vxlan : interp.transport ≠ some .srv6)
    (unnamed : namedVLANs endpoints = [] → ¬ namesVLAN interp)
    (clean : CleanCall before correlationID interp answers) :
    Triple (Progress correlationID before []) (vxlanIntent fallback interp acl endpoints correlationID answers)
      (fun assignment after => Progress correlationID before assignment.claimed after) (Left correlationID before) := by
  have asked (claim : NumberClaim) (member : claim ∈ numberClaims interp answers) := clean.numbers claim member
  unfold numberClaims at asked
  rw [if_neg vxlan] at asked
  have vlanAsked (member : ∀ claim ∈ vlanClaims interp answers,
      CleanNumber before correlationID claim.index claim.first claim.last claim.answers)
      (empty : namedVLANs endpoints = []) : CleanNumber before correlationID vlanIndex 100 4000 answers.vlan :=
    member ⟨vlanIndex, 100, 4000, answers.vlan⟩ (by simp [vlanClaims, unnamed empty])
  unfold vxlanIntent
  cases construct : interp.serviceType with
  | acl =>
      simp only
      refine triple_bind _ _ _ _ _ _ (triple_make_intent _ _ _ fun s progress => ⟨_, progress⟩) fun intent => ?_
      exact fun s progress => progress
  | vlan =>
      simp only [construct] at asked ⊢
      refine triple_bind _ _ _ _ _ _ (triple_l2_endpoints fallback correlationID before endpoints "vlan" answers.vlan
        (vlanAsked asked)) fun result => ?_
      refine triple_bind _ _ _ _ _ _ (triple_make_intent _ _ _ fun s progress => ⟨_, progress⟩) fun intent => ?_
      exact fun s progress => progress
  | ipVRF =>
      simp only [construct] at asked ⊢
      refine triple_bind _ _ _ _ _ _ (triple_make_endpoints _ _ _ _ fun s progress => ⟨_, progress⟩) fun made => ?_
      refine triple_bind _ _ _ _ _ _ (triple_weaken _ _ _ _ _ _ _ (triple_allocate_number correlationID before [] fallback
        "l3vni" "genidclaims" l3vniIndex 10000 14094 answers.l3vni (by decide)
        (asked ⟨l3vniIndex, 10000, 14094, answers.l3vni⟩ (by simp))) (fun _ entered => entered.2)
        (fun _ _ entered => entered) fun _ _ out => out) fun l3vni => ?_
      refine triple_bind _ _ _ _ _ _ (triple_allocate_number correlationID before _ fallback "rt" "extcommclaims"
        extcommIndex 1 65535 answers.rt (by decide) (asked ⟨extcommIndex, 1, 65535, answers.rt⟩ (by simp))) fun rt => ?_
      refine triple_bind _ _ _ _ _ _ (triple_make_intent _ _ _ fun s progress => ⟨_, progress⟩) fun intent => ?_
      exact fun s progress => progress
  | macVRF =>
      simp only [construct] at asked ⊢
      refine triple_bind _ _ _ _ _ _ (triple_l2_endpoints fallback correlationID before endpoints "mac-vrf" answers.vlan
        (vlanAsked fun claim member => asked claim (by simp [member]))) fun result => ?_
      refine triple_bind _ _ _ _ _ _ (triple_allocate_number correlationID before _ fallback "l2vni" "genidclaims"
        l2vniIndex 10000 20000 answers.l2vni (by decide) (asked ⟨l2vniIndex, 10000, 20000, answers.l2vni⟩ (by simp)))
        fun l2vni => ?_
      refine triple_bind _ _ _ _ _ _ (triple_allocate_number correlationID before _ fallback "rt" "extcommclaims"
        extcommIndex 1 65535 answers.rt (by decide) (asked ⟨extcommIndex, 1, 65535, answers.rt⟩ (by simp))) fun rt => ?_
      have gateway := triple_routed_gateway fallback correlationID before
        (result.2 ++ [.number l2vniIndex l2vni] ++ [.number extcommIndex rt]) interp answers.l3vni fun routes =>
          asked ⟨l3vniIndex, 10000, 14094, answers.l3vni⟩ (by simp [routes])
      refine triple_bind _ _ _ _ _ _ gateway fun routed => ?_
      refine triple_bind _ _ _ _ _ _ (triple_make_intent _ _ _ fun s progress => ⟨_, progress⟩) fun intent => ?_
      intro s progress
      have reordered : Progress correlationID before (result.2 ++ [.number l2vniIndex l2vni, .number extcommIndex rt] ++
          (routed.1.map (Identifier.number l3vniIndex)).toList) s := by simpa using progress
      exact reordered

theorem triple_srv6_intent (interp : Interpretation) (acl : Option ACL) (endpoints : List Endpoint)
    (answers : Nat → PrefixAnswers)
    (clean : interp.serviceType = .ipVRF → ∀ position < endpoints.length,
      CleanPrefix before correlationID (answers position)) :
    Triple (fun s => s = before) (srv6Intent interp acl endpoints correlationID answers)
      (fun assignment after => Progress correlationID before assignment.claimed after ∧
        (interp.serviceType = .ipVRF → ∀ endpoint ∈ endpoints,
          NamedPrefix assignment.claimed after (claimName clientV4Pool correlationID [attachmentKey endpoint])))
      (Left correlationID before) := by
  have idle (s : Store) (same : s = before) : Progress correlationID before [] s := by
    rw [same]
    exact progress_refl correlationID before
  unfold srv6Intent
  cases construct : interp.serviceType with
  | vlan => exact fun s same => ⟨[], idle s same⟩
  | acl => exact fun s same => ⟨[], idle s same⟩
  | macVRF =>
      apply triple_ite
      · exact fun _ s same => ⟨[], idle s same⟩
      · intro _
        have made : Triple (fun s => s = before) (srv6Endpoints endpoints) (fun _ s => s = before)
            (Left correlationID before) := by
          unfold srv6Endpoints
          split
          · exact fun s same => ⟨[], idle s same⟩
          · exact triple_weaken _ _ _ _ _ _ _
              (triple_make_endpoints _ endpoints _ _ fun s same => ⟨[], idle s same⟩) (fun _ same => same)
              (fun _ _ entered => entered.2) fun _ _ out => out
        refine triple_bind _ _ _ _ _ _ made fun endpoints => ?_
        refine triple_bind _ _ _ _ _ _ (triple_make_intent _ _ _ fun s same => ⟨[], idle s same⟩) fun intent => ?_
        exact fun s same => ⟨idle s same, fun routed => by cases routed⟩
  | ipVRF =>
      refine triple_bind _ _ _ _ _ _ (triple_claim_gateways interp.tenant correlationID answers endpoints 0 before
        fun later _ below => clean construct later (by omega)) fun result => ?_
      refine triple_bind _ _ _ _ _ _ (triple_make_intent _ _ _ fun s entered => ⟨_, entered.1⟩) fun intent => ?_
      exact fun s entered => ⟨entered.1, fun _ => entered.2⟩

theorem triple_build_intent (validateAllOrNothing : NormalizedServiceIntent → Option Message) (interp : Interpretation)
    (answers : CallAnswers) (clean : CleanCall before correlationID interp answers) :
    Triple (fun s => s = before) (buildIntent fallback validateAllOrNothing interp correlationID answers)
      (fun assignment after => Progress correlationID before assignment.claimed after ∧
        (ClaimsPrefixes interp → ∀ endpoint ∈ interp.endpoints,
          NamedPrefix assignment.claimed after (prefixClaimName correlationID endpoint)))
      (Left correlationID before) := by
  have idle (s : Store) (same : s = before) : Progress correlationID before [] s := by
    rw [same]
    exact progress_refl correlationID before
  refine triple_bind _ _ _ _ _ _ (triple_make_endpoints plainEndpoint interp.endpoints _ _ fun s same =>
    ⟨[], idle s same⟩) fun made => ?_
  intro s entered
  obtain ⟨isMade, same⟩ := entered
  have built : Triple (fun s => s = before)
      (constructIntent fallback interp (normalizedACL interp) (deterministicEndpoints made) correlationID answers)
      (fun assignment after => Progress correlationID before assignment.claimed after ∧
        (ClaimsPrefixes interp → ∀ endpoint ∈ interp.endpoints,
          NamedPrefix assignment.claimed after (prefixClaimName correlationID endpoint)))
      (Left correlationID before) := by
    have length : (deterministicEndpoints made).length = interp.endpoints.length := by
      rw [isMade, deterministicEndpoints, List.length_insertionSort, List.length_map]
    apply triple_ite
    · intro srv6
      refine triple_weaken _ _ _ _ _ _ _ (triple_srv6_intent correlationID before interp _ (deterministicEndpoints made)
        answers.subnets fun routed position below => clean.prefixes ⟨srv6, routed⟩ position (length ▸ below))
        (fun _ same => same) ?_ fun _ _ out => out
      intro assignment after entered
      refine ⟨entered.1, fun claims endpoint member => ?_⟩
      exact entered.2 claims.2 (plainEndpoint endpoint)
        (isMade ▸ (mem_plain_endpoints interp _).mpr ⟨endpoint, member, rfl⟩)
    · intro vxlan
      refine triple_weaken _ _ _ _ _ _ _ (triple_vxlan_intent fallback correlationID before interp _
        (deterministicEndpoints made) answers vxlan (fun none => unnamed_of_nil interp (isMade ▸ none)) clean) idle
        (fun _ _ progress => ⟨progress, fun claims => absurd claims.1 vxlan⟩) fun _ _ out => out
  refine triple_bind _ _ _ _ _ _ built (fun assignment => ?_) s same
  intro after entered
  cases validateAllOrNothing assignment.intent with
  | some causes => exact ⟨_, entered.1⟩
  | none => exact entered

end Building

/- Where the intent carries what was claimed for it. A vlan that the operator named is
   carried without a claim. -/
structure NamesClaims (interp : Interpretation) (assignment : Assignment) : Prop where
  l2vni : ∀ vni ∈ assignment.intent.l2vni, .number l2vniIndex vni ∈ assignment.claimed
  l3vni : ∀ vni ∈ assignment.intent.l3vni, .number l3vniIndex vni ∈ assignment.claimed
  rdRt : ∀ rdRt ∈ assignment.intent.rdRt, ∃ number, rdRt = rdRtOf number ∧ .number extcommIndex number ∈ assignment.claimed
  vlan : ¬ namesVLAN interp → ∀ endpoint ∈ assignment.intent.endpoints, ∀ vlan ∈ endpoint.vlan,
    .number vlanIndex vlan ∈ assignment.claimed
  gateways : ∀ endpoint ∈ assignment.intent.endpoints, ∀ prefixes ∈ endpoint.prefixes, ∃ claimed gateway before after,
    gatewayAddress claimed before = (after, .ok gateway) ∧ prefixes = [gateway] ∧ .subnet claimed ∈ assignment.claimed

section Names
variable (fallback : Bool) (correlationID : String) (before after : Store)

theorem make_intent_ran (intent made : NormalizedServiceIntent) (ran : makeIntent intent before = (after, .ok made)) :
    made = intent := by
  unfold makeIntent at ran
  cases valid : intent.make with
  | none =>
      rw [valid] at ran
      cases ran
  | some checked =>
      rw [valid] at ran
      cases ran
      exact intent_make_some intent made valid

theorem make_endpoint_ran (endpoint made : Endpoint) (ran : makeEndpoint endpoint before = (after, .ok made)) :
    made = endpoint := by
  unfold makeEndpoint at ran
  cases valid : endpoint.make with
  | none =>
      rw [valid] at ran
      cases ran
  | some checked =>
      rw [valid] at ran
      cases ran
      exact endpoint_make_some endpoint made valid

theorem make_endpoints_ran {α : Type} (build : α → Endpoint) (elements : List α) (made : List Endpoint)
    (ran : mapEach (fun element => makeEndpoint (build element)) elements before = (after, .ok made)) :
    made = elements.map build := by
  cases make_endpoints build elements before with
  | inl outcome =>
      rw [outcome] at ran
      cases ran
      rfl
  | inr outcome =>
      rw [outcome] at ran
      cases ran

theorem l2_endpoints_ran (endpoints : List Endpoint) (service : String) (answers : NumberAnswers)
    (result : List Endpoint × List Identifier)
    (ran : l2Endpoints fallback endpoints correlationID service answers before = (after, .ok result)) :
    ∃ vlan, (∀ endpoint ∈ result.1, endpoint.vlan = some vlan ∧ endpoint.prefixes = none) ∧
      (namedVLANs endpoints = [] → .number vlanIndex vlan ∈ result.2) := by
  have onVLAN (vlan : Int) (made : List Endpoint) (s mid : Store)
      (ran : mapEach (fun (endpoint : Endpoint) => makeEndpoint
        { node := endpoint.node, attachment := endpoint.attachment, vlan := some vlan }) endpoints s = (mid, .ok made)) :
      ∀ endpoint ∈ made, endpoint.vlan = some vlan ∧ endpoint.prefixes = none := by
    rw [make_endpoints_ran s mid _ endpoints made ran]
    intro endpoint member
    obtain ⟨asked, _, same⟩ := List.mem_map.mp member
    rw [← same]
    exact ⟨rfl, rfl⟩
  unfold l2Endpoints at ran
  cases named : namedVLANs endpoints with
  | nil =>
      simp only [named] at ran
      obtain ⟨mid, vlan, _, later⟩ := bind_ran before _ _ after result ran
      obtain ⟨last, made, isMade, ends⟩ := bind_ran mid _ _ after result later
      cases ends
      exact ⟨vlan, onVLAN vlan _ _ _ isMade, fun _ => List.mem_singleton_self _⟩
  | cons vlan rest =>
      cases rest with
      | nil =>
          simp only [named] at ran
          obtain ⟨mid, made, isMade, ends⟩ := bind_ran before _ _ after result ran
          cases ends
          exact ⟨vlan, onVLAN vlan _ _ _ isMade, fun empty => by cases empty⟩
      | cons other more =>
          simp only [named] at ran
          cases ran

theorem claim_gateways_ran (tenant : String) (answers : Nat → PrefixAnswers) (endpoints : List Endpoint) (position : Nat)
    (result : List Endpoint × List Identifier)
    (ran : claimGateways tenant correlationID answers position endpoints before = (after, .ok result)) :
    ∀ endpoint ∈ result.1, endpoint.vlan = none ∧ ∀ prefixes ∈ endpoint.prefixes, ∃ claimed gateway first last,
      gatewayAddress claimed first = (last, .ok gateway) ∧ prefixes = [gateway] ∧ .subnet claimed ∈ result.2 := by
  induction endpoints generalizing position before result with
  | nil =>
      cases ran
      exact fun endpoint member => absurd member List.not_mem_nil
  | cons endpoint rest ih =>
      obtain ⟨first, claimed, _, ran⟩ := bind_ran before _ _ after result ran
      obtain ⟨last, gateway, isGateway, ran⟩ := bind_ran first _ _ after result ran
      obtain ⟨made, checked, isMade, ran⟩ := bind_ran last _ _ after result ran
      obtain ⟨mid, later, isLater, ends⟩ := bind_ran made _ _ after result ran
      cases ends
      intro other member
      cases List.mem_cons.mp member with
      | inl same =>
          rw [same, make_endpoint_ran _ _ _ _ isMade]
          refine ⟨rfl, fun prefixes named => ?_⟩
          cases named
          exact ⟨claimed, gateway, first, last, isGateway, rfl, List.mem_cons_self⟩
      | inr inRest =>
          obtain ⟨unnamed, gateways⟩ := ih made (position + 1) later isLater other inRest
          refine ⟨unnamed, fun prefixes named => ?_⟩
          obtain ⟨held, address, start, stop, computed, single, listed⟩ := gateways prefixes named
          exact ⟨held, address, start, stop, computed, single, List.mem_cons_of_mem _ listed⟩

theorem vxlan_intent_names (interp : Interpretation) (acl : Option ACL) (endpoints : List Endpoint)
    (plain : ∀ endpoint ∈ endpoints, endpoint.prefixes = none)
    (unnamed : ¬ namesVLAN interp → namedVLANs endpoints = [] ∧ ∀ endpoint ∈ endpoints, endpoint.vlan = none)
    (answers : CallAnswers) (assignment : Assignment)
    (ran : vxlanIntent fallback interp acl endpoints correlationID answers before = (after, .ok assignment)) :
    NamesClaims interp assignment := by
  unfold vxlanIntent at ran
  cases construct : interp.serviceType with
  | acl =>
      simp only [construct] at ran
      obtain ⟨mid, intent, isIntent, ends⟩ := bind_ran before _ _ after assignment ran
      cases ends
      rw [make_intent_ran _ _ _ _ isIntent]
      exact {
        l2vni := fun _ named => by cases named
        l3vni := fun _ named => by cases named
        rdRt := fun _ named => by cases named
        vlan := fun noVLAN endpoint member vlan named => by
          rw [(unnamed noVLAN).2 endpoint member] at named
          cases named
        gateways := fun endpoint member prefixes named => by
          rw [plain endpoint member] at named
          cases named }
  | vlan =>
      simp only [construct] at ran
      obtain ⟨mid, made, isMade, ran⟩ := bind_ran before _ _ after assignment ran
      obtain ⟨vlan, carried, claimed⟩ := l2_endpoints_ran fallback correlationID before mid endpoints _ _ made isMade
      obtain ⟨last, intent, isIntent, ends⟩ := bind_ran mid _ _ after assignment ran
      cases ends
      rw [make_intent_ran _ _ _ _ isIntent]
      exact {
        l2vni := fun _ named => by cases named
        l3vni := fun _ named => by cases named
        rdRt := fun _ named => by cases named
        vlan := fun noVLAN endpoint member number named => by
          rw [(carried endpoint member).1] at named
          cases named
          exact claimed (unnamed noVLAN).1
        gateways := fun endpoint member prefixes named => by
          rw [(carried endpoint member).2] at named
          cases named }
  | macVRF =>
      simp only [construct] at ran
      obtain ⟨mid, made, isMade, ran⟩ := bind_ran before _ _ after assignment ran
      obtain ⟨vlan, carried, claimed⟩ := l2_endpoints_ran fallback correlationID before mid endpoints _ _ made isMade
      obtain ⟨_, l2vni, _, ran⟩ := bind_ran mid _ _ after assignment ran
      obtain ⟨_, rt, _, ran⟩ := bind_ran _ _ _ after assignment ran
      obtain ⟨_, routed, _, ran⟩ := bind_ran _ _ _ after assignment ran
      obtain ⟨_, intent, isIntent, ends⟩ := bind_ran _ _ _ after assignment ran
      cases ends
      rw [make_intent_ran _ _ _ _ isIntent]
      exact {
        l2vni := fun vni named => by
          cases named
          simp
        l3vni := fun vni named => by
          have isRouted : routed.1 = some vni := named
          simp [isRouted]
        rdRt := fun rdRt named => by
          cases named
          exact ⟨rt, rfl, by simp⟩
        vlan := fun noVLAN endpoint member number named => by
          rw [(carried endpoint member).1] at named
          cases named
          simp [claimed (unnamed noVLAN).1]
        gateways := fun endpoint member prefixes named => by
          rw [(carried endpoint member).2] at named
          cases named }
  | ipVRF =>
      simp only [construct] at ran
      obtain ⟨_, made, isMade, ran⟩ := bind_ran before _ _ after assignment ran
      obtain ⟨_, l3vni, _, ran⟩ := bind_ran _ _ _ after assignment ran
      obtain ⟨_, rt, _, ran⟩ := bind_ran _ _ _ after assignment ran
      obtain ⟨_, intent, isIntent, ends⟩ := bind_ran _ _ _ after assignment ran
      cases ends
      rw [make_intent_ran _ _ _ _ isIntent]
      have bare (endpoint : Endpoint) (member : endpoint ∈ made) : endpoint.vlan = none ∧ endpoint.prefixes = none := by
        rw [make_endpoints_ran _ _ _ endpoints made isMade] at member
        obtain ⟨asked, _, same⟩ := List.mem_map.mp member
        rw [← same]
        exact ⟨rfl, rfl⟩
      exact {
        l2vni := fun _ named => by cases named
        l3vni := fun vni named => by
          cases named
          simp
        rdRt := fun rdRt named => by
          cases named
          exact ⟨rt, rfl, by simp⟩
        vlan := fun _ endpoint member number named => by
          rw [(bare endpoint member).1] at named
          cases named
        gateways := fun endpoint member prefixes named => by
          rw [(bare endpoint member).2] at named
          cases named }

theorem srv6_endpoints_ran (endpoints made : List Endpoint)
    (ran : srv6Endpoints endpoints before = (after, .ok made)) :
    ∃ declared, (namedVLANs endpoints = [] → declared = none) ∧
      ∀ endpoint ∈ made, endpoint.vlan = declared ∧ endpoint.prefixes = none := by
  have bare (declared : Option Int)
      (ran : mapEach (fun (endpoint : Endpoint) => makeEndpoint
        { node := endpoint.node, attachment := endpoint.attachment, vlan := declared }) endpoints before = (after, .ok made)) :
      ∀ endpoint ∈ made, endpoint.vlan = declared ∧ endpoint.prefixes = none := by
    rw [make_endpoints_ran _ _ _ endpoints made ran]
    intro endpoint member
    obtain ⟨asked, _, same⟩ := List.mem_map.mp member
    rw [← same]
    exact ⟨rfl, rfl⟩
  unfold srv6Endpoints at ran
  cases named : namedVLANs endpoints with
  | nil =>
      simp only [named] at ran
      exact ⟨none, fun _ => rfl, bare none ran⟩
  | cons vlan rest =>
      cases rest with
      | nil =>
          simp only [named] at ran
          exact ⟨some vlan, fun empty => absurd empty (List.cons_ne_nil vlan []), bare (some vlan) ran⟩
      | cons other more =>
          simp only [named] at ran
          cases ran

theorem srv6_intent_names (interp : Interpretation) (acl : Option ACL) (endpoints : List Endpoint)
    (unnamed : ¬ namesVLAN interp → namedVLANs endpoints = []) (answers : Nat → PrefixAnswers) (assignment : Assignment)
    (ran : srv6Intent interp acl endpoints correlationID answers before = (after, .ok assignment)) :
    NamesClaims interp assignment := by
  unfold srv6Intent at ran
  cases construct : interp.serviceType with
  | vlan =>
      simp only [construct] at ran
      cases ran
  | acl =>
      simp only [construct] at ran
      cases ran
  | macVRF =>
      simp only [construct] at ran
      split at ran
      · cases ran
      · obtain ⟨_, made, isMade, ran⟩ := bind_ran before _ _ after assignment ran
        obtain ⟨_, intent, isIntent, ends⟩ := bind_ran _ _ _ after assignment ran
        cases ends
        rw [make_intent_ran _ _ _ _ isIntent]
        obtain ⟨declared, absent, carried⟩ := srv6_endpoints_ran before _ endpoints made isMade
        exact {
          l2vni := fun _ named => by cases named
          l3vni := fun _ named => by cases named
          rdRt := fun _ named => by cases named
          vlan := fun noVLAN endpoint member number named => by
            rw [(carried endpoint member).1, absent (unnamed noVLAN)] at named
            cases named
          gateways := fun endpoint member prefixes named => by
            rw [(carried endpoint member).2] at named
            cases named }
  | ipVRF =>
      simp only [construct] at ran
      obtain ⟨_, made, isMade, ran⟩ := bind_ran before _ _ after assignment ran
      obtain ⟨_, intent, isIntent, ends⟩ := bind_ran _ _ _ after assignment ran
      cases ends
      rw [make_intent_ran _ _ _ _ isIntent]
      have gateways := claim_gateways_ran correlationID before _ interp.tenant answers endpoints 0 made isMade
      exact {
        l2vni := fun _ named => by cases named
        l3vni := fun _ named => by cases named
        rdRt := fun _ named => by cases named
        vlan := fun _ endpoint member number named => by
          rw [(gateways endpoint member).1] at named
          cases named
        gateways := fun endpoint member => (gateways endpoint member).2 }

-- What an intent was built with, its own fields carry.
theorem build_intent_names (validateAllOrNothing : NormalizedServiceIntent → Option Message) (interp : Interpretation)
    (answers : CallAnswers) (assignment : Assignment)
    (ran : buildIntent fallback validateAllOrNothing interp correlationID answers before = (after, .ok assignment)) :
    NamesClaims interp assignment := by
  obtain ⟨_, made, isMade, ran⟩ := bind_ran before _ _ after assignment ran
  obtain ⟨_, built, isBuilt, ran⟩ := bind_ran _ _ _ after assignment ran
  have same : built = assignment := by
    cases validated : validateAllOrNothing built.intent with
    | some causes => simp [validated] at ran
    | none =>
        simp only [validated] at ran
        cases ran
        rfl
  subst same
  have isPlain : made = interp.endpoints.map plainEndpoint := make_endpoints_ran _ _ plainEndpoint _ made isMade
  subst isPlain
  have absent (noVLAN : ¬ namesVLAN interp) (endpoint : Endpoint)
      (member : endpoint ∈ deterministicEndpoints (interp.endpoints.map plainEndpoint)) : endpoint.vlan = none := by
    obtain ⟨asked, inList, same⟩ := (mem_plain_endpoints interp endpoint).mp member
    rw [← same]
    cases named : asked.vlan with
    | none => exact named
    | some vlan => exact absurd (List.any_eq_true.mpr ⟨asked, inList, by simp [named]⟩) noVLAN
  have unnamed (noVLAN : ¬ namesVLAN interp) :
      namedVLANs (deterministicEndpoints (interp.endpoints.map plainEndpoint)) = [] := by
    have empty := List.filterMap_eq_nil_iff.mpr (absent noVLAN)
    simp [namedVLANs, empty]
  unfold constructIntent at isBuilt
  split at isBuilt
  · exact srv6_intent_names correlationID _ _ interp _ _ unnamed answers.subnets built isBuilt
  · refine vxlan_intent_names fallback correlationID _ _ interp _ _ ?_ (fun noVLAN => ⟨unnamed noVLAN, absent noVLAN⟩)
      answers built isBuilt
    intro endpoint member
    obtain ⟨asked, _, same⟩ := (mem_plain_endpoints interp endpoint).mp member
    rw [← same]
    rfl

end Names

end AgenticNetops.Provisioning
