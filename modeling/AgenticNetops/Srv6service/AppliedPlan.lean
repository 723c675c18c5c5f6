import AgenticNetops.Api.Admission
import AgenticNetops.Srv6service.ReadyJustified
import AgenticNetops.Srv6service.Reuse

set_option autoImplicit false

/- The previous plan of an update: the applied spec over the allocation of the current
   one. It has the service SIDs of the current spec's nodes only, and the values that the
   pass has reused or claimed. -/
namespace AgenticNetops.Srv6service

open GoText Api Kuid Fabricplan Fallible KeyedRows Exits

def nodesOf (spec : SRv6ServiceSpec) : List String := spec.attachments.map Attachment.node

section Sids
variable (locators : GoMap String)

theorem service_sids_of_absent (attachments : List Attachment) (out sids : GoMap String) (n : String)
    (absent : n ∉ attachments.map Attachment.node) (derived : serviceSIDsOf locators attachments out = .ok sids) :
    sids.text n = out.text n := by
  induction attachments generalizing out with
  | nil =>
      cases derived
      rfl
  | cons att rest ih =>
      have other : n ≠ att.node := fun same => absent (by simp [same])
      have later : n ∉ rest.map Attachment.node := fun member => absent (List.mem_cons_of_mem _ member)
      simp only [serviceSIDsOf, guard_ok] at derived
      obtain ⟨_, derived⟩ := derived
      cases made : serviceSIDFromLocator (locators.text att.node) with
      | error message => simp [made] at derived
      | ok sid =>
          simp only [made] at derived
          rw [ih _ later derived]
          exact congrArg (fun found => found.getD "") (get_set_other out att.node n sid other)

theorem service_sids_of_present (attachments : List Attachment) (out sids : GoMap String) (n : String)
    (present : n ∈ attachments.map Attachment.node) (derived : serviceSIDsOf locators attachments out = .ok sids) :
    serviceSIDFromLocator (locators.text n) = .ok (sids.text n) := by
  induction attachments generalizing out with
  | nil => exact absurd present List.not_mem_nil
  | cons att rest ih =>
      simp only [serviceSIDsOf, guard_ok] at derived
      obtain ⟨_, derived⟩ := derived
      cases made : serviceSIDFromLocator (locators.text att.node) with
      | error message => simp [made] at derived
      | ok sid =>
          simp only [made] at derived
          cases List.mem_cons.mp present with
          | inl here =>
              cases service_sids_of_text locators rest _ sids n derived with
              | inl same =>
                  have stored : (out.set att.node sid).text n = sid := by simp [here, GoMap.set, GoMap.text]
                  rw [same, stored, here]
                  exact made
              | inr found => exact found
          | inr later => exact ih _ later derived

-- Two specs with one node have one service SID for it.
theorem service_sids_shared (spec other : SRv6ServiceSpec) (sids otherSids : GoMap String) (n : String)
    (derived : serviceSIDs spec locators = .ok sids) (otherDerived : serviceSIDs other locators = .ok otherSids)
    (member : n ∈ nodesOf spec) (otherMember : n ∈ nodesOf other) : sids.text n = otherSids.text n := by
  have found := service_sids_of_present locators spec.attachments [] sids n member derived
  have otherFound := service_sids_of_present locators other.attachments [] otherSids n otherMember otherDerived
  exact Except.ok.inj (found.symm.trans otherFound)

end Sids

section Rendering
variable (spec : SRv6ServiceSpec) (alloc other : Fabricplan.Allocations) (opts : SRv6Options)

-- What the rendering reads of an allocation.
structure SameReads : Prop where
  id : other.serviceID = alloc.serviceID
  vrf : other.vrf = "" ∨ other.vrf = vrfName other.serviceID
  sids : ∀ n ∈ nodesOf spec, other.serviceSIDs.text n = alloc.serviceSIDs.text n
  prefixes : ∀ n ∈ nodesOf spec, other.clientPrefixes.text n = alloc.clientPrefixes.text n

theorem render_attach_same (n : String) (sids : other.serviceSIDs.text n = alloc.serviceSIDs.text n)
    (prefixes : other.clientPrefixes.text n = alloc.clientPrefixes.text n) :
    renderAttach spec other opts n = renderAttach spec alloc opts n := by
  rw [renderAttach, renderAttach, sids, prefixes]

theorem gates_same (same : SameReads spec alloc other) (found : String × String) (passed : srv6Gates spec alloc opts = .ok found) :
    srv6Gates spec other opts = .ok found := by
  simp only [srv6Gates, guard_ok] at passed ⊢
  obtain ⟨known, ipVRF, kind, ports, passed⟩ := passed
  refine ⟨known, ipVRF, kind, ports, ?_⟩
  cases listed : spec.attachments with
  | nil => simp [listed] at passed
  | cons a rest =>
      cases rest with
      | nil => simp [listed] at passed
      | cons b more =>
          cases more with
          | cons c others => simp [listed] at passed
          | nil =>
              simp only [listed, guard_ok] at passed ⊢
              obtain ⟨named, distinct, positive, _, passed⟩ := passed
              refine ⟨named, distinct, by rw [same.id]; exact positive, ?_, passed⟩
              intro wrong
              cases same.vrf with
              | inl empty => exact wrong.1 empty
              | inr own => exact wrong.2 own

-- One spec over two allocations that agree on what is read renders one plan.
theorem rendered_same (same : SameReads spec alloc other) (plan : SRv6Plan) (rendered : forSRv6Service spec alloc opts = .ok plan) :
    forSRv6Service spec other opts = .ok plan := by
  rw [forSRv6Service] at rendered ⊢
  obtain ⟨nodes, passed, rendered⟩ := bind_ok _ _ _ rendered
  obtain ⟨first, second⟩ := nodes
  have attached := gates_attached spec alloc first second (srv6_gates_passed spec alloc opts first second passed)
  rw [gates_same spec alloc other opts same _ passed]
  have left := render_attach_same spec alloc other opts first (same.sids first attached.1) (same.prefixes first attached.1)
  have right := render_attach_same spec alloc other opts second (same.sids second attached.2) (same.prefixes second attached.2)
  change (do
    let a ← renderAttach spec other opts first
    let b ← renderAttach spec other opts second
    let planA ← renderNode spec opts (vrfName other.serviceID) first first a b
    let planB ← renderNode spec opts (vrfName other.serviceID) first second b a
    return [(first, planA), (second, planB)]) = Except.ok plan
  rw [left, right, same.id]
  exact rendered

-- A node plan shows the VRF and the peer's client prefix.
theorem node_plan_shows (vrf otherVRF first n : String) (self peer otherSelf otherPeer : Attach) (np : SRv6NodePlan)
    (rendered : renderNode spec opts vrf first n self peer = .ok np)
    (otherRendered : renderNode spec opts otherVRF first n otherSelf otherPeer = .ok np) :
    vrf = otherVRF ∧ peer.client = otherPeer.client := by
  obtain ⟨pinLink, pinned, clientAddr, ops, _⟩ := render_node_parts spec opts vrf first n self peer np rendered
  obtain ⟨otherLink, otherPinned, otherAddr, otherOps, _⟩ := render_node_parts spec opts otherVRF first n otherSelf otherPeer np otherRendered
  have same := ops.symm.trans otherOps
  rw [renderOps, renderOps] at same
  have named := congrArg (fun ops : List SRv6Op => (ops.head?.map Op.gcu)) same
  have steered := congrArg (fun ops : List SRv6Op => (ops[3]?.map Op.shell)) same
  simp only [List.head?_cons, Option.map_some, List.cons_append, Option.some.injEq, List.cons.injEq, GcuStep.add.injEq] at named
  have chars := congrArg String.toList named.1.1
  rw [String.toList_append, String.toList_append] at chars
  refine ⟨String.toList_inj.mp (List.append_cancel_left chars), ?_⟩
  simp only [List.cons_append, List.getElem?_cons_succ, List.getElem?_cons_zero, Option.map_some, Option.some.injEq,
    List.cons.injEq, IpCommand.steerReplace.injEq] at steered
  exact steered.1.1

-- Two allocations that render one plan agree on what the plan shows of them.
theorem same_plan_reads (plan : SRv6Plan) (rendered : forSRv6Service spec alloc opts = .ok plan)
    (again : forSRv6Service spec other opts = .ok plan) :
    other.serviceID = alloc.serviceID ∧
      ∀ n ∈ nodesOf spec, other.clientPrefixes.text n = alloc.clientPrefixes.text n ∧ other.serviceSIDs.text n ≠ "" := by
  obtain ⟨first, second, a, b, planA, planB, gates, attachA, attachB, nodeA, nodeB, made⟩ :=
    for_srv6_service_parts spec alloc opts plan rendered
  obtain ⟨first', second', a', b', planA', planB', _, attachA', attachB', nodeA', nodeB', made'⟩ :=
    for_srv6_service_parts spec other opts plan again
  rw [made] at made'
  simp only [List.cons.injEq, Prod.mk.injEq, and_true] at made'
  obtain ⟨⟨rfl, rfl⟩, rfl, rfl⟩ := made'
  have left := node_plan_shows spec opts _ _ first first a b a' b' planA nodeA nodeA'
  have right := node_plan_shows spec opts _ _ first second b a b' a' planB nodeB nodeB'
  have clientA := (render_attach_client spec alloc opts first a attachA).1
  have clientA' := (render_attach_client spec other opts first a' attachA').1
  have clientB := (render_attach_client spec alloc opts second b attachB).1
  have clientB' := (render_attach_client spec other opts second b' attachB').1
  have sidA := render_attach_sid spec other opts first a' attachA'
  have sidB := render_attach_sid spec other opts second b' attachB'
  have atFirst : other.clientPrefixes.text first = alloc.clientPrefixes.text first ∧ other.serviceSIDs.text first ≠ "" :=
    ⟨by rw [← clientA', ← right.2, clientA], sidA.1 ▸ sidA.2⟩
  have atSecond : other.clientPrefixes.text second = alloc.clientPrefixes.text second ∧ other.serviceSIDs.text second ≠ "" :=
    ⟨by rw [← clientB', ← left.2, clientB], sidB.1 ▸ sidB.2⟩
  refine ⟨(vrf_name_injective _ _ left.1).symm, ?_⟩
  intro n member
  obtain ⟨x, y, listed, named⟩ := gates.attachments
  rw [nodesOf, listed, List.map_cons, List.map_cons, List.map_nil, List.mem_cons, List.mem_singleton] at member
  cases named with
  | inl straight =>
      cases member with
      | inl here => rw [here, ← straight.1]; exact atFirst
      | inr here => rw [here, ← straight.2]; exact atSecond
  | inr swapped =>
      cases member with
      | inl here => rw [here, ← swapped.2]; exact atSecond
      | inr here => rw [here, ← swapped.1]; exact atFirst

end Rendering

section Again
variable (facts : SiteFacts) (spec later : SRv6ServiceSpec) (alloc used : Allocation)

/- The nodes of the applied spec are still attached, and the allocation that the pass
   uses has the applied one's id and its client prefixes. -/
structure StillServes : Prop where
  nodes : ∀ n ∈ nodesOf spec, n ∈ nodesOf later
  id : used.allocations.serviceID = alloc.allocations.serviceID
  prefixes : ∀ n ∈ nodesOf spec, used.allocations.clientPrefixes.text n = alloc.allocations.clientPrefixes.text n

-- A plan was rendered with no VRF name or the name of its id.
theorem rendered_vrf (plan : SRv6Plan) (built : buildPlan spec alloc facts = .ok plan) :
    alloc.allocations.vrf = "" ∨ alloc.allocations.vrf = vrfName alloc.allocations.serviceID := by
  rw [buildPlan, forSRv6Service] at built
  obtain ⟨nodes, passed, _⟩ := bind_ok _ _ _ built
  simp only [srv6Gates, guard_ok] at passed
  obtain ⟨_, _, _, _, passed⟩ := passed
  split at passed
  · simp only [guard_ok] at passed
    obtain ⟨_, _, _, own, _⟩ := passed
    by_cases unnamed : alloc.allocations.vrf = ""
    · exact Or.inl unnamed
    · exact Or.inr (by_contra fun foreign => own ⟨unnamed, foreign⟩)
  · cases passed

theorem built_again_iff (plan : SRv6Plan) (built : buildPlan spec alloc facts = .ok plan)
    (sids : serviceSIDs spec facts.locators = .ok alloc.serviceSIDs)
    (usedSids : serviceSIDs later facts.locators = .ok used.serviceSIDs)
    (named : used.allocations.vrf = "" ∨ used.allocations.vrf = vrfName used.allocations.serviceID) :
    buildPlan spec used facts = .ok plan ↔ StillServes spec later alloc used := by
  constructor
  · intro again
    obtain ⟨id, reads⟩ := same_plan_reads spec _ _ _ plan built again
    refine ⟨?_, id, fun n member => (reads n member).1⟩
    intro n member
    by_contra absent
    exact (reads n member).2 (service_sids_of_absent facts.locators later.attachments [] used.serviceSIDs n absent usedSids)
  · intro serves
    apply rendered_same spec _ _ _ _ plan built
    refine ⟨serves.id, named, ?_, serves.prefixes⟩
    intro n member
    exact service_sids_shared facts.locators later spec _ _ n usedSids sids (serves.nodes n member) member

end Again

section Later
variable (site : Site) (answers again : Answers) (svc later : SRv6Service) (store claimed againStore next : Store)
  (lists : ConflictLists) (alloc used : Allocation) (plan : SRv6Plan)

theorem reused_recorded (corrID : String) (reused : reuseAllocation later corrID site.facts.locators = some used) :
    later.status.allocations = some used.allocations := by
  rw [reuseAllocation] at reused
  cases recorded : later.status.allocations with
  | none => simp [recorded] at reused
  | some st =>
      simp only [recorded] at reused
      split at reused
      · cases reused
      split at reused
      · cases reused
      split at reused
      · cases reused
      split at reused
      · cases reused
      · cases reused
        rfl

/- The schema lets through an ip-vrf without VLAN and with two nodes, so that its nodes
   are the applied ones as soon as they hold them, and the record serves it. -/
theorem same_nodes_reused (admitted : Admitted site lists answers svc store alloc plan claimed)
    (recorded : later.status.allocations = some alloc.allocations) (correlated : later.status.correlationID = correlationID later)
    (schema : Api.Admitted later.spec) (construct : later.spec.construct = svc.spec.construct)
    (nodes : ∀ n ∈ nodesOf svc.spec, n ∈ nodesOf later.spec) (claims : Claimed site again later againStore used next) :
    used.allocations = alloc.allocations := by
  have serves := admitted_serves site lists answers svc store claimed alloc plan admitted
  have unreserved : later.spec.vlan = none := by
    have kind : svc.spec.construct ≠ constructMACVRF := by
      intro bridged
      have rendered := admitted.rendered
      rw [buildPlan, forSRv6Service] at rendered
      obtain ⟨_, passed, _⟩ := bind_ok _ _ _ rendered
      simp only [srv6Gates, guard_ok] at passed
      obtain ⟨_, other, _⟩ := passed
      rw [bridged] at other
      have chars := congrArg String.toList (not_not.mp other)
      split at chars
      · cases chars
      · rw [String.toList_append, String.toList_append] at chars
        cases chars
    cases vlan : later.spec.vlan with
    | none => rfl
    | some value =>
        have bound := schema.vlanBound value (by rw [vlan]; rfl)
        have bridged := schema.vlan.mp ⟨value, by rw [vlan]; rfl, bound⟩
        exact absurd (construct.symm.trans bridged) kind
  have again_serves : Serves later.spec site.facts.locators ⟨alloc.allocations, used.serviceSIDs⟩ := by
    refine ⟨claimed_sids site again later againStore used next claims, serves.positive, serves.vrf, ?_, Or.inl unreserved⟩
    intro att member
    obtain ⟨a, b, listed, _⟩ := schema.twoNodes
    obtain ⟨first, second, _, _, _, _, gates, _⟩ := for_srv6_service_parts _ _ _ plan admitted.rendered
    obtain ⟨x, y, attached, named⟩ := gates.attachments
    have differ : x.node ≠ y.node := by
      intro same
      cases named with
      | inl straight => exact gates.differ (straight.1.trans (same.trans straight.2.symm))
      | inr swapped => exact gates.differ (swapped.1.trans (same.symm.trans swapped.2.symm))
    have atX := nodes x.node (by simp [nodesOf, attached])
    have atY := nodes y.node (by simp [nodesOf, attached])
    have prefixX := serves.prefixes x (by simp [attached])
    have prefixY := serves.prefixes y (by simp [attached])
    rw [nodesOf, listed, List.map_cons, List.map_cons, List.map_nil, List.mem_cons, List.mem_singleton] at atX atY
    rw [listed, List.mem_cons, List.mem_singleton] at member
    change alloc.allocations.clientPrefixes.text att.node ≠ ""
    grind
  have reusable := serves_reused later (correlationID later) site.facts.locators ⟨alloc.allocations, used.serviceSIDs⟩ recorded
    correlated again_serves
  cases claims with
  | inl reused =>
      have same := Option.some.inj (reusable.symm.trans reused.1)
      rw [← same]
  | inr fresh => cases reusable.symm.trans fresh.1

end Later

section Applied
variable (site : Site) (lists : ConflictLists) (answers : Answers) (svc : SRv6Service) (store : Store)

/- Behind a pass that wrote Ready=True, the plan of the applied spec comes out of a later
   pass's allocation as it was applied exactly where that spec's nodes are still attached
   and its id and client prefixes are still the service's. A spec that the schema lets
   through and that keeps the construct decides it by its nodes alone. -/
theorem previous_plan_again_iff (ready : ReadyWritten (reconcile site lists answers svc (startPass svc store)).1) :
    ∃ alloc plan claimed, Admitted site lists answers svc store alloc plan claimed ∧
      ∀ (later : SRv6Service) (again : Answers) (againStore next : Store) (used : Allocation),
        recordOf later.status = recordOf (reconcile site lists answers svc (startPass svc store)).1.stored.status →
        Claimed site again later againStore used next →
        (renderAppliedPlan later.status.appliedSpec used site.facts = .ok (some plan) ↔
            StillServes svc.spec later.spec alloc used) ∧
          (Api.Admitted later.spec → later.spec.construct = svc.spec.construct → correlationID later = correlationID svc →
            (renderAppliedPlan later.status.appliedSpec used site.facts = .ok (some plan) ↔
              ∀ n ∈ nodesOf svc.spec, n ∈ nodesOf later.spec)) := by
  obtain ⟨alloc, plan, claimed, admitted, _, shown⟩ := (reconcile_ready_end site lists answers svc store).1 ready
  refine ⟨alloc, plan, claimed, admitted, ?_⟩
  intro later again againStore next used kept claims
  have record : recordOf later.status = newRecord svc alloc := kept.trans (congrArg Prod.fst shown)
  have recorded : later.status.allocations = some alloc.allocations := congrArg (fun found : Record => found.1) record
  have applied : later.status.appliedSpec = some svc.spec := congrArg (fun found : Record => found.2.1) record
  have correlated : later.status.correlationID = correlationID svc := congrArg (fun found : Record => found.2.2) record
  have named : used.allocations.vrf = "" ∨ used.allocations.vrf = vrfName used.allocations.serviceID := by
    cases claims with
    | inl reused =>
        have same := Option.some.inj (recorded.symm.trans (reused_recorded site later used _ reused.1))
        rw [← same]
        exact rendered_vrf site.facts svc.spec alloc plan admitted.rendered
    | inr fresh => exact Or.inr (allocate_allotted againStore next later.spec _ _ again.kuid used fresh.2).vrf
  have rebuilt := built_again_iff site.facts svc.spec later.spec alloc used plan admitted.rendered
    (admitted_serves site lists answers svc store claimed alloc plan admitted).sids
    (claimed_sids site again later againStore used next claims) named
  have read : renderAppliedPlan later.status.appliedSpec used site.facts = .ok (some plan) ↔
      buildPlan svc.spec used site.facts = .ok plan := by
    rw [applied, renderAppliedPlan]
    cases buildPlan svc.spec used site.facts with
    | error message => exact ⟨fun failed => (by cases failed), fun failed => (by cases failed)⟩
    | ok made => exact ⟨fun same => congrArg Except.ok (Option.some.inj (Except.ok.inj same)), fun same => by cases same; rfl⟩
  refine ⟨read.trans rebuilt, ?_⟩
  intro schema construct label
  rw [read, rebuilt]
  constructor
  · exact fun serves => serves.nodes
  · intro nodes
    have same := same_nodes_reused site answers again svc later store claimed againStore next lists alloc used plan admitted
      recorded (correlated.trans label.symm) schema construct nodes claims
    exact ⟨nodes, by rw [same], fun n _ => by rw [same]⟩

end Applied

/- The lab with a third leaf. Red is applied on leaf01 and leaf02; then its second
   attachment moves to leaf03. -/
def labThreeLeaves : Site :=
  ⟨{ labFacts with
      nodes := labFacts.nodes.set "leaf03" roleLeaf
      spineLinks := labFacts.spineLinks.set "leaf03" [("spine01", "2001:db8:1::7"), ("spine02", "2001:db8:2::7")]
      locators := labFacts.locators.set "leaf03" "fcbb:bbbb:5::/48" }, fun _ => ""⟩

def labThreeAnswers : Answers :=
  { labAnswers 7 "192.168.1.0/24" "192.168.2.0/24" with
    capability :=
      .ok [(keySAISRV6, "true"), (keySRv6Supported, "ip-vrf/vpn"), (keyProbeAttachments, "leaf01/wan1,leaf02/wan1,leaf03/wan1")] }

def labThreePass : Pass := (reconcile labThreeLeaves labAlone labThreeAnswers labFinalized (startPass labFinalized {})).1

def labRelocated : SRv6Service :=
  { labThreePass.stored with
    generation := 2
    spec := { labSpec "red" "wan1" with attachments := [⟨"leaf01", "wan1", ["10.1.0.1/24"]⟩, ⟨"leaf03", "wan1", ["10.2.0.1/24"]⟩] } }

def labRelocatedUse : Store × Except StageError Allocation :=
  allocate labThreePass.store labRelocated.spec (correlationID labRelocated) labThreeLeaves.facts.locators labThreeAnswers.kuid

def labUsed : Allocation :=
  match labRelocatedUse.2 with
  | .ok alloc => alloc
  | .error _ => ⟨⟨0, "", [], none⟩, []⟩

theorem lab_previous_plan_again :
    ReadyWritten labThreePass ∧
      ∃ alloc plan claimed, Admitted labThreeLeaves labAlone labThreeAnswers labFinalized {} alloc plan claimed ∧
        ∀ (later : SRv6Service) (again : Answers) (againStore next : Store) (used : Allocation),
          recordOf later.status = recordOf labThreePass.stored.status →
          Claimed labThreeLeaves again later againStore used next →
          (renderAppliedPlan later.status.appliedSpec used labThreeLeaves.facts = .ok (some plan) ↔
              StillServes labFinalized.spec later.spec alloc used) ∧
            (Api.Admitted later.spec → later.spec.construct = labFinalized.spec.construct →
              correlationID later = correlationID labFinalized →
              (renderAppliedPlan later.status.appliedSpec used labThreeLeaves.facts = .ok (some plan) ↔
                ∀ n ∈ nodesOf labFinalized.spec, n ∈ nodesOf later.spec)) :=
  have ready : ReadyWritten labThreePass := by decide +kernel
  ⟨ready, previous_plan_again_iff labThreeLeaves labAlone labThreeAnswers labFinalized {} ready⟩

-- The moved service passes the gates and claims, and its applied plan does not render.
theorem lab_previous_plan_lost :
    ReadyWritten labThreePass ∧
      recordOf labRelocated.status = recordOf labThreePass.stored.status ∧
      labRelocated.spec.tenant = labFinalized.spec.tenant ∧
      labRelocated.spec.construct = labFinalized.spec.construct ∧
      labRelocated.spec.signalling = labFinalized.spec.signalling ∧
      passesGates labThreeLeaves labAlone labThreeAnswers labRelocated = true ∧
      Claimed labThreeLeaves labThreeAnswers labRelocated labThreePass.store labUsed labRelocatedUse.1 ∧
      renderAppliedPlan labRelocated.status.appliedSpec labUsed labThreeLeaves.facts =
        .error [.lit "no service SID allocated for attachment node ", .str "leaf02"] := by
  refine ⟨by decide +kernel, by decide +kernel, rfl, rfl, rfl, by decide +kernel, Or.inr ⟨by decide +kernel, ?_⟩, by decide +kernel⟩
  decide +kernel

end AgenticNetops.Srv6service
