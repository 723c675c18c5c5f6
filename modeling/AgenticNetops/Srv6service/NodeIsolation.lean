import AgenticNetops.Fabricplan.Rendered
import AgenticNetops.Srv6service.Types

set_option autoImplicit false

/- Two services on one node. The service SID of a node is a function of the
   node's locator alone, so every service there decapsulates on the same SID; and
   the VRF rollback removes the whole table. -/
namespace AgenticNetops.Srv6service

open GoText Api Fabricplan KeyedRows

theorem service_sids_of_text (locators : GoMap String) (attachments : List Attachment) (out sids : GoMap String)
    (n : String) (derived : serviceSIDsOf locators attachments out = .ok sids) :
    sids.text n = out.text n ∨ serviceSIDFromLocator (locators.text n) = .ok (sids.text n) := by
  induction attachments generalizing out with
  | nil =>
      cases derived
      exact Or.inl rfl
  | cons att rest ih =>
      simp only [serviceSIDsOf, Fallible.guard_ok] at derived
      obtain ⟨_, derived⟩ := derived
      split at derived
      · cases derived
      · rename_i sid fromLocator
        rcases ih _ derived with same | found
        · by_cases here : n = att.node
          · subst here
            have stored : (out.set att.node sid).text att.node = sid := by simp [GoMap.set, GoMap.text]
            rw [same, stored]
            exact Or.inr fromLocator
          · have kept : (out.set att.node sid).text n = out.text n :=
              congrArg (fun found => found.getD "") (get_set_other out att.node n sid here)
            exact Or.inl (same.trans kept)
        · exact Or.inr found

theorem service_sid_of_node (spec : SRv6ServiceSpec) (locators sids : GoMap String) (n : String)
    (derived : serviceSIDs spec locators = .ok sids) (present : sids.text n ≠ "") :
    serviceSIDFromLocator (locators.text n) = .ok (sids.text n) := by
  rcases service_sids_of_text locators spec.attachments [] sids n derived with empty | found
  · exact absurd empty present
  · exact found

section Isolation
variable (vrfTable : String → String)

/- Every row and route the ops write is, after some further step, what it was
   before that step. -/
def KeepsWritten (ops : List SRv6Op) (before after : DeviceRows) : Prop :=
  ∀ key, Written (opsActs vrfTable ops) key → after key = before key

def afterOps (np : SRv6NodePlan) (rows : DeviceRows) : DeviceRows := run (opsActs vrfTable np.ops) rows

def afterRollback (np : SRv6NodePlan) (rows : DeviceRows) : DeviceRows := run (opsActs vrfTable np.rollback) rows

-- Applying b after a leaves what a wrote.
def OpsIsolated (a b : SRv6NodePlan) (rows : DeviceRows) : Prop :=
  KeepsWritten vrfTable a.ops (afterOps vrfTable a rows) (afterOps vrfTable b (afterOps vrfTable a rows))

-- Rolling b back, once both are applied, leaves what a wrote.
def RollbackIsolated (a b : SRv6NodePlan) (rows : DeviceRows) : Prop :=
  KeepsWritten vrfTable a.ops (afterOps vrfTable b (afterOps vrfTable a rows))
    (afterRollback vrfTable b (afterOps vrfTable b (afterOps vrfTable a rows)))

variable (spec : SRv6ServiceSpec) (alloc : Fabricplan.Allocations) (opts : SRv6Options) (n : String)
  (np : SRv6NodePlan)

theorem ops_write_decap (node : RenderedNode spec alloc opts n np) :
    outcome (opsActs vrfTable np.ops) (.route6 node.self.sid "" 1024) =
      some (some ["End.DT46", vrfTable (vrfName alloc.serviceID), vrfName alloc.serviceID]) := by
  rw [node.ops, render_ops_acts]
  cases node.pinned <;> simp [outcome, Act.decides, GcuStep.act, coversClient]

theorem ops_write_vrf_row (node : RenderedNode spec alloc opts n np) :
    Written (opsActs vrfTable np.ops) (.configRow "VRF" (pointerRow ("/VRF/" ++ vrfName alloc.serviceID))) := by
  refine ⟨[], ?_⟩
  rw [node.ops, render_ops_acts]
  have table : pointerTable ("/VRF/" ++ vrfName alloc.serviceID) = "VRF" := by
    simp [pointerTable]
  simp [GcuStep.act, table]

theorem ops_keep_config_rows (node : RenderedNode spec alloc opts n np) (table key : String) :
    ∀ act ∈ opsActs vrfTable np.ops, act.decides (.configRow table key) ≠ some none := by
  rw [node.ops, render_ops_acts]
  cases node.pinned <;> simp [Act.decides, GcuStep.act, coversClient]

theorem rollback_erases_vrf_table (node : RenderedNode spec alloc opts n np) (key : String) :
    outcome (opsActs vrfTable np.rollback) (.configRow "VRF" key) = some none := by
  have table : pointerTable "/VRF" = "VRF" := by decide
  have whole : isTablePath "/VRF" = true := by decide
  rw [node.rollback, render_rollback_acts]
  simp [outcome_append, outcome, Act.decides, GcuStep.act, coversClient, table, whole]

/- The SID route a wrote is b's once b is applied: one prefix, source and metric,
   and another VRF to decapsulate into. -/
theorem decap_overwritten (specB : SRv6ServiceSpec) (allocB : Fabricplan.Allocations) (optsB : SRv6Options)
    (npB : SRv6NodePlan) (nodeA : RenderedNode spec alloc opts n np) (nodeB : RenderedNode specB allocB optsB n npB)
    (sameSid : nodeA.self.sid = nodeB.self.sid) (distinct : alloc.serviceID ≠ allocB.serviceID)
    (rows : DeviceRows) : ¬ OpsIsolated vrfTable np npB rows := by
  intro isolated
  have decapA := ops_write_decap vrfTable spec alloc opts n np nodeA
  have decapB := ops_write_decap vrfTable specB allocB optsB n npB nodeB
  rw [← sameSid] at decapB
  have kept := isolated _ (outcome_some_written _ _ _ decapA)
  simp only [afterOps, run_apply, decapA, decapB, Option.getD_some, Option.some.injEq, List.cons.injEq] at kept
  exact distinct (vrf_name_injective _ _ kept.2.2.1).symm

theorem vrf_row_removed (specB : SRv6ServiceSpec) (allocB : Fabricplan.Allocations) (optsB : SRv6Options)
    (npB : SRv6NodePlan) (nodeA : RenderedNode spec alloc opts n np) (nodeB : RenderedNode specB allocB optsB n npB)
    (rows : DeviceRows) : ¬ RollbackIsolated vrfTable np npB rows := by
  intro isolated
  have written := ops_write_vrf_row vrfTable spec alloc opts n np nodeA
  have kept := isolated _ written
  obtain ⟨value, member⟩ := written
  have afterA : afterOps vrfTable np rows (.configRow "VRF" (pointerRow ("/VRF/" ++ vrfName alloc.serviceID))) ≠ none :=
    write_present _ rows _ value member (ops_keep_config_rows vrfTable spec alloc opts n np nodeA _ _)
  have afterB := present_kept (opsActs vrfTable npB.ops) _ _ afterA
    (ops_keep_config_rows vrfTable specB allocB optsB n npB nodeB _ _)
  have erased := rollback_erases_vrf_table vrfTable specB allocB optsB n npB nodeB
    (pointerRow ("/VRF/" ++ vrfName alloc.serviceID))
  rw [afterRollback, run_apply, erased, Option.getD_some] at kept
  exact afterB kept.symm

end Isolation

-- The service SID two services get on one node is the same one.
theorem service_sids_agree (specA specB : SRv6ServiceSpec) (locators sidsA sidsB : GoMap String) (n : String)
    (derivedA : serviceSIDs specA locators = .ok sidsA) (derivedB : serviceSIDs specB locators = .ok sidsB)
    (presentA : sidsA.text n ≠ "") (presentB : sidsB.text n ≠ "") : sidsA.text n = sidsB.text n := by
  have fromA := service_sid_of_node specA locators sidsA n derivedA presentA
  have fromB := service_sid_of_node specB locators sidsB n derivedB presentB
  rw [fromA] at fromB
  exact Except.ok.inj fromB

/- Whatever the node holds and whichever table ids the image picks: neither half
   of tenant isolation holds for two services that share a node. -/
theorem services_on_one_node_not_isolated (vrfTable : String → String) (factsA factsB : SiteFacts)
    (specA specB : SRv6ServiceSpec) (allocA allocB : Allocation) (planA planB : SRv6Plan) (n : String)
    (npA npB : SRv6NodePlan) (rows : DeviceRows)
    (locators : factsB.locators = factsA.locators)
    (sidsA : serviceSIDs specA factsA.locators = .ok allocA.serviceSIDs)
    (sidsB : serviceSIDs specB factsB.locators = .ok allocB.serviceSIDs)
    (renderedA : buildPlan specA allocA factsA = .ok planA) (renderedB : buildPlan specB allocB factsB = .ok planB)
    (distinct : allocA.allocations.serviceID ≠ allocB.allocations.serviceID)
    (onA : planA.get? n = some npA) (onB : planB.get? n = some npB) :
    ¬ OpsIsolated vrfTable npA npB rows ∧ ¬ RollbackIsolated vrfTable npA npB rows := by
  obtain ⟨nodeA⟩ := rendered_node _ _ _ planA n npA renderedA onA
  obtain ⟨nodeB⟩ := rendered_node _ _ _ planB n npB renderedB onB
  obtain ⟨sidA, presentA⟩ := render_attach_sid _ _ _ n nodeA.self nodeA.selfRendered
  obtain ⟨sidB, presentB⟩ := render_attach_sid _ _ _ n nodeB.self nodeB.selfRendered
  rw [sidA] at presentA
  rw [sidB] at presentB
  rw [locators] at sidsB
  have agree := service_sids_agree specA specB factsA.locators _ _ n sidsA sidsB presentA presentB
  have sameSid : nodeA.self.sid = nodeB.self.sid := sidA.trans (agree.trans sidB.symm)
  exact ⟨decap_overwritten vrfTable _ _ _ n npA _ _ _ npB nodeA nodeB sameSid distinct rows,
    vrf_row_removed vrfTable _ _ _ n npA _ _ _ npB nodeA nodeB rows⟩

/- The pinned lab with a second access port on each leaf, and the services that
   attach to one port of both leaves. -/
def labFacts : SiteFacts :=
  { defaultSiteFacts with portMap := [("wan1", "Ethernet12"), ("wan2", "Ethernet16")] }

def labSpec (tenant port : String) : SRv6ServiceSpec where
  tenant := tenant
  construct := constructIPVRF
  signalling := signallingVPN
  attachments := [⟨"leaf01", port, ["10.1.0.1/24"]⟩, ⟨"leaf02", port, ["10.2.0.1/24"]⟩]

def labSids : GoMap String := [("leaf02", "fcbb:bbbb:4:11::/64"), ("leaf01", "fcbb:bbbb:3:11::/64")]

def labAllocation (serviceID : Int) (left right : String) : Allocation where
  allocations :=
    { serviceID, vrf := vrfName serviceID, clientPrefixes := [("leaf01", left), ("leaf02", right)] }
  serviceSIDs := labSids

def labPlan (tenant port : String) (serviceID : Int) (left right : String) : SRv6Plan :=
  match buildPlan (labSpec tenant port) (labAllocation serviceID left right) labFacts with
  | .ok plan => plan
  | .error _ => []

def labRed : SRv6Plan := labPlan "red" "wan1" 7 "192.168.1.0/24" "192.168.2.0/24"

def labBlue : SRv6Plan := labPlan "blue" "wan2" 8 "192.168.3.0/24" "192.168.4.0/24"

def onLeaf01 (plan : SRv6Plan) : SRv6NodePlan := (plan.get? "leaf01").getD { node := "leaf01" }

theorem services_on_lab_leaf_not_isolated :
    ¬ OpsIsolated (fun vrf => vrf) (onLeaf01 labRed) (onLeaf01 labBlue) (fun _ => none) ∧
      ¬ RollbackIsolated (fun vrf => vrf) (onLeaf01 labRed) (onLeaf01 labBlue) (fun _ => none) :=
  services_on_one_node_not_isolated (fun vrf => vrf) labFacts labFacts (labSpec "red" "wan1") (labSpec "blue" "wan2")
    (labAllocation 7 "192.168.1.0/24" "192.168.2.0/24") (labAllocation 8 "192.168.3.0/24" "192.168.4.0/24")
    labRed labBlue "leaf01" (onLeaf01 labRed) (onLeaf01 labBlue) (fun _ => none) rfl (by decide) (by decide)
    (by decide) (by decide) (by decide) (by decide) (by decide)

-- Distinct ids, ports and prefixes; blue takes red's SID route on leaf01.
theorem lab_services_break_isolation :
    serviceSIDs (labSpec "red" "wan1") labFacts.locators = .ok labSids ∧
    serviceSIDs (labSpec "blue" "wan2") labFacts.locators = .ok labSids ∧
    buildPlan (labSpec "red" "wan1") (labAllocation 7 "192.168.1.0/24" "192.168.2.0/24") labFacts = .ok labRed ∧
    buildPlan (labSpec "blue" "wan2") (labAllocation 8 "192.168.3.0/24" "192.168.4.0/24") labFacts = .ok labBlue ∧
    labFacts.portMap.port "wan1" ≠ labFacts.portMap.port "wan2" ∧
    ¬ (OpsIsolated (fun vrf => vrf) (onLeaf01 labRed) (onLeaf01 labBlue) (fun _ => none) ∧
      RollbackIsolated (fun vrf => vrf) (onLeaf01 labRed) (onLeaf01 labBlue) (fun _ => none)) := by
  refine ⟨by decide, by decide, by decide, by decide, by decide, ?_⟩
  rintro ⟨isolated, _⟩
  have written : Written (opsActs (fun vrf => vrf) (onLeaf01 labRed).ops) (.route6 "fcbb:bbbb:3:11::/64" "" 1024) :=
    outcome_some_written _ _ ["End.DT46", "Vrf7", "Vrf7"] (by decide)
  have kept := isolated _ written
  exact absurd kept (by decide)

end AgenticNetops.Srv6service
