import AgenticNetops.Srv6service.World

set_option autoImplicit false

/- Who holds an access port. A service yields to an older one that is not terminally
   refused and names one of its logical ports; what another service still has in
   force on a kernel port plays no part in the gate. -/
namespace AgenticNetops.Srv6service

open GoText Api Kubenet Fabricplan Pending Runs

-- The node plan puts the kernel port into a VRF.
def bindsPort (np : SRv6NodePlan) (port : String) : Bool :=
  np.ops.any fun op => op.gcu.any fun
    | .add path fields => path = "/INTERFACE/" ++ port && fields.any fun field => field.1 = "vrf_name"
    | .remove _ => false

-- No two services have an application in force on one port of one node.
def PortsExclusive (w : World) : Prop :=
  ∀ e other port, InForce w.log e → InForce w.log other → e.uid ≠ other.uid → e.call.node = other.call.node →
    ¬ (bindsPort e.call.plan port ∧ bindsPort other.call.plan port)

-- The spec has an attachment on the port that the application binds.
def wantsPortOf (site : Site) (spec : SRv6ServiceSpec) (e : Executed) : Bool :=
  spec.attachments.any fun att => att.node = e.call.node &&
    match site.facts.portMap.port att.port with
    | .ok port => bindsPort e.call.plan port
    | .error _ => false

-- The specs whose ops a pass can send: the current one and the applied one.
def sentSpecs (svc : SRv6Service) : List SRv6ServiceSpec := svc.spec :: svc.status.appliedSpec.toList

-- An older service of the namespace that is not terminally refused names one of the ports.
def heldByOlder (w : World) (svc : SRv6Service) : Bool :=
  w.services.any fun other => other.inNamespace = svc.inNamespace && holdsAgainst svc other &&
    (specPorts other.spec).any fun port => port ∈ specPorts svc.spec

/- A pass whose service wants a port that another one has in force: the gate has an
   older service to yield to. Its list of services is the current one. -/
def HoldersSeen (site : Site) (w : World) : Action → Prop
  | .reconcile uid _ answers =>
      answers.servicesListed = true ∧
        ∀ svc ∈ w.find uid, ∀ e ∈ w.log, InForce w.log e → e.uid ≠ uid →
          (∃ spec ∈ sentSpecs svc, wantsPortOf site spec e = true) → heldByOlder w svc = true
  | _ => True

instance (site : Site) (w : World) (action : Action) : Decidable (HoldersSeen site w action) :=
  match action with
  | .reconcile uid _ answers =>
      inferInstanceAs (Decidable (answers.servicesListed = true ∧
        ∀ svc ∈ w.find uid, ∀ e ∈ w.log, InForce w.log e → e.uid ≠ uid →
          (∃ spec ∈ sentSpecs svc, wantsPortOf site spec e = true) → heldByOlder w svc = true))
  | .create _ | .edit _ _ | .delete _ _ => isTrue trivial

theorem service_conflict_shared (svc other : SRv6Service)
    (shared : (specPorts other.spec).any fun port => port ∈ specPorts svc.spec) : serviceConflict svc other ≠ none := by
  have found : ((specPorts other.spec).find? fun port => port ∈ specPorts svc.spec).isSome := by
    rw [List.find?_isSome]
    simpa using shared
  obtain ⟨port, found⟩ := Option.isSome_iff_exists.mp found
  unfold serviceConflict
  by_cases same : other.spec.tenant = svc.spec.tenant ∧ attachmentKeys svc.spec = attachmentKeys other.spec
  · simp [same]
  · simp [same, found]

-- The gate refuses a service that an older one holds against.
theorem held_conflicts (w : World) (svc : SRv6Service) (networks : List Network) (answers : Answers)
    (listed : answers.servicesListed = true) (held : heldByOlder w svc = true) :
    checkConflicts svc (w.lists svc networks answers) ≠ none := by
  obtain ⟨other, member, holds⟩ := List.any_eq_true.mp held
  simp only [Bool.and_eq_true, decide_eq_true_eq] at holds
  obtain ⟨⟨sameNamespace, against⟩, shared⟩ := holds
  intro free
  simp only [checkConflicts, World.lists, listed, if_true, Option.or_eq_none_iff, List.findSome?_eq_none_iff] at free
  have counted : other ∈ ((w.services.filter fun o => o.inNamespace = svc.inNamespace).filter (holdsAgainst svc)) :=
    List.mem_filter.mpr ⟨List.mem_filter.mpr ⟨member, by simpa using sameNamespace⟩, against⟩
  exact service_conflict_shared svc other shared (free.1 other counted)

theorem interface_path_injective (a b : String) (same : "/INTERFACE/" ++ a = "/INTERFACE/" ++ b) : a = b := by
  have chars := congrArg String.toList same
  rw [String.toList_append, String.toList_append] at chars
  exact String.toList_inj.mp (List.append_cancel_left chars)

-- A rendered node binds the one port of its attachment.
theorem rendered_binds (spec : SRv6ServiceSpec) (alloc : Fabricplan.Allocations) (opts : SRv6Options) (n : String)
    (np : SRv6NodePlan) (node : RenderedNode spec alloc opts n np) (port : String) (binds : bindsPort np port = true) :
    port = node.self.port := by
  have added : "/INTERFACE/" ++ node.self.port = "/INTERFACE/" ++ port := by
    cases pinned : node.pinned <;> simpa [bindsPort, node.ops, renderOps, pinned] using binds
  exact (interface_path_injective _ _ added).symm

theorem plan_binds_wanted (site : Site) (spec : SRv6ServiceSpec) (alloc : Allocation) (plan : SRv6Plan)
    (rendered : buildPlan spec alloc site.facts = .ok plan) (e other : Executed) (port : String)
    (listed : e.call.node ∈ plan.keys) (own : e.call.plan = planNode plan e.call.node)
    (sameNode : e.call.node = other.call.node) (binds : bindsPort e.call.plan port) (bindsOther : bindsPort other.call.plan port) :
    wantsPortOf site spec other = true := by
  obtain ⟨node⟩ := rendered_node _ _ _ plan e.call.node _ rendered (plan_node_of_mem plan e.call.node listed)
  rw [own] at binds
  have bound := rendered_binds _ _ _ _ _ node port binds
  obtain ⟨att, member, named, resolved⟩ := render_attach_port _ _ _ _ node.self node.attached node.selfRendered
  refine List.any_eq_true.mpr ⟨att, member, ?_⟩
  subst bound
  have portFound : site.facts.portMap.port att.port = .ok node.self.port := resolved
  simp [named, sameNode, portFound, bindsOther]

/- What a pass applies on a node wants the port it binds, for one of the specs the
   pass can send; and the gate has let that pass through. -/
theorem pass_applies_wanted (site : Site) (lists : ConflictLists) (answers : Answers) (svc : SRv6Service)
    (store : Kuid.Store) (pass : Pass) (ended : PassEnd site lists answers svc store pass) (e : Executed)
    (member : e ∈ pass.calls) (applied : Applied e) :
    checkConflicts svc lists = none ∧
      ∀ (other : Executed) (port : String), e.call.node = other.call.node → bindsPort e.call.plan port →
        bindsPort other.call.plan port → ∃ spec ∈ sentSpecs svc, wantsPortOf site spec other = true := by
  have fromCall : ∀ spec alloc plan, spec ∈ sentSpecs svc → buildPlan spec alloc site.facts = .ok plan →
      PlanCall answers.apply plan e.call → ∀ (other : Executed) (port : String), e.call.node = other.call.node →
      bindsPort e.call.plan port → bindsPort other.call.plan port → ∃ spec ∈ sentSpecs svc, wantsPortOf site spec other = true := by
    rintro spec alloc plan sent rendered ⟨place, node, _, listed, same⟩ other port sameNode binds bindsOther
    have here : e.call.node = node := by rw [same]; rfl
    refine ⟨spec, sent, plan_binds_wanted site spec alloc plan rendered e other port (here ▸ listed) ?_ sameNode binds bindsOther⟩
    rw [here, same]
    rfl
  have current : svc.spec ∈ sentSpecs svc := List.mem_cons_self
  rcases ended with ⟨_, live⟩ | ⟨_, _, final⟩ | start
  · rcases live with here | ⟨_, _, _, _, _, here⟩ | ⟨alloc, plan, _, admitted, here⟩ | ⟨alloc, plan, _, admitted, _, _, here⟩
    · rw [here.calls] at member
      cases member
    · rw [here.calls] at member
      cases member
    · refine ⟨passes_gates_conflict site lists answers svc admitted.gates, ?_⟩
      rcases (here.calls e member).2.2.2 with inPlan | ⟨spec, prev, recorded, rendered, inPrev⟩
      · exact fromCall svc.spec alloc plan current admitted.rendered inPlan
      · exact fromCall spec alloc prev (by simp [sentSpecs, recorded]) rendered inPrev
    · refine ⟨passes_gates_conflict site lists answers svc admitted.gates, ?_⟩
      rw [here.calls, logged] at member
      obtain ⟨call, called, rfl⟩ := List.mem_map.mp member
      refine fromCall svc.spec alloc plan current admitted.rendered ?_
      rcases List.mem_append.mp called with apply | rollback
      · obtain ⟨node, listed, same⟩ := apply_plan_mem _ _ _ call apply
        exact ⟨.firstApply, node, by decide, listed, same⟩
      · obtain ⟨node, listed, same⟩ := rollback_plan_mem _ _ _ call rollback
        exact ⟨.firstRollback, node, by decide, listed, same⟩
  · have rollback := finalize_calls_rollback site answers svc e
    have undoes : e.call.site.isRollback = true := by
      rcases final with here | ⟨_, here⟩ | ⟨_, _, _, _, calls, _⟩
      · exact rollback (here.calls ▸ member)
      · exact rollback (here.calls ▸ member)
      · exact rollback (calls ▸ member)
    rw [applied.1] at undoes
    cases undoes
  · rw [start] at member
    cases member

theorem ports_exclusive_step (site : Site) (w w' : World) (action : Action) (exclusive : PortsExclusive w)
    (seen : HoldersSeen site w action) (step : Step site w action w') : PortsExclusive w' := by
  rcases step_cases site w w' action step with
    ⟨svc, rfl, _, rfl⟩ | ⟨svc, spec, rfl, _, rfl⟩ | ⟨svc, now, rfl, _, _, rfl⟩ |
    ⟨svc, networks, answers, rfl, found, ended, rfl⟩
  · exact exclusive
  · exact exclusive
  · exact exclusive
  · obtain ⟨listed, seen⟩ := seen
    -- a fresh application of this pass against one that was in force before it
    have apart : ∀ fresh old port, Open Applied RollsBack (w.pass site svc networks answers).calls fresh →
        InForce w.log old → old.uid ≠ svc.uid → fresh.call.node = old.call.node →
        ¬ (bindsPort fresh.call.plan port ∧ bindsPort old.call.plan port) := by
      rintro fresh old port opened before other sameNode ⟨binds, bindsOld⟩
      obtain ⟨member, applied⟩ := open_mem Applied RollsBack _ fresh opened
      obtain ⟨free, wanted⟩ := pass_applies_wanted site _ answers svc w.store _ ended fresh member applied
      have held := seen svc found old (open_mem Applied RollsBack _ old before).1 before other
        (wanted old port sameNode binds bindsOld)
      exact held_conflicts w svc networks answers listed held free
    have own : ∀ e, Open Applied RollsBack (w.pass site svc networks answers).calls e → e.uid = svc.uid := fun e opened =>
      (pass_calls_own site _ answers svc w.store _ ended e (open_mem Applied RollsBack _ e opened).1).1
    intro e other port eForce otherForce differ sameNode binds
    rcases (open_append Applied RollsBack w.log _ e).mp eForce with ⟨eOld, _⟩ | eFresh
    · rcases (open_append Applied RollsBack w.log _ other).mp otherForce with ⟨otherOld, _⟩ | otherFresh
      · exact exclusive e other port eOld otherOld differ sameNode binds
      · have uid := own other otherFresh
        exact apart other e port otherFresh eOld (uid ▸ differ) sameNode.symm ⟨binds.2, binds.1⟩
    · rcases (open_append Applied RollsBack w.log _ other).mp otherForce with ⟨otherOld, _⟩ | otherFresh
      · have uid := own e eFresh
        exact apart e other port eFresh otherOld (fun same => differ (uid.trans same.symm)) sameNode binds
      · exact differ ((own e eFresh).trans (own other otherFresh).symm)

/- In every run in which a service that wants a port in force for another one has an
   older service to yield to: a port of a node is one service's. -/
theorem ports_exclusive (site : Site) (actions : List Action) (w : World)
    (run : Reached site (HoldersSeen site) actions w) : PortsExclusive w := by
  refine run_invariant (Step site) (HoldersSeen site) PortsExclusive ?_ {} actions w ?_ run
  · exact fun w action w' exclusive seen step => ports_exclusive_step site w w' action exclusive seen step
  · exact fun _ _ _ inForce _ _ _ _ => inForce

/- Red applied on wan1 of both leaves, and a younger blue that wants the same port:
   the gate refuses it. -/
def labYoungerBlue : SRv6Service := { labService "blue" "wan1" with creationTimestamp := 5 }

def labRedReady : List Action :=
  [.create (labService "red" "wan1"), .reconcile "uid-red" [] (labAnswers 7 "192.168.1.0/24" "192.168.2.0/24"),
   .reconcile "uid-red" [] (labAnswers 7 "192.168.1.0/24" "192.168.2.0/24")]

def labBlueComes : List Action :=
  [.create labYoungerBlue, .reconcile "uid-blue" [] (labAnswers 8 "192.168.3.0/24" "192.168.4.0/24"),
   .reconcile "uid-blue" [] (labAnswers 8 "192.168.3.0/24" "192.168.4.0/24")]

theorem lab_port_refused : PortsExclusive ((World.play labSite (labRedReady ++ labBlueComes)).getD {}) :=
  ports_exclusive labSite (labRedReady ++ labBlueComes) _
    (world_played labSite (HoldersSeen labSite) (labRedReady ++ labBlueComes) (by decide))

/- Between the two, one pass of red finds SRv6 unproven on the site: red is terminally
   refused with its ops still on the leaves, and blue applies on the same port. -/
def labRedRefused : List Action :=
  [.reconcile "uid-red" [] { labAnswers 7 "192.168.1.0/24" "192.168.2.0/24" with capability := .ok [] }]

theorem lab_port_shared :
    Reached labSite (fun _ _ => True) (labRedReady ++ labRedRefused ++ labBlueComes)
      ((World.play labSite (labRedReady ++ labRedRefused ++ labBlueComes)).getD {}) ∧
    ¬ PortsExclusive ((World.play labSite (labRedReady ++ labRedRefused ++ labBlueComes)).getD {}) := by
  refine ⟨world_played labSite (fun _ _ => True) _ (by decide), fun exclusive => ?_⟩
  have shared : ∃ e ∈ ((World.play labSite (labRedReady ++ labRedRefused ++ labBlueComes)).getD {}).log,
      ∃ other ∈ ((World.play labSite (labRedReady ++ labRedRefused ++ labBlueComes)).getD {}).log,
        InForce ((World.play labSite (labRedReady ++ labRedRefused ++ labBlueComes)).getD {}).log e ∧
        InForce ((World.play labSite (labRedReady ++ labRedRefused ++ labBlueComes)).getD {}).log other ∧
        e.uid ≠ other.uid ∧ e.call.node = other.call.node ∧
        (bindsPort e.call.plan "Ethernet12" ∧ bindsPort other.call.plan "Ethernet12") := by decide
  obtain ⟨e, _, other, _, eForce, otherForce, differ, sameNode, binds⟩ := shared
  exact exclusive e other "Ethernet12" eForce otherForce differ sameNode binds

end AgenticNetops.Srv6service
