import AgenticNetops.Lib.Fallible
import AgenticNetops.Fabricplan.Device
import Std.Data.String.ToInt

set_option autoImplicit false

/- What a plan that forSRv6Service accepted looks like, so that later proofs read
   a node plan through its parts and never unfold the renderer again. -/
namespace AgenticNetops.Fabricplan

open GoText Api KeyedRows Fallible

theorem vrf_name_injective (a b : Int) (same : vrfName a = vrfName b) : a = b := by
  have chars : ("Vrf" ++ toString a).toList = ("Vrf" ++ toString b).toList := congrArg String.toList same
  rw [String.toList_append, String.toList_append] at chars
  have digits : toString a = toString b := String.toList_inj.mp (List.append_cancel_left chars)
  exact Int.repr_injective digits

structure RenderedNode (spec : SRv6ServiceSpec) (alloc : Allocations) (opts : SRv6Options) (n : String)
    (np : SRv6NodePlan) where
  self : Attach
  peer : Attach
  peerNode : String
  pinLink : String
  pinned : Bool
  clientAddr : String
  peerDiffers : peerNode ≠ n
  positive : 0 < alloc.serviceID
  attached : n ∈ spec.attachments.map Attachment.node
  selfRendered : renderAttach spec alloc opts n = .ok self
  peerRendered : renderAttach spec alloc opts peerNode = .ok peer
  ops : np.ops = renderOps (vrfName alloc.serviceID) n self peer pinLink pinned clientAddr
  rollback : np.rollback = renderRollback (vrfName alloc.serviceID) n self peer pinned

section Rendering
variable (spec : SRv6ServiceSpec) (alloc : Allocations) (opts : SRv6Options)

theorem render_attach_sid (n : String) (attach : Attach) (rendered : renderAttach spec alloc opts n = .ok attach) :
    attach.sid = alloc.serviceSIDs.text n ∧ attach.sid ≠ "" := by
  simp only [renderAttach, guard_ok] at rendered
  obtain ⟨present, _, _, rendered⟩ := rendered
  split at rendered
  · cases rendered
  · rw [guard_ok] at rendered
    obtain ⟨_, rendered⟩ := rendered
    split at rendered
    · cases rendered
    · cases rendered
      exact ⟨rfl, present⟩

-- The port of a rendered attachment is the one that the port map gives its logical name.
theorem render_attach_port (n : String) (attach : Attach) (attached : n ∈ spec.attachments.map Attachment.node)
    (rendered : renderAttach spec alloc opts n = .ok attach) :
    ∃ att ∈ spec.attachments, att.node = n ∧ opts.ports.port att.port = .ok attach.port := by
  obtain ⟨listed, member, named⟩ := List.mem_map.mp attached
  have some_found : (spec.attachments.find? fun att => att.node = n).isSome :=
    List.find?_isSome.mpr ⟨listed, member, by simpa using named⟩
  obtain ⟨att, found⟩ := Option.isSome_iff_exists.mp some_found
  simp only [renderAttach, guard_ok] at rendered
  obtain ⟨_, _, _, rendered⟩ := rendered
  split at rendered
  · cases rendered
  · rw [guard_ok] at rendered
    obtain ⟨_, rendered⟩ := rendered
    split at rendered
    · cases rendered
    · rename_i port resolved
      cases rendered
      refine ⟨att, List.mem_of_find?_eq_some found, by simpa using List.find?_some found, ?_⟩
      simpa [found] using resolved

theorem render_node_parts (vrf first n : String) (self peer : Attach) (np : SRv6NodePlan)
    (rendered : renderNode spec opts vrf first n self peer = .ok np) :
    ∃ pinLink pinned clientAddr,
      np.ops = renderOps vrf n self peer pinLink pinned clientAddr ∧
      np.rollback = renderRollback vrf n self peer pinned := by
  unfold renderNode at rendered
  split at rendered
  · cases rendered
  · rename_i pinLink _
    simp only at rendered
    split at rendered
    · cases rendered
    · rename_i clientAddr _
      cases rendered
      exact ⟨pinLink, _, clientAddr, rfl, rfl⟩

-- What the gates have let through: two attachments on two nodes and a positive id.
structure GatesPassed (first second : String) : Prop where
  differ : first ≠ second
  positive : 0 < alloc.serviceID
  attachments : ∃ a b, spec.attachments = [a, b] ∧
    ((first = a.node ∧ second = b.node) ∨ (first = b.node ∧ second = a.node))

theorem srv6_gates_passed (first second : String) (passed : srv6Gates spec alloc opts = .ok (first, second)) :
    GatesPassed spec alloc first second := by
  simp only [srv6Gates, guard_ok] at passed
  obtain ⟨_, _, _, _, passed⟩ := passed
  split at passed
  · rename_i a b listed
    simp only [guard_ok] at passed
    obtain ⟨_, distinct, positive, _, passed⟩ := passed
    split at passed
    · cases passed
      exact ⟨distinct, by omega, a, b, listed, Or.inl ⟨rfl, rfl⟩⟩
    · cases passed
      exact ⟨Ne.symm distinct, by omega, a, b, listed, Or.inr ⟨rfl, rfl⟩⟩
  · cases passed

theorem gates_attached (first second : String) (gates : GatesPassed spec alloc first second) :
    first ∈ spec.attachments.map Attachment.node ∧ second ∈ spec.attachments.map Attachment.node := by
  obtain ⟨a, b, listed, named⟩ := gates.attachments
  rw [listed]
  rcases named with ⟨rfl, rfl⟩ | ⟨rfl, rfl⟩
  · simp
  · simp

theorem for_srv6_service_steps (plan : SRv6Plan) (rendered : forSRv6Service spec alloc opts = .ok plan) :
    ∃ first second a b planA planB,
      srv6Gates spec alloc opts = .ok (first, second) ∧
      renderAttach spec alloc opts first = .ok a ∧ renderAttach spec alloc opts second = .ok b ∧
      renderNode spec opts (vrfName alloc.serviceID) first first a b = .ok planA ∧
      renderNode spec opts (vrfName alloc.serviceID) first second b a = .ok planB ∧
      plan = [(first, planA), (second, planB)] := by
  unfold forSRv6Service at rendered
  obtain ⟨⟨first, second⟩, passed, rendered⟩ := bind_ok _ _ _ rendered
  obtain ⟨a, attachA, rendered⟩ := bind_ok _ _ _ rendered
  obtain ⟨b, attachB, rendered⟩ := bind_ok _ _ _ rendered
  obtain ⟨planA, nodeA, rendered⟩ := bind_ok _ _ _ rendered
  obtain ⟨planB, nodeB, rendered⟩ := bind_ok _ _ _ rendered
  cases rendered
  exact ⟨first, second, a, b, planA, planB, passed, attachA, attachB, nodeA, nodeB, rfl⟩

theorem for_srv6_service_parts (plan : SRv6Plan) (rendered : forSRv6Service spec alloc opts = .ok plan) :
    ∃ first second a b planA planB,
      GatesPassed spec alloc first second ∧
      renderAttach spec alloc opts first = .ok a ∧ renderAttach spec alloc opts second = .ok b ∧
      renderNode spec opts (vrfName alloc.serviceID) first first a b = .ok planA ∧
      renderNode spec opts (vrfName alloc.serviceID) first second b a = .ok planB ∧
      plan = [(first, planA), (second, planB)] := by
  obtain ⟨first, second, a, b, planA, planB, passed, parts⟩ := for_srv6_service_steps spec alloc opts plan rendered
  exact ⟨first, second, a, b, planA, planB, srv6_gates_passed spec alloc opts first second passed, parts⟩

theorem rendered_node (plan : SRv6Plan) (n : String) (np : SRv6NodePlan)
    (rendered : forSRv6Service spec alloc opts = .ok plan) (entry : plan.get? n = some np) :
    Nonempty (RenderedNode spec alloc opts n np) := by
  obtain ⟨first, second, a, b, planA, planB, gates, attachA, attachB, nodeA, nodeB, rfl⟩ :=
    for_srv6_service_parts spec alloc opts plan rendered
  obtain ⟨firstAttached, secondAttached⟩ := gates_attached spec alloc first second gates
  by_cases isFirst : n = first
  · subst isFirst
    have same : planA = np := by simpa [GoMap.get?, List.lookup_cons] using entry
    subst same
    obtain ⟨pinLink, pinned, clientAddr, ops, rollback⟩ := render_node_parts spec opts _ _ _ _ _ _ nodeA
    exact ⟨⟨a, b, second, pinLink, pinned, clientAddr, Ne.symm gates.differ, gates.positive, firstAttached, attachA, attachB, ops, rollback⟩⟩
  · by_cases isSecond : n = second
    · subst isSecond
      have same : planB = np := by
        simpa [GoMap.get?, List.lookup_cons, beq_eq_false_iff_ne.mpr isFirst] using entry
      subst same
      obtain ⟨pinLink, pinned, clientAddr, ops, rollback⟩ := render_node_parts spec opts _ _ _ _ _ _ nodeB
      exact ⟨⟨b, a, first, pinLink, pinned, clientAddr, gates.differ, gates.positive, secondAttached, attachB, attachA, ops, rollback⟩⟩
    · simp [GoMap.get?, List.lookup_cons, beq_eq_false_iff_ne.mpr isFirst, beq_eq_false_iff_ne.mpr isSecond] at entry

end Rendering

theorem client_scope_ne_empty (n logic : String) : n ++ "/" ++ logic ≠ "" := by
  intro empty
  have chars := congrArg String.toList empty
  simp at chars

section Acts
variable (vrfTable : String → String) (vrf n : String) (self peer : Attach) (pinLink : String) (pinned : Bool)
  (clientAddr : String)

-- The acts of a rendered node, in order.
theorem render_ops_acts :
    opsActs vrfTable (renderOps vrf n self peer pinLink pinned clientAddr) =
      [GcuStep.act (.add ("/VRF/" ++ vrf) []), GcuStep.act (.add ("/INTERFACE/" ++ self.port) [("vrf_name", vrf)]),
        GcuStep.act (.add (gwKey self) []),
        .write (.route6 self.sid "" 1024) ["End.DT46", vrfTable vrf, vrf],
        .write (.vrfRoute (vrfTable vrf) peer.client) ["encap", peer.sidFn, srv6Uplink],
        .write (.route6 peer.loc "" 5) [pinLink, srv6Uplink]] ++
      (if pinned then [.write (.route6 peer.sidFn "::" 20) [pinLink, srv6Uplink]] else []) ++
      [.erase (coversClient (n ++ "/" ++ self.logic)), .write (.clientAddr (n ++ "/" ++ self.logic) clientAddr) ["eth1"],
        .write (.clientDefault (n ++ "/" ++ self.logic)) [trimSuffix self.gw "/24", "eth1"]] := by
  have clientScope := client_scope_ne_empty n self.logic
  cases pinned <;> simp [opsActs, opsUnits, renderOps, SRv6Op.units, IpCommand.acts, clientScope]

theorem render_rollback_acts :
    opsActs vrfTable (renderRollback vrf n self peer pinned) =
      (if pinned then [.erase (coversRoute6 peer.sidFn)] else []) ++
      [.erase (fun key => key = .vrfRoute (vrfTable vrf) peer.client), .erase (coversRoute6 self.sid),
        .erase (coversRoute6 peer.loc), GcuStep.act (.remove (gwKey self)),
        GcuStep.act (.remove ("/INTERFACE/" ++ self.port)), GcuStep.act (.remove "/VRF"),
        .erase (coversClient (n ++ "/" ++ self.logic))] := by
  have clientScope := client_scope_ne_empty n self.logic
  cases pinned <;> simp [opsActs, opsUnits, renderRollback, SRv6Op.units, IpCommand.acts, clientScope]

end Acts

end AgenticNetops.Fabricplan
