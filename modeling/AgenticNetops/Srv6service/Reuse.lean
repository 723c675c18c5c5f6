import AgenticNetops.Srv6service.PassEnd
import AgenticNetops.Srv6service.ClaimStage

set_option autoImplicit false

/- What a later pass makes of the allocation that a pass has rendered its plan from: the
   record of it is found again, with the same SIDs. -/
namespace AgenticNetops.Srv6service

open GoText Api Kuid Fabricplan Fallible

/- An allocation as the reuse of a recorded one asks for it. -/
structure Serves (spec : SRv6ServiceSpec) (locators : GoMap String) (alloc : Allocation) : Prop where
  sids : serviceSIDs spec locators = .ok alloc.serviceSIDs
  positive : 0 < alloc.allocations.serviceID
  vrf : alloc.allocations.vrf ≠ ""
  prefixes : ∀ att ∈ spec.attachments, alloc.allocations.clientPrefixes.text att.node ≠ ""
  vlan : spec.vlan = none ∨ alloc.allocations.vlan = spec.vlan

section Reuse
variable (svc : SRv6Service) (corrID : String) (locators : GoMap String) (alloc : Allocation)

theorem serves_reused (recorded : svc.status.allocations = some alloc.allocations) (correlated : svc.status.correlationID = corrID)
    (serves : Serves svc.spec locators alloc) : reuseAllocation svc corrID locators = some alloc := by
  have kept : ¬ (svc.status.correlationID ≠ corrID ∨ alloc.allocations.serviceID ≤ 0 ∨ alloc.allocations.vrf = "") := by
    intro stale
    rcases stale with other | low | unnamed
    · exact other correlated
    · have positive := serves.positive
      omega
    · exact serves.vrf unnamed
  have full : ¬ (svc.spec.attachments.any fun att => alloc.allocations.clientPrefixes.text att.node = "") = true := by
    intro missing
    obtain ⟨att, member, empty⟩ := List.any_eq_true.mp missing
    exact serves.prefixes att member (of_decide_eq_true empty)
  have reserved : ¬ (svc.spec.vlan ≠ none ∧ alloc.allocations.vlan ≠ svc.spec.vlan) := by
    intro changed
    cases serves.vlan with
    | inl unnamed => exact changed.1 unnamed
    | inr same => exact changed.2 same
  rw [reuseAllocation, recorded]
  simp only [if_neg kept, if_neg full, if_neg reserved, serves.sids]

theorem reused_serves (reused : reuseAllocation svc corrID locators = some alloc) : Serves svc.spec locators alloc := by
  rw [reuseAllocation] at reused
  cases recorded : svc.status.allocations with
  | none => simp [recorded] at reused
  | some st =>
      simp only [recorded] at reused
      by_cases stale : svc.status.correlationID ≠ corrID ∨ st.serviceID ≤ 0 ∨ st.vrf = ""
      · rw [if_pos stale] at reused
        cases reused
      · rw [if_neg stale] at reused
        by_cases missing : (svc.spec.attachments.any fun att => st.clientPrefixes.text att.node = "") = true
        · rw [if_pos missing] at reused
          cases reused
        · rw [if_neg missing] at reused
          by_cases changed : svc.spec.vlan ≠ none ∧ st.vlan ≠ svc.spec.vlan
          · rw [if_pos changed] at reused
            cases reused
          · rw [if_neg changed] at reused
            cases derived : serviceSIDs svc.spec locators with
            | error message => simp [derived] at reused
            | ok sids =>
                simp only [derived, Option.some.injEq] at reused
                subst reused
                refine ⟨derived, ?_, ?_, ?_, ?_⟩
                · exact not_le.mp fun low => stale (Or.inr (Or.inl low))
                · exact fun unnamed => stale (Or.inr (Or.inr unnamed))
                · intro att member empty
                  exact missing (List.any_eq_true.mpr ⟨att, member, decide_eq_true empty⟩)
                · by_cases named : svc.spec.vlan = none
                  · exact Or.inl named
                  · exact Or.inr (by_contra fun other => changed ⟨named, other⟩)

end Reuse

theorem reserved_vlan (store after : Store) (corrID : String) (answers : KuidAnswers) (wanted vlan : Option Int)
    (made : reserveSpecVLAN store corrID answers wanted = (after, .ok vlan)) : vlan = wanted := by
  cases wanted with
  | none =>
      cases made
      rfl
  | some value =>
      rw [reserveSpecVLAN] at made
      cases reserved : reserveVLAN store.claims corrID value answers.vlan with
      | mk claims outcome =>
          simp only [reserved] at made
          cases outcome with
          | ok ref =>
              cases made
              rfl
          | error err => cases err <;> cases made

-- What the claim stage returns: the SIDs of the spec, the VRF's name and the spec's VLAN.
theorem allocate_allotted (store after : Store) (spec : SRv6ServiceSpec) (corrID : String) (locators : GoMap String)
    (answers : KuidAnswers) (alloc : Allocation) (made : allocate store spec corrID locators answers = (after, .ok alloc)) :
    Allotted spec locators alloc := by
  rw [allocate] at made
  cases derived : serviceSIDs spec locators with
  | error message =>
      simp only [derived] at made
      cases made
  | ok sids =>
      simp only [derived] at made
      cases first : allocateServiceID store corrID answers with
      | mk claimed outcome =>
          simp only [first] at made
          cases outcome with
          | error err => cases made
          | ok id =>
              cases second : claimPrefixes claimed corrID answers (orderedAttachments spec) [] with
              | mk prefixed outcome =>
                  simp only [second] at made
                  cases outcome with
                  | error err => cases made
                  | ok clientPrefixes =>
                      cases third : reserveSpecVLAN prefixed corrID answers spec.vlan with
                      | mk reserved outcome =>
                          simp only [third] at made
                          cases outcome with
                          | error err => cases made
                          | ok vlan =>
                              cases made
                              exact ⟨derived, rfl, reserved_vlan prefixed _ corrID answers spec.vlan vlan third⟩

theorem claimed_sids (site : Site) (answers : Answers) (svc : SRv6Service) (store : Store) (alloc : Allocation) (claimed : Store)
    (claims : Claimed site answers svc store alloc claimed) : serviceSIDs svc.spec site.facts.locators = .ok alloc.serviceSIDs := by
  cases claims with
  | inl reused => exact (reused_serves svc _ _ alloc reused.1).sids
  | inr fresh => exact (allocate_allotted store claimed svc.spec _ _ answers.kuid alloc fresh.2).sids

section Rendered
variable (spec : SRv6ServiceSpec) (alloc : Fabricplan.Allocations) (opts : SRv6Options)

theorem render_attach_client (n : String) (attach : Attach) (rendered : renderAttach spec alloc opts n = .ok attach) :
    attach.client = alloc.clientPrefixes.text n ∧ attach.client ≠ "" := by
  simp only [renderAttach, guard_ok] at rendered
  obtain ⟨_, _, present, rendered⟩ := rendered
  cases parsed : gatewayAddr (alloc.clientPrefixes.text n) with
  | error message => simp [parsed] at rendered
  | ok gw =>
      simp only [parsed, guard_ok] at rendered
      obtain ⟨_, rendered⟩ := rendered
      cases resolved : opts.ports.port (((spec.attachments.find? fun att => att.node = n).map Attachment.port).getD "") with
      | error message => simp [resolved] at rendered
      | ok port =>
          simp only [resolved, Except.ok.injEq] at rendered
          subst rendered
          exact ⟨rfl, present⟩

-- A plan that rendered had an id and a client prefix for every attachment.
theorem rendered_allocated (plan : SRv6Plan) (rendered : forSRv6Service spec alloc opts = .ok plan) :
    0 < alloc.serviceID ∧ ∀ att ∈ spec.attachments, alloc.clientPrefixes.text att.node ≠ "" := by
  obtain ⟨first, second, a, b, _, _, gates, attachA, attachB, _, _, _⟩ := for_srv6_service_parts spec alloc opts plan rendered
  obtain ⟨clientA, presentA⟩ := render_attach_client spec alloc opts first a attachA
  obtain ⟨clientB, presentB⟩ := render_attach_client spec alloc opts second b attachB
  obtain ⟨x, y, listed, named⟩ := gates.attachments
  refine ⟨gates.positive, ?_⟩
  intro att member
  rw [clientA] at presentA
  rw [clientB] at presentB
  rw [listed, List.mem_cons, List.mem_singleton] at member
  cases named with
  | inl straight =>
      cases member with
      | inl same => rw [same, ← straight.1]; exact presentA
      | inr same => rw [same, ← straight.2]; exact presentB
  | inr swapped =>
      cases member with
      | inl same => rw [same, ← swapped.2]; exact presentB
      | inr same => rw [same, ← swapped.1]; exact presentA

end Rendered

theorem vrf_name_nonempty (id : Int) : vrfName id ≠ "" := by
  intro empty
  have chars := congrArg String.toList empty
  rw [vrfName, String.toList_append] at chars
  cases chars

-- Whatever way an admitted pass has come to its allocation, a record of it can be reused.
theorem admitted_serves (site : Site) (lists : ConflictLists) (answers : Answers) (svc : SRv6Service) (store claimed : Store)
    (alloc : Allocation) (plan : SRv6Plan) (admitted : Admitted site lists answers svc store alloc plan claimed) :
    Serves svc.spec site.facts.locators alloc := by
  cases admitted.claims with
  | inl reused => exact reused_serves svc _ _ alloc reused.1
  | inr fresh =>
      have allotted := allocate_allotted store claimed svc.spec _ _ answers.kuid alloc fresh.2
      have allocated := rendered_allocated _ _ _ plan admitted.rendered
      exact ⟨allotted.sids, allocated.1, by rw [allotted.vrf]; exact vrf_name_nonempty _, allocated.2, Or.inr allotted.vlan⟩

end AgenticNetops.Srv6service
