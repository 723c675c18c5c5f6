import AgenticNetops.Provisioning.ConfirmedFields
import AgenticNetops.Provisioning.Unclaimed

set_option autoImplicit false

/- What an SRv6 intent claims: client prefixes, and of the numbered identifiers none,
   whether it is built in the end or not. -/
namespace AgenticNetops.Provisioning

open GoText Exits Schemas

-- The claims and the leases that stand for VLANs, VNIs and route targets.
def numbersOf (store : Store) : List Claim × List Lease :=
  (store.claims.filter fun claim => claim.plural ≠ "ipclaims", store.leases)

theorem prefixes_are_no_numbers (correlationID : String) (numbers : List Claim × List Lease) :
    TakesClaims (fun store => numbersOf store = numbers) correlationID "ipclaims" := by
  intro store claim isPrefix _ entered
  rw [← entered]
  simp [numbersOf, Store.addClaim, isPrefix]

-- Also a call that fails on the way claims no number.
theorem srv6_build_keeps_numbers (correlationID : String) (fallback : Bool)
    (validateAllOrNothing : NormalizedServiceIntent → Option Message) (interp : Interpretation)
    (srv6 : interp.transport = some .srv6) (answers : CallAnswers) (before : Store) :
    numbersOf (buildIntent fallback validateAllOrNothing interp correlationID answers before).1 = numbersOf before := by
  let holds : Store → Prop := fun store => numbersOf store = numbersOf before
  have takes := prefixes_are_no_numbers correlationID (numbersOf before)
  have keeps : Keeps holds (buildIntent fallback validateAllOrNothing interp correlationID answers) := by
    apply keeps_bind holds _ _ (keeps_make_endpoints holds plainEndpoint interp.endpoints)
    intro endpoints
    apply keeps_bind
    · rw [constructIntent, if_pos srv6]
      exact keeps_srv6_intent holds correlationID interp _ _ answers.subnets takes
    · intro assignment
      split
      · exact keeps_leave holds _
      · exact keeps_pure holds _
  exact keeps_state holds _ keeps before rfl

section Intent

def IsSubnet : Identifier → Prop
  | .subnet _ => True
  | .number _ _ => False

-- No VLAN, VNI or route target, neither claimed for the intent nor carried by it.
structure ClaimsNoNumber (assignment : Assignment) : Prop where
  claimed : ∀ x ∈ assignment.claimed, IsSubnet x
  l2vni : assignment.intent.l2vni = none
  l3vni : assignment.intent.l3vni = none
  rdRt : assignment.intent.rdRt = none

variable (correlationID : String) (before after : Store)

theorem claim_gateways_subnets (tenant : String) (answers : Nat → PrefixAnswers) (endpoints : List Endpoint) (position : Nat)
    (result : List Endpoint × List Identifier)
    (ran : claimGateways tenant correlationID answers position endpoints before = (after, .ok result)) :
    ∀ x ∈ result.2, IsSubnet x := by
  induction endpoints generalizing position before result with
  | nil =>
      cases ran
      exact fun x member => absurd member List.not_mem_nil
  | cons endpoint rest ih =>
      obtain ⟨first, claimed, _, ran⟩ := bind_ran before _ _ after result ran
      obtain ⟨last, gateway, _, ran⟩ := bind_ran first _ _ after result ran
      obtain ⟨checked, made, _, ran⟩ := bind_ran last _ _ after result ran
      obtain ⟨mid, later, isLater, ends⟩ := bind_ran checked _ _ after result ran
      cases ends
      intro x member
      cases List.mem_cons.mp member with
      | inl here =>
          rw [here]
          exact trivial
      | inr inRest => exact ih checked (position + 1) later isLater x inRest

theorem srv6_intent_claims_no_number (interp : Interpretation) (acl : Option ACL) (endpoints : List Endpoint)
    (answers : Nat → PrefixAnswers) (assignment : Assignment)
    (ran : srv6Intent interp acl endpoints correlationID answers before = (after, .ok assignment)) :
    ClaimsNoNumber assignment := by
  unfold srv6Intent at ran
  cases construct : interp.serviceType with
  | vlan =>
      simp only [construct] at ran
      cases ran
  | acl =>
      simp only [construct] at ran
      cases ran
  | macVRF =>
      simp only [construct] at ran
      split at ran
      · cases ran
      · obtain ⟨_, made, _, ran⟩ := bind_ran before _ _ after assignment ran
        obtain ⟨_, intent, isIntent, ends⟩ := bind_ran _ _ _ after assignment ran
        cases ends
        rw [make_intent_ran _ _ _ _ isIntent]
        exact ⟨fun x member => absurd member List.not_mem_nil, rfl, rfl, rfl⟩
  | ipVRF =>
      simp only [construct] at ran
      obtain ⟨_, made, isMade, ran⟩ := bind_ran before _ _ after assignment ran
      obtain ⟨_, intent, isIntent, ends⟩ := bind_ran _ _ _ after assignment ran
      cases ends
      rw [make_intent_ran _ _ _ _ isIntent]
      exact ⟨claim_gateways_subnets correlationID before _ interp.tenant answers _ 0 made isMade, rfl, rfl, rfl⟩

theorem srv6_build_claims_no_number (fallback : Bool) (validateAllOrNothing : NormalizedServiceIntent → Option Message)
    (interp : Interpretation) (srv6 : interp.transport = some .srv6) (answers : CallAnswers) (assignment : Assignment)
    (ran : buildIntent fallback validateAllOrNothing interp correlationID answers before = (after, .ok assignment)) :
    ClaimsNoNumber assignment := by
  obtain ⟨_, made, _, ran⟩ := bind_ran before _ _ after assignment ran
  obtain ⟨_, built, isBuilt, ran⟩ := bind_ran _ _ _ after assignment ran
  have same : built = assignment := by
    cases validated : validateAllOrNothing built.intent with
    | some causes => simp [validated] at ran
    | none =>
        simp only [validated] at ran
        cases ran
        rfl
  rw [← same]
  unfold constructIntent at isBuilt
  rw [if_pos srv6] at isBuilt
  exact srv6_intent_claims_no_number correlationID _ _ interp _ _ _ built isBuilt

end Intent

end AgenticNetops.Provisioning
