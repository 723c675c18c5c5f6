import AgenticNetops.Mapper.Agent
import AgenticNetops.Migration.Translate
import AgenticNetops.Migration.Wire
import AgenticNetops.Provisioning.SRv6Claims

set_option autoImplicit false

/- Which transport a request ends up with. The text decides it in the mapper; what comes
   after it carries the decision on, up to the kind of the object that is rendered. -/
namespace AgenticNetops.Mapper

open Regex PyText Schemas Provisioning Migration

variable (table : CharTable)

section Mapping

theorem bridged_transport (request : List Char) (tenant : String) (missing : List String) (endpoints : List EndpointIntent) :
    (bridgedMapping table request tenant missing endpoints).transport = some .srv6 := rfl

theorem routed_transport (request : List Char) (tenant : String) (missing : List String) (endpoints : List EndpointIntent) :
    (routedMapping table request tenant missing endpoints).transport = some .srv6 := rfl

-- The mapping of an SRv6 request names the transport, or a reason to refuse the request.
theorem srv6_mapping_transport (request : List Char) (fields : SRv6Fields) (done : srv6Mapping table request = .ok fields) :
    fields.transport = some .srv6 ∨ fields.unsupported ≠ [] := by
  unfold srv6Mapping at done
  by_cases conflict : found (srv6VXLANTerms table) request
  · simp only [if_pos conflict] at done
    cases done
    exact .inr (List.cons_ne_nil _ _)
  · simp only [if_neg conflict] at done
    cases construct : detectSRv6Construct table request with
    | blocked =>
        simp only [construct] at done
        cases done
        exact .inr (List.cons_ne_nil _ _)
    | unclear =>
        simp only [construct] at done
        cases done
        exact .inl rfl
    | macVRF =>
        simp only [construct] at done
        obtain ⟨endpoints, _, built⟩ := Fallible.bind_ok _ _ _ done
        cases built
        exact .inl (bridged_transport table request _ _ endpoints)
    | ipVRF =>
        simp only [construct] at done
        obtain ⟨endpoints, _, built⟩ := Fallible.bind_ok _ _ _ done
        cases built
        exact .inl (routed_transport table request _ _ endpoints)

theorem srv6_payload_transport (serviceID : String) (request : List Char) (payload : Payload)
    (done : srv6Payload table serviceID request = .ok payload) :
    payload.transport = some .srv6 ∨ payload.unsupportedProperties ≠ [] := by
  obtain ⟨fields, isFields, built⟩ := Fallible.bind_ok _ _ _ done
  cases built
  have named := srv6_mapping_transport table request fields isFields
  exact named.imp_right fun refused silent => refused (List.append_eq_nil_iff.mp silent).2

theorem plain_payload_transport (serviceID : String) (request : List Char) (payload : Payload)
    (done : plainPayload table serviceID request = .ok payload) : payload.transport = none := by
  obtain ⟨endpoints, _, built⟩ := Fallible.bind_ok _ _ _ done
  cases built
  rfl

-- Validation keeps the transport and the flags of a payload.
theorem payload_validated (payload : Payload) (interp : Interpretation) (done : payload.modelValidate table = some interp) :
    interp.transport = payload.transport ∧ interp.unsupportedProperties = payload.unsupportedProperties := by
  obtain ⟨acl, _, valid⟩ := Option.bind_eq_some_iff.mp done
  obtain ⟨_, ipv4, ipv6, same⟩ := model_validate_some table _ interp valid
  rw [same]
  exact ⟨rfl, rfl⟩

theorem map_node_transport (serviceID : String) (content : List Char) (interp : Interpretation)
    (mapped : mapNode table serviceID content = .ok (some interp)) :
    (detectSRv6 table (requestText content) = true →
        interp.transport = some .srv6 ∨ interp.unsupportedProperties ≠ []) ∧
      (detectSRv6 table (requestText content) = false → interp.transport = none) := by
  obtain ⟨payload, isPayload, validated⟩ := Fallible.bind_ok _ _ _ mapped
  have kept := payload_validated table _ interp (Except.ok.inj validated)
  rw [kept.1, kept.2]
  unfold requestPayload at isPayload
  cases recognised : detectSRv6 table (requestText content) with
  | true =>
      rw [recognised, if_pos rfl] at isPayload
      exact ⟨fun _ => srv6_payload_transport table serviceID _ payload isPayload, fun other => absurd other.symm Bool.false_ne_true⟩
  | false =>
      rw [recognised, if_neg Bool.false_ne_true] at isPayload
      exact ⟨fun other => absurd other Bool.false_ne_true, fun _ => plain_payload_transport table serviceID _ payload isPayload⟩

theorem mapped_transport (serviceID : String) (content : List Char) (interp : Interpretation)
    (mapped : ainvoke table serviceID content = .ok interp) :
    (detectSRv6 table (requestText content) = true → interp.isComplete = true → interp.transport = some .srv6) ∧
      (detectSRv6 table (requestText content) = false → interp.transport = none) := by
  unfold ainvoke at mapped
  cases node : mapNode table serviceID content with
  | error failure =>
      rw [node] at mapped
      cases mapped
  | ok result =>
      cases result with
      | none =>
          rw [node] at mapped
          cases mapped
      | some first =>
          rw [node] at mapped
          cases again : first.modelValidate table with
          | none =>
              simp only [again] at mapped
              cases mapped
          | some second =>
              simp only [again] at mapped
              cases mapped
              have decided := map_node_transport table serviceID content first node
              obtain ⟨_, ipv4, ipv6, same⟩ := model_validate_some table first interp again
              rw [same]
              refine ⟨fun recognised complete => ?_, decided.2⟩
              have flags : first.unsupportedProperties = [] := by
                have both := complete
                simp only [Interpretation.isComplete, Bool.and_eq_true, List.isEmpty_iff] at both
                exact both.2
              exact (decided.1 recognised).resolve_right fun refused => refused flags

end Mapping

section Rendering

-- An intent that the allocator builds of an interpretation, whatever the claim store answers.
def Builds (interp : Interpretation) (assignment : Assignment) : Prop :=
  ∃ fallback validateAllOrNothing correlationID answers before after,
    buildIntent fallback validateAllOrNothing interp correlationID answers before = (after, .ok assignment)

-- What the translator reads of the posted intent.
def Posts (assignment : Assignment) (input : ServiceInput) : Prop := parseStrictBatch assignment.intent.dump = some [input]

theorem built_transport (interp : Interpretation) (assignment : Assignment) (built : Builds interp assignment) :
    assignment.intent.transport = transportText interp.transport := by
  obtain ⟨fallback, validate, correlationID, answers, before, after, ran⟩ := built
  exact (build_intent_built fallback correlationID before after validate interp answers assignment ran).carries.transport

theorem posted_input_transport (assignment : Assignment) (input : ServiceInput) (posts : Posts assignment input) :
    input.transport = assignment.intent.transport := by
  unfold Posts at posts
  rw [parse_intent] at posts
  by_cases fits : Fits assignment.intent
  · rw [if_pos fits] at posts
    have same : (wire assignment.intent).canonicalize = input := (List.cons.inj (Option.some.inj posts)).1
    rw [← same, canonicalize_transport]
    rfl
  · rw [if_neg fits] at posts
    cases posts

-- Everything that comes of an interpretation over SRv6.
structure StaysSRv6 (interp : Interpretation) : Prop where
  transport : interp.transport = some .srv6
  intent : ∀ assignment, Builds interp assignment → assignment.intent.transport = "srv6" ∧ ClaimsNoNumber assignment
  store : ∀ fallback validateAllOrNothing correlationID answers before,
    numbersOf (buildIntent fallback validateAllOrNothing interp correlationID answers before).1 = numbersOf before
  object : ∀ assignment, Builds interp assignment → ∀ input, Posts assignment input → ∀ canonicalHash,
    ∃ bundle service, translate canonicalHash input = .ok bundle ∧ bundle.manifest = .srv6Service service

theorem srv6_stays (interp : Interpretation) (srv6 : interp.transport = some .srv6) : StaysSRv6 interp := by
  have carried (assignment : Assignment) (built : Builds interp assignment) : assignment.intent.transport = "srv6" := by
    rw [built_transport interp assignment built, srv6]
    rfl
  refine ⟨srv6, ?_, ?_, ?_⟩
  · intro assignment built
    obtain ⟨fallback, validate, correlationID, answers, before, after, ran⟩ := built
    exact ⟨carried assignment ⟨fallback, validate, correlationID, answers, before, after, ran⟩,
      srv6_build_claims_no_number correlationID before after fallback validate interp srv6 answers assignment ran⟩
  · intro fallback validate correlationID answers before
    exact srv6_build_keeps_numbers correlationID fallback validate interp srv6 answers before
  · intro assignment built input posts canonicalHash
    have isSRv6 : input.transport = transportSRv6 := by
      rw [posted_input_transport assignment input posts, carried assignment built]
      rfl
    exact ⟨_, _, translate_srv6 canonicalHash input isSRv6, rfl⟩

theorem vxlan_stays (interp : Interpretation) (unnamed : interp.transport = none) (assignment : Assignment)
    (built : Builds interp assignment) (input : ServiceInput) (posts : Posts assignment input)
    (canonicalHash : ServiceInput → String) (bundle : OutputBundle) (done : translate canonicalHash input = .ok bundle) :
    ∃ network, bundle.manifest = .network network := by
  have vxlan : input.transport = "vxlan" := by
    rw [posted_input_transport assignment input posts, built_transport interp assignment built, unnamed]
    rfl
  apply translate_network canonicalHash input bundle _ done
  rw [vxlan]
  decide

def labRequest : String :=
  "provision an l3vpn with an evpn ip-vrf over srv6 between leaf01 wan1 and leaf02 wan1 for tenant acme with prefix 10.1.0.0/24"

end Rendering

end AgenticNetops.Mapper
