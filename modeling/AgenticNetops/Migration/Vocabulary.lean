import AgenticNetops.Migration.Translate

set_option autoImplicit false

/- pkg/migration: two spellings of one service have one canonical form, one hash and
   one translated spec. -/
namespace AgenticNetops.Migration

open GoText

-- SourceType is json:"-", so it is not among what is marshalled.
def ServiceInput.marshalled (input : ServiceInput) : ServiceInput := { input with sourceType := "" }

-- digest is the SHA-256 of the marshalled text.
def ServiceInput.canonicalHash (digest : ServiceInput → String) (input : ServiceInput) : String :=
  digest input.canonicalize.marshalled

inductive ManifestSpec where
  | network (spec : NetworkSpec)
  | srv6Service (spec : SRv6ServiceSpec)
deriving DecidableEq, Repr

def Manifest.spec : Manifest → ManifestSpec
  | .network object => .network object.spec
  | .srv6Service object => .srv6Service object.spec

def translatedSpec (digest : ServiceInput → String) (input : ServiceInput) : Except TranslateError ManifestSpec :=
  (translate (ServiceInput.canonicalHash digest) input).map fun bundle => bundle.manifest.spec

section Spelling

-- Two accepted spellings of one word of the vocabulary, or the same text.
def SameWord (words : GoMap String) (fold : String → String) (word word' : String) : Prop :=
  word = word' ∨ ∃ spelled, words.get? (fold word) = some spelled ∧ words.get? (fold word') = some spelled

structure SameRule (r r' : ACLRule) : Prop where
  action : SameWord aclActions foldWord r.action r'.action
  protocol : SameWord aclProtocols foldWord r.protocol r'.protocol
  rest : { r with action := "", protocol := "" } = { r' with action := "", protocol := "" }

structure SameACL (a a' : ACL) : Prop where
  stage : SameWord aclStages foldWord a.stage a'.stage
  type : SameWord aclTypes typeKey a.type a'.type
  defaultAction : SameWord aclActions foldWord a.defaultAction a'.defaultAction
  rules : List.Forall₂ SameRule a.rules a'.rules
  rest : { a with stage := "", type := "", defaultAction := "", rules := [] } =
    { a' with stage := "", type := "", defaultAction := "", rules := [] }

-- The gateway of these addresses, in the anycastGateway block or the legacy one.
def SpellsGateway (input : ServiceInput) (gatewayV4 gatewayV6 : String) : Prop :=
  (input.anycastGateway = some ⟨"", gatewayV4, gatewayV6⟩ ∧ input.irbGateway = none) ∨
    (input.anycastGateway = none ∧ ∃ vrf, input.irbGateway = some ⟨vrf, gatewayV4, gatewayV6⟩)

def SameGateway (input input' : ServiceInput) : Prop :=
  (input.anycastGateway = input'.anycastGateway ∧ input.irbGateway = input'.irbGateway) ∨
    ∃ gatewayV4 gatewayV6, SpellsGateway input gatewayV4 gatewayV6 ∧ SpellsGateway input' gatewayV4 gatewayV6

-- The fields that are spelled, emptied.
def ServiceInput.unspelled (input : ServiceInput) : ServiceInput :=
  { input with type := "", sourceType := "", anycastGateway := none, irbGateway := none, acl := none }

structure SameSpelling (input input' : ServiceInput) : Prop where
  type : SameWord canonicalTypes typeKey input.type input'.type
  gateway : SameGateway input input'
  acl : Option.Rel SameACL input.acl input'.acl
  rest : input.unspelled = input'.unspelled

end Spelling

theorem same_word_canonical (words : GoMap String) (fold : String → String) (word word' : String)
    (same : SameWord words fold word word') :
    canonicalWord words (fold word) word = canonicalWord words (fold word') word' := by
  cases same with
  | inl equal => rw [equal]
  | inr shared =>
      obtain ⟨spelled, first, second⟩ := shared
      rw [canonical_word_known words (fold word) word spelled first,
        canonical_word_known words (fold word') word' spelled second]

theorem same_rule_canonical (r r' : ACLRule) (same : SameRule r r') : r.canonicalize = r'.canonicalize := by
  have action := same_word_canonical aclActions foldWord r.action r'.action same.action
  have protocol := same_word_canonical aclProtocols foldWord r.protocol r'.protocol same.protocol
  have rest := same.rest
  simp only [ACLRule.mk.injEq] at rest
  obtain ⟨name, priority, _, _, source, destination, sourcePort, destinationPort, description⟩ := rest
  simp only [ACLRule.canonicalize, action, protocol, name, priority, source, destination, sourcePort, destinationPort,
    description]

theorem same_rules_canonical (rules rules' : List ACLRule) (same : List.Forall₂ SameRule rules rules') :
    rules.map ACLRule.canonicalize = rules'.map ACLRule.canonicalize := by
  induction same with
  | nil => rfl
  | cons here _ inner => rw [List.map_cons, List.map_cons, same_rule_canonical _ _ here, inner]

theorem canonical_default (a : ACL) : a.canonicalize.defaultAction = canonicalWord aclActions (foldWord a.defaultAction) a.defaultAction := by
  rw [ACL.canonicalize]
  dsimp only
  split
  · rename_i empty
    rw [empty]
    exact (canonical_word_unknown aclActions (foldWord "") "" (by decide +kernel)).symm
  · rfl

theorem same_acl_canonical (a a' : ACL) (same : SameACL a a') : a.canonicalize = a'.canonicalize := by
  have stage := same_word_canonical aclStages foldWord a.stage a'.stage same.stage
  have type := same_word_canonical aclTypes typeKey a.type a'.type same.type
  have action := same_word_canonical aclActions foldWord a.defaultAction a'.defaultAction same.defaultAction
  have default : a.canonicalize.defaultAction = a'.canonicalize.defaultAction := by
    rw [canonical_default, canonical_default, action]
  have rules := same_rules_canonical a.rules a'.rules same.rules
  have rest := same.rest
  simp only [ACL.mk.injEq] at rest
  obtain ⟨name, _, _, _, _, bindTo⟩ := rest
  simp only [ACL.canonicalize] at default ⊢
  rw [stage, type, default, rules, name, bindTo]

theorem gateway_spelled (input : ServiceInput) (gatewayV4 gatewayV6 : String) (spells : SpellsGateway input gatewayV4 gatewayV6) :
    input.gateway = some ⟨"", gatewayV4, gatewayV6⟩ := by
  cases spells with
  | inl block => rw [ServiceInput.gateway, block.1]; rfl
  | inr legacy =>
      obtain ⟨absent, vrf, block⟩ := legacy
      rw [ServiceInput.gateway, absent, block]
      rfl

theorem same_gateway (input input' : ServiceInput) (same : SameGateway input input') : input.gateway = input'.gateway := by
  cases same with
  | inl blocks => rw [ServiceInput.gateway, ServiceInput.gateway, blocks.1, blocks.2]
  | inr shared =>
      obtain ⟨gatewayV4, gatewayV6, first, second⟩ := shared
      rw [gateway_spelled input gatewayV4 gatewayV6 first, gateway_spelled input' gatewayV4 gatewayV6 second]

/- Every spelling of a service has the one canonical form, up to the recorded
   source type. -/
theorem same_canonical (input input' : ServiceInput) (same : SameSpelling input input') :
    input.canonicalize.marshalled = input'.canonicalize.marshalled := by
  have type := same_word_canonical canonicalTypes typeKey input.type input'.type same.type
  have gateway := same_gateway input input' same.gateway
  have acl : input.acl.map ACL.canonicalize = input'.acl.map ACL.canonicalize := by
    have both := same.acl
    cases first : input.acl with
    | none =>
        rw [first] at both
        cases second : input'.acl with
        | none => rfl
        | some a' => rw [second] at both; cases both
    | some a =>
        rw [first] at both
        cases second : input'.acl with
        | none => rw [second] at both; cases both
        | some a' =>
            rw [second] at both
            cases both with
            | some here => exact congrArg some (same_acl_canonical a a' here)
  have rest := same.rest
  simp only [ServiceInput.unspelled, ServiceInput.mk.injEq] at rest
  simp only [ServiceInput.marshalled, ServiceInput.canonicalize, type, gateway, acl, ServiceInput.mk.injEq]
  tauto

-- The spec as the canonical form determines it.
def canonicalSpec (folded : ServiceInput) : Except TranslateError ManifestSpec :=
  if folded.transport = transportSRv6 then .ok (.srv6Service (srv6Spec folded))
  else (constructSpec folded).map fun spec =>
    .network { spec with
      description := [.lit "Migrated service ", .str folded.serviceID, .lit " (", .str folded.type, .lit ")"]
      accessLists := (folded.acl.map fun acl => accessListFor acl folded.serviceID).toList }

theorem canonical_spec_marshalled (folded : ServiceInput) : canonicalSpec folded.marshalled = canonicalSpec folded := rfl

theorem network_spec (folded : ServiceInput) (hash : String) (other : folded.transport ≠ transportSRv6) :
    (translateNetwork folded hash).map (fun bundle => bundle.manifest.spec) = canonicalSpec folded := by
  rw [translateNetwork, canonicalSpec, if_neg other]
  cases constructSpec folded <;> rfl

theorem translated_canonical (digest : ServiceInput → String) (input : ServiceInput) :
    translatedSpec digest input = canonicalSpec input.canonicalize := by
  rw [translatedSpec, translate]
  by_cases srv6 : input.canonicalize.transport = transportSRv6
  · rw [canonicalSpec, if_pos srv6, if_pos srv6]
    rfl
  · rw [if_neg srv6]
    exact network_spec input.canonicalize _ srv6

theorem vocabulary_invariant (digest : ServiceInput → String) :
    (∀ input : ServiceInput, input.canonicalize.canonicalize = input.canonicalize) ∧
      ∀ input input' : ServiceInput, SameSpelling input input' →
        { input.canonicalize with sourceType := "" } = { input'.canonicalize with sourceType := "" } ∧
          input.canonicalHash digest = input'.canonicalHash digest ∧
          translatedSpec digest input = translatedSpec digest input' := by
  constructor
  · intro input
    exact canonicalize_again input
  · intro input input' same
    have folded := same_canonical input input' same
    refine ⟨folded, ?_, ?_⟩
    · rw [ServiceInput.canonicalHash, ServiceInput.canonicalHash, folded]
    · rw [translated_canonical, translated_canonical, ← canonical_spec_marshalled, folded, canonical_spec_marshalled]

section Lab

-- The service of the equivalence test: an L2L3-IRB with its legacy gateway block.
def labLegacy : ServiceInput :=
  { serviceID := "irb1", type := "L2L3-IRB", tenant := "blue", l2vni := 10010, l3vni := 10020
    rdRt := some ⟨"65000:1", ["65000:1"], ["65000:1"]⟩
    irbGateway := some ⟨"blue", "10.1.0.1/24", ""⟩
    acl := some { stage := "IN", type := "IPv4", rules := [{ name := "r1", priority := 10, action := "Allow", protocol := "" }] }
    endpoints := [⟨"leaf01", "Ethernet1", 100, "", []⟩] }

def labConstruct : ServiceInput :=
  { labLegacy with
    type := "mac_vrf"
    anycastGateway := some ⟨"", "10.1.0.1/24", ""⟩
    irbGateway := none
    acl := some { stage := " ingress", type := "l3", rules := [{ name := "r1", priority := 10, action := "permit", protocol := "ANY" }] } }

theorem lab_vocabulary_invariant : labLegacy.canonicalHash (fun input => input.type) = labConstruct.canonicalHash fun input => input.type :=
  ((vocabulary_invariant (fun input => input.type)).2 labLegacy labConstruct
    { type := Or.inr ⟨serviceMACVRF, by decide +kernel, by decide +kernel⟩
      gateway := Or.inr ⟨"10.1.0.1/24", "", Or.inr ⟨rfl, "blue", rfl⟩, Or.inl ⟨rfl, rfl⟩⟩
      acl := Option.Rel.some
        { stage := Or.inr ⟨"ingress", by decide +kernel, by decide +kernel⟩
          type := Or.inr ⟨"l3", by decide +kernel, by decide +kernel⟩
          defaultAction := Or.inl rfl
          rules := List.Forall₂.cons
            { action := Or.inr ⟨"permit", by decide +kernel, by decide +kernel⟩
              protocol := Or.inr ⟨"any", by decide +kernel, by decide +kernel⟩
              rest := rfl } List.Forall₂.nil
          rest := rfl }
      rest := rfl }).2.1

end Lab

end AgenticNetops.Migration
