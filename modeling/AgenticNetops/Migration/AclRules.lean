import AgenticNetops.Migration.Constructs

set_option autoImplicit false

/- What aclCauses lets through, rule by rule. -/
namespace AgenticNetops.Migration

open GoText Causes

def GoodPriority (priority : Int) : Prop := 2 ≤ priority ∧ priority ≤ 65535

def AcceptedProtocol (protocol : String) : Prop :=
  known aclProtocols (foldWord protocol) ∨ ∃ n ∈ atoi protocol, 0 ≤ n ∧ n ≤ 255

-- The address family of the prefix is the one of the list, where the list has one.
def OfFamily (aclType : String) (p : NetIP.Prefix) : Prop :=
  match aclTypes.get? (typeKey aclType) with
  | some "l3" => ∃ octets, p.addr = .v4 octets
  | some "l3v6" => ¬ ∃ octets, p.addr = .v4 octets
  | _ => True

def AcceptedPrefix (aclType pfx : String) : Prop := pfx = "" ∨ ∃ p, NetIP.parsePrefix pfx = .ok p ∧ OfFamily aclType p

def AcceptedPort (protocol port : String) : Prop :=
  port = "" ∨ aclProtocols.get? (foldWord protocol) ∈ [some "tcp", some "udp"] ∧
    match cutAtDash port with
    | (lo, none) => aPort lo ≠ none
    | (lo, some hi) => ∃ first ∈ aPort lo, ∃ last ∈ aPort hi, first ≤ last

structure AcceptedTexts (aclType : String) (r : ACLRule) : Prop where
  action : known aclActions (foldWord r.action)
  protocol : AcceptedProtocol r.protocol
  sourcePrefix : AcceptedPrefix aclType r.sourcePrefix
  destinationPrefix : AcceptedPrefix aclType r.destinationPrefix
  sourcePort : AcceptedPort r.protocol r.sourcePort
  destinationPort : AcceptedPort r.protocol r.destinationPort

structure AcceptedACL (a : ACL) : Prop where
  stage : known aclStages (foldWord a.stage)
  bindTo : a.bindTo = "" ∨ a.bindTo = "port"
  type : known aclTypes (typeKey a.type)
  defaultAction : a.defaultAction = "" ∨ known aclActions (foldWord a.defaultAction)
  rules : a.rules ≠ []
  names : ∀ r ∈ a.rules, r.name ≠ ""
  priorities : ∀ r ∈ a.rules, GoodPriority r.priority
  texts : ∀ r ∈ a.rules, AcceptedTexts a.type r
  distinctNames : (a.rules.map ACLRule.name).Nodup
  distinctPriorities : (a.rules.map ACLRule.priority).Nodup

theorem name_causes_nil_iff (i : Nat) (seen : List String) (name : String) :
    nameCauses i seen name = [] ↔ name ≠ "" ∧ name ∉ seen := by
  unfold nameCauses
  by_cases empty : name = ""
  · simp [empty]
  · by_cases old : name ∈ seen
    · simp [empty, old]
    · simp [empty, old]

theorem priority_causes_nil_iff (i : Nat) (seen : List Int) (priority : Int) :
    priorityCauses i seen priority = [] ↔ GoodPriority priority ∧ priority ∉ seen := by
  unfold priorityCauses GoodPriority
  by_cases reserved : priority = 1
  · simp [reserved]
  · by_cases outside : priority < 2 ∨ 65535 < priority
    · have out : ¬ (2 ≤ priority ∧ priority ≤ 65535) := by omega
      rw [if_neg reserved, if_pos outside]
      simp [out]
    · have within : 2 ≤ priority ∧ priority ≤ 65535 := by omega
      rw [if_neg reserved, if_neg outside]
      by_cases old : priority ∈ seen
      · simp [old]
      · simp [old, within.1, within.2]

theorem protocol_causes_nil_iff (i : Nat) (protocol : String) : protocolCauses i protocol = [] ↔ AcceptedProtocol protocol := by
  unfold protocolCauses AcceptedProtocol
  by_cases accepted : known aclProtocols (foldWord protocol) ∨ ∃ n ∈ atoi protocol, 0 ≤ n ∧ n ≤ 255
  · rw [if_pos accepted]
    exact ⟨fun _ => accepted, fun _ => rfl⟩
  · rw [if_neg accepted]
    exact ⟨fun silent => absurd silent (List.cons_ne_nil _ _), fun holds => absurd holds accepted⟩

theorem prefix_causes_nil_iff (i : Nat) (field pfx aclType : String) :
    aclPrefixCauses i field pfx aclType = [] ↔ AcceptedPrefix aclType pfx := by
  unfold aclPrefixCauses AcceptedPrefix
  by_cases empty : pfx = ""
  · simp [empty]
  · rw [if_neg empty]
    cases parsed : NetIP.parsePrefix pfx with
    | error message => simp [empty]
    | ok p =>
        simp only [or_iff_right empty, Except.ok.injEq, exists_eq_left']
        unfold OfFamily
        generalize aclTypes.get? (typeKey aclType) = family
        obtain ⟨addr, bits⟩ := p
        cases addr with
        | v4 octets => dsimp only; split <;> simp
        | v6 fields zone => dsimp only; split <;> simp

theorem port_causes_nil_iff (i : Nat) (field port protocol : String) :
    aclPortCauses i field port protocol = [] ↔ AcceptedPort protocol port := by
  unfold aclPortCauses AcceptedPort
  by_cases empty : port = ""
  · simp [empty]
  · rw [if_neg empty, or_iff_right empty]
    by_cases carries : aclProtocols.get? (foldWord protocol) ∈ [some "tcp", some "udp"]
    · rw [if_neg (not_not.mpr carries), and_iff_right carries]
      cases cut : cutAtDash port with
      | mk lo rest =>
          cases low : aPort lo with
          | none => cases rest <;> simp [low]
          | some first =>
              cases rest with
              | none => simp [low]
              | some hi =>
                  cases high : aPort hi with
                  | none => simp [low, high]
                  | some last => simp [low, high]
    · rw [if_pos carries]
      exact ⟨fun silent => absurd silent (List.cons_ne_nil _ _), fun holds => absurd holds.1 carries⟩

theorem rule_text_causes_nil_iff (aclType : String) (i : Nat) (r : ACLRule) :
    ruleTextCauses aclType i r = [] ↔ AcceptedTexts aclType r := by
  have action : actionCauses i r.action = [] ↔ known aclActions (foldWord r.action) := by
    unfold actionCauses
    by_cases accepted : known aclActions (foldWord r.action)
    · simp [accepted]
    · simp [accepted]
  simp only [ruleTextCauses, List.append_eq_nil_iff, action, protocol_causes_nil_iff, prefix_causes_nil_iff,
    port_causes_nil_iff]
  constructor
  · intro parts
    obtain ⟨⟨⟨⟨⟨act, proto⟩, source⟩, destination⟩, sourcePort⟩, destinationPort⟩ := parts
    exact ⟨act, proto, source, destination, sourcePort, destinationPort⟩
  · intro accepted
    exact ⟨⟨⟨⟨⟨accepted.action, accepted.protocol⟩, accepted.sourcePrefix⟩, accepted.destinationPrefix⟩,
      accepted.sourcePort⟩, accepted.destinationPort⟩

theorem acl_causes_nil_iff (a : ACL) : aclCauses a = [] ↔ AcceptedACL a := by
  have rules := distinct_causes_nil_iff ACLRule.name ACLRule.priority nameCauses priorityCauses (ruleTextCauses a.type)
    (fun name => name ≠ "") GoodPriority (AcceptedTexts a.type) name_causes_nil_iff priority_causes_nil_iff
    (rule_text_causes_nil_iff a.type) 0 [] [] a.rules
  have some' : ∀ {α : Type} (choice : Prop) [Decidable choice] (first : α) (more : List α),
      (if choice then first :: more else []) = [] ↔ ¬ choice := by
    intro α choice _ first more
    by_cases holds : choice
    · simp [holds]
    · simp [holds]
  have absent : ∀ {α : Type} (choice : Prop) [Decidable choice] (first : α) (more : List α),
      (if choice then [] else first :: more) = [] ↔ choice := by
    intro α choice _ first more
    by_cases holds : choice
    · simp [holds]
    · simp [holds]
  unfold aclCauses rulesCauses
  simp only [List.append_eq_nil_iff, some', absent, rules]
  constructor
  · intro parts
    obtain ⟨⟨⟨⟨⟨stage, bindTo⟩, type⟩, defaultAction⟩, present⟩, each, names, priorities⟩ := parts
    exact {
      stage := stage
      bindTo := by
        by_contra other
        exact bindTo (not_or.mp other)
      type := type
      defaultAction := by
        by_contra other
        exact defaultAction (not_or.mp other)
      rules := present
      names := fun r member => (each r member).1
      priorities := fun r member => (each r member).2.1
      texts := fun r member => (each r member).2.2.1
      distinctNames := names
      distinctPriorities := priorities }
  · intro accepted
    have each (r : ACLRule) (member : r ∈ a.rules) : r.name ≠ "" ∧ GoodPriority r.priority ∧ AcceptedTexts a.type r ∧
        r.name ∉ ([] : List String) ∧ r.priority ∉ ([] : List Int) :=
      ⟨accepted.names r member, accepted.priorities r member, accepted.texts r member, List.not_mem_nil, List.not_mem_nil⟩
    exact ⟨⟨⟨⟨⟨accepted.stage, fun other => not_or.mpr other accepted.bindTo⟩, accepted.type⟩,
      fun other => not_or.mpr other accepted.defaultAction⟩, accepted.rules⟩, each, accepted.distinctNames,
      accepted.distinctPriorities⟩

end AgenticNetops.Migration
