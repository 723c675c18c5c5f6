import AgenticNetops.Lib.RegexCut
import AgenticNetops.Mapper.Answers

set_option autoImplicit false

/- The filter clauses of a request beside the rules of its interpretation. Every part of a
   rule is the first one of its kind in the whole request, and there is one rule at most. -/
namespace AgenticNetops.Mapper

open GoText Regex PyText Schemas Fallible

variable (table : CharTable)

section Reading

-- What a rule takes from the text.
structure RuleText where
  action : Action
  protocol : Option Protocol
  destinationPort : Option String
  sourcePrefix : Option String
  destinationPrefix : Option String
deriving DecidableEq, Repr

def ruleText (rule : ACLRule) : RuleText :=
  { action := rule.action, protocol := rule.protocol, destinationPort := rule.destinationPort,
    sourcePrefix := rule.sourcePrefix, destinationPrefix := rule.destinationPrefix }

def portOf (found : Match) : Option String :=
  (((found.group "port").or (found.group "slashed")).or (found.group "bare")).map String.ofList

def prefixOf (found : Match) : String := String.ofList (groupText found "prefix")

def protocolOf (found : Match) : Protocol := .name (lowerGroup table found "proto")

def readRule (request : List Char) : RuleText :=
  { action := if found (aclPermit table) request then .permit else .deny
    protocol := (search (aclProto table) request).map (protocolOf table)
    destinationPort := (search (aclPort table) request).bind portOf
    sourcePrefix := (search (aclSrcPrefix table) request).map prefixOf
    destinationPrefix := (search (aclDstPrefix table) request).map prefixOf }

theorem acl_rule_read (request : List Char) (rule : ACLRule) (read : aclRule table request = some rule) :
    ruleText rule = readRule table request := by
  by_cases named : NamesRule table request
  · have made : aclRule table request = some _ := if_pos named
    rw [made] at read
    cases read
    rfl
  · have none' : aclRule table request = none := if_neg named
    rw [none'] at read
    cases read

-- When a filter is looked for, and there is something to make a rule of.
def FilterBuilt (request : List Char) : Prop :=
  ((plainConstruct table request).1 = .acl ∨ found (aclFilterClause table) request = true) ∧ NamesRule table request

theorem parse_acl_missing (request : List Char) :
    ((parseACL table request).1 = none ∧ ((parseACL table request).2 = ["acl.stage"] ∧ NamesRule table request ∨
        (parseACL table request).2.contains "acl.rules" = true ∧ ¬ NamesRule table request)) ∨
      ∃ block rule, parseACL table request = (some block, []) ∧ block.rules = [rule] ∧ aclRule table request = some rule ∧
        NamesRule table request := by
  rw [parseACL]
  cases acl_rule_cases table request with
  | inl unnamed =>
      rw [unnamed.2]
      refine .inl ⟨?_, .inr ⟨?_, unnamed.1⟩⟩
      · cases search (aclStage table) request with
        | none => rfl
        | some stage => rfl
      · cases search (aclStage table) request with
        | none => rfl
        | some stage => rfl
  | inr named =>
      obtain ⟨names, rule, made, _⟩ := named
      rw [made]
      cases search (aclStage table) request with
      | none => exact .inl ⟨rfl, .inl ⟨rfl, names⟩⟩
      | some stage => exact .inr ⟨_, rule, rfl, rfl, rfl, names⟩

-- With nothing missing, the filter is there if it is to be built, with the one rule that was read.
theorem plain_filter_built (request : List Char) (nothing : (plainFilter table request (plainConstruct table request).1).2 = []) :
    (¬ FilterBuilt table request ∧ (plainFilter table request (plainConstruct table request).1).1 = none) ∨
      (FilterBuilt table request ∧ ∃ block rule, (plainFilter table request (plainConstruct table request).1).1 = some block ∧
        block.rules = [rule] ∧ ruleText rule = readRule table request) := by
  rw [plainFilter] at nothing ⊢
  have outcome := parse_acl_missing table request
  by_cases isACL : (plainConstruct table request).1 = .acl
  · rw [if_pos isACL] at nothing ⊢
    obtain ⟨_, ⟨stage, _⟩ | ⟨rules, _⟩⟩ | ⟨block, rule, parsed, single, made, names⟩ := outcome
    · rw [stage] at nothing
      cases nothing
    · rw [nothing] at rules
      cases rules
    · rw [parsed]
      exact .inr ⟨⟨.inl isACL, names⟩, block, rule, rfl, single, acl_rule_read table request rule made⟩
  · rw [if_neg isACL] at nothing ⊢
    by_cases clause : found (aclFilterClause table) request = true
    · rw [if_pos clause] at nothing ⊢
      obtain ⟨absent, ⟨stage, _⟩ | ⟨rules, unnamed⟩⟩ | ⟨block, rule, parsed, single, made, names⟩ := outcome
      · rw [← Prod.eta (parseACL table request), absent, stage] at nothing
        exact absurd nothing (by decide)
      · rw [← Prod.eta (parseACL table request), absent]
        exact .inl ⟨fun built => unnamed built.2, rfl⟩
      · rw [parsed]
        exact .inr ⟨⟨.inr clause, names⟩, block, rule, rfl, single, acl_rule_read table request rule made⟩
    · rw [if_neg clause]
      exact .inl ⟨fun built => built.1.elim isACL clause, rfl⟩

def rulesOf (interp : Interpretation) : List RuleText := (interp.acl.map fun acl => acl.rules.map ruleText).getD []

-- The rules of a complete interpretation of a request that does not name SRv6.
theorem complete_rules (serviceID : String) (content : List Char) (interp : Interpretation)
    (unnamed : detectSRv6 table (requestText content) = false) (mapped : ainvoke table serviceID content = .ok interp)
    (complete : interp.isComplete = true) :
    (¬ FilterBuilt table (requestText content) ∧ rulesOf interp = []) ∨
      (FilterBuilt table (requestText content) ∧ rulesOf interp = [readRule table (requestText content)]) := by
  obtain ⟨payload, made, acl, ipv4Prefixes, ipv6Prefixes, interpreted, rfl⟩ := ainvoke_fields table serviceID content interp mapped
  obtain ⟨noFields, noProperties⟩ := (Bool.and_eq_true _ _).mp complete
  have missing : payload.missingFields = [] := List.isEmpty_iff.mp noFields
  have supported : payload.unsupportedProperties = [] := List.isEmpty_iff.mp noProperties
  rw [requestPayload, if_neg (by rw [unnamed]; exact Bool.false_ne_true)] at made
  obtain ⟨_, _, _, _, filter⟩ := plain_payload_made table serviceID _ payload made
  have nothing := plain_payload_filter table serviceID _ payload made supported missing
  cases plain_filter_built table (requestText content) nothing with
  | inl unbuilt =>
      rw [filter, unbuilt.2] at interpreted
      cases interpreted
      exact .inl ⟨unbuilt.1, rfl⟩
  | inr built =>
      obtain ⟨isBuilt, block, rule, isBlock, single, read⟩ := built
      rw [filter, isBlock] at interpreted
      obtain ⟨filter', isFilter, rfl⟩ := Option.map_eq_some_iff.mp interpreted
      obtain ⟨stage, _, rfl⟩ := Option.map_eq_some_iff.mp isFilter
      refine .inr ⟨isBuilt, ?_⟩
      rw [← read]
      change block.rules.map ruleText = _
      rw [single]
      rfl

end Reading

section Clauses

-- A phrase with filter clauses after it, each behind a comma.
def requestOf (phrase : List Char) (clauses : List (List Char)) : List Char := phrase ++ clauses.flatMap fun clause => ',' :: clause

-- One rule for each clause, with what the clause alone says.
def Faithful (clauses : List (List Char)) (rules : List RuleText) : Prop := rules = clauses.map (readRule table)

-- The phrase has none of a rule's parts, or says what the clause says.
structure PhraseSilent (phrase clause : List Char) : Prop where
  action : found (aclPermit table) phrase = false ∨ (readRule table clause).action = .permit
  protocol : found (aclProto table) phrase = false ∨ (readRule table phrase).protocol = (readRule table clause).protocol
  destinationPort : found (aclPort table) phrase = false ∨
    (readRule table phrase).destinationPort = (readRule table clause).destinationPort
  sourcePrefix : found (aclSrcPrefix table) phrase = false ∨ (readRule table phrase).sourcePrefix = (readRule table clause).sourcePrefix
  destinationPrefix : found (aclDstPrefix table) phrase = false ∨
    (readRule table phrase).destinationPrefix = (readRule table clause).destinationPrefix

/- With no clause, no filter is built; with one clause, one is, and the phrase does not
   speak for the clause. More clauses are never mapped. -/
def MapsClauses (phrase : List Char) (clauses : List (List Char)) : Prop :=
  match clauses with
  | [] => ¬ FilterBuilt table (requestOf phrase clauses)
  | [clause] => FilterBuilt table (requestOf phrase clauses) ∧ PhraseSilent table phrase clause
  | _ => False

theorem action_kept_iff (phrase clause : List Char) :
    (readRule table (phrase ++ ',' :: clause)).action = (readRule table clause).action ↔
      found (aclPermit table) phrase = false ∨ (readRule table clause).action = .permit := by
  have both := search_two (aclPermit table) Option.isSome phrase clause ',' (fun _ _ _ => Option.isSome_map) rfl rfl
  change (if found (aclPermit table) _ = true then Action.permit else .deny) = _ ↔ _
  rw [found, both]
  cases said : found (aclPermit table) phrase with
  | false => exact ⟨fun _ => .inl rfl, fun _ => rfl⟩
  | true =>
      have permits : (search (aclPermit table) phrase).isSome = true := said
      rw [if_pos rfl, permits, if_pos rfl]
      exact ⟨fun kept => .inr kept.symm, fun either => (either.resolve_left (by decide)).symm⟩

theorem read_rule_kept_iff (phrase clause : List Char) :
    readRule table (phrase ++ ',' :: clause) = readRule table clause ↔ PhraseSilent table phrase clause := by
  have protocol := value_kept_iff (aclProto table) (Option.map (protocolOf table)) phrase clause ','
    (fun _ _ _ => Option.map_map _ _ _) rfl rfl
  have port := value_kept_iff (aclPort table) (fun made => made.bind portOf) phrase clause ',' (fun _ _ made => by cases made <;> rfl) rfl rfl
  have source := value_kept_iff (aclSrcPrefix table) (Option.map prefixOf) phrase clause ',' (fun _ _ _ => Option.map_map _ _ _) rfl rfl
  have destination := value_kept_iff (aclDstPrefix table) (Option.map prefixOf) phrase clause ',' (fun _ _ _ => Option.map_map _ _ _) rfl rfl
  refine ⟨fun same => ⟨?_, ?_, ?_, ?_, ?_⟩, fun silent => ?_⟩
  · exact (action_kept_iff table phrase clause).mp (congrArg RuleText.action same)
  · exact protocol.mp (congrArg RuleText.protocol same)
  · exact port.mp (congrArg RuleText.destinationPort same)
  · exact source.mp (congrArg RuleText.sourcePrefix same)
  · exact destination.mp (congrArg RuleText.destinationPrefix same)
  · have action := (action_kept_iff table phrase clause).mpr silent.action
    rw [readRule, readRule, RuleText.mk.injEq]
    exact ⟨action, protocol.mpr silent.protocol, port.mpr silent.destinationPort, source.mpr silent.sourcePrefix,
      destination.mpr silent.destinationPrefix⟩

-- The clauses are mapped one by one only if there is at most one, and the phrase leaves it alone.
theorem clauses_faithful_iff (serviceID : String) (content phrase : List Char) (clauses : List (List Char)) (interp : Interpretation)
    (reads : requestText content = requestOf phrase clauses) (unnamed : detectSRv6 table (requestOf phrase clauses) = false)
    (mapped : ainvoke table serviceID content = .ok interp) (complete : interp.isComplete = true) :
    Faithful table clauses (rulesOf interp) ↔ MapsClauses table phrase clauses := by
  have outcome := complete_rules table serviceID content interp (by rw [reads]; exact unnamed) mapped complete
  rw [reads] at outcome
  cases clauses with
  | nil =>
      cases outcome with
      | inl unbuilt =>
          rw [unbuilt.2]
          exact ⟨fun _ => unbuilt.1, fun _ => rfl⟩
      | inr built =>
          rw [built.2]
          exact ⟨fun same => (by cases same), fun unbuilt => absurd built.1 unbuilt⟩
  | cons clause more =>
      cases more with
      | nil =>
          have whole : requestOf phrase [clause] = phrase ++ ',' :: clause := by
            rw [requestOf, List.flatMap_cons, List.flatMap_nil, List.append_nil]
          cases outcome with
          | inl unbuilt =>
              rw [unbuilt.2]
              exact ⟨fun same => (by cases same), fun mapsOne => absurd mapsOne.1 unbuilt.1⟩
          | inr built =>
              rw [built.2, whole]
              refine ⟨fun same => ⟨built.1, (read_rule_kept_iff table phrase clause).mp (List.singleton_inj.mp same)⟩, fun mapsOne => ?_⟩
              exact congrArg (fun rule => [rule]) ((read_rule_kept_iff table phrase clause).mpr mapsOne.2)
      | cons second others =>
          refine ⟨fun same => ?_, fun never => never.elim⟩
          have counted := congrArg List.length same
          cases outcome with
          | inl unbuilt =>
              rw [unbuilt.2] at counted
              cases counted
          | inr built =>
              rw [built.2] at counted
              cases counted

end Clauses

end AgenticNetops.Mapper
