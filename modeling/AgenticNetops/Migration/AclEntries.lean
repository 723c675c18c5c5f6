import AgenticNetops.Migration.AclRules
import AgenticNetops.Migration.ControllerView
import Mathlib.Algebra.Ring.Nat

set_option autoImplicit false

/- The ACL entries that a sonic-vm is asked for, beside the rules whose rows give it
   something to match on. -/
namespace AgenticNetops.Migration

open GoText Causes Fallible

section Rows

def qualifierFields : List String :=
  ["IP_PROTOCOL", "SRC_IP", "SRC_IPV6", "DST_IP", "DST_IPV6", "L4_SRC_PORT", "L4_SRC_PORT_RANGE", "L4_DST_PORT", "L4_DST_PORT_RANGE"]

def isQualifier (field : Fabricplan.RowField) : Bool := field.1 ∈ qualifierFields

-- The row that a command writes a qualifier to.
def qualifierRow : Fabricplan.RedisCommand → Option Fabricplan.ConfigRow
  | .hset row fields => if fields.any isQualifier then some row else none
  | .del _ => none

-- The rendered rules that carry a qualifier, each once.
def qualifiedRows (part : Fabricplan.Part) : List Fabricplan.ConfigRow :=
  (part.ops.flatMap fun op => op.redis.filterMap qualifierRow).dedup

def entryKey : String := "ASIC_STATE:SAI_OBJECT_TYPE_ACL_ENTRY:*"

-- What the applied checks ask of the entries; no check asks for none.
def demandedEntries (part : Fabricplan.Part) : Nat :=
  ((part.checks.filter fun check => check.redisKey = entryKey).map Fabricplan.Check.minCount).sum

end Rows

section Fields

def AllQualify (fields : List Fabricplan.RowField) : Prop := ∀ field ∈ fields, isQualifier field = true

theorem all_qualify_append (front back : List Fabricplan.RowField) (left : AllQualify front) (right : AllQualify back) :
    AllQualify (front ++ back) := by
  intro field member
  cases List.mem_append.mp member with
  | inl first => exact left field first
  | inr second => exact right field second

theorem declared_qualifies (name value : String) (named : name ∈ qualifierFields) : AllQualify (Fabricplan.declared name value) := by
  intro field member
  rw [Fabricplan.declared] at member
  split at member
  · rw [List.mem_singleton.mp member]
    exact decide_eq_true named
  · cases member

theorem port_qualifies (single range value : String) (one : single ∈ qualifierFields) (two : range ∈ qualifierFields) :
    AllQualify (Fabricplan.portField single range value) := by
  intro field member
  rw [Fabricplan.portField] at member
  split at member
  · cases member
  · split at member
    · rw [List.mem_singleton.mp member]
      exact decide_eq_true two
    · rw [List.mem_singleton.mp member]
      exact decide_eq_true one

theorem match_fields_qualify (al : Kubenet.AccessList) (r : Kubenet.ACLRule) : AllQualify (Fabricplan.matchFields al r) := by
  have family (v6 v4 value : String) (six : v6 ∈ qualifierFields) (four : v4 ∈ qualifierFields) :
      AllQualify (Fabricplan.declared (if Fabricplan.equalFold al.type "l3v6" = true then v6 else v4) value) := by
    split
    · exact declared_qualifies v6 value six
    · exact declared_qualifies v4 value four
  exact all_qualify_append _ _
    (all_qualify_append _ _
      (all_qualify_append _ _
        (all_qualify_append _ _ (declared_qualifies _ _ (by decide)) (family _ _ _ (by decide) (by decide)))
        (family _ _ _ (by decide) (by decide)))
      (port_qualifies _ _ _ (by decide) (by decide)))
    (port_qualifies _ _ _ (by decide) (by decide))

-- The prefixes and ports that a rule declares.
def Narrowed (r : Kubenet.ACLRule) : Prop :=
  r.sourcePrefix ≠ "" ∨ r.destinationPrefix ≠ "" ∨ r.sourcePort ≠ "" ∨ r.destinationPort ≠ ""

theorem declared_nil_iff (name value : String) : Fabricplan.declared name value = [] ↔ value = "" := by
  rw [Fabricplan.declared]
  by_cases empty : value = ""
  · simp [empty]
  · simp [empty]

theorem port_nil_iff (single range value : String) : Fabricplan.portField single range value = [] ↔ value = "" := by
  rw [Fabricplan.portField]
  by_cases empty : value = ""
  · simp [empty]
  · rw [if_neg empty]
    split
    · simp [empty]
    · simp [empty]

theorem match_fields_nil_iff (al : Kubenet.AccessList) (r : Kubenet.ACLRule) :
    Fabricplan.matchFields al r = [] ↔ Fabricplan.protoToNumber r.protocol = "" ∧ ¬ Narrowed r := by
  simp only [Fabricplan.matchFields, List.append_eq_nil_iff, declared_nil_iff, port_nil_iff, Narrowed, not_or, not_not, and_assoc]

theorem to_lower_empty (text : String) : toLower text = "" ↔ text = "" := by
  rw [toLower, ← String.toList_inj, ← String.toList_inj, String.toList_ofList]
  exact List.map_eq_nil_iff

-- A protocol is left out of the row when it is empty or the word for any.
theorem proto_empty_iff (protocol : String) : Fabricplan.protoToNumber protocol = "" ↔ protocol = "" ∨ toLower protocol = "any" := by
  have silent : ∀ entry ∈ Fabricplan.protocolNumbers, entry.2 = "" → entry.1 = "" ∨ entry.1 = "any" := by decide
  rw [← to_lower_empty protocol, Fabricplan.protoToNumber]
  cases found : Fabricplan.protocolNumbers.get? (toLower protocol) with
  | none =>
      rw [Option.getD_none]
      constructor
      · intro empty
        exact Or.inl ((to_lower_empty protocol).mpr empty)
      · intro word
        cases word with
        | inl empty => exact (to_lower_empty protocol).mp empty
        | inr any =>
            rw [any] at found
            cases found
  | some number =>
      rw [Option.getD_some]
      obtain ⟨before, after, split, _⟩ := List.lookup_eq_some_iff.mp found
      constructor
      · intro empty
        exact silent (toLower protocol, number) (by rw [split]; simp) empty
      · intro word
        cases word with
        | inl empty =>
            rw [empty] at found
            exact (Option.some.inj found).symm
        | inr any =>
            rw [any] at found
            exact (Option.some.inj found).symm

theorem qualified_iff (r : Kubenet.ACLRule) : Fabricplan.qualified r = true ↔ r.protocol ≠ "" ∨ Narrowed r := by
  simp [Fabricplan.qualified, Narrowed, or_assoc]

end Fields

section Counted

-- Two filters of one list, the second one stricter, are as long when they keep the same entries.
theorem same_length_iff {α : Type} (loose strict : α → Bool) (entries : List α) (stricter : ∀ x ∈ entries, strict x = true → loose x = true) :
    (entries.filter loose).length = (entries.filter strict).length ↔ ∀ x ∈ entries, loose x = true → strict x = true := by
  have inside : entries.filter strict = (entries.filter loose).filter strict := by
    rw [List.filter_filter]
    apply List.filter_congr
    intro x member
    cases kept : strict x with
    | false => rfl
    | true => rw [stricter x member kept]; rfl
  constructor
  · intro lengths x member wide
    have whole : (entries.filter loose).filter strict = entries.filter loose := by
      apply List.filter_sublist.eq_of_length
      rw [← inside]
      exact lengths.symm
    have kept : x ∈ (entries.filter loose).filter strict := by
      rw [whole]
      exact List.mem_filter.mpr ⟨member, wide⟩
    exact (List.mem_filter.mp kept).2
  · intro same
    congr 1
    apply List.filter_congr
    intro x member
    cases kept : strict x with
    | true => exact stricter x member kept
    | false =>
        cases wide : loose x with
        | false => rfl
        | true =>
            rw [same x member wide] at kept
            cases kept

-- The row of a rule is written a qualifier exactly where its fields hold one.
theorem field_rows (row other : Fabricplan.ConfigRow) (fields : List Fabricplan.RowField) :
    other ∈ (Fabricplan.fieldOps row fields).redis.filterMap qualifierRow ↔ other = row ∧ ∃ field ∈ fields, isQualifier field = true := by
  rw [List.mem_filterMap]
  constructor
  · intro written
    obtain ⟨command, listed, carried⟩ := written
    obtain ⟨field, member, rfl⟩ := List.mem_map.mp listed
    rw [qualifierRow] at carried
    split at carried
    · rename_i qualifies
      cases carried
      exact ⟨rfl, field, member, by simpa using qualifies⟩
    · cases carried
  · intro parts
    obtain ⟨rfl, field, member, qualifies⟩ := parts
    refine ⟨.hset other [field], List.mem_map.mpr ⟨field, member, rfl⟩, ?_⟩
    rw [qualifierRow, if_pos (by simpa using qualifies)]

theorem plain_row (row other : Fabricplan.ConfigRow) (fields : List Fabricplan.RowField) (plain : ∀ field ∈ fields, isQualifier field = false) :
    other ∉ (Fabricplan.fieldOps row fields).redis.filterMap qualifierRow := by
  intro written
  obtain ⟨_, field, member, qualifies⟩ := (field_rows row other fields).mp written
  rw [plain field member] at qualifies
  cases qualifies

theorem verdict_plain (priority : Int) (action : String) : ∀ field ∈ Fabricplan.verdictFields priority action, isQualifier field = false := by
  intro field member
  simp only [Fabricplan.verdictFields, List.mem_cons, List.not_mem_nil, or_false] at member
  cases member with
  | inl first => rw [first]; rfl
  | inr second => rw [second]; rfl

theorem description_plain (value : String) : ∀ field ∈ Fabricplan.declared "RULE_DESCRIPTION" value, isQualifier field = false := by
  intro field member
  rw [Fabricplan.declared] at member
  split at member
  · rw [List.mem_singleton.mp member]
    rfl
  · cases member

theorem rule_row_iff (al : Kubenet.AccessList) (table : String) (r : Kubenet.ACLRule) (row : Fabricplan.ConfigRow) :
    (∃ op ∈ (Fabricplan.rulePart al table r).ops, row ∈ op.redis.filterMap qualifierRow) ↔
      row = Fabricplan.aclRuleRow table r.name ∧ Fabricplan.matchFields al r ≠ [] := by
  have one : (Fabricplan.rulePart al table r).ops = [Fabricplan.fieldOps (Fabricplan.aclRuleRow table r.name)
      (Fabricplan.verdictFields r.priority r.action ++ Fabricplan.matchFields al r ++
        Fabricplan.declared "RULE_DESCRIPTION" r.description)] := rfl
  simp only [one, List.mem_singleton, exists_eq_left, field_rows]
  constructor
  · intro parts
    obtain ⟨same, field, member, qualifies⟩ := parts
    refine ⟨same, ?_⟩
    intro none
    rw [none, List.append_nil] at member
    cases List.mem_append.mp member with
    | inl verdict =>
        rw [verdict_plain _ _ field verdict] at qualifies
        cases qualifies
    | inr described =>
        rw [description_plain _ field described] at qualifies
        cases qualifies
  · intro parts
    obtain ⟨same, present⟩ := parts
    obtain ⟨field, member⟩ := List.exists_mem_of_ne_nil _ present
    exact ⟨same, field, List.mem_append_left _ (List.mem_append_right _ member), match_fields_qualify al r field member⟩

end Counted

section Keys

-- A row of CONFIG_DB is not the key pattern of the entries.
theorem acl_text_other (table key : String) (starts : ∃ rest, table.toList = 'A' :: 'C' :: rest) :
    (Fabricplan.ConfigRow.text ⟨table, key⟩) ≠ entryKey := by
  intro same
  obtain ⟨rest, front⟩ := starts
  have chars := congrArg (fun text => text.toList[1]?) same
  simp only [Fabricplan.ConfigRow.text, String.toList_append, front, List.cons_append] at chars
  have second : entryKey.toList[1]? = some 'S' := by decide
  rw [second] at chars
  exact absurd (Option.some.inj chars) (by decide)

theorem other_key (table name : String) (fields : List Fabricplan.RowField) (check : Fabricplan.Check)
    (listed : check ∈ Fabricplan.fieldChecks (Fabricplan.aclRuleRow table name) fields) :
    ¬ decide (check.redisKey = entryKey) = true := by
  have key : (Fabricplan.aclRuleRow table name).text ≠ entryKey := acl_text_other _ _ ⟨_, rfl⟩
  have same : check.redisKey = (Fabricplan.aclRuleRow table name).text := by
    rw [Fabricplan.fieldChecks, List.mem_cons] at listed
    cases listed with
    | inl exists_ => rw [exists_]
    | inr value =>
        obtain ⟨field, _, rfl⟩ := List.mem_map.mp value
        rfl
  rw [same]
  simpa using key

end Keys

section Rendered
variable (al : Kubenet.AccessList) (ports : List String) (serviceID tenant : String) (opts : Fabricplan.Options) (part : Fabricplan.Part)

theorem qualified_rows_iff (bound : ports ≠ []) (made : Fabricplan.renderACL al ports serviceID tenant opts = .ok part) :
    ∃ table, ∀ row, row ∈ qualifiedRows part ↔ ∃ r ∈ al.rules, row = Fabricplan.aclRuleRow table r.name ∧ Fabricplan.matchFields al r ≠ [] := by
  rw [Fabricplan.renderACL, if_neg bound] at made
  obtain ⟨table, _, made⟩ := bind_ok _ _ _ made
  cases made
  refine ⟨table, ?_⟩
  intro row
  have tablePlain (stage kind bindings policy : String) :
      row ∉ (Fabricplan.fieldOps (Fabricplan.aclTableRow table)
        [("stage", stage), ("type", kind), ("ports@", bindings), ("policy_desc", policy)]).redis.filterMap qualifierRow := by
    apply plain_row
    intro field member
    simp only [List.mem_cons, List.not_mem_nil, or_false] at member
    obtain rfl | rfl | rfl | rfl := member
    · rfl
    · rfl
    · rfl
    · rfl
  have fallbackPlain : ∀ op ∈ (Fabricplan.defaultPart al table).ops, row ∉ op.redis.filterMap qualifierRow := by
    rw [Fabricplan.defaultPart]
    split
    · intro op none
      cases none
    · intro op member
      rw [List.mem_singleton.mp member]
      exact plain_row _ row _ (verdict_plain 1 al.defaultAction)
  have waitPlain : ∀ op ∈ (if opts.onVM then [({ shell := [.awaitACLTable (Fabricplan.stageSAI al)] } : Fabricplan.NetworkOp)] else []),
      row ∉ op.redis.filterMap qualifierRow := by
    split
    · intro op member
      rw [List.mem_singleton.mp member]
      exact List.not_mem_nil
    · intro op none
      cases none
  rw [qualifiedRows, List.mem_dedup, List.mem_flatMap]
  constructor
  · intro written
    obtain ⟨op, listed, carried⟩ := written
    cases List.mem_append.mp listed with
    | inr wait => exact absurd carried (waitPlain op wait)
    | inl earlier =>
        cases List.mem_append.mp earlier with
        | inr fallback => exact absurd carried (fallbackPlain op fallback)
        | inl first =>
            cases List.mem_cons.mp first with
            | inl head =>
                rw [head] at carried
                exact absurd carried (tablePlain _ _ _ _)
            | inr rules =>
                obtain ⟨rulePart, made, inside⟩ := List.mem_flatMap.mp rules
                obtain ⟨r, member, rfl⟩ := List.mem_map.mp made
                exact ⟨r, member, (rule_row_iff al table r row).mp ⟨op, inside, carried⟩⟩
  · intro parts
    obtain ⟨r, member, shape⟩ := parts
    obtain ⟨op, inside, carried⟩ := (rule_row_iff al table r row).mpr shape
    have rules := List.mem_flatMap.mpr ⟨_, List.mem_map.mpr ⟨r, member, rfl⟩, inside⟩
    exact ⟨op, List.mem_append_left _ (List.mem_append_left _ (List.mem_cons_of_mem _ rules)), carried⟩

theorem demanded_entries (made : Fabricplan.renderACL al ports serviceID tenant opts = .ok part) (bound : ports ≠ []) :
    demandedEntries part = Fabricplan.minEntries al opts := by
  rw [Fabricplan.renderACL, if_neg bound] at made
  obtain ⟨table, _, made⟩ := bind_ok _ _ _ made
  cases made
  have rules : (((al.rules.map (Fabricplan.rulePart al table)).flatMap Fabricplan.Part.checks).filter fun check => check.redisKey = entryKey) = [] := by
    rw [List.filter_eq_nil_iff]
    intro check listed
    obtain ⟨rulePart, made, inside⟩ := List.mem_flatMap.mp listed
    obtain ⟨r, _, rfl⟩ := List.mem_map.mp made
    exact other_key _ _ _ check inside
  have fallback : ((Fabricplan.defaultPart al table).checks.filter fun check => check.redisKey = entryKey) = [] := by
    rw [List.filter_eq_nil_iff]
    intro check listed
    rw [Fabricplan.defaultPart] at listed
    split at listed
    · cases listed
    · exact other_key _ _ _ check listed
  have tableKey : (Fabricplan.aclTableRow table).text ≠ entryKey := acl_text_other _ _ ⟨_, rfl⟩
  have otherPattern : "ASIC_STATE:SAI_OBJECT_TYPE_ACL_TABLE:*" ≠ entryKey := by decide
  have pattern : "ASIC_STATE:SAI_OBJECT_TYPE_ACL_ENTRY:*" = entryKey := rfl
  rw [demandedEntries, List.filter_append, List.filter_append, rules, fallback, Fabricplan.tableChecks]
  by_cases none : Fabricplan.minEntries al opts = 0
  · simp [none, tableKey, otherPattern]
  · simp [none, tableKey, otherPattern, pattern]

theorem rule_row_injective (table name other : String)
    (same : Fabricplan.aclRuleRow table name = Fabricplan.aclRuleRow table other) : name = other := by
  have keys := congrArg (fun row => row.key.toList) same
  simp only [Fabricplan.aclRuleRow, String.toList_append] at keys
  exact String.toList_inj.mp (List.append_cancel_left keys)

theorem qualified_rows_count (bound : ports ≠ []) (distinct : (al.rules.map Kubenet.ACLRule.name).Nodup)
    (made : Fabricplan.renderACL al ports serviceID tenant opts = .ok part) :
    (qualifiedRows part).length = (al.rules.filter fun r => Fabricplan.matchFields al r ≠ []).length := by
  obtain ⟨table, rows⟩ := qualified_rows_iff al ports serviceID tenant opts part bound made
  have names : ((al.rules.filter fun r => Fabricplan.matchFields al r ≠ []).map fun r => Fabricplan.aclRuleRow table r.name).Nodup := by
    have kept : ((al.rules.filter fun r => Fabricplan.matchFields al r ≠ []).map Kubenet.ACLRule.name).Nodup :=
      distinct.sublist (List.filter_sublist.map _)
    have image := kept.map (f := Fabricplan.aclRuleRow table) (fun name other same => rule_row_injective table name other same)
    rw [List.map_map] at image
    exact image
  have same : (qualifiedRows part).Perm ((al.rules.filter fun r => Fabricplan.matchFields al r ≠ []).map fun r =>
      Fabricplan.aclRuleRow table r.name) := by
    have once : (qualifiedRows part).Nodup := List.nodup_dedup _
    apply (List.perm_ext_iff_of_nodup once names).mpr
    intro row
    rw [rows, List.mem_map]
    constructor
    · intro parts
      obtain ⟨r, member, isRow, present⟩ := parts
      exact ⟨r, List.mem_filter.mpr ⟨member, decide_eq_true present⟩, isRow.symm⟩
    · intro parts
      obtain ⟨r, kept, isRow⟩ := parts
      obtain ⟨member, present⟩ := List.mem_filter.mp kept
      exact ⟨r, member, isRow.symm, of_decide_eq_true present⟩
  rw [same.length_eq, List.length_map]

-- A rule that declares the word for any and nothing else.
def AnyOnly (r : Kubenet.ACLRule) : Prop := toLower r.protocol = "any" ∧ ¬ Narrowed r

instance (r : Kubenet.ACLRule) : Decidable (AnyOnly r) := inferInstanceAs (Decidable (_ ∧ ¬ (_ ∨ _)))

theorem entries_agree_iff (vm : opts.onVM = true) (bound : ports ≠ []) (distinct : (al.rules.map Kubenet.ACLRule.name).Nodup)
    (made : Fabricplan.renderACL al ports serviceID tenant opts = .ok part) :
    demandedEntries part = (qualifiedRows part).length ↔ ∀ r ∈ al.rules, ¬ AnyOnly r := by
  have named (r : Kubenet.ACLRule) : Fabricplan.matchFields al r = [] ↔ Fabricplan.qualified r = false ∨ AnyOnly r := by
    rw [match_fields_nil_iff, proto_empty_iff, AnyOnly, ← Bool.not_eq_true, qualified_iff]
    have word : toLower r.protocol = "any" → r.protocol ≠ "" := by
      intro any empty
      rw [empty] at any
      exact absurd any (by decide)
    tauto
  rw [demanded_entries al ports serviceID tenant opts part made bound,
    qualified_rows_count al ports serviceID tenant opts part bound distinct made, Fabricplan.minEntries, if_pos vm, same_length_iff]
  · constructor
    · intro matched r member any
      have declared : Fabricplan.qualified r = true := by
        rw [qualified_iff]
        left
        intro empty
        rw [AnyOnly, empty] at any
        exact absurd any.1 (by decide)
      exact of_decide_eq_true (matched r member declared) ((named r).mpr (Or.inr any))
    · intro none r member declared
      apply decide_eq_true
      intro empty
      cases (named r).mp empty with
      | inl undeclared =>
          rw [declared] at undeclared
          cases undeclared
      | inr any => exact none r member any
  · intro r _ present
    cases undeclared : Fabricplan.qualified r with
    | true => rfl
    | false => exact absurd ((named r).mpr (Or.inl undeclared)) (of_decide_eq_true present)

end Rendered

section Words

theorem upper_iff (c : Char) : ('A' ≤ c && c ≤ 'Z') = true ↔ 65 ≤ c.toNat ∧ c.toNat ≤ 90 := by
  simp only [Bool.and_eq_true, decide_eq_true_eq, Char.le_def, UInt32.le_iff_toNat_le]
  rfl

-- Only letters have another lower case, and none of them is white space.
theorem lower_not_space (c : Char) (other : lowerToAscii c ≠ c) : isUnicodeSpace c = false := by
  have letter : c.toNat = 0x212A ∨ c.toNat = 0x130 ∨ (65 ≤ c.toNat ∧ c.toNat ≤ 90) := by
    by_contra none
    simp only [not_or] at none
    apply other
    rw [lowerToAscii, if_neg none.1, if_neg none.2.1, toLowerAscii, if_neg]
    intro upper
    exact none.2.2 ((upper_iff c).mp upper)
  cases space : isUnicodeSpace c with
  | false => rfl
  | true =>
      simp only [isUnicodeSpace, isSpace, Bool.or_eq_true, decide_eq_true_eq, Bool.and_eq_true, ← Char.toNat_inj, Char.reduceToNat] at space
      omega

theorem trim_free (drop : Char → Bool) (chars : List Char) (kept : ∀ c ∈ chars, drop c = false) : trimChars drop chars = chars := by
  have stays (list : List Char) (all : ∀ c ∈ list, drop c = false) : list.dropWhile drop = list := by
    cases list with
    | nil => rfl
    | cons c rest => rw [List.dropWhile_cons, all c List.mem_cons_self]; rfl
  rw [trimChars, stays chars kept, stays chars.reverse (fun c member => kept c (List.mem_reverse.mp member)), List.reverse_reverse]

-- Trimming finds nothing to take from the word for any, however it is written.
theorem any_folds (protocol : String) (any : toLower protocol = "any") : foldWord protocol = "any" := by
  have chars : protocol.toList.map lowerToAscii = ['a', 'n', 'y'] := by
    rw [toLower, ← String.toList_inj, String.toList_ofList] at any
    exact any
  have kept : ∀ c ∈ protocol.toList, isUnicodeSpace c = false := by
    intro c member
    by_cases same : lowerToAscii c = c
    · have letter : lowerToAscii c ∈ ['a', 'n', 'y'] := by
        rw [← chars]
        exact List.mem_map_of_mem member
      rw [same] at letter
      have plain : ['a', 'n', 'y'].all (fun letter => decide (isUnicodeSpace letter = false)) = true := by decide
      exact of_decide_eq_true (List.all_eq_true.mp plain c letter)
    · exact lower_not_space c same
  rw [foldWord, trimUnicodeSpace, trim_free _ _ kept, String.ofList_toList, any]

theorem canonical_any_iff (protocol : String) :
    toLower (canonicalWord aclProtocols (foldWord protocol) protocol) = "any" ↔ foldWord protocol = "any" ∨ foldWord protocol = "" := by
  have spelled : ∀ entry ∈ aclProtocols, toLower entry.2 = "any" ↔ entry.1 = "any" ∨ entry.1 = "" := by decide
  cases found : aclProtocols.get? (foldWord protocol) with
  | some word =>
      obtain ⟨before, after, split, _⟩ := List.lookup_eq_some_iff.mp found
      rw [canonical_word_known _ _ _ word found]
      exact spelled (foldWord protocol, word) (by rw [split]; simp)
  | none =>
      rw [canonical_word_unknown _ _ _ found]
      constructor
      · intro any
        exact Or.inl (any_folds protocol any)
      · intro word
        cases word with
        | inl any =>
            rw [any] at found
            cases found
        | inr empty =>
            rw [empty] at found
            cases found

-- A rule that names no protocol, prefix or port to match on.
def Unrestricted (r : ACLRule) : Prop :=
  (foldWord r.protocol = "any" ∨ foldWord r.protocol = "") ∧
    r.sourcePrefix = "" ∧ r.destinationPrefix = "" ∧ r.sourcePort = "" ∧ r.destinationPort = ""

instance (r : ACLRule) : Decidable (Unrestricted r) := inferInstanceAs (Decidable (_ ∧ _))

theorem any_only_iff (r : ACLRule) : AnyOnly r.canonicalize.decoded ↔ Unrestricted r := by
  rw [Unrestricted, ← canonical_any_iff, AnyOnly]
  simp [Narrowed, ACLRule.decoded, ACLRule.canonicalize]

end Words

section Demand

theorem decoded_rules (a : ACL) (label : String) :
    (accessListFor a.canonicalize label).decoded.rules = a.rules.map fun r => r.canonicalize.decoded := by
  rw [ACL.decoded, accessListFor, ACL.canonicalize, List.map_map]
  rfl

-- An access list of one rule; `narrowed` says whether it is about one prefix only.
def labACL (source : String) : ACL :=
  { name := "edge"
    stage := "ingress"
    type := "l3"
    rules := [{ name := "r10", priority := 10, action := "permit", sourcePrefix := source }] }

def vmOptions : Fabricplan.Options := { ports := [("eth1", "Ethernet0")], nodeKind := "sonic-vm" }

end Demand

end AgenticNetops.Migration
