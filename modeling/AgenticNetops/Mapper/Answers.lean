import AgenticNetops.Lib.Fallible
import AgenticNetops.Lib.NetworkText
import AgenticNetops.Mapper.Agent

set_option autoImplicit false

/- Which requests the mapper answers: with a complete interpretation, with the fields
   that are missing, or with what is not supported. The others raise an error. -/
namespace AgenticNetops.Mapper

open GoText Regex PyText Schemas Fallible IPNetwork

variable (table : CharTable)

section Endpoints

def VLANInRange (vlan : Option Int) : Prop := ∀ number ∈ vlan, 1 ≤ number ∧ number ≤ 4094

instance (vlan : Option Int) : Decidable (VLANInRange vlan) := inferInstanceAs (Decidable (∀ _ ∈ vlan, _))

def trimmedName (text : List Char) : List Char := trimChars (anyOf ",.;:") (trimChars isBlank text)

-- Two single words are left of a node and an attachment.
def NamesEndpoint (node attachment : List Char) : Prop :=
  ¬ (trimmedName node = [] ∨ trimmedName attachment = []) ∧
    ¬ ((trimmedName node).any isBlank ∨ (trimmedName attachment).any isBlank)

instance (node attachment : List Char) : Decidable (NamesEndpoint node attachment) := inferInstanceAs (Decidable (_ ∧ _))

-- The node and the attachment of a clause that joins two attachments.
def clauseNames (clause : List Char) : Option (List Char × List Char) :=
  match fullMatch attachmentOnNode (cleanedClause table clause) with
  | some found => some (groupText found "node", groupText found "attachment")
  | none =>
      match blankSeparated (cleanedClause table clause) with
      | node :: attachment :: _ => some (node, attachment)
      | _ => none

def ClauseInRange (globalVLAN : Option Int) (clause : List Char) : Prop :=
  ∀ names ∈ clauseNames table clause, NamesEndpoint names.1 names.2 → VLANInRange ((parseVLAN table clause).or globalVLAN)

-- Every VLAN number that goes with an endpoint is one that a tag can have.
def EndpointsInRange (request : List Char) : Prop :=
  match endpointPair table request with
  | none =>
      ∀ single ∈ search (endpointSingleOn table) request,
        NamesEndpoint (groupText single "node") (groupText single "attachment") → VLANInRange (parseVLAN table request)
  | some pair =>
      ClauseInRange table (parseVLAN table request) (trimChars isBlank (groupText pair "left")) ∧
        ClauseInRange table (parseVLAN table request) (trimChars isBlank (groupText pair "right"))

theorem endpoint_or_none_named (node attachment : List Char) (vlan : Option Int) :
    endpointOrNone node attachment vlan =
      if NamesEndpoint node attachment then
        if VLANInRange vlan then
          .ok (some { siteOrNode := String.ofList (trimmedName node), attachment := String.ofList (trimmedName attachment), vlan })
        else .error .endpointInvalid
      else .ok none := by
  change (if trimmedName node = [] ∨ trimmedName attachment = [] then Except.ok none
    else if (trimmedName node).any isBlank ∨ (trimmedName attachment).any isBlank then Except.ok none
    else if VLANInRange vlan then _ else _) = _
  by_cases missing : trimmedName node = [] ∨ trimmedName attachment = []
  · rw [if_pos missing, if_neg fun named => named.1 missing]
  · rw [if_neg missing]
    by_cases blanked : (trimmedName node).any isBlank ∨ (trimmedName attachment).any isBlank
    · rw [if_pos blanked, if_neg fun named => named.2 blanked]
    · rw [if_neg blanked, if_pos (show NamesEndpoint node attachment from ⟨missing, blanked⟩)]
      rfl

theorem endpoint_or_none_ok (node attachment : List Char) (vlan : Option Int) :
    (∃ made, endpointOrNone node attachment vlan = .ok made) ↔ (NamesEndpoint node attachment → VLANInRange vlan) := by
  rw [endpoint_or_none_named]
  by_cases named : NamesEndpoint node attachment
  · rw [if_pos named]
    by_cases bounded : VLANInRange vlan
    · rw [if_pos bounded]
      exact ⟨fun _ _ => bounded, fun _ => ⟨_, rfl⟩⟩
    · rw [if_neg bounded]
      refine ⟨fun ok => ?_, fun inRange => absurd (inRange named) bounded⟩
      obtain ⟨made, done⟩ := ok
      cases done
  · rw [if_neg named]
    exact ⟨fun _ other => absurd other named, fun _ => ⟨none, rfl⟩⟩

theorem filled_text (text : List Char) (present : text ≠ []) : String.ofList text ≠ "" := by
  intro empty
  exact present (by simpa using congrArg String.toList empty)

theorem endpoint_or_none_valid (node attachment : List Char) (vlan : Option Int) (endpoint : EndpointIntent)
    (made : endpointOrNone node attachment vlan = .ok (some endpoint)) : endpoint.Valid := by
  rw [endpoint_or_none_named] at made
  by_cases named : NamesEndpoint node attachment
  · rw [if_pos named] at made
    by_cases bounded : VLANInRange vlan
    · rw [if_pos bounded] at made
      cases made
      exact ⟨filled_text _ fun empty => named.1 (.inl empty), filled_text _ fun empty => named.1 (.inr empty), bounded⟩
    · rw [if_neg bounded] at made
      cases made
  · rw [if_neg named] at made
    cases made

theorem endpoint_of_names (globalVLAN : Option Int) (clause : List Char) :
    endpointOf table globalVLAN clause =
      match clauseNames table clause with
      | some (node, attachment) => endpointOrNone node attachment ((parseVLAN table clause).or globalVLAN)
      | none => .ok none := by
  rw [endpointOf, clauseNames]
  cases fullMatch attachmentOnNode (cleanedClause table clause) with
  | some found => rfl
  | none =>
      cases blankSeparated (cleanedClause table clause) with
      | nil => rfl
      | cons node others =>
          cases others with
          | nil => rfl
          | cons attachment rest => rfl

theorem endpoint_of_ok (globalVLAN : Option Int) (clause : List Char) :
    (∃ made, endpointOf table globalVLAN clause = .ok made) ↔ ClauseInRange table globalVLAN clause := by
  rw [endpoint_of_names, ClauseInRange]
  cases clauseNames table clause with
  | none => exact ⟨fun _ names member => (by cases member), fun _ => ⟨none, rfl⟩⟩
  | some names =>
      obtain ⟨node, attachment⟩ := names
      rw [endpoint_or_none_ok]
      refine ⟨fun inRange other member => ?_, fun every => every _ rfl⟩
      cases member
      exact inRange

theorem endpoint_of_valid (globalVLAN : Option Int) (clause : List Char) (endpoint : EndpointIntent)
    (made : endpointOf table globalVLAN clause = .ok (some endpoint)) : endpoint.Valid := by
  rw [endpoint_of_names] at made
  cases names : clauseNames table clause with
  | none =>
      rw [names] at made
      cases made
  | some pair =>
      rw [names] at made
      exact endpoint_or_none_valid _ _ _ endpoint made

-- The endpoints are read, unless a VLAN number is out of range.
theorem parse_endpoints_ok (request : List Char) :
    (∃ endpoints, parseEndpoints table request = .ok endpoints) ↔ EndpointsInRange table request := by
  rw [parseEndpoints, EndpointsInRange]
  cases endpointPair table request with
  | some pair =>
      simp only []
      rw [bind_ok_iff, ← endpoint_of_ok, ← endpoint_of_ok]
      refine ⟨fun ok => ?_, fun both => ?_⟩
      · obtain ⟨left, isLeft, rest⟩ := ok
        obtain ⟨right, isRight, _⟩ := (bind_ok_iff _ _).mp rest
        exact ⟨⟨left, isLeft⟩, right, isRight⟩
      · obtain ⟨⟨left, isLeft⟩, right, isRight⟩ := both
        exact ⟨left, isLeft, (bind_ok_iff _ _).mpr ⟨right, isRight, _, rfl⟩⟩
  | none =>
      simp only []
      cases search (endpointSingleOn table) request with
      | none => exact ⟨fun _ single member => (by cases member), fun _ => ⟨[], rfl⟩⟩
      | some single =>
          simp only []
          rw [bind_ok_iff]
          refine ⟨fun ok other member => ?_, fun every => ?_⟩
          · cases member
            obtain ⟨made, isMade, _⟩ := ok
            exact (endpoint_or_none_ok _ _ _).mp ⟨made, isMade⟩
          · obtain ⟨made, isMade⟩ := (endpoint_or_none_ok _ _ _).mpr (every single rfl)
            exact ⟨made, isMade, _, rfl⟩

theorem parse_endpoints_valid (request : List Char) (endpoints : List EndpointIntent)
    (parsed : parseEndpoints table request = .ok endpoints) : ∀ endpoint ∈ endpoints, endpoint.Valid := by
  rw [parseEndpoints] at parsed
  cases pairing : endpointPair table request with
  | some pair =>
      rw [pairing] at parsed
      obtain ⟨left, isLeft, rest⟩ := bind_ok _ _ _ parsed
      obtain ⟨right, isRight, built⟩ := bind_ok _ _ _ rest
      cases built
      intro endpoint member
      cases List.mem_append.mp member with
      | inl inLeft =>
          rw [Option.mem_toList] at inLeft
          exact endpoint_of_valid table _ _ endpoint (inLeft ▸ isLeft)
      | inr inRight =>
          rw [Option.mem_toList] at inRight
          exact endpoint_of_valid table _ _ endpoint (inRight ▸ isRight)
  | none =>
      rw [pairing] at parsed
      cases single : search (endpointSingleOn table) request with
      | none =>
          rw [single] at parsed
          cases parsed
          intro endpoint member
          cases member
      | some found =>
          rw [single] at parsed
          obtain ⟨made, isMade, built⟩ := bind_ok _ _ _ parsed
          cases built
          intro endpoint member
          rw [Option.mem_toList] at member
          exact endpoint_or_none_valid _ _ _ endpoint (member ▸ isMade)

theorem missing_endpoint_valid : missingEndpoint.Valid := by decide

theorem or_missing_valid (endpoints : List EndpointIntent) (valid : ∀ endpoint ∈ endpoints, endpoint.Valid) :
    orMissing endpoints ≠ [] ∧ ∀ endpoint ∈ orMissing endpoints, endpoint.Valid := by
  rw [orMissing]
  by_cases none' : endpoints = []
  · rw [if_pos none']
    refine ⟨List.cons_ne_nil _ _, fun endpoint member => ?_⟩
    rw [List.mem_singleton.mp member]
    exact missing_endpoint_valid
  · rw [if_neg none']
    exact ⟨none', valid⟩

theorem pad_endpoints_valid (count : Nat) (endpoints : List EndpointIntent) (some_count : 1 ≤ count)
    (valid : ∀ endpoint ∈ endpoints, endpoint.Valid) :
    padEndpoints count endpoints ≠ [] ∧ ∀ endpoint ∈ padEndpoints count endpoints, endpoint.Valid := by
  rw [padEndpoints]
  refine ⟨fun empty => ?_, fun endpoint member => ?_⟩
  · have padded := congrArg List.length empty
    rw [List.length_append, List.length_replicate, List.length_nil] at padded
    omega
  · cases List.mem_append.mp member with
    | inl own => exact valid endpoint own
    | inr padding =>
        rw [List.eq_of_mem_replicate padding]
        exact missing_endpoint_valid

theorem attach_prefixes_valid (request : List Char) (endpoints : List EndpointIntent) (prefixes : List String)
    (present : endpoints ≠ []) (valid : ∀ endpoint ∈ endpoints, endpoint.Valid) :
    attachEndpointPrefixes table request endpoints prefixes ≠ [] ∧
      ∀ endpoint ∈ attachEndpointPrefixes table request endpoints prefixes, endpoint.Valid := by
  rw [attachEndpointPrefixes]
  refine ⟨fun empty => present (List.mapIdx_eq_nil_iff.mp empty), fun endpoint member => ?_⟩
  obtain ⟨position, bounded, made⟩ := List.mem_mapIdx.mp member
  have own := valid endpoints[position] (List.getElem_mem bounded)
  rw [← made]
  cases endpointPrefixes table (endpointPrefixClauses table request) prefixes position with
  | nil => exact own
  | cons _ _ => exact own

end Endpoints

section Prefixes

-- The text of a network of one family.
def Printed (version : Version) (text : String) : Prop :=
  ∃ network : Network, network.version = version ∧ network.prefixlen ≤ version.maxPrefixlen ∧ text = networkText network

theorem prefix_kept (version : Version) (texts : List String) (network : Network) (family : network.version = version)
    (fits : network.prefixlen ≤ version.maxPrefixlen) (printed : ∀ text ∈ texts, Printed version text) :
    ∀ text ∈ (if texts.contains (networkText network) then texts else texts ++ [networkText network]), Printed version text := by
  by_cases known : texts.contains (networkText network) = true
  · rw [if_pos known]
    exact printed
  · rw [if_neg known]
    intro text member
    cases List.mem_append.mp member with
    | inl before => exact printed text before
    | inr last => exact ⟨network, family, fits, List.mem_singleton.mp last⟩

-- Every prefix of the request is spelled as its network is printed.
theorem parse_prefixes_printed (request : List Char) :
    (∀ text ∈ (parsePrefixes table request).1, Printed .v4 text) ∧ ∀ text ∈ (parsePrefixes table request).2, Printed .v6 text := by
  rw [parsePrefixes]
  generalize findAll (prefixToken table) request = matches'
  refine List.foldlRecOn (motive := fun read : List String × List String =>
    (∀ text ∈ read.1, Printed .v4 text) ∧ ∀ text ∈ read.2, Printed .v6 text) matches' _ ?_ ?_
  · exact ⟨fun text member => (by cases member), fun text member => (by cases member)⟩
  intro before printed found _
  obtain ⟨ipv4, ipv6⟩ := before
  obtain ⟨printedFour, printedSix⟩ := printed
  cases read : ipNetwork (String.ofList (groupText found "prefix")) with
  | none =>
      exact ⟨printedFour, printedSix⟩
  | some network =>
      have fits := ip_network_fits _ network read
      simp only []
      cases family : network.version with
      | v4 => exact ⟨prefix_kept .v4 ipv4 network family (family ▸ fits) printedFour, printedSix⟩
      | v6 => exact ⟨printedFour, prefix_kept .v6 ipv6 network family (family ▸ fits) printedSix⟩

theorem valid_prefix_printed (version : Version) (text : String) (printed : Printed version text) :
    ∃ again, validPrefix version text = some again ∧ Printed version again := by
  obtain ⟨network, family, fits, rfl⟩ := printed
  obtain ⟨address, read⟩ := network_text_read network (family ▸ fits)
  refine ⟨networkText { network with networkAddress := address }, ?_, { network with networkAddress := address }, family, fits, rfl⟩
  rw [validPrefix, read]
  exact if_pos family

theorem valid_prefixes_printed (version : Version) (texts : List String) (printed : ∀ text ∈ texts, Printed version text) :
    ∃ again, validPrefixes version texts = some again ∧ ∀ text ∈ again, Printed version text := by
  induction texts with
  | nil => exact ⟨[], rfl, printed⟩
  | cons text rest ih =>
      obtain ⟨first, isFirst, firstPrinted⟩ := valid_prefix_printed version text (printed text List.mem_cons_self)
      obtain ⟨others, isOthers, othersPrinted⟩ := ih fun other member => printed other (List.mem_cons_of_mem _ member)
      refine ⟨first :: others, ?_, List.forall_mem_cons.mpr ⟨firstPrinted, othersPrinted⟩⟩
      rw [validPrefixes] at isOthers ⊢
      rw [List.mapM_cons, isFirst, isOthers]
      rfl

-- An interpretation whose prefixes are printed ones is validated, and validated again.
theorem model_validate_twice (interp : Interpretation) (valid : interp.Valid table)
    (printedFour : ∀ text ∈ interp.ipv4Prefixes, Printed .v4 text) (printedSix : ∀ text ∈ interp.ipv6Prefixes, Printed .v6 text) :
    ∃ validated, interp.modelValidate table = some validated ∧ ∃ again, validated.modelValidate table = some again := by
  obtain ⟨four, isFour, fourPrinted⟩ := valid_prefixes_printed .v4 _ printedFour
  obtain ⟨six, isSix, sixPrinted⟩ := valid_prefixes_printed .v6 _ printedSix
  obtain ⟨fourAgain, isFourAgain, _⟩ := valid_prefixes_printed .v4 _ fourPrinted
  obtain ⟨sixAgain, isSixAgain, _⟩ := valid_prefixes_printed .v6 _ sixPrinted
  have once : interp.modelValidate table = some { interp with ipv4Prefixes := four, ipv6Prefixes := six } := by
    rw [Interpretation.modelValidate, if_pos valid, isFour, isSix]
    rfl
  have kept : ({ interp with ipv4Prefixes := four, ipv6Prefixes := six } : Interpretation).Valid table :=
    ⟨valid.serviceID, valid.tenant, valid.endpoints, valid.rules, valid.gateway, valid.exclusive, valid.filter⟩
  refine ⟨_, once, { interp with ipv4Prefixes := fourAgain, ipv6Prefixes := sixAgain }, ?_⟩
  rw [Interpretation.modelValidate, if_pos kept, isFourAgain, isSixAgain]
  rfl

end Prefixes

section Filters

-- What the rule of a filter is made of: one of its protocol, its port and its source.
def NamesRule (request : List Char) : Prop :=
  found (aclProto table) request ∨ found (aclPort table) request ∨ found (aclSrcPrefix table) request

/- An access list has a direction and a rule, and a protocol word that validation knows. The
   direction of a filter that is attached is `ingress` or `egress` once it is in lower case. -/
structure FilterReadable (request : List Char) (construct : ServiceType) : Prop where
  complete : construct = .acl → found (aclStage table) request ∧ NamesRule table request
  protocol : construct = .acl → ∀ proto ∈ search (aclProto table) request,
    ProtocolAllowed table (some (.name (lowerGroup table proto "proto")))
  stage : construct = .acl ∨ found (aclFilterClause table) request → NamesRule table request →
    ∀ stage ∈ search (aclStage table) request, stageNamed (lowerGroup table stage "stage") ≠ none

def FilterPasses (construct : ServiceType) (block : Option ACLBlock) : Prop :=
  ∃ acl, interpretFilter block = some acl ∧ (∀ filter ∈ acl, ∀ rule ∈ filter.rules, rule.Valid) ∧
    (construct = .acl → acl ≠ none ∧ ∀ filter ∈ acl, ∀ rule ∈ filter.rules, ProtocolAllowed table rule.protocol)

theorem acl_rule_cases (request : List Char) :
    (¬ NamesRule table request ∧ aclRule table request = none) ∨
      (NamesRule table request ∧ ∃ rule, aclRule table request = some rule ∧ rule.Valid ∧
        rule.protocol = (search (aclProto table) request).map fun found => .name (lowerGroup table found "proto")) := by
  by_cases named : NamesRule table request
  · have made : aclRule table request = some _ := if_pos named
    have filled : "rule-1" ≠ "" := by decide
    have bounded : (2 : Int) ≤ 100 ∧ (100 : Int) ≤ 65535 := by decide
    exact .inr ⟨named, _, made, ⟨filled, bounded⟩, rfl⟩
  · exact .inl ⟨named, if_neg named⟩

theorem no_filter_passes (construct : ServiceType) : FilterPasses table construct none ↔ construct ≠ .acl := by
  refine ⟨fun passes isACL => ?_, fun other => ?_⟩
  · obtain ⟨acl, interpreted, _, needed⟩ := passes
    cases interpreted
    exact (needed isACL).1 rfl
  · exact ⟨none, rfl, fun filter member => (by cases member), fun isACL => absurd isACL other⟩

theorem filter_block_passes (construct : ServiceType) (block : ACLBlock) (rule : ACLRule) (single : block.rules = [rule])
    (valid : rule.Valid) :
    FilterPasses table construct (some block) ↔
      stageNamed block.stage ≠ none ∧ (construct = .acl → ProtocolAllowed table rule.protocol) := by
  refine ⟨fun passes => ?_, fun both => ?_⟩
  · obtain ⟨acl, interpreted, _, needed⟩ := passes
    obtain ⟨filter, isFilter, rfl⟩ := Option.map_eq_some_iff.mp interpreted
    obtain ⟨stage, named, rfl⟩ := Option.map_eq_some_iff.mp isFilter
    refine ⟨by rw [named]; exact Option.some_ne_none stage, fun isACL => ?_⟩
    exact (needed isACL).2 _ rfl rule (by rw [single]; exact List.mem_singleton_self rule)
  · obtain ⟨named, allowed⟩ := both
    obtain ⟨stage, isStage⟩ := Option.ne_none_iff_exists'.mp named
    refine ⟨some { stage, type := block.type, defaultAction := block.defaultAction, rules := block.rules }, ?_, ?_, ?_⟩
    · rw [interpretFilter, ACLBlock.interpret, isStage]
      rfl
    · intro filter member other listed
      cases member
      rw [single] at listed
      rw [List.mem_singleton.mp listed]
      exact valid
    · refine fun isACL => ⟨Option.some_ne_none _, ?_⟩
      intro filter member other listed
      cases member
      rw [single] at listed
      rw [List.mem_singleton.mp listed]
      exact allowed isACL

-- The three outcomes of looking for a filter.
theorem parse_acl_cases (request : List Char) :
    (parseACL table request).1 = none ∧ ¬ (found (aclStage table) request ∧ NamesRule table request) ∨
      ∃ stage block rule, search (aclStage table) request = some stage ∧ NamesRule table request ∧
        parseACL table request = (some block, []) ∧ block.stage = lowerGroup table stage "stage" ∧ block.rules = [rule] ∧
        rule.Valid ∧ rule.protocol = (search (aclProto table) request).map fun found => .name (lowerGroup table found "proto") := by
  rw [parseACL]
  cases staged : search (aclStage table) request with
  | none =>
      have unstaged : ¬ found (aclStage table) request = true := by
        rw [found, staged]
        exact Bool.false_ne_true
      refine .inl ⟨?_, fun both => unstaged both.1⟩
      cases aclRule table request with
      | none => rfl
      | some rule => rfl
  | some stage =>
      cases acl_rule_cases table request with
      | inl unnamed =>
          rw [unnamed.2]
          exact .inl ⟨rfl, fun both => unnamed.1 both.2⟩
      | inr named =>
          obtain ⟨names, rule, made, valid, protocol⟩ := named
          rw [made]
          exact .inr ⟨stage, _, rule, rfl, names, rfl, rfl, rfl, valid, protocol⟩

theorem protocol_allowed_iff (request : List Char) (rule : ACLRule)
    (protocol : rule.protocol = (search (aclProto table) request).map fun found => .name (lowerGroup table found "proto")) :
    ProtocolAllowed table rule.protocol ↔
      ∀ proto ∈ search (aclProto table) request, ProtocolAllowed table (some (.name (lowerGroup table proto "proto"))) := by
  rw [protocol]
  cases search (aclProto table) request with
  | none => exact ⟨fun _ proto member => (by cases member), fun _ => trivial⟩
  | some proto =>
      refine ⟨fun allowed other member => ?_, fun every => every proto rfl⟩
      cases member
      exact allowed

-- A filter that is found passes if its direction and, on an access list, its protocol do.
theorem found_filter_iff (request : List Char) (construct : ServiceType) (asked : construct = .acl ∨ found (aclFilterClause table) request) :
    FilterPasses table construct (parseACL table request).1 ↔ FilterReadable table request construct := by
  cases parse_acl_cases table request with
  | inl nothing =>
      rw [nothing.1, no_filter_passes]
      refine ⟨fun other => ⟨fun isACL => absurd isACL other, fun isACL => absurd isACL other, fun _ names stage member => ?_⟩,
        fun readable isACL => nothing.2 (readable.complete isACL)⟩
      have staged : found (aclStage table) request = true := by
        rw [found, show search (aclStage table) request = some stage from member]
        rfl
      exact absurd ⟨staged, names⟩ nothing.2
  | inr made =>
      obtain ⟨stage, block, rule, staged, names, parsed, spelled, single, valid, protocol⟩ := made
      rw [parsed, filter_block_passes table construct block rule single valid, spelled,
        protocol_allowed_iff table request rule protocol]
      refine ⟨fun both => ⟨fun _ => ⟨by rw [found, staged]; rfl, names⟩, both.2, fun _ _ other member => ?_⟩, fun readable => ?_⟩
      · rw [staged] at member
        cases member
        exact both.1
      · exact ⟨readable.stage asked names stage staged, readable.protocol⟩

theorem plain_filter_iff (request : List Char) (construct : ServiceType) :
    FilterPasses table construct (plainFilter table request construct).1 ↔ FilterReadable table request construct := by
  rw [plainFilter]
  by_cases isACL : construct = .acl
  · rw [if_pos isACL]
    exact found_filter_iff table request construct (.inl isACL)
  · rw [if_neg isACL]
    by_cases clause : found (aclFilterClause table) request = true
    · rw [if_pos clause, ← found_filter_iff table request construct (.inr clause)]
      rcases parseACL table request with ⟨_ | block, missing⟩
      · rfl
      · rfl
    · rw [if_neg clause, no_filter_passes]
      exact ⟨fun other => ⟨fun same => absurd same other, fun same => absurd same other, fun asked => absurd asked (by simp [isACL, clause])⟩,
        fun _ => isACL⟩

theorem parse_gateway_valid (request : List Char) (gateway : AnycastGatewayIntent)
    (parsed : (parseAnycastGateway table request).1 = some gateway) : gateway.Valid := by
  rw [parseAnycastGateway] at parsed
  by_cases named : found anycastGateway request = true
  · rw [if_pos named] at parsed
    cases read : search (gatewayAddr table) request with
    | none =>
        rw [read] at parsed
        cases parsed
    | some found =>
        rw [read] at parsed
        simp only [] at parsed
        by_cases colon : (groupText found "addr").contains ':' = true
        · rw [if_pos colon] at parsed
          cases parsed
          exact .inr (Option.some_ne_none _)
        · rw [if_neg colon] at parsed
          cases parsed
          exact .inl (Option.some_ne_none _)
  · rw [if_neg named] at parsed
    cases parsed

theorem plain_gateway_valid (request : List Char) (construct : ServiceType) :
    ∀ gateway ∈ (plainGateway table request construct).gateway, gateway.Valid ∧ construct = .macVRF := by
  intro gateway member
  have valid := parse_gateway_valid table request gateway
  rw [plainGateway] at member
  cases reading : parseAnycastGateway table request with
  | mk parsed named =>
      rw [reading] at member valid
      cases named with
      | false => cases member
      | true =>
          simp only [] at member
          by_cases other : construct ≠ .macVRF
          · rw [if_pos other] at member
            cases member
          · rw [if_neg other] at member
            by_cases none' : parsed = none
            · rw [if_pos none'] at member
              cases member
            · rw [if_neg none'] at member
              exact ⟨valid member, not_not.mp other⟩

end Filters

section Answers

-- The parts of a payload that never fail its validation.
structure Payload.Sound (payload : Payload) : Prop where
  endpoints : payload.endpoints ≠ [] ∧ ∀ endpoint ∈ payload.endpoints, endpoint.Valid
  gateway : ∀ gateway ∈ payload.anycastGateway, gateway.Valid ∧ payload.serviceType = .macVRF
  exclusive : payload.missingFields = [] ∨ payload.unsupportedProperties = []
  ipv4 : ∀ text ∈ payload.ipv4Prefixes, Printed .v4 text
  ipv6 : ∀ text ∈ payload.ipv6Prefixes, Printed .v6 text

def isLabel (text : String) : Bool := (fullMatch rfc1123 text.toList).isSome

theorem payload_validated_iff (payload : Payload) (sound : payload.Sound) (generated : payload.serviceID.length = 15) :
    (∃ interp, payload.modelValidate table = some interp ∧ ∃ again, interp.modelValidate table = some again) ↔
      isLabel payload.tenant = true ∧ FilterPasses table payload.serviceType payload.acl := by
  refine ⟨fun validated => ?_, fun both => ?_⟩
  · obtain ⟨interp, validated, _⟩ := validated
    obtain ⟨acl, interpreted, checked⟩ := Option.bind_eq_some_iff.mp validated
    have valid := (model_validate_some table _ interp checked).1
    exact ⟨valid.tenant, acl, interpreted, valid.rules, valid.filter⟩
  · obtain ⟨label, acl, interpreted, rules, filter⟩ := both
    have sized : 1 ≤ payload.serviceID.length ∧ payload.serviceID.length ≤ 15 := by omega
    have valid : (payload.interpret acl).Valid table :=
      ⟨sized, label, sound.endpoints, rules, sound.gateway, sound.exclusive, filter⟩
    obtain ⟨interp, checked, again⟩ := model_validate_twice table _ valid sound.ipv4 sound.ipv6
    refine ⟨interp, ?_, again⟩
    rw [Payload.modelValidate, interpreted]
    exact checked

theorem terminal_exclusive (missing unsupported : List String) :
    (if unsupported = [] then missing else []) = [] ∨ unsupported = [] := by
  by_cases supported : unsupported = []
  · exact .inr supported
  · exact .inl (if_neg supported)

-- The tenant that the request names, or a placeholder.
def tenantOrMissing (request : List Char) : String :=
  if (detectTenant table request).getD "" = "" then "missing" else (detectTenant table request).getD ""

theorem tenant_label_iff (request : List Char) :
    isLabel (tenantOrMissing table request) = true ↔ ∀ tenant ∈ detectTenant table request, tenant ≠ "" → isLabel tenant = true := by
  have placeholder : isLabel "missing" = true := by decide +kernel
  rw [tenantOrMissing]
  cases detectTenant table request with
  | none => exact ⟨fun _ tenant member => (by cases member), fun _ => placeholder⟩
  | some tenant =>
      rw [Option.getD_some]
      by_cases empty : tenant = ""
      · rw [if_pos empty]
        refine ⟨fun _ other member filled => ?_, fun _ => placeholder⟩
        cases member
        exact absurd empty filled
      · rw [if_neg empty]
        refine ⟨fun label other member _ => ?_, fun every => every tenant rfl empty⟩
        cases member
        exact label

theorem plain_prefixes_printed (request : List Char) (construct : ServiceType) :
    (∀ text ∈ (if construct = .ipVRF then parsePrefixes table request else ([], [])).1, Printed .v4 text) ∧
      ∀ text ∈ (if construct = .ipVRF then parsePrefixes table request else ([], [])).2, Printed .v6 text := by
  by_cases routed : construct = .ipVRF
  · rw [if_pos routed]
    exact parse_prefixes_printed table request
  · rw [if_neg routed]
    exact ⟨fun text member => (by cases member), fun text member => (by cases member)⟩

theorem plain_payload_made (serviceID : String) (request : List Char) (payload : Payload)
    (done : plainPayload table serviceID request = .ok payload) :
    payload.Sound ∧ payload.serviceID = serviceID ∧ payload.tenant = tenantOrMissing table request ∧
      payload.serviceType = (plainConstruct table request).1 ∧
      payload.acl = (plainFilter table request (plainConstruct table request).1).1 := by
  obtain ⟨endpoints, parsed, built⟩ := bind_ok _ _ _ done
  cases built
  have valid := parse_endpoints_valid table request endpoints parsed
  have least : 1 ≤ minEndpoints (plainConstruct table request).1 := by
    rw [minEndpoints]
    split
    · omega
    · omega
  have prefixes := plain_prefixes_printed table request (plainConstruct table request).1
  exact ⟨⟨pad_endpoints_valid _ endpoints least valid, plain_gateway_valid table request _, terminal_exclusive _ _, prefixes.1,
    prefixes.2⟩, rfl, rfl, rfl, rfl⟩

-- A complete payload misses no part of its filter.
theorem plain_payload_filter (serviceID : String) (request : List Char) (payload : Payload)
    (done : plainPayload table serviceID request = .ok payload) (supported : payload.unsupportedProperties = [])
    (complete : payload.missingFields = []) : (plainFilter table request (plainConstruct table request).1).2 = [] := by
  obtain ⟨endpoints, _, built⟩ := bind_ok _ _ _ done
  cases built
  change (if _ = [] then _ else _) = [] at complete
  rw [if_pos supported] at complete
  exact (List.append_eq_nil_iff.mp (List.append_eq_nil_iff.mp complete).1).2

-- A construct that was not detected is named among the unsupported properties.
theorem plain_payload_detected (serviceID : String) (request : List Char) (payload : Payload)
    (done : plainPayload table serviceID request = .ok payload) (supported : payload.unsupportedProperties = []) :
    detectServiceType table request = some payload.serviceType := by
  obtain ⟨endpoints, _, built⟩ := bind_ok _ _ _ done
  cases built
  have refused : (plainConstruct table request).2 = [] := (List.append_eq_nil_iff.mp (List.append_eq_nil_iff.mp supported).1).2
  change detectServiceType table request = some (plainConstruct table request).1
  rw [plainConstruct] at refused ⊢
  cases detected : detectServiceType table request with
  | some construct => rfl
  | none =>
      rw [detected] at refused
      cases unsupported : detectUnsupportedServiceType table request with
      | none =>
          rw [unsupported] at refused
          cases refused
      | some label =>
          rw [unsupported] at refused
          cases refused

-- What an SRv6 request is mapped to, apart from the parts that are not validated.
structure SRv6Fields.Sound (fields : SRv6Fields) (request : List Char) : Prop where
  tenant : fields.tenant = tenantOrMissing table request
  construct : fields.serviceType ≠ .acl
  endpoints : fields.endpoints ≠ [] ∧ ∀ endpoint ∈ fields.endpoints, endpoint.Valid
  ipv4 : ∀ text ∈ fields.ipv4Prefixes, Printed .v4 text
  ipv6 : ∀ text ∈ fields.ipv6Prefixes, Printed .v6 text

theorem placeholder_valid : [missingEndpoint] ≠ [] ∧ ∀ endpoint ∈ [missingEndpoint], endpoint.Valid := by decide

theorem none_printed (version : Version) : ∀ text ∈ ([] : List String), Printed version text := by
  intro text member
  cases member

theorem routed_endpoints (request : List Char) (tenant : String) (missing : List String) (endpoints : List EndpointIntent) :
    (routedMapping table request tenant missing endpoints).endpoints =
      if (parsePrefixes table request).1 = [] ∧ (parsePrefixes table request).2 = [] then orMissing endpoints
      else attachEndpointPrefixes table request (orMissing endpoints)
        ((parsePrefixes table request).1 ++ (parsePrefixes table request).2) := rfl

theorem routed_sound (request : List Char) (missing : List String) (endpoints : List EndpointIntent)
    (valid : ∀ endpoint ∈ endpoints, endpoint.Valid) :
    (routedMapping table request (tenantOrMissing table request) missing endpoints).Sound table request := by
  have filled := or_missing_valid endpoints valid
  have printed := parse_prefixes_printed table request
  have routed : ServiceType.ipVRF ≠ .acl := by decide
  refine ⟨rfl, routed, ?_, printed.1, printed.2⟩
  rw [routed_endpoints]
  split
  · exact filled
  · exact attach_prefixes_valid table request _ _ filled.1 filled.2

theorem srv6_mapping_sound (request : List Char) (fields : SRv6Fields) (done : srv6Mapping table request = .ok fields) :
    fields.Sound table request := by
  have tagged : ServiceType.vlan ≠ .acl := by decide
  have bridged : ServiceType.macVRF ≠ .acl := by decide
  unfold srv6Mapping at done
  by_cases conflict : found (srv6VXLANTerms table) request
  · simp only [if_pos conflict] at done
    cases done
    exact ⟨rfl, tagged, placeholder_valid, none_printed .v4, none_printed .v6⟩
  · simp only [if_neg conflict] at done
    cases construct : detectSRv6Construct table request with
    | blocked =>
        simp only [construct] at done
        cases done
        exact ⟨rfl, tagged, placeholder_valid, none_printed .v4, none_printed .v6⟩
    | unclear =>
        simp only [construct] at done
        cases done
        exact ⟨rfl, tagged, placeholder_valid, none_printed .v4, none_printed .v6⟩
    | macVRF =>
        simp only [construct] at done
        obtain ⟨endpoints, parsed, built⟩ := bind_ok _ _ _ done
        cases built
        exact ⟨rfl, bridged, or_missing_valid endpoints (parse_endpoints_valid table request endpoints parsed),
          none_printed .v4, none_printed .v6⟩
    | ipVRF =>
        simp only [construct] at done
        obtain ⟨endpoints, parsed, built⟩ := bind_ok _ _ _ done
        cases built
        exact routed_sound table request _ endpoints (parse_endpoints_valid table request endpoints parsed)

theorem srv6_payload_made (serviceID : String) (request : List Char) (payload : Payload)
    (done : srv6Payload table serviceID request = .ok payload) :
    payload.Sound ∧ payload.serviceID = serviceID ∧ payload.tenant = tenantOrMissing table request ∧
      payload.serviceType ≠ .acl ∧ payload.acl = none := by
  obtain ⟨fields, isFields, built⟩ := bind_ok _ _ _ done
  cases built
  have sound := srv6_mapping_sound table request fields isFields
  exact ⟨⟨sound.endpoints, fun gateway member => (by cases member), terminal_exclusive _ _, sound.ipv4, sound.ipv6⟩,
    rfl, sound.tenant, sound.construct, rfl⟩

-- An SRv6 request has its endpoints read only for a construct that SRv6 carries.
def ReadsEndpoints (request : List Char) : Prop :=
  detectSRv6 table request → ¬ found (srv6VXLANTerms table) request ∧
    (detectSRv6Construct table request = .macVRF ∨ detectSRv6Construct table request = .ipVRF)

theorem srv6_mapping_ok (request : List Char) (srv6 : detectSRv6 table request = true) :
    (∃ fields, srv6Mapping table request = .ok fields) ↔ (ReadsEndpoints table request → EndpointsInRange table request) := by
  unfold srv6Mapping
  by_cases conflict : found (srv6VXLANTerms table) request = true
  · simp only [if_pos conflict]
    exact ⟨fun _ reads => absurd conflict (reads srv6).1, fun _ => ⟨_, rfl⟩⟩
  · simp only [if_neg conflict]
    cases construct : detectSRv6Construct table request with
    | blocked =>
        refine ⟨fun _ reads => ?_, fun _ => ⟨_, rfl⟩⟩
        have named := (reads srv6).2
        rw [construct] at named
        exact named.elim (fun same => by cases same) (fun same => by cases same)
    | unclear =>
        refine ⟨fun _ reads => ?_, fun _ => ⟨_, rfl⟩⟩
        have named := (reads srv6).2
        rw [construct] at named
        exact named.elim (fun same => by cases same) (fun same => by cases same)
    | macVRF =>
        simp only []
        rw [bind_ok_iff, ← parse_endpoints_ok]
        refine ⟨fun ok _ => ?_, fun parsed => ?_⟩
        · obtain ⟨endpoints, isEndpoints, _⟩ := ok
          exact ⟨endpoints, isEndpoints⟩
        · obtain ⟨endpoints, isEndpoints⟩ := parsed fun _ => ⟨conflict, .inl construct⟩
          exact ⟨endpoints, isEndpoints, _, rfl⟩
    | ipVRF =>
        simp only []
        rw [bind_ok_iff, ← parse_endpoints_ok]
        refine ⟨fun ok _ => ?_, fun parsed => ?_⟩
        · obtain ⟨endpoints, isEndpoints, _⟩ := ok
          exact ⟨endpoints, isEndpoints⟩
        · obtain ⟨endpoints, isEndpoints⟩ := parsed fun _ => ⟨conflict, .inr construct⟩
          exact ⟨endpoints, isEndpoints, _, rfl⟩

theorem request_payload_ok (serviceID : String) (request : List Char) :
    (∃ payload, requestPayload table serviceID request = .ok payload) ↔
      (ReadsEndpoints table request → EndpointsInRange table request) := by
  rw [requestPayload]
  by_cases srv6 : detectSRv6 table request = true
  · rw [if_pos srv6, srv6Payload, bind_ok_iff, ← srv6_mapping_ok table request srv6]
    refine ⟨fun ok => ?_, fun mapped => ?_⟩
    · obtain ⟨fields, isFields, _⟩ := ok
      exact ⟨fields, isFields⟩
    · obtain ⟨fields, isFields⟩ := mapped
      exact ⟨fields, isFields, _, rfl⟩
  · rw [if_neg srv6, plainPayload]
    simp only []
    rw [bind_ok_iff, ← parse_endpoints_ok]
    refine ⟨fun ok _ => ?_, fun parsed => ?_⟩
    · obtain ⟨endpoints, isEndpoints, _⟩ := ok
      exact ⟨endpoints, isEndpoints⟩
    · obtain ⟨endpoints, isEndpoints⟩ := parsed fun named => absurd named srv6
      exact ⟨endpoints, isEndpoints, _, rfl⟩

-- The construct whose filter is looked for: an SRv6 request has none.
def PlainFilterReadable (request : List Char) : Prop :=
  detectSRv6 table request = false → FilterReadable table request (plainConstruct table request).1

theorem request_payload_made (serviceID : String) (request : List Char) (payload : Payload)
    (done : requestPayload table serviceID request = .ok payload) :
    payload.Sound ∧ payload.serviceID = serviceID ∧ payload.tenant = tenantOrMissing table request ∧
      (FilterPasses table payload.serviceType payload.acl ↔ PlainFilterReadable table request) := by
  rw [requestPayload] at done
  by_cases srv6 : detectSRv6 table request = true
  · rw [if_pos srv6] at done
    obtain ⟨sound, sameID, tenant, construct, unfiltered⟩ := srv6_payload_made table serviceID request payload done
    refine ⟨sound, sameID, tenant, ?_⟩
    rw [unfiltered, no_filter_passes]
    exact ⟨fun _ plain => absurd srv6 (by rw [plain]; exact Bool.false_ne_true), fun _ => construct⟩
  · rw [if_neg srv6] at done
    obtain ⟨sound, sameID, tenant, construct, filter⟩ := plain_payload_made table serviceID request payload done
    refine ⟨sound, sameID, tenant, ?_⟩
    rw [construct, filter, plain_filter_iff]
    exact ⟨fun readable _ => readable, fun plain => plain (Bool.eq_false_iff.mpr srv6)⟩

/- What a request has to be to be answered: VLAN numbers in range, a tenant that is a label,
   and a filter that can be built. -/
structure Answerable (request : List Char) : Prop where
  endpoints : ReadsEndpoints table request → EndpointsInRange table request
  tenant : ∀ tenant ∈ detectTenant table request, tenant ≠ "" → isLabel tenant = true
  filter : PlainFilterReadable table request

-- The mapper's three answers.
inductive Answer (interp : Interpretation) : Prop where
  | complete (noFields : interp.missingFields = []) (supported : interp.unsupportedProperties = [])
  | clarification (fields : interp.missingFields ≠ []) (supported : interp.unsupportedProperties = [])
  | rejection (properties : interp.unsupportedProperties ≠ []) (noFields : interp.missingFields = [])

def Answered (serviceID : String) (content : List Char) : Prop :=
  ∃ interp, ainvoke table serviceID content = .ok interp ∧ Answer interp

theorem valid_answers (interp : Interpretation) (valid : interp.Valid table) : Answer interp := by
  by_cases noFields : interp.missingFields = []
  · by_cases supported : interp.unsupportedProperties = []
    · exact .complete noFields supported
    · exact .rejection supported noFields
  · exact .clarification noFields (valid.exclusive.resolve_left noFields)

theorem again_valid (interp again : Interpretation) (done : interp.modelValidate table = some again) : again.Valid table := by
  obtain ⟨valid, ipv4Prefixes, ipv6Prefixes, rfl⟩ := model_validate_some table interp again done
  exact ⟨valid.serviceID, valid.tenant, valid.endpoints, valid.rules, valid.gateway, valid.exclusive, valid.filter⟩

-- What is left to do once the payload is there: to validate it, and once more.
theorem ainvoke_validates (serviceID : String) (content : List Char) (payload : Payload)
    (made : requestPayload table serviceID (requestText content) = .ok payload) (again : Interpretation) :
    ainvoke table serviceID content = .ok again ↔
      ∃ interp, ({ payload with bandwidth := bandwidthOf table (requestText content) } : Payload).modelValidate table = some interp ∧
        interp.modelValidate table = some again := by
  have mapped : mapNode table serviceID content =
      .ok (({ payload with bandwidth := bandwidthOf table (requestText content) } : Payload).modelValidate table) := by
    rw [mapNode, made]
    rfl
  rw [ainvoke, mapped]
  cases ({ payload with bandwidth := bandwidthOf table (requestText content) } : Payload).modelValidate table with
  | none =>
      refine ⟨fun done => (by cases done), fun ok => ?_⟩
      obtain ⟨interp, none', _⟩ := ok
      cases none'
  | some interp =>
      simp only [Option.some.injEq, exists_eq_left']
      cases interp.modelValidate table with
      | none => exact ⟨fun done => (by cases done), fun none' => (by cases none')⟩
      | some other => exact ⟨fun done => (by cases done; rfl), fun same => (by cases same; rfl)⟩

theorem ainvoke_payload (serviceID : String) (content : List Char) (interp : Interpretation)
    (done : ainvoke table serviceID content = .ok interp) :
    ∃ payload, requestPayload table serviceID (requestText content) = .ok payload := by
  cases made : requestPayload table serviceID (requestText content) with
  | ok payload => exact ⟨payload, rfl⟩
  | error failure =>
      rw [ainvoke, mapNode, made] at done
      cases done

theorem validated_fields (payload : Payload) (interp again : Interpretation) (validated : payload.modelValidate table = some interp)
    (twice : interp.modelValidate table = some again) :
    ∃ acl ipv4Prefixes ipv6Prefixes, interpretFilter payload.acl = some acl ∧
      again = { payload.interpret acl with ipv4Prefixes, ipv6Prefixes } := by
  obtain ⟨acl, interpreted, checked⟩ := Option.bind_eq_some_iff.mp validated
  obtain ⟨_, _, _, once⟩ := model_validate_some table _ interp checked
  obtain ⟨_, ipv4Prefixes, ipv6Prefixes, built⟩ := model_validate_some table _ again twice
  rw [once] at built
  exact ⟨acl, ipv4Prefixes, ipv6Prefixes, interpreted, built⟩

-- What is returned is the payload, but for the spelling of its prefixes.
theorem ainvoke_fields (serviceID : String) (content : List Char) (again : Interpretation)
    (done : ainvoke table serviceID content = .ok again) :
    ∃ payload, requestPayload table serviceID (requestText content) = .ok payload ∧
      ∃ acl ipv4Prefixes ipv6Prefixes, interpretFilter payload.acl = some acl ∧
        again = { ({ payload with bandwidth := bandwidthOf table (requestText content) } : Payload).interpret acl with
          ipv4Prefixes, ipv6Prefixes } := by
  obtain ⟨payload, made⟩ := ainvoke_payload table serviceID content again done
  obtain ⟨interp, validated, twice⟩ := (ainvoke_validates table serviceID content payload made again).mp done
  exact ⟨payload, made, validated_fields table _ interp again validated twice⟩

-- A request is answered if and only if its VLAN numbers, its tenant and its filter pass.
theorem request_answered_iff (serviceID : String) (content : List Char) (generated : serviceID.length = 15) :
    Answered table serviceID content ↔ Answerable table (requestText content) := by
  refine ⟨fun answered => ?_, fun answerable => ?_⟩
  · obtain ⟨again, done, _⟩ := answered
    obtain ⟨payload, made⟩ := ainvoke_payload table serviceID content again done
    obtain ⟨sound, sameID, tenant, filter⟩ := request_payload_made table serviceID _ payload made
    obtain ⟨interp, validated, twice⟩ := (ainvoke_validates table serviceID content payload made again).mp done
    have passes := (payload_validated_iff table { payload with bandwidth := bandwidthOf table (requestText content) }
      ⟨sound.endpoints, sound.gateway, sound.exclusive, sound.ipv4, sound.ipv6⟩ (sameID ▸ generated)).mp
        ⟨interp, validated, again, twice⟩
    refine ⟨(request_payload_ok table serviceID _).mp ⟨payload, made⟩, ?_, filter.mp passes.2⟩
    rw [← tenant_label_iff, ← tenant]
    exact passes.1
  · obtain ⟨payload, made⟩ := (request_payload_ok table serviceID _).mpr answerable.endpoints
    obtain ⟨sound, sameID, tenant, filter⟩ := request_payload_made table serviceID _ payload made
    have label : isLabel payload.tenant = true := by
      rw [tenant, tenant_label_iff]
      exact answerable.tenant
    obtain ⟨interp, validated, again, twice⟩ := (payload_validated_iff table
      { payload with bandwidth := bandwidthOf table (requestText content) }
      ⟨sound.endpoints, sound.gateway, sound.exclusive, sound.ipv4, sound.ipv6⟩ (sameID ▸ generated)).mpr
        ⟨label, filter.mpr answerable.filter⟩
    exact ⟨again, (ainvoke_validates table serviceID content payload made again).mpr ⟨interp, validated, twice⟩,
      valid_answers table again (again_valid table interp again twice)⟩

def largeVLANRequest : String := "provision a vlan 5000 on leaf01 ethernet1 for tenant acme"

theorem large_vlan_unanswered : ¬ Answered asciiTable "4f2a9c01d7e35b8" largeVLANRequest.toList := by
  intro answered
  obtain ⟨interp, done, _⟩ := answered
  have raised : ainvoke asciiTable "4f2a9c01d7e35b8" largeVLANRequest.toList = .error .endpointInvalid := by decide +kernel
  rw [raised] at done
  cases done

def plainRequest : String := "provision a vlan 130 on leaf01 ethernet1 for tenant acme"

theorem plain_request_answered :
    Answered asciiTable "4f2a9c01d7e35b8" plainRequest.toList ∧ Answerable asciiTable (requestText plainRequest.toList) := by
  have mapped : (ainvoke asciiTable "4f2a9c01d7e35b8" plainRequest.toList).toOption.any Interpretation.isComplete = true := by
    decide +kernel
  have answered : Answered asciiTable "4f2a9c01d7e35b8" plainRequest.toList := by
    cases result : ainvoke asciiTable "4f2a9c01d7e35b8" plainRequest.toList with
    | error failure =>
        rw [result] at mapped
        cases mapped
    | ok interp =>
        rw [result] at mapped
        obtain ⟨noFields, supported⟩ := (Bool.and_eq_true _ _).mp mapped
        exact ⟨interp, result, .complete (List.isEmpty_iff.mp noFields) (List.isEmpty_iff.mp supported)⟩
  have generated : "4f2a9c01d7e35b8".length = 15 := by decide
  exact ⟨answered, (request_answered_iff asciiTable "4f2a9c01d7e35b8" plainRequest.toList generated).mp answered⟩

end Answers

end AgenticNetops.Mapper
