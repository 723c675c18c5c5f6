import AgenticNetops.Mapper.ClauseText

set_option autoImplicit false

/- Requests with filter clauses: when a filter is looked for, what its rule is, and that no
   request with two clauses has a rule for each. -/
namespace AgenticNetops.Mapper

open GoText Regex PyText Schemas

variable (table : CharTable)

section FilterWords

-- What the words begin with that a filter is looked for by.
def filterWords : List (List Char) := ["acl".toList, "acces".toList, "pe".toList, "al".toList, "den".toList]

def canBeFilter (text : List Char) : Bool := (filterWords.map fun word => word.map sameLetter).any fun window => opens window text

theorem filter_word (word : List Char) (listed : word ∈ filterWords) (text : List Char) (starts : opens (word.map sameLetter) text = true) :
    canBeFilter text = true :=
  List.any_eq_true.mpr ⟨word.map sameLetter, List.mem_map_of_mem listed, starts⟩

theorem named_begins (word : List Char) (listed : word ∈ filterWords) (lowered : String)
    (longer : ∃ more, lowered.toList.map sameLetter = word.map sameLetter ++ more) : Begins canBeFilter (named table lowered) :=
  begins_weaker _ _ _ (filter_word word listed)
    (begins_seq _ _ _ (begins_opening _ _ _ (begins_text (word.map sameLetter) lowered longer)))

theorem filter_begins : Begins canBeFilter (aclFilterClause table) := by
  have acl := named_begins table "acl".toList (by decide) "acl" ⟨[], rfl⟩
  have access : Begins canBeFilter (text "access" ++ hyphenOrSpace ++ text "list") :=
    begins_weaker _ _ _ (filter_word "acces".toList (by decide))
      (begins_seq _ _ _ (begins_seq _ _ _ (begins_text ("acces".toList.map sameLetter) "access" ⟨"s".toList.map sameLetter, rfl⟩)))
  have permitting := named_begins table "pe".toList (by decide) "permitting" ⟨"rmitting".toList.map sameLetter, rfl⟩
  have permit := named_begins table "pe".toList (by decide) "permit" ⟨"rmit".toList.map sameLetter, rfl⟩
  have allowing := named_begins table "al".toList (by decide) "allowing" ⟨"lowing".toList.map sameLetter, rfl⟩
  have allow := named_begins table "al".toList (by decide) "allow" ⟨"low".toList.map sameLetter, rfl⟩
  have denying := named_begins table "den".toList (by decide) "denying" ⟨"ying".toList.map sameLetter, rfl⟩
  have deny := named_begins table "den".toList (by decide) "deny" ⟨"y".toList.map sameLetter, rfl⟩
  exact begins_either _ _ _ acl (begins_either _ _ _ access (begins_either _ _ _ permitting (begins_either _ _ _ permit
    (begins_either _ _ _ allowing (begins_either _ _ _ allow (begins_either _ _ _ denying deny))))))

-- The words that do not ask for a filter.
def ActionWord.filters : ActionWord → Bool
  | .permit | .allow | .deny => true
  | .drop | .block => false

theorem letters_quiet (letters : List Char) (clause : Clause) (silent : clause.action.filters = false)
    (special : letters.any isSpecial = true) (filled : letters.all (fun letter => !sameLetter letter ' ') = true)
    (drop : ∀ rest, BlankLed rest → quiet (opens (letters.map sameLetter)) (' ' :: ActionWord.drop.text) rest = true)
    (block : ∀ rest, BlankLed rest → quiet (opens (letters.map sameLetter)) (' ' :: ActionWord.block.text) rest = true)
    (stages : ∀ stage rest, BlankLed rest → quiet (opens (letters.map sameLetter)) (' ' :: stageText stage) rest = true)
    (protocols : ∀ word rest, BlankLed rest → quiet (opens (letters.map sameLetter)) (' ' :: ProtocolWord.text word) rest = true)
    (isPort : ∀ text, quiet (opens (letters.map sameLetter)) (' ' :: ("port".toList ++ [' '])) text = true)
    (isFrom : ∀ text, quiet (opens (letters.map sameLetter)) (' ' :: ("from".toList ++ [' '])) text = true)
    (isTo : ∀ text, quiet (opens (letters.map sameLetter)) (' ' :: ("to".toList ++ [' '])) text = true) :
    quiet (opens (letters.map sameLetter)) clause.text [] = true := by
  have action (rest : List Char) (led : BlankLed rest) : quiet (opens (letters.map sameLetter)) (' ' :: clause.action.text) rest = true := by
    cases shape : clause.action with
    | drop => exact drop rest led
    | block => exact block rest led
    | permit =>
        rw [shape] at silent
        cases silent
    | allow =>
        rw [shape] at silent
        cases silent
    | deny =>
        rw [shape] at silent
        cases silent
  have led := spaced_led clause.rest [] .ended
  have lead := lead_quiet _ clause _ led action stages (fun word _ => protocols word _ led)
  have port := labelled_quiet _ "port" (clause.port.map PortText.text) (spaced clause.addresses ++ []) isPort
    (fun text isPort => plain_quiet letters special filled text _ (port_plain clause text isPort) (spaced_led _ [] .ended))
  have source := labelled_quiet _ "from" (clause.source.map PrefixText.text)
    (spaced (labelled "to" (clause.destination.map PrefixText.text)) ++ []) isFrom
    (fun text isPrefix => plain_quiet letters special filled text _ (prefix_plain clause.source text isPrefix) (spaced_led _ [] .ended))
  have destination := labelled_quiet _ "to" (clause.destination.map PrefixText.text) [] isTo
    (fun text isPrefix => plain_quiet letters special filled text [] (prefix_plain clause.destination text isPrefix) .ended)
  rw [clause_split, quiet_append, lead, Clause.rest, spaced_append, quiet_append, port, Clause.addresses, spaced_append, quiet_append,
    source, destination]
  rfl

theorem window_quiet (letters : List Char) (listed : letters ∈ filterWords) (clause : Clause) (silent : clause.action.filters = false) :
    quiet (opens (letters.map sameLetter)) clause.text [] = true := by
  simp only [filterWords, List.mem_cons, List.not_mem_nil, or_false] at listed
  obtain rfl | rfl | rfl | rfl | rfl := listed <;>
    exact letters_quiet _ clause silent rfl rfl (fun _ led => by cases led <;> rfl) (fun _ led => by cases led <;> rfl)
      (fun stage _ led => by cases led <;> cases stage <;> rfl) (fun word _ led => by cases led <;> cases word <;> rfl)
      (fun _ => rfl) (fun _ => rfl) (fun _ => rfl)

theorem named_found (lowered : String) (first last : Char) (before rest : List Char) (isFirst : lowered.toList.head? = some first)
    (isLast : lowered.toList.getLast? = some last) (words : isWord table first = true ∧ isWord table last = true)
    (spelled : Spells (lowered.toList.map sameLetter) lowered.toList) (led : BlankLed rest) :
    Takes (named table lowered) (' ' :: before) lowered.toList rest [] := by
  refine (takes_whole _ _ _ _ _ _).mpr ⟨⟨?_, ?_⟩, rfl, spelled⟩
  · have opened : (lowered.toList ++ rest).head?.any (isWord table) = true := by
      rw [List.head?_append, isFirst]
      exact words.1
    rw [atBoundary, opened]
    rfl
  · have closed : (lowered.toList.reverse ++ ' ' :: before).head?.any (isWord table) = true := by
      rw [List.head?_append, List.head?_reverse, isLast]
      exact words.2
    rw [atBoundary, closed, led_head (isWord table) rfl rest led]
    rfl

theorem filter_clause_read (clause : Clause) : found (aclFilterClause table) clause.text = clause.action.filters := by
  cases asks : clause.action.filters with
  | false =>
      have all : quiet canBeFilter clause.text [] = true := by
        refine quiet_any _ _ _ fun window member => ?_
        obtain ⟨letters, listed, rfl⟩ := List.mem_map.mp member
        exact window_quiet letters listed clause asks
      rw [found, search_all_quiet _ _ (filter_begins table) rfl _ all]
      rfl
  | true =>
      have words : clause.words = clause.action.text :: ((clause.direction.map stageText).toList ++
          (clause.protocol.map ProtocolWord.text).toList ++ clause.rest) := rfl
      have led := spaced_led ((clause.direction.map stageText).toList ++ (clause.protocol.map ProtocolWord.text).toList ++ clause.rest) []
        .ended
      rw [List.append_nil] at led
      have split : clause.text = [' '] ++ (clause.action.text ++ spaced ((clause.direction.map stageText).toList ++
          (clause.protocol.map ProtocolWord.text).toList ++ clause.rest)) := by
        rw [Clause.text, words, spaced_cons]
        rfl
      refine (found_iff _ _).mpr ⟨[' '], clause.action.text, _, [], split, ?_⟩
      cases shape : clause.action with
      | permit =>
          exact .inr (.inr (.inr (.inl (named_found table "permit" 'p' 't' [] _ rfl rfl ⟨rfl, rfl⟩
            (.cons rfl (.cons rfl (.cons rfl (.cons rfl (.cons rfl (.cons rfl .nil)))))) led))))
      | allow =>
          exact .inr (.inr (.inr (.inr (.inr (.inl (named_found table "allow" 'a' 'w' [] _ rfl rfl ⟨rfl, rfl⟩
            (.cons rfl (.cons rfl (.cons rfl (.cons rfl (.cons rfl .nil))))) led))))))
      | deny =>
          exact .inr (.inr (.inr (.inr (.inr (.inr (.inr (named_found table "deny" 'd' 'y' [] _ rfl rfl ⟨rfl, rfl⟩
            (.cons rfl (.cons rfl (.cons rfl (.cons rfl .nil)))) led)))))))
      | drop =>
          rw [shape] at asks
          cases asks
      | block =>
          rw [shape] at asks
          cases asks

end FilterWords

section Requests

theorem found_two (pattern : Pattern) (first second : List Char) (joint : Char)
    (aloneFirst : pattern.standsBetween none (some joint) = true) (aloneSecond : pattern.standsBetween (some joint) none = true) :
    found pattern (first ++ joint :: second) = (found pattern first || found pattern second) := by
  have both := search_two pattern Option.isSome first second joint (fun _ _ _ => Option.isSome_map) aloneFirst aloneSecond
  rw [found, both]
  cases said : found pattern first with
  | true => exact said
  | false => rfl

theorem names_rule_two (phrase : List Char) (clause : Clause) :
    NamesRule table (phrase ++ ',' :: clause.text) ↔
      NamesRule table phrase ∨ (clause.protocol.isSome ∨ clause.port.isSome ∨ clause.source.isSome) := by
  have protocol : found (aclProto table) clause.text = clause.protocol.isSome := by
    have read := congrArg Option.isSome (protocol_read table clause)
    rw [Option.isSome_map, Option.isSome_map] at read
    exact read
  have source : found (aclSrcPrefix table) clause.text = clause.source.isSome := by
    have read := congrArg Option.isSome (source_read table clause)
    rw [Option.isSome_map, Option.isSome_map] at read
    exact read
  have port : found (aclPort table) clause.text = clause.port.isSome := by
    cases named : clause.port with
    | none =>
        rw [found, search_all_quiet _ _ (port_begins table) rfl _ (unnamed_quiet table clause named)]
        rfl
    | some port =>
        have read := port_read table clause
        rw [named, Option.map_some] at read
        obtain ⟨made, matched, _⟩ := Option.bind_eq_some_iff.mp read
        rw [found, matched]
        rfl
  have isProtocol := found_two (aclProto table) phrase clause.text ',' rfl rfl
  have isPort := found_two (aclPort table) phrase clause.text ',' rfl rfl
  have isSource := found_two (aclSrcPrefix table) phrase clause.text ',' rfl rfl
  rw [protocol] at isProtocol
  rw [port] at isPort
  rw [source] at isSource
  rw [NamesRule, NamesRule, isProtocol, isPort, isSource, Bool.or_eq_true, Bool.or_eq_true, Bool.or_eq_true]
  exact (or_congr_right or_or_or_comm).trans or_or_or_comm

-- What lets a clause alone be the rule of its request.
structure ReadAlone (phrase : List Char) (clause : Clause) : Prop where
  asked : (plainConstruct table (requestOf phrase [clause.text])).1 = .acl ∨ found (aclFilterClause table) phrase = true ∨
    clause.action.filters = true
  parts : NamesRule table phrase ∨ (clause.protocol.isSome ∨ clause.port.isSome ∨ clause.source.isSome)
  action : found (aclPermit table) phrase = false ∨ clause.action.action = .permit
  protocol : found (aclProto table) phrase = false ∨ (readRule table phrase).protocol = clause.rule.protocol
  destinationPort : found (aclPort table) phrase = false ∨ (readRule table phrase).destinationPort = clause.rule.destinationPort
  sourcePrefix : found (aclSrcPrefix table) phrase = false ∨ (readRule table phrase).sourcePrefix = clause.rule.sourcePrefix
  destinationPrefix : found (aclDstPrefix table) phrase = false ∨ (readRule table phrase).destinationPrefix = clause.rule.destinationPrefix

-- No filter is made of the phrase, or the one that is made is the only clause's.
def ReadAsMeant (phrase : List Char) : List Clause → Prop
  | [] => ¬ FilterBuilt table phrase
  | [clause] => ReadAlone table phrase clause
  | _ => False

theorem maps_clauses_iff (phrase : List Char) (clauses : List Clause) :
    MapsClauses table phrase (clauses.map Clause.text) ↔ ReadAsMeant table phrase clauses := by
  cases clauses with
  | nil =>
      change ¬ FilterBuilt table (phrase ++ []) ↔ ¬ FilterBuilt table phrase
      rw [List.append_nil]
  | cons clause more =>
      cases more with
      | cons second others => exact Iff.rfl
      | nil =>
          have whole : requestOf phrase [clause.text] = phrase ++ ',' :: clause.text := by
            rw [requestOf, List.flatMap_cons, List.flatMap_nil, List.append_nil]
          have asked : found (aclFilterClause table) (requestOf phrase [clause.text]) = true ↔
              found (aclFilterClause table) phrase = true ∨ clause.action.filters = true := by
            rw [whole, found_two _ _ _ ',' rfl rfl, filter_clause_read, Bool.or_eq_true]
          have parts := names_rule_two table phrase clause
          rw [← whole] at parts
          change FilterBuilt table (requestOf phrase [clause.text]) ∧ PhraseSilent table phrase clause.text ↔ ReadAlone table phrase clause
          rw [FilterBuilt, asked, parts]
          refine ⟨fun maps => ?_, fun alone => ?_⟩
          · obtain ⟨⟨isAsked, isPart⟩, silent⟩ := maps
            have action := silent.action
            have protocol := silent.protocol
            have destinationPort := silent.destinationPort
            have sourcePrefix := silent.sourcePrefix
            have destinationPrefix := silent.destinationPrefix
            rw [clause_read] at action protocol destinationPort sourcePrefix destinationPrefix
            exact ⟨isAsked, isPart, action, protocol, destinationPort, sourcePrefix, destinationPrefix⟩
          · refine ⟨⟨alone.asked, alone.parts⟩, ⟨?_, ?_, ?_, ?_, ?_⟩⟩
            · rw [clause_read]
              exact alone.action
            · rw [clause_read]
              exact alone.protocol
            · rw [clause_read]
              exact alone.destinationPort
            · rw [clause_read]
              exact alone.sourcePrefix
            · rw [clause_read]
              exact alone.destinationPrefix

-- The rules are the clauses only if there is one clause at most, and nothing else of the request is taken for a part of it.
theorem clauses_mapped_iff (serviceID : String) (content phrase : List Char) (clauses : List Clause) (interp : Interpretation)
    (reads : requestText content = requestOf phrase (clauses.map Clause.text))
    (unnamed : detectSRv6 table (requestOf phrase (clauses.map Clause.text)) = false)
    (mapped : ainvoke table serviceID content = .ok interp) (complete : interp.isComplete = true) :
    rulesOf interp = clauses.map Clause.rule ↔ ReadAsMeant table phrase clauses := by
  have own : clauses.map Clause.rule = (clauses.map Clause.text).map (readRule table) := by
    rw [List.map_map]
    exact List.map_congr_left fun clause _ => (clause_read table clause).symm
  rw [own, ← maps_clauses_iff]
  exact clauses_faithful_iff table serviceID content phrase _ interp reads unnamed mapped complete

def permitWeb : Clause :=
  { action := .permit, direction := some .ingress, protocol := some .tcp, port := some ⟨"80".toList, List.cons_ne_nil _ _, by decide, List.all_eq_true.mp rfl⟩ }

def denyUDP : Clause := { action := .deny, direction := some .ingress, protocol := some .udp }

def webRequest : List Char := requestOf plainRequest.toList ([permitWeb].map Clause.text)

def webAndUDPRequest : List Char := requestOf plainRequest.toList ([permitWeb, denyUDP].map Clause.text)

-- The second clause has no rule.
theorem second_clause_lost :
    requestText webAndUDPRequest = webAndUDPRequest ∧ detectSRv6 asciiTable webAndUDPRequest = false ∧
      ∃ interp, ainvoke asciiTable "4f2a9c01d7e35b8" webAndUDPRequest = .ok interp ∧ interp.isComplete = true ∧
        rulesOf interp ≠ [permitWeb, denyUDP].map Clause.rule := by
  have read : requestText webAndUDPRequest = webAndUDPRequest := by decide +kernel
  have unnamed : detectSRv6 asciiTable webAndUDPRequest = false := by decide +kernel
  have mapped : (ainvoke asciiTable "4f2a9c01d7e35b8" webAndUDPRequest).toOption.any
      (fun interp => interp.isComplete && decide (rulesOf interp ≠ [permitWeb, denyUDP].map Clause.rule)) = true := by decide +kernel
  refine ⟨read, unnamed, ?_⟩
  cases result : ainvoke asciiTable "4f2a9c01d7e35b8" webAndUDPRequest with
  | error failure =>
      rw [result] at mapped
      cases mapped
  | ok interp =>
      rw [result] at mapped
      obtain ⟨complete, differ⟩ := (Bool.and_eq_true _ _).mp mapped
      exact ⟨interp, rfl, complete, of_decide_eq_true differ⟩

theorem one_clause_mapped :
    ∃ interp, ainvoke asciiTable "4f2a9c01d7e35b8" webRequest = .ok interp ∧ interp.isComplete = true ∧
      rulesOf interp = [permitWeb].map Clause.rule ∧ ReadAsMeant asciiTable plainRequest.toList [permitWeb] := by
  have read : requestText webRequest = webRequest := by decide +kernel
  have unnamed : detectSRv6 asciiTable webRequest = false := by decide +kernel
  have mapped : (ainvoke asciiTable "4f2a9c01d7e35b8" webRequest).toOption.any
      (fun interp => interp.isComplete && decide (rulesOf interp = [permitWeb].map Clause.rule)) = true := by decide +kernel
  cases result : ainvoke asciiTable "4f2a9c01d7e35b8" webRequest with
  | error failure =>
      rw [result] at mapped
      cases mapped
  | ok interp =>
      rw [result] at mapped
      obtain ⟨complete, same⟩ := (Bool.and_eq_true _ _).mp mapped
      have rules := of_decide_eq_true same
      exact ⟨interp, rfl, complete, rules, (clauses_mapped_iff asciiTable "4f2a9c01d7e35b8" webRequest plainRequest.toList [permitWeb] interp
        read unnamed result complete).mp rules⟩

end Requests

end AgenticNetops.Mapper
