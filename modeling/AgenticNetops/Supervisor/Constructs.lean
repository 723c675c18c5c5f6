import AgenticNetops.Lib.InnerText
import AgenticNetops.Lib.RegexMeaning
import AgenticNetops.Mapper.Answers

set_option autoImplicit false

/- The constructs that the supervisor finds in a message (graph.py `_find_constructs`)
   beside the construct that the mapper takes the same message for. -/
namespace AgenticNetops.Supervisor

open GoText InnerText Regex PyText Schemas Mapper

variable (table : CharTable)

section Finding

-- \b(vlan|mac[- ]?vrf|ip[- ]?vrf|acl)\b
def constructToken : Pattern :=
  edge table ++
    .group "1" (oneOf [text "vlan", text "mac" ++ (opt hyphenOrSpace ++ text "vrf"), text "ip" ++ (opt hyphenOrSpace ++ text "vrf"),
      text "acl"]) ++
    edge table

def vlanAsItsOwnService : Pattern :=
  edge table ++ oneOf (["a", "an", "the", "another", "new", "second"].map text) ++ blanks ++ text "vlan" ++ edge table

def aclAttachedToAService : Pattern :=
  edge table ++ oneOf (["with", "bearing", "carrying", "including", "under", "behind"].map text) ++ blanks ++
    opt (oneOf [text "a" ++ opt (text "n") ++ blanks, text "the" ++ blanks]) ++
    upToLazy (some' (.char (isWord table)) ++ blanks) 2 ++ text "acl" ++ edge table

-- t.lower().replace(" ", "-")
def constructWord (found : Match) : String :=
  String.ofList ((lowerGroup table found "1").toList.map fun c => if c = ' ' then '-' else c)

def constructWords (text : List Char) : List String := ((findAll (constructToken table) text).map (constructWord table)).dedup

-- `_find_constructs`: a set, here without its order.
def findConstructs (text : List Char) : List String :=
  let words := constructWords table text
  if words.length < 2 then words
  else
    let words := if words.contains "vlan" ∧ ¬ found (vlanAsItsOwnService table) text then words.filter (· ≠ "vlan") else words
    if words.contains "acl" ∧ 1 < words.length ∧ found (aclAttachedToAService table) text then words.filter (· ≠ "acl") else words

def constructOf (word : String) : Option ServiceType :=
  [("vlan", ServiceType.vlan), ("mac-vrf", .macVRF), ("macvrf", .macVRF), ("ip-vrf", .ipVRF), ("ipvrf", .ipVRF), ("acl", .acl)].lookup word

end Finding

section Families

-- The patterns that the mapper tries for a construct, and those that it tries before them.
def ownPatterns (construct : ServiceType) : List Pattern :=
  (((servicePatterns table).find? fun (family, _) => family = construct).map Prod.snd).getD []

def earlierPatterns (construct : ServiceType) : List Pattern :=
  ((servicePatterns table).takeWhile fun (family, _) => family ≠ construct).flatMap Prod.snd

-- The first family that holds is the one that holds with no family before it that does.
theorem first_family {κ α : Type} [DecidableEq κ] (holds : α → Bool) (families : List (κ × List α)) (distinct : (families.map Prod.fst).Nodup)
    (key : κ) :
    (families.find? fun (_, members) => members.any holds).map Prod.fst = some key ↔
      (∃ member ∈ ((families.find? fun (family, _) => family = key).map Prod.snd).getD [], holds member = true) ∧
        ∀ member ∈ (families.takeWhile fun (family, _) => family ≠ key).flatMap Prod.snd, holds member = false := by
  induction families with
  | nil => exact ⟨fun none' => (by cases none'), fun both => (by obtain ⟨⟨member, listed, _⟩, _⟩ := both; cases listed)⟩
  | cons family rest ih =>
      obtain ⟨name, members⟩ := family
      rw [List.map_cons, List.nodup_cons] at distinct
      have onward := ih distinct.2
      rw [List.find?_cons, List.find?_cons, List.takeWhile_cons]
      by_cases same : name = key
      · simp only [same, ne_eq, not_true_eq_false, decide_true, decide_false, Bool.false_eq_true, if_false, Option.map_some,
          Option.getD_some, List.flatMap_nil]
        cases any : members.any holds with
        | true => exact ⟨fun _ => ⟨List.any_eq_true.mp any, fun member listed => (by cases listed)⟩, fun _ => rfl⟩
        | false =>
            refine ⟨fun later => ?_, fun both => ?_⟩
            · obtain ⟨other, found, isKey⟩ := Option.map_eq_some_iff.mp later
              have listed : key ∈ rest.map Prod.fst := isKey ▸ List.mem_map_of_mem (List.mem_of_find?_eq_some found)
              exact absurd (same ▸ listed) distinct.1
            · rw [List.any_eq_true.mpr both.1] at any
              cases any
      · simp only [ne_eq, same, decide_false, not_false_eq_true, decide_true, if_true, List.flatMap_cons, List.forall_mem_append]
        cases any : members.any holds with
        | true =>
            refine ⟨fun first => absurd (Option.some.inj first) same, fun both => ?_⟩
            obtain ⟨member, listed, held⟩ := List.any_eq_true.mp any
            rw [both.2.1 member listed] at held
            cases held
        | false =>
            rw [onward]
            have silent : ∀ member ∈ members, holds member = false := by
              intro member listed
              cases held : holds member with
              | false => rfl
              | true =>
                  rw [List.any_eq_true.mpr ⟨member, listed, held⟩] at any
                  cases any
            exact ⟨fun both => ⟨both.1, silent, both.2⟩, fun both => ⟨both.1, both.2.2⟩⟩

theorem detect_service_iff (request : List Char) (construct : ServiceType) :
    detectServiceType table request = some construct ↔
      (∃ pattern ∈ ownPatterns table construct, found pattern request = true) ∧
        ∀ pattern ∈ earlierPatterns table construct, found pattern request = false := by
  have distinct : ((servicePatterns table).map Prod.fst).Nodup := by
    change [ServiceType.macVRF, .ipVRF, .acl, .vlan].Nodup
    decide
  exact first_family (fun pattern => found pattern request) (servicePatterns table) distinct construct

/- Unicode's tables: no blank is a letter or a digit, and a Turkish i stays outside ASCII
   when it is put into lower case. -/
structure UnicodeLetters : Prop where
  blank : ∀ c, isBlank c = true → isAscii c = false → table.isAlnum c = false
  turkish : ∀ text : List Char, (∃ c ∈ text, c.toNat = 0x130 ∨ c.toNat = 0x131) → ∃ c ∈ table.lower text, isAscii c = false

-- A construct's name as the supervisor knows it.
def Written (construct : ServiceType) (taken : List Char) : Prop :=
  match construct with
  | .vlan => Spells ("vlan".toList.map sameLetter) taken
  | .macVRF => Joined "mac" "vrf" (anyOf "- ") taken
  | .ipVRF => Joined "ip" "vrf" (anyOf "- ") taken
  | .acl => Spells ("acl".toList.map sameLetter) taken

theorem joined_wider (first second : String) (taken : List Char) (joined : Joined first second (anyOf "- ") taken) :
    Joined first second (anyOf "- _") taken := by
  obtain ⟨left, between', right, isTaken, spelled, isBetween, spelled'⟩ := joined
  refine ⟨left, between', right, isTaken, spelled, isBetween.imp_right fun one => ?_, spelled'⟩
  obtain ⟨c, isC, joins⟩ := one
  refine ⟨c, isC, ?_⟩
  rw [anyOf, List.contains_iff_mem] at joins ⊢
  exact List.mem_append_left ['_'] joins

-- Where the construct's name stands between word boundaries, the mapper finds it, too.
theorem written_own (construct : ServiceType) (before taken after : List Char) (written : Written construct taken)
    (bounded : Bounded (isWord table) before taken after) :
    ∃ pattern ∈ ownPatterns table construct, Takes pattern before taken after [] := by
  cases construct with
  | vlan =>
      exact ⟨named table "vlan", by simp [ownPatterns, servicePatterns], (takes_whole _ _ _ _ _ _).mpr ⟨bounded, rfl, written⟩⟩
  | macVRF =>
      refine ⟨macVRFName table, by simp [ownPatterns, servicePatterns], ?_⟩
      rw [macVRFName, edge, takes_closing, takes_assoc, takes_assoc, takes_opening]
      exact ⟨⟨bounded.opened, (takes_joined _ _ _ _ _ _ _).mpr ⟨rfl, joined_wider _ _ taken written⟩⟩, bounded.closed⟩
  | ipVRF =>
      refine ⟨ipVRFName table, by simp [ownPatterns, servicePatterns, ipVRFPatterns], ?_⟩
      rw [ipVRFName, edge, takes_closing, takes_assoc, takes_assoc, takes_opening]
      exact ⟨⟨bounded.opened, (takes_joined _ _ _ _ _ _ _).mpr ⟨rfl, joined_wider _ _ taken written⟩⟩, bounded.closed⟩
  | acl =>
      refine ⟨_, List.mem_cons_self, (takes_one_of _ (List.cons_ne_nil _ _) _ _ _ _).mpr ⟨named table "acl", List.mem_cons_self, ?_⟩⟩
      exact (takes_whole _ _ _ _ _ _).mpr ⟨bounded, rfl, written⟩

end Families

section Tokens

def dashed (lowered : List Char) : String := String.ofList (lowered.map fun c => if c = ' ' then '-' else c)

theorem word_dashed (taken : List Char) (ascii : taken.all isAscii = true) : dashed (lowerText table taken) = dashed (taken.map toLowerAscii) := by
  rw [lowerText, if_pos ascii]

-- What a joined name comes to in lower case.
theorem joined_word (first second : String) (taken : List Char) (joined : Joined first second (anyOf "- ") taken)
    (ascii : taken.all isAscii = true) :
    dashed (taken.map toLowerAscii) = dashed (first.toList ++ second.toList) ∨
      dashed (taken.map toLowerAscii) = dashed (first.toList ++ ('-' :: second.toList)) := by
  obtain ⟨left, between', right, rfl, spelled, isBetween, spelled'⟩ := joined
  rw [List.all_append, List.all_append, Bool.and_eq_true, Bool.and_eq_true] at ascii
  rw [List.map_append, List.map_append, spelled_lower _ left ascii.1 spelled, spelled_lower _ right ascii.2.2 spelled']
  cases isBetween with
  | inl none' =>
      rw [none']
      exact .inl rfl
  | inr one =>
      obtain ⟨c, isC, joins⟩ := one
      have either : c = '-' ∨ c = ' ' := by simpa [anyOf] using joins
      rw [isC]
      refine .inr ?_
      cases either with
      | inl dash =>
          rw [dash]
          rfl
      | inr space =>
          rw [space]
          simp [dashed, toLowerAscii]

theorem construct_words_ascii (word : String) (construct : ServiceType) (named : constructOf word = some construct) :
    word.toList.all isAscii = true := by
  have all : [("vlan", ServiceType.vlan), ("mac-vrf", .macVRF), ("macvrf", .macVRF), ("ip-vrf", .ipVRF), ("ipvrf", .ipVRF),
      ("acl", .acl)].all (fun entry => entry.1.toList.all isAscii) = true := by decide
  obtain ⟨before, after, whole, _⟩ := List.lookup_eq_some_iff.mp named
  have listed : (word, construct) ∈ [("vlan", ServiceType.vlan), ("mac-vrf", .macVRF), ("macvrf", .macVRF), ("ip-vrf", .ipVRF),
      ("ipvrf", .ipVRF), ("acl", .acl)] := by
    rw [whole]
    exact List.mem_append_right _ List.mem_cons_self
  exact List.all_eq_true.mp all _ listed

theorem plain_letters (word : String) (listed : word ∈ ["vlan", "mac", "vrf", "acl", "p"]) :
    ∀ letter ∈ word.toList, letter ≠ 'k' ∧ letter ≠ 's' ∧ letter ≠ 'i' ∧ isAscii letter = true := by
  have all : ["vlan", "mac", "vrf", "acl", "p"].all (fun word => word.toList.all fun letter =>
      decide (letter ≠ 'k' ∧ letter ≠ 's' ∧ letter ≠ 'i' ∧ isAscii letter = true)) = true := by decide
  intro letter member
  exact of_decide_eq_true (List.all_eq_true.mp (List.all_eq_true.mp all word listed) letter member)

theorem between_ascii (between' : List Char) (isBetween : between' = [] ∨ ∃ c, between' = [c] ∧ anyOf "- " c = true) :
    between'.all isAscii = true := by
  cases isBetween with
  | inl none' =>
      rw [none']
      rfl
  | inr one =>
      obtain ⟨c, isC, joins⟩ := one
      have either : c = '-' ∨ c = ' ' := by simpa [anyOf] using joins
      rw [isC]
      cases either with
      | inl dash => rw [dash]; rfl
      | inr space => rw [space]; rfl

-- The name of an ip-vrf that is a word for a construct has no Turkish i.
theorem ip_word_ascii (letters : UnicodeLetters table) (taken : List Char) (joined : Joined "ip" "vrf" (anyOf "- ") taken)
    (construct : ServiceType) (named : constructOf (dashed (lowerText table taken)) = some construct) : taken.all isAscii = true := by
  obtain ⟨left, between', right, isTaken, spelled, isBetween, spelled'⟩ := joined
  have behind : (between' ++ right).all isAscii = true := by
    rw [List.all_append, between_ascii between' isBetween, spelled_ascii _ right (plain_letters "vrf" (by simp)) spelled']
    rfl
  cases spelled with
  | @cons _ c _ others accepted rest =>
      have rest' := spelled_ascii _ others (plain_letters "p" (by simp)) rest
      obtain same | foreign | foreign | foreign := same_letter_cases 'i' c accepted
      · rw [isTaken, List.cons_append, List.all_cons, List.all_append, rest', behind, lower_ascii c 'i' same rfl]
        rfl
      · exact absurd foreign.1 (by decide)
      · exact absurd foreign.1 (by decide)
      · have member : c ∈ taken := by rw [isTaken]; exact List.mem_cons_self
        obtain ⟨d, stays, outside⟩ := letters.turkish taken ⟨c, member, foreign.2⟩
        have notAscii : ¬ taken.all isAscii = true := by
          intro all
          have bounded : c.toNat < 128 := of_decide_eq_true (List.all_eq_true.mp all c member)
          omega
        have spaced : d ≠ ' ' := by
          intro space
          rw [space] at outside
          cases outside
        have kept : d ∈ (dashed (lowerText table taken)).toList := by
          rw [dashed, lowerText, if_neg notAscii, String.toList_ofList]
          exact List.mem_map.mpr ⟨d, stays, if_neg spaced⟩
        have ascii := List.all_eq_true.mp (construct_words_ascii _ construct named) d kept
        rw [ascii] at outside
        cases outside

-- A construct's name is a word for that construct.
theorem written_construct (letters : UnicodeLetters table) (taken : List Char) (written construct : ServiceType)
    (isWritten : Written written taken) (named : constructOf (dashed (lowerText table taken)) = some construct) : construct = written := by
  cases written with
  | vlan =>
      have ascii := spelled_ascii _ taken (plain_letters "vlan" (by simp)) isWritten
      rw [word_dashed table taken ascii, spelled_lower _ taken ascii isWritten] at named
      exact (Option.some.inj named).symm
  | acl =>
      have ascii := spelled_ascii _ taken (plain_letters "acl" (by simp)) isWritten
      rw [word_dashed table taken ascii, spelled_lower _ taken ascii isWritten] at named
      exact (Option.some.inj named).symm
  | macVRF =>
      have joined : Joined "mac" "vrf" (anyOf "- ") taken := isWritten
      have ascii : taken.all isAscii = true := by
        obtain ⟨left, between', right, isTaken, spelled, isBetween, spelled'⟩ := joined
        rw [isTaken, List.all_append, List.all_append, between_ascii between' isBetween,
          spelled_ascii _ left (plain_letters "mac" (by simp)) spelled, spelled_ascii _ right (plain_letters "vrf" (by simp)) spelled']
        rfl
      rw [word_dashed table taken ascii] at named
      cases joined_word "mac" "vrf" taken joined ascii with
      | inl plain =>
          rw [plain] at named
          exact (Option.some.inj named).symm
      | inr dash =>
          rw [dash] at named
          exact (Option.some.inj named).symm
  | ipVRF =>
      have ascii := ip_word_ascii table letters taken isWritten construct named
      rw [word_dashed table taken ascii] at named
      cases joined_word "ip" "vrf" taken isWritten ascii with
      | inl plain =>
          rw [plain] at named
          exact (Option.some.inj named).symm
      | inr dash =>
          rw [dash] at named
          exact (Option.some.inj named).symm

-- What the supervisor's token takes.
theorem token_taken (before taken after : List Char) (caught : Caught) (took : Takes (constructToken table) before taken after caught) :
    Bounded (isWord table) before taken after ∧ (∃ written, Written written taken) ∧ caught.lookup "1" = some taken := by
  rw [constructToken, edge, takes_bounded] at took
  obtain ⟨bounded, inner, rfl, inside⟩ := took
  refine ⟨bounded, ?_, List.lookup_cons_self⟩
  rw [takes_one_of _ (List.cons_ne_nil _ _)] at inside
  obtain ⟨pattern, listed, takes⟩ := inside
  simp only [List.mem_cons, List.not_mem_nil, or_false] at listed
  obtain rfl | rfl | rfl | rfl := listed
  · exact ⟨.vlan, ((takes_text "vlan" _ _ _ _).mp takes).2⟩
  · exact ⟨.macVRF, ((takes_joined "mac" "vrf" _ _ _ _ _).mp takes).2⟩
  · exact ⟨.ipVRF, ((takes_joined "ip" "vrf" _ _ _ _ _).mp takes).2⟩
  · exact ⟨.acl, ((takes_text "acl" _ _ _ _).mp takes).2⟩

theorem find_constructs_subset (text : List Char) (word : String) (member : word ∈ findConstructs table text) :
    word ∈ constructWords table text := by
  have kept (words : List String) (drops : Prop) [Decidable drops] (dropped : String)
      (inside : word ∈ if drops then words.filter (· ≠ dropped) else words) : word ∈ words := by
    by_cases dropping : drops
    · rw [if_pos dropping] at inside
      exact List.mem_of_mem_filter inside
    · rw [if_neg dropping] at inside
      exact inside
  rw [findConstructs] at member
  by_cases few : (constructWords table text).length < 2
  · simp only [if_pos few] at member
    exact member
  · simp only [if_neg few] at member
    exact kept _ _ "vlan" (kept _ _ "acl" member)

-- The construct that was found stands in the text as a name of its own.
theorem found_construct_written (letters : UnicodeLetters table) (text : List Char) (word : String) (construct : ServiceType)
    (member : word ∈ findConstructs table text) (named : constructOf word = some construct) :
    ∃ front taken rest, text = front ++ (taken ++ rest) ∧ Written construct taken ∧ Bounded (isWord table) front.reverse taken rest := by
  obtain ⟨made, listed, isWord'⟩ := List.mem_map.mp (List.mem_dedup.mp (find_constructs_subset table text word member))
  obtain ⟨front, split, took⟩ := find_all_mem (constructToken table) text made listed
  obtain ⟨bounded, ⟨written, isWritten⟩, held⟩ := token_taken table _ _ _ _ took
  have spelled : constructWord table made = dashed (lowerText table made.text) := by
    rw [constructWord, lowerGroup, groupText, Match.group, held, String.toList_ofList]
    rfl
  rw [← isWord', spelled] at named
  rw [written_construct table letters made.text written construct isWritten named]
  exact ⟨front, made.text, made.after, split, isWritten, bounded⟩

end Tokens

section Trimming

-- A text that neither starts nor ends with a blank.
structure Solid (taken : List Char) : Prop where
  first : ∃ c, taken.head? = some c ∧ isBlank c = false
  last : ∃ d, taken.getLast? = some d ∧ isBlank d = false

theorem filled_solid (taken : List Char) (present : taken ≠ []) (filled : ∀ c ∈ taken, isBlank c = false) : Solid taken :=
  ⟨⟨_, List.head?_eq_some_head present, filled _ (List.head_mem present)⟩,
    ⟨_, List.getLast?_eq_some_getLast present, filled _ (List.getLast_mem present)⟩⟩

theorem spelled_solid (word : String) (taken : List Char) (small : word.toList.all (fun letter => 'a' ≤ letter ∧ letter ≤ 'z') = true)
    (present : word.toList ≠ []) (spelled : Spells (word.toList.map sameLetter) taken) : Solid taken := by
  refine filled_solid taken ?_ (spelled_filled _ taken (fun letter member => of_decide_eq_true (List.all_eq_true.mp small letter member)) spelled)
  intro empty
  have counted := spelled.length_eq
  rw [empty, List.length_map] at counted
  exact present (List.length_eq_zero_iff.mp counted)

theorem solid_append (left between' right : List Char) (first : Solid left) (last : Solid right) : Solid (left ++ (between' ++ right)) := by
  obtain ⟨c, isFirst, filled⟩ := first.first
  obtain ⟨d, isLast, filled'⟩ := last.last
  refine ⟨⟨c, ?_, filled⟩, d, ?_, filled'⟩
  · rw [List.head?_append, isFirst]
    rfl
  · rw [List.getLast?_append, List.getLast?_append, isLast]
    rfl

theorem written_solid (construct : ServiceType) (taken : List Char) (written : Written construct taken) : Solid taken := by
  cases construct with
  | vlan => exact spelled_solid "vlan" taken (by decide) (by decide) written
  | acl => exact spelled_solid "acl" taken (by decide) (by decide) written
  | macVRF =>
      obtain ⟨left, between', right, rfl, spelled, _, spelled'⟩ := written
      exact solid_append left between' right (spelled_solid "mac" left (by decide) (by decide) spelled)
        (spelled_solid "vrf" right (by decide) (by decide) spelled')
  | ipVRF =>
      obtain ⟨left, between', right, rfl, spelled, _, spelled'⟩ := written
      exact solid_append left between' right (spelled_solid "ip" left (by decide) (by decide) spelled)
        (spelled_solid "vrf" right (by decide) (by decide) spelled')

theorem last_kept (drop holds : Char → Bool) (silent : ∀ c, drop c = true → holds c = false) (front : List Char) :
    (front.dropWhile drop).getLast?.any holds = front.getLast?.any holds := by
  conv_rhs => rw [← List.takeWhile_append_dropWhile (p := drop) (l := front), List.getLast?_append]
  cases kept : (front.dropWhile drop).getLast? with
  | some c => rfl
  | none =>
      rw [Option.none_or]
      cases last : (front.takeWhile drop).getLast? with
      | none => rfl
      | some c =>
          have dropped := List.mem_takeWhile_imp (List.mem_of_getLast? last)
          exact (silent c dropped).symm

theorem blank_no_word (letters : UnicodeLetters table) (c : Char) (blank : isBlank c = true) : isWord table c = false := by
  rw [isWord]
  cases ascii : isAscii c with
  | false =>
      rw [if_neg Bool.false_ne_true]
      exact letters.blank c blank ascii
  | true =>
      rw [if_pos rfl]
      simp only [isBlank, isSpace, Bool.or_eq_true, decide_eq_true_eq, Bool.and_eq_true, ← Char.toNat_inj, Char.reduceToNat] at blank
      have bounded : c.toNat < 128 := of_decide_eq_true ascii
      cases word : (('a' ≤ c && c ≤ 'z') || ('A' ≤ c && c ≤ 'Z') || NetIP.isDigit c || c = '_' : Bool) with
      | false => rfl
      | true =>
          simp only [NetIP.isDigit, Bool.or_eq_true, Bool.and_eq_true, decide_eq_true_eq, char_le_iff, ← Char.toNat_inj,
            Char.reduceToNat] at word
          omega

-- A solid text keeps its word boundaries when what is around it is trimmed.
theorem bounded_trimmed (letters : UnicodeLetters table) (front taken rest : List Char) (solid : Solid taken)
    (bounded : Bounded (isWord table) front.reverse taken rest) :
    Bounded (isWord table) (front.dropWhile isBlank).reverse taken (rest.reverse.dropWhile isBlank).reverse := by
  obtain ⟨c, isFirst, _⟩ := solid.first
  obtain ⟨d, isLast, _⟩ := solid.last
  have silent := blank_no_word table letters
  have opened := bounded.opened
  have closed := bounded.closed
  rw [atBoundary, List.head?_append, isFirst, Option.some_or, List.head?_reverse] at opened
  rw [atBoundary, List.head?_append, List.head?_reverse, isLast, Option.some_or] at closed
  refine ⟨?_, ?_⟩
  · rw [atBoundary, List.head?_append, isFirst, Option.some_or, List.head?_reverse, last_kept isBlank _ silent front]
    exact opened
  · rw [atBoundary, List.head?_append, List.head?_reverse, isLast, Option.some_or, List.head?_reverse, last_kept isBlank _ silent rest.reverse,
      List.getLast?_reverse]
    exact closed

theorem unfenced_request (text : List Char) (unfenced : found dataFence text = false) : requestText text = trimChars isBlank text := by
  rw [requestText, sub_unfound dataFence _ text unfenced]

-- With no fence in the text, the mapper's text names the construct as well.
theorem unfenced_named (letters : UnicodeLetters table) (text : List Char) (word : String) (construct : ServiceType)
    (member : word ∈ findConstructs table text) (named : constructOf word = some construct) (unfenced : found dataFence text = false) :
    ∃ pattern ∈ ownPatterns table construct, found pattern (requestText text) = true := by
  obtain ⟨front, taken, rest, split, written, bounded⟩ := found_construct_written table letters text word construct member named
  have solid := written_solid construct taken written
  obtain ⟨pattern, listed, took⟩ := written_own table construct _ taken _ written (bounded_trimmed table letters front taken rest solid bounded)
  obtain ⟨c, isFirst, filled⟩ := solid.first
  obtain ⟨d, isLast, filled'⟩ := solid.last
  refine ⟨pattern, listed, (found_iff pattern _).mpr ⟨front.dropWhile isBlank, taken, (rest.reverse.dropWhile isBlank).reverse, [], ?_, took⟩⟩
  rw [unfenced_request text unfenced, split, trim_around isBlank front taken rest c d isFirst isLast filled filled']

end Trimming

section Agreement

/- Nothing in the message is taken for another construct: no pattern that the mapper tries
   earlier is found, and a fence inside the message leaves the construct's name outside. -/
structure Undisturbed (construct : ServiceType) (text : List Char) : Prop where
  named : found dataFence text = true → ∃ pattern ∈ ownPatterns table construct, found pattern (requestText text) = true
  earlier : ∀ pattern ∈ earlierPatterns table construct, found pattern (requestText text) = false

theorem detected_iff (letters : UnicodeLetters table) (text : List Char) (word : String) (construct : ServiceType)
    (member : word ∈ findConstructs table text) (named : constructOf word = some construct) :
    detectServiceType table (requestText text) = some construct ↔ Undisturbed table construct text := by
  rw [detect_service_iff]
  refine ⟨fun both => ⟨fun _ => both.1, both.2⟩, fun undisturbed => ⟨?_, undisturbed.earlier⟩⟩
  cases fenced : found dataFence text with
  | true => exact undisturbed.named fenced
  | false => exact unfenced_named table letters text word construct member named fenced

-- A complete interpretation of a request that does not name SRv6 has the construct that was detected.
theorem complete_construct (serviceID : String) (text : List Char) (interp : Interpretation)
    (unnamed : detectSRv6 table (requestText text) = false) (mapped : ainvoke table serviceID text = .ok interp)
    (complete : interp.isComplete = true) : detectServiceType table (requestText text) = some interp.serviceType := by
  obtain ⟨payload, made, acl, ipv4Prefixes, ipv6Prefixes, _, rfl⟩ := ainvoke_fields table serviceID text interp mapped
  have supported : payload.unsupportedProperties = [] := List.isEmpty_iff.mp ((Bool.and_eq_true _ _).mp complete).2
  rw [requestPayload, if_neg (by rw [unnamed]; exact Bool.false_ne_true)] at made
  exact plain_payload_detected table serviceID _ payload made supported

-- The two agree on a message if and only if nothing in it is taken for another construct.
theorem constructs_agree_iff (letters : UnicodeLetters table) (serviceID : String) (text : List Char) (word : String)
    (construct : ServiceType) (interp : Interpretation) (unnamed : detectSRv6 table (requestText text) = false)
    (single : findConstructs table text = [word]) (named : constructOf word = some construct)
    (mapped : ainvoke table serviceID text = .ok interp) (complete : interp.isComplete = true) :
    interp.serviceType = construct ↔ Undisturbed table construct text := by
  have member : word ∈ findConstructs table text := by
    rw [single]
    exact List.mem_singleton_self word
  rw [← detected_iff table letters text word construct member named,
    complete_construct table serviceID text interp unnamed mapped complete, Option.some.injEq]

def filteredVLAN : String :=
  "provision a vlan 130 on leaf01 ethernet1 for tenant acme with an ingress acl that allows tcp port 80"

-- One vlan for the supervisor, an access list for the mapper.
theorem filtered_vlan_disagrees :
    findConstructs asciiTable filteredVLAN.toList = ["vlan"] ∧ constructOf "vlan" = some .vlan ∧
      detectSRv6 asciiTable (requestText filteredVLAN.toList) = false ∧
      ∃ interp, ainvoke asciiTable "4f2a9c01d7e35b8" filteredVLAN.toList = .ok interp ∧ interp.isComplete = true ∧
        interp.serviceType = .acl := by
  have found : findConstructs asciiTable filteredVLAN.toList = ["vlan"] := by decide +kernel
  have unnamed : detectSRv6 asciiTable (requestText filteredVLAN.toList) = false := by decide +kernel
  have mapped : (ainvoke asciiTable "4f2a9c01d7e35b8" filteredVLAN.toList).toOption.any
      (fun interp => interp.isComplete && interp.serviceType = .acl) = true := by decide +kernel
  refine ⟨found, rfl, unnamed, ?_⟩
  cases result : ainvoke asciiTable "4f2a9c01d7e35b8" filteredVLAN.toList with
  | error failure =>
      rw [result] at mapped
      cases mapped
  | ok interp =>
      rw [result] at mapped
      obtain ⟨complete, construct⟩ := (Bool.and_eq_true _ _).mp mapped
      exact ⟨interp, rfl, complete, of_decide_eq_true construct⟩

theorem ascii_letters : UnicodeLetters asciiTable := by
  refine ⟨fun c _ _ => rfl, fun text foreign => ?_⟩
  obtain ⟨c, member, code⟩ := foreign
  refine ⟨c, member, decide_eq_false ?_⟩
  omega

theorem plain_vlan_agrees :
    ∃ interp, ainvoke asciiTable "4f2a9c01d7e35b8" plainRequest.toList = .ok interp ∧ interp.isComplete = true ∧
      (interp.serviceType = .vlan ↔ Undisturbed asciiTable .vlan plainRequest.toList) := by
  have found : findConstructs asciiTable plainRequest.toList = ["vlan"] := by decide +kernel
  have unnamed : detectSRv6 asciiTable (requestText plainRequest.toList) = false := by decide +kernel
  have mapped : (ainvoke asciiTable "4f2a9c01d7e35b8" plainRequest.toList).toOption.any Interpretation.isComplete = true := by
    decide +kernel
  cases result : ainvoke asciiTable "4f2a9c01d7e35b8" plainRequest.toList with
  | error failure =>
      rw [result] at mapped
      cases mapped
  | ok interp =>
      rw [result] at mapped
      exact ⟨interp, rfl, mapped, constructs_agree_iff asciiTable ascii_letters "4f2a9c01d7e35b8" plainRequest.toList "vlan" .vlan
        interp unnamed found rfl result mapped⟩

end Agreement

end AgenticNetops.Supervisor
