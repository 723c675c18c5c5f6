import AgenticNetops.Lib.RegexFirst
import AgenticNetops.Lib.RegexMeaning
import AgenticNetops.Mapper.FilterClauses

set_option autoImplicit false

/- Filter clauses as an operator writes them: an action, then a direction, a protocol, a
   port and two prefixes, each of them or not. Alone, such a clause is read as it is meant. -/
namespace AgenticNetops.Mapper

open GoText Regex PyText Schemas

variable (table : CharTable)

section Grammar

inductive ActionWord where
  | permit
  | allow
  | deny
  | drop
  | block
deriving DecidableEq, Repr

def ActionWord.text : ActionWord → List Char
  | .permit => "permit".toList
  | .allow => "allow".toList
  | .deny => "deny".toList
  | .drop => "drop".toList
  | .block => "block".toList

def ActionWord.action : ActionWord → Action
  | .permit | .allow => .permit
  | .deny | .drop | .block => .deny

def stageText : Stage → List Char
  | .ingress => "ingress".toList
  | .egress => "egress".toList

inductive ProtocolWord where
  | tcp
  | udp
  | icmp
  | igmp
  | rsvp
  | gre
  | ah
  | pim
  | l2tp
deriving DecidableEq, Repr

def ProtocolWord.text : ProtocolWord → List Char
  | .tcp => "tcp".toList
  | .udp => "udp".toList
  | .icmp => "icmp".toList
  | .igmp => "igmp".toList
  | .rsvp => "rsvp".toList
  | .gre => "gre".toList
  | .ah => "ah".toList
  | .pim => "pim".toList
  | .l2tp => "l2tp".toList

structure PortText where
  text : List Char
  present : text ≠ []
  short : text.length ≤ 5
  digits : ∀ c ∈ text, NetIP.isDigit c = true

structure PrefixText where
  address : List Char
  bits : List Char
  present : address ≠ [] ∧ bits ≠ []
  short : bits.length ≤ 3
  chars : ∀ c ∈ address, isAddressChar c = true
  digits : ∀ c ∈ bits, NetIP.isDigit c = true

def PrefixText.text (pfx : PrefixText) : List Char := pfx.address ++ '/' :: pfx.bits

structure Clause where
  action : ActionWord
  direction : Option Stage := none
  protocol : Option ProtocolWord := none
  port : Option PortText := none
  source : Option PrefixText := none
  destination : Option PrefixText := none

-- The words of a clause.
def labelled (label : String) (value : Option (List Char)) : List (List Char) := (value.map fun text => [label.toList, text]).getD []

def Clause.lead (clause : Clause) : List (List Char) :=
  clause.action.text :: ((clause.direction.map stageText).toList ++ (clause.protocol.map ProtocolWord.text).toList)

def Clause.words (clause : Clause) : List (List Char) :=
  clause.lead ++ (labelled "port" (clause.port.map PortText.text) ++ (labelled "from" (clause.source.map PrefixText.text) ++
    labelled "to" (clause.destination.map PrefixText.text)))

def spaced (words : List (List Char)) : List Char := words.flatMap fun word => ' ' :: word

def Clause.text (clause : Clause) : List Char := spaced clause.words

def Clause.rule (clause : Clause) : RuleText :=
  { action := clause.action.action
    protocol := clause.protocol.map fun word => .name (String.ofList word.text)
    destinationPort := clause.port.map fun port => String.ofList port.text
    sourcePrefix := clause.source.map fun pfx => String.ofList pfx.text
    destinationPrefix := clause.destination.map fun pfx => String.ofList pfx.text }

end Grammar

section Words

theorem spaced_cons (word : List Char) (rest : List (List Char)) : spaced (word :: rest) = ' ' :: (word ++ spaced rest) := rfl

theorem unfound_none (pattern : Pattern) (text : List Char) (unfound : found pattern text = false) : search pattern text = none := by
  rw [found] at unfound
  exact Option.not_isSome_iff_eq_none.mp (Bool.eq_false_iff.mp unfound)

-- A pattern that takes no blank is searched word by word.
theorem search_words {α : Type} (pattern : Pattern) (value : Option Match → α) (word : List Char) (rest : List (List Char))
    (same : ∀ base tail made, value (Option.map (Match.embed base tail) made) = value made)
    (aloneFirst : pattern.standsBetween none (some ' ') = true) (aloneSecond : pattern.standsBetween (some ' ') none = true) :
    value (search pattern (word ++ spaced rest)) = value (((word :: rest).find? fun word => found pattern word).bind (search pattern)) := by
  induction rest generalizing word with
  | nil =>
      rw [spaced, List.flatMap_nil, List.append_nil, List.find?_singleton]
      cases here : found pattern word with
      | true => rfl
      | false =>
          rw [unfound_none pattern word here]
          rfl
  | cons second others ih =>
      rw [spaced_cons, search_two pattern value word _ ' ' same aloneFirst aloneSecond, List.find?_cons]
      cases here : found pattern word with
      | true => rfl
      | false =>
          rw [if_neg Bool.false_ne_true, ih second]

theorem search_spaced {α : Type} (pattern : Pattern) (value : Option Match → α) (words : List (List Char))
    (same : ∀ base tail made, value (Option.map (Match.embed base tail) made) = value made)
    (aloneFirst : pattern.standsBetween none (some ' ') = true) (aloneSecond : pattern.standsBetween (some ' ') none = true)
    (empty : search pattern [] = none) :
    value (search pattern (spaced words)) = value ((words.find? fun word => found pattern word).bind (search pattern)) := by
  cases words with
  | nil =>
      rw [spaced, List.flatMap_nil, empty]
      rfl
  | cons word rest =>
      have apart := search_two pattern value [] (word ++ spaced rest) ' ' same aloneFirst aloneSecond
      rw [found, empty, List.nil_append] at apart
      rw [spaced_cons, apart]
      exact search_words pattern value word rest same aloneFirst aloneSecond

-- The characters of an address, of a prefix and of a port fold to few letters.
def isSpecial (letter : Char) : Bool := 102 < letter.toNat && letter.toNat < 123

theorem address_plain (c letter : Char) (special : isSpecial letter = true) (part : isAddressChar c = true ∨ c = '/') :
    sameLetter letter c = false := by
  have small : c.toNat ≤ 58 ∨ 65 ≤ c.toNat ∧ c.toNat ≤ 70 ∨ 97 ≤ c.toNat ∧ c.toNat ≤ 102 := by
    cases part with
    | inl address =>
        simp only [isAddressChar, NetIP.isDigit, Bool.or_eq_true, Bool.and_eq_true, decide_eq_true_eq, char_le_iff, ← Char.toNat_inj,
          Char.reduceToNat] at address
        omega
    | inr slash =>
        rw [slash]
        decide
  cases same : sameLetter letter c with
  | false => rfl
  | true =>
      simp only [isSpecial, Bool.and_eq_true, decide_eq_true_eq] at special
      have code := same_letter_code letter c same
      omega

end Words

section Places

-- What can stand where a prefix, or a port, is looked for.
def beginsPrefix (first second : Char) : List (Char → Bool) := [sameLetter first, sameLetter second]

def transportFirst (c : Char) : Bool := sameLetter 't' c || sameLetter 'u' c

def transportSecond (c : Char) : Bool := sameLetter 'c' c || sameLetter 'd' c

def blankOrDigit (c : Char) : Bool := isBlank c || isDecimal table c

def beginsBare : List (Char → Bool) := [transportFirst, transportSecond, sameLetter 'p', isBlank, blankOrDigit table]

def slashThen : List (Char → Bool) := [fun c => c = '/', fun c => isBlank c || transportFirst c]

def slashAhead (text : List Char) : Bool := !quiet (opens slashThen) text []

def canBePort (text : List Char) : Bool := opens (beginsPrefix 'p' 'o') text || (slashAhead text || opens (beginsBare table) text)

theorem prefix_begins (lead : String) (first second : Char) (more : List Char) (isLead : lead.toList = first :: second :: more) :
    Begins (opens (beginsPrefix first second)) (aclPrefix table lead) := by
  have words : Begins (opens (beginsPrefix first second)) (edge table ++ text lead) := begins_opening _ _ _
    (begins_text (beginsPrefix first second) lead ⟨more.map sameLetter, by rw [isLead]; rfl⟩)
  exact begins_seq _ _ _ (begins_seq _ _ _ words)

theorem named_port_begins : Begins (opens (beginsPrefix 'p' 'o'))
    (edge table ++ text "port" ++ blanks ++ .group "port" (digits table 5) ++ edge table) := by
  have words : Begins (opens (beginsPrefix 'p' 'o')) (edge table ++ text "port") := begins_opening _ _ _
    (begins_text (beginsPrefix 'p' 'o') "port" ⟨['r', 't'].map sameLetter, rfl⟩)
  exact begins_seq _ _ _ (begins_seq _ _ _ (begins_seq _ _ _ words))

theorem slash_later (front text : List Char) (ahead : slashAhead text = true) : slashAhead (front ++ text) = true := by
  rw [slashAhead, quiet_append, (Bool.not_eq_true' _).mp ahead, Bool.and_false]
  rfl

theorem transport_taken (before taken rest : List Char) (caught : Caught) (took : Takes tcpOrUDP before taken rest caught) :
    Spells [transportFirst, transportSecond, sameLetter 'p'] taken := by
  cases took with
  | inl tcp =>
      obtain ⟨_, spelled⟩ := (takes_text _ _ _ _ _).mp tcp
      have letters : "tcp".toList.map sameLetter = [sameLetter 't', sameLetter 'c', sameLetter 'p'] := rfl
      rw [letters] at spelled
      cases spelled with
      | cons first others =>
          cases others with
          | cons second last => exact .cons (by rw [transportFirst, first]; rfl) (.cons (by rw [transportSecond, second]; rfl) last)
  | inr udp =>
      obtain ⟨_, spelled⟩ := (takes_text _ _ _ _ _).mp udp
      have letters : "udp".toList.map sameLetter = [sameLetter 'u', sameLetter 'd', sameLetter 'p'] := rfl
      rw [letters] at spelled
      cases spelled with
      | cons first others =>
          cases others with
          | cons second last =>
              exact .cons (by rw [transportFirst, first, Bool.or_true]) (.cons (by rw [transportSecond, second, Bool.or_true]) last)

theorem slashed_port_begins : Begins slashAhead
    (edge table ++ .group "slashed" (digits table 5) ++ .many true blank ++ exact "/" ++ .many true blank ++ tcpOrUDP ++ edge table) := by
  have slash : Begins slashAhead (exact "/" ++ (.many true blank ++ tcpOrUDP)) := by
    intro before taken rest caught took
    obtain ⟨_, _, _, _, rfl, _, ⟨_, _, _, _, rfl, _, ⟨c, rfl, isSlash, _⟩, rfl, _⟩, between', right, _, _, rfl, _, isBlanks, isProto⟩ := took
    obtain ⟨_, blanks⟩ := takes_many true isBlank _ _ _ _ isBlanks
    have proto := transport_taken _ _ _ _ isProto
    have dash : decide (c = '/') = true := isSlash
    have starts : opens slashThen (c :: (between' ++ right ++ rest)) = true := by
      cases between' with
      | cons d more =>
          have blank := blanks d List.mem_cons_self
          change (decide (c = '/') && ((isBlank d || transportFirst d) && true)) = true
          rw [dash, blank]
          rfl
      | nil =>
          cases proto with
          | @cons _ d _ _ first _ =>
              change (decide (c = '/') && ((isBlank d || transportFirst d) && true)) = true
              rw [dash, first, Bool.or_true]
              rfl
    change slashAhead (c :: (between' ++ right ++ rest)) = true
    rw [slashAhead, quiet, List.append_nil, starts]
    rfl
  refine begins_seq _ _ _ (begins_assoc _ _ _ _ (begins_assoc _ _ _ _ ?_))
  exact begins_later _ _ _ slash_later slash

theorem bare_port_begins : Begins (opens (beginsBare table))
    (edge table ++ tcpOrUDP ++ blanks ++ .group "bare" (digits table 5) ++ edge table) := by
  have words : Begins (opens (beginsBare table)) (tcpOrUDP ++ (blanks ++ .group "bare" (digits table 5))) := by
    intro before taken rest caught took
    obtain ⟨left, _, _, _, rfl, _, isProto, between', right, _, _, rfl, _, isBlanks, _, _, isDigits⟩ := took
    obtain ⟨_, present, blanks⟩ := takes_some isBlank _ _ _ _ isBlanks
    obtain ⟨_, _, _, _, rfl, _, ⟨d, rfl, isDigit, _⟩, _⟩ := isDigits
    have proto := transport_taken _ _ _ _ isProto
    cases between' with
    | nil => exact absurd rfl present
    | cons c more =>
        have follows (e : Char) (others : List Char) (isNext : blankOrDigit table e = true) :
            opens (beginsBare table) (left ++ (c :: e :: others)) = true := by
          have spelled : Spells (beginsBare table) (left ++ [c, e]) :=
            List.rel_append proto (.cons (blanks c List.mem_cons_self) (.cons isNext .nil))
          have starts := opens_spelled (beginsBare table) (left ++ [c, e]) others spelled
          rw [List.append_assoc] at starts
          exact starts
        rw [List.append_assoc]
        cases more with
        | nil => exact follows d _ (by rw [blankOrDigit, isDigit, Bool.or_true])
        | cons e others =>
            have isNext := blanks e (List.mem_cons_of_mem c List.mem_cons_self)
            exact follows e _ (by rw [blankOrDigit, isNext, Bool.true_or])
  exact begins_seq _ _ _ (begins_assoc _ _ _ _ (begins_assoc _ _ _ _ (begins_opening _ _ _ words)))

theorem port_begins : Begins (canBePort table) (aclPort table) := by
  intro before taken rest caught took
  rw [canBePort]
  cases took with
  | inl named => rw [named_port_begins table before taken rest caught named, Bool.true_or]
  | inr others =>
      cases others with
      | inl slashed => rw [slashed_port_begins table before taken rest caught slashed, Bool.true_or, Bool.or_true]
      | inr bare => rw [bare_port_begins table before taken rest caught bare, Bool.or_true, Bool.or_true]

end Places

section Skipped

theorem spaced_append (first second : List (List Char)) : spaced (first ++ second) = spaced first ++ spaced second := List.flatMap_append

-- What comes after a word.
inductive BlankLed : List Char → Prop where
  | ended : BlankLed []
  | blank (more : List Char) : BlankLed (' ' :: more)

theorem spaced_led (words : List (List Char)) (rest : List Char) (led : BlankLed rest) : BlankLed (spaced words ++ rest) := by
  cases words with
  | nil => exact led
  | cons word others => exact .blank _

theorem led_head (holds : Char → Bool) (silent : holds ' ' = false) (rest : List Char) (led : BlankLed rest) :
    rest.head?.any holds = false := by
  cases led with
  | ended => rfl
  | blank more => exact silent

theorem spaced_head (holds : Char → Bool) (silent : holds ' ' = false) (words : List (List Char)) :
    (spaced words).head?.any holds = false := by
  have led := spaced_led words [] .ended
  rw [List.append_nil] at led
  exact led_head holds silent _ led

theorem lead_quiet (can : List Char → Bool) (clause : Clause) (rest : List Char) (led : BlankLed rest)
    (actions : ∀ rest, BlankLed rest → quiet can (' ' :: clause.action.text) rest = true)
    (stages : ∀ stage rest, BlankLed rest → quiet can (' ' :: stageText stage) rest = true)
    (protocols : ∀ word ∈ clause.protocol, quiet can (' ' :: ProtocolWord.text word) rest = true) :
    quiet can (spaced clause.lead) rest = true := by
  have last : quiet can (spaced (clause.protocol.map ProtocolWord.text).toList) rest = true := by
    cases named : clause.protocol with
    | none => rfl
    | some word =>
        have single := protocols word (by rw [named]; exact rfl)
        rw [Option.map_some, Option.toList_some, spaced_cons, spaced, List.flatMap_nil, List.append_nil]
        exact single
  have middle : quiet can (spaced ((clause.direction.map stageText).toList ++ (clause.protocol.map ProtocolWord.text).toList)) rest = true := by
    cases clause.direction with
    | none => exact last
    | some stage =>
        change quiet can (' ' :: stageText stage ++ spaced (clause.protocol.map ProtocolWord.text).toList) rest = true
        rw [quiet_append, last, stages stage _ (spaced_led _ rest led)]
        rfl
  change quiet can (' ' :: clause.action.text ++ spaced _) rest = true
  rw [quiet_append, middle, actions _ (spaced_led _ rest led)]
  rfl

theorem labelled_quiet (can : List Char → Bool) (label : String) (value : Option (List Char)) (rest : List Char)
    (isLabel : ∀ text, quiet can (' ' :: (label.toList ++ [' '])) text = true) (isText : ∀ text ∈ value, quiet can text rest = true) :
    quiet can (spaced (labelled label value)) rest = true := by
  cases value with
  | none => rfl
  | some text =>
      have split : spaced (labelled label (some text)) = ' ' :: (label.toList ++ [' ']) ++ text := by
        change ' ' :: (label.toList ++ (' ' :: (text ++ []))) = _
        rw [List.append_nil, List.cons_append, List.append_assoc]
        rfl
      rw [split, quiet_append, isLabel, isText text rfl]
      rfl

end Skipped

section PrefixParts

theorem prefix_chars (pfx : PrefixText) : ∀ c ∈ pfx.text, isAddressChar c = true ∨ c = '/' := by
  intro c member
  cases List.mem_append.mp member with
  | inl address => exact .inl (pfx.chars c address)
  | inr others =>
      cases List.mem_cons.mp others with
      | inl slash => exact .inr slash
      | inr bits =>
          have digit := pfx.digits c bits
          exact .inl (by rw [isAddressChar, digit]; rfl)

theorem address_filled (c : Char) (part : isAddressChar c = true) : isBlank c = false := by
  cases blank : isBlank c with
  | false => rfl
  | true =>
      simp only [isBlank, isSpace, Bool.or_eq_true, decide_eq_true_eq, Bool.and_eq_true, ← Char.toNat_inj, Char.reduceToNat] at blank
      simp only [isAddressChar, NetIP.isDigit, Bool.or_eq_true, Bool.and_eq_true, decide_eq_true_eq, char_le_iff, ← Char.toNat_inj,
        Char.reduceToNat] at part
      omega

theorem digit_decimal (c : Char) (digit : NetIP.isDigit c = true) : isDecimal table c = true := by
  rw [isDecimal, digitOf, if_pos digit]
  rfl

-- Up to n digits are taken to their end.
theorem first_digits (before run rest : List Char) (groups : Caught) (limit : Nat) (present : run ≠ []) (short : run.length ≤ limit)
    (all : ∀ c ∈ run, NetIP.isDigit c = true) (stops : rest.head?.any (isDecimal table) = false) :
    First (digits table limit) ⟨before, run ++ rest, groups⟩ ⟨run.reverse ++ before, rest, groups⟩ := by
  cases run with
  | nil => exact absurd rfl present
  | cons c more =>
      have one := first_char (isDecimal table) before (more ++ rest) c groups (digit_decimal table c (all c List.mem_cons_self))
      have others := first_up_to (isDecimal table) (c :: before) more rest groups (limit - 1) (Nat.le_sub_of_add_le short)
        (fun d member => digit_decimal table d (all d (List.mem_cons_of_mem c member))) (.inr stops)
      rw [List.reverse_cons, List.append_assoc]
      exact first_seq _ _ _ _ _ one others

theorem first_prefix_text (before rest : List Char) (pfx : PrefixText) (groups : Caught) (stops : rest.head?.any (isDecimal table) = false) :
    First (prefixText table) ⟨before, pfx.text ++ rest, groups⟩ ⟨pfx.text.reverse ++ before, rest, groups⟩ := by
  have address := first_some isAddressChar before pfx.address ('/' :: (pfx.bits ++ rest)) groups pfx.present.1 pfx.chars rfl
  have slash : First (exact "/") ⟨pfx.address.reverse ++ before, '/' :: (pfx.bits ++ rest), groups⟩
      ⟨'/' :: (pfx.address.reverse ++ before), pfx.bits ++ rest, groups⟩ := rfl
  have bits := first_digits table ('/' :: (pfx.address.reverse ++ before)) pfx.bits rest groups 3 pfx.present.2 pfx.short pfx.digits stops
  rw [PrefixText.text, List.append_assoc, List.reverse_append, List.reverse_cons, List.append_assoc, List.append_assoc]
  exact first_seq _ _ _ _ _ (first_seq _ _ _ _ _ address slash) bits

-- A word of a clause behind a blank, and the blank after it.
theorem first_label (label : String) (letter : Char) (more : List Char) (before rest : List Char) (isLabel : label.toList = letter :: more)
    (word : isWord table letter = true) (spelled : Spells (label.toList.map sameLetter) label.toList)
    (filled : rest.head?.any isBlank = false) :
    First (edge table ++ text label ++ blanks) ⟨' ' :: before, label.toList ++ ' ' :: rest, []⟩
      ⟨' ' :: (label.toList.reverse ++ ' ' :: before), rest, []⟩ := by
  have opened : atBoundary (isWord table) ⟨' ' :: before, label.toList ++ ' ' :: rest, []⟩ = true := by
    rw [isLabel]
    change (false != isWord table letter) = true
    rw [word]
    rfl
  have word' := first_text label.toList (' ' :: before) label.toList (' ' :: rest) [] (List.forall₂_map_left_iff.mp spelled)
  rw [String.ofList_toList] at word'
  have between' := first_some isBlank (label.toList.reverse ++ ' ' :: before) [' '] rest [] (List.cons_ne_nil _ _)
    (fun c member => by rw [List.mem_singleton.mp member]; rfl) filled
  exact first_seq _ _ _ _ _ (first_seq _ _ _ _ _ (first_boundary _ _ opened) word') between'

theorem prefix_head (pfx : PrefixText) (rest : List Char) : (pfx.text ++ rest).head?.any isBlank = false := by
  cases shape : pfx.address with
  | nil => exact absurd shape pfx.present.1
  | cons c more =>
      rw [PrefixText.text, shape]
      exact address_filled c (pfx.chars c (by rw [shape]; exact List.mem_cons_self))

theorem search_passes (pattern : Pattern) (can : List Char → Bool) (begins : Begins can pattern) (skipped rest : List Char) (made : Match)
    (isQuiet : quiet can skipped rest = true) (matched : matchAt pattern skipped.reverse rest = some made) :
    search pattern (skipped ++ rest) = some made := by
  have passed := search_quiet pattern can begins [] skipped rest isQuiet
  rw [List.append_nil] at passed
  rw [search, passed]
  cases rest with
  | nil => exact matched
  | cons c more => rw [searchFrom, matched, Option.some_or]

theorem spaced_labelled (skipped : List Char) (label : String) (value : List Char) (words : List (List Char)) :
    skipped ++ spaced (labelled label (some value) ++ words) = (skipped ++ [' ']) ++ (label.toList ++ ' ' :: (value ++ spaced words)) := by
  rw [spaced_append]
  change skipped ++ (' ' :: (label.toList ++ (' ' :: (value ++ []))) ++ spaced words) = _
  rw [List.append_nil, List.append_assoc, List.cons_append, List.append_assoc, List.cons_append]
  rfl

-- What is read of a lead, and that it is passed over before.
structure Lead (lead : String) (first second : Char) (more : List Char) : Prop where
  letters : lead.toList = first :: second :: more
  word : isWord table first = true
  spelled : Spells (lead.toList.map sameLetter) lead.toList
  blank : sameLetter first ' ' = false

theorem prefix_read (lead : String) (first second : Char) (more skipped : List Char) (pfx : Option PrefixText) (words : List (List Char))
    (isLead : Lead table lead first second more)
    (isQuiet : ∀ rest, BlankLed rest → quiet (opens (beginsPrefix first second)) skipped rest = true)
    (later : quiet (opens (beginsPrefix first second)) (spaced words) [] = true) :
    (search (aclPrefix table lead) (skipped ++ spaced (labelled lead (pfx.map PrefixText.text) ++ words))).map prefixOf =
      pfx.map fun pfx => String.ofList pfx.text := by
  have begins := prefix_begins table lead first second more isLead.letters
  cases pfx with
  | none =>
      have all : quiet (opens (beginsPrefix first second)) (skipped ++ spaced words) [] = true := by
        rw [quiet_append, later, List.append_nil, isQuiet _ (by simpa using spaced_led words [] .ended)]
        rfl
      have unfound := search_all_quiet _ _ begins rfl _ all
      rw [Option.map_none, labelled, Option.map_none, Option.getD_none, List.nil_append, unfound]
      rfl
  | some pfx =>
      have label := first_label table lead first (second :: more) skipped.reverse (pfx.text ++ spaced words) isLead.letters isLead.word
        isLead.spelled (prefix_head pfx _)
      have value := first_held "prefix" _ _ pfx.text (spaced words) _ _ _ (first_prefix_text table
        (' ' :: (lead.toList.reverse ++ ' ' :: skipped.reverse)) (spaced words) pfx [] (spaced_head _ rfl words))
      obtain ⟨made, matched, groups⟩ := first_matched _ _ _ _ (first_seq _ _ _ _ _ label value)
      have opening : quiet (opens (beginsPrefix first second)) (skipped ++ [' ']) (lead.toList ++ ' ' :: (pfx.text ++ spaced words)) = true := by
        have blank : quiet (opens (beginsPrefix first second)) [' '] (lead.toList ++ ' ' :: (pfx.text ++ spaced words)) = true :=
          quiet_run _ _ _ _ fun c member => by rw [List.mem_singleton.mp member]; exact isLead.blank
        rw [quiet_append, blank, isQuiet ([' '] ++ (lead.toList ++ ' ' :: (pfx.text ++ spaced words))) (.blank _)]
        rfl
      have passed := search_passes _ _ begins (skipped ++ [' ']) _ made opening (by rw [List.reverse_append]; exact matched)
      rw [Option.map_some, Option.map_some, spaced_labelled, passed, Option.map_some, prefixOf, groupText, Match.group, groups]
      rfl

end PrefixParts

section Parts
variable (clause : Clause)

theorem from_lead : Lead table "from" 'f' 'r' ['o', 'm'] :=
  ⟨rfl, rfl, .cons rfl (.cons rfl (.cons rfl (.cons rfl .nil))), rfl⟩

theorem to_lead : Lead table "to" 't' 'o' [] := ⟨rfl, rfl, .cons rfl (.cons rfl .nil), rfl⟩

theorem port_lead : Lead table "port" 'p' 'o' ['r', 't'] :=
  ⟨rfl, rfl, .cons rfl (.cons rfl (.cons rfl (.cons rfl .nil))), rfl⟩

theorem port_plain (text : List Char) (isPort : text ∈ clause.port.map PortText.text) (c : Char) (member : c ∈ text) :
    isAddressChar c = true ∨ c = '/' := by
  cases named : clause.port with
  | none =>
      rw [named] at isPort
      cases isPort
  | some port =>
      rw [named] at isPort
      cases isPort
      exact .inl (by rw [isAddressChar, port.digits c member]; rfl)

theorem prefix_plain (value : Option PrefixText) (text : List Char) (isPrefix : text ∈ value.map PrefixText.text) (c : Char)
    (member : c ∈ text) : isAddressChar c = true ∨ c = '/' := by
  cases value with
  | none => cases isPrefix
  | some pfx =>
      cases isPrefix
      exact prefix_chars pfx c member

-- A window of letters, one of which no prefix and no port has.
theorem plain_quiet (letters : List Char) (special : letters.any isSpecial = true)
    (filled : letters.all (fun letter => !sameLetter letter ' ') = true) (run rest : List Char)
    (plain : ∀ c ∈ run, isAddressChar c = true ∨ c = '/') (led : BlankLed rest) :
    quiet (opens (letters.map sameLetter)) run rest = true := by
  refine quiet_without _ run rest ?_ ?_
  · obtain ⟨letter, member, isSpecial⟩ := List.any_eq_true.mp special
    exact ⟨sameLetter letter, List.mem_map_of_mem member,
      fun c inside => address_plain c letter isSpecial (plain c inside)⟩
  · intro accepts member
    obtain ⟨letter, listed, rfl⟩ := List.mem_map.mp member
    exact led_head _ ((Bool.not_eq_true' _).mp (List.all_eq_true.mp filled letter listed)) rest led

theorem source_read : (search (aclSrcPrefix table) clause.text).map prefixOf = clause.source.map fun pfx => String.ofList pfx.text := by
  have split : clause.text = spaced (clause.lead ++ labelled "port" (clause.port.map PortText.text)) ++
      spaced (labelled "from" (clause.source.map PrefixText.text) ++ labelled "to" (clause.destination.map PrefixText.text)) := by
    rw [← spaced_append, List.append_assoc]
    rfl
  rw [split]
  refine prefix_read table "from" 'f' 'r' ['o', 'm'] _ clause.source _ (from_lead table) (fun rest led => ?_) ?_
  · have lead : quiet (opens (beginsPrefix 'f' 'r')) (spaced clause.lead)
        (spaced (labelled "port" (clause.port.map PortText.text)) ++ rest) = true :=
      lead_quiet _ clause _ (spaced_led _ rest led) (fun _ _ => by cases clause.action <;> rfl) (fun stage _ _ => by cases stage <;> rfl)
        (fun word _ => by cases word <;> rfl)
    have port := labelled_quiet (opens (beginsPrefix 'f' 'r')) "port" (clause.port.map PortText.text) rest (fun _ => rfl)
      (fun text isPort => plain_quiet ['f', 'r'] rfl rfl text rest (port_plain clause text isPort) led)
    rw [spaced_append, quiet_append, lead, port]
    rfl
  · exact labelled_quiet _ "to" _ [] (fun _ => rfl)
      fun text isPrefix => plain_quiet ['f', 'r'] rfl rfl text [] (prefix_plain clause.destination text isPrefix) .ended

theorem destination_read :
    (search (aclDstPrefix table) clause.text).map prefixOf = clause.destination.map fun pfx => String.ofList pfx.text := by
  have split : clause.text = spaced (clause.lead ++ (labelled "port" (clause.port.map PortText.text) ++
      labelled "from" (clause.source.map PrefixText.text))) ++ spaced (labelled "to" (clause.destination.map PrefixText.text) ++ []) := by
    rw [← spaced_append, List.append_nil, List.append_assoc, List.append_assoc]
    rfl
  rw [split]
  refine prefix_read table "to" 't' 'o' [] _ clause.destination _ (to_lead table) (fun rest led => ?_) rfl
  have lead : quiet (opens (beginsPrefix 't' 'o')) (spaced clause.lead) (spaced (labelled "port" (clause.port.map PortText.text) ++
      labelled "from" (clause.source.map PrefixText.text)) ++ rest) = true :=
    -- The last letter of permit is the first one of to.
    lead_quiet _ clause _ (spaced_led _ rest led) (fun _ led => by cases led <;> cases clause.action <;> rfl)
      (fun stage _ _ => by cases stage <;> rfl) (fun word _ => by cases word <;> rfl)
  have source := labelled_quiet (opens (beginsPrefix 't' 'o')) "from" (clause.source.map PrefixText.text) rest (fun _ => rfl)
    (fun text isPrefix => plain_quiet ['t', 'o'] rfl rfl text rest (prefix_plain clause.source text isPrefix) led)
  have port := labelled_quiet (opens (beginsPrefix 't' 'o')) "port" (clause.port.map PortText.text)
    (spaced (labelled "from" (clause.source.map PrefixText.text)) ++ rest) (fun _ => rfl)
    (fun text isPort => plain_quiet ['t', 'o'] rfl rfl text _ (port_plain clause text isPort) (spaced_led _ rest led))
  rw [spaced_append, quiet_append, lead, spaced_append, quiet_append, port, source]
  rfl

-- The parts behind the first words of a clause.
def Clause.addresses (clause : Clause) : List (List Char) :=
  labelled "from" (clause.source.map PrefixText.text) ++ labelled "to" (clause.destination.map PrefixText.text)

def Clause.rest (clause : Clause) : List (List Char) := labelled "port" (clause.port.map PortText.text) ++ clause.addresses

theorem slash_prefix_quiet (pfx : PrefixText) (rest : List Char) : quiet (opens slashThen) pfx.text rest = true := by
  have noSlash (run : List Char) (address : ∀ c ∈ run, isAddressChar c = true) : ∀ c ∈ run, decide (c = '/') = false := by
    intro c member
    refine decide_eq_false fun slash => ?_
    have part := address c member
    rw [slash] at part
    cases part
  have digits : ∀ c ∈ pfx.bits, isAddressChar c = true := fun c member => by rw [isAddressChar, pfx.digits c member]; rfl
  have bits : quiet (opens slashThen) ('/' :: pfx.bits) rest = true := by
    cases shape : pfx.bits with
    | nil => exact absurd shape pfx.present.2
    | cons d more =>
        have member : d ∈ pfx.bits := by
          rw [shape]
          exact List.mem_cons_self
        have digit : (isBlank d || transportFirst d) = false := by
          rw [address_filled d (digits d member), transportFirst, address_plain d 't' rfl (.inl (digits d member)),
            address_plain d 'u' rfl (.inl (digits d member))]
          rfl
        have later := quiet_run (fun c => decide (c = '/')) [fun c => isBlank c || transportFirst c] pfx.bits rest (noSlash _ digits)
        rw [shape] at later
        rw [quiet, slashThen, List.cons_append, opens, opens, digit, Bool.false_and, Bool.and_false, later]
        rfl
  rw [PrefixText.text, quiet_append, bits, Bool.and_true]
  exact quiet_run _ _ _ _ (noSlash _ pfx.chars)

theorem clause_split : clause.text = spaced clause.lead ++ spaced clause.rest := spaced_append _ _

theorem clause_slash : slashAhead clause.text = false := by
  have noSlash : ∀ text ∈ clause.port.map PortText.text, quiet (opens slashThen) text
      (spaced clause.addresses ++ []) = true := by
    intro text isPort
    refine quiet_run _ _ _ _ fun c member => decide_eq_false fun slash => ?_
    cases named : clause.port with
    | none =>
        rw [named] at isPort
        cases isPort
    | some port =>
        rw [named] at isPort
        cases isPort
        have digit := port.digits c member
        rw [slash] at digit
        cases digit
  have pfx (label : String) (value : Option PrefixText) (rest : List Char)
      (isLabel : ∀ text, quiet (opens slashThen) (' ' :: (label.toList ++ [' '])) text = true) :
      quiet (opens slashThen) (spaced (labelled label (value.map PrefixText.text))) rest = true := by
    refine labelled_quiet _ label _ rest isLabel fun text isPrefix => ?_
    cases value with
    | none => cases isPrefix
    | some pfx =>
        cases isPrefix
        exact slash_prefix_quiet pfx rest
  have lead : quiet (opens slashThen) (spaced clause.lead) (spaced clause.rest ++ []) = true :=
    lead_quiet _ clause _ (spaced_led _ [] .ended) (fun _ _ => by cases clause.action <;> rfl) (fun stage _ _ => by cases stage <;> rfl)
      (fun word _ => by cases word <;> rfl)
  have port := labelled_quiet (opens slashThen) "port" (clause.port.map PortText.text) _ (fun _ => rfl) noSlash
  rw [slashAhead, clause_split, quiet_append, lead, Clause.rest, spaced_append, quiet_append, port, Clause.addresses, spaced_append,
    quiet_append, pfx "from" _ _ (fun _ => rfl), pfx "to" _ _ (fun _ => rfl)]
  rfl

theorem ahead_quiet (skipped rest : List Char) (never : slashAhead (skipped ++ rest) = false) : quiet slashAhead skipped rest = true := by
  induction skipped with
  | nil => rfl
  | cons c more ih =>
      have later : slashAhead (more ++ rest) = false := by
        cases ahead : slashAhead (more ++ rest) with
        | false => rfl
        | true =>
            have more' := slash_later [c] _ ahead
            rw [show [c] ++ (more ++ rest) = c :: more ++ rest from rfl, never] at more'
            cases more'
      rw [quiet, ih later]
      rw [List.cons_append] at never
      rw [never]
      rfl

theorem lead_bare : quiet (opens (beginsBare table)) (spaced clause.lead) (spaced clause.rest) = true := by
  have after : opens [isBlank, blankOrDigit table] (spaced clause.rest) = false := by
    rw [Clause.rest, Clause.addresses]
    cases clause.port with
    | some port => rfl
    | none =>
        cases clause.source with
        | some source => rfl
        | none =>
            cases clause.destination with
            | some destination => rfl
            | none => rfl
  have led := spaced_led clause.rest [] .ended
  rw [List.append_nil] at led
  refine lead_quiet _ clause _ led (fun _ led => by cases led <;> cases clause.action <;> rfl) (fun stage _ _ => by cases stage <;> rfl)
    (fun word _ => ?_)
  have tcp : quiet (opens (beginsBare table)) (' ' :: "tcp".toList) (spaced clause.rest) =
      (!opens [isBlank, blankOrDigit table] (spaced clause.rest) && true) := rfl
  have udp : quiet (opens (beginsBare table)) (' ' :: "udp".toList) (spaced clause.rest) =
      (!opens [isBlank, blankOrDigit table] (spaced clause.rest) && true) := rfl
  rw [after] at tcp udp
  cases word with
  | tcp => exact tcp
  | udp => exact udp
  | icmp => rfl
  | igmp => rfl
  | rsvp => rfl
  | gre => rfl
  | ah => rfl
  | pim => rfl
  | l2tp => rfl

theorem port_quiet (skipped rest : List Char) (split : clause.text = skipped ++ rest)
    (named : quiet (opens (beginsPrefix 'p' 'o')) skipped rest = true) (bare : quiet (opens (beginsBare table)) skipped rest = true) :
    quiet (canBePort table) skipped rest = true := by
  have slashed := ahead_quiet skipped rest (by rw [← split]; exact clause_slash clause)
  exact quiet_or _ _ skipped rest named (quiet_or _ _ skipped rest slashed bare)

theorem addresses_quiet (accepts : Char → Bool) (classes : List (Char → Bool))
    (isFrom : ∀ text, quiet (opens (accepts :: classes)) (' ' :: ("from".toList ++ [' '])) text = true)
    (isTo : ∀ text, quiet (opens (accepts :: classes)) (' ' :: ("to".toList ++ [' '])) text = true)
    (none' : ∀ c, isAddressChar c = true ∨ c = '/' → accepts c = false) :
    quiet (opens (accepts :: classes)) (spaced clause.addresses) [] = true := by
  have part (value : Option PrefixText) (rest text : List Char) (isPrefix : text ∈ value.map PrefixText.text) :
      quiet (opens (accepts :: classes)) text rest = true :=
    quiet_run _ _ _ _ fun c member => none' c (prefix_plain value text isPrefix c member)
  have source := labelled_quiet _ "from" (clause.source.map PrefixText.text)
    (spaced (labelled "to" (clause.destination.map PrefixText.text)) ++ []) isFrom (part clause.source _)
  have destination := labelled_quiet _ "to" (clause.destination.map PrefixText.text) [] isTo (part clause.destination _)
  rw [Clause.addresses, spaced_append, quiet_append, source, destination]
  rfl

theorem lead_named (rest : List Char) (led : BlankLed rest) : quiet (opens (beginsPrefix 'p' 'o')) (spaced clause.lead) rest = true :=
  -- The last letter of drop, and of some protocols, is the first one of port.
  lead_quiet _ clause _ led (fun _ led => by cases led <;> cases clause.action <;> rfl) (fun stage _ _ => by cases stage <;> rfl)
    (fun word _ => by cases led <;> cases word <;> rfl)

theorem unnamed_quiet (unnamed : clause.port = none) : quiet (canBePort table) clause.text [] = true := by
  have rest : clause.rest = clause.addresses := by
    rw [Clause.rest, unnamed]
    rfl
  have lead := lead_bare table clause
  rw [rest] at lead
  refine port_quiet table clause clause.text [] (List.append_nil _).symm ?_ ?_
  · have addresses := addresses_quiet clause (sameLetter 'p') [sameLetter 'o'] (fun _ => rfl) (fun _ => rfl)
      (fun c plain => address_plain c 'p' rfl plain)
    change quiet (opens (beginsPrefix 'p' 'o')) _ _ = true at addresses
    rw [clause_split, quiet_append, lead_named clause _ (spaced_led _ [] .ended), rest, addresses]
    rfl
  · have addresses := addresses_quiet clause transportFirst [transportSecond, sameLetter 'p', isBlank, blankOrDigit table] (fun _ => rfl)
      (fun _ => rfl) (fun c plain => by
        rw [transportFirst, address_plain c 't' rfl plain, address_plain c 'u' rfl plain]
        rfl)
    change quiet (opens (beginsBare table)) _ _ = true at addresses
    rw [clause_split, quiet_append, rest, List.append_nil, lead, addresses]
    rfl

theorem digit_word (c : Char) (digit : NetIP.isDigit c = true) : isWord table c = true := by
  have ascii : isAscii c = true := by
    simp only [NetIP.isDigit, Bool.and_eq_true, decide_eq_true_eq, char_le_iff] at digit
    rw [isAscii, decide_eq_true_eq]
    have last : c.toNat ≤ 57 := digit.2
    omega
  rw [isWord, if_pos ascii, digit, Bool.or_true]
  rfl

theorem port_first (before rest : List Char) (port : PortText) (led : BlankLed rest) :
    ∃ stop, First (aclPort table) ⟨' ' :: before, "port".toList ++ ' ' :: (port.text ++ rest), []⟩ stop ∧ stop.groups = [("port", port.text)] := by
  have filled : (port.text ++ rest).head?.any isBlank = false := by
    cases shape : port.text with
    | nil => exact absurd shape port.present
    | cons c more =>
        have digit := port.digits c (by rw [shape]; exact List.mem_cons_self)
        exact address_filled c (by rw [isAddressChar, digit]; rfl)
  have label := first_label table "port" 'p' ['o', 'r', 't'] before (port.text ++ rest) rfl rfl (port_lead table).spelled filled
  have value := first_held "port" _ _ port.text rest _ _ _ (first_digits table (' ' :: ("port".toList.reverse ++ ' ' :: before)) port.text
    rest [] 5 port.present port.short port.digits (led_head _ rfl rest led))
  have closed : atBoundary (isWord table) ⟨port.text.reverse ++ ' ' :: ("port".toList.reverse ++ ' ' :: before), rest, [("port", port.text)]⟩ =
      true := by
    have last : (port.text.reverse ++ ' ' :: ("port".toList.reverse ++ ' ' :: before)).head?.any (isWord table) = true := by
      cases shape : port.text.reverse with
      | nil => exact absurd (List.reverse_eq_nil_iff.mp shape) port.present
      | cons c more =>
          have digit := port.digits c (List.mem_reverse.mp (by rw [shape]; exact List.mem_cons_self))
          exact digit_word table c digit
    rw [atBoundary, last, led_head (isWord table) rfl rest led]
    rfl
  exact ⟨_, first_left _ _ _ _ (first_seq _ _ _ _ _ (first_seq _ _ _ _ _ label value) (first_boundary _ _ closed)), rfl⟩

theorem port_read : (search (aclPort table) clause.text).bind portOf = clause.port.map fun port => String.ofList port.text := by
  cases named : clause.port with
  | none =>
      rw [search_all_quiet _ _ (port_begins table) rfl _ (unnamed_quiet table clause named)]
      rfl
  | some port =>
      have rest : clause.rest = labelled "port" (some port.text) ++ clause.addresses := by
        rw [Clause.rest, named]
        rfl
      have split : clause.text = (spaced clause.lead ++ [' ']) ++ ("port".toList ++ ' ' :: (port.text ++ spaced clause.addresses)) := by
        rw [clause_split, rest, spaced_labelled]
      have led := spaced_led clause.addresses [] .ended
      rw [List.append_nil] at led
      obtain ⟨stop, first, groups⟩ := port_first table (spaced clause.lead).reverse (spaced clause.addresses) port led
      obtain ⟨made, matched, groups'⟩ := first_matched _ _ _ _ first
      have bare := lead_bare table clause
      rw [rest] at bare
      have opening : quiet (canBePort table) (spaced clause.lead ++ [' ']) ("port".toList ++ ' ' :: (port.text ++ spaced clause.addresses)) =
          true := by
        refine port_quiet table clause _ _ split ?_ ?_
        · have after : BlankLed ([' '] ++ ("port".toList ++ ' ' :: (port.text ++ spaced clause.addresses))) := .blank _
          rw [quiet_append, lead_named clause _ after]
          rfl
        · have whole := spaced_labelled [] "port" port.text clause.addresses
          rw [List.nil_append, List.nil_append] at whole
          rw [whole] at bare
          rw [quiet_append, bare]
          rfl
      have passed := search_passes _ _ (port_begins table) _ _ made opening (by rw [List.reverse_append]; exact matched)
      rw [split, passed, Option.bind_some, portOf, Match.group, groups', groups]
      rfl

theorem spelled_mem (word taken : List Char) (letter : Char) (member : letter ∈ word) (spelled : Spells (word.map sameLetter) taken) :
    ∃ c ∈ taken, sameLetter letter c = true := by
  induction word generalizing taken with
  | nil => cases member
  | cons first rest ih =>
      cases spelled with
      | @cons _ c _ others same spelled' =>
          cases List.mem_cons.mp member with
          | inl here =>
              rw [here]
              exact ⟨c, List.mem_cons_self, same⟩
          | inr later =>
              obtain ⟨d, inside, same'⟩ := ih others later spelled'
              exact ⟨d, List.mem_cons_of_mem c inside, same'⟩

-- A keyword has a letter that no prefix, and no port, has.
theorem keyword_lettered (keywords : List String)
    (lettered : keywords.all (fun keyword => keyword.toList.any isSpecial) = true)
    (present : keywords ≠ []) (before taken rest : List Char) (caught : Caught) (took : Takes (oneOf (keywords.map text)) before taken rest caught) :
    ∃ c ∈ taken, ¬ (isAddressChar c = true ∨ c = '/') := by
  obtain ⟨pattern, listed, isText⟩ := (takes_one_of _ (by rwa [Ne, List.map_eq_nil_iff]) _ _ _ _).mp took
  obtain ⟨keyword, member, rfl⟩ := List.mem_map.mp listed
  obtain ⟨letter, isLetter, special⟩ := List.any_eq_true.mp (List.all_eq_true.mp lettered keyword member)
  obtain ⟨_, spelled⟩ := (takes_text keyword _ _ _ _).mp isText
  obtain ⟨c, inside, same⟩ := spelled_mem _ taken letter isLetter spelled
  refine ⟨c, inside, fun plain => ?_⟩
  rw [address_plain c letter special plain] at same
  cases same

theorem permit_unfound (word : List Char) (plain : ∀ c ∈ word, isAddressChar c = true ∨ c = '/') : found (aclPermit table) word = false := by
  refine (not_found_iff _ word).mpr fun front taken rest caught split took => ?_
  have inner := ((takes_bounded _ _ _ _ _ _).mp took).2
  obtain ⟨c, inside, special⟩ := keyword_lettered ["permit", "permitting", "allow", "allowing"] (by decide) (List.cons_ne_nil _ _) _ _ _ _ inner
  exact special (plain c (by rw [split]; exact List.mem_append_right _ (List.mem_append_left _ inside)))

theorem proto_unfound (word : List Char) (plain : ∀ c ∈ word, isAddressChar c = true ∨ c = '/') : found (aclProto table) word = false := by
  refine (not_found_iff _ word).mpr fun front taken rest caught split took => ?_
  obtain ⟨_, _, inner⟩ := ((takes_bounded _ _ _ _ _ _).mp took).2
  obtain ⟨c, inside, special⟩ := keyword_lettered ["tcp", "udp", "icmp", "igmp", "rsvp", "gre", "ah", "pim", "l2tp"] (by decide)
    (List.cons_ne_nil _ _) _ _ _ _ inner
  exact special (plain c (by rw [split]; exact List.mem_append_right _ (List.mem_append_left _ inside)))

-- Behind its first words, a clause has labels, a port and prefixes.
theorem rest_words (word : List Char) (member : word ∈ clause.rest) :
    word ∈ ["port".toList, "from".toList, "to".toList] ∨ ∀ c ∈ word, isAddressChar c = true ∨ c = '/' := by
  have part (label : String) (value : Option (List Char)) (listed : label.toList ∈ ["port".toList, "from".toList, "to".toList])
      (plain : ∀ text ∈ value, ∀ c ∈ text, isAddressChar c = true ∨ c = '/') (inside : word ∈ labelled label value) :
      word ∈ ["port".toList, "from".toList, "to".toList] ∨ ∀ c ∈ word, isAddressChar c = true ∨ c = '/' := by
    cases value with
    | none => cases inside
    | some text =>
        cases List.mem_cons.mp inside with
        | inl isLabel =>
            rw [isLabel]
            exact .inl listed
        | inr isText =>
            rw [List.mem_singleton.mp isText]
            exact .inr (plain text rfl)
  cases List.mem_append.mp member with
  | inl port => exact part "port" _ (by decide) (port_plain clause) port
  | inr others =>
      cases List.mem_append.mp others with
      | inl source => exact part "from" _ (by decide) (prefix_plain clause.source) source
      | inr destination => exact part "to" _ (by decide) (prefix_plain clause.destination) destination

theorem rest_unfound (pattern : Pattern) (labels : ["port".toList, "from".toList, "to".toList].all (fun word => !found pattern word) = true)
    (plain : ∀ word : List Char, (∀ c ∈ word, isAddressChar c = true ∨ c = '/') → found pattern word = false) :
    clause.rest.find? (fun word => found pattern word) = none := by
  refine List.find?_eq_none.mpr fun word member => ?_
  cases rest_words clause word member with
  | inl listed =>
      rw [(Bool.not_eq_true' _).mp (List.all_eq_true.mp labels word listed)]
      exact Bool.false_ne_true
  | inr chars =>
      rw [plain word chars]
      exact Bool.false_ne_true

-- The words before the others are looked at one by one.
theorem words_find (pattern : Pattern) (rest : clause.rest.find? (fun word => found pattern word) = none) :
    clause.words.find? (fun word => found pattern word) = clause.lead.find? fun word => found pattern word := by
  change (clause.lead ++ clause.rest).find? _ = _
  rw [List.find?_append, rest, Option.or_none]

theorem action_read : found (aclPermit table) clause.text = decide (clause.action.action = .permit) := by
  have rest := rest_unfound clause (aclPermit table) rfl (permit_unfound table)
  have words := search_spaced (aclPermit table) Option.isSome clause.words (fun _ _ _ => Option.isSome_map) rfl rfl rfl
  rw [words_find clause (aclPermit table) rest] at words
  change found (aclPermit table) clause.text = _ at words
  have others : ((clause.direction.map stageText).toList ++ (clause.protocol.map ProtocolWord.text).toList).find?
      (fun word => found (aclPermit table) word) = none := by
    cases clause.direction with
    | none =>
        cases clause.protocol with
        | none => rfl
        | some word => cases word <;> rfl
    | some stage =>
        cases clause.protocol with
        | none => cases stage <;> rfl
        | some word => cases stage <;> cases word <;> rfl
  rw [words, Clause.lead, List.find?_cons, others]
  cases clause.action with
  | permit => rfl
  | allow => rfl
  | deny => rfl
  | drop => rfl
  | block => rfl

theorem protocol_read : (search (aclProto table) clause.text).map (protocolOf table) =
    clause.protocol.map fun word => .name (String.ofList word.text) := by
  have rest := rest_unfound clause (aclProto table) rfl (proto_unfound table)
  have words := search_spaced (aclProto table) (Option.map (protocolOf table)) clause.words (fun _ _ _ => Option.map_map _ _ _) rfl rfl rfl
  rw [words_find clause (aclProto table) rest] at words
  have action : found (aclProto table) clause.action.text = false := by
    cases clause.action with
    | permit => rfl
    | allow => rfl
    | deny => rfl
    | drop => rfl
    | block => rfl
  have direction : (clause.direction.map stageText).toList.find? (fun word => found (aclProto table) word) = none := by
    cases clause.direction with
    | none => rfl
    | some stage => cases stage <;> rfl
  change (search (aclProto table) (spaced clause.words)).map _ = _
  rw [words, Clause.lead, List.find?_cons, action, List.find?_append, direction, Option.none_or]
  cases clause.protocol with
  | none => rfl
  | some word => cases word <;> rfl

-- Alone, a clause is read as it is meant.
theorem clause_read : readRule table clause.text = clause.rule := by
  have action : (if found (aclPermit table) clause.text then Action.permit else .deny) = clause.action.action := by
    rw [action_read]
    cases clause.action with
    | permit => rfl
    | allow => rfl
    | deny => rfl
    | drop => rfl
    | block => rfl
  rw [readRule, action, protocol_read, port_read, source_read, destination_read]
  rfl

end Parts

end AgenticNetops.Mapper
