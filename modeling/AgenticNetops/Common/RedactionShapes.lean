import AgenticNetops.Common.Redaction
import AgenticNetops.Lib.RegexPieces

set_option autoImplicit false

/- What the credential patterns take: tokens that stand alone, and labels with a value
   behind them. No mark can be a part of the one or of the other. -/
namespace AgenticNetops.Common

open Regex PyText GoText

variable (table : CharTable)

section Letters

def plainWord (c : Char) : Bool := isAlnumAscii c || c = '_'

theorem plain_word (c : Char) (plain : plainWord c = true) : isWord table c = true := by
  simp only [plainWord, isAlnumAscii, isUpper, NetIP.isDigit, Bool.or_eq_true, Bool.and_eq_true, decide_eq_true_eq, char_le_iff,
    ← Char.toNat_inj, Char.reduceToNat] at plain
  have ascii : isAscii c = true := by
    rw [isAscii, decide_eq_true_eq]
    omega
  rw [isWord, if_pos ascii]
  simp only [NetIP.isDigit, Bool.or_eq_true, Bool.and_eq_true, decide_eq_true_eq, char_le_iff, ← Char.toNat_inj, Char.reduceToNat]
  omega

theorem word_plain (c : Char) (part : isTokenChar c = true ∨ c = '.') (word : isWord table c = true) : plainWord c = true := by
  cases part with
  | inr dot =>
      rw [dot] at word
      cases word
  | inl token =>
      rw [isTokenChar, Bool.or_eq_true, decide_eq_true_eq] at token
      cases token with
      | inl plain => exact plain
      | inr dash =>
          rw [dash] at word
          cases word

end Letters

section Tokens

-- A token as a whole.
structure TokenText (taken : List Char) : Prop where
  starts : ∃ first more, taken = first :: more ∧ first ∈ ['A', 's', 'p', 'k', 'e']
  chars : ∀ c ∈ taken, isTokenChar c = true ∨ c = '.'
  foreign : ∃ c ∈ taken, c ∉ redactedPEM.toList

structure TakesTokens (pattern : Pattern) : Prop where
  text : ∀ before taken after caught, Takes pattern before taken after caught → Bounded (isWord table) before taken after ∧ TokenText taken
  moves : ∀ before taken after before' after' caught, Takes pattern before taken after caught → Bounded (isWord table) before' taken after' →
    Takes pattern before' taken after' caught

theorem takes_tokens (pattern body : Pattern) (plain : body.plain = true)
    (same : ∀ before taken after caught, Takes pattern before taken after caught ↔ Bounded (isWord table) before taken after ∧
      Takes body before taken after caught)
    (text : ∀ before taken after caught, Takes body before taken after caught → TokenText taken) : TakesTokens table pattern := by
  refine ⟨fun before taken after caught took => ?_, fun before taken after before' after' caught took bounded => ?_⟩
  · obtain ⟨bounded, inside⟩ := (same before taken after caught).mp took
    exact ⟨bounded, text before taken after caught inside⟩
  · obtain ⟨_, inside⟩ := (same before taken after caught).mp took
    exact (same before' taken after' caught).mpr ⟨bounded, takes_plain body plain _ _ _ _ _ _ inside⟩

-- A lead that no mark has, with token characters behind it.
def isLead (lead : String) : Bool :=
  lead.toList.head?.any (fun first => ['A', 's', 'p', 'k', 'e'].contains first) && lead.toList.all isTokenChar &&
    lead.toList.any fun c => !redactedPEM.toList.contains c

theorem token_lead (lead : String) (right : List Char) (good : isLead lead = true) (chars : ∀ c ∈ right, isTokenChar c = true ∨ c = '.') :
    TokenText (lead.toList ++ right) := by
  obtain ⟨both, outside⟩ := (Bool.and_eq_true _ _).mp good
  obtain ⟨starts, all⟩ := (Bool.and_eq_true _ _).mp both
  have begun : ∃ first more, lead.toList = first :: more ∧ first ∈ ['A', 's', 'p', 'k', 'e'] := by
    cases shape : lead.toList with
    | nil =>
        rw [shape] at starts
        cases starts
    | cons first more =>
        rw [shape] at starts
        exact ⟨first, more, rfl, List.contains_iff_mem.mp starts⟩
  obtain ⟨first, more, shape, listed⟩ := begun
  obtain ⟨c, inside, unmarked⟩ := List.any_eq_true.mp outside
  refine ⟨⟨first, more ++ right, by rw [shape]; rfl, listed⟩, fun c member => ?_, c, List.mem_append_left _ inside, ?_⟩
  · cases List.mem_append.mp member with
    | inl lead => exact .inl (List.all_eq_true.mp all c lead)
    | inr rest => exact chars c rest
  · rw [Bool.not_eq_true'] at unmarked
    exact fun member => by rw [List.contains_iff_mem.mpr member] at unmarked; cases unmarked

theorem upper_token (c : Char) (accepted : (isUpper c || NetIP.isDigit c) = true) : isTokenChar c = true := by
  simp only [isTokenChar, isAlnumAscii, Bool.or_eq_true] at accepted ⊢
  tauto

theorem aws_key_takes : TakesTokens table (awsKey table) := by
  refine takes_tokens table _ (oneOf [exact "AKIA", exact "ASIA"] ++ times (.char fun c => isUpper c || NetIP.isDigit c) 16) rfl ?_ ?_
  · intro before taken after caught
    rw [← takes_bounded, awsKey, edge, takes_closing, takes_closing, takes_assoc]
  · intro before taken after caught took
    obtain ⟨left, right, _, _, rfl, _, isLeft, isRest⟩ := took
    obtain ⟨_, _, all⟩ := takes_times _ 16 _ _ _ _ isRest
    have chars : ∀ c ∈ right, isTokenChar c = true ∨ c = '.' := fun c member => .inl (upper_token c (all c member))
    cases isLeft with
    | inl akia =>
        obtain ⟨_, rfl⟩ := (takes_exact _ _ _ _ _).mp akia
        exact token_lead "AKIA" right (by decide) chars
    | inr asia =>
        obtain ⟨_, rfl⟩ := (takes_exact _ _ _ _ _).mp asia
        exact token_lead "ASIA" right (by decide) chars

theorem at_least_takes (count : Nat) (accepts : Char → Bool) (before taken after : List Char) (caught : Caught)
    (took : Takes (atLeast count accepts) before taken after caught) : caught = [] ∧ ∀ c ∈ taken, accepts c = true := by
  obtain ⟨left, right, _, _, rfl, rfl, isLeft, isRight⟩ := took
  obtain ⟨rfl, _, first⟩ := takes_times accepts count _ _ _ _ isLeft
  obtain ⟨rfl, others⟩ := takes_many true accepts _ _ _ _ isRight
  refine ⟨rfl, fun c member => ?_⟩
  cases List.mem_append.mp member with
  | inl inside => exact first c inside
  | inr inside => exact others c inside

def providerLeads : List String := ["sk", "pk", "pk_live", "sk_live", "key"]

theorem provider_key_takes : TakesTokens table (providerKey table) := by
  refine takes_tokens table _ (oneOf (providerLeads.map exact) ++ (exact "-" ++ atLeast 16 isTokenChar)) rfl ?_ ?_
  · intro before taken after caught
    rw [← takes_bounded, providerKey, providerLeads, edge, takes_closing, takes_closing, takes_assoc, takes_assoc]
  · intro before taken after caught took
    obtain ⟨left, right, _, _, rfl, _, isLeft, dash, rest, _, _, rfl, _, isDash, isRest⟩ := took
    obtain ⟨_, all⟩ := at_least_takes 16 isTokenChar _ _ _ _ isRest
    obtain ⟨_, rfl⟩ := (takes_exact _ _ _ _ _).mp isDash
    obtain ⟨pattern, listed, isWord⟩ := (takes_one_of (providerLeads.map exact) (by decide) _ _ _ _).mp isLeft
    obtain ⟨word, member, rfl⟩ := List.mem_map.mp listed
    obtain ⟨_, rfl⟩ := (takes_exact _ _ _ _ _).mp isWord
    have good : providerLeads.all isLead = true := by decide
    refine token_lead word ("-".toList ++ rest) (List.all_eq_true.mp good word member) fun c inside => ?_
    cases List.mem_cons.mp inside with
    | inl dash =>
        rw [dash]
        exact .inl rfl
    | inr later => exact .inl (all c later)

theorem jwt_takes : TakesTokens table (jwt table) := by
  refine takes_tokens table _ (exact "eyJ" ++ (atLeast 8 isTokenChar ++ (exact "." ++ (atLeast 8 isTokenChar ++ (exact "." ++
    atLeast 8 isTokenChar))))) rfl ?_ ?_
  · intro before taken after caught
    rw [← takes_bounded, jwt, edge, takes_closing, takes_closing, takes_assoc, takes_assoc, takes_assoc, takes_assoc, takes_assoc]
  · intro before taken after caught took
    obtain ⟨_, _, _, _, rfl, _, isLead, header, _, _, _, rfl, _, isHeader, dot, _, _, _, rfl, _, isDot, claims, _, _, _, rfl, _, isClaims, dot', sign, _, _,
      rfl, _, isDot', isSign⟩ := took
    obtain ⟨_, rfl⟩ := (takes_exact _ _ _ _ _).mp isLead
    obtain ⟨_, rfl⟩ := (takes_exact _ _ _ _ _).mp isDot
    obtain ⟨_, rfl⟩ := (takes_exact _ _ _ _ _).mp isDot'
    obtain ⟨_, headers⟩ := at_least_takes 8 isTokenChar _ _ _ _ isHeader
    obtain ⟨_, all⟩ := at_least_takes 8 isTokenChar _ _ _ _ isClaims
    obtain ⟨_, signs⟩ := at_least_takes 8 isTokenChar _ _ _ _ isSign
    refine token_lead "eyJ" _ (by decide) fun c inside => ?_
    simp only [List.mem_append] at inside
    obtain isHead | isDot | isClaim | isDot | isLast := inside
    · exact .inl (headers c isHead)
    · exact .inr (List.mem_singleton.mp isDot)
    · exact .inl (all c isClaim)
    · exact .inr (List.mem_singleton.mp isDot)
    · exact .inl (signs c isLast)

end Tokens

section Labels

-- The mark as the patterns without regard to case look for it.
def foldedMark : List (Char → Bool) := letters "***".toList ++ ("redacted".toList.map sameLetter ++ letters "***".toList)

-- What no mark can go on across.
def Seals (lead : List Char) : Prop := ∃ c ∈ lead, ∀ accepts ∈ foldedMark, accepts c = false

-- A label as a whole: what separates it from its value comes once, and blanks at most behind it.
structure LabelText (separates : Char → Bool) (label : List Char) : Prop where
  starts : ∃ first more, label = first :: more ∧ plainWord first = true
  unstarred : '*' ∉ label
  separated : ∃ word separator blanks, label = word ++ separator :: blanks ∧ separates separator = true ∧
    (∀ c ∈ word, separates c = false) ∧ ∀ c ∈ blanks, isBlank c = true
  foreign : ∃ c ∈ label, c ∉ redactedPEM.toList
  ended : ∃ front last, label = front ++ [last] ∧ plainWord last = false ∧ ∀ next, adjacent foldedMark last next = false
  sealing : Seals label

structure TakesLabels (separates : Char → Bool) (label : Pattern) : Prop where
  text : ∀ before taken after caught, Takes label before taken after caught → caught = [] ∧ LabelText separates taken
  moves : ∀ before taken after before' after' caught, Takes label before taken after caught →
    (atBoundary (isWord table) ⟨before, taken ++ after, []⟩ = true → atBoundary (isWord table) ⟨before', taken ++ after', []⟩ = true) →
    Takes label before' taken after' caught

theorem takes_bare (separates : Char → Bool) (label : Pattern) (plain : label.plain = true)
    (text : ∀ before taken after caught, Takes label before taken after caught → caught = [] ∧ LabelText separates taken) :
    TakesLabels table separates label :=
  ⟨text, fun before taken after before' after' caught took _ => takes_plain label plain before taken after before' after' caught took⟩

theorem takes_edged (separates : Char → Bool) (word rest : Pattern) (plain : (word ++ rest).plain = true)
    (text : ∀ before taken after caught, Takes (word ++ rest) before taken after caught → caught = [] ∧ LabelText separates taken) :
    TakesLabels table separates (edge table ++ word ++ rest) := by
  have same (before taken after : List Char) (caught : Caught) : Takes (edge table ++ word ++ rest) before taken after caught ↔
      atBoundary (isWord table) ⟨before, taken ++ after, []⟩ = true ∧ Takes (word ++ rest) before taken after caught := by
    rw [takes_assoc, edge, takes_opening]
  refine ⟨fun before taken after caught took => ?_, fun before taken after before' after' caught took opened => ?_⟩
  · exact text before taken after caught ((same _ _ _ _).mp took).2
  · obtain ⟨bounded, inside⟩ := (same _ _ _ _).mp took
    exact (same _ _ _ _).mpr ⟨opened bounded, takes_plain _ plain _ _ _ _ _ _ inside⟩

-- The characters of the words that labels are made of.
structure Wordy (c : Char) : Prop where
  unstarred : c ≠ '*'
  unassigned : anyOf "=:" c = false
  filled : isBlank c = false

def isKeyLetter (letter : Char) : Bool := ('a' ≤ letter && letter ≤ 'z') || letter = '-' || letter = '_'

theorem key_letter_wordy (letter c : Char) (key : isKeyLetter letter = true) (same : sameLetter letter c = true) : Wordy c := by
  simp only [isKeyLetter, Bool.or_eq_true, Bool.and_eq_true, decide_eq_true_eq, char_le_iff, ← Char.toNat_inj, Char.reduceToNat] at key
  have code := same_letter_code letter c same
  refine ⟨fun star => ?_, ?_, code_filled c (by omega)⟩
  · rw [star] at code
    simp only [Char.reduceToNat] at code
    omega
  · have outside : ¬ c ∈ ['=', ':'] := by
      simp only [List.mem_cons, List.not_mem_nil, or_false, ← Char.toNat_inj, Char.reduceToNat]
      omega
    exact Bool.eq_false_iff.mpr fun contains => outside (List.contains_iff_mem.mp contains)

theorem assigned_takes (before taken after : List Char) (caught : Caught) (took : Takes assigned before taken after caught) :
    caught = [] ∧ ∃ lead separator blanks, taken = lead ++ separator :: blanks ∧ anyOf "=:" separator = true ∧
      (∀ c ∈ lead, isBlank c = true) ∧ ∀ c ∈ blanks, isBlank c = true := by
  obtain ⟨_, blanks, _, _, rfl, rfl, ⟨lead, _, _, _, rfl, rfl, isLead, separator, rfl, separates, rfl⟩, isBlanks⟩ := took
  obtain ⟨rfl, leads⟩ := takes_many true isBlank _ _ _ _ isLead
  obtain ⟨rfl, trails⟩ := takes_many true isBlank _ _ _ _ isBlanks
  exact ⟨rfl, lead, separator, blanks, by rw [List.append_assoc]; rfl, separates, leads, trails⟩

theorem folded_mark (accepts : Char → Bool) (member : accepts ∈ foldedMark) (c : Char) (fits : accepts c = true) :
    c = '*' ∨ ∃ letter, 97 ≤ letter.toNat ∧ letter.toNat ≤ 122 ∧ sameLetter letter c = true := by
  have star (inside : accepts ∈ letters "***".toList) : c = '*' := by
    obtain ⟨letter, listed, rfl⟩ := List.mem_map.mp inside
    have stars : "***".toList.all (fun letter => letter = '*') = true := by decide
    rw [of_decide_eq_true fits, of_decide_eq_true (List.all_eq_true.mp stars letter listed)]
  cases List.mem_append.mp member with
  | inl front => exact .inl (star front)
  | inr others =>
      cases List.mem_append.mp others with
      | inr back => exact .inl (star back)
      | inl word =>
          obtain ⟨letter, listed, rfl⟩ := List.mem_map.mp word
          have small : "redacted".toList.all (fun letter => 97 ≤ letter.toNat && letter.toNat ≤ 122) = true := by decide
          have bounds := List.all_eq_true.mp small letter listed
          simp only [Bool.and_eq_true, decide_eq_true_eq] at bounds
          exact .inr ⟨letter, bounds.1, bounds.2, fits⟩

-- What a label ends with is beside every mark.
theorem separator_outside (c : Char) (separates : anyOf "=:" c = true ∨ isBlank c = true) :
    plainWord c = false ∧ c ∉ redactedPEM.toList ∧ c ≠ '*' ∧ ∀ accepts ∈ foldedMark, accepts c = false := by
  have codes : c.toNat = 61 ∨ c.toNat = 58 ∨ isBlank c = true := by
    cases separates with
    | inr blank => exact .inr (.inr blank)
    | inl assigned =>
        have listed : c ∈ ['=', ':'] := List.contains_iff_mem.mp assigned
        simp only [List.mem_cons, List.not_mem_nil, or_false, ← Char.toNat_inj, Char.reduceToNat] at listed
        exact listed.imp id .inl
  have outside : ¬ (65 ≤ c.toNat ∧ c.toNat ≤ 122 ∨ 48 ≤ c.toNat ∧ c.toNat ≤ 57 ∨ c.toNat = 42 ∨ c.toNat = 45 ∨ c.toNat = 0x212A ∨ c.toNat = 0x17F ∨
      c.toNat = 0x130 ∨ c.toNat = 0x131) := by
    intro code
    obtain equal | colon | blank := codes
    · omega
    · omega
    · rw [code_filled c (by omega)] at blank
      cases blank
  refine ⟨Bool.eq_false_iff.mpr fun plain => ?_, fun member => ?_, fun star => ?_, fun accepts member => Bool.eq_false_iff.mpr fun fits => ?_⟩
  · simp only [plainWord, isAlnumAscii, isUpper, NetIP.isDigit, Bool.or_eq_true, Bool.and_eq_true, decide_eq_true_eq, char_le_iff,
      ← Char.toNat_inj, Char.reduceToNat] at plain
    omega
  · have letters : redactedPEM.toList.all (fun c => c.toNat = 42 || c.toNat = 45 || 65 ≤ c.toNat && c.toNat ≤ 90) = true := by decide
    have code := List.all_eq_true.mp letters c member
    simp only [Bool.or_eq_true, Bool.and_eq_true, decide_eq_true_eq] at code
    omega
  · rw [star] at outside
    exact outside (by decide)
  · cases folded_mark accepts member c fits with
    | inl star =>
        rw [star] at outside
        exact outside (by decide)
    | inr letter =>
        obtain ⟨letter, low, high, same⟩ := letter
        have code := same_letter_code letter c same
        omega

-- A word that starts a label.
structure KeyText (word : List Char) : Prop where
  starts : ∃ first more, word = first :: more ∧ plainWord first = true
  wordy : ∀ c ∈ word, Wordy c

theorem blank_not_assigned (c : Char) (blank : isBlank c = true) : anyOf "=:" c = false := by
  refine Bool.eq_false_iff.mpr fun assigned => ?_
  have listed : c ∈ ['=', ':'] := List.contains_iff_mem.mp assigned
  cases List.mem_cons.mp listed with
  | inl equal =>
      rw [equal] at blank
      cases blank
  | inr colon =>
      rw [List.mem_singleton.mp colon] at blank
      cases blank

-- A label from its word, and from what stands behind it.
theorem label_text (separates : Char → Bool) (word lead : List Char) (separator : Char) (blanks : List Char) (key : KeyText word)
    (isSeparator : separates separator = true) (outside : anyOf "=:" separator = true ∨ isBlank separator = true)
    (words : ∀ c ∈ word, separates c = false) (leads : ∀ c ∈ lead, isBlank c = true ∧ separates c = false)
    (trails : ∀ c ∈ blanks, isBlank c = true) : LabelText separates (word ++ (lead ++ separator :: blanks)) := by
  obtain ⟨first, more, isWord, plain⟩ := key.starts
  obtain ⟨plainLess, unmarked, notStar, refused⟩ := separator_outside separator outside
  have inside : separator ∈ word ++ (lead ++ separator :: blanks) := List.mem_append_right _ (List.mem_append_right _ List.mem_cons_self)
  refine ⟨⟨first, more ++ (lead ++ separator :: blanks), by rw [isWord]; rfl, plain⟩, fun star => ?_, ?_, ⟨separator, inside, unmarked⟩, ?_,
    separator, inside, refused⟩
  · simp only [List.mem_append, List.mem_cons] at star
    obtain inWord | inLead | isStar | inBlanks := star
    · exact (key.wordy '*' inWord).unstarred rfl
    · cases (leads '*' inLead).1
    · exact notStar isStar.symm
    · cases trails '*' inBlanks
  · refine ⟨word ++ lead, separator, blanks, by rw [List.append_assoc], isSeparator, fun c member => ?_, trails⟩
    cases List.mem_append.mp member with
    | inl inWord => exact words c inWord
    | inr inLead => exact (leads c inLead).2
  · cases List.eq_nil_or_concat blanks with
    | inl none' =>
        rw [none']
        refine ⟨word ++ lead, separator, by rw [List.append_assoc], plainLess, fun next => adjacent_refused _ _ _ refused⟩
    | inr shaped =>
        obtain ⟨others, last, isBlanks⟩ := shaped
        rw [List.concat_eq_append] at isBlanks
        have isBlank' := trails last (by rw [isBlanks]; exact List.mem_append_right _ List.mem_cons_self)
        obtain ⟨plainLess', _, _, refused'⟩ := separator_outside last (.inr isBlank')
        refine ⟨word ++ (lead ++ separator :: others), last, ?_, plainLess', fun next => adjacent_refused _ _ _ refused'⟩
        rw [isBlanks, List.append_assoc, List.append_assoc, List.cons_append]

-- A keyword, as it is spelled in a text.
def isKey (word : String) : Bool :=
  word.toList.head?.any (fun first => ['p', 'a', 'b', 't'].contains first) && word.toList.all isKeyLetter

theorem letter_plain (letter c : Char) (folds : letter ≠ 'k' ∧ letter ≠ 's' ∧ letter ≠ 'i') (small : 97 ≤ letter.toNat ∧ letter.toNat ≤ 122)
    (same : sameLetter letter c = true) : plainWord c = true := by
  have lowered : toLowerAscii c = letter := by
    obtain lowered | foreign | foreign | foreign := same_letter_cases letter c same
    · exact lowered
    · exact absurd foreign.1 folds.1
    · exact absurd foreign.1 folds.2.1
    · exact absurd foreign.1 folds.2.2
  simp only [plainWord, isAlnumAscii, isUpper, Bool.or_eq_true, Bool.and_eq_true, decide_eq_true_eq, char_le_iff, Char.reduceToNat]
  rw [toLowerAscii] at lowered
  by_cases upper : ('A' ≤ c && c ≤ 'Z') = true
  · simp only [Bool.and_eq_true, decide_eq_true_eq, char_le_iff, Char.reduceToNat] at upper
    exact .inl (.inl (.inl upper))
  · rw [if_neg upper] at lowered
    rw [lowered]
    exact .inl (.inl (.inr small))

theorem first_plain (letter c : Char) (listed : letter ∈ ['p', 'a', 'b', 't']) (same : sameLetter letter c = true) : plainWord c = true := by
  have plain : ['p', 'a', 'b', 't'].all (fun letter => decide ((letter ≠ 'k' ∧ letter ≠ 's' ∧ letter ≠ 'i') ∧ 97 ≤ letter.toNat ∧
      letter.toNat ≤ 122)) = true := by decide
  obtain ⟨folds, small⟩ := of_decide_eq_true (List.all_eq_true.mp plain letter listed)
  exact letter_plain letter c folds small same

theorem spelled_wordy (word taken : List Char) (keys : word.all isKeyLetter = true) (spelled : Spells (word.map sameLetter) taken) :
    ∀ c ∈ taken, Wordy c := by
  induction word generalizing taken with
  | nil =>
      rw [List.forall₂_nil_left_iff.mp spelled]
      intro c member
      cases member
  | cons letter rest ih =>
      rw [List.all_cons, Bool.and_eq_true] at keys
      cases spelled with
      | @cons _ c _ others same later =>
          exact List.forall_mem_cons.mpr ⟨key_letter_wordy letter c keys.1 same, ih others keys.2 later⟩

theorem key_text (word : String) (good : isKey word = true) (before taken after : List Char) (caught : Caught)
    (took : Takes (text word) before taken after caught) : caught = [] ∧ KeyText taken := by
  obtain ⟨rfl, spelled⟩ := (takes_text word _ _ _ _).mp took
  obtain ⟨starts, keys⟩ := (Bool.and_eq_true _ _).mp good
  have wordy := spelled_wordy word.toList taken keys spelled
  cases shape : word.toList with
  | nil =>
      rw [shape] at starts
      cases starts
  | cons letter rest =>
      rw [shape] at starts spelled
      cases spelled with
      | @cons _ c _ others same later =>
          exact ⟨rfl, ⟨c, others, rfl, first_plain letter c (List.contains_iff_mem.mp starts) same⟩, wordy⟩

theorem key_more (word rest : List Char) (key : KeyText word) (wordy : ∀ c ∈ rest, Wordy c) : KeyText (word ++ rest) := by
  obtain ⟨first, more, isWord, plain⟩ := key.starts
  refine ⟨⟨first, more ++ rest, by rw [isWord]; rfl, plain⟩, fun c member => ?_⟩
  cases List.mem_append.mp member with
  | inl inWord => exact key.wordy c inWord
  | inr inRest => exact wordy c inRest

theorem assigned_label (word : Pattern)
    (keys : ∀ before taken after caught, Takes word before taken after caught → caught = [] ∧ KeyText taken) (before taken after : List Char)
    (caught : Caught) (took : Takes (word ++ assigned) before taken after caught) : caught = [] ∧ LabelText (anyOf "=:") taken := by
  obtain ⟨left, right, _, _, rfl, rfl, isWord, isAssigned⟩ := took
  obtain ⟨rfl, key⟩ := keys _ _ _ _ isWord
  obtain ⟨rfl, lead, separator, blanks, rfl, separates, leads, trails⟩ := assigned_takes _ _ _ _ isAssigned
  exact ⟨rfl, label_text _ left lead separator blanks key separates (.inl separates) (fun c member => (key.wordy c member).unassigned)
    (fun c member => ⟨leads c member, blank_not_assigned c (leads c member)⟩) trails⟩

theorem one_key (words : List String) (present : words ≠ []) (good : words.all isKey = true) (before taken after : List Char)
    (caught : Caught) (took : Takes (oneOf (words.map text)) before taken after caught) : caught = [] ∧ KeyText taken := by
  obtain ⟨pattern, listed, isWord⟩ := (takes_one_of _ (by rwa [Ne, List.map_eq_nil_iff]) _ _ _ _).mp took
  obtain ⟨word, member, rfl⟩ := List.mem_map.mp listed
  exact key_text word (List.all_eq_true.mp good word member) _ _ _ _ isWord

theorem password_takes :
    TakesLabels table (anyOf "=:") (edge table ++ oneOf [text "password", text "passwd", text "pwd"] ++ assigned) :=
  takes_edged table _ _ _ rfl (assigned_label _ (one_key ["password", "passwd", "pwd"] (List.cons_ne_nil _ _) (by decide)))

theorem token_takes : TakesLabels table (anyOf "=:") (edge table ++ text "token" ++ assigned) :=
  takes_edged table _ _ _ rfl (assigned_label _ (key_text "token" (by decide)))

theorem authorization_takes : TakesLabels table (anyOf "=:") (oneOf [text "authorization", text "proxy-authorization"] ++ assigned) :=
  takes_bare table _ _ rfl (assigned_label _ (one_key ["authorization", "proxy-authorization"] (List.cons_ne_nil _ _) (by decide)))

theorem api_key_takes :
    TakesLabels table (anyOf "=:") (oneOf [text "api" ++ opt (.char (anyOf "_-")) ++ text "key", text "apikey"] ++ assigned) := by
  refine takes_bare table _ _ rfl (assigned_label _ fun before taken after caught took => ?_)
  cases took with
  | inr joined => exact key_text "apikey" (by decide) _ _ _ _ joined
  | inl parts =>
      obtain ⟨_, last, _, _, rfl, rfl, ⟨first, middle, _, middleCaught, rfl, rfl, isFirst, isMiddle⟩, isLast⟩ := parts
      obtain ⟨rfl, key⟩ := key_text "api" (by decide) _ _ _ _ isFirst
      obtain ⟨rfl, spelled⟩ := (takes_text "key" _ _ _ _).mp isLast
      have wordy := spelled_wordy "key".toList last (by decide) spelled
      have between' : (middle = [] ∨ ∃ c, middle = [c] ∧ anyOf "_-" c = true) ∧ middleCaught = [] := by
        cases isMiddle with
        | inl one =>
            obtain ⟨rfl, c, rfl, joint⟩ := (takes_char _ _ _ _ _).mp one
            exact ⟨.inr ⟨c, rfl, joint⟩, rfl⟩
        | inr none' => exact ⟨.inl none'.1, none'.2⟩
      obtain ⟨isJoint, rfl⟩ := between'
      refine ⟨rfl, key_more _ _ (key_more _ _ key fun c member => ?_) wordy⟩
      cases isJoint with
      | inl none' =>
          rw [none'] at member
          cases member
      | inr one =>
          obtain ⟨d, rfl, joint⟩ := one
          rw [List.mem_singleton.mp member]
          have listed : d ∈ ['_', '-'] := List.contains_iff_mem.mp joint
          cases List.mem_cons.mp listed with
          | inl under =>
              rw [under]
              exact ⟨by decide, rfl, rfl⟩
          | inr dash =>
              rw [List.mem_singleton.mp dash]
              exact ⟨by decide, rfl, rfl⟩

theorem bearer_takes : TakesLabels table isBlank (edge table ++ text "bearer" ++ some' blank) := by
  refine takes_edged table _ _ _ rfl fun before taken after caught took => ?_
  obtain ⟨word, right, _, _, rfl, rfl, isWord, isBlanks⟩ := took
  obtain ⟨rfl, key⟩ := key_text "bearer" (by decide) _ _ _ _ isWord
  obtain ⟨rfl, present, blanks⟩ := takes_some isBlank _ _ _ _ isBlanks
  cases right with
  | nil => exact absurd rfl present
  | cons separator others =>
      have trails := List.forall_mem_cons.mp blanks
      exact ⟨rfl, label_text isBlank word [] separator others key trails.1 (.inr trails.1) (fun c member => (key.wordy c member).filled)
        (fun c member => by cases member) trails.2⟩

end Labels

end AgenticNetops.Common
