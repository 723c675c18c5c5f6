import AgenticNetops.Common.RedactionShapes

set_option autoImplicit false

/- What each substitution cuts out of a text, and what stands beside it. -/
namespace AgenticNetops.Common

open Regex PyText

variable (table : CharTable)

def mark : List Char := redactedMarker.toList

section Cuts

-- What is known of a stretch that goes under the mark.
structure CutFact (before old after : List Char) : Prop where
  edges : CutEdges (isWord table) plainWord before old after
  apart : ∀ p f, before.head? = some p → old.head? = some f → adjacent foldedMark p f = false

-- What is known of every piece: no match begins at a free character.
def Holds (pattern : Pattern) (heldFact : Char → List Char → Prop) (cutFact : List Char → List Char → List Char → Prop)
    (marked before : List Char) (piece : Piece) (rest : List Piece) : Prop :=
  match piece with
  | .kept true c => ∀ taken after caught, c :: readAll rest = taken ++ after → ¬ Takes pattern before taken after caught
  | .kept false c => heldFact c (writeAll marked rest)
  | .cut old => cutFact before old (readAll rest)

theorem free_holds (pattern : Pattern) (present : ∀ before taken after caught, Takes pattern before taken after caught → taken ≠ [])
    (heldFact : Char → List Char → Prop) (cutFact : List Char → List Char → List Char → Prop) (marked before : List Char) (c : Char)
    (rest : List Piece) (none' : matchHere pattern before (c :: readAll rest) = none) :
    Holds pattern heldFact cutFact marked before (.kept true c) rest := by
  intro taken after caught split took
  cases matched : matchAt pattern before (c :: readAll rest) with
  | none => exact (match_at_none pattern before _).mp matched taken after caught split took
  | some made =>
      obtain ⟨_, _, took'⟩ := match_at_some pattern before _ made matched
      have filled := present before made.text made.after made.groups took'
      rw [matchHere, matched, Option.filter_some, List.isEmpty_eq_false_iff.mpr filled] at none'
      cases none'

theorem any_word (c : Option Char) (plain : c.any plainWord = true) : c.any (isWord table) = true := by
  cases c with
  | none => cases plain
  | some c => exact plain_word table c plain

-- Beside a character that is no part of a word, no mark goes on with the first letter of a token.
theorem token_apart (p f : Char) (outside : plainWord p = false) (listed : f ∈ ['A', 's', 'p', 'k', 'e']) : adjacent foldedMark p f = false := by
  have refused (letter : Char) (folds : letter ≠ 'k' ∧ letter ≠ 's' ∧ letter ≠ 'i') (small : 97 ≤ letter.toNat ∧ letter.toNat ≤ 122) :
      sameLetter letter p = false := by
    cases same : sameLetter letter p with
    | false => rfl
    | true =>
        rw [letter_plain letter p folds small same] at outside
        cases outside
  have others : ['A', 's', 'p', 'k', 'e'].all (fun f => !decide (f = '*') && !sameLetter 'r' f) = true := by decide
  obtain ⟨noStar, noR⟩ := (Bool.and_eq_true _ _).mp (List.all_eq_true.mp others f listed)
  rw [Bool.not_eq_true'] at noStar noR
  have shape : foldedMark = [fun c => decide (c = '*'), fun c => decide (c = '*'), fun c => decide (c = '*'), sameLetter 'r', sameLetter 'e',
      sameLetter 'd', sameLetter 'a', sameLetter 'c', sameLetter 't', sameLetter 'e', sameLetter 'd', fun c => decide (c = '*'),
      fun c => decide (c = '*'), fun c => decide (c = '*')] := rfl
  rw [shape]
  simp only [adjacent, noStar, noR, refused 'r' (by decide) (by decide), refused 'e' (by decide) (by decide),
    refused 'd' (by decide) (by decide), refused 'a' (by decide) (by decide), refused 'c' (by decide) (by decide),
    refused 't' (by decide) (by decide), Bool.and_false, Bool.false_and, Bool.or_false]

-- A token that stands alone.
theorem token_cut (before taken after : List Char) (bounded : Bounded (isWord table) before taken after) (token : TokenText taken) :
    CutFact table before taken after := by
  obtain ⟨first, more, rfl, listed⟩ := token.starts
  have firstPlain : plainWord first = true := by
    have plain : ['A', 's', 'p', 'k', 'e'].all plainWord = true := by decide
    exact List.all_eq_true.mp plain first listed
  have opened := bounded.opened
  have closed := bounded.closed
  have isFirst : ((first :: more ++ after).head?.any (isWord table)) = true := plain_word table first firstPlain
  rw [atBoundary, isFirst] at opened
  refine ⟨⟨List.cons_ne_nil _ _, fun plain => ?_, fun plain => ?_⟩, fun p f isP isF => ?_⟩
  · rw [any_word table _ plain] at opened
    cases opened
  · rw [atBoundary, any_word table _ plain, List.head?_append, List.head?_reverse, List.getLast?_cons, Option.some_or] at closed
    rw [List.getLast?_cons]
    cases word : Option.any (isWord table) (some (more.getLast?.getD first)) with
    | false => rfl
    | true =>
        rw [word] at closed
        cases closed
  · have outside : plainWord p = false := by
      cases plain : plainWord p with
      | false => rfl
      | true =>
          rw [isP, Option.any_some, plain_word table p plain] at opened
          cases opened
    cases isF
    exact token_apart p first outside listed

-- The value of a label, to the next blank.
theorem value_cut (before label value after : List Char) (separates : Char → Bool) (labels : LabelText separates label) (present : value ≠ [])
    (ended : after.head?.any (fun c => !isBlank c) = false) : CutFact table (label.reverse ++ before) value after := by
  obtain ⟨front, last, rfl, plainLess, refused⟩ := labels.ended
  have isHead : ((front ++ [last]).reverse ++ before).head? = some last := by
    rw [List.reverse_append]
    rfl
  refine ⟨⟨present, fun plain => ?_, fun plain => ?_⟩, fun p f isP _ => ?_⟩
  · rw [isHead, Option.any_some, plainLess] at plain
    cases plain
  · cases after with
    | nil => cases plain
    | cons c more =>
        have blank : isBlank c = true := (Bool.not_eq_false' _).mp ended
        rw [List.head?_cons, Option.any_some, (separator_outside c (.inr blank)).1] at plain
        cases plain
  · rw [isHead] at isP
    cases isP
    exact refused f

end Cuts

section Substitutions

-- The characters of the user of a URL, and of the host.
def urlPart (c : Char) : Bool := !anyOf ":/@" c && !isBlank c

theorem token_url_part (c : Char) (part : isTokenChar c = true ∨ c = '.') : urlPart c = true := by
  have code : c.toNat = 45 ∨ c.toNat = 46 ∨ 48 ≤ c.toNat ∧ c.toNat ≤ 57 ∨ 65 ≤ c.toNat ∧ c.toNat ≤ 122 := by
    simp only [isTokenChar, isAlnumAscii, isUpper, NetIP.isDigit, Bool.or_eq_true, Bool.and_eq_true, decide_eq_true_eq, char_le_iff,
      ← Char.toNat_inj, Char.reduceToNat] at part
    omega
  have outside : ¬ c ∈ [':', '/', '@'] := by
    simp only [List.mem_cons, List.not_mem_nil, or_false, ← Char.toNat_inj, Char.reduceToNat]
    omega
  have free : anyOf ":/@" c = false := Bool.eq_false_iff.mpr fun contains => outside (List.contains_iff_mem.mp contains)
  rw [urlPart, free, code_filled c (by omega)]
  rfl

structure TokenCut (pattern : Pattern) (before old after : List Char) : Prop where
  fact : CutFact table before old after
  part : ∀ c ∈ old, urlPart c = true
  source : CutFrom pattern (fun lead => lead = []) before old after

theorem token_cuts (pattern : Pattern) (takes : TakesTokens table pattern) :
    CutsInto pattern (fun _ => mark) mark (Holds pattern (fun _ _ => False) (TokenCut table pattern) mark) := by
  refine ⟨fun before c rest none' => ?_, fun before after made matched => ?_⟩
  · refine free_holds pattern (fun before taken after caught took empty => ?_) _ _ mark before c rest none'
    obtain ⟨_, _, shape, _⟩ := (takes.text before taken after caught took).2.starts
    rw [empty] at shape
    cases shape
  · obtain ⟨_, _, _, took⟩ := match_here_some pattern before after made matched
    obtain ⟨bounded, token⟩ := takes.text before made.text made.after made.groups took
    have joined := cut_joined mark (Holds pattern (fun _ _ => False) (TokenCut table pattern) mark) before [] made.text [] made
      (List.append_nil _).symm (fun _ first c later _ split => by cases (List.append_eq_nil_iff.mp split.symm).2)
      (fun rest isRest => ?_) (fun _ first c later _ split => by cases (List.append_eq_nil_iff.mp split.symm).2)
    · rw [List.nil_append, List.append_nil] at joined
      exact joined
    · have after' : readAll (held [] ++ rest) = made.after := isRest
      change TokenCut table pattern before made.text (readAll (held [] ++ rest))
      refine ⟨?_, fun c member => token_url_part c (token.chars c member), ?_⟩
      · rw [after']
        exact token_cut table before made.text made.after bounded token
      · exact cut_from pattern _ before after [] made.text [] made rest rfl matched (List.append_nil _).symm isRest

theorem not_marker_takes (before taken after : List Char) (caught : Caught) :
    Takes notMarkerFolded before taken after caught ↔ taken = [] ∧ caught = [] ∧ opens foldedMark after = false := by
  refine unless_spelled _ foldedMark (fun before taken after caught => ?_) before taken after caught
  rw [takes_assoc, foldedMark, spells_append]
  refine ⟨fun took => ?_, fun spelled => ?_⟩
  · obtain ⟨first, others, _, _, rfl, rfl, isFirst, middle, last, _, _, rfl, rfl, isMiddle, isLast⟩ := took
    obtain ⟨rfl, spelledFirst⟩ := (exact_spells _ _ _ _ _).mp isFirst
    obtain ⟨rfl, spelledMiddle⟩ := (takes_text _ _ _ _ _).mp isMiddle
    obtain ⟨rfl, spelledLast⟩ := (exact_spells _ _ _ _ _).mp isLast
    exact ⟨rfl, first, middle ++ last, rfl, spelledFirst, (spells_append _ _ _).mpr ⟨middle, last, rfl, spelledMiddle, spelledLast⟩⟩
  · obtain ⟨rfl, first, others, rfl, isFirst, spelled⟩ := spelled
    obtain ⟨middle, last, rfl, isMiddle, isLast⟩ := (spells_append _ _ _).mp spelled
    exact ⟨first, middle ++ last, [], [], rfl, rfl, (exact_spells _ _ _ _ _).mpr ⟨rfl, isFirst⟩, middle, last, [], [], rfl, rfl,
      (takes_text _ _ _ _ _).mpr ⟨rfl, isMiddle⟩, (exact_spells _ _ _ _ _).mpr ⟨rfl, isLast⟩⟩

-- A label, and a value behind it that is not the mark.
theorem labelled_takes (label : Pattern) (separates : Char → Bool) (takes : TakesLabels table separates label) (before taken after : List Char)
    (caught : Caught) : Takes (labelled label) before taken after caught ↔
      ∃ lead value, taken = lead ++ value ∧ caught = [("1", lead)] ∧ Takes label before lead (value ++ after) [] ∧
        opens foldedMark (value ++ after) = false ∧ value ≠ [] ∧ ∀ c ∈ value, isBlank c = false := by
  rw [labelled, takes_assoc]
  refine ⟨fun took => ?_, fun parts => ?_⟩
  · obtain ⟨lead, _, _, _, rfl, rfl, ⟨_, rfl, isLead⟩, nothing, value, _, _, rfl, rfl, isNothing, isValue⟩ := took
    obtain ⟨rfl, rfl, unmarked⟩ := (not_marker_takes _ _ _ _).mp isNothing
    obtain ⟨rfl, present, filled⟩ := takes_some _ _ _ _ _ isValue
    have none' := (takes.text _ _ _ _ isLead).1
    rw [none'] at isLead ⊢
    exact ⟨lead, value, rfl, rfl, isLead, unmarked, present, fun c member => (Bool.not_eq_true' _).mp (filled c member)⟩
  · obtain ⟨lead, value, rfl, rfl, isLead, unmarked, present, filled⟩ := parts
    have isValue := some_takes (fun c => !isBlank c) (lead.reverse ++ before) value after present
      (fun c member => (Bool.not_eq_true' _).mpr (filled c member))
    exact ⟨lead, value, [("1", lead)], [], rfl, rfl, ⟨[], rfl, isLead⟩, [], value, [], [], rfl, rfl,
      (not_marker_takes _ _ _ _).mpr ⟨rfl, rfl, unmarked⟩, isValue⟩

-- A character of a label that is followed by the mark.
def LabelHeld (separates : Char → Bool) (c : Char) (written : List Char) : Prop :=
  ∃ first later more, LabelText separates (first ++ c :: later) ∧ written = later ++ (mark ++ more)

structure ValueCut (label : Pattern) (before old after : List Char) : Prop where
  fact : CutFact table before old after
  filled : ∀ c ∈ old, isBlank c = false
  ended : after.head?.any (fun c => !isBlank c) = false
  source : CutFrom (labelled label) Seals before old after

theorem label_cuts (label : Pattern) (separates : Char → Bool) (takes : TakesLabels table separates label) :
    CutsInto (labelled label) keepLabel mark (Holds (labelled label) (LabelHeld separates) (ValueCut table label) mark) := by
  refine ⟨fun before c rest none' => ?_, fun before after made matched => ?_⟩
  · refine free_holds _ (fun before taken after caught took empty => ?_) _ _ mark before c rest none'
    obtain ⟨lead, value, split, _, _, _, present, _⟩ := (labelled_takes table label separates takes _ _ _ _).mp took
    rw [empty] at split
    exact present (List.append_eq_nil_iff.mp split.symm).2
  · obtain ⟨isMatch, _, _, took⟩ := match_here_some _ before after made matched
    obtain ⟨lead, value, isText, isGroups, isLead, _, present, filled⟩ := (labelled_takes table label separates takes _ _ _ _).mp took
    have labels := (takes.text _ _ _ _ isLead).2
    have ended := greedy_end _ _ before after made isMatch
    have joined := cut_joined mark (Holds (labelled label) (LabelHeld separates) (ValueCut table label) mark) before lead value [] made
      (by rw [isText, List.append_nil]) (fun rest first c later _ split => ?_) (fun rest isRest => ?_)
      (fun _ first c later _ split => by cases (List.append_eq_nil_iff.mp split.symm).2)
    · have isKept : keepLabel made = lead ++ (mark ++ []) := by
        rw [keepLabel, Match.group, isGroups, List.append_nil]
        rfl
      rw [isKept]
      exact joined
    · refine ⟨first, later, writeAll mark (held [] ++ rest), by rw [← split]; exact labels, ?_⟩
      rw [written_append, held_written, written_cons]
      rfl
    · have after' : readAll (held [] ++ rest) = made.after := isRest
      change ValueCut table label (lead.reverse ++ before) value (readAll (held [] ++ rest))
      refine ⟨?_, filled, ?_, ?_⟩
      · rw [after']
        exact value_cut table before lead value made.after separates labels present ended
      · rw [after']
        exact ended
      · exact cut_from (labelled label) Seals before after lead value [] made rest labels.sealing matched
          (by rw [isText, List.append_nil]) isRest

section Urls

def exactMark : List (Char → Bool) := letters mark

theorem not_exact_takes (before taken after : List Char) (caught : Caught) :
    Takes notMarker before taken after caught ↔ taken = [] ∧ caught = [] ∧ opens exactMark after = false :=
  unless_spelled _ exactMark (exact_spells redactedMarker) before taken after caught

def passwordPart (c : Char) : Bool := c ≠ '@' && !isBlank c

def urlLead (user : List Char) : List Char := "://".toList ++ (user ++ [':'])

theorem url_lead_takes (before taken after : List Char) (caught : Caught) :
    Takes (exact "://" ++ some' (.char fun c => !anyOf ":/@" c && !isBlank c) ++ exact ":") before taken after caught ↔
      caught = [] ∧ ∃ user, taken = urlLead user ∧ user ≠ [] ∧ ∀ c ∈ user, urlPart c = true := by
  rw [takes_assoc]
  refine ⟨fun took => ?_, fun parts => ?_⟩
  · obtain ⟨_, _, _, _, rfl, rfl, isScheme, user, _, _, _, rfl, rfl, isUser, isColon⟩ := took
    obtain ⟨rfl, rfl⟩ := (takes_exact _ _ _ _ _).mp isScheme
    obtain ⟨rfl, rfl⟩ := (takes_exact _ _ _ _ _).mp isColon
    obtain ⟨rfl, present, all⟩ := takes_some _ _ _ _ _ isUser
    exact ⟨rfl, user, rfl, present, all⟩
  · obtain ⟨rfl, user, rfl, present, all⟩ := parts
    exact ⟨"://".toList, user ++ [':'], [], [], rfl, rfl, (takes_exact _ _ _ _ _).mpr ⟨rfl, rfl⟩, user, [':'], [], [], rfl, rfl,
      some_takes _ _ _ _ present all, (takes_exact _ _ _ _ _).mpr ⟨rfl, rfl⟩⟩

theorem url_takes (before taken after : List Char) (caught : Caught) :
    Takes urlPassword before taken after caught ↔ ∃ user password, taken = urlLead user ++ (password ++ ['@']) ∧
      caught = [("2", ['@']), ("1", urlLead user)] ∧ (user ≠ [] ∧ ∀ c ∈ user, urlPart c = true) ∧
      opens exactMark (password ++ '@' :: after) = false ∧ password ≠ [] ∧ ∀ c ∈ password, passwordPart c = true := by
  rw [urlPassword, takes_assoc, takes_assoc]
  refine ⟨fun took => ?_, fun parts => ?_⟩
  · obtain ⟨lead, _, _, _, rfl, rfl, ⟨_, rfl, isLead⟩, nothing, _, _, _, rfl, rfl, isNothing, password, _, _, _, rfl, rfl, isPassword, _, rfl,
      isHost⟩ := took
    obtain ⟨rfl, user, rfl, present, all⟩ := (url_lead_takes _ _ _ _).mp isLead
    obtain ⟨rfl, rfl, unmarked⟩ := (not_exact_takes _ _ _ _).mp isNothing
    obtain ⟨rfl, filled, others⟩ := takes_some _ _ _ _ _ isPassword
    obtain ⟨rfl, rfl⟩ := (takes_exact _ _ _ _ _).mp isHost
    rw [List.append_assoc] at unmarked
    exact ⟨user, password, rfl, rfl, ⟨present, all⟩, unmarked, filled, others⟩
  · obtain ⟨user, password, rfl, rfl, ⟨present, all⟩, unmarked, filled, others⟩ := parts
    have isLead := (url_lead_takes before (urlLead user) (password ++ ['@'] ++ after) []).mpr ⟨rfl, user, rfl, present, all⟩
    refine ⟨urlLead user, password ++ ['@'], [("1", urlLead user)], [("2", ['@'])], rfl, rfl, ⟨[], rfl, isLead⟩, [], password ++ ['@'],
      [], [("2", ['@'])], rfl, rfl, (not_exact_takes _ _ _ _).mpr ⟨rfl, rfl, ?_⟩, password, ['@'], [], [("2", ['@'])], rfl, rfl,
      some_takes _ _ _ _ filled others, [], rfl, (takes_exact _ _ _ _ _).mpr ⟨rfl, rfl⟩⟩
    rw [List.append_assoc]
    exact unmarked

theorem url_seals (user : List Char) : Seals (urlLead user) :=
  ⟨':', List.mem_cons_self, (separator_outside ':' (.inl rfl)).2.2.2⟩

def UrlHeld (c : Char) (written : List Char) : Prop :=
  c ≠ ':' ∨ (∃ more, written = mark ++ more) ∨
    ∃ user more, (∀ d ∈ user, urlPart d = true) ∧ written = "//".toList ++ (user ++ ':' :: (mark ++ more))

structure UrlCut (before old after : List Char) : Prop where
  fact : CutFact table before old after
  part : ∀ c ∈ old, passwordPart c = true
  closed : after.head? = some '@'
  source : CutFrom urlPassword Seals before old after

theorem url_held (user first later more : List Char) (c : Char) (all : ∀ d ∈ user, urlPart d = true)
    (split : urlLead user = first ++ c :: later) : UrlHeld c (later ++ (mark ++ more)) := by
  have shape : urlLead user = ("://".toList ++ user) ++ [':'] := (List.append_assoc _ _ _).symm
  cases List.eq_nil_or_concat later with
  | inl last =>
      rw [last]
      exact .inr (.inl ⟨more, rfl⟩)
  | inr shaped =>
      obtain ⟨others, last, rfl⟩ := shaped
      rw [List.concat_eq_append] at split ⊢
      cases first with
      | nil =>
          obtain ⟨rfl, isLater⟩ := List.cons.inj split
          refine .inr (.inr ⟨user, more, all, ?_⟩)
          rw [← isLater]
          change ('/' :: '/' :: (user ++ [':'])) ++ (mark ++ more) = '/' :: '/' :: (user ++ ':' :: (mark ++ more))
          rw [List.cons_append, List.cons_append, List.append_assoc]
          rfl
      | cons d more' =>
          have inner : "//".toList ++ user = more' ++ c :: others := by
            have whole : ("//".toList ++ user) ++ [':'] = (more' ++ c :: others) ++ [last] := by
              have tail := (List.cons.inj split).2
              rw [List.append_assoc, List.append_assoc]
              exact tail
            exact (List.append_inj' whole rfl).1
          have member : c ∈ "//".toList ++ user := by
            rw [inner]
            exact List.mem_append_right _ List.mem_cons_self
          refine .inl fun colon => ?_
          cases List.mem_append.mp member with
          | inl slash =>
              rw [colon] at slash
              exact absurd slash (by decide)
          | inr inUser =>
              have part := all c inUser
              rw [colon] at part
              cases part

theorem url_cuts : CutsInto urlPassword keepLabelAndHost mark (Holds urlPassword UrlHeld (UrlCut table) mark) := by
  refine ⟨fun before c rest none' => ?_, fun before after made matched => ?_⟩
  · refine free_holds _ (fun before taken after caught took empty => ?_) _ _ mark before c rest none'
    obtain ⟨user, password, split, _⟩ := (url_takes _ _ _ _).mp took
    rw [empty] at split
    cases split
  · obtain ⟨_, _, _, took⟩ := match_here_some _ before after made matched
    obtain ⟨user, password, isText, isGroups, ⟨_, all⟩, _, present, others⟩ := (url_takes _ _ _ _).mp took
    have joined := cut_joined mark (Holds urlPassword UrlHeld (UrlCut table) mark) before (urlLead user) password ['@'] made isText
      (fun rest first c later _ split => ?_) (fun rest isRest => ?_) (fun rest first c later _ split => ?_)
    · have isKept : keepLabelAndHost made = urlLead user ++ (mark ++ ['@']) := by
        rw [keepLabelAndHost, keepLabel, Match.group, Match.group, isGroups, ← List.append_assoc]
        rfl
      rw [isKept]
      exact joined
    · have held' := url_held user first later (writeAll mark (held ['@'] ++ rest)) c all split
      have isWritten : writeAll mark (held later ++ .cut password :: (held ['@'] ++ rest)) =
          later ++ (mark ++ writeAll mark (held ['@'] ++ rest)) := by
        rw [written_append, held_written, written_cons]
        rfl
      change UrlHeld c (writeAll mark (held later ++ .cut password :: (held ['@'] ++ rest)))
      rw [isWritten]
      exact held'
    · have isHead : ((urlLead user).reverse ++ before).head? = some ':' := by
        rw [urlLead, List.reverse_append, List.reverse_append]
        rfl
      refine ⟨⟨⟨present, fun plain => ?_, fun plain => ?_⟩, fun p f isP isF => ?_⟩, others, rfl,
        cut_from urlPassword Seals before after (urlLead user) password ['@'] made rest (url_seals user) matched isText isRest⟩
      · rw [isHead] at plain
        cases plain
      · cases plain
      · rw [isHead] at isP
        cases isP
        exact adjacent_refused _ _ _ (separator_outside ':' (.inl rfl)).2.2.2
    · have isAt : c = '@' := by
        have member : c ∈ ['@'] := by
          rw [split]
          exact List.mem_append_right _ List.mem_cons_self
        exact List.mem_singleton.mp member
      rw [isAt]
      exact .inl (by decide)

end Urls

section Keys

-- A line that begins or ends a private key.
structure KeyLine (line : List Char) : Prop where
  starts : line ≠ []
  unstarred : '*' ∉ line
  foreign : 'N' ∈ line

theorem key_line_takes (lead : String) (present : 'N' ∈ lead.toList) (unstarred : '*' ∉ lead.toList) (before taken after : List Char)
    (caught : Caught) (took : Takes (privateKeyLine lead) before taken after caught) : KeyLine taken := by
  obtain ⟨_, last, _, _, rfl, _, ⟨first, middle, _, _, rfl, _, isFirst, isMiddle⟩, isLast⟩ := took
  obtain ⟨_, rfl⟩ := (takes_exact _ _ _ _ _).mp isFirst
  obtain ⟨_, rfl⟩ := (takes_exact _ _ _ _ _).mp isLast
  obtain ⟨_, all⟩ := takes_many true _ _ _ _ _ isMiddle
  have inside : 'N' ∈ lead.toList ++ middle ++ "PRIVATE KEY-----".toList := List.mem_append_left _ (List.mem_append_left _ present)
  refine ⟨List.ne_nil_of_mem inside, fun star => ?_, inside⟩
  rw [List.append_assoc, List.mem_append, List.mem_append] at star
  obtain inLead | inMiddle | inLast := star
  · exact unstarred inLead
  · cases all '*' inMiddle
  · exact absurd inLast (by decide)

structure KeyCut (before old after : List Char) : Prop where
  fact : CutFact table before old after
  dash : old.head? = some '-'
  source : CutFrom pemBlock (fun lead => lead = []) before old after

theorem key_line_ends (lead : String) (dash : lead.toList.head? = some '-') (before taken after : List Char) (caught : Caught)
    (took : Takes (privateKeyLine lead) before taken after caught) : taken.head? = some '-' ∧ taken.getLast? = some '-' := by
  obtain ⟨_, last, _, _, rfl, _, ⟨first, middle, _, _, rfl, _, isFirst, isMiddle⟩, isLast⟩ := took
  obtain ⟨_, rfl⟩ := (takes_exact _ _ _ _ _).mp isFirst
  obtain ⟨_, rfl⟩ := (takes_exact _ _ _ _ _).mp isLast
  refine ⟨?_, ?_⟩
  · rw [List.append_assoc, List.head?_append, dash]
    rfl
  · rw [List.getLast?_append]
    rfl

theorem key_takes (before taken after : List Char) (caught : Caught) (took : Takes pemBlock before taken after caught) :
    taken.head? = some '-' ∧ taken.getLast? = some '-' ∧ ' ' ∈ taken := by
  obtain ⟨_, final, _, _, rfl, _, ⟨begin', body, _, _, rfl, _, isBegin, _⟩, isFinal⟩ := took
  have opening := key_line_ends "-----BEGIN " rfl _ _ _ _ isBegin
  have closing := key_line_ends "-----END " rfl _ _ _ _ isFinal
  refine ⟨?_, ?_, ?_⟩
  · rw [List.append_assoc, List.head?_append, opening.1]
    rfl
  · rw [List.getLast?_append, closing.2]
    rfl
  · obtain ⟨_, last, _, _, rfl, _, _, isLast⟩ := isFinal
    obtain ⟨_, rfl⟩ := (takes_exact _ _ _ _ _).mp isLast
    exact List.mem_append_right _ (List.mem_append_right _ (by decide))

-- A key begins and ends with a character that is in no word.
theorem key_cut (before taken after : List Char) (caught : Caught) (took : Takes pemBlock before taken after caught) :
    CutFact table before taken after := by
  obtain ⟨opened, closed, _⟩ := key_takes before taken after caught took
  refine ⟨⟨fun empty => ?_, fun _ => ?_, fun _ => ?_⟩, fun p f _ isF => ?_⟩
  · rw [empty] at opened
    cases opened
  · rw [opened]
    rfl
  · rw [closed]
    rfl
  · rw [opened] at isF
    cases isF
    have refused : foldedMark.all (fun accepts => !accepts '-') = true := by decide
    refine adjacent_refused_next foldedMark p '-' fun accepts member => ?_
    exact (Bool.not_eq_true' _).mp (List.all_eq_true.mp refused accepts member)

theorem pem_cuts : CutsInto pemBlock (fun _ => redactedPEM.toList) redactedPEM.toList
    (Holds pemBlock (fun _ _ => False) (KeyCut table) redactedPEM.toList) := by
  refine ⟨fun before c rest none' => ?_, fun before after made matched => ?_⟩
  · refine free_holds _ (fun before taken after caught took empty => ?_) _ _ _ before c rest none'
    obtain ⟨_, last, _, _, rfl, _, _, isLast⟩ := took
    exact (key_line_takes _ (by decide) (by decide) _ _ _ _ isLast).starts (List.append_eq_nil_iff.mp empty).2
  · obtain ⟨_, _, _, took⟩ := match_here_some pemBlock before after made matched
    have joined := cut_joined redactedPEM.toList (Holds pemBlock (fun _ _ => False) (KeyCut table) redactedPEM.toList) before []
      made.text [] made (List.append_nil _).symm (fun _ first c later _ split => by cases (List.append_eq_nil_iff.mp split.symm).2)
      (fun rest isRest => ?_) (fun _ first c later _ split => by cases (List.append_eq_nil_iff.mp split.symm).2)
    · rw [List.nil_append, List.append_nil] at joined
      exact joined
    · have after' : readAll (held [] ++ rest) = made.after := isRest
      change KeyCut table before made.text (readAll (held [] ++ rest))
      refine ⟨?_, (key_takes _ _ _ _ took).1, ?_⟩
      · rw [after']
        exact key_cut table before made.text made.after made.groups took
      · exact cut_from pemBlock _ before after [] made.text [] made rest rfl matched (List.append_nil _).symm isRest

end Keys

end Substitutions

end AgenticNetops.Common
