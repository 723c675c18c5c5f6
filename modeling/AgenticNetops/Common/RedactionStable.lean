import AgenticNetops.Common.RedactionCuts
import AgenticNetops.Lib.InnerText

set_option autoImplicit false

/- Redacted text is clean: a substitution leaves no match of its own pattern, and makes
   none of another. What a pattern takes of a redacted text, it took before. -/
namespace AgenticNetops.Common

open Regex PyText

variable (table : CharTable)

section Own

-- A substitution leaves no match of its own.
theorem own_absent (pattern : Pattern) (replacement : Match → List Char) (marked : List Char) (heldFact : Char → List Char → Prop)
    (cutFact : List Char → List Char → List Char → Prop) (cuts : CutsInto pattern replacement marked (Holds pattern heldFact cutFact marked))
    (returns : Returns pattern marked (Holds pattern heldFact cutFact marked))
    (stays : ∀ c written before taken rest caught, heldFact c written → c :: written = taken ++ rest → ¬ Takes pattern before taken rest caught)
    (text : List Char) : found pattern (sub pattern replacement text) = false := by
  obtain ⟨pieces, isRead, isWritten, along⟩ := sub_pieces pattern replacement marked _ cuts text
  rw [not_found_iff]
  intro front taken rest caught split took
  obtain ⟨before, free, c, later, taken', after, caught', rfl, place, split', took'⟩ :=
    returns pieces front taken rest caught along (by rw [isWritten, split]) took
  have here := along_split _ [] before (.kept free c) later along
  rw [List.append_nil] at here
  cases free with
  | true => exact here taken' after caught' split' took'
  | false => exact stays c (writeAll marked later) front.reverse taken rest caught here place took

end Own

-- What both marks have in common.
structure IsMark (marked : List Char) : Prop where
  first : marked.head? = some '*'
  last : marked.getLast? = some '*'
  chars : ∀ c ∈ marked, c ∈ redactedPEM.toList

theorem mark_is : IsMark mark := by
  have chars : mark.all (fun c => redactedPEM.toList.contains c) = true := by decide
  exact ⟨rfl, rfl, fun c member => List.contains_iff_mem.mp (List.all_eq_true.mp chars c member)⟩

theorem key_mark_is : IsMark redactedPEM.toList := ⟨rfl, rfl, fun _ member => member⟩

theorem mark_head (marked rest : List Char) (isMark : IsMark marked) : (marked ++ rest).head? = some '*' := by
  rw [List.head?_append, isMark.first]
  rfl

section Tokens
variable (marked : List Char) (isMark : IsMark marked) (holds : List Char → Piece → List Piece → Prop)
variable (facts : ∀ before old rest, holds before (.cut old) rest → CutFact table before old (readAll rest))
include facts

-- Where a word begins in the written text, one began before.
theorem word_opened (before after : List Piece) (along : Along holds [] (before ++ after)) (first : Char) (more more' : List Char)
    (plain : plainWord first = true) (reads : readAll after = first :: more)
    (opened : atBoundary (isWord table) ⟨(writeAll marked before).reverse, first :: more', []⟩ = true) :
    atBoundary (isWord table) ⟨(readAll before).reverse, readAll after, []⟩ = true := by
  have isWord' := plain_word table first plain
  have outside : (writeAll marked before).reverse.head?.any (isWord table) = false := by
    rw [atBoundary, List.head?_cons, Option.any_some, isWord', bne_iff_ne] at opened
    exact Bool.eq_false_iff.mpr opened
  have starts : (readAll after).head?.any plainWord = true := by
    rw [reads]
    exact plain
  have outside' := word_before marked (isWord table) plainWord holds (fun before old rest cut => (facts before old rest cut).edges) before after
    along starts outside
  rw [atBoundary, outside', reads, List.head?_cons, Option.any_some, isWord']
  rfl

include isMark in
theorem word_closed (before after : List Piece) (along : Along holds [] (before ++ after)) (word last : List Char)
    (part : ∀ c ∈ word, isTokenChar c = true ∨ c = '.') (present : word ≠ []) (reads : (readAll before).reverse = word.reverse ++ last)
    (other : List Char) (closed : atBoundary (isWord table) ⟨word.reverse ++ other, writeAll marked after, []⟩ = true) :
    atBoundary (isWord table) ⟨(readAll before).reverse, readAll after, []⟩ = true := by
  obtain ⟨front, c, rfl⟩ := (List.eq_nil_or_concat' word).resolve_left present
  have isLast (context : List Char) : ((front ++ [c]).reverse ++ context).head? = some c := by
    rw [List.reverse_append]
    rfl
  rw [atBoundary, isLast, Option.any_some] at closed
  rw [reads, atBoundary, isLast, Option.any_some]
  cases word' : isWord table c with
  | true =>
      rw [word', bne_iff_ne] at closed
      have plain := word_plain table c (part c (List.mem_append_right _ List.mem_cons_self)) word'
      have ends : (readAll before).reverse.head?.any plainWord = true := by
        rw [reads, isLast]
        exact plain
      have outside := word_after marked (isWord table) plainWord holds (fun before old rest cut => (facts before old rest cut).edges) before after
        along ends (Bool.eq_false_iff.mpr (Ne.symm closed))
      rw [outside]
      rfl
  | false =>
      -- The word goes on with a character that stayed, for no mark begins with a letter.
      rw [word', bne_iff_ne] at closed
      cases after with
      | nil => exact absurd rfl closed
      | cons piece others =>
          cases piece with
          | cut old =>
              refine absurd ?_ closed
              rw [written_cons, show (Piece.cut old).written marked = marked from rfl, mark_head marked _ isMark]
              rfl
          | kept free d => exact bne_iff_ne.mpr closed

-- A token of the written text, and where it stood before.
include isMark in
theorem token_moved (pattern : Pattern) (takes : TakesTokens table pattern) (pieces : List Piece) (front taken rest : List Char)
    (caught : Caught) (along : Along holds [] pieces) (stands : writeAll marked pieces = front ++ (taken ++ rest))
    (took : Takes pattern front.reverse taken rest caught) :
    ∃ before middle after, pieces = before ++ (middle ++ after) ∧ writeAll marked before = front ∧ Stays middle taken ∧
      Takes pattern (readAll before).reverse taken (readAll after) caught := by
  obtain ⟨bounded, token⟩ := takes.text front.reverse taken rest caught took
  have unstarred : '*' ∉ taken := by
    intro star
    cases token.chars '*' star with
    | inl part => cases part
    | inr dot => exact absurd dot (by decide)
  have foreign : ∃ c ∈ taken, c ∉ marked := by
    obtain ⟨c, member, outside⟩ := token.foreign
    exact ⟨c, member, fun inside => outside (isMark.chars c inside)⟩
  obtain ⟨before, middle, after, rfl, rfl, stays, rfl⟩ :=
    stays_between marked '*' pieces front taken rest isMark.first isMark.last unstarred foreign stands
  obtain ⟨first, more, rfl, listed⟩ := token.starts
  have plain : plainWord first = true := by
    have plain : ['A', 's', 'p', 'k', 'e'].all plainWord = true := by decide
    exact List.all_eq_true.mp plain first listed
  have reads := stays_read middle (first :: more) stays
  have opened := word_opened table marked holds facts before (middle ++ after) along first (more ++ readAll after)
    (more ++ writeAll marked after) plain (by rw [read_append, reads]; rfl) bounded.opened
  rw [read_append, reads] at opened
  have isBefore : (readAll (before ++ middle)).reverse = (first :: more).reverse ++ (readAll before).reverse := by
    rw [read_append, reads, List.reverse_append]
  have closed := word_closed table marked isMark holds facts (before ++ middle) after (by rw [List.append_assoc]; exact along)
    (first :: more) (readAll before).reverse token.chars (List.cons_ne_nil _ _) isBefore (writeAll marked before).reverse bounded.closed
  rw [isBefore] at closed
  exact ⟨before, middle, after, rfl, rfl, stays, takes.moves _ _ _ (readAll before).reverse (readAll after) caught took ⟨opened, closed⟩⟩

include isMark in
theorem token_returns (pattern : Pattern) (takes : TakesTokens table pattern) : Returns pattern marked holds := by
  intro pieces front taken rest caught along stands took
  obtain ⟨before, middle, after, rfl, rfl, stays, moved⟩ :=
    token_moved table marked isMark holds facts pattern takes pieces front taken rest caught along stands took
  have isRest : rest = writeAll marked after := by
    rw [written_append, written_append, stays_written marked middle taken stays] at stands
    exact (List.append_cancel_left (List.append_cancel_left stands)).symm
  cases stays with
  | nil =>
      obtain ⟨_, _, shape, _⟩ := (takes.text _ _ _ _ took).2.starts
      cases shape
  | @cons piece first others more isKept later =>
      obtain ⟨free, rfl⟩ := isKept
      refine ⟨before, free, first, others ++ after, first :: more, readAll after, caught, rfl, ?_, ?_, moved⟩
      · rw [written_append, stays_written marked others more later, isRest]
        rfl
      · rw [read_append, stays_read others more later]
        rfl

end Tokens

section Labels

theorem mark_opens (rest : List Char) : opens foldedMark (mark ++ rest) = true := rfl

theorem after_separator (separates : Char → Bool) (label front back : List Char) (separator : Char) (labels : LabelText separates label)
    (split : label = front ++ separator :: back) (isSeparator : separates separator = true) : ∀ c ∈ back, isBlank c = true := by
  obtain ⟨word, other, blanks, shape, _, wordFree, trails⟩ := labels.separated
  rw [shape] at split
  cases List.append_eq_append_iff.mp split with
  | inl longer =>
      obtain ⟨more, _, isRest⟩ := longer
      cases more with
      | nil =>
          rw [← (List.cons.inj isRest).2]
          exact trails
      | cons d more' =>
          intro c member
          refine trails c ?_
          rw [(List.cons.inj isRest).2]
          exact List.mem_append_right _ (List.mem_cons_of_mem _ member)
  | inr shorter =>
      obtain ⟨more, isWord, isRest⟩ := shorter
      cases more with
      | nil =>
          rw [(List.cons.inj isRest).2]
          exact trails
      | cons d more' =>
          have inside : separator ∈ word := by
            rw [isWord, (List.cons.inj isRest).1]
            exact List.mem_append_right _ List.mem_cons_self
          rw [wordFree separator inside] at isSeparator
          cases isSeparator

-- What stays of a label has the mark behind it, so it is no label with a value again.
theorem label_stays (label : Pattern) (separates : Char → Bool) (takes : TakesLabels table separates label) (c : Char) (written before taken rest : List Char)
    (caught : Caught) (isHeld : LabelHeld separates c written) (split : c :: written = taken ++ rest) :
    ¬ Takes (labelled label) before taken rest caught := by
  intro took
  obtain ⟨first, later, more, labels, rfl⟩ := isHeld
  obtain ⟨lead, value, rfl, _, isLead, unmarked, present, filled⟩ := (labelled_takes table label separates takes _ _ _ _).mp took
  have lead' := (takes.text _ _ _ _ isLead).2
  have whole : (c :: later) ++ (mark ++ more) = lead ++ (value ++ rest) := by
    rw [List.append_assoc] at split
    exact split
  cases List.append_eq_append_iff.mp whole with
  | inl longer =>
      obtain ⟨extra, isLead', isMark⟩ := longer
      cases extra with
      | nil =>
          rw [← show mark ++ more = value ++ rest from isMark, mark_opens] at unmarked
          cases unmarked
      | cons d extra' =>
          -- The lead would go on in the mark.
          have star : d = '*' := ((List.cons.inj isMark).1).symm
          refine lead'.unstarred ?_
          rw [isLead', star]
          exact List.mem_append_right _ List.mem_cons_self
  | inr shorter =>
      obtain ⟨extra, isLater, isValue⟩ := shorter
      cases extra with
      | nil =>
          rw [show value ++ rest = mark ++ more from isValue, mark_opens] at unmarked
          cases unmarked
      | cons d extra' =>
          -- The value would begin in the label, behind what separates it.
          obtain ⟨word, separator, blanks, rfl, isSeparator, _, _⟩ := lead'.separated
          have blankOnly := after_separator separates (first ++ c :: later) (first ++ word) (blanks ++ d :: extra') separator labels
            (by rw [isLater]; simp only [List.append_assoc, List.cons_append]) isSeparator
          cases value with
          | nil => exact present rfl
          | cons e value' =>
              have blank := blankOnly d (List.mem_append_right _ List.mem_cons_self)
              rw [← (List.cons.inj isValue).1, filled e List.mem_cons_self] at blank
              cases blank

-- What can be the value of a label.
structure ValueStart (text : List Char) : Prop where
  filled : ∃ c more, text = c :: more ∧ isBlank c = false
  unmarked : opens foldedMark text = false

theorem labelled_value (label : Pattern) (separates : Char → Bool) (takes : TakesLabels table separates label) (before lead value rest : List Char)
    (took : Takes label before lead (value ++ rest) []) (start : ValueStart (value ++ rest)) (present : value ≠ [])
    (filled : ∀ c ∈ value, isBlank c = false) : Takes (labelled label) before (lead ++ value) rest [("1", lead)] :=
  (labelled_takes table label separates takes _ _ _ _).mpr ⟨lead, value, rfl, rfl, took, start.unmarked, present, filled⟩

-- What is cut does not read as the mark, and what is written for it is the mark, or nothing that a mark could begin with.
structure Masks (marked : List Char) (holds : List Char → Piece → List Piece → Prop) : Prop where
  fact : ∀ before old rest, holds before (.cut old) rest → CutFact table before old (readAll rest)
  shown : marked = mark ∨ ∀ before old rest, holds before (.cut old) rest → old.head? = some '-'

variable (marked : List Char) (isMark : IsMark marked) (holds : List Char → Piece → List Piece → Prop) (masks : Masks table marked holds)
include masks

theorem folded_stays (free : Bool) (c : Char) (before : List Char) (rest : List Piece) (along : Along holds before (.kept free c :: rest))
    (unmarked : opens foldedMark (writeAll marked (.kept free c :: rest)) = false) :
    opens foldedMark (readAll (.kept free c :: rest)) = false := by
  refine Bool.eq_false_iff.mpr fun reads => ?_
  have stays := opens_stays marked holds foldedMark
    (fun before old rest cut => ⟨(masks.fact before old rest cut).edges.present, (masks.fact before old rest cut).apart⟩) (fun c => decide (c = '*'))
    foldedMark.tail rfl free c before rest along reads
  rw [unmarked] at stays
  cases stays

theorem value_start (before : List Char) (pieces : List Piece) (along : Along holds before pieces)
    (start : ValueStart (writeAll marked pieces)) : ValueStart (readAll pieces) := by
  obtain ⟨⟨c, more, shape, filled⟩, unmarked⟩ := start
  cases pieces with
  | nil => cases shape
  | cons piece others =>
      cases piece with
      | kept free d =>
          obtain ⟨rfl, _⟩ := List.cons.inj shape
          exact ⟨⟨d, readAll others, rfl, filled⟩, folded_stays table marked holds masks free d before others along unmarked⟩
      | cut old =>
          cases masks.shown with
          | inl same =>
              -- The mark is no value of a label.
              rw [same, written_cons, show (Piece.cut old).written mark = mark from rfl, mark_opens] at unmarked
              cases unmarked
          | inr dashes =>
              obtain ⟨tail, isOld⟩ := List.head?_eq_some_iff.mp (dashes before old others along.1)
              rw [isOld]
              exact ⟨⟨'-', tail ++ readAll others, rfl, rfl⟩, rfl⟩

-- A label of the written text with its value, and where it stood before.
include isMark in
theorem label_moved (label : Pattern) (separates : Char → Bool) (takes : TakesLabels table separates label) (pieces : List Piece)
    (front lead rest : List Char) (along : Along holds [] pieces) (stands : writeAll marked pieces = front ++ (lead ++ rest))
    (took : Takes label front.reverse lead rest []) (start : ValueStart rest) :
    ∃ before middle after, pieces = before ++ (middle ++ after) ∧ writeAll marked before = front ∧ Stays middle lead ∧
      writeAll marked after = rest ∧ Takes label (readAll before).reverse lead (readAll after) [] ∧ ValueStart (readAll after) := by
  have labels := (takes.text _ _ _ _ took).2
  have foreign : ∃ c ∈ lead, c ∉ marked := by
    obtain ⟨c, member, outside⟩ := labels.foreign
    exact ⟨c, member, fun inside => outside (isMark.chars c inside)⟩
  obtain ⟨before, middle, after, rfl, rfl, stays, rfl⟩ :=
    stays_between marked '*' pieces front lead rest isMark.first isMark.last labels.unstarred foreign stands
  have later := along_append holds _ middle after (along_append holds [] before (middle ++ after) along)
  obtain ⟨first, more, rfl, plain⟩ := labels.starts
  have reads := stays_read middle (first :: more) stays
  have opened := word_opened table marked holds masks.fact before (middle ++ after) along first (more ++ readAll after)
    (more ++ writeAll marked after) plain (by rw [read_append, reads]; rfl)
  rw [read_append, reads] at opened
  exact ⟨before, middle, after, rfl, rfl, stays, rfl, takes.moves _ _ _ _ _ [] took opened, value_start table marked holds masks _ after later start⟩

include isMark in
theorem label_returns (label : Pattern) (separates : Char → Bool) (takes : TakesLabels table separates label) :
    Returns (labelled label) marked holds := by
  intro pieces front taken rest caught along stands took
  obtain ⟨lead, value, rfl, rfl, isLead, unmarked, present, filled⟩ := (labelled_takes table label separates takes _ _ _ _).mp took
  have start : ValueStart (value ++ rest) := by
    cases value with
    | nil => exact absurd rfl present
    | cons c more => exact ⟨⟨c, more ++ rest, rfl, filled c List.mem_cons_self⟩, unmarked⟩
  rw [List.append_assoc] at stands
  obtain ⟨before, middle, after, rfl, rfl, stays, isAfter, moved, start'⟩ :=
    label_moved table marked isMark holds masks label separates takes pieces front lead (value ++ rest) along stands isLead start
  obtain ⟨⟨d, more, reads, isFilled⟩, unmarked'⟩ := start'
  obtain ⟨first, others, isWord, _⟩ := (takes.text _ _ _ _ isLead).2.starts
  rw [isWord] at stays
  cases stays with
  | @cons piece _ others' _ isKept stays' =>
      obtain ⟨free, rfl⟩ := isKept
      rw [isWord, reads] at moved
      rw [reads] at unmarked'
      refine ⟨before, free, first, others' ++ after, (first :: others) ++ [d], more, [("1", first :: others)], rfl, ?_, ?_, ?_⟩
      · rw [written_append, stays_written marked others' others stays', isAfter, isWord, List.append_assoc]
        rfl
      · rw [read_append, stays_read others' others stays', reads, List.append_assoc]
        rfl
      · refine labelled_value table label separates takes _ (first :: others) [d] more moved ⟨⟨d, more, rfl, isFilled⟩, unmarked'⟩
          (List.cons_ne_nil _ _) fun c member => ?_
        rw [List.mem_singleton.mp member]
        exact isFilled

end Labels

section Urls

theorem exact_opens (rest : List Char) : opens exactMark (mark ++ rest) = true := rfl

theorem mark_spelled : Spells foldedMark mark := by
  obtain ⟨taken, rest, split, spelled⟩ := (opens_iff foldedMark (mark ++ [])).mp (mark_opens [])
  have length := spelled.length_eq
  rw [List.append_nil] at split
  rw [List.append_inj_left (split.symm.trans (List.append_nil mark).symm) length.symm] at spelled
  exact spelled

theorem url_stays (c : Char) (written before taken rest : List Char) (caught : Caught) (isHeld : UrlHeld c written)
    (split : c :: written = taken ++ rest) : ¬ Takes urlPassword before taken rest caught := by
  intro took
  obtain ⟨user, password, rfl, _, ⟨_, all⟩, unmarked, _, _⟩ := (url_takes _ _ _ _).mp took
  have whole : c :: written = ':' :: '/' :: '/' :: (user ++ ':' :: (password ++ '@' :: rest)) := by
    rw [split]
    simp only [urlLead, List.append_assoc, List.cons_append, List.nil_append]
    rfl
  obtain ⟨rfl, rfl⟩ := List.cons.inj whole
  have colonFree (name : List Char) (parts : ∀ d ∈ name, urlPart d = true) : ':' ∉ name := fun member => by cases parts ':' member
  obtain other | ⟨more, isMark⟩ | ⟨user', more, all', isUser⟩ := isHeld
  · exact other rfl
  · cases (List.cons.inj isMark).1
  · obtain ⟨_, isMark⟩ := InnerText.cut_unique ':' user user' _ _ (colonFree user all) (colonFree user' all')
      (List.cons.inj (List.cons.inj isUser).2).2
    rw [isMark, exact_opens] at unmarked
    cases unmarked

variable (holds : List Char → Piece → List Piece → Prop)

-- How the characters of a part of a URL stay in that part: what goes is of its characters, or is at its end.
def Fits (part : Char → Bool) (stop : Char) : Prop :=
  ∃ inside : Char → Bool, inside stop = true ∧ (∀ c, part c = true → inside c = true) ∧
    ∀ before old rest, holds before (.cut old) rest → old ≠ [] ∧ (∀ c ∈ old, inside c = true) ∧
      ((∀ c ∈ old, part c = true) ∨ (readAll rest).head?.any inside = false)

theorem part_read (part : Char → Bool) (stop : Char) (fits : Fits holds part stop) (before : List Char) (first : List Piece) (free : Bool)
    (rest : List Piece) (along : Along holds before (first ++ .kept free stop :: rest)) (all : ∀ c ∈ writeAll mark first, part c = true) :
    (∀ c ∈ readAll first, part c = true) ∧ (first ≠ [] → readAll first ≠ []) := by
  obtain ⟨inside, isStop, isPart, cuts⟩ := fits
  induction first generalizing before with
  | nil => exact ⟨fun c member => (by cases member), fun present => absurd rfl present⟩
  | cons piece others ih =>
      rw [written_cons] at all
      have later := ih _ along.2 fun c member => all c (List.mem_append_right _ member)
      cases piece with
      | kept free' d =>
          have here := all d (List.mem_append_left _ List.mem_cons_self)
          exact ⟨List.forall_mem_cons.mpr ⟨here, later.1⟩, fun _ => List.cons_ne_nil _ _⟩
      | cut old =>
          obtain ⟨present, _, within⟩ := cuts before old _ along.1
          rw [read_cons]
          refine ⟨fun c member => ?_, fun _ empty => present (List.append_eq_nil_iff.mp empty).1⟩
          have parted : ∀ c ∈ old, part c = true := by
            refine within.resolve_right fun ended => ?_
            -- What comes behind is of the part, or is what ends it.
            cases others with
            | nil =>
                change inside stop = false at ended
                rw [isStop] at ended
                cases ended
            | cons next others' =>
                cases next with
                | kept free'' d =>
                    change inside d = false at ended
                    rw [isPart d (all d (List.mem_append_right _ List.mem_cons_self))] at ended
                    cases ended
                | cut old' =>
                    obtain ⟨present', all', _⟩ := cuts _ old' _ along.2.1
                    cases old' with
                    | nil => exact present' rfl
                    | cons d more =>
                        change inside d = false at ended
                        rw [all' d List.mem_cons_self] at ended
                        cases ended
          cases List.mem_append.mp member with
          | inl here => exact parted c here
          | inr further => exact later.1 c further

variable (facts : ∀ before old rest, holds before (.cut old) rest → CutFact table before old (readAll rest))
include facts

theorem exact_stays (free : Bool) (c : Char) (before : List Char) (rest : List Piece) (along : Along holds before (.kept free c :: rest))
    (unmarked : opens exactMark (writeAll mark (.kept free c :: rest)) = false) :
    opens exactMark (readAll (.kept free c :: rest)) = false := by
  refine Bool.eq_false_iff.mpr fun reads => ?_
  have stays := opens_stays mark holds exactMark (fun before old rest cut => ⟨(facts before old rest cut).edges.present,
    fun p f isP isF => adjacent_letters mark foldedMark mark_spelled p f ((facts before old rest cut).apart p f isP isF)⟩)
    (fun c => decide (c = '*')) exactMark.tail rfl free c before rest along reads
  rw [unmarked] at stays
  cases stays

theorem url_returns (user : Fits holds urlPart ':') (host : Fits holds passwordPart '@') : Returns urlPassword mark holds := by
  intro pieces front taken rest caught along stands took
  obtain ⟨name, password, rfl, rfl, ⟨present, all⟩, unmarked, filled, others⟩ := (url_takes _ _ _ _).mp took
  have parts : writeAll mark pieces = front ++ ("://".toList ++ (name ++ ':' :: (password ++ '@' :: rest))) := by
    rw [stands, urlLead]
    simp only [List.append_assoc, List.cons_append, List.nil_append]
  obtain ⟨before, scheme, after, rfl, rfl, stays, isAfter⟩ :=
    stays_between mark '*' pieces front "://".toList _ rfl rfl (by decide) ⟨':', by decide, by decide⟩ parts
  obtain ⟨named, freeName, later, rfl, rfl, isLater⟩ := kept_at mark after name _ ':' (by decide) isAfter
  obtain ⟨passed, freePassword, last, rfl, rfl, rfl⟩ := kept_at mark later password rest '@' (by decide) isLater
  have alongName := along_append holds _ scheme _ (along_append holds [] before _ along)
  have alongPassword := (along_append holds _ named _ alongName).2
  have namePart := part_read holds urlPart ':' user _ named freeName _ alongName all
  have passwordPart' := part_read holds passwordPart '@' host _ passed freePassword last alongPassword others
  have unmarked' : opens exactMark (readAll passed ++ '@' :: readAll last) = false := by
    cases passed with
    | nil => exact absurd rfl filled
    | cons piece more =>
        cases piece with
        | cut old =>
            rw [written_cons, List.append_assoc, show (Piece.cut old).written mark = mark from rfl, exact_opens] at unmarked
            cases unmarked
        | kept free c =>
            rw [← isLater] at unmarked
            have reads := exact_stays table holds facts free c _ (more ++ .kept freePassword '@' :: last) alongPassword unmarked
            rw [← List.cons_append, read_append] at reads
            exact reads
  have namePresent : readAll named ≠ [] := namePart.2 fun empty => present (by rw [empty]; rfl)
  have passwordPresent : readAll passed ≠ [] := passwordPart'.2 fun empty => filled (by rw [empty]; rfl)
  cases stays with
  | @cons piece _ slashes _ isKept stays' =>
      obtain ⟨free, rfl⟩ := isKept
      refine ⟨before, free, ':', slashes ++ (named ++ .kept freeName ':' :: (passed ++ .kept freePassword '@' :: last)),
        urlLead (readAll named) ++ (readAll passed ++ ['@']), readAll last, [("2", ['@']), ("1", urlLead (readAll named))], rfl, ?_, ?_, ?_⟩
      · rw [written_append, stays_written mark slashes _ stays', written_append, written_cons, written_append, written_cons]
        simp only [urlLead, List.append_assoc, List.cons_append, List.nil_append]
        rfl
      · rw [read_append, stays_read slashes _ stays', read_append, read_cons, read_append, read_cons]
        simp only [urlLead, List.append_assoc, List.cons_append, List.nil_append]
        rfl
      · exact (url_takes _ _ _ _).mpr ⟨readAll named, readAll passed, rfl, rfl, ⟨namePresent, namePart.1⟩, unmarked', passwordPresent,
          passwordPart'.1⟩

end Urls

section Keys

theorem key_lines_return (marked : List Char) (holds : List Char → Piece → List Piece → Prop) (first : marked.head? = some '*')
    (last : marked.getLast? = some '*') (foreign : 'N' ∉ marked) : Returns pemBlock marked holds := by
  intro pieces front taken rest caught along stands took
  obtain ⟨_, final, _, finalCaught, rfl, rfl, ⟨begin', body, beginCaught, bodyCaught, rfl, rfl, isBegin, isBody⟩, isFinal⟩ := took
  have opening := key_line_takes "-----BEGIN " (by decide) (by decide) _ _ _ _ isBegin
  have closing := key_line_takes "-----END " (by decide) (by decide) _ _ _ _ isFinal
  rw [List.append_assoc, List.append_assoc] at stands
  obtain ⟨before, opened, after, rfl, rfl, staysBegin, isAfter⟩ :=
    stays_between marked '*' pieces front begin' _ first last opening.unstarred ⟨'N', opening.foreign, foreign⟩ stands
  obtain ⟨between', closed, after', rfl, isBetween, staysFinal, isRest⟩ :=
    stays_between marked '*' after body final rest first last closing.unstarred ⟨'N', closing.foreign, foreign⟩ isAfter
  have readBegin := stays_read opened begin' staysBegin
  have readFinal := stays_read closed final staysFinal
  have taken : Takes pemBlock (readAll before).reverse (begin' ++ readAll between' ++ final) (readAll after')
      (finalCaught ++ ([] ++ beginCaught)) := by
    refine ⟨begin' ++ readAll between', final, [] ++ beginCaught, finalCaught, rfl, rfl, ⟨begin', readAll between', beginCaught, [], rfl, rfl, ?_, ?_⟩, ?_⟩
    · exact takes_plain _ rfl _ _ _ _ _ _ isBegin
    · exact many_takes false _ _ _ _ fun _ _ => rfl
    · exact takes_plain _ rfl _ _ _ _ _ _ isFinal
  cases staysBegin with
  | nil => exact absurd rfl opening.starts
  | @cons piece c others more isKept stays =>
      obtain ⟨free, rfl⟩ := isKept
      refine ⟨before, free, c, others ++ (between' ++ (closed ++ after')), (c :: more) ++ readAll between' ++ final, readAll after', _, rfl, ?_, ?_,
        taken⟩
      · rw [written_append, stays_written marked others more stays, isAfter, List.append_assoc, List.append_assoc]
        rfl
      · rw [read_append, stays_read others more stays, read_append, read_append, readFinal, List.append_assoc, List.append_assoc]
        rfl

end Keys

section Entries

-- The entries that are about tokens and labels.
inductive Kind : Pattern × (Match → List Char) → Prop where
  | token (pattern : Pattern) (takes : TakesTokens table pattern) : Kind (pattern, fun _ => mark)
  | label (label : Pattern) (separates : Char → Bool) (takes : TakesLabels table separates label) : Kind (labelled label, keepLabel)

-- How an entry cuts a text, as far as the patterns before it depend on that.
structure Safe (entry : Pattern × (Match → List Char)) (holds : List Char → Piece → List Piece → Prop) : Prop where
  cuts : CutsInto entry.1 entry.2 mark holds
  facts : ∀ before old rest, holds before (.cut old) rest → CutFact table before old (readAll rest)
  user : Fits holds urlPart ':'
  password : Fits holds passwordPart '@'

theorem url_part_password (c : Char) (part : urlPart c = true) : passwordPart c = true := by
  obtain ⟨outside, filled⟩ := (Bool.and_eq_true _ _).mp part
  refine (Bool.and_eq_true _ _).mpr ⟨decide_eq_true fun isAt => ?_, filled⟩
  rw [isAt] at outside
  cases outside

theorem password_filled (c : Char) (part : passwordPart c = true) : (!isBlank c) = true := ((Bool.and_eq_true _ _).mp part).2

theorem kind_safe (entry : Pattern × (Match → List Char)) (kind : Kind table entry) : ∃ holds, Safe table entry holds := by
  cases kind with
  | token pattern takes =>
      refine ⟨_, token_cuts table pattern takes, fun before old rest cut => cut.fact, ?_, ?_⟩
      · exact ⟨fun _ => true, rfl, fun _ _ => rfl, fun before old rest cut => ⟨cut.fact.edges.present, fun _ _ => rfl, .inl cut.part⟩⟩
      · exact ⟨fun _ => true, rfl, fun _ _ => rfl, fun before old rest cut =>
          ⟨cut.fact.edges.present, fun _ _ => rfl, .inl fun c member => url_part_password c (cut.part c member)⟩⟩
  | label label separates takes =>
      have filled (before old : List Char) (rest : List Piece) (cut : ValueCut table label before old (readAll rest)) :
          old ≠ [] ∧ (∀ c ∈ old, (!isBlank c) = true) ∧ (readAll rest).head?.any (fun c => !isBlank c) = false :=
        ⟨cut.fact.edges.present, fun c member => (Bool.not_eq_true' _).mpr (cut.filled c member), cut.ended⟩
      refine ⟨_, label_cuts table label separates takes, fun before old rest cut => cut.fact, ?_, ?_⟩
      · refine ⟨fun c => !isBlank c, rfl, fun c part => password_filled c (url_part_password c part), fun before old rest cut => ?_⟩
        exact ⟨(filled before old rest cut).1, (filled before old rest cut).2.1, .inr (filled before old rest cut).2.2⟩
      · refine ⟨fun c => !isBlank c, rfl, password_filled, fun before old rest cut => ?_⟩
        exact ⟨(filled before old rest cut).1, (filled before old rest cut).2.1, .inr (filled before old rest cut).2.2⟩

theorem kind_returns (entry : Pattern × (Match → List Char)) (kind : Kind table entry) (holds : List Char → Piece → List Piece → Prop)
    (facts : ∀ before old rest, holds before (.cut old) rest → CutFact table before old (readAll rest)) : Returns entry.1 mark holds := by
  cases kind with
  | token pattern takes => exact token_returns table mark mark_is holds facts pattern takes
  | label label separates takes => exact label_returns table mark mark_is holds ⟨facts, .inl rfl⟩ label separates takes

theorem kind_own (entry : Pattern × (Match → List Char)) (kind : Kind table entry) (text : List Char) :
    found entry.1 (sub entry.1 entry.2 text) = false := by
  cases kind with
  | token pattern takes =>
      have returns := kind_returns table _ (.token pattern takes) _ fun before old rest
        (cut : Holds pattern (fun _ _ => False) (TokenCut table pattern) mark before (.cut old) rest) => cut.fact
      exact own_absent pattern _ mark _ _ (token_cuts table pattern takes) returns (fun _ _ _ _ _ _ absurd' => absurd'.elim) text
  | label label separates takes =>
      have returns := kind_returns table _ (.label label separates takes) _ fun before old rest
        (cut : Holds (labelled label) (LabelHeld separates) (ValueCut table label) mark before (.cut old) rest) => cut.fact
      exact own_absent (labelled label) _ mark _ _ (label_cuts table label separates takes) returns (label_stays table label separates takes) text

theorem url_safe : Safe table (urlPassword, keepLabelAndHost) (Holds urlPassword UrlHeld (UrlCut table) mark) := by
  refine ⟨url_cuts table, fun before old rest cut => cut.fact, ?_, ?_⟩
  · refine ⟨passwordPart, rfl, url_part_password, fun before old rest cut => ⟨cut.fact.edges.present, cut.part, .inr ?_⟩⟩
    rw [cut.closed]
    rfl
  · exact ⟨fun _ => true, rfl, fun _ _ => rfl, fun before old rest cut => ⟨cut.fact.edges.present, fun _ _ => rfl, .inl cut.part⟩⟩

def kindEntries : List (Pattern × (Match → List Char)) := (credentialPatterns table).drop 2

theorem kinds (entry : Pattern × (Match → List Char)) (member : entry ∈ kindEntries table) : Kind table entry := by
  simp only [kindEntries, credentialPatterns, List.drop_succ_cons, List.drop_zero, List.mem_cons, List.not_mem_nil, or_false] at member
  obtain rfl | rfl | rfl | rfl | rfl | rfl | rfl | rfl := member
  · exact .token _ (aws_key_takes table)
  · exact .token _ (provider_key_takes table)
  · exact .label _ _ (password_takes table)
  · exact .label _ _ (api_key_takes table)
  · exact .label _ _ (bearer_takes table)
  · exact .label _ _ (authorization_takes table)
  · exact .label _ _ (token_takes table)
  · exact .token _ (jwt_takes table)

-- An entry leaves alone what an earlier one has cleaned.
def Keeps (earlier later : Pattern × (Match → List Char)) : Prop :=
  ∀ text, found earlier.1 text = false → found earlier.1 (sub later.1 later.2 text) = false

theorem entries_keep : (credentialPatterns table).Pairwise Keeps := by
  have keyKeeps (entry : Pattern × (Match → List Char)) (holds : List Char → Piece → List Piece → Prop) (safe : Safe table entry holds) :
      Keeps (pemBlock, fun _ => redactedPEM.toList) entry := fun text absent =>
    returns_absent _ _ _ mark holds safe.cuts (key_lines_return mark holds rfl rfl (by decide)) text absent
  have shape : credentialPatterns table =
      (pemBlock, fun _ => redactedPEM.toList) :: (urlPassword, keepLabelAndHost) :: kindEntries table := rfl
  rw [shape]
  refine .cons (fun entry member => ?_) (.cons (fun entry member => ?_) (List.pairwise_of_forall_mem_list fun earlier here later there => ?_))
  · cases List.mem_cons.mp member with
    | inl url =>
        rw [url]
        exact keyKeeps _ _ (url_safe table)
    | inr other =>
        obtain ⟨holds, safe⟩ := kind_safe table entry (kinds table entry other)
        exact keyKeeps entry holds safe
  · intro text absent
    obtain ⟨holds, safe⟩ := kind_safe table entry (kinds table entry member)
    exact returns_absent _ _ _ mark holds safe.cuts (url_returns table holds safe.facts safe.user safe.password) text absent
  · intro text absent
    obtain ⟨holds, safe⟩ := kind_safe table later (kinds table later there)
    exact returns_absent _ _ _ mark holds safe.cuts (kind_returns table earlier (kinds table earlier here) holds safe.facts) text absent

theorem entries_own (entry : Pattern × (Match → List Char)) (member : entry ∈ credentialPatterns table) (text : List Char) :
    found entry.1 (sub entry.1 entry.2 text) = false := by
  have shape : credentialPatterns table =
      (pemBlock, fun _ => redactedPEM.toList) :: (urlPassword, keepLabelAndHost) :: kindEntries table := rfl
  rw [shape] at member
  cases List.mem_cons.mp member with
  | inl pem =>
      rw [pem]
      exact own_absent pemBlock _ redactedPEM.toList _ _ (pem_cuts table) (key_lines_return redactedPEM.toList _ rfl rfl (by decide))
        (fun _ _ _ _ _ _ absurd' => absurd'.elim) text
  | inr others =>
      cases List.mem_cons.mp others with
      | inl url =>
          rw [url]
          have safe := url_safe table
          exact own_absent urlPassword _ mark _ _ safe.cuts (url_returns table _ safe.facts safe.user safe.password) url_stays text
      | inr other => exact kind_own table entry (kinds table entry other) text

theorem kept_absent (earlier : Pattern × (Match → List Char)) (entries : List (Pattern × (Match → List Char)))
    (keeps : ∀ later ∈ entries, Keeps earlier later) (text : List Char) (absent : found earlier.1 text = false) :
    found earlier.1 (entries.foldl (fun redacted entry => sub entry.1 entry.2 redacted) text) = false := by
  induction entries generalizing text with
  | nil => exact absent
  | cons entry rest ih =>
      exact ih (fun later member => keeps later (List.mem_cons_of_mem entry member)) _ (keeps entry List.mem_cons_self text absent)

theorem sub_all_absent (entries : List (Pattern × (Match → List Char)))
    (own : ∀ entry ∈ entries, ∀ text, found entry.1 (sub entry.1 entry.2 text) = false) (keeps : entries.Pairwise Keeps) (text : List Char) :
    (entries.any fun entry => found entry.1 (entries.foldl (fun redacted entry => sub entry.1 entry.2 redacted) text)) = false := by
  induction keeps generalizing text with
  | nil => rfl
  | @cons entry rest first _ ih =>
      rw [List.any_cons, List.foldl_cons, Bool.or_eq_false_iff]
      refine ⟨kept_absent entry rest first _ (own entry List.mem_cons_self text), ?_⟩
      exact ih (fun other member => own other (List.mem_cons_of_mem entry member)) _

theorem redacted_clean (text : List Char) : containsCredential table (redact table text) = false :=
  sub_all_absent (credentialPatterns table) (entries_own table) (entries_keep table) text

-- Redacted text has no credential, and redacting it once more changes nothing.
theorem redaction_stable (text : List Char) :
    redact table (redact table text) = redact table text ∧ containsCredential table (redact table text) = false :=
  ⟨redact_clean table _ (redacted_clean table text), redacted_clean table text⟩

end Entries

end AgenticNetops.Common
