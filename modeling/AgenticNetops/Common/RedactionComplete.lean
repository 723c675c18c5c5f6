import AgenticNetops.Common.RedactionPhases

set_option autoImplicit false

/- Two texts that differ in a secret only. Where the secret stands apart of what the earlier
   patterns take, and is not left alone for a mark at its beginning, both are redacted to
   the same text. -/
namespace AgenticNetops.Common

open Regex PyText

variable (table : CharTable)

section OwnLabel

theorem opens_closed (classes : List (Char → Bool)) (text after : List Char) (closed : opens classes text = false)
    (refused : ∀ accepts ∈ classes, after.head?.any accepts = false) : opens classes (text ++ after) = false := by
  induction classes generalizing text with
  | nil => cases closed
  | cons accepts others ih =>
      cases text with
      | nil =>
          cases after with
          | nil => rfl
          | cons c more =>
              change (accepts c && opens others more) = false
              rw [show accepts c = false from refused accepts List.mem_cons_self]
              rfl
      | cons c rest =>
          change (accepts c && opens others rest) = false at closed
          change (accepts c && opens others (rest ++ after)) = false
          cases here : accepts c with
          | false => rfl
          | true =>
              rw [here, Bool.true_and] at closed
              rw [ih rest closed fun other member => refused other (List.mem_cons_of_mem accepts member)]
              rfl

theorem blank_refused (after : List Char) (closed : after.head?.any (fun c => !isBlank c) = false) :
    ∀ accepts ∈ foldedMark, after.head?.any accepts = false := by
  intro accepts member
  cases after with
  | nil => rfl
  | cons c more => exact (separator_outside c (.inr ((Bool.not_eq_false' _).mp closed))).2.2.2 accepts member

-- A text is a label with a value behind it in one way only.
theorem label_shorter (separates : Char → Bool) (lead other rest more : List Char) (d : Char) (labels : LabelText separates lead)
    (labels' : LabelText separates other) (filled : isBlank d = false) (extra : List Char) (isLead : lead = other ++ extra)
    (same : extra ++ rest = d :: more) : extra = [] := by
  cases extra with
  | nil => rfl
  | cons c extra' =>
      obtain ⟨word, separator, blanks, rfl, isSeparator, _, _⟩ := labels'.separated
      have blank := after_separator separates lead word (blanks ++ c :: extra') separator labels
        (by rw [isLead, List.append_assoc, List.cons_append]) isSeparator c (List.mem_append_right _ List.mem_cons_self)
      rw [(List.cons.inj same).1, filled] at blank
      cases blank

theorem label_unique (separates : Char → Bool) (lead other rest more : List Char) (c d : Char) (labels : LabelText separates lead)
    (labels' : LabelText separates other) (filled : isBlank c = false) (filled' : isBlank d = false)
    (same : lead ++ (c :: rest) = other ++ (d :: more)) : lead = other := by
  cases List.append_eq_append_iff.mp same with
  | inl longer =>
      obtain ⟨extra, isOther, isRest⟩ := longer
      have none' := label_shorter separates other lead (d :: more) rest c labels' labels filled extra isOther isRest.symm
      rw [isOther, none', List.append_nil]
  | inr shorter =>
      obtain ⟨extra, isLead, isMore⟩ := shorter
      have none' := label_shorter separates lead other (c :: rest) more d labels labels' filled' extra isLead isMore.symm
      rw [isLead, none', List.append_nil]

theorem value_longer (value other after more extra : List Char) (closed : after.head?.any (fun c => !isBlank c) = false)
    (filled : ∀ c ∈ other, isBlank c = false) (isOther : other = value ++ extra) (isAfter : after = extra ++ more) : extra = [] := by
  cases extra with
  | nil => rfl
  | cons c extra' =>
      rw [isAfter] at closed
      have here := filled c (by rw [isOther]; exact List.mem_append_right _ List.mem_cons_self)
      change (!isBlank c) = false at closed
      rw [here] at closed
      cases closed

-- A value goes to the next blank.
theorem value_unique (value other after more : List Char) (closed : after.head?.any (fun c => !isBlank c) = false)
    (closed' : more.head?.any (fun c => !isBlank c) = false) (filled : ∀ c ∈ value, isBlank c = false) (filled' : ∀ c ∈ other, isBlank c = false)
    (same : value ++ after = other ++ more) : value = other ∧ after = more := by
  have isValue : value = other := by
    cases List.append_eq_append_iff.mp same with
    | inl longer =>
        obtain ⟨extra, isOther, isAfter⟩ := longer
        rw [isOther, value_longer value other after more extra closed filled' isOther isAfter, List.append_nil]
    | inr shorter =>
        obtain ⟨extra, isValue, isMore⟩ := shorter
        rw [isValue, value_longer other value more after extra closed' filled isValue isMore, List.append_nil]
  rw [isValue] at same
  exact ⟨isValue, List.append_cancel_left same⟩

variable (label : Pattern) (separates : Char → Bool) (takes : TakesLabels table separates label)
include takes

-- Behind a label the mark is left where it is.
theorem mark_unbegun (front lead after : List Char) (labels : Takes label front.reverse lead (mark ++ after) []) :
    Unbegun (labelled label) front.reverse (lead ++ mark) after := by
  have labelText := (takes.text _ _ _ _ labels).2
  refine untaken_unbegun _ _ _ _ fun first back taken behind caught split present isText took => ?_
  have inMark (start rest : List Char) (isMark : mark = start ++ rest) (isBack : back = rest) (filled : rest ≠ []) : False := by
    obtain ⟨lead', value, rfl, _, isLead, _⟩ := (labelled_takes table label separates takes _ _ _ _).mp took
    have text := (takes.text _ _ _ _ isLead).2
    rw [List.append_assoc] at isText
    cases List.append_eq_append_iff.mp isText with
    | inr shorter =>
        obtain ⟨extra, isRest, _⟩ := shorter
        obtain ⟨c, member, outside⟩ := text.foreign
        refine outside (mark_is.chars c ?_)
        rw [isMark, ← isBack, isRest]
        exact List.mem_append_right _ (List.mem_append_left _ member)
    | inl longer =>
        obtain ⟨extra, isLead', _⟩ := longer
        have last := mark_is.last
        rw [isMark, List.getLast?_append_of_ne_nil _ filled] at last
        refine text.unstarred ?_
        rw [isLead', isBack]
        exact List.mem_append_left _ (List.mem_of_getLast? last)
  cases List.append_eq_append_iff.mp split with
  | inl longer =>
      obtain ⟨extra, isFirst, isMark⟩ := longer
      exact inMark extra back isMark rfl present
  | inr shorter =>
      obtain ⟨extra, isLead, isBack⟩ := shorter
      cases extra with
      | nil =>
          rw [List.nil_append] at isBack
          exact inMark [] mark rfl isBack (mark_present mark mark_is)
      | cons c later =>
          refine label_stays table label separates takes c (later ++ (mark ++ after)) _ taken behind caught ⟨first, later, after, ?_, rfl⟩ ?_ took
          · rw [← isLead]
            exact labelText
          · rw [← isText, isBack, List.append_assoc]
            rfl

-- What the own pattern makes of the label and its secret.
theorem own_label (front lead secret after : List Char) (stands : Stands label [] front lead secret after) :
    subAfter (labelled label) keepLabel front.reverse (lead ++ (secret ++ after)) =
      lead ++ (mark ++ subAfter (labelled label) keepLabel (secret.reverse ++ (lead.reverse ++ front.reverse)) after) := by
  cases stands.unmarked with
  | inl same =>
      have labels := stands.labels
      rw [same] at labels
      have passed := sub_unbegun (labelled label) keepLabel front.reverse (lead ++ mark) after
        (mark_unbegun table label separates takes front lead after labels)
      rw [same, ← List.append_assoc lead, passed, List.reverse_append, List.append_assoc, List.append_assoc]
  | inr closed =>
      have text := (takes.text _ _ _ _ stands.labels).2
      have unmarked := opens_closed foldedMark secret after closed (blank_refused after stands.closed)
      have took : Takes (labelled label) front.reverse (lead ++ secret) after [("1", lead)] :=
        (labelled_takes table label separates takes _ _ _ _).mpr ⟨lead, secret, rfl, rfl, stands.labels, unmarked, stands.present, stands.filled⟩
      cases here : matchAt (labelled label) front.reverse (lead ++ (secret ++ after)) with
      | none => exact absurd took ((match_at_none _ _ _).mp here (lead ++ secret) after _ (List.append_assoc _ _ _).symm)
      | some made =>
          obtain ⟨_, split, took'⟩ := match_at_some (labelled label) front.reverse _ made here
          have ended := greedy_end _ _ _ _ made here
          obtain ⟨lead', value, isText, isGroups, isLead', _, present, filled⟩ := (labelled_takes table label separates takes _ _ _ _).mp took'
          have text' := (takes.text _ _ _ _ isLead').2
          rw [isText, List.append_assoc] at split
          have sameLead : lead = lead' := by
            cases shape : secret with
            | nil => exact absurd shape stands.present
            | cons c rest =>
                cases shape' : value with
                | nil => exact absurd shape' present
                | cons d more =>
                    rw [shape, shape'] at split
                    exact label_unique separates lead lead' _ _ c d text text' (stands.filled c (by rw [shape]; exact List.mem_cons_self))
                      (filled d (by rw [shape']; exact List.mem_cons_self)) split
          rw [← sameLead] at split isText isGroups
          obtain ⟨rfl, rfl⟩ := value_unique secret value after made.after stands.closed ended stands.filled filled (List.append_cancel_left split)
          have filledText : made.text ≠ [] := by
            rw [isText]
            exact fun empty => stands.present (List.append_eq_nil_iff.mp empty).2
          have kept : keepLabel made = lead ++ mark := by
            rw [keepLabel, Match.group, isGroups]
            rfl
          rw [sub_after_match (labelled label) keepLabel _ _ made (match_here_filled _ _ _ made here filledText), kept, isText, List.reverse_append,
            List.append_assoc, List.append_assoc]

theorem own_label_same (blind : label.blind = true) (front lead secret other after : List Char) (stands : Stands label [] front lead secret after)
    (stands' : Stands label [] front lead other after) :
    sub (labelled label) keepLabel (front ++ (lead ++ (secret ++ after))) = sub (labelled label) keepLabel (front ++ (lead ++ (other ++ after))) := by
  have cutter := label_cutter table label separates takes blind
  have labelText := (takes.text _ _ _ _ stands.labels).2
  obtain ⟨f, _, isFront, _⟩ := sub_parted (labelled label) keepLabel mark _ cutter.cuts [] front (lead ++ (secret ++ after))
    (front_ends (labelled label) front lead secret after stands.own)
  obtain ⟨f', _, isFront', _⟩ := sub_parted (labelled label) keepLabel mark _ cutter.cuts [] front (lead ++ (other ++ after))
    (front_ends (labelled label) front lead other after stands'.own)
  rw [List.append_nil] at isFront isFront'
  have sameFront := front_same (labelled label, keepLabel) cutter.solo front lead secret other after _ _
    (lead_present table label separates takes front lead secret after stands.labels) labelText.sealing stands.own stands'.own isFront isFront'
  have sameBehind := behind_same (labelled label, keepLabel) cutter.solo (secret.reverse ++ (lead.reverse ++ front.reverse))
    (other.reverse ++ (lead.reverse ++ front.reverse)) after (closed_blank after stands.closed)
  calc sub (labelled label) keepLabel (front ++ (lead ++ (secret ++ after)))
      = writeAll mark f ++ (lead ++ (mark ++ subAfter (labelled label) keepLabel (secret.reverse ++ (lead.reverse ++ front.reverse)) after)) := by
        rw [← own_label table label separates takes front lead secret after stands]
        exact isFront
    _ = writeAll mark f' ++ (lead ++ (mark ++ subAfter (labelled label) keepLabel (other.reverse ++ (lead.reverse ++ front.reverse)) after)) := by
        rw [sameFront, sameBehind]
    _ = sub (labelled label) keepLabel (front ++ (lead ++ (other ++ after))) := by
        rw [← own_label table label separates takes front lead other after stands']
        exact isFront'.symm

end OwnLabel

section OwnUrl

theorem url_mark_unbegun (user before rest : List Char) (all : ∀ c ∈ user, urlPart c = true) :
    Unbegun urlPassword before (urlLead user ++ mark) ('@' :: rest) := by
  refine untaken_unbegun _ _ _ _ fun first back taken behind caught split present isText took => ?_
  obtain ⟨more, isTaken⟩ := (url_shape _ _ _ _ took).2.1
  have inMark (start rest' : List Char) (isMark : mark = start ++ rest') (isBack : back = rest') (filled : rest' ≠ []) : False := by
    cases rest' with
    | nil => exact filled rfl
    | cons c others =>
        rw [isBack, isTaken] at isText
        have colon : ':' ∈ mark := by
          rw [isMark, (List.cons.inj isText).1]
          exact List.mem_append_right _ List.mem_cons_self
        exact absurd colon (by decide)
  cases List.append_eq_append_iff.mp split with
  | inl longer =>
      obtain ⟨extra, _, isMark⟩ := longer
      exact inMark extra back isMark rfl present
  | inr shorter =>
      obtain ⟨extra, isLead, isBack⟩ := shorter
      cases extra with
      | nil => exact inMark [] mark rfl isBack (mark_present mark mark_is)
      | cons c later =>
          refine url_stays c (later ++ (mark ++ '@' :: rest)) _ taken behind caught (url_held user first later _ c all isLead) ?_ took
          rw [← isText, isBack, List.append_assoc]
          rfl

theorem own_url (before user secret rest : List Char) (users : user ≠ [] ∧ ∀ c ∈ user, urlPart c = true) (present : secret ≠ [])
    (parts : ∀ c ∈ secret, passwordPart c = true) (unmarked : secret = mark ∨ opens exactMark secret = false) :
    subAfter urlPassword keepLabelAndHost before (urlLead user ++ (secret ++ '@' :: rest)) =
      urlLead user ++ (mark ++ '@' :: subAfter urlPassword keepLabelAndHost ('@' :: (secret.reverse ++ ((urlLead user).reverse ++ before))) rest) := by
  have atFree (text : List Char) (all : ∀ c ∈ text, passwordPart c = true) : '@' ∉ text := fun member => by cases all '@' member
  have colonFree (text : List Char) (all : ∀ c ∈ text, urlPart c = true) : ':' ∉ text := fun member => by cases all ':' member
  cases unmarked with
  | inl same =>
      have passed := sub_unbegun urlPassword keepLabelAndHost before _ _ (url_mark_unbegun user before rest users.2)
      have kept := sub_after_kept urlPassword keepLabelAndHost ((urlLead user ++ mark).reverse ++ before) rest '@'
        (closing_kept _ url_solo _ rest '@' (.inr rfl))
      rw [same, ← List.append_assoc (urlLead user) mark, passed, kept, List.reverse_append, List.append_assoc, List.append_assoc]
  | inr closed =>
      have open' : opens exactMark (secret ++ '@' :: rest) = false :=
        opens_closed exactMark secret ('@' :: rest) closed fun accepts member => at_refused accepts member
      have took : Takes urlPassword before (urlLead user ++ (secret ++ ['@'])) rest [("2", ['@']), ("1", urlLead user)] :=
        (url_takes _ _ _ _).mpr ⟨user, secret, rfl, rfl, users, open', present, parts⟩
      have shape : urlLead user ++ (secret ++ '@' :: rest) = (urlLead user ++ (secret ++ ['@'])) ++ rest := by
        simp only [List.append_assoc, List.cons_append, List.nil_append]
      cases here : matchAt urlPassword before (urlLead user ++ (secret ++ '@' :: rest)) with
      | none => exact absurd took ((match_at_none _ _ _).mp here _ rest _ shape)
      | some made =>
          obtain ⟨_, split, took'⟩ := match_at_some urlPassword before _ made here
          obtain ⟨user', password, isText, isGroups, users', _, _, parts'⟩ := (url_takes _ _ _ _).mp took'
          have whole : user ++ ':' :: (secret ++ '@' :: rest) = user' ++ ':' :: (password ++ '@' :: made.after) := by
            rw [isText] at split
            simp only [urlLead, List.append_assoc, List.cons_append, List.nil_append] at split
            exact List.append_cancel_left split
          obtain ⟨rfl, isRest⟩ := InnerText.cut_unique ':' user user' _ _ (colonFree user users.2) (colonFree user' users'.2) whole
          obtain ⟨rfl, isAfter⟩ := InnerText.cut_unique '@' secret password _ _ (atFree secret parts) (atFree password parts') isRest
          have filled : made.text ≠ [] := by
            rw [isText]
            exact List.cons_ne_nil _ _
          have kept : keepLabelAndHost made = urlLead user ++ (mark ++ ['@']) := by
            rw [keepLabelAndHost, keepLabel, Match.group, Match.group, isGroups, ← List.append_assoc]
            rfl
          rw [sub_after_match urlPassword keepLabelAndHost _ _ made (match_here_filled _ _ _ made here filled), kept, isText, ← isAfter]
          simp only [List.reverse_append, List.append_assoc, List.cons_append, List.nil_append, List.reverse_cons, List.reverse_nil]

end OwnUrl

section Runs
variable (label : Pattern) (separates : Char → Bool) (takes : TakesLabels table separates label)

def redactWith (entries : List (Pattern × (Match → List Char))) (text : List Char) : List Char :=
  entries.foldl (fun redacted entry => sub entry.1 entry.2 redacted) text

theorem with_nil (text : List Char) : redactWith [] text = text := rfl

theorem with_cons (pattern : Pattern) (replacement : Match → List Char) (rest : List (Pattern × (Match → List Char))) (text : List Char) :
    redactWith ((pattern, replacement) :: rest) text = redactWith rest (sub pattern replacement text) := rfl

theorem with_append (first second : List (Pattern × (Match → List Char))) (text : List Char) :
    redactWith (first ++ second) text = redactWith second (redactWith first text) := List.foldl_append

-- The entries in front of every label.
def firstEntries : List (Pattern × (Match → List Char)) :=
  [(pemBlock, fun _ => redactedPEM.toList), (urlPassword, keepLabelAndHost), (awsKey table, fun _ => mark), (providerKey table, fun _ => mark)]

-- An entry about a label with a value.
def LabelEntry (entry : Pattern × (Match → List Char)) : Prop :=
  ∃ label separates, TakesLabels table separates label ∧ label.blind = true ∧ entry = (labelled label, keepLabel)

theorem label_kinds (entries : List (Pattern × (Match → List Char))) (each : ∀ entry ∈ entries, LabelEntry table entry) :
    ∀ entry ∈ entries, Kind table entry := by
  intro entry member
  obtain ⟨label, separates, takes, _, rfl⟩ := each entry member
  exact .label label separates takes

include takes

theorem stands_twins (entry : Pattern × (Match → List Char)) (holds : List Char → Piece → List Piece → Prop) (marked : List Char)
    (cutter : Cutter table entry marked holds) (rest : List (Pattern × (Match → List Char))) (front lead secret other after : List Char)
    (stands : Stands label (entry :: rest) front lead secret after) (stands' : Stands label (entry :: rest) front lead other after) :
    ∃ F A S S', Turns entry marked holds front lead secret after F S A ∧ Turns entry marked holds front lead other after F S' A ∧
      sub entry.1 entry.2 (front ++ (lead ++ (secret ++ after))) = F ++ (lead ++ (S ++ A)) ∧
      sub entry.1 entry.2 (front ++ (lead ++ (other ++ after))) = F ++ (lead ++ (S' ++ A)) := by
  have text := (takes.text _ _ _ _ stands.labels).2
  obtain ⟨F, A, S, S', turns, turns'⟩ := twins_turn table entry marked holds cutter front lead secret other after
    (lead_present table label separates takes front lead secret after stands.labels) text.sealing (closed_blank after stands.closed)
    (stands.fronts _ List.mem_cons_self) (stands.inners _ List.mem_cons_self) (stands'.fronts _ List.mem_cons_self)
    (stands'.inners _ List.mem_cons_self)
  exact ⟨F, A, S, S', turns, turns', turns_sub _ _ _ front lead secret after F S A turns, turns_sub _ _ _ front lead other after F S' A turns'⟩

theorem labels_run (entries : List (Pattern × (Match → List Char))) (each : ∀ entry ∈ entries, LabelEntry table entry)
    (front lead secret other after : List Char) (stands : Stands label entries front lead secret after)
    (stands' : Stands label entries front lead other after) :
    ∃ F A S S', redactWith entries (front ++ (lead ++ (secret ++ after))) = F ++ (lead ++ (S ++ A)) ∧
      redactWith entries (front ++ (lead ++ (other ++ after))) = F ++ (lead ++ (S' ++ A)) ∧
      Stands label [] F lead S A ∧ Stands label [] F lead S' A := by
  induction entries generalizing front secret other after with
  | nil => exact ⟨front, after, secret, other, rfl, rfl, stands, stands'⟩
  | cons entry rest ih =>
      have later (entry : Pattern × (Match → List Char)) (member : entry ∈ rest) := each entry (List.mem_cons_of_mem _ member)
      have kinds := label_kinds table rest later
      obtain ⟨label', separates', takes', blind, rfl⟩ := each entry List.mem_cons_self
      have cutter := label_cutter table label' separates' takes' blind
      obtain ⟨F, A, S, S', turns, turns', first, second⟩ :=
        stands_twins table label separates takes _ _ _ cutter rest front lead secret other after stands stands'
      have moved := label_phase table label separates takes rest front lead secret after F S A label' separates' takes' blind stands kinds turns
      have moved' := label_phase table label separates takes rest front lead other after F S' A label' separates' takes' blind stands' kinds turns'
      obtain ⟨F₂, A₂, S₂, S₂', isFirst, isSecond, stands₂, stands₂'⟩ := ih later F S S' A moved moved'
      refine ⟨F₂, A₂, S₂, S₂', ?_, ?_, stands₂, stands₂'⟩
      · rw [← isFirst, ← first]
        rfl
      · rw [← isSecond, ← second]
        rfl

-- Once the AWS keys are masked, a provider's key in the secret is apart as it was.
theorem provider_left (rest : List (Pattern × (Match → List Char))) (kinds : ∀ entry ∈ rest, Kind table entry)
    (front lead secret after F S A : List Char)
    (stands : Stands label ((awsKey table, fun _ => mark) :: (providerKey table, fun _ => mark) :: rest) front lead secret after)
    (tokens : TokensApart table front lead secret after)
    (turns : Turns (awsKey table, fun _ => mark) mark (Holds (awsKey table) (fun _ _ => False) (TokenCut table (awsKey table)) mark)
      front lead secret after F S A) :
    Stands label ((providerKey table, fun _ => mark) :: rest) F lead S A ∧ TokenApart (providerKey table) True F lead S A := by
  have cutter := token_cutter table (awsKey table) (aws_key_takes table) rfl
  have allKinds : ∀ entry ∈ (providerKey table, fun _ => mark) :: rest, Kind table entry := by
    intro entry member
    cases List.mem_cons.mp member with
    | inl provider =>
        rw [provider]
        exact .token _ (provider_key_takes table)
    | inr other => exact kinds entry other
  obtain ⟨moved, masked⟩ := token_phase table label separates takes _ front lead secret after F S A (awsKey table) (aws_key_takes table) rfl
    (aws_whole table) True stands allKinds tokens.aws turns
  refine ⟨moved, ?_⟩
  cases masked with
  | inl isMark =>
      have inners : InnerApart (providerKey table) F lead S A := moved.inners _ List.mem_cons_self
      have foreign := token_foreign table (providerKey table) (provider_key_takes table)
      have unbegun := foreign_unbegun (providerKey table) F lead S A inners (by rw [isMark]; exact foreign)
      exact .inl fun part begins => absurd begins
        (begins_unbegun F lead S A (providerKey table) unbegun (token_present table _ (provider_key_takes table)) part)
  | inr kept =>
      obtain ⟨f, l, s, a, written, rfl, rfl, rfl, fades⟩ := kept
      refine token_apart_moved table _ mark _ cutter front lead secret after f l s a written _ (provider_key_takes table) _ _
        (lead_present table label separates takes front lead secret after stands.labels) stands.present fades (fun _ alone => ⟨?_, trivial⟩)
        tokens.provider
      exact written.idle (unbegun_of front lead secret after (awsKey table) alone)

-- The first four substitutions, then those of the labels before, then the label's own.
theorem label_hidden (blind : label.blind = true) (entries behind : List (Pattern × (Match → List Char)))
    (each : ∀ entry ∈ entries, LabelEntry table entry) (front lead secret other after : List Char)
    (stands : Stands label (firstEntries table ++ entries) front lead secret after)
    (stands' : Stands label (firstEntries table ++ entries) front lead other after)
    (spaced : KeysSpaced front lead secret after) (spaced' : KeysSpaced front lead other after)
    (tokens : TokensApart table front lead secret after) (tokens' : TokensApart table front lead other after) :
    redactWith (firstEntries table ++ (entries ++ (labelled label, keepLabel) :: behind)) (front ++ (lead ++ (secret ++ after))) =
      redactWith (firstEntries table ++ (entries ++ (labelled label, keepLabel) :: behind)) (front ++ (lead ++ (other ++ after))) := by
  have kinds := label_kinds table entries each
  have tokenKinds : ∀ entry ∈ (awsKey table, fun _ => mark) :: (providerKey table, fun _ => mark) :: entries, Kind table entry := by
    intro entry member
    cases List.mem_cons.mp member with
    | inl aws =>
        rw [aws]
        exact .token _ (aws_key_takes table)
    | inr others =>
        cases List.mem_cons.mp others with
        | inl provider =>
            rw [provider]
            exact .token _ (provider_key_takes table)
        | inr further => exact kinds entry further
  obtain ⟨F₁, A₁, S₁, S₁', turns₁, turns₁', first₁, second₁⟩ :=
    stands_twins table label separates takes _ _ _ (key_cutter table) _ front lead secret other after stands stands'
  obtain ⟨stands₁, tokens₁⟩ := key_phase table label separates takes _ front lead secret after F₁ S₁ A₁ stands tokenKinds spaced tokens turns₁
  obtain ⟨stands₁', tokens₁'⟩ := key_phase table label separates takes _ front lead other after F₁ S₁' A₁ stands' tokenKinds spaced' tokens' turns₁'
  obtain ⟨F₂, A₂, S₂, S₂', turns₂, turns₂', first₂, second₂⟩ :=
    stands_twins table label separates takes _ _ _ (url_cutter table) _ F₁ lead S₁ S₁' A₁ stands₁ stands₁'
  obtain ⟨stands₂, tokens₂⟩ := url_phase table label separates takes _ F₁ lead S₁ A₁ F₂ S₂ A₂ stands₁ tokenKinds tokens₁ turns₂
  obtain ⟨stands₂', tokens₂'⟩ := url_phase table label separates takes _ F₁ lead S₁' A₁ F₂ S₂' A₂ stands₁' tokenKinds tokens₁' turns₂'
  obtain ⟨F₃, A₃, S₃, S₃', turns₃, turns₃', first₃, second₃⟩ :=
    stands_twins table label separates takes _ _ _ (token_cutter table (awsKey table) (aws_key_takes table) rfl) _ F₂ lead S₂ S₂' A₂ stands₂ stands₂'
  obtain ⟨stands₃, provider₃⟩ := provider_left table label separates takes entries kinds F₂ lead S₂ A₂ F₃ S₃ A₃ stands₂ tokens₂ turns₃
  obtain ⟨stands₃', provider₃'⟩ := provider_left table label separates takes entries kinds F₂ lead S₂' A₂ F₃ S₃' A₃ stands₂' tokens₂' turns₃'
  obtain ⟨F₄, A₄, S₄, S₄', turns₄, turns₄', first₄, second₄⟩ :=
    stands_twins table label separates takes _ _ _ (token_cutter table (providerKey table) (provider_key_takes table) rfl) _ F₃ lead S₃ S₃' A₃
      stands₃ stands₃'
  have stands₄ := (token_phase table label separates takes entries F₃ lead S₃ A₃ F₄ S₄ A₄ (providerKey table) (provider_key_takes table) rfl
    (provider_whole table) True stands₃ kinds provider₃ turns₄).1
  have stands₄' := (token_phase table label separates takes entries F₃ lead S₃' A₃ F₄ S₄' A₄ (providerKey table) (provider_key_takes table) rfl
    (provider_whole table) True stands₃' kinds provider₃' turns₄').1
  obtain ⟨F, A, S, S', isFirst, isSecond, stands₅, stands₅'⟩ := labels_run table label separates takes entries each F₄ lead S₄ S₄' A₄ stands₄ stands₄'
  have shape (text : List Char) : redactWith (firstEntries table ++ (entries ++ (labelled label, keepLabel) :: behind)) text =
      redactWith behind (sub (labelled label) keepLabel (redactWith entries (sub (providerKey table) (fun _ => mark) (sub (awsKey table) (fun _ => mark)
        (sub urlPassword keepLabelAndHost (sub pemBlock (fun _ => redactedPEM.toList) text)))))) := by
    rw [with_append, with_append, firstEntries, with_cons, with_cons, with_cons, with_cons, with_cons, with_nil]
  rw [shape, shape, first₁, second₁, first₂, second₂, first₃, second₃, first₄, second₄, isFirst, isSecond,
    own_label_same table label separates takes blind F lead S S' A stands₅ stands₅']

end Runs

section Urls

-- The password of a URL that stands apart.
structure UrlStands (front user secret rest : List Char) : Prop where
  users : user ≠ [] ∧ ∀ c ∈ user, urlPart c = true
  present : secret ≠ []
  parts : ∀ c ∈ secret, passwordPart c = true
  own : FrontApart urlPassword front (urlLead user) secret ('@' :: rest)
  unmarked : secret = mark ∨ opens exactMark secret = false

theorem url_key_phase (front user secret rest F S A : List Char) (stands : UrlStands front user secret rest)
    (fronts : FrontApart pemBlock front (urlLead user) secret ('@' :: rest)) (inners : InnerApart pemBlock front (urlLead user) secret ('@' :: rest))
    (spaced : KeysSpaced front (urlLead user) secret ('@' :: rest))
    (turns : Turns (pemBlock, fun _ => redactedPEM.toList) redactedPEM.toList
      (Holds pemBlock (fun _ _ => False) (KeyCut table) redactedPEM.toList) front (urlLead user) secret ('@' :: rest) F S A) :
    ∃ rest', A = '@' :: rest' ∧ UrlStands F user S rest' := by
  obtain ⟨f, l, s, a, written, rfl, rfl, rfl⟩ := turns
  have stays := key_secret_stays table front (urlLead user) secret ('@' :: rest) f l s a written inners
    fun c member => (Bool.not_eq_true' _).mp (password_filled c (stands.parts c member))
  obtain ⟨rest', isAfter⟩ := List.head?_eq_some_iff.mp written.head
  have spacedPieces := keys_spaced table front (urlLead user) secret ('@' :: rest) f l s a written fronts spaced
  have own := url_front redactedPEM.toList (by decide) front (urlLead user) secret ('@' :: rest) ('@' :: rest') f written.parted.front
    (.inr ⟨rest', rest, rfl, rfl⟩) spacedPieces stands.own
  rw [stays_written redactedPEM.toList s secret stays]
  exact ⟨rest', isAfter, stands.users, stands.present, stands.parts, own, stands.unmarked⟩

include table in
theorem own_url_same (front user secret other rest : List Char) (stands : UrlStands front user secret rest)
    (stands' : UrlStands front user other rest) :
    sub urlPassword keepLabelAndHost (front ++ (urlLead user ++ (secret ++ '@' :: rest))) =
      sub urlPassword keepLabelAndHost (front ++ (urlLead user ++ (other ++ '@' :: rest))) := by
  have cutter := url_cutter table
  obtain ⟨f, _, isFront, _⟩ := sub_parted urlPassword keepLabelAndHost mark _ cutter.cuts [] front (urlLead user ++ (secret ++ '@' :: rest))
    (front_ends urlPassword front (urlLead user) secret ('@' :: rest) stands.own)
  obtain ⟨f', _, isFront', _⟩ := sub_parted urlPassword keepLabelAndHost mark _ cutter.cuts [] front (urlLead user ++ (other ++ '@' :: rest))
    (front_ends urlPassword front (urlLead user) other ('@' :: rest) stands'.own)
  rw [List.append_nil] at isFront isFront'
  have sameFront := front_same (urlPassword, keepLabelAndHost) url_solo front (urlLead user) secret other ('@' :: rest) _ _ (List.cons_ne_nil _ _)
    (url_seals user) stands.own stands'.own isFront isFront'
  have sameBehind := tail_same (urlPassword, keepLabelAndHost) url_solo (secret.reverse ++ ((urlLead user).reverse ++ front.reverse))
    (other.reverse ++ ((urlLead user).reverse ++ front.reverse)) rest '@'
  have here := own_url front.reverse user secret rest stands.users stands.present stands.parts stands.unmarked
  have here' := own_url front.reverse user other rest stands'.users stands'.present stands'.parts stands'.unmarked
  rw [here] at isFront
  rw [here', ← sameFront, ← show subAfter urlPassword keepLabelAndHost _ rest = subAfter urlPassword keepLabelAndHost _ rest from sameBehind] at isFront'
  exact isFront.trans isFront'.symm

include table in
theorem url_hidden (behind : List (Pattern × (Match → List Char))) (front user secret other rest : List Char)
    (stands : UrlStands front user secret rest) (stands' : UrlStands front user other rest)
    (fronts : FrontApart pemBlock front (urlLead user) secret ('@' :: rest)) (fronts' : FrontApart pemBlock front (urlLead user) other ('@' :: rest))
    (inners : InnerApart pemBlock front (urlLead user) secret ('@' :: rest)) (inners' : InnerApart pemBlock front (urlLead user) other ('@' :: rest))
    (spaced : KeysSpaced front (urlLead user) secret ('@' :: rest)) (spaced' : KeysSpaced front (urlLead user) other ('@' :: rest)) :
    redactWith ((pemBlock, fun _ => redactedPEM.toList) :: (urlPassword, keepLabelAndHost) :: behind)
        (front ++ (urlLead user ++ (secret ++ '@' :: rest))) =
      redactWith ((pemBlock, fun _ => redactedPEM.toList) :: (urlPassword, keepLabelAndHost) :: behind)
        (front ++ (urlLead user ++ (other ++ '@' :: rest))) := by
  have closed : Closed ('@' :: rest) := fun c more shape => .inr (List.cons.inj shape).1.symm
  obtain ⟨F, A, S, S', turns, turns'⟩ := twins_turn table _ _ _ (key_cutter table) front (urlLead user) secret other ('@' :: rest)
    (List.cons_ne_nil _ _) (url_seals user) closed fronts inners fronts' inners'
  have first := turns_sub _ _ _ front (urlLead user) secret ('@' :: rest) F S A turns
  have second := turns_sub _ _ _ front (urlLead user) other ('@' :: rest) F S' A turns'
  obtain ⟨rest₁, isAfter, moved⟩ := url_key_phase table front user secret rest F S A stands fronts inners spaced turns
  obtain ⟨rest₂, isAfter', moved'⟩ := url_key_phase table front user other rest F S' A stands' fronts' inners' spaced' turns'
  have sameRest : rest₂ = rest₁ := (List.cons.inj (isAfter'.symm.trans isAfter)).2
  rw [sameRest] at moved'
  rw [with_cons, with_cons, with_cons, with_cons, first, second, isAfter, own_url_same table F user S S' rest₁ moved moved']

end Urls

section Hidden

-- A credential that is redacted for what it is: no earlier pattern, and no earlier match of its own, reaches into its
-- label or out of its secret, the secret does not begin with a mark, and a token in it does not make it do so.
structure Apart (form : Form) (front lead secret after : List Char) : Prop where
  credential : Credential table form front lead secret after
  own : FrontApart (form.pattern table) front lead secret after
  fronts : ∀ entry ∈ form.earlier table, FrontApart entry.1 front lead secret after
  inners : ∀ entry ∈ form.earlier table, InnerApart entry.1 front lead secret after
  unmarked : secret = redactedMarker.toList ∨ opens form.marker secret = false
  keys : KeysSpaced front lead secret after
  tokens : form ≠ .url → TokensApart table front lead secret after

def labelEntries : List (Pattern × (Match → List Char)) := ((credentialPatterns table).drop 4).take 4

theorem label_entries : ∀ entry ∈ labelEntries table, LabelEntry table entry := by
  intro entry member
  simp only [labelEntries, credentialPatterns, List.drop_succ_cons, List.drop_zero, List.take_succ_cons, List.take_zero, List.mem_cons, List.not_mem_nil,
    or_false] at member
  obtain rfl | rfl | rfl | rfl := member
  · exact ⟨_, _, password_takes table, rfl, rfl⟩
  · exact ⟨_, _, api_key_takes table, rfl, rfl⟩
  · exact ⟨_, _, bearer_takes table, rfl, rfl⟩
  · exact ⟨_, _, authorization_takes table, rfl, rfl⟩

theorem label_apart (form : Form) (label : Pattern) (entries : List (Pattern × (Match → List Char))) (isUrl : form ≠ .url) (isLabel : form.label table = label)
    (isPattern : form.pattern table = labelled label) (isEarlier : form.earlier table = firstEntries table ++ entries)
    (front lead secret after : List Char) (apart : Apart table form front lead secret after) :
    Stands label (firstEntries table ++ entries) front lead secret after := by
  have credential := apart.credential
  have labels := credential.label
  have own := apart.own
  have fronts := apart.fronts
  have inners := apart.inners
  have unmarked := apart.unmarked
  have closed := credential.closed
  have chars := credential.chars
  rw [isLabel] at labels
  rw [isPattern] at own
  rw [isEarlier] at fronts inners
  cases form with
  | url => exact absurd rfl isUrl
  | password | apiKey | bearer | authorization | token =>
      exact ⟨labels, credential.present, fun c member => (Bool.not_eq_true' _).mp (chars c member), (Bool.not_eq_true' _).mp closed, own, fronts,
        inners, unmarked⟩

end Hidden

section Plain
variable (front lead secret after : List Char)

theorem absent_nowhere (pattern : Pattern) (absent : found pattern (front ++ (lead ++ (secret ++ after))) = false) (start stop : Nat) :
    ¬ Occurs' pattern front lead secret after start stop := by
  rintro ⟨before, taken, rest, caught, split, took, _, _⟩
  exact (not_found_iff pattern _).mp absent before taken rest caught split took

-- A credential in whose text no earlier pattern finds anything, and which nothing stands in front of.
theorem plain_apart (form : Form) (credential : Credential table form [] lead secret after)
    (absent : ∀ entry ∈ form.earlier table, found entry.1 (lead ++ (secret ++ after)) = false)
    (keys : found pemBlock (lead ++ (secret ++ after)) = false)
    (tokens : found (awsKey table) (lead ++ (secret ++ after)) = false ∧ found (providerKey table) (lead ++ (secret ++ after)) = false)
    (unmarked : opens form.marker secret = false) : Apart table form [] lead secret after := by
  have nowhere (pattern : Pattern) (none' : found pattern (lead ++ (secret ++ after)) = false) (part : List Char) :
      ¬ Begins' pattern [] lead secret after part := by
    rintro ⟨back, taken, behind, caught, split, _, isText, took⟩
    exact absent_nowhere [] lead secret after pattern none' _ _ (secret_place pattern [] lead secret after part back taken behind caught split isText took)
  have inners (pattern : Pattern) (none' : found pattern (lead ++ (secret ++ after)) = false) : InnerApart pattern [] lead secret after :=
    ⟨fun start stop occurs => absurd occurs (absent_nowhere [] lead secret after pattern none' start stop),
      fun start stop occurs => absurd occurs (absent_nowhere [] lead secret after pattern none' start stop)⟩
  refine ⟨credential, fun _ _ _ begins => absurd begins (Nat.not_lt_zero _), fun _ _ _ _ _ begins => absurd begins (Nat.not_lt_zero _),
    fun entry member => inners entry.1 (absent entry member), .inr unmarked,
    fun start stop occurs => absurd occurs (absent_nowhere [] lead secret after pemBlock keys start stop), fun _ => ⟨?_, ?_⟩⟩
  · exact .inl fun part begins => absurd begins (nowhere _ tokens.1 part)
  · exact .inl fun part begins => absurd begins (nowhere _ tokens.2 part)

theorem matched_takes (pattern : Pattern) (before taken rest : List Char) (caught : Caught)
    (matched : (matchAt pattern before (taken ++ rest)).map (fun made => (made.text, made.after, made.groups)) = some (taken, rest, caught)) :
    Takes pattern before taken rest caught := by
  obtain ⟨made, isMatch, parts⟩ := Option.map_eq_some_iff.mp matched
  obtain ⟨_, _, took⟩ := match_at_some pattern before _ made isMatch
  obtain ⟨rfl, more⟩ := Prod.mk.inj parts
  obtain ⟨rfl, rfl⟩ := Prod.mk.inj more
  exact took

-- For ASCII text the table is not asked.
def bareTable : CharTable := ⟨fun _ => false, fun _ => false, fun _ => none, id⟩

end Plain

end AgenticNetops.Common
