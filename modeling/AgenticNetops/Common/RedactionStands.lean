import AgenticNetops.Common.RedactionSteps

set_option autoImplicit false

/- A labelled secret that stands apart of every earlier pattern stands apart after each of
   them: in front of it, in it and behind it nothing new begins. -/
namespace AgenticNetops.Common

open Regex PyText

variable (table : CharTable)

section Cutters

-- A substitution whose marks no pattern takes for anything.
structure Cutter (entry : Pattern × (Match → List Char)) (marked : List Char) (holds : List Char → Piece → List Piece → Prop) : Prop where
  solo : Solo entry
  cuts : CutsInto entry.1 entry.2 marked holds
  isMark : IsMark marked
  masks : Masks table marked holds

theorem key_cutter : Cutter table (pemBlock, fun _ => redactedPEM.toList) redactedPEM.toList
    (Holds pemBlock (fun _ _ => False) (KeyCut table) redactedPEM.toList) :=
  ⟨key_solo, pem_cuts table, key_mark_is, fun _ _ _ cut => cut.fact, .inr fun _ _ _ cut => cut.dash⟩

theorem url_cutter : Cutter table (urlPassword, keepLabelAndHost) mark (Holds urlPassword UrlHeld (UrlCut table) mark) :=
  ⟨url_solo, url_cuts table, mark_is, fun _ _ _ cut => cut.fact, .inl rfl⟩

theorem token_cutter (pattern : Pattern) (takes : TakesTokens table pattern) (blind : pattern.blind = true) :
    Cutter table (pattern, fun _ => mark) mark (Holds pattern (fun _ _ => False) (TokenCut table pattern) mark) :=
  ⟨token_solo table pattern takes blind, token_cuts table pattern takes, mark_is, fun _ _ _ cut => cut.fact, .inl rfl⟩

theorem label_cutter (label : Pattern) (separates : Char → Bool) (takes : TakesLabels table separates label) (blind : label.blind = true) :
    Cutter table (labelled label, keepLabel) mark (Holds (labelled label) (LabelHeld separates) (ValueCut table label) mark) :=
  ⟨label_solo table label separates takes blind, label_cuts table label separates takes, mark_is, fun _ _ _ cut => cut.fact, .inl rfl⟩

theorem marks_filled (marked : List Char) (isMark : IsMark marked) : ∀ c ∈ marked, isBlank c = false := by
  have filled : redactedPEM.toList.all (fun c => !isBlank c) = true := by decide
  exact fun c member => (Bool.not_eq_true' _).mp (List.all_eq_true.mp filled c (isMark.chars c member))

theorem mark_present (marked : List Char) (isMark : IsMark marked) : marked ≠ [] := by
  intro empty
  have starred := isMark.first
  rw [empty] at starred
  cases starred

end Cutters

section Pieces

theorem first_cut (pieces : List Piece) :
    Stays pieces (readAll pieces) ∨ ∃ ahead text old behind, pieces = ahead ++ .cut old :: behind ∧ Stays ahead text := by
  induction pieces with
  | nil => exact .inl .nil
  | cons piece others ih =>
      cases piece with
      | cut old => exact .inr ⟨[], [], old, others, rfl, .nil⟩
      | kept free c =>
          cases ih with
          | inl stays => exact .inl (.cons ⟨free, rfl⟩ stays)
          | inr found =>
              obtain ⟨ahead, text, old, behind, rfl, stays⟩ := found
              exact .inr ⟨.kept free c :: ahead, c :: text, old, behind, rfl, .cons ⟨free, rfl⟩ stays⟩

theorem opens_longer (classes : List (Char → Bool)) (text more : List Char) (long : classes.length ≤ text.length) :
    opens classes (text ++ more) = opens classes text := by
  induction classes generalizing text with
  | nil => rfl
  | cons accepts others ih =>
      cases text with
      | nil => cases long
      | cons c rest =>
          change (accepts c && opens others (rest ++ more)) = (accepts c && opens others rest)
          rw [ih rest (Nat.le_of_succ_le_succ long)]

theorem written_filled (marked : List Char) (isMark : IsMark marked) (pieces : List Piece) (filled : ∀ c ∈ readAll pieces, isBlank c = false) :
    ∀ c ∈ writeAll marked pieces, isBlank c = false := by
  induction pieces with
  | nil =>
      intro c member
      cases member
  | cons piece others ih =>
      have later := ih fun c member => filled c (by rw [read_cons]; exact List.mem_append_right _ member)
      intro c member
      rw [written_cons] at member
      cases List.mem_append.mp member with
      | inr further => exact later c further
      | inl here =>
          cases piece with
          | cut old => exact marks_filled marked isMark c here
          | kept free d => exact filled c (by rw [read_cons]; exact List.mem_append_left _ here)

theorem written_present (marked : List Char) (isMark : IsMark marked) (pieces : List Piece) (present : readAll pieces ≠ []) :
    writeAll marked pieces ≠ [] := by
  cases pieces with
  | nil => exact absurd rfl present
  | cons piece others =>
      rw [written_cons]
      cases piece with
      | kept free c => exact List.cons_ne_nil _ _
      | cut old => exact fun empty => mark_present marked isMark (List.append_eq_nil_iff.mp empty).1

-- In front of a word, a mark ends as little of one as what it stands for.
theorem word_kept (marked : List Char) (isMark : IsMark marked) (pieces : List Piece)
    (outside : (readAll pieces).reverse.head?.any (isWord table) = false) : (writeAll marked pieces).reverse.head?.any (isWord table) = false := by
  cases List.eq_nil_or_concat pieces with
  | inl empty =>
      rw [empty]
      rfl
  | inr shaped =>
      obtain ⟨others, piece, rfl⟩ := shaped
      rw [List.concat_eq_append] at outside ⊢
      rw [written_append, List.reverse_append]
      cases piece with
      | kept free c =>
          rw [read_append, List.reverse_append] at outside
          exact outside
      | cut old =>
          have shape : writeAll marked [Piece.cut old] = marked := List.append_nil marked
          rw [shape, List.head?_append, List.head?_reverse, isMark.last]
          rfl

end Pieces

section Standing

-- A labelled secret that no entry of the list reaches into, nor an earlier label of its own.
structure Stands (label : Pattern) (entries : List (Pattern × (Match → List Char))) (front lead secret after : List Char) : Prop where
  labels : Takes label front.reverse lead (secret ++ after) []
  present : secret ≠ []
  filled : ∀ c ∈ secret, isBlank c = false
  closed : after.head?.any (fun c => !isBlank c) = false
  own : FrontApart (labelled label) front lead secret after
  fronts : ∀ entry ∈ entries, FrontApart entry.1 front lead secret after
  inners : ∀ entry ∈ entries, InnerApart entry.1 front lead secret after
  unmarked : secret = mark ∨ opens foldedMark secret = false

-- Something that begins behind a part of the secret.
def Begins' (pattern : Pattern) (front lead secret after part : List Char) : Prop :=
  ∃ back taken behind caught, secret = part ++ back ∧ back ≠ [] ∧ back ++ after = taken ++ behind ∧
    Takes pattern (part.reverse ++ (lead.reverse ++ front.reverse)) taken behind caught

-- No token of the secret makes a mark of its beginning, unless the secret is one token alone.
def TokenApart (pattern : Pattern) (alone : Prop) (front lead secret after : List Char) : Prop :=
  (∀ part, Begins' pattern front lead secret after part → opens foldedMark (part ++ mark) = false) ∨
    (∃ caught, Takes pattern (lead.reverse ++ front.reverse) secret after caught) ∧ alone

variable (label : Pattern) (separates : Char → Bool) (takes : TakesLabels table separates label)

include takes in
theorem label_starts (front lead rest : List Char) (labels : Takes label front.reverse lead rest []) :
    ∃ e others, lead = e :: others ∧ isBlank e = false := by
  obtain ⟨first, more, isLead, plain⟩ := (takes.text _ _ _ _ labels).2.starts
  exact ⟨first, more, isLead, (plain_filled first plain).1⟩

theorem closed_blank (after : List Char) (closed : after.head?.any (fun c => !isBlank c) = false) : Closed after := by
  intro c more shape
  rw [shape] at closed
  exact .inl ((Bool.not_eq_false' _).mp closed)

variable (entry : Pattern × (Match → List Char)) (marked : List Char) (holds : List Char → Piece → List Piece → Prop)
variable (cutter : Cutter table entry marked holds) (front lead secret after : List Char) (f l s a : List Piece)
variable (written : Written entry marked holds front lead secret after f l s a)

include takes cutter written

theorem label_moves (stands : Takes label front.reverse lead (secret ++ after) []) :
    Takes label (writeAll marked f).reverse lead (writeAll marked s ++ writeAll marked a) [] := by
  refine takes.moves _ _ _ _ _ _ stands fun opened => ?_
  obtain ⟨first, more, rfl, plain⟩ := (takes.text _ _ _ _ stands).2.starts
  have isWord' := plain_word table first plain
  have outside : (readAll f).reverse.head?.any (isWord table) = false := by
    rw [written.parted.front]
    rw [atBoundary, List.cons_append, List.head?_cons, Option.any_some, isWord', bne_iff_ne] at opened
    exact Bool.eq_false_iff.mpr opened
  rw [atBoundary, word_kept table marked cutter.isMark f outside, List.cons_append, List.head?_cons, Option.any_some, isWord']
  rfl

-- One substitution, where the text in front and the secret stay what they were for later patterns.
theorem stands_moved (rest : List (Pattern × (Match → List Char))) (stands : Stands label (entry :: rest) front lead secret after)
    (joined : ∀ ahead behind, f = ahead ++ behind → (∀ c ∈ writeAll marked behind, isBlank c = false) → ∀ c ∈ readAll behind, isBlank c = false)
    (unmarked : writeAll marked s = mark ∨ opens foldedMark (writeAll marked s) = false)
    (others : ∀ other ∈ rest, Kind table other ∨
      FrontApart other.1 (writeAll marked f) lead (writeAll marked s) (writeAll marked a) ∧
        InnerApart other.1 (writeAll marked f) lead (writeAll marked s) (writeAll marked a)) :
    Stands label rest (writeAll marked f) lead (writeAll marked s) (writeAll marked a) := by
  have parted := written.parted
  have closed : (writeAll marked a).head?.any (fun c => !isBlank c) = false := by
    rw [written.head]
    exact stands.closed
  have starts := label_starts table label separates takes front lead (secret ++ after) stands.labels
  have fronts (label' : Pattern) (separates' : Char → Bool) (takes' : TakesLabels table separates' label')
      (apart : FrontApart (labelled label') front lead secret after) :=
    label_front table marked cutter.isMark holds cutter.masks front lead secret after f l s a parted joined starts label' separates' takes' apart
  refine ⟨label_moves table label separates takes entry marked holds cutter front lead secret after f l s a written stands.labels, ?_, ?_, closed,
    fronts label separates takes stands.own, fun other member => ?_, fun other member => ?_, unmarked⟩
  · refine written_present marked cutter.isMark s ?_
    rw [parted.secret]
    exact stands.present
  · refine written_filled marked cutter.isMark s ?_
    rw [parted.secret]
    exact stands.filled
  · have apart := stands.fronts other (List.mem_cons_of_mem _ member)
    cases others other member with
    | inr moved => exact moved.1
    | inl kind =>
        cases kind with
        | token pattern takes' =>
            exact token_front table marked cutter.isMark holds cutter.masks front lead secret after f l s a parted pattern takes' apart
        | label label' separates' takes' => exact fronts label' separates' takes' apart
  · have apart := stands.inners other (List.mem_cons_of_mem _ member)
    cases others other member with
    | inr moved => exact moved.2
    | inl kind =>
        cases kind with
        | token pattern takes' =>
            exact token_inner table marked cutter.isMark holds cutter.masks front lead secret after f l s a parted pattern takes' apart
        | label label' separates' takes' =>
            exact label_inner table marked cutter.isMark holds cutter.masks front lead secret after f l s a parted closed label' separates'
              takes' apart

end Standing

section Secrets
variable (entry : Pattern × (Match → List Char)) (marked : List Char) (holds : List Char → Piece → List Piece → Prop)
variable (cutter : Cutter table entry marked holds) (front lead secret after : List Char) (f l s a : List Piece)
variable (written : Written entry marked holds front lead secret after f l s a)

theorem written_empty (isMark : IsMark marked) (pieces : List Piece) (empty : (writeAll marked pieces).length = 0) : pieces = [] := by
  cases pieces with
  | nil => rfl
  | cons piece others =>
      have nothing := List.length_eq_zero_iff.mp empty
      rw [written_cons] at nothing
      cases piece with
      | kept free c => cases nothing
      | cut old => exact absurd (List.append_eq_nil_iff.mp nothing).1 (mark_present marked isMark)

theorem occurs_begins (pattern : Pattern) (part back : List Char) (stop : Nat) (split : secret = part ++ back) (present : back ≠ [])
    (occurs : Occurs' pattern front lead secret after (front ++ (lead ++ part)).length stop) : Begins' pattern front lead secret after part := by
  obtain ⟨before, taken, behind, caught, isText, took, isLength, _⟩ := occurs
  have shape : (front ++ (lead ++ part)) ++ (back ++ after) = before ++ (taken ++ behind) := by
    rw [← isText, split]
    simp only [List.append_assoc]
  obtain ⟨isBefore, isBack⟩ := List.append_inj shape isLength
  refine ⟨back, taken, behind, caught, split, present, isBack, ?_⟩
  rw [← isBefore, List.reverse_append, List.reverse_append, List.append_assoc] at took
  exact took

include cutter written

theorem within_secret (first rest : List Piece) (isFirst : f ++ (l ++ (s ++ a)) = first ++ rest)
    (from' : (writeAll marked f ++ lead).length ≤ (writeAll marked first).length)
    (below : (writeAll marked first).length < (writeAll marked f ++ (lead ++ writeAll marked s)).length) :
    ∃ s₁ s₂, first = f ++ (l ++ s₁) ∧ s = s₁ ++ s₂ ∧ s₂ ≠ [] := by
  have isLead : writeAll marked (f ++ l) = writeAll marked f ++ lead := by
    rw [written_append, stays_written marked l lead written.parted.lead]
  have isSecret : writeAll marked (f ++ (l ++ s)) = writeAll marked f ++ (lead ++ writeAll marked s) := by
    rw [written_append, written_append, stays_written marked l lead written.parted.lead]
  rw [← isLead] at from'
  rw [← isSecret] at below
  have split : (f ++ l) ++ (s ++ a) = first ++ rest := by
    rw [List.append_assoc]
    exact isFirst
  have inside (s₁ : List Piece) (shape : first = f ++ (l ++ s₁)) (ahead : ∃ s₂, s = s₁ ++ s₂) :
      ∃ s₁ s₂, first = f ++ (l ++ s₁) ∧ s = s₁ ++ s₂ ∧ s₂ ≠ [] := by
    obtain ⟨s₂, isS⟩ := ahead
    refine ⟨s₁, s₂, shape, isS, fun empty => ?_⟩
    rw [shape, isS, empty, List.append_nil] at below
    exact Nat.lt_irrefl _ below
  cases List.append_eq_append_iff.mp split with
  | inr shorter =>
      obtain ⟨extra, isLonger, _⟩ := shorter
      rw [isLonger, written_append, List.length_append] at from'
      have none' := written_empty marked cutter.isMark extra (by omega)
      rw [none', List.append_nil] at isLonger
      exact inside [] (by rw [← isLonger, List.append_nil]) ⟨s, rfl⟩
  | inl longer =>
      obtain ⟨s₁, isFirst', isRest⟩ := longer
      rw [List.append_assoc] at isFirst'
      cases List.append_eq_append_iff.mp isRest with
      | inr within => exact inside s₁ isFirst' ⟨within.choose, within.choose_spec.1⟩
      | inl beyond =>
          obtain ⟨extra, isLonger, _⟩ := beyond
          rw [isFirst', isLonger, ← List.append_assoc l, ← List.append_assoc f, written_append, List.length_append] at below
          omega

-- What is cut out of the secret goes with something that begins there.
theorem cut_source (leads : List Char → Prop)
    (source : ∀ before old rest, holds before (.cut old) rest → CutFrom entry.1 leads before old (readAll rest))
    (fronts : FrontApart entry.1 front lead secret after) (inners : InnerApart entry.1 front lead secret after) (ahead : List Piece)
    (text old : List Char) (behind : List Piece) (shape : s = ahead ++ .cut old :: behind) (stays : Stays ahead text) :
    ∃ part lead', text = part ++ lead' ∧ leads lead' ∧ Begins' entry.1 front lead secret after part := by
  have here : holds ((readAll (f ++ (l ++ ahead))).reverse ++ []) (.cut old) (behind ++ a) := by
    refine along_split holds [] (f ++ (l ++ ahead)) (.cut old) (behind ++ a) ?_
    have along := written.parted.along
    rw [shape] at along
    simp only [List.append_assoc, List.cons_append] at along ⊢
    exact along
  have present := (cutter.masks.fact _ _ _ here).edges.present
  have isAhead : readAll (f ++ (l ++ ahead)) = front ++ (lead ++ text) := by
    rw [read_append, read_append, written.parted.front, stays_read l lead written.parted.lead, stays_read ahead text stays]
  have isSecret : secret = text ++ (old ++ readAll behind) := by
    rw [← written.parted.secret, shape, read_append, read_cons, stays_read ahead text stays]
    rfl
  obtain ⟨lead', trail, start, rest, caught, isBefore, isAfter, isLead', took⟩ := source _ _ _ here
  rw [isAhead, List.append_nil] at isBefore
  rw [read_append, written.parted.after] at isAfter
  have place : (front ++ lead) ++ text = start.reverse ++ lead' := by
    have turned := congrArg List.reverse isBefore
    rw [List.reverse_reverse, List.reverse_append, List.reverse_reverse] at turned
    rw [List.append_assoc]
    exact turned
  have isText : front ++ (lead ++ (secret ++ after)) = start.reverse ++ ((lead' ++ (old ++ trail)) ++ rest) := by
    calc front ++ (lead ++ (secret ++ after)) = ((front ++ lead) ++ text) ++ (old ++ (readAll behind ++ after)) := by
          rw [isSecret]
          simp only [List.append_assoc]
      _ = start.reverse ++ ((lead' ++ (old ++ trail)) ++ rest) := by
          rw [place, isAfter]
          simp only [List.append_assoc]
  have occurs := occurs_place entry.1 front lead secret after start.reverse _ rest caught isText (by rw [List.reverse_reverse]; exact took)
  have isLength := congrArg List.length place
  have some_length := List.length_pos_iff.mpr present
  simp only [List.length_append, List.length_reverse] at isLength
  have past : ¬ start.reverse.length < (front ++ lead).length := by
    intro below
    by_cases inFront : start.reverse.length < front.length
    · have stops := fronts _ _ occurs inFront
      simp only [List.length_append, List.length_reverse] at stops
      omega
    · exact inners.label _ _ occurs (by omega) below
  have found (part : List Char) (isStart : start.reverse = (front ++ lead) ++ part) (isPart : text = part ++ lead') :
      ∃ part lead', text = part ++ lead' ∧ leads lead' ∧ Begins' entry.1 front lead secret after part := by
    refine ⟨part, lead', isPart, isLead', lead' ++ (old ++ readAll behind), lead' ++ (old ++ trail), rest, caught, ?_, ?_, ?_, ?_⟩
    · rw [isSecret, isPart, List.append_assoc]
    · exact fun empty => present (List.append_eq_nil_iff.mp (List.append_eq_nil_iff.mp empty).2).1
    · rw [List.append_assoc, List.append_assoc, isAfter, List.append_assoc, List.append_assoc]
    · have isStart' : part.reverse ++ (lead.reverse ++ front.reverse) = start := by
        rw [← List.reverse_append, ← List.reverse_append, ← isStart, List.reverse_reverse]
      rw [isStart']
      exact took
  cases List.append_eq_append_iff.mp place with
  | inl longer =>
      obtain ⟨part, isStart, isPart⟩ := longer
      exact found part isStart isPart
  | inr shorter =>
      obtain ⟨extra, isLonger, isLead''⟩ := shorter
      have none' : extra = [] := by
        rw [isLonger, List.length_append] at past
        exact List.length_eq_zero_iff.mp (by omega)
      rw [none', List.append_nil] at isLonger
      rw [none', List.nil_append] at isLead''
      exact found [] (by rw [isLonger, List.append_nil]) isLead''.symm

end Secrets

section Marks'

-- No mark is made in the secret.
def Fades (marked : List Char) (s : List Piece) : Prop :=
  ∀ s₁ s₂ tail, s = s₁ ++ s₂ → opens foldedMark (readAll s₁ ++ tail) = false → opens foldedMark (writeAll marked s₁ ++ tail) = false

theorem stays_uncut (pieces : List Piece) (text old : List Char) (stays : Stays pieces text) : .cut old ∉ pieces := by
  induction stays with
  | nil => exact List.not_mem_nil
  | cons isKept _ ih =>
      obtain ⟨free, rfl⟩ := isKept
      intro member
      cases member with
      | tail _ further => exact ih further

theorem stays_fades (marked : List Char) (s : List Piece) (text : List Char) (stays : Stays s text) : Fades marked s := by
  intro s₁ s₂ tail split closed
  cases first_cut s₁ with
  | inl stays₁ =>
      rw [stays_written marked s₁ _ stays₁]
      exact closed
  | inr found =>
      obtain ⟨ahead, _, old, behind, isS₁, _⟩ := found
      refine absurd ?_ (stays_uncut s text old stays)
      rw [split, isS₁]
      exact List.mem_append_left _ (List.mem_append_right _ List.mem_cons_self)

variable (entry : Pattern × (Match → List Char)) (marked : List Char) (holds : List Char → Piece → List Piece → Prop)
variable (cutter : Cutter table entry marked holds) (front lead secret after : List Char) (f l s a : List Piece)
variable (written : Written entry marked holds front lead secret after f l s a)
variable (fronts : FrontApart entry.1 front lead secret after) (inners : InnerApart entry.1 front lead secret after)
include cutter written fronts inners

theorem sealed_fades (source : ∀ before old rest, holds before (.cut old) rest → CutFrom entry.1 Seals before old (readAll rest)) :
    Fades marked s := by
  intro s₁ s₂ tail split closed
  cases first_cut s₁ with
  | inl stays =>
      rw [stays_written marked s₁ _ stays]
      exact closed
  | inr found =>
      obtain ⟨ahead, text, old, behind, isS₁, stays⟩ := found
      obtain ⟨part, lead', isText, seals, _⟩ := cut_source table entry marked holds cutter front lead secret after f l s a written Seals source fronts
        inners ahead text old (behind ++ s₂) (by rw [split, isS₁, List.append_assoc]; rfl) stays
      have reads : readAll s₁ ++ tail = part ++ (lead' ++ (old ++ readAll behind ++ tail)) := by
        rw [isS₁, read_append, stays_read ahead text stays, isText, read_cons]
        simp only [List.append_assoc]
        rfl
      have writes : writeAll marked s₁ ++ tail = part ++ (lead' ++ (marked ++ writeAll marked behind ++ tail)) := by
        rw [isS₁, written_append, stays_written marked ahead text stays, isText, written_cons]
        simp only [List.append_assoc]
        rfl
      rw [reads] at closed
      rw [writes, (opens_sealed part lead' _ (old ++ readAll behind ++ tail) seals).1]
      exact closed

theorem token_fades (isMarked : marked = mark)
    (source : ∀ before old rest, holds before (.cut old) rest → CutFrom entry.1 (fun lead => lead = []) before old (readAll rest))
    (apart : ∀ part, Begins' entry.1 front lead secret after part → opens foldedMark (part ++ mark) = false) : Fades marked s := by
  intro s₁ s₂ tail split closed
  cases first_cut s₁ with
  | inl stays =>
      rw [stays_written marked s₁ _ stays]
      exact closed
  | inr found =>
      obtain ⟨ahead, text, old, behind, isS₁, stays⟩ := found
      obtain ⟨part, lead', isText, none', begins⟩ := cut_source table entry marked holds cutter front lead secret after f l s a written _ source fronts
        inners ahead text old (behind ++ s₂) (by rw [split, isS₁, List.append_assoc]; rfl) stays
      rw [none', List.append_nil] at isText
      have writes : writeAll marked s₁ ++ tail = (part ++ mark) ++ (writeAll marked behind ++ tail) := by
        rw [isS₁, written_append, stays_written marked ahead text stays, isText, written_cons, isMarked]
        simp only [List.append_assoc]
        rfl
      have long : foldedMark.length ≤ (part ++ mark).length := by
        rw [List.length_append]
        exact Nat.le_add_left _ _
      rw [writes, opens_longer foldedMark _ _ long]
      exact apart part begins

end Marks'

end AgenticNetops.Common
