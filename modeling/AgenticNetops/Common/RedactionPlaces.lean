import AgenticNetops.Common.RedactionForms

set_option autoImplicit false

/- What stands apart from a credential stands apart from it in the written text: places
   are compared by the pieces in front of them. -/
namespace AgenticNetops.Common

open Regex PyText

variable (table : CharTable)

section Order
variable (marked : List Char)

theorem prefix_order (present : marked ≠ []) (pieces first rest second rest' : List Piece) (solid : ∀ piece ∈ pieces, piece.read ≠ [])
    (isFirst : pieces = first ++ rest) (isSecond : pieces = second ++ rest') :
    (writeAll marked first).length < (writeAll marked second).length ↔ (readAll first).length < (readAll second).length := by
  have filled (some' : List Piece) (inside : ∀ piece ∈ some', piece ∈ pieces) (more : some' ≠ []) :
      0 < (writeAll marked some').length ∧ 0 < (readAll some').length := by
    cases some' with
    | nil => exact absurd rfl more
    | cons piece others =>
        have reads := List.length_pos_iff.mpr (solid piece (inside piece List.mem_cons_self))
        have writes : 0 < (piece.written marked).length := by
          cases piece with
          | kept free c => exact Nat.one_pos
          | cut old => exact List.length_pos_iff.mpr present
        rw [written_cons, read_cons, List.length_append, List.length_append]
        omega
  have longer (shorter extra : List Piece) (whole : ∃ rest, pieces = shorter ++ extra ++ rest) (more : extra ≠ []) :
      (writeAll marked shorter).length < (writeAll marked (shorter ++ extra)).length ∧
        (readAll shorter).length < (readAll (shorter ++ extra)).length := by
    obtain ⟨rest, isWhole⟩ := whole
    have both := filled extra (fun piece member => by
      rw [isWhole]
      exact List.mem_append_left _ (List.mem_append_right _ member)) more
    rw [written_append, read_append, List.length_append, List.length_append]
    omega
  cases List.append_eq_append_iff.mp (isFirst.symm.trans isSecond) with
  | inl extended =>
      obtain ⟨extra, isLonger, _⟩ := extended
      cases shape : extra with
      | nil =>
          rw [isLonger, shape, List.append_nil]
          exact iff_of_false (Nat.lt_irrefl _) (Nat.lt_irrefl _)
      | cons piece others =>
          have both := longer first extra ⟨rest', by rw [← isLonger]; exact isSecond⟩ (by rw [shape]; exact List.cons_ne_nil _ _)
          rw [isLonger]
          exact iff_of_true both.1 both.2
  | inr extended =>
      obtain ⟨extra, isLonger, _⟩ := extended
      cases shape : extra with
      | nil =>
          rw [isLonger, shape, List.append_nil]
          exact iff_of_false (Nat.lt_irrefl _) (Nat.lt_irrefl _)
      | cons piece others =>
          have both := longer second extra ⟨rest, by rw [← isLonger]; exact isFirst⟩ (by rw [shape]; exact List.cons_ne_nil _ _)
          rw [isLonger]
          exact iff_of_false (Nat.lt_asymm both.1) (Nat.lt_asymm both.2)

end Order

section Parts

-- The pieces of a text with a credential, cut nowhere across.
structure Parted (holds : List Char → Piece → List Piece → Prop) (front lead secret after : List Char) (f l s a : List Piece) : Prop where
  along : Along holds [] (f ++ (l ++ (s ++ a)))
  front : readAll f = front
  lead : Stays l lead
  secret : readAll s = secret
  after : readAll a = after

variable (marked : List Char) (isMark : IsMark marked) (holds : List Char → Piece → List Piece → Prop) (masks : Masks table marked holds)
variable (front lead secret after : List Char) (f l s a : List Piece) (parted : Parted holds front lead secret after f l s a)
include parted

theorem parted_reads : readAll (f ++ (l ++ (s ++ a))) = front ++ (lead ++ (secret ++ after)) := by
  rw [read_append, read_append, read_append, parted.front, stays_read l lead parted.lead, parted.secret, parted.after]

theorem parted_writes : writeAll marked (f ++ (l ++ (s ++ a))) = writeAll marked f ++ (lead ++ (writeAll marked s ++ writeAll marked a)) := by
  rw [written_append, written_append, written_append, stays_written marked l lead parted.lead]

include isMark masks

theorem parted_order (first rest second rest' : List Piece) (isFirst : f ++ (l ++ (s ++ a)) = first ++ rest)
    (isSecond : f ++ (l ++ (s ++ a)) = second ++ rest') :
    (writeAll marked first).length < (writeAll marked second).length ↔ (readAll first).length < (readAll second).length := by
  refine prefix_order marked (fun empty => ?_) _ first rest second rest' (fun piece member => ?_) isFirst isSecond
  · have starred := isMark.first
    rw [empty] at starred
    cases starred
  · obtain ⟨ahead, behind, split⟩ := List.append_of_mem member
    have here := parted.along
    rw [split] at here
    cases piece with
    | kept free c => exact List.cons_ne_nil _ _
    | cut old => exact (masks.fact _ old behind (along_split holds [] ahead (.cut old) behind here)).edges.present

-- The ends of the three parts, in both texts.
theorem parted_ends (first rest : List Piece) (isFirst : f ++ (l ++ (s ++ a)) = first ++ rest) :
    ((writeAll marked first).length < (writeAll marked f).length ↔ (readAll first).length < front.length) ∧
    ((writeAll marked f).length < (writeAll marked first).length ↔ front.length < (readAll first).length) ∧
    ((writeAll marked first).length < (writeAll marked f ++ lead).length ↔ (readAll first).length < (front ++ lead).length) ∧
    ((writeAll marked first).length < (writeAll marked f ++ (lead ++ writeAll marked s)).length ↔
      (readAll first).length < (front ++ (lead ++ secret)).length) ∧
    ((writeAll marked f ++ (lead ++ writeAll marked s)).length < (writeAll marked first).length ↔
      (front ++ (lead ++ secret)).length < (readAll first).length) := by
  have order := parted_order table marked isMark holds masks front lead secret after f l s a parted
  have readLead : readAll (f ++ l) = front ++ lead := by rw [read_append, parted.front, stays_read l lead parted.lead]
  have writtenLead : writeAll marked (f ++ l) = writeAll marked f ++ lead := by rw [written_append, stays_written marked l lead parted.lead]
  have readSecret : readAll (f ++ (l ++ s)) = front ++ (lead ++ secret) := by
    rw [read_append, read_append, parted.front, stays_read l lead parted.lead, parted.secret]
  have writtenSecret : writeAll marked (f ++ (l ++ s)) = writeAll marked f ++ (lead ++ writeAll marked s) := by
    rw [written_append, written_append, stays_written marked l lead parted.lead]
  have isLead : f ++ (l ++ (s ++ a)) = (f ++ l) ++ (s ++ a) := (List.append_assoc _ _ _).symm
  have isSecret : f ++ (l ++ (s ++ a)) = (f ++ (l ++ s)) ++ a := by simp only [List.append_assoc]
  have atFront := order first rest f _ isFirst rfl
  have pastFront := order f _ first rest rfl isFirst
  have atLead := order first rest (f ++ l) _ isFirst isLead
  have atSecret := order first rest (f ++ (l ++ s)) _ isFirst isSecret
  have pastSecret := order (f ++ (l ++ s)) _ first rest isSecret isFirst
  rw [parted.front] at atFront pastFront
  rw [readLead, writtenLead] at atLead
  rw [readSecret, writtenSecret] at atSecret pastSecret
  exact ⟨atFront, pastFront, atLead, atSecret, pastSecret⟩

theorem token_place (pattern : Pattern) (takes : TakesTokens table pattern) (start stop : Nat)
    (occurs : Occurs' pattern (writeAll marked f) lead (writeAll marked s) (writeAll marked a) start stop) :
    ∃ first middle rest taken, f ++ (l ++ (s ++ a)) = first ++ (middle ++ rest) ∧ start = (writeAll marked first).length ∧
      stop = (writeAll marked (first ++ middle)).length ∧ Stays middle taken ∧ taken ≠ [] ∧
      Occurs' pattern front lead secret after (readAll first).length (readAll (first ++ middle)).length := by
  obtain ⟨before, taken, rest, caught, split, took, rfl, rfl⟩ := occurs
  rw [← parted_writes marked holds front lead secret after f l s a parted] at split
  obtain ⟨first, middle, others, shape, isBefore, stays, moved⟩ :=
    token_moved table marked isMark holds masks.fact pattern takes _ before taken rest caught parted.along split took
  have reads := parted_reads holds front lead secret after f l s a parted
  rw [shape, read_append, read_append, stays_read middle taken stays] at reads
  obtain ⟨c, more, isTaken, _⟩ := (takes.text _ _ _ _ took).2.starts
  refine ⟨first, middle, others, taken, shape, by rw [isBefore], ?_, stays, by rw [isTaken]; exact List.cons_ne_nil _ _, ?_⟩
  · rw [written_append, isBefore, stays_written marked middle taken stays]
  · refine ⟨readAll first, taken, readAll others, caught, reads.symm, moved, rfl, ?_⟩
    rw [read_append, stays_read middle taken stays]

theorem token_front (pattern : Pattern) (takes : TakesTokens table pattern) (apart : FrontApart pattern front lead secret after) :
    FrontApart pattern (writeAll marked f) lead (writeAll marked s) (writeAll marked a) := by
  intro start stop occurs begins
  obtain ⟨first, middle, rest, taken, shape, rfl, rfl, _, _, before⟩ :=
    token_place table marked isMark holds masks front lead secret after f l s a parted pattern takes start stop occurs
  have ends := parted_ends table marked isMark holds masks front lead secret after f l s a parted
  have limit := apart _ _ before ((ends first _ shape).1.mp begins)
  have past := (ends (first ++ middle) rest (by rw [shape, List.append_assoc])).2.1
  omega

theorem token_inner (pattern : Pattern) (takes : TakesTokens table pattern) (apart : InnerApart pattern front lead secret after) :
    InnerApart pattern (writeAll marked f) lead (writeAll marked s) (writeAll marked a) := by
  have ends := parted_ends table marked isMark holds masks front lead secret after f l s a parted
  refine ⟨fun start stop occurs from' => ?_, fun start stop occurs from' inside => ?_⟩
  · obtain ⟨first, middle, rest, taken, shape, rfl, rfl, _, _, before⟩ :=
      token_place table marked isMark holds masks front lead secret after f l s a parted pattern takes start stop occurs
    have atFirst := ends first _ shape
    have refused := apart.label _ _ before (by omega)
    omega
  · obtain ⟨first, middle, rest, taken, shape, rfl, rfl, _, _, before⟩ :=
      token_place table marked isMark holds masks front lead secret after f l s a parted pattern takes start stop occurs
    have atFirst := ends first _ shape
    have past := ends (first ++ middle) rest (by rw [shape, List.append_assoc])
    have limit := apart.secret _ _ before (by omega) (by omega)
    omega

theorem label_place (label : Pattern) (separates : Char → Bool) (takes : TakesLabels table separates label) (start stop : Nat)
    (occurs : Occurs' (labelled label) (writeAll marked f) lead (writeAll marked s) (writeAll marked a) start stop) :
    ∃ first middle rest value more, f ++ (l ++ (s ++ a)) = first ++ (middle ++ rest) ∧ start = (writeAll marked first).length ∧
      stop = (writeAll marked (first ++ middle)).length + value.length ∧ writeAll marked rest = value ++ more ∧
      (∀ c ∈ value, isBlank c = false) ∧ (∃ d others, readAll rest = [d] ++ others ∧ isBlank d = false) ∧
      ∀ taken behind, readAll rest = taken ++ behind → taken ≠ [] → (∀ c ∈ taken, isBlank c = false) →
        Occurs' (labelled label) front lead secret after (readAll first).length ((readAll (first ++ middle)).length + taken.length) := by
  obtain ⟨before, taken, more, caught, split, took, rfl, rfl⟩ := occurs
  rw [← parted_writes marked holds front lead secret after f l s a parted] at split
  obtain ⟨word, value, rfl, _, isWord, unmarked, present, filled⟩ := (labelled_takes table label separates takes _ _ _ _).mp took
  have begins : ValueStart (value ++ more) := by
    cases value with
    | nil => exact absurd rfl present
    | cons c others => exact ⟨⟨c, others ++ more, rfl, filled c List.mem_cons_self⟩, unmarked⟩
  rw [List.append_assoc] at split
  obtain ⟨first, middle, rest, shape, isBefore, stays, isRest, moved, begins'⟩ :=
    label_moved table marked isMark holds masks label separates takes _ before word (value ++ more) parted.along split isWord begins
  have reads := parted_reads holds front lead secret after f l s a parted
  rw [shape, read_append, read_append, stays_read middle word stays] at reads
  refine ⟨first, middle, rest, value, more, shape, by rw [isBefore], ?_, isRest, filled, ?_, fun taken behind isTaken present' filled' => ?_⟩
  · rw [written_append, isBefore, stays_written marked middle word stays, ← List.append_assoc, List.length_append]
  · obtain ⟨⟨d, others, isD, isFilled⟩, _⟩ := begins'
    exact ⟨d, others, isD, isFilled⟩
  · rw [isTaken] at moved begins' reads
    refine ⟨readAll first, word ++ taken, behind, [("1", word)], by rw [List.append_assoc]; exact reads.symm,
      labelled_value table label separates takes _ word taken behind moved begins' present' filled', rfl, ?_⟩
    simp only [read_append, stays_read middle word stays, List.length_append]
    omega

-- Where an earlier label's value would run on into the credential, it did so before.
theorem label_front (joined : ∀ ahead behind, f = ahead ++ behind → (∀ c ∈ writeAll marked behind, isBlank c = false) →
      ∀ c ∈ readAll behind, isBlank c = false)
    (starts : ∃ e others, lead = e :: others ∧ isBlank e = false) (label : Pattern) (separates : Char → Bool)
    (takes : TakesLabels table separates label) (apart : FrontApart (labelled label) front lead secret after) :
    FrontApart (labelled label) (writeAll marked f) lead (writeAll marked s) (writeAll marked a) := by
  intro start stop occurs begins
  obtain ⟨first, middle, rest, value, more, shape, rfl, rfl, isRest, filled, ⟨d, others, isD, isFilled⟩, before⟩ :=
    label_place table marked isMark holds masks front lead secret after f l s a parted label separates takes start stop occurs
  have ends := parted_ends table marked isMark holds masks front lead secret after f l s a parted
  have begun := (ends first _ shape).1.mp begins
  have room := apart _ _ (before [d] others isD (List.cons_ne_nil _ _) fun c member => by rw [List.mem_singleton.mp member]; exact isFilled) begun
  rw [List.length_singleton] at room
  have whole : f ++ (l ++ (s ++ a)) = (first ++ middle) ++ rest := by
    rw [List.append_assoc]
    exact shape
  cases List.append_eq_append_iff.mp whole with
  | inl shorter =>
      obtain ⟨extra, isLonger, _⟩ := shorter
      rw [isLonger, read_append, parted.front, List.length_append] at room
      omega
  | inr longer =>
      obtain ⟨behind, isFront, rfl⟩ := longer
      have isLength : (writeAll marked f).length = (writeAll marked (first ++ middle)).length + (writeAll marked behind).length := by
        rw [isFront, written_append, List.length_append]
      have isLength' : front.length = (readAll (first ++ middle)).length + (readAll behind).length := by
        rw [← parted.front, isFront, read_append, List.length_append]
      refine Nat.le_of_not_lt fun past => ?_
      rw [written_append] at isRest
      obtain ⟨e, others', isLead, filledLead⟩ := starts
      cases List.append_eq_append_iff.mp isRest with
      | inr within =>
          obtain ⟨extra, isBehind, _⟩ := within
          rw [isBehind, List.length_append] at isLength
          omega
      | inl beyond =>
          obtain ⟨extra, isValue, isMore⟩ := beyond
          have filledBehind := joined (first ++ middle) behind isFront fun c member => filled c (by rw [isValue]; exact List.mem_append_left _ member)
          have reads : readAll (behind ++ (l ++ (s ++ a))) = (readAll behind ++ [e]) ++ (others' ++ readAll (s ++ a)) := by
            rw [read_append, read_append, stays_read l lead parted.lead, isLead]
            simp only [List.append_assoc, List.cons_append, List.nil_append]
          have limit := apart _ _ (before (readAll behind ++ [e]) _ reads (List.concat_ne_nil _ _) fun c member => by
            cases List.mem_append.mp member with
            | inl inside => exact filledBehind c inside
            | inr last => rw [List.mem_singleton.mp last]; exact filledLead) begun
          rw [List.length_append, List.length_singleton] at limit
          omega

theorem label_inner (closed : (writeAll marked a).head?.any (fun c => !isBlank c) = false) (label : Pattern) (separates : Char → Bool)
    (takes : TakesLabels table separates label) (apart : InnerApart (labelled label) front lead secret after) :
    InnerApart (labelled label) (writeAll marked f) lead (writeAll marked s) (writeAll marked a) := by
  have ends := parted_ends table marked isMark holds masks front lead secret after f l s a parted
  refine ⟨fun start stop occurs from' => ?_, fun start stop occurs from' inside => ?_⟩
  · obtain ⟨first, middle, rest, value, more, shape, rfl, rfl, isRest, filled, ⟨d, others, isD, isFilled⟩, before⟩ :=
      label_place table marked isMark holds masks front lead secret after f l s a parted label separates takes start stop occurs
    have atFirst := ends first _ shape
    have refused := apart.label _ _ (before [d] others isD (List.cons_ne_nil _ _) fun c member => by
      rw [List.mem_singleton.mp member]
      exact isFilled) (by omega)
    omega
  · obtain ⟨first, middle, rest, value, more, shape, rfl, rfl, isRest, filled, ⟨d, others, isD, isFilled⟩, before⟩ :=
      label_place table marked isMark holds masks front lead secret after f l s a parted label separates takes start stop occurs
    have atFirst := ends first _ shape
    have room := apart.secret _ _ (before [d] others isD (List.cons_ne_nil _ _) fun c member => by
      rw [List.mem_singleton.mp member]
      exact isFilled) (by omega) (by omega)
    rw [List.length_singleton] at room
    have whole : (f ++ (l ++ s)) ++ a = (first ++ middle) ++ rest := by
      rw [List.append_assoc first, ← shape]
      simp only [List.append_assoc]
    have readSecret : readAll (f ++ (l ++ s)) = front ++ (lead ++ secret) := by
      rw [read_append, read_append, parted.front, stays_read l lead parted.lead, parted.secret]
    have writtenSecret : writeAll marked (f ++ (l ++ s)) = writeAll marked f ++ (lead ++ writeAll marked s) := by
      rw [written_append, written_append, stays_written marked l lead parted.lead]
    cases List.append_eq_append_iff.mp whole with
    | inl shorter =>
        obtain ⟨extra, isLonger, _⟩ := shorter
        rw [isLonger, read_append, readSecret, List.length_append] at room
        omega
    | inr longer =>
        obtain ⟨behind, isSecret, rfl⟩ := longer
        rw [← writtenSecret]
        have isLength : (writeAll marked (f ++ (l ++ s))).length =
            (writeAll marked (first ++ middle)).length + (writeAll marked behind).length := by
          rw [isSecret, written_append, List.length_append]
        refine Nat.le_of_not_lt fun past => ?_
        rw [written_append] at isRest
        cases List.append_eq_append_iff.mp isRest with
        | inr within =>
            obtain ⟨extra, isBehind, _⟩ := within
            rw [isBehind, List.length_append] at isLength
            omega
        | inl beyond =>
            -- The value would go on behind the secret, where there is a blank or nothing.
            obtain ⟨extra, isValue, isMore⟩ := beyond
            cases extra with
            | nil =>
                rw [List.append_nil] at isValue
                rw [isValue] at past
                omega
            | cons e others' =>
                rw [isMore] at closed
                have filledNext := filled e (by rw [isValue]; exact List.mem_append_right _ List.mem_cons_self)
                change (!isBlank e) = false at closed
                rw [filledNext] at closed
                cases closed

end Parts

section Joins
variable (marked : List Char) (holds : List Char → Piece → List Piece → Prop)

-- What is written without a blank was read without one, where no blank is cut out.
theorem filled_joined (filled : ∀ before old rest, holds before (.cut old) rest → ∀ c ∈ old, isBlank c = false) (before : List Char)
    (behind rest : List Piece) (along : Along holds before (behind ++ rest)) (written : ∀ c ∈ writeAll marked behind, isBlank c = false) :
    ∀ c ∈ readAll behind, isBlank c = false := by
  induction behind generalizing before with
  | nil =>
      intro c member
      cases member
  | cons piece others ih =>
      rw [written_cons] at written
      have later := ih _ along.2 fun c member => written c (List.mem_append_right _ member)
      intro c member
      rw [read_cons] at member
      cases List.mem_append.mp member with
      | inr further => exact later c further
      | inl here =>
          cases piece with
          | cut old => exact filled before old _ along.1 c here
          | kept free d => exact written c (List.mem_append_left _ here)

-- Or where a blank comes behind everything that is cut.
theorem spaced_joined (front ahead behind : List Piece)
    (spaced : ∀ ahead old behind, front = ahead ++ .cut old :: behind → ∃ c ∈ readAll behind, isBlank c = true)
    (isFront : front = ahead ++ behind) (written : ∀ c ∈ writeAll marked behind, isBlank c = false) : Stays behind (writeAll marked behind) := by
  induction behind generalizing ahead with
  | nil => exact .nil
  | cons piece others ih =>
      rw [written_cons] at written
      have later := ih (ahead ++ [piece]) (by rw [isFront, List.append_assoc]; rfl) fun c member => written c (List.mem_append_right _ member)
      cases piece with
      | kept free c => exact .cons ⟨free, rfl⟩ later
      | cut old =>
          obtain ⟨c, member, blank⟩ := spaced ahead old others isFront
          rw [stays_read others _ later] at member
          rw [written c (List.mem_append_right _ member)] at blank
          cases blank

end Joins

section Urls

-- What a URL with a password is: no blank, and one at sign at its end.
theorem url_shape (before taken after : List Char) (caught : Caught) (took : Takes urlPassword before taken after caught) :
    (∀ c ∈ taken, isBlank c = false) ∧ (∃ more, taken = ':' :: more) ∧ ∃ body, taken = body ++ ['@'] ∧ '@' ∉ body := by
  obtain ⟨user, password, rfl, _, ⟨_, all⟩, _, _, others⟩ := (url_takes _ _ _ _).mp took
  have userFilled (c : Char) (member : c ∈ user) : isBlank c = false := (Bool.not_eq_true' _).mp ((Bool.and_eq_true _ _).mp (all c member)).2
  have passwordFilled (c : Char) (member : c ∈ password) : isBlank c = false :=
    (Bool.not_eq_true' _).mp ((Bool.and_eq_true _ _).mp (others c member)).2
  refine ⟨fun c member => ?_, ⟨_, rfl⟩, urlLead user ++ password, (List.append_assoc _ _ _).symm, fun isAt => ?_⟩
  · have signs : "://".toList.all (fun c => !isBlank c) = true := by decide
    simp only [urlLead, List.mem_append, List.mem_singleton] at member
    obtain (scheme | inUser | colon) | inPassword | isAt := member
    · exact (Bool.not_eq_true' _).mp (List.all_eq_true.mp signs c scheme)
    · exact userFilled c inUser
    · rw [colon]
      rfl
    · exact passwordFilled c inPassword
    · rw [isAt]
      rfl
  · simp only [urlLead, List.mem_append, List.mem_singleton] at isAt
    obtain (scheme | inUser | colon) | inPassword := isAt
    · exact absurd scheme (by decide)
    · cases all '@' inUser
    · cases colon
    · cases others '@' inPassword

-- A character that no class accepts stops the mark.
theorem opens_stopped (classes : List (Char → Bool)) (front rest other : List Char) (c : Char) (refused : ∀ accepts ∈ classes, accepts c = false) :
    opens classes (front ++ c :: rest) = opens classes (front ++ c :: other) := by
  induction classes generalizing front with
  | nil => rfl
  | cons accepts more ih =>
      cases front with
      | nil =>
          change (accepts c && opens more rest) = (accepts c && opens more other)
          rw [refused accepts List.mem_cons_self]
          rfl
      | cons d front' =>
          change (accepts d && opens more (front' ++ c :: rest)) = (accepts d && opens more (front' ++ c :: other))
          rw [ih front' fun other member => refused other (List.mem_cons_of_mem accepts member)]

theorem at_refused : ∀ accepts ∈ exactMark, accepts '@' = false := by
  have refused : exactMark.all (fun accepts => !accepts '@') = true := by decide
  exact fun accepts member => (Bool.not_eq_true' _).mp (List.all_eq_true.mp refused accepts member)

-- What surrounds a URL does not matter.
theorem url_moves (before taken after before' after' : List Char) (caught : Caught) (took : Takes urlPassword before taken after caught) :
    Takes urlPassword before' taken after' caught := by
  obtain ⟨user, password, rfl, isCaught, users, unmarked, filled, others⟩ := (url_takes _ _ _ _).mp took
  rw [opens_stopped exactMark password after after' '@' at_refused] at unmarked
  exact (url_takes _ _ _ _).mpr ⟨user, password, rfl, isCaught, users, unmarked, filled, others⟩

-- Two texts that go on in the same way behind a credential.
def Joint (after after' : List Char) : Prop :=
  (after.head?.any (fun c => !isBlank c) = false ∧ after'.head?.any (fun c => !isBlank c) = false) ∨
    ∃ rest rest', after = '@' :: rest ∧ after' = '@' :: rest'

theorem joint_within (body taken rest inner after after' : List Char) (joint : Joint after after') (isTaken : taken = body ++ ['@'])
    (free : '@' ∉ body) (filled : ∀ c ∈ taken, isBlank c = false) (front : List Char) (split : front ++ inner = taken) :
    ∀ outer, inner ++ rest = outer ++ after → ∃ rest', inner ++ rest' = outer ++ after' := by
  intro outer same
  cases List.append_eq_append_iff.mp same with
  | inl shorter =>
      obtain ⟨extra, isOuter, _⟩ := shorter
      exact ⟨extra ++ after', by rw [isOuter, List.append_assoc]⟩
  | inr longer =>
      obtain ⟨extra, isInner, isAfter⟩ := longer
      cases extra with
      | nil => exact ⟨after', by rw [isInner, List.append_nil]⟩
      | cons c more =>
          have member : c ∈ taken := by
            rw [← split, isInner]
            exact List.mem_append_right _ (List.mem_append_right _ List.mem_cons_self)
          cases joint with
          | inl blank =>
              rw [isAfter] at blank
              have shown : (!isBlank c) = false := blank.1
              rw [filled c member] at shown
              cases shown
          | inr signs =>
              obtain ⟨others, others', isAt, isAt'⟩ := signs
              rw [isAfter] at isAt
              obtain ⟨rfl, _⟩ := List.cons.inj isAt
              cases List.eq_nil_or_concat more with
              | inl last =>
                  rw [last] at isInner
                  exact ⟨others', by rw [isInner, isAt', List.append_assoc]; rfl⟩
              | inr shaped =>
                  -- The at sign would come before the end of the URL.
                  obtain ⟨most, final, isMore⟩ := shaped
                  refine absurd ?_ free
                  have ends : (front ++ (outer ++ '@' :: most)) ++ [final] = body ++ ['@'] := by
                    rw [← isTaken, ← split, isInner, isMore, List.concat_eq_append]
                    simp only [List.append_assoc, List.cons_append]
                  rw [← (List.append_inj' ends rfl).1]
                  exact List.mem_append_right _ (List.mem_append_right _ List.mem_cons_self)

end Urls

end AgenticNetops.Common
