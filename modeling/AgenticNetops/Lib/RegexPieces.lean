import AgenticNetops.Lib.RegexFirst

set_option autoImplicit false

/- What a substitution makes of a text: characters that stay, and stretches that go under
   one mark. What stands in the result beside the marks stood in the text before. -/
namespace Regex

-- A character that stays, outside of every match or inside of one, or a stretch that goes.
inductive Piece where
  | kept (free : Bool) (c : Char)
  | cut (old : List Char)

def Piece.read : Piece → List Char
  | .kept _ c => [c]
  | .cut old => old

def Piece.written (mark : List Char) : Piece → List Char
  | .kept _ c => [c]
  | .cut _ => mark

def readAll (pieces : List Piece) : List Char := pieces.flatMap Piece.read

def writeAll (mark : List Char) (pieces : List Piece) : List Char := pieces.flatMap (Piece.written mark)

-- What holds of every piece, behind the text that is read before it.
def Along (holds : List Char → Piece → List Piece → Prop) : List Char → List Piece → Prop
  | _, [] => True
  | before, piece :: rest => holds before piece rest ∧ Along holds (piece.read.reverse ++ before) rest

section Pieces
variable (mark : List Char)

theorem read_append (first second : List Piece) : readAll (first ++ second) = readAll first ++ readAll second := List.flatMap_append

theorem written_append (first second : List Piece) : writeAll mark (first ++ second) = writeAll mark first ++ writeAll mark second :=
  List.flatMap_append

theorem read_cons (piece : Piece) (rest : List Piece) : readAll (piece :: rest) = piece.read ++ readAll rest := rfl

theorem written_cons (piece : Piece) (rest : List Piece) : writeAll mark (piece :: rest) = piece.written mark ++ writeAll mark rest := rfl

theorem along_append (holds : List Char → Piece → List Piece → Prop) (before : List Char) (first second : List Piece)
    (along : Along holds before (first ++ second)) : Along holds ((readAll first).reverse ++ before) second := by
  induction first generalizing before with
  | nil => exact along
  | cons piece rest ih =>
      have later := ih (piece.read.reverse ++ before) along.2
      rw [read_cons, List.reverse_append, List.append_assoc]
      exact later

theorem along_split (holds : List Char → Piece → List Piece → Prop) (before : List Char) (first : List Piece) (piece : Piece)
    (rest : List Piece) (along : Along holds before (first ++ piece :: rest)) : holds ((readAll first).reverse ++ before) piece rest :=
  (along_append holds before first (piece :: rest) along).1

theorem along_weaken (holds weaker : List Char → Piece → List Piece → Prop)
    (implies : ∀ before piece rest, holds before piece rest → weaker before piece rest) (before : List Char) (pieces : List Piece)
    (along : Along holds before pieces) : Along weaker before pieces := by
  induction pieces generalizing before with
  | nil => trivial
  | cons piece rest ih => exact ⟨implies _ _ _ along.1, ih _ along.2⟩

def held (text : List Char) : List Piece := text.map (Piece.kept false)

theorem held_read (text : List Char) : readAll (held text) = text := by
  rw [readAll, held, List.flatMap_map]
  exact List.flatMap_singleton' text

theorem held_written (text : List Char) : writeAll mark (held text) = text := by
  rw [writeAll, held, List.flatMap_map]
  exact List.flatMap_singleton' text

-- Characters of a match that stay.
theorem along_held (holds : List Char → Piece → List Piece → Prop) (before text : List Char) (rest : List Piece)
    (each : ∀ first c later, text = first ++ c :: later → holds (first.reverse ++ before) (.kept false c) (held later ++ rest))
    (after : Along holds (text.reverse ++ before) rest) : Along holds before (held text ++ rest) := by
  induction text generalizing before with
  | nil => exact after
  | cons c more ih =>
      refine ⟨each [] c more rfl, ih (c :: before) (fun first d later split => ?_) ?_⟩
      · have further := each (c :: first) d later (by rw [split]; rfl)
        rw [List.reverse_cons, List.append_assoc] at further
        exact further
      · rw [List.reverse_cons, List.append_assoc] at after
        exact after

end Pieces

section Substitution
variable (pattern : Pattern) (replacement : Match → List Char) (mark : List Char) (holds : List Char → Piece → List Piece → Prop)

-- How a pattern's matches are cut, and what is known of the pieces.
structure CutsInto : Prop where
  free : ∀ before c rest, matchHere pattern before (c :: readAll rest) = none → holds before (.kept true c) rest
  hit : ∀ before after made, matchHere pattern before after = some made → ∃ pieces, readAll pieces = made.text ∧
    writeAll mark pieces = replacement made ∧ ∀ rest, readAll rest = made.after → Along holds (made.text.reverse ++ before) rest →
      Along holds before (pieces ++ rest)

theorem match_here_some (before after : List Char) (made : Match) (matched : matchHere pattern before after = some made) :
    matchAt pattern before after = some made ∧ made.text ≠ [] ∧ after = made.text ++ made.after ∧
      Takes pattern before made.text made.after made.groups := by
  obtain ⟨isMatch, filled⟩ := Option.filter_eq_some_iff.mp matched
  obtain ⟨_, split, took⟩ := match_at_some pattern before after made isMatch
  rw [Bool.not_eq_true', List.isEmpty_eq_false_iff] at filled
  exact ⟨isMatch, filled, split, took⟩

theorem sub_from_pieces (cuts : CutsInto pattern replacement mark holds) (limit : Nat) (before after : List Char)
    (room : after.length < limit) :
    ∃ pieces, readAll pieces = after ∧ writeAll mark pieces = subFrom pattern replacement limit before after ∧ Along holds before pieces := by
  induction limit generalizing before after with
  | zero => cases room
  | succ limit ih =>
      cases here : matchHere pattern before after with
      | some made =>
          have onward : subFrom pattern replacement (limit + 1) before after =
              replacement made ++ subFrom pattern replacement limit (made.text.reverse ++ before) made.after := by
            rw [subFrom.eq_def]
            simp only [here]
          obtain ⟨_, present, split, _⟩ := match_here_some pattern before after made here
          have shorter : made.after.length < limit := by
            have some_length := List.length_pos_iff.mpr present
            rw [split, List.length_append] at room
            omega
          obtain ⟨rest, isRead, isWritten, along⟩ := ih (made.text.reverse ++ before) made.after shorter
          obtain ⟨pieces, isRead', isWritten', joined⟩ := cuts.hit before after made here
          refine ⟨pieces ++ rest, ?_, ?_, joined rest isRead along⟩
          · rw [read_append, isRead, isRead', split]
          · rw [written_append, isWritten, isWritten', onward]
      | none =>
          cases after with
          | nil =>
              have ended : subFrom pattern replacement (limit + 1) before [] = [] := by
                rw [subFrom.eq_def]
                simp only [here]
              exact ⟨[], rfl, ended.symm, trivial⟩
          | cons c more =>
              have onward : subFrom pattern replacement (limit + 1) before (c :: more) =
                  c :: subFrom pattern replacement limit (c :: before) more := by
                rw [subFrom.eq_def]
                simp only [here]
              obtain ⟨rest, isRead, isWritten, along⟩ := ih (c :: before) more (Nat.lt_of_succ_lt_succ room)
              refine ⟨.kept true c :: rest, ?_, ?_, cuts.free before c rest ?_, along⟩
              · rw [read_cons, isRead]
                rfl
              · rw [written_cons, isWritten, onward]
                rfl
              · rw [isRead]
                exact here

theorem sub_pieces (cuts : CutsInto pattern replacement mark holds) (text : List Char) :
    ∃ pieces, readAll pieces = text ∧ writeAll mark pieces = sub pattern replacement text ∧ Along holds [] pieces :=
  sub_from_pieces pattern replacement mark holds cuts _ [] text (Nat.lt_succ_self _)

-- The match that a stretch goes with, and what of it stands in front.
def CutFrom (leads : List Char → Prop) (before old after : List Char) : Prop :=
  ∃ lead trail start rest caught, before = lead.reverse ++ start ∧ after = trail ++ rest ∧ leads lead ∧
    Takes pattern start (lead ++ (old ++ trail)) rest caught

theorem cut_from (leads : List Char → Prop) (before after lead old trail : List Char) (made : Match) (rest : List Piece) (isLead : leads lead)
    (matched : matchHere pattern before after = some made) (isText : made.text = lead ++ (old ++ trail)) (isRest : readAll rest = made.after) :
    CutFrom pattern leads (lead.reverse ++ before) old (readAll (held trail ++ rest)) := by
  obtain ⟨_, _, _, took⟩ := match_here_some pattern before after made matched
  rw [isText] at took
  refine ⟨lead, trail, before, made.after, made.groups, rfl, ?_, isLead, took⟩
  rw [read_append, held_read, isRest]

-- A match that is cut: what stays in front of it and behind it.
theorem cut_joined (before lead old trail : List Char) (made : Match) (isText : made.text = lead ++ (old ++ trail))
    (fronts : ∀ rest first c later, readAll rest = made.after → lead = first ++ c :: later →
      holds (first.reverse ++ before) (.kept false c) (held later ++ .cut old :: (held trail ++ rest)))
    (cut : ∀ rest, readAll rest = made.after → holds (lead.reverse ++ before) (.cut old) (held trail ++ rest))
    (backs : ∀ rest first c later, readAll rest = made.after → trail = first ++ c :: later →
      holds (first.reverse ++ (old.reverse ++ (lead.reverse ++ before))) (.kept false c) (held later ++ rest)) :
    ∃ pieces, readAll pieces = made.text ∧ writeAll mark pieces = lead ++ (mark ++ trail) ∧ ∀ rest, readAll rest = made.after →
      Along holds (made.text.reverse ++ before) rest → Along holds before (pieces ++ rest) := by
  refine ⟨held lead ++ .cut old :: held trail, ?_, ?_, fun rest isRest along => ?_⟩
  · rw [read_append, held_read, read_cons, held_read, isText]
    rfl
  · rw [written_append, held_written, written_cons, held_written]
    rfl
  · rw [List.append_assoc, List.cons_append]
    refine along_held holds before lead _ (fun first c later split => fronts rest first c later isRest split) ⟨cut rest isRest, ?_⟩
    refine along_held holds _ trail rest (fun first c later split => backs rest first c later isRest split) ?_
    rw [isText, List.reverse_append, List.reverse_append, List.append_assoc, List.append_assoc] at along
    exact along

end Substitution

section Standing
variable (mark : List Char)

-- Pieces that stay, with the characters of a text.
def Stays (pieces : List Piece) (text : List Char) : Prop := List.Forall₂ (fun piece c => ∃ free, piece = .kept free c) pieces text

theorem stays_read (pieces : List Piece) (text : List Char) (stays : Stays pieces text) : readAll pieces = text := by
  induction stays with
  | nil => rfl
  | cons isKept _ ih =>
      obtain ⟨_, rfl⟩ := isKept
      rw [read_cons, ih]
      rfl

theorem stays_written (pieces : List Piece) (text : List Char) (stays : Stays pieces text) : writeAll mark pieces = text := by
  induction stays with
  | nil => rfl
  | cons isKept _ ih =>
      obtain ⟨_, rfl⟩ := isKept
      rw [written_cons, ih]
      rfl

-- A character that no mark has is one that stayed.
theorem kept_at (pieces : List Piece) (front rest : List Char) (c : Char) (foreign : c ∉ mark)
    (stands : writeAll mark pieces = front ++ c :: rest) :
    ∃ before free after, pieces = before ++ .kept free c :: after ∧ writeAll mark before = front ∧ writeAll mark after = rest := by
  induction pieces generalizing front with
  | nil => cases (List.append_eq_nil_iff.mp stands.symm).2
  | cons piece others ih =>
      rw [written_cons] at stands
      cases List.append_eq_append_iff.mp stands with
      | inl onward =>
          obtain ⟨front', isFront, isRest⟩ := onward
          obtain ⟨before, free, after, rfl, isBefore, isAfter⟩ := ih front' isRest
          exact ⟨piece :: before, free, after, rfl, by rw [written_cons, isBefore, isFront], isAfter⟩
      | inr inside =>
          obtain ⟨tail, isPiece, isRest⟩ := inside
          cases tail with
          | nil =>
              obtain ⟨before, free, after, rfl, isBefore, isAfter⟩ := ih [] isRest.symm
              rw [List.append_nil] at isPiece
              exact ⟨piece :: before, free, after, rfl, by rw [written_cons, isBefore, isPiece, List.append_nil], isAfter⟩
          | cons d more =>
              obtain ⟨rfl, isRest'⟩ := List.cons.inj isRest
              cases piece with
              | cut old => exact absurd (by rw [show mark = front ++ c :: more from isPiece]; simp) foreign
              | kept free d =>
                  have single : [d] = front ++ c :: more := isPiece
                  cases front with
                  | nil =>
                      obtain ⟨rfl, rfl⟩ := List.cons.inj single
                      exact ⟨[], free, others, rfl, rfl, isRest'.symm⟩
                  | cons e front' => cases (List.append_eq_nil_iff.mp (List.cons.inj single).2.symm).2

-- What begins behind a character that stayed, and has no star, stayed as well.
theorem stays_on (star : Char) (pieces : List Piece) (text rest : List Char) (starred : mark.head? = some star) (unstarred : star ∉ text)
    (stands : writeAll mark pieces = text ++ rest) :
    ∃ middle after, pieces = middle ++ after ∧ Stays middle text ∧ writeAll mark after = rest := by
  induction text generalizing pieces with
  | nil => exact ⟨[], pieces, rfl, .nil, stands⟩
  | cons c more ih =>
      cases pieces with
      | nil => cases stands
      | cons piece others =>
          rw [written_cons] at stands
          cases piece with
          | cut old =>
              obtain ⟨tail, isMark⟩ := List.head?_eq_some_iff.mp starred
              have here : star = c := by
                rw [show (Piece.cut old).written mark = star :: tail from isMark] at stands
                exact (List.cons.inj stands).1
              exact absurd (by rw [here]; exact List.mem_cons_self) unstarred
          | kept free d =>
              obtain ⟨rfl, later⟩ := List.cons.inj stands
              obtain ⟨middle, after, rfl, stays, isRest⟩ := ih others (fun member => unstarred (List.mem_cons_of_mem _ member)) later
              exact ⟨.kept free d :: middle, after, rfl, .cons ⟨free, rfl⟩ stays, isRest⟩

theorem stays_between (star : Char) (pieces : List Piece) (front text rest : List Char) (first : mark.head? = some star)
    (last : mark.getLast? = some star) (unstarred : star ∉ text) (foreign : ∃ c ∈ text, c ∉ mark)
    (stands : writeAll mark pieces = front ++ (text ++ rest)) :
    ∃ before middle after, pieces = before ++ (middle ++ after) ∧ writeAll mark before = front ∧ Stays middle text ∧
      writeAll mark after = rest := by
  induction pieces generalizing front with
  | nil =>
      obtain ⟨c, member, _⟩ := foreign
      have empty := (List.append_eq_nil_iff.mp (List.append_eq_nil_iff.mp stands.symm).2).1
      rw [empty] at member
      cases member
  | cons piece others ih =>
      rw [written_cons] at stands
      cases List.append_eq_append_iff.mp stands with
      | inl onward =>
          obtain ⟨front', isFront, isRest⟩ := onward
          obtain ⟨before, middle, after, rfl, isBefore, stays, isAfter⟩ := ih front' isRest
          exact ⟨piece :: before, middle, after, rfl, by rw [written_cons, isBefore, isFront], stays, isAfter⟩
      | inr inside =>
          obtain ⟨tail, isPiece, isRest⟩ := inside
          cases tail with
          | nil =>
              obtain ⟨before, middle, after, rfl, isBefore, stays, isAfter⟩ := ih [] isRest.symm
              rw [List.append_nil] at isPiece
              exact ⟨piece :: before, middle, after, rfl, by rw [written_cons, isBefore, isPiece, List.append_nil], stays, isAfter⟩
          | cons d more =>
              cases piece with
              | kept free e =>
                  -- The text begins with this piece.
                  have single : [e] = front ++ d :: more := isPiece
                  cases front with
                  | cons _ _ => cases (List.append_eq_nil_iff.mp (List.cons.inj single).2.symm).2
                  | nil =>
                      have whole : writeAll mark (.kept free e :: others) = text ++ rest := by
                        rw [written_cons, show (Piece.kept free e).written mark = [e] from rfl, single, isRest]
                        rfl
                      obtain ⟨middle, after, split, stays, isAfter⟩ := stays_on mark star _ text rest first unstarred whole
                      exact ⟨[], middle, after, split, rfl, stays, isAfter⟩
              | cut old =>
                  -- The text would begin in the mark, so it is part of it, or has its last star.
                  have isMark : mark = front ++ d :: more := isPiece
                  have lastStar : star ∈ d :: more := by
                    rw [isMark, List.getLast?_append, List.getLast?_cons, Option.some_or] at last
                    have isLast := Option.some.inj last
                    rw [← isLast]
                    exact List.mem_of_getLast? (List.getLast?_cons ..)
                  cases List.append_eq_append_iff.mp isRest with
                  | inl shorter =>
                      obtain ⟨extra, isTail, _⟩ := shorter
                      obtain ⟨c, member, outside⟩ := foreign
                      exact absurd (by rw [isMark, isTail]; exact List.mem_append_right _ (List.mem_append_left _ member)) outside
                  | inr longer =>
                      obtain ⟨extra, isText, _⟩ := longer
                      exact absurd (by rw [isText]; exact List.mem_append_left _ lastStar) unstarred

end Standing

section Edges
variable (mark : List Char) (isWord plain : Char → Bool) (holds : List Char → Piece → List Piece → Prop)

-- Beside a plain character, a stretch that goes begins and ends outside of the word.
structure CutEdges (before old after : List Char) : Prop where
  present : old ≠ []
  opened : before.head?.any plain = true → old.head?.any isWord = false
  closed : after.head?.any plain = true → old.getLast?.any isWord = false

variable (edges : ∀ before old rest, holds before (.cut old) rest → CutEdges isWord plain before old (readAll rest))
include edges

theorem word_before (first rest : List Piece) (along : Along holds [] (first ++ rest)) (starts : (readAll rest).head?.any plain = true)
    (ended : (writeAll mark first).reverse.head?.any isWord = false) : (readAll first).reverse.head?.any isWord = false := by
  cases List.eq_nil_or_concat first with
  | inl empty =>
      rw [empty]
      rfl
  | inr shaped =>
      obtain ⟨others, piece, rfl⟩ := shaped
      rw [List.concat_eq_append] at along ended ⊢
      rw [List.append_assoc] at along
      have here := along_split holds [] others piece rest along
      rw [read_append, List.reverse_append]
      cases piece with
      | kept free c =>
          rw [written_append, List.reverse_append] at ended
          exact ended
      | cut old =>
          have edge := edges _ old rest here
          have last := edge.closed starts
          cases shape : old.reverse with
          | nil => exact absurd (List.reverse_eq_nil_iff.mp shape) edge.present
          | cons c more =>
              rw [List.getLast?_eq_head?_reverse, shape] at last
              rw [show readAll [Piece.cut old] = old ++ [] from rfl, List.append_nil, shape]
              exact last

theorem word_after (first rest : List Piece) (along : Along holds [] (first ++ rest))
    (ends : (readAll first).reverse.head?.any plain = true) (starts : (writeAll mark rest).head?.any isWord = false) :
    (readAll rest).head?.any isWord = false := by
  cases rest with
  | nil => rfl
  | cons piece others =>
      have here := along_split holds [] first piece others along
      rw [List.append_nil] at here
      cases piece with
      | kept free c => exact starts
      | cut old =>
          have edge := edges _ old others here
          have opened := edge.opened ends
          cases old with
          | nil => exact absurd rfl edge.present
          | cons c more => exact opened

end Edges

section Marks
variable (mark : List Char) (holds : List Char → Piece → List Piece → Prop) (whole : List (Char → Bool))

-- Two characters that can stand side by side in what the classes spell.
def adjacent : List (Char → Bool) → Char → Char → Bool
  | x :: y :: later, p, f => x p && y f || adjacent (y :: later) p f
  | _, _, _ => false

theorem adjacent_within (first : List (Char → Bool)) (x y : Char → Bool) (later : List (Char → Bool)) (p f : Char) (here : x p = true)
    (next : y f = true) : adjacent (first ++ x :: y :: later) p f = true := by
  induction first with
  | nil =>
      change (x p && y f || _) = true
      rw [here, next]
      rfl
  | cons z others ih =>
      cases others with
      | nil =>
          change (z p && x f || adjacent (x :: y :: later) p f) = true
          rw [show adjacent (x :: y :: later) p f = true from ih, Bool.or_true]
      | cons w more =>
          change (z p && w f || adjacent (w :: more ++ x :: y :: later) p f) = true
          rw [ih, Bool.or_true]

theorem adjacent_refused (classes : List (Char → Bool)) (p f : Char) (refused : ∀ x ∈ classes, x p = false) : adjacent classes p f = false := by
  induction classes with
  | nil => rfl
  | cons x others ih =>
      cases others with
      | nil => rfl
      | cons y later =>
          have more := ih fun z member => refused z (List.mem_cons_of_mem x member)
          rw [adjacent, refused x List.mem_cons_self, more]
          rfl

theorem adjacent_refused_next (classes : List (Char → Bool)) (p f : Char) (refused : ∀ x ∈ classes, x f = false) :
    adjacent classes p f = false := by
  induction classes with
  | nil => rfl
  | cons x others ih =>
      cases others with
      | nil => rfl
      | cons y later =>
          have more := ih fun z member => refused z (List.mem_cons_of_mem x member)
          rw [adjacent, refused y (List.mem_cons_of_mem x List.mem_cons_self), more, Bool.and_false]
          rfl

-- A word that the classes spell has no more such characters than they have.
theorem adjacent_letters (word : List Char) (classes : List (Char → Bool)) (spelled : Spells classes word) (p f : Char)
    (apart : adjacent classes p f = false) : adjacent (letters word) p f = false := by
  have only (accepts : Char → Bool) (letter c : Char) (fits : accepts letter = true) (refused : accepts c = false) : decide (c = letter) = false := by
    refine decide_eq_false fun same => ?_
    rw [same, fits] at refused
    cases refused
  induction spelled with
  | nil => rfl
  | @cons x letter others more here later ih =>
      cases later with
      | nil => rfl
      | @cons y letter' others' more' next later' =>
          obtain ⟨pair, further⟩ := Bool.or_eq_false_iff.mp apart
          change (decide (p = letter) && decide (f = letter') || adjacent (letters (letter' :: more')) p f) = false
          rw [ih further, Bool.or_false]
          cases Bool.and_eq_false_iff.mp pair with
          | inl first => rw [only x letter p here first, Bool.false_and]
          | inr second => rw [only y letter' f next second, Bool.and_false]

-- No stretch that goes begins inside of what these classes spell.
variable (apart : ∀ before old rest, holds before (.cut old) rest → old ≠ [] ∧ ∀ p f, before.head? = some p → old.head? = some f →
  adjacent whole p f = false)
include apart

theorem opens_later (done classes : List (Char → Bool)) (x : Char → Bool) (isWhole : whole = done ++ x :: classes) (p : Char)
    (before : List Char) (fits : x p = true) (pieces : List Piece) (along : Along holds (p :: before) pieces)
    (reads : opens classes (readAll pieces) = true) : opens classes (writeAll mark pieces) = true := by
  induction classes generalizing done x p before pieces with
  | nil => rfl
  | cons y others ih =>
      cases pieces with
      | nil => cases reads
      | cons piece rest =>
          cases piece with
          | kept free c =>
              obtain ⟨here, later⟩ := (Bool.and_eq_true _ _).mp reads
              have further := ih (done ++ [x]) y (by rw [isWhole, List.append_assoc]; rfl) c (p :: before) here rest along.2 later
              change (y c && opens others (writeAll mark rest)) = true
              rw [here, further]
              rfl
          | cut old =>
              obtain ⟨present, inside⟩ := apart _ old rest along.1
              cases old with
              | nil => exact absurd rfl present
              | cons f more =>
                  obtain ⟨here, _⟩ := (Bool.and_eq_true _ _).mp reads
                  have refused := inside p f rfl rfl
                  rw [isWhole, adjacent_within done x y others p f fits here] at refused
                  cases refused

theorem opens_stays (first : Char → Bool) (classes : List (Char → Bool)) (isWhole : whole = first :: classes) (free : Bool) (c : Char)
    (before : List Char) (rest : List Piece) (along : Along holds before (.kept free c :: rest))
    (reads : opens whole (readAll (.kept free c :: rest)) = true) : opens whole (writeAll mark (.kept free c :: rest)) = true := by
  rw [isWhole] at reads ⊢
  obtain ⟨here, later⟩ := (Bool.and_eq_true _ _).mp reads
  have further := opens_later mark holds whole apart [] classes first isWhole c before here rest along.2 later
  change (first c && opens classes (writeAll mark rest)) = true
  rw [here, further]
  rfl

end Marks

section Greedy

-- A greedy run of characters at the end of a pattern leaves none behind it.
theorem greedy_end (first : Pattern) (accepts : Char → Bool) (before after : List Char) (made : Match)
    (matched : matchAt (first ++ some' (.char accepts)) before after = some made) : made.after.head?.any accepts = false := by
  rw [matchAt] at matched
  obtain ⟨stop, isFirst, rfl⟩ := Option.map_eq_some_iff.mp matched
  change ((ways first ⟨before, after, []⟩).flatMap (ways (some' (.char accepts)))).head? = some stop at isFirst
  rw [List.head?_flatMap] at isFirst
  obtain ⟨middle, _, isStop⟩ := List.exists_of_findSome?_eq_some isFirst
  obtain ⟨before', after', groups⟩ := middle
  have split := List.takeWhile_append_dropWhile (p := accepts) (l := after')
  have stops : (after'.dropWhile accepts).head?.any accepts = false := by
    cases shape : after'.dropWhile accepts with
    | nil => rfl
    | cons c more =>
        have refused := List.head_dropWhile_not accepts (l := after') (by rw [shape]; exact List.cons_ne_nil _ _)
        simp only [shape, List.head_cons] at refused
        exact refused
  have all : ∀ c ∈ after'.takeWhile accepts, accepts c = true := List.all_eq_true.mp List.all_takeWhile
  cases run : after'.takeWhile accepts with
  | nil =>
      rw [run, List.nil_append] at split
      rw [split] at stops
      have none' : ways (some' (.char accepts)) ⟨before', after', groups⟩ = [] := by
        change (ways (.char accepts) ⟨before', after', groups⟩).flatMap _ = []
        cases after' with
        | nil => rfl
        | cons c more =>
            change (if accepts c = true then _ else []).flatMap _ = []
            rw [if_neg (by rw [show accepts c = false from stops]; exact Bool.false_ne_true)]
            rfl
      rw [none'] at isStop
      cases isStop
  | cons c more =>
      have goes := first_some accepts before' (after'.takeWhile accepts) (after'.dropWhile accepts) groups
        (by rw [run]; exact List.cons_ne_nil _ _) all stops
      rw [split] at goes
      rw [First, isStop] at goes
      rw [Option.some.inj goes]
      exact stops

end Greedy

section Returning
variable (pattern other : Pattern) (replacement : Match → List Char) (mark : List Char) (holds : List Char → Piece → List Piece → Prop)

-- What a pattern takes of a written text begins with a character that stayed, and it took something there before.
def Stood (pieces : List Piece) (place : List Char) : Prop :=
  ∃ before free c later taken after caught, pieces = before ++ .kept free c :: later ∧ c :: writeAll mark later = place ∧
    c :: readAll later = taken ++ after ∧ Takes pattern (readAll before).reverse taken after caught

def Returns : Prop := ∀ pieces front taken rest caught, Along holds [] pieces → writeAll mark pieces = front ++ (taken ++ rest) →
  Takes pattern front.reverse taken rest caught → Stood pattern mark pieces (taken ++ rest)

-- A pattern that was not found is not found after the substitution of another one.
theorem returns_absent (cuts : CutsInto other replacement mark holds) (returns : Returns pattern mark holds) (text : List Char)
    (absent : found pattern text = false) : found pattern (sub other replacement text) = false := by
  obtain ⟨pieces, isRead, isWritten, along⟩ := sub_pieces other replacement mark holds cuts text
  rw [not_found_iff] at absent ⊢
  intro front taken rest caught split took
  obtain ⟨before, free, c, later, taken', after, caught', shape, _, split', took'⟩ :=
    returns pieces front taken rest caught along (by rw [isWritten, split]) took
  refine absent (readAll before) taken' after caught' ?_ took'
  rw [← isRead, shape, read_append, ← split']
  rfl

end Returning

end Regex
