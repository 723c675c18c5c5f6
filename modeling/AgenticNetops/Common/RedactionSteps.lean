import AgenticNetops.Common.RedactionPlaces

set_option autoImplicit false

/- One substitution on a text with a credential that stands apart: the label stays, and
   what becomes of the text in front and behind does not depend on the secret. -/
namespace AgenticNetops.Common

open Regex PyText

variable (table : CharTable)

section Marks

theorem exact_sealed (c : Char) (refused : ∀ accepts ∈ foldedMark, accepts c = false) : ∀ accepts ∈ exactMark, accepts c = false := by
  intro accepts member
  obtain ⟨letter, listed, rfl⟩ := List.mem_map.mp member
  refine decide_eq_false fun same => ?_
  have spelled : mark.all (fun letter => foldedMark.any fun accepts => accepts letter) = true := by decide
  obtain ⟨folded, inside, fits⟩ := List.any_eq_true.mp (List.all_eq_true.mp spelled letter listed)
  rw [← same, refused folded inside] at fits
  cases fits

-- Behind a label, no mark is told from another text.
theorem opens_sealed (front lead rest other : List Char) (seals : Seals lead) :
    opens foldedMark (front ++ (lead ++ rest)) = opens foldedMark (front ++ (lead ++ other)) ∧
      opens exactMark (front ++ (lead ++ rest)) = opens exactMark (front ++ (lead ++ other)) := by
  obtain ⟨c, member, refused⟩ := seals
  obtain ⟨first, later, rfl⟩ := List.append_of_mem member
  have shape (rest : List Char) : front ++ ((first ++ c :: later) ++ rest) = (front ++ first) ++ c :: (later ++ rest) := by
    simp only [List.append_assoc, List.cons_append]
  rw [shape, shape]
  exact ⟨opens_stopped foldedMark _ _ _ c refused, opens_stopped exactMark _ _ _ c (exact_sealed c refused)⟩

end Marks

section Entries

-- What is common to the entries of the list.
structure Solo (entry : Pattern × (Match → List Char)) : Prop where
  starts : ∀ before taken after caught, Takes entry.1 before taken after caught → ∃ c more, taken = c :: more ∧ isBlank c = false ∧ c ≠ '@'
  alike : ∀ first second : Around, (∀ way : Way, opens foldedMark (way.rest ++ first.after) = opens foldedMark (way.rest ++ second.after)) →
    (∀ way : Way, opens exactMark (way.rest ++ first.after) = opens exactMark (way.rest ++ second.after)) → Alike first second entry.1
  respects : ∀ made other : Match, made.groups = other.groups → entry.2 made = entry.2 other

theorem plain_filled (c : Char) (plain : plainWord c = true) : isBlank c = false ∧ c ≠ '@' := by
  simp only [plainWord, isAlnumAscii, isUpper, NetIP.isDigit, Bool.or_eq_true, Bool.and_eq_true, decide_eq_true_eq, char_le_iff,
    ← Char.toNat_inj, Char.reduceToNat] at plain
  refine ⟨code_filled c (by omega), fun isAt => ?_⟩
  rw [isAt] at plain
  exact absurd plain (by decide)

theorem keep_respects (made other : Match) (same : made.groups = other.groups) : keepLabel made = keepLabel other := by
  rw [keepLabel, keepLabel, Match.group, Match.group, same]

theorem token_solo (pattern : Pattern) (takes : TakesTokens table pattern) (blind : pattern.blind = true) : Solo (pattern, fun _ => mark) := by
  refine ⟨fun before taken after caught took => ?_, fun first second _ _ => alike_blind first second pattern blind, fun _ _ _ => rfl⟩
  obtain ⟨c, more, shape, listed⟩ := (takes.text _ _ _ _ took).2.starts
  have plain : ['A', 's', 'p', 'k', 'e'].all plainWord = true := by decide
  exact ⟨c, more, shape, plain_filled c (List.all_eq_true.mp plain c listed)⟩

theorem label_solo (label : Pattern) (separates : Char → Bool) (takes : TakesLabels table separates label) (blind : label.blind = true) :
    Solo (labelled label, keepLabel) := by
  refine ⟨fun before taken after caught took => ?_, fun first second folded _ => ?_, keep_respects⟩
  · obtain ⟨lead, value, rfl, _, isLead, _⟩ := (labelled_takes table label separates takes _ _ _ _).mp took
    obtain ⟨c, more, rfl, plain⟩ := (takes.text _ _ _ _ isLead).2.starts
    exact ⟨c, more ++ value, rfl, plain_filled c plain⟩
  · exact ⟨⟨alike_blind first second label blind, alike_ahead first second _ foldedMark not_marker_takes folded⟩,
      alike_blind first second secret rfl⟩

theorem url_solo : Solo (urlPassword, keepLabelAndHost) := by
  refine ⟨fun before taken after caught took => ?_, fun first second _ exactly => ?_, fun made other same => ?_⟩
  · obtain ⟨more, shape⟩ := (url_shape before taken after caught took).2.1
    exact ⟨':', more, shape, rfl, by decide⟩
  · exact ⟨⟨⟨alike_blind first second (.group "1" _) rfl, alike_ahead first second _ exactMark not_exact_takes exactly⟩,
      alike_blind first second (some' _) rfl⟩, alike_blind first second (.group "2" _) rfl⟩
  · have label := keep_respects made other same
    change keepLabel made ++ _ = keepLabel other ++ _
    rw [label, Match.group, Match.group, same]

theorem key_solo : Solo (pemBlock, fun _ => redactedPEM.toList) := by
  refine ⟨fun before taken after caught took => ?_, fun first second _ _ => alike_blind first second pemBlock rfl, fun _ _ _ => rfl⟩
  obtain ⟨more, shape⟩ := List.head?_eq_some_iff.mp (key_takes before taken after caught took).1
  exact ⟨'-', more, shape, rfl, by decide⟩

end Entries

section Ends
variable (pattern : Pattern) (front lead secret after : List Char)

theorem occurs_place (before taken behind : List Char) (caught : Caught) (split : front ++ (lead ++ (secret ++ after)) = before ++ (taken ++ behind))
    (took : Takes pattern before.reverse taken behind caught) :
    Occurs' pattern front lead secret after before.length (before ++ taken).length :=
  ⟨before, taken, behind, caught, split, took, rfl, rfl⟩

-- Nothing begins in what comes behind the secret before its first character has passed.
def Closed (after : List Char) : Prop := ∀ c more, after = c :: more → isBlank c = true ∨ c = '@'

theorem front_ends (apart : FrontApart pattern front lead secret after) : AllEnd pattern [] front (lead ++ (secret ++ after)) := by
  intro first back split present text more caught isText took
  rw [List.append_nil] at took
  have occurs := occurs_place pattern front lead secret after first text more caught (by rw [split, List.append_assoc, isText]) took
  have some_length := List.length_pos_iff.mpr present
  have stops := apart _ _ occurs (by rw [split, List.length_append]; omega)
  rw [split, List.length_append, List.length_append] at stops
  omega

theorem label_unbegun (apart : InnerApart pattern front lead secret after) : Unbegun pattern front.reverse lead (secret ++ after) := by
  refine untaken_unbegun pattern _ _ _ fun first back taken behind caught split present isText took => ?_
  have place : first.reverse ++ front.reverse = (front ++ first).reverse := List.reverse_append.symm
  rw [place] at took
  have occurs := occurs_place pattern front lead secret after (front ++ first) taken behind caught
    (by rw [split, List.append_assoc front, List.append_assoc first, isText]) took
  have some_length := List.length_pos_iff.mpr present
  have whole : (front ++ (first ++ back)).length = (front ++ first).length + back.length := by
    rw [← List.append_assoc]
    exact List.length_append
  refine apart.label _ _ occurs (by rw [List.length_append]; omega) ?_
  rw [split, whole]
  omega

theorem secret_place (first back taken behind : List Char) (caught : Caught) (split : secret = first ++ back)
    (isText : back ++ after = taken ++ behind) (took : Takes pattern (first.reverse ++ (lead.reverse ++ front.reverse)) taken behind caught) :
    Occurs' pattern front lead secret after (front ++ (lead ++ first)).length (front ++ (lead ++ (first ++ taken))).length := by
  have place : first.reverse ++ (lead.reverse ++ front.reverse) = (front ++ (lead ++ first)).reverse := by
    rw [List.reverse_append, List.reverse_append, List.append_assoc]
  rw [place] at took
  have occurs := occurs_place pattern front lead secret after (front ++ (lead ++ first)) taken behind caught
    (by rw [split, List.append_assoc front, List.append_assoc lead, List.append_assoc first, isText]) took
  rw [List.append_assoc front, List.append_assoc lead] at occurs
  exact occurs

theorem secret_ends (apart : InnerApart pattern front lead secret after) : AllEnd pattern (lead.reverse ++ front.reverse) secret after := by
  intro first back split present text more caught isText took
  have occurs := secret_place pattern front lead secret after first back text more caught split isText took
  have some_length := List.length_pos_iff.mpr present
  have stops := apart.secret _ _ occurs (by simp only [List.length_append]; omega) (by simp only [split, List.length_append]; omega)
  simp only [split, List.length_append] at stops
  omega

-- What has a character that the secret does not have cannot begin there.
theorem foreign_unbegun (apart : InnerApart pattern front lead secret after)
    (foreign : ∀ before taken behind caught, Takes pattern before taken behind caught → ∃ c ∈ taken, c ∉ secret) :
    Unbegun pattern (lead.reverse ++ front.reverse) secret after := by
  refine untaken_unbegun pattern _ _ _ fun first back taken behind caught split present isText took => ?_
  obtain ⟨c, member, outside⟩ := foreign _ _ _ _ took
  have short := secret_ends pattern front lead secret after apart first back split present taken behind caught isText took
  cases List.append_eq_append_iff.mp isText with
  | inl longer =>
      obtain ⟨extra, isTaken, _⟩ := longer
      have none' : extra = [] := by
        rw [isTaken, List.length_append] at short
        exact List.length_eq_zero_iff.mp (by omega)
      rw [isTaken, none', List.append_nil] at member
      exact outside (by rw [split]; exact List.mem_append_right _ member)
  | inr shorter =>
      obtain ⟨extra, isBack, _⟩ := shorter
      exact outside (by rw [split, isBack]; exact List.mem_append_right _ (List.mem_append_left _ member))

end Ends

section Step
variable (entry : Pattern × (Match → List Char)) (solo : Solo entry) (marked : List Char) (holds : List Char → Piece → List Piece → Prop)
variable (cuts : CutsInto entry.1 entry.2 marked holds)

include solo in
theorem closing_kept (before more : List Char) (c : Char) (closes : isBlank c = true ∨ c = '@') :
    matchHere entry.1 before (c :: more) = none := by
  cases here : matchHere entry.1 before (c :: more) with
  | none => rfl
  | some made =>
      obtain ⟨_, _, isText, took⟩ := match_here_some entry.1 before _ made here
      obtain ⟨d, others, shape, filled, notAt⟩ := solo.starts _ _ _ _ took
      rw [shape] at isText
      rw [← (List.cons.inj isText).1] at filled notAt
      cases closes with
      | inl blank =>
          rw [filled] at blank
          cases blank
      | inr isAt => exact absurd isAt notAt

include solo cuts in
theorem behind_pieces (before after : List Char) (closed : Closed after) :
    ∃ pieces, readAll pieces = after ∧ subAfter entry.1 entry.2 before after = writeAll marked pieces ∧ Along holds before pieces ∧
      (writeAll marked pieces).head? = after.head? := by
  cases after with
  | nil => exact ⟨[], rfl, sub_after_nil entry.1 entry.2 before, trivial, rfl⟩
  | cons c more =>
      have kept := closing_kept entry solo before more c (closed c more rfl)
      obtain ⟨pieces, isRead, isWritten, joined⟩ := sub_parted entry.1 entry.2 marked holds cuts (c :: before) more []
        (all_end_nil entry.1 _ more)
      rw [List.append_nil, sub_after_nil, List.append_nil] at isWritten
      refine ⟨.kept true c :: pieces, by rw [read_cons, isRead]; rfl, ?_, ⟨?_, ?_⟩, rfl⟩
      · rw [sub_after_kept entry.1 entry.2 before more c kept, isWritten]
        rfl
      · refine cuts.free before c pieces ?_
        rw [isRead]
        exact kept
      · have along := joined [] rfl trivial
        rw [List.append_nil] at along
        exact along

-- What comes behind a character is written in the same way, whatever stands before it.
include solo in
theorem tail_same (before before' more : List Char) (c : Char) :
    subAfter entry.1 entry.2 (c :: before) more = subAfter entry.1 entry.2 (c :: before') more := by
  obtain ⟨out, isFirst, isSecond⟩ := sub_alike entry.1 entry.2 ⟨c :: before, []⟩ ⟨c :: before', []⟩ ⟨rfl, rfl⟩
    (solo.alike _ _ (fun _ => rfl) fun _ => rfl) solo.respects [] more (all_end_nil entry.1 _ more) (all_end_nil entry.1 _ more)
  rw [sub_after_nil] at isFirst isSecond
  have same := isFirst.trans isSecond.symm
  rw [List.append_nil] at same
  exact same

include solo in
theorem behind_same (before before' after : List Char) (closed : Closed after) :
    subAfter entry.1 entry.2 before after = subAfter entry.1 entry.2 before' after := by
  cases after with
  | nil => rw [sub_after_nil, sub_after_nil]
  | cons c more =>
      have closes := closed c more rfl
      rw [sub_after_kept entry.1 entry.2 before more c (closing_kept entry solo before more c closes),
        sub_after_kept entry.1 entry.2 before' more c (closing_kept entry solo before' more c closes)]
      exact congrArg (List.cons c) (tail_same entry solo before before' more c)

-- The text in front is written in the same way for both secrets.
include solo in
theorem front_same (front lead secret other after written written' : List Char) (present : lead ≠ []) (seals : Seals lead)
    (apart : FrontApart entry.1 front lead secret after) (apart' : FrontApart entry.1 front lead other after)
    (isWritten : subAfter entry.1 entry.2 [] (front ++ (lead ++ (secret ++ after))) =
      written ++ subAfter entry.1 entry.2 front.reverse (lead ++ (secret ++ after)))
    (isWritten' : subAfter entry.1 entry.2 [] (front ++ (lead ++ (other ++ after))) =
      written' ++ subAfter entry.1 entry.2 front.reverse (lead ++ (other ++ after))) : written = written' := by
  have near : Near ⟨[], lead ++ (secret ++ after)⟩ ⟨[], lead ++ (other ++ after)⟩ := by
    refine ⟨rfl, ?_⟩
    cases lead with
    | nil => exact absurd rfl present
    | cons c more => rfl
  have alike := solo.alike ⟨[], lead ++ (secret ++ after)⟩ ⟨[], lead ++ (other ++ after)⟩
    (fun way => (opens_sealed way.rest lead _ _ seals).1) fun way => (opens_sealed way.rest lead _ _ seals).2
  obtain ⟨out, isFirst, isSecond⟩ := sub_alike entry.1 entry.2 _ _ near alike solo.respects [] front
    (front_ends entry.1 front lead secret after apart) (front_ends entry.1 front lead other after apart')
  have nothing : front.reverse ++ ([] ++ []) = front.reverse := List.append_nil _
  rw [show front.reverse ++ ([] ++ (⟨[], lead ++ (secret ++ after)⟩ : Around).before) = front.reverse from nothing] at isFirst
  rw [show front.reverse ++ ([] ++ (⟨[], lead ++ (other ++ after)⟩ : Around).before) = front.reverse from nothing] at isSecond
  have first : written = out := List.append_cancel_right (isWritten.symm.trans isFirst)
  have second : written' = out := List.append_cancel_right (isWritten'.symm.trans isSecond)
  rw [first, second]

-- The parts of a text with a credential, as a substitution writes them.
structure Written (front lead secret after : List Char) (f l s a : List Piece) : Prop where
  parted : Parted holds front lead secret after f l s a
  ahead : subAfter entry.1 entry.2 [] (front ++ (lead ++ (secret ++ after))) =
    writeAll marked f ++ subAfter entry.1 entry.2 front.reverse (lead ++ (secret ++ after))
  behind : subAfter entry.1 entry.2 (secret.reverse ++ (lead.reverse ++ front.reverse)) after = writeAll marked a
  head : (writeAll marked a).head? = after.head?
  whole : sub entry.1 entry.2 (front ++ (lead ++ (secret ++ after))) = writeAll marked f ++ (lead ++ (writeAll marked s ++ writeAll marked a))
  idle : Unbegun entry.1 (lead.reverse ++ front.reverse) secret after → Stays s secret

include solo cuts in
theorem entry_written (front lead secret after : List Char) (apart : FrontApart entry.1 front lead secret after)
    (inner : InnerApart entry.1 front lead secret after) (closed : Closed after) :
    ∃ f l s a, Written entry marked holds front lead secret after f l s a := by
  obtain ⟨f, readFront, isFront, joinFront⟩ := sub_parted entry.1 entry.2 marked holds cuts [] front (lead ++ (secret ++ after))
    (front_ends entry.1 front lead secret after apart)
  rw [List.append_nil] at isFront joinFront
  have unbegun := label_unbegun entry.1 front lead secret after inner
  have isLabel := sub_unbegun entry.1 entry.2 front.reverse lead (secret ++ after) unbegun
  obtain ⟨l, stays, joinLabel⟩ := unbegun_pieces entry.1 entry.2 marked holds cuts front.reverse lead (secret ++ after) unbegun
  obtain ⟨a, readAfter, isAfter, alongAfter, isHead⟩ := behind_pieces entry solo marked holds cuts
    (secret.reverse ++ (lead.reverse ++ front.reverse)) after closed
  have inside : ∃ s, readAll s = secret ∧ subAfter entry.1 entry.2 (lead.reverse ++ front.reverse) (secret ++ after) =
      writeAll marked s ++ subAfter entry.1 entry.2 (secret.reverse ++ (lead.reverse ++ front.reverse)) after ∧
      (∀ others, readAll others = after → Along holds (secret.reverse ++ (lead.reverse ++ front.reverse)) others →
        Along holds (lead.reverse ++ front.reverse) (s ++ others)) ∧
      (Unbegun entry.1 (lead.reverse ++ front.reverse) secret after → Stays s secret) := by
    by_cases idle : Unbegun entry.1 (lead.reverse ++ front.reverse) secret after
    · obtain ⟨s, staysSecret, joinSecret⟩ := unbegun_pieces entry.1 entry.2 marked holds cuts _ secret after idle
      refine ⟨s, stays_read s secret staysSecret, ?_, joinSecret, fun _ => staysSecret⟩
      rw [sub_unbegun entry.1 entry.2 _ secret after idle, stays_written marked s secret staysSecret]
    · obtain ⟨s, readSecret, isSecret, joinSecret⟩ := sub_parted entry.1 entry.2 marked holds cuts _ secret after
        (secret_ends entry.1 front lead secret after inner)
      exact ⟨s, readSecret, isSecret, joinSecret, fun idle' => absurd idle' idle⟩
  obtain ⟨s, readSecret, isSecret, joinSecret, idle⟩ := inside
  refine ⟨f, l, s, a, ⟨?_, readFront, stays, readSecret, readAfter⟩, isFront, isAfter, isHead, ?_, idle⟩
  · have tail := joinSecret a readAfter alongAfter
    have onward := joinLabel (s ++ a) (by rw [read_append, readSecret, readAfter]) tail
    exact joinFront (l ++ (s ++ a)) (by rw [read_append, read_append, stays_read l lead stays, readSecret, readAfter]) onward
  · rw [← isAfter, ← isSecret, ← isLabel, ← isFront]
    rfl

end Step

end AgenticNetops.Common
