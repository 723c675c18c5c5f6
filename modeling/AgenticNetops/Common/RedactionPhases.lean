import AgenticNetops.Common.RedactionKeys

set_option autoImplicit false

/- The substitutions before a label's own, one kind after the other: after each of them the
   secret stands where it stood, with the same text around of it for every secret. -/
namespace AgenticNetops.Common

open Regex PyText

variable (table : CharTable)

section Twins
variable (entry : Pattern × (Match → List Char)) (marked : List Char) (holds : List Char → Piece → List Piece → Prop)

-- How a substitution writes a text, when F, S and A come of its parts.
def Turns (front lead secret after F S A : List Char) : Prop :=
  ∃ f l s a, Written entry marked holds front lead secret after f l s a ∧ writeAll marked f = F ∧ writeAll marked s = S ∧ writeAll marked a = A

theorem turns_sub (front lead secret after F S A : List Char) (turns : Turns entry marked holds front lead secret after F S A) :
    sub entry.1 entry.2 (front ++ (lead ++ (secret ++ after))) = F ++ (lead ++ (S ++ A)) := by
  obtain ⟨f, l, s, a, written, rfl, rfl, rfl⟩ := turns
  exact written.whole

theorem front_joined (front lead secret after : List Char) (f l s a : List Piece)
    (written : Written entry marked holds front lead secret after f l s a)
    (filled : ∀ before old rest, holds before (.cut old) rest → ∀ c ∈ old, isBlank c = false) (ahead behind : List Piece)
    (isFront : f = ahead ++ behind) (shown : ∀ c ∈ writeAll marked behind, isBlank c = false) : ∀ c ∈ readAll behind, isBlank c = false := by
  have along := written.parted.along
  rw [isFront, List.append_assoc] at along
  exact filled_joined marked holds filled _ behind _ (along_append holds [] ahead _ along) shown

-- Of two texts that differ in the secret, the same is made around of it.
theorem twins_turn (cutter : Cutter table entry marked holds) (front lead secret other after : List Char) (present : lead ≠ []) (seals : Seals lead)
    (closed : Closed after) (fronts : FrontApart entry.1 front lead secret after) (inners : InnerApart entry.1 front lead secret after)
    (fronts' : FrontApart entry.1 front lead other after) (inners' : InnerApart entry.1 front lead other after) :
    ∃ F A S S', Turns entry marked holds front lead secret after F S A ∧ Turns entry marked holds front lead other after F S' A := by
  obtain ⟨f, l, s, a, written⟩ := entry_written entry cutter.solo marked holds cutter.cuts front lead secret after fronts inners closed
  obtain ⟨f', l', s', a', written'⟩ := entry_written entry cutter.solo marked holds cutter.cuts front lead other after fronts' inners' closed
  have sameFront := front_same entry cutter.solo front lead secret other after _ _ present seals fronts fronts' written.ahead written'.ahead
  have sameBehind : writeAll marked a = writeAll marked a' := by
    rw [← written.behind, ← written'.behind]
    exact behind_same entry cutter.solo _ _ after closed
  exact ⟨writeAll marked f, writeAll marked a, writeAll marked s, writeAll marked s', ⟨f, l, s, a, written, rfl, rfl, rfl⟩,
    f', l', s', a', written', sameFront.symm, rfl, sameBehind.symm⟩

end Twins

section Phases
variable (label : Pattern) (separates : Char → Bool) (takes : TakesLabels table separates label)
variable (rest : List (Pattern × (Match → List Char))) (front lead secret after F S A : List Char)

-- The conditions on the tokens of a secret.
structure TokensApart (front lead secret after : List Char) : Prop where
  aws : TokenApart (awsKey table) True front lead secret after
  provider : TokenApart (providerKey table) (∀ part, ¬ Begins' (awsKey table) front lead secret after part) front lead secret after

theorem unbegun_of (pattern : Pattern) (none' : ∀ part, ¬ Begins' pattern front lead secret after part) :
    Unbegun pattern (lead.reverse ++ front.reverse) secret after :=
  untaken_unbegun pattern _ _ _ fun first back taken behind caught split present isText took =>
    none' first ⟨back, taken, behind, caught, split, present, isText, took⟩

theorem begins_unbegun (pattern : Pattern) (unbegun : Unbegun pattern (lead.reverse ++ front.reverse) secret after)
    (present : ∀ before taken behind caught, Takes pattern before taken behind caught → taken ≠ []) (part : List Char) :
    ¬ Begins' pattern front lead secret after part := by
  rintro ⟨back, taken, behind, caught, split, filled, isText, took⟩
  cases back with
  | nil => exact filled rfl
  | cons c more =>
      have idle := unbegun part c more split
      rw [matchHere, Option.filter_eq_none_iff] at idle
      cases here : matchAt pattern (part.reverse ++ (lead.reverse ++ front.reverse)) (c :: (more ++ after)) with
      | none => exact (match_at_none pattern _ _).mp here taken behind caught isText took
      | some made =>
          obtain ⟨_, _, took'⟩ := match_at_some pattern _ _ made here
          refine idle made here ?_
          rw [Bool.not_eq_true', List.isEmpty_eq_false_iff]
          exact present _ _ _ _ took'

theorem token_present (pattern : Pattern) (tokens : TakesTokens table pattern) (before taken behind : List Char) (caught : Caught)
    (took : Takes pattern before taken behind caught) : taken ≠ [] := by
  obtain ⟨c, more, shape, _⟩ := (tokens.text _ _ _ _ took).2.starts
  rw [shape]
  exact List.cons_ne_nil _ _

include takes in
theorem lead_present (labels : Takes label front.reverse lead (secret ++ after) []) : lead ≠ [] := by
  obtain ⟨c, more, shape, _⟩ := (takes.text _ _ _ _ labels).2.starts
  rw [shape]
  exact List.cons_ne_nil _ _

-- Where the secret stays, so do its tokens.
theorem tokens_stay (entry : Pattern × (Match → List Char)) (marked : List Char) (holds : List Char → Piece → List Piece → Prop)
    (cutter : Cutter table entry marked holds) (f l s a : List Piece) (written : Written entry marked holds front lead secret after f l s a)
    (present : lead ≠ []) (filled : secret ≠ []) (fades : Fades marked s)
    (stays : ∀ pattern, TakesTokens table pattern → (∃ caught, Takes pattern (lead.reverse ++ front.reverse) secret after caught) → Stays s secret)
    (tokens : TokensApart table front lead secret after) :
    TokensApart table (writeAll marked f) lead (writeAll marked s) (writeAll marked a) := by
  refine ⟨?_, ?_⟩
  · exact token_apart_moved table entry marked holds cutter front lead secret after f l s a written _ (aws_key_takes table) _ _ present filled fades
      (fun isToken _ => ⟨stays _ (aws_key_takes table) isToken, trivial⟩) tokens.aws
  · refine token_apart_moved table entry marked holds cutter front lead secret after f l s a written _ (provider_key_takes table) _ _ present filled
      fades (fun isToken alone => ⟨stays _ (provider_key_takes table) isToken, fun part begins => ?_⟩) tokens.provider
    obtain ⟨s₁, _, _, _, before⟩ := begins_moved table entry marked holds cutter front lead secret after f l s a written _ (aws_key_takes table)
      part begins
    exact alone _ before

include takes

theorem key_phase (stands : Stands label ((pemBlock, fun _ => redactedPEM.toList) :: (urlPassword, keepLabelAndHost) :: rest) front lead secret after)
    (kinds : ∀ entry ∈ rest, Kind table entry) (spaced : KeysSpaced front lead secret after) (tokens : TokensApart table front lead secret after)
    (turns : Turns (pemBlock, fun _ => redactedPEM.toList) redactedPEM.toList
      (Holds pemBlock (fun _ _ => False) (KeyCut table) redactedPEM.toList) front lead secret after F S A) :
    Stands label ((urlPassword, keepLabelAndHost) :: rest) F lead S A ∧ TokensApart table F lead S A := by
  obtain ⟨f, l, s, a, written, rfl, rfl, rfl⟩ := turns
  have fronts : FrontApart pemBlock front lead secret after := stands.fronts _ List.mem_cons_self
  have inners : InnerApart pemBlock front lead secret after := stands.inners _ List.mem_cons_self
  have stays := key_secret_stays table front lead secret after f l s a written inners stands.filled
  have isSecret := stays_written redactedPEM.toList s secret stays
  have spacedPieces := keys_spaced table front lead secret after f l s a written fronts spaced
  have present := lead_present table label separates takes front lead secret after stands.labels
  have joint : Joint (writeAll redactedPEM.toList a) after := .inl ⟨by rw [written.head]; exact stands.closed, stands.closed⟩
  refine ⟨stands_moved table label separates takes _ _ _ (key_cutter table) front lead secret after f l s a written _ stands ?_ ?_ ?_,
    tokens_stay table front lead secret after _ _ _ (key_cutter table) f l s a written present stands.present
      (stays_fades redactedPEM.toList s secret stays) (fun _ _ _ => stays) tokens⟩
  · intro ahead behind isFront filled
    have staysBehind := spaced_joined redactedPEM.toList f ahead behind spacedPieces isFront filled
    rw [stays_read behind _ staysBehind]
    exact filled
  · rw [isSecret]
    exact stands.unmarked
  · intro other member
    cases List.mem_cons.mp member with
    | inr kind => exact .inl (kinds other kind)
    | inl url =>
        have urlFront : FrontApart urlPassword front lead secret after := stands.fronts _ (List.mem_cons_of_mem _ List.mem_cons_self)
        have urlInner : InnerApart urlPassword front lead secret after := stands.inners _ (List.mem_cons_of_mem _ List.mem_cons_self)
        rw [url, isSecret]
        exact .inr ⟨url_front redactedPEM.toList (by decide) front lead secret after _ f written.parted.front joint spacedPieces urlFront,
          url_inner front lead secret after _ joint _ urlInner⟩

theorem url_phase (stands : Stands label ((urlPassword, keepLabelAndHost) :: rest) front lead secret after)
    (kinds : ∀ entry ∈ rest, Kind table entry) (tokens : TokensApart table front lead secret after)
    (turns : Turns (urlPassword, keepLabelAndHost) mark (Holds urlPassword UrlHeld (UrlCut table) mark) front lead secret after F S A) :
    Stands label rest F lead S A ∧ TokensApart table F lead S A := by
  obtain ⟨f, l, s, a, written, rfl, rfl, rfl⟩ := turns
  have fronts : FrontApart urlPassword front lead secret after := stands.fronts _ List.mem_cons_self
  have inners : InnerApart urlPassword front lead secret after := stands.inners _ List.mem_cons_self
  have fades := sealed_fades table _ _ _ (url_cutter table) front lead secret after f l s a written fronts inners fun before old rest cut => cut.source
  have present := lead_present table label separates takes front lead secret after stands.labels
  have filled (before old : List Char) (rest : List Piece)
      (cut : Holds urlPassword UrlHeld (UrlCut table) mark before (.cut old) rest) : ∀ c ∈ old, isBlank c = false :=
    fun c member => (Bool.not_eq_true' _).mp (password_filled c (UrlCut.part cut c member))
  refine ⟨stands_moved table label separates takes _ _ _ (url_cutter table) front lead secret after f l s a written _ stands ?_ ?_
      (fun other member => .inl (kinds other member)),
    tokens_stay table front lead secret after _ _ _ (url_cutter table) f l s a written present stands.present fades ?_ tokens⟩
  · exact front_joined _ mark _ front lead secret after f l s a written filled
  · exact unmarked_moved _ mark _ front lead secret after f l s a written inners fades url_foreign stands.unmarked
  · intro pattern tokens' isToken
    obtain ⟨caught, took⟩ := isToken
    refine written.idle (foreign_unbegun urlPassword front lead secret after inners fun before taken behind caught' took' => ?_)
    obtain ⟨more, shape⟩ := (url_shape before taken behind caught' took').2.1
    refine ⟨':', by rw [shape]; exact List.mem_cons_self, fun member => ?_⟩
    have part := token_url_part ':' (((tokens'.text _ _ _ _ took).2).chars ':' member)
    cases part

-- A token that is the whole secret turns it into the mark, and any other leaves it unmarked.
theorem token_phase (pattern : Pattern) (tokens : TakesTokens table pattern) (blind : pattern.blind = true) (whole : TakesWhole pattern) (alone : Prop)
    (stands : Stands label ((pattern, fun _ => mark) :: rest) front lead secret after) (kinds : ∀ entry ∈ rest, Kind table entry)
    (apart : TokenApart pattern alone front lead secret after)
    (turns : Turns (pattern, fun _ => mark) mark (Holds pattern (fun _ _ => False) (TokenCut table pattern) mark) front lead secret after F S A) :
    Stands label rest F lead S A ∧ (S = mark ∨ ∃ f l s a,
      Written (pattern, fun _ => mark) mark (Holds pattern (fun _ _ => False) (TokenCut table pattern) mark) front lead secret after f l s a ∧
        writeAll mark f = F ∧ writeAll mark s = S ∧ writeAll mark a = A ∧ Fades mark s) := by
  obtain ⟨f, l, s, a, written, rfl, rfl, rfl⟩ := turns
  have fronts : FrontApart pattern front lead secret after := stands.fronts _ List.mem_cons_self
  have inners : InnerApart pattern front lead secret after := stands.inners _ List.mem_cons_self
  have filled (before old : List Char) (rest : List Piece)
      (cut : Holds pattern (fun _ _ => False) (TokenCut table pattern) mark before (.cut old) rest) : ∀ c ∈ old, isBlank c = false :=
    fun c member => (Bool.not_eq_true' _).mp ((Bool.and_eq_true _ _).mp (TokenCut.part cut c member)).2
  have moved (unmarked : writeAll mark s = mark ∨ opens foldedMark (writeAll mark s) = false) :=
    stands_moved table label separates takes _ _ _ (token_cutter table pattern tokens blind) front lead secret after f l s a written rest stands
      (front_joined _ mark _ front lead secret after f l s a written filled) unmarked fun other member => .inl (kinds other member)
  cases apart with
  | inl quiet =>
      have fades := token_fades table _ _ _ (token_cutter table pattern tokens blind) front lead secret after f l s a written fronts inners rfl
        (fun before old rest cut => TokenCut.source cut) quiet
      refine ⟨moved (unmarked_moved _ mark _ front lead secret after f l s a written inners fades (token_foreign table pattern tokens) stands.unmarked),
        .inr ⟨f, l, s, a, written, rfl, rfl, rfl, fades⟩⟩
  | inr isToken =>
      have masked := whole_written table pattern _ front lead secret after f l s a written tokens whole inners stands.closed isToken.1
      exact ⟨moved (.inl masked), .inl masked⟩

theorem label_phase (label' : Pattern) (separates' : Char → Bool) (takes' : TakesLabels table separates' label') (blind : label'.blind = true)
    (stands : Stands label ((labelled label', keepLabel) :: rest) front lead secret after) (kinds : ∀ entry ∈ rest, Kind table entry)
    (turns : Turns (labelled label', keepLabel) mark (Holds (labelled label') (LabelHeld separates') (ValueCut table label') mark)
      front lead secret after F S A) : Stands label rest F lead S A := by
  obtain ⟨f, l, s, a, written, rfl, rfl, rfl⟩ := turns
  have fronts : FrontApart (labelled label') front lead secret after := stands.fronts _ List.mem_cons_self
  have inners : InnerApart (labelled label') front lead secret after := stands.inners _ List.mem_cons_self
  have cutter := label_cutter table label' separates' takes' blind
  have fades := sealed_fades table _ _ _ cutter front lead secret after f l s a written fronts inners fun before old rest cut => ValueCut.source cut
  have filled (before old : List Char) (rest : List Piece)
      (cut : Holds (labelled label') (LabelHeld separates') (ValueCut table label') mark before (.cut old) rest) : ∀ c ∈ old, isBlank c = false :=
    ValueCut.filled cut
  exact stands_moved table label separates takes _ _ _ cutter front lead secret after f l s a written rest stands
    (front_joined _ mark _ front lead secret after f l s a written filled)
    (unmarked_moved _ mark _ front lead secret after f l s a written inners fades (label_foreign table label' separates' takes') stands.unmarked)
    fun other member => .inl (kinds other member)

end Phases

end AgenticNetops.Common
