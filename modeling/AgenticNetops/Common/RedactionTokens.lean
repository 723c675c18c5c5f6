import AgenticNetops.Common.RedactionStands

set_option autoImplicit false

/- Tokens in a secret. One that is the whole secret becomes the mark, and any other leaves
   a text that does not begin with one. -/
namespace AgenticNetops.Common

open Regex PyText

variable (table : CharTable)

section Longest

-- A pattern that takes a token whole, to the end of the text or to a blank.
def TakesWhole (pattern : Pattern) : Prop :=
  ∀ before taken after caught made, Takes pattern before taken after caught → after.head?.any (fun c => !isBlank c) = false →
    matchAt pattern before (taken ++ after) = some made → made.text = taken

theorem same_ends (text taken other rest more : List Char) (isFirst : text = taken ++ rest) (isSecond : text = other ++ more)
    (short : more.length ≤ rest.length) (closed : rest.head?.any (fun c => !isBlank c) = false) (filled : ∀ c ∈ other, isBlank c = false) :
    other = taken := by
  cases List.append_eq_append_iff.mp (isFirst.symm.trans isSecond) with
  | inr shorter =>
      obtain ⟨extra, isTaken, isMore⟩ := shorter
      have none' : extra = [] := by
        rw [isMore, List.length_append] at short
        exact List.length_eq_zero_iff.mp (by omega)
      rw [isTaken, none', List.append_nil]
  | inl longer =>
      obtain ⟨extra, isOther, isRest⟩ := longer
      cases extra with
      | nil => rw [isOther, List.append_nil]
      | cons c others =>
          rw [isRest] at closed
          have here := filled c (by rw [isOther]; exact List.mem_append_right _ List.mem_cons_self)
          change (!isBlank c) = false at closed
          rw [here] at closed
          cases closed

theorem token_filled (taken : List Char) (token : TokenText taken) : ∀ c ∈ taken, isBlank c = false := by
  intro c member
  exact (Bool.not_eq_true' _).mp ((Bool.and_eq_true _ _).mp (token_url_part c (token.chars c member))).2

theorem aws_length (before taken after : List Char) (caught : Caught) (took : Takes (awsKey table) before taken after caught) : taken.length = 20 := by
  rw [awsKey, edge, takes_closing, takes_assoc, takes_opening] at took
  obtain ⟨⟨_, left, right, _, _, rfl, _, isLeft, isRest⟩, _⟩ := took
  obtain ⟨_, count, _⟩ := takes_times _ 16 _ _ _ _ isRest
  rw [List.length_append, count]
  cases isLeft with
  | inl akia =>
      obtain ⟨_, rfl⟩ := (takes_exact _ _ _ _ _).mp akia
      rfl
  | inr asia =>
      obtain ⟨_, rfl⟩ := (takes_exact _ _ _ _ _).mp asia
      rfl

theorem aws_whole : TakesWhole (awsKey table) := by
  intro before taken after caught made took closed matched
  obtain ⟨_, split, took'⟩ := match_at_some (awsKey table) before _ made matched
  have first := aws_length table before taken after caught took
  have second := aws_length table _ _ _ _ took'
  have length := congrArg List.length split
  rw [List.length_append, List.length_append, first, second] at length
  refine same_ends _ taken made.text after made.after rfl split (by omega) closed ?_
  exact token_filled made.text ((aws_key_takes table).text _ _ _ _ took').2

-- No word in front of a provider's key begins another one.
theorem provider_lead (before taken after : List Char) (caught : Caught)
    (took : Takes (edge table ++ oneOf (providerLeads.map exact) ++ exact "-") before taken after caught) :
    caught = [] ∧ ∃ word ∈ providerLeads, taken = word.toList ++ ['-'] := by
  rw [takes_assoc, edge, takes_opening] at took
  obtain ⟨_, left, right, _, _, rfl, rfl, isLead, isDash⟩ := took
  obtain ⟨rfl, rfl⟩ := (takes_exact _ _ _ _ _).mp isDash
  obtain ⟨pattern, listed, isWord⟩ := (takes_one_of (providerLeads.map exact) (by decide) _ _ _ _).mp isLead
  obtain ⟨word, member, rfl⟩ := List.mem_map.mp listed
  obtain ⟨rfl, rfl⟩ := (takes_exact _ _ _ _ _).mp isWord
  exact ⟨rfl, word, member, rfl⟩

theorem leads_apart (word other : String) (listed : word ∈ providerLeads) (listed' : other ∈ providerLeads) (rest more : List Char)
    (same : (word.toList ++ ['-']) ++ rest = (other.toList ++ ['-']) ++ more) : word.toList = other.toList := by
  have apart : providerLeads.all (fun word => providerLeads.all fun other =>
      word.toList == other.toList || !(word.toList ++ ['-']).isPrefixOf (other.toList ++ ['-'])) = true := by decide
  have either (word other : String) (listed : word ∈ providerLeads) (listed' : other ∈ providerLeads)
      (begins : word.toList ++ ['-'] <+: other.toList ++ ['-']) : word.toList = other.toList := by
    have here := List.all_eq_true.mp (List.all_eq_true.mp apart word listed) other listed'
    rw [List.isPrefixOf_iff_prefix.mpr begins, Bool.not_true, Bool.or_false] at here
    exact eq_of_beq here
  cases List.append_eq_append_iff.mp same with
  | inl longer => exact either word other listed listed' ⟨longer.choose, longer.choose_spec.1.symm⟩
  | inr shorter => exact (either other word listed' listed ⟨shorter.choose, shorter.choose_spec.1.symm⟩).symm

theorem provider_whole : TakesWhole (providerKey table) := by
  have words : oneOf (["sk", "pk", "pk_live", "sk_live", "key"].map exact) = oneOf (providerLeads.map exact) := rfl
  have sameWays (place : Place) : ways (providerKey table) place =
      ways ((edge table ++ oneOf (providerLeads.map exact) ++ exact "-") ++ (atLeast 16 isTokenChar ++ edge table)) place := List.flatMap_assoc
  intro before taken after caught made took closed matched
  obtain ⟨_, split, took'⟩ := match_at_some (providerKey table) before _ made matched
  rw [matchAt, sameWays] at matched
  rw [providerKey, words, takes_assoc] at took
  refine same_ends _ taken made.text after made.after rfl split ?_ closed (token_filled made.text ((provider_key_takes table).text _ _ _ _ took').2)
  refine longest_match _ _ before taken after caught made (fun place middle isMiddle other isOther => ?_) (fun place => ?_) took matched
  · obtain ⟨text, caught₁, split₁, isBefore₁, isGroups₁, took₁⟩ := (ways_reach _ _ _).mp isMiddle
    obtain ⟨text', caught₂, split₂, isBefore₂, isGroups₂, took₂⟩ := (ways_reach _ _ _).mp isOther
    obtain ⟨rfl, word, listed, rfl⟩ := provider_lead table _ _ _ _ took₁
    obtain ⟨rfl, word', listed', rfl⟩ := provider_lead table _ _ _ _ took₂
    have whole := split₁.symm.trans split₂
    have sameWord := leads_apart word word' listed listed' _ _ whole
    rw [sameWord] at whole isBefore₁
    refine place_same other middle (List.append_cancel_left whole).symm ?_ ?_
    · rw [isBefore₁, isBefore₂]
    · rw [isGroups₁, isGroups₂]
  · refine bounded_falling _ _ ?_
    exact flat_falling _ _ (times_few isTokenChar 16 place) fun place => rounds_falling isTokenChar _ place

end Longest

section Foreign

theorem token_foreign (pattern : Pattern) (takes : TakesTokens table pattern) (before taken after : List Char) (caught : Caught)
    (took : Takes pattern before taken after caught) : ∃ c ∈ taken, c ∉ mark := by
  obtain ⟨c, member, outside⟩ := (takes.text _ _ _ _ took).2.foreign
  exact ⟨c, member, fun inside => outside (mark_is.chars c inside)⟩

theorem label_foreign (label : Pattern) (separates : Char → Bool) (takes : TakesLabels table separates label) (before taken after : List Char)
    (caught : Caught) (took : Takes (labelled label) before taken after caught) : ∃ c ∈ taken, c ∉ mark := by
  obtain ⟨lead, value, rfl, _, isLead, _⟩ := (labelled_takes table label separates takes _ _ _ _).mp took
  obtain ⟨c, member, outside⟩ := (takes.text _ _ _ _ isLead).2.foreign
  exact ⟨c, List.mem_append_left _ member, fun inside => outside (mark_is.chars c inside)⟩

theorem url_foreign (before taken after : List Char) (caught : Caught) (took : Takes urlPassword before taken after caught) :
    ∃ c ∈ taken, c ∉ mark := by
  obtain ⟨more, rfl⟩ := (url_shape before taken after caught took).2.1
  exact ⟨':', List.mem_cons_self, by decide⟩

end Foreign

section Moves
variable (entry : Pattern × (Match → List Char)) (marked : List Char) (holds : List Char → Piece → List Piece → Prop)
variable (cutter : Cutter table entry marked holds) (front lead secret after : List Char) (f l s a : List Piece)
variable (written : Written entry marked holds front lead secret after f l s a)

include written in
theorem unmarked_moved (inners : InnerApart entry.1 front lead secret after) (fades : Fades marked s)
    (foreign : ∀ before taken behind caught, Takes entry.1 before taken behind caught → ∃ c ∈ taken, c ∉ mark)
    (unmarked : secret = mark ∨ opens foldedMark secret = false) : writeAll marked s = mark ∨ opens foldedMark (writeAll marked s) = false := by
  cases unmarked with
  | inl same =>
      have unbegun := foreign_unbegun entry.1 front lead secret after inners (by rw [same]; exact foreign)
      rw [stays_written marked s secret (written.idle unbegun)]
      exact .inl same
  | inr closed =>
      have faded := fades s [] [] (List.append_nil s).symm
      rw [written.parted.secret, List.append_nil, List.append_nil] at faded
      exact .inr (faded closed)

include cutter written in
theorem begins_moved (pattern : Pattern) (takes : TakesTokens table pattern) (part : List Char)
    (begins : Begins' pattern (writeAll marked f) lead (writeAll marked s) (writeAll marked a) part) :
    ∃ s₁ s₂, s = s₁ ++ s₂ ∧ part = writeAll marked s₁ ∧ Begins' pattern front lead secret after (readAll s₁) := by
  obtain ⟨back, taken, behind, caught, split, present, isText, took⟩ := begins
  have occurs := secret_place pattern (writeAll marked f) lead (writeAll marked s) (writeAll marked a) part back taken behind caught split isText took
  obtain ⟨first, middle, rest, _, shape, isStart, _, _, _, before⟩ :=
    token_place table marked cutter.isMark holds cutter.masks front lead secret after f l s a written.parted pattern takes _ _ occurs
  have some_length := List.length_pos_iff.mpr present
  obtain ⟨s₁, s₂, rfl, isS, present₂⟩ := within_secret table entry marked holds cutter front lead secret after f l s a written first (middle ++ rest)
    shape (by rw [← isStart]; simp only [List.length_append]; omega) (by rw [← isStart, split]; simp only [List.length_append]; omega)
  have isPart : part = writeAll marked s₁ := by
    have whole : part ++ back = writeAll marked s₁ ++ writeAll marked s₂ := by
      rw [← split, isS, written_append]
    refine (List.append_inj whole ?_).1
    rw [written_append, written_append, stays_written marked l lead written.parted.lead] at isStart
    simp only [List.length_append] at isStart
    omega
  refine ⟨s₁, s₂, isS, isPart, ?_⟩
  have isFirst : readAll (f ++ (l ++ s₁)) = front ++ (lead ++ readAll s₁) := by
    rw [read_append, read_append, written.parted.front, stays_read l lead written.parted.lead]
  rw [isFirst] at before
  refine occurs_begins front lead secret after pattern (readAll s₁) (readAll s₂) _ (by rw [← written.parted.secret, isS, read_append]) ?_ before
  cases s₂ with
  | nil => exact absurd rfl present₂
  | cons piece others =>
      cases piece with
      | kept free c => exact List.cons_ne_nil _ _
      | cut old =>
          have along := written.parted.along
          rw [isS] at along
          simp only [List.append_assoc, List.cons_append] at along
          have here := along_split holds [] (f ++ (l ++ s₁)) (.cut old) (others ++ a) (by
            simp only [List.append_assoc]
            exact along)
          exact fun empty => (cutter.masks.fact _ _ _ here).edges.present (List.append_eq_nil_iff.mp empty).1

theorem last_head (text before other : List Char) (present : text ≠ []) : (text.reverse ++ before).head? = (text.reverse ++ other).head? := by
  cases List.eq_nil_or_concat text with
  | inl empty => exact absurd empty present
  | inr shaped =>
      obtain ⟨front, last, isText⟩ := shaped
      rw [isText, List.concat_eq_append, List.reverse_append]
      rfl

include cutter written in
theorem token_apart_moved (pattern : Pattern) (takes : TakesTokens table pattern) (alone alone' : Prop) (present : lead ≠ [])
    (filled : secret ≠ []) (fades : Fades marked s)
    (stays : (∃ caught, Takes pattern (lead.reverse ++ front.reverse) secret after caught) → alone → Stays s secret ∧ alone')
    (apart : TokenApart pattern alone front lead secret after) :
    TokenApart pattern alone' (writeAll marked f) lead (writeAll marked s) (writeAll marked a) := by
  cases apart with
  | inl quiet =>
      refine .inl fun part begins => ?_
      obtain ⟨s₁, s₂, isS, rfl, before⟩ :=
        begins_moved table entry marked holds cutter front lead secret after f l s a written pattern takes part begins
      exact fades s₁ s₂ mark isS (quiet (readAll s₁) before)
  | inr whole =>
      obtain ⟨isToken, isAlone⟩ := whole
      obtain ⟨staysSecret, isAlone'⟩ := stays isToken isAlone
      obtain ⟨caught, took⟩ := isToken
      have bounded := (takes.text _ _ _ _ took).1
      rw [stays_written marked s secret staysSecret]
      refine .inr ⟨⟨caught, takes.moves _ _ _ _ _ _ took ⟨?_, ?_⟩⟩, isAlone'⟩
      · have opened := bounded.opened
        rw [atBoundary, last_head lead front.reverse (writeAll marked f).reverse present] at opened
        cases secret with
        | nil => exact absurd rfl filled
        | cons c more => exact opened
      · have closed := bounded.closed
        rw [atBoundary, last_head secret _ (lead.reverse ++ (writeAll marked f).reverse) filled, ← written.head] at closed
        exact closed

end Moves

section Whole
variable (pattern : Pattern) (holds : List Char → Piece → List Piece → Prop) (front lead secret after : List Char) (f l s a : List Piece)
variable (written : Written (pattern, fun _ => mark) mark holds front lead secret after f l s a)
include written

-- A secret that is one token becomes the mark.
theorem whole_written (takes : TakesTokens table pattern) (whole : TakesWhole pattern) (inners : InnerApart pattern front lead secret after)
    (closed : after.head?.any (fun c => !isBlank c) = false)
    (isToken : ∃ caught, Takes pattern (lead.reverse ++ front.reverse) secret after caught) : writeAll mark s = mark := by
  obtain ⟨caught, took⟩ := isToken
  have matched : ∃ made, matchAt pattern (lead.reverse ++ front.reverse) (secret ++ after) = some made := by
    cases here : matchAt pattern (lead.reverse ++ front.reverse) (secret ++ after) with
    | some made => exact ⟨made, rfl⟩
    | none => exact absurd took ((match_at_none pattern _ _).mp here secret after caught rfl)
  obtain ⟨made, isMatch⟩ := matched
  have isText := whole _ _ _ _ made took closed isMatch
  obtain ⟨_, split, took'⟩ := match_at_some pattern _ _ made isMatch
  have present : made.text ≠ [] := by
    obtain ⟨c, more, shape, _⟩ := (takes.text _ _ _ _ took').2.starts
    rw [shape]
    exact List.cons_ne_nil _ _
  have isAfter : made.after = after := by
    rw [isText] at split
    exact (List.append_cancel_left split).symm
  have masked := sub_after_match pattern (fun _ => mark) _ _ made (match_here_filled pattern _ _ made isMatch present)
  rw [isText, isAfter, show subAfter pattern (fun _ => mark) (secret.reverse ++ (lead.reverse ++ front.reverse)) after = writeAll mark a from
    written.behind] at masked
  have passed := sub_unbegun pattern (fun _ => mark) front.reverse lead (secret ++ after) (label_unbegun pattern front lead secret after inners)
  have all : writeAll mark f ++ (lead ++ (writeAll mark s ++ writeAll mark a)) = writeAll mark f ++ (lead ++ (mark ++ writeAll mark a)) := by
    rw [← written.whole, ← masked, ← passed, ← written.ahead]
    rfl
  exact List.append_cancel_right (List.append_cancel_left (List.append_cancel_left all))

end Whole

end AgenticNetops.Common
