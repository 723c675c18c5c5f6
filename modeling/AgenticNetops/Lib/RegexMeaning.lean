import AgenticNetops.Lib.Regex

set_option autoImplicit false

/- What a pattern means, apart from the order in which its ways are tried: the texts that
   it takes between two contexts, and what its groups hold of them. -/
namespace Regex

-- What the groups hold, the latest first.
abbrev Caught := List (String × List Char)

abbrev Taking := List Char → List Char → List Char → Caught → Prop

-- Rounds of a body, none of them empty.
inductive Rounds (body : Taking) : Taking where
  | done (before after : List Char) : Rounds body before [] after []
  | more (before first rest after : List Char) (caught later : Caught) (some_text : first ≠ [])
      (round : body before first (rest ++ after) caught) (others : Rounds body (first.reverse ++ before) rest after later) :
      Rounds body before (first ++ rest) after (later ++ caught)

-- The text before is there with its last character first, as in a place.
def Takes : Pattern → Taking
  | .char accepts, _, taken, _, caught => ∃ c, taken = [c] ∧ accepts c = true ∧ caught = []
  | .empty, _, taken, _, caught => taken = [] ∧ caught = []
  | .seq first second, before, taken, after, caught =>
      ∃ left right leftCaught rightCaught, taken = left ++ right ∧ caught = rightCaught ++ leftCaught ∧
        Takes first before left (right ++ after) leftCaught ∧ Takes second (left.reverse ++ before) right after rightCaught
  | .alt first second, before, taken, after, caught => Takes first before taken after caught ∨ Takes second before taken after caught
  | .many _ body, before, taken, after, caught => Rounds (Takes body) before taken after caught
  | .group name body, before, taken, after, caught => ∃ inner, caught = (name, taken) :: inner ∧ Takes body before taken after inner
  | .boundary isWord, before, taken, after, caught => taken = [] ∧ caught = [] ∧ atBoundary isWord ⟨before, after, []⟩ = true
  | .ahead wanted body, before, taken, after, caught =>
      taken = [] ∧ caught = [] ∧ ((∃ next rest held, after = next ++ rest ∧ Takes body before next rest held) ↔ wanted = true)
  | .behind wanted accepts, before, taken, _, caught => taken = [] ∧ caught = [] ∧ before.head?.any accepts = wanted
  | .finish, _, taken, after, caught => taken = [] ∧ caught = [] ∧ (after = [] ∨ after = ['\n'])

section Ways

-- A stop that is reached by taking a text.
def Reach (body : Taking) (place stop : Place) : Prop :=
  ∃ taken caught, place.after = taken ++ stop.after ∧ stop.before = taken.reverse ++ place.before ∧
    stop.groups = caught ++ place.groups ∧ body place.before taken stop.after caught

theorem mem_rounds (greedy : Bool) (step : Place → List Place) (limit : Nat) (place stop : Place) :
    stop ∈ rounds greedy step (limit + 1) place ↔
      stop = place ∨ ∃ next ∈ step place, next.after.length < place.after.length ∧ stop ∈ rounds greedy step limit next := by
  have further : (stop ∈ ((step place).filter fun next => next.after.length < place.after.length).flatMap (rounds greedy step limit)) ↔
      ∃ next ∈ step place, next.after.length < place.after.length ∧ stop ∈ rounds greedy step limit next := by
    rw [List.mem_flatMap]
    refine ⟨fun found => ?_, fun found => ?_⟩
    · obtain ⟨next, member, rest⟩ := found
      obtain ⟨stepped, shorter⟩ := List.mem_filter.mp member
      exact ⟨next, stepped, of_decide_eq_true shorter, rest⟩
    · obtain ⟨next, stepped, shorter, rest⟩ := found
      exact ⟨next, List.mem_filter.mpr ⟨stepped, decide_eq_true shorter⟩, rest⟩
  rw [rounds]
  cases greedy with
  | true => rw [if_pos rfl, List.mem_append, List.mem_singleton, further, or_comm]
  | false => rw [if_neg Bool.false_ne_true, List.mem_cons, further]

theorem place_same (place stop : Place) (after : place.after = stop.after) (before : stop.before = place.before)
    (groups : stop.groups = place.groups) : stop = place := by
  obtain ⟨_, _, _⟩ := place
  obtain ⟨_, _, _⟩ := stop
  cases after
  cases before
  cases groups
  rfl

theorem rounds_reach (greedy : Bool) (step : Place → List Place) (body : Taking)
    (spec : ∀ place stop, stop ∈ step place ↔ Reach body place stop) (limit : Nat) (place stop : Place)
    (room : place.after.length ≤ limit) : stop ∈ rounds greedy step limit place ↔ Reach (Rounds body) place stop := by
  induction limit generalizing place with
  | zero =>
      have ended : place.after = [] := List.length_eq_zero_iff.mp (Nat.le_zero.mp room)
      rw [rounds, List.mem_singleton]
      refine ⟨fun same => ?_, fun reach => ?_⟩
      · rw [same]
        exact ⟨[], [], rfl, rfl, rfl, .done _ _⟩
      · obtain ⟨taken, caught, after, before, groups, body⟩ := reach
        rw [ended] at after
        obtain ⟨none', rest⟩ := List.append_eq_nil_iff.mp after.symm
        subst none'
        generalize none' : ([] : List Char) = taken at body
        cases body with
        | done => exact place_same place stop (by rw [ended, rest]) before groups
        | more _ first rest _ caught later some_text => exact absurd (List.append_eq_nil_iff.mp none'.symm).1 some_text
  | succ limit ih =>
      rw [mem_rounds]
      refine ⟨fun found => ?_, fun reach => ?_⟩
      · cases found with
        | inl same =>
            rw [same]
            exact ⟨[], [], rfl, rfl, rfl, .done _ _⟩
        | inr further =>
            obtain ⟨next, stepped, shorter, onward⟩ := further
            obtain ⟨first, caught, after, before, groups, round⟩ := (spec place next).mp stepped
            obtain ⟨rest, later, after', before', groups', others⟩ := (ih next (by omega)).mp onward
            have some_text : first ≠ [] := by
              intro empty
              rw [after, empty, List.nil_append] at shorter
              exact Nat.lt_irrefl _ shorter
            rw [after'] at round
            rw [before] at others
            exact ⟨first ++ rest, later ++ caught, by rw [after, after', List.append_assoc],
              by rw [before', before, List.reverse_append, List.append_assoc], by rw [groups', groups, List.append_assoc],
              .more _ first rest _ caught later some_text round others⟩
      · obtain ⟨taken, caught, after, before, groups, body⟩ := reach
        cases body with
        | done => exact .inl (place_same place stop after before groups)
        | more _ first rest _ caught later some_text round others =>
            rw [List.append_assoc] at after
            refine .inr ⟨⟨first.reverse ++ place.before, rest ++ stop.after, caught ++ place.groups⟩, ?_, ?_, ?_⟩
            · exact (spec place _).mpr ⟨first, caught, after, rfl, rfl, round⟩
            · have some_length := List.length_pos_iff.mpr some_text
              rw [after]
              simp only [List.length_append]
              omega
            · have shorter : (rest ++ stop.after).length ≤ limit := by
                have some_length := List.length_pos_iff.mpr some_text
                rw [after, List.length_append] at room
                omega
              refine (ih ⟨first.reverse ++ place.before, rest ++ stop.after, caught ++ place.groups⟩ shorter).mpr
                ⟨rest, later, rfl, ?_, ?_, others⟩
              · rw [before, List.reverse_append, List.append_assoc]
              · rw [groups, List.append_assoc]

theorem between_taken (before taken after : List Char) (groups : Caught) (stop : Place) (ends : stop.after = after) :
    Place.between ⟨before, taken ++ after, groups⟩ stop = taken := by
  rw [Place.between, ends]
  exact List.take_left' (by rw [List.length_append, Nat.add_sub_cancel])

-- A pattern that takes nothing stays where it is, or fails.
theorem stay_reach (holds : Prop) [Decidable holds] (body : Taking) (place stop : Place)
    (nothing : ∀ taken after caught, body place.before taken after caught → taken = [] ∧ caught = [])
    (still : body place.before [] place.after [] ↔ holds) :
    stop ∈ (if holds then [place] else []) ↔ Reach body place stop := by
  refine ⟨fun found => ?_, fun reach => ?_⟩
  · by_cases held : holds
    · rw [if_pos held, List.mem_singleton] at found
      rw [found]
      exact ⟨[], [], rfl, rfl, rfl, still.mpr held⟩
    · rw [if_neg held] at found
      cases found
  · obtain ⟨taken, caught, after, before, groups, isTaken⟩ := reach
    obtain ⟨noText, noGroups⟩ := nothing taken _ caught isTaken
    rw [noText] at after before isTaken
    rw [noGroups] at groups isTaken
    rw [List.nil_append] at after
    rw [← after] at isTaken
    rw [if_pos (still.mp isTaken), List.mem_singleton]
    exact place_same place stop after before groups

-- The ways of a pattern are the stops that it reaches.
theorem ways_reach (pattern : Pattern) (place stop : Place) : stop ∈ ways pattern place ↔ Reach (Takes pattern) place stop := by
  induction pattern generalizing place stop with
  | char accepts =>
      obtain ⟨before, after, groups⟩ := place
      rw [ways.eq_def]
      cases after with
      | nil =>
          refine ⟨fun found => (by cases found), fun reach => ?_⟩
          obtain ⟨taken, caught, after, _, _, c, isTaken, _, _⟩ := reach
          rw [isTaken] at after
          cases after
      | cons c rest =>
          by_cases accepted : accepts c = true
          · simp only [if_pos accepted, List.mem_singleton]
            refine ⟨fun same => ?_, fun reach => ?_⟩
            · rw [same]
              exact ⟨[c], [], rfl, rfl, rfl, c, rfl, accepted, rfl⟩
            · obtain ⟨taken, caught, after, isBefore, isGroups, other, isTaken, _, isCaught⟩ := reach
              rw [isTaken] at after isBefore
              rw [isCaught] at isGroups
              obtain ⟨same, rest⟩ := List.cons.inj after
              exact place_same ⟨c :: before, _, groups⟩ stop rest (by rw [isBefore, same]; rfl) isGroups
          · simp only [if_neg accepted]
            refine ⟨fun found => (by cases found), fun reach => ?_⟩
            obtain ⟨taken, caught, after, _, _, other, isTaken, accepts', _⟩ := reach
            rw [isTaken] at after
            exact absurd ((List.cons.inj after).1 ▸ accepts') accepted
  | empty =>
      rw [ways, List.mem_singleton]
      refine ⟨fun same => ?_, fun reach => ?_⟩
      · rw [same]
        exact ⟨[], [], rfl, rfl, rfl, rfl, rfl⟩
      · obtain ⟨taken, caught, after, before, groups, isTaken, isCaught⟩ := reach
        rw [isTaken] at after before
        rw [isCaught] at groups
        exact place_same place stop after before groups
  | seq first second ihFirst ihSecond =>
      rw [ways, List.mem_flatMap]
      refine ⟨fun found => ?_, fun reach => ?_⟩
      · obtain ⟨next, stepped, onward⟩ := found
        obtain ⟨left, leftCaught, after, before, groups, isLeft⟩ := (ihFirst place next).mp stepped
        obtain ⟨right, rightCaught, after', before', groups', isRight⟩ := (ihSecond next stop).mp onward
        rw [after'] at isLeft after
        rw [before] at isRight before'
        rw [groups] at groups'
        exact ⟨left ++ right, rightCaught ++ leftCaught, by rw [after, List.append_assoc],
          by rw [before', List.reverse_append, List.append_assoc], by rw [groups', List.append_assoc],
          left, right, leftCaught, rightCaught, rfl, rfl, isLeft, isRight⟩
      · obtain ⟨taken, caught, after, before, groups, left, right, leftCaught, rightCaught, isTaken, isCaught, isLeft, isRight⟩ := reach
        rw [isTaken] at after before
        rw [isCaught] at groups
        refine ⟨⟨left.reverse ++ place.before, right ++ stop.after, leftCaught ++ place.groups⟩, ?_, ?_⟩
        · exact (ihFirst place _).mpr ⟨left, leftCaught, by rw [after, List.append_assoc], rfl, rfl, isLeft⟩
        · exact (ihSecond _ stop).mpr ⟨right, rightCaught, rfl, by rw [before, List.reverse_append, List.append_assoc],
            by rw [groups, List.append_assoc], isRight⟩
  | alt first second ihFirst ihSecond =>
      rw [ways, List.mem_append, ihFirst, ihSecond]
      refine ⟨fun either => ?_, fun reach => ?_⟩
      · cases either with
        | inl left =>
            obtain ⟨taken, caught, after, before, groups, isTaken⟩ := left
            exact ⟨taken, caught, after, before, groups, .inl isTaken⟩
        | inr right =>
            obtain ⟨taken, caught, after, before, groups, isTaken⟩ := right
            exact ⟨taken, caught, after, before, groups, .inr isTaken⟩
      · obtain ⟨taken, caught, after, before, groups, isTaken⟩ := reach
        cases isTaken with
        | inl left => exact .inl ⟨taken, caught, after, before, groups, left⟩
        | inr right => exact .inr ⟨taken, caught, after, before, groups, right⟩
  | many greedy body ih => exact rounds_reach greedy _ _ ih _ place stop (Nat.le_refl _)
  | group name body ih =>
      rw [ways, List.mem_map]
      refine ⟨fun found => ?_, fun reach => ?_⟩
      · obtain ⟨inside, stepped, rfl⟩ := found
        obtain ⟨taken, caught, after, before, groups, isTaken⟩ := (ih place inside).mp stepped
        have held : place.between inside = taken := by
          rw [← between_taken place.before taken inside.after place.groups inside rfl, ← after]
        exact ⟨taken, (name, taken) :: caught, after, before, by rw [held, groups]; rfl, caught, rfl, isTaken⟩
      · obtain ⟨taken, caught, after, before, groups, inner, isCaught, isTaken⟩ := reach
        refine ⟨⟨stop.before, stop.after, inner ++ place.groups⟩, (ih place _).mpr ⟨taken, inner, after, before, rfl, isTaken⟩, ?_⟩
        have held : place.between ⟨stop.before, stop.after, inner ++ place.groups⟩ = taken := by
          rw [← between_taken place.before taken stop.after place.groups ⟨stop.before, stop.after, inner ++ place.groups⟩ rfl, ← after]
        exact place_same stop _ rfl rfl (by rw [groups, isCaught, held]; rfl)
  | boundary isWord =>
      rw [ways]
      refine stay_reach _ _ place stop (fun taken after caught holds => ⟨holds.1, holds.2.1⟩) ?_
      exact ⟨fun holds => holds.2.2, fun holds => ⟨rfl, rfl, holds⟩⟩
  | ahead wanted body ih =>
      rw [ways]
      refine stay_reach _ _ place stop (fun taken after caught holds => ⟨holds.1, holds.2.1⟩) ?_
      have taken : (ways body place).isEmpty = false ↔ ∃ next rest held, place.after = next ++ rest ∧ Takes body place.before next rest held := by
        refine ⟨fun filled => ?_, fun taking => ?_⟩
        · obtain ⟨first, member⟩ := List.exists_mem_of_ne_nil _ (List.isEmpty_eq_false_iff.mp filled)
          obtain ⟨next, held, after, _, _, isTaken⟩ := (ih place first).mp member
          exact ⟨next, first.after, held, after, isTaken⟩
        · obtain ⟨next, rest, held, after, isTaken⟩ := taking
          have member := (ih place ⟨next.reverse ++ place.before, rest, held ++ place.groups⟩).mpr ⟨next, held, after, rfl, rfl, isTaken⟩
          exact List.isEmpty_eq_false_iff.mpr (List.ne_nil_of_mem member)
      have same : ((ways body place).isEmpty = false ↔ wanted = true) ↔ ((ways body place).isEmpty != wanted) = true := by
        cases wanted with
        | true => cases (ways body place).isEmpty <;> decide
        | false => cases (ways body place).isEmpty <;> decide
      rw [taken] at same
      exact ⟨fun holds => same.mp holds.2.2, fun holds => ⟨rfl, rfl, same.mpr holds⟩⟩
  | behind wanted accepts =>
      rw [ways]
      refine stay_reach _ _ place stop (fun taken after caught holds => ⟨holds.1, holds.2.1⟩) ?_
      exact ⟨fun holds => beq_iff_eq.mpr holds.2.2, fun holds => ⟨rfl, rfl, beq_iff_eq.mp holds⟩⟩
  | finish =>
      rw [ways]
      refine stay_reach _ _ place stop (fun taken after caught holds => ⟨holds.1, holds.2.1⟩) ?_
      exact ⟨fun holds => holds.2.2, fun holds => ⟨rfl, rfl, holds⟩⟩

end Ways

section Searches
variable (pattern : Pattern)

theorem match_at_some (before after : List Char) (made : Match) (matched : matchAt pattern before after = some made) :
    made.before = before.reverse ∧ after = made.text ++ made.after ∧ Takes pattern before made.text made.after made.groups := by
  rw [matchAt] at matched
  obtain ⟨stop, first, rfl⟩ := Option.map_eq_some_iff.mp matched
  obtain ⟨taken, caught, isAfter, _, groups, isTaken⟩ := (ways_reach pattern _ stop).mp (List.mem_of_head? first)
  have held : Place.between ⟨before, after, []⟩ stop = taken := by
    rw [← between_taken before taken stop.after [] stop rfl]
    exact congrArg (fun text => Place.between ⟨before, text, []⟩ stop) isAfter
  rw [List.append_nil] at groups
  refine ⟨rfl, ?_, ?_⟩
  · rw [held]
    exact isAfter
  · rw [held, groups]
    exact isTaken

theorem match_at_none (before after : List Char) :
    matchAt pattern before after = none ↔ ∀ taken rest caught, after = taken ++ rest → ¬ Takes pattern before taken rest caught := by
  rw [matchAt, Option.map_eq_none_iff, List.head?_eq_none_iff]
  refine ⟨fun empty taken rest caught isAfter isTaken => ?_, fun never => ?_⟩
  · have member := (ways_reach pattern ⟨before, after, []⟩ ⟨taken.reverse ++ before, rest, caught⟩).mpr
      ⟨taken, caught, isAfter, rfl, (List.append_nil caught).symm, isTaken⟩
    rw [empty] at member
    cases member
  · refine List.eq_nil_iff_forall_not_mem.mpr fun stop member => ?_
    obtain ⟨taken, caught, isAfter, _, _, isTaken⟩ := (ways_reach pattern _ stop).mp member
    exact never taken stop.after caught isAfter isTaken

-- What a search finds, and that it finds the first place.
theorem search_from_some (before after : List Char) (made : Match) (matched : searchFrom pattern before after = some made) :
    ∃ skipped, made.before = before.reverse ++ skipped ∧ after = skipped ++ (made.text ++ made.after) ∧
      Takes pattern (skipped.reverse ++ before) made.text made.after made.groups ∧
      ∀ front taken rest caught, after = front ++ (taken ++ rest) → Takes pattern (front.reverse ++ before) taken rest caught →
        skipped.length ≤ front.length := by
  induction after generalizing before with
  | nil =>
      obtain ⟨isBefore, isAfter, isTaken⟩ := match_at_some pattern before [] made matched
      exact ⟨[], by rw [isBefore, List.append_nil], isAfter, isTaken, fun _ _ _ _ _ _ => Nat.zero_le _⟩
  | cons c rest ih =>
      rw [searchFrom] at matched
      cases here : matchAt pattern before (c :: rest) with
      | some found =>
          rw [here, Option.some_or] at matched
          cases matched
          obtain ⟨isBefore, isAfter, isTaken⟩ := match_at_some pattern before (c :: rest) made here
          exact ⟨[], by rw [isBefore, List.append_nil], isAfter, isTaken, fun _ _ _ _ _ _ => Nat.zero_le _⟩
      | none =>
          rw [here, Option.none_or] at matched
          obtain ⟨skipped, isBefore, isAfter, isTaken, first⟩ := ih (c :: before) matched
          refine ⟨c :: skipped, ?_, by rw [isAfter]; rfl, ?_, ?_⟩
          · rw [isBefore, List.reverse_cons, List.append_assoc]
            rfl
          · rw [List.reverse_cons, List.append_assoc]
            exact isTaken
          · intro front taken others caught split took
            cases front with
            | nil => exact absurd took ((match_at_none pattern before (c :: rest)).mp here taken others caught split)
            | cons d more =>
                obtain ⟨same, split'⟩ := List.cons.inj split
                rw [List.reverse_cons, List.append_assoc, ← same] at took
                exact Nat.succ_le_succ (first more taken others caught split' took)

theorem search_from_none (before after : List Char) :
    searchFrom pattern before after = none ↔
      ∀ front taken rest caught, after = front ++ (taken ++ rest) → ¬ Takes pattern (front.reverse ++ before) taken rest caught := by
  induction after generalizing before with
  | nil =>
      change matchAt pattern before [] = none ↔ _
      rw [match_at_none]
      refine ⟨fun never front taken rest caught split => ?_, fun never taken rest caught split => never [] taken rest caught split⟩
      obtain ⟨noFront, split'⟩ := List.append_eq_nil_iff.mp split.symm
      rw [noFront]
      exact never taken rest caught split'.symm
  | cons c more ih =>
      rw [searchFrom, Option.or_eq_none_iff, ih, match_at_none]
      refine ⟨fun both front taken rest caught split => ?_, fun never => ⟨?_, ?_⟩⟩
      · cases front with
        | nil => exact both.1 taken rest caught split
        | cons d others =>
            obtain ⟨same, split'⟩ := List.cons.inj split
            rw [← same, List.reverse_cons, List.append_assoc]
            exact both.2 others taken rest caught split'
      · exact fun taken rest caught split => never [] taken rest caught split
      · intro front taken rest caught split
        have later := never (c :: front) taken rest caught (by rw [split]; rfl)
        rw [List.reverse_cons, List.append_assoc] at later
        exact later

theorem search_some (text : List Char) (made : Match) (matched : search pattern text = some made) :
    text = made.before ++ (made.text ++ made.after) ∧ Takes pattern made.before.reverse made.text made.after made.groups ∧
      ∀ front taken rest caught, text = front ++ (taken ++ rest) → Takes pattern front.reverse taken rest caught →
        made.before.length ≤ front.length := by
  obtain ⟨skipped, isBefore, isAfter, isTaken, first⟩ := search_from_some pattern [] text made matched
  rw [List.reverse_nil, List.nil_append] at isBefore
  rw [isBefore]
  rw [List.append_nil] at isTaken
  refine ⟨isAfter, isTaken, fun front taken rest caught split took => first front taken rest caught split ?_⟩
  rw [List.append_nil]
  exact took

theorem found_iff (text : List Char) :
    found pattern text = true ↔ ∃ front taken rest caught, text = front ++ (taken ++ rest) ∧ Takes pattern front.reverse taken rest caught := by
  rw [found, Option.isSome_iff_ne_none, search, Ne, search_from_none]
  simp only [List.append_nil, not_forall, not_not, exists_prop]

theorem not_found_iff (text : List Char) :
    found pattern text = false ↔
      ∀ front taken rest caught, text = front ++ (taken ++ rest) → ¬ Takes pattern front.reverse taken rest caught := by
  rw [← Bool.not_eq_true, found_iff]
  simp only [not_exists, not_and]

-- Every match of findall stands in the text.
theorem matches_from_mem (limit : Nat) (before after : List Char) (made : Match) (member : made ∈ matchesFrom pattern limit before after) :
    ∃ skipped, after = skipped ++ (made.text ++ made.after) ∧ Takes pattern (skipped.reverse ++ before) made.text made.after made.groups := by
  induction limit generalizing before after with
  | zero => cases member
  | succ limit ih =>
      rw [matchesFrom.eq_def] at member
      simp only [] at member
      cases here : matchHere pattern before after with
      | some found =>
          obtain ⟨matched, _⟩ := Option.filter_eq_some_iff.mp here
          obtain ⟨_, isAfter, isTaken⟩ := match_at_some pattern before after found matched
          rw [here] at member
          cases List.mem_cons.mp member with
          | inl same =>
              rw [same]
              exact ⟨[], isAfter, isTaken⟩
          | inr later =>
              obtain ⟨skipped, split, taken⟩ := ih (found.text.reverse ++ before) found.after later
              refine ⟨found.text ++ skipped, by rw [isAfter, split, List.append_assoc], ?_⟩
              rw [List.reverse_append, List.append_assoc]
              exact taken
      | none =>
          rw [here] at member
          cases after with
          | nil => cases member
          | cons c rest =>
              obtain ⟨skipped, split, taken⟩ := ih (c :: before) rest member
              refine ⟨c :: skipped, by rw [split]; rfl, ?_⟩
              rw [List.reverse_cons, List.append_assoc]
              exact taken

theorem find_all_mem (text : List Char) (made : Match) (member : made ∈ findAll pattern text) :
    ∃ front, text = front ++ (made.text ++ made.after) ∧ Takes pattern front.reverse made.text made.after made.groups := by
  obtain ⟨skipped, split, taken⟩ := matches_from_mem pattern _ [] text made member
  rw [List.append_nil] at taken
  exact ⟨skipped, split, taken⟩

end Searches

-- A pattern that does not look around.
def Pattern.plain : Pattern → Bool
  | .char _ => true
  | .empty => true
  | .seq first second => first.plain && second.plain
  | .alt first second => first.plain && second.plain
  | .many _ body => body.plain
  | .group _ body => body.plain
  | .boundary _ => false
  | .ahead _ _ => false
  | .behind _ _ => false
  | .finish => false

section Words

-- A text that is written with one character of each class.
abbrev Spells (classes : List (Char → Bool)) (taken : List Char) : Prop := List.Forall₂ (fun accepts c => accepts c = true) classes taken

theorem takes_classes (classes : List (Char → Bool)) (before taken after : List Char) (caught : Caught) :
    Takes (classes.foldr (fun accepts rest => .seq (.char accepts) rest) .empty) before taken after caught ↔
      caught = [] ∧ Spells classes taken := by
  induction classes generalizing before taken caught with
  | nil =>
      refine ⟨fun took => ⟨took.2, ?_⟩, fun spelled => ⟨?_, spelled.1⟩⟩
      · rw [took.1]
        exact .nil
      · exact List.forall₂_nil_left_iff.mp spelled.2
  | cons accepts classes ih =>
      refine ⟨fun took => ?_, fun spelled => ?_⟩
      · obtain ⟨left, right, leftCaught, rightCaught, isTaken, isCaught, ⟨c, isLeft, accepted, noGroup⟩, others⟩ := took
        obtain ⟨noGroups, rest⟩ := (ih _ right _).mp others
        rw [isTaken, isLeft, isCaught, noGroup, noGroups]
        exact ⟨rfl, .cons accepted rest⟩
      · obtain ⟨noGroups, spelled⟩ := spelled
        cases spelled with
        | @cons _ c _ right accepted rest =>
            exact ⟨[c], right, [], [], rfl, noGroups, ⟨c, rfl, accepted, rfl⟩, (ih _ right _).mpr ⟨rfl, rest⟩⟩

theorem spells_append (first second : List (Char → Bool)) (taken : List Char) :
    Spells (first ++ second) taken ↔ ∃ left right, taken = left ++ right ∧ Spells first left ∧ Spells second right := by
  refine ⟨fun spelled => ?_, fun parts => ?_⟩
  · induction first generalizing taken with
    | nil => exact ⟨[], taken, rfl, .nil, spelled⟩
    | cons accepts others ih =>
        cases spelled with
        | @cons _ c _ rest here later =>
            obtain ⟨left, right, isRest, isLeft, isRight⟩ := ih rest later
            exact ⟨c :: left, right, by rw [isRest]; rfl, .cons here isLeft, isRight⟩
  · obtain ⟨left, right, rfl, isLeft, isRight⟩ := parts
    exact List.rel_append isLeft isRight

theorem text_classes (lowered : String) : text lowered = (lowered.toList.map sameLetter).foldr (fun accepts rest => .seq (.char accepts) rest) .empty := by
  rw [text, List.foldr_map]

theorem takes_text (lowered : String) (before taken after : List Char) (caught : Caught) :
    Takes (text lowered) before taken after caught ↔ caught = [] ∧ Spells (lowered.toList.map sameLetter) taken := by
  rw [text_classes, takes_classes]

theorem takes_append (first second : Pattern) (before taken after : List Char) (caught : Caught) :
    Takes (first ++ second) before taken after caught ↔
      ∃ left right leftCaught rightCaught, taken = left ++ right ∧ caught = rightCaught ++ leftCaught ∧
        Takes first before left (right ++ after) leftCaught ∧ Takes second (left.reverse ++ before) right after rightCaught := Iff.rfl

theorem takes_assoc (first second third : Pattern) (before taken after : List Char) (caught : Caught) :
    Takes (first ++ second ++ third) before taken after caught ↔ Takes (first ++ (second ++ third)) before taken after caught := by
  refine ⟨fun took => ?_, fun took => ?_⟩
  · obtain ⟨_, right, _, rightCaught, rfl, rfl, ⟨start, middle, startCaught, middleCaught, rfl, rfl, isStart, isMiddle⟩, isRight⟩ := took
    rw [← List.append_assoc] at isStart
    rw [List.reverse_append, List.append_assoc] at isRight
    exact ⟨start, middle ++ right, startCaught, rightCaught ++ middleCaught, List.append_assoc _ _ _, (List.append_assoc _ _ _).symm,
      isStart, middle, right, middleCaught, rightCaught, rfl, rfl, isMiddle, isRight⟩
  · obtain ⟨start, _, startCaught, _, rfl, rfl, isStart, ⟨middle, right, middleCaught, rightCaught, rfl, rfl, isMiddle, isRight⟩⟩ := took
    rw [List.append_assoc] at isStart
    refine ⟨start ++ middle, right, middleCaught ++ startCaught, rightCaught, (List.append_assoc _ _ _).symm,
      List.append_assoc _ _ _, ⟨start, middle, startCaught, middleCaught, rfl, rfl, isStart, isMiddle⟩, ?_⟩
    rw [List.reverse_append, List.append_assoc]
    exact isRight

theorem takes_opening (isWord : Char → Bool) (body : Pattern) (before taken after : List Char) (caught : Caught) :
    Takes (.boundary isWord ++ body) before taken after caught ↔
      atBoundary isWord ⟨before, taken ++ after, []⟩ = true ∧ Takes body before taken after caught := by
  refine ⟨fun took => ?_, fun took => ?_⟩
  · obtain ⟨left, right, leftCaught, rightCaught, rfl, rfl, ⟨rfl, rfl, opened⟩, taking⟩ := took
    rw [List.append_nil]
    exact ⟨opened, taking⟩
  · exact ⟨[], taken, [], caught, rfl, (List.append_nil caught).symm, ⟨rfl, rfl, took.1⟩, took.2⟩

theorem takes_closing (isWord : Char → Bool) (body : Pattern) (before taken after : List Char) (caught : Caught) :
    Takes (body ++ .boundary isWord) before taken after caught ↔
      Takes body before taken after caught ∧ atBoundary isWord ⟨taken.reverse ++ before, after, []⟩ = true := by
  refine ⟨fun took => ?_, fun took => ?_⟩
  · obtain ⟨left, right, leftCaught, rightCaught, rfl, rfl, taking, rfl, rfl, closed⟩ := took
    rw [List.append_nil]
    exact ⟨taking, closed⟩
  · exact ⟨taken, [], caught, [], (List.append_nil taken).symm, rfl, took.1, rfl, rfl, took.2⟩

-- A pattern between two word boundaries.
structure Bounded (isWord : Char → Bool) (before taken after : List Char) : Prop where
  opened : atBoundary isWord ⟨before, taken ++ after, []⟩ = true
  closed : atBoundary isWord ⟨taken.reverse ++ before, after, []⟩ = true

theorem takes_bounded (isWord : Char → Bool) (body : Pattern) (before taken after : List Char) (caught : Caught) :
    Takes (.boundary isWord ++ body ++ .boundary isWord) before taken after caught ↔
      Bounded isWord before taken after ∧ Takes body before taken after caught := by
  rw [takes_closing, takes_opening]
  exact ⟨fun took => ⟨⟨took.1.1, took.2⟩, took.1.2⟩, fun took => ⟨⟨took.1.opened, took.2⟩, took.1.closed⟩⟩

theorem takes_whole (isWord : Char → Bool) (lowered : String) (before taken after : List Char) (caught : Caught) :
    Takes (whole isWord lowered) before taken after caught ↔
      Bounded isWord before taken after ∧ caught = [] ∧ Spells (lowered.toList.map sameLetter) taken := by
  rw [whole, takes_bounded, takes_text]

theorem takes_char (accepts : Char → Bool) (before taken after : List Char) (caught : Caught) :
    Takes (.char accepts) before taken after caught ↔ caught = [] ∧ ∃ c, taken = [c] ∧ accepts c = true :=
  ⟨fun ⟨c, isTaken, accepted, noGroup⟩ => ⟨noGroup, c, isTaken, accepted⟩,
    fun ⟨noGroup, c, isTaken, accepted⟩ => ⟨c, isTaken, accepted, noGroup⟩⟩

-- A run of characters of one class, and a run of at least one.
theorem takes_many (greedy : Bool) (accepts : Char → Bool) (before taken after : List Char) (caught : Caught)
    (took : Takes (.many greedy (.char accepts)) before taken after caught) : caught = [] ∧ ∀ c ∈ taken, accepts c = true := by
  have all (before taken after : List Char) (caught : Caught) (took : Rounds (Takes (.char accepts)) before taken after caught) :
      caught = [] ∧ ∀ c ∈ taken, accepts c = true := by
    induction took with
    | done =>
        refine ⟨rfl, fun c member => ?_⟩
        cases member
    | more _ first rest _ caught later _ round _ ih =>
        obtain ⟨c, isFirst, accepted, noGroup⟩ := round
        rw [isFirst, noGroup, ih.1]
        exact ⟨rfl, List.forall_mem_cons.mpr ⟨accepted, ih.2⟩⟩
  exact all before taken after caught took

theorem takes_some (accepts : Char → Bool) (before taken after : List Char) (caught : Caught)
    (took : Takes (some' (.char accepts)) before taken after caught) :
    caught = [] ∧ taken ≠ [] ∧ ∀ c ∈ taken, accepts c = true := by
  obtain ⟨left, right, _, _, rfl, rfl, ⟨c, rfl, accepted, rfl⟩, others⟩ := took
  obtain ⟨rfl, all⟩ := takes_many true accepts _ _ _ _ others
  exact ⟨rfl, List.cons_ne_nil _ _, List.forall_mem_cons.mpr ⟨accepted, all⟩⟩

theorem many_takes (greedy : Bool) (accepts : Char → Bool) (before taken after : List Char) (all : ∀ c ∈ taken, accepts c = true) :
    Takes (.many greedy (.char accepts)) before taken after [] := by
  induction taken generalizing before with
  | nil => exact .done before after
  | cons c rest ih =>
      have round : Takes (.char accepts) before [c] (rest ++ after) [] := ⟨c, rfl, all c List.mem_cons_self, rfl⟩
      exact .more before [c] rest after [] [] (List.cons_ne_nil _ _) round
        (ih ([c].reverse ++ before) fun d member => all d (List.mem_cons_of_mem c member))

theorem some_takes (accepts : Char → Bool) (before taken after : List Char) (present : taken ≠ []) (all : ∀ c ∈ taken, accepts c = true) :
    Takes (some' (.char accepts)) before taken after [] := by
  cases taken with
  | nil => exact absurd rfl present
  | cons c rest =>
      exact ⟨[c], rest, [], [], rfl, rfl, ⟨c, rfl, all c List.mem_cons_self, rfl⟩,
        many_takes true accepts _ rest after fun d member => all d (List.mem_cons_of_mem c member)⟩

theorem takes_times (accepts : Char → Bool) (count : Nat) (before taken after : List Char) (caught : Caught)
    (took : Takes (times (.char accepts) count) before taken after caught) :
    caught = [] ∧ taken.length = count ∧ ∀ c ∈ taken, accepts c = true := by
  induction count generalizing before taken caught with
  | zero =>
      obtain ⟨rfl, rfl⟩ := took
      exact ⟨rfl, rfl, fun c member => by cases member⟩
  | succ count ih =>
      obtain ⟨_, right, _, _, rfl, rfl, ⟨c, rfl, accepted, rfl⟩, others⟩ := took
      obtain ⟨rfl, length, all⟩ := ih _ _ _ others
      exact ⟨rfl, congrArg Nat.succ length, List.forall_mem_cons.mpr ⟨accepted, all⟩⟩

def letters (word : List Char) : List (Char → Bool) := word.map fun letter c => decide (c = letter)

theorem exact_spells (word : String) (before taken after : List Char) (caught : Caught) :
    Takes (exact word) before taken after caught ↔ caught = [] ∧ Spells (letters word.toList) taken := by
  have classes : exact word = (letters word.toList).foldr (fun accepts rest => .seq (.char accepts) rest) .empty := by
    rw [exact, letters, List.foldr_map]
  rw [classes, takes_classes]

theorem spells_letters (word taken : List Char) : Spells (letters word) taken ↔ taken = word := by
  rw [Spells, letters, List.forall₂_map_left_iff]
  refine ⟨fun all => ?_, fun same => ?_⟩
  · induction all with
    | nil => rfl
    | cons here _ ih => rw [of_decide_eq_true here, ih]
  · rw [same]
    exact List.forall₂_same.mpr fun c _ => decide_eq_true rfl

theorem takes_exact (word : String) (before taken after : List Char) (caught : Caught) :
    Takes (exact word) before taken after caught ↔ caught = [] ∧ taken = word.toList := by
  rw [exact_spells, spells_letters]

-- Where a pattern does not look around, its surroundings do not matter.
theorem takes_plain (pattern : Pattern) (plain : pattern.plain = true) (before taken after before' after' : List Char) (caught : Caught)
    (took : Takes pattern before taken after caught) : Takes pattern before' taken after' caught := by
  induction pattern generalizing before taken after before' after' caught with
  | char accepts => exact took
  | empty => exact took
  | seq first second ihFirst ihSecond =>
      obtain ⟨plainFirst, plainSecond⟩ := (Bool.and_eq_true _ _).mp plain
      obtain ⟨left, right, leftCaught, rightCaught, isTaken, isCaught, isLeft, isRight⟩ := took
      exact ⟨left, right, leftCaught, rightCaught, isTaken, isCaught, ihFirst plainFirst _ _ _ _ _ _ isLeft,
        ihSecond plainSecond _ _ _ _ _ _ isRight⟩
  | alt first second ihFirst ihSecond =>
      obtain ⟨plainFirst, plainSecond⟩ := (Bool.and_eq_true _ _).mp plain
      cases took with
      | inl left => exact .inl (ihFirst plainFirst _ _ _ _ _ _ left)
      | inr right => exact .inr (ihSecond plainSecond _ _ _ _ _ _ right)
  | many greedy body ih =>
      have moved (before taken after : List Char) (caught : Caught) (rounds : Rounds (Takes body) before taken after caught)
          (before' after' : List Char) : Rounds (Takes body) before' taken after' caught := by
        induction rounds generalizing before' with
        | done => exact .done _ _
        | more _ first rest _ caught later some_text round _ others =>
            exact .more before' first rest after' caught later some_text (ih plain _ _ _ _ _ _ round) (others _)
      exact moved before taken after caught took before' after'
  | group name body ih =>
      obtain ⟨inner, isCaught, inside⟩ := took
      exact ⟨inner, isCaught, ih plain _ _ _ _ _ _ inside⟩
  | boundary isWord => cases plain
  | ahead wanted body ih => cases plain
  | behind wanted accepts => cases plain
  | finish => cases plain

-- Two texts with at most one character between them.
structure Joined (first second : String) (joint : Char → Bool) (taken : List Char) : Prop where
  parts : ∃ left between' right, taken = left ++ (between' ++ right) ∧ Spells (first.toList.map sameLetter) left ∧
    (between' = [] ∨ ∃ c, between' = [c] ∧ joint c = true) ∧ Spells (second.toList.map sameLetter) right

theorem takes_joined (first second : String) (joint : Char → Bool) (before taken after : List Char) (caught : Caught) :
    Takes (text first ++ (opt (.char joint) ++ text second)) before taken after caught ↔ caught = [] ∧ Joined first second joint taken := by
  refine ⟨fun took => ?_, fun joined => ?_⟩
  · obtain ⟨left, _, leftCaught, _, rfl, rfl, isLeft, ⟨between', right, betweenCaught, rightCaught, rfl, rfl, isBetween, isRight⟩⟩ := took
    obtain ⟨rfl, spelled⟩ := (takes_text first _ _ _ _).mp isLeft
    obtain ⟨rfl, spelled'⟩ := (takes_text second _ _ _ _).mp isRight
    cases isBetween with
    | inl one =>
        obtain ⟨rfl, c, isC, joins⟩ := (takes_char _ _ _ _ _).mp one
        exact ⟨rfl, left, between', right, rfl, spelled, .inr ⟨c, isC, joins⟩, spelled'⟩
    | inr none' =>
        obtain ⟨noText, rfl⟩ := none'
        exact ⟨rfl, left, between', right, rfl, spelled, .inl noText, spelled'⟩
  · obtain ⟨rfl, left, between', right, rfl, spelled, isBetween, spelled'⟩ := joined
    refine ⟨left, between' ++ right, [], [], rfl, rfl, (takes_text first _ _ _ _).mpr ⟨rfl, spelled⟩, between', right, [], [], rfl, rfl, ?_,
      (takes_text second _ _ _ _).mpr ⟨rfl, spelled'⟩⟩
    cases isBetween with
    | inl noText => exact .inr ⟨noText, rfl⟩
    | inr one => exact .inl ((takes_char _ _ _ _ _).mpr ⟨rfl, one⟩)

theorem takes_one_of (patterns : List Pattern) (present : patterns ≠ []) (before taken after : List Char) (caught : Caught) :
    Takes (oneOf patterns) before taken after caught ↔ ∃ pattern ∈ patterns, Takes pattern before taken after caught := by
  induction patterns with
  | nil => exact absurd rfl present
  | cons first rest ih =>
      cases rest with
      | nil => rw [oneOf, List.exists_mem_cons_iff]; simp
      | cons second others =>
          rw [List.exists_mem_cons_iff, ← ih (List.cons_ne_nil _ _)]
          rfl

end Words

section Letters

open GoText PyText

theorem lower_ascii (c letter : Char) (lowered : toLowerAscii c = letter) (ascii : isAscii letter = true) : isAscii c = true := by
  rw [toLowerAscii] at lowered
  by_cases upper : ('A' ≤ c && c ≤ 'Z') = true
  · rw [isAscii, decide_eq_true_eq]
    simp only [Bool.and_eq_true, decide_eq_true_eq, Char.le_def, UInt32.le_iff_toNat_le] at upper
    exact Nat.lt_of_le_of_lt upper.2 (by decide)
  · rw [if_neg upper] at lowered
    rw [lowered]
    exact ascii

-- A letter is written as itself, but for the three letters that others fold to.
theorem same_letter_cases (letter c : Char) (same : sameLetter letter c = true) :
    toLowerAscii c = letter ∨ letter = 'k' ∧ c.toNat = 0x212A ∨ letter = 's' ∧ c.toNat = 0x17F ∨
      letter = 'i' ∧ (c.toNat = 0x130 ∨ c.toNat = 0x131) := by
  simp only [sameLetter, Bool.or_eq_true, Bool.and_eq_true, decide_eq_true_eq] at same
  tauto

theorem spelled_lower (word taken : List Char) (ascii : taken.all isAscii = true) (spelled : Spells (word.map sameLetter) taken) :
    taken.map toLowerAscii = word := by
  induction word generalizing taken with
  | nil => rw [List.forall₂_nil_left_iff.mp spelled, List.map_nil]
  | cons letter rest ih =>
      cases spelled with
      | @cons _ c _ others accepted spelled' =>
          rw [List.all_cons, Bool.and_eq_true] at ascii
          have bounded : c.toNat < 128 := of_decide_eq_true ascii.1
          rw [List.map_cons, ih others ascii.2 spelled']
          obtain plain | foreign | foreign | foreign := same_letter_cases letter c accepted
          · rw [plain]
          · omega
          · omega
          · omega

theorem spelled_ascii (word taken : List Char) (plain : ∀ letter ∈ word, letter ≠ 'k' ∧ letter ≠ 's' ∧ letter ≠ 'i' ∧ isAscii letter = true)
    (spelled : Spells (word.map sameLetter) taken) : taken.all isAscii = true := by
  induction word generalizing taken with
  | nil =>
      rw [List.forall₂_nil_left_iff.mp spelled]
      rfl
  | cons letter rest ih =>
      cases spelled with
      | @cons _ c _ others accepted spelled' =>
          obtain ⟨notK, notS, notI, ascii⟩ := plain letter List.mem_cons_self
          rw [List.all_cons, ih others (fun other member => plain other (List.mem_cons_of_mem letter member)) spelled', Bool.and_true]
          obtain same | foreign | foreign | foreign := same_letter_cases letter c accepted
          · exact lower_ascii c letter same ascii
          · exact absurd foreign.1 notK
          · exact absurd foreign.1 notS
          · exact absurd foreign.1 notI

theorem char_le_iff (c d : Char) : c ≤ d ↔ c.toNat ≤ d.toNat := by
  rw [Char.le_def, UInt32.le_iff_toNat_le]
  rfl

theorem same_letter_code (letter c : Char) (same : sameLetter letter c = true) :
    c.toNat = letter.toNat ∨ (65 ≤ c.toNat ∧ c.toNat ≤ 90 ∧ c.toNat + 32 = letter.toNat) ∨
      c.toNat = 0x212A ∨ c.toNat = 0x17F ∨ c.toNat = 0x130 ∨ c.toNat = 0x131 := by
  obtain lowered | foreign | foreign | foreign := same_letter_cases letter c same
  · rw [toLowerAscii] at lowered
    by_cases upper : ('A' ≤ c && c ≤ 'Z') = true
    · rw [if_pos upper] at lowered
      simp only [Bool.and_eq_true, decide_eq_true_eq, char_le_iff] at upper
      have low : 65 ≤ c.toNat := upper.1
      have high : c.toNat ≤ 90 := upper.2
      have valid : (c.toNat + 32).isValidChar := Or.inl (by omega)
      refine .inr (.inl ⟨low, high, ?_⟩)
      rw [← lowered, Char.ofNat, dif_pos valid]
      rfl
    · rw [if_neg upper] at lowered
      exact .inl (congrArg Char.toNat lowered)
  · omega
  · omega
  · omega

theorem code_filled (c : Char) (code : 33 ≤ c.toNat ∧ c.toNat ≤ 122 ∨ c.toNat = 0x212A ∨ c.toNat = 0x17F ∨ c.toNat = 0x130 ∨ c.toNat = 0x131) :
    isBlank c = false := by
  cases blank : isBlank c with
  | false => rfl
  | true =>
      simp only [isBlank, isSpace, Bool.or_eq_true, decide_eq_true_eq, Bool.and_eq_true, ← Char.toNat_inj, Char.reduceToNat] at blank
      omega

theorem letter_filled (letter c : Char) (small : 'a' ≤ letter ∧ letter ≤ 'z') (same : sameLetter letter c = true) : isBlank c = false := by
  have low : 97 ≤ letter.toNat := (char_le_iff _ _).mp small.1
  have high : letter.toNat ≤ 122 := (char_le_iff _ _).mp small.2
  have code := same_letter_code letter c same
  exact code_filled c (by omega)

theorem spelled_filled (word taken : List Char) (small : ∀ letter ∈ word, 'a' ≤ letter ∧ letter ≤ 'z')
    (spelled : Spells (word.map sameLetter) taken) : ∀ c ∈ taken, isBlank c = false := by
  induction word generalizing taken with
  | nil =>
      rw [List.forall₂_nil_left_iff.mp spelled]
      intro c member
      cases member
  | cons letter rest ih =>
      cases spelled with
      | @cons _ c _ others accepted spelled' =>
          have later := ih others (fun other member => small other (List.mem_cons_of_mem letter member)) spelled'
          exact List.forall_mem_cons.mpr ⟨letter_filled letter c (small letter List.mem_cons_self) accepted, later⟩

end Letters

end Regex
