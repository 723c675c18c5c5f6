import AgenticNetops.Lib.RegexPieces

set_option autoImplicit false

/- Two texts with a stretch in common: as long as a pattern takes nothing beyond it, the
   pattern takes the same in both, and a substitution makes the same of it. -/
namespace Regex

-- What is around of a stretch.
structure Around where
  before : List Char
  after : List Char

-- A way through the stretch: what it took, the last character first, and what is left.
structure Way where
  taken : List Char
  rest : List Char
  groups : Caught

def Around.place (around : Around) (way : Way) : Place := ⟨way.taken ++ around.before, way.rest ++ around.after, way.groups⟩

-- A stop that is not beyond the stretch.
def Around.within (around : Around) (stop : Place) : Bool := around.after.length ≤ stop.after.length

-- From the start of a stretch, or from anywhere in it, a pattern takes nothing beyond.
def Ends (pattern : Pattern) (before rest after : List Char) : Prop :=
  ∀ text more caught, rest ++ after = text ++ more → Takes pattern before text more caught → text.length ≤ rest.length

def AllEnd (pattern : Pattern) (before rest after : List Char) : Prop :=
  ∀ front back, rest = front ++ back → back ≠ [] → Ends pattern (front.reverse ++ before) back after

section OneText
variable (around : Around)

theorem place_within (way : Way) : around.within (around.place way) = true := by
  refine decide_eq_true ?_
  change around.after.length ≤ (way.rest ++ around.after).length
  rw [List.length_append]
  exact Nat.le_add_left _ _

theorem places_within (found : List Way) : (found.map around.place).filter around.within = found.map around.place := by
  refine List.filter_eq_self.mpr fun stop member => ?_
  obtain ⟨way, _, rfl⟩ := List.mem_map.mp member
  exact place_within around way

-- The ways of a pattern that stay within the stretch.
def Finds (pattern : Pattern) (way : Way) (found : List Way) : Prop :=
  (ways pattern (around.place way)).filter around.within = found.map around.place

theorem ways_shorter (pattern : Pattern) (place stop : Place) (member : stop ∈ ways pattern place) : stop.after.length ≤ place.after.length := by
  obtain ⟨taken, _, split, _⟩ := (ways_reach pattern place stop).mp member
  rw [split, List.length_append]
  exact Nat.le_add_left _ _

theorem rounds_shorter (greedy : Bool) (body : Pattern) (limit : Nat) (place stop : Place)
    (member : stop ∈ rounds greedy (ways body) limit place) : stop.after.length ≤ place.after.length := by
  induction limit generalizing place with
  | zero =>
      rw [List.mem_singleton.mp member]
  | succ limit ih =>
      cases (mem_rounds greedy (ways body) limit place stop).mp member with
      | inl same => rw [same]
      | inr further =>
          obtain ⟨next, _, shorter, onward⟩ := further
          exact Nat.le_trans (ih next onward) (Nat.le_of_lt shorter)

-- What is beyond the stretch stays beyond.
theorem flat_within (stops : List Place) (next : Place → List Place) (shorter : ∀ place, ∀ stop ∈ next place, stop.after.length ≤ place.after.length) :
    (stops.flatMap next).filter around.within = (stops.filter around.within).flatMap fun place => (next place).filter around.within := by
  induction stops with
  | nil => rfl
  | cons place others ih =>
      rw [List.flatMap_cons, List.filter_append, ih]
      cases inside : around.within place with
      | true => rw [List.filter_cons_of_pos inside, List.flatMap_cons]
      | false =>
          have beyond : (next place).filter around.within = [] := by
            refine List.filter_eq_nil_iff.mpr fun stop member within => ?_
            have less := shorter place stop member
            have more := of_decide_eq_true within
            have outside := of_decide_eq_false inside
            omega
          rw [List.filter_cons_of_neg (by rw [inside]; exact Bool.false_ne_true), beyond, List.nil_append]

theorem flat_found (stops : List Place) (next : Place → List Place) (shorter : ∀ place, ∀ stop ∈ next place, stop.after.length ≤ place.after.length)
    (found : List Way) (further : Way → List Way) (isFound : stops.filter around.within = found.map around.place)
    (onward : ∀ way ∈ found, (next (around.place way)).filter around.within = (further way).map around.place) :
    (stops.flatMap next).filter around.within = (found.flatMap further).map around.place := by
  rw [flat_within around stops next shorter, isFound, List.flatMap_map, List.map_flatMap]
  exact List.flatMap_congr onward

def charWays (accepts : Char → Bool) (way : Way) : List Way :=
  match way.rest with
  | [] => []
  | c :: rest => if accepts c then [⟨c :: way.taken, rest, way.groups⟩] else []

theorem finds_char (accepts : Char → Bool) (way : Way) : Finds around (.char accepts) way (charWays accepts way) := by
  obtain ⟨taken, rest, groups⟩ := way
  cases rest with
  | cons c more =>
      change (if accepts c = true then [around.place ⟨c :: taken, more, groups⟩] else []).filter around.within =
        (if accepts c = true then [(⟨c :: taken, more, groups⟩ : Way)] else []).map around.place
      by_cases accepted : accepts c = true
      · rw [if_pos accepted, if_pos accepted]
        exact places_within around [⟨c :: taken, more, groups⟩]
      · rw [if_neg accepted, if_neg accepted]
        rfl
  | nil =>
      refine List.filter_eq_nil_iff.mpr fun stop member within => ?_
      obtain ⟨text, caught, split, _, _, c, isText, _⟩ := (ways_reach (.char accepts) _ stop).mp member
      have more := of_decide_eq_true within
      change around.after = text ++ stop.after at split
      rw [split, isText] at more
      exact absurd more (Nat.not_succ_le_self _)

theorem finds_seq (first second : Pattern) (way : Way) (found : List Way) (further : Way → List Way) (isFound : Finds around first way found)
    (onward : ∀ way, Finds around second way (further way)) : Finds around (.seq first second) way (found.flatMap further) :=
  flat_found around _ _ (ways_shorter second) found further isFound fun way _ => onward way

theorem finds_alt (first second : Pattern) (way : Way) (found other : List Way) (isFound : Finds around first way found)
    (isOther : Finds around second way other) : Finds around (.alt first second) way (found ++ other) := by
  change (ways first (around.place way) ++ ways second (around.place way)).filter around.within = _
  rw [List.filter_append, isFound, isOther, List.map_append]

def roundWays (greedy : Bool) (step : Way → List Way) : Nat → Way → List Way
  | 0, way => [way]
  | limit + 1, way =>
      let further := ((step way).filter fun next => next.rest.length < way.rest.length).flatMap (roundWays greedy step limit)
      if greedy then further ++ [way] else way :: further

-- The next rounds within the stretch are those that take something.
theorem stepped_found (body : Pattern) (step : Way → List Way) (steps : ∀ way, Finds around body way (step way)) (way : Way) :
    ((ways body (around.place way)).filter fun next => next.after.length < (around.place way).after.length).filter around.within =
      ((step way).filter fun next => next.rest.length < way.rest.length).map around.place := by
  have shorter (next : Way) : decide ((around.place next).after.length < (around.place way).after.length) =
      decide (next.rest.length < way.rest.length) := by
    refine decide_eq_decide.mpr ?_
    change (next.rest ++ around.after).length < (way.rest ++ around.after).length ↔ _
    rw [List.length_append, List.length_append]
    omega
  rw [List.filter_comm, steps way, List.filter_map]
  exact congrArg (List.map around.place) (List.filter_congr fun next _ => shorter next)

theorem rounds_found (greedy : Bool) (body : Pattern) (step : Way → List Way) (steps : ∀ way, Finds around body way (step way)) (limit other : Nat)
    (way : Way) (room : way.rest.length ≤ limit) (room' : way.rest.length ≤ other) :
    (rounds greedy (ways body) limit (around.place way)).filter around.within = (roundWays greedy step other way).map around.place := by
  have alone (way : Way) : ([around.place way] : List Place).filter around.within = [way].map around.place := places_within around [way]
  have stuck (way : Way) (ended : way.rest.length = 0) : (step way).filter (fun next => next.rest.length < way.rest.length) = [] := by
    refine List.filter_eq_nil_iff.mpr fun next _ shorter => ?_
    have less := of_decide_eq_true shorter
    omega
  have joined (further : List Place) (others : List Way) (way : Way) (same : further.filter around.within = others.map around.place) :
      (if greedy then further ++ [around.place way] else around.place way :: further).filter around.within =
        (if greedy then others ++ [way] else way :: others).map around.place := by
    cases greedy with
    | true => rw [if_pos rfl, if_pos rfl, List.filter_append, same, alone, List.map_append]
    | false =>
        rw [if_neg Bool.false_ne_true, if_neg Bool.false_ne_true, List.filter_cons_of_pos (place_within around way), same, List.map_cons]
  induction limit generalizing other way with
  | zero =>
      have ended : way.rest.length = 0 := Nat.le_zero.mp room
      cases other with
      | zero => exact alone way
      | succ other =>
          rw [roundWays, stuck way ended, List.flatMap_nil]
          have none' := joined [] [] way rfl
          cases greedy with
          | true => exact none'
          | false => exact none'
  | succ limit ih =>
      rw [rounds]
      cases other with
      | zero =>
          have ended : way.rest.length = 0 := Nat.le_zero.mp room'
          have none' := flat_found around _ (rounds greedy (ways body) limit) (rounds_shorter greedy body limit) [] (fun way => [way])
            (by rw [stepped_found around body step steps way, stuck way ended]) (fun way member => by cases member)
          have both := joined _ [] way none'
          cases greedy with
          | true => exact both
          | false => exact both
      | succ other =>
          rw [roundWays]
          refine joined _ _ way ?_
          refine flat_found around _ _ (rounds_shorter greedy body limit) _ _ (stepped_found around body step steps way) fun next member => ?_
          have less := of_decide_eq_true (List.mem_filter.mp member).2
          exact ih other next (by omega) (by omega)

theorem finds_many (greedy : Bool) (body : Pattern) (step : Way → List Way) (steps : ∀ way, Finds around body way (step way)) (way : Way) :
    Finds around (.many greedy body) way (roundWays greedy step way.rest.length way) := by
  refine rounds_found around greedy body step steps _ _ way ?_ (Nat.le_refl _)
  change way.rest.length ≤ (way.rest ++ around.after).length
  rw [List.length_append]
  exact Nat.le_add_right _ _

def Way.named (name : String) (start stop : Way) : Way :=
  { stop with groups := (name, start.rest.take (start.rest.length - stop.rest.length)) :: stop.groups }

theorem finds_group (name : String) (body : Pattern) (way : Way) (found : List Way) (isFound : Finds around body way found) :
    Finds around (.group name body) way (found.map (Way.named name way)) := by
  have between' (stop : Way) : (around.place way).between (around.place stop) = way.rest.take (way.rest.length - stop.rest.length) := by
    change (way.rest ++ around.after).take ((way.rest ++ around.after).length - (stop.rest ++ around.after).length) = _
    rw [List.length_append, List.length_append, Nat.add_sub_add_right, List.take_append_of_le_length (Nat.sub_le _ _)]
  change ((ways body (around.place way)).map _).filter around.within = _
  have sameEnd : (around.within ∘ fun stop : Place => ({ stop with groups := (name, (around.place way).between stop) :: stop.groups } : Place)) =
      around.within := rfl
  rw [List.filter_map, sameEnd, isFound, List.map_map, List.map_map]
  refine List.map_congr_left fun stop _ => ?_
  change (⟨_, _, (name, (around.place way).between (around.place stop)) :: stop.groups⟩ : Place) = _
  rw [between' stop]
  rfl

theorem finds_here (holds : Bool) (way : Way) :
    (if holds then [around.place way] else []).filter around.within = (if holds then [way] else []).map around.place := by
  cases holds with
  | true => exact places_within around [way]
  | false => rfl

theorem match_found (pattern : Pattern) (taken rest : List Char) (ends : Ends pattern (taken ++ around.before) rest around.after) (found : List Way)
    (isFound : Finds around pattern ⟨taken, rest, []⟩ found) :
    (found = [] → matchAt pattern (taken ++ around.before) (rest ++ around.after) = none) ∧
      ∀ stop others, found = stop :: others → ∃ text, rest = text ++ stop.rest ∧
        matchAt pattern (taken ++ around.before) (rest ++ around.after) =
          some ⟨(taken ++ around.before).reverse, text, stop.rest ++ around.after, stop.groups⟩ := by
  have all : (ways pattern (around.place ⟨taken, rest, []⟩)).filter around.within = ways pattern (around.place ⟨taken, rest, []⟩) := by
    refine List.filter_eq_self.mpr fun stop member => ?_
    obtain ⟨text, caught, split, _, _, took⟩ := (ways_reach pattern _ stop).mp member
    have short := ends text stop.after caught split took
    have length := congrArg List.length split
    change (rest ++ around.after).length = (text ++ stop.after).length at length
    rw [List.length_append, List.length_append] at length
    exact decide_eq_true (by omega)
  rw [Finds, all] at isFound
  refine ⟨fun none' => ?_, fun stop others shape => ?_⟩
  · rw [matchAt, show ways pattern ⟨taken ++ around.before, rest ++ around.after, []⟩ = found.map around.place from isFound, none']
    rfl
  · have member : around.place stop ∈ ways pattern (around.place ⟨taken, rest, []⟩) := by
      rw [isFound, shape]
      exact List.mem_cons_self
    obtain ⟨text, _, split, _⟩ := (ways_reach pattern _ _).mp member
    have isRest : rest = text ++ stop.rest := by
      change rest ++ around.after = text ++ (stop.rest ++ around.after) at split
      rw [← List.append_assoc] at split
      exact List.append_cancel_right split
    refine ⟨text, isRest, ?_⟩
    have held : Place.between ⟨taken ++ around.before, rest ++ around.after, []⟩ (around.place stop) = text := by
      rw [isRest, List.append_assoc]
      exact between_taken _ text _ [] (around.place stop) rfl
    rw [matchAt, show ways pattern ⟨taken ++ around.before, rest ++ around.after, []⟩ = found.map around.place from isFound, shape, List.map_cons,
      List.head?_cons, Option.map_some, held]
    rfl

end OneText

section TwoTexts
variable (first second : Around)

-- Around of the stretch, the patterns cannot tell the two texts apart.
structure Near : Prop where
  before : first.before.head? = second.before.head?
  after : first.after.head? = second.after.head?

def Alike : Pattern → Prop
  | .char _ => True
  | .empty => True
  | .seq one other => Alike one ∧ Alike other
  | .alt one other => Alike one ∧ Alike other
  | .many _ body => Alike body
  | .group _ body => Alike body
  | .boundary _ => True
  | .ahead _ body => ∀ way, (ways body (first.place way)).isEmpty = (ways body (second.place way)).isEmpty
  | .behind _ _ => True
  | .finish => False

-- A pattern that looks at nothing ahead but its boundaries.
def Pattern.blind : Pattern → Bool
  | .char _ => true
  | .empty => true
  | .seq one other => one.blind && other.blind
  | .alt one other => one.blind && other.blind
  | .many _ body => body.blind
  | .group _ body => body.blind
  | .boundary _ => true
  | .ahead _ _ => false
  | .behind _ _ => true
  | .finish => false

theorem alike_blind (pattern : Pattern) (blind : pattern.blind = true) : Alike first second pattern := by
  induction pattern with
  | char accepts => trivial
  | empty => trivial
  | seq one other ihOne ihOther =>
      have both := (Bool.and_eq_true _ _).mp blind
      exact ⟨ihOne both.1, ihOther both.2⟩
  | alt one other ihOne ihOther =>
      have both := (Bool.and_eq_true _ _).mp blind
      exact ⟨ihOne both.1, ihOther both.2⟩
  | many greedy body ih => exact ih blind
  | group name body ih => exact ih blind
  | boundary isWord => trivial
  | ahead wanted body ih => cases blind
  | behind wanted accepts => trivial
  | finish => cases blind

-- A look ahead for text that the classes spell.
theorem ahead_empty (body : Pattern) (classes : List (Char → Bool))
    (meaning : ∀ before taken after caught, Takes (.ahead false body) before taken after caught ↔ taken = [] ∧ caught = [] ∧ opens classes after = false)
    (place : Place) : (ways body place).isEmpty = !opens classes place.after := by
  have here : place ∈ ways (.ahead false body) place ↔ (ways body place).isEmpty = true := by
    change place ∈ (if ((ways body place).isEmpty != false) = true then [place] else []) ↔ _
    cases (ways body place).isEmpty with
    | true => exact ⟨fun _ => rfl, fun _ => List.mem_cons_self⟩
    | false => exact ⟨fun member => (List.not_mem_nil member).elim, fun absurd' => by cases absurd'⟩
  have reached : place ∈ ways (.ahead false body) place ↔ opens classes place.after = false := by
    refine (ways_reach _ _ _).trans ⟨fun reach => ?_, fun closed => ?_⟩
    · obtain ⟨taken, caught, _, _, _, took⟩ := reach
      exact ((meaning _ _ _ _).mp took).2.2
    · exact ⟨[], [], rfl, rfl, rfl, (meaning _ _ _ _).mpr ⟨rfl, rfl, closed⟩⟩
  cases opened : opens classes place.after with
  | true =>
      refine Bool.eq_false_iff.mpr fun empty => ?_
      rw [reached.mp (here.mpr empty)] at opened
      cases opened
  | false => exact here.mp (reached.mpr opened)

theorem alike_ahead (body : Pattern) (classes : List (Char → Bool))
    (meaning : ∀ before taken after caught, Takes (.ahead false body) before taken after caught ↔ taken = [] ∧ caught = [] ∧ opens classes after = false)
    (same : ∀ way : Way, opens classes (way.rest ++ first.after) = opens classes (way.rest ++ second.after)) :
    Alike first second (.ahead false body) := by
  intro way
  rw [ahead_empty body classes meaning, ahead_empty body classes meaning]
  exact congrArg not (same way)

variable (near : Near first second)
include near

theorem head_alike (way : Way) : (first.place way).before.head? = (second.place way).before.head? ∧
    (first.place way).after.head? = (second.place way).after.head? := by
  obtain ⟨taken, rest, groups⟩ := way
  refine ⟨?_, ?_⟩
  · cases taken with
    | nil => exact near.before
    | cons c more => rfl
  · cases rest with
    | nil => exact near.after
    | cons c more => rfl

theorem ways_alike (pattern : Pattern) (alike : Alike first second pattern) :
    ∃ found : Way → List Way, ∀ way, Finds first pattern way (found way) ∧ Finds second pattern way (found way) := by
  induction pattern with
  | char accepts => exact ⟨charWays accepts, fun way => ⟨finds_char first accepts way, finds_char second accepts way⟩⟩
  | empty => exact ⟨fun way => [way], fun way => ⟨places_within first [way], places_within second [way]⟩⟩
  | seq one other ihOne ihOther =>
      obtain ⟨found, isFound⟩ := ihOne alike.1
      obtain ⟨further, isFurther⟩ := ihOther alike.2
      exact ⟨fun way => (found way).flatMap further, fun way =>
        ⟨finds_seq first one other way _ further (isFound way).1 fun way => (isFurther way).1,
          finds_seq second one other way _ further (isFound way).2 fun way => (isFurther way).2⟩⟩
  | alt one other ihOne ihOther =>
      obtain ⟨found, isFound⟩ := ihOne alike.1
      obtain ⟨further, isFurther⟩ := ihOther alike.2
      exact ⟨fun way => found way ++ further way, fun way => ⟨finds_alt first one other way _ _ (isFound way).1 (isFurther way).1,
        finds_alt second one other way _ _ (isFound way).2 (isFurther way).2⟩⟩
  | many greedy body ih =>
      obtain ⟨found, isFound⟩ := ih alike
      exact ⟨fun way => roundWays greedy found way.rest.length way, fun way =>
        ⟨finds_many first greedy body found (fun way => (isFound way).1) way, finds_many second greedy body found (fun way => (isFound way).2) way⟩⟩
  | group name body ih =>
      obtain ⟨found, isFound⟩ := ih alike
      exact ⟨fun way => (found way).map (Way.named name way), fun way =>
        ⟨finds_group first name body way _ (isFound way).1, finds_group second name body way _ (isFound way).2⟩⟩
  | boundary isWord =>
      refine ⟨fun way => if atBoundary isWord (first.place way) then [way] else [], fun way => ⟨finds_here first _ way, ?_⟩⟩
      have same : atBoundary isWord (first.place way) = atBoundary isWord (second.place way) := by
        rw [atBoundary, atBoundary, (head_alike first second near way).1, (head_alike first second near way).2]
      change (if atBoundary isWord (second.place way) then [second.place way] else []).filter second.within =
        (if atBoundary isWord (first.place way) then [way] else []).map second.place
      rw [same]
      exact finds_here second _ way
  | ahead wanted body ih =>
      refine ⟨fun way => if (ways body (first.place way)).isEmpty != wanted then [way] else [], fun way => ⟨finds_here first _ way, ?_⟩⟩
      change (if (ways body (second.place way)).isEmpty != wanted then [second.place way] else []).filter second.within =
        (if (ways body (first.place way)).isEmpty != wanted then [way] else []).map second.place
      rw [alike way]
      exact finds_here second _ way
  | behind wanted accepts =>
      refine ⟨fun way => if (first.place way).before.head?.any accepts == wanted then [way] else [], fun way => ⟨finds_here first _ way, ?_⟩⟩
      change (if (second.place way).before.head?.any accepts == wanted then [second.place way] else []).filter second.within =
        (if (first.place way).before.head?.any accepts == wanted then [way] else []).map second.place
      rw [(head_alike first second near way).1]
      exact finds_here second _ way
  | finish => exact alike.elim

theorem match_alike (pattern : Pattern) (alike : Alike first second pattern) (taken rest : List Char) (ends : Ends pattern (taken ++ first.before) rest first.after)
    (ends' : Ends pattern (taken ++ second.before) rest second.after) :
    matchAt pattern (taken ++ first.before) (rest ++ first.after) = none ∧ matchAt pattern (taken ++ second.before) (rest ++ second.after) = none ∨
      ∃ text more groups, rest = text ++ more ∧
        matchAt pattern (taken ++ first.before) (rest ++ first.after) =
          some ⟨(taken ++ first.before).reverse, text, more ++ first.after, groups⟩ ∧
        matchAt pattern (taken ++ second.before) (rest ++ second.after) =
          some ⟨(taken ++ second.before).reverse, text, more ++ second.after, groups⟩ := by
  obtain ⟨found, isFound⟩ := ways_alike first second near pattern alike
  obtain ⟨none₁, some₁⟩ := match_found first pattern taken rest ends _ (isFound ⟨taken, rest, []⟩).1
  obtain ⟨none₂, some₂⟩ := match_found second pattern taken rest ends' _ (isFound ⟨taken, rest, []⟩).2
  cases shape : found ⟨taken, rest, []⟩ with
  | nil => exact .inl ⟨none₁ shape, none₂ shape⟩
  | cons stop others =>
      obtain ⟨text, isRest, matched⟩ := some₁ stop others shape
      obtain ⟨text', isRest', matched'⟩ := some₂ stop others shape
      rw [isRest] at isRest'
      rw [← List.append_cancel_right isRest'] at matched'
      exact .inr ⟨text, stop.rest, stop.groups, isRest, matched, matched'⟩

end TwoTexts

section Substitutions
variable (pattern : Pattern) (replacement : Match → List Char)

-- A substitution from some place on.
def subAfter (before after : List Char) : List Char := subFrom pattern replacement (after.length + 1) before after

theorem match_here_shorter (before after : List Char) (made : Match) (matched : matchHere pattern before after = some made) :
    made.after.length < after.length := by
  obtain ⟨_, present, split, _⟩ := match_here_some pattern before after made matched
  have some_length := List.length_pos_iff.mpr present
  rw [split, List.length_append]
  omega

-- More room than there are characters is not used.
theorem sub_room (limit other : Nat) (before after : List Char) (room : after.length < limit) (room' : after.length < other) :
    subFrom pattern replacement limit before after = subFrom pattern replacement other before after := by
  induction limit generalizing other before after with
  | zero => cases room
  | succ limit ih =>
      cases other with
      | zero => cases room'
      | succ other =>
          rw [subFrom.eq_def, subFrom.eq_def]
          cases here : matchHere pattern before after with
          | some made =>
              have shorter := match_here_shorter pattern before after made here
              simp only [here]
              rw [ih other (made.text.reverse ++ before) made.after (by omega) (by omega)]
          | none =>
              cases after with
              | nil => simp only [here]
              | cons c more =>
                  simp only [here]
                  rw [ih other (c :: before) more (Nat.lt_of_succ_lt_succ room) (Nat.lt_of_succ_lt_succ room')]

theorem sub_after_match (before after : List Char) (made : Match) (matched : matchHere pattern before after = some made) :
    subAfter pattern replacement before after =
      replacement made ++ subAfter pattern replacement (made.text.reverse ++ before) made.after := by
  have shorter := match_here_shorter pattern before after made matched
  rw [subAfter, subFrom.eq_def]
  simp only [matched]
  rw [subAfter, sub_room pattern replacement after.length (made.after.length + 1) _ _ shorter (Nat.lt_succ_self _)]

theorem sub_after_kept (before more : List Char) (c : Char) (kept : matchHere pattern before (c :: more) = none) :
    subAfter pattern replacement before (c :: more) = c :: subAfter pattern replacement (c :: before) more := by
  rw [subAfter, subFrom.eq_def]
  simp only [kept]
  rfl

theorem sub_after_nil (before : List Char) : subAfter pattern replacement before [] = [] := by
  have none' : matchHere pattern before [] = none := by
    cases here : matchHere pattern before [] with
    | none => rfl
    | some made => cases match_here_shorter pattern before [] made here
  rw [subAfter, subFrom.eq_def]
  simp only [none']

theorem all_end_later (before front back after : List Char) (ends : AllEnd pattern before (front ++ back) after) :
    AllEnd pattern (front.reverse ++ before) back after := by
  intro front' back' split present
  have further := ends (front ++ front') back' (by rw [split, List.append_assoc]) present
  rw [List.reverse_append, List.append_assoc] at further
  exact further

theorem all_end_nil (before rest : List Char) : AllEnd pattern before rest [] := by
  intro front back split present text others caught isText took
  have length := congrArg List.length isText
  rw [List.length_append, List.length_append, List.length_nil] at length
  omega

theorem match_here_empty (before after : List Char) (made : Match) (matched : matchAt pattern before after = some made) (empty : made.text = []) :
    matchHere pattern before after = none := by
  rw [matchHere, matched, Option.filter_some, empty]
  rfl

theorem match_here_filled (before after : List Char) (made : Match) (matched : matchAt pattern before after = some made) (present : made.text ≠ []) :
    matchHere pattern before after = some made := by
  rw [matchHere, matched, Option.filter_some, List.isEmpty_eq_false_iff.mpr present]
  rfl

-- A substitution makes the same of a common stretch.
theorem sub_alike (first second : Around) (near : Near first second) (alike : Alike first second pattern)
    (respects : ∀ made other : Match, made.groups = other.groups → replacement made = replacement other) (taken rest : List Char)
    (ends : AllEnd pattern (taken ++ first.before) rest first.after) (ends' : AllEnd pattern (taken ++ second.before) rest second.after) :
    ∃ out,
      subAfter pattern replacement (taken ++ first.before) (rest ++ first.after) =
        out ++ subAfter pattern replacement (rest.reverse ++ (taken ++ first.before)) first.after ∧
      subAfter pattern replacement (taken ++ second.before) (rest ++ second.after) =
        out ++ subAfter pattern replacement (rest.reverse ++ (taken ++ second.before)) second.after := by
  generalize size : rest.length = limit
  induction limit using Nat.strong_induction_on generalizing taken rest with
  | _ limit ih =>
      cases rest with
      | nil => exact ⟨[], rfl, rfl⟩
      | cons c more =>
          have onward (none₁ : matchHere pattern (taken ++ first.before) (c :: (more ++ first.after)) = none)
              (none₂ : matchHere pattern (taken ++ second.before) (c :: (more ++ second.after)) = none) :
              ∃ out,
                subAfter pattern replacement (taken ++ first.before) (c :: more ++ first.after) =
                  out ++ subAfter pattern replacement ((c :: more).reverse ++ (taken ++ first.before)) first.after ∧
                subAfter pattern replacement (taken ++ second.before) (c :: more ++ second.after) =
                  out ++ subAfter pattern replacement ((c :: more).reverse ++ (taken ++ second.before)) second.after := by
            obtain ⟨out, isFirst, isSecond⟩ := ih more.length (by rw [← size]; exact Nat.lt_succ_self _) (c :: taken) more
              (all_end_later pattern _ [c] more _ ends) (all_end_later pattern _ [c] more _ ends') rfl
            refine ⟨c :: out, ?_, ?_⟩
            · rw [List.cons_append, sub_after_kept pattern replacement _ _ c none₁, List.reverse_cons, List.append_assoc]
              exact congrArg (List.cons c) isFirst
            · rw [List.cons_append, sub_after_kept pattern replacement _ _ c none₂, List.reverse_cons, List.append_assoc]
              exact congrArg (List.cons c) isSecond
          have here := ends [] (c :: more) rfl (List.cons_ne_nil _ _)
          have here' := ends' [] (c :: more) rfl (List.cons_ne_nil _ _)
          cases match_alike first second near pattern alike taken (c :: more) here here' with
          | inl none' => exact onward (by rw [matchHere]; exact congrArg _ none'.1) (by rw [matchHere]; exact congrArg _ none'.2)
          | inr some' =>
              obtain ⟨text, more', groups, isRest, matched, matched'⟩ := some'
              by_cases empty : text = []
              · exact onward (match_here_empty pattern _ _ _ matched empty) (match_here_empty pattern _ _ _ matched' empty)
              · have shorter : more'.length < limit := by
                  have some_length := List.length_pos_iff.mpr empty
                  rw [← size, isRest, List.length_append]
                  omega
                rw [isRest] at ends ends'
                obtain ⟨out, isFirst, isSecond⟩ := ih more'.length shorter (text.reverse ++ taken) more'
                  (by rw [List.append_assoc]; exact all_end_later pattern _ text more' _ ends)
                  (by rw [List.append_assoc]; exact all_end_later pattern _ text more' _ ends') rfl
                rw [List.append_assoc] at isFirst isSecond
                have sameGroups := respects ⟨(taken ++ first.before).reverse, text, more' ++ first.after, groups⟩
                  ⟨(taken ++ second.before).reverse, text, more' ++ second.after, groups⟩ rfl
                have back (before : List Char) : (text ++ more').reverse ++ before = more'.reverse ++ (text.reverse ++ before) := by
                  rw [List.reverse_append, List.append_assoc]
                refine ⟨replacement ⟨(taken ++ first.before).reverse, text, more' ++ first.after, groups⟩ ++ out, ?_, ?_⟩
                · rw [sub_after_match pattern replacement _ _ _ (match_here_filled pattern _ _ _ matched empty), isFirst, isRest, back,
                    ← List.append_assoc]
                · rw [sub_after_match pattern replacement _ _ _ (match_here_filled pattern _ _ _ matched' empty), isSecond, isRest, back,
                    sameGroups, ← List.append_assoc]

-- A stretch at none of whose places anything is found.
def Unbegun (before rest after : List Char) : Prop :=
  ∀ front c back, rest = front ++ c :: back → matchHere pattern (front.reverse ++ before) (c :: (back ++ after)) = none

theorem unbegun_later (before more after : List Char) (c : Char) (unbegun : Unbegun pattern before (c :: more) after) :
    Unbegun pattern (c :: before) more after := by
  intro front d back split
  have further := unbegun (c :: front) d back (by rw [split]; rfl)
  rw [List.reverse_cons, List.append_assoc] at further
  exact further

theorem untaken_unbegun (before rest after : List Char)
    (untaken : ∀ front back taken behind caught, rest = front ++ back → back ≠ [] → back ++ after = taken ++ behind →
      ¬ Takes pattern (front.reverse ++ before) taken behind caught) : Unbegun pattern before rest after := by
  intro front c back split
  cases here : matchHere pattern (front.reverse ++ before) (c :: (back ++ after)) with
  | none => rfl
  | some made =>
      obtain ⟨_, _, isText, took⟩ := match_here_some pattern _ _ made here
      exact absurd took (untaken front (c :: back) made.text made.after made.groups split (List.cons_ne_nil _ _) isText)

theorem sub_unbegun (before rest after : List Char) (unbegun : Unbegun pattern before rest after) :
    subAfter pattern replacement before (rest ++ after) = rest ++ subAfter pattern replacement (rest.reverse ++ before) after := by
  induction rest generalizing before with
  | nil => rfl
  | cons c more ih =>
      rw [List.cons_append, sub_after_kept pattern replacement before _ c (unbegun [] c more rfl),
        ih (c :: before) (unbegun_later pattern before more after c unbegun), List.reverse_cons, List.append_assoc]
      rfl

variable (mark : List Char) (holds : List Char → Piece → List Piece → Prop) (cuts : CutsInto pattern replacement mark holds)
include cuts

theorem unbegun_pieces (before rest after : List Char) (unbegun : Unbegun pattern before rest after) :
    ∃ pieces, Stays pieces rest ∧
      ∀ others, readAll others = after → Along holds (rest.reverse ++ before) others → Along holds before (pieces ++ others) := by
  induction rest generalizing before with
  | nil => exact ⟨[], .nil, fun others _ along => along⟩
  | cons c more ih =>
      obtain ⟨pieces, stays, joined⟩ := ih (c :: before) (unbegun_later pattern before more after c unbegun)
      refine ⟨.kept true c :: pieces, .cons ⟨true, rfl⟩ stays, fun others isOthers along => ⟨?_, joined others isOthers ?_⟩⟩
      · refine cuts.free before c (pieces ++ others) ?_
        rw [read_append, stays_read pieces more stays, isOthers]
        exact unbegun [] c more rfl
      · rw [List.reverse_cons, List.append_assoc] at along
        exact along

-- The pieces of a stretch.
theorem sub_parted (before rest after : List Char) (ends : AllEnd pattern before rest after) :
    ∃ pieces, readAll pieces = rest ∧
      subAfter pattern replacement before (rest ++ after) =
        writeAll mark pieces ++ subAfter pattern replacement (rest.reverse ++ before) after ∧
      ∀ others, readAll others = after → Along holds (rest.reverse ++ before) others → Along holds before (pieces ++ others) := by
  generalize size : rest.length = limit
  induction limit using Nat.strong_induction_on generalizing before rest with
  | _ limit ih =>
      cases rest with
      | nil => exact ⟨[], rfl, rfl, fun others _ along => along⟩
      | cons c more =>
          cases here : matchHere pattern before (c :: (more ++ after)) with
          | none =>
              obtain ⟨pieces, isRead, isWritten, joined⟩ := ih more.length (by rw [← size]; exact Nat.lt_succ_self _) (c :: before) more
                (all_end_later pattern _ [c] more _ ends) rfl
              refine ⟨.kept true c :: pieces, ?_, ?_, fun others isOthers along => ⟨?_, joined others isOthers ?_⟩⟩
              · rw [read_cons, isRead]
                rfl
              · rw [List.cons_append, sub_after_kept pattern replacement _ _ c here, isWritten, List.reverse_cons, List.append_assoc, written_cons]
                rfl
              · refine cuts.free before c (pieces ++ others) ?_
                rw [read_append, isRead, isOthers]
                exact here
              · rw [List.reverse_cons, List.append_assoc] at along
                exact along
          | some made =>
              obtain ⟨_, present, split, took⟩ := match_here_some pattern before _ made here
              have short := ends [] (c :: more) rfl (List.cons_ne_nil _ _) made.text made.after made.groups split took
              have parts : ∃ more', c :: more = made.text ++ more' ∧ made.after = more' ++ after := by
                cases List.append_eq_append_iff.mp (show (c :: more) ++ after = made.text ++ made.after from split) with
                | inl longer =>
                    obtain ⟨extra, isText, isAfter⟩ := longer
                    have none' : extra = [] := by
                      rw [isText, List.length_append] at short
                      exact List.length_eq_zero_iff.mp (by omega)
                    rw [none', List.append_nil] at isText
                    rw [none', List.nil_append] at isAfter
                    exact ⟨[], by rw [isText, List.append_nil], isAfter.symm⟩
                | inr shorter =>
                    obtain ⟨extra, isRest, isAfter⟩ := shorter
                    exact ⟨extra, isRest, isAfter⟩
              obtain ⟨more', isRest, isAfter⟩ := parts
              have shorter : more'.length < limit := by
                have some_length := List.length_pos_iff.mpr present
                rw [← size, isRest, List.length_append]
                omega
              rw [isRest] at ends
              obtain ⟨pieces, isRead, isWritten, joined⟩ := ih more'.length shorter (made.text.reverse ++ before) more'
                (all_end_later pattern _ made.text more' _ ends) rfl
              obtain ⟨cutPieces, isRead', isWritten', joined'⟩ := cuts.hit before _ made here
              refine ⟨cutPieces ++ pieces, ?_, ?_, fun others isOthers along => ?_⟩
              · rw [read_append, isRead, isRead', isRest]
              · rw [List.cons_append, sub_after_match pattern replacement _ _ made here, isAfter, isWritten, isRest, List.reverse_append, List.append_assoc,
                  written_append, isWritten', List.append_assoc]
              · rw [List.append_assoc]
                refine joined' (pieces ++ others) (by rw [read_append, isRead, isOthers, isAfter]) (joined others isOthers ?_)
                rw [isRest, List.reverse_append, List.append_assoc] at along
                exact along

end Substitutions

section Longest

-- Stops from the longest text to the shortest.
def Falling (stops : List Place) : Prop := stops.Pairwise fun first second => first.after.length ≤ second.after.length

theorem char_few (accepts : Char → Bool) (place : Place) : (ways (.char accepts) place).length ≤ 1 := by
  obtain ⟨before, after, groups⟩ := place
  cases after with
  | nil => exact Nat.zero_le _
  | cons c more =>
      change (if accepts c = true then [_] else []).length ≤ 1
      by_cases accepted : accepts c = true
      · rw [if_pos accepted]
        exact Nat.le_refl _
      · rw [if_neg accepted]
        exact Nat.zero_le _

theorem flat_few (stops : List Place) (next : Place → List Place) (few : stops.length ≤ 1) (each : ∀ place, (next place).length ≤ 1) :
    (stops.flatMap next).length ≤ 1 := by
  cases stops with
  | nil => exact Nat.zero_le _
  | cons place others =>
      have none' : others = [] := List.length_eq_zero_iff.mp (Nat.le_zero.mp (Nat.le_of_succ_le_succ few))
      rw [none', List.flatMap_cons, List.flatMap_nil, List.append_nil]
      exact each place

theorem flat_falling (stops : List Place) (next : Place → List Place) (few : stops.length ≤ 1) (each : ∀ place, Falling (next place)) :
    Falling (stops.flatMap next) := by
  cases stops with
  | nil => exact .nil
  | cons place others =>
      have none' : others = [] := List.length_eq_zero_iff.mp (Nat.le_zero.mp (Nat.le_of_succ_le_succ few))
      rw [none', List.flatMap_cons, List.flatMap_nil, List.append_nil]
      exact each place

theorem times_few (accepts : Char → Bool) (count : Nat) (place : Place) : (ways (times (.char accepts) count) place).length ≤ 1 := by
  induction count generalizing place with
  | zero => exact Nat.le_refl 1
  | succ count ih => exact flat_few _ _ (char_few accepts place) ih

theorem rounds_falling (accepts : Char → Bool) (limit : Nat) (place : Place) : Falling (rounds true (ways (.char accepts)) limit place) := by
  induction limit generalizing place with
  | zero => exact List.pairwise_singleton _ _
  | succ limit ih =>
      have few : ((ways (.char accepts) place).filter fun next => next.after.length < place.after.length).length ≤ 1 :=
        Nat.le_trans (List.length_filter_le _ _) (char_few accepts place)
      refine List.pairwise_append.mpr ⟨flat_falling _ _ few ih, List.pairwise_singleton _ _, fun stop member last isLast => ?_⟩
      obtain ⟨next, isNext, further⟩ := List.mem_flatMap.mp member
      have shorter := of_decide_eq_true (List.mem_filter.mp isNext).2
      rw [List.mem_singleton.mp isLast]
      exact Nat.le_trans (rounds_shorter true (.char accepts) limit next stop further) (Nat.le_of_lt shorter)

theorem bounded_falling (isWord : Char → Bool) (stops : List Place) (falling : Falling stops) : Falling (stops.flatMap (ways (.boundary isWord))) := by
  have stays (place stop : Place) (member : stop ∈ ways (.boundary isWord) place) : stop = place := by
    change stop ∈ (if atBoundary isWord place = true then [place] else []) at member
    by_cases at' : atBoundary isWord place = true
    · rw [if_pos at'] at member
      exact List.mem_singleton.mp member
    · rw [if_neg at'] at member
      cases member
  refine List.pairwise_flatMap.mpr ⟨fun place _ => ?_, falling.imp fun order stop here other there => ?_⟩
  · change ((if atBoundary isWord place = true then [place] else []) : List Place).Pairwise _
    by_cases at' : atBoundary isWord place = true
    · rw [if_pos at']
      exact List.pairwise_singleton _ _
    · rw [if_neg at']
      exact .nil
  · rw [stays _ stop here, stays _ other there]
    exact order

-- Behind a pattern that takes one thing at most, the first match of a falling one is the longest.
theorem longest_match (first second : Pattern) (before taken after : List Char) (caught : Caught) (made : Match)
    (same : ∀ place, ∀ middle ∈ ways first place, ∀ other ∈ ways first place, middle = other) (falling : ∀ place, Falling (ways second place))
    (took : Takes (first ++ second) before taken after caught) (matched : matchAt (first ++ second) before (taken ++ after) = some made) :
    made.after.length ≤ after.length := by
  have member : (⟨taken.reverse ++ before, after, caught ++ []⟩ : Place) ∈ ways (first ++ second) ⟨before, taken ++ after, []⟩ :=
    (ways_reach _ _ _).mpr ⟨taken, caught, rfl, rfl, rfl, took⟩
  rw [matchAt] at matched
  obtain ⟨stop, isFirst, rfl⟩ := Option.map_eq_some_iff.mp matched
  change ((ways first ⟨before, taken ++ after, []⟩).flatMap (ways second)).head? = some stop at isFirst
  rw [List.head?_flatMap] at isFirst
  obtain ⟨middle, isMiddle, isStop⟩ := List.exists_of_findSome?_eq_some isFirst
  obtain ⟨other, isOther, inside⟩ := List.mem_flatMap.mp (show _ ∈ (ways first _).flatMap (ways second) from member)
  rw [same _ other isOther middle isMiddle] at inside
  have order := falling middle
  obtain ⟨others, shape⟩ := List.head?_eq_some_iff.mp isStop
  rw [shape] at inside order
  cases List.mem_cons.mp inside with
  | inl here => rw [← here]
  | inr later => exact (List.pairwise_cons.mp order).1 _ later

end Longest

end Regex
