import AgenticNetops.Lib.Regex

set_option autoImplicit false

/- Searching a text that is put together of pieces: a pattern that neither takes the
   character between two pieces nor sees a word boundary move finds in the whole what it
   finds in the first piece, and after that in the next. -/
namespace Regex

-- The text around is seen by its nearest characters only, and never taken.
def Pattern.standsBetween (left right : Option Char) : Pattern → Bool
  | .char accepts => !right.any accepts
  | .empty => true
  | .seq first second => first.standsBetween left right && second.standsBetween left right
  | .alt first second => first.standsBetween left right && second.standsBetween left right
  | .many _ body => body.standsBetween left right
  | .group _ body => body.standsBetween left right
  | .boundary isWord => !left.any isWord && !right.any isWord
  | .ahead _ _ => false
  | .behind _ _ => false
  | .finish => false

section Embedding

-- A place inside a longer text.
def embed (base tail : List Char) (place : Place) : Place := ⟨place.before ++ base, place.after ++ tail, place.groups⟩

-- More room than there are characters is not used.
theorem rounds_limit (greedy : Bool) (step : Place → List Place) (limit : Nat) (place : Place) (room : place.after.length ≤ limit) :
    rounds greedy step limit place = rounds greedy step place.after.length place := by
  have enough (limit other : Nat) (place : Place) (room : place.after.length ≤ limit) (room' : place.after.length ≤ other) :
      rounds greedy step limit place = rounds greedy step other place := by
    induction limit generalizing other place with
    | zero =>
        have ended : place.after.length = 0 := Nat.le_zero.mp room
        cases other with
        | zero => rfl
        | succ other =>
            have none' : (step place).filter (fun next => next.after.length < place.after.length) = [] := by
              rw [List.filter_eq_nil_iff]
              intro next _ shorter
              have less := of_decide_eq_true shorter
              omega
            rw [rounds, rounds, none', List.flatMap_nil]
            cases greedy with
            | true => rfl
            | false => rfl
    | succ limit ih =>
        cases other with
        | zero =>
            have none' : (step place).filter (fun next => next.after.length < place.after.length) = [] := by
              rw [List.filter_eq_nil_iff]
              intro next _ shorter
              have less := of_decide_eq_true shorter
              omega
            rw [rounds, rounds, none', List.flatMap_nil]
            cases greedy with
            | true => rfl
            | false => rfl
        | succ other =>
            have same : ((step place).filter fun next => next.after.length < place.after.length).flatMap (rounds greedy step limit) =
                ((step place).filter fun next => next.after.length < place.after.length).flatMap (rounds greedy step other) := by
              refine List.flatMap_congr fun next member => ?_
              have less := of_decide_eq_true (List.mem_filter.mp member).2
              exact ih other next (by omega) (by omega)
            rw [rounds, rounds, same]
  exact enough limit _ place room (Nat.le_refl _)

theorem rounds_embedded (base tail : List Char) (greedy : Bool) (step : Place → List Place)
    (embedded : ∀ place, step (embed base tail place) = (step place).map (embed base tail)) (limit : Nat) (place : Place) :
    rounds greedy step limit (embed base tail place) = (rounds greedy step limit place).map (embed base tail) := by
  induction limit generalizing place with
  | zero => rfl
  | succ limit ih =>
      have further : ((step (embed base tail place)).filter fun next => next.after.length < (embed base tail place).after.length).flatMap
            (rounds greedy step limit) =
          (((step place).filter fun next => next.after.length < place.after.length).flatMap (rounds greedy step limit)).map
            (embed base tail) := by
        rw [embedded, List.filter_map, List.flatMap_map, List.map_flatMap]
        have kept : (fun next => decide (next.after.length < (embed base tail place).after.length)) ∘ embed base tail =
            fun next : Place => decide (next.after.length < place.after.length) := by
          funext next
          refine decide_eq_decide.mpr ?_
          change (next.after ++ tail).length < (place.after ++ tail).length ↔ _
          rw [List.length_append, List.length_append]
          omega
        rw [kept]
        exact List.flatMap_congr fun next _ => ih next
      rw [rounds, rounds, further]
      cases greedy with
      | true => rw [if_pos rfl, if_pos rfl, List.map_append, List.map_singleton]
      | false => rw [if_neg Bool.false_ne_true, if_neg Bool.false_ne_true, List.map_cons]

theorem any_head_append (holds : Char → Bool) (text behind : List Char) (silent : (!behind.head?.any holds) = true) :
    (text ++ behind).head?.any holds = text.head?.any holds := by
  cases text with
  | nil => exact (Bool.not_eq_true' _).mp silent
  | cons c rest => rfl

-- A pattern that stands between two texts has the same ways as alone.
theorem ways_embedded (base tail : List Char) (pattern : Pattern) (place : Place)
    (alone : pattern.standsBetween base.head? tail.head? = true) :
    ways pattern (embed base tail place) = (ways pattern place).map (embed base tail) := by
  induction pattern generalizing place with
  | char accepts =>
      obtain ⟨before, after, groups⟩ := place
      cases after with
      | cons c rest =>
          rw [embed, ways.eq_def, ways.eq_def]
          by_cases accepted : accepts c = true
          · simp only [List.cons_append, if_pos accepted, List.map_singleton]
            rfl
          · simp only [List.cons_append, if_neg accepted, List.map_nil]
      | nil =>
          rw [embed, ways.eq_def, ways.eq_def]
          cases tail with
          | nil => rfl
          | cons c rest =>
              have refused : ¬ accepts c = true := by
                have silent := (Bool.not_eq_true' _).mp alone
                rw [show (c :: rest).head?.any accepts = accepts c from rfl] at silent
                rw [silent]
                exact Bool.false_ne_true
              simp only [List.nil_append, if_neg refused, List.map_nil]
  | empty => rfl
  | seq first second ihFirst ihSecond =>
      obtain ⟨aloneFirst, aloneSecond⟩ := (Bool.and_eq_true _ _).mp alone
      rw [ways, ways, ihFirst place aloneFirst, List.flatMap_map, List.map_flatMap]
      exact List.flatMap_congr fun next _ => ihSecond next aloneSecond
  | alt first second ihFirst ihSecond =>
      obtain ⟨aloneFirst, aloneSecond⟩ := (Bool.and_eq_true _ _).mp alone
      rw [ways, ways, ihFirst place aloneFirst, ihSecond place aloneSecond, List.map_append]
  | many greedy body ih =>
      rw [ways, ways, rounds_embedded base tail greedy (ways body) (fun place => ih place alone)]
      rw [rounds_limit greedy (ways body) (embed base tail place).after.length place]
      change place.after.length ≤ (place.after ++ tail).length
      rw [List.length_append]
      exact Nat.le_add_right _ _
  | group name body ih =>
      rw [ways, ways, ih place alone, List.map_map, List.map_map]
      refine List.map_congr_left fun stop _ => ?_
      have held : (embed base tail place).between (embed base tail stop) = place.between stop := by
        change (place.after ++ tail).take ((place.after ++ tail).length - (stop.after ++ tail).length) = _
        rw [List.length_append, List.length_append, Nat.add_sub_add_right, Place.between,
          List.take_append_of_le_length (Nat.sub_le _ _)]
      simp only [Function.comp_apply, held]
      rfl
  | boundary isWord =>
      obtain ⟨silentLeft, silentRight⟩ := (Bool.and_eq_true _ _).mp alone
      have same : atBoundary isWord (embed base tail place) = atBoundary isWord place := by
        rw [atBoundary, atBoundary, embed, any_head_append isWord place.before base silentLeft,
          any_head_append isWord place.after tail silentRight]
      rw [ways, ways, same]
      split
      · rfl
      · rfl
  | ahead wanted body ih => cases alone
  | behind wanted accepts => cases alone
  | finish => cases alone

end Embedding

section Pieces

def Match.embed (base tail : List Char) (found : Match) : Match :=
  ⟨base.reverse ++ found.before, found.text, found.after ++ tail, found.groups⟩

variable (pattern : Pattern)

theorem match_at_embedded (base tail before after : List Char) (alone : pattern.standsBetween base.head? tail.head? = true) :
    matchAt pattern (before ++ base) (after ++ tail) = (matchAt pattern before after).map (Match.embed base tail) := by
  have ways' := ways_embedded base tail pattern ⟨before, after, []⟩ alone
  rw [embed] at ways'
  rw [matchAt, matchAt, ways', List.head?_map, Option.map_map, Option.map_map]
  refine Option.map_congr fun stop _ => ?_
  simp only [Function.comp_apply, Match.embed, Regex.embed, Place.between, List.reverse_append, List.length_append,
    Nat.add_sub_add_right]
  rw [List.take_append_of_le_length (Nat.sub_le _ _)]

-- The first piece is searched as if it were alone, and then the rest.
theorem search_from_embedded (base tail before after : List Char) (alone : pattern.standsBetween base.head? tail.head? = true) :
    searchFrom pattern (before ++ base) (after ++ tail) =
      ((searchFrom pattern before after).map (Match.embed base tail)).or (searchFrom pattern (after.reverse ++ (before ++ base)) tail) := by
  induction after generalizing before with
  | nil =>
      have here := match_at_embedded pattern base tail before [] alone
      rw [List.nil_append] at here
      change searchFrom pattern (before ++ base) tail = ((matchAt pattern before []).map (Match.embed base tail)).or
        (searchFrom pattern (before ++ base) tail)
      rw [← here]
      cases tail with
      | nil =>
          change matchAt pattern (before ++ base) [] = (matchAt pattern (before ++ base) []).or (matchAt pattern (before ++ base) [])
          rw [Option.or_self]
      | cons c rest =>
          rw [searchFrom]
          cases matchAt pattern (before ++ base) (c :: rest) with
          | none => rfl
          | some found => rfl
  | cons c rest ih =>
      have here := match_at_embedded pattern base tail before (c :: rest) alone
      rw [List.cons_append] at here ⊢
      rw [searchFrom, searchFrom, here]
      cases matchAt pattern before (c :: rest) with
      | some found => rfl
      | none =>
          rw [Option.map_none, Option.none_or, Option.none_or, ← List.cons_append, ih (c :: before), List.reverse_cons,
            List.append_assoc]
          rfl

theorem search_piece (first tail : List Char) (alone : pattern.standsBetween none tail.head? = true) :
    search pattern (first ++ tail) =
      ((search pattern first).map (Match.embed [] tail)).or (searchFrom pattern first.reverse tail) := by
  have whole := search_from_embedded pattern [] tail [] first alone
  rw [List.append_nil, List.append_nil] at whole
  exact whole

theorem search_from_end (before after : List Char) (none' : searchFrom pattern before after = none) :
    matchAt pattern (after.reverse ++ before) [] = none := by
  induction after generalizing before with
  | nil => exact none'
  | cons c rest ih =>
      rw [searchFrom, Option.or_eq_none_iff] at none'
      rw [List.reverse_cons, List.append_assoc]
      exact ih (c :: before) none'.2

theorem search_last_piece (base text : List Char) (alone : pattern.standsBetween base.head? none = true) :
    searchFrom pattern base text = (search pattern text).map (Match.embed base []) := by
  have whole := search_from_embedded pattern base [] [] text alone
  rw [List.append_nil, List.nil_append] at whole
  rw [whole, search]
  cases alone' : searchFrom pattern [] text with
  | some found => rfl
  | none =>
      have ended := search_from_end pattern [] text alone'
      rw [List.append_nil] at ended
      have here := match_at_embedded pattern base [] text.reverse [] alone
      rw [ended, List.append_nil] at here
      exact here

-- Two pieces, with a character between them that the pattern does not take.
theorem search_two {α : Type} (value : Option Match → α) (first second : List Char) (joint : Char)
    (same : ∀ base tail made, value (Option.map (Match.embed base tail) made) = value made)
    (aloneFirst : pattern.standsBetween none (some joint) = true) (aloneSecond : pattern.standsBetween (some joint) none = true) :
    value (search pattern (first ++ joint :: second)) =
      if found pattern first = true then value (search pattern first) else value (search pattern second) := by
  rw [search_piece pattern first (joint :: second) aloneFirst, found]
  cases whole : search pattern first with
  | some made => exact same [] (joint :: second) (some made)
  | none =>
      have ended := search_from_end pattern [] first whole
      rw [List.append_nil] at ended
      have here := match_at_embedded pattern [] (joint :: second) first.reverse [] aloneFirst
      rw [ended, List.append_nil, List.nil_append] at here
      rw [Option.map_none, Option.none_or, searchFrom, here, Option.map_none, Option.none_or,
        search_last_piece pattern (joint :: first.reverse) second aloneSecond]
      exact same (joint :: first.reverse) [] (search pattern second)

-- What is read in the whole is what the second piece says, unless the first says something else.
theorem value_kept_iff {α : Type} (value : Option Match → α) (first second : List Char) (joint : Char)
    (same : ∀ base tail made, value (Option.map (Match.embed base tail) made) = value made)
    (aloneFirst : pattern.standsBetween none (some joint) = true) (aloneSecond : pattern.standsBetween (some joint) none = true) :
    value (search pattern (first ++ joint :: second)) = value (search pattern second) ↔
      found pattern first = false ∨ value (search pattern first) = value (search pattern second) := by
  rw [search_two pattern value first second joint same aloneFirst aloneSecond]
  cases found pattern first with
  | true => exact ⟨fun kept => .inr kept, fun either => either.resolve_left (by decide)⟩
  | false => exact ⟨fun _ => .inl rfl, fun _ => rfl⟩

end Pieces

end Regex
