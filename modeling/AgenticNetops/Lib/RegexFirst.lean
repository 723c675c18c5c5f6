import AgenticNetops.Lib.RegexMeaning

set_option autoImplicit false

/- The way that counts: where a pattern stops first. A run of characters is taken to its
   end, and a sequence stops where its parts do, as long as each part goes on. -/
namespace Regex

def First (pattern : Pattern) (place stop : Place) : Prop := (ways pattern place).head? = some stop

theorem match_at_first (pattern : Pattern) (before after : List Char) (stop : Place) (first : First pattern ⟨before, after, []⟩ stop) :
    matchAt pattern before after = some ⟨before.reverse, Place.between ⟨before, after, []⟩ stop, stop.after, stop.groups⟩ := by
  rw [matchAt, first]
  rfl

theorem first_matched (pattern : Pattern) (before after : List Char) (stop : Place) (first : First pattern ⟨before, after, []⟩ stop) :
    ∃ made, matchAt pattern before after = some made ∧ made.groups = stop.groups := ⟨_, match_at_first pattern before after stop first, rfl⟩

section Steps

theorem first_seq (first second : Pattern) (place middle stop : Place) (isFirst : First first place middle)
    (isSecond : First second middle stop) : First (first ++ second) place stop := by
  change ((ways first place).flatMap (ways second)).head? = some stop
  obtain ⟨others, isWays⟩ := List.head?_eq_some_iff.mp isFirst
  rw [isWays, List.flatMap_cons, List.head?_append, isSecond]
  rfl

theorem first_left (first second : Pattern) (place stop : Place) (isFirst : First first place stop) : First (.alt first second) place stop := by
  change (ways first place ++ ways second place).head? = some stop
  rw [List.head?_append, isFirst]
  rfl

theorem first_right (first second : Pattern) (place stop : Place) (fails : ways first place = []) (isSecond : First second place stop) :
    First (.alt first second) place stop := by
  change (ways first place ++ ways second place).head? = some stop
  rw [fails, List.nil_append]
  exact isSecond

theorem first_group (name : String) (body : Pattern) (place stop : Place) (isFirst : First body place stop) :
    First (.group name body) place { stop with groups := (name, place.between stop) :: stop.groups } := by
  change ((ways body place).map _).head? = _
  rw [List.head?_map, isFirst]
  rfl

-- A group with the text that it takes.
theorem first_held (name : String) (body : Pattern) (before taken rest before' : List Char) (groups groups' : List (String × List Char))
    (isFirst : First body ⟨before, taken ++ rest, groups⟩ ⟨before', rest, groups'⟩) :
    First (.group name body) ⟨before, taken ++ rest, groups⟩ ⟨before', rest, (name, taken) :: groups'⟩ := by
  have held := first_group name body _ _ isFirst
  rw [between_taken before taken rest groups _ rfl] at held
  exact held

theorem first_boundary (isWord : Char → Bool) (place : Place) (at' : atBoundary isWord place = true) : First (.boundary isWord) place place := by
  change (if atBoundary isWord place = true then [place] else []).head? = some place
  rw [if_pos at']
  rfl

theorem first_char (accepts : Char → Bool) (before rest : List Char) (c : Char) (groups : List (String × List Char))
    (accepted : accepts c = true) : First (.char accepts) ⟨before, c :: rest, groups⟩ ⟨c :: before, rest, groups⟩ := by
  change (if accepts c = true then [_] else []).head? = some _
  rw [if_pos accepted]
  rfl

-- A greedy run goes on while its characters are accepted.
theorem rounds_run (accepts : Char → Bool) (before run rest : List Char) (groups : List (String × List Char)) (limit : Nat)
    (room : run.length ≤ limit) (all : ∀ c ∈ run, accepts c = true) (stops : rest.head?.any accepts = false) :
    (rounds true (ways (.char accepts)) limit ⟨before, run ++ rest, groups⟩).head? = some ⟨run.reverse ++ before, rest, groups⟩ := by
  induction run generalizing before limit with
  | nil =>
      have ended : ways (.char accepts) ⟨before, rest, groups⟩ = [] := by
        cases rest with
        | nil => rfl
        | cons c more =>
            change (if accepts c = true then _ else []) = []
            rw [if_neg]
            rw [show accepts c = false from stops]
            exact Bool.false_ne_true
      cases limit with
      | zero => rfl
      | succ limit =>
          rw [List.nil_append, rounds, ended]
          rfl
  | cons c more ih =>
      cases limit with
      | zero => cases room
      | succ limit =>
          have accepted := all c List.mem_cons_self
          have step : ways (.char accepts) ⟨before, c :: more ++ rest, groups⟩ = [⟨c :: before, more ++ rest, groups⟩] := by
            change (if accepts c = true then _ else []) = _
            rw [if_pos accepted]
            rfl
          have shorter : decide ((⟨c :: before, more ++ rest, groups⟩ : Place).after.length <
              (⟨before, c :: more ++ rest, groups⟩ : Place).after.length) = true := decide_eq_true (Nat.lt_succ_self _)
          have onward := ih (c :: before) limit (Nat.le_of_succ_le_succ room) (fun d member => all d (List.mem_cons_of_mem c member))
          rw [rounds, step, List.filter_cons, if_pos shorter, List.filter_nil, List.flatMap_cons, List.flatMap_nil, List.append_nil,
            if_pos rfl, List.head?_append, onward, Option.some_or, List.reverse_cons, List.append_assoc]
          rfl

theorem first_many (accepts : Char → Bool) (before run rest : List Char) (groups : List (String × List Char))
    (all : ∀ c ∈ run, accepts c = true) (stops : rest.head?.any accepts = false) :
    First (.many true (.char accepts)) ⟨before, run ++ rest, groups⟩ ⟨run.reverse ++ before, rest, groups⟩ := by
  refine rounds_run accepts before run rest groups _ ?_ all stops
  change run.length ≤ (run ++ rest).length
  rw [List.length_append]
  exact Nat.le_add_right _ _

theorem first_some (accepts : Char → Bool) (before run rest : List Char) (groups : List (String × List Char)) (present : run ≠ [])
    (all : ∀ c ∈ run, accepts c = true) (stops : rest.head?.any accepts = false) :
    First (some' (.char accepts)) ⟨before, run ++ rest, groups⟩ ⟨run.reverse ++ before, rest, groups⟩ := by
  cases run with
  | nil => exact absurd rfl present
  | cons c more =>
      have one := first_char accepts before (more ++ rest) c groups (all c List.mem_cons_self)
      have others := first_many accepts (c :: before) more rest groups (fun d member => all d (List.mem_cons_of_mem c member)) stops
      rw [List.reverse_cons, List.append_assoc]
      exact first_seq _ _ _ _ _ one others

-- So does a bounded one, up to its bound.
theorem first_up_to (accepts : Char → Bool) (before run rest : List Char) (groups : List (String × List Char)) (limit : Nat)
    (room : run.length ≤ limit) (all : ∀ c ∈ run, accepts c = true) (stops : run.length = limit ∨ rest.head?.any accepts = false) :
    First (upTo (.char accepts) limit) ⟨before, run ++ rest, groups⟩ ⟨run.reverse ++ before, rest, groups⟩ := by
  induction run generalizing before limit with
  | nil =>
      cases limit with
      | zero => rfl
      | succ limit =>
          refine first_right _ _ _ _ ?_ rfl
          have refused := stops.resolve_left (by rw [List.length_nil]; omega)
          change (ways (.char accepts) ⟨before, rest, groups⟩).flatMap _ = []
          cases rest with
          | nil => rfl
          | cons c more =>
              change (if accepts c = true then _ else []).flatMap _ = []
              rw [if_neg]
              · rfl
              · rw [show accepts c = false from refused]
                exact Bool.false_ne_true
  | cons c more ih =>
      cases limit with
      | zero => cases room
      | succ limit =>
          have one := first_char accepts before (more ++ rest) c groups (all c List.mem_cons_self)
          have others := ih (c :: before) limit (Nat.le_of_succ_le_succ room) (fun d member => all d (List.mem_cons_of_mem c member))
            (stops.imp_left Nat.succ.inj)
          rw [List.reverse_cons, List.append_assoc]
          exact first_left _ _ _ _ (first_seq _ _ _ _ _ one others)

theorem first_text (lowered : List Char) (before taken rest : List Char) (groups : List (String × List Char))
    (spelled : List.Forall₂ (fun letter c => sameLetter letter c = true) lowered taken) :
    First (text (String.ofList lowered)) ⟨before, taken ++ rest, groups⟩ ⟨taken.reverse ++ before, rest, groups⟩ := by
  rw [text, String.toList_ofList]
  induction spelled generalizing before with
  | nil => rfl
  | @cons letter c lowered taken same others ih =>
      have one := first_char (sameLetter letter) before (taken ++ rest) c groups same
      rw [List.reverse_cons, List.append_assoc]
      exact first_seq _ _ _ _ _ one (ih (c :: before))

end Steps

section Skips

-- What a text begins with, one character of each class.
def opens : List (Char → Bool) → List Char → Bool
  | [], _ => true
  | _ :: _, [] => false
  | accepts :: classes, c :: rest => accepts c && opens classes rest

-- A stretch of text at none of whose places a match can begin.
def quiet (can : List Char → Bool) : List Char → List Char → Bool
  | [], _ => true
  | c :: more, rest => !can (c :: (more ++ rest)) && quiet can more rest

theorem opens_spelled (classes : List (Char → Bool)) (taken rest : List Char) (spelled : Spells classes taken) :
    opens classes (taken ++ rest) = true := by
  induction spelled with
  | nil => rfl
  | cons accepted _ ih =>
      rw [List.cons_append, opens, accepted, ih]
      rfl

theorem opens_iff (classes : List (Char → Bool)) (text : List Char) :
    opens classes text = true ↔ ∃ next rest, text = next ++ rest ∧ Spells classes next := by
  refine ⟨fun opened => ?_, fun split => ?_⟩
  · induction classes generalizing text with
    | nil => exact ⟨[], text, rfl, .nil⟩
    | cons accepts others ih =>
        cases text with
        | nil => cases opened
        | cons c rest =>
            obtain ⟨here, later⟩ := (Bool.and_eq_true _ _).mp opened
            obtain ⟨next, after, isRest, spelled⟩ := ih rest later
            exact ⟨c :: next, after, by rw [isRest]; rfl, .cons here spelled⟩
  · obtain ⟨next, rest, rfl, spelled⟩ := split
    exact opens_spelled classes next rest spelled

-- Looking ahead for a text that is spelled out.
theorem unless_spelled (body : Pattern) (classes : List (Char → Bool))
    (spells : ∀ before taken after caught, Takes body before taken after caught ↔ caught = [] ∧ Spells classes taken)
    (before taken after : List Char) (caught : Caught) :
    Takes (.ahead false body) before taken after caught ↔ taken = [] ∧ caught = [] ∧ opens classes after = false := by
  have opened : (∃ next rest held, after = next ++ rest ∧ Takes body before next rest held) ↔ opens classes after = true := by
    rw [opens_iff]
    refine ⟨fun taking => ?_, fun spelling => ?_⟩
    · obtain ⟨next, rest, held, split, took⟩ := taking
      exact ⟨next, rest, split, ((spells _ _ _ _).mp took).2⟩
    · obtain ⟨next, rest, split, spelled⟩ := spelling
      exact ⟨next, rest, [], split, (spells _ _ _ _).mpr ⟨rfl, spelled⟩⟩
  change taken = [] ∧ caught = [] ∧ ((∃ next rest held, after = next ++ rest ∧ Takes body before next rest held) ↔ false = true) ↔ _
  rw [opened]
  cases opens classes after with
  | true => exact ⟨fun took => absurd (took.2.2.mp rfl) Bool.false_ne_true, fun took => by cases took.2.2⟩
  | false => exact ⟨fun took => ⟨took.1, took.2.1, rfl⟩, fun took => ⟨took.1, took.2.1, Iff.rfl⟩⟩

theorem quiet_append (can : List Char → Bool) (first second rest : List Char) :
    quiet can (first ++ second) rest = (quiet can first (second ++ rest) && quiet can second rest) := by
  induction first with
  | nil => rfl
  | cons c more ih =>
      rw [List.cons_append, quiet, quiet, ih, List.append_assoc, Bool.and_assoc]

theorem quiet_or (can other : List Char → Bool) (skipped rest : List Char) (isQuiet : quiet can skipped rest = true)
    (isQuiet' : quiet other skipped rest = true) : quiet (fun text => can text || other text) skipped rest = true := by
  induction skipped with
  | nil => rfl
  | cons c more ih =>
      rw [quiet, Bool.and_eq_true, Bool.not_eq_true'] at isQuiet isQuiet'
      rw [quiet, isQuiet.1, isQuiet'.1, ih isQuiet.2 isQuiet'.2]
      rfl

theorem quiet_any (windows : List (List (Char → Bool))) (skipped rest : List Char)
    (each : ∀ window ∈ windows, quiet (opens window) skipped rest = true) :
    quiet (fun text => windows.any fun window => opens window text) skipped rest = true := by
  induction windows with
  | nil =>
      induction skipped with
      | nil => rfl
      | cons c more ih => exact ih fun window member => by cases member
  | cons window others ih =>
      exact quiet_or _ _ skipped rest (each window List.mem_cons_self) (ih fun other member => each other (List.mem_cons_of_mem window member))

-- A run of characters that the first class does not accept.
theorem quiet_run (accepts : Char → Bool) (classes : List (Char → Bool)) (run rest : List Char) (none' : ∀ c ∈ run, accepts c = false) :
    quiet (opens (accepts :: classes)) run rest = true := by
  induction run with
  | nil => rfl
  | cons c more ih =>
      rw [quiet, opens, none' c List.mem_cons_self, ih fun d member => none' d (List.mem_cons_of_mem c member)]
      rfl

theorem opens_without (classes : List (Char → Bool)) (run rest : List Char) (without : ∃ accepts ∈ classes, ∀ c ∈ run, accepts c = false)
    (ended : ∀ accepts ∈ classes, rest.head?.any accepts = false) : opens classes (run ++ rest) = false := by
  induction classes generalizing run with
  | nil =>
      obtain ⟨accepts, member, _⟩ := without
      cases member
  | cons first others ih =>
      cases run with
      | nil =>
          cases rest with
          | nil => rfl
          | cons d more =>
              have refused : first d = false := ended first List.mem_cons_self
              rw [List.nil_append, opens, refused, Bool.false_and]
      | cons c more =>
          obtain ⟨accepts, member, none'⟩ := without
          rw [List.cons_append, opens]
          cases List.mem_cons.mp member with
          | inl here =>
              rw [← here, none' c List.mem_cons_self, Bool.false_and]
          | inr later =>
              have further := ih more ⟨accepts, later, fun d inside => none' d (List.mem_cons_of_mem c inside)⟩
                fun other inside => ended other (List.mem_cons_of_mem first inside)
              rw [further, Bool.and_false]

-- A run without the characters of one class, in front of a text that none of the classes goes on with.
theorem quiet_without (classes : List (Char → Bool)) (run rest : List Char) (without : ∃ accepts ∈ classes, ∀ c ∈ run, accepts c = false)
    (ended : ∀ accepts ∈ classes, rest.head?.any accepts = false) : quiet (opens classes) run rest = true := by
  induction run with
  | nil => rfl
  | cons c more ih =>
      have here := opens_without classes (c :: more) rest without ended
      obtain ⟨accepts, member, none'⟩ := without
      have later := ih ⟨accepts, member, fun d inside => none' d (List.mem_cons_of_mem c inside)⟩
      rw [List.cons_append] at here
      rw [quiet, here, later]
      rfl

-- What every match of a pattern begins with.
def Begins (can : List Char → Bool) (pattern : Pattern) : Prop :=
  ∀ before taken rest caught, Takes pattern before taken rest caught → can (taken ++ rest) = true

theorem begins_seq (can : List Char → Bool) (first second : Pattern) (begins : Begins can first) : Begins can (first ++ second) := by
  intro before taken rest caught took
  obtain ⟨left, right, leftCaught, _, rfl, _, isFirst, _⟩ := took
  rw [List.append_assoc]
  exact begins before left (right ++ rest) leftCaught isFirst

theorem begins_opening (can : List Char → Bool) (isWord : Char → Bool) (body : Pattern) (begins : Begins can body) :
    Begins can (.boundary isWord ++ body) := by
  intro before taken rest caught took
  exact begins before taken rest caught ((takes_opening isWord body before taken rest caught).mp took).2

theorem begins_assoc (can : List Char → Bool) (first second third : Pattern) (begins : Begins can (first ++ (second ++ third))) :
    Begins can (first ++ second ++ third) := by
  intro before taken rest caught took
  exact begins before taken rest caught ((takes_assoc first second third before taken rest caught).mp took)

theorem begins_later (can : List Char → Bool) (first second : Pattern) (later : ∀ front text, can text = true → can (front ++ text) = true)
    (begins : Begins can second) : Begins can (first ++ second) := by
  intro before taken rest caught took
  obtain ⟨left, right, _, rightCaught, rfl, _, _, isSecond⟩ := took
  rw [List.append_assoc]
  exact later left _ (begins _ right rest rightCaught isSecond)

theorem begins_either (can : List Char → Bool) (first second : Pattern) (begins : Begins can first) (begins' : Begins can second) :
    Begins can (.alt first second) := by
  intro before taken rest caught took
  cases took with
  | inl isFirst => exact begins before taken rest caught isFirst
  | inr isSecond => exact begins' before taken rest caught isSecond

theorem begins_weaker (can wider : List Char → Bool) (pattern : Pattern) (implies : ∀ text, can text = true → wider text = true)
    (begins : Begins can pattern) : Begins wider pattern :=
  fun before taken rest caught took => implies _ (begins before taken rest caught took)

theorem begins_text (classes : List (Char → Bool)) (lowered : String) (spelled : ∃ more, lowered.toList.map sameLetter = classes ++ more) :
    Begins (opens classes) (text lowered) := by
  intro before taken rest caught took
  obtain ⟨_, spells⟩ := (takes_text lowered before taken rest caught).mp took
  obtain ⟨more, same⟩ := spelled
  rw [same] at spells
  have start := List.forall₂_take_append taken classes more spells.flip
  rw [← List.take_append_drop classes.length taken, List.append_assoc]
  exact opens_spelled classes _ _ start.flip

-- A search passes over the places at which no match can begin.
theorem search_quiet (pattern : Pattern) (can : List Char → Bool)
    (only : Begins can pattern) (before skipped rest : List Char)
    (isQuiet : quiet can skipped rest = true) :
    searchFrom pattern before (skipped ++ rest) = searchFrom pattern (skipped.reverse ++ before) rest := by
  induction skipped generalizing before with
  | nil => rfl
  | cons c more ih =>
      rw [quiet, Bool.and_eq_true, Bool.not_eq_true'] at isQuiet
      have here : matchAt pattern before (c :: (more ++ rest)) = none := by
        refine (match_at_none pattern before _).mpr fun taken after caught split took => ?_
        have possible := only before taken after caught took
        rw [← split, isQuiet.1] at possible
        cases possible
      rw [List.cons_append, searchFrom, here, Option.none_or, ih (c :: before) isQuiet.2, List.reverse_cons, List.append_assoc]
      rfl

theorem search_all_quiet (pattern : Pattern) (can : List Char → Bool)
    (only : Begins can pattern) (never : can [] = false)
    (text : List Char) (isQuiet : quiet can text [] = true) : search pattern text = none := by
  have skipped := search_quiet pattern can only [] text [] isQuiet
  rw [List.append_nil, List.append_nil] at skipped
  rw [search, skipped]
  refine (match_at_none pattern _ []).mpr fun taken after caught split took => ?_
  have possible := only _ taken after caught took
  rw [← split, never] at possible
  cases possible

end Skips

section Lazy

theorem exact_here (word : String) (before rest : List Char) (groups : List (String × List Char)) :
    ways (exact word) ⟨before, word.toList ++ rest, groups⟩ = [⟨word.toList.reverse ++ before, rest, groups⟩] := by
  rw [exact]
  induction word.toList generalizing before with
  | nil => rfl
  | cons c more ih =>
      change (if decide (c = c) = true then [_] else []).flatMap (ways _) = _
      rw [if_pos (decide_eq_true rfl), List.flatMap_singleton, List.reverse_cons, List.append_assoc]
      exact ih (c :: before)

theorem exact_absent (word : String) (place : Place) (absent : ¬ word.toList <+: place.after) : ways (exact word) place = [] := by
  obtain ⟨before, after, groups⟩ := place
  rw [exact]
  generalize word.toList = letters at absent ⊢
  induction letters generalizing before after with
  | nil => exact absurd List.nil_prefix absent
  | cons c more ih =>
      cases after with
      | nil => rfl
      | cons d rest =>
          change (if decide (d = c) = true then [_] else []).flatMap (ways _) = _
          by_cases same : d = c
          · rw [if_pos (decide_eq_true same), List.flatMap_singleton]
            refine ih (d :: before) rest fun further => absent ?_
            rw [same]
            exact List.cons_prefix_cons.mpr ⟨rfl, further⟩
          · rw [if_neg (by simpa using same)]
            rfl

theorem first_exact (word : String) (before rest : List Char) (groups : List (String × List Char)) :
    First (exact word) ⟨before, word.toList ++ rest, groups⟩ ⟨word.toList.reverse ++ before, rest, groups⟩ := by
  rw [First, exact_here]
  rfl

-- A lazy run goes on only while what comes behind it does not match.
theorem rounds_lazy (next : Place → List Place) (before run rest : List Char) (groups : List (String × List Char)) (limit : Nat) (stop : Place)
    (room : run.length ≤ limit)
    (silent : ∀ front back, run = front ++ back → back ≠ [] → next ⟨front.reverse ++ before, back ++ rest, groups⟩ = [])
    (ends : (next ⟨run.reverse ++ before, rest, groups⟩).head? = some stop) :
    ((rounds false (ways (.char fun _ => true)) limit ⟨before, run ++ rest, groups⟩).flatMap next).head? = some stop := by
  induction run generalizing before limit with
  | nil =>
      cases limit with
      | zero =>
          rw [rounds, List.flatMap_singleton]
          exact ends
      | succ limit =>
          rw [rounds, if_neg Bool.false_ne_true, List.flatMap_cons, List.head?_append]
          change Option.or (next ⟨before, rest, groups⟩).head? _ = _
          rw [show (next ⟨before, rest, groups⟩).head? = some stop from ends]
          rfl
  | cons c more ih =>
      cases limit with
      | zero => cases room
      | succ limit =>
          have here := silent [] (c :: more) rfl (List.cons_ne_nil c more)
          have later := ih (c :: before) limit (Nat.le_of_succ_le_succ room)
            (fun front back split present => by
              have further := silent (c :: front) back (by rw [split]; rfl) present
              rw [List.reverse_cons, List.append_assoc] at further
              exact further)
            (by rw [List.reverse_cons, List.append_assoc] at ends; exact ends)
          have step : (ways (.char fun _ => true) ⟨before, c :: (more ++ rest), groups⟩).filter
              (fun next => next.after.length < (c :: (more ++ rest)).length) = [⟨c :: before, more ++ rest, groups⟩] := by
            rw [show ways (.char fun _ => true) ⟨before, c :: (more ++ rest), groups⟩ = [⟨c :: before, more ++ rest, groups⟩] from rfl]
            simp
          rw [List.cons_append, rounds, if_neg Bool.false_ne_true, step, List.flatMap_singleton, List.flatMap_cons,
            show next ⟨before, c :: (more ++ rest), groups⟩ = [] from here, List.nil_append]
          exact later

-- What a lazy group takes, up to the first place at which the rest matches.
theorem first_lazy_held (name : String) (tail : Pattern) (before run rest : List Char) (groups : List (String × List Char)) (stop : Place)
    (silent : ∀ front back, run = front ++ back → back ≠ [] →
      ways tail ⟨front.reverse ++ before, back ++ rest, (name, front) :: groups⟩ = [])
    (ends : First tail ⟨run.reverse ++ before, rest, (name, run) :: groups⟩ stop) :
    First (.group name (.many false (.char fun _ => true)) ++ tail) ⟨before, run ++ rest, groups⟩ stop := by
  let start : Place := ⟨before, run ++ rest, groups⟩
  let held : Place → Place := fun stop => { stop with groups := (name, start.between stop) :: stop.groups }
  have between' : ∀ front back : List Char, run = front ++ back →
      held ⟨front.reverse ++ before, back ++ rest, groups⟩ = ⟨front.reverse ++ before, back ++ rest, (name, front) :: groups⟩ := by
    intro front back split
    have taken := between_taken before front (back ++ rest) groups ⟨front.reverse ++ before, back ++ rest, groups⟩ rfl
    have same : start = ⟨before, front ++ (back ++ rest), groups⟩ := by
      show (⟨before, run ++ rest, groups⟩ : Place) = _
      rw [split, List.append_assoc]
    show (⟨_, _, (name, start.between _) :: groups⟩ : Place) = _
    rw [same, taken]
  change (((rounds false (ways (.char fun _ => true)) start.after.length start).map held).flatMap (ways tail)).head? = some stop
  rw [List.flatMap_map]
  apply rounds_lazy (fun stop => ways tail (held stop)) before run rest groups _ stop
  · show run.length ≤ (run ++ rest).length
    rw [List.length_append]
    exact Nat.le_add_right _ _
  · intro front back split present
    rw [between' front back split]
    exact silent front back split present
  · have whole := between' run [] (List.append_nil run).symm
    rw [List.nil_append] at whole
    rw [whole]
    exact ends

-- Wherever it starts, the pattern takes the text first with these groups held.
def Yields (pattern : Pattern) (after : List Char) (groups held : List (String × List Char)) : Prop :=
  ∀ before, ∃ stop, First pattern ⟨before, after, groups⟩ stop ∧ stop.groups = held

theorem yields_end (word : String) (after : List Char) (groups : List (String × List Char)) :
    Yields (exact word) (word.toList ++ after) groups groups := fun before => ⟨_, first_exact word before after groups, rfl⟩

theorem yields_exact (word : String) (tail : Pattern) (after : List Char) (groups held : List (String × List Char))
    (later : Yields tail after groups held) : Yields (exact word ++ tail) (word.toList ++ after) groups held := by
  intro before
  obtain ⟨stop, isFirst, same⟩ := later (word.toList.reverse ++ before)
  exact ⟨stop, first_seq _ _ _ _ _ (first_exact word before after groups) isFirst, same⟩

theorem yields_many (accepts : Char → Bool) (run : List Char) (tail : Pattern) (after : List Char) (groups held : List (String × List Char))
    (all : ∀ c ∈ run, accepts c = true) (stops : after.head?.any accepts = false) (later : Yields tail after groups held) :
    Yields (.many true (.char accepts) ++ tail) (run ++ after) groups held := by
  intro before
  obtain ⟨stop, isFirst, same⟩ := later (run.reverse ++ before)
  exact ⟨stop, first_seq _ _ _ _ _ (first_many accepts before run after groups all stops) isFirst, same⟩

theorem yields_lazy (name : String) (tail : Pattern) (run rest : List Char) (groups held : List (String × List Char))
    (silent : ∀ front back, run = front ++ back → back ≠ [] → ∀ before, ways tail ⟨before, back ++ rest, (name, front) :: groups⟩ = [])
    (ends : Yields tail rest ((name, run) :: groups) held) :
    Yields (.group name (.many false (.char fun _ => true)) ++ tail) (run ++ rest) groups held := by
  intro before
  obtain ⟨stop, isFirst, same⟩ := ends (run.reverse ++ before)
  refine ⟨stop, first_lazy_held name tail before run rest groups stop ?_ isFirst, same⟩
  intro front back split present
  exact silent front back split present _

theorem search_here (pattern : Pattern) (before text : List Char) (made : Match) (matched : matchAt pattern before text = some made) :
    searchFrom pattern before text = some made := by
  cases text with
  | nil => exact matched
  | cons c rest => rw [searchFrom, matched, Option.some_or]

-- What a search finds behind a stretch in which nothing can begin.
theorem yields_found (pattern : Pattern) (can : List Char → Bool) (only : Begins can pattern) (skipped text : List Char)
    (held : List (String × List Char)) (isQuiet : quiet can skipped text = true) (yields : Yields pattern text [] held) :
    ∃ made, search pattern (skipped ++ text) = some made ∧ made.groups = held := by
  obtain ⟨stop, isFirst, same⟩ := yields (skipped.reverse ++ [])
  obtain ⟨made, matched, groups⟩ := first_matched pattern _ text stop isFirst
  refine ⟨made, ?_, groups.trans same⟩
  rw [search, search_quiet pattern can only [] skipped text isQuiet]
  exact search_here pattern _ text made matched

theorem begins_exact (word : String) (tail : Pattern) : Begins (fun text => decide (word.toList <+: text)) (exact word ++ tail) := by
  apply begins_seq
  intro before taken rest caught took
  obtain ⟨_, spelled⟩ := (exact_spells word before taken rest caught).mp took
  rw [(spells_letters _ _).mp spelled]
  exact decide_eq_true (List.prefix_append _ _)

end Lazy

end Regex
