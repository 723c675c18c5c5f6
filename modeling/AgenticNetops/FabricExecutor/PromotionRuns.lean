import AgenticNetops.FabricExecutor.GcuPromotion

set_option autoImplicit false

/- The submitted patch run beside the original: the documents agree except at the rows
   that the original has yet to add and in the tables that it has yet to start. -/
namespace AgenticNetops.FabricExecutor

open GoText JsonValue JsonPatch

section Conditions

def stepPath (step : PatchStep) : List String := (pointerTokens step.path).getD []

-- One of the two lies above the other, or they are the same.
def Related (p q : List String) : Prop := p <+: q ∨ q <+: p

-- The adds below the table are adds of rows, each with the key that it is collected under, and nothing that touches
-- such a row comes before its add.
structure Collectable (table : String) (patch : List PatchStep) : Prop where
  rows : ∀ step ∈ patch, belowTable table step = true → stepPath step = [table, trimPrefix step.path ("/" ++ table ++ "/")]
  order : patch.Pairwise fun earlier later => belowTable table later = true →
    belowTable table earlier = true ∨ ¬ Related (stepPath earlier) (stepPath later)

-- The first step on the table adds it.
def Starts (table : String) (patch : List PatchStep) : Prop :=
  ∃ before step after, patch = before ++ step :: after ∧ AddsTable table step ∧ ∀ earlier ∈ before, (stepPath earlier).head? ≠ some table

-- Only one table has to be promoted, and its adds can be collected.
def Promotable (db : Doc) (patch : List PatchStep) : Prop :=
  ∀ table, firstMissing db patch = some table → Collectable table patch ∧
    ∀ other ∈ patch.filterMap parentTable, other = table ∨ tableExists db other = true ∨ Starts other patch

end Conditions

section Collected

theorem collect_get (table : String) (whole : GoMap Json) (step : PatchStep) (key : String) :
    (collect table whole step).get? key = ((collect table [] step).get? key).or (whole.get? key) := by
  rw [collect, collect]
  by_cases same : key = trimPrefix step.path ("/" ++ table ++ "/")
  · rw [same, get_set_same, get_set_same, Option.some_or]
  · rw [get_set_other _ _ _ _ same, get_set_other _ _ _ _ same]
    rfl

-- A later add of a row hides an earlier one.
theorem collected_get (table : String) (steps : List PatchStep) (whole : GoMap Json) (key : String) :
    (steps.foldl (collect table) whole).get? key = ((steps.foldl (collect table) []).get? key).or (whole.get? key) := by
  induction steps generalizing whole with
  | nil => rfl
  | cons step rest ih =>
      rw [List.foldl_cons, List.foldl_cons, ih (collect table whole step), ih (collect table [] step), Option.or_assoc,
        collect_get table whole step key]

theorem whole_below (table : String) (step : PatchStep) (rest : List PatchStep) (below : belowTable table step = true) (key : String) :
    (wholeTable table (step :: rest)).get? key = ((wholeTable table rest).get? key).or ((collect table [] step).get? key) := by
  rw [wholeTable, List.filter_cons_of_pos below, List.foldl_cons, collected_get]
  rfl

theorem whole_other (table : String) (step : PatchStep) (rest : List PatchStep) (other : ¬ belowTable table step = true) :
    wholeTable table (step :: rest) = wholeTable table rest := by
  rw [wholeTable, List.filter_cons_of_neg other]
  rfl

-- What is collected under a key was added there.
theorem whole_source (table : String) (steps : List PatchStep) (key : String) (value : Json)
    (collected : (wholeTable table steps).get? key = some value) :
    ∃ step ∈ steps, belowTable table step = true ∧ trimPrefix step.path ("/" ++ table ++ "/") = key := by
  induction steps with
  | nil => cases collected
  | cons step rest ih =>
      by_cases below : belowTable table step = true
      · by_cases same : key = trimPrefix step.path ("/" ++ table ++ "/")
        · exact ⟨step, List.mem_cons_self, below, same.symm⟩
        · rw [whole_below table step rest below key, collect, get_set_other _ _ _ _ same] at collected
          have later : (wholeTable table rest).get? key = some value := by
            rw [← collected]
            exact (Option.or_none).symm
          obtain ⟨found, member, facts⟩ := ih later
          exact ⟨found, List.mem_cons_of_mem step member, facts⟩
      · rw [whole_other table step rest below] at collected
        obtain ⟨found, member, facts⟩ := ih collected
        exact ⟨found, List.mem_cons_of_mem step member, facts⟩

end Collected

section Steps

theorem config_step_path (step : PatchStep) (config : ConfigStep step) :
    ∃ table rest, ConfigPath step.path table rest ∧
      stepPath step = String.ofList table :: rest.map (fun piece => String.ofList (unescape piece)) ∧
      pointerTokens step.path = some (stepPath step) := by
  obtain ⟨table, rest, path⟩ := config.path
  have tokens := config_tokens step.path table rest path
  have same : stepPath step = String.ofList table :: rest.map (fun piece => String.ofList (unescape piece)) := by
    rw [stepPath, tokens]
    rfl
  exact ⟨table, rest, path, same, by rw [same, tokens]⟩

theorem apply_step_path (step : PatchStep) (config : ConfigStep step) (doc : Doc) :
    applyStep doc step = applyAt step.op (stepPath step) (step.value.getD .null) doc := by
  obtain ⟨_, _, _, _, tokens⟩ := config_step_path step config
  rw [applyStep, tokens]

theorem step_path_head (step : PatchStep) (config : ConfigStep step) : ∃ table rest, stepPath step = table :: rest := by
  obtain ⟨table, rest, _, same, _⟩ := config_step_path step config
  exact ⟨_, _, same⟩

theorem adds_table_path (table : String) (step : PatchStep) (adds : AddsTable table step) : stepPath step = [table] := by
  rw [stepPath, adds.2]
  rfl

-- An add below a table, by what its path means.
theorem below_path (table : String) (step : PatchStep) (config : ConfigStep step) (free : '/' ∉ table.toList) :
    belowTable table step = true ↔ step.op = "add" ∧ ∃ key more, stepPath step = table :: key :: more := by
  obtain ⟨name, rest, path, same, _⟩ := config_step_path step config
  have below := config_below step.path name rest path step rfl table.toList free
  rw [String.ofList_toList] at below
  refine below.trans (and_congr_right fun _ => ⟨fun ⟨named, deep⟩ => ?_, fun ⟨key, more, shape⟩ => ?_⟩)
  · cases rest with
    | nil => exact absurd rfl deep
    | cons key more => exact ⟨_, _, by rw [same, named, String.ofList_toList]; rfl⟩
  · rw [same] at shape
    obtain ⟨named, deep⟩ := List.cons.inj shape
    refine ⟨by rw [← named, String.toList_ofList], fun none => ?_⟩
    rw [none] at deep
    cases deep

theorem below_add (table : String) (step : PatchStep) (below : belowTable table step = true) : step.op = "add" :=
  of_decide_eq_true (Bool.and_eq_true_iff.mp below).1

end Steps

section Runs

-- The row has an add to come.
def Pending (table key : String) (rest : List PatchStep) : Prop := (wholeTable table rest).get? key ≠ none

-- Where the two documents may differ.
def Hidden (table : String) (unstarted : String → Prop) (rest : List PatchStep) (p : List String) : Prop :=
  (∃ key below, p = table :: key :: below ∧ Pending table key rest) ∨ ∃ other below, p = other :: below ∧ unstarted other

structure Beside (table : String) (unstarted : String → Prop) (rest : List PatchStep) (original submitted : Doc) : Prop where
  same : ∀ p, ¬ Hidden table unstarted rest p → submitted p = original p
  shown : ∀ key value below, (wholeTable table rest).get? key = some value → submitted (table :: key :: below) = nodes below value
  here : ∀ key, Pending table key rest → original [table] = some .object

variable (table : String) (unstarted : String → Prop) (step : PatchStep) (rest : List PatchStep) (original submitted : Doc)

theorem hidden_below (p : List String) (q : List String) (above : p <+: q) (hidden : Hidden table unstarted rest p) :
    Hidden table unstarted rest q := by
  obtain ⟨more, shape⟩ := above
  cases hidden with
  | inl row =>
      obtain ⟨key, below, path, pending⟩ := row
      exact Or.inl ⟨key, below ++ more, by rw [← shape, path]; rfl, pending⟩
  | inr other =>
      obtain ⟨name, below, path, still⟩ := other
      exact Or.inr ⟨name, below ++ more, by rw [← shape, path]; rfl, still⟩

-- The original adds a row that the submitted table already shows.
theorem beside_collected (key : String) (beside : Beside table unstarted (step :: rest) original submitted)
    (below : belowTable table step = true) (keyed : trimPrefix step.path ("/" ++ table ++ "/") = key) :
    ∃ made, applyAt "add" [table, key] (step.value.getD .null) original = some made ∧
      Beside table unstarted rest made submitted := by
  have first : (collect table [] step).get? key = some (step.value.getD .null) := by
    rw [collect, keyed, get_set_same]
  have pending : Pending table key (step :: rest) := by
    rw [Pending, whole_below table step rest below key, first]
    cases (wholeTable table rest).get? key with
    | none => exact Option.some_ne_none _
    | some value => exact Option.some_ne_none _
  have later : ∀ other value, (wholeTable table rest).get? other = some value → (wholeTable table (step :: rest)).get? other = some value := by
    intro other value collected
    rw [whole_below table step rest below other, collected, Option.some_or]
  have object := beside.here key pending
  have applied : applyAt "add" [table, key] (step.value.getD .null) original = some (put [table, key] (step.value.getD .null) original) := by
    have parent : [table, key] = [] ∨ original [table, key].dropLast = some .object := Or.inr object
    rw [applyAt, if_pos rfl, if_pos parent]
  refine ⟨_, applied, ?_, ?_, ?_⟩
  · intro p shown
    by_cases inside : [table, key] <+: p
    · obtain ⟨more, shape⟩ := inside
      have none' : (wholeTable table rest).get? key = none :=
        Classical.byContradiction fun some' => shown (Or.inl ⟨key, more, shape.symm, some'⟩)
      have value : (wholeTable table (step :: rest)).get? key = some (step.value.getD .null) := by
        rw [whole_below table step rest below key, none', first, Option.none_or]
      rw [← shape, put_below]
      exact beside.shown key _ more value
    · rw [put_other _ _ _ p inside]
      refine beside.same p fun hidden => ?_
      cases hidden with
      | inr other => exact shown (Or.inr other)
      | inl row =>
          obtain ⟨other, more, path, wanted⟩ := row
          have different : other ≠ key := fun same => inside ⟨more, by rw [path, same]; rfl⟩
          refine shown (Or.inl ⟨other, more, path, ?_⟩)
          rw [Pending, whole_below table step rest below other, collect, keyed, get_set_other _ _ _ _ different] at wanted
          intro none'
          rw [none'] at wanted
          exact wanted rfl
  · intro other value more collected
    exact beside.shown other value more (later other value collected)
  · intro other wanted
    have outside : ¬ [table, key] <+: [table] := fun inside => absurd inside.length_le (Nat.not_succ_le_self 1)
    rw [put_other _ _ _ _ outside]
    exact object

theorem pending_other (key : String) (other : ¬ belowTable table step = true) : Pending table key (step :: rest) ↔ Pending table key rest := by
  rw [Pending, Pending, whole_other table step rest other]

theorem beside_other (other : ¬ belowTable table step = true) (beside : Beside table unstarted (step :: rest) original submitted) :
    Beside table unstarted rest original submitted := by
  refine ⟨fun p clear => beside.same p fun hidden => clear ?_, ?_, fun key pending => ?_⟩
  · cases hidden with
    | inl row =>
        obtain ⟨key, below, path, pending⟩ := row
        exact Or.inl ⟨key, below, path, (pending_other table step rest key other).mp pending⟩
    | inr start => exact Or.inr start
  · intro key value below collected
    exact beside.shown key value below ((whole_other table step rest other).symm ▸ collected)
  · exact beside.here key ((pending_other table step rest key other).mpr pending)

-- A step that both patches take, away from the rows to come.
theorem beside_shared (still : String → Prop) (op : String) (path : List String) (value : Json)
    (beside : Beside table unstarted rest original submitted)
    (free : ∀ key, Pending table key rest → ¬ Related path [table, key])
    (above : ¬ Hidden table unstarted rest path.dropLast)
    (clear : op = "add" ∨ ¬ Hidden table unstarted rest path)
    (shrinks : ∀ p, ¬ Hidden table still rest p → path <+: p ∨ ¬ Hidden table unstarted rest p) :
    (applyAt op path value original = none ∧ applyAt op path value submitted = none) ∨
      ∃ made made', applyAt op path value original = some made ∧ applyAt op path value submitted = some made' ∧
        Beside table still rest made made' := by
  have here : op = "add" ∨ submitted path = original path := clear.imp_right (beside.same path)
  cases apply_agree op path value original submitted (beside.same _ above) here with
  | inl both => exact Or.inl both
  | inr both =>
      obtain ⟨made, made', applied, applied', agree⟩ := both
      refine Or.inr ⟨made, made', applied, applied', ?_, ?_, ?_⟩
      · intro p open'
        exact agree p ((shrinks p open').imp_right (beside.same p))
      · intro key shown below collected
        have pending : Pending table key rest := fun none' => Option.some_ne_none shown (collected.symm.trans none')
        have outside : ¬ path <+: table :: key :: below := fun inside =>
          free key pending (List.prefix_or_prefix_of_prefix inside (List.prefix_append [table, key] below))
        rw [apply_other op path value submitted made' applied' _ outside]
        exact beside.shown key shown below collected
      · intro key pending
        have outside : ¬ path <+: [table] := fun inside =>
          free key pending (Or.inl (inside.trans (List.prefix_append [table] [key])))
        rw [apply_other op path value original made applied _ outside]
        exact beside.here key pending

end Runs

section Submission

variable (table : String)

theorem collectable_tail (step : PatchStep) (rest : List PatchStep) (collectable : Collectable table (step :: rest)) : Collectable table rest :=
  ⟨fun later member => collectable.rows later (List.mem_cons_of_mem step member), (List.pairwise_cons.mp collectable.order).2⟩

theorem starts_later (other : String) (step : PatchStep) (rest : List PatchStep) (starts : Starts other (step :: rest))
    (elsewhere : (stepPath step).head? ≠ some other) : Starts other rest := by
  obtain ⟨before, adding, after, shape, adds, untouched⟩ := starts
  cases before with
  | nil =>
      cases shape
      exact absurd (by rw [adds_table_path other step adds]; rfl) elsewhere
  | cons first more =>
      cases shape
      exact ⟨more, adding, after, rfl, adds, fun earlier member => untouched earlier (List.mem_cons_of_mem step member)⟩

theorem starts_here (other : String) (step : PatchStep) (rest : List PatchStep) (starts : Starts other (step :: rest))
    (here : (stepPath step).head? = some other) : AddsTable other step := by
  obtain ⟨before, adding, after, shape, adds, untouched⟩ := starts
  cases before with
  | nil =>
      cases shape
      exact adds
  | cons first more =>
      cases shape
      exact absurd here (untouched step List.mem_cons_self)

-- A row with an add to come is not touched before it.
theorem pending_free (step : PatchStep) (rest : List PatchStep)
    (collectable : Collectable table (step :: rest)) (other : ¬ belowTable table step = true) (key : String)
    (pending : Pending table key rest) : ¬ Related (stepPath step) [table, key] := by
  obtain ⟨value, collected⟩ := Option.ne_none_iff_exists'.mp pending
  obtain ⟨later, member, below, keyed⟩ := whole_source table rest key value collected
  have path := collectable.rows later (List.mem_cons_of_mem step member) below
  rw [keyed] at path
  have apart := (List.pairwise_cons.mp collectable.order).1 later member below
  rw [path] at apart
  exact apart.resolve_left other

-- Both patches take or refuse the operation, and what is left to start is named.
def TakenAlike (unstarted : String → Prop) (rest : List PatchStep) (op : String) (path : List String) (value : Json) (original submitted : Doc) : Prop :=
  ∃ still : String → Prop, (∀ other, still other → unstarted other ∧ path.head? ≠ some other) ∧
    ((applyAt op path value original = none ∧ applyAt op path value submitted = none) ∨
      ∃ made made', applyAt op path value original = some made ∧ applyAt op path value submitted = some made' ∧
        Beside table still rest made made')

-- The first step on a table that the database lacks adds it.
theorem starting_step (unstarted : String → Prop) (rest : List PatchStep) (name : String) (value : Json) (original submitted : Doc)
    (beside : Beside table unstarted rest original submitted)
    (free : ∀ key, Pending table key rest → ¬ Related [name] [table, key]) :
    TakenAlike table unstarted rest "add" [name] value original submitted := by
  have above : ¬ Hidden table unstarted rest [] := by
    intro hidden
    cases hidden with
    | inl row =>
        obtain ⟨_, _, shape, _⟩ := row
        cases shape
    | inr other =>
        obtain ⟨_, _, shape, _⟩ := other
        cases shape
  have shrinks : ∀ p, ¬ Hidden table (fun other => unstarted other ∧ other ≠ name) rest p → [name] <+: p ∨ ¬ Hidden table unstarted rest p := by
    intro p clear
    by_cases inside : [name] <+: p
    · exact Or.inl inside
    · refine Or.inr fun hidden => ?_
      cases hidden with
      | inl row => exact clear (Or.inl row)
      | inr first =>
          obtain ⟨other, lower, shape, still⟩ := first
          exact clear (Or.inr ⟨other, lower, shape, still, fun same => inside ⟨lower, by rw [shape, same]; rfl⟩⟩)
  exact ⟨fun other => unstarted other ∧ other ≠ name, fun other still => ⟨still.1, fun same => still.2 (Option.some.inj same).symm⟩,
    beside_shared table unstarted rest original submitted _ "add" [name] value beside free above (Or.inl rfl) shrinks⟩

-- Any other step works where the documents agree.
theorem settled_step (unstarted : String → Prop) (rest : List PatchStep) (op name : String) (more : List String) (value : Json)
    (original submitted : Doc) (beside : Beside table unstarted rest original submitted)
    (free : ∀ key, Pending table key rest → ¬ Related (name :: more) [table, key]) (settled : ¬ unstarted name) :
    TakenAlike table unstarted rest op (name :: more) value original submitted := by
  have clear : ¬ Hidden table unstarted rest (name :: more) := by
    intro hidden
    cases hidden with
    | inl row =>
        obtain ⟨key, lower, shape, pending⟩ := row
        exact free key pending (Or.inr ⟨lower, by rw [shape]; rfl⟩)
    | inr first =>
        obtain ⟨other, lower, shape, still⟩ := first
        exact settled ((List.cons.inj shape).1 ▸ still)
  have above : ¬ Hidden table unstarted rest (name :: more).dropLast := fun hidden =>
    clear (hidden_below table unstarted rest _ _ (List.dropLast_prefix _) hidden)
  exact ⟨unstarted, fun other still => ⟨still, fun same => settled (Option.some.inj same ▸ still)⟩,
    beside_shared table unstarted rest original submitted _ op (name :: more) value beside free above (Or.inr clear) fun p open' => Or.inr open'⟩

-- The submitted patch, without the collected adds, does what the original does.
theorem submitted_runs (unstarted : String → Prop) (patch : List PatchStep) (original submitted : Doc)
    (config : ∀ step ∈ patch, ConfigStep step) (collectable : Collectable table patch)
    (starts : ∀ other, unstarted other → other ≠ table ∧ Starts other patch)
    (beside : Beside table unstarted patch original submitted) :
    applyPatch (patch.filter fun step => !belowTable table step) submitted = applyPatch patch original := by
  induction patch generalizing unstarted original submitted with
  | nil =>
      have same : submitted = original := by
        funext p
        refine beside.same p fun hidden => ?_
        cases hidden with
        | inl row =>
            obtain ⟨_, _, _, pending⟩ := row
            exact pending rfl
        | inr start =>
            obtain ⟨other, _, _, still⟩ := start
            obtain ⟨before, _, _, shape, _⟩ := (starts other still).2
            cases before with
            | nil => cases shape
            | cons first more => cases shape
      rw [same]
      rfl
  | cons step rest ih =>
      have tail := collectable_tail table step rest collectable
      have config' : ∀ later ∈ rest, ConfigStep later := fun later member => config later (List.mem_cons_of_mem step member)
      have here := config step List.mem_cons_self
      rw [applyPatch, applyPatch, List.foldlM_cons, apply_step_path step here]
      by_cases below : belowTable table step = true
      · have path := collectable.rows step List.mem_cons_self below
        obtain ⟨made, applied, next⟩ := beside_collected table unstarted step rest original submitted _ beside below rfl
        have starts' : ∀ other, unstarted other → other ≠ table ∧ Starts other rest := by
          intro other still
          obtain ⟨different, first⟩ := starts other still
          refine ⟨different, starts_later other step rest first fun same => different ?_⟩
          rw [path] at same
          exact (Option.some.inj same).symm
        rw [List.filter_cons_of_neg (by rw [below]; exact Bool.false_ne_true), below_add table step below, path, applied]
        exact ih unstarted made submitted config' tail starts' next
      · have free := pending_free table step rest collectable below
        have beside' := beside_other table unstarted step rest original submitted below beside
        obtain ⟨name, more, path⟩ := step_path_head step here
        have alike : TakenAlike table unstarted rest step.op (stepPath step) (step.value.getD .null) original submitted := by
          by_cases start : unstarted name
          · have adds := starts_here name step rest (starts name start).2 (by rw [path]; rfl)
            rw [adds_table_path name step adds] at free ⊢
            rw [adds.1]
            exact starting_step table unstarted rest name _ original submitted beside' free
          · rw [path] at free ⊢
            exact settled_step table unstarted rest step.op name more _ original submitted beside' free start
        obtain ⟨still, left, both⟩ := alike
        have starts' : ∀ other, still other → other ≠ table ∧ Starts other rest := by
          intro other waiting
          obtain ⟨first, elsewhere⟩ := left other waiting
          exact ⟨(starts other first).1, starts_later other step rest (starts other first).2 elsewhere⟩
        rw [List.filter_cons_of_pos (by rw [Bool.eq_false_of_not_eq_true below]; rfl), List.foldlM_cons, apply_step_path step here]
        cases both with
        | inl refused =>
            rw [refused.1, refused.2]
            rfl
        | inr taken =>
            obtain ⟨made, made', applied, applied', next⟩ := taken
            rw [applied, applied']
            exact ih still made made' config' tail starts' next

end Submission

end AgenticNetops.FabricExecutor
