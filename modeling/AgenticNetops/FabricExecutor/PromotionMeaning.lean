import AgenticNetops.FabricExecutor.PromotionRuns

set_option autoImplicit false

/- What the submitted patch means, against the original on a database in which the tables
   it adds to are there. -/
namespace AgenticNetops.FabricExecutor

open GoText JsonValue JsonPatch NetIP

section Prepared

theorem with_table_known (doc : Doc) (table : String) (known : doc [table] ≠ none) : withTable doc table = doc := by
  have found : tableExists doc table = true := Option.isSome_iff_ne_none.mpr known
  rw [withTable, if_pos found]

theorem with_table_missing (doc : Doc) (table : String) (missing : doc [table] = none) : withTable doc table = put [table] (.obj []) doc := by
  have absent : ¬ tableExists doc table = true := fun found => Option.isSome_iff_ne_none.mp found missing
  rw [withTable, if_neg absent]

-- Only what lies in a missing table is written.
theorem prepared_other (tables : List String) (doc : Doc) (p : List String)
    (outside : ∀ name ∈ tables, doc [name] = none → ¬ [name] <+: p) : tables.foldl withTable doc p = doc p := by
  induction tables generalizing doc with
  | nil => rfl
  | cons table rest ih =>
      rw [List.foldl_cons]
      have later : ∀ name ∈ rest, doc [name] = none → ¬ [name] <+: p := fun name member => outside name (List.mem_cons_of_mem table member)
      by_cases missing : doc [table] = none
      · rw [with_table_missing doc table missing]
        have apart := outside table List.mem_cons_self missing
        rw [ih (put [table] (.obj []) doc) ?_, put_other _ _ _ p apart]
        intro name member absent
        by_cases same : name = table
        · exact same ▸ apart
        · have other : ¬ [table] <+: [name] := fun above => same (List.cons_prefix_cons.mp above).1.symm
          rw [put_other _ _ _ _ other] at absent
          exact later name member absent
      · rw [with_table_known doc table missing]
        exact ih doc later

theorem prepared_here (tables : List String) (doc : Doc) (name : String) (below : List String) (member : name ∈ tables)
    (missing : doc [name] = none) : tables.foldl withTable doc (name :: below) = nodes below (.obj []) := by
  induction tables generalizing doc with
  | nil => cases member
  | cons table rest ih =>
      rw [List.foldl_cons]
      by_cases same : name = table
      · rw [← same, with_table_missing doc name missing, prepared_other]
        · exact put_below [name] below (.obj []) doc
        · intro other _ absent above
          have equal : other = name := (List.cons_prefix_cons.mp above).1
          rw [equal] at absent
          exact Option.some_ne_none _ ((put_below [name] [] (.obj []) doc).symm.trans absent)
      · have later := (List.mem_cons.mp member).resolve_left same
        by_cases missing' : doc [table] = none
        · rw [with_table_missing doc table missing']
          have other : ¬ [table] <+: [name] := fun above => same (List.cons_prefix_cons.mp above).1.symm
          exact ih _ later ((put_other _ _ _ _ other).trans missing)
        · rw [with_table_known doc table missing']
          exact ih doc later missing

end Prepared

section FirstMissing

variable (db : Doc) (patch : List PatchStep)

theorem none_missing (all : firstMissing db patch = none) (table : String) (member : table ∈ patch.filterMap parentTable) :
    tableExists db table = true := by
  have known := List.find?_eq_none.mp all table member
  cases found : tableExists db table with
  | true => rfl
  | false => exact absurd (by rw [found]; rfl) known

theorem first_missing (table : String) (first : firstMissing db patch = some table) :
    table ∈ patch.filterMap parentTable ∧ db [table] = none := by
  refine ⟨List.mem_of_find?_eq_some first, ?_⟩
  have absent := List.find?_some first
  cases there : db [table] with
  | none => rfl
  | some node =>
      rw [tableExists, there] at absent
      cases absent

-- Nothing is promoted where every parent table is there.
theorem preserved_all_known (all : firstMissing db patch = none) : Preserved db patch := by
  have same : promote db patch = patch := by rw [promote, all]
  have kept : prepared db patch = db := by
    funext p
    refine prepared_other _ db p fun name member missing => ?_
    exact absurd missing (Option.isSome_iff_ne_none.mp (none_missing db patch all name member))
  refine ⟨by rw [same, kept], fun before step after table shape parent => Or.inl ?_⟩
  have member : step ∈ patch := by
    rw [← same, shape]
    exact List.mem_append_right before List.mem_cons_self
  exact none_missing db patch all table (List.mem_filterMap.mpr ⟨step, member, parent⟩)

-- The name of a parent table, and what an add below it looks like.
theorem parent_name (step : PatchStep) (config : ConfigStep step) (table : String) (parent : parentTable step = some table) :
    '/' ∉ table.toList ∧ table ≠ "" ∧ '~' ∉ table.toList ∧ belowTable table step = true ∧ ∃ key more, stepPath step = table :: key :: more := by
  obtain ⟨name, rest, path, same, _⟩ := config_step_path step config
  rw [config_parent step.path name rest path step rfl] at parent
  by_cases adds : step.op = "add" ∧ rest ≠ []
  · rw [if_pos adds] at parent
    have named : String.ofList name = table := Option.some.inj parent
    have text : table.toList = name := by rw [← named, String.toList_ofList]
    obtain ⟨free, _⟩ := config_text step.path name rest path
    refine ⟨text.symm ▸ free, fun empty => path.named name List.mem_cons_self ?_, text.symm ▸ path.plain, ?_, ?_⟩
    · rw [← text, empty]
      rfl
    · rw [← named]
      exact (config_below step.path name rest path step rfl name free).mpr ⟨adds.1, rfl, adds.2⟩
    · cases rest with
      | nil => exact absurd rfl adds.2
      | cons key more => exact ⟨_, _, by rw [same, named]; rfl⟩
  · rw [if_neg adds] at parent
    cases parent

theorem table_path (table : String) (free : '/' ∉ table.toList) (present : table ≠ "") (plain : '~' ∉ table.toList) :
    ConfigPath ("/" ++ table) table.toList [] := by
  have text : ("/" ++ table).toList = [] ++ '/' :: table.toList := String.toList_append
  refine ⟨?_, fun piece member => ?_, plain, Nat.zero_le 2⟩
  · rw [text, split_last '/' [] table.toList free]
    rfl
  · rw [List.mem_singleton.mp member]
    exact fun empty => present (String.toList_inj.mp empty)

end FirstMissing

section Promoted

variable (db : Doc) (patch : List PatchStep) (table : String)

def wholeAdd (table : String) (patch : List PatchStep) : PatchStep :=
  { op := "add", path := "/" ++ table, value := some (.obj (wholeTable table patch)) }

theorem promote_some (first : firstMissing db patch = some table) :
    promote db patch = wholeAdd table patch :: patch.filter fun step => !belowTable table step := by
  rw [promote, first]
  rfl

-- The table itself is one of those to prepare; the others are started by the patch or known.
theorem beside_start (first : firstMissing db patch = some table) :
    Beside table (fun other => other ≠ table ∧ other ∈ patch.filterMap parentTable ∧ db [other] = none) patch
      (prepared db patch) (put [table] (.obj (wholeTable table patch)) db) := by
  obtain ⟨parent, missing⟩ := first_missing db patch table first
  refine ⟨fun p clear => ?_, fun key value below collected => ?_, fun key _ => ?_⟩
  · by_cases inside : [table] <+: p
    · obtain ⟨rest, shape⟩ := inside
      rw [← shape, put_below, prepared]
      cases rest with
      | nil => exact (prepared_here _ db table [] parent missing).symm
      | cons key below =>
          have none' : (wholeTable table patch).get? key = none :=
            Classical.byContradiction fun pending => clear (Or.inl ⟨key, below, shape.symm, pending⟩)
          have absent : nodes (key :: below) (.obj (wholeTable table patch)) = none := by
            rw [nodes, Json.field?, Json.fields, none']
          exact absent.trans (prepared_here _ db table (key :: below) parent missing).symm
    · rw [put_other _ _ _ p inside]
      refine (prepared_other _ db p fun name member absent above => ?_).symm
      by_cases same : name = table
      · exact inside (same ▸ above)
      · obtain ⟨below, shape⟩ := above
        exact clear (Or.inr ⟨name, below, shape.symm, same, member, absent⟩)
  · have there : nodes (key :: below) (.obj (wholeTable table patch)) = nodes below value := by
      rw [nodes, Json.field?, Json.fields, collected]
    exact (put_below [table] (key :: below) _ db).trans there
  · exact prepared_here _ db table [] parent missing

theorem whole_add_applied (config : ConfigPath ("/" ++ table) table.toList []) (root : db [] = some .object) :
    applyStep db (wholeAdd table patch) = some (put [table] (.obj (wholeTable table patch)) db) := by
  have tokens := config_tokens _ _ _ config
  rw [String.ofList_toList, List.map_nil] at tokens
  have parent : [table] = [] ∨ db [table].dropLast = some .object := Or.inr root
  rw [applyStep, wholeAdd]
  dsimp only
  rw [tokens]
  dsimp only
  rw [applyAt, if_pos rfl, if_pos parent]
  rfl

-- What follows the table's add is not below it.
theorem submitted_parent (config : ∀ step ∈ patch, ConfigStep step) (first : firstMissing db patch = some table) (before after : List PatchStep)
    (step : PatchStep) (other : String) (shape : promote db patch = before ++ step :: after) (parent : parentTable step = some other) :
    ∃ earlier, before = wholeAdd table patch :: earlier ∧ (patch.filter fun step => !belowTable table step) = earlier ++ step :: after ∧
      step ∈ patch ∧ other ≠ table := by
  rw [promote_some db patch table first] at shape
  obtain ⟨source, _⟩ := first_missing db patch table first
  obtain ⟨adding, added, asks⟩ := List.mem_filterMap.mp source
  obtain ⟨free, present, plain, _⟩ := parent_name adding (config adding added) table asks
  cases before with
  | nil =>
      obtain ⟨same, _⟩ := List.cons.inj shape
      have config' := table_path table free present plain
      rw [← same, config_parent _ _ _ config' (wholeAdd table patch) rfl, if_neg fun both => both.2 rfl] at parent
      cases parent
  | cons head earlier =>
      obtain ⟨same, rest⟩ := List.cons.inj shape
      have member : step ∈ patch.filter fun step => !belowTable table step := by
        rw [rest]
        exact List.mem_append_right earlier List.mem_cons_self
      obtain ⟨inside, kept⟩ := List.mem_filter.mp member
      refine ⟨earlier, by rw [← same], rest, inside, fun equal => ?_⟩
      obtain ⟨_, _, _, below, _⟩ := parent_name step (config step inside) other parent
      rw [equal] at below
      rw [below] at kept
      cases kept

theorem earlier_of_absent {α : Type} (front back before after : List α) (x y : α) (same : front ++ x :: back = before ++ y :: after)
    (absent : y ∉ front) (different : y ≠ x) : x ∈ before := by
  cases List.append_eq_append_iff.mp same with
  | inl longer =>
      obtain ⟨more, shape, tail⟩ := longer
      rw [shape]
      cases more with
      | nil => exact absurd (List.cons.inj tail).1.symm different
      | cons head later =>
          rw [(List.cons.inj tail).1]
          exact List.mem_append_right front List.mem_cons_self
  | inr shorter =>
      obtain ⟨more, shape, tail⟩ := shorter
      cases more with
      | nil => exact absurd (List.cons.inj tail).1 different
      | cons head later =>
          refine absurd ?_ absent
          rw [shape, (List.cons.inj tail).1]
          exact List.mem_append_right before List.mem_cons_self

-- A table that the patch starts has its add in front of what is added below it.
theorem started_before (config : ∀ step ∈ patch, ConfigStep step) (first : firstMissing db patch = some table) (before after : List PatchStep)
    (step : PatchStep) (other : String) (shape : promote db patch = before ++ step :: after) (parent : parentTable step = some other)
    (starts : Starts other patch) : ∃ earlier ∈ before, AddsTable other earlier := by
  obtain ⟨earlier, opened, rest, inside, _⟩ := submitted_parent db patch table config first before after step other shape parent
  obtain ⟨_, _, _, _, key, more, path⟩ := parent_name step (config step inside) other parent
  obtain ⟨source, _⟩ := first_missing db patch table first
  obtain ⟨asking, asked, asks⟩ := List.mem_filterMap.mp source
  obtain ⟨free, _⟩ := parent_name asking (config asking asked) table asks
  obtain ⟨front, adding, back, whole, adds, untouched⟩ := starts
  have single := adds_table_path other adding adds
  have different : step ≠ adding := fun same => by
    rw [same, single] at path
    cases path
  have absent : step ∉ front.filter fun step => !belowTable table step := fun member =>
    untouched step (List.mem_filter.mp member).1 (by rw [path]; rfl)
  have kept : belowTable table adding = false := by
    refine Bool.eq_false_of_not_eq_true fun below => ?_
    have member : adding ∈ patch := whole ▸ List.mem_append_right front List.mem_cons_self
    obtain ⟨_, _, _, deep⟩ := (below_path table adding (config adding member) free).mp below
    rw [single] at deep
    cases deep
  rw [whole, List.filter_append, List.filter_cons_of_pos (by rw [kept]; rfl)] at rest
  refine ⟨adding, ?_, adds⟩
  rw [opened]
  exact List.mem_cons_of_mem _ (earlier_of_absent _ _ _ _ adding step rest absent different)

theorem preserved_promotable (config : ∀ step ∈ patch, ConfigStep step) (root : db [] = some .object) (promotable : Promotable db patch) :
    Preserved db patch := by
  cases first : firstMissing db patch with
  | none => exact preserved_all_known db patch first
  | some table =>
      obtain ⟨collectable, others⟩ := promotable table first
      obtain ⟨source, _⟩ := first_missing db patch table first
      obtain ⟨asking, asked, asks⟩ := List.mem_filterMap.mp source
      obtain ⟨free, present, plain, _⟩ := parent_name asking (config asking asked) table asks
      have starts : ∀ other, other ≠ table ∧ other ∈ patch.filterMap parentTable ∧ db [other] = none → other ≠ table ∧ Starts other patch := by
        intro other ⟨different, member, missing⟩
        have found := (others other member).resolve_left different
        exact ⟨different, found.resolve_left fun known => Option.isSome_iff_ne_none.mp known missing⟩
      have runs := submitted_runs table _ patch _ _ config collectable starts (beside_start db patch table first)
      refine ⟨?_, fun before step after other shape parent => ?_⟩
      · rw [← runs, promote_some db patch table first, applyPatch, List.foldlM_cons,
          whole_add_applied db patch table (table_path table free present plain) root]
        rfl
      · obtain ⟨_, _, _, inside, different⟩ := submitted_parent db patch table config first before after step other shape parent
        cases others other (List.mem_filterMap.mpr ⟨step, inside, parent⟩) with
        | inl same => exact absurd same different
        | inr known => exact known.imp_right (started_before db patch table config first before after step other shape parent)

end Promoted

end AgenticNetops.FabricExecutor
