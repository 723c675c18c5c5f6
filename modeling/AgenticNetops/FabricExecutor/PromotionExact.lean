import Mathlib.Algebra.Order.BigOperators.Group.Finset
import AgenticNetops.FabricExecutor.PromotionMeaning

set_option autoImplicit false

/- Patches of adds: a promotion that keeps their meaning is one of a single table whose rows
   are collected under their own keys. -/
namespace AgenticNetops.FabricExecutor

open GoText JsonValue JsonPatch NetIP

section Shrinking

-- A map that makes what it moves smaller, and still reaches every element, moves none.
theorem onto_fixed {α : Type} [DecidableEq α] (elements : Finset α) (move : α → α) (size : α → Nat)
    (shrinks : ∀ x ∈ elements, move x = x ∨ size (move x) < size x) (onto : ∀ x ∈ elements, ∃ y ∈ elements, move y = x) :
    ∀ x ∈ elements, move x = x := by
  have reached : elements ⊆ elements.image move := by
    intro x member
    obtain ⟨y, inside, same⟩ := onto x member
    exact Finset.mem_image.mpr ⟨y, inside, same⟩
  have image : elements = elements.image move := Finset.eq_of_subset_of_card_le reached Finset.card_image_le
  have apart : Set.InjOn move elements := Finset.injOn_of_card_image_eq (congrArg Finset.card image.symm)
  have total : ∑ x ∈ elements, size x = ∑ x ∈ elements, size (move x) := by
    rw [← Finset.sum_image (f := size) apart, ← image]
  intro x member
  refine (shrinks x member).resolve_right fun less => ?_
  have smaller : ∑ x ∈ elements, size (move x) < ∑ x ∈ elements, size x := by
    refine Finset.sum_lt_sum (fun y inside => ?_) ⟨x, member, less⟩
    cases shrinks y inside with
    | inl same => rw [same]
    | inr shorter => exact shorter.le
  omega

end Shrinking

section Keys

-- The row that a collected text would be below the table.
def rowOf (text : String) : String := String.ofList (unescape (text.toList.takeWhile (· ≠ '/')))

theorem row_of_shorter (text : String) : rowOf text = text ∨ (rowOf text).length < text.length := by
  have first : (text.toList.takeWhile (· ≠ '/')).length ≤ text.toList.length := (List.takeWhile_prefix _).length_le
  rw [rowOf, String.length_ofList, ← String.length_toList]
  cases unescape_shorter (text.toList.takeWhile (· ≠ '/')) with
  | inr less => exact Or.inr (by omega)
  | inl same =>
      rw [same]
      by_cases whole : text.toList.takeWhile (· ≠ '/') = text.toList
      · exact Or.inl (by rw [whole, String.ofList_toList])
      · refine Or.inr (Nat.lt_of_le_of_ne first fun equal => whole ?_)
        exact (List.takeWhile_prefix _).eq_of_length equal

-- An add below a table, its row, and whether it is a row's own.
theorem below_row (table : String) (step : PatchStep) (config : ConfigStep step) (free : '/' ∉ table.toList) (below : belowTable table step = true) :
    ∃ more, stepPath step = table :: rowOf (trimPrefix step.path ("/" ++ table ++ "/")) :: more ∧
      (rowOf (trimPrefix step.path ("/" ++ table ++ "/")) = trimPrefix step.path ("/" ++ table ++ "/") → more = []) := by
  obtain ⟨name, rest, path, same, _⟩ := config_step_path step config
  have facts := config_below step.path name rest path step rfl table.toList free
  rw [String.ofList_toList] at facts
  obtain ⟨_, named, deep⟩ := facts.mp below
  obtain ⟨text, behind, pieces⟩ := config_behind step.path name rest path deep
  rw [named, String.ofList_toList] at behind
  cases rest with
  | nil => exact absurd rfl deep
  | cons key more =>
      obtain ⟨keyFree, shape⟩ := split_step '/' text key more pieces
      have apart : ∀ c ∈ key, decide (c ≠ '/') = true := fun c member => decide_eq_true fun slash => keyFree (slash ▸ member)
      have row : text.takeWhile (· ≠ '/') = key := by
        cases shape with
        | inl alone => rw [alone.2, List.takeWhile_eq_self_iff.mpr apart]
        | inr longer =>
            obtain ⟨later, whole, _⟩ := longer
            rw [whole, List.takeWhile_append_of_pos apart, List.takeWhile_cons_of_neg (by simp), List.append_nil]
      refine ⟨more.map fun piece => String.ofList (unescape piece), ?_, fun fixed => ?_⟩
      · rw [same, behind, rowOf, String.toList_ofList, row, named, String.ofList_toList]
        rfl
      · rw [behind, rowOf, String.toList_ofList, row] at fixed
        cases shape with
        | inl alone => rw [alone.1]; rfl
        | inr longer =>
            obtain ⟨later, whole, _⟩ := longer
            have size := congrArg List.length (String.ofList_injective fixed)
            have bound : (unescape key).length ≤ key.length := (unescape_shorter key).elim (fun it => by rw [it]) Nat.le_of_lt
            rw [whole, List.length_append, List.length_cons] at size
            omega

end Keys

section Presence

theorem nodes_root (value : Json) : nodes [] value ≠ none := by
  cases value with
  | obj fields => exact Option.some_ne_none _
  | _ => exact Option.some_ne_none _

def RowsAndFields (patch : List PatchStep) : Prop := ∀ step ∈ patch, step.op = "add" ∧ 2 ≤ (stepPath step).length

-- After a run of adds a row is there that was there before or is added.
theorem adds_presence (steps : List PatchStep) (doc made : Doc) (config : ∀ step ∈ steps, ConfigStep step) (adds : RowsAndFields steps)
    (applied : applyPatch steps doc = some made) (table key : String) :
    made [table, key] ≠ none ↔ doc [table, key] ≠ none ∨ ∃ step ∈ steps, stepPath step = [table, key] := by
  induction steps generalizing doc with
  | nil =>
      cases applied
      refine ⟨Or.inl, fun either => either.resolve_right fun found => ?_⟩
      obtain ⟨_, member, _⟩ := found
      cases member
  | cons step rest ih =>
      have later : ∀ other ∈ rest, other ∈ step :: rest := fun other member => List.mem_cons_of_mem step member
      obtain ⟨add, deep⟩ := adds step List.mem_cons_self
      rw [applyPatch, List.foldlM_cons, apply_step_path step (config step List.mem_cons_self), add] at applied
      cases first : applyAt "add" (stepPath step) (step.value.getD .null) doc with
      | none =>
          rw [first] at applied
          cases applied
      | some next =>
          rw [first] at applied
          have present : stepPath step ≠ [] := fun none => by
            rw [none] at deep
            cases deep
          obtain ⟨_, stored⟩ := add_object _ _ doc next first present
          have here : next [table, key] ≠ none ↔ doc [table, key] ≠ none ∨ stepPath step = [table, key] := by
            by_cases same : stepPath step = [table, key]
            · rw [stored, same]
              have root : put [table, key] (step.value.getD .null) doc [table, key] ≠ none := fun absent =>
                nodes_root _ ((put_below [table, key] [] _ doc).symm.trans absent)
              exact ⟨fun _ => Or.inr rfl, fun _ => root⟩
            · have outside : ¬ stepPath step <+: [table, key] := fun above => same (above.eq_of_length_le deep)
              rw [stored, put_other _ _ _ _ outside]
              exact ⟨Or.inl, fun either => either.resolve_right same⟩
          rw [ih next (fun other member => config other (later other member)) (fun other member => adds other (later other member)) applied, here,
            or_assoc]
          refine or_congr_right ⟨fun either => ?_, fun listed => ?_⟩
          · cases either with
            | inl same => exact ⟨step, List.mem_cons_self, same⟩
            | inr more =>
                obtain ⟨found, member, same⟩ := more
                exact ⟨found, later found member, same⟩
          · obtain ⟨found, member, same⟩ := listed
            cases List.mem_cons.mp member with
            | inl equal => exact Or.inl (equal ▸ same)
            | inr more => exact Or.inr ⟨found, more, same⟩

theorem whole_known (table : String) (steps : List PatchStep) (step : PatchStep) (member : step ∈ steps) (below : belowTable table step = true) :
    (wholeTable table steps).get? (trimPrefix step.path ("/" ++ table ++ "/")) ≠ none := by
  induction steps with
  | nil => cases member
  | cons first rest ih =>
      cases List.mem_cons.mp member with
      | inl same =>
          rw [← same, whole_below table step rest below _, collect, get_set_same]
          exact fun absent => Option.some_ne_none _ (Option.or_eq_none_iff.mp absent).2
      | inr later =>
          by_cases firstBelow : belowTable table first = true
          · rw [whole_below table first rest firstBelow]
            exact fun absent => ih later (Option.or_eq_none_iff.mp absent).1
          · rw [whole_other table first rest firstBelow]
            exact ih later

theorem whole_presence (table : String) (steps : List PatchStep) (key : String) :
    (wholeTable table steps).get? key ≠ none ↔
      ∃ step ∈ steps, belowTable table step = true ∧ trimPrefix step.path ("/" ++ table ++ "/") = key := by
  refine ⟨fun present => ?_, fun ⟨step, member, below, keyed⟩ => keyed ▸ whole_known table steps step member below⟩
  obtain ⟨value, collected⟩ := Option.ne_none_iff_exists'.mp present
  exact whole_source table steps key value collected

end Presence

section Exact

variable (db : Doc) (patch : List PatchStep) (table : String)

-- Where the original works, the same result means that each add below the table is of a row, under its own key.
theorem rows_own_keys (config : ∀ step ∈ patch, ConfigStep step) (root : db [] = some .object) (adds : RowsAndFields patch)
    (works : applyPatch patch (prepared db patch) ≠ none) (preserved : Preserved db patch) (first : firstMissing db patch = some table) :
    ∀ step ∈ patch, belowTable table step = true → stepPath step = [table, trimPrefix step.path ("/" ++ table ++ "/")] := by
  obtain ⟨source, missing⟩ := first_missing db patch table first
  obtain ⟨asking, asked, asks⟩ := List.mem_filterMap.mp source
  obtain ⟨free, present, plain, _⟩ := parent_name asking (config asking asked) table asks
  obtain ⟨made, original⟩ := Option.ne_none_iff_exists'.mp works
  have submitted := preserved.same.trans original
  rw [promote_some db patch table first, applyPatch, List.foldlM_cons,
    whole_add_applied db patch table (table_path table free present plain) root] at submitted
  have kept : ∀ step ∈ patch.filter (fun step => !belowTable table step), step ∈ patch ∧ ¬ belowTable table step = true := by
    intro step member
    obtain ⟨inside, other⟩ := List.mem_filter.mp member
    refine ⟨inside, fun below => ?_⟩
    rw [below] at other
    cases other
  have collected : ∀ key, made [table, key] ≠ none ↔
      ∃ step ∈ patch, belowTable table step = true ∧ trimPrefix step.path ("/" ++ table ++ "/") = key := by
    intro key
    have run := adds_presence _ _ made (fun step member => config step (kept step member).1) (fun step member => adds step (kept step member).1)
      submitted table key
    have start : put [table] (.obj (wholeTable table patch)) db [table, key] ≠ none ↔ (wholeTable table patch).get? key ≠ none := by
      rw [show [table, key] = [table] ++ [key] from rfl, put_below, nodes, Json.field?, Json.fields]
      cases (wholeTable table patch).get? key with
      | none => exact iff_of_false (fun there => there rfl) (fun there => there rfl)
      | some value => exact iff_of_true (nodes_root value) (Option.some_ne_none _)
    rw [run, start, whole_presence]
    refine ⟨fun either => either.resolve_right ?_, Or.inl⟩
    intro found
    obtain ⟨step, member, path⟩ := found
    obtain ⟨inside, other⟩ := kept step member
    exact other ((below_path table step (config step inside) free).mpr ⟨(adds step inside).1, key, [], path⟩)
  have meant : ∀ key, made [table, key] ≠ none ↔ ∃ step ∈ patch, stepPath step = [table, key] := by
    intro key
    have run := adds_presence patch _ made config adds original table key
    have empty : prepared db patch [table, key] = none := prepared_here _ db table [key] source missing
    rw [run, empty]
    exact ⟨fun either => either.resolve_left fun absurd' => absurd' rfl, Or.inr⟩
  have fixed := onto_fixed ((patch.filter (belowTable table)).map fun step => trimPrefix step.path ("/" ++ table ++ "/")).toFinset rowOf
    String.length (fun text _ => row_of_shorter text) ?_
  · intro step member below
    have text : trimPrefix step.path ("/" ++ table ++ "/") ∈
        ((patch.filter (belowTable table)).map fun step => trimPrefix step.path ("/" ++ table ++ "/")).toFinset :=
      List.mem_toFinset.mpr (List.mem_map.mpr ⟨step, List.mem_filter.mpr ⟨member, below⟩, rfl⟩)
    obtain ⟨more, path, alone⟩ := below_row table step (config step member) free below
    rw [alone (fixed _ text), fixed _ text] at path
    exact path
  · intro text member
    obtain ⟨step, inside, same⟩ := List.mem_map.mp (List.mem_toFinset.mp member)
    obtain ⟨inside', below⟩ := List.mem_filter.mp inside
    obtain ⟨other, otherMember, path⟩ := (meant text).mp ((collected text).mpr ⟨step, inside', below, same⟩)
    have otherBelow := (below_path table other (config other otherMember) free).mpr ⟨(adds other otherMember).1, text, [], path⟩
    refine ⟨_, List.mem_toFinset.mpr (List.mem_map.mpr ⟨other, List.mem_filter.mpr ⟨otherMember, otherBelow⟩, rfl⟩), ?_⟩
    obtain ⟨more, path', _⟩ := below_row table other (config other otherMember) free otherBelow
    rw [path] at path'
    exact (List.cons.inj (List.cons.inj path').2).1.symm

-- Every other table below which something is added is known, or an earlier step adds it.
theorem others_known (config : ∀ step ∈ patch, ConfigStep step) (preserved : Preserved db patch) (first : firstMissing db patch = some table)
    (other : String) (parent : other ∈ patch.filterMap parentTable) :
    other = table ∨ tableExists db other = true ∨ ∃ step ∈ patch, AddsTable other step := by
  by_cases same : other = table
  · exact Or.inl same
  obtain ⟨step, member, asks⟩ := List.mem_filterMap.mp parent
  obtain ⟨source, _⟩ := first_missing db patch table first
  obtain ⟨asking, asked, wants⟩ := List.mem_filterMap.mp source
  obtain ⟨free, present, plain, _⟩ := parent_name asking (config asking asked) table wants
  have kept : step ∈ promote db patch := by
    rw [promote_some db patch table first]
    refine List.mem_cons_of_mem _ (List.mem_filter.mpr ⟨member, ?_⟩)
    cases below : belowTable table step with
    | false => rfl
    | true =>
        obtain ⟨_, _, _, _, _, _, path⟩ := parent_name step (config step member) other asks
        obtain ⟨_, _, _, path'⟩ := (below_path table step (config step member) free).mp below
        rw [path] at path'
        exact absurd (List.cons.inj path').1 same
  obtain ⟨before, after, shape⟩ := List.append_of_mem kept
  refine Or.inr ((preserved.noOrphan before step after other shape asks).imp_right fun ⟨earlier, inside, adds⟩ => ?_)
  have submitted : earlier ∈ promote db patch := shape ▸ List.mem_append_left _ inside
  rw [promote_some db patch table first] at submitted
  cases List.mem_cons.mp submitted with
  | inl whole =>
      have tokens := config_tokens _ _ _ (table_path table free present plain)
      rw [whole, wholeAdd] at adds
      have named := Option.some.inj (tokens.symm.trans adds.2)
      rw [String.ofList_toList] at named
      exact absurd (List.cons.inj named).1.symm same
  | inr rest => exact ⟨earlier, (List.mem_filter.mp rest).1, adds⟩

theorem adds_promotable (config : ∀ step ∈ patch, ConfigStep step) (root : db [] = some .object) (adds : RowsAndFields patch)
    (works : applyPatch patch (prepared db patch) ≠ none) (preserved : Preserved db patch) : Promotable db patch := by
  intro table first
  have rows := rows_own_keys db patch table config root adds works preserved first
  obtain ⟨source, _⟩ := first_missing db patch table first
  obtain ⟨asking, asked, wants⟩ := List.mem_filterMap.mp source
  obtain ⟨free, _⟩ := parent_name asking (config asking asked) table wants
  refine ⟨⟨rows, List.pairwise_of_forall_mem_list fun earlier inside later inside' below => ?_⟩, fun other parent => ?_⟩
  · by_cases related : Related (stepPath earlier) (stepPath later)
    · refine Or.inl ((below_path table earlier (config earlier inside) free).mpr ⟨(adds earlier inside).1, ?_⟩)
      rw [rows later inside' below] at related
      cases related with
      | inl above => exact ⟨_, [], above.eq_of_length_le (adds earlier inside).2⟩
      | inr under =>
          obtain ⟨more, shape⟩ := under
          exact ⟨_, more, shape.symm⟩
    · exact Or.inr related
  · refine (others_known db patch table config preserved first other parent).imp_right fun either => either.imp_right ?_
    intro ⟨step, member, whole⟩
    have deep := (adds step member).2
    rw [adds_table_path other step whole] at deep
    exact absurd deep (Nat.not_succ_le_self 1)

end Exact

section Promotion

-- The submitted patch keeps the meaning of one whose only missing table collects rows under their own keys, and of adds
-- that work it keeps the meaning of no others.
theorem promotion_meaning (db : Doc) (patch : List PatchStep) (config : ∀ step ∈ patch, ConfigStep step) (root : db [] = some .object) :
    (Promotable db patch → Preserved db patch) ∧
      (RowsAndFields patch → applyPatch patch (prepared db patch) ≠ none → (Preserved db patch ↔ Promotable db patch)) :=
  ⟨preserved_promotable db patch config root, fun adds works =>
    ⟨adds_promotable db patch config root adds works, preserved_promotable db patch config root⟩⟩

def spineDb : Doc := fun path => nodes path (.obj [("PORT", .obj [("Ethernet12", .obj [])])])

def vrfRow : PatchStep := { op := "add", path := "/VRF/VrfBlue", value := some (.obj [("vni", .str "10007")]) }

def portVrf : PatchStep := { op := "add", path := "/INTERFACE/Ethernet12", value := some (.obj [("vrf_name", .str "VrfBlue")]) }

def portGateway : PatchStep := { op := "add", path := "/INTERFACE/Ethernet12|10.1.0.1~124", value := some (.obj []) }

theorem row_step (step : PatchStep) (table key : List Char) (add : step.op = "add") (pieces : splitChars '/' step.path.toList = [[], table, key])
    (named : table ≠ []) (keyed : key ≠ []) (plain : '~' ∉ table) : ConfigStep step := by
  refine ⟨by rw [add]; exact List.mem_cons_self, table, [key], pieces, fun piece member => ?_, plain, Nat.le_succ 1⟩
  cases List.mem_cons.mp member with
  | inl first => exact first ▸ named
  | inr last => exact List.mem_singleton.mp last ▸ keyed

theorem vrf_promoted : Preserved spineDb [vrfRow] := by
  refine (promotion_meaning spineDb [vrfRow] (fun step member => ?_) (by decide)).1 ?_
  · rw [List.mem_singleton.mp member]
    exact row_step vrfRow "VRF".toList "VrfBlue".toList rfl (by decide) (by decide) (by decide) (by decide)
  · intro table first
    have found : firstMissing spineDb [vrfRow] = some "VRF" := by decide
    have named : table = "VRF" := Option.some.inj (first.symm.trans found)
    refine ⟨⟨fun step member _ => ?_, List.pairwise_singleton _ _⟩, fun other parent => Or.inl ?_⟩
    · rw [List.mem_singleton.mp member, named]
      decide
    · have parents : [vrfRow].filterMap parentTable = ["VRF"] := by decide
      rw [parents] at parent
      rw [named, List.mem_singleton.mp parent]

-- The address is stored under the text of its path, escape and all.
theorem escaped_key_stored : ¬ ∀ (db : Doc) (patch : List PatchStep), (∀ step ∈ patch, ConfigStep step) → db [] = some .object → Preserved db patch := by
  intro kept
  have steps : ∀ step ∈ [portVrf, portGateway], ConfigStep step := by
    intro step member
    cases List.mem_cons.mp member with
    | inl first =>
        rw [first]
        exact row_step portVrf "INTERFACE".toList "Ethernet12".toList rfl (by decide) (by decide) (by decide) (by decide)
    | inr last =>
        rw [List.mem_singleton.mp last]
        exact row_step portGateway "INTERFACE".toList "Ethernet12|10.1.0.1~124".toList rfl (by decide) (by decide) (by decide) (by decide)
  have same := (kept spineDb [portVrf, portGateway] steps (by decide)).same
  have differ : (applyPatch (promote spineDb [portVrf, portGateway]) spineDb).map (fun doc => doc ["INTERFACE", "Ethernet12|10.1.0.1/24"]) ≠
      (applyPatch [portVrf, portGateway] (prepared spineDb [portVrf, portGateway])).map fun doc => doc ["INTERFACE", "Ethernet12|10.1.0.1/24"] := by
    decide +kernel
  exact differ (by rw [same])

end Promotion

end AgenticNetops.FabricExecutor
