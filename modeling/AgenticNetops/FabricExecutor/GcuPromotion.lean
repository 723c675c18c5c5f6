import AgenticNetops.FabricExecutor.ConfigPatch
import AgenticNetops.Lib.DottedText
import AgenticNetops.Lib.JsonPatch
import AgenticNetops.Lib.InnerText

set_option autoImplicit false

/- applyGCU: per-key adds below a table that CONFIG_DB does not have become one add of the
   whole table, put in front of the patch. Against it stands what the patch means on a
   CONFIG_DB in which the tables it adds to are there. -/
namespace AgenticNetops.FabricExecutor

open GoText JsonValue JsonPatch InnerText NetIP

section Steps

def applyStep (doc : Doc) (step : PatchStep) : Option Doc :=
  match pointerTokens step.path with
  | none => none
  | some path => applyAt step.op path (step.value.getD .null) doc

def applyPatch (patch : List PatchStep) (doc : Doc) : Option Doc := patch.foldlM applyStep doc

end Steps

section Code

-- The table that applyGCU looks for before it lets a step through.
def parentTable (step : PatchStep) : Option String :=
  if step.op ≠ "add" ∨ ¬ hasPrefix step.path "/" = true then none
  else
    let table := (split (trimPrefix step.path "/") '/').headD ""
    if table = "" then none
    else if (splitChars '/' (trimChars (· = '/') step.path.toList)).length < 2 then none
    else some table

-- A scan finds a key of the table.
def tableExists (db : Doc) (table : String) : Bool := (db [table]).isSome

def firstMissing (db : Doc) (patch : List PatchStep) : Option String :=
  (patch.filterMap parentTable).find? fun table => !tableExists db table

def belowTable (table : String) (step : PatchStep) : Bool := step.op = "add" && hasPrefix step.path ("/" ++ table ++ "/")

def collect (table : String) (whole : GoMap Json) (step : PatchStep) : GoMap Json :=
  whole.set (trimPrefix step.path ("/" ++ table ++ "/")) (step.value.getD .null)

def wholeTable (table : String) (patch : List PatchStep) : GoMap Json :=
  (patch.filter (belowTable table)).foldl (collect table) []

-- The patch that is submitted.
def promote (db : Doc) (patch : List PatchStep) : List PatchStep :=
  match firstMissing db patch with
  | none => patch
  | some table =>
      { op := "add", path := "/" ++ table, value := some (.obj (wholeTable table patch)) } ::
        patch.filter fun step => !belowTable table step

end Code

section Meaning

def withTable (doc : Doc) (table : String) : Doc := if tableExists doc table then doc else put [table] (.obj []) doc

-- Each missing parent table exists and is empty.
def prepared (db : Doc) (patch : List PatchStep) : Doc := (patch.filterMap parentTable).foldl withTable db

def AddsTable (table : String) (step : PatchStep) : Prop := step.op = "add" ∧ pointerTokens step.path = some [table]

-- A table below which something is added is in the database, or an earlier step adds it.
def NoOrphan (db : Doc) (submitted : List PatchStep) : Prop :=
  ∀ before step after table, submitted = before ++ step :: after → parentTable step = some table →
    tableExists db table = true ∨ ∃ earlier ∈ before, AddsTable table earlier

structure Preserved (db : Doc) (patch : List PatchStep) : Prop where
  same : applyPatch (promote db patch) db = applyPatch patch (prepared db patch)
  noOrphan : NoOrphan db (promote db patch)

end Meaning

section Paths

-- The path of a table, a row or a field: no empty piece, and no escape in the table's name.
structure ConfigPath (path : String) (table : List Char) (rest : List (List Char)) : Prop where
  pieces : splitChars '/' path.toList = [] :: table :: rest
  named : ∀ piece ∈ table :: rest, piece ≠ []
  plain : '~' ∉ table
  depth : rest.length ≤ 2

structure ConfigStep (step : PatchStep) : Prop where
  known : step.op ∈ ["add", "replace", "remove"]
  path : ∃ table rest, ConfigPath step.path table rest

-- The first piece of a text, and the text behind its separator.
theorem split_step (separator : Char) (text first : List Char) (others : List (List Char))
    (pieces : splitChars separator text = first :: others) :
    separator ∉ first ∧ ((others = [] ∧ text = first) ∨
      ∃ later, text = first ++ separator :: later ∧ splitChars separator later = others) := by
  induction text generalizing first others with
  | nil =>
      cases pieces
      exact ⟨List.not_mem_nil, Or.inl ⟨rfl, rfl⟩⟩
  | cons c rest ih =>
      rw [splitChars] at pieces
      cases split : splitChars separator rest with
      | nil => exact absurd (split_chars_list separator rest ▸ split) (List.splitOn_ne_nil separator rest)
      | cons field fields =>
          rw [split] at pieces
          dsimp only at pieces
          by_cases here : c = separator
          · rw [if_pos here] at pieces
            cases pieces
            exact ⟨List.not_mem_nil, Or.inr ⟨rest, by rw [here]; rfl, split⟩⟩
          · rw [if_neg here] at pieces
            cases pieces
            obtain ⟨free, shape⟩ := ih field others split
            refine ⟨fun member => (List.mem_cons.mp member).elim (fun same => here same.symm) free, ?_⟩
            cases shape with
            | inl whole => exact Or.inl ⟨whole.1, by rw [whole.2]⟩
            | inr longer =>
                obtain ⟨later, text, behind⟩ := longer
                exact Or.inr ⟨later, by rw [text]; rfl, behind⟩

theorem unescape_plain (text : List Char) (plain : '~' ∉ text) : unescape text = text := by
  induction text with
  | nil => rfl
  | cons c rest ih =>
      have other : c ≠ '~' := fun same => plain (same ▸ List.mem_cons_self)
      rw [unescape.eq_3 c rest (fun _ same _ => other same) (fun _ same _ => other same),
        ih fun member => plain (List.mem_cons_of_mem c member)]

-- An escape makes a text longer than what it stands for.
theorem unescape_shorter (text : List Char) : unescape text = text ∨ (unescape text).length < text.length := by
  fun_induction unescape text with
  | case1 rest ih =>
      refine Or.inr ?_
      have bound : (unescape rest).length ≤ rest.length := ih.elim (fun same => by rw [same]) Nat.le_of_lt
      simp only [List.length_cons]
      omega
  | case2 rest ih =>
      refine Or.inr ?_
      have bound : (unescape rest).length ≤ rest.length := ih.elim (fun same => by rw [same]) Nat.le_of_lt
      simp only [List.length_cons]
      omega
  | case3 c rest _ _ ih =>
      cases ih with
      | inl same => exact Or.inl (by rw [same])
      | inr less => exact Or.inr (Nat.succ_lt_succ less)
  | case4 => exact Or.inl rfl

variable (path : String) (table : List Char) (rest : List (List Char)) (config : ConfigPath path table rest)
include config

theorem config_text : '/' ∉ table ∧ ∃ more, path.toList = '/' :: more ∧ splitChars '/' more = table :: rest ∧
    ((rest = [] ∧ more = table) ∨ ∃ below, more = table ++ '/' :: below ∧ splitChars '/' below = rest) := by
  obtain ⟨_, shape⟩ := split_step '/' path.toList [] (table :: rest) config.pieces
  cases shape with
  | inl none => exact absurd none.1 (List.cons_ne_nil _ _)
  | inr behind =>
      obtain ⟨more, text, pieces⟩ := behind
      obtain ⟨free, inner⟩ := split_step '/' more table rest pieces
      exact ⟨free, more, text, pieces, inner⟩

theorem config_tokens : pointerTokens path = some (String.ofList table :: rest.map fun piece => String.ofList (unescape piece)) := by
  rw [pointerTokens, config.pieces]
  dsimp only
  rw [List.map_cons, unescape_plain table config.plain]

theorem config_trimmed (more : List Char) (text : path.toList = '/' :: more) (pieces : splitChars '/' more = table :: rest) :
    trimChars (· = '/') path.toList = more := by
  have head : more.dropWhile (· = '/') = more := by
    cases more with
    | nil =>
        have none : table = [] := (List.head_eq_of_cons_eq pieces).symm
        exact absurd none (config.named table List.mem_cons_self)
    | cons c later =>
        refine List.dropWhile_cons_of_neg ?_
        intro slash
        have empty : splitChars '/' (c :: later) = [] :: splitChars '/' later := by
          rw [of_decide_eq_true slash, ← List.nil_append ('/' :: later), split_chars_list, split_chars_list,
            List.splitOn_append_cons_self]
          rfl
        rw [empty] at pieces
        exact config.named table List.mem_cons_self (List.head_eq_of_cons_eq pieces).symm
  have last : more.reverse.dropWhile (· = '/') = more.reverse := by
    cases backwards : more.reverse with
    | nil => rfl
    | cons c earlier =>
        refine List.dropWhile_cons_of_neg ?_
        intro slash
        have shape : more = earlier.reverse ++ '/' :: [] := by
          rw [← List.reverse_reverse more, backwards, List.reverse_cons, of_decide_eq_true slash]
        rw [shape, split_last '/' earlier.reverse [] List.not_mem_nil] at pieces
        have member : [] ∈ table :: rest := pieces ▸ List.mem_append_right _ List.mem_cons_self
        exact config.named [] member rfl
  rw [trimChars, text, List.dropWhile_cons_of_pos (by decide), head, last, List.reverse_reverse]

omit config in
theorem config_leading (more : List Char) (text : path.toList = '/' :: more) :
    hasPrefix path "/" = true ∧ trimPrefix path "/" = String.ofList more := by
  have leads : hasPrefix path "/" = true := by
    rw [hasPrefix, List.isPrefixOf_iff_prefix, text]
    exact ⟨more, rfl⟩
  refine ⟨leads, ?_⟩
  rw [trimPrefix, if_pos leads, text]
  rfl

-- An add below a table asks for the table, and no other step does.
theorem config_parent (step : PatchStep) (same : step.path = path) :
    parentTable step = if step.op = "add" ∧ rest ≠ [] then some (String.ofList table) else none := by
  obtain ⟨_, more, text, pieces, _⟩ := config_text path table rest config
  obtain ⟨leads, trimmed⟩ := config_leading path more text
  have named : String.ofList table ≠ "" := fun none =>
    config.named table List.mem_cons_self (by rw [← String.toList_ofList (l := table), none]; rfl)
  have first : (split (String.ofList more) '/').headD "" = String.ofList table := by
    rw [split, String.toList_ofList, pieces]
    rfl
  rw [parentTable, same]
  by_cases add : step.op = "add"
  · rw [if_neg (by simp [add, leads]), trimmed]
    dsimp only
    rw [first, if_neg named, config_trimmed path table rest config more text pieces, pieces, List.length_cons]
    by_cases whole : rest = []
    · simp [whole]
    · have deep : ¬ rest.length + 1 < 2 := by
        have positive := List.length_pos_of_ne_nil whole
        omega
      rw [if_neg deep, if_pos ⟨add, whole⟩]
  · rw [if_pos (Or.inl add), if_neg fun both => add both.1]

-- What is collected for a table are the adds below it.
theorem config_below (step : PatchStep) (same : step.path = path) (name : List Char) (free : '/' ∉ name) :
    belowTable (String.ofList name) step = true ↔ step.op = "add" ∧ table = name ∧ rest ≠ [] := by
  obtain ⟨tableFree, more, text, _, shape⟩ := config_text path table rest config
  have starts : hasPrefix path ("/" ++ String.ofList name ++ "/") = true ↔ name ++ ['/'] <+: more := by
    have label : ("/" ++ String.ofList name ++ "/").toList = '/' :: (name ++ ['/']) := by
      rw [String.toList_append, String.toList_append, String.toList_ofList (l := name)]
      rfl
    rw [hasPrefix, List.isPrefixOf_iff_prefix, text, label]
    exact List.cons_prefix_cons.trans (and_iff_right rfl)
  rw [belowTable, same, Bool.and_eq_true, decide_eq_true_eq, starts]
  refine and_congr_right fun _ => ?_
  cases shape with
  | inl whole =>
      rw [whole.1, whole.2]
      refine ⟨fun ⟨after, found⟩ => ?_, fun both => absurd rfl both.2⟩
      have slash : '/' ∈ table := by
        rw [← found]
        simp
      exact absurd slash tableFree
  | inr below =>
      obtain ⟨behind, text', pieces⟩ := below
      have more' : rest ≠ [] := by
        rw [← pieces, split_chars_list]
        exact List.splitOn_ne_nil _ _
      rw [text']
      refine ⟨fun ⟨after, found⟩ => ?_, fun both => ⟨behind, by rw [both.1, List.append_assoc]; rfl⟩⟩
      rw [List.append_assoc, List.singleton_append] at found
      exact ⟨(cut_unique '/' name table after behind free tableFree found).1.symm, more'⟩

-- What is collected under, text and all.
theorem config_behind (deep : rest ≠ []) :
    ∃ below, trimPrefix path ("/" ++ String.ofList table ++ "/") = String.ofList below ∧ splitChars '/' below = rest := by
  obtain ⟨_, more, text, _, shape⟩ := config_text path table rest config
  cases shape with
  | inl whole => exact absurd whole.1 deep
  | inr inner =>
      obtain ⟨below, text', pieces⟩ := inner
      have whole : path.toList = ("/" ++ String.ofList table ++ "/").toList ++ below := by
        rw [text, text', String.toList_append, String.toList_append, String.toList_ofList]
        simp
      have leads : hasPrefix path ("/" ++ String.ofList table ++ "/") = true := by
        rw [hasPrefix, List.isPrefixOf_iff_prefix, whole]
        exact List.prefix_append _ _
      exact ⟨below, by rw [trimPrefix, if_pos leads, whole, List.drop_left], pieces⟩

end Paths

end AgenticNetops.FabricExecutor
