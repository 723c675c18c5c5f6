import AgenticNetops.Lib.Json

set_option autoImplicit false

/- JSON patches on documents given by their paths: what one operation changes, and that two
   documents which agree where an operation looks take it alike. -/
namespace JsonPatch

open GoText JsonValue

inductive Node where
  | object
  | leaf (value : Json)
deriving DecidableEq, Repr

-- A JSON document by its paths: what stands at each of them.
abbrev Doc := List String → Option Node

def nodes : List String → Json → Option Node
  | [], .obj _ => some .object
  | [], value => some (.leaf value)
  | key :: rest, value =>
      match value.field? key with
      | some child => nodes rest child
      | none => none

def put (path : List String) (value : Json) (doc : Doc) : Doc :=
  fun p => if path.isPrefixOf p then nodes (p.drop path.length) value else doc p

def cut (path : List String) (doc : Doc) : Doc := fun p => if path.isPrefixOf p then none else doc p

-- One operation; nothing is added below what is not an object.
def applyAt (op : String) (path : List String) (value : Json) (doc : Doc) : Option Doc :=
  if op = "add" then
    if path = [] ∨ doc path.dropLast = some .object then some (put path value doc) else none
  else if doc path = none then none
  else if op = "replace" then some (put path value doc)
  else if op = "remove" then some (cut path doc)
  else none

section Frames

theorem put_other (path : List String) (value : Json) (doc : Doc) (p : List String) (outside : ¬ path <+: p) : put path value doc p = doc p := by
  rw [put, if_neg fun inside => outside (List.isPrefixOf_iff_prefix.mp inside)]

theorem put_below (path rest : List String) (value : Json) (doc : Doc) : put path value doc (path ++ rest) = nodes rest value := by
  rw [put, if_pos (List.isPrefixOf_iff_prefix.mpr (List.prefix_append path rest)), List.drop_left]

theorem cut_other (path : List String) (doc : Doc) (p : List String) (outside : ¬ path <+: p) : cut path doc p = doc p := by
  rw [cut, if_neg fun inside => outside (List.isPrefixOf_iff_prefix.mp inside)]

theorem cut_below (path rest : List String) (doc : Doc) : cut path doc (path ++ rest) = none := by
  rw [cut, if_pos (List.isPrefixOf_iff_prefix.mpr (List.prefix_append path rest))]

-- What an operation does, once it is let through: it stores a value or removes one.
theorem apply_shape (op : String) (path : List String) (value : Json) (doc made : Doc) (applied : applyAt op path value doc = some made) :
    made = put path value doc ∨ made = cut path doc := by
  rw [applyAt] at applied
  by_cases add : op = "add"
  · rw [if_pos add] at applied
    by_cases open' : path = [] ∨ doc path.dropLast = some .object
    · rw [if_pos open'] at applied
      exact Or.inl (Option.some.inj applied).symm
    · rw [if_neg open'] at applied
      cases applied
  · rw [if_neg add] at applied
    by_cases absent : doc path = none
    · rw [if_pos absent] at applied
      cases applied
    · rw [if_neg absent] at applied
      by_cases replace : op = "replace"
      · rw [if_pos replace] at applied
        exact Or.inl (Option.some.inj applied).symm
      · rw [if_neg replace] at applied
        by_cases remove : op = "remove"
        · rw [if_pos remove] at applied
          exact Or.inr (Option.some.inj applied).symm
        · rw [if_neg remove] at applied
          cases applied

-- Nothing outside its path changes.
theorem apply_other (op : String) (path : List String) (value : Json) (doc made : Doc) (applied : applyAt op path value doc = some made)
    (p : List String) (outside : ¬ path <+: p) : made p = doc p := by
  cases apply_shape op path value doc made applied with
  | inl stored => rw [stored, put_other path value doc p outside]
  | inr removed => rw [removed, cut_other path doc p outside]

theorem add_object (path : List String) (value : Json) (doc made : Doc) (applied : applyAt "add" path value doc = some made) (deep : path ≠ []) :
    doc path.dropLast = some .object ∧ made = put path value doc := by
  rw [applyAt, if_pos rfl] at applied
  by_cases open' : path = [] ∨ doc path.dropLast = some .object
  · rw [if_pos open'] at applied
    exact ⟨open'.resolve_left deep, (Option.some.inj applied).symm⟩
  · rw [if_neg open'] at applied
    cases applied

-- Two documents that agree at the path and above it take an operation alike.
theorem apply_agree (op : String) (path : List String) (value : Json) (doc other : Doc)
    (above : other path.dropLast = doc path.dropLast) (here : op = "add" ∨ other path = doc path) :
    (applyAt op path value doc = none ∧ applyAt op path value other = none) ∨
      ∃ made made', applyAt op path value doc = some made ∧ applyAt op path value other = some made' ∧
        ∀ p, (path <+: p ∨ other p = doc p) → made' p = made p := by
  have stored : ∀ p, (path <+: p ∨ other p = doc p) → put path value other p = put path value doc p := by
    intro p agrees
    by_cases inside : path <+: p
    · obtain ⟨rest, shape⟩ := inside
      rw [← shape, put_below, put_below]
    · rw [put_other path value other p inside, put_other path value doc p inside, agrees.resolve_left inside]
  have removed : ∀ p, (path <+: p ∨ other p = doc p) → cut path other p = cut path doc p := by
    intro p agrees
    by_cases inside : path <+: p
    · obtain ⟨rest, shape⟩ := inside
      rw [← shape, cut_below, cut_below]
    · rw [cut_other path other p inside, cut_other path doc p inside, agrees.resolve_left inside]
  rw [applyAt, applyAt, above]
  by_cases add : op = "add"
  · rw [if_pos add, if_pos add]
    by_cases open' : path = [] ∨ doc path.dropLast = some .object
    · rw [if_pos open', if_pos open']
      exact Or.inr ⟨_, _, rfl, rfl, stored⟩
    · rw [if_neg open', if_neg open']
      exact Or.inl ⟨rfl, rfl⟩
  · rw [if_neg add, if_neg add, here.resolve_left add]
    by_cases absent : doc path = none
    · rw [if_pos absent, if_pos absent]
      exact Or.inl ⟨rfl, rfl⟩
    · rw [if_neg absent, if_neg absent]
      by_cases replace : op = "replace"
      · rw [if_pos replace, if_pos replace]
        exact Or.inr ⟨_, _, rfl, rfl, stored⟩
      · rw [if_neg replace, if_neg replace]
        by_cases remove : op = "remove"
        · rw [if_pos remove, if_pos remove]
          exact Or.inr ⟨_, _, rfl, rfl, removed⟩
        · rw [if_neg remove, if_neg remove]
          exact Or.inl ⟨rfl, rfl⟩

end Frames

end JsonPatch
