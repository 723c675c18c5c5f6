import AgenticNetops.Lib.KeyedAppend
import AgenticNetops.Migration.Input
import AgenticNetops.FabricExecutor.Apply

set_option autoImplicit false

/- The three readings of a site's names: the inventory that a request is checked against, the
   ports of the renderer and the nodes of the executor. A name that the site does not declare
   is read as the first declared key of its spelling. -/
namespace AgenticNetops.Migration

open GoText KeyedAppend Fabricplan FabricExecutor

section Resolution
variable (m : GoMap String) (name : String)

-- A key without a value is not declared.
def DeclaredKey (key : String) : Prop := GoMap.text m key ≠ ""

instance (key : String) : Decidable (DeclaredKey m key) := inferInstanceAs (Decidable (GoMap.text m key ≠ ""))

-- The inventory's names, of a map that the environment gave.
def keysOfJSONMap : List String := sortStrings (m.keys.filter fun key => GoMap.text m key ≠ "")

structure FirstSpelling (key : String) : Prop where
  declared : DeclaredKey m key
  spelled : normalizePortKey key = normalizePortKey name
  first : ∀ other, DeclaredKey m other → normalizePortKey other = normalizePortKey name → key ≤ other

def ResolvesTo (key : String) : Prop := (DeclaredKey m name ∧ key = name) ∨ (¬ DeclaredKey m name ∧ FirstSpelling m name key)

theorem declared_key_listed (key : String) (declared : DeclaredKey m key) : key ∈ m.keys := by
  cases held : m.get? key with
  | none =>
      have missing : m.lookup key = none := held
      rw [DeclaredKey, GoMap.text, missing] at declared
      exact absurd rfl declared
  | some value => exact (keys_mem_iff m key).mpr ⟨value, held⟩

theorem known_iff (key : String) : key ∈ PortMapper.known m ↔ DeclaredKey m key := by
  rw [PortMapper.known, sortStrings, List.mem_insertionSort, List.mem_filter, decide_eq_true_iff]
  exact ⟨fun parts => parts.2, fun declared => ⟨declared_key_listed m key declared, declared⟩⟩

theorem known_find_iff (key : String) :
    (PortMapper.known m).find? (fun other => normalizePortKey other = normalizePortKey name) = some key ↔ FirstSpelling m name key := by
  have listed (other : String) : other ∈ m.keys.filter (fun key => GoMap.text m key ≠ "") ↔ DeclaredKey m other := by
    rw [← known_iff, PortMapper.known, sortStrings, List.mem_insertionSort]
  rw [PortMapper.known, sort_find_iff]
  simp only [listed, decide_eq_true_iff]
  exact ⟨fun parts => ⟨parts.1, parts.2.1, parts.2.2⟩, fun first => ⟨first.declared, first.spelled, first.first⟩⟩

theorem port_iff (value : String) : PortMapper.port m name = .ok value ↔ ∃ key, ResolvesTo m name key ∧ value = GoMap.text m key := by
  rw [PortMapper.port]
  by_cases declared : DeclaredKey m name
  · rw [if_pos (show GoMap.text m name ≠ "" from declared)]
    constructor
    · intro found
      exact ⟨name, Or.inl ⟨declared, rfl⟩, (Except.ok.inj found).symm⟩
    · intro resolved
      obtain ⟨key, reads, value_⟩ := resolved
      cases reads with
      | inl own => rw [value_, own.2]
      | inr other => exact absurd declared other.1
  · rw [if_neg (show ¬ GoMap.text m name ≠ "" from declared)]
    have searched := known_find_iff m name
    cases found : (PortMapper.known m).find? (fun key => normalizePortKey key = normalizePortKey name) with
    | none =>
        refine iff_of_false (fun done => ?_) (fun resolved => ?_)
        · cases done
        · obtain ⟨key, reads, _⟩ := resolved
          cases reads with
          | inl own => exact declared own.1
          | inr other =>
              have hit := (searched key).mpr other.2
              rw [found] at hit
              cases hit
    | some key =>
        have first := (searched key).mp found
        constructor
        · intro done
          exact ⟨key, Or.inr ⟨declared, first⟩, (Except.ok.inj done).symm⟩
        · intro resolved
          obtain ⟨other, reads, value_⟩ := resolved
          cases reads with
          | inl own => exact absurd own.1 declared
          | inr least =>
              have hit := (searched other).mpr least.2
              rw [found] at hit
              cases hit
              rw [value_]

theorem node_for_iff (key : String) : nodeFor m name = some key ↔ ResolvesTo m name key := by
  have searched : (m.sortedKeys.find? fun other => normalizeNode other = normalizeNode name ∧ m.text other ≠ "") = some key ↔
      FirstSpelling m name key := by
    rw [GoMap.sortedKeys, sort_find_iff]
    simp only [decide_eq_true_iff]
    constructor
    · intro parts
      obtain ⟨_, chosen, least⟩ := parts
      exact ⟨chosen.2, chosen.1, fun other declared spelled => least other (declared_key_listed m other declared) ⟨spelled, declared⟩⟩
    · intro first
      exact ⟨declared_key_listed m key first.declared, ⟨first.spelled, first.declared⟩,
        fun other _ chosen => first.first other chosen.2 chosen.1⟩
  rw [nodeFor]
  by_cases declared : DeclaredKey m name
  · rw [if_pos (show GoMap.text m name ≠ "" from declared), Option.some.injEq]
    constructor
    · intro same
      exact Or.inl ⟨declared, same.symm⟩
    · intro reads
      cases reads with
      | inl own => exact own.2.symm
      | inr other => exact absurd declared other.1
  · rw [if_neg (show ¬ GoMap.text m name ≠ "" from declared), searched]
    constructor
    · intro first
      exact Or.inr ⟨declared, first⟩
    · intro reads
      cases reads with
      | inl own => exact absurd own.1 declared
      | inr other => exact other.2

-- Some declared key is found for a name exactly when one has its spelling.
theorem resolves_iff : (∃ key, ResolvesTo m name key) ↔ ∃ key, DeclaredKey m key ∧ normalizePortKey key = normalizePortKey name := by
  constructor
  · intro resolved
    obtain ⟨key, reads⟩ := resolved
    cases reads with
    | inl own => exact ⟨name, own.1, rfl⟩
    | inr other => exact ⟨key, other.2.declared, other.2.spelled⟩
  · intro spelled
    obtain ⟨key, declared, spelling⟩ := spelled
    by_cases own : DeclaredKey m name
    · exact ⟨name, Or.inl ⟨own, rfl⟩⟩
    · have some_ : ((PortMapper.known m).find? fun other => normalizePortKey other = normalizePortKey name).isSome = true :=
        List.find?_isSome.mpr ⟨key, (known_iff m key).mpr declared, decide_eq_true spelling⟩
      obtain ⟨first, found⟩ := Option.isSome_iff_exists.mp some_
      exact ⟨first, Or.inr ⟨own, (known_find_iff m name first).mp found⟩⟩

theorem knows_iff : knows (keysOfJSONMap m) name = true ↔ ∃ key, ResolvesTo m name key := by
  have spelled (key : String) : normalizeSiteName key = normalizePortKey key := rfl
  have listed (key : String) : key ∈ keysOfJSONMap m ↔ DeclaredKey m key := known_iff m key
  rw [resolves_iff, knows, List.any_eq_true]
  simp only [listed, spelled, decide_eq_true_iff]

def crossedPorts : PortMapper := [("eth1/12", "Ethernet12"), ("eth11/2", "Ethernet112")]

end Resolution

end AgenticNetops.Migration
