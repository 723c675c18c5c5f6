import AgenticNetops.Lib.GoText

set_option autoImplicit false

/- Lists of causes, as a validator that reports everything at once collects them: one
   cause for each condition that holds, element by element. -/
namespace Causes

open GoText

-- A cause, where its condition holds.
def causeIf (refused : Prop) [Decidable refused] (message : Message) : List Message := if refused then [message] else []

@[simp] theorem cause_if_nil_iff (refused : Prop) [Decidable refused] (message : Message) :
    causeIf refused message = [] ↔ ¬ refused := by
  by_cases holds : refused
  · simp [causeIf, holds]
  · simp [causeIf, holds]

-- No element has a cause, whatever its position.
theorem zip_causes_nil_iff {α β : Type} (causes : α × Nat → List β) (accepted : α → Prop)
    (each : ∀ a i, causes (a, i) = [] ↔ accepted a) (elements : List α) :
    elements.zipIdx.flatMap causes = [] ↔ ∀ a ∈ elements, accepted a := by
  rw [List.flatMap_eq_nil_iff]
  constructor
  · intro none a member
    obtain ⟨i, inRange, at_⟩ := List.mem_iff_getElem.mp member
    have listed : (a, i) ∈ elements.zipIdx := by
      rw [List.mk_mem_zipIdx_iff_getElem?, List.getElem?_eq_some_iff]
      exact ⟨inRange, at_⟩
    exact (each a i).mp (none (a, i) listed)
  · intro all pair member
    have listed : pair.1 ∈ elements := List.fst_mem_of_mem_zipIdx member
    exact (each pair.1 pair.2).mpr (all pair.1 listed)

section Distinct
variable {α κ ν : Type} (key : α → κ) (number : α → ν) (keyCauses : Nat → List κ → κ → List Message)
variable (numberCauses : Nat → List ν → ν → List Message) (ownCauses : Nat → α → List Message)

/- The causes of elements whose keys and numbers are to be distinct. A key or a number
   that is refused itself is in no later element's way. -/
def distinctCauses : Nat → List κ → List ν → List α → List Message
  | _, _, _, [] => []
  | i, keys, numbers, a :: rest =>
      let seenKeys := if keyCauses i keys (key a) = [] then key a :: keys else keys
      let seenNumbers := if numberCauses i numbers (number a) = [] then number a :: numbers else numbers
      keyCauses i keys (key a) ++ numberCauses i numbers (number a) ++ ownCauses i a ++
        distinctCauses (i + 1) seenKeys seenNumbers rest

variable (goodKey : κ → Prop) (goodNumber : ν → Prop) (goodOwn : α → Prop)

-- Nothing is refused where every element is good and no two share a key or a number.
theorem distinct_causes_nil_iff (keyRule : ∀ i seen k, keyCauses i seen k = [] ↔ goodKey k ∧ k ∉ seen)
    (numberRule : ∀ i seen n, numberCauses i seen n = [] ↔ goodNumber n ∧ n ∉ seen)
    (ownRule : ∀ i a, ownCauses i a = [] ↔ goodOwn a) (i : Nat) (keys : List κ) (numbers : List ν) (elements : List α) :
    distinctCauses key number keyCauses numberCauses ownCauses i keys numbers elements = [] ↔
      (∀ a ∈ elements, goodKey (key a) ∧ goodNumber (number a) ∧ goodOwn a ∧ key a ∉ keys ∧ number a ∉ numbers) ∧
        (elements.map key).Nodup ∧ (elements.map number).Nodup := by
  induction elements generalizing i keys numbers with
  | nil => simp [distinctCauses]
  | cons a rest ih =>
      simp only [distinctCauses, List.append_eq_nil_iff, List.forall_mem_cons, List.map_cons, List.nodup_cons]
      constructor
      · intro parts
        obtain ⟨⟨⟨keyFree, numberFree⟩, own⟩, later⟩ := parts
        rw [if_pos keyFree, if_pos numberFree, ih] at later
        obtain ⟨each, distinctKeys, distinctNumbers⟩ := later
        have keyGood := (keyRule i keys (key a)).mp keyFree
        have numberGood := (numberRule i numbers (number a)).mp numberFree
        have otherKey : key a ∉ rest.map key := by
          intro member
          obtain ⟨b, listed, same⟩ := List.mem_map.mp member
          exact (each b listed).2.2.2.1 (by rw [same]; exact List.mem_cons_self)
        have otherNumber : number a ∉ rest.map number := by
          intro member
          obtain ⟨b, listed, same⟩ := List.mem_map.mp member
          exact (each b listed).2.2.2.2 (by rw [same]; exact List.mem_cons_self)
        have remaining (b : α) (listed : b ∈ rest) :
            goodKey (key b) ∧ goodNumber (number b) ∧ goodOwn b ∧ key b ∉ keys ∧ number b ∉ numbers := by
          obtain ⟨first, second, third, fourth, fifth⟩ := each b listed
          exact ⟨first, second, third, fun old => fourth (List.mem_cons_of_mem _ old),
            fun old => fifth (List.mem_cons_of_mem _ old)⟩
        exact ⟨⟨⟨keyGood.1, numberGood.1, (ownRule i a).mp own, keyGood.2, numberGood.2⟩, remaining⟩,
          ⟨otherKey, distinctKeys⟩, ⟨otherNumber, distinctNumbers⟩⟩
      · intro parts
        obtain ⟨⟨⟨keyGood, numberGood, own, keyNew, numberNew⟩, remaining⟩, ⟨otherKey, distinctKeys⟩, otherNumber,
          distinctNumbers⟩ := parts
        have keyFree := (keyRule i keys (key a)).mpr ⟨keyGood, keyNew⟩
        have numberFree := (numberRule i numbers (number a)).mpr ⟨numberGood, numberNew⟩
        rw [if_pos keyFree, if_pos numberFree, ih]
        have each (b : α) (listed : b ∈ rest) : goodKey (key b) ∧ goodNumber (number b) ∧ goodOwn b ∧
            key b ∉ key a :: keys ∧ number b ∉ number a :: numbers := by
          obtain ⟨first, second, third, fourth, fifth⟩ := remaining b listed
          have apart : key b ≠ key a := fun same => otherKey (List.mem_map.mpr ⟨b, listed, same⟩)
          have apart' : number b ≠ number a := fun same => otherNumber (List.mem_map.mpr ⟨b, listed, same⟩)
          exact ⟨first, second, third, List.not_mem_cons_of_ne_of_not_mem apart fourth,
            List.not_mem_cons_of_ne_of_not_mem apart' fifth⟩
        exact ⟨⟨⟨keyFree, numberFree⟩, (ownRule i a).mpr own⟩, each, distinctKeys, distinctNumbers⟩

end Distinct

end Causes
