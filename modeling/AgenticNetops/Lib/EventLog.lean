import Mathlib.Data.List.Basic

set_option autoImplicit false

/- Logs that only grow: what has happened since a mark, the last thing of a kind, and
   what holds of the entries by what stands before them. -/
namespace EventLog

variable {α β : Type}

section Since
variable (mark : α → Bool)

-- The entries behind the last mark.
def since : List α → List α
  | [] => []
  | entry :: rest => if rest.any mark then since rest else if mark entry then rest else entry :: rest

theorem since_unmarked (log : List α) (unmarked : ∀ entry ∈ log, mark entry = false) : since mark log = log := by
  cases log with
  | nil => rfl
  | cons entry rest =>
      have none : rest.any mark = false := List.any_eq_false.mpr (fun later member => by
        simp [unmarked later (List.mem_cons_of_mem entry member)])
      simp [since, none, unmarked entry (List.mem_cons_self ..)]

theorem since_append (log events : List α) (unmarked : ∀ entry ∈ events, mark entry = false) :
    since mark (log ++ events) = since mark log ++ events := by
  have none : events.any mark = false := List.any_eq_false.mpr (fun entry member => by simp [unmarked entry member])
  induction log with
  | nil => exact since_unmarked mark events unmarked
  | cons entry rest ih =>
      simp only [List.cons_append, since, List.any_append, none, Bool.or_false]
      by_cases later : rest.any mark = true
      · rw [if_pos later, if_pos later, ih]
      · rw [if_neg later, if_neg later]
        by_cases here : mark entry = true
        · rw [if_pos here, if_pos here]
        · rw [if_neg here, if_neg here]
          rfl

end Since

section Latest
variable (pick : α → Option β)

def latest (log : List α) : Option β := log.foldl (fun found entry => (pick entry).or found) none

theorem latest_snoc (log : List α) (entry : α) :
    latest pick (log ++ [entry]) = (pick entry).or (latest pick log) := by
  simp [latest, List.foldl_append]

theorem latest_append_none (log events : List α) (silent : ∀ entry ∈ events, pick entry = none) :
    latest pick (log ++ events) = latest pick log := by
  induction events generalizing log with
  | nil => rw [List.append_nil]
  | cons entry rest ih =>
      have tail : ∀ later ∈ rest, pick later = none := fun later member => silent later (List.mem_cons_of_mem entry member)
      rw [List.append_cons, ih (log ++ [entry]) tail, latest_snoc, silent entry (List.mem_cons_self ..), Option.none_or]

-- Where every entry that is picked at all gives one value, and some entry is.
theorem latest_append_found (log events : List α) (value : β)
    (only : ∀ entry ∈ events, pick entry = none ∨ pick entry = some value) (some' : ∃ entry ∈ events, pick entry = some value) :
    latest pick (log ++ events) = some value := by
  induction events generalizing log with
  | nil => exact absurd some' (by simp)
  | cons entry rest ih =>
      have tail : ∀ later ∈ rest, pick later = none ∨ pick later = some value := fun later member =>
        only later (List.mem_cons_of_mem entry member)
      rw [List.append_cons]
      by_cases later : ∃ found ∈ rest, pick found = some value
      · exact ih (log ++ [entry]) tail later
      · have silent : ∀ found ∈ rest, pick found = none := fun found member =>
          (tail found member).resolve_right fun picked => later ⟨found, member, picked⟩
        obtain ⟨found, member, picked⟩ := some'
        have here : found = entry := (List.mem_cons.mp member).resolve_right fun behind => later ⟨found, behind, picked⟩
        rw [latest_append_none pick _ rest silent, latest_snoc, ← here, picked, Option.some_or]

end Latest

-- Every entry is justified by what stands before it.
def Each (holds : List α → α → Prop) (log : List α) : Prop :=
  ∀ before entry after, log = before ++ entry :: after → holds before entry

theorem each_nil (holds : List α → α → Prop) : Each holds [] := by
  intro before entry after same
  cases before <;> cases same

theorem each_append (holds : List α → α → Prop) (log events : List α) (earlier : Each holds log)
    (fresh : ∀ before entry after, events = before ++ entry :: after → holds (log ++ before) entry) :
    Each holds (log ++ events) := by
  intro before entry after same
  cases List.append_eq_append_iff.mp same with
  | inl inside =>
      obtain ⟨middle, front, back⟩ := inside
      rw [front]
      exact fresh middle entry after back
  | inr across =>
      obtain ⟨middle, front, back⟩ := across
      cases middle with
      | nil =>
          rw [List.append_nil] at front
          rw [← front, ← List.append_nil log]
          exact fresh [] entry after back.symm
      | cons head rest =>
          have sameEntry : entry = head := (List.cons.inj back).1
          subst sameEntry
          exact earlier before entry rest front

-- Every two entries in a row fit, by what stands before them.
def Successive (holds : List α → α → α → Prop) (log : List α) : Prop :=
  ∀ before first second after, log = before ++ first :: second :: after → holds before first second

theorem successive_nil (holds : List α → α → α → Prop) : Successive holds [] := by
  intro before first second after same
  cases before <;> cases same

theorem successive_append (holds : List α → α → α → Prop) (log events : List α) (earlier : Successive holds log)
    (joint : ∀ before first second rest, log = before ++ [first] → events = second :: rest → holds before first second)
    (inner : ∀ before first second rest, events = before ++ first :: second :: rest → holds (log ++ before) first second) :
    Successive holds (log ++ events) := by
  intro before first second after same
  cases List.append_eq_append_iff.mp same with
  | inl inside =>
      obtain ⟨middle, front, back⟩ := inside
      rw [front]
      exact inner middle first second after back
  | inr across =>
      obtain ⟨middle, front, back⟩ := across
      cases middle with
      | nil =>
          rw [List.append_nil] at front
          rw [← front, ← List.append_nil log]
          exact inner [] first second after back.symm
      | cons head rest =>
          have sameFirst : first = head := (List.cons.inj back).1
          have tail : second :: after = rest ++ events := (List.cons.inj back).2
          subst sameFirst
          cases rest with
          | nil => exact joint before first second after front tail.symm
          | cons next rest =>
              have sameSecond : second = next := (List.cons.inj tail).1
              subst sameSecond
              exact earlier before first second rest front

end EventLog
