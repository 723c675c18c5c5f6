import Mathlib.Data.List.Basic
import Mathlib.Data.Option.Basic

set_option autoImplicit false

/- State kept as rows under keys, changed by acts that each write one row or
   erase a family of rows. `outcome acts key` is what a sequence of acts decides
   about one key on its own: nothing, that the row is erased, or its value. Every
   question about a sequence of acts is answered key by key through it. -/
namespace KeyedRows

variable {K V : Type} [DecidableEq K]

abbrev Rows (K V : Type) := K → Option V

inductive Act (K V : Type) where
  | write (key : K) (value : V)
  | erase (covers : K → Bool)

def Act.run (rows : Rows K V) : Act K V → Rows K V
  | .write key value => fun k => if k = key then some value else rows k
  | .erase covers => fun k => if covers k then none else rows k

def run (acts : List (Act K V)) (rows : Rows K V) : Rows K V := acts.foldl Act.run rows

def Act.decides (k : K) : Act K V → Option (Option V)
  | .write key value => if k = key then some (some value) else none
  | .erase covers => if covers k then some none else none

def outcome (acts : List (Act K V)) (k : K) : Option (Option V) :=
  match acts with
  | [] => none
  | act :: rest => (outcome rest k).or (act.decides k)

theorem run_nil (rows : Rows K V) : run [] rows = rows := rfl

theorem run_append (first second : List (Act K V)) (rows : Rows K V) :
    run (first ++ second) rows = run second (run first rows) := by
  simp [run, List.foldl_append]

theorem act_run_apply (act : Act K V) (rows : Rows K V) (k : K) :
    act.run rows k = (act.decides k).getD (rows k) := by
  cases act with
  | write key value => by_cases same : k = key <;> simp [Act.run, Act.decides, same]
  | erase covers => by_cases covered : covers k <;> simp [Act.run, Act.decides, covered]

theorem run_apply (acts : List (Act K V)) (rows : Rows K V) (k : K) :
    run acts rows k = (outcome acts k).getD (rows k) := by
  induction acts generalizing rows with
  | nil => rfl
  | cons act rest ih =>
      have step : run (act :: rest) rows k = (outcome rest k).getD (act.run rows k) := ih (act.run rows)
      rw [step, act_run_apply, outcome]
      cases outcome rest k <;> rfl

theorem outcome_append (first second : List (Act K V)) (k : K) :
    outcome (first ++ second) k = (outcome second k).or (outcome first k) := by
  induction first with
  | nil => simp [outcome]
  | cons act rest ih => rw [List.cons_append, outcome, ih, outcome, Option.or_assoc]

-- The last act decides: what stands before it no longer shows.
theorem outcome_concat_decided (acts : List (Act K V)) (act : Act K V) (k : K) (value : Option V)
    (decided : act.decides k = some value) : outcome (acts ++ [act]) k = some value := by
  simp [outcome_append, outcome, decided]

-- A key that no act decides keeps its row.
theorem outcome_untouched (acts : List (Act K V)) (k : K) (untouched : ∀ act ∈ acts, act.decides k = none) :
    outcome acts k = none := by
  induction acts with
  | nil => rfl
  | cons act rest ih =>
      rw [outcome, ih fun other member => untouched other (List.mem_cons_of_mem act member),
        untouched act List.mem_cons_self]
      rfl

theorem run_untouched (acts : List (Act K V)) (rows : Rows K V) (k : K)
    (untouched : ∀ act ∈ acts, act.decides k = none) : run acts rows k = rows k := by
  rw [run_apply, outcome_untouched acts k untouched]
  rfl

-- A write whose key nothing after it decides is there at the end.
theorem outcome_of_write (before after : List (Act K V)) (key : K) (value : V)
    (untouched : ∀ act ∈ after, act.decides key = none) :
    outcome (before ++ .write key value :: after) key = some (some value) := by
  rw [outcome_append, outcome, outcome_untouched after key untouched]
  simp [Act.decides]

-- A present row stays present unless some act erases it.
theorem present_kept (acts : List (Act K V)) (rows : Rows K V) (k : K) (present : rows k ≠ none)
    (kept : ∀ act ∈ acts, act.decides k ≠ some none) : run acts rows k ≠ none := by
  induction acts generalizing rows with
  | nil => exact present
  | cons act rest ih =>
      refine ih (act.run rows) ?_ fun other member => kept other (List.mem_cons_of_mem act member)
      rw [act_run_apply]
      have notErased := kept act List.mem_cons_self
      cases decided : act.decides k with
      | none => exact present
      | some result =>
          cases result with
          | none => exact absurd decided notErased
          | some value => simp

-- A written row is present at the end when no act erases its key.
theorem write_present (acts : List (Act K V)) (rows : Rows K V) (k : K) (value : V) (member : Act.write k value ∈ acts)
    (kept : ∀ act ∈ acts, act.decides k ≠ some none) : run acts rows k ≠ none := by
  obtain ⟨before, after, rfl⟩ := List.append_of_mem member
  have here : run (before ++ [.write k value]) rows k ≠ none := by
    simp [run, Act.run]
  have rest := present_kept after (run (before ++ [.write k value]) rows) k here
    fun act later => kept act (List.mem_append_right before (List.mem_cons_of_mem _ later))
  rwa [← run_append, List.append_assoc, List.singleton_append] at rest

theorem outcome_none_iff (acts : List (Act K V)) (k : K) : outcome acts k = none ↔ ∀ act ∈ acts, act.decides k = none := by
  constructor
  · intro undecided
    induction acts with
    | nil => simp
    | cons act rest ih =>
        rw [outcome, Option.or_eq_none_iff] at undecided
        intro other member
        rcases List.mem_cons.mp member with here | later
        · rw [here]
          exact undecided.2
        · exact ih undecided.1 other later
  · exact outcome_untouched acts k

-- The acts leave the row under a key as it is: what they decide is what it holds.
def Keeps (acts : List (Act K V)) (rows : Rows K V) (k : K) : Prop := ∀ value, outcome acts k = some value → rows k = value

theorem run_keeps_iff (acts : List (Act K V)) (rows : Rows K V) (k : K) : run acts rows k = rows k ↔ Keeps acts rows k := by
  rw [run_apply, Keeps]
  cases outcome acts k with
  | none => simp
  | some value => simp [eq_comm]

theorem run_again (acts : List (Act K V)) (rows : Rows K V) : run acts (run acts rows) = run acts rows := by
  funext k
  rw [run_apply, run_apply]
  cases outcome acts k <;> rfl

-- Acts that only erase: what they decide about a key is that its row goes.
def OnlyErases (acts : List (Act K V)) : Prop := ∀ act ∈ acts, ∀ key value, act ≠ .write key value

theorem outcome_only_erases (acts : List (Act K V)) (only : OnlyErases acts) (k : K) (value : Option V)
    (decided : outcome acts k = some value) : value = none := by
  induction acts with
  | nil => simp [outcome] at decided
  | cons act rest ih =>
      have later : OnlyErases rest := fun other member => only other (List.mem_cons_of_mem act member)
      cases rested : outcome rest k with
      | some result =>
          rw [outcome, rested] at decided
          exact ih later (rested.trans decided)
      | none =>
          rw [outcome, rested, Option.none_or] at decided
          cases act with
          | write key stored => exact absurd rfl (only (.write key stored) List.mem_cons_self key stored)
          | erase covers => by_cases covered : covers k <;> simp [Act.decides, covered] at decided; exact decided.symm

omit [DecidableEq K] in
theorem only_erases_part (acts part : List (Act K V)) (only : OnlyErases acts) (inside : ∀ act ∈ part, act ∈ acts) :
    OnlyErases part := fun act member => only act (inside act member)

theorem outcome_none_part (acts part : List (Act K V)) (inside : ∀ act ∈ part, act ∈ acts) (k : K)
    (undecided : outcome acts k = none) : outcome part k = none :=
  outcome_untouched part k fun act member => (outcome_none_iff acts k).mp undecided act (inside act member)

/- Erasing and then writing leaves a row as it is when the writes keep it, and when
   what the erasing took and the writes did not bring back was not there. -/
theorem erase_write_keeps_iff (erasing writing : List (Act K V)) (only : OnlyErases erasing) (rows : Rows K V) (k : K) :
    run (erasing ++ writing) rows k = rows k ↔
      Keeps writing rows k ∧ (outcome writing k = none → outcome erasing k ≠ none → rows k = none) := by
  rw [run_keeps_iff, Keeps, Keeps, outcome_append]
  cases written : outcome writing k with
  | some value => simp
  | none =>
      cases erased : outcome erasing k with
      | none => simp
      | some value =>
          have gone := outcome_only_erases erasing only k value erased
          simp [gone]

/- Undoing and redoing an old list of acts after a new one has run: the old rows are
   back, and any other row is as before when the undo took only absent ones and the
   new acts kept what the undo does not reach. -/
theorem undo_redo_keeps_iff (taken fresh undo redo : List (Act K V)) (only : OnlyErases undo)
    (inside : ∀ act ∈ taken, act ∈ undo) (rows : Rows K V) (k : K) (settled : run redo rows k = rows k) :
    run (taken ++ fresh ++ undo ++ redo) rows k = rows k ↔
      (outcome redo k = none →
        (outcome undo k ≠ none → rows k = none) ∧ (outcome undo k = none → Keeps fresh rows k)) := by
  rw [run_keeps_iff] at settled
  rw [run_keeps_iff, Keeps, outcome_append, outcome_append, outcome_append]
  cases redone : outcome redo k with
  | some value =>
      have held := settled value redone
      simp [held]
  | none =>
      cases undone : outcome undo k with
      | some value =>
          have gone := outcome_only_erases undo only k value undone
          simp [gone]
      | none =>
          rw [outcome_none_part undo taken inside k undone]
          simp [Keeps]

def Written (acts : List (Act K V)) (k : K) : Prop := ∃ value, Act.write k value ∈ acts

theorem outcome_some_written (acts : List (Act K V)) (k : K) (value : V)
    (decided : outcome acts k = some (some value)) : Written acts k := by
  induction acts with
  | nil => simp [outcome] at decided
  | cons act rest ih =>
      cases later : outcome rest k with
      | some result =>
          rw [outcome, later] at decided
          obtain ⟨found, member⟩ := ih (later.trans decided)
          exact ⟨found, List.mem_cons_of_mem act member⟩
      | none =>
          rw [outcome, later, Option.none_or] at decided
          cases act with
          | write key stored =>
              by_cases same : k = key
              · subst same
                exact ⟨stored, List.mem_cons_self⟩
              · simp [Act.decides, same] at decided
          | erase covers => by_cases covered : covers k <;> simp [Act.decides, covered] at decided

end KeyedRows
