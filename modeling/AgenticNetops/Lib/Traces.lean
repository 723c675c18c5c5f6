import AgenticNetops.Lib.Exits

set_option autoImplicit false

/- Programs whose state is the list of what they have done so far. A triple speaks about
   what one program adds to the list, where it runs through and where it leaves. -/
namespace Traces

open Exits

variable {τ ε α β : Type}

-- Whatever was done before, the program adds some events and ends in one of the two ways.
def Emits (m : Prog (List τ) ε α) (post : α → List τ → Prop) (left : ε → List τ → Prop) : Prop :=
  ∀ ran, ∃ more, (m ran).1 = ran ++ more ∧
    match (m ran).2 with
    | .ok value => post value more
    | .error result => left result more

section Rules
variable (post : α → List τ → Prop) (left : ε → List τ → Prop)

theorem emits_pure (value : α) (here : post value []) : Emits (pure value : Prog (List τ) ε α) post left :=
  fun ran => ⟨[], (List.append_nil ran).symm, here⟩

theorem emits_leave (result : ε) (here : left result []) : Emits (leave result : Prog (List τ) ε α) post left :=
  fun ran => ⟨[], (List.append_nil ran).symm, here⟩

theorem emits_bind (m : Prog (List τ) ε α) (f : α → Prog (List τ) ε β) (mid : α → List τ → Prop) (last : β → List τ → Prop)
    (first : Emits m mid left)
    (rest : ∀ value more, mid value more →
      Emits (f value) (fun b later => last b (more ++ later)) (fun result later => left result (more ++ later))) :
    Emits (m >>= f) last left := by
  intro ran
  obtain ⟨more, added, reached⟩ := first ran
  rw [bind_run]
  cases outcome : m ran with
  | mk ran' result =>
      rw [outcome] at added reached
      cases result with
      | error result => exact ⟨more, added, reached⟩
      | ok value =>
          obtain ⟨later, addedLater, reachedLater⟩ := rest value more reached ran'
          have added : ran' = ran ++ more := added
          exact ⟨more ++ later, by rw [addedLater, added, List.append_assoc], reachedLater⟩

theorem emits_weaken (m : Prog (List τ) ε α) (weaker : α → List τ → Prop) (weakerLeft : ε → List τ → Prop)
    (held : Emits m post left) (through : ∀ value more, post value more → weaker value more)
    (out : ∀ result more, left result more → weakerLeft result more) : Emits m weaker weakerLeft := by
  intro ran
  obtain ⟨more, added, reached⟩ := held ran
  refine ⟨more, added, ?_⟩
  cases outcome : (m ran).2 with
  | ok value =>
      rw [outcome] at reached
      exact through value more reached
  | error result =>
      rw [outcome] at reached
      exact out result more reached

theorem emits_ite (choice : Prop) [Decidable choice] (m n : Prog (List τ) ε α) (yes : choice → Emits m post left)
    (no : ¬ choice → Emits n post left) : Emits (if choice then m else n) post left := by
  by_cases taken : choice
  · rw [if_pos taken]
    exact yes taken
  · rw [if_neg taken]
    exact no taken

end Rules

/- Every event that the program adds is an allowed one, whichever way it ends. -/
def Stays (allowed : τ → Prop) (m : Prog (List τ) ε α) : Prop :=
  Emits m (fun _ more => ∀ event ∈ more, allowed event) (fun _ more => ∀ event ∈ more, allowed event)

section Staying
variable (allowed : τ → Prop)

theorem stays_pure (value : α) : Stays allowed (pure value : Prog (List τ) ε α) :=
  emits_pure _ _ value fun _ member => absurd member List.not_mem_nil

theorem stays_leave (result : ε) : Stays allowed (leave result : Prog (List τ) ε α) :=
  emits_leave _ _ result fun _ member => absurd member List.not_mem_nil

theorem stays_bind (m : Prog (List τ) ε α) (f : α → Prog (List τ) ε β) (first : Stays allowed m)
    (rest : ∀ value, Stays allowed (f value)) : Stays allowed (m >>= f) := by
  have both : ∀ more later : List τ, (∀ event ∈ more, allowed event) → (∀ event ∈ later, allowed event) →
      ∀ event ∈ more ++ later, allowed event := by
    intro more later before after event member
    cases List.mem_append.mp member with
    | inl earlier => exact before event earlier
    | inr behind => exact after event behind
  apply emits_bind _ m f _ _ first
  intro value more before
  exact emits_weaken _ _ _ _ _ (rest value) (fun _ later after => both more later before after)
    (fun _ later after => both more later before after)

end Staying

-- Nothing is done behind an event that failed.
def Halting (failed : τ → Prop) (more : List τ) : Prop := ∀ event ∈ more.dropLast, ¬ failed event

section Halting
variable (failed : τ → Prop)

theorem halting_nil : Halting failed [] := fun _ member => absurd member List.not_mem_nil

theorem halting_one (event : τ) : Halting failed [event] := fun _ member => absurd member List.not_mem_nil

theorem halting_append (more later : List τ) (through : ∀ event ∈ more, ¬ failed event) (halting : Halting failed later) :
    Halting failed (more ++ later) := by
  intro event member
  cases later with
  | nil =>
      rw [List.append_nil] at member
      exact through event (List.dropLast_subset more member)
  | cons first rest =>
      rw [List.dropLast_append_cons] at member
      cases List.mem_append.mp member with
      | inl before => exact through event before
      | inr behind => exact halting event behind

end Halting

/- What is added obeys a protocol: an observer that follows it from a state of the one kind
   gets through, to a state of a kind that goes with the end that the program came to. -/
section Protocol
variable {σ : Type} (next : σ → τ → Option σ)

def followed (events : List τ) (state : σ) : Option σ := events.foldlM next state

theorem followed_append (before after : List τ) (state : σ) :
    followed next (before ++ after) state = (followed next before state).bind (followed next after) :=
  List.foldlM_append

def Obeys (from' : σ → Prop) (m : Prog (List τ) ε α) (reach : α → σ → Prop) (left : σ → Prop) : Prop :=
  ∀ state, from' state → Emits m
    (fun value more => ∃ later, followed next more state = some later ∧ reach value later)
    (fun _ more => ∃ later, followed next more state = some later ∧ left later)

def emit (event : τ) : Prog (List τ) ε Unit := fun ran => (ran ++ [event], .ok ())

variable (from' left : σ → Prop) (reach : α → σ → Prop)

theorem obeys_pure (value : α) (here : ∀ state, from' state → reach value state) :
    Obeys next from' (pure value : Prog (List τ) ε α) reach left := by
  intro state given
  exact emits_pure _ _ value ⟨state, rfl, here state given⟩

theorem obeys_leave (result : ε) (here : ∀ state, from' state → left state) :
    Obeys next from' (leave result : Prog (List τ) ε α) reach left := by
  intro state given
  exact emits_leave _ _ result ⟨state, rfl, here state given⟩

theorem obeys_emit (event : τ) (last : σ → Prop)
    (heard : ∀ state, from' state → ∃ later, next state event = some later ∧ last later) :
    Obeys next from' (emit event : Prog (List τ) ε Unit) (fun _ => last) left := by
  intro state given ran
  obtain ⟨later, here, reached⟩ := heard state given
  refine ⟨[event], rfl, later, ?_, reached⟩
  rw [followed, List.foldlM_cons, here]
  rfl

theorem obeys_bind (m : Prog (List τ) ε α) (f : α → Prog (List τ) ε β) (last : β → σ → Prop)
    (first : Obeys next from' m reach left) (rest : ∀ value, Obeys next (reach value) (f value) last left) :
    Obeys next from' (m >>= f) last left := by
  intro state given
  apply emits_bind _ m f _ _ (first state given)
  intro value more reached
  obtain ⟨mid, heard, here⟩ := reached
  have onward : ∀ later, followed next (more ++ later) state = followed next later mid := by
    intro later
    rw [followed_append, heard]
    rfl
  apply emits_weaken _ _ _ _ _ (rest value mid here)
  · intro b later told
    obtain ⟨end', told, held⟩ := told
    exact ⟨end', (onward later).trans told, held⟩
  · intro result later told
    obtain ⟨end', told, held⟩ := told
    exact ⟨end', (onward later).trans told, held⟩

theorem obeys_ite (choice : Prop) [Decidable choice] (m n : Prog (List τ) ε α) (yes : choice → Obeys next from' m reach left)
    (no : ¬ choice → Obeys next from' n reach left) : Obeys next from' (if choice then m else n) reach left := by
  intro state given
  exact emits_ite _ _ choice m n (fun taken => yes taken state given) (fun other => no other state given)

theorem obeys_weaken (m : Prog (List τ) ε α) (stronger weakerLeft : σ → Prop) (weaker : α → σ → Prop)
    (obeys : Obeys next from' m reach left) (start : ∀ state, stronger state → from' state)
    (through : ∀ value state, reach value state → weaker value state)
    (out : ∀ state, left state → weakerLeft state) : Obeys next stronger m weaker weakerLeft := by
  intro state given
  apply emits_weaken _ _ _ _ _ (obeys state (start state given))
  · intro value more told
    obtain ⟨later, told, held⟩ := told
    exact ⟨later, told, through value later held⟩
  · intro result more told
    obtain ⟨later, told, held⟩ := told
    exact ⟨later, told, out later held⟩

end Protocol

end Traces
