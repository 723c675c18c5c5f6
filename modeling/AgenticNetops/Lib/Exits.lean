import Mathlib.Logic.Basic

set_option autoImplicit false

/- Programs over a state that may return early, with a result of their own kind,
   and the triples that speak about both ends: where the program runs through and
   where it leaves. The state changes of a program that leaves are kept. -/
namespace Exits

variable {σ ε α β : Type}

def Prog (σ ε α : Type) : Type := σ → σ × Except ε α

def ret (value : α) : Prog σ ε α := fun s => (s, .ok value)

def andThen (m : Prog σ ε α) (f : α → Prog σ ε β) : Prog σ ε β := fun s =>
  match m s with
  | (s', .ok value) => f value s'
  | (s', .error result) => (s', .error result)

instance : Monad (Prog σ ε) where
  pure := ret
  bind := andThen

def leave (result : ε) : Prog σ ε α := fun s => (s, .error result)

def read : Prog σ ε σ := fun s => (s, .ok s)

def change (f : σ → σ) : Prog σ ε Unit := fun s => (f s, .ok ())

-- The program at each element in turn.
def mapEach (f : α → Prog σ ε β) : List α → Prog σ ε (List β)
  | [] => pure []
  | a :: rest => do
      let b ← f a
      let later ← mapEach f rest
      return b :: later

section Evaluation
variable (s : σ)

@[simp] theorem pure_run (value : α) : (pure value : Prog σ ε α) s = (s, .ok value) := rfl

@[simp] theorem bind_run (m : Prog σ ε α) (f : α → Prog σ ε β) :
    (m >>= f) s =
      match m s with
      | (s', .ok value) => f value s'
      | (s', .error result) => (s', .error result) := rfl

@[simp] theorem leave_run (result : ε) : (leave result : Prog σ ε α) s = (s, .error result) := rfl

@[simp] theorem read_run : (read : Prog σ ε σ) s = (s, .ok s) := rfl

@[simp] theorem change_run (f : σ → σ) : (change f : Prog σ ε Unit) s = (f s, .ok ()) := rfl

-- A bind that ran through had a value to start from.
theorem bind_ran (m : Prog σ ε α) (f : α → Prog σ ε β) (after : σ) (b : β) (ran : (m >>= f) s = (after, .ok b)) :
    ∃ mid a, m s = (mid, .ok a) ∧ f a mid = (after, .ok b) := by
  rw [bind_run] at ran
  cases outcome : m s with
  | mk mid result =>
      rw [outcome] at ran
      cases result with
      | ok a => exact ⟨mid, a, rfl, ran⟩
      | error failure => cases ran

end Evaluation

/- From `pre`, the program ends in `post` where it runs through and in `left` where
   it leaves. -/
def Triple (pre : σ → Prop) (m : Prog σ ε α) (post : α → σ → Prop) (left : ε → σ → Prop) : Prop :=
  ∀ s, pre s →
    match m s with
    | (s', .ok value) => post value s'
    | (s', .error result) => left result s'

section Rules
variable (pre : σ → Prop) (post : α → σ → Prop) (left : ε → σ → Prop)

theorem triple_pure (value : α) : Triple (post value) (pure value : Prog σ ε α) post left := fun _ holds => holds

theorem triple_bind (m : Prog σ ε α) (f : α → Prog σ ε β) (mid : α → σ → Prop) (last : β → σ → Prop)
    (first : Triple pre m mid left) (rest : ∀ value, Triple (mid value) (f value) last left) :
    Triple pre (m >>= f) last left := by
  intro s holds
  have reached := first s holds
  change match andThen m f s with
    | (s', .ok value) => last value s'
    | (s', .error result) => left result s'
  unfold andThen
  cases outcome : m s with
  | mk s' result =>
      rw [outcome] at reached
      cases result with
      | ok value => exact rest value s' reached
      | error result => exact reached

theorem triple_leave (result : ε) : Triple (left result) (leave result : Prog σ ε α) post left := fun _ holds => holds

theorem triple_read (last : σ → σ → Prop) : Triple (fun s => last s s) (read : Prog σ ε σ) last left :=
  fun _ holds => holds

-- What is read is the state itself.
theorem triple_read_bind (f : σ → Prog σ ε α) (each : ∀ s, pre s → Triple (fun t => t = s) (f s) post left) :
    Triple pre (read >>= f) post left := fun s holds => each s holds s rfl

theorem triple_change (f : σ → σ) (last : Unit → σ → Prop) :
    Triple (fun s => last () (f s)) (change f : Prog σ ε Unit) last left := fun _ holds => holds

theorem triple_weaken (m : Prog σ ε α) (stronger : σ → Prop) (weakerPost : α → σ → Prop) (weakerLeft : ε → σ → Prop)
    (held : Triple pre m post left) (entry : ∀ s, stronger s → pre s)
    (through : ∀ value s, post value s → weakerPost value s) (out : ∀ result s, left result s → weakerLeft result s) :
    Triple stronger m weakerPost weakerLeft := by
  intro s holds
  have reached := held s (entry s holds)
  cases outcome : m s with
  | mk s' result =>
      rw [outcome] at reached
      cases result with
      | ok value => exact through value s' reached
      | error result => exact out result s' reached

-- Two triples about one program.
theorem triple_and (other : σ → Prop) (m : Prog σ ε α) (otherPost : α → σ → Prop) (otherLeft : ε → σ → Prop)
    (first : Triple pre m post left) (second : Triple other m otherPost otherLeft) :
    Triple (fun s => pre s ∧ other s) m (fun value s => post value s ∧ otherPost value s)
      (fun result s => left result s ∧ otherLeft result s) := by
  intro s both
  have one := first s both.1
  have two := second s both.2
  cases outcome : m s with
  | mk after result =>
      rw [outcome] at one two
      cases result with
      | ok value => exact ⟨one, two⟩
      | error result => exact ⟨one, two⟩

-- What no element's program breaks holds at both ends.
theorem triple_map_each (f : α → Prog σ ε β) (elements : List α)
    (each : ∀ a ∈ elements, Triple pre (f a) (fun _ => pre) left) : Triple pre (mapEach f elements) (fun _ => pre) left := by
  induction elements with
  | nil => exact triple_pure (fun _ => pre) left []
  | cons a rest ih =>
      have later := ih fun other member => each other (List.mem_cons_of_mem a member)
      exact triple_bind pre left _ _ (fun _ => pre) _ (each a List.mem_cons_self) fun b =>
        triple_bind pre left _ _ (fun _ => pre) _ later fun rest => triple_pure (fun _ => pre) left (b :: rest)

theorem triple_ite (choice : Prop) [Decidable choice] (m n : Prog σ ε α)
    (yes : choice → Triple pre m post left) (no : ¬ choice → Triple pre n post left) :
    Triple pre (if choice then m else n) post left := by
  by_cases taken : choice
  · rw [if_pos taken]
    exact yes taken
  · rw [if_neg taken]
    exact no taken

end Rules

/- What a program keeps, whether it runs through or leaves. -/
def Keeps (holds : σ → Prop) (m : Prog σ ε α) : Prop := Triple holds m (fun _ s => holds s) (fun _ s => holds s)

section Keeping
variable (holds : σ → Prop)

theorem keeps_pure (value : α) : Keeps holds (pure value : Prog σ ε α) := fun _ kept => kept

theorem keeps_leave (result : ε) : Keeps holds (leave result : Prog σ ε α) := fun _ kept => kept

theorem keeps_change (f : σ → σ) (kept : ∀ s, holds s → holds (f s)) : Keeps holds (change f : Prog σ ε Unit) := kept

theorem keeps_bind (m : Prog σ ε α) (f : α → Prog σ ε β) (first : Keeps holds m) (rest : ∀ value, Keeps holds (f value)) :
    Keeps holds (m >>= f) := triple_bind holds _ m f (fun _ s => holds s) _ first rest

-- The rest may use what has been read while the state is still the one read.
theorem keeps_read_bind (f : σ → Prog σ ε α)
    (rest : ∀ s, holds s → Triple (fun t => t = s) (f s) (fun _ t => holds t) (fun _ t => holds t)) :
    Keeps holds (read >>= f) := triple_read_bind holds _ _ f rest

theorem keeps_from (m : Prog σ ε α) (s : σ) (kept : Keeps holds m) (here : holds s) :
    Triple (fun t => t = s) m (fun _ t => holds t) (fun _ t => holds t) := by
  intro t same
  subst same
  exact kept t here

theorem keeps_ite (choice : Prop) [Decidable choice] (m n : Prog σ ε α) (yes : choice → Keeps holds m)
    (no : ¬ choice → Keeps holds n) : Keeps holds (if choice then m else n) := triple_ite holds _ _ choice m n yes no

end Keeping

end Exits
