import Mathlib.Data.Option.Basic

set_option autoImplicit false

/- Runs of a system whose steps are labelled. `guard` restricts the steps of a run:
   an invariant of the guarded steps holds in every state such a run reaches. -/
namespace Runs

variable {σ τ : Type}

-- A step relation with what each step starts from.
inductive Run (step : σ → τ → σ → Prop) (guard : σ → τ → Prop) : σ → List τ → σ → Prop
  | start (s : σ) : Run step guard s [] s
  | snoc (s : σ) (labels : List τ) (mid : σ) (label : τ) (final : σ) (earlier : Run step guard s labels mid)
      (allowed : guard mid label) (last : step mid label final) : Run step guard s (labels ++ [label]) final

variable (step : σ → τ → σ → Prop) (guard : σ → τ → Prop)

theorem run_invariant (invariant : σ → Prop)
    (preserved : ∀ s label s', invariant s → guard s label → step s label s' → invariant s')
    (s : σ) (labels : List τ) (final : σ) (start : invariant s) (run : Run step guard s labels final) :
    invariant final := by
  induction run with
  | start => exact start
  | snoc labels mid label final _ allowed last ih => exact preserved mid label final ih allowed last

-- A run under a stronger guard is a run under a weaker one.
theorem run_mono (weaker : σ → τ → Prop) (implied : ∀ s label, guard s label → weaker s label)
    (s : σ) (labels : List τ) (final : σ) (run : Run step guard s labels final) : Run step weaker s labels final := by
  induction run with
  | start => exact .start _
  | snoc labels mid label final _ allowed last ih => exact .snoc _ labels mid label final ih (implied mid label allowed) last

theorem run_cons (s : σ) (label : τ) (mid : σ) (labels : List τ) (final : σ) (allowed : guard s label)
    (first : step s label mid) (run : Run step guard mid labels final) : Run step guard s (label :: labels) final := by
  induction run with
  | start => exact .snoc s [] s label mid (.start s) allowed first
  | snoc labels last other final _ later change ih => exact .snoc s (label :: labels) last other final ih later change

section Played
variable (next : σ → τ → Option σ)

-- Every label is possible and allowed where it stands.
def Played (s : σ) : List τ → Prop
  | [] => True
  | label :: rest => guard s label ∧ ∃ mid ∈ next s label, Played mid rest

instance decidablePlayed [∀ s label, Decidable (guard s label)] (s : σ) (labels : List τ) :
    Decidable (Played guard next s labels) :=
  match labels with
  | [] => isTrue trivial
  | label :: rest =>
      have : ∀ mid, Decidable (Played guard next mid rest) := fun mid => decidablePlayed mid rest
      inferInstanceAs (Decidable (guard s label ∧ ∃ mid ∈ next s label, Played guard next mid rest))

def play (s : σ) (labels : List τ) : Option σ := labels.foldlM next s

theorem played_ends (s : σ) (labels : List τ) (played : Played guard next s labels) :
    ∃ final, play next s labels = some final := by
  induction labels generalizing s with
  | nil => exact ⟨s, rfl⟩
  | cons label rest ih =>
      obtain ⟨_, mid, reached, played⟩ := played
      have stepped : next s label = some mid := reached
      obtain ⟨final, ends⟩ := ih mid played
      exact ⟨final, by simpa [play, stepped] using ends⟩

-- A run is played by its labels.
theorem played_run (s : σ) (labels : List τ) (final : σ) (played : Played guard next s labels)
    (ends : play next s labels = some final) : Run (fun s label s' => next s label = some s') guard s labels final := by
  induction labels generalizing s with
  | nil =>
      cases ends
      exact .start _
  | cons label rest ih =>
      obtain ⟨allowed, mid, reached, played⟩ := played
      have stepped : next s label = some mid := reached
      have tail : play next mid rest = some final := by simpa [play, stepped] using ends
      exact run_cons _ guard s label mid rest final allowed stepped (ih mid played tail)

-- What is played at all is a run without a guard.
theorem play_run (s : σ) (labels : List τ) (final : σ) (ends : play next s labels = some final) :
    Run (fun s label s' => next s label = some s') (fun _ _ => True) s labels final := by
  induction labels generalizing s with
  | nil =>
      cases ends
      exact .start _
  | cons label rest ih =>
      cases moved : next s label with
      | none => simp [play, moved] at ends
      | some mid =>
          have later : play next mid rest = some final := by simpa [play, moved] using ends
          exact run_cons _ _ s label mid rest final trivial moved (ih mid later)

end Played

section Exact
variable (next : σ → τ → σ) (holds : σ → Prop) (guard : σ → τ → Prop)

-- In every state of the run, and at every step of it.
def Everywhere (s : σ) : List τ → Prop
  | [] => holds s
  | label :: rest => holds s ∧ Everywhere (next s label) rest

def EachStep (s : σ) : List τ → Prop
  | [] => True
  | label :: rest => guard s label ∧ EachStep (next s label) rest

/- Where a step keeps a property exactly when its guard holds, a run has the property
   everywhere exactly when every step is guarded. -/
theorem everywhere_iff (invariant : σ → Prop) (kept : ∀ s label, invariant s → invariant (next s label))
    (exact_step : ∀ s label, invariant s → holds s → (holds (next s label) ↔ guard s label))
    (s : σ) (labels : List τ) (sound : invariant s) (start : holds s) :
    Everywhere next holds s labels ↔ EachStep next guard s labels := by
  induction labels generalizing s with
  | nil => exact iff_of_true start trivial
  | cons label rest inner =>
      have here := exact_step s label sound start
      constructor
      · intro all
        have first : holds (next s label) := by
          cases rest with
          | nil => exact all.2
          | cons other more => exact all.2.1
        exact ⟨here.mp first, (inner (next s label) (kept s label sound) first).mp all.2⟩
      · intro all
        have first := here.mpr all.1
        exact ⟨start, (inner (next s label) (kept s label sound) first).mpr all.2⟩

end Exact

end Runs
