import Mathlib.Data.List.Basic

set_option autoImplicit false

/- A log in which some events open a duty and later ones settle it. What is open
   after more events is what was open and they did not settle, and what they
   opened themselves. -/
namespace Pending

variable {E : Type} (opens : E → Prop) (settles : E → E → Prop)

-- The event is in the log, it opens a duty, and nothing behind it settles it.
def Open (log : List E) (e : E) : Prop :=
  match log with
  | [] => False
  | first :: rest => (first = e ∧ opens e ∧ ∀ later ∈ rest, ¬ settles later e) ∨ Open rest e

instance decidableOpen [DecidableEq E] [DecidablePred opens] [DecidableRel settles] (log : List E) (e : E) :
    Decidable (Open opens settles log e) :=
  match log with
  | [] => isFalse id
  | first :: rest =>
      have : Decidable (Open opens settles rest e) := decidableOpen rest e
      inferInstanceAs (Decidable ((first = e ∧ opens e ∧ ∀ later ∈ rest, ¬ settles later e) ∨ Open opens settles rest e))

theorem open_mem (log : List E) (e : E) (pending : Open opens settles log e) : e ∈ log ∧ opens e := by
  induction log with
  | nil => cases pending
  | cons first rest ih =>
      rcases pending with ⟨here, opened, _⟩ | later
      · exact ⟨here ▸ List.mem_cons_self, opened⟩
      · exact ⟨List.mem_cons_of_mem first (ih later).1, (ih later).2⟩

theorem open_append (log more : List E) (e : E) :
    Open opens settles (log ++ more) e ↔
      (Open opens settles log e ∧ ∀ later ∈ more, ¬ settles later e) ∨ Open opens settles more e := by
  induction log with
  | nil => simp [Open]
  | cons first rest ih =>
      rw [List.cons_append, Open, Open, ih, List.forall_mem_append]
      constructor
      · rintro (⟨here, opened, before, after⟩ | ⟨kept, after⟩ | fresh)
        · exact Or.inl ⟨Or.inl ⟨here, opened, before⟩, after⟩
        · exact Or.inl ⟨Or.inr kept, after⟩
        · exact Or.inr fresh
      · rintro (⟨⟨here, opened, before⟩ | kept, after⟩ | fresh)
        · exact Or.inl ⟨here, opened, before, after⟩
        · exact Or.inr (Or.inl ⟨kept, after⟩)
        · exact Or.inr (Or.inr fresh)

-- Where nothing settles, everything that opens stays open.
theorem open_unsettled (log : List E) (e : E) (quiet : ∀ later ∈ log, ¬ settles later e) :
    Open opens settles log e ↔ e ∈ log ∧ opens e := by
  constructor
  · exact open_mem opens settles log e
  · intro present
    induction log with
    | nil => cases present.1
    | cons first rest ih =>
        have later : ∀ other ∈ rest, ¬ settles other e := fun other member => quiet other (List.mem_cons_of_mem first member)
        by_cases here : first = e
        · exact Or.inl ⟨here, present.2, later⟩
        · have behind : e ∈ rest := (List.mem_cons.mp present.1).resolve_left fun same => here same.symm
          exact Or.inr (ih later ⟨behind, present.2⟩)

-- Fewer ways to settle leave more open.
theorem open_mono (fewer : E → E → Prop) (log : List E) (e : E) (implied : ∀ later, fewer later e → settles later e)
    (pending : Open opens settles log e) : Open opens fewer log e := by
  induction log with
  | nil => cases pending
  | cons first rest ih =>
      rcases pending with ⟨here, opened, unsettled⟩ | later
      · exact Or.inl ⟨here, opened, fun other member settled => unsettled other member (implied other settled)⟩
      · exact Or.inr (ih later)

end Pending
