import Mathlib.Logic.Basic

set_option autoImplicit false

/- Reading a successful fallible computation backwards: a bind that ended in a
   value had a value to start from, and a guard that let it through did not hold. -/
namespace Fallible

variable {ε α β : Type}

theorem bind_ok (x : Except ε α) (f : α → Except ε β) (b : β) (bound : x >>= f = .ok b) :
    ∃ a, x = .ok a ∧ f a = .ok b := by
  cases x with
  | error message => cases bound
  | ok a => exact ⟨a, rfl, bound⟩

theorem bind_ok_iff (x : Except ε α) (f : α → Except ε β) : (∃ b, x >>= f = .ok b) ↔ ∃ a, x = .ok a ∧ ∃ b, f a = .ok b := by
  cases x with
  | error message =>
      refine ⟨fun ok => ?_, fun ok => ?_⟩
      · obtain ⟨b, bound⟩ := ok
        cases bound
      · obtain ⟨a, made, _⟩ := ok
        cases made
  | ok a =>
      refine ⟨fun ok => ⟨a, rfl, ok⟩, fun ok => ?_⟩
      obtain ⟨other, made, done⟩ := ok
      cases made
      exact done

theorem guard_ok (refused : Prop) [Decidable refused] (message : ε) (rest : Except ε α) (value : α) :
    (if refused then .error message else rest) = .ok value ↔ ¬ refused ∧ rest = .ok value := by
  by_cases taken : refused <;> simp [taken]

theorem is_ok_value (x : Except ε α) (accepted : x.isOk = true) : ∃ value, x = .ok value := by
  cases x with
  | error refusal => cases accepted
  | ok value => exact ⟨value, rfl⟩

end Fallible
