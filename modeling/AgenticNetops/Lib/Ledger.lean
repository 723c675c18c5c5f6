import Mathlib.Logic.Basic

set_option autoImplicit false

/- Who holds which value. In an exclusive ledger a value has one holder; it stays
   exclusive when entries go, and when one owner takes values that nobody else
   holds. -/
namespace Ledger

variable {O V : Type}

def Exclusive (held : O → V → Prop) : Prop := ∀ a b value, held a value → held b value → a = b

theorem exclusive_sub (held fewer : O → V → Prop) (inside : ∀ owner value, fewer owner value → held owner value)
    (exclusive : Exclusive held) : Exclusive fewer :=
  fun a b value first second => exclusive a b value (inside a value first) (inside b value second)

theorem exclusive_grow (held more : O → V → Prop) (taker : O) (taken : V → Prop)
    (grown : ∀ owner value, more owner value → held owner value ∨ owner = taker ∧ taken value)
    (apart : ∀ owner value, held owner value → taken value → owner = taker) (exclusive : Exclusive held) :
    Exclusive more := by
  intro a b value first second
  rcases grown a value first with old | ⟨rfl, fresh⟩
  · rcases grown b value second with other | ⟨rfl, taking⟩
    · exact exclusive a b value old other
    · exact apart a value old taking
  · rcases grown b value second with other | ⟨rfl, _⟩
    · exact (apart b value other fresh).symm
    · rfl

end Ledger
