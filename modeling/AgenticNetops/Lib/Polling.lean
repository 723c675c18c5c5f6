import Mathlib.Data.List.Basic

set_option autoImplicit false

/- Items that are polled in rounds until each has a verdict. The rounds go on over what is
   still pending, and what an item gets is the first verdict that its own readings give. -/
namespace Polling

variable {R V : Type} (verdict : R → Option V)

-- One round: what is left pending, and what is settled in it.
def round (poll : Nat → R) : List Nat → List Nat × List (Nat × V)
  | [] => ([], [])
  | item :: rest =>
      match verdict (poll item) with
      | some value => ((round poll rest).1, (item, value) :: (round poll rest).2)
      | none => (item :: (round poll rest).1, (round poll rest).2)

def rounds : List (Nat → R) → List Nat → List (Nat × V) → List Nat × List (Nat × V)
  | [], pending, settled => (pending, settled)
  | poll :: polls, pending, settled =>
      if pending = [] then (pending, settled)
      else rounds polls (round verdict poll pending).1 (settled ++ (round verdict poll pending).2)

-- The first verdict that the readings of one item give.
def firstVerdict (polls : List (Nat → R)) (item : Nat) : Option V := polls.findSome? fun poll => verdict (poll item)

theorem round_pending (poll : Nat → R) (pending : List Nat) (item : Nat) :
    item ∈ (round verdict poll pending).1 ↔ item ∈ pending ∧ verdict (poll item) = none := by
  induction pending with
  | nil => exact iff_of_false List.not_mem_nil fun both => List.not_mem_nil both.1
  | cons first rest ih =>
      rw [round]
      cases decided : verdict (poll first) with
      | some value =>
          rw [ih, List.mem_cons]
          constructor
          · intro both
            exact ⟨Or.inr both.1, both.2⟩
          · intro both
            refine ⟨both.1.resolve_left fun same => ?_, both.2⟩
            rw [same, decided] at both
            cases both.2
      | none =>
          rw [List.mem_cons, List.mem_cons, ih]
          constructor
          · intro either
            cases either with
            | inl same => exact ⟨Or.inl same, same ▸ decided⟩
            | inr later => exact ⟨Or.inr later.1, later.2⟩
          · intro both
            exact both.1.imp_right fun later => ⟨later, both.2⟩

theorem round_settled (poll : Nat → R) (pending : List Nat) (item : Nat) :
    (round verdict poll pending).2.lookup item = if item ∈ pending then verdict (poll item) else none := by
  induction pending with
  | nil => rfl
  | cons first rest ih =>
      rw [round]
      by_cases same : item = first
      · subst same
        rw [if_pos List.mem_cons_self]
        cases decided : verdict (poll item) with
        | some value => exact List.lookup_cons_self
        | none =>
            dsimp only
            rw [ih, decided]
            exact ite_self none
      · have later : item ∈ first :: rest ↔ item ∈ rest := by
          rw [List.mem_cons]
          exact or_iff_right same
        rw [if_congr later rfl rfl, ← ih]
        cases decided : verdict (poll first) with
        | some value => rw [List.lookup_cons, beq_eq_false_iff_ne.mpr same]
        | none => rfl

theorem lookup_append (entries more : List (Nat × V)) (item : Nat) :
    (entries ++ more).lookup item = (entries.lookup item).or (more.lookup item) := by
  induction entries with
  | nil => rfl
  | cons entry rest ih =>
      rw [List.cons_append, List.lookup_cons, List.lookup_cons]
      cases item == entry.1 with
      | true => rfl
      | false => exact ih

theorem rounds_pending (polls : List (Nat → R)) (pending : List Nat) (settled : List (Nat × V)) (item : Nat) :
    item ∈ (rounds verdict polls pending settled).1 ↔ item ∈ pending ∧ firstVerdict verdict polls item = none := by
  induction polls generalizing pending settled with
  | nil => exact (and_iff_left rfl).symm
  | cons poll polls ih =>
      rw [rounds]
      by_cases done : pending = []
      · rw [if_pos done, done]
        exact iff_of_false List.not_mem_nil fun both => List.not_mem_nil both.1
      · rw [if_neg done, ih, round_pending, and_assoc]
        refine and_congr_right fun _ => ?_
        rw [firstVerdict, firstVerdict, List.findSome?_cons]
        cases verdict (poll item) with
        | some value => exact iff_of_false (fun both => Option.some_ne_none _ both.1) (Option.some_ne_none _)
        | none => exact and_iff_right rfl

/- Whatever else is polled in the same rounds, a pending item is settled with its own first
   verdict. -/
theorem rounds_settled (polls : List (Nat → R)) (pending : List Nat) (settled : List (Nat × V)) (item : Nat) :
    (rounds verdict polls pending settled).2.lookup item =
      (settled.lookup item).or (if item ∈ pending then firstVerdict verdict polls item else none) := by
  induction polls generalizing pending settled with
  | nil =>
      rw [rounds, firstVerdict, List.findSome?_nil, ite_self, Option.or_none]
  | cons poll polls ih =>
      rw [rounds]
      by_cases done : pending = []
      · rw [if_pos done, done, if_neg List.not_mem_nil, Option.or_none]
      · rw [if_neg done, ih, lookup_append, round_settled, Option.or_assoc]
        congr 1
        by_cases member : item ∈ pending
        · rw [if_pos member, if_pos member, firstVerdict, firstVerdict, List.findSome?_cons]
          cases decided : verdict (poll item) with
          | some value => rfl
          | none => rw [if_pos ((round_pending verdict poll pending item).mpr ⟨member, decided⟩), Option.none_or]
        · rw [if_neg member, if_neg member, if_neg fun later => member ((round_pending verdict poll pending item).mp later).1]
          rfl

end Polling
