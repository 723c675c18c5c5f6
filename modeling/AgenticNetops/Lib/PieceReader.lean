import Mathlib.Data.List.Basic
import Mathlib.Algebra.Ring.Nat

set_option autoImplicit false

/- A buffered reader over a source that hands out its content in pieces. What is
   collected from it depends on the content alone, not on the pieces. -/
namespace PieceReader

variable {α : Type}

structure Reader (α : Type) where
  buffered : List α
  coming : List (List α)
deriving DecidableEq, Repr

def Reader.content (r : Reader α) : List α := r.buffered ++ r.coming.flatten

-- A piece counts for itself too: an empty one is still a read.
def pending (coming : List (List α)) : Nat := (coming.map (fun piece => piece.length + 1)).sum

def Reader.size (r : Reader α) : Nat := r.buffered.length + pending r.coming

def putBack (rest : List α) (coming : List (List α)) : List (List α) :=
  if rest.isEmpty then coming else rest :: coming

-- One read with room for want items; none at the end. A read as large as the
-- buffer goes past it.
def Reader.read (capacity want : Nat) (r : Reader α) : Option (List α × Reader α) :=
  if r.buffered.isEmpty then
    match r.coming with
    | [] => none
    | piece :: coming =>
        if capacity ≤ want then some (piece.take want, ⟨[], putBack (piece.drop want) coming⟩)
        else
          some ((piece.take capacity).take want,
            ⟨(piece.take capacity).drop want, putBack (piece.drop capacity) coming⟩)
  else some (r.buffered.take want, ⟨r.buffered.drop want, r.coming⟩)

theorem put_back_content (rest : List α) (coming : List (List α)) :
    (putBack rest coming).flatten = rest ++ coming.flatten := by
  cases rest with
  | nil => rfl
  | cons a rest => rfl

theorem size_parts (buffered : List α) (coming : List (List α)) :
    Reader.size ⟨buffered, coming⟩ = buffered.length + pending coming := rfl

theorem pending_cons (piece : List α) (coming : List (List α)) :
    pending (piece :: coming) = piece.length + 1 + pending coming := rfl

theorem put_back_size (rest : List α) (coming : List (List α)) :
    pending (putBack rest coming) ≤ rest.length + 1 + pending coming := by
  cases rest with
  | nil =>
      rw [putBack]
      exact Nat.le_add_left _ _
  | cons a rest => exact Nat.le_refl _

theorem put_back_none (coming : List (List α)) : putBack [] coming = coming := rfl

theorem read_buffered (capacity want : Nat) (a : α) (buffered : List α) (coming : List (List α)) :
    Reader.read capacity want ⟨a :: buffered, coming⟩ =
      some ((a :: buffered).take want, ⟨(a :: buffered).drop want, coming⟩) := rfl

theorem read_piece (capacity want : Nat) (piece : List α) (coming : List (List α)) :
    Reader.read capacity want ⟨[], piece :: coming⟩ =
      if capacity ≤ want then some (piece.take want, ⟨[], putBack (piece.drop want) coming⟩)
      else
        some ((piece.take capacity).take want,
          ⟨(piece.take capacity).drop want, putBack (piece.drop capacity) coming⟩) := rfl

theorem read_none (capacity want : Nat) (r : Reader α) (ended : r.read capacity want = none) : r.content = [] := by
  obtain ⟨buffered, coming⟩ := r
  cases buffered with
  | cons a buffered => exact absurd ended (Option.some_ne_none _)
  | nil =>
      cases coming with
      | nil => rfl
      | cons piece coming =>
          rw [read_piece] at ended
          split at ended <;> exact absurd ended (Option.some_ne_none _)

theorem read_some (capacity want : Nat) (r r' : Reader α) (got : List α)
    (came : r.read capacity want = some (got, r')) : r.content = got ++ r'.content ∧ got.length ≤ want := by
  obtain ⟨buffered, coming⟩ := r
  cases buffered with
  | cons a buffered =>
      rw [read_buffered] at came
      injection came with both
      injection both with first second
      rw [← first, ← second]
      refine ⟨?_, List.length_take_le _ _⟩
      rw [Reader.content, Reader.content, ← List.append_assoc, List.take_append_drop]
  | nil =>
      cases coming with
      | nil => exact absurd came.symm (Option.some_ne_none _)
      | cons piece coming =>
          rw [read_piece] at came
          split at came
          · injection came with both
            injection both with first second
            rw [← first, ← second]
            refine ⟨?_, List.length_take_le _ _⟩
            rw [Reader.content, Reader.content, put_back_content, List.nil_append, List.nil_append, ← List.append_assoc,
              List.take_append_drop]
            rfl
          · injection came with both
            injection both with first second
            rw [← first, ← second]
            refine ⟨?_, List.length_take_le _ _⟩
            rw [Reader.content, Reader.content, put_back_content, List.nil_append, ← List.append_assoc,
              List.take_append_drop, ← List.append_assoc, List.take_append_drop]
            rfl

theorem read_shrinks (capacity want : Nat) (r r' : Reader α) (got : List α) (wanted : 0 < want)
    (came : r.read capacity want = some (got, r')) : r'.size < r.size := by
  obtain ⟨buffered, coming⟩ := r
  cases buffered with
  | cons a buffered =>
      rw [read_buffered] at came
      injection came with both
      injection both with _ second
      rw [← second, size_parts, size_parts, List.length_drop, List.length_cons]
      omega
  | nil =>
      cases coming with
      | nil => exact absurd came.symm (Option.some_ne_none _)
      | cons piece coming =>
          rw [read_piece] at came
          split at came
          · injection came with both
            injection both with _ second
            rw [← second, size_parts, size_parts, pending_cons, List.length_nil]
            cases piece with
            | nil =>
                rw [List.drop_nil, put_back_none]
                omega
            | cons a piece =>
                have left := put_back_size ((a :: piece).drop want) coming
                rw [List.length_drop, List.length_cons] at left
                rw [List.length_cons]
                omega
          · rename_i small
            injection came with both
            injection both with _ second
            rw [← second, size_parts, size_parts, pending_cons, List.length_nil, List.length_drop,
              List.length_take]
            by_cases fits : piece.length ≤ capacity
            · rw [List.drop_eq_nil_of_le fits, put_back_none]
              omega
            · have left := put_back_size (piece.drop capacity) coming
              rw [List.length_drop] at left
              omega

-- Reads until left items came or the source ended; room tells how much one
-- read may ask for beyond its first item.
def Reader.collect (capacity : Nat) (room : Nat → Nat) (left : Nat) (r : Reader α) : List α × Reader α :=
  if wanted : left = 0 then ([], r)
  else
    match came : r.read capacity (min (room left + 1) left) with
    | none => ([], r)
    | some (got, r') =>
        have : r'.size < r.size := read_shrinks _ _ r r' got (by omega) came
        (got ++ (r'.collect capacity room (left - got.length)).1, (r'.collect capacity room (left - got.length)).2)
termination_by r.size

theorem collect_content (capacity : Nat) (room : Nat → Nat) (left : Nat) (r : Reader α) :
    (r.collect capacity room left).1 = r.content.take left ∧
      (r.collect capacity room left).2.content = r.content.drop left := by
  induction left, r using Reader.collect.induct capacity room with
  | case1 r =>
      rw [Reader.collect, dif_pos rfl]
      exact ⟨List.take_zero.symm, rfl⟩
  | case2 left r wanted ended =>
      rw [Reader.collect, dif_neg wanted]
      split
      · rw [read_none _ _ r ended]
        exact ⟨List.take_nil.symm, List.drop_nil.symm⟩
      · rename_i came
        rw [ended] at came
        exact absurd came.symm (Option.some_ne_none _)
  | case3 left r wanted got r' came smaller inner =>
      obtain ⟨whole, few⟩ := read_some _ _ r r' got came
      have short : got.length ≤ left := by omega
      rw [Reader.collect, dif_neg wanted]
      split
      · rename_i ended
        rw [came] at ended
        exact absurd ended (Option.some_ne_none _)
      · rename_i got' r'' came'
        rw [came] at came'
        injection came' with both
        injection both with first second
        subst first
        subst second
        dsimp only
        rw [whole, inner.1, inner.2, List.take_append, List.drop_append, List.take_of_length_le short, List.drop_eq_nil_of_le short, List.nil_append]
        exact ⟨rfl, rfl⟩

end PieceReader
