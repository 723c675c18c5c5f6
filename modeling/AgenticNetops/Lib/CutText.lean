import Mathlib.Data.List.DropRight

set_option autoImplicit false

/- Text cut to a length and stripped of trailing separators: what of a common
   front followed by a distinguishing rest is still there afterwards. -/
namespace CutText

variable {α : Type} (strip : α → Bool)

-- The first n characters without the separators they end in.
def cut (n : Nat) (text : List α) : List α := (text.take n).rdropWhile strip

theorem strip_append (front rest : List α) :
    (front ++ rest).rdropWhile strip =
      if rest.rdropWhile strip = [] then front.rdropWhile strip else front ++ rest.rdropWhile strip := by
  by_cases gone : rest.rdropWhile strip = []
  · have emptied : rest.reverse.dropWhile strip = [] := List.reverse_eq_nil_iff.mp gone
    simp [List.rdropWhile, List.dropWhile_append, emptied]
  · have remains : ¬ rest.reverse.dropWhile strip = [] := fun emptied => gone (List.reverse_eq_nil_iff.mpr emptied)
    simp [List.rdropWhile, List.dropWhile_append, remains]

theorem strip_length_le (text : List α) : (text.rdropWhile strip).length ≤ text.length :=
  (List.rdropWhile_prefix strip text).length_le

-- After one front, what is left of the rest decides.
theorem strip_append_inj (front first second : List α) :
    (front ++ first).rdropWhile strip = (front ++ second).rdropWhile strip ↔
      first.rdropWhile strip = second.rdropWhile strip := by
  have shorter := strip_length_le strip front
  rw [strip_append, strip_append]
  by_cases firstGone : first.rdropWhile strip = []
  · by_cases secondGone : second.rdropWhile strip = []
    · simp [firstGone, secondGone]
    · have longer : front.rdropWhile strip ≠ front ++ second.rdropWhile strip := by
        intro same
        have lengths := congrArg List.length same
        have positive := List.length_pos_of_ne_nil secondGone
        rw [List.length_append] at lengths
        omega
      simp [firstGone, secondGone, longer, Ne.symm secondGone]
  · by_cases secondGone : second.rdropWhile strip = []
    · have longer : front ++ first.rdropWhile strip ≠ front.rdropWhile strip := by
        intro same
        have lengths := congrArg List.length same
        have positive := List.length_pos_of_ne_nil firstGone
        rw [List.length_append] at lengths
        omega
      simp [firstGone, secondGone, longer]
    · simp [firstGone, secondGone]

theorem strip_of_all (front junk : List α) (separators : ∀ c ∈ junk, strip c) :
    (front ++ junk).rdropWhile strip = front.rdropWhile strip := by
  rw [strip_append, if_pos (List.rdropWhile_eq_nil_iff.mpr separators)]

-- Stripping first makes no difference to the cut text.
theorem cut_strip (n : Nat) (text : List α) : cut strip n (text.rdropWhile strip) = cut strip n text := by
  obtain ⟨junk, whole⟩ := List.rdropWhile_prefix strip text
  have separators : ∀ c ∈ junk, strip c := by
    have idle : (text.rdropWhile strip ++ junk).rdropWhile strip = text.rdropWhile strip := by rw [whole]
    rw [strip_append, List.rdropWhile_idempotent] at idle
    by_cases gone : junk.rdropWhile strip = []
    · exact List.rdropWhile_eq_nil_iff.mp gone
    · rw [if_neg gone] at idle
      exact absurd (List.append_right_eq_self.mp idle) gone
  unfold cut
  conv_rhs => rw [← whole, List.take_append]
  exact (strip_of_all strip _ _ fun c member => separators c (List.mem_of_mem_take member)).symm

theorem cut_append (n : Nat) (front first second : List α) :
    cut strip n (front ++ first) = cut strip n (front ++ second) ↔
      cut strip (n - front.length) first = cut strip (n - front.length) second := by
  unfold cut
  rw [List.take_append, List.take_append]
  exact strip_append_inj strip (front.take n) _ _

theorem cut_of_short (n : Nat) (text : List α) (short : text.length ≤ n) : cut strip n text = text.rdropWhile strip := by
  rw [cut, List.take_of_length_le short]

end CutText
