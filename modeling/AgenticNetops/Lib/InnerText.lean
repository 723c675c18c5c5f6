import AgenticNetops.Lib.GoText
import Mathlib.Data.List.Infix

set_option autoImplicit false

/- A text looked for inside another. What holds no separator is found in the whole
   exactly where it is found in one of the pieces, trimming the whole takes away nothing
   that it could be found in, and behind a label only the rest of the line counts. -/
namespace InnerText

open GoText

section Pieces
variable {α : Type} (separates : α → Bool)

def Unseparated (inner : List α) : Prop := ∀ c ∈ inner, separates c = false

theorem unseparated_of_all (text : List α) (all : (text.all fun c => !separates c) = true) : Unseparated separates text :=
  fun c member => (Bool.not_eq_eq_eq_not.mp (List.all_eq_true.mp all c member))

theorem unseparated_tail (c : α) (rest : List α) (free : Unseparated separates (c :: rest)) : Unseparated separates rest :=
  fun other member => free other (List.mem_cons_of_mem c member)

-- A separator starts nothing that holds none.
theorem prefix_separator (c : α) (rest inner : List α) (ends : separates c = true) (free : Unseparated separates inner) :
    inner <+: c :: rest ↔ inner = [] := by
  cases inner with
  | nil => exact ⟨fun _ => rfl, fun _ => List.nil_prefix⟩
  | cons d more =>
      have other : ¬ d = c := fun same => Bool.false_ne_true ((free d List.mem_cons_self).symm.trans (same ▸ ends))
      rw [List.cons_prefix_cons]
      exact ⟨fun both => absurd both.1 other, fun none => absurd none (List.cons_ne_nil d more)⟩

theorem prefix_first (text : List α) (first : List α) (others : List (List α)) (pieces : text.splitOnP separates = first :: others)
    (inner : List α) (free : Unseparated separates inner) : inner <+: text ↔ inner <+: first := by
  induction text generalizing first others inner with
  | nil =>
      cases pieces
      exact Iff.rfl
  | cons c rest ih =>
      rw [List.splitOnP_cons_eq_if_modifyHead] at pieces
      by_cases ends : separates c = true
      · rw [if_pos ends] at pieces
        cases pieces
        rw [prefix_separator separates c rest inner ends free, List.prefix_nil]
      · rw [if_neg ends] at pieces
        cases split : rest.splitOnP separates with
        | nil => exact absurd split (List.splitOnP_ne_nil separates rest)
        | cons first' others' =>
            rw [split, List.modifyHead_cons] at pieces
            cases pieces
            cases inner with
            | nil => exact ⟨fun _ => List.nil_prefix, fun _ => List.nil_prefix⟩
            | cons d more =>
                rw [List.cons_prefix_cons, List.cons_prefix_cons,
                  ih first' others split more (unseparated_tail separates d more free)]

theorem infix_piece_iff (text inner : List α) (present : inner ≠ []) (free : Unseparated separates inner) :
    inner <:+: text ↔ ∃ piece ∈ text.splitOnP separates, inner <:+: piece := by
  induction text with
  | nil => simp
  | cons c rest ih =>
      rw [List.infix_cons_iff, ih, List.splitOnP_cons_eq_if_modifyHead]
      by_cases ends : separates c = true
      · rw [if_pos ends, prefix_separator separates c rest inner ends free]
        simp [present]
      · rw [if_neg ends]
        cases split : rest.splitOnP separates with
        | nil => exact absurd split (List.splitOnP_ne_nil separates rest)
        | cons first others =>
            have whole : (c :: rest).splitOnP separates = (c :: first) :: others := by
              rw [List.splitOnP_cons_eq_if_modifyHead, if_neg ends, split, List.modifyHead_cons]
            rw [List.modifyHead_cons, prefix_first separates (c :: rest) (c :: first) others whole inner free]
            simp [List.infix_cons_iff, or_assoc]

end Pieces

section Trimmed
variable {α : Type} (drop : α → Bool)

theorem infix_drop_while (text inner : List α) (c : α) (rest : List α) (starts : inner = c :: rest) (kept : drop c = false) :
    inner <:+: text.dropWhile drop ↔ inner <:+: text := by
  induction text with
  | nil => exact Iff.rfl
  | cons d more ih =>
      by_cases dropped : drop d = true
      · have other : ¬ inner <+: d :: more := by
          intro before
          rw [starts, List.cons_prefix_cons] at before
          rw [before.1, dropped] at kept
          exact Bool.noConfusion kept
        rw [List.dropWhile_cons_of_pos dropped, ih, List.infix_cons_iff, or_iff_right other]
      · rw [List.dropWhile_cons_of_neg dropped]

-- What starts and ends in characters that stay is found in the trimmed text as before.
theorem infix_trim (text inner : List Char) (drop : Char → Bool) (c d : Char) (front rest : List Char) (starts : inner = c :: rest)
    (ends : inner = front ++ [d]) (keptFirst : drop c = false) (keptLast : drop d = false) :
    inner <:+: trimChars drop text ↔ inner <:+: text := by
  have backwards : inner.reverse = d :: front.reverse := by
    rw [ends, List.reverse_append, List.reverse_singleton, List.singleton_append]
  have behind := infix_drop_while drop (text.dropWhile drop).reverse inner.reverse d front.reverse backwards keptLast
  rw [List.reverse_infix] at behind
  calc inner <:+: trimChars drop text
      ↔ inner.reverse <:+: (text.dropWhile drop).reverse.dropWhile drop := by
        rw [← List.reverse_infix, trimChars, List.reverse_reverse]
    _ ↔ inner <:+: text.dropWhile drop := behind
    _ ↔ inner <:+: text := infix_drop_while drop text inner c rest starts keptFirst

theorem drop_while_kept (drop : Char → Bool) (front inner : List Char) (c : Char) (rest : List Char) (starts : inner = c :: rest)
    (kept : drop c = false) : (front ++ inner).dropWhile drop = front.dropWhile drop ++ inner := by
  induction front with
  | nil => rw [List.nil_append, List.dropWhile_nil, List.nil_append, starts, List.dropWhile_cons, kept]; rfl
  | cons d more ih =>
      rw [List.cons_append, List.dropWhile_cons, List.dropWhile_cons, ih]
      cases drop d with
      | true => rfl
      | false => rfl

-- What trimming leaves of the text around an inner text that it keeps.
theorem trim_around (drop : Char → Bool) (front inner behind : List Char) (c d : Char) (starts : inner.head? = some c)
    (ends : inner.getLast? = some d) (keptFirst : drop c = false) (keptLast : drop d = false) :
    trimChars drop (front ++ (inner ++ behind)) =
      front.dropWhile drop ++ (inner ++ (behind.reverse.dropWhile drop).reverse) := by
  obtain ⟨rest, isInner⟩ := List.head?_eq_some_iff.mp starts
  obtain ⟨most, isInner'⟩ := List.getLast?_eq_some_iff.mp ends
  have backwards : (front.dropWhile drop ++ (inner ++ behind)).reverse =
      behind.reverse ++ (inner.reverse ++ (front.dropWhile drop).reverse) := by
    rw [List.reverse_append, List.reverse_append, List.append_assoc]
  rw [trimChars, drop_while_kept drop front (inner ++ behind) c (rest ++ behind) (by rw [isInner]; rfl) keptFirst, backwards,
    drop_while_kept drop behind.reverse _ d (most.reverse ++ (front.dropWhile drop).reverse) (by rw [isInner']; simp) keptLast,
    List.reverse_append, List.reverse_append, List.reverse_reverse, List.reverse_reverse, List.append_assoc]

end Trimmed

section Joined
variable {α : Type}

-- The first separator of a text is where it is.
theorem cut_unique (separator : α) (first other rest rest' : List α) (free : separator ∉ first) (free' : separator ∉ other)
    (same : first ++ separator :: rest = other ++ separator :: rest') : first = other ∧ rest = rest' := by
  induction first generalizing other with
  | nil =>
      cases other with
      | nil => exact ⟨rfl, List.tail_eq_of_cons_eq same⟩
      | cons d more => exact absurd (List.head_eq_of_cons_eq same ▸ List.mem_cons_self) free'
  | cons c more ih =>
      cases other with
      | nil => exact absurd (List.head_eq_of_cons_eq same ▸ List.mem_cons_self) free
      | cons d more' =>
          have tails := ih more' (fun member => free (List.mem_cons_of_mem c member)) (fun member => free' (List.mem_cons_of_mem d member))
            (List.tail_eq_of_cons_eq same)
          exact ⟨by rw [List.head_eq_of_cons_eq same, tails.1], tails.2⟩

theorem prefix_kept (word front rest : List α) (c : α) (other : c ∉ word) (starts : word <+: front ++ c :: rest) : word <+: front := by
  cases List.prefix_or_prefix_of_prefix starts (List.prefix_append front (c :: rest)) with
  | inl inner => exact inner
  | inr longer =>
      obtain ⟨more, isWord⟩ := longer
      rw [← isWord, List.prefix_append_right_inj] at starts
      cases more with
      | nil => rw [← isWord, List.append_nil]
      | cons d others =>
          rw [← isWord, (List.cons_prefix_cons.mp starts).1] at other
          exact absurd (List.mem_append_right front List.mem_cons_self) other

-- Where a word stands first in a text.
theorem first_infix (word text : List α) (inside : word <:+: text) : ∃ taken behind, text = taken ++ (word ++ behind) ∧
    ∀ front back, taken = front ++ back → back ≠ [] → ¬ word <+: back ++ (word ++ behind) := by
  have nothing : ∀ behind front back : List α, [] = front ++ back → back ≠ [] → ¬ word <+: back ++ (word ++ behind) :=
    fun behind front back split present => absurd (List.append_eq_nil_iff.mp split.symm).2 present
  induction text with
  | nil =>
      rw [List.infix_nil.mp inside] at nothing ⊢
      exact ⟨[], [], rfl, nothing []⟩
  | cons c rest ih =>
      by_cases here : word <+: c :: rest
      · obtain ⟨behind, is⟩ := here
        exact ⟨[], behind, is.symm, nothing behind⟩
      · obtain ⟨taken, behind, split, none'⟩ := ih ((List.infix_cons_iff.mp inside).resolve_left here)
        refine ⟨c :: taken, behind, by rw [split]; rfl, ?_⟩
        intro front back parts present starts
        cases front with
        | nil =>
            rw [List.nil_append] at parts
            rw [← parts, List.cons_append, ← split] at starts
            exact here starts
        | cons d others => exact none' others back (List.cons.inj parts).2 present starts

end Joined

section Labelled
variable {α : Type} (blank : α → Bool)

theorem count_unseparated (text : List α) (free : Unseparated blank text) : text.countP blank = 0 :=
  List.countP_eq_zero.mpr fun c member => ne_true_of_eq_false (free c member)

-- A text without blanks in front of a label would make its first word longer.
theorem nothing_before (before label after : List α) (word more : List α) (space : α) (shape : label = word ++ space :: more)
    (wordFree : Unseparated blank word) (spaced : blank space = true) (beforeFree : Unseparated blank before) (rest : List α)
    (whole : before ++ (label ++ after) = label ++ rest) : before = [] := by
  have firstWord : ∀ front behind : List α, Unseparated blank front →
      (front ++ (word ++ space :: behind)).takeWhile (fun d => !blank d) = front ++ word := by
    intro front behind frontFree
    rw [List.takeWhile_append_of_pos fun d member => by simp [frontFree d member],
      List.takeWhile_append_of_pos fun d member => by simp [wordFree d member],
      List.takeWhile_cons_of_neg (by simp [spaced]), List.append_nil]
  have words := congrArg (List.takeWhile fun d => !blank d) whole
  rw [shape, List.append_assoc, List.cons_append, firstWord before _ beforeFree, List.append_assoc, List.cons_append,
    ← List.nil_append (word ++ _), firstWord [] _ fun d member => absurd member List.not_mem_nil] at words
  exact List.append_cancel_right words

/- A label and a value are in a line that is indented, the same label and another value
   exactly where the other value goes on from the first. -/
theorem labelled_inside_iff (indent label value other : List α) (c : α) (word more : List α) (space : α)
    (shape : label = (c :: word) ++ space :: more) (indented : ∀ d ∈ indent, blank d = true)
    (wordFree : Unseparated blank (c :: word)) (spaced : blank space = true) (valueFree : Unseparated blank value)
    (otherFree : Unseparated blank other) : (label ++ value) <:+: (indent ++ (label ++ other)) ↔ value <+: other := by
  have starts : label ++ value = c :: (word ++ space :: more ++ value) := by
    rw [shape]
    simp
  have unindented : (indent ++ (label ++ other)).dropWhile blank = label ++ other := by
    rw [List.dropWhile_append_of_pos indented, shape]
    exact List.dropWhile_cons_of_neg (ne_true_of_eq_false (wordFree c List.mem_cons_self))
  rw [← infix_drop_while blank _ _ c _ starts (wordFree c List.mem_cons_self), unindented]
  refine ⟨fun ⟨before, after, whole⟩ => ?_, fun ⟨after, whole⟩ => ⟨[], after, ?_⟩⟩
  · rw [List.append_assoc, List.append_assoc] at whole
    have counts := congrArg (List.countP blank) whole
    simp only [List.countP_append, count_unseparated blank value valueFree, count_unseparated blank other otherFree] at counts
    have none : before.countP blank = 0 := by
      omega
    have beforeFree : Unseparated blank before := fun d member => Bool.eq_false_iff.mpr (List.countP_eq_zero.mp none d member)
    have first := nothing_before blank before label (value ++ after) (c :: word) more space shape wordFree spaced beforeFree other whole
    rw [first, List.nil_append] at whole
    exact ⟨after, List.append_cancel_left whole⟩
  · rw [← whole, List.nil_append, List.append_assoc]

end Labelled

end InnerText
