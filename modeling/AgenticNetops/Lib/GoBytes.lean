import Mathlib.Data.List.Basic

set_option autoImplicit false

/- bytes.TrimSpace on UTF-8 text: Unicode's white space at both ends goes, of which only
   the one-byte runes are ASCII. -/
namespace GoBytes

abbrev Bytes := List UInt8

section Trim

def asciiSpace (c : UInt8) : Bool := c.toNat = 0x20 || (0x09 ≤ c.toNat && c.toNat ≤ 0x0D)

-- U+0085 and U+00A0.
def twoSpace (a b : UInt8) : Bool := a.toNat = 0xC2 && (b.toNat = 0x85 || b.toNat = 0xA0)

-- U+1680, U+2000 to U+200A, U+2028, U+2029, U+202F, U+205F and U+3000.
def threeSpace (a b c : UInt8) : Bool :=
  (a.toNat = 0xE1 && b.toNat = 0x9A && c.toNat = 0x80) ||
    (a.toNat = 0xE2 && b.toNat = 0x80 &&
      ((0x80 ≤ c.toNat && c.toNat ≤ 0x8A) || c.toNat = 0xA8 || c.toNat = 0xA9 || c.toNat = 0xAF)) ||
    (a.toNat = 0xE2 && b.toNat = 0x81 && c.toNat = 0x9F) || (a.toNat = 0xE3 && b.toNat = 0x80 && c.toNat = 0x80)

def trimRunes (two : UInt8 → UInt8 → Bool) (three : UInt8 → UInt8 → UInt8 → Bool) : Bytes → Bytes
  | a :: b :: c :: rest =>
      if asciiSpace a then trimRunes two three (b :: c :: rest)
      else if two a b then trimRunes two three (c :: rest)
      else if three a b c then trimRunes two three rest
      else a :: b :: c :: rest
  | [a, b] => if asciiSpace a then trimRunes two three [b] else if two a b then [] else [a, b]
  | [a] => if asciiSpace a then [] else [a]
  | [] => []

def trimLeft (text : Bytes) : Bytes := trimRunes twoSpace threeSpace text

def trimRight (text : Bytes) : Bytes :=
  (trimRunes (fun b a => twoSpace a b) (fun c b a => threeSpace a b c) text.reverse).reverse

def trimSpace (text : Bytes) : Bytes := trimRight (trimLeft text)

end Trim

section Runes

-- A byte of a white-space rune.
def Foreign (c : UInt8) : Prop := asciiSpace c = true ∨ 0x80 ≤ c.toNat

theorem two_foreign (a b : UInt8) (space : twoSpace a b = true) : Foreign a ∧ Foreign b := by
  simp only [twoSpace, Bool.and_eq_true, Bool.or_eq_true, decide_eq_true_eq] at space
  exact ⟨Or.inr (by omega), Or.inr (by omega)⟩

theorem three_foreign (a b c : UInt8) (space : threeSpace a b c = true) : Foreign a ∧ Foreign b ∧ Foreign c := by
  simp only [threeSpace, Bool.and_eq_true, Bool.or_eq_true, decide_eq_true_eq] at space
  exact ⟨Or.inr (by omega), Or.inr (by omega), Or.inr (by omega)⟩

variable (two : UInt8 → UInt8 → Bool) (three : UInt8 → UInt8 → UInt8 → Bool)

theorem trim_ascii (a : UInt8) (rest : Bytes) (space : asciiSpace a = true) :
    trimRunes two three (a :: rest) = trimRunes two three rest := by
  match rest with
  | [] => simp [trimRunes, space]
  | [b] => simp [trimRunes, space]
  | b :: c :: more => simp [trimRunes, space]

theorem trim_runes_split (twoForeign : ∀ a b, two a b = true → Foreign a ∧ Foreign b)
    (threeForeign : ∀ a b c, three a b c = true → Foreign a ∧ Foreign b ∧ Foreign c) (text : Bytes) :
    ∃ dropped, text = dropped ++ trimRunes two three text ∧ ∀ d ∈ dropped, Foreign d := by
  have behind (front rest shorter : Bytes) (foreign : ∀ d ∈ front, Foreign d)
      (found : ∃ dropped, rest = dropped ++ shorter ∧ ∀ d ∈ dropped, Foreign d) :
      ∃ dropped, front ++ rest = dropped ++ shorter ∧ ∀ d ∈ dropped, Foreign d := by
    obtain ⟨dropped, whole, all⟩ := found
    refine ⟨front ++ dropped, by rw [List.append_assoc, ← whole], fun d member => ?_⟩
    exact (List.mem_append.mp member).elim (foreign d) (all d)
  have kept (rest : Bytes) : ∃ dropped, rest = dropped ++ rest ∧ ∀ d ∈ dropped, Foreign d :=
    ⟨[], rfl, fun _ member => absurd member List.not_mem_nil⟩
  have one (a : UInt8) (space : asciiSpace a = true) : ∀ d ∈ [a], Foreign d := fun _ member =>
    List.mem_singleton.mp member ▸ Or.inl space
  have pairs (a b : UInt8) (pair : two a b = true) : ∀ d ∈ [a, b], Foreign d :=
    List.forall_mem_cons.mpr ⟨(twoForeign a b pair).1, List.forall_mem_singleton.mpr (twoForeign a b pair).2⟩
  have triples (a b c : UInt8) (triple : three a b c = true) : ∀ d ∈ [a, b, c], Foreign d := by
    obtain ⟨first, second, third⟩ := threeForeign a b c triple
    exact List.forall_mem_cons.mpr ⟨first, List.forall_mem_cons.mpr ⟨second, List.forall_mem_singleton.mpr third⟩⟩
  fun_induction trimRunes two three text with
  | case1 a b c rest space ih => exact behind [a] (b :: c :: rest) _ (one a space) ih
  | case2 a b c rest _ pair ih => exact behind [a, b] (c :: rest) _ (pairs a b pair) ih
  | case3 a b c rest _ _ triple ih => exact behind [a, b, c] rest _ (triples a b c triple) ih
  | case4 a b c rest _ _ _ => exact kept (a :: b :: c :: rest)
  | case5 a b space ih => exact behind [a] [b] _ (one a space) ih
  | case6 a b _ pair => exact behind [a, b] [] [] (pairs a b pair) (kept [])
  | case7 a b _ _ => exact kept [a, b]
  | case8 a space => exact behind [a] [] [] (one a space) (kept [])
  | case9 a _ => exact kept [a]
  | case10 => exact kept []

theorem trim_left_split (text : Bytes) : ∃ dropped, text = dropped ++ trimLeft text ∧ ∀ d ∈ dropped, Foreign d :=
  trim_runes_split twoSpace threeSpace two_foreign three_foreign text

theorem trim_right_split (text : Bytes) : ∃ dropped, text = trimRight text ++ dropped ∧ ∀ d ∈ dropped, Foreign d := by
  obtain ⟨dropped, whole, foreign⟩ := trim_runes_split (fun b a => twoSpace a b) (fun c b a => threeSpace a b c)
    (fun b a pair => ⟨(two_foreign a b pair).2, (two_foreign a b pair).1⟩)
    (fun c b a triple => ⟨(three_foreign a b c triple).2.2, (three_foreign a b c triple).2.1, (three_foreign a b c triple).1⟩)
    text.reverse
  refine ⟨dropped.reverse, ?_, fun d member => foreign d (List.mem_reverse.mp member)⟩
  have reversed := congrArg List.reverse whole
  rwa [List.reverse_reverse, List.reverse_append] at reversed

-- What begins with a byte of no white space is left as it is.
theorem trim_left_kept (c : UInt8) (rest : Bytes) (plain : ¬ Foreign c) : trimLeft (c :: rest) = c :: rest := by
  obtain ⟨dropped, whole, foreign⟩ := trim_left_split (c :: rest)
  cases dropped with
  | nil => exact whole.symm
  | cons d more => exact absurd (List.head_eq_of_cons_eq whole ▸ foreign d List.mem_cons_self) plain

theorem trim_right_kept (front : Bytes) (c : UInt8) (plain : ¬ Foreign c) : trimRight (front ++ [c]) = front ++ [c] := by
  obtain ⟨dropped, whole, foreign⟩ := trim_right_split (front ++ [c])
  by_cases none : dropped = []
  · rw [none, List.append_nil] at whole
    exact whole.symm
  · rw [← List.dropLast_append_getLast none, ← List.append_assoc] at whole
    have last := List.singleton_inj.mp (List.append_inj' whole rfl).2
    exact absurd (last ▸ foreign _ (List.getLast_mem none)) plain

end Runes

end GoBytes
