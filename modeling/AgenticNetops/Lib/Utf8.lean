import Mathlib.Data.List.Basic

set_option autoImplicit false

/- The runes of a byte string. A byte that begins no well-formed sequence counts
   as one rune of its own, U+FFFD. -/
namespace Utf8

abbrev Bytes := List UInt8

def runeError : Nat := 0xFFFD

def within (low high : Nat) (byte : UInt8) : Bool := low ≤ byte.toNat && byte.toNat ≤ high

-- Where the second byte may lie: neither an overlong form, nor a surrogate, nor
-- a rune above U+10FFFF is well formed.
def threeSecond (first : UInt8) : Nat × Nat :=
  (if first.toNat = 0xE0 then 0xA0 else 0x80, if first.toNat = 0xED then 0x9F else 0xBF)

def fourSecond (first : UInt8) : Nat × Nat :=
  (if first.toNat = 0xF0 then 0x90 else 0x80, if first.toNat = 0xF4 then 0x8F else 0xBF)

-- A rune and the number of its bytes, behind a lead byte for two, three or four.
def decodeTwo (first : UInt8) : Bytes → Nat × Nat
  | b :: _ =>
      if within 0x80 0xBF b then (first.toNat % 32 * 64 + b.toNat % 64, 2) else (runeError, 1)
  | _ => (runeError, 1)

def decodeThree (first : UInt8) : Bytes → Nat × Nat
  | b :: c :: _ =>
      if within (threeSecond first).1 (threeSecond first).2 b ∧ within 0x80 0xBF c then
        (first.toNat % 16 * 4096 + b.toNat % 64 * 64 + c.toNat % 64, 3)
      else (runeError, 1)
  | _ => (runeError, 1)

def decodeFour (first : UInt8) : Bytes → Nat × Nat
  | b :: c :: d :: _ =>
      if within (fourSecond first).1 (fourSecond first).2 b ∧ within 0x80 0xBF c ∧ within 0x80 0xBF d then
        (first.toNat % 8 * 262144 + b.toNat % 64 * 4096 + c.toNat % 64 * 64 + d.toNat % 64, 4)
      else (runeError, 1)
  | _ => (runeError, 1)

-- The rune at the first byte, and how many bytes it takes.
def decodeRune (first : UInt8) (rest : Bytes) : Nat × Nat :=
  if first.toNat < 0x80 then (first.toNat, 1)
  else if within 0xC2 0xDF first then decodeTwo first rest
  else if within 0xE0 0xEF first then decodeThree first rest
  else if within 0xF0 0xF4 first then decodeFour first rest
  else (runeError, 1)

-- skip counts the bytes that belong to the rune read last.
def runesFrom (skip : Nat) : Bytes → List Nat
  | [] => []
  | first :: rest =>
      match skip with
      | 0 => (decodeRune first rest).1 :: runesFrom ((decodeRune first rest).2 - 1) rest
      | skip + 1 => runesFrom skip rest

def runes (text : Bytes) : List Nat := runesFrom 0 text

theorem within_iff (low high : Nat) (byte : UInt8) :
    within low high byte = true ↔ low ≤ byte.toNat ∧ byte.toNat ≤ high := by
  simp only [within, Bool.and_eq_true, decide_eq_true_eq]

theorem error_large : 0x80 ≤ runeError := by decide

theorem two_bytes_large (first : UInt8) (rest : Bytes) (lead : within 0xC2 0xDF first = true) :
    0x80 ≤ (decodeTwo first rest).1 := by
  rw [within_iff] at lead
  cases rest with
  | nil => exact error_large
  | cons b rest =>
      rw [decodeTwo]
      split
      · dsimp only
        omega
      · exact error_large

theorem three_bytes_large (first : UInt8) (rest : Bytes) (lead : within 0xE0 0xEF first = true) :
    0x80 ≤ (decodeThree first rest).1 := by
  rw [within_iff] at lead
  unfold decodeThree
  split
  · rename_i b c _
    split
    · rename_i both
      have second := (within_iff _ _ b).mp both.1
      have upper : (threeSecond first).2 ≤ 0xBF := by
        change (if first.toNat = 0xED then 0x9F else 0xBF) ≤ 0xBF
        split <;> omega
      dsimp only
      by_cases lowest : first.toNat = 0xE0
      · have lower : (threeSecond first).1 = 0xA0 := if_pos lowest
        omega
      · omega
    · exact error_large
  · exact error_large

theorem four_bytes_large (first : UInt8) (rest : Bytes) (lead : within 0xF0 0xF4 first = true) :
    0x80 ≤ (decodeFour first rest).1 := by
  rw [within_iff] at lead
  unfold decodeFour
  split
  · rename_i b c d _
    split
    · rename_i all
      have second := (within_iff _ _ b).mp all.1
      have upper : (fourSecond first).2 ≤ 0xBF := by
        change (if first.toNat = 0xF4 then 0x8F else 0xBF) ≤ 0xBF
        split <;> omega
      dsimp only
      by_cases lowest : first.toNat = 0xF0
      · have lower : (fourSecond first).1 = 0x90 := if_pos lowest
        omega
      · omega
    · exact error_large
  · exact error_large

/- Only a byte of ASCII is read as a rune of ASCII. -/
theorem decode_rune_ascii (first : UInt8) (rest : Bytes) (small : (decodeRune first rest).1 < 0x80) :
    decodeRune first rest = (first.toNat, 1) := by
  unfold decodeRune at small ⊢
  by_cases plain : first.toNat < 0x80
  · rw [if_pos plain]
  · rw [if_neg plain] at small
    by_cases two : within 0xC2 0xDF first = true
    · rw [if_pos two] at small
      exact absurd small (Nat.not_lt.mpr (two_bytes_large first rest two))
    · rw [if_neg two] at small
      by_cases three : within 0xE0 0xEF first = true
      · rw [if_pos three] at small
        exact absurd small (Nat.not_lt.mpr (three_bytes_large first rest three))
      · rw [if_neg three] at small
        by_cases four : within 0xF0 0xF4 first = true
        · rw [if_pos four] at small
          exact absurd small (Nat.not_lt.mpr (four_bytes_large first rest four))
        · rw [if_neg four] at small
          exact absurd small (Nat.not_lt.mpr error_large)

/- Where every rune is of ASCII, the runes are the bytes. -/
theorem runes_ascii (text : Bytes) (small : ∀ rune ∈ runes text, rune < 0x80) :
    runes text = text.map UInt8.toNat := by
  induction text with
  | nil => rfl
  | cons first rest inner =>
      have here : decodeRune first rest = (first.toNat, 1) :=
        decode_rune_ascii first rest (small _ List.mem_cons_self)
      have read : runes (first :: rest) = first.toNat :: runes rest := by
        rw [runes, runesFrom, here]
        rfl
      rw [read] at small ⊢
      rw [List.map_cons, inner (fun rune listed => small rune (List.mem_cons_of_mem _ listed))]

end Utf8
