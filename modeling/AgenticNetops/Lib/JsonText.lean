import AgenticNetops.Lib.Json
import AgenticNetops.Lib.NetIP

set_option autoImplicit false

/- The text of a JSON value as Python's json writes it with compact separators, and the
   reader: what is written is read back, whatever the strings hold, and no part of an
   object's text is read at all. -/
namespace JsonText

open JsonValue GoText NetIP

section Writer

-- The UTF-16 code units of a character: an escape spells one of them.
def units (c : Char) : List Nat :=
  if c.toNat < 0x10000 then [c.toNat] else [0xD800 + (c.toNat - 0x10000) / 0x400, 0xDC00 + (c.toNat - 0x10000) % 0x400]

def unitText (unit : Nat) : List Char :=
  if unit = 0x22 then ['\\', '"']
  else if unit = 0x5C then ['\\', '\\']
  else if unit = 0x0A then ['\\', 'n']
  else if unit = 0x0D then ['\\', 'r']
  else if unit = 0x09 then ['\\', 't']
  else if unit = 0x0C then ['\\', 'f']
  else if unit = 0x08 then ['\\', 'b']
  else if 0x20 ≤ unit ∧ unit < 0x7F then [Char.ofNat unit]
  else '\\' :: 'u' :: hexDigits 4 unit

def quoted (text : String) : List Char := '"' :: (text.toList.flatMap units).flatMap unitText ++ ['"']

def numberText (value : Int) : List Char :=
  if value < 0 then '-' :: Nat.toDigits 10 value.natAbs else Nat.toDigits 10 value.natAbs

mutual

def dumps : Json → List Char
  | .null => ['n', 'u', 'l', 'l']
  | .bool true => ['t', 'r', 'u', 'e']
  | .bool false => ['f', 'a', 'l', 's', 'e']
  | .num value => numberText value
  | .str text => quoted text
  | .arr items => '[' :: dumpsItems items ++ [']']
  | .obj fields => '{' :: dumpsFields fields ++ ['}']

def dumpsItems : List Json → List Char
  | [] => []
  | item :: [] => dumps item
  | item :: next :: rest => dumps item ++ ',' :: dumpsItems (next :: rest)

def dumpsFields : List (String × Json) → List Char
  | [] => []
  | (key, value) :: [] => quoted key ++ ':' :: dumps value
  | (key, value) :: next :: rest => quoted key ++ ':' :: dumps value ++ ',' :: dumpsFields (next :: rest)

end

end Writer

section Reader

def isJsonBlank (c : Char) : Bool := c = ' ' || c = '\t' || c = '\n' || c = '\r'

def skipBlank (text : List Char) : List Char := text.dropWhile isJsonBlank

def escaped (c : Char) : Option Nat :=
  if c = '"' then some 0x22
  else if c = '\\' then some 0x5C
  else if c = '/' then some 0x2F
  else if c = 'n' then some 0x0A
  else if c = 'r' then some 0x0D
  else if c = 't' then some 0x09
  else if c = 'f' then some 0x0C
  else if c = 'b' then some 0x08
  else none

def hexUnit (a b c d : Char) : Option Nat := do
  let a ← hexValue a
  let b ← hexValue b
  let c ← hexValue c
  let d ← hexValue d
  return ((a * 16 + b) * 16 + c) * 16 + d

-- The code units up to the closing quote, and what is behind it. Control characters are refused.
def readUnits : List Char → Option (List Nat × List Char)
  | [] => none
  | '"' :: rest => some ([], rest)
  | '\\' :: 'u' :: a :: b :: c :: d :: rest =>
      match hexUnit a b c d, readUnits rest with
      | some unit, some (read, after) => some (unit :: read, after)
      | _, _ => none
  | '\\' :: c :: rest =>
      match escaped c, readUnits rest with
      | some unit, some (read, after) => some (unit :: read, after)
      | _, _ => none
  | c :: rest =>
      if c.toNat < 0x20 ∨ c = '\\' then none
      else
        match readUnits rest with
        | some (read, after) => some (c.toNat :: read, after)
        | none => none

def isHigh (unit : Nat) : Bool := 0xD800 ≤ unit && unit < 0xDC00

def isLow (unit : Nat) : Bool := 0xDC00 ≤ unit && unit < 0xE000

-- A surrogate on its own is no character.
def joinUnits : List Nat → Option (List Char)
  | [] => some []
  | unit :: rest =>
      if isHigh unit then
        match rest with
        | low :: rest =>
            if isLow low then
              (joinUnits rest).map fun chars => Char.ofNat (0x10000 + (unit - 0xD800) * 0x400 + (low - 0xDC00)) :: chars
            else none
        | [] => none
      else if isLow unit then none
      else (joinUnits rest).map fun chars => Char.ofNat unit :: chars

def readString (text : List Char) : Option (String × List Char) :=
  match readUnits text with
  | none => none
  | some (read, after) => (joinUnits read).map fun chars => (String.ofList chars, after)

-- Digits without a leading zero. A fraction or an exponent makes a float, which no value here is.
def readNatural (text : List Char) : Option (Nat × List Char) :=
  let digits := text.takeWhile isDigit
  let rest := text.dropWhile isDigit
  if digits = [] ∨ (digits.head? = some '0' ∧ digits ≠ ['0']) then none
  else if rest.head?.any fun c => c = '.' || c = 'e' || c = 'E' then none
  else some (Nat.ofDigitChars 10 digits 0, rest)

def readNumber : List Char → Option (Int × List Char)
  | '-' :: rest => (readNatural rest).map fun (value, after) => (-(value : Int), after)
  | text => (readNatural text).map fun (value, after) => ((value : Int), after)

def readScalar : List Char → Option (Json × List Char)
  | 'n' :: 'u' :: 'l' :: 'l' :: rest => some (.null, rest)
  | 't' :: 'r' :: 'u' :: 'e' :: rest => some (.bool true, rest)
  | 'f' :: 'a' :: 'l' :: 's' :: 'e' :: rest => some (.bool false, rest)
  | '"' :: rest => (readString rest).map fun (text, after) => (.str text, after)
  | text => (readNumber text).map fun (value, after) => (.num value, after)

-- A dict keeps the place of a key's first occurrence and the value of its last.
def put (fields : List (String × Json)) (entry : String × Json) : List (String × Json) :=
  if fields.any fun held => held.1 = entry.1 then fields.map fun held => if held.1 = entry.1 then entry else held
  else fields ++ [entry]

def collect (fields : List (String × Json)) : List (String × Json) := fields.foldl put []

-- A key, its colon, and the text of the value.
def readKey : List Char → Option (String × List Char)
  | '"' :: rest =>
      match readString rest with
      | none => none
      | some (key, after) =>
          match skipBlank after with
          | ':' :: value => some (key, skipBlank value)
          | _ => none
  | _ => none

mutual

def readValue : Nat → List Char → Option (Json × List Char)
  | 0, _ => none
  | limit + 1, '[' :: rest =>
      match skipBlank rest with
      | ']' :: after => some (.arr [], after)
      | items => (readItems limit items).map fun (items, after) => (.arr items, after)
  | limit + 1, '{' :: rest =>
      match skipBlank rest with
      | '}' :: after => some (.obj [], after)
      | fields => (readFields limit fields).map fun (fields, after) => (.obj (collect fields), after)
  | _ + 1, text => readScalar text

def readItems : Nat → List Char → Option (List Json × List Char)
  | 0, _ => none
  | limit + 1, text =>
      match readValue limit text with
      | none => none
      | some (item, after) =>
          match skipBlank after with
          | ']' :: after => some ([item], after)
          | ',' :: more => (readItems limit (skipBlank more)).map fun (items, after) => (item :: items, after)
          | _ => none

def readFields : Nat → List Char → Option (List (String × Json) × List Char)
  | 0, _ => none
  | limit + 1, text =>
      match readKey text with
      | none => none
      | some (key, value) =>
          match readValue limit value with
          | none => none
          | some (stored, after) =>
              match skipBlank after with
              | '}' :: after => some ([(key, stored)], after)
              | ',' :: more => (readFields limit (skipBlank more)).map fun (fields, after) => ((key, stored) :: fields, after)
              | _ => none

end

def loads (text : List Char) : Option Json :=
  match readValue (text.length + 1) (skipBlank text) with
  | some (value, after) => if skipBlank after = [] then some value else none
  | none => none

end Reader

section Strings

theorem hex_value_digit (value : Nat) : hexValue (hexDigit value) = some (value % 16) := by
  have each : ∀ digit < 16, hexValue (Nat.digitChar digit) = some digit := by decide
  exact each (value % 16) (Nat.mod_lt value (by decide))

theorem hex_unit_digits (unit : Nat) (small : unit < 0x10000) :
    hexUnit (hexDigit (unit / 16 / 16 / 16)) (hexDigit (unit / 16 / 16)) (hexDigit (unit / 16)) (hexDigit unit) =
      some unit := by
  have parts : ((unit / 16 / 16 / 16 % 16 * 16 + unit / 16 / 16 % 16) * 16 + unit / 16 % 16) * 16 + unit % 16 = unit := by
    omega
  simp only [hexUnit, hex_value_digit, Option.bind_eq_bind, Option.bind_some]
  exact congrArg some parts

theorem plain_char (unit : Nat) (low : 0x20 ≤ unit) (high : unit < 0x7F) : (Char.ofNat unit).toNat = unit := by
  rw [Char.ofNat, dif_pos (Or.inl (by omega))]
  rfl

-- A spelled unit is read back.
theorem read_unit (unit : Nat) (small : unit < 0x10000) (rest : List Char) :
    readUnits (unitText unit ++ rest) = (readUnits rest).map fun (read, after) => (unit :: read, after) := by
  have escape (c : Char) (known : escaped c = some unit) :
      readUnits ('\\' :: c :: rest) = (readUnits rest).map fun (read, after) => (unit :: read, after) := by
    have notU : c ≠ 'u' := by
      intro isU
      rw [isU] at known
      cases known
    rw [readUnits]
    · rw [known]
      cases readUnits rest with
      | none => rfl
      | some pair => rfl
    · intro a b c' d rest' same
      exact absurd same notU
  unfold unitText
  split
  · rename_i is
    exact escape '"' (by rw [is]; rfl)
  split
  · rename_i is
    exact escape '\\' (by rw [is]; rfl)
  split
  · rename_i is
    exact escape 'n' (by rw [is]; rfl)
  split
  · rename_i is
    exact escape 'r' (by rw [is]; rfl)
  split
  · rename_i is
    exact escape 't' (by rw [is]; rfl)
  split
  · rename_i is
    exact escape 'f' (by rw [is]; rfl)
  split
  · rename_i is
    exact escape 'b' (by rw [is]; rfl)
  rename_i notQuote notBackslash _ _ _ _ _
  split
  · rename_i printable
    have value := plain_char unit printable.1 printable.2
    have quote : Char.ofNat unit ≠ '"' := fun same => notQuote (by rw [← value, same]; rfl)
    have backslash : Char.ofNat unit ≠ '\\' := fun same => notBackslash (by rw [← value, same]; rfl)
    rw [List.singleton_append, readUnits]
    · have allowed : ¬ ((Char.ofNat unit).toNat < 0x20 ∨ Char.ofNat unit = '\\') := by
        rw [value, not_or]
        exact ⟨by omega, backslash⟩
      rw [if_neg allowed, value]
      cases readUnits rest with
      | none => rfl
      | some pair => rfl
    · exact quote
    · intro a b c d rest' same
      exact absurd same backslash
    · intro c rest' same
      exact absurd same backslash
  · have digits : hexDigits 4 unit =
        [hexDigit (unit / 16 / 16 / 16), hexDigit (unit / 16 / 16), hexDigit (unit / 16), hexDigit unit] := rfl
    rw [digits]
    simp only [List.cons_append, List.nil_append, readUnits, hex_unit_digits unit small]
    cases readUnits rest with
    | none => rfl
    | some pair => rfl

theorem read_units_text (read : List Nat) (small : ∀ unit ∈ read, unit < 0x10000) (rest : List Char) :
    readUnits (read.flatMap unitText ++ '"' :: rest) = some (read, rest) := by
  induction read with
  | nil => rfl
  | cons unit later ih =>
      rw [List.flatMap_cons, List.append_assoc, read_unit unit (small unit List.mem_cons_self),
        ih fun other member => small other (List.mem_cons_of_mem unit member)]
      rfl

theorem char_bounds (c : Char) : c.toNat < 0x110000 ∧ (c.toNat < 0xD800 ∨ 0xDFFF < c.toNat) := by
  have valid := c.valid
  simp only [UInt32.isValidChar, Nat.isValidChar] at valid
  change (c.toNat < 0xD800) ∨ (0xDFFF < c.toNat ∧ c.toNat < 0x110000) at valid
  omega

theorem units_small (c : Char) : ∀ unit ∈ units c, unit < 0x10000 := by
  have bounds := char_bounds c
  unfold units
  split
  · intro unit member
    rw [List.mem_singleton.mp member]
    assumption
  · intro unit member
    cases List.mem_cons.mp member with
    | inl high =>
        rw [high]
        omega
    | inr later =>
        rw [List.mem_singleton.mp later]
        omega

theorem join_char (c : Char) (rest : List Nat) : joinUnits (units c ++ rest) = (joinUnits rest).map fun chars => c :: chars := by
  have bounds := char_bounds c
  unfold units
  split
  · have notHigh : isHigh c.toNat = false := by
      simp only [isHigh, Bool.and_eq_false_iff, decide_eq_false_iff_not]
      omega
    have notLow : isLow c.toNat = false := by
      simp only [isLow, Bool.and_eq_false_iff, decide_eq_false_iff_not]
      omega
    rw [List.singleton_append, joinUnits.eq_def]
    simp only [notHigh, notLow, Bool.false_eq_true, if_false, Char.ofNat_toNat]
  · have high : isHigh (0xD800 + (c.toNat - 0x10000) / 0x400) = true := by
      simp only [isHigh, Bool.and_eq_true, decide_eq_true_eq]
      omega
    have low : isLow (0xDC00 + (c.toNat - 0x10000) % 0x400) = true := by
      simp only [isLow, Bool.and_eq_true, decide_eq_true_eq]
      omega
    have whole : 0x10000 + (0xD800 + (c.toNat - 0x10000) / 0x400 - 0xD800) * 0x400 +
        (0xDC00 + (c.toNat - 0x10000) % 0x400 - 0xDC00) = c.toNat := by omega
    rw [List.cons_append, List.singleton_append]
    simp only [joinUnits, high, low, if_true, whole, Char.ofNat_toNat]

theorem join_units (chars : List Char) : joinUnits (chars.flatMap units) = some chars := by
  induction chars with
  | nil => rfl
  | cons c rest ih =>
      rw [List.flatMap_cons, join_char, ih]
      rfl

-- A string is read back up to its closing quote, whatever follows.
theorem read_string (text : String) (rest : List Char) :
    readString ((text.toList.flatMap units).flatMap unitText ++ '"' :: rest) = some (text, rest) := by
  have small : ∀ unit ∈ text.toList.flatMap units, unit < 0x10000 := by
    intro unit member
    obtain ⟨c, _, spelled⟩ := List.mem_flatMap.mp member
    exact units_small c unit spelled
  rw [readString, read_units_text _ small rest]
  simp only [join_units, Option.map_some, String.ofList_toList]

end Strings

section Numbers

theorem digit_of_mem (value : Nat) (c : Char) (member : c ∈ Nat.toDigits 10 value) : isDigit c = true := by
  have digit := Nat.isDigit_of_mem_toDigits (by decide) (by decide) member
  rw [Char.isDigit_iff_toNat] at digit
  simp only [isDigit, Bool.and_eq_true, decide_eq_true_eq, Char.le_def, UInt32.le_iff_toNat_le]
  exact digit

theorem no_leading_zero (value : Nat) (positive : 0 < value) : (Nat.toDigits 10 value).head? ≠ some '0' := by
  induction value using Nat.strongRecOn with
  | ind value ih =>
      by_cases small : value < 10
      · have each : ∀ digit < 10, 0 < digit → some (Nat.digitChar digit) ≠ some '0' := by decide
        rw [Nat.toDigits_of_lt_base small]
        exact each value small positive
      · have front := ih (value / 10) (by omega) (by omega)
        rw [Nat.toDigits_of_base_le (by decide) (by omega), List.head?_append]
        cases digits : (Nat.toDigits 10 (value / 10)).head? with
        | none => exact absurd (List.head?_eq_none_iff.mp digits) Nat.toDigits_ne_nil
        | some c =>
            rw [digits] at front
            exact front

-- What may follow a number.
def EndsNumber (rest : List Char) : Prop := ∀ c ∈ rest.head?, isDigit c = false ∧ c ≠ '.' ∧ c ≠ 'e' ∧ c ≠ 'E'

theorem read_natural (value : Nat) (rest : List Char) (ends : EndsNumber rest) :
    readNatural (Nat.toDigits 10 value ++ rest) = some (value, rest) := by
  have all : ∀ c ∈ Nat.toDigits 10 value, isDigit c = true := digit_of_mem value
  have stop : rest.takeWhile isDigit = [] ∧ rest.dropWhile isDigit = rest := by
    cases rest with
    | nil => exact ⟨rfl, rfl⟩
    | cons c more =>
        have other := (ends c rfl).1
        simp [other]
  have digits : (Nat.toDigits 10 value ++ rest).takeWhile isDigit = Nat.toDigits 10 value := by
    rw [List.takeWhile_append_of_pos all, stop.1, List.append_nil]
  have after : (Nat.toDigits 10 value ++ rest).dropWhile isDigit = rest := by
    rw [List.dropWhile_append_of_pos all, stop.2]
  have shaped : ¬ (Nat.toDigits 10 value = [] ∨
      ((Nat.toDigits 10 value).head? = some '0' ∧ Nat.toDigits 10 value ≠ ['0'])) := by
    rintro (empty | ⟨zero, more⟩)
    · exact Nat.toDigits_ne_nil empty
    · cases value with
      | zero => exact more (Nat.toDigits_zero 10)
      | succ lower => exact no_leading_zero (lower + 1) (Nat.succ_pos lower) zero
  have whole : ¬ (rest.head?.any fun c => c = '.' || c = 'e' || c = 'E') = true := by
    cases rest with
    | nil => exact Bool.false_ne_true
    | cons c more =>
        have other := ends c rfl
        simp [other.2.1, other.2.2.1, other.2.2.2]
  simp only [readNatural, digits, after, if_neg shaped, if_neg whole, Nat.ofDigitChars_ten_toDigits]

theorem read_number (value : Int) (rest : List Char) (ends : EndsNumber rest) :
    readNumber (numberText value ++ rest) = some (value, rest) := by
  unfold numberText
  by_cases negative : value < 0
  · rw [if_pos negative, List.cons_append]
    have same : -((value.natAbs : Nat) : Int) = value := by omega
    simp only [readNumber, read_natural value.natAbs rest ends, Option.map_some, same]
  · rw [if_neg negative]
    have same : ((value.natAbs : Nat) : Int) = value := by omega
    have plain : ∀ more, Nat.toDigits 10 value.natAbs ++ rest ≠ '-' :: more := by
      intro more minus
      cases digits : Nat.toDigits 10 value.natAbs with
      | nil => exact Nat.toDigits_ne_nil digits
      | cons c others =>
          rw [digits, List.cons_append] at minus
          have digit := digit_of_mem value.natAbs c (by rw [digits]; exact List.mem_cons_self)
          rw [(List.cons.inj minus).1] at digit
          exact absurd digit (by decide)
    rw [readNumber.eq_2 _ plain, read_natural value.natAbs rest ends]
    simp only [Option.map_some, same]

end Numbers

section RoundTrip

mutual

-- No object has a key twice.
def Distinct : Json → Prop
  | .arr items => DistinctItems items
  | .obj fields => (fields.map Prod.fst).Nodup ∧ DistinctFields fields
  | _ => True

def DistinctItems : List Json → Prop
  | [] => True
  | item :: rest => Distinct item ∧ DistinctItems rest

def DistinctFields : List (String × Json) → Prop
  | [] => True
  | (_, value) :: rest => Distinct value ∧ DistinctFields rest

end

theorem collect_distinct (fields : List (String × Json)) (distinct : (fields.map Prod.fst).Nodup) :
    collect fields = fields := by
  have onto (held rest : List (String × Json)) (different : ((held ++ rest).map Prod.fst).Nodup) :
      rest.foldl put held = held ++ rest := by
    induction rest generalizing held with
    | nil => rw [List.foldl_nil, List.append_nil]
    | cons entry more ih =>
        have new : ¬ (held.any fun old => old.1 = entry.1) = true := by
          intro known
          obtain ⟨old, member, same⟩ := List.any_eq_true.mp known
          rw [List.map_append, List.nodup_append] at different
          exact different.2.2 old.1 (List.mem_map_of_mem member) entry.1 (by simp) (of_decide_eq_true same)
        rw [List.foldl_cons, put, if_neg new, ih (held ++ [entry]) (by simpa using different)]
        simp
  exact onto [] fields distinct

theorem skip_blank_other (c : Char) (rest : List Char) (other : isJsonBlank c = false) :
    skipBlank (c :: rest) = c :: rest := by
  simp [skipBlank, other]

-- What a value's text begins with: no blank, and no closing bracket.
theorem dumps_starts (value : Json) : ∃ c more, dumps value = c :: more ∧ isJsonBlank c = false ∧ c ≠ ']' := by
  cases value with
  | null => exact ⟨_, _, rfl, by decide, by decide⟩
  | bool value =>
      cases value with
      | false => exact ⟨_, _, rfl, by decide, by decide⟩
      | true => exact ⟨_, _, rfl, by decide, by decide⟩
  | str text => exact ⟨_, _, rfl, by decide, by decide⟩
  | arr items => exact ⟨_, _, rfl, by decide, by decide⟩
  | obj fields => exact ⟨_, _, rfl, by decide, by decide⟩
  | num value =>
      change ∃ c more, numberText value = c :: more ∧ isJsonBlank c = false ∧ c ≠ ']'
      unfold numberText
      split
      · exact ⟨_, _, rfl, by decide, by decide⟩
      · cases digits : Nat.toDigits 10 value.natAbs with
        | nil => exact absurd digits Nat.toDigits_ne_nil
        | cons c more =>
            have digit := digit_of_mem value.natAbs c (by rw [digits]; exact List.mem_cons_self)
            refine ⟨c, more, rfl, ?_, ?_⟩
            · cases blank : isJsonBlank c with
              | false => rfl
              | true =>
                  simp only [isJsonBlank, Bool.or_eq_true, decide_eq_true_eq] at blank
                  rcases blank with ((is | is) | is) | is
                  all_goals
                    rw [is] at digit
                    exact absurd digit (by decide)
            · intro is
              rw [is] at digit
              exact absurd digit (by decide)

theorem read_scalar (text : List Char) (c : Char) (more : List Char) (starts : text = c :: more) (bracket : c ≠ '[')
    (brace : c ≠ '{') (limit : Nat) : readValue (limit + 1) text = readScalar text := by
  rw [readValue]
  · intro rest same
    rw [starts] at same
    exact bracket (List.cons.inj same).1
  · intro rest same
    rw [starts] at same
    exact brace (List.cons.inj same).1

theorem read_scalar_number (value : Int) (rest : List Char) (ends : EndsNumber rest) (limit : Nat) :
    readValue (limit + 1) (numberText value ++ rest) = some (.num value, rest) := by
  have starts : ∃ c more, numberText value ++ rest = c :: more ∧ (c = '-' ∨ isDigit c = true) := by
    unfold numberText
    split
    · exact ⟨_, _, rfl, .inl rfl⟩
    · cases digits : Nat.toDigits 10 value.natAbs with
      | nil => exact absurd digits Nat.toDigits_ne_nil
      | cons c more =>
          exact ⟨c, more ++ rest, rfl, .inr (digit_of_mem value.natAbs c (by rw [digits]; exact List.mem_cons_self))⟩
  obtain ⟨c, more, same, begins⟩ := starts
  have other (letter : Char) (notMinus : letter ≠ '-') (notDigit : isDigit letter = false) : c ≠ letter := by
    intro is
    rw [is] at begins
    cases begins with
    | inl minus => exact notMinus minus
    | inr digit => exact absurd (notDigit.symm.trans digit) (by decide)
  rw [read_scalar _ c more same (other '[' (by decide) (by decide)) (other '{' (by decide) (by decide)) limit]
  have plain : readScalar (numberText value ++ rest) = (readNumber (numberText value ++ rest)).map fun (value, after) =>
      (Json.num value, after) := by
    rw [same, readScalar]
    · intro rest' letters
      exact other 'n' (by decide) (by decide) (List.cons.inj letters).1
    · intro rest' letters
      exact other 't' (by decide) (by decide) (List.cons.inj letters).1
    · intro rest' letters
      exact other 'f' (by decide) (by decide) (List.cons.inj letters).1
    · intro rest' letters
      exact other '"' (by decide) (by decide) (List.cons.inj letters).1
  rw [plain, read_number value rest ends]
  rfl

theorem ends_at (c : Char) (rest : List Char) (other : isDigit c = false ∧ c ≠ '.' ∧ c ≠ 'e' ∧ c ≠ 'E') :
    EndsNumber (c :: rest) := by
  intro first is
  rw [← Option.some.inj is]
  exact other

theorem read_key (key : String) (value : Json) (rest : List Char) :
    readKey (quoted key ++ ':' :: (dumps value ++ rest)) = some (key, dumps value ++ rest) := by
  have whole : quoted key ++ ':' :: (dumps value ++ rest) =
      '"' :: ((key.toList.flatMap units).flatMap unitText ++ '"' :: ':' :: (dumps value ++ rest)) := by
    simp [quoted]
  obtain ⟨c, more, starts, notBlank, _⟩ := dumps_starts value
  rw [whole, readKey, read_string key]
  simp only [skip_blank_other ':' _ (by decide)]
  rw [starts, List.cons_append, skip_blank_other c _ notBlank]

mutual

theorem read_value (value : Json) (distinct : Distinct value) (limit : Nat) (enough : (dumps value).length < limit)
    (rest : List Char) (ends : EndsNumber rest) : readValue limit (dumps value ++ rest) = some (value, rest) := by
  cases limit with
  | zero => omega
  | succ limit =>
      cases value with
      | null => exact read_scalar _ 'n' _ rfl (by decide) (by decide) limit
      | bool value =>
          cases value with
          | false => exact read_scalar _ 'f' _ rfl (by decide) (by decide) limit
          | true => exact read_scalar _ 't' _ rfl (by decide) (by decide) limit
      | num value => exact read_scalar_number value rest ends limit
      | str text =>
          have whole : dumps (.str text) ++ rest = '"' :: ((text.toList.flatMap units).flatMap unitText ++ '"' :: rest) := by
            simp [dumps, quoted]
          rw [whole, read_scalar _ '"' _ rfl (by decide) (by decide) limit, readScalar, read_string]
          rfl
      | arr items =>
          cases items with
          | nil => rfl
          | cons item later =>
              have shorter : (dumpsItems (item :: later)).length + 1 < limit := by
                simp only [dumps, List.length_append, List.length_cons, List.length_nil] at enough
                omega
              have read := read_items (item :: later) (List.cons_ne_nil _ _) distinct limit shorter rest
              have whole : dumps (.arr (item :: later)) ++ rest = '[' :: (dumpsItems (item :: later) ++ ']' :: rest) := by
                simp [dumps]
              obtain ⟨c, more, starts, notBlank, notClosing⟩ := dumps_starts item
              have front : ∃ more, dumpsItems (item :: later) ++ ']' :: rest = c :: more := by
                cases later with
                | nil => exact ⟨more ++ ']' :: rest, by rw [dumpsItems, starts]; rfl⟩
                | cons next others => exact ⟨_, by rw [dumpsItems, starts]; rfl⟩
              obtain ⟨more', begins⟩ := front
              rw [whole, readValue, begins, skip_blank_other c more' notBlank]
              rw [begins] at read
              split
              · rename_i after closing
                exact absurd (List.cons.inj closing).1 notClosing
              · rw [read]
                rfl
      | obj fields =>
          cases fields with
          | nil => rfl
          | cons field later =>
              obtain ⟨key, stored⟩ := field
              have shorter : (dumpsFields ((key, stored) :: later)).length + 1 < limit := by
                simp only [dumps, List.length_append, List.length_cons, List.length_nil] at enough
                omega
              have read := read_fields ((key, stored) :: later) (List.cons_ne_nil _ _) distinct.2 limit shorter rest
              have whole : dumps (.obj ((key, stored) :: later)) ++ rest =
                  '{' :: (dumpsFields ((key, stored) :: later) ++ '}' :: rest) := by
                simp [dumps]
              have front : ∃ more, dumpsFields ((key, stored) :: later) ++ '}' :: rest = '"' :: more := by
                cases later with
                | nil => exact ⟨_, by rw [dumpsFields]; rfl⟩
                | cons next others => exact ⟨_, by rw [dumpsFields]; rfl⟩
              obtain ⟨more', begins⟩ := front
              rw [whole, readValue, begins, skip_blank_other '"' more' (by decide)]
              rw [begins] at read
              split
              · rename_i after closing
                exact absurd (List.cons.inj closing).1 (by decide)
              · rw [read]
                simp only [Option.map_some, collect_distinct _ distinct.1]

theorem read_items (items : List Json) (some' : items ≠ []) (distinct : DistinctItems items) (limit : Nat)
    (enough : (dumpsItems items).length + 1 < limit) (rest : List Char) :
    readItems limit (dumpsItems items ++ ']' :: rest) = some (items, rest) := by
  cases limit with
  | zero => omega
  | succ limit =>
      cases items with
      | nil => exact absurd rfl some'
      | cons item later =>
          cases later with
          | nil =>
              simp only [dumpsItems] at enough ⊢
              rw [readItems, read_value item distinct.1 limit (by omega) (']' :: rest) (ends_at ']' rest (by decide))]
              simp only [skip_blank_other ']' rest (by decide)]
          | cons next others =>
              simp only [dumpsItems, List.length_append, List.length_cons] at enough
              have read := read_items (next :: others) (List.cons_ne_nil _ _) distinct.2 limit (by omega) rest
              have first := read_value item distinct.1 limit (by omega) (',' :: (dumpsItems (next :: others) ++ ']' :: rest))
                (ends_at ',' _ (by decide))
              have whole : dumpsItems (item :: next :: others) ++ ']' :: rest =
                  dumps item ++ ',' :: (dumpsItems (next :: others) ++ ']' :: rest) := by
                simp [dumpsItems]
              obtain ⟨c, more, starts, notBlank, _⟩ := dumps_starts next
              have front : ∃ more, dumpsItems (next :: others) ++ ']' :: rest = c :: more := by
                cases others with
                | nil => exact ⟨more ++ ']' :: rest, by rw [dumpsItems, starts]; rfl⟩
                | cons after rest' => exact ⟨_, by rw [dumpsItems, starts]; rfl⟩
              obtain ⟨more', begins⟩ := front
              rw [whole, readItems, first]
              rw [begins] at read
              simp only [skip_blank_other ',' _ (by decide : isJsonBlank ',' = false), begins,
                skip_blank_other c more' notBlank, read, Option.map_some]

theorem read_fields (fields : List (String × Json)) (some' : fields ≠ []) (distinct : DistinctFields fields) (limit : Nat)
    (enough : (dumpsFields fields).length + 1 < limit) (rest : List Char) :
    readFields limit (dumpsFields fields ++ '}' :: rest) = some (fields, rest) := by
  cases limit with
  | zero => omega
  | succ limit =>
      cases fields with
      | nil => exact absurd rfl some'
      | cons field later =>
          obtain ⟨key, stored⟩ := field
          cases later with
          | nil =>
              simp only [dumpsFields, List.length_append, List.length_cons] at enough
              have whole : dumpsFields [(key, stored)] ++ '}' :: rest = quoted key ++ ':' :: (dumps stored ++ '}' :: rest) := by
                simp [dumpsFields]
              rw [whole, readFields, read_key]
              simp only [read_value stored distinct.1 limit (by omega) ('}' :: rest) (ends_at '}' rest (by decide)),
                skip_blank_other '}' rest (by decide : isJsonBlank '}' = false)]
          | cons next others =>
              obtain ⟨nextKey, nextStored⟩ := next
              simp only [dumpsFields, List.length_append, List.length_cons] at enough
              have read := read_fields ((nextKey, nextStored) :: others) (List.cons_ne_nil _ _) distinct.2 limit (by omega) rest
              have first := read_value stored distinct.1 limit (by omega)
                (',' :: (dumpsFields ((nextKey, nextStored) :: others) ++ '}' :: rest)) (ends_at ',' _ (by decide))
              have whole : dumpsFields ((key, stored) :: (nextKey, nextStored) :: others) ++ '}' :: rest =
                  quoted key ++ ':' :: (dumps stored ++ ',' :: (dumpsFields ((nextKey, nextStored) :: others) ++ '}' :: rest)) := by
                simp [dumpsFields]
              have front : ∃ more, dumpsFields ((nextKey, nextStored) :: others) ++ '}' :: rest = '"' :: more := by
                cases others with
                | nil => exact ⟨_, by rw [dumpsFields]; rfl⟩
                | cons after rest' => exact ⟨_, by rw [dumpsFields]; rfl⟩
              obtain ⟨more', begins⟩ := front
              rw [whole, readFields, read_key]
              rw [begins] at read first
              simp only [first, begins, skip_blank_other ',' _ (by decide : isJsonBlank ',' = false),
                skip_blank_other '"' more' (by decide : isJsonBlank '"' = false), read, Option.map_some]

end

theorem loads_dumps (value : Json) (distinct : Distinct value) : loads (dumps value) = some value := by
  obtain ⟨c, more, starts, notBlank, _⟩ := dumps_starts value
  have trimmed : skipBlank (dumps value) = dumps value := by rw [starts, skip_blank_other c more notBlank]
  have read := read_value value distinct ((dumps value).length + 1) (Nat.lt_succ_self _) [] (fun c absent => by cases absent)
  rw [List.append_nil] at read
  simp only [loads, trimmed, read]
  rfl

end RoundTrip

section Longer

theorem units_escape (c : Char) (rest : List Char) (other : c ≠ 'u') : readUnits ('\\' :: c :: rest) =
    match escaped c, readUnits rest with
    | some unit, some (read, after) => some (unit :: read, after)
    | _, _ => none := by
  rw [readUnits]
  intro a b c' d rest' isU
  exact absurd isU other

theorem units_plain (c : Char) (rest : List Char) (quote : c ≠ '"') (plain : ¬ (c.toNat < 0x20 ∨ c = '\\')) :
    readUnits (c :: rest) = (readUnits rest).map fun (read, after) => (c.toNat :: read, after) := by
  have slash : c ≠ '\\' := fun is => plain (Or.inr is)
  rw [readUnits, if_neg plain]
  · cases readUnits rest with
    | none => rfl
    | some entry => rfl
  · exact quote
  · intro a b c' d rest' is
    exact absurd is slash
  · intro c' rest' is
    exact absurd is slash

-- A text that has been read is read the same with more behind it.
theorem units_more (text more : List Char) (read : List Nat) (after : List Char) (given : readUnits text = some (read, after)) :
    readUnits (text ++ more) = some (read, after ++ more) := by
  fun_induction readUnits text generalizing read after with
  | case1 => cases given
  | case2 rest =>
      cases given
      rfl
  | case3 a b c d rest unit read' after' isRead isUnit ih =>
      cases given
      have later := ih _ _ isRead
      simp only [List.cons_append, readUnits, later, isUnit]
  | case4 => cases given
  | case5 c rest other unit read' after' isRead isUnit ih =>
      cases given
      have plain : c ≠ 'u' := by
        intro is
        rw [is] at isUnit
        cases isUnit
      rw [List.cons_append, List.cons_append, units_escape c _ plain, isUnit, ih _ _ isRead]
  | case6 => cases given
  | case7 => cases given
  | case8 c rest quote _ _ plain read' after' isRead ih =>
      cases given
      rw [List.cons_append, units_plain c _ quote plain, ih _ _ isRead]
      rfl
  | case9 => cases given

theorem string_more (text more after : List Char) (read : String) (given : readString text = some (read, after)) :
    readString (text ++ more) = some (read, after ++ more) := by
  rw [readString] at given
  cases isRead : readUnits text with
  | none =>
      rw [isRead] at given
      cases given
  | some entry =>
      obtain ⟨units, rest⟩ := entry
      rw [isRead] at given
      obtain ⟨chars, joined, same⟩ := Option.map_eq_some_iff.mp given
      cases same
      rw [readString, units_more text more units _ isRead]
      simp only [joined, Option.map_some]

theorem natural_more (text more after : List Char) (value : Nat) (given : readNatural text = some (value, after)) (behind : after ≠ []) :
    readNatural (text ++ more) = some (value, after ++ more) := by
  have digits : ∀ c ∈ text.takeWhile isDigit, isDigit c = true := List.all_eq_true.mp List.all_takeWhile
  have parts := List.takeWhile_append_dropWhile (p := isDigit) (l := text)
  have stops := List.head?_dropWhile_not isDigit text
  rw [readNatural] at given ⊢
  cases left : text.dropWhile isDigit with
  | nil =>
      simp only [left] at given
      split at given
      · cases given
      · exact absurd (Prod.mk.inj (Option.some.inj given)).2.symm behind
  | cons c others =>
      rw [left] at parts stops
      have stops : isDigit c = false := by simpa using stops
      have refused : ¬ isDigit c = true := by rw [stops]; exact Bool.false_ne_true
      have whole : text ++ more = text.takeWhile isDigit ++ c :: (others ++ more) := by
        conv_lhs => rw [← parts]
        rw [List.append_assoc, List.cons_append]
      have taken : (text ++ more).takeWhile isDigit = text.takeWhile isDigit := by
        rw [whole, List.takeWhile_append_of_pos digits, List.takeWhile_cons_of_neg refused, List.append_nil]
      have dropped : (text ++ more).dropWhile isDigit = c :: (others ++ more) := by
        rw [whole, List.dropWhile_append_of_pos digits, List.dropWhile_cons_of_neg refused]
      simp only [taken, dropped, left, List.head?_cons] at given ⊢
      split at given
      · cases given
      · split at given
        · cases given
        · rename_i shaped natural
          obtain ⟨same, rest⟩ := Prod.mk.inj (Option.some.inj given)
          rw [if_neg shaped, if_neg natural, same, ← rest, List.cons_append]

-- What a number begins with is in no other scalar.
theorem scalar_number (c : Char) (rest : List Char) (begins : c = '-' ∨ isDigit c = true) :
    readScalar (c :: rest) = (readNumber (c :: rest)).map fun (value, after) => (.num value, after) := by
  have other : c ≠ 'n' ∧ c ≠ 't' ∧ c ≠ 'f' ∧ c ≠ '"' := by
    cases begins with
    | inl minus =>
        rw [minus]
        decide
    | inr digit =>
        refine ⟨?_, ?_, ?_, ?_⟩ <;> intro is <;> rw [is] at digit <;> cases digit
  rw [readScalar]
  · exact fun rest' is => absurd (List.cons.inj is).1 other.1
  · exact fun rest' is => absurd (List.cons.inj is).1 other.2.1
  · exact fun rest' is => absurd (List.cons.inj is).1 other.2.2.1
  · exact fun rest' is => absurd (List.cons.inj is).1 other.2.2.2

theorem number_begins (text after : List Char) (value : Int) (given : readNumber text = some (value, after)) :
    ∃ c rest, text = c :: rest ∧ (c = '-' ∨ isDigit c = true) := by
  cases text with
  | nil => cases given
  | cons c rest =>
      refine ⟨c, rest, rfl, ?_⟩
      by_cases minus : c = '-'
      · exact Or.inl minus
      · refine Or.inr ?_
        by_contra notDigit
        have natural : readNumber (c :: rest) = (readNatural (c :: rest)).map fun (value, after) => ((value : Int), after) := by
          rw [readNumber]
          exact fun rest' is => absurd (List.cons.inj is).1 minus
        have none' : readNatural (c :: rest) = none := by
          rw [readNatural, List.takeWhile_cons_of_neg notDigit]
          rfl
        rw [natural, none'] at given
        cases given

theorem number_more (text more after : List Char) (value : Int) (given : readNumber text = some (value, after)) (behind : after ≠ []) :
    readNumber (text ++ more) = some (value, after ++ more) := by
  have natural : ∀ (inner : List Char) (sign : Nat → Int),
      ((readNatural inner).map fun (value, after) => (sign value, after)) = some (value, after) →
      ((readNatural (inner ++ more)).map fun (value, after) => (sign value, after)) = some (value, after ++ more) := by
    intro inner sign read
    obtain ⟨entry, isRead, same⟩ := Option.map_eq_some_iff.mp read
    obtain ⟨size, left⟩ := entry
    cases same
    rw [natural_more inner more _ size isRead behind]
    rfl
  obtain ⟨c, rest, isText, _⟩ := number_begins text after value given
  rw [isText] at given ⊢
  by_cases minus : c = '-'
  · rw [minus] at given ⊢
    exact natural rest (fun value => -(value : Int)) given
  · rw [List.cons_append]
    rw [readNumber] at given ⊢
    · exact natural (c :: rest) (fun value => (value : Int)) given
    · exact fun rest' is => absurd (List.cons.inj is).1 minus
    · exact fun rest' is => absurd (List.cons.inj is).1 minus

theorem scalar_more (text more after : List Char) (value : Json) (given : readScalar text = some (value, after)) (behind : after ≠ []) :
    readScalar (text ++ more) = some (value, after ++ more) := by
  fun_cases readScalar text with
  | case1 rest =>
      cases given
      rfl
  | case2 rest =>
      cases given
      rfl
  | case3 rest =>
      cases given
      rfl
  | case4 rest =>
      obtain ⟨entry, isRead, same⟩ := Option.map_eq_some_iff.mp given
      obtain ⟨read, left⟩ := entry
      cases same
      change (readString (rest ++ more)).map _ = _
      rw [string_more rest more _ read isRead]
      rfl
  | case5 _ notNull notTrue notFalse notString =>
      rw [readScalar] at given
      · obtain ⟨entry, isRead, same⟩ := Option.map_eq_some_iff.mp given
        obtain ⟨number, left⟩ := entry
        cases same
        obtain ⟨c, rest, isText, begins⟩ := number_begins text _ number isRead
        have longer := number_more text more _ number isRead behind
        rw [isText] at longer ⊢
        rw [List.cons_append] at longer ⊢
        rw [scalar_number c _ begins, longer]
        rfl
      · exact notNull
      · exact notTrue
      · exact notFalse
      · exact notString

theorem skip_more (text more rest : List Char) (c : Char) (given : skipBlank text = c :: rest) :
    skipBlank (text ++ more) = c :: (rest ++ more) := by
  induction text with
  | nil => cases given
  | cons d others ih =>
      rw [skipBlank, List.dropWhile_cons] at given
      rw [skipBlank, List.cons_append, List.dropWhile_cons]
      by_cases blank : isJsonBlank d = true
      · rw [if_pos blank] at given ⊢
        exact ih given
      · rw [if_neg blank] at given ⊢
        cases given
        rfl

theorem skip_behind (text rest : List Char) (c : Char) (given : skipBlank text = c :: rest) : text ≠ [] := by
  intro empty
  rw [empty] at given
  cases given

theorem key_more (text more after : List Char) (key : String) (given : readKey text = some (key, after)) (behind : after ≠ []) :
    readKey (text ++ more) = some (key, after ++ more) := by
  fun_cases readKey text with
  | case1 rest none' =>
      rw [readKey, none'] at given
      cases given
  | case2 rest key' left isKey value colon =>
      rw [readKey, isKey] at given
      simp only [colon] at given
      cases given
      obtain ⟨c, others, starts⟩ := List.exists_cons_of_ne_nil behind
      rw [List.cons_append, readKey, string_more rest more left key isKey]
      simp only [skip_more left more value ':' colon, skip_more value more others c starts, starts, List.cons_append]
  | case3 rest key' left isKey noColon =>
      rw [readKey, isKey] at given
      simp only at given
      cases given
  | case4 _ notQuote =>
      rw [readKey] at given
      · cases given
      · exact notQuote

theorem value_nil (limit : Nat) : readValue limit [] = none := by
  cases limit with
  | zero => rfl
  | succ limit => rfl

theorem items_nil (limit : Nat) : readItems limit [] = none := by
  cases limit with
  | zero => rfl
  | succ limit => rw [readItems, value_nil]

theorem fields_nil (limit : Nat) : readFields limit [] = none := by
  cases limit with
  | zero => rfl
  | succ limit => rfl

-- What reads nothing of an empty text has something to read behind the blanks.
theorem skip_read {α : Type} (read : List Char → Option α) (nothing : read [] = none) (text more : List Char) (value : α)
    (given : read (skipBlank text) = some value) : skipBlank (text ++ more) = skipBlank text ++ more := by
  cases starts : skipBlank text with
  | nil =>
      rw [starts, nothing] at given
      cases given
  | cons c rest => exact skip_more text more rest c starts

theorem value_scalar (limit : Nat) (c : Char) (rest : List Char) (array : c ≠ '[') (object : c ≠ '{') :
    readValue (limit + 1) (c :: rest) = readScalar (c :: rest) := by
  rw [readValue]
  · exact fun rest' is => absurd (List.cons.inj is).1 array
  · exact fun rest' is => absurd (List.cons.inj is).1 object

def Longer (limit : Nat) : Prop :=
  (∀ room text more value after, limit ≤ room → readValue limit text = some (value, after) → after ≠ [] ∨ text.head? = some '{' →
      readValue room (text ++ more) = some (value, after ++ more)) ∧
    (∀ room text more items after, limit ≤ room → readItems limit text = some (items, after) →
      readItems room (text ++ more) = some (items, after ++ more)) ∧
    (∀ room text more fields after, limit ≤ room → readFields limit text = some (fields, after) →
      readFields room (text ++ more) = some (fields, after ++ more))

section Rounds
variable (limit room : Nat) (longer : Longer limit) (enough : limit ≤ room)
include longer enough

omit longer enough in
theorem array_items (text items : List Char) (starts : skipBlank text = items) (some' : ∀ after, items ≠ ']' :: after) :
    readValue (limit + 1) ('[' :: text) = (readItems limit items).map fun (items, after) => (.arr items, after) := by
  rw [readValue, starts]
  split
  · rename_i after
    exact absurd rfl (some' after)
  · rfl

omit longer enough in
theorem object_fields (text fields : List Char) (starts : skipBlank text = fields) (some' : ∀ after, fields ≠ '}' :: after) :
    readValue (limit + 1) ('{' :: text) = (readFields limit fields).map fun (fields, after) => (.obj (collect fields), after) := by
  rw [readValue, starts]
  split
  · rename_i after
    exact absurd rfl (some' after)
  · rfl

-- What does not close at once does not with more behind it.
omit longer enough in
theorem open_more (c : Char) (text more : List Char) (present : text ≠ []) (some' : ∀ after, text ≠ c :: after) :
    ∀ after, text ++ more ≠ c :: after := by
  intro after is
  obtain ⟨d, rest, isText⟩ := List.exists_cons_of_ne_nil present
  rw [isText, List.cons_append] at is
  rw [isText, (List.cons.inj is).1] at some'
  exact some' rest rfl

theorem array_more (text more after : List Char) (value : Json) (given : readValue (limit + 1) ('[' :: text) = some (value, after)) :
    readValue (room + 1) ('[' :: (text ++ more)) = some (value, after ++ more) := by
  by_cases closes : ∃ left, skipBlank text = ']' :: left
  · obtain ⟨left, closes⟩ := closes
    rw [readValue, closes] at given
    cases given
    rw [readValue, skip_more text more _ _ closes]
    rfl
  · have some' : ∀ left, skipBlank text ≠ ']' :: left := fun left is => closes ⟨left, is⟩
    rw [array_items limit text _ rfl some'] at given
    obtain ⟨entry, isRead, same⟩ := Option.map_eq_some_iff.mp given
    obtain ⟨read, left⟩ := entry
    cases same
    have starts := skip_read (readItems limit) (items_nil limit) text more _ isRead
    have present : skipBlank text ≠ [] := by
      intro empty
      rw [empty, items_nil] at isRead
      cases isRead
    rw [array_items room _ _ starts (open_more ']' _ more present some'), longer.2.1 room _ more _ _ enough isRead]
    rfl

theorem object_more (text more after : List Char) (value : Json) (given : readValue (limit + 1) ('{' :: text) = some (value, after)) :
    readValue (room + 1) ('{' :: (text ++ more)) = some (value, after ++ more) := by
  by_cases closes : ∃ left, skipBlank text = '}' :: left
  · obtain ⟨left, closes⟩ := closes
    rw [readValue, closes] at given
    cases given
    rw [readValue, skip_more text more _ _ closes]
    rfl
  · have some' : ∀ left, skipBlank text ≠ '}' :: left := fun left is => closes ⟨left, is⟩
    rw [object_fields limit text _ rfl some'] at given
    obtain ⟨entry, isRead, same⟩ := Option.map_eq_some_iff.mp given
    obtain ⟨read, left⟩ := entry
    cases same
    have starts := skip_read (readFields limit) (fields_nil limit) text more _ isRead
    have present : skipBlank text ≠ [] := by
      intro empty
      rw [empty, fields_nil] at isRead
      cases isRead
    rw [object_fields room _ _ starts (open_more '}' _ more present some'), longer.2.2 room _ more _ _ enough isRead]
    rfl

theorem items_more (text more after : List Char) (items : List Json) (given : readItems (limit + 1) text = some (items, after)) :
    readItems (room + 1) (text ++ more) = some (items, after ++ more) := by
  rw [readItems] at given ⊢
  cases first : readValue limit text with
  | none =>
      rw [first] at given
      cases given
  | some entry =>
      obtain ⟨item, left⟩ := entry
      rw [first] at given
      simp only at given
      split at given
      · rename_i rest closing
        cases given
        rw [longer.1 room text more item left enough first (Or.inl (skip_behind left _ _ closing))]
        simp only [skip_more left more _ _ closing]
      · rename_i rest comma
        obtain ⟨entry, isRead, same⟩ := Option.map_eq_some_iff.mp given
        obtain ⟨others, behind⟩ := entry
        cases same
        rw [longer.1 room text more item left enough first (Or.inl (skip_behind left _ _ comma))]
        simp only [skip_more left more _ _ comma, skip_read (readItems limit) (items_nil limit) rest more _ isRead,
          longer.2.1 room _ more _ _ enough isRead, Option.map_some]
      · cases given

theorem fields_more (text more after : List Char) (fields : List (String × Json)) (given : readFields (limit + 1) text = some (fields, after)) :
    readFields (room + 1) (text ++ more) = some (fields, after ++ more) := by
  rw [readFields] at given ⊢
  cases named : readKey text with
  | none =>
      rw [named] at given
      cases given
  | some entry =>
      obtain ⟨key, text'⟩ := entry
      rw [named] at given
      simp only at given
      cases first : readValue limit text' with
      | none =>
          rw [first] at given
          cases given
      | some entry =>
          obtain ⟨item, left⟩ := entry
          rw [first] at given
          simp only at given
          have present : text' ≠ [] := by
            intro empty
            rw [empty, value_nil] at first
            cases first
          split at given
          · rename_i rest closing
            cases given
            rw [key_more text more text' key named present]
            simp only [longer.1 room text' more item left enough first (Or.inl (skip_behind left _ _ closing)), skip_more left more _ _ closing]
          · rename_i rest comma
            obtain ⟨entry, isRead, same⟩ := Option.map_eq_some_iff.mp given
            obtain ⟨others, behind⟩ := entry
            cases same
            rw [key_more text more text' key named present]
            simp only [longer.1 room text' more item left enough first (Or.inl (skip_behind left _ _ comma)), skip_more left more _ _ comma,
              skip_read (readFields limit) (fields_nil limit) rest more _ isRead, longer.2.2 room _ more _ _ enough isRead, Option.map_some]
          · cases given

end Rounds

theorem longer_all (limit : Nat) : Longer limit := by
  induction limit with
  | zero =>
      refine ⟨?_, ?_, ?_⟩
      · intro room text more value after _ given
        cases given
      · intro room text more items after _ given
        cases given
      · intro room text more fields after _ given
        cases given
  | succ limit ih =>
      have below : ∀ room, limit + 1 ≤ room → ∃ less, room = less + 1 ∧ limit ≤ less := by
        intro room enough
        exact ⟨room - 1, by omega, by omega⟩
      refine ⟨?_, ?_, ?_⟩
      · intro room text more value after enough given behind
        obtain ⟨room, rfl, less⟩ := below room enough
        cases text with
        | nil => cases given
        | cons c rest =>
            rw [List.cons_append]
            by_cases array : c = '['
            · rw [array] at given ⊢
              exact array_more limit room ih less rest more after value given
            · by_cases object : c = '{'
              · rw [object] at given ⊢
                exact object_more limit room ih less rest more after value given
              · rw [value_scalar limit c rest array object] at given
                rw [value_scalar room c (rest ++ more) array object]
                exact scalar_more (c :: rest) more after value given (behind.resolve_right fun is => object (Option.some.inj is))
      · intro room text more items after enough given
        obtain ⟨room, rfl, less⟩ := below room enough
        exact items_more limit room ih less text more after items given
      · intro room text more fields after enough given
        obtain ⟨room, rfl, less⟩ := below room enough
        exact fields_more limit room ih less text more after fields given

-- The text of an object, cut short, is no value's.
theorem cut_unread (fields : List (String × Json)) (distinct : Distinct (.obj fields)) (text rest : List Char)
    (split : dumps (.obj fields) = text ++ rest) (cut : rest ≠ []) : loads text = none := by
  cases given : readValue (text.length + 1) (skipBlank text) with
  | none => rw [loads, given]
  | some entry =>
      obtain ⟨value, after⟩ := entry
      have starts : text.head? = some '{' ∧ skipBlank text = text := by
        cases text with
        | nil =>
            rw [skipBlank, List.dropWhile_nil, value_nil] at given
            cases given
        | cons c others =>
            have same : '{' = c := (List.cons.inj split).1
            rw [← same]
            exact ⟨rfl, skip_blank_other '{' others (by decide)⟩
      have whole := read_value (.obj fields) distinct ((dumps (.obj fields)).length + 1) (Nat.lt_succ_self _) [] fun c absent => by cases absent
      have room : text.length + 1 ≤ (dumps (.obj fields)).length + 1 := by
        rw [split, List.length_append]
        omega
      rw [starts.2] at given
      have further := (longer_all _).1 _ text rest value after room given (Or.inr starts.1)
      rw [← split] at further
      rw [List.append_nil, further] at whole
      have ends := (Prod.mk.inj (Option.some.inj whole)).2
      exact absurd (List.append_eq_nil_iff.mp ends).2 cut

end Longer

end JsonText
