import AgenticNetops.Lib.GoBytes
import AgenticNetops.Lib.JsonDocument
import AgenticNetops.Lib.JsonText
import AgenticNetops.Migration.Decode

set_option autoImplicit false

/- pkg/migration/parse.go on bytes: an object goes to a decoder, which stops behind it, and
   an array to Unmarshal, which checks all of it and then hands each element to a decoder. -/
namespace AgenticNetops.Migration

open GoBytes JsonScanner

def maxNestingDepth : Nat := 10000

section Code
-- What the decoder makes of the bytes of one value, unknown fields refused.
variable (unmarshal : List UInt8 → Option ServiceInput)

def strictUnmarshal (b : List UInt8) : Option ServiceInput :=
  match readValue maxNestingDepth start b with
  | some (value, _) => unmarshal value
  | none => none

def canonicalInput (b : List UInt8) : Option ServiceInput := (strictUnmarshal unmarshal b).map ServiceInput.canonicalize

def parseStrictBatchBytes (data : List UInt8) : Option (List ServiceInput) :=
  match trimSpace data with
  | [] => none
  | c :: rest =>
      if c = ch '[' then
        match unmarshalArray maxNestingDepth (c :: rest) with
        | some raws => raws.mapM (canonicalInput unmarshal)
        | none => none
      else if c = ch '{' then (canonicalInput unmarshal (c :: rest)).map fun input => [input]
      else none

end Code

section Meaning

def asArray (x : List UInt8) : List UInt8 := ch '[' :: (x ++ [ch ']'])

/- Nothing but JSON's blanks around one object, which nests one level less than the
   decoder allows. -/
def SoleObject (x : List UInt8) : Prop :=
  ∃ object left, readValue (maxNestingDepth - 1) start (x.dropWhile isSpace) = some (object, left) ∧ left.all isSpace = true

-- The object that the text begins with is whole, and the decoder takes it.
def Decodes (unmarshal : List UInt8 → Option ServiceInput) (x : List UInt8) : Prop :=
  ∃ object left, readValue maxNestingDepth start (trimSpace x) = some (object, left) ∧ unmarshal object ≠ none

end Meaning

section Opening

instance (c : UInt8) : Decidable (Foreign c) := inferInstanceAs (Decidable (_ ∨ _))

theorem not_foreign (c d : UInt8) (plain : ¬ Foreign d) (foreign : Foreign c) : c ≠ d := fun same => plain (same ▸ foreign)

-- White space that JSON does not know begins no value.
theorem begin_value_foreign (limit : Nat) (s : Scan) (c : UInt8) (foreign : Foreign c) (space : ¬ isSpace c = true) :
    (s.beginValue limit c).1 = .scanError := by
  have other (d : Char) (plain : ¬ Foreign (ch d)) : c ≠ ch d := not_foreign c (ch d) plain foreign
  have noDigit : ¬ isDigit c = true := by
    intro digit
    simp only [isDigit, Bool.and_eq_true, decide_eq_true_eq, UInt8.le_iff_toNat_le] at digit
    have low : (ch '0').toNat = 48 := rfl
    have high : (ch '9').toNat = 57 := rfl
    simp only [Foreign, asciiSpace, Bool.or_eq_true, Bool.and_eq_true, decide_eq_true_eq] at foreign
    omega
  rw [Scan.beginValue, if_neg space, if_neg (other '{' (by decide)), if_neg (other '[' (by decide)),
    if_neg (other '"' (by decide)), if_neg (other '-' (by decide)), if_neg (other '0' (by decide)), if_neg (other 't' (by decide)),
    if_neg (other 'f' (by decide)), if_neg (other 'n' (by decide)), if_neg noDigit]
  rfl

theorem opened_foreign (limit : Nat) (c : UInt8) (foreign : Foreign c) (space : ¬ isSpace c = true) :
    (step limit opened c).1 = .scanError := by
  have other : c ≠ ch ']' := not_foreign c (ch ']') (by decide) foreign
  unfold step
  dsimp only [opened]
  rw [if_neg other]
  exact begin_value_foreign limit _ c foreign space

theorem json_space_ascii (c : UInt8) (space : isSpace c = true) : asciiSpace c = true := by
  have listed : c ∈ [ch ' ', ch '\t', ch '\r', ch '\n'] := by
    simpa [isSpace, or_assoc] using space
  exact List.all_eq_true.mp (by decide : [ch ' ', ch '\t', ch '\r', ch '\n'].all asciiSpace = true) c listed

theorem trim_left_skips (text : List UInt8) : trimLeft text = trimLeft (text.dropWhile isSpace) := by
  induction text with
  | nil => rfl
  | cons c rest ih =>
      by_cases space : isSpace c = true
      · rw [List.dropWhile_cons_of_pos space, ← ih]
        exact trim_ascii twoSpace threeSpace c rest (json_space_ascii c space)
      · rw [List.dropWhile_cons_of_neg space]

/- A text whose first character is a brace has it behind JSON's blanks, or has white space
   there that JSON does not know. -/
theorem first_brace (x tail : List UInt8) (first : trimSpace x = ch '{' :: tail) :
    (∃ dropped, x.dropWhile isSpace = ch '{' :: (tail ++ dropped) ∧ ∀ d ∈ dropped, Foreign d) ∨
      ∃ d more, x.dropWhile isSpace = d :: more ∧ Foreign d ∧ ¬ isSpace d = true := by
  obtain ⟨behind, whole, behindForeign⟩ := trim_right_split (trimLeft x)
  have brace : trimLeft x = ch '{' :: (tail ++ behind) := by
    rw [whole, ← trimSpace, first, List.cons_append]
  obtain ⟨before, ahead, beforeForeign⟩ := trim_left_split (x.dropWhile isSpace)
  rw [← trim_left_skips, brace] at ahead
  cases before with
  | nil => exact Or.inl ⟨behind, ahead, behindForeign⟩
  | cons d more =>
      have stops : (x.dropWhile isSpace).head? = some d := by
        rw [ahead]
        rfl
      have space := List.head?_dropWhile_not isSpace x
      rw [stops] at space
      exact Or.inr ⟨d, _, ahead, beforeForeign d List.mem_cons_self, by simpa using space⟩

end Opening

section Paths
variable (unmarshal : List UInt8 → Option ServiceInput)

theorem as_array_trimmed (x : List UInt8) : trimSpace (asArray x) = asArray x := by
  have right := trim_right_kept (ch '[' :: x) (ch ']') (by decide)
  rw [List.cons_append] at right
  rw [trimSpace, asArray, trim_left_kept (ch '[') _ (by decide), right]

theorem object_path (x tail : List UInt8) (first : trimSpace x = ch '{' :: tail) :
    parseStrictBatchBytes unmarshal x = (canonicalInput unmarshal (ch '{' :: tail)).map fun input => [input] := by
  rw [parseStrictBatchBytes, first]
  dsimp only
  rw [if_neg (by decide), if_pos rfl]

theorem array_path (x : List UInt8) :
    parseStrictBatchBytes unmarshal (asArray x) =
      (unmarshalArray maxNestingDepth (asArray x)).bind fun raws => raws.mapM (canonicalInput unmarshal) := by
  rw [parseStrictBatchBytes, as_array_trimmed, asArray]
  dsimp only
  rw [if_pos rfl]
  cases unmarshalArray maxNestingDepth (ch '[' :: (x ++ [ch ']'])) <;> rfl

theorem one_decoded (raws : List (List UInt8)) (input : ServiceInput) :
    raws.mapM (canonicalInput unmarshal) = some [input] ↔ ∃ raw, raws = [raw] ∧ canonicalInput unmarshal raw = some input := by
  cases raws with
  | nil => simp
  | cons raw rest =>
      cases rest with
      | nil => cases here : canonicalInput unmarshal raw <;> simp [here]
      | cons other more =>
          rw [List.mapM_cons, List.mapM_cons]
          cases canonicalInput unmarshal raw with
          | none => simp
          | some first =>
              cases canonicalInput unmarshal other with
              | none => simp
              | some second => cases more.mapM (canonicalInput unmarshal) <;> simp

-- The bytes of an object are read as that object, whatever was behind them.
theorem object_alone (tail value left : List UInt8)
    (read : readValue (maxNestingDepth - 1) openObject tail = some (value, left)) (other : List UInt8) :
    canonicalInput unmarshal (ch '{' :: (value ++ other)) = (unmarshal (ch '{' :: value)).map ServiceInput.canonicalize := by
  obtain ⟨_, _, any⟩ := read_split (maxNestingDepth - 1) openObject tail value left open_object_inside read
  have deeper := read_more (maxNestingDepth - 1) openObject _ value other open_object_inside (any other)
  have whole : readValue maxNestingDepth start (ch '{' :: (value ++ other)) = some (ch '{' :: value, other) := by
    have object := read_object (maxNestingDepth - 1) (value ++ other)
    rw [show maxNestingDepth - 1 + 1 = maxNestingDepth from rfl] at object deeper
    rw [object, deeper]
    rfl
  rw [canonicalInput, strictUnmarshal, whole]

theorem sole_object_iff (x tail : List UInt8) (starts : x.dropWhile isSpace = ch '{' :: tail) :
    SoleObject x ↔ ∃ value left, readValue (maxNestingDepth - 1) openObject tail = some (value, left) ∧ left.all isSpace = true := by
  have object := read_object (maxNestingDepth - 2) tail
  rw [show maxNestingDepth - 2 + 1 = maxNestingDepth - 1 from rfl] at object
  rw [SoleObject, starts, object]
  refine ⟨fun ⟨whole, left, read, spaces⟩ => ?_, fun ⟨value, left, read, spaces⟩ => ⟨ch '{' :: value, left, by rw [read]; rfl, spaces⟩⟩
  rw [Option.map_eq_some_iff] at read
  obtain ⟨⟨value, left'⟩, inner, same⟩ := read
  cases same
  exact ⟨value, left, inner, spaces⟩

theorem array_one_iff (x tail : List UInt8) (starts : x.dropWhile isSpace = ch '{' :: tail) (input : ServiceInput) :
    parseStrictBatchBytes unmarshal (asArray x) = some [input] ↔
      ∃ value left, readValue (maxNestingDepth - 1) openObject tail = some (value, left) ∧ left.all isSpace = true ∧
        (unmarshal (ch '{' :: value)).map ServiceInput.canonicalize = some input := by
  have made := array_of_object (maxNestingDepth - 2) x tail starts
  rw [show maxNestingDepth - 2 + 2 = maxNestingDepth from rfl, show maxNestingDepth - 2 + 1 = maxNestingDepth - 1 from rfl,
    ← asArray] at made
  rw [array_path, Option.bind_eq_some_iff]
  refine ⟨fun ⟨raws, collected, decoded⟩ => ?_, fun ⟨value, left, read, spaces, decoded⟩ => ?_⟩
  · obtain ⟨raw, sole, taken⟩ := (one_decoded unmarshal raws input).mp decoded
    obtain ⟨value, left, read, spaces, same⟩ := (made raws).mp ⟨collected, by rw [sole]; rfl⟩
    have alone := object_alone unmarshal tail value left read []
    rw [List.append_nil] at alone
    rw [sole, List.singleton_inj] at same
    exact ⟨value, left, read, spaces, by rw [← alone, ← same, taken]⟩
  · have collected := (made [ch '{' :: value]).mpr ⟨value, left, read, spaces, rfl⟩
    have alone := object_alone unmarshal tail value left read []
    rw [List.append_nil] at alone
    exact ⟨_, collected.1, (one_decoded unmarshal _ input).mpr ⟨_, rfl, by rw [alone, decoded]⟩⟩

-- Behind white space that JSON does not know there is no array.
theorem array_refused (x more : List UInt8) (d : UInt8) (starts : x.dropWhile isSpace = d :: more) (foreign : Foreign d)
    (space : ¬ isSpace d = true) : parseStrictBatchBytes unmarshal (asArray x) = none := by
  have wrong : valid maxNestingDepth start (asArray x) = false := by
    have opens : step maxNestingDepth start (ch '[') = (.beginArray, opened) := begin_array (maxNestingDepth - 1)
    rw [asArray, valid, opens, if_neg (by decide), opened_skips, starts, List.cons_append, valid,
      if_pos (opened_foreign maxNestingDepth d foreign space)]
  have bracket : (asArray x).dropWhile isSpace = ch '[' :: (x ++ [ch ']']) := List.dropWhile_cons_of_neg (by decide)
  rw [array_path, unmarshalArray, bracket]
  dsimp only
  rw [wrong, if_neg fun both => Bool.false_ne_true both.2]
  rfl

-- An object with spaces behind it ends before the white space that was trimmed.
theorem within_trimmed (tail dropped value left : List UInt8) (foreign : ∀ d ∈ dropped, Foreign d)
    (read : readValue (maxNestingDepth - 1) openObject (tail ++ dropped) = some (value, left)) : ∃ rest, tail = value ++ rest := by
  obtain ⟨whole, ⟨front, c, ends, bracket⟩, _⟩ := read_split (maxNestingDepth - 1) openObject _ value left open_object_inside read
  cases List.append_eq_append_iff.mp whole with
  | inl longer =>
      obtain ⟨rest, beyond, split⟩ := longer
      cases List.eq_nil_or_concat rest with
      | inl none => exact ⟨[], by rw [beyond, none, List.append_nil, List.append_nil]⟩
      | inr some' =>
          obtain ⟨most, d, shape⟩ := some'
          have last : d = c := by
            rw [ends, shape, List.concat_eq_append, ← List.append_assoc] at beyond
            exact (List.singleton_inj.mp (List.append_inj' beyond rfl).2).symm
          have member : d ∈ dropped := by
            rw [split, shape, List.concat_eq_append]
            simp
          have plain : ¬ Foreign d := by
            rw [last]
            exact bracket.elim (fun it => it ▸ by decide) (fun it => it ▸ by decide)
          exact absurd (foreign d member) plain
  | inr shorter =>
      obtain ⟨rest, within, _⟩ := shorter
      exact ⟨rest, within⟩

theorem decodes_iff (x tail : List UInt8) (first : trimSpace x = ch '{' :: tail) :
    Decodes unmarshal x ↔ canonicalInput unmarshal (ch '{' :: tail) ≠ none := by
  rw [Decodes, first, canonicalInput, strictUnmarshal]
  cases readValue maxNestingDepth start (ch '{' :: tail) with
  | none => simp
  | some read =>
      obtain ⟨value, left⟩ := read
      simp

-- What the array path takes, the object path takes, too.
theorem array_to_object (x tail : List UInt8) (first : trimSpace x = ch '{' :: tail) (input : ServiceInput)
    (taken : parseStrictBatchBytes unmarshal (asArray x) = some [input]) : parseStrictBatchBytes unmarshal x = some [input] := by
  cases first_brace x tail first with
  | inl json =>
      obtain ⟨dropped, starts, foreign⟩ := json
      obtain ⟨value, left, read, _, decoded⟩ := (array_one_iff unmarshal x _ starts input).mp taken
      obtain ⟨rest, within⟩ := within_trimmed tail dropped value left foreign read
      rw [object_path unmarshal x tail first, within, object_alone unmarshal _ value left read rest, decoded]
      rfl
  | inr other =>
      obtain ⟨d, more, starts, foreign, space⟩ := other
      rw [array_refused unmarshal x more d starts foreign space] at taken
      cases taken

theorem sole_to_array (x tail : List UInt8) (first : trimSpace x = ch '{' :: tail) (sole : SoleObject x) (input : ServiceInput)
    (taken : parseStrictBatchBytes unmarshal x = some [input]) : parseStrictBatchBytes unmarshal (asArray x) = some [input] := by
  cases first_brace x tail first with
  | inl json =>
      obtain ⟨dropped, starts, foreign⟩ := json
      obtain ⟨value, left, read, spaces⟩ := (sole_object_iff x _ starts).mp sole
      obtain ⟨rest, within⟩ := within_trimmed tail dropped value left foreign read
      rw [object_path unmarshal x tail first, within, object_alone unmarshal _ value left read rest, Option.map_eq_some_iff] at taken
      obtain ⟨decoded, made, same⟩ := taken
      cases same
      exact (array_one_iff unmarshal x _ starts input).mpr ⟨value, left, read, spaces, made⟩
  | inr other =>
      obtain ⟨d, more, starts, foreign, space⟩ := other
      obtain ⟨object, left, read, _⟩ := sole
      have refused : (step (maxNestingDepth - 1) start d).1 = .scanError := begin_value_foreign _ start d foreign space
      rw [starts, readValue, refused] at read
      cases read

theorem array_to_sole (x tail : List UInt8) (first : trimSpace x = ch '{' :: tail) (input : ServiceInput)
    (taken : parseStrictBatchBytes unmarshal (asArray x) = some [input]) : SoleObject x := by
  cases first_brace x tail first with
  | inl json =>
      obtain ⟨dropped, starts, _⟩ := json
      obtain ⟨value, left, read, spaces, _⟩ := (array_one_iff unmarshal x _ starts input).mp taken
      exact (sole_object_iff x _ starts).mpr ⟨value, left, read, spaces⟩
  | inr other =>
      obtain ⟨d, more, starts, foreign, space⟩ := other
      rw [array_refused unmarshal x more d starts foreign space] at taken
      cases taken

/- For a text whose first character is a brace, the two shapes of the input agree exactly
   where the object in front is not taken anyway or is all that there is. -/
theorem object_as_batch_iff (x : List UInt8) (first : (trimSpace x).head? = some (ch '{')) :
    (∀ input, parseStrictBatchBytes unmarshal x = some [input] ↔ parseStrictBatchBytes unmarshal (asArray x) = some [input]) ↔
      ¬ Decodes unmarshal x ∨ SoleObject x := by
  obtain ⟨tail, first⟩ := List.head?_eq_some_iff.mp first
  have path := object_path unmarshal x tail first
  rw [decodes_iff unmarshal x tail first, not_not]
  refine ⟨fun agree => ?_, fun condition input => ⟨fun taken => ?_, array_to_object unmarshal x tail first input⟩⟩
  · cases made : canonicalInput unmarshal (ch '{' :: tail) with
    | none => exact Or.inl rfl
    | some input =>
        rw [made] at path
        exact Or.inr (array_to_sole unmarshal x tail first input ((agree input).mp path))
  · cases condition with
    | inl refused =>
        rw [path, refused] at taken
        cases taken
    | inr sole => exact sole_to_array unmarshal x tail first sole input taken

end Paths

section Documents

-- The decoder on ASCII text.
def asciiUnmarshal (value : List UInt8) : Option ServiceInput :=
  (JsonText.loads (value.map fun c => Char.ofNat c.toNat)).bind decodeServiceInput

def document (text : String) : List UInt8 := text.toList.map ch

theorem lab_object_as_batch : (trimSpace (document "\x7b\"serviceId\": \"s1\"\x7d\n")).head? = some (ch '{') ∧ ∀ input,
    (parseStrictBatchBytes asciiUnmarshal (document "\x7b\"serviceId\": \"s1\"\x7d\n") = some [input] ↔
      parseStrictBatchBytes asciiUnmarshal (asArray (document "\x7b\"serviceId\": \"s1\"\x7d\n")) = some [input]) :=
  ⟨by decide +kernel,
    (object_as_batch_iff asciiUnmarshal (document "\x7b\"serviceId\": \"s1\"\x7d\n") (by decide +kernel)).mpr
      (Or.inr ⟨document "\x7b\"serviceId\": \"s1\"\x7d", document "\n", by decide +kernel, by decide +kernel⟩)⟩

-- Two documents in a row, of which the object path sees the first one.
def trailing : List UInt8 := document "\x7b\"serviceId\": \"s1\"\x7d \x7b\"serviceId\": \"s2\"\x7d"

theorem trailing_taken : ¬ ∀ x, (trimSpace x).head? = some (ch '{') → ∀ input,
    (parseStrictBatchBytes asciiUnmarshal x = some [input] ↔ parseStrictBatchBytes asciiUnmarshal (asArray x) = some [input]) := by
  intro agree
  have taken : (parseStrictBatchBytes asciiUnmarshal trailing).map List.length = some 1 := by
    decide +kernel
  have refused : parseStrictBatchBytes asciiUnmarshal (asArray trailing) = none := by
    decide +kernel
  rw [Option.map_eq_some_iff] at taken
  obtain ⟨inputs, made, one⟩ := taken
  obtain ⟨input, sole⟩ := List.length_eq_one_iff.mp one
  rw [sole] at made
  have array := (agree trailing (by decide +kernel) input).mp made
  rw [refused] at array
  cases array

end Documents

end AgenticNetops.Migration
