import Mathlib.Data.List.Dedup
import Mathlib.Data.List.Sort
import Mathlib.Data.String.Basic

set_option autoImplicit false

/- Go's string and map operations as the programs modelled here use them.
   A string is read through its code points; an operation that Go defines on
   bytes is only used where the two readings agree (ASCII separators, prefixes
   and suffixes). A map is an association list whose first entry for a key is
   the one that reads see. -/
namespace GoText

def hasPrefix (s pfx : String) : Bool := pfx.toList.isPrefixOf s.toList

def hasSuffix (s suffix : String) : Bool := suffix.toList.isSuffixOf s.toList

def trimPrefix (s pfx : String) : String :=
  if hasPrefix s pfx then String.ofList (s.toList.drop pfx.toList.length) else s

def trimSuffix (s suffix : String) : String :=
  if hasSuffix s suffix then String.ofList (s.toList.take (s.toList.length - suffix.toList.length)) else s

theorem trim_suffix_append (s suffix : String) : trimSuffix (s ++ suffix) suffix = s := by
  have ends : hasSuffix (s ++ suffix) suffix = true := by
    rw [hasSuffix, String.toList_append, List.isSuffixOf_iff_suffix]
    exact List.suffix_append _ _
  rw [trimSuffix, if_pos ends, String.toList_append, List.length_append, Nat.add_sub_cancel, List.take_left, String.ofList_toList]

theorem trim_suffix_back (s suffix : String) (ends : hasSuffix s suffix = true) : trimSuffix s suffix ++ suffix = s := by
  obtain ⟨front, whole⟩ := List.isSuffixOf_iff_suffix.mp ends
  have made : s = String.ofList front ++ suffix := by
    rw [← String.toList_inj, String.toList_append, String.toList_ofList]
    exact whole.symm
  rw [made, trim_suffix_append]

def replaceAll (s : String) (old : Char) (new : String) : String :=
  String.ofList (s.toList.flatMap fun c => if c = old then new.toList else [c])

def splitChars (separator : Char) : List Char → List (List Char)
  | [] => [[]]
  | c :: rest =>
      match splitChars separator rest with
      | [] => [[c]]
      | field :: fields => if c = separator then [] :: field :: fields else (c :: field) :: fields

def split (s : String) (separator : Char) : List String :=
  (splitChars separator s.toList).map String.ofList

def join (parts : List String) (separator : String) : String := String.intercalate separator parts

-- strings.TrimSpace, on the white space of the Latin-1 range.
def isSpace (c : Char) : Bool :=
  c = ' ' || c = '\t' || c = '\n' || c = '\x0b' || c = '\x0c' || c = '\r' || c.toNat = 0x85 || c.toNat = 0xA0

def trimChars (drop : Char → Bool) (chars : List Char) : List Char :=
  ((chars.dropWhile drop).reverse.dropWhile drop).reverse

def trimSpace (s : String) : String := String.ofList (trimChars isSpace s.toList)

def toLowerAscii (c : Char) : Char := if 'A' ≤ c && c ≤ 'Z' then Char.ofNat (c.toNat + 32) else c

def toUpperAscii (c : Char) : Char := if 'a' ≤ c && c ≤ 'z' then Char.ofNat (c.toNat - 32) else c

/- unicode.ToLower, on the runes whose lower case is an ASCII letter: the ASCII
   capitals, the Kelvin sign and the dotted capital I. -/
def lowerToAscii (c : Char) : Char :=
  if c.toNat = 0x212A then 'k' else if c.toNat = 0x130 then 'i' else toLowerAscii c

def toLower (s : String) : String := String.ofList (s.toList.map lowerToAscii)

def contains (s sub : String) : Bool := s.toList.tails.any fun tail => sub.toList.isPrefixOf tail

def sortStrings (names : List String) : List String := names.insertionSort (· ≤ ·)

abbrev GoMap (α : Type) := List (String × α)

section Maps
variable {α : Type}

def GoMap.get? (m : GoMap α) (key : String) : Option α := m.lookup key

-- m[key] of a map[string]string: the empty string for an absent key.
def GoMap.text (m : GoMap String) (key : String) : String := (m.lookup key).getD ""

def GoMap.keys (m : GoMap α) : List String := (m.map Prod.fst).dedup

def GoMap.sortedKeys (m : GoMap α) : List String := sortStrings m.keys

def GoMap.set (m : GoMap α) (key : String) (value : α) : GoMap α :=
  (key, value) :: m.filter (fun entry => entry.1 ≠ key)

theorem set_mem (m : GoMap α) (key : String) (value : α) (entry : String × α) (member : entry ∈ m.set key value) :
    entry = (key, value) ∨ entry ∈ m :=
  (List.mem_cons.mp member).imp_right List.mem_of_mem_filter

theorem keys_nodup (m : GoMap α) : m.keys.Nodup := List.nodup_dedup _

theorem keys_mem_iff (m : GoMap α) (key : String) : key ∈ m.keys ↔ ∃ value, m.get? key = some value := by
  rw [GoMap.keys, List.mem_dedup]
  induction m with
  | nil => simp [GoMap.get?]
  | cons entry rest ih =>
      obtain ⟨name, stored⟩ := entry
      by_cases here : key = name
      · simp [GoMap.get?, here]
      · simpa [GoMap.get?, List.lookup_cons, here, beq_eq_false_iff_ne.mpr here] using ih

theorem get_set_same (m : GoMap α) (key : String) (value : α) : (m.set key value).get? key = some value := by
  simp [GoMap.set, GoMap.get?]

theorem lookup_filter_other (m : GoMap α) (key other : String) (different : other ≠ key) :
    (m.filter (fun entry => entry.1 ≠ key)).lookup other = m.lookup other := by
  induction m with
  | nil => rfl
  | cons entry rest ih =>
      obtain ⟨name, value⟩ := entry
      by_cases dropped : name = key
      · subst dropped
        simpa [List.lookup_cons, beq_eq_false_iff_ne.mpr different] using ih
      · by_cases found : other = name
        · subst found
          simp [dropped]
        · simpa [dropped, List.lookup_cons, beq_eq_false_iff_ne.mpr found] using ih

theorem get_set_other (m : GoMap α) (key other : String) (value : α) (different : other ≠ key) :
    (m.set key value).get? other = m.get? other := by
  simp only [GoMap.set, GoMap.get?, List.lookup_cons, beq_eq_false_iff_ne.mpr different]
  exact lookup_filter_other m key other different

end Maps

/- The pieces of a fmt.Sprintf result: the format's own text, a %s, %d or %q
   argument. A message keeps them apart; strconv.Quote depends on the Unicode
   tables (strconv.IsPrint), which `Piece.chars` takes as an argument. -/
inductive Piece where
  | lit (text : String)
  | str (value : String)
  | int (value : Int)
  | quoted (value : String)
deriving DecidableEq, Repr

abbrev Message := List Piece

def hexDigit (value : Nat) : Char := Nat.digitChar (value % 16)

def hexDigits : Nat → Nat → List Char
  | 0, _ => []
  | width + 1, value => hexDigits width (value / 16) ++ [hexDigit value]

def quoteChar (isPrint : Char → Bool) (c : Char) : List Char :=
  if c = '"' || c = '\\' then ['\\', c]
  else if isPrint c then [c]
  else if c.toNat = 7 then ['\\', 'a']
  else if c.toNat = 8 then ['\\', 'b']
  else if c.toNat = 12 then ['\\', 'f']
  else if c = '\n' then ['\\', 'n']
  else if c = '\r' then ['\\', 'r']
  else if c = '\t' then ['\\', 't']
  else if c.toNat = 11 then ['\\', 'v']
  else if c.toNat < 32 || c.toNat = 127 then '\\' :: 'x' :: hexDigits 2 c.toNat
  else if c.toNat < 65536 then '\\' :: 'u' :: hexDigits 4 c.toNat
  else '\\' :: 'U' :: hexDigits 8 c.toNat

def quote (isPrint : Char → Bool) (value : List Char) : List Char :=
  '"' :: value.flatMap (quoteChar isPrint) ++ ['"']

def Piece.chars (isPrint : Char → Bool) : Piece → List Char
  | .lit text => text.toList
  | .str value => value.toList
  | .int value => (toString value).toList
  | .quoted value => quote isPrint value.toList

def Message.chars (isPrint : Char → Bool) (message : Message) : List Char :=
  message.flatMap (Piece.chars isPrint)

end GoText
