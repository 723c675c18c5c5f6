import AgenticNetops.Lib.NetIP

set_option autoImplicit false

/- Python's str operations as the programs modelled here use them. Unicode's decimal
   digits outside ASCII are a table that `decimalDigit` stands for. -/
namespace PyText

open GoText

/- str.lower as far as ASCII letters come out of it: the ASCII capitals, the Kelvin
   sign and the dotted capital I, which becomes an i and a combining dot. -/
def lowerChar (c : Char) : List Char :=
  if c.toNat = 0x212A then ['k'] else if c.toNat = 0x130 then ['i', Char.ofNat 0x307] else [toLowerAscii c]

-- The white space of str.strip and of \s.
def isBlank (c : Char) : Bool :=
  isSpace c || (0x1C ≤ c.toNat && c.toNat ≤ 0x1F) || c.toNat = 0x1680 || (0x2000 ≤ c.toNat && c.toNat ≤ 0x200A) ||
    c.toNat = 0x2028 || c.toNat = 0x2029 || c.toNat = 0x202F || c.toNat = 0x205F || c.toNat = 0x3000

def lower (text : String) : String := String.ofList (text.toList.flatMap lowerChar)

def strip (text : String) : String := String.ofList (trimChars isBlank text.toList)

section Int
variable (decimalDigit : Char → Option Nat)

def digitOf (c : Char) : Option Nat :=
  if NetIP.isDigit c then some (NetIP.digitValue c) else if c.toNat < 127 then none else decimalDigit c

-- Of the ASCII separators, int() skips fewer than strip.
def isIntSpace (c : Char) : Bool := c = ' ' || (9 ≤ c.toNat && c.toNat ≤ 13) || (127 ≤ c.toNat && isBlank c)

-- Digits, with at most one underscore between two of them.
def intDigits : List Char → Option (List Nat)
  | [] => none
  | [c] => (digitOf decimalDigit c).map fun digit => [digit]
  | c :: '_' :: rest => do
      let digit ← digitOf decimalDigit c
      let digits ← intDigits rest
      return digit :: digits
  | c :: rest => do
      let digit ← digitOf decimalDigit c
      let digits ← intDigits rest
      return digit :: digits

-- More digits than sys.int_info.default_max_str_digits are a ValueError, too.
def intOfDigits (negative : Bool) (text : List Char) : Option Int :=
  match intDigits decimalDigit text with
  | none => none
  | some digits =>
      let value : Nat := digits.foldl (fun value digit => value * 10 + digit) 0
      if 4300 < digits.length then none else some (if negative then -(value : Int) else value)

def int (text : String) : Option Int :=
  match trimChars isIntSpace text.toList with
  | '-' :: digits => intOfDigits decimalDigit true digits
  | '+' :: digits => intOfDigits decimalDigit false digits
  | digits => intOfDigits decimalDigit false digits

end Int

-- What Unicode's tables say of text outside ASCII.
structure CharTable where
  isAlnum : Char → Bool
  isDigit : Char → Bool
  decimalDigit : Char → Option Nat
  lower : List Char → List Char

def isAscii (c : Char) : Bool := c.toNat < 128

section Tables
variable (table : CharTable)

-- \w
def isWord (c : Char) : Bool :=
  if isAscii c then ('a' ≤ c && c ≤ 'z') || ('A' ≤ c && c ≤ 'Z') || NetIP.isDigit c || c = '_' else table.isAlnum c

-- \d
def isDecimal (c : Char) : Bool := (digitOf table.decimalDigit c).isSome

-- str.lower: the case of a character can depend on its neighbours.
def lowerText (text : List Char) : List Char := if text.all isAscii then text.map toLowerAscii else table.lower text

end Tables

end PyText
