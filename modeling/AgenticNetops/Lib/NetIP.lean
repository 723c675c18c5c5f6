import AgenticNetops.Lib.GoText

set_option autoImplicit false

/- net/netip as far as CIDR text goes: ParsePrefix over both families, with the
   errors it returns. An IPv6 address is its eight 16-bit fields; an IPv4
   address its four octets. Zones are read only to be refused in a prefix. -/
namespace NetIP

open GoText

inductive Addr where
  | v4 (octets : List Nat)
  | v6 (fields : List Nat) (zone : List Char)
deriving DecidableEq, Repr

structure Prefix where
  addr : Addr
  bits : Nat
deriving DecidableEq, Repr

def isDigit (c : Char) : Bool := '0' ≤ c && c ≤ '9'

def digitValue (c : Char) : Nat := c.toNat - '0'.toNat

def hexValue (c : Char) : Option Nat :=
  if isDigit c then some (digitValue c)
  else if 'a' ≤ c && c ≤ 'f' then some (c.toNat - 'a'.toNat + 10)
  else if 'A' ≤ c && c ≤ 'F' then some (c.toNat - 'A'.toNat + 10)
  else none

def addrError (text : List Char) (reason : String) : Message :=
  [.lit "ParseAddr(", .quoted (String.ofList text), .lit "): ", .lit reason]

def addrErrorAt (text : List Char) (reason : String) (rest : List Char) : Message :=
  addrError text reason ++ [.lit " (at ", .quoted (String.ofList rest), .lit ")"]

/- parseIPv4Fields: `done` holds the octets before this one, `value` and `digits`
   the octet being read. -/
def parseIPv4Fields (text : List Char) (done : List Nat) (value digits : Nat) : List Char → Except Message (List Nat)
  | [] => if done.length < 3 then .error (addrError text "IPv4 address too short") else .ok (done ++ [value])
  | c :: rest =>
      if isDigit c then
        if digits = 1 ∧ value = 0 then .error (addrError text "IPv4 field has octet with leading zero")
        else if value * 10 + digitValue c > 255 then .error (addrError text "IPv4 field has value >255")
        else parseIPv4Fields text done (value * 10 + digitValue c) (digits + 1) rest
      else if c = '.' then
        if digits = 0 ∨ rest = [] then
          .error (addrErrorAt text "IPv4 field must have at least one digit" (c :: rest))
        else if done.length = 3 then .error (addrError text "IPv4 address too long")
        else parseIPv4Fields text (done ++ [value]) 0 0 rest
      else .error (addrErrorAt text "unexpected character" (c :: rest))

def parseIPv4 (text : List Char) : Except Message Addr :=
  (parseIPv4Fields text [] 0 0 text).map .v4

-- The hexadecimal digits in front of the text, with their number and value.
def hexRun : List Char → Nat × Nat → Nat × Nat × List Char
  | [], (count, value) => (count, value, [])
  | c :: rest, (count, value) =>
      match hexValue c with
      | some digit => hexRun rest (count + 1, value * 16 + digit)
      | none => (count, value, c :: rest)

/- The field loop of parseIPv6. `done` holds the fields read so far, `ellipsis`
   the position of "::". The result is the field list before the ellipsis is
   expanded. `fuel` is the room left: the loop runs while i < 16. -/
def parseIPv6Fields (text : List Char) : Nat → List Nat → Option Nat → List Char → Except Message (List Nat × Option Nat)
  | 0, done, ellipsis, rest =>
      if rest = [] then .ok (done, ellipsis) else .error (addrErrorAt text "trailing garbage after address" rest)
  | fuel + 1, done, ellipsis, rest =>
      match hexRun rest (0, 0) with
      | (count, value, after) =>
          if count > 4 then .error (addrErrorAt text "each group must have 4 or fewer digits" rest)
          else if count = 0 then
            .error (addrErrorAt text "each colon-separated field must have at least one digit" rest)
          else
            match after with
            | '.' :: _ =>
                if ellipsis.isNone ∧ done.length ≠ 6 then
                  .error (addrErrorAt text "embedded IPv4 address must replace the final 2 fields of the address" rest)
                else if done.length > 6 then
                  .error (addrErrorAt text
                    "too many hex fields to fit an embedded IPv4 at the end of the address" rest)
                else
                  match parseIPv4Fields text [] 0 0 rest with
                  | .error message => .error message
                  | .ok octets =>
                      .ok (done ++ [octets[0]! * 256 + octets[1]!, octets[2]! * 256 + octets[3]!], ellipsis)
            | [] => .ok (done ++ [value], ellipsis)
            | ':' :: [] => .error (addrErrorAt text "colon must be followed by more characters" after)
            | ':' :: ':' :: more =>
                if ellipsis.isSome then .error (addrErrorAt text "multiple :: in address" (':' :: more))
                else if more = [] then .ok (done ++ [value], some (done.length + 1))
                else parseIPv6Fields text fuel (done ++ [value]) (some (done.length + 1)) more
            | ':' :: more => parseIPv6Fields text fuel (done ++ [value]) ellipsis more
            | _ => .error (addrErrorAt text "unexpected character, want colon" after)

def expandEllipsis (text : List Char) (fields : List Nat) (ellipsis : Option Nat) : Except Message (List Nat) :=
  match ellipsis with
  | none => if fields.length < 8 then .error (addrError text "address string too short") else .ok fields
  | some position =>
      if fields.length < 8 then
        .ok (fields.take position ++ List.replicate (8 - fields.length) 0 ++ fields.drop position)
      else .error (addrError text "the :: must expand to at least one field of zeros")

def parseIPv6 (text : List Char) : Except Message Addr :=
  let body := text.takeWhile (· ≠ '%')
  let zone := (text.dropWhile (· ≠ '%')).drop 1
  if body.length < text.length ∧ zone = [] then .error (addrError text "zone must be a non-empty string")
  else
    match body with
    | ':' :: ':' :: [] => .ok (.v6 (List.replicate 8 0) zone)
    | ':' :: ':' :: rest => do
        let (fields, ellipsis) ← parseIPv6Fields text 8 [] (some 0) rest
        let expanded ← expandEllipsis text fields ellipsis
        return .v6 expanded zone
    | _ => do
        let (fields, ellipsis) ← parseIPv6Fields text 8 [] none body
        let expanded ← expandEllipsis text fields ellipsis
        return .v6 expanded zone

-- ParseAddr: the first '.', ':' or '%' decides the family.
def parseAddr (text : List Char) : Except Message Addr :=
  match text.find? (fun c => c = '.' || c = ':' || c = '%') with
  | some '.' => parseIPv4 text
  | some ':' => parseIPv6 text
  | some _ => .error (addrError text "missing IPv6 address")
  | none => .error (addrError text "unable to parse IP")

-- strconv.Atoi on the digits that follow the slash.
def decimal (digits : List Char) : Nat := digits.foldl (fun value c => value * 10 + digitValue c) 0

def lastSlash (text : List Char) : Option (List Char × List Char) :=
  match text.reverse.span (· ≠ '/') with
  | (_, []) => none
  | (bits, _ :: address) => some (address.reverse, bits.reverse)

def prefixError (text : List Char) (reason : Message) : Message :=
  [.lit "netip.ParsePrefix(", .quoted (String.ofList text), .lit "): "] ++ reason

def parsePrefixChars (text : List Char) : Except Message Prefix :=
  match lastSlash text with
  | none => .error (prefixError text [.lit "no '/'"])
  | some (address, bits) =>
      match parseAddr address with
      | .error message => .error (prefixError text message)
      | .ok addr =>
          let badBits : Message := [.lit "bad bits after slash: ", .quoted (String.ofList bits)]
          let maxBits := match addr with
            | .v4 _ => 32
            | .v6 _ _ => 128
          match addr with
          | .v6 _ (_ :: _) => .error (prefixError text [.lit "IPv6 zones cannot be present in a prefix"])
          | _ =>
              if bits.length > 1 ∧ bits.head? = some '0' then .error (prefixError text badBits)
              else if bits = [] ∨ ¬ bits.all isDigit then .error (prefixError text badBits)
              else if decimal bits > maxBits then .error (prefixError text [.lit "prefix length out of range"])
              else .ok ⟨addr, decimal bits⟩

def parsePrefix (text : String) : Except Message Prefix := parsePrefixChars text.toList

-- netip.AddrFrom4(..).String()
def octetsText (octets : List Nat) : String := String.intercalate "." (octets.map toString)

example : (parsePrefix "192.168.1.0/24").toOption = some ⟨.v4 [192, 168, 1, 0], 24⟩ := by decide

end NetIP
