import AgenticNetops.Lib.NetIP

set_option autoImplicit false

/- Python's ipaddress.ip_network(text, strict=False) and the text of an address.
   The two families read single addresses as net/netip does. -/
namespace IPNetwork

open GoText NetIP

inductive Version where
  | v4
  | v6
deriving DecidableEq, Repr

def Version.maxPrefixlen : Version → Nat
  | .v4 => 32
  | .v6 => 128

structure Network where
  version : Version
  networkAddress : Nat
  prefixlen : Nat
deriving DecidableEq, Repr

def radixValue (base : Nat) (digits : List Nat) : Nat := digits.foldl (fun value digit => value * base + digit) 0

-- A zone is dropped with the host bits.
def addressValue (version : Version) (text : List Char) : Option Nat :=
  match version with
  | .v4 =>
      match parseIPv4 text with
      | .ok (.v4 octets) => some (radixValue 256 octets)
      | _ => none
  | .v6 =>
      match parseIPv6 text with
      | .ok (.v6 fields _) => some (radixValue 65536 fields)
      | _ => none

-- The length of an IPv4 netmask, or of a hostmask.
def maskLength (mask : Nat) : Option Nat :=
  ((List.range 33).find? fun length => mask = 2 ^ 32 - 2 ^ (32 - length)).or
    ((List.range 33).find? fun length => mask = 2 ^ (32 - length) - 1)

def prefixLength (version : Version) (text : List Char) : Option Nat :=
  if text ≠ [] ∧ text.all isDigit ∧ decimal text ≤ version.maxPrefixlen then some (decimal text)
  else
    match version with
    | .v4 => (addressValue .v4 text).bind maskLength
    | .v6 => none

def network (version : Version) (address : List Char) (length : Option Nat) : Option Network := do
  let value ← addressValue version address
  let length ← length
  return ⟨version, value - value % 2 ^ (version.maxPrefixlen - length), length⟩

def ipNetwork (text : String) : Option Network :=
  match splitChars '/' text.toList with
  | [address] => (network .v4 address (some 32)).or (network .v6 address (some 128))
  | [address, bits] =>
      (network .v4 address (prefixLength .v4 bits)).or (network .v6 address (prefixLength .v6 bits))
  | _ => none

-- The first longest run of at least two zero fields: where it starts and its length.
def zeroRun : Nat → List Nat → Nat × Nat
  | _, [] => (0, 0)
  | at', field :: rest =>
      let later := zeroRun (at' + 1) rest
      let here := ((field :: rest).takeWhile (· = 0)).length
      if here ≥ 2 ∧ here ≥ later.2 then (at', here) else later

def hexText (field : Nat) : String := String.ofList (Nat.toDigits 16 field)

def fieldsText (fields : List Nat) : String :=
  match zeroRun 0 fields with
  | (_, 0) => join (fields.map hexText) ":"
  | (start, length) =>
      join ((fields.take start).map hexText) ":" ++ "::" ++ join ((fields.drop (start + length)).map hexText) ":"

def digitsOf (base : Nat) : Nat → Nat → List Nat
  | 0, _ => []
  | count + 1, value => digitsOf base count (value / base) ++ [value % base]

def addressText (version : Version) (value : Nat) : String :=
  match version with
  | .v4 => octetsText (digitsOf 256 4 value)
  | .v6 => fieldsText (digitsOf 65536 8 value)

-- str of a network
def networkText (network : Network) : String :=
  addressText network.version network.networkAddress ++ "/" ++ toString network.prefixlen

end IPNetwork
