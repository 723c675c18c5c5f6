import AgenticNetops.Lib.NetIP
import AgenticNetops.Lib.Fallible
import Mathlib.Data.List.TakeDrop
import Mathlib.Data.List.TakeWhile

set_option autoImplicit false

/- Addresses and prefixes read back from the text they are printed as, and what an
   IPv4 address that was read is made of. -/
namespace NetIP

open GoText Fallible

theorem digit_iff (c : Char) : isDigit c = c.isDigit := by
  rw [Bool.eq_iff_iff, Char.isDigit_iff_toNat]
  simp only [isDigit, Bool.and_eq_true, decide_eq_true_eq, Char.le_def, UInt32.le_iff_toNat_le]
  rfl

theorem digit_char (digit : Nat) (small : digit < 10) :
    isDigit digit.digitChar = true ∧ digitValue digit.digitChar = digit := by
  have value := Nat.toNat_digitChar_of_lt_ten small
  constructor
  · rw [digit_iff, Nat.isDigit_digitChar]
    exact decide_eq_true small
  · rw [digitValue, value]
    exact Nat.add_sub_cancel_left 48 digit

theorem digits_all (value : Nat) (c : Char) (member : c ∈ Nat.toDigits 10 value) : isDigit c = true := by
  rw [digit_iff]
  exact Nat.isDigit_of_mem_toDigits (by decide) (by decide) member

-- No octet is printed with a leading zero, so the field loop reads its digits to the end.
theorem octet_read (text : List Char) (done : List Nat) (value : Nat) (rest : List Char) (small : value ≤ 255) :
    parseIPv4Fields text done 0 0 (Nat.toDigits 10 value ++ rest) =
      parseIPv4Fields text done value (Nat.toDigits 10 value).length rest := by
  induction value using Nat.strongRecOn generalizing rest with
  | ind value ih =>
      by_cases one : value < 10
      · obtain ⟨digit, read⟩ := digit_char value one
        rw [Nat.toDigits_of_lt_base one, List.singleton_append, parseIPv4Fields, if_pos digit, if_neg (by omega), read,
          if_neg (by omega), Nat.zero_mul, Nat.zero_add]
        rfl
      · have last := Nat.mod_lt value (show 0 < 10 by omega)
        obtain ⟨digit, read⟩ := digit_char (value % 10) last
        have more : 0 < (Nat.toDigits 10 (value / 10)).length := Nat.length_toDigits_pos
        rw [Nat.toDigits_of_base_le (by omega) (by omega), List.append_assoc, List.singleton_append,
          ih (value / 10) (by omega) _ (by omega), parseIPv4Fields, if_pos digit, if_neg (by omega), read,
          if_neg (by omega), List.length_append]
        have whole : value / 10 * 10 + value % 10 = value := by omega
        rw [whole]
        rfl

theorem octets_chars (a b c d : Nat) :
    (octetsText [a, b, c, d]).toList = Nat.toDigits 10 a ++ '.' :: (Nat.toDigits 10 b ++ '.' :: (Nat.toDigits 10 c ++ '.' :: Nat.toDigits 10 d)) := by
  simp [octetsText]

theorem dot_read (text : List Char) (done : List Nat) (value digits : Nat) (rest : List Char)
    (read : 0 < digits) (more : rest ≠ []) (room : done.length < 3) :
    parseIPv4Fields text done value digits ('.' :: rest) = parseIPv4Fields text (done ++ [value]) 0 0 rest := by
  have followed : ¬ (digits = 0 ∨ rest = []) := fun missing => missing.elim (by omega) more
  rw [parseIPv4Fields, if_neg (by decide), if_pos rfl, if_neg followed, if_neg (by omega)]

theorem octet_dot_read (text : List Char) (done : List Nat) (value : Nat) (rest : List Char) (small : value ≤ 255)
    (more : rest ≠ []) (room : done.length < 3) :
    parseIPv4Fields text done 0 0 (Nat.toDigits 10 value ++ '.' :: rest) =
      parseIPv4Fields text (done ++ [value]) 0 0 rest := by
  rw [octet_read text done value _ small, dot_read text done value _ rest Nat.length_toDigits_pos more room]

theorem octets_read (text : List Char) (a b c d : Nat) (smallA : a ≤ 255) (smallB : b ≤ 255) (smallC : c ≤ 255)
    (smallD : d ≤ 255) : parseIPv4Fields text [] 0 0 (octetsText [a, b, c, d]).toList = .ok [a, b, c, d] := by
  have last := octet_read text [a, b, c] d [] smallD
  rw [List.append_nil] at last
  rw [octets_chars, octet_dot_read text [] a _ smallA (by simp) (by simp), octet_dot_read text _ b _ smallB (by simp) (by simp),
    octet_dot_read text _ c _ smallC Nat.toDigits_ne_nil (by simp)]
  exact last

-- What the field loop returns: the octets before it, then the ones it reads, four in all.
theorem octets_made (text : List Char) (done : List Nat) (value digits : Nat) (rest : List Char) (octets : List Nat)
    (few : done.length ≤ 3) (small : value ≤ 255) (smalls : ∀ octet ∈ done, octet ≤ 255)
    (read : parseIPv4Fields text done value digits rest = .ok octets) :
    octets.length = 4 ∧ ∀ octet ∈ octets, octet ≤ 255 := by
  have extended : ∀ octet ∈ done ++ [value], octet ≤ 255 := by
    intro octet member
    cases List.mem_append.mp member with
    | inl before => exact smalls octet before
    | inr last => exact (List.mem_singleton.mp last) ▸ small
  induction rest generalizing done value digits with
  | nil =>
      rw [parseIPv4Fields] at read
      by_cases short : done.length < 3
      · rw [if_pos short] at read
        cases read
      · rw [if_neg short] at read
        cases read
        exact ⟨by rw [List.length_append, List.length_singleton]; omega, extended⟩
  | cons c rest ih =>
      rw [parseIPv4Fields] at read
      by_cases digit : isDigit c = true
      · rw [if_pos digit] at read
        by_cases leading : digits = 1 ∧ value = 0
        · rw [if_pos leading] at read
          cases read
        rw [if_neg leading] at read
        by_cases large : value * 10 + digitValue c > 255
        · rw [if_pos large] at read
          cases read
        rw [if_neg large] at read
        refine ih done (value * 10 + digitValue c) (digits + 1) few (by omega) smalls read ?_
        intro octet member
        cases List.mem_append.mp member with
        | inl before => exact smalls octet before
        | inr last => rw [List.mem_singleton.mp last]; omega
      · rw [if_neg digit] at read
        by_cases dot : c = '.'
        · rw [if_pos dot] at read
          by_cases missing : digits = 0 ∨ rest = []
          · rw [if_pos missing] at read
            cases read
          rw [if_neg missing] at read
          by_cases full : done.length = 3
          · rw [if_pos full] at read
            cases read
          rw [if_neg full] at read
          refine ih (done ++ [value]) 0 0 (by rw [List.length_append, List.length_singleton]; omega) (by omega) extended read ?_
          intro octet member
          cases List.mem_append.mp member with
          | inl before => exact extended octet before
          | inr last => rw [List.mem_singleton.mp last]; omega
        · rw [if_neg dot] at read
          cases read

theorem ipv4_read (a b c d : Nat) (smallA : a ≤ 255) (smallB : b ≤ 255) (smallC : c ≤ 255) (smallD : d ≤ 255) :
    parseAddr (octetsText [a, b, c, d]).toList = .ok (.v4 [a, b, c, d]) := by
  have family : (octetsText [a, b, c, d]).toList.find? (fun c => c = '.' || c = ':' || c = '%') = some '.' := by
    rw [octets_chars, List.find?_append]
    have silent : (Nat.toDigits 10 a).find? (fun c => c = '.' || c = ':' || c = '%') = none := by
      rw [List.find?_eq_none]
      intro c member mark
      have digit := digits_all a c member
      simp only [Bool.or_eq_true, decide_eq_true_eq] at mark
      obtain (rfl | rfl) | rfl := mark
      · cases digit
      · cases digit
      · cases digit
    rw [silent, Option.none_or]
    rfl
  rw [parseAddr, family]
  simp only [parseIPv4, octets_read _ a b c d smallA smallB smallC smallD]
  rfl

theorem ipv6_made (text : List Char) (addr : Addr) (read : parseIPv6 text = .ok addr) :
    ∃ fields zone, addr = .v6 fields zone := by
  rw [parseIPv6] at read
  simp only [guard_ok] at read
  obtain ⟨_, read⟩ := read
  split at read
  · cases read
    exact ⟨_, _, rfl⟩
  · obtain ⟨_, _, read⟩ := bind_ok _ _ _ read
    obtain ⟨_, _, read⟩ := bind_ok _ _ _ read
    cases read
    exact ⟨_, _, rfl⟩
  · obtain ⟨_, _, read⟩ := bind_ok _ _ _ read
    obtain ⟨_, _, read⟩ := bind_ok _ _ _ read
    cases read
    exact ⟨_, _, rfl⟩

theorem ipv4_made (text : List Char) (octets : List Nat) (read : parseAddr text = .ok (.v4 octets)) :
    octets.length = 4 ∧ ∀ octet ∈ octets, octet ≤ 255 := by
  have fields : parseIPv4Fields text [] 0 0 text = .ok octets := by
    rw [parseAddr] at read
    split at read
    · rw [parseIPv4] at read
      cases done : parseIPv4Fields text [] 0 0 text with
      | error message =>
          rw [done] at read
          cases read
      | ok found =>
          rw [done] at read
          cases read
          rfl
    · obtain ⟨fields, zone, other⟩ := ipv6_made text _ read
      cases other
    · cases read
    · cases read
  exact octets_made text [] 0 0 text octets (by simp) (by omega) (by simp) fields

theorem four_octets (octets : List Nat) (four : octets.length = 4) : ∃ a b c d, octets = [a, b, c, d] := by
  cases octets with
  | nil => cases four
  | cons a rest =>
      obtain ⟨b, c, d, rfl⟩ := List.length_eq_three.mp (Nat.succ.inj four)
      exact ⟨a, b, c, d, rfl⟩

theorem last_slash (address bits : List Char) (free : '/' ∉ bits) :
    lastSlash (address ++ '/' :: bits) = some (address, bits) := by
  have kept : ∀ c ∈ bits.reverse, (decide (c ≠ '/')) = true := by
    intro c member
    exact decide_eq_true fun slash => free (slash ▸ List.mem_reverse.mp member)
  have cut : (address ++ '/' :: bits).reverse.span (· ≠ '/') = (bits.reverse, '/' :: address.reverse) := by
    rw [List.reverse_append, List.reverse_cons, List.append_assoc, List.singleton_append, List.span_eq_takeWhile_dropWhile,
      List.takeWhile_append_of_pos kept, List.dropWhile_append_of_pos kept]
    simp
  rw [lastSlash, cut]
  simp

def Addr.width : Addr → Nat
  | .v4 _ => 32
  | .v6 _ _ => 128

def Addr.zone : Addr → List Char
  | .v4 _ => []
  | .v6 _ zone => zone

-- The digits behind the slash.
structure BitsText (width : Nat) (bits : List Char) (length : Nat) : Prop where
  plain : ¬ (bits.length > 1 ∧ bits.head? = some '0')
  digits : bits ≠ [] ∧ bits.all isDigit = true
  fits : decimal bits ≤ width
  value : length = decimal bits

theorem prefix_read_iff (address bits : List Char) (free : '/' ∉ bits) (addr : Addr) (length : Nat) :
    parsePrefixChars (address ++ '/' :: bits) = .ok ⟨addr, length⟩ ↔
      parseAddr address = .ok addr ∧ addr.zone = [] ∧ BitsText addr.width bits length := by
  simp only [parsePrefixChars, last_slash address bits free]
  cases read : parseAddr address with
  | error message => simp
  | ok found =>
      -- Behind the family and the zone, the guards on the digits.
      have guarded (width : Nat) (message message' message'' : Message) :
          (if bits.length > 1 ∧ bits.head? = some '0' then Except.error message
            else if bits = [] ∨ ¬ bits.all isDigit = true then Except.error message'
            else if decimal bits > width then Except.error message'' else Except.ok ⟨found, decimal bits⟩) =
              Except.ok (⟨addr, length⟩ : Prefix) ↔ found = addr ∧ BitsText width bits length := by
        simp only [guard_ok, Except.ok.injEq, Prefix.mk.injEq, not_or, not_not, not_lt]
        constructor
        · intro parts
          obtain ⟨plain, digits, fits, same, value⟩ := parts
          exact ⟨same, plain, digits, by omega, value.symm⟩
        · intro parts
          obtain ⟨same, made⟩ := parts
          exact ⟨made.plain, made.digits, by have := made.fits; omega, same, made.value.symm⟩
      cases found with
      | v4 octets =>
          rw [guarded]
          constructor
          · intro parts
            obtain ⟨rfl, made⟩ := parts
            exact ⟨rfl, rfl, made⟩
          · intro parts
            obtain ⟨same, _, made⟩ := parts
            cases same
            exact ⟨rfl, made⟩
      | v6 fields zone =>
          cases zone with
          | nil =>
              rw [guarded]
              constructor
              · intro parts
                obtain ⟨rfl, made⟩ := parts
                exact ⟨rfl, rfl, made⟩
              · intro parts
                obtain ⟨same, _, made⟩ := parts
                cases same
                exact ⟨rfl, made⟩
          | cons c rest =>
              constructor
              · intro refused
                cases refused
              · intro parts
                obtain ⟨same, plain, _⟩ := parts
                cases same
                cases plain

-- A prefix that was read has a slash; its last one parts the address from the bits.
theorem prefix_slash (text : List Char) (found : Prefix) (read : parsePrefixChars text = .ok found) :
    ∃ address bits, text = address ++ '/' :: bits ∧ '/' ∉ bits := by
  rw [parsePrefixChars, lastSlash, List.span_eq_takeWhile_dropWhile] at read
  cases rest : text.reverse.dropWhile (· ≠ '/') with
  | nil =>
      rw [rest] at read
      cases read
  | cons c address =>
      have slash : c = '/' := by
        have stopped := List.head?_dropWhile_not (· ≠ '/') text.reverse
        rw [rest] at stopped
        simpa using stopped
      have whole := List.takeWhile_append_dropWhile (p := (· ≠ '/')) (l := text.reverse)
      rw [rest, slash] at whole
      refine ⟨address.reverse, (text.reverse.takeWhile (· ≠ '/')).reverse, ?_, ?_⟩
      · have back := congrArg List.reverse whole
        simpa using back.symm
      · intro member
        have kept := List.mem_takeWhile_imp (List.mem_reverse.mp member)
        simp at kept

theorem prefix_parts (text : List Char) (addr : Addr) (length : Nat) (read : parsePrefixChars text = .ok ⟨addr, length⟩) :
    ∃ address bits, text = address ++ '/' :: bits ∧ '/' ∉ bits ∧ parseAddr address = .ok addr ∧ addr.zone = [] ∧
      BitsText addr.width bits length := by
  obtain ⟨address, bits, rfl, free⟩ := prefix_slash text _ read
  exact ⟨address, bits, rfl, free, (prefix_read_iff address bits free addr length).mp read⟩

end NetIP
