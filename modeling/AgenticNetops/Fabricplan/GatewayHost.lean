import AgenticNetops.Lib.DottedText
import AgenticNetops.Fabricplan.Derivations

set_option autoImplicit false

/- The address of an SVI beside the network that the controller looks for. The gateway is
   made by writing 1 for the last octet of a dotted text, whatever the prefix length. -/
namespace AgenticNetops.Fabricplan

open GoText NetIP Fallible

section Masks

theorem mask_append (width bits : Nat) (front : List Nat) (last : Nat) :
    maskFields width bits (front ++ [last]) =
      maskFields width bits front ++ maskFields width (bits - width * front.length) [last] := by
  induction front generalizing bits with
  | nil => simp [maskFields]
  | cons field rest ih =>
      have behind : bits - min bits width - width * rest.length = bits - width * (rest.length + 1) := by
        rw [Nat.mul_add]
        omega
      rw [List.cons_append, maskFields, maskFields, ih, List.length_cons, behind]
      rfl

-- The bits of the last field that a mask drops.
def dropped (width bits fields : Nat) : Nat := width - min (bits - width * (fields - 1)) width

theorem mask_last_iff (width bits : Nat) (front : List Nat) (one other : Nat) :
    maskFields width bits (front ++ [one]) = maskFields width bits (front ++ [other]) ↔
      one / 2 ^ dropped width bits (front.length + 1) = other / 2 ^ dropped width bits (front.length + 1) := by
  have positive : 0 < 2 ^ dropped width bits (front.length + 1) := Nat.two_pow_pos _
  rw [mask_append, mask_append, List.append_cancel_left_eq]
  simp only [maskFields, List.cons.injEq, and_true]
  rw [dropped, Nat.add_sub_cancel] at positive ⊢
  exact Nat.mul_left_inj (Nat.pos_iff_ne_zero.mp positive)

-- What the last octet leaves of an address above the mask.
theorem octet_above (octet length : Nat) (small : octet < 256) (long : 8 ≤ length) : octet / 2 ^ length = 0 := by
  have room : 2 ^ 8 ≤ 2 ^ length := Nat.pow_le_pow_right (by omega) long
  exact Nat.div_eq_of_lt (Nat.lt_of_lt_of_le small room)

theorem field_split (high octet length : Nat) (short : length ≤ 8) :
    (high * 256 + octet) / 2 ^ length = high * 2 ^ (8 - length) + octet / 2 ^ length := by
  have whole : high * 256 = 2 ^ length * (high * 2 ^ (8 - length)) := by
    have parts : 2 ^ length * 2 ^ (8 - length) = 256 := by
      rw [← Nat.pow_add, Nat.add_sub_cancel' short]
    rw [Nat.mul_left_comm, parts]
  rw [whole, Nat.mul_add_div (Nat.two_pow_pos length)]

theorem field_above (field length : Nat) (long : 8 ≤ length) : field / 2 ^ length = field / 256 / 2 ^ (length - 8) := by
  have parts : 2 ^ length = 256 * 2 ^ (length - 8) := by
    have whole : 8 + (length - 8) = length := Nat.add_sub_cancel' long
    rw [← whole, Nat.pow_add, Nat.add_sub_cancel_left]
  rw [parts, Nat.div_div_eq_div_mul]

end Masks

section Hosts

-- What a read address is made of.
def Shaped : Addr → Prop
  | .v4 octets => octets.length = 4 ∧ ∀ octet ∈ octets, octet ≤ 255
  | .v6 fields _ => fields.length = 8

theorem read_shaped (text : List Char) (addr : Addr) (read : parseAddr text = .ok addr) (plain : addr.zone = []) : Shaped addr := by
  cases addr with
  | v4 octets => exact ipv4_made text octets read
  | v6 fields zone =>
      have noZone : zone = [] := plain
      rw [noZone] at read
      exact ipv6_eight text fields read

-- The last octet keeps the network when the mask sees no difference between it and 1.
def KeepsNetwork (octet length : Nat) : Prop := octet / 2 ^ length = 1 / 2 ^ length

instance (octet length : Nat) : Decidable (KeepsNetwork octet length) := inferInstanceAs (Decidable (_ = _))

theorem keeps_network_iff (octet length : Nat) : KeepsNetwork octet length ↔ octet < 2 ^ length ∧ 0 < length ∨ octet = 1 ∧ length = 0 := by
  rw [KeepsNetwork]
  cases length with
  | zero => simp
  | succ more =>
      have large : 1 < 2 ^ (more + 1) := Nat.one_lt_two_pow (by omega)
      rw [Nat.div_eq_of_lt large, Nat.div_eq_zero_iff_lt (Nat.two_pow_pos _)]
      simp

theorem first_host_masked_iff (addr : Addr) (bits : Nat) (shaped : Shaped addr) (fits : bits ≤ addr.width) :
    maskedAddr ⟨addr.firstHost, bits⟩ = maskedAddr ⟨addr, bits⟩ ↔ KeepsNetwork addr.lastOctet (addr.width - bits) := by
  rw [KeepsNetwork]
  cases addr with
  | v4 octets =>
      obtain ⟨four, small⟩ := shaped
      obtain ⟨front, octet, rfl⟩ : ∃ front last, octets = front ++ [last] := by
        obtain ⟨a, b, c, d, rfl⟩ := four_octets octets four
        exact ⟨[a, b, c], d, rfl⟩
      have three : front.length + 1 = 4 := by simpa using four
      have low : octet < 256 := Nat.lt_succ_of_le (small octet (by simp))
      simp only [Addr.firstHost, Addr.lastOctet, Addr.width, maskedAddr, Addr.v4.injEq, List.dropLast_concat, List.getLastD_concat]
      rw [mask_last_iff, three, eq_comm]
      by_cases long : 24 ≤ bits
      · have same : dropped 8 bits 4 = 32 - bits := by
          simp only [dropped, Addr.width] at fits ⊢
          omega
        rw [same]
      · have whole : dropped 8 bits 4 = 8 := by
          simp only [dropped]
          omega
        rw [whole, octet_above octet 8 low (by omega), octet_above 1 8 (by omega) (by omega),
          octet_above octet (32 - bits) low (by omega), octet_above 1 (32 - bits) (by omega) (by omega)]
  | v6 fields zone =>
      have eight : fields.length = 8 := shaped
      obtain ⟨front, field, rfl⟩ : ∃ front last, fields = front ++ [last] := by
        have present : fields ≠ [] := by
          intro empty
          rw [empty] at eight
          cases eight
        exact ⟨_, _, (List.dropLast_append_getLast present).symm⟩
      have seven : front.length + 1 = 8 := by simpa using eight
      have low : field % 256 < 256 := Nat.mod_lt _ (by omega)
      have parts : field = field / 256 * 256 + field % 256 := (Nat.div_add_mod' field 256).symm
      simp only [Addr.firstHost, Addr.lastOctet, Addr.width, maskedAddr, Addr.v6.injEq, and_true, setLastField, List.dropLast_concat,
        List.getLastD_concat] at fits ⊢
      rw [mask_last_iff, seven]
      by_cases long : 120 ≤ bits
      · have same : dropped 16 bits 8 = 128 - bits := by
          simp only [dropped]
          omega
        have short : 128 - bits ≤ 8 := by omega
        have above : field / 2 ^ (128 - bits) = field / 256 * 2 ^ (8 - (128 - bits)) + field % 256 / 2 ^ (128 - bits) := by
          rw [← field_split _ _ _ short, ← parts]
        rw [same, field_split _ 1 _ short, above, Nat.add_left_cancel_iff, eq_comm]
      · have more : 8 ≤ dropped 16 bits 8 := by
          simp only [dropped]
          omega
        have high : (field / 256 * 256 + 1) / 256 = field / 256 := by omega
        rw [field_above _ _ more, field_above field _ more, high, octet_above _ (128 - bits) low (by omega),
          octet_above 1 (128 - bits) (by omega) (by omega)]
        exact iff_of_true rfl rfl

end Hosts

section Usable

def addrValue : Addr → Nat
  | .v4 octets => IPNetwork.radixValue 256 octets
  | .v6 fields _ => IPNetwork.radixValue 65536 fields

def hostPart (pfx : Prefix) : Nat := addrValue pfx.addr % 2 ^ (pfx.addr.width - pfx.bits)

/- Neither the network's own address nor its broadcast address, where the prefix has them.
   The all-zeros address of an IPv6 prefix is the anycast address of its routers; `anycast`
   says whether a gateway may carry it. -/
def Usable (anycast : Prop) (pfx : Prefix) : Prop :=
  match pfx.addr with
  | .v4 _ => 31 ≤ pfx.bits ∨ (hostPart pfx ≠ 0 ∧ hostPart pfx + 1 ≠ 2 ^ (32 - pfx.bits))
  | .v6 _ _ => anycast ∨ 127 ≤ pfx.bits ∨ hostPart pfx ≠ 0

theorem radix_last (base last : Nat) (front : List Nat) :
    IPNetwork.radixValue base (front ++ [last]) = IPNetwork.radixValue base front * base + last := by
  rw [IPNetwork.radixValue, List.foldl_append]
  rfl

-- An address whose last octet is 1 is neither all zeros nor all ones behind two bits or more.
theorem first_host_residue (addr : Addr) (shaped : Shaped addr) : addrValue addr.firstHost % 4 = 1 := by
  cases addr with
  | v4 octets =>
      rw [Addr.firstHost, addrValue, radix_last]
      omega
  | v6 fields zone =>
      rw [Addr.firstHost, addrValue, setLastField, radix_last]
      omega

theorem residue_kept (value length : Nat) (two : 2 ≤ length) : value % 2 ^ length % 4 = value % 4 := by
  have parts : 2 ^ length = 4 * 2 ^ (length - 2) := by
    have whole : 2 + (length - 2) = length := Nat.add_sub_cancel' two
    rw [← whole, Nat.pow_add, Nat.add_sub_cancel_left]
  rw [parts, Nat.mod_mul_right_mod]

theorem first_host_usable (anycast : Prop) (addr : Addr) (bits : Nat) (shaped : Shaped addr) : Usable anycast ⟨addr.firstHost, bits⟩ := by
  have residue := first_host_residue addr shaped
  cases addr with
  | v4 octets =>
      by_cases long : 31 ≤ bits
      · exact Or.inl long
      · have kept := residue_kept (addrValue (Addr.v4 octets).firstHost) (32 - bits) (by omega)
        have full : 2 ^ (32 - bits) % 4 = 0 := by
          have whole : 2 + (30 - bits) = 32 - bits := by omega
          rw [← whole, Nat.pow_add]
          exact Nat.mul_mod_right 4 _
        right
        change addrValue (Addr.v4 octets).firstHost % 2 ^ (32 - bits) ≠ 0 ∧
          addrValue (Addr.v4 octets).firstHost % 2 ^ (32 - bits) + 1 ≠ 2 ^ (32 - bits)
        exact ⟨by omega, by omega⟩
  | v6 fields zone =>
      by_cases long : 127 ≤ bits
      · exact Or.inr (Or.inl long)
      · have kept := residue_kept (addrValue (Addr.v6 fields zone).firstHost) (128 - bits) (by omega)
        right
        right
        change addrValue (Addr.v6 fields zone).firstHost % 2 ^ (128 - bits) ≠ 0
        omega

end Usable

section Text

theorem svi_addr_dotted (front last bits : List Char) (slash : '/' ∉ front ++ '.' :: last) (free : '/' ∉ bits) (lastFree : '.' ∉ last)
    (dots : front.count '.' = 2) :
    sviAddr (String.ofList ((front ++ '.' :: last) ++ '/' :: bits)) = String.ofList ((front ++ ['.', '1']) ++ '/' :: bits) := by
  have slashes : split (String.ofList ((front ++ '.' :: last) ++ '/' :: bits)) '/' = [String.ofList (front ++ '.' :: last), String.ofList bits] := by
    rw [split, String.toList_ofList, split_last _ _ _ free, split_free _ _ slash]
    rfl
  have three : (splitChars '.' front).length = 3 := by rw [split_count, dots]
  obtain ⟨a, b, c, parts⟩ := List.length_eq_three.mp three
  have octets : split (String.ofList (front ++ '.' :: last)) '.' = [String.ofList a, String.ofList b, String.ofList c, String.ofList last] := by
    rw [split, String.toList_ofList, split_last _ _ _ lastFree, parts]
    rfl
  have back := split_back '.' front
  rw [parts] at back
  rw [sviAddr, slashes]
  simp only [octets]
  rw [← String.toList_inj, ← back]
  simp [join]

theorem svi_addr_kept (address bits : List Char) (slash : '/' ∉ address) (free : '/' ∉ bits) (plain : '.' ∉ address) :
    sviAddr (String.ofList (address ++ '/' :: bits)) = String.ofList (address ++ '/' :: bits) := by
  have slashes : split (String.ofList (address ++ '/' :: bits)) '/' = [String.ofList address, String.ofList bits] := by
    rw [split, String.toList_ofList, split_last _ _ _ free, split_free _ _ slash]
    rfl
  have whole : split (String.ofList address) '.' = [String.ofList address] := by
    rw [split, String.toList_ofList, split_free _ _ plain]
    rfl
  rw [sviAddr, slashes]
  simp only [whole]

end Text

section Agreement

-- The gateway lies in the declared network, the needle names that network, and a host may carry it.
structure GatewayAgrees (anycast : Prop) (text : String) (pfx : Prefix) : Prop where
  connected : networkOf (sviAddr text) = some ⟨maskedAddr pfx, pfx.bits⟩
  needle : type5RouteNeedle (sviAddr text) = type5RouteNeedle text
  usable : ∃ gateway, parsePrefix (sviAddr text) = .ok gateway ∧ Usable anycast gateway

variable (anycast : Prop) (text : String) (pfx : Prefix) (valid : parsePrefix text = .ok pfx)

theorem network_read (read : parsePrefix text = .ok pfx) : networkOf text = some ⟨maskedAddr pfx, pfx.bits⟩ := by
  rw [networkOf, read]
  rfl

theorem needle_read (read : parsePrefix text = .ok pfx) :
    type5RouteNeedle text = .ok ("[5]:[0]:[" ++ toString pfx.bits ++ "]:[" ++ addrText (maskedAddr pfx) ++ "]") := by
  rw [type5RouteNeedle, read]
  rfl

theorem agrees_made (gateway : Prefix) (read : parsePrefix text = .ok pfx) (made : parsePrefix (sviAddr text) = .ok gateway)
    (same : gateway.bits = pfx.bits) (usable : Usable anycast gateway) :
    GatewayAgrees anycast text pfx ↔ maskedAddr gateway = maskedAddr pfx := by
  constructor
  · intro agrees
    have connected := agrees.connected
    rw [network_read _ gateway made] at connected
    exact congrArg Prefix.addr (Option.some.inj connected)
  · intro network
    refine ⟨?_, ?_, gateway, made, usable⟩
    · rw [network_read _ gateway made, network, same]
    · rw [needle_read _ gateway made, needle_read _ pfx read, network, same]

theorem first_host_shape (addr : Addr) : addr.firstHost.width = addr.width ∧ addr.firstHost.zone = addr.zone := by
  cases addr with
  | v4 octets => exact ⟨rfl, rfl⟩
  | v6 fields zone => exact ⟨rfl, rfl⟩

theorem kept_gateway (fields : List Nat) (length : Nat) (read : parsePrefix text = .ok ⟨.v6 fields [], length⟩) (kept : sviAddr text = text) :
    GatewayAgrees anycast text ⟨.v6 fields [], length⟩ ↔ anycast ∨ 127 ≤ length ∨ hostPart ⟨.v6 fields [], length⟩ ≠ 0 := by
  constructor
  · intro agrees
    obtain ⟨gateway, made, usable⟩ := agrees.usable
    rw [kept, read] at made
    cases made
    exact usable
  · intro usable
    have made : parsePrefix (sviAddr text) = .ok ⟨.v6 fields [], length⟩ := by rw [kept, read]
    exact (agrees_made anycast text _ _ read made rfl usable).mpr rfl

include valid

/- A dotted text agrees when its last octet and 1 are the same behind the mask: always up to
   eight bits before the end, then when the octet has no bit of the mask. A text without a
   dot is its own gateway. -/
theorem gateway_agrees_iff :
    GatewayAgrees anycast text pfx ↔
      ('.' ∈ text.toList → KeepsNetwork pfx.addr.lastOctet (pfx.addr.width - pfx.bits)) ∧
      ('.' ∉ text.toList → anycast ∨ 127 ≤ pfx.bits ∨ hostPart pfx ≠ 0) := by
  obtain ⟨addr, length⟩ := pfx
  obtain ⟨address, bits, whole, free, read, plain, digits⟩ := prefix_parts text.toList addr length valid
  have made : text = String.ofList (address ++ '/' :: bits) := by
    rw [← whole, String.ofList_toList]
  obtain ⟨slash, shape⟩ := dotted_address address addr read plain
  cases shape with
  | inl grouped =>
      obtain ⟨noDot, fields, rfl⟩ := grouped
      have kept : sviAddr text = text := by
        rw [made]
        exact svi_addr_kept address bits slash free noDot
      have undotted : '.' ∉ text.toList := by
        rw [whole]
        intro member
        cases List.mem_append.mp member with
        | inl early => exact noDot early
        | inr late =>
            cases List.mem_cons.mp late with
            | inl isSlash => exact absurd isSlash (by decide)
            | inr inBits =>
                have digit := List.all_eq_true.mp digits.digits.2 '.' inBits
                exact absurd digit (by decide)
      rw [kept_gateway anycast text fields length valid kept]
      constructor
      · intro usable
        exact ⟨fun dotted => absurd dotted undotted, fun _ => usable⟩
      · intro parts
        exact parts.2 undotted
  | inr dotted =>
      obtain ⟨front, last, cut, lastFree, dots, again⟩ := dotted
      have hasDot : '.' ∈ text.toList := by
        rw [whole, cut]
        simp
      have svi : sviAddr text = String.ofList ((front ++ ['.', '1']) ++ '/' :: bits) := by
        rw [made, cut]
        exact svi_addr_dotted front last bits (by rw [← cut]; exact slash) free lastFree dots
      obtain ⟨width, zone⟩ := first_host_shape addr
      have reread : parsePrefix (sviAddr text) = .ok ⟨addr.firstHost, length⟩ := by
        rw [svi, parsePrefix, String.toList_ofList]
        exact (prefix_read_iff _ bits free _ length).mpr ⟨again, by rw [zone]; exact plain, by rw [width]; exact digits⟩
      have shaped := read_shaped address addr read plain
      have fits : length ≤ addr.width := by
        rw [digits.value]
        exact digits.fits
      rw [agrees_made anycast text _ _ valid reread rfl (first_host_usable anycast addr length shaped),
        first_host_masked_iff addr length shaped fits]
      constructor
      · intro keeps
        exact ⟨fun _ => keeps, fun none => absurd hasDot none⟩
      · intro parts
        exact parts.1 hasDot

end Agreement

-- A /24 or a shorter prefix keeps its network, and a /25 only in its lower half.
theorem lower_half_gateway : GatewayAgrees False "10.1.2.3/25" ⟨.v4 [10, 1, 2, 3], 25⟩ :=
  (gateway_agrees_iff False "10.1.2.3/25" ⟨.v4 [10, 1, 2, 3], 25⟩ (by decide +kernel)).mpr ⟨by decide +kernel, by decide +kernel⟩

theorem upper_half_gateway :
    parsePrefix "10.1.2.128/25" = .ok ⟨.v4 [10, 1, 2, 128], 25⟩ ∧ sviAddr "10.1.2.128/25" = "10.1.2.1/25" ∧
    networkOf (sviAddr "10.1.2.128/25") ≠ networkOf "10.1.2.128/25" ∧
    ∀ anycast, ¬ GatewayAgrees anycast "10.1.2.128/25" ⟨.v4 [10, 1, 2, 128], 25⟩ := by
  refine ⟨by decide +kernel, by decide +kernel, by decide +kernel, ?_⟩
  intro anycast agrees
  exact absurd agrees.connected (by decide +kernel)

end AgenticNetops.Fabricplan
