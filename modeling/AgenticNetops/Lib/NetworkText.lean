import AgenticNetops.Lib.DottedText
import AgenticNetops.Lib.GroupText

set_option autoImplicit false

/- Networks as they are printed: the text of a network reads back as that network,
   so printing what was read is stable. -/
namespace IPNetwork

open GoText NetIP Fallible

section Groups

theorem group_next (text : List Char) (fuel : Nat) (done : List Nat) (ellipsis : Option Nat) (group digit : Nat)
    (more : List Char) (small : group < 65536) (hex : digit < 16) :
    parseIPv6Fields text (fuel + 1) done ellipsis (Nat.toDigits 16 group ++ ':' :: digit.digitChar :: more) =
      parseIPv6Fields text fuel (done ++ [group]) ellipsis (digit.digitChar :: more) := by
  obtain ⟨run, short, long⟩ := group_read group small (digit.digitChar :: more)
  simp only [parseIPv6Fields, run]
  rw [if_neg (by omega), if_neg long]
  split
  · rename_i dot
    exact absurd (List.cons.inj dot).1 (by decide)
  · rename_i ended
    cases ended
  · rename_i ended
    cases (List.cons.inj ended).2
  · rename_i doubled
    exact absurd (List.cons.inj (List.cons.inj doubled).2).1 (hex_plain digit hex).1
  · rename_i behind _ single
    rw [← (List.cons.inj single).2]
  · rename_i none_else
    exact absurd rfl (none_else _)

-- The groups at the end of an address.
theorem groups_close (text : List Char) (fuel : Nat) (done : List Nat) (ellipsis : Option Nat) (group : Nat) (rest : List Nat)
    (room : rest.length < fuel) (small : ∀ field ∈ group :: rest, field < 65536) :
    parseIPv6Fields text fuel done ellipsis (groupsText (group :: rest)).toList = .ok (done ++ group :: rest, ellipsis) := by
  induction rest generalizing fuel done group with
  | nil =>
      obtain ⟨fuel, rfl⟩ := Nat.exists_eq_add_of_lt room
      have run := hex_digits group []
      have short : (Nat.toDigits 16 group).length ≤ 4 :=
        (Nat.length_toDigits_le_iff (by omega) (by omega)).mpr (small group (by simp))
      have long : (Nat.toDigits 16 group).length ≠ 0 := Nat.length_toDigits_pos.ne'
      rw [List.append_nil] at run
      rw [groups_chars_one]
      simp only [parseIPv6Fields, run, hexRun]
      rw [if_neg (by omega), if_neg long]
  | cons next rest ih =>
      obtain ⟨fuel, rfl⟩ : ∃ lower, fuel = lower + 1 := ⟨fuel - 1, by rw [List.length_cons] at room; omega⟩
      obtain ⟨digit, hex, more, headed⟩ := groups_head next rest []
      rw [List.append_nil] at headed
      have onward := ih fuel (done ++ [group]) next (by rw [List.length_cons] at room; omega)
        (fun field member => small field (List.mem_cons_of_mem group member))
      rw [headed] at onward
      rw [groups_chars_more, headed, group_next text fuel done ellipsis group digit more (small group (by simp)) hex, onward,
        List.append_assoc]
      rfl

-- The groups in front of a "::" that more groups follow.
theorem groups_open (text : List Char) (fuel : Nat) (done : List Nat) (group : Nat) (rest : List Nat) (behind : List Char)
    (present : behind ≠ []) (room : rest.length < fuel) (small : ∀ field ∈ group :: rest, field < 65536) :
    parseIPv6Fields text fuel done none ((groupsText (group :: rest)).toList ++ ':' :: ':' :: behind) =
      parseIPv6Fields text (fuel - (rest.length + 1)) (done ++ group :: rest) (some (done.length + (rest.length + 1))) behind := by
  induction rest generalizing fuel done group with
  | nil =>
      obtain ⟨fuel, rfl⟩ := Nat.exists_eq_add_of_lt room
      obtain ⟨run, short, long⟩ := group_read group (small group (by simp)) (':' :: behind)
      rw [groups_chars_one]
      simp only [List.length_nil, Nat.zero_add, parseIPv6Fields, run, Nat.add_sub_cancel]
      rw [if_neg (by omega), if_neg long]
      simp only [Option.isSome_none, Bool.false_eq_true, if_false, if_neg present]
  | cons next rest ih =>
      obtain ⟨fuel, rfl⟩ : ∃ lower, fuel = lower + 1 := ⟨fuel - 1, by rw [List.length_cons] at room; omega⟩
      obtain ⟨digit, hex, more, headed⟩ := groups_head next rest (':' :: ':' :: behind)
      have onward := ih fuel (done ++ [group]) next (by rw [List.length_cons] at room; omega)
        (fun field member => small field (List.mem_cons_of_mem group member))
      rw [headed] at onward
      rw [groups_chars_more, List.append_assoc, List.cons_append, headed,
        group_next text fuel done none group digit more (small group (by simp)) hex, onward, List.append_assoc,
        List.length_append, List.length_singleton, List.length_cons]
      rw [show fuel + 1 - (rest.length + 1 + 1) = fuel - (rest.length + 1) by omega,
        show done.length + 1 + (rest.length + 1) = done.length + (rest.length + 1 + 1) by omega]
      rfl

end Groups

section Fields
variable (fields : List Nat)

theorem plain_of_groups (groups : List Nat) (tail rest : List Char) (present : groups ≠ []) :
    (groupsText groups).toList ++ tail ≠ ':' :: rest := by
  cases groups with
  | nil => exact absurd rfl present
  | cons group others =>
      obtain ⟨digit, hex, more, headed⟩ := groups_head group others tail
      rw [headed]
      intro colon
      exact (hex_plain digit hex).1 (List.cons.inj colon).1

-- With no run of zero groups, all eight are printed.
theorem fields_read_whole (eight : fields.length = 8) (small : ∀ field ∈ fields, field < 65536) :
    readGroups (groupsText fields).toList = .ok fields := by
  have present : fields ≠ [] := fun none' => by rw [none'] at eight; cases eight
  have start := plain_of_groups fields []
  rw [List.append_nil] at start
  rw [groups_plain_text _ (fun rest double => start _ present double), groupsFrom]
  cases fields with
  | nil => exact absurd rfl present
  | cons group rest =>
      rw [List.length_cons] at eight
      rw [groups_close _ 8 [] none group rest (by omega) small]
      change expandEllipsis _ ([] ++ group :: rest) none = _
      rw [List.nil_append, expandEllipsis, if_neg (by rw [List.length_cons]; omega)]

theorem expand_run (text : List Char) (front back : List Nat) (run : Nat) (eight : front.length + run + back.length = 8)
    (some_run : run ≠ 0) :
    expandEllipsis text (front ++ back) (some front.length) = .ok (front ++ (List.replicate run 0 ++ back)) := by
  have short : (front ++ back).length < 8 := by rw [List.length_append]; omega
  rw [expandEllipsis]
  simp only [if_pos short, List.take_left, List.drop_left, List.append_assoc]
  rw [List.length_append, show 8 - (front.length + back.length) = run by omega]

-- A run of zero groups is printed as "::".
theorem fields_read_run (front back : List Nat) (run : Nat) (made : fields = front ++ (List.replicate run 0 ++ back))
    (some_run : run ≠ 0) (eight : fields.length = 8) (small : ∀ field ∈ fields, field < 65536) :
    readGroups ((groupsText front).toList ++ ':' :: ':' :: (groupsText back).toList) = .ok fields := by
  have counted : front.length + run + back.length = 8 := by
    rw [made, List.length_append, List.length_append, List.length_replicate] at eight
    omega
  have smallFront (field : Nat) (member : field ∈ front) : field < 65536 := small field (by rw [made]; simp [member])
  have smallBack (field : Nat) (member : field ∈ back) : field < 65536 := small field (by rw [made]; simp [member])
  have expanded (text : List Char) := expand_run text front back run counted some_run
  rw [made]
  cases front with
  | nil =>
      cases back with
      | nil =>
          have all : run = 8 := by simpa using counted
          rw [all]
          rfl
      | cons next others =>
          have more : (groupsText (next :: others)).toList ≠ [] := by
            obtain ⟨digit, _, rest, headed⟩ := groups_head next others []
            rw [List.append_nil] at headed
            rw [headed]
            exact List.cons_ne_nil _ _
          have empty : (groupsText []).toList = [] := rfl
          rw [empty, List.nil_append, groups_double _ more, groupsFrom,
            groups_close _ 8 [] (some 0) next others (by rw [List.length_cons] at counted; omega) smallBack]
          exact expanded _
  | cons group rest =>
      have start := plain_of_groups (group :: rest) (':' :: ':' :: (groupsText back).toList)
      rw [groups_plain_text _ (fun behind double => start _ (List.cons_ne_nil _ _) double), groupsFrom]
      cases back with
      | nil =>
          have closing : (groupsText []).toList = [] := rfl
          rw [closing, groups_read _ 8 [] group rest (by rw [List.length_cons] at counted; omega) smallFront]
          have made' := expanded ((groupsText (group :: rest)).toList ++ [':', ':'])
          rw [List.append_nil, List.length_cons] at made'
          change expandEllipsis _ ([] ++ group :: rest) (some (0 + (rest.length + 1))) = _
          rw [List.nil_append, Nat.zero_add]
          exact made'
      | cons next others =>
          have more : (groupsText (next :: others)).toList ≠ [] := by
            obtain ⟨digit, _, tail, headed⟩ := groups_head next others []
            rw [List.append_nil] at headed
            rw [headed]
            exact List.cons_ne_nil _ _
          rw [List.length_cons, List.length_cons] at counted
          rw [groups_open _ 8 [] group rest _ more (by omega) smallFront,
            groups_close _ (8 - (rest.length + 1)) _ _ next others (by omega) smallBack, List.nil_append, List.length_nil,
            Nat.zero_add]
          exact expanded _

theorem fields_read (eight : fields.length = 8) (small : ∀ field ∈ fields, field < 65536) :
    readGroups (fieldsText fields).toList = .ok fields := by
  by_cases found : (zeroRun 0 fields).2 = 0
  · rw [fields_text_plain fields found]
    exact fields_read_whole fields eight small
  · obtain ⟨front, back, run, made, printed⟩ := fields_text_parts fields found
    have chars : (fieldsText fields).toList = (groupsText front).toList ++ ':' :: ':' :: (groupsText back).toList := by
      rw [printed, String.toList_append, String.toList_append, List.append_assoc]
      rfl
    have long := made.long
    rw [chars]
    exact fields_read_run fields front back run made.whole (by omega) eight small

end Fields

section Networks

theorem digits_of_shape (base count value : Nat) (large : 0 < base) :
    (digitsOf base count value).length = count ∧ ∀ digit ∈ digitsOf base count value, digit < base := by
  induction count generalizing value with
  | zero => exact ⟨rfl, fun digit member => by cases member⟩
  | succ count ih =>
      obtain ⟨counted, small⟩ := ih (value / base)
      rw [digitsOf]
      refine ⟨by rw [List.length_append, counted, List.length_singleton], ?_⟩
      intro digit member
      cases List.mem_append.mp member with
      | inl before => exact small digit before
      | inr last => exact (List.mem_singleton.mp last) ▸ Nat.mod_lt value large

theorem address_v4_read (value : Nat) : ∃ read, addressValue .v4 (addressText .v4 value).toList = some read := by
  obtain ⟨four, small⟩ := digits_of_shape 256 4 value (by decide)
  obtain ⟨a, b, c, d, made⟩ := four_octets _ four
  have octet (digit : Nat) (member : digit ∈ [a, b, c, d]) : digit ≤ 255 := Nat.le_of_lt_succ (small digit (made ▸ member))
  have read := octets_read (octetsText [a, b, c, d]).toList a b c d (octet a (by simp)) (octet b (by simp)) (octet c (by simp))
    (octet d (by simp))
  refine ⟨radixValue 256 [a, b, c, d], ?_⟩
  simp only [addressText, made, addressValue, parseIPv4, read, Except.map]

theorem groups_text_chars (fields : List Nat) (c : Char) (member : c ∈ (fieldsText fields).toList) :
    c = ':' ∨ ∃ digit < 16, c = Nat.digitChar digit := by
  by_cases found : (zeroRun 0 fields).2 = 0
  · rw [fields_text_plain fields found] at member
    exact groups_plain fields c member
  · obtain ⟨front, back, run, made, printed⟩ := fields_text_parts fields found
    rw [printed, String.toList_append, String.toList_append, List.mem_append, List.mem_append] at member
    obtain (before | colons) | behind := member
    · exact groups_plain front c before
    · exact Or.inl (by simpa using colons)
    · exact groups_plain back c behind

theorem fields_text_free (fields : List Nat) : '/' ∉ (fieldsText fields).toList ∧ '%' ∉ (fieldsText fields).toList := by
  have other (c : Char) (member : c ∈ (fieldsText fields).toList) : c ≠ '/' ∧ c ≠ '%' := by
    cases groups_text_chars fields c member with
    | inl colon => rw [colon]; decide
    | inr hex =>
        obtain ⟨digit, bound, made⟩ := hex
        rw [made]
        exact ⟨(hex_plain digit bound).2.2.2, (hex_plain digit bound).2.2.1⟩
  exact ⟨fun slash => (other '/' slash).1 rfl, fun percent => (other '%' percent).2 rfl⟩

theorem address_v6_read (value : Nat) : ∃ read, addressValue .v6 (addressText .v6 value).toList = some read := by
  obtain ⟨eight, small⟩ := digits_of_shape 65536 8 value (by decide)
  have read := ipv6_without_zone _ (fields_text_free (digitsOf 65536 8 value)).2
  rw [fields_read _ eight small] at read
  refine ⟨radixValue 65536 (digitsOf 65536 8 value), ?_⟩
  simp only [addressText, addressValue, read, Except.map]

theorem address_read (version : Version) (value : Nat) :
    ∃ read, addressValue version (addressText version value).toList = some read := by
  cases version with
  | v4 => exact address_v4_read value
  | v6 => exact address_v6_read value

theorem address_text_free (version : Version) (value : Nat) : '/' ∉ (addressText version value).toList := by
  cases version with
  | v6 => exact (fields_text_free _).1
  | v4 =>
      obtain ⟨four, small⟩ := digits_of_shape 256 4 value (by decide)
      obtain ⟨a, b, c, d, made⟩ := four_octets _ four
      have digits (octet : Nat) : '/' ∉ Nat.toDigits 10 octet := by
        intro member
        have digit := digits_all octet '/' member
        cases digit
      rw [addressText, made, octets_chars]
      simp [digits]

-- What the octets of an address are read from holds no colon.
theorem octets_without_colon (text : List Char) (done : List Nat) (value digits : Nat) (rest : List Char) (octets : List Nat)
    (read : parseIPv4Fields text done value digits rest = .ok octets) : ':' ∉ rest := by
  induction rest generalizing done value digits with
  | nil => simp
  | cons c rest ih =>
      rw [parseIPv4Fields] at read
      by_cases digit : isDigit c = true
      · rw [if_pos digit, guard_ok, guard_ok] at read
        have other : ':' ≠ c := fun colon => by rw [← colon] at digit; cases digit
        exact List.not_mem_cons_of_ne_of_not_mem other (ih done _ _ read.2.2)
      · rw [if_neg digit] at read
        by_cases dot : c = '.'
        · rw [if_pos dot, guard_ok, guard_ok] at read
          have other : ':' ≠ c := fun colon => by rw [← colon] at dot; cases dot
          exact List.not_mem_cons_of_ne_of_not_mem other (ih _ 0 0 read.2.2)
        · rw [if_neg dot] at read
          cases read

theorem fields_text_colon (fields : List Nat) (eight : fields.length = 8) : ':' ∈ (fieldsText fields).toList := by
  by_cases found : (zeroRun 0 fields).2 = 0
  · rw [fields_text_plain fields found]
    cases fields with
    | nil => cases eight
    | cons group rest =>
        cases rest with
        | nil => cases eight
        | cons next others =>
            rw [groups_chars_more]
            exact List.mem_append_right _ List.mem_cons_self
  · obtain ⟨front, back, run, made, printed⟩ := fields_text_parts fields found
    rw [printed, String.toList_append, String.toList_append]
    exact List.mem_append_left _ (List.mem_append_right _ (by decide))

-- The text of an IPv6 address is never read as an IPv4 address.
theorem address_version (value : Nat) : addressValue .v4 (addressText .v6 value).toList = none := by
  have colon := fields_text_colon _ (digits_of_shape 65536 8 value (by decide)).1
  rw [addressValue, addressText]
  cases read : parseIPv4 (fieldsText (digitsOf 65536 8 value)).toList with
  | error message => rfl
  | ok addr =>
      rw [parseIPv4] at read
      cases octets : parseIPv4Fields (fieldsText (digitsOf 65536 8 value)).toList [] 0 0
          (fieldsText (digitsOf 65536 8 value)).toList with
      | error message =>
          rw [octets] at read
          cases read
      | ok found => exact absurd colon (octets_without_colon _ [] 0 0 _ found octets)

theorem decimal_text (value : Nat) : decimal (Nat.toDigits 10 value) = value := by
  induction value using Nat.strongRecOn with
  | ind value ih =>
      by_cases one : value < 10
      · rw [Nat.toDigits_of_lt_base one, decimal, List.foldl_cons, List.foldl_nil, (digit_char value one).2]
        omega
      · have last := Nat.mod_lt value (show 0 < 10 by omega)
        rw [Nat.toDigits_of_base_le (by omega) (by omega), decimal, List.foldl_append, List.foldl_cons, List.foldl_nil,
          (digit_char (value % 10) last).2]
        have front := ih (value / 10) (by omega)
        rw [decimal] at front
        rw [front]
        omega

theorem length_text_read (version : Version) (length : Nat) (fits : length ≤ version.maxPrefixlen) :
    prefixLength version (toString length).toList = some length := by
  have chars : (toString length).toList = Nat.toDigits 10 length := Nat.toList_repr
  have digits : (Nat.toDigits 10 length).all isDigit = true := List.all_eq_true.mpr (digits_all length)
  rw [chars, prefixLength.eq_def, decimal_text, if_pos ⟨Nat.toDigits_ne_nil, digits, fits⟩]

theorem network_text_split (network : Network) :
    splitChars '/' (networkText network).toList =
      [(addressText network.version network.networkAddress).toList, (toString network.prefixlen).toList] := by
  have slashes : (networkText network).toList =
      (addressText network.version network.networkAddress).toList ++ '/' :: (toString network.prefixlen).toList := by
    rw [networkText, String.toList_append, String.toList_append, List.append_assoc]
    rfl
  have free : '/' ∉ (toString network.prefixlen).toList := by
    intro member
    have chars : (toString network.prefixlen).toList = Nat.toDigits 10 network.prefixlen := Nat.toList_repr
    rw [chars] at member
    have digit := digits_all _ '/' member
    cases digit
  rw [slashes, split_last '/' _ _ free, split_free '/' _ (address_text_free _ _)]
  rfl

theorem network_made (version : Version) (address : List Char) (length : Nat) (value : Nat)
    (read : addressValue version address = some value) :
    network version address (some length) = some ⟨version, value - value % 2 ^ (version.maxPrefixlen - length), length⟩ := by
  rw [network, read]
  rfl

-- The text of a network reads back as a network of its family and length.
theorem network_text_read (printed : Network) (fits : printed.prefixlen ≤ printed.version.maxPrefixlen) :
    ∃ address, ipNetwork (networkText printed) = some { printed with networkAddress := address } := by
  obtain ⟨version, value, length⟩ := printed
  obtain ⟨read, made⟩ := address_read version value
  have bits := length_text_read version length fits
  have split := network_text_split ⟨version, value, length⟩
  refine ⟨read - read % 2 ^ (version.maxPrefixlen - length), ?_⟩
  rw [ipNetwork, split]
  cases version with
  | v4 =>
      simp only [bits]
      rw [network_made .v4 _ length read made]
      rfl
  | v6 =>
      have other (length : Option Nat) : network .v4 (addressText .v6 value).toList length = none := by
        rw [network, address_version]
        rfl
      simp only [bits, other, Option.none_or]
      exact network_made .v6 _ length read made

theorem prefix_length_fits (version : Version) (text : List Char) (length : Nat) (read : prefixLength version text = some length) :
    length ≤ version.maxPrefixlen := by
  rw [prefixLength.eq_def] at read
  by_cases plain : text ≠ [] ∧ text.all isDigit ∧ decimal text ≤ version.maxPrefixlen
  · rw [if_pos plain] at read
    cases read
    exact plain.2.2
  · rw [if_neg plain] at read
    cases version with
    | v6 => cases read
    | v4 =>
        obtain ⟨mask, _, masked⟩ := Option.bind_eq_some_iff.mp read
        have listed : length ∈ List.range 33 := by
          cases Option.or_eq_some_iff.mp masked with
          | inl net => exact List.mem_of_find?_eq_some net
          | inr host => exact List.mem_of_find?_eq_some host.2
        exact Nat.le_of_lt_succ (List.mem_range.mp listed)

theorem network_fits (version : Version) (address : List Char) (length : Option Nat) (read : Network)
    (fits : ∀ bits ∈ length, bits ≤ version.maxPrefixlen) (made : network version address length = some read) :
    read.prefixlen ≤ read.version.maxPrefixlen := by
  obtain ⟨value, _, rest⟩ := Option.bind_eq_some_iff.mp made
  obtain ⟨bits, given, built⟩ := Option.bind_eq_some_iff.mp rest
  cases built
  exact fits bits given

theorem ip_network_fits (text : String) (read : Network) (made : ipNetwork text = some read) :
    read.prefixlen ≤ read.version.maxPrefixlen := by
  have either (address : List Char) (four six : Option Nat) (fitsFour : ∀ bits ∈ four, bits ≤ Version.v4.maxPrefixlen)
      (fitsSix : ∀ bits ∈ six, bits ≤ Version.v6.maxPrefixlen)
      (either : (network .v4 address four).or (network .v6 address six) = some read) :
      read.prefixlen ≤ read.version.maxPrefixlen := by
    cases Option.or_eq_some_iff.mp either with
    | inl v4 => exact network_fits .v4 address four read fitsFour v4
    | inr v6 => exact network_fits .v6 address six read fitsSix v6.2
  rw [ipNetwork] at made
  split at made
  · refine either _ (some 32) (some 128) ?_ ?_ made
    · intro bits given
      cases given
      exact Nat.le_refl 32
    · intro bits given
      cases given
      exact Nat.le_refl 128
  · exact either _ _ _ (prefix_length_fits .v4 _) (prefix_length_fits .v6 _) made
  · cases made

end Networks

end IPNetwork
