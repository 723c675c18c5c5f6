import AgenticNetops.Lib.AddressText
import AgenticNetops.Lib.IPNetwork

set_option autoImplicit false

/- IPv6 addresses as they are printed: the groups in front of a closing "::" read back,
   and what a printed address that ends in "::" says of its groups. -/
namespace NetIP

open GoText Fallible IPNetwork

section Groups

def groupsText (groups : List Nat) : String := join (groups.map hexText) ":"

theorem hex_digit_value : ∀ digit < 16, hexValue (Nat.digitChar digit) = some digit := by decide

theorem hex_digits (value : Nat) (rest : List Char) :
    hexRun (Nat.toDigits 16 value ++ rest) (0, 0) = hexRun rest ((Nat.toDigits 16 value).length, value) := by
  induction value using Nat.strongRecOn generalizing rest with
  | ind value ih =>
      by_cases one : value < 16
      · rw [Nat.toDigits_of_lt_base one, List.singleton_append, hexRun, hex_digit_value value one]
        simp
      · have last := hex_digit_value (value % 16) (Nat.mod_lt value (by omega))
        have whole : value / 16 * 16 + value % 16 = value := by omega
        rw [Nat.toDigits_of_base_le (by omega) (by omega), List.append_assoc, List.singleton_append,
          ih (value / 16) (by omega), hexRun, last, List.length_append]
        simp only [whole]
        rfl

theorem groups_chars_one (group : Nat) : (groupsText [group]).toList = Nat.toDigits 16 group := by
  simp [groupsText, join, hexText]

theorem groups_chars_more (group next : Nat) (rest : List Nat) :
    (groupsText (group :: next :: rest)).toList = Nat.toDigits 16 group ++ ':' :: (groupsText (next :: rest)).toList := by
  simp [groupsText, join, hexText]

-- A printed group starts with a hexadecimal digit.
theorem digits_head (value : Nat) (rest : List Char) : ∃ digit < 16, ∃ more, Nat.toDigits 16 value ++ rest = digit.digitChar :: more := by
  induction value using Nat.strongRecOn generalizing rest with
  | ind value ih =>
      by_cases one : value < 16
      · exact ⟨value, one, rest, by rw [Nat.toDigits_of_lt_base one]; rfl⟩
      · rw [Nat.toDigits_of_base_le (by omega) (by omega), List.append_assoc]
        exact ih (value / 16) (by omega) _

theorem groups_head (group : Nat) (rest : List Nat) (tail : List Char) :
    ∃ digit < 16, ∃ more, (groupsText (group :: rest)).toList ++ tail = digit.digitChar :: more := by
  cases rest with
  | nil =>
      rw [groups_chars_one]
      exact digits_head group tail
  | cons next rest =>
      rw [groups_chars_more, List.append_assoc]
      exact digits_head group _

theorem hex_plain : ∀ digit < 16, Nat.digitChar digit ≠ ':' ∧ Nat.digitChar digit ≠ '.' ∧ Nat.digitChar digit ≠ '%' ∧ Nat.digitChar digit ≠ '/' := by
  decide

-- A group below 2^16 is read whole, up to the colon behind it.
theorem group_read (group : Nat) (small : group < 65536) (rest : List Char) :
    hexRun (Nat.toDigits 16 group ++ ':' :: rest) (0, 0) = ((Nat.toDigits 16 group).length, group, ':' :: rest) ∧
      (Nat.toDigits 16 group).length ≤ 4 ∧ (Nat.toDigits 16 group).length ≠ 0 := by
  refine ⟨?_, ?_, ?_⟩
  · rw [hex_digits]
    rfl
  · exact (Nat.length_toDigits_le_iff (by omega) (by omega)).mpr small
  · exact Nat.length_toDigits_pos.ne'

-- The groups in front of a closing "::", with the place of the ellipsis behind them.
theorem groups_read (text : List Char) (fuel : Nat) (done : List Nat) (group : Nat) (rest : List Nat) (room : rest.length < fuel)
    (small : ∀ field ∈ group :: rest, field < 65536) :
    parseIPv6Fields text fuel done none ((groupsText (group :: rest)).toList ++ [':', ':']) =
      .ok (done ++ group :: rest, some (done.length + (rest.length + 1))) := by
  induction rest generalizing fuel done group with
  | nil =>
      obtain ⟨fuel, rfl⟩ := Nat.exists_eq_add_of_lt room
      obtain ⟨run, short, long⟩ := group_read group (small group (by simp)) [':']
      rw [groups_chars_one]
      simp only [List.length_nil, Nat.zero_add, parseIPv6Fields, run]
      rw [if_neg (by omega), if_neg long]
      rfl
  | cons next rest ih =>
      obtain ⟨fuel, rfl⟩ : ∃ lower, fuel = lower + 1 := ⟨fuel - 1, by rw [List.length_cons] at room; omega⟩
      obtain ⟨digit, hex, more, headed⟩ := groups_head next rest [':', ':']
      obtain ⟨run, short, long⟩ := group_read group (small group (by simp)) (digit.digitChar :: more)
      have onward := ih fuel (done ++ [group]) next (by rw [List.length_cons] at room; omega)
        (fun field member => small field (List.mem_cons_of_mem group member))
      rw [headed] at onward
      rw [groups_chars_more, List.append_assoc, List.cons_append, headed]
      simp only [parseIPv6Fields, run]
      rw [if_neg (by omega), if_neg long]
      split
      · rename_i dot
        exact absurd (List.cons.inj dot).1 (by decide)
      · rename_i ended
        cases ended
      · rename_i ended
        cases (List.cons.inj ended).2
      · rename_i doubled
        exact absurd (List.cons.inj (List.cons.inj doubled).2).1 (hex_plain digit hex).1
      · rename_i behind _ single
        rw [← (List.cons.inj single).2, onward, List.append_assoc, List.length_append, List.length_singleton, List.length_cons]
        simp only [List.singleton_append]
        rw [show done.length + 1 + (rest.length + 1) = done.length + (rest.length + 1 + 1) by omega]
      · rename_i none_else
        exact absurd rfl (none_else _)

theorem digits_hex (value : Nat) (c : Char) (member : c ∈ Nat.toDigits 16 value) : ∃ digit < 16, c = Nat.digitChar digit := by
  induction value using Nat.strongRecOn with
  | ind value ih =>
      by_cases one : value < 16
      · rw [Nat.toDigits_of_lt_base one, List.mem_singleton] at member
        exact ⟨value, one, member⟩
      · rw [Nat.toDigits_of_base_le (by omega) (by omega), List.mem_append, List.mem_singleton] at member
        cases member with
        | inl before => exact ih (value / 16) (by omega) before
        | inr last => exact ⟨value % 16, Nat.mod_lt value (by omega), last⟩

-- Groups are printed with hexadecimal digits and colons.
theorem groups_plain (groups : List Nat) (c : Char) (member : c ∈ (groupsText groups).toList) :
    c = ':' ∨ ∃ digit < 16, c = Nat.digitChar digit := by
  induction groups with
  | nil => simp [groupsText, join] at member
  | cons group rest ih =>
      cases rest with
      | nil =>
          rw [groups_chars_one] at member
          exact Or.inr (digits_hex group c member)
      | cons next rest =>
          rw [groups_chars_more, List.mem_append, List.mem_cons] at member
          obtain digit | colon | later := member
          · exact Or.inr (digits_hex group c digit)
          · exact Or.inl colon
          · exact ih later

theorem groups_address (group : Nat) (rest : List Nat) (few : rest.length < 7) (small : ∀ field ∈ group :: rest, field < 65536) :
    parseAddr ((groupsText (group :: rest)).toList ++ [':', ':']) =
      .ok (.v6 (group :: rest ++ List.replicate (7 - rest.length) 0) []) := by
  have plain (c : Char) (member : c ∈ (groupsText (group :: rest)).toList ++ [':', ':']) : c ≠ '.' ∧ c ≠ '%' := by
    have kind : c = ':' ∨ ∃ digit < 16, c = Nat.digitChar digit := by
      cases List.mem_append.mp member with
      | inl inside => exact groups_plain _ c inside
      | inr closing => simp at closing; exact Or.inl closing
    cases kind with
    | inl colon => rw [colon]; decide
    | inr hex =>
        obtain ⟨digit, bound, rfl⟩ := hex
        exact ⟨(hex_plain digit bound).2.1, (hex_plain digit bound).2.2.1⟩
  obtain ⟨digit, hex, more, headed⟩ := groups_head group rest [':', ':']
  have read := groups_read ((groupsText (group :: rest)).toList ++ [':', ':']) 8 [] group rest (by omega) small
  generalize text_eq : (groupsText (group :: rest)).toList ++ [':', ':'] = text at plain headed read ⊢
  have closes : ':' ∈ text := by rw [← text_eq]; simp
  have family : text.find? (fun c => c = '.' || c = ':' || c = '%') = some ':' := by
    cases found : text.find? (fun c => c = '.' || c = ':' || c = '%') with
    | none => exact absurd (List.find?_eq_none.mp found ':' closes) (by simp)
    | some c =>
        have mark := List.find?_some found
        obtain ⟨dot, percent⟩ := plain c (List.mem_of_find?_eq_some found)
        simp [dot, percent] at mark
        rw [mark]
  have whole : text.takeWhile (· ≠ '%') = text := by
    rw [List.takeWhile_eq_self_iff]
    intro c member
    exact decide_eq_true (plain c member).2
  have zone : text.dropWhile (· ≠ '%') = [] := by
    rw [List.dropWhile_eq_nil_iff]
    intro c member
    exact decide_eq_true (plain c member).2
  rw [parseAddr, family]
  have unzoned : ¬ (text.length < text.length ∧ List.drop 1 ([] : List Char) = []) := fun cut => Nat.lt_irrefl _ cut.1
  have expanded : expandEllipsis text (group :: rest) (some (rest.length + 1)) =
      .ok (group :: rest ++ List.replicate (7 - rest.length) 0) := by
    have short : (group :: rest).length < 8 := by rw [List.length_cons]; omega
    have taken : (group :: rest).take (rest.length + 1) = group :: rest := List.take_of_length_le (by rw [List.length_cons])
    have dropped : (group :: rest).drop (rest.length + 1) = [] := List.drop_of_length_le (by rw [List.length_cons])
    rw [expandEllipsis]
    simp only [if_pos short, taken, dropped, List.append_nil]
    rw [List.length_cons, show 8 - (rest.length + 1) = 7 - rest.length by omega]
  simp only [parseIPv6, whole, zone]
  rw [if_neg unzoned]
  split
  · exact absurd (List.cons.inj headed).1.symm (hex_plain digit hex).1
  · exact absurd (List.cons.inj headed).1.symm (hex_plain digit hex).1
  · rw [read, List.nil_append, List.length_nil, Nat.zero_add]
    change (expandEllipsis text (group :: rest) (some (rest.length + 1)) >>= fun fields => Except.ok (Addr.v6 fields [])) = _
    rw [expanded]
    rfl

end Groups

section Printed

-- A run of zero groups that no zero group stands in front of.
structure ZeroRun (fields front back : List Nat) (run : Nat) : Prop where
  whole : fields = front ++ (List.replicate run 0 ++ back)
  long : 2 ≤ run
  starts : front.getLast? ≠ some 0

theorem zeros_taken (fields : List Nat) : fields.takeWhile (· = 0) = List.replicate (fields.takeWhile (· = 0)).length 0 := by
  rw [List.eq_replicate_iff]
  refine ⟨rfl, ?_⟩
  intro field member
  simpa using List.mem_takeWhile_imp member

theorem run_taken (run : Nat) (back : List Nat) : run ≤ ((List.replicate run 0 ++ back).takeWhile (· = 0)).length := by
  rw [List.takeWhile_append_of_pos (by simp), List.length_append, List.length_replicate]
  omega

theorem zero_run_made (start : Nat) (fields : List Nat) (found : (zeroRun start fields).2 ≠ 0) :
    ∃ front back, ZeroRun fields front back (zeroRun start fields).2 ∧ (zeroRun start fields).1 = start + front.length := by
  induction fields generalizing start with
  | nil => exact absurd rfl found
  | cons field rest ih =>
      rw [zeroRun] at found ⊢
      by_cases here : ((field :: rest).takeWhile (· = 0)).length ≥ 2 ∧
          ((field :: rest).takeWhile (· = 0)).length ≥ (zeroRun (start + 1) rest).2
      · simp only [if_pos here]
        refine ⟨[], (field :: rest).dropWhile (· = 0), ⟨?_, here.1, by simp⟩, by simp⟩
        rw [← zeros_taken, List.nil_append, List.takeWhile_append_dropWhile]
      · simp only [if_neg here] at found ⊢
        obtain ⟨front, back, made, placed⟩ := ih (start + 1) found
        refine ⟨field :: front, back, ⟨?_, made.long, ?_⟩, by rw [placed, List.length_cons]; omega⟩
        · rw [List.cons_append, ← made.whole]
        · cases front with
          | nil =>
              -- A zero here would have made this run longer than the one behind it.
              intro zero
              have zeroed : field = 0 := by simpa using zero
              have longer := run_taken (zeroRun (start + 1) rest).2 back
              rw [← List.nil_append (List.replicate _ 0 ++ back), ← made.whole] at longer
              have grown : ((field :: rest).takeWhile (· = 0)).length = (rest.takeWhile (· = 0)).length + 1 := by
                rw [zeroed, List.takeWhile_cons_of_pos (by simp), List.length_cons]
              have long := made.long
              exact here ⟨by omega, by omega⟩
          | cons next more =>
              rw [List.getLast?_cons_cons]
              exact made.starts

theorem groups_last (groups : List Nat) (present : groups ≠ []) :
    ∃ init, ∃ digit < 16, (groupsText groups).toList = init ++ [Nat.digitChar digit] := by
  induction groups with
  | nil => exact absurd rfl present
  | cons group rest ih =>
      cases rest with
      | nil =>
          rw [groups_chars_one]
          by_cases one : group < 16
          · exact ⟨[], group, one, Nat.toDigits_of_lt_base one⟩
          · exact ⟨_, group % 16, Nat.mod_lt group (by omega), Nat.toDigits_of_base_le (by omega) (by omega)⟩
      | cons next rest =>
          obtain ⟨init, digit, bound, made⟩ := ih (by simp)
          exact ⟨Nat.toDigits 16 group ++ ':' :: init, digit, bound, by rw [groups_chars_more, made, List.append_assoc, List.cons_append]⟩

theorem fields_text_run (fields : List Nat) (found : (zeroRun 0 fields).2 ≠ 0) :
    fieldsText fields = groupsText (fields.take (zeroRun 0 fields).1) ++ "::" ++
      groupsText (fields.drop ((zeroRun 0 fields).1 + (zeroRun 0 fields).2)) := by
  rw [fieldsText]
  generalize zeroRun 0 fields = located at found ⊢
  obtain ⟨start, run⟩ := located
  cases run with
  | zero => exact absurd rfl found
  | succ run => rfl

-- The groups on either side of the "::".
theorem fields_text_parts (fields : List Nat) (found : (zeroRun 0 fields).2 ≠ 0) :
    ∃ front back run, ZeroRun fields front back run ∧ fieldsText fields = groupsText front ++ "::" ++ groupsText back := by
  obtain ⟨front, back, made, placed⟩ := zero_run_made 0 fields found
  have printed := fields_text_run fields found
  rw [placed, Nat.zero_add] at printed
  generalize (zeroRun 0 fields).2 = run at made printed
  have before : fields.take front.length = front := by rw [made.whole, List.take_left]
  have behind : fields.drop (front.length + run) = back := by
    rw [made.whole, ← List.append_assoc]
    exact List.drop_left' (by rw [List.length_append, List.length_replicate])
  rw [before, behind] at printed
  exact ⟨front, back, run, made, printed⟩

theorem fields_text_plain (fields : List Nat) (found : (zeroRun 0 fields).2 = 0) : fieldsText fields = groupsText fields := by
  rw [fieldsText, ← Prod.eta (zeroRun 0 fields), found]
  rfl

-- An address whose text ends in "::" has its longest run of zero groups at the end.
theorem ends_in_ellipsis (fields : List Nat) (present : fields ≠ []) (init : List Char)
    (ends : (fieldsText fields).toList = init ++ [':']) :
    ∃ front run, ZeroRun fields front [] run ∧ fieldsText fields = groupsText front ++ "::" := by
  have never (groups : List Nat) (some_group : groups ≠ []) (before : List Char) :
      before ++ (groupsText groups).toList ≠ init ++ [':'] := by
    intro same
    obtain ⟨start, digit, bound, made⟩ := groups_last groups some_group
    rw [made, ← List.append_assoc] at same
    exact (hex_plain digit bound).1 (List.cons.inj (List.append_inj_right' same rfl)).1
  by_cases found : (zeroRun 0 fields).2 = 0
  · rw [fields_text_plain fields found] at ends
    exact absurd ends (never fields present [])
  · obtain ⟨front, back, run, made, printed⟩ := fields_text_parts fields found
    cases back with
    | nil => exact ⟨front, run, made, by rw [printed]; simp [groupsText, join]⟩
    | cons next rest =>
        have closing := never (next :: rest) (by simp) ((groupsText front).toList ++ [':', ':'])
        refine absurd ?_ closing
        rw [← ends, printed, String.toList_append, String.toList_append]
        rfl

end Printed

end NetIP
