import AgenticNetops.Lib.AddressText
import AgenticNetops.Lib.IPNetwork

set_option autoImplicit false

/- An address text in dotted notation, cut at its last dot: what stands in front fixes the
   whole address but its last octet. An IPv6 address may end in such a notation too. -/
namespace NetIP

open GoText Fallible

section Split

theorem split_chars_list (separator : Char) (text : List Char) : splitChars separator text = text.splitOn separator := by
  induction text with
  | nil => rfl
  | cons c rest ih =>
      rw [splitChars, ih, List.splitOn_cons_eq_if_modifyHead]
      cases fields : rest.splitOn separator with
      | nil => exact absurd fields (List.splitOn_ne_nil _ _)
      | cons field later =>
          by_cases here : c = separator
          · simp [here]
          · simp [here]

theorem split_last (separator : Char) (front last : List Char) (free : separator ∉ last) :
    splitChars separator (front ++ separator :: last) = splitChars separator front ++ [last] := by
  rw [split_chars_list, split_chars_list, List.splitOn_append_cons_self, List.splitOn_eq_singleton free]

theorem split_free (separator : Char) (text : List Char) (free : separator ∉ text) : splitChars separator text = [text] := by
  rw [split_chars_list, List.splitOn_eq_singleton free]

theorem split_back (separator : Char) (text : List Char) : [separator].intercalate (splitChars separator text) = text := by
  rw [split_chars_list, List.intercalate_splitOn]

theorem split_count (separator : Char) (text : List Char) : (splitChars separator text).length = text.count separator + 1 := by
  rw [split_chars_list]
  induction text with
  | nil => rfl
  | cons c rest ih =>
      rw [List.splitOn_cons_eq_if_modifyHead, List.count_cons]
      by_cases here : (c == separator) = true
      · rw [if_pos here, if_pos here, List.length_cons, ih]
      · rw [if_neg here, if_neg here, List.length_modifyHead, ih, Nat.add_zero]

end Split

section Octets

-- Behind three octets there is one more and no dot.
theorem last_octet_free (text : List Char) (done : List Nat) (value digits : Nat) (rest : List Char) (octets : List Nat)
    (three : done.length = 3) (read : parseIPv4Fields text done value digits rest = .ok octets) :
    '.' ∉ rest ∧ octets.take 3 = done := by
  induction rest generalizing value digits with
  | nil =>
      rw [parseIPv4Fields, guard_ok] at read
      obtain ⟨_, made⟩ := read
      cases made
      exact ⟨List.not_mem_nil, List.take_left' three⟩
  | cons c rest ih =>
      rw [parseIPv4Fields] at read
      by_cases digit : isDigit c = true
      · rw [if_pos digit, guard_ok, guard_ok] at read
        obtain ⟨_, _, read⟩ := read
        obtain ⟨free, same⟩ := ih _ _ read
        have plain : '.' ≠ c := by
          intro dot
          rw [← dot] at digit
          cases digit
        exact ⟨fun member => (List.mem_cons.mp member).elim plain free, same⟩
      · rw [if_neg digit] at read
        by_cases dot : c = '.'
        · rw [if_pos dot, guard_ok, guard_ok] at read
          obtain ⟨_, notFull, _⟩ := read
          exact absurd three notFull
        · rw [if_neg dot] at read
          cases read

/- The last dot of a dotted text: the loop arrives behind it with the first three octets,
   whatever follows. -/
theorem last_dot (text : List Char) (done : List Nat) (value digits : Nat) (rest : List Char) (octets : List Nat)
    (room : done.length < 3) (read : parseIPv4Fields text done value digits rest = .ok octets) :
    ∃ front last, rest = front ++ '.' :: last ∧ '.' ∉ last ∧ front.count '.' + done.length = 2 ∧
      ∀ text' tail, tail ≠ [] →
        parseIPv4Fields text' done value digits (front ++ '.' :: tail) = parseIPv4Fields text' (octets.take 3) 0 0 tail := by
  induction rest generalizing done value digits with
  | nil =>
      rw [parseIPv4Fields, if_pos room] at read
      cases read
  | cons c rest ih =>
      rw [parseIPv4Fields] at read
      by_cases digit : isDigit c = true
      · rw [if_pos digit, guard_ok, guard_ok] at read
        obtain ⟨notLeading, small, read⟩ := read
        obtain ⟨front, last, rfl, free, parts, again⟩ := ih done _ _ room read
        have plain : c ≠ '.' := by
          intro dot
          rw [dot] at digit
          cases digit
        refine ⟨c :: front, last, rfl, free, ?_, ?_⟩
        · rw [List.count_cons_of_ne plain]
          exact parts
        · intro text' tail more
          rw [List.cons_append, parseIPv4Fields, if_pos digit, if_neg notLeading, if_neg small]
          exact again text' tail more
      · rw [if_neg digit] at read
        by_cases dot : c = '.'
        · rw [if_pos dot, guard_ok, guard_ok] at read
          obtain ⟨followed, notFull, read⟩ := read
          have counted : digits ≠ 0 := fun none => followed (Or.inl none)
          have next (text' tail : List Char) (more : tail ≠ []) :
              parseIPv4Fields text' done value digits ('.' :: tail) = parseIPv4Fields text' (done ++ [value]) 0 0 tail :=
            dot_read text' done value digits tail (by omega) more room
          by_cases lastDot : done.length = 2
          · have three : (done ++ [value]).length = 3 := by rw [List.length_append, List.length_singleton]; omega
            obtain ⟨free, same⟩ := last_octet_free text _ _ _ rest octets three read
            refine ⟨[], rest, by rw [dot]; rfl, free, by rw [lastDot]; rfl, ?_⟩
            intro text' tail more
            rw [List.nil_append, next text' tail more, same]
          · have more : (done ++ [value]).length < 3 := by rw [List.length_append, List.length_singleton]; omega
            obtain ⟨front, last, rfl, free, parts, again⟩ := ih (done ++ [value]) 0 0 more read
            refine ⟨'.' :: front, last, by rw [dot]; rfl, free, ?_, ?_⟩
            · rw [List.length_append, List.length_singleton] at parts
              rw [List.count_cons_self]
              omega
            · intro text' tail present
              rw [List.cons_append, next text' _ (by simp)]
              exact again text' tail present
        · rw [if_neg dot] at read
          cases read

-- The same text with 1 for its last octet.
theorem octets_last (text rest : List Char) (octets : List Nat) (read : parseIPv4Fields text [] 0 0 rest = .ok octets) :
    ∃ front last, rest = front ++ '.' :: last ∧ '.' ∉ last ∧ front.count '.' = 2 ∧
      ∀ text', parseIPv4Fields text' [] 0 0 (front ++ ['.', '1']) = .ok (octets.dropLast ++ [1]) := by
  obtain ⟨four, _⟩ := octets_made text [] 0 0 rest octets (by simp) (by omega) (by simp) read
  obtain ⟨front, last, cut, free, dots, again⟩ := last_dot text [] 0 0 rest octets (by simp) read
  refine ⟨front, last, cut, free, by simpa using dots, ?_⟩
  intro text'
  have front3 : octets.dropLast = octets.take 3 := by rw [List.dropLast_eq_take, four]
  have three : (octets.take 3).length = 3 := by rw [List.length_take, four]; rfl
  have one : parseIPv4Fields text' (octets.take 3) 0 0 ['1'] = parseIPv4Fields text' (octets.take 3) 1 1 [] :=
    octet_read text' (octets.take 3) 1 [] (by omega)
  rw [again text' ['1'] (by simp), front3, one, parseIPv4Fields, if_neg (by omega)]

end Octets

section Fields

theorem hex_dot : hexValue '.' = none := by decide

theorem hex_colon : hexValue ':' = none := by decide

-- The digits of a group, whatever follows them.
theorem hex_run_split (rest : List Char) (start : Nat × Nat) (count value : Nat) (after : List Char)
    (run : hexRun rest start = (count, value, after)) :
    ∃ digits, rest = digits ++ after ∧ (∀ c ∈ digits, hexValue c ≠ none) ∧
      ∀ c more, hexValue c = none → hexRun (digits ++ c :: more) start = (count, value, c :: more) := by
  induction rest generalizing start with
  | nil =>
      cases run
      refine ⟨[], rfl, by simp, ?_⟩
      intro c more stops
      rw [List.nil_append, hexRun, stops]
  | cons c rest ih =>
      rw [hexRun] at run
      cases digit : hexValue c with
      | none =>
          rw [digit] at run
          cases run
          refine ⟨[], rfl, by simp, ?_⟩
          intro other more stops
          rw [List.nil_append, hexRun, stops]
      | some d =>
          rw [digit] at run
          obtain ⟨digits, whole, hex, again⟩ := ih _ run
          refine ⟨c :: digits, by rw [whole]; rfl, ?_, ?_⟩
          · intro other member
            cases List.mem_cons.mp member with
            | inl here =>
                rw [here, digit]
                exact Option.some_ne_none d
            | inr later => exact hex other later
          · intro other more stops
            rw [List.cons_append, hexRun, digit]
            exact again other more stops

-- A field list whose last two fields are read from four octets, with 1 for the last octet.
def setLastField (fields : List Nat) : List Nat := fields.dropLast ++ [fields.getLastD 0 / 256 * 256 + 1]

theorem no_dot (digits : List Char) (hex : ∀ c ∈ digits, hexValue c ≠ none) : '.' ∉ digits := fun member => hex '.' member hex_dot

-- The first group of a dotted tail ends before its last dot.
theorem dots_behind (digits more front last : List Char) (plain : '.' ∉ digits) (same : digits ++ '.' :: more = front ++ '.' :: last) :
    ∃ gap, front ++ ['.', '1'] = digits ++ '.' :: gap := by
  cases List.append_eq_append_iff.mp same with
  | inl longer =>
      obtain ⟨middle, grown, dots⟩ := longer
      cases middle with
      | nil => exact ⟨['1'], by rw [grown, List.append_nil]⟩
      | cons c between =>
          have dot : c = '.' := (List.cons.inj dots).1.symm
          exact ⟨between ++ ['.', '1'], by rw [grown, dot, List.append_assoc, List.cons_append]⟩
  | inr shorter =>
      obtain ⟨middle, grown, dots⟩ := shorter
      cases middle with
      | nil => exact ⟨['1'], by rw [grown, List.append_nil]⟩
      | cons c between =>
          have dot : c = '.' := (List.cons.inj dots).1.symm
          exact absurd (by rw [grown, dot]; simp) plain

section Step
variable (text : List Char) (fuel : Nat) (done : List Nat) (ellipsis : Option Nat) (digits : List Char) (count value : Nat)
  (few : ¬ count > 4) (counted : count ≠ 0)
include few counted

theorem one_colon_step (c : Char) (more : List Char) (run : hexRun (digits ++ ':' :: c :: more) (0, 0) = (count, value, ':' :: c :: more))
    (other : c ≠ ':') :
    parseIPv6Fields text (fuel + 1) done ellipsis (digits ++ ':' :: c :: more) =
      parseIPv6Fields text fuel (done ++ [value]) ellipsis (c :: more) := by
  rw [parseIPv6Fields, run]
  simp only [if_neg few, if_neg counted]
  split
  · rename_i dot
    cases dot
  · rename_i empty
    cases empty
  · rename_i alone
    cases alone
  · rename_i double
    cases double
    exact absurd rfl other
  · rename_i single
    cases single
    rfl
  · rename_i none
    exact absurd rfl (none _)

theorem two_colons_step (c : Char) (more : List Char)
    (run : hexRun (digits ++ ':' :: ':' :: c :: more) (0, 0) = (count, value, ':' :: ':' :: c :: more)) (first : ¬ ellipsis.isSome = true) :
    parseIPv6Fields text (fuel + 1) done ellipsis (digits ++ ':' :: ':' :: c :: more) =
      parseIPv6Fields text fuel (done ++ [value]) (some (done.length + 1)) (c :: more) := by
  rw [parseIPv6Fields, run]
  simp only [if_neg few, if_neg counted, if_neg first, reduceCtorEq, if_false]

theorem quad_step (gap : List Char) (octets : List Nat)
    (run : hexRun (digits ++ '.' :: gap) (0, 0) = (count, value, '.' :: gap))
    (placed : ¬ (ellipsis.isNone = true ∧ done.length ≠ 6)) (room : ¬ done.length > 6)
    (quad : parseIPv4Fields text [] 0 0 (digits ++ '.' :: gap) = .ok octets) :
    parseIPv6Fields text (fuel + 1) done ellipsis (digits ++ '.' :: gap) =
      .ok (done ++ [octets[0]! * 256 + octets[1]!, octets[2]! * 256 + octets[3]!], ellipsis) := by
  rw [parseIPv6Fields, run]
  simp only [if_neg few, if_neg counted, if_neg placed, if_neg room, quad]

end Step

-- What the field loop returns from a text that ends in a dotted notation.
structure DottedTail (fuel : Nat) (done : List Nat) (ellipsis : Option Nat) (rest : List Char) (fields : List Nat) (found : Option Nat)
    (front last : List Char) : Prop where
  cut : rest = front ++ '.' :: last
  free : '.' ∉ last
  dots : front.count '.' = 2
  present : fields ≠ []
  early : ∀ position ∈ found, position < fields.length
  again : ∀ text, parseIPv6Fields text fuel done ellipsis (front ++ ['.', '1']) = .ok (setLastField fields, found)

theorem tail_head (front : List Char) (dots : front.count '.' = 2) : ∃ c rest, front = c :: rest := by
  cases front with
  | nil => cases dots
  | cons c rest => exact ⟨c, rest, rfl⟩

theorem count_behind (digits front : List Char) (plain : '.' ∉ digits) (dots : front.count '.' = 2) :
    (digits ++ front).count '.' = 2 := by
  rw [List.count_append, List.count_eq_zero_of_not_mem plain, dots]

theorem fields_last (text : List Char) (fuel : Nat) (done : List Nat) (ellipsis : Option Nat) (rest : List Char) (fields : List Nat)
    (found : Option Nat) (before : ∀ position ∈ ellipsis, position ≤ done.length)
    (read : parseIPv6Fields text fuel done ellipsis rest = .ok (fields, found)) :
    '.' ∉ rest ∨ ∃ front last, DottedTail fuel done ellipsis rest fields found front last := by
  induction fuel generalizing done ellipsis rest with
  | zero =>
      rw [parseIPv6Fields] at read
      by_cases empty : rest = []
      · rw [empty]
        exact Or.inl List.not_mem_nil
      · rw [if_neg empty] at read
        cases read
  | succ fuel ih =>
      cases run : hexRun rest (0, 0) with
      | mk count run' =>
      obtain ⟨value, after⟩ := run'
      obtain ⟨digits, whole, hex, again⟩ := hex_run_split rest (0, 0) count value after run
      have plain := no_dot digits hex
      have grown : ∀ position ∈ ellipsis, position ≤ (done ++ [value]).length := by
        intro position known
        have earlier := before position known
        rw [List.length_append, List.length_singleton]
        omega
      have opened : ∀ position ∈ some (done.length + 1), position ≤ (done ++ [value]).length := by
        intro position known
        cases known
        rw [List.length_append, List.length_singleton]
      rw [parseIPv6Fields, run] at read
      simp only [guard_ok] at read
      obtain ⟨few, counted, read⟩ := read
      split at read
      · rename_i more
        rw [guard_ok, guard_ok] at read
        obtain ⟨placed, room, read⟩ := read
        cases quad : parseIPv4Fields text [] 0 0 rest with
        | error message =>
            rw [quad] at read
            cases read
        | ok octets =>
            rw [quad] at read
            cases read
            obtain ⟨four, small⟩ := octets_made text [] 0 0 rest octets (by simp) (by omega) (by simp) quad
            obtain ⟨a, b, c, d, rfl⟩ := four_octets octets four
            obtain ⟨front, last, cut, free, dots, reread⟩ := octets_last text rest _ quad
            obtain ⟨gap, moved⟩ := dots_behind digits more front last plain (whole.symm.trans cut)
            right
            refine ⟨front, last, cut, free, dots, by simp, ?_, ?_⟩
            · intro position known
              have earlier := before position known
              rw [List.length_append]
              simp only [List.length_cons, List.length_nil]
              omega
            · intro text'
              have quad' := reread text'
              rw [moved] at quad' ⊢
              rw [quad_step text' fuel done found digits count value few counted gap _ (again '.' gap hex_dot) placed room quad']
              have lastSmall := small d (by simp)
              have high : (c * 256 + d) / 256 = c := by omega
              simp [setLastField, high]
      · cases read
        left
        rw [whole, List.append_nil]
        exact plain
      · cases read
      · rename_i more
        rw [guard_ok] at read
        obtain ⟨first, read⟩ := read
        by_cases empty : more = []
        · left
          rw [whole, empty]
          intro member
          cases List.mem_append.mp member with
          | inl inDigits => exact plain inDigits
          | inr inColons => simp at inColons
        · rw [if_neg empty] at read
          cases ih _ _ more opened read with
          | inl none =>
              left
              rw [whole]
              simpa [plain] using none
          | inr tail =>
              obtain ⟨front, last, made⟩ := tail
              obtain ⟨c, rest', head⟩ := tail_head front made.dots
              right
              refine ⟨digits ++ ':' :: ':' :: front, last, by rw [whole, made.cut]; simp, made.free, ?_, made.present, made.early, ?_⟩
              · exact count_behind digits _ plain (by simpa using made.dots)
              · intro text'
                have next := made.again text'
                rw [head] at next ⊢
                rw [List.append_assoc, List.cons_append, List.cons_append, List.cons_append,
                  two_colons_step text' fuel done ellipsis digits count value few counted c _ (again ':' _ hex_colon) first]
                exact next
      · rename_i more notAlone notDouble
        cases ih _ _ more grown read with
        | inl none =>
            left
            rw [whole]
            simpa [plain] using none
        | inr tail =>
            obtain ⟨front, last, made⟩ := tail
            obtain ⟨c, rest', head⟩ := tail_head front made.dots
            have other : c ≠ ':' := by
              intro colon
              exact notDouble (rest' ++ '.' :: last) (by rw [made.cut, head, colon]; rfl)
            right
            refine ⟨digits ++ ':' :: front, last, by rw [whole, made.cut]; simp, made.free, ?_, made.present, made.early, ?_⟩
            · exact count_behind digits _ plain (by simpa using made.dots)
            · intro text'
              have next := made.again text'
              rw [head] at next ⊢
              rw [List.append_assoc, List.cons_append, List.cons_append,
                one_colon_step text' fuel done ellipsis digits count value few counted c _ (again ':' _ hex_colon) other]
              exact next
      · cases read

end Fields

section Address

-- What expanding "::" leaves last is what was last before.
theorem expand_last (text : List Char) (raw fields : List Nat) (found : Option Nat) (present : raw ≠ [])
    (early : ∀ position ∈ found, position < raw.length) (expanded : expandEllipsis text raw found = .ok fields) (text' : List Char) :
    expandEllipsis text' (setLastField raw) found = .ok (setLastField fields) := by
  obtain ⟨front, last, rfl⟩ : ∃ front last, raw = front ++ [last] := ⟨_, _, (List.dropLast_append_getLast present).symm⟩
  have reset (head : List Nat) : setLastField (head ++ [last]) = head ++ [last / 256 * 256 + 1] := by
    simp [setLastField]
  cases found with
  | none =>
      rw [expandEllipsis, guard_ok] at expanded
      obtain ⟨long, made⟩ := expanded
      cases made
      rw [reset, expandEllipsis, if_neg (by simpa using long)]
  | some position =>
      have inside : position ≤ front.length := by
        have below := early position rfl
        rw [List.length_append, List.length_singleton] at below
        omega
      rw [expandEllipsis] at expanded
      by_cases short : (front ++ [last]).length < 8
      · rw [if_pos short] at expanded
        cases expanded
        have still : (front ++ [last / 256 * 256 + 1]).length < 8 := by simpa using short
        rw [List.drop_append_of_le_length inside, ← List.append_assoc, reset, reset, expandEllipsis, if_pos still,
          List.take_append_of_le_length inside, List.take_append_of_le_length inside, List.drop_append_of_le_length inside,
          ← List.append_assoc]
        simp
      · rw [if_neg short] at expanded
        cases expanded

-- The eight fields of a text, and parseIPv6 behind the zone.
def groupsFrom (text : List Char) (ellipsis : Option Nat) (rest : List Char) : Except Message (List Nat) :=
  parseIPv6Fields text 8 [] ellipsis rest >>= fun made => expandEllipsis text made.1 made.2

def readGroups (text : List Char) : Except Message (List Nat) :=
  match text with
  | ':' :: ':' :: [] => .ok (List.replicate 8 0)
  | ':' :: ':' :: rest => groupsFrom text (some 0) rest
  | _ => groupsFrom text none text

theorem groups_double (rest : List Char) (more : rest ≠ []) :
    readGroups (':' :: ':' :: rest) = groupsFrom (':' :: ':' :: rest) (some 0) rest := by
  cases rest with
  | nil => exact absurd rfl more
  | cons c rest => rfl

theorem groups_plain_text (text : List Char) (other : ∀ rest, text ≠ ':' :: ':' :: rest) : readGroups text = groupsFrom text none text := by
  unfold readGroups
  split
  · exact absurd rfl (other [])
  · exact absurd rfl (other _)
  · rfl

theorem bind_map_last {ε α β γ : Type} (made : Except ε α) (next : α → Except ε β) (shape : β → γ) :
    (made >>= fun value => next value >>= fun result => pure (shape result)) = (made >>= next).map shape := by
  cases made with
  | error message => rfl
  | ok value =>
      cases result : next value with
      | error message => simp only [bind, Except.bind, Except.map, result]
      | ok whole => simp only [bind, Except.bind, Except.map, result, pure, Except.pure]

theorem ipv6_without_zone (text : List Char) (free : '%' ∉ text) : parseIPv6 text = (readGroups text).map (Addr.v6 · []) := by
  have kept : ∀ c ∈ text, decide (c ≠ '%') = true := by
    intro c member
    exact decide_eq_true fun percent => free (percent ▸ member)
  have body : text.takeWhile (· ≠ '%') = text := List.takeWhile_eq_self_iff.mpr kept
  have behind : text.dropWhile (· ≠ '%') = [] := List.dropWhile_eq_nil_iff.mpr kept
  rw [parseIPv6]
  simp only [body, behind, Nat.lt_irrefl, false_and, if_false, List.drop_nil]
  split
  · rfl
  · rename_i rest notAll
    rw [groups_double rest notAll]
    exact bind_map_last _ _ _
  · rename_i notDouble
    rw [groups_plain_text text (fun rest double => notDouble rest double)]
    exact bind_map_last _ _ _

theorem ipv6_zone_free (text : List Char) (fields : List Nat) (read : parseIPv6 text = .ok (.v6 fields [])) : '%' ∉ text := by
  rw [parseIPv6] at read
  simp only [guard_ok] at read
  obtain ⟨zoned, read⟩ := read
  have zone : (text.dropWhile (· ≠ '%')).drop 1 = [] := by
    split at read
    · exact (Addr.v6.inj (Except.ok.inj read)).2
    · obtain ⟨_, _, read⟩ := bind_ok _ _ _ read
      obtain ⟨_, _, read⟩ := bind_ok _ _ _ read
      exact (Addr.v6.inj (Except.ok.inj read)).2
    · obtain ⟨_, _, read⟩ := bind_ok _ _ _ read
      obtain ⟨_, _, read⟩ := bind_ok _ _ _ read
      exact (Addr.v6.inj (Except.ok.inj read)).2
  have long : ¬ (text.takeWhile (· ≠ '%')).length < text.length := fun short => zoned ⟨short, zone⟩
  have whole := List.takeWhile_append_dropWhile (p := (· ≠ '%')) (l := text)
  have behind : text.dropWhile (· ≠ '%') = [] := by
    have lengths := congrArg List.length whole
    rw [List.length_append] at lengths
    exact List.length_eq_zero_iff.mp (by omega)
  intro member
  have kept := List.dropWhile_eq_nil_iff.mp behind '%' member
  simp at kept

theorem groups_from_last (text : List Char) (ellipsis : Option Nat) (rest : List Char) (fields : List Nat)
    (start : ∀ position ∈ ellipsis, position = 0) (read : groupsFrom text ellipsis rest = .ok fields) :
    '.' ∉ rest ∨ ∃ front last, rest = front ++ '.' :: last ∧ '.' ∉ last ∧ front.count '.' = 2 ∧
      ∀ text', groupsFrom text' ellipsis (front ++ ['.', '1']) = .ok (setLastField fields) := by
  obtain ⟨⟨raw, found⟩, groups, expanded⟩ := bind_ok _ _ _ read
  have before : ∀ position ∈ ellipsis, position ≤ ([] : List Nat).length := by
    intro position known
    rw [start position known]
    exact Nat.zero_le _
  cases fields_last text 8 [] ellipsis rest raw found before groups with
  | inl none => exact Or.inl none
  | inr tail =>
      obtain ⟨front, last, made⟩ := tail
      refine Or.inr ⟨front, last, made.cut, made.free, made.dots, ?_⟩
      intro text'
      rw [groupsFrom, made.again text']
      exact expand_last text raw fields found made.present made.early expanded text'

theorem groups_last_dot (text : List Char) (fields : List Nat) (read : readGroups text = .ok fields) :
    '.' ∉ text ∨ ∃ front last, text = front ++ '.' :: last ∧ '.' ∉ last ∧ front.count '.' = 2 ∧
      readGroups (front ++ ['.', '1']) = .ok (setLastField fields) := by
  unfold readGroups at read
  split at read
  · exact Or.inl (by decide)
  · rename_i rest notAll
    cases groups_from_last _ (some 0) rest fields (by simp) read with
    | inl none => exact Or.inl (by simpa using none)
    | inr tail =>
        obtain ⟨front, last, cut, free, dots, again⟩ := tail
        obtain ⟨c, rest', head⟩ := tail_head front dots
        refine Or.inr ⟨':' :: ':' :: front, last, by rw [cut]; rfl, free, by simpa using dots, ?_⟩
        rw [head] at again ⊢
        exact again _
  · rename_i notAll notDouble
    cases groups_from_last _ none text fields (by simp) read with
    | inl none => exact Or.inl none
    | inr tail =>
        obtain ⟨front, last, cut, free, dots, again⟩ := tail
        refine Or.inr ⟨front, last, cut, free, dots, ?_⟩
        -- The new text does not start with "::" either.
        have other (more : List Char) : front ++ ['.', '1'] ≠ ':' :: ':' :: more := by
          intro double
          obtain ⟨c, rest', head⟩ := tail_head front dots
          cases rest' with
          | nil =>
              rw [head] at dots
              have few := List.count_le_length (a := '.') (l := [c])
              rw [dots] at few
              simp at few
          | cons next rest' =>
              rw [head] at double cut
              simp only [List.cons_append, List.cons.injEq] at double
              rw [double.1, double.2.1] at cut
              exact notDouble _ cut
        rw [groups_plain_text _ other]
        exact again _

end Address

section Characters

theorem octet_text (text : List Char) (done : List Nat) (value digits : Nat) (rest : List Char) (octets : List Nat)
    (read : parseIPv4Fields text done value digits rest = .ok octets) : '/' ∉ rest := by
  induction rest generalizing done value digits with
  | nil => exact List.not_mem_nil
  | cons c rest ih =>
      rw [parseIPv4Fields] at read
      by_cases digit : isDigit c = true
      · rw [if_pos digit, guard_ok, guard_ok] at read
        obtain ⟨_, _, read⟩ := read
        have plain : '/' ≠ c := by
          intro slash
          rw [← slash] at digit
          cases digit
        exact fun member => (List.mem_cons.mp member).elim plain (ih _ _ _ read)
      · rw [if_neg digit] at read
        by_cases dot : c = '.'
        · rw [if_pos dot, guard_ok, guard_ok] at read
          obtain ⟨_, _, read⟩ := read
          have plain : '/' ≠ c := by
            rw [dot]
            decide
          exact fun member => (List.mem_cons.mp member).elim plain (ih _ _ _ read)
        · rw [if_neg dot] at read
          cases read

theorem hex_slash : hexValue '/' = none := by decide

theorem group_text (text : List Char) (fuel : Nat) (done : List Nat) (ellipsis : Option Nat) (rest : List Char)
    (made : List Nat × Option Nat) (read : parseIPv6Fields text fuel done ellipsis rest = .ok made) : '/' ∉ rest := by
  induction fuel generalizing done ellipsis rest with
  | zero =>
      rw [parseIPv6Fields] at read
      by_cases empty : rest = []
      · rw [empty]
        exact List.not_mem_nil
      · rw [if_neg empty] at read
        cases read
  | succ fuel ih =>
      cases run : hexRun rest (0, 0) with
      | mk count run' =>
      obtain ⟨value, after⟩ := run'
      obtain ⟨digits, whole, hex, _⟩ := hex_run_split rest (0, 0) count value after run
      have plain : '/' ∉ digits := fun member => hex '/' member hex_slash
      rw [parseIPv6Fields, run] at read
      simp only [guard_ok] at read
      obtain ⟨_, _, read⟩ := read
      split at read
      · rw [guard_ok, guard_ok] at read
        obtain ⟨_, _, read⟩ := read
        cases quad : parseIPv4Fields text [] 0 0 rest with
        | error message =>
            rw [quad] at read
            cases read
        | ok octets => exact octet_text text [] 0 0 rest octets quad
      · rw [whole, List.append_nil]
        exact plain
      · cases read
      · rename_i more
        rw [guard_ok] at read
        obtain ⟨_, read⟩ := read
        rw [whole]
        by_cases empty : more = []
        · simp [plain, empty]
        · rw [if_neg empty] at read
          simp [plain, ih _ _ more read]
      · rename_i more _ _
        rw [whole]
        simp [plain, ih _ _ more read]
      · cases read

-- The loop has room for eight fields.
theorem fields_few (text : List Char) (fuel : Nat) (done : List Nat) (ellipsis : Option Nat) (rest : List Char)
    (made : List Nat × Option Nat) (room : done.length + fuel ≤ 8) (read : parseIPv6Fields text fuel done ellipsis rest = .ok made) :
    made.1.length ≤ 8 := by
  induction fuel generalizing done ellipsis rest with
  | zero =>
      rw [parseIPv6Fields] at read
      by_cases empty : rest = []
      · rw [if_pos empty] at read
        cases read
        omega
      · rw [if_neg empty] at read
        cases read
  | succ fuel ih =>
      have next (value : Nat) : (done ++ [value]).length + fuel ≤ 8 := by
        rw [List.length_append, List.length_singleton]
        omega
      have last (value : Nat) : (done ++ [value]).length ≤ 8 := by
        rw [List.length_append, List.length_singleton]
        omega
      cases run : hexRun rest (0, 0) with
      | mk count run' =>
      obtain ⟨value, after⟩ := run'
      rw [parseIPv6Fields, run] at read
      simp only [guard_ok] at read
      obtain ⟨_, _, read⟩ := read
      split at read
      · rw [guard_ok, guard_ok] at read
        obtain ⟨_, six, read⟩ := read
        cases quad : parseIPv4Fields text [] 0 0 rest with
        | error message =>
            rw [quad] at read
            cases read
        | ok octets =>
            rw [quad] at read
            cases read
            rw [List.length_append]
            simp only [List.length_cons, List.length_nil]
            omega
      · cases read
        exact last value
      · cases read
      · rename_i more
        rw [guard_ok] at read
        obtain ⟨_, read⟩ := read
        by_cases empty : more = []
        · rw [if_pos empty] at read
          cases read
          exact last value
        · rw [if_neg empty] at read
          exact ih _ _ more (next value) read
      · exact ih _ _ _ (next value) read
      · cases read

theorem expanded_eight (text : List Char) (raw fields : List Nat) (found : Option Nat) (few : raw.length ≤ 8)
    (expanded : expandEllipsis text raw found = .ok fields) : fields.length = 8 := by
  cases found with
  | none =>
      rw [expandEllipsis, guard_ok] at expanded
      obtain ⟨long, made⟩ := expanded
      cases made
      omega
  | some position =>
      rw [expandEllipsis] at expanded
      by_cases short : raw.length < 8
      · rw [if_pos short] at expanded
        cases expanded
        have parts := congrArg List.length (List.take_append_drop position raw)
        rw [List.length_append] at parts
        rw [List.length_append, List.length_append, List.length_replicate]
        omega
      · rw [if_neg short] at expanded
        cases expanded

theorem groups_eight (text : List Char) (fields : List Nat) (read : readGroups text = .ok fields) : fields.length = 8 := by
  unfold readGroups at read
  split at read
  · cases read
    rfl
  · obtain ⟨made, groups, expanded⟩ := bind_ok _ _ _ read
    exact expanded_eight _ _ _ _ (fields_few _ 8 [] _ _ made (by simp) groups) expanded
  · obtain ⟨made, groups, expanded⟩ := bind_ok _ _ _ read
    exact expanded_eight _ _ _ _ (fields_few _ 8 [] _ _ made (by simp) groups) expanded

theorem groups_text_free (text : List Char) (fields : List Nat) (read : readGroups text = .ok fields) : '/' ∉ text := by
  unfold readGroups at read
  split at read
  · decide
  · rename_i rest _
    obtain ⟨made, groups, _⟩ := bind_ok _ _ _ read
    simp [group_text _ 8 [] (some 0) rest made groups]
  · obtain ⟨made, groups, _⟩ := bind_ok _ _ _ read
    exact group_text _ 8 [] none text made groups

end Characters

section Dotted

-- The address with 1 for the last octet of its notation.
def Addr.firstHost : Addr → Addr
  | .v4 octets => .v4 (octets.dropLast ++ [1])
  | .v6 fields zone => .v6 (setLastField fields) zone

def Addr.lastOctet : Addr → Nat
  | .v4 octets => octets.getLastD 0
  | .v6 fields _ => fields.getLastD 0 % 256

def isFamilyMark (c : Char) : Bool := c = '.' || c = ':' || c = '%'

-- The family of a text is decided in front of its last dot.
theorem family_kept (front last tail : List Char) : (front ++ '.' :: tail).find? isFamilyMark = (front ++ '.' :: last).find? isFamilyMark := by
  rw [List.find?_append, List.find?_append]
  rfl

theorem parse_addr_dotted (text : List Char) (family : text.find? isFamilyMark = some '.') : parseAddr text = parseIPv4 text := by
  change text.find? (fun c => c = '.' || c = ':' || c = '%') = some '.' at family
  rw [parseAddr, family]
  rfl

theorem parse_addr_groups (text : List Char) (family : text.find? isFamilyMark = some ':') : parseAddr text = parseIPv6 text := by
  change text.find? (fun c => c = '.' || c = ':' || c = '%') = some ':' at family
  rw [parseAddr, family]
  rfl

theorem parse_addr_family (text : List Char) (addr : Addr) (read : parseAddr text = .ok addr) :
    (text.find? isFamilyMark = some '.' ∧ ∃ octets, addr = .v4 octets ∧ parseIPv4Fields text [] 0 0 text = .ok octets) ∨
      (text.find? isFamilyMark = some ':' ∧ parseIPv6 text = .ok addr) := by
  cases family : text.find? isFamilyMark with
  | none =>
      change text.find? (fun c => c = '.' || c = ':' || c = '%') = none at family
      rw [parseAddr, family] at read
      cases read
  | some mark =>
      by_cases dotted : mark = '.'
      · rw [dotted] at family
        rw [parse_addr_dotted text family, parseIPv4] at read
        left
        cases fields : parseIPv4Fields text [] 0 0 text with
        | error message =>
            rw [fields] at read
            cases read
        | ok octets =>
            rw [fields] at read
            cases read
            exact ⟨by rw [dotted], octets, rfl, rfl⟩
      · by_cases grouped : mark = ':'
        · rw [grouped] at family
          rw [parse_addr_groups text family] at read
          exact Or.inr ⟨by rw [grouped], read⟩
        · change text.find? (fun c => c = '.' || c = ':' || c = '%') = some mark at family
          rw [parseAddr, family] at read
          split at read
          · rename_i isDot
            exact absurd (Option.some.inj isDot) dotted
          · rename_i isColon
            exact absurd (Option.some.inj isColon) grouped
          · cases read
          · cases read

theorem ipv6_eight (text : List Char) (fields : List Nat) (read : parseAddr text = .ok (.v6 fields [])) : fields.length = 8 := by
  cases parse_addr_family text _ read with
  | inl dotted =>
      obtain ⟨_, octets, other, _⟩ := dotted
      cases other
  | inr grouped =>
      obtain ⟨_, groups⟩ := grouped
      rw [ipv6_without_zone text (ipv6_zone_free text fields groups)] at groups
      cases made : readGroups text with
      | error message =>
          rw [made] at groups
          cases groups
      | ok found =>
          rw [made] at groups
          cases groups
          exact groups_eight text fields made

/- A text without a zone: it holds no slash, and when it holds a dot, its last octet may be
   exchanged. -/
theorem dotted_address (text : List Char) (addr : Addr) (read : parseAddr text = .ok addr) (plain : addr.zone = []) :
    '/' ∉ text ∧
    (('.' ∉ text ∧ ∃ fields, addr = .v6 fields []) ∨
      ∃ front last, text = front ++ '.' :: last ∧ '.' ∉ last ∧ front.count '.' = 2 ∧ parseAddr (front ++ ['.', '1']) = .ok addr.firstHost) := by
  cases parse_addr_family text addr read with
  | inl dotted =>
      obtain ⟨family, octets, rfl, fields⟩ := dotted
      obtain ⟨front, last, cut, free, dots, again⟩ := octets_last text text octets fields
      refine ⟨octet_text _ _ _ _ _ _ fields, Or.inr ⟨front, last, cut, free, dots, ?_⟩⟩
      have same : (front ++ ['.', '1']).find? isFamilyMark = some '.' := by
        rw [family_kept front last ['1'], ← cut]
        exact family
      rw [parse_addr_dotted _ same, parseIPv4, again]
      rfl
  | inr grouped =>
      obtain ⟨family, groups⟩ := grouped
      obtain ⟨fields, zone, rfl⟩ := ipv6_made text addr groups
      have noZone : zone = [] := plain
      rw [noZone] at groups ⊢
      have free := ipv6_zone_free text fields groups
      rw [ipv6_without_zone text free] at groups
      cases made : readGroups text with
      | error message =>
          rw [made] at groups
          cases groups
      | ok found =>
          rw [made] at groups
          cases groups
          refine ⟨groups_text_free text fields made, ?_⟩
          cases groups_last_dot text fields made with
          | inl none => exact Or.inl ⟨none, fields, rfl⟩
          | inr tail =>
              obtain ⟨front, last, cut, lastFree, dots, again⟩ := tail
              refine Or.inr ⟨front, last, cut, lastFree, dots, ?_⟩
              have same : (front ++ ['.', '1']).find? isFamilyMark = some ':' := by
                rw [family_kept front last ['1'], ← cut]
                exact family
              have still : '%' ∉ front ++ ['.', '1'] := by
                intro member
                cases List.mem_append.mp member with
                | inl early => exact free (by rw [cut]; exact List.mem_append_left _ early)
                | inr late => simp at late
              rw [parse_addr_groups _ same, ipv6_without_zone _ still, again]
              rfl

end Dotted

end NetIP
