import AgenticNetops.Lib.JsonScanner

set_option autoImplicit false

/- Documents as the scanner reads them. The first value of a text does not depend on what
   follows it, a larger limit on the nesting changes nothing that was read, and an array
   around a text is a document with one element where the text is one value and spaces. -/
namespace JsonScanner

section Limit
variable (limit : Nat) (s : Scan) (c : UInt8)

theorem push_more (frame : Frame) (op : Opcode) (phase : Phase) (fine : (s.push limit frame op phase).1 ≠ .scanError) :
    s.push (limit + 1) frame op phase = s.push limit frame op phase := by
  rw [Scan.push] at fine
  by_cases fits : s.stack.length + 1 ≤ limit
  · rw [Scan.push, Scan.push, if_pos fits, if_pos (Nat.le_succ_of_le fits)]
  · rw [if_neg fits] at fine
    exact absurd rfl fine

theorem begin_value_more (fine : (s.beginValue limit c).1 ≠ .scanError) : s.beginValue (limit + 1) c = s.beginValue limit c := by
  unfold Scan.beginValue at fine ⊢
  by_cases space : isSpace c = true
  · rw [if_pos space, if_pos space]
  · rw [if_neg space] at fine
    rw [if_neg space, if_neg space]
    by_cases brace : c = ch '{'
    · rw [if_pos brace] at fine
      rw [if_pos brace, if_pos brace, push_more limit s _ _ _ fine]
    · rw [if_neg brace] at fine
      rw [if_neg brace, if_neg brace]
      by_cases bracket : c = ch '['
      · rw [if_pos bracket] at fine
        rw [if_pos bracket, if_pos bracket, push_more limit s _ _ _ fine]
      · rw [if_neg bracket, if_neg bracket]

theorem step_more (fine : (step limit s c).1 ≠ .scanError) : step (limit + 1) s c = step limit s c := by
  obtain ⟨phase, stack⟩ := s
  cases phase with
  | beginValueOrEmpty =>
      by_cases bracket : c = ch ']'
      · simp only [step, if_pos bracket]
      · simp only [step, if_neg bracket] at fine ⊢
        exact begin_value_more limit _ c fine
  | beginValue => exact begin_value_more limit _ c fine
  | _ => rfl

end Limit

section First
variable (limit : Nat)

-- A bracket closes the last open value, or the reading goes on.
theorem read_inside (s : Scan) (c : UInt8) (rest : Bytes) (open' : Inside s) :
    readValue limit s (c :: rest) =
      if (step limit s c).1 = .scanError then none
      else if (step limit s c).2.stack = [] then some ([c], rest)
      else (readValue limit (step limit s c).2 rest).map fun (value, left) => (c :: value, left) := by
  obtain ⟨notEnd, next⟩ := step_stays limit s open' c
  rw [readValue]
  cases next with
  | inl stays =>
      rw [if_neg stays.1]
      cases op : (step limit s c).1 with
      | scanEnd => exact absurd op notEnd
      | scanError => rfl
      | _ => simp [stays.1]
  | inr closes =>
      obtain ⟨closed, ops, _⟩ := closes
      have empty : (step limit s c).2.stack = [] := by
        rw [closed]
      cases ops with
      | inl op => simp [op, empty]
      | inr op => simp [op, empty]

theorem read_inside_nil (s : Scan) (open' : Inside s) : readValue limit s [] = none := by
  rw [readValue, if_neg (step_stays limit s open' (ch ' ')).1]

theorem next_inside (s : Scan) (c : UInt8) (open' : Inside s) (more : (step limit s c).2.stack ≠ []) : Inside (step limit s c).2 := by
  cases (step_stays limit s open' c).2 with
  | inl stays => exact stays
  | inr closes => exact absurd (by rw [closes.1]) more

theorem closed_over (s : Scan) (c : UInt8) (open' : Inside s) (closed : (step limit s c).2.stack = []) :
    (step limit s c).2 = ⟨.endTop, []⟩ ∧ (c = ch '}' ∨ c = ch ']') := by
  cases (step_stays limit s open' c).2 with
  | inl stays => exact absurd closed stays.1
  | inr closes => exact ⟨closes.1, closes.2.2⟩

-- What is read and what is left are the text; whatever else is left, the same is read.
theorem read_split (s : Scan) (text value left : Bytes) (open' : Inside s) (read : readValue limit s text = some (value, left)) :
    text = value ++ left ∧ (∃ front c, value = front ++ [c] ∧ (c = ch '}' ∨ c = ch ']')) ∧
      ∀ other, readValue limit s (value ++ other) = some (value, other) := by
  induction text generalizing s value with
  | nil =>
      rw [read_inside_nil limit s open'] at read
      cases read
  | cons c rest ih =>
      have here := read_inside limit s c
      rw [here rest open'] at read
      by_cases wrong : (step limit s c).1 = .scanError
      · rw [if_pos wrong] at read
        cases read
      · rw [if_neg wrong] at read
        by_cases closed : (step limit s c).2.stack = []
        · rw [if_pos closed] at read
          cases read
          refine ⟨rfl, ⟨[], c, rfl, (closed_over limit s c open' closed).2⟩, fun other => ?_⟩
          rw [List.singleton_append, here other open', if_neg wrong, if_pos closed]
        · rw [if_neg closed, Option.map_eq_some_iff] at read
          obtain ⟨⟨value', left'⟩, deeper, same⟩ := read
          cases same
          obtain ⟨whole, ⟨front, d, ends, bracket⟩, any⟩ := ih (step limit s c).2 value' (next_inside limit s c open' closed) deeper
          refine ⟨by rw [whole]; rfl, ⟨c :: front, d, by rw [ends]; rfl, bracket⟩, fun other => ?_⟩
          rw [List.cons_append, here (value' ++ other) open', if_neg wrong, if_neg closed, any other]
          rfl

theorem read_more (s : Scan) (text value left : Bytes) (open' : Inside s) (read : readValue limit s text = some (value, left)) :
    readValue (limit + 1) s text = some (value, left) := by
  induction text generalizing s value with
  | nil =>
      rw [read_inside_nil limit s open'] at read
      cases read
  | cons c rest ih =>
      rw [read_inside limit s c rest open'] at read
      by_cases wrong : (step limit s c).1 = .scanError
      · rw [if_pos wrong] at read
        cases read
      · rw [read_inside (limit + 1) s c rest open', step_more limit s c wrong, if_neg wrong]
        rw [if_neg wrong] at read
        by_cases closed : (step limit s c).2.stack = []
        · rw [if_pos closed] at read ⊢
          exact read
        · rw [if_neg closed, Option.map_eq_some_iff] at read
          obtain ⟨⟨value', left'⟩, deeper, same⟩ := read
          cases same
          rw [if_neg closed, ih (step limit s c).2 value' (next_inside limit s c open' closed) deeper]
          rfl

end First

section Around
variable (limit : Nat) (base : Frame)

theorem lifted_over : lift base ⟨.endTop, []⟩ = ⟨.endValue, [base]⟩ := rfl

theorem lift_inside (s : Scan) (open' : Inside s) : Inside (lift base s) := by
  rw [lift_of_open base s open'.1]
  exact ⟨List.append_ne_nil_of_left_ne_nil open'.1 _, open'.2⟩

-- The end of the bytes leaves an open value open.
theorem eof_inside (s : Scan) (open' : Inside s) : eof limit s = false := by
  have space : (step limit s (ch ' ')).2.phase ≠ .endTop := by
    cases (step_stays limit s open' (ch ' ')).2 with
    | inl stays => exact stays.2
    | inr closes => exact absurd closes.2.2 (by decide)
  unfold eof
  cases phase : s.phase with
  | endTop => exact absurd phase open'.2
  | failed => rfl
  | _ => exact decide_eq_false space

-- With a value open around it, a text is valid where its first value ends and the rest is valid.
theorem valid_lift (s : Scan) (text : Bytes) (open' : Inside s) :
    valid (limit + 1) (lift base s) text = true ↔
      ∃ value left, readValue limit s text = some (value, left) ∧ valid (limit + 1) ⟨.endValue, [base]⟩ left = true := by
  induction text generalizing s with
  | nil =>
      rw [valid, eof_inside (limit + 1) _ (lift_inside base s open'), read_inside_nil limit s open']
      simp
  | cons c rest ih =>
      rw [valid, step_lift limit base s open'.1 c, read_inside limit s c rest open', lifted]
      by_cases wrong : (step limit s c).1 = .scanError
      · simp [wrong]
      · rw [if_neg wrong, if_neg wrong]
        by_cases closed : (step limit s c).2.stack = []
        · rw [if_pos closed, (closed_over limit s c open' closed).1, lifted_over]
          refine ⟨fun fine => ⟨[c], rest, rfl, fine⟩, fun parts => ?_⟩
          obtain ⟨value, left, same, fine⟩ := parts
          cases same
          exact fine
        · rw [if_neg closed, ih _ (next_inside limit s c open' closed)]
          refine ⟨fun parts => ?_, fun parts => ?_⟩
          · obtain ⟨value, left, deeper, fine⟩ := parts
            exact ⟨c :: value, left, by rw [deeper]; rfl, fine⟩
          obtain ⟨value, left, read, fine⟩ := parts
          rw [Option.map_eq_some_iff] at read
          obtain ⟨⟨value', left'⟩, deeper, same⟩ := read
          cases same
          exact ⟨value', left, deeper, fine⟩

-- Within an element the array collects what is read.
theorem elements_lift (s : Scan) (text element value left : Bytes) (open' : Inside s)
    (read : readValue limit s text = some (value, left)) :
    elementsFrom (limit + 1) (lift base s) element text =
      elementsFrom (limit + 1) ⟨.endValue, [base]⟩ (element ++ value) left := by
  induction text generalizing s element value with
  | nil =>
      rw [read_inside_nil limit s open'] at read
      cases read
  | cons c rest ih =>
      have deep : ¬ (lift base s).stack.length = 1 := by
        have positive := List.length_pos_of_ne_nil open'.1
        rw [lift, List.length_append, List.length_singleton]
        omega
      rw [elementsFrom, if_neg deep, step_lift limit base s open'.1 c, lifted]
      rw [read_inside limit s c rest open'] at read
      by_cases wrong : (step limit s c).1 = .scanError
      · rw [if_pos wrong] at read
        cases read
      · rw [if_neg wrong] at read
        by_cases closed : (step limit s c).2.stack = []
        · rw [if_pos closed] at read
          cases read
          rw [(closed_over limit s c open' closed).1, lifted_over]
        · rw [if_neg closed, Option.map_eq_some_iff] at read
          obtain ⟨⟨value', left'⟩, deeper, same⟩ := read
          cases same
          rw [ih _ (element ++ [c]) value' (next_inside limit s c open' closed) deeper, List.append_assoc, List.singleton_append]

end Around

section Element
variable (limit : Nat)

theorem valid_failed (stack : List Frame) (text : Bytes) : valid limit ⟨.failed, stack⟩ text = false := by
  cases text with
  | nil => rfl
  | cons c rest => rfl

theorem valid_over (text : Bytes) : valid limit ⟨.endTop, []⟩ text = text.all isSpace := by
  induction text with
  | nil => rfl
  | cons c rest ih =>
      rw [valid, List.all_cons]
      by_cases space : isSpace c = true
      · have goesOn : step limit ⟨.endTop, []⟩ c = (.scanEnd, ⟨.endTop, []⟩) := by
          simp only [step, Scan.endTop, Scan.goes, if_pos space]
        rw [goesOn, if_neg (by decide), ih, space, Bool.true_and]
      · have fails : step limit ⟨.endTop, []⟩ c = (.scanEnd, ⟨.failed, []⟩) := by
          simp only [step, Scan.endTop, Scan.goes, if_neg space]
        rw [fails, if_neg (by decide), valid_failed, Bool.eq_false_iff.mpr space, Bool.false_and]

theorem elements_from_some (s : Scan) (element text : Bytes) : 0 < (elementsFrom limit s element text).length := by
  induction text generalizing s element with
  | nil => exact Nat.one_pos
  | cons c rest ih =>
      rw [elementsFrom]
      by_cases outer : s.stack.length = 1
      · rw [if_pos outer]
        cases (step limit s c).1 with
        | arrayValue => exact Nat.succ_pos _
        | endArray => exact Nat.one_pos
        | _ => exact ih _ _
      · rw [if_neg outer]
        exact ih _ _

def behind : Scan := ⟨.endValue, [.arrayValue]⟩

theorem behind_space (c : UInt8) (space : isSpace c = true) : step limit behind c = (.skipSpace, behind) := by
  simp only [step, behind, Scan.endValue, Scan.goes, if_pos space]

theorem behind_comma : step limit behind (ch ',') = (.arrayValue, ⟨.beginValue, [.arrayValue]⟩) := rfl

theorem behind_bracket : step limit behind (ch ']') = (.endArray, ⟨.endTop, []⟩) := rfl

theorem behind_other (c : UInt8) (space : ¬ isSpace c = true) (comma : c ≠ ch ',') (bracket : c ≠ ch ']') :
    step limit behind c = (.scanError, ⟨.failed, [.arrayValue]⟩) := by
  simp only [step, behind, Scan.endValue, Scan.fail, if_neg space, if_neg comma, if_neg bracket]

-- Behind an element, the bracket of the array and no other element: only spaces are in between.
theorem sole_element_iff (element left : Bytes) :
    (valid limit behind (left ++ [ch ']']) = true ∧ (elementsFrom limit behind element (left ++ [ch ']'])).length = 1) ↔
      left.all isSpace = true := by
  induction left with
  | nil => exact ⟨fun _ => rfl, fun _ => ⟨rfl, rfl⟩⟩
  | cons c rest ih =>
      have one : behind.stack.length = 1 := rfl
      rw [List.cons_append, valid, elementsFrom, if_pos one]
      by_cases space : isSpace c = true
      · rw [behind_space limit c space, if_neg (by decide), ih, List.all_cons, space, Bool.true_and]
      · have notAll : ¬ (c :: rest).all isSpace = true := by
          rw [List.all_cons, Bool.eq_false_iff.mpr space, Bool.false_and]
          exact Bool.false_ne_true
        refine ⟨fun both => ?_, fun all => absurd all notAll⟩
        by_cases comma : c = ch ','
        · rw [comma, behind_comma] at both
          have more := elements_from_some limit ⟨.beginValue, [.arrayValue]⟩ [] (rest ++ [ch ']'])
          have two : (element :: elementsFrom limit ⟨.beginValue, [.arrayValue]⟩ [] (rest ++ [ch ']'])).length = 1 := both.2
          rw [List.length_cons] at two
          omega
        · by_cases bracket : c = ch ']'
          · rw [bracket, behind_bracket, if_neg (by decide), valid_over, List.all_append] at both
            exact absurd both.1 (by simp [isSpace, ch])
          · rw [behind_other limit c space comma bracket, if_pos rfl] at both
            exact absurd both.1 Bool.false_ne_true

theorem sole_element (element left : Bytes) (spaces : left.all isSpace = true) :
    elementsFrom limit behind element (left ++ [ch ']']) = [element] := by
  induction left with
  | nil => rfl
  | cons c rest ih =>
      rw [List.all_cons, Bool.and_eq_true] at spaces
      have one : behind.stack.length = 1 := rfl
      rw [List.cons_append, elementsFrom, if_pos one, behind_space limit c spaces.1]
      exact ih spaces.2

end Element

section Array
variable (limit : Nat)

def opened : Scan := ⟨.beginValueOrEmpty, [.arrayValue]⟩

def openObject : Scan := ⟨.beginStringOrEmpty, [.objectKey]⟩

theorem begin_array : step (limit + 1) start (ch '[') = (.beginArray, opened) := by
  have fits : ([] : List Frame).length + 1 ≤ limit + 1 := Nat.succ_le_succ (Nat.zero_le limit)
  calc step (limit + 1) start (ch '[') = start.push (limit + 1) .arrayValue .beginArray .beginValueOrEmpty := rfl
    _ = (.beginArray, opened) := if_pos fits

theorem begin_object : step (limit + 1) start (ch '{') = (.beginObject, openObject) := by
  have fits : ([] : List Frame).length + 1 ≤ limit + 1 := Nat.succ_le_succ (Nat.zero_le limit)
  calc step (limit + 1) start (ch '{') = start.push (limit + 1) .objectKey .beginObject .beginStringOrEmpty := rfl
    _ = (.beginObject, openObject) := if_pos fits

theorem begin_inner_object : step (limit + 2) opened (ch '{') = (.beginObject, lift .arrayValue openObject) := by
  have fits : [Frame.arrayValue].length + 1 ≤ limit + 2 := Nat.succ_le_succ (Nat.succ_le_succ (Nat.zero_le limit))
  calc step (limit + 2) opened (ch '{') = opened.push (limit + 2) .objectKey .beginObject .beginStringOrEmpty := rfl
    _ = (.beginObject, lift .arrayValue openObject) := if_pos fits

theorem opened_space (c : UInt8) (space : isSpace c = true) : step limit opened c = (.skipSpace, opened) := by
  have other : c ≠ ch ']' := fun same => absurd (same ▸ space) (by decide)
  simp only [step, opened, if_neg other, Scan.beginValue, if_pos space, Scan.goes]

theorem opened_skips (text more : Bytes) : valid limit opened (text ++ more) = valid limit opened (text.dropWhile isSpace ++ more) := by
  induction text with
  | nil => rfl
  | cons c rest ih =>
      by_cases space : isSpace c = true
      · rw [List.cons_append, valid, opened_space limit c space, if_neg (by decide), ih, List.dropWhile_cons_of_pos space]
      · rw [List.dropWhile_cons_of_neg space]

theorem elements_skips (text more : Bytes) :
    elementsFrom limit opened [] (text ++ more) = elementsFrom limit opened [] (text.dropWhile isSpace ++ more) := by
  induction text with
  | nil => rfl
  | cons c rest ih =>
      by_cases space : isSpace c = true
      · have one : opened.stack.length = 1 := rfl
        rw [List.cons_append, elementsFrom, if_pos one, opened_space limit c space, List.dropWhile_cons_of_pos space]
        exact ih
      · rw [List.dropWhile_cons_of_neg space]

theorem open_object_inside : Inside openObject := ⟨List.cons_ne_nil _ _, by decide⟩

theorem read_object (tail : Bytes) :
    readValue (limit + 1) start (ch '{' :: tail) =
      (readValue (limit + 1) openObject tail).map fun (value, left) => (ch '{' :: value, left) := by
  rw [readValue, begin_object]
  rfl

theorem around_starts (text tail : Bytes) (starts : text.dropWhile isSpace = ch '{' :: tail) :
    (text ++ [ch ']']).dropWhile isSpace = ch '{' :: (tail ++ [ch ']']) := by
  have some' : ¬ (text.dropWhile isSpace).isEmpty = true := by
    rw [starts]
    exact Bool.false_ne_true
  rw [List.dropWhile_append, if_neg some', starts, List.cons_append]

theorem unmarshal_around (text tail : Bytes) (starts : text.dropWhile isSpace = ch '{' :: tail) :
    unmarshalArray (limit + 2) (ch '[' :: (text ++ [ch ']'])) =
      if valid (limit + 2) (lift .arrayValue openObject) (tail ++ [ch ']']) = true then
        some (elementsFrom (limit + 2) (lift .arrayValue openObject) [ch '{'] (tail ++ [ch ']']))
      else none := by
  have bracket : (ch '[' :: (text ++ [ch ']'])).dropWhile isSpace = ch '[' :: (text ++ [ch ']']) :=
    List.dropWhile_cons_of_neg (by decide)
  have sameValid : valid (limit + 2) start (ch '[' :: (text ++ [ch ']'])) =
      valid (limit + 2) (lift .arrayValue openObject) (tail ++ [ch ']']) := by
    rw [valid, begin_array, if_neg (by decide), opened_skips, starts, List.cons_append, valid, begin_inner_object, if_neg (by decide)]
  have one : opened.stack.length = 1 := rfl
  have sameElements : elements (limit + 2) (text ++ [ch ']']) =
      elementsFrom (limit + 2) (lift .arrayValue openObject) [ch '{'] (tail ++ [ch ']']) := by
    rw [elements, around_starts text tail starts]
    dsimp only
    rw [if_neg (by decide), ← opened, elements_skips, starts, List.cons_append, elementsFrom, if_pos one, begin_inner_object]
    rfl
  rw [unmarshalArray, bracket]
  dsimp only
  rw [sameValid, sameElements]
  simp

-- An array around a text has one element where the text is an object and spaces.
theorem array_of_object (text tail : Bytes) (starts : text.dropWhile isSpace = ch '{' :: tail) (raws : List Bytes) :
    (unmarshalArray (limit + 2) (ch '[' :: (text ++ [ch ']'])) = some raws ∧ raws.length = 1) ↔
      ∃ value left, readValue (limit + 1) openObject tail = some (value, left) ∧ left.all isSpace = true ∧
        raws = [ch '{' :: value] := by
  have collected (value left : Bytes) (read : readValue (limit + 1) openObject (tail ++ [ch ']']) = some (value, left)) :
      elementsFrom (limit + 2) (lift .arrayValue openObject) [ch '{'] (tail ++ [ch ']']) =
        elementsFrom (limit + 2) behind (ch '{' :: value) left :=
    elements_lift (limit + 1) .arrayValue openObject (tail ++ [ch ']']) [ch '{'] value left open_object_inside read
  rw [unmarshal_around limit text tail starts]
  refine ⟨fun ⟨made, single⟩ => ?_, fun ⟨value, left, read, spaces, sole⟩ => ?_⟩
  · by_cases fine : valid (limit + 2) (lift .arrayValue openObject) (tail ++ [ch ']']) = true
    · rw [if_pos fine, Option.some.injEq] at made
      obtain ⟨value, left', read, rest⟩ := (valid_lift (limit + 1) .arrayValue openObject _ open_object_inside).mp fine
      obtain ⟨whole, _, any⟩ := read_split (limit + 1) openObject _ value left' open_object_inside read
      have more : left' ≠ [] := by
        intro none
        rw [none] at rest
        exact absurd rest Bool.false_ne_true
      rw [← List.dropLast_append_getLast more, ← List.append_assoc] at whole
      obtain ⟨front, last⟩ := List.append_inj' whole rfl
      have shape : left' = left'.dropLast ++ [ch ']'] := by
        rw [List.singleton_inj.mp last, List.dropLast_append_getLast more]
      rw [shape] at rest read
      have elements := collected value _ read
      rw [← made, elements] at single
      have spaces := (sole_element_iff (limit + 2) (ch '{' :: value) left'.dropLast).mp ⟨rest, single⟩
      exact ⟨value, left'.dropLast, front ▸ any left'.dropLast, spaces, by rw [← made, elements, sole_element _ _ _ spaces]⟩
    · rw [if_neg fine] at made
      cases made
  · obtain ⟨whole, _, any⟩ := read_split (limit + 1) openObject tail value left open_object_inside read
    have around : readValue (limit + 1) openObject (tail ++ [ch ']']) = some (value, left ++ [ch ']']) := by
      rw [whole, List.append_assoc]
      exact any (left ++ [ch ']'])
    have closing := ((sole_element_iff (limit + 2) (ch '{' :: value) left).mpr spaces).1
    have fine := (valid_lift (limit + 1) .arrayValue openObject _ open_object_inside).mpr ⟨value, _, around, closing⟩
    rw [if_pos fine, collected value _ around, sole_element _ _ _ spaces, sole]
    exact ⟨rfl, rfl⟩

end Array

end JsonScanner
