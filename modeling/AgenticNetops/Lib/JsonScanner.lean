import Mathlib.Data.List.Basic

set_option autoImplicit false

/- The scanner of encoding/json: a byte at a time over a stack of open objects and
   arrays, with the opcode it gives for each byte. A decoder reads the first value of its
   input with it, Unmarshal checks a whole document. -/
namespace JsonScanner

abbrev Bytes := List UInt8

def ch (c : Char) : UInt8 := UInt8.ofNat c.toNat

inductive Frame where
  | objectKey
  | objectValue
  | arrayValue
deriving DecidableEq, Repr

-- The step functions; a literal keeps the bytes that are still to come.
inductive Phase where
  | beginValueOrEmpty
  | beginValue
  | beginStringOrEmpty
  | beginString
  | endValue
  | endTop
  | inString
  | inStringEsc
  | inStringEscU (digits : Nat)
  | neg
  | one
  | zero
  | dot
  | dot0
  | exp
  | expSign
  | exp0
  | literal (next : UInt8) (rest : Bytes)
  | failed
deriving DecidableEq, Repr

inductive Opcode where
  | scanContinue
  | beginLiteral
  | beginObject
  | objectKey
  | objectValue
  | endObject
  | beginArray
  | arrayValue
  | endArray
  | skipSpace
  | scanEnd
  | scanError
deriving DecidableEq, Repr

-- The innermost open value is at the head of the stack.
structure Scan where
  phase : Phase
  stack : List Frame
deriving DecidableEq, Repr

section Steps

def isSpace (c : UInt8) : Bool := c = ch ' ' || c = ch '\t' || c = ch '\r' || c = ch '\n'

def isDigit (c : UInt8) : Bool := ch '0' ≤ c && c ≤ ch '9'

def isHex (c : UInt8) : Bool := isDigit c || (ch 'a' ≤ c && c ≤ ch 'f') || (ch 'A' ≤ c && c ≤ ch 'F')

def isEscape (c : UInt8) : Bool :=
  c = ch 'b' || c = ch 'f' || c = ch 'n' || c = ch 'r' || c = ch 't' || c = ch '\\' || c = ch '/' || c = ch '"'

def Scan.fail (s : Scan) : Opcode × Scan := (.scanError, ⟨.failed, s.stack⟩)

def Scan.goes (s : Scan) (op : Opcode) (phase : Phase) : Opcode × Scan := (op, ⟨phase, s.stack⟩)

def Scan.push (limit : Nat) (s : Scan) (frame : Frame) (op : Opcode) (phase : Phase) : Opcode × Scan :=
  if s.stack.length + 1 ≤ limit then (op, ⟨phase, frame :: s.stack⟩) else (.scanError, ⟨.failed, frame :: s.stack⟩)

def Scan.pop (rest : List Frame) : Scan := ⟨if rest = [] then .endTop else .endValue, rest⟩

-- A byte behind the whole value ends the scan, and is an error if it is no space.
def Scan.endTop (s : Scan) (c : UInt8) : Opcode × Scan := s.goes .scanEnd (if isSpace c then .endTop else .failed)

def Scan.endValue (s : Scan) (c : UInt8) : Opcode × Scan :=
  match s.stack with
  | [] => s.endTop c
  | frame :: rest =>
      if isSpace c then s.goes .skipSpace .endValue
      else
        match frame with
        | .objectKey => if c = ch ':' then (.objectKey, ⟨.beginValue, .objectValue :: rest⟩) else s.fail
        | .objectValue =>
            if c = ch ',' then (.objectValue, ⟨.beginString, .objectKey :: rest⟩)
            else if c = ch '}' then (.endObject, Scan.pop rest)
            else s.fail
        | .arrayValue =>
            if c = ch ',' then s.goes .arrayValue .beginValue
            else if c = ch ']' then (.endArray, Scan.pop rest)
            else s.fail

def Scan.beginValue (limit : Nat) (s : Scan) (c : UInt8) : Opcode × Scan :=
  if isSpace c then s.goes .skipSpace s.phase
  else if c = ch '{' then s.push limit .objectKey .beginObject .beginStringOrEmpty
  else if c = ch '[' then s.push limit .arrayValue .beginArray .beginValueOrEmpty
  else if c = ch '"' then s.goes .beginLiteral .inString
  else if c = ch '-' then s.goes .beginLiteral .neg
  else if c = ch '0' then s.goes .beginLiteral .zero
  else if c = ch 't' then s.goes .beginLiteral (.literal (ch 'r') [ch 'u', ch 'e'])
  else if c = ch 'f' then s.goes .beginLiteral (.literal (ch 'a') [ch 'l', ch 's', ch 'e'])
  else if c = ch 'n' then s.goes .beginLiteral (.literal (ch 'u') [ch 'l', ch 'l'])
  else if isDigit c then s.goes .beginLiteral .one
  else s.fail

def Scan.beginString (s : Scan) (c : UInt8) : Opcode × Scan :=
  if isSpace c then s.goes .skipSpace s.phase else if c = ch '"' then s.goes .beginLiteral .inString else s.fail

-- In an object without a key yet.
def Scan.beginStringOrEmpty (s : Scan) (c : UInt8) : Opcode × Scan :=
  if c = ch '}' then
    match s.stack with
    | _ :: rest => Scan.endValue ⟨s.phase, .objectValue :: rest⟩ c
    | [] => s.endTop c
  else s.beginString c

def Scan.digitsOr (s : Scan) (c : UInt8) (phase : Phase) (other : Opcode × Scan) : Opcode × Scan :=
  if isDigit c then s.goes .scanContinue phase else other

def Scan.exponentOr (s : Scan) (c : UInt8) : Opcode × Scan :=
  if c = ch 'e' ∨ c = ch 'E' then s.goes .scanContinue .exp else s.endValue c

def Scan.zero (s : Scan) (c : UInt8) : Opcode × Scan := if c = ch '.' then s.goes .scanContinue .dot else s.exponentOr c

def step (limit : Nat) (s : Scan) (c : UInt8) : Opcode × Scan :=
  match s.phase with
  | .beginValueOrEmpty => if c = ch ']' then s.endValue c else s.beginValue limit c
  | .beginValue => s.beginValue limit c
  | .beginStringOrEmpty => s.beginStringOrEmpty c
  | .beginString => s.beginString c
  | .endValue => s.endValue c
  | .endTop => s.endTop c
  | .inString =>
      if c = ch '"' then s.goes .scanContinue .endValue
      else if c = ch '\\' then s.goes .scanContinue .inStringEsc
      else if c.toNat < 0x20 then s.fail
      else s.goes .scanContinue .inString
  | .inStringEsc =>
      if isEscape c then s.goes .scanContinue .inString
      else if c = ch 'u' then s.goes .scanContinue (.inStringEscU 3)
      else s.fail
  | .inStringEscU digits =>
      if isHex c then
        s.goes .scanContinue
          (match digits with
          | 0 => .inString
          | left + 1 => .inStringEscU left)
      else s.fail
  | .neg => if c = ch '0' then s.goes .scanContinue .zero else s.digitsOr c .one s.fail
  | .one => s.digitsOr c .one (s.zero c)
  | .zero => s.zero c
  | .dot => s.digitsOr c .dot0 s.fail
  | .dot0 => s.digitsOr c .dot0 (s.exponentOr c)
  | .exp => if c = ch '+' ∨ c = ch '-' then s.goes .scanContinue .expSign else s.digitsOr c .exp0 s.fail
  | .expSign => s.digitsOr c .exp0 s.fail
  | .exp0 => s.digitsOr c .exp0 (s.endValue c)
  | .literal next rest =>
      if c = next then
        s.goes .scanContinue
          (match rest with
          | [] => .endValue
          | later :: more => .literal later more)
      else s.fail
  | .failed => s.fail

end Steps

section Runs
variable (limit : Nat)

def start : Scan := ⟨.beginValue, []⟩

-- checkValid: all of the bytes, and the end of them.
def eof (s : Scan) : Bool :=
  match s.phase with
  | .failed => false
  | .endTop => true
  | _ => (step limit s (ch ' ')).2.phase = .endTop

def valid (s : Scan) : Bytes → Bool
  | [] => eof limit s
  | c :: rest => if (step limit s c).1 = .scanError then false else valid (step limit s c).2 rest

/- The first value of the bytes, with what comes before it, and what is left behind it:
   an object or an array is over with its bracket, a literal with the byte behind it. -/
def readValue (s : Scan) : Bytes → Option (Bytes × Bytes)
  | [] => if (step limit s (ch ' ')).1 = .scanEnd then some ([], []) else none
  | c :: rest =>
      match (step limit s c).1 with
      | .scanEnd => some ([], c :: rest)
      | .scanError => none
      | op =>
          if (op = .endObject ∨ op = .endArray) ∧ (step limit s c).2.stack = [] then some ([c], rest)
          else (readValue (step limit s c).2 rest).map fun (value, left) => (c :: value, left)

-- The texts of the elements, from the one that is being read.
def elementsFrom (s : Scan) (element : Bytes) : Bytes → List Bytes
  | [] => [element]
  | c :: rest =>
      if s.stack.length = 1 then
        match (step limit s c).1 with
        | .arrayValue => element :: elementsFrom (step limit s c).2 [] rest
        | .endArray => [element]
        | .skipSpace => elementsFrom (step limit s c).2 element rest
        | _ => elementsFrom (step limit s c).2 (element ++ [c]) rest
      else elementsFrom (step limit s c).2 (element ++ [c]) rest

-- Behind the bracket that opens an array; only there can it be closed without an element.
def elements (text : Bytes) : List Bytes :=
  match text.dropWhile isSpace with
  | [] => []
  | c :: _ => if c = ch ']' then [] else elementsFrom limit ⟨.beginValueOrEmpty, [.arrayValue]⟩ [] text

-- Unmarshal of an array whose elements stay texts.
def unmarshalArray (text : Bytes) : Option (List Bytes) :=
  match text.dropWhile isSpace with
  | c :: rest => if c = ch '[' ∧ valid limit start text = true then some (elements limit rest) else none
  | [] => none

end Runs

section Lifted
variable (limit : Nat) (base : Frame)

/- The scan with one more value open around it; where the inner value is over, the outer
   one goes on behind it. -/
def lift (s : Scan) : Scan := ⟨if s.stack = [] then .endValue else s.phase, s.stack ++ [base]⟩

def lifted (result : Opcode × Scan) : Opcode × Scan := (result.1, lift base result.2)

theorem lift_ite (holds : Prop) [Decidable holds] (first second first' second' : Opcode × Scan) (sameFirst : first = lifted base first')
    (sameSecond : second = lifted base second') :
    (if holds then first else second) = lifted base (if holds then first' else second') := by
  by_cases it : holds
  · rw [if_pos it, if_pos it, sameFirst]
  · rw [if_neg it, if_neg it, sameSecond]

theorem lift_pop (rest : List Frame) : Scan.pop (rest ++ [base]) = lift base (Scan.pop rest) := by
  rw [Scan.pop, Scan.pop, lift, if_neg (List.append_ne_nil_of_right_ne_nil rest (List.cons_ne_nil base []))]
  by_cases last : rest = []
  · rw [if_pos last]
  · rw [if_neg last, if_neg last]

variable (s : Scan) (inside : s.stack ≠ [])
include inside

theorem lift_of_open : lift base s = ⟨s.phase, s.stack ++ [base]⟩ := by
  rw [lift, if_neg inside]

theorem lift_goes (op : Opcode) (phase : Phase) : (lift base s).goes op phase = lifted base (s.goes op phase) := by
  have kept : lift base ⟨phase, s.stack⟩ = ⟨phase, s.stack ++ [base]⟩ := lift_of_open base ⟨phase, s.stack⟩ inside
  rw [Scan.goes, Scan.goes, lifted, kept]
  rfl

theorem lift_fail : (lift base s).fail = lifted base s.fail := lift_goes base s inside .scanError .failed

theorem lift_push (frame : Frame) (op : Opcode) (phase : Phase) :
    (lift base s).push (limit + 1) frame op phase = lifted base (s.push limit frame op phase) := by
  have deeper : (s.stack ++ [base]).length + 1 ≤ limit + 1 ↔ s.stack.length + 1 ≤ limit := by
    rw [List.length_append, List.length_singleton]
    omega
  rw [Scan.push, Scan.push, lift_of_open base s inside]
  by_cases fits : s.stack.length + 1 ≤ limit
  · rw [if_pos fits, if_pos (deeper.mpr fits)]
    rfl
  · rw [if_neg fits, if_neg fun wide => fits (deeper.mp wide)]
    rfl

theorem lift_end_value (c : UInt8) : (lift base s).endValue c = lifted base (s.endValue c) := by
  obtain ⟨phase, stack⟩ := s
  cases stack with
  | nil => exact absurd rfl inside
  | cons frame rest =>
      have pops (op : Opcode) : (op, Scan.pop (rest ++ [base])) = lifted base (op, Scan.pop rest) := by
        rw [lift_pop base rest, lifted]
      cases frame with
      | objectKey => exact lift_ite base _ _ _ _ _ rfl (lift_ite base _ _ _ _ _ rfl rfl)
      | objectValue =>
          exact lift_ite base _ _ _ _ _ rfl (lift_ite base _ _ _ _ _ rfl (lift_ite base _ _ _ _ _ (pops .endObject) rfl))
      | arrayValue =>
          exact lift_ite base _ _ _ _ _ rfl (lift_ite base _ _ _ _ _ rfl (lift_ite base _ _ _ _ _ (pops .endArray) rfl))

theorem lift_begin_value (c : UInt8) : (lift base s).beginValue (limit + 1) c = lifted base (s.beginValue limit c) := by
  have goes := lift_goes base s inside
  have pushes := lift_push limit base s inside
  have phase : (lift base s).phase = s.phase := by
    rw [lift_of_open base s inside]
  rw [Scan.beginValue, Scan.beginValue, phase]
  refine lift_ite base _ _ _ _ _ (goes _ _) ?_
  refine lift_ite base _ _ _ _ _ (pushes _ _ _) ?_
  refine lift_ite base _ _ _ _ _ (pushes _ _ _) ?_
  refine lift_ite base _ _ _ _ _ (goes _ _) ?_
  refine lift_ite base _ _ _ _ _ (goes _ _) ?_
  refine lift_ite base _ _ _ _ _ (goes _ _) ?_
  refine lift_ite base _ _ _ _ _ (goes _ _) ?_
  refine lift_ite base _ _ _ _ _ (goes _ _) ?_
  refine lift_ite base _ _ _ _ _ (goes _ _) ?_
  exact lift_ite base _ _ _ _ _ (goes _ _) (lift_fail base s inside)

theorem lift_begin_string (c : UInt8) : (lift base s).beginString c = lifted base (s.beginString c) := by
  have goes := lift_goes base s inside
  have phase : (lift base s).phase = s.phase := by
    rw [lift_of_open base s inside]
  rw [Scan.beginString, Scan.beginString, phase]
  exact lift_ite base _ _ _ _ _ (goes _ _) (lift_ite base _ _ _ _ _ (goes _ _) (lift_fail base s inside))

theorem lift_begin_string_or_empty (c : UInt8) :
    (lift base s).beginStringOrEmpty c = lifted base (s.beginStringOrEmpty c) := by
  refine lift_ite base _ _ _ _ _ ?_ (lift_begin_string base s inside c)
  obtain ⟨phase, stack⟩ := s
  cases stack with
  | nil => exact absurd rfl inside
  | cons frame rest => exact lift_end_value base ⟨phase, .objectValue :: rest⟩ (List.cons_ne_nil _ _) c

theorem lift_exponent (c : UInt8) : (lift base s).exponentOr c = lifted base (s.exponentOr c) :=
  lift_ite base _ _ _ _ _ (lift_goes base s inside _ _) (lift_end_value base s inside c)

theorem lift_zero (c : UInt8) : (lift base s).zero c = lifted base (s.zero c) :=
  lift_ite base _ _ _ _ _ (lift_goes base s inside _ _) (lift_exponent base s inside c)

theorem lift_digits (c : UInt8) (phase : Phase) (other other' : Opcode × Scan) (same : other = lifted base other') :
    (lift base s).digitsOr c phase other = lifted base (s.digitsOr c phase other') :=
  lift_ite base _ _ _ _ _ (lift_goes base s inside _ _) same

-- Inside the inner value the two scans take the same steps.
theorem step_lift (c : UInt8) : step (limit + 1) (lift base s) c = lifted base (step limit s c) := by
  have goes := lift_goes base s inside
  have fails := lift_fail base s inside
  have ends := lift_end_value base s inside c
  have digits := lift_digits base s inside c
  have phase : (lift base s).phase = s.phase := by
    rw [lift_of_open base s inside]
  unfold step
  rw [phase]
  cases s.phase with
  | beginValueOrEmpty => exact lift_ite base _ _ _ _ _ ends (lift_begin_value limit base s inside c)
  | beginValue => exact lift_begin_value limit base s inside c
  | beginStringOrEmpty => exact lift_begin_string_or_empty base s inside c
  | beginString => exact lift_begin_string base s inside c
  | endValue => exact ends
  | endTop => exact goes _ _
  | inString =>
      exact lift_ite base _ _ _ _ _ (goes _ _) (lift_ite base _ _ _ _ _ (goes _ _) (lift_ite base _ _ _ _ _ fails (goes _ _)))
  | inStringEsc => exact lift_ite base _ _ _ _ _ (goes _ _) (lift_ite base _ _ _ _ _ (goes _ _) fails)
  | inStringEscU left => exact lift_ite base _ _ _ _ _ (goes _ _) fails
  | neg => exact lift_ite base _ _ _ _ _ (goes _ _) (digits _ _ _ fails)
  | one => exact digits _ _ _ (lift_zero base s inside c)
  | zero => exact lift_zero base s inside c
  | dot => exact digits _ _ _ fails
  | dot0 => exact digits _ _ _ (lift_exponent base s inside c)
  | exp => exact lift_ite base _ _ _ _ _ (goes _ _) (digits _ _ _ fails)
  | expSign => exact digits _ _ _ fails
  | exp0 => exact digits _ _ _ ends
  | literal next rest => exact lift_ite base _ _ _ _ _ (goes _ _) fails
  | failed => exact fails

end Lifted

section Inside
variable (limit : Nat)

-- A scan that has a value open.
def Inside (s : Scan) : Prop := s.stack ≠ [] ∧ s.phase ≠ .endTop

/- What a byte inside an open value does: it leaves a value open, or it is the bracket that
   closes the last one. -/
def Stays (c : UInt8) (result : Opcode × Scan) : Prop :=
  result.1 ≠ .scanEnd ∧
    (Inside result.2 ∨
      result.2 = ⟨.endTop, []⟩ ∧ (result.1 = .endObject ∨ result.1 = .endArray) ∧ (c = ch '}' ∨ c = ch ']'))

theorem stays_ite (c : UInt8) (holds : Prop) [Decidable holds] (first second : Opcode × Scan) (firstStays : holds → Stays c first)
    (secondStays : Stays c second) : Stays c (if holds then first else second) := by
  by_cases it : holds
  · rw [if_pos it]
    exact firstStays it
  · rw [if_neg it]
    exact secondStays

theorem pop_stays (c : UInt8) (op : Opcode) (rest : List Frame) (closes : op = .endObject ∨ op = .endArray)
    (bracket : c = ch '}' ∨ c = ch ']') : Stays c (op, Scan.pop rest) := by
  have other : op ≠ .scanEnd := by
    intro same
    rw [same] at closes
    exact closes.elim (fun it => Opcode.noConfusion it) (fun it => Opcode.noConfusion it)
  refine ⟨other, ?_⟩
  by_cases last : rest = []
  · rw [last]
    exact Or.inr ⟨rfl, closes, bracket⟩
  · rw [Scan.pop, if_neg last]
    exact Or.inl ⟨last, fun same => Phase.noConfusion same⟩

theorem framed_stays (c : UInt8) (op : Opcode) (phase : Phase) (frame : Frame) (rest : List Frame) (other : op ≠ .scanEnd)
    (inner : phase ≠ .endTop) : Stays c (op, ⟨phase, frame :: rest⟩) :=
  ⟨other, Or.inl ⟨List.cons_ne_nil frame rest, inner⟩⟩

theorem push_stays (s : Scan) (c : UInt8) (frame : Frame) (op : Opcode) (phase : Phase) (other : op ≠ .scanEnd) (inner : phase ≠ .endTop) :
    Stays c (s.push limit frame op phase) :=
  stays_ite c _ _ _ (fun _ => framed_stays c op phase frame s.stack other inner)
    (framed_stays c .scanError .failed frame s.stack (by decide) (by decide))

variable (s : Scan) (open' : Inside s) (c : UInt8)
include open'

theorem goes_stays (op : Opcode) (phase : Phase) (other : op ≠ .scanEnd) (inner : phase ≠ .endTop) : Stays c (s.goes op phase) :=
  ⟨other, Or.inl ⟨open'.1, inner⟩⟩

theorem fail_stays : Stays c s.fail := goes_stays s open' c .scanError .failed (by decide) (by decide)

theorem end_value_stays : Stays c (s.endValue c) := by
  obtain ⟨phase, stack⟩ := s
  have fails := fail_stays ⟨phase, stack⟩ open' c
  have goes := goes_stays ⟨phase, stack⟩ open' c
  cases stack with
  | nil => exact absurd rfl open'.1
  | cons frame rest =>
      refine stays_ite c _ _ _ (fun _ => goes _ _ (by decide) (by decide)) ?_
      cases frame with
      | objectKey => exact stays_ite c _ _ _ (fun _ => framed_stays c _ _ _ rest (by decide) (by decide)) fails
      | objectValue =>
          refine stays_ite c _ _ _ (fun _ => framed_stays c _ _ _ rest (by decide) (by decide)) ?_
          exact stays_ite c _ _ _ (fun brace => pop_stays c .endObject rest (Or.inl rfl) (Or.inl brace)) fails
      | arrayValue =>
          refine stays_ite c _ _ _ (fun _ => goes _ _ (by decide) (by decide)) ?_
          exact stays_ite c _ _ _ (fun bracket => pop_stays c .endArray rest (Or.inr rfl) (Or.inr bracket)) fails

theorem begin_value_stays : Stays c (s.beginValue limit c) := by
  have goes := goes_stays s open' c
  have pushes := push_stays limit s c
  refine stays_ite c _ _ _ (fun _ => goes _ _ (by decide) open'.2) ?_
  refine stays_ite c _ _ _ (fun _ => pushes _ _ _ (by decide) (by decide)) ?_
  refine stays_ite c _ _ _ (fun _ => pushes _ _ _ (by decide) (by decide)) ?_
  refine stays_ite c _ _ _ (fun _ => goes _ _ (by decide) (by decide)) ?_
  refine stays_ite c _ _ _ (fun _ => goes _ _ (by decide) (by decide)) ?_
  refine stays_ite c _ _ _ (fun _ => goes _ _ (by decide) (by decide)) ?_
  refine stays_ite c _ _ _ (fun _ => goes _ _ (by decide) (by decide)) ?_
  refine stays_ite c _ _ _ (fun _ => goes _ _ (by decide) (by decide)) ?_
  refine stays_ite c _ _ _ (fun _ => goes _ _ (by decide) (by decide)) ?_
  exact stays_ite c _ _ _ (fun _ => goes _ _ (by decide) (by decide)) (fail_stays s open' c)

theorem begin_string_stays : Stays c (s.beginString c) := by
  have goes := goes_stays s open' c
  refine stays_ite c _ _ _ (fun _ => goes _ _ (by decide) open'.2) ?_
  exact stays_ite c _ _ _ (fun _ => goes _ _ (by decide) (by decide)) (fail_stays s open' c)

theorem begin_string_or_empty_stays : Stays c (s.beginStringOrEmpty c) := by
  refine stays_ite c _ _ _ (fun _ => ?_) (begin_string_stays s open' c)
  obtain ⟨phase, stack⟩ := s
  cases stack with
  | nil => exact absurd rfl open'.1
  | cons frame rest => exact end_value_stays ⟨phase, .objectValue :: rest⟩ ⟨List.cons_ne_nil _ _, open'.2⟩ c

theorem digits_stays (phase : Phase) (other : Opcode × Scan) (inner : phase ≠ .endTop) (otherStays : Stays c other) :
    Stays c (s.digitsOr c phase other) :=
  stays_ite c _ _ _ (fun _ => goes_stays s open' c _ _ (by decide) inner) otherStays

theorem exponent_stays : Stays c (s.exponentOr c) :=
  stays_ite c _ _ _ (fun _ => goes_stays s open' c _ _ (by decide) (by decide)) (end_value_stays s open' c)

theorem zero_stays : Stays c (s.zero c) :=
  stays_ite c _ _ _ (fun _ => goes_stays s open' c _ _ (by decide) (by decide)) (exponent_stays s open' c)

theorem step_stays : Stays c (step limit s c) := by
  have goes := goes_stays s open' c
  have fails := fail_stays s open' c
  have digits := digits_stays s open' c
  have ends := end_value_stays s open' c
  have notOver := open'.2
  unfold step
  cases phase : s.phase with
  | beginValueOrEmpty => exact stays_ite c _ _ _ (fun _ => ends) (begin_value_stays limit s open' c)
  | beginValue => exact begin_value_stays limit s open' c
  | beginStringOrEmpty => exact begin_string_or_empty_stays s open' c
  | beginString => exact begin_string_stays s open' c
  | endValue => exact ends
  | endTop => exact absurd phase notOver
  | inString =>
      refine stays_ite c _ _ _ (fun _ => goes _ _ (by decide) (by decide)) ?_
      refine stays_ite c _ _ _ (fun _ => goes _ _ (by decide) (by decide)) ?_
      exact stays_ite c _ _ _ (fun _ => fails) (goes _ _ (by decide) (by decide))
  | inStringEsc =>
      refine stays_ite c _ _ _ (fun _ => goes _ _ (by decide) (by decide)) ?_
      exact stays_ite c _ _ _ (fun _ => goes _ _ (by decide) (by decide)) fails
  | inStringEscU left =>
      refine stays_ite c _ _ _ (fun _ => goes _ _ (by decide) ?_) fails
      cases left with
      | zero => decide
      | succ left => exact fun same => Phase.noConfusion same
  | neg =>
      exact stays_ite c _ _ _ (fun _ => goes _ _ (by decide) (by decide)) (digits _ _ (by decide) fails)
  | one => exact digits _ _ (by decide) (zero_stays s open' c)
  | zero => exact zero_stays s open' c
  | dot => exact digits _ _ (by decide) fails
  | dot0 => exact digits _ _ (by decide) (exponent_stays s open' c)
  | exp => exact stays_ite c _ _ _ (fun _ => goes _ _ (by decide) (by decide)) (digits _ _ (by decide) fails)
  | expSign => exact digits _ _ (by decide) fails
  | exp0 => exact digits _ _ (by decide) ends
  | literal next rest =>
      refine stays_ite c _ _ _ (fun _ => goes _ _ (by decide) ?_) fails
      cases rest with
      | nil => decide
      | cons later more => exact fun same => Phase.noConfusion same
  | failed => exact fails

end Inside

end JsonScanner
