import AgenticNetops.Lib.PyText

set_option autoImplicit false

/- Backtracking regular expressions, as Python's re runs them: a pattern has an ordered
   list of ways to match at a place, and the first one counts. -/
namespace Regex

inductive Pattern where
  | char (accepts : Char → Bool)
  | empty
  | seq (first second : Pattern)
  | alt (first second : Pattern)
  | many (greedy : Bool) (body : Pattern)
  | group (name : String) (body : Pattern)
  | boundary (isWord : Char → Bool)
  | ahead (wanted : Bool) (body : Pattern)
  | behind (wanted : Bool) (accepts : Char → Bool)
  | finish

instance : Append Pattern := ⟨.seq⟩

-- A place in a text: what is before it, last character first, and what is after it.
structure Place where
  before : List Char
  after : List Char
  groups : List (String × List Char) := []

def Place.between (start stop : Place) : List Char := start.after.take (start.after.length - stop.after.length)

def atBoundary (isWord : Char → Bool) (place : Place) : Bool :=
  place.before.head?.any isWord != place.after.head?.any isWord

section Ways

-- A round that takes no character is not repeated, so there are at most as many as characters.
def rounds (greedy : Bool) (step : Place → List Place) : Nat → Place → List Place
  | 0, place => [place]
  | limit + 1, place =>
      let further := ((step place).filter fun next => next.after.length < place.after.length).flatMap (rounds greedy step limit)
      if greedy then further ++ [place] else place :: further

def ways : Pattern → Place → List Place
  | .char accepts, place =>
      match place.after with
      | [] => []
      | c :: rest => if accepts c then [{ place with before := c :: place.before, after := rest }] else []
  | .empty, place => [place]
  | .seq first second, place => (ways first place).flatMap (ways second)
  | .alt first second, place => ways first place ++ ways second place
  | .many greedy body, place => rounds greedy (ways body) place.after.length place
  | .group name body, place =>
      (ways body place).map fun stop => { stop with groups := (name, place.between stop) :: stop.groups }
  | .boundary isWord, place => if atBoundary isWord place then [place] else []
  | .ahead wanted body, place => if (ways body place).isEmpty != wanted then [place] else []
  | .behind wanted accepts, place => if place.before.head?.any accepts == wanted then [place] else []
  | .finish, place => if place.after = [] ∨ place.after = ['\n'] then [place] else []

end Ways

section Build

-- Text as it stands.
def exact (text : String) : Pattern := text.toList.foldr (fun c rest => .seq (.char (· = c)) rest) .empty

/- re.I on an ASCII letter: the Kelvin sign, the two Turkish i and the long s are read as
   the letters they fold to. -/
def sameLetter (letter c : Char) : Bool :=
  GoText.toLowerAscii c = letter || (letter = 'k' && c.toNat = 0x212A) || (letter = 's' && c.toNat = 0x17F) ||
    (letter = 'i' && (c.toNat = 0x130 || c.toNat = 0x131))

-- Lower-case text under re.I.
def text (lowered : String) : Pattern := lowered.toList.foldr (fun c rest => .seq (.char (sameLetter c)) rest) .empty

def opt (body : Pattern) : Pattern := .alt body .empty

def some' (body : Pattern) : Pattern := .seq body (.many true body)

def someLazy (body : Pattern) : Pattern := .seq body (.many false body)

def upTo (body : Pattern) : Nat → Pattern
  | 0 => .empty
  | limit + 1 => opt (.seq body (upTo body limit))

def upToLazy (body : Pattern) : Nat → Pattern
  | 0 => .empty
  | limit + 1 => .alt .empty (.seq body (upToLazy body limit))

def times (body : Pattern) : Nat → Pattern
  | 0 => .empty
  | count + 1 => .seq body (times body count)

-- The first of the patterns comes first. There is at least one.
def oneOf : List Pattern → Pattern
  | [] => .ahead true (.char fun _ => false)
  | [only] => only
  | first :: rest => .alt first (oneOf rest)

def whole (isWord : Char → Bool) (lowered : String) : Pattern := .boundary isWord ++ text lowered ++ .boundary isWord

def blank : Pattern := .char PyText.isBlank

def filled : Pattern := .char fun c => !PyText.isBlank c

def notNewline : Pattern := .char fun c => c ≠ '\n'

def anyOf (chars : String) (c : Char) : Bool := chars.toList.contains c

-- [a-z] under re.I
def foldsToLetter (c : Char) : Bool :=
  ('a' ≤ GoText.toLowerAscii c && GoText.toLowerAscii c ≤ 'z') || c.toNat = 0x212A || c.toNat = 0x17F || c.toNat = 0x130 ||
    c.toNat = 0x131

end Build

section Search

structure Match where
  before : List Char
  text : List Char
  after : List Char
  groups : List (String × List Char)

def Match.group (found : Match) (name : String) : Option (List Char) := found.groups.lookup name

def matchAt (pattern : Pattern) (before after : List Char) : Option Match :=
  (ways pattern ⟨before, after, []⟩).head?.map fun stop =>
    ⟨before.reverse, Place.between ⟨before, after, []⟩ stop, stop.after, stop.groups⟩

def searchFrom (pattern : Pattern) : List Char → List Char → Option Match
  | before, [] => matchAt pattern before []
  | before, c :: rest => (matchAt pattern before (c :: rest)).or (searchFrom pattern (c :: before) rest)

def search (pattern : Pattern) (text : List Char) : Option Match := searchFrom pattern [] text

def found (pattern : Pattern) (text : List Char) : Bool := (search pattern text).isSome

def fullMatch (pattern : Pattern) (text : List Char) : Option Match :=
  ((ways pattern ⟨[], text, []⟩).find? fun stop => stop.after.isEmpty).map fun stop => ⟨[], text, [], stop.groups⟩

-- An empty match is passed over.
def matchHere (pattern : Pattern) (before after : List Char) : Option Match :=
  (matchAt pattern before after).filter fun found => !found.text.isEmpty

-- The matches from left to right, no two overlapping.
def matchesFrom (pattern : Pattern) : Nat → List Char → List Char → List Match
  | 0, _, _ => []
  | limit + 1, before, after =>
      match matchHere pattern before after, after with
      | some found, _ => found :: matchesFrom pattern limit (found.text.reverse ++ before) found.after
      | none, [] => []
      | none, c :: rest => matchesFrom pattern limit (c :: before) rest

def findAll (pattern : Pattern) (text : List Char) : List Match := matchesFrom pattern (text.length + 1) [] text

def subFrom (pattern : Pattern) (replacement : Match → List Char) : Nat → List Char → List Char → List Char
  | 0, _, after => after
  | limit + 1, before, after =>
      match matchHere pattern before after, after with
      | some found, _ => replacement found ++ subFrom pattern replacement limit (found.text.reverse ++ before) found.after
      | none, [] => []
      | none, c :: rest => c :: subFrom pattern replacement limit (c :: before) rest

def sub (pattern : Pattern) (replacement : Match → List Char) (text : List Char) : List Char :=
  subFrom pattern replacement (text.length + 1) [] text

def subOnce (pattern : Pattern) (replacement : Match → List Char) (text : List Char) : List Char :=
  match search pattern text with
  | none => text
  | some found => found.before ++ replacement found ++ found.after

end Search

section Unfound
variable (pattern : Pattern)

theorem sub_from_unfound (replacement : Match → List Char) (limit : Nat) (before after : List Char)
    (none' : searchFrom pattern before after = none) : subFrom pattern replacement limit before after = after := by
  induction after generalizing limit before with
  | nil =>
      cases limit with
      | zero => rfl
      | succ limit =>
          have here : matchHere pattern before [] = none := by
            rw [matchHere, show matchAt pattern before [] = none from none']
            rfl
          rw [subFrom.eq_def]
          simp only [here]
  | cons c rest ih =>
      cases limit with
      | zero => rfl
      | succ limit =>
          have both := Option.or_eq_none_iff.mp none'
          have here : matchHere pattern before (c :: rest) = none := by
            rw [matchHere, both.1]
            rfl
          rw [subFrom.eq_def]
          simp only [here, ih limit (c :: before) both.2]

-- Where the pattern is not found, nothing is replaced.
theorem sub_unfound (replacement : Match → List Char) (text : List Char) (absent : found pattern text = false) :
    sub pattern replacement text = text :=
  sub_from_unfound pattern replacement _ [] text (Option.not_isSome_iff_eq_none.mp (by simpa [found, search] using absent))

end Unfound

end Regex
