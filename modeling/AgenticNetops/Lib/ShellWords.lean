import AgenticNetops.Lib.Utf8

set_option autoImplicit false

/- How a POSIX shell takes a command line apart: quoting, and what it recognises
   besides words. -/
namespace ShellWords

open Utf8 (Bytes)

inductive Token where
  | word (text : Bytes)
  -- | & ; < > ( ) and the end of a line
  | operator (byte : UInt8)
  -- $ ` * ? [ and a tilde where it stands for a directory
  | expansion (byte : UInt8)
  | comment
  -- the text ends inside a quotation
  | unclosed
  -- the meaning of a NUL byte is left open
  | unspecified
deriving DecidableEq, Repr

-- word is what is read of a word so far; tilde says whether a tilde would be
-- expanded at this place.
inductive Mode where
  | outside (word : Option Bytes) (tilde : Bool)
  | escaped (word : Option Bytes) (tilde : Bool)
  | single (text : Bytes)
  | double (text : Bytes)
  | doubleEscaped (text : Bytes)
  | comment
deriving DecidableEq, Repr

def newline : UInt8 := 10
def doubleQuote : UInt8 := 34
def hash : UInt8 := 35
def dollar : UInt8 := 36
def singleQuote : UInt8 := 39
def colon : UInt8 := 58
def equals : UInt8 := 61
def backslash : UInt8 := 92
def backquote : UInt8 := 96
def tildeMark : UInt8 := 126
def blank : UInt8 := 32

def blanks : Bytes := [blank, 9]
def operators : Bytes := [newline, 124, 38, 59, 60, 62, 40, 41]
def expansions : Bytes := [dollar, backquote, 42, 63, 91]
def quotes : Bytes := [singleQuote, doubleQuote, backslash]

def start : Mode := .outside none true

def readWord : Option Bytes → List Token
  | none => []
  | some text => [.word text]

def step (mode : Mode) (byte : UInt8) : List Token × Mode :=
  if byte = 0 then ([.unspecified], mode)
  else
    match mode with
    | .outside word tilde =>
        if byte ∈ blanks then (readWord word, start)
        else if byte ∈ operators then (readWord word ++ [.operator byte], start)
        else if byte = hash ∧ word = none then ([.comment], .comment)
        else if byte = singleQuote then ([], .single (word.getD []))
        else if byte = doubleQuote then ([], .double (word.getD []))
        else if byte = backslash then ([], .escaped word tilde)
        else if byte ∈ expansions ∨ (byte = tildeMark ∧ tilde = true) then
          ([.expansion byte], .outside (some (word.getD [])) false)
        else ([], .outside (some (word.getD [] ++ [byte])) (byte = equals || byte = colon))
    | .escaped word tilde =>
        if byte = newline then ([], .outside word tilde)
        else ([], .outside (some (word.getD [] ++ [byte])) false)
    | .single text =>
        if byte = singleQuote then ([], .outside (some text) false) else ([], .single (text ++ [byte]))
    | .double text =>
        if byte = doubleQuote then ([], .outside (some text) false)
        else if byte = backslash then ([], .doubleEscaped text)
        else if byte = dollar ∨ byte = backquote then ([.expansion byte], .double text)
        else ([], .double (text ++ [byte]))
    | .doubleEscaped text =>
        if byte = newline then ([], .double text)
        else if byte ∈ [dollar, backquote, doubleQuote, backslash] then ([], .double (text ++ [byte]))
        else ([], .double (text ++ [backslash, byte]))
    | .comment => if byte = newline then ([.operator byte], start) else ([], .comment)

def ended : Mode → List Token
  | .outside word _ => readWord word
  | .comment => []
  | _ => [.unclosed]

def tokensFrom (mode : Mode) : Bytes → List Token
  | [] => ended mode
  | byte :: rest => (step mode byte).1 ++ tokensFrom (step mode byte).2 rest

def tokens (text : Bytes) : List Token := tokensFrom start text

-- A byte that means itself wherever it stands outside quotes.
def Plain (byte : UInt8) : Prop :=
  byte ≠ 0 ∧ byte ∉ blanks ∧ byte ∉ operators ∧ byte ∉ expansions ∧ byte ∉ quotes ∧ byte ≠ hash ∧ byte ≠ tildeMark

instance (byte : UInt8) : Decidable (Plain byte) := inferInstanceAs (Decidable (_ ∧ _))

theorem plain_step (byte : UInt8) (word : Option Bytes) (tilde : Bool) (plain : Plain byte) :
    step (.outside word tilde) byte =
      ([], .outside (some (word.getD [] ++ [byte])) (byte = equals || byte = colon)) := by
  obtain ⟨notNul, notBlank, notOperator, notExpansion, notQuote, notHash, notTilde⟩ := plain
  have notSingle : byte ≠ singleQuote := fun same => notQuote (by rw [same]; decide)
  have notDouble : byte ≠ doubleQuote := fun same => notQuote (by rw [same]; decide)
  have notBackslash : byte ≠ backslash := fun same => notQuote (by rw [same]; decide)
  have noComment : ¬ (byte = hash ∧ word = none) := fun both => notHash both.1
  have noExpansion : ¬ (byte ∈ expansions ∨ (byte = tildeMark ∧ tilde = true)) :=
    fun either => either.elim notExpansion (fun both => notTilde both.1)
  rw [step, if_neg notNul]
  rw [if_neg notBlank, if_neg notOperator, if_neg noComment, if_neg notSingle, if_neg notDouble, if_neg notBackslash,
    if_neg noExpansion]

theorem plain_tokens (text : Bytes) (plain : ∀ byte ∈ text, Plain byte) (word : Option Bytes) (tilde : Bool)
    (rest : Bytes) (filled : text ≠ []) :
    ∃ tilde', tokensFrom (.outside word tilde) (text ++ rest) =
      tokensFrom (.outside (some (word.getD [] ++ text)) tilde') rest := by
  induction text generalizing word tilde with
  | nil => exact absurd rfl filled
  | cons byte behind inner =>
      have here := plain_step byte word tilde (plain byte List.mem_cons_self)
      have read : tokensFrom (.outside word tilde) (byte :: behind ++ rest) =
          tokensFrom (.outside (some (word.getD [] ++ [byte])) (byte = equals || byte = colon)) (behind ++ rest) := by
        rw [List.cons_append, tokensFrom, here]
        rfl
      rw [read]
      cases behind with
      | nil => exact ⟨_, rfl⟩
      | cons next more =>
          obtain ⟨tilde', later⟩ := inner (fun b listed => plain b (List.mem_cons_of_mem _ listed))
            (some (word.getD [] ++ [byte])) (byte = equals || byte = colon) (List.cons_ne_nil _ _)
          refine ⟨tilde', later.trans ?_⟩
          rw [Option.getD_some, List.append_assoc]
          rfl

theorem single_step (text : Bytes) (byte : UInt8) (notNul : byte ≠ 0) (notQuote : byte ≠ singleQuote) :
    step (.single text) byte = ([], .single (text ++ [byte])) := by
  rw [step, if_neg notNul]
  exact if_neg notQuote

theorem close_step (text : Bytes) : step (.single text) singleQuote = ([], .outside (some text) false) := rfl

theorem open_step (word : Option Bytes) (tilde : Bool) :
    step (.outside word tilde) singleQuote = ([], .single (word.getD [])) := by
  have noComment : ¬ (singleQuote = hash ∧ word = none) := fun both => absurd both.1 (by decide)
  rw [step, if_neg (by decide)]
  rw [if_neg (by decide), if_neg (by decide), if_neg noComment, if_pos rfl]

theorem escape_step (text : Bytes) (tilde : Bool) :
    step (.outside (some text) tilde) backslash = ([], .escaped (some text) tilde) := by
  have noComment : ¬ (backslash = hash ∧ some text = none) := fun both => absurd both.1 (by decide)
  rw [step, if_neg (by decide)]
  rw [if_neg (by decide), if_neg (by decide), if_neg noComment, if_neg (by decide), if_neg (by decide), if_pos rfl]

theorem blank_step (word : Option Bytes) (tilde : Bool) :
    step (.outside word tilde) blank = (readWord word, start) := by
  rw [step, if_neg (by decide)]
  exact if_pos (by decide)

-- Whatever follows it, the part is read as one word that is still open.
def Spells (part text : Bytes) : Prop :=
  ∀ rest, ∃ tilde, tokensFrom start (part ++ rest) = tokensFrom (.outside (some text) tilde) rest

/- Parts that spell words, a blank between each two, are read as these words. -/
theorem joined_tokens (parts texts : List Bytes) (spelled : List.Forall₂ Spells parts texts) :
    tokens (List.intercalate [blank] parts) = texts.map Token.word := by
  induction spelled with
  | nil => rfl
  | @cons part text parts texts spells others inner =>
      cases others with
      | nil =>
          obtain ⟨tilde, read⟩ := spells []
          rw [List.intercalate_singleton, tokens, ← List.append_nil part, read]
          rfl
      | @cons next text' parts texts _ _ =>
          obtain ⟨tilde, read⟩ := spells ([blank] ++ List.intercalate [blank] (next :: parts))
          rw [List.intercalate_cons_cons, List.append_assoc, tokens, read, List.cons_append, tokensFrom, blank_step]
          exact congrArg (Token.word text :: ·) inner

end ShellWords
