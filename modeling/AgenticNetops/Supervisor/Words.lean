import AgenticNetops.Lib.PyText

set_option autoImplicit false

/- What the supervisor reads in an operator's text: the confirmation vocabulary, found
   anywhere in the text, and the service or correlation id of a status or remove
   request. -/
namespace AgenticNetops.Supervisor

open GoText PyText

-- `user_content.lower().strip()`
def lowered (text : String) : List Char := trimChars isBlank (text.toList.flatMap lowerChar)

def confirmWords : List String := ["yes", "confirm", "proceed", "go ahead", "ok", "sure", "allocate", "deploy"]

def declineWords : List String := ["no", "decline", "reject", "cancel", "stop", "abort"]

def occursIn (word : String) (text : List Char) : Bool := text.tails.any fun tail => word.toList.isPrefixOf tail

def takenAsConfirm (text : String) : Bool := confirmWords.any fun word => occursIn word (lowered text)

def takenAsDecline (text : String) : Bool := declineWords.any fun word => occursIn word (lowered text)

section Requests

-- [a-z0-9-]
def isTokenChar (c : Char) : Bool := ('a' ≤ c && c ≤ 'z') || ('0' ≤ c && c ≤ '9') || c = '-'

-- [a-z0-9-]{6,15}
def token (text : List Char) : Option String :=
  let run := (text.takeWhile isTokenChar).take 15
  if 6 ≤ run.length then some (String.ofList run) else none

-- re.search of the lead, "service " or nothing, and a token.
def namedService (lead : String) (text : List Char) : Option String :=
  text.tails.findSome? fun tail =>
    if lead.toList.isPrefixOf tail then
      let rest := tail.drop lead.toList.length
      (if "service ".toList.isPrefixOf rest then token (rest.drop 8) else none).or (token rest)
    else none

def statusOf (text : String) : Option String := namedService "status of " (lowered text)

def removeService (text : String) : Option String := namedService "remove " (lowered text)

def isHexChar (c : Char) : Bool := ('a' ≤ c && c ≤ 'f') || ('0' ≤ c && c ≤ '9')

-- correlation[- ]id[:\s]+([a-f0-9]{16,32}) at the start of the text.
def correlationPhrase (text : List Char) : Option String :=
  if "correlation-id".toList.isPrefixOf text ∨ "correlation id".toList.isPrefixOf text then
    let rest := text.drop 14
    let gap := rest.takeWhile fun c => c = ':' || isBlank c
    let digits := ((rest.drop gap.length).takeWhile isHexChar).take 32
    if gap ≠ [] ∧ 16 ≤ digits.length then some (String.ofList digits) else none
  else none

-- `.*?` in front of it: the first place on the line.
def firstOnLine (find : List Char → Option String) : List Char → Option String
  | [] => find []
  | c :: rest => (find (c :: rest)).or (if c = '\n' then none else firstOnLine find rest)

def removeCorrelation (text : String) : Option String :=
  (lowered text).tails.findSome? fun tail =>
    if "remove ".toList.isPrefixOf tail then firstOnLine correlationPhrase (tail.drop 7) else none

end Requests

section WholeWords

def isWordChar (c : Char) : Bool := c.isAlphanum || c = '_'

def wordsOf : List Char → List (List Char)
  | [] => [[]]
  | c :: rest =>
      match wordsOf rest with
      | [] => [[c]]
      | word :: words => if isWordChar c then (c :: word) :: words else [] :: word :: words

-- A declining word stands in the reply as a word of its own.
def Declines (reply : String) : Prop := ∃ word ∈ declineWords, word.toList ∈ wordsOf (lowered reply)

-- `inWord`: the character before the text belongs to a word.
def beginsWord (word : List Char) : Bool → List Char → Bool
  | _, [] => false
  | inWord, c :: rest => (!inWord && word.isPrefixOf (c :: rest)) || beginsWord word (isWordChar c) rest

-- A word of the reply begins with a confirming one.
def Confirms (reply : String) : Prop := ∃ word ∈ confirmWords, beginsWord word.toList false (lowered reply)

instance (reply : String) : Decidable (Declines reply) :=
  inferInstanceAs (Decidable (∃ word ∈ declineWords, word.toList ∈ wordsOf (lowered reply)))

instance (reply : String) : Decidable (Confirms reply) :=
  inferInstanceAs (Decidable (∃ word ∈ confirmWords, beginsWord word.toList false (lowered reply)))

-- A confirming reply is taken as one.
theorem begins_word_occurs (word : List Char) (inWord : Bool) (text : List Char) (begins : beginsWord word inWord text) :
    (text.tails.any fun tail => word.isPrefixOf tail) = true := by
  induction text generalizing inWord with
  | nil => cases begins
  | cons c rest ih =>
      rw [List.tails, List.any_cons, Bool.or_eq_true]
      cases (Bool.or_eq_true _ _).mp begins with
      | inl here => exact .inl (Bool.and_eq_true_iff.mp here).2
      | inr later => exact .inr (ih (isWordChar c) later)

theorem confirms_taken (reply : String) (confirms : Confirms reply) : takenAsConfirm reply := by
  obtain ⟨word, member, begins⟩ := confirms
  exact List.any_eq_true.mpr ⟨word, member, begins_word_occurs word.toList false (lowered reply) begins⟩

example : takenAsConfirm "no, do not deploy" ∧ Declines "no, do not deploy" := by decide

end WholeWords

end AgenticNetops.Supervisor
