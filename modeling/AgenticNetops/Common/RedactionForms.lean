import AgenticNetops.Common.RedactionStable
import AgenticNetops.Lib.RegexAlike

set_option autoImplicit false

/- The forms in which a credential is written, and where one stands alone: no earlier
   pattern, and no earlier match of its own, reaches into it. -/
namespace AgenticNetops.Common

open Regex PyText

variable (table : CharTable)

inductive Form where
  | url
  | password
  | apiKey
  | bearer
  | authorization
  | token

section Forms

-- What a form keeps: the label in front of the secret.
def Form.label : Form → Pattern
  | .url => exact "://" ++ some' (.char fun c => !anyOf ":/@" c && !isBlank c) ++ exact ":"
  | .password => edge table ++ oneOf [text "password", text "passwd", text "pwd"] ++ assigned
  | .apiKey => oneOf [text "api" ++ opt (.char (anyOf "_-")) ++ text "key", text "apikey"] ++ assigned
  | .bearer => edge table ++ text "bearer" ++ some' blank
  | .authorization => oneOf [text "authorization", text "proxy-authorization"] ++ assigned
  | .token => edge table ++ text "token" ++ assigned

-- The place of its pattern in the list.
def Form.index : Form → Nat
  | .url => 1
  | .password => 4
  | .apiKey => 5
  | .bearer => 6
  | .authorization => 7
  | .token => 8

def Form.pattern : Form → Pattern
  | .url => urlPassword
  | .password => passwordValue table
  | .apiKey => apiKeyValue
  | .bearer => bearerToken table
  | .authorization => authorizationValue
  | .token => tokenValue table

def Form.earlier (form : Form) : List (Pattern × (Match → List Char)) := (credentialPatterns table).take form.index

def Form.secretChar : Form → Char → Bool
  | .url, c => passwordPart c
  | _, c => !isBlank c

def Form.marker : Form → List (Char → Bool)
  | .url => exactMark
  | _ => foldedMark

-- A secret goes to the next blank, and the password of a URL to the next at sign.
def Form.closes : Form → List Char → Bool
  | .url, after => after.head? = some '@'
  | _, after => !after.head?.any fun c => !isBlank c

-- A credential, with the text in front of it and behind it.
structure Credential (form : Form) (front lead secret after : List Char) : Prop where
  label : Takes (form.label table) front.reverse lead (secret ++ after) []
  present : secret ≠ []
  chars : ∀ c ∈ secret, form.secretChar c = true
  closed : form.closes after = true

end Forms

section Places
variable (pattern : Pattern) (front lead secret after : List Char)

-- A stretch of a text that a pattern takes.
def Occurs (text : List Char) (start stop : Nat) : Prop :=
  ∃ before taken rest caught, text = before ++ (taken ++ rest) ∧ Takes pattern before.reverse taken rest caught ∧
    start = before.length ∧ stop = (before ++ taken).length

def Occurs' (start stop : Nat) : Prop := Occurs pattern (front ++ (lead ++ (secret ++ after))) start stop

-- What begins in front of the credential ends there.
def FrontApart : Prop := ∀ start stop, Occurs' pattern front lead secret after start stop → start < front.length → stop ≤ front.length

-- Nothing begins in the label, and what begins in the secret ends there.
structure InnerApart : Prop where
  label : ∀ start stop, Occurs' pattern front lead secret after start stop → front.length ≤ start → ¬ start < (front ++ lead).length
  secret : ∀ start stop, Occurs' pattern front lead secret after start stop → (front ++ lead).length ≤ start →
    start < (front ++ (lead ++ secret)).length → stop ≤ (front ++ (lead ++ secret)).length

end Places

end AgenticNetops.Common
