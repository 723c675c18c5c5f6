import AgenticNetops.Lib.Regex

set_option autoImplicit false

/- agents/common/redaction.py: the credential patterns, and what is put in their place.
   The label of a secret is its group 1. -/
namespace AgenticNetops.Common

open Regex PyText

def redactedMarker : String := "***REDACTED***"

def redactedPEM : String := "***REDACTED-PEM***"

def notMarker : Pattern := .ahead false (exact redactedMarker)

-- The same under (?i).
def notMarkerFolded : Pattern := .ahead false (exact "***" ++ text "redacted" ++ exact "***")

variable (table : CharTable)

def edge : Pattern := .boundary (isWord table)

def secret : Pattern := some' filled

-- \s*[=:]\s*
def assigned : Pattern := .many true blank ++ .char (anyOf "=:") ++ .many true blank

def isUpper (c : Char) : Bool := 'A' ≤ c && c ≤ 'Z'

def isAlnumAscii (c : Char) : Bool := isUpper c || ('a' ≤ c && c ≤ 'z') || NetIP.isDigit c

-- [A-Za-z0-9_\-]
def isTokenChar (c : Char) : Bool := isAlnumAscii c || c = '_' || c = '-'

def atLeast (count : Nat) (accepts : Char → Bool) : Pattern := times (.char accepts) count ++ .many true (.char accepts)

def privateKeyLine (lead : String) : Pattern :=
  exact lead ++ .many true (.char fun c => isUpper c || c = ' ') ++ exact "PRIVATE KEY-----"

def pemBlock : Pattern :=
  privateKeyLine "-----BEGIN " ++ .many false (.char fun _ => true) ++ privateKeyLine "-----END "

def urlPassword : Pattern :=
  .group "1" (exact "://" ++ some' (.char fun c => !anyOf ":/@" c && !isBlank c) ++ exact ":") ++ notMarker ++
    some' (.char fun c => c ≠ '@' && !isBlank c) ++ .group "2" (exact "@")

def awsKey : Pattern :=
  edge table ++ oneOf [exact "AKIA", exact "ASIA"] ++ times (.char fun c => isUpper c || NetIP.isDigit c) 16 ++ edge table

def providerKey : Pattern :=
  edge table ++ oneOf (["sk", "pk", "pk_live", "sk_live", "key"].map exact) ++ exact "-" ++ atLeast 16 isTokenChar ++ edge table

def labelled (label : Pattern) : Pattern := .group "1" label ++ notMarkerFolded ++ secret

def passwordValue : Pattern :=
  labelled (edge table ++ oneOf [text "password", text "passwd", text "pwd"] ++ assigned)

def apiKeyValue : Pattern :=
  labelled (oneOf [text "api" ++ opt (.char (anyOf "_-")) ++ text "key", text "apikey"] ++ assigned)

def bearerToken : Pattern := labelled (edge table ++ text "bearer" ++ some' blank)

def authorizationValue : Pattern := labelled (oneOf [text "authorization", text "proxy-authorization"] ++ assigned)

def tokenValue : Pattern := labelled (edge table ++ text "token" ++ assigned)

def jwt : Pattern :=
  edge table ++ exact "eyJ" ++ atLeast 8 isTokenChar ++ exact "." ++ atLeast 8 isTokenChar ++ exact "." ++
    atLeast 8 isTokenChar ++ edge table

def keepLabel (found : Match) : List Char := (found.group "1").getD [] ++ redactedMarker.toList

def keepLabelAndHost (found : Match) : List Char := keepLabel found ++ (found.group "2").getD []

def credentialPatterns : List (Pattern × (Match → List Char)) :=
  [(pemBlock, fun _ => redactedPEM.toList), (urlPassword, keepLabelAndHost), (awsKey table, fun _ => redactedMarker.toList),
    (providerKey table, fun _ => redactedMarker.toList), (passwordValue table, keepLabel), (apiKeyValue, keepLabel),
    (bearerToken table, keepLabel), (authorizationValue, keepLabel), (tokenValue table, keepLabel),
    (jwt table, fun _ => redactedMarker.toList)]

def redact (text : List Char) : List Char :=
  (credentialPatterns table).foldl (fun redacted entry => sub entry.1 entry.2 redacted) text

def containsCredential (text : List Char) : Bool := (credentialPatterns table).any fun entry => found entry.1 text

theorem sub_all_clean (entries : List (Pattern × (Match → List Char))) (text : List Char)
    (clean : (entries.any fun entry => found entry.1 text) = false) :
    entries.foldl (fun redacted entry => sub entry.1 entry.2 redacted) text = text := by
  induction entries with
  | nil => rfl
  | cons entry rest ih =>
      rw [List.any_cons, Bool.or_eq_false_iff] at clean
      rw [List.foldl_cons, sub_unfound entry.1 entry.2 text clean.1]
      exact ih clean.2

-- Text without a credential is left alone.
theorem redact_clean (text : List Char) (clean : containsCredential table text = false) : redact table text = text :=
  sub_all_clean (credentialPatterns table) text clean

end AgenticNetops.Common
