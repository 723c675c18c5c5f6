import AgenticNetops.Lib.GoText

set_option autoImplicit false

/- pkg/kuid: the claim errors (errors.go), claim names and claim creation
   (claim.go), the wait (wait.go) and the reservation (reserve.go). The claim
   server is a store of claim objects under (pool, name); `Answer` values say how
   it replies where it has a choice. -/
namespace AgenticNetops.Kuid

open GoText

-- A Kubernetes API error: the statuses the package asks about, and its text.
structure ApiError where
  alreadyExists : Bool := false
  notFound : Bool := false
  serviceUnavailable : Bool := false
  text : String
deriving DecidableEq, Repr

inductive KuidError where
  | collision (pool : String) (detail : Message)
  | exhaustion (pool : String) (detail : Message)
  | timeout (pool name : String)
  | unavailable (pool : String) (detail : Message)
  | other (text : Message)
deriving DecidableEq, Repr

-- The text of the typed errors; a timeout's last observed status is left out.
def KuidError.text : KuidError → Message
  | .collision pool detail => [.lit "kuid collision in pool ", .str pool, .lit ": "] ++ detail
  | .exhaustion pool detail => [.lit "kuid pool ", .str pool, .lit " exhausted: "] ++ detail
  | .timeout pool name =>
      [.lit "kuid claim ", .str name, .lit " (pool ", .str pool, .lit ") not ready within deadline"]
  | .unavailable pool detail => [.lit "kuid authority for pool ", .str pool, .lit " unavailable: "] ++ detail
  | .other text => text

def isLowerAlnum (c : Char) : Bool := ('a' ≤ c && c ≤ 'z') || ('0' ≤ c && c ≤ '9')

def looksLikeExists (lowerDetail : String) : Bool :=
  contains (String.ofList (lowerDetail.toList.filter isLowerAlnum)) "alreadyexists"

def classify (pool : String) (err : ApiError) : KuidError :=
  let low := toLower err.text
  if err.alreadyExists || looksLikeExists low || contains low "collision" || contains low "conflict" then
    .collision pool [.str err.text]
  else if contains low "exhaust" || contains low "no available" || contains low "no ids" || contains low "no free" then
    .exhaustion pool [.str err.text]
  else if err.serviceUnavailable || contains low "not initialized" || contains low "service unavailable" ||
      contains low "server is currently unable" then
    .unavailable pool [.str err.text]
  else .other [.str err.text]

structure Pool where
  name : String
  kind : String
deriving DecidableEq, Repr

def serviceIDPool : Pool := ⟨"srv6-service-ids", "GENIDClaim"⟩
def clientV4Pool : Pool := ⟨"srv6-client-v4", "IPClaim"⟩
def vlanPool : Pool := ⟨"fabric-vlan", "VLANClaim"⟩

-- The pools a release walks, the reservation pool last.
def pools : List Pool := [serviceIDPool, clientV4Pool, vlanPool]

structure ClaimRef where
  pool : Pool
  name : String
deriving DecidableEq, Repr

def isNameChar (c : Char) : Bool :=
  ('a' ≤ c && c ≤ 'z') || ('A' ≤ c && c ≤ 'Z') || ('0' ≤ c && c ≤ '9') || c = '.' || c = '-'

-- nameSanitizer: every run of other characters becomes one '-'.
def foldRuns : Bool → List Char → List Char
  | _, [] => []
  | inRun, c :: rest =>
      if isNameChar c then c :: foldRuns false rest
      else if inRun then foldRuns true rest
      else '-' :: foldRuns true rest

def isEdge (c : Char) : Bool := c = '-' || c = '.'

def nameLimit : Nat := 63

def sanitizeChars (s : List Char) : List Char :=
  let v := trimChars isEdge (foldRuns false s)
  let v := if v.length > nameLimit then trimChars isEdge (v.take nameLimit) else v
  if v = [] then "default".toList else v

def sanitize (s : String) : String := String.ofList (sanitizeChars s.toList)

def claimName (pool : Pool) (correlationID : String) (parts : List String) : String :=
  sanitize (join ([pool.name, "claim", correlationID] ++ parts) "-")

structure ClaimSpec where
  index : String
  createPrefix : Bool := false
  prefixLength : Option Nat := none
  id : Option Int := none
deriving DecidableEq, Repr

def claimSpec (pool : Pool) : ClaimSpec :=
  if pool.kind = "IPClaim" then { index := pool.name, createPrefix := true, prefixLength := some 24 }
  else { index := pool.name }

-- What the served claim's status reports: the integer, or the address or prefix.
structure ClaimResult where
  id : Int := 0
  address : String := ""
deriving DecidableEq, Repr

structure Claim where
  ref : ClaimRef
  correlationID : String
  spec : ClaimSpec
  result : ClaimResult
deriving DecidableEq, Repr

abbrev Claims := List Claim

def Claims.find (claims : Claims) (ref : ClaimRef) : Option Claim := claims.find? fun claim => claim.ref = ref

/- How the server answers one create: it serves the request (and will put this
   value into the status), or it fails with an error and stores nothing. An
   existing name it answers with some exists-shaped error. -/
inductive CreateAnswer where
  | serve (result : ClaimResult)
  | fail (err : ApiError)
deriving DecidableEq, Repr

/- How it answers the read that follows: with the stored object, with NotFound
   although the create said the name exists, or with another error. -/
inductive GetAnswer where
  | shown
  | hidden
  | fail (err : ApiError)
deriving DecidableEq, Repr

structure CreateAnswers where
  create : CreateAnswer
  get : GetAnswer := .shown
deriving DecidableEq, Repr

def isExists (err : ApiError) : Bool := err.alreadyExists || looksLikeExists (toLower err.text)

/- The read behind an exists-shaped answer. An object that is not there and one the
   server does not show are the same NotFound to the caller. -/
def existingHolder (claims : Claims) (pool : Pool) (ref : ClaimRef) (correlationID : String) (answer : GetAnswer) :
    Except KuidError ClaimRef :=
  match answer with
  | .fail err => if err.notFound then .ok ref else .error (classify pool.name err)
  | .hidden => .ok ref
  | .shown =>
      match claims.find ref with
      | none => .ok ref
      | some existing =>
          if existing.correlationID = correlationID then .ok ref
          else .error (.collision pool.name
            [.lit "claim ", .str ref.name, .lit " already held by correlation id ", .quoted existing.correlationID])

def createClaim (claims : Claims) (pool : Pool) (correlationID : String) (parts : List String)
    (answers : CreateAnswers) : Claims × Except KuidError ClaimRef :=
  let ref : ClaimRef := ⟨pool, claimName pool correlationID parts⟩
  match answers.create with
  | .serve result =>
      match claims.find ref with
      | none => (claims ++ [{ ref, correlationID, spec := claimSpec pool, result }], .ok ref)
      | some _ => (claims, existingHolder claims pool ref correlationID answers.get)
  | .fail err =>
      if isExists err then (claims, existingHolder claims pool ref correlationID answers.get)
      else (claims, .error (classify pool.name err))

def createServiceIDClaim (claims : Claims) (correlationID : String) (answers : CreateAnswers) :
    Claims × Except KuidError ClaimRef :=
  createClaim claims serviceIDPool correlationID [] answers

def createClientPrefixClaim (claims : Claims) (correlationID attachment : String) (answers : CreateAnswers) :
    Claims × Except KuidError ClaimRef :=
  createClaim claims clientV4Pool correlationID [attachment] answers

/- WaitForClaim polls until the value is in the status; `ready` says whether that
   happens before the deadline. -/
def waitForClaim (claims : Claims) (ref : ClaimRef) (ready : Bool) : Except KuidError ClaimResult :=
  match claims.find ref with
  | none => .error (.timeout ref.pool.name ref.name)
  | some claim => if ready then .ok claim.result else .error (.timeout ref.pool.name ref.name)

def reserveName (pool : Pool) (value : Int) : String := sanitize (pool.name ++ "-reserve-value-" ++ toString value)

def reserveValue (claims : Claims) (pool : Pool) (correlationID : String) (value : Int) (answers : CreateAnswers) :
    Claims × Except KuidError ClaimRef :=
  let ref : ClaimRef := ⟨pool, reserveName pool value⟩
  if value ≤ 0 then (claims, .error (.other [.lit "reserve: value must be positive, got ", .int value]))
  else if correlationID = "" then (claims, .error (.other [.lit "reserve: correlation id must not be empty"]))
  else
    let holder : Except KuidError ClaimRef :=
      match answers.get, claims.find ref with
      | .fail err, _ => .error (classify pool.name err)
      | .hidden, _ | .shown, none => .error (.other [.str "not found"])
      | .shown, some existing =>
          if existing.correlationID = correlationID then .ok ref
          else .error (.collision pool.name [.lit "value ", .int value, .lit " of pool ", .str pool.name,
            .lit " already held by correlation id ", .quoted existing.correlationID])
    match answers.create with
    | .serve result =>
        match claims.find ref with
        | none =>
            (claims ++ [{ ref, correlationID, spec := { index := pool.name, id := some value }, result }], .ok ref)
        | some _ => (claims, holder)
    | .fail err => if err.alreadyExists then (claims, holder) else (claims, .error (classify pool.name err))

def reserveVLAN (claims : Claims) (correlationID : String) (vlan : Int) (answers : CreateAnswers) :
    Claims × Except KuidError ClaimRef :=
  if vlan < 1 ∨ vlan > 4094 then (claims, .error (.other [.lit "reserve: vlan ", .int vlan, .lit " outside 1..4094"]))
  else reserveValue claims vlanPool correlationID vlan answers

end AgenticNetops.Kuid
