import AgenticNetops.Lib.Exits
import AgenticNetops.Lib.GoText

set_option autoImplicit false

/- agents/provisioning/allocator/kuid.py: the allocation client. The claim server and
   the lease server are one store of objects; an `Answer` says how a request to them
   goes. A request that breaks off (an httpx error) may have been carried out. -/
namespace AgenticNetops.Provisioning

open GoText Exits

def l2vniIndex : String := "evpn-vni"
def l3vniIndex : String := "evpn-vni"
def vlanIndex : String := "fabric-vlan"
def extcommIndex : String := "rt-index"
def fabricASN : String := "65000"
def clientV4Pool : String := "srv6-client-v4"

-- What the status of a served claim reports: the number `_claim_id` reads, or the prefix.
inductive ClaimStatus where
  | id (value : Option Int)
  | pfx (text : String)
deriving DecidableEq, Repr

structure Claim where
  plural : String
  name : String
  index : String
  correlationID : String
  status : ClaimStatus
deriving DecidableEq, Repr

structure Lease where
  name : String
  kind : String
  pool : String
  correlationID : String
  allocatedID : Option Int
deriving DecidableEq, Repr

structure Store where
  claims : List Claim := []
  leases : List Lease := []
deriving DecidableEq, Repr

def Store.find (store : Store) (plural name : String) : Option Claim :=
  store.claims.find? fun claim => claim.plural = plural ∧ claim.name = name

def Store.addClaim (claim : Claim) (store : Store) : Store := { store with claims := store.claims ++ [claim] }

def Store.addLease (lease : Lease) (store : Store) : Store := { store with leases := store.leases ++ [lease] }

-- How a failed call ends: KUIDAPIError and its two kinds, an httpx error, a ValueError.
inductive Failure where
  | collision (text : Message)
  | exhaustion (text : Message)
  | api (text : Message)
  | transport
  | value (text : Message)
  | invalid
deriving DecidableEq, Repr

inductive Answer (α : Type) where
  | served (value : α)
  | refused (statusCode : Nat) (bodyText : String)
  | broken (carriedOut : Option α)
deriving DecidableEq, Repr

inductive WaitAnswer where
  | ready
  | refused (statusCode : Nat) (bodyText : String)
  | timeout
  | broken
deriving DecidableEq, Repr

abbrev Client (α : Type) : Type := Prog Store Failure α

def classifyHttpError (statusCode : Nat) (bodyText : String) : Failure :=
  let low := toLower bodyText
  if statusCode = 409 ∧ (contains low "already exists" ∨ contains low "conflict") then .collision [.str bodyText]
  else if statusCode ∈ [409, 422, 429] ∧ (contains low "exhaust" ∨ contains low "no available") then
    .exhaustion [.str bodyText]
  else .api [.lit "kuid api error ", .int statusCode, .lit ": ", .str (String.ofList (bodyText.toList.take 300))]

def taken (plural name : String) : Message := [.str plural, .lit " ", .quoted name, .lit " already exists"]

-- The server refuses a name that exists with 409 and stores nothing.
def createClaim (plural index name correlationID : String) (answer : Answer ClaimStatus) : Client Unit := do
  let store ← read
  match answer with
  | .served status =>
      match store.find plural name with
      | some _ => leave (.collision (taken plural name))
      | none => change (Store.addClaim ⟨plural, name, index, correlationID, status⟩)
  | .refused statusCode bodyText => leave (classifyHttpError statusCode bodyText)
  | .broken none => leave .transport
  | .broken (some status) =>
      match store.find plural name with
      | some _ => leave .transport
      | none => do
          change (Store.addClaim ⟨plural, name, index, correlationID, status⟩)
          leave .transport

def WaitAnswer.failure (name : String) : WaitAnswer → Option Failure
  | .ready => none
  | .refused statusCode bodyText => some (classifyHttpError statusCode bodyText)
  | .timeout => some (.api [.lit "claim ", .str name, .lit " did not become ready"])
  | .broken => some .transport

def waitForClaim (plural name : String) (answer : WaitAnswer) : Client Claim := do
  let store ← read
  match answer.failure name with
  | some failure => leave failure
  | none =>
      match store.find plural name with
      | some claim => pure claim
      | none => leave (classifyHttpError 404 "not found")

def claimID (claim : Claim) (what : String) : Client Int :=
  match claim.status with
  | .id (some value) => pure value
  | _ => leave (.api [.str what, .lit " claim has no numeric id"])

def isLabelChar (c : Char) : Bool :=
  ('A' ≤ c && c ≤ 'Z') || ('a' ≤ c && c ≤ 'z') || ('0' ≤ c && c ≤ '9') || c = '_' || c = '.' || c = '-'

-- re.sub(r"[^A-Za-z0-9_.-]+", "-", value)
def foldOthers : Bool → List Char → List Char
  | _, [] => []
  | inRun, c :: rest =>
      if isLabelChar c then c :: foldOthers false rest
      else if inRun then foldOthers true rest
      else '-' :: foldOthers true rest

def isEdge (c : Char) : Bool := c = '-' || c = '.'

def labelValue (value : String) : String :=
  match trimChars isEdge ((foldOthers false value.toList).take 63) with
  | [] => "default"
  | text => String.ofList text

def claimName (pool correlationID : String) (parts : List String) : String :=
  let name := join ([pool, "claim", correlationID] ++ parts) "-"
  if name.toList.length > 63 then String.ofList (trimChars isEdge (name.toList.take 63)) else name

section Numbers

def fallbackLeaseName (kind index : String) (value : Int) : String :=
  toLower (labelValue ("agentic-netops-" ++ kind ++ "-" ++ index)) ++ "-" ++ toString value

def fallbackLease (kind index : String) (value : Int) (correlationID : String) : Lease where
  name := fallbackLeaseName kind index value
  kind := labelValue kind
  pool := labelValue index
  correlationID := correlationID
  allocatedID := some value

-- The answers to the list and to the create of each value, round by round.
structure LeaseAnswers where
  list : Nat → Answer Unit := fun _ => .served ()
  create : Nat → Int → Answer Unit := fun _ _ => .served ()

def usedIDs (leases : List Lease) (index : String) : List Int :=
  (leases.filter fun lease => lease.pool = labelValue index).filterMap Lease.allocatedID

def values (first last : Nat) : List Int := (List.range (last + 1 - first)).map fun step => ((first + step : Nat) : Int)

-- One walk over the values not in use. A 409 means that another has the value.
def createFreeLease (kind index correlationID : String) (answer : Int → Answer Unit) : List Int → Client (Option Int)
  | [] => pure none
  | value :: rest => do
      let store ← read
      let add : Client Unit := change (Store.addLease (fallbackLease kind index value correlationID))
      let isTaken := store.leases.any fun lease => lease.name = fallbackLeaseName kind index value
      match answer value with
      | .served () =>
          if isTaken then createFreeLease kind index correlationID answer rest
          else do
            add
            pure (some value)
      | .refused statusCode bodyText =>
          if statusCode = 409 then createFreeLease kind index correlationID answer rest
          else leave (classifyHttpError statusCode bodyText)
      | .broken none => leave .transport
      | .broken (some ()) =>
          if isTaken then leave .transport
          else do
            add
            leave .transport

def listLeases (answer : Answer Unit) : Client Unit :=
  match answer with
  | .served () => pure ()
  | .refused statusCode bodyText => leave (classifyHttpError statusCode bodyText)
  | .broken _ => leave .transport

def fallbackRounds (kind index correlationID : String) (first last : Nat) (answers : LeaseAnswers) :
    List Nat → Client Int
  | [] => leave (.exhaustion [.lit "no available ", .str kind, .lit " ids in ", .str index, .lit " (", .int first,
      .lit "-", .int last, .lit ")"])
  | round :: later => do
      listLeases (answers.list round)
      let store ← read
      let free := (values first last).filter fun value => value ∉ usedIDs store.leases index
      match ← createFreeLease kind index correlationID (answers.create round) free with
      | some value => pure value
      | none => fallbackRounds kind index correlationID first last answers later

def allocateFallbackLease (kind index correlationID : String) (first last : Nat) (answers : LeaseAnswers) :
    Client Int :=
  fallbackRounds kind index correlationID first last answers [0, 1, 2, 3]

-- The answers one number is allocated with; `uuid` is the random part of the claim's name.
structure NumberAnswers where
  uuid : String
  create : Answer (Option Int)
  wait : WaitAnswer := .ready
  lease : LeaseAnswers := {}

def Answer.map {α β : Type} (f : α → β) : Answer α → Answer β
  | .served value => .served (f value)
  | .refused statusCode bodyText => .refused statusCode bodyText
  | .broken carriedOut => .broken (carriedOut.map f)

variable (fallback : Bool)

-- `_allocate_genid`, `_allocate_vlan` and `_allocate_extcomm` differ in the resource.
def claimNumber (plural index what correlationID : String) (answers : NumberAnswers) : Client Int := do
  let name := "claim-" ++ answers.uuid
  createClaim plural index name correlationID (answers.create.map ClaimStatus.id)
  let claim ← waitForClaim plural name answers.wait
  claimID claim what

-- `except KUIDCollisionError, KUIDExhaustionError: raise`, then `except KUIDAPIError`.
def withLeaseFallback (what index : String) (first last : Nat) (correlationID : String) (answers : LeaseAnswers)
    (allocate : Client Int) : Client Int := fun store =>
  match allocate store with
  | (store', .error (.api text)) =>
      if fallback then allocateFallbackLease what index correlationID first last answers store'
      else (store', .error (.api text))
  | outcome => outcome

def allocateL2VNI (correlationID : String) (answers : NumberAnswers) : Client Int :=
  withLeaseFallback fallback "l2vni" l2vniIndex 10000 20000 correlationID answers.lease
    (claimNumber "genidclaims" l2vniIndex "l2vni" correlationID answers)

def allocateL3VNI (correlationID : String) (answers : NumberAnswers) : Client Int :=
  withLeaseFallback fallback "l3vni" l3vniIndex 10000 14094 correlationID answers.lease
    (claimNumber "genidclaims" l3vniIndex "l3vni" correlationID answers)

def allocateVLAN (correlationID : String) (answers : NumberAnswers) : Client Int :=
  withLeaseFallback fallback "vlan" vlanIndex 100 4000 correlationID answers.lease
    (claimNumber "vlanclaims" vlanIndex "vlan" correlationID answers)

-- `allocate_rd_rt` up to the number that the RD and the targets are written with.
def allocateRT (correlationID : String) (answers : NumberAnswers) : Client Int :=
  withLeaseFallback fallback "rt" extcommIndex 1 65535 correlationID answers.lease
    (claimNumber "extcommclaims" extcommIndex "rt" correlationID answers)

end Numbers

section ClientPrefixes

structure PrefixAnswers where
  get : Answer Unit := .served ()
  create : Answer String
  wait : WaitAnswer := .ready

def createPrefixClaim (name correlationID : String) (answers : PrefixAnswers) : Client Unit :=
  createClaim "ipclaims" clientV4Pool name correlationID (answers.create.map ClaimStatus.pfx)

-- The claim of that name: created where there is none, reused where it is ours.
def ensurePrefixClaim (name correlationID : String) (answers : PrefixAnswers) : Client Unit := do
  let store ← read
  match answers.get with
  | .served () =>
      match store.find "ipclaims" name with
      | none => createPrefixClaim name correlationID answers
      | some held =>
          if held.correlationID = correlationID then pure ()
          else leave (.collision [.lit "claim ", .str name, .lit " already held by correlation id ",
            .quoted held.correlationID])
  | .refused statusCode bodyText =>
      if statusCode = 404 then createPrefixClaim name correlationID answers
      else leave (classifyHttpError statusCode bodyText)
  | .broken _ => leave .transport

def claimPrefix (claim : Claim) : Client String :=
  match claim.status with
  | .pfx text =>
      if text = "" then leave (.api [.lit "claim ", .str claim.name, .lit " reported ready without an allocated prefix"])
      else pure text
  | .id _ => leave (.api [.lit "claim ", .str claim.name, .lit " reported ready without an allocated prefix"])

def allocateClientPrefix (correlationID attachment : String) (answers : PrefixAnswers) : Client String := do
  let name := claimName clientV4Pool correlationID [attachment]
  ensurePrefixClaim name correlationID answers
  let final ← waitForClaim "ipclaims" name answers.wait
  claimPrefix final

end ClientPrefixes

/- `release_by_correlation` deletes what carries the correlation id, best effort:
   `spared` says which objects stay because their list or their delete failed. -/
inductive StoredObject where
  | claim (plural name : String)
  | lease (name : String)
deriving DecidableEq, Repr

def releaseByCorrelation (fallback : Bool) (correlationID : String) (spared : StoredObject → Bool) (store : Store) :
    Store where
  claims := store.claims.filter fun claim => claim.correlationID ≠ correlationID ∨ spared (.claim claim.plural claim.name)
  leases := store.leases.filter fun lease =>
    ¬ fallback ∨ lease.correlationID ≠ correlationID ∨ spared (.lease lease.name)

end AgenticNetops.Provisioning
