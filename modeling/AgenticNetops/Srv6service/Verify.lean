import AgenticNetops.Srv6service.Apply

set_option autoImplicit false

/- The reading stages: verify (verify.go), the path a steered service rides
   (path.go) and the first-activation probe (datapath.go). -/
namespace AgenticNetops.Srv6service

open GoText Api Fabricplan NetIP

structure CheckResult where
  check : String
  ok : Bool
  actual : String := ""
  error : String := ""
deriving DecidableEq, Repr

-- One verify call: the results it returns, or the error it fails with.
abbrev VerifyAnswer := Except String (List CheckResult)

-- Which of the three verifications of a pass a call belongs to.
inductive VerifyStage where
  | update
  | main
  | repair
deriving DecidableEq, Repr

structure VerifyAnswers where
  locator : VerifyStage → String → VerifyAnswer
  checks : VerifyStage → String → VerifyAnswer
  path : String → VerifyAnswer
  probe : String → VerifyAnswer

def locatorCheck (node locator : String) : Check where
  type := .redisHget
  redisKey := "SRV6_MY_LOCATORS|loc-" ++ node
  redisField := "prefix"
  expect := trimSuffix locator "/48"

def checkOK (results : List CheckResult) (i : Nat) : Bool := (results[i]?.map CheckResult.ok).getD false

def checkName (results : List CheckResult) (i : Nat) : String :=
  match results[i]? with
  | some result => if result.check ≠ "" then result.check else "checks[" ++ toString i ++ "]"
  | none => "checks[" ++ toString i ++ "]"

-- head bounds s to at most n runes plus an ellipsis.
def head (s : String) (n : Nat) : String :=
  if s.toList.length ≤ n then s else String.ofList (s.toList.take n ++ ['…'])

def describeCheck (c : Check) : Message :=
  if c.command ≠ "" then [.lit "command ", .quoted (head c.command 48)]
  else if c.redisKey ≠ "" ∧ c.redisField ≠ "" then
    [.lit "redis-hget ", .str c.redisKey, .lit "|", .str c.redisField]
  else if c.redisKey ≠ "" then [.str c.type.text, .lit " ", .str c.redisKey]
  else if c.iface ≠ "" ∧ c.addr ≠ "" then [.lit "ip-addr ", .str c.iface, .lit " carries ", .str c.addr]
  else if c.iface ≠ "" ∧ c.master ≠ "" then [.lit "ip-master ", .str c.iface, .lit " enslaved to ", .str c.master]
  else if c.iface ≠ "" ∧ c.vid ≠ 0 then [.lit "bridge-vid ", .str c.iface, .lit " vid ", .int c.vid]
  else if c.path ≠ "" then [.lit "file-contains ", .str c.path]
  else if c.probeFrom ≠ "" then [.lit "probe-ping ", .str c.probeFrom, .lit " to ", .str c.probeTo]
  else if c.onClient ≠ "" then [.lit "client-addressing ", .str c.onClient]
  else [.lit "check ", .str c.type.text]

def checkDisplayName (executorName : String) (c : Check) : Message :=
  if executorName ≠ "" ∧ ¬ hasPrefix executorName "checks[" then [.str executorName]
  else if executorName = "" then describeCheck c
  else [.str executorName, .lit " ("] ++ describeCheck c ++ [.lit ")"]

def checkDetail (results : List CheckResult) (i : Nat) : Message :=
  match results[i]? with
  | none => [.lit "no result"]
  | some result =>
      if result.error ≠ "" then [.str result.error]
      else if result.actual ≠ "" then [.lit "observed: ", .str result.actual]
      else [.lit "check did not pass"]

structure VerifyResult where
  verified : Bool := false
  failedCheck : Message := []
  err : Option String := none
  refusal : Option Refusal := none

def verifyNode (answers : VerifyAnswers) (stage : VerifyStage) (node : String) (checks : List Check)
    (locator : String) : VerifyResult :=
  match answers.locator stage node with
  | .error err => { err := some err }
  | .ok locRes =>
      if ¬ checkOK locRes 0 then
        { refusal := some ⟨.locatorMissing, [.lit "bootstrap locator ", .str locator,
            .lit " is absent or changed on node ", .str node,
            .lit "; locators are bootstrap-owned and are never written by this controller"], .locator⟩ }
      else if checks = [] then { verified := true }
      else
        match answers.checks stage node with
        | .error err => { err := some err }
        | .ok res =>
            match (List.range checks.length).find? fun i => ¬ checkOK res i with
            | none => { verified := true }
            | some i =>
                let name := checkDisplayName (checkName res i) (checks[i]?.getD { type := .command })
                { failedCheck := name,
                  refusal := some ⟨.checkFailed, [.lit "check "] ++ name ++ [.lit " failed on node ", .str node, .lit ": "] ++
                    checkDetail res i, .check⟩ }

def verifyPlan (answers : VerifyAnswers) (stage : VerifyStage) (plan : SRv6Plan) (locators : GoMap String) :
    List String → List NodeStatus × Option Refusal
  | [] => ([], none)
  | node :: rest =>
      let res := verifyNode answers stage node (planNode plan node).checks (locators.text node)
      let status : NodeStatus := { node, verified := res.verified, failedCheck := res.failedCheck }
      match res.err, res.refusal with
      | some err, _ =>
          ([status], some ⟨.checkFailed, [.lit "verify on node ", .str node, .lit " failed: ", .str err], .check⟩)
      | none, some refusal => ([status], some refusal)
      | none, none =>
          let (nodes, refusal) := verifyPlan answers stage plan locators rest
          (status :: nodes, refusal)

structure PathObservation where
  active : String := ""
  via : String := ""
  down : Bool := false
deriving DecidableEq, Repr

structure PathView where
  node : String
  peerFn : String
  legs : GoMap String

def steeredPathView (spec : SRv6ServiceSpec) (order : List String) (sids : GoMap String)
    (spineLinks : GoMap (GoMap String)) : Option PathView :=
  if spec.path.preferredSpine = "" then none
  else
    match order with
    | [ingress, peer] =>
        let legs := (spineLinks.get? ingress).getD []
        if sids.text peer = "" ∨ legs = [] then none
        else some ⟨ingress, trimSuffix (sids.text peer) "/64", legs⟩
    | _ => none

def viaAddress (line : String) : Option String :=
  let rec after : List String → Option String
    | "via" :: addr :: _ => some addr
    | _ :: rest => after rest
    | [] => none
  after ((splitFields line.toList).map String.ofList)
where
  -- strings.Fields
  splitFields (chars : List Char) : List (List Char) :=
    (chars.splitBy fun a b => isSpace a = isSpace b).filter fun field => ¬ field.all isSpace

def readPathTable (table : String) (view : PathView) : PathObservation :=
  let pins := (split table '\n').filter fun line => hasPrefix line (view.peerFn ++ " ")
  match pins.findSome? viaAddress with
  | none => { down := true }
  | some via =>
      match view.legs.find? fun leg => leg.2 ≠ "" ∧ leg.2 = via with
      | some (spine, _) => { active := spine, via }
      | none => { via, down := true }

def observePath (answers : VerifyAnswers) (view : PathView) : Except String PathObservation :=
  match answers.path view.node with
  | .error err => .error err
  | .ok results => .ok (readPathTable ((results.head?.map CheckResult.actual).getD "") view)

def pathDownRefusal (view : PathView) (o : PathObservation) : Refusal :=
  let missing := view.legs.sortedKeys.map fun spine =>
    "no route to " ++ view.peerFn ++ " via " ++ spine ++ " (" ++ view.legs.text spine ++ ")"
  let detail :=
    if o.via ≠ "" then "; the pin's via address " ++ o.via ++ " matches no spine of this site" else ""
  ⟨.pathDown, [.lit "path down on node ", .str view.node, .lit ": ", .str (join missing ", "),
    .lit " — preferred and alternate paths are both unusable", .str detail], .path⟩

structure SteerPath where
  activePath : String := ""
  refusal : Option Refusal := none
  skipRepair : Bool := false

def steerPathOutcome (spec : SRv6ServiceSpec) (view : Option PathView) (o : PathObservation)
    (vref : Option Refusal) : SteerPath :=
  match view with
  | none => {}
  | some view =>
      if o.down then { refusal := some (pathDownRefusal view o) }
      else
        { activePath := o.active,
          skipRepair := (vref.any fun ref => ref.kind = .check) && o.active ≠ "" && o.active ≠ spec.path.preferredSpine }

def probeSize : Nat := 8900
def probeCount : Nat := 3
def probeHostByte : Nat := 2

/- clientAddr takes the first four octets of any prefix. As4 panics on an IPv6
   address; the claimed prefixes are IPv4. -/
def clientAddr (pfx : String) : Except Message String :=
  match parsePrefix pfx with
  | .error message => .error ([.lit "client prefix ", .quoted pfx, .lit ": "] ++ message)
  | .ok ⟨.v4 octets, bits⟩ =>
      let masked := (octets.zipIdx.map fun (octet, i) =>
        let kept := min 8 (bits - 8 * i)
        octet / 2 ^ (8 - kept) * 2 ^ (8 - kept))
      .ok (octetsText (masked.take 3 ++ [probeHostByte]))
  | .ok _ => .error [.lit "As4 called on IPv6 address"]

def dataPathCheck (spec : SRv6ServiceSpec) (alloc : Allocation) : Except Message Check :=
  match spec.attachments with
  | a0 :: a1 :: _ =>
      match clientAddr (alloc.allocations.clientPrefixes.text a1.node) with
      | .error message => .error message
      | .ok peer =>
          .ok { type := .probePing, probeFrom := a0.node ++ "/" ++ a0.port, probeTo := a1.node ++ "/" ++ a1.port,
                addr := peer, size := probeSize, count := probeCount }
  | _ => .error [.lit "index out of range"]

inductive ProbeOutcome where
  | transport (err : Message)
  | verdict (passed : Bool) (detail : Message)

def runDataPath (answers : VerifyAnswers) (spec : SRv6ServiceSpec) (alloc : Allocation) : ProbeOutcome :=
  match dataPathCheck spec alloc with
  | .error message => .transport message
  | .ok chk =>
      match answers.probe ((spec.attachments.head?.map Attachment.node).getD "") with
      | .error err => .transport [.str err]
      | .ok [] => .verdict false [.lit "probe produced no result"]
      | .ok (r :: _) =>
          let ends : Message := [.lit "probe ", .str chk.probeFrom, .lit " -> ", .str chk.addr]
          if r.ok then
            .verdict true (ends ++ [.lit " (", .int probeSize, .lit " bytes x", .int probeCount, .lit ", DF): pass"])
          else
            let detail := if r.error ≠ "" then r.error else if r.actual ≠ "" then r.actual else "no echoes received"
            .verdict false (ends ++ [.lit " failed: ", .str detail])

def dataPathRefusal (detail : Message) : Refusal := ⟨.dataPathFailed, detail, .dataPath⟩

def dataPathPassed (status : SRv6ServiceStatus) : Bool :=
  status.dataPath.any fun dataPath => dataPath.checkedAt.isSome

end AgenticNetops.Srv6service
