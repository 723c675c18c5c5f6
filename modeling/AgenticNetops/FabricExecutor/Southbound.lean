import AgenticNetops.FabricExecutor.Apply
import AgenticNetops.FabricExecutor.GcuPromotion
import AgenticNetops.FabricExecutor.TextChecks
import AgenticNetops.Lib.Exits

set_option autoImplicit false

/- cmd/fabric-executor down to its commands: how the server starts (main.go, config.go,
   probe.go), and what its handlers run over which transport (main.go, profile.go,
   probe_docker.go). What a command prints is the environment's; every command that is run
   is kept with its answer. -/
namespace AgenticNetops.FabricExecutor.Southbound

open GoText JsonValue Fabricplan Exits

section Start

structure TransportSpec where
  kind : String
  addr : String := ""
  user : String := ""
deriving DecidableEq, Repr

structure FileInfo where
  isDir : Bool := false
  perm : Nat
deriving DecidableEq, Repr

-- An environment variable that holds JSON.
inductive Decoded (α : Type) where
  | unset
  | invalid (reason : String)
  | value (decoded : α)

structure Environment where
  nodeMap : Decoded (GoMap String)
  nodeTransport : Decoded (GoMap TransportSpec) := .unset
  probeMap : Decoded (GoMap String) := .unset
  getenv : String → String := fun _ => ""
  stat : String → Except String FileInfo := fun _ => .error "no such file or directory"

structure TransportConfig where
  specs : GoMap TransportSpec := []
  sshKey : String := ""
  knownHosts : String := ""
deriving DecidableEq, Repr

variable (env : Environment)

def envSSHKey : String := "FABRIC_SSH_KEY"
def envKnownHosts : String := "FABRIC_SSH_KNOWN_HOSTS"

def require0600 (envName : String) : Except Message String :=
  let path := trimSpace (env.getenv envName)
  if path = "" then .error [.str envName, .lit " is required when any node uses the ssh transport"]
  else
    match env.stat path with
    | .error reason => .error [.str envName, .lit " (", .str path, .lit "): ", .str reason]
    | .ok info =>
        if info.isDir then .error [.str envName, .lit " (", .str path, .lit ") is a directory"]
        else if info.perm &&& 0o077 ≠ 0 then
          .error [.str envName, .lit " (", .str path, .lit ") must have mode 0600, got ",
            .str (String.ofList (Nat.toDigits 8 info.perm))]
        else .ok path

-- One declaration of FABRIC_NODE_TRANSPORT.
def declared (nodeMap : GoMap String) (decl : String × TransportSpec) : Except Message (String × TransportSpec) :=
  let (node, sp) := decl
  if nodeMap.get? node = none then
    .error [.lit "node ", .quoted node, .lit " in FABRIC_NODE_TRANSPORT but not in FABRIC_NODE_MAP"]
  else if sp.kind ≠ "docker" ∧ sp.kind ≠ "ssh" then
    .error [.lit "node ", .quoted node, .lit ": unknown transport kind ", .quoted sp.kind, .lit " (want docker or ssh)"]
  else if sp.kind = "ssh" ∧ trimSpace sp.addr = "" then
    .error [.lit "node ", .quoted node, .lit ": ssh transport requires addr"]
  else if sp.kind = "ssh" ∧ trimSpace sp.user = "" then .ok (node, { sp with user := "admin" })
  else .ok (node, sp)

def TransportConfig.anySSH (specs : GoMap TransportSpec) : Bool := specs.any fun entry => entry.2.kind = "ssh"

def loadTransportConfig (nodeMap : GoMap String) : Except Message TransportConfig :=
  match env.nodeTransport with
  | .unset => .ok {}
  | .invalid reason => .error [.lit "FABRIC_NODE_TRANSPORT invalid: ", .str reason]
  | .value decls => do
      let specs ← decls.mapM (declared nodeMap)
      if TransportConfig.anySSH specs then do
        let sshKey ← require0600 env envSSHKey
        let knownHosts ← require0600 env envKnownHosts
        return { specs, sshKey, knownHosts }
      else return { specs }

structure Server where
  nodeMap : GoMap String
  config : TransportConfig
  probeHosts : GoMap String
deriving DecidableEq, Repr

-- main, up to the listener.
def start : Except Message Server :=
  match env.nodeMap with
  | .unset => .error [.lit "FABRIC_NODE_MAP is required"]
  | .invalid reason => .error [.lit "FABRIC_NODE_MAP invalid: ", .str reason]
  | .value nodeMap =>
      match loadTransportConfig env nodeMap with
      | .error reason => .error ([.lit "transport config refused: "] ++ reason)
      | .ok config =>
          match env.probeMap with
          | .unset => .ok { nodeMap, config, probeHosts := [] }
          | .invalid reason => .error [.lit "FABRIC_PROBE_MAP invalid: ", .str reason]
          | .value probeHosts => .ok { nodeMap, config, probeHosts }

end Start

section Transports

inductive Transport where
  | docker (container : String)
  | ssh (node : String) (spec : TransportSpec) (keyPath knownHosts : String)
deriving DecidableEq, Repr

def Transport.kind : Transport → String
  | .docker _ => "docker"
  | .ssh .. => "ssh"

-- The transport that main sets up for a node.
def Server.transport (server : Server) (node : String) : Transport :=
  match server.config.specs.get? node with
  | none => .docker (server.nodeMap.text node)
  | some sp =>
      if sp.kind = "ssh" then .ssh node sp server.config.sshKey server.config.knownHosts
      else .docker (server.nodeMap.text node)

structure Profile where
  privileged : Bool := false
  frrConfPath : String
deriving DecidableEq, Repr

def profileFor (kind : String) : Profile :=
  if kind = "ssh" then { privileged := true, frrConfPath := "/etc/sonic/frr/bgpd.conf" } else { frrConfPath := "/etc/frr/bgpd.conf" }

abbrev Argv := List Message

def wrapPrivilege (argv : Argv) (p : Profile) : Argv := if p.privileged then [[.lit "sudo"], [.lit "-n"]] ++ argv else argv

def bash (command : Message) : Argv := [[.lit "bash"], [.lit "-c"], command]

def sh (command : Message) : Argv := [[.lit "sh"], [.lit "-c"], command]

structure Execution where
  transport : Transport
  argv : Argv
  stdin : Option (List PatchStep) := none
deriving DecidableEq, Repr

structure ExecAnswer where
  out : String := ""
  stderr : String := ""
  err : Option String := none
deriving DecidableEq, Repr

abbrev Ran := List (Execution × ExecAnswer)

/- Where the server runs: what the commands answer, by what has run before, and the texts
   that are computed with libraries (SHA-256, base64) or are the fixed GCU script. -/
structure Host where
  answer : Ran → Execution → ExecAnswer
  sum : String → List UInt8
  base64 : String → String
  gcuScript : String

abbrev ExecM (ε α : Type) := Prog Ran ε α

variable {ε : Type} (host : Host) (server : Server)

def exec (e : Execution) : ExecM ε ExecAnswer := fun ran => (ran ++ [(e, host.answer ran e)], .ok (host.answer ran e))

def execNode (node : String) (argv : Argv) (stdin : Option (List PatchStep)) : ExecM ε ExecAnswer :=
  let t := server.transport node
  exec host { transport := t, argv := wrapPrivilege argv (profileFor t.kind), stdin }

-- A command in a probe client container.
def execClient (container : String) (argv : Argv) : ExecM ε ExecAnswer := exec host { transport := .docker container, argv }

def probeHost (attachment : String) : Except Message String :=
  match server.probeHosts.get? attachment with
  | none | some "" => .error [.lit "no probe host for ", .str attachment]
  | some container => .ok container

def pingArgv (addr : String) (size count : Nat) : Argv :=
  [[.lit "ping"], [.lit "-c"], [.int count], [.lit "-W"], [.lit "3"], [.lit "-s"], [.int size], [.lit "-M"], [.lit "do"], [.str addr]]

-- What the early returns of a program and its end have in common.
def settle {α : Type} (program : ExecM α α) : ExecM ε α := fun ran =>
  match program ran with
  | (ran', .ok value) => (ran', .ok value)
  | (ran', .error value) => (ran', .ok value)

end Transports

section Apply

structure ApplyOp where
  gcu : List PatchStep := []
  redis : List Message := []
  shell : List Message := []
  vtysh : List String := []
  frrConf : List String := []
  onClient : String := ""
deriving DecidableEq, Repr

structure OpResult where
  kind : String := ""
  ok : Bool
  output : Message := []
  error : Message := []
deriving DecidableEq, Repr

-- strings.ReplaceAll of line breaks, inside the arguments too.
def oneLine (command : Message) : Message :=
  command.map fun piece =>
    match piece with
    | .lit text => .lit (replaceAll text '\n' " ")
    | .str value => .str (replaceAll value '\n' " ")
    | other => other

def shellLog (command : Message) (said : ExecAnswer) : Message :=
  [.lit "> "] ++ oneLine command ++ [.lit "\n", .str (trimSpace said.out)] ++
    (if trimSpace said.stderr ≠ "" then [.lit "\n[stderr] ", .str (trimSpace said.stderr)] else []) ++ [.lit "\n"]

variable {ε : Type} (host : Host) (server : Server)

-- The loop of applyShell and applyClient; the first command that fails ends it.
def runCommands (run : Message → ExecM ε ExecAnswer) : Message → List Message → ExecM ε OpResult
  | log, [] => pure { ok := true, output := log }
  | log, command :: rest => do
      let said ← run command
      let log := log ++ shellLog command said
      match said.err with
      | some err => pure { ok := false, error := [.str err], output := log }
      | none => runCommands run log rest

def applyShell (node : String) (commands : List Message) : ExecM ε OpResult :=
  runCommands (fun command => execNode host server node (bash command) none) [] commands

def applyClient (op : ApplyOp) : ExecM ε OpResult :=
  match probeHost server op.onClient with
  | .error reason => pure { ok := false, error := reason }
  | .ok container =>
      if op.shell = [] then
        pure { ok := false, error := [.lit "client op for ", .quoted op.onClient, .lit " must carry shell commands"] }
      else runCommands (fun command => execClient host container (sh command)) [] op.shell

def tableCheck (table : String) : Message := [.lit "redis-cli -n 4 --scan --pattern '", .str table, .lit "|*' | head -n1"]

-- The first table that a step adds to and that has no key.
def missingTable (node : String) : List PatchStep → ExecM OpResult (Option String)
  | [] => pure none
  | step :: rest =>
      match parentTable step with
      | none => missingTable node rest
      | some table => do
          let said ← execNode host server node (bash (tableCheck table)) none
          match said.err with
          | some err =>
              leave { ok := false, error := [.lit "table existence check ", .quoted table, .lit ": ", .str err], output := [.str said.out] }
          | none => if trimSpace said.out ≠ "" then missingTable node rest else pure (some table)

def promoteTable (table : String) (patch : List PatchStep) : List PatchStep :=
  { op := "add", path := "/" ++ table, value := some (.obj (wholeTable table patch)) } ::
    patch.filter fun step => !belowTable table step

def gcuCommand : Message :=
  [.lit "echo ", .str host.gcuScript, .lit " | base64 -d > /tmp/fx-gcu.py && python3 /tmp/fx-gcu.py"]

def endResult (said : ExecAnswer) : OpResult :=
  match said.err with
  | some err => { ok := false, error := [.str err], output := [.str said.out, .str said.stderr] }
  | none => { ok := true, output := [.str (trimSpace said.out)] }

def applyGCU (node : String) (patch : List PatchStep) : ExecM OpResult OpResult := do
  let missing ← missingTable host server node patch
  let submitted := match missing with
    | none => patch
    | some table => promoteTable table patch
  let said ← execNode host server node (bash (gcuCommand host)) (some submitted)
  return endResult said

def vtyshArgv (commands : List String) : Argv := [.lit "vtysh"] :: commands.flatMap fun command => [[.lit "-c"], [.str command]]

def applyVTYSh (node : String) (commands : List String) : ExecM ε OpResult := do
  let said ← execNode host server node (vtyshArgv commands) none
  return endResult said

def frrCommand (path block : String) : Message :=
  let mark := marker host.sum block
  [.lit "grep -qF ", .quoted mark, .lit " ", .str path, .lit " 2>/dev/null || \x7b echo ", .str (host.base64 (mark ++ "\n" ++ block)),
    .lit " | base64 -d >> ", .str path, .lit "; printf '\\n!\\n' >> ", .str path, .lit "; echo appended; \x7d"]

def applyFRRConf (node : String) (lines : List String) : ExecM ε OpResult := do
  let path := (profileFor (server.transport node).kind).frrConfPath
  let said ← execNode host server node (bash (frrCommand host path (join lines "\n"))) none
  return endResult said

-- Plan Redis ops are arguments of redis-cli.
def redisCommand (command : Message) : Message := [.lit "redis-cli -n 4 "] ++ command

-- The field of an op that is run, and its program.
def opProgram (node : String) (op : ApplyOp) : Option (String × ExecM OpResult OpResult) :=
  if op.onClient ≠ "" then some ("client[" ++ op.onClient ++ "]", applyClient host server op)
  else if op.gcu ≠ [] then some ("gcu", applyGCU host server node op.gcu)
  else if op.redis ≠ [] then some ("redis", applyShell host server node (op.redis.map redisCommand))
  else if op.shell ≠ [] then some ("shell", applyShell host server node op.shell)
  else if op.vtysh ≠ [] then some ("vtysh", applyVTYSh host server node op.vtysh)
  else if op.frrConf ≠ [] then some ("frrconf", applyFRRConf host server node op.frrConf)
  else none

def applyOp (node : String) (i : Nat) (op : ApplyOp) : ExecM ε OpResult :=
  let place := "ops[" ++ toString i ++ "]"
  match opProgram host server node op with
  | none => pure { kind := place, ok := false, error := [.lit "empty op"] }
  | some (kind, program) => do
      let result ← settle program
      return { result with kind := place ++ "." ++ kind }

def runOps (node : String) : Nat → List ApplyOp → ExecM ε (List OpResult)
  | _, [] => pure []
  | i, op :: rest => do
      let result ← applyOp host server node i op
      if result.ok then do
        let later ← runOps node (i + 1) rest
        return result :: later
      else return [result]

structure ApplyResponse where
  node : String
  ok : Bool
  results : List OpResult
deriving DecidableEq, Repr

-- An HTTP status with its error.
abbrev Refusal := Nat × Message

def resolved (method : String) (node : String) : Except Refusal String :=
  if method ≠ "POST" then .error (405, [.lit "POST only"])
  else
    match nodeFor server.nodeMap node with
    | none => .error (400, [.lit "node ", .quoted node, .lit " not in site map"])
    | some key => .ok key

theorem resolved_some (method node key : String) (found : resolved server method node = .ok key) :
    method = "POST" ∧ nodeFor server.nodeMap node = some key := by
  unfold resolved at found
  by_cases post : method ≠ "POST"
  · rw [if_pos post] at found
    cases found
  · rw [if_neg post] at found
    cases named : nodeFor server.nodeMap node with
    | none =>
        rw [named] at found
        cases found
    | some other =>
        rw [named] at found
        cases found
        exact ⟨not_not.mp post, rfl⟩

def handleApply (method : String) (body : Except String (String × List ApplyOp)) : ExecM ε (Except Refusal ApplyResponse) :=
  match body with
  | .error reason => pure (if method ≠ "POST" then .error (405, [.lit "POST only"]) else .error (400, [.lit "bad request: ", .str reason]))
  | .ok (node, ops) =>
      match resolved server method node with
      | .error refusal => pure (.error refusal)
      | .ok key => do
          let results ← runOps host server key 0 ops
          return .ok { node, ok := results.all OpResult.ok, results }

end Apply

section Verify

variable {ε : Type} (host : Host) (server : Server)

-- A failed command, or one that has something on its stderr.
def firstErr (said : ExecAnswer) : Option Message :=
  match said.err with
  | some err => some [.str err]
  | none => if trimSpace said.stderr ≠ "" then some [.str (trimSpace said.stderr)] else none

def neqMsg (got want : String) : Message := if got = want then [] else [.lit "expected ", .quoted want, .lit ", got ", .quoted got]

-- The read of a check: what it prints, or why it has nothing to say.
def readOutput (run : Message → ExecM ε ExecAnswer) (command : Message) : ExecM ε (String × Option Message) := do
  let said ← run command
  return (trimSpace said.out, firstErr said)

def judged (run : Message → ExecM ε ExecAnswer) (command : Message) (judge : String → VerifyResult) : ExecM ε VerifyResult := do
  let (got, failed) ← readOutput run command
  match failed with
  | some error => return { ok := false, error, actual := got }
  | none => return judge got

def wanted (want got : String) : VerifyResult := { ok := got = want, actual := got, error := neqMsg got want }

def wantedInside (want got : String) : VerifyResult := { ok := contains got want, actual := got, error := neqContainsMsg got want }

-- Alternating lines of keys and values, as hgetall prints them.
def hashPairs : List String → GoMap String
  | key :: value :: rest =>
      let later := hashPairs rest
      if trimSpace key ≠ "" ∧ later.get? (trimSpace key) = none then (trimSpace key, trimSpace value) :: later else later
  | _ => []

def satisfies (pairs : GoMap String) (field : String × String) : Bool :=
  match pairs.get? field.1 with
  | none => false
  | some got => if hasPrefix field.2 "~" then contains got (trimPrefix field.2 "~") else got = field.2

def satisfiesAll (valsRaw : String) (fields : GoMap String) : Bool :=
  fields = [] || fields.all (satisfies (hashPairs (split (trimSpace valsRaw) '\n')))

def keyLines (keysRaw : String) : List String := ((split (trimSpace keysRaw) '\n').map trimSpace).filter fun key => key ≠ ""

-- %v of a map[string]string.
def mapText (fields : GoMap String) : String :=
  "map[" ++ join (fields.sortedKeys.map fun key => key ++ ":" ++ fields.text key) " " ++ "]"

-- How many of the keys hold what is wanted; a read that fails ends the check.
def countMatching (run : Message → ExecM VerifyResult ExecAnswer) (db : String) (fields : GoMap String) :
    List String → ExecM VerifyResult Nat
  | [] => pure 0
  | key :: rest => do
      let (valsRaw, failed) ← readOutput run [.lit "redis-cli -n ", .str db, .lit " hgetall ", .quoted key]
      match failed with
      | some error => leave { ok := false, error, actual := valsRaw }
      | none => do
          let later ← countMatching run db fields rest
          return if satisfiesAll valsRaw fields then later + 1 else later

def keysMatch (run : Message → ExecM VerifyResult ExecAnswer) (db : String) (check : Check) : ExecM VerifyResult VerifyResult := do
  let (keysRaw, failed) ← readOutput run [.lit "redis-cli -n ", .str db, .lit " keys ", .quoted check.redisKey]
  match failed with
  | some error => return { ok := false, error, actual := keysRaw }
  | none => do
      let keys := keyLines keysRaw
      let matched ← countMatching run db check.matchFields keys
      let min := if check.minCount = 0 then 1 else check.minCount
      let ok : Bool := min ≤ matched
      return {
        ok
        actual := "keys=" ++ toString keys.length ++ " matched=" ++ toString matched
        error :=
          if ok then []
          else [.lit "expected at least ", .int min, .lit " object(s) matching ", .str (mapText check.matchFields),
            .lit "; enumerated ", .int keys.length, .lit ", matched ", .int matched] }

def runProbePing (container addr : String) (size count : Nat) : ExecM ε VerifyResult := do
  let said ← execClient host container (pingArgv addr size count)
  let out := trimSpace said.out
  match said.err with
  | none => return { ok := true, actual := out }
  | some err =>
      let reason : Message := [.lit "probe ping ", .str addr, .lit " from ", .str container, .lit ": ", .str err]
      let msg := trimSpace said.stderr
      return { ok := false, actual := out, error := if msg ≠ "" then reason ++ [.lit ": ", .str msg] else reason }

def checkProgram (run : Message → ExecM VerifyResult ExecAnswer) (check : Check) : ExecM VerifyResult VerifyResult :=
  let db := if trimSpace check.redisDB = "" then "4" else check.redisDB
  let hget : Message := [.lit "redis-cli -n ", .str db, .lit " hget ", .quoted check.redisKey, .lit " ", .quoted check.redisField]
  match check.type with
  | .redisHget => judged run hget (wanted check.expect)
  | .redisExists => do
      let (got, failed) ← readOutput run [.lit "redis-cli -n ", .str db, .lit " exists ", .quoted check.redisKey]
      match failed with
      | some error => return { ok := false, error }
      | none => return { ok := got = "1", actual := got }
  | .ipMaster =>
      judged run [.lit "ip -o link show ", .str check.iface, .lit " 2>/dev/null | grep -oE 'master [^ @]+' | head -n1 | cut -d' ' -f2"]
        (wanted check.master)
  | .ipAddr =>
      judged run [.lit "ip -br addr show ", .str check.iface, .lit " 2>/dev/null | grep -oF ", .quoted check.addr, .lit " | head -n1"]
        fun got => { ok := got ≠ "", actual := got }
  | .linkVxlanId =>
      judged run [.lit "ip -d link show ", .str check.iface,
          .lit " 2>/dev/null | grep -oE 'vxlan id [0-9]+' | head -n1 | awk '\x7bprint $3\x7d'"]
        (wanted check.expect)
  | .bridgeVid =>
      judged run [.lit "bridge vlan show dev ", .str check.iface, .lit " 2>/dev/null | awk -v v=", .int check.vid,
          .lit " '$1 == v || $2 == v' | wc -l"]
        fun got => { ok := got ≠ "0", actual := got }
  | .fileContains =>
      judged run [.lit "grep -cF ", .quoted check.line, .lit " ", .quoted check.path, .lit " 2>/dev/null || true"]
        fun got => { ok := got ≠ "0", actual := got }
  | .vtyshContains => judged run [.lit "vtysh -c ", .quoted check.command] (wantedInside check.expect)
  | .redisHgetContains => judged run hget (wantedInside check.expect)
  | .redisKeysMatch => keysMatch run db check
  | .command => judged run [.str check.command] (wantedInside check.expect)
  | .probePing =>
      match probeHost server check.probeFrom with
      | .error reason => pure { ok := false, error := reason }
      | .ok container => runProbePing host container check.addr check.size check.count

-- A check as it was sent, with the text of its type where that is none of the known ones.
structure WireCheck where
  check : Check
  unknown : Option String := none
deriving DecidableEq, Repr

def wireProgram (run : Message → ExecM VerifyResult ExecAnswer) (sent : WireCheck) : ExecM VerifyResult VerifyResult :=
  match sent.unknown with
  | some type => pure { ok := false, error := [.lit "unknown check type ", .str type] }
  | none => checkProgram host server run sent.check

def verifyOne (node : String) (sent : WireCheck) : ExecM VerifyResult VerifyResult :=
  if sent.check.onClient = "" then wireProgram host server (fun command => execNode host server node (bash command) none) sent
  else
    match probeHost server sent.check.onClient with
    | .error reason => pure { ok := false, error := reason }
    | .ok container => wireProgram host server (fun command => execClient host container (sh command)) sent

structure VerifyResponse where
  node : String
  ok : Bool
  results : List (String × VerifyResult)
deriving DecidableEq, Repr

def WireCheck.typeText (sent : WireCheck) : String := sent.unknown.getD sent.check.type.text

-- Every check is run, whatever the others say.
def runChecks (node : String) : Nat → List WireCheck → ExecM ε (List (String × VerifyResult))
  | _, [] => pure []
  | i, check :: rest => do
      let result ← settle (verifyOne host server node check)
      let later ← runChecks node (i + 1) rest
      return ("checks[" ++ toString i ++ "]." ++ check.typeText, result) :: later

def handleVerify (method : String) (body : Except String (String × List WireCheck)) : ExecM ε (Except Refusal VerifyResponse) :=
  match body with
  | .error reason => pure (if method ≠ "POST" then .error (405, [.lit "POST only"]) else .error (400, [.lit "bad request: ", .str reason]))
  | .ok (node, checks) =>
      match resolved server method node with
      | .error refusal => pure (.error refusal)
      | .ok key => do
          let results ← runChecks host server key 0 checks
          return .ok { node, ok := results.all fun result => result.2.ok, results }

end Verify

end AgenticNetops.FabricExecutor.Southbound
