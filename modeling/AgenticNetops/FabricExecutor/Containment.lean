import AgenticNetops.FabricExecutor.Southbound
import AgenticNetops.Lib.Traces

set_option autoImplicit false

/- What the executor never does: whatever it is asked, in whatever order, its commands stay
   on the node that the request names and in the probe clients that its ops and checks name. -/
namespace AgenticNetops.FabricExecutor.Southbound

open GoText Fabricplan Exits Traces

inductive Request where
  | nodes
  | apply (method : String) (body : Except String (String × List ApplyOp))
  | verify (method : String) (body : Except String (String × List WireCheck))

section Meaning
variable (env : Environment) (host : Host) (server : Server)

def OwnerOnly (path : String) : Prop := ∃ info, env.stat path = .ok info ∧ info.isDir = false ∧ info.perm &&& 0o077 = 0

/- A transport that may be used: a container that a map names, or ssh to a declared node
   under a user, with a key and known hosts that only their owner can read. -/
def Guarded : Transport → Prop
  | .docker container => container ≠ "" ∧
      ((∃ node, server.nodeMap.get? node = some container) ∨ ∃ attachment, server.probeHosts.get? attachment = some container)
  | .ssh node spec keyPath knownHosts => (∃ container, server.nodeMap.get? node = some container) ∧
      trimSpace spec.addr ≠ "" ∧ trimSpace spec.user ≠ "" ∧ OwnerOnly env keyPath ∧ OwnerOnly env knownHosts

-- On the node that the text names, under the profile of its kind; input is for the GCU script.
def OnNode (node : String) (e : Execution) : Prop :=
  ∃ key argv, nodeFor server.nodeMap node = some key ∧ e.transport = server.transport key ∧
    e.argv = wrapPrivilege argv (profileFor e.transport.kind) ∧ (e.stdin ≠ none → argv = bash (gcuCommand host))

-- In the client container of an attachment: one shell command, or the fixed ping.
def OnProbe (attachment : String) (e : Execution) : Prop :=
  ∃ container, probeHost server attachment = .ok container ∧ e.transport = .docker container ∧ e.stdin = none ∧
    ((∃ command, e.argv = sh command) ∨ ∃ addr size count, e.argv = pingArgv addr size count)

-- What a request may have run.
def Allowed : Request → Execution → Prop
  | .nodes, _ => False
  | .apply method body, e => ∃ node ops, method = "POST" ∧ body = .ok (node, ops) ∧
      (OnNode host server node e ∨ ∃ op ∈ ops, OnProbe server op.onClient e)
  | .verify method body, e => ∃ node checks, method = "POST" ∧ body = .ok (node, checks) ∧
      ((OnNode host server node e ∧ e.stdin = none) ∨
        ∃ sent ∈ checks, OnProbe server sent.check.onClient e ∨ OnProbe server sent.check.probeFrom e)

-- One request after what has been run so far.
def step (ran : Ran) : Request → Ran
  | .nodes => ran
  | .apply method body => (handleApply (ε := Empty) host server method body ran).1
  | .verify method body => (handleVerify (ε := Empty) host server method body ran).1

end Meaning

section Programs
variable {ε : Type} (host : Host) (server : Server) (allowed : Execution → Prop)

abbrev Within {α : Type} (m : ExecM ε α) : Prop := Stays (fun entry : Execution × ExecAnswer => allowed entry.1) m

theorem within_exec (e : Execution) (here : allowed e) : Within allowed (exec (ε := ε) host e) := by
  intro ran
  refine ⟨[(e, host.answer ran e)], rfl, ?_⟩
  intro entry member
  rw [List.mem_singleton.mp member]
  exact here

theorem within_settle {α : Type} (m : ExecM α α) (within : Within allowed m) : Within allowed (settle (ε := ε) m) := by
  intro ran
  obtain ⟨more, added, reached⟩ := within ran
  rw [settle]
  cases outcome : m ran with
  | mk ran' result =>
      rw [outcome] at added reached
      cases result with
      | ok value => exact ⟨more, added, reached⟩
      | error value => exact ⟨more, added, reached⟩

theorem within_commands (run : Message → ExecM ε ExecAnswer) (each : ∀ command, Within allowed (run command)) (log : Message)
    (commands : List Message) : Within allowed (runCommands run log commands) := by
  induction commands generalizing log with
  | nil => exact stays_pure _ _
  | cons command rest ih =>
      rw [runCommands]
      apply stays_bind _ _ _ (each command)
      intro said
      dsimp only
      cases said.err with
      | some err => exact stays_pure _ _
      | none => exact ih _

theorem within_judged (run : Message → ExecM ε ExecAnswer) (each : ∀ command, Within allowed (run command)) (command : Message)
    (judge : String → VerifyResult) : Within allowed (judged run command judge) := by
  rw [judged, readOutput]
  apply stays_bind
  · exact stays_bind _ _ _ (each command) fun said => stays_pure _ _
  · intro said
    obtain ⟨got, failed⟩ := said
    cases failed with
    | some error => exact stays_pure _ _
    | none => exact stays_pure _ _

theorem within_read (run : Message → ExecM ε ExecAnswer) (each : ∀ command, Within allowed (run command)) (command : Message) :
    Within allowed (readOutput run command) := stays_bind _ _ _ (each command) fun _ => stays_pure _ _

theorem within_count (run : Message → ExecM VerifyResult ExecAnswer) (each : ∀ command, Within allowed (run command)) (db : String)
    (fields : GoMap String) (keys : List String) : Within allowed (countMatching run db fields keys) := by
  induction keys with
  | nil => exact stays_pure _ _
  | cons key rest ih =>
      rw [countMatching]
      apply stays_bind _ _ _ (within_read allowed run each _)
      intro said
      obtain ⟨valsRaw, failed⟩ := said
      cases failed with
      | some error => exact stays_leave _ _
      | none => exact stays_bind _ _ _ ih fun later => stays_pure _ _

theorem within_keys_match (run : Message → ExecM VerifyResult ExecAnswer) (each : ∀ command, Within allowed (run command))
    (db : String) (check : Check) : Within allowed (keysMatch run db check) := by
  rw [keysMatch]
  apply stays_bind _ _ _ (within_read allowed run each _)
  intro said
  obtain ⟨keysRaw, failed⟩ := said
  cases failed with
  | some error => exact stays_pure _ _
  | none => exact stays_bind _ _ _ (within_count allowed run each db _ _) fun matched => stays_pure _ _

theorem within_probe_ping (container addr : String) (size count : Nat)
    (here : allowed { transport := .docker container, argv := pingArgv addr size count }) :
    Within allowed (runProbePing (ε := ε) host container addr size count) := by
  rw [runProbePing, execClient]
  apply stays_bind _ _ _ (within_exec host allowed _ here)
  intro said
  dsimp only
  cases said.err with
  | some err => exact stays_pure _ _
  | none => exact stays_pure _ _

-- A check runs what it reads with, and the ping of its own attachment.
theorem within_check (run : Message → ExecM VerifyResult ExecAnswer) (each : ∀ command, Within allowed (run command)) (check : Check)
    (ping : ∀ container addr size count, probeHost server check.probeFrom = .ok container →
      allowed { transport := .docker container, argv := pingArgv addr size count }) :
    Within allowed (checkProgram host server run check) := by
  have read : ∀ command judge, Within allowed (judged run command judge) := within_judged allowed run each
  unfold checkProgram
  dsimp only
  cases check.type with
  | redisHget => exact read _ _
  | redisExists =>
      apply stays_bind _ _ _ (within_read allowed run each _)
      intro said
      obtain ⟨got, failed⟩ := said
      cases failed with
      | some error => exact stays_pure _ _
      | none => exact stays_pure _ _
  | redisHgetContains => exact read _ _
  | redisKeysMatch => exact within_keys_match allowed run each _ check
  | ipMaster => exact read _ _
  | ipAddr => exact read _ _
  | linkVxlanId => exact read _ _
  | bridgeVid => exact read _ _
  | fileContains => exact read _ _
  | vtyshContains => exact read _ _
  | command => exact read _ _
  | probePing =>
      cases registered : probeHost server check.probeFrom with
      | error reason => exact stays_pure _ _
      | ok container =>
          exact within_probe_ping host allowed container check.addr check.size check.count (ping container _ _ _ registered)

end Programs

section Handlers
variable {ε : Type} (host : Host) (server : Server) (allowed : Execution → Prop)

theorem on_node (node key : String) (resolved : nodeFor server.nodeMap node = some key) (argv : Argv)
    (stdin : Option (List PatchStep)) (input : stdin ≠ none → argv = bash (gcuCommand host)) :
    OnNode host server node { transport := server.transport key, argv := wrapPrivilege argv (profileFor (server.transport key).kind), stdin } :=
  ⟨key, argv, resolved, rfl, rfl, input⟩

theorem within_node (node key : String) (resolved : nodeFor server.nodeMap node = some key)
    (admits : ∀ e, OnNode host server node e → allowed e) (argv : Argv) (stdin : Option (List PatchStep))
    (input : stdin ≠ none → argv = bash (gcuCommand host)) : Within allowed (execNode (ε := ε) host server key argv stdin) :=
  within_exec host allowed _ (admits _ (on_node host server node key resolved argv stdin input))

theorem within_client (attachment container : String) (registered : probeHost server attachment = .ok container)
    (admits : ∀ e, OnProbe server attachment e → allowed e) (command : Message) :
    Within allowed (execClient (ε := ε) host container (sh command)) :=
  within_exec host allowed _ (admits _ ⟨container, registered, rfl, rfl, Or.inl ⟨command, rfl⟩⟩)

section Node
variable (node key : String) (resolved : nodeFor server.nodeMap node = some key)
  (admits : ∀ e, OnNode host server node e → allowed e)
include resolved admits

theorem within_plain (argv : Argv) : Within allowed (execNode (ε := ε) host server key argv none) :=
  within_node host server allowed node key resolved admits argv none fun given => absurd rfl given

theorem within_missing (patch : List PatchStep) : Within allowed (missingTable host server key patch) := by
  induction patch with
  | nil => exact stays_pure _ _
  | cons step rest ih =>
      rw [missingTable]
      cases parentTable step with
      | none => exact ih
      | some table =>
          apply stays_bind _ _ _ (within_plain host server allowed node key resolved admits _)
          intro said
          cases said.err with
          | some err => exact stays_leave _ _
          | none =>
              apply emits_ite
              · exact fun _ => ih
              · exact fun _ => stays_pure _ _

theorem within_gcu (patch : List PatchStep) : Within allowed (applyGCU host server key patch) := by
  rw [applyGCU]
  apply stays_bind _ _ _ (within_missing host server allowed node key resolved admits patch)
  intro missing
  apply stays_bind _ _ _ (within_node host server allowed node key resolved admits _ _ fun _ => rfl)
  exact fun said => stays_pure _ _

-- The program of an op stays on the node, or in the client that the op names.
theorem within_op (op : ApplyOp) (kind : String) (program : ExecM OpResult OpResult)
    (chosen : opProgram host server key op = some (kind, program)) (client : ∀ e, OnProbe server op.onClient e → allowed e) :
    Within allowed program := by
  have shell : ∀ commands, Within allowed (applyShell (ε := OpResult) host server key commands) := fun commands =>
    within_commands allowed _ (fun command => within_plain host server allowed node key resolved admits _) [] commands
  have once : ∀ argv, Within allowed (do let said ← execNode (ε := OpResult) host server key argv none; return endResult said) :=
    fun argv => stays_bind _ _ _ (within_plain host server allowed node key resolved admits argv) fun said => stays_pure _ _
  unfold opProgram at chosen
  by_cases onClient : op.onClient ≠ ""
  · rw [if_pos onClient] at chosen
    obtain ⟨_, rfl⟩ := Prod.mk.inj (Option.some.inj chosen)
    rw [applyClient]
    cases registered : probeHost server op.onClient with
    | error reason => exact stays_pure _ _
    | ok container =>
        apply emits_ite
        · exact fun _ => stays_pure _ _
        · exact fun _ => within_commands allowed _ (fun command => within_client host server allowed _ container registered client command) _ _
  · rw [if_neg onClient] at chosen
    by_cases gcu : op.gcu ≠ []
    · rw [if_pos gcu] at chosen
      obtain ⟨_, rfl⟩ := Prod.mk.inj (Option.some.inj chosen)
      exact within_gcu host server allowed node key resolved admits op.gcu
    · rw [if_neg gcu] at chosen
      by_cases redis : op.redis ≠ []
      · rw [if_pos redis] at chosen
        obtain ⟨_, rfl⟩ := Prod.mk.inj (Option.some.inj chosen)
        exact shell _
      · rw [if_neg redis] at chosen
        by_cases commands : op.shell ≠ []
        · rw [if_pos commands] at chosen
          obtain ⟨_, rfl⟩ := Prod.mk.inj (Option.some.inj chosen)
          exact shell _
        · rw [if_neg commands] at chosen
          by_cases vtysh : op.vtysh ≠ []
          · rw [if_pos vtysh] at chosen
            obtain ⟨_, rfl⟩ := Prod.mk.inj (Option.some.inj chosen)
            exact once _
          · rw [if_neg vtysh] at chosen
            by_cases frrConf : op.frrConf ≠ []
            · rw [if_pos frrConf] at chosen
              obtain ⟨_, rfl⟩ := Prod.mk.inj (Option.some.inj chosen)
              exact once _
            · rw [if_neg frrConf] at chosen
              cases chosen

theorem within_ops (i : Nat) (ops : List ApplyOp) (client : ∀ op ∈ ops, ∀ e, OnProbe server op.onClient e → allowed e) :
    Within allowed (runOps (ε := ε) host server key i ops) := by
  induction ops generalizing i with
  | nil => exact stays_pure _ _
  | cons op rest ih =>
      have here : Within allowed (applyOp (ε := ε) host server key i op) := by
        unfold applyOp
        cases chosen : opProgram host server key op with
        | none => exact stays_pure _ _
        | some both =>
            obtain ⟨kind, program⟩ := both
            have within := within_op host server allowed node key resolved admits op kind program chosen (client op List.mem_cons_self)
            exact stays_bind _ _ _ (within_settle allowed program within) fun result => stays_pure _ _
      rw [runOps]
      apply stays_bind _ _ _ here
      intro result
      apply emits_ite
      · intro _
        exact stays_bind _ _ _ (ih (i + 1) fun other member => client other (List.mem_cons_of_mem op member)) fun later => stays_pure _ _
      · exact fun _ => stays_pure _ _

end Node

-- A check reads on the node or in its client; only a check for it pings.
theorem within_verify_one (key : String) (sent : WireCheck)
    (plain : ∀ argv, Within allowed (execNode (ε := VerifyResult) host server key argv none))
    (client : ∀ e, OnProbe server sent.check.onClient e → allowed e)
    (probe : ∀ e, OnProbe server sent.check.probeFrom e → allowed e) : Within allowed (verifyOne host server key sent) := by
  have wire : ∀ run, (∀ command, Within allowed (run command)) → Within allowed (wireProgram host server run sent) := by
    intro run each
    rw [wireProgram]
    cases sent.unknown with
    | some type => exact stays_pure _ _
    | none =>
        apply within_check host server allowed run each sent.check
        intro container addr size count registered
        exact probe _ ⟨container, registered, rfl, rfl, Or.inr ⟨addr, size, count, rfl⟩⟩
  rw [verifyOne]
  apply emits_ite
  · exact fun _ => wire _ fun command => plain _
  · intro _
    cases registered : probeHost server sent.check.onClient with
    | error reason => exact stays_pure _ _
    | ok container => exact wire _ fun command => within_client host server allowed _ container registered client command

theorem within_checks (key : String) (i : Nat) (checks : List WireCheck)
    (plain : ∀ argv, Within allowed (execNode (ε := VerifyResult) host server key argv none))
    (clients : ∀ sent ∈ checks, ∀ e, OnProbe server sent.check.onClient e ∨ OnProbe server sent.check.probeFrom e → allowed e) :
    Within allowed (runChecks (ε := ε) host server key i checks) := by
  induction checks generalizing i with
  | nil => exact stays_pure _ _
  | cons sent rest ih =>
      have mine := clients sent List.mem_cons_self
      have one := within_verify_one host server allowed key sent plain (fun e here => mine e (Or.inl here)) fun e here => mine e (Or.inr here)
      rw [runChecks]
      apply stays_bind _ _ _ (within_settle allowed _ one)
      intro result
      apply stays_bind _ _ _ (ih (i + 1) fun other member => clients other (List.mem_cons_of_mem sent member))
      exact fun later => stays_pure _ _

/- What one request adds is what it may run. -/
theorem request_within (request : Request) (ran : Ran) :
    ∃ more, step host server ran request = ran ++ more ∧ ∀ entry ∈ more, Allowed host server request entry.1 := by
  cases request with
  | nodes => exact ⟨[], (List.append_nil ran).symm, fun _ member => absurd member List.not_mem_nil⟩
  | apply method body =>
      have within : Within (Allowed host server (.apply method body)) (handleApply (ε := Empty) host server method body) := by
        unfold handleApply
        cases body with
        | error reason => exact stays_pure _ _
        | ok sent =>
            obtain ⟨node, ops⟩ := sent
            dsimp only
            cases found : resolved server method node with
            | error refusal => exact stays_pure _ _
            | ok key =>
                obtain ⟨post, named⟩ := resolved_some server method node key found
                apply stays_bind _ _ _ _ fun results => stays_pure _ _
                apply within_ops host server _ node key named
                · exact fun e here => ⟨node, ops, post, rfl, Or.inl here⟩
                · exact fun op member e here => ⟨node, ops, post, rfl, Or.inr ⟨op, member, here⟩⟩
      obtain ⟨more, added, reached⟩ := within ran
      refine ⟨more, added, ?_⟩
      cases outcome : (handleApply (ε := Empty) host server method body ran).2 with
      | error impossible => exact impossible.elim
      | ok response =>
          rw [outcome] at reached
          exact reached
  | verify method body =>
      have within : Within (Allowed host server (.verify method body)) (handleVerify (ε := Empty) host server method body) := by
        unfold handleVerify
        cases body with
        | error reason => exact stays_pure _ _
        | ok sent =>
            obtain ⟨node, checks⟩ := sent
            dsimp only
            cases found : resolved server method node with
            | error refusal => exact stays_pure _ _
            | ok key =>
                obtain ⟨post, named⟩ := resolved_some server method node key found
                apply stays_bind _ _ _ _ fun results => stays_pure _ _
                apply within_checks host server
                · intro argv
                  exact within_exec host _ _ ⟨node, checks, post, rfl,
                    Or.inl ⟨on_node host server node key named argv none fun given => absurd rfl given, rfl⟩⟩
                · exact fun sent member e here => ⟨node, checks, post, rfl, Or.inr ⟨sent, member, here⟩⟩
      obtain ⟨more, added, reached⟩ := within ran
      refine ⟨more, added, ?_⟩
      cases outcome : (handleVerify (ε := Empty) host server method body ran).2 with
      | error impossible => exact impossible.elim
      | ok response =>
          rw [outcome] at reached
          exact reached

end Handlers

section Transports
variable (env : Environment) (host : Host) (server : Server)

theorem node_for_named (nodeMap : GoMap String) (node key : String) (found : nodeFor nodeMap node = some key) :
    ∃ container, nodeMap.get? key = some container ∧ container ≠ "" ∧ nodeMap.text key = container := by
  have named : nodeMap.text key ≠ "" := by
    unfold nodeFor at found
    by_cases own : nodeMap.text node ≠ ""
    · rw [if_pos own] at found
      cases found
      exact own
    · rw [if_neg own] at found
      have folded := List.find?_some found
      simp only [decide_eq_true_eq] at folded
      exact folded.2
  cases stored : nodeMap.get? key with
  | none =>
      rw [GoMap.get?] at stored
      rw [GoMap.text, stored] at named
      exact absurd rfl named
  | some container =>
      rw [GoMap.get?] at stored
      rw [GoMap.text, stored] at named ⊢
      exact ⟨container, rfl, named, rfl⟩

theorem require_owner_only (envName path : String) (given : require0600 env envName = .ok path) : OwnerOnly env path := by
  unfold require0600 at given
  dsimp only at given
  by_cases unset : trimSpace (env.getenv envName) = ""
  · rw [if_pos unset] at given
    cases given
  · rw [if_neg unset] at given
    cases stated : env.stat (trimSpace (env.getenv envName)) with
    | error reason =>
        rw [stated] at given
        cases given
    | ok info =>
        rw [stated] at given
        dsimp only at given
        by_cases directory : info.isDir = true
        · rw [if_pos directory] at given
          cases given
        · rw [if_neg directory] at given
          by_cases wide : info.perm &&& 0o077 ≠ 0
          · rw [if_pos wide] at given
            cases given
          · rw [if_neg wide] at given
            cases given
            exact ⟨info, stated, by simpa using directory, not_not.mp wide⟩

-- What a declaration is kept as.
theorem declared_ssh (nodeMap : GoMap String) (decl kept : String × TransportSpec) (given : declared nodeMap decl = .ok kept)
    (ssh : kept.2.kind = "ssh") : trimSpace kept.2.addr ≠ "" ∧ trimSpace kept.2.user ≠ "" := by
  obtain ⟨node, sp⟩ := decl
  unfold declared at given
  dsimp only at given
  split at given
  · cases given
  · split at given
    · cases given
    · split at given
      · cases given
      · rename_i addressed
        split at given
        · cases given
          have admin : trimSpace "admin" ≠ "" := by decide
          exact ⟨fun blank => addressed ⟨ssh, blank⟩, admin⟩
        · rename_i named
          cases given
          exact ⟨fun blank => addressed ⟨ssh, blank⟩, fun blank => named ⟨ssh, blank⟩⟩

theorem declared_all (nodeMap : GoMap String) (decls specs : GoMap TransportSpec) (given : decls.mapM (declared nodeMap) = .ok specs) :
    ∀ kept ∈ specs, kept.2.kind = "ssh" → trimSpace kept.2.addr ≠ "" ∧ trimSpace kept.2.user ≠ "" := by
  induction decls generalizing specs with
  | nil =>
      cases given
      exact fun kept member => absurd member List.not_mem_nil
  | cons decl rest ih =>
      rw [List.mapM_cons] at given
      cases first : declared nodeMap decl with
      | error reason =>
          rw [first] at given
          cases given
      | ok kept =>
          cases others : rest.mapM (declared nodeMap) with
          | error reason =>
              rw [first, others] at given
              cases given
          | ok more =>
              rw [first, others] at given
              cases given
              intro other member
              cases List.mem_cons.mp member with
              | inl same =>
                  rw [same]
                  exact declared_ssh nodeMap decl kept first
              | inr later => exact ih more others other later

theorem config_ssh (nodeMap : GoMap String) (config : TransportConfig) (loaded : loadTransportConfig env nodeMap = .ok config)
    (node : String) (sp : TransportSpec) (declared : config.specs.get? node = some sp) (ssh : sp.kind = "ssh") :
    trimSpace sp.addr ≠ "" ∧ trimSpace sp.user ≠ "" ∧ OwnerOnly env config.sshKey ∧ OwnerOnly env config.knownHosts := by
  have listed : (node, sp) ∈ config.specs := by
    obtain ⟨before, after, split, _⟩ := List.lookup_eq_some_iff.mp declared
    rw [split]
    exact List.mem_append_right before List.mem_cons_self
  unfold loadTransportConfig at loaded
  cases given : env.nodeTransport with
  | unset =>
      rw [given] at loaded
      cases loaded
      cases listed
  | invalid reason =>
      rw [given] at loaded
      cases loaded
  | value decls =>
      rw [given] at loaded
      dsimp only at loaded
      cases all : decls.mapM (Southbound.declared nodeMap) with
      | error reason =>
          rw [all] at loaded
          cases loaded
      | ok specs =>
          rw [all] at loaded
          change (if TransportConfig.anySSH specs then _ else _) = _ at loaded
          by_cases any : TransportConfig.anySSH specs = true
          · rw [if_pos any] at loaded
            cases key : require0600 env envSSHKey with
            | error reason =>
                rw [key] at loaded
                cases loaded
            | ok sshKey =>
                cases known : require0600 env envKnownHosts with
                | error reason =>
                    rw [key, known] at loaded
                    cases loaded
                | ok knownHosts =>
                    rw [key, known] at loaded
                    cases loaded
                    obtain ⟨addressed, named⟩ := declared_all nodeMap decls specs all _ listed ssh
                    exact ⟨addressed, named, require_owner_only env _ _ key, require_owner_only env _ _ known⟩
          · rw [if_neg any] at loaded
            cases loaded
            refine absurd ?_ any
            rw [TransportConfig.anySSH, List.any_eq_true]
            exact ⟨_, listed, decide_eq_true ssh⟩

theorem started_config (started : start env = .ok server) : loadTransportConfig env server.nodeMap = .ok server.config := by
  unfold start at started
  cases mapped : env.nodeMap with
  | unset =>
      rw [mapped] at started
      cases started
  | invalid reason =>
      rw [mapped] at started
      cases started
  | value nodeMap =>
      rw [mapped] at started
      dsimp only at started
      cases loaded : loadTransportConfig env nodeMap with
      | error reason =>
          rw [loaded] at started
          cases started
      | ok config =>
          rw [loaded] at started
          dsimp only at started
          cases probes : env.probeMap with
          | invalid reason =>
              rw [probes] at started
              cases started
          | unset =>
              rw [probes] at started
              cases started
              exact loaded
          | value probeHosts =>
              rw [probes] at started
              cases started
              exact loaded

theorem on_node_guarded (started : start env = .ok server) (node : String) (e : Execution) (here : OnNode host server node e) :
    Guarded env server e.transport := by
  obtain ⟨key, _, found, carried, _, _⟩ := here
  obtain ⟨container, stored, named, text⟩ := node_for_named server.nodeMap node key found
  have docker : Guarded env server (.docker (server.nodeMap.text key)) := by
    rw [text]
    exact ⟨named, Or.inl ⟨key, stored⟩⟩
  rw [carried, Server.transport]
  cases declared : server.config.specs.get? key with
  | none => exact docker
  | some sp =>
      dsimp only
      by_cases ssh : sp.kind = "ssh"
      · rw [if_pos ssh]
        exact ⟨⟨container, stored⟩, config_ssh env server.nodeMap server.config (started_config env server started) key sp declared ssh⟩
      · rw [if_neg ssh]
        exact docker

theorem on_probe_guarded (attachment : String) (e : Execution) (here : OnProbe server attachment e) : Guarded env server e.transport := by
  obtain ⟨container, registered, carried, _, _⟩ := here
  rw [carried]
  unfold probeHost at registered
  cases stored : server.probeHosts.get? attachment with
  | none =>
      rw [stored] at registered
      cases registered
  | some other =>
      rw [stored] at registered
      by_cases named : other = ""
      · rw [named] at registered
        cases registered
      · have same : other = container := by simpa [named] using registered
        rw [same] at stored named
        exact ⟨named, Or.inr ⟨attachment, stored⟩⟩

theorem allowed_guarded (started : start env = .ok server) (request : Request) (e : Execution) (here : Allowed host server request e) :
    Guarded env server e.transport := by
  cases request with
  | nodes => exact here.elim
  | apply method body =>
      obtain ⟨node, ops, _, _, either⟩ := here
      cases either with
      | inl onNode => exact on_node_guarded env host server started node e onNode
      | inr onProbe =>
          obtain ⟨op, _, onProbe⟩ := onProbe
          exact on_probe_guarded env server op.onClient e onProbe
  | verify method body =>
      obtain ⟨node, checks, _, _, either⟩ := here
      cases either with
      | inl onNode => exact on_node_guarded env host server started node e onNode.1
      | inr onProbe =>
          obtain ⟨sent, _, onProbe⟩ := onProbe
          cases onProbe with
          | inl client => exact on_probe_guarded env server _ e client
          | inr probe => exact on_probe_guarded env server _ e probe

/- A server that has started runs nothing but what one of its requests may have run, and
   nothing over a transport that its configuration does not vouch for. -/
theorem contained (started : start env = .ok server) (requests : List Request) :
    ∀ entry ∈ requests.foldl (step host server) [], Guarded env server entry.1.transport ∧
      ∃ request ∈ requests, Allowed host server request entry.1 := by
  have run : ∀ (served : List Request) (ran : Ran), (∀ request ∈ served, request ∈ requests) →
      (∀ entry ∈ ran, ∃ request ∈ requests, Allowed host server request entry.1) →
      ∀ entry ∈ served.foldl (step host server) ran, ∃ request ∈ requests, Allowed host server request entry.1 := by
    intro served
    induction served with
    | nil => exact fun ran _ before => before
    | cons request rest ih =>
        intro ran listed before
        obtain ⟨more, added, each⟩ := request_within host server request ran
        rw [List.foldl_cons, added]
        apply ih _ fun other member => listed other (List.mem_cons_of_mem request member)
        intro entry member
        cases List.mem_append.mp member with
        | inl earlier => exact before entry earlier
        | inr new => exact ⟨request, listed request List.mem_cons_self, each entry new⟩
  intro entry member
  obtain ⟨request, asked, here⟩ := run requests [] (fun _ member => member) (fun _ none => absurd none List.not_mem_nil) entry member
  exact ⟨allowed_guarded env host server started request entry.1 here, request, asked, here⟩

end Transports

section Lab

def labEnv : Environment := {
  nodeMap := .value [("leaf01", "clab-leaf01"), ("spine01", "clab-spine01")]
  nodeTransport := .value [("spine01", { kind := "ssh", addr := "10.0.0.5", user := "" })]
  probeMap := .value [("client1", "clab-client1")]
  getenv := fun name => if name = envSSHKey then "/keys/id" else "/keys/hosts"
  stat := fun _ => .ok { perm := 0o600 }
}

def labServer : Server := {
  nodeMap := [("leaf01", "clab-leaf01"), ("spine01", "clab-spine01")]
  config := { specs := [("spine01", { kind := "ssh", addr := "10.0.0.5", user := "admin" })], sshKey := "/keys/id", knownHosts := "/keys/hosts" }
  probeHosts := [("client1", "clab-client1")]
}

def labHost : Host := { answer := fun _ _ => { out := "1" }, sum := fun _ => [], base64 := id, gcuScript := "" }

def labRequests : List Request := [
  .apply "POST" (.ok ("Spine01", [{ shell := [[.lit "ip link set lo up"]] }, { onClient := "client1", shell := [[.lit "ip route"]] }])),
  .nodes,
  .verify "POST" (.ok ("leaf01", [{ check := { type := .probePing, probeFrom := "client1", addr := "10.1.0.2", size := 56, count := 3 } }]))]

theorem lab_contained : (labRequests.foldl (step labHost labServer) []).length = 3 ∧
    ∀ entry ∈ labRequests.foldl (step labHost labServer) [], Guarded labEnv labServer entry.1.transport ∧
      ∃ request ∈ labRequests, Allowed labHost labServer request entry.1 :=
  ⟨by decide +kernel, contained labEnv labHost labServer (by decide +kernel) labRequests⟩

end Lab

end AgenticNetops.FabricExecutor.Southbound
