import AgenticNetops.FabricExecutor.Southbound
import AgenticNetops.Lib.Traces

set_option autoImplicit false

/- What the results of an apply request tell: which of its commands have run, in which
   order, and that the whole request did where the response is ok. -/
namespace AgenticNetops.FabricExecutor.Southbound

open GoText JsonValue Fabricplan Exits Traces

def Refused (entry : Execution × ExecAnswer) : Prop := entry.2.err ≠ none

section Meaning
variable (host : Host) (server : Server) (node : String)

def onNodeAt (argv : Argv) (stdin : Option (List PatchStep) := none) : Execution :=
  { transport := server.transport node, argv := wrapPrivilege argv (profileFor (server.transport node).kind), stdin }

def shellAt (command : Message) : Execution := onNodeAt server node (bash command)

def clientAt (container : String) (command : Message) : Execution := { transport := .docker container, argv := sh command }

def tables (patch : List PatchStep) : List String := patch.filterMap parentTable

/- The commands of a GCU patch: its tables in order up to the first that is missing, and
   the script with the patch, or with the patch that adds the missing table as a whole. -/
def WholePatch (patch : List PatchStep) (all : List Execution) : Prop :=
  ∃ scanned unscanned submitted, tables patch = scanned ++ unscanned ∧
    all = (scanned.map fun table => shellAt server node (tableCheck table)) ++ [onNodeAt server node (bash (gcuCommand host)) (some submitted)] ∧
    ((unscanned = [] ∧ submitted = patch) ∨ ∃ table, scanned.getLast? = some table ∧ submitted = promoteTable table patch)

-- The commands of an op, all of them.
def Whole (op : ApplyOp) (all : List Execution) : Prop :=
  if op.onClient ≠ "" then ∀ container, probeHost server op.onClient = .ok container → all = op.shell.map (clientAt container)
  else if op.gcu ≠ [] then WholePatch host server node op.gcu all
  else if op.redis ≠ [] then all = (op.redis.map redisCommand).map (shellAt server node)
  else if op.shell ≠ [] then all = op.shell.map (shellAt server node)
  else if op.vtysh ≠ [] then all = [onNodeAt server node (vtyshArgv op.vtysh)]
  else if op.frrConf ≠ [] then
    all = [shellAt server node (frrCommand host (profileFor (server.transport node).kind).frrConfPath (join op.frrConf "\n"))]
  else all = []

-- An op that has something to run, and a place to run it at.
def Runnable (op : ApplyOp) : Prop :=
  if op.onClient ≠ "" then op.shell ≠ [] ∧ ∃ container, probeHost server op.onClient = .ok container
  else op.gcu ≠ [] ∨ op.redis ≠ [] ∨ op.shell ≠ [] ∨ op.vtysh ≠ [] ∨ op.frrConf ≠ []

def kindOf (op : ApplyOp) : Option String :=
  if op.onClient ≠ "" then some ("client[" ++ op.onClient ++ "]")
  else if op.gcu ≠ [] then some "gcu"
  else if op.redis ≠ [] then some "redis"
  else if op.shell ≠ [] then some "shell"
  else if op.vtysh ≠ [] then some "vtysh"
  else if op.frrConf ≠ [] then some "frrconf"
  else none

def placeOf (i : Nat) (op : ApplyOp) : String :=
  let place := "ops[" ++ toString i ++ "]"
  match kindOf op with
  | none => place
  | some kind => place ++ "." ++ kind

/- What a result says about its part of the run: the commands of the op from the first on,
   nothing behind one that failed, and all of them where it is ok. -/
structure Follows (whole : List Execution → Prop) (ready : Prop) (ok : Bool) (part : Ran) : Prop where
  planned : ∃ all, whole all ∧ part.map Prod.fst <+: all ∧ (ok = true → part.map Prod.fst = all)
  verdict : ok = true ↔ ready ∧ ∀ entry ∈ part, ¬ Refused entry
  halting : Halting Refused part

-- The results of a request, op by op, with the run they stand for.
inductive Told : Nat → List ApplyOp → List OpResult → Ran → Prop where
  | done (i : Nat) : Told i [] [] []
  | through (i : Nat) (op : ApplyOp) (ops : List ApplyOp) (result : OpResult) (results : List OpResult) (part later : Ran)
      (kind : result.kind = placeOf i op) (ok : result.ok = true) (here : Follows (Whole host server node op) (Runnable server op) true part)
      (rest : Told (i + 1) ops results later) : Told i (op :: ops) (result :: results) (part ++ later)
  | stopped (i : Nat) (op : ApplyOp) (ops : List ApplyOp) (result : OpResult) (part : Ran) (kind : result.kind = placeOf i op)
      (failed : result.ok = false) (here : Follows (Whole host server node op) (Runnable server op) false part) :
      Told i (op :: ops) [result] part

end Meaning

section Programs
variable {ε : Type} (host : Host) (server : Server) (node : String)

-- A program whose result, whichever way it comes, follows the commands.
abbrev Following (whole : List Execution → Prop) (ready : Prop) (m : ExecM OpResult OpResult) : Prop :=
  Emits m (fun result part => Follows whole ready result.ok part) (fun result part => Follows whole ready result.ok part)

theorem follows_none (whole : List Execution → Prop) (ready : Prop) (all : List Execution) (here : whole all) (unready : ¬ ready) :
    Follows whole ready false [] where
  planned := ⟨all, here, List.nil_prefix, fun claimed => absurd claimed Bool.false_ne_true⟩
  verdict := ⟨fun claimed => absurd claimed Bool.false_ne_true, fun both => absurd both.1 unready⟩
  halting := halting_nil Refused

theorem emits_exec (e : Execution) :
    Emits (exec (ε := ε) host e) (fun said part => part = [(e, said)]) (fun _ _ => False) :=
  fun ran => ⟨[(e, host.answer ran e)], rfl, rfl⟩

theorem end_ok (said : ExecAnswer) : (endResult said).ok = true ↔ said.err = none := by
  unfold endResult
  cases said.err with
  | none => exact ⟨fun _ => rfl, fun _ => rfl⟩
  | some err => exact ⟨fun claimed => absurd claimed Bool.false_ne_true, fun none => absurd none (Option.some_ne_none err)⟩

-- The last command of a program decides, behind others that went well.
theorem follows_end (ready : Prop) (yes : ready) (before : Ran) (went : ∀ entry ∈ before, ¬ Refused entry) (whole : List Execution → Prop)
    (e : Execution) (here : whole (before.map Prod.fst ++ [e])) (said : ExecAnswer) :
    Follows whole ready (endResult said).ok (before ++ [(e, said)]) where
  planned := by
    refine ⟨_, here, ?_, fun _ => ?_⟩
    · rw [List.map_append]
      exact List.prefix_refl _
    · rw [List.map_append]
      rfl
  verdict := by
    rw [end_ok]
    constructor
    · intro fine
      refine ⟨yes, fun entry member => ?_⟩
      cases List.mem_append.mp member with
      | inl earlier => exact went entry earlier
      | inr last =>
          rw [List.mem_singleton.mp last]
          exact not_not.mpr fine
    · intro both
      exact not_not.mp (both.2 (e, said) (List.mem_append_right before List.mem_cons_self))
  halting := halting_append Refused before _ went (halting_one Refused _)

theorem following_once (ready : Prop) (yes : ready) (whole : List Execution → Prop) (e : Execution) (here : whole [e]) :
    Following whole ready (do let said ← exec host e; return endResult said) := by
  apply emits_bind _ _ _ _ _ (emits_weaken _ _ _ _ _ (emits_exec host e) (fun _ _ held => held) fun _ _ never => never.elim)
  intro said part same
  refine emits_pure _ _ _ ?_
  rw [List.append_nil, same]
  exact follows_end ready yes [] (fun _ member => absurd member List.not_mem_nil) whole e here said

-- The loop over the commands of an op.
theorem following_commands (ready : Prop) (yes : ready) (run : Message → ExecM OpResult ExecAnswer) (place : Message → Execution)
    (placed : ∀ command, run command = exec host (place command)) (log : Message) (commands : List Message) :
    Following (fun all => all = commands.map place) ready (runCommands run log commands) := by
  induction commands generalizing log with
  | nil =>
      exact emits_pure _ _ _ {
        planned := ⟨[], rfl, List.nil_prefix, fun _ => rfl⟩
        verdict := ⟨fun _ => ⟨yes, fun _ member => absurd member List.not_mem_nil⟩, fun _ => rfl⟩
        halting := halting_nil Refused }
  | cons command rest ih =>
      rw [runCommands, placed]
      apply emits_bind _ _ _ _ _ (emits_weaken _ _ _ _ _ (emits_exec host (place command)) (fun _ _ held => held) fun _ _ never => never.elim)
      intro said part same
      dsimp only
      cases answer : said.err with
      | some err =>
          refine emits_pure _ _ _ ?_
          have refused : Refused (place command, said) := by
            rw [Refused, answer]
            exact Option.some_ne_none err
          rw [List.append_nil, same]
          exact {
            planned := ⟨_, rfl, List.cons_prefix_cons.mpr ⟨rfl, List.nil_prefix⟩, fun claimed => absurd claimed Bool.false_ne_true⟩
            verdict := ⟨fun claimed => absurd claimed Bool.false_ne_true, fun both => absurd refused (both.2 _ List.mem_cons_self)⟩
            halting := halting_one Refused _ }
      | none =>
          have went : ∀ entry ∈ part, ¬ Refused entry := by
            intro entry member
            rw [same] at member
            rw [List.mem_singleton.mp member]
            exact not_not.mpr answer
          have onward : ∀ (result : OpResult) (later : Ran), Follows (fun all => all = rest.map place) ready result.ok later →
              Follows (fun all => all = (command :: rest).map place) ready result.ok (part ++ later) := by
            intro result later here
            obtain ⟨all, whole, before, equal⟩ := here.planned
            rw [whole] at before equal
            have mapped : (part ++ later).map Prod.fst = place command :: later.map Prod.fst := by rw [same]; rfl
            exact {
              planned := by
                refine ⟨_, rfl, ?_, fun ok => ?_⟩
                · rw [mapped]
                  exact List.cons_prefix_cons.mpr ⟨rfl, before⟩
                · rw [mapped, equal ok]
                  rfl
              verdict := by
                rw [here.verdict]
                constructor
                · intro both
                  refine ⟨both.1, fun entry member => ?_⟩
                  cases List.mem_append.mp member with
                  | inl earlier => exact went entry earlier
                  | inr behind => exact both.2 entry behind
                · exact fun both => ⟨both.1, fun entry member => both.2 entry (List.mem_append_right part member)⟩
              halting := halting_append Refused part later went here.halting }
          exact emits_weaken _ _ _ _ _ (ih _) onward onward

theorem refused_some (said : ExecAnswer) (err : String) (answer : said.err = some err) (e : Execution) : Refused (e, said) := by
  rw [Refused, answer]
  exact Option.some_ne_none err

-- The tables that were scanned, the missing one last.
def Scanned (patch : List PatchStep) (part : Ran) (scanned : List String) : Prop :=
  (∃ unscanned, tables patch = scanned ++ unscanned) ∧ part.map Prod.fst = scanned.map fun table => shellAt server node (tableCheck table)

def ScannedTo (patch : List PatchStep) (missing : Option String) (part : Ran) : Prop :=
  (∀ entry ∈ part, ¬ Refused entry) ∧ ∃ scanned, Scanned server node patch part scanned ∧
    match missing with
    | none => tables patch = scanned
    | some table => scanned.getLast? = some table

def ScanFailed (patch : List PatchStep) (result : OpResult) (part : Ran) : Prop :=
  result.ok = false ∧ Halting Refused part ∧ (∃ entry ∈ part, Refused entry) ∧ ∃ scanned, Scanned server node patch part scanned

section Scans
variable (step : PatchStep) (rest : List PatchStep) (table : String) (named : parentTable step = some table)
include named

theorem tables_cons : tables (step :: rest) = table :: tables rest := List.filterMap_cons_some named

theorem scanned_cons (said : ExecAnswer) (later : Ran) (scanned : List String) (here : Scanned server node rest later scanned) :
    Scanned server node (step :: rest) ((shellAt server node (tableCheck table), said) :: later) (table :: scanned) := by
  obtain ⟨⟨unscanned, split⟩, ran⟩ := here
  refine ⟨⟨unscanned, ?_⟩, ?_⟩
  · rw [tables_cons step rest table named, split]
    rfl
  · rw [List.map_cons, ran]
    rfl

theorem scanned_to_cons (said : ExecAnswer) (went : said.err = none) (missing : Option String) (later : Ran)
    (here : ScannedTo server node rest missing later) :
    ScannedTo server node (step :: rest) missing ((shellAt server node (tableCheck table), said) :: later) := by
  obtain ⟨fine, scanned, before, found⟩ := here
  refine ⟨List.forall_mem_cons.mpr ⟨not_not.mpr went, fine⟩, table :: scanned, scanned_cons server node step rest table named said later scanned before, ?_⟩
  cases missing with
  | none =>
      have found : tables rest = scanned := found
      rw [tables_cons step rest table named, found]
  | some last =>
      have found : scanned.getLast? = some last := found
      dsimp only
      rw [List.getLast?_cons, found]
      rfl

theorem scan_failed_cons (said : ExecAnswer) (went : said.err = none) (result : OpResult) (later : Ran)
    (here : ScanFailed server node rest result later) :
    ScanFailed server node (step :: rest) result ((shellAt server node (tableCheck table), said) :: later) := by
  obtain ⟨failed, halting, ⟨entry, member, refused⟩, scanned, before⟩ := here
  refine ⟨failed, ?_, ⟨entry, List.mem_cons_of_mem _ member, refused⟩, table :: scanned, scanned_cons server node step rest table named said later scanned before⟩
  apply halting_append Refused [_] later _ halting
  intro other here
  rw [List.mem_singleton.mp here]
  exact not_not.mpr went

end Scans

theorem emits_missing (patch : List PatchStep) :
    Emits (missingTable host server node patch) (ScannedTo server node patch) (ScanFailed server node patch) := by
  induction patch with
  | nil => exact emits_pure _ _ _ ⟨fun _ member => absurd member List.not_mem_nil, [], ⟨⟨[], rfl⟩, rfl⟩, rfl⟩
  | cons step rest ih =>
      rw [missingTable]
      cases named : parentTable step with
      | none =>
          have skipped : tables (step :: rest) = tables rest := List.filterMap_cons_none named
          refine emits_weaken _ _ _ _ _ ih ?_ ?_
          · intro missing part here
            obtain ⟨went, scanned, ⟨⟨unscanned, split⟩, ran⟩, found⟩ := here
            refine ⟨went, scanned, ⟨⟨unscanned, skipped.trans split⟩, ran⟩, ?_⟩
            rw [skipped]
            exact found
          · intro result part here
            obtain ⟨failed, halting, refused, scanned, ⟨unscanned, split⟩, ran⟩ := here
            exact ⟨failed, halting, refused, scanned, ⟨unscanned, skipped.trans split⟩, ran⟩
      | some table =>
          apply emits_bind _ _ _ _ _ (emits_weaken _ _ _ _ _ (emits_exec host (shellAt server node (tableCheck table)))
            (fun _ _ held => held) fun _ _ never => never.elim)
          intro said part same
          rw [same]
          have one : Scanned server node (step :: rest) [(shellAt server node (tableCheck table), said)] [table] :=
            ⟨⟨tables rest, tables_cons step rest table named⟩, rfl⟩
          cases answer : said.err with
          | some err =>
              refine emits_leave _ _ _ ⟨rfl, halting_one Refused _, ⟨_, List.mem_cons_self, refused_some said err answer _⟩, [table], one⟩
          | none =>
              apply emits_ite
              · intro _
                exact emits_weaken _ _ _ _ _ ih (fun missing later => scanned_to_cons server node step rest table named said answer missing later)
                  fun result later => scan_failed_cons server node step rest table named said answer result later
              · intro _
                refine emits_pure _ _ _ ⟨List.forall_mem_cons.mpr ⟨not_not.mpr answer, ?_⟩, [table], one, rfl⟩
                exact fun _ member => absurd member List.not_mem_nil

theorem following_gcu (ready : Prop) (yes : ready) (patch : List PatchStep) :
    Following (WholePatch host server node patch) ready (applyGCU host server node patch) := by
  rw [applyGCU]
  refine emits_bind _ _ _ _ _ (emits_weaken _ _ _ _ _ (emits_missing host server node patch) (fun _ _ held => held) ?_) ?_
  · intro result part here
    obtain ⟨failed, halting, ⟨entry, member, refused⟩, scanned, ⟨unscanned, split⟩, ran⟩ := here
    rw [failed]
    refine ⟨⟨_, ⟨tables patch, [], patch, (List.append_nil _).symm, rfl, Or.inl ⟨rfl, rfl⟩⟩, ?_, fun claimed => absurd claimed Bool.false_ne_true⟩, ?_, halting⟩
    · rw [ran, split, List.map_append, List.append_assoc]
      exact List.prefix_append _ _
    · exact ⟨fun claimed => absurd claimed Bool.false_ne_true, fun both => absurd refused (both.2 entry member)⟩
  · intro missing part here
    obtain ⟨went, scanned, ⟨⟨unscanned, split⟩, ran⟩, found⟩ := here
    apply emits_bind _ _ _ _ _ (emits_weaken _ _ _ _ _ (emits_exec host _) (fun _ _ held => held) fun _ _ never => never.elim)
    intro said last same
    refine emits_pure _ _ _ ?_
    rw [List.append_nil, same]
    apply follows_end ready yes part went
    rw [ran]
    cases missing with
    | none => exact ⟨scanned, [], patch, by rw [List.append_nil]; exact found, rfl, Or.inl ⟨rfl, rfl⟩⟩
    | some table => exact ⟨scanned, unscanned, promoteTable table patch, split, rfl, Or.inr ⟨table, found, rfl⟩⟩

theorem following_wider (whole wider : List Execution → Prop) (ready : Prop) (m : ExecM OpResult OpResult)
    (wide : ∀ all, whole all → wider all) (following : Following whole ready m) : Following wider ready m := by
  have widen : ∀ (result : OpResult) (part : Ran), Follows whole ready result.ok part → Follows wider ready result.ok part :=
    fun result part here => ⟨Exists.imp (fun all held => ⟨wide all held.1, held.2⟩) here.planned, here.verdict, here.halting⟩
  exact emits_weaken _ _ _ _ _ following widen widen

section Ops
variable (op : ApplyOp)

theorem following_client (onClient : op.onClient ≠ "") :
    Following (Whole host server node op) (Runnable server op) (applyClient host server op) := by
  have runnable : Runnable server op = (op.shell ≠ [] ∧ ∃ container, probeHost server op.onClient = .ok container) := if_pos onClient
  have whole : ∀ all, (∀ container, probeHost server op.onClient = .ok container → all = op.shell.map (clientAt container)) →
      Whole host server node op all := by
    intro all held
    rw [Whole, if_pos onClient]
    exact held
  rw [applyClient]
  cases registered : probeHost server op.onClient with
  | error reason =>
      refine emits_pure _ _ _ (follows_none _ _ [] (whole [] fun container known => ?_) fun ready => ?_)
      · rw [registered] at known
        cases known
      · rw [runnable, registered] at ready
        obtain ⟨_, container, known⟩ := ready
        cases known
  | ok container =>
      apply emits_ite
      · intro empty
        refine emits_pure _ _ _ (follows_none _ _ [] (whole [] fun other known => ?_) fun ready => ?_)
        · rw [empty]
          rfl
        · rw [runnable] at ready
          exact absurd empty ready.1
      · intro given
        have ready : Runnable server op := by
          rw [runnable]
          exact ⟨given, container, registered⟩
        apply following_wider (fun all => all = op.shell.map (clientAt container))
        · intro all held
          apply whole
          intro other known
          rw [registered] at known
          cases known
          exact held
        · exact following_commands host _ ready _ (clientAt container) (fun command => rfl) [] op.shell

-- An op's program does what the op says.
theorem following_op (kind : String) (program : ExecM OpResult OpResult) (chosen : opProgram host server node op = some (kind, program)) :
    kindOf op = some kind ∧ Following (Whole host server node op) (Runnable server op) program := by
  unfold opProgram at chosen
  unfold kindOf
  by_cases onClient : op.onClient ≠ ""
  · rw [if_pos onClient] at chosen ⊢
    obtain ⟨rfl, rfl⟩ := Prod.mk.inj (Option.some.inj chosen)
    exact ⟨rfl, following_client host server node op onClient⟩
  · have ready : (op.gcu ≠ [] ∨ op.redis ≠ [] ∨ op.shell ≠ [] ∨ op.vtysh ≠ [] ∨ op.frrConf ≠ []) → Runnable server op := by
      intro given
      rw [Runnable, if_neg onClient]
      exact given
    rw [if_neg onClient] at chosen ⊢
    by_cases gcu : op.gcu ≠ []
    · rw [if_pos gcu] at chosen ⊢
      obtain ⟨rfl, rfl⟩ := Prod.mk.inj (Option.some.inj chosen)
      refine ⟨rfl, following_wider _ _ _ _ (fun all held => ?_) (following_gcu host server node _ (ready (Or.inl gcu)) op.gcu)⟩
      rw [Whole, if_neg onClient, if_pos gcu]
      exact held
    · rw [if_neg gcu] at chosen ⊢
      by_cases redis : op.redis ≠ []
      · rw [if_pos redis] at chosen ⊢
        obtain ⟨rfl, rfl⟩ := Prod.mk.inj (Option.some.inj chosen)
        refine ⟨rfl, following_wider _ _ _ _ (fun all held => ?_) (following_commands host _ (ready (Or.inr (Or.inl redis))) _
          (shellAt server node) (fun command => rfl) [] _)⟩
        rw [Whole, if_neg onClient, if_neg gcu, if_pos redis]
        exact held
      · rw [if_neg redis] at chosen ⊢
        by_cases shell : op.shell ≠ []
        · rw [if_pos shell] at chosen ⊢
          obtain ⟨rfl, rfl⟩ := Prod.mk.inj (Option.some.inj chosen)
          refine ⟨rfl, following_wider _ _ _ _ (fun all held => ?_) (following_commands host _ (ready (Or.inr (Or.inr (Or.inl shell)))) _
            (shellAt server node) (fun command => rfl) [] _)⟩
          rw [Whole, if_neg onClient, if_neg gcu, if_neg redis, if_pos shell]
          exact held
        · rw [if_neg shell] at chosen ⊢
          by_cases vtysh : op.vtysh ≠ []
          · rw [if_pos vtysh] at chosen ⊢
            obtain ⟨rfl, rfl⟩ := Prod.mk.inj (Option.some.inj chosen)
            refine ⟨rfl, following_once host _ (ready (Or.inr (Or.inr (Or.inr (Or.inl vtysh))))) _ _ ?_⟩
            rw [Whole, if_neg onClient, if_neg gcu, if_neg redis, if_neg shell, if_pos vtysh]
            rfl
          · rw [if_neg vtysh] at chosen ⊢
            by_cases frrConf : op.frrConf ≠ []
            · rw [if_pos frrConf] at chosen ⊢
              obtain ⟨rfl, rfl⟩ := Prod.mk.inj (Option.some.inj chosen)
              refine ⟨rfl, following_once host _ (ready (Or.inr (Or.inr (Or.inr (Or.inr frrConf))))) _ _ ?_⟩
              rw [Whole, if_neg onClient, if_neg gcu, if_neg redis, if_neg shell, if_neg vtysh, if_pos frrConf]
              rfl
            · rw [if_neg frrConf] at chosen
              cases chosen

theorem op_unfit (none : opProgram host server node op = none) :
    kindOf op = .none ∧ Whole host server node op [] ∧ ¬ Runnable server op := by
  unfold opProgram at none
  unfold kindOf Whole Runnable
  by_cases onClient : op.onClient ≠ ""
  · rw [if_pos onClient] at none
    cases none
  · rw [if_neg onClient] at none ⊢
    rw [if_neg onClient, if_neg onClient]
    by_cases gcu : op.gcu ≠ []
    · rw [if_pos gcu] at none
      cases none
    · rw [if_neg gcu] at none ⊢
      rw [if_neg gcu]
      by_cases redis : op.redis ≠ []
      · rw [if_pos redis] at none
        cases none
      · rw [if_neg redis] at none ⊢
        rw [if_neg redis]
        by_cases shell : op.shell ≠ []
        · rw [if_pos shell] at none
          cases none
        · rw [if_neg shell] at none ⊢
          rw [if_neg shell]
          by_cases vtysh : op.vtysh ≠ []
          · rw [if_pos vtysh] at none
            cases none
          · rw [if_neg vtysh] at none ⊢
            rw [if_neg vtysh]
            by_cases frrConf : op.frrConf ≠ []
            · rw [if_pos frrConf] at none
              cases none
            · rw [if_neg frrConf, if_neg frrConf]
              refine ⟨rfl, rfl, fun given => ?_⟩
              simp only [gcu, redis, shell, vtysh, frrConf, or_self] at given

theorem emits_op (i : Nat) :
    Emits (applyOp (ε := ε) host server node i op)
      (fun result part => result.kind = placeOf i op ∧ Follows (Whole host server node op) (Runnable server op) result.ok part)
      (fun _ _ => False) := by
  unfold applyOp
  dsimp only
  cases chosen : opProgram host server node op with
  | none =>
      obtain ⟨unnamed, whole, unready⟩ := op_unfit host server node op chosen
      refine emits_pure _ _ _ ⟨?_, follows_none _ _ [] whole unready⟩
      rw [placeOf, unnamed]
  | some both =>
      obtain ⟨kind, program⟩ := both
      obtain ⟨named, following⟩ := following_op host server node op kind program chosen
      have settled : Emits (settle (ε := ε) program) (fun result part => Follows (Whole host server node op) (Runnable server op) result.ok part)
          (fun _ _ => False) := by
        intro ran
        obtain ⟨more, added, reached⟩ := following ran
        rw [settle]
        cases outcome : program ran with
        | mk ran' result =>
            rw [outcome] at added reached
            cases result with
            | ok value => exact ⟨more, added, reached⟩
            | error value => exact ⟨more, added, reached⟩
      apply emits_bind _ _ _ _ _ settled
      intro result part here
      refine emits_pure _ _ _ ⟨?_, ?_⟩
      · rw [placeOf, named]
      · rw [List.append_nil]
        exact here

end Ops

theorem emits_ops (i : Nat) (ops : List ApplyOp) :
    Emits (runOps (ε := ε) host server node i ops) (fun results part => Told host server node i ops results part) (fun _ _ => False) := by
  induction ops generalizing i with
  | nil => exact emits_pure _ _ _ (Told.done i)
  | cons op rest ih =>
      rw [runOps]
      apply emits_bind _ _ _ _ _ (emits_op host server node op i)
      intro result part here
      apply emits_ite
      · intro ok
        apply emits_bind _ _ _ _ _ (emits_weaken _ _ _ _ _ (ih (i + 1)) (fun _ _ held => held) fun _ _ never => never.elim)
        intro results later told
        refine emits_pure _ _ _ ?_
        rw [List.append_nil]
        rw [ok] at here
        exact Told.through i op rest result results part later here.1 ok here.2 told
      · intro refused
        refine emits_pure _ _ _ ?_
        have failed : result.ok = false := Bool.eq_false_iff.mpr refused
        rw [List.append_nil]
        rw [failed] at here
        exact Told.stopped i op rest result part here.1 failed here.2

end Programs

section Consequences
variable (host : Host) (server : Server) (node : String)

theorem told_ok (i : Nat) (ops : List ApplyOp) (results : List OpResult) (more : Ran) (told : Told host server node i ops results more) :
    (results.all OpResult.ok = true ↔ (∀ op ∈ ops, Runnable server op) ∧ ∀ entry ∈ more, ¬ Refused entry) ∧ Halting Refused more := by
  induction told with
  | done i => exact ⟨⟨fun _ => ⟨fun _ member => absurd member List.not_mem_nil, fun _ member => absurd member List.not_mem_nil⟩, fun _ => rfl⟩,
      halting_nil Refused⟩
  | through i op ops result results part later kind ok here rest ih =>
      obtain ⟨ready, went⟩ := here.verdict.mp rfl
      refine ⟨?_, halting_append Refused part later went ih.2⟩
      rw [List.all_cons, ok, Bool.true_and, ih.1, List.forall_mem_cons, List.forall_mem_append]
      exact ⟨fun both => ⟨⟨ready, both.1⟩, went, both.2⟩, fun both => ⟨both.1.2, both.2.2⟩⟩
  | stopped i op ops result part kind failed here =>
      refine ⟨?_, here.halting⟩
      rw [List.all_cons, failed, Bool.false_and]
      refine ⟨fun claimed => absurd claimed Bool.false_ne_true, fun both => ?_⟩
      exact here.verdict.mpr ⟨both.1 op List.mem_cons_self, both.2⟩

theorem told_whole (i : Nat) (ops : List ApplyOp) (results : List OpResult) (more : Ran) (told : Told host server node i ops results more)
    (ok : results.all OpResult.ok = true) : results.length = ops.length := by
  induction told with
  | done i => rfl
  | through i op ops result results part later kind fine here rest ih =>
      rw [List.all_cons, fine, Bool.true_and] at ok
      rw [List.length_cons, List.length_cons, ih ok]
  | stopped i op ops result part kind failed here =>
      rw [List.all_cons, failed, Bool.false_and] at ok
      exact absurd ok Bool.false_ne_true

/- The answer to an apply request accounts for all that it has run: nothing where it is
   refused; else, op by op, the commands of the results in the request's order, nothing
   behind a command that failed, and the whole request where the response is ok. -/
theorem apply_accounted (method : String) (body : Except String (String × List ApplyOp)) (ran : Ran) :
    ∃ more, (handleApply (ε := Empty) host server method body ran).1 = ran ++ more ∧
      ((∃ refusal, (handleApply (ε := Empty) host server method body ran).2 = .ok (.error refusal) ∧ more = []) ∨
        ∃ asked ops key response, method = "POST" ∧ body = .ok (asked, ops) ∧ nodeFor server.nodeMap asked = some key ∧
          (handleApply (ε := Empty) host server method body ran).2 = .ok (.ok response) ∧ response.node = asked ∧
          Told host server key 0 ops response.results more ∧ Halting Refused more ∧
          (response.ok = true ↔ (∀ op ∈ ops, Runnable server op) ∧ ∀ entry ∈ more, ¬ Refused entry) ∧
          (response.ok = true → response.results.length = ops.length)) := by
  unfold handleApply
  cases body with
  | error reason =>
      dsimp only
      by_cases post : method ≠ "POST"
      · rw [if_pos post]
        exact ⟨[], (List.append_nil ran).symm, Or.inl ⟨_, rfl, rfl⟩⟩
      · rw [if_neg post]
        exact ⟨[], (List.append_nil ran).symm, Or.inl ⟨_, rfl, rfl⟩⟩
  | ok sent =>
      obtain ⟨asked, ops⟩ := sent
      dsimp only
      cases found : resolved server method asked with
      | error refusal => exact ⟨[], (List.append_nil ran).symm, Or.inl ⟨_, rfl, rfl⟩⟩
      | ok key =>
          obtain ⟨post, named⟩ := resolved_some server method asked key found
          obtain ⟨more, added, reached⟩ := emits_ops (ε := Empty) host server key 0 ops ran
          dsimp only
          rw [bind_run]
          cases outcome : runOps (ε := Empty) host server key 0 ops ran with
          | mk ran' result =>
              rw [outcome] at added reached
              cases result with
              | error impossible => exact impossible.elim
              | ok results =>
                  have told : Told host server key 0 ops results more := reached
                  obtain ⟨verdict, halting⟩ := told_ok host server key 0 ops results more told
                  exact ⟨more, added, Or.inr ⟨asked, ops, key, _, post, rfl, named, rfl, rfl, told, halting, verdict,
                    told_whole host server key 0 ops results more told⟩⟩

end Consequences

/- The ops of a Network plan on the wire. Over them the handler is the one of Apply.lean,
   with the devices saying what the commands of an op came to. -/
section Refinement

def wireStep : GcuStep → PatchStep
  | .add path value => { op := "add", path, value := some (.obj (value.map fun entry => (entry.1, .str entry.2))) }
  | .remove path => { op := "remove", path, value := none }

def wireOp (op : NetworkOp) : ApplyOp := {
  gcu := op.gcu.map wireStep
  redis := op.redis.map RedisCommand.pieces
  shell := op.shell.map NetworkCommand.pieces
  vtysh := op.vtysh
  frrConf := op.frrConf
  onClient := op.onClient
}

theorem wire_kind (op : NetworkOp) : kindOf (wireOp op) = opKind op := by
  have kept : ∀ {α β : Type} (f : α → β) (items : List α), items.map f ≠ [] ↔ items ≠ [] := fun f items => not_congr List.map_eq_nil_iff
  exact if_congr Iff.rfl rfl (if_congr (kept wireStep op.gcu) rfl (if_congr (kept RedisCommand.pieces op.redis) rfl
    (if_congr (kept NetworkCommand.pieces op.shell) rfl rfl)))

variable (isPrint : Char → Bool)

def shownText (message : Message) : String := String.ofList (Message.chars isPrint message)

def shown (result : OpResult) : FabricExecutor.OpResult :=
  { kind := result.kind, ok := result.ok, output := shownText isPrint result.output, error := shownText isPrint result.error }

def saidBy (result : OpResult) : DeviceAnswer :=
  { ok := result.ok, output := shownText isPrint result.output, error := shownText isPrint result.error }

variable {ε : Type} (host : Host) (server : Server) (node : String) (devices : Devices)

theorem op_refines (i : Nat) (op : NetworkOp) (ran ran' : Ran) (result : OpResult)
    (outcome : applyOp (ε := ε) host server node i (wireOp op) ran = (ran', .ok result)) (said : devices i op = saidBy isPrint result) :
    FabricExecutor.applyOp devices i op = shown isPrint result := by
  rw [FabricExecutor.applyOp, ← wire_kind, said]
  unfold applyOp at outcome
  dsimp only at outcome ⊢
  cases chosen : opProgram host server node (wireOp op) with
  | none =>
      rw [chosen] at outcome
      rw [(op_unfit host server node (wireOp op) chosen).1]
      cases outcome
      rfl
  | some both =>
      obtain ⟨kind, program⟩ := both
      rw [chosen] at outcome
      rw [(following_op host server node (wireOp op) kind program chosen).1]
      dsimp only at outcome ⊢
      rw [bind_run] at outcome
      cases settled : settle (ε := ε) program ran with
      | mk mid ended =>
          rw [settled] at outcome
          cases ended with
          | error never => cases outcome
          | ok given =>
              cases outcome
              rfl

theorem ops_refine (i : Nat) (ops : List NetworkOp) (ran ran' : Ran) (results : List OpResult)
    (outcome : runOps (ε := ε) host server node i (ops.map wireOp) ran = (ran', .ok results))
    (said : ∀ j result, results[j]? = some result → ∀ op, devices (i + j) op = saidBy isPrint result) :
    FabricExecutor.runOps devices i ops = results.map (shown isPrint) := by
  induction ops generalizing i ran results with
  | nil =>
      cases outcome
      rfl
  | cons op rest ih =>
      rw [List.map_cons, runOps, bind_run] at outcome
      cases first : applyOp (ε := ε) host server node i (wireOp op) ran with
      | mk mid ended =>
          rw [first] at outcome
          cases ended with
          | error never => cases outcome
          | ok result =>
              have refines : devices i op = saidBy isPrint result → FabricExecutor.applyOp devices i op = shown isPrint result :=
                op_refines isPrint host server node devices i op ran mid result first
              dsimp only at outcome
              by_cases ok : result.ok = true
              · rw [if_pos ok, bind_run] at outcome
                cases others : runOps (ε := ε) host server node (i + 1) (rest.map wireOp) mid with
                | mk last ended =>
                    rw [others] at outcome
                    cases ended with
                    | error never => cases outcome
                    | ok later =>
                        cases outcome
                        have here := refines (said 0 result rfl op)
                        have going : (FabricExecutor.applyOp devices i op).ok = true := by rw [here]; exact ok
                        rw [FabricExecutor.runOps, List.map_cons, if_pos going, here, ih (i + 1) mid later others]
                        intro j other listed op
                        rw [Nat.add_assoc, Nat.add_comm 1 j]
                        exact said (j + 1) other listed op
              · rw [if_neg ok] at outcome
                cases outcome
                have here := refines (said 0 result rfl op)
                have stopped : ¬ (FabricExecutor.applyOp devices i op).ok = true := by rw [here]; exact ok
                rw [FabricExecutor.runOps, if_neg stopped, here]
                rfl

def shownResponse (response : ApplyResponse) : FabricExecutor.ApplyResponse :=
  { node := response.node, ok := response.ok, results := response.results.map (shown isPrint) }

theorem apply_refines (ops : List NetworkOp) (ran : Ran) :
    ∃ (devices : Devices) (outcome : Except Refusal ApplyResponse),
      (handleApply (ε := Empty) host server "POST" (.ok (node, ops.map wireOp)) ran).2 = .ok outcome ∧
      FabricExecutor.handleApply server.nodeMap devices (.ok (node, ops)) =
        match outcome with
        | .error refusal => .error refusal.2
        | .ok response => .ok (shownResponse isPrint response) := by
  unfold handleApply FabricExecutor.handleApply
  dsimp only
  rw [resolved, if_neg fun other => absurd rfl other]
  cases named : nodeFor server.nodeMap node with
  | none => exact ⟨fun _ _ => { ok := true }, _, rfl, rfl⟩
  | some key =>
      dsimp only
      rw [bind_run]
      cases outcome : runOps (ε := Empty) host server key 0 (ops.map wireOp) ran with
      | mk ran' ended =>
          cases ended with
          | error impossible => exact impossible.elim
          | ok results =>
              have refined := ops_refine isPrint host server key (fun i _ => (results[i]?.map (saidBy isPrint)).getD { ok := true }) 0 ops ran ran'
                results outcome fun j result listed op => by rw [Nat.zero_add, listed]; rfl
              refine ⟨fun i _ => (results[i]?.map (saidBy isPrint)).getD { ok := true }, _, rfl, ?_⟩
              rw [refined, List.all_map]
              rfl

end Refinement

end AgenticNetops.FabricExecutor.Southbound
