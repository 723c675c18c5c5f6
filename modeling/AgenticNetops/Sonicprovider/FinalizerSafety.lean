import AgenticNetops.Sonicprovider.NetworkWorld

set_option autoImplicit false

/- What is left on the devices when a Network's finalizer goes. The rollback that a
   deletion runs is rendered from the spec of that moment, and any answer counts as done. -/
namespace AgenticNetops.Sonicprovider

open GoText Kubenet Fabricplan FabricExecutor Pending Runs

-- An apply call of which some op ran on the node.
def Applied (e : Executed) : Prop := e.phase = .apply ∧ e.results ≠ []

-- A rollback that ran through on the same device and has every op of the rollback of e's plan.
def RolledBack (later e : Executed) : Prop :=
  later.phase = .rollback ∧ later.device ≠ none ∧ later.device = e.device ∧ later.results.all OpResult.ok = true ∧
    ∀ op ∈ e.undo, op ∈ later.ops

def RefusedNode (later e : Executed) : Prop := later.refused = true ∧ normalizeNode later.node = normalizeNode e.node

def Settles (later e : Executed) : Prop := RolledBack later e ∨ RefusedNode later e

instance (e : Executed) : Decidable (Applied e) := inferInstanceAs (Decidable (e.phase = .apply ∧ e.results ≠ []))

instance (later e : Executed) : Decidable (Settles later e) :=
  inferInstanceAs (Decidable
    ((later.phase = .rollback ∧ later.device ≠ none ∧ later.device = e.device ∧ later.results.all OpResult.ok = true ∧
      ∀ op ∈ e.undo, op ∈ later.ops) ∨
     (later.refused = true ∧ normalizeNode later.node = normalizeNode e.node)))

-- What was applied on a node and has neither been rolled back nor refused there since.
abbrev Left (log : List Executed) (e : Executed) : Prop := Open Applied Settles log e

def Held (w : World) : Prop := ∃ net ∈ w.object, networkFinalizer ∈ net.finalizers

instance (w : World) : Decidable (Held w) := inferInstanceAs (Decidable (∃ net ∈ w.object, networkFinalizer ∈ net.finalizers))

-- The step removes the finalizer only where nothing is left.
def FinalizerSafe (site : Site) (w : World) (action : Action) : Prop :=
  ∀ w', Step site w action w' → Held w → ¬ Held w' → ∀ e, ¬ Left w'.log e

/- The rendered spec has a node whose rollback settles e: the executor refuses the node,
   or every op succeeds and the ops of e's own rollback are among them. -/
def Covers (site : Site) (answers : Answers) (net : NetworkObject) (e : Executed) : Prop :=
  ∃ plan, site.plan net.network = .ok plan ∧
    ∃ node np, plan.get? node = some np ∧ np.rollback ≠ [] ∧ Settles (executed answers .rollback np node) e

-- A deletion whose calls are all answered and whose update lands.
def Releases (site : Site) (answers : Answers) (net : NetworkObject) : Prop :=
  net.deletionTimestamp.isSome = true ∧ networkFinalizer ∈ net.finalizers ∧ answers.update = true ∧
    ∀ plan, site.plan net.network = .ok plan → Heard answers plan plan.keys

-- A deletion that gets through covers everything that is left of every version.
def HistoryCovered (site : Site) (w : World) (action : Action) : Prop :=
  match action with
  | .reconcile answers => ∀ net ∈ w.object, Releases site answers net → ∀ e, Left w.log e → Covers site answers net e
  | _ => True

section Release
variable (site : Site) (answers : Answers) (net : NetworkObject)

theorem sorted_keys_iff {α : Type} (m : GoMap α) (key : String) : key ∈ m.sortedKeys ↔ key ∈ m.keys := by
  rw [GoMap.sortedKeys, sortStrings]
  exact List.mem_insertionSort _

theorem roll_back_through_iff :
    (rollBack site answers net).2 = true ↔ ∀ plan, site.plan net.network = .ok plan → Heard answers plan plan.keys := by
  rw [rollBack]
  cases rendered : site.plan net.network with
  | error message => simp
  | ok plan =>
      have sorted : Heard answers plan plan.sortedKeys ↔ Heard answers plan plan.keys :=
        forall_congr' fun node => imp_congr (sorted_keys_iff plan node) Iff.rfl
      simp only [rollback_nodes_through_iff, sorted, Except.ok.injEq, forall_eq']

theorem roll_back_settles_iff (through : (rollBack site answers net).2 = true) (e : Executed) :
    (∃ f ∈ (rollBack site answers net).1, Settles f e) ↔ Covers site answers net e := by
  rw [rollBack] at through ⊢
  rw [Covers]
  cases rendered : site.plan net.network with
  | error message => simp
  | ok plan =>
      simp only [rendered] at through ⊢
      constructor
      · intro settled
        obtain ⟨f, called, settles⟩ := settled
        obtain ⟨node, _, np, found, some', rfl⟩ := (rollback_nodes_calls answers plan plan.sortedKeys through f).mp called
        exact ⟨plan, rfl, node, np, found, some', settles⟩
      · intro covered
        obtain ⟨other, same, node, np, found, some', settles⟩ := covered
        cases same
        have listed : node ∈ plan.sortedKeys := (sorted_keys_iff plan node).mpr ((keys_mem_iff plan node).mpr ⟨np, found⟩)
        exact ⟨_, (rollback_nodes_calls answers plan plan.sortedKeys through _).mpr ⟨node, listed, np, found, some', rfl⟩, settles⟩

theorem roll_back_phase (f : Executed) (called : f ∈ (rollBack site answers net).1) : f.phase = .rollback := by
  rw [rollBack] at called
  cases rendered : site.plan net.network with
  | error message => simp [rendered] at called
  | ok plan =>
      simp only [rendered] at called
      exact rollback_nodes_phase answers plan plan.sortedKeys f called

theorem released_unheld (log : List Executed) : ¬ Held { object := released net, log } := by
  intro held
  obtain ⟨left, there, member⟩ := held
  change left ∈ released net at there
  by_cases alone : net.finalizers.filter (· ≠ networkFinalizer) = []
  · simp only [released, if_pos alone] at there
    cases there
  · simp only [released, if_neg alone] at there
    cases there
    have other := List.of_mem_filter member
    exact absurd rfl (of_decide_eq_true other)

theorem set_conditions_finalizers (ready : Bool) (reason : String) (message : Message) :
    (setConditions answers net ready reason message).finalizers = net.finalizers := by
  rw [setConditions]
  split
  · rfl
  · rfl

theorem converge_object :
    ∃ ready reason message, (converge site answers net).object = some (setConditions answers net ready reason message) := by
  rw [converge]
  split
  · exact ⟨_, _, _, rfl⟩
  · split
    · exact ⟨_, _, _, rfl⟩
    · split
      · exact ⟨_, _, _, rfl⟩
      · exact ⟨_, _, _, rfl⟩

-- Only a deletion that is heard out and lands takes the finalizer.
theorem reconcile_releases_iff (log : List Executed) (held : networkFinalizer ∈ net.finalizers) :
    ¬ Held { object := (reconcile site answers net).object, log } ↔ Releases site answers net := by
  have stays (kept : NetworkObject) (same : kept.finalizers = net.finalizers) : Held { object := some kept, log } :=
    ⟨kept, rfl, by rw [same]; exact held⟩
  rw [Releases, reconcile, ← roll_back_through_iff]
  by_cases deleting : net.deletionTimestamp.isSome = true
  · rw [if_pos deleting, finalize]
    by_cases through : (rollBack site answers net).2 = true
    · by_cases lands : answers.update = true
      · simp [deleting, held, through, lands, released_unheld net log]
      · simp [through, lands, stays net rfl]
    · simp [through, stays net rfl]
  · rw [if_neg deleting, if_neg (not_not.mpr held)]
    have unreleased : ¬ (net.deletionTimestamp.isSome = true ∧ networkFinalizer ∈ net.finalizers ∧ answers.update = true ∧
        (rollBack site answers net).2 = true) := fun releases => deleting releases.1
    rw [iff_false_right unreleased, not_not]
    obtain ⟨ready, reason, message, object⟩ := converge_object site answers net
    rw [object]
    exact stays _ (set_conditions_finalizers answers net ready reason message)

theorem finalize_calls : (finalize site answers net).calls = (rollBack site answers net).1 := by
  rw [finalize]
  cases rollBack site answers net with
  | mk calls through =>
      cases through with
      | false => rfl
      | true => cases answers.update <;> rfl

-- Without the finalizer in place, a reconcile applies nothing.
theorem unheld_calls (unheld : networkFinalizer ∉ net.finalizers) (f : Executed) (called : f ∈ (reconcile site answers net).calls) :
    f.phase = .rollback := by
  rw [reconcile] at called
  by_cases deleting : net.deletionTimestamp.isSome = true
  · rw [if_pos deleting] at called
    rw [finalize_calls] at called
    exact roll_back_phase site answers net f called
  · rw [if_neg deleting, if_pos unheld] at called
    split at called
    · cases called
    · cases called

theorem releases_calls (releases : Releases site answers net) : (reconcile site answers net).calls = (rollBack site answers net).1 := by
  rw [reconcile, if_pos releases.1, finalize_calls]

end Release

section Steps
variable (site : Site) (w : World) (action : Action)

-- A step of any other kind keeps the finalizer that is there.
theorem finalizer_kept (net : NetworkObject) (held : networkFinalizer ∈ net.finalizers) :
    (∀ spec, Held { w with object := some (edited net spec) }) ∧ ∀ now, Held { w with object := deleted net now } := by
  refine ⟨fun spec => ⟨edited net spec, rfl, held⟩, ?_⟩
  intro now
  have some' : net.finalizers ≠ [] := List.ne_nil_of_mem held
  exact ⟨{ net with deletionTimestamp := some now }, by rw [deleted, if_neg some']; rfl, held⟩

theorem unopened (calls : List Executed) (rollbacks : ∀ f ∈ calls, f.phase = .rollback) (e : Executed) : ¬ Left calls e := by
  intro fresh
  obtain ⟨member, applied⟩ := open_mem Applied Settles _ e fresh
  rw [Applied, rollbacks e member] at applied
  exact absurd applied.1 (by decide)

theorem history_covered_iff (possible : ∃ w', Step site w action w') : HistoryCovered site w action ↔ FinalizerSafe site w action := by
  obtain ⟨w', step⟩ := possible
  obtain ⟨net, present, kind⟩ := step_reads site w w' action step
  have only (other : World) (again : Step site w action other) : other = w' := Option.some.inj (again.symm.trans step)
  have holder (held : Held w) : networkFinalizer ∈ net.finalizers := by
    obtain ⟨stored, there, member⟩ := held
    rw [present] at there
    cases there
    exact member
  rcases kind with ⟨spec, rfl, ends⟩ | ⟨now, rfl, _, ends⟩ | ⟨answers, rfl, ends⟩
  · refine ⟨fun _ other again held gone => ?_, fun _ => trivial⟩
    rw [only other again, ends] at gone
    exact absurd ((finalizer_kept w net (holder held)).1 spec) gone
  · refine ⟨fun _ other again held gone => ?_, fun _ => trivial⟩
    rw [only other again, ends] at gone
    exact absurd ((finalizer_kept w net (holder held)).2 now) gone
  · have left (releases : Releases site answers net) (e : Executed) :
        Left w'.log e ↔ Left w.log e ∧ ¬ Covers site answers net e := by
      have through := (roll_back_through_iff site answers net).mpr releases.2.2.2
      have opened : ¬ Left (rollBack site answers net).1 e := unopened _ (roll_back_phase site answers net) e
      rw [ends, Left, releases_calls site answers net releases, open_append, or_iff_left opened,
        ← roll_back_settles_iff site answers net through e]
      simp only [not_exists, not_and]
    constructor
    · intro covered other again held gone e pending
      rw [only other again] at gone pending
      rw [ends] at gone
      have releases := (reconcile_releases_iff site answers net _ (holder held)).mp gone
      obtain ⟨earlier, uncovered⟩ := (left releases e).mp pending
      exact uncovered (covered net present releases e earlier)
    · intro safe stored there releases e pending
      rw [present] at there
      cases there
      by_contra uncovered
      have held : Held w := ⟨net, present, releases.2.1⟩
      have gone : ¬ Held w' := by
        rw [ends]
        exact (reconcile_releases_iff site answers net _ releases.2.1).mpr releases
      exact safe w' step held gone e ((left releases e).mpr ⟨pending, uncovered⟩)

-- What a covered step preserves: something left means the finalizer is still there.
theorem left_held_step (w' : World) (held : ∀ e, Left w.log e → Held w) (covered : HistoryCovered site w action)
    (step : Step site w action w') : ∀ e, Left w'.log e → Held w' := by
  intro e pending
  have safe := (history_covered_iff site w action ⟨w', step⟩).mp covered
  by_contra gone
  obtain ⟨net, present, kind⟩ := step_reads site w w' action step
  by_cases holding : Held w
  · exact safe w' step holding gone e pending
  · have before : ¬ Left w.log e := fun earlier => holding (held e earlier)
    rcases kind with ⟨spec, rfl, ends⟩ | ⟨now, rfl, _, ends⟩ | ⟨answers, rfl, ends⟩
    · rw [ends] at pending
      exact before pending
    · rw [ends] at pending
      exact before pending
    · have unheld : networkFinalizer ∉ net.finalizers := fun member => holding ⟨net, present, member⟩
      rw [ends, Left, open_append] at pending
      cases pending with
      | inl earlier => exact before earlier.1
      | inr fresh => exact unopened _ (unheld_calls site answers net unheld) e fresh

end Steps

/- In a run, the finalizer only goes where nothing is left of any version if and only if
   every deletion that gets through covers what is left. -/
theorem finalizer_safe_iff (site : Site) (net : NetworkObject) (actions : List Action) (w : World) :
    Reached site (HistoryCovered site) net actions w ↔ Reached site (FinalizerSafe site) net actions w := by
  constructor
  · intro run
    induction run with
    | start => exact .start _
    | snoc labels mid label final _ covered last ih =>
        exact .snoc _ labels mid label final ih ((history_covered_iff site mid label ⟨final, last⟩).mp covered) last
  · intro run
    induction run with
    | start => exact .start _
    | snoc labels mid label final _ safe last ih =>
        exact .snoc _ labels mid label final ih ((history_covered_iff site mid label ⟨final, last⟩).mpr safe) last

/- In such a run, whatever state it reaches: where the finalizer is not in place, nothing
   is left on any device. -/
theorem nothing_left_unheld (site : Site) (net : NetworkObject) (actions : List Action) (w : World)
    (run : Reached site (HistoryCovered site) net actions w) (unheld : ¬ Held w) (e : Executed) : ¬ Left w.log e := by
  have invariant := run_invariant (Step site) (HistoryCovered site) (fun w => ∀ e, Left w.log e → Held w)
    (fun s label s' held covered step => left_held_step site s label s' held covered step) (startWorld net) actions w
    (fun e pending => absurd pending id) run
  exact fun pending => unheld (invariant e pending)

/- A local VLAN is applied on leaf01; then its spec is edited to a VLAN of the reserved
   band, and the Network is deleted. -/
def labSite : Site := { ports := [("wan1", "Ethernet12")] }

def labNetwork (vlan : Int) : Network :=
  { name := "red", vlans := [⟨"red", vlan⟩], attachments := [{ node := "leaf01", attachment := "wan1", vlan }] }

def labAnswers : Answers :=
  { exchange := fun _ _ => { nodeMap := [("leaf01", "clab-leaf01")], devices := fun _ _ => { ok := true } }
    verify := fun _ => .ok [] }

def labObject : NetworkObject := { network := labNetwork 10 }

def labEditedOut : List Action := [.reconcile labAnswers, .reconcile labAnswers, .edit (labNetwork 4050), .delete 1]

def labWorld : World := (play (World.next labSite) (startWorld labObject) labEditedOut).getD (startWorld labObject)

def labReleased : World := (World.next labSite labWorld (.reconcile labAnswers)).getD labWorld

-- The spec does not render any more, so the finalizer goes and the VLAN stays on leaf01.
theorem lab_left_behind :
    Reached labSite (fun _ _ => True) labObject labEditedOut labWorld ∧
      ¬ FinalizerSafe labSite labWorld (.reconcile labAnswers) := by
  have played : Played (fun _ _ => True) (World.next labSite) (startWorld labObject) labEditedOut := by decide +kernel
  obtain ⟨final, ends⟩ := played_ends (fun _ _ => True) (World.next labSite) (startWorld labObject) labEditedOut played
  have reached : Reached labSite (fun _ _ => True) labObject labEditedOut labWorld := by
    rw [labWorld, ends]
    exact played_run (fun _ _ => True) (World.next labSite) (startWorld labObject) labEditedOut final played ends
  refine ⟨reached, ?_⟩
  intro safe
  have possible : (World.next labSite labWorld (.reconcile labAnswers)).isSome = true := by decide +kernel
  have step : Step labSite labWorld (.reconcile labAnswers) labReleased := by
    obtain ⟨final, ends⟩ := Option.isSome_iff_exists.mp possible
    rw [Step, labReleased, ends]
    rfl
  have left : ∃ e ∈ labReleased.log, e.node = "leaf01" ∧ Left labReleased.log e := by decide +kernel
  obtain ⟨e, _, _, pending⟩ := left
  exact safe labReleased step (by decide +kernel) (by decide +kernel) e pending

end AgenticNetops.Sonicprovider
