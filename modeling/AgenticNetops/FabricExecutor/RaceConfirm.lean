import AgenticNetops.FabricExecutor.ConfigPatch

set_option autoImplicit false

/- applyGCU's script, once the updater has failed with parts not updated: every step of the
   patch is looked up in CONFIG_DB by the text of its path. A path with an escape is
   looked up under another name, an empty value asks for nothing, and a field is compared
   after its text has been stripped. -/
namespace AgenticNetops.FabricExecutor

open GoText JsonValue

section Script

-- json.dumps with its own separators.
mutual

def dumpsSpaced : Json → List Char
  | .arr items => '[' :: dumpsSpacedItems items ++ [']']
  | .obj fields => '{' :: dumpsSpacedFields fields ++ ['}']
  | scalar => JsonText.dumps scalar

def dumpsSpacedItems : List Json → List Char
  | [] => []
  | item :: [] => dumpsSpaced item
  | item :: next :: rest => dumpsSpaced item ++ ',' :: ' ' :: dumpsSpacedItems (next :: rest)

def dumpsSpacedFields : List (String × Json) → List Char
  | [] => []
  | (key, value) :: [] => JsonText.quoted key ++ ':' :: ' ' :: dumpsSpaced value
  | (key, value) :: next :: rest =>
      JsonText.quoted key ++ ':' :: ' ' :: dumpsSpaced value ++ ',' :: ' ' :: dumpsSpacedFields (next :: rest)

end

def toText : Json → String
  | .str text => text
  | value => String.ofList (dumpsSpaced value)

-- What text=True makes of line ends.
def universalNewlines : List Char → List Char
  | '\r' :: '\n' :: rest => '\n' :: universalNewlines rest
  | '\r' :: rest => '\n' :: universalNewlines rest
  | c :: rest => c :: universalNewlines rest
  | [] => []

-- The text of a field as it comes back: sonic-db-cli prints it and a line break.
def shown (text : String) : String := PyText.strip (String.ofList (universalNewlines (text ++ "\n").toList))

-- A field that is not there prints an empty line.
def hget (db : ConfigDb) (key field : String) : String := shown ((db.hget key field).getD "")

def hexists (db : ConfigDb) (key : String) : Bool := (db.get? key).isSome

-- The pieces of a path between its slashes, the empty ones left out.
def parts (path : String) : List String := (split path '/').filter (· ≠ "")

inductive Verdict where
  | unsupported
  | contradicted
  | confirmed
deriving DecidableEq, Repr

def verdict (holds : Bool) : Verdict := if holds then .confirmed else .contradicted

def fieldsShow (db : ConfigDb) (key : String) (fields : List (String × Json)) : Bool :=
  fields.all fun entry => hget db key entry.1 = toText entry.2

def confirmStep (db : ConfigDb) (step : PatchStep) : Verdict :=
  if step.op ∉ ["add", "replace", "remove"] then .unsupported
  else
    match parts step.path with
    | [table, row] =>
        if step.op = "remove" then verdict (!hexists db (rowKey table row))
        else
          match step.value with
          | some (.obj fields) => verdict (fieldsShow db (rowKey table row) fields)
          | _ => .contradicted
    | [table, row, field] =>
        if step.op = "remove" then verdict (!hexists db (rowKey table row))
        else verdict (hget db (rowKey table row) field = toText (step.value.getD .null))
    | _ => .unsupported

-- The first step that is not confirmed ends the script.
def confirm (db : ConfigDb) : List PatchStep → Verdict
  | [] => .confirmed
  | step :: rest =>
      match confirmStep db step with
      | .confirmed => confirm db rest
      | other => other

inductive ScriptEnd where
  | applied
  | raised (error : String)
  | raceFailed
  | raceConfirmed
deriving DecidableEq, Repr

-- The script, with the answer of apply_patch and the CONFIG_DB that it leaves.
def gcuScript (answer : Except String Unit) (db : ConfigDb) (patch : List PatchStep) : ScriptEnd :=
  match answer with
  | .ok _ => .applied
  | .error error =>
      if contains error "still some parts not updated" then
        match confirm db patch with
        | .confirmed => .raceConfirmed
        | .contradicted => .raceFailed
        | .unsupported => .raised error
      else .raised error

end Script

section Meaning

/- CONFIG_DB keeps a scalar as its text, and a list under the field's name with an @
   behind it, its items joined by commas. -/
def storedField : String × Json → String × String
  | (field, .arr items) => (field ++ "@", join (items.map toText) ",")
  | (field, value) => (field, toText value)

def FieldHolds (db : ConfigDb) (key : String) (entry : String × Json) : Prop :=
  db.hget key (storedField entry).1 = some (storedField entry).2

-- A row without fields is kept with NULL as its only one.
def NothingElse (row : GoMap String) (fields : List (String × Json)) : Prop :=
  ∀ name ∈ row.keys, name ≠ "NULL" → name ∈ fields.map fun entry => (storedField entry).1

variable (alone : Bool)

-- With `alone`, the row may hold nothing beyond the fields that are given.
def RowHolds (db : ConfigDb) (key : String) (fields : List (String × Json)) : Prop :=
  ∃ row, db.get? key = some row ∧ (∀ entry ∈ fields, FieldHolds db key entry) ∧ (alone = true → NothingElse row fields)

def Absent (db : ConfigDb) : Address → Prop
  | .row key => db.get? key = none
  | .field key field => db.hget key field = none ∧ db.hget key (field ++ "@") = none

def Holds (db : ConfigDb) (value : Json) : Address → Prop
  | .row key => ∃ fields, value = .obj fields ∧ RowHolds alone db key fields
  | .field key field => FieldHolds db key (field, value)

def InEffect (db : ConfigDb) (step : PatchStep) : Prop :=
  if step.op = "remove" then ∀ place, address step.path = some place → Absent db place
  else ∃ place, address step.path = some place ∧ Holds alone db (step.value.getD .null) place

end Meaning

section Reading

-- What the script refuses to confirm.
def Unsupported (step : PatchStep) : Prop :=
  step.op ∉ ["add", "replace", "remove"] ∨ ¬ ((parts step.path).length = 2 ∨ (parts step.path).length = 3)

-- The fields that a step gives under a row, or those of the value of the row.
def given (value : Json) : List String → Option (List (String × Json))
  | field :: _ => some [(field, value)]
  | [] =>
      match value with
      | .obj fields => some fields
      | _ => none

def Shows (db : ConfigDb) (key : String) (entry : String × Json) : Prop := hget db key entry.1 = toText entry.2

/- CONFIG_DB shows, at the row and the fields that the text of the path names, something
   else than the step asks for. -/
def Contradicted (db : ConfigDb) (step : PatchStep) : Prop :=
  match parts step.path with
  | table :: row :: rest =>
      if step.op = "remove" then db.get? (rowKey table row) ≠ none
      else ∀ fields, given (step.value.getD .null) rest = some fields → ∃ entry ∈ fields, ¬ Shows db (rowKey table row) entry
  | _ => False

theorem verdict_confirmed (holds : Bool) : verdict holds = .confirmed ↔ holds = true := by
  cases holds with
  | true => exact ⟨fun _ => rfl, fun _ => rfl⟩
  | false => exact ⟨fun same => Verdict.noConfusion same, fun same => Bool.noConfusion same⟩

theorem fields_show_iff (db : ConfigDb) (key : String) (fields : List (String × Json)) :
    fieldsShow db key fields = true ↔ ∀ entry ∈ fields, Shows db key entry := by
  simp only [fieldsShow, List.all_eq_true, decide_eq_true_eq, Shows]

theorem given_row (step : PatchStep) (fields : List (String × Json)) :
    given (step.value.getD .null) [] = some fields ↔ step.value = some (.obj fields) := by
  cases value : step.value with
  | none => simp [given]
  | some held => cases held <;> simp [given]

-- A remove asks whether the row is there, whatever the path names below it.
theorem confirm_remove (db : ConfigDb) (step : PatchStep) (removes : step.op = "remove") :
    confirmStep db step = .confirmed ↔ ¬ Unsupported step ∧ ¬ Contradicted db step := by
  have known : ¬ step.op ∉ ["add", "replace", "remove"] := by
    rw [removes]
    decide
  rw [confirmStep, if_neg known]
  simp only [Unsupported, Contradicted, known, if_pos removes, false_or, not_not]
  match pieces : parts step.path with
  | [] => simp
  | [_] => simp
  | [table, row] => simp [verdict_confirmed, hexists]
  | [table, row, _] => simp [verdict_confirmed, hexists]
  | _ :: _ :: _ :: _ :: _ => simp

theorem confirm_write (db : ConfigDb) (step : PatchStep) (writes : step.op ≠ "remove") :
    confirmStep db step = .confirmed ↔ ¬ Unsupported step ∧ ¬ Contradicted db step := by
  by_cases known : step.op ∉ ["add", "replace", "remove"]
  · rw [confirmStep, if_pos known]
    exact ⟨fun same => Verdict.noConfusion same, fun ⟨supported, _⟩ => absurd (Or.inl known) supported⟩
  · rw [confirmStep, if_neg known]
    simp only [Unsupported, Contradicted, known, if_neg writes, false_or, not_not]
    match pieces : parts step.path with
    | [] => simp
    | [_] => simp
    | [table, row] =>
        cases value : step.value with
        | none => simp [given]
        | some held => cases held <;> simp [given, verdict_confirmed, fields_show_iff]
    | [table, row, field] => simp [given, verdict_confirmed, Shows]
    | _ :: _ :: _ :: _ :: _ => simp

theorem confirm_step_iff (db : ConfigDb) (step : PatchStep) :
    confirmStep db step = .confirmed ↔ ¬ Unsupported step ∧ ¬ Contradicted db step := by
  by_cases removes : step.op = "remove"
  · exact confirm_remove db step removes
  · exact confirm_write db step removes

theorem confirm_iff (db : ConfigDb) (patch : List PatchStep) :
    confirm db patch = .confirmed ↔ ∀ step ∈ patch, confirmStep db step = .confirmed := by
  induction patch with
  | nil => simp [confirm]
  | cons step rest ih =>
      rw [List.forall_mem_cons, ← ih, confirm]
      cases first : confirmStep db step <;> simp

theorem script_confirms_iff (error : String) (db : ConfigDb) (patch : List PatchStep)
    (raced : contains error "still some parts not updated" = true) :
    gcuScript (.error error) db patch = .raceConfirmed ↔ ∀ step ∈ patch, ¬ Unsupported step ∧ ¬ Contradicted db step := by
  have each : (∀ step ∈ patch, ¬ Unsupported step ∧ ¬ Contradicted db step) ↔ confirm db patch = .confirmed := by
    rw [confirm_iff]
    exact forall₂_congr fun step _ => (confirm_step_iff db step).symm
  rw [each, gcuScript, if_pos raced]
  cases confirm db patch <;> simp

end Reading

section Soundness

-- The pieces that the script takes are the names that the pointer means.
def PlainPath (path : String) : Prop := pointerTokens path = some (parts path)

instance (path : String) : Decidable (PlainPath path) := inferInstanceAs (Decidable (_ = _))

/- The field is there, and its text is what it comes back as; a list is kept, as the list
   it is, beside the field that the script reads. -/
def Kept (db : ConfigDb) (key : String) (entry : String × Json) : Prop :=
  match entry.2 with
  | .arr items => db.hget key (entry.1 ++ "@") = some (join (items.map toText) ",")
  | _ => ∃ text, db.hget key entry.1 = some text ∧ shown text = text

variable (alone : Bool)

def RowKept (db : ConfigDb) (key : String) (fields : List (String × Json)) : Prop :=
  ∃ row, db.get? key = some row ∧ (∀ entry ∈ fields, Kept db key entry) ∧ (alone = true → NothingElse row fields)

def GivenKept (db : ConfigDb) (step : PatchStep) : Prop :=
  match parts step.path with
  | [table, row] => ∀ fields, step.value = some (.obj fields) → RowKept alone db (rowKey table row) fields
  | [table, row, field] => Kept db (rowKey table row) (field, step.value.getD .null)
  | _ => False

/- What the script reads of a step answers for the step: its path is plain and what it
   gives is kept as it is read. A step under another name has to be in effect by itself. -/
def Traced (db : ConfigDb) (step : PatchStep) : Prop :=
  (PlainPath step.path ∧ (step.op = "remove" ∨ GivenKept alone db step)) ∨
    (¬ PlainPath step.path ∧ InEffect alone db step)

theorem holds_iff_kept (db : ConfigDb) (key : String) (entry : String × Json) (shows : Shows db key entry) :
    FieldHolds db key entry ↔ Kept db key entry := by
  obtain ⟨field, value⟩ := entry
  have scalar : (db.hget key field = some (toText value)) ↔ ∃ text, db.hget key field = some text ∧ shown text = text := by
    have read : shown ((db.hget key field).getD "") = toText value := shows
    refine ⟨fun held => ?_, fun ⟨text, held, same⟩ => ?_⟩
    · rw [held] at read
      exact ⟨toText value, held, read⟩
    · rw [held, Option.getD_some, same] at read
      rw [held, read]
  cases value with
  | arr items => exact Iff.rfl
  | null => exact scalar
  | bool flag => exact scalar
  | num number => exact scalar
  | str text => exact scalar
  | obj fields => exact scalar

theorem row_holds_iff_kept (db : ConfigDb) (key : String) (fields : List (String × Json))
    (shows : ∀ entry ∈ fields, Shows db key entry) : RowHolds alone db key fields ↔ RowKept alone db key fields := by
  have each : (∀ entry ∈ fields, FieldHolds db key entry) ↔ ∀ entry ∈ fields, Kept db key entry :=
    forall₂_congr fun entry member => holds_iff_kept db key entry (shows entry member)
  unfold RowHolds RowKept
  rw [each]

-- A removed row is gone, and with it every field that it had.
theorem gone_absent (db : ConfigDb) (key : String) (gone : db.get? key = none) (field : String) :
    Absent db (.row key) ∧ Absent db (.field key field) := by
  have missing : ∀ name, db.hget key name = none := fun name => by rw [ConfigDb.hget, gone, Option.bind_none]
  exact ⟨gone, missing field, missing (field ++ "@")⟩

theorem plain_remove_in_effect (db : ConfigDb) (step : PatchStep) (plain : PlainPath step.path) (removes : step.op = "remove")
    (uncontradicted : ¬ Contradicted db step) : InEffect alone db step := by
  rw [InEffect, if_pos removes, address, plain]
  intro place named
  rw [Contradicted] at uncontradicted
  match pieces : parts step.path with
  | [] => simp [pieces] at named
  | [_] => simp [pieces] at named
  | [table, row] =>
      simp only [pieces, if_pos removes, not_not] at uncontradicted
      simp only [pieces, Option.some.injEq] at named
      rw [← named]
      exact (gone_absent db (rowKey table row) uncontradicted "").1
  | [table, row, field] =>
      simp only [pieces, if_pos removes, not_not] at uncontradicted
      simp only [pieces, Option.some.injEq] at named
      rw [← named]
      exact (gone_absent db (rowKey table row) uncontradicted field).2
  | _ :: _ :: _ :: _ :: _ => simp [pieces] at named

theorem plain_write_in_effect (db : ConfigDb) (step : PatchStep) (plain : PlainPath step.path) (writes : step.op ≠ "remove")
    (supported : ¬ Unsupported step) (uncontradicted : ¬ Contradicted db step) :
    InEffect alone db step ↔ GivenKept alone db step := by
  rw [InEffect, if_neg writes, address, plain, GivenKept]
  rw [Contradicted] at uncontradicted
  match pieces : parts step.path with
  | [] => exact absurd (Or.inr (by simp [pieces])) supported
  | [_] => exact absurd (Or.inr (by simp [pieces])) supported
  | [table, row] =>
      simp only [pieces, if_neg writes, not_forall, not_exists, not_and, not_not] at uncontradicted
      obtain ⟨fields, gives, shows⟩ := uncontradicted
      have value := (given_row step fields).mp gives
      simp [value, Holds, row_holds_iff_kept alone db (rowKey table row) fields shows]
  | [table, row, field] =>
      simp only [pieces, if_neg writes, not_forall, not_exists, not_and, not_not] at uncontradicted
      obtain ⟨fields, gives, shows⟩ := uncontradicted
      cases gives
      have kept := holds_iff_kept db (rowKey table row) _ (shows _ List.mem_cons_self)
      simp [Holds, kept]
  | _ :: _ :: _ :: _ :: _ => exact absurd (Or.inr (by simp [pieces])) supported

theorem traced_iff (db : ConfigDb) (step : PatchStep) (supported : ¬ Unsupported step)
    (uncontradicted : ¬ Contradicted db step) : InEffect alone db step ↔ Traced alone db step := by
  by_cases plain : PlainPath step.path
  · rw [Traced, or_iff_left fun both => both.1 plain, and_iff_right plain]
    by_cases removes : step.op = "remove"
    · have absent := plain_remove_in_effect alone db step plain removes uncontradicted
      exact ⟨fun _ => Or.inl removes, fun _ => absent⟩
    · rw [or_iff_right removes]
      exact plain_write_in_effect alone db step plain removes supported uncontradicted
  · rw [Traced, or_iff_right fun both => plain both.1, and_iff_right plain]

/- A confirmed patch is in effect exactly when the script was to confirm none of it, or
   every step is traced. -/
theorem race_confirmation_sound_iff (error : String) (db : ConfigDb) (patch : List PatchStep)
    (raced : contains error "still some parts not updated" = true) :
    (gcuScript (.error error) db patch = .raceConfirmed → ∀ step ∈ patch, InEffect alone db step) ↔
      (∃ step ∈ patch, Unsupported step ∨ Contradicted db step) ∨ ∀ step ∈ patch, Traced alone db step := by
  rw [script_confirms_iff error db patch raced]
  by_cases stopped : ∃ step ∈ patch, Unsupported step ∨ Contradicted db step
  · obtain ⟨step, member, refused⟩ := stopped
    refine ⟨fun _ => Or.inl ⟨step, member, refused⟩, fun _ passed => ?_⟩
    obtain ⟨supported, uncontradicted⟩ := passed step member
    exact (refused.elim supported uncontradicted).elim
  · have passed : ∀ step ∈ patch, ¬ Unsupported step ∧ ¬ Contradicted db step := fun step member =>
      not_or.mp fun refused => stopped ⟨step, member, refused⟩
    have each : (∀ step ∈ patch, InEffect alone db step) ↔ ∀ step ∈ patch, Traced alone db step :=
      forall₂_congr fun step member => traced_iff alone db step (passed step member).1 (passed step member).2
    rw [or_iff_right stopped, ← each]
    exact ⟨fun sound => sound passed, fun inEffect _ => inEffect⟩

def raceError : String := "after applying patch to config, there are still some parts not updated"

def vniStep : PatchStep := ⟨"add", "/VRF/VrfBlue", some (.obj [("vni", .str "10007")])⟩

def vniDb : ConfigDb := [("VRF|VrfBlue", [("vni", "10007")])]

theorem vni_step_traced : Traced true vniDb vniStep := by
  refine Or.inl ⟨by decide +kernel, Or.inr fun fields value => ?_⟩
  cases value
  refine ⟨[("vni", "10007")], by decide +kernel, ?_, fun _ name member _ => ?_⟩
  · intro entry member
    rw [List.mem_singleton.mp member]
    exact ⟨"10007", by decide +kernel, by decide +kernel⟩
  · exact member

theorem vni_confirmed_in_effect :
    gcuScript (.error raceError) vniDb [vniStep] = .raceConfirmed ∧ ∀ step ∈ [vniStep], InEffect true vniDb step := by
  have confirmed : gcuScript (.error raceError) vniDb [vniStep] = .raceConfirmed := by
    decide +kernel
  exact ⟨confirmed, (race_confirmation_sound_iff true raceError vniDb [vniStep] (by decide +kernel)).mpr
    (Or.inr fun _ member => List.mem_singleton.mp member ▸ vni_step_traced) confirmed⟩

-- The attachment of an SRv6 service: the port's row with its VRF, and the row of its address.
def attachmentPatch : List PatchStep :=
  [⟨"add", "/INTERFACE/Ethernet12", some (.obj [("vrf_name", .str "Vrf-red")])⟩,
   ⟨"add", "/INTERFACE/Ethernet12|10.1.0.1~124", some (.obj [])⟩]

-- The port is in its VRF, and no row holds an address.
def attachmentDb : ConfigDb := [("INTERFACE|Ethernet12", [("vrf_name", "Vrf-red")])]

theorem attachment_address_missing : ¬ ∀ (error : String) (db : ConfigDb) (patch : List PatchStep),
    contains error "still some parts not updated" = true → gcuScript (.error error) db patch = .raceConfirmed →
      ∀ step ∈ patch, InEffect false db step := by
  intro sound
  have confirmed : gcuScript (.error raceError) attachmentDb attachmentPatch = .raceConfirmed := by
    decide +kernel
  have inEffect := sound raceError attachmentDb attachmentPatch (by decide +kernel) confirmed
    ⟨"add", "/INTERFACE/Ethernet12|10.1.0.1~124", some (.obj [])⟩ (List.mem_cons_of_mem _ List.mem_cons_self)
  rw [InEffect, if_neg (by decide)] at inEffect
  obtain ⟨place, named, holds⟩ := inEffect
  have addressed : address "/INTERFACE/Ethernet12|10.1.0.1~124" = some (.row "INTERFACE|Ethernet12|10.1.0.1/24") := by
    decide +kernel
  rw [addressed] at named
  cases named
  obtain ⟨_, _, row, present, _⟩ := holds
  have missing : attachmentDb.get? "INTERFACE|Ethernet12|10.1.0.1/24" = none := by
    decide +kernel
  rw [missing] at present
  cases present

end Soundness

end AgenticNetops.FabricExecutor
