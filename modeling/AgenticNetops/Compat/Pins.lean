import AgenticNetops.Lib.GoText
import AgenticNetops.Lib.Regex

set_option autoImplicit false

/- pkg/compat: the compatibility set of an object. Its pins come from the site's ConfigMap
   and from the object's own annotations and labels, and the gate looks at what they come to. -/
namespace AgenticNetops.Compat

open GoText

structure CompatSet where
  sonicImage : String
  openConfigCommit : String
  sonicNativeCommit : String
  mappingVersion : String
  upstreamAPIVersions : GoMap String
deriving DecidableEq, Repr

structure ValidationError where
  reason : String
  message : String
deriving DecidableEq, Repr

def ValidationError.text (err : ValidationError) : String := err.reason ++ ": " ++ err.message

inductive ObjectKind where
  | network
  | networkDevice
  | srv6Service
deriving DecidableEq, Repr

def contractTopologyLabel : String := "agentic-netops.dev/topology-label-contract"
def contractTelemetryLabel : String := "agentic-netops.dev/telemetry-label-contract"

def shortKeyToAnnotation : List (String × String) := [
  ("sonic-image", "agentic-netops.dev/sonic-image"),
  ("openconfig-commit", "agentic-netops.dev/openconfig-commit"),
  ("sonic-native-commit", "agentic-netops.dev/sonic-native-commit"),
  ("mapping-version", "agentic-netops.dev/mapping-version"),
  ("kubenet-commit", "agentic-netops.dev/kubenet-commit"),
  ("kuid-commit", "agentic-netops.dev/kuid-commit"),
  ("sdc-release", "agentic-netops.dev/sdc-release"),
  ("topology-label-contract", contractTopologyLabel),
  ("telemetry-label-contract", contractTelemetryLabel),
  ("cap-sai-srv6", "agentic-netops.dev/cap.sai.srv6"),
  ("srv6-supported", "agentic-netops.dev/cap.srv6.supported"),
  ("lab-profile", "agentic-netops.dev/lab-profile")]

def annotationFor (shortKey : String) : Option String := shortKeyToAnnotation.lookup shortKey

inductive Source where
  | configmap
  | object
deriving DecidableEq, Repr

structure SitePins where
  annotations : GoMap String := []
  labels : GoMap String := []
  sources : GoMap Source := []
deriving DecidableEq, Repr

section Resolve

-- The names that the validators read from labels.
def routedToLabels (name : String) : Bool :=
  name = contractTopologyLabel || name = contractTelemetryLabel || hasPrefix name "agentic-netops.dev/cap."

-- The entries of the ConfigMap that say something, under the names they feed.
def siteEntry (data : GoMap String) (key : String) : Option (String × String) :=
  match annotationFor key with
  | none => none
  | some name => if data.text key = "" then none else some (name, data.text key)

def siteEntries (data : GoMap String) : List (String × String) := data.keys.filterMap (siteEntry data)

def objectEntry (given : GoMap String) (key : String) : Option (String × String) :=
  if given.text key = "" then none else some (key, given.text key)

def objectEntries (given : GoMap String) : List (String × String) := given.keys.filterMap (objectEntry given)

def setAll {α : Type} (m : GoMap α) (entries : List (String × α)) : GoMap α := entries.foldl (fun m entry => m.set entry.1 entry.2) m

def resolveSitePins (site : Option (GoMap String)) (objAnn objLabels : GoMap String) : SitePins :=
  let entries := (site.map siteEntries).getD []
  let from' := fun (source : Source) (entries : List (String × String)) => entries.map fun entry => (entry.1, source)
  { annotations := setAll (setAll [] (entries.filter fun entry => !routedToLabels entry.1)) (objectEntries objAnn)
    labels := setAll (setAll [] (entries.filter fun entry => routedToLabels entry.1)) (objectEntries objLabels)
    sources := setAll (setAll (setAll [] (from' .configmap entries)) (from' .object (objectEntries objAnn)))
      (from' .object (objectEntries objLabels)) }

def pinsConfigMapName : String := "fabric-compat-pins"

def SitePins.provenance (pins : SitePins) : Message :=
  let count := fun source => (pins.sources.keys.filter fun key => pins.sources.get? key = some source).length
  [.lit "pins: ", .int (count .configmap), .lit " from ", .str pinsConfigMapName, .lit ", ", .int (count .object),
    .lit " from object annotations"]

end Resolve

section Validate

def fromAnnotations (ann : GoMap String) : CompatSet := {
  sonicImage := ann.text "agentic-netops.dev/sonic-image"
  openConfigCommit := ann.text "agentic-netops.dev/openconfig-commit"
  sonicNativeCommit := ann.text "agentic-netops.dev/sonic-native-commit"
  mappingVersion := ann.text "agentic-netops.dev/mapping-version"
  upstreamAPIVersions := [
    ("kubenet", ann.text "agentic-netops.dev/kubenet-commit"),
    ("kuid", ann.text "agentic-netops.dev/kuid-commit"),
    ("sdc", ann.text "agentic-netops.dev/sdc-release")]
}

def isDigit (c : Char) : Bool := '0' ≤ c && c ≤ '9'
def isLetter (c : Char) : Bool := ('a' ≤ c && c ≤ 'z') || ('A' ≤ c && c ≤ 'Z')

def sha1re (text : String) : Bool :=
  7 ≤ text.length && text.length ≤ 40 && text.toList.all fun c => isDigit c || ('a' ≤ c && c ≤ 'f')

open Regex in
def semverPattern : Pattern :=
  let number := some' (.char isDigit)
  exact "v" ++ number ++ exact "." ++ number ++ exact "." ++ number ++
    opt (exact "-" ++ some' (.char fun c => isDigit c || isLetter c || c = '.' || c = '-'))

def semverRe (text : String) : Bool := (Regex.fullMatch semverPattern text.toList).isSome

def mismatch (message : String) : ValidationError := { reason := "SchemaMismatch", message }

def validatePins (set : CompatSet) : Except ValidationError Unit :=
  if set.sonicImage = "" then .error (mismatch "missing sonic image pin")
  else if !sha1re set.openConfigCommit || !sha1re set.sonicNativeCommit then .error (mismatch "schema pins must be commit SHAs")
  else if !semverRe (set.upstreamAPIVersions.text "sdc") then .error (mismatch "sdc release must be semver")
  else .ok ()

def validateContracts (labels : GoMap String) : Except ValidationError Unit :=
  if labels.text contractTopologyLabel = "" then .error (mismatch "missing topology label contract pin")
  else if labels.text contractTelemetryLabel = "" then .error (mismatch "missing telemetry label contract pin")
  else .ok ()

def requiresSRv6 (kind : ObjectKind) : Bool := kind = .srv6Service

def validate (set : CompatSet) (kind : ObjectKind) (discovered : Option (GoMap Bool)) : Except ValidationError Unit :=
  if set.sonicImage = "" ∨ set.openConfigCommit = "" ∨ set.sonicNativeCommit = "" ∨ set.mappingVersion = "" then
    .error (mismatch "incomplete compatibility set")
  else
    match discovered with
    | none => .ok ()
    | some found =>
        if requiresSRv6 kind && !(found.get? "sai.srv6").getD false then
          .error { reason := "CapabilityMissing", message := "SRv6 not supported by target" }
        else .ok ()

def fullValidate (set : CompatSet) (labels : GoMap String) (kind : ObjectKind) (discovered : Option (GoMap Bool)) :
    Except ValidationError Unit := do
  validatePins set
  validateContracts labels
  validate set kind discovered

-- The gate as the controllers call it.
def gate (pins : SitePins) (kind : ObjectKind) : Except ValidationError Unit :=
  fullValidate (fromAnnotations pins.annotations) pins.labels kind
    (some [("sai.srv6", pins.labels.text "agentic-netops.dev/cap.sai.srv6" = "true")])

end Validate

section Layers
variable {α : Type}

theorem lookup_absent (entries : List (String × α)) (key : String) (absent : key ∉ entries.map Prod.fst) : entries.lookup key = none := by
  rw [List.lookup_eq_none_iff]
  intro entry member
  apply bne_iff_ne.mpr
  intro same
  exact absent (same ▸ List.mem_map_of_mem member)

theorem set_all_get (m : GoMap α) (entries : List (String × α)) (key : String) (distinct : (entries.map Prod.fst).Nodup) :
    (setAll m entries).get? key = (entries.lookup key).or (m.get? key) := by
  induction entries generalizing m with
  | nil => rfl
  | cons entry rest ih =>
      obtain ⟨name, value⟩ := entry
      obtain ⟨fresh, distinct⟩ := List.nodup_cons.mp distinct
      rw [setAll, List.foldl_cons, ← setAll, ih (m.set name value) distinct]
      by_cases here : key = name
      · rw [here, lookup_absent rest name fresh, get_set_same, Option.none_or, List.lookup_cons_self, Option.some_or]
      · rw [get_set_other m name key value here, List.lookup_cons, beq_eq_false_iff_ne.mpr here]

theorem lookup_filter_names (entries : List (String × α)) (kept : String → Bool) (key : String) :
    (entries.filter fun entry => kept entry.1).lookup key = if kept key then entries.lookup key else none := by
  induction entries with
  | nil => exact (ite_self _).symm
  | cons entry rest ih =>
      obtain ⟨name, value⟩ := entry
      by_cases stays : kept name = true
      · rw [List.filter_cons]
        dsimp only
        rw [if_pos stays, List.lookup_cons, List.lookup_cons, ih]
        cases here : key == name with
        | true =>
            rw [beq_iff_eq.mp here, if_pos stays, if_pos stays]
        | false => rfl
      · rw [List.filter_cons]
        dsimp only
        rw [if_neg stays, ih, List.lookup_cons]
        cases here : key == name with
        | true =>
            rw [beq_iff_eq.mp here, if_neg stays, if_neg stays]
        | false => rfl

-- Entries that are made from distinct keys, each under a name of its own.
section Made
variable (make : String → Option (String × α))
  (own : ∀ one other first second, make one = some first → make other = some second → first.1 = second.1 → one = other)
include own

theorem made_distinct (keys : List String) (distinct : keys.Nodup) : ((keys.filterMap make).map Prod.fst).Nodup := by
  induction keys with
  | nil => exact List.nodup_nil
  | cons key rest ih =>
      obtain ⟨fresh, distinct⟩ := List.nodup_cons.mp distinct
      cases made : make key with
      | none =>
          rw [List.filterMap_cons_none made]
          exact ih distinct
      | some entry =>
          rw [List.filterMap_cons_some made, List.map_cons, List.nodup_cons]
          refine ⟨fun again => ?_, ih distinct⟩
          obtain ⟨later, member, same⟩ := List.mem_map.mp again
          obtain ⟨other, listed, madeLater⟩ := List.mem_filterMap.mp member
          rw [own key other entry later made madeLater same.symm] at fresh
          exact fresh listed

theorem made_lookup (keys : List String) (key name : String) (value : α) (member : key ∈ keys) (made : make key = some (name, value)) :
    (keys.filterMap make).lookup name = some value := by
  induction keys with
  | nil => cases member
  | cons first rest ih =>
      cases madeFirst : make first with
      | none =>
          rw [List.filterMap_cons_none madeFirst]
          cases List.mem_cons.mp member with
          | inl here =>
              rw [here, madeFirst] at made
              cases made
          | inr later => exact ih later
      | some entry =>
          obtain ⟨other, stored⟩ := entry
          rw [List.filterMap_cons_some madeFirst, List.lookup_cons]
          by_cases same : name = other
          · have here := own key first (name, value) (other, stored) made madeFirst same
            rw [← here, made] at madeFirst
            cases madeFirst
            rw [beq_self_eq_true]
          · rw [beq_eq_false_iff_ne.mpr same]
            cases List.mem_cons.mp member with
            | inl here =>
                rw [← here, made] at madeFirst
                cases madeFirst
                exact absurd rfl same
            | inr later => exact ih later

end Made

theorem made_absent (make : String → Option (String × α)) (keys : List String) (name : String)
    (absent : ∀ key ∈ keys, ∀ value, make key ≠ some (name, value)) : (keys.filterMap make).lookup name = none := by
  apply lookup_absent
  intro member
  obtain ⟨entry, made, same⟩ := List.mem_map.mp member
  obtain ⟨key, listed, from'⟩ := List.mem_filterMap.mp made
  exact absent key listed entry.2 (by rw [from', ← same])

end Layers

section Resolved

theorem text_some (m : GoMap String) (key : String) (said : m.text key ≠ "") : key ∈ m.keys := by
  rw [keys_mem_iff]
  cases stored : m.get? key with
  | none =>
      rw [GoMap.text, ← GoMap.get?, stored] at said
      exact absurd rfl said
  | some value => exact ⟨value, rfl⟩

-- What a text map says, where it says something.
def said (text : String) : Option String := if text = "" then none else some text

theorem said_or (first : String) (m : GoMap String) (key : String) (layer : m.get? key = said first) : m.text key = first := by
  rw [GoMap.text, ← GoMap.get?, layer, said]
  by_cases empty : first = ""
  · rw [if_pos empty, empty]
    rfl
  · rw [if_neg empty]
    rfl

theorem said_either (first second : String) : (said first).or (said second) = said (if first ≠ "" then first else second) := by
  unfold said
  by_cases empty : first = ""
  · rw [if_pos empty, if_neg (not_not.mpr empty), Option.none_or]
  · rw [if_neg empty, if_pos empty, Option.some_or, if_neg empty]

-- The short key that feeds a name.
def shortFor (name : String) : Option String := Option.map Prod.fst <| shortKeyToAnnotation.find? fun entry => entry.2 = name

theorem annotation_listed (short name : String) : annotationFor short = some name ↔ (short, name) ∈ shortKeyToAnnotation := by
  constructor
  · intro found
    obtain ⟨before, after, split, _⟩ := List.lookup_eq_some_iff.mp found
    rw [split]
    exact List.mem_append_right before List.mem_cons_self
  · have all : ∀ entry ∈ shortKeyToAnnotation, annotationFor entry.1 = some entry.2 := by decide
    exact fun member => all (short, name) member

theorem short_for_iff (short name : String) : shortFor name = some short ↔ annotationFor short = some name := by
  rw [annotation_listed]
  constructor
  · intro found
    obtain ⟨entry, first, same⟩ := Option.map_eq_some_iff.mp found
    have named := List.find?_some first
    rw [decide_eq_true_eq] at named
    rw [← same, ← named]
    exact List.mem_of_find?_eq_some first
  · have all : ∀ entry ∈ shortKeyToAnnotation, shortFor entry.2 = some entry.1 := by decide
    exact fun member => all (short, name) member

def siteText (data : GoMap String) (name : String) : String :=
  match shortFor name with
  | none => ""
  | some short => data.text short

-- What feeds a name, and only that.
theorem site_entry_iff (data : GoMap String) (key name value : String) :
    siteEntry data key = some (name, value) ↔ shortFor name = some key ∧ value ≠ "" ∧ data.text key = value := by
  rw [short_for_iff]
  unfold siteEntry
  cases named : annotationFor key with
  | none => simp
  | some other =>
      by_cases empty : data.text key = ""
      · simp only [if_pos empty, reduceCtorEq, false_iff, not_and]
        exact fun _ filled same => filled (same ▸ empty)
      · simp only [if_neg empty, Option.some.injEq, Prod.mk.injEq]
        exact ⟨fun both => ⟨both.1, both.2 ▸ empty, both.2⟩, fun all => ⟨all.1, all.2.2⟩⟩

theorem object_entry_iff (given : GoMap String) (key name value : String) :
    objectEntry given key = some (name, value) ↔ name = key ∧ value ≠ "" ∧ given.text key = value := by
  unfold objectEntry
  by_cases empty : given.text key = ""
  · simp only [if_pos empty, reduceCtorEq, false_iff, not_and]
    exact fun _ filled same => filled (same ▸ empty)
  · simp only [if_neg empty, Option.some.injEq, Prod.mk.injEq]
    exact ⟨fun both => ⟨both.1.symm, both.2 ▸ empty, both.2⟩, fun all => ⟨all.1.symm, all.2.2⟩⟩

theorem object_own (given : GoMap String) (one other : String) (first second : String × String) (made : objectEntry given one = some first)
    (madeOther : objectEntry given other = some second) (same : first.1 = second.1) : one = other := by
  have here := ((object_entry_iff given one first.1 first.2).mp made).1
  have there := ((object_entry_iff given other second.1 second.2).mp madeOther).1
  rw [← here, ← there, same]

theorem object_distinct (given : GoMap String) : ((objectEntries given).map Prod.fst).Nodup :=
  made_distinct _ (object_own given) given.keys (keys_nodup given)

theorem object_lookup (given : GoMap String) (key : String) : (objectEntries given).lookup key = said (given.text key) := by
  unfold said
  by_cases empty : given.text key = ""
  · rw [if_pos empty]
    apply made_absent
    intro other _ value made
    obtain ⟨same, filled, stored⟩ := (object_entry_iff given other key value).mp made
    rw [← same, empty] at stored
    exact filled stored.symm
  · rw [if_neg empty]
    exact made_lookup _ (object_own given) given.keys key key (given.text key) (text_some given key empty)
      ((object_entry_iff given key key _).mpr ⟨rfl, empty, rfl⟩)

theorem site_own (data : GoMap String) (one other : String) (first second : String × String) (made : siteEntry data one = some first)
    (madeOther : siteEntry data other = some second) (same : first.1 = second.1) : one = other := by
  have here := ((site_entry_iff data one first.1 first.2).mp made).1
  have there := ((site_entry_iff data other second.1 second.2).mp madeOther).1
  rw [same, there] at here
  exact (Option.some.inj here).symm

theorem site_lookup (data : GoMap String) (name : String) : (siteEntries data).lookup name = said (siteText data name) := by
  unfold said siteText
  cases fed : shortFor name with
  | none =>
      rw [if_pos rfl]
      apply made_absent
      intro key _ value made
      have named := ((site_entry_iff data key name value).mp made).1
      rw [fed] at named
      cases named
  | some short =>
      dsimp only
      by_cases empty : data.text short = ""
      · rw [if_pos empty]
        apply made_absent
        intro key _ value made
        obtain ⟨named, filled, stored⟩ := (site_entry_iff data key name value).mp made
        rw [fed] at named
        cases named
        exact filled (stored ▸ empty)
      · rw [if_neg empty]
        exact made_lookup _ (site_own data) data.keys short name (data.text short) (text_some data short empty)
          ((site_entry_iff data short name _).mpr ⟨fed, empty, rfl⟩)

theorem site_distinct (data : GoMap String) : ((siteEntries data).map Prod.fst).Nodup :=
  made_distinct _ (site_own data) data.keys (keys_nodup data)

variable (site : Option (GoMap String)) (objAnn objLabels : GoMap String)

def pinned (name : String) : String :=
  if objAnn.text name ≠ "" then objAnn.text name else if routedToLabels name then "" else siteText (site.getD []) name

def labelled (name : String) : String :=
  if objLabels.text name ≠ "" then objLabels.text name else if routedToLabels name then siteText (site.getD []) name else ""

theorem site_layer (kept : String → Bool) (name : String) :
    (setAll [] (((site.map siteEntries).getD []).filter fun entry => kept entry.1)).get? name =
      said (if kept name then siteText (site.getD []) name else "") := by
  have entries : (site.map siteEntries).getD [] = siteEntries (site.getD []) := by
    cases site with
    | none => rfl
    | some data => rfl
  have distinct : ((((siteEntries (site.getD [])).filter fun entry => kept entry.1)).map Prod.fst).Nodup :=
    (site_distinct (site.getD [])).sublist (List.filter_sublist.map Prod.fst)
  rw [entries, set_all_get [] _ name distinct, lookup_filter_names, site_lookup]
  by_cases stays : kept name = true
  · rw [if_pos stays, if_pos stays]
    exact Option.or_none
  · rw [if_neg stays, if_neg stays]
    rfl

theorem resolved_pin (name : String) : (resolveSitePins site objAnn objLabels).annotations.text name = pinned site objAnn name := by
  apply said_or
  rw [resolveSitePins]
  dsimp only
  rw [set_all_get _ _ name (object_distinct objAnn), object_lookup, site_layer site (fun name => !routedToLabels name), said_either, pinned]
  cases routedToLabels name with
  | true => rfl
  | false => rfl

theorem resolved_label (name : String) : (resolveSitePins site objAnn objLabels).labels.text name = labelled site objLabels name := by
  apply said_or
  rw [resolveSitePins]
  dsimp only
  rw [set_all_get _ _ name (object_distinct objLabels), object_lookup, site_layer site routedToLabels, said_either, labelled]

end Resolved

section Gate
variable (set : CompatSet) (labels : GoMap String) (kind : ObjectKind)

theorem validate_pins_iff : validatePins set = .ok () ↔
    set.sonicImage ≠ "" ∧ (sha1re set.openConfigCommit = true ∧ sha1re set.sonicNativeCommit = true) ∧
      semverRe (set.upstreamAPIVersions.text "sdc") = true := by
  unfold validatePins
  by_cases image : set.sonicImage = ""
  · simp [image]
  · cases native : sha1re set.openConfigCommit && sha1re set.sonicNativeCommit with
    | false =>
        have either := Bool.and_eq_false_iff.mp native
        have refused : (!sha1re set.openConfigCommit || !sha1re set.sonicNativeCommit) = true := by
          cases either with
          | inl config => simp [config]
          | inr other => simp [other]
        rw [if_neg image, if_pos refused]
        refine iff_of_false (fun claimed => by cases claimed) fun all => ?_
        rw [all.2.1.1, all.2.1.2] at native
        cases native
    | true =>
        have both := (Bool.and_eq_true _ _).mp native
        cases release : semverRe (set.upstreamAPIVersions.text "sdc") with
        | false => simp [image, both]
        | true => simp [image, both]

theorem validate_contracts_iff : validateContracts labels = .ok () ↔
    labels.text contractTopologyLabel ≠ "" ∧ labels.text contractTelemetryLabel ≠ "" := by
  unfold validateContracts
  by_cases topology : labels.text contractTopologyLabel = ""
  · simp [topology]
  · by_cases telemetry : labels.text contractTelemetryLabel = ""
    · simp [topology, telemetry]
    · simp [topology, telemetry]

theorem validate_iff (srv6 : Bool) : validate set kind (some [("sai.srv6", srv6)]) = .ok () ↔
    (set.sonicImage ≠ "" ∧ set.openConfigCommit ≠ "" ∧ set.sonicNativeCommit ≠ "" ∧ set.mappingVersion ≠ "") ∧
      (kind = .srv6Service → srv6 = true) := by
  unfold validate
  by_cases incomplete : set.sonicImage = "" ∨ set.openConfigCommit = "" ∨ set.sonicNativeCommit = "" ∨ set.mappingVersion = ""
  · rw [if_pos incomplete]
    refine iff_of_false (fun claimed => by cases claimed) fun both => ?_
    obtain ⟨image, config, native, mapping⟩ := both.1
    cases incomplete with
    | inl empty => exact image empty
    | inr rest =>
        cases rest with
        | inl empty => exact config empty
        | inr rest => exact rest.elim native mapping
  · rw [if_neg incomplete]
    simp only [not_or] at incomplete
    cases kind <;> cases srv6 <;> simp [incomplete, requiresSRv6, GoMap.get?]

theorem sha_filled (text : String) (sha : sha1re text = true) : text ≠ "" := by
  intro empty
  have refused : sha1re "" = false := by decide
  rw [empty, refused] at sha
  cases sha

theorem full_validate_iff (discovered : Option (GoMap Bool)) : fullValidate set labels kind discovered = .ok () ↔
    validatePins set = .ok () ∧ validateContracts labels = .ok () ∧ validate set kind discovered = .ok () := by
  unfold fullValidate
  cases validatePins set with
  | error err => simp [bind, Except.bind]
  | ok _ =>
      cases validateContracts labels with
      | error err => simp [bind, Except.bind]
      | ok _ => simp [bind, Except.bind]

theorem full_validate_reason (discovered : Option (GoMap Bool)) (err : ValidationError)
    (refused : fullValidate set labels kind discovered = .error err) : err.reason = "SchemaMismatch" ∨ kind = .srv6Service := by
  unfold fullValidate at refused
  cases pins : validatePins set with
  | error first =>
      rw [pins] at refused
      cases refused
      unfold validatePins at pins
      split at pins
      · cases pins; exact Or.inl rfl
      · split at pins
        · cases pins; exact Or.inl rfl
        · split at pins
          · cases pins; exact Or.inl rfl
          · cases pins
  | ok _ =>
      rw [pins] at refused
      cases contracts : validateContracts labels with
      | error second =>
          rw [contracts] at refused
          cases refused
          unfold validateContracts at contracts
          split at contracts
          · cases contracts; exact Or.inl rfl
          · split at contracts
            · cases contracts; exact Or.inl rfl
            · cases contracts
      | ok _ =>
          rw [contracts] at refused
          change validate set kind discovered = .error err at refused
          unfold validate at refused
          split at refused
          · cases refused; exact Or.inl rfl
          · split at refused
            · cases refused
            · split at refused
              · rename_i srv6
                exact Or.inr (by simpa [requiresSRv6] using ((Bool.and_eq_true _ _).mp srv6).1)
              · cases refused

variable (site : Option (GoMap String)) (objAnn objLabels : GoMap String)

/- What the gate asks for, of the values that the object and the site come to. Only an
   SRv6Service asks for the SRv6 capability, and a refusal of the others is a SchemaMismatch. -/
theorem gate_exact :
    (gate (resolveSitePins site objAnn objLabels) kind = .ok () ↔
      pinned site objAnn "agentic-netops.dev/sonic-image" ≠ "" ∧
      sha1re (pinned site objAnn "agentic-netops.dev/openconfig-commit") = true ∧
      sha1re (pinned site objAnn "agentic-netops.dev/sonic-native-commit") = true ∧
      semverRe (pinned site objAnn "agentic-netops.dev/sdc-release") = true ∧
      pinned site objAnn "agentic-netops.dev/mapping-version" ≠ "" ∧
      labelled site objLabels contractTopologyLabel ≠ "" ∧ labelled site objLabels contractTelemetryLabel ≠ "" ∧
      (kind = .srv6Service → labelled site objLabels "agentic-netops.dev/cap.sai.srv6" = "true")) ∧
    (∀ err, gate (resolveSitePins site objAnn objLabels) kind = .error err → err.reason = "SchemaMismatch" ∨ kind = .srv6Service) := by
  refine ⟨?_, fun err => full_validate_reason _ _ kind _ err⟩
  rw [gate, full_validate_iff, validate_pins_iff, validate_contracts_iff, validate_iff, fromAnnotations]
  have sdc : GoMap.text [("kubenet", (resolveSitePins site objAnn objLabels).annotations.text "agentic-netops.dev/kubenet-commit"),
      ("kuid", (resolveSitePins site objAnn objLabels).annotations.text "agentic-netops.dev/kuid-commit"),
      ("sdc", (resolveSitePins site objAnn objLabels).annotations.text "agentic-netops.dev/sdc-release")] "sdc" =
      (resolveSitePins site objAnn objLabels).annotations.text "agentic-netops.dev/sdc-release" := rfl
  rw [sdc]
  simp only [resolved_pin, resolved_label, decide_eq_true_eq]
  constructor
  · intro all
    obtain ⟨⟨image, both, release⟩, ⟨topology, telemetry⟩, ⟨_, _, _, mapping⟩, srv6⟩ := all
    exact ⟨image, both.1, both.2, release, mapping, topology, telemetry, srv6⟩
  · intro all
    obtain ⟨image, config, native, release, mapping, topology, telemetry, srv6⟩ := all
    exact ⟨⟨image, ⟨config, native⟩, release⟩, ⟨topology, telemetry⟩, ⟨image, sha_filled _ config, sha_filled _ native, mapping⟩, srv6⟩

end Gate

end AgenticNetops.Compat
