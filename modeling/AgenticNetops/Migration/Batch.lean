import AgenticNetops.Lib.HexText
import AgenticNetops.Lib.Json
import AgenticNetops.Lib.KeyedAppend
import AgenticNetops.Migration.NetworkYAML
import AgenticNetops.Migration.Vocabulary
import Mathlib.Data.List.Induction

set_option autoImplicit false

/- pkg/migration/batch.go and cmd/intent-translator: a batch is rendered whole or not at
   all. sum is the SHA-256 of an input; jsonToYAML and manifestFromYAML are the vendored
   YAML converter's. -/
namespace AgenticNetops.Migration

open GoText HexText JsonValue KeyedAppend Causes

inductive BatchError where
  | validation (causes : List Message)
  | translation (error : TranslateError)
  | conversion (message : Message)
deriving DecidableEq, Repr

section Code
variable (site : Option SiteInventory) (sum : ServiceInput → List UInt8)
variable (jsonToYAML : SRv6Service → Except Message String) (manifestFromYAML : String → Except Message Json)

-- The position at which an id is first seen, and -1 once it is seen again.
def noteID (ids : GoMap Int) (entry : ServiceInput × Nat) : GoMap Int :=
  if (ids.get? entry.1.serviceID).isSome then ids.set entry.1.serviceID (-1)
  else ids.set entry.1.serviceID entry.2

def batchIDs (inputs : List ServiceInput) : GoMap Int := inputs.zipIdx.foldl noteID []

def repeatedID (inputs : List ServiceInput) (input : ServiceInput) : Bool :=
  (batchIDs inputs).get? input.serviceID = some (-1)

def batchCauses (inputs : List ServiceInput) : List Message :=
  inputs.flatMap fun input => validateAllOrNothing site input (repeatedID inputs input)

-- Validation works on a copy, but the copy points to the same access list.
def ServiceInput.validated (input : ServiceInput) : ServiceInput := { input with acl := input.acl.map ACL.canonicalize }

def networkYAML : Manifest → Except BatchError String
  | .network object => .ok (buildYAML object)
  | .srv6Service object => (jsonToYAML object).mapError .conversion

def inputHash (input : ServiceInput) : String := ServiceInput.canonicalHash (fun folded => hexText (sum folded)) input

-- Translate, and the kind and the text of its bundle.
def translateDocument (input : ServiceInput) : Except BatchError (String × String) :=
  (translate (inputHash sum) input).mapError .translation >>= fun bundle =>
    (networkYAML jsonToYAML bundle.manifest).map fun text => (bundle.manifest.kind, text)

def renderBatch (inputs : List ServiceInput) : Except BatchError (List String) :=
  if batchCauses site inputs ≠ [] then .error (.validation (batchCauses site inputs))
  else inputs.mapM fun input => (translateDocument sum jsonToYAML input.validated).map Prod.snd

inductive TranslateResponse where
  | ok (manifests : List Json) (kinds : List String) (yaml : String)
  | unprocessable (causes : List Message)
  | internalError (error : BatchError)

def TranslateResponse.manifests : TranslateResponse → List Json
  | .ok manifests _ _ => manifests
  | _ => []

def TranslateResponse.yaml : TranslateResponse → String
  | .ok _ _ yaml => yaml
  | _ => ""

def respondDocument (input : ServiceInput) : Except BatchError (Json × String × String) :=
  translateDocument sum jsonToYAML input.validated >>= fun document =>
    ((manifestFromYAML document.2).mapError .conversion).map fun manifest => (manifest, document.1, document.2)

-- parsed is what ParseStrictBatch makes of the request's body.
def handleTranslate (parsed : Except Message (List ServiceInput)) : TranslateResponse :=
  match parsed with
  | .error message => .unprocessable [message]
  | .ok inputs =>
      if batchCauses site inputs ≠ [] then .unprocessable (batchCauses site inputs)
      else
        match inputs.mapM (respondDocument sum jsonToYAML manifestFromYAML) with
        | .error error => .internalError error
        | .ok documents =>
            .ok (documents.map Prod.fst) (documents.map fun document => document.2.1)
              (join (documents.map fun document => document.2.2) "---\n")

end Code

section Duplicates

theorem note_other (ids : GoMap Int) (entry : ServiceInput × Nat) (key : String) (other : key ≠ entry.1.serviceID) :
    (noteID ids entry).get? key = ids.get? key := by
  rw [noteID]
  split
  · exact get_set_other ids _ key _ other
  · exact get_set_other ids _ key _ other

theorem note_first (ids : GoMap Int) (entry : ServiceInput × Nat) (fresh : ids.get? entry.1.serviceID = none) :
    (noteID ids entry).get? entry.1.serviceID = some (entry.2 : Int) := by
  rw [noteID, fresh]
  exact get_set_same ids _ _

theorem note_again (ids : GoMap Int) (entry : ServiceInput × Nat) (position : Int)
    (seen : ids.get? entry.1.serviceID = some position) :
    (noteID ids entry).get? entry.1.serviceID = some (-1) := by
  rw [noteID, seen]
  exact get_set_same ids _ _

-- How often an id stands in the batch.
def timesListed (inputs : List ServiceInput) (key : String) : Nat := (inputs.map ServiceInput.serviceID).count key

def idMark (inputs : List ServiceInput) (key : String) (position : Option Int) : Prop :=
  (position = none ↔ timesListed inputs key = 0) ∧ (position = some (-1) ↔ 1 < timesListed inputs key)

/- Read from the end: one more input brings its id from nowhere to a position, and
   from a position to -1. -/
theorem ids_marked (inputs : List ServiceInput) (key : String) : idMark inputs key ((batchIDs inputs).get? key) := by
  induction inputs using List.reverseRecOn with
  | nil =>
      exact ⟨iff_of_true rfl rfl, iff_of_false (fun mark => absurd mark.symm (Option.some_ne_none _)) (Nat.not_lt_zero 1)⟩
  | append_singleton inputs input inner =>
      have ids : batchIDs (inputs ++ [input]) = noteID (batchIDs inputs) (input, inputs.length) := by
        rw [batchIDs, List.zipIdx_append, List.foldl_append]
        simp only [List.zipIdx_singleton, List.foldl_cons, List.foldl_nil, Nat.zero_add]
        rfl
      have times : timesListed (inputs ++ [input]) key =
          timesListed inputs key + if input.serviceID = key then 1 else 0 := by
        rw [timesListed, List.map_append, List.count_append]
        simp only [List.map_cons, List.map_nil, List.count_singleton, timesListed, beq_iff_eq]
      rw [ids]
      unfold idMark at inner ⊢
      rw [times]
      by_cases here : input.serviceID = key
      · rw [if_pos here]
        subst here
        cases seen : (batchIDs inputs).get? input.serviceID with
        | none =>
            rw [note_first _ (input, inputs.length) seen]
            have none := inner.1.mp seen
            refine ⟨iff_of_false (Option.some_ne_none _) (by omega), iff_of_false ?_ (by omega)⟩
            intro mark
            have position := Option.some.inj mark
            simp only at position
            omega
        | some position =>
            rw [note_again _ (input, inputs.length) position seen]
            have some : timesListed inputs input.serviceID ≠ 0 := by
              intro never
              rw [inner.1.mpr never] at seen
              exact absurd seen.symm (Option.some_ne_none _)
            exact ⟨iff_of_false (Option.some_ne_none _) (by omega), iff_of_true rfl (by omega)⟩
      · rw [if_neg here, note_other _ (input, inputs.length) key (Ne.symm here)]
        exact inner

theorem repeated_id_iff (inputs : List ServiceInput) (input : ServiceInput) :
    repeatedID inputs input = true ↔ 1 < timesListed inputs input.serviceID := by
  rw [repeatedID, decide_eq_true_eq]
  exact (ids_marked inputs input.serviceID).2

end Duplicates

section Validity
variable (site : Option SiteInventory)

-- Each input passes alone, and no id stands there twice.
structure RenderableBatch (inputs : List ServiceInput) : Prop where
  valid : ∀ input ∈ inputs, validateAllOrNothing site input false = []
  distinct : (inputs.map ServiceInput.serviceID).Nodup

theorem duplicate_refused (input : ServiceInput) : validateAllOrNothing site input true ≠ [] := by
  simp [validateAllOrNothing, canonicalCauses, cause_if_nil_iff]

theorem batch_causes_nil_iff (inputs : List ServiceInput) :
    batchCauses site inputs = [] ↔ RenderableBatch site inputs := by
  rw [batchCauses, List.flatMap_eq_nil_iff]
  constructor
  · intro clean
    have once : ∀ input ∈ inputs, repeatedID inputs input = false := by
      intro input listed
      by_contra twice
      have none := clean input listed
      rw [Bool.not_eq_false] at twice
      rw [twice] at none
      exact duplicate_refused site input none
    refine ⟨?_, ?_⟩
    · intro input listed
      have none := clean input listed
      rw [once input listed] at none
      exact none
    · rw [List.nodup_iff_count_le_one]
      intro key
      by_contra more
      have listed : key ∈ inputs.map ServiceInput.serviceID := List.count_pos_iff.mp (by omega)
      obtain ⟨input, member, named⟩ := List.mem_map.mp listed
      have single := once input member
      have twice := (repeated_id_iff inputs input).mpr (by rw [named, timesListed]; omega)
      rw [single] at twice
      exact Bool.false_ne_true twice
  · intro renderable input listed
    have single : repeatedID inputs input = false := by
      by_contra twice
      rw [Bool.not_eq_false, repeated_id_iff] at twice
      have once := List.nodup_iff_count_le_one.mp renderable.distinct input.serviceID
      rw [timesListed] at twice
      omega
    rw [single]
    exact renderable.valid input listed

end Validity

end AgenticNetops.Migration
