import AgenticNetops.Deployer.Submit
import AgenticNetops.Migration.Acl
import Mathlib.Data.List.TakeDrop

set_option autoImplicit false

/- pkg/migration/acl.go: which access lists share a table on the device. -/
namespace AgenticNetops.Migration

open GoText
open Deployer (isDNSSubdomain isNameChar)

-- ^[a-zA-Z0-9]{1}([-a-zA-Z0-9_]{1,63})$
def LegalACLName (name : String) : Prop :=
  ∃ first rest, name.toList = first :: rest ∧ isAlphanumeric first = true ∧
    (∀ c ∈ rest, isDeviceNameChar c = true) ∧ 1 ≤ rest.length ∧ rest.length ≤ 63

-- What the name of a table can tell about its access list: the id without its
-- dots, a dash, and the letters of the stage.
def aclSpelling (serviceID stage : String) : List Char :=
  serviceID.toList.filter (· ≠ '.') ++ '-' :: sanitize stage.toList

def AclNamesSound (serviceID stage serviceID' stage' : String) : Prop :=
  ∃ name name', deviceACLTableName serviceID stage = .ok name ∧
    deviceACLTableName serviceID' stage' = .ok name' ∧ LegalACLName name ∧ LegalACLName name' ∧
    (name = name' → serviceID = serviceID' ∧ stage = stage')

theorem name_char_alphanumeric (c : Char) (holds : isNameChar c = true) : isAlphanumeric c = true := by
  simp only [isNameChar, Bool.or_eq_true] at holds
  simp only [isAlphanumeric, Bool.or_eq_true]
  rcases holds with lower | digit
  · exact Or.inl (Or.inl lower)
  · exact Or.inr digit

theorem dot_dropped : isDeviceNameChar '.' = false := by decide

theorem subdomain_char_kept (c : Char)
    (holds : (isNameChar c || decide (c = '-') || decide (c = '.')) = true) :
    isDeviceNameChar c = decide (c ≠ '.') := by
  by_cases dot : c = '.'
  · subst dot
    rw [dot_dropped]
    rfl
  · rw [decide_eq_true dot]
    simp only [Bool.or_eq_true, decide_eq_true_eq] at holds
    rcases holds with (name | dash) | isDot
    · simp only [isDeviceNameChar, name_char_alphanumeric c name, Bool.true_or]
    · rw [dash]
      rfl
    · exact absurd isDot dot

theorem subdomain_chars (name : String) (valid : isDNSSubdomain name = true) :
    ∀ c ∈ name.toList, (isNameChar c || decide (c = '-') || decide (c = '.')) = true := by
  simp only [isDNSSubdomain, Bool.and_eq_true] at valid
  exact List.all_eq_true.mp valid.1.1.2

theorem subdomain_sanitized (name : String) (valid : isDNSSubdomain name = true) :
    sanitize name.toList = name.toList.filter (· ≠ '.') := by
  unfold sanitize
  exact List.filter_congr (fun c listed => subdomain_char_kept c (subdomain_chars name valid c listed))

theorem subdomain_named (name : String) (valid : isDNSSubdomain name = true) : name ≠ "" := by
  intro empty
  rw [empty] at valid
  exact absurd valid (by decide)

/- The name is "acl-" and the first sixty letters of the spelling. -/
theorem acl_name_spelled (serviceID stage : String) (valid : isDNSSubdomain serviceID = true) :
    deviceACLTableName serviceID stage =
      .ok (String.ofList ("acl-".toList ++ (aclSpelling serviceID stage).take 60)) := by
  have spelled : sanitize (serviceID ++ "-" ++ stage).toList = aclSpelling serviceID stage := by
    have parts : (serviceID ++ "-" ++ stage).toList = serviceID.toList ++ ('-' :: stage.toList) := by
      simp only [String.toList_append, List.append_assoc]
      rfl
    have dash : isDeviceNameChar '-' = true := rfl
    rw [parts, aclSpelling, ← subdomain_sanitized serviceID valid]
    simp only [sanitize, List.filter_append, List.filter_cons_of_pos dash]
  rw [device_acl_table_name serviceID stage (subdomain_named serviceID valid), spelled]
  rfl

theorem acl_name_legal (serviceID stage : String) (valid : isDNSSubdomain serviceID = true) :
    LegalACLName (String.ofList ("acl-".toList ++ (aclSpelling serviceID stage).take 60)) := by
  refine ⟨'a', "cl-".toList ++ (aclSpelling serviceID stage).take 60, String.toList_ofList, rfl, ?_, ?_, ?_⟩
  · intro c listed
    rcases List.mem_append.mp listed with start | spelled
    · have allowed : "cl-".toList.all isDeviceNameChar = true := by decide
      exact List.all_eq_true.mp allowed c start
    · have letter := List.mem_of_mem_take spelled
      rw [aclSpelling, ← subdomain_sanitized serviceID valid] at letter
      rcases List.mem_append.mp letter with ofId | rest
      · exact (List.mem_filter.mp ofId).2
      · cases rest with
        | head => rfl
        | tail _ ofStage => exact (List.mem_filter.mp ofStage).2
  · simp
  · rw [List.length_append, List.length_take]
    have three : "cl-".toList.length = 3 := rfl
    omega

theorem differ_within (count : Nat) (first second : List Char) :
    first.take count ≠ second.take count ↔ ∃ place < count, first[place]? ≠ second[place]? := by
  constructor
  · intro differ
    by_contra same
    apply differ
    apply List.ext_getElem?
    intro place
    by_cases inside : place < count
    · rw [List.getElem?_take_of_lt inside, List.getElem?_take_of_lt inside]
      by_contra apart
      exact same ⟨place, inside, apart⟩
    · rw [List.getElem?_take_eq_none (by omega), List.getElem?_take_eq_none (by omega)]
  · intro ⟨place, inside, apart⟩ equal
    apply apart
    rw [← List.getElem?_take_of_lt inside, equal, List.getElem?_take_of_lt inside]

theorem acl_names_sound_iff (serviceID stage serviceID' stage' : String)
    (valid : isDNSSubdomain serviceID = true) (valid' : isDNSSubdomain serviceID' = true) :
    AclNamesSound serviceID stage serviceID' stage' ↔
      (serviceID = serviceID' ∧ stage = stage') ∨
        ∃ place < 60, (aclSpelling serviceID stage)[place]? ≠ (aclSpelling serviceID' stage')[place]? := by
  rw [← differ_within]
  constructor
  · intro ⟨name, name', named, named', _, _, apart⟩
    rw [acl_name_spelled serviceID stage valid] at named
    rw [acl_name_spelled serviceID' stage' valid'] at named'
    injection named with named
    injection named' with named'
    by_cases same : (aclSpelling serviceID stage).take 60 = (aclSpelling serviceID' stage').take 60
    · left
      apply apart
      rw [← named, ← named', same]
    · exact Or.inr same
  · intro condition
    refine ⟨_, _, acl_name_spelled serviceID stage valid, acl_name_spelled serviceID' stage' valid',
      acl_name_legal serviceID stage valid, acl_name_legal serviceID' stage' valid', ?_⟩
    intro equal
    rcases condition with pairs | differ
    · exact pairs
    · have letters := String.ofList_injective equal
      exact absurd (List.append_cancel_left letters) differ

theorem acl_names_sound_stages : isDNSSubdomain "edge-1" = true ∧
    AclNamesSound "edge-1" "ingress" "edge-1" "egress" :=
  ⟨by decide, (acl_names_sound_iff "edge-1" "ingress" "edge-1" "egress" (by decide) (by decide)).mpr
    (Or.inr ⟨7, by decide, by decide⟩)⟩

-- Sixty letters of an id leave no room for the stage.
def longServiceID : String := "service-with-a-name-of-sixty-letters-that-fills-the-table-ab"

theorem stage_cut_off : isDNSSubdomain longServiceID = true ∧
    ¬ AclNamesSound longServiceID "ingress" longServiceID "egress" := by
  have valid : isDNSSubdomain longServiceID = true := by decide
  refine ⟨valid, ?_⟩
  intro ⟨name, name', named, named', _, _, apart⟩
  rw [acl_name_spelled longServiceID "ingress" valid] at named
  rw [acl_name_spelled longServiceID "egress" valid] at named'
  have same : name = name' := by
    injection named with named
    injection named' with named'
    rw [← named, ← named']
    decide
  exact absurd (apart same).2 (by decide)

end AgenticNetops.Migration
