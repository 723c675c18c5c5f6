import AgenticNetops.Lib.GoText

set_option autoImplicit false

/- pkg/migration/acl.go: the on-device name of an access list's table, and the
   alphabet that sonic-yang leaves to such names. -/
namespace AgenticNetops.Migration

open GoText

def isAlphanumeric (c : Char) : Bool :=
  ('a' ≤ c && c ≤ 'z') || ('A' ≤ c && c ≤ 'Z') || ('0' ≤ c && c ≤ '9')

def isDeviceNameChar (c : Char) : Bool := isAlphanumeric c || c = '-' || c = '_'

-- Only ASCII is left, so a length in characters is a length in bytes.
def sanitize (chars : List Char) : List Char := chars.filter isDeviceNameChar

def deviceACLTableName (serviceID stage : String) : Except Message String :=
  if serviceID = "" then .error [.lit "empty serviceID"]
  else
    let kept := sanitize ("acl-" ++ serviceID ++ "-" ++ stage).toList
    let s := if kept = [] then "acl".toList else kept
    let s := if s.head?.any isAlphanumeric then s else 'A' :: s
    .ok (String.ofList (s.take 64))

/- The two guards behind the sanitizing never fire: the base starts with "acl-". -/
theorem device_acl_table_name (serviceID stage : String) (named : serviceID ≠ "") :
    deviceACLTableName serviceID stage =
      .ok (String.ofList (("acl-".toList ++ sanitize (serviceID ++ "-" ++ stage).toList).take 64)) := by
  have base : sanitize ("acl-" ++ serviceID ++ "-" ++ stage).toList =
      "acl-".toList ++ sanitize (serviceID ++ "-" ++ stage).toList := by
    have split : "acl-" ++ serviceID ++ "-" ++ stage = "acl-" ++ (serviceID ++ "-" ++ stage) := by
      simp only [String.append_assoc]
    rw [split, String.toList_append, sanitize, List.filter_append]
    rfl
  unfold deviceACLTableName
  rw [if_neg named, base]
  rfl

end AgenticNetops.Migration
