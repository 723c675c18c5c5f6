import Mathlib.Data.List.Nodup
import AgenticNetops.Lib.Json

set_option autoImplicit false

/- The intent namespace of the cluster as the deployer's client sees it: the Networks
   and SRv6Services in it, each read as the JSON the API returns. -/
namespace AgenticNetops.Deployer

open GoText JsonValue

-- A ResourceRef; the namespace is always the intent namespace, and the kind tells the apiVersion.
structure Ref where
  kind : String
  name : String
deriving DecidableEq, Repr

-- The key objects are sorted by: namespace, kind, name.
def Ref.le (a b : Ref) : Bool := a.kind < b.kind || (a.kind = b.kind && a.name ≤ b.name)

def correlationLabel : String := "agentic-netops.io/correlation-id"

def networkKind : String := "Network"

-- RESOURCE_PATHS, the discovery table and allow-list.
def resourcePaths : List (String × String) :=
  [("network.kubenet.dev/v1alpha1", networkKind), ("agentic-netops.io/v1alpha1", "SRv6Service")]

def metadataOf (object : Json) : Json := object.field "metadata"

def nameOf (object : Json) : String := ((metadataOf object).field "name").text

def refOf (object : Json) : Ref := ⟨(object.field "kind").text, nameOf object⟩

def correlationOf (object : Json) : Option String :=
  (((metadataOf object).field "labels").field? correlationLabel).bind Json.text?

def specOf (object : Json) : Json := object.field "spec"

/- What the API server stores for a server-side apply, from the object it held. The
   manifest's fields are set, lists as a whole, and the deployer is the only manager of
   the two lists, so one that it no longer sends is removed. -/
structure ServerSideApply where
  merged : Option Json → Json → Json
  ref_kept : ∀ held manifest, refOf (merged held manifest) = refOf manifest
  label_set : ∀ held manifest id, correlationOf manifest = some id → correlationOf (merged held manifest) = some id
  lists_set : ∀ held manifest key, key = "attachments" ∨ key = "accessLists" →
    (specOf (merged held manifest)).field key = (specOf manifest).field key

-- The API server of an object without defaults, status or other managers.
def replacing : ServerSideApply where
  merged := fun _ manifest => manifest
  ref_kept := fun _ _ => rfl
  label_set := fun _ _ _ labelled => labelled
  lists_set := fun _ _ _ _ => rfl

-- One object for each kind and name.
structure Cluster where
  objects : List Json
  unique : (objects.map refOf).Nodup
deriving DecidableEq

def Cluster.refs (cluster : Cluster) : List Ref := cluster.objects.map refOf

def Cluster.get (cluster : Cluster) (ref : Ref) : Option Json := cluster.objects.find? fun object => refOf object = ref

def Cluster.networks (cluster : Cluster) : List Json :=
  cluster.objects.filter fun object => (refOf object).kind = networkKind

def Cluster.labelled (cluster : Cluster) (correlationID : String) : List Json :=
  cluster.objects.filter fun object => correlationOf object = some correlationID

def Cluster.delete (cluster : Cluster) (ref : Ref) : Cluster where
  objects := cluster.objects.filter fun object => refOf object ≠ ref
  unique := (List.filter_sublist.map refOf).nodup cluster.unique

theorem written_unique (cluster : Cluster) (written : Json) :
    ((cluster.objects.filter fun object => refOf object ≠ refOf written).map refOf ++ [refOf written]).Nodup := by
  have others := (List.filter_sublist (p := fun object => decide (refOf object ≠ refOf written))).map refOf
    |>.nodup cluster.unique
  have absent : refOf written ∉ (cluster.objects.filter fun object => refOf object ≠ refOf written).map refOf := by
    intro member
    obtain ⟨object, kept, same⟩ := List.mem_map.mp member
    simp [same] at kept
  exact List.nodup_append.mpr ⟨others, List.nodup_singleton _, by
    intro ref member other single same
    rw [List.mem_singleton.mp single] at same
    exact absent (same ▸ member)⟩

def Cluster.write (cluster : Cluster) (api : ServerSideApply) (manifest : Json) : Cluster where
  objects := (cluster.objects.filter fun object => refOf object ≠ refOf manifest) ++
    [api.merged (cluster.get (refOf manifest)) manifest]
  unique := by
    rw [List.map_append, List.map_singleton, api.ref_kept]
    exact written_unique cluster manifest

section Members
variable (cluster : Cluster) (object : Json)

@[simp] theorem mem_delete (ref : Ref) :
    object ∈ (cluster.delete ref).objects ↔ object ∈ cluster.objects ∧ refOf object ≠ ref := by
  simp only [Cluster.delete, List.mem_filter, decide_eq_true_eq]

@[simp] theorem mem_write (api : ServerSideApply) (manifest : Json) :
    object ∈ (cluster.write api manifest).objects ↔
      (object ∈ cluster.objects ∧ refOf object ≠ refOf manifest) ∨
        object = api.merged (cluster.get (refOf manifest)) manifest := by
  simp only [Cluster.write, List.mem_append, List.mem_filter, decide_eq_true_eq, List.mem_singleton]

theorem get_eq_some_iff (ref : Ref) : cluster.get ref = some object ↔ object ∈ cluster.objects ∧ refOf object = ref := by
  constructor
  · intro found
    exact ⟨List.mem_of_find?_eq_some found, by simpa using List.find?_some found⟩
  · intro parts
    obtain ⟨member, named⟩ := parts
    cases found : cluster.get ref with
    | none => exact absurd named (by simpa using List.find?_eq_none.mp found object member)
    | some other =>
        have other_named : refOf other = ref := by simpa using List.find?_some found
        have same := List.inj_on_of_nodup_map cluster.unique (List.mem_of_find?_eq_some found) member
          (other_named.trans named.symm)
        rw [same]

theorem get_write_other (api : ServerSideApply) (manifest : Json) (ref : Ref) (other : ref ≠ refOf manifest) :
    (cluster.write api manifest).get ref = cluster.get ref := by
  apply Option.ext
  intro object
  rw [get_eq_some_iff, get_eq_some_iff, mem_write]
  constructor
  · intro parts
    obtain ⟨member, named⟩ := parts
    cases member with
    | inl kept => exact ⟨kept.1, named⟩
    | inr stored => exact absurd (by rw [← named, stored, api.ref_kept]) other
  · intro parts
    obtain ⟨member, named⟩ := parts
    exact ⟨.inl ⟨member, named ▸ other⟩, named⟩

theorem mem_refs_iff (ref : Ref) : ref ∈ cluster.refs ↔ ∃ object, cluster.get ref = some object := by
  simp only [Cluster.refs, List.mem_map, get_eq_some_iff]

end Members

end AgenticNetops.Deployer
