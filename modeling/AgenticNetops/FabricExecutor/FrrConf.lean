import AgenticNetops.Lib.GoText
import AgenticNetops.Lib.HexText
import AgenticNetops.Lib.Runs
import Mathlib.Data.List.Infix
import Mathlib.Data.UInt

set_option autoImplicit false

/- cmd/fabric-executor: the durable half of an FRR change. A block of lines is appended to
   the node's FRR file under a marker, unless the marker is in the file; FRR reads the
   file from the top, so for a VRF the last block that names it counts. -/
namespace AgenticNetops.FabricExecutor

open GoText HexText Runs

section Code
-- The SHA-256 of a block.
variable (sum : String → List UInt8)

def marker (block : String) : String := "! agentic-netops managed block " ++ hexText ((sum block).take 8)

-- What one append adds: the payload, and the printf behind it.
def managedEntry (block : String) : String := marker sum block ++ "\n" ++ block ++ "\n!\n"

-- grep -qF of a text without a line break.
def grepFixed (text file : String) : Prop := text.toList <:+: file.toList

instance (text file : String) : Decidable (grepFixed text file) := inferInstanceAs (Decidable (_ <:+: _))

-- The command as the node runs it.
def appendBlock (block file : String) : String :=
  if grepFixed (marker sum block) file then file else file ++ managedEntry sum block

end Code

-- A call whose command never ran leaves the node as it is; one that ran has been
-- applied, whatever became of its answer.
structure FRRCall where
  lines : List String
  ran : Bool := true
deriving DecidableEq, Repr

def FRRCall.block (call : FRRCall) : String := join call.lines "\n"

-- The node's file, the managed blocks in it, and the blocks applied so far.
structure FRRNode where
  file : String
  managed : List String := []
  applied : List String := []
deriving DecidableEq, Repr

def applyFRRConf (sum : String → List UInt8) (node : FRRNode) (call : FRRCall) : FRRNode :=
  if !call.ran then node
  else
    { file := appendBlock sum call.block node.file
      managed := if grepFixed (marker sum call.block) node.file then node.managed else node.managed ++ [call.block]
      applied := node.applied ++ [call.block] }

section Meaning

-- "vrf NAME" opens or ends a line that is about the VRF.
def lineNames (vrf : String) (line : List Char) : Bool :=
  line = ("vrf " ++ vrf).toList || (" vrf " ++ vrf).toList.isSuffixOf line

def blockNames (vrf block : String) : Bool := (block.toList.splitOn '\n').any (lineNames vrf)

def lastNaming (blocks : List String) (vrf : String) : Option String := blocks.reverse.find? (blockNames vrf)

structure Durable (node : FRRNode) : Prop where
  present : ∀ block ∈ node.applied, block ∈ node.managed
  once : node.managed.Nodup
  latest : ∀ vrf block, lastNaming node.applied vrf = some block → lastNaming node.managed vrf = some block

-- The file is what the node started with and the managed blocks behind it.
def Filed (sum : String → List UInt8) (initial : String) (node : FRRNode) : Prop :=
  node.file = initial ++ String.join (node.managed.map (managedEntry sum))

/- Either the block is new and its marker is not in the file, or it is in the file and
   there the last one for every VRF that it names. -/
def AppendsDurably (sum : String → List UInt8) (node : FRRNode) (call : FRRCall) : Prop :=
  call.ran = true →
    (call.block ∉ node.managed ∧ ¬ grepFixed (marker sum call.block) node.file) ∨
      (call.block ∈ node.managed ∧
        ∀ vrf, blockNames vrf call.block = true → lastNaming node.managed vrf = some call.block)

end Meaning

section Steps
variable (sum : String → List UInt8) (initial : String)

theorem last_naming_snoc (blocks : List String) (block vrf : String) :
    lastNaming (blocks ++ [block]) vrf = if blockNames vrf block = true then some block else lastNaming blocks vrf := by
  rw [lastNaming, List.reverse_append, List.reverse_singleton, List.singleton_append]
  by_cases named : blockNames vrf block = true
  · rw [List.find?_cons_of_pos named, if_pos named]
  · rw [List.find?_cons_of_neg named, if_neg named]
    rfl

theorem managed_marker_found (node : FRRNode) (filed : Filed sum initial node) (block : String)
    (listed : block ∈ node.managed) : grepFixed (marker sum block) node.file := by
  obtain ⟨front, back, split⟩ := List.append_of_mem listed
  rw [Filed, split] at filed
  refine ⟨initial.toList ++ (String.join (front.map (managedEntry sum))).toList,
    ("\n" ++ block ++ "\n!\n").toList ++ (String.join (back.map (managedEntry sum))).toList, ?_⟩
  rw [filed]
  simp only [List.map_append, List.map_cons, String.join_append, String.join_cons, String.toList_append, managedEntry,
    List.append_assoc]

theorem filed_step (node : FRRNode) (call : FRRCall) (filed : Filed sum initial node) :
    Filed sum initial (applyFRRConf sum node call) := by
  rw [applyFRRConf]
  split
  · exact filed
  · rw [Filed, appendBlock] at *
    dsimp only
    split
    · exact filed
    · rw [filed, List.map_append, String.join_append, String.append_assoc]
      simp [String.join_cons]

/- One call keeps the file durable exactly when its block may be appended, or need not be. -/
theorem durable_step_iff (node : FRRNode) (call : FRRCall) (filed : Filed sum initial node) (durable : Durable node) :
    Durable (applyFRRConf sum node call) ↔ AppendsDurably sum node call := by
  cases ran : call.ran with
  | false =>
      have kept : applyFRRConf sum node call = node := by
        rw [applyFRRConf, ran]
        rfl
      rw [kept]
      exact iff_of_true durable (fun other => absurd (ran.symm.trans other) Bool.false_ne_true)
  | true =>
      by_cases found : grepFixed (marker sum call.block) node.file
      · have after : applyFRRConf sum node call = { node with applied := node.applied ++ [call.block] } := by
          rw [applyFRRConf, ran, appendBlock, if_pos found, if_pos found]
          rfl
        rw [after]
        constructor
        · intro kept _
          have listed : call.block ∈ node.managed := kept.present call.block (List.mem_append_right _ List.mem_cons_self)
          refine Or.inr ⟨listed, ?_⟩
          intro vrf named
          apply kept.latest vrf
          rw [last_naming_snoc, if_pos named]
        · intro allowed
          rcases allowed ran with fresh | again
          · exact absurd found fresh.2
          · obtain ⟨listed, last⟩ := again
            exact {
              present := by
                intro block member
                rcases List.mem_append.mp member with earlier | here
                · exact durable.present block earlier
                · rw [List.mem_singleton.mp here]
                  exact listed
              once := durable.once
              latest := by
                intro vrf block latest
                rw [last_naming_snoc] at latest
                split at latest
                · rename_i named
                  rw [← Option.some.inj latest]
                  exact last vrf named
                · exact durable.latest vrf block latest }
      · have fresh : call.block ∉ node.managed := fun listed => found (managed_marker_found sum initial node filed _ listed)
        have after : applyFRRConf sum node call =
            { file := node.file ++ managedEntry sum call.block
              managed := node.managed ++ [call.block]
              applied := node.applied ++ [call.block] } := by
          rw [applyFRRConf, ran, appendBlock, if_neg found, if_neg found]
          rfl
        rw [after]
        refine iff_of_true ?_ (fun _ => Or.inl ⟨fresh, found⟩)
        exact {
          present := by
            intro block member
            rcases List.mem_append.mp member with earlier | here
            · exact List.mem_append_left _ (durable.present block earlier)
            · exact List.mem_append_right _ here
          once := by
            rw [List.nodup_append]
            refine ⟨durable.once, List.nodup_singleton _, ?_⟩
            intro block earlier other here same
            rw [List.mem_singleton] at here
            exact fresh (here ▸ same ▸ earlier)
          latest := by
            intro vrf block latest
            rw [last_naming_snoc] at latest ⊢
            split at latest
            · rename_i named
              rw [if_pos named]
              exact latest
            · rename_i named
              rw [if_neg named]
              exact durable.latest vrf block latest }

end Steps

-- A node before the first call.
def startNode (initial : String) : FRRNode := { file := initial }

theorem start_durable (initial : String) : Durable (startNode initial) := by
  refine ⟨?_, List.nodup_nil, ?_⟩
  · intro block listed
    exact absurd listed List.not_mem_nil
  · intro vrf block latest
    exact absurd latest.symm (Option.some_ne_none block)

theorem frr_conf_durable_iff (sum : String → List UInt8) (initial : String) (calls : List FRRCall) :
    Everywhere (applyFRRConf sum) Durable (startNode initial) calls ↔
      EachStep (applyFRRConf sum) (AppendsDurably sum) (startNode initial) calls := by
  apply everywhere_iff (applyFRRConf sum) Durable (AppendsDurably sum) (Filed sum initial)
  · intro node call filed
    exact filed_step sum initial node call filed
  · intro node call filed durable
    exact durable_step_iff sum initial node call filed durable
  · exact (String.append_empty).symm
  · exact start_durable initial

section Lab

-- A checksum in place of the SHA-256.
def labSum (block : String) : List UInt8 := [(block.toList.map Char.toUInt8).sum]

def labFRRCall (vni : String) : FRRCall := { lines := ["vrf Blue", " vni " ++ vni, "exit-vrf", "!"] }

-- A VNI that is changed and changed back: the file ends with the VNI in between.
theorem returned_block_not_last :
    ¬ Everywhere (applyFRRConf labSum) Durable (startNode "hostname leaf01\n")
      [labFRRCall "10020", labFRRCall "10021", labFRRCall "10020"] := by
  intro durable
  have last := durable.2.2.2.latest "Blue" (labFRRCall "10020").block (by decide +kernel)
  exact absurd last (by decide +kernel)

end Lab

end AgenticNetops.FabricExecutor
