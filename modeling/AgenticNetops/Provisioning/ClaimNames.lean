import AgenticNetops.Kuid.ClaimNames
import AgenticNetops.Provisioning.KuidClient

set_option autoImplicit false

/- The claim names of the two tiers. kuid.py cuts the joined name as it stands; the
   Go package folds every character outside its alphabet first and trims the ends of
   a short name, too. -/
namespace AgenticNetops.Provisioning

open GoText CutText

def joinedName (pool correlationID attachment : String) : List Char :=
  (join [pool, "claim", correlationID, attachment] "-").toList

-- What is left of the joined name has no character that the Go side folds or trims.
def KeepsName (pool correlationID attachment : String) : Prop :=
  let joined := joinedName pool correlationID attachment
  (∀ c ∈ joined.take Kuid.nameLimit, Kuid.isNameChar c) ∧
    (joined.length ≤ Kuid.nameLimit → joined.rdropWhile Kuid.isEdge = joined)

instance (pool correlationID attachment : String) : Decidable (KeepsName pool correlationID attachment) :=
  @instDecidableAnd _ _ (List.decidableBAll _ _) (inferInstanceAs (Decidable (_ ≤ _ → _ = _)))

section Fold

theorem fold_runs_names (inRun : Bool) (text : List Char) : ∀ c ∈ Kuid.foldRuns inRun text, Kuid.isNameChar c := by
  induction text generalizing inRun with
  | nil => exact fun c member => absurd member List.not_mem_nil
  | cons first rest ih =>
      intro c member
      rw [Kuid.foldRuns] at member
      by_cases named : Kuid.isNameChar first
      · rw [if_pos named] at member
        rcases List.mem_cons.mp member with here | later
        · exact here ▸ named
        · exact ih false c later
      · rw [if_neg named] at member
        cases inRun with
        | true => exact ih true c member
        | false =>
            rcases List.mem_cons.mp member with here | later
            · exact here ▸ (by decide)
            · exact ih true c later

-- A plain beginning is left alone.
theorem fold_runs_take (inRun : Bool) (text : List Char) (limit : Nat)
    (plain : ∀ c ∈ text.take limit, Kuid.isNameChar c) :
    (Kuid.foldRuns inRun text).take limit = text.take limit := by
  induction text generalizing inRun limit with
  | nil => rfl
  | cons first rest ih =>
      cases limit with
      | zero => rfl
      | succ limit =>
          have named : Kuid.isNameChar first := plain first List.mem_cons_self
          rw [Kuid.foldRuns, if_pos named, List.take_succ_cons, List.take_succ_cons,
            ih false limit fun c member => plain c (List.mem_cons_of_mem first member)]

-- What trailing separators hide has no character outside the alphabet.
theorem strip_names (text : List Char) (named : ∀ c ∈ text.rdropWhile Kuid.isEdge, Kuid.isNameChar c) :
    ∀ c ∈ text, Kuid.isNameChar c := by
  obtain ⟨junk, whole⟩ := List.rdropWhile_prefix Kuid.isEdge text
  have edge_named : ∀ c, Kuid.isEdge c → Kuid.isNameChar c := by
    intro c edge
    simp only [Kuid.isEdge, Bool.or_eq_true, decide_eq_true_eq] at edge
    rcases edge with rfl | rfl
    · decide
    · decide
  have separators : ∀ c ∈ junk, Kuid.isEdge c := by
    have idle : (text.rdropWhile Kuid.isEdge ++ junk).rdropWhile Kuid.isEdge = text.rdropWhile Kuid.isEdge := by rw [whole]
    rw [strip_append, List.rdropWhile_idempotent] at idle
    by_cases gone : junk.rdropWhile Kuid.isEdge = []
    · exact List.rdropWhile_eq_nil_iff.mp gone
    · rw [if_neg gone] at idle
      exact absurd (List.append_right_eq_self.mp idle) gone
  intro c member
  rw [← whole] at member
  rcases List.mem_append.mp member with kept | dropped
  · exact named c kept
  · exact edge_named c (separators c dropped)

end Fold

section Names
variable (pool : Kuid.Pool) (correlationID attachment : String)

theorem joined_name_chars (name : String) :
    joinedName name correlationID attachment =
      name.toList ++ ('-' :: "claim".toList ++ '-' :: correlationID.toList ++ '-' :: attachment.toList) := by
  have joined : join [name, "claim", correlationID, attachment] "-" =
      name ++ "-" ++ "claim" ++ "-" ++ correlationID ++ "-" ++ attachment := rfl
  rw [joinedName, joined]
  simp only [String.toList_append, List.append_assoc]
  rfl

-- No pool of the package begins with a separator.
theorem joined_name_first (known : pool ∈ Kuid.pools) :
    ∃ c rest, joinedName pool.name correlationID attachment = c :: rest ∧ Kuid.isNameChar c ∧ Kuid.isEdge c = false := by
  have first : ∃ c rest, pool.name.toList = c :: rest ∧ Kuid.isNameChar c ∧ Kuid.isEdge c = false := by
    simp only [Kuid.pools, List.mem_cons, List.not_mem_nil, or_false] at known
    rcases known with rfl | rfl | rfl
    · exact ⟨'s', _, rfl, by decide, by decide⟩
    · exact ⟨'s', _, rfl, by decide, by decide⟩
    · exact ⟨'f', _, rfl, by decide, by decide⟩
  obtain ⟨c, rest, starts, plain⟩ := first
  exact ⟨c, _, by rw [joined_name_chars, starts, List.cons_append], plain⟩

theorem go_claim_name (known : pool ∈ Kuid.pools) :
    (Kuid.claimName pool correlationID [attachment]).toList =
      cut Kuid.isEdge Kuid.nameLimit (Kuid.foldRuns false (joinedName pool.name correlationID attachment)) := by
  obtain ⟨c, rest, starts, named, inner⟩ := joined_name_first pool correlationID attachment known
  have folded : Kuid.foldRuns false (joinedName pool.name correlationID attachment) = c :: Kuid.foldRuns false rest := by
    rw [starts, Kuid.foldRuns, if_pos named]
  have text : (join ([pool.name, "claim", correlationID] ++ [attachment]) "-").toList =
      joinedName pool.name correlationID attachment := rfl
  rw [Kuid.claimName, Kuid.sanitize, String.toList_ofList, text, Kuid.sanitize_chars_cut _ c _ folded inner]

theorem python_claim_name (known : pool ∈ Kuid.pools) :
    (claimName pool.name correlationID [attachment]).toList =
      if (joinedName pool.name correlationID attachment).length > Kuid.nameLimit then
        cut Kuid.isEdge Kuid.nameLimit (joinedName pool.name correlationID attachment)
      else joinedName pool.name correlationID attachment := by
  obtain ⟨c, rest, starts, _, inner⟩ := joined_name_first pool correlationID attachment known
  have text : (join ([pool.name, "claim", correlationID] ++ [attachment]) "-").toList =
      joinedName pool.name correlationID attachment := rfl
  have trimmed : trimChars isEdge ((joinedName pool.name correlationID attachment).take Kuid.nameLimit) =
      cut Kuid.isEdge Kuid.nameLimit (joinedName pool.name correlationID attachment) := by
    rw [starts, cut, Kuid.nameLimit, List.take_succ_cons]
    exact Kuid.trim_chars_inner c _ inner
  have limit : Kuid.nameLimit = 63 := rfl
  rw [limit] at trimmed ⊢
  unfold claimName
  simp only [text]
  by_cases long : (joinedName pool.name correlationID attachment).length > 63
  · rw [if_pos long, if_pos long, ← trimmed]
    exact String.toList_ofList
  · rw [if_neg long, if_neg long]
    exact text

-- The two tiers address one claim exactly where nothing of the name is folded or trimmed.
theorem claim_names_agree_iff (known : pool ∈ Kuid.pools) :
    claimName pool.name correlationID [attachment] = Kuid.claimName pool correlationID [attachment] ↔
      KeepsName pool.name correlationID attachment := by
  rw [← String.toList_inj, python_claim_name pool correlationID attachment known,
    go_claim_name pool correlationID attachment known]
  unfold KeepsName
  generalize joinedName pool.name correlationID attachment = joined
  have folded_named : ∀ c ∈ cut Kuid.isEdge Kuid.nameLimit (Kuid.foldRuns false joined), Kuid.isNameChar c := fun c member =>
    fold_runs_names false joined c (List.mem_of_mem_take ((List.rdropWhile_prefix Kuid.isEdge _).subset member))
  by_cases long : joined.length > Kuid.nameLimit
  · rw [if_pos long]
    constructor
    · intro same
      rw [← same] at folded_named
      exact ⟨strip_names _ folded_named, fun short => absurd short (by omega)⟩
    · intro keeps
      rw [cut, cut, fold_runs_take false joined Kuid.nameLimit keeps.1]
  · rw [if_neg long]
    have whole : joined.take Kuid.nameLimit = joined := List.take_of_length_le (by omega)
    constructor
    · intro same
      rw [← same] at folded_named
      refine ⟨by rwa [whole], fun _ => ?_⟩
      rw [same, cut, List.rdropWhile_idempotent]
    · intro keeps
      rw [cut, fold_runs_take false joined Kuid.nameLimit keeps.1, whole, keeps.2 (by omega)]

theorem lab_claim_names_agree :
    claimName Kuid.clientV4Pool.name "corr-1" ["leaf01-wan1"] = Kuid.claimName Kuid.clientV4Pool "corr-1" ["leaf01-wan1"] :=
  (claim_names_agree_iff Kuid.clientV4Pool "corr-1" "leaf01-wan1" (by decide)).mpr (by decide)

-- A port name with an underscore: kuid.py keeps it, the Go side folds it.
theorem underscored_claim_names_differ :
    claimName Kuid.clientV4Pool.name "corr-1" ["leaf01-wan_1"] ≠ Kuid.claimName Kuid.clientV4Pool "corr-1" ["leaf01-wan_1"] := by
  decide

end Names

end AgenticNetops.Provisioning
