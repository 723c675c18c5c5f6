import AgenticNetops.Lib.CutText
import AgenticNetops.Api.SRv6Service
import AgenticNetops.Kuid.Claim

set_option autoImplicit false

/- How much of an attachment survives in a claim name. The name is the folded
   join cut to 63 characters, so an attachment gets what the pool, the word
   "claim" and the correlation id leave. -/
namespace AgenticNetops.Kuid

open GoText CutText

theorem fold_runs_dash (inRun : Bool) (front rest : List Char) :
    foldRuns inRun (front ++ '-' :: rest) = foldRuns inRun front ++ '-' :: foldRuns false rest := by
  induction front generalizing inRun with
  | nil => simp [foldRuns, isNameChar]
  | cons c tail ih =>
      by_cases kept : isNameChar c
      · simp [foldRuns, kept, ih]
      · cases inRun <;> simp [foldRuns, kept, ih]

theorem fold_runs_plain (inRun : Bool) (text : List Char) (plain : ∀ c ∈ text, isNameChar c) :
    foldRuns inRun text = text := by
  induction text generalizing inRun with
  | nil => rfl
  | cons c tail ih =>
      have kept := plain c List.mem_cons_self
      simp [foldRuns, kept, ih false fun other member => plain other (List.mem_cons_of_mem c member)]

theorem strip_cons_ne_nil (c : Char) (rest : List Char) (inner : isEdge c = false) :
    (c :: rest).rdropWhile isEdge ≠ [] := by
  intro gone
  have separators := List.rdropWhile_eq_nil_iff.mp gone c List.mem_cons_self
  rw [inner] at separators
  exact Bool.false_ne_true separators

theorem trim_chars_inner (c : Char) (rest : List Char) (inner : isEdge c = false) :
    trimChars isEdge (c :: rest) = (c :: rest).rdropWhile isEdge := by
  rw [trimChars, List.dropWhile_cons_of_neg (by simp [inner]), List.rdropWhile]

theorem sanitize_chars_cut (s : List Char) (c : Char) (rest : List Char) (folded : foldRuns false s = c :: rest)
    (inner : isEdge c = false) : sanitizeChars s = cut isEdge nameLimit (foldRuns false s) := by
  have kept := strip_cons_ne_nil c rest inner
  obtain ⟨tail, stripped⟩ : ∃ tail, (c :: rest).rdropWhile isEdge = c :: tail := by
    obtain ⟨junk, whole⟩ := List.rdropWhile_prefix isEdge (c :: rest)
    cases front : (c :: rest).rdropWhile isEdge with
    | nil => exact absurd front kept
    | cons first tail =>
        rw [front] at whole
        exact ⟨tail, by rw [(List.cons.inj whole).1]⟩
  have sameCut : cut isEdge nameLimit (c :: tail) = cut isEdge nameLimit (c :: rest) := by
    rw [← stripped]
    exact cut_strip isEdge nameLimit (c :: rest)
  rw [sanitizeChars, folded, trim_chars_inner c rest inner, stripped]
  by_cases long : (c :: tail).length > nameLimit
  · have limited : trimChars isEdge ((c :: tail).take nameLimit) = cut isEdge nameLimit (c :: rest) := by
      rw [← sameCut]
      exact trim_chars_inner c _ inner
    have nonempty : cut isEdge nameLimit (c :: rest) ≠ [] := by
      rw [cut, nameLimit, List.take_succ_cons]
      exact strip_cons_ne_nil c _ inner
    simp only [if_pos long, limited, if_neg nonempty]
  · have whole : c :: tail = cut isEdge nameLimit (c :: rest) := by
      rw [← sameCut, cut_of_short isEdge nameLimit (c :: tail) (by omega), ← stripped, List.rdropWhile_idempotent]
    simp only [if_neg long, if_neg (List.cons_ne_nil c tail)]
    exact whole

-- The folded text in front of an attachment, and the room it leaves.
def claimFront (pool : Pool) (correlationID : String) : List Char :=
  (pool.name ++ "-claim-").toList ++ foldRuns false correlationID.toList ++ ['-']

def attachmentRoom (pool : Pool) (correlationID : String) : Nat := nameLimit - (claimFront pool correlationID).length

def attachmentPart (pool : Pool) (correlationID attachment : String) : List Char :=
  cut isEdge (attachmentRoom pool correlationID) (foldRuns false attachment.toList)

-- 63 characters, less "srv6-client-v4-claim-", the folded correlation id and a '-'.
theorem attachment_room_client (correlationID : String) :
    attachmentRoom clientV4Pool correlationID = 41 - (foldRuns false correlationID.toList).length := by
  have fixed : (clientV4Pool.name ++ "-claim-").toList.length = 21 := by decide
  simp only [attachmentRoom, claimFront, List.length_append, fixed, nameLimit, List.length_cons, List.length_nil]
  omega

theorem client_claim_fold (correlationID attachment : String) :
    foldRuns false (join ([clientV4Pool.name, "claim", correlationID] ++ [attachment]) "-").toList =
      claimFront clientV4Pool correlationID ++ foldRuns false attachment.toList := by
  have text : (join ([clientV4Pool.name, "claim", correlationID] ++ [attachment]) "-").toList =
      "srv6-client-v4-claim".toList ++ '-' :: (correlationID.toList ++ '-' :: attachment.toList) := by
    have joined : join ([clientV4Pool.name, "claim", correlationID] ++ [attachment]) "-" =
        "srv6-client-v4-claim" ++ "-" ++ correlationID ++ "-" ++ attachment := rfl
    rw [joined]
    simp only [String.toList_append, List.append_assoc]
    rfl
  have plain : foldRuns false "srv6-client-v4-claim".toList = "srv6-client-v4-claim".toList :=
    fold_runs_plain false _ (List.all_eq_true.mp (by decide))
  rw [text, fold_runs_dash, fold_runs_dash, plain]
  have fixed : (clientV4Pool.name ++ "-claim-").toList = "srv6-client-v4-claim".toList ++ ['-'] := by decide
  rw [claimFront, fixed]
  simp only [List.append_assoc, List.cons_append, List.nil_append]

theorem client_claim_name (correlationID attachment : String) :
    (claimName clientV4Pool correlationID [attachment]).toList =
      cut isEdge nameLimit (claimFront clientV4Pool correlationID ++ foldRuns false attachment.toList) := by
  have folded := client_claim_fold correlationID attachment
  have first : ∃ rest, claimFront clientV4Pool correlationID ++ foldRuns false attachment.toList = 's' :: rest :=
    ⟨_, rfl⟩
  obtain ⟨rest, starts⟩ := first
  rw [claimName, sanitize, String.toList_ofList,
    sanitize_chars_cut _ 's' rest (folded.trans starts) (by decide), folded]

-- Two attachments of one service get one claim name when their remaining parts agree.
theorem client_claim_name_eq_iff (correlationID first second : String) :
    claimName clientV4Pool correlationID [first] = claimName clientV4Pool correlationID [second] ↔
      attachmentPart clientV4Pool correlationID first = attachmentPart clientV4Pool correlationID second := by
  rw [← String.toList_inj, client_claim_name, client_claim_name, cut_append]
  rfl

section Creation
variable (claims : Claims) (pool : Pool) (corrID : String) (parts : List String) (answers : CreateAnswers)

theorem existing_holder_ref (ref found : ClaimRef) (answer : GetAnswer)
    (held : existingHolder claims pool ref corrID answer = .ok found) : found = ref := by
  unfold existingHolder at held
  split at held
  · split at held
    · exact (Except.ok.inj held).symm
    · cases held
  · exact (Except.ok.inj held).symm
  · split at held
    · exact (Except.ok.inj held).symm
    · split at held
      · exact (Except.ok.inj held).symm
      · cases held

-- A create that succeeds resolves to the deterministic name.
theorem create_claim_ref (ref : ClaimRef) (created : (createClaim claims pool corrID parts answers).2 = .ok ref) :
    ref = ⟨pool, claimName pool corrID parts⟩ := by
  unfold createClaim at created
  simp only at created
  split at created
  · split at created
    · exact (Except.ok.inj created).symm
    · exact existing_holder_ref claims pool corrID _ ref _ created
  · split at created
    · exact existing_holder_ref claims pool corrID _ ref _ created
    · cases created

theorem create_claim_taken (existing : Claim)
    (stored : claims.find ⟨pool, claimName pool corrID parts⟩ = some existing)
    (exists' : ∀ err, answers.create = .fail err → isExists err) :
    (createClaim claims pool corrID parts answers).2 =
      existingHolder claims pool ⟨pool, claimName pool corrID parts⟩ corrID answers.get := by
  unfold createClaim
  cases answered : answers.create with
  | serve result => simp only [stored]
  | fail err => simp only [if_pos (exists' err answered)]

theorem create_claim_refused (err : ApiError) (answered : answers.create = .fail err) (refused : ¬ isExists err) :
    (createClaim claims pool corrID parts answers).2 = .error (classify pool.name err) := by
  simp [createClaim, answered, refused]

-- The holder's object goes unnoticed exactly when the server does not show it.
theorem existing_holder_other (ref : ClaimRef) (answer : GetAnswer) (existing : Claim)
    (stored : claims.find ref = some existing) (other : existing.correlationID ≠ corrID) :
    existingHolder claims pool ref corrID answer = .ok ref ↔
      (answer = .hidden ∨ ∃ err, answer = .fail err ∧ err.notFound) := by
  cases answer with
  | shown => simp [existingHolder, stored, other]
  | hidden => simp [existingHolder]
  | fail err => by_cases absent : err.notFound <;> simp [existingHolder, absent]

end Creation

end AgenticNetops.Kuid
