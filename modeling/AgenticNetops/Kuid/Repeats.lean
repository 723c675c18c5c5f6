import AgenticNetops.Kuid.Claim

set_option autoImplicit false

/- A create or a reservation that is sent again. CreateClaim and ReserveValue both find
   the name taken then; what they make of it depends on how the server says so. -/
namespace AgenticNetops.Kuid

open GoText

inductive Request where
  | create (pool : Pool) (parts : List String)
  | reserve (pool : Pool) (value : Int)
deriving DecidableEq, Repr

def Request.ref (corrID : String) : Request → ClaimRef
  | .create pool parts => ⟨pool, claimName pool corrID parts⟩
  | .reserve pool value => ⟨pool, reserveName pool value⟩

def Request.send (claims : Claims) (corrID : String) (answers : CreateAnswers) :
    Request → Claims × Except KuidError ClaimRef
  | .create pool parts => createClaim claims pool corrID parts answers
  | .reserve pool value => reserveValue claims pool corrID value answers

-- ReserveValue's own checks on its arguments.
def Request.accepted (corrID : String) : Request → Bool
  | .create _ _ => true
  | .reserve _ value => 0 < value && corrID ≠ ""

def Request.isReserve : Request → Bool
  | .create _ _ => false
  | .reserve _ _ => true

/- An answer to a create of a name that exists: AlreadyExists, or an error whose text
   folds to it; and the stored object to the read that follows. -/
def saysExists (answers : CreateAnswers) : Bool :=
  answers.get = .shown &&
    match answers.create with
    | .serve _ => true
    | .fail err => isExists err

-- The name is called taken by the error's text alone.
def saysByText (answers : CreateAnswers) : Bool :=
  match answers.create with
  | .serve _ => false
  | .fail err => ¬ err.alreadyExists

-- The holder of the name gets it again, another one gets a collision; nothing changes.
def Repeated (claims : Claims) (existing : Claim) (corrID : String) (answers : CreateAnswers) (request : Request) : Prop :=
  (request.send claims corrID answers).1 = claims ∧
    if existing.correlationID = corrID then (request.send claims corrID answers).2 = .ok (request.ref corrID)
    else ∃ detail, (request.send claims corrID answers).2 = .error (.collision (request.ref corrID).pool.name detail)

section Repeats
variable (claims : Claims) (existing : Claim) (corrID : String) (answers : CreateAnswers)

theorem classify_exists (pool : String) (err : ApiError) (shaped : isExists err) :
    classify pool err = .collision pool [.str err.text] := by
  have taken : (err.alreadyExists || looksLikeExists (toLower err.text) || contains (toLower err.text) "collision" ||
      contains (toLower err.text) "conflict") = true := by
    rw [isExists] at shaped
    rw [shaped, Bool.true_or, Bool.true_or]
  rw [classify]
  exact if_pos taken

section Create
variable (pool : Pool) (parts : List String)

theorem create_taken (stored : claims.find ⟨pool, claimName pool corrID parts⟩ = some existing)
    (shaped : saysExists answers) :
    createClaim claims pool corrID parts answers =
      (claims, existingHolder claims pool ⟨pool, claimName pool corrID parts⟩ corrID .shown) := by
  simp only [saysExists, Bool.and_eq_true, decide_eq_true_eq] at shaped
  rw [createClaim]
  cases answered : answers.create with
  | serve result => simp only [stored, shaped.1]
  | fail err =>
      rw [answered] at shaped
      simp only [if_pos shaped.2, shaped.1]

theorem create_repeated (stored : claims.find ⟨pool, claimName pool corrID parts⟩ = some existing)
    (shaped : saysExists answers) : Repeated claims existing corrID answers (.create pool parts) := by
  have sent := create_taken claims existing corrID answers pool parts stored shaped
  rw [Repeated, Request.send, sent, Request.ref]
  refine ⟨rfl, ?_⟩
  by_cases own : existing.correlationID = corrID
  · rw [if_pos own]
    simp only [existingHolder, stored, if_pos own]
  · rw [if_neg own]
    simp only [existingHolder, stored, if_neg own]
    exact ⟨_, rfl⟩

end Create

section Reserve
variable (pool : Pool) (value : Int)

theorem reserve_taken (stored : claims.find ⟨pool, reserveName pool value⟩ = some existing)
    (accepted : (Request.reserve pool value).accepted corrID) (shaped : saysExists answers) :
    (reserveValue claims pool corrID value answers).1 = claims ∧
      if existing.correlationID = corrID ∧ saysByText answers = false then
        (reserveValue claims pool corrID value answers).2 = .ok ⟨pool, reserveName pool value⟩
      else ∃ detail, (reserveValue claims pool corrID value answers).2 = .error (.collision pool.name detail) := by
  simp only [Request.accepted, Bool.and_eq_true, decide_eq_true_eq] at accepted
  simp only [saysExists, Bool.and_eq_true, decide_eq_true_eq] at shaped
  have positive : ¬ value ≤ 0 := by omega
  rw [reserveValue]
  simp only [if_neg positive, if_neg accepted.2, shaped.1, stored]
  by_cases own : existing.correlationID = corrID
  · cases answered : answers.create with
    | serve result =>
        have byStatus : saysByText answers = false := by rw [saysByText, answered]
        simp only [own, byStatus, and_self, if_true]
    | fail err =>
        rw [answered] at shaped
        by_cases status : err.alreadyExists
        · have byStatus : saysByText answers = false := by simp [saysByText, answered, status]
          simp only [own, byStatus, status, and_self, if_true]
        · have byText : saysByText answers = true := by simp [saysByText, answered, status]
          simp only [if_neg status, byText, Bool.true_eq_false, and_false, if_false, classify_exists pool.name err shaped.2]
          exact ⟨trivial, _, rfl⟩
  · simp only [own, false_and, if_false]
    cases answered : answers.create with
    | serve result => exact ⟨rfl, _, rfl⟩
    | fail err =>
        rw [answered] at shaped
        by_cases status : err.alreadyExists
        · simp only [status, if_true]
          exact ⟨trivial, _, rfl⟩
        · simp only [if_neg status, classify_exists pool.name err shaped.2]
          exact ⟨trivial, _, rfl⟩

theorem reserve_repeated_iff (stored : claims.find ⟨pool, reserveName pool value⟩ = some existing)
    (accepted : (Request.reserve pool value).accepted corrID) (shaped : saysExists answers) :
    Repeated claims existing corrID answers (.reserve pool value) ↔
      ¬ (saysByText answers ∧ existing.correlationID = corrID) := by
  obtain ⟨unchanged, outcome⟩ := reserve_taken claims existing corrID answers pool value stored accepted shaped
  rw [Repeated, Request.send, Request.ref]
  by_cases own : existing.correlationID = corrID
  · cases byText : saysByText answers with
    | true =>
        rw [byText, if_neg (by simp)] at outcome
        obtain ⟨detail, refused⟩ := outcome
        simp [own, refused]
    | false =>
        rw [if_pos ⟨own, byText⟩] at outcome
        simp [own, unchanged, outcome]
  · rw [if_neg fun both => own both.1] at outcome
    simp only [own, and_false, not_false_eq_true, if_false, iff_true]
    exact ⟨unchanged, outcome⟩

end Reserve

/- A request for a name that exists behaves as a repeat, unless it is the holder's own
   reservation and only the text of the answer says that the name exists. -/
theorem repeated_iff (request : Request) (stored : claims.find (request.ref corrID) = some existing)
    (accepted : request.accepted corrID) (shaped : saysExists answers) :
    Repeated claims existing corrID answers request ↔
      ¬ (request.isReserve ∧ saysByText answers ∧ existing.correlationID = corrID) := by
  cases request with
  | create pool parts =>
      simp only [Request.isReserve, Bool.false_eq_true, false_and, not_false_eq_true, iff_true]
      exact create_repeated claims existing corrID answers pool parts stored shaped
  | reserve pool value =>
      simp only [Request.isReserve, true_and]
      exact reserve_repeated_iff claims existing corrID answers pool value stored accepted shaped

end Repeats

-- VLAN 100, reserved for red.
def labReservation : Claim := ⟨⟨vlanPool, reserveName vlanPool 100⟩, "req-red", { index := vlanPool.name, id := some 100 }, {}⟩

def existsStatus : ApiError := { alreadyExists := true, text := "already exists" }

-- What the pinned server answers to a create of a name it has.
def existsText : ApiError := { text := "Internal error occurred: AlreadyExists" }

theorem lab_reservation_repeated :
    Repeated [labReservation] labReservation "req-red" { create := .fail existsStatus } (.reserve vlanPool 100) :=
  (repeated_iff [labReservation] labReservation "req-red" { create := .fail existsStatus } (.reserve vlanPool 100)
    (by decide) (by decide) (by decide)).mpr (by decide)

-- Red's own reservation is reported as a collision.
theorem lab_reservation_collides :
    ¬ Repeated [labReservation] labReservation "req-red" { create := .fail existsText } (.reserve vlanPool 100) := by
  rw [reserve_repeated_iff [labReservation] labReservation "req-red" { create := .fail existsText } vlanPool 100 (by decide)
    (by decide) (by decide +kernel)]
  decide

end AgenticNetops.Kuid
