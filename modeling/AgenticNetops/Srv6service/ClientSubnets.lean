import AgenticNetops.Kuid.ClaimNames
import AgenticNetops.Srv6service.Allocate

set_option autoImplicit false

/- Which claim objects the attachments of a service resolve to. The server gives
   each claim object a prefix of its own, so two attachments get two subnets
   exactly when their claims have two names. -/
namespace AgenticNetops.Srv6service

open GoText Api Kuid

def clientClaim (svc : SRv6Service) (att : Attachment) : ClaimRef :=
  ⟨clientV4Pool, claimName clientV4Pool (correlationID svc) [attachmentName att]⟩

-- The client pool's objects have one prefix each, distinct per object.
def OwnPrefixes (claims : Claims) : Prop :=
  ∀ first ∈ claims, ∀ second ∈ claims, first.ref.pool = clientV4Pool → second.ref.pool = clientV4Pool →
    first.result.address = second.result.address → first.ref = second.ref

def DistinctSubnets (claims : Claims) (svc : SRv6Service) (a b : Attachment) : Prop :=
  (clientClaim svc a).name ≠ (clientClaim svc b).name ∧
    (claims.find (clientClaim svc a)).map (fun claim => claim.result.address) ≠
      (claims.find (clientClaim svc b)).map (fun claim => claim.result.address)

-- A claim that this correlation id gets back is not another one's object.
def NeverShared (claims : Claims) (pool : Pool) (correlationID : String) (parts : List String)
    (answers : CreateAnswers) : Prop :=
  ∀ ref existing, (createClaim claims pool correlationID parts answers).2 = .ok ref →
    claims.find ref = some existing → existing.correlationID = correlationID

/- The server says the name exists and then does not show the object that another
   correlation id holds under it. -/
def HidesHolder (claims : Claims) (pool : Pool) (correlationID : String) (parts : List String)
    (answers : CreateAnswers) : Prop :=
  (∃ existing, claims.find ⟨pool, claimName pool correlationID parts⟩ = some existing ∧
    existing.correlationID ≠ correlationID) ∧
  (∀ err, answers.create = .fail err → isExists err) ∧
  (answers.get = .hidden ∨ ∃ err, answers.get = .fail err ∧ err.notFound)

def hidesHolder (claims : Claims) (pool : Pool) (correlationID : String) (parts : List String)
    (answers : CreateAnswers) : Bool :=
  ((claims.find ⟨pool, claimName pool correlationID parts⟩).any fun existing => existing.correlationID ≠ correlationID) &&
    (match answers.create with
      | .serve _ => true
      | .fail err => isExists err) &&
    match answers.get with
    | .shown => false
    | .hidden => true
    | .fail err => err.notFound

theorem hides_holder_iff (claims : Claims) (pool : Pool) (correlationID : String) (parts : List String)
    (answers : CreateAnswers) :
    hidesHolder claims pool correlationID parts answers = true ↔ HidesHolder claims pool correlationID parts answers := by
  rw [hidesHolder, HidesHolder, Bool.and_eq_true, Bool.and_eq_true, Option.any_eq_true, and_assoc]
  refine and_congr (by simp) (and_congr ?_ ?_)
  · cases answers.create <;> simp
  · cases answers.get <;> simp

instance (claims : Claims) (pool : Pool) (correlationID : String) (parts : List String) (answers : CreateAnswers) :
    Decidable (HidesHolder claims pool correlationID parts answers) :=
  decidable_of_iff _ (hides_holder_iff claims pool correlationID parts answers)

-- The folded attachment texts differ in the part that the claim name keeps.
def NamesKeepApart (svc : SRv6Service) (a b : Attachment) : Prop :=
  attachmentPart clientV4Pool (correlationID svc) (attachmentName a) ≠
    attachmentPart clientV4Pool (correlationID svc) (attachmentName b)

theorem find_claim (claims : Claims) (ref : ClaimRef) (claim : Claim) (found : claims.find ref = some claim) :
    claim ∈ claims ∧ claim.ref = ref :=
  ⟨List.mem_of_find?_eq_some found, by simpa using List.find?_some found⟩

theorem distinct_subnets_iff (claims : Claims) (svc : SRv6Service) (a b : Attachment) (claimA claimB : Claim)
    (ownPrefixes : OwnPrefixes claims) (storedA : claims.find (clientClaim svc a) = some claimA)
    (storedB : claims.find (clientClaim svc b) = some claimB) :
    DistinctSubnets claims svc a b ↔ NamesKeepApart svc a b := by
  have names := client_claim_name_eq_iff (correlationID svc) (attachmentName a) (attachmentName b)
  obtain ⟨inA, refA⟩ := find_claim claims _ claimA storedA
  obtain ⟨inB, refB⟩ := find_claim claims _ claimB storedB
  constructor
  · rintro ⟨differ, _⟩ same
    exact differ (names.mpr same)
  · intro apart
    have differ : (clientClaim svc a).name ≠ (clientClaim svc b).name := fun same => apart (names.mp same)
    refine ⟨differ, ?_⟩
    rw [storedA, storedB, Option.map_some, Option.map_some]
    intro sameAddress
    have sameRef := ownPrefixes claimA inA claimB inB (by rw [refA]; rfl) (by rw [refB]; rfl) (Option.some.inj sameAddress)
    rw [refA, refB] at sameRef
    exact differ (congrArg ClaimRef.name sameRef)

theorem never_shared_iff (claims : Claims) (pool : Pool) (corrID : String) (parts : List String)
    (answers : CreateAnswers) :
    NeverShared claims pool corrID parts answers ↔ ¬ HidesHolder claims pool corrID parts answers := by
  constructor
  · rintro shared ⟨⟨existing, stored, other⟩, taken, hidden⟩
    have created := create_claim_taken claims pool corrID parts answers existing stored taken
    rw [(existing_holder_other claims pool corrID _ _ existing stored other).mpr hidden] at created
    exact other (shared _ existing created stored)
  · intro shown ref existing created stored
    by_contra other
    have named := create_claim_ref claims pool corrID parts answers ref created
    subst named
    refine shown ⟨⟨existing, stored, other⟩, ?_, ?_⟩
    · intro err answered
      by_contra refused
      rw [create_claim_refused claims pool corrID parts answers err answered refused] at created
      cases created
    · refine (existing_holder_other claims pool corrID _ _ existing stored other).mp ?_
      rw [← created, create_claim_taken claims pool corrID parts answers existing stored]
      intro err answered
      by_contra refused
      rw [create_claim_refused claims pool corrID parts answers err answered refused] at created
      cases created

/- One service's attachments get two subnets, and no correlation id gets another
   one's claim object, exactly when the kept parts of the names differ and the
   server shows the object behind a name it calls taken. -/
theorem client_subnets_distinct_iff (claims : Claims) (svc : SRv6Service) (a b : Attachment) (claimA claimB : Claim)
    (ownPrefixes : OwnPrefixes claims) (storedA : claims.find (clientClaim svc a) = some claimA)
    (storedB : claims.find (clientClaim svc b) = some claimB) (pool : Pool) (corrID : String) (parts : List String)
    (answers : CreateAnswers) :
    DistinctSubnets claims svc a b ∧ NeverShared claims pool corrID parts answers ↔
      NamesKeepApart svc a b ∧ ¬ HidesHolder claims pool corrID parts answers :=
  and_congr (distinct_subnets_iff claims svc a b claimA claimB ownPrefixes storedA storedB)
    (never_shared_iff claims pool corrID parts answers)

def labAttachment (node : String) : Attachment := { node, port := "wan1" }

def subnetService (labels : GoMap String) : SRv6Service where
  inNamespace := "default"
  name := "red"
  uid := "0b9e8a52-6c1f-4c58-9d4e-2f6f3a7b1c2d"
  labels := labels
  creationTimestamp := 0
  generation := 1
  spec :=
    { tenant := "red", construct := constructIPVRF, signalling := signallingVPN,
      attachments := [labAttachment "leaf01", labAttachment "leaf02"] }

def labClaim (labels : GoMap String) (node address : String) : Claim where
  ref := clientClaim (subnetService labels) (labAttachment node)
  correlationID := correlationID (subnetService labels)
  spec := claimSpec clientV4Pool
  result := { address }

def labClaims : Claims :=
  [labClaim [(correlationIDLabel, "req-1")] "leaf01" "192.168.0.0/24",
   labClaim [(correlationIDLabel, "req-1")] "leaf02" "192.168.1.0/24"]

theorem labelled_subnets_distinct :
    DistinctSubnets labClaims (subnetService [(correlationIDLabel, "req-1")]) (labAttachment "leaf01")
        (labAttachment "leaf02") ∧
      NeverShared labClaims clientV4Pool "req-2" ["leaf01-wan1"] { create := .serve { address := "192.168.2.0/24" } } ↔
    NamesKeepApart (subnetService [(correlationIDLabel, "req-1")]) (labAttachment "leaf01") (labAttachment "leaf02") ∧
      ¬ HidesHolder labClaims clientV4Pool "req-2" ["leaf01-wan1"]
        { create := .serve { address := "192.168.2.0/24" } } :=
  client_subnets_distinct_iff labClaims _ _ _ (labClaim [(correlationIDLabel, "req-1")] "leaf01" "192.168.0.0/24")
    (labClaim [(correlationIDLabel, "req-1")] "leaf02" "192.168.1.0/24") (by unfold OwnPrefixes; decide) (by decide)
    (by decide) clientV4Pool "req-2" ["leaf01-wan1"] _

/- Without a label the correlation id is the 36-character UID: both leaves keep
   "leaf0" only, and both attachments get the one claim, under one prefix. -/
theorem unlabelled_subnets_shared :
    (labAttachment "leaf01").node ≠ (labAttachment "leaf02").node ∧
    ¬ DistinctSubnets [labClaim [] "leaf01" "192.168.0.0/24"] (subnetService []) (labAttachment "leaf01")
        (labAttachment "leaf02") := by
  refine ⟨by decide, ?_⟩
  rintro ⟨differ, _⟩
  exact differ (by decide)

end AgenticNetops.Srv6service
