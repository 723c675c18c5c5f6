import AgenticNetops.Kuid.Lease
import AgenticNetops.Srv6service.Types

set_option autoImplicit false

/- controllers/srv6service/allocate.go: the claims of one service. Every call to
   the claim server has its own entry in the answers of the pass. -/
namespace AgenticNetops.Srv6service

open GoText Api Kuid

def leaseIDFirst : Nat := 1
def leaseIDLast : Nat := 999

structure KuidAnswers where
  serviceID : CreateAnswers := { create := .serve {} }
  serviceIDReady : Bool := true
  lease : LeaseAnswers := {}
  clientPrefix : String → CreateAnswers := fun _ => { create := .serve {} }
  clientPrefixReady : String → Bool := fun _ => true
  vlan : CreateAnswers := { create := .serve {} }
  release : ReleaseAnswer := .done

-- A terminal refusal, or an error that requeues with backoff.
inductive StageError where
  | refusal (refusal : Refusal)
  | transient (text : Message)
deriving DecidableEq, Repr

def transientOrRefusal (err : KuidError) : StageError :=
  match err with
  | .exhaustion _ _ => .refusal ⟨.poolExhausted, err.text, .pool⟩
  | _ => .transient err.text

-- Best effort: what the release did not reach stays, and its error is dropped.
def releaseAll (store : Store) (correlationID : String) (answer : ReleaseAnswer) : Store :=
  (releaseByCorrelationID store correlationID answer).1

def reuseAllocation (svc : SRv6Service) (corrID : String) (locators : GoMap String) : Option Allocation :=
  match svc.status.allocations with
  | none => none
  | some st =>
      if svc.status.correlationID ≠ corrID ∨ st.serviceID ≤ 0 ∨ st.vrf = "" then none
      else if svc.spec.attachments.any fun att => st.clientPrefixes.text att.node = "" then none
      else if svc.spec.vlan ≠ none ∧ st.vlan ≠ svc.spec.vlan then none
      else
        match serviceSIDs svc.spec locators with
        | .error _ => none
        | .ok sids => some ⟨st, sids⟩

/- The fallback of the served service-id pool. An exhausted range releases every
   partial claim before it refuses. -/
def fallbackServiceID (store : Store) (corrID : String) (answers : KuidAnswers) : Store × Except StageError Int :=
  match allocateLeaseID store.leases "service" serviceIDPool.name leaseIDFirst leaseIDLast corrID answers.lease with
  | (leases, .ok id) => ({ store with leases }, .ok id)
  | (leases, .error err) =>
      let store := { store with leases }
      match err with
      | .exhaustion _ _ =>
          (releaseAll store corrID answers.release,
            .error (.refusal ⟨.poolExhausted, [.lit "pool ", .str serviceIDPool.name, .lit " is exhausted: "] ++ err.text ++
              [.lit " (partial claims released)"], .pool⟩))
      | _ => (store, .error (transientOrRefusal err))

def allocateServiceID (store : Store) (corrID : String) (answers : KuidAnswers) : Store × Except StageError Int :=
  match createServiceIDClaim store.claims corrID answers.serviceID with
  | (claims, .ok ref) =>
      let store := { store with claims }
      match waitForClaim claims ref answers.serviceIDReady with
      | .ok result => if result.id = 0 then fallbackServiceID store corrID answers else (store, .ok result.id)
      | .error (.timeout _ _) | .error (.unavailable _ _) => fallbackServiceID store corrID answers
      | .error err => (store, .error (transientOrRefusal err))
  | (claims, .error (.unavailable _ _)) => fallbackServiceID { store with claims } corrID answers
  | (claims, .error err) => ({ store with claims }, .error (transientOrRefusal err))

def orderedAttachments (spec : SRv6ServiceSpec) : List Attachment :=
  spec.attachments.insertionSort fun a b => a.node ≤ b.node

def attachmentName (att : Attachment) : String := att.node ++ "-" ++ att.port

def claimPrefixes (store : Store) (corrID : String) (answers : KuidAnswers) :
    List Attachment → GoMap String → Store × Except StageError (GoMap String)
  | [], prefixes => (store, .ok prefixes)
  | att :: rest, prefixes =>
      match createClientPrefixClaim store.claims corrID (attachmentName att) (answers.clientPrefix att.node) with
      | (claims, .error err) => ({ store with claims }, .error (transientOrRefusal err))
      | (claims, .ok ref) =>
          let store := { store with claims }
          match waitForClaim claims ref (answers.clientPrefixReady att.node) with
          | .error err =>
              (store, .error (.transient
                ([.lit "client /24 claim for ", .str att.node, .lit " not ready: "] ++ err.text)))
          | .ok result => claimPrefixes store corrID answers rest (prefixes.set att.node result.address)

-- mac-vrf: the operator-named VLAN under the correlation id.
def reserveSpecVLAN (store : Store) (corrID : String) (answers : KuidAnswers) (vlan : Option Int) :
    Store × Except StageError (Option Int) :=
  match vlan with
  | none => (store, .ok none)
  | some value =>
      match reserveVLAN store.claims corrID value answers.vlan with
      | (claims, .ok _) => ({ store with claims }, .ok (some value))
      | (claims, .error err) =>
          let store := { store with claims }
          match err with
          | .collision _ _ =>
              (releaseAll store corrID answers.release,
                .error (.refusal ⟨.vlanInUse, [.lit "vlan ", .int value, .lit " is reserved by another holder: "] ++
                  err.text, .vlan⟩))
          | _ => (store, .error (transientOrRefusal err))

def allocate (store : Store) (spec : SRv6ServiceSpec) (corrID : String) (locators : GoMap String)
    (answers : KuidAnswers) : Store × Except StageError Allocation :=
  match serviceSIDs spec locators with
  | .error message => (store, .error (.refusal ⟨.locatorMissing, message, .locator⟩))
  | .ok sids =>
      match allocateServiceID store corrID answers with
      | (store, .error err) => (store, .error err)
      | (store, .ok id) =>
          match claimPrefixes store corrID answers (orderedAttachments spec) [] with
          | (store, .error err) => (store, .error err)
          | (store, .ok clientPrefixes) =>
              match reserveSpecVLAN store corrID answers spec.vlan with
              | (store, .error err) => (store, .error err)
              | (store, .ok vlan) =>
                  (store, .ok ⟨{ serviceID := id, vrf := Fabricplan.vrfName id, clientPrefixes, vlan }, sids⟩)

end AgenticNetops.Srv6service
