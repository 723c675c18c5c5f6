import Mathlib.Data.List.Pairwise
import AgenticNetops.Lib.Runs
import AgenticNetops.Provisioning.KuidClient

set_option autoImplicit false

/- Any number of lease fallbacks and releases over one lease server, one request at a
   time. A call lists the leases of its index, then asks for one free value after the
   other; its list is as old as the requests that others made since. -/
namespace AgenticNetops.Provisioning

open GoText Runs

inductive LeaseKind where
  | l2vni
  | l3vni
  | vlan
  | rt
deriving DecidableEq, Repr

def LeaseKind.text : LeaseKind → String
  | .l2vni => "l2vni"
  | .l3vni => "l3vni"
  | .vlan => "vlan"
  | .rt => "rt"

def LeaseKind.index : LeaseKind → String
  | .l2vni => l2vniIndex
  | .l3vni => l3vniIndex
  | .vlan => vlanIndex
  | .rt => extcommIndex

def LeaseKind.bounds : LeaseKind → Nat × Nat
  | .l2vni => (10000, 20000)
  | .l3vni => (10000, 14094)
  | .vlan => (100, 4000)
  | .rt => (1, 65535)

inductive Phase where
  | listing (round : Nat)
  | walking (round : Nat) (listed : List Lease) (free : List Int)
  | ended (result : Except Failure Int)

structure LeaseCall where
  kind : LeaseKind
  correlationID : String
  phase : Phase

-- `releases` holds the names that each running release has still to delete.
structure Race where
  leases : List Lease := []
  calls : List LeaseCall := []
  releases : List (List String) := []

inductive Move where
  | call (kind : LeaseKind) (correlationID : String)
  | list (i : Nat) (answer : Answer Unit)
  | create (i : Nat) (answer : Answer Unit)
  | release (correlationID : String)
  | delete (i : Nat) (refused : Bool)

-- `for _ in range(4)`: a walk without a free value left lists again.
def walk (round : Nat) (listed : List Lease) (kind : LeaseKind) : List Int → Phase
  | [] =>
      if round < 3 then .listing (round + 1)
      else
        .ended (.error (.exhaustion [.lit "no available ", .str kind.text, .lit " ids in ", .str kind.index, .lit " (",
          .int kind.bounds.1, .lit "-", .int kind.bounds.2, .lit ")"]))
  | value :: rest => .walking round listed (value :: rest)

def LeaseCall.afterList (call : LeaseCall) (leases : List Lease) (round : Nat) (answer : Answer Unit) : LeaseCall :=
  match listLeases answer ⟨[], leases⟩ with
  | (_, .error failure) => { call with phase := .ended (.error failure) }
  | (_, .ok ()) =>
      let free := (values call.kind.bounds.1 call.kind.bounds.2).filter fun value => value ∉ usedIDs leases call.kind.index
      { call with phase := walk round leases call.kind free }

-- One create request, as the walk of the client makes it.
def createOne (leases : List Lease) (call : LeaseCall) (value : Int) (answer : Answer Unit) :
    List Lease × Except Failure (Option Int) :=
  match createFreeLease call.kind.text call.kind.index call.correlationID (fun _ => answer) [value] ⟨[], leases⟩ with
  | (store, result) => (store.leases, result)

def LeaseCall.afterCreate (call : LeaseCall) (round : Nat) (listed : List Lease) (rest : List Int) :
    Except Failure (Option Int) → LeaseCall
  | .error failure => { call with phase := .ended (.error failure) }
  | .ok (some value) => { call with phase := .ended (.ok value) }
  | .ok none => { call with phase := walk round listed call.kind rest }

def namesOf (leases : List Lease) (correlationID : String) : List String :=
  (leases.filter fun lease => lease.correlationID = correlationID).map Lease.name

def Race.next (race : Race) : Move → Option Race
  | .call kind correlationID =>
      some { race with calls := race.calls ++ [⟨kind, correlationID, .listing 0⟩] }
  | .list i answer =>
      match race.calls[i]? with
      | some ⟨kind, correlationID, .listing round⟩ =>
          let call : LeaseCall := ⟨kind, correlationID, .listing round⟩
          some { race with calls := race.calls.set i (call.afterList race.leases round answer) }
      | _ => none
  | .create i answer =>
      match race.calls[i]? with
      | some ⟨kind, correlationID, .walking round listed (value :: rest)⟩ =>
          let call : LeaseCall := ⟨kind, correlationID, .walking round listed (value :: rest)⟩
          let (leases, result) := createOne race.leases call value answer
          some { race with leases, calls := race.calls.set i (call.afterCreate round listed rest result) }
      | _ => none
  | .release correlationID =>
      some { race with releases := race.releases ++ [namesOf race.leases correlationID] }
  | .delete i refused =>
      match race.releases[i]? with
      | some (name :: rest) =>
          some { race with
                  leases := race.leases.filter fun lease => lease.name ≠ name ∨ refused
                  releases := race.releases.set i rest }
      | _ => none

def Step (race : Race) (move : Move) (race' : Race) : Prop := race.next move = some race'

-- No two leases of one index carry one value.
def Apart (a b : Lease) : Prop := ¬ (a.pool = b.pool ∧ a.allocatedID = b.allocatedID)

instance : Std.Symm Apart := ⟨fun _ _ apart same => apart ⟨same.1.symm, same.2.symm⟩⟩

instance (a b : Lease) : Decidable (Apart a b) := inferInstanceAs (Decidable (¬ _))

def ValuesApart (leases : List Lease) : Prop := leases.Pairwise Apart

instance (leases : List Lease) : Decidable (ValuesApart leases) := inferInstanceAs (Decidable (leases.Pairwise Apart))

def VNIsApart (leases : List Lease) : Prop :=
  ∀ a ∈ leases, ∀ b ∈ leases, a.kind = "l2vni" → b.kind = "l3vni" → a.allocatedID ≠ b.allocatedID

-- The call's list still shows every lease of its index that another kind holds.
def LeaseCall.Current (call : LeaseCall) (leases : List Lease) : Prop :=
  match call.phase with
  | .walking _ listed _ =>
      ∀ lease ∈ leases, lease.pool = labelValue call.kind.index → lease.kind ≠ labelValue call.kind.text → lease ∈ listed
  | _ => True

instance (call : LeaseCall) (leases : List Lease) : Decidable (call.Current leases) :=
  match h : call.phase with
  | .walking _ listed _ => decidable_of_iff
      (∀ lease ∈ leases, lease.pool = labelValue call.kind.index → lease.kind ≠ labelValue call.kind.text → lease ∈ listed)
      (by rw [LeaseCall.Current, h])
  | .listing _ => isTrue (by rw [LeaseCall.Current, h]; trivial)
  | .ended _ => isTrue (by rw [LeaseCall.Current, h]; trivial)

def CurrentList (race : Race) : Move → Prop
  | .create i _ => ∀ call ∈ race.calls[i]?, call.Current race.leases
  | _ => True

instance (race : Race) (move : Move) : Decidable (CurrentList race move) :=
  match move with
  | .create i _ => inferInstanceAs (Decidable (∀ call ∈ race.calls[i]?, call.Current race.leases))
  | .call _ _ | .list _ _ | .release _ | .delete _ _ => isTrue trivial

structure SoundRace (race : Race) : Prop where
  names : (race.leases.map Lease.name).Nodup
  origin : ∀ lease ∈ race.leases, ∃ (kind : LeaseKind) (value : Int) (correlationID : String),
    lease = fallbackLease kind.text kind.index value correlationID
  apart : ValuesApart race.leases
  free : ∀ call ∈ race.calls, ∀ round listed free, call.phase = .walking round listed free →
    ∀ value ∈ free, value ∉ usedIDs listed call.kind.index

theorem kind_label_injective (kind other : LeaseKind) (same : labelValue kind.text = labelValue other.text) :
    kind = other := by
  cases kind <;> cases other <;> first | rfl | exact absurd same (by decide)

theorem walk_free (round : Nat) (listed : List Lease) (kind : LeaseKind) (left : List Int) (round' : Nat)
    (listed' : List Lease) (free : List Int) (walks : walk round listed kind left = .walking round' listed' free) :
    listed' = listed ∧ free = left := by
  cases left with
  | nil =>
      rw [walk] at walks
      by_cases more : round < 3
      · rw [if_pos more] at walks
        cases walks
      · rw [if_neg more] at walks
        cases walks
  | cons value rest =>
      cases walks
      exact ⟨rfl, rfl⟩

-- A create request adds the lease of its value under a name that nobody has, or nothing.
theorem create_one_leases (leases : List Lease) (call : LeaseCall) (value : Int) (answer : Answer Unit) :
    (createOne leases call value answer).1 = leases ∨
      ((createOne leases call value answer).1 =
          leases ++ [fallbackLease call.kind.text call.kind.index value call.correlationID] ∧
        ∀ lease ∈ leases, lease.name ≠ fallbackLeaseName call.kind.text call.kind.index value) := by
  cases answer with
  | refused statusCode bodyText =>
      left
      by_cases conflict : statusCode = 409
      · simp [createOne, createFreeLease, conflict]
      · simp [createOne, createFreeLease, conflict]
  | served _ =>
      by_cases isTaken : ∃ lease ∈ leases, lease.name = fallbackLeaseName call.kind.text call.kind.index value
      · left
        simp [createOne, createFreeLease, isTaken]
      · right
        refine ⟨by simp [createOne, createFreeLease, isTaken, Store.addLease], ?_⟩
        intro lease member named
        exact isTaken ⟨lease, member, named⟩
  | broken carriedOut =>
      cases carriedOut with
      | none =>
          left
          simp [createOne, createFreeLease]
      | some _ =>
          by_cases isTaken : ∃ lease ∈ leases, lease.name = fallbackLeaseName call.kind.text call.kind.index value
          · left
            simp [createOne, createFreeLease, isTaken]
          · right
            refine ⟨by simp [createOne, createFreeLease, isTaken, Store.addLease], ?_⟩
            intro lease member named
            exact isTaken ⟨lease, member, named⟩

section Preserved

theorem apart_append (leases : List Lease) (lease : Lease) (apart : ValuesApart leases)
    (fresh : ∀ held ∈ leases, Apart held lease) :
    ValuesApart (leases ++ [lease]) := by
  apply List.pairwise_append.mpr
  refine ⟨apart, List.pairwise_singleton _ _, ?_⟩
  intro held member other single
  rw [List.mem_singleton.mp single]
  exact fresh held member

theorem names_append (leases : List Lease) (lease : Lease) (names : (leases.map Lease.name).Nodup)
    (fresh : ∀ held ∈ leases, held.name ≠ lease.name) : ((leases ++ [lease]).map Lease.name).Nodup := by
  rw [List.map_append, List.nodup_append]
  refine ⟨names, List.nodup_singleton _, ?_⟩
  intro name inside other single same
  obtain ⟨held, member, called⟩ := List.mem_map.mp inside
  rw [List.map_singleton, List.mem_singleton] at single
  exact fresh held member (by rw [called, same, single])

-- A held lease with the value of the new one would be listed, or be its namesake.
theorem created_value_fresh (race : Race) (sound : SoundRace race) (call : LeaseCall) (round : Nat) (listed : List Lease)
    (value : Int) (rest : List Int) (member : call ∈ race.calls) (walking : call.phase = .walking round listed (value :: rest))
    (current : call.Current race.leases)
    (unnamed : ∀ lease ∈ race.leases, lease.name ≠ fallbackLeaseName call.kind.text call.kind.index value) :
    ∀ held ∈ race.leases, ¬ (held.pool = labelValue call.kind.index ∧ held.allocatedID = some value) := by
  intro held inside same
  by_cases kindred : held.kind = labelValue call.kind.text
  · obtain ⟨kind, other, correlationID, rfl⟩ := sound.origin held inside
    have sameKind : kind = call.kind := kind_label_injective kind call.kind kindred
    have sameValue : other = value := Option.some.inj same.2
    subst sameKind sameValue
    exact unnamed _ inside rfl
  · rw [LeaseCall.Current, walking] at current
    have shown : held ∈ listed := current held inside same.1 kindred
    have used : value ∈ usedIDs listed call.kind.index := by
      apply List.mem_filterMap.mpr
      exact ⟨held, List.mem_filter.mpr ⟨shown, by simpa using same.1⟩, same.2⟩
    exact sound.free call member round listed _ walking value List.mem_cons_self used

theorem free_after_list (call : LeaseCall) (leases : List Lease) (round : Nat) (answer : Answer Unit) (round' : Nat)
    (listed : List Lease) (free : List Int)
    (walking : (call.afterList leases round answer).phase = .walking round' listed free) :
    ∀ value ∈ free, value ∉ usedIDs listed call.kind.index := by
  rw [LeaseCall.afterList] at walking
  cases answer with
  | served _ =>
      obtain ⟨sameList, left⟩ := walk_free _ _ _ _ _ _ _ walking
      subst sameList left
      intro value member
      simpa using (List.mem_filter.mp member).2
  | refused statusCode bodyText => cases walking
  | broken carriedOut => cases walking

theorem after_list_kind (call : LeaseCall) (leases : List Lease) (round : Nat) (answer : Answer Unit) :
    (call.afterList leases round answer).kind = call.kind := by
  cases answer <;> rfl

theorem after_create_kind (call : LeaseCall) (round : Nat) (listed : List Lease) (rest : List Int)
    (result : Except Failure (Option Int)) : (call.afterCreate round listed rest result).kind = call.kind := by
  cases result with
  | error failure => rfl
  | ok created => cases created <;> rfl

theorem free_after_create (call : LeaseCall) (round : Nat) (listed : List Lease) (rest : List Int)
    (result : Except Failure (Option Int)) (round' : Nat) (listed' : List Lease) (free : List Int)
    (walking : (call.afterCreate round listed rest result).phase = .walking round' listed' free) :
    listed' = listed ∧ free = rest := by
  cases result with
  | error failure => cases walking
  | ok created =>
      cases created with
      | some value => cases walking
      | none => exact walk_free _ _ _ _ _ _ _ walking

theorem mem_set (calls : List LeaseCall) (i : Nat) (replacement call : LeaseCall) (member : call ∈ calls.set i replacement) :
    call ∈ calls ∨ call = replacement := List.mem_or_eq_of_mem_set member

theorem sound_calls (race : Race) (sound : SoundRace race) (i : Nat) (call : LeaseCall)
    (free : ∀ round listed free, call.phase = .walking round listed free → ∀ value ∈ free, value ∉ usedIDs listed call.kind.index) :
    SoundRace { race with calls := race.calls.set i call } where
  names := sound.names
  origin := sound.origin
  apart := sound.apart
  free other member := by
    cases mem_set race.calls i call other member with
    | inl old => exact sound.free other old
    | inr new =>
        subst new
        exact free

theorem sound_create (race : Race) (sound : SoundRace race) (call : LeaseCall) (round : Nat) (listed : List Lease)
    (value : Int) (rest : List Int) (answer : Answer Unit) (member : call ∈ race.calls)
    (walking : call.phase = .walking round listed (value :: rest)) (current : call.Current race.leases) :
    SoundRace { race with leases := (createOne race.leases call value answer).1 } := by
  cases create_one_leases race.leases call value answer with
  | inl same =>
      rw [same]
      exact sound
  | inr added =>
      obtain ⟨grown, unnamed⟩ := added
      have fresh := created_value_fresh race sound call round listed value rest member walking current unnamed
      rw [grown]
      exact {
        names := names_append race.leases _ sound.names unnamed
        origin := by
          intro lease inside
          cases List.mem_append.mp inside with
          | inl old => exact sound.origin lease old
          | inr new => exact ⟨call.kind, value, call.correlationID, List.mem_singleton.mp new⟩
        apart := apart_append race.leases _ sound.apart fresh
        free := sound.free }

theorem sound_step (race : Race) (move : Move) (race' : Race) (sound : SoundRace race) (current : CurrentList race move)
    (step : Step race move race') : SoundRace race' := by
  cases move with
  | call kind correlationID =>
      cases step
      refine ⟨sound.names, sound.origin, sound.apart, ?_⟩
      intro call member round listed free walking
      cases List.mem_append.mp member with
      | inl old => exact sound.free call old round listed free walking
      | inr new =>
          rw [List.mem_singleton.mp new] at walking
          cases walking
  | list i answer =>
      simp only [Step, Race.next] at step
      split at step
      · rename_i kind correlationID round found
        cases step
        apply sound_calls race sound
        intro round' listed free walking
        rw [after_list_kind]
        exact free_after_list _ _ _ _ _ _ _ walking
      · cases step
  | create i answer =>
      simp only [Step, Race.next] at step
      split at step
      · rename_i kind correlationID round listed value rest found
        cases step
        have member : ⟨kind, correlationID, .walking round listed (value :: rest)⟩ ∈ race.calls := List.mem_of_getElem? found
        have shown := current _ found
        have created := sound_create race sound _ round listed value rest answer member rfl shown
        apply sound_calls _ created
        intro round' listed' free walking used usedFree
        rw [after_create_kind]
        obtain ⟨sameList, sameFree⟩ := free_after_create _ _ _ _ _ _ _ _ walking
        subst sameList sameFree
        exact sound.free _ member round listed' _ rfl used (List.mem_cons_of_mem value usedFree)
      · cases step
  | release correlationID =>
      cases step
      exact ⟨sound.names, sound.origin, sound.apart, sound.free⟩
  | delete i refused =>
      simp only [Step, Race.next] at step
      split at step
      · rename_i name rest found
        cases step
        have fewer : (race.leases.filter fun lease => lease.name ≠ name ∨ refused).Sublist race.leases :=
          List.filter_sublist
        exact ⟨sound.names.sublist (fewer.map _), fun lease inside => sound.origin lease (fewer.subset inside),
          sound.apart.sublist fewer, sound.free⟩
      · cases step

end Preserved

-- The leases of the two VNI kinds share an index, so values apart are VNIs apart.
theorem vnis_apart (race : Race) (sound : SoundRace race) : VNIsApart race.leases := by
  intro a inside b other l2 l3 same
  obtain ⟨kind, value, correlationID, rfl⟩ := sound.origin a inside
  obtain ⟨kind', value', correlationID', rfl⟩ := sound.origin b other
  have first : kind = .l2vni := kind_label_injective kind .l2vni (l2.trans (by decide))
  have second : kind' = .l3vni := kind_label_injective kind' .l3vni (l3.trans (by decide))
  subst first second
  have kinds : labelValue LeaseKind.l2vni.text ≠ labelValue LeaseKind.l3vni.text := by decide
  have differ : fallbackLease LeaseKind.l2vni.text LeaseKind.l2vni.index value correlationID ≠
      fallbackLease LeaseKind.l3vni.text LeaseKind.l3vni.index value' correlationID' :=
    fun equal => kinds (congrArg Lease.kind equal)
  have apart : ValuesApart race.leases := sound.apart
  exact apart.forall inside other differ ⟨rfl, same⟩

/- In every run whose create requests all come from lists that still show the leases of
   the other kinds, no value of an index is handed out twice. -/
theorem current_lists_hand_out_once (moves : List Move) (race : Race) (run : Run Step CurrentList {} moves race) :
    ValuesApart race.leases ∧ VNIsApart race.leases := by
  have empty : SoundRace {} := ⟨List.nodup_nil, by simp, List.Pairwise.nil, by simp⟩
  have sound := run_invariant Step CurrentList SoundRace sound_step {} moves race empty run
  exact ⟨sound.apart, vnis_apart race sound⟩

def raceLeases (moves : List Move) : Option (List Lease) := (play Race.next {} moves).map Race.leases

def oneAfterTheOther : List Move :=
  [.call .l2vni "4f2a", .list 0 (.served ()), .create 0 (.served ()), .call .l3vni "9c1e", .list 1 (.served ()),
    .create 1 (.served ())]

-- Two calls in turn: the second lists the value of the first and takes the next one.
theorem lab_calls_in_turn :
    raceLeases oneAfterTheOther = some [fallbackLease "l2vni" "evpn-vni" 10000 "4f2a", fallbackLease "l3vni" "evpn-vni" 10001 "9c1e"] ∧
      ∃ race, play Race.next {} oneAfterTheOther = some race ∧ ValuesApart race.leases ∧ VNIsApart race.leases := by
  have played : Played CurrentList Race.next {} oneAfterTheOther := by decide +kernel
  obtain ⟨race, ends⟩ := played_ends _ Race.next _ _ played
  exact ⟨by decide +kernel, race, ends,
    current_lists_hand_out_once oneAfterTheOther race (played_run _ Race.next _ _ race played ends)⟩

-- Two calls list before either creates: one number becomes an L2VNI and an L3VNI.
def crossedCreates : List Move :=
  [.call .l2vni "4f2a", .call .l3vni "9c1e", .list 0 (.served ()), .list 1 (.served ()), .create 0 (.served ()),
    .create 1 (.served ())]

theorem crossed_creates_share_a_value :
    ¬ ∀ (moves : List Move) (race : Race), Run Step (fun _ _ => True) {} moves race →
      ValuesApart race.leases ∧ VNIsApart race.leases := by
  intro apart
  have played : Played (fun _ _ => True) Race.next {} crossedCreates := by decide +kernel
  obtain ⟨race, ends⟩ := played_ends _ Race.next _ _ played
  have shared : raceLeases crossedCreates =
      some [fallbackLease "l2vni" "evpn-vni" 10000 "4f2a", fallbackLease "l3vni" "evpn-vni" 10000 "9c1e"] := by
    decide +kernel
  have leases : race.leases =
      [fallbackLease "l2vni" "evpn-vni" 10000 "4f2a", fallbackLease "l3vni" "evpn-vni" 10000 "9c1e"] := by
    rw [raceLeases, ends] at shared
    exact Option.some.inj shared
  have holds := (apart crossedCreates race (played_run _ Race.next _ _ race played ends)).1
  rw [leases] at holds
  exact absurd holds (by decide)

end AgenticNetops.Provisioning
