import AgenticNetops.Srv6service.World

set_option autoImplicit false

/- The conflict gate against the attachments it is about. An attachment is a node and
   the kernel port its name resolves to; the gate compares port names as they are
   written, whatever the node, and stops at the first service that shares anything. -/
namespace AgenticNetops.Srv6service

open GoText Api Kubenet Fabricplan

-- One port of one node, as the site's port map resolves the two names.
def samePort (map : PortMapper) (node port otherNode otherPort : String) : Bool :=
  node = otherNode &&
    match map.port port, map.port otherPort with
    | .ok resolved, .ok other => resolved = other
    | _, _ => false

def sharesAttachment (map : PortMapper) (spec other : SRv6ServiceSpec) : Bool :=
  spec.attachments.any fun att => other.attachments.any fun held => samePort map att.node att.port held.node held.port

def places (spec : SRv6ServiceSpec) : List (String × String) := spec.attachments.map fun att => (att.node, att.port)

-- The same tenant with the same set of attachments.
def sameService (spec other : SRv6ServiceSpec) : Bool :=
  other.tenant = spec.tenant && (places spec).all (places other).contains && (places other).all (places spec).contains

def networkHolds (map : PortMapper) (spec : SRv6ServiceSpec) (net : Network) : Bool :=
  net.attachments.any fun na => spec.attachments.any fun att => samePort map att.node att.port na.node na.attachment

-- An older service that is not terminally refused, or a Network, has what the service wants.
def Contended (map : PortMapper) (svc : SRv6Service) (services : List SRv6Service) (networks : List Network) : Prop :=
  (∃ other ∈ services, holdsAgainst svc other ∧
      (sharesAttachment map svc.spec other.spec ∨ sameService svc.spec other.spec)) ∨
    ∃ net ∈ networks, networkHolds map svc.spec net

instance (map : PortMapper) (svc : SRv6Service) (services : List SRv6Service) (networks : List Network) :
    Decidable (Contended map svc services networks) :=
  inferInstanceAs (Decidable
    ((∃ other ∈ services, holdsAgainst svc other ∧
        (sharesAttachment map svc.spec other.spec ∨ sameService svc.spec other.spec)) ∨
      ∃ net ∈ networks, networkHolds map svc.spec net))

-- What the gate compares of two services for a port: the whole list of keys, or one name.
def namesAgain (spec other : SRv6ServiceSpec) : Bool :=
  (other.tenant = spec.tenant && attachmentKeys spec = attachmentKeys other) ||
    (specPorts other).any fun port => port ∈ specPorts spec

def namesVLAN (spec other : SRv6ServiceSpec) : Bool := spec.vlan.isSome && other.vlan = spec.vlan

-- The first service in the list to yield to, be it for a name or for the VLAN.
def firstRival (svc : SRv6Service) (services : List SRv6Service) : Option SRv6Service :=
  (services.filter (holdsAgainst svc)).find? fun other => namesAgain svc.spec other.spec || namesVLAN svc.spec other.spec

def networkNames (spec : SRv6ServiceSpec) (net : Network) : Bool := net.attachments.any fun na => na.attachment ∈ specPorts spec

-- A port name is taken: the first rival has it or, where there is none, a Network that could be listed.
def nameTaken (svc : SRv6Service) (services : List SRv6Service) (networks : List Network) (networksListed : Bool) : Bool :=
  match firstRival svc services with
  | some other => namesAgain svc.spec other.spec
  | none => networksListed && networks.any (networkNames svc.spec)

-- The content of the namespace, as far as the two lists succeed.
def listsOf (services : List SRv6Service) (networks : List Network) (servicesListed networksListed : Bool) : ConflictLists where
  services := if servicesListed then some services else none
  networks := if networksListed then some networks else none

def RefusedForPort (svc : SRv6Service) (lists : ConflictLists) : Prop :=
  ∃ ref, checkConflicts svc lists = some ref ∧ ref.reason = .portInUse

/- The two ways in which the gate and the attachments part: an attachment is held and
   the services are not listed or no name is taken first; or a name is taken first and
   no attachment is held, the name being another node's. -/
def Overlooks (map : PortMapper) (svc : SRv6Service) (services : List SRv6Service) (networks : List Network)
    (servicesListed networksListed : Bool) : Prop :=
  Contended map svc services networks ∧ (servicesListed = false ∨ nameTaken svc services networks networksListed = false)

def Overstates (map : PortMapper) (svc : SRv6Service) (services : List SRv6Service) (networks : List Network)
    (servicesListed networksListed : Bool) : Prop :=
  ¬ Contended map svc services networks ∧ servicesListed = true ∧ nameTaken svc services networks networksListed = true

section Decision
variable (svc : SRv6Service)

theorem shared_name_found (other : SRv6Service) (port : String)
    (found : (specPorts other.spec).find? (fun port => port ∈ specPorts svc.spec) = some port) :
    namesAgain svc.spec other.spec = true := by
  have wanted : port ∈ specPorts svc.spec := by simpa using List.find?_some found
  have shared : (specPorts other.spec).any (fun port => port ∈ specPorts svc.spec) = true :=
    List.any_eq_true.mpr ⟨port, List.mem_of_find?_eq_some found, decide_eq_true wanted⟩
  rw [namesAgain, shared, Bool.or_true]

theorem no_shared_name (other : SRv6Service) (apart : ¬ (other.spec.tenant = svc.spec.tenant ∧ attachmentKeys svc.spec = attachmentKeys other.spec))
    (absent : (specPorts other.spec).find? (fun port => port ∈ specPorts svc.spec) = none) :
    namesAgain svc.spec other.spec = false := by
  have unshared : (specPorts other.spec).any (fun port => port ∈ specPorts svc.spec) = false := by
    rw [List.any_eq_false]
    exact List.find?_eq_none.mp absent
  rw [namesAgain, unshared, Bool.or_false]
  simpa using apart

/- One service of the list: a refusal for a port where a name is shared, for the VLAN
   where only that is. -/
theorem service_conflict_cases (other : SRv6Service) :
    (namesAgain svc.spec other.spec = true ∧ ∃ ref, serviceConflict svc other = some ref ∧ ref.reason = .portInUse) ∨
    (namesAgain svc.spec other.spec = false ∧ namesVLAN svc.spec other.spec = true ∧
      ∃ ref, serviceConflict svc other = some ref ∧ ref.reason = .vlanInUse) ∨
    (namesAgain svc.spec other.spec = false ∧ namesVLAN svc.spec other.spec = false ∧ serviceConflict svc other = none) := by
  rw [serviceConflict]
  by_cases same : other.spec.tenant = svc.spec.tenant ∧ attachmentKeys svc.spec = attachmentKeys other.spec
  · have named : namesAgain svc.spec other.spec = true := by
      rw [namesAgain, decide_eq_true same.1, decide_eq_true same.2]
      rfl
    rw [if_pos same]
    exact Or.inl ⟨named, _, rfl, rfl⟩
  · rw [if_neg same]
    cases found : (specPorts other.spec).find? fun port => port ∈ specPorts svc.spec with
    | some port => exact Or.inl ⟨shared_name_found svc other port found, _, rfl, rfl⟩
    | none =>
        have unnamed := no_shared_name svc other same found
        cases wanted : svc.spec.vlan with
        | none => exact Or.inr (Or.inr ⟨unnamed, by rw [namesVLAN, wanted]; rfl, rfl⟩)
        | some vlan =>
            by_cases taken : other.spec.vlan = some vlan
            · have named : namesVLAN svc.spec other.spec = true := by rw [namesVLAN, wanted, decide_eq_true taken]; rfl
              simp only [if_pos taken]
              exact Or.inr (Or.inl ⟨unnamed, named, _, rfl, rfl⟩)
            · have free : namesVLAN svc.spec other.spec = false := by rw [namesVLAN, wanted, decide_eq_false taken]; rfl
              simp only [if_neg taken]
              exact Or.inr (Or.inr ⟨unnamed, free, trivial⟩)

-- The scan of the services stops at the first rival.
theorem services_scanned (others : List SRv6Service) :
    match others.find? fun other => namesAgain svc.spec other.spec || namesVLAN svc.spec other.spec with
    | some rival => ∃ ref, others.findSome? (serviceConflict svc) = some ref ∧
        (ref.reason = .portInUse ↔ namesAgain svc.spec rival.spec = true)
    | none => others.findSome? (serviceConflict svc) = none := by
  induction others with
  | nil => rfl
  | cons other rest ih =>
      rw [List.find?_cons, List.findSome?_cons]
      rcases service_conflict_cases svc other with ⟨named, ref, made, reason⟩ | ⟨unnamed, vlan, ref, made, reason⟩ | ⟨unnamed, free, made⟩
      · simp only [named, Bool.true_or, made]
        exact ⟨ref, rfl, by simp [reason]⟩
      · simp only [unnamed, vlan, Bool.or_true, made]
        exact ⟨ref, rfl, by simp [reason]⟩
      · simp only [unnamed, free, Bool.or_false, made]
        exact ih

theorem network_conflict_cases (net : Network) :
    (networkNames svc.spec net = true ∧ ∃ ref, networkConflict (specPorts svc.spec) net = some ref ∧ ref.reason = .portInUse) ∨
      (networkNames svc.spec net = false ∧ networkConflict (specPorts svc.spec) net = none) := by
  rw [networkConflict]
  cases found : net.attachments.find? fun na => na.attachment ∈ specPorts svc.spec with
  | some na =>
      have wanted := List.find?_some found
      exact Or.inl ⟨List.any_eq_true.mpr ⟨na, List.mem_of_find?_eq_some found, wanted⟩, _, rfl, rfl⟩
  | none => exact Or.inr ⟨List.any_eq_false.mpr (List.find?_eq_none.mp found), rfl⟩

theorem networks_scanned (networks : List Network) :
    (networks.any (networkNames svc.spec) = true ∧
      ∃ ref, networks.findSome? (networkConflict (specPorts svc.spec)) = some ref ∧ ref.reason = .portInUse) ∨
    (networks.any (networkNames svc.spec) = false ∧ networks.findSome? (networkConflict (specPorts svc.spec)) = none) := by
  induction networks with
  | nil => exact Or.inr ⟨rfl, rfl⟩
  | cons net rest ih =>
      rw [List.any_cons, List.findSome?_cons]
      rcases network_conflict_cases svc net with ⟨named, ref, made, reason⟩ | ⟨unnamed, made⟩
      · simp only [named, Bool.true_or, made]
        exact Or.inl ⟨trivial, ref, rfl, reason⟩
      · simp only [unnamed, Bool.false_or, made]
        exact ih

-- What the gate refuses for a port, in the terms it compares.
theorem refused_for_port_iff (services : List SRv6Service) (networks : List Network) (servicesListed networksListed : Bool) :
    RefusedForPort svc (listsOf services networks servicesListed networksListed) ↔
      servicesListed = true ∧ nameTaken svc services networks networksListed = true := by
  cases servicesListed with
  | false =>
      constructor
      · intro refused
        obtain ⟨ref, made, _⟩ := refused
        simp [checkConflicts, listsOf] at made
      · intro both
        cases both.1
  | true =>
      have scan := services_scanned svc (services.filter (holdsAgainst svc))
      rw [RefusedForPort, checkConflicts, listsOf, nameTaken, firstRival]
      simp only [if_true, true_and]
      cases rival : (services.filter (holdsAgainst svc)).find? fun other =>
          namesAgain svc.spec other.spec || namesVLAN svc.spec other.spec with
      | some other =>
          rw [rival] at scan
          obtain ⟨ref, made, reason⟩ := scan
          rw [made, Option.some_or]
          constructor
          · intro refused
            obtain ⟨_, same, port⟩ := refused
            cases same
            exact reason.mp port
          · intro named
            exact ⟨ref, rfl, reason.mpr named⟩
      | none =>
          rw [rival] at scan
          rw [scan, Option.none_or]
          cases networksListed with
          | false => simp
          | true =>
              simp only [if_true, Bool.true_and]
              rcases networks_scanned svc networks with ⟨named, ref, made, reason⟩ | ⟨unnamed, made⟩
              · rw [made, named]
                exact ⟨fun _ => rfl, fun _ => ⟨ref, rfl, reason⟩⟩
              · rw [made, unnamed]
                simp

-- Of two services that are not terminally refused, exactly one is to yield to the other.
theorem one_yields (other : SRv6Service) (apart : other.uid ≠ svc.uid) (live : isTerminalRefused svc = false)
    (otherLive : isTerminalRefused other = false) : holdsAgainst svc other = true ↔ holdsAgainst other svc = false := by
  rw [holdsAgainst, holdsAgainst, live, otherLive, decide_eq_true apart, decide_eq_true (Ne.symm apart), firstResource, firstResource]
  by_cases sameTime : other.creationTimestamp = svc.creationTimestamp
  · rcases lt_trichotomy other.uid svc.uid with older | same | younger
    · have notYounger : ¬ svc.uid < other.uid := lt_asymm older
      simp only [sameTime, ne_eq, not_true, if_false, decide_eq_true older, decide_eq_false notYounger]
      decide
    · exact absurd same apart
    · have notOlder : ¬ other.uid < svc.uid := lt_asymm younger
      simp only [sameTime, ne_eq, not_true, if_false, decide_eq_true younger, decide_eq_false notOlder]
      decide
  · rcases lt_trichotomy other.creationTimestamp svc.creationTimestamp with older | same | younger
    · simp [sameTime, Ne.symm sameTime, older, older.le]
    · exact absurd same sameTime
    · simp [sameTime, Ne.symm sameTime, younger.le, younger]

end Decision

/- The lab's red, a younger service on the same port name of two other leaves, and one
   that spells the port of red's own leaves another way. -/
def labElsewhere : SRv6Service :=
  { labService "green" "wan1" with
    creationTimestamp := 5
    spec := { labSpec "green" "wan1" with attachments := [⟨"leaf03", "wan1", ["10.3.0.1/24"]⟩, ⟨"leaf04", "wan1", ["10.4.0.1/24"]⟩] } }

def labRespelled : SRv6Service := { labService "blue" "WAN-1" with creationTimestamp := 5 }

end AgenticNetops.Srv6service
