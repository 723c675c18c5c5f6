import AgenticNetops.Lib.AddressText
import AgenticNetops.Fabricplan.Derivations
import AgenticNetops.Fabricplan.Rendered

set_option autoImplicit false

/- The two halves of an SRv6 plan. Each node is rendered from its own attachment and
   its peer's; the plan does not show in which order the spec lists them. -/
namespace AgenticNetops.Fabricplan

open GoText NetIP Api KeyedRows Fallible

def swapped (spec : SRv6ServiceSpec) : SRv6ServiceSpec := { spec with attachments := spec.attachments.reverse }

section Reads
variable (spec : SRv6ServiceSpec) (alloc : Allocations) (opts : SRv6Options)

-- Where each value of a rendered attachment comes from.
structure AttachReads (n : String) (attach : Attach) : Prop where
  sid : attach.sid = alloc.serviceSIDs.text n
  long : hasSuffix attach.sid "/64" = true
  sidFn : attach.sidFn = trimSuffix attach.sid "/64"
  client : attach.client = alloc.clientPrefixes.text n
  gw : gatewayAddr attach.client = .ok attach.gw
  loc : attach.loc = opts.locators.text n

theorem render_attach_reads (n : String) (attach : Attach) (rendered : renderAttach spec alloc opts n = .ok attach) :
    AttachReads alloc opts n attach := by
  simp only [renderAttach, guard_ok] at rendered
  obtain ⟨_, long, _, rendered⟩ := rendered
  cases parsed : gatewayAddr (alloc.clientPrefixes.text n) with
  | error message => simp [parsed] at rendered
  | ok gw =>
      simp only [parsed, guard_ok] at rendered
      obtain ⟨_, rendered⟩ := rendered
      split at rendered
      · cases rendered
      · cases rendered
        exact ⟨rfl, by simpa using long, rfl, rfl, parsed, rfl⟩

theorem render_node_whole (vrf first n : String) (self peer : Attach) (np : SRv6NodePlan)
    (rendered : renderNode spec opts vrf first n self peer = .ok np) :
    ∃ pinLink clientAddr, ∃ pinned : Bool, pinned = (decide (spec.path.preferredSpine ≠ "") && decide (n = first)) ∧
      clientHostAddr self.client = .ok clientAddr ∧
      np = { node := n, ops := renderOps vrf n self peer pinLink pinned clientAddr,
             checks := renderChecks vrf n self peer pinLink pinned clientAddr,
             rollback := renderRollback vrf n self peer pinned } := by
  rw [renderNode] at rendered
  split at rendered
  · cases rendered
  · rename_i pinLink _
    simp only at rendered
    split at rendered
    · cases rendered
    · rename_i clientAddr host
      cases rendered
      exact ⟨pinLink, clientAddr, _, rfl, host, rfl⟩

-- The gates return the nodes in order.
theorem gates_ordered (first second : String) (passed : srv6Gates spec alloc opts = .ok (first, second)) : first < second := by
  simp only [srv6Gates, guard_ok] at passed
  obtain ⟨_, _, _, _, passed⟩ := passed
  split at passed
  · rename_i a b listed
    simp only [guard_ok] at passed
    obtain ⟨_, distinct, _, _, passed⟩ := passed
    by_cases ordered : a.node ≤ b.node
    · rw [if_pos ordered] at passed
      cases passed
      exact lt_of_le_of_ne ordered distinct
    · rw [if_neg ordered] at passed
      cases passed
      exact not_le.mp ordered
  · cases passed

-- Two attachments pass the gates in either order.
theorem pair_gate_swapped (a b : Attachment) :
    srv6Gates { spec with attachments := [b, a] } alloc opts = srv6Gates { spec with attachments := [a, b] } alloc opts := by
  simp only [srv6Gates]
  by_cases unnamed : a.node = "" ∨ b.node = ""
  · rw [if_pos unnamed, if_pos (Or.symm unnamed)]
  · rw [if_neg unnamed, if_neg (mt Or.symm unnamed)]
    by_cases shared : a.node = b.node
    · rw [if_pos shared, if_pos shared.symm, shared]
    · rw [if_neg shared, if_neg (Ne.symm shared)]
      by_cases ordered : a.node ≤ b.node
      · have later : ¬ b.node ≤ a.node := fun back => shared (le_antisymm ordered back)
        rw [if_pos ordered, if_neg later]
      · have earlier : b.node ≤ a.node := le_of_not_ge ordered
        rw [if_neg ordered, if_pos earlier]

theorem gates_swapped : srv6Gates (swapped spec) alloc opts = srv6Gates spec alloc opts := by
  by_cases two : spec.attachments.length = 2
  · obtain ⟨a, b, listed⟩ := List.length_eq_two.mp two
    have back : swapped spec = { spec with attachments := [b, a] } := by
      rw [swapped, listed]
      rfl
    have same : { spec with attachments := [a, b] } = spec := by rw [← listed]
    rw [back, pair_gate_swapped, same]
  · simp only [srv6Gates, swapped]
    -- The gates before the attachments are the same.
    refine if_congr Iff.rfl rfl (if_congr Iff.rfl rfl (if_congr Iff.rfl rfl (if_congr Iff.rfl rfl ?_)))
    split
    · rename_i a b back
      have length := congrArg List.length back
      rw [List.length_reverse] at length
      exact absurd length two
    · split
      · rename_i a b listed
        exact absurd (congrArg List.length listed) two
      · rw [List.length_reverse]

theorem render_attach_swapped (a b : Attachment) (listed : spec.attachments = [a, b]) (apart : a.node ≠ b.node) (n : String) :
    renderAttach (swapped spec) alloc opts n = renderAttach spec alloc opts n := by
  have found : (swapped spec).attachments.find? (fun att => att.node = n) = spec.attachments.find? (fun att => att.node = n) := by
    rw [swapped, listed]
    by_cases here : a.node = n
    · have other : b.node ≠ n := fun there => apart (here.trans there.symm)
      simp [here, other]
    · by_cases there : b.node = n
      · simp [here, there]
      · simp [here, there]
  simp only [renderAttach, found]

theorem render_node_swapped (vrf first n : String) (self peer : Attach) :
    renderNode (swapped spec) opts vrf first n self peer = renderNode spec opts vrf first n self peer := rfl

-- The order of the two attachments does not show, in a plan or in a refusal.
theorem plan_swapped : forSRv6Service (swapped spec) alloc opts = forSRv6Service spec alloc opts := by
  rw [forSRv6Service, forSRv6Service, gates_swapped]
  cases passed : srv6Gates spec alloc opts with
  | error message => rfl
  | ok nodes =>
      obtain ⟨first, second⟩ := nodes
      have gates := srv6_gates_passed spec alloc opts first second passed
      obtain ⟨a, b, listed, named⟩ := gates.attachments
      have apart : a.node ≠ b.node := by
        intro shared
        cases named with
        | inl straight => exact gates.differ (by rw [straight.1, straight.2, shared])
        | inr crossed => exact gates.differ (by rw [crossed.1, crossed.2, shared])
      simp only [render_attach_swapped spec alloc opts a b listed apart, render_node_swapped]

end Reads

section Halves

def commands (np : SRv6NodePlan) : List IpCommand := np.ops.flatMap Op.shell

-- What the commands of a node say: the prefix it decapsulates, the routes it steers, its pins.
def IpCommand.decapped : IpCommand → Option String
  | .decapReplace sid _ => some sid
  | _ => none

def IpCommand.steered : IpCommand → Option (String × String)
  | .steerReplace client _ segs => some (client, segs)
  | _ => none

def IpCommand.pinnedLocator : IpCommand → Option String
  | .locatorPinReplace locator _ => some locator
  | _ => none

def IpCommand.preferredPin : IpCommand → Option (String × String)
  | .preferredPinReplace sid via => some (sid, via)
  | _ => none

-- The node puts the address onto the port.
def carries (np : SRv6NodePlan) (port addr : String) : Prop :=
  .add ("/INTERFACE/" ++ port ++ "|" ++ replaceAll addr '/' "~1") [] ∈ np.ops.flatMap Op.gcu

/- A node's half against its peer's: its one steering route leads to the prefix that the
   peer decapsulates, for the /24 that the peer's port carries, and its one /48 pin is for
   the peer's locator. -/
structure FacesPeer (opts : SRv6Options) (np peer : SRv6NodePlan) : Prop where
  steers : ∃ client segs port addr network,
    (commands np).filterMap IpCommand.steered = [(client, segs)] ∧
    (commands peer).filterMap IpCommand.decapped = [segs ++ "/64"] ∧
    carries peer port addr ∧ networkOf client = some network ∧ networkOf addr = some network ∧ network.bits = 24
  pins : (commands np).filterMap IpCommand.pinnedLocator = [opts.locators.text peer.node]

structure TwoHalves (spec : SRv6ServiceSpec) (opts : SRv6Options) (plan : SRv6Plan) (first second : SRv6NodePlan) : Prop where
  nodes : plan = [(first.node, first), (second.node, second)]
  ordered : first.node < second.node
  toSecond : FacesPeer opts first second
  toFirst : FacesPeer opts second first
  preferred : (commands first).filterMap IpCommand.preferredPin = [] ↔ spec.path.preferredSpine = ""
  unpreferred : (commands second).filterMap IpCommand.preferredPin = []

theorem masked_24 (a b c d : Nat) (small : d ≤ 255) : maskedAddr ⟨.v4 [a, b, c, d], 24⟩ = .v4 [a, b, c, 0] := by
  have last : d / 256 = 0 := Nat.div_eq_of_lt (by omega)
  simp [maskedAddr, maskFields, last]

-- A host of a client prefix is read back as one of the same /24.
theorem host_network (octet : Nat) (small : octet ≤ 255) (pfx addr : String) (hosted : hostAddr octet pfx = .ok addr) :
    ∃ network, networkOf pfx = some network ∧ networkOf addr = some network ∧ network.bits = 24 := by
  rw [hostAddr] at hosted
  split at hosted
  · cases hosted
  · rename_i octets parsed
    cases hosted
    obtain ⟨address, bits, _, _, read, _, _⟩ := prefix_parts pfx.toList _ _ parsed
    obtain ⟨four, smalls⟩ := ipv4_made address octets read
    obtain ⟨a, b, c, d, rfl⟩ := four_octets octets four
    have back : parsePrefix (octetsText [a, b, c, octet] ++ "/24") = .ok ⟨.v4 [a, b, c, octet], 24⟩ := by
      rw [parsePrefix, String.toList_append]
      refine (prefix_read_iff _ ['2', '4'] (by decide) _ 24).mpr ⟨?_, rfl, by decide, by decide, show (24 : Nat) ≤ 32 by omega, by decide⟩
      exact ipv4_read a b c octet (smalls a (by simp)) (smalls b (by simp)) (smalls c (by simp)) small
    refine ⟨⟨.v4 [a, b, c, 0], 24⟩, ?_, ?_, rfl⟩
    · rw [networkOf, parsed]
      exact congrArg some (congrArg (Prefix.mk · 24) (masked_24 a b c d (smalls d (by simp))))
    · change networkOf (octetsText [a, b, c, octet] ++ "/24") = _
      rw [networkOf, back]
      exact congrArg some (congrArg (Prefix.mk · 24) (masked_24 a b c octet small))
  · cases hosted

section Faces
variable (spec : SRv6ServiceSpec) (alloc : Allocations) (opts : SRv6Options)

theorem rendered_commands (vrf n : String) (self peer : Attach) (pinLink : String) (pinned : Bool) (clientAddr : String)
    (np : SRv6NodePlan) (ops : np.ops = renderOps vrf n self peer pinLink pinned clientAddr) :
    commands np =
      [.decapReplace self.sid vrf, .steerReplace peer.client vrf peer.sidFn, .locatorPinReplace peer.loc pinLink] ++
      (if pinned then [.preferredPinReplace peer.sidFn pinLink] else []) ++
      [.addrFlush "eth1", .addrAdd clientAddr "eth1", .defaultReplace (trimSuffix self.gw "/24") "eth1"] := by
  rw [commands, ops]
  cases pinned with
  | false => rfl
  | true => rfl

-- One node's plan against the other's, when each was rendered from the two attachments.
theorem faces_peer (vrf first n peerNode : String) (self peer : Attach) (np peerPlan : SRv6NodePlan)
    (reads : AttachReads alloc opts peerNode peer)
    (rendered : renderNode spec opts vrf first n self peer = .ok np)
    (peerRendered : renderNode spec opts vrf first peerNode peer self = .ok peerPlan) : FacesPeer opts np peerPlan := by
  obtain ⟨pinLink, clientAddr, pinned, _, _, whole⟩ := render_node_whole spec opts vrf first n self peer np rendered
  obtain ⟨peerLink, peerAddr, peerPinned, _, _, peerWhole⟩ := render_node_whole spec opts vrf first peerNode peer self peerPlan peerRendered
  have own := rendered_commands vrf n self peer pinLink pinned clientAddr np (by rw [whole])
  have theirs := rendered_commands vrf peerNode peer self peerLink peerPinned peerAddr peerPlan (by rw [peerWhole])
  have long : peer.sidFn ++ "/64" = peer.sid := by rw [reads.sidFn, trim_suffix_back _ _ reads.long]
  obtain ⟨network, ofClient, ofGateway, length⟩ := host_network 1 (by omega) peer.client peer.gw reads.gw
  have row : carries peerPlan peer.port peer.gw := by
    rw [carries, peerWhole]
    simp [renderOps, gwKey]
  constructor
  · refine ⟨peer.client, peer.sidFn, peer.port, peer.gw, network, ?_, ?_, row, ofClient, ofGateway, length⟩
    · rw [own]
      cases pinned <;> rfl
    · rw [theirs, long]
      cases peerPinned <;> rfl
  · have named : peerPlan.node = peerNode := by rw [peerWhole]
    rw [own, named, ← reads.loc]
    cases pinned <;> rfl

theorem two_halves (plan : SRv6Plan) (rendered : forSRv6Service spec alloc opts = .ok plan) :
    ∃ first second, TwoHalves spec opts plan first second := by
  obtain ⟨first, second, a, b, planA, planB, passed, attachA, attachB, nodeA, nodeB, made⟩ :=
    for_srv6_service_steps spec alloc opts plan rendered
  have readsA := render_attach_reads spec alloc opts first a attachA
  have readsB := render_attach_reads spec alloc opts second b attachB
  have ordered := gates_ordered spec alloc opts first second passed
  obtain ⟨linkA, addrA, pinnedA, preferredA, _, wholeA⟩ := render_node_whole spec opts _ first first a b planA nodeA
  obtain ⟨linkB, addrB, pinnedB, preferredB, _, wholeB⟩ := render_node_whole spec opts _ first second b a planB nodeB
  have ownA := rendered_commands _ first a b linkA pinnedA addrA planA (by rw [wholeA])
  have ownB := rendered_commands _ second b a linkB pinnedB addrB planB (by rw [wholeB])
  have namedA : planA.node = first := by rw [wholeA]
  have namedB : planB.node = second := by rw [wholeB]
  refine ⟨planA, planB, ?_, ?_, ?_, ?_, ?_, ?_⟩
  · rw [namedA, namedB, made]
  · rw [namedA, namedB]
    exact ordered
  · exact faces_peer spec alloc opts _ first first second a b planA planB readsB nodeA nodeB
  · exact faces_peer spec alloc opts _ first second first b a planB planA readsA nodeB nodeA
  · rw [ownA, preferredA]
    by_cases steered : spec.path.preferredSpine = "" <;> simp [steered, IpCommand.preferredPin]
  · have unpinned : pinnedB = false := by
      rw [preferredB, decide_eq_false ordered.ne', Bool.and_false]
    rw [ownB, unpinned]
    rfl

/- Two services that differ in the order of the attachments have one plan, and the halves
   of every plan face each other. -/
theorem plan_symmetric_and_dual :
    forSRv6Service (swapped spec) alloc opts = forSRv6Service spec alloc opts ∧
      ∀ plan, forSRv6Service spec alloc opts = .ok plan → ∃ first second, TwoHalves spec opts plan first second :=
  ⟨plan_swapped spec alloc opts, two_halves spec alloc opts⟩

end Faces

def pairSpec : SRv6ServiceSpec where
  tenant := "red"
  construct := "ip-vrf"
  signalling := "vpn"
  attachments := [{ node := "leaf02", port := "wan1" }, { node := "leaf01", port := "wan1" }]
  path := { preferredSpine := "spine01" }

def pairAllocations : Allocations where
  serviceID := 7
  vrf := ""
  serviceSIDs := [("leaf01", "fcbb:bbbb:3:11::/64"), ("leaf02", "fcbb:bbbb:4:11::/64")]
  clientPrefixes := [("leaf01", "192.168.1.0/24"), ("leaf02", "192.168.2.0/24")]

def pairOptions : SRv6Options where
  ports := [("wan1", "Ethernet12")]
  nodeKind := "sonic-vm"
  spineLinks := [("leaf01", [("spine01", "2001:db8:1::3")]), ("leaf02", [("spine01", "2001:db8:1::5")])]
  locators := [("leaf01", "fcbb:bbbb:3::/48"), ("leaf02", "fcbb:bbbb:4::/48")]

def pairPlan : SRv6Plan := (forSRv6Service pairSpec pairAllocations pairOptions).toOption.getD []

theorem pair_symmetric_and_dual :
    forSRv6Service (swapped pairSpec) pairAllocations pairOptions = .ok pairPlan ∧
      ∃ first second, TwoHalves pairSpec pairOptions pairPlan first second := by
  have rendered : forSRv6Service pairSpec pairAllocations pairOptions = .ok pairPlan := by rfl
  have halves := plan_symmetric_and_dual pairSpec pairAllocations pairOptions
  exact ⟨halves.1.trans rendered, halves.2 pairPlan rendered⟩

end Halves

end AgenticNetops.Fabricplan
