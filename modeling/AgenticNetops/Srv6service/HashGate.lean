import AgenticNetops.Srv6service.Types
import AgenticNetops.Fabricplan.TwoEnds

set_option autoImplicit false

/- What an equal hash says. The hash covers the ops of a node only, with every command
   as text; the checks and the rollback are made of the same values, and each of these
   values is read back from the texts of the two nodes. -/
namespace AgenticNetops.Srv6service

open GoText Api Fabricplan Fallible

section Texts

-- The text between two fixed ones.
theorem text_between (front back a b : String) (same : front ++ a ++ back = front ++ b ++ back) : a = b :=
  (String.append_right_inj front).mp ((String.append_left_inj back).mp same)

theorem decap_text_sid (sid other vrf : String) (same : (IpCommand.decapReplace sid vrf).text = (IpCommand.decapReplace other vrf).text) :
    sid = other := by
  have shape (sid : String) : (IpCommand.decapReplace sid vrf).text =
      "ip -6 route replace " ++ sid ++ " encap seg6local action End.DT46 vrftable $(ip -d link show " ++ vrf ++
        " 2>/dev/null | grep -o 'table [0-9]*' | cut -d' ' -f2) count dev " ++ vrf := rfl
  rw [shape, shape, String.append_left_inj, String.append_left_inj, String.append_left_inj] at same
  exact text_between _ _ sid other same

theorem steer_text_client (client other vrf segs : String)
    (same : (IpCommand.steerReplace client vrf segs).text = (IpCommand.steerReplace other vrf segs).text) : client = other := by
  have shape (client : String) : (IpCommand.steerReplace client vrf segs).text =
      "ip route replace " ++ client ++ " vrf " ++ vrf ++ " encap seg6 mode encap segs " ++ segs ++ " dev " ++ srv6Uplink := rfl
  rw [shape, shape, String.append_left_inj, String.append_left_inj, String.append_left_inj, String.append_left_inj,
    String.append_left_inj] at same
  exact text_between _ _ client other same

theorem first_word (first other rest later : List Char) (free : ' ' ∉ first) (otherFree : ' ' ∉ other)
    (same : first ++ ' ' :: rest = other ++ ' ' :: later) : first = other ∧ rest = later := by
  induction first generalizing other with
  | nil =>
      cases other with
      | nil => exact ⟨rfl, (List.cons.inj same).2⟩
      | cons c more =>
          have head : ' ' = c := (List.cons.inj same).1
          exact absurd (List.mem_cons.mpr (Or.inl head)) otherFree
  | cons c more ih =>
      cases other with
      | nil =>
          have head : c = ' ' := (List.cons.inj same).1
          exact absurd (List.mem_cons.mpr (Or.inl head.symm)) free
      | cons c' more' =>
          obtain ⟨head, tail⟩ := List.cons.inj same
          obtain ⟨words, rests⟩ := ih more' (fun inside => free (List.mem_cons_of_mem c inside))
            (fun inside => otherFree (List.mem_cons_of_mem c' inside)) tail
          exact ⟨by rw [head, words], rests⟩

-- The pin's locator is the word that stands first.
theorem pin_text_parts (locator via otherLocator otherVia : String) (free : ' ' ∉ locator.toList) (otherFree : ' ' ∉ otherLocator.toList)
    (same : (IpCommand.locatorPinReplace locator via).text = (IpCommand.locatorPinReplace otherLocator otherVia).text) :
    locator = otherLocator ∧ via = otherVia := by
  have shape (locator via : String) : (IpCommand.locatorPinReplace locator via).text =
      "ip -6 route replace " ++ (locator ++ (" via " ++ via)) ++ (" dev " ++ srv6Uplink ++ " metric 5") := by
    have formatted : (IpCommand.locatorPinReplace locator via).text =
        "ip -6 route replace " ++ locator ++ " via " ++ via ++ " dev " ++ srv6Uplink ++ " metric 5" := rfl
    rw [formatted]
    simp only [String.append_assoc]
  rw [shape, shape] at same
  have words := congrArg String.toList (text_between _ _ _ _ same)
  rw [String.toList_append, String.toList_append, String.toList_append, String.toList_append] at words
  obtain ⟨locators, rests⟩ := first_word _ _ _ _ free otherFree words
  have worded : ['v', 'i', 'a', ' '] ++ via.toList = ['v', 'i', 'a', ' '] ++ otherVia.toList := rests
  have legs := List.append_cancel_left worded
  exact ⟨String.toList_inj.mp locators, String.toList_inj.mp legs⟩

theorem preferred_text_via (sid via other : String)
    (same : (IpCommand.preferredPinReplace sid via).text = (IpCommand.preferredPinReplace sid other).text) : via = other := by
  have shape (via : String) : (IpCommand.preferredPinReplace sid via).text =
      "ip -6 route replace " ++ sid ++ " from :: via " ++ via ++ " dev " ++ srv6Uplink ++ " metric 20" := rfl
  rw [shape, shape, String.append_left_inj, String.append_left_inj, String.append_left_inj] at same
  exact (String.append_right_inj _).mp same

theorem addr_text_addr (addr other : String) (same : (IpCommand.addrAdd addr "eth1").text = (IpCommand.addrAdd other "eth1").text) :
    addr = other := by
  have shape (addr : String) : (IpCommand.addrAdd addr "eth1").text = "ip addr add " ++ addr ++ " dev " ++ "eth1" := rfl
  rw [shape, shape, String.append_left_inj] at same
  exact text_between _ _ addr other same

theorem default_text_via (via other : String) (same : (IpCommand.defaultReplace via "eth1").text = (IpCommand.defaultReplace other "eth1").text) :
    via = other := by
  have shape (via : String) : (IpCommand.defaultReplace via "eth1").text = "ip route replace default via " ++ via ++ " dev " ++ "eth1" := rfl
  rw [shape, shape, String.append_left_inj] at same
  exact text_between _ _ via other same

end Texts

section Nodes
variable (vrf otherVRF n : String) (own peer otherOwn otherPeer : Attach) (link otherLink : String) (pinned otherPinned : Bool)
  (addr otherAddr : String)

-- What two op lists of one node agree on when their texts are the same.
structure ShownSame : Prop where
  name : vrf = otherVRF
  port : own.port = otherOwn.port
  logic : own.logic = otherOwn.logic
  decap : (IpCommand.decapReplace own.sid vrf).text = (IpCommand.decapReplace otherOwn.sid otherVRF).text
  steer : (IpCommand.steerReplace peer.client vrf peer.sidFn).text = (IpCommand.steerReplace otherPeer.client otherVRF otherPeer.sidFn).text
  pin : (IpCommand.locatorPinReplace peer.loc link).text = (IpCommand.locatorPinReplace otherPeer.loc otherLink).text
  pinned : pinned = otherPinned
  addr : addr = otherAddr
  gw : trimSuffix own.gw "/24" = trimSuffix otherOwn.gw "/24"

def opTexts (ops : List SRv6Op) : List (Op Empty String) := ops.map canonicalOp

theorem node_ops_show
    (same : opTexts (renderOps vrf n own peer link pinned addr) = opTexts (renderOps otherVRF n otherOwn otherPeer otherLink otherPinned otherAddr)) :
    ShownSame vrf otherVRF own peer otherOwn otherPeer link otherLink pinned otherPinned addr otherAddr := by
  -- The preferred pin is an op more.
  have flags : pinned = otherPinned := by
    have lengths := congrArg List.length same
    cases pinned with
    | false =>
        cases otherPinned with
        | false => rfl
        | true => simp [opTexts, renderOps] at lengths
    | true =>
        cases otherPinned with
        | false => simp [opTexts, renderOps] at lengths
        | true => rfl
  subst flags
  cases pinned with
  | false =>
      simp only [opTexts, renderOps, canonicalOp, List.cons_append, List.nil_append, List.map_cons, List.map_nil, Bool.false_eq_true,
        if_false, List.cons.injEq, Op.mk.injEq, GcuStep.add.injEq, String.append_right_inj, true_and, and_true] at same
      obtain ⟨name, ⟨⟨port, _⟩, _⟩, decap, steer, pin, ⟨added, default⟩, logic⟩ := same
      exact ⟨name, port, logic, decap, steer, pin, rfl, addr_text_addr _ _ added, default_text_via _ _ default⟩
  | true =>
      simp only [opTexts, renderOps, canonicalOp, List.cons_append, List.nil_append, List.map_cons, List.map_nil,
        if_true, List.cons.injEq, Op.mk.injEq, GcuStep.add.injEq, String.append_right_inj, true_and, and_true] at same
      obtain ⟨name, ⟨⟨port, _⟩, _⟩, decap, steer, pin, _, ⟨added, default⟩, logic⟩ := same
      exact ⟨name, port, logic, decap, steer, pin, rfl, addr_text_addr _ _ added, default_text_via _ _ default⟩

end Nodes

section Plans
variable (digest : Digest)

-- The digest tells the op lists of the two plans apart: no two different ones share a hash.
def Separates (plan other : SRv6Plan) : Prop :=
  ∀ n np otherPlan, plan.get? n = some np → other.get? n = some otherPlan →
    nodeHash digest np.ops = nodeHash digest otherPlan.ops → opTexts np.ops = opTexts otherPlan.ops

-- The two plans have one map of hashes.
def SameHashes (plan other : SRv6Plan) : Prop := ∀ n, (planHashes digest plan).get? n = (planHashes digest other).get? n

-- No locator of the site has a space in it.
def SpacelessLocators (opts : SRv6Options) : Prop := ∀ n, ' ' ∉ (opts.locators.text n).toList

theorem plan_hashes_get (plan : SRv6Plan) (n : String) :
    (planHashes digest plan).get? n = (plan.get? n).map fun np => nodeHash digest np.ops := by
  induction plan with
  | nil => rfl
  | cons entry rest ih =>
      obtain ⟨name, np⟩ := entry
      rw [planHashes, List.map_cons, GoMap.get?, GoMap.get?, List.lookup_cons, List.lookup_cons]
      cases n == name with
      | true => rfl
      | false => exact ih

theorem host_addr_long (octet : Nat) (pfx addr : String) (hosted : hostAddr octet pfx = .ok addr) :
    addr = trimSuffix addr "/24" ++ "/24" := by
  rw [hostAddr] at hosted
  split at hosted
  · cases hosted
  · cases hosted
    rw [trim_suffix_append]
  · cases hosted

variable (spec otherSpec : SRv6ServiceSpec) (alloc otherAlloc : Fabricplan.Allocations) (opts otherOpts : SRv6Options)

theorem pair_get (first second n : String) (planA planB : SRv6NodePlan) :
    GoMap.get? [(first, planA), (second, planB)] n = if n = first then some planA else if n = second then some planB else none := by
  rw [GoMap.get?, List.lookup_cons, List.lookup_cons, List.lookup_nil]
  by_cases here : n = first
  · simp [here]
  · by_cases there : n = second
    · subst there
      simp [here, beq_eq_false_iff_ne.mpr here]
    · simp [here, there, beq_eq_false_iff_ne.mpr here, beq_eq_false_iff_ne.mpr there]

theorem pair_listed (first second n : String) (planA planB : SRv6NodePlan) :
    (GoMap.get? [(first, planA), (second, planB)] n).isSome = true ↔ n = first ∨ n = second := by
  rw [pair_get]
  by_cases here : n = first
  · simp [here]
  · by_cases there : n = second
    · subst there
      simp [here]
    · simp [here, there]

-- Two plans with one map of hashes have the same two nodes.
theorem same_nodes (first second first' second' : String) (planA planB planA' planB' : SRv6NodePlan) (ordered : first < second)
    (ordered' : first' < second')
    (hashes : SameHashes digest [(first, planA), (second, planB)] [(first', planA'), (second', planB')]) :
    first = first' ∧ second = second' := by
  have listed (n : String) : (n = first ∨ n = second) ↔ (n = first' ∨ n = second') := by
    have same := congrArg Option.isSome (hashes n)
    rw [plan_hashes_get, plan_hashes_get, Option.isSome_map, Option.isSome_map] at same
    rw [← pair_listed first second n planA planB, ← pair_listed first' second' n planA' planB', same]
  have atFirst := (listed first).mp (Or.inl rfl)
  have atSecond := (listed second).mp (Or.inr rfl)
  cases atFirst with
  | inl same =>
      cases atSecond with
      | inl again => exact absurd (same.trans again.symm) ordered.ne
      | inr same' => exact ⟨same, same'⟩
  | inr crossed =>
      cases atSecond with
      | inl crossed' =>
          rw [crossed, crossed'] at ordered
          exact absurd ordered (lt_asymm ordered')
      | inr again => exact absurd (crossed.trans again.symm) ordered.ne

-- Every value of a rendered attachment is in the texts of the two nodes.
theorem attach_shown (n : String) (self otherSelf : Attach) (reads : AttachReads alloc opts n self)
    (otherReads : AttachReads otherAlloc otherOpts n otherSelf) (sid : self.sid = otherSelf.sid)
    (port : self.port = otherSelf.port) (logic : self.logic = otherSelf.logic)
    (gw : trimSuffix self.gw "/24" = trimSuffix otherSelf.gw "/24") (client : self.client = otherSelf.client)
    (loc : self.loc = otherSelf.loc) : self = otherSelf := by
  have sidFn : self.sidFn = otherSelf.sidFn := by rw [reads.sidFn, otherReads.sidFn, sid]
  have gateway : self.gw = otherSelf.gw := by
    rw [host_addr_long 1 self.client self.gw reads.gw, gw, ← host_addr_long 1 otherSelf.client otherSelf.gw otherReads.gw]
  cases self
  cases otherSelf
  simp only [Attach.mk.injEq]
  exact ⟨port, logic, sid, sidFn, client, gateway, loc⟩

theorem equal_hashes_equal_plans (plan other : SRv6Plan) (rendered : forSRv6Service spec alloc opts = .ok plan)
    (otherRendered : forSRv6Service otherSpec otherAlloc otherOpts = .ok other) (spaceless : SpacelessLocators opts)
    (otherSpaceless : SpacelessLocators otherOpts) (separates : Separates digest plan other) (hashes : SameHashes digest plan other) :
    plan = other := by
  obtain ⟨first, second, a, b, planA, planB, passed, attachA, attachB, nodeA, nodeB, made⟩ :=
    for_srv6_service_steps spec alloc opts plan rendered
  obtain ⟨first', second', a', b', planA', planB', passed', attachA', attachB', nodeA', nodeB', made'⟩ :=
    for_srv6_service_steps otherSpec otherAlloc otherOpts other otherRendered
  have ordered := gates_ordered spec alloc opts first second passed
  subst made made'
  obtain ⟨sameFirst, sameSecond⟩ := same_nodes digest first second first' second' planA planB planA' planB' ordered
    (gates_ordered otherSpec otherAlloc otherOpts first' second' passed') hashes
  subst sameFirst sameSecond
  have readsA := render_attach_reads spec alloc opts first a attachA
  have readsB := render_attach_reads spec alloc opts second b attachB
  have readsA' := render_attach_reads otherSpec otherAlloc otherOpts first a' attachA'
  have readsB' := render_attach_reads otherSpec otherAlloc otherOpts second b' attachB'
  obtain ⟨linkA, addrA, pinnedA, _, _, wholeA⟩ := render_node_whole spec opts _ first first a b planA nodeA
  obtain ⟨linkB, addrB, pinnedB, _, _, wholeB⟩ := render_node_whole spec opts _ first second b a planB nodeB
  obtain ⟨linkA', addrA', pinnedA', _, _, wholeA'⟩ := render_node_whole otherSpec otherOpts _ first first a' b' planA' nodeA'
  obtain ⟨linkB', addrB', pinnedB', _, _, wholeB'⟩ := render_node_whole otherSpec otherOpts _ first second b' a' planB' nodeB'
  have textsA : opTexts planA.ops = opTexts planA'.ops := by
    have found := pair_get first second first planA planB
    have found' := pair_get first second first planA' planB'
    rw [if_pos rfl] at found found'
    refine separates first planA planA' found found' ?_
    have same := hashes first
    rw [plan_hashes_get, plan_hashes_get, found, found'] at same
    exact Option.some.inj same
  have textsB : opTexts planB.ops = opTexts planB'.ops := by
    have found := pair_get first second second planA planB
    have found' := pair_get first second second planA' planB'
    rw [if_neg ordered.ne', if_pos rfl] at found found'
    refine separates second planB planB' found found' ?_
    have same := hashes second
    rw [plan_hashes_get, plan_hashes_get, found, found'] at same
    exact Option.some.inj same
  rw [wholeA, wholeA'] at textsA
  rw [wholeB, wholeB'] at textsB
  have shownA := node_ops_show _ _ first a b a' b' linkA linkA' pinnedA pinnedA' addrA addrA' textsA
  have shownB := node_ops_show _ _ second b a b' a' linkB linkB' pinnedB pinnedB' addrB addrB' textsB
  -- The SIDs are in the decap commands; with the peer's known, a steering command gives the peer's client.
  have sidA : a.sid = a'.sid := decap_text_sid _ _ _ (by rw [shownA.decap, shownA.name])
  have sidB : b.sid = b'.sid := decap_text_sid _ _ _ (by rw [shownB.decap, shownB.name])
  have sidFnA : a.sidFn = a'.sidFn := by rw [readsA.sidFn, readsA'.sidFn, sidA]
  have sidFnB : b.sidFn = b'.sidFn := by rw [readsB.sidFn, readsB'.sidFn, sidB]
  have clientA : a.client = a'.client := steer_text_client _ _ _ _ (by rw [shownB.steer, shownB.name, sidFnA])
  have clientB : b.client = b'.client := steer_text_client _ _ _ _ (by rw [shownA.steer, shownA.name, sidFnB])
  have pinA := pin_text_parts _ _ _ _ (by rw [readsB.loc]; exact spaceless second)
    (by rw [readsB'.loc]; exact otherSpaceless second) shownA.pin
  have pinB := pin_text_parts _ _ _ _ (by rw [readsA.loc]; exact spaceless first)
    (by rw [readsA'.loc]; exact otherSpaceless first) shownB.pin
  have sameA := attach_shown alloc otherAlloc opts otherOpts first a a' readsA readsA' sidA shownA.port shownA.logic shownA.gw clientA pinB.1
  have sameB := attach_shown alloc otherAlloc opts otherOpts second b b' readsB readsB' sidB shownB.port shownB.logic shownB.gw clientB pinA.1
  rw [wholeA, wholeB, wholeA', wholeB', sameA, sameB, shownA.name, shownA.pinned, shownB.pinned, pinA.2, pinB.2, shownA.addr, shownB.addr]

/- A plan whose hashes are the stored ones has the nodes of the plan that was hashed then,
   and each node has that plan's checks and rollback. -/
theorem equal_hashes_sound (plan other : SRv6Plan) (rendered : forSRv6Service spec alloc opts = .ok plan)
    (otherRendered : forSRv6Service otherSpec otherAlloc otherOpts = .ok other) (spaceless : SpacelessLocators opts)
    (otherSpaceless : SpacelessLocators otherOpts) (separates : Separates digest plan other) (hashes : SameHashes digest plan other) :
    plan.keys = other.keys ∧ ∀ n np otherPlan, plan.get? n = some np → other.get? n = some otherPlan →
      np.checks = otherPlan.checks ∧ np.rollback = otherPlan.rollback := by
  have same := equal_hashes_equal_plans digest spec otherSpec alloc otherAlloc opts otherOpts plan other rendered otherRendered
    spaceless otherSpaceless separates hashes
  subst same
  refine ⟨rfl, ?_⟩
  intro n np otherPlan found again
  have one : np = otherPlan := Option.some.inj (found.symm.trans again)
  rw [one]
  exact ⟨rfl, rfl⟩

end Plans

-- The commands of the ops, one after the other.
def commandDigest : Digest := fun ops => String.join (ops.flatMap Op.shell)

theorem pair_spaceless : SpacelessLocators pairOptions := by
  intro n
  by_cases left : n = "leaf01"
  · subst left
    decide
  · by_cases right : n = "leaf02"
    · subst right
      decide
    · simp [pairOptions, GoMap.text, List.lookup_cons, beq_eq_false_iff_ne.mpr left, beq_eq_false_iff_ne.mpr right]

-- Another tenant's service on another kind of node, with the VRF name carried along.
theorem pair_equal_hashes_sound :
    pairPlan.keys = ["leaf01", "leaf02"] ∧ ∀ n np otherPlan, pairPlan.get? n = some np → pairPlan.get? n = some otherPlan →
      np.checks = otherPlan.checks ∧ np.rollback = otherPlan.rollback := by
  have sound := equal_hashes_sound commandDigest pairSpec { pairSpec with tenant := "blue" } pairAllocations
    { pairAllocations with vrf := "Vrf7" } pairOptions { pairOptions with nodeKind := "sonic-vs" } pairPlan pairPlan (by rfl) (by rfl)
    pair_spaceless pair_spaceless
    (by
      intro n np otherPlan found again _
      rw [Option.some.inj (found.symm.trans again)])
    (fun _ => rfl)
  exact ⟨by decide, sound.2⟩

end AgenticNetops.Srv6service
