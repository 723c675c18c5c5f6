import AgenticNetops.Lib.KeyedAppend
import AgenticNetops.Fabricplan.Renderings

set_option autoImplicit false

/- What the ops and checks of a part tell of its rendering: two parts that may change places
   in a plan serve one service, and two equal parts were read from equal values. -/
namespace AgenticNetops.Fabricplan

open GoText Kubenet KeyedAppend

-- The service that a rendering is of: the L3VNI of a router, or the VLAN it is bridged on.
def Rendering.mark : Rendering → Nat × Int
  | .routed c _ _ _ => (0, c.l3vni)
  | .bridged bd => (1, bd.vlan)
  | .irb bd _ _ _ _ => (2, bd.vlan)
  | .isolated vlan => (3, vlan)

section Leads
variable (opts : Options)

def Rendering.baseline : Rendering → List NetworkOp
  | .isolated _ => []
  | _ => vtepBaselineForKind opts

-- The first op of a rendering of its own, and how many rows the next op writes.
def Rendering.lead : Rendering → NetworkOp
  | .routed c _ _ _ => c.vrfOp
  | .bridged bd => { redis := l2Overlay bd (vlanDevice bd.vlan) opts }
  | .irb _ c _ _ _ => c.vrfOp
  | .isolated vlan => { redis := [.hset (vlanRow (vlanDevice vlan)) [("vlanid", toString vlan)]] }

def Rendering.rowsNext : Rendering → List RedisCommand
  | .routed c _ _ _ => c.l3OverlayRedis
  | .irb bd c _ _ _ => l2Overlay bd (vlanDevice bd.vlan) opts ++ c.l3OverlayRedis
  | _ => []

theorem rendering_ops (rendering : Rendering) (port : String) :
    ∃ next rest, (rendering.part opts port).ops = rendering.baseline opts ++ rendering.lead opts :: next :: rest ∧
      next.redis = rendering.rowsNext opts := by
  cases rendering with
  | routed c afis addrs needles => exact ⟨_, _, by simp [Rendering.part, routedPart, Rendering.baseline, Rendering.lead]; exact ⟨rfl, rfl⟩, rfl⟩
  | bridged bd => exact ⟨_, _, by simp [Rendering.part, bridgedPart, Rendering.baseline, Rendering.lead]; exact ⟨rfl, rfl⟩, rfl⟩
  | irb bd c afis gateways needles => exact ⟨_, _, by simp [Rendering.part, irbPart, Rendering.baseline, Rendering.lead]; exact ⟨rfl, rfl⟩, rfl⟩
  | isolated vlan => exact ⟨_, _, rfl, rfl⟩

theorem lead_mark (one other : Rendering) (leads : one.lead opts = other.lead opts) (rows : one.rowsNext opts = other.rowsNext opts) :
    one.mark = other.mark := by
  cases one <;> cases other <;>
    simp_all [Rendering.lead, Rendering.rowsNext, Rendering.mark, L3Context.vrfOp, l2Overlay, L3Context.l3OverlayRedis]

-- Ops that may change places start alike.
theorem commuting_lead (one other : Rendering) (port otherPort : String)
    (commute : (one.part opts port).ops ++ (other.part opts otherPort).ops = (other.part opts otherPort).ops ++ (one.part opts port).ops) :
    one.lead opts = other.lead opts ∧ one.rowsNext opts = other.rowsNext opts := by
  obtain ⟨next, rest, ops, rows⟩ := rendering_ops opts one port
  obtain ⟨otherNext, otherRest, otherOps, otherRows⟩ := rendering_ops opts other otherPort
  rw [ops, otherOps] at commute
  by_cases same : one.baseline opts = other.baseline opts
  · rw [same, List.append_assoc, List.append_assoc, List.append_cancel_left_eq] at commute
    obtain ⟨leads, commute⟩ := List.cons.inj commute
    obtain ⟨nexts, _⟩ := List.cons.inj commute
    rw [← rows, ← otherRows, nexts]
    exact ⟨leads, rfl⟩
  · -- Only the baseline of a sonic-vm stands before a lead, and it runs in the shell.
    have firsts (u v : List NetworkOp) (baseline : u ++ v = v ++ u) (i : u ≠ []) (j : v ≠ []) : u.head? = v.head? := by
      have at_ := words_commute u v baseline 0 (List.length_pos_of_ne_nil i) (List.length_pos_of_ne_nil j)
      rw [List.head?_eq_getElem?, List.head?_eq_getElem?, at_]
    have heads := firsts _ _ commute (by simp) (by simp)
    have onVM : opts.onVM = true := by
      by_contra local_
      apply same
      cases one <;> cases other <;> simp [Rendering.baseline, vtepBaselineForKind, local_]
    cases one <;> cases other <;>
      simp [Rendering.baseline, Rendering.lead, vtepBaselineForKind, onVM, L3Context.vrfOp, l2Overlay] at heads same

theorem commuting_mark (one other : Rendering) (port otherPort : String)
    (commute : (one.part opts port).ops ++ (other.part opts otherPort).ops = (other.part opts otherPort).ops ++ (one.part opts port).ops) :
    one.mark = other.mark :=
  lead_mark opts one other (commuting_lead opts one other port otherPort commute).1 (commuting_lead opts one other port otherPort commute).2

end Leads

section Lines

theorem families_listed (prefixes afis : List String) (families : afisFor prefixes = .ok afis) :
    afis = ["ipv4 unicast"] ∨ afis = ["ipv6 unicast"] ∨ afis = ["ipv4 unicast", "ipv6 unicast"] := by
  rw [afisFor] at families
  cases read : prefixFamilies {} prefixes with
  | error message =>
      rw [read] at families
      cases families
  | ok seen =>
      rw [read] at families
      cases Except.ok.inj families
      obtain ⟨v4, v6⟩ := seen
      cases v4 <;> cases v6 <;> simp

theorem optional_lines (rd rt rd' rt' : String) (tail : List String)
    (same : L3Context.optionalLine "rd " rd ++ L3Context.optionalLine "route-target both " rt ++ tail =
      L3Context.optionalLine "rd " rd' ++ L3Context.optionalLine "route-target both " rt' ++ tail) : rd = rd' ∧ rt = rt' := by
  have front (value value' : String) : ¬ "rd " ++ value = "route-target both " ++ value' := by
    intro lines
    have chars := congrArg String.toList lines
    simp [String.toList_append] at chars
  rw [List.append_cancel_right_eq] at same
  unfold L3Context.optionalLine at same
  by_cases a : rd = "" <;> by_cases b : rt = "" <;> by_cases c : rd' = "" <;> by_cases d : rt' = "" <;> simp_all
  exact front _ _ same.symm

-- The lines of a VRF name its families, its RD and its route target.
theorem vty_lines_same (c other : L3Context) (afis otherAfis : List String) (asn : String) (prefixes otherPrefixes : List String)
    (families : afisFor prefixes = .ok afis) (otherFamilies : afisFor otherPrefixes = .ok otherAfis)
    (same : c.vtyLines afis asn = other.vtyLines otherAfis asn) : afis = otherAfis ∧ c.rd = other.rd ∧ c.rt = other.rt := by
  have kinds : afis = otherAfis ∧ L3Context.optionalLine "rd " c.rd ++ L3Context.optionalLine "route-target both " c.rt ++ ["exit-address-family", "end"] =
      L3Context.optionalLine "rd " other.rd ++ L3Context.optionalLine "route-target both " other.rt ++ ["exit-address-family", "end"] := by
    have listed := families_listed prefixes afis families
    have otherListed := families_listed otherPrefixes otherAfis otherFamilies
    rcases listed with rfl | rfl | rfl <;> rcases otherListed with rfl | rfl | rfl <;> simp_all [L3Context.vtyLines]
  exact ⟨kinds.1, optional_lines _ _ _ _ _ kinds.2⟩

end Lines

section Values
variable {α : Type}

-- The addresses of an SVI and the routes announced are checks of two kinds.
theorem check_lists_same (gateway : α → Check) (c : L3Context) (addrs others : List α) (needles otherNeedles : List String)
    (kind : ∀ addr, (gateway addr).type = .ipAddr) (injective : ∀ a b, gateway a = gateway b → a = b)
    (same : addrs.map gateway ++ needles.map c.needleCheck = others.map gateway ++ otherNeedles.map c.needleCheck) :
    addrs = others ∧ needles = otherNeedles := by
  have isAddr (left : List α) (right : List String) :
      (left.map gateway ++ right.map c.needleCheck).filter (fun check => check.type = .ipAddr) = left.map gateway := by
    rw [List.filter_append, List.filter_eq_self.mpr, List.filter_eq_nil_iff.mpr, List.append_nil]
    · intro other inside
      obtain ⟨needle, _, rfl⟩ := List.mem_map.mp inside
      simp [L3Context.needleCheck]
    · intro other inside
      obtain ⟨addr, _, rfl⟩ := List.mem_map.mp inside
      simp [kind]
  have gateways : addrs.map gateway = others.map gateway := by
    rw [← isAddr addrs needles, same, isAddr]
  rw [gateways, List.append_cancel_left_eq] at same
  refine ⟨List.map_injective_iff.mpr injective gateways, List.map_injective_iff.mpr ?_ same⟩
  intro needle other written
  rw [L3Context.needleCheck, L3Context.needleCheck, Check.mk.injEq] at written
  simp_all

end Values

section Equal
variable (opts : Options) (port : String)

theorem context_same (c other : L3Context) (lead : c.vrfOp = other.vrfOp) (rows : c.l3OverlayRedis = other.l3OverlayRedis)
    (rd : c.rd = other.rd) (rt : c.rt = other.rt) : c = other := by
  obtain ⟨vrfName, l3vni, l3vlan, l3vlanDev, _, _⟩ := c
  obtain ⟨vrfName', l3vni', l3vlan', l3vlanDev', _, _⟩ := other
  simp [L3Context.vrfOp, L3Context.l3OverlayRedis, vlanRow, Int.repr_inj] at lead rows rd rt ⊢
  simp_all

theorem routed_same (c other : L3Context) (afis otherAfis addrs others needles otherNeedles : List String) (prefixes otherPrefixes : List String)
    (families : afisFor prefixes = .ok afis) (otherFamilies : afisFor otherPrefixes = .ok otherAfis)
    (ops : (routedPart opts port c afis addrs needles).ops = (routedPart opts port other otherAfis others otherNeedles).ops)
    (checks : (routedPart opts port c afis addrs needles).checks = (routedPart opts port other otherAfis others otherNeedles).checks) :
    c = other ∧ afis = otherAfis ∧ addrs = others ∧ needles = otherNeedles := by
  simp only [routedPart, List.append_assoc, List.append_cancel_left_eq, List.cons_append, List.nil_append, L3Context.frrOps] at ops
  obtain ⟨lead, ops⟩ := List.cons.inj ops
  obtain ⟨rows, ops⟩ := List.cons.inj ops
  obtain ⟨_, ops⟩ := List.cons.inj ops
  obtain ⟨lines, _⟩ := List.cons.inj ops
  obtain ⟨afisSame, rd, rt⟩ := vty_lines_same c other afis otherAfis opts.bgpASN prefixes otherPrefixes families otherFamilies
    (congrArg Op.vtysh lines)
  have same := context_same c other lead (congrArg Op.redis rows) rd rt
  rw [same] at checks
  simp only [routedPart, List.append_assoc, List.append_cancel_left_eq] at checks
  obtain ⟨addrsSame, needlesSame⟩ := check_lists_same (fun addr => { type := .ipAddr, iface := other.l3vlanDev, addr }) other addrs others
    needles otherNeedles (fun _ => rfl) (fun a b alike => congrArg Check.addr alike) checks
  exact ⟨same, afisSame, addrsSame, needlesSame⟩

structure SameSegment (bd other : BridgeDomain) : Prop where
  vlan : bd.vlan = other.vlan
  l2vni : bd.l2vni = other.l2vni
  rt : l2RT bd = l2RT other

theorem segment_same (bd other : BridgeDomain)
    (overlay : l2Overlay bd (vlanDevice bd.vlan) opts = l2Overlay other (vlanDevice other.vlan) opts)
    (evpn : l2EVPNOp bd opts = l2EVPNOp other opts) : SameSegment bd other := by
  simp only [l2Overlay, List.cons.injEq, RedisCommand.hset.injEq, Prod.mk.injEq, true_and, and_true, toString, Int.repr_inj] at overlay
  obtain ⟨⟨_, vlan⟩, ⟨_, l2vni, _⟩⟩ := overlay
  refine ⟨vlan, l2vni, ?_⟩
  rw [l2EVPNOp, l2EVPNOp] at evpn
  by_cases one : l2RT bd = "" <;> by_cases two : l2RT other = "" <;> simp_all

theorem bridged_same (bd other : BridgeDomain) (ops : (bridgedPart opts port bd).ops = (bridgedPart opts port other).ops) :
    SameSegment bd other := by
  simp only [bridgedPart, List.append_assoc, List.append_cancel_left_eq, List.cons_append, List.nil_append] at ops
  obtain ⟨overlay, ops⟩ := List.cons.inj ops
  obtain ⟨_, evpn⟩ := List.cons.inj ops
  exact segment_same opts bd other (congrArg Op.redis overlay) evpn

theorem irb_same (bd domain : BridgeDomain) (c other : L3Context) (afis otherAfis gateways others needles otherNeedles : List String)
    (prefixes otherPrefixes : List String) (families : afisFor prefixes = .ok afis) (otherFamilies : afisFor otherPrefixes = .ok otherAfis)
    (ops : (irbPart opts port bd c afis gateways needles).ops = (irbPart opts port domain other otherAfis others otherNeedles).ops)
    (checks : (irbPart opts port bd c afis gateways needles).checks = (irbPart opts port domain other otherAfis others otherNeedles).checks) :
    SameSegment bd domain ∧ c = other ∧ afis = otherAfis ∧ gateways.filter (· ≠ "") = others.filter (· ≠ "") ∧ needles = otherNeedles := by
  simp only [irbPart, List.append_assoc, List.append_cancel_left_eq, List.cons_append, List.nil_append, L3Context.frrOps] at ops
  obtain ⟨lead, ops⟩ := List.cons.inj ops
  obtain ⟨rows, ops⟩ := List.cons.inj ops
  obtain ⟨_, ops⟩ := List.cons.inj ops
  -- The EVPN op of the bridge domain is there in both or in neither.
  have lengths := congrArg List.length ops
  simp only [List.length_append, List.length_cons, List.length_nil] at lengths
  obtain ⟨evpn, ops⟩ := List.append_inj ops (by omega)
  obtain ⟨lines, _⟩ := List.cons.inj ops
  obtain ⟨afisSame, rd, rt⟩ := vty_lines_same c other afis otherAfis opts.bgpASN prefixes otherPrefixes families otherFamilies
    (congrArg Op.vtysh lines)
  obtain ⟨overlay, l3Rows⟩ := List.append_inj (congrArg Op.redis rows) rfl
  have segment := segment_same opts bd domain overlay evpn
  have same := context_same c other lead l3Rows rd rt
  have l2 : l2Checks bd (vlanDevice domain.vlan) port opts = l2Checks domain (vlanDevice domain.vlan) port opts := by
    rw [l2Checks, l2Checks, segment.vlan, segment.l2vni, segment.rt]
  rw [same] at checks
  simp only [irbPart, List.append_assoc, l2, segment.vlan, List.append_cancel_left_eq] at checks
  obtain ⟨gatewaysSame, needlesSame⟩ := check_lists_same (fun gw => { type := .ipAddr, iface := vlanDevice domain.vlan, addr := gw }) other
    _ _ needles otherNeedles (fun _ => rfl) (fun a b alike => congrArg Check.addr alike) checks
  exact ⟨segment, same, afisSame, gatewaysSame, needlesSame⟩

end Equal

end AgenticNetops.Fabricplan
