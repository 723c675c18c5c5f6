import AgenticNetops.Fabricplan.VlanIds

set_option autoImplicit false

/- What the part of an attachment is made of: the values that its renderer reads out of the
   router and the bridge domain, the port and the options. -/
namespace AgenticNetops.Fabricplan

open GoText Kubenet Fallible

inductive Rendering where
  | routed (c : L3Context) (afis addrs needles : List String)
  | bridged (bd : BridgeDomain)
  | irb (bd : BridgeDomain) (c : L3Context) (afis gateways needles : List String)
  | isolated (vlan : Int)

section Needles
variable (c : L3Context)

def L3Context.needleCheck (needle : String) : Check :=
  { type := .vtyshContains
    command := if c.rd ≠ "" then "show bgp l2vpn evpn route rd " ++ c.rd else "show bgp l2vpn evpn route type prefix self-originate"
    expect := needle }

def announced (prefixes : List String) : List (Except Error String) := (prefixes.filter (· ≠ "")).map type5RouteNeedle

theorem type5_check_iff (pfx : String) (check : Check) :
    c.type5Check pfx = .ok check ↔ ∃ needle, type5RouteNeedle pfx = .ok needle ∧ check = c.needleCheck needle := by
  rw [L3Context.type5Check]
  cases type5RouteNeedle pfx with
  | error message =>
      refine ⟨fun read => ?_, fun read => ?_⟩
      · cases read
      · obtain ⟨needle, impossible, _⟩ := read
        cases impossible
  | ok needle =>
      constructor
      · intro read
        cases read
        exact ⟨needle, rfl, rfl⟩
      · intro read
        obtain ⟨other, same, whole⟩ := read
        cases same
        rw [whole]
        rfl

theorem type5_checks_iff (prefixes : List String) (checks : List Check) :
    c.type5Checks prefixes = .ok checks ↔ ∃ needles : List String, announced prefixes = needles.map Except.ok ∧ checks = needles.map c.needleCheck := by
  rw [L3Context.type5Checks, announced]
  generalize prefixes.filter (· ≠ "") = kept
  induction kept generalizing checks with
  | nil =>
      constructor
      · intro read
        cases read
        exact ⟨[], rfl, rfl⟩
      · intro read
        obtain ⟨needles, same, whole⟩ := read
        rw [whole, List.map_eq_nil_iff.mp same.symm]
        rfl
  | cons pfx rest ih =>
      rw [List.mapM_cons]
      constructor
      · intro read
        obtain ⟨check, here, read⟩ := bind_ok _ _ _ read
        obtain ⟨later, behind, read⟩ := bind_ok _ _ _ read
        cases read
        obtain ⟨needle, first, written⟩ := (type5_check_iff c pfx check).mp here
        obtain ⟨needles, others, wrote⟩ := (ih later).mp behind
        refine ⟨needle :: needles, ?_, ?_⟩
        · rw [List.map_cons, List.map_cons, first, others]
        · rw [List.map_cons, written, wrote]
      · intro read
        obtain ⟨needles, same, whole⟩ := read
        cases needles with
        | nil => cases same
        | cons needle others =>
            obtain ⟨first, behind⟩ := List.cons.inj same
            have here := (type5_check_iff c pfx _).mpr ⟨needle, first, rfl⟩
            have later := (ih _).mpr ⟨others, behind, rfl⟩
            rw [here, later, whole]
            rfl

end Needles

theorem in_context_ok_iff {α : Type} (context : Message) (result : Except Error α) (value : α) :
    inContext context result = .ok value ↔ result = .ok value := by
  constructor
  · exact in_context_ok context result value
  · intro read
    rw [read]
    rfl

section Parts
variable (opts : Options) (port : String)

def routedPart (c : L3Context) (afis addrs needles : List String) : Part :=
  { ops := vtepBaselineForKind opts ++
      [c.vrfOp, { redis := c.l3OverlayRedis },
       { shell := sviShell c.l3vlanDev c.l3vlan c.vrfName addrs ++ accessPortShell port c.l3vlan ++ c.l3TunnelMapShell opts ++
           vtepShell opts.vtepName c.l3vlan c.l3vni c.l3vlanDev }] ++
      c.frrOps afis opts.bgpASN ++ [{ shell := c.evpnVNIAdoptionShell }]
    checks := c.l3Checks opts ++ [{ type := .bridgeVid, iface := port, vid := c.l3vlan }] ++
      addrs.map (fun addr => { type := .ipAddr, iface := c.l3vlanDev, addr }) ++ needles.map c.needleCheck
    rollback := [{ redis := [.del (c.mapRow opts), .del (vlanRow c.l3vlanDev)] }, { shell := [.leaveVlan port c.l3vlan] }, c.vrfRemoval] }

def bridgedPart (bd : BridgeDomain) : Part :=
  let vlanName := vlanDevice bd.vlan
  { ops := vtepBaselineForKind opts ++
      [{ redis := l2Overlay bd vlanName opts },
       { shell := [.ensureBridge] ++ accessPortShell port bd.vlan ++ [.cleanupTunnelMaps opts.vtepName vlanName bd.l2vni] ++
           vtepShell opts.vtepName bd.vlan bd.l2vni vlanName }] ++ l2EVPNOp bd opts
    checks := l2Checks bd vlanName port opts
    rollback := l2Rollback bd vlanName port opts }

def irbPart (bd : BridgeDomain) (c : L3Context) (afis gateways needles : List String) : Part :=
  let vlanName := vlanDevice bd.vlan
  { ops := vtepBaselineForKind opts ++
      [c.vrfOp, { redis := l2Overlay bd vlanName opts ++ c.l3OverlayRedis },
       { shell := sviShell c.l3vlanDev c.l3vlan c.vrfName [] ++ sviShell vlanName bd.vlan c.vrfName gateways ++
           c.l3TunnelMapShell opts ++ accessPortShell port bd.vlan ++ [.cleanupTunnelMaps opts.vtepName vlanName bd.l2vni] ++
           vtepShell opts.vtepName bd.vlan bd.l2vni vlanName }] ++
      l2EVPNOp bd opts ++ c.frrOps afis opts.bgpASN ++ [{ shell := c.evpnVNIAdoptionShell }]
    checks := l2Checks bd vlanName port opts ++ c.l3Checks opts ++ [{ type := .ipMaster, iface := vlanName, master := c.vrfName }] ++
      (gateways.filter (· ≠ "")).map (fun gw => { type := .ipAddr, iface := vlanName, addr := gw }) ++ needles.map c.needleCheck
    rollback := l2Rollback bd vlanName port opts ++ [{ redis := [.del (c.mapRow opts), .del (vlanRow c.l3vlanDev)] }, c.vrfRemoval] }

def isolatedPart (vlan : Int) : Part :=
  let vlanName := vlanDevice vlan
  { ops := [{ redis := [.hset (vlanRow vlanName) [("vlanid", toString vlan)]] }, { shell := .ensureBridge :: accessPortShell port vlan }]
    checks :=
      [{ type := .redisHget, redisKey := (vlanRow vlanName).text, redisField := "vlanid", expect := toString vlan },
       { type := .ipMaster, iface := port, master := "Bridge" },
       { type := .bridgeVid, iface := port, vid := vlan }]
    rollback := [{ redis := [.del (vlanRow vlanName)] }, { shell := [.leaveVlan port vlan] }] }

def Rendering.part : Rendering → Part
  | .routed c afis addrs needles => routedPart opts port c afis addrs needles
  | .bridged bd => bridgedPart opts port bd
  | .irb bd c afis gateways needles => irbPart opts port bd c afis gateways needles
  | .isolated vlan => isolatedPart port vlan

end Parts

section Renderers
variable (opts : Options) (att : NetworkAttachment)

inductive RoutedBy (r : NetworkRouter) : Rendering → Prop where
  | read (c : L3Context) (afis needles : List String) (context : l3ContextFor r = .ok c) (families : afisFor r.prefixes = .ok afis)
      (type5 : announced (r.prefixes.take 1) = needles.map Except.ok) :
      RoutedBy r (.routed c afis ((r.prefixes.take 1).map sviAddr) needles)

inductive BridgedBy (bd : BridgeDomain) : Rendering → Prop where
  | read (numbered : bd.l2vni ≠ 0) : BridgedBy bd (.bridged bd)

inductive GatewayBy (bd : BridgeDomain) (irb : BridgeDomainIRB) (r : NetworkRouter) : Rendering → Prop where
  | read (c : L3Context) (afis needles : List String) (numbered : bd.l2vni ≠ 0) (context : l3ContextFor r = .ok c)
      (families : afisFor [irb.gatewayV4, irb.gatewayV6] = .ok afis)
      (type5 : announced [irb.gatewayV4, irb.gatewayV6] = needles.map Except.ok) :
      GatewayBy bd irb r (.irb bd c afis [irb.gatewayV4, irb.gatewayV6] needles)

theorem render_l3_iff (r : NetworkRouter) (part : Part) :
    renderL3 r att opts = .ok part ↔
      ∃ rendering port, RoutedBy r rendering ∧ opts.attachedPort att = .ok port ∧ part = rendering.part opts port := by
  rw [renderL3]
  constructor
  · intro done
    obtain ⟨c, context, done⟩ := bind_ok _ _ _ done
    obtain ⟨port, attached, done⟩ := bind_ok _ _ _ done
    obtain ⟨afis, families, done⟩ := bind_ok _ _ _ done
    obtain ⟨checks, type5, done⟩ := bind_ok _ _ _ done
    obtain ⟨needles, read, written⟩ := (type5_checks_iff c _ checks).mp (in_context_ok _ _ _ type5)
    cases done
    rw [written]
    exact ⟨_, port, .read c afis needles context (in_context_ok _ _ _ families) read, attached, rfl⟩
  · intro parts
    obtain ⟨rendering, port, reading, attached, whole⟩ := parts
    cases reading with
    | read c afis needles context families type5 =>
        have checked := (in_context_ok_iff [.lit "router ", .quoted r.name, .lit ": "] _ _).mpr
          ((type5_checks_iff c _ _).mpr ⟨needles, type5, rfl⟩)
        have kinds := (in_context_ok_iff [.lit "router ", .quoted r.name, .lit ": "] _ _).mpr families
        rw [context, attached, whole]
        change (inContext _ (afisFor r.prefixes) >>= _) = _
        rw [kinds]
        change (inContext _ (c.type5Checks (r.prefixes.take 1)) >>= _) = _
        rw [checked]
        rfl

theorem render_l2_iff (bd : BridgeDomain) (part : Part) :
    renderL2 bd att opts = .ok part ↔
      ∃ rendering port, BridgedBy bd rendering ∧ opts.attachedPort att = .ok port ∧ part = rendering.part opts port := by
  rw [renderL2, guard_ok]
  constructor
  · intro done
    obtain ⟨numbered, done⟩ := done
    obtain ⟨port, attached, done⟩ := bind_ok _ _ _ done
    cases done
    exact ⟨_, port, .read numbered, attached, rfl⟩
  · intro parts
    obtain ⟨rendering, port, reading, attached, whole⟩ := parts
    cases reading with
    | read numbered =>
        rw [attached, whole]
        exact ⟨numbered, rfl⟩

theorem render_irb_iff (bd : BridgeDomain) (irb : BridgeDomainIRB) (r : NetworkRouter) (part : Part) :
    renderIRB bd irb r att opts = .ok part ↔
      ∃ rendering port, GatewayBy bd irb r rendering ∧ opts.attachedPort att = .ok port ∧ part = rendering.part opts port := by
  rw [renderIRB, guard_ok]
  constructor
  · intro done
    obtain ⟨numbered, done⟩ := done
    obtain ⟨c, context, done⟩ := bind_ok _ _ _ done
    obtain ⟨port, attached, done⟩ := bind_ok _ _ _ done
    obtain ⟨afis, families, done⟩ := bind_ok _ _ _ done
    obtain ⟨checks, type5, done⟩ := bind_ok _ _ _ done
    obtain ⟨needles, read, written⟩ := (type5_checks_iff c _ checks).mp (in_context_ok _ _ _ type5)
    cases done
    rw [written]
    exact ⟨_, port, .read c afis needles numbered context (in_context_ok _ _ _ families) read, attached, rfl⟩
  · intro parts
    obtain ⟨rendering, port, reading, attached, whole⟩ := parts
    cases reading with
    | read c afis needles numbered context families type5 =>
        have checked := (in_context_ok_iff [.lit "bridgeDomain ", .quoted bd.name, .lit ": "] _ _).mpr
          ((type5_checks_iff c _ _).mpr ⟨needles, type5, rfl⟩)
        have kinds := (in_context_ok_iff [.lit "bridgeDomain ", .quoted bd.name, .lit ": "] _ _).mpr families
        refine ⟨numbered, ?_⟩
        rw [context, attached, whole]
        change (inContext _ (afisFor [irb.gatewayV4, irb.gatewayV6]) >>= _) = _
        rw [kinds]
        change (inContext _ (c.type5Checks [irb.gatewayV4, irb.gatewayV6]) >>= _) = _
        rw [checked]
        rfl

theorem render_vlan_iff (v : NetworkVLAN) (part : Part) :
    renderVLAN v att opts = .ok part ↔ ∃ port, opts.attachedPort att = .ok port ∧ part = (Rendering.isolated v.vlan).part opts port := by
  rw [renderVLAN]
  constructor
  · intro done
    obtain ⟨port, attached, done⟩ := bind_ok _ _ _ done
    cases done
    exact ⟨port, attached, rfl⟩
  · intro parts
    obtain ⟨port, attached, whole⟩ := parts
    rw [attached, whole]
    rfl

end Renderers

section Attachments
variable (net : Network) (opts : Options) (att : NetworkAttachment)

def Served : Prop := att.vrf ≠ "" ∨ att.vlan ≠ 0

instance : Decidable (Served att) := inferInstanceAs (Decidable (att.vrf ≠ "" ∨ att.vlan ≠ 0))

inductive RendersAs : Rendering → Prop where
  | routed (r : NetworkRouter) (rendering : Rendering) (asked : att.vrf ≠ "") (named : routerNamed net att.vrf = some r)
      (reading : RoutedBy r rendering) : RendersAs rendering
  | bridged (bd : BridgeDomain) (rendering : Rendering) (unrouted : att.vrf = "") (asked : att.vlan ≠ 0)
      (on : domainOn net att.vlan = some bd) (plain : bd.irb = none) (reading : BridgedBy bd rendering) : RendersAs rendering
  | gateway (bd : BridgeDomain) (irb : BridgeDomainIRB) (r : NetworkRouter) (rendering : Rendering) (unrouted : att.vrf = "")
      (asked : att.vlan ≠ 0) (on : domainOn net att.vlan = some bd) (shared : bd.irb = some irb)
      (named : routerNamed net irb.vrf = some r) (reading : GatewayBy bd irb r rendering) : RendersAs rendering
  | isolated (v : NetworkVLAN) (unrouted : att.vrf = "") (asked : att.vlan ≠ 0) (unshared : domainOn net att.vlan = none)
      (on : localVLANOn net att.vlan = some v) : RendersAs (.isolated v.vlan)

theorem render_attachment_iff (served : Served att) (part : Part) :
    renderAttachment net opts att = .ok part ↔
      ∃ rendering port, RendersAs net att rendering ∧ opts.attachedPort att = .ok port ∧ part = rendering.part opts port := by
  rw [renderAttachment]
  by_cases routed : att.vrf ≠ ""
  · rw [if_pos routed]
    cases named : routerNamed net att.vrf with
    | none =>
        refine ⟨fun done => ?_, fun parts => ?_⟩
        · cases done
        · obtain ⟨rendering, port, reading, _⟩ := parts
          cases reading <;> simp_all
    | some r =>
        refine Iff.trans (render_l3_iff opts att r part) ?_
        constructor
        · intro parts
          obtain ⟨rendering, port, reading, rest⟩ := parts
          exact ⟨rendering, port, .routed r rendering routed named reading, rest⟩
        · intro parts
          obtain ⟨rendering, port, reading, rest⟩ := parts
          cases reading with
          | routed other _ _ held reading =>
              rw [named] at held
              cases held
              exact ⟨rendering, port, reading, rest⟩
          | bridged | gateway | isolated => contradiction
  · rw [if_neg routed]
    have unrouted := not_not.mp routed
    have asked := served.resolve_left routed
    rw [if_pos asked]
    cases on : domainOn net att.vlan with
    | none =>
        cases own : localVLANOn net att.vlan with
        | none =>
            refine ⟨fun done => ?_, fun parts => ?_⟩
            · cases done
            · obtain ⟨rendering, port, reading, _⟩ := parts
              cases reading <;> simp_all
        | some v =>
            refine Iff.trans (render_vlan_iff opts att v part) ?_
            constructor
            · intro parts
              obtain ⟨port, rest⟩ := parts
              exact ⟨_, port, .isolated v unrouted asked on own, rest⟩
            · intro parts
              obtain ⟨rendering, port, reading, rest⟩ := parts
              cases reading with
              | routed => contradiction
              | isolated other _ _ _ held =>
                  rw [own] at held
                  cases held
                  exact ⟨port, rest⟩
              | bridged _ _ _ _ held | gateway _ _ _ _ _ _ held =>
                  rw [on] at held
                  cases held
    | some bd =>
        cases shared : bd.irb with
        | none =>
            simp only [shared]
            refine Iff.trans (render_l2_iff opts att bd part) ?_
            constructor
            · intro parts
              obtain ⟨rendering, port, reading, rest⟩ := parts
              exact ⟨rendering, port, .bridged bd rendering unrouted asked on shared reading, rest⟩
            · intro parts
              obtain ⟨rendering, port, reading, rest⟩ := parts
              cases reading with
              | routed => contradiction
              | bridged other _ _ _ held _ reading =>
                  rw [on] at held
                  cases held
                  exact ⟨rendering, port, reading, rest⟩
              | gateway other _ _ _ _ _ held with_ =>
                  rw [on] at held
                  cases held
                  rw [shared] at with_
                  cases with_
              | isolated _ _ _ held =>
                  rw [on] at held
                  cases held
        | some irb =>
            cases named : routerNamed net irb.vrf with
            | none =>
                simp only [shared, named]
                refine ⟨fun done => ?_, fun parts => ?_⟩
                · cases done
                · obtain ⟨rendering, port, reading, _⟩ := parts
                  cases reading <;> simp_all
            | some r =>
                simp only [shared, named]
                refine Iff.trans (render_irb_iff opts att bd irb r part) ?_
                constructor
                · intro parts
                  obtain ⟨rendering, port, reading, rest⟩ := parts
                  exact ⟨rendering, port, .gateway bd irb r rendering unrouted asked on shared named reading, rest⟩
                · intro parts
                  obtain ⟨rendering, port, reading, rest⟩ := parts
                  cases reading with
                  | routed => contradiction
                  | bridged other _ _ _ held plain =>
                      rw [on] at held
                      cases held
                      rw [shared] at plain
                      cases plain
                  | gateway other _ _ _ _ _ held with_ through reading =>
                      rw [on] at held
                      cases held
                      rw [shared] at with_
                      cases with_
                      rw [named] at through
                      cases through
                      exact ⟨rendering, port, reading, rest⟩
                  | isolated _ _ _ held =>
                      rw [on] at held
                      cases held

theorem unserved_iff (unserved : ¬ Served att) (part : Part) :
    renderAttachment net opts att = .ok part ↔ net.accessLists ≠ [] ∧ part = {} := by
  have unrouted : ¬ att.vrf ≠ "" := fun routed => unserved (Or.inl routed)
  have unasked : ¬ att.vlan ≠ 0 := fun asked => unserved (Or.inr asked)
  rw [renderAttachment, if_neg unrouted, if_neg unasked]
  by_cases listed : net.accessLists ≠ []
  · rw [if_pos listed, Except.ok.injEq]
    exact ⟨fun same => ⟨listed, same.symm⟩, fun parts => parts.2.symm⟩
  · rw [if_neg listed]
    refine ⟨fun done => ?_, fun parts => absurd parts.1 listed⟩
    cases done

end Attachments

end AgenticNetops.Fabricplan
