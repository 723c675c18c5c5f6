import AgenticNetops.Lib.Fallible
import AgenticNetops.Fabricplan.Network
import Std.Data.String.ToInt

set_option autoImplicit false

/- The VLAN ids that a Network plan writes and checks. Each comes from one attachment:
   the declared VLAN of its bridge domain or local VLAN, or the L3VLAN of its router. -/
namespace AgenticNetops.Fabricplan

open GoText Kubenet Fallible

def idOf (text : String) : List Int := text.toInt?.toList

-- The id in the name of a VLAN device.
def vlanOfName (name : String) : List Int := if hasPrefix name "Vlan" then idOf (trimPrefix name "Vlan") else []

def RedisCommand.vlans : RedisCommand → List Int
  | .hset _ fields => fields.flatMap fun field =>
      if field.1 = "vlanid" then idOf field.2 else if field.1 = "vlan" then vlanOfName field.2 else []
  | .del _ => []

def NetworkCommand.vlans : NetworkCommand → List Int
  | .awaitVlanDevice _ vid => [vid]
  | .bridgeSelf vid => [vid]
  | .accessVlan _ vid => [vid]
  | .leaveVlan _ vid => [vid]
  | .vtepVlan _ vid => [vid]
  | .l3TunnelMap _ _ vlanName => vlanOfName vlanName
  | .bounceTunnelMap _ _ _ vlanName => vlanOfName vlanName
  | .cleanupTunnelMaps _ vlanName _ => vlanOfName vlanName
  | _ => []

def opVLANs (op : NetworkOp) : List Int := op.redis.flatMap RedisCommand.vlans ++ op.shell.flatMap NetworkCommand.vlans

def Check.vlans (check : Check) : List Int :=
  (if check.type = .bridgeVid then [check.vid] else []) ++ if check.redisField = "vlanid" then idOf check.expect else []

def Part.vlans (part : Part) : List Int := part.ops.flatMap opVLANs ++ part.checks.flatMap Check.vlans

section Names

@[simp] theorem id_of_number (vid : Int) : idOf vid.repr = [vid] := by
  rw [idOf, Int.toInt?_repr]
  rfl

@[simp] theorem vlan_of_device (vid : Int) : vlanOfName (vlanDevice vid) = [vid] := by
  have front : hasPrefix (vlanDevice vid) "Vlan" = true := by
    rw [hasPrefix, vlanDevice, String.toList_append, List.isPrefixOf_iff_prefix]
    exact List.prefix_append _ _
  have cut : trimPrefix (vlanDevice vid) "Vlan" = toString vid := by
    rw [trimPrefix, if_pos front, vlanDevice, String.toList_append, List.drop_left, String.ofList_toList]
  rw [vlanOfName, if_pos front, cut]
  exact id_of_number vid

end Names

section Commands

@[simp] theorem svi_shell_vlans (dev vrf : String) (vid : Int) (addrs : List String) :
    (sviShell dev vid vrf addrs).flatMap NetworkCommand.vlans = [vid, vid] := by
  have addressed (kept : List String) : (kept.map (NetworkCommand.sviAddress dev ·)).flatMap NetworkCommand.vlans = [] := by
    induction kept with
    | nil => rfl
    | cons addr rest ih => rw [List.map_cons, List.flatMap_cons, ih]; rfl
  rw [sviShell, List.flatMap_append, addressed]
  rfl

@[simp] theorem access_port_vlans (port : String) (vid : Int) : (accessPortShell port vid).flatMap NetworkCommand.vlans = [vid] := rfl

@[simp] theorem vtep_shell_vlans (vtep : String) (vid vni : Int) :
    (vtepShell vtep vid vni (vlanDevice vid)).flatMap NetworkCommand.vlans = [vid, vid] := by
  simp [vtepShell, NetworkCommand.vlans]

@[simp] theorem baseline_vlans (opts : Options) : (vtepBaselineForKind opts).flatMap opVLANs = [] := by
  rw [vtepBaselineForKind]
  split
  · rfl
  · rfl

@[simp] theorem l2_overlay_vlans (bd : BridgeDomain) (opts : Options) :
    (l2Overlay bd (vlanDevice bd.vlan) opts).flatMap RedisCommand.vlans = [bd.vlan, bd.vlan] := by
  simp [l2Overlay, RedisCommand.vlans]

@[simp] theorem l2_evpn_vlans (bd : BridgeDomain) (opts : Options) : (l2EVPNOp bd opts).flatMap opVLANs = [] := by
  rw [l2EVPNOp]
  split
  · rfl
  · rfl

-- The four checks of a bridge domain that carry an id carry its own.
theorem l2_checks_vlans (bd : BridgeDomain) (port : String) (opts : Options) :
    (l2Checks bd (vlanDevice bd.vlan) port opts).flatMap Check.vlans = [bd.vlan, bd.vlan, bd.vlan] := by
  rw [l2Checks]
  split
  · simp [Check.vlans]
  · simp [Check.vlans]

end Commands

section Routed

theorem l3_context (r : NetworkRouter) (c : L3Context) (made : l3ContextFor r = .ok c) :
    r.l3vni ≠ 0 ∧ l3VLANForVNI r.l3vni = .ok c.l3vlan ∧ c.l3vlanDev = vlanDevice c.l3vlan := by
  rw [l3ContextFor, guard_ok] at made
  obtain ⟨declared, made⟩ := made
  obtain ⟨vrfName, _, made⟩ := bind_ok _ _ _ made
  obtain ⟨l3vlan, derived, made⟩ := bind_ok _ _ _ made
  cases made
  exact ⟨declared, derived, rfl⟩

variable (c : L3Context) (opts : Options)

theorem l3_checks_vlans : (c.l3Checks opts).flatMap Check.vlans = [] := by
  simp [L3Context.l3Checks, Check.vlans]

theorem type5_checks_vlans (prefixes : List String) (checks : List Check) (made : c.type5Checks prefixes = .ok checks) :
    checks.flatMap Check.vlans = [] := by
  rw [L3Context.type5Checks] at made
  generalize prefixes.filter (· ≠ "") = kept at made
  induction kept generalizing checks with
  | nil =>
      cases made
      rfl
  | cons pfx rest ih =>
      rw [List.mapM_cons] at made
      obtain ⟨check, here, made⟩ := bind_ok _ _ _ made
      obtain ⟨later, behind, made⟩ := bind_ok _ _ _ made
      cases made
      rw [L3Context.type5Check] at here
      obtain ⟨needle, _, here⟩ := bind_ok _ _ _ here
      cases here
      rw [List.flatMap_cons, ih later behind]
      rfl

theorem in_context_ok {α : Type} (context : Message) (result : Except Error α) (value : α)
    (made : inContext context result = .ok value) : result = .ok value := by
  cases result with
  | error message => cases made
  | ok found => exact made

theorem context_free_vlans (context : Message) (prefixes : List String) (checks : List Check)
    (made : inContext context (c.type5Checks prefixes) = .ok checks) : checks.flatMap Check.vlans = [] :=
  type5_checks_vlans c prefixes checks (in_context_ok context _ checks made)

end Routed

section Renderers
variable (opts : Options) (att : NetworkAttachment) (part : Part)

theorem l3_part_vlans (r : NetworkRouter) (made : renderL3 r att opts = .ok part) :
    ∃ l3vlan, l3VLANForVNI r.l3vni = .ok l3vlan ∧ ∀ vid, vid ∈ part.vlans ↔ vid = l3vlan := by
  rw [renderL3] at made
  obtain ⟨c, context, made⟩ := bind_ok _ _ _ made
  obtain ⟨port, _, made⟩ := bind_ok _ _ _ made
  obtain ⟨afis, _, made⟩ := bind_ok _ _ _ made
  obtain ⟨type5, checked, made⟩ := bind_ok _ _ _ made
  cases made
  obtain ⟨_, derived, dev⟩ := l3_context r c context
  refine ⟨c.l3vlan, derived, ?_⟩
  intro vid
  have type5Free := context_free_vlans c _ _ type5 checked
  simp [Part.vlans, opVLANs, L3Context.vrfOp, L3Context.l3OverlayRedis, L3Context.l3TunnelMapShell, L3Context.frrOps,
    L3Context.evpnVNIAdoptionShell, RedisCommand.vlans, NetworkCommand.vlans, dev, l3_checks_vlans, type5Free, Check.vlans]
  -- The addresses of the SVI are checked without an id.
  intro check listed carried
  obtain ⟨pfx, _, rfl⟩ := List.mem_map.mp (List.mem_of_mem_take listed)
  simp at carried

theorem l2_part_vlans (bd : BridgeDomain) (made : renderL2 bd att opts = .ok part) (vid : Int) : vid ∈ part.vlans ↔ vid = bd.vlan := by
  rw [renderL2, guard_ok] at made
  obtain ⟨_, made⟩ := made
  obtain ⟨port, _, made⟩ := bind_ok _ _ _ made
  cases made
  simp [Part.vlans, opVLANs, NetworkCommand.vlans, l2_checks_vlans]

theorem vlan_part_vlans (v : NetworkVLAN) (made : renderVLAN v att opts = .ok part) (vid : Int) : vid ∈ part.vlans ↔ vid = v.vlan := by
  rw [renderVLAN] at made
  obtain ⟨port, _, made⟩ := bind_ok _ _ _ made
  cases made
  simp [Part.vlans, opVLANs, NetworkCommand.vlans, RedisCommand.vlans, Check.vlans]

theorem irb_part_vlans (bd : BridgeDomain) (irb : BridgeDomainIRB) (r : NetworkRouter) (made : renderIRB bd irb r att opts = .ok part) :
    ∃ l3vlan, l3VLANForVNI r.l3vni = .ok l3vlan ∧ ∀ vid, vid ∈ part.vlans ↔ vid = bd.vlan ∨ vid = l3vlan := by
  rw [renderIRB, guard_ok] at made
  obtain ⟨_, made⟩ := made
  obtain ⟨c, context, made⟩ := bind_ok _ _ _ made
  obtain ⟨port, _, made⟩ := bind_ok _ _ _ made
  obtain ⟨afis, _, made⟩ := bind_ok _ _ _ made
  obtain ⟨type5, checked, made⟩ := bind_ok _ _ _ made
  cases made
  obtain ⟨_, derived, dev⟩ := l3_context r c context
  refine ⟨c.l3vlan, derived, ?_⟩
  intro vid
  have type5Free := context_free_vlans c _ _ type5 checked
  simp [Part.vlans, opVLANs, L3Context.vrfOp, L3Context.l3OverlayRedis, L3Context.l3TunnelMapShell, L3Context.frrOps,
    L3Context.evpnVNIAdoptionShell, RedisCommand.vlans, NetworkCommand.vlans, dev, l3_checks_vlans, l2_checks_vlans, type5Free, Check.vlans]
  omega

end Renderers

section Lists

theorem row_ops_vlans (row : ConfigRow) (fields : List RowField) (other : ∀ field ∈ fields, field.1 ≠ "vlanid" ∧ field.1 ≠ "vlan") :
    opVLANs (fieldOps row fields) = [] := by
  have none_read : (fields.map fun field => RedisCommand.hset row [field]).flatMap RedisCommand.vlans = [] := by
    rw [List.flatMap_eq_nil_iff]
    intro command member
    obtain ⟨field, listed, rfl⟩ := List.mem_map.mp member
    obtain ⟨number, name⟩ := other field listed
    simp [RedisCommand.vlans, number, name]
  rw [opVLANs, fieldOps, none_read]
  rfl

theorem row_checks_vlans (row : ConfigRow) (fields : List RowField) (other : ∀ field ∈ fields, field.1 ≠ "vlanid" ∧ field.1 ≠ "vlan") :
    (fieldChecks row fields).flatMap Check.vlans = [] := by
  rw [List.flatMap_eq_nil_iff]
  intro check member
  rw [fieldChecks, List.mem_cons] at member
  cases member with
  | inl exists_ => rw [exists_]; rfl
  | inr value =>
      obtain ⟨field, listed, rfl⟩ := List.mem_map.mp value
      simp [Check.vlans, (other field listed).1]

def NoVLANField (fields : List RowField) : Prop := ∀ field ∈ fields, field.1 ≠ "vlanid" ∧ field.1 ≠ "vlan"

theorem no_vlan_append (front back : List RowField) (left : NoVLANField front) (right : NoVLANField back) : NoVLANField (front ++ back) := by
  intro field member
  cases List.mem_append.mp member with
  | inl first => exact left field first
  | inr second => exact right field second

theorem declared_other (name value : String) (other : name ≠ "vlanid" ∧ name ≠ "vlan") : NoVLANField (declared name value) := by
  intro field member
  rw [declared] at member
  split at member
  · rw [List.mem_singleton.mp member]
    exact other
  · cases member

theorem port_field_other (single range value : String) (one : single ≠ "vlanid" ∧ single ≠ "vlan") (two : range ≠ "vlanid" ∧ range ≠ "vlan") :
    NoVLANField (portField single range value) := by
  intro field member
  rw [portField] at member
  split at member
  · cases member
  · split at member
    · rw [List.mem_singleton.mp member]
      exact two
    · rw [List.mem_singleton.mp member]
      exact one

theorem verdict_fields_other (priority : Int) (action : String) : NoVLANField (verdictFields priority action) := by
  intro field member
  simp only [verdictFields, List.mem_cons, List.not_mem_nil, or_false] at member
  cases member with
  | inl first =>
      rw [first]
      exact ⟨(by decide : "PRIORITY" ≠ "vlanid"), (by decide : "PRIORITY" ≠ "vlan")⟩
  | inr second =>
      rw [second]
      exact ⟨(by decide : "PACKET_ACTION" ≠ "vlanid"), (by decide : "PACKET_ACTION" ≠ "vlan")⟩

theorem match_fields_other (al : AccessList) (r : ACLRule) : NoVLANField (matchFields al r) := by
  have family (v6 v4 : String) (six : v6 ≠ "vlanid" ∧ v6 ≠ "vlan") (four : v4 ≠ "vlanid" ∧ v4 ≠ "vlan") (value : String) :
      NoVLANField (declared (if equalFold al.type "l3v6" = true then v6 else v4) value) := by
    split
    · exact declared_other v6 value six
    · exact declared_other v4 value four
  exact no_vlan_append _ _
    (no_vlan_append _ _
      (no_vlan_append _ _
        (no_vlan_append _ _ (declared_other _ _ (by decide)) (family _ _ (by decide) (by decide) _))
        (family _ _ (by decide) (by decide) _))
      (port_field_other _ _ _ (by decide) (by decide)))
    (port_field_other _ _ _ (by decide) (by decide))

-- Neither the rows of an access list nor its checks carry an id.
theorem rule_part_vlans (al : AccessList) (table : String) (r : ACLRule) : (rulePart al table r).vlans = [] := by
  have fields := no_vlan_append _ _ (verdict_fields_other r.priority r.action) (match_fields_other al r)
  have described := no_vlan_append _ _ fields (declared_other "RULE_DESCRIPTION" r.description (by decide))
  rw [Part.vlans, rulePart, row_checks_vlans _ _ fields, List.flatMap_singleton, row_ops_vlans _ _ described]
  rfl

theorem default_part_vlans (al : AccessList) (table : String) : (defaultPart al table).vlans = [] := by
  have fields := verdict_fields_other 1 al.defaultAction
  rw [defaultPart]
  split
  · rfl
  · rw [Part.vlans, row_checks_vlans _ _ fields, List.flatMap_singleton, row_ops_vlans _ _ fields]
    rfl

theorem table_checks_vlans (al : AccessList) (table portsCSV : String) (opts : Options) :
    (tableChecks al table portsCSV opts).flatMap Check.vlans = [] := by
  have entries : (if minEntries al opts = 0 then []
      else [({ type := .redisKeysMatch, redisDB := "1", redisKey := "ASIC_STATE:SAI_OBJECT_TYPE_ACL_ENTRY:*", minCount := minEntries al opts } : Check)]).flatMap
        Check.vlans = [] := by
    split
    · rfl
    · rfl
  rw [tableChecks, List.flatMap_append, entries]
  rfl

theorem acl_part_vlans (al : AccessList) (ports : List String) (serviceID tenant : String) (opts : Options) (part : Part)
    (made : renderACL al ports serviceID tenant opts = .ok part) : part.vlans = [] := by
  rw [renderACL] at made
  split at made
  · cases made
    rfl
  · obtain ⟨table, _, made⟩ := bind_ok _ _ _ made
    cases made
    have rules := rule_part_vlans al table
    have fallback := default_part_vlans al table
    simp only [Part.vlans, List.append_eq_nil_iff] at rules fallback ⊢
    have row : opVLANs (fieldOps (aclTableRow table) [("stage", toUpper al.stage), ("type", toUpper al.type), ("ports@", join ports ","),
        ("policy_desc", tenant ++ "/" ++ serviceID)]) = [] := by
      apply row_ops_vlans
      simp
    have wait : (if opts.onVM then [({ shell := [.awaitACLTable (stageSAI al)] } : NetworkOp)] else []).flatMap opVLANs = [] := by
      split
      · rfl
      · rfl
    have ruleOps : ((al.rules.map (rulePart al table)).flatMap Part.ops).flatMap opVLANs = [] := by
      rw [List.flatMap_eq_nil_iff]
      intro op member
      obtain ⟨part, listed, inside⟩ := List.mem_flatMap.mp member
      obtain ⟨r, _, rfl⟩ := List.mem_map.mp listed
      exact List.flatMap_eq_nil_iff.mp (rules r).1 op inside
    have ruleChecks : ((al.rules.map (rulePart al table)).flatMap Part.checks).flatMap Check.vlans = [] := by
      rw [List.flatMap_eq_nil_iff]
      intro check member
      obtain ⟨part, listed, inside⟩ := List.mem_flatMap.mp member
      obtain ⟨r, _, rfl⟩ := List.mem_map.mp listed
      exact List.flatMap_eq_nil_iff.mp (rules r).2 check inside
    constructor
    · rw [List.cons_append, List.cons_append, List.flatMap_cons, List.flatMap_append, List.flatMap_append, row, ruleOps, fallback.1, wait]
      rfl
    · rw [List.flatMap_append, List.flatMap_append, ruleChecks, fallback.2, table_checks_vlans]
      rfl

end Lists

end AgenticNetops.Fabricplan
