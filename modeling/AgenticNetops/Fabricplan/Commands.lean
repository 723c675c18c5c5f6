import AgenticNetops.Fabricplan.Plan

set_option autoImplicit false

/- The commands of a Network plan. Each keeps its arguments apart; `pieces` is the
   format it is printed with. A brace of the shell is written as its code. -/
namespace AgenticNetops.Fabricplan

open GoText

-- One row of CONFIG_DB, stored in Redis under TABLE|KEY.
structure ConfigRow where
  table : String
  key : String
deriving DecidableEq, Repr

def ConfigRow.text (row : ConfigRow) : String := row.table ++ "|" ++ row.key

def vlanDevice (vlan : Int) : String := "Vlan" ++ toString vlan

def vtepDevice (vtep : String) (vid : Int) : String := vtep ++ "-" ++ toString vid

def vrfRow (vrf : String) : ConfigRow := ⟨"VRF", vrf⟩

def vlanRow (vlanName : String) : ConfigRow := ⟨"VLAN", vlanName⟩

def tunnelRow (vtep : String) : ConfigRow := ⟨"VXLAN_TUNNEL", vtep⟩

def tunnelMapRow (vtep : String) (vni : Int) (vlanName : String) : ConfigRow :=
  ⟨"VXLAN_TUNNEL_MAP", vtep ++ "|map_" ++ toString vni ++ "_" ++ vlanName⟩

def nvoRow : ConfigRow := ⟨"EVPN_NVO", "nvo1"⟩

def aclTableRow (table : String) : ConfigRow := ⟨"ACL_TABLE", table⟩

def aclRuleRow (table rule : String) : ConfigRow := ⟨"ACL_RULE", table ++ "|" ++ rule⟩

-- The arguments of one `redis-cli -n 4`.
inductive RedisCommand where
  | hset (row : ConfigRow) (fields : List (String × String))
  | del (row : ConfigRow)
deriving DecidableEq, Repr

def fieldPieces (field : String × String) : Message := [.lit " ", .str field.1, .lit " '", .str field.2, .lit "'"]

def RedisCommand.pieces : RedisCommand → Message
  | .hset row fields => [.lit "hset '", .str row.text, .lit "'"] ++ fields.flatMap fieldPieces
  | .del row => [.lit "del '", .str row.text, .lit "'"]

inductive NetworkCommand where
  | ensureBridge
  | awaitVlanDevice (dev : String) (vid : Int)
  | waitMaster (iface master : String)
  | linkUp (dev : String)
  | bridgeSelf (vid : Int)
  | sviAddress (dev addr : String)
  | joinBridge (port : String)
  | dropDefaultVlan (port : String)
  | accessVlan (port : String) (vid : Int)
  | portUp (port : String)
  | leaveVlan (port : String) (vid : Int)
  | l3TunnelMap (row : ConfigRow) (vni : Int) (vlanName : String)
  | bounceTunnelMap (dev : String) (row : ConfigRow) (vni : Int) (vlanName : String)
  | awaitVtep (dev : String)
  | vtepMaster (dev : String)
  | vtepDropDefault (dev : String)
  | vtepVlan (dev : String) (vid : Int)
  | vtepUp (dev : String)
  | adoptVNI (vni : Int) (vrf : String)
  | cleanupTunnelMaps (vtep vlanName : String) (expectVNI : Int)
  | l2EVPN (onVM : Bool) (vni : Int) (rt : String)
  | vtepBaseline (vtep : String)
  | awaitACLTable (stageSAI : String)
deriving DecidableEq, Repr

def frrConfForKind (onVM : Bool) : String := if onVM then "/etc/sonic/frr/bgpd.conf" else "/etc/frr/bgpd.conf"

def l2EVPNPieces (onVM : Bool) (vni : Int) (rt : String) : Message :=
  let conf := frrConfForKind onVM
  [.lit "asn=$(vtysh -c 'show running-config' | awk '/^router bgp [0-9]+$/\x7bprint $3; exit\x7d'); ",
   .lit "[ -n \"$asn\" ] || \x7b echo 'no default bgp instance on this node'; exit 1; \x7d\n",
   .lit "vtysh -c 'conf t' -c \"router bgp $asn\" -c 'address-family l2vpn evpn' ",
   .lit (if onVM then "-c 'advertise-all-vni' " else ""), .lit "-c 'vni ", .int vni, .lit "' -c 'rd ", .str rt,
   .lit "' -c 'route-target import ", .str rt, .lit "' -c 'route-target export ", .str rt,
   .lit "' -c 'exit-vni' -c 'exit-address-family' -c 'end'\n",
   .lit "grep -qF '  vni ", .int vni, .lit "' ", .lit conf,
   .lit " || printf 'router bgp %s\\n address-family l2vpn evpn\\n",
   .lit (if onVM then "advertise-all-vni\\n" else ""), .lit "  vni ", .int vni, .lit "\\n   rd ", .str rt,
   .lit "\\n   route-target import ", .str rt, .lit "\\n   route-target export ", .str rt,
   .lit "\\n  exit-vni\\n exit-address-family\\n!\\n' \"$asn\" >> ", .lit conf]

def NetworkCommand.pieces : NetworkCommand → Message
  | .ensureBridge =>
      [.lit "ip link show Bridge >/dev/null 2>&1 || \x7b ip link add Bridge type bridge; ip link set Bridge up; \x7d"]
  | .awaitVlanDevice dev vid =>
      [.lit "for i in $(seq 1 15); do ip link show ", .str dev, .lit " >/dev/null 2>&1 && break; sleep 1; done; ",
       .lit "ip link show ", .str dev, .lit " >/dev/null 2>&1 || ip link add ", .str dev,
       .lit " link Bridge type vlan id ", .int vid]
  | .waitMaster iface master =>
      [.lit "for i in $(seq 1 30); do ip link set ", .str iface, .lit " master ", .str master,
       .lit " 2>/dev/null && exit 0; sleep 1; done; exit 1"]
  | .linkUp dev => [.lit "ip link set ", .str dev, .lit " up"]
  | .bridgeSelf vid => [.lit "bridge vlan add dev Bridge vid ", .int vid, .lit " self 2>/dev/null || true"]
  | .sviAddress dev addr =>
      [.lit "ip -br addr show ", .str dev, .lit " 2>/dev/null | grep -qF '", .str addr, .lit "' || ip addr add ",
       .str addr, .lit " dev ", .str dev]
  | .joinBridge port =>
      [.lit "ip link show ", .str port, .lit " | grep -q 'master Bridge' || \x7b ip link set ", .str port,
       .lit " nomaster 2>/dev/null || true; ip link set ", .str port, .lit " master Bridge; \x7d"]
  | .dropDefaultVlan port => [.lit "bridge vlan del dev ", .str port, .lit " vid 1 2>/dev/null || true"]
  | .accessVlan port vid =>
      [.lit "if bridge vlan show dev ", .str port, .lit " 2>/dev/null | grep -qw PVID; then bridge vlan add dev ",
       .str port, .lit " vid ", .int vid, .lit " 2>/dev/null || true; else bridge vlan add dev ", .str port,
       .lit " vid ", .int vid, .lit " pvid untagged 2>/dev/null || true; fi"]
  | .portUp port => [.lit "ip link set ", .str port, .lit " up 2>/dev/null || true"]
  | .leaveVlan port vid =>
      [.lit "bridge vlan del dev ", .str port, .lit " vid ", .int vid, .lit " 2>/dev/null || true"]
  | .l3TunnelMap row vni vlanName =>
      [.lit "redis-cli -n 4 hset '", .str row.text, .lit "' vni '", .int vni, .lit "' vlan '", .str vlanName,
       .lit "' >/dev/null 2>&1; true"]
  | .bounceTunnelMap dev row vni vlanName =>
      [.lit "for i in $(seq 1 30); do ip link show ", .str dev, .lit " >/dev/null 2>&1 && break; sleep 1; done; ",
       .lit "ip link show ", .str dev, .lit " >/dev/null 2>&1 || \x7b redis-cli -n 4 del '", .str row.text,
       .lit "' >/dev/null 2>&1; sleep 3; ", .lit "redis-cli -n 4 hset '", .str row.text, .lit "' vni '", .int vni,
       .lit "' vlan '", .str vlanName, .lit "' >/dev/null 2>&1; \x7d; true"]
  | .awaitVtep dev =>
      [.lit "for i in $(seq 1 30); do ip link show ", .str dev,
       .lit " >/dev/null 2>&1 && exit 0; sleep 1; done; exit 1"]
  | .vtepMaster dev =>
      [.lit "ip -d link show ", .str dev, .lit " 2>/dev/null | grep -q 'master Bridge' || ip link set ", .str dev,
       .lit " master Bridge 2>/dev/null || true"]
  | .vtepDropDefault dev =>
      [.lit "bridge vlan show dev ", .str dev, .lit " 2>/dev/null | grep -qE '(^| )1( |$)' && bridge vlan del dev ",
       .str dev, .lit " vid 1 2>/dev/null; true"]
  | .vtepVlan dev vid =>
      [.lit "bridge vlan show dev ", .str dev, .lit " 2>/dev/null | grep -qw ", .int vid,
       .lit " || bridge vlan add dev ", .str dev, .lit " vid ", .int vid, .lit " pvid untagged 2>/dev/null || true"]
  | .vtepUp dev =>
      [.lit "ip link show ", .str dev, .lit " 2>/dev/null | grep -q 'state UNKNOWN\\|state UP' || ip link set ",
       .str dev, .lit " up 2>/dev/null || true"]
  | .adoptVNI vni vrf =>
      [.lit "vtysh -c 'show bgp l2vpn evpn vni ", .int vni, .lit "' 2>/dev/null | grep -q 'Tenant VRF: ", .str vrf,
       .lit "' || \x7b vtysh -c 'conf t' -c 'vrf ", .str vrf, .lit "' -c 'no vni ", .int vni,
       .lit "' -c 'end'; sleep 2; vtysh -c 'conf t' -c 'vrf ", .str vrf, .lit "' -c 'vni ", .int vni,
       .lit "' -c 'end'; sleep 3; \x7d"]
  | .cleanupTunnelMaps vtep vlanName expectVNI =>
      [.lit "for k in $(redis-cli -n 4 keys 'VXLAN_TUNNEL_MAP|", .str vtep, .lit "|map_*_", .str vlanName,
       .lit "'); do case \"$k\" in *map_", .int expectVNI, .lit "_", .str vlanName,
       .lit ") ;; *) redis-cli -n 4 del \"$k\" >/dev/null ;; esac; done"]
  | .l2EVPN onVM vni rt => l2EVPNPieces onVM vni rt
  | .vtepBaseline vtep =>
      [.lit "lo4=$(ip -4 -o addr show dev Loopback0 2>/dev/null | awk '/inet /\x7bsplit($4,a,\"/\");print a[1];exit\x7d'); ",
       .lit "[ -n \"$lo4\" ] || \x7b echo 'no Loopback0 address on this node'; exit 1; \x7d; ",
       .lit "redis-cli -n 4 hset 'VXLAN_TUNNEL|", .str vtep, .lit "' src_ip \"$lo4\" >/dev/null; ",
       .lit "redis-cli -n 4 hset 'EVPN_NVO|nvo1' source_vtep '", .str vtep, .lit "' >/dev/null"]
  | .awaitACLTable stageSAI =>
      [.lit "for i in $(seq 1 30); do found=no; for k in $(redis-cli -n 1 --raw keys ",
       .lit "'ASIC_STATE:SAI_OBJECT_TYPE_ACL_TABLE:*' 2>/dev/null); do case \"$k\" in *GROUP*|*MEMBER*) continue;; esac; ",
       .lit "[ \"$(redis-cli -n 1 --raw hget \"$k\" SAI_ACL_TABLE_ATTR_ACL_STAGE 2>/dev/null)\" = ",
       .quoted stageSAI,
       .lit " ] && \x7b found=yes; break; \x7d; done; [ \"$found\" = yes ] && break; sleep 1; done; true"]

abbrev NetworkOp := Op RedisCommand NetworkCommand
abbrev NetworkNodePlan := NodePlan RedisCommand NetworkCommand
abbrev NetworkPlan := Plan RedisCommand NetworkCommand

section Rows

theorem before_pipe (first rest : List Char) (free : '|' ∉ first) :
    (first ++ '|' :: rest).takeWhile (fun c => c ≠ '|') = first := by
  have kept : ∀ c ∈ first, (decide (c ≠ '|')) = true := by
    intro c inside
    exact decide_eq_true fun pipe => free (by rwa [pipe] at inside)
  rw [List.takeWhile_append_of_pos kept]
  simp

-- No CONFIG_DB table has a '|' in its name, so a Redis key stands for one row.
theorem row_text_injective (row other : ConfigRow) (named : '|' ∉ row.table.toList) (named' : '|' ∉ other.table.toList)
    (same : row.text = other.text) : row = other := by
  have chars := congrArg String.toList same
  simp only [ConfigRow.text, String.toList_append, List.append_assoc] at chars
  have tables : row.table.toList = other.table.toList := by
    rw [← before_pipe row.table.toList row.key.toList named, ← before_pipe other.table.toList other.key.toList named']
    exact congrArg (List.takeWhile fun c => c ≠ '|') chars
  rw [tables] at chars
  have keys : row.key.toList = other.key.toList := (List.cons.inj (List.append_cancel_left chars)).2
  cases row
  cases other
  simp only [ConfigRow.mk.injEq]
  exact ⟨String.toList_inj.mp tables, String.toList_inj.mp keys⟩

end Rows

end AgenticNetops.Fabricplan
