import AgenticNetops.Lib.NetIP
import AgenticNetops.Lib.IPNetwork
import AgenticNetops.Kubenet.Network
import AgenticNetops.Migration.Acl
import AgenticNetops.Fabricplan.Plan

set_option autoImplicit false

/- pkg/fabricplan/plan.go: what the renderer derives from declared values before
   it renders anything: the L3VLAN of an L3VNI, device names, route targets,
   gateway addresses, ACL words. -/
namespace AgenticNetops.Fabricplan

open GoText Kubenet Migration

structure Options where
  ports : PortMapper
  nodeKind : String := ""
  bgpASN : String := ""
  vtepName : String := ""
deriving Repr

def Options.onVM (opts : Options) : Bool := opts.nodeKind = "sonic-vm"

def l3VLANBase : Int := 4000

def l3VLANBandSize : Int := 94

def evpnVNIMin : Int := 10000

def evpnVNIMax : Int := 20000

-- `%` truncates in Go, hence the band width added before the second remainder.
def l3VLANForVNI (vni : Int) : Except Error Int :=
  if vni < evpnVNIMin ∨ vni > evpnVNIMax then
    .error [.lit "l3vni ", .int vni, .lit " outside kuid evpn-vni range ", .int evpnVNIMin, .lit "-", .int evpnVNIMax,
      .lit "; cannot derive an L3VLAN"]
  else
    let slot := (((vni - evpnVNIMin - 1).tmod l3VLANBandSize) + l3VLANBandSize).tmod l3VLANBandSize
    .ok (l3VLANBase + 1 + slot)

theorem l3_vlan_for_vni (vni : Int) (low : evpnVNIMin ≤ vni) (high : vni ≤ evpnVNIMax) :
    l3VLANForVNI vni = .ok (4001 + (vni - 10001) % 94) := by
  have inside : ¬ (vni < evpnVNIMin ∨ vni > evpnVNIMax) := by omega
  unfold l3VLANForVNI
  rw [if_neg inside]
  simp only [evpnVNIMin, evpnVNIMax, l3VLANBandSize, l3VLANBase] at low high ⊢
  congr 1
  rw [Int.tmod_eq_emod_of_nonneg (by
    have lower : -94 < (vni - 10000 - 1).tmod 94 := Int.lt_tmod_of_pos _ (by decide)
    omega)]
  by_cases first : vni = 10000
  · subst first
    decide
  · rw [Int.tmod_eq_emod_of_nonneg (by omega)]
    omega

theorem l3_vlan_ranged (vni vlan : Int) (derived : l3VLANForVNI vni = .ok vlan) :
    evpnVNIMin ≤ vni ∧ vni ≤ evpnVNIMax ∧ vlan = 4001 + (vni - 10001) % 94 := by
  by_cases inside : evpnVNIMin ≤ vni ∧ vni ≤ evpnVNIMax
  · rw [l3_vlan_for_vni vni inside.1 inside.2] at derived
    exact ⟨inside.1, inside.2, (Except.ok.inj derived).symm⟩
  · have outside : vni < evpnVNIMin ∨ vni > evpnVNIMax := by omega
    unfold l3VLANForVNI at derived
    rw [if_pos outside] at derived
    cases derived

-- The band no declared VLAN reaches.
theorem l3_vlan_in_band (vni vlan : Int) (derived : l3VLANForVNI vni = .ok vlan) : l3VLANBase < vlan ∧ vlan ≤ 4094 := by
  obtain ⟨_, _, value⟩ := l3_vlan_ranged vni vlan derived
  simp only [l3VLANBase]
  omega

-- Two L3VNIs of the range fold into one L3VLAN exactly when they differ by a multiple of the band.
theorem l3_vlan_same_iff (vni other : Int) (low : evpnVNIMin ≤ vni) (high : vni ≤ evpnVNIMax)
    (low' : evpnVNIMin ≤ other) (high' : other ≤ evpnVNIMax) :
    l3VLANForVNI vni = l3VLANForVNI other ↔ vni % l3VLANBandSize = other % l3VLANBandSize := by
  rw [l3_vlan_for_vni vni low high, l3_vlan_for_vni other low' high']
  simp only [Except.ok.injEq, l3VLANBandSize]
  omega

-- rest[:4] is cut on bytes; it equals "vrf-" only where it is cut on characters too.
def stripVRF (name : List Char) : List Char :=
  if name.length > 4 ∧ (name.take 4).map toLowerAscii = "vrf-".toList then name.drop 4 else name

def deviceVRFName (intentName : String) : Except Error String :=
  if intentName = "" then .error [.lit "empty vrf name"]
  else
    let rest := sanitize (stripVRF intentName.toList)
    if rest = [] then .error [.lit "vrf name ", .quoted intentName, .lit " derives to no usable characters"]
    else .ok ("Vrf-" ++ String.ofList (rest.take 10))

example : deviceVRFName "vrf-bbae798efc224f7" = .ok "Vrf-bbae798efc" := by decide

-- The characters of a router name that its device VRF name shows.
def vrfStem (name : String) : List Char := (sanitize (stripVRF name.toList)).take 10

theorem device_vrf_name (name vrf : String) (derived : deviceVRFName name = .ok vrf) :
    vrf = "Vrf-" ++ String.ofList (vrfStem name) ∧ name ≠ "" ∧ sanitize (stripVRF name.toList) ≠ [] := by
  unfold deviceVRFName at derived
  by_cases unnamed : name = ""
  · rw [if_pos unnamed] at derived
    cases derived
  · rw [if_neg unnamed] at derived
    by_cases nothing : sanitize (stripVRF name.toList) = []
    · simp only [nothing, if_pos] at derived
      cases derived
    · simp only [nothing, if_neg, not_false_eq_true] at derived
      exact ⟨(Except.ok.inj derived).symm, unnamed, nothing⟩

theorem device_vrf_name_same_iff (name other vrf vrf' : String) (derived : deviceVRFName name = .ok vrf)
    (derived' : deviceVRFName other = .ok vrf') : vrf = vrf' ↔ vrfStem name = vrfStem other := by
  rw [(device_vrf_name name vrf derived).1, (device_vrf_name other vrf' derived').1]
  constructor
  · intro same
    have chars := congrArg String.toList same
    rw [String.toList_append, String.toList_append] at chars
    simpa using List.append_cancel_left chars
  · intro same
    rw [same]

def firstRT (rts : Option RouteTargets) (fallbackRD : String) : String :=
  match rts with
  | none => fallbackRD
  | some targets =>
      match targets.exportTargets, targets.importTargets with
      | rt :: _, _ => rt
      | [], rt :: _ => rt
      | [], [] => fallbackRD

def rtRD (rd rt : String) : String := if rd ≠ "" then rd else rt

def asnOr (asn default : String) : String := if asn ≠ "" then asn else default

-- First usable host of a dotted prefix; any other text stays as it is.
def sviAddr (pfx : String) : String :=
  match split pfx '/' with
  | [address, bits] =>
      match split address '.' with
      | [a, b, c, _] => join [a, b, c, "1"] "." ++ "/" ++ bits
      | _ => pfx
  | _ => pfx

-- netip.Prefix.Masked and Addr.String, on the fields of an address of `width` bits each.
def maskFields (width : Nat) : Nat → List Nat → List Nat
  | _, [] => []
  | bits, field :: rest =>
      let kept := min bits width
      (field / 2 ^ (width - kept) * 2 ^ (width - kept)) :: maskFields width (bits - kept) rest

def addrText : NetIP.Addr → String
  | .v4 octets => NetIP.octetsText octets
  | .v6 fields _ =>
      match fields with
      | [0, 0, 0, 0, 0, 65535, high, low] =>
          "::ffff:" ++ NetIP.octetsText [high / 256, high % 256, low / 256, low % 256]
      | _ => IPNetwork.fieldsText fields

def maskedAddr (pfx : NetIP.Prefix) : NetIP.Addr :=
  match pfx.addr with
  | .v4 octets => .v4 (maskFields 8 pfx.bits octets)
  | .v6 fields zone => .v6 (maskFields 16 pfx.bits fields) zone

-- The network that a prefix text stands for.
def networkOf (text : String) : Option NetIP.Prefix :=
  (NetIP.parsePrefix text).toOption.map fun pfx => ⟨maskedAddr pfx, pfx.bits⟩

def type5RouteNeedle (pfx : String) : Except Error String := do
  let p ← NetIP.parsePrefix pfx
  return "[5]:[0]:[" ++ toString p.bits ++ "]:[" ++ addrText (maskedAddr p) ++ "]"

example : (type5RouteNeedle "10.1.2.3/20").toOption = some "[5]:[0]:[20]:[10.1.0.0]" := by decide

structure Families where
  v4 : Bool := false
  v6 : Bool := false

def prefixFamilies (seen : Families) : List String → Except Error Families
  | [] => .ok seen
  | pfx :: rest =>
      if pfx = "" then prefixFamilies seen rest
      else
        match NetIP.parsePrefix pfx with
        | .error message => .error ([.lit "invalid prefix ", .quoted pfx, .lit ": "] ++ message)
        | .ok ⟨.v6 _ _, _⟩ => prefixFamilies { seen with v6 := true } rest
        | .ok ⟨.v4 _, _⟩ => prefixFamilies { seen with v4 := true } rest

def afisFor (prefixes : List String) : Except Error (List String) := do
  let seen ← prefixFamilies {} prefixes
  let afis := (if seen.v4 then ["ipv4 unicast"] else []) ++ (if seen.v6 then ["ipv6 unicast"] else [])
  return if afis = [] then ["ipv4 unicast"] else afis

-- strings.ToUpper as the ASCII vocabulary of stages and table types needs it.
def toUpper (s : String) : String := String.ofList (s.toList.map toUpperAscii)

/- The folding of strings.EqualFold onto ASCII letters: beside the capitals, the long s
   and the Kelvin sign. -/
def foldToAscii (c : Char) : Char :=
  if c.toNat = 0x17F then 's' else if c.toNat = 0x212A then 'k' else toLowerAscii c

-- strings.EqualFold against a word in lower case.
def equalFold (s word : String) : Bool := s.toList.map foldToAscii = word.toList

def actionToPacket (action : String) : String :=
  if toLower action = "permit" ∨ toLower action = "allow" ∨ toLower action = "forward" then "FORWARD" else "DROP"

def protocolNumbers : GoMap String :=
  [("tcp", "6"), ("udp", "17"), ("icmp", "1"), ("igmp", "2"), ("rsvp", "46"), ("gre", "47"), ("ah", "51"),
   ("pim", "103"), ("l2tp", "115"), ("any", ""), ("", "")]

-- Any other protocol is taken for a number and passed through.
def protoToNumber (protocol : String) : String := (protocolNumbers.get? (toLower protocol)).getD protocol

def dedupStrings (names : List String) : List String := sortStrings names.dedup

end AgenticNetops.Fabricplan
