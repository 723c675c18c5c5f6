import AgenticNetops.Lib.Causes
import AgenticNetops.Lib.NetIP
import Mathlib.Algebra.Group.Int.Defs

set_option autoImplicit false

/- pkg/migration/constructs.go: the construct vocabulary, the words an access list is
   written in, and the causes that refuse one. -/
namespace AgenticNetops.Migration

open GoText Causes

-- A ServiceType is its text; these are the constructs' and the legacy literals.
abbrev ServiceType := String

def serviceVLAN : ServiceType := "vlan"
def serviceMACVRF : ServiceType := "mac-vrf"
def serviceIPVRF : ServiceType := "ip-vrf"
def serviceACL : ServiceType := "acl"

def legacyVPLS : ServiceType := "VPLS"
def legacyVPWS : ServiceType := "VPWS"
def legacyL3VPN : ServiceType := "L3VPN"
def legacyIRB : ServiceType := "L2L3-IRB"

def constructs : List ServiceType := [serviceVLAN, serviceMACVRF, serviceIPVRF, serviceACL]

def constructList : String := join constructs ", "

def isTypeSeparator (c : Char) : Bool := c = '-' || c = '_' || c = ' ' || c = '.' || c = '+'

-- Only looked up among ASCII keys, so the other runes may stay as they are.
def typeKey (t : ServiceType) : String := String.ofList ((toLower t).toList.filter fun c => !isTypeSeparator c)

def canonicalTypes : GoMap ServiceType :=
  [("vlan", serviceVLAN), ("macvrf", serviceMACVRF), ("l2vni", serviceMACVRF), ("ipvrf", serviceIPVRF),
    ("l3vni", serviceIPVRF), ("acl", serviceACL), ("accesslist", serviceACL), ("vpls", serviceMACVRF),
    ("vpws", serviceMACVRF), ("eline", serviceMACVRF), ("l3vpn", serviceIPVRF), ("l2l3irb", serviceMACVRF),
    ("irb", serviceMACVRF)]

def legacyTypes : GoMap ServiceType :=
  [("vpls", legacyVPLS), ("vpws", legacyVPWS), ("eline", legacyVPWS), ("l3vpn", legacyL3VPN), ("l2l3irb", legacyIRB),
    ("irb", legacyIRB)]

structure AnycastGateway where
  ipVRF : String := ""
  gatewayV4 : String := ""
  gatewayV6 : String := ""
deriving DecidableEq, Repr

structure ACLRule where
  name : String := ""
  priority : Int := 0
  action : String := ""
  protocol : String := ""
  sourcePrefix : String := ""
  destinationPrefix : String := ""
  sourcePort : String := ""
  destinationPort : String := ""
  description : String := ""
deriving DecidableEq, Repr

structure ACL where
  name : String := ""
  stage : String := ""
  type : String := ""
  rules : List ACLRule := []
  defaultAction : String := ""
  bindTo : String := ""
deriving DecidableEq, Repr

def aclStages : GoMap String :=
  [("ingress", "ingress"), ("in", "ingress"), ("inbound", "ingress"),
    ("egress", "egress"), ("out", "egress"), ("outbound", "egress")]

def aclTypes : GoMap String :=
  [("l3", "l3"), ("ipv4", "l3"), ("ip", "l3"), ("l3v6", "l3v6"), ("ipv6", "l3v6"), ("l3ipv6", "l3v6")]

def aclActions : GoMap String :=
  [("permit", "permit"), ("allow", "permit"), ("forward", "permit"), ("accept", "permit"),
    ("deny", "deny"), ("drop", "deny"), ("block", "deny"), ("discard", "deny")]

def aclProtocols : GoMap String :=
  [("any", "any"), ("", "any"), ("tcp", "tcp"), ("udp", "udp"), ("icmp", "icmp"), ("igmp", "igmp"), ("rsvp", "rsvp"),
    ("gre", "gre"), ("ah", "ah"), ("pim", "pim"), ("l2tp", "l2tp")]

-- unicode.IsSpace
def isUnicodeSpace (c : Char) : Bool :=
  isSpace c || c.toNat = 0x1680 || (0x2000 ≤ c.toNat && c.toNat ≤ 0x200A) || c.toNat = 0x2028 || c.toNat = 0x2029 ||
    c.toNat = 0x202F || c.toNat = 0x205F || c.toNat = 0x3000

def trimUnicodeSpace (s : String) : String := String.ofList (trimChars isUnicodeSpace s.toList)

def foldWord (s : String) : String := toLower (trimUnicodeSpace s)

-- The canonical spelling of a word of the vocabulary, and any other word as it is.
def canonicalWord (words : GoMap String) (key word : String) : String := (words.get? key).getD word

def ACLRule.canonicalize (r : ACLRule) : ACLRule :=
  { r with
    action := canonicalWord aclActions (foldWord r.action) r.action
    protocol := canonicalWord aclProtocols (foldWord r.protocol) r.protocol }

def ACL.canonicalize (a : ACL) : ACL :=
  { a with
    stage := canonicalWord aclStages (foldWord a.stage) a.stage
    type := canonicalWord aclTypes (typeKey a.type) a.type
    defaultAction := if a.defaultAction = "" then "" else canonicalWord aclActions (foldWord a.defaultAction) a.defaultAction
    rules := a.rules.map ACLRule.canonicalize }

section Canonical

theorem canonical_word_known (words : GoMap String) (key word spelled : String) (found : words.get? key = some spelled) :
    canonicalWord words key word = spelled := by simp only [canonicalWord, found, Option.getD_some]

theorem canonical_word_unknown (words : GoMap String) (key word : String) (missing : words.get? key = none) :
    canonicalWord words key word = word := by simp only [canonicalWord, missing, Option.getD_none]

-- What folding has brought into the vocabulary, folding again leaves there.
theorem canonical_word_again (words : GoMap String) (fold : String → String)
    (fixed : ∀ entry ∈ words, words.get? (fold entry.2) = some entry.2) (word : String) :
    canonicalWord words (fold (canonicalWord words (fold word) word)) (canonicalWord words (fold word) word) =
      canonicalWord words (fold word) word := by
  cases found : words.get? (fold word) with
  | none =>
      have same := canonical_word_unknown words (fold word) word found
      rw [same, same]
  | some spelled =>
      have named := canonical_word_known words (fold word) word spelled found
      obtain ⟨before, after, split, _⟩ := List.lookup_eq_some_iff.mp found
      have again := fixed (fold word, spelled) (by rw [split]; simp)
      rw [named]
      exact canonical_word_known words (fold spelled) spelled spelled again

theorem canonicalize_rule_again (r : ACLRule) : r.canonicalize.canonicalize = r.canonicalize := by
  have action := canonical_word_again aclActions foldWord (by decide +kernel) r.action
  have protocol := canonical_word_again aclProtocols foldWord (by decide +kernel) r.protocol
  simp only [ACLRule.canonicalize, action, protocol]

theorem canonicalize_acl_again (a : ACL) : a.canonicalize.canonicalize = a.canonicalize := by
  have stage := canonical_word_again aclStages foldWord (by decide +kernel) a.stage
  have type := canonical_word_again aclTypes typeKey (by decide +kernel) a.type
  have action := canonical_word_again aclActions foldWord (by decide +kernel) a.defaultAction
  have rules : (a.rules.map ACLRule.canonicalize).map ACLRule.canonicalize = a.rules.map ACLRule.canonicalize := by
    rw [List.map_map]
    exact List.map_congr_left fun r _ => canonicalize_rule_again r
  have default : a.canonicalize.canonicalize.defaultAction = a.canonicalize.defaultAction := by
    by_cases empty : a.defaultAction = ""
    · simp only [ACL.canonicalize, empty, if_true]
    · simp only [ACL.canonicalize, empty, if_false, action]
      split <;> simp_all
  simp only [ACL.canonicalize] at default
  simp only [ACL.canonicalize, stage, type, rules, default]

end Canonical

section Causes

-- strconv.Atoi: a sign, decimal digits, and the range of an int.
def atoiDigits (negative : Bool) (digits : List Char) : Option Int :=
  if digits = [] ∨ ¬ digits.all NetIP.isDigit then none
  else
    let value : Int := if negative then -(NetIP.decimal digits : Int) else NetIP.decimal digits
    if value < -2 ^ 63 ∨ 2 ^ 63 ≤ value then none else some value

def atoi (s : String) : Option Int :=
  match s.toList with
  | '-' :: digits => atoiDigits true digits
  | '+' :: digits => atoiDigits false digits
  | digits => atoiDigits false digits

def known (words : GoMap String) (key : String) : Bool := (words.get? key).isSome

-- acl.rules[i].field: ...
def ruleCause (i : Nat) (field : String) (rest : Message) : Message :=
  [.lit "acl.rules[", .int i, .lit "].", .lit field, .lit ": "] ++ rest

def aclPrefixCauses (i : Nat) (field pfx aclType : String) : List Message :=
  if pfx = "" then []
  else
    match NetIP.parsePrefix pfx with
    | .error _ => [ruleCause i field [.lit "not a CIDR prefix (", .quoted pfx, .lit ")"]]
    | .ok p =>
        let v4 : Bool := match p.addr with
          | .v4 _ => true
          | .v6 _ _ => false
        match aclTypes.get? (typeKey aclType) with
        | some "l3" =>
            if v4 then []
            else [ruleCause i field [.str pfx, .lit " is IPv6 but the acl type is l3 (IPv4); use type l3v6"]]
        | some "l3v6" =>
            if v4 then [ruleCause i field [.str pfx, .lit " is IPv4 but the acl type is l3v6; use type l3"]] else []
        | _ => []

def aPort (text : String) : Option Int :=
  (atoi (trimUnicodeSpace text)).filter fun n => 0 ≤ n ∧ n ≤ 65535

-- strings.Cut(port, "-")
def cutAtDash (port : String) : String × Option String :=
  let front := port.toList.takeWhile (· ≠ '-')
  match port.toList.dropWhile (· ≠ '-') with
  | [] => (port, none)
  | _ :: rest => (String.ofList front, some (String.ofList rest))

def aclPortCauses (i : Nat) (field port protocol : String) : List Message :=
  if port = "" then []
  else if aclProtocols.get? (foldWord protocol) ∉ [some "tcp", some "udp"] then
    [ruleCause i field [.lit "L4 ports require protocol tcp or udp (got ", .quoted protocol, .lit ")"]]
  else
    match cutAtDash port with
    | (lo, rest) =>
        match aPort lo, rest with
        | none, _ => [ruleCause i field [.lit "not a port in 0-65535 (", .quoted port, .lit ")"]]
        | some _, none => []
        | some loN, some hi =>
            match aPort hi with
            | none => [ruleCause i field [.lit "not a port range in 0-65535 (", .quoted port, .lit ")"]]
            | some hiN =>
                if hiN < loN then [ruleCause i field [.lit "range ", .quoted port, .lit " ends below where it starts"]]
                else []

def nameCauses (i : Nat) (seen : List String) (name : String) : List Message :=
  if name = "" then [ruleCause i "name" [.lit "required"]]
  else if name ∈ seen then [ruleCause i "name" [.lit "duplicate rule name ", .quoted name]]
  else []

def priorityCauses (i : Nat) (seen : List Int) (priority : Int) : List Message :=
  if priority = 1 then
    [ruleCause i "priority" [.lit "1 is reserved for the default action; usable priorities are 2-65535"]]
  else if priority < 2 ∨ 65535 < priority then
    [ruleCause i "priority" [.lit "must be 2-65535 (got ", .int priority, .lit ")"]]
  else if priority ∈ seen then
    [ruleCause i "priority" [.int priority, .lit " is already used by another rule; priorities must be distinct"]]
  else []

def actionCauses (i : Nat) (action : String) : List Message :=
  if known aclActions (foldWord action) then []
  else [ruleCause i "action" [.lit "required, one of permit, deny (got ", .quoted action, .lit ")"]]

def protocolCauses (i : Nat) (protocol : String) : List Message :=
  if known aclProtocols (foldWord protocol) ∨ ∃ n ∈ atoi protocol, 0 ≤ n ∧ n ≤ 255 then []
  else
    [ruleCause i "protocol" [.lit ("one of any, tcp, udp, icmp, igmp, rsvp, gre, ah, pim, l2tp or an IP protocol number " ++
      "0-255 (got "), .quoted protocol, .lit ")"]]

-- The causes that one rule's own texts give.
def ruleTextCauses (aclType : String) (i : Nat) (r : ACLRule) : List Message :=
  actionCauses i r.action ++ protocolCauses i r.protocol ++
    aclPrefixCauses i "sourcePrefix" r.sourcePrefix aclType ++
    aclPrefixCauses i "destinationPrefix" r.destinationPrefix aclType ++
    aclPortCauses i "sourcePort" r.sourcePort r.protocol ++
    aclPortCauses i "destinationPort" r.destinationPort r.protocol

-- The rules in turn, with distinct names and distinct priorities.
def rulesCauses (aclType : String) : Nat → List String → List Int → List ACLRule → List Message :=
  distinctCauses ACLRule.name ACLRule.priority nameCauses priorityCauses (ruleTextCauses aclType)

def aclCauses (a : ACL) : List Message :=
  (if known aclStages (foldWord a.stage) then []
    else [[.lit "acl.stage: required, one of ingress, egress (got ", .quoted a.stage, .lit ")"]]) ++
  (if a.bindTo ≠ "" ∧ a.bindTo ≠ "port" then
      [[.lit "acl.bindTo: ", .quoted a.bindTo, .lit " is unsupported; an access list binds to ports"]] else []) ++
  (if known aclTypes (typeKey a.type) then []
    else [[.lit "acl.type: required, one of l3, l3v6 (got ", .quoted a.type, .lit ")"]]) ++
  (if a.defaultAction ≠ "" ∧ ¬ known aclActions (foldWord a.defaultAction) then
      [[.lit "acl.defaultAction: one of permit, deny (got ", .quoted a.defaultAction, .lit ")"]] else []) ++
  (if a.rules = [] then [.lit "acl.rules: at least one rule is required"] ::
      (if a.name ≠ "" then [[.lit ("acl: a service carries its own rules and its name is a label; provide rules instead " ++
        "of referencing by name")]] else []) else []) ++
  rulesCauses a.type 0 [] [] a.rules

end Causes

end AgenticNetops.Migration
