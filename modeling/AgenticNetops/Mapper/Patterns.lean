import AgenticNetops.Lib.Regex
import AgenticNetops.Schemas.Interpretation

set_option autoImplicit false

/- agents/provisioning/mapper/agent.py: the patterns that the mapper reads a request
   with. All of them but `_SRV6_WORD_RE` and `_PREFIX_TOKEN_RE` ignore case. -/
namespace AgenticNetops.Mapper

open Regex PyText Schemas

-- The character class of an address, or of a prefix's address.
def isAddressChar (c : Char) : Bool :=
  NetIP.isDigit c || ('a' ≤ c && c ≤ 'f') || ('A' ≤ c && c ≤ 'F') || c = ':' || c = '.'

section
variable (table : CharTable)

def edge : Pattern := .boundary (isWord table)

def named (lowered : String) : Pattern := whole (isWord table) lowered

def digit : Pattern := .char (isDecimal table)

-- \d{1,n}
def digits (limit : Nat) : Pattern := digit table ++ upTo (digit table) (limit - 1)

def nameChar (others : String) : Pattern := .char fun c => isWord table c || anyOf others c

def prefixText : Pattern := some' (.char isAddressChar) ++ exact "/" ++ digits table 3

def hyphenOrSpace : Pattern := .char (anyOf "- ")

def blanks : Pattern := some' blank

section Constructs

def macVRFName : Pattern := edge table ++ text "mac" ++ opt (.char (anyOf "- _")) ++ text "vrf" ++ edge table

def ipVRFName : Pattern := edge table ++ text "ip" ++ opt (.char (anyOf "- _")) ++ text "vrf" ++ edge table

def ipVRFPatterns : List Pattern :=
  [ipVRFName table,
    oneOf [named table "l3vpn", edge table ++ text "layer" ++ .many true blank ++ exact "3" ++ edge table,
      named table "routing", named table "vrf"]]

-- The order decides: a vlan is matched last.
def servicePatterns : List (ServiceType × List Pattern) :=
  [(.macVRF,
      [macVRFName table,
        oneOf [named table "l2vpn", named table "vpls", named table "vpws", text "e" ++ opt (exact "-") ++ text "line"],
        oneOf [text "evpn", text "bridge" ++ blanks ++ text "domain"]]),
    (.ipVRF, ipVRFPatterns table),
    (.acl, [oneOf [named table "acl", text "access" ++ hyphenOrSpace ++ text "list", text "filter"]]),
    (.vlan, [named table "vlan", oneOf [text "access" ++ blanks ++ text "port", text "untagged"]])]

def unsupportedFeatures : List (Pattern × String) :=
  [(oneOf [text "traffic engineering", edge table ++ text "te" ++ hyphenOrSpace ++ text "policy",
      text "te" ++ hyphenOrSpace ++ text "path"], "tePolicy"),
    (oneOf [named table "explicit path", named table "sid list",
      edge table ++ text "pin" ++ opt (text "ning") ++ text " the flow" ++ edge table], "tePolicy"),
    (oneOf [text "pseudowire oam", named table "pw oam", text "control word"], "pseudowireOAM"),
    (oneOf [named table "multicast", named table "pim", named table "msdp"], "multicastVPN"),
    (oneOf [text "service chain" ++ .many true (.char (isWord table)), text "chained service" ++ opt (text "s")],
      "serviceChain"),
    (text "complex qos", "complexQoS"),
    (oneOf [named table "cli", text "raw cli"], "rawCLI")]

def unsupportedServiceTypes : List (Pattern × String) :=
  [(edge table ++ text "e" ++ opt (exact "-") ++ text "tree" ++ edge table, "E-TREE"),
    (edge table ++ text "e" ++ opt (exact "-") ++ text "lan" ++ edge table, "E-LAN"),
    (edge table ++ text "pbb" ++ opt hyphenOrSpace ++ text "evpn" ++ edge table, "PBB-EVPN")]

end Constructs

section SRv6

def segmentRouting : Pattern := edge table ++ text "segment" ++ hyphenOrSpace ++ text "routing" ++ blanks

def srv6Patterns : List Pattern :=
  [named table "srv6", segmentRouting table ++ text "over" ++ blanks ++ text "ipv6" ++ edge table,
    segmentRouting table ++ text "v6" ++ edge table]

def srv6VXLANTerms : Pattern :=
  oneOf [named table "vxlan", edge table ++ text "l" ++ .char (anyOf "23") ++ text "vni" ++ edge table, named table "vni"]

def srv6EVPN : Pattern := named table "evpn"

def srv6MACVRF : Pattern :=
  oneOf [macVRFName table, named table "bridged", named table "l2vpn",
    text "extend" ++ opt (text "ing") ++ blanks ++ text "vlan" ++ edge table]

def srv6IPVRF : Pattern := oneOf [ipVRFName table, named table "routed"]

def srv6ACL : Pattern := oneOf [named table "acl", text "access" ++ hyphenOrSpace ++ text "list"]

-- (?P<name>spine[\w.-]*)
def spineName : Pattern := .group "name" (text "spine" ++ .many true (nameChar table ".-"))

def srv6SpineVia : Pattern :=
  edge table ++ text "via" ++ blanks ++ spineName table ++ blanks ++ text "preferred" ++ edge table

def srv6Prefer : Pattern :=
  edge table ++ text "prefer" ++ opt (text "ring") ++ edge table ++ .group "tail" (.many true notNewline)

def srv6SpineStop : List String := ["a", "an", "specific", "the"]

def isLetter (c : Char) : Bool := ('a' ≤ c && c ≤ 'z') || ('A' ≤ c && c ≤ 'Z')

def srv6Word : Pattern := .char isLetter ++ .many true (nameChar table ".-")

def srv6Alternate : Pattern :=
  edge table ++ text "with" ++ blanks ++ spineName table ++ blanks ++ text "as" ++ blanks ++ opt (text "the" ++ blanks) ++
    text "alternate" ++ edge table

end SRv6

section Endpoints

def notIn (chars : String) : Pattern := .char fun c => !anyOf chars c

def endpointBetween : Pattern :=
  oneOf [text "between", text "across"] ++ blanks ++ .group "left" (someLazy (notIn ",;\n")) ++ blanks ++ text "and" ++
    blanks ++ .group "right" (some' (notIn ",;\n"))

def endpointAttach : Pattern :=
  edge table ++ text "attach" ++ opt (text "ing") ++ blanks ++ .group "left" (someLazy (notIn ",;.\n")) ++ blanks ++
    text "and" ++ blanks ++ .group "right" (some' (notIn ",;.\n"))

def attachmentOnNode : Pattern :=
  .group "attachment" (some' filled) ++ blanks ++ text "on" ++ blanks ++ .group "node" (some' filled) ++
    opt (blank ++ .many true (.char fun _ => true)) ++ .finish

def notANode : List String := ["vlan", "the", "a", "an", "its", "both", "each", "all", "every", "port"]

def endpointSingleOn : Pattern :=
  edge table ++ text "on" ++ blanks ++ .ahead false (oneOf (notANode.map fun word => text word ++ edge table)) ++
    .group "node" (.char foldsToLetter ++ .many true (nameChar table ".-")) ++ blanks ++
    .group "attachment" (oneOf (["ethernet", "eth", "wan", "port", "xe", "ge", "te"].map text) ++
      .many true (nameChar table "./-"))

def tenantRE : Pattern :=
  text "tenant" ++ some' (.char fun c => c = ':' || isBlank c) ++
    .group "tenant" (some' (.char fun c => foldsToLetter c || NetIP.isDigit c || c = '-'))

def vlanRE : Pattern :=
  text "vlan" ++ .many true (.char fun c => c = ':' || isBlank c || c = '#') ++ .group "vlan" (digits table 4)

def endpointTrailingClause : Pattern :=
  blanks ++ oneOf [text "for" ++ blanks ++ text "tenant", text "tenant", text "with", text "using"] ++ edge table ++
    .many true notNewline ++ .finish

def endpointSentenceEnd : Pattern :=
  .char (anyOf ".!?") ++ oneOf [blanks, .finish] ++ .many true (.char fun _ => true) ++ .finish

-- [0-9A-Za-z_:]
def besidePrefix (c : Char) : Bool := isLetter c || NetIP.isDigit c || c = '_' || c = ':'

def prefixToken : Pattern :=
  .behind false besidePrefix ++ .group "prefix" (prefixText table) ++ .ahead false (.char besidePrefix)

end Endpoints

section Filters

def aclStage : Pattern := edge table ++ .group "stage" (oneOf [text "ingress", text "egress"]) ++ edge table

def aclProto : Pattern :=
  edge table ++ .group "proto" (oneOf (["tcp", "udp", "icmp", "igmp", "rsvp", "gre", "ah", "pim", "l2tp"].map text)) ++
    edge table

def tcpOrUDP : Pattern := oneOf [text "tcp", text "udp"]

def aclPort : Pattern :=
  oneOf [edge table ++ text "port" ++ blanks ++ .group "port" (digits table 5) ++ edge table,
    edge table ++ .group "slashed" (digits table 5) ++ .many true blank ++ exact "/" ++ .many true blank ++ tcpOrUDP ++
      edge table,
    edge table ++ tcpOrUDP ++ blanks ++ .group "bare" (digits table 5) ++ edge table]

def aclPrefix (lead : String) : Pattern := edge table ++ text lead ++ blanks ++ .group "prefix" (prefixText table)

def aclSrcPrefix : Pattern := aclPrefix table "from"

def aclDstPrefix : Pattern := aclPrefix table "to"

def aclPermit : Pattern :=
  edge table ++ oneOf [text "permit", text "permitting", text "allow", text "allowing"] ++ edge table

def aclDenyRest : Pattern :=
  oneOf [edge table ++ oneOf [text "deny", text "drop", text "block"] ++ blanks ++
      oneOf [text "everything" ++ blanks ++ text "else", text "all" ++ blanks ++ text "else",
        text "all" ++ blanks ++ text "other", text "the" ++ blanks ++ text "rest", text "everything", text "all"] ++
      edge table,
    named table "only"]

def aclFilterClause : Pattern :=
  oneOf [named table "acl", text "access" ++ hyphenOrSpace ++ text "list", named table "permitting", named table "permit",
    named table "allowing", named table "allow", named table "denying", named table "deny"]

def isHex (c : Char) : Bool := isAddressChar c && c ≠ ':' && c ≠ '.'

def aclV6 : Pattern :=
  oneOf [named table "ipv6", named table "l3v6",
    upTo (.char isHex) 4 ++ exact ":" ++ .many true (.char fun c => isHex c || c = ':') ++ exact "/" ++ digits table 3]

def anycastGateway : Pattern := text "anycast" ++ blanks ++ text "gateway"

def gatewayAddr : Pattern :=
  anycastGateway ++ edge table ++ upToLazy (notIn ".;") 24 ++
    .group "addr" (oneOf [prefixText table, digits table 3 ++ times (exact "." ++ digits table 3) 3])

end Filters

-- catalogue.json: hints.bandwidth
def bandwidthHints : List Pattern := ["gbps", "mbps", "g", "m"].map text

def bandwidthRE : Pattern :=
  .group "1" (some' (digit table) ++ opt blank ++ oneOf (["gbps", "g", "mbps", "m"].map text))

-- <<<(?:END_)?DATA.*?>>>
def dataFence : Pattern := exact "<<<" ++ opt (exact "END_") ++ exact "DATA" ++ .many false notNewline ++ exact ">>>"

end

end AgenticNetops.Mapper
