import AgenticNetops.Lib.GoText

set_option autoImplicit false

/- pkg/fabricplan/plan.go: the work order a renderer hands to the executor. The
   Redis and Shell commands of an op are the type parameters of the plan, so
   that a renderer keeps the structure of its commands; the text that crosses
   the wire is a function of that structure. -/
namespace AgenticNetops.Fabricplan

open GoText

-- One step of a GCU JSON patch; a remove carries no value.
inductive GcuStep where
  | add (path : String) (value : GoMap String)
  | remove (path : String)
deriving DecidableEq, Repr

structure Op (Redis Shell : Type) where
  gcu : List GcuStep := []
  redis : List Redis := []
  shell : List Shell := []
  vtysh : List String := []
  frrConf : List String := []
  onClient : String := ""
deriving DecidableEq, Repr

inductive CheckType where
  | redisHget
  | redisExists
  | redisHgetContains
  | redisKeysMatch
  | ipMaster
  | ipAddr
  | linkVxlanId
  | bridgeVid
  | fileContains
  | vtyshContains
  | command
  | probePing
deriving DecidableEq, Repr

def CheckType.text : CheckType → String
  | .redisHget => "redis-hget"
  | .redisExists => "redis-exists"
  | .redisHgetContains => "redis-hget-contains"
  | .redisKeysMatch => "redis-keys-match"
  | .ipMaster => "ip-master"
  | .ipAddr => "ip-addr"
  | .linkVxlanId => "link-vxlan-id"
  | .bridgeVid => "bridge-vid"
  | .fileContains => "file-contains"
  | .vtyshContains => "vtysh-contains"
  | .command => "command"
  | .probePing => "probe-ping"

structure Check where
  type : CheckType
  redisKey : String := ""
  redisField : String := ""
  redisDB : String := ""
  matchFields : GoMap String := []
  minCount : Nat := 0
  iface : String := ""
  master : String := ""
  addr : String := ""
  vid : Int := 0
  path : String := ""
  line : String := ""
  command : String := ""
  expect : String := ""
  probeFrom : String := ""
  probeTo : String := ""
  size : Nat := 0
  count : Nat := 0
  onClient : String := ""
deriving DecidableEq, Repr

structure NodePlan (Redis Shell : Type) where
  node : String
  ops : List (Op Redis Shell) := []
  checks : List Check := []
  rollback : List (Op Redis Shell) := []
deriving DecidableEq, Repr

-- Plan.Nodes, keyed by logical node name.
abbrev Plan (Redis Shell : Type) := GoMap (NodePlan Redis Shell)

-- An errf value: the pieces of its message.
abbrev Error := Message

abbrev PortMapper := GoMap String

def isPortKeyChar (c : Char) : Bool := ('a' ≤ c && c ≤ 'z') || ('0' ≤ c && c ≤ '9')

def normalizePortKey (s : String) : String :=
  String.ofList ((s.toList.map lowerToAscii).filter isPortKeyChar)

def PortMapper.known (m : PortMapper) : List String :=
  sortStrings (m.keys.filter fun key => GoMap.text m key ≠ "")

def PortMapper.port (m : PortMapper) (logical : String) : Except Error String :=
  if GoMap.text m logical ≠ "" then .ok (GoMap.text m logical)
  else
    match m.known.find? (fun key => normalizePortKey key = normalizePortKey logical) with
    | some key => .ok (GoMap.text m key)
    | none =>
        .error [.lit "attachment ", .quoted logical, .lit " not in site port map (site accepts: ",
          .str (join m.known ", "), .lit ")"]

example : PortMapper.port [("wan1", "Ethernet12")] "WAN-1" = .ok "Ethernet12" := by decide

end AgenticNetops.Fabricplan
