import AgenticNetops.Lib.KeyedRows
import AgenticNetops.Fabricplan.SRv6

set_option autoImplicit false

/- What the ops of an SRv6 plan do to one node: CONFIG_DB rows, the routes of the
   main IPv6 table and of the VRF tables, and the addressing of the probe client
   containers. Tracked routes are those under the keys this renderer writes, so a
   `route del PREFIX` takes the one tracked route of that prefix. The kernel
   addresses of a node's own port follow its CONFIG_DB rows and are not a row of
   their own. `vrfTable` is the table id the image gave a VRF device. -/
namespace AgenticNetops.Fabricplan

open GoText KeyedRows

inductive DeviceKey where
  | configRow (table key : String)
  | route6 (pfx src : String) (metric : Nat)
  | vrfRoute (table pfx : String)
  | clientAddr (attachment addr : String)
  | clientDefault (attachment : String)
deriving DecidableEq, Repr

abbrev DeviceRows := Rows DeviceKey (List String)
abbrev DeviceAct := Act DeviceKey (List String)

-- RFC 6901: ~1 stands for '/', ~0 for '~'.
def unescapePointer : List Char → List Char
  | '~' :: '1' :: rest => '/' :: unescapePointer rest
  | '~' :: '0' :: rest => '~' :: unescapePointer rest
  | c :: rest => c :: unescapePointer rest
  | [] => []

-- The table of a JSON patch path and, below it, the row.
def pointerTable (path : String) : String := String.ofList ((path.toList.drop 1).takeWhile (· ≠ '/'))

def pointerRow (path : String) : String :=
  String.ofList (unescapePointer (((path.toList.drop 1).dropWhile (· ≠ '/')).drop 1))

def isTablePath (path : String) : Bool := ((path.toList.drop 1).dropWhile (· ≠ '/')).isEmpty

-- A remove deletes the whole subtree at its path.
def GcuStep.act : GcuStep → DeviceAct
  | .add path value =>
      .write (.configRow (pointerTable path) (pointerRow path)) (value.flatMap fun field => [field.1, field.2])
  | .remove path =>
      .erase fun
        | .configRow table key => table = pointerTable path && (isTablePath path || key = pointerRow path)
        | _ => false

def coversRoute6 (pfx : String) : DeviceKey → Bool
  | .route6 other _ _ => other = pfx
  | _ => false

def coversClient (attachment : String) : DeviceKey → Bool
  | .clientAddr other _ => other = attachment
  | .clientDefault other => other = attachment
  | _ => false

/- `route replace` overwrites the route with the same prefix, source and metric;
   1024 is the metric the kernel gives an IPv6 route without one. -/
def IpCommand.acts (vrfTable : String → String) (attachment : String) : IpCommand → List DeviceAct
  | .decapReplace sid vrf => [.write (.route6 sid "" 1024) ["End.DT46", vrfTable vrf, vrf]]
  | .steerReplace client vrf segs => [.write (.vrfRoute (vrfTable vrf) client) ["encap", segs, srv6Uplink]]
  | .locatorPinReplace locator via => [.write (.route6 locator "" 5) [via, srv6Uplink]]
  | .preferredPinReplace sid via => [.write (.route6 sid "::" 20) [via, srv6Uplink]]
  | .addrFlush _ => if attachment = "" then [] else [.erase (coversClient attachment)]
  | .addrAdd addr dev => if attachment = "" then [] else [.write (.clientAddr attachment addr) [dev]]
  | .defaultReplace via dev => if attachment = "" then [] else [.write (.clientDefault attachment) [via, dev]]
  | .routeDelLoop pfx => [.erase (coversRoute6 pfx)]
  | .vrfRouteDel vrf pfx => [.erase fun key => key = .vrfRoute (vrfTable vrf) pfx]
  | .routeDel pfx => [.erase (coversRoute6 pfx)]

/- handleApply's dispatch, one unit per command that runs on its own: a GCU patch
   lands as a whole, a Shell op command by command. -/
def SRv6Op.units (vrfTable : String → String) (op : SRv6Op) : List (List DeviceAct) :=
  if op.onClient ≠ "" then op.shell.map (IpCommand.acts vrfTable op.onClient)
  else if op.gcu ≠ [] then [op.gcu.map GcuStep.act]
  else op.shell.map (IpCommand.acts vrfTable "")

def opsUnits (vrfTable : String → String) (ops : List SRv6Op) : List (List DeviceAct) :=
  ops.flatMap (SRv6Op.units vrfTable)

def opsActs (vrfTable : String → String) (ops : List SRv6Op) : List DeviceAct := (opsUnits vrfTable ops).flatten

end AgenticNetops.Fabricplan
