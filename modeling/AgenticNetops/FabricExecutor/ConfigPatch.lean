import AgenticNetops.Lib.JsonText
import AgenticNetops.Lib.PyText

set_option autoImplicit false

/- A JSON patch against CONFIG_DB: the steps, what a JSON pointer addresses, and the
   database as Redis holds it, one hash of fields under each "TABLE|row". -/
namespace AgenticNetops.FabricExecutor

open GoText JsonValue

structure PatchStep where
  op : String
  path : String
  value : Option Json := none
deriving DecidableEq, Repr

section Pointer

-- ~1 stands for a slash, ~0 for a tilde.
def unescape : List Char → List Char
  | '~' :: '1' :: rest => '/' :: unescape rest
  | '~' :: '0' :: rest => '~' :: unescape rest
  | c :: rest => c :: unescape rest
  | [] => []

def pointerTokens (path : String) : Option (List String) :=
  match splitChars '/' path.toList with
  | [] :: tokens => some (tokens.map fun token => String.ofList (unescape token))
  | _ => none

def rowKey (table row : String) : String := table ++ "|" ++ row

inductive Address where
  | row (key : String)
  | field (key field : String)
deriving DecidableEq, Repr

-- The row or the field of CONFIG_DB that a path means; other paths mean neither.
def address (path : String) : Option Address :=
  match pointerTokens path with
  | some [table, row] => some (.row (rowKey table row))
  | some [table, row, field] => some (.field (rowKey table row) field)
  | _ => none

end Pointer

section Database

abbrev ConfigDb := GoMap (GoMap String)

def ConfigDb.hget (db : ConfigDb) (key field : String) : Option String := (db.get? key).bind fun row => row.get? field

end Database

end AgenticNetops.FabricExecutor
