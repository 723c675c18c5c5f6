import AgenticNetops.Lib.GoText

set_option autoImplicit false

/- JSON values as a decoder hands them over: the keys of an object are distinct, and a
   number is an integer (the programs here exchange no others). -/
namespace JsonValue

open GoText

inductive Json where
  | null
  | bool (value : Bool)
  | num (value : Int)
  | str (value : String)
  | arr (items : List Json)
  | obj (fields : List (String × Json))
deriving Repr

mutual

def decEqJson : (a b : Json) → Decidable (a = b)
  | .null, .null => isTrue rfl
  | .bool a, .bool b => decidable_of_iff (a = b) (by rw [Json.bool.injEq])
  | .num a, .num b => decidable_of_iff (a = b) (by rw [Json.num.injEq])
  | .str a, .str b => decidable_of_iff (a = b) (by rw [Json.str.injEq])
  | .arr a, .arr b =>
      match decEqItems a b with
      | isTrue same => isTrue (congrArg Json.arr same)
      | isFalse different => isFalse fun same => different (Json.arr.inj same)
  | .obj a, .obj b =>
      match decEqFields a b with
      | isTrue same => isTrue (congrArg Json.obj same)
      | isFalse different => isFalse fun same => different (Json.obj.inj same)
  | .null, .bool _ | .null, .num _ | .null, .str _ | .null, .arr _ | .null, .obj _ => isFalse Json.noConfusion
  | .bool _, .null | .bool _, .num _ | .bool _, .str _ | .bool _, .arr _ | .bool _, .obj _ => isFalse Json.noConfusion
  | .num _, .null | .num _, .bool _ | .num _, .str _ | .num _, .arr _ | .num _, .obj _ => isFalse Json.noConfusion
  | .str _, .null | .str _, .bool _ | .str _, .num _ | .str _, .arr _ | .str _, .obj _ => isFalse Json.noConfusion
  | .arr _, .null | .arr _, .bool _ | .arr _, .num _ | .arr _, .str _ | .arr _, .obj _ => isFalse Json.noConfusion
  | .obj _, .null | .obj _, .bool _ | .obj _, .num _ | .obj _, .str _ | .obj _, .arr _ => isFalse Json.noConfusion

def decEqItems : (a b : List Json) → Decidable (a = b)
  | [], [] => isTrue rfl
  | [], _ :: _ => isFalse (List.cons_ne_nil _ _).symm
  | _ :: _, [] => isFalse (List.cons_ne_nil _ _)
  | first :: rest, first' :: rest' =>
      match decEqJson first first', decEqItems rest rest' with
      | isTrue same, isTrue same' => isTrue (by rw [same, same'])
      | isFalse different, _ => isFalse fun same => different (List.cons.inj same).1
      | _, isFalse different => isFalse fun same => different (List.cons.inj same).2

def decEqFields : (a b : List (String × Json)) → Decidable (a = b)
  | [], [] => isTrue rfl
  | [], _ :: _ => isFalse (List.cons_ne_nil _ _).symm
  | _ :: _, [] => isFalse (List.cons_ne_nil _ _)
  | (key, value) :: rest, (key', value') :: rest' =>
      match decEq key key', decEqJson value value', decEqFields rest rest' with
      | isTrue same, isTrue same', isTrue same'' => isTrue (by rw [same, same', same''])
      | isFalse different, _, _ => isFalse fun same => different (Prod.mk.inj (List.cons.inj same).1).1
      | _, isFalse different, _ => isFalse fun same => different (Prod.mk.inj (List.cons.inj same).1).2
      | _, _, isFalse different => isFalse fun same => different (List.cons.inj same).2

end

instance : DecidableEq Json := decEqJson

-- The fields of an object, and none of anything else.
def Json.fields : Json → GoMap Json
  | .obj fields => fields
  | _ => []

def Json.items : Json → List Json
  | .arr items => items
  | _ => []

def Json.text? : Json → Option String
  | .str value => some value
  | _ => none

def Json.isObject : Json → Bool
  | .obj _ => true
  | _ => false

-- The text of a field, empty where it holds none.
def Json.text (value : Json) : String := value.text?.getD ""

def Json.field? (value : Json) (key : String) : Option Json := value.fields.get? key

-- `value.get(key)`
def Json.field (value : Json) (key : String) : Json := (value.field? key).getD .null

def Json.with (value : Json) (key : String) (stored : Json) : Json := .obj (value.fields.set key stored)

def Json.without (value : Json) (key : String) : Json := .obj (value.fields.filter fun entry => entry.1 ≠ key)

@[simp] theorem field_with_same (value stored : Json) (key : String) : (value.with key stored).field? key = some stored :=
  get_set_same value.fields key stored

@[simp] theorem field_with_other (value stored : Json) (key other : String) (different : other ≠ key) :
    (value.with key stored).field? other = value.field? other :=
  get_set_other value.fields key other stored different

@[simp] theorem field_without_other (value : Json) (key other : String) (different : other ≠ key) :
    (value.without key).field? other = value.field? other :=
  lookup_filter_other value.fields key other different

-- Reading the fields of an object one after the other.
@[simp] theorem field_here (key : String) (value : Json) (rest : List (String × Json)) :
    (Json.obj ((key, value) :: rest)).field key = value := by
  simp [Json.field, Json.field?, Json.fields, GoMap.get?]

@[simp] theorem field_later (key other : String) (value : Json) (rest : List (String × Json)) (different : key ≠ other) :
    (Json.obj ((other, value) :: rest)).field key = (Json.obj rest).field key := by
  simp only [Json.field, Json.field?, Json.fields, GoMap.get?, List.lookup_cons, beq_eq_false_iff_ne.mpr different]

@[simp] theorem field_none (key : String) : (Json.obj []).field key = .null := rfl

end JsonValue
