import GraphCache.OrderedMap
import GraphCache.Number.Binary64

/-! The values an answer is made of. Whole numbers have any size and are kept
apart from numbers written with a point or an exponent, because the two are
displayed differently and an identifier is compared as text. -/
namespace GraphCache

inductive Json where
  | null
  | bool (value : Bool)
  | int (value : Int)
  | float (value : Binary64)
  | string (value : String)
  | array (items : List Json)
  | object (fields : List (String × Json))
deriving Repr

namespace Json

instance : Inhabited Json := ⟨null⟩

mutual

/-- Equality of values as data: fields in the same order, numbers of the same
kind. -/
def decEq : (left right : Json) → Decidable (left = right)
  | null, null => isTrue rfl
  | bool a, bool b => if same : a = b then isTrue (by rw [same]) else isFalse (by simp [same])
  | int a, int b => if same : a = b then isTrue (by rw [same]) else isFalse (by simp [same])
  | float a, float b => if same : a = b then isTrue (by rw [same]) else isFalse (by simp [same])
  | string a, string b => if same : a = b then isTrue (by rw [same]) else isFalse (by simp [same])
  | array a, array b =>
    match decEqItems a b with
    | isTrue same => isTrue (by rw [same])
    | isFalse different => isFalse (by simp [different])
  | object a, object b =>
    match decEqFields a b with
    | isTrue same => isTrue (by rw [same])
    | isFalse different => isFalse (by simp [different])
  | null, bool _ | null, int _ | null, float _ | null, string _ | null, array _ | null, object _
  | bool _, null | bool _, int _ | bool _, float _ | bool _, string _ | bool _, array _
  | bool _, object _ | int _, null | int _, bool _ | int _, float _ | int _, string _
  | int _, array _ | int _, object _ | float _, null | float _, bool _ | float _, int _
  | float _, string _ | float _, array _ | float _, object _ | string _, null | string _, bool _
  | string _, int _ | string _, float _ | string _, array _ | string _, object _ | array _, null
  | array _, bool _ | array _, int _ | array _, float _ | array _, string _ | array _, object _
  | object _, null | object _, bool _ | object _, int _ | object _, float _ | object _, string _
  | object _, array _ => isFalse (by simp)

def decEqItems : (left right : List Json) → Decidable (left = right)
  | [], [] => isTrue rfl
  | a :: as, b :: bs =>
    match decEq a b, decEqItems as bs with
    | isTrue first, isTrue rest => isTrue (by rw [first, rest])
    | isFalse different, _ => isFalse (by simp [different])
    | _, isFalse different => isFalse (by simp [different])
  | [], _ :: _ | _ :: _, [] => isFalse (by simp)

def decEqFields : (left right : List (String × Json)) → Decidable (left = right)
  | [], [] => isTrue rfl
  | (k, a) :: as, (l, b) :: bs =>
    if same : k = l then
      match decEq a b, decEqFields as bs with
      | isTrue first, isTrue rest => isTrue (by rw [same, first, rest])
      | isFalse different, _ => isFalse (by simp [different])
      | _, isFalse different => isFalse (by simp [different])
    else isFalse (by simp [same])
  | [], _ :: _ | _ :: _, [] => isFalse (by simp)

end

instance : DecidableEq Json := decEq

/-- Whether a value counts as present: null, false, zero and everything empty do
not. -/
def isTruthy : Json → Bool
  | null => false
  | bool value => value
  | int value => value != 0
  | float value => !value.isZero
  | string value => !value.isEmpty
  | array items => !items.isEmpty
  | object fields => !fields.isEmpty

def isNull : Json → Bool
  | null => true
  | _ => false

def isObject : Json → Bool
  | object _ => true
  | _ => false

/-- The fields of an object; no other value has any. -/
def fields? : Json → Option (OrderedMap String Json)
  | object fields => some fields
  | _ => none

/-- The value of a field, if this is an object that has it. -/
def field? (value : Json) (name : String) : Option Json :=
  match value with
  | object fields => OrderedMap.get? fields name
  | _ => none

/-- The name of a value's kind, as messages give it. -/
def kindName : Json → String
  | null => "NoneType"
  | bool _ => "bool"
  | int _ => "int"
  | float _ => "float"
  | string _ => "str"
  | array _ => "list"
  | object _ => "dict"

end Json
end GraphCache
