import PageConfig.Decimal.Binary64

/-!
# JSON values

A config is a JSON value.  The fields of an object are kept in the order in
which their keys first appeared: writing a key again replaces its value where
it stands, and a new key goes to the end.
-/

namespace PageConfig.Json

open PageConfig.Decimal (Binary64)

/-- A JSON value.  Integers and doubles are told apart, since they are written differently. -/
inductive Value where
  | null
  | bool (b : Bool)
  | int (n : Int)
  | double (x : Binary64)
  | string (s : String)
  | array (items : List Value)
  | object (fields : List (String × Value))
deriving Inhabited

/-- The fields of an object, in the order of their first appearance. -/
abbrev Fields := List (String × Value)

namespace Fields

/-- The value of a key. -/
def get? (fields : Fields) (key : String) : Option Value := fields.lookup key

/-- Writes a key: in place if it is there, else at the end. -/
def insert : Fields → String → Value → Fields
  | [], key, value => [(key, value)]
  | (k, v) :: rest, key, value =>
    if k = key then (k, value) :: rest else (k, v) :: insert rest key value

/-- The keys, in order. -/
def keys (fields : Fields) : List String := fields.map Prod.fst

end Fields

namespace Value

/-- The empty mapping. -/
def empty : Value := object []

/-- The fields of an object. -/
def fields? : Value → Option Fields
  | object fields => some fields
  | _ => none

/-- The text of a string. -/
def string? : Value → Option String
  | string s => some s
  | _ => none

/-- The items of an array. -/
def items? : Value → Option (List Value)
  | array items => some items
  | _ => none

/-- The value a key has in an object. -/
def get? (v : Value) (key : String) : Option Value :=
  v.fields?.bind fun fields => Fields.get? fields key

/-- Whether the value is null. -/
def isNull : Value → Bool
  | null => true
  | _ => false

end Value

end PageConfig.Json
