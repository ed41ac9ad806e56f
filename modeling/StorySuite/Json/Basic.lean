import StorySuite.Decimal.Binary64

/-!
# Json — values

Data values, with objects as lists of fields in the order in which their keys first appeared.  A key
stands once in an object: `insert` puts a new value in the place of an old one.
-/

namespace StorySuite.Json

open StorySuite.Decimal

/-- A number: a whole one that fits 64 bits, signed or unsigned, or a binary fraction. -/
inductive Number where
  | whole (n : Int)
  | real (x : Binary64)
  deriving DecidableEq, Repr

/-- A data value. -/
inductive Value where
  | null
  | bool (b : Bool)
  | number (n : Number)
  | string (s : String)
  | array (items : List Value)
  | object (fields : List (String × Value))
  deriving Inhabited

end StorySuite.Json

namespace StorySuite

/-- The fields of an object, in order. -/
abbrev DataMap := List (String × Json.Value)

namespace DataMap

/-- The value under `key`. -/
def get? (m : DataMap) (key : String) : Option Json.Value :=
  (m.find? (·.1 == key)).map (·.2)

/-- `m` with `value` under `key`: in the key's place, or at the end if the key is new. -/
def insert (m : DataMap) (key : String) (value : Json.Value) : DataMap :=
  match m with
  | [] => [(key, value)]
  | (k, v) :: rest => if k == key then (k, value) :: rest else (k, v) :: insert rest key value

/-- `m` with the fields of `more` put in one after the other. -/
def insertAll (m more : DataMap) : DataMap :=
  more.foldl (fun acc field => acc.insert field.1 field.2) m

/-- The keys of `m`. -/
def keys (m : DataMap) : List String :=
  m.map (·.1)

end DataMap

namespace Json.Value

/-- The value is a natural or negative whole number. -/
def ofInt (n : Int) : Value :=
  .number (.whole n)

/-- The field `key` of an object. -/
def field? : Value → String → Option Value
  | .object fields, key => DataMap.get? fields key
  | _, _ => none

end Json.Value

end StorySuite
