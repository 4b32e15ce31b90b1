/-!
# JSON values

The values that rows, arguments and plan files are made of. A number is an *integer* when it is
written without fraction and exponent and fits 64 bits (signed or unsigned); every other number is
a *real*, held as a double by its bits. The fields of an object keep the order in which they were
written, repeated names included; `canonical` is the form in which an object is a finite map.
-/

namespace RelationSql

/-- A finite IEEE 754 double, given by its bits. -/
structure Binary64 where
  /-- sign, exponent and significand, from the highest bit down -/
  bits : UInt64
deriving DecidableEq, Inhabited

/-- A JSON value. -/
inductive Json where
  /-- the value `null` -/
  | null
  /-- `true` or `false` -/
  | bool (value : Bool)
  /-- a whole number of at most 64 bits -/
  | integer (value : Int)
  /-- any other number -/
  | real (value : Binary64)
  /-- a text -/
  | text (value : String)
  /-- a list of values -/
  | array (items : List Json)
  /-- named values in the order in which they were written -/
  | object (fields : List (String × Json))
deriving Inhabited

namespace Json

/-- Put a field into a list of fields that is sorted by name, in place of one of the same name. -/
def insertField (name : String) (value : Json) : List (String × Json) → List (String × Json)
  | [] => [(name, value)]
  | (other, old) :: rest =>
    if name = other then (name, value) :: rest
    else if name < other then (name, value) :: (other, old) :: rest
    else (other, old) :: insertField name value rest

/-- The fields sorted by name; of several fields of one name the last one stays. -/
def sortFields (fields : List (String × Json)) : List (String × Json) :=
  fields.foldl (fun sorted field => insertField field.1 field.2 sorted) []

mutual

/-- The value with the fields of every object sorted by name, the last of a repeated name kept. -/
def canonical : Json → Json
  | .array items => .array (canonicalItems items)
  | .object fields => .object (sortFields (canonicalFields fields))
  | value => value

/-- `canonical` on each item of a list. -/
def canonicalItems : List Json → List Json
  | [] => []
  | item :: rest => canonical item :: canonicalItems rest

/-- `canonical` on the value of each field. -/
def canonicalFields : List (String × Json) → List (String × Json)
  | [] => []
  | (name, value) :: rest => (name, canonical value) :: canonicalFields rest

end

/-- The text, if the value is one. -/
def text? : Json → Option String
  | .text value => some value
  | _ => none

/-- The items, if the value is a list. -/
def items? : Json → Option (List Json)
  | .array items => some items
  | _ => none

/-- The fields, if the value is an object. -/
def fields? : Json → Option (List (String × Json))
  | .object fields => some fields
  | _ => none

/-- The value of a field, if the value is an object that has one of that name. -/
def get? (value : Json) (name : String) : Option Json :=
  value.fields?.bind fun fields => fields.lookup name

mutual

/-- How many containers are nested in a value at most. -/
def depth : Json → Nat
  | .array items => depthItems items + 1
  | .object fields => depthFields fields + 1
  | _ => 0

/-- The greatest depth in a list of values. -/
def depthItems : List Json → Nat
  | [] => 0
  | item :: rest => max (depth item) (depthItems rest)

/-- The greatest depth among the values of some fields. -/
def depthFields : List (String × Json) → Nat
  | [] => 0
  | (_, value) :: rest => max (depth value) (depthFields rest)

end

end Json

end RelationSql
