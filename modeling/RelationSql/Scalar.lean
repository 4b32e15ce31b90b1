import RelationSql.Json.Basic
import RelationSql.Timestamp.Text

/-!
# Scalars

The values that flow into generated SQL: the sort values of a cursor and the keys of a batch. In
JSON a timestamp is wrapped as an object with the one field `$date`, so that it survives a round
trip and is told from a text.
-/

namespace RelationSql

/-- A value of a sort column or a key column. -/
inductive Scalar where
  /-- no value -/
  | null
  /-- a whole number -/
  | integer (value : Int64)
  /-- a text -/
  | text (value : String)
  /-- a point in time -/
  | timestamp (value : Timestamp)
deriving DecidableEq

namespace Scalar

/-- The name of the field that holds a wrapped timestamp. -/
def dateField : String := "$date"

/-- The scalar that a column of a fetched row holds: null, a signed number of 64 bits or a text.
Other values cannot be sought. -/
def ofRowValue? : Json → Option Scalar
  | .null => some .null
  | .integer n => (Text.int64OfInt? n).map .integer
  | .text s => some (.text s)
  | _ => none

/-- The timestamp of a wrapped one: the field `$date` stands there once and holds the text of a
timestamp; other fields are ignored. -/
def wrappedTimestamp? (fields : List (String × Json)) : Option Timestamp :=
  match fields.filter fun field => field.1 == dateField with
  | [(_, .text s)] => Timestamp.parseLenient? s
  | _ => none

/-- The scalar with the given JSON form. -/
def ofJson? : Json → Option Scalar
  | .object fields => (wrappedTimestamp? fields).map .timestamp
  | value => ofRowValue? value

/-- The JSON form of a scalar. -/
def toJson : Scalar → Json
  | .null => .null
  | .integer n => .integer n.toInt
  | .text s => .text s
  | .timestamp t => .object [(dateField, .text t.exactText)]

/-- The text shown to users. -/
def display : Scalar → String
  | .null => "null"
  | .integer n => Text.signedText n
  | .text s => s
  | .timestamp t => t.millisText

/-- Whether the scalar is a text. -/
def isText : Scalar → Bool
  | .text _ => true
  | _ => false

end Scalar

end RelationSql
