import RelationSql.Json.Excerpt
import RelationSql.Plan.Basic
import RelationSql.SortSpec

/-!
# Plans from JSON

A relation, a junction, a pair of batch keys and an order column are records. A record is written
as an object, in which unknown fields are ignored and a known field may stand once, or as the list
of its values in the order of its fields, of which the last ones may be left out. A field that may
be absent is either *optional*, with a default, or *nullable*, where null counts as absence.

In a text the unknown fields of relations, junctions and batch keys are passed over. Those of
columns and order columns are read before they are ignored, because what a column or an ordering
is shows only when it has been read.
-/

namespace RelationSql.Plan

variable {α γ : Type}

/-! ## Records -/

/-- The named fields of a record. -/
def recordFields (names : List String) : Json → Except String (List (String × Json))
  | .object fields =>
    let known := fields.filter fun field => names.contains field.1
    if (known.map (·.1)).Nodup then .ok known else .error "a field is given twice"
  | .array items =>
    if items.length ≤ names.length then .ok (names.zip items) else .error "too many values"
  | _ => .error "expected a record"

/-- The value of a field that has to be there. -/
def required (fields : List (String × Json)) (name : String) (read : Json → Except String α) :
    Except String α :=
  match fields.lookup name with
  | some value => read value
  | none => .error s!"missing field '{name}'"

/-- The value of a field, or a default if it is absent. -/
def optional (fields : List (String × Json)) (name : String) (default : α)
    (read : Json → Except String α) : Except String α :=
  match fields.lookup name with
  | some value => read value
  | none => .ok default

/-- The value of a field, unless it is absent or null. -/
def nullable (fields : List (String × Json)) (name : String) (read : Json → Except String α) :
    Except String (Option α) :=
  match fields.lookup name with
  | none | some .null => .ok none
  | some value => (read value).map some

/-! ## Values -/

/-- A text. -/
def readText : Json → Except String String
  | .text s => .ok s
  | _ => .error "expected a text"

/-- A truth value. -/
def readFlag : Json → Except String Bool
  | .bool b => .ok b
  | _ => .error "expected true or false"

/-- An unsigned number of 64 bits. -/
def readCount : Json → Except String UInt64
  | .integer n =>
    match Text.uint64OfInt? n with
    | some count => .ok count
    | none => .error "number out of range"
  | _ => .error "expected a whole number"

/-- A list of values. -/
def readList (read : Json → Except String α) : Json → Except String (List α)
  | .array items => items.mapM read
  | _ => .error "expected a list"

/-- Arguments: an object as a map, in which the last of several values of one name counts. -/
def readArgs : Json → Except String Args
  | .object fields => .ok (Json.sortFields (Json.canonicalFields fields))
  | _ => .error "expected an object"

/-- A filter template. -/
def readFilter (value : Json) : Except String (FilterHook γ) :=
  (readText value).map FilterHook.ofTemplate

/-- A join template. -/
def readJoin (value : Json) : Except String (JoinHook γ) :=
  (readText value).map JoinHook.ofTemplate

/-- A pair of join templates. -/
def readJoinPair : Json → Except String (JoinHook γ × JoinHook γ)
  | .array [first, second] => do return (← readJoin first, ← readJoin second)
  | _ => .error "expected two joins"

/-- A selected column: its name, or an object with the fields `column` and `alias`. -/
def readColumn : Json → Except String ColumnSelection
  | .text column => .ok ⟨column, column⟩
  | .object fields => do
    let fields ← recordFields ["column", "alias"] (.object fields)
    return ⟨← required fields "column" readText, ← required fields "alias" readText⟩
  | _ => .error "expected a column"

/-! ## Orderings -/

/-- The direction that a word stands for. -/
def directionOf? (word : String) : Option Direction :=
  if word = "ASC" ∨ word = "asc" then some .asc
  else if word = "DESC" ∨ word = "desc" then some .desc
  else none

/-- A direction: its word, or an object with the word as the one field and null as its value. -/
def readDirection : Json → Except String Direction
  | .text word | .object [(word, .null)] =>
    match directionOf? word with
    | some direction => .ok direction
    | none => .error "expected a direction"
  | _ => .error "expected a direction"

/-- A column of an order. -/
def readOrderColumn (value : Json) : Except String OrderColumn := do
  let fields ← recordFields ["column", "direction"] value
  return ⟨← required fields "column" readText, ← optional fields "direction" .asc readDirection⟩

/-- An ordering: a sort spec or a list of columns. -/
def readOrdering : Json → Except String (List OrderColumn)
  | .text spec => (SortSpec.parse spec).mapError PlanError.message
  | value => readList readOrderColumn value

/-! ## Relations -/

/-- The fields of a pair of batch keys. -/
def batchFields : List String := ["thisKey", "parentKey", "sqlJoin"]

/-- A pair of batch keys. -/
def readBatchKeys (value : Json) : Except String (BatchKeys γ) := do
  let fields ← recordFields batchFields value
  return {
    thisKey := ← required fields "thisKey" readText
    parentKey := ← required fields "parentKey" readText
    join := ← nullable fields "sqlJoin" readJoin }

/-- The fields of a junction. -/
def junctionFields : List String :=
  ["sqlTable", "as", "where", "orderBy", "sortKey", "sqlBatch", "sqlJoins"]

/-- A junction. -/
def readJunction (value : Json) : Except String (Junction γ) := do
  let fields ← recordFields junctionFields value
  return {
    table := ← required fields "sqlTable" readText
    label := ← required fields "as" readText
    filter := ← nullable fields "where" readFilter
    orderBy := ← nullable fields "orderBy" readOrdering
    sortKey := ← nullable fields "sortKey" readOrdering
    batch := ← nullable fields "sqlBatch" readBatchKeys
    joins := ← nullable fields "sqlJoins" readJoinPair }

/-- The fields of a relation; the last one holds the relations below it. -/
def relationFields : List String :=
  ["name", "sqlTable", "as", "args", "columns", "uniqueKey", "where", "sqlJoin", "orderBy",
   "sortKey", "limit", "paginate", "sqlBatch", "junction", "children"]

/-- A relation from its fields. -/
def readRelation (fields : List (String × Json)) : Except String (Relation γ) := do
  return {
    name := ← required fields "name" readText
    table := ← required fields "sqlTable" readText
    label := ← required fields "as" readText
    args := ← optional fields "args" [] readArgs
    columns := ← optional fields "columns" [] (readList readColumn)
    uniqueKey := ← optional fields "uniqueKey" [] (readList readText)
    filter := ← nullable fields "where" readFilter
    join := ← nullable fields "sqlJoin" readJoin
    orderBy := ← nullable fields "orderBy" readOrdering
    sortKey := ← nullable fields "sortKey" readOrdering
    limit := ← nullable fields "limit" readCount
    paginate := ← optional fields "paginate" false readFlag
    batch := ← nullable fields "sqlBatch" readBatchKeys
    junction := ← nullable fields "junction" readJunction }

/-- A plan of at most the given number of levels. -/
def readLevels : Nat → Json → Except String (Plan γ)
  | 0, _ => .error "too many levels"
  | levels + 1, value => do
    let fields ← recordFields relationFields value
    let relation ← readRelation fields
    let children ← optional fields "children" [] (readList (readLevels levels))
    return ⟨relation, children⟩

/-- The plan with the given JSON form. A plan has no more levels than its form has containers
inside one another. -/
def ofJson (value : Json) : Except PlanError (Plan γ) :=
  (readLevels (value.depth + 1) value).mapError fun reason => .invalidPlan (.unreadable reason)

/-! ## Texts -/

/-- The interest in some fields of a record: in a part of those that `parts` lists, and in all of
the others. -/
def interestIn (names : List String) (parts : List (String × Json.Interest)) : Json.Interest :=
  .record (names.map fun name => (name, (parts.lookup name).getD .whole))

/-- What is wanted of a pair of batch keys. -/
def batchInterest : Json.Interest := interestIn batchFields []

/-- What is wanted of a junction. -/
def junctionInterest : Json.Interest := interestIn junctionFields [("sqlBatch", batchInterest)]

/-- What is wanted of a plan of at most the given number of levels. -/
def interest : Nat → Json.Interest
  | 0 => .whole
  | levels + 1 => interestIn relationFields [
      ("sqlBatch", batchInterest), ("junction", junctionInterest),
      ("children", .items (interest levels))]

/-- The plan in a text. -/
def parse (text : String) : Except PlanError (Plan γ) :=
  match Json.excerpt? (interest Json.nestingLimit) text with
  | some value => ofJson value
  | none => .error (.invalidPlan (.unreadable "the text is not JSON"))

end RelationSql.Plan
