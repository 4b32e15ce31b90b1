import RelationSql.Json.Basic

/-!
# Rows

A row holds a value for each result column. The columns of one relation are those whose names start
with its alias and two underscores.
-/

namespace RelationSql

/-- The values of a fetched row, by result column. -/
abbrev Row := List (String × Json)

namespace Row

/-- The value of a result column. -/
def get? (row : Row) (column : String) : Option Json := row.lookup column

/-- What remains of a list after a front part. -/
def dropFront? : List Char → List Char → Option (List Char)
  | [], rest => some rest
  | _ :: _, [] => none
  | c :: front, d :: rest => if c = d then dropFront? front rest else none

/-- The name of a column within the relation with an alias, if the result column belongs to it. -/
def columnOf? (label column : String) : Option String :=
  (dropFront? (label ++ "__").toList column.toList).map String.ofList

/-- The columns of the relation with an alias, under their own names. -/
def nodeColumns (row : Row) (label : String) : Row :=
  row.filterMap fun field => (columnOf? label field.1).map fun column => (column, field.2)

/-- The row without a column. -/
def erase (row : Row) (column : String) : Row := row.filter fun field => field.1 != column

end Row

end RelationSql
