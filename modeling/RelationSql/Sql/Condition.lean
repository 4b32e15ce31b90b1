import RelationSql.Dialect.Basic
import RelationSql.KeyScope
import RelationSql.Paging.Seek

/-!
# Conditions

The parts of a `WHERE` clause. Hooks supply theirs as text; the others are built here, from quoted
identifiers and literals only.
-/

namespace RelationSql

/-! ## Seek predicates -/

/-- The comparison of a column of a table, whose quoted name is given, with a literal. -/
def Comparison.toSql (d : Dialect) (table : String) (c : Comparison) : String :=
  s!"{table}.{d.quote c.column} {c.comparator.symbol} {d.literal c.value}"

/-- Texts joined by a word, in parentheses if there are several. -/
def grouped (word : String) : List String → String
  | [part] => part
  | parts =>
    let joined := word.intercalate parts
    s!"({joined})"

/-- The predicate on a table whose quoted name is given. -/
def Seek.toSql (d : Dialect) (table : String) (seek : Seek) : String :=
  grouped " OR " (seek.branches.map fun branch =>
    grouped " AND " (branch.map (Comparison.toSql d table)))

/-! ## Parent keys -/

namespace Correlation

/-- The name of the parent key of the current row. -/
def currentKey (d : Dialect) (parentKey : String) : Correlation → String
  | lateral => s!"temp.{d.quote parentKey}"
  | apply => d.column "temp" "value"

/-- A column as it is compared with the parent key of the current row. Where keys are listed
without a type, a column is compared as text if the keys are texts. -/
def keyOperand (asText : Bool) (column : String) : Correlation → String
  | lateral => if asText then s!"CAST({column} AS TEXT)" else column
  | apply => column

end Correlation

/-! ## Conditions -/

/-- A condition on the rows of a statement or a subselect. -/
inductive Condition where
  /-- the text of a hook -/
  | given (sql : String)
  /-- the rows of a table that come after a cursor -/
  | seek (table : String) (seek : Seek)
  /-- the rows that belong to one parent key -/
  | keyIs (table column : String) (key : Scalar)
  /-- the rows that belong to any of some parent keys -/
  | keyIn (table column : String) (scope : KeyScope)
  /-- the rows that belong to the parent key of the current row -/
  | keyIsCurrent (style : Correlation) (table column parentKey : String) (asText : Bool)

namespace Condition

/-- The text of a condition. -/
def toSql (d : Dialect) : Condition → String
  | given sql => sql
  | seek table predicate => predicate.toSql d (d.quote table)
  | keyIs table column key => s!"{d.column table column} = {d.literal key}"
  | keyIn table column scope =>
    let keys := ", ".intercalate (scope.keys.map d.literal)
    s!"{d.column table column} IN ({keys})"
  | keyIsCurrent style table column parentKey asText =>
    s!"{style.keyOperand asText (d.column table column)} = {style.currentKey d parentKey}"

/-- The text of several conditions that all have to hold. -/
def conjunction (d : Dialect) (conditions : List Condition) : String :=
  " AND ".intercalate (conditions.map (toSql d))

end Condition

end RelationSql
