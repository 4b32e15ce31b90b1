/-!
# Orders

Columns with a direction, and an order as such columns bound to the alias of the table that has
them.
-/

namespace RelationSql

/-- The direction of a sort column. -/
inductive Direction where
  /-- smallest first -/
  | asc
  /-- greatest first -/
  | desc
deriving DecidableEq, Repr, Inhabited

namespace Direction

/-- The opposite direction. -/
def reversed : Direction → Direction
  | asc => desc
  | desc => asc

/-- The SQL word. -/
def word : Direction → String
  | asc => "ASC"
  | desc => "DESC"

/-- The comparison that selects what comes after a value in this direction. -/
def seekOperator : Direction → String
  | asc => ">"
  | desc => "<"

@[simp] theorem reversed_reversed (d : Direction) : d.reversed.reversed = d := by cases d <;> rfl

end Direction

/-- A column of an order. -/
structure OrderColumn where
  /-- the name of the column -/
  column : String
  /-- its direction -/
  direction : Direction := .asc
deriving DecidableEq, Repr, Inhabited

namespace OrderColumn

/-- The same column in the opposite direction. -/
def reversed (c : OrderColumn) : OrderColumn := { c with direction := c.direction.reversed }

end OrderColumn

/-- Columns to order by, and the alias of the table they belong to. -/
structure Order where
  /-- the alias of the table -/
  table : String
  /-- the columns, most significant first -/
  columns : List OrderColumn
deriving DecidableEq, Repr, Inhabited

namespace Order

/-- The list after `ORDER BY`, with identifiers quoted by `quote`. -/
def toSql (quote : String → String) (order : Order) : String :=
  ", ".intercalate
    (order.columns.map fun c => s!"{quote order.table}.{quote c.column} {c.direction.word}")

end Order

end RelationSql
