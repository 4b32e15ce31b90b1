import RelationSql.Sql.Fragment

/-!
# Statements

A statement is put together from the parts that the relations contribute, parents before children.
The result columns are named `table__column`; a selection that is repeated is written once.
-/

namespace RelationSql

/-- The name of a result column: the alias of a table and the name of a column. -/
def resultName (table column : String) : String := s!"{table}__{column}"

/-- What a selection selects from its table. -/
inductive SelectionSource where
  /-- a column -/
  | column (name : String)
  /-- one expression for several columns -/
  | compositeKey (columns : List String)
deriving DecidableEq, Repr

/-- An entry of the list of selections. -/
structure Selection where
  /-- the alias of the table -/
  table : String
  /-- what is selected -/
  source : SelectionSource
  /-- the name it is returned under, apart from the table -/
  name : String
deriving DecidableEq, Repr

namespace Selection

/-- A column under its own name. -/
def ofColumn (table column : String) : Selection := ⟨table, .column column, column⟩

/-- The name of the result column. -/
def resultName (s : Selection) : String := RelationSql.resultName s.table s.name

/-- The selected expression. -/
def expression (d : Dialect) (s : Selection) : String :=
  match s.source with
  | .column name => d.column s.table name
  | .compositeKey columns => d.compositeKey s.table columns

/-- The text of a selection. -/
def toSql (d : Dialect) (s : Selection) : String :=
  s!"{s.expression d} AS {d.quote s.resultName}"

end Selection

/-- The parts of a statement. -/
structure Statement where
  /-- what is selected -/
  selections : List Selection := []
  /-- where rows come from -/
  tables : List Fragment := []
  /-- the conditions that rows have to meet -/
  conditions : List Condition := []
  /-- the orders of the relations, the most significant one first -/
  orders : List Order := []

namespace Statement

/-- The parts of two statements, one behind the other. -/
protected def append (s t : Statement) : Statement where
  selections := s.selections ++ t.selections
  tables := s.tables ++ t.tables
  conditions := s.conditions ++ t.conditions
  orders := s.orders ++ t.orders

instance : Append Statement := ⟨Statement.append⟩

@[simp] theorem selections_append (s t : Statement) :
    (s ++ t).selections = s.selections ++ t.selections := rfl

@[simp] theorem tables_append (s t : Statement) : (s ++ t).tables = s.tables ++ t.tables := rfl

@[simp] theorem conditions_append (s t : Statement) :
    (s ++ t).conditions = s.conditions ++ t.conditions := rfl

@[simp] theorem orders_append (s t : Statement) : (s ++ t).orders = s.orders ++ t.orders := rfl

/-- A clause with a list of parts, left out if there are none. -/
def clause (word separator : String) (parts : List String) : String :=
  if parts.isEmpty then "" else word ++ separator.intercalate parts

/-- The text of a statement. -/
def toSql (d : Dialect) (s : Statement) : String :=
  "SELECT\n  " ++ ",\n  ".intercalate (s.selections.map (Selection.toSql d)).eraseDups
    ++ String.join (s.tables.map fun table => "\n" ++ table.toSql d)
    ++ clause "\nWHERE " " AND " (s.conditions.map (Condition.toSql d))
    ++ clause "\nORDER BY " ", " (s.orders.map (Order.toSql d.quote))

end Statement

end RelationSql
