import RelationSql.Error
import RelationSql.Order
import RelationSql.Scalar

/-!
# Seek predicates

The condition "strictly after the row with these sort values", as plain comparisons. A row comes
after another one if it goes past it in the first column, or if it equals it there and comes after
it in the remaining columns.
-/

namespace RelationSql

/-- How a column is compared with a value. -/
inductive Comparator where
  /-- the same -/
  | equal
  /-- further on in a direction -/
  | past (direction : Direction)
deriving DecidableEq, Repr

namespace Comparator

/-- The SQL operator. -/
def symbol : Comparator → String
  | equal => "="
  | past direction => direction.seekOperator

end Comparator

/-- A comparison of a column with a value. -/
structure Comparison where
  /-- the column -/
  column : String
  /-- how they compare -/
  comparator : Comparator
  /-- the value -/
  value : Scalar
deriving DecidableEq

/-- A disjunction of conjunctions of comparisons. -/
structure Seek where
  /-- the conjunctions -/
  branches : List (List Comparison)
deriving DecidableEq

namespace Seek

/-- One branch for each column: equal in the columns before it and past the value in its own. -/
def branchesAfter : List (OrderColumn × Scalar) → List (List Comparison)
  | [] => []
  | (key, value) :: rest =>
    [⟨key.column, .past key.direction, value⟩] ::
      (branchesAfter rest).map (⟨key.column, .equal, value⟩ :: ·)

/-- The condition that a row comes after the one with the given sort values. There has to be a
column, a value for each column, and no null among the values. -/
def after (columns : List OrderColumn) (values : List Scalar) : Except CursorFault Seek :=
  if columns = [] ∨ columns.length ≠ values.length then .error .misaligned
  else
    match (columns.zip values).find? (fun pair => pair.2 = .null) with
    | some pair => .error (.nullValue pair.1.column)
    | none => .ok ⟨branchesAfter (columns.zip values)⟩

end Seek

end RelationSql
