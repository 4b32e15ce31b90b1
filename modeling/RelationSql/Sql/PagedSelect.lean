import RelationSql.Paging.Interpretation
import RelationSql.Sql.Condition

/-!
# Subselects of one page

A subselect that fetches the rows of one page from a table. When rows are counted it also selects
their total number. A page of a junction may join the table of the relation, so that filters and
orders can refer to it.
-/

namespace RelationSql

/-- The column with the number of rows of all pages together. -/
def totalColumn : String := "$total"

/-- A table that is joined for its columns. -/
structure ExtraJoin where
  /-- the table -/
  table : String
  /-- its alias -/
  label : String
  /-- the condition that links it -/
  condition : String
deriving DecidableEq, Repr

/-- The rows of one page of a table. -/
structure PagedSelect where
  /-- the table -/
  table : String
  /-- its alias, inside and outside -/
  label : String
  /-- the conditions that rows have to meet -/
  conditions : List Condition
  /-- the order of the rows -/
  order : Order
  /-- how many rows to fetch -/
  limit : Limit
  /-- how many rows to skip, when rows are counted -/
  offset : Option UInt64
  /-- a table joined inside -/
  extraJoin : Option ExtraJoin := none

/-- The text of a limit. -/
def Limit.toSql (d : Dialect) : Limit → String
  | .rows count => Text.unsignedText count
  | .unlimited => d.unlimited

namespace WindowStyle

/-- A condition that always holds. -/
def always : WindowStyle → String
  | limit => "TRUE"
  | fetch => "1 = 1"

/-- The clause that restricts rows to a window. -/
def clause (d : Dialect) (rows : Limit) : WindowStyle → Option UInt64 → String
  | limit, none => s!"LIMIT {rows.toSql d}"
  | limit, some skipped => s!"LIMIT {rows.toSql d} OFFSET {Text.unsignedText skipped}"
  | fetch, none => s!"FETCH FIRST {rows.toSql d} ROWS ONLY"
  | fetch, some skipped =>
    s!"OFFSET {Text.unsignedText skipped} ROWS FETCH NEXT {rows.toSql d} ROWS ONLY"

end WindowStyle

namespace PagedSelect

/-- The subselect of a page of a table. -/
def ofPaging (table label : String) (conditions : List Condition) (paging : Paging)
    (extraJoin : Option ExtraJoin := none) : PagedSelect where
  table
  label
  conditions
  order := paging.order
  limit := paging.limit
  offset := paging.offset?
  extraJoin

/-- Whether the number of all rows is selected. -/
def hasTotal (select : PagedSelect) : Bool := select.offset.isSome

/-- The selected columns. -/
def columnList (d : Dialect) (select : PagedSelect) : String :=
  let all := d.quote select.label ++ ".*"
  if select.hasTotal then s!"{all}, count(*) OVER () AS {d.quote totalColumn}" else all

/-- The conditions joined, or the fallback if there are none. -/
def whereClause (d : Dialect) (fallback : String) (select : PagedSelect) : String :=
  if select.conditions.isEmpty then fallback else Condition.conjunction d select.conditions

/-- The lines from the table to the order. -/
def middleLines (d : Dialect) (fallback : String) (select : PagedSelect) : List String :=
  [s!"  FROM {select.table} {d.quote select.label}"]
    ++ (select.extraJoin.toList.map fun join =>
      s!"  LEFT JOIN {join.table} {d.quote join.label} ON {join.condition}")
    ++ [s!"  WHERE {select.whereClause d fallback}", s!"  ORDER BY {select.order.toSql d.quote}"]

/-- The lines of the subselect as a derived table. -/
def body (d : Dialect) (style : WindowStyle) (select : PagedSelect) : String :=
  "\n".intercalate
    ([s!"  SELECT {select.columnList d}"] ++ select.middleLines d style.always
      ++ [s!"  {style.clause d select.limit select.offset}"])

/-- The lines of the subselect as a member of a union, which names an offset only if rows are
skipped. -/
def unionMember (d : Dialect) (select : PagedSelect) : String :=
  let window := WindowStyle.clause d select.limit .limit (select.offset.filter (0 < ·))
  "\n".intercalate
    ([s!"  (SELECT {select.columnList d}"] ++ select.middleLines d "1" ++ [s!"  {window})"])

end PagedSelect

end RelationSql
