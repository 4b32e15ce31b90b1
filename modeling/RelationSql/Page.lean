import RelationSql.Paging.Interpretation
import RelationSql.Row
import RelationSql.Sql.Statement

/-!
# Pages

The page that is made of fetched rows. The row beyond the page size is cut off and only tells that
more rows follow. A page that was fetched backward is put back into the order of the sort key.
-/

namespace RelationSql

/-- A row of a page. -/
structure Edge where
  /-- the place of the row -/
  cursor : String
  /-- the columns of the relation -/
  node : Row

/-- What lies around a page. -/
structure PageInfo where
  /-- whether rows follow -/
  hasNextPage : Bool
  /-- whether rows precede -/
  hasPreviousPage : Bool
  /-- the cursor of the first row -/
  startCursor : Option String
  /-- the cursor of the last row -/
  endCursor : Option String
deriving DecidableEq, Repr

/-- A page of a relation. -/
structure Page where
  /-- its rows -/
  edges : List Edge
  /-- what lies around it -/
  info : PageInfo
  /-- the number of rows of all pages together, if it is known -/
  total : Option UInt64

namespace Page

/-! ## Cutting -/

/-- The rows that belong to a page. -/
def kept (limit : Limit) (rows : List Row) : List Row :=
  match limit.pageSize with
  | some size => rows.take size.toNat
  | none => rows

/-- Whether there are rows beyond the page. -/
def hasMore (limit : Limit) (rows : List Row) : Bool :=
  match limit.pageSize with
  | some size => decide (size.toNat < rows.length)
  | none => false

/-- A page of some edges. -/
def ofEdges (edges : List Edge) (hasNextPage hasPreviousPage : Bool) (total : Option UInt64) :
    Page where
  edges
  info := {
    hasNextPage
    hasPreviousPage
    startCursor := edges.head?.map Edge.cursor
    endCursor := edges.getLast?.map Edge.cursor }
  total

/-! ## Keyset pages -/

/-- A sort column with its value in a row, which must not be null. -/
def sortEntry (row : Row) (table : String) (key : OrderColumn) :
    Except CursorFault (String × Scalar) :=
  match (row.get? (resultName table key.column)).bind Scalar.ofRowValue? with
  | none | some .null => .error (.unusableRow key.column)
  | some value => .ok (key.column, value)

/-- The cursor of a row in an order. -/
def keysetCursor (order : Order) (row : Row) : Except CursorFault Cursor :=
  (order.columns.mapM (sortEntry row order.table)).map Cursor.mk

/-- The edge of a row whose cursor holds its sort values. -/
def keysetEdge (label : String) (order : Order) (row : Row) : Except CursorFault Edge := do
  let cursor ← keysetCursor order row
  return { cursor := cursor.encode, node := row.nodeColumns label }

/-- The page of a relation with an alias, from rows that were sought. -/
def ofKeyset (label : String) (paging : KeysetPaging) (rows : List Row) :
    Except CursorFault Page := do
  let more := hasMore paging.limit rows
  let kept := kept paging.limit rows
  let edges ← (if paging.backward then kept.reverse else kept).mapM
    (keysetEdge label paging.order)
  return ofEdges edges (more && !paging.backward) (more && paging.backward) none

/-! ## Offset pages -/

/-- The number of rows in the column for it: a number or the text of one. -/
def totalOf? : Json → Option UInt64
  | .integer n => Text.uint64OfInt? n
  | .text s => Text.unsigned? s.toList
  | _ => none

/-- The edge of the row with an index. -/
def offsetEdge (label : String) (index : UInt64) (row : Row) : Edge where
  cursor := OffsetCursor.encode index
  node := (row.nodeColumns label).erase totalColumn

/-- The edges of some rows, the first of which has the given index. -/
def offsetEdges (label : String) : UInt64 → List Row → List Edge
  | _, [] => []
  | index, row :: rest => offsetEdge label index row :: offsetEdges label (index + 1) rest

/-- The page of a relation, from rows that were counted. -/
def ofOffset {γ : Type} (r : Relation γ) (paging : OffsetPaging) (rows : List Row) : Page :=
  let kept := kept paging.limit rows
  let total := kept.head?.bind fun row =>
    (row.get? (resultName r.facingAlias totalColumn)).bind totalOf?
  ofEdges (offsetEdges r.label paging.offset kept) (hasMore paging.limit rows)
    (decide (0 < paging.offset)) total

/-- The page of a relation, from the rows that were fetched for it. -/
def ofRows {γ : Type} (r : Relation γ) (paging : Paging) (rows : List Row) :
    Except PlanError Page :=
  match paging with
  | .keyset keyset => (ofKeyset r.label keyset rows).mapError .invalidCursor
  | .offset offset => .ok (ofOffset r offset rows)

end Page

end RelationSql
