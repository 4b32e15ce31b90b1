import RelationSql.Hook
import RelationSql.Order

/-!
# Plans

A plan is a tree of relations. Each relation names a table, what to select from it, how it is
linked to its parent, and how its rows are ordered and paged. A relation is either *joined* to its
parent's statement or *batched*: fetched by a statement of its own for the keys of all parent rows.
A many-to-many relation has a *junction* table between its parent and itself.
-/

namespace RelationSql

/-- A selected column and the name it is returned under. -/
structure ColumnSelection where
  /-- the column of the table -/
  column : String
  /-- the name in the result -/
  name : String
deriving DecidableEq, Repr

/-- The pair of columns by which the rows of many parents are fetched at once. -/
structure BatchKeys (γ : Type) where
  /-- the column on the side of the relation, or of its junction, that holds the parent's key -/
  thisKey : String
  /-- the column on the parent's side -/
  parentKey : String
  /-- for a junction: its link to the relation -/
  join : Option (JoinHook γ) := none

/-- The table between the two sides of a many-to-many relation. -/
structure Junction (γ : Type) where
  /-- the table, or an expression that stands for one -/
  table : String
  /-- the name it has in statements -/
  label : String
  /-- a restriction of its rows -/
  filter : Option (FilterHook γ) := none
  /-- an order for paging by offset -/
  orderBy : Option (List OrderColumn) := none
  /-- an order for paging by keyset -/
  sortKey : Option (List OrderColumn) := none
  /-- the keys for fetching in batches -/
  batch : Option (BatchKeys γ) := none
  /-- the links from the parent to the junction and from the junction to the relation -/
  joins : Option (JoinHook γ × JoinHook γ) := none

namespace Junction

variable {γ : Type}

/-- The link from the junction to the relation, with the place it comes from: the pair of joins, or
else the batch keys. -/
def childJoin? (j : Junction γ) : Option (HookSlot × JoinHook γ) :=
  match j.joins with
  | some joins => some (.toChild, joins.2)
  | none => (j.batch.bind (·.join)).map fun hook => (.batchJoin, hook)

end Junction

/-- How a paginated relation is paged. -/
inductive PagingMode where
  /-- from the sort values of the last row seen -/
  | keyset
  /-- from the number of rows seen -/
  | offset
deriving DecidableEq, Repr

/-- A relation, apart from the relations below it. -/
structure Relation (γ : Type) where
  /-- the name of the field it answers -/
  name : String
  /-- the table, or an expression that stands for one -/
  table : String
  /-- the name it has in statements, different from all others of the plan -/
  label : String
  /-- the arguments of the field -/
  args : Args := []
  /-- the selected columns -/
  columns : List ColumnSelection := []
  /-- the columns that identify a row -/
  uniqueKey : List String := []
  /-- a restriction of its rows -/
  filter : Option (FilterHook γ) := none
  /-- the link to the parent, without a junction -/
  join : Option (JoinHook γ) := none
  /-- an order for paging by offset -/
  orderBy : Option (List OrderColumn) := none
  /-- an order for paging by keyset -/
  sortKey : Option (List OrderColumn) := none
  /-- the greatest page size -/
  limit : Option UInt64 := none
  /-- whether it is fetched page by page -/
  paginate : Bool := false
  /-- the keys for fetching in batches, without a junction -/
  batch : Option (BatchKeys γ) := none
  /-- the table between parent and relation -/
  junction : Option (Junction γ) := none

namespace Relation

variable {γ : Type}

/-- The keys for fetching in batches; with a junction they are the junction's. -/
def batchKeys? (r : Relation γ) : Option (BatchKeys γ) :=
  match r.junction with
  | some j => j.batch
  | none => r.batch

/-- Whether the relation is fetched by a statement of its own. -/
def isBatched (r : Relation γ) : Bool := r.batchKeys?.isSome

/-- The alias of the table that faces the parent: the junction's if there is one. -/
def facingAlias (r : Relation γ) : String :=
  match r.junction with
  | some j => j.label
  | none => r.label

/-- Whether relation or junction has a sort key. -/
def hasSortKey (r : Relation γ) : Bool :=
  r.sortKey.isSome || r.junction.any (·.sortKey.isSome)

/-- Whether relation or junction has an order for offsets. -/
def hasOrderBy (r : Relation γ) : Bool :=
  r.orderBy.isSome || r.junction.any (·.orderBy.isSome)

/-- How the relation is paged, if it is paginated and has an order. -/
def pagingMode? (r : Relation γ) : Option PagingMode :=
  if !r.paginate then none
  else if r.hasSortKey then some .keyset
  else if r.hasOrderBy then some .offset
  else none

/-- Whether the relation is fetched page by page. -/
def isPaged (r : Relation γ) : Bool := r.pagingMode?.isSome

end Relation

/-- A relation with the relations below it. -/
structure Plan (γ : Type) where
  /-- the relation itself -/
  relation : Relation γ
  /-- the relations that hang off it, in declared order -/
  children : List (Plan γ) := []

namespace Plan

variable {γ : Type}

mutual

/-- The number of relations in a plan. -/
def size : Plan γ → Nat
  | ⟨_, children⟩ => 1 + sizeAll children

/-- The number of relations in some plans. -/
def sizeAll : List (Plan γ) → Nat
  | [] => 0
  | p :: rest => size p + sizeAll rest

end

end Plan

end RelationSql
