import RelationSql.Cursor
import RelationSql.Paging.Args
import RelationSql.Paging.Limit
import RelationSql.Paging.Seek
import RelationSql.Plan.Basic

/-!
# The page of a relation

What the arguments of a paginated relation ask for: how many rows, in which order, and from where
on. *Keyset* paging goes on from the sort values in a cursor, in either direction; *offset* paging
skips the rows up to the index in a cursor and only goes forward.
-/

namespace RelationSql

/-- A page that is sought by its sort values. -/
structure KeysetPaging where
  /-- how many rows to fetch -/
  limit : Limit
  /-- the order in which they are fetched; on a backward page it runs against the sort key -/
  order : Order
  /-- the condition to come after the cursor, if there is one -/
  seek : Option Seek
  /-- whether the page is counted from the end -/
  backward : Bool
deriving DecidableEq

/-- A page that is found by counting rows. -/
structure OffsetPaging where
  /-- how many rows to fetch -/
  limit : Limit
  /-- how many rows to skip -/
  offset : UInt64
  /-- the order of the rows -/
  order : Order
deriving DecidableEq

/-- A page, by the way it is found. -/
inductive Paging where
  /-- by sort values -/
  | keyset (paging : KeysetPaging)
  /-- by counting -/
  | offset (paging : OffsetPaging)
deriving DecidableEq

namespace Paging

/-- The order in which rows are fetched. -/
def order : Paging → Order
  | keyset p => p.order
  | offset p => p.order

/-- How many rows are fetched. -/
def limit : Paging → Limit
  | keyset p => p.limit
  | offset p => p.limit

/-- How many rows are skipped, when they are counted. -/
def offset? : Paging → Option UInt64
  | keyset _ => none
  | offset p => some p.offset

/-- The condition to come after the cursor. -/
def seek? : Paging → Option Seek
  | keyset p => p.seek
  | offset _ => none

end Paging

/-- The order as declared, or in the opposite direction for a backward page. -/
def Order.directed (order : Order) (backward : Bool) : Order :=
  if backward then { order with columns := order.columns.map OrderColumn.reversed } else order

namespace Relation

variable {γ : Type}

/-! ## Orders -/

/-- The sort key, bound to the table that declares it: the relation, or else its junction. -/
def sortKey? (r : Relation γ) : Option Order :=
  match r.sortKey with
  | some columns => some ⟨r.label, columns⟩
  | none => r.junction.bind fun j => j.sortKey.map fun columns => ⟨j.label, columns⟩

/-- The declared order for offsets, bound to the table that declares it. -/
def orderBy? (r : Relation γ) : Option Order :=
  match r.orderBy with
  | some columns => some ⟨r.label, columns⟩
  | none => r.junction.bind fun j => j.orderBy.map fun columns => ⟨j.label, columns⟩

/-- A relation that is paged by keyset has a sort key. -/
theorem isSome_sortKey? {r : Relation γ} (h : r.pagingMode? = some .keyset) :
    r.sortKey?.isSome = true := by
  rw [pagingMode?] at h
  split at h
  · cases h
  · split at h
    · next hkey =>
      cases hown : r.sortKey <;> cases hj : r.junction <;>
        simp_all [hasSortKey, sortKey?]
    · split at h <;> cases h

/-- A relation that is paged by offset has an order for it. -/
theorem isSome_orderBy? {r : Relation γ} (h : r.pagingMode? = some .offset) :
    r.orderBy?.isSome = true := by
  rw [pagingMode?] at h
  split at h
  · cases h
  · split at h
    · cases h
    · split at h
      · next horder =>
        cases hown : r.orderBy <;> cases hj : r.junction <;>
          simp_all [hasOrderBy, orderBy?]
      · cases h

/-- The sort key, which has to be there. -/
def requireSortKey (r : Relation γ) : Except PlanError Order :=
  match r.sortKey? with
  | some order => .ok order
  | none => .error (.invalidPlan (.noSortKey r.name))

/-- The order for offsets: the declared one, or else the unique key. -/
def offsetOrder (r : Relation γ) : Except PlanError Order :=
  match r.orderBy? with
  | some order => .ok order
  | none =>
    if r.uniqueKey = [] then .error (.invalidPlan (.noOffsetOrder r.name))
    else .ok ⟨r.label, r.uniqueKey.map fun column => { column }⟩

/-- The page that the arguments ask for. -/
def pageArgs (r : Relation γ) : Except PlanError PageArgs :=
  (PageArgs.ofArgs r.args).mapError .invalidArguments

/-- The order in which the rows of a page are fetched; the cursor plays no part in it. -/
def pagingOrder (r : Relation γ) : Except PlanError Order :=
  match r.pagingMode? with
  | some .offset => r.offsetOrder
  | some .keyset => do
    let order ← r.requireSortKey
    let args ← r.pageArgs
    return order.directed args.last.isSome
  | none => .error (.invalidPlan (.notPaginated r.name))

/-! ## Pages -/

/-- The condition to come after a cursor in an order. -/
def seekAfter (columns : List OrderColumn) (cursor : String) : Except CursorFault Seek := do
  let cursor ← Cursor.decode cursor
  let values ← cursor.valuesFor columns
  Seek.after columns values

/-- The page of a relation with a sort key. The cursor is read and matched with the sort key, so
that an unusable one is refused here. -/
def keysetPaging (r : Relation γ) (settings : PageSettings) : Except PlanError KeysetPaging := do
  let args ← r.pageArgs
  let sortKey ← r.requireSortKey
  if sortKey.columns = [] then .error (.invalidPlan (.emptySortKey r.name))
  else
    let request ← args.keysetRequest.mapError .invalidArguments
    let order := sortKey.directed request.backward
    let seek ← (request.cursor.mapM (seekAfter order.columns)).mapError .invalidCursor
    return {
      limit := .forPage (settings.pageSize request.size r.limit)
      order
      seek
      backward := request.backward }

/-- The page of a relation whose rows are counted. -/
def offsetPaging (r : Relation γ) (settings : PageSettings) : Except PlanError OffsetPaging := do
  let args ← r.pageArgs
  if args.last.isSome || args.before.isSome then .error (.invalidArguments .backwardOffset)
  else
    let order ← r.offsetOrder
    let skipped ← (args.after.mapM OffsetCursor.decode).mapError .invalidCursor
    return {
      limit := .forPage (settings.pageSize args.first r.limit)
      offset := (skipped.map countSucc).getD 0
      order }

/-- The page of a paginated relation. -/
def paging (r : Relation γ) (settings : PageSettings) : Except PlanError Paging :=
  match r.pagingMode? with
  | some .keyset => (r.keysetPaging settings).map .keyset
  | some .offset => (r.offsetPaging settings).map .offset
  | none => .error (.invalidPlan (.notPaginated r.name))

end Relation

end RelationSql
