import RelationSql.Planner.Basic

/-!
# Pages in statements

The fragments that fetch a page, by technique. What is wrong with the relation or with the request
is found before a filter is asked. A dialect with correlated subselects attaches a page to each
parent row, or to each row of a list of parent keys; one without them fetches a batch as the union
of one page for each key.
-/

namespace RelationSql

/-- The join of the table of a relation inside a page of its junction, which is needed when a filter
or an order of the relation refers to it. -/
def Relation.extraJoin {γ : Type} (r : Relation γ) (toChild : String) : Option ExtraJoin :=
  if r.filter.isSome || r.orderBy.isSome || r.sortKey.isSome then
    some ⟨r.table, r.label, toChild⟩
  else none

/-- The condition to come after the cursor of a page. -/
def Paging.seekConditions (paging : Paging) : List Condition :=
  paging.seek?.toList.map (.seek paging.order.table)

namespace Planner

variable {γ : Type} (planner : Planner) (context : γ)

/-- The end of a build for which the dialect has no rendering. -/
def unsupported {α : Type} (technique : Technique) : Trace α :=
  .fail (.unsupportedPagination planner.dialect.name technique)

/-- The page that a relation asks for. -/
def pagingOf (r : Relation γ) : Trace Paging := .ofExcept (r.paging planner.settings)

/-- The conditions on the rows of a page: filters first, then the condition to come after the
cursor. -/
def pageConditions (r : Relation γ) (paging : Paging) : Trace (List Condition) := do
  let conditions ← planner.conditions context r
  return conditions ++ paging.seekConditions

/-! ## Root pages -/

/-- A page that the statement starts from, in a window style. -/
def derivedPage (style : WindowStyle) (r : Relation γ) : Trace (List Fragment) := do
  let paging ← planner.pagingOf r
  let conditions ← planner.pageConditions context r paging
  return [.page style (.ofPaging r.table r.label conditions paging)]

/-- The page of the relation that the statement starts from. -/
def rootPage (r : Relation γ) : Trace (List Fragment) :=
  match planner.dialect.paging with
  | .unsupported => planner.unsupported .root
  | .correlated style => planner.derivedPage context style.window r
  | .union => planner.derivedPage context .limit r

/-! ## Joined pages -/

/-- The page of a relation for each row of its parent. -/
def joinedPage (r : Relation γ) (join : String) : Trace (List Fragment) :=
  match planner.dialect.paging with
  | .correlated style => do
    let paging ← planner.pagingOf r
    let conditions ← planner.pageConditions context r paging
    return [.correlatedPage style .left (.given join)
      (.ofPaging r.table r.label (.given join :: conditions) paging)]
  | _ => planner.unsupported .joinedOneToMany

/-- The page of a junction for each row of the parent, and the relation behind it. -/
def joinedJunctionPage (r : Relation γ) (toJunction toChild : String) : Trace (List Fragment) :=
  match planner.dialect.paging with
  | .correlated style => do
    let j ← Trace.require r.junction (.invalidPlan (.noJunction r.name))
    let paging ← planner.pagingOf r
    let conditions ← planner.pageConditions context r paging
    return [
      .correlatedPage style .left (.given toJunction)
        (.ofPaging j.table j.label (.given toJunction :: conditions) paging (r.extraJoin toChild)),
      .childJoin style.aliasWord r.table r.label toChild]
  | _ => planner.unsupported .joinedManyToMany

/-! ## Batched pages -/

/-- A page of a table for each parent key, behind the list of keys. -/
def keyedPage (style : Correlation) (kind : JoinKind) (r : Relation γ) (keys : BatchKeys γ)
    (scope : KeyScope) (table label : String) (extraJoin : Option ExtraJoin) :
    Trace (List Fragment) := do
  let paging ← planner.pagingOf r
  let isCurrent := Condition.keyIsCurrent style label keys.thisKey keys.parentKey
    scope.startsWithText
  let conditions ← planner.pageConditions context r paging
  return [
    .keys style keys.parentKey scope,
    .correlatedPage style kind isCurrent
      (.ofPaging table label (isCurrent :: conditions) paging extraJoin)]

/-- The union of one page of a table for each parent key. -/
def unionPage (r : Relation γ) (keys : BatchKeys γ) (scope : KeyScope) (table label : String)
    (extraJoin : Option ExtraJoin) : Trace (List Fragment) := do
  let paging ← planner.pagingOf r
  let conditions ← planner.pageConditions context r paging
  let member (key : Scalar) : PagedSelect :=
    .ofPaging table label (conditions ++ [.keyIs label keys.thisKey key]) paging extraJoin
  return [.union label (scope.keys.map member)]

/-- The page of a relation for each parent key. -/
def batchedPage (r : Relation γ) (scope : KeyScope) : Trace (List Fragment) :=
  match planner.dialect.paging with
  | .unsupported => planner.unsupported .batchedOneToMany
  | .correlated style => do
    let keys ← Trace.require r.batch (.invalidPlan (.noBatchKeys r.name))
    planner.keyedPage context style .inner r keys scope r.table r.label none
  | .union => do
    let keys ← Trace.require r.batch (.invalidPlan (.noBatchKeys r.name))
    planner.unionPage context r keys scope r.table r.label none

/-- The page of a junction for each parent key, and the relation behind it. -/
def batchedJunctionPage (r : Relation γ) (scope : KeyScope) (toChild : String) :
    Trace (List Fragment) :=
  match planner.dialect.paging with
  | .unsupported => planner.unsupported .batchedManyToMany
  | .correlated style => do
    let j ← Trace.require r.junction (.invalidPlan (.noJunction r.name))
    let keys ← Trace.require j.batch (.invalidPlan (.noBatchKeys r.name))
    let page ← planner.keyedPage context style .left r keys scope j.table j.label
      (r.extraJoin toChild)
    return page ++ [.childJoin style.aliasWord r.table r.label toChild]
  | .union => do
    let j ← Trace.require r.junction (.invalidPlan (.noJunction r.name))
    let keys ← Trace.require j.batch (.invalidPlan (.noJunctionBatchKeys r.name))
    let page ← planner.unionPage context r keys scope j.table j.label (r.extraJoin toChild)
    return page ++ [.childJoin "AS " r.table r.label toChild]

end Planner

end RelationSql
