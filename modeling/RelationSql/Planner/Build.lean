import RelationSql.Plan.Deferral
import RelationSql.Plan.Lookup
import RelationSql.Plan.Validation
import RelationSql.Planner.Pages

/-!
# Building statements

The statement of a plan holds the joined part of the plan. Each relation contributes what it
selects, where its rows come from, its conditions and its order; the contributions follow one
another, parents before children and children in declared order. Batched relations are left to
statements of their own; for each of them the parent's key column is selected.
-/

namespace RelationSql

/-- Where a relation stands in its statement. -/
inductive Position (γ : Type) where
  /-- the statement starts from it -/
  | root
  /-- it is joined to its parent -/
  | joined (parent : Relation γ)
  /-- the statement starts from it, for the keys of many parents -/
  | batch (scope : KeyScope)

/-- A batched relation that waits for the rows of its parent. -/
structure Deferred where
  /-- the alias of the batched relation -/
  label : String
  /-- the alias of its parent -/
  parentLabel : String
  /-- the result column of the parent's statement that holds the keys -/
  parentKeyColumn : String
  /-- the result column of the batched statement that holds the same keys -/
  childKeyColumn : String
deriving DecidableEq, Repr

/-- The columns by which a deferred relation meets its parent. -/
def Deferral.columns {γ : Type} (d : Deferral γ) : Deferred where
  label := d.plan.relation.label
  parentLabel := d.parent.label
  parentKeyColumn := resultName d.parent.label d.keys.parentKey
  childKeyColumn := resultName d.plan.relation.facingAlias d.keys.thisKey

/-- A statement and the relations that wait for its rows. -/
structure Query where
  /-- the text of the statement -/
  sql : String
  /-- the deferred relations -/
  deferred : List Deferred
deriving DecidableEq, Repr

/-- Where the rows of a relation come from. -/
structure Source where
  /-- the tables -/
  tables : List Fragment
  /-- the conditions on the statement as a whole -/
  conditions : List Condition := []

namespace Relation

variable {γ : Type}

/-! ## Selections and orders -/

/-- The selection of the unique key. -/
def keySelections (r : Relation γ) : List Selection :=
  match r.uniqueKey with
  | [] => []
  | [key] => [.ofColumn r.label key]
  | keys => [⟨r.label, .compositeKey keys, "#".intercalate keys⟩]

/-- The selections that a page is cut by: the sort values, or the number of all rows. -/
def pageSelections (r : Relation γ) : Except PlanError (List Selection) :=
  match r.pagingMode? with
  | none => .ok []
  | some .offset => .ok [.ofColumn r.facingAlias totalColumn]
  | some .keyset => r.pagingOrder.map fun order =>
      order.columns.map fun key => .ofColumn order.table key.column

/-- The selection of the keys that the rows of a batch are handed out by. -/
def scopeSelections (r : Relation γ) : Position γ → List Selection
  | .batch _ => r.batchKeys?.toList.map fun keys => .ofColumn r.facingAlias keys.thisKey
  | _ => []

/-- What a relation selects for itself. -/
def selections (r : Relation γ) (position : Position γ) : Except PlanError (List Selection) := do
  let page ← r.pageSelections
  return r.columns.map (fun c => ⟨r.label, .column c.column, c.name⟩) ++ r.keySelections ++ page
    ++ r.scopeSelections position

/-- The order that is declared for the rows: that of the relation, or else of its junction. -/
def declaredOrder? (r : Relation γ) : Option Order :=
  match r.orderBy <|> r.sortKey with
  | some columns => some ⟨r.label, columns⟩
  | none => r.junction.bind fun j =>
      (j.orderBy <|> j.sortKey).map fun columns => ⟨j.label, columns⟩

/-- What a relation adds to the order of its statement. -/
def outerOrder (r : Relation γ) : Except PlanError (Option Order) :=
  if r.isPaged then r.pagingOrder.map some else .ok r.declaredOrder?

end Relation

namespace Planner

variable {γ : Type} (planner : Planner) (context : γ)

/-! ## Sources -/

/-- The source of the relation that a statement starts from. -/
def rootSource (r : Relation γ) : Trace Source :=
  if r.isPaged then do
    let tables ← planner.rootPage context r
    return { tables }
  else do
    let conditions ← planner.conditions context r
    return { tables := [.base r.table r.label], conditions }

/-- The source of a relation that is joined to its parent directly. -/
def directSource (parent r : Relation γ) : Trace Source := do
  let hook ← Trace.require r.join (.invalidPlan (.noJoin r.name))
  let join ← planner.askJoin context r .join parent.label r.label hook
  if r.isPaged then
    let tables ← planner.joinedPage context r join
    return { tables }
  else
    let conditions ← planner.conditions context r
    return { tables := [.leftJoin r.table r.label join], conditions }

/-- The source of a relation that is joined to its parent through a junction. -/
def junctionSource (parent r : Relation γ) (j : Junction γ) : Trace Source := do
  let hooks ← Trace.require j.joins (.invalidPlan (.noJunctionJoins r.name))
  let toJunction ← planner.askJoin context r .toJunction parent.label j.label hooks.1
  let toChild ← planner.askJoin context r .toChild j.label r.label hooks.2
  if r.isPaged then
    let tables ← planner.joinedJunctionPage context r toJunction toChild
    return { tables }
  else
    let conditions ← planner.conditions context r
    return {
      tables := [.leftJoin j.table j.label toJunction, .leftJoin r.table r.label toChild]
      conditions }

/-- The source of a relation that is fetched for many parents, without a junction. -/
def directBatchSource (r : Relation γ) (scope : KeyScope) : Trace Source := do
  let keys ← Trace.require r.batch (.invalidPlan (.noBatchKeys r.name))
  if r.isPaged then
    let tables ← planner.batchedPage context r scope
    return { tables }
  else
    let conditions ← planner.conditions context r
    return {
      tables := [.base r.table r.label]
      conditions := .keyIn r.label keys.thisKey scope :: conditions }

/-- The source of a relation that is fetched for many parents through a junction. -/
def junctionBatchSource (r : Relation γ) (j : Junction γ) (scope : KeyScope) : Trace Source := do
  let keys ← Trace.require j.batch (.invalidPlan (.noJunctionBatch r.name))
  let hook ← Trace.require j.childJoin? (.invalidPlan (.noChildJoin r.name))
  let toChild ← planner.askJoin context r hook.1 j.label r.label hook.2
  if r.isPaged then
    let tables ← planner.batchedJunctionPage context r scope toChild
    return { tables }
  else
    let conditions ← planner.conditions context r
    return {
      tables := [.base j.table j.label, .leftJoin r.table r.label toChild]
      conditions := .keyIn j.label keys.thisKey scope :: conditions }

/-- The source of a relation in a position. -/
def source (position : Position γ) (r : Relation γ) : Trace Source :=
  match position, r.junction with
  | .root, _ => planner.rootSource context r
  | .joined parent, none => planner.directSource context parent r
  | .joined parent, some j => planner.junctionSource context parent r j
  | .batch scope, none => planner.directBatchSource context r scope
  | .batch scope, some j => planner.junctionBatchSource context r j scope

/-! ## Statements -/

/-- What a relation contributes to its statement, given the batched relations that hang off it. -/
def contribution (position : Position γ) (r : Relation γ) (batched : List (Deferral γ)) :
    Trace Statement := do
  let selections ← .ofExcept (r.selections position)
  let source ← planner.source context position r
  let order? ← .ofExcept r.outerOrder
  return {
    selections := selections ++ batched.map fun d => .ofColumn r.label d.keys.parentKey
    tables := source.tables
    conditions := source.conditions
    orders := order?.toList }

mutual

/-- The contributions of the joined part of a plan. -/
def assemble (position : Position γ) : Plan γ → Trace Statement
  | ⟨r, children⟩ => do
    let own ← planner.contribution context position r (Plan.batchedAmong r children)
    let below ← assembleBelow r children
    return own ++ below

/-- The contributions of those plans below a relation that are joined to it. -/
def assembleBelow (parent : Relation γ) : List (Plan γ) → Trace Statement
  | [] => pure {}
  | p :: rest =>
    if p.relation.isBatched then assembleBelow parent rest
    else do
      let first ← assemble (.joined parent) p
      let others ← assembleBelow parent rest
      return first ++ others

end

/-- The statement of a plan whose root stands in a position; it has to select something. -/
def statementAt (position : Position γ) (p : Plan γ) : Trace Statement := do
  let statement ← planner.assemble context position p
  if statement.selections.isEmpty then .fail (.invalidPlan (.noColumns p.relation.label))
  else return statement

/-- The query of a plan whose root stands in a position. -/
def queryAt (position : Position γ) (p : Plan γ) : Trace Query := do
  let statement ← planner.statementAt context position p
  return {
    sql := statement.toSql planner.dialect
    deferred := p.deferrals.map Deferral.columns }

/-- Check the rules of a plan. -/
def validate (p : Plan γ) : Trace Unit := .ofExcept (p.validate.mapError .invalidPlan)

/-- The query of a plan. -/
def build (p : Plan γ) : Trace Query := do
  validate p
  planner.queryAt context .root p

/-- The query of a batched relation of a plan for some parent keys. -/
def buildBatch (p : Plan γ) (label : String) (scope : KeyScope) : Trace Query := do
  validate p
  let found ← Trace.require (p.find? label) (.invalidPlan (.unknownAlias label))
  let relation := found.1.relation
  if !relation.isBatched then .fail (.invalidPlan (.notBatched relation.name))
  else if scope.isEmpty then .fail (.invalidArguments (.noParentKeys relation.name))
  else planner.queryAt context (.batch scope) found.1

end Planner

end RelationSql
