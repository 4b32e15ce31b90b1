import RelationSql.Sql.Statement
import RelationSql.Trace

/-!
# Planners

A planner builds the statements of plans for one dialect. It asks the hooks of the relations for
conditions; each hook gets quoted names, and its failure ends the build.
-/

namespace RelationSql

/-- What statements are built with. -/
structure Planner where
  /-- the database they are for -/
  dialect : Dialect
  /-- the page sizes that hold for every relation -/
  settings : PageSettings := {}

namespace Planner

variable {γ : Type} (planner : Planner) (context : γ)

/-- Ask a filter of a relation for its condition on the table with an alias. -/
def askFilter (r : Relation γ) (slot : HookSlot) (label : String) (hook : FilterHook γ) :
    Trace (Option String) :=
  let table := planner.dialect.quote label
  .happen (.hook ⟨r.label, slot, [table]⟩)
    ((hook.condition table r.args context).mapError (.hookFailure label))

/-- Ask a join of a relation for its condition between two tables. The child is the one that a
failure is reported for. -/
def askJoin (r : Relation γ) (slot : HookSlot) (parent child : String) (hook : JoinHook γ) :
    Trace String :=
  let parentTable := planner.dialect.quote parent
  let childTable := planner.dialect.quote child
  .happen (.hook ⟨r.label, slot, [parentTable, childTable]⟩)
    ((hook.run parentTable childTable r.args context).mapError (.hookFailure child))

/-- The condition of a filter that may be absent. -/
def filterConditions (r : Relation γ) (slot : HookSlot) (label : String) :
    Option (FilterHook γ) → Trace (List Condition)
  | none => pure []
  | some hook => do
    let condition? ← planner.askFilter context r slot label hook
    return condition?.toList.map .given

/-- The conditions of the filter on the junction of a relation. -/
def junctionConditions (r : Relation γ) : Trace (List Condition) :=
  match r.junction with
  | none => pure []
  | some j => planner.filterConditions context r .junctionFilter j.label j.filter

/-- The conditions of the filters of a relation: the junction's first, then its own. -/
def conditions (r : Relation γ) : Trace (List Condition) := do
  let junction ← planner.junctionConditions context r
  let own ← planner.filterConditions context r .filter r.label r.filter
  return junction ++ own

end Planner

end RelationSql
