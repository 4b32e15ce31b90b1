import RelationSql.Planner.Build
import RelationSql.Row

/-!
# Running plans

A plan is run by handing its statement to the database, and then one statement for each deferred
relation, over the keys that the rows of its parent hold. Relations wait in a queue: the deferred
relations of a statement are served before those of the statements they give rise to. A relation
whose parents hold no key is skipped.
-/

namespace RelationSql

/-- A database. Its answer to a statement may depend on all statements before it; the list ends
with the statement in question. -/
abbrev Database := (statements : List String) → Except String (List Row)

/-- The rows of a batched relation. -/
structure BatchResult where
  /-- how the relation meets its parent -/
  deferred : Deferred
  /-- the statement -/
  sql : String
  /-- its rows -/
  rows : List Row

/-- All rows that were fetched for a plan. -/
structure Execution where
  /-- the statement of the plan -/
  sql : String
  /-- its rows -/
  rows : List Row
  /-- the batched relations, in the order in which they were fetched -/
  batches : List BatchResult

namespace Execution

/-- The rows of the batched relation with an alias. -/
def batch? (e : Execution) (label : String) : Option BatchResult :=
  e.batches.find? fun b => b.deferred.label = label

/-- The number of statements that were run. -/
def roundTrips (e : Execution) : Nat := 1 + e.batches.length

end Execution

/-- A deferred relation with the rows of its parent. -/
structure Pending (γ : Type) where
  /-- the relation -/
  deferral : Deferral γ
  /-- the rows that hold the keys -/
  parents : List Row

namespace Pending

variable {γ : Type}

/-- The keys in the rows of the parent. -/
def scope (p : Pending γ) : KeyScope :=
  .ofList (p.parents.filterMap fun row =>
    (row.get? p.deferral.columns.parentKeyColumn).bind Scalar.ofRowValue?)

/-- The deferred relations of a plan, all of which wait for the same rows. -/
def ofPlan (p : Plan γ) (rows : List Row) : List (Pending γ) :=
  p.deferrals.map fun d => ⟨d, rows⟩

/-- The number of relations that are still to be fetched. -/
def totalSize (queue : List (Pending γ)) : Nat := Plan.deferredSize (queue.map deferral)

@[simp] theorem totalSize_cons (p : Pending γ) (queue : List (Pending γ)) :
    totalSize (p :: queue) = p.deferral.plan.size + totalSize queue := by
  simp [totalSize]

@[simp] theorem totalSize_append (queue more : List (Pending γ)) :
    totalSize (queue ++ more) = totalSize queue + totalSize more := by
  simp [totalSize]

theorem totalSize_ofPlan (p : Plan γ) (rows : List Row) :
    totalSize (ofPlan p rows) = Plan.deferredSize p.deferrals := by
  simp [totalSize, ofPlan, Function.comp_def]

theorem size_pos (p : Plan γ) : 0 < p.size := by
  cases p
  rw [Plan.size]
  omega

end Pending

namespace Planner

variable {γ : Type} (planner : Planner) (context : γ) (database : Database)

/-- Hand a statement to the database, after others. -/
def execute (before : List String) (sql : String) : Trace (List Row) :=
  .happen (.statement sql) ((database (before ++ [sql])).mapError .execution)

/-- Fetch the relations of a queue, after some statements. -/
def runQueue (before : List String) : List (Pending γ) → Trace (List BatchResult)
  | [] => pure []
  | p :: queue =>
    if p.scope.isEmpty then runQueue before queue
    else do
      let query ← planner.queryAt context (.batch p.scope) p.deferral.plan
      let rows ← execute database before query.sql
      let results ← runQueue (before ++ [query.sql]) (queue ++ Pending.ofPlan p.deferral.plan rows)
      return ⟨p.deferral.columns, query.sql, rows⟩ :: results
termination_by queue => Pending.totalSize queue
decreasing_by
  · have := Pending.size_pos p.deferral.plan
    simp only [Pending.totalSize_cons]
    omega
  · have := Plan.deferredSize_deferrals p.deferral.plan
    simp only [Pending.totalSize_cons, Pending.totalSize_append, Pending.totalSize_ofPlan]
    omega

/-- Fetch all rows of a plan. -/
def run (p : Plan γ) : Trace Execution := do
  let query ← planner.build context p
  let rows ← execute database [] query.sql
  let batches ← planner.runQueue context database [query.sql] (Pending.ofPlan p rows)
  return { sql := query.sql, rows, batches }

end Planner

end RelationSql
