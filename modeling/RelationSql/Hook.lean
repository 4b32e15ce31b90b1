import RelationSql.Json.Basic
import RelationSql.Text.Blank
import RelationSql.Text.Replace

/-!
# Hooks

A hook supplies a piece of SQL for the tables it is asked about: a *filter* gives a condition on one
table, or none; a *join* gives the condition that links two tables. A hook gets the quoted names of
the tables, the arguments of the relation and a value of the caller's, the context. Hooks that also
look at the relation they belong to, with what hangs off it, have what they see of it in their
context (`Plan.handed`). A hook may fail with a reason. Here it answers at once; builds in which
hooks are waited for are the subject of `Course`. Plan files give hooks as templates.
-/

namespace RelationSql

/-- The arguments of a relation, by name. -/
abbrev Args := List (String × Json)

namespace Args

/-- The value of an argument. -/
def get? (args : Args) (name : String) : Option Json := args.lookup name

/-- The arguments without one. -/
def erase (args : Args) (name : String) : Args := args.filter fun arg => arg.1 != name

/-- The arguments with one given a value. -/
def set (args : Args) (name : String) (value : Json) : Args := (args.erase name) ++ [(name, value)]

end Args

/-- A hook that may restrict the rows of a table. -/
structure FilterHook (γ : Type) where
  /-- the condition on a table with the given quoted name -/
  run : (table : String) → Args → γ → Except String (Option String)

namespace FilterHook

variable {γ : Type}

/-- The hook that puts the quoted name of the table into a template. -/
def ofTemplate (template : String) : FilterHook γ :=
  ⟨fun table _ _ => .ok (some (Text.replace "\x7btable\x7d" table template))⟩

/-- The condition that the hook adds; a blank one adds nothing. -/
def condition (hook : FilterHook γ) (table : String) (args : Args) (context : γ) :
    Except String (Option String) :=
  (hook.run table args context).map fun condition? =>
    condition?.filter fun condition => !Text.isBlankText condition

end FilterHook

/-- A hook that links two tables. -/
structure JoinHook (γ : Type) where
  /-- the condition between two tables with the given quoted names -/
  run : (parent child : String) → Args → γ → Except String String

namespace JoinHook

variable {γ : Type}

/-- The hook that puts the quoted names of the tables into a template, the parent's first. -/
def ofTemplate (template : String) : JoinHook γ :=
  ⟨fun parent child _ _ =>
    .ok (Text.replace "\x7bchild\x7d" child (Text.replace "\x7bparent\x7d" parent template))⟩

end JoinHook

/-- The places of a relation that can hold a hook. -/
inductive HookSlot where
  /-- the filter of the relation -/
  | filter
  /-- the join of parent and relation -/
  | join
  /-- the filter of the junction -/
  | junctionFilter
  /-- the join of parent and junction -/
  | toJunction
  /-- the join of junction and relation -/
  | toChild
  /-- the join of junction and relation that comes with the batch keys -/
  | batchJoin
deriving DecidableEq, Repr

/-- One evaluation of a hook. -/
structure HookCall where
  /-- the alias of the relation that has the hook -/
  relation : String
  /-- where the relation holds it -/
  slot : HookSlot
  /-- the quoted names it was given: one for a filter, parent and child for a join -/
  tables : List String
deriving DecidableEq, Repr

end RelationSql
