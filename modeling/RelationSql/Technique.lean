/-!
# Pagination techniques

A paginated relation is rendered in one of five ways, according to where it stands in its statement
and whether a junction table lies between it and its parent.
-/

namespace RelationSql

/-- The ways in which a paginated relation takes part in a statement. -/
inductive Technique where
  /-- the relation the statement starts from -/
  | root
  /-- joined to its parent directly -/
  | joinedOneToMany
  /-- joined to its parent through a junction -/
  | joinedManyToMany
  /-- fetched for many parents at once, directly -/
  | batchedOneToMany
  /-- fetched for many parents at once, through a junction -/
  | batchedManyToMany
deriving DecidableEq, Repr, Inhabited

namespace Technique

/-- All techniques, in the order in which they are listed to users. -/
def all : List Technique :=
  [root, joinedOneToMany, joinedManyToMany, batchedOneToMany, batchedManyToMany]

/-- The name used in messages. -/
def name : Technique → String
  | root => "root"
  | joinedOneToMany => "joined one-to-many"
  | joinedManyToMany => "joined many-to-many"
  | batchedOneToMany => "batched one-to-many"
  | batchedManyToMany => "batched many-to-many"

/-- Every technique is listed. -/
theorem mem_all (t : Technique) : t ∈ all := by cases t <;> decide

end Technique

end RelationSql
