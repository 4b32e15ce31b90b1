import RelationSql.Error
import RelationSql.Plan.Basic

/-!
# The structural rules of plans

Aliases are unique over the whole tree, junctions included; a table has one ordering at most; a
paginated relation has one, and it is of one kind; every relation but the root is linked to its
parent, and a junction to its relation. The rules are checked relation by relation, parents first
and children in declared order, and the first broken one is reported.
-/

namespace RelationSql

/-- Fail with the fault unless the condition holds. -/
def ensure (holds : Bool) (fault : PlanFault) : Except PlanFault Unit :=
  if holds then .ok () else .error fault

/-- Add an alias to those in use, which must not hold it yet. -/
def claimAlias (label : String) (used : List String) : Except PlanFault (List String) :=
  if label ∈ used then .error (.repeatedAlias label) else .ok (label :: used)

namespace Relation

variable {γ : Type}

/-- Check the rules about the junction of a relation, or about its absence. -/
def checkLink (r : Relation γ) (isRoot : Bool) (used : List String) :
    Except PlanFault (List String) :=
  match r.junction with
  | some j => do
    let used ← claimAlias j.label used
    ensure (!(j.orderBy.isSome && j.sortKey.isSome)) (.junctionTwoOrderings r.name)
    ensure (!(r.paginate && r.hasSortKey && r.hasOrderBy)) (.mixedOrderings r.name)
    ensure j.childJoin?.isSome (.junctionWithoutChild r.name)
    ensure (isRoot || j.batch.isSome || j.joins.isSome) (.junctionWithoutLink r.name)
    return used
  | none => do
    ensure (isRoot || r.join.isSome || r.batch.isSome) (.withoutLink r.name)
    return used

/-- Check the rules of one relation, given the aliases in use before it. -/
def check (r : Relation γ) (isRoot : Bool) (used : List String) :
    Except PlanFault (List String) := do
  let used ← claimAlias r.label used
  ensure (!(r.orderBy.isSome && r.sortKey.isSome)) (.twoOrderings r.name)
  let used ← r.checkLink isRoot used
  ensure (!r.paginate || r.isPaged) (.unordered r.name)
  return used

end Relation

namespace Plan

variable {γ : Type}

mutual

/-- Check a plan, given the aliases in use before it. -/
def check (isRoot : Bool) : Plan γ → List String → Except PlanFault (List String)
  | ⟨r, children⟩, used =>
    match r.check isRoot used with
    | .error fault => .error fault
    | .ok used => checkAll children used

/-- Check the plans below a relation, one after the other. -/
def checkAll : List (Plan γ) → List String → Except PlanFault (List String)
  | [], used => .ok used
  | p :: rest, used =>
    match check false p used with
    | .error fault => .error fault
    | .ok used => checkAll rest used

end

/-- Check the rules of a whole plan. -/
def validate (p : Plan γ) : Except PlanFault Unit := (p.check true []).map fun _ => ()

end Plan

end RelationSql
