import RelationSql.Plan.Basic

/-!
# Finding a relation

The first relation with an alias, a parent before its children and children in declared order, with
the plan that it hangs off.
-/

namespace RelationSql.Plan

variable {γ : Type}

mutual

/-- Look for an alias in a plan that hangs off `parent`. -/
def findUnder (label : String) (parent : Option (Plan γ)) :
    Plan γ → Option (Plan γ × Option (Plan γ))
  | ⟨r, children⟩ =>
    if r.label = label then some (⟨r, children⟩, parent)
    else findAmong label ⟨r, children⟩ children

/-- Look for an alias in plans that hang off `parent`. -/
def findAmong (label : String) (parent : Plan γ) :
    List (Plan γ) → Option (Plan γ × Option (Plan γ))
  | [] => none
  | p :: rest =>
    match findUnder label (some parent) p with
    | some found => some found
    | none => findAmong label parent rest

end

/-- The first relation with an alias and its parent, which the root does not have. -/
def find? (p : Plan γ) (label : String) : Option (Plan γ × Option (Plan γ)) :=
  findUnder label none p

end RelationSql.Plan
