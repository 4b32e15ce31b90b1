import RelationSql.Plan.Basic

/-!
# Deferred relations

The relations of a plan that one statement cannot hold: the batched ones that hang off its joined
part. The joined part of a plan is its root and what is reached from it through relations that are
not batched. Each deferred relation waits for the rows of its parent, and is a plan of its own.
-/

namespace RelationSql

/-- A batched relation and what it hangs off. -/
structure Deferral (γ : Type) where
  /-- the relation whose rows give the keys -/
  parent : Relation γ
  /-- the pair of columns that links the two -/
  keys : BatchKeys γ
  /-- the batched relation with what lies below it -/
  plan : Plan γ

namespace Plan

variable {γ : Type}

/-- The batched ones of the plans below a relation, in declared order. -/
def batchedAmong (parent : Relation γ) (children : List (Plan γ)) : List (Deferral γ) :=
  children.filterMap fun p => p.relation.batchKeys?.map fun keys => ⟨parent, keys, p⟩

mutual

/-- The deferred relations of a plan: those below its root, then those of each joined child. -/
def deferrals : Plan γ → List (Deferral γ)
  | ⟨r, children⟩ => batchedAmong r children ++ deferralsBelow children

/-- The deferred relations of those plans that are joined. -/
def deferralsBelow : List (Plan γ) → List (Deferral γ)
  | [] => []
  | p :: rest =>
    if p.relation.isBatched then deferralsBelow rest else deferrals p ++ deferralsBelow rest

end

/-! ## Deferred relations are smaller -/

/-- The number of relations in the plans of some deferred relations. -/
def deferredSize : List (Deferral γ) → Nat
  | [] => 0
  | d :: ds => d.plan.size + deferredSize ds

@[simp] theorem deferredSize_nil : deferredSize ([] : List (Deferral γ)) = 0 := rfl

@[simp] theorem deferredSize_cons (d : Deferral γ) (ds : List (Deferral γ)) :
    deferredSize (d :: ds) = d.plan.size + deferredSize ds := rfl

@[simp] theorem deferredSize_append (ds es : List (Deferral γ)) :
    deferredSize (ds ++ es) = deferredSize ds + deferredSize es := by
  induction ds with
  | nil => simp
  | cons d ds ih => simp [ih, Nat.add_assoc]

mutual

/-- **The deferred relations of a plan are fewer than its relations.** -/
theorem deferredSize_deferrals : (p : Plan γ) → deferredSize p.deferrals < p.size
  | ⟨r, children⟩ => by
    have h := deferredSize_children r children
    rw [deferrals, size, deferredSize_append]
    omega

/-- The batched children and the deferred relations of the joined children are different parts of
the plans below a relation. -/
theorem deferredSize_children (r : Relation γ) : (children : List (Plan γ)) →
    deferredSize (batchedAmong r children) + deferredSize (deferralsBelow children) ≤
      sizeAll children
  | [] => by simp [batchedAmong, deferralsBelow, sizeAll]
  | p :: rest => by
    have hrest := deferredSize_children r rest
    have hp := deferredSize_deferrals p
    rw [deferralsBelow, sizeAll]
    cases hk : p.relation.batchKeys? with
    | none =>
      have hb : p.relation.isBatched = false := by simp [Relation.isBatched, hk]
      have ha : batchedAmong r (p :: rest) = batchedAmong r rest := by simp [batchedAmong, hk]
      rw [hb, ha, if_neg (by simp), deferredSize_append]
      omega
    | some keys =>
      have hb : p.relation.isBatched = true := by simp [Relation.isBatched, hk]
      have ha : deferredSize (batchedAmong r (p :: rest)) =
          p.size + deferredSize (batchedAmong r rest) := by
        simp [batchedAmong, hk]
      rw [hb, ha, if_pos rfl]
      omega

end

end Plan

end RelationSql
