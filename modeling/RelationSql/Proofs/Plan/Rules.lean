import RelationSql.Proofs.Plan.Nodes

/-!
# The rules that a valid plan keeps

Checking a plan checks every relation of it. What the check establishes of one relation, apart from
its aliases, is the structure `Relation.Rules`; of a valid plan it holds of the root, and of every
relation below the root with the link to its parent that the root does not need.

* `Relation.rules_of_check` — what the check of a relation establishes;
* `Plan.rules_root`, `Plan.rules_of_mem_descendants` — so it holds throughout a valid plan.
-/

namespace RelationSql

theorem holds_of_ensure {holds : Bool} {fault : PlanFault} {done : Unit}
    (h : ensure holds fault = .ok done) : holds = true := by
  rw [ensure] at h
  split at h
  · assumption
  · cases h

namespace Relation

variable {γ : Type}

/-- The rules for the junction of a relation, apart from its alias. -/
structure JunctionRules (r : Relation γ) (j : Junction γ) (isRoot : Bool) : Prop where
  /-- it has one ordering at most -/
  oneOrdering : ¬(j.orderBy.isSome = true ∧ j.sortKey.isSome = true)
  /-- if the relation is paginated, the orderings of both are of one kind -/
  unmixed : ¬((r.paginate = true ∧ r.hasSortKey = true) ∧ r.hasOrderBy = true)
  /-- it is linked to the relation -/
  childJoined : j.childJoin?.isSome = true
  /-- it is linked to the parent -/
  linked : isRoot = true ∨ j.batch.isSome = true ∨ j.joins.isSome = true

/-- The rules for a relation, apart from its aliases. -/
structure Rules (r : Relation γ) (isRoot : Bool) : Prop where
  /-- it has one ordering at most -/
  oneOrdering : ¬(r.orderBy.isSome = true ∧ r.sortKey.isSome = true)
  /-- it is ordered if it is paginated -/
  ordered : r.paginate = true → r.isPaged = true
  /-- without a junction it is linked to its parent -/
  linked : r.junction = none → isRoot = true ∨ r.join.isSome = true ∨ r.batch.isSome = true
  /-- its junction keeps the rules as well -/
  junction : ∀ j, r.junction = some j → r.JunctionRules j isRoot

/-- What the check of a junction establishes. -/
theorem junctionRules_of_checkLink {r : Relation γ} {j : Junction γ} (hj : r.junction = some j)
    {isRoot : Bool} {used used' : List String} (h : r.checkLink isRoot used = .ok used') :
    r.JunctionRules j isRoot := by
  rw [checkLink, hj] at h
  obtain ⟨_, -, h⟩ := bind_eq_ok h
  obtain ⟨_, hone, h⟩ := bind_eq_ok h
  obtain ⟨_, hunmixed, h⟩ := bind_eq_ok h
  obtain ⟨_, hchild, h⟩ := bind_eq_ok h
  obtain ⟨_, hlinked, -⟩ := bind_eq_ok h
  have hlinked := holds_of_ensure hlinked
  rw [Bool.or_eq_true, Bool.or_eq_true, or_assoc] at hlinked
  refine ⟨?_, ?_, holds_of_ensure hchild, hlinked⟩
  · simpa only [Bool.not_eq_true', ← Bool.not_eq_true, Bool.and_eq_true] using
      holds_of_ensure hone
  · simpa only [Bool.not_eq_true', ← Bool.not_eq_true, Bool.and_eq_true] using
      holds_of_ensure hunmixed

/-- **What the check of a relation establishes.** -/
theorem rules_of_check {r : Relation γ} {isRoot : Bool} {used used' : List String}
    (h : r.check isRoot used = .ok used') : r.Rules isRoot := by
  rw [check] at h
  obtain ⟨claimed, -, h⟩ := bind_eq_ok h
  obtain ⟨_, hone, h⟩ := bind_eq_ok h
  obtain ⟨linked, hlink, h⟩ := bind_eq_ok h
  obtain ⟨_, hordered, -⟩ := bind_eq_ok h
  refine ⟨?_, fun hpaginate => ?_, fun hnone => ?_, fun j hj => junctionRules_of_checkLink hj hlink⟩
  · simpa only [Bool.not_eq_true', ← Bool.not_eq_true, Bool.and_eq_true] using
      holds_of_ensure hone
  · have hordered := holds_of_ensure hordered
    rw [hpaginate] at hordered
    exact hordered
  · rw [checkLink, hnone] at hlink
    obtain ⟨_, hlinked, -⟩ := bind_eq_ok hlink
    have hlinked := holds_of_ensure hlinked
    rwa [Bool.or_eq_true, Bool.or_eq_true, or_assoc] at hlinked

end Relation

namespace Plan

variable {γ : Type}

/-- The plans below a relation are checked one after the other, and each keeps the rules. -/
theorem rules_of_checkAll {children : List (Plan γ)} {used used' : List String}
    (ih : ∀ c ∈ children, ∀ {isRoot used used'}, c.check isRoot used = .ok used' →
      c.relation.Rules isRoot ∧ ∀ q ∈ c.descendants, q.relation.Rules false)
    (h : checkAll children used = .ok used') :
    ∀ c ∈ children, ∀ q ∈ c.nodes, q.relation.Rules false := by
  induction children generalizing used with
  | nil =>
    intro c hc
    cases hc
  | cons first rest ihrest =>
    rw [checkAll] at h
    cases hfirst : first.check false used with
    | error fault =>
      rw [hfirst] at h
      cases h
    | ok claimed =>
      rw [hfirst] at h
      obtain ⟨hrules, hbelow⟩ := ih first List.mem_cons_self hfirst
      intro c hc q hq
      rcases List.mem_cons.mp hc with rfl | hc
      · rcases List.mem_cons.mp hq with rfl | hq
        · exact hrules
        · exact hbelow q hq
      · exact ihrest (fun c hc => ih c (List.mem_cons_of_mem _ hc)) h c hc q hq

/-- **Checking a plan establishes the rules of all its relations.** -/
theorem rules_of_check {p : Plan γ} {isRoot : Bool} {used used' : List String}
    (h : p.check isRoot used = .ok used') :
    p.relation.Rules isRoot ∧ ∀ q ∈ p.descendants, q.relation.Rules false := by
  induction p using rec_children generalizing isRoot used used' with
  | h r children ih =>
    rw [check] at h
    cases hr : r.check isRoot used with
    | error fault =>
      rw [hr] at h
      cases h
    | ok claimed =>
      rw [hr] at h
      refine ⟨Relation.rules_of_check hr, fun q hq => ?_⟩
      rw [descendants_eq] at hq
      obtain ⟨c, hc, hq⟩ := List.mem_flatMap.mp hq
      exact rules_of_checkAll (fun c hc => ih c hc) h c hc q hq

section Valid

variable {root : Plan γ} (hvalid : root.validate = .ok ())
include hvalid

theorem rules_of_valid :
    root.relation.Rules true ∧ ∀ q ∈ root.descendants, q.relation.Rules false := by
  rw [validate] at hvalid
  cases hcheck : root.check true [] with
  | error fault =>
    rw [hcheck] at hvalid
    cases hvalid
  | ok used => exact rules_of_check hcheck

/-- **The root of a valid plan keeps the rules**, and so does every relation below it, which is
linked to its parent besides. -/
theorem rules_root : root.relation.Rules true := (rules_of_valid hvalid).1

theorem rules_of_mem_descendants {q : Plan γ} (hq : q ∈ root.descendants) :
    q.relation.Rules false := (rules_of_valid hvalid).2 q hq

end Valid

end Plan

end RelationSql
