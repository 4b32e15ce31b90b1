import RelationSql.Proofs.Plan.Rules
import Mathlib.Data.List.Flatten

/-!
# Which plans are valid

The check of a plan goes from relation to relation and carries the aliases in use along. What it
comes to can be said without it: a plan is valid if no alias occurs twice in it and every relation
keeps its rules. Both pass to the part of a plan that lies at and below a relation, so such a part
is a valid plan of its own.

* `Plan.check_eq_ok` — the check of a plan whose relations keep the rules goes through;
* `Plan.validate_eq_ok_iff` — which plans are valid;
* `Plan.validate_of_mem_nodes` — the parts of a valid plan are.
-/

namespace RelationSql

theorem ensure_eq_ok {holds : Bool} (h : holds = true) (fault : PlanFault) :
    ensure holds fault = .ok () := by
  rw [ensure, if_pos h]

theorem claimAlias_eq_ok {label : String} {used : List String} (h : label ∉ used) :
    claimAlias label used = .ok (label :: used) := by
  rw [claimAlias, if_neg h]

namespace Relation

variable {γ : Type} {r : Relation γ}

/-- The rules for a relation below the root are those for the root and one more. -/
theorem Rules.asRoot {isRoot : Bool} (h : r.Rules isRoot) : r.Rules true where
  oneOrdering := h.oneOrdering
  ordered := h.ordered
  linked _ := .inl rfl
  junction j hj :=
    { oneOrdering := (h.junction j hj).oneOrdering
      unmixed := (h.junction j hj).unmixed
      childJoined := (h.junction j hj).childJoined
      linked := .inl rfl }

/-- The check of a junction, or of its absence, goes through. -/
theorem checkLink_eq_ok {isRoot : Bool} (h : r.Rules isRoot) (used : List String)
    (hfresh : ∀ label ∈ r.junction.toList.map Junction.label, label ∉ used) :
    r.checkLink isRoot used = .ok (r.junction.toList.map Junction.label ++ used) := by
  rw [checkLink]
  cases hj : r.junction with
  | none =>
    have hlinked : (isRoot || r.join.isSome || r.batch.isSome) = true := by
      rw [Bool.or_eq_true, Bool.or_eq_true, or_assoc]
      exact h.linked hj
    simp only [ensure_eq_ok hlinked]
    rfl
  | some j =>
    have hrules := h.junction j hj
    have hone : (!(j.orderBy.isSome && j.sortKey.isSome)) = true := by
      simpa only [Bool.not_eq_true', ← Bool.not_eq_true, Bool.and_eq_true] using hrules.oneOrdering
    have hunmixed : (!(r.paginate && r.hasSortKey && r.hasOrderBy)) = true := by
      simpa only [Bool.not_eq_true', ← Bool.not_eq_true, Bool.and_eq_true] using hrules.unmixed
    have hlinked : (isRoot || j.batch.isSome || j.joins.isSome) = true := by
      rw [Bool.or_eq_true, Bool.or_eq_true, or_assoc]
      exact hrules.linked
    have hlabel : j.label ∉ used := hfresh j.label (by simp [hj])
    simp only [claimAlias_eq_ok hlabel, ensure_eq_ok hone, ensure_eq_ok hunmixed,
      ensure_eq_ok hrules.childJoined, ensure_eq_ok hlinked]
    rfl

/-- **The check of a relation that keeps the rules goes through**, and takes its aliases. -/
theorem check_eq_ok {isRoot : Bool} (h : r.Rules isRoot) (hnodup : r.aliases.Nodup)
    (used : List String) (hfresh : ∀ label ∈ r.aliases, label ∉ used) :
    r.check isRoot used = .ok (r.aliases.reverse ++ used) := by
  obtain ⟨hown, -⟩ := List.nodup_cons.mp hnodup
  have hlabel : r.label ∉ used := hfresh _ List.mem_cons_self
  have hlink := checkLink_eq_ok h (r.label :: used) (by
    intro label hjunction hmem
    rcases List.mem_cons.mp hmem with rfl | hused
    · exact hown hjunction
    · exact hfresh label (List.mem_cons_of_mem _ hjunction) hused)
  have hone : (!(r.orderBy.isSome && r.sortKey.isSome)) = true := by
    simpa only [Bool.not_eq_true', ← Bool.not_eq_true, Bool.and_eq_true] using h.oneOrdering
  have hordered : (!r.paginate || r.isPaged) = true := by
    cases hpaginate : r.paginate with
    | false => rfl
    | true => exact h.ordered hpaginate
  have haliases : r.aliases.reverse ++ used =
      r.junction.toList.map Junction.label ++ r.label :: used := by
    cases hj : r.junction <;> simp [aliases, hj]
  rw [check, claimAlias_eq_ok hlabel, haliases]
  change (ensure _ _ >>= fun _ => r.checkLink isRoot (r.label :: used) >>= _) = _
  rw [ensure_eq_ok hone, hlink, ensure_eq_ok hordered]
  rfl

end Relation

namespace Plan

variable {γ : Type}

/-- The check of plans that keep the rules goes through, one after the other. -/
theorem checkAll_eq_ok {children : List (Plan γ)}
    (ih : ∀ c ∈ children, c.aliases.Nodup → ∀ used : List String,
      (∀ label ∈ c.aliases, label ∉ used) → c.check false used = .ok (c.aliases.reverse ++ used))
    (hnodup : (children.flatMap aliases).Nodup) (used : List String)
    (hfresh : ∀ label ∈ children.flatMap aliases, label ∉ used) :
    checkAll children used = .ok ((children.flatMap aliases).reverse ++ used) := by
  induction children generalizing used with
  | nil => rfl
  | cons c rest ihrest =>
    rw [List.flatMap_cons] at hnodup hfresh ⊢
    obtain ⟨hc, hrest, hdisjoint⟩ := List.nodup_append.mp hnodup
    have hfirst := ih c List.mem_cons_self hc used fun label hlabel =>
      hfresh label (List.mem_append_left _ hlabel)
    have hothers := ihrest (fun c hc => ih c (List.mem_cons_of_mem _ hc)) hrest
      (c.aliases.reverse ++ used) (by
        intro label hlabel hmem
        rcases List.mem_append.mp hmem with htaken | hused
        · exact hdisjoint label (List.mem_reverse.mp htaken) label hlabel rfl
        · exact hfresh label (List.mem_append_right _ hlabel) hused)
    rw [checkAll, hfirst, List.reverse_append, List.append_assoc]
    exact hothers

/-- **The check of a plan whose relations keep the rules goes through**, if its aliases differ from
each other and from those in use. -/
theorem check_eq_ok {p : Plan γ} {isRoot : Bool} (hroot : p.relation.Rules isRoot)
    (hbelow : ∀ q ∈ p.descendants, q.relation.Rules false) (hnodup : p.aliases.Nodup)
    (used : List String) (hfresh : ∀ label ∈ p.aliases, label ∉ used) :
    p.check isRoot used = .ok (p.aliases.reverse ++ used) := by
  induction p using rec_children generalizing isRoot used with
  | h r children ih =>
    have haliases : (Plan.mk r children).aliases = r.aliases ++ children.flatMap aliases :=
      aliases_eq _
    rw [haliases] at hnodup hfresh ⊢
    obtain ⟨hown, hchildren, hdisjoint⟩ := List.nodup_append.mp hnodup
    have hr := Relation.check_eq_ok hroot hown used fun label hlabel =>
      hfresh label (List.mem_append_left _ hlabel)
    -- the children are checked with the aliases of their parent in use
    rw [check, hr, List.reverse_append, List.append_assoc]
    refine checkAll_eq_ok (fun c hc hcnodup => ?_) hchildren (r.aliases.reverse ++ used) ?_
    · have hchild : c ∈ (Plan.mk r children).descendants := mem_descendants List.mem_cons_self hc
      refine ih c hc (hbelow c hchild) (fun q hq => hbelow q ?_) hcnodup
      exact descendants_subset (List.mem_cons_of_mem _ hchild) hq
    · intro label hlabel hmem
      rcases List.mem_append.mp hmem with htaken | hused
      · exact hdisjoint label (List.mem_reverse.mp htaken) label hlabel rfl
      · exact hfresh label (List.mem_append_right _ hlabel) hused

/-- **Which plans are valid**: those in which no alias occurs twice and every relation keeps the
rules, the root without a link to a parent. -/
theorem validate_eq_ok_iff {p : Plan γ} : p.validate = .ok () ↔
    p.aliases.Nodup ∧ p.relation.Rules true ∧ ∀ q ∈ p.descendants, q.relation.Rules false := by
  constructor
  · intro h
    exact ⟨aliases_nodup h, rules_of_valid h⟩
  · rintro ⟨hnodup, hroot, hbelow⟩
    rw [validate, check_eq_ok hroot hbelow hnodup [] fun _ _ => List.not_mem_nil]
    rfl

/-- **A relation of a valid plan is a valid plan**, with what lies below it. -/
theorem validate_of_mem_nodes {root p : Plan γ} (hvalid : root.validate = .ok ())
    (hp : p ∈ root.nodes) : p.validate = .ok () := by
  obtain ⟨hnodup, hroot, hbelow⟩ := validate_eq_ok_iff.mp hvalid
  have haliases : p.aliases.Sublist root.aliases := (nodes_sublist hp).flatMap _
  refine validate_eq_ok_iff.mpr ⟨hnodup.sublist haliases, ?_, ?_⟩
  · rcases List.mem_cons.mp hp with rfl | hp
    · exact hroot
    · exact (hbelow p hp).asRoot
  · exact fun q hq => hbelow q (descendants_subset hp hq)

end Plan

end RelationSql
