import RelationSql.Proofs.Plan.Validity
import Mathlib.Data.List.Perm.Basic

/-!
# Proper plans

A plan is checked relation by relation, with the aliases in use carried along and the first broken
rule reported. What is accepted in the end depends on neither: a plan is *proper* if no alias occurs
twice in it and each relation keeps rules that speak of its own fields only, and the check accepts
exactly the proper plans. The relations below the root enter this as a collection, so the order of
the children plays no part, at any relation of the plan.

* `Relation.rules_iff_proper` — the rules of one relation, said of its fields;
* `Plan.Reordered.perm_relations` — what reordering keeps;
* `Plan.accepts_exactly_proper` — which plans are accepted, in whatever order.
-/

namespace RelationSql

variable {γ : Type}

/-! ## Proper relations -/

/-- A junction is joined to its relation by the pair of joins, or else by its batch keys. -/
theorem Junction.isSome_childJoin?_iff {j : Junction γ} : j.childJoin?.isSome = true ↔
    j.joins.isSome = true ∨ ∃ keys, j.batch = some keys ∧ keys.join.isSome = true := by
  rw [childJoin?]
  cases j.joins with
  | some joins => simp
  | none => cases j.batch <;> simp

namespace Relation

/-- The rules for one relation, apart from the aliases of others. -/
structure Proper (r : Relation γ) (isRoot : Bool) : Prop where
  /-- it has one ordering at most -/
  oneOrdering : r.orderBy = none ∨ r.sortKey = none
  /-- and so has its junction -/
  junctionOneOrdering : ∀ j, r.junction = some j → j.orderBy = none ∨ j.sortKey = none
  /-- if it is paginated, the orderings of relation and junction are of one kind -/
  unmixed : r.paginate = true → ∀ j, r.junction = some j →
    (r.sortKey = none ∧ j.sortKey = none) ∨ (r.orderBy = none ∧ j.orderBy = none)
  /-- its junction is joined to it, by the pair of joins or by the batch keys -/
  childJoined : ∀ j, r.junction = some j →
    j.joins.isSome = true ∨ ∃ keys, j.batch = some keys ∧ keys.join.isSome = true
  /-- below the root and without a junction, it is linked to its parent -/
  linked : isRoot = false → r.junction = none → r.join.isSome = true ∨ r.batch.isSome = true
  /-- if it is paginated, relation or junction has an ordering -/
  ordered : r.paginate = true → r.orderBy.isSome = true ∨ r.sortKey.isSome = true ∨
    ∃ j, r.junction = some j ∧ (j.orderBy.isSome = true ∨ j.sortKey.isSome = true)

theorem not_both_isSome_iff {α β : Type} {a : Option α} {b : Option β} :
    ¬(a.isSome = true ∧ b.isSome = true) ↔ a = none ∨ b = none := by
  cases a <;> cases b <;> simp

theorem hasSortKey_eq_false_iff {r : Relation γ} {j : Junction γ} (hj : r.junction = some j) :
    r.hasSortKey = false ↔ r.sortKey = none ∧ j.sortKey = none := by
  simp [hasSortKey, hj]

theorem hasOrderBy_eq_false_iff {r : Relation γ} {j : Junction γ} (hj : r.junction = some j) :
    r.hasOrderBy = false ↔ r.orderBy = none ∧ j.orderBy = none := by
  simp [hasOrderBy, hj]

/-- Orderings are not mixed if one of the two kinds is absent. -/
theorem unmixed_iff {r : Relation γ} {j : Junction γ} (hj : r.junction = some j) :
    ¬((r.paginate = true ∧ r.hasSortKey = true) ∧ r.hasOrderBy = true) ↔
      (r.paginate = true →
        (r.sortKey = none ∧ j.sortKey = none) ∨ (r.orderBy = none ∧ j.orderBy = none)) := by
  rw [← hasSortKey_eq_false_iff hj, ← hasOrderBy_eq_false_iff hj]
  cases r.paginate <;> cases r.hasSortKey <;> cases r.hasOrderBy <;> simp

/-- A paginated relation is paged if relation or junction has an ordering. -/
theorem isPaged_iff {r : Relation γ} (hpaginate : r.paginate = true) : r.isPaged = true ↔
    r.orderBy.isSome = true ∨ r.sortKey.isSome = true ∨
      ∃ j, r.junction = some j ∧ (j.orderBy.isSome = true ∨ j.sortKey.isSome = true) := by
  have hmode : r.isPaged = true ↔ r.hasSortKey = true ∨ r.hasOrderBy = true := by
    rw [isPaged, pagingMode?, hpaginate]
    cases r.hasSortKey <;> cases r.hasOrderBy <;> decide
  rw [hmode, hasSortKey, hasOrderBy]
  cases r.junction with
  | none => simp [or_comm]
  | some j => simp [or_comm, or_left_comm, or_assoc]

/-- **The rules of a relation, said of its fields.** That a junction below the root is linked to the
parent needs no rule of its own: what joins it to the relation links it as well. -/
theorem rules_iff_proper {r : Relation γ} {isRoot : Bool} : r.Rules isRoot ↔ r.Proper isRoot := by
  constructor
  · intro h
    refine ⟨not_both_isSome_iff.mp h.oneOrdering, ?_, ?_, ?_, ?_, ?_⟩
    · exact fun j hj => not_both_isSome_iff.mp (h.junction j hj).oneOrdering
    · exact fun hpaginate j hj => (unmixed_iff hj).mp (h.junction j hj).unmixed hpaginate
    · exact fun j hj => Junction.isSome_childJoin?_iff.mp (h.junction j hj).childJoined
    · intro hroot hj
      exact (h.linked hj).resolve_left (by simp [hroot])
    · exact fun hpaginate => (isPaged_iff hpaginate).mp (h.ordered hpaginate)
  · intro h
    refine ⟨not_both_isSome_iff.mpr h.oneOrdering, ?_, ?_, ?_⟩
    · exact fun hpaginate => (isPaged_iff hpaginate).mpr (h.ordered hpaginate)
    · intro hj
      cases isRoot with
      | true => exact .inl rfl
      | false => exact .inr (h.linked rfl hj)
    · intro j hj
      refine ⟨not_both_isSome_iff.mpr (h.junctionOneOrdering j hj),
        (unmixed_iff hj).mpr fun hpaginate => h.unmixed hpaginate j hj,
        Junction.isSome_childJoin?_iff.mpr (h.childJoined j hj), ?_⟩
      rcases h.childJoined j hj with hjoins | ⟨keys, hkeys, -⟩
      · exact .inr (.inr hjoins)
      · exact .inr (.inl (by rw [hkeys]; rfl))

end Relation

/-! ## Proper plans -/

namespace Plan

/-- A plan in which no alias occurs twice, junctions included, and every relation is proper. -/
structure Proper (p : Plan γ) : Prop where
  /-- no alias occurs twice -/
  aliases : p.aliases.Nodup
  /-- the root is proper -/
  root : p.relation.Proper true
  /-- and so is every relation below it -/
  below : ∀ q ∈ p.descendants, q.relation.Proper false

/-- One plan is the other with the children of some relations in another order. -/
inductive Reordered : Plan γ → Plan γ → Prop where
  /-- the children of the root change places -/
  | atRoot {r : Relation γ} {children children' : List (Plan γ)} (h : children.Perm children') :
    Reordered ⟨r, children⟩ ⟨r, children'⟩
  /-- something changes places below a child -/
  | inChild {r : Relation γ} {c c' : Plan γ} (pre post : List (Plan γ)) (h : Reordered c c') :
    Reordered ⟨r, pre ++ c :: post⟩ ⟨r, pre ++ c' :: post⟩
  /-- one change after the other -/
  | trans {p q s : Plan γ} (h : Reordered p q) (h' : Reordered q s) : Reordered p s

/-- The relations below the root, apart from what lies below them. -/
def relationsBelow (p : Plan γ) : List (Relation γ) := p.descendants.map Plan.relation

theorem relationsBelow_mk (r : Relation γ) (children : List (Plan γ)) :
    relationsBelow ⟨r, children⟩ = children.flatMap fun c => c.relation :: c.relationsBelow := by
  rw [relationsBelow, descendants_eq, List.map_flatMap]
  rfl

/-- **Reordering keeps the root and, up to their order, the relations below it.** -/
theorem Reordered.perm_relations {p q : Plan γ} (h : p.Reordered q) :
    p.relation = q.relation ∧ p.relationsBelow.Perm q.relationsBelow := by
  induction h with
  | atRoot h =>
    refine ⟨rfl, ?_⟩
    rw [relationsBelow_mk, relationsBelow_mk]
    exact h.flatMap_right _
  | inChild pre post _ ih =>
    obtain ⟨hroot, hbelow⟩ := ih
    refine ⟨rfl, ?_⟩
    simp only [relationsBelow_mk, List.flatMap_append, List.flatMap_cons, hroot]
    exact ((hbelow.cons _).append_right _).append_left _
  | trans _ _ ih ih' => exact ⟨ih.1.trans ih'.1, ih.2.trans ih'.2⟩

theorem aliases_eq_relations (p : Plan γ) :
    p.aliases = p.relation.aliases ++ p.relationsBelow.flatMap Relation.aliases := by
  rw [aliases, nodes, List.flatMap_cons, relationsBelow, List.flatMap_map]

/-- Whether a plan is proper depends on its root and on the collection of the others. -/
theorem Reordered.proper {p q : Plan γ} (h : p.Reordered q) (hp : p.Proper) : q.Proper := by
  obtain ⟨hroot, hperm⟩ := h.perm_relations
  refine ⟨?_, hroot ▸ hp.root, fun d hd => ?_⟩
  -- aliases belong to relations, so they only change places with them
  · have haliases : p.aliases.Perm q.aliases := by
      rw [aliases_eq_relations, aliases_eq_relations, hroot]
      exact (hperm.flatMap_right _).append_left _
    exact haliases.nodup_iff.mp hp.aliases
  · have hmem : d.relation ∈ p.relationsBelow := hperm.mem_iff.mpr (List.mem_map_of_mem hd)
    obtain ⟨d', hd', heq⟩ := List.mem_map.mp hmem
    exact heq ▸ hp.below d' hd'

theorem Reordered.symm {p q : Plan γ} (h : p.Reordered q) : q.Reordered p := by
  induction h with
  | atRoot h => exact .atRoot h.symm
  | inChild pre post _ ih => exact .inChild pre post ih
  | trans _ _ ih ih' => exact ih'.trans ih

theorem validate_iff_proper {p : Plan γ} : p.validate = .ok () ↔ p.Proper := by
  rw [validate_eq_ok_iff]
  constructor
  · rintro ⟨hnodup, hroot, hbelow⟩
    exact ⟨hnodup, Relation.rules_iff_proper.mp hroot,
      fun q hq => Relation.rules_iff_proper.mp (hbelow q hq)⟩
  · intro h
    exact ⟨h.aliases, Relation.rules_iff_proper.mpr h.root,
      fun q hq => Relation.rules_iff_proper.mpr (h.below q hq)⟩

/-- **Which plans are accepted**: the proper ones, whatever the order of the children of any
relation. -/
theorem accepts_exactly_proper (p : Plan γ) :
    (p.validate = .ok () ↔ p.Proper) ∧
    ∀ q, p.Reordered q → (p.validate = .ok () ↔ q.validate = .ok ()) := by
  refine ⟨validate_iff_proper, fun q hq => ?_⟩
  rw [validate_iff_proper, validate_iff_proper]
  exact ⟨hq.proper, hq.symm.proper⟩

/-- Teams with their members, who are found through a junction, and below the members some
relations of theirs. -/
def teamsWith (below : List (Plan Unit)) : Plan Unit :=
  ⟨{ name := "teams", table := "teams", label := "teams" },
    [⟨{ name := "members", table := "accounts", label := "members",
        sortKey := some [⟨"id", .asc⟩], paginate := true,
        junction := some {
          table := "memberships"
          label := "m"
          batch := some {
            thisKey := "team_id"
            parentKey := "id"
            join := some (.ofTemplate "\x7bparent\x7d.user_id = \x7bchild\x7d.id") } } },
      below⟩]⟩

/-- The posts of a member, fetched in batches. -/
def postsOf : Plan Unit :=
  ⟨{ name := "posts", table := "posts", label := "posts", batch := some ⟨"author_id", "id", none⟩ },
    []⟩

/-- The memberships of a member. -/
def membershipsOf (label : String) : Plan Unit :=
  ⟨{ name := "memberships", table := "memberships", label,
     join := some (.ofTemplate "\x7bparent\x7d.id = \x7bchild\x7d.user_id") }, []⟩

/-- The relations below the members may change places; an alias that is taken by the junction of the
members is refused in either order. -/
theorem accepts_teams_in_any_order :
    (teamsWith [postsOf, membershipsOf "roles"]).validate = .ok () ∧
    (teamsWith [membershipsOf "roles", postsOf]).validate = .ok () ∧
    ¬(teamsWith [postsOf, membershipsOf "m"]).Proper ∧
    (teamsWith [membershipsOf "m", postsOf]).validate ≠ .ok () := by
  have hswap (label : String) : (teamsWith [postsOf, membershipsOf label]).Reordered
      (teamsWith [membershipsOf label, postsOf]) :=
    .inChild [] [] (.atRoot (.swap _ _ _))
  have hvalid : (teamsWith [postsOf, membershipsOf "roles"]).validate = .ok () := rfl
  have hrefused : (teamsWith [postsOf, membershipsOf "m"]).validate ≠ .ok () := by
    intro h
    cases h
  refine ⟨hvalid, ((accepts_exactly_proper _).2 _ (hswap "roles")).mp hvalid, ?_, ?_⟩
  · exact mt (accepts_exactly_proper _).1.mpr hrefused
  · exact mt ((accepts_exactly_proper _).2 _ (hswap "m")).mpr hrefused

end Plan

end RelationSql
