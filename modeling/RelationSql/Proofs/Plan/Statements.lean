import RelationSql.Plan.Deferral
import RelationSql.Proofs.Plan.Nodes
import Mathlib.Data.List.Flatten
import Mathlib.Data.List.Perm.Basic

/-!
# The statements of a plan

Each relation of a plan is held by one statement: that of the root, or that of the nearest batched
relation among itself and those it hangs off. A statement defers the batched relations that hang off
the relations it holds; so the deferred relations, the deferred relations of those and so on are all
the batched relations below the root.

* `Home` — which statement holds a relation, and `Home.unique` that it is one;
* `mem_deferrals_of_home`, `exists_home_of_mem_deferrals` — what a statement defers;
* `breadthFirst` — the deferred relations level by level, and `breadthFirst_perm` that they are the
  batched relations below the root.
-/

namespace RelationSql.Plan

variable {γ : Type}

/-! ## Homes -/

/-- The statement of `home` holds a relation of the plan. -/
inductive Home (root : Plan γ) : Plan γ → Plan γ → Prop where
  /-- the statement of the root holds the root -/
  | root : Home root root root
  /-- a joined relation is held by the statement that holds its parent -/
  | joined {home p c : Plan γ} (hp : Home root home p) (hc : c ∈ p.children)
      (hjoined : c.relation.isBatched = false) : Home root home c
  /-- a batched relation is held by its own statement -/
  | batched {home p c : Plan γ} (hp : Home root home p) (hc : c ∈ p.children)
      (hbatched : c.relation.isBatched = true) : Home root c c

namespace Home

variable {root home p : Plan γ}

theorem mem_nodes (h : root.Home home p) : p ∈ root.nodes := by
  induction h with
  | root => exact List.mem_cons_self
  | joined hp hc hjoined ih => exact List.mem_cons_of_mem _ (mem_descendants ih hc)
  | batched hp hc hbatched ih => exact List.mem_cons_of_mem _ (mem_descendants ih hc)

/-- A statement holds the relation that it starts from. -/
theorem self (h : root.Home home p) : root.Home home home := by
  induction h with
  | root => exact .root
  | joined hp hc hjoined ih => exact ih
  | batched hp hc hbatched ih => exact .batched hp hc hbatched

/-- **A relation is held by one statement.** -/
theorem unique (hnodup : root.labels.Nodup) (h : root.Home home p) {home' : Plan γ}
    (h' : root.Home home' p) : home = home' := by
  induction h generalizing home' with
  | root =>
    cases h' with
    | root => rfl
    | joined hq hc hjoined =>
      exact absurd rfl (label_ne_of_mem_descendants hnodup (mem_descendants hq.mem_nodes hc))
    | batched hq hc hbatched => rfl
  | joined hp hc hjoined ih =>
    cases h' with
    | root =>
      exact absurd rfl (label_ne_of_mem_descendants hnodup (mem_descendants hp.mem_nodes hc))
    | joined hq hcq hjoined' =>
      obtain rfl := parent_unique hnodup hp.mem_nodes hc hq.mem_nodes hcq
      exact ih hq
    | batched hq hcq hbatched =>
      rw [hjoined] at hbatched
      cases hbatched
  | batched hp hc hbatched ih =>
    cases h' with
    | root => rfl
    | joined hq hcq hjoined =>
      rw [hbatched] at hjoined
      cases hjoined
    | batched hq hcq hbatched' => rfl

end Home

/-- **Every relation is held by a statement**, and so is the parent in every link. -/
theorem exists_home_of_mem_links {root home q parent child : Plan γ} (h : root.Home home q)
    (hlink : (parent, child) ∈ q.links) :
    child ∈ parent.children ∧ ∃ home', root.Home home' parent := by
  induction q using rec_children generalizing home with
  | h r children ih =>
    rw [links_eq] at hlink
    obtain ⟨c, hc, hlink⟩ := List.mem_flatMap.mp hlink
    rcases List.mem_cons.mp hlink with heq | hlink
    · cases heq
      exact ⟨hc, home, h⟩
    · cases hbatched : c.relation.isBatched with
      | true => exact ih c hc (h.batched hc hbatched) hlink
      | false => exact ih c hc (h.joined hc hbatched) hlink

/-! ## What a statement defers -/

theorem mem_batchedAmong {parent : Relation γ} {children : List (Plan γ)} {d : Deferral γ} :
    d ∈ batchedAmong parent children ↔
      ∃ c ∈ children, ∃ keys, c.relation.batchKeys? = some keys ∧ d = ⟨parent, keys, c⟩ := by
  simp only [batchedAmong, List.mem_filterMap, Option.map_eq_some_iff, eq_comm (a := d)]

/-- The joined ones of the plans below a relation. -/
def joinedAmong (children : List (Plan γ)) : List (Plan γ) :=
  children.filter fun c => !c.relation.isBatched

theorem mem_joinedAmong {children : List (Plan γ)} {c : Plan γ} :
    c ∈ joinedAmong children ↔ c ∈ children ∧ c.relation.isBatched = false := by
  simp [joinedAmong]

/-- A child is batched or joined. -/
theorem among_cons (r : Relation γ) (c : Plan γ) (rest : List (Plan γ)) :
    (∃ keys, c.relation.isBatched = true ∧
      batchedAmong r (c :: rest) = ⟨r, keys, c⟩ :: batchedAmong r rest ∧
      joinedAmong (c :: rest) = joinedAmong rest) ∨
    (c.relation.isBatched = false ∧ batchedAmong r (c :: rest) = batchedAmong r rest ∧
      joinedAmong (c :: rest) = c :: joinedAmong rest) := by
  cases hkeys : c.relation.batchKeys? with
  | some keys =>
    have hbatched : c.relation.isBatched = true := by rw [Relation.isBatched, hkeys]; rfl
    exact .inl ⟨keys, hbatched, by simp [batchedAmong, hkeys], by simp [joinedAmong, hbatched]⟩
  | none =>
    have hjoined : c.relation.isBatched = false := by rw [Relation.isBatched, hkeys]; rfl
    exact .inr ⟨hjoined, by simp [batchedAmong, hkeys], by simp [joinedAmong, hjoined]⟩

theorem deferralsBelow_eq (children : List (Plan γ)) :
    deferralsBelow children = (joinedAmong children).flatMap deferrals := by
  induction children with
  | nil => rfl
  | cons c rest ih =>
    rw [deferralsBelow]
    rcases among_cons c.relation c rest with ⟨-, hbatched, -, hjoins⟩ | ⟨hjoined, -, hjoins⟩
    · rw [if_pos hbatched, hjoins, ih]
    · rw [hjoined, if_neg Bool.false_ne_true, hjoins, List.flatMap_cons, ih]

theorem deferrals_eq (p : Plan γ) : p.deferrals =
    batchedAmong p.relation p.children ++ (joinedAmong p.children).flatMap deferrals := by
  cases p
  rw [deferrals, deferralsBelow_eq]

/-- A statement defers what its joined relations defer. -/
theorem deferrals_subset_of_home {root home p : Plan γ} (h : root.Home home p) :
    p.deferrals ⊆ home.deferrals := by
  induction h with
  | root => exact List.Subset.refl _
  | batched => exact List.Subset.refl _
  | @joined home p c hp hc hjoined ih =>
    refine List.Subset.trans (fun d hd => ?_) ih
    rw [deferrals_eq p]
    exact List.mem_append_right _
      (List.mem_flatMap.mpr ⟨c, mem_joinedAmong.mpr ⟨hc, hjoined⟩, hd⟩)

/-- **A statement defers the batched relations** that hang off the relations it holds. -/
theorem mem_deferrals_of_home {root home p c : Plan γ} {keys : BatchKeys γ} (h : root.Home home p)
    (hc : c ∈ p.children) (hkeys : c.relation.batchKeys? = some keys) :
    ⟨p.relation, keys, c⟩ ∈ home.deferrals := by
  refine deferrals_subset_of_home h ?_
  rw [deferrals_eq]
  exact List.mem_append_left _ (mem_batchedAmong.mpr ⟨c, hc, keys, hkeys, rfl⟩)

/-- And it defers nothing else. -/
theorem exists_home_of_mem_deferrals {root home q : Plan γ} {d : Deferral γ}
    (h : root.Home home q) (hd : d ∈ q.deferrals) :
    ∃ p c keys, root.Home home p ∧ c ∈ p.children ∧ c.relation.batchKeys? = some keys ∧
      d = ⟨p.relation, keys, c⟩ := by
  induction q using rec_children with
  | h r children ih =>
    rw [deferrals_eq] at hd
    rcases List.mem_append.mp hd with hd | hd
    · obtain ⟨c, hc, keys, hkeys, rfl⟩ := mem_batchedAmong.mp hd
      exact ⟨_, c, keys, h, hc, hkeys, rfl⟩
    · obtain ⟨c, hc, hd⟩ := List.mem_flatMap.mp hd
      obtain ⟨hc, hjoined⟩ := mem_joinedAmong.mp hc
      exact ih c hc (h.joined hc hjoined) hd

/-- A deferred relation starts a statement. -/
theorem home_of_mem_deferrals {root home : Plan γ} {d : Deferral γ} (h : root.Home home home)
    (hd : d ∈ home.deferrals) : root.Home d.plan d.plan := by
  obtain ⟨p, c, keys, hp, hc, hkeys, rfl⟩ := exists_home_of_mem_deferrals h hd
  exact .batched hp hc (by rw [Relation.isBatched, hkeys]; rfl)

/-! ## All batched relations -/

/-- The batched relations below the root of a plan. -/
def batchedBelow (p : Plan γ) : List (Plan γ) := p.descendants.filter fun q => q.relation.isBatched

/-- The batched relations of a deferred plan, its root included. -/
def deferredNodes (d : Deferral γ) : List (Plan γ) := d.plan :: d.plan.batchedBelow

theorem filter_nodes (c : Plan γ) : (c.nodes.filter fun q => q.relation.isBatched) =
    if c.relation.isBatched then c :: c.batchedBelow else c.batchedBelow := by
  rw [nodes, List.filter_cons, batchedBelow]

/-- **Every batched relation is deferred**, or lies below a deferred one. -/
theorem batchedBelow_perm (p : Plan γ) :
    p.batchedBelow.Perm (p.deferrals.flatMap deferredNodes) := by
  induction p using rec_children with
  | h r children ih =>
    rw [batchedBelow, descendants_eq, deferrals_eq, List.flatMap_append, List.flatMap_assoc,
      List.filter_flatMap]
    dsimp only
    -- the plan lists a joined child's batched relations in place, the deferrals after all
    -- batched children: hence a permutation
    induction children with
    | nil => exact .refl _
    | cons c rest ihrest =>
      have hrest := ihrest fun c hc => ih c (List.mem_cons_of_mem _ hc)
      rw [List.flatMap_cons, filter_nodes]
      rcases among_cons r c rest with ⟨keys, hbatched, hamong, hjoins⟩ | ⟨hjoined, hamong, hjoins⟩
      · rw [if_pos hbatched, hamong, hjoins, List.flatMap_cons, List.append_assoc]
        exact (List.Perm.refl (c :: c.batchedBelow)).append hrest
      · rw [hjoined, if_neg Bool.false_ne_true, hamong, hjoins, List.flatMap_cons]
        exact ((ih c List.mem_cons_self).append hrest).trans (List.perm_append_comm_assoc _ _ _)

/-- A deferred relation is a batched one. -/
theorem mem_batchedBelow_of_mem_deferrals {p : Plan γ} {d : Deferral γ} (hd : d ∈ p.deferrals) :
    d.plan ∈ p.batchedBelow :=
  (batchedBelow_perm p).mem_iff.mpr (List.mem_flatMap.mpr ⟨d, hd, List.mem_cons_self⟩)

/-- The batched relations below a relation are among those of the plan. -/
theorem batchedBelow_subset {p q : Plan γ} (hq : q ∈ p.nodes) :
    q.batchedBelow ⊆ p.batchedBelow := by
  intro c hc
  obtain ⟨hbelow, hbatched⟩ := List.mem_filter.mp hc
  obtain ⟨link, hlink, rfl⟩ := List.mem_map.mp hbelow
  exact List.mem_filter.mpr ⟨List.mem_map_of_mem (links_subset hq hlink), hbatched⟩

/-! ## Level by level -/

/-- The next level: what the plans of some deferred relations defer. -/
def nextLevel (ds : List (Deferral γ)) : List (Deferral γ) := ds.flatMap fun d => d.plan.deferrals

/-- The next level has fewer relations to fetch. -/
theorem deferredSize_nextLevel (ds : List (Deferral γ)) :
    deferredSize (nextLevel ds) + ds.length ≤ deferredSize ds := by
  induction ds with
  | nil => exact Nat.le_refl _
  | cons d ds ih =>
    have hd := deferredSize_deferrals d.plan
    rw [nextLevel, List.flatMap_cons, deferredSize_append, deferredSize_cons, List.length_cons,
      ← nextLevel]
    omega

/-- Deferred relations level by level: those given, then those that their statements defer, and so
on. -/
def breadthFirst : List (Deferral γ) → List (Deferral γ)
  | [] => []
  | d :: ds => d :: ds ++ breadthFirst (nextLevel (d :: ds))
termination_by ds => deferredSize ds
decreasing_by
  have := deferredSize_nextLevel (d :: ds)
  rw [List.length_cons] at this
  omega

theorem breadthFirst_eq (ds : List (Deferral γ)) :
    breadthFirst ds = ds ++ breadthFirst (nextLevel ds) := by
  cases ds with
  | nil => simp [nextLevel, breadthFirst]
  | cons d ds => rw [breadthFirst]

/-- **The levels hold every batched relation once.** -/
theorem breadthFirst_perm (ds : List (Deferral γ)) :
    ((breadthFirst ds).map Deferral.plan).Perm (ds.flatMap deferredNodes) := by
  induction ds using breadthFirst.induct with
  | case1 => rw [breadthFirst]; exact .refl _
  | case2 d ds ih =>
    rw [breadthFirst, List.map_append]
    refine ((List.Perm.refl _).append ih).trans ?_
    rw [nextLevel, List.flatMap_assoc]
    refine .trans ?_ (List.map_append_flatMap_perm (d :: ds) Deferral.plan
      fun d => d.plan.batchedBelow)
    exact (List.Perm.refl _).append
      (List.Perm.flatMap_left _ fun d _ => (batchedBelow_perm d.plan).symm)

/-- Fewer relations have fewer below them, in the same order. -/
theorem breadthFirst_sublist {ds es : List (Deferral γ)} (h : ds.Sublist es) :
    (breadthFirst ds).Sublist (breadthFirst es) := by
  induction es using breadthFirst.induct generalizing ds with
  | case1 => rw [List.sublist_nil.mp h]
  | case2 e es ih =>
    rw [breadthFirst_eq ds, breadthFirst]
    exact h.append (ih (h.flatMap _))

/-- No alias occurs twice in the levels of a plan. -/
theorem nodup_label_breadthFirst {p : Plan γ} (hnodup : p.labels.Nodup) :
    ((breadthFirst p.deferrals).map fun d => d.plan.relation.label).Nodup := by
  have hperm := (breadthFirst_perm p.deferrals).trans (batchedBelow_perm p).symm
  have hlabels := hperm.map fun q => q.relation.label
  rw [List.map_map] at hlabels
  refine hlabels.nodup_iff.mpr ?_
  rw [labels, nodes, List.map_cons, List.nodup_cons] at hnodup
  exact hnodup.2.sublist (List.filter_sublist.map _)

end RelationSql.Plan
