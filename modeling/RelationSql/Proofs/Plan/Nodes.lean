import RelationSql.Plan.Lookup
import RelationSql.Plan.Validation
import Mathlib.Data.List.Nodup

/-!
# The relations of a plan

A plan as the list of its relations, and as the list of its links: the pairs of a relation and one
of its children. Both run from parents to children, and through children in declared order.

* `aliases_nodup`, `labels_nodup` — a valid plan has every alias once, junctions included;
* `eq_of_label_eq`, `parent_unique` — so an alias names one relation, with one parent;
* `find?_of_mem` — and looking an alias up finds its relation.
-/

namespace RelationSql

variable {γ : Type}

/-- The aliases that a relation has in statements: its own, and that of its junction. -/
def Relation.aliases (r : Relation γ) : List String :=
  r.label :: r.junction.toList.map Junction.label

namespace Plan

/-- **Induction over plans**: what passes from the children of every plan to the plan holds of
all. -/
theorem rec_children {motive : Plan γ → Prop}
    (h : ∀ r children, (∀ c ∈ children, motive c) → motive ⟨r, children⟩) (p : Plan γ) :
    motive p := by
  induction hsize : p.size using Nat.strongRecOn generalizing p with
  | ind n ih =>
    obtain ⟨r, children⟩ := p
    refine h r children fun c hc => ih c.size ?_ c rfl
    have hle : c.size ≤ sizeAll children := by
      clear ih hsize
      induction children with
      | nil => cases hc
      | cons first rest ih =>
        rw [sizeAll]
        rcases List.mem_cons.mp hc with rfl | hc
        · omega
        · have := ih hc
          omega
    rw [size] at hsize
    omega

/-! ## Links and relations -/

mutual

/-- The links of a plan. -/
def links : Plan γ → List (Plan γ × Plan γ)
  | ⟨r, children⟩ => linksFrom ⟨r, children⟩ children

/-- The links to some children of a plan, each with those of the child. -/
def linksFrom (parent : Plan γ) : List (Plan γ) → List (Plan γ × Plan γ)
  | [] => []
  | c :: rest => (parent, c) :: links c ++ linksFrom parent rest

end

/-- The relations below the root of a plan, each with what lies below it. -/
def descendants (p : Plan γ) : List (Plan γ) := p.links.map Prod.snd

/-- The relations of a plan. -/
def nodes (p : Plan γ) : List (Plan γ) := p :: p.descendants

/-- The aliases of the relations of a plan. -/
def labels (p : Plan γ) : List String := p.nodes.map fun q => q.relation.label

/-- The aliases of the relations and junctions of a plan. -/
def aliases (p : Plan γ) : List String := p.nodes.flatMap fun q => q.relation.aliases

theorem linksFrom_eq (parent : Plan γ) (children : List (Plan γ)) :
    linksFrom parent children = children.flatMap fun c => (parent, c) :: c.links := by
  induction children with
  | nil => rfl
  | cons c rest ih => rw [linksFrom, ih, List.flatMap_cons]

theorem links_eq (p : Plan γ) : p.links = p.children.flatMap fun c => (p, c) :: c.links := by
  cases p
  rw [links, linksFrom_eq]

theorem descendants_eq (p : Plan γ) : p.descendants = p.children.flatMap nodes := by
  rw [descendants, links_eq, List.map_flatMap]
  rfl

theorem labels_eq (p : Plan γ) : p.labels = p.relation.label :: p.children.flatMap labels := by
  rw [labels, nodes, List.map_cons, descendants_eq, List.map_flatMap]
  rfl

/-- What lies below a child. -/
theorem links_subset_of_mem_children {p c : Plan γ} (hc : c ∈ p.children) :
    c.links ⊆ p.links := by
  intro link hlink
  rw [links_eq]
  exact List.mem_flatMap.mpr ⟨c, hc, List.mem_cons_of_mem _ hlink⟩

theorem links_subset {p q : Plan γ} (hq : q ∈ p.nodes) : q.links ⊆ p.links := by
  induction p using rec_children with
  | h r children ih =>
    rcases List.mem_cons.mp hq with rfl | hq
    · exact List.Subset.refl _
    · rw [descendants_eq] at hq
      obtain ⟨c, hc, hq⟩ := List.mem_flatMap.mp hq
      exact List.Subset.trans (ih c hc hq) (links_subset_of_mem_children hc)

theorem descendants_subset {p q : Plan γ} (hq : q ∈ p.nodes) : q.descendants ⊆ p.descendants :=
  List.map_subset _ (links_subset hq)

theorem nodes_sublist {p q : Plan γ} (hq : q ∈ p.nodes) : q.nodes.Sublist p.nodes := by
  induction p using rec_children with
  | h r children ih =>
    rcases List.mem_cons.mp hq with rfl | hq
    · exact List.Sublist.refl _
    · rw [descendants_eq] at hq
      obtain ⟨c, hc, hq⟩ := List.mem_flatMap.mp hq
      have hchild : c.nodes.Sublist (children.flatMap nodes) :=
        List.sublist_flatten_of_mem (List.mem_map_of_mem hc)
      have hroot : (Plan.mk r children).nodes = ⟨r, children⟩ :: children.flatMap nodes := by
        rw [nodes, descendants_eq]
      rw [hroot]
      exact ((ih c hc hq).trans hchild).cons _

/-- **Each relation is linked to its children.** -/
theorem mem_links {p q c : Plan γ} (hq : q ∈ p.nodes) (hc : c ∈ q.children) : (q, c) ∈ p.links := by
  refine links_subset hq ?_
  rw [links_eq]
  exact List.mem_flatMap.mpr ⟨c, hc, List.mem_cons_self⟩

theorem mem_descendants {p q c : Plan γ} (hq : q ∈ p.nodes) (hc : c ∈ q.children) :
    c ∈ p.descendants :=
  List.mem_map.mpr ⟨(q, c), mem_links hq hc, rfl⟩

/-! ## Looking aliases up -/

/-- Looking for the key of a member finds the member if no key occurs twice. -/
theorem find?_key {α : Type} (key : α → String) {xs : List α} (hnodup : (xs.map key).Nodup) {x : α}
    (hx : x ∈ xs) : (xs.find? fun y => key y = key x) = some x := by
  cases hfound : xs.find? fun y => key y = key x with
  | none =>
    have hnot := List.find?_eq_none.mp hfound x hx
    simp at hnot
  | some y =>
    have hkey : key y = key x := by simpa using List.find?_some hfound
    rw [List.inj_on_of_nodup_map hnodup (List.mem_of_find?_eq_some hfound) hx hkey]

/-- The link to an alias. -/
def linkTo? (label : String) (links : List (Plan γ × Plan γ)) : Option (Plan γ × Option (Plan γ)) :=
  (links.find? fun link => link.2.relation.label = label).map fun link => (link.2, some link.1)

theorem linkTo?_cons (label : String) (p c : Plan γ) (links : List (Plan γ × Plan γ)) :
    linkTo? label ((p, c) :: links) =
      if c.relation.label = label then some (c, some p) else linkTo? label links := by
  rw [linkTo?, List.find?_cons]
  split
  · next hlabel => rw [if_pos (of_decide_eq_true hlabel)]; rfl
  · next hlabel => rw [if_neg (of_decide_eq_false hlabel), linkTo?]

theorem linkTo?_append (label : String) (links more : List (Plan γ × Plan γ)) :
    linkTo? label (links ++ more) = (linkTo? label links).or (linkTo? label more) := by
  rw [linkTo?, List.find?_append, Option.map_or]
  rfl

/-- **Looking an alias up** finds the first relation that has it. -/
theorem findUnder_eq (label : String) (parent : Option (Plan γ)) (p : Plan γ) :
    findUnder label parent p =
      if p.relation.label = label then some (p, parent) else linkTo? label p.links := by
  induction p using rec_children generalizing parent with
  | h r children ih =>
    rw [findUnder, links, linksFrom_eq]
    congr 1
    -- the parent stays the whole plan while the induction takes children off the list
    generalize Plan.mk r children = p
    induction children with
    | nil => rfl
    | cons c rest ihrest =>
      have hc := ih c List.mem_cons_self (some p)
      have hrest := ihrest fun c hc => ih c (List.mem_cons_of_mem _ hc)
      rw [findAmong, hc, hrest, List.flatMap_cons, linkTo?_append, linkTo?_cons]
      split
      · next found hfound => rw [hfound]; rfl
      · next hfound => rw [hfound]; rfl

/-- Looking an alias up finds a relation of the plan that has it. -/
theorem mem_of_find? {root : Plan γ} {label : String} {found : Plan γ × Option (Plan γ)}
    (h : root.find? label = some found) :
    found.1 ∈ root.nodes ∧ found.1.relation.label = label := by
  rw [find?, findUnder_eq] at h
  split at h
  · next hlabel =>
    cases h
    exact ⟨List.mem_cons_self, hlabel⟩
  · obtain ⟨link, hlink, rfl⟩ := Option.map_eq_some_iff.mp h
    have hlabel := List.find?_some hlink
    refine ⟨List.mem_cons_of_mem _ ?_, of_decide_eq_true hlabel⟩
    exact List.mem_map.mpr ⟨link, List.mem_of_find?_eq_some hlink, rfl⟩

section Unique

variable {root : Plan γ} (hnodup : root.labels.Nodup)
include hnodup

/-- **An alias names one relation.** -/
theorem eq_of_label_eq {p q : Plan γ} (hp : p ∈ root.nodes) (hq : q ∈ root.nodes)
    (hlabel : p.relation.label = q.relation.label) : p = q :=
  List.inj_on_of_nodup_map hnodup hp hq hlabel

theorem nodup_map_links : (root.links.map fun link => link.2.relation.label).Nodup := by
  rw [labels, nodes, List.map_cons, descendants, List.map_map] at hnodup
  exact (List.nodup_cons.mp hnodup).2

/-- **A relation has one parent.** -/
theorem parent_unique {p q c : Plan γ} (hp : p ∈ root.nodes) (hcp : c ∈ p.children)
    (hq : q ∈ root.nodes) (hcq : c ∈ q.children) : p = q :=
  congrArg Prod.fst (List.inj_on_of_nodup_map (nodup_map_links hnodup) (mem_links hp hcp)
    (mem_links hq hcq) rfl)

/-- The root hangs off no relation. -/
theorem label_ne_of_mem_descendants {c : Plan γ} (hc : c ∈ root.descendants) :
    c.relation.label ≠ root.relation.label := by
  intro hlabel
  rw [labels, nodes, List.map_cons, List.nodup_cons] at hnodup
  exact hnodup.1 (List.mem_map.mpr ⟨c, hc, hlabel⟩)

/-- **Looking the alias of a relation up finds the relation.** -/
theorem find?_of_mem {q : Plan γ} (hq : q ∈ root.nodes) :
    ∃ parent?, root.find? q.relation.label = some (q, parent?) := by
  rw [find?, findUnder_eq]
  rcases List.mem_cons.mp hq with rfl | hq
  · exact ⟨none, if_pos rfl⟩
  · obtain ⟨link, hlink, rfl⟩ := List.mem_map.mp hq
    refine ⟨some link.1, ?_⟩
    rw [if_neg (label_ne_of_mem_descendants hnodup hq).symm, linkTo?,
      find?_key _ (nodup_map_links hnodup) hlink]
    rfl

end Unique

/-! ## Aliases of valid plans -/

/-- A check has taken some aliases, none of which was in use. -/
structure Takes (used taken used' : List String) : Prop where
  /-- none is taken twice -/
  nodup : taken.Nodup
  /-- none was in use -/
  fresh : ∀ label ∈ taken, label ∉ used
  /-- all are in use now -/
  taken_subset : taken ⊆ used'
  /-- and so are those that were -/
  used_subset : used ⊆ used'

namespace Takes

theorem nil (used : List String) : Takes used [] used :=
  ⟨List.nodup_nil, fun _ h => absurd h List.not_mem_nil, List.nil_subset _, List.Subset.refl _⟩

theorem append {used used' used'' taken more : List String} (h : Takes used taken used')
    (h' : Takes used' more used'') : Takes used (taken ++ more) used'' where
  nodup := by
    refine List.nodup_append.mpr ⟨h.nodup, h'.nodup, fun a ha b hb heq => ?_⟩
    exact h'.fresh b hb (h.taken_subset (heq ▸ ha))
  fresh := by
    intro label hlabel
    rcases List.mem_append.mp hlabel with hlabel | hlabel
    · exact h.fresh label hlabel
    · exact fun hused => h'.fresh label hlabel (h.used_subset hused)
  taken_subset := List.append_subset.mpr
    ⟨List.Subset.trans h.taken_subset h'.used_subset, h'.taken_subset⟩
  used_subset := List.Subset.trans h.used_subset h'.used_subset

end Takes

theorem takes_of_claimAlias {label : String} {used used' : List String}
    (h : claimAlias label used = .ok used') : Takes used [label] used' := by
  rw [claimAlias] at h
  split at h
  · cases h
  · next hfresh =>
    cases h
    refine ⟨List.nodup_singleton _, ?_, ?_, List.subset_cons_self _ _⟩
    · intro other hother
      rw [List.mem_singleton.mp hother]
      exact hfresh
    · exact List.cons_subset.mpr ⟨List.mem_cons_self, List.nil_subset _⟩

/-- A junction takes its alias. -/
theorem takes_of_checkLink {r : Relation γ} {isRoot : Bool} {used used' : List String}
    (h : r.checkLink isRoot used = .ok used') :
    Takes used (r.junction.toList.map Junction.label) used' := by
  rw [Relation.checkLink] at h
  split at h
  · next j hj =>
    obtain ⟨claimed, hclaim, h⟩ := bind_eq_ok h
    obtain ⟨_, -, h⟩ := bind_eq_ok h
    obtain ⟨_, -, h⟩ := bind_eq_ok h
    obtain ⟨_, -, h⟩ := bind_eq_ok h
    obtain ⟨_, -, h⟩ := bind_eq_ok h
    cases h
    rw [hj]
    exact takes_of_claimAlias hclaim
  · next hnone =>
    obtain ⟨_, -, h⟩ := bind_eq_ok h
    cases h
    rw [hnone]
    exact .nil used

/-- A relation takes its aliases. -/
theorem takes_of_relation_check {r : Relation γ} {isRoot : Bool} {used used' : List String}
    (h : r.check isRoot used = .ok used') : Takes used r.aliases used' := by
  rw [Relation.check] at h
  obtain ⟨claimed, hclaim, h⟩ := bind_eq_ok h
  obtain ⟨_, -, h⟩ := bind_eq_ok h
  obtain ⟨linked, hlink, h⟩ := bind_eq_ok h
  obtain ⟨_, -, h⟩ := bind_eq_ok h
  cases h
  exact (takes_of_claimAlias hclaim).append (takes_of_checkLink hlink)

theorem aliases_eq (p : Plan γ) :
    p.aliases = p.relation.aliases ++ p.children.flatMap aliases := by
  rw [aliases, nodes, List.flatMap_cons, descendants_eq, List.flatMap_assoc]
  rfl

/-- The plans below a relation are checked one after the other. -/
theorem takes_of_checkAll {children : List (Plan γ)} {used used' : List String}
    (ih : ∀ c ∈ children, ∀ {used used'}, c.check false used = .ok used' →
      Takes used c.aliases used')
    (h : checkAll children used = .ok used') : Takes used (children.flatMap aliases) used' := by
  induction children generalizing used with
  | nil =>
    cases h
    exact .nil _
  | cons c rest ihrest =>
    rw [checkAll] at h
    cases hc : c.check false used with
    | error fault =>
      rw [hc] at h
      cases h
    | ok claimed =>
      rw [hc] at h
      rw [List.flatMap_cons]
      exact (ih c List.mem_cons_self hc).append
        (ihrest (fun c hc => ih c (List.mem_cons_of_mem _ hc)) h)

/-- **Checking a plan takes the aliases of all its relations.** -/
theorem takes_of_check {p : Plan γ} {isRoot : Bool} {used used' : List String}
    (h : p.check isRoot used = .ok used') : Takes used p.aliases used' := by
  induction p using rec_children generalizing isRoot used used' with
  | h r children ih =>
    rw [check] at h
    cases hr : r.check isRoot used with
    | error fault =>
      rw [hr] at h
      cases h
    | ok claimed =>
      rw [hr] at h
      rw [aliases_eq]
      exact (takes_of_relation_check hr).append (takes_of_checkAll (fun c hc => ih c hc) h)

/-- **A valid plan has every alias once**, junctions included. -/
theorem aliases_nodup {p : Plan γ} (h : p.validate = .ok ()) : p.aliases.Nodup := by
  rw [validate] at h
  cases hcheck : p.check true [] with
  | error fault =>
    rw [hcheck] at h
    cases h
  | ok used => exact (takes_of_check hcheck).nodup

theorem labels_sublist_aliases (p : Plan γ) : p.labels.Sublist p.aliases := by
  rw [labels, aliases]
  induction p.nodes with
  | nil => exact .slnil
  | cons q rest ih =>
    rw [List.map_cons, List.flatMap_cons]
    exact (List.sublist_append_left [q.relation.label] _).append ih

/-- Leaving junctions out, a valid plan has every alias once. -/
theorem labels_nodup {p : Plan γ} (h : p.validate = .ok ()) : p.labels.Nodup :=
  (aliases_nodup h).sublist p.labels_sublist_aliases

end Plan

end RelationSql
