import RelationSql.Proofs.Plan.Nodes

/-!
# Places in a plan

A relation of a plan stands at a place: which child to go to, step by step from the root. Equal
relations can stand at different places, so that the parent of a relation belongs to its place.
Places compare as lists of numbers do. That is preorder: a relation comes before what lies below it,
and all of that before the later children of its parent.

* `find?_eq` — looking an alias up goes through the children, each before what lies below it;
* `exists_firstWith` — so it ends at the first place with the alias, and tells its parent;
* `place_unique` — a valid plan has an alias at one place only;
* `found_first_in_preorder` — what is found in any plan, and in a valid one.
-/

namespace RelationSql.Plan

variable {γ : Type}

/-- The relation at a place, with what lies below it. -/
def get? (p : Plan γ) : List Nat → Option (Plan γ)
  | [] => some p
  | i :: rest => p.children[i]?.bind fun c => c.get? rest

/-- The relation that the one at a place hangs off, which the root does not have. -/
def parentAt? (p : Plan γ) : List Nat → Option (Plan γ)
  | [] => none
  | i :: rest => p.get? (i :: rest).dropLast

/-- A place is the first one in preorder whose relation has an alias. -/
structure FirstWith (p : Plan γ) (label : String) (place : List Nat) (q : Plan γ) : Prop where
  /-- the relation at the place -/
  found : p.get? place = some q
  /-- it has the alias -/
  label_eq : q.relation.label = label
  /-- no relation before it has -/
  first : ∀ other r, other < place → p.get? other = some r → r.relation.label ≠ label

/-- No relation of a plan has an alias. -/
def Lacks (p : Plan γ) (label : String) : Prop :=
  ∀ place q, p.get? place = some q → q.relation.label ≠ label

/-! ## Places and parents -/

theorem get?_cons_eq_some {p q : Plan γ} {i : Nat} {place : List Nat} :
    p.get? (i :: place) = some q ↔ ∃ c, p.children[i]? = some c ∧ c.get? place = some q :=
  Option.bind_eq_some_iff

/-- Below a child the parents are those in the child. -/
theorem parentAt?_cons {p c : Plan γ} {i : Nat} (hc : p.children[i]? = some c) {place : List Nat}
    (hplace : place ≠ []) : p.parentAt? (i :: place) = c.parentAt? place := by
  cases place with
  | nil => exact absurd rfl hplace
  | cons j rest =>
    change p.children[i]?.bind (fun c => c.get? (j :: rest).dropLast) = _
    rw [hc]
    rfl

/-- The parent of a relation has it as a child, under the last step to its place. -/
theorem exists_parentAt? {p q : Plan γ} {place : List Nat} (h : p.get? place = some q)
    (hplace : place ≠ []) :
    ∃ parent i, p.parentAt? place = some parent ∧ parent.children[i]? = some q ∧
      place = place.dropLast ++ [i] := by
  induction place generalizing p with
  | nil => exact absurd rfl hplace
  | cons i rest ih =>
    obtain ⟨c, hc, hq⟩ := get?_cons_eq_some.mp h
    cases rest with
    | nil =>
      cases hq
      exact ⟨p, i, rfl, hc, rfl⟩
    | cons j rest =>
      obtain ⟨parent, k, hparent, hchild, hlast⟩ := ih hq (List.cons_ne_nil j rest)
      refine ⟨parent, k, ?_, hchild, ?_⟩
      · rw [parentAt?_cons hc (List.cons_ne_nil j rest), hparent]
      · rw [List.dropLast_cons_cons, List.cons_append, ← hlast]

/-- Only the root has no parent. -/
theorem parentAt?_eq_none_iff {p q : Plan γ} {place : List Nat} (h : p.get? place = some q) :
    p.parentAt? place = none ↔ place = [] := by
  constructor
  · intro hnone
    by_contra hplace
    obtain ⟨parent, i, hparent, -⟩ := exists_parentAt? h hplace
    rw [hnone] at hparent
    cases hparent
  · rintro rfl
    rfl

/-! ## Looking aliases up -/

/-- Look at a child of a plan, and then below it. -/
def lookAt (p : Plan γ) (label : String) (c : Plan γ) : Option (Plan γ × Option (Plan γ)) :=
  if c.relation.label = label then some (c, some p) else c.find? label

/-- **Looking an alias up** goes through the children in their order. A child is looked at before
what lies below it, so that one which has the alias is told with its parent. -/
theorem find?_eq (p : Plan γ) (label : String) :
    p.find? label =
      if p.relation.label = label then some (p, none)
      else p.children.findSome? (p.lookAt label) := by
  have hchild (c : Plan γ) : linkTo? label ((p, c) :: c.links) = p.lookAt label c := by
    rw [linkTo?_cons, lookAt]
    split
    · rfl
    · next hlabel => rw [find?, findUnder_eq, if_neg hlabel]
  rw [find?, findUnder_eq, links_eq]
  congr 1
  induction p.children with
  | nil => rfl
  | cons c rest ih =>
    rw [List.flatMap_cons, linkTo?_append, hchild, ih, List.findSome?_cons]
    cases p.lookAt label c <;> rfl

/-- Nothing is found at or below a child only if the child has nothing to be found. -/
theorem find?_eq_none_of_lookAt {p c : Plan γ} {label : String} (h : p.lookAt label c = none) :
    c.find? label = none := by
  rw [lookAt] at h
  split at h
  · cases h
  · exact h

/-- **Nothing is found only where no relation has the alias.** -/
theorem lacks_of_find?_eq_none {p : Plan γ} {label : String} (h : p.find? label = none) :
    p.Lacks label := by
  induction p using rec_children with
  | h r children ih =>
    rw [find?_eq] at h
    split at h
    · cases h
    · next hroot =>
      intro place q hq
      cases place with
      | nil =>
        cases hq
        exact hroot
      | cons i rest =>
        obtain ⟨c, hc, hq⟩ := get?_cons_eq_some.mp hq
        have hmem := List.mem_of_getElem? hc
        have hnone := find?_eq_none_of_lookAt (List.findSome?_eq_none_iff.mp h c hmem)
        exact ih c hmem hnone rest q hq

theorem firstWith_root {p : Plan γ} {label : String} (hlabel : p.relation.label = label) :
    p.FirstWith label [] p :=
  ⟨rfl, hlabel, fun other _ hlt => absurd hlt (List.not_lt_nil other)⟩

/-- The first place in a child is the first one in the plan, if the root and the children before it
do not have the alias. -/
theorem FirstWith.of_child {p c q : Plan γ} {label : String} {i : Nat} {place : List Nat}
    (h : c.FirstWith label place q) (hroot : p.relation.label ≠ label)
    (hc : p.children[i]? = some c)
    (hbefore : ∀ j b, j < i → p.children[j]? = some b → b.Lacks label) :
    p.FirstWith label (i :: place) q where
  found := get?_cons_eq_some.mpr ⟨c, hc, h.found⟩
  label_eq := h.label_eq
  first := by
    intro other r hlt hr
    cases other with
    | nil =>
      cases hr
      exact hroot
    | cons j rest =>
      obtain ⟨b, hb, hr⟩ := get?_cons_eq_some.mp hr
      rcases List.cons_lt_cons_iff.mp hlt with hj | ⟨rfl, hrest⟩
      · exact hbefore j b hj hb rest r hr
      · rw [hc] at hb
        cases hb
        exact h.first rest r hrest hr

/-- The child at which a search ends: nothing was to be found in those before it. -/
theorem exists_child_of_findSome? {p : Plan γ} {label : String}
    {found : Plan γ × Option (Plan γ)}
    (h : p.children.findSome? (p.lookAt label) = some found) :
    ∃ (i : Nat) (c : Plan γ), p.children[i]? = some c ∧ p.lookAt label c = some found ∧
      ∀ j b, j < i → p.children[j]? = some b → b.Lacks label := by
  obtain ⟨before, c, behind, hsplit, hfound, hnone⟩ := List.findSome?_eq_some_iff.mp h
  refine ⟨before.length, c, ?_, hfound, fun j b hj hb => ?_⟩
  · simp [hsplit]
  · rw [hsplit, List.getElem?_append_left hj] at hb
    have hnothing := hnone b (List.mem_of_getElem? hb)
    exact lacks_of_find?_eq_none (find?_eq_none_of_lookAt hnothing)

/-- **What is found is the first relation with the alias**, and its parent. The induction is on the
plan: what a search below a child finds is not the child itself, and below the child the plan has
the same parents. -/
theorem exists_firstWith {p q : Plan γ} {label : String} {parent? : Option (Plan γ)}
    (h : p.find? label = some (q, parent?)) :
    ∃ place, p.FirstWith label place q ∧ parent? = p.parentAt? place := by
  induction p using rec_children with
  | h r children ih =>
    rw [find?_eq] at h
    split at h
    · next hroot =>
      cases h
      exact ⟨[], firstWith_root hroot, rfl⟩
    · next hroot =>
      obtain ⟨i, c, hc, hlook, hbefore⟩ := exists_child_of_findSome? h
      rw [lookAt] at hlook
      split at hlook
      · next hlabel =>
        cases hlook
        exact ⟨[i], (firstWith_root hlabel).of_child hroot hc hbefore, rfl⟩
      · next hlabel =>
        obtain ⟨place, hfirst, rfl⟩ := ih c (List.mem_of_getElem? hc) hlook
        have hbelow : place ≠ [] := by
          rintro rfl
          cases hfirst.found
          exact hlabel hfirst.label_eq
        exact ⟨i :: place, hfirst.of_child hroot hc hbefore, (parentAt?_cons hc hbelow).symm⟩

/-- There is one first place. -/
theorem FirstWith.unique {p q r : Plan γ} {label : String} {place other : List Nat}
    (h : p.FirstWith label place q) (h' : p.FirstWith label other r) : place = other := by
  rcases Std.lt_trichotomy place other with hlt | heq | hlt
  · exact absurd h.label_eq (h'.first place q hlt h.found)
  · exact heq
  · exact absurd h'.label_eq (h.first other r hlt h'.found)

/-! ## Valid plans -/

theorem mem_nodes_of_get? {p q : Plan γ} {place : List Nat} (h : p.get? place = some q) :
    q ∈ p.nodes := by
  induction place generalizing p with
  | nil =>
    cases h
    exact List.mem_cons_self
  | cons i rest ih =>
    obtain ⟨c, hc, hq⟩ := get?_cons_eq_some.mp h
    rw [nodes, descendants_eq]
    exact List.mem_cons_of_mem _ (List.mem_flatMap.mpr ⟨c, List.mem_of_getElem? hc, ih hq⟩)

theorem label_mem_labels {p q : Plan γ} {place : List Nat} (h : p.get? place = some q) :
    q.relation.label ∈ p.labels :=
  List.mem_map_of_mem (mem_nodes_of_get? h)

section Unique

variable {p q r : Plan γ} (hnodup : p.labels.Nodup)
include hnodup

/-- The root shares its alias with nothing below it. -/
theorem label_ne_of_get?_cons {i : Nat} {rest : List Nat} (h : p.get? (i :: rest) = some q) :
    q.relation.label ≠ p.relation.label := by
  obtain ⟨c, hc, hq⟩ := get?_cons_eq_some.mp h
  refine label_ne_of_mem_descendants hnodup ?_
  rw [descendants_eq]
  exact List.mem_flatMap.mpr ⟨c, List.mem_of_getElem? hc, mem_nodes_of_get? hq⟩

/-- Different children share no alias. -/
theorem disjoint_labels {i j : Nat} {c b : Plan γ} (hc : p.children[i]? = some c)
    (hb : p.children[j]? = some b) (hij : i < j) : c.labels.Disjoint b.labels := by
  obtain ⟨hi, rfl⟩ := List.getElem?_eq_some_iff.mp hc
  obtain ⟨hj, rfl⟩ := List.getElem?_eq_some_iff.mp hb
  rw [labels_eq, List.nodup_cons, List.nodup_flatMap] at hnodup
  exact List.pairwise_iff_getElem.mp hnodup.2.2 i j hi hj hij

/-- **A plan without repeated aliases has each at one place.** -/
theorem place_unique {place other : List Nat} (hq : p.get? place = some q)
    (hr : p.get? other = some r) (hlabel : q.relation.label = r.relation.label) :
    place = other := by
  induction place generalizing p other with
  | nil =>
    cases hq
    cases other with
    | nil => rfl
    | cons j rest => exact absurd hlabel.symm (label_ne_of_get?_cons hnodup hr)
  | cons i rest ih =>
    cases other with
    | nil =>
      cases hr
      exact absurd hlabel (label_ne_of_get?_cons hnodup hq)
    | cons j rest' =>
      obtain ⟨c, hc, hq⟩ := get?_cons_eq_some.mp hq
      obtain ⟨b, hb, hr⟩ := get?_cons_eq_some.mp hr
      have hqmem := label_mem_labels hq
      have hrmem := label_mem_labels hr
      rw [hlabel] at hqmem
      rcases Nat.lt_trichotomy i j with hij | rfl | hij
      · exact absurd hrmem (disjoint_labels hnodup hc hb hij hqmem)
      · rw [hc] at hb
        cases hb
        rw [labels_eq, List.nodup_cons, List.nodup_flatMap] at hnodup
        rw [ih (hnodup.2.1 c (List.mem_of_getElem? hc)) hq hr]
      · exact absurd hqmem (disjoint_labels hnodup hb hc hij hrmem)

end Unique

/-- **An alias is looked up in preorder, with its parent.** In any plan nothing is found exactly if
no relation has the alias. What is found is the relation at the first place in preorder that has it,
together with the one it hangs off at that place; only the root hangs off none, and any other
relation is a child of what it hangs off. So in a valid plan the alias of each relation leads to the
relation itself and to its parent. -/
theorem found_first_in_preorder (root : Plan γ) (label : String) :
    (root.find? label = none ↔
      ∀ place q, root.get? place = some q → q.relation.label ≠ label) ∧
    (∀ q parent?, root.find? label = some (q, parent?) ↔
      ∃ place, root.FirstWith label place q ∧ parent? = root.parentAt? place) ∧
    (∀ place q, root.get? place = some q →
      (root.parentAt? place = none ↔ place = []) ∧
      ∀ parent, root.parentAt? place = some parent →
        ∃ i, place = place.dropLast ++ [i] ∧ parent.children[i]? = some q) ∧
    (root.validate = .ok () → ∀ place q, root.get? place = some q →
      root.find? q.relation.label = some (q, root.parentAt? place)) := by
  have hsome {label : String} {place : List Nat} {q : Plan γ} (hq : root.get? place = some q)
      (hlabel : q.relation.label = label) :
      ∃ found, root.find? label = some found := by
    refine Option.ne_none_iff_exists'.mp fun hnone => ?_
    exact lacks_of_find?_eq_none hnone place q hq hlabel
  refine ⟨⟨lacks_of_find?_eq_none, fun hlacks => ?_⟩, fun q parent? => ⟨exists_firstWith, ?_⟩,
    fun place q hq => ⟨parentAt?_eq_none_iff hq, fun parent hparent => ?_⟩,
    fun hvalid place q hq => ?_⟩
  · by_contra hfound
    obtain ⟨⟨q, parent?⟩, hq⟩ := Option.ne_none_iff_exists'.mp hfound
    obtain ⟨place, hfirst, -⟩ := exists_firstWith hq
    exact hlacks place q hfirst.found hfirst.label_eq
  · rintro ⟨place, hfirst, rfl⟩
    obtain ⟨⟨r, parent?⟩, hr⟩ := hsome hfirst.found hfirst.label_eq
    obtain ⟨other, hother, rfl⟩ := exists_firstWith hr
    obtain rfl := hfirst.unique hother
    obtain rfl : q = r := Option.some.inj (hfirst.found.symm.trans hother.found)
    exact hr
  · have hplace : place ≠ [] := by
      rintro rfl
      cases hparent
    obtain ⟨parent', i, hparent', hchild, hlast⟩ := exists_parentAt? hq hplace
    obtain rfl : parent = parent' := Option.some.inj (hparent.symm.trans hparent')
    exact ⟨i, hlast, hchild⟩
  · obtain ⟨⟨r, parent?⟩, hr⟩ := hsome hq rfl
    obtain ⟨other, hother, rfl⟩ := exists_firstWith hr
    obtain rfl := place_unique (labels_nodup hvalid) hother.found hq hother.label_eq
    obtain rfl : q = r := Option.some.inj (hq.symm.trans hother.found)
    exact hr

/-- A relation that is joined to its parent. -/
def joinedAs (label : String) (children : List (Plan Unit)) : Plan Unit where
  relation := {
    name := label, table := label, label
    join := some ⟨fun parent child _ _ => .ok s!"{parent}.id = {child}.parent"⟩ }
  children

/-- Posts with their comments and the authors of these, and with a relation of a given alias. -/
def threadsWith (label : String) : Plan Unit :=
  joinedAs "p" [joinedAs "c" [joinedAs "a" []], joinedAs label []]

/-- If the authors of posts have the alias of those of comments, the latter are found, which come
first; with an alias of their own they are found themselves. -/
theorem found_authors :
    ((threadsWith "a").get? [0, 0] = some (joinedAs "a" []) ∧
      (threadsWith "a").get? [1] = some (joinedAs "a" []) ∧
      (threadsWith "a").find? "a" =
        some (joinedAs "a" [], some (joinedAs "c" [joinedAs "a" []]))) ∧
    (threadsWith "w").validate = .ok () ∧
      (threadsWith "w").get? [1] = some (joinedAs "w" []) ∧
      (threadsWith "w").find? "w" = some (joinedAs "w" [], some (threadsWith "w")) := by
  have hvalid : (threadsWith "w").validate = .ok () := rfl
  have hfirst : (threadsWith "a").FirstWith "a" [0, 0] (joinedAs "a" []) := by
    refine ⟨rfl, rfl, fun other r hlt hr => ?_⟩
    match other with
    | [] => cases hr; decide
    | [0] => cases hr; decide
    | 0 :: _ :: _ => simp [List.cons_lt_cons_iff] at hlt
    | (_ + 1) :: _ => simp [List.cons_lt_cons_iff] at hlt
  obtain ⟨-, hfound, -, -⟩ := found_first_in_preorder (threadsWith "a") "a"
  obtain ⟨-, -, -, hown⟩ := found_first_in_preorder (threadsWith "w") "w"
  exact ⟨⟨rfl, rfl, (hfound _ _).mpr ⟨[0, 0], hfirst, rfl⟩⟩, hvalid, rfl, hown hvalid [1] _ rfl⟩

end RelationSql.Plan
