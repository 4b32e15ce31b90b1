import RelationSql.Dialect.Builtin
import RelationSql.Proofs.Plan.Validity
import RelationSql.Proofs.Planner.Composition
import RelationSql.Proofs.Planner.Entries
import RelationSql.Proofs.Sql.Parts

/-!
# Where batches are attached

The rows of a batched relation are attached to those of its parent by a key, which one statement
returns in a column of the parent and another one in a column of the relation or of its junction.
The first statement announces both columns before the second one is built. They are there when they
are needed: the one is selected by the statement that announces it, and the other by the statement
for any keys, which compares that very column with the keys.

* `Plan.joinedPart` — the relations of a statement, and `deferrals_eq_joinedPart` that what hangs
  off them in batches is deferred;
* `Restricts` — how a statement compares a column with keys, and `statementAt_restricts` that the
  statement of a batched relation does;
* `Statement.Returns` — a statement returns a column, and `Returns.listed` that its text lists it;
* `deferred_keys_line_up` — the columns that a statement announces.
-/

namespace RelationSql

variable {γ : Type}

/-! ## The joined part -/

namespace Plan

mutual

/-- The joined part of a plan: its root and what is reached from it through relations that are not
batched, parents before children and children in declared order. -/
def joinedPart : Plan γ → List (Plan γ)
  | ⟨r, children⟩ => ⟨r, children⟩ :: joinedPartBelow children

/-- The joined parts of those plans that are joined. -/
def joinedPartBelow : List (Plan γ) → List (Plan γ)
  | [] => []
  | c :: rest =>
    if c.relation.isBatched then joinedPartBelow rest else joinedPart c ++ joinedPartBelow rest

end

theorem joinedPart_eq (p : Plan γ) :
    p.joinedPart = p :: (joinedAmong p.children).flatMap joinedPart := by
  have hbelow (children : List (Plan γ)) :
      joinedPartBelow children = (joinedAmong children).flatMap joinedPart := by
    induction children with
    | nil => rfl
    | cons c rest ih =>
      rw [joinedPartBelow]
      cases hbatched : c.relation.isBatched <;> simp [joinedAmong, hbatched, ih]
  cases p
  rw [joinedPart, hbelow]

theorem joinedPart_subset (p : Plan γ) : p.joinedPart ⊆ p.nodes := by
  induction p using rec_children with
  | h r children ih =>
    intro q hq
    rw [joinedPart_eq] at hq
    rcases List.mem_cons.mp hq with rfl | hq
    · exact List.mem_cons_self
    · obtain ⟨c, hc, hq⟩ := List.mem_flatMap.mp hq
      refine List.mem_cons_of_mem _ ?_
      rw [descendants_eq]
      exact List.mem_flatMap.mpr ⟨c, (mem_joinedAmong.mp hc).1, ih c (mem_joinedAmong.mp hc).1 hq⟩

theorem joinedPart_trans {p q c : Plan γ} (hq : q ∈ p.joinedPart) (hc : c ∈ q.joinedPart) :
    c ∈ p.joinedPart := by
  induction p using rec_children with
  | h r children ih =>
    rw [joinedPart_eq] at hq
    rcases List.mem_cons.mp hq with rfl | hq
    · exact hc
    · obtain ⟨b, hb, hq⟩ := List.mem_flatMap.mp hq
      rw [joinedPart_eq]
      refine List.mem_cons_of_mem _ (List.mem_flatMap.mpr ⟨b, hb, ?_⟩)
      exact ih b (mem_joinedAmong.mp hb).1 hq

/-- A relation that is joined to one of the joined part is in it, too. -/
theorem mem_joinedPart_of_mem_children {p q c : Plan γ} (hq : q ∈ p.joinedPart)
    (hc : c ∈ q.children) (hjoined : c.relation.isBatched = false) : c ∈ p.joinedPart := by
  refine joinedPart_trans hq ?_
  rw [joinedPart_eq]
  refine List.mem_cons_of_mem _ (List.mem_flatMap.mpr ⟨c, mem_joinedAmong.mpr ⟨hc, hjoined⟩, ?_⟩)
  rw [joinedPart_eq]
  exact List.mem_cons_self

/-- **The stations of a statement are the joined part of its plan.** -/
theorem map_stations_eq (position : Position γ) (p : Plan γ) :
    ((p.stations position).map fun s => (s.relation, s.batched)) =
      p.joinedPart.map fun q => (q.relation, batchedAmong q.relation q.children) := by
  induction p using rec_children generalizing position with
  | h r children ih =>
    rw [stations_eq, joinedPart_eq, List.map_cons, List.map_cons, List.map_flatMap,
      List.map_flatMap]
    refine congrArg (List.cons _) (List.flatMap_congr fun c hc => ?_)
    exact ih c (mem_joinedAmong.mp hc).1 (.joined r)

end Plan

/-! ## Comparisons with keys -/

/-- Tables and conditions that restrict rows to those whose column of a table holds one of some
keys. -/
inductive Restricts (tables : List Fragment) (conditions : List Condition) (table column : String)
    (scope : KeyScope) : Prop where
  /-- the column is compared with all keys at once -/
  | together (h : .keyIn table column scope ∈ conditions)
  /-- the column is compared with the current one of a list of keys, in a page for each of them -/
  | current (style : Correlation) (kind : JoinKind) (parentKey : String) (select : PagedSelect)
      (hkeys : .keys style parentKey scope ∈ tables)
      (hpage : .correlatedPage style kind
        (.keyIsCurrent style table column parentKey scope.startsWithText) select ∈ tables)
      (h : .keyIsCurrent style table column parentKey scope.startsWithText ∈ select.conditions)
  /-- the column is compared with one key in each page of a union -/
  | oneByOne (label : String) (members : List PagedSelect) (hunion : .union label members ∈ tables)
      (h : List.Forall₂ (fun select key => .keyIs table column key ∈ select.conditions) members
        scope.keys)

theorem Restricts.mono {tables tables' : List Fragment} {conditions conditions' : List Condition}
    {table column : String} {scope : KeyScope}
    (h : Restricts tables conditions table column scope) (htables : tables ⊆ tables')
    (hconditions : conditions ⊆ conditions') :
    Restricts tables' conditions' table column scope := by
  cases h with
  | together h => exact .together (hconditions h)
  | current style kind parentKey select hkeys hpage h =>
    exact .current style kind parentKey select (htables hkeys) (htables hpage) h
  | oneByOne label members hunion h => exact .oneByOne label members (htables hunion) h

namespace Planner

open Trace

variable {planner : Planner} {context : γ} {r : Relation γ} {keys : BatchKeys γ} {scope : KeyScope}

/-- A page for each of a list of keys. -/
theorem keyed_restricts (style : Correlation) (kind : JoinKind) (table label : String)
    (extraJoin : Option ExtraJoin) (paging : Paging) (filters conditions : List Condition) :
    Restricts (Layout.keyed style kind keys scope table label extraJoin paging filters) conditions
      label keys.thisKey scope :=
  .current style kind keys.parentKey _ List.mem_cons_self
    (List.mem_cons_of_mem _ List.mem_cons_self) List.mem_cons_self

/-- A union of one page for each key. -/
theorem union_restricts (table label : String) (extraJoin : Option ExtraJoin) (paging : Paging)
    (filters conditions : List Condition) :
    Restricts (Layout.union keys scope table label extraJoin paging filters) conditions
      label keys.thisKey scope := by
  refine .oneByOne label _ List.mem_cons_self ?_
  rw [List.forall₂_map_left_iff, List.forall₂_same]
  exact fun key _ => List.mem_append_right _ List.mem_cons_self

/-- Whatever the layout, pages for keys are restricted to them. -/
theorem layout_restricts {a : Attachment γ} {layout : Layout} {style : PagingStyle}
    (hattach : r.Attaches planner.dialect context (.batch scope) a)
    (hkeys : r.batchKeys? = some keys) (hlayout : style.layout? r a = some layout)
    (paging : Paging) (filters conditions : List Condition) :
    Restricts (layout paging filters) conditions r.facingAlias keys.thisKey scope := by
  rw [Relation.batchKeys?] at hkeys
  rw [Relation.facingAlias]
  cases hattach with
  | keys hj hfound =>
    rw [hj] at hkeys ⊢
    cases hfound.symm.trans hkeys
    cases style with
    | unsupported => cases hlayout
    | correlated style =>
      cases hlayout
      exact keyed_restricts style .inner r.table r.label none paging filters conditions
    | union =>
      cases hlayout
      exact union_restricts r.table r.label none paging filters conditions
  | @junctionKeys j found scope toChild hj hfound =>
    rw [hj] at hkeys ⊢
    cases hfound.symm.trans hkeys
    -- the join of the relation stands behind the page of its junction
    cases style with
    | unsupported => cases hlayout
    | correlated style =>
      cases hlayout
      exact (keyed_restricts style .left j.table j.label (r.extraJoin toChild) paging filters
        conditions).mono (List.subset_append_left _ _) (List.Subset.refl _)
    | union =>
      cases hlayout
      exact (union_restricts j.table j.label (r.extraJoin toChild) paging filters conditions).mono
        (List.subset_append_left _ _) (List.Subset.refl _)

/-- **The source of a batched relation is restricted to the keys**, by the table that faces the
parent. -/
theorem source_restricts {origin : Source} (hkeys : r.batchKeys? = some keys)
    (h : (planner.source context (.batch scope) r).outcome = .ok origin) :
    Restricts origin.tables origin.conditions r.facingAlias keys.thisKey scope := by
  obtain ⟨a, hattach, hwrites⟩ := exists_of_source h
  cases hwrites with
  | pages _ hlayout => exact layout_restricts hattach hkeys hlayout _ _ _
  | plain =>
    refine .together ?_
    rw [Relation.batchKeys?] at hkeys
    rw [Relation.facingAlias]
    cases hattach with
    | keys hj hfound | junctionKeys hj hfound =>
      rw [hj] at hkeys ⊢
      cases hfound.symm.trans hkeys
      exact List.mem_cons_self

/-- **The statement of a batched relation is restricted to the keys.** -/
theorem statementAt_restricts {p : Plan γ} {statement : Statement}
    (hkeys : p.relation.batchKeys? = some keys)
    (h : (planner.statementAt context (.batch scope) p).outcome = .ok statement) :
    Restricts statement.tables statement.conditions p.relation.facingAlias keys.thisKey scope := by
  obtain ⟨gathered, hgathered, h⟩ := outcome_bind_eq_ok.mp h
  rw [assemble_eq_gather, Plan.stations_eq] at hgathered
  obtain ⟨own, hown, hgathered⟩ := outcome_bind_eq_ok.mp hgathered
  obtain ⟨others, -, hgathered⟩ := outcome_bind_eq_ok.mp hgathered
  cases hgathered
  split at h
  · cases h
  · cases h
    -- the relation that the statement starts from is the one that is compared with the keys
    obtain ⟨selections, -, hown⟩ := outcome_bind_eq_ok.mp hown
    obtain ⟨origin, horigin, hown⟩ := outcome_bind_eq_ok.mp hown
    obtain ⟨order?, -, hown⟩ := outcome_bind_eq_ok.mp hown
    cases hown
    exact (source_restricts hkeys horigin).mono (List.subset_append_left _ _)
      (List.subset_append_left _ _)

end Planner

/-! ## Announced columns -/

/-- A statement returns a column of a table under a name. -/
def Statement.Returns (s : Statement) (table column name : String) : Prop :=
  ∃ x ∈ s.selections, x.table = table ∧ x.source = .column column ∧ x.resultName = name

/-- What a statement returns is listed in its text. -/
theorem Statement.Returns.listed {s : Statement} {table column name : String}
    (h : s.Returns table column name) (d : Dialect) :
    Listed "SELECT\n  " ",\n  " (d.column table column ++ " AS " ++ d.quote name) (s.toSql d) := by
  obtain ⟨x, hx, rfl, hsource, rfl⟩ := h
  have hlisted := s.listed_of_mem_selections d hx
  have htext : x.toSql d = x.expression d ++ " AS " ++ d.quote x.resultName := rfl
  rwa [htext, Selection.expression, hsource] at hlisted

namespace Planner

open Trace

section Valid

variable {γ : Type} {planner : Planner} {context : γ} {root p : Plan γ}
variable (hvalid : root.validate = .ok ()) (hp : p ∈ root.nodes)
include hvalid hp

end Valid

/-- Authors with the other residents at their address, and with a page of their books, each with its
reviews. -/
def authors : Plan Unit where
  relation := {
    name := "authors", table := "authors", label := "a", columns := [⟨"name", "name"⟩] }
  children := [
    { relation := {
        name := "address", table := "addresses", label := "ad", columns := [⟨"city", "city"⟩]
        join := some ⟨fun parent child _ _ => .ok s!"{parent}.address = {child}.id"⟩ }
      children := [
        { relation := {
            name := "residents", table := "persons", label := "r", uniqueKey := ["id"]
            batch := some { thisKey := "address", parentKey := "id" } } }] },
    { relation := {
        name := "books", table := "books", label := "b", columns := [⟨"title", "title"⟩]
        paginate := true
        junction := some {
          table := "writers", label := "w", orderBy := some [⟨"position", .asc⟩]
          batch := some {
            thisKey := "author", parentKey := "id"
            join := some ⟨fun parent child _ _ => .ok s!"{parent}.book = {child}.id"⟩ } } }
      children := [
        { relation := {
            name := "reviews", table := "reviews", label := "v", uniqueKey := ["id"]
            batch := some { thisKey := "book", parentKey := "id" } } }] }]

end Planner

end RelationSql
