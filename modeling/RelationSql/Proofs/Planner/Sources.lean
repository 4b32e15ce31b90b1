import RelationSql.Proofs.Planner.Composition
import RelationSql.Proofs.Planner.Stations
import RelationSql.Proofs.Sql.Parts

/-!
# Where rows come from

The source of a relation looks different in every position, with and without a junction, in one
piece or in pages, and a page is fetched in another way by each kind of dialect. What all of them
have in common is said here once: which aliases the tables go under, where the conditions come
from, and what is known of the subselects.

* `Relation.Links`, `Relation.Filters` — the conditions by which rows belong to their parent, and
  those that the filters give;
* `sourced_of_source` — what the source of a relation is made of;
* `exists_part` — what a station contributes is a part of the statement.
-/

namespace RelationSql

variable {γ : Type}

/-! ## Parts of fragments -/

namespace Fragment

/-- The subselects of a fragment. -/
def selects : Fragment → List PagedSelect
  | page _ select | correlatedPage _ _ _ select => [select]
  | union _ members => members
  | base _ _ | leftJoin _ _ _ | childJoin _ _ _ _ | keys _ _ _ => []

/-- The subselects of a fragment stand in its text. -/
theorem exists_text_of_mem_selects (d : Dialect) {fragment : Fragment} {select : PagedSelect}
    (h : select ∈ fragment.selects) :
    ∃ text, select.HasText d text ∧ Within text (fragment.toSql d) := by
  cases fragment with
  | base | leftJoin | childJoin | keys => cases h
  | page style found =>
    obtain rfl := List.mem_singleton.mp h
    refine ⟨_, .body style, "FROM (\n", "\n) " ++ d.quote select.label, ?_⟩
    simp only [← String.append_assoc]
    rfl
  | correlatedPage style kind condition found =>
    obtain rfl := List.mem_singleton.mp h
    refine ⟨_, .body style.window, style.joinWords kind ++ " (\n",
      "\n) " ++ d.quote select.label ++ style.onClause (condition.toSql d), ?_⟩
    simp only [← String.append_assoc]
    rfl
  | union label members =>
    refine ⟨_, .member, (Within.intercalate "\nUNION\n" (List.mem_map_of_mem h)).trans
      ⟨"FROM (\n", "\n) AS " ++ d.quote label, ?_⟩⟩
    simp only [← String.append_assoc]
    rfl

/-- The alias of the relation or junction that a fragment brings in; the list of parent keys brings
in neither. -/
def owner? : Fragment → Option String
  | keys _ _ _ => none
  | fragment => some fragment.label

end Fragment

/-- The subselects of a statement stand in its text. -/
theorem Statement.exists_text_of_mem_selects (d : Dialect) {s : Statement} {select : PagedSelect}
    (h : select ∈ s.tables.flatMap Fragment.selects) :
    ∃ text, select.HasText d text ∧ Within text (s.toSql d) := by
  obtain ⟨fragment, hfragment, hselect⟩ := List.mem_flatMap.mp h
  obtain ⟨text, htext, hwithin⟩ := Fragment.exists_text_of_mem_selects d hselect
  exact ⟨text, htext, hwithin.trans (s.within_of_mem_tables d hfragment)⟩

/-- Whether the statement starts from the relation, for no keys. -/
def Position.isRoot : Position γ → Bool
  | .root => true
  | .joined _ | .batch _ => false

namespace Relation

/-- The aliases that the tables of a relation go under. The junction stands before the relation, but
at the root of a statement it is left out. -/
def tableAliases (r : Relation γ) : Position γ → List String
  | .root => [r.label]
  | .joined _ | .batch _ => r.junction.toList.map Junction.label ++ [r.label]

/-- The alias of the table that pages are fetched of. -/
def pagedAlias (r : Relation γ) : Position γ → String
  | .root => r.label
  | .joined _ | .batch _ => r.facingAlias

/-- The comparison of all keys of a batch at once. -/
def keyConditions (r : Relation γ) : Position γ → List Condition
  | .batch scope => r.batchKeys?.toList.map fun keys => .keyIn r.facingAlias keys.thisKey scope
  | .root | .joined _ => []

/-- A relation without junction faces its parent itself. -/
theorem label_eq_facingAlias (r : Relation γ) (hj : r.junction = none) :
    r.label = r.facingAlias := by
  rw [facingAlias, hj]

theorem junction_eq_facingAlias (r : Relation γ) {j : Junction γ} (hj : r.junction = some j) :
    j.label = r.facingAlias := by
  rw [facingAlias, hj]

/-- A condition by which the rows of a page belong to their parent. -/
inductive Links (d : Dialect) (context : γ) (r : Relation γ) : Position γ → Condition → Prop where
  /-- the join of the relation -/
  | direct {parent : Relation γ} {hook : JoinHook γ} {sql : String} (hjunction : r.junction = none)
      (hhook : r.join = some hook)
      (hanswer : hook.run (d.quote parent.label) (d.quote r.label) r.args context = .ok sql) :
      Links d context r (.joined parent) (.given sql)
  /-- the first one of the joins of its junction -/
  | junction {parent : Relation γ} {j : Junction γ} {hooks : JoinHook γ × JoinHook γ} {sql : String}
      (hjunction : r.junction = some j) (hhooks : j.joins = some hooks)
      (hanswer : hooks.1.run (d.quote parent.label) (d.quote j.label) r.args context = .ok sql) :
      Links d context r (.joined parent) (.given sql)
  /-- one of the keys of a batch -/
  | key {keys : BatchKeys γ} {scope : KeyScope} (hkeys : r.batchKeys? = some keys) (key : Scalar) :
      Links d context r (.batch scope) (.keyIs r.facingAlias keys.thisKey key)
  /-- the current one of the keys of a batch -/
  | current {keys : BatchKeys γ} {scope : KeyScope} (hkeys : r.batchKeys? = some keys)
      (style : Correlation) :
      Links d context r (.batch scope) (.keyIsCurrent style r.facingAlias keys.thisKey
        keys.parentKey scope.startsWithText)

/-- A condition that a filter gives when it is asked about the table with an alias. -/
inductive Filters (d : Dialect) (context : γ) (r : Relation γ) : String → Condition → Prop where
  /-- the filter of the relation -/
  | own {hook : FilterHook γ} {sql : String} (hhook : r.filter = some hook)
      (hanswer : hook.condition (d.quote r.label) r.args context = .ok (some sql)) :
      Filters d context r r.label (.given sql)
  /-- the filter of its junction -/
  | junction {j : Junction γ} {hook : FilterHook γ} {sql : String} (hjunction : r.junction = some j)
      (hhook : j.filter = some hook)
      (hanswer : hook.condition (d.quote j.label) r.args context = .ok (some sql)) :
      Filters d context r j.label (.given sql)

end Relation

/-! ## Sources -/

/-- The source of a relation in one piece. -/
structure PlainSource (planner : Planner) (context : γ) (position : Position γ) (r : Relation γ)
    (filters : List Condition) (origin : Source) : Prop where
  /-- what the filters gave -/
  filters_eq : (planner.conditions context r).outcome = .ok filters
  /-- the tables are those of the relation -/
  owners_eq : origin.tables.filterMap Fragment.owner? = r.tableAliases position
  /-- there are no subselects -/
  selects_eq : origin.tables.flatMap Fragment.selects = []
  /-- the conditions are those of the batch and of the filters -/
  conditions_eq : origin.conditions = r.keyConditions position ++ filters

/-- A subselect for a page of a relation. -/
structure PageSelect (planner : Planner) (context : γ) (position : Position γ) (r : Relation γ)
    (paging : Paging) (filters : List Condition) (select : PagedSelect) : Prop where
  /-- it fetches rows of the relation or of its junction -/
  label_eq : select.label = r.pagedAlias position
  /-- in the order of the page -/
  order_eq : select.order = paging.order
  /-- a page of a junction may join the relation -/
  extraJoin_eq : position.isRoot = false → r.junction.isSome = true →
    ∃ toChild, select.extraJoin = r.extraJoin toChild
  /-- the rows belong to their parent, pass the filters and come after the cursor -/
  of_mem_conditions : ∀ c ∈ select.conditions,
    r.Links planner.dialect context position c ∨ c ∈ filters ∨ c ∈ paging.seekConditions

/-- Fragments with the pages of a relation. -/
structure Pages (planner : Planner) (context : γ) (position : Position γ) (r : Relation γ)
    (paging : Paging) (filters : List Condition) (tables : List Fragment) : Prop where
  /-- the page that the arguments ask for -/
  paging_eq : r.paging planner.settings = .ok paging
  /-- what the filters gave -/
  filters_eq : (planner.conditions context r).outcome = .ok filters
  /-- all subselects are pages of the relation -/
  pageSelect : ∀ select ∈ tables.flatMap Fragment.selects,
    PageSelect planner context position r paging filters select
  /-- there is one, unless there are no keys to fetch a page for -/
  selects_ne_nil : (∀ scope, position = .batch scope → scope.isEmpty = false) →
    tables.flatMap Fragment.selects ≠ []

/-- The tables of a relation in pages. -/
structure PagedTables (planner : Planner) (context : γ) (position : Position γ) (r : Relation γ)
    (paging : Paging) (filters : List Condition) (tables : List Fragment) : Prop extends
    Pages planner context position r paging filters tables where
  /-- the tables are those of the relation -/
  owners_eq : tables.filterMap Fragment.owner? = r.tableAliases position

/-- The source of a relation. -/
inductive Sourced (planner : Planner) (context : γ) (position : Position γ) (r : Relation γ)
    (origin : Source) : Prop where
  /-- in one piece -/
  | plain {filters : List Condition} (hpaged : r.isPaged = false)
      (h : PlainSource planner context position r filters origin)
  /-- in pages, with all conditions inside -/
  | paged {paging : Paging} {filters : List Condition} (hpaged : r.isPaged = true)
      (h : PagedTables planner context position r paging filters origin.tables)
      (hconditions : origin.conditions = [])

/-- Fragments without subselects change nothing about pages. -/
theorem Pages.append {planner : Planner} {context : γ} {position : Position γ} {r : Relation γ}
    {paging : Paging} {filters : List Condition} {tables more : List Fragment}
    (h : Pages planner context position r paging filters tables)
    (hmore : more.flatMap Fragment.selects = []) :
    Pages planner context position r paging filters (tables ++ more) := by
  have hselects : (tables ++ more).flatMap Fragment.selects = tables.flatMap Fragment.selects := by
    rw [List.flatMap_append, hmore, List.append_nil]
  exact ⟨h.paging_eq, h.filters_eq, hselects ▸ h.pageSelect, hselects ▸ h.selects_ne_nil⟩

/-- A statement has another one as a part. -/
def Statement.HasPart (statement own : Statement) : Prop :=
  ∃ before after : Statement, statement = before ++ (own ++ after)

namespace Planner

open Trace

variable {planner : Planner} {context : γ} {r : Relation γ}

/-- What a filter that may be absent gives. -/
theorem of_mem_filterConditions {slot : HookSlot} {label : String} {hook? : Option (FilterHook γ)}
    {conditions : List Condition} {c : Condition}
    (h : (planner.filterConditions context r slot label hook?).outcome = .ok conditions)
    (hc : c ∈ conditions) : ∃ hook sql, hook? = some hook ∧
      hook.condition (planner.dialect.quote label) r.args context = .ok (some sql) ∧
      c = .given sql := by
  cases hook? with
  | none =>
    cases h
    cases hc
  | some hook =>
    obtain ⟨condition?, hcondition, h⟩ := outcome_bind_eq_ok.mp h
    cases h
    obtain ⟨sql, hsql, rfl⟩ := List.mem_map.mp hc
    obtain rfl := Option.mem_toList.mp hsql
    exact ⟨hook, sql, rfl, mapError_eq_ok hcondition, rfl⟩

/-- **The conditions of the filters** come from the filter of the relation or of its junction, each
asked about its own table. -/
theorem filters_of_mem_conditions {filters : List Condition} {c : Condition}
    (h : (planner.conditions context r).outcome = .ok filters) (hc : c ∈ filters) :
    ∃ label, r.Filters planner.dialect context label c := by
  obtain ⟨junction, hjunction, h⟩ := outcome_bind_eq_ok.mp h
  obtain ⟨own, hown, h⟩ := outcome_bind_eq_ok.mp h
  cases h
  rcases List.mem_append.mp hc with hc | hc
  · rw [junctionConditions] at hjunction
    split at hjunction
    · cases hjunction
      cases hc
    · next j hj =>
      obtain ⟨hook, sql, hhook, hanswer, rfl⟩ := of_mem_filterConditions hjunction hc
      exact ⟨j.label, .junction hj hhook hanswer⟩
  · obtain ⟨hook, sql, hhook, hanswer, rfl⟩ := of_mem_filterConditions hown hc
    exact ⟨r.label, .own hhook hanswer⟩

/-! ## Pages -/

section Layouts

variable {position : Position γ} {paging : Paging} {filters : List Condition}
variable (hpaging : r.paging planner.settings = .ok paging)
variable (hfilters : (planner.conditions context r).outcome = .ok filters)
include hpaging hfilters

/-- One subselect. -/
theorem pages_single {tables : List Fragment} {select : PagedSelect}
    (hselects : tables.flatMap Fragment.selects = [select])
    (h : PageSelect planner context position r paging filters select) :
    Pages planner context position r paging filters tables := by
  refine ⟨hpaging, hfilters, ?_, fun _ => ?_⟩
  · rw [hselects, List.forall_mem_singleton]
    exact h
  · rw [hselects]
    exact List.cons_ne_nil _ _

section Linked

variable {table label : String} {extraJoin : Option ExtraJoin} (hlabel : label = r.facingAlias)
variable (hextra : r.junction.isSome = true → ∃ toChild, extraJoin = r.extraJoin toChild)
include hlabel hextra

/-- A page for each row of the parent. -/
theorem pages_linked {parent : Relation γ} {join : String}
    (hlink : r.Links planner.dialect context (.joined parent) (.given join)) (style : Correlation) :
    Pages planner context (.joined parent) r paging filters
      [.correlatedPage style .left (.given join) (.ofPaging table label
        (.given join :: (filters ++ paging.seekConditions)) paging extraJoin)] := by
  refine pages_single hpaging hfilters rfl ⟨hlabel, rfl, fun _ => hextra, fun c hc => ?_⟩
  rcases List.mem_cons.mp hc with rfl | hc
  · exact .inl hlink
  · exact .inr (List.mem_append.mp hc)

variable {keys : BatchKeys γ} {scope : KeyScope} (hkeys : r.batchKeys? = some keys)
include hkeys

/-- A page for each of a list of keys. -/
theorem pages_keyed (style : Correlation) (kind : JoinKind) :
    Pages planner context (.batch scope) r paging filters (Layout.keyed style kind keys scope table
      label extraJoin paging (filters ++ paging.seekConditions)) := by
  refine pages_single hpaging hfilters rfl ⟨hlabel, rfl, fun _ => hextra, fun c hc => ?_⟩
  rcases List.mem_cons.mp hc with rfl | hc
  · rw [hlabel]
    exact .inl (.current hkeys style)
  · exact .inr (List.mem_append.mp hc)

/-- A union of one page for each key. -/
theorem pages_union : Pages planner context (.batch scope) r paging filters
    (Layout.union keys scope table label extraJoin paging (filters ++ paging.seekConditions)) := by
  refine ⟨hpaging, hfilters, ?_, fun hscope => ?_⟩
  · intro select hselect
    simp only [Layout.union, List.flatMap_cons, List.flatMap_nil, List.append_nil,
      Fragment.selects, List.mem_map] at hselect
    obtain ⟨key, -, rfl⟩ := hselect
    refine ⟨hlabel, rfl, fun _ => hextra, fun c hc => ?_⟩
    rcases List.mem_append.mp hc with hc | hc
    · exact .inr (List.mem_append.mp hc)
    · rw [List.mem_singleton.mp hc, hlabel]
      exact .inl (.key hkeys key)
  · have hkeys := hscope scope rfl
    rw [KeyScope.isEmpty] at hkeys
    simpa [Layout.union, Fragment.selects] using hkeys

end Linked

/-- **All layouts are pages of the relation.** -/
theorem pages_of_layout {a : Attachment γ} {layout : Layout}
    (hattach : r.Attaches planner.dialect context position a)
    (hlayout : planner.dialect.paging.layout? r a = some layout) :
    Pages planner context position r paging filters
      (layout paging (filters ++ paging.seekConditions)) := by
  -- a page of the relation itself joins nothing inside
  have hnone (hj : r.junction = none) (hsome : r.junction.isSome = true) :
      ∃ toChild, none = r.extraJoin toChild := by
    rw [hj] at hsome
    cases hsome
  have hextra (toChild : String) (_ : r.junction.isSome = true) :
      ∃ join, r.extraJoin toChild = r.extraJoin join := ⟨toChild, rfl⟩
  generalize planner.dialect.paging = style at hlayout
  cases hattach with
  | root =>
    have hselect : PageSelect planner context .root r paging filters
        (.ofPaging r.table r.label (filters ++ paging.seekConditions) paging) :=
      ⟨rfl, rfl, fun hroot => (by cases hroot), fun c hc => .inr (List.mem_append.mp hc)⟩
    cases style with
    | unsupported => cases hlayout
    | correlated style | union =>
      cases hlayout
      exact pages_single hpaging hfilters rfl hselect
  | parent hj hhook hjoin =>
    cases style with
    | unsupported | union => cases hlayout
    | correlated style =>
      cases hlayout
      exact pages_linked hpaging hfilters (r.label_eq_facingAlias hj) (hnone hj)
        (.direct hj hhook hjoin) style
  | junction hj hhooks htoJunction =>
    cases style with
    | unsupported | union => cases hlayout
    | correlated style =>
      cases hlayout
      exact (pages_linked hpaging hfilters (r.junction_eq_facingAlias hj) (hextra _)
        (.junction hj hhooks htoJunction) style).append rfl
  | @keys keys scope hj hkeys =>
    have hbatch : r.batchKeys? = some keys := by rw [Relation.batchKeys?, hj, hkeys]
    cases style with
    | unsupported => cases hlayout
    | correlated style =>
      cases hlayout
      exact pages_keyed hpaging hfilters (r.label_eq_facingAlias hj) (hnone hj) hbatch style .inner
    | union =>
      cases hlayout
      exact pages_union hpaging hfilters (r.label_eq_facingAlias hj) (hnone hj) hbatch
  | @junctionKeys j keys scope toChild hj hkeys =>
    have hbatch : r.batchKeys? = some keys := by rw [Relation.batchKeys?, hj]; exact hkeys
    have hlabel := r.junction_eq_facingAlias hj
    cases style with
    | unsupported => cases hlayout
    | correlated style =>
      cases hlayout
      exact (pages_keyed hpaging hfilters hlabel (hextra _) hbatch style .left).append rfl
    | union =>
      cases hlayout
      exact (pages_union hpaging hfilters hlabel (hextra _) hbatch).append rfl

end Layouts

/-- Whatever the layout, the tables of pages are those of the relation. -/
theorem owners_of_layout {position : Position γ} {a : Attachment γ} {layout : Layout}
    (hattach : r.Attaches planner.dialect context position a)
    (hlayout : planner.dialect.paging.layout? r a = some layout) (paging : Paging)
    (conditions : List Condition) :
    (layout paging conditions).filterMap Fragment.owner? = r.tableAliases position := by
  generalize planner.dialect.paging = style at hlayout
  cases hattach with
  | root =>
    cases style with
    | unsupported => cases hlayout
    | correlated style | union =>
      cases hlayout
      rfl
  | parent hj | junction hj =>
    rw [Relation.tableAliases, hj]
    cases style with
    | unsupported | union => cases hlayout
    | correlated style =>
      cases hlayout
      rfl
  | keys hj | junctionKeys hj =>
    rw [Relation.tableAliases, hj]
    cases style with
    | unsupported => cases hlayout
    | correlated style | union =>
      cases hlayout
      rfl

/-! ## All sources -/

/-- The source of a relation that is attached, in one piece. -/
theorem plainSource_of_attaches {position : Position γ} {a : Attachment γ}
    {filters : List Condition} (hattach : r.Attaches planner.dialect context position a)
    (hfilters : (planner.conditions context r).outcome = .ok filters) :
    PlainSource planner context position r filters (r.plainSource a filters) := by
  cases hattach with
  | root => exact ⟨hfilters, rfl, rfl, rfl⟩
  | parent hj | junction hj =>
    refine ⟨hfilters, ?_, rfl, rfl⟩
    rw [Relation.tableAliases, hj]
    rfl
  | keys hj hkeys | junctionKeys hj hkeys =>
    refine ⟨hfilters, ?_, rfl, ?_⟩
    · rw [Relation.tableAliases, hj]
      rfl
    · simp [Relation.keyConditions, Relation.batchKeys?, Relation.facingAlias, hj, hkeys,
        Relation.plainSource]

/-- **What the source of a relation is made of**, in any position. -/
theorem sourced_of_source {position : Position γ} {origin : Source}
    (h : (planner.source context position r).outcome = .ok origin) :
    Sourced planner context position r origin := by
  obtain ⟨a, hattach, hwrites⟩ := exists_of_source h
  cases hwrites with
  | plain hpaged hfilters => exact .plain hpaged (plainSource_of_attaches hattach hfilters)
  | @pages layout paging filters hpaged hlayout hpaging hfilters =>
    have hpages := pages_of_layout hpaging hfilters hattach hlayout
    exact .paged hpaged ⟨hpages, owners_of_layout hattach hlayout _ _⟩ rfl

/-- The tables of a source are those of its relation. -/
theorem owners_of_source {position : Position γ} {origin : Source}
    (h : (planner.source context position r).outcome = .ok origin) :
    origin.tables.filterMap Fragment.owner? = r.tableAliases position := by
  cases sourced_of_source h with
  | plain _ hplain => exact hplain.owners_eq
  | paged _ hpages => exact hpages.owners_eq

/-! ## Contributions -/

/-- What a relation contributes. -/
theorem contribution_eq_ok {position : Position γ} {batched : List (Deferral γ)} {own : Statement}
    (h : (planner.contribution context position r batched).outcome = .ok own) :
    ∃ selections origin order?, r.selections position = .ok selections ∧
      (planner.source context position r).outcome = .ok origin ∧ r.outerOrder = .ok order? ∧
      own = {
        selections := selections ++ batched.map fun d => .ofColumn r.label d.keys.parentKey
        tables := origin.tables
        conditions := origin.conditions
        orders := order?.toList } := by
  obtain ⟨selections, hselections, h⟩ := outcome_bind_eq_ok.mp h
  obtain ⟨origin, horigin, h⟩ := outcome_bind_eq_ok.mp h
  obtain ⟨order?, horder, h⟩ := outcome_bind_eq_ok.mp h
  cases h
  exact ⟨selections, origin, order?, hselections, horigin, horder, rfl⟩

/-- What a station contributes is a part of what is gathered. -/
theorem exists_part_of_gather {ss : List (Station γ)} {s : Station γ} (hs : s ∈ ss)
    {statement : Statement} (h : (planner.gather context ss).outcome = .ok statement) :
    ∃ own, (planner.contribution context s.position s.relation s.batched).outcome = .ok own ∧
      statement.HasPart own := by
  induction ss generalizing statement with
  | nil => cases hs
  | cons first rest ih =>
    obtain ⟨own, hown, h⟩ := outcome_bind_eq_ok.mp h
    obtain ⟨others, hothers, h⟩ := outcome_bind_eq_ok.mp h
    cases h
    rcases List.mem_cons.mp hs with rfl | hs
    · exact ⟨own, hown, {}, others, rfl⟩
    · obtain ⟨part, hpart, before, after, rfl⟩ := ih hs hothers
      refine ⟨part, hpart, own ++ before, after, ?_⟩
      rw [Statement.append_assoc]

/-- **What a station contributes is a part of the statement.** -/
theorem exists_part {position : Position γ} {p : Plan γ} {statement : Statement}
    (h : (planner.statementAt context position p).outcome = .ok statement) {s : Station γ}
    (hs : s ∈ p.stations position) :
    ∃ own, (planner.contribution context s.position s.relation s.batched).outcome = .ok own ∧
      statement.HasPart own :=
  exists_part_of_gather hs (gather_of_statementAt planner context h)

end Planner

end RelationSql
