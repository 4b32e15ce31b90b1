import RelationSql.Proofs.Planner.OrderClauses

/-!
# The aliases of a root

A statement starts from the table of its root and leaves the junction of the root out, since there
is no parent to come from. What the root selects, and how it is filtered and ordered, is put
together as everywhere else, though, and may be about the junction: its filter is asked, an order
that only the junction has is followed, and the number of all rows is looked for in the table that
faces a parent. Then the statement names an alias that it does not bring in.

* `Planner.not_introduces_junction` — the alias of the junction of a root is not brought in;
* `Relation.refersToJunction` — when a root is about its junction;
* `root_aliases_introduced_iff` — so the root refers to what is brought in exactly if it is not.
-/

namespace RelationSql

variable {γ : Type}

/-! ## References to the junction -/

namespace Relation

/-- Whether a relation is about its junction where it stands at the root: the junction is filtered,
gives the order in place of the relation, or faces a parent when the number of all rows is asked
for. -/
def refersToJunction (r : Relation γ) : Bool :=
  r.junction.any fun j => j.filter.isSome || r.pagingMode? = some .offset ||
    (r.orderBy <|> r.sortKey).isNone && (j.orderBy <|> j.sortKey).isSome

variable {r : Relation γ} {j : Junction γ}

theorem refersToJunction_iff (hj : r.junction = some j) : r.refersToJunction = true ↔
    j.filter.isSome = true ∨ r.pagingMode? = some .offset ∨
      ∃ columns, r.declaredOrder? = some ⟨j.label, columns⟩ ∧ (r.orderBy <|> r.sortKey) = none := by
  rw [refersToJunction, hj, Option.any_some, Bool.or_eq_true, Bool.or_eq_true, Bool.and_eq_true,
    decide_eq_true_iff, or_assoc, Option.isNone_iff_eq_none]
  refine or_congr_right (or_congr_right ⟨?_, ?_⟩)
  · rintro ⟨hnone, hsome⟩
    obtain ⟨columns, hcolumns⟩ := Option.isSome_iff_exists.mp hsome
    refine ⟨columns, ?_, hnone⟩
    rw [declaredOrder?, hnone, hj]
    exact congrArg (Option.map (Order.mk j.label)) hcolumns
  · rintro ⟨columns, hdeclared, hnone⟩
    refine ⟨hnone, Option.isSome_iff_exists.mpr ⟨columns, ?_⟩⟩
    rw [declaredOrder?, hnone, hj] at hdeclared
    simpa using hdeclared

section Plain

variable (hplain : r.refersToJunction = false)
include hplain

theorem facingAlias_of_offset (hmode : r.pagingMode? = some .offset) :
    r.facingAlias = r.label := by
  rw [facingAlias]
  cases hj : r.junction with
  | none => rfl
  | some j =>
    rw [(refersToJunction_iff hj).mpr (.inr (.inl hmode))] at hplain
    cases hplain

theorem table_of_declaredOrder? {order : Order} (h : r.declaredOrder? = some order) :
    order.table = r.label := by
  cases hown : r.orderBy <|> r.sortKey with
  | some columns =>
    rw [declaredOrder?, hown] at h
    cases h
    rfl
  | none =>
    have hjunction := h
    rw [declaredOrder?, hown] at hjunction
    obtain ⟨j, hj, hjunction⟩ := Option.bind_eq_some_iff.mp hjunction
    obtain ⟨columns, -, rfl⟩ := Option.map_eq_some_iff.mp hjunction
    rw [(refersToJunction_iff hj).mpr (.inr (.inr ⟨columns, h, hown⟩))] at hplain
    cases hplain

theorem table_of_pagingOrder {isRoot : Bool} (hrules : r.Rules isRoot) {order : Order}
    (h : r.pagingOrder = .ok order) : order.table = r.label := by
  obtain ⟨declared, backward, hdeclared, rfl⟩ := pagingOrder_eq_declared hrules h
  rw [table_directed]
  exact table_of_declaredOrder? hplain hdeclared

theorem table_of_outerOrder {isRoot : Bool} (hrules : r.Rules isRoot) {order : Order}
    (h : r.outerOrder = .ok (some order)) : order.table = r.label := by
  obtain ⟨backward, hdirected⟩ := outerOrder_eq_declared hrules h
  obtain ⟨declared, hdeclared, rfl⟩ := Option.map_eq_some_iff.mp hdirected.symm
  rw [table_directed]
  exact table_of_declaredOrder? hplain hdeclared

/-- What a page is cut by is selected from the relation itself. -/
theorem table_of_mem_pageEntries {isRoot : Bool} (hrules : r.Rules isRoot) {x : Selection}
    (hx : x ∈ r.pageEntries) : x.table = r.label := by
  rw [pageEntries] at hx
  split at hx
  · cases hx
  · next hmode =>
    rw [List.mem_singleton.mp hx]
    exact facingAlias_of_offset hplain hmode
  · next hmode =>
    obtain ⟨order, horder, hx⟩ := List.mem_flatMap.mp hx
    obtain ⟨key, -, rfl⟩ := List.mem_map.mp hx
    rw [Option.mem_toList, ← declaredOrder?_of_keyset hrules hmode] at horder
    exact table_of_declaredOrder? hplain horder

/-- Filters are asked about the relation itself. -/
theorem tables_of_mem_filterInquiries {d : Dialect} {context : γ} {q : Inquiry}
    (hq : q ∈ r.filterInquiries d context) : q.call.tables = [d.quote r.label] := by
  rcases List.mem_append.mp hq with hq | hq
  · rw [junctionInquiries] at hq
    split at hq
    · cases hq
    · next j hj =>
      obtain ⟨hook, hhook, rfl⟩ := List.mem_map.mp hq
      have hfilter : j.filter.isSome = true := by rw [Option.mem_toList.mp hhook]; rfl
      rw [(refersToJunction_iff hj).mpr (.inl hfilter)] at hplain
      cases hplain
  · obtain ⟨hook, -, rfl⟩ := List.mem_map.mp hq
    rfl

end Plain

end Relation

/-! ## The root of a statement -/

/-- The root of a statement refers to aliases that the statement brings in. -/
structure Statement.RootRefersWithin (d : Dialect) (statement own : Statement)
    (calls : List HookCall) : Prop where
  /-- it selects from such tables -/
  selections : ∀ x ∈ own.selections, statement.Introduces d x.table
  /-- the filters are asked about such tables -/
  asked : ∀ call ∈ calls, ∃ label, call.tables = [d.quote label] ∧ statement.Introduces d label
  /-- the conditions, in a page or not, are written with their aliases -/
  conditions : ∀ c ∈ own.conditions ++
      (own.tables.flatMap Fragment.selects).flatMap PagedSelect.conditions,
    ∀ label ∈ c.table?, statement.Introduces d label
  /-- it is ordered by columns of such tables, at the end -/
  orders : ∀ order ∈ own.orders, statement.Introduces d order.table
  /-- and in a page -/
  pageOrders : ∀ select ∈ own.tables.flatMap Fragment.selects,
    statement.Introduces d select.order.table

namespace Plan

/-- The root of a plan as the first station of its statement. -/
def rootStation (p : Plan γ) : Station γ := ⟨.root, p.relation, batchedAmong p.relation p.children⟩

theorem rootStation_mem (p : Plan γ) : p.rootStation ∈ p.stations .root := by
  rw [stations_eq]
  exact List.mem_cons_self

end Plan

namespace Planner

variable {planner : Planner} {context : γ} {root : Plan γ}

/-- The aliases that a statement brings in are those of the tables of its relations. -/
theorem exists_station_of_introduces {position : Position γ} {p : Plan γ} {statement : Statement}
    (h : (planner.statementAt context position p).outcome = .ok statement) {d : Dialect}
    {label : String} (hlabel : statement.Introduces d label) :
    ∃ s ∈ p.stations position, label ∈ s.relation.tableAliases s.position := by
  obtain ⟨fragment, hfragment, howner, -⟩ := hlabel
  obtain ⟨htables, -⟩ := exists_station_of_gather (gather_of_statementAt planner context h)
  obtain ⟨s, hs, own, hown, hmem⟩ := htables fragment hfragment
  obtain ⟨selections, origin, order?, -, horigin, -, rfl⟩ := contribution_eq_ok hown
  refine ⟨s, hs, ?_⟩
  rw [← owners_of_source horigin]
  exact List.mem_filterMap.mpr ⟨fragment, hmem, howner⟩

theorem tableAliases_subset (r : Relation γ) (position : Position γ) :
    r.tableAliases position ⊆ r.aliases := by
  intro label hlabel
  have hmem (h : label ∈ r.junction.toList.map Junction.label ++ [r.label]) :
      label ∈ r.aliases := by
    rcases List.mem_append.mp h with h | h
    · exact List.mem_cons_of_mem _ h
    · rw [List.mem_singleton.mp h]
      exact List.mem_cons_self
  cases position with
  | root =>
    rw [List.mem_singleton.mp hlabel]
    exact List.mem_cons_self
  | joined parent => exact hmem hlabel
  | batch scope => exact hmem hlabel

/-- **The junction of a root is not brought in**, neither by the root nor by another relation. -/
theorem not_introduces_junction (hvalid : root.validate = .ok ()) {j : Junction γ}
    (hj : root.relation.junction = some j) {statement : Statement}
    (h : (planner.statementAt context .root root).outcome = .ok statement) (d : Dialect) :
    ¬statement.Introduces d j.label := by
  intro hlabel
  obtain ⟨s, hs, hmem⟩ := exists_station_of_introduces h hlabel
  have haliases : root.relation.aliases = [root.relation.label, j.label] := by
    rw [Relation.aliases, hj]
    rfl
  have hjunction : j.label ∈ root.rootStation.relation.aliases := by
    change j.label ∈ root.relation.aliases
    simp [haliases]
  obtain rfl := Plan.station_unique hvalid List.mem_cons_self hs root.rootStation_mem
    (tableAliases_subset _ _ hmem) hjunction
  have hnodup : root.relation.aliases.Nodup :=
    (List.nodup_flatMap.mp (Plan.nodup_aliases_stations hvalid List.mem_cons_self .root)).1 _
      root.rootStation_mem
  rw [haliases, List.nodup_cons, List.mem_singleton] at hnodup
  exact hnodup.1 (List.mem_singleton.mp hmem).symm

/-- The hooks of a root are its filters. -/
theorem hookCalls_of_root {own : Statement}
    (h : (planner.contribution context .root root.relation root.rootStation.batched).outcome =
      .ok own) :
    (planner.contribution context .root root.relation root.rootStation.batched).hookCalls =
      (root.relation.filterInquiries planner.dialect context).map Inquiry.call :=
  (planner.contribution_follows context root.rootStation).disciplined.asked_all own h

section Root

variable {statement own : Statement} (hvalid : root.validate = .ok ())
variable (hstatement : (planner.statementAt context .root root).outcome = .ok statement)
variable (hown : (planner.contribution context .root root.relation
  root.rootStation.batched).outcome = .ok own)
include hvalid hown

/-- A root that is not about its junction refers to its own alias only. -/
theorem rootRefersWithin_of_plain (hpart : statement.HasPart own)
    (hplain : root.relation.refersToJunction = false) :
    statement.RootRefersWithin planner.dialect own
      (planner.contribution context .root root.relation root.rootStation.batched).hookCalls := by
  have hrules := Plan.rules_root hvalid
  have hselections : own.selections = root.rootStation.entries := selections_of_contribution hown
  have hcalls := hookCalls_of_root hown
  obtain ⟨selections, origin, order?, -, horigin, houter, rfl⟩ := contribution_eq_ok hown
  have hintroduced : statement.Introduces planner.dialect root.relation.label := by
    refine hpart.introduces ?_
    rw [owners_of_source horigin]
    exact List.mem_cons_self
  have hpages {select : PagedSelect} (hselect : select ∈ origin.tables.flatMap Fragment.selects) :
      ∃ paging filters, (planner.conditions context root.relation).outcome = .ok filters ∧
        PageSelect planner context .root root.relation paging filters select ∧
        paging.order.table = root.relation.label := by
    obtain ⟨paging, filters, hpaging, hfilters, hpage⟩ :=
      exists_pages_of_mem_selects horigin hselect
    exact ⟨paging, filters, hfilters, hpage,
      Relation.table_of_pagingOrder hplain hrules (Relation.pagingOrder_of_paging hpaging)⟩
  -- what a filter gives is text, so that only the condition behind a cursor names a table itself
  have hgiven {filters : List Condition} {c : Condition} {label : String}
      (hfilters : (planner.conditions context root.relation).outcome = .ok filters)
      (hc : c ∈ filters) (hlabel : label ∈ c.table?) : False := by
    obtain ⟨asked, hasked⟩ := filters_of_mem_conditions hfilters hc
    cases hasked <;> cases hlabel
  refine ⟨fun x hx => ?_, fun call hcall => ?_, fun c hc label hlabel => ?_,
    fun order horder => ?_, fun select hselect => ?_⟩
  · have htable : x.table = root.relation.label := by
      rw [hselections] at hx
      simp only [Station.entries, List.mem_append, List.mem_map] at hx
      rcases hx with (((⟨c, -, rfl⟩ | hx) | hx) | hx) | ⟨d, -, rfl⟩
      · rfl
      · rcases Relation.mem_keySelections.mp hx with ⟨-, rfl⟩ | hx
        · rfl
        · rw [Relation.plainKey] at hx
          split at hx
          · rw [List.mem_singleton.mp hx]
            rfl
          · cases hx
      · exact Relation.table_of_mem_pageEntries hplain hrules hx
      · cases hx
      · rfl
    rwa [htable]
  · rw [hcalls] at hcall
    obtain ⟨q, hq, rfl⟩ := List.mem_map.mp hcall
    exact ⟨_, Relation.tables_of_mem_filterInquiries hplain hq, hintroduced⟩
  · rcases List.mem_append.mp hc with hc | hc
    · cases sourced_of_source horigin with
      | plain _ hsource =>
        rw [hsource.conditions_eq] at hc
        exact (hgiven hsource.filters_eq hc hlabel).elim
      | paged _ _ hconditions =>
        rw [hconditions] at hc
        cases hc
    · obtain ⟨select, hselect, hc⟩ := List.mem_flatMap.mp hc
      obtain ⟨paging, filters, hfilters, hpage, htable⟩ := hpages hselect
      rcases hpage.of_mem_conditions c hc with hlink | hfilter | hseek
      · cases hlink
      · exact (hgiven hfilters hfilter hlabel).elim
      · obtain ⟨seek, -, rfl⟩ := List.mem_map.mp hseek
        cases hlabel
        rwa [htable]
  · rw [Option.mem_toList.mp horder] at houter
    rwa [Relation.table_of_outerOrder hplain hrules houter]
  · obtain ⟨paging, filters, -, hpage, htable⟩ := hpages hselect
    rwa [hpage.order_eq, htable]

include hstatement

/-- A root that is about its junction refers to an alias that is not brought in. -/
theorem not_rootRefersWithin {n : DialectName} (hdialect : planner.dialect = n.dialect)
    (hjunction : root.relation.refersToJunction = true) :
    ¬statement.RootRefersWithin planner.dialect own
      (planner.contribution context .root root.relation root.rootStation.batched).hookCalls := by
  intro hrefers
  have hrules := Plan.rules_root hvalid
  have hselections : own.selections = root.rootStation.entries := selections_of_contribution hown
  have hcalls := hookCalls_of_root hown
  obtain ⟨selections, origin, order?, -, -, houter, rfl⟩ := contribution_eq_ok hown
  obtain ⟨j, hj, -⟩ := (Option.any_eq_true _ _).mp hjunction
  have hmissing := not_introduces_junction hvalid hj hstatement planner.dialect
  rcases (Relation.refersToJunction_iff hj).mp hjunction with
    hfilter | hmode | ⟨columns, hdeclared, -⟩
  · obtain ⟨hook, hhook⟩ := Option.isSome_iff_exists.mp hfilter
    have hq : Inquiry.ofFilter planner.dialect context root.relation .junctionFilter j.label hook ∈
        root.relation.filterInquiries planner.dialect context := by
      refine List.mem_append_left _ ?_
      rw [Relation.junctionInquiries, hj]
      exact List.mem_map_of_mem (Option.mem_toList.mpr hhook)
    obtain ⟨label, hlabel, hintroduced⟩ := hrefers.asked _ (hcalls ▸ List.mem_map_of_mem hq)
    rw [hdialect] at hlabel
    rw [← n.quote_inj (List.cons.inj hlabel).1] at hintroduced
    exact hmissing hintroduced
  · have htotal : Selection.ofColumn j.label totalColumn ∈ root.rootStation.entries := by
      have hentries : root.relation.pageEntries = [.ofColumn j.label totalColumn] := by
        rw [Relation.pageEntries, hmode, Relation.facingAlias, hj]
      simp only [Station.entries, List.mem_append]
      exact .inl (.inl (.inr (hentries ▸ List.mem_cons_self)))
    exact hmissing (hrefers.selections _ (hselections ▸ htotal))
  · obtain ⟨backward, rfl⟩ := Relation.outerOrder_eq_declared hrules houter
    have hintroduced := hrefers.orders (Order.directed ⟨j.label, columns⟩ backward)
      (by simp [hdeclared])
    rw [Relation.table_directed] at hintroduced
    exact hmissing hintroduced

end Root

/-- **The aliases of a root.** The statement of a valid plan names, in what the root selects, in the
filters that are asked for it, in the condition behind a cursor and in its orders, only aliases that
it brings in, whether or not the root is paginated, exactly if the root is not about its
junction. -/
theorem root_aliases_introduced_iff (n : DialectName) (settings : PageSettings) (context : γ)
    {root : Plan γ} (hvalid : root.validate = .ok ()) {query : Query}
    (hquery : (build ⟨n.dialect, settings⟩ context root).outcome = .ok query) :
    ∃ statement own,
      (statementAt ⟨n.dialect, settings⟩ context .root root).outcome = .ok statement ∧
      query.sql = statement.toSql n.dialect ∧
      (contribution ⟨n.dialect, settings⟩ context .root root.relation
        root.rootStation.batched).outcome = .ok own ∧
      statement.HasPart own ∧
      (statement.RootRefersWithin n.dialect own
          (contribution ⟨n.dialect, settings⟩ context .root root.relation
            root.rootStation.batched).hookCalls ↔
        root.relation.refersToJunction = false) := by
  rw [build_eq _ context hvalid] at hquery
  obtain ⟨statement, hstatement, hsql⟩ := exists_statement_of_queryAt hquery
  obtain ⟨own, hown, hpart⟩ := exists_part hstatement root.rootStation_mem
  refine ⟨statement, own, hstatement, hsql, hown, hpart, fun hrefers => ?_, fun hplain => ?_⟩
  · by_contra hjunction
    exact not_rootRefersWithin hvalid hstatement hown rfl (eq_true_of_ne_false hjunction)
      hrefers
  · exact rootRefersWithin_of_plain hvalid hown hpart hplain

/-- Members in pages by name, behind a junction that is not asked about. -/
def membersByName : Plan Unit where
  relation := {
    name := "users", table := "accounts", label := "u", columns := [⟨"id", "id"⟩]
    uniqueKey := ["id"], paginate := true, sortKey := some [⟨"name", .asc⟩, ⟨"id", .asc⟩]
    filter := some ⟨fun table _ _ => .ok (some s!"{table}.active")⟩
    junction := some {
      table := "members", label := "m"
      joins := some (⟨fun parent child _ _ => .ok s!"{parent}.id = {child}.team_id"⟩,
        ⟨fun parent child _ _ => .ok s!"{parent}.user_id = {child}.id"⟩) } }

/-- A junction alone does no harm. -/
theorem membersByName_introduced :
    membersByName.validate = .ok () ∧
    ∃ query statement own, (build ⟨.oracle, {}⟩ () membersByName).outcome = .ok query ∧
      (statementAt ⟨.oracle, {}⟩ () .root membersByName).outcome = .ok statement ∧
      query.sql = statement.toSql .oracle ∧
      statement.RootRefersWithin .oracle own (contribution ⟨.oracle, {}⟩ () .root
        membersByName.relation membersByName.rootStation.batched).hookCalls := by
  have hvalid : membersByName.validate = .ok () := rfl
  obtain ⟨statement, own, hstatement, hsql, -, -, hrefers⟩ :=
    root_aliases_introduced_iff .oracle {} () hvalid rfl
  exact ⟨hvalid, _, statement, own, rfl, hstatement, hsql, hrefers.mpr rfl⟩

/-- Members in numbered pages. -/
def membersByNumber : Plan Unit where
  relation := {
    name := "users", table := "accounts", label := "users", columns := [⟨"id", "id"⟩]
    uniqueKey := ["id"], paginate := true, orderBy := some [⟨"id", .asc⟩]
    junction := some {
      table := "members", label := "m"
      joins := some (⟨fun parent child _ _ => .ok s!"{parent}.id = {child}.team_id"⟩,
        ⟨fun parent child _ _ => .ok s!"{parent}.user_id = {child}.id"⟩) } }

/-- **The number of all rows is looked for in a table that is not there**: it is counted among the
users and selected from their membership, which the statement does not join. -/
theorem membersByNumber_unknown_alias :
    membersByNumber.validate = .ok () ∧
    ∃ query statement, (build ⟨.pg, {}⟩ () membersByNumber).outcome = .ok query ∧
      query.sql = "SELECT\n  \"users\".\"id\" AS \"users__id\",\n" ++
        "  \"m\".\"$total\" AS \"m__$total\"\n" ++
        "FROM (\n  SELECT \"users\".*, count(*) OVER () AS \"$total\"\n" ++
        "  FROM accounts \"users\"\n  WHERE TRUE\n  ORDER BY \"users\".\"id\" ASC\n" ++
        "  LIMIT ALL OFFSET 0\n) \"users\"\nORDER BY \"users\".\"id\" ASC" ∧
      (statementAt ⟨.pg, {}⟩ () .root membersByNumber).outcome = .ok statement ∧
      query.sql = statement.toSql .pg ∧
      ∃ x ∈ statement.selections, x.table = "m" ∧ ¬statement.Introduces .pg x.table := by
  have hvalid : membersByNumber.validate = .ok () := rfl
  have hstatement : (statementAt ⟨.pg, {}⟩ () .root membersByNumber).outcome = .ok _ := rfl
  refine ⟨hvalid, _, _, rfl, by decide +kernel, hstatement, rfl, .ofColumn "m" totalColumn, ?_, rfl,
    not_introduces_junction hvalid rfl hstatement .pg⟩
  decide

end Planner

end RelationSql
