import RelationSql.Proofs.Planner.Stations

/-!
# What a statement selects

The selections of a statement are those of its stations, one station after the other
(`selections_of_statementAt`). They can be read off the plan: the declared columns, the unique key,
what a page is cut by, the key that the rows of a batch are handed out by, and the keys of the
parents of batched relations. Neither the hooks nor the arguments play a part.
-/

namespace RelationSql

variable {γ : Type}

namespace Relation

/-- What a page is cut by: the sort columns, or the number of all rows. -/
def pageEntries (r : Relation γ) : List Selection :=
  match r.pagingMode? with
  | none => []
  | some .offset => [.ofColumn r.facingAlias totalColumn]
  | some .keyset => r.sortKey?.toList.flatMap fun order =>
      order.columns.map fun key => .ofColumn order.table key.column

/-- A page of either direction is cut by the same columns. -/
theorem eq_pageEntries {r : Relation γ} {page : List Selection} (h : r.pageSelections = .ok page) :
    page = r.pageEntries := by
  rw [pageSelections] at h
  rw [pageEntries]
  cases hmode : r.pagingMode? with
  | none =>
    rw [hmode] at h
    cases h
    rfl
  | some mode =>
    rw [hmode] at h
    cases mode with
    | offset =>
      cases h
      rfl
    | keyset =>
      obtain ⟨order, horder, rfl⟩ := map_eq_ok h
      rw [pagingOrder, hmode] at horder
      obtain ⟨declared, hdeclared, horder⟩ := bind_eq_ok horder
      obtain ⟨args, -, horder⟩ := bind_eq_ok horder
      cases horder
      rw [requireSortKey] at hdeclared
      split at hdeclared
      · next hkey =>
        cases hdeclared
        rw [hkey]
        cases args.last.isSome with
        | false => simp [Order.directed]
        | true => simp [Order.directed, OrderColumn.reversed]
      · cases hdeclared

end Relation

/-- What a station selects. -/
def Station.entries (s : Station γ) : List Selection :=
  s.relation.columns.map (fun c => ⟨s.relation.label, .column c.column, c.name⟩)
    ++ s.relation.keySelections ++ s.relation.pageEntries
    ++ s.relation.scopeSelections s.position
    ++ s.batched.map fun d => .ofColumn s.relation.label d.keys.parentKey

/-- What the statement of a plan selects. -/
def Plan.entries (position : Position γ) (p : Plan γ) : List Selection :=
  (p.stations position).flatMap Station.entries

namespace Planner

variable {planner : Planner} {context : γ}

theorem selections_of_contribution {s : Station γ} {statement : Statement}
    (h : (planner.contribution context s.position s.relation s.batched).outcome =
      .ok statement) : statement.selections = s.entries := by
  obtain ⟨selections, hselections, h⟩ := Trace.outcome_bind_eq_ok.mp h
  obtain ⟨source, -, h⟩ := Trace.outcome_bind_eq_ok.mp h
  obtain ⟨order?, -, h⟩ := Trace.outcome_bind_eq_ok.mp h
  cases h
  obtain ⟨page, hpage, hselections⟩ := bind_eq_ok hselections
  cases hselections
  rw [Relation.eq_pageEntries hpage]
  rfl

theorem selections_of_gather {ss : List (Station γ)} {statement : Statement}
    (h : (planner.gather context ss).outcome = .ok statement) :
    statement.selections = ss.flatMap Station.entries := by
  induction ss generalizing statement with
  | nil =>
    cases h
    rfl
  | cons s rest ih =>
    obtain ⟨own, hown, h⟩ := Trace.outcome_bind_eq_ok.mp h
    obtain ⟨others, hothers, h⟩ := Trace.outcome_bind_eq_ok.mp h
    cases h
    rw [Statement.selections_append, selections_of_contribution hown, ih hothers,
      List.flatMap_cons]

/-- **The selections of a statement** can be read off the plan. -/
theorem selections_of_statementAt {position : Position γ} {p : Plan γ} {statement : Statement}
    (h : (planner.statementAt context position p).outcome = .ok statement) :
    statement.selections = p.entries position :=
  selections_of_gather (gather_of_statementAt planner context h)

/-- The text of a query is that of a statement. -/
theorem exists_statement_of_queryAt {position : Position γ} {p : Plan γ} {query : Query}
    (h : (planner.queryAt context position p).outcome = .ok query) :
    ∃ statement, (planner.statementAt context position p).outcome = .ok statement ∧
      query.sql = statement.toSql planner.dialect := by
  obtain ⟨statement, hstatement, h⟩ := Trace.outcome_bind_eq_ok.mp h
  cases h
  exact ⟨statement, hstatement, rfl⟩

end Planner

end RelationSql
