import RelationSql.Proofs.Keyset.Pages
import RelationSql.Proofs.Planner.ResultNames

/-!
# The columns of one table in a row

A row comes back under names made of the alias of a table and the name of a column, and what belongs
to a table is found by its alias again. So it is found with its values, and each column once. What
belongs to another table can be taken for it, too, but only where the name of a selection begins
with the alias by chance, which one alias that runs on from another is enough for.

* `Row.mem_nodeColumns`, `Row.nodup_nodeColumns` — what is found under an alias;
* `Selection.RunsInto` — a selection from another table that is found there, too;
* `ownsColumns_iff` — what is found under an alias belongs to its table, unless a selection runs
  into it;
* `node_columns_exact_iff` — so it is for the statements of plans.
-/

namespace RelationSql

variable {γ : Type}

/-! ## Rows -/

namespace Row

/-- **What is found under an alias** is what stands under the names that are made of it. -/
theorem mem_nodeColumns {row : Row} {label name : String} {value : Json} :
    (name, value) ∈ row.nodeColumns label ↔ (resultName label name, value) ∈ row := by
  rw [nodeColumns, List.mem_filterMap]
  constructor
  · rintro ⟨⟨column, other⟩, hfield, h⟩
    obtain ⟨found, hfound, heq⟩ := Option.map_eq_some_iff.mp h
    obtain ⟨rfl, rfl⟩ := Prod.mk.inj heq
    rwa [← columnOf?_eq_some.mp hfound]
  · intro hfield
    refine ⟨_, hfield, ?_⟩
    rw [columnOf?_eq_some.mpr rfl]
    rfl

/-- No column is found twice where none is there twice. -/
theorem nodup_nodeColumns {row : Row} (hnodup : (row.map Prod.fst).Nodup) (label : String) :
    ((row.nodeColumns label).map Prod.fst).Nodup := by
  have hmap : (row.nodeColumns label).map Prod.fst =
      (row.map Prod.fst).filterMap (columnOf? label) := by
    rw [nodeColumns, List.map_filterMap, List.filterMap_map]
    refine List.filterMap_congr fun field _ => ?_
    rw [Option.map_map, Function.comp_apply]
    exact congrFun Option.map_id _
  rw [hmap]
  refine hnodup.filterMap fun name name' column hname hname' => ?_
  rw [columnOf?_eq_some.mp hname, columnOf?_eq_some.mp hname']

/-- A row answers a statement: its columns are the result columns of the selections, each of them
once. -/
structure Answers (row : Row) (statement : Statement) : Prop where
  /-- no column is there twice -/
  nodup : (row.map Prod.fst).Nodup
  /-- the columns are those that are selected -/
  columns : ∀ name, name ∈ row.map Prod.fst ↔ ∃ x ∈ statement.selections, x.resultName = name

/-- Every selection has its value. -/
theorem Answers.exists_value {row : Row} {statement : Statement} (h : row.Answers statement)
    {x : Selection} (hx : x ∈ statement.selections) : ∃ value, (x.resultName, value) ∈ row := by
  obtain ⟨⟨column, value⟩, hfield, hcolumn⟩ :=
    List.mem_map.mp ((h.columns x.resultName).mpr ⟨x, hx, rfl⟩)
  obtain rfl : column = x.resultName := hcolumn
  exact ⟨value, hfield⟩

end Row

/-! ## Selections -/

namespace Selection

/-- A selection from another table whose result name begins like those of an alias. -/
def RunsInto (x : Selection) (label : String) : Prop :=
  x.table ≠ label ∧ (label ++ "__").toList <+: x.resultName.toList

instance (x : Selection) (label : String) : Decidable (x.RunsInto label) :=
  inferInstanceAs (Decidable (_ ∧ _))

theorem runsInto_iff {x : Selection} {label : String} : x.RunsInto label ↔
    x.table ≠ label ∧ ∃ name, x.resultName = RelationSql.resultName label name := by
  refine and_congr_right fun _ => ?_
  constructor
  · rintro ⟨rest, hrest⟩
    refine ⟨String.ofList rest, String.toList_inj.mp ?_⟩
    have hname : (String.ofList rest).toList = rest := String.toList_ofList
    rw [← hrest, toList_resultName, hname, String.toList_append, List.append_assoc]
    rfl
  · rintro ⟨name, hname⟩
    refine ⟨name.toList, ?_⟩
    rw [hname, toList_resultName, String.toList_append, List.append_assoc]
    rfl

/-- A selection runs into an alias only if that of its table overlaps with it. -/
theorem overlaps_of_runsInto {x : Selection} {label : String} (h : x.RunsInto label) :
    Overlaps label x.table ∨ Overlaps x.table label := by
  obtain ⟨hne, name, hname⟩ := runsInto_iff.mp h
  exact (overlaps_of_resultName_eq hname hne).symm

/-- All selections of a table run into an alias from which that of the table runs on. -/
theorem runsInto_of_overlaps {x : Selection} {label : String} (h : Overlaps label x.table) :
    x.RunsInto label := by
  have hlong : label.toList.length < x.table.toList.length := by
    rcases h with h | h
    · rw [h, String.toList_append, List.length_append]
      exact Nat.lt_succ_self _
    · have hlength := h.length_le
      rw [String.toList_append, List.length_append] at hlength
      exact Nat.lt_of_succ_le (Nat.le_of_succ_le hlength)
  refine ⟨fun heq => absurd hlong (by rw [heq]; exact Nat.lt_irrefl _), ?_⟩
  rw [resultName, toList_resultName]
  rcases h with h | h
  · refine ⟨'_' :: x.name.toList, ?_⟩
    rw [h, String.toList_append, String.toList_append, List.append_assoc, List.append_assoc]
    rfl
  · exact h.trans (List.prefix_append _ _)

end Selection

namespace Statement

/-- What is found under an alias in a row is what the statement selects under it, with its value,
and nothing that it selects under another alias. -/
structure OwnsColumns (statement : Statement) (row : Row) (label : String) : Prop where
  /-- what is found is selected under the alias, and the other way round -/
  own : ∀ name value, (name, value) ∈ row.nodeColumns label ↔
    ∃ x ∈ statement.selections, x.table = label ∧ x.name = name ∧ (x.resultName, value) ∈ row
  /-- nothing of it is selected under another alias -/
  others : ∀ x ∈ statement.selections, x.table ≠ label → ∀ column ∈ row.nodeColumns label,
    resultName label column.1 ≠ x.resultName

variable {statement : Statement} {row : Row}

/-- **What is found under an alias belongs to its table**, exactly if no selection from another
table runs into the alias. -/
theorem ownsColumns_iff (h : row.Answers statement) (label : String) :
    statement.OwnsColumns row label ↔ ∀ x ∈ statement.selections, ¬x.RunsInto label := by
  constructor
  · intro howns x hx hruns
    obtain ⟨hne, name, hname⟩ := Selection.runsInto_iff.mp hruns
    obtain ⟨value, hfield⟩ := h.exists_value hx
    rw [hname] at hfield
    exact howns.others x hx hne _ (Row.mem_nodeColumns.mpr hfield) hname.symm
  · intro hclear
    have htable {x : Selection} (hx : x ∈ statement.selections) {name : String}
        (hname : x.resultName = resultName label name) : x.table = label := by
      by_contra hne
      exact hclear x hx (Selection.runsInto_iff.mpr ⟨hne, name, hname⟩)
    refine ⟨fun name value => ?_, fun x hx hne column _ hname => hne (htable hx hname.symm)⟩
    rw [Row.mem_nodeColumns]
    constructor
    · intro hfield
      obtain ⟨x, hx, hname⟩ := (h.columns _).mp (List.mem_map_of_mem hfield)
      have hlabel := htable hx hname
      refine ⟨x, hx, hlabel, ?_, hname ▸ hfield⟩
      rwa [Selection.resultName, hlabel, resultName_inj] at hname
    · rintro ⟨x, -, rfl, rfl, hfield⟩
      exact hfield

/-- What a row shows under an alias, where the tables of its statement have some aliases. -/
structure Shows (statement : Statement) (aliases : List String) (row : Row) (label : String) :
    Prop where
  /-- no column is found twice -/
  nodup : ((row.nodeColumns label).map Prod.fst).Nodup
  /-- what is selected under the alias is found, with its value -/
  selected : ∀ x ∈ statement.selections, x.table = label →
    ∃ value, (x.resultName, value) ∈ row ∧ (x.name, value) ∈ row.nodeColumns label
  /-- there is nothing else exactly if no other selection runs into the alias -/
  exact_iff : statement.OwnsColumns row label ↔ ∀ x ∈ statement.selections, ¬x.RunsInto label
  /-- this is so if the alias overlaps with no other -/
  apart : (∀ other ∈ aliases, ¬Overlaps label other ∧ ¬Overlaps other label) →
    statement.OwnsColumns row label
  /-- and is not so if something is selected under an alias that runs on from it -/
  overlapped : ∀ x ∈ statement.selections, Overlaps label x.table →
    ¬statement.OwnsColumns row label

theorem shows {aliases : List String} (haliases : ∀ x ∈ statement.selections, x.table ∈ aliases)
    (h : row.Answers statement) (label : String) : statement.Shows aliases row label where
  nodup := Row.nodup_nodeColumns h.nodup label
  selected := by
    rintro x hx rfl
    obtain ⟨value, hfield⟩ := h.exists_value hx
    exact ⟨value, hfield, Row.mem_nodeColumns.mpr hfield⟩
  exact_iff := ownsColumns_iff h label
  apart := by
    intro hapart
    refine (ownsColumns_iff h label).mpr fun x hx hruns => ?_
    obtain ⟨hlabel, hother⟩ := hapart x.table (haliases x hx)
    exact (Selection.overlaps_of_runsInto hruns).elim hlabel hother
  overlapped := by
    intro x hx hover howns
    exact (ownsColumns_iff h label).mp howns x hx (Selection.runsInto_of_overlaps hover)

end Statement

/-! ## Built statements -/

namespace Plan

/-- The aliases of the tables in the statement of a plan. -/
def statementAliases (position : Position γ) (p : Plan γ) : List String :=
  (p.stations position).flatMap fun s => s.relation.aliases

theorem table_mem_statementAliases {position : Position γ} {p : Plan γ} {x : Selection}
    (hx : x ∈ p.entries position) : x.table ∈ p.statementAliases position := by
  obtain ⟨s, hs, hx⟩ := List.mem_flatMap.mp hx
  exact List.mem_flatMap.mpr ⟨s, hs, Station.table_mem_aliases hx⟩

end Plan

namespace Planner

/-- **The columns of a table in a row.** In a row of the statement of a valid plan, or of a batched
relation of it, everything that is selected under an alias is found under that alias, once and with
its value. Nothing else is found there exactly if no selection from another table runs into the
alias. This is so if the alias overlaps with no other of the statement, and not so if something is
selected under an alias that runs on from it. -/
theorem node_columns_exact_iff (planner : Planner) (context : γ) {root : Plan γ}
    (hvalid : root.validate = .ok ()) :
    (∀ query, (planner.build context root).outcome = .ok query → ∃ statement,
      (planner.statementAt context .root root).outcome = .ok statement ∧
      query.sql = statement.toSql planner.dialect ∧
      ∀ row : Row, row.Answers statement → ∀ label,
        statement.Shows (root.statementAliases .root) row label) ∧
    ∀ p ∈ root.nodes, p.relation.isBatched = true → ∀ (scope : KeyScope) (query : Query),
      (planner.buildBatch context root p.relation.label scope).outcome = .ok query → ∃ statement,
        (planner.statementAt context (.batch scope) p).outcome = .ok statement ∧
        query.sql = statement.toSql planner.dialect ∧
        ∀ row : Row, row.Answers statement → ∀ label,
          statement.Shows (p.statementAliases (.batch scope)) row label := by
  have hshows {p : Plan γ} {position : Position γ} {query : Query}
      (h : (planner.queryAt context position p).outcome = .ok query) : ∃ statement,
        (planner.statementAt context position p).outcome = .ok statement ∧
        query.sql = statement.toSql planner.dialect ∧
        ∀ row : Row, row.Answers statement → ∀ label,
          statement.Shows (p.statementAliases position) row label := by
    obtain ⟨statement, hstatement, hsql⟩ := exists_statement_of_queryAt h
    have hentries := selections_of_statementAt hstatement
    refine ⟨statement, hstatement, hsql, fun row hrow label => Statement.shows ?_ hrow label⟩
    exact fun x hx => Plan.table_mem_statementAliases (hentries ▸ hx)
  refine ⟨fun query h => ?_, fun p hp hbatched scope query h => ?_⟩
  · rw [planner.build_eq context hvalid] at h
    exact hshows h
  · rw [planner.buildBatch_found context hvalid hp hbatched] at h
    split at h
    · cases h
    · exact hshows h

/-- A page of users with their posts, under some aliases. -/
def usersAndPosts (users posts : String) : Plan Unit where
  relation := {
    name := "users", table := "accounts", label := users, columns := [⟨"id", "id"⟩]
    sortKey := some [⟨"id", .asc⟩], paginate := true }
  children := [{
    relation := {
      name := "posts", table := "posts", label := posts, columns := [⟨"id", "id"⟩]
      join := some ⟨fun parent child _ _ => .ok s!"{parent}.id = {child}.author"⟩ } }]

/-- A user with a post, under some aliases. -/
def userAndPost (users posts : String) : Row :=
  [(resultName users "id", .integer 1), (resultName posts "id", .integer 7)]

theorem userAndPost_answers {users posts : String} {statement : Statement}
    (hentries : statement.selections = (usersAndPosts users posts).entries .root)
    (hne : resultName users "id" ≠ resultName posts "id") :
    (userAndPost users posts).Answers statement := by
  have hselections : statement.selections =
      [.ofColumn users "id", .ofColumn users "id", .ofColumn posts "id"] := hentries
  refine ⟨by simp [userAndPost, hne], fun name => ?_⟩
  simp [userAndPost, hselections, Selection.resultName, Selection.ofColumn, eq_comm]

/-- An alias that another one begins with is harmless if it does not go on with two underscores: a
row of users and posts shows the numbers of both. -/
theorem usersAndPosts_apart : ∃ statement,
    (statementAt ⟨.pg, {}⟩ () .root (usersAndPosts "u" "u_p")).outcome = .ok statement ∧
    (userAndPost "u" "u_p").Answers statement ∧
    statement.OwnsColumns (userAndPost "u" "u_p") "u" ∧
    statement.OwnsColumns (userAndPost "u" "u_p") "u_p" := by
  obtain ⟨query, hquery⟩ :
      ∃ query, (build ⟨.pg, {}⟩ () (usersAndPosts "u" "u_p")).outcome = .ok query := ⟨_, rfl⟩
  obtain ⟨statement, hstatement, -, hshows⟩ :=
    (node_columns_exact_iff ⟨.pg, {}⟩ () (rfl : (usersAndPosts "u" "u_p").validate = .ok ())).1
      query hquery
  have hrow : (userAndPost "u" "u_p").Answers statement :=
    userAndPost_answers (selections_of_statementAt hstatement) (by decide)
  refine ⟨statement, hstatement, hrow, (hshows _ hrow "u").apart ?_, (hshows _ hrow "u_p").apart ?_⟩
  · decide +kernel
  · decide +kernel

/-- A plan may pass all checks and still take the column of one table for that of another: the alias
of the posts runs on from that of the users, so that an edge of the page of users shows the number
of a post. -/
theorem usersAndPosts_overlapping : ∃ (query : Query) (statement : Statement) (page : Page),
    (usersAndPosts "u" "u__p").validate = .ok () ∧
    (build ⟨.pg, {}⟩ () (usersAndPosts "u" "u__p")).outcome = .ok query ∧
    (statementAt ⟨.pg, {}⟩ () .root (usersAndPosts "u" "u__p")).outcome = .ok statement ∧
    query.sql = statement.toSql .pg ∧
    statement.selections = [.ofColumn "u" "id", .ofColumn "u" "id", .ofColumn "u__p" "id"] ∧
    (userAndPost "u" "u__p").Answers statement ∧
    (userAndPost "u" "u__p").nodeColumns "u" = [("id", .integer 1), ("p__id", .integer 7)] ∧
    ¬statement.OwnsColumns (userAndPost "u" "u__p") "u" ∧
    ((usersAndPosts "u" "u__p").relation.paging {} >>= fun paging =>
      Page.ofRows (usersAndPosts "u" "u__p").relation paging [userAndPost "u" "u__p"]) =
        .ok page ∧
    page.edges.map Edge.node = [[("id", .integer 1), ("p__id", .integer 7)]] := by
  refine ⟨_, _, _, rfl, rfl, rfl, rfl, rfl, userAndPost_answers rfl (by decide), rfl, ?_, rfl, rfl⟩
  intro howns
  have hother : Selection.ofColumn "u__p" "id" ∈
      [Selection.ofColumn "u" "id", .ofColumn "u" "id", .ofColumn "u__p" "id"] :=
    .tail _ (.tail _ (.head _))
  have hfound : ("p__id", Json.integer 7) ∈ (userAndPost "u" "u__p").nodeColumns "u" :=
    .tail _ (.head _)
  exact howns.others _ hother (by decide) _ hfound rfl

end Planner

end RelationSql
