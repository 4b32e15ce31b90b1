import RelationSql.Proofs.Planner.RootReferences

/-!
# The table aliases of a statement

The aliases of a plan are all different, and a statement gives each of its tables the alias of a
relation or of a junction. There is one exception: where pages are attached to the rows of a list of
parent keys, that list is a table as well, and it has a name of its own, which no rule keeps a plan
from using.

* `labels_of_source` — the aliases of the tables of one relation;
* `labels_of_statementAt` — those of a whole statement;
* `table_aliases_distinct_iff` — when they are all different.
-/

namespace RelationSql

variable {γ : Type}

/-! ## Names in texts -/

/-- The text of a fragment names its rows: by the quoted alias, or, where a list of keys is written
with `VALUES`, by the bare name in front of the name of its column. -/
def Fragment.NamedInText (d : Dialect) (fragment : Fragment) : Prop :=
  fragment.NamesRows d fragment.label ∨ ∃ rows column,
    fragment.toSql d = "FROM (VALUES " ++ rows ++ ") " ++ fragment.label ++ "(" ++ column ++ ")"

/-- **A fragment is named by its alias**, the list of keys included. -/
theorem Fragment.namedInText (d : Dialect) (fragment : Fragment) : fragment.NamedInText d := by
  cases fragment with
  | keys style parentKey scope =>
    cases style with
    | lateral =>
      refine .inr ⟨", ".intercalate (scope.keys.map fun key => "(" ++ d.literal key ++ ")"),
        d.quote parentKey, ?_⟩
      change "FROM (VALUES " ++ _ ++ (") " ++ "temp" ++ "(") ++ d.quote parentKey ++ ")" = _
      simp only [← String.append_assoc]
      rfl
    | apply =>
      refine .inl ⟨"FROM ", by decide, "(" ++ " UNION ".intercalate (scope.keys.map fun key =>
        "SELECT " ++ d.literal key ++ " AS " ++ d.quote "value" ++ " FROM DUAL") ++ ") ", "", ?_,
        .inl rfl⟩
      simp only [String.append_empty, ← String.append_assoc]
      rfl
  | base | leftJoin | childJoin | page | correlatedPage | union =>
    exact .inl (namesRows_of_owner? d rfl)

/-! ## The tables of one relation -/

/-- The name of the list of parent keys, if pages are attached to the rows of one. -/
def PagingStyle.keyAliases : PagingStyle → List String
  | correlated _ => ["temp"]
  | unsupported | union => []

/-- The name of the list of keys that a relation is fetched for. -/
def Relation.keyAliases (r : Relation γ) (style : PagingStyle) : Position γ → List String
  | .batch _ => if r.isPaged then style.keyAliases else []
  | .root | .joined _ => []

namespace Planner

open Trace

variable {planner : Planner} {context : γ} {r : Relation γ}

section Attached

variable {position : Position γ} {a : Attachment γ}
variable (hattach : r.Attaches planner.dialect context position a)
include hattach

theorem labels_of_layout (hpaged : r.isPaged = true) {layout : Layout}
    (hlayout : planner.dialect.paging.layout? r a = some layout) (paging : Paging)
    (conditions : List Condition) : (layout paging conditions).map Fragment.label =
      r.keyAliases planner.dialect.paging position ++ r.tableAliases position := by
  generalize planner.dialect.paging = style at hlayout ⊢
  cases hattach with
  | root =>
    cases style with
    | unsupported => cases hlayout
    | correlated style | union =>
      cases hlayout
      rfl
  | parent hj | junction hj =>
    rw [Relation.keyAliases, Relation.tableAliases, hj]
    cases style with
    | unsupported | union => cases hlayout
    | correlated style =>
      cases hlayout
      rfl
  | keys hj | junctionKeys hj =>
    rw [Relation.keyAliases, if_pos hpaged, Relation.tableAliases, hj]
    cases style with
    | unsupported => cases hlayout
    | correlated style | union =>
      cases hlayout
      rfl

theorem labels_of_plainSource (hpaged : r.isPaged = false) (style : PagingStyle)
    (conditions : List Condition) : (r.plainSource a conditions).tables.map Fragment.label =
      r.keyAliases style position ++ r.tableAliases position := by
  cases hattach with
  | root => rfl
  | parent hj | junction hj =>
    rw [Relation.keyAliases, Relation.tableAliases, hj]
    rfl
  | keys hj | junctionKeys hj =>
    rw [Relation.keyAliases, hpaged, Relation.tableAliases, hj]
    rfl

end Attached

/-- **The aliases of the tables of a relation**: those of its junction and of itself, behind the
name of the list of keys if there is one. -/
theorem labels_of_source {position : Position γ} {origin : Source}
    (h : (planner.source context position r).outcome = .ok origin) :
    origin.tables.map Fragment.label =
      r.keyAliases planner.dialect.paging position ++ r.tableAliases position := by
  obtain ⟨a, hattach, hwrites⟩ := exists_of_source h
  cases hwrites with
  | pages hpaged hlayout => exact labels_of_layout hattach hpaged hlayout _ _
  | plain hpaged => exact labels_of_plainSource hattach hpaged _ _

/-! ## The tables of a statement -/

theorem labels_of_gather {ss : List (Station γ)} {statement : Statement}
    (h : (planner.gather context ss).outcome = .ok statement) :
    statement.tables.map Fragment.label = ss.flatMap fun s =>
      s.relation.keyAliases planner.dialect.paging s.position ++
        s.relation.tableAliases s.position := by
  induction ss generalizing statement with
  | nil =>
    cases h
    rfl
  | cons s rest ih =>
    obtain ⟨own, hown, h⟩ := outcome_bind_eq_ok.mp h
    obtain ⟨others, hothers, h⟩ := outcome_bind_eq_ok.mp h
    cases h
    obtain ⟨selections, origin, order?, -, horigin, -, rfl⟩ := contribution_eq_ok hown
    rw [Statement.tables_append, List.map_append, List.flatMap_cons, ih hothers,
      labels_of_source horigin]

/-- **The aliases of the tables of a statement**: those of its relations and junctions, behind the
name of the list of keys if its root is fetched for one. -/
theorem labels_of_statementAt {position : Position γ} {p : Plan γ} {statement : Statement}
    (h : (planner.statementAt context position p).outcome = .ok statement) :
    statement.tables.map Fragment.label =
      p.relation.keyAliases planner.dialect.paging position ++
        (p.stations position).flatMap fun s => s.relation.tableAliases s.position := by
  rw [labels_of_gather (gather_of_statementAt planner context h), Plan.stations_eq,
    List.flatMap_cons, List.flatMap_cons, List.append_assoc]
  congr 2
  refine List.flatMap_congr fun s hs => ?_
  -- behind the root all relations are joined, and none of them has keys of its own
  obtain ⟨c, -, hs⟩ := List.mem_flatMap.mp hs
  obtain ⟨parent, hjoined⟩ : ∃ parent, s.position = .joined parent := by
    rcases Plan.position_of_mem_stations hs with hjoined | hjoined
    · exact ⟨_, hjoined⟩
    · exact hjoined
  rw [hjoined]
  rfl

end Planner

/-! ## Different aliases -/

theorem Relation.nodup_keyAliases (r : Relation γ) (style : PagingStyle) (position : Position γ) :
    (r.keyAliases style position).Nodup := by
  have hstyle : style.keyAliases.Nodup := by
    cases style with
    | correlated style => exact List.nodup_singleton "temp"
    | unsupported => exact List.nodup_nil
    | union => exact List.nodup_nil
  cases position with
  | root => exact List.nodup_nil
  | joined parent => exact List.nodup_nil
  | batch scope =>
    rw [keyAliases]
    split
    · exact hstyle
    · exact List.nodup_nil

/-- The tables of a relation have different aliases if relation and junction have. -/
theorem Relation.nodup_tableAliases {r : Relation γ} (h : r.aliases.Nodup)
    (position : Position γ) : (r.tableAliases position).Nodup := by
  have hmoved : (r.junction.toList.map Junction.label ++ [r.label]).Nodup :=
    List.perm_append_comm.nodup_iff.mpr h
  cases position with
  | root => exact List.nodup_singleton r.label
  | joined parent => exact hmoved
  | batch scope => exact hmoved

/-- **In a valid plan the tables of relations have different aliases**, wherever the relations
stand. -/
theorem Plan.nodup_tableAliases {root p : Plan γ} (hvalid : root.validate = .ok ())
    (hp : p ∈ root.nodes) (position : Position γ) :
    ((p.stations position).flatMap fun s => s.relation.tableAliases s.position).Nodup := by
  obtain ⟨hown, hapart⟩ := List.nodup_flatMap.mp (nodup_aliases_stations hvalid hp position)
  have hsubset (s : Station γ) := Planner.tableAliases_subset s.relation s.position
  refine List.nodup_flatMap.mpr ⟨fun s hs => ?_, hapart.imp fun {s t} hdisjoint => ?_⟩
  · exact Relation.nodup_tableAliases (hown s hs) s.position
  · exact List.disjoint_of_subset_left (hsubset s)
      (List.disjoint_of_subset_right (hsubset t) hdisjoint)

/-- In a batch the name of the list of keys is an alias of the plan as well: pages are attached to
the rows of such a list, and a relation of the same statement, or its junction, has the name. -/
def Plan.SharesKeyAlias (p : Plan γ) (style : PagingStyle) (scope : KeyScope) : Prop :=
  p.relation.isPaged = true ∧ ∃ name ∈ style.keyAliases,
    name ∈ (p.stations (.batch scope)).flatMap fun s => s.relation.aliases

namespace Planner

variable {planner : Planner} {context : γ} {root p : Plan γ}

/-- The tables of a statement have different aliases if the list of keys shares none. -/
theorem nodup_labels_iff (hvalid : root.validate = .ok ()) (hp : p ∈ root.nodes)
    {position : Position γ} {statement : Statement}
    (h : (planner.statementAt context position p).outcome = .ok statement) :
    (statement.tables.map Fragment.label).Nodup ↔
      ∀ name ∈ p.relation.keyAliases planner.dialect.paging position,
        name ∉ (p.stations position).flatMap fun s => s.relation.tableAliases s.position := by
  rw [labels_of_statementAt h, List.nodup_append]
  simp only [Relation.nodup_keyAliases, Plan.nodup_tableAliases hvalid hp position, true_and]
  exact forall₂_congr fun name _ => List.forall_mem_ne

/-- In a batch every relation brings in all of its aliases. -/
theorem mem_batch_tableAliases {scope : KeyScope} {name : String} :
    (name ∈ (p.stations (.batch scope)).flatMap fun s => s.relation.tableAliases s.position) ↔
      name ∈ (p.stations (.batch scope)).flatMap fun s => s.relation.aliases := by
  simp only [List.mem_flatMap]
  refine exists_congr fun s => and_congr_right fun hs => ⟨fun h => tableAliases_subset _ _ h, ?_⟩
  refine Relation.mem_tableAliases ?_
  rcases Plan.position_of_mem_stations hs with hposition | ⟨parent, hposition⟩
  · rw [hposition]
    rfl
  · rw [hposition]
    rfl

theorem nodup_batch_labels_iff (hvalid : root.validate = .ok ()) (hp : p ∈ root.nodes)
    {scope : KeyScope} {statement : Statement}
    (h : (planner.statementAt context (.batch scope) p).outcome = .ok statement) :
    (statement.tables.map Fragment.label).Nodup ↔
      ¬p.SharesKeyAlias planner.dialect.paging scope := by
  rw [nodup_labels_iff hvalid hp h, Plan.SharesKeyAlias, Relation.keyAliases]
  simp only [mem_batch_tableAliases]
  cases p.relation.isPaged with
  | false => simp
  | true => simp

/-- **The table aliases of a statement.** The statement of a valid plan gives every table an alias
of its own. So does the statement of a batch exactly if the list of parent keys, where there is one,
shares its name with no relation and no junction of the statement. -/
theorem table_aliases_distinct_iff (planner : Planner) (context : γ) {root : Plan γ}
    (hvalid : root.validate = .ok ()) :
    (∀ query, (planner.build context root).outcome = .ok query →
      ∃ statement, (planner.statementAt context .root root).outcome = .ok statement ∧
        query.sql = statement.toSql planner.dialect ∧
        (∀ fragment ∈ statement.tables, fragment.NamedInText planner.dialect) ∧
        (statement.tables.map Fragment.label).Nodup) ∧
    ∀ (label : String) (scope : KeyScope) (query : Query),
      (planner.buildBatch context root label scope).outcome = .ok query →
        ∃ p ∈ root.nodes, p.relation.label = label ∧ p.relation.isBatched = true ∧
          ∃ statement, (planner.statementAt context (.batch scope) p).outcome = .ok statement ∧
            query.sql = statement.toSql planner.dialect ∧
            (∀ fragment ∈ statement.tables, fragment.NamedInText planner.dialect) ∧
            ((statement.tables.map Fragment.label).Nodup ↔
              ¬p.SharesKeyAlias planner.dialect.paging scope) := by
  refine ⟨fun query hquery => ?_, fun label scope query hquery => ?_⟩
  · rw [planner.build_eq context hvalid] at hquery
    obtain ⟨statement, hstatement, hsql⟩ := exists_statement_of_queryAt hquery
    refine ⟨statement, hstatement, hsql, fun fragment _ => fragment.namedInText _, ?_⟩
    refine (nodup_labels_iff hvalid List.mem_cons_self hstatement).mpr fun name hname => ?_
    cases hname
  · obtain ⟨p, hp, hlabel, hbatched, -, hquery⟩ :=
      planner.exists_of_buildBatch context hvalid hquery
    obtain ⟨statement, hstatement, hsql⟩ := exists_statement_of_queryAt hquery
    exact ⟨p, hp, hlabel, hbatched, statement, hstatement, hsql,
      fun fragment _ => fragment.namedInText _, nodup_batch_labels_iff hvalid hp hstatement⟩

/-- Users under an alias, with pages of their posts in batches under another one. -/
def labelledPosts (users posts : String) : Plan Unit where
  relation := {
    name := "users", table := "accounts", label := users, columns := [⟨"id", "id"⟩]
    uniqueKey := ["id"] }
  children := [
    { relation := {
        name := "posts", table := "posts", label := posts, columns := [⟨"id", "id"⟩]
        paginate := true, sortKey := some [⟨"id", .asc⟩]
        batch := some { thisKey := "author", parentKey := "id" } } }]

/-- The name of the list of keys does no harm as the alias of the users, who are not in the
statement of their posts. -/
theorem labelledPosts_apart :
    (labelledPosts "temp" "p").validate = .ok () ∧
    (∃ (query : Query) (statement : Statement),
      (build ⟨.pg, {}⟩ () (labelledPosts "temp" "p")).outcome = .ok query ∧
      query.sql = statement.toSql .pg ∧ (statement.tables.map Fragment.label).Nodup) ∧
    ∃ (query : Query) (statement : Statement),
      (buildBatch ⟨.pg, {}⟩ () (labelledPosts "temp" "p") "p"
        (.ofList [.integer 1, .integer 2])).outcome = .ok query ∧
      query.sql = statement.toSql .pg ∧ (statement.tables.map Fragment.label).Nodup := by
  have hvalid : (labelledPosts "temp" "p").validate = .ok () := rfl
  obtain ⟨hbuild, hbatch⟩ := table_aliases_distinct_iff ⟨.pg, {}⟩ () hvalid
  obtain ⟨statement, -, hsql, -, hnodup⟩ := hbuild _ rfl
  obtain ⟨p, hp, hlabel, -, batch, -, hbatchSql, -, hiff⟩ :=
    hbatch "p" (.ofList [.integer 1, .integer 2]) _ rfl
  refine ⟨hvalid, ⟨_, statement, rfl, hsql, hnodup⟩, _, batch, rfl, hbatchSql, hiff.mpr ?_⟩
  rcases List.mem_cons.mp hp with rfl | hp
  · exact absurd hlabel (by decide)
  · rw [List.mem_singleton.mp hp]
    rintro ⟨-, name, hname, hshared⟩
    rw [List.mem_singleton.mp hname] at hshared
    exact absurd hshared (by decide)

/-- **Two tables of a statement have the same alias**: the list of keys, and the posts that are
fetched for them. -/
theorem labelledPosts_share_alias :
    (labelledPosts "users" "temp").validate = .ok () ∧
    ∃ p ∈ (labelledPosts "users" "temp").nodes, ∃ query statement,
      (buildBatch ⟨.pg, {}⟩ () (labelledPosts "users" "temp") "temp"
        (.ofList [.integer 1])).outcome = .ok query ∧
      query.sql = "SELECT\n  \"temp\".\"id\" AS \"temp__id\",\n" ++
        "  \"temp\".\"author\" AS \"temp__author\"\n" ++
        "FROM (VALUES (1)) temp(\"id\")\n" ++
        "JOIN LATERAL (\n  SELECT \"temp\".*\n  FROM posts \"temp\"\n" ++
        "  WHERE \"temp\".\"author\" = temp.\"id\"\n  ORDER BY \"temp\".\"id\" ASC\n" ++
        "  LIMIT ALL\n) \"temp\" ON \"temp\".\"author\" = temp.\"id\"\n" ++
        "ORDER BY \"temp\".\"id\" ASC" ∧
      (statementAt ⟨.pg, {}⟩ () (.batch (.ofList [.integer 1])) p).outcome = .ok statement ∧
      query.sql = statement.toSql .pg ∧
      statement.tables.map Fragment.label = ["temp", "temp"] :=
  ⟨rfl, _, List.mem_cons_of_mem _ List.mem_cons_self, _, _, rfl, by decide +kernel, rfl, rfl, rfl⟩

end Planner

end RelationSql
