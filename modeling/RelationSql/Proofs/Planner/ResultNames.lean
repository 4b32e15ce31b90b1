import RelationSql.Dialect.Builtin
import RelationSql.Proofs.Planner.Entries
import Mathlib.Data.List.Pairwise

/-!
# The names of result columns

The columns of all tables of a statement come back under names of one kind, the alias of a table,
two underscores and the name of a column. Two selections can share a name in three ways: a declared
column is returned under a name that another selection of its table has; the columns of a composite
key, joined into one name, spell the name of another selection; or the alias of one table runs on
like the name of a column of another. Nothing else goes wrong, and the first two can be told from
each relation by itself.

* `overlaps_of_resultName_eq` — when tables share names;
* `namesClear_iff` — when a relation by itself does;
* `unambiguous_iff` — when a statement has a name twice.
-/

namespace RelationSql

variable {γ : Type}

/-! ## Names of different tables -/

/-- The second alias is the first one and a part that may belong to the name of a column. -/
def Overlaps (first second : String) : Prop :=
  second = first ++ "_" ∨ (first ++ "__").toList <+: second.toList

instance (first second : String) : Decidable (Overlaps first second) :=
  inferInstanceAs (Decidable (_ ∨ _))

theorem toList_resultName (table column : String) :
    (resultName table column).toList = table.toList ++ '_' :: '_' :: column.toList := by
  change (table ++ "__" ++ column).toList = _
  rw [String.toList_append, String.toList_append, List.append_assoc]
  rfl

theorem resultName_inj {table column column' : String} :
    resultName table column = resultName table column' ↔ column = column' := by
  refine ⟨fun h => ?_, fun h => h ▸ rfl⟩
  have hlist := congrArg String.toList h
  rw [toList_resultName, toList_resultName, List.append_cancel_left_eq] at hlist
  exact String.toList_inj.mp (List.cons.inj (List.cons.inj hlist).2).2

/-- An alias that goes on where another one ends. -/
theorem overlaps_of_toList_eq {a b : String} {more m n : List Char} (hne : a ≠ b)
    (hb : b.toList = a.toList ++ more) (h : '_' :: '_' :: m = more ++ '_' :: '_' :: n) :
    Overlaps a b := by
  match more with
  | [] =>
    rw [List.append_nil, String.toList_inj] at hb
    exact absurd hb.symm hne
  | [c] =>
    have hc := (List.cons.inj h).1
    refine .inl (String.toList_inj.mp ?_)
    rw [hb, String.toList_append, ← hc]
    rfl
  | c :: c' :: rest =>
    have hc := (List.cons.inj h).1
    have hc' := (List.cons.inj (List.cons.inj h).2).1
    refine .inr ⟨rest, ?_⟩
    rw [hb, String.toList_append, ← hc, ← hc', List.append_assoc]
    rfl

/-- **Tables share names only if their aliases overlap.** -/
theorem overlaps_of_resultName_eq {a b m n : String} (h : resultName a m = resultName b n)
    (hne : a ≠ b) : Overlaps a b ∨ Overlaps b a := by
  have hlist := congrArg String.toList h
  rw [toList_resultName, toList_resultName, List.append_eq_append_iff] at hlist
  rcases hlist with ⟨more, hb, hrest⟩ | ⟨more, ha, hrest⟩
  · exact .inl (overlaps_of_toList_eq hne hb hrest)
  · exact .inr (overlaps_of_toList_eq hne.symm ha hrest)

/-! ## Names within a relation -/

namespace Relation

/-- The selection of a declared column. -/
def declared (r : Relation γ) (c : ColumnSelection) : Selection :=
  ⟨r.label, .column c.column, c.name⟩

/-- The selection of a composite key. -/
def compositeSelection (r : Relation γ) : Selection :=
  ⟨r.label, .compositeKey r.uniqueKey, "#".intercalate r.uniqueKey⟩

/-- The selection of a unique key of one column. -/
def plainKey (r : Relation γ) : List Selection :=
  match r.uniqueKey with
  | [key] => [.ofColumn r.label key]
  | _ => []

theorem mem_keySelections {r : Relation γ} {x : Selection} : x ∈ r.keySelections ↔
    (2 ≤ r.uniqueKey.length ∧ x = r.compositeSelection) ∨ x ∈ r.plainKey := by
  rw [keySelections, compositeSelection, plainKey]
  match r.uniqueKey with
  | [] => simp
  | [key] => simp
  | key :: key' :: keys => simp

theorem facingAlias_mem_aliases (r : Relation γ) : r.facingAlias ∈ r.aliases := by
  rw [facingAlias, aliases]
  cases r.junction with
  | none => exact List.mem_cons_self
  | some j => exact List.mem_cons_of_mem _ List.mem_cons_self

theorem table_mem_aliases {r : Relation γ} {order : Order} (h : r.sortKey? = some order) :
    order.table ∈ r.aliases := by
  rw [sortKey?] at h
  rw [aliases]
  split at h
  · cases h
    exact List.mem_cons_self
  · obtain ⟨j, hj, h⟩ := Option.bind_eq_some_iff.mp h
    obtain ⟨columns, -, rfl⟩ := Option.map_eq_some_iff.mp h
    rw [hj]
    exact List.mem_cons_of_mem _ List.mem_cons_self

end Relation

namespace Station

/-- The columns that a station selects under their own names. -/
def plain (s : Station γ) : List Selection :=
  s.relation.plainKey ++ s.relation.pageEntries ++ s.relation.scopeSelections s.position
    ++ s.batched.map fun d => .ofColumn s.relation.label d.keys.parentKey

/-- What a station selects: declared columns, a composite key, and columns under their own
names. -/
theorem mem_entries {s : Station γ} {x : Selection} : x ∈ s.entries ↔
    (∃ c ∈ s.relation.columns, s.relation.declared c = x) ∨
      (2 ≤ s.relation.uniqueKey.length ∧ x = s.relation.compositeSelection) ∨ x ∈ s.plain := by
  simp only [entries, plain, List.mem_append, List.mem_map, Relation.mem_keySelections, or_assoc,
    Relation.declared]

/-- The columns that keep their names are columns of the relation or of its junction. -/
theorem exists_of_mem_plain {s : Station γ} {x : Selection} (hx : x ∈ s.plain) :
    ∃ table ∈ s.relation.aliases, ∃ column, x = .ofColumn table column := by
  have hlabel : s.relation.label ∈ s.relation.aliases := List.mem_cons_self
  rcases List.mem_append.mp hx with hx | hx
  · rcases List.mem_append.mp hx with hx | hx
    · rcases List.mem_append.mp hx with hx | hx
      · rw [Relation.plainKey] at hx
        split at hx
        · exact ⟨_, hlabel, _, List.mem_singleton.mp hx⟩
        · cases hx
      · rw [Relation.pageEntries] at hx
        split at hx
        · cases hx
        · exact ⟨_, s.relation.facingAlias_mem_aliases, _, List.mem_singleton.mp hx⟩
        · obtain ⟨order, horder, hx⟩ := List.mem_flatMap.mp hx
          obtain ⟨key, -, rfl⟩ := List.mem_map.mp hx
          exact ⟨_, Relation.table_mem_aliases (Option.mem_toList.mp horder), _, rfl⟩
    · rw [Relation.scopeSelections.eq_def] at hx
      split at hx
      · obtain ⟨keys, -, rfl⟩ := List.mem_map.mp hx
        exact ⟨_, s.relation.facingAlias_mem_aliases, _, rfl⟩
      · cases hx
  · obtain ⟨d, -, rfl⟩ := List.mem_map.mp hx
    exact ⟨_, hlabel, _, rfl⟩

/-- A station selects from the relation and its junction. -/
theorem table_mem_aliases {s : Station γ} {x : Selection} (hx : x ∈ s.entries) :
    x.table ∈ s.relation.aliases := by
  rcases mem_entries.mp hx with ⟨c, -, rfl⟩ | ⟨-, rfl⟩ | hx
  · exact List.mem_cons_self
  · exact List.mem_cons_self
  · obtain ⟨table, htable, column, rfl⟩ := exists_of_mem_plain hx
    exact htable

/-- The names of a relation are clear. -/
structure NamesClear (s : Station γ) : Prop where
  /-- columns that are declared under one name are one column -/
  declared : ∀ c ∈ s.relation.columns, ∀ c' ∈ s.relation.columns, c.name = c'.name →
    c.column = c'.column
  /-- a column that is renamed does not take the name of one that is selected as it is -/
  renamed : ∀ c ∈ s.relation.columns, .ofColumn s.relation.label c.name ∈ s.plain →
    c.column = c.name
  /-- the name of a composite key is that of no other selection -/
  composite : 2 ≤ s.relation.uniqueKey.length →
    (∀ c ∈ s.relation.columns, c.name ≠ "#".intercalate s.relation.uniqueKey) ∧
      .ofColumn s.relation.label ("#".intercalate s.relation.uniqueKey) ∉ s.plain

/-- **Names within a relation.** The names of a relation are clear if and only if selections of one
table under one name are one selection. -/
theorem namesClear_iff {s : Station γ} : s.NamesClear ↔
    ∀ x ∈ s.entries, ∀ y ∈ s.entries, x.table = y.table → x.name = y.name → x = y := by
  constructor
  · intro h
    have hcomposite (hkey : 2 ≤ s.relation.uniqueKey.length) (c : ColumnSelection)
        (hc : c ∈ s.relation.columns) (hname : c.name = s.relation.compositeSelection.name) :
        False := (h.composite hkey).1 c hc hname
    have hrenamed (c : ColumnSelection) (hc : c ∈ s.relation.columns) (y : Selection)
        (hy : y ∈ s.plain) (htable : y.table = s.relation.label) (hname : y.name = c.name) :
        s.relation.declared c = y := by
      obtain ⟨table, -, column, rfl⟩ := exists_of_mem_plain hy
      obtain rfl : table = s.relation.label := htable
      obtain rfl : column = c.name := hname
      rw [Relation.declared, h.renamed c hc hy]
      rfl
    have hplain (hkey : 2 ≤ s.relation.uniqueKey.length) (y : Selection) (hy : y ∈ s.plain)
        (htable : y.table = s.relation.label)
        (hname : y.name = s.relation.compositeSelection.name) : False := by
      obtain ⟨table, -, column, rfl⟩ := exists_of_mem_plain hy
      obtain rfl : table = s.relation.label := htable
      obtain rfl : column = s.relation.compositeSelection.name := hname
      exact (h.composite hkey).2 hy
    intro x hx y hy htable hname
    rcases mem_entries.mp hx with ⟨c, hc, rfl⟩ | ⟨hkey, rfl⟩ | hx
    · rcases mem_entries.mp hy with ⟨c', hc', rfl⟩ | ⟨hkey, rfl⟩ | hy
      · have hcolumn := h.declared c hc c' hc' hname
        rw [Relation.declared, Relation.declared, hcolumn, show c.name = c'.name from hname]
      · exact (hcomposite hkey c hc hname).elim
      · exact hrenamed c hc y hy htable.symm hname.symm
    · rcases mem_entries.mp hy with ⟨c, hc, rfl⟩ | ⟨-, rfl⟩ | hy
      · exact (hcomposite hkey c hc hname.symm).elim
      · rfl
      · exact (hplain hkey y hy htable.symm hname.symm).elim
    · rcases mem_entries.mp hy with ⟨c, hc, rfl⟩ | ⟨hkey, rfl⟩ | hy
      · exact (hrenamed c hc x hx htable hname).symm
      · exact (hplain hkey x hx htable hname).elim
      · obtain ⟨table, -, column, rfl⟩ := exists_of_mem_plain hx
        obtain ⟨table', -, column', rfl⟩ := exists_of_mem_plain hy
        rw [show table = table' from htable, show column = column' from hname]
  · intro h
    have hdeclared (c : ColumnSelection) (hc : c ∈ s.relation.columns) :
        s.relation.declared c ∈ s.entries := mem_entries.mpr (.inl ⟨c, hc, rfl⟩)
    have hplain (x : Selection) (hx : x ∈ s.plain) : x ∈ s.entries :=
      mem_entries.mpr (.inr (.inr hx))
    refine ⟨?_, ?_, fun hkey => ?_⟩
    · intro c hc c' hc' hname
      have heq := h _ (hdeclared c hc) _ (hdeclared c' hc') rfl hname
      exact SelectionSource.column.inj (congrArg Selection.source heq)
    · intro c hc hx
      have heq := h _ (hdeclared c hc) _ (hplain _ hx) rfl rfl
      exact SelectionSource.column.inj (congrArg Selection.source heq)
    · have hkey' := mem_entries.mpr (.inr (.inl ⟨hkey, rfl⟩))
      refine ⟨fun c hc hname => ?_, fun hx => ?_⟩
      · cases congrArg Selection.source (h _ (hdeclared c hc) _ hkey' rfl hname)
      · cases congrArg Selection.source (h _ (hplain _ hx) _ hkey' rfl rfl)

end Station

/-! ## Names within a statement -/

/-- No two selections of a statement share a name. -/
def Statement.Unambiguous (statement : Statement) : Prop :=
  ∀ x ∈ statement.selections, ∀ y ∈ statement.selections, x.resultName = y.resultName → x = y

/-- No two tables of a statement share a name. -/
def Statement.TablesClear (statement : Statement) : Prop :=
  ∀ x ∈ statement.selections, ∀ y ∈ statement.selections, x.table ≠ y.table →
    x.resultName ≠ y.resultName

namespace Plan

variable {root p : Plan γ} {position : Position γ} {statement : Statement}

/-- An alias is that of one station. -/
theorem station_unique (hvalid : root.validate = .ok ()) (hp : p ∈ root.nodes) {s t : Station γ}
    (hs : s ∈ p.stations position) (ht : t ∈ p.stations position) {label : String}
    (hlabel : label ∈ s.relation.aliases) (hlabel' : label ∈ t.relation.aliases) : s = t := by
  have hpairwise := (List.nodup_flatMap.mp (nodup_aliases_stations hvalid hp position)).2
  have : Std.Symm (Function.onFun List.Disjoint fun s : Station γ => s.relation.aliases) :=
    ⟨fun _ _ h _ hs ht => h ht hs⟩
  by_contra hne
  exact hpairwise.forall hs ht hne hlabel hlabel'

/-- **Names within a statement.** No two selections share a name if and only if the names of every
relation are clear and no two tables share a name. -/
theorem unambiguous_iff (hvalid : root.validate = .ok ()) (hp : p ∈ root.nodes)
    (hentries : statement.selections = p.entries position) : statement.Unambiguous ↔
      (∀ s ∈ p.stations position, s.NamesClear) ∧ statement.TablesClear := by
  rw [Statement.Unambiguous, Statement.TablesClear, hentries]
  have hmem {s : Station γ} (hs : s ∈ p.stations position) {x : Selection} (hx : x ∈ s.entries) :
      x ∈ p.entries position := List.mem_flatMap.mpr ⟨s, hs, hx⟩
  constructor
  · intro h
    refine ⟨fun s hs => Station.namesClear_iff.mpr fun x hx y hy htable hname => ?_, ?_⟩
    · apply h x (hmem hs hx) y (hmem hs hy)
      rw [Selection.resultName, Selection.resultName, htable, hname]
    · intro x hx y hy htable hname
      exact htable (congrArg Selection.table (h x hx y hy hname))
  · rintro ⟨hclear, htables⟩ x hx y hy hname
    by_cases htable : x.table = y.table
    · obtain ⟨s, hs, hx⟩ := List.mem_flatMap.mp hx
      obtain ⟨t, ht, hy⟩ := List.mem_flatMap.mp hy
      obtain rfl := station_unique hvalid hp hs ht (Station.table_mem_aliases hx)
        (htable ▸ Station.table_mem_aliases hy)
      rw [Selection.resultName, Selection.resultName, htable, resultName_inj] at hname
      exact Station.namesClear_iff.mp (hclear s hs) x hx y hy htable hname
    · exact absurd hname (htables x hx y hy htable)

/-- No two tables share a name if no aliases overlap. -/
theorem tablesClear_of_not_overlaps (hentries : statement.selections = p.entries position)
    (h : ∀ a ∈ (p.stations position).flatMap fun s => s.relation.aliases,
      ∀ b ∈ (p.stations position).flatMap fun s => s.relation.aliases, ¬Overlaps a b) :
    statement.TablesClear := by
  rw [Statement.TablesClear, hentries]
  have htable {x : Selection} (hx : x ∈ p.entries position) :
      x.table ∈ (p.stations position).flatMap fun s => s.relation.aliases := by
    obtain ⟨s, hs, hx⟩ := List.mem_flatMap.mp hx
    exact List.mem_flatMap.mpr ⟨s, hs, Station.table_mem_aliases hx⟩
  intro x hx y hy hne hname
  rcases overlaps_of_resultName_eq hname hne with hover | hover
  · exact h _ (htable hx) _ (htable hy) hover
  · exact h _ (htable hy) _ (htable hx) hover

/-- What the names of a statement are worth. -/
structure NamedIn (d : Dialect) (position : Position γ) (p : Plan γ) (statement : Statement) :
    Prop where
  /-- the selections are those that the plan asks for -/
  selections_eq : statement.selections = p.entries position
  /-- no two of them share a name exactly if the names of each relation are clear and no two tables
  share one -/
  unambiguous_iff : statement.Unambiguous ↔
    (∀ s ∈ p.stations position, s.NamesClear) ∧ statement.TablesClear
  /-- tables whose aliases do not overlap share no name -/
  tablesClear : (∀ a ∈ (p.stations position).flatMap fun s => s.relation.aliases,
    ∀ b ∈ (p.stations position).flatMap fun s => s.relation.aliases, ¬Overlaps a b) →
      statement.TablesClear
  /-- then what is written under one name is written once -/
  toSql_eq : statement.Unambiguous → ∀ x ∈ statement.selections, ∀ y ∈ statement.selections,
    d.quote x.resultName = d.quote y.resultName → x.toSql d = y.toSql d

end Plan

/-! ## Built statements -/

theorem delimited_inj {delimiter a b : String}
    (h : delimiter ++ a ++ delimiter = delimiter ++ b ++ delimiter) : a = b := by
  have hlist := congrArg String.toList h
  simp only [String.toList_append, List.append_cancel_right_eq, List.append_cancel_left_eq] at hlist
  exact String.toList_inj.mp hlist

/-- The built-in dialects quote different names differently. -/
theorem DialectName.quote_inj (n : DialectName) {a b : String}
    (h : n.dialect.quote a = n.dialect.quote b) : a = b := by
  cases n <;> exact delimited_inj h

namespace Planner

/-- **When result names are unambiguous.** The statement of a valid plan, or of a batched relation
of it, returns no two selections under one name if and only if the names of each of its relations
are clear and no two of its tables share one; for the latter it is enough that no aliases
overlap. -/
theorem result_names_unambiguous_iff (n : DialectName) (settings : PageSettings) (context : γ)
    {root : Plan γ} (hvalid : root.validate = .ok ()) :
    (∀ query, (build ⟨n.dialect, settings⟩ context root).outcome = .ok query → ∃ statement,
      (statementAt ⟨n.dialect, settings⟩ context .root root).outcome = .ok statement ∧
      query.sql = statement.toSql n.dialect ∧ root.NamedIn n.dialect .root statement) ∧
    ∀ p ∈ root.nodes, p.relation.isBatched = true → ∀ (scope : KeyScope) (query : Query),
      (buildBatch ⟨n.dialect, settings⟩ context root p.relation.label scope).outcome = .ok query →
      ∃ statement,
        (statementAt ⟨n.dialect, settings⟩ context (.batch scope) p).outcome = .ok statement ∧
        query.sql = statement.toSql n.dialect ∧ p.NamedIn n.dialect (.batch scope) statement := by
  have hnamed {p : Plan γ} (hp : p ∈ root.nodes) {position : Position γ} {query : Query}
      (h : (queryAt ⟨n.dialect, settings⟩ context position p).outcome = .ok query) :
      ∃ statement,
        (statementAt ⟨n.dialect, settings⟩ context position p).outcome = .ok statement ∧
        query.sql = statement.toSql n.dialect ∧ p.NamedIn n.dialect position statement := by
    obtain ⟨statement, hstatement, hsql⟩ := exists_statement_of_queryAt h
    have hentries := selections_of_statementAt hstatement
    refine ⟨statement, hstatement, hsql, hentries, Plan.unambiguous_iff hvalid hp hentries,
      Plan.tablesClear_of_not_overlaps hentries, ?_⟩
    intro hunambiguous x hx y hy hname
    rw [hunambiguous x hx y hy (n.quote_inj hname)]
  refine ⟨fun query h => ?_, fun p hp hbatched scope query h => ?_⟩
  · rw [build_eq _ context hvalid] at h
    exact hnamed List.mem_cons_self h
  · rw [buildBatch_found _ context hvalid hp hbatched] at h
    split at h
    · cases h
    · exact hnamed hp h

/-- Users by name and number, each with a key of two columns, and their posts through a junction
in batches. -/
def usersWithKeys : Plan Unit where
  relation := {
    name := "users", table := "accounts", label := "users"
    columns := [⟨"email", "address"⟩, ⟨"name", "name"⟩], uniqueKey := ["id", "realm"]
    sortKey := some [⟨"name", .asc⟩, ⟨"id", .asc⟩], paginate := true }
  children := [{
    relation := {
      name := "posts", table := "posts", label := "posts", columns := [⟨"title", "title"⟩]
      junction := some {
        table := "authorship", label := "authorship"
        batch := some {
          thisKey := "author", parentKey := "id"
          join := some ⟨fun _ _ _ _ => .ok "TRUE"⟩ } } } }]

/-- The names of their statement are clear. -/
theorem usersWithKeys_unambiguous :
    usersWithKeys.validate = .ok () ∧ ∃ (query : Query) (statement : Statement),
      (build ⟨.pg, {}⟩ () usersWithKeys).outcome = .ok query ∧
      (statementAt ⟨.pg, {}⟩ () .root usersWithKeys).outcome = .ok statement ∧
      query.sql = statement.toSql .pg ∧ statement.Unambiguous := by
  have hvalid : usersWithKeys.validate = .ok () := rfl
  obtain ⟨query, hquery⟩ : ∃ query, (build ⟨.pg, {}⟩ () usersWithKeys).outcome = .ok query :=
    ⟨_, rfl⟩
  obtain ⟨statement, hstatement, hsql, hnamed⟩ :=
    (result_names_unambiguous_iff .pg {} () hvalid).1 query hquery
  refine ⟨hvalid, query, statement, hquery, hstatement, hsql,
    hnamed.unambiguous_iff.mpr ⟨?_, ?_⟩⟩
  · intro s hs
    rw [List.mem_singleton.mp hs]
    refine ⟨?_, ?_, fun _ => ⟨?_, ?_⟩⟩ <;> decide +kernel
  · exact hnamed.tablesClear (by decide +kernel)

/-- Users whose mail address is returned as their number, and their posts in batches. -/
def usersByAddress : Plan Unit where
  relation := {
    name := "users", table := "accounts", label := "users", columns := [⟨"email", "id"⟩] }
  children := [{
    relation := {
      name := "posts", table := "posts", label := "posts", columns := [⟨"title", "title"⟩]
      batch := some { thisKey := "author_id", parentKey := "id" } } }]

/-- A plan may pass all checks and still return two columns under one name: the mail address of a
user under the name of the key by which the posts are fetched. -/
theorem usersByAddress_ambiguous :
    usersByAddress.validate = .ok () ∧ ∃ (query : Query) (statement : Statement),
      (build ⟨.pg, {}⟩ () usersByAddress).outcome = .ok query ∧
      (statementAt ⟨.pg, {}⟩ () .root usersByAddress).outcome = .ok statement ∧
      query.sql = statement.toSql .pg ∧
      query.deferred.map Deferred.parentKeyColumn = ["users__id"] ∧
      ∃ x ∈ statement.selections, ∃ y ∈ statement.selections,
        x.resultName = "users__id" ∧ y.resultName = "users__id" ∧
        x.toSql .pg = "\"users\".\"email\" AS \"users__id\"" ∧
        y.toSql .pg = "\"users\".\"id\" AS \"users__id\"" := by
  refine ⟨rfl, _, _, rfl, rfl, rfl, rfl, _, List.mem_cons_self, _,
    List.mem_cons_of_mem _ List.mem_cons_self, rfl, rfl, rfl, rfl⟩

end Planner

end RelationSql
