import RelationSql.Proofs.Planner.Builds
import RelationSql.Proofs.Planner.KeyColumns
import RelationSql.Proofs.Planner.Literals
import RelationSql.Proofs.Sql.Parts

/-!
# Key lists

A batched statement lists the literals of its keys: behind `IN`, as the rows of a table, or one in
each member of a union. Since literals of one kind tell values apart, down to the thousandths of a
second, the list repeats a literal only where two timestamps agree so far; and so do the predicates
that seek behind two cursors.

* `KeyList` — how a text lists keys;
* `exists_keyList` — a statement that is restricted to some keys lists them;
* `literals_keep_values_apart` — literals, key lists and seek predicates.
-/

namespace RelationSql

/-! ## Lists of keys -/

namespace Condition

theorem toSql_keyIs (d : Dialect) (table column : String) (key : Scalar) :
    (keyIs table column key).toSql d = d.column table column ++ " = " ++ d.literal key :=
  rfl

theorem toSql_keyIn (d : Dialect) (table column : String) (scope : KeyScope) :
    (keyIn table column scope).toSql d =
      d.column table column ++ " IN (" ++ ", ".intercalate (scope.keys.map d.literal) ++ ")" :=
  rfl

end Condition

/-- The ways in which a text lists the literals of the keys that a column is compared with. -/
inductive KeyList (d : Dialect) (column : String) (keys : List Scalar) : String → Prop where
  /-- behind the column -/
  | together :
      KeyList d column keys (column ++ " IN (" ++ ", ".intercalate (keys.map d.literal) ++ ")")
  /-- as the rows of a table -/
  | rows (name : String) : KeyList d column keys
      ("FROM (VALUES " ++ ", ".intercalate (keys.map fun key => "(" ++ d.literal key ++ ")") ++
        ") temp(" ++ d.quote name ++ ")")
  /-- as rows that are selected one by one -/
  | selects : KeyList d column keys
      ("FROM (" ++ " UNION ".intercalate (keys.map fun key =>
        "SELECT " ++ d.literal key ++ " AS " ++ d.quote "value" ++ " FROM DUAL") ++
        ") " ++ d.quote "temp")
  /-- each in a page of its own -/
  | pages (label : String) (members : List String) (h : List.Forall₂ (fun key member =>
      Within (column ++ " = " ++ d.literal key) member) keys members) : KeyList d column keys
      ("FROM (\n" ++ "\nUNION\n".intercalate members ++ "\n) AS " ++ d.quote label)

/-- **A statement that is restricted to some keys lists them.** -/
theorem exists_keyList (d : Dialect) {statement : Statement} {table column : String}
    {scope : KeyScope}
    (h : Restricts statement.tables statement.conditions table column scope) :
    ∃ list, KeyList d (d.column table column) scope.keys list ∧
      Within list (statement.toSql d) := by
  cases h with
  | together h =>
    have hwithin := (statement.listed_of_mem_conditions d h).within
    rw [Condition.toSql_keyIn] at hwithin
    exact ⟨_, .together, hwithin⟩
  | current style kind parentKey select hkeys hpage h =>
    have hwithin := statement.within_of_mem_tables d hkeys
    cases style with
    | lateral =>
      rw [Planner.toSql_keys_lateral] at hwithin
      exact ⟨_, .rows parentKey, hwithin⟩
    | apply =>
      rw [Planner.toSql_keys_apply] at hwithin
      exact ⟨_, .selects, hwithin⟩
  | oneByOne label members hunion h =>
    have hwithin := statement.within_of_mem_tables d hunion
    rw [Planner.toSql_union] at hwithin
    refine ⟨_, .pages label _ ?_, hwithin⟩
    rw [List.forall₂_map_right_iff]
    refine h.flip.imp fun key select hkey => ?_
    rw [← Condition.toSql_keyIs]
    exact PagedSelect.HasText.member.within_of_mem_conditions hkey

/-- All keys are of one kind. -/
def KeyScope.OfOneKind (scope : KeyScope) : Prop :=
  ∀ key ∈ scope.keys, ∀ other ∈ scope.keys, key.SameKind other

/-- The literals of keys of one kind are different exactly if the keys are, as far as literals show
them. -/
theorem KeyScope.nodup_literals_iff (n : DialectName) {scope : KeyScope} (h : scope.OfOneKind) :
    (scope.keys.map n.dialect.literal).Nodup ↔ (scope.keys.map Scalar.toMillis).Nodup := by
  rw [List.nodup_map_iff_inj_on scope.nodup, List.nodup_map_iff_inj_on scope.nodup]
  refine forall₂_congr fun key hkey => forall₂_congr fun other hother => ?_
  rw [literal_eq_iff n (h key hkey other hother), Scalar.LooksLike]

/-- **A batched statement lists its keys** for the column that faces the parent. -/
theorem Planner.exists_keyList_of_buildBatch {γ : Type} {planner : Planner} {context : γ}
    {root : Plan γ} {label : String} {scope : KeyScope} {query : Query}
    (h : (planner.buildBatch context root label scope).outcome = .ok query) :
    ∃ p ∈ root.nodes, p.relation.label = label ∧ ∃ keys, p.relation.batchKeys? = some keys ∧
      ∃ list, KeyList planner.dialect
          (planner.dialect.column p.relation.facingAlias keys.thisKey) scope.keys list ∧
        Within list query.sql := by
  obtain ⟨_, hvalid, -⟩ := Trace.outcome_bind_eq_ok.mp h
  obtain ⟨p, hp, hlabel, hbatched, -, hquery⟩ := exists_of_buildBatch planner context
    (mapError_eq_ok hvalid) h
  obtain ⟨keys, hkeys⟩ := Option.isSome_iff_exists.mp hbatched
  obtain ⟨statement, hstatement, hsql⟩ := exists_statement_of_queryAt hquery
  have hlist := exists_keyList planner.dialect (statementAt_restricts hkeys hstatement)
  exact ⟨p, hp, hlabel, keys, hkeys, hsql ▸ hlist⟩

/-! ## Values kept apart -/

/-- **Literals keep values apart**, but for what a timestamp holds below the thousandth of a second.
In every dialect two numbers or two texts have the same literal only if they are the same, and two
timestamps exactly if they agree to the thousandth of a second. So a batched statement for keys of
one kind, which lists the literals of its keys, repeats one exactly if two keys agree so far. And
the predicates that seek behind two cursors, with values of one kind in each column of the sort key,
are the same text exactly if the values agree so far; if the sort key names no column twice, these
are all values of the cursors. -/
theorem literals_keep_values_apart (n : DialectName) :
    ((∀ m k : Int64, n.dialect.literal (.integer m) = n.dialect.literal (.integer k) ↔ m = k) ∧
      (∀ s t : String, n.dialect.literal (.text s) = n.dialect.literal (.text t) ↔ s = t) ∧
      ∀ t u : Timestamp, n.dialect.literal (.timestamp t) = n.dialect.literal (.timestamp u) ↔
        t.toMillis = u.toMillis) ∧
    (∀ (γ : Type) (settings : PageSettings) (context : γ) (root : Plan γ) (label : String)
        (scope : KeyScope) (query : Query), scope.OfOneKind →
      (Planner.buildBatch ⟨n.dialect, settings⟩ context root label scope).outcome = .ok query →
      (∃ p ∈ root.nodes, p.relation.label = label ∧ ∃ keys, p.relation.batchKeys? = some keys ∧
        ∃ list, KeyList n.dialect (n.dialect.column p.relation.facingAlias keys.thisKey) scope.keys
          list ∧ Within list query.sql) ∧
      ((scope.keys.map n.dialect.literal).Nodup ↔ (scope.keys.map Scalar.toMillis).Nodup)) ∧
    ∀ (table text text' : String) (cursor cursor' : Cursor) (columns : List OrderColumn)
        (seek seek' : Seek),
      Cursor.decode text = .ok cursor → Cursor.decode text' = .ok cursor' →
      (∀ key ∈ columns, ∀ v ∈ cursor.get? key.column, ∀ w ∈ cursor'.get? key.column,
        v.SameKind w) →
      Relation.seekAfter columns text = .ok seek → Relation.seekAfter columns text' = .ok seek' →
      (seek.toSql n.dialect table = seek'.toSql n.dialect table ↔
        ∀ key ∈ columns, cursor.ShowsLike cursor' key.column) ∧
      ((columns.map OrderColumn.column).Nodup →
        (seek.toSql n.dialect table = seek'.toSql n.dialect table ↔
          ∀ column, cursor.ShowsLike cursor' column)) := by
  refine ⟨⟨fun m k => ?_, fun s t => ?_, fun t u => ?_⟩, ?_, ?_⟩
  · rw [literal_eq_iff n (.integer m k)]
    exact ⟨Scalar.integer.inj, congrArg Scalar.integer⟩
  · rw [literal_eq_iff n (.text s t)]
    exact ⟨Scalar.text.inj, congrArg Scalar.text⟩
  · rw [literal_eq_iff n (.timestamp t u)]
    exact ⟨Scalar.timestamp.inj, congrArg Scalar.timestamp⟩
  · intro γ settings context root label scope query hkind hquery
    exact ⟨Planner.exists_keyList_of_buildBatch hquery, scope.nodup_literals_iff n hkind⟩
  · intro table text text' cursor cursor' columns seek seek' hread hread' hkinds hseek hseek'
    have hshown := Cursor.toSql_seekAfter_eq_iff n table hread hread' hkinds hseek hseek'
    refine ⟨hshown, fun hcolumns => ?_⟩
    rw [Cursor.forall_showsLike_iff hread hread' hcolumns hseek hseek']
    exact hshown

/-- Noon of a leap day, with a fraction of a second. -/
def leapNoon (nano : Nat) (h : nano < 1000000000) : Timestamp :=
  ⟨⟨2024, 2, 29, by decide, by decide⟩, 12, 0, 0, nano, by omega⟩

/-- The place of a post by its day. -/
def placeOf (day : Timestamp) : Cursor := ⟨[("id", .integer 3), ("day", .timestamp day)]⟩

/-- The sort key of such a place. -/
def placeColumns : List OrderColumn := [⟨"day", .desc⟩, ⟨"id", .asc⟩]

theorem decode_placeOf (day : Timestamp) : Cursor.decode (placeOf day).encode = .ok (placeOf day) :=
  Cursor.decode_encode (by simp [placeOf]) (by simp [placeOf]) fun entry _ => entry.2.recoverable

theorem seekAfter_placeOf (day : Timestamp) :
    Relation.seekAfter placeColumns (placeOf day).encode =
      .ok (Seek.behind placeColumns [.timestamp day, .integer 3]) :=
  Cursor.seekAfter_of_decode (decode_placeOf day)

/-- Books for three authors whose names differ in their marks, and two days that are a thousandth of
a second apart. -/
theorem authors_kept_apart :
    let names : KeyScope := .ofList [.text "O'Hara", .text "O''Hara", .text "'O'Hara'"]
    let early := leapNoon 1000000 (by decide)
    let late := leapNoon 2000000 (by decide)
    (∃ query, (Planner.buildBatch ⟨.oracle, {}⟩ () Planner.authors "b" names).outcome = .ok query ∧
      (∃ p ∈ Planner.authors.nodes, p.relation.label = "b" ∧ ∃ keys,
        p.relation.batchKeys? = some keys ∧ ∃ list, KeyList .oracle
          (Dialect.oracle.column p.relation.facingAlias keys.thisKey) names.keys list ∧
            Within list query.sql) ∧
      (names.keys.map Dialect.oracle.literal).Nodup) ∧
    ∃ seek seek', Relation.seekAfter placeColumns (placeOf early).encode = .ok seek ∧
      Relation.seekAfter placeColumns (placeOf late).encode = .ok seek' ∧
      seek.toSql .oracle "\"p\"" ≠ seek'.toSql .oracle "\"p\"" := by
  intro names early late
  obtain ⟨-, hbatch, hseek⟩ := literals_keep_values_apart .oracle
  have hnames : names.keys = [.text "O'Hara", .text "O''Hara", .text "'O'Hara'"] := by decide
  have hkind : names.OfOneKind := by
    rw [KeyScope.OfOneKind, hnames]
    simp [Scalar.SameKind.text]
  have hkinds : ∀ key ∈ placeColumns, ∀ v ∈ (placeOf early).get? key.column,
      ∀ w ∈ (placeOf late).get? key.column, v.SameKind w := by
    intro key hkey v hv w hw
    rcases List.mem_cons.mp hkey with rfl | hkey
    · cases hv
      cases hw
      exact .timestamp early late
    · obtain rfl := List.mem_singleton.mp hkey
      cases hv
      cases hw
      exact .integer 3 3
  obtain ⟨hlisted, hnodup⟩ := hbatch Unit {} () Planner.authors "b" names _ hkind rfl
  obtain ⟨hshown, -⟩ := hseek "\"p\"" _ _ _ _ _ _ _ (decode_placeOf early)
    (decode_placeOf late) hkinds (seekAfter_placeOf early) (seekAfter_placeOf late)
  refine ⟨⟨_, rfl, hlisted, hnodup.mpr (by decide)⟩, _, _, seekAfter_placeOf early,
    seekAfter_placeOf late, fun hsame => ?_⟩
  have hday := hshown.mp hsame ⟨"day", .desc⟩ List.mem_cons_self
  exact absurd hday (by decide)

/-- Two days that differ below the thousandth of a second. A cursor carries either of them, but they
have one literal, so that it stands twice in a list of keys and the rows behind one of them are also
sought behind the other. -/
theorem literals_repeat_below_millis :
    let early := leapNoon 1000 (by decide)
    let late := leapNoon 2000 (by decide)
    let days : KeyScope := .ofList [.timestamp early, .timestamp late]
    early ≠ late ∧ days.keys = [.timestamp early, .timestamp late] ∧
    Dialect.pg.literal (.timestamp early) = Dialect.pg.literal (.timestamp late) ∧
    Dialect.oracle.literal (.timestamp early) = Dialect.oracle.literal (.timestamp late) ∧
    (∃ query,
      (Planner.buildBatch ⟨.oracle, {}⟩ () Planner.authors "r" days).outcome = .ok query ∧
      Within ("\"r\".\"address\" IN " ++
        "(TIMESTAMP '2024-02-29 12:00:00.000', TIMESTAMP '2024-02-29 12:00:00.000')") query.sql) ∧
    Cursor.decode (placeOf early).encode = .ok (placeOf early) ∧
    Cursor.decode (placeOf late).encode = .ok (placeOf late) ∧
    ∃ seek seek', Relation.seekAfter placeColumns (placeOf early).encode = .ok seek ∧
      Relation.seekAfter placeColumns (placeOf late).encode = .ok seek' ∧ seek ≠ seek' ∧
      seek.toSql .oracle "\"p\"" = seek'.toSql .oracle "\"p\"" := by
  intro early late days
  have hliteral (n : DialectName) :
      n.dialect.literal (.timestamp early) = n.dialect.literal (.timestamp late) :=
    (literal_eq_iff n (.timestamp early late)).mpr (by decide)
  refine ⟨by decide, by decide, hliteral .pg, hliteral .oracle, ⟨_, rfl, ?_⟩, decode_placeOf early,
    decode_placeOf late, _, _, seekAfter_placeOf early, seekAfter_placeOf late, by decide, ?_⟩
  · have hlist : (Condition.keyIn "r" "address" days).toSql .oracle = "\"r\".\"address\" IN " ++
        "(TIMESTAMP '2024-02-29 12:00:00.000', TIMESTAMP '2024-02-29 12:00:00.000')" := by
      decide
    rw [← hlist]
    exact (Statement.listed_of_mem_conditions .oracle List.mem_cons_self).within
  · refine (Seek.toSql_behind_eq_iff .oracle "\"p\"" rfl ?_).mpr ?_
    · exact .cons (.timestamp early late) (.cons (.integer 3 3) .nil)
    · exact .cons (by decide) (.cons rfl .nil)

end RelationSql
