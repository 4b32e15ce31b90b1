import RelationSql.Dialect.Builtin
import RelationSql.Proofs.Execution.Visits
import RelationSql.Proofs.Planner.Likeness

/-!
# The members of a batch

One statement fetches the pages of many parents. Each parent is served as it would be alone: the
pages for two lists of keys are fetched by tables that differ in the keys and in nothing else.

* `UnionOfPages`, `PagesBehindKeys` — the source of a batch, and how each key is served alone;
* `batch_serves_each_key` — a union has one member for each key, the one that the key has alone, and
  a list of keys has one row for each.
-/

namespace RelationSql

/-- Two keys are of one kind. -/
inductive Scalar.SameKind : Scalar → Scalar → Prop where
  /-- two numbers -/
  | integer (m n : Int64) : SameKind (.integer m) (.integer n)
  /-- two texts -/
  | text (s t : String) : SameKind (.text s) (.text t)
  /-- two points in time -/
  | timestamp (t u : Timestamp) : SameKind (.timestamp t) (.timestamp u)

namespace KeyScope

/-- The first keys of two scopes are of one kind. -/
def StartAlike (scope scope' : KeyScope) : Prop :=
  ∃ key ∈ scope.keys.head?, ∃ key' ∈ scope'.keys.head?, key.SameKind key'

theorem startsWithText_eq {scope scope' : KeyScope} (h : scope.StartAlike scope') :
    scope.startsWithText = scope'.startsWithText := by
  obtain ⟨key, hkey, key', hkey', hkind⟩ := h
  rw [startsWithText, startsWithText, Option.mem_def.mp hkey, Option.mem_def.mp hkey']
  cases hkind <;> rfl

/-- The scope of one key of another scope. -/
theorem keys_ofList_singleton {scope : KeyScope} {key : Scalar} (h : key ∈ scope.keys) :
    (ofList [key]).keys = [key] := by
  have hnull : key ≠ .null := fun heq => scope.no_null (heq ▸ h)
  rw [keys_ofList, List.filter_cons_of_pos (by simpa using hnull)]
  rfl

end KeyScope

namespace Planner

open Trace

variable {γ : Type} (planner : Planner) (context : γ) (r : Relation γ) (scope scope' : KeyScope)

/-! ## Texts -/

/-- A union of pages, as it is written. -/
theorem toSql_union (d : Dialect) (label : String) (members : List PagedSelect) :
    (Fragment.union label members).toSql d =
      "FROM (\n" ++ "\nUNION\n".intercalate (members.map (PagedSelect.unionMember d)) ++
        "\n) AS " ++ d.quote label :=
  rfl

/-- A list of keys, as it is written for `LATERAL`. -/
theorem toSql_keys_lateral (d : Dialect) (parentKey : String) (scope : KeyScope) :
    (Fragment.keys .lateral parentKey scope).toSql d =
      "FROM (VALUES " ++ ", ".intercalate (scope.keys.map fun key => "(" ++ d.literal key ++ ")") ++
        ") temp(" ++ d.quote parentKey ++ ")" :=
  rfl

/-- A list of keys, as it is written for `APPLY`. -/
theorem toSql_keys_apply (d : Dialect) (parentKey : String) (scope : KeyScope) :
    (Fragment.keys .apply parentKey scope).toSql d =
      "FROM (" ++ " UNION ".intercalate (scope.keys.map fun key =>
        "SELECT " ++ d.literal key ++ " AS " ++ d.quote "value" ++ " FROM DUAL") ++
        ") " ++ d.quote "temp" :=
  rfl

/-! ## Parents served alone -/

/-- The source of a batch is a union of pages, one for each key, and each of them is the one page in
the source for its key alone. -/
structure UnionOfPages (planner : Planner) (context : γ) (r : Relation γ) (scope : KeyScope)
    (source : Source) (label : String) (members : List PagedSelect) (rest : List Fragment) :
    Prop where
  /-- the statement starts from the union -/
  tables : source = ⟨.union label members :: rest, []⟩
  /-- the members are written one behind the other -/
  text : (Fragment.union label members).toSql planner.dialect =
    "FROM (\n" ++ "\nUNION\n".intercalate (members.map (PagedSelect.unionMember planner.dialect)) ++
      "\n) AS " ++ planner.dialect.quote label
  /-- there is one for each key -/
  length : members.length = scope.keys.length
  /-- the one that the key has when it is alone -/
  alone : ∀ (i : Nat) (key : Scalar), scope.keys[i]? = some key →
    ∃ member, members[i]? = some member ∧
      (planner.source context (.batch (.ofList [key])) r).outcome =
        .ok ⟨.union label [member] :: rest, []⟩ ∧
      (Fragment.union label [member]).toSql planner.dialect =
        "FROM (\n" ++ member.unionMember planner.dialect ++ "\n) AS " ++ planner.dialect.quote label

/-- The source of a batch is a list of keys, one row for each, with tables behind it that are those
for all keys of the kind. -/
structure PagesBehindKeys (planner : Planner) (context : γ) (r : Relation γ) (scope : KeyScope)
    (source : Source) (style : Correlation) (parentKey : String) (rest : List Fragment) :
    Prop where
  /-- the statement starts from the keys -/
  tables : source = ⟨.keys style parentKey scope :: rest, []⟩
  /-- one row for each key, with its literal -/
  lateral : style = .lateral → (Fragment.keys style parentKey scope).toSql planner.dialect =
    "FROM (VALUES " ++ ", ".intercalate
      (scope.keys.map fun key => "(" ++ planner.dialect.literal key ++ ")") ++
      ") temp(" ++ planner.dialect.quote parentKey ++ ")"
  /-- the same without `VALUES` -/
  apply : style = .apply → (Fragment.keys style parentKey scope).toSql planner.dialect =
    "FROM (" ++ " UNION ".intercalate (scope.keys.map fun key => "SELECT " ++
      planner.dialect.literal key ++ " AS " ++ planner.dialect.quote "value" ++ " FROM DUAL") ++
      ") " ++ planner.dialect.quote "temp"
  /-- other keys of the kind change the list only -/
  others : ∀ other, scope.StartAlike other → (planner.source context (.batch other) r).outcome =
    .ok ⟨.keys style parentKey other :: rest, []⟩

section Served

variable {planner context r scope} (hpaged : r.isPaged = true) {source : Source}
variable (h : (planner.source context (.batch scope) r).outcome = .ok source)
include hpaged h

/-- What the source of a batch tells of those for other keys. -/
theorem exists_tables : ∃ tables, source = ⟨tables, []⟩ ∧ ∀ other : KeyScope, ∃ tables',
    (planner.source context (.batch other) r).outcome = .ok ⟨tables', []⟩ ∧
      BatchTables scope other planner.dialect.paging tables tables' := by
  have hlike (other : KeyScope) :=
    (planner.source_batch_alike context r scope other).outcome_ok h
  obtain ⟨tables, conditions⟩ := source
  obtain ⟨_, -, halike⟩ := hlike scope
  obtain rfl : conditions = [] := (halike hpaged).1
  refine ⟨tables, rfl, fun other => ?_⟩
  obtain ⟨⟨tables', conditions⟩, hother, halike⟩ := hlike other
  obtain ⟨-, rfl, htables⟩ := halike hpaged
  exact ⟨tables', hother, htables⟩

/-- **A union has one member for each key**, the one that the key has alone. -/
theorem exists_unionOfPages (hstyle : planner.dialect.paging = .union) :
    ∃ label members rest,
      planner.UnionOfPages context r scope source label members rest := by
  obtain ⟨tables, rfl, hlike⟩ := exists_tables hpaged h
  rw [hstyle] at hlike
  obtain ⟨_, -, htables⟩ := hlike scope
  obtain ⟨label, member, rest, rfl, -⟩ := htables.exists_union
  refine ⟨label, _, rest, rfl, toSql_union _ _ _, List.length_map _, fun i key hkey => ?_⟩
  refine ⟨member key, ?_, ?_, toSql_union _ _ _⟩
  · rw [List.getElem?_map, hkey]
    rfl
  · have hmem := List.mem_of_getElem? hkey
    obtain ⟨_, hone, htables⟩ := hlike (.ofList [key])
    obtain ⟨label', member', rest', hsame, rfl⟩ := htables.exists_union
    -- the two unions for the whole scope are one, so that they agree on the members of its keys
    obtain ⟨⟨rfl, hmembers⟩, rfl⟩ : (label = label' ∧ scope.keys.map member =
        scope.keys.map member') ∧ rest = rest' := by simpa using hsame
    rw [hone, KeyScope.keys_ofList_singleton hmem, List.map_singleton,
      List.map_inj_left.mp hmembers key hmem]

/-- **A list of keys has one row for each**, and what follows depends on their kind only. -/
theorem exists_pagesBehindKeys {style : Correlation}
    (hstyle : planner.dialect.paging = .correlated style) :
    ∃ parentKey rest, planner.PagesBehindKeys context r scope source style parentKey rest := by
  obtain ⟨tables, rfl, hlike⟩ := exists_tables hpaged h
  rw [hstyle] at hlike
  obtain ⟨_, -, htables⟩ := hlike scope
  obtain ⟨parentKey, rest, rfl, -⟩ := htables.exists_keys
  refine ⟨parentKey, rest scope.startsWithText, rfl, ?_, ?_, fun other hother => ?_⟩
  · rintro rfl
    exact toSql_keys_lateral _ parentKey scope
  · rintro rfl
    exact toSql_keys_apply _ parentKey scope
  · obtain ⟨_, houtcome, htables⟩ := hlike other
    obtain ⟨parentKey', rest', hsame, rfl⟩ := htables.exists_keys
    obtain ⟨rfl, hrest⟩ : parentKey = parentKey' ∧ rest scope.startsWithText =
        rest' scope.startsWithText := by simpa using hsame
    rw [houtcome, hrest, KeyScope.startsWithText_eq hother]

end Served

/-- **One batched statement serves each parent as it would be served alone.** Where pages are
fetched by unions, the source of a batch of pages is the union of one member for each key in their
order, and each of them is the member that is written for its key alone. Where they are attached to
a list of keys, the list has one row for each key in their order, with its literal, and what follows
is the same for all keys of the kind. In either case the same hooks are asked as for any other keys,
with the same success or error. -/
theorem batch_serves_each_key (planner : Planner) (context : γ) {r : Relation γ}
    (hpaged : r.isPaged = true) (scope : KeyScope) :
    (Dialect.mariadb.paging = .union ∧ Dialect.mysql8.paging = .union ∧
      Dialect.pg.paging = .correlated .lateral ∧ Dialect.oracle.paging = .correlated .apply) ∧
    (∀ other : KeyScope,
      (planner.source context (.batch scope) r).hookCalls =
        (planner.source context (.batch other) r).hookCalls ∧
      ∀ e, (planner.source context (.batch scope) r).outcome = .error e ↔
        (planner.source context (.batch other) r).outcome = .error e) ∧
    ∀ source, (planner.source context (.batch scope) r).outcome = .ok source →
      (planner.dialect.paging = .union → ∃ label members rest,
        planner.UnionOfPages context r scope source label members rest) ∧
      ∀ style, planner.dialect.paging = .correlated style → ∃ parentKey rest,
        planner.PagesBehindKeys context r scope source style parentKey rest := by
  refine ⟨⟨rfl, rfl, rfl, rfl⟩, fun other => ?_, fun source h => ⟨?_, ?_⟩⟩
  · have halike := planner.source_batch_alike context r scope other
    exact ⟨halike.hookCalls_eq, halike.outcome_error⟩
  · exact exists_unionOfPages hpaged h
  · exact fun style => exists_pagesBehindKeys hpaged h

/-- The tags of posts through a junction, page by page behind an index, in batches. -/
def tagsPage : Relation Unit where
  name := "tags"
  table := "tags"
  label := "t"
  args := [("first", .integer 2), ("after", .text (OffsetCursor.encode 4))]
  paginate := true
  filter := some ⟨fun table _ _ => .ok (some s!"{table}.visible")⟩
  junction := some {
    table := "taggings", label := "g", orderBy := some [⟨"rank", .asc⟩]
    batch := some {
      thisKey := "post", parentKey := "id"
      join := some ⟨fun parent child _ _ => .ok s!"{parent}.tag = {child}.id"⟩ } }

/-- The posts whose tags are fetched. -/
def taggedPosts : KeyScope := .ofList [.text "b", .text "O'Hara", .text "a"]

/-- Each of three posts has its page of tags in the union, and its row in the list of keys. -/
theorem taggedPosts_served :
    (∃ source label members rest,
      UnionOfPages ⟨.mysql8, {}⟩ () tagsPage taggedPosts source label members rest) ∧
    ∃ source parentKey rest,
      PagesBehindKeys ⟨.oracle, {}⟩ () tagsPage taggedPosts source .apply parentKey rest := by
  obtain ⟨-, -, hunion⟩ := batch_serves_each_key ⟨.mysql8, {}⟩ () (rfl : tagsPage.isPaged = true)
    taggedPosts
  obtain ⟨-, -, hkeys⟩ := batch_serves_each_key ⟨.oracle, {}⟩ () (rfl : tagsPage.isPaged = true)
    taggedPosts
  exact ⟨⟨_, (hunion _ rfl).1 rfl⟩, _, (hkeys _ rfl).2 .apply rfl⟩

end Planner

end RelationSql
