import RelationSql.Proofs.Keyset.Issued
import Mathlib.Data.List.Forall2

/-!
# The contents of a keyset page

A page of rows that were sought is cut to its size, turned round if it was fetched backward, and
given cursors, in this order. What it comes to: the rows beyond the size count for one flag only,
even if they lack sort values; each row within it must have a usable value in every sort column, or
there is no page; and the edges of the page show the rows within it one by one.

* `Order.heldBy_iff_usable` — when a cursor can be made of a row;
* `Row.get?_nodeColumns` — what an edge shows of a row;
* `Page.keyset_page_exact` — when there is a page, and what it is.
-/

namespace RelationSql

variable {γ : Type}

/-! ## Rows within a page -/

namespace Limit

/-- The rows within a page that was fetched with one row more than it holds. -/
def within (limit : Limit) (rows : List Row) : List Row :=
  match limit with
  | .rows count => rows.take (min rows.length (count.toNat - 1))
  | .unlimited => rows

/-- There are more rows than the page holds. -/
def Exceeded (limit : Limit) (rows : List Row) : Prop :=
  match limit with
  | .rows count => count.toNat - 1 < rows.length
  | .unlimited => False

instance (limit : Limit) (rows : List Row) : Decidable (limit.Exceeded rows) :=
  match limit with
  | .rows count => Nat.decLt (count.toNat - 1) rows.length
  | .unlimited => .isFalse id

theorem kept_eq_within (limit : Limit) (rows : List Row) :
    Page.kept limit rows = limit.within rows := by
  cases limit with
  | unlimited => rfl
  | rows count =>
    simp only [Page.kept, pageSize, within, toNat_countPred]
    rw [List.take_eq_take_min, Nat.min_comm]

theorem hasMore_iff_exceeded {limit : Limit} {rows : List Row} :
    Page.hasMore limit rows = true ↔ limit.Exceeded rows := by
  cases limit with
  | unlimited => simp [Page.hasMore, pageSize, Exceeded]
  | rows count => simp [Page.hasMore, pageSize, Exceeded, toNat_countPred]

end Limit

/-! ## Sort values -/

/-- A row has a usable value under the name of every sort column. -/
def Order.UsableIn (order : Order) (row : Row) : Prop :=
  ∀ key ∈ order.columns, ∃ value,
    row.get? (resultName order.table key.column) = some value ∧ value.IsSortValue

theorem Text.int64OfInt?_eq_some {n : Int} {m : Int64} (h : Text.int64OfInt? n = some m) :
    n = m.toInt := by
  rw [int64OfInt?] at h
  split at h
  · next hbounds =>
    obtain rfl := Option.some.inj h
    exact (Int64.toInt_ofInt_of_le hbounds.1 (Int.lt_add_one_of_le hbounds.2)).symm
  · cases h

/-- The value of a sort column comes from a usable one, of which it has the JSON form. -/
theorem Row.get?_of_valueAt {row : Row} {table column : String}
    (h : row.valueAt table column ≠ .null) :
    row.get? (resultName table column) = some (row.valueAt table column).toJson ∧
      (row.valueAt table column).toJson.IsSortValue := by
  rw [valueAt] at h ⊢
  cases hget : row.get? (resultName table column) with
  | none => simp [hget] at h
  | some value =>
    rw [hget, Option.bind_some] at h
    rw [Option.bind_some]
    cases value with
    | integer n =>
      cases hn : Text.int64OfInt? n with
      | none => simp [Scalar.ofRowValue?, hn] at h
      | some m =>
        obtain rfl := Text.int64OfInt?_eq_some hn
        simp only [Scalar.ofRowValue?, hn, Option.map_some, Option.getD_some, Scalar.toJson]
        exact ⟨trivial, .inl ⟨m, rfl⟩⟩
    | text s => exact ⟨rfl, .inr ⟨s, rfl⟩⟩
    | _ => exact absurd rfl h

/-- **When a cursor can be made of a row.** -/
theorem Order.heldBy_iff_usable {order : Order} {row : Row} :
    order.HeldBy row ↔ order.UsableIn row := by
  constructor
  · intro h key hkey
    exact ⟨_, Row.get?_of_valueAt (h key hkey).2⟩
  · exact heldBy_of_sortValue

/-! ## Edges -/

namespace Row

theorem dropFront?_eq_some {front cs rest : List Char} :
    dropFront? front cs = some rest ↔ cs = front ++ rest := by
  induction front generalizing cs with
  | nil => simp [dropFront?]
  | cons c front ih =>
    cases cs with
    | nil => simp [dropFront?]
    | cons d cs =>
      by_cases hcd : c = d
      · simp [dropFront?, hcd, ih]
      · simp [dropFront?, hcd, Ne.symm hcd]

theorem columnOf?_eq_some {label name column : String} :
    columnOf? label name = some column ↔ name = resultName label column := by
  have hname : resultName label column = label ++ "__" ++ column := rfl
  rw [columnOf?, Option.map_eq_some_iff, hname]
  constructor
  · rintro ⟨rest, hrest, rfl⟩
    rw [dropFront?_eq_some] at hrest
    rw [← String.toList_inj, String.toList_append, String.toList_ofList, hrest]
  · rintro rfl
    refine ⟨column.toList, ?_, String.ofList_toList⟩
    rw [dropFront?_eq_some, String.toList_append]

/-- **What an edge shows of a row**: the columns of its relation, under their own names. -/
theorem get?_nodeColumns (row : Row) (label column : String) :
    (row.nodeColumns label).get? column = row.get? (resultName label column) := by
  rw [get?, get?, nodeColumns]
  induction row with
  | nil => rfl
  | cons field row ih =>
    obtain ⟨name, value⟩ := field
    rw [List.lookup_cons, List.filterMap_cons]
    by_cases hname : name = resultName label column
    · subst hname
      simp [columnOf?_eq_some.mpr rfl]
    · rw [beq_eq_false_iff_ne.mpr (Ne.symm hname), ← ih]
      cases hown : columnOf? label name with
      | none => rfl
      | some other =>
        have hne : column ≠ other := by
          rintro rfl
          exact hname (columnOf?_eq_some.mp hown)
        rw [Option.map_some, List.lookup_cons, beq_eq_false_iff_ne.mpr hne]

end Row

/-- An edge shows a row: the columns of the relation with an alias, and a cursor from which the sort
values are read. -/
structure Edge.Shows (edge : Edge) (label : String) (order : Order) (row : Row) : Prop where
  /-- its columns are those of the row that start with the alias -/
  columns : ∀ column, edge.node.get? column = row.get? (resultName label column)
  /-- its cursor holds the values of the row in the sort columns, in their order -/
  cursor : order.columns ≠ [] → (order.columns.map OrderColumn.column).Nodup →
    ∃ cursor, Cursor.decode edge.cursor = .ok cursor ∧
      List.Forall₂ (fun key entry => entry.1 = key.column ∧
        row.get? (resultName order.table key.column) = some entry.2.toJson)
        order.columns cursor.entries

theorem Page.edgeOf_shows {label : String} {order : Order} {row : Row} (h : order.HeldBy row) :
    (edgeOf label order row).Shows label order row where
  columns column := row.get?_nodeColumns label column
  cursor hne hnodup := by
    refine ⟨order.cursorOf row, ?_, ?_⟩
    · apply Cursor.decode_encode
      · simpa [Order.cursorOf] using hne
      · rw [Order.cursorOf, List.map_map]
        exact hnodup
      · exact fun entry _ => entry.2.recoverable
    · rw [Order.cursorOf, List.forall₂_map_right_iff, List.forall₂_same]
      exact fun key hkey => ⟨rfl, (Row.get?_of_valueAt (h key hkey).2).1⟩

/-! ## Pages -/

namespace Page

/-- A page presents the rows that were fetched for it. -/
structure Presents (page : Page) (label : String) (paging : KeysetPaging) (rows : List Row) :
    Prop where
  /-- its edges show the rows within it, from the last one if it was fetched backward -/
  edges : List.Forall₂ (fun row edge => Edge.Shows edge label paging.order row)
    (if paging.backward then (paging.limit.within rows).reverse else paging.limit.within rows)
    page.edges
  /-- rows follow a forward page if more were fetched than it holds -/
  next : page.info.hasNextPage = true ↔ paging.backward = false ∧ paging.limit.Exceeded rows
  /-- and precede a backward one -/
  previous : page.info.hasPreviousPage = true ↔ paging.backward = true ∧ paging.limit.Exceeded rows
  /-- it starts at its first edge, if it has one -/
  start : page.info.startCursor = page.edges.head?.map Edge.cursor
  /-- and ends at its last -/
  finish : page.info.endCursor = page.edges.getLast?.map Edge.cursor

/-- A page of rows that hold their sort values presents them. -/
theorem presents_ofKeyset (label : String) {paging : KeysetPaging} {rows : List Row}
    (hheld : ∀ row ∈ paging.limit.within rows, paging.order.HeldBy row) :
    ∃ page, ofKeyset label paging rows = .ok page ∧ page.Presents label paging rows := by
  obtain ⟨way, hway⟩ : ∃ way : Way, paging.backward = way.isBackward := by
    cases paging.backward
    · exact ⟨.forward, rfl⟩
    · exact ⟨.backward, rfl⟩
  have hpage := ofKeyset_eq_ok label hway (Limit.kept_eq_within _ rows ▸ hheld)
  rw [Limit.kept_eq_within] at hpage
  have hshows : List.Forall₂ (fun row edge => Edge.Shows edge label paging.order row)
      (paging.limit.within rows) ((paging.limit.within rows).map (edgeOf label paging.order)) := by
    rw [List.forall₂_map_right_iff, List.forall₂_same]
    exact fun row hrow => edgeOf_shows (hheld row hrow)
  refine ⟨_, hpage, ?_, ?_, ?_, rfl, rfl⟩
  · rw [hway]
    cases way with
    | forward => exact hshows
    | backward => exact List.forall₂_reverse_iff.mpr hshows
  · rw [hway, ← Limit.hasMore_iff_exceeded]
    cases way <;> simp [Way.pageOf, Way.isBackward, ofEdges]
  · rw [hway, ← Limit.hasMore_iff_exceeded]
    cases way <;> simp [Way.pageOf, Way.isBackward, ofEdges]

/-- A row without an edge leaves no page. -/
theorem ofKeyset_eq_error (label : String) {paging : KeysetPaging} {rows : List Row} {row : Row}
    (hrow : row ∈ paging.limit.within rows) (h : ¬paging.order.HeldBy row) :
    ∃ fault, ofKeyset label paging rows = .error fault := by
  cases hpage : ofKeyset label paging rows with
  | error fault => exact ⟨fault, rfl⟩
  | ok page =>
    obtain ⟨edges, hedges, -⟩ := bind_eq_ok hpage
    rw [← Limit.kept_eq_within] at hrow
    have hmem : row ∈ if paging.backward then (kept paging.limit rows).reverse
        else kept paging.limit rows := by
      split
      · exact List.mem_reverse.mpr hrow
      · exact hrow
    -- every row within a page that was made has an edge
    obtain ⟨edge, hedge⟩ := (exists_of_mapM_eq_ok hedges).1 row hmem
    exact absurd (heldBy_of_keysetEdge hedge) h

/-- **When there is a page of sought rows, and what it is.** The cursors fail exactly if a row
within the page lacks a usable value in a sort column, whatever the rows beyond it hold; otherwise
the page presents the rows. -/
theorem keyset_page_exact (r : Relation γ) (paging : KeysetPaging) (rows : List Row) :
    ((∃ fault, ofRows r (.keyset paging) rows = .error (.invalidCursor fault)) ↔
      ∃ row ∈ paging.limit.within rows, ¬paging.order.UsableIn row) ∧
    ((∀ row ∈ paging.limit.within rows, paging.order.UsableIn row) →
      ∃ page, ofRows r (.keyset paging) rows = .ok page ∧ page.Presents r.label paging rows) := by
  have hmade : (∀ row ∈ paging.limit.within rows, paging.order.UsableIn row) →
      ∃ page, ofRows r (.keyset paging) rows = .ok page ∧ page.Presents r.label paging rows := by
    intro husable
    obtain ⟨page, hpage, hpresents⟩ := presents_ofKeyset r.label fun row hrow =>
      Order.heldBy_iff_usable.mpr (husable row hrow)
    exact ⟨page, by rw [ofRows, hpage]; rfl, hpresents⟩
  refine ⟨⟨?_, ?_⟩, hmade⟩
  · rintro ⟨fault, hfault⟩
    by_contra hnone
    obtain ⟨page, hpage, -⟩ := hmade fun row hrow =>
      by_contra fun hunusable => hnone ⟨row, hrow, hunusable⟩
    rw [hpage] at hfault
    cases hfault
  · rintro ⟨row, hrow, hunusable⟩
    obtain ⟨fault, hfault⟩ := ofKeyset_eq_error r.label hrow
      (mt Order.heldBy_iff_usable.mp hunusable)
    exact ⟨fault, by rw [ofRows, hfault]; rfl⟩

/-- Users of whom the last one has no number. -/
def someUnnumbered : List Row := [
  [("users__id", .integer 3), ("teams__id", .integer 7)],
  [("users__id", .integer 2), ("users__name", .text "Ada")],
  [("users__id", .null)]]

/-- Two of three rows, fetched from the end: the row beyond the page holds no sort value and is not
missed. Without a limit it is. -/
theorem keyset_page_of_unnumbered :
    let order : Order := ⟨"users", [⟨"id", .desc⟩]⟩
    let r := usersBy [⟨"id", .asc⟩]
    (∃ page first last, ofRows r (.keyset ⟨.rows 3, order, none, true⟩) someUnnumbered = .ok page ∧
      page.edges = [first, last] ∧ first.node.get? "name" = some (.text "Ada") ∧
      page.info.hasPreviousPage = true ∧
      ∃ cursor, Cursor.decode last.cursor = .ok cursor ∧ cursor.entries = [("id", .integer 3)]) ∧
    ∃ fault, ofRows r (.keyset ⟨.unlimited, order, none, true⟩) someUnnumbered =
      .error (.invalidCursor fault) := by
  intro order r
  have husable : ∀ row ∈ (Limit.rows 3).within someUnnumbered, order.UsableIn row := by
    intro row hrow key hkey
    obtain rfl := List.mem_singleton.mp hkey
    rcases hrow with _ | ⟨_, _ | ⟨_, ⟨⟩⟩⟩
    · exact ⟨_, rfl, .inl ⟨3, rfl⟩⟩
    · exact ⟨_, rfl, .inl ⟨2, rfl⟩⟩
  refine ⟨?_, ?_⟩
  · obtain ⟨page, hpage, hpresents⟩ :=
      (keyset_page_exact r ⟨.rows 3, order, none, true⟩ someUnnumbered).2 husable
    obtain ⟨first, _, hfirst, hrest, hedges⟩ := List.forall₂_cons_left_iff.mp hpresents.edges
    obtain ⟨last, _, hlast, hnil, rfl⟩ := List.forall₂_cons_left_iff.mp hrest
    obtain rfl := List.forall₂_nil_left_iff.mp hnil
    obtain ⟨cursor, hdecode, hentries⟩ := hlast.cursor (by decide) (by decide)
    obtain ⟨⟨column, value⟩, _, ⟨hcolumn, hvalue⟩, hnone, hall⟩ :=
      List.forall₂_cons_left_iff.mp hentries
    obtain rfl := List.forall₂_nil_left_iff.mp hnone
    -- the value is determined by its JSON form
    have hthree : value = .integer 3 := by
      have hback : Scalar.ofJson? (.integer 3) = some value :=
        (Option.some.inj hvalue) ▸ value.recoverable
      exact (Option.some.inj hback).symm
    refine ⟨page, first, last, hpage, hedges, hfirst.columns "name", ?_, cursor, hdecode, ?_⟩
    · exact hpresents.previous.mpr ⟨rfl, by decide⟩
    · rw [hall, hthree]
      exact congrArg (fun name => [(name, Scalar.integer 3)]) hcolumn
  · refine (keyset_page_exact r ⟨.unlimited, order, none, true⟩ someUnnumbered).1.mpr
      ⟨_, .tail _ (.tail _ (.head _)), fun husable => ?_⟩
    obtain ⟨value, hvalue, hsort⟩ := husable ⟨"id", .desc⟩ List.mem_cons_self
    obtain rfl : .null = value := Option.some.inj hvalue
    rcases hsort with ⟨_, h⟩ | ⟨_, h⟩ <;> cases h

end Page

end RelationSql
