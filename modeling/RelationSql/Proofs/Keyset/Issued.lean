import RelationSql.Plan.Validation
import RelationSql.Proofs.Cursor.Codec
import RelationSql.Proofs.Keyset.Request

/-!
# The cursors that pages issue

The cursor of an edge is written from a row and read when a request goes on from it. A page comes
into being only if all its rows hold their sort values (`heldBy_of_keysetEdge`), so that the cursor
lacks nothing; but a sort key may name a column twice, and then its cursors do too and are not read.

* `keysetPaging_eq_ok` (of requests) — a cursor without repeated columns is accepted, on both ways;
* `keysetPaging_malformed` — one with a repeated column is refused;
* `issued_cursor_accepted_iff` — what becomes of the cursors of a page.
-/

namespace RelationSql

variable {γ : Type}

/-! ## Pages come from rows that hold their sort values -/

/-- The results of a traversal are results of its steps. -/
theorem exists_of_mapM_eq_ok {α β ε : Type} {f : α → Except ε β} {xs : List α} {ys : List β}
    (h : xs.mapM f = .ok ys) :
    (∀ x ∈ xs, ∃ y, f x = .ok y) ∧ ∀ y ∈ ys, ∃ x ∈ xs, f x = .ok y := by
  induction xs generalizing ys with
  | nil =>
    cases h
    simp
  | cons x xs ih =>
    rw [List.mapM_cons] at h
    obtain ⟨first, hfirst, h⟩ := bind_eq_ok h
    obtain ⟨rest, hrest, h⟩ := bind_eq_ok h
    cases h
    obtain ⟨hsteps, hresults⟩ := ih hrest
    refine ⟨?_, ?_⟩
    · rintro y (_ | ⟨_, hy⟩)
      · exact ⟨first, hfirst⟩
      · exact hsteps y hy
    · rintro y (_ | ⟨_, hy⟩)
      · exact ⟨x, List.mem_cons_self, hfirst⟩
      · obtain ⟨z, hz, hfz⟩ := hresults y hy
        exact ⟨z, List.mem_cons_of_mem _ hz, hfz⟩

theorem Order.HeldBy.of_directed {order : Order} {backward : Bool} {row : Row}
    (h : (order.directed backward).HeldBy row) : order.HeldBy row := by
  cases backward with
  | false => exact h
  | true => exact fun key hkey => h key.reversed (List.mem_map_of_mem hkey)

namespace Page

theorem valueAt_ne_null_of_sortEntry {row : Row} {table : String} {key : OrderColumn}
    {entry : String × Scalar} (h : sortEntry row table key = .ok entry) :
    row.valueAt table key.column ≠ .null := by
  rw [sortEntry] at h
  rw [Row.valueAt]
  split at h
  · cases h
  · cases h
  · next value hnull hvalue =>
    rw [hvalue]
    exact hnull

/-- **A row with an edge holds its sort values.** -/
theorem heldBy_of_keysetEdge {label : String} {order : Order} {row : Row} {edge : Edge}
    (h : keysetEdge label order row = .ok edge) : order.HeldBy row := by
  obtain ⟨cursor, hcursor, -⟩ := bind_eq_ok h
  obtain ⟨entries, hentries, -⟩ := map_eq_ok hcursor
  intro key hkey
  obtain ⟨entry, hentry⟩ := (exists_of_mapM_eq_ok hentries).1 key hkey
  exact ⟨Scalar.recoverable _, valueAt_ne_null_of_sortEntry hentry⟩

/-- **The edges of a page** are those of fetched rows that hold their sort values. -/
theorem exists_row_of_mem_edges {r : Relation γ} {paging : KeysetPaging} {rows : List Row}
    {page : Page} {edge : Edge} (h : ofRows r (.keyset paging) rows = .ok page)
    (hedge : edge ∈ page.edges) :
    ∃ row ∈ rows, paging.order.HeldBy row ∧ edge = edgeOf r.label paging.order row := by
  rw [ofRows] at h
  obtain ⟨edges, hedges, hpage⟩ := bind_eq_ok (mapError_eq_ok h)
  cases hpage
  obtain ⟨row, hrow, hmade⟩ := (exists_of_mapM_eq_ok hedges).2 edge hedge
  have hheld := heldBy_of_keysetEdge hmade
  refine ⟨row, ?_, hheld, ?_⟩
  · split at hrow
    · exact mem_of_mem_kept (List.mem_reverse.mp hrow)
    · exact mem_of_mem_kept hrow
  · rw [keysetEdge_eq_ok r.label hheld, Except.ok.injEq] at hmade
    exact hmade.symm

end Page

/-! ## What becomes of a cursor -/

namespace Relation

/-- A page that is sought follows the sort key of its relation, which has a column. -/
theorem order_of_keysetPaging {r : Relation γ} {settings : PageSettings} {paging : KeysetPaging}
    (h : r.keysetPaging settings = .ok paging) :
    ∃ order, r.sortKey? = some order ∧ order.columns ≠ [] ∧
      paging.order = order.directed paging.backward := by
  obtain ⟨args, -, h⟩ := bind_eq_ok h
  obtain ⟨order, horder, h⟩ := bind_eq_ok h
  rw [requireSortKey] at horder
  split at horder
  · next hkey =>
    cases horder
    split at h
    · cases h
    · next hne =>
      obtain ⟨request, -, h⟩ := bind_eq_ok h
      obtain ⟨seek, -, h⟩ := bind_eq_ok h
      cases h
      exact ⟨order, hkey, hne, rfl⟩
  · cases horder

theorem paging_eq_keyset {r : Relation γ} (settings : PageSettings)
    (hmode : r.pagingMode? = some .keyset) :
    r.paging settings = (r.keysetPaging settings).map .keyset := by
  rw [Relation.paging, hmode]

theorem mode_of_paging {r : Relation γ} {settings : PageSettings} {paging : KeysetPaging}
    (h : r.paging settings = .ok (.keyset paging)) :
    r.pagingMode? = some .keyset ∧ r.keysetPaging settings = .ok paging := by
  rw [Relation.paging] at h
  split at h
  · next hmode =>
    obtain ⟨found, hfound, h⟩ := map_eq_ok h
    cases h
    exact ⟨hmode, hfound⟩
  · obtain ⟨found, -, h⟩ := map_eq_ok h
    cases h
  · cases h

/-- **A cursor with a repeated column is refused**, whatever the values in it. -/
theorem keysetPaging_malformed {r : Relation γ} {way : Way} {size : Option UInt64} {order : Order}
    {row : Row} (settings : PageSettings) (hkey : r.sortKey? = some order)
    (hne : order.columns ≠ []) (hrepeated : ¬(order.columns.map OrderColumn.column).Nodup)
    (hasks : r.Asks way size (some (order.cursorOf row).encode)) :
    r.keysetPaging settings = .error (.invalidCursor .malformed) := by
  obtain ⟨args, hargs, hrequest⟩ := hasks
  have hformed : ¬(order.cursorOf row).WellFormed := by
    intro h
    apply hrepeated
    have hnodup := h.nodup
    rwa [Order.cursorOf, List.map_map] at hnodup
  have hentries : (order.cursorOf row).entries ≠ [] := by
    simpa [Order.cursorOf] using hne
  have hdecode := Cursor.decode_encode_of_not_wellFormed hformed
  rw [if_neg hentries] at hdecode
  have hseek : seekAfter (order.directed way.isBackward).columns (order.cursorOf row).encode =
      .error .malformed := by
    simp only [seekAfter, hdecode, bind, Except.bind]
  simp [keysetPaging, pageArgs, hargs, requireSortKey, hkey, hrequest, hseek, if_neg hne,
    Except.mapError, bind, Except.bind, Functor.map, Except.map]

end Relation

/-- **What becomes of the cursors of a page.** Each of them stands for a fetched row. A request that
goes on from it, on either way and whatever else it asks for, is the one for the rows behind that
row if the sort key names no column twice, and is refused otherwise. -/
theorem issued_cursor_accepted_iff {r : Relation γ} {settings : PageSettings}
    {paging : KeysetPaging} {rows : List Row} {page : Page} {edge : Edge}
    (hpaging : r.paging settings = .ok (.keyset paging))
    (hpage : Page.ofRows r (.keyset paging) rows = .ok page) (hedge : edge ∈ page.edges) :
    ∃ order, r.sortKey? = some order ∧ ∃ row ∈ rows, edge = Page.edgeOf r.label order row ∧
      ∀ (way : Way) (size : Option UInt64) (args : Args) (later : PageSettings),
        (r.withArgs args).Asks way size (some edge.cursor) →
        ((order.columns.map OrderColumn.column).Nodup →
          (r.withArgs args).paging later = .ok (.keyset {
            limit := .forPage (later.pageSize size r.limit)
            order := order.directed way.isBackward
            seek := some (Seek.behind (order.directed way.isBackward).columns (order.tuple row))
            backward := way.isBackward })) ∧
        (¬(order.columns.map OrderColumn.column).Nodup →
          (r.withArgs args).paging later = .error (.invalidCursor .malformed)) := by
  obtain ⟨hmode, hkeyset⟩ := Relation.mode_of_paging hpaging
  obtain ⟨order, hkey, hne, hdirected⟩ := Relation.order_of_keysetPaging hkeyset
  obtain ⟨row, hrow, hheld, hmade⟩ := Page.exists_row_of_mem_edges hpage hedge
  -- neither the cursor nor what a row has to hold depends on the direction of the page
  have hedge' : edge = Page.edgeOf r.label order row := by
    rw [hmade, Page.edgeOf, Page.edgeOf, hdirected, Order.cursorOf_directed]
  have hheld' : order.HeldBy row := (hdirected ▸ hheld).of_directed
  refine ⟨order, hkey, row, hrow, hedge', ?_⟩
  intro way size args later hasks
  have hmode' : (r.withArgs args).pagingMode? = some .keyset := hmode
  refine ⟨fun hnodup => ?_, fun hrepeated => ?_⟩
  · have hbehind : (r.withArgs args).Asks way size
        ([row].getLast?.map fun row => (order.cursorOf row).encode) := by
      rw [hedge'] at hasks
      exact hasks
    have haccepted := Relation.keysetPaging_eq_ok (r := r.withArgs args) later hkey hne hnodup
      (fun other hother => List.mem_singleton.mp hother ▸ hheld') hbehind
    rw [Relation.paging_eq_keyset later hmode', haccepted, ← order.tuple_directed way.isBackward]
    rfl
  · have hrefused := Relation.keysetPaging_malformed (r := r.withArgs args) later hkey hne
      hrepeated (hedge' ▸ hasks)
    rw [Relation.paging_eq_keyset later hmode', hrefused]
    rfl

/-- Users in pages of one, by a sort key. -/
def usersBy (key : List OrderColumn) : Relation Unit where
  name := "users"
  table := "accounts"
  label := "users"
  args := [("first", .integer 1)]
  columns := [⟨"id", "id"⟩]
  sortKey := some key
  paginate := true

/-- Two users who share a name. -/
def namesakes : List Row := [
  [("users__name", .text "Ada"), ("users__id", .integer 1)],
  [("users__name", .text "Ada"), ("users__id", .integer 2)]]

/-- The page before the first of two namesakes can be asked for. -/
theorem issued_cursor_accepted_of_namesakes :
    let order : Order := ⟨"users", [⟨"name", .desc⟩, ⟨"id", .asc⟩]⟩
    let r := usersBy order.columns
    ∃ (paging later : KeysetPaging) (page : Page) (edge : Edge),
      r.paging {} = .ok (.keyset paging) ∧
      Page.ofRows r (.keyset paging) namesakes = .ok page ∧ edge ∈ page.edges ∧
      (r.withArgs [("last", .integer 3), ("before", .text edge.cursor)]).paging {} =
        .ok (.keyset later) ∧
      later.backward = true ∧ ∃ row ∈ namesakes,
        later.seek = some (Seek.behind [⟨"name", .asc⟩, ⟨"id", .desc⟩] (order.tuple row)) := by
  intro order r
  have hpaging : r.paging {} = .ok (.keyset ⟨.rows 2, order, none, false⟩) := rfl
  obtain ⟨page, hpage, edge, hedge⟩ : ∃ page,
      Page.ofRows r (.keyset ⟨.rows 2, order, none, false⟩) namesakes = .ok page ∧
      ∃ edge, edge ∈ page.edges :=
    ⟨_, rfl, _, List.mem_cons_self⟩
  obtain ⟨declared, hdeclared, row, hrow, -, hbecomes⟩ :=
    issued_cursor_accepted_iff hpaging hpage hedge
  obtain rfl : order = declared := Option.some.inj hdeclared
  have hasks : (r.withArgs [("last", .integer 3), ("before", .text edge.cursor)]).Asks .backward
      (some 3) (some edge.cursor) := ⟨_, rfl, rfl⟩
  have hlater := (hbecomes .backward (some 3) _ {} hasks).1 (by decide)
  exact ⟨_, _, page, edge, hpaging, hpage, hedge, hlater, rfl, row, hrow, rfl⟩

/-- A sort key that names a column twice passes all checks, and the page issues a cursor that is
refused. -/
theorem issued_cursor_refused :
    let r := usersBy [⟨"id", .asc⟩, ⟨"id", .asc⟩]
    Plan.validate ⟨r, []⟩ = .ok () ∧
    ∃ (paging : KeysetPaging) (page : Page) (edge : Edge),
      r.paging {} = .ok (.keyset paging) ∧
      Page.ofRows r (.keyset paging) namesakes = .ok page ∧ edge ∈ page.edges ∧
      (r.withArgs (r.args.set "after" (.text edge.cursor))).paging {} =
        .error (.invalidCursor .malformed) := by
  intro r
  let order : Order := ⟨"users", [⟨"id", .asc⟩, ⟨"id", .asc⟩]⟩
  have hpaging : r.paging {} = .ok (.keyset ⟨.rows 2, order, none, false⟩) := rfl
  obtain ⟨page, hpage, edge, hedge⟩ : ∃ page,
      Page.ofRows r (.keyset ⟨.rows 2, order, none, false⟩) namesakes = .ok page ∧
      ∃ edge, edge ∈ page.edges :=
    ⟨_, rfl, _, List.mem_cons_self⟩
  have hargs : PageArgs.ofArgs r.args = .ok { first := some 1 } := rfl
  have hasks := (Relation.asks_forward hargs).set_cursor edge.cursor
  -- the text of the cursor plays no part, only that it comes from a row
  obtain ⟨row, -, -, hmade⟩ := Page.exists_row_of_mem_edges hpage hedge
  refine ⟨rfl, _, page, edge, hpaging, hpage, hedge, ?_⟩
  rw [hmade] at hasks ⊢
  have hrefused := Relation.keysetPaging_malformed {} rfl (by decide) (by decide) hasks
  rw [Relation.paging_eq_keyset {} rfl]
  exact congrArg (Except.map Paging.keyset) hrefused

end RelationSql
