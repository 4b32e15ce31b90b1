import RelationSql.Proofs.Keyset.Walk

/-!
# Paging by offset, as a whole

Turning pages forward from the start sees every row of a table once, in the order of the table, and
stops. The cursor of a row is its index, whichever page the row is on; a request that goes on from
it skips the rows up to that index (`offsetPaging_eq_ok`). Unlike a page that is sought, a page that
is counted knows whether rows precede it.
-/

namespace RelationSql

variable {γ : Type}

/-! ## Cursors -/

/-- The cursor of the row before the one with an index; there is none before the first. -/
def OffsetCursor.before? : Nat → Option String
  | 0 => none
  | index + 1 => some (encode (.ofNat index))

/-- **Going on from a row** skips the rows up to it. -/
theorem OffsetCursor.skip_before? {index : Nat} (h : index < UInt64.size) :
    ∃ skipped, (before? index).mapM decode = .ok skipped ∧
      (skipped.map countSucc).getD 0 = .ofNat index := by
  cases index with
  | zero => exact ⟨none, rfl, rfl⟩
  | succ index =>
    refine ⟨some (.ofNat index), ?_, ?_⟩
    · simp [before?, decode_encode]
    · have hindex : (UInt64.ofNat index).toNat = index := UInt64.toNat_ofNat_of_lt (by omega)
      rw [Option.map_some, Option.getD_some, countSucc, hindex, if_pos h, UInt64.ofNat_add]
      rfl

/-! ## Edges -/

namespace Page

/-- The edges of counted rows, each with the index of its row. -/
theorem offsetEdges_eq (label : String) (index : Nat) (rows : List Row) :
    offsetEdges label (.ofNat index) rows =
      rows.mapIdx fun i row => offsetEdge label (.ofNat (index + i)) row := by
  induction rows generalizing index with
  | nil => rfl
  | cons row rows ih =>
    have hnext : UInt64.ofNat index + 1 = .ofNat (index + 1) := by
      rw [UInt64.ofNat_add]
      rfl
    rw [offsetEdges, hnext, ih, List.mapIdx_cons, Nat.add_zero]
    congr 2
    funext i row
    rw [Nat.add_assoc, Nat.add_comm 1 i]

/-- Counting goes on behind some rows. -/
theorem offsetEdges_append (label : String) (index : Nat) (rows more : List Row) :
    offsetEdges label (.ofNat index) (rows ++ more) =
      offsetEdges label (.ofNat index) rows ++
        offsetEdges label (.ofNat (index + rows.length)) more := by
  rw [offsetEdges_eq, offsetEdges_eq, offsetEdges_eq, List.mapIdx_append]
  congr 2
  funext i row
  rw [Nat.add_assoc, Nat.add_comm i]

/-- The far end of a page is the row before the next one. -/
theorem endCursor_offsetEdges (label : String) (index : Nat) {rows : List Row} (h : rows ≠ []) :
    (offsetEdges label (.ofNat index) rows).getLast?.map Edge.cursor =
      OffsetCursor.before? (index + rows.length) := by
  obtain ⟨front, last, rfl⟩ := List.eq_nil_or_concat' rows |>.resolve_left h
  rw [offsetEdges_eq, List.mapIdx_append, List.length_append, List.length_singleton]
  simp [offsetEdge, OffsetCursor.before?, ← Nat.add_assoc]

end Page

/-! ## Pages -/

namespace Relation

/-- **A request behind a row** is interpreted as the page that skips the rows up to it. -/
theorem offsetPaging_eq_ok {r : Relation γ} {size : Option UInt64} {index : Nat}
    (settings : PageSettings) (hmode : r.pagingMode? = some .offset) (hindex : index < UInt64.size)
    (hasks : r.Asks .forward size (OffsetCursor.before? index)) :
    ∃ order, r.offsetPaging settings = .ok {
      limit := .forPage (settings.pageSize size r.limit)
      offset := .ofNat index
      order } := by
  obtain ⟨args, hargs, hrequest⟩ := hasks
  obtain ⟨order, horder⟩ := Option.isSome_iff_exists.mp (isSome_orderBy? hmode)
  rw [PageArgs.keysetRequest_eq_ok] at hrequest
  rcases hrequest with ⟨-, -, h⟩ | ⟨hlast, hbefore, h⟩
  · cases h
  · simp only [PageRequest.mk.injEq] at h
    obtain ⟨-, hsize, hafter⟩ := h
    obtain ⟨skipped, hskipped, hoffset⟩ := OffsetCursor.skip_before? hindex
    rw [hafter] at hskipped
    refine ⟨order, ?_⟩
    simp [offsetPaging, pageArgs, hargs, hlast, hbefore, offsetOrder, horder, hskipped, hoffset,
      hsize, Except.mapError, bind, Except.bind, pure, Except.pure]

end Relation

namespace Table

/-- **One page.** A request whose cursor is that of the row before an index gets the first rows from
the index on, and is told whether there are rows on either side. -/
theorem exists_offsetPage {t : Table} {r : Relation γ} {args : Args} {size : Option UInt64}
    {index : Nat} (settings : PageSettings) (hmode : r.pagingMode? = some .offset)
    (hindex : index < UInt64.size)
    (hasks : (r.withArgs args).Asks .forward size (OffsetCursor.before? index)) :
    ∃ page, t.page settings (r.withArgs args) = .ok page ∧
      page.edges = Page.offsetEdges r.label (.ofNat index)
        (Page.kept (.forPage (settings.pageSize size r.limit)) (t.rows.drop index)) ∧
      page.info.hasNextPage =
        Page.hasMore (.forPage (settings.pageSize size r.limit)) (t.rows.drop index) ∧
      (page.info.hasPreviousPage = true ↔ 0 < index) ∧
      page.info.endCursor = page.edges.getLast?.map Edge.cursor := by
  obtain ⟨order, hpaging⟩ :=
    Relation.offsetPaging_eq_ok (r := r.withArgs args) settings hmode hindex hasks
  have hcount : (UInt64.ofNat index).toNat = index := UInt64.toNat_ofNat_of_lt hindex
  have hpage : t.page settings (r.withArgs args) = .ok (Page.ofOffset (r.withArgs args)
      ⟨.forPage (settings.pageSize size r.limit), .ofNat index, order⟩
      ((Limit.forPage (settings.pageSize size r.limit)).cut
        (t.rows.drop (UInt64.ofNat index).toNat))) := by
    rw [page, Relation.paging, show (r.withArgs args).pagingMode? = some .offset from hmode,
      hpaging]
    rfl
  rw [hcount] at hpage
  refine ⟨_, hpage, ?_, ?_, ?_, rfl⟩
  · exact congrArg (Page.offsetEdges r.label (.ofNat index)) (Page.kept_cut _ _)
  · exact Page.hasMore_cut _ _
  · refine Iff.trans decide_eq_true_iff ?_
    rw [UInt64.lt_iff_toNat_lt, hcount]
    rfl

/-! ## Walks -/

/-- **A walk visits every row from an index on**, each once and in order. The induction is on the
number of these rows: a page that is not the last one takes at least one of them. -/
theorem exists_offsetWalk {t : Table} {settings : PageSettings} {r : Relation γ}
    {size : Option UInt64} (hmode : r.pagingMode? = some .offset)
    (hrows : t.rows.length < UInt64.size)
    (hpos : ∀ n, (Limit.forPage (settings.pageSize size r.limit)).pageSize = some n → 0 < n.toNat)
    {args : Args} {index : Nat} (hindex : index ≤ t.rows.length)
    (hasks : (r.withArgs args).Asks .forward size (OffsetCursor.before? index)) :
    ∃ pages, t.Walk settings .forward (r.withArgs args) pages ∧
      pages.flatMap Page.edges = Page.offsetEdges r.label (.ofNat index) (t.rows.drop index) ∧
      ∀ k page, pages[k]? = some page → (page.info.hasPreviousPage = true ↔ 0 < index + k) := by
  induction hcount : t.rows.length - index using Nat.strongRecOn generalizing args index with
  | ind count ih =>
    obtain ⟨page, hpage, hedges, hnext, hprevious, hend⟩ :=
      exists_offsetPage settings hmode (t := t) (by omega) hasks
    cases hmore : page.info.hasNextPage with
    | false =>
      rw [hmore] at hnext
      refine ⟨[page], .last hpage hmore, ?_, ?_⟩
      · rw [List.flatMap_singleton, hedges, kept_of_not_hasMore hnext.symm]
      · intro k other hother
        cases k with
        | zero =>
          cases hother
          exact hprevious
        | succ k => cases hother
    | true =>
      rw [hmore] at hnext
      obtain ⟨n, hsize, hlt, hkept⟩ := exists_size_of_hasMore hnext.symm
      have hn := hpos n hsize
      rw [List.length_drop] at hlt
      have hlength : ((t.rows.drop index).take n.toNat).length = n.toNat := by
        rw [List.length_take, List.length_drop]
        omega
      -- the far end of the page is the row before the rest
      have hcursor : page.info.endCursor = OffsetCursor.before? (index + n.toNat) := by
        rw [hend, hedges, hkept, Page.endCursor_offsetEdges, hlength]
        exact List.ne_nil_of_length_pos (by omega)
      obtain ⟨m, hm⟩ : ∃ m, index + n.toNat = m + 1 := ⟨index + n.toNat - 1, by omega⟩
      rw [hm] at hcursor
      have hasks' : (r.withArgs (args.set "after" (.text (OffsetCursor.encode (.ofNat m))))).Asks
          .forward size (OffsetCursor.before? (m + 1)) := hasks.set_cursor _
      obtain ⟨pages, hwalk, hrest, hbehind⟩ :=
        ih (t.rows.length - (m + 1)) (by omega) (by omega) hasks' rfl
      refine ⟨page :: pages, .turn hpage hmore hcursor hwalk, ?_, ?_⟩
      · have hcounted := Page.offsetEdges_append r.label index ((t.rows.drop index).take n.toNat)
          ((t.rows.drop index).drop n.toNat)
        rw [List.take_append_drop, List.drop_drop, hlength, hm] at hcounted
        rw [List.flatMap_cons, hedges, hkept, hrest, hcounted]
      · intro k other hother
        cases k with
        | zero =>
          cases hother
          exact hprevious
        | succ k =>
          rw [hbehind k other hother]
          omega

/-- **Offset paging loses and repeats nothing.** Every row is seen once, in order, with its index as
its cursor, and all pages but the first know that rows precede them. -/
theorem offset_walk_visits_every_row (t : Table) (settings : PageSettings) (r : Relation γ)
    {first : Option UInt64} (hmode : r.pagingMode? = some .offset)
    (hrows : t.rows.length < UInt64.size) (hargs : PageArgs.ofArgs r.args = .ok { first })
    (hlimit : ∀ count, Limit.forPage (settings.pageSize first r.limit) = .rows count →
      2 ≤ count) :
    ∃ pages : List Page, t.Walk settings .forward r pages ∧
      (pages.flatMap Page.edges = t.rows.mapIdx fun i row =>
        { cursor := OffsetCursor.encode (.ofNat i)
          node := (row.nodeColumns r.label).erase totalColumn }) ∧
      ∀ k page, pages[k]? = some page → (page.info.hasPreviousPage = true ↔ 0 < k) := by
  have hasks : (r.withArgs r.args).Asks .forward first (OffsetCursor.before? 0) :=
    Relation.asks_forward hargs
  obtain ⟨pages, hwalk, hedges, hprevious⟩ := exists_offsetWalk hmode hrows
    (Limit.pageSize_pos hlimit) (Nat.zero_le t.rows.length) hasks
  refine ⟨pages, hwalk, ?_, ?_⟩
  · rw [hedges, Page.offsetEdges_eq]
    simp only [Nat.zero_add, List.drop_zero]
    rfl
  · simpa only [Nat.zero_add] using hprevious

/-- Three accounts in the order in which they were opened, with their number. -/
def countedAccounts : Table where
  collation := .standard
  rows := [
    [("users__id", .integer 7), ("users__$total", .integer 3)],
    [("users__id", .integer 4), ("users__$total", .integer 3)],
    [("users__id", .integer 9), ("users__$total", .integer 3)]]

/-- The accounts, two at a time. -/
theorem offset_walk_of_countedAccounts :
    let r : Relation Unit := {
      name := "users", table := "accounts", label := "users", args := [("first", .integer 2)]
      orderBy := some [⟨"opened", .asc⟩], paginate := true }
    ∃ pages : List Page, countedAccounts.Walk {} .forward r pages ∧
      (pages.flatMap Page.edges).map Edge.node =
        [[("id", .integer 7)], [("id", .integer 4)], [("id", .integer 9)]] ∧
      ∀ k page, pages[k]? = some page → (page.info.hasPreviousPage = true ↔ 0 < k) := by
  intro r
  have hargs : PageArgs.ofArgs r.args = .ok { first := some 2 } := rfl
  obtain ⟨pages, hwalk, hedges, hprevious⟩ := offset_walk_visits_every_row countedAccounts {} r
    rfl (by decide) hargs (by rintro count ⟨⟩; decide)
  have hid : Row.columnOf? "users" "users__id" = some "id" := by decide
  have htotal : Row.columnOf? "users" "users__$total" = some totalColumn := by decide
  refine ⟨pages, hwalk, ?_, hprevious⟩
  rw [hedges]
  simp [countedAccounts, r, Row.nodeColumns, Row.erase, hid, htotal, totalColumn]

end Table

end RelationSql
