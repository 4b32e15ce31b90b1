import RelationSql.Proofs.Keyset.Request

/-!
# Turning pages

A *walk* asks for one page after the other: as long as a page tells that more rows follow on the
way, the next request goes on from the cursor at its far end. A walk is finite by definition, and
each of its requests has been answered with a page; so its existence says that the process succeeds
and stops.

* `exists_walk` — a walk on either way visits the rows behind its cut, each once and in order;
* `Walk.getElem?_eq_pageOf` — which rows make the page with a number, when pages have a size.

From these, forward paging loses and repeats nothing, and backward paging mirrors it page by page.
-/

namespace RelationSql

/-- The page size of a limit that leaves room for a row and the one beyond it. -/
theorem Limit.pageSize_pos {limit : Limit} (h : ∀ count, limit = .rows count → 2 ≤ count) :
    ∀ n, limit.pageSize = some n → 0 < n.toNat := by
  intro n hn
  cases limit with
  | unlimited => cases hn
  | rows count =>
    have hcount : 2 ≤ count.toNat := UInt64.le_iff_toNat_le.mp (h count rfl)
    obtain rfl : countPred count = n := Option.some.inj hn
    rw [toNat_countPred]
    omega

namespace Table

variable {γ : Type}

/-- The pages that are seen by turning pages on a way until no more follow. -/
inductive Walk (t : Table) (settings : PageSettings) (way : Way) :
    Relation γ → List Page → Prop where
  /-- the last page -/
  | last {r : Relation γ} {page : Page} (hpage : t.page settings r = .ok page)
      (hmore : way.hasMore page.info = false) : Walk t settings way r [page]
  /-- a page, and those that follow from the cursor at its far end -/
  | turn {r : Relation γ} {page : Page} {pages : List Page} {cursor : String}
      (hpage : t.page settings r = .ok page) (hmore : way.hasMore page.info = true)
      (hcursor : way.cursor? page.info = some cursor)
      (hrest : Walk t settings way (r.withArgs (r.args.set way.argument (.text cursor))) pages) :
      Walk t settings way r (page :: pages)

/-! ## Sizes of pages -/

/-- A page without more rows behind it holds all rows. -/
theorem kept_of_not_hasMore {limit : Limit} {rows : List Row}
    (h : Page.hasMore limit rows = false) : Page.kept limit rows = rows := by
  rw [Page.hasMore] at h
  rw [Page.kept]
  cases hsize : limit.pageSize with
  | none => rfl
  | some size =>
    rw [hsize] at h
    exact List.take_of_length_le (Nat.le_of_not_lt (of_decide_eq_false h))

/-- A page with more rows behind it is full. -/
theorem exists_size_of_hasMore {limit : Limit} {rows : List Row}
    (h : Page.hasMore limit rows = true) :
    ∃ size, limit.pageSize = some size ∧ size.toNat < rows.length ∧
      Page.kept limit rows = rows.take size.toNat := by
  rw [Page.hasMore] at h
  rw [Page.kept]
  cases hsize : limit.pageSize with
  | none =>
    rw [hsize] at h
    cases h
  | some size =>
    rw [hsize] at h
    exact ⟨size, rfl, of_decide_eq_true h, rfl⟩

/-! ## Walks -/

section

variable {t : Table} {settings : PageSettings} {way : Way} {r : Relation γ} {order : Order}
  {size : Option UInt64}

/-- The next request goes on behind the rows of a page. -/
theorem asks_behind {args : Args} {cursor? : Option String}
    (hasks : (r.withArgs args).Asks way size cursor?) {pre taken : List Row} {row : Row}
    (hrow : taken.getLast? = some row) :
    (r.withArgs (args.set way.argument (.text (order.cursorOf row).encode))).Asks way size
      ((pre ++ taken).getLast?.map fun row => (order.cursorOf row).encode) := by
  rw [List.getLast?_append, hrow, Option.some_or]
  exact hasks.set_cursor (order.cursorOf row).encode

/-- **A walk visits every row behind its cut**, each once and in order. The induction is on the
number of these rows: a page that is not the last one takes at least one of them. -/
theorem exists_walk (hmode : r.pagingMode? = some .keyset) (hkey : r.sortKey? = some order)
    (hne : order.columns ≠ []) (hkeyed : t.KeyedBy order)
    (hpos : ∀ n, (Limit.forPage (settings.pageSize size r.limit)).pageSize = some n → 0 < n.toNat)
    {args : Args} {pre post : List Row} (hcut : t.Cut order way pre post)
    (hasks : (r.withArgs args).Asks way size
      (pre.getLast?.map fun row => (order.cursorOf row).encode)) :
    ∃ pages, t.Walk settings way (r.withArgs args) pages ∧
      pages.flatMap way.edges = post.map (Page.edgeOf r.label order) ∧
      ∀ page ∈ pages, way.hasBehind page.info = false := by
  induction hcount : post.length using Nat.strongRecOn generalizing args pre post with
  | ind count ih =>
    have hpage := page_eq settings hmode hkey hne hkeyed hcut hasks
    cases hmore : Page.hasMore (.forPage (settings.pageSize size r.limit)) post with
    | false =>
      refine ⟨_, .last hpage ?_, ?_, fun page hmem => ?_⟩
      · rw [Way.hasMore_pageOf, hmore]
      · rw [List.flatMap_singleton, Way.edges_pageOf, kept_of_not_hasMore hmore]
      · rw [List.mem_singleton.mp hmem, Way.hasBehind_pageOf]
    | true =>
      obtain ⟨n, hsize, hlt, hkept⟩ := exists_size_of_hasMore hmore
      have hn := hpos n hsize
      -- the row at the far end of the page
      obtain ⟨row, hrow⟩ : ∃ row, (post.take n.toNat).getLast? = some row := by
        cases h : (post.take n.toNat).getLast? with
        | some row => exact ⟨row, rfl⟩
        | none =>
          have hnil := congrArg List.length (List.getLast?_eq_none_iff.mp h)
          rw [List.length_take, List.length_nil] at hnil
          omega
      -- the cut moves behind the page, and fewer rows are left
      obtain ⟨pages, hwalk, hedges, hbehind⟩ := ih (post.drop n.toNat).length
        (by rw [List.length_drop]; omega) (hcut.advance n.toNat) (asks_behind hasks hrow) rfl
      refine ⟨_, .turn hpage ?_ ?_ hwalk, ?_, fun page hmem => ?_⟩
      · rw [Way.hasMore_pageOf, hmore]
      · rw [Way.cursor?_pageOf, hkept, List.getLast?_map, hrow]
        rfl
      · rw [List.flatMap_cons, Way.edges_pageOf, hedges, hkept, ← List.map_append,
          List.take_append_drop]
      · rcases List.mem_cons.mp hmem with rfl | hmem
        · exact Way.hasBehind_pageOf _ _ way
        · exact hbehind page hmem

/-- What a walk starts with. -/
theorem Walk.exists_cons {pages : List Page} (h : t.Walk settings way r pages) :
    ∃ page rest, pages = page :: rest ∧ t.page settings r = .ok page ∧
      (rest = [] ∨ way.hasMore page.info = true ∧ ∃ cursor, way.cursor? page.info = some cursor ∧
        t.Walk settings way (r.withArgs (r.args.set way.argument (.text cursor))) rest) := by
  cases h with
  | last hpage hmore => exact ⟨_, _, rfl, hpage, .inl rfl⟩
  | turn hpage hmore hcursor hrest => exact ⟨_, _, rfl, hpage, .inr ⟨hmore, _, hcursor, hrest⟩⟩

/-- **The page with a number.** With pages of size `n`, the page with number `k` holds the rows from
the one with number `k * n` on, and there is such a row on every page but the first. The induction
is on the number of the page. -/
theorem Walk.getElem?_eq_pageOf {n : UInt64} (hmode : r.pagingMode? = some .keyset)
    (hkey : r.sortKey? = some order) (hne : order.columns ≠ []) (hkeyed : t.KeyedBy order)
    (hsize : (Limit.forPage (settings.pageSize size r.limit)).pageSize = some n)
    (k : Nat) : ∀ {args : Args} {pre post : List Row} {pages : List Page} {page : Page},
      t.Cut order way pre post →
      (r.withArgs args).Asks way size (pre.getLast?.map fun row => (order.cursorOf row).encode) →
      t.Walk settings way (r.withArgs args) pages → pages[k]? = some page →
      page = way.pageOf
        (((post.drop (k * n.toNat)).take n.toNat).map (Page.edgeOf r.label order))
        (decide (n.toNat < (post.drop (k * n.toNat)).length)) ∧
      (0 < k → k * n.toNat < post.length) := by
  induction k with
  | zero =>
    intro args pre post pages page hcut hasks hwalk hget
    have heq := page_eq settings hmode hkey hne hkeyed hcut hasks
    obtain ⟨first, rest, rfl, hpage, -⟩ := hwalk.exists_cons
    obtain rfl : first = page := by simpa using hget
    rw [hpage, Except.ok.injEq] at heq
    refine ⟨?_, fun h => absurd h (Nat.lt_irrefl 0)⟩
    rw [heq, Page.kept, Page.hasMore, hsize, Nat.zero_mul, List.drop_zero]
  | succ k ih =>
    intro args pre post pages page hcut hasks hwalk hget
    have heq := page_eq settings hmode hkey hne hkeyed hcut hasks
    obtain ⟨first, rest, rfl, hpage, hrest⟩ := hwalk.exists_cons
    rw [List.getElem?_cons_succ] at hget
    rw [hpage, Except.ok.injEq] at heq
    rcases hrest with rfl | ⟨hmore, cursor, hcursor, hrest⟩
    · cases hget
    · rw [heq, Way.hasMore_pageOf] at hmore
      rw [heq, Way.cursor?_pageOf] at hcursor
      obtain ⟨m, hm, hlt, hkept⟩ := exists_size_of_hasMore hmore
      obtain rfl : n = m := Option.some.inj (hsize.symm.trans hm)
      rw [hkept, List.getLast?_map, Option.map_map, Option.map_eq_some_iff] at hcursor
      obtain ⟨row, hrow, rfl⟩ := hcursor
      -- the rest of the walk starts behind the rows of this page
      obtain ⟨hpageOf, hnumber⟩ :=
        ih (hcut.advance n.toNat) (asks_behind hasks hrow) hrest hget
      rw [List.drop_drop] at hpageOf
      rw [List.length_drop] at hnumber
      rw [Nat.succ_mul, Nat.add_comm (k * n.toNat)]
      refine ⟨hpageOf, fun _ => ?_⟩
      -- the hypothesis says nothing of the first page; that one is not the last here
      rcases Nat.eq_zero_or_pos k with rfl | hk
      · rw [Nat.zero_mul]
        exact hlt
      · have := hnumber hk
        omega

end

end Table

end RelationSql
