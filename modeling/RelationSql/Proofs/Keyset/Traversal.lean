import RelationSql.Proofs.Keyset.Walk

/-!
# Paging by keyset, as a whole

Turning pages forward from the start sees every row of a table once, in the order of the sort key,
and stops. Turning pages backward from the end sees the same rows, and the page before a forward
page is the forward page before it. Both need a sort key that tells the rows apart; a sort key
without columns is refused, even for a table of one row.
-/

namespace RelationSql

variable {γ : Type}

/-! ## Limits -/

/-- What is within both bounds is within the smaller one. -/
theorem le_smallerBound {a b : Option UInt64} {n bound : UInt64}
    (ha : ∀ bound, a = some bound → n ≤ bound) (hb : ∀ bound, b = some bound → n ≤ bound)
    (h : smallerBound a b = some bound) : n ≤ bound := by
  cases a with
  | none => exact hb bound h
  | some x =>
    cases b with
    | none => exact ha bound h
    | some y =>
      obtain rfl : (if x ≤ y then x else y) = bound := Option.some.inj h
      split
      · exact ha x rfl
      · exact hb y rfl

/-- **The size of a page is the requested one** if that is within every bound and leaves room for
the row beyond the page. -/
theorem Limit.pageSize_forPage {settings : PageSettings} {limit : Option UInt64} {n : UInt64}
    (hn : n.toNat < UInt64.size - 1) (hlimit : ∀ bound, limit = some bound → n ≤ bound)
    (hmax : ∀ bound, settings.maxPageSize = some bound → n ≤ bound) :
    (forPage (settings.pageSize (some n) limit)).pageSize = some n := by
  have hsize : settings.pageSize (some n) limit = some n := by
    simp only [PageSettings.pageSize, Option.orElse_eq_orElse, Option.orElse_some]
    split
    · rfl
    · next bound hbound => exact congrArg some (if_pos (le_smallerBound hlimit hmax hbound))
  have hpred : countPred (countSucc n) = n := by
    rw [← UInt64.toNat_inj, toNat_countPred, toNat_countSucc]
    omega
  rw [hsize, forPage, pageSize, hpred]

/-- The sort key of a relation that is paged by keyset. -/
theorem Relation.pagingMode?_keyset {r : Relation γ} {columns : List OrderColumn}
    (hpaginate : r.paginate = true) (hkey : r.sortKey = some columns) :
    r.pagingMode? = some .keyset ∧ r.sortKey? = some ⟨r.label, columns⟩ := by
  constructor
  · simp [pagingMode?, hasSortKey, hpaginate, hkey]
  · rw [sortKey?, hkey]

namespace Table

/-! ## A table of accounts -/

/-- Three accounts, two of them with the same name. -/
def accounts : Table where
  collation := .standard
  rows := [
    [("users__name", .text "Ada"), ("users__id", .integer 2)],
    [("users__name", .text "Mia"), ("users__id", .integer 3)],
    [("users__name", .text "Ada"), ("users__id", .integer 1)]]

/-- Five accounts, with three names. -/
def manyAccounts : Table where
  collation := .standard
  rows := accounts.rows ++ [
    [("users__name", .text "Zoe"), ("users__id", .integer 5)],
    [("users__name", .text "Mia"), ("users__id", .integer 4)]]

/-- Only one of them. -/
def oneAccount : Table where
  collation := .standard
  rows := [[("users__id", .integer 1)]]

/-- Accounts by name, the last name first, and then by number. -/
def accountKey : List OrderColumn := [⟨"name", .desc⟩, ⟨"id", .asc⟩]

/-- The accounts as a relation that is fetched page by page. -/
def accountPages (key : List OrderColumn) (args : Args) : Relation Unit where
  name := "users"
  table := "accounts"
  label := "users"
  args := args
  sortKey := some key
  paginate := true

/-- A row with a name and a number holds values in both columns of the sort key. -/
theorem accountKey_values (name : String) (id : Int64) : ∀ key ∈ accountKey, ∃ value,
    Row.get? [("users__name", .text name), ("users__id", .integer id.toInt)]
      (resultName "users" key.column) = some value ∧ value.IsSortValue := by
  intro key hkey
  rcases List.mem_pair.mp hkey with rfl | rfl
  · exact ⟨.text name, rfl, .inr ⟨name, rfl⟩⟩
  · exact ⟨.integer id.toInt, rfl, .inl ⟨id, rfl⟩⟩

theorem manyAccounts_keyedBy : manyAccounts.KeyedBy ⟨"users", accountKey⟩ where
  columns_nodup := by decide
  values := by
    rintro row (_ | ⟨_, _ | ⟨_, _ | ⟨_, _ | ⟨_, _ | ⟨_, ⟨⟩⟩⟩⟩⟩⟩)
    · exact accountKey_values "Ada" 2
    · exact accountKey_values "Mia" 3
    · exact accountKey_values "Ada" 1
    · exact accountKey_values "Zoe" 5
    · exact accountKey_values "Mia" 4
  tuples_distinct := by decide

theorem accounts_keyedBy : accounts.KeyedBy ⟨"users", accountKey⟩ where
  columns_nodup := by decide
  values := fun row hrow => manyAccounts_keyedBy.values row (List.mem_append_left _ hrow)
  tuples_distinct := by decide

/-- A single row needs no sort columns to be told apart. -/
theorem oneAccount_keyedBy : oneAccount.KeyedBy ⟨"users", []⟩ where
  columns_nodup := by decide
  values := by simp
  tuples_distinct := by decide

/-! ## A sort key without columns -/

/-- **A sort key without columns is refused**, whatever the table holds. -/
theorem not_walk_of_no_columns {t : Table} {settings : PageSettings} {way : Way} {r : Relation γ}
    {args : PageArgs} {pages : List Page} (hpaginate : r.paginate = true)
    (hkey : r.sortKey = some []) (hargs : PageArgs.ofArgs r.args = .ok args) :
    ¬ t.Walk settings way r pages := by
  intro hwalk
  obtain ⟨hmode, hsortKey⟩ := Relation.pagingMode?_keyset hpaginate hkey
  have hrefused : t.page settings r = .error (.invalidPlan (.emptySortKey r.name)) := by
    simp only [page, Relation.paging, hmode, Relation.keysetPaging, Relation.pageArgs, hargs,
      Relation.requireSortKey, hsortKey, if_true, Except.mapError, bind, Except.bind, Except.map]
  obtain ⟨page, rest, -, hpage, -⟩ := hwalk.exists_cons
  rw [hrefused] at hpage
  cases hpage

/-! ## Forward -/

/-- **Forward paging loses and repeats nothing.** -/
theorem forward_walk_visits_every_row (t : Table) (settings : PageSettings) (r : Relation γ)
    {columns : List OrderColumn} {first : Option UInt64} (hpaginate : r.paginate = true)
    (hkey : r.sortKey = some columns) (hne : columns ≠ [])
    (hkeyed : t.KeyedBy ⟨r.label, columns⟩) (hargs : PageArgs.ofArgs r.args = .ok { first })
    (hlimit : ∀ count, Limit.forPage (settings.pageSize first r.limit) = .rows count →
      2 ≤ count) :
    ∃ (pages : List Page) (sorted : List Row), t.Walk settings .forward r pages ∧
      sorted.Perm t.rows ∧
      (sorted.Pairwise fun a b => Order.rowBefore ⟨r.label, columns⟩ t.collation a b = true) ∧
      pages.flatMap Page.edges = sorted.map (Page.edgeOf r.label ⟨r.label, columns⟩) ∧
      ∀ page ∈ pages, page.info.hasPreviousPage = false := by
  obtain ⟨hmode, hsortKey⟩ := Relation.pagingMode?_keyset hpaginate hkey
  obtain ⟨sorted, hperm, hsorted⟩ := hkeyed.exists_sorted
  have hcut : t.Cut ⟨r.label, columns⟩ .forward [] sorted := ⟨hperm, hsorted⟩
  have hasks : (r.withArgs r.args).Asks .forward first none := Relation.asks_forward hargs
  obtain ⟨pages, hwalk, hedges, hbehind⟩ :=
    exists_walk hmode hsortKey hne hkeyed (Limit.pageSize_pos hlimit) hcut hasks
  exact ⟨pages, sorted, hwalk, hperm, hsorted, hedges, hbehind⟩

/-- The accounts, one at a time. -/
theorem forward_walk_of_accounts :
    ∃ (pages : List Page) (sorted : List Row),
      accounts.Walk {} .forward (accountPages accountKey [("first", .integer 1)]) pages ∧
      sorted.Perm accounts.rows ∧
      (sorted.Pairwise fun a b =>
        Order.rowBefore ⟨"users", accountKey⟩ .standard a b = true) ∧
      pages.flatMap Page.edges = sorted.map (Page.edgeOf "users" ⟨"users", accountKey⟩) ∧
      ∀ page ∈ pages, page.info.hasPreviousPage = false :=
  have hargs : PageArgs.ofArgs [("first", .integer 1)] = .ok { first := some 1 } := rfl
  forward_walk_visits_every_row accounts {} (accountPages accountKey [("first", .integer 1)])
    rfl rfl (by decide) accounts_keyedBy hargs (by rintro count ⟨⟩; decide)

/-- The sort key needs a column: without one not even a table of one row can be paged. -/
theorem not_forward_walk_of_no_columns :
    oneAccount.KeyedBy ⟨"users", []⟩ ∧
    PageArgs.ofArgs [("first", .integer 2)] = .ok { first := some 2 } ∧
    Limit.forPage (PageSettings.pageSize {} (some 2) none) = .rows 3 ∧
    ¬ ∃ pages, oneAccount.Walk {} .forward (accountPages [] [("first", .integer 2)]) pages := by
  have hargs : PageArgs.ofArgs [("first", .integer 2)] = .ok { first := some 2 } := rfl
  refine ⟨oneAccount_keyedBy, hargs, rfl, ?_⟩
  rintro ⟨pages, hwalk⟩
  exact not_walk_of_no_columns rfl rfl hargs hwalk

/-! ## Backward -/

/-- The rows of a table, taken from the end, with a cut behind the first `count` of the sort key. -/
theorem Cut.backward {t : Table} {order : Order} {sorted : List Row}
    (h : t.Cut order .forward [] sorted) (count : Nat) :
    t.Cut order .backward (sorted.drop count).reverse (sorted.take count).reverse := by
  have hsame : (sorted.drop count).reverse ++ (sorted.take count).reverse = sorted.reverse := by
    rw [← List.reverse_append, List.take_append_drop]
  refine ⟨?_, ?_⟩
  · rw [hsame]
    exact sorted.reverse_perm.trans h.perm
  · rw [hsame]
    exact pairwise_reverse_directed h.sorted

/-- **The page before a forward page.** A request for the rows before the first row of the forward
page with number `k + 1` gives the rows of the one with number `k`. -/
theorem page_before {t : Table} {settings : PageSettings} {r : Relation γ} {order : Order}
    {n : UInt64} {args : Args} {sorted : List Row} {k : Nat} (more : Bool)
    (hmode : r.pagingMode? = some .keyset) (hkey : r.sortKey? = some order)
    (hne : order.columns ≠ []) (hkeyed : t.KeyedBy order)
    (hsize : (Limit.forPage (settings.pageSize (some n) r.limit)).pageSize = some n)
    (hpos : 0 < n.toNat) (hcut : t.Cut order .forward [] sorted)
    (hasks : (r.withArgs args).Asks .backward (some n) none)
    (hlt : (k + 1) * n.toNat < sorted.length) :
    ∃ (cursor : String) (page : Page),
      (Way.forward.pageOf (((sorted.drop ((k + 1) * n.toNat)).take n.toNat).map
        (Page.edgeOf r.label order)) more).info.startCursor = some cursor ∧
      t.page settings (r.withArgs (args.set "before" (.text cursor))) = .ok page ∧
      page.edges = ((sorted.drop (k * n.toNat)).take n.toNat).map (Page.edgeOf r.label order) ∧
      page.info.hasNextPage = false ∧ (page.info.hasPreviousPage = true ↔ 0 < k) := by
  have hmul : (k + 1) * n.toNat = k * n.toNat + n.toNat := Nat.succ_mul k n.toNat
  -- the first row of the later page
  obtain ⟨row, hrow⟩ : ∃ row, (sorted.drop ((k + 1) * n.toNat)).head? = some row := by
    rw [List.head?_drop]
    exact ⟨_, List.getElem?_eq_getElem hlt⟩
  -- seen from the end, the cut at this row leaves the first `k + 1` pages behind it
  have hpage := page_eq settings hmode hkey hne hkeyed (hcut.backward ((k + 1) * n.toNat))
    (by rw [List.getLast?_reverse, hrow]; exact hasks.set_cursor (order.cursorOf row).encode)
  refine ⟨(order.cursorOf row).encode, _, ?_, hpage, ?_, ?_, ?_⟩
  · have hhead : ((sorted.drop ((k + 1) * n.toNat)).take n.toNat).head? = some row := by
      rw [List.head?_take, if_neg (Nat.ne_of_gt hpos), hrow]
    simp only [Way.pageOf, Page.ofEdges, Way.isBackward, Bool.false_eq_true, if_false,
      List.head?_map, hhead]
    rfl
  · rw [Page.kept, hsize]
    change (List.map _ ((sorted.take ((k + 1) * n.toNat)).reverse.take n.toNat)).reverse = _
    rw [← List.map_reverse, List.reverse_take, List.reverse_reverse, List.length_reverse,
      List.length_take, List.drop_take]
    congr 2
    · omega
    · congr 1
      omega
  · exact Way.hasBehind_pageOf _ _ .backward
  · refine Iff.trans (Bool.eq_iff_iff.mp (Way.hasMore_pageOf _ _ .backward)) ?_
    rw [Page.hasMore, hsize, decide_eq_true_iff, List.length_reverse, List.length_take]
    constructor
    · intro h
      refine Nat.pos_of_ne_zero fun hzero => ?_
      rw [hzero] at h hmul
      omega
    · intro h
      have := Nat.mul_pos h hpos
      omega

/-- **Backward paging mirrors forward paging.** -/
theorem backward_page_eq_forward_page (t : Table) (settings : PageSettings) (r : Relation γ)
    {columns : List OrderColumn} {n : UInt64} {forward backward : Args}
    (hpaginate : r.paginate = true) (hkey : r.sortKey = some columns) (hne : columns ≠ [])
    (hkeyed : t.KeyedBy ⟨r.label, columns⟩) (hone : 1 ≤ n) (hn : n.toNat < UInt64.size - 1)
    (hlimit : ∀ bound, r.limit = some bound → n ≤ bound)
    (hmax : ∀ bound, settings.maxPageSize = some bound → n ≤ bound)
    (hforward : PageArgs.ofArgs forward = .ok { first := some n })
    (hbackward : PageArgs.ofArgs backward = .ok { last := some n }) :
    (∃ pages, t.Walk settings .forward (r.withArgs forward) pages) ∧
    (∀ (pages : List Page) (k : Nat) (earlier later : Page),
      t.Walk settings .forward (r.withArgs forward) pages →
      pages[k]? = some earlier → pages[k + 1]? = some later →
      ∃ (cursor : String) (page : Page), later.info.startCursor = some cursor ∧
        t.page settings (r.withArgs (backward.set "before" (.text cursor))) = .ok page ∧
        page.edges = earlier.edges ∧ page.info.hasNextPage = false ∧
        (page.info.hasPreviousPage = true ↔ 0 < k)) ∧
    ∃ (pages : List Page) (sorted : List Row),
      t.Walk settings .backward (r.withArgs backward) pages ∧ sorted.Perm t.rows ∧
      (sorted.Pairwise fun a b => Order.rowBefore ⟨r.label, columns⟩ t.collation a b = true) ∧
      pages.reverse.flatMap Page.edges =
        sorted.map (Page.edgeOf r.label ⟨r.label, columns⟩) := by
  obtain ⟨hmode, hsortKey⟩ := Relation.pagingMode?_keyset hpaginate hkey
  have hsize := Limit.pageSize_forPage hn hlimit hmax
  have hpos : 0 < n.toNat := UInt64.le_iff_toNat_le.mp hone
  have hpos' : ∀ m, (Limit.forPage (settings.pageSize (some n) r.limit)).pageSize = some m →
      0 < m.toNat := by
    intro m hm
    obtain rfl : n = m := Option.some.inj (hsize.symm.trans hm)
    exact hpos
  obtain ⟨sorted, hperm, hsorted⟩ := hkeyed.exists_sorted
  have hcut : t.Cut ⟨r.label, columns⟩ .forward [] sorted := ⟨hperm, hsorted⟩
  have hfirst : (r.withArgs forward).Asks .forward (some n) none := Relation.asks_forward hforward
  have hlast : (r.withArgs backward).Asks .backward (some n) none :=
    Relation.asks_backward hbackward
  refine ⟨?_, ?_, ?_⟩
  · obtain ⟨pages, hwalk, -⟩ := exists_walk hmode hsortKey hne hkeyed hpos' hcut hfirst
    exact ⟨pages, hwalk⟩
  · intro pages k earlier later hwalk hearlier hlater
    obtain ⟨rfl, -⟩ :=
      hwalk.getElem?_eq_pageOf hmode hsortKey hne hkeyed hsize k hcut hfirst hearlier
    obtain ⟨rfl, hlt⟩ :=
      hwalk.getElem?_eq_pageOf hmode hsortKey hne hkeyed hsize (k + 1) hcut hfirst hlater
    exact page_before _ hmode hsortKey hne hkeyed hsize hpos hcut hlast (hlt k.succ_pos)
  · -- no row is passed yet when the walk starts at the end
    have hback := hcut.backward sorted.length
    rw [List.drop_length, List.take_length] at hback
    obtain ⟨pages, hwalk, hedges, -⟩ := exists_walk hmode hsortKey hne hkeyed hpos' hback hlast
    refine ⟨pages, sorted, hwalk, hperm, hsorted, ?_⟩
    have hreverse := congrArg List.reverse hedges
    rw [List.reverse_flatMap, List.map_reverse, List.reverse_reverse] at hreverse
    rw [← hreverse]
    congr 1
    funext page
    exact (List.reverse_reverse page.edges).symm

/-- The five accounts, two at a time and back. -/
theorem backward_page_of_accounts :
    let r := accountPages accountKey []
    (∃ pages, manyAccounts.Walk {} .forward (r.withArgs [("first", .integer 2)]) pages) ∧
    (∀ (pages : List Page) (k : Nat) (earlier later : Page),
      manyAccounts.Walk {} .forward (r.withArgs [("first", .integer 2)]) pages →
      pages[k]? = some earlier → pages[k + 1]? = some later →
      ∃ (cursor : String) (page : Page), later.info.startCursor = some cursor ∧
        manyAccounts.page {}
          (r.withArgs (Args.set [("last", .integer 2)] "before" (.text cursor))) = .ok page ∧
        page.edges = earlier.edges ∧ page.info.hasNextPage = false ∧
        (page.info.hasPreviousPage = true ↔ 0 < k)) ∧
    ∃ (pages : List Page) (sorted : List Row),
      manyAccounts.Walk {} .backward (r.withArgs [("last", .integer 2)]) pages ∧
      sorted.Perm manyAccounts.rows ∧
      (sorted.Pairwise fun a b =>
        Order.rowBefore ⟨"users", accountKey⟩ .standard a b = true) ∧
      pages.reverse.flatMap Page.edges =
        sorted.map (Page.edgeOf "users" ⟨"users", accountKey⟩) :=
  have hforward : PageArgs.ofArgs [("first", .integer 2)] = .ok { first := some 2 } := rfl
  have hbackward : PageArgs.ofArgs [("last", .integer 2)] = .ok { last := some 2 } := rfl
  backward_page_eq_forward_page manyAccounts {} (accountPages accountKey []) rfl rfl (by decide)
    manyAccounts_keyedBy (by decide) (by decide) (by rintro bound ⟨⟩) (by rintro bound ⟨⟩) hforward
    hbackward

/-- The sort key needs a column: without one there is no last page either. -/
theorem not_backward_walk_of_no_columns :
    oneAccount.KeyedBy ⟨"users", []⟩ ∧
    PageArgs.ofArgs [("last", .integer 1)] = .ok { last := some 1 } ∧
    ¬ ∃ pages, oneAccount.Walk {} .backward (accountPages [] [("last", .integer 1)]) pages := by
  have hargs : PageArgs.ofArgs [("last", .integer 1)] = .ok { last := some 1 } := rfl
  refine ⟨oneAccount_keyedBy, hargs, ?_⟩
  rintro ⟨pages, hwalk⟩
  exact not_walk_of_no_columns rfl rfl hargs hwalk

end Table

end RelationSql
