import RelationSql.Page
import RelationSql.Proofs.Cursor.ReadBack
import RelationSql.Proofs.Keyset.Collation
import Mathlib.Data.List.Basic

/-!
# Fetching from a table

An ideal database: a list of rows and a collation. It answers a page that is sought by its sort
values with the first rows, in the order of the page, among those that satisfy the seek predicate.
No two rows have the same sort values, so that the order of the answer is fixed.

The rows are thought of as one sorted list, cut in two: what lies before the page and what the page
is taken from. The seek predicate that comes from the last row before the cut selects exactly the
rows behind it (`fetch_behind`), whichever way the order runs.
-/

namespace RelationSql

/-! ## Sort values of rows -/

/-- The values that a sort column may hold: a signed number of 64 bits or a text. -/
def Json.IsSortValue (value : Json) : Prop :=
  (∃ n : Int64, value = .integer n.toInt) ∨ ∃ s : String, value = .text s

/-- The value of a row in a sort column of a table, or null if there is none. -/
def Row.valueAt (row : Row) (table column : String) : Scalar :=
  ((row.get? (resultName table column)).bind Scalar.ofRowValue?).getD .null

namespace Order

/-- The sort values of a row. -/
def tuple (order : Order) (row : Row) : List Scalar :=
  order.columns.map fun key => row.valueAt order.table key.column

/-- The cursor of a row: its sort values under the names of the columns. -/
def cursorOf (order : Order) (row : Row) : Cursor :=
  ⟨order.columns.map fun key => (key.column, row.valueAt order.table key.column)⟩

/-- Whether a row comes before another one. -/
def rowBefore (order : Order) (c : Collation) (a b : Row) : Bool :=
  c.before order.columns (order.tuple a) (order.tuple b)

/-- A row holds a value of its own in every sort column. -/
def HeldBy (order : Order) (row : Row) : Prop :=
  ∀ key ∈ order.columns, (row.valueAt order.table key.column).Recoverable ∧
    row.valueAt order.table key.column ≠ .null

theorem length_tuple (order : Order) (row : Row) :
    (order.tuple row).length = order.columns.length := List.length_map ..

theorem tuple_directed (order : Order) (backward : Bool) (row : Row) :
    (order.directed backward).tuple row = order.tuple row := by
  cases backward with
  | false => rfl
  | true =>
    rw [tuple, directed, if_pos rfl, List.map_map]
    rfl

theorem cursorOf_directed (order : Order) (backward : Bool) (row : Row) :
    (order.directed backward).cursorOf row = order.cursorOf row := by
  cases backward with
  | false => rfl
  | true =>
    rw [cursorOf, directed, if_pos rfl, List.map_map]
    rfl

theorem map_column_directed (order : Order) (backward : Bool) :
    (order.directed backward).columns.map OrderColumn.column =
      order.columns.map OrderColumn.column := by
  cases backward with
  | false => rfl
  | true =>
    rw [directed, if_pos rfl, List.map_map]
    rfl

theorem HeldBy.directed {order : Order} {row : Row} (h : order.HeldBy row) (backward : Bool) :
    (order.directed backward).HeldBy row := by
  cases backward with
  | false => exact h
  | true =>
    intro key hkey
    obtain ⟨declared, hdeclared, rfl⟩ := List.mem_map.mp hkey
    exact h declared hdeclared

/-- On a backward page a row comes before another one if it comes after it in the sort key. -/
theorem rowBefore_directed (order : Order) (c : Collation) (a b : Row) :
    (order.directed true).rowBefore c a b = order.rowBefore c b a := by
  rw [rowBefore, tuple_directed, tuple_directed]
  exact c.before_reversed (order.length_tuple a).symm (order.length_tuple b).symm

theorem null_notMem_tuple {order : Order} {row : Row} (h : order.HeldBy row) :
    .null ∉ order.tuple row := by
  intro hnull
  obtain ⟨key, hkey, heq⟩ := List.mem_map.mp hnull
  exact (h key hkey).2 heq

end Order

/-- A row with a usable value under the name of every sort column holds them. -/
theorem Order.heldBy_of_sortValue {order : Order} {row : Row}
    (h : ∀ key ∈ order.columns, ∃ value,
      row.get? (resultName order.table key.column) = some value ∧ value.IsSortValue) :
    order.HeldBy row := by
  intro key hkey
  obtain ⟨value, hget, hvalue⟩ := h key hkey
  rcases hvalue with ⟨n, rfl⟩ | ⟨s, rfl⟩
  · have hn : Scalar.ofRowValue? (.integer n.toInt) = some (.integer n) :=
      Scalar.recoverable_integer n
    have hat : row.valueAt order.table key.column = .integer n := by
      rw [Row.valueAt, hget, Option.bind_some, hn, Option.getD_some]
    rw [hat]
    exact ⟨Scalar.recoverable_integer n, by simp⟩
  · have hat : row.valueAt order.table key.column = .text s := by
      rw [Row.valueAt, hget]
      rfl
    rw [hat]
    exact ⟨Scalar.recoverable_text s, by simp⟩

/-! ## Answers -/

/-- The rows within a limit. -/
def Limit.cut (limit : Limit) (rows : List Row) : List Row :=
  match limit with
  | .rows count => rows.take count.toNat
  | .unlimited => rows

theorem Limit.mem_of_mem_cut {limit : Limit} {rows : List Row} {row : Row}
    (h : row ∈ limit.cut rows) : row ∈ rows := by
  cases limit with
  | rows count => exact List.mem_of_mem_take h
  | unlimited => exact h

/-- Whether a row satisfies the seek predicate of a page; without one every row does. -/
def KeysetPaging.admits (paging : KeysetPaging) (c : Collation) (row : Row) : Bool :=
  match paging.seek with
  | none => true
  | some seek => seek.holds c fun column => row.valueAt paging.order.table column

/-- The rows of a database and how their values compare. -/
structure Table where
  /-- the comparison of values -/
  collation : Collation
  /-- the rows, in any order -/
  rows : List Row

namespace Table

/-- The answer to a page that is sought: the first rows within the limit, in the order of the page,
of those that satisfy its seek predicate. -/
def fetch (t : Table) (paging : KeysetPaging) : List Row :=
  paging.limit.cut ((t.rows.filter (paging.admits t.collation)).mergeSort fun a b =>
    !paging.order.rowBefore t.collation b a)

/-- The rows of a table are told apart by their sort values. -/
structure KeyedBy (t : Table) (order : Order) : Prop where
  /-- no column is named twice -/
  columns_nodup : (order.columns.map OrderColumn.column).Nodup
  /-- every row holds a number or a text in every sort column -/
  values : ∀ row ∈ t.rows, ∀ key ∈ order.columns, ∃ value,
    row.get? (resultName order.table key.column) = some value ∧ value.IsSortValue
  /-- no two rows hold the same sort values -/
  tuples_distinct : t.rows.Pairwise fun a b => order.tuple a ≠ order.tuple b

/-! ## The sorted rows -/

section Sorted

variable {t : Table} {order : Order} {c : Collation}

/-- Of two rows with different sort values, one comes before the other. -/
theorem rowBefore_of_not {a b : Row} (hne : order.tuple a ≠ order.tuple b)
    (h : order.rowBefore c b a = false) : order.rowBefore c a b = true := by
  by_contra hab
  exact hne (c.eq_of_not_before (order.length_tuple a).symm (order.length_tuple b).symm
    (Bool.not_eq_true _ ▸ hab) h)

theorem rowBefore_irrefl (row : Row) : order.rowBefore c row row = false :=
  c.before_irrefl (order.length_tuple row).symm

theorem rowBefore_trans {x y z : Row} (hxy : order.rowBefore c x y = true)
    (hyz : order.rowBefore c y z = true) : order.rowBefore c x z = true :=
  c.before_trans (order.length_tuple x).symm (order.length_tuple y).symm
    (order.length_tuple z).symm hxy hyz

theorem not_rowBefore_of_rowBefore {a b : Row} (h : order.rowBefore c a b = true) :
    order.rowBefore c b a = false := by
  by_contra hba
  rw [Bool.not_eq_false] at hba
  have hself := rowBefore_trans h hba
  rw [rowBefore_irrefl] at hself
  cases hself

/-- Not to come after is transitive. -/
theorem not_rowBefore_trans {x y z : Row} (hxy : order.rowBefore c y x = false)
    (hyz : order.rowBefore c z y = false) : order.rowBefore c z x = false := by
  by_contra hzx
  rw [Bool.not_eq_false] at hzx
  -- rows with the same sort values are not ordered, so they are a case of their own
  by_cases htuple : order.tuple x = order.tuple y
  · rw [Order.rowBefore, htuple, ← Order.rowBefore, hyz] at hzx
    cases hzx
  · have hzy : order.rowBefore c z y = true := rowBefore_trans hzx (rowBefore_of_not htuple hxy)
    rw [hyz] at hzy
    cases hzy

/-- **Sorting** rows with different sort values puts each before all that follow it. -/
theorem pairwise_mergeSort_rowBefore {rows : List Row}
    (hne : rows.Pairwise fun a b => order.tuple a ≠ order.tuple b) :
    (rows.mergeSort fun a b => !order.rowBefore c b a).Pairwise
      fun a b => order.rowBefore c a b = true := by
  have hsorted : (rows.mergeSort fun a b => !order.rowBefore c b a).Pairwise
      fun a b => (!order.rowBefore c b a) = true := by
    refine List.pairwise_mergeSort (fun x y z hxy hyz => ?_) (fun x y => ?_) rows
    · rw [Bool.not_eq_true'] at hxy hyz ⊢
      exact not_rowBefore_trans hxy hyz
    · cases hyx : order.rowBefore c y x with
      | false => rfl
      | true => rw [not_rowBefore_of_rowBefore hyx]; rfl
  -- "not after" is "before" only because no two rows have the same sort values
  have hdistinct := hne.perm (List.mergeSort_perm rows fun a b => !order.rowBefore c b a).symm
    fun h => h.symm
  refine (hsorted.and hdistinct).imp fun {a b} h => ?_
  exact rowBefore_of_not h.2 (by simpa using h.1)

/-- Two sorted arrangements of the same rows are the same. -/
theorem eq_of_perm_of_rowBefore {rows rows' : List Row} (hperm : rows.Perm rows')
    (hrows : rows.Pairwise fun a b => order.rowBefore c a b = true)
    (hrows' : rows'.Pairwise fun a b => order.rowBefore c a b = true) : rows = rows' := by
  refine List.Perm.eq_of_pairwise (fun a b _ _ hab hba => ?_) hrows hrows' hperm
  rw [not_rowBefore_of_rowBefore hab] at hba
  cases hba

/-- The rows of a table can be sorted. -/
theorem KeyedBy.exists_sorted (h : t.KeyedBy order) :
    ∃ sorted : List Row, sorted.Perm t.rows ∧
      sorted.Pairwise fun a b => order.rowBefore t.collation a b = true :=
  ⟨_, List.mergeSort_perm _ _, pairwise_mergeSort_rowBefore h.tuples_distinct⟩

/-- Sorted rows are sorted backward when they are reversed. -/
theorem pairwise_reverse_directed {rows : List Row}
    (h : rows.Pairwise fun a b => order.rowBefore c a b = true) :
    rows.reverse.Pairwise fun a b => (order.directed true).rowBefore c a b = true := by
  rw [List.pairwise_reverse]
  exact h.imp fun hab => by rw [Order.rowBefore_directed]; exact hab

end Sorted

/-! ## What is fetched -/

section Fetch

variable {t : Table} {paging : KeysetPaging} {pre post : List Row}

/-- A page fetches what its predicate leaves of the sorted rows. -/
theorem fetch_eq_cut {sorted : List Row} (hperm : sorted.Perm t.rows)
    (hsorted : sorted.Pairwise fun a b => paging.order.rowBefore t.collation a b = true) :
    t.fetch paging = paging.limit.cut (sorted.filter (paging.admits t.collation)) := by
  have hfilter : (sorted.filter (paging.admits t.collation)).Pairwise
      fun a b => paging.order.rowBefore t.collation a b = true := hsorted.filter _
  have hne : (t.rows.filter (paging.admits t.collation)).Pairwise
      fun a b => paging.order.tuple a ≠ paging.order.tuple b := by
    refine (hfilter.imp fun {a b} h heq => ?_).perm (hperm.filter _) fun h => h.symm
    rw [Order.rowBefore, heq, ← Order.rowBefore, rowBefore_irrefl] at h
    cases h
  rw [fetch, eq_of_perm_of_rowBefore ((List.mergeSort_perm _ _).trans (hperm.symm.filter _))
    (pairwise_mergeSort_rowBefore hne) hfilter]

/-- The seek predicate of the last row before a cut, if there is one. -/
def seekBehind (order : Order) (pre : List Row) : Option Seek :=
  pre.getLast?.map fun row => Seek.behind order.columns (order.tuple row)

/-- The predicate of a row admits the rows that come after it. -/
theorem admits_behind {row other : Row} (hrow : paging.order.HeldBy row)
    (hother : paging.order.HeldBy other)
    (hseek : paging.seek = some (Seek.behind paging.order.columns (paging.order.tuple row))) :
    paging.admits t.collation other = paging.order.rowBefore t.collation row other := by
  rw [KeysetPaging.admits, hseek]
  exact Seek.holds_behind t.collation _ (paging.order.length_tuple row).symm
    (Order.null_notMem_tuple hrow) fun key hkey => (hother key hkey).2

/-- **The seek predicate cuts the sorted rows**: of rows in order, those behind the last row before
a cut are selected, and no other. -/
theorem filter_admits
    (hsorted : (pre ++ post).Pairwise fun a b => paging.order.rowBefore t.collation a b = true)
    (hheld : ∀ row ∈ pre ++ post, paging.order.HeldBy row)
    (hseek : paging.seek = seekBehind paging.order pre) :
    (pre ++ post).filter (paging.admits t.collation) = post := by
  -- the predicate is about the last row before the cut, so `pre` is split at its end
  rcases List.eq_nil_or_concat' pre with rfl | ⟨front, row, rfl⟩
  · refine List.filter_eq_self.mpr fun row _ => ?_
    rw [KeysetPaging.admits, hseek]
    rfl
  · have hrow : paging.order.HeldBy row := hheld row (by simp)
    rw [seekBehind, List.getLast?_concat, Option.map_some] at hseek
    have hadmits : ∀ other ∈ front ++ [row] ++ post,
        paging.admits t.collation other = paging.order.rowBefore t.collation row other :=
      fun other hother => admits_behind hrow (hheld other hother) hseek
    obtain ⟨hfront, -, hacross⟩ := List.pairwise_append.mp hsorted
    have hnone : (front ++ [row]).filter (paging.admits t.collation) = [] := by
      refine List.filter_eq_nil_iff.mpr fun other hother => ?_
      rw [hadmits other (List.mem_append_left _ hother), Bool.not_eq_true]
      rcases List.mem_append.mp hother with hmem | hmem
      · exact not_rowBefore_of_rowBefore
          ((List.pairwise_append.mp hfront).2.2 other hmem row List.mem_cons_self)
      · rw [List.mem_singleton.mp hmem]
        exact rowBefore_irrefl _
    have hall : post.filter (paging.admits t.collation) = post := by
      refine List.filter_eq_self.mpr fun other hother => ?_
      rw [hadmits other (List.mem_append_right _ hother)]
      exact hacross row (by simp) other hother
    rw [List.filter_append, hnone, hall, List.nil_append]

/-- **A page is fetched from behind the cut.** -/
theorem fetch_behind (hperm : (pre ++ post).Perm t.rows)
    (hsorted : (pre ++ post).Pairwise fun a b => paging.order.rowBefore t.collation a b = true)
    (hheld : ∀ row ∈ pre ++ post, paging.order.HeldBy row)
    (hseek : paging.seek = seekBehind paging.order pre) :
    t.fetch paging = paging.limit.cut post := by
  rw [fetch_eq_cut hperm hsorted, filter_admits hsorted hheld hseek]

end Fetch

end Table

end RelationSql
