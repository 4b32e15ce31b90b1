import RelationSql.Proofs.Keyset.Table

/-!
# One page of a table

What one request gives: the arguments of a relation are interpreted, the table answers, and the
answer is cut into a page. The rows are again one sorted list with a cut in it; a request whose
cursor is that of the last row before the cut gets the first rows behind it (`page_eq`), and the
page tells whether more rows follow.

Requests run in two ways. They differ in the name of the argument that holds the cursor, in the end
of the page that the next cursor is taken from, and in the flag that tells whether to go on.
-/

namespace RelationSql

/-! ## Arguments -/

namespace Args

theorem get?_set_self (args : Args) (name : String) (value : Json) :
    (args.set name value).get? name = some value := by
  have herased : (args.erase name).lookup name = none := by
    refine List.lookup_eq_none_iff.mpr fun arg harg => ?_
    have hne := (List.mem_filter.mp harg).2
    rw [bne_iff_ne] at hne ⊢
    exact Ne.symm hne
  rw [get?, set, List.lookup_append, herased, List.lookup_cons_self]
  rfl

theorem get?_set_of_ne (args : Args) {name other : String} (hne : other ≠ name) (value : Json) :
    (args.set name value).get? other = args.get? other := by
  have herased : (args.erase name).lookup other = args.lookup other := by
    induction args with
    | nil => rfl
    | cons arg args ih =>
      obtain ⟨first, old⟩ := arg
      rw [erase, List.filter_cons]
      split
      · rw [List.lookup_cons, List.lookup_cons, ← erase, ih]
      · next hfirst =>
        have heq : first = name := by simpa using hfirst
        rw [List.lookup_cons, heq, beq_eq_false_iff_ne.mpr hne]
        exact ih
  have hlast : [(name, value)].lookup other = none := by
    rw [List.lookup_cons, beq_eq_false_iff_ne.mpr hne]
    rfl
  rw [get?, set, List.lookup_append, herased, hlast, Option.or_none, get?]

theorem count_set_of_ne (args : Args) {name other : String} (hne : other ≠ name) (value : Json) :
    (args.set name value).count other = args.count other := by
  rw [count, count, get?_set_of_ne args hne]

theorem cursor_set_of_ne (args : Args) {name other : String} (hne : other ≠ name) (value : Json) :
    (args.set name value).cursor other = args.cursor other := by
  rw [cursor, cursor, get?_set_of_ne args hne]

theorem cursor_set_self (args : Args) (name s : String) :
    (args.set name (.text s)).cursor name = .ok (some s) := by
  rw [cursor, get?_set_self]

end Args

namespace PageArgs

/-- The arguments are read one by one. -/
theorem ofArgs_eq_ok {args : Args} {a : PageArgs} : ofArgs args = .ok a ↔
    args.count "first" = .ok a.first ∧ args.count "last" = .ok a.last ∧
      args.cursor "after" = .ok a.after ∧ args.cursor "before" = .ok a.before ∧
      (a.first.isSome && a.last.isSome) = false := by
  rw [ofArgs]
  cases args.count "first" with
  | error e => simp [bind, Except.bind]
  | ok first =>
    cases args.count "last" with
    | error e => simp [bind, Except.bind]
    | ok last =>
      cases args.cursor "after" with
      | error e => simp [bind, Except.bind]
      | ok after =>
        cases args.cursor "before" with
        | error e => simp [bind, Except.bind]
        | ok before =>
          obtain ⟨first', last', after', before'⟩ := a
          cases hboth : first.isSome && last.isSome with
          | false =>
            simp only [bind, Except.bind, pure, Except.pure, hboth, Except.ok.injEq, mk.injEq,
              Bool.false_eq_true, if_false]
            constructor
            · rintro ⟨rfl, rfl, rfl, rfl⟩
              exact ⟨rfl, rfl, rfl, rfl, hboth⟩
            · rintro ⟨rfl, rfl, rfl, rfl, -⟩
              exact ⟨rfl, rfl, rfl, rfl⟩
          | true =>
            simp only [bind, Except.bind, hboth, if_true, Except.ok.injEq, reduceCtorEq]
            refine ⟨False.elim, ?_⟩
            rintro ⟨rfl, rfl, -, -, hnot⟩
            rw [hboth] at hnot
            cases hnot

/-- What is asked of a sort key: `last` makes the request a backward one. -/
theorem keysetRequest_eq_ok {a : PageArgs} {request : PageRequest} :
    a.keysetRequest = .ok request ↔
      (a.last.isSome = true ∧ a.after = none ∧ request = ⟨true, a.last, a.before⟩) ∨
      (a.last = none ∧ a.before = none ∧ request = ⟨false, a.first, a.after⟩) := by
  obtain ⟨first, last, after, before⟩ := a
  cases last with
  | none => cases before <;> simp [keysetRequest, eq_comm]
  | some last => cases after <;> simp [keysetRequest, eq_comm]

end PageArgs

/-! ## Ways -/

/-- Which way pages are turned. -/
inductive Way where
  /-- from the start of the rows -/
  | forward
  /-- from the end of the rows -/
  | backward
deriving DecidableEq, Repr

namespace Way

/-- Whether rows are counted from the end. -/
def isBackward : Way → Bool
  | forward => false
  | backward => true

/-- The argument that holds the cursor. -/
def argument : Way → String
  | forward => "after"
  | backward => "before"

/-- Whether another page follows on this way. -/
def hasMore : Way → PageInfo → Bool
  | forward => PageInfo.hasNextPage
  | backward => PageInfo.hasPreviousPage

/-- Whether a page says that rows lie against the way. -/
def hasBehind : Way → PageInfo → Bool
  | forward => PageInfo.hasPreviousPage
  | backward => PageInfo.hasNextPage

/-- The cursor that the next page goes on from. -/
def cursor? : Way → PageInfo → Option String
  | forward => PageInfo.endCursor
  | backward => PageInfo.startCursor

/-- The edges of a page, the nearest first. -/
def edges (way : Way) (page : Page) : List Edge :=
  if way.isBackward then page.edges.reverse else page.edges

end Way

namespace Relation

variable {γ : Type}

/-- The relation with other arguments. -/
def withArgs (r : Relation γ) (args : Args) : Relation γ := { r with args }

/-- The relation asks for a page of some size, on a way, behind a cursor. -/
def Asks (r : Relation γ) (way : Way) (size : Option UInt64) (cursor? : Option String) : Prop :=
  ∃ args, PageArgs.ofArgs r.args = .ok args ∧
    args.keysetRequest = .ok { backward := way.isBackward, size, cursor := cursor? }

/-- A request without a cursor on the way forward. -/
theorem asks_forward {r : Relation γ} {first : Option UInt64}
    (h : PageArgs.ofArgs r.args = .ok { first }) : r.Asks .forward first none :=
  ⟨_, h, rfl⟩

/-- A request without a cursor on the way backward. -/
theorem asks_backward {r : Relation γ} {last : UInt64}
    (h : PageArgs.ofArgs r.args = .ok { last := some last }) : r.Asks .backward (some last) none :=
  ⟨_, h, rfl⟩

/-- **Going on.** Setting the cursor of a request makes it go on from there and changes nothing
else. -/
theorem Asks.set_cursor {r : Relation γ} {way : Way} {size : Option UInt64}
    {cursor? : Option String} (h : r.Asks way size cursor?) (cursor : String) :
    (r.withArgs (r.args.set way.argument (.text cursor))).Asks way size (some cursor) := by
  obtain ⟨⟨first, last, after, before⟩, hargs, hrequest⟩ := h
  obtain ⟨hfirst, hlast, hafter, hbefore, hboth⟩ := PageArgs.ofArgs_eq_ok.mp hargs
  rw [PageArgs.keysetRequest_eq_ok] at hrequest
  cases way with
  | forward =>
    refine ⟨⟨first, last, some cursor, before⟩, PageArgs.ofArgs_eq_ok.mpr ⟨?_, ?_, ?_, ?_, hboth⟩,
      PageArgs.keysetRequest_eq_ok.mpr (.inr ?_)⟩
    · exact (Args.count_set_of_ne _ (by decide) _).trans hfirst
    · exact (Args.count_set_of_ne _ (by decide) _).trans hlast
    · exact Args.cursor_set_self _ _ _
    · exact (Args.cursor_set_of_ne _ (by decide) _).trans hbefore
    · rcases hrequest with ⟨-, -, h⟩ | ⟨hnone, hnone', h⟩
      · cases h
      · cases h
        exact ⟨hnone, hnone', rfl⟩
  | backward =>
    refine ⟨⟨first, last, after, some cursor⟩, PageArgs.ofArgs_eq_ok.mpr ⟨?_, ?_, ?_, ?_, hboth⟩,
      PageArgs.keysetRequest_eq_ok.mpr (.inl ?_)⟩
    · exact (Args.count_set_of_ne _ (by decide) _).trans hfirst
    · exact (Args.count_set_of_ne _ (by decide) _).trans hlast
    · exact (Args.cursor_set_of_ne _ (by decide) _).trans hafter
    · exact Args.cursor_set_self _ _ _
    · rcases hrequest with ⟨hsome, hnone, h⟩ | ⟨-, -, h⟩
      · cases h
        exact ⟨hsome, hnone, rfl⟩
      · cases h

/-- The cursor of a row is read as the condition to come after that row. -/
theorem seekAfter_cursorOf {order : Order} {row : Row} (hne : order.columns ≠ [])
    (hnodup : (order.columns.map OrderColumn.column).Nodup) (hheld : order.HeldBy row) :
    seekAfter order.columns (order.cursorOf row).encode =
      .ok (Seek.behind order.columns (order.tuple row)) := by
  have hdecode : Cursor.decode (order.cursorOf row).encode = .ok (order.cursorOf row) := by
    refine Cursor.decode_encode ?_ ?_ ?_
    · simpa [Order.cursorOf] using hne
    · rw [Order.cursorOf, List.map_map]
      exact hnodup
    · intro entry hentry
      obtain ⟨key, hkey, rfl⟩ := List.mem_map.mp hentry
      exact (hheld key hkey).1
  have hvalues : (order.cursorOf row).valuesFor order.columns = .ok (order.tuple row) :=
    Cursor.valuesFor_map (fun column => row.valueAt order.table column) rfl
  have hafter := Seek.after_eq_ok hne (order.length_tuple row).symm
    (Order.null_notMem_tuple hheld)
  simp only [seekAfter, hdecode, hvalues, hafter, bind, Except.bind]

/-- **A request behind a row** is interpreted as the page that seeks from that row on. -/
theorem keysetPaging_eq_ok {r : Relation γ} {way : Way} {size : Option UInt64} {order : Order}
    {pre : List Row} (settings : PageSettings) (hkey : r.sortKey? = some order)
    (hne : order.columns ≠ []) (hnodup : (order.columns.map OrderColumn.column).Nodup)
    (hheld : ∀ row ∈ pre, order.HeldBy row)
    (hasks : r.Asks way size (pre.getLast?.map fun row => (order.cursorOf row).encode)) :
    r.keysetPaging settings = .ok {
      limit := .forPage (settings.pageSize size r.limit)
      order := order.directed way.isBackward
      seek := Table.seekBehind (order.directed way.isBackward) pre
      backward := way.isBackward } := by
  obtain ⟨args, hargs, hrequest⟩ := hasks
  have hseek : (pre.getLast?.map fun row => (order.cursorOf row).encode).mapM
      (seekAfter (order.directed way.isBackward).columns) =
      .ok (Table.seekBehind (order.directed way.isBackward) pre) := by
    rw [Table.seekBehind]
    cases hlast : pre.getLast? with
    | none => rfl
    | some row =>
      have hrow := (hheld row (List.mem_of_getLast? hlast)).directed way.isBackward
      have hcolumns : (order.directed way.isBackward).columns ≠ [] := by
        intro hnil
        have hmap := order.map_column_directed way.isBackward
        rw [hnil, List.map_nil, eq_comm, List.map_eq_nil_iff] at hmap
        exact hne hmap
      have hafter := seekAfter_cursorOf hcolumns
        (by rw [Order.map_column_directed]; exact hnodup) hrow
      rw [Order.cursorOf_directed] at hafter
      simp [hafter]
  simp only [keysetPaging, pageArgs, hargs, requireSortKey, hkey, hrequest, hseek, if_neg hne,
    Except.mapError, bind, Except.bind, pure, Except.pure]

end Relation

/-! ## Pages -/

/-- A traversal succeeds when each of its steps does. -/
theorem mapM_eq_ok {α β ε : Type} {f : α → Except ε β} {g : α → β} {xs : List α}
    (h : ∀ x ∈ xs, f x = .ok (g x)) : xs.mapM f = .ok (xs.map g) := by
  induction xs with
  | nil => rfl
  | cons x xs ih =>
    have hrest := ih fun y hy => h y (List.mem_cons_of_mem _ hy)
    rw [List.mapM_cons, h x List.mem_cons_self, hrest]
    rfl

namespace Page

/-- The edge of a row: its cursor and the columns of the relation. -/
def edgeOf (label : String) (order : Order) (row : Row) : Edge where
  cursor := (order.cursorOf row).encode
  node := row.nodeColumns label

theorem sortEntry_eq_ok {order : Order} {row : Row} {key : OrderColumn} (hheld : order.HeldBy row)
    (hkey : key ∈ order.columns) : sortEntry row order.table key =
      .ok (key.column, row.valueAt order.table key.column) := by
  have hnull := (hheld key hkey).2
  rw [Row.valueAt] at hnull ⊢
  rw [sortEntry]
  cases h : (row.get? (resultName order.table key.column)).bind Scalar.ofRowValue? with
  | none =>
    rw [h] at hnull
    exact absurd rfl hnull
  | some value =>
    rw [h] at hnull
    cases value with
    | null => exact absurd rfl hnull
    | integer n => rfl
    | text s => rfl
    | timestamp t => rfl

theorem keysetEdge_eq_ok {order : Order} {row : Row} (label : String) (hheld : order.HeldBy row) :
    keysetEdge label order row = .ok (edgeOf label order row) := by
  have hentries := mapM_eq_ok fun key hkey => sortEntry_eq_ok hheld hkey
  simp only [keysetEdge, keysetCursor, hentries, Except.map, bind, Except.bind, pure, Except.pure]
  rfl

theorem mem_of_mem_kept {limit : Limit} {rows : List Row} {row : Row} (h : row ∈ kept limit rows) :
    row ∈ rows := by
  rw [kept] at h
  split at h
  · exact List.mem_of_mem_take h
  · exact h

/-- The rows of a page are not changed by the limit of its statement. -/
theorem kept_cut (limit : Limit) (rows : List Row) :
    kept limit (limit.cut rows) = kept limit rows := by
  cases limit with
  | unlimited => rfl
  | rows count =>
    have hpred := toNat_countPred count
    simp only [kept, Limit.cut, Limit.pageSize, List.take_take]
    congr 1
    omega

/-- The row beyond the page is within the limit of its statement. -/
theorem hasMore_cut (size : Option UInt64) (rows : List Row) :
    hasMore (.forPage size) ((Limit.forPage size).cut rows) = hasMore (.forPage size) rows := by
  cases size with
  | none => rfl
  | some size =>
    have hpred := toNat_countPred (countSucc size)
    have hsucc := toNat_countSucc size
    have hsize : 1 < UInt64.size := by decide
    simp only [hasMore, Limit.cut, Limit.pageSize, Limit.forPage, List.length_take,
      decide_eq_decide]
    omega

end Page

namespace Way

/-- The page with some edges, the nearest first. -/
def pageOf (way : Way) (edges : List Edge) (more : Bool) : Page :=
  .ofEdges (if way.isBackward then edges.reverse else edges) (more && !way.isBackward)
    (more && way.isBackward) none

variable (edges : List Edge) (more : Bool)

@[simp] theorem edges_pageOf (way : Way) : way.edges (way.pageOf edges more) = edges := by
  cases way with
  | forward => rfl
  | backward => exact List.reverse_reverse edges

@[simp] theorem hasMore_pageOf (way : Way) : way.hasMore (way.pageOf edges more).info = more := by
  cases way with
  | forward => exact Bool.and_true more
  | backward => exact Bool.and_true more

/-- A page that is sought says nothing of the rows that were passed. -/
@[simp] theorem hasBehind_pageOf (way : Way) :
    way.hasBehind (way.pageOf edges more).info = false := by
  cases way with
  | forward => exact Bool.and_false more
  | backward => exact Bool.and_false more

/-- The next page goes on from the last of the edges. -/
@[simp] theorem cursor?_pageOf (way : Way) :
    way.cursor? (way.pageOf edges more).info = edges.getLast?.map Edge.cursor := by
  cases way with
  | forward => rfl
  | backward => exact congrArg (Option.map Edge.cursor) List.head?_reverse

end Way

/-- **The page of sought rows**: the rows within the page size, back in the order of the sort key,
and whether there are more on the way. Rows beyond the page need not hold sort values. -/
theorem Page.ofKeyset_eq_ok (label : String) {paging : KeysetPaging} {rows : List Row} {way : Way}
    (hway : paging.backward = way.isBackward)
    (hheld : ∀ row ∈ kept paging.limit rows, paging.order.HeldBy row) :
    ofKeyset label paging rows = .ok (way.pageOf
      ((kept paging.limit rows).map (edgeOf label paging.order)) (hasMore paging.limit rows)) := by
  have hedges : (if paging.backward = true then (kept paging.limit rows).reverse
      else kept paging.limit rows).mapM (keysetEdge label paging.order) =
      .ok ((if paging.backward = true then (kept paging.limit rows).reverse
        else kept paging.limit rows).map (edgeOf label paging.order)) := by
    refine mapM_eq_ok fun row hrow => keysetEdge_eq_ok label (hheld row ?_)
    split at hrow
    · exact List.mem_reverse.mp hrow
    · exact hrow
  simp only [ofKeyset, hedges, bind, Except.bind, pure, Except.pure, Way.pageOf, ← hway]
  cases paging.backward with
  | false => rfl
  | true => simp only [if_true, List.map_reverse]

namespace Table

/-- The answer to a page, by the way it is found. -/
def answer (t : Table) : Paging → List Row
  | .keyset paging => t.fetch paging
  | .offset paging => paging.limit.cut (t.rows.drop paging.offset.toNat)

/-- The page that a relation asks for: its arguments are interpreted, the table answers, and the
answer is cut into a page. -/
def page {γ : Type} (t : Table) (settings : PageSettings) (r : Relation γ) :
    Except PlanError Page := do
  let paging ← r.paging settings
  Page.ofRows r paging (t.answer paging)

/-- The rows of a table in the order of a way, cut in two. -/
structure Cut (t : Table) (order : Order) (way : Way) (pre post : List Row) : Prop where
  /-- these are the rows -/
  perm : (pre ++ post).Perm t.rows
  /-- they are sorted -/
  sorted : (pre ++ post).Pairwise fun a b =>
    (order.directed way.isBackward).rowBefore t.collation a b = true

/-- The cut can be moved on. -/
theorem Cut.advance {t : Table} {order : Order} {way : Way} {pre post : List Row}
    (h : t.Cut order way pre post) (count : Nat) :
    t.Cut order way (pre ++ post.take count) (post.drop count) := by
  have hsame : pre ++ post.take count ++ post.drop count = pre ++ post := by
    rw [List.append_assoc, List.take_append_drop]
  exact ⟨hsame ▸ h.perm, hsame ▸ h.sorted⟩

/-- **One page.** A request whose cursor is that of the last row before a cut gets the first rows
behind the cut, and is told whether there are more. -/
theorem page_eq {γ : Type} {t : Table} {r : Relation γ} {order : Order} {way : Way} {args : Args}
    {size : Option UInt64} {pre post : List Row} (settings : PageSettings)
    (hmode : r.pagingMode? = some .keyset) (hkey : r.sortKey? = some order)
    (hne : order.columns ≠ []) (hkeyed : t.KeyedBy order) (hcut : t.Cut order way pre post)
    (hasks : (r.withArgs args).Asks way size
      (pre.getLast?.map fun row => (order.cursorOf row).encode)) :
    t.page settings (r.withArgs args) = .ok (way.pageOf
      ((Page.kept (.forPage (settings.pageSize size r.limit)) post).map
        (Page.edgeOf r.label order))
      (Page.hasMore (.forPage (settings.pageSize size r.limit)) post)) := by
  have hheld : ∀ row ∈ pre ++ post, order.HeldBy row := fun row hrow =>
    Order.heldBy_of_sortValue (hkeyed.values row (hcut.perm.mem_iff.mp hrow))
  -- only these four facts about the interpreted request are used below
  obtain ⟨paging, hpaging, hlimit, horder, hseek, hback⟩ : ∃ paging : KeysetPaging,
      (r.withArgs args).keysetPaging settings = .ok paging ∧
      paging.limit = .forPage (settings.pageSize size r.limit) ∧
      paging.order = order.directed way.isBackward ∧
      paging.seek = seekBehind paging.order pre ∧ paging.backward = way.isBackward :=
    ⟨_, Relation.keysetPaging_eq_ok settings hkey hne hkeyed.columns_nodup
      (fun row hrow => hheld row (List.mem_append_left _ hrow)) hasks, rfl, rfl, rfl, rfl⟩
  have hdirected : ∀ row ∈ pre ++ post, paging.order.HeldBy row := fun row hrow =>
    horder ▸ (hheld row hrow).directed way.isBackward
  have hfetch : t.fetch paging = paging.limit.cut post :=
    fetch_behind hcut.perm (horder ▸ hcut.sorted) hdirected hseek
  have hanswered : ∀ row ∈ paging.limit.cut post, paging.order.HeldBy row := fun row hrow =>
    hdirected row (List.mem_append_right _ (Limit.mem_of_mem_cut hrow))
  -- a cursor names columns and values but no directions, so that it serves both ways
  have hedge : Page.edgeOf r.label paging.order = Page.edgeOf r.label order := by
    funext row
    rw [Page.edgeOf, Page.edgeOf, horder, Order.cursorOf_directed]
  have hrows := Page.ofKeyset_eq_ok r.label hback fun row hrow =>
    hanswered row (Page.mem_of_mem_kept hrow)
  rw [Page.kept_cut, hedge, hlimit, Page.hasMore_cut] at hrows
  have hinterpreted : (r.withArgs args).paging settings = .ok (.keyset paging) := by
    rw [Relation.paging, show (r.withArgs args).pagingMode? = some .keyset from hmode, hpaging]
    rfl
  have hmade : Page.ofRows (r.withArgs args) (.keyset paging) (t.answer (.keyset paging)) =
      (Page.ofKeyset r.label paging (t.fetch paging)).mapError .invalidCursor := rfl
  rw [page, hinterpreted]
  change Page.ofRows (r.withArgs args) (.keyset paging) (t.answer (.keyset paging)) = _
  rw [hmade, hfetch, hlimit, hrows]
  rfl

end Table

end RelationSql
