import RelationSql.Proofs.Plan.Validity
import RelationSql.Proofs.Planner.References
import RelationSql.SortSpec

/-!
# The order lists of a statement

The text of a statement has an `ORDER BY` in every page and one at its end, where the orders of all
relations follow one another. Both come from what the plan declares: a relation is ordered by its
own order, or else by that of its junction, and a page that is counted from the end runs against it.
An order without columns leaves an empty place in the list at the end, and nothing at all behind the
`ORDER BY` of a page.

* `Relation.outerOrder_eq_declared` — a relation adds the order that is declared for it;
* `Statement.toSql_eq_pieces` — the text of a statement, cut at its order lists;
* `Statement.properOrders_iff` — its lists are in order if all orders of it have columns;
* `order_lists_proper_iff` — which plans have such statements only.
-/

namespace RelationSql

variable {γ : Type}

/-! ## Declared orders -/

namespace Relation

variable {r : Relation γ}

theorem pagingMode?_eq_keyset (h : r.pagingMode? = some .keyset) :
    r.paginate = true ∧ r.hasSortKey = true := by
  rw [pagingMode?] at h
  split at h
  · cases h
  · next hpaginate =>
    split at h
    · next hkey => exact ⟨by simpa using hpaginate, hkey⟩
    · split at h <;> cases h

theorem pagingMode?_eq_offset (h : r.pagingMode? = some .offset) : r.hasSortKey = false := by
  rw [pagingMode?] at h
  split at h
  · cases h
  · split at h
    · cases h
    · next hkey => simpa using hkey

/-- A relation that is paged by keyset declares no order for offsets, nor does its junction. -/
theorem hasOrderBy_of_keyset {isRoot : Bool} (hrules : r.Rules isRoot)
    (h : r.pagingMode? = some .keyset) : r.hasOrderBy = false := by
  obtain ⟨hpaginate, hkey⟩ := pagingMode?_eq_keyset h
  refine Bool.eq_false_iff.mpr fun horder => ?_
  cases hj : r.junction with
  | none =>
    simp only [hasSortKey, hasOrderBy, hj, Option.any_none, Bool.or_false] at hkey horder
    exact hrules.oneOrdering ⟨horder, hkey⟩
  | some j => exact (hrules.junction j hj).unmixed ⟨⟨hpaginate, hkey⟩, horder⟩

theorem declaredOrder?_of_keyset {isRoot : Bool} (hrules : r.Rules isRoot)
    (h : r.pagingMode? = some .keyset) : r.declaredOrder? = r.sortKey? := by
  have hnone := hasOrderBy_of_keyset hrules h
  rw [hasOrderBy, Bool.or_eq_false_iff, Option.isSome_eq_false_iff, Option.isNone_iff_eq_none]
    at hnone
  obtain ⟨hown, hjunction⟩ := hnone
  rw [declaredOrder?, sortKey?, hown]
  cases hj : r.junction with
  | none => rfl
  | some j =>
    rw [hj, Option.any_some, Option.isSome_eq_false_iff, Option.isNone_iff_eq_none] at hjunction
    cases r.sortKey <;> simp [hjunction]

theorem declaredOrder?_of_offset (h : r.pagingMode? = some .offset) :
    r.declaredOrder? = r.orderBy? := by
  have hnone := pagingMode?_eq_offset h
  rw [hasSortKey, Bool.or_eq_false_iff, Option.isSome_eq_false_iff, Option.isNone_iff_eq_none]
    at hnone
  obtain ⟨hown, hjunction⟩ := hnone
  rw [declaredOrder?, orderBy?, hown]
  cases hj : r.junction with
  | none => cases r.orderBy <;> rfl
  | some j =>
    rw [hj, Option.any_some, Option.isSome_eq_false_iff, Option.isNone_iff_eq_none] at hjunction
    cases r.orderBy <;> simp [hjunction]

/-- The order of a page is the declared one, in one of its two directions. -/
theorem pagingOrder_eq_declared {isRoot : Bool} (hrules : r.Rules isRoot) {order : Order}
    (h : r.pagingOrder = .ok order) :
    ∃ declared backward, r.declaredOrder? = some declared ∧ order = declared.directed backward := by
  rw [pagingOrder] at h
  split at h
  · next hmode =>
    obtain ⟨declared, hdeclared⟩ := Option.isSome_iff_exists.mp (isSome_orderBy? hmode)
    rw [offsetOrder, hdeclared] at h
    cases h
    exact ⟨order, false, (declaredOrder?_of_offset hmode).trans hdeclared, rfl⟩
  · next hmode =>
    obtain ⟨declared, hdeclared⟩ := Option.isSome_iff_exists.mp (isSome_sortKey? hmode)
    obtain ⟨found, hfound, h⟩ := bind_eq_ok h
    obtain ⟨args, -, h⟩ := bind_eq_ok h
    cases h
    rw [requireSortKey, hdeclared] at hfound
    cases hfound
    exact ⟨declared, _, (declaredOrder?_of_keyset hrules hmode).trans hdeclared, rfl⟩
  · cases h

/-- **A relation adds the order that is declared for it** to the order of its statement, in one of
its two directions. -/
theorem outerOrder_eq_declared {isRoot : Bool} (hrules : r.Rules isRoot) {order? : Option Order}
    (h : r.outerOrder = .ok order?) :
    ∃ backward, order? = r.declaredOrder?.map fun declared => declared.directed backward := by
  rw [outerOrder] at h
  split at h
  · obtain ⟨order, horder, rfl⟩ := map_eq_ok h
    obtain ⟨declared, backward, hdeclared, rfl⟩ := pagingOrder_eq_declared hrules horder
    exact ⟨backward, by rw [hdeclared]; rfl⟩
  · cases h
    refine ⟨false, ?_⟩
    cases r.declaredOrder? <;> rfl

end Relation

theorem Order.columns_directed_eq_nil {order : Order} {backward : Bool} :
    (order.directed backward).columns = [] ↔ order.columns = [] := by
  cases backward with
  | false => rfl
  | true => exact List.map_eq_nil_iff

/-! ## Pieces of text -/

/-- A stretch of the text of a statement. -/
inductive Piece where
  /-- text as it stands -/
  | text (sql : String)
  /-- an `ORDER BY` and the items behind it -/
  | orderBy (items : List String)

namespace Piece

/-- The text of a piece. -/
def toSql : Piece → String
  | text sql => sql
  | orderBy items => "ORDER BY " ++ ", ".intercalate items

/-- The text of some pieces. -/
def joined (pieces : List Piece) : String := String.join (pieces.map toSql)

@[simp] theorem joined_nil : joined [] = "" := rfl

@[simp] theorem joined_cons (piece : Piece) (pieces : List Piece) :
    joined (piece :: pieces) = piece.toSql ++ joined pieces := by
  rw [joined, List.map_cons, String.join_cons, joined]

@[simp] theorem joined_append (first others : List Piece) :
    joined (first ++ others) = joined first ++ joined others := by
  rw [joined, List.map_append, String.join_append, joined, joined]

theorem joined_flatMap {α : Type} (f : α → List Piece) (xs : List α) :
    joined (xs.flatMap f) = String.join (xs.map fun x => joined (f x)) := by
  induction xs with
  | nil => rfl
  | cons x xs ih => rw [List.flatMap_cons, joined_append, ih, List.map_cons, String.join_cons]

theorem joined_intercalate (separator : String) (parts : List (List Piece)) :
    joined (List.intercalate [text separator] parts) =
      separator.intercalate (parts.map joined) := by
  induction parts with
  | nil => rfl
  | cons part parts ih =>
    cases parts with
    | nil => simp
    | cons next parts =>
      rw [List.intercalate_cons_cons, joined_append, ih]
      simp [toSql]

theorem orderBy_mem_intercalate {items : List String} {separator : String}
    {parts : List (List Piece)} :
    orderBy items ∈ List.intercalate [text separator] parts ↔
      ∃ part ∈ parts, orderBy items ∈ part := by
  induction parts with
  | nil => simp
  | cons part parts ih =>
    cases parts with
    | nil => simp
    | cons next parts =>
      rw [List.intercalate_cons_cons, List.mem_append, ih]
      simp

end Piece

namespace Order

/-- The items behind `ORDER BY`. An order without columns stands there as one empty item. -/
def items (quote : String → String) (order : Order) : List String :=
  if order.columns = [] then [""]
  else order.columns.map fun c => s!"{quote order.table}.{quote c.column} {c.direction.word}"

theorem items_ne_nil (quote : String → String) (order : Order) : order.items quote ≠ [] := by
  rw [items]
  split
  · exact List.cons_ne_nil _ _
  · next hne => simpa using hne

theorem intercalate_items (quote : String → String) (order : Order) :
    ", ".intercalate (order.items quote) = order.toSql quote := by
  rw [items, toSql]
  split
  · next hnil => simp [hnil]
  · rfl

/-- Orders that follow one another are one list of items. -/
theorem intercalate_flatMap_items (quote : String → String) (orders : List Order) :
    ", ".intercalate (orders.flatMap (items quote)) =
      ", ".intercalate (orders.map (toSql quote)) := by
  induction orders with
  | nil => rfl
  | cons order orders ih =>
    cases orders with
    | nil => simp [intercalate_items]
    | cons next orders =>
      have hrest : (next :: orders).flatMap (items quote) ≠ [] := by
        simp [items_ne_nil quote next]
      rw [List.flatMap_cons, String.intercalate_append_of_ne_nil (items_ne_nil quote order) hrest,
        ih, intercalate_items, List.map_cons, List.map_cons, List.map_cons,
        String.intercalate_cons_cons]

end Order

namespace PagedSelect

/-- The lines from the table to the conditions. -/
def sourceLines (d : Dialect) (fallback : String) (select : PagedSelect) : List String :=
  (select.middleLines d fallback).dropLast

theorem middleLines_eq (d : Dialect) (fallback : String) (select : PagedSelect) :
    select.middleLines d fallback =
      select.sourceLines d fallback ++ ["  ORDER BY " ++ select.order.toSql d.quote] := by
  rw [sourceLines, middleLines]
  cases select.extraJoin <;> rfl

/-- The pieces of a subselect between its first line and the last one. -/
def pieces (d : Dialect) (fallback first last : String) (select : PagedSelect) : List Piece :=
  [.text ("\n".intercalate (first :: select.sourceLines d fallback) ++ "\n  "),
    .orderBy (select.order.items d.quote), .text ("\n  " ++ last)]

theorem joined_pieces (d : Dialect) (fallback first last : String) (select : PagedSelect) :
    Piece.joined (select.pieces d fallback first last) =
      "\n".intercalate ([first] ++ select.middleLines d fallback ++ ["  " ++ last]) := by
  have hlines : [first] ++ select.middleLines d fallback ++ ["  " ++ last] =
      (first :: select.sourceLines d fallback) ++
        ["  ORDER BY " ++ select.order.toSql d.quote, "  " ++ last] := by
    simp [middleLines_eq]
  have hbreak : "\n  " = "\n" ++ "  " := rfl
  have horder : "  ORDER BY " = "  " ++ "ORDER BY " := rfl
  rw [hlines, String.intercalate_append_of_ne_nil (List.cons_ne_nil _ _) (List.cons_ne_nil _ _)]
  simp only [pieces, Piece.joined_cons, Piece.joined_nil, Piece.toSql, Order.intercalate_items,
    String.intercalate_cons_cons, String.intercalate_singleton, hbreak, horder,
    String.append_assoc, String.append_empty]

/-- The pieces of a subselect as a derived table. -/
def bodyPieces (d : Dialect) (style : WindowStyle) (select : PagedSelect) : List Piece :=
  select.pieces d style.always s!"  SELECT {select.columnList d}"
    (style.clause d select.limit select.offset)

theorem joined_bodyPieces (d : Dialect) (style : WindowStyle) (select : PagedSelect) :
    Piece.joined (select.bodyPieces d style) = select.body d style :=
  joined_pieces d _ _ _ select

/-- The pieces of a subselect as a member of a union. -/
def memberPieces (d : Dialect) (select : PagedSelect) : List Piece :=
  select.pieces d "1" s!"  (SELECT {select.columnList d}"
    (WindowStyle.clause d select.limit .limit (select.offset.filter (0 < ·)) ++ ")")

theorem joined_memberPieces (d : Dialect) (select : PagedSelect) :
    Piece.joined (select.memberPieces d) = select.unionMember d := by
  rw [memberPieces, joined_pieces, ← String.append_assoc]
  rfl

end PagedSelect

namespace Fragment

/-- The pieces of a fragment. -/
def pieces (d : Dialect) : Fragment → List Piece
  | page style select =>
    .text "FROM (\n" :: select.bodyPieces d style ++ [.text ("\n) " ++ d.quote select.label)]
  | correlatedPage style kind condition select =>
    .text (style.joinWords kind ++ " (\n") :: select.bodyPieces d style.window ++
      [.text ("\n) " ++ d.quote select.label ++ style.onClause (condition.toSql d))]
  | union label members =>
    .text "FROM (\n" :: List.intercalate [.text "\nUNION\n"] (members.map (·.memberPieces d)) ++
      [.text ("\n) AS " ++ d.quote label)]
  | fragment => [.text (fragment.toSql d)]

theorem joined_pieces (d : Dialect) (fragment : Fragment) :
    Piece.joined (fragment.pieces d) = fragment.toSql d := by
  cases fragment with
  | page style select =>
    rw [pieces, Piece.joined_append, Piece.joined_cons, PagedSelect.joined_bodyPieces,
      Piece.joined_cons, Piece.joined_nil, String.append_empty]
    exact (String.append_assoc ..).symm
  | correlatedPage style kind condition select =>
    rw [pieces, Piece.joined_append, Piece.joined_cons, PagedSelect.joined_bodyPieces,
      Piece.joined_cons, Piece.joined_nil, String.append_empty]
    simp only [Piece.toSql, ← String.append_assoc]
    rfl
  | union label members =>
    rw [pieces, Piece.joined_append, Piece.joined_cons, Piece.joined_intercalate, List.map_map,
      Piece.joined_cons, Piece.joined_nil, String.append_empty]
    simp only [Function.comp_def, PagedSelect.joined_memberPieces, Piece.toSql,
      ← String.append_assoc]
    rfl
  | _ => exact (Piece.joined_cons _ _).trans String.append_empty

/-- The order lists of a fragment are those of its subselects. -/
theorem orderBy_mem_pieces {d : Dialect} {fragment : Fragment} {items : List String} :
    .orderBy items ∈ fragment.pieces d ↔
      ∃ select ∈ fragment.selects, items = select.order.items d.quote := by
  cases fragment with
  | page style select => simp [pieces, PagedSelect.bodyPieces, PagedSelect.pieces, selects]
  | correlatedPage style kind condition select =>
    simp [pieces, PagedSelect.bodyPieces, PagedSelect.pieces, selects]
  | union label members =>
    simp [pieces, selects, Piece.orderBy_mem_intercalate, PagedSelect.memberPieces,
      PagedSelect.pieces]
  | _ => simp [pieces, selects]

end Fragment

namespace Statement

variable {d : Dialect} {s : Statement}

/-- The pieces of a statement. -/
def pieces (d : Dialect) (s : Statement) : List Piece :=
  .text ("SELECT\n  " ++ ",\n  ".intercalate (s.selections.map (Selection.toSql d)).eraseDups) ::
    s.tables.flatMap (fun table => .text "\n" :: table.pieces d)
    ++ .text (clause "\nWHERE " " AND " (s.conditions.map (Condition.toSql d))) ::
      if s.orders = [] then [] else [.text "\n", .orderBy (s.orders.flatMap (Order.items d.quote))]

/-- **The text of a statement, cut at its order lists.** -/
theorem toSql_eq_pieces (d : Dialect) (s : Statement) : s.toSql d = Piece.joined (s.pieces d) := by
  have htables : Piece.joined (s.tables.flatMap fun table => .text "\n" :: table.pieces d) =
      String.join (s.tables.map fun table => "\n" ++ table.toSql d) := by
    rw [Piece.joined_flatMap]
    simp only [Piece.joined_cons, Fragment.joined_pieces, Piece.toSql]
  have horders : Piece.joined (if s.orders = [] then []
      else [.text "\n", .orderBy (s.orders.flatMap (Order.items d.quote))]) =
      clause "\nORDER BY " ", " (s.orders.map (Order.toSql d.quote)) := by
    rw [clause]
    by_cases hnil : s.orders = []
    · simp [hnil]
    · have hword : "\nORDER BY " = "\n" ++ "ORDER BY " := rfl
      rw [if_neg hnil, if_neg (by simpa using hnil), Piece.joined_cons, Piece.joined_cons,
        Piece.joined_nil, Piece.toSql, Piece.toSql, Order.intercalate_flatMap_items, hword]
      simp only [String.append_assoc, String.append_empty]
  rw [toSql, pieces, Piece.joined_append, Piece.joined_cons, Piece.joined_cons, htables, horders]
  simp only [Piece.toSql, String.append_assoc]

/-- The order lists of a statement: those of its pages, and its own at the end. -/
theorem orderBy_mem_pieces {items : List String} : .orderBy items ∈ s.pieces d ↔
    (∃ select ∈ s.tables.flatMap Fragment.selects, items = select.order.items d.quote) ∨
      s.orders ≠ [] ∧ items = s.orders.flatMap (Order.items d.quote) := by
  have htables : .orderBy items ∈ (s.tables.flatMap fun table => .text "\n" :: table.pieces d) ↔
      ∃ select ∈ s.tables.flatMap Fragment.selects, items = select.order.items d.quote := by
    simp only [List.mem_flatMap, List.mem_cons, reduceCtorEq, false_or,
      Fragment.orderBy_mem_pieces]
    constructor
    · rintro ⟨table, htable, select, hselect, rfl⟩
      exact ⟨select, ⟨table, htable, hselect⟩, rfl⟩
    · rintro ⟨select, ⟨table, htable, hselect⟩, rfl⟩
      exact ⟨table, htable, select, hselect, rfl⟩
  rw [pieces, List.mem_append, List.mem_cons, htables]
  by_cases hnil : s.orders = []
  · simp [hnil]
  · simp [hnil]

end Statement

/-! ## Lists in order -/

/-- A column with its table before it, both quoted, and the word for a direction behind it. -/
def IsOrderItem (d : Dialect) (item : String) : Prop :=
  ∃ (table column : String) (direction : Direction),
    item = d.quote table ++ "." ++ d.quote column ++ " " ++ direction.word

/-- A list behind `ORDER BY` that a server can read: there are items, and none is empty. -/
def ProperOrderList (d : Dialect) (items : List String) : Prop :=
  items ≠ [] ∧ ∀ item ∈ items, IsOrderItem d item

theorem not_isOrderItem_empty (d : Dialect) : ¬IsOrderItem d "" := by
  rintro ⟨table, column, direction, h⟩
  have hlength := congrArg String.length h
  simp only [String.length_append] at hlength
  have hdot : ".".length = 1 := rfl
  rw [hdot, String.length_empty] at hlength
  omega

/-- The items of an order are in order exactly if it has columns. -/
theorem Order.isOrderItem_items_iff {d : Dialect} {order : Order} :
    (∀ item ∈ order.items d.quote, IsOrderItem d item) ↔ order.columns ≠ [] := by
  rw [items]
  split
  · next hnil =>
    rw [List.forall_mem_singleton]
    exact iff_of_false (not_isOrderItem_empty d) (not_not_intro hnil)
  · next hne =>
    refine iff_of_true (fun item hitem => ?_) hne
    obtain ⟨c, -, rfl⟩ := List.mem_map.mp hitem
    exact ⟨order.table, c.column, c.direction, rfl⟩

/-- **The lists of a statement are in order exactly if its orders have columns**, provided that its
pages follow orders of it. -/
theorem Statement.properOrders_iff {d : Dialect} {s : Statement}
    (hpages : ∀ select ∈ s.tables.flatMap Fragment.selects, select.order ∈ s.orders) :
    (∀ items, .orderBy items ∈ s.pieces d → ProperOrderList d items) ↔
      ∀ order ∈ s.orders, order.columns ≠ [] := by
  constructor
  · intro h order horder
    have hne : s.orders ≠ [] := List.ne_nil_of_mem horder
    obtain ⟨-, hitems⟩ := h _ (orderBy_mem_pieces.mpr (.inr ⟨hne, rfl⟩))
    exact Order.isOrderItem_items_iff.mp fun item hitem =>
      hitems item (List.mem_flatMap.mpr ⟨order, horder, hitem⟩)
  · intro h items hitems
    rcases orderBy_mem_pieces.mp hitems with ⟨select, hselect, rfl⟩ | ⟨hne, rfl⟩
    · exact ⟨Order.items_ne_nil _ _, Order.isOrderItem_items_iff.mpr (h _ (hpages select hselect))⟩
    · refine ⟨?_, fun item hitem => ?_⟩
      · obtain ⟨order, orders, horders⟩ := List.exists_cons_of_ne_nil hne
        simp [horders, Order.items_ne_nil]
      · obtain ⟨order, horder, hitem⟩ := List.mem_flatMap.mp hitem
        exact Order.isOrderItem_items_iff.mpr (h order horder) item hitem

/-! ## Statements of plans -/

namespace Planner

variable {planner : Planner} {context : γ} {position : Position γ} {p : Plan γ}

/-- What is gathered comes from the stations. -/
theorem exists_station_of_gather {ss : List (Station γ)} {statement : Statement}
    (h : (planner.gather context ss).outcome = .ok statement) :
    (∀ fragment ∈ statement.tables, ∃ s ∈ ss, ∃ own,
      (planner.contribution context s.position s.relation s.batched).outcome = .ok own ∧
        fragment ∈ own.tables) ∧
    ∀ order ∈ statement.orders, ∃ s ∈ ss, ∃ own,
      (planner.contribution context s.position s.relation s.batched).outcome = .ok own ∧
        order ∈ own.orders := by
  induction ss generalizing statement with
  | nil =>
    cases h
    exact ⟨fun _ hmem => (by cases hmem), fun _ hmem => (by cases hmem)⟩
  | cons s rest ih =>
    obtain ⟨own, hown, h⟩ := Trace.outcome_bind_eq_ok.mp h
    obtain ⟨others, hothers, h⟩ := Trace.outcome_bind_eq_ok.mp h
    cases h
    obtain ⟨htables, horders⟩ := ih hothers
    constructor
    · intro fragment hfragment
      rcases List.mem_append.mp hfragment with hmem | hmem
      · exact ⟨s, List.mem_cons_self, own, hown, hmem⟩
      · obtain ⟨t, ht, part⟩ := htables fragment hmem
        exact ⟨t, List.mem_cons_of_mem _ ht, part⟩
    · intro order horder
      rcases List.mem_append.mp horder with hmem | hmem
      · exact ⟨s, List.mem_cons_self, own, hown, hmem⟩
      · obtain ⟨t, ht, part⟩ := horders order hmem
        exact ⟨t, List.mem_cons_of_mem _ ht, part⟩

/-- **The orders of a statement** are those that its relations add. -/
theorem mem_orders_iff {statement : Statement}
    (h : (planner.statementAt context position p).outcome = .ok statement) {order : Order} :
    order ∈ statement.orders ↔
      ∃ s ∈ p.stations position, s.relation.outerOrder = .ok (some order) := by
  constructor
  · intro horder
    obtain ⟨-, horders⟩ := exists_station_of_gather (gather_of_statementAt planner context h)
    obtain ⟨s, hs, own, hown, hmem⟩ := horders order horder
    obtain ⟨selections, origin, order?, -, -, houter, rfl⟩ := contribution_eq_ok hown
    exact ⟨s, hs, by rw [houter, Option.mem_toList.mp hmem]⟩
  · rintro ⟨s, hs, houter⟩
    obtain ⟨own, hown, before, after, rfl⟩ := exists_part h hs
    obtain ⟨selections, origin, order?, -, -, hfound, rfl⟩ := contribution_eq_ok hown
    cases houter.symm.trans hfound
    simp

/-- The pages of a statement follow orders of it. -/
theorem order_mem_orders {statement : Statement}
    (h : (planner.statementAt context position p).outcome = .ok statement) {select : PagedSelect}
    (hselect : select ∈ statement.tables.flatMap Fragment.selects) :
    select.order ∈ statement.orders := by
  obtain ⟨fragment, hfragment, hselect⟩ := List.mem_flatMap.mp hselect
  obtain ⟨htables, -⟩ := exists_station_of_gather (gather_of_statementAt planner context h)
  obtain ⟨s, hs, own, hown, hmem⟩ := htables fragment hfragment
  obtain ⟨selections, origin, order?, -, horigin, -, rfl⟩ := contribution_eq_ok hown
  obtain ⟨paging, filters, hpaging, -, hpage⟩ :=
    exists_pages_of_mem_selects horigin (List.mem_flatMap.mpr ⟨fragment, hmem, hselect⟩)
  rw [mem_orders_iff h, hpage.order_eq]
  exact ⟨s, hs, Relation.outerOrder_of_paging hpaging⟩

end Planner

/-- A page that is sought by a sort key has columns to seek by. -/
theorem Relation.columns_ne_nil_of_keysetPaging {r : Relation γ} {settings : PageSettings}
    {keyset : KeysetPaging} (h : r.keysetPaging settings = .ok keyset) :
    keyset.order.columns ≠ [] := by
  obtain ⟨args, -, h⟩ := bind_eq_ok h
  obtain ⟨sortKey, -, h⟩ := bind_eq_ok h
  split at h
  · cases h
  · next hne =>
    obtain ⟨request, -, h⟩ := bind_eq_ok h
    obtain ⟨seek, -, h⟩ := bind_eq_ok h
    cases h
    exact fun hnil => hne (Order.columns_directed_eq_nil.mp hnil)

/-- An order that is given as a text has columns. -/
theorem SortSpec.columns_ne_nil_of_parse {spec : String} {columns : List OrderColumn}
    (h : SortSpec.parse spec = .ok columns) : columns ≠ [] := by
  rw [SortSpec.parse] at h
  split at h
  · next read hread =>
    cases h
    rw [SortSpec.readAll] at hread
    split at hread
    · cases hread
    · split at hread
      · cases hread
        exact List.cons_ne_nil _ _
      · cases hread
  · cases h

namespace Plan

/-- The orders that are declared for the relations of a statement have columns. -/
def OrdersHaveColumns (position : Position γ) (p : Plan γ) : Prop :=
  ∀ s ∈ p.stations position, ∀ declared ∈ s.relation.declaredOrder?, declared.columns ≠ []

instance (position : Position γ) (p : Plan γ) : Decidable (p.OrdersHaveColumns position) :=
  inferInstanceAs (Decidable (∀ s ∈ p.stations position, ∀ declared ∈ s.relation.declaredOrder?,
    declared.columns ≠ []))

theorem rules_of_mem_stations {position : Position γ} {p : Plan γ} (hvalid : p.validate = .ok ())
    {s : Station γ} (hs : s ∈ p.stations position) : s.relation.Rules true := by
  obtain ⟨q, hq, hrelation⟩ :=
    List.mem_map.mp ((p.stations_sublist position).subset (List.mem_map_of_mem hs))
  rw [← hrelation]
  exact rules_root (validate_of_mem_nodes hvalid hq)

end Plan

namespace Planner

variable {planner : Planner} {context : γ} {position : Position γ} {p : Plan γ}

/-- The order lists of a query, told from the orders that its plan declares. -/
def OrdersTold (planner : Planner) (context : γ) (position : Position γ) (p : Plan γ)
    (query : Query) : Prop :=
  ∃ statement, (planner.statementAt context position p).outcome = .ok statement ∧
    query.sql = Piece.joined (statement.pieces planner.dialect) ∧
    ((∀ items, .orderBy items ∈ statement.pieces planner.dialect →
      ProperOrderList planner.dialect items) ↔ p.OrdersHaveColumns position) ∧
    ∀ s ∈ p.stations position, s.relation.pagingMode? = some .keyset →
      ∀ declared ∈ s.relation.declaredOrder?, declared.columns ≠ []

/-- The orders of a statement have columns exactly if the declared ones do. -/
theorem orders_have_columns_iff (hvalid : p.validate = .ok ()) {statement : Statement}
    (h : (planner.statementAt context position p).outcome = .ok statement) :
    (∀ order ∈ statement.orders, order.columns ≠ []) ↔ p.OrdersHaveColumns position := by
  constructor
  · intro hcolumns s hs declared hdeclared
    obtain ⟨own, hown, -⟩ := exists_part h hs
    obtain ⟨selections, origin, order?, -, -, houter, -⟩ := contribution_eq_ok hown
    obtain ⟨backward, rfl⟩ :=
      Relation.outerOrder_eq_declared (Plan.rules_of_mem_stations hvalid hs) houter
    rw [Option.mem_def.mp hdeclared] at houter
    have hne := hcolumns _ ((mem_orders_iff h).mpr ⟨s, hs, houter⟩)
    exact fun hnil => hne (Order.columns_directed_eq_nil.mpr hnil)
  · intro hcolumns order horder
    obtain ⟨s, hs, houter⟩ := (mem_orders_iff h).mp horder
    obtain ⟨backward, heq⟩ :=
      Relation.outerOrder_eq_declared (Plan.rules_of_mem_stations hvalid hs) houter
    obtain ⟨declared, hdeclared, rfl⟩ := Option.map_eq_some_iff.mp heq.symm
    exact fun hnil => hcolumns s hs declared hdeclared (Order.columns_directed_eq_nil.mp hnil)

/-- The relations of a statement that are paged by keyset have sort keys with columns. -/
theorem columns_ne_nil_of_keyset (hvalid : p.validate = .ok ()) {statement : Statement}
    (h : (planner.statementAt context position p).outcome = .ok statement) {s : Station γ}
    (hs : s ∈ p.stations position) (hmode : s.relation.pagingMode? = some .keyset)
    {declared : Order} (hdeclared : s.relation.declaredOrder? = some declared) :
    declared.columns ≠ [] := by
  obtain ⟨own, hown, -⟩ := exists_part h hs
  obtain ⟨selections, origin, order?, -, horigin, -, -⟩ := contribution_eq_ok hown
  cases sourced_of_source horigin with
  | plain hplain _ =>
    rw [Relation.isPaged, hmode] at hplain
    cases hplain
  | paged _ htables _ =>
    have horder := Relation.pagingOrder_of_paging htables.paging_eq
    obtain ⟨found, backward, hfound, hdirected⟩ :=
      Relation.pagingOrder_eq_declared (Plan.rules_of_mem_stations hvalid hs) horder
    cases hdeclared.symm.trans hfound
    rcases Relation.paging_eq_ok htables.paging_eq with
      ⟨keyset, -, hkeyset, rfl⟩ | ⟨offset, hoffset, -⟩
    · have hne := Relation.columns_ne_nil_of_keysetPaging hkeyset
      rw [show keyset.order = declared.directed backward from hdirected] at hne
      exact fun hnil => hne (Order.columns_directed_eq_nil.mpr hnil)
    · cases hmode.symm.trans hoffset

theorem ordersTold_of_queryAt (hvalid : p.validate = .ok ()) {query : Query}
    (h : (planner.queryAt context position p).outcome = .ok query) :
    planner.OrdersTold context position p query := by
  obtain ⟨statement, hstatement, hsql⟩ := exists_statement_of_queryAt h
  refine ⟨statement, hstatement, hsql.trans (statement.toSql_eq_pieces _), ?_, ?_⟩
  · rw [Statement.properOrders_iff fun _ => order_mem_orders hstatement,
      orders_have_columns_iff hvalid hstatement]
  · exact fun s hs hmode declared => columns_ne_nil_of_keyset hvalid hstatement hs hmode

/-- **Which statements have their order lists in order**: those of plans in which every declared
order has columns. Pages by keyset are never built without them, and an order that is read from a
text always has them; an empty list for offsets, or on a relation that is not paged, leaves an empty
item behind `ORDER BY`. -/
theorem order_lists_proper_iff (planner : Planner) (context : γ) {root : Plan γ}
    (hvalid : root.validate = .ok ()) :
    (∀ query, (planner.build context root).outcome = .ok query →
      planner.OrdersTold context .root root query) ∧
    (∀ (label : String) (scope : KeyScope) (query : Query),
      (planner.buildBatch context root label scope).outcome = .ok query →
        ∃ p ∈ root.nodes, p.relation.label = label ∧ p.relation.isBatched = true ∧
          planner.OrdersTold context (.batch scope) p query) ∧
    ∀ (spec : String) (columns : List OrderColumn),
      SortSpec.parse spec = .ok columns → columns ≠ [] := by
  refine ⟨fun query hquery => ?_, fun label scope query hquery => ?_, fun spec columns => ?_⟩
  · rw [planner.build_eq context hvalid] at hquery
    exact ordersTold_of_queryAt hvalid hquery
  · obtain ⟨p, hp, hlabel, hbatched, -, hquery⟩ :=
      planner.exists_of_buildBatch context hvalid hquery
    exact ⟨p, hp, hlabel, hbatched,
      ordersTold_of_queryAt (Plan.validate_of_mem_nodes hvalid hp) hquery⟩
  · exact SortSpec.columns_ne_nil_of_parse

/-- The posts are ordered by a column of their junction, in pages and at the end, and so are the
groups by their own name. -/
theorem sharedPosts_order_lists :
    (∃ query, (build ⟨.pg, {}⟩ () sharedPosts).outcome = .ok query ∧
      ∃ statement, (statementAt ⟨.pg, {}⟩ () .root sharedPosts).outcome = .ok statement ∧
        query.sql = Piece.joined (statement.pieces .pg) ∧
        ∀ items, .orderBy items ∈ statement.pieces .pg → ProperOrderList .pg items) ∧
    (∃ query, (buildBatch ⟨.mariadb, {}⟩ () sharedPosts "g" (.ofList [.integer 1])).outcome =
        .ok query ∧
      ∃ p ∈ sharedPosts.nodes, p.relation.label = "g" ∧ p.relation.isBatched = true ∧
        OrdersTold ⟨.mariadb, {}⟩ () (.batch (.ofList [.integer 1])) p query) ∧
    ∃ columns, SortSpec.parse "at DESC, id" = .ok columns ∧ columns ≠ [] := by
  have hvalid : sharedPosts.validate = .ok () := rfl
  obtain ⟨hbuild, -, hspec⟩ := order_lists_proper_iff ⟨.pg, {}⟩ () hvalid
  obtain ⟨-, hbatch, -⟩ := order_lists_proper_iff ⟨.mariadb, {}⟩ () hvalid
  obtain ⟨statement, hstatement, hsql, hproper, -⟩ := hbuild _ rfl
  have hcolumns : sharedPosts.OrdersHaveColumns .root := by decide
  have hparse : SortSpec.parse "at DESC, id" = .ok [⟨"at", .desc⟩, ⟨"id", .asc⟩] := by
    decide +kernel
  exact ⟨⟨_, rfl, statement, hstatement, hsql, hproper.mpr hcolumns⟩,
    ⟨_, rfl, hbatch "g" _ _ rfl⟩, _, hparse, hspec _ _ hparse⟩

/-- Users in an order without columns. -/
def usersInNoOrder : Plan Unit where
  relation := {
    name := "users", table := "accounts", label := "users", columns := [⟨"id", "id"⟩]
    orderBy := some [] }

/-- **An empty list is written as it is**: the plan is valid, and its statement ends behind the
words `ORDER BY`. -/
theorem usersInNoOrder_improper :
    usersInNoOrder.validate = .ok () ∧
    ∃ query statement, (build ⟨.pg, {}⟩ () usersInNoOrder).outcome = .ok query ∧
      query.sql = "SELECT\n  \"users\".\"id\" AS \"users__id\"\n" ++
        "FROM accounts \"users\"\nORDER BY " ∧
      (statementAt ⟨.pg, {}⟩ () .root usersInNoOrder).outcome = .ok statement ∧
      query.sql = Piece.joined (statement.pieces .pg) ∧
      ∃ items, .orderBy items ∈ statement.pieces .pg ∧ ¬ProperOrderList .pg items := by
  refine ⟨rfl, _, _, rfl, by decide, rfl, Statement.toSql_eq_pieces _ _, [""], ?_, ?_⟩
  · exact Statement.orderBy_mem_pieces.mpr (.inr ⟨List.cons_ne_nil _ _, rfl⟩)
  · exact fun hproper => not_isOrderItem_empty _ (hproper.2 "" List.mem_cons_self)

end Planner

end RelationSql
