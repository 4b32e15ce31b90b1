import RelationSql.Paging.Seek
import Mathlib.Data.List.Basic
import Mathlib.Order.Defs.Unbundled

/-!
# The order of tuples

The values of each column are in a strict total order, and literals stand for some of them; the
values need not be scalars, and different literals may stand for the same value. Tuples of values
are compared column by column, each in its own direction. The branches of a seek predicate spell out
this comparison, whatever it means for a comparison to hold of a row.

* `ColumnOrders.Before` — the lexicographic order on tuples, by recursion on the columns;
* `before_trans`, `before_trichotomy` — it is a strict total order;
* `before_reversed` — reversing every direction turns it around;
* `Seek.exists_branch_iff` — some branch holds of the rows that come after the given values.
-/

namespace RelationSql

/-- The values of each column in a strict total order, and what literals stand for among them. -/
structure ColumnOrders where
  /-- the values of a column -/
  Value : String → Type
  /-- whether a value of a column is smaller than another one -/
  less : ∀ column, Value column → Value column → Prop
  /-- a strict total order on each column -/
  strict : ∀ column, IsStrictTotalOrder (Value column) (less column)
  /-- the value of a column that a literal stands for -/
  literal : ∀ column, Scalar → Value column

/-- Exactly one of three statements is true. -/
def ExactlyOne (p q r : Prop) : Prop := (p ∧ ¬q ∧ ¬r) ∨ (¬p ∧ q ∧ ¬r) ∨ (¬p ∧ ¬q ∧ r)

namespace ColumnOrders

variable (o : ColumnOrders)

/-- A row has a value in each column. -/
abbrev Row : Type := ∀ column, o.Value column

/-- A value for each of some columns. -/
def Tuple : List OrderColumn → Type
  | [] => Unit
  | key :: keys => o.Value key.column × Tuple keys

/-- The values of a row. -/
def tuple (row : o.Row) : (columns : List OrderColumn) → o.Tuple columns
  | [] => ()
  | key :: keys => (row key.column, tuple row keys)

/-- The values that literals stand for. -/
def literals : (columns : List OrderColumn) → (values : List Scalar) →
    columns.length = values.length → o.Tuple columns
  | [], _, _ => ()
  | key :: keys, value :: values, h =>
    (o.literal key.column value, literals keys values (Nat.succ.inj h))

/-- Whether `y` is further on than `x` in the direction of a column. -/
def Past (key : OrderColumn) (x y : o.Value key.column) : Prop :=
  match key.direction with
  | .asc => o.less key.column x y
  | .desc => o.less key.column y x

/-- Whether the tuple `xs` comes before the tuple `ys`: the first column in which they differ
decides, in its direction. -/
def Before : (columns : List OrderColumn) → o.Tuple columns → o.Tuple columns → Prop
  | [], _, _ => False
  | key :: keys, xs, ys => o.Past key xs.1 ys.1 ∨ xs.1 = ys.1 ∧ Before keys xs.2 ys.2

variable {o}

/-! ## A strict total order -/

theorem past_asymm {key : OrderColumn} {x y : o.Value key.column} (h : o.Past key x y) :
    ¬o.Past key y x := by
  have := o.strict key.column
  obtain ⟨column, direction⟩ := key
  cases direction <;> exact asymm_of (o.less column) h

theorem past_trans {key : OrderColumn} {x y z : o.Value key.column} (hxy : o.Past key x y)
    (hyz : o.Past key y z) : o.Past key x z := by
  have := o.strict key.column
  obtain ⟨column, direction⟩ := key
  cases direction with
  | asc => exact trans_of (o.less column) hxy hyz
  | desc => exact trans_of (o.less column) hyz hxy

theorem past_total {key : OrderColumn} (x y : o.Value key.column) :
    o.Past key x y ∨ x = y ∨ o.Past key y x := by
  have := o.strict key.column
  obtain ⟨column, direction⟩ := key
  cases direction with
  | asc => exact trichotomous_of (o.less column) x y
  | desc =>
    rcases trichotomous_of (o.less column) y x with h | h | h
    · exact .inl h
    · exact .inr (.inl h.symm)
    · exact .inr (.inr h)

theorem before_asymm {columns : List OrderColumn} {xs ys : o.Tuple columns}
    (h : o.Before columns xs ys) : ¬o.Before columns ys xs := by
  induction columns with
  | nil => exact id
  | cons key keys ih =>
    -- tuples that differ in this column are compared here both times, equal ones behind it
    rintro (hback | ⟨heq, hback⟩)
    · rcases h with h | ⟨heq, -⟩
      · exact past_asymm h hback
      · rw [heq] at hback
        exact past_asymm hback hback
    · rcases h with h | ⟨-, h⟩
      · rw [heq] at h
        exact past_asymm h h
      · exact ih h hback

theorem before_irrefl {columns : List OrderColumn} (xs : o.Tuple columns) :
    ¬o.Before columns xs xs := fun h => before_asymm h h

theorem before_trans {columns : List OrderColumn} {xs ys zs : o.Tuple columns}
    (hxy : o.Before columns xs ys) (hyz : o.Before columns ys zs) : o.Before columns xs zs := by
  induction columns with
  | nil => exact hxy
  | cons key keys ih =>
    -- the first of the two steps that moves on in this column decides
    rcases hxy with hxy | ⟨heq, hxy⟩
    · rcases hyz with hyz | ⟨heq', -⟩
      · exact .inl (past_trans hxy hyz)
      · exact .inl (heq' ▸ hxy)
    · rcases hyz with hyz | ⟨heq', hyz⟩
      · exact .inl (heq ▸ hyz)
      · exact .inr ⟨heq.trans heq', ih hxy hyz⟩

theorem before_total {columns : List OrderColumn} (xs ys : o.Tuple columns) :
    o.Before columns xs ys ∨ o.Before columns ys xs ∨ xs = ys := by
  induction columns with
  | nil => exact .inr (.inr rfl)
  | cons key keys ih =>
    rcases past_total xs.1 ys.1 with h | h | h
    · exact .inl (.inl h)
    · rcases ih xs.2 ys.2 with hrest | hrest | hrest
      · exact .inl (.inr ⟨h, hrest⟩)
      · exact .inr (.inl (.inr ⟨h.symm, hrest⟩))
      · exact .inr (.inr (Prod.ext h hrest))
    · exact .inr (.inl (.inl h))

/-- **Of two tuples one comes first, unless they are equal.** -/
theorem before_trichotomy {columns : List OrderColumn} (xs ys : o.Tuple columns) :
    ExactlyOne (o.Before columns xs ys) (o.Before columns ys xs) (ys = xs) := by
  rcases before_total xs ys with h | h | h
  · refine .inl ⟨h, before_asymm h, ?_⟩
    rintro rfl
    exact before_irrefl _ h
  · refine .inr (.inl ⟨before_asymm h, h, ?_⟩)
    rintro rfl
    exact before_irrefl _ h
  · subst h
    exact .inr (.inr ⟨before_irrefl _, before_irrefl _, rfl⟩)

/-! ## Reversed columns -/

variable (o) in
/-- A tuple for the reversed columns, with the same values. -/
def reversed : {columns : List OrderColumn} → o.Tuple columns →
    o.Tuple (columns.map OrderColumn.reversed)
  | [], _ => ()
  | _ :: _, xs => (xs.1, reversed xs.2)

theorem reversed_tuple (row : o.Row) (columns : List OrderColumn) :
    o.reversed (o.tuple row columns) = o.tuple row (columns.map OrderColumn.reversed) := by
  induction columns with
  | nil => rfl
  | cons key keys ih => exact Prod.ext rfl ih

theorem reversed_literals {columns : List OrderColumn} {values : List Scalar}
    (hlength : columns.length = values.length)
    (hreversed : (columns.map OrderColumn.reversed).length = values.length) :
    o.reversed (o.literals columns values hlength) = o.literals _ values hreversed := by
  induction columns generalizing values with
  | nil => rfl
  | cons key keys ih =>
    cases values with
    | nil => cases hlength
    | cons value values => exact Prod.ext rfl (ih (Nat.succ.inj hlength) (Nat.succ.inj hreversed))

theorem past_reversed {key : OrderColumn} (x y : o.Value key.column) :
    o.Past key.reversed x y ↔ o.Past key y x := by
  obtain ⟨column, direction⟩ := key
  cases direction <;> rfl

/-- **Reversing every direction turns the order around.** -/
theorem before_reversed {columns : List OrderColumn} (xs ys : o.Tuple columns) :
    o.Before (columns.map OrderColumn.reversed) (o.reversed xs) (o.reversed ys) ↔
      o.Before columns ys xs := by
  induction columns with
  | nil => exact Iff.rfl
  | cons key keys ih => exact or_congr (past_reversed _ _) (and_congr eq_comm (ih xs.2 ys.2))

end ColumnOrders

/-! ## Branches -/

/-- **Some branch holds of the rows that come after the given values**, provided that comparisons
hold as the values of the row compare. The induction is on the columns: every branch but the first
starts with the equality in the first column. -/
theorem Seek.exists_branch_iff {o : ColumnOrders} (row : o.Row) {holds : Comparison → Prop}
    {columns : List OrderColumn} {values : List Scalar} (hlength : columns.length = values.length)
    (hpast : ∀ pair ∈ columns.zip values, holds ⟨pair.1.column, .past pair.1.direction, pair.2⟩ ↔
      o.Past pair.1 (o.literal pair.1.column pair.2) (row pair.1.column))
    (hequal : ∀ pair ∈ columns.zip values, holds ⟨pair.1.column, .equal, pair.2⟩ ↔
      o.literal pair.1.column pair.2 = row pair.1.column) :
    (∃ branch ∈ branchesAfter (columns.zip values), ∀ c ∈ branch, holds c) ↔
      o.Before columns (o.literals columns values hlength) (o.tuple row columns) := by
  induction columns generalizing values with
  | nil =>
    refine ⟨?_, False.elim⟩
    rintro ⟨branch, hbranch, -⟩
    cases hbranch
  | cons key keys ih =>
    cases values with
    | nil => cases hlength
    | cons value values =>
      have hrest := ih (Nat.succ.inj hlength)
        (fun pair hpair => hpast pair (List.mem_cons_of_mem _ hpair))
        (fun pair hpair => hequal pair (List.mem_cons_of_mem _ hpair))
      have hfirst := hpast (key, value) List.mem_cons_self
      have hsame := hequal (key, value) List.mem_cons_self
      simp only [List.zip_cons_cons, branchesAfter, List.exists_mem_cons_iff,
        List.forall_mem_singleton]
      refine or_congr hfirst ⟨?_, ?_⟩
      · rintro ⟨_, hbranch, hholds⟩
        obtain ⟨later, hlater, rfl⟩ := List.mem_map.mp hbranch
        obtain ⟨hhere, hholds⟩ := List.forall_mem_cons.mp hholds
        exact ⟨hsame.mp hhere, hrest.mp ⟨later, hlater, hholds⟩⟩
      · rintro ⟨hhere, hbefore⟩
        obtain ⟨later, hlater, hholds⟩ := hrest.mpr hbefore
        exact ⟨_, List.mem_map_of_mem hlater,
          List.forall_mem_cons.mpr ⟨hsame.mpr hhere, hholds⟩⟩

end RelationSql
