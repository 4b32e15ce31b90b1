import RelationSql.Proofs.Keyset.ColumnOrders
import Mathlib.Data.Int.Order.Basic
import Mathlib.Data.List.Lex
import Mathlib.Tactic.Common

/-!
# Collations and the meaning of seek predicates

A *collation* says how a database compares the values of each column; all that is assumed of it is
that it is a strict total order on each column. Tuples of sort values are then compared column by
column, each in its own direction, and a seek predicate selects the tuples that come strictly after
a given one.

* `Collation.before` — the lexicographic order on tuples, as one that can be computed;
* `Collation.before_iff` — it is the order of the columns, from which it has that it is strict and
  total (`before_irrefl`, `before_trans`, `eq_of_not_before`) and what becomes of it when every
  direction is reversed (`before_reversed`);
* `Seek.holds_behind` — the seek predicate means "strictly after".
-/

namespace RelationSql

/-- How the values of each column compare: a strict total order. -/
structure Collation where
  /-- whether a value of a column is smaller than another one -/
  less : String → Scalar → Scalar → Bool
  /-- no value is smaller than itself -/
  irrefl : ∀ column x, less column x x = false
  /-- what is smaller than a smaller value is smaller -/
  trans : ∀ {column x y z}, less column x y = true → less column y z = true → less column x z = true
  /-- of two different values one is smaller -/
  total : ∀ {column x y}, less column x y = false → less column y x = false → x = y

/-- The place of a scalar among all: null, then numbers, texts by their code points, timestamps. -/
def Scalar.place : Scalar → List Int
  | .null => [0]
  | .integer n => [1, n.toInt]
  | .text s => 2 :: s.toList.map fun char => (char.toNat : Int)
  | .timestamp t =>
    [3, t.date.year, t.date.month, t.date.day, t.hour, t.minute, t.second, t.nano]

theorem Scalar.place_injective : Function.Injective Scalar.place := by
  have hchar : Function.Injective fun char : Char => (char.toNat : Int) := fun a b h =>
    Char.toNat_inj.mp (Int.ofNat.inj h)
  intro x y h
  cases x with
  | null => cases y <;> simp [place] at h ⊢
  | integer n => cases y <;> simp [place, Int64.toInt_inj] at h ⊢; exact h
  | text s =>
    cases y with
    | text s' =>
      have hlist := List.map_injective_iff.mpr hchar (List.cons.inj h).2
      rw [String.toList_inj.mp hlist]
    | _ => simp [place] at h
  | timestamp t =>
    cases y with
    | timestamp t' =>
      obtain ⟨⟨year, month, day, hyear, hday⟩, hour, minute, second, nano, hclock⟩ := t
      obtain ⟨⟨year', month', day', hyear', hday'⟩, hour', minute', second', nano', hclock'⟩ := t'
      simp only [place, List.cons.injEq, Int.natCast_inj, true_and, and_true] at h
      obtain ⟨rfl, rfl, rfl, rfl, rfl, rfl, rfl⟩ := h
      rfl
    | _ => simp [place] at h

namespace Collation

/-- The collation that compares all columns alike, by the place of their values. -/
def standard : Collation where
  less _ x y := decide (x.place < y.place)
  irrefl _ x := decide_eq_false (lt_irrefl x.place)
  trans hxy hyz := decide_eq_true (lt_trans (of_decide_eq_true hxy) (of_decide_eq_true hyz))
  total hxy hyx := Scalar.place_injective
    (le_antisymm (not_lt.mp (of_decide_eq_false hyx)) (not_lt.mp (of_decide_eq_false hxy)))

variable (c : Collation)

/-- Whether `y` is further on than `x` in the direction of a column. -/
def past (key : OrderColumn) (x y : Scalar) : Bool :=
  match key.direction with
  | .asc => c.less key.column x y
  | .desc => c.less key.column y x

/-- The columns of a collation, where scalars stand for themselves. -/
def columnOrders : ColumnOrders where
  Value _ := Scalar
  less column x y := c.less column x y = true
  strict column := {
    irrefl x h := by simp [c.irrefl] at h
    trans _ _ _ := c.trans
    trichotomous x y hxy hyx := c.total (eq_false_of_ne_true hxy) (eq_false_of_ne_true hyx) }
  literal _ value := value

theorem past_columnOrders (key : OrderColumn) (x y : Scalar) :
    c.columnOrders.Past key x y ↔ c.past key x y = true := by
  obtain ⟨column, direction⟩ := key
  cases direction <;> rfl

/-! ## Tuples -/

/-- Whether the tuple `xs` of sort values comes before the tuple `ys`: the first column in which
they differ decides, in its direction. -/
def before : List OrderColumn → List Scalar → List Scalar → Bool
  | key :: keys, x :: xs, y :: ys => c.past key x y || (x == y && before keys xs ys)
  | _, _, _ => false

theorem before_cons {key : OrderColumn} {keys : List OrderColumn} {x y : Scalar}
    {xs ys : List Scalar} : c.before (key :: keys) (x :: xs) (y :: ys) = true ↔
      c.past key x y = true ∨ x = y ∧ c.before keys xs ys = true := by
  rw [before, Bool.or_eq_true, Bool.and_eq_true, beq_iff_eq]

/-- **The order of tuples is that of the columns.** -/
theorem before_iff {keys : List OrderColumn} {xs ys : List Scalar}
    (hxs : keys.length = xs.length) (hys : keys.length = ys.length) :
    c.before keys xs ys = true ↔ c.columnOrders.Before keys
      (c.columnOrders.literals keys xs hxs) (c.columnOrders.literals keys ys hys) := by
  induction keys generalizing xs ys with
  | nil => exact ⟨by simp [before], False.elim⟩
  | cons key keys ih =>
    cases xs with
    | nil => cases hxs
    | cons x xs =>
      cases ys with
      | nil => cases hys
      | cons y ys =>
        rw [before_cons, ← past_columnOrders, ih (Nat.succ.inj hxs) (Nat.succ.inj hys)]
        rfl

theorem tuple_columnOrders (row : String → Scalar) (keys : List OrderColumn)
    (hlength : keys.length = (keys.map fun key => row key.column).length) :
    c.columnOrders.tuple row keys =
      c.columnOrders.literals keys (keys.map fun key => row key.column) hlength := by
  induction keys with
  | nil => rfl
  | cons key keys ih => exact Prod.ext rfl (ih (Nat.succ.inj hlength))

/-- A row comes after some values as its tuple does. -/
theorem before_columnOrders (row : String → Scalar) {columns : List OrderColumn}
    {values : List Scalar} (hlength : columns.length = values.length) :
    c.columnOrders.Before columns (c.columnOrders.literals columns values hlength)
        (c.columnOrders.tuple row columns) ↔
      c.before columns values (columns.map fun key => row key.column) = true := by
  rw [c.before_iff hlength (by rw [List.length_map]), ← tuple_columnOrders]

/-- Scalars stand for themselves, so that different ones make different tuples. -/
theorem literals_inj {keys : List OrderColumn} {xs ys : List Scalar} (hxs : keys.length = xs.length)
    (hys : keys.length = ys.length) (h : c.columnOrders.literals keys xs hxs =
      c.columnOrders.literals keys ys hys) : xs = ys := by
  induction keys generalizing xs ys with
  | nil => rw [List.length_eq_zero_iff.mp hxs.symm, List.length_eq_zero_iff.mp hys.symm]
  | cons key keys ih =>
    cases xs with
    | nil => cases hxs
    | cons x xs =>
      cases ys with
      | nil => cases hys
      | cons y ys =>
        obtain ⟨hfirst, hrest⟩ := Prod.mk.inj h
        exact congrArg₂ List.cons hfirst (ih (Nat.succ.inj hxs) (Nat.succ.inj hys) hrest)

section Order

variable {keys : List OrderColumn} {xs ys zs : List Scalar}

theorem before_irrefl (hxs : keys.length = xs.length) : c.before keys xs xs = false := by
  rw [← Bool.not_eq_true, c.before_iff hxs hxs]
  exact ColumnOrders.before_irrefl _

theorem before_trans (hxs : keys.length = xs.length) (hys : keys.length = ys.length)
    (hzs : keys.length = zs.length) (hxy : c.before keys xs ys = true)
    (hyz : c.before keys ys zs = true) : c.before keys xs zs = true := by
  rw [c.before_iff hxs hys] at hxy
  rw [c.before_iff hys hzs] at hyz
  exact (c.before_iff hxs hzs).mpr (ColumnOrders.before_trans hxy hyz)

/-- Tuples neither of which comes before the other are equal. -/
theorem eq_of_not_before (hxs : keys.length = xs.length) (hys : keys.length = ys.length)
    (hxy : c.before keys xs ys = false) (hyx : c.before keys ys xs = false) : xs = ys := by
  rw [← Bool.not_eq_true, c.before_iff hxs hys] at hxy
  rw [← Bool.not_eq_true, c.before_iff hys hxs] at hyx
  rcases ColumnOrders.before_total (c.columnOrders.literals keys xs hxs)
    (c.columnOrders.literals keys ys hys) with h | h | h
  · exact absurd h hxy
  · exact absurd h hyx
  · exact c.literals_inj hxs hys h

/-- **Reversing every direction turns the order around.** -/
theorem before_reversed (hxs : keys.length = xs.length) (hys : keys.length = ys.length) :
    c.before (keys.map OrderColumn.reversed) xs ys = c.before keys ys xs := by
  have hxs' : (keys.map OrderColumn.reversed).length = xs.length := by rwa [List.length_map]
  have hys' : (keys.map OrderColumn.reversed).length = ys.length := by rwa [List.length_map]
  rw [Bool.eq_iff_iff, c.before_iff hxs' hys', c.before_iff hys hxs,
    ← ColumnOrders.reversed_literals hxs, ← ColumnOrders.reversed_literals hys,
    ColumnOrders.before_reversed]

end Order

end Collation

/-! ## Seek predicates -/

/-- Whether a comparison holds of a row, given the value of each of its columns. Nothing compares
with null. -/
def Comparison.holds (c : Collation) (value : String → Scalar) (comparison : Comparison) : Bool :=
  if value comparison.column = .null ∨ comparison.value = .null then false
  else
    match comparison.comparator with
    | .equal => value comparison.column == comparison.value
    | .past direction =>
      c.past ⟨comparison.column, direction⟩ comparison.value (value comparison.column)

namespace Seek

/-- Whether a seek predicate holds of a row: all comparisons of one of its branches do. -/
def holds (c : Collation) (value : String → Scalar) (seek : Seek) : Bool :=
  seek.branches.any fun branch => branch.all (Comparison.holds c value)

/-- The predicate that a row comes after the one with the given sort values. -/
def behind (columns : List OrderColumn) (values : List Scalar) : Seek :=
  ⟨branchesAfter (columns.zip values)⟩

/-- There is a predicate when there is a column, a value for each column, and no null among the
values. -/
theorem after_eq_ok {columns : List OrderColumn} {values : List Scalar} (hne : columns ≠ [])
    (hlength : columns.length = values.length) (hvalues : .null ∉ values) :
    after columns values = .ok (behind columns values) := by
  have hfind : (columns.zip values).find? (fun pair => pair.2 = .null) = none := by
    refine List.find?_eq_none.mpr fun pair hp => ?_
    have hnull : pair.2 ≠ .null := fun h => hvalues (h ▸ (List.of_mem_zip hp).2)
    simpa using hnull
  rw [after, if_neg (by simp [hne, hlength]), hfind, behind]

/-- **The seek predicate means "strictly after"**, on rows without nulls. -/
theorem holds_behind (c : Collation) (value : String → Scalar) {columns : List OrderColumn}
    {values : List Scalar} (hlength : columns.length = values.length) (hvalues : .null ∉ values)
    (hrow : ∀ key ∈ columns, value key.column ≠ .null) :
    (behind columns values).holds c value =
      c.before columns values (columns.map fun key => value key.column) := by
  have hnull {pair : OrderColumn × Scalar} (hpair : pair ∈ columns.zip values) :
      ¬(value pair.1.column = .null ∨ pair.2 = .null) :=
    not_or.mpr ⟨hrow _ (List.of_mem_zip hpair).1, fun h => hvalues (h ▸ (List.of_mem_zip hpair).2)⟩
  have hbranch : (∃ branch ∈ branchesAfter (columns.zip values),
      ∀ comparison ∈ branch, comparison.holds c value = true) ↔
        c.columnOrders.Before columns (c.columnOrders.literals columns values hlength)
          (c.columnOrders.tuple value columns) := by
    refine exists_branch_iff _ hlength (fun pair hpair => ?_) fun pair hpair => ?_
    · rw [Comparison.holds, if_neg (hnull hpair)]
      exact (c.past_columnOrders _ _ _).symm
    · rw [Comparison.holds, if_neg (hnull hpair)]
      exact beq_iff_eq.trans eq_comm
  rw [Bool.eq_iff_iff, ← c.before_columnOrders value hlength, ← hbranch]
  simp only [holds, behind, List.any_eq_true, List.all_eq_true]

end Seek

end RelationSql
