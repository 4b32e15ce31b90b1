/-!
# Page sizes and limits

A page is fetched with one row more than it holds, so that the extra row tells whether another page
follows. Counts have 64 bits and stay at the greatest one instead of wrapping.
-/

namespace RelationSql

/-! ## Counts that do not wrap -/

/-- The next count, or the greatest one again. -/
def countSucc (n : UInt64) : UInt64 := if n.toNat + 1 < UInt64.size then n + 1 else n

/-- The count before, or zero again. -/
def countPred (n : UInt64) : UInt64 := if n = 0 then 0 else n - 1

/-- The next count as a number. -/
theorem toNat_countSucc (n : UInt64) :
    (countSucc n).toNat = min (n.toNat + 1) (UInt64.size - 1) := by
  have hn : n.toNat < UInt64.size := n.toNat_lt
  rw [countSucc]
  split
  case isTrue h => rw [UInt64.toNat_add, UInt64.toNat_one, Nat.mod_eq_of_lt h]; omega
  case isFalse h => omega

/-- The count before as a number. -/
theorem toNat_countPred (n : UInt64) : (countPred n).toNat = n.toNat - 1 := by
  rw [countPred]
  split
  case isTrue h => rw [h]; rfl
  case isFalse h =>
    have hn : n.toNat ≠ 0 := fun hz => h (UInt64.toNat_inj.mp hz)
    rw [UInt64.toNat_sub_of_le _ _ (by rw [UInt64.le_iff_toNat_le, UInt64.toNat_one]; omega),
      UInt64.toNat_one]

/-! ## Sizes -/

/-- Page sizes that hold for every relation. -/
structure PageSettings where
  /-- greater requests are cut down to this -/
  maxPageSize : Option UInt64 := none
  /-- the size of a page when the request names none -/
  defaultPageSize : Option UInt64 := none
deriving DecidableEq, Repr, Inhabited

/-- The smaller of two bounds, either of which may be absent. -/
def smallerBound : Option UInt64 → Option UInt64 → Option UInt64
  | some a, some b => some (min a b)
  | some a, none => some a
  | none, b => b

namespace PageSettings

/-- The size of a page, given the requested size and the relation's own limit. The limit stands in
for a missing request and bounds a given one; `none` means that all rows make one page. -/
def pageSize (settings : PageSettings) (requested limit : Option UInt64) : Option UInt64 :=
  match requested <|> limit <|> settings.defaultPageSize with
  | none => none
  | some size =>
    match smallerBound limit settings.maxPageSize with
    | none => some size
    | some bound => some (min size bound)

end PageSettings

/-! ## Limits -/

/-- How many rows a statement fetches. -/
inductive Limit where
  /-- at most so many -/
  | rows (count : UInt64)
  /-- all of them -/
  | unlimited
deriving DecidableEq, Repr, Inhabited

namespace Limit

/-- The limit for a page: one row more than it holds. -/
def forPage : Option UInt64 → Limit
  | some size => .rows (countSucc size)
  | none => .unlimited

/-- The number of rows that belong to the page. -/
def pageSize : Limit → Option UInt64
  | .rows count => some (countPred count)
  | .unlimited => none

end Limit

end RelationSql
