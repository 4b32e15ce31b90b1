/-!
# Ranges of code points

A property of characters is given by a table of closed ranges of code points in increasing order.
Membership is a plain scan: the tables start with the small code points, so that the common
characters are decided by the first few entries.
-/

namespace RelationSql.Text

/-- Whether the code point of `c` lies in one of the closed ranges of `table`. -/
def inRanges (table : List (Nat × Nat)) (c : Char) : Bool :=
  table.any fun range => range.1 ≤ c.toNat && c.toNat ≤ range.2

/-- Membership in a table is membership in one of its ranges. -/
theorem inRanges_iff {table : List (Nat × Nat)} {c : Char} :
    inRanges table c = true ↔ ∃ range ∈ table, range.1 ≤ c.toNat ∧ c.toNat ≤ range.2 := by
  simp [inRanges]

end RelationSql.Text
