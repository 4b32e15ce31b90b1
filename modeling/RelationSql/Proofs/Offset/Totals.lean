import RelationSql.Proofs.Keyset.SaneRequests

/-!
# The number of all rows

Every row of a counted page carries the number of all rows. The page reads it from the first of its
own rows, so that it is the same on a page of any size that holds a row. A page of size zero holds
none: its request fetches one row, which carries the number as well, but is cut off before the
number is read.

* `Page.totalOf?_eq_some_iff` — the values that tell a number of rows;
* `Page.total_ofOffset` — what a page reads;
* `Page.total_known_iff` — so the size of a page plays no part, unless it is zero.
-/

namespace RelationSql

variable {γ : Type}

/-! ## Values -/

/-- A value tells a number of rows: it is the number, or a text with the digits of it, behind a plus
or not. -/
inductive Json.TellsTotal : Json → UInt64 → Prop where
  /-- the number itself -/
  | number (n : UInt64) : TellsTotal (.integer n.toNat) n
  /-- a text of it -/
  | text {s : String} {n : UInt64} {sign digits : List Char} (hs : s.toList = sign ++ digits)
      (hsign : sign = [] ∨ sign = ['+']) (h : Text.Denotes digits n.toNat) : TellsTotal (.text s) n

/-- **What a page takes for a number of rows.** -/
theorem Page.totalOf?_eq_some_iff {value : Json} {n : UInt64} :
    totalOf? value = some n ↔ value.TellsTotal n := by
  constructor
  · intro h
    cases value with
    | integer m =>
      obtain rfl := Text.uint64OfInt?_eq_some_iff.mp h
      exact .number n
    | text s =>
      obtain ⟨sign, digits, hs, hsign, hdigits⟩ := Text.unsigned?_eq_some_iff.mp h
      exact .text hs hsign hdigits
    | _ => cases h
  · intro h
    cases h with
    | number => exact Text.uint64OfInt?_eq_some_iff.mpr rfl
    | text hs hsign hdigits => exact Text.unsigned?_eq_some_iff.mpr ⟨_, _, hs, hsign, hdigits⟩

/-! ## Sizes -/

namespace Limit

/-- A limit has room for a row besides the one beyond the page. -/
def HoldsRows : Limit → Prop
  | .rows count => 2 ≤ count
  | .unlimited => True

instance (limit : Limit) : Decidable limit.HoldsRows :=
  match limit with
  | .rows count => inferInstanceAs (Decidable (2 ≤ count))
  | .unlimited => .isTrue trivial

/-- Only a page of size zero holds no rows. -/
theorem holdsRows_forPage {size : Option UInt64} : (forPage size).HoldsRows ↔ size ≠ some 0 := by
  cases size with
  | none => simp [forPage, HoldsRows]
  | some n =>
    have hsucc := toNat_countSucc n
    have hzero : n = 0 ↔ n.toNat = 0 := UInt64.toNat_inj.symm
    have hsize : 2 < UInt64.size := by decide
    rw [forPage, HoldsRows, UInt64.le_iff_toNat_le, hsucc, ne_eq, Option.some.injEq, hzero]
    change 2 ≤ _ ↔ _
    omega

end Limit

namespace Page

variable {r : Relation γ}

/-- A page starts with the first row that was fetched, if it holds rows at all. -/
theorem head?_kept (limit : Limit) (rows : List Row) :
    (kept limit rows).head? = if limit.HoldsRows then rows.head? else none := by
  cases limit with
  | unlimited => rfl
  | rows count =>
    have hroom : 2 ≤ count ↔ count.toNat - 1 ≠ 0 := by
      rw [UInt64.le_iff_toNat_le]
      change 2 ≤ _ ↔ _
      omega
    simp only [kept, Limit.pageSize, Limit.HoldsRows, toNat_countPred, List.head?_take, hroom,
      ite_not]

/-- **What a page reads**: the number in the first of its rows. -/
theorem total_ofOffset (r : Relation γ) (paging : OffsetPaging) (row : Row) (rest : List Row) :
    (ofOffset r paging (row :: rest)).total = if paging.limit.HoldsRows then
      (row.get? (resultName r.facingAlias totalColumn)).bind totalOf? else none := by
  change ((kept paging.limit (row :: rest)).head?.bind _) = _
  rw [head?_kept]
  split <;> rfl

/-- **The number of all rows does not depend on the size of a page that holds rows.** Whenever the
first of the rows tells their number in the column for it, a page of these rows has that number
exactly if it holds rows, and none if its size is zero. So two pages that differ in their limits
only agree on it exactly if both hold rows or neither does. -/
theorem total_known_iff (r : Relation γ) {row : Row} {value : Json} {n : UInt64}
    (hvalue : row.get? (resultName r.facingAlias totalColumn) = some value)
    (hn : value.TellsTotal n) (rest : List Row) (offset : UInt64) (order : Order)
    (limit other : Limit) :
    ∃ page page' : Page,
      ofRows r (.offset ⟨limit, offset, order⟩) (row :: rest) = .ok page ∧
      ofRows r (.offset ⟨other, offset, order⟩) (row :: rest) = .ok page' ∧
      (page.total = some n ↔ limit.HoldsRows) ∧
      (page.total = none ↔ ¬limit.HoldsRows) ∧
      (∀ size, limit = .forPage size → (page.total = some n ↔ size ≠ some 0)) ∧
      (page.total = page'.total ↔ (limit.HoldsRows ↔ other.HoldsRows)) := by
  have htotal (limit : Limit) : (ofOffset r ⟨limit, offset, order⟩ (row :: rest)).total =
      if limit.HoldsRows then some n else none := by
    rw [total_ofOffset, hvalue, Option.bind_some, totalOf?_eq_some_iff.mpr hn]
  have hknown (limit : Limit) : (ofOffset r ⟨limit, offset, order⟩ (row :: rest)).total =
      some n ↔ limit.HoldsRows := by
    simp [htotal]
  refine ⟨_, _, rfl, rfl, hknown limit, by simp [htotal], ?_, ?_⟩
  · rintro size rfl
    rw [hknown, Limit.holdsRows_forPage]
  · rw [htotal, htotal]
    by_cases hlimit : limit.HoldsRows <;> by_cases hother : other.HoldsRows <;>
      simp [hlimit, hother]

/-- The tags of a user in the order in which they were given, counted in the junction. -/
def userTags : Relation Unit where
  name := "tags"
  table := "tags"
  label := "t"
  paginate := true
  junction := some {
    table := "user_tags", label := "ut", orderBy := some [⟨"given", .desc⟩]
    joins := some (⟨fun parent child _ _ => .ok s!"{parent}.id = {child}.user"⟩,
      ⟨fun parent child _ _ => .ok s!"{parent}.tag = {child}.id"⟩) }

/-- The number of tags is told by a text in the column of the junction, two tags at a time or all at
once. -/
theorem total_of_userTags :
    let row : Row := [("t__id", .integer 7), ("ut__$total", .text "+012")]
    let order : Order := ⟨"ut", [⟨"given", .desc⟩]⟩
    ∃ page page' : Page, ofRows userTags (.offset ⟨.rows 3, 4, order⟩) [row] = .ok page ∧
      ofRows userTags (.offset ⟨.unlimited, 4, order⟩) [row] = .ok page' ∧
      page.total = some 12 ∧ page'.total = some 12 := by
  intro row order
  have hdigits : Text.Denotes ['0', '1', '2'] (12 : UInt64).toNat :=
    ⟨by decide, List.all_eq_true.mp rfl, rfl⟩
  have hn : Json.TellsTotal (.text "+012") 12 :=
    .text (show "+012".toList = ['+'] ++ ['0', '1', '2'] from rfl) (.inr rfl) hdigits
  have hvalue : row.get? (resultName userTags.facingAlias totalColumn) = some (.text "+012") := rfl
  obtain ⟨page, page', hpage, hpage', hknown, -, -, hsame⟩ :=
    total_known_iff userTags hvalue hn [] 4 order (.rows 3) .unlimited
  have htotal := hknown.mpr (by decide)
  exact ⟨page, page', hpage, hpage', htotal, (hsame.mpr (by decide)) ▸ htotal⟩

/-- Users in the order of their numbers; only their number is asked for. -/
def usersToCount : Relation Unit where
  name := "users"
  table := "accounts"
  label := "users"
  args := [("first", .integer 0)]
  paginate := true
  orderBy := some [⟨"id", .asc⟩]

/-- **A page of size zero does not know the number of all rows**, although the one row that is
fetched for it tells it. A page of size one, of the same row, does. -/
theorem usersToCount_total_lost :
    let row : Row := [("users__id", .integer 1), ("users__$total", .integer 3)]
    let order : Order := ⟨"users", [⟨"id", .asc⟩]⟩
    usersToCount.paging {} = .ok (.offset ⟨.rows 1, 0, order⟩) ∧
    row.get? (resultName usersToCount.facingAlias totalColumn) = some (.integer 3) ∧
    ∃ page page' : Page, ofRows usersToCount (.offset ⟨.rows 1, 0, order⟩) [row] = .ok page ∧
      ofRows usersToCount (.offset ⟨.rows 2, 0, order⟩) [row] = .ok page' ∧
      page.total = none ∧ page'.total = some 3 := by
  intro row order
  exact ⟨rfl, rfl, _, _, rfl, rfl, rfl, rfl⟩

end Page

end RelationSql
