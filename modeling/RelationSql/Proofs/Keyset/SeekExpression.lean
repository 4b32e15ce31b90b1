import RelationSql.Proofs.Keyset.Collation
import RelationSql.Dialect.Builtin
import RelationSql.Sql.Condition

/-!
# Seek predicates as boolean expressions

The text of a seek predicate is that of a boolean expression over comparisons of columns with
literals. What such an expression says of a row depends on what the literals stand for and how the
values of each column are ordered, and on nothing else.

* `Expression.Holds` — what an expression says of a row;
* `Expression.Clear` — `AND` and `OR` meet only across parentheses;
* `Seek.holds_expressionBehind` — the expression for some values holds of the rows behind them;
* `Seek.means_strictly_after` — the expression of a seek predicate holds of the rows behind the
  given values, that of the reversed columns of the rows before them.
-/

namespace RelationSql

/-! ## Expressions -/

/-- A boolean expression over comparisons of columns with literals. -/
inductive Expression where
  /-- the value of a column is less than, equal to or greater than that of a literal -/
  | compare (column : String) (operator : Ordering) (value : Scalar)
  /-- both hold -/
  | and (left right : Expression)
  /-- one of them holds -/
  | or (left right : Expression)
  /-- an expression in parentheses -/
  | group (inner : Expression)

namespace Expression

/-- The SQL operator of a comparison. -/
def symbol : Ordering → String
  | .lt => "<"
  | .eq => "="
  | .gt => ">"

/-- The text of an expression about a table whose quoted name is given. -/
def toSql (d : Dialect) (table : String) : Expression → String
  | compare column operator value =>
    s!"{table}.{d.quote column} {symbol operator} {d.literal value}"
  | and left right => s!"{left.toSql d table} AND {right.toSql d table}"
  | or left right => s!"{left.toSql d table} OR {right.toSql d table}"
  | group inner => s!"({inner.toSql d table})"

/-- What an expression says of a row. -/
def Holds (o : ColumnOrders) (row : o.Row) : Expression → Prop
  | compare column .lt value => o.less column (row column) (o.literal column value)
  | compare column .eq value => row column = o.literal column value
  | compare column .gt value => o.less column (o.literal column value) (row column)
  | and left right => left.Holds o row ∧ right.Holds o row
  | or left right => left.Holds o row ∨ right.Holds o row
  | group inner => inner.Holds o row

/-- The columns and literals that are compared. -/
def compared : Expression → List (String × Scalar)
  | compare column _ value => [(column, value)]
  | and left right => left.compared ++ right.compared
  | or left right => left.compared ++ right.compared
  | group inner => inner.compared

/-- Whether an `AND` stands at the outside of an expression. -/
def isAnd : Expression → Bool
  | and _ _ => true
  | _ => false

/-- Whether an `OR` stands at the outside of an expression. -/
def isOr : Expression → Bool
  | or _ _ => true
  | _ => false

/-- `AND` and `OR` meet only across parentheses. -/
def Clear : Expression → Prop
  | compare _ _ _ => True
  | and left right => left.Clear ∧ right.Clear ∧ left.isOr = false ∧ right.isOr = false
  | or left right => left.Clear ∧ right.Clear ∧ left.isAnd = false ∧ right.isAnd = false
  | group inner => inner.Clear

/-- An expression that is safe beside any connective. -/
def Closed (e : Expression) : Prop := e.Clear ∧ e.isAnd = false ∧ e.isOr = false

/-! ### Several expressions under one connective -/

/-- Which connective stands between expressions. -/
inductive Connective where
  /-- all of them hold -/
  | all
  /-- one of them holds -/
  | any

namespace Connective

/-- Two expressions with the connective between them. -/
def join : Connective → Expression → Expression → Expression
  | all => and
  | any => or

/-- The word between two expressions, with its blanks. -/
def word : Connective → String
  | all => " AND "
  | any => " OR "

/-- What the connective makes of statements. -/
def Quantifies : Connective → (Expression → Prop) → List Expression → Prop
  | all, p, es => ∀ e ∈ es, p e
  | any, p, es => ∃ e ∈ es, p e

end Connective

/-- Expressions with one connective between them. -/
def chain (connective : Connective) : Expression → List Expression → Expression
  | e, [] => e
  | e, next :: rest => connective.join e (chain connective next rest)

/-- Expressions under one connective, in parentheses if there are several. -/
def gathered (connective : Connective) (first : Expression) : List Expression → Expression
  | [] => first
  | next :: rest => group (chain connective first (next :: rest))

section Gathered

variable (connective : Connective) {first : Expression} {rest : List Expression}

theorem toSql_chain (d : Dialect) (table : String) :
    (chain connective first rest).toSql d table =
      connective.word.intercalate ((first :: rest).map (toSql d table)) := by
  induction rest generalizing first with
  | nil => exact String.intercalate_singleton.symm
  | cons next rest ih =>
    rw [chain, List.map_cons, List.map_cons, String.intercalate_cons_cons, ← List.map_cons, ← ih]
    cases connective <;> rfl

theorem toSql_gathered (d : Dialect) (table : String) :
    (gathered connective first rest).toSql d table =
      grouped connective.word ((first :: rest).map (toSql d table)) := by
  cases rest with
  | nil => rfl
  | cons next rest =>
    rw [gathered, toSql, toSql_chain]
    rfl

theorem holds_chain {o : ColumnOrders} (row : o.Row) :
    (chain connective first rest).Holds o row ↔
      connective.Quantifies (Holds o row) (first :: rest) := by
  induction rest generalizing first with
  | nil => cases connective <;> simp [chain, Connective.Quantifies]
  | cons next rest ih =>
    cases connective with
    | all =>
      rw [chain, Connective.join, Holds, ih]
      exact List.forall_mem_cons.symm
    | any =>
      rw [chain, Connective.join, Holds, ih]
      exact (List.exists_mem_cons_iff _ _ _).symm

theorem holds_gathered {o : ColumnOrders} (row : o.Row) :
    (gathered connective first rest).Holds o row ↔
      connective.Quantifies (Holds o row) (first :: rest) := by
  rw [← holds_chain]
  cases rest <;> rfl

theorem compared_chain :
    (chain connective first rest).compared = (first :: rest).flatMap compared := by
  induction rest generalizing first with
  | nil => simp [chain]
  | cons next rest ih =>
    rw [List.flatMap_cons, ← ih]
    cases connective <;> rfl

theorem compared_gathered :
    (gathered connective first rest).compared = (first :: rest).flatMap compared := by
  rw [← compared_chain connective]
  cases rest <;> rfl

/-- Closed expressions can stand in a chain. The induction also needs that the other connective does
not stand at the outside of what follows. -/
theorem clear_chain (h : ∀ e ∈ first :: rest, e.Closed) :
    (chain connective first rest).Clear ∧
      (connective = .all → (chain connective first rest).isOr = false) ∧
      (connective = .any → (chain connective first rest).isAnd = false) := by
  induction rest generalizing first with
  | nil =>
    obtain ⟨hclear, hand, hor⟩ := h first List.mem_cons_self
    exact ⟨hclear, fun _ => hor, fun _ => hand⟩
  | cons next rest ih =>
    obtain ⟨hclear, hand, hor⟩ := h first List.mem_cons_self
    obtain ⟨hrest, hall, hany⟩ := ih fun e he => h e (List.mem_cons_of_mem _ he)
    cases connective with
    | all => exact ⟨⟨hclear, hrest, hor, hall rfl⟩, fun _ => rfl, nofun⟩
    | any => exact ⟨⟨hclear, hrest, hand, hany rfl⟩, nofun, fun _ => rfl⟩

/-- Closed expressions under one connective are closed again. -/
theorem closed_gathered (h : ∀ e ∈ first :: rest, e.Closed) :
    (gathered connective first rest).Closed := by
  cases rest with
  | nil => exact h first List.mem_cons_self
  | cons next rest => exact ⟨(clear_chain connective h).1, rfl, rfl⟩

end Gathered

end Expression

/-! ## Seek predicates -/

/-- How the value of a row compares with the one it is compared with. -/
def Comparator.operator : Comparator → Ordering
  | equal => .eq
  | past .asc => .gt
  | past .desc => .lt

namespace Comparison

/-- A comparison as an expression. -/
def expression (c : Comparison) : Expression := .compare c.column c.comparator.operator c.value

theorem toSql_expression (d : Dialect) (table : String) (c : Comparison) :
    c.expression.toSql d table = c.toSql d table := by
  obtain ⟨column, comparator, value⟩ := c
  cases comparator with
  | equal => rfl
  | past direction => cases direction <;> rfl

theorem closed_expression (c : Comparison) : c.expression.Closed := ⟨trivial, rfl, rfl⟩

theorem holds_past {o : ColumnOrders} (row : o.Row) (key : OrderColumn) (value : Scalar) :
    (expression ⟨key.column, .past key.direction, value⟩).Holds o row ↔
      o.Past key (o.literal key.column value) (row key.column) := by
  obtain ⟨column, direction⟩ := key
  cases direction <;> rfl

theorem holds_equal {o : ColumnOrders} (row : o.Row) (column : String) (value : Scalar) :
    (expression ⟨column, .equal, value⟩).Holds o row ↔ o.literal column value = row column :=
  eq_comm

end Comparison

namespace Seek

/-- The comparisons are those of a column with its value. -/
theorem mem_of_mem_branchesAfter {pairs : List (OrderColumn × Scalar)} {branch : List Comparison}
    (hbranch : branch ∈ branchesAfter pairs) {c : Comparison} (hc : c ∈ branch) :
    (c.column, c.value) ∈ pairs.map fun pair => (pair.1.column, pair.2) := by
  induction pairs generalizing branch with
  | nil => cases hbranch
  | cons pair pairs ih =>
    obtain ⟨key, value⟩ := pair
    rw [List.map_cons]
    rcases List.mem_cons.mp hbranch with rfl | hbranch
    · rw [List.mem_singleton.mp hc]
      exact List.mem_cons_self
    · obtain ⟨later, hlater, rfl⟩ := List.mem_map.mp hbranch
      rcases List.mem_cons.mp hc with rfl | hc
      · exact List.mem_cons_self
      · exact List.mem_cons_of_mem _ (ih hlater hc)

/-- An expression is that of a seek predicate: its text is that of the predicate, it compares the
columns with their values, and `AND` and `OR` meet only across parentheses. -/
structure HasExpression (seek : Seek) (columns : List OrderColumn) (values : List Scalar)
    (e : Expression) : Prop where
  /-- the text -/
  toSql_eq : ∀ d table, seek.toSql d table = e.toSql d table
  /-- the comparisons -/
  compared : e.compared ⊆ (columns.map OrderColumn.column).zip values
  /-- the parentheses -/
  clear : e.Clear

/-- The expression of the predicate that a row comes after some values: past the first of them, or
equal there and in one of the later branches. -/
def expressionBehind (key : OrderColumn) (value : Scalar) (rest : List (OrderColumn × Scalar)) :
    Expression :=
  .gathered .any (Comparison.expression ⟨key.column, .past key.direction, value⟩)
    ((branchesAfter rest).map fun branch =>
      .gathered .all (Comparison.expression ⟨key.column, .equal, value⟩)
        (branch.map Comparison.expression))

section Behind

variable (key : OrderColumn) (keys : List OrderColumn) (value : Scalar) (values : List Scalar)

theorem hasExpression_behind : (behind (key :: keys) (value :: values)).HasExpression
    (key :: keys) (value :: values) (expressionBehind key value (keys.zip values)) where
  toSql_eq d table := by
    have hbranch (branch : List Comparison) : Expression.toSql d table
          (.gathered .all (Comparison.expression ⟨key.column, .equal, value⟩)
            (branch.map Comparison.expression)) =
        grouped " AND " ((⟨key.column, .equal, value⟩ :: branch).map
          (Comparison.toSql d table)) := by
      rw [Expression.toSql_gathered, ← List.map_cons, List.map_map]
      congr 1
      exact List.map_congr_left fun c _ => c.toSql_expression d table
    rw [expressionBehind, Expression.toSql_gathered, List.map_cons, List.map_map,
      Comparison.toSql_expression, behind, toSql, List.zip_cons_cons, branchesAfter, List.map_cons,
      List.map_map]
    congr 2
    exact List.map_congr_left fun branch _ => (hbranch branch).symm
  compared := by
    intro pair hpair
    have hmem (c : Comparison) (branch : List Comparison)
        (hbranch : branch ∈ branchesAfter ((key, value) :: keys.zip values)) (hc : c ∈ branch)
        (hp : pair ∈ c.expression.compared) :
        pair ∈ ((key :: keys).map OrderColumn.column).zip (value :: values) := by
      have hcompared := mem_of_mem_branchesAfter hbranch hc
      rw [← List.mem_singleton.mp hp] at hcompared
      rwa [List.map_cons, List.zip_cons_cons, List.zip_map_left]
    rw [expressionBehind, Expression.compared_gathered] at hpair
    obtain ⟨e, he, hpair⟩ := List.mem_flatMap.mp hpair
    rcases List.mem_cons.mp he with rfl | he
    · exact hmem _ _ List.mem_cons_self List.mem_cons_self hpair
    · obtain ⟨branch, hbranch, rfl⟩ := List.mem_map.mp he
      rw [Expression.compared_gathered, ← List.map_cons] at hpair
      obtain ⟨_, hmap, hpair⟩ := List.mem_flatMap.mp hpair
      obtain ⟨c, hc, rfl⟩ := List.mem_map.mp hmap
      exact hmem c _ (List.mem_cons_of_mem _ (List.mem_map_of_mem hbranch)) hc hpair
  clear := by
    refine (Expression.closed_gathered _ fun e he => ?_).1
    rcases List.mem_cons.mp he with rfl | he
    · exact Comparison.closed_expression _
    · obtain ⟨branch, -, rfl⟩ := List.mem_map.mp he
      refine Expression.closed_gathered _ fun e he => ?_
      rw [← List.map_cons] at he
      obtain ⟨c, -, rfl⟩ := List.mem_map.mp he
      exact c.closed_expression

theorem holds_expressionBehind {o : ColumnOrders} (row : o.Row)
    (hlength : (key :: keys).length = (value :: values).length) :
    (expressionBehind key value (keys.zip values)).Holds o row ↔
      o.Before (key :: keys) (o.literals _ (value :: values) hlength) (o.tuple row _) := by
  have hbranch : (∃ branch ∈ branchesAfter ((key :: keys).zip (value :: values)),
      ∀ c ∈ branch, c.expression.Holds o row) ↔ _ :=
    exists_branch_iff row hlength (fun _ _ => Comparison.holds_past row _ _)
      fun _ _ => Comparison.holds_equal row _ _
  rw [← hbranch, expressionBehind, Expression.holds_gathered, List.zip_cons_cons, branchesAfter]
  simp [Expression.Connective.Quantifies, Expression.holds_gathered]

end Behind

variable {columns : List OrderColumn} {values : List Scalar}

/-- The expression of a predicate, and what it says. -/
theorem exists_expression (hne : columns ≠ []) (hlength : columns.length = values.length) :
    ∃ e, (behind columns values).HasExpression columns values e ∧
      ∀ (o : ColumnOrders) (row : o.Row), e.Holds o row ↔
        o.Before columns (o.literals columns values hlength) (o.tuple row columns) := by
  cases columns with
  | nil => exact absurd rfl hne
  | cons key keys =>
    cases values with
    | nil => cases hlength
    | cons value values =>
      exact ⟨_, hasExpression_behind key keys value values,
        fun o row => holds_expressionBehind key keys value values row hlength⟩

/-- The directions of the columns play no part in what is compared. -/
theorem HasExpression.of_reversed {seek : Seek} {e : Expression}
    (h : seek.HasExpression (columns.map OrderColumn.reversed) values e) :
    seek.HasExpression columns values e := by
  obtain ⟨htext, hcompared, hclear⟩ := h
  rw [List.map_map] at hcompared
  exact ⟨htext, hcompared, hclear⟩

theorem after_misaligned (h : columns = [] ∨ columns.length ≠ values.length) :
    after columns values = .error .misaligned := by
  rw [after, if_pos h]

/-- The first null among the values is reported. -/
theorem after_nullValue {front back : List OrderColumn} {key : OrderColumn}
    {earlier later : List Scalar} (hfront : front.length = earlier.length)
    (hback : back.length = later.length) (hearlier : .null ∉ earlier) :
    after (front ++ key :: back) (earlier ++ .null :: later) =
      .error (.nullValue key.column) := by
  have hnone : (front.zip earlier).find? (fun pair => pair.2 = .null) = none := by
    refine List.find?_eq_none.mpr fun pair hpair => ?_
    have hnull : pair.2 ≠ .null := fun h => hearlier (h ▸ (List.of_mem_zip hpair).2)
    simpa using hnull
  rw [after, if_neg (by simp [hfront, hback]), List.zip_append hfront, List.find?_append, hnone]
  rfl

/-- There is a predicate only when the columns and the values line up without nulls. -/
theorem aligned_of_after {seek : Seek} (h : after columns values = .ok seek) :
    columns ≠ [] ∧ columns.length = values.length ∧ .null ∉ values := by
  have haligned : ¬(columns = [] ∨ columns.length ≠ values.length) := by
    intro hmisaligned
    rw [after_misaligned hmisaligned] at h
    cases h
  obtain ⟨hne, hlength⟩ := not_or.mp haligned
  refine ⟨hne, not_not.mp hlength, fun hnull => ?_⟩
  rw [← List.map_snd_zip (not_not.mp hlength).ge] at hnull
  obtain ⟨pair, hpair, heq⟩ := List.mem_map.mp hnull
  rw [after, if_neg haligned] at h
  split at h
  · cases h
  · next hnone => exact absurd heq (by simpa using List.find?_eq_none.mp hnone pair hpair)

/-- **Seek predicates mean "strictly after".** There is a predicate exactly if there is a column, a
value for each column, and no null among the values; else the cursor is invalid, and the first null
is named. The text is that of a boolean expression over comparisons of the columns with their
values. However the columns are ordered, it holds of a row exactly if the tuple of the row comes
strictly after the values in the lexicographic order; with all directions reversed, exactly if it
comes strictly before them. So a row is behind the values, before them, or equal to them. -/
theorem means_strictly_after (columns : List OrderColumn) (values : List Scalar) :
    ((∃ seek, after columns values = .ok seek) ↔
      columns ≠ [] ∧ columns.length = values.length ∧ .null ∉ values) ∧
    (columns = [] ∨ columns.length ≠ values.length →
      (after columns values).mapError PlanError.invalidCursor =
        .error (.invalidCursor .misaligned)) ∧
    (∀ front key back earlier later, columns = front ++ key :: back →
      values = earlier ++ .null :: later → front.length = earlier.length →
      back.length = later.length → .null ∉ earlier →
        (after columns values).mapError PlanError.invalidCursor =
          .error (.invalidCursor (.nullValue key.column))) ∧
    ∀ (hlength : columns.length = values.length) (forward : Seek),
      after columns values = .ok forward →
        ∃ backward, after (columns.map OrderColumn.reversed) values = .ok backward ∧
          ∃ ahead back : Expression,
            forward.HasExpression columns values ahead ∧
            backward.HasExpression columns values back ∧
            ∀ (o : ColumnOrders) (row : o.Row),
              (ahead.Holds o row ↔
                o.Before columns (o.literals columns values hlength) (o.tuple row columns)) ∧
              (back.Holds o row ↔
                o.Before columns (o.tuple row columns) (o.literals columns values hlength)) ∧
              ExactlyOne (ahead.Holds o row) (back.Holds o row)
                (o.tuple row columns = o.literals columns values hlength) := by
  refine ⟨⟨fun ⟨seek, h⟩ => aligned_of_after h, fun ⟨hne, hlength, hvalues⟩ =>
    ⟨_, after_eq_ok hne hlength hvalues⟩⟩, fun h => ?_, ?_, fun hlength forward hforward => ?_⟩
  · rw [after_misaligned h]
    rfl
  · rintro front key back earlier later rfl rfl hfront hback hearlier
    rw [after_nullValue hfront hback hearlier]
    rfl
  · obtain ⟨hne, -, hvalues⟩ := aligned_of_after hforward
    rw [after_eq_ok hne hlength hvalues] at hforward
    cases hforward
    have hreversed : (columns.map OrderColumn.reversed).length = values.length := by
      rwa [List.length_map]
    have hneReversed : columns.map OrderColumn.reversed ≠ [] := by simpa using hne
    obtain ⟨ahead, hahead, haheadHolds⟩ := exists_expression hne hlength
    obtain ⟨back, hback, hbackHolds⟩ := exists_expression hneReversed hreversed
    refine ⟨_, after_eq_ok hneReversed hreversed hvalues, ahead, back, hahead, ?_, ?_⟩
    · exact hback.of_reversed
    · intro o row
      have hbackward := hbackHolds o row
      rw [← o.reversed_literals hlength, ← o.reversed_tuple, o.before_reversed] at hbackward
      refine ⟨haheadHolds o row, hbackward, ?_⟩
      rw [haheadHolds o row, hbackward]
      exact o.before_trichotomy _ _

/-- Of two namesakes of one day the later number comes first, so the row is behind the cursor in the
third column. -/
theorem means_strictly_after_of_namesakes :
    let columns : List OrderColumn := [⟨"day", .desc⟩, ⟨"name", .asc⟩, ⟨"id", .desc⟩]
    let values : List Scalar := [.integer 3, .text "O'Hara", .integer 7]
    let row : Collation.standard.columnOrders.Row := fun column =>
      if column = "day" then .integer 3 else if column = "name" then .text "O'Hara" else .integer 5
    (∃ forward, after columns values = .ok forward ∧
      forward.toSql .pg "p" = "(p.\"day\" < 3 OR (p.\"day\" = 3 AND p.\"name\" > 'O''Hara') OR " ++
        "(p.\"day\" = 3 AND p.\"name\" = 'O''Hara' AND p.\"id\" < 7))" ∧
      ∃ backward, after (columns.map OrderColumn.reversed) values = .ok backward ∧
        ∃ ahead back : Expression, forward.HasExpression columns values ahead ∧
          backward.HasExpression columns values back ∧
          ahead.Holds Collation.standard.columnOrders row ∧
          ¬back.Holds Collation.standard.columnOrders row) ∧
    (after [] []).mapError PlanError.invalidCursor = .error (.invalidCursor .misaligned) ∧
    (after columns [.integer 3, .null, .null]).mapError PlanError.invalidCursor =
      .error (.invalidCursor (.nullValue "name")) := by
  intro columns values row
  obtain ⟨-, -, -, hmeans⟩ := means_strictly_after columns values
  obtain ⟨backward, hbackward, ahead, back, hahead, hback, hholds⟩ := hmeans rfl _ rfl
  obtain ⟨hforward, hbehind, -⟩ := hholds Collation.standard.columnOrders row
  have hbefore : Collation.standard.columnOrders.Before columns
      (Collation.standard.columnOrders.literals columns values rfl)
      (Collation.standard.columnOrders.tuple row columns) :=
    (Collation.before_columnOrders _ row rfl).mpr (by decide)
  obtain ⟨-, hmisaligned, -, -⟩ := means_strictly_after [] []
  obtain ⟨-, -, hnull, -⟩ := means_strictly_after columns [.integer 3, .null, .null]
  exact ⟨⟨_, rfl, by decide, backward, hbackward, ahead, back, hahead, hback, hforward.mpr hbefore,
      fun h => ColumnOrders.before_asymm hbefore (hbehind.mp h)⟩,
    hmisaligned (.inl rfl),
    hnull [⟨"day", .desc⟩] ⟨"name", .asc⟩ [⟨"id", .desc⟩] [.integer 3] [.null] rfl rfl rfl rfl
      (by decide)⟩

end Seek

end RelationSql
