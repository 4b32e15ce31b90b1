import RelationSql.Proofs.Cursor.SortValues
import RelationSql.Proofs.Planner.BatchMembers
import RelationSql.Proofs.Sql.Tokens
import RelationSql.Proofs.SortSpec.Grammar
import Mathlib.Data.List.Forall2

/-!
# Literals tell values apart

The literal of a value says which value of its kind it is, except that a timestamp is cut off behind
the thousandths of a second. A literal also shows where it ends, before a blank or a parenthesis, so
that the values in a longer text can be told apart by the text.

* `Legible` — two texts that agree, with something behind each, say the same;
* `legible_literal`, `literal_eq_iff` — the literals of one kind;
* `Seek.toSql_behind_eq_iff` — seek predicates are equal exactly if their values are, as far as
  literals show them;
* `Cursor.toSql_seekAfter_eq_iff` — the same for the predicates that seek behind cursors.
-/

namespace RelationSql

/-- The value as far as its literal shows it. -/
def Scalar.toMillis : Scalar → Scalar
  | timestamp t => timestamp t.toMillis
  | value => value

/-- Two values that literals show as one. -/
def Scalar.LooksLike (v w : Scalar) : Prop := v.toMillis = w.toMillis

instance (v w : Scalar) : Decidable (v.LooksLike w) :=
  inferInstanceAs (Decidable (v.toMillis = w.toMillis))

/-! ## Texts that show where they end -/

/-- What may stand behind a literal: nothing, a blank or a closing parenthesis. -/
def EndsLiteral (rest : List Char) : Prop := ∀ c, rest.head? = some c → c = ' ' ∨ c = ')'

/-- Two texts show that something is so: if each stands before what may end a literal and the whole
is the same, then it is so, and the same is left behind them. A number can be the start of another
one, so that what is left matters. -/
def Legible (s t : String) (same : Prop) : Prop :=
  ∀ ⦃rest rest' : List Char⦄, EndsLiteral rest → EndsLiteral rest' →
    s.toList ++ rest = t.toList ++ rest' → same ∧ rest = rest'

namespace EndsLiteral

theorem nil : EndsLiteral [] := fun c hc => by cases hc

theorem closing (rest : List Char) : EndsLiteral (')' :: rest) := fun c hc => by
  cases hc
  exact .inr rfl

/-- A word between blanks ends what stands before it. -/
theorem word {word : String} (hword : word.toList.head? = some ' ') (rest : List Char) :
    EndsLiteral (word.toList ++ rest) := by
  obtain ⟨behind, hbehind⟩ := List.head?_eq_some_iff.mp hword
  intro c hc
  rw [hbehind] at hc
  cases hc
  exact .inl rfl

end EndsLiteral

namespace Legible

variable {s t s' t' word : String} {p q : Prop}

theorem eq (h : Legible s t p) (heq : s = t) : p :=
  (h .nil .nil (by rw [heq])).1

theorem imp (h : Legible s t p) (hpq : p → q) : Legible s t q := by
  intro rest rest' hrest hrest' heq
  obtain ⟨hp, hends⟩ := h hrest hrest' heq
  exact ⟨hpq hp, hends⟩

/-- Behind the same text. -/
theorem lead (front : String) (h : Legible s t p) : Legible (front ++ s) (front ++ t) p := by
  intro rest rest' hrest hrest' heq
  rw [String.toList_append, String.toList_append, List.append_assoc, List.append_assoc] at heq
  exact h hrest hrest' (List.append_cancel_left heq)

theorem closed (h : Legible s t p) : Legible (s ++ ")") (t ++ ")") p := by
  intro rest rest' hrest hrest' heq
  rw [String.toList_append, String.toList_append, List.append_assoc, List.append_assoc] at heq
  obtain ⟨hp, hends⟩ := h (.closing rest) (.closing rest') heq
  exact ⟨hp, (List.cons.inj hends).2⟩

/-- On both sides of a word. -/
theorem separated (hs : Legible s t p) (hword : word.toList.head? = some ' ')
    (hs' : Legible s' t' q) : Legible (s ++ word ++ s') (t ++ word ++ t') (p ∧ q) := by
  intro rest rest' hrest hrest' heq
  simp only [String.toList_append, List.append_assoc] at heq
  obtain ⟨hp, hbehind⟩ := hs (.word hword _) (.word hword _) heq
  obtain ⟨hq, hends⟩ := hs' hrest hrest' (List.append_cancel_left hbehind)
  exact ⟨⟨hp, hq⟩, hends⟩

section Lists

variable {α : Type} {text : α → String} {same : α → α → Prop} {xs ys : List α}

theorem intercalate (hword : word.toList.head? = some ' ')
    (h : List.Forall₂ (fun x y => Legible (text x) (text y) (same x y)) xs ys) :
    Legible (word.intercalate (xs.map text)) (word.intercalate (ys.map text))
      (List.Forall₂ same xs ys) := by
  induction h with
  | nil => exact fun _ _ _ _ heq => ⟨.nil, heq⟩
  | cons hfirst hrest ih =>
    cases hrest with
    | nil => exact hfirst.imp fun hxy => .cons hxy .nil
    | cons hnext hrest =>
      simp only [List.map_cons, String.intercalate_cons_cons] at ih ⊢
      exact (hfirst.separated hword ih).imp fun ⟨hxy, hothers⟩ => .cons hxy hothers

theorem grouped (hword : word.toList.head? = some ' ')
    (h : List.Forall₂ (fun x y => Legible (text x) (text y) (same x y)) xs ys) :
    Legible (grouped word (xs.map text)) (grouped word (ys.map text))
      (List.Forall₂ same xs ys) := by
  have hall := ((intercalate hword h).lead "(").closed
  cases h with
  | nil => exact hall
  | cons hfirst hrest =>
    cases hrest with
    | nil => exact hfirst.imp fun hxy => .cons hxy .nil
    | cons => exact hall

end Lists

end Legible

theorem grouped_congr {α : Type} {text : α → String} {word : String} {xs ys : List α}
    (h : List.Forall₂ (fun x y => text x = text y) xs ys) :
    grouped word (xs.map text) = grouped word (ys.map text) := by
  have hmap : xs.map text = ys.map text := by
    rw [← List.forall₂_eq_eq_eq, List.forall₂_map_left_iff, List.forall₂_map_right_iff]
    exact h
  rw [hmap]

/-! ## Literals -/

/-- The characters of a number. -/
def isNumberChar (c : Char) : Bool := c = '-' || c.isDigit

theorem isNumberChar_of_mem {n : Int} {c : Char} (hc : c ∈ Text.signedNumeral n) :
    isNumberChar c = true := by
  have hdigit (hc : c ∈ Text.numeral n.natAbs) : isNumberChar c = true := by
    rw [isNumberChar, Nat.isDigit_of_mem_toDigits (by decide) (by decide) hc, Bool.or_true]
  rw [Text.signedNumeral] at hc
  split at hc
  · rcases List.mem_cons.mp hc with rfl | hc
    · rfl
    · exact hdigit hc
  · exact hdigit hc

theorem signedNumeral_inj {m n : Int64}
    (h : Text.signedNumeral m.toInt = Text.signedNumeral n.toInt) : m = n := by
  have hread (n : Int64) : Json.readNumber (Text.signedNumeral n.toInt ++ []) =
      some (.integer n.toInt, []) := by
    have hhigh : n.toInt < UInt64.size := Int.lt_of_le_of_lt n.toInt_le (by decide)
    exact Json.readNumber_signedNumeral n.minValue_le_toInt hhigh Json.endsValue_nil
  have hm := hread m
  rw [h, hread n] at hm
  obtain ⟨hnumber, -⟩ := Prod.mk.inj (Option.some.inj hm)
  exact Int64.toInt_inj.mp (Json.integer.inj hnumber).symm

/-- A number ends where none of its characters stands. -/
theorem legible_signedText (m n : Int64) :
    Legible (Text.signedText m) (Text.signedText n) (m = n) := by
  intro rest rest' hrest hrest' heq
  -- what may end a literal is no character of a number, so the text splits in one way only
  have hsplit (n : Int64) {rest : List Char} (hrest : EndsLiteral rest) :
      (Text.signedNumeral n.toInt ++ rest).takeWhile isNumberChar = Text.signedNumeral n.toInt ∧
        (Text.signedNumeral n.toInt ++ rest).dropWhile isNumberChar = rest := by
    refine SortSpec.takeWhile_append_of_head (fun c hc => isNumberChar_of_mem hc) fun c hc => ?_
    rcases hrest c hc with rfl | rfl <;> rfl
  rw [Text.signedText, Text.signedText, String.toList_ofList, String.toList_ofList] at heq
  obtain ⟨htake, hdrop⟩ := hsplit m hrest
  rw [heq, (hsplit n hrest').1] at htake
  rw [heq, (hsplit n hrest').2] at hdrop
  exact ⟨signedNumeral_inj htake.symm, hdrop.symm⟩

/-- A quoted text ends behind its mark. -/
theorem legible_singleQuoted (s t : String) :
    Legible (Text.singleQuoted s) (Text.singleQuoted t) (s = t) := by
  intro rest rest' hrest hrest' heq
  have hread (s : String) {rest : List Char} (hrest : EndsLiteral rest) :
      readText .standard ((Text.singleQuoted s).toList ++ rest) = some (s.toList, rest) := by
    refine readText_singleQuoted s fun hhead => ?_
    rcases hrest _ hhead with h | h <;> cases h
  have hs := hread s hrest
  rw [heq, hread t hrest'] at hs
  obtain ⟨htext, hends⟩ := Prod.mk.inj (Option.some.inj hs)
  exact ⟨String.toList_inj.mp htext.symm, hends.symm⟩

section Builtin

variable (n : DialectName)

/-- A timestamp is a quoted text to the thousandth of a second, behind a word in some dialects. -/
theorem exists_literal_timestamp : ∃ (front : String) (form : Timestamp → String),
    (∀ t, n.dialect.literal (.timestamp t) = front ++ Text.singleQuoted (form t)) ∧
      ∀ t u, form t = form u ↔ t.toMillis = u.toMillis := by
  have hstandard (t : Timestamp) : standardLiteral (.timestamp t) =
      "" ++ Text.singleQuoted t.millisText := (String.empty_append).symm
  cases n with
  | oracle => exact ⟨_, Timestamp.plainText, Dialect.oracle_literal_timestamp, fun _ _ =>
      Timestamp.plainText_eq_iff⟩
  | _ => exact ⟨"", Timestamp.millisText, hstandard, fun _ _ => Timestamp.millisText_eq_iff⟩

/-- **Literals of one kind** tell their values apart, wherever they stand. -/
theorem legible_literal {v w : Scalar} (h : v.SameKind w) :
    Legible (n.dialect.literal v) (n.dialect.literal w) (v.LooksLike w) := by
  cases h with
  | integer m k =>
    have hliteral (k : Int64) : n.dialect.literal (.integer k) = Text.signedText k := by
      cases n <;> rfl
    rw [hliteral, hliteral]
    exact (legible_signedText m k).imp (congrArg _)
  | text s t =>
    have hliteral (s : String) : n.dialect.literal (.text s) = Text.singleQuoted s := by
      cases n <;> rfl
    rw [hliteral, hliteral]
    exact (legible_singleQuoted s t).imp (congrArg _)
  | timestamp t u =>
    obtain ⟨front, form, hliteral, hform⟩ := exists_literal_timestamp n
    rw [hliteral, hliteral]
    exact ((legible_singleQuoted (form t) (form u)).lead front).imp fun h =>
      congrArg Scalar.timestamp ((hform t u).mp h)

/-- What a literal does not show is not in it. -/
theorem literal_toMillis (v : Scalar) : n.dialect.literal v.toMillis = n.dialect.literal v := by
  cases v with
  | timestamp t =>
    obtain ⟨front, form, hliteral, hform⟩ := exists_literal_timestamp n
    rw [Scalar.toMillis, hliteral, hliteral, (hform t.toMillis t).mpr t.toMillis_toMillis]
  | _ => rfl

theorem literal_eq_of_looksLike {v w : Scalar} (h : v.LooksLike w) :
    n.dialect.literal v = n.dialect.literal w := by
  rw [← literal_toMillis n v, h, literal_toMillis n w]

theorem literal_eq_iff {v w : Scalar} (h : v.SameKind w) :
    n.dialect.literal v = n.dialect.literal w ↔ v.LooksLike w :=
  ⟨(legible_literal n h).eq, literal_eq_of_looksLike n⟩

end Builtin

/-! ## Seek predicates -/

/-- The same comparison, with values that are related. -/
def Comparison.Alike (related : Scalar → Scalar → Prop) (c c' : Comparison) : Prop :=
  c.column = c'.column ∧ c.comparator = c'.comparator ∧ related c.value c'.value

namespace Seek

/-- Two predicates behind values have the same comparisons exactly if the values are related one by
one: each value stands in a branch. -/
theorem forall₂_branchesAfter_iff {related : Scalar → Scalar → Prop} {columns : List OrderColumn}
    {values values' : List Scalar} (hlength : columns.length = values.length)
    (hlength' : columns.length = values'.length) :
    List.Forall₂ (List.Forall₂ (Comparison.Alike related)) (behind columns values).branches
      (behind columns values').branches ↔ List.Forall₂ related values values' := by
  simp only [behind]
  induction columns generalizing values values' with
  | nil =>
    obtain rfl := List.eq_nil_of_length_eq_zero hlength.symm
    obtain rfl := List.eq_nil_of_length_eq_zero hlength'.symm
    simp [branchesAfter]
  | cons key columns ih =>
    obtain ⟨value, values, rfl⟩ := List.exists_cons_of_length_eq_add_one hlength.symm
    obtain ⟨value', values', rfl⟩ := List.exists_cons_of_length_eq_add_one hlength'.symm
    have hrest := ih (Nat.succ.inj hlength) (Nat.succ.inj hlength')
    simp only [List.zip_cons_cons, branchesAfter, List.forall₂_cons, List.forall₂_map_left_iff,
      List.forall₂_map_right_iff, List.forall₂_nil_left_iff, and_true]
    -- the value of the first column stands in each branch, with the same relation
    constructor
    · rintro ⟨hfirst, hothers⟩
      exact ⟨hfirst.2.2, hrest.mp (hothers.imp fun _ _ h => h.2)⟩
    · rintro ⟨hfirst, hothers⟩
      exact ⟨⟨rfl, rfl, hfirst⟩, (hrest.mpr hothers).imp fun _ _ h => ⟨⟨rfl, rfl, hfirst⟩, h⟩⟩

variable (n : DialectName) (table : String)

theorem legible_comparison {c c' : Comparison} (h : c.Alike Scalar.SameKind c') :
    Legible (c.toSql n.dialect table) (c'.toSql n.dialect table)
      (c.Alike Scalar.LooksLike c') := by
  obtain ⟨hcolumn, hcomparator, hkind⟩ := h
  have hvalues := (legible_literal n hkind).lead
    (table ++ "." ++ n.dialect.quote c.column ++ " " ++ c.comparator.symbol ++ " ")
  rw [Comparison.toSql, Comparison.toSql, ← hcolumn, ← hcomparator]
  exact hvalues.imp fun h => ⟨hcolumn, hcomparator, h⟩

theorem toSql_comparison {c c' : Comparison} (h : c.Alike Scalar.LooksLike c') :
    c.toSql n.dialect table = c'.toSql n.dialect table := by
  obtain ⟨hcolumn, hcomparator, hvalue⟩ := h
  rw [Comparison.toSql, Comparison.toSql, hcolumn, hcomparator, literal_eq_of_looksLike n hvalue]

/-- **Seek predicates tell their values apart**, as far as literals show them. -/
theorem toSql_behind_eq_iff {columns : List OrderColumn} {values values' : List Scalar}
    (hlength : columns.length = values.length)
    (hkinds : List.Forall₂ Scalar.SameKind values values') :
    (behind columns values).toSql n.dialect table = (behind columns values').toSql n.dialect table ↔
      List.Forall₂ Scalar.LooksLike values values' := by
  have hlength' := hlength.trans hkinds.length_eq
  rw [← forall₂_branchesAfter_iff hlength hlength']
  rw [← forall₂_branchesAfter_iff hlength hlength'] at hkinds
  constructor
  · refine (Legible.grouped rfl (hkinds.imp fun branch branch' hbranch => ?_)).eq
    exact Legible.grouped rfl (hbranch.imp fun _ _ => legible_comparison n table)
  · intro halike
    refine grouped_congr (halike.imp fun branch branch' hbranch => ?_)
    exact grouped_congr (hbranch.imp fun _ _ => toSql_comparison n table)

end Seek

/-! ## Cursors -/

namespace Cursor

variable {text text' : String} {cursor cursor' : Cursor} {columns : List OrderColumn}
  {seek seek' : Seek}

/-- Two cursors hold the same in a column, as far as literals show it. -/
def ShowsLike (cursor cursor' : Cursor) (column : String) : Prop :=
  (cursor.get? column).map Scalar.toMillis = (cursor'.get? column).map Scalar.toMillis

instance (cursor cursor' : Cursor) (column : String) :
    Decidable (cursor.ShowsLike cursor' column) :=
  inferInstanceAs (Decidable (_ = _))

/-- What is sought behind a cursor is behind the values that it holds for the columns. -/
theorem exists_of_seekAfter (hread : decode text = .ok cursor)
    (hseek : Relation.seekAfter columns text = .ok seek) : ∃ value : OrderColumn → Scalar,
      (∀ key ∈ columns, cursor.get? key.column = some (value key)) ∧
        seek = Seek.behind columns (columns.map value) := by
  rw [seekAfter_of_decode hread] at hseek
  obtain ⟨values, hvalues, hafter⟩ := bind_eq_ok hseek
  obtain ⟨hne, hlength, hnull⟩ := Seek.aligned_of_after hafter
  rw [Seek.after_eq_ok hne hlength hnull] at hafter
  cases hafter
  have hheld := (valuesFor_eq_ok_iff.mp hvalues).2
  refine ⟨fun key => (cursor.get? key.column).getD .null, fun key hkey => ?_, ?_⟩
  · have hmem : cursor.get? key.column ∈ values.map some := hheld ▸ List.mem_map_of_mem hkey
    obtain ⟨value, -, hvalue⟩ := List.mem_map.mp hmem
    simp only [← hvalue, Option.getD_some]
  · have hvalues : columns.map (fun key => (cursor.get? key.column).getD .null) = values := by
      simpa [Function.comp_def] using congrArg (List.map (Option.getD · .null)) hheld
    rw [hvalues]

/-- Cursors that show the same values, and only those, give the same predicate. -/
theorem toSql_seekAfter_eq_iff (n : DialectName) (table : String)
    (hread : decode text = .ok cursor) (hread' : decode text' = .ok cursor')
    (hkinds : ∀ key ∈ columns, ∀ v ∈ cursor.get? key.column, ∀ w ∈ cursor'.get? key.column,
      v.SameKind w)
    (hseek : Relation.seekAfter columns text = .ok seek)
    (hseek' : Relation.seekAfter columns text' = .ok seek') :
    seek.toSql n.dialect table = seek'.toSql n.dialect table ↔
      ∀ key ∈ columns, cursor.ShowsLike cursor' key.column := by
  obtain ⟨value, hvalue, rfl⟩ := exists_of_seekAfter hread hseek
  obtain ⟨value', hvalue', rfl⟩ := exists_of_seekAfter hread' hseek'
  have hpointwise {related : Scalar → Scalar → Prop} :
      List.Forall₂ related (columns.map value) (columns.map value') ↔
        ∀ key ∈ columns, related (value key) (value' key) := by
    rw [List.forall₂_map_left_iff, List.forall₂_map_right_iff, List.forall₂_same]
  have hkinds' := hpointwise.mpr fun key hkey =>
    hkinds key hkey _ (hvalue key hkey) _ (hvalue' key hkey)
  rw [Seek.toSql_behind_eq_iff n table (List.length_map value).symm hkinds', hpointwise]
  refine forall₂_congr fun key hkey => ?_
  rw [ShowsLike, hvalue key hkey, hvalue' key hkey, Option.map_some, Option.map_some,
    Option.some.injEq, Scalar.LooksLike]

/-- A cursor that is sought behind holds nothing but the values of the sort key. -/
theorem get?_eq_none_of_seekAfter (hread : decode text = .ok cursor)
    (hcolumns : (columns.map OrderColumn.column).Nodup)
    (hseek : Relation.seekAfter columns text = .ok seek) {column : String}
    (hcolumn : column ∉ columns.map OrderColumn.column) : cursor.get? column = none := by
  rw [seekAfter_of_decode hread] at hseek
  obtain ⟨values, hvalues, -⟩ := bind_eq_ok hseek
  have hnodup := (wellFormed_of_decode hread).nodup
  have hperm := (exists_valuesFor_iff_perm hnodup hcolumns).mp ⟨values, hvalues⟩
  rw [← hperm.mem_iff] at hcolumn
  refine Option.eq_none_iff_forall_ne_some.mpr fun value hvalue => hcolumn ?_
  exact List.mem_map_of_mem (f := Prod.fst) ((get?_eq_some_iff hnodup).mp hvalue)

theorem forall_showsLike_iff (hread : decode text = .ok cursor)
    (hread' : decode text' = .ok cursor') (hcolumns : (columns.map OrderColumn.column).Nodup)
    (hseek : Relation.seekAfter columns text = .ok seek)
    (hseek' : Relation.seekAfter columns text' = .ok seek') :
    (∀ column, cursor.ShowsLike cursor' column) ↔
      ∀ key ∈ columns, cursor.ShowsLike cursor' key.column := by
  constructor
  · exact fun h key _ => h key.column
  · intro h column
    by_cases hcolumn : column ∈ columns.map OrderColumn.column
    · obtain ⟨key, hkey, rfl⟩ := List.mem_map.mp hcolumn
      exact h key hkey
    · rw [ShowsLike, get?_eq_none_of_seekAfter hread hcolumns hseek hcolumn,
        get?_eq_none_of_seekAfter hread' hcolumns hseek' hcolumn]

end Cursor

end RelationSql
