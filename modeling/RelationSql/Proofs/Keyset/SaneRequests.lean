import RelationSql.Proofs.Cursor.Codec
import RelationSql.Proofs.Keyset.Request
import RelationSql.Proofs.Keyset.SeekExpression

/-!
# Sane requests

Which requests are interpreted at all when pages are sought by a sort key, said of the arguments as
they are given. There are four groups of conditions, checked in this order:

* `Args.Readable` — every argument has the form it should have, and rows are counted from one end;
* the sort key has a column;
* `Args.OneSided` — the cursor is on the side that rows are counted from;
* `Args.CursorFits` — the cursor can be read and gives every sort column a value.

`keysetPaging_ok_iff_sane` says that these are all conditions, and how a request is refused by the
first one that fails.
-/

namespace RelationSql

/-! ## Counts -/

namespace Text

/-- Some digits denote a number. -/
structure Denotes (digits : List Char) (n : Nat) : Prop where
  /-- there is a digit -/
  nonempty : digits ≠ []
  /-- all of them are decimal digits -/
  isDigit : ∀ c ∈ digits, c.isDigit = true
  /-- the number they denote, leading zeros or not -/
  value : Nat.ofDigitChars 10 digits 0 = n

theorem natural?_eq_some_iff {cs : List Char} {n : Nat} : natural? cs = some n ↔ Denotes cs n := by
  rw [natural?]
  constructor
  · intro h
    split at h
    · next hcs => exact ⟨hcs.1, List.all_eq_true.mp hcs.2, Option.some.inj h⟩
    · cases h
  · rintro ⟨hne, hdigits, rfl⟩
    rw [if_pos ⟨hne, List.all_eq_true.mpr hdigits⟩]

/-- A count is written as digits, with a plus before them or without. -/
theorem unsigned?_eq_some_iff {cs : List Char} {n : UInt64} : unsigned? cs = some n ↔
    ∃ sign digits, cs = sign ++ digits ∧ (sign = [] ∨ sign = ['+']) ∧ Denotes digits n.toNat := by
  have hbounded (digits : List Char) : ((natural? digits).bind fun n =>
      if n < UInt64.size then some (UInt64.ofNat n) else none) = some n ↔
        Denotes digits n.toNat := by
    rw [Option.bind_eq_some_iff]
    constructor
    · rintro ⟨value, hvalue, h⟩
      split at h
      · next hlt =>
        cases h
        rw [UInt64.toNat_ofNat_of_lt' hlt]
        exact natural?_eq_some_iff.mp hvalue
      · cases h
    · intro h
      refine ⟨n.toNat, natural?_eq_some_iff.mpr h, ?_⟩
      rw [if_pos n.toNat_lt, UInt64.ofNat_toNat]
  constructor
  · intro h
    by_cases hplus : ∃ rest, cs = '+' :: rest
    · obtain ⟨rest, rfl⟩ := hplus
      exact ⟨['+'], rest, rfl, .inr rfl, (hbounded rest).mp h⟩
    · rw [unsigned?] at h
      · exact ⟨[], cs, rfl, .inl rfl, (hbounded cs).mp h⟩
      · exact fun rest hcs => hplus ⟨rest, hcs⟩
  · rintro ⟨sign, digits, rfl, rfl | rfl, h⟩
    · -- a plus is no digit, so that nothing is cut off here
      have hplus (rest : List Char) : digits ≠ '+' :: rest := by
        rintro rfl
        exact absurd (h.isDigit _ List.mem_cons_self) (by decide)
      rw [List.nil_append, unsigned?]
      · exact (hbounded digits).mpr h
      · exact hplus
    · exact (hbounded digits).mpr h

/-- Blanks in front are dropped, and nothing else. -/
theorem dropBlanks_append {front core : List Char} (hfront : ∀ c ∈ front, isBlank c = true)
    (hne : core ≠ []) (hcore : ∀ c ∈ core, isBlank c = false) (rest : List Char) :
    dropBlanks (front ++ (core ++ rest)) = core ++ rest := by
  rw [dropBlanks, List.dropWhile_append_of_pos hfront]
  obtain ⟨c, cs, rfl⟩ := List.exists_cons_of_ne_nil hne
  exact dropBlanks_cons (hcore c List.mem_cons_self) _

/-- What stands between blanks and has none is what trimming leaves. -/
theorem trimChars_append {front core back : List Char} (hfront : ∀ c ∈ front, isBlank c = true)
    (hback : ∀ c ∈ back, isBlank c = true) (hne : core ≠ [])
    (hcore : ∀ c ∈ core, isBlank c = false) : trimChars (front ++ (core ++ back)) = core := by
  have hfirst := dropBlanks_append hfront hne hcore back
  have hlast : dropBlanks (back.reverse ++ (core.reverse ++ [])) = core.reverse ++ [] := by
    apply dropBlanks_append
    · exact fun c hc => hback c (List.mem_reverse.mp hc)
    · simpa using hne
    · exact fun c hc => hcore c (List.mem_reverse.mp hc)
  rw [List.append_nil, ← List.reverse_append] at hlast
  rw [trimChars, hfirst, hlast, List.reverse_reverse]

/-- Trimming cuts off blanks only. -/
theorem exists_blanks (cs : List Char) : ∃ front back, cs = front ++ (trimChars cs ++ back) ∧
    (∀ c ∈ front, isBlank c = true) ∧ ∀ c ∈ back, isBlank c = true := by
  refine ⟨cs.takeWhile isBlank, ((dropBlanks cs).reverse.takeWhile isBlank).reverse, ?_, ?_, ?_⟩
  · have hback := (dropBlanks cs).reverse.takeWhile_append_dropWhile (p := isBlank)
    have hcore := congrArg List.reverse hback
    rw [List.reverse_append, List.reverse_reverse] at hcore
    rw [trimChars, dropBlanks, hcore, dropBlanks, List.takeWhile_append_dropWhile]
  · intro c hc
    exact List.all_eq_true.mp List.all_takeWhile c hc
  · intro c hc
    exact List.all_eq_true.mp List.all_takeWhile c (List.mem_reverse.mp hc)

/-- A text writes a count: blanks, a plus or no sign, digits that denote the count, and blanks. -/
def WritesCount (s : String) (n : UInt64) : Prop :=
  ∃ front sign digits back, s.toList = front ++ (sign ++ digits ++ back) ∧
    (∀ c ∈ front, isBlank c = true) ∧ (∀ c ∈ back, isBlank c = true) ∧
    (sign = [] ∨ sign = ['+']) ∧ Denotes digits n.toNat

/-- Neither a sign nor a digit is a blank. -/
theorem isBlank_of_mem_count {sign digits : List Char} (hsign : sign = [] ∨ sign = ['+'])
    {n : Nat} (h : Denotes digits n) {c : Char} (hc : c ∈ sign ++ digits) : isBlank c = false := by
  rcases List.mem_append.mp hc with hc | hc
  · rcases hsign with rfl | rfl
    · cases hc
    · cases List.mem_singleton.mp hc
      decide
  · exact isBlank_of_isDigit (h.isDigit c hc)

theorem writesCount_iff {s : String} {n : UInt64} :
    unsigned? (trimChars s.toList) = some n ↔ WritesCount s n := by
  rw [unsigned?_eq_some_iff]
  constructor
  · rintro ⟨sign, digits, htrim, hsign, h⟩
    obtain ⟨front, back, hs, hfront, hback⟩ := exists_blanks s.toList
    rw [htrim] at hs
    exact ⟨front, sign, digits, back, hs, hfront, hback, hsign, h⟩
  · rintro ⟨front, sign, digits, back, hs, hfront, hback, hsign, h⟩
    refine ⟨sign, digits, ?_, hsign, h⟩
    rw [hs]
    apply trimChars_append hfront hback
    · simp [h.nonempty]
    · exact fun c hc => isBlank_of_mem_count hsign h hc

theorem uint64OfInt?_eq_some_iff {m : Int} {n : UInt64} :
    uint64OfInt? m = some n ↔ m = n.toNat := by
  rw [uint64OfInt?]
  constructor
  · intro h
    split at h
    · next hm =>
      have hlt : m.toNat < UInt64.size := by omega
      rw [← Option.some.inj h, UInt64.toNat_ofNat_of_lt' hlt, Int.toNat_of_nonneg hm.1]
    · cases h
  · rintro rfl
    have hlt := n.toNat_lt
    rw [if_pos ⟨Int.natCast_nonneg _, by exact_mod_cast hlt⟩, Int.toNat_natCast,
      UInt64.ofNat_toNat]

end Text

/-- A value gives a count: a number of 64 bits, or a text that writes one. -/
inductive Json.GivesCount : Json → UInt64 → Prop where
  /-- the number itself -/
  | number (n : UInt64) : GivesCount (.integer n.toNat) n
  /-- a text of it -/
  | text {s : String} {n : UInt64} (h : Text.WritesCount s n) : GivesCount (.text s) n

theorem countOf?_eq_some_iff {value : Json} {n : UInt64} :
    countOf? value = some n ↔ value.GivesCount n := by
  constructor
  · intro h
    cases value with
    | integer m =>
      obtain rfl := Text.uint64OfInt?_eq_some_iff.mp h
      exact .number n
    | text s => exact .text (Text.writesCount_iff.mp h)
    | _ => cases h
  · intro h
    cases h with
    | number => exact Text.uint64OfInt?_eq_some_iff.mpr rfl
    | text h => exact Text.writesCount_iff.mpr h

/-! ## Arguments -/

namespace Args

/-- An argument has a value other than null. -/
def Given (args : Args) (name : String) : Prop :=
  ∃ value, args.get? name = some value ∧ value ≠ .null

/-- An argument is absent or null, or else a count. -/
def IsCount (args : Args) (name : String) : Prop :=
  ∀ value, args.get? name = some value → value ≠ .null → ∃ n, value.GivesCount n

/-- An argument is absent or null, or else a text. -/
def IsCursor (args : Args) (name : String) : Prop :=
  ∀ value, args.get? name = some value → value ≠ .null → ∃ s, value = .text s

/-- Every argument has the form it should have, and rows are counted from one end. -/
structure Readable (args : Args) : Prop where
  /-- the number of rows from the start -/
  first : args.IsCount "first"
  /-- the number of rows from the end -/
  last : args.IsCount "last"
  /-- the cursor before the page -/
  after : args.IsCursor "after"
  /-- the cursor behind the page -/
  before : args.IsCursor "before"
  /-- not both counts are given -/
  oneEnd : ¬(args.Given "first" ∧ args.Given "last")

/-- There is no cursor on the side that rows are not counted from. -/
structure OneSided (args : Args) : Prop where
  /-- a page of last rows has no start -/
  after : ¬(args.Given "after" ∧ args.Given "last")
  /-- a page of first rows has no end -/
  before : args.Given "before" → args.Given "last"

/-- The cursor on the side that rows are counted from. -/
def UsesCursor (args : Args) (text : String) : Prop :=
  (args.Given "last" ∧ args.get? "before" = some (.text text)) ∨
    (¬args.Given "last" ∧ args.get? "after" = some (.text text))

theorem not_given_of_absent {args : Args} {name : String} (h : args.get? name = none) :
    ¬args.Given name := by
  rintro ⟨value, hvalue, -⟩
  rw [h] at hvalue
  cases hvalue

theorem not_given_of_null {args : Args} {name : String} (h : args.get? name = some .null) :
    ¬args.Given name := by
  rintro ⟨value, hvalue, hnull⟩
  rw [h] at hvalue
  exact hnull (Option.some.inj hvalue).symm

/-- A cursor that is given is a text. -/
theorem given_iff_text {args : Args} {name : String} (h : args.IsCursor name) :
    args.Given name ↔ ∃ s, args.get? name = some (.text s) := by
  constructor
  · rintro ⟨value, hvalue, hnull⟩
    obtain ⟨s, rfl⟩ := h value hvalue hnull
    exact ⟨s, hvalue⟩
  · rintro ⟨s, hs⟩
    exact ⟨.text s, hs, fun hnull => by cases hnull⟩

/-- A count that is read is one, and tells whether it is given. -/
theorem isCount_of_count {args : Args} {name : String} {n? : Option UInt64}
    (h : args.count name = .ok n?) :
    args.IsCount name ∧ (n?.isSome = true ↔ args.Given name) := by
  rw [count] at h
  split at h
  · next habsent =>
    cases h
    have hnot := not_given_of_absent habsent
    exact ⟨fun value hvalue hnull => absurd ⟨value, hvalue, hnull⟩ hnot, by simpa using hnot⟩
  · next hnull =>
    cases h
    have hnot := not_given_of_null hnull
    exact ⟨fun value hvalue hnull => absurd ⟨value, hvalue, hnull⟩ hnot, by simpa using hnot⟩
  · next value hnull hvalue =>
    split at h
    · next n hn =>
      cases h
      refine ⟨fun other hother _ => ?_, ?_⟩
      · cases hvalue.symm.trans hother
        exact ⟨n, countOf?_eq_some_iff.mp hn⟩
      · simpa using ⟨value, hvalue, fun heq => hnull (heq ▸ rfl)⟩
    · cases h

/-- What is a count is read. -/
theorem exists_count {args : Args} {name : String} (h : args.IsCount name) :
    ∃ n?, args.count name = .ok n? := by
  rw [count]
  split
  · exact ⟨none, rfl⟩
  · exact ⟨none, rfl⟩
  · next value hnull hvalue =>
    obtain ⟨n, hn⟩ := h value hvalue fun heq => hnull (heq ▸ rfl)
    rw [countOf?_eq_some_iff.mpr hn]
    exact ⟨some n, rfl⟩

/-- A cursor that is read is one. -/
theorem isCursor_of_cursor {args : Args} {name : String} {s? : Option String}
    (h : args.cursor name = .ok s?) :
    args.IsCursor name ∧ ∀ s, s? = some s ↔ args.get? name = some (.text s) := by
  rw [cursor] at h
  split at h
  · next habsent =>
    cases h
    have hnot := not_given_of_absent habsent
    exact ⟨fun value hvalue hnull => absurd ⟨value, hvalue, hnull⟩ hnot, by simp [habsent]⟩
  · next hnull =>
    cases h
    have hnot := not_given_of_null hnull
    exact ⟨fun value hvalue hnull => absurd ⟨value, hvalue, hnull⟩ hnot, by simp [hnull]⟩
  · next s hs =>
    cases h
    refine ⟨fun value hvalue _ => ?_, by simp [hs]⟩
    cases hs.symm.trans hvalue
    exact ⟨s, rfl⟩
  · cases h

/-- What is a cursor is read. -/
theorem exists_cursor {args : Args} {name : String} (h : args.IsCursor name) :
    ∃ s?, args.cursor name = .ok s? := by
  rw [cursor]
  split
  · exact ⟨none, rfl⟩
  · exact ⟨none, rfl⟩
  · next s _ => exact ⟨some s, rfl⟩
  · next value hnull htext hvalue =>
    obtain ⟨s, rfl⟩ := h value hvalue fun heq => hnull (heq ▸ rfl)
    exact absurd rfl (htext s)

end Args

namespace PageArgs

/-- Arguments as they are read from those that are given. -/
structure ReadFrom (a : PageArgs) (args : Args) : Prop where
  /-- the first count is there if it is given -/
  first : a.first.isSome = true ↔ args.Given "first"
  /-- so is the last one -/
  last : a.last.isSome = true ↔ args.Given "last"
  /-- and the cursor before the page -/
  after : a.after.isSome = true ↔ args.Given "after"
  /-- and the one behind it -/
  before : a.before.isSome = true ↔ args.Given "before"
  /-- the cursor before the page is the given text -/
  after_eq_some : ∀ s, a.after = some s ↔ args.get? "after" = some (.text s)
  /-- so is the one behind it -/
  before_eq_some : ∀ s, a.before = some s ↔ args.get? "before" = some (.text s)

/-- **Arguments that are read are readable.** -/
theorem readable_of_ofArgs {args : Args} {a : PageArgs} (h : ofArgs args = .ok a) :
    args.Readable ∧ a.ReadFrom args := by
  obtain ⟨hfirst, hlast, hafter, hbefore, hboth⟩ := ofArgs_eq_ok.mp h
  obtain ⟨hfirst, hfirstGiven⟩ := Args.isCount_of_count hfirst
  obtain ⟨hlast, hlastGiven⟩ := Args.isCount_of_count hlast
  obtain ⟨hafter, hafterText⟩ := Args.isCursor_of_cursor hafter
  obtain ⟨hbefore, hbeforeText⟩ := Args.isCursor_of_cursor hbefore
  refine ⟨⟨hfirst, hlast, hafter, hbefore, ?_⟩, hfirstGiven, hlastGiven, ?_, ?_, hafterText,
    hbeforeText⟩
  · rintro ⟨hgiven, hgiven'⟩
    rw [hfirstGiven.mpr hgiven, hlastGiven.mpr hgiven'] at hboth
    cases hboth
  · simp only [Args.given_iff_text hafter, Option.isSome_iff_exists, hafterText]
  · simp only [Args.given_iff_text hbefore, Option.isSome_iff_exists, hbeforeText]

/-- **Readable arguments are read.** -/
theorem exists_ofArgs {args : Args} (h : args.Readable) : ∃ a, ofArgs args = .ok a := by
  obtain ⟨first, hfirst⟩ := Args.exists_count h.first
  obtain ⟨last, hlast⟩ := Args.exists_count h.last
  obtain ⟨after, hafter⟩ := Args.exists_cursor h.after
  obtain ⟨before, hbefore⟩ := Args.exists_cursor h.before
  refine ⟨⟨first, last, after, before⟩, ofArgs_eq_ok.mpr ⟨hfirst, hlast, hafter, hbefore, ?_⟩⟩
  rw [Bool.and_eq_false_iff, ← Bool.not_eq_true, ← Bool.not_eq_true,
    (Args.isCount_of_count hfirst).2, (Args.isCount_of_count hlast).2]
  exact not_and_or.mp h.oneEnd

/-- **A request has its cursor on one side**, and runs from the end if the last rows are asked
for. -/
theorem oneSided_of_keysetRequest {args : Args} {a : PageArgs} (hread : a.ReadFrom args)
    {request : PageRequest} (hrequest : a.keysetRequest = .ok request) :
    args.OneSided ∧ (request.backward = true ↔ args.Given "last") ∧
      ∀ s, request.cursor = some s ↔ args.UsesCursor s := by
  rcases keysetRequest_eq_ok.mp hrequest with ⟨hlast, hnone, rfl⟩ | ⟨hlast, hnone, rfl⟩
  · have hafter : ¬args.Given "after" := by simp [← hread.after, hnone]
    rw [hread.last] at hlast
    refine ⟨⟨fun hboth => hafter hboth.1, fun _ => hlast⟩, by simpa using hlast, fun s => ?_⟩
    simp [Args.UsesCursor, hlast, hread.before_eq_some]
  · have hbefore : ¬args.Given "before" := by simp [← hread.before, hnone]
    have hlast : ¬args.Given "last" := by simp [← hread.last, hlast]
    refine ⟨⟨fun hboth => hlast hboth.2, fun h => absurd h hbefore⟩, by simpa using hlast, ?_⟩
    intro s
    simp [Args.UsesCursor, hlast, hread.after_eq_some]

/-- **There is a request where the cursor is on one side.** -/
theorem exists_keysetRequest {args : Args} {a : PageArgs} (hread : a.ReadFrom args)
    (hside : args.OneSided) : ∃ request, a.keysetRequest = .ok request := by
  by_cases hlast : args.Given "last"
  · have hafter : ¬args.Given "after" := fun h => hside.after ⟨h, hlast⟩
    rw [← hread.after, Option.not_isSome_iff_eq_none] at hafter
    exact ⟨_, keysetRequest_eq_ok.mpr (.inl ⟨hread.last.mpr hlast, hafter, rfl⟩)⟩
  · have hbefore : ¬args.Given "before" := fun h => hlast (hside.before h)
    rw [← hread.before, Option.not_isSome_iff_eq_none] at hbefore
    rw [← hread.last, Option.not_isSome_iff_eq_none] at hlast
    exact ⟨_, keysetRequest_eq_ok.mpr (.inr ⟨hlast, hbefore, rfl⟩)⟩

end PageArgs

/-! ## Cursors -/

namespace Cursor

/-- A cursor gives a value to each of some columns: it has as many entries, an entry for each of
them, and no null there. -/
structure Fits (cursor : Cursor) (columns : List String) : Prop where
  /-- there are as many entries as columns -/
  length : cursor.entries.length = columns.length
  /-- every column has an entry -/
  covers : ∀ column ∈ columns, column ∈ cursor.entries.map Prod.fst
  /-- with a value -/
  notNull : ∀ column ∈ columns, (column, .null) ∉ cursor.entries

/-- The values are those of the columns one by one. -/
theorem valuesOf_eq_ok_iff {cursor : Cursor} {keys : List OrderColumn} {values : List Scalar} :
    cursor.valuesOf keys = .ok values ↔
      keys.map (fun key => cursor.get? key.column) = values.map some := by
  induction keys generalizing values with
  | nil => cases values <;> simp [valuesOf]
  | cons key keys ih =>
    rw [valuesOf, List.map_cons]
    cases hvalue : cursor.get? key.column with
    | none => cases values <;> simp
    | some value =>
      cases values with
      | nil => cases cursor.valuesOf keys <;> simp [Except.map]
      | cons first rest =>
        rw [List.map_cons, List.cons.injEq, Option.some.injEq, ← ih]
        cases cursor.valuesOf keys <;> simp [Except.map]

/-- In a cursor that names no column twice a value is found where it stands. -/
theorem get?_eq_some_iff {cursor : Cursor} (hnodup : (cursor.entries.map Prod.fst).Nodup)
    {column : String} {value : Scalar} :
    cursor.get? column = some value ↔ (column, value) ∈ cursor.entries := by
  rw [get?, List.lookup_eq_some_iff]
  constructor
  · rintro ⟨front, back, hentries, -⟩
    rw [hentries]
    exact List.mem_append_right _ List.mem_cons_self
  · intro hmem
    obtain ⟨front, back, hentries⟩ := List.append_of_mem hmem
    refine ⟨front, back, hentries, fun entry hentry => ?_⟩
    rw [hentries, List.map_append] at hnodup
    rw [bne_iff_ne]
    exact ((List.nodup_append.mp hnodup).2.2 _ (List.mem_map_of_mem hentry) _
      List.mem_cons_self).symm

theorem valuesFor_eq_ok_iff {cursor : Cursor} {keys : List OrderColumn} {values : List Scalar} :
    cursor.valuesFor keys = .ok values ↔ cursor.entries.length = keys.length ∧
      keys.map (fun key => cursor.get? key.column) = values.map some := by
  rw [valuesFor]
  split
  · next hlength => simp only [hlength, true_and, valuesOf_eq_ok_iff]
  · next hlength => simp [hlength]

/-- **A cursor gives the values of a sort key without nulls** if it fits its columns. -/
theorem fits_iff {cursor : Cursor} (hnodup : (cursor.entries.map Prod.fst).Nodup)
    {keys : List OrderColumn} : cursor.Fits (keys.map OrderColumn.column) ↔
      ∃ values, cursor.valuesFor keys = .ok values ∧ .null ∉ values := by
  simp only [valuesFor_eq_ok_iff]
  constructor
  · rintro ⟨hlength, hcovers, hnull⟩
    have hvalue (key : OrderColumn) (hkey : key ∈ keys) : ∃ value, value ≠ .null ∧
        cursor.get? key.column = some value := by
      obtain ⟨⟨column, value⟩, hentry, hcolumn⟩ :=
        List.mem_map.mp (hcovers key.column (List.mem_map_of_mem hkey))
      obtain rfl : column = key.column := hcolumn
      refine ⟨value, ?_, (get?_eq_some_iff hnodup).mpr hentry⟩
      rintro rfl
      exact hnull key.column (List.mem_map_of_mem hkey) hentry
    rw [List.length_map] at hlength
    refine ⟨keys.map fun key => (cursor.get? key.column).getD .null, ⟨hlength, ?_⟩, ?_⟩
    · rw [List.map_map]
      refine List.map_congr_left fun key hkey => ?_
      obtain ⟨value, -, hget⟩ := hvalue key hkey
      rw [Function.comp_apply, hget, Option.getD_some]
    · intro hmem
      obtain ⟨key, hkey, hget⟩ := List.mem_map.mp hmem
      obtain ⟨value, hne, hvalue⟩ := hvalue key hkey
      rw [hvalue, Option.getD_some] at hget
      exact hne hget
  · rintro ⟨values, ⟨hlength, hvalues⟩, hnull⟩
    have hvalue (column : String) (hcolumn : column ∈ keys.map OrderColumn.column) :
        ∃ value ∈ values, cursor.get? column = some value := by
      obtain ⟨key, hkey, rfl⟩ := List.mem_map.mp hcolumn
      have hmem := List.mem_map_of_mem (f := fun key => cursor.get? key.column) hkey
      rw [hvalues] at hmem
      obtain ⟨value, hmem, hget⟩ := List.mem_map.mp hmem
      exact ⟨value, hmem, hget.symm⟩
    refine ⟨by rw [hlength, List.length_map], fun column hcolumn => ?_, ?_⟩
    · obtain ⟨value, -, hget⟩ := hvalue column hcolumn
      exact List.mem_map_of_mem (f := Prod.fst) ((get?_eq_some_iff hnodup).mp hget)
    · intro column hcolumn hentry
      obtain ⟨value, hmem, hget⟩ := hvalue column hcolumn
      cases hget.symm.trans ((get?_eq_some_iff hnodup).mpr hentry)
      exact hnull hmem

end Cursor

namespace Args

/-- The cursor in use, if there is one, can be read and gives a value to each of some columns. -/
def CursorFits (args : Args) (columns : List String) : Prop :=
  ∀ text, args.UsesCursor text → ∃ cursor, Cursor.decode text = .ok cursor ∧ cursor.Fits columns

/-- Some cursor is given if one is in use, and the other way round where there is none on the wrong
side. -/
theorem usesCursor_iff_given {args : Args} (hreadable : args.Readable) (hside : args.OneSided) :
    (∃ text, args.UsesCursor text) ↔ args.Given "after" ∨ args.Given "before" := by
  rw [given_iff_text hreadable.after, given_iff_text hreadable.before]
  constructor
  · rintro ⟨text, ⟨-, h⟩ | ⟨-, h⟩⟩
    · exact .inr ⟨text, h⟩
    · exact .inl ⟨text, h⟩
  · rintro (⟨text, h⟩ | ⟨text, h⟩)
    · refine ⟨text, .inr ⟨fun hlast => hside.after ⟨?_, hlast⟩, h⟩⟩
      exact (given_iff_text hreadable.after).mpr ⟨text, h⟩
    · refine ⟨text, .inl ⟨hside.before ?_, h⟩⟩
      exact (given_iff_text hreadable.before).mpr ⟨text, h⟩

end Args

/-! ## Pages -/

namespace Relation

variable {γ : Type} {r : Relation γ} {order : Order} (settings : PageSettings)

/-- **A cursor is sought behind** if it can be read and fits the sort columns. -/
theorem exists_seekAfter_iff {columns : List OrderColumn} (hne : columns ≠ []) {text : String} :
    (∃ seek, seekAfter columns text = .ok seek) ↔
      ∃ cursor, Cursor.decode text = .ok cursor ∧
        cursor.Fits (columns.map OrderColumn.column) := by
  rw [seekAfter]
  cases hdecode : Cursor.decode text with
  | error fault => simp [bind, Except.bind]
  | ok cursor =>
    have hfits : cursor.Fits (columns.map OrderColumn.column) ↔ _ :=
      Cursor.fits_iff (Cursor.wellFormed_of_decode hdecode).nodup
    constructor
    · rintro ⟨seek, hseek⟩
      refine ⟨cursor, rfl, hfits.mpr ?_⟩
      cases hvalues : cursor.valuesFor columns with
      | error fault =>
        simp only [hvalues, bind, Except.bind] at hseek
        cases hseek
      | ok values =>
        simp only [hvalues, bind, Except.bind] at hseek
        exact ⟨values, rfl, (Seek.aligned_of_after hseek).2.2⟩
    · rintro ⟨other, hother, hfit⟩
      obtain rfl : cursor = other := Except.ok.inj hother
      obtain ⟨values, hvalues, hnull⟩ := hfits.mp hfit
      have hlength := congrArg List.length (Cursor.valuesFor_eq_ok_iff.mp hvalues).2
      rw [List.length_map, List.length_map] at hlength
      simp only [hvalues, bind, Except.bind]
      exact ⟨_, Seek.after_eq_ok hne hlength hnull⟩

/-- What is sought behind a cursor that may be missing. -/
theorem exists_mapM_seekAfter_iff {columns : List OrderColumn} {cursor? : Option String} :
    (∃ seek, cursor?.mapM (seekAfter columns) = .ok seek) ↔
      ∀ text, cursor? = some text → ∃ seek, seekAfter columns text = .ok seek := by
  cases cursor? with
  | none => simp [pure, Except.pure]
  | some text =>
    simp only [Option.mapM_some, Option.some.injEq, forall_eq']
    cases seekAfter columns text <;> simp [Functor.map, Except.map]

theorem isSome_mapM_seekAfter {columns : List OrderColumn} {cursor? : Option String}
    {seek? : Option Seek} (h : cursor?.mapM (seekAfter columns) = .ok seek?) :
    seek?.isSome = cursor?.isSome := by
  cases cursor? with
  | none =>
    cases h
    rfl
  | some text =>
    rw [Option.mapM_some] at h
    cases hseek : seekAfter columns text with
    | error fault =>
      rw [hseek] at h
      cases h
    | ok seek =>
      rw [hseek] at h
      cases h
      rfl

end Relation

/-! ### Directions -/

namespace Order

/-- Columns differ from the same columns in the opposite direction. -/
theorem map_reversed_ne {columns : List OrderColumn} (hne : columns ≠ []) :
    columns.map OrderColumn.reversed ≠ columns := by
  obtain ⟨key, rest, rfl⟩ := List.exists_cons_of_ne_nil hne
  intro heq
  have hdirection := congrArg OrderColumn.direction (List.cons.inj heq).1
  rw [OrderColumn.reversed] at hdirection
  cases hkey : key.direction <;> rw [hkey] at hdirection <;> cases hdirection

variable {order : Order} (hne : order.columns ≠ []) (backward : Bool)
include hne

theorem directed_eq_self_iff : order.directed backward = order ↔ backward = false := by
  cases backward with
  | false => exact iff_of_true rfl rfl
  | true =>
    refine iff_of_false (fun heq => ?_) Bool.noConfusion
    exact map_reversed_ne hne (congrArg Order.columns heq)

theorem directed_eq_reversed_iff :
    order.directed backward = ⟨order.table, order.columns.map OrderColumn.reversed⟩ ↔
      backward = true := by
  cases backward with
  | true => exact iff_of_true rfl rfl
  | false =>
    refine iff_of_false (fun heq => ?_) Bool.noConfusion
    exact map_reversed_ne hne (congrArg Order.columns heq).symm

end Order

/-- A page answers the arguments of a request for rows in the order of a sort key. -/
structure KeysetPaging.Answers (paging : KeysetPaging) (args : Args) (order : Order) : Prop where
  /-- rows are counted from the end if their number is given so -/
  backward : paging.backward = true ↔ args.Given "last"
  /-- they are then fetched against the sort key -/
  reversed : paging.order = ⟨order.table, order.columns.map OrderColumn.reversed⟩ ↔
    paging.backward = true
  /-- and else along it -/
  along : paging.order = order ↔ paging.backward = false
  /-- rows are sought if a cursor is given -/
  seek : paging.seek.isSome = true ↔ args.Given "after" ∨ args.Given "before"

namespace Relation

/-! ### Verdicts -/

section Verdicts

variable {γ : Type} {r : Relation γ} {order : Order} (settings : PageSettings)

theorem keysetPaging_unreadable (h : ¬r.args.Readable) :
    ∃ fault, r.keysetPaging settings = .error (.invalidArguments fault) := by
  rw [keysetPaging, pageArgs]
  cases hargs : PageArgs.ofArgs r.args with
  | error fault => exact ⟨fault, rfl⟩
  | ok a => exact absurd (PageArgs.readable_of_ofArgs hargs).1 h

variable (hreadable : r.args.Readable) (hkey : r.sortKey? = some order)
include hreadable hkey

theorem keysetPaging_unkeyed (hnil : order.columns = []) :
    r.keysetPaging settings = .error (.invalidPlan (.emptySortKey r.name)) := by
  obtain ⟨a, hargs⟩ := PageArgs.exists_ofArgs hreadable
  simp only [keysetPaging, pageArgs, hargs, requireSortKey, hkey, if_pos hnil, Except.mapError,
    bind, Except.bind]

variable (hne : order.columns ≠ [])
include hne

theorem keysetPaging_twoSided (h : ¬r.args.OneSided) :
    ∃ fault, r.keysetPaging settings = .error (.invalidArguments fault) := by
  obtain ⟨a, hargs⟩ := PageArgs.exists_ofArgs hreadable
  have hread := (PageArgs.readable_of_ofArgs hargs).2
  cases hrequest : a.keysetRequest with
  | ok request => exact absurd (PageArgs.oneSided_of_keysetRequest hread hrequest).1 h
  | error fault =>
    refine ⟨fault, ?_⟩
    simp only [keysetPaging, pageArgs, hargs, requireSortKey, hkey, hrequest, if_neg hne,
      Except.mapError, bind, Except.bind]

variable (hside : r.args.OneSided)
include hside

/-- Behind all other conditions the cursor decides. -/
theorem keysetPaging_oneSided : ∃ request : PageRequest,
    (request.backward = true ↔ r.args.Given "last") ∧
    (∀ text, request.cursor = some text ↔ r.args.UsesCursor text) ∧
    r.keysetPaging settings =
      ((request.cursor.mapM (seekAfter (order.directed request.backward).columns)).mapError
        PlanError.invalidCursor).map fun seek => {
          limit := .forPage (settings.pageSize request.size r.limit)
          order := order.directed request.backward
          seek
          backward := request.backward } := by
  obtain ⟨a, hargs⟩ := PageArgs.exists_ofArgs hreadable
  have hread := (PageArgs.readable_of_ofArgs hargs).2
  obtain ⟨request, hrequest⟩ := PageArgs.exists_keysetRequest hread hside
  obtain ⟨-, hbackward, hcursor⟩ := PageArgs.oneSided_of_keysetRequest hread hrequest
  refine ⟨request, hbackward, hcursor, ?_⟩
  simp only [keysetPaging, pageArgs, hargs, requireSortKey, hkey, hrequest, if_neg hne,
    Except.mapError, bind, Except.bind]
  cases request.cursor.mapM (seekAfter (order.directed request.backward).columns) <;> rfl

omit hreadable hkey hside in
/-- Whether the cursor in use fits does not depend on the direction. -/
theorem cursorFits_iff (backward : Bool) {cursor? : Option String}
    (hcursor : ∀ text, cursor? = some text ↔ r.args.UsesCursor text) :
    r.args.CursorFits (order.columns.map OrderColumn.column) ↔
      ∃ seek, cursor?.mapM (seekAfter (order.directed backward).columns) = .ok seek := by
  have hcolumns := order.map_column_directed backward
  have hdirected : (order.directed backward).columns ≠ [] := by
    intro hnil
    rw [hnil, List.map_nil, eq_comm, List.map_eq_nil_iff] at hcolumns
    exact hne hcolumns
  rw [exists_mapM_seekAfter_iff, Args.CursorFits]
  refine forall_congr' fun text => ?_
  rw [hcursor, exists_seekAfter_iff hdirected, hcolumns]

theorem keysetPaging_unfit (h : ¬r.args.CursorFits (order.columns.map OrderColumn.column)) :
    ∃ fault, r.keysetPaging settings = .error (.invalidCursor fault) := by
  obtain ⟨request, -, hcursor, hpaging⟩ :=
    keysetPaging_oneSided settings hreadable hkey hne hside
  rw [cursorFits_iff hne request.backward hcursor] at h
  rw [hpaging]
  cases hseek : request.cursor.mapM (seekAfter (order.directed request.backward).columns) with
  | error fault => exact ⟨fault, rfl⟩
  | ok seek => exact absurd ⟨seek, hseek⟩ h

/-- **A sane request is answered.** -/
theorem keysetPaging_sane (h : r.args.CursorFits (order.columns.map OrderColumn.column)) :
    ∃ paging, r.keysetPaging settings = .ok paging ∧ paging.Answers r.args order := by
  obtain ⟨request, hbackward, hcursor, hpaging⟩ :=
    keysetPaging_oneSided settings hreadable hkey hne hside
  obtain ⟨seek, hseek⟩ := (cursorFits_iff hne request.backward hcursor).mp h
  rw [hseek] at hpaging
  refine ⟨_, hpaging, hbackward, Order.directed_eq_reversed_iff hne request.backward,
    Order.directed_eq_self_iff hne request.backward, ?_⟩
  rw [← Args.usesCursor_iff_given hreadable hside]
  change seek.isSome = true ↔ _
  rw [isSome_mapM_seekAfter hseek, Option.isSome_iff_exists]
  exact exists_congr hcursor

omit hreadable hne hside in
/-- **What is answered is sane**, since everything else is refused. -/
theorem sane_of_keysetPaging {paging : KeysetPaging} (h : r.keysetPaging settings = .ok paging) :
    r.args.Readable ∧ order.columns ≠ [] ∧ r.args.OneSided ∧
      r.args.CursorFits (order.columns.map OrderColumn.column) := by
  have hnot {e : PlanError} (he : r.keysetPaging settings = .error e) : False := by
    cases he.symm.trans h
  have hreadable : r.args.Readable := by
    by_contra hunreadable
    obtain ⟨fault, he⟩ := keysetPaging_unreadable settings hunreadable
    exact hnot he
  have hne : order.columns ≠ [] := fun hnil =>
    hnot (keysetPaging_unkeyed settings hreadable hkey hnil)
  have hside : r.args.OneSided := by
    by_contra htwo
    obtain ⟨fault, he⟩ := keysetPaging_twoSided settings hreadable hkey hne htwo
    exact hnot he
  refine ⟨hreadable, hne, hside, ?_⟩
  by_contra hunfit
  obtain ⟨fault, he⟩ := keysetPaging_unfit settings hreadable hkey hne hside hunfit
  exact hnot he

end Verdicts

/-- **Sane requests, and only they, are interpreted.** A relation with a sort key gets a page by its
sort values exactly if its arguments are readable, the sort key has a column, the cursor is on the
right side, and it fits the sort key. Of these conditions the first one that fails decides the kind
of the error. A page is counted from the end if the last rows are asked for, and then fetched
against the sort key; rows are sought if a cursor is given. -/
theorem keysetPaging_ok_iff_sane {γ : Type} (r : Relation γ) (settings : PageSettings)
    {order : Order} (hkey : r.sortKey? = some order) :
    ((∃ paging, r.keysetPaging settings = .ok paging) ↔
      r.args.Readable ∧ order.columns ≠ [] ∧ r.args.OneSided ∧
        r.args.CursorFits (order.columns.map OrderColumn.column)) ∧
    (¬r.args.Readable → ∃ fault, r.keysetPaging settings = .error (.invalidArguments fault)) ∧
    (r.args.Readable → order.columns = [] →
      r.keysetPaging settings = .error (.invalidPlan (.emptySortKey r.name))) ∧
    (r.args.Readable → order.columns ≠ [] → ¬r.args.OneSided →
      ∃ fault, r.keysetPaging settings = .error (.invalidArguments fault)) ∧
    (r.args.Readable → order.columns ≠ [] → r.args.OneSided →
      ¬r.args.CursorFits (order.columns.map OrderColumn.column) →
      ∃ fault, r.keysetPaging settings = .error (.invalidCursor fault)) ∧
    ∀ paging, r.keysetPaging settings = .ok paging → paging.Answers r.args order := by
  refine ⟨⟨fun ⟨paging, h⟩ => sane_of_keysetPaging settings hkey h, ?_⟩,
    keysetPaging_unreadable settings,
    fun hreadable => keysetPaging_unkeyed settings hreadable hkey,
    fun hreadable hne => keysetPaging_twoSided settings hreadable hkey hne,
    fun hreadable hne hside => keysetPaging_unfit settings hreadable hkey hne hside, ?_⟩
  · rintro ⟨hreadable, hne, hside, hfits⟩
    obtain ⟨paging, h, -⟩ := keysetPaging_sane settings hreadable hkey hne hside hfits
    exact ⟨paging, h⟩
  · intro paging h
    obtain ⟨hreadable, hne, hside, hfits⟩ := sane_of_keysetPaging settings hkey h
    obtain ⟨answer, hanswer, hanswers⟩ := keysetPaging_sane settings hreadable hkey hne hside hfits
    cases h.symm.trans hanswer
    exact hanswers

/-- The members of a group by their rank, for some arguments. The sort key is that of the
junction. -/
def members (args : Args) : Relation Unit where
  name := "members"
  table := "users"
  label := "u"
  args
  paginate := true
  junction := some {
    table := "members", label := "m", sortKey := some [⟨"rank", .desc⟩, ⟨"user", .asc⟩] }

/-- A place among the members; the columns are not in the order of the sort key. -/
def memberPlace : Cursor := ⟨[("user", .integer 7), ("rank", .text "x")]⟩

/-- The last two members before a place, the number written with a sign, a leading zero and
blanks. -/
def lastMembers : Args :=
  [("first", .null), ("last", .text " +02\n"), ("before", .text memberPlace.encode)]

theorem lastMembers_last : lastMembers.Given "last" :=
  ⟨.text " +02\n", rfl, fun h => by cases h⟩

theorem readable_lastMembers : lastMembers.Readable where
  first := by
    intro value hvalue hnull
    exact absurd (Option.some.inj hvalue).symm hnull
  last := by
    intro value hvalue _
    obtain rfl : .text " +02\n" = value := Option.some.inj hvalue
    refine ⟨2, .text ⟨[' '], ['+'], ['0', '2'], ['\n'], rfl, ?_, ?_, .inr rfl, ?_⟩⟩
    · simp [Text.isBlank]
    · simp [Text.isBlank]
    · exact ⟨by decide, List.all_eq_true.mp rfl, rfl⟩
  after := by
    intro value hvalue
    cases hvalue
  before := by
    intro value hvalue _
    exact ⟨_, (Option.some.inj hvalue).symm⟩
  oneEnd := by
    rintro ⟨⟨value, hvalue, hnull⟩, -⟩
    exact hnull (Option.some.inj hvalue).symm

/-- The last members are found, against the sort key of the junction; to ask for the first ones as
well makes no sense. -/
theorem keysetPaging_lastMembers :
    (∃ paging, (members lastMembers).keysetPaging {} = .ok paging ∧ paging.backward = true ∧
      paging.order = ⟨"m", [⟨"rank", .asc⟩, ⟨"user", .desc⟩]⟩ ∧ paging.seek.isSome = true) ∧
    ∃ fault, (members (("first", .integer 2) :: lastMembers)).keysetPaging {} =
      .error (.invalidArguments fault) := by
  constructor
  · obtain ⟨hiff, -, -, -, -, hanswers⟩ :=
      keysetPaging_ok_iff_sane (members lastMembers) {} rfl
    have hside : lastMembers.OneSided := by
      refine ⟨?_, fun _ => lastMembers_last⟩
      rintro ⟨⟨value, hvalue, -⟩, -⟩
      cases hvalue
    have hfits : lastMembers.CursorFits ["rank", "user"] := by
      rintro text (⟨-, htext⟩ | ⟨hnot, -⟩)
      · obtain rfl : memberPlace.encode = text := Json.text.inj (Option.some.inj htext)
        refine ⟨memberPlace, ?_, rfl, by decide, by decide⟩
        exact Cursor.decode_encode (by decide) (by decide) fun entry _ => entry.2.recoverable
      · exact absurd lastMembers_last hnot
    obtain ⟨paging, hpaging⟩ := hiff.mpr ⟨readable_lastMembers, by decide, hside, hfits⟩
    have hanswer := hanswers paging hpaging
    have hbackward := hanswer.backward.mpr lastMembers_last
    refine ⟨paging, hpaging, hbackward, hanswer.reversed.mpr hbackward, hanswer.seek.mpr (.inr ?_)⟩
    exact ⟨_, rfl, fun h => by cases h⟩
  · obtain ⟨-, hunreadable, -⟩ :=
      keysetPaging_ok_iff_sane (members (("first", .integer 2) :: lastMembers)) {} rfl
    refine hunreadable fun h => h.oneEnd ⟨?_, lastMembers_last⟩
    exact ⟨.integer 2, rfl, fun h => by cases h⟩

end Relation

end RelationSql
