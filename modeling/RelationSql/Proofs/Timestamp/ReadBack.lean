import RelationSql.Timestamp.Text
import Mathlib.Tactic.NormNum
import Mathlib.Tactic.SplitIfs

/-!
# Timestamps read back

The lenient reader inverts the exact text of a timestamp: every year that can be named, with its
sign where it has one, every time of day down to the leap second, and every fraction of a second.
Each part is read in front of what follows it, and ends there because the next character is no digit
or because a part takes no more digits.

* `readDigits_append` — a run of digits in front of something else;
* `readYear_yearChars`, `readField_padded`, `readFraction_exact` — the parts;
* `parseLenient?_exactText` — the whole text;
* `toMillis_eq_iff` — what texts to the thousandth of a second tell apart.
-/

namespace RelationSql

/-! ## Padded numerals -/

namespace Text

theorem isDigit_of_mem_paddedNumeral {width n : Nat} {c : Char} (hc : c ∈ paddedNumeral width n) :
    c.isDigit = true := by
  rcases List.mem_append.mp hc with hc | hc
  · rw [List.eq_of_mem_replicate hc]
    decide
  · exact Nat.isDigit_of_mem_toDigits (by decide) (by decide) hc

/-- Leading zeros do not change the number. -/
theorem ofDigitChars_paddedNumeral (width n : Nat) :
    Nat.ofDigitChars 10 (paddedNumeral width n) 0 = n := by
  rw [paddedNumeral, Nat.ofDigitChars_append, Nat.ofDigitChars_replicate_zero, Nat.mul_zero,
    numeral, Nat.ofDigitChars_ten_toDigits]

/-- A number that fits has the given width. -/
theorem length_paddedNumeral {width n : Nat} (hwidth : 0 < width) (hn : n < 10 ^ width) :
    (paddedNumeral width n).length = width := by
  have hle : (numeral n).length ≤ width :=
    (Nat.length_toDigits_le_iff (by decide) hwidth).mpr hn
  rw [paddedNumeral, List.length_append, List.length_replicate]
  omega

theorem length_paddedNumeral_pos (width n : Nat) : 0 < (paddedNumeral width n).length := by
  have hpos : 0 < (numeral n).length := Nat.length_toDigits_pos
  rw [paddedNumeral, List.length_append]
  omega

/-- No blank is dropped in front of a character that is none. -/
theorem dropBlanks_cons {c : Char} (hc : isBlank c = false) (cs : List Char) :
    dropBlanks (c :: cs) = c :: cs :=
  List.dropWhile_cons_of_neg (by simp [hc])

/-- A digit is no blank. -/
theorem isBlank_of_isDigit {c : Char} (hc : c.isDigit = true) : isBlank c = false := by
  have hrange : 48 ≤ c.toNat ∧ c.toNat ≤ 57 := by
    simp only [Char.isDigit, Bool.and_eq_true, decide_eq_true_eq, ge_iff_le,
      UInt32.le_iff_toNat_le] at hc
    exact hc
  have hspace : c ≠ ' ' := by
    rintro rfl
    exact absurd hrange.1 (by decide)
  simp only [isBlank, Bool.or_eq_false_iff, Bool.and_eq_false_iff, decide_eq_false_iff_not,
    beq_eq_false_iff_ne]
  refine ⟨⟨⟨⟨⟨⟨⟨⟨⟨⟨?_, hspace⟩, ?_⟩, ?_⟩, ?_⟩, ?_⟩, ?_⟩, ?_⟩, ?_⟩, ?_⟩, ?_⟩ <;> omega

theorem dropBlanks_paddedNumeral (width n : Nat) (rest : List Char) :
    dropBlanks (paddedNumeral width n ++ rest) = paddedNumeral width n ++ rest := by
  cases hcs : paddedNumeral width n with
  | nil =>
    have := length_paddedNumeral_pos width n
    rw [hcs] at this
    exact absurd this (Nat.lt_irrefl _)
  | cons c cs =>
    have hc : c ∈ paddedNumeral width n := by rw [hcs]; exact List.mem_cons_self
    exact dropBlanks_cons (isBlank_of_isDigit (isDigit_of_mem_paddedNumeral hc)) _

end Text

namespace Timestamp

open Text

/-! ## Digits -/

/-- What follows does not go on with a digit. -/
def EndsDigits (rest : List Char) : Prop := ∀ c, rest.head? = some c → c.isDigit = false

theorem endsDigits_cons {c : Char} (hc : c.isDigit = false) (rest : List Char) :
    EndsDigits (c :: rest) := by
  intro d hd
  rw [List.head?_cons, Option.some.injEq] at hd
  exact hd ▸ hc

theorem takeWhile_of_endsDigits {rest : List Char} (hrest : EndsDigits rest) :
    rest.takeWhile Char.isDigit = [] := by
  cases rest with
  | nil => rfl
  | cons c rest => exact List.takeWhile_cons_of_neg (by simp [hrest c rfl])

theorem dropWhile_of_endsDigits {rest : List Char} (hrest : EndsDigits rest) :
    rest.dropWhile Char.isDigit = rest := by
  cases rest with
  | nil => rfl
  | cons c rest => exact List.dropWhile_cons_of_neg (by simp [hrest c rfl])

/-- **A run of digits is read** up to what follows it: either that is no digit, or no more digits
are taken. -/
theorem readDigits_append {least most : Nat} {digits rest : List Char}
    (hdigits : ∀ c ∈ digits, c.isDigit = true) (hleast : least ≤ digits.length)
    (hmost : digits.length ≤ most) (hrest : digits.length = most ∨ EndsDigits rest) :
    readDigits least most (digits ++ rest) = some (Nat.ofDigitChars 10 digits 0, rest) := by
  have htaken : ((digits ++ rest).take most).takeWhile Char.isDigit = digits := by
    rw [List.take_append, List.take_of_length_le hmost, List.takeWhile_append_of_pos hdigits]
    rcases hrest with hfull | hrest
    · rw [hfull, Nat.sub_self, List.take_zero, List.takeWhile_nil, List.append_nil]
    · have hstop : EndsDigits (rest.take (most - digits.length)) := by
        intro c hc
        rw [List.head?_take] at hc
        split at hc
        · cases hc
        · exact hrest c hc
      rw [takeWhile_of_endsDigits hstop, List.append_nil]
  simp only [readDigits, htaken, if_neg (Nat.not_lt.mpr hleast), List.drop_left]

/-- A given character is read where it stands. -/
theorem readMark_cons {c : Char} (hc : isBlank c = false) (rest : List Char) :
    readMark c (c :: rest) = some rest := by
  rw [readMark, dropBlanks_cons hc, readChar, if_pos rfl]

/-- A field of two digits is read, whatever follows it. -/
theorem readField_padded {n : Nat} (hn : n < 100) (rest : List Char) :
    readField (paddedNumeral 2 n ++ rest) = some (n, rest) := by
  have hlength : (paddedNumeral 2 n).length = 2 := length_paddedNumeral (by decide) hn
  rw [readField, dropBlanks_paddedNumeral,
    readDigits_append (fun c hc => isDigit_of_mem_paddedNumeral hc) (by omega) (by omega)
      (.inl hlength), ofDigitChars_paddedNumeral]

/-! ## Years -/

theorem readDigits_year (n : Nat) {rest : List Char} (hrest : EndsDigits rest) :
    readDigits 1 (paddedNumeral 4 n ++ rest).length (paddedNumeral 4 n ++ rest) =
      some (n, rest) := by
  have hpos := length_paddedNumeral_pos 4 n
  rw [readDigits_append (fun c hc => isDigit_of_mem_paddedNumeral hc) hpos
    (by rw [List.length_append]; omega) (.inr hrest), ofDigitChars_paddedNumeral]

/-- An unsigned year starts with a digit, so it has no sign. -/
theorem readYear_unsigned {n : Nat} (hn : n ≤ 9999) (rest : List Char) :
    readYear (paddedNumeral 4 n ++ rest) = some ((n : Int), rest) := by
  have hlength : (paddedNumeral 4 n).length = 4 := length_paddedNumeral (by decide) (by omega)
  have hfirst : ∀ {c : Char} {tail : List Char}, paddedNumeral 4 n ++ rest = c :: tail →
      c.isDigit = true := by
    intro c tail htail
    cases hcs : paddedNumeral 4 n with
    | nil =>
      rw [hcs] at hlength
      cases hlength
    | cons d ds =>
      rw [hcs, List.cons_append] at htail
      obtain ⟨rfl, -⟩ := List.cons.inj htail
      exact isDigit_of_mem_paddedNumeral (by rw [hcs]; exact List.mem_cons_self)
  rw [readYear.eq_def]
  split
  · next tail htail => exact absurd (hfirst htail) (by decide)
  · next tail htail => exact absurd (hfirst htail) (by decide)
  · rw [readDigits_append (fun c hc => isDigit_of_mem_paddedNumeral hc) (by omega) (by omega)
      (.inl hlength), ofDigitChars_paddedNumeral]
    rfl

/-- **Years read back**, signed or not. -/
theorem readYear_yearChars (year : Int) {rest : List Char} (hrest : EndsDigits rest) :
    readYear (yearChars year ++ rest) = some (year, rest) := by
  rw [yearChars]
  split_ifs with hplain hsign
  · have hyear : (year.toNat : Int) = year := Int.toNat_of_nonneg hplain.1
    rw [readYear_unsigned (by omega), hyear]
  · have hyear : -(year.natAbs : Int) = year := by omega
    rw [List.cons_append, readYear, readDigits_year _ hrest, Option.map_some, hyear]
  · have hyear : (year.natAbs : Int) = year := by omega
    rw [List.cons_append, readYear, readDigits_year _ hrest, Option.map_some, hyear]

theorem dropBlanks_yearChars (year : Int) (rest : List Char) :
    dropBlanks (yearChars year ++ rest) = yearChars year ++ rest := by
  rw [yearChars]
  split_ifs
  · exact dropBlanks_paddedNumeral _ _ _
  · exact dropBlanks_cons (by decide) _
  · exact dropBlanks_cons (by decide) _

/-! ## Fractions and zones -/

/-- A fraction of at most nine digits stands for its number of billionths. -/
theorem readFraction_padded {width n : Nat} (hpos : 0 < width) (hwidth : width ≤ 9)
    (hn : n < 10 ^ width) {rest : List Char} (hrest : EndsDigits rest) :
    readFraction ('.' :: (paddedNumeral width n ++ rest)) = some (n * 10 ^ (9 - width), rest) := by
  have hdigits : ∀ c ∈ paddedNumeral width n, c.isDigit = true :=
    fun c hc => isDigit_of_mem_paddedNumeral hc
  have hlength := length_paddedNumeral hpos hn
  have htaken : (paddedNumeral width n ++ rest).takeWhile Char.isDigit = paddedNumeral width n := by
    rw [List.takeWhile_append_of_pos hdigits, takeWhile_of_endsDigits hrest, List.append_nil]
  have hleft : (paddedNumeral width n ++ rest).dropWhile Char.isDigit = rest := by
    rw [List.dropWhile_append_of_pos hdigits, dropWhile_of_endsDigits hrest]
  have hne : paddedNumeral width n ≠ [] := List.length_pos_iff.mp (by omega)
  have hkept : (paddedNumeral width n).take 9 = paddedNumeral width n :=
    List.take_of_length_le (by omega)
  simp only [readFraction, htaken, if_neg hne, hkept, hlength, hleft, ofDigitChars_paddedNumeral,
    Nat.pow_eq]

/-- **Fractions read back**, with the fewest digits that lose nothing. -/
theorem readFraction_exact (t : Timestamp) :
    readFraction (t.exactFractionChars ++ ['Z']) = some (t.nano, ['Z']) := by
  have hnano := t.clock.2.2.2
  have hend : EndsDigits ['Z'] := endsDigits_cons (by decide) []
  rw [exactFractionChars]
  split_ifs with hzero hmillis hmicros
  · rw [hzero]
    rfl
  all_goals
    rw [List.cons_append, readFraction_padded (by decide) (by decide) (by omega) hend]
    congr 2
    omega

/-! ## Whole texts -/

/-- A clock that is not shifted stays as it is. -/
theorem earlier?_zero (t : Timestamp) : t.earlier? 0 = some t := by
  obtain ⟨hhour, hminute, -⟩ := t.clock
  have htotal : ((t.hour : Int) * 60 + t.minute - 0) = ((t.hour * 60 + t.minute : Nat) : Int) := by
    omega
  have hday : ((((t.hour * 60 + t.minute : Nat) : Int)) % 1440).toNat =
      t.hour * 60 + t.minute := by omega
  have hhours : (t.hour * 60 + t.minute) / 60 = t.hour := by omega
  have hminutes : (t.hour * 60 + t.minute) % 60 = t.minute := by omega
  simp only [earlier?, htotal, hday, hhours, hminutes]
  rw [if_neg (by omega), if_neg (by omega)]
  exact dif_pos t.clock

/-- The parts of a timestamp make up the timestamp. -/
theorem ofLocal?_parts (t : Timestamp) :
    ofLocal? t.date.year t.date.month t.date.day t.hour t.minute t.second t.nano 0 = some t := by
  have hdate : Date.ofParts? t.date.year t.date.month t.date.day = some t.date :=
    dif_pos ⟨t.date.year_range, t.date.day_range⟩
  have hclock : ofParts? t.date t.hour t.minute t.second t.nano = some t := dif_pos t.clock
  simp only [ofLocal?, hdate, hclock, Option.bind_eq_bind, Option.bind_some, earlier?_zero]

/-- A month and a day have two digits. -/
theorem month_lt (d : Date) : d.month < 100 := by
  by_contra hmonth
  have hdays : Calendar.daysIn d.year d.month = 0 := by
    rw [Calendar.daysIn] <;> omega
  have := d.day_range
  omega

theorem day_lt (d : Date) : d.day < 100 := by
  have hdays : Calendar.daysIn d.year d.month ≤ 31 := by
    rw [Calendar.daysIn.eq_def]
    split <;> try omega
    split <;> omega
  have := d.day_range
  omega

/-- **Date and time of day read back**, with the fraction of a second that is read behind them. Each
line is one part of the text, in its order. -/
theorem parseLenient?_secondsChars {t u : Timestamp} {separator : Char}
    (hseparator : ∀ cs, readSeparator (separator :: cs) = some cs) {fraction : List Char}
    {nano : Nat} (hfraction : readFraction (fraction ++ ['Z']) = some (nano, ['Z']))
    (hparts : ofLocal? t.date.year t.date.month t.date.day t.hour t.minute t.second nano 0 =
      some u) :
    parseLenient? (String.ofList (t.secondsChars separator ++ fraction ++ ['Z'])) = some u := by
  obtain ⟨hhour, hminute, hsecond, -⟩ := t.clock
  have hzone : readLenientZone ['Z'] = some (0, []) := by decide
  have hdash : isBlank '-' = false := by decide
  have hcolon : isBlank ':' = false := by decide
  rw [parseLenient?, secondsChars, String.toList_ofList]
  simp only [List.append_assoc, List.cons_append]
  rw [dropBlanks_yearChars]
  refine Option.bind_eq_some_iff.mpr ⟨_, readYear_yearChars _ (endsDigits_cons (by decide) _), ?_⟩
  refine Option.bind_eq_some_iff.mpr ⟨_, readMark_cons hdash _, ?_⟩
  refine Option.bind_eq_some_iff.mpr ⟨_, readField_padded (month_lt t.date) _, ?_⟩
  refine Option.bind_eq_some_iff.mpr ⟨_, readMark_cons hdash _, ?_⟩
  refine Option.bind_eq_some_iff.mpr ⟨_, readField_padded (day_lt t.date) _, ?_⟩
  refine Option.bind_eq_some_iff.mpr ⟨_, hseparator _, ?_⟩
  refine Option.bind_eq_some_iff.mpr ⟨_, readField_padded (by omega) _, ?_⟩
  refine Option.bind_eq_some_iff.mpr ⟨_, readMark_cons hcolon _, ?_⟩
  refine Option.bind_eq_some_iff.mpr ⟨_, readField_padded (by omega) _, ?_⟩
  refine Option.bind_eq_some_iff.mpr ⟨_, readMark_cons hcolon _, ?_⟩
  refine Option.bind_eq_some_iff.mpr ⟨_, readField_padded (by omega) _, ?_⟩
  refine Option.bind_eq_some_iff.mpr ⟨_, hfraction, ?_⟩
  refine Option.bind_eq_some_iff.mpr ⟨_, hzone, ?_⟩
  exact hparts

/-- **Timestamps read back** from their exact text. -/
theorem parseLenient?_exactText (t : Timestamp) : parseLenient? t.exactText = some t :=
  parseLenient?_secondsChars (fun _ => rfl) (readFraction_exact t) (ofLocal?_parts t)

/-! ## Texts to the thousandth of a second -/

/-- The timestamp with its fraction of a second cut off behind the thousandths. -/
def toMillis (t : Timestamp) : Timestamp where
  date := t.date
  hour := t.hour
  minute := t.minute
  second := t.second
  nano := t.nano / 1000000 * 1000000
  clock := by
    obtain ⟨hhour, hminute, hsecond, hnano⟩ := t.clock
    exact ⟨hhour, hminute, hsecond, by omega⟩

theorem nano_toMillis_div (t : Timestamp) : t.toMillis.nano / 1000000 = t.nano / 1000000 :=
  Nat.mul_div_cancel _ (by decide)

theorem toMillis_toMillis (t : Timestamp) : t.toMillis.toMillis = t.toMillis := by
  simp only [toMillis, Nat.mul_div_cancel _ (show 0 < 1000000 by decide)]

/-- What is cut off is not written. -/
theorem millisChars_toMillis (t : Timestamp) : t.toMillis.millisChars = t.millisChars := by
  rw [millisChars, nano_toMillis_div, millisChars]

theorem readFraction_millisChars (t : Timestamp) :
    readFraction (t.millisChars ++ ['Z']) = some (t.toMillis.nano, ['Z']) := by
  have hnano := t.clock.2.2.2
  rw [millisChars, List.cons_append,
    readFraction_padded (by decide) (by decide) (by omega) (endsDigits_cons (by decide) [])]
  rfl

/-- **Texts to the thousandth of a second** tell timestamps apart down to there, with either
character between date and time. -/
theorem toMillis_eq_iff {t u : Timestamp} (separator : Char)
    (hseparator : ∀ cs, readSeparator (separator :: cs) = some cs) :
    t.secondsChars separator ++ t.millisChars = u.secondsChars separator ++ u.millisChars ↔
      t.toMillis = u.toMillis := by
  have hread (t : Timestamp) : parseLenient?
      (String.ofList (t.secondsChars separator ++ t.millisChars ++ ['Z'])) = some t.toMillis :=
    parseLenient?_secondsChars hseparator (readFraction_millisChars t) (ofLocal?_parts t.toMillis)
  constructor
  · intro h
    have ht := hread t
    rw [h, hread u] at ht
    exact (Option.some.inj ht).symm
  · intro h
    have hseconds (t : Timestamp) : t.toMillis.secondsChars separator = t.secondsChars separator :=
      rfl
    rw [← hseconds t, ← millisChars_toMillis t, h, hseconds, millisChars_toMillis]

theorem millisText_eq_iff {t u : Timestamp} :
    t.millisText = u.millisText ↔ t.toMillis = u.toMillis := by
  rw [← toMillis_eq_iff 'T' fun _ => rfl, millisText, millisText, String.ofList_inj,
    List.append_left_inj]

theorem plainText_eq_iff {t u : Timestamp} :
    t.plainText = u.plainText ↔ t.toMillis = u.toMillis := by
  rw [← toMillis_eq_iff ' ' fun _ => rfl, plainText, plainText, String.ofList_inj]

end Timestamp

end RelationSql
