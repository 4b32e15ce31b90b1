import RelationSql.Json.Printer
import RelationSql.Json.Reader
import Mathlib.Data.List.TakeDrop
import Mathlib.Tactic.SplitIfs

/-!
# Compact JSON text reads back

The reader inverts the printer on texts, on whole numbers of 64 bits, and on objects whose values
read back. A value is always read in front of something else, so each fact is stated with the
characters that follow: inside an object these are a comma or the closing brace, and neither can
continue a number.

* `readText_escaped` — texts, whatever they hold;
* `readNumber_signedNumeral` — whole numbers;
* `readsBack_object` — objects, given that each value reads back;
* `parse?_compact_object` — a whole object as a text of its own.
-/

namespace RelationSql.Json

/-! ## Texts -/

theorem hexDigit?_digitChar : ∀ {n : Nat}, n < 16 → Text.hexDigit? (Nat.digitChar n) = some n := by
  decide

/-- A control character is read back from its four hexadecimal digits. -/
theorem codeUnit?_control {n : Nat} (hn : n < 32) :
    codeUnit? '0' '0' (Nat.digitChar (n / 16)) (Nat.digitChar (n % 16)) = some n := by
  have hzero : Text.hexDigit? '0' = some 0 := by decide
  rw [codeUnit?, hzero, hexDigit?_digitChar (by omega), hexDigit?_digitChar (by omega)]
  have hvalue : ((0 * 16 + 0) * 16 + n / 16) * 16 + n % 16 = n := by omega
  simp only [Option.bind_eq_bind, Option.bind_some, Option.pure_def, hvalue]

/-- A character that needs no escape is read as itself. -/
theorem readTextBody_plain {c : Char} (hquote : c ≠ '"') (hslash : c ≠ '\\') (hc : 32 ≤ c.toNat)
    (rest : List Char) : readTextBody (c :: rest) = consChar c (readTextBody rest) := by
  rw [readTextBody.eq_5 c rest (fun h => hquote h) (fun _ _ _ _ _ h _ => hslash h)
    (fun _ _ h _ => hslash h), if_neg (by omega)]

/-- A letter after a backslash is read as the character it stands for. -/
theorem readTextBody_short {c e : Char} (hc : c ≠ 'u') (he : shortEscape? c = some e)
    (rest : List Char) : readTextBody ('\\' :: c :: rest) = consChar e (readTextBody rest) := by
  rw [readTextBody.eq_4 c rest (fun _ _ _ _ _ h _ => hc h), he]

/-- A control character is read from its code. -/
theorem readTextBody_control {c : Char} (hc : c.toNat < 32) (rest : List Char) :
    readTextBody ('\\' :: 'u' :: '0' :: '0' :: Nat.digitChar (c.toNat / 16) ::
      Nat.digitChar (c.toNat % 16) :: rest) = consChar c (readTextBody rest) := by
  have hhigh : isHighSurrogate c.toNat = false := by
    rw [isHighSurrogate, decide_eq_false (by omega), Bool.false_and]
  have hlow : isLowSurrogate c.toNat = false := by
    rw [isLowSurrogate, decide_eq_false (by omega), Bool.false_and]
  rw [readTextBody, codeUnit?_control hc]
  simp only [hhigh, hlow, Bool.false_eq_true, if_false, Char.ofNat_toNat]

/-- **Each character is read back from its escaped form.** -/
theorem readTextBody_escapedChar (c : Char) (rest : List Char) :
    readTextBody (escapedChar c ++ rest) = consChar c (readTextBody rest) := by
  have hcode : ∀ {n : Nat}, (c.toNat == n) = true → c = Char.ofNat n := fun h => by
    rw [← beq_iff_eq.mp h, Char.ofNat_toNat]
  rw [escapedChar]
  split_ifs with hquote hslash hb hf hn hr ht hcontrol
  · rw [beq_iff_eq.mp hquote]
    exact readTextBody_short (by decide) rfl rest
  · rw [beq_iff_eq.mp hslash]
    exact readTextBody_short (by decide) rfl rest
  · rw [hcode hb]
    exact readTextBody_short (by decide) rfl rest
  · rw [hcode hf]
    exact readTextBody_short (by decide) rfl rest
  · rw [beq_iff_eq.mp hn]
    exact readTextBody_short (by decide) rfl rest
  · rw [beq_iff_eq.mp hr]
    exact readTextBody_short (by decide) rfl rest
  · rw [beq_iff_eq.mp ht]
    exact readTextBody_short (by decide) rfl rest
  · exact readTextBody_control hcontrol rest
  · exact readTextBody_plain (by simpa using hquote) (by simpa using hslash) (by omega) rest

theorem readTextBody_escaped (cs rest : List Char) :
    readTextBody (cs.flatMap escapedChar ++ '"' :: rest) = some (cs, rest) := by
  induction cs with
  | nil => rw [List.flatMap_nil, List.nil_append, readTextBody]
  | cons c cs ih =>
    rw [List.flatMap_cons, List.append_assoc, readTextBody_escapedChar, ih]
    rfl

/-- **Texts read back**, whatever they hold. -/
theorem readText_escaped (s : String) (rest : List Char) :
    readText (s.toList.flatMap escapedChar ++ '"' :: rest) = some (s, rest) := by
  rw [readText, readTextBody_escaped, Option.map_some, String.ofList_toList]

/-! ## Numbers -/

/-- What may follow a value inside an object, or at the end of a text: nothing that continues a
number. -/
def EndsValue (rest : List Char) : Prop := ∀ c, rest.head? = some c → c = ',' ∨ c = '\x7d'

theorem endsValue_nil : EndsValue [] := fun c hc => by simp at hc

theorem endsValue_comma (rest : List Char) : EndsValue (',' :: rest) := fun c hc => by
  simp only [List.head?_cons, Option.some.injEq] at hc
  exact .inl hc.symm

theorem endsValue_brace (rest : List Char) : EndsValue ('\x7d' :: rest) := fun c hc => by
  simp only [List.head?_cons, Option.some.injEq] at hc
  exact .inr hc.symm

/-- A numeral starts with a digit, and with a zero only if it is the numeral of zero. -/
theorem numeral_eq_cons (n : Nat) :
    ∃ d ds, Text.numeral n = d :: ds ∧ d.isDigit = true ∧ (d = '0' → n = 0) := by
  induction n using Nat.strongRecOn with
  | ind n ih =>
    rw [Text.numeral]
    rcases Nat.lt_or_ge n 10 with hlt | hge
    · have hdigit : ∀ m : Nat, m < 10 →
          (Nat.digitChar m).isDigit = true ∧ (Nat.digitChar m = '0' → m = 0) := by decide
      exact ⟨_, [], Nat.toDigits_of_lt_base hlt, hdigit n hlt⟩
    · obtain ⟨d, ds, hd, hdigit, hzero⟩ := ih (n / 10) (by omega)
      refine ⟨d, ds ++ [Nat.digitChar (n % 10)], ?_, hdigit, fun h => ?_⟩
      · rw [Nat.toDigits_of_base_le (by decide) hge, ← Text.numeral, hd, List.cons_append]
      · have := hzero h
        omega

theorem all_isDigit_numeral (n : Nat) : ∀ c ∈ Text.numeral n, c.isDigit = true :=
  fun _ hc => Nat.isDigit_of_mem_toDigits (by decide) (by decide) hc

/-- The digits at the front are taken up to the end of the value. -/
theorem spanDigits_append {digits rest : List Char} (hdigits : ∀ c ∈ digits, c.isDigit = true)
    (hrest : EndsValue rest) : spanDigits (digits ++ rest) = (digits, rest) := by
  have hstop : rest.takeWhile Char.isDigit = [] ∧ rest.dropWhile Char.isDigit = rest := by
    cases rest with
    | nil => exact ⟨rfl, rfl⟩
    | cons c rest =>
      have hc : c.isDigit = false := by rcases hrest c rfl with rfl | rfl <;> decide
      exact ⟨List.takeWhile_cons_of_neg (by simp [hc]), List.dropWhile_cons_of_neg (by simp [hc])⟩
  rw [spanDigits, List.span_eq_takeWhile_dropWhile, List.takeWhile_append_of_pos hdigits,
    List.dropWhile_append_of_pos hdigits, hstop.1, hstop.2, List.append_nil]

theorem readWhole_numeral (n : Nat) {rest : List Char} (hrest : EndsValue rest) :
    readWhole (Text.numeral n ++ rest) = some (Text.numeral n, rest) := by
  obtain ⟨d, ds, hd, -, hzero⟩ := numeral_eq_cons n
  by_cases hn : n = 0
  · have hnumeral : Text.numeral n = ['0'] := by rw [hn]; exact Nat.toDigits_zero 10
    rw [hnumeral, List.singleton_append, readWhole]
  · have hfirst : ∀ tail, Text.numeral n ++ rest = '0' :: tail → False := by
      intro tail htail
      rw [hd, List.cons_append, List.cons.injEq] at htail
      exact hn (hzero htail.1)
    rw [readWhole.eq_2 _ hfirst, spanDigits_append (all_isDigit_numeral n) hrest]
    exact if_neg Nat.toDigits_ne_nil

theorem readFraction_end {rest : List Char} (hrest : EndsValue rest) :
    readFraction rest = some ([], rest) := by
  refine readFraction.eq_2 rest fun tail htail => ?_
  rcases hrest '.' (by rw [htail]; rfl) with h | h <;> exact absurd h (by decide)

theorem readExponent_end {rest : List Char} (hrest : EndsValue rest) :
    readExponent rest = some (none, rest) := by
  cases rest with
  | nil => rfl
  | cons c rest =>
    have hc : (c == 'e' || c == 'E') = false := by rcases hrest c rfl with rfl | rfl <;> decide
    simp [readExponent, hc]

theorem numberValue_natural {n : Nat} (hn : n < UInt64.size) :
    numberValue false (Text.numeral n) [] none = some (.integer n) := by
  have hvalue : Nat.ofDigitChars 10 (Text.numeral n) 0 = n := Nat.ofDigitChars_ten_toDigits
  simp only [numberValue, hvalue, and_self, if_true, Bool.false_eq_true, if_false, if_pos hn]

theorem numberValue_negative {n : Nat} (hpos : 0 < n) (hn : Int64.minValue.toInt ≤ -(n : Int)) :
    numberValue true (Text.numeral n) [] none = some (.integer (-n)) := by
  have hvalue : Nat.ofDigitChars 10 (Text.numeral n) 0 = n := Nat.ofDigitChars_ten_toDigits
  have hrange : ¬(n = 0 ∨ -(n : Int) < Int64.minValue.toInt) := by omega
  simp only [numberValue, hvalue, and_self, if_true, if_neg hrange]

/-- **Whole numbers of 64 bits read back.** -/
theorem readNumber_signedNumeral {n : Int} (hlow : Int64.minValue.toInt ≤ n)
    (hhigh : n < UInt64.size) {rest : List Char} (hrest : EndsValue rest) :
    readNumber (Text.signedNumeral n ++ rest) = some (.integer n, rest) := by
  have hwhole := readWhole_numeral n.natAbs hrest
  rw [Text.signedNumeral, readNumber.eq_def]
  by_cases hsign : n < 0
  · have hvalue := numberValue_negative (n := n.natAbs) (by omega) (by omega)
    have hn : -(n.natAbs : Int) = n := by omega
    rw [hn] at hvalue
    simp only [if_pos hsign, List.cons_append, hwhole, readFraction_end hrest,
      readExponent_end hrest, hvalue, Option.bind_eq_bind, Option.bind_some, Option.pure_def]
  · have hvalue := numberValue_natural (n := n.natAbs) (by omega)
    have hn : (n.natAbs : Int) = n := by omega
    rw [hn] at hvalue
    rw [if_neg hsign]
    split
    next negative body hbody =>
    -- a digit is no minus, so the sign is absent
    obtain ⟨rfl, rfl⟩ : false = negative ∧ Text.numeral n.natAbs ++ rest = body := by
      obtain ⟨d, ds, hd, hdigit, -⟩ := numeral_eq_cons n.natAbs
      split at hbody
      · next tail htail =>
        rw [hd, List.cons_append] at htail
        obtain ⟨rfl, -⟩ := List.cons.inj htail
        exact absurd hdigit (by decide)
      · exact Prod.mk.inj hbody
    simp only [hwhole, readFraction_end hrest, readExponent_end hrest, hvalue,
      Option.bind_eq_bind, Option.bind_some, Option.pure_def]

/-! ## Values -/

/-- A reader gives a value back from its text, wherever a value may end. -/
def ReadsBack (read : List Char → Option (Json × List Char)) (value : Json) : Prop :=
  ∀ rest, EndsValue rest → read (skipSpace (value.toChars ++ rest)) = some (value, rest)

/-- Nothing is skipped in front of a character that is no space. -/
theorem skipSpace_cons {c : Char} (hc : (c == ' ' || c == '\t' || c == '\n' || c == '\r') = false)
    (rest : List Char) : skipSpace (c :: rest) = c :: rest :=
  List.dropWhile_cons_of_neg (by simp [hc])

theorem readsBack_null (nesting : Nat) : ReadsBack (readValue nesting) .null := by
  intro rest _
  rw [toChars, List.cons_append, skipSpace_cons (by decide)]
  exact readValue.eq_1 nesting rest

theorem readsBack_text (nesting : Nat) (s : String) : ReadsBack (readValue nesting) (.text s) := by
  intro rest _
  rw [toChars, textChars, List.cons_append, List.cons_append, skipSpace_cons (by decide),
    List.append_assoc, List.singleton_append, readValue.eq_4, readText_escaped]
  rfl

/-- What starts with a minus or a digit is read as a number. -/
theorem readValue_number {c : Char} (hc : c = '-' ∨ c.isDigit = true) (nesting : Nat)
    (rest : List Char) : readValue nesting (c :: rest) = readNumber (c :: rest) := by
  have hfirst : ∀ {d : Char} {tail : List Char}, c :: rest = d :: tail → d ≠ '-' →
      d.isDigit = false → False := by
    intro d tail h hminus hdigit
    obtain ⟨rfl, -⟩ := List.cons.inj h
    rcases hc with hc | hc
    · exact hminus hc
    · rw [hc] at hdigit
      cases hdigit
  refine readValue.eq_9 nesting (c :: rest) ?_ ?_ ?_ ?_ ?_ ?_ ?_ ?_
  all_goals intros; exact hfirst ‹_› (by decide) (by decide)

theorem readsBack_integer (nesting : Nat) {n : Int} (hlow : Int64.minValue.toInt ≤ n)
    (hhigh : n < UInt64.size) :
    ReadsBack (readValue nesting) (.integer n) := by
  intro rest hrest
  rw [toChars, ← readNumber_signedNumeral hlow hhigh hrest]
  obtain ⟨c, cs, hcs, hc⟩ : ∃ c cs, Text.signedNumeral n = c :: cs ∧
      (c = '-' ∨ c.isDigit = true) := by
    rw [Text.signedNumeral]
    split
    · exact ⟨_, _, rfl, .inl rfl⟩
    · obtain ⟨d, ds, hd, hdigit, -⟩ := numeral_eq_cons n.natAbs
      exact ⟨d, ds, hd, .inr hdigit⟩
  have hspace : (c == ' ' || c == '\t' || c == '\n' || c == '\r') = false := by
    rcases hc with rfl | hc
    · decide
    · refine Bool.eq_false_iff.mpr fun h => ?_
      simp only [Bool.or_eq_true, beq_iff_eq] at h
      rcases h with ((rfl | rfl) | rfl) | rfl <;> exact absurd hc (by decide)
  rw [hcs, List.cons_append, skipSpace_cons hspace, readValue_number hc]

/-! ## Objects -/

/-- The fields of an object between its braces. -/
theorem toChars_object (name : String) (value : Json) (fields : List (String × Json)) :
    (object ((name, value) :: fields)).toChars =
      '\x7b' :: (textChars name ++ ':' :: value.toChars ++ fieldChars fields ++ ['\x7d']) := by
  rw [toChars]
  simp

theorem endsValue_fieldChars (fields : List (String × Json)) (rest : List Char) :
    EndsValue (fieldChars fields ++ '\x7d' :: rest) := by
  cases fields with
  | nil => exact endsValue_brace rest
  | cons field fields =>
    rw [fieldChars]
    exact endsValue_comma _

/-- A field is read up to the end of its value; what follows decides whether more are read. -/
theorem readFields_step {read : List Char → Option (Json × List Char)} {value : Json}
    (hvalue : ReadsBack read value) (rounds : Nat) (name : String) {rest : List Char}
    (hrest : EndsValue rest) :
    readFields read (rounds + 1) (textChars name ++ ':' :: (value.toChars ++ rest)) =
      match skipSpace rest with
      | ',' :: rest => (readFields read rounds rest).map fun p => ((name, value) :: p.1, p.2)
      | '\x7d' :: rest => some ([(name, value)], rest)
      | _ => none := by
  have hname := readText_escaped name (':' :: (value.toChars ++ rest))
  rw [readFields, textChars, List.cons_append, List.cons_append, skipSpace_cons (by decide)]
  simp only [List.append_assoc, List.singleton_append, hname, Option.bind_eq_bind,
    Option.bind_some, skipSpace_cons (show (':' == ' ' || ':' == '\t' || ':' == '\n' ||
      ':' == '\r') = false by decide), hvalue rest hrest]
  generalize skipSpace rest = behind
  by_cases hcomma : ∃ more, behind = ',' :: more
  · obtain ⟨more, rfl⟩ := hcomma
    exact Option.map_eq_bind.symm
  by_cases hbrace : ∃ more, behind = '\x7d' :: more
  · obtain ⟨more, rfl⟩ := hbrace
    rfl
  cases behind with
  | nil => rfl
  | cons c more =>
    have hc : c ≠ ',' := fun h => hcomma ⟨more, by rw [h]⟩
    have hb : c ≠ '\x7d' := fun h => hbrace ⟨more, by rw [h]⟩
    simp [hc, hb]

/-- **The fields of an object read back**, given that their values do. The induction is on the
fields after the first; each of them costs one round. -/
theorem readFields_fieldChars {read : List Char → Option (Json × List Char)}
    (fields : List (String × Json)) (rest : List Char) :
    ∀ (rounds : Nat) (name : String) (value : Json), fields.length < rounds →
      ReadsBack read value → (∀ field ∈ fields, ReadsBack read field.2) →
      readFields read rounds
        (textChars name ++ ':' :: (value.toChars ++ (fieldChars fields ++ '\x7d' :: rest))) =
        some ((name, value) :: fields, rest) := by
  induction fields with
  | nil =>
    intro rounds name value hrounds hvalue _
    obtain ⟨rounds, rfl⟩ : ∃ k, rounds = k + 1 := ⟨rounds - 1, by omega⟩
    rw [readFields_step hvalue rounds name (endsValue_fieldChars [] rest), fieldChars,
      List.nil_append, skipSpace_cons (by decide)]
    rfl
  | cons field fields ih =>
    obtain ⟨name', value'⟩ := field
    intro rounds name value hrounds hvalue hfields
    obtain ⟨rounds, rfl⟩ : ∃ k, rounds = k + 1 := ⟨rounds - 1, by omega⟩
    have hmore := ih rounds name' value' (by simp only [List.length_cons] at hrounds; omega)
      (hfields _ List.mem_cons_self) (fun field hf => hfields field (List.mem_cons_of_mem _ hf))
    rw [readFields_step hvalue rounds name (endsValue_fieldChars _ rest), fieldChars]
    simp only [List.cons_append, List.append_assoc]
    rw [skipSpace_cons (by decide)]
    change Option.map _ (readFields read rounds _) = _
    rw [hmore]
    rfl

/-- There are no more fields than characters. -/
theorem length_le_fieldChars (fields : List (String × Json)) :
    fields.length ≤ (fieldChars fields).length := by
  induction fields with
  | nil => exact Nat.zero_le _
  | cons field fields ih =>
    rw [fieldChars]
    simp only [List.length_cons, List.length_append, List.cons_append]
    omega

/-- **Objects read back**, one level above their values. -/
theorem readsBack_object {nesting : Nat} {fields : List (String × Json)}
    (hfields : ∀ field ∈ fields, ReadsBack (readValue nesting) field.2) :
    ReadsBack (readValue (nesting + 1)) (.object fields) := by
  intro rest _
  cases fields with
  | nil =>
    rw [toChars, List.cons_append, skipSpace_cons (by decide), readValue.eq_8]
    rfl
  | cons field fields =>
    obtain ⟨name, value⟩ := field
    have hread := readFields_fieldChars fields rest
      (textChars name ++ ':' :: (value.toChars ++ (fieldChars fields ++ '\x7d' :: rest))).length
      name value (by
        have := length_le_fieldChars fields
        simp only [List.length_append, List.length_cons]
        omega)
      (hfields _ List.mem_cons_self) (fun field hf => hfields field (List.mem_cons_of_mem _ hf))
    rw [toChars_object, List.cons_append, skipSpace_cons (by decide)]
    simp only [List.append_assoc, List.cons_append, List.nil_append]
    rw [readValue.eq_8]
    split
    · next tail htail =>
      -- the text starts with a quote, so it is not the empty object
      rw [textChars, List.cons_append, List.cons_append, skipSpace_cons (by decide)] at htail
      exact absurd (List.cons.inj htail).1 (by decide)
    · rw [hread]
      rfl

/-- **A whole object reads back from its compact text.** -/
theorem parse?_compact_object {fields : List (String × Json)}
    (hfields : ∀ field ∈ fields, ReadsBack (readValue (nestingLimit - 1)) field.2) :
    parse? (compact (.object fields)) = some (.object fields) := by
  have hread := readsBack_object hfields [] endsValue_nil
  rw [List.append_nil] at hread
  have hnesting : nestingLimit = nestingLimit - 1 + 1 := rfl
  rw [parse?, readWholeText, compact, String.toList_ofList, hnesting, hread]
  rfl

end RelationSql.Json
