import RelationSql.Proofs.Sql.Reading
import RelationSql.Proofs.Timestamp.ReadBack

/-!
# Tokens of texts, names and literals

A text is read piece by piece: reading goes on from where it stands, and between two breaks a piece
is read as if it stood alone. Where backslashes are characters like any other, a quoted text is one
token, whatever stands in it, and so is the literal of a text.

* `Scan.run`, `scan_append` — reading goes on from where it stands;
* `tokens?_separated` — the tokens on both sides of a separator;
* `scan_quoted` — what stands between two marks is one token;
* `tokens?_literal` — the tokens of a literal.
-/

namespace RelationSql

/-! ## Reading piece by piece -/

/-- Read a text: the tokens that it completes, and where the reader stands behind it. -/
def Scan.run (lexis : Lexis) : Scan → List Char → Option (List Token × Scan)
  | state, [] => some ([], state)
  | state, c :: rest =>
    (state.step lexis c).bind fun read =>
      (run lexis read.2 rest).map fun more => (read.1 ++ more.1, more.2)

/-- **Reading goes on from where it stands.** -/
theorem scan_append {lexis : Lexis} {state next : Scan} {xs : List Char} {tokens : List Token}
    (h : state.run lexis xs = some (tokens, next)) (ys : List Char) :
    scan lexis state (xs ++ ys) = (scan lexis next ys).map (tokens ++ ·) := by
  induction xs generalizing state tokens with
  | nil =>
    cases h
    simp
  | cons c xs ih =>
    obtain ⟨⟨first, between⟩, hstep, h⟩ := Option.bind_eq_some_iff.mp h
    obtain ⟨⟨others, last⟩, hothers, h⟩ := Option.map_eq_some_iff.mp h
    cases h
    rw [List.cons_append, scan_cons hstep, ih hothers, Option.map_map]
    congr 1
    funext behind
    exact (List.append_assoc first others behind).symm

section Texts

variable {lexis : Lexis} {s t : String} {left right middle : List Token}

/-- A text behind which the reader stands between tokens. -/
theorem tokens?_append_of_run (hs : Scan.blank.run lexis s.toList = some (left, .blank))
    (ht : tokens? lexis t = some right) : tokens? lexis (s ++ t) = some (left ++ right) := by
  rw [tokens?, String.toList_append, scan_append hs]
  exact congrArg (Option.map (left ++ ·)) ht

/-- A text behind which a break stands. -/
theorem tokens?_append_of_break (hs : tokens? lexis s = some left)
    (hbreak : t.toList.head?.any isBreak = true) (ht : tokens? lexis t = some right) :
    tokens? lexis (s ++ t) = some (left ++ right) := by
  obtain ⟨c, hc, hcbreak⟩ := (Option.any_eq_true _ _).mp hbreak
  obtain ⟨rest, hrest⟩ := List.head?_eq_some_iff.mp hc
  rw [tokens?, hrest] at ht
  rw [tokens?, String.toList_append, hrest, scan_append_break hs hcbreak, ht]
  rfl

/-- A text that separates the tokens before it from those behind it, and its own tokens. -/
structure Separates (lexis : Lexis) (separator : String) (middle : List Token) : Prop where
  /-- it starts with a break -/
  starts : separator.toList.head?.any isBreak = true
  /-- behind it the reader stands between tokens -/
  ends : Scan.blank.run lexis separator.toList = some (middle, .blank)

variable {separator : String}

theorem tokens?_separated (hs : tokens? lexis s = some left)
    (hseparator : Separates lexis separator middle) (ht : tokens? lexis t = some right) :
    tokens? lexis (s ++ separator ++ t) = some (left ++ middle ++ right) := by
  have hbreak : (separator ++ t).toList.head?.any isBreak = true := by
    have hstarts := hseparator.starts
    rw [String.toList_append]
    cases hchars : separator.toList with
    | nil =>
      rw [hchars] at hstarts
      cases hstarts
    | cons c rest => rwa [hchars] at hstarts
  rw [String.append_assoc, List.append_assoc]
  exact tokens?_append_of_break hs hbreak (tokens?_append_of_run hseparator.ends ht)

end Texts

/-! ## Quoted texts and names -/

/-- A text with its marks doubled is read on as it was written. -/
theorem run_doubled (mark : Mark) (value s : List Char) :
    Scan.run .standard (.quoted mark value .inside) (Text.doubled mark.char s) =
      some ([], .quoted mark (value ++ s) .inside) := by
  induction s generalizing value with
  | nil => rw [Text.doubled, Scan.run, List.append_nil]
  | cons c s ih =>
    have happend : value ++ c :: s = value ++ [c] ++ s := by simp
    rw [Text.doubled]
    split
    · next hc =>
      subst hc
      have hfirst : Scan.step .standard (.quoted mark value .inside) mark.char =
          some ([], .quoted mark value .behindMark) := by simp [Scan.step, Quoting.step]
      have hsecond : Scan.step .standard (.quoted mark value .behindMark) mark.char =
          some ([], .quoted mark (value ++ [mark.char]) .inside) := by
        simp [Scan.step, Quoting.step]
      rw [Scan.run, hfirst, Option.bind_some, Scan.run, hsecond, Option.bind_some, ih, happend]
      rfl
    · next hc =>
      have hstep : Scan.step .standard (.quoted mark value .inside) c =
          some ([], .quoted mark (value ++ [c]) .inside) := by
        simp [Scan.step, Quoting.step, Lexis.escapes, hc]
      rw [Scan.run, hstep, Option.bind_some, ih, happend]
      rfl

/-- **What stands between two marks is one token**, with single marks for the doubled ones. -/
theorem scan_quoted (mark : Mark) (s : List Char) :
    scan .standard .blank (mark.char :: Text.doubled mark.char s ++ [mark.char]) =
      some [.quoted mark s] := by
  have hfirst : Scan.blank.step .standard mark.char = some ([], .quoted mark [] .inside) := by
    cases mark <;> rfl
  have hlast : Scan.step .standard (.quoted mark s .inside) mark.char =
      some ([], .quoted mark s .behindMark) := by simp [Scan.step, Quoting.step]
  rw [List.cons_append, scan_cons hfirst, scan_append (run_doubled mark [] s), List.nil_append,
    scan_cons hlast]
  rfl

theorem Text.doubled_eq_self {mark : Char} {s : List Char} (h : mark ∉ s) : doubled mark s = s := by
  induction s with
  | nil => rfl
  | cons c s ih =>
    rw [List.mem_cons, not_or] at h
    rw [doubled, if_neg (Ne.symm h.1), ih h.2]

theorem tokens?_doubleQuoted {name : String} (h : '"' ∉ name.toList) :
    tokens? .standard (Dialect.doubleQuoted name) = some [.quoted .double name.toList] := by
  have htext : (Dialect.doubleQuoted name).toList =
      Mark.double.char :: Text.doubled Mark.double.char name.toList ++ [Mark.double.char] := by
    have hplain : Text.doubled Mark.double.char name.toList = name.toList :=
      Text.doubled_eq_self h
    rw [hplain]
    change ("\"" ++ name ++ "\"").toList = _
    simp [Mark.char]
  rw [tokens?, htext, scan_quoted]

theorem tokens?_singleQuoted (s : String) :
    tokens? .standard (Text.singleQuoted s) = some [.quoted .single s.toList] := by
  rw [tokens?, Text.singleQuoted, String.toList_ofList]
  exact scan_quoted .single s.toList

/-- A text literal is read as its text, and what follows it is left. -/
theorem readText_singleQuoted (s : String) {t : List Char} (ht : t.head? ≠ some '\x27') :
    readText .standard ((Text.singleQuoted s).toList ++ t) = some (s.toList, t) := by
  have hread (s : List Char) :
      readQuoted .standard '\x27' .inside (writtenText s t) = some (s, t) := by
    induction s with
    | nil => exact readQuoted_end ht _
    | cons c s ih =>
      by_cases hc : c = '\x27'
      · subst hc
        exact (readQuoted_mark _ s t).mpr ih
      · have hstep : Quoting.inside.step .standard '\x27' c = some ([c], .inside) := by
          simp [Quoting.step, Lexis.escapes, hc]
        rw [writtenText_cons hc, readQuoted_cons hstep]
        exact map_append_eq_some.mpr ih
  have htext : (Text.singleQuoted s).toList ++ t = '\x27' :: writtenText s.toList t := by
    rw [Text.singleQuoted, String.toList_ofList, writtenText]
    simp
  rw [htext]
  exact hread s.toList

/-! ## Literals -/

theorem isWordChar_of_isDigit {c : Char} (hc : c.isDigit = true) : isWordChar c = true := by
  simp [isWordChar, Char.isAlphanum, hc]

theorem isOperatorChar_of_isDigit {c : Char} (hc : c.isDigit = true) :
    isOperatorChar .standard c = false := by
  have hnone : ('#' :: "=<>!+-*/%|&^~:?@".toList).all (fun c => !c.isDigit) = true := rfl
  by_contra h
  have hmem : c ∈ '#' :: "=<>!+-*/%|&^~:?@".toList := by
    rw [Bool.not_eq_false, isOperatorChar, Bool.or_eq_true, List.contains_iff_mem] at h
    rcases h with h | h
    · exact List.mem_cons_of_mem _ h
    · simp at h
      simp [h]
  simpa [hc] using List.all_eq_true.mp hnone c hmem

/-- Digits go on with the word that they stand behind. -/
theorem run_digits {digits : List Char} (h : ∀ c ∈ digits, c.isDigit = true) (letters : List Char) :
    Scan.run .standard (.word letters) digits = some ([], .word (letters ++ digits)) := by
  induction digits generalizing letters with
  | nil => rw [Scan.run, List.append_nil]
  | cons c digits ih =>
    obtain ⟨hc, hrest⟩ := List.forall_mem_cons.mp h
    have hstep : Scan.step .standard (.word letters) c = some ([], .word (letters ++ [c])) := by
      simp [Scan.step, isWordChar_of_isDigit hc]
    rw [Scan.run, hstep, Option.bind_some, ih hrest]
    simp

/-- A digit that stands behind no word starts one. -/
theorem start_digit {c : Char} (hc : c.isDigit = true) :
    Scan.start .standard c = some ([], .word [c]) := by
  have hblank : c.isWhitespace = false := by
    by_contra hblank
    simp only [Char.isWhitespace, Bool.not_eq_false, Bool.or_eq_true, decide_eq_true_eq] at hblank
    rcases hblank with ((rfl | rfl) | rfl) | rfl <;> cases hc
  rw [Scan.start, hblank, isWordChar_of_isDigit hc]
  rfl

/-- A number is a word of digits, behind an operator if it is negative. -/
theorem exists_tokens?_signedText (n : Int64) :
    ∃ tokens, tokens? .standard (Text.signedText n) = some tokens := by
  have hdigits : ∀ c ∈ Text.numeral n.toInt.natAbs, c.isDigit = true := fun c hc =>
    Nat.isDigit_of_mem_toDigits (by decide) (by decide) hc
  have hne : Text.numeral n.toInt.natAbs ≠ [] := Nat.toDigits_ne_nil
  obtain ⟨c, digits, hcons⟩ := List.exists_cons_of_ne_nil hne
  rw [hcons] at hdigits
  obtain ⟨hc, hdigits⟩ := List.forall_mem_cons.mp hdigits
  have hword : scan .standard (.word [c]) (digits ++ []) = some [.word (c :: digits)] := by
    rw [scan_append (run_digits hdigits [c])]
    rfl
  rw [List.append_nil] at hword
  rw [tokens?, Text.signedText, String.toList_ofList, Text.signedNumeral, hcons]
  split
  · have hminus : Scan.blank.step .standard '-' = some ([], .operator ['-']) := rfl
    have hdigit : Scan.step .standard (.operator ['-']) c =
        some ([.operator ['-']], .word [c]) := by
      rw [Scan.step, isOperatorChar_of_isDigit hc, Scan.startBehind, start_digit hc]
      rfl
    exact ⟨_, by rw [scan_cons hminus, scan_cons hdigit, hword]; rfl⟩
  · have hdigit : Scan.blank.step .standard c = some ([], .word [c]) := start_digit hc
    exact ⟨_, by rw [scan_cons hdigit, hword]; rfl⟩

theorem not_mem_plainText (t : Timestamp) : '\x27' ∉ t.plainText.toList := by
  have hdigits (width n : Nat) : '\x27' ∉ Text.paddedNumeral width n := fun h =>
    absurd (Text.isDigit_of_mem_paddedNumeral h) (by decide)
  have hyear : '\x27' ∉ Timestamp.yearChars t.date.year := by
    rw [Timestamp.yearChars]
    split
    · exact hdigits _ _
    · split <;> simp [hdigits]
  rw [Timestamp.plainText, String.toList_ofList, Timestamp.secondsChars, Timestamp.millisChars]
  simp [hdigits, hyear]

/-- The text of a typed timestamp holds no mark to be doubled. -/
theorem Dialect.oracle_literal_timestamp (t : Timestamp) :
    Dialect.oracle.literal (.timestamp t) = "TIMESTAMP " ++ Text.singleQuoted t.plainText := by
  rw [← String.toList_inj, String.toList_append, Text.singleQuoted, String.toList_ofList,
    Text.doubled_eq_self (not_mem_plainText t)]
  change ("TIMESTAMP '" ++ t.plainText ++ "'").toList = _
  simp

/-- The tokens of a literal. A text is one token, which holds the text; the literal of another value
is read as it is written. -/
def Dialect.literalTokens (d : Dialect) : Scalar → List Token
  | .text s => [.quoted .single s.toList]
  | value => (tokens? .standard (d.literal value)).getD []

section Standard

variable {d : Dialect} (hd : d = .pg ∨ d = .oracle ∨ d = .sqlite3)
include hd

theorem Dialect.literal_text (s : String) : d.literal (.text s) = Text.singleQuoted s := by
  rcases hd with rfl | rfl | rfl <;> rfl

theorem Dialect.quote_eq_doubleQuoted (name : String) :
    d.quote name = Dialect.doubleQuoted name := by
  rcases hd with rfl | rfl | rfl <;> rfl

theorem exists_tokens?_timestamp (t : Timestamp) :
    ∃ tokens, tokens? .standard (d.literal (.timestamp t)) = some tokens := by
  have hmillis : ∃ tokens, tokens? .standard (Text.singleQuoted t.millisText) = some tokens :=
    ⟨_, tokens?_singleQuoted t.millisText⟩
  rcases hd with rfl | rfl | rfl
  · exact hmillis
  · rw [Dialect.oracle_literal_timestamp]
    exact ⟨_, tokens?_append_of_run rfl (tokens?_singleQuoted t.plainText)⟩
  · exact hmillis

/-- **The tokens of a literal.** -/
theorem tokens?_literal (value : Scalar) :
    tokens? .standard (d.literal value) = some (d.literalTokens value) := by
  have hread {value : Scalar} (h : ∃ tokens, tokens? .standard (d.literal value) = some tokens) :
      tokens? .standard (d.literal value) =
        some ((tokens? .standard (d.literal value)).getD []) := by
    obtain ⟨tokens, h⟩ := h
    rw [h]
    rfl
  cases value with
  | text s =>
    rw [Dialect.literal_text hd]
    exact tokens?_singleQuoted s
  | null => exact hread (by rcases hd with rfl | rfl | rfl <;> exact ⟨_, rfl⟩)
  | integer n =>
    have hliteral : d.literal (.integer n) = Text.signedText n := by
      rcases hd with rfl | rfl | rfl <;> rfl
    exact hread (hliteral ▸ exists_tokens?_signedText n)
  | timestamp t => exact hread (exists_tokens?_timestamp hd t)

end Standard

end RelationSql
