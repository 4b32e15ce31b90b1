import RelationSql.Dialect.Builtin

/-!
# Text literals as a server reads them

A server reads a quoted text up to the mark that ends it; a mark inside the text is written twice.
Servers of the MySQL family, in the mode they start in, also take a backslash in a text for the
start of an escape, so that a mark behind a backslash ends nothing. Literals are written with their
marks doubled and their backslashes as they are, for all dialects alike.

* `Quoting.step`, `readQuoted` — reading, character by character;
* `length_le_of_readQuoted` — an escape never makes a text longer than it was written;
* `readText_mysql_literal_iff` — which texts the MySQL family reads as they were meant.
-/

namespace RelationSql

/-- How a server takes backslashes in texts. -/
inductive Lexis where
  /-- as characters like any other -/
  | standard
  /-- as the start of an escape -/
  | backslash
deriving DecidableEq

namespace Lexis

/-- Whether a backslash starts an escape between two marks. Between back quotes it never does. -/
def escapes (lexis : Lexis) (mark : Char) : Bool := lexis = .backslash && mark != '\x60'

end Lexis

/-! ## Reading -/

/-- The letters that stand for control characters in an escape. -/
def controlLetters : List (Char × Char) :=
  [('0', '\x00'), ('b', '\x08'), ('n', '\n'), ('r', '\r'), ('t', '\t'), ('Z', '\x1a')]

/-- What the character behind a backslash stands for. Before the wildcards of patterns the backslash
is kept, and before any other character it is dropped. -/
def escaped (c : Char) : List Char :=
  if c = '%' ∨ c = '_' then ['\\', c] else [(controlLetters.lookup c).getD c]

/-- Where a reader stands in a quoted text. -/
inductive Quoting where
  /-- among the characters of the text -/
  | inside
  /-- behind a mark, which has ended the text unless another mark follows -/
  | behindMark
  /-- behind a backslash that starts an escape -/
  | behindBackslash
deriving DecidableEq

/-- Read one character: what it adds to the text, and where the reader stands then. There is no step
if the text has ended before the character. -/
def Quoting.step (lexis : Lexis) (mark : Char) : Quoting → Char → Option (List Char × Quoting)
  | inside, c =>
    if c = mark then some ([], behindMark)
    else if lexis.escapes mark && c = '\\' then some ([], behindBackslash)
    else some ([c], inside)
  | behindMark, c => if c = mark then some ([mark], inside) else none
  | behindBackslash, c => some (escaped c, inside)

/-- Read a quoted text to its end: the text, and what follows it. -/
def readQuoted (lexis : Lexis) (mark : Char) : Quoting → List Char → Option (List Char × List Char)
  | .behindMark, [] => some ([], [])
  | _, [] => none
  | state, c :: rest =>
    match state.step lexis mark c with
    | none => some ([], c :: rest)
    | some (value, next) =>
      (readQuoted lexis mark next rest).map fun read => (value ++ read.1, read.2)

/-- Read a text between single quotes. -/
def readText (lexis : Lexis) : List Char → Option (List Char × List Char)
  | '\x27' :: rest => readQuoted lexis '\x27' .inside rest
  | _ => none

/-- A text ends behind a mark only. -/
theorem Quoting.eq_behindMark_of_step {lexis : Lexis} {mark c : Char} {state : Quoting}
    (h : state.step lexis mark c = none) : state = behindMark := by
  cases state with
  | behindMark => rfl
  | inside =>
    rw [step] at h
    split at h
    · cases h
    · split at h <;> cases h
  | behindBackslash => cases h

theorem readQuoted_cons {lexis : Lexis} {mark c : Char} {state next : Quoting} {value : List Char}
    (h : state.step lexis mark c = some (value, next)) (rest : List Char) :
    readQuoted lexis mark state (c :: rest) =
      (readQuoted lexis mark next rest).map fun read => (value ++ read.1, read.2) := by
  rw [readQuoted, h]

/-! ## Lengths

A mark counts half of what other characters do, because it takes two of them to write one. What is
read as the text is then never more than what it was read from. -/

/-- How much characters count. -/
def quotedWeight : List Char → Nat
  | [] => 0
  | c :: rest => (if c = '\x27' then 1 else 2) + quotedWeight rest

theorem quotedWeight_append (xs ys : List Char) :
    quotedWeight (xs ++ ys) = quotedWeight xs + quotedWeight ys := by
  induction xs with
  | nil => rw [List.nil_append, quotedWeight, Nat.zero_add]
  | cons c xs ih => rw [List.cons_append, quotedWeight, quotedWeight, ih, Nat.add_assoc]

/-- A text with its marks doubled counts as much as its characters. -/
theorem quotedWeight_doubled (s : List Char) :
    quotedWeight (Text.doubled '\x27' s) = 2 * s.length := by
  induction s with
  | nil => rfl
  | cons c s ih =>
    rw [Text.doubled, List.length_cons]
    split
    · simp only [quotedWeight, if_true, ih]
      omega
    · next hc =>
      rw [quotedWeight, if_neg hc, ih]
      omega

/-- What the reader has read and not yet used. -/
def Quoting.credit : Quoting → Nat
  | inside => 0
  | behindMark => 1
  | behindBackslash => 2

theorem length_escaped_le (c : Char) : (escaped c).length ≤ 2 := by
  rw [escaped]
  split <;> simp

/-- **A character adds no more than it counts**, together with what was not yet used. -/
theorem credit_of_step {lexis : Lexis} {state next : Quoting} {c : Char} {value : List Char}
    (h : state.step lexis '\x27' c = some (value, next)) :
    2 * value.length + next.credit ≤ quotedWeight [c] + state.credit := by
  cases state with
  | inside =>
    rw [Quoting.step] at h
    split at h
    · cases h
      simp [Quoting.credit, quotedWeight, *]
    · split at h <;> cases h <;> simp [Quoting.credit, quotedWeight, *]
  | behindMark =>
    rw [Quoting.step] at h
    split at h
    · cases h
      simp [Quoting.credit, quotedWeight, *]
    · cases h
  | behindBackslash =>
    cases h
    by_cases hc : c = '\x27'
    · subst hc
      decide
    · have := length_escaped_le c
      simp only [Quoting.credit, quotedWeight, if_neg hc]
      omega

theorem weight_of_readQuoted {lexis : Lexis} {state : Quoting} {xs value rest : List Char}
    (h : readQuoted lexis '\x27' state xs = some (value, rest)) :
    2 * value.length + 1 + quotedWeight rest ≤ quotedWeight xs + state.credit := by
  induction xs generalizing state value with
  | nil =>
    cases state with
    | behindMark => cases h; decide
    | inside => cases h
    | behindBackslash => cases h
  | cons c xs ih =>
    cases hstep : state.step lexis '\x27' c with
    | none =>
      rw [readQuoted, hstep] at h
      cases h
      cases Quoting.eq_behindMark_of_step hstep
      rw [List.length_nil, Quoting.credit]
      omega
    | some next =>
      obtain ⟨first, next⟩ := next
      rw [readQuoted_cons hstep] at h
      obtain ⟨⟨others, rest'⟩, hrest, h⟩ := Option.map_eq_some_iff.mp h
      cases h
      have hfirst := credit_of_step hstep
      have hothers := ih hrest
      simp only [quotedWeight, List.length_append] at hfirst hothers ⊢
      omega

/-- A text as it is written behind its first mark, and what follows it. -/
def writtenText (s t : List Char) : List Char := Text.doubled '\x27' s ++ '\x27' :: t

theorem writtenText_mark (s t : List Char) :
    writtenText ('\x27' :: s) t = '\x27' :: '\x27' :: writtenText s t := rfl

theorem writtenText_cons {c : Char} (hc : c ≠ '\x27') (s t : List Char) :
    writtenText (c :: s) t = c :: writtenText s t := by
  rw [writtenText, Text.doubled, if_neg hc, List.cons_append, writtenText]

/-- **An escape never makes a text longer** than it was written. -/
theorem length_le_of_readQuoted {lexis : Lexis} {s value t : List Char}
    (h : readQuoted lexis '\x27' .inside (writtenText s t) = some (value, t)) :
    value.length ≤ s.length := by
  have hweight := weight_of_readQuoted h
  rw [writtenText, quotedWeight_append, quotedWeight_doubled, quotedWeight, if_pos rfl,
    Quoting.credit] at hweight
  omega

/-! ## Backslashes -/

/-- Every backslash stands directly before a wildcard of patterns. -/
def KeepsBackslashes : List Char → Prop
  | [] => True
  | c :: rest =>
    (c = '\\' → rest.head? = some '%' ∨ rest.head? = some '_') ∧ KeepsBackslashes rest

theorem keepsBackslashes_cons {c : Char} (hc : c ≠ '\\') {s : List Char} :
    KeepsBackslashes (c :: s) ↔ KeepsBackslashes s :=
  and_iff_right fun h => absurd h hc

theorem keepsBackslashes_backslash {s : List Char} :
    KeepsBackslashes ('\\' :: s) ↔
      (s.head? = some '%' ∨ s.head? = some '_') ∧ KeepsBackslashes s :=
  and_congr_left fun _ => ⟨fun h => h rfl, fun h _ => h⟩

theorem map_append_eq_some {read : Option (List Char × List Char)} {value s t : List Char} :
    (read.map fun r => (value ++ r.1, r.2)) = some (value ++ s, t) ↔ read = some (s, t) := by
  cases read with
  | none => simp
  | some r =>
    obtain ⟨first, rest⟩ := r
    simp

/-- The text goes on inside after a character that stands for itself. -/
theorem readQuoted_plain {c : Char} (hmark : c ≠ '\x27') (hbackslash : c ≠ '\\')
    (lexis : Lexis) (s t : List Char) :
    readQuoted lexis '\x27' .inside (writtenText (c :: s) t) = some (c :: s, t) ↔
      readQuoted lexis '\x27' .inside (writtenText s t) = some (s, t) := by
  have hstep : Quoting.inside.step lexis '\x27' c = some ([c], .inside) := by
    simp [Quoting.step, hmark, hbackslash]
  rw [writtenText_cons hmark, readQuoted_cons hstep]
  exact map_append_eq_some

theorem readQuoted_mark (lexis : Lexis) (s t : List Char) :
    readQuoted lexis '\x27' .inside (writtenText ('\x27' :: s) t) = some ('\x27' :: s, t) ↔
      readQuoted lexis '\x27' .inside (writtenText s t) = some (s, t) := by
  have hfirst : Quoting.inside.step lexis '\x27' '\x27' = some ([], .behindMark) := rfl
  have hsecond : Quoting.behindMark.step lexis '\x27' '\x27' = some (['\x27'], .inside) := rfl
  rw [writtenText_mark, readQuoted_cons hfirst, readQuoted_cons hsecond, Option.map_map]
  exact map_append_eq_some

theorem readQuoted_end {t : List Char} (ht : t.head? ≠ some '\x27') (lexis : Lexis) :
    readQuoted lexis '\x27' .inside (writtenText [] t) = some ([], t) := by
  have hend : readQuoted lexis '\x27' .behindMark t = some ([], t) := by
    cases t with
    | nil => rfl
    | cons c t =>
      have hc : c ≠ '\x27' := fun h => ht (congrArg some h)
      rw [readQuoted, Quoting.step, if_neg hc]
  have hstep : Quoting.inside.step lexis '\x27' '\x27' = some ([], .behindMark) := rfl
  change readQuoted lexis '\x27' .inside ('\x27' :: t) = _
  rw [readQuoted_cons hstep, hend]
  rfl

/-- **Behind a backslash**, the text goes on with this backslash only before a wildcard. Before any
other character it is dropped, and then the text is shorter than it was written. -/
theorem readQuoted_behindBackslash_iff {c : Char} {s t : List Char} :
    readQuoted .backslash '\x27' .behindBackslash (writtenText (c :: s) t) =
        some ('\\' :: c :: s, t) ↔
      (c = '%' ∨ c = '_') ∧
        readQuoted .backslash '\x27' .inside (writtenText s t) = some (s, t) := by
  have hstep : Quoting.behindBackslash.step .backslash '\x27' c = some (escaped c, .inside) := rfl
  by_cases hmark : c = '\x27'
  · subst hmark
    rw [writtenText_mark, readQuoted_cons hstep]
    refine ⟨fun h => ?_, fun h => absurd h.1 (by decide)⟩
    obtain ⟨read, -, hread⟩ := Option.map_eq_some_iff.mp h
    cases hread
  · rw [writtenText_cons hmark, readQuoted_cons hstep]
    by_cases hc : c = '%' ∨ c = '_'
    · rw [escaped, if_pos hc, and_iff_right hc]
      exact map_append_eq_some
    · rw [escaped, if_neg hc]
      refine ⟨fun h => ?_, fun h => absurd h.1 hc⟩
      obtain ⟨⟨value, rest⟩, hvalue, hread⟩ := Option.map_eq_some_iff.mp h
      simp only [List.cons_append, List.nil_append, Prod.mk.injEq, List.cons.injEq] at hread
      obtain ⟨⟨-, rfl⟩, rfl⟩ := hread
      have hlength := length_le_of_readQuoted hvalue
      rw [List.length_cons] at hlength
      omega

/-- **Reading a written text** where backslashes start escapes. The induction carries both places
where the reader can stand when it comes to the next character of the text. -/
theorem readQuoted_writtenText_iff {t : List Char} (ht : t.head? ≠ some '\x27') (s : List Char) :
    (readQuoted .backslash '\x27' .inside (writtenText s t) = some (s, t) ↔ KeepsBackslashes s) ∧
    (readQuoted .backslash '\x27' .behindBackslash (writtenText s t) = some ('\\' :: s, t) ↔
      (s.head? = some '%' ∨ s.head? = some '_') ∧ KeepsBackslashes s) := by
  induction s with
  | nil =>
    refine ⟨iff_of_true (readQuoted_end ht _) trivial, iff_of_false (fun h => ?_) (by simp)⟩
    obtain ⟨read, -, hread⟩ := Option.map_eq_some_iff.mp h
    cases hread
  | cons c s ih =>
    obtain ⟨ihinside, ihbehind⟩ := ih
    constructor
    · by_cases hmark : c = '\x27'
      · subst hmark
        rw [readQuoted_mark, ihinside, keepsBackslashes_cons (by decide)]
      · by_cases hbackslash : c = '\\'
        · subst hbackslash
          have hstep :
              Quoting.inside.step .backslash '\x27' '\\' = some ([], .behindBackslash) := rfl
          rw [writtenText_cons hmark, readQuoted_cons hstep, keepsBackslashes_backslash, ← ihbehind]
          exact map_append_eq_some
        · rw [readQuoted_plain hmark hbackslash, ihinside, keepsBackslashes_cons hbackslash]
    · rw [readQuoted_behindBackslash_iff, ihinside, List.head?_cons, Option.some.injEq,
        Option.some.injEq]
      refine and_congr_right fun hc => (keepsBackslashes_cons ?_).symm
      rcases hc with rfl | rfl <;> decide

/-- **Which texts the MySQL family reads as they were meant**: those in which every backslash stands
directly before a wildcard. Whatever follows such a literal is left to be read on its own. -/
theorem readText_mysql_literal_iff {d : Dialect} (hd : d = .mysql ∨ d = .mariadb ∨ d = .mysql8)
    (s : String) {t : List Char} (ht : t.head? ≠ some '\x27') :
    readText .backslash ((d.literal (.text s)).toList ++ t) = some (s.toList, t) ↔
      KeepsBackslashes s.toList := by
  have hliteral : (d.literal (.text s)).toList ++ t = '\x27' :: writtenText s.toList t := by
    have hquoted : d.literal (.text s) = Text.singleQuoted s := by
      rcases hd with rfl | rfl | rfl <;> rfl
    rw [hquoted, Text.singleQuoted, String.toList_ofList, writtenText]
    simp
  rw [hliteral]
  exact (readQuoted_writtenText_iff ht s.toList).1

/-- A quote at either end, and wildcards that are meant as characters. -/
theorem readText_mysql_literal_of_pattern :
    let s := "'100\\% of a\\_b''"
    let t := " AND 1 = 1".toList
    KeepsBackslashes s.toList ∧
      readText .backslash ((Dialect.mysql8.literal (.text s)).toList ++ t) =
        some (s.toList, t) := by
  intro s t
  have hkeeps : KeepsBackslashes s.toList := by simp [s, KeepsBackslashes]
  have hafter : t.head? ≠ some '\x27' := by decide
  exact ⟨hkeeps, (readText_mysql_literal_iff (.inr (.inr rfl)) s hafter).mpr hkeeps⟩

/-- **A backslash can change the statement.** The literal of a single backslash does not end where
it was meant to, and a quote behind a backslash ends the text early, so that the rest of the text is
read as SQL. -/
theorem readText_mysql_literal_of_backslash :
    readText .backslash (Dialect.mysql.literal (.text "\\")).toList ≠ some ("\\".toList, []) ∧
    readText .backslash (Dialect.mysql.literal (.text "\\' OR 1 = 1 -- ")).toList =
      some ("'".toList, " OR 1 = 1 -- '".toList) := by
  decide

end RelationSql
