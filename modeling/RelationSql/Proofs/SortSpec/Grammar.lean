import RelationSql.SortSpec
import Mathlib.Data.List.Basic
import Mathlib.Data.List.TakeWhile

/-!
# The grammar of sort specs

A sort spec is written as a list of items with commas between them: `Spec` holds the pieces of such
a text, each with what makes it one, so that every value of the type is a well formed spec. The
reader takes as much as it can at every step and gives up a comma that no column follows; still it
never takes a wrong piece, since what ends a piece cannot go on with it.

* `readColumn_item`, `readMore_texts` — the pieces of a spec are read one by one;
* `exists_item_of_readColumn`, `exists_of_readMore` — whatever is read is made of such pieces;
* `Spec.maximalRun` — the names of a spec are maximal runs of name characters;
* `parses_exactly_specs` — which texts are read, and as what.
-/

namespace RelationSql.SortSpec

/-! ## Characters -/

/-- The code points of blanks. -/
def blankRanges : List (Nat × Nat) :=
  [(9, 13), (0x20, 0x20), (0x85, 0x85), (0xA0, 0xA0), (0x1680, 0x1680), (0x2000, 0x200A),
   (0x2028, 0x2029), (0x202F, 0x202F), (0x205F, 0x205F), (0x3000, 0x3000)]

theorem inRanges_of_isBlank {c : Char} (h : Text.isBlank c = true) :
    Text.inRanges blankRanges c = true := by
  have hspace : c = ' ' ↔ c.toNat = 32 := Char.toNat_inj.symm
  simp only [Text.isBlank, Bool.or_eq_true, Bool.and_eq_true, decide_eq_true_eq, beq_iff_eq,
    hspace] at h
  simp only [Text.inRanges, blankRanges, List.any_cons, List.any_nil, Bool.or_eq_true,
    Bool.and_eq_true, decide_eq_true_eq, Bool.or_false]
  omega

/-- No range of one table meets a range of the other. -/
def apart (table other : List (Nat × Nat)) : Bool :=
  table.all fun range => other.all fun gap => Nat.blt range.2 gap.1 || Nat.blt gap.2 range.1

theorem inRanges_of_apart {table other : List (Nat × Nat)} {c : Char}
    (hapart : apart table other = true) (h : Text.inRanges other c = true) :
    Text.inRanges table c = false := by
  rw [Bool.eq_false_iff]
  intro htable
  obtain ⟨range, hrange, hlow, hhigh⟩ := Text.inRanges_iff.mp htable
  obtain ⟨gap, hgap, hlow', hhigh'⟩ := Text.inRanges_iff.mp h
  have hmeet := List.all_eq_true.mp (List.all_eq_true.mp hapart range hrange) gap hgap
  simp only [Bool.or_eq_true, Nat.blt_eq] at hmeet
  omega

/-- A blank does not stand in a name. -/
theorem isNameChar_of_isBlank {c : Char} (h : Text.isBlank c = true) : isNameChar c = false := by
  have hranges := inRanges_of_isBlank h
  have hletter : Text.isAlphanumeric c = false :=
    inRanges_of_apart (by decide +kernel) hranges
  have hunderscore : c ≠ '_' := by
    rintro rfl
    exact absurd h (by decide)
  have hdollar : c ≠ '$' := by
    rintro rfl
    exact absurd h (by decide)
  simp [isNameChar, hletter, hunderscore, hdollar]

theorem isNameChar_of_isSpace {c : Char} (h : isSpace c = true) : isNameChar c = false := by
  simp only [isSpace, Bool.or_eq_true, beq_iff_eq, or_assoc] at h
  rcases h with rfl | rfl | rfl | rfl <;> exact isNameChar_of_isBlank (by decide)

theorem isBlank_of_isNameChar {c : Char} (h : isNameChar c = true) : Text.isBlank c = false := by
  rw [Bool.eq_false_iff]
  intro hblank
  rw [isNameChar_of_isBlank hblank] at h
  cases h

theorem isNameChar_comma : isNameChar ',' = false := by decide +kernel

theorem isSpace_of_isNameChar {c : Char} (h : isNameChar c = true) : isSpace c = false := by
  rw [Bool.eq_false_iff]
  intro hspace
  rw [isNameChar_of_isSpace hspace] at h
  cases h

/-! ## The pieces of a spec -/

/-- A text spells a word, whatever its case. -/
def Spells (word : String) (cs : List Char) : Prop := cs.map Char.toLower = word.toList

instance (word : String) (cs : List Char) : Decidable (Spells word cs) :=
  inferInstanceAs (Decidable (_ = _))

/-- Blanks and the word for a direction behind them. -/
structure DirectionPart where
  /-- the blanks -/
  blanks : List Char
  /-- the word -/
  word : List Char
  /-- there is a blank -/
  blanks_ne_nil : blanks ≠ []
  /-- they are blanks within a spec -/
  isSpace_blanks : ∀ c ∈ blanks, isSpace c = true
  /-- the word is one of the two -/
  spells : Spells "asc" word ∨ Spells "desc" word

/-- The name of a column, and the direction if it is given. -/
structure Item where
  /-- the name -/
  name : List Char
  /-- the direction with the blanks before it -/
  part : Option DirectionPart
  /-- the name is not empty -/
  name_ne_nil : name ≠ []
  /-- it is made of name characters -/
  isNameChar_name : ∀ c ∈ name, isNameChar c = true

/-- A comma with blanks around it. -/
structure Comma where
  /-- the blanks before it -/
  before : List Char
  /-- the blanks behind it -/
  after : List Char
  /-- they are blanks within a spec -/
  isSpace_before : ∀ c ∈ before, isSpace c = true
  /-- on both sides -/
  isSpace_after : ∀ c ∈ after, isSpace c = true

/-- A spec: one item or more, with commas between them. -/
structure Spec where
  /-- the first item -/
  first : Item
  /-- the items behind it, each with the comma before it -/
  more : List (Comma × Item)

namespace DirectionPart

/-- The text of a direction. -/
def text (part : DirectionPart) : List Char := part.blanks ++ part.word

/-- The direction that is given: descending if the word says so. -/
def direction (part : DirectionPart) : Direction :=
  if Spells "desc" part.word then .desc else .asc

end DirectionPart

namespace Item

/-- What stands behind the name. -/
def partText (item : Item) : List Char := (item.part.map DirectionPart.text).getD []

/-- The text of an item. -/
def text (item : Item) : List Char := item.name ++ item.partText

/-- The column of an item, which ascends if no direction is given. -/
def column (item : Item) : OrderColumn where
  column := String.ofList item.name
  direction := (item.part.map DirectionPart.direction).getD .asc

end Item

/-- The text of a comma with the blanks around it. -/
def Comma.text (comma : Comma) : List Char := comma.before ++ ',' :: comma.after

/-- The texts of the items behind the first, with their commas. -/
def texts (more : List (Comma × Item)) : List Char :=
  more.flatMap fun piece => piece.1.text ++ piece.2.text

theorem texts_cons (comma : Comma) (item : Item) (more : List (Comma × Item)) :
    texts ((comma, item) :: more) = comma.text ++ (item.text ++ texts more) := by
  rw [texts, List.flatMap_cons, List.append_assoc]
  rfl

namespace Spec

/-- The text of a spec. -/
def text (spec : Spec) : List Char := spec.first.text ++ texts spec.more

/-- The columns of a spec. -/
def columns (spec : Spec) : List OrderColumn :=
  spec.first.column :: spec.more.map fun piece => piece.2.column

end Spec

/-! ## Reading the pieces -/

/-- What may stand behind an item: nothing, or a comma with blanks before it. -/
def Follows (rest : List Char) : Prop :=
  rest = [] ∨ ∃ blanks tail, (∀ c ∈ blanks, isSpace c = true) ∧ rest = blanks ++ ',' :: tail

theorem follows_texts (more : List (Comma × Item)) : Follows (texts more) := by
  cases more with
  | nil => exact .inl rfl
  | cons piece more =>
    obtain ⟨comma, item⟩ := piece
    refine .inr ⟨comma.before, comma.after ++ (item.text ++ texts more), comma.isSpace_before, ?_⟩
    rw [texts_cons, Comma.text, List.append_assoc, List.cons_append]

/-- A run of characters ends where one of another kind stands. -/
theorem takeWhile_append_of_head {p : Char → Bool} {run rest : List Char}
    (hrun : ∀ c ∈ run, p c = true) (hrest : ∀ c, rest.head? = some c → p c = false) :
    (run ++ rest).takeWhile p = run ∧ (run ++ rest).dropWhile p = rest := by
  rw [List.takeWhile_append_of_pos hrun, List.dropWhile_append_of_pos hrun]
  cases rest with
  | nil => simp
  | cons c rest => simp [hrest c rfl]

theorem Follows.isNameChar_head {rest : List Char} (h : Follows rest) {c : Char}
    (hc : rest.head? = some c) : isNameChar c = false := by
  rcases h with rfl | ⟨blanks, tail, hblanks, rfl⟩
  · cases hc
  · cases blanks with
    | nil =>
      cases hc
      exact isNameChar_comma
    | cons b blanks =>
      cases hc
      exact isNameChar_of_isSpace (hblanks _ List.mem_cons_self)

theorem mem_of_head?_append {run rest : List Char} {c : Char} (hne : run ≠ [])
    (h : (run ++ rest).head? = some c) : c ∈ run := by
  obtain ⟨first, run, rfl⟩ := List.exists_cons_of_ne_nil hne
  cases h
  exact List.mem_cons_self

theorem Item.isNameChar_head {item : Item} {rest : List Char} {c : Char}
    (hc : (item.text ++ rest).head? = some c) : isNameChar c = true := by
  rw [Item.text, List.append_assoc] at hc
  exact item.isNameChar_name c (mem_of_head?_append item.name_ne_nil hc)

/-- Behind a name neither a comma nor the end is taken for a direction. -/
theorem readDirectionPart_follows {rest : List Char} (h : Follows rest) :
    readDirectionPart rest = (.asc, rest) := by
  rcases h with rfl | ⟨blanks, tail, hblanks, rfl⟩
  · rfl
  · have hcomma : ∀ c, (',' :: tail).head? = some c → isSpace c = false := by
      rintro c ⟨⟩
      rfl
    obtain ⟨htake, hdrop⟩ := takeWhile_append_of_head hblanks hcomma
    have hnone : readDirection (',' :: tail) = none := by simp [readDirection]
    simp [readDirectionPart, htake, hdrop, hnone]

theorem isSpace_of_mem_word {part : DirectionPart} {c : Char} (hc : c ∈ part.word) :
    isSpace c = false := by
  have hlower : c.toLower ∈ "asc".toList ∨ c.toLower ∈ "desc".toList := by
    rcases part.spells with h | h
    · exact .inl (h ▸ List.mem_map_of_mem hc)
    · exact .inr (h ▸ List.mem_map_of_mem hc)
  rw [Bool.eq_false_iff]
  intro hspace
  simp only [isSpace, Bool.or_eq_true, beq_iff_eq, or_assoc] at hspace
  rcases hspace with rfl | rfl | rfl | rfl <;> revert hlower <;> decide

/-- The word for a direction is read, whatever follows. -/
theorem readDirection_word (part : DirectionPart) (rest : List Char) :
    readDirection (part.word ++ rest) = some (part.direction, rest) := by
  rw [readDirection, DirectionPart.direction]
  rcases part.spells with h | h
  · have hword : part.word.map Char.toLower = ['a', 's', 'c'] := h
    have hlength : part.word.length = 3 := by
      rw [← part.word.length_map, hword]
      rfl
    -- the other word would start with another letter
    have hother : ¬((part.word ++ rest).take 4).map Char.toLower = ['d', 'e', 's', 'c'] := by
      intro hdesc
      have hprefix := congrArg (List.take 3) hdesc
      rw [← List.map_take, List.take_take, List.take_left' (by simpa using hlength)] at hprefix
      exact absurd (hword.symm.trans hprefix) (by decide)
    have hnot : ¬Spells "desc" part.word := fun hdesc =>
      absurd (hword.symm.trans hdesc) (by decide)
    rw [if_neg hother, if_neg hnot, List.take_left' hlength, List.drop_left' hlength, if_pos hword]
  · have hword : part.word.map Char.toLower = ['d', 'e', 's', 'c'] := h
    have hlength : part.word.length = 4 := by
      rw [← part.word.length_map, hword]
      rfl
    rw [List.take_left' hlength, List.drop_left' hlength, if_pos hword, if_pos h]

theorem readDirectionPart_part (part : DirectionPart) (rest : List Char) :
    readDirectionPart (part.text ++ rest) = (part.direction, rest) := by
  have hword : ∀ c, (part.word ++ rest).head? = some c → isSpace c = false := by
    intro c hc
    have hne : part.word ≠ [] := by
      intro hnil
      have := part.spells
      rw [hnil] at this
      revert this
      decide
    exact isSpace_of_mem_word (mem_of_head?_append hne hc)
  obtain ⟨htake, hdrop⟩ := takeWhile_append_of_head part.isSpace_blanks hword
  rw [DirectionPart.text, List.append_assoc, readDirectionPart, htake, hdrop,
    readDirection_word]
  simp [part.blanks_ne_nil]

/-- A name ends where its direction or what follows the item stands. -/
theorem Item.isNameChar_behind (item : Item) {rest : List Char} (h : Follows rest) {c : Char}
    (hc : (item.partText ++ rest).head? = some c) : isNameChar c = false := by
  rw [Item.partText] at hc
  cases hpart : item.part with
  | none =>
    rw [hpart] at hc
    exact h.isNameChar_head hc
  | some part =>
    rw [hpart, Option.map_some, Option.getD_some, DirectionPart.text, List.append_assoc] at hc
    exact isNameChar_of_isSpace (part.isSpace_blanks c (mem_of_head?_append part.blanks_ne_nil hc))

theorem readDirectionPart_item (item : Item) {rest : List Char} (h : Follows rest) :
    readDirectionPart (item.partText ++ rest) = (item.column.direction, rest) := by
  rw [Item.partText, Item.column]
  cases item.part with
  | none => exact readDirectionPart_follows h
  | some part => exact readDirectionPart_part part rest

/-- **An item is read**, up to what may follow it. -/
theorem readColumn_item (item : Item) {rest : List Char} (h : Follows rest) :
    readColumn (item.text ++ rest) = some (item.column, rest) := by
  obtain ⟨htake, hdrop⟩ := takeWhile_append_of_head item.isNameChar_name fun c hc =>
    item.isNameChar_behind h hc
  rw [Item.text, List.append_assoc, readColumn, htake, hdrop, if_neg item.name_ne_nil,
    readDirectionPart_item item h]
  rfl

/-- A comma is read with the blanks around it, up to a name. -/
theorem readComma_comma (comma : Comma) (rest : List Char)
    (h : ∀ c, rest.head? = some c → isSpace c = false) :
    readComma (comma.text ++ rest) = some rest := by
  have hmark : ∀ c, (',' :: (comma.after ++ rest)).head? = some c → isSpace c = false := by
    rintro c ⟨⟩
    rfl
  rw [Comma.text, List.append_assoc, List.cons_append, readComma,
    (takeWhile_append_of_head comma.isSpace_before hmark).2]
  exact congrArg some (takeWhile_append_of_head comma.isSpace_after h).2

/-- **The items behind the first are read**, each round one of them. -/
theorem readMore_texts (more : List (Comma × Item)) {rounds : Nat}
    (h : (texts more).length ≤ rounds) :
    readMore rounds (texts more) = (more.map fun piece => piece.2.column, []) := by
  induction more generalizing rounds with
  | nil => cases rounds <;> rfl
  | cons piece more ih =>
    obtain ⟨comma, item⟩ := piece
    rw [texts_cons] at h ⊢
    have hcomma := readComma_comma comma (item.text ++ texts more) fun c hc =>
      isSpace_of_isNameChar (Item.isNameChar_head hc)
    have hitem := readColumn_item item (follows_texts more)
    -- a comma takes up at least one character
    simp only [Comma.text, List.length_append, List.length_cons] at h
    obtain ⟨rounds, rfl⟩ : ∃ n, rounds = n + 1 := Nat.exists_eq_add_one.mpr (by omega)
    have hlength : (texts more).length ≤ rounds := by omega
    rw [readMore, hcomma, Option.bind_some, hitem]
    simp only [ih hlength, List.map_cons]

/-! ## What is read is made of pieces -/

theorem exists_word_of_readDirection {cs rest : List Char} {direction : Direction}
    (h : readDirection cs = some (direction, rest)) :
    ∃ word, cs = word ++ rest ∧ (Spells "asc" word ∨ Spells "desc" word) ∧
      direction = if Spells "desc" word then .desc else .asc := by
  rw [readDirection] at h
  split at h
  · next hdesc =>
    cases h
    exact ⟨cs.take 4, (List.take_append_drop 4 cs).symm, .inr hdesc, (if_pos hdesc).symm⟩
  · split at h
    · next hasc =>
      cases h
      have hnot : ¬Spells "desc" (cs.take 3) := fun hdesc =>
        absurd (hasc.symm.trans hdesc) (by decide)
      exact ⟨cs.take 3, (List.take_append_drop 3 cs).symm, .inl hasc, (if_neg hnot).symm⟩
    · cases h

/-- Behind a name either a direction is read, or nothing. -/
theorem exists_part_of_readDirectionPart {cs rest : List Char} {direction : Direction}
    (h : readDirectionPart cs = (direction, rest)) : ∃ part : Option DirectionPart,
      cs = (part.map DirectionPart.text).getD [] ++ rest ∧
      direction = (part.map DirectionPart.direction).getD .asc := by
  rw [readDirectionPart] at h
  split at h
  · cases h
    exact ⟨none, rfl, rfl⟩
  · next hblanks =>
    cases hread : readDirection (cs.dropWhile isSpace) with
    | none =>
      rw [hread] at h
      cases h
      exact ⟨none, rfl, rfl⟩
    | some found =>
      rw [hread] at h
      cases h
      obtain ⟨word, hword, hspells, hdirection⟩ := exists_word_of_readDirection hread
      refine ⟨some ⟨cs.takeWhile isSpace, word, by simpa using hblanks,
        fun c hc => List.mem_takeWhile_imp hc, hspells⟩, ?_, hdirection⟩
      rw [Option.map_some, Option.getD_some, DirectionPart.text, List.append_assoc, ← hword,
        List.takeWhile_append_dropWhile]

/-- **A column that is read is that of an item** at the front of the text. -/
theorem exists_item_of_readColumn {cs rest : List Char} {column : OrderColumn}
    (h : readColumn cs = some (column, rest)) :
    ∃ item : Item, cs = item.text ++ rest ∧ item.column = column := by
  rw [readColumn] at h
  split at h
  · cases h
  · next hne =>
    cases h
    have hread : readDirectionPart (cs.dropWhile isNameChar) = (_, _) := rfl
    obtain ⟨part, hpart, hdirection⟩ := exists_part_of_readDirectionPart hread
    refine ⟨⟨cs.takeWhile isNameChar, part, hne, fun c hc => List.mem_takeWhile_imp hc⟩, ?_, ?_⟩
    · rw [Item.text, Item.partText, List.append_assoc, ← hpart, List.takeWhile_append_dropWhile]
    · rw [Item.column, ← hdirection]

theorem exists_comma_of_readComma {cs rest : List Char} (h : readComma cs = some rest) :
    ∃ comma : Comma, cs = comma.text ++ rest := by
  rw [readComma] at h
  split at h
  · next tail htail =>
    cases h
    refine ⟨⟨cs.takeWhile isSpace, tail.takeWhile isSpace, fun c hc => List.mem_takeWhile_imp hc,
      fun c hc => List.mem_takeWhile_imp hc⟩, ?_⟩
    rw [Comma.text, List.append_assoc, List.cons_append, List.takeWhile_append_dropWhile, ← htail,
      List.takeWhile_append_dropWhile]
  · cases h

/-- **Columns that are read are those of items with commas** at the front of the text. -/
theorem exists_of_readMore {rounds : Nat} {cs rest : List Char} {columns : List OrderColumn}
    (h : readMore rounds cs = (columns, rest)) : ∃ more : List (Comma × Item),
      cs = texts more ++ rest ∧ (more.map fun piece => piece.2.column) = columns := by
  induction rounds generalizing cs columns with
  | zero =>
    cases h
    exact ⟨[], rfl, rfl⟩
  | succ rounds ih =>
    rw [readMore] at h
    split at h
    · next column behind hread =>
      cases h
      obtain ⟨front, hcomma, hcolumn⟩ := Option.bind_eq_some_iff.mp hread
      obtain ⟨comma, rfl⟩ := exists_comma_of_readComma hcomma
      obtain ⟨item, rfl, rfl⟩ := exists_item_of_readColumn hcolumn
      have hrest : readMore rounds behind = (_, _) := rfl
      obtain ⟨more, hmore, hcolumns⟩ := ih hrest
      refine ⟨(comma, item) :: more, ?_, by rw [List.map_cons, hcolumns]⟩
      rw [texts_cons, List.append_assoc, List.append_assoc, ← hmore]
    · cases h
      exact ⟨[], rfl, rfl⟩

/-- **Which characters are read, and as what**: the texts of specs, as their columns. -/
theorem readAll_eq_ok_iff {cs : List Char} {columns : List OrderColumn} :
    readAll cs = .ok columns ↔ ∃ spec : Spec, spec.text = cs ∧ spec.columns = columns := by
  constructor
  · intro h
    rw [readAll] at h
    split at h
    · cases h
    · next column rest hfirst =>
      split at h
      · next more hmore =>
        cases h
        obtain ⟨item, rfl, rfl⟩ := exists_item_of_readColumn hfirst
        obtain ⟨pieces, rfl, rfl⟩ := exists_of_readMore hmore
        exact ⟨⟨item, pieces⟩, by rw [Spec.text, List.append_nil], rfl⟩
      · cases h
  · rintro ⟨spec, rfl, rfl⟩
    rw [readAll, Spec.text, readColumn_item spec.first (follows_texts spec.more)]
    simp only [readMore_texts spec.more (Nat.le_refl _)]
    rfl

theorem parse_eq_ok_iff {s : String} {columns : List OrderColumn} :
    parse s = .ok columns ↔ readAll (Text.trimChars s.toList) = .ok columns := by
  rw [parse]
  cases readAll (Text.trimChars s.toList) <;> simp

/-! ## Names are maximal runs -/

/-- A run of name characters that cannot be made longer, on either side. -/
structure MaximalRun (before run after : List Char) : Prop where
  /-- there is a character -/
  ne_nil : run ≠ []
  /-- all are name characters -/
  inside : ∀ c ∈ run, isNameChar c = true
  /-- the one before is not -/
  left : ∀ c, before.getLast? = some c → isNameChar c = false
  /-- nor the one behind -/
  right : ∀ c, after.head? = some c → isNameChar c = false

/-- An item of a spec, with the texts before and behind it. -/
inductive Spec.Has (spec : Spec) : List Char → Item → List Char → Prop where
  /-- the first item -/
  | first : spec.Has [] spec.first (texts spec.more)
  /-- another one -/
  | later {pre post : List (Comma × Item)} {comma : Comma} {item : Item}
    (h : spec.more = pre ++ (comma, item) :: post) :
    spec.Has (spec.first.text ++ texts pre ++ comma.text) item (texts post)

namespace Spec

variable {spec : Spec} {before after : List Char} {item : Item}

theorem Has.text_eq (h : spec.Has before item after) :
    spec.text = before ++ (item.text ++ after) := by
  cases h with
  | first => rfl
  | later h =>
    rw [text, h, texts, List.flatMap_append, ← texts, ← texts, texts_cons]
    simp only [List.append_assoc]

theorem Has.isNameChar_getLast (h : spec.Has before item after) {c : Char}
    (hc : before.getLast? = some c) : isNameChar c = false := by
  cases h with
  | first => cases hc
  | @later pre post comma item h =>
    rw [Comma.text, ← List.append_assoc, List.getLast?_append_cons] at hc
    rcases List.mem_cons.mp (List.mem_of_getLast? hc) with rfl | hafter
    · exact isNameChar_comma
    · exact isNameChar_of_isSpace (comma.isSpace_after c hafter)

theorem Has.follows (h : spec.Has before item after) : Follows after := by
  cases h with
  | first => exact follows_texts _
  | later => exact follows_texts _

/-- **The names of a spec are maximal runs of name characters** in its text. -/
theorem maximalRun (h : spec.Has before item after) :
    MaximalRun before item.name (item.partText ++ after) where
  ne_nil := item.name_ne_nil
  inside := item.isNameChar_name
  left _ hc := h.isNameChar_getLast hc
  right _ hc := item.isNameChar_behind h.follows hc

end Spec

/-! ## Writing columns -/

/-- A text that can stand as the name of a column. -/
structure IsName (name : String) : Prop where
  /-- it has a character -/
  ne_nil : name.toList ≠ []
  /-- and only such as stand in names -/
  inside : ∀ c ∈ name.toList, isNameChar c = true

/-- A column with its direction as a text. -/
def writtenColumn (key : OrderColumn) : String := key.column ++ " " ++ key.direction.word

/-- The spec of some columns, with all directions given. -/
def written (columns : List OrderColumn) : String := ", ".intercalate (columns.map writtenColumn)

theorem isSpace_of_mem_blank {c : Char} (h : c ∈ [' ']) : isSpace c = true := by
  rw [List.mem_singleton.mp h]
  rfl

/-- A comma with one blank behind it. -/
def Comma.plain : Comma where
  before := []
  after := [' ']
  isSpace_before _ h := absurd h List.not_mem_nil
  isSpace_after _ := isSpace_of_mem_blank

/-- The item of a column with its direction. -/
def Item.ofColumn (key : OrderColumn) (h : IsName key.column) : Item where
  name := key.column.toList
  part := some {
    blanks := [' ']
    word := key.direction.word.toList
    blanks_ne_nil := by decide
    isSpace_blanks := fun _ => isSpace_of_mem_blank
    spells := by cases key.direction <;> decide }
  name_ne_nil := h.ne_nil
  isNameChar_name := h.inside

theorem Item.column_ofColumn {key : OrderColumn} (h : IsName key.column) :
    (ofColumn key h).column = key := by
  obtain ⟨name, direction⟩ := key
  cases direction <;> simp [column, ofColumn, DirectionPart.direction, Direction.word] <;> decide

theorem Item.text_ofColumn {key : OrderColumn} (h : IsName key.column) :
    (ofColumn key h).text = (writtenColumn key).toList := by
  simp [text, partText, ofColumn, DirectionPart.text, writtenColumn]

theorem written_cons (key next : OrderColumn) (rest : List OrderColumn) :
    (written (key :: next :: rest)).toList =
      (writtenColumn key).toList ++ (", ".toList ++ (written (next :: rest)).toList) := by
  simp only [written, String.toList_intercalate, List.map_cons, List.intercalate_cons_cons,
    List.append_assoc]

theorem getLast?_writtenColumn (key : OrderColumn) :
    (writtenColumn key).toList.getLast? = some 'C' := by
  cases hdirection : key.direction <;>
    simp [writtenColumn, hdirection, Direction.word, List.getLast?_append]

/-- The written form of columns is a spec of them. -/
theorem exists_spec_written {columns : List OrderColumn} (hne : columns ≠ [])
    (hnames : ∀ key ∈ columns, IsName key.column) : ∃ spec : Spec,
      spec.text = (written columns).toList ∧ spec.columns = columns := by
  induction columns with
  | nil => exact absurd rfl hne
  | cons key rest ih =>
    have hkey : IsName key.column := hnames key List.mem_cons_self
    cases rest with
    | nil =>
      refine ⟨⟨.ofColumn key hkey, []⟩, ?_, ?_⟩
      · rw [Spec.text, Item.text_ofColumn, written]
        simp [texts]
      · rw [Spec.columns, Item.column_ofColumn]
        rfl
    | cons next rest =>
      obtain ⟨spec, htext, hcolumns⟩ := ih (List.cons_ne_nil _ _) fun key hkey =>
        hnames key (List.mem_cons_of_mem _ hkey)
      refine ⟨⟨.ofColumn key hkey, (.plain, spec.first) :: spec.more⟩, ?_, ?_⟩
      · rw [Spec.text, texts_cons, Item.text_ofColumn, written_cons, ← htext]
        rfl
      · rw [Spec.columns, Item.column_ofColumn, List.map_cons, ← hcolumns]
        rfl

/-- Written columns end with the last letter of a direction. -/
theorem getLast?_written {columns : List OrderColumn} (hne : columns ≠ []) :
    (written columns).toList.getLast? = some 'C' := by
  induction columns with
  | nil => exact absurd rfl hne
  | cons key rest ih =>
    cases rest with
    | nil => simpa [written] using getLast?_writtenColumn key
    | cons next rest =>
      rw [written_cons, List.getLast?_append, List.getLast?_append, ih (List.cons_ne_nil _ _)]
      rfl

/-- There are no blanks around written columns. -/
theorem trimChars_written {columns : List OrderColumn} (hne : columns ≠ [])
    (hnames : ∀ key ∈ columns, IsName key.column) :
    Text.trimChars (written columns).toList = (written columns).toList := by
  obtain ⟨spec, htext, -⟩ := exists_spec_written hne hnames
  apply Text.trimChars_eq_self
  · intro c hc
    rw [← htext] at hc
    exact isBlank_of_isNameChar (Item.isNameChar_head hc)
  · intro c hc
    rw [getLast?_written hne] at hc
    cases hc
    decide

/-! ## Sort specs -/

/-- **Which texts are sort specs, and of which columns.** Without the white space around it, the
text is that of a spec, in which every name is a maximal run of name characters. In particular the
columns that are written with their directions are read again, whatever their names. -/
theorem parses_exactly_specs (s : String) (columns : List OrderColumn) :
    (parse s = .ok columns ↔ ∃ spec : Spec, spec.text = Text.trimChars s.toList ∧
      spec.columns = columns ∧ ∀ before item after, spec.Has before item after →
        spec.text = before ++ (item.text ++ after) ∧
        MaximalRun before item.name (item.partText ++ after)) ∧
    (columns ≠ [] → (∀ key ∈ columns, IsName key.column) →
      parse (written columns) = .ok columns) := by
  refine ⟨?_, fun hne hnames => ?_⟩
  · rw [parse_eq_ok_iff, readAll_eq_ok_iff]
    constructor
    · rintro ⟨spec, htext, hcolumns⟩
      exact ⟨spec, htext, hcolumns, fun _ _ _ h => ⟨h.text_eq, Spec.maximalRun h⟩⟩
    · rintro ⟨spec, htext, hcolumns, -⟩
      exact ⟨spec, htext, hcolumns⟩
  · rw [parse_eq_ok_iff, readAll_eq_ok_iff, trimChars_written hne hnames]
    exact exists_spec_written hne hnames

/-- Columns whose names are the words for the directions. -/
theorem parses_direction_words :
    parse (written [⟨"desc", .asc⟩, ⟨"ASC", .desc⟩]) = .ok [⟨"desc", .asc⟩, ⟨"ASC", .desc⟩] := by
  have hname (name : String) (hne : name.toList ≠ [])
      (hall : name.toList.all isNameChar = true) : IsName name :=
    ⟨hne, List.all_eq_true.mp hall⟩
  refine (parses_exactly_specs "" _).2 (by decide) fun key hkey => ?_
  rcases hkey with _ | ⟨_, _ | ⟨_, ⟨⟩⟩⟩
  · exact hname "desc" (by decide) (by decide +kernel)
  · exact hname "ASC" (by decide) (by decide +kernel)

end RelationSql.SortSpec
