import RelationSql.Proofs.Keyset.SeekExpression
import RelationSql.Proofs.Sql.Tokens
import RelationSql.Sql.Fragment
import Mathlib.Data.List.Forall2

/-!
# Values among the tokens of a statement

The tokens of a seek predicate, or of a list of parent keys, have fixed places for values. A text is
one token there, which holds the text, so that no text can change the tokens around it.

* `Slot` — a token, or the place of a value;
* `reads_seek`, `reads_keyIn`, `reads_keySource` — what the texts are read as;
* `samePlaces_of_reads` — the same places give the same tokens, but for text literals;
* `texts_keep_their_places` — texts in place of other texts change their own tokens only.
-/

namespace RelationSql

/-! ## Places -/

/-- A part of a statement with values in it: a token, or the place of a value. -/
inductive Slot where
  /-- a token -/
  | token (token : Token)
  /-- the literal of a value -/
  | value (value : Scalar)

/-- The tokens of a part. -/
def Slot.tokens (d : Dialect) : Slot → List Token
  | token t => [t]
  | value v => d.literalTokens v

theorem Slot.flatMap_tokens_map (d : Dialect) (own : List Token) :
    (own.map token).flatMap (tokens d) = own := by
  rw [List.flatMap_map]
  exact List.flatMap_singleton' own

/-- A text is read as these tokens and values. -/
def Reads (d : Dialect) (text : String) (slots : List Slot) : Prop :=
  tokens? .standard text = some (slots.flatMap (Slot.tokens d))

namespace Reads

variable {d : Dialect} {s t : String} {left right : List Slot} {own : List Token}

theorem of_tokens? (h : tokens? .standard s = some own) : Reads d s (own.map .token) := by
  rw [Reads, h, Slot.flatMap_tokens_map]

/-- Behind a text that ends between tokens. -/
theorem lead (hs : Scan.blank.run .standard s.toList = some (own, .blank)) (ht : Reads d t right) :
    Reads d (s ++ t) (own.map .token ++ right) := by
  rw [Reads, tokens?_append_of_run hs ht, List.flatMap_append, Slot.flatMap_tokens_map]

/-- Before a text that starts with a break. -/
theorem append (hs : Reads d s left) (hbreak : t.toList.head?.any isBreak = true)
    (ht : Reads d t right) : Reads d (s ++ t) (left ++ right) := by
  rw [Reads, tokens?_append_of_break hs hbreak ht, List.flatMap_append]

variable {separator : String}

theorem separated (hs : Reads d s left) (hseparator : Separates .standard separator own)
    (ht : Reads d t right) : Reads d (s ++ separator ++ t) (left ++ own.map .token ++ right) := by
  rw [Reads, tokens?_separated hs hseparator ht, List.flatMap_append, List.flatMap_append,
    Slot.flatMap_tokens_map]

theorem intercalate (hseparator : Separates .standard separator own) {texts : List String}
    {parts : List (List Slot)} (h : List.Forall₂ (Reads d) texts parts) :
    Reads d (separator.intercalate texts) (List.intercalate (own.map .token) parts) := by
  induction h with
  | nil => exact rfl
  | cons hfirst hrest ih =>
    cases hrest with
    | nil => rwa [String.intercalate_singleton, List.intercalate_singleton]
    | cons hnext hrest =>
      rw [String.intercalate_cons_cons, List.intercalate_cons_cons]
      exact hfirst.separated hseparator ih

theorem intercalate_map (hseparator : Separates .standard separator own) {α : Type} {xs : List α}
    {text : α → String} {part : α → List Slot} (h : ∀ x ∈ xs, Reads d (text x) (part x)) :
    Reads d (separator.intercalate (xs.map text))
      (List.intercalate (own.map .token) (xs.map part)) := by
  refine intercalate hseparator ?_
  exact List.forall₂_map_left_iff.mpr (List.forall₂_map_right_iff.mpr (List.forall₂_same.mpr h))

theorem opening_run : Scan.blank.run .standard "(".toList = some ([.opening], .blank) := rfl

theorem closing : Reads d ")" [.token .closing] := rfl

end Reads

/-- Parts with a word between them, in parentheses if there are several. -/
def groupedSlots (word : String) : List (List Slot) → List Slot
  | [part] => part
  | parts =>
    .token .opening :: List.intercalate [.token (.word word.toList)] parts ++ [.token .closing]

theorem Reads.grouped_map {d : Dialect} {separator word : String}
    (hseparator : Separates .standard separator [.word word.toList]) {α : Type} {xs : List α}
    {text : α → String} {part : α → List Slot} (h : ∀ x ∈ xs, Reads d (text x) (part x)) :
    Reads d (grouped separator (xs.map text)) (groupedSlots word (xs.map part)) := by
  have hall := ((intercalate_map hseparator h).lead opening_run).append rfl closing
  match xs, h with
  | [], _ => exact hall
  | [x], h => exact h x List.mem_cons_self
  | _ :: _ :: _, _ => exact hall

/-- A column and a value. -/
def Comparison.slots (table : String) (c : Comparison) : List Slot :=
  [.token (.quoted .double table.toList), .token (.separator '.'),
    .token (.quoted .double c.column.toList), .token (.operator c.comparator.symbol.toList),
    .value c.value]

/-- The tokens of a seek predicate, and the places of its values. -/
def Seek.slots (table : String) (seek : Seek) : List Slot :=
  groupedSlots "OR" (seek.branches.map fun branch =>
    groupedSlots "AND" (branch.map (Comparison.slots table)))

/-- The tokens of a condition on the parent keys, and the places of the keys. -/
def keyInSlots (table column : String) (keys : List Scalar) : List Slot :=
  [.token (.quoted .double table.toList), .token (.separator '.'),
    .token (.quoted .double column.toList), .token (.word ['I', 'N']), .token .opening] ++
    List.intercalate [.token (.separator ',')] (keys.map fun key => [.value key]) ++
    [.token .closing]

/-- The tokens of a table of the parent keys, and the places of the keys. -/
def Correlation.keySlots (parentKey : String) (keys : List Scalar) : Correlation → List Slot
  | lateral =>
    [.token (.word "FROM".toList), .token .opening, .token (.word "VALUES".toList)] ++
      List.intercalate [.token (.separator ',')]
        (keys.map fun key => [.token .opening, .value key, .token .closing]) ++
      [.token .closing, .token (.word "temp".toList), .token .opening,
        .token (.quoted .double parentKey.toList), .token .closing]
  | apply =>
    [.token (.word "FROM".toList), .token .opening] ++
      List.intercalate [.token (.word "UNION".toList)]
        (keys.map fun key => [.token (.word "SELECT".toList), .value key,
          .token (.word "AS".toList), .token (.quoted .double "value".toList),
          .token (.word "FROM".toList), .token (.word "DUAL".toList)]) ++
      [.token .closing, .token (.quoted .double "temp".toList)]

section Standard

variable {d : Dialect} (hd : d = .pg ∨ d = .oracle ∨ d = .sqlite3)
include hd

theorem reads_literal (value : Scalar) : Reads d (d.literal value) [.value value] := by
  rw [Reads, tokens?_literal hd, List.flatMap_singleton]
  rfl

theorem reads_quote {name : String} (h : '"' ∉ name.toList) :
    Reads d (d.quote name) [.token (.quoted .double name.toList)] := by
  rw [Dialect.quote_eq_doubleQuoted hd]
  exact .of_tokens? (tokens?_doubleQuoted h)

theorem reads_column {table column : String} (htable : '"' ∉ table.toList)
    (hcolumn : '"' ∉ column.toList) : Reads d (d.column table column)
      [.token (.quoted .double table.toList), .token (.separator '.'),
        .token (.quoted .double column.toList)] := by
  have hdot : Separates .standard "." [.separator '.'] := ⟨rfl, rfl⟩
  exact (reads_quote hd htable).separated hdot (reads_quote hd hcolumn)

theorem reads_comparison {table : String} (htable : '"' ∉ table.toList) {c : Comparison}
    (hcolumn : '"' ∉ c.column.toList) :
    Reads d (c.toSql d (d.quote table)) (c.slots table) := by
  have hblank : Separates .standard " " [] := ⟨rfl, rfl⟩
  have hsymbol : tokens? .standard c.comparator.symbol =
      some [.operator c.comparator.symbol.toList] := by
    cases c.comparator with
    | equal => rfl
    | past direction => cases direction <;> rfl
  exact ((reads_column hd htable hcolumn).separated hblank (.of_tokens? hsymbol)).separated hblank
    (reads_literal hd c.value)

/-- **What a seek predicate is read as.** -/
theorem reads_seek {table : String} (htable : '"' ∉ table.toList) {seek : Seek}
    (hcolumns : ∀ branch ∈ seek.branches, ∀ c ∈ branch, '"' ∉ c.column.toList) :
    Reads d ((Condition.seek table seek).toSql d) (seek.slots table) := by
  have hor : Separates .standard " OR " [.word "OR".toList] := ⟨rfl, rfl⟩
  have hand : Separates .standard " AND " [.word "AND".toList] := ⟨rfl, rfl⟩
  exact Reads.grouped_map hor fun branch hbranch => Reads.grouped_map hand fun c hc =>
    reads_comparison hd htable (hcolumns branch hbranch c hc)

/-- **What a condition on the parent keys is read as.** -/
theorem reads_keyIn {table column : String} (htable : '"' ∉ table.toList)
    (hcolumn : '"' ∉ column.toList) (scope : KeyScope) :
    Reads d ((Condition.keyIn table column scope).toSql d)
      (keyInSlots table column scope.keys) := by
  have hopen : Separates .standard " IN (" [.word ['I', 'N'], .opening] := ⟨rfl, rfl⟩
  have hcomma : Separates .standard ", " [.separator ','] := ⟨rfl, rfl⟩
  have hkeys := Reads.intercalate_map hcomma fun key (_ : key ∈ scope.keys) => reads_literal hd key
  exact ((reads_column hd htable hcolumn).separated hopen hkeys).append rfl .closing

/-- **What a table of the parent keys is read as.** -/
theorem reads_keySource {parentKey : String} (hkey : '"' ∉ parentKey.toList) (scope : KeyScope)
    (style : Correlation) : Reads d ((Fragment.keys style parentKey scope).toSql d)
      (style.keySlots parentKey scope.keys) := by
  cases style with
  | lateral =>
    have hvalues : Scan.blank.run .standard "FROM (VALUES ".toList =
        some ([.word "FROM".toList, .opening, .word "VALUES".toList], .blank) := rfl
    have htemp : Separates .standard ") temp(" [.closing, .word "temp".toList, .opening] :=
      ⟨rfl, rfl⟩
    have hcomma : Separates .standard ", " [.separator ','] := ⟨rfl, rfl⟩
    have hrows := Reads.intercalate_map hcomma fun key (_ : key ∈ scope.keys) =>
      ((reads_literal hd key).lead Reads.opening_run).append rfl .closing
    have htable := ((hrows.lead hvalues).separated htemp (reads_quote hd hkey)).append rfl .closing
    rw [List.append_assoc, List.append_assoc] at htable
    exact htable
  | apply =>
    have hfrom : Scan.blank.run .standard "FROM (".toList =
        some ([.word "FROM".toList, .opening], .blank) := rfl
    have hselect : Scan.blank.run .standard "SELECT ".toList =
        some ([.word "SELECT".toList], .blank) := rfl
    have has : Separates .standard " AS " [.word "AS".toList] := ⟨rfl, rfl⟩
    have hdual : Reads d " FROM DUAL"
      [.token (.word "FROM".toList), .token (.word "DUAL".toList)] := rfl
    have hunion : Separates .standard " UNION " [.word "UNION".toList] := ⟨rfl, rfl⟩
    have hclose : Separates .standard ") " [.closing] := ⟨rfl, rfl⟩
    have hrows := Reads.intercalate_map hunion fun key (_ : key ∈ scope.keys) =>
      (((reads_literal hd key).lead hselect).separated has
        (reads_quote hd (by decide : '"' ∉ "value".toList))).append rfl hdual
    have htable := (hrows.lead hfrom).separated hclose
      (reads_quote hd (by decide : '"' ∉ "temp".toList))
    rw [List.append_assoc] at htable
    exact htable

end Standard

/-! ## Texts in place of other texts -/

/-- A value with nothing in it if it is a text. -/
def Scalar.withoutText : Scalar → Scalar
  | .text _ => .text ""
  | value => value

/-- A token with nothing in it if it is a text literal. -/
def Token.withoutText : Token → Token
  | .quoted .single _ => .quoted .single []
  | token => token

namespace Slot

/-- A part with nothing in it if it is the place of a text. -/
def withoutText : Slot → Slot
  | token t => token t
  | value v => value v.withoutText

theorem map_tokens_withoutText (d : Dialect) (slot : Slot) :
    (slot.tokens d).map Token.withoutText =
      (slot.withoutText.tokens d).map Token.withoutText := by
  cases slot with
  | token t => rfl
  | value v => cases v <;> rfl

variable {between : List Slot} (hbetween : between.map withoutText = between)
include hbetween

theorem map_intercalate (parts : List (List Slot)) :
    (List.intercalate between parts).map withoutText =
      List.intercalate between (parts.map (List.map withoutText)) := by
  induction parts with
  | nil => rfl
  | cons part parts ih =>
    cases parts with
    | nil => simp
    | cons next parts =>
      rw [List.intercalate_cons_cons, List.map_append, List.map_append, ih, hbetween]
      simp only [List.map_cons, List.intercalate_cons_cons]

theorem map_intercalate_values {part : Scalar → List Slot}
    (hpart : ∀ value, (part value).map withoutText = part value.withoutText)
    (values : List Scalar) : (List.intercalate between (values.map part)).map withoutText =
      List.intercalate between ((values.map Scalar.withoutText).map part) := by
  rw [map_intercalate hbetween, List.map_map, List.map_map]
  congr 1
  exact List.map_congr_left fun value _ => hpart value

omit hbetween in
theorem map_groupedSlots (word : String) (parts : List (List Slot)) :
    (groupedSlots word parts).map withoutText =
      groupedSlots word (parts.map (List.map withoutText)) := by
  match parts with
  | [] => rfl
  | [part] => rfl
  | _ :: _ :: _ =>
    rw [groupedSlots, List.map_append, List.map_cons, map_intercalate rfl]
    · rfl
    · nofun

end Slot

/-- Two texts are read as the same tokens, but for what stands in the places of texts. -/
structure SamePlaces (d : Dialect) (text text' : String) (slots slots' : List Slot) : Prop where
  /-- the tokens and values of the one -/
  reads : Reads d text slots
  /-- the tokens and values of the other -/
  reads' : Reads d text' slots'
  /-- the values have the same places, and only texts differ -/
  places : slots.map Slot.withoutText = slots'.map Slot.withoutText
  /-- so only text literals differ -/
  tokens : (tokens? .standard text).map (List.map Token.withoutText) =
    (tokens? .standard text').map (List.map Token.withoutText)

theorem samePlaces_of_reads {d : Dialect} {text text' : String} {slots slots' : List Slot}
    (h : Reads d text slots) (h' : Reads d text' slots')
    (hplaces : slots.map Slot.withoutText = slots'.map Slot.withoutText) :
    SamePlaces d text text' slots slots' := by
  have htokens (slots : List Slot) : (slots.flatMap (Slot.tokens d)).map Token.withoutText =
      (slots.map Slot.withoutText).flatMap fun slot =>
        (slot.tokens d).map Token.withoutText := by
    rw [List.map_flatMap, List.flatMap_map]
    exact List.flatMap_congr fun slot _ => slot.map_tokens_withoutText d
  refine ⟨h, h', hplaces, ?_⟩
  rw [h, h', Option.map_some, Option.map_some, htokens, htokens, hplaces]

namespace Seek

theorem branchesAfter_withoutText (columns : List OrderColumn) (values : List Scalar) :
    branchesAfter (columns.zip (values.map Scalar.withoutText)) =
      (branchesAfter (columns.zip values)).map (List.map fun c =>
        { c with value := c.value.withoutText }) := by
  induction columns generalizing values with
  | nil => rfl
  | cons key keys ih =>
    cases values with
    | nil => rfl
    | cons value values =>
      rw [List.map_cons, List.zip_cons_cons, List.zip_cons_cons, branchesAfter, branchesAfter, ih,
        List.map_cons, List.map_map, List.map_map]
      rfl

/-- The places of the values depend on the columns only. -/
theorem slots_withoutText (table : String) (columns : List OrderColumn) (values : List Scalar) :
    ((behind columns values).slots table).map Slot.withoutText =
      (behind columns (values.map Scalar.withoutText)).slots table := by
  rw [slots, slots, Slot.map_groupedSlots, behind, behind, branchesAfter_withoutText, List.map_map,
    List.map_map]
  congr 1
  refine List.map_congr_left fun branch _ => ?_
  rw [Function.comp_apply, Slot.map_groupedSlots, Function.comp_apply, List.map_map, List.map_map]
  rfl

theorem null_mem_withoutText {values : List Scalar} :
    .null ∈ values.map Scalar.withoutText ↔ .null ∈ values := by
  have hnull (value : Scalar) : value.withoutText = .null ↔ value = .null := by
    cases value <;> simp [Scalar.withoutText]
  rw [List.mem_map]
  constructor
  · rintro ⟨value, hvalue, heq⟩
    rwa [← (hnull value).mp heq]
  · exact fun h => ⟨.null, h, rfl⟩

end Seek

/-- The places of the keys depend on their number only. -/
theorem keyInSlots_withoutText (table column : String) (keys : List Scalar) :
    (keyInSlots table column keys).map Slot.withoutText =
      keyInSlots table column (keys.map Scalar.withoutText) := by
  rw [keyInSlots, List.map_append, List.map_append,
    Slot.map_intercalate_values rfl fun _ => rfl]
  rfl

theorem Correlation.keySlots_withoutText (parentKey : String) (keys : List Scalar)
    (style : Correlation) : (style.keySlots parentKey keys).map Slot.withoutText =
      style.keySlots parentKey (keys.map Scalar.withoutText) := by
  cases style with
  | lateral =>
    rw [keySlots, List.map_append, List.map_append,
      Slot.map_intercalate_values rfl fun _ => rfl]
    rfl
  | apply =>
    rw [keySlots, List.map_append, List.map_append,
      Slot.map_intercalate_values rfl fun _ => rfl]
    rfl

/-- **Texts keep their places.** Where backslashes are characters like any other, a text literal is
read as its text, and what follows it is left to be read on its own. So values that differ in texts
only give seek predicates that are read as the same tokens, but for the text literals, each of which
stands for its value; and so do parent keys, in a condition or in a table of their own. -/
theorem texts_keep_their_places {d : Dialect} (hd : d = .pg ∨ d = .oracle ∨ d = .sqlite3) :
    (∀ (s : String) (t : List Char), t.head? ≠ some '\x27' →
      readText .standard ((d.literal (.text s)).toList ++ t) = some (s.toList, t)) ∧
    (∀ (table : String) (columns : List OrderColumn) (values values' : List Scalar) (seek : Seek),
      '"' ∉ table.toList → (∀ key ∈ columns, '"' ∉ key.column.toList) →
      values.map Scalar.withoutText = values'.map Scalar.withoutText →
      Seek.after columns values = .ok seek →
        ∃ seek', Seek.after columns values' = .ok seek' ∧
          SamePlaces d ((Condition.seek table seek).toSql d) ((Condition.seek table seek').toSql d)
            (seek.slots table) (seek'.slots table)) ∧
    (∀ (table column : String) (scope scope' : KeyScope),
      '"' ∉ table.toList → '"' ∉ column.toList →
      scope.keys.map Scalar.withoutText = scope'.keys.map Scalar.withoutText →
        SamePlaces d ((Condition.keyIn table column scope).toSql d)
          ((Condition.keyIn table column scope').toSql d)
          (keyInSlots table column scope.keys) (keyInSlots table column scope'.keys)) ∧
    ∀ (style : Correlation) (parentKey : String) (scope scope' : KeyScope),
      '"' ∉ parentKey.toList →
      scope.keys.map Scalar.withoutText = scope'.keys.map Scalar.withoutText →
        SamePlaces d ((Fragment.keys style parentKey scope).toSql d)
          ((Fragment.keys style parentKey scope').toSql d)
          (style.keySlots parentKey scope.keys) (style.keySlots parentKey scope'.keys) := by
  refine ⟨?_, ?_, ?_, ?_⟩
  · intro s t ht
    rw [Dialect.literal_text hd]
    exact readText_singleQuoted s ht
  · intro table columns values values' seek htable hcolumns hvalues hseek
    obtain ⟨hne, hlength, hnull⟩ := Seek.aligned_of_after hseek
    rw [Seek.after_eq_ok hne hlength hnull] at hseek
    cases hseek
    have hlength' : columns.length = values'.length := by
      rw [hlength, ← List.length_map (f := Scalar.withoutText), hvalues, List.length_map]
    have hnull' : .null ∉ values' := by
      rwa [← Seek.null_mem_withoutText, ← hvalues, Seek.null_mem_withoutText]
    have hnames (values : List Scalar) : ∀ branch ∈ (Seek.behind columns values).branches,
        ∀ c ∈ branch, '"' ∉ c.column.toList := by
      intro branch hbranch c hc
      obtain ⟨pair, hpair, heq⟩ := List.mem_map.mp (Seek.mem_of_mem_branchesAfter hbranch hc)
      rw [← (Prod.mk.inj heq).1]
      exact hcolumns pair.1 (List.of_mem_zip hpair).1
    refine ⟨_, Seek.after_eq_ok hne hlength' hnull', samePlaces_of_reads
      (reads_seek hd htable (hnames values)) (reads_seek hd htable (hnames values')) ?_⟩
    rw [Seek.slots_withoutText, Seek.slots_withoutText, hvalues]
  · intro table column scope scope' htable hcolumn hkeys
    refine samePlaces_of_reads (reads_keyIn hd htable hcolumn scope)
      (reads_keyIn hd htable hcolumn scope') ?_
    rw [keyInSlots_withoutText, keyInSlots_withoutText, hkeys]
  · intro style parentKey scope scope' hparent hkeys
    refine samePlaces_of_reads (reads_keySource hd hparent scope style)
      (reads_keySource hd hparent scope' style) ?_
    rw [Correlation.keySlots_withoutText, Correlation.keySlots_withoutText, hkeys]

/-- A text that would end the condition and leave the rest of it out, beside the empty text. -/
theorem texts_keep_their_places_of_attack :
    let columns : List OrderColumn := [⟨"name", .asc⟩, ⟨"id", .desc⟩]
    let attack : Scalar := .text "' OR 1 = 1) --"
    let scope : Scalar → KeyScope := fun key => .ofList [.integer (-7), key]
    readText .standard ((Dialect.sqlite3.literal attack).toList ++ ")".toList) =
      some ("' OR 1 = 1) --".toList, [')']) ∧
    (∃ seek, Seek.after columns [attack, .integer (-7)] = .ok seek ∧
      ∃ seek', Seek.after columns [.text "", .integer (-7)] = .ok seek' ∧
        SamePlaces .oracle ((Condition.seek "users" seek).toSql .oracle)
          ((Condition.seek "users" seek').toSql .oracle) (seek.slots "users")
          (seek'.slots "users")) ∧
    SamePlaces .sqlite3 ((Condition.keyIn "posts" "author" (scope attack)).toSql .sqlite3)
      ((Condition.keyIn "posts" "author" (scope (.text ""))).toSql .sqlite3)
      (keyInSlots "posts" "author" (scope attack).keys)
      (keyInSlots "posts" "author" (scope (.text "")).keys) ∧
    SamePlaces .pg ((Fragment.keys .lateral "name" (scope attack)).toSql .pg)
      ((Fragment.keys .lateral "name" (scope (.text ""))).toSql .pg)
      (Correlation.lateral.keySlots "name" (scope attack).keys)
      (Correlation.lateral.keySlots "name" (scope (.text "")).keys) := by
  intro columns attack scope
  obtain ⟨hliteral, -, hcondition, -⟩ := @texts_keep_their_places .sqlite3 (.inr (.inr rfl))
  obtain ⟨-, hseek, -, -⟩ := @texts_keep_their_places .oracle (.inr (.inl rfl))
  obtain ⟨-, -, -, htable⟩ := @texts_keep_their_places .pg (.inl rfl)
  exact ⟨hliteral _ _ (by decide),
    ⟨_, rfl, hseek "users" columns [attack, .integer (-7)] _ _ (by decide) (by decide) rfl rfl⟩,
    hcondition _ _ _ _ (by decide) (by decide) rfl, htable _ _ _ _ (by decide) rfl⟩

end RelationSql
