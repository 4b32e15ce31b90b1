import RelationSql.Proofs.Sql.TextLiteral

/-!
# Conditions as a server reads them

The text of a condition is cut into tokens, and the tokens are put together by precedence: `OR`
stands between alternatives, `AND` between the requirements of an alternative, and each requirement
is a run of other tokens and groups in parentheses. What a run without `AND` and `OR` says of a row
is left open; a condition is then true, false or unknown of the row by the logic of three values.

The reader asks of a text what its reading depends on: quotes and parentheses match, and every
`BETWEEN` has its `AND`. It takes no comments, no `CASE` and no `XOR`, and none of the quotings and
connectives that only some servers know.

* `tokens?`, `formula?` — reading;
* `Formula.value` — the value of what was read;
* `scan_append_break` — blanks, parentheses, dots and commas separate tokens;
* `readToken_splice`, `formula?_and` — what stands on the two sides of an `AND`.
-/

namespace RelationSql

/-! ## Tokens -/

/-- The marks around quoted texts and names. -/
inductive Mark where
  /-- a single quote -/
  | single
  /-- a double quote -/
  | double
  /-- a back quote -/
  | back
deriving DecidableEq

namespace Mark

/-- The mark as a character. -/
def char : Mark → Char
  | single => '\x27'
  | double => '"'
  | back => '\x60'

/-- The mark that a character is. -/
def ofChar? (c : Char) : Option Mark := [single, double, back].find? fun mark => mark.char = c

end Mark

/-- A token of a statement. -/
inductive Token where
  /-- a keyword, a name or a number -/
  | word (letters : List Char)
  /-- an operator -/
  | operator (symbols : List Char)
  /-- a quoted text or name -/
  | quoted (mark : Mark) (value : List Char)
  /-- a dot or a comma -/
  | separator (symbol : Char)
  /-- an opening parenthesis -/
  | opening
  /-- a closing parenthesis -/
  | closing
deriving DecidableEq

/-- The characters that words are made of. -/
def isWordChar (c : Char) : Bool := c.isAlphanum || c = '_' || 128 ≤ c.toNat

/-- The characters that operators are made of. A number sign starts a comment in servers that know
escapes. -/
def isOperatorChar (lexis : Lexis) (c : Char) : Bool :=
  "=<>!+-*/%|&^~:?@".toList.contains c || (c = '#' && lexis = .standard)

/-- Two symbols that stand in no operator: they start a comment or, in servers that know escapes,
are another word for `AND` or `OR`. -/
def isRefusedPair (lexis : Lexis) (pair : List Char) : Bool :=
  [['-', '-'], ['/', '*']].contains pair ||
    (lexis = .backslash && [['&', '&'], ['|', '|']].contains pair)

/-- Where a reader stands between the tokens of a text. -/
inductive Scan where
  /-- between tokens -/
  | blank
  /-- behind these letters of a word -/
  | word (letters : List Char)
  /-- behind these symbols of an operator -/
  | operator (symbols : List Char)
  /-- in a quoted text, of which this much has been read -/
  | quoted (mark : Mark) (value : List Char) (quoting : Quoting)

namespace Scan

/-- The token that ends with the text. -/
def last? : Scan → Option (List Token)
  | blank => some []
  | word letters => some [.word letters]
  | operator symbols => some [.operator symbols]
  | quoted mark value .behindMark => some [.quoted mark value]
  | quoted _ _ _ => none

/-- Read a character that belongs to no token before it. -/
def start (lexis : Lexis) (c : Char) : Option (List Token × Scan) :=
  if c.isWhitespace then some ([], blank)
  else if isWordChar c then some ([], word [c])
  else if isOperatorChar lexis c then some ([], operator [c])
  else if c = '(' then some ([.opening], blank)
  else if c = ')' then some ([.closing], blank)
  else if c = '.' || c = ',' then some ([.separator c], blank)
  else (Mark.ofChar? c).map fun mark => ([], quoted mark [] .inside)

/-- Read a character behind a token that has ended. -/
def startBehind (lexis : Lexis) (token : Token) (c : Char) : Option (List Token × Scan) :=
  (start lexis c).map fun (tokens, next) => (token :: tokens, next)

/-- Read one character: the tokens that it completes, and where the reader stands then. -/
def step (lexis : Lexis) : Scan → Char → Option (List Token × Scan)
  | blank, c => start lexis c
  | word letters, c =>
    if isWordChar c || c = '$' then some ([], word (letters ++ [c]))
    -- a word that changes how the quoted text behind it is read
    else if (Mark.ofChar? c).isSome then none
    else startBehind lexis (.word letters) c
  | operator symbols, c =>
    if isOperatorChar lexis c then
      if isRefusedPair lexis (symbols.getLast?.toList ++ [c]) then none
      else some ([], operator (symbols ++ [c]))
    else startBehind lexis (.operator symbols) c
  | quoted mark value quoting, c =>
    match quoting.step lexis mark.char c with
    | some (more, next) => some ([], quoted mark (value ++ more) next)
    | none => startBehind lexis (.quoted mark value) c

end Scan

/-- Read the tokens of a text from some place on. -/
def scan (lexis : Lexis) : Scan → List Char → Option (List Token)
  | state, [] => state.last?
  | state, c :: rest =>
    (state.step lexis c).bind fun read => (scan lexis read.2 rest).map (read.1 ++ ·)

/-- The tokens of a text. -/
def tokens? (lexis : Lexis) (text : String) : Option (List Token) := scan lexis .blank text.toList

theorem scan_cons {lexis : Lexis} {state next : Scan} {c : Char} {tokens : List Token}
    (h : state.step lexis c = some (tokens, next)) (rest : List Char) :
    scan lexis state (c :: rest) = (scan lexis next rest).map (tokens ++ ·) := by
  rw [scan, h]
  rfl

/-- The characters that end the token before them and start none that goes on. -/
def isBreak (c : Char) : Bool := [' ', '(', ')', '.', ','].contains c

/-- A break ends the token before it, and is then read as if it stood alone. -/
theorem Scan.step_break (lexis : Lexis) {state : Scan} {tokens : List Token}
    (h : state.last? = some tokens) {c : Char} (hc : isBreak c = true) :
    ∃ own, blank.step lexis c = some (own, .blank) ∧
      state.step lexis c = some (tokens ++ own, .blank) := by
  simp only [isBreak, List.contains_eq_mem, List.mem_cons, List.not_mem_nil, or_false,
    decide_eq_true_eq] at hc
  have hoperator : isOperatorChar lexis c = false := by
    rcases hc with rfl | rfl | rfl | rfl | rfl <;> cases lexis <;> rfl
  obtain ⟨own, hown⟩ : ∃ own, start lexis c = some (own, .blank) := by
    rw [start, hoperator]
    rcases hc with rfl | rfl | rfl | rfl | rfl <;> exact ⟨_, rfl⟩
  refine ⟨own, hown, ?_⟩
  cases state with
  | blank =>
    cases h
    exact hown
  | word letters =>
    cases h
    rw [step, startBehind, hown]
    rcases hc with rfl | rfl | rfl | rfl | rfl <;> rfl
  | operator symbols =>
    cases h
    rw [step, hoperator, startBehind, hown]
    rfl
  | quoted mark value quoting =>
    cases quoting with
    | behindMark =>
      cases h
      have hstep : Quoting.behindMark.step lexis mark.char c = none := by
        rcases hc with rfl | rfl | rfl | rfl | rfl <;> cases mark <;> rfl
      rw [step, hstep]
      change startBehind lexis _ c = _
      rw [startBehind, hown]
      rfl
    | inside => cases h
    | behindBackslash => cases h

/-- **A break separates tokens**: from there on the text is read on its own. -/
theorem scan_append_break {lexis : Lexis} {state : Scan} {xs : List Char} {tokens : List Token}
    (h : scan lexis state xs = some tokens) {c : Char} (hc : isBreak c = true) (ys : List Char) :
    scan lexis state (xs ++ c :: ys) = (scan lexis .blank (c :: ys)).map (tokens ++ ·) := by
  induction xs generalizing state tokens with
  | nil =>
    obtain ⟨own, hown, hstep⟩ := Scan.step_break lexis h hc
    rw [List.nil_append, scan_cons hstep, scan_cons hown, Option.map_map]
    congr 1
    funext behind
    exact List.append_assoc tokens own behind
  | cons d xs ih =>
    rw [scan] at h
    obtain ⟨⟨first, next⟩, hstep, h⟩ := Option.bind_eq_some_iff.mp h
    obtain ⟨others, hothers, rfl⟩ := Option.map_eq_some_iff.mp h
    rw [List.cons_append, scan_cons hstep, ih hothers, Option.map_map]
    congr 1
    funext behind
    exact (List.append_assoc first others behind).symm

/-- A blank is a break that is no token itself. -/
theorem scan_append_space {lexis : Lexis} {state : Scan} {xs : List Char} {tokens : List Token}
    (h : scan lexis state xs = some tokens) (ys : List Char) :
    scan lexis state (xs ++ ' ' :: ys) = (scan lexis .blank ys).map (tokens ++ ·) := by
  have hspace : scan lexis .blank (' ' :: ys) = (scan lexis .blank ys).map ([] ++ ·) :=
    scan_cons rfl ys
  rw [scan_append_break h rfl, hspace, Option.map_map]
  rfl

/-! ## Formulas -/

/-- A part of a comparison: a token, or a group in parentheses. -/
inductive Item where
  /-- a token -/
  | token (token : Token)
  /-- what stands in parentheses -/
  | group (alternatives : List (List (List Item)))

/-- The tokens and groups between two of the words `AND` and `OR`. -/
abbrev Run := List Item

/-- Alternatives, each with its requirements. -/
abbrev Formula := List (List Run)

/-- What a token does to the formula that it stands in. -/
inductive Role where
  /-- it separates two requirements -/
  | and
  /-- it separates two alternatives -/
  | or
  /-- it takes the next `AND` for itself -/
  | between
  /-- it opens a group -/
  | opening
  /-- it closes a group -/
  | closing
  /-- it belongs to a comparison -/
  | operand
  /-- it is not taken -/
  | refused
deriving DecidableEq

namespace Token

/-- Whether the token is a keyword, in letters of any case. -/
def isKeyword (keyword : String) : Token → Bool
  | word letters => letters.map Char.toUpper = keyword.toList
  | _ => false

/-- The word between requirements. -/
def and : Token := .word ['A', 'N', 'D']

/-- What the token does. -/
def role (token : Token) : Role :=
  if token.isKeyword "AND" then .and
  else if token.isKeyword "OR" then .or
  else if token.isKeyword "BETWEEN" then .between
  else if token.isKeyword "XOR" || token.isKeyword "CASE" then .refused
  else match token with
    | opening => .opening
    | closing => .closing
    | _ => .operand

end Token

/-! Formulas are read from their end. The next token to the left then belongs to the first
alternative of the innermost group that is open, or starts a new alternative or group there. -/

/-- Put an item in front of the first requirement. -/
def addItem (item : Item) : List Run → Option (List Run)
  | [] => none
  | run :: runs => some ((item :: run) :: runs)

/-- Put a token in front of the requirements of an alternative. -/
def addToken (token : Token) : Role → List Run → Option (List Run)
  | .and, runs => some ([] :: runs)
  | .between, run :: other :: runs =>
    some ((.token token :: run ++ .token .and :: other) :: runs)
  | .operand, runs => addItem (.token token) runs
  | _, _ => none

namespace Formula

/-- Change the first alternative. -/
def onFirst (change : List Run → Option (List Run)) : Formula → Option Formula
  | [] => none
  | runs :: alternatives => (change runs).map (· :: alternatives)

/-- Put a token in front of a formula. -/
def add (token : Token) : Role → Formula → Option Formula
  | .or, formula => if formula.isEmpty then none else some ([[]] :: formula)
  | role, formula => onFirst (addToken token role) formula

end Formula

/-- Read the next token to the left, with a formula for each open group, the innermost first. -/
def readToken (token : Token) : Role → List Formula → Option (List Formula)
  | _, [] => none
  | .closing, formula :: outer => some ([[[]]] :: formula :: outer)
  | .opening, [_] => none
  | .opening, formula :: around :: outer =>
    (Formula.onFirst (addItem (.group formula)) around).map (· :: outer)
  | role, formula :: outer => (Formula.add token role formula).map (· :: outer)

/-- Read tokens to the left of what has been read. -/
def readTokens (opened : List Formula) : List Token → Option (List Formula)
  | [] => some opened
  | token :: tokens => (readTokens opened tokens).bind (readToken token token.role)

/-- The formula of a list of tokens, in which no group is open at either end. -/
def formulaOf? (tokens : List Token) : Option Formula :=
  match readTokens [[[[]]]] tokens with
  | some [runs :: alternatives] => some (runs :: alternatives)
  | _ => none

/-- The formula of the text of a condition. -/
def formula? (lexis : Lexis) (text : String) : Option Formula :=
  (tokens? lexis text).bind formulaOf?

/-! ## Both sides of an `AND` -/

namespace Formula

/-- The alternatives of two formulas with an `AND` between their texts: the requirements of the
last alternative to the left and of the first one to the right become those of one alternative. -/
def splice : Formula → Formula → Formula
  | [], right => right
  | [runs], first :: others => (runs ++ first) :: others
  | runs :: alternatives, right => runs :: splice alternatives right

theorem splice_cons (runs next : List Run) (alternatives right : Formula) :
    splice (runs :: next :: alternatives) right = runs :: splice (next :: alternatives) right := by
  rw [splice]
  intro first others _ h
  cases h

theorem splice_ne_nil {left : Formula} (h : left ≠ []) (right : Formula) :
    left.splice right ≠ [] := by
  match left, right with
  | [runs], [] => exact List.cons_ne_nil _ _
  | [runs], first :: others => exact List.cons_ne_nil _ _
  | runs :: next :: alternatives, right =>
    rw [splice_cons]
    exact List.cons_ne_nil _ _

/-- A change of the first alternative that leaves alone what stands behind it. -/
theorem onFirst_splice {change : List Run → Option (List Run)} {formula formula' : Formula}
    (h : onFirst change formula = some formula') {first : List Run}
    (hchange : ∀ {runs runs' : List Run}, change runs = some runs' →
      change (runs ++ first) = some (runs' ++ first)) (others : Formula) :
    onFirst change (formula.splice (first :: others)) =
      some (formula'.splice (first :: others)) := by
  cases formula with
  | nil => cases h
  | cons runs alternatives =>
    obtain ⟨runs', hruns, rfl⟩ := Option.map_eq_some_iff.mp h
    cases alternatives with
    | nil =>
      rw [splice, onFirst, hchange hruns]
      rfl
    | cons next alternatives =>
      rw [splice_cons, splice_cons, onFirst, hruns]
      rfl

theorem addItem_append {item : Item} {runs runs' : List Run} (h : addItem item runs = some runs')
    (more : List Run) : addItem item (runs ++ more) = some (runs' ++ more) := by
  cases runs with
  | nil => cases h
  | cons run runs => cases h; rfl

theorem addToken_append {token : Token} {role : Role} {runs runs' : List Run}
    (h : addToken token role runs = some runs') (more : List Run) :
    addToken token role (runs ++ more) = some (runs' ++ more) := by
  cases role with
  | and => cases h; rfl
  | operand => exact addItem_append h more
  | between =>
    match runs, h with
    | run :: other :: runs, h => cases h; rfl
  | _ => cases h

theorem add_splice {token : Token} {role : Role} {formula formula' : Formula}
    (h : add token role formula = some formula') (first : List Run) (others : Formula) :
    add token role (formula.splice (first :: others)) =
      some (formula'.splice (first :: others)) := by
  have hfirst {role : Role} (h : onFirst (addToken token role) formula = some formula') :
      onFirst (addToken token role) (formula.splice (first :: others)) =
        some (formula'.splice (first :: others)) :=
    onFirst_splice h (fun hruns => addToken_append hruns first) others
  cases role with
  | or =>
    match formula, h with
    | [runs], h => cases h; rfl
    | runs :: next :: alternatives, h =>
      cases h
      rw [splice_cons, splice_cons, splice_cons]
      rfl
  | _ => exact hfirst h

/-- The formulas of the open groups, of which the outermost one goes on behind an `AND`. -/
def spliceLast (right : Formula) : List Formula → List Formula
  | [] => []
  | [formula] => [formula.splice right]
  | formula :: outer => formula :: spliceLast right outer

end Formula

open Formula

/-- **A token is read alike** whether or not an `AND` and more follows at the end. -/
theorem readToken_splice {token : Token} {role : Role} {opened opened' : List Formula}
    (h : readToken token role opened = some opened') (first : List Run) (others : Formula) :
    readToken token role (spliceLast (first :: others) opened) =
      some (spliceLast (first :: others) opened') := by
  cases role with
  | closing =>
    match opened, h with
    | [formula], h => cases h; rfl
    | formula :: around :: outer, h => cases h; rfl
  | opening =>
    match opened, h with
    | formula :: around :: outer, h =>
      obtain ⟨around', haround, rfl⟩ := Option.map_eq_some_iff.mp h
      cases outer with
      | nil =>
        have hgroup := onFirst_splice haround (fun hruns => addItem_append hruns first) others
        exact congrArg (Option.map (· :: [])) hgroup
      | cons next outer => exact congrArg (Option.map (· :: _)) haround
  | _ =>
    match opened, h with
    | [formula], h =>
      obtain ⟨formula', hadd, rfl⟩ := Option.map_eq_some_iff.mp h
      exact congrArg (Option.map (· :: [])) (add_splice hadd first others)
    | formula :: around :: outer, h =>
      obtain ⟨formula', hadd, rfl⟩ := Option.map_eq_some_iff.mp h
      exact congrArg (Option.map (· :: _)) hadd

theorem readTokens_splice {tokens : List Token} {opened opened' : List Formula}
    (h : readTokens opened tokens = some opened') (first : List Run) (others : Formula) :
    readTokens (spliceLast (first :: others) opened) tokens =
      some (spliceLast (first :: others) opened') := by
  induction tokens generalizing opened' with
  | nil => cases h; rfl
  | cons token tokens ih =>
    obtain ⟨between, hbetween, h⟩ := Option.bind_eq_some_iff.mp h
    rw [readTokens, ih hbetween]
    exact readToken_splice h first others

theorem readTokens_append (opened : List Formula) (left right : List Token) :
    readTokens opened (left ++ right) =
      (readTokens opened right).bind fun opened => readTokens opened left := by
  induction left with
  | nil =>
    rw [List.nil_append]
    cases readTokens opened right <;> rfl
  | cons token left ih =>
    rw [List.cons_append, readTokens, ih, Option.bind_assoc]
    rfl

theorem formulaOf?_eq_some {tokens : List Token} {formula : Formula} :
    formulaOf? tokens = some formula ↔
      formula ≠ [] ∧ readTokens [[[[]]]] tokens = some [formula] := by
  rw [formulaOf?]
  split
  · next runs alternatives hread =>
    rw [hread]
    constructor
    · intro h
      cases h
      exact ⟨List.cons_ne_nil _ _, rfl⟩
    · rintro ⟨-, h⟩
      cases h
      rfl
  · next hread =>
    refine ⟨fun h => (by cases h), fun ⟨hne, h⟩ => ?_⟩
    cases formula with
    | nil => exact absurd rfl hne
    | cons runs alternatives => exact absurd h (hread runs alternatives)

/-- **Tokens on both sides of an `AND`.** -/
theorem formulaOf?_and {left right : List Token} {f g : Formula} (hleft : formulaOf? left = some f)
    (hright : formulaOf? right = some g) :
    formulaOf? (left ++ Token.and :: right) = some (f.splice g) := by
  obtain ⟨hf, hleft⟩ := formulaOf?_eq_some.mp hleft
  obtain ⟨hg, hright⟩ := formulaOf?_eq_some.mp hright
  obtain ⟨first, others, rfl⟩ := List.exists_cons_of_ne_nil hg
  refine formulaOf?_eq_some.mpr ⟨splice_ne_nil hf _, ?_⟩
  have hand : readTokens [[[[]]]] (Token.and :: right) =
      some (spliceLast (first :: others) [[[[]]]]) := by
    rw [readTokens, hright]
    rfl
  rw [readTokens_append, hand]
  exact readTokens_splice hleft first others

/-- **Texts on both sides of an `AND`.** -/
theorem formula?_and {lexis : Lexis} {s t : String} {f g : Formula} (hs : formula? lexis s = some f)
    (ht : formula? lexis t = some g) :
    formula? lexis (s ++ " AND " ++ t) = some (f.splice g) := by
  obtain ⟨left, hleft, hf⟩ := Option.bind_eq_some_iff.mp hs
  obtain ⟨right, hright, hg⟩ := Option.bind_eq_some_iff.mp ht
  have hword : scan lexis .blank ['A', 'N', 'D'] = some [.and] := by cases lexis <;> rfl
  have htext : (s ++ " AND " ++ t).toList =
      s.toList ++ ' ' :: (['A', 'N', 'D'] ++ ' ' :: t.toList) := by simp
  have htokens : tokens? lexis (s ++ " AND " ++ t) = some (left ++ Token.and :: right) := by
    rw [tokens?, htext, scan_append_space hleft, scan_append_space hword]
    change ((tokens? lexis t).map _).map _ = _
    rw [hright]
    rfl
  rw [formula?, htokens]
  exact formulaOf?_and hf hg

/-! ## Values -/

/-- What a condition says of a row. -/
inductive Truth where
  /-- it is true -/
  | yes
  /-- it is false -/
  | no
  /-- it is neither, because of a null -/
  | unknown
deriving DecidableEq

namespace Truth

/-- Both conditions. -/
def and : Truth → Truth → Truth
  | yes, b => b
  | no, _ => no
  | unknown, no => no
  | unknown, _ => unknown

/-- One of two conditions. -/
def or : Truth → Truth → Truth
  | no, b => b
  | yes, _ => yes
  | unknown, yes => yes
  | unknown, _ => unknown

/-- The contrary. -/
def not : Truth → Truth
  | yes => no
  | no => yes
  | unknown => unknown

@[simp] theorem and_eq_yes {a b : Truth} : a.and b = yes ↔ a = yes ∧ b = yes := by
  cases a <;> cases b <;> decide

@[simp] theorem or_eq_yes {a b : Truth} : a.or b = yes ↔ a = yes ∨ b = yes := by
  cases a <;> cases b <;> decide

end Truth

mutual

/-- The value of alternatives, given what comparisons say of the row. -/
def Formula.value (truth : Run → Truth) : Formula → Truth
  | [] => .no
  | runs :: alternatives => (valueAll truth runs).or (Formula.value truth alternatives)

/-- The value of requirements. -/
def valueAll (truth : Run → Truth) : List Run → Truth
  | [] => .yes
  | run :: runs => (valueOne truth run).and (valueAll truth runs)

/-- The value of a run: `NOT` before it turns it round, and a group alone counts as what stands in
it. -/
def valueOne (truth : Run → Truth) : Run → Truth
  | [.group alternatives] => Formula.value truth alternatives
  | .token token :: run =>
    if token.isKeyword "NOT" then (valueOne truth run).not else truth (.token token :: run)
  | run => truth run

end

namespace Formula

/-- The condition is true of the row. -/
def Holds (truth : Run → Truth) (formula : Formula) : Prop := formula.value truth = .yes

theorem not_holds_nil (truth : Run → Truth) : ¬Holds truth [] := by
  rw [Holds, value]
  decide

theorem holds_cons {truth : Run → Truth} {runs : List Run} {alternatives : Formula} :
    Holds truth (runs :: alternatives) ↔
      valueAll truth runs = .yes ∨ Holds truth alternatives := by
  rw [Holds, value, Truth.or_eq_yes]
  rfl

theorem valueAll_append {truth : Run → Truth} {runs more : List Run} :
    valueAll truth (runs ++ more) = .yes ↔
      valueAll truth runs = .yes ∧ valueAll truth more = .yes := by
  induction runs with
  | nil => simp [valueAll]
  | cons run runs ih =>
    rw [List.cons_append, valueAll, valueAll, Truth.and_eq_yes, Truth.and_eq_yes, ih, and_assoc]

theorem holds_singleton {truth : Run → Truth} {runs : List Run} :
    Holds truth [runs] ↔ valueAll truth runs = .yes := by
  rw [holds_cons]
  exact or_iff_left (not_holds_nil truth)

/-- **Two true conditions with an `AND` between them are true**, whatever their alternatives. -/
theorem holds_splice {truth : Run → Truth} {left right : Formula} (hleft : left.Holds truth)
    (hright : right.Holds truth) : (left.splice right).Holds truth := by
  induction left with
  | nil => exact hright
  | cons runs alternatives ih =>
    match alternatives, right with
    | [], [] => exact absurd hright (not_holds_nil truth)
    | [], first :: others =>
      have hruns := holds_singleton.mp hleft
      rw [splice, holds_cons, valueAll_append]
      exact (holds_cons.mp hright).imp_left fun hfirst => ⟨hruns, hfirst⟩
    | next :: alternatives, right =>
      rw [splice_cons, holds_cons]
      exact (holds_cons.mp hleft).imp_right ih

end Formula

end RelationSql
