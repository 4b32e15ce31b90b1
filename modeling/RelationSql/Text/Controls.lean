/-!
# Text without control sequences

What a terminal would show of a text: control characters are left out, except those for layout, and
so are the sequences that an escape character starts. Such a sequence is a single letter, a letter
behind a row of parameters in brackets, or a longer string with a terminator of its own, some behind
parameters and a letter too. Parameters out of order open a string without its letter. A layout
character inside one of the short sequences interrupts it: text is shown from there to the next
control, and then the sequence goes on, unless a character beyond ASCII has ended it. A text without
controls stays as it is.
-/

namespace RelationSql.Text

/-- Where a scan for control sequences stands. -/
inductive ControlScan where
  /-- in ordinary text -/
  | plain
  /-- behind an escape character -/
  | escape
  /-- behind an escape character and marks before its letter -/
  | marks
  /-- among the parameters of a sequence -/
  | parameters
  /-- in a string that a bell ends -/
  | command
  /-- at the start of the parameters of a string -/
  | opening
  /-- among the parameters of a string -/
  | openingParameters
  /-- among the marks between the parameters of a string and its letter -/
  | openingMarks
  /-- in a string that a terminator or another control ends -/
  | string
deriving DecidableEq, Repr

/-- Whether a control character is one for layout. -/
def isLayout (c : Char) : Bool := c == '\t' || c == '\n' || c == '\r' || c.toNat == 12

/-- Whether a character of ordinary text is shown. -/
def isShown (c : Char) : Bool := isLayout c || (32 ≤ c.toNat && c.toNat != 127)

/-- Whether the bytes of a character hold the one that terminates a string. -/
def hasTerminator (c : Char) : Bool := (String.utf8EncodeChar c).contains 0x9c

/-- Whether a character is one of ASCII that is no control. -/
def isGraphic (c : Char) : Bool := 32 ≤ c.toNat && c.toNat < 127

/-- Where a scan stands behind a character of a sequence, which is a graphic one unless the sequence
is a string. -/
def ControlScan.next (scan : ControlScan) (c : Char) : ControlScan :=
  match scan with
  | .escape =>
    if c == '[' then .parameters
    else if c == ']' then .command
    else if c == 'P' then .opening
    else if c == 'X' || c == '^' || c == '_' then .string
    else if c.toNat < 48 then .marks
    else .plain
  | .marks => if c.toNat < 48 then .marks else .plain
  | .parameters => if c.toNat < 64 then .parameters else .plain
  | .opening =>
    if c.toNat < 48 then .openingMarks else if c.toNat < 64 then .openingParameters else .string
  | .openingParameters =>
    if c.toNat < 48 then .openingMarks else if c.toNat < 60 then .openingParameters else .string
  | .openingMarks => if c.toNat < 48 then .openingMarks else .string
  | .command => if c.toNat = 7 then .plain else .command
  | .string => if hasTerminator c then .plain else .string
  | .plain => .plain

/-- What is shown of the characters from a place in the scan on; `showing` says that text is being
shown, though a sequence may be interrupted. -/
def shownFrom (showing : Bool) (scan : ControlScan) : List Char → List Char
  | [] => []
  | c :: rest =>
    if showing && isShown c then
      c :: shownFrom true (if c.toNat < 128 then scan else .plain) rest
    else if c.toNat = 0x1b then shownFrom false .escape rest
    else if c.toNat = 0x18 ∨ c.toNat = 0x1a then shownFrom false .plain rest
    else
      match scan with
      | .plain =>
        if isShown c then c :: shownFrom true .plain rest else shownFrom false .plain rest
      | .command | .string => shownFrom false (scan.next c) rest
      | .opening | .openingParameters | .openingMarks =>
        shownFrom false (if isGraphic c then scan.next c else scan) rest
      | .escape | .marks | .parameters =>
        if isLayout c then c :: shownFrom true scan rest
        else shownFrom false (if isGraphic c then scan.next c else scan) rest

/-- The text without control sequences. -/
def withoutControls (s : String) : String := String.ofList (shownFrom true .plain s.toList)

/-- **Ordinary text is shown as it is.** -/
theorem shownFrom_eq_self {cs : List Char} (hshown : ∀ c ∈ cs, isShown c = true) :
    shownFrom true .plain cs = cs := by
  induction cs with
  | nil => rfl
  | cons c rest ih =>
    have hc := hshown c List.mem_cons_self
    have hrest := ih fun d hd => hshown d (List.mem_cons_of_mem c hd)
    simp only [shownFrom, hc, Bool.and_self, if_true, ite_self, hrest]

end RelationSql.Text
