import RelationSql.Text.Numeral

/-!
# Settings documents

The part of TOML that can hold settings. A document is a list of statements, each on lines of its
own: it opens a table, whose name stands before the keys that follow, or it puts a value at a path
of keys. A value is a text, a whole number, or something empty, a list or a table, at the end of
tables with one key each. Every other construct of the format would give a value that no setting
takes, so a document that has one is refused.
-/

namespace RelationSql.Settings

/-- What stands at the end of a path of keys. -/
inductive Value where
  /-- a text -/
  | text (value : String)
  /-- a whole number -/
  | whole (value : Int)
  /-- a list or a table with nothing in it -/
  | empty
deriving DecidableEq, Repr

/-- A statement of a document. -/
inductive Statement where
  /-- the table at a path is opened -/
  | table (path : List String)
  /-- a value is put at a path -/
  | entry (path : List String) (value : Value)
deriving DecidableEq, Repr

/-! ## Characters -/

/-- Whether a character separates the parts of a line. -/
def isSpace (c : Char) : Bool := c == ' ' || c == '\t'

/-- The characters after the blanks at the front. -/
def skipSpace (cs : List Char) : List Char := cs.dropWhile isSpace

/-- Whether a character may stand for itself in a text or a comment. -/
def isPlain (c : Char) : Bool := c == '\t' || (32 ≤ c.toNat && c.toNat != 127)

/-- Whether a character may stand in a key without quotes. -/
def isBareKey (c : Char) : Bool := c.isAlphanum || c == '_' || c == '-'

/-! ## Texts -/

/-- The character that a backslash and a letter stand for. -/
def shortEscape? : Char → Option Char
  | '"' => some '"'
  | '\\' => some '\\'
  | 'b' => some '\x08'
  | 'f' => some '\x0c'
  | 'n' => some '\n'
  | 'r' => some '\r'
  | 't' => some '\t'
  | _ => none

/-- The character with a code in hexadecimal. -/
def codedChar? (digits : List Char) : Option Char :=
  (Text.ofDigits? 16 Text.hexDigit? digits).bind fun n =>
    if n.isValidChar then some (Char.ofNat n) else none

/-- Put a character in front of what was read after it. -/
def consChar (c? : Option Char) (tail : Option (List Char × List Char)) :
    Option (List Char × List Char) :=
  match c?, tail with
  | some c, some p => some (c :: p.1, p.2)
  | _, _ => none

/-- The characters of a text with escapes, after its opening quote. -/
def readEscapedBody : List Char → Option (List Char × List Char)
  | [] => none
  | '"' :: rest => some ([], rest)
  | '\\' :: 'u' :: a :: b :: c :: d :: rest =>
    consChar (codedChar? [a, b, c, d]) (readEscapedBody rest)
  | '\\' :: 'U' :: a :: b :: c :: d :: e :: f :: g :: h :: rest =>
    consChar (codedChar? [a, b, c, d, e, f, g, h]) (readEscapedBody rest)
  | '\\' :: c :: rest => consChar (shortEscape? c) (readEscapedBody rest)
  | c :: rest => if isPlain c then consChar (some c) (readEscapedBody rest) else none

/-- The characters of a text without escapes, after its opening quote. -/
def readLiteralBody : List Char → Option (List Char × List Char)
  | [] => none
  | c :: rest =>
    if c == '\x27' then some ([], rest)
    else if isPlain c then consChar (some c) (readLiteralBody rest)
    else none

/-- A text in either kind of quotes. -/
def readQuoted : List Char → Option (String × List Char)
  | [] => none
  | c :: rest =>
    if c == '"' then (readEscapedBody rest).map fun p => (String.ofList p.1, p.2)
    else if c == '\x27' then (readLiteralBody rest).map fun p => (String.ofList p.1, p.2)
    else none

/-! ## Texts over several lines -/

/-- The characters after the line end at the front. A carriage return before a line feed belongs
to the line end. -/
def readLineEnd : List Char → Option (List Char)
  | '\n' :: rest => some rest
  | '\r' :: '\n' :: rest => some rest
  | _ => none

/-- The characters after one line end at the front, if there is one. -/
def dropLineEnd (cs : List Char) : List Char := (readLineEnd cs).getD cs

/-- Whether nothing but blanks stands between the front and the next line end. -/
def endsLine (cs : List Char) : Bool := (readLineEnd (skipSpace cs)).isSome

/-- The characters after all blanks and line ends at the front. -/
def dropLines : List Char → List Char
  | [] => []
  | '\r' :: '\n' :: rest => dropLines rest
  | c :: rest => if isSpace c || c == '\n' then dropLines rest else c :: rest

/-- The characters of a text over several lines, after its opening quotes: three of the given
character. Quotes inside it are not read. With `escapes`, a backslash introduces an escape, or takes
away the line end that it stands before and all blanks that follow. The first argument bounds the
number of characters. -/
def readLongBody (quote : Char) (escapes : Bool) : Nat → List Char → Option (List Char × List Char)
  | 0, _ => none
  | _ + 1, [] => none
  | fuel + 1, c :: rest =>
    if c == quote then
      match rest with
      | d :: e :: rest => if d == quote && e == quote then some ([], rest) else none
      | _ => none
    else if escapes && c == '\\' then
      if endsLine rest then readLongBody quote escapes fuel (dropLines rest)
      else
        match rest with
        | 'u' :: c :: d :: e :: f :: rest =>
          consChar (codedChar? [c, d, e, f]) (readLongBody quote escapes fuel rest)
        | 'U' :: c :: d :: e :: f :: g :: h :: i :: j :: rest =>
          consChar (codedChar? [c, d, e, f, g, h, i, j]) (readLongBody quote escapes fuel rest)
        | c :: rest => consChar (shortEscape? c) (readLongBody quote escapes fuel rest)
        | [] => none
    else if isPlain c then consChar (some c) (readLongBody quote escapes fuel rest)
    else
      match readLineEnd (c :: rest) with
      | some rest => consChar (some '\n') (readLongBody quote escapes fuel rest)
      | none => none

/-- A text in quotes that may go over several lines. A line end after the opening quotes is no part
of it. -/
def readLong : List Char → Option (String × List Char)
  | a :: b :: c :: rest =>
    if (a == '"' || a == '\x27') && b == a && c == a then
      (readLongBody a (a == '"') (rest.length + 1) (dropLineEnd rest)).map fun p =>
        (String.ofList p.1, p.2)
    else none
  | _ => none

/-! ## Numbers -/

/-- Digits with single underscores between them allowed, without the underscores. -/
def ungrouped? : List Char → Option (List Char)
  | [] => none
  | ['_'] => none
  | [c] => some [c]
  | c :: '_' :: rest => if c == '_' then none else (ungrouped? rest).map (c :: ·)
  | c :: rest => if c == '_' then none else (ungrouped? rest).map (c :: ·)

/-- A decimal number, which starts with a zero only if it has one digit. -/
def decimal? (cs : List Char) : Option Nat :=
  (ungrouped? cs).bind fun digits =>
    if digits.head? = some '0' ∧ digits.length ≠ 1 then none else Text.natural? digits

/-- The value of a digit below a base. -/
def digitBelow? (base : Nat) (c : Char) : Option Nat :=
  (Text.hexDigit? c).filter (· < base)

/-- A whole number that fits 64 bits with a sign. Signs go with decimal numbers only. -/
def whole? (cs : List Char) : Option Int :=
  let magnitude : Option Int := match cs with
    | '+' :: rest => (decimal? rest).map Int.ofNat
    | '-' :: rest => (decimal? rest).map fun n => -Int.ofNat n
    | '0' :: 'x' :: rest => (ungrouped? rest).bind fun digits =>
        (Text.ofDigits? 16 (digitBelow? 16) digits).map Int.ofNat
    | '0' :: 'o' :: rest => (ungrouped? rest).bind fun digits =>
        (Text.ofDigits? 8 (digitBelow? 8) digits).map Int.ofNat
    | '0' :: 'b' :: rest => (ungrouped? rest).bind fun digits =>
        (Text.ofDigits? 2 (digitBelow? 2) digits).map Int.ofNat
    | _ => (decimal? cs).map Int.ofNat
  magnitude.filter fun n => (Text.int64OfInt? n).isSome

/-! ## Keys and values -/

/-- A key. -/
def readKey (cs : List Char) : Option (String × List Char) :=
  let name := cs.takeWhile isBareKey
  if name.isEmpty then readQuoted cs
  else some (String.ofList name, cs.dropWhile isBareKey)

/-- A path of keys with points between them, of at most the given length. -/
def readPath : Nat → List Char → Option (List String × List Char)
  | 0, _ => none
  | length + 1, cs => do
    let (key, rest) ← readKey cs
    match skipSpace rest with
    | '.' :: rest =>
      let (keys, rest) ← readPath length (skipSpace rest)
      return (key :: keys, rest)
    | rest => return ([key], rest)

/-- The rest of a line, which may hold a comment. -/
def readEnd (cs : List Char) : Option (List Char) :=
  match skipSpace cs with
  | [] => some []
  | '#' :: comment =>
    match comment.dropWhile isPlain with
    | [] => some []
    | rest => readLineEnd rest
  | rest => readLineEnd rest

/-- The lines up to the bracket that closes an empty list, of which there are at most as many. -/
def readEmptyList : Nat → List Char → Option (List Char)
  | 0, _ => none
  | lines + 1, cs =>
    match skipSpace cs with
    | ']' :: rest => some rest
    | [] => none
    | rest => (readEnd rest).bind (readEmptyList lines)

/-- A text or a whole number. -/
def readSimple (cs : List Char) : Option (Value × List Char) :=
  match (readLong cs).orElse fun _ => readQuoted cs with
  | some (text, rest) => some (.text text, rest)
  | none =>
    let isPart c := c.isAlphanum || c == '+' || c == '-' || c == '_'
    (whole? (cs.takeWhile isPart)).map fun n => (.whole n, cs.dropWhile isPart)

/-- A value: the keys of the tables around it and what stands at their end. The first argument
bounds the number of tables. -/
def readValue : Nat → List Char → Option ((List String × Value) × List Char)
  | 0, _ => none
  | _ + 1, '[' :: rest =>
    (readEmptyList (rest.length + 1) rest).map fun rest => (([], .empty), rest)
  | tables + 1, '\x7b' :: rest =>
    match skipSpace rest with
    | '\x7d' :: rest => some (([], .empty), rest)
    | rest => do
      let (keys, rest) ← readPath rest.length rest
      match rest with
      | '=' :: rest =>
        let ((inner, value), rest) ← readValue tables (skipSpace rest)
        match skipSpace rest with
        | '\x7d' :: rest => return ((keys ++ inner, value), rest)
        | _ => none
      | _ => none
  | _ + 1, cs => (readSimple cs).map fun p => (([], p.1), p.2)

/-! ## Statements -/

/-- The path of a table and what follows, after its opening bracket. -/
def readHeader (cs : List Char) : Option (List String × List Char) := do
  let (path, rest) ← readPath cs.length (skipSpace cs)
  match rest with
  | ']' :: rest => return (path, ← readEnd rest)
  | _ => none

/-- The path and the value of an entry, and what follows. -/
def readEntry (cs : List Char) : Option ((List String × Value) × List Char) := do
  let (keys, rest) ← readPath cs.length cs
  match rest with
  | '=' :: rest =>
    let ((inner, value), rest) ← readValue rest.length (skipSpace rest)
    return ((keys ++ inner, value), ← readEnd rest)
  | _ => none

/-- The statements on at most the given number of lines, where `table` is the path of the table
that was opened last. -/
def readStatements : Nat → List String → List Char → Option (List Statement)
  | 0, _, _ => none
  | lines + 1, table, cs =>
    match skipSpace cs with
    | [] => some []
    | '[' :: rest => do
      let (path, rest) ← readHeader rest
      return .table path :: (← readStatements lines path rest)
    | rest =>
      match readEnd rest with
      | some rest => readStatements lines table rest
      | none => do
        let ((path, value), rest) ← readEntry rest
        return .entry (table ++ path) value :: (← readStatements lines table rest)

/-- The statements of a document. A byte order mark before it is skipped. -/
def readDocument (text : String) : Option (List Statement) :=
  let cs := text.toList
  let cs := if cs.head? = some '\ufeff' then cs.tail else cs
  readStatements (cs.length + 1) [] cs

end RelationSql.Settings
