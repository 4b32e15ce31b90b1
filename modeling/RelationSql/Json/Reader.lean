import RelationSql.Json.Real

/-!
# Reading JSON text

A strict reader: one value with nothing but blanks around it, no comments, no trailing commas, no
raw control characters in texts, surrogate escapes only in pairs, numbers without leading zeros and
within the range of doubles, and at most `nestingLimit` containers inside one another.

The readers take the characters that remain and return a value with those that follow it. The
nesting of containers is bounded by the first argument of `readValue`; the loops over items and
fields are bounded by the number of characters, of which every round takes at least one.
-/

namespace RelationSql.Json

/-- How many containers may be nested in a text. -/
def nestingLimit : Nat := 127

/-- The characters after the blanks that JSON allows between tokens. -/
def skipSpace (cs : List Char) : List Char :=
  cs.dropWhile fun c => c == ' ' || c == '\t' || c == '\n' || c == '\r'

/-! ## Texts -/

/-- The code unit of four hexadecimal digits. -/
def codeUnit? (a b c d : Char) : Option Nat := do
  let w ← Text.hexDigit? a
  let x ← Text.hexDigit? b
  let y ← Text.hexDigit? c
  let z ← Text.hexDigit? d
  return ((w * 16 + x) * 16 + y) * 16 + z

/-- Whether a code unit is the first of a surrogate pair. -/
def isHighSurrogate (n : Nat) : Bool := 0xD800 ≤ n && n ≤ 0xDBFF

/-- Whether a code unit is the second of a surrogate pair. -/
def isLowSurrogate (n : Nat) : Bool := 0xDC00 ≤ n && n ≤ 0xDFFF

/-- The character of a surrogate pair. -/
def pairChar (high low : Nat) : Char :=
  Char.ofNat (0x10000 + (high - 0xD800) * 0x400 + (low - 0xDC00))

/-- The character that a backslash and a letter stand for. -/
def shortEscape? : Char → Option Char
  | '"' => some '"'
  | '\\' => some '\\'
  | '/' => some '/'
  | 'b' => some '\x08'
  | 'f' => some '\x0c'
  | 'n' => some '\n'
  | 'r' => some '\r'
  | 't' => some '\t'
  | _ => none

/-- Put a character in front of what was read after it. -/
def consChar (c : Char) (tail : Option (List Char × List Char)) : Option (List Char × List Char) :=
  tail.map fun p => (c :: p.1, p.2)

/-- The characters of a text, after its opening quote. -/
def readTextBody : List Char → Option (List Char × List Char)
  | [] => none
  | '"' :: rest => some ([], rest)
  | '\\' :: 'u' :: a :: b :: c :: d :: rest =>
    match codeUnit? a b c d with
    | none => none
    | some high =>
      if isHighSurrogate high then
        match rest with
        | '\\' :: 'u' :: e :: f :: g :: h :: tail =>
          match codeUnit? e f g h with
          | none => none
          | some low =>
            if isLowSurrogate low then consChar (pairChar high low) (readTextBody tail) else none
        | _ => none
      else if isLowSurrogate high then none
      else consChar (Char.ofNat high) (readTextBody rest)
  | '\\' :: c :: rest =>
    match shortEscape? c with
    | none => none
    | some e => consChar e (readTextBody rest)
  | c :: rest => if c.toNat < 32 then none else consChar c (readTextBody rest)

/-- A text, after its opening quote. -/
def readText (cs : List Char) : Option (String × List Char) :=
  (readTextBody cs).map fun p => (String.ofList p.1, p.2)

/-! ## Numbers -/

/-- The digits at the front and what follows them. -/
def spanDigits (cs : List Char) : List Char × List Char := cs.span Char.isDigit

/-- The whole part of a number: a zero alone, or digits that start with none. -/
def readWhole : List Char → Option (List Char × List Char)
  | '0' :: rest => some (['0'], rest)
  | cs =>
    let (digits, rest) := spanDigits cs
    if digits = [] then none else some (digits, rest)

/-- The digits after a point, if there is one. -/
def readFraction : List Char → Option (List Char × List Char)
  | '.' :: cs =>
    let (digits, rest) := spanDigits cs
    if digits = [] then none else some (digits, rest)
  | cs => some ([], cs)

/-- The power of ten after an `e`, if there is one. -/
def readExponent (cs : List Char) : Option (Option Int × List Char) :=
  match cs with
  | [] => some (none, [])
  | c :: tail =>
    if c == 'e' || c == 'E' then
      let (sign, body) : Int × List Char := match tail with
        | '+' :: rest => (1, rest)
        | '-' :: rest => (-1, rest)
        | _ => (1, tail)
      let (digits, rest) := spanDigits body
      if digits = [] then none else some (some (sign * Nat.ofDigitChars 10 digits 0), rest)
    else some (none, cs)

/-- A whole number continued by decimal digits as long as 64 bits suffice, and the digits that are
left over. -/
def continueWhole (m : Nat) : List Char → Nat × List Char
  | [] => (m, [])
  | c :: rest =>
    let next := 10 * m + (c.toNat - 48)
    if next < UInt64.size then continueWhole next rest else (m, c :: rest)

/-- A number as a double. Only the first digits count, as many as fit 64 bits; those left over
before the point count as zeros. -/
def realValue (negative : Bool) (whole fraction : List Char) (exponent : Int) : Option Json :=
  let (m, wholeRest) := continueWhole 0 whole
  let (m, fractionRest) := continueWhole m fraction
  let e := exponent + wholeRest.length - (fraction.length - fractionRest.length)
  (Binary64.ofDecimal? negative m e).map Json.real

/-- The value of a number from its parts. Without fraction and exponent it is an integer where 64
bits suffice; minus zero is not one. -/
def numberValue (negative : Bool) (whole fraction : List Char) (exponent : Option Int) :
    Option Json :=
  let m := Nat.ofDigitChars 10 whole 0
  let asReal := realValue negative whole fraction (exponent.getD 0)
  if fraction = [] ∧ exponent = none then
    if negative then
      if m = 0 ∨ -(m : Int) < Int64.minValue.toInt then asReal else some (.integer (-m))
    else if m < UInt64.size then some (.integer m) else asReal
  else asReal

/-- A number. -/
def readNumber (cs : List Char) : Option (Json × List Char) := do
  let (negative, body) := match cs with
    | '-' :: rest => (true, rest)
    | _ => (false, cs)
  let (whole, rest) ← readWhole body
  let (fraction, rest) ← readFraction rest
  let (exponent, rest) ← readExponent rest
  let value ← numberValue negative whole fraction exponent
  return (value, rest)

/-! ## Containers -/

/-- The items of a list up to its closing bracket, at least one; `read` reads an item. -/
def readItems (read : List Char → Option (Json × List Char)) :
    Nat → List Char → Option (List Json × List Char)
  | 0, _ => none
  | rounds + 1, cs => do
    let (item, rest) ← read (skipSpace cs)
    match skipSpace rest with
    | ',' :: rest =>
      let (items, rest) ← readItems read rounds rest
      return (item :: items, rest)
    | ']' :: rest => return ([item], rest)
    | _ => none

/-- The fields of an object up to its closing brace, at least one; `read` reads a value. -/
def readFields (read : List Char → Option (Json × List Char)) :
    Nat → List Char → Option (List (String × Json) × List Char)
  | 0, _ => none
  | rounds + 1, cs =>
    match skipSpace cs with
    | '"' :: body => do
      let (name, rest) ← readText body
      match skipSpace rest with
      | ':' :: rest =>
        let (value, rest) ← read (skipSpace rest)
        match skipSpace rest with
        | ',' :: rest =>
          let (fields, rest) ← readFields read rounds rest
          return ((name, value) :: fields, rest)
        | '\x7d' :: rest => return ([(name, value)], rest)
        | _ => none
      | _ => none
    | _ => none

/-- A value that starts at the first character, with at most the given number of containers inside
one another. -/
def readValue : Nat → List Char → Option (Json × List Char)
  | _, 'n' :: 'u' :: 'l' :: 'l' :: rest => some (.null, rest)
  | _, 't' :: 'r' :: 'u' :: 'e' :: rest => some (.bool true, rest)
  | _, 'f' :: 'a' :: 'l' :: 's' :: 'e' :: rest => some (.bool false, rest)
  | _, '"' :: rest => (readText rest).map fun p => (.text p.1, p.2)
  | 0, '[' :: _ => none
  | 0, '\x7b' :: _ => none
  | nesting + 1, '[' :: rest =>
    match skipSpace rest with
    | ']' :: rest => some (.array [], rest)
    | _ => (readItems (readValue nesting) rest.length rest).map fun p => (.array p.1, p.2)
  | nesting + 1, '\x7b' :: rest =>
    match skipSpace rest with
    | '\x7d' :: rest => some (.object [], rest)
    | _ => (readFields (readValue nesting) rest.length rest).map fun p => (.object p.1, p.2)
  | _, cs => readNumber cs

/-- What a reader makes of a whole text: one value with nothing but blanks around it. -/
def readWholeText (read : List Char → Option (Json × List Char)) (s : String) : Option Json :=
  match read (skipSpace s.toList) with
  | some (value, rest) => if skipSpace rest = [] then some value else none
  | none => none

/-- The value of a whole text. -/
def parse? (s : String) : Option Json := readWholeText (readValue nestingLimit) s

end RelationSql.Json
