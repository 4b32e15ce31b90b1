import RelationSql.Json.Real

/-!
# Compact JSON text

No blanks, fields in the order of the value. In a text only the quote, the backslash and the
characters below the blank are escaped, with a short name where JSON has one.
-/

namespace RelationSql.Json

/-- One character inside a JSON text. -/
def escapedChar (c : Char) : List Char :=
  if c == '"' then ['\\', '"']
  else if c == '\\' then ['\\', '\\']
  else if c.toNat == 8 then ['\\', 'b']
  else if c.toNat == 12 then ['\\', 'f']
  else if c == '\n' then ['\\', 'n']
  else if c == '\r' then ['\\', 'r']
  else if c == '\t' then ['\\', 't']
  else if c.toNat < 32 then
    ['\\', 'u', '0', '0', Nat.digitChar (c.toNat / 16), Nat.digitChar (c.toNat % 16)]
  else [c]

/-- A text between quotes. -/
def textChars (s : String) : List Char :=
  '"' :: s.toList.flatMap escapedChar ++ ['"']

mutual

/-- The characters of a value. -/
def toChars : Json → List Char
  | .null => ['n', 'u', 'l', 'l']
  | .bool true => ['t', 'r', 'u', 'e']
  | .bool false => ['f', 'a', 'l', 's', 'e']
  | .integer n => Text.signedNumeral n
  | .real x => x.toChars
  | .text s => textChars s
  | .array [] => ['[', ']']
  | .array (item :: rest) => '[' :: toChars item ++ itemChars rest ++ [']']
  | .object [] => ['\x7b', '\x7d']
  | .object ((name, value) :: rest) =>
    '\x7b' :: textChars name ++ ':' :: toChars value ++ fieldChars rest ++ ['\x7d']

/-- The characters of the items after the first, each behind a comma. -/
def itemChars : List Json → List Char
  | [] => []
  | item :: rest => ',' :: toChars item ++ itemChars rest

/-- The characters of the fields after the first, each behind a comma. -/
def fieldChars : List (String × Json) → List Char
  | [] => []
  | (name, value) :: rest => ',' :: textChars name ++ ':' :: toChars value ++ fieldChars rest

end

/-- The compact text of a value. -/
def compact (value : Json) : String := String.ofList value.toChars

end RelationSql.Json
