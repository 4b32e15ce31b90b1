import RelationSql.Text.Printable

/-!
# Quoted text in diagnostics

A text shown between double quotes so that every character of it can be told: the quote and the
backslash are escaped, the usual controls have short names, and what has no visible form is given
by its code point.
-/

namespace RelationSql.Text

/-- A number in lower-case hexadecimal, without leading zeros. -/
def hexadecimal (n : Nat) : List Char := Nat.toDigits 16 n

/-- A character given by its code point. -/
def codePointEscape (c : Char) : List Char :=
  "\\u\x7b".toList ++ hexadecimal c.toNat ++ "\x7d".toList

/-- How one character appears in quoted text. A character that would extend the one before it is
shown by its code point, as it could not be told from a part of that one. -/
def quotedChar (c : Char) : List Char :=
  if c == '"' then ['\\', '"']
  else if c == '\\' then ['\\', '\\']
  else if c == '\t' then ['\\', 't']
  else if c == '\r' then ['\\', 'r']
  else if c == '\n' then ['\\', 'n']
  else if c.toNat == 0 then ['\\', '0']
  else if isExtending c || !isPrintable c then codePointEscape c
  else [c]

/-- The text between double quotes, with escapes. -/
def quoted (s : String) : String :=
  String.ofList ('"' :: s.toList.flatMap quotedChar ++ ['"'])

end RelationSql.Text
