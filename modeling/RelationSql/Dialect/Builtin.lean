import RelationSql.Dialect.Basic
import RelationSql.Error
import RelationSql.Text.Blank

/-!
# The built-in dialects

| Dialect | Quotes | No limit               | Pages                 |
|---------|--------|------------------------|-----------------------|
| pg      | double | `ALL`                  | `LATERAL`             |
| oracle  | double | `18446744073709551615` | `APPLY`               |
| mariadb | back   | `18446744073709551615` | `UNION` of subselects |
| mysql8  | back   | `18446744073709551615` | `UNION` of subselects |
| mysql   | back   | -                      | unsupported           |
| sqlite3 | double | -                      | unsupported           |
-/

namespace RelationSql

namespace Dialect

/-! ## Parts -/

/-- An identifier between double quotes. -/
def doubleQuoted (identifier : String) : String := s!"\"{identifier}\""

/-- An identifier between back quotes. -/
def backQuoted (identifier : String) : String := "`" ++ identifier ++ "`"

/-- The columns of a table, each with the alias of the table before it. -/
def qualified (quote : String → String) (table : String) (columns : List String) : List String :=
  columns.map fun column => s!"{quote table}.{quote column}"

/-- All keys in one call of `CONCAT`. -/
def concat (keys : List String) : String :=
  let arguments := ", ".intercalate keys
  s!"CONCAT({arguments})"

/-- Keys in nested calls of a `CONCAT` that takes two arguments. -/
def nestedConcat : List String → String
  | [] => ""
  | key :: keys => keys.foldl (fun joined next => s!"CONCAT({joined}, {next})") key

/-- An expression, or null if it is the empty text. -/
def nullIfEmpty (expression : String) : String := s!"NULLIF({expression}, '')"

/-- The literal of a value where a timestamp has a type of its own. -/
def typedLiteral : Scalar → String
  | .timestamp t => s!"TIMESTAMP '{t.plainText}'"
  | value => standardLiteral value

/-! ## Dialects -/

/-- PostgreSQL. -/
def pg : Dialect where
  name := "pg"
  quote := doubleQuoted
  compositeKey table columns := nullIfEmpty (concat (qualified doubleQuoted table columns))
  unlimited := "ALL"
  paging := .correlated .lateral

/-- Oracle, from version 12c. -/
def oracle : Dialect where
  name := "oracle"
  quote := doubleQuoted
  compositeKey table columns := nullIfEmpty (nestedConcat (qualified doubleQuoted table columns))
  literal := typedLiteral
  paging := .correlated .apply

/-- MySQL before version 8, which fetches no pages. -/
def mysql : Dialect where
  name := "mysql"
  quote := backQuoted
  compositeKey table columns := concat (qualified backQuoted table columns)

/-- MariaDB, from version 10.2. -/
def mariadb : Dialect := { mysql with name := "mariadb", paging := .union }

/-- MySQL from version 8, which is MariaDB under another name. -/
def mysql8 : Dialect := { mariadb with name := "mysql8" }

/-- SQLite 3, which fetches no pages. -/
def sqlite3 : Dialect where
  name := "sqlite3"
  quote := doubleQuoted
  compositeKey table columns := " || ".intercalate (qualified doubleQuoted table columns)

end Dialect

/-- The built-in dialects by name. -/
inductive DialectName where
  /-- PostgreSQL -/
  | pg
  /-- MySQL before version 8 -/
  | mysql
  /-- MySQL from version 8 -/
  | mysql8
  /-- MariaDB -/
  | mariadb
  /-- Oracle -/
  | oracle
  /-- SQLite 3 -/
  | sqlite3
deriving DecidableEq, Repr, Inhabited

namespace DialectName

/-- All built-in dialects, in the order in which they are listed to users. -/
def all : List DialectName := [pg, mysql, mysql8, mariadb, oracle, sqlite3]

/-- Every built-in dialect is listed. -/
theorem mem_all (n : DialectName) : n ∈ all := by cases n <;> decide

/-- The dialect with the name. -/
def dialect : DialectName → Dialect
  | pg => .pg
  | mysql => .mysql
  | mysql8 => .mysql8
  | mariadb => .mariadb
  | oracle => .oracle
  | sqlite3 => .sqlite3

/-- The name as a text. -/
def text (n : DialectName) : String := n.dialect.name

/-- The dialect whose name is the text. -/
def ofText? (text : String) : Option DialectName := all.find? fun n => n.text = text

/-- The dialect that a user names: the case of ASCII letters and white space around the name do not
matter. -/
def parse (text : String) : Except SettingsFault DialectName :=
  match ofText? (String.ofList ((Text.trimChars text.toList).map Char.toLower)) with
  | some n => .ok n
  | none => .error (.unknownDialect text)

end DialectName

end RelationSql
