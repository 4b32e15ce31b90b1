import RelationSql.Scalar
import RelationSql.Technique
import RelationSql.Text.Doubled

/-!
# Dialects

What statements need to know about a database: how it quotes identifiers, writes values and joins
key columns into one expression, and what it offers for fetching pages. Only the last of these
decides the shape of a statement.
-/

namespace RelationSql

/-- How a subselect is restricted to a window of rows. -/
inductive WindowStyle where
  /-- with `LIMIT` and `OFFSET` -/
  | limit
  /-- with `OFFSET` and `FETCH` -/
  | fetch
deriving DecidableEq, Repr

/-- How a subselect is evaluated once for each row before it. -/
inductive Correlation where
  /-- as a join of a `LATERAL` subselect -/
  | lateral
  /-- with `APPLY` -/
  | apply
deriving DecidableEq, Repr

namespace Correlation

/-- The window style that goes with it. -/
def window : Correlation → WindowStyle
  | lateral => .limit
  | apply => .fetch

end Correlation

/-- What a dialect offers for fetching pages. -/
inductive PagingStyle where
  /-- nothing -/
  | unsupported
  /-- correlated subselects, which serve every technique -/
  | correlated (style : Correlation)
  /-- a union of one subselect for each parent key, which serves no joined page -/
  | union
deriving DecidableEq, Repr

namespace PagingStyle

/-- Whether pages of a technique can be fetched. -/
def supports : PagingStyle → Technique → Bool
  | unsupported, _ => false
  | correlated _, _ => true
  | union, .root | union, .batchedOneToMany | union, .batchedManyToMany => true
  | union, .joinedOneToMany | union, .joinedManyToMany => false

end PagingStyle

/-- The literal of a value; a timestamp is a text with milliseconds. -/
def standardLiteral : Scalar → String
  | .null => "NULL"
  | .integer n => Text.signedText n
  | .text s => Text.singleQuoted s
  | .timestamp t => Text.singleQuoted t.millisText

/-- A database, as far as statements depend on it. -/
structure Dialect where
  /-- the name used in messages -/
  name : String
  /-- an identifier between the delimiters of the dialect -/
  quote : String → String
  /-- one expression for the key columns of a table -/
  compositeKey : (table : String) → (columns : List String) → String
  /-- the literal of a value -/
  literal : Scalar → String := standardLiteral
  /-- the limit that lets every row through -/
  unlimited : String := "18446744073709551615"
  /-- what it offers for fetching pages -/
  paging : PagingStyle := .unsupported

namespace Dialect

/-- A column with the alias of its table before it. -/
def column (d : Dialect) (table column : String) : String := s!"{d.quote table}.{d.quote column}"

/-- Whether pages of a technique can be fetched. -/
def supports (d : Dialect) (technique : Technique) : Bool := d.paging.supports technique

end Dialect

end RelationSql
