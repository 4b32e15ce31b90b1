import RelationSql.Error
import RelationSql.Json.Printer
import RelationSql.Json.Reader
import RelationSql.Order
import RelationSql.Scalar
import RelationSql.Text.Base64
import RelationSql.Text.Blank

/-!
# Cursors

A cursor names a place in a list of rows and is handed out as an opaque text. A *keyset* cursor
holds the value of each sort column of a row; its text is Base64 over a JSON object with the
columns in sort order. An *offset* cursor holds the index of a row; its text is Base64 over the
index behind a fixed mark. White space around either text is ignored.
-/

namespace RelationSql

/-- The values of the sort columns of a row, in sort order. -/
structure Cursor where
  /-- column names with their values -/
  entries : List (String × Scalar)
deriving DecidableEq

namespace Cursor

/-- The JSON object of a cursor. -/
def toJson (cursor : Cursor) : Json :=
  .object (cursor.entries.map fun entry => (entry.1, entry.2.toJson))

/-- The opaque text of a cursor. -/
def encode (cursor : Cursor) : String := Text.Base64.encode cursor.toJson.compact

/-- The entries of a JSON object: every value a scalar, and no column named twice. -/
def entriesOf? : List (String × Json) → Option (List (String × Scalar))
  | [] => some []
  | (column, value) :: rest => do
    let scalar ← Scalar.ofJson? value
    let entries ← entriesOf? rest
    if (entries.lookup column).isSome then none else some ((column, scalar) :: entries)

/-- The cursor of a payload, which is the UTF-8 form of a JSON object. -/
def ofPayload? (payload : ByteArray) : Option Cursor := do
  let text ← String.fromUTF8? payload
  match ← Json.parse? text with
  | .object fields => (entriesOf? fields).map Cursor.mk
  | _ => none

/-- The cursor behind an opaque text. -/
def decode (text : String) : Except CursorFault Cursor :=
  match Text.Base64.decode? (Text.trim text) with
  | none => .error .notBase64
  | some payload =>
    match ofPayload? payload with
    | none => .error .malformed
    | some cursor => if cursor.entries = [] then .error .noValues else .ok cursor

/-- The value of a column. -/
def get? (cursor : Cursor) (column : String) : Option Scalar := cursor.entries.lookup column

/-- The values of some columns, in the order of the columns. -/
def valuesOf (cursor : Cursor) : List OrderColumn → Except CursorFault (List Scalar)
  | [] => .ok []
  | key :: rest =>
    match cursor.get? key.column with
    | none => .error (.missingColumn key.column)
    | some value => (cursor.valuesOf rest).map (value :: ·)

/-- The values of the columns of a sort key, which has to have as many columns as the cursor. -/
def valuesFor (cursor : Cursor) (sortKey : List OrderColumn) : Except CursorFault (List Scalar) :=
  if cursor.entries.length = sortKey.length then cursor.valuesOf sortKey
  else .error (.wrongCount cursor.entries.length sortKey.length)

end Cursor

/-! ## Offset cursors -/

namespace OffsetCursor

/-- What stands before the index in the payload. -/
def mark : String := "arrayconnection:"

/-- The opaque text for the row with an index. -/
def encode (offset : UInt64) : String := Text.Base64.encode (mark ++ Text.unsignedText offset)

/-- The index in a payload. -/
def ofPayload? (payload : List Char) : Option UInt64 :=
  if mark.toList.isPrefixOf payload then Text.unsigned? (payload.drop mark.toList.length) else none

/-- The index behind an opaque text. -/
def decode (text : String) : Except CursorFault UInt64 :=
  match Text.Base64.decode? (Text.trim text) with
  | none => .error .notBase64
  | some bytes =>
    match String.fromUTF8? bytes with
    | none => .error .offsetNotText
    | some payload =>
      match ofPayload? payload.toList with
      | none => .error (.notOffset payload)
      | some offset => .ok offset

end OffsetCursor

end RelationSql
