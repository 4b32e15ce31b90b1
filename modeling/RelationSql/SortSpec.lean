import RelationSql.Error
import RelationSql.Order
import RelationSql.Text.Alphanumeric
import RelationSql.Text.Blank

/-!
# Sort specs

The short form of an ordering: `created_at DESC, id`. A spec is a list of columns with commas
between them. A column is a run of letters, digits, `_` and `$`, and may be followed by blanks and
one of the words `asc` and `desc` in any case. Around the whole text any white space is dropped;
between its parts only blanks, tabs and line ends count.

The readers return what they found and the characters after it, and take as much as they can: a
comma that no column follows is left unread.
-/

namespace RelationSql.SortSpec

/-- Whether a character may stand in a column name. -/
def isNameChar (c : Char) : Bool := Text.isAlphanumeric c || c == '_' || c == '$'

/-- Whether a character may separate the parts of a spec. -/
def isSpace (c : Char) : Bool := c == ' ' || c == '\t' || c == '\r' || c == '\n'

/-- The word for a direction at the front, whatever its case, and what follows it. The word may
run into the text after it. -/
def readDirection (cs : List Char) : Option (Direction × List Char) :=
  if (cs.take 4).map Char.toLower = ['d', 'e', 's', 'c'] then some (.desc, cs.drop 4)
  else if (cs.take 3).map Char.toLower = ['a', 's', 'c'] then some (.asc, cs.drop 3)
  else none

/-- The direction after at least one blank; without it the column ascends and nothing is read. -/
def readDirectionPart (cs : List Char) : Direction × List Char :=
  let rest := cs.dropWhile isSpace
  if (cs.takeWhile isSpace).isEmpty then (.asc, cs)
  else (readDirection rest).getD (.asc, cs)

/-- A column with its direction. -/
def readColumn (cs : List Char) : Option (OrderColumn × List Char) :=
  let name := cs.takeWhile isNameChar
  if name = [] then none
  else
    let (direction, rest) := readDirectionPart (cs.dropWhile isNameChar)
    some (⟨String.ofList name, direction⟩, rest)

/-- A comma with blanks around it. -/
def readComma (cs : List Char) : Option (List Char) :=
  match cs.dropWhile isSpace with
  | ',' :: rest => some (rest.dropWhile isSpace)
  | _ => none

/-- The columns after the first, each behind a comma, as many as there are; the count of rounds is
the number of characters at least. -/
def readMore : Nat → List Char → List OrderColumn × List Char
  | 0, cs => ([], cs)
  | rounds + 1, cs =>
    match (readComma cs).bind readColumn with
    | some (column, rest) =>
      let (columns, rest) := readMore rounds rest
      (column :: columns, rest)
    | none => ([], cs)

/-- The columns of a text without white space at its ends. -/
def readAll (cs : List Char) : Except SortSpecFault (List OrderColumn) :=
  match readColumn cs with
  | none => .error (.noColumn (String.ofList cs))
  | some (column, rest) =>
    match readMore rest.length rest with
    | (columns, []) => .ok (column :: columns)
    | (_, left) => .error (.leftOver (String.ofList left))

/-- The columns of a sort spec. -/
def parse (spec : String) : Except PlanError (List OrderColumn) :=
  match readAll (Text.trimChars spec.toList) with
  | .ok columns => .ok columns
  | .error fault => .error (.invalidPlan (.badSortSpec spec fault))

end RelationSql.SortSpec
