import RelationSql.Error
import RelationSql.Hook
import RelationSql.Text.Numeral

/-!
# Connection arguments

The arguments that ask for a page: `first` and `after` for a page forward, `last` and `before` for
one backward. Each may be absent or null. A count may also be given as the text of one.
-/

namespace RelationSql

/-- The page that a request asks for. -/
structure PageArgs where
  /-- the number of rows from the start -/
  first : Option UInt64 := none
  /-- the number of rows from the end -/
  last : Option UInt64 := none
  /-- the cursor of the row before the page -/
  after : Option String := none
  /-- the cursor of the row behind the page -/
  before : Option String := none
deriving DecidableEq, Repr, Inhabited

/-- The count in an argument: a number, or a text with white space around it allowed. -/
def countOf? : Json → Option UInt64
  | .integer n => Text.uint64OfInt? n
  | .text s => Text.unsigned? (Text.trimChars s.toList)
  | _ => none

namespace Args

/-- The count with a name, if it is given. -/
def count (args : Args) (name : String) : Except ArgumentFault (Option UInt64) :=
  match args.get? name with
  | none | some .null => .ok none
  | some value =>
    match countOf? value with
    | some n => .ok (some n)
    | none => .error (.notCount name)

/-- The cursor with a name, if it is given. -/
def cursor (args : Args) (name : String) : Except ArgumentFault (Option String) :=
  match args.get? name with
  | none | some .null => .ok none
  | some (.text s) => .ok (some s)
  | some _ => .error (.notCursor name)

end Args

/-- The part of the arguments that matters in one direction. -/
structure PageRequest where
  /-- whether rows are counted from the end -/
  backward : Bool
  /-- the requested number of rows -/
  size : Option UInt64
  /-- the cursor to go on from -/
  cursor : Option String
deriving DecidableEq, Repr

namespace PageArgs

/-- The page that some arguments ask for; it cannot count from both ends. -/
def ofArgs (args : Args) : Except ArgumentFault PageArgs := do
  let first ← args.count "first"
  let last ← args.count "last"
  let after ← args.cursor "after"
  let before ← args.cursor "before"
  if first.isSome && last.isSome then .error .firstAndLast
  else return { first, last, after, before }

/-- What the arguments ask of a sort key: `last` makes the request a backward one, and the cursor
has to be on the side from which rows are counted. -/
def keysetRequest (args : PageArgs) : Except ArgumentFault PageRequest :=
  if args.last.isSome then
    if args.after.isSome then .error .afterWithLast
    else .ok { backward := true, size := args.last, cursor := args.before }
  else
    if args.before.isSome then .error .beforeWithFirst
    else .ok { backward := false, size := args.first, cursor := args.after }

end PageArgs

end RelationSql
