import RelationSql.Dialect.Builtin
import RelationSql.Paging.Limit
import RelationSql.Planner.Basic
import RelationSql.Settings.Document

/-!
# Settings

What a planner is configured with. Settings are read from a file; all of them are optional. The
file is the one that is named explicitly, or else the one that the environment names, or else the
user's own. A named file has to exist.
-/

namespace RelationSql

/-- The configuration of a planner. -/
structure Settings where
  /-- the database -/
  dialect : DialectName := .pg
  /-- the page sizes that hold for every relation -/
  paging : PageSettings := {}
deriving DecidableEq, Repr

namespace Settings

/-- The planner that settings describe. -/
def planner (s : Settings) : Planner := ⟨s.dialect.dialect, s.paging⟩

/-- The key that a statement is about. -/
def Statement.key? : Statement → Option String
  | .table path | .entry path _ => path.head?

/-- The dialect in the statements about it, if there are any: a text, or the one key of a table
with nothing at it. -/
def dialectIn? : List Statement → Option DialectName
  | [] => some .pg
  | [.entry [_] (.text name)]
  | [.entry [_, name] .empty]
  | [.table [_, name]]
  | [.table [_], .entry [_, name] .empty]
  | [.table [_], .table [_, name]]
  | [.table [_, name], .table [_]] => DialectName.ofText? name
  | _ => none

/-- The number of rows in the statements about it, if there are any. -/
def countIn? : List Statement → Option (Option UInt64)
  | [] => some none
  | [.entry [_] (.whole n)] => (Text.uint64OfInt? n).map some
  | _ => none

/-- The settings that some statements make. There is no other key than those of the settings. -/
def ofStatements? (statements : List Statement) : Option Settings :=
  let about (key : String) := statements.filter fun s => s.key? = some key
  let keys := ["dialect", "max_page_size", "default_page_size"]
  if statements.all fun s => keys.any fun key => s.key? = some key then do
    let dialect ← dialectIn? (about "dialect")
    let maxPageSize ← countIn? (about "max_page_size")
    let defaultPageSize ← countIn? (about "default_page_size")
    return { dialect, paging := { maxPageSize, defaultPageSize } }
  else none

/-- Check that the default page size does not exceed the greatest one. -/
def checked (s : Settings) : Except SettingsFault Settings :=
  match s.paging.defaultPageSize, s.paging.maxPageSize with
  | some default, some max =>
    if max < default then .error (.defaultAboveMax default max) else .ok s
  | _, _ => .ok s

/-- The settings in a text. -/
def parse (text : String) : Except SettingsFault Settings :=
  match (readDocument text).bind ofStatements? with
  | none => .error (.unreadable "the settings cannot be read")
  | some settings => settings.checked

/-! ## Files -/

/-- The places that settings may come from, each with its content or why that cannot be read. -/
structure Files where
  /-- the file that was named explicitly -/
  explicit : Option (Except FileFault String) := none
  /-- the file that the environment names -/
  environment : Option (Except FileFault String) := none
  /-- the user's own file, if it exists -/
  user : Option (Except FileFault String) := none

/-- The settings in a file. -/
def ofFile : Except FileFault String → Except PlanError Settings
  | .ok content => (parse content).mapError .settings
  | .error fault => .error (.file fault)

/-- The settings from the first place that there is. -/
def load (files : Files) : Except PlanError Settings :=
  match files.explicit <|> files.environment <|> files.user with
  | some file => ofFile file
  | none => .ok {}

end Settings

end RelationSql
