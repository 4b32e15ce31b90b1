import RelationSql.Command.Help
import RelationSql.Command.Matching
import RelationSql.Plan.Reader
import RelationSql.Planner.Build
import RelationSql.Settings.Basic

/-!
# Running a command

What a command line does, given its surroundings: the environment and the files it may read. The
result is what is printed and the exit code: zero for success, one for a command that failed and two
for a command line that cannot be understood.
-/

namespace RelationSql.Command

/-- What a command can see. -/
structure Surroundings where
  /-- the value of an environment variable -/
  environment : String → Option String
  /-- the content of the file at a path -/
  file : String → Except FileFault String

/-- The content of a file that need not exist; what no path can lead to does not exist. -/
def Surroundings.present? (s : Surroundings) (path : String) : Option (Except FileFault String) :=
  match s.file path with
  | .error .missing | .error .notFolder | .error .nameTooLong => none
  | content => some content

/-- What a command leaves behind. -/
structure Output where
  /-- the exit code -/
  exit : Nat
  /-- what is printed -/
  stdout : String := ""
  /-- what is reported -/
  stderr : String := ""
deriving DecidableEq, Repr

/-- Something to do. -/
inductive Action where
  /-- print the statement of a plan -/
  | plan (path : String)
  /-- print the statement of a batched relation -/
  | batch (path label : String) (keys : List String)
  /-- encode a cursor -/
  | encode (pairs : List String)
  /-- decode a cursor -/
  | decode (cursor : String)
  /-- list the dialects -/
  | dialects
deriving DecidableEq, Repr

/-- Something to do, with the options that every command has. -/
structure Invocation where
  /-- the path of the settings file -/
  settings : Option String
  /-- the dialect -/
  dialect : Option DialectName
  /-- what to do -/
  action : Action
deriving DecidableEq, Repr

/-! ## From words to actions -/

/-- The parts of a text between commas. -/
def splitCommas : List Char → List (List Char)
  | [] => [[]]
  | ',' :: rest => [] :: splitCommas rest
  | c :: rest =>
    match splitCommas rest with
    | [] => [[c]]
    | part :: parts => (c :: part) :: parts

/-- The keys in the values of the option for them. -/
def keysOf (values : List String) : List String :=
  values.flatMap fun value => (splitCommas value.toList).map String.ofList

/-- The action of the innermost command. -/
def actionOf? (level : Level) : Option Action :=
  let operand := level.operands.headD ""
  match level.grammar.name with
  | "plan" => some (.plan operand)
  | "batch" =>
    some (.batch operand ((level.value? "node").getD "") (keysOf (level.allValues "keys")))
  | "encode" => some (.encode level.operands)
  | "decode" => some (.decode operand)
  | "dialects" => some .dialects
  | _ => none

/-- What nested commands, the innermost first, ask for. An option of every command counts where it
is given innermost. -/
def invocationOf? (environment : String → Option String) (levels : List Level) :
    Option Invocation := do
  let level ← levels.head?
  let action ← actionOf? level
  let settings := levels.findSome? fun level => level.value? "config"
  let name? := (levels.findSome? fun level => level.value? "dialect") <|>
    environment dialectVariable
  let dialect := name?.bind fun name => (DialectName.parse name).toOption
  return { settings, dialect, action }

/-- The path of the user's own settings file, below the folder for settings or the home folder. -/
def userSettingsPath? (environment : String → Option String) : Option String :=
  let settings := (environment "XDG_CONFIG_HOME").filter fun folder => folder.startsWith "/"
  let home := (environment "HOME").filter fun folder => folder != ""
  (settings <|> home.map fun folder => s!"{folder}/.config").map fun folder =>
    s!"{folder}/joinplan/config.toml"

/-- The files that running a command line may read. -/
def pathsOf (environment : String → Option String) (words : List String) : List String :=
  match readWords environment words with
  | .error _ => []
  | .ok levels =>
    match invocationOf? environment levels with
    | none => []
    | some i =>
      (i.settings <|> environment settingsVariable <|> userSettingsPath? environment).toList
      ++ match i.action with
        | .plan path | .batch path _ _ => [path]
        | _ => []

/-! ## Actions -/

/-- Lines of a text, each with a line end. -/
def lines (parts : List String) : String := String.join (parts.map (· ++ "\n"))

/-- The scalar that a word stands for: a number, a timestamp or else a text. -/
def scalarOf (word : String) : Scalar :=
  let word := Text.trim word
  match Text.signed? word.toList with
  | some n => .integer n
  | none =>
    match Timestamp.parseStrict? word with
    | some t => .timestamp t
    | none => .text word

/-- The planner of an invocation. -/
def plannerOf (s : Surroundings) (i : Invocation) : Except String Planner :=
  let files : Settings.Files := {
    explicit := i.settings.map s.file
    environment := (s.environment settingsVariable).map s.file
    user := (userSettingsPath? s.environment).bind s.present? }
  match Settings.load files with
  | .ok settings => .ok { settings with dialect := i.dialect.getD settings.dialect }.planner
  | .error (.file fault) => .error s!"{(PlanError.file fault).message}: {fault.message}"
  | .error e => .error e.message

/-- The plan in a file. -/
def planOf (s : Surroundings) (path : String) : Except String (Plan Unit) :=
  match s.file path with
  | .error fault => .error s!"cannot read {path}: {fault.message}"
  | .ok content => (Plan.parse content).mapError PlanError.message

/-- The text of a query. -/
def queryText (planner : Planner) (query : Query) : String :=
  lines ([s!"Generated SQL ({planner.dialect.name})", query.sql]
    ++ if query.deferred.isEmpty then [] else
      ["", "Deferred batches:"] ++ query.deferred.map fun d =>
        s!"  {d.label} under {d.parentLabel} ({d.childKeyColumn} = {d.parentKeyColumn})")

/-- The column and the scalar of a pair. -/
def pairOf (pair : String) : Except String (String × Scalar) :=
  match pair.toList.dropWhile (· != '=') with
  | [] => .error s!"expected column=value, got '{pair}'"
  | _ :: value =>
    let column := String.ofList (pair.toList.takeWhile (· != '='))
    .ok (Text.trim column, scalarOf (String.ofList value))

/-- The table of dialects and techniques. -/
def dialectTable : String :=
  let heading := padded 10 "Dialect" ++
    String.join (Technique.all.map fun t => " " ++ padded 22 t.name)
  let row (name : DialectName) : String := padded 10 name.text ++
    String.join (Technique.all.map fun t =>
      " " ++ padded 22 (if name.dialect.supports t then "✓" else "✗"))
  lines (["Pagination support", "", heading, String.ofList (List.replicate 125 '─')]
    ++ DialectName.all.map row)

/-- What an action prints, or why it fails. -/
def perform (s : Surroundings) (i : Invocation) : Except String String :=
  match i.action with
  | .plan path => do
    let planner ← plannerOf s i
    let plan ← planOf s path
    let query ← (planner.build () plan).outcome.mapError PlanError.message
    return queryText planner query
  | .batch path label keys => do
    let planner ← plannerOf s i
    let plan ← planOf s path
    let scope := KeyScope.ofList (keys.map scalarOf)
    let query ← (planner.buildBatch () plan label scope).outcome.mapError PlanError.message
    return queryText planner query
  | .encode pairs => do
    let entries ← pairs.mapM pairOf
    return lines [(Cursor.mk entries).encode]
  | .decode text => do
    let cursor ← (Cursor.decode text).mapError fun fault => (PlanError.invalidCursor fault).message
    return lines (cursor.entries.map fun entry => s!"  {entry.1} = {entry.2.display}")
  | .dialects => return dialectTable

/-- The output of a command line. -/
def run (s : Surroundings) (words : List String) : Output :=
  match readWords s.environment words with
  | .error (.help path) =>
    { exit := 0, stdout := Text.withoutControls (helpText s.environment path) }
  | .error .version => { exit := 0, stdout := lines [s!"{programName} {programVersion}"] }
  | .error (.misuse reason) => { exit := 2, stderr := lines [s!"error: {reason}"] }
  | .ok levels =>
    match invocationOf? s.environment levels with
    | none => { exit := 2, stderr := lines ["error: a subcommand is required"] }
    | some invocation =>
      match perform s invocation with
      | .ok text => { exit := 0, stdout := text }
      | .error reason => { exit := 1, stderr := lines [s!"Error: {reason}"] }

end RelationSql.Command
