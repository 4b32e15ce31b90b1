import RelationSql.Dialect.Builtin

/-!
# The grammar of the command line

A command has options, each with a short and a long name and a value, and either operands or
subcommands. Two options may be given at every level. Every command can be asked for help, and one
with subcommands also has a subcommand for that.
-/

namespace RelationSql.Command

/-- An option with a value. -/
structure OptionRule where
  /-- the letter behind one dash -/
  short : Char
  /-- the word behind two dashes -/
  long : String
  /-- what the value is called in help texts -/
  valueName : String
  /-- what the option does -/
  about : String
  /-- its place in help texts; options with the same place are sorted by letter -/
  rank : Nat
  /-- whether a value can be used -/
  accepts : String → Bool := fun _ => true
  /-- whether it may be given several times -/
  repeatable : Bool := false
  /-- whether it has to be given -/
  required : Bool := false
  /-- the environment variable that stands in for it -/
  envName : Option String := none

/-- The operands of a command. -/
structure OperandRule where
  /-- what an operand is called in help texts -/
  name : String
  /-- what it is for -/
  about : String := ""
  /-- whether an operand can be used -/
  accepts : String → Bool := fun _ => true
  /-- whether there may be any number of them, and not exactly one -/
  many : Bool := false

/-- A command. -/
structure Grammar where
  /-- its name -/
  name : String
  /-- what it does -/
  about : String
  /-- its options -/
  options : List OptionRule
  /-- its operands, if it has no subcommands -/
  operand : Option OperandRule := none
  /-- its subcommands -/
  subcommands : List Grammar := []
  /-- whether it can be asked for help by an option -/
  hasHelp : Bool := true
  /-- whether it can be asked for its version -/
  hasVersion : Bool := false
  /-- the end of its help text -/
  closing : String := ""

/-- The command that prints the help text of the commands that its operands name. -/
def helpGrammar : Grammar where
  name := "help"
  about := "Print this message or the help of the given subcommand(s)"
  options := []
  operand := some { name := "COMMAND", about := "Print help for the subcommand(s)", many := true }
  hasHelp := false

/-- The subcommands, with the one for help if there are any. -/
def Grammar.allSubcommands (grammar : Grammar) : List Grammar :=
  if grammar.subcommands.isEmpty then [] else grammar.subcommands ++ [helpGrammar]

/-! ## The program -/

/-- The name of the program. -/
def programName : String := "joinplan"

/-- The version of the program. -/
def programVersion : String := "0.3.0"

/-- The environment variable that names a settings file. -/
def settingsVariable : String := "JOINPLAN_CONFIG"

/-- The environment variable that names a dialect. -/
def dialectVariable : String := "JOINPLAN_DIALECT"

/-- Whether a text can name a file. -/
def isPath (text : String) : Bool := text != ""

/-- Whether a text names a dialect. -/
def isDialect (text : String) : Bool := (DialectName.parse text).isOk

/-- The options of every command. -/
def sharedOptions : List OptionRule := [
  { short := 'c', long := "config", valueName := "CONFIG", rank := 0, accepts := isPath
    about := "Config file (default: $JOINPLAN_CONFIG or the user config directory)" },
  { short := 'd', long := "dialect", valueName := "DIALECT", rank := 1, accepts := isDialect
    about := "Dialect, overriding the config file", envName := some dialectVariable }]

/-- The command that prints the statement of a plan. -/
def planGrammar : Grammar where
  name := "plan"
  about := "Print the root statement of a JSON plan file"
  options := sharedOptions
  operand := some { name := "FILE", accepts := isPath }

/-- The command that prints the statement of a batched relation. -/
def batchGrammar : Grammar where
  name := "batch"
  about := "Print the batched statement of one relation"
  options := [
    { short := 'n', long := "node", valueName := "NODE", rank := 0, required := true
      about := "Alias of the batched relation" },
    { short := 'k', long := "keys", valueName := "KEYS", rank := 1, required := true
      repeatable := true, about := "Parent key values" }] ++ sharedOptions
  operand := some { name := "FILE", accepts := isPath }

/-- The command that encodes a cursor. -/
def encodeGrammar : Grammar where
  name := "encode"
  about := "Encode column=value pairs, in sort-key order"
  options := sharedOptions
  operand := some { name := "PAIRS", many := true }

/-- The command that decodes a cursor. -/
def decodeGrammar : Grammar where
  name := "decode"
  about := "Decode a cursor"
  options := sharedOptions
  operand := some { name := "CURSOR" }

/-- The command about cursors. -/
def cursorGrammar : Grammar where
  name := "cursor"
  about := "Encode or decode keyset cursors"
  options := sharedOptions
  subcommands := [encodeGrammar, decodeGrammar]

/-- The command that lists the dialects. -/
def dialectsGrammar : Grammar where
  name := "dialects"
  about := "Show which pagination techniques each dialect renders"
  options := sharedOptions

/-- The whole program. -/
def program : Grammar where
  name := programName
  about := "Paginated, batched SQL from relation trees"
  options := sharedOptions
  subcommands := [planGrammar, batchGrammar, cursorGrammar, dialectsGrammar]
  hasVersion := true
  closing := "EXAMPLES:
    joinplan plan users.json
    joinplan plan users.json --dialect mariadb
    joinplan batch users.json --node posts --keys 1,2,3
    joinplan cursor encode id=2"

end RelationSql.Command
