import RelationSql.Command.Grammar

/-!
# Matching a command line

The words of a command line are taken one by one. A word is the name of a subcommand, an option
with or without its value, the value that an option waits for, or an operand; after `--` all words
are operands. A value that is attached to its option is checked at once, and one in a word of its
own when the next option or operand of its level comes, or at the end. A request for help or for
the version is answered as soon as it is met.
-/

namespace RelationSql.Command

/-- Why a command line names nothing to do. -/
inductive Interruption where
  /-- help on the last of some nested commands is asked for -/
  | help (path : List Grammar)
  /-- the version is asked for -/
  | version
  /-- the words do not fit the grammar -/
  | misuse (reason : String)

/-- What has been read for one of the nested commands. -/
structure Level where
  /-- the command -/
  grammar : Grammar
  /-- the checked options, by long name -/
  values : List (String × String) := []
  /-- an option that waits for its value, or whose value waits for its check -/
  pending : Option (OptionRule × Option String) := none
  /-- the operands -/
  operands : List String := []
  /-- whether only operands follow -/
  operandsOnly : Bool := false

namespace Level

/-- The last value that was given for an option. -/
def value? (level : Level) (long : String) : Option String :=
  (level.values.filter fun entry => entry.1 = long).getLast?.map (·.2)

/-- All values that were given for an option. -/
def allValues (level : Level) (long : String) : List String :=
  (level.values.filter fun entry => entry.1 = long).map (·.2)

/-- Check the value of an option and keep it. -/
def keep (level : Level) (rule : OptionRule) (value : String) : Except Interruption Level :=
  if !rule.accepts value then
    .error (.misuse s!"invalid value '{value}' for '--{rule.long}'")
  else if !rule.repeatable && (level.value? rule.long).isSome then
    .error (.misuse s!"the argument '--{rule.long}' cannot be used multiple times")
  else .ok { level with values := level.values ++ [(rule.long, value)] }

/-- Check the value of the option that was read last. -/
def settle (level : Level) : Except Interruption Level :=
  match level.pending with
  | none => .ok level
  | some (rule, none) => .error (.misuse s!"a value is required for '--{rule.long}'")
  | some (rule, some value) => { level with pending := none }.keep rule value

/-- Whether an option waits for its value. -/
def isWaiting (level : Level) : Bool := level.pending.any fun entry => entry.2.isNone

/-- Take in an option, with its value if it is attached. -/
def addOption (level : Level) (rule : OptionRule) (value? : Option String) :
    Except Interruption Level := do
  let level ← level.settle
  match value? with
  | some value => level.keep rule value
  | none => return { level with pending := some (rule, none) }

/-- Take in a value for the option that waits for it. -/
def addValue (level : Level) (value : String) : Level :=
  { level with pending := level.pending.map fun entry => (entry.1, some value) }

/-- Take in an operand. -/
def addOperand (level : Level) (word : String) : Except Interruption Level := do
  let level ← level.settle
  match level.grammar.operand with
  | none => .error (.misuse s!"unexpected argument '{word}'")
  | some rule =>
    if !rule.many && !level.operands.isEmpty then
      .error (.misuse s!"unexpected argument '{word}'")
    else if !rule.accepts word then
      .error (.misuse s!"invalid value '{word}' for '{rule.name}'")
    else return { level with operands := level.operands ++ [word] }

/-- Check that nothing is missing at the end; `environment` gives the values of environment
variables, which are checked where they stand in for an option. -/
def finish (environment : String → Option String) (level : Level) : Except Interruption Level := do
  let level ← level.settle
  if level.grammar.options.any fun rule =>
      rule.required && (level.value? rule.long).isNone then
    .error (.misuse "required arguments were not provided")
  else if level.grammar.operand.any fun rule => !rule.many && level.operands.isEmpty then
    .error (.misuse "required arguments were not provided")
  else if level.grammar.options.any fun rule =>
      (level.value? rule.long).isNone &&
        ((rule.envName.bind environment).any fun value => !rule.accepts value) then
    .error (.misuse "invalid value in the environment")
  else return level

end Level

/-- What has been read of a command line. -/
inductive Progress where
  /-- commands nested in one another, the innermost first -/
  | reading (level : Level) (outer : List Level)
  /-- help on nested commands, the innermost last -/
  | helping (path : List Grammar)

/-- The nested commands of a level, the innermost last. -/
def pathTo (level : Level) (outer : List Level) : List Grammar :=
  ((level :: outer).map Level.grammar).reverse

/-- The name and the attached value of a word with two dashes. -/
def splitLong (word : List Char) : String × Option String :=
  let name := String.ofList (word.takeWhile (· != '='))
  match word.dropWhile (· != '=') with
  | [] => (name, none)
  | _ :: value => (name, some (String.ofList value))

/-- Take in a word with two dashes, without the dashes. -/
def readLong (level : Level) (outer : List Level) (word : List Char) :
    Except Interruption Progress := do
  let (name, value?) := splitLong word
  match level.grammar.options.find? fun rule => rule.long = name with
  | some rule => return .reading (← level.addOption rule value?) outer
  | none =>
    if value?.isSome then .error (.misuse s!"unexpected argument '--{name}'")
    else if name = "help" then do
      let level ← level.settle
      .error (.help (pathTo level outer))
    else if name = "version" && level.grammar.hasVersion then do
      let _ ← level.settle
      .error .version
    else .error (.misuse s!"unexpected argument '--{name}'")

/-- Take in a word with one dash, given its letter and what is attached to it. -/
def readShort (level : Level) (outer : List Level) (letter : Char) (attached : List Char) :
    Except Interruption Progress := do
  match level.grammar.options.find? fun rule => rule.short = letter with
  | some rule =>
    let value? := match attached with
      | [] => none
      | '=' :: value => some (String.ofList value)
      | value => some (String.ofList value)
    return .reading (← level.addOption rule value?) outer
  | none =>
    if letter = 'h' then do
      let level ← level.settle
      .error (.help (pathTo level outer))
    else if letter = 'V' && level.grammar.hasVersion then do
      let _ ← level.settle
      .error .version
    else .error (.misuse s!"unexpected argument '-{letter}'")

/-- The subcommand with a name, the one for help included. -/
def subcommand? (grammar : Grammar) (name : String) : Option Grammar :=
  grammar.allSubcommands.find? fun sub => sub.name = name

/-- Take in a word that may start with dashes. -/
def readDashed (level : Level) (outer : List Level) (word : String) :
    Except Interruption Progress :=
  match word.toList with
  | ['-', '-'] => .ok (.reading { level with operandsOnly := true } outer)
  | '-' :: '-' :: long => readLong level outer long
  | '-' :: letter :: attached => readShort level outer letter attached
  | _ =>
    if level.isWaiting then .ok (.reading (level.addValue word) outer)
    else (level.addOperand word).map fun level => .reading level outer

/-- Take in a word. -/
def readWord (progress : Progress) (word : String) : Except Interruption Progress :=
  match progress with
  | .helping path =>
    match path.getLast?.bind fun grammar => subcommand? grammar word with
    | some sub => .ok (.helping (path ++ [sub]))
    | none => .error (.misuse s!"unrecognized subcommand '{word}'")
  | .reading level outer =>
    if level.operandsOnly then
      (level.addOperand word).map fun level => .reading level outer
    else if level.isWaiting then readDashed level outer word
    else
      match subcommand? level.grammar word with
      | some sub =>
        if sub.name = helpGrammar.name then .ok (.helping (pathTo level outer))
        else .ok (.reading { grammar := sub } (level :: outer))
      | none => readDashed level outer word

/-- The nested commands of a command line, the innermost first. -/
def readWords (environment : String → Option String) (words : List String) :
    Except Interruption (List Level) := do
  match ← words.foldlM readWord (.reading { grammar := program } []) with
  | .helping path => .error (.help path)
  | .reading level outer =>
    if !level.grammar.subcommands.isEmpty then .error (.misuse "a subcommand is required")
    else (level :: outer).mapM (Level.finish environment)

end RelationSql.Command
