import RelationSql.Command.Grammar
import RelationSql.Text.Controls

/-!
# Help texts

What a command does, how it is called, and its subcommands, operands and options in columns. Titles
and names are emphasized by control sequences, which take no room in a column and are left out where
no terminal shows the text.
-/

namespace RelationSql.Command

/-- A text that stands out on a terminal. -/
def emphasized (text : String) : String := "\x1b[1m" ++ text ++ "\x1b[0m"

/-- The number of characters that are shown of a text. -/
def shownLength (text : String) : Nat := (Text.withoutControls text).length

/-- A text with blanks behind it up to a width. -/
def padded (width : Nat) (text : String) : String :=
  String.ofList (text.toList ++ List.replicate (width - shownLength text) ' ')

/-- A text whose lines after the first start with as many blanks. -/
def indented (width : Nat) (text : String) : String :=
  String.ofList (text.toList.flatMap fun c =>
    if c == '\n' then c :: List.replicate width ' ' else [c])

/-- Lines of two columns under a title. A line break in the second column leads back to it. -/
def section? (title : String) (entries : List (String × String)) : Option String :=
  if entries.isEmpty then none
  else
    let width := (entries.map fun entry => shownLength entry.1).foldl max 0
    some ("\n".intercalate (emphasized s!"{title}:" :: entries.map fun entry =>
      "  " ++ padded width entry.1 ++ "  " ++ indented (width + 4) entry.2))

/-- An option in a usage line. -/
def OptionRule.usage (rule : OptionRule) : String :=
  emphasized s!"--{rule.long}" ++ s!" <{rule.valueName}>"

/-- The operands in a usage line. -/
def OperandRule.usage (rule : OperandRule) : String :=
  if rule.many then s!"[{rule.name}]..." else s!"<{rule.name}>"

/-- What an option does, with the environment variable that stands in for it and its value. -/
def OptionRule.description (environment : String → Option String) (rule : OptionRule) : String :=
  match rule.envName with
  | none => rule.about
  | some name =>
    let value := (environment name).getD ""
    s!"{rule.about} [env: {name}={value}]"

/-- The options in the order of help texts. -/
def Grammar.sortedOptions (grammar : Grammar) : List OptionRule :=
  grammar.options.mergeSort fun a b =>
    a.rank < b.rank || (a.rank == b.rank && a.short.toNat ≤ b.short.toNat)

/-- The entries for subcommands. -/
def Grammar.commandEntries (grammar : Grammar) : List (String × String) :=
  grammar.allSubcommands.map fun sub => (emphasized sub.name, sub.about)

/-- The short and the long name of an option. -/
def optionNames (short : Char) (long : String) : String :=
  emphasized s!"-{short}" ++ ", " ++ emphasized s!"--{long}"

/-- The entries for options. -/
def Grammar.optionEntries (environment : String → Option String) (grammar : Grammar) :
    List (String × String) :=
  (grammar.sortedOptions.map fun rule =>
    (optionNames rule.short rule.long ++ s!" <{rule.valueName}>", rule.description environment))
    ++ (if grammar.hasHelp then [(optionNames 'h' "help", "Print help")] else [])
    ++ if grammar.hasVersion then [(optionNames 'V' "version", "Print version")] else []

/-- The usage line of the last of some nested commands. -/
def usageLine (path : List Grammar) (grammar : Grammar) : String :=
  " ".intercalate (
    [emphasized "Usage:"] ++ path.map (fun grammar => emphasized grammar.name)
    ++ (if grammar.options.all (·.required) then [] else ["[OPTIONS]"])
    ++ (grammar.options.filter (·.required)).map OptionRule.usage
    ++ grammar.operand.toList.map OperandRule.usage
    ++ if grammar.subcommands.isEmpty then [] else ["<COMMAND>"])

/-- The help text of the last of some nested commands. -/
def helpText (environment : String → Option String) (path : List Grammar) : String :=
  match path.getLast? with
  | none => ""
  | some grammar =>
    let operands := grammar.operand.toList.map fun rule => (rule.usage, rule.about)
    let closing := if grammar.closing.isEmpty then [] else [grammar.closing]
    "\n\n".intercalate (
      [grammar.about, usageLine path grammar]
      ++ (section? "Commands" grammar.commandEntries).toList
      ++ (section? "Arguments" operands).toList
      ++ (section? "Options" (grammar.optionEntries environment)).toList
      ++ closing) ++ "\n"

end RelationSql.Command
