import RelationSql.Command.Run

/-!
# The program

Reads what a command line may need and runs it.
-/

namespace RelationSql

/-- The number of a system error, which may be reported as a negative number of 32 bits. -/
def errorNumber (code : UInt32) : Nat :=
  if code.toNat < UInt32.size / 2 then code.toNat else UInt32.size - code.toNat

/-- Why a file could not be read, from what the system reports. -/
def faultOf (report : IO.Error) : FileFault :=
  match report with
  | .noFileOrDirectory .. => .missing
  | .inappropriateType _ code _ => if errorNumber code = 20 then .notFolder else .isFolder
  | .invalidArgument _ code details =>
    if errorNumber code = 36 then .nameTooLong else .other details
  | report => .other report.toString

/-- The content of a file. -/
def readFile (path : String) : IO (Except FileFault String) :=
  try
    return .ok (← IO.FS.readFile path)
  catch report =>
    return .error (faultOf report)

/-- The contents of some files, by path. -/
def readFiles : List String → IO (List (String × Except FileFault String))
  | [] => return []
  | path :: paths => do
    let content ← readFile path
    let others ← readFiles paths
    return (path, content) :: others

/-- The environment variables that matter, with their values. -/
def readEnvironment : List String → IO (List (String × String))
  | [] => return []
  | name :: names => do
    let value ← IO.getEnv name
    let others ← readEnvironment names
    return value.toList.map (name, ·) ++ others

/-- What a command line can see: its environment and the files it may read. -/
def surroundings (words : List String) : IO Command.Surroundings := do
  let known ← readEnvironment
    [Command.settingsVariable, Command.dialectVariable, "XDG_CONFIG_HOME", "HOME"]
  let environment (name : String) : Option String := known.lookup name
  let files ← readFiles (Command.pathsOf environment words)
  return {
    environment
    file := fun path => (files.lookup path).getD (.error .missing) }

end RelationSql

/-- Run the words of the command line. -/
def main (words : List String) : IO UInt32 := do
  let output := RelationSql.Command.run (← RelationSql.surroundings words) words
  IO.print output.stdout
  IO.eprint output.stderr
  return output.exit.toUInt32
