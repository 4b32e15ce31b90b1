import RelationSql.Error

/-!
# Trees of files

What a path leads to. A path is a row of names between slashes. It starts at the root if it starts
with a slash, and else in the folder that the reader is in. Every name is a step from a folder: to
an entry of that name, to the folder above for two points, and nowhere for one point or for no name
at all. A step from a file fails, so a path to a file has nothing behind the name of the file, not
even a slash.
-/

namespace RelationSql

/-- What can stand in a folder. -/
inductive FileEntry where
  /-- a file with its content -/
  | file (content : String)
  /-- a folder with its entries, by name -/
  | folder (entries : List (String × FileEntry))
deriving Inhabited

/-- A tree of folders and files, with the folder that a reader is in. -/
structure FileTree where
  /-- the entry that has everything below it -/
  root : FileEntry
  /-- the names that lead from the root to the folder that the reader is in -/
  here : List String := []

namespace FileTree

/-- The greatest number of bytes in a name. -/
def greatestName : Nat := 255

/-- The greatest number of bytes in a path. -/
def greatestPath : Nat := 4095

/-- One step of a path, from the entries that led to a place, the innermost first. -/
def step (trail : List FileEntry) (name : String) : Except FileFault (List FileEntry) :=
  match trail with
  | .folder entries :: outer =>
    if name = "" ∨ name = "." then .ok trail
    else if name = ".." then .ok (if outer.isEmpty then trail else outer)
    else if greatestName < name.utf8ByteSize then .error .nameTooLong
    else
      match entries.lookup name with
      | some entry => .ok (entry :: trail)
      | none => .error .missing
  | _ => .error .notFolder

/-- The entries that some steps lead through, the innermost first. -/
def walk (trail : List FileEntry) (names : List String) : Except FileFault (List FileEntry) :=
  names.foldlM step trail

/-- The content of the file at a path. -/
def read (tree : FileTree) (path : String) : Except FileFault String :=
  if path = "" then .error .missing
  else if greatestPath < path.utf8ByteSize then .error .nameTooLong
  else do
    let start ← if path.startsWith "/" then pure [tree.root] else walk [tree.root] tree.here
    match ← walk start (path.splitOn "/") with
    | .file content :: _ => .ok content
    | .folder _ :: _ => .error .isFolder
    | [] => .error .missing

/-- Steps can be taken in two parts. -/
theorem walk_append (trail : List FileEntry) (first second : List String) :
    walk trail (first ++ second) = walk trail first >>= fun reached => walk reached second := by
  simp [walk, List.foldlM_append]

end FileTree

end RelationSql
