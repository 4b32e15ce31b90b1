import RelationSql.Json.Reader

/-!
# Reading parts of JSON text

A reader that knows which fields it wants passes over all others. What is passed over has to be
JSON in its form only: its numbers may have any size, its texts any surrogate escapes, and its
containers may be nested to any depth, because nothing is made of them. What is wanted is read as
strictly as a whole text, and counts as nested in the containers around it.

Passing over a value is one loop with the list of the containers that are still open, so its depth
costs nothing.
-/

namespace RelationSql.Json

/-! ## Passing over -/

/-- A kind of container. -/
inductive Container where
  /-- a list between brackets -/
  | array
  /-- fields between braces -/
  | object
deriving DecidableEq, Repr

/-- What follows a text, after its opening quote. -/
def passText : List Char → Option (List Char)
  | [] => none
  | '"' :: rest => some rest
  | '\\' :: 'u' :: a :: b :: c :: d :: rest =>
    if (codeUnit? a b c d).isSome then passText rest else none
  | '\\' :: c :: rest => if (shortEscape? c).isSome then passText rest else none
  | c :: rest => if c.toNat < 32 then none else passText rest

/-- What follows a number. -/
def passNumber (cs : List Char) : Option (List Char) := do
  let body := match cs with
    | '-' :: rest => rest
    | _ => cs
  let (_, rest) ← readWhole body
  let (_, rest) ← readFraction rest
  let (_, rest) ← readExponent rest
  return rest

/-- What follows the name of a field and its colon. -/
def passName (cs : List Char) : Option (List Char) :=
  match skipSpace cs with
  | '"' :: body => do
    match skipSpace (← passText body) with
    | ':' :: rest => return rest
    | _ => none
  | _ => none

/-- Where the reader stands while it passes over a value. -/
inductive Passage where
  /-- before a value -/
  | before
  /-- behind a value -/
  | behind
deriving DecidableEq, Repr

/-- What follows a value and the containers that are still open, the innermost first. Every round
takes at least one character or ends, so the first argument bounds the rounds. -/
def passOver : Nat → Passage → List Container → List Char → Option (List Char)
  | 0, _, _, _ => none
  | _ + 1, .behind, [], cs => some cs
  | rounds + 1, .behind, .array :: outer, cs =>
    match skipSpace cs with
    | ',' :: rest => passOver rounds .before (.array :: outer) rest
    | ']' :: rest => passOver rounds .behind outer rest
    | _ => none
  | rounds + 1, .behind, .object :: outer, cs =>
    match skipSpace cs with
    | ',' :: rest => (passName rest).bind fun rest =>
        passOver rounds .before (.object :: outer) rest
    | '\x7d' :: rest => passOver rounds .behind outer rest
    | _ => none
  | rounds + 1, .before, opened, cs =>
    match skipSpace cs with
    | 'n' :: 'u' :: 'l' :: 'l' :: rest => passOver rounds .behind opened rest
    | 't' :: 'r' :: 'u' :: 'e' :: rest => passOver rounds .behind opened rest
    | 'f' :: 'a' :: 'l' :: 's' :: 'e' :: rest => passOver rounds .behind opened rest
    | '"' :: rest => (passText rest).bind fun rest => passOver rounds .behind opened rest
    | '[' :: rest =>
      match skipSpace rest with
      | ']' :: rest => passOver rounds .behind opened rest
      | _ => passOver rounds .before (.array :: opened) rest
    | '\x7b' :: rest =>
      match skipSpace rest with
      | '\x7d' :: rest => passOver rounds .behind opened rest
      | _ => (passName rest).bind fun rest => passOver rounds .before (.object :: opened) rest
    | cs => (passNumber cs).bind fun rest => passOver rounds .behind opened rest

/-- What follows a value of any size and depth. -/
def passValue (cs : List Char) : Option (List Char) := passOver (cs.length + 2) .before [] cs

/-! ## Wanted parts -/

/-- What is wanted of a value. -/
inductive Interest where
  /-- all of it -/
  | whole
  /-- the items of a list, each with the same interest -/
  | items (item : Interest)
  /-- some named fields; they may also be written without names, as a list in this order -/
  | record (fields : List (String × Interest))

/-- What is wanted of the item at a position. -/
def Interest.item : Interest → Nat → Interest
  | .whole, _ => .whole
  | .items item, _ => item
  | .record fields, i => (fields[i]?.map (·.2)).getD .whole

/-- What is wanted of a field, or nothing if it can be passed over. -/
def Interest.field? : Interest → String → Option Interest
  | .record fields, name => fields.lookup name
  | _, _ => some .whole

/-- The items of a list up to its closing bracket, at least one; `read` reads the item at a
position. -/
def excerptItems (read : Nat → List Char → Option (Json × List Char)) :
    Nat → Nat → List Char → Option (List Json × List Char)
  | 0, _, _ => none
  | rounds + 1, i, cs => do
    let (item, rest) ← read i (skipSpace cs)
    match skipSpace rest with
    | ',' :: rest =>
      let (items, rest) ← excerptItems read rounds (i + 1) rest
      return (item :: items, rest)
    | ']' :: rest => return ([item], rest)
    | _ => none

/-- The wanted fields of an object up to its closing brace; `read` reads the value of a field, or
passes over it. -/
def excerptFields (read : String → List Char → Option (Option Json × List Char)) :
    Nat → List Char → Option (List (String × Json) × List Char)
  | 0, _ => none
  | rounds + 1, cs =>
    match skipSpace cs with
    | '"' :: body => do
      let (name, rest) ← readText body
      match skipSpace rest with
      | ':' :: rest =>
        let (value?, rest) ← read name (skipSpace rest)
        let field := value?.toList.map fun value => (name, value)
        match skipSpace rest with
        | ',' :: rest =>
          let (fields, rest) ← excerptFields read rounds rest
          return (field ++ fields, rest)
        | '\x7d' :: rest => return (field, rest)
        | _ => none
      | _ => none
    | _ => none

/-- The wanted parts of a value that starts at the first character, with at most the given number
of containers inside one another. -/
def excerpt : Nat → Interest → List Char → Option (Json × List Char)
  | nesting, .whole, cs => readValue nesting cs
  | nesting + 1, interest, '[' :: rest =>
    match skipSpace rest with
    | ']' :: rest => some (.array [], rest)
    | _ =>
      let read i cs := excerpt nesting (interest.item i) cs
      (excerptItems read rest.length 0 rest).map fun p => (.array p.1, p.2)
  | nesting + 1, interest, '\x7b' :: rest =>
    match skipSpace rest with
    | '\x7d' :: rest => some (.object [], rest)
    | _ =>
      let read name cs := match interest.field? name with
        | some wanted => (excerpt nesting wanted cs).map fun p => (some p.1, p.2)
        | none => (passValue cs).map fun rest => (none, rest)
      (excerptFields read rest.length rest).map fun p => (.object p.1, p.2)
  | nesting, _, cs => readValue nesting cs

/-- The wanted parts of a whole text. -/
def excerpt? (interest : Interest) (s : String) : Option Json :=
  readWholeText (excerpt nestingLimit interest) s

/-- An excerpt of everything is a value that is read strictly. -/
theorem excerpt_whole (nesting : Nat) : excerpt nesting .whole = readValue nesting := by
  funext cs
  simp [excerpt]

/-- **Wanting everything is reading strictly.** -/
theorem excerpt?_whole (s : String) : excerpt? .whole s = parse? s := by
  simp [excerpt?, parse?, excerpt_whole]

end RelationSql.Json
