/-!
# Doubled marks

A text between two marks, in which a mark inside the text is written twice.
-/

namespace RelationSql.Text

/-- The characters with every mark written twice. -/
def doubled (mark : Char) : List Char → List Char
  | [] => []
  | c :: rest => if c = mark then mark :: mark :: doubled mark rest else c :: doubled mark rest

/-- The text between single quotes, with single quotes inside it doubled. -/
def singleQuoted (s : String) : String :=
  String.ofList ('\x27' :: doubled '\x27' s.toList ++ ['\x27'])

end RelationSql.Text
