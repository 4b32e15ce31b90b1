/-!
# Replacing a word in a text

Every occurrence of a word is replaced, from left to right and without overlap; text that was put
in is not searched again.
-/

namespace RelationSql.Text

/-- The work behind `replace`: `skip` counts the characters of an occurrence still to be dropped. -/
def replaceFrom (word value : List Char) : Nat → List Char → List Char
  | _, [] => []
  | skip + 1, _ :: rest => replaceFrom word value skip rest
  | 0, c :: rest =>
    if word.isPrefixOf (c :: rest) then
      value ++ replaceFrom word value (word.length - 1) rest
    else
      c :: replaceFrom word value 0 rest

/-- The text `s` with every occurrence of the non-empty `word` replaced by `value`. -/
def replace (word value s : String) : String :=
  String.ofList (replaceFrom word.toList value.toList 0 s.toList)

/-- A text in which `word` occurs nowhere is left alone. -/
theorem replaceFrom_eq_self {word value : List Char} :
    ∀ {cs : List Char}, (∀ tail, tail <:+ cs → tail ≠ [] → word.isPrefixOf tail = false) →
      replaceFrom word value 0 cs = cs
  | [], _ => rfl
  | c :: rest, h => by
    rw [replaceFrom, if_neg (by simp [h _ List.suffix_rfl (List.cons_ne_nil c rest)]),
      replaceFrom_eq_self fun tail ht => h tail (ht.trans (List.suffix_cons c rest))]

end RelationSql.Text
