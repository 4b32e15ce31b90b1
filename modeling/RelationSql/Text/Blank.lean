/-!
# Blanks

White space in the sense of the Unicode property *White_Space*, and the text that remains when it
is cut off at the ends. The operations work on lists of characters; the ones on `String` wrap them.
-/

namespace RelationSql.Text

/-- Whether a character is white space in any script. -/
def isBlank (c : Char) : Bool :=
  (9 ≤ c.toNat && c.toNat ≤ 13) || c == ' ' || c.toNat == 0x85 || c.toNat == 0xA0 ||
    c.toNat == 0x1680 || (0x2000 ≤ c.toNat && c.toNat ≤ 0x200A) || c.toNat == 0x2028 ||
    c.toNat == 0x2029 || c.toNat == 0x202F || c.toNat == 0x205F || c.toNat == 0x3000

/-- The characters from the first one that is no blank. -/
def dropBlanks (cs : List Char) : List Char := cs.dropWhile isBlank

/-- The characters without the blanks at either end. -/
def trimChars (cs : List Char) : List Char :=
  (dropBlanks (dropBlanks cs).reverse).reverse

/-- The text without the blanks at either end. -/
def trim (s : String) : String := String.ofList (trimChars s.toList)

/-- Whether a text holds nothing but blanks. -/
def isBlankText (s : String) : Bool := s.toList.all isBlank

/-- A text that neither starts nor ends with a blank is its own trimmed form. -/
theorem trimChars_eq_self {cs : List Char} (hfirst : ∀ c, cs.head? = some c → isBlank c = false)
    (hlast : ∀ c, cs.getLast? = some c → isBlank c = false) : trimChars cs = cs := by
  have hfix : ∀ ds : List Char, (∀ c, ds.head? = some c → isBlank c = false) →
      dropBlanks ds = ds := by
    intro ds hds
    cases ds with
    | nil => rfl
    | cons d ds => simp [dropBlanks, hds d rfl]
  have hrev : dropBlanks cs.reverse = cs.reverse :=
    hfix _ fun c hc => hlast c (by rwa [List.head?_reverse] at hc)
  rw [trimChars, hfix cs hfirst, hrev, List.reverse_reverse]

end RelationSql.Text
