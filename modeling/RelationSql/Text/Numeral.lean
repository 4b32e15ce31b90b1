/-!
# Decimal numerals

Reading and writing of whole numbers in decimal. A numeral is a non-empty run of ASCII digits;
leading zeros are allowed when reading, and never written. The bounded readers also take a sign and
refuse what does not fit the width.
-/

namespace RelationSql.Text

/-- The number that a non-empty run of ASCII digits denotes. -/
def natural? (cs : List Char) : Option Nat :=
  if cs ≠ [] ∧ cs.all Char.isDigit then some (Nat.ofDigitChars 10 cs 0) else none

/-- The value of a hexadecimal digit. -/
def hexDigit? (c : Char) : Option Nat :=
  if c.isDigit then some (c.toNat - 48)
  else if 97 ≤ c.toNat ∧ c.toNat ≤ 102 then some (c.toNat - 87)
  else if 65 ≤ c.toNat ∧ c.toNat ≤ 70 then some (c.toNat - 55)
  else none

/-- The number that some digits denote in a base; `digit?` gives the value of a digit. -/
def ofDigits? (base : Nat) (digit? : Char → Option Nat) (cs : List Char) : Option Nat :=
  cs.foldlM (fun n c => (digit? c).map (base * n + ·)) 0

/-- The decimal digits of a number, without leading zeros. -/
def numeral (n : Nat) : List Char := Nat.toDigits 10 n

/-- A numeral preceded by zeros up to the given width. -/
def paddedNumeral (width n : Nat) : List Char :=
  List.replicate (width - (numeral n).length) '0' ++ numeral n

/-- The decimal text of an integer, with a leading minus when it is negative. -/
def signedNumeral (n : Int) : List Char :=
  if n < 0 then '-' :: numeral n.natAbs else numeral n.natAbs

/-- An unsigned number of 64 bits: an optional plus, then a numeral. -/
def unsigned? (cs : List Char) : Option UInt64 :=
  let digits := match cs with
    | '+' :: rest => rest
    | _ => cs
  (natural? digits).bind fun n =>
    if n < UInt64.size then some (UInt64.ofNat n) else none

/-- The integer with an optional sign and a numeral. -/
def integer? : List Char → Option Int
  | '+' :: rest => (natural? rest).map Int.ofNat
  | '-' :: rest => (natural? rest).map fun n => -Int.ofNat n
  | cs => (natural? cs).map Int.ofNat

/-- The 64-bit signed number equal to an integer, if there is one. -/
def int64OfInt? (n : Int) : Option Int64 :=
  if Int64.minValue.toInt ≤ n ∧ n ≤ Int64.maxValue.toInt then some (Int64.ofInt n) else none

/-- The 64-bit unsigned number equal to an integer, if there is one. -/
def uint64OfInt? (n : Int) : Option UInt64 :=
  if 0 ≤ n ∧ n < UInt64.size then some (UInt64.ofNat n.toNat) else none

/-- A signed number of 64 bits: an optional sign, then a numeral. -/
def signed? (cs : List Char) : Option Int64 := (integer? cs).bind int64OfInt?

/-- The decimal text of an unsigned number of 64 bits. -/
def unsignedText (n : UInt64) : String := String.ofList (numeral n.toNat)

/-- The decimal text of a signed number of 64 bits. -/
def signedText (n : Int64) : String := String.ofList (signedNumeral n.toInt)

/-- **Numerals read back.** -/
theorem natural?_numeral (n : Nat) : natural? (numeral n) = some n := by
  have hne : numeral n ≠ [] := Nat.toDigits_ne_nil
  have hdigits : (numeral n).all Char.isDigit = true := by
    rw [List.all_eq_true]
    exact fun c hc => Nat.isDigit_of_mem_toDigits (by decide) (by decide) hc
  rw [natural?, if_pos ⟨hne, hdigits⟩, numeral, Nat.ofDigitChars_ten_toDigits]

end RelationSql.Text
