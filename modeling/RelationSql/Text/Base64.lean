/-!
# Base64

The standard alphabet with padding. Reading is strict: the text is made of groups of four
characters, only the last group may be padded, nothing else stands between them, and the bits that
a padded group leaves over are zero. So each byte string has one text.
-/

namespace RelationSql.Text.Base64

/-- The character of a six-bit value. -/
def symbol (n : Nat) : Char :=
  if n < 26 then Char.ofNat (65 + n)
  else if n < 52 then Char.ofNat (97 + (n - 26))
  else if n < 62 then Char.ofNat (48 + (n - 52))
  else if n = 62 then '+'
  else '/'

/-- The six-bit value of a character of the alphabet. -/
def value? (c : Char) : Option Nat :=
  let n := c.toNat
  if 65 ≤ n ∧ n ≤ 90 then some (n - 65)
  else if 97 ≤ n ∧ n ≤ 122 then some (n - 97 + 26)
  else if 48 ≤ n ∧ n ≤ 57 then some (n - 48 + 52)
  else if c = '+' then some 62
  else if c = '/' then some 63
  else none

/-- The text of a byte string, three bytes to a group. -/
def encodeBytes : List UInt8 → List Char
  | [] => []
  | [a] =>
    [symbol (a.toNat / 4), symbol (a.toNat % 4 * 16), '=', '=']
  | [a, b] =>
    [symbol (a.toNat / 4), symbol (a.toNat % 4 * 16 + b.toNat / 16), symbol (b.toNat % 16 * 4), '=']
  | a :: b :: c :: rest =>
    symbol (a.toNat / 4) :: symbol (a.toNat % 4 * 16 + b.toNat / 16) ::
      symbol (b.toNat % 16 * 4 + c.toNat / 64) :: symbol (c.toNat % 64) :: encodeBytes rest

/-- The byte of a padded group `p q = =`; the low bits of `q` must be zero. -/
def oneByte? (p q : Char) : Option (List UInt8) := do
  let x ← value? p
  let y ← value? q
  if y % 16 = 0 then some [UInt8.ofNat (x * 4 + y / 16)] else none

/-- The two bytes of a padded group `p q r =`; the low bits of `r` must be zero. -/
def twoBytes? (p q r : Char) : Option (List UInt8) := do
  let x ← value? p
  let y ← value? q
  let z ← value? r
  if z % 4 = 0 then some [UInt8.ofNat (x * 4 + y / 16), UInt8.ofNat (y % 16 * 16 + z / 4)] else none

/-- The three bytes of a full group. -/
def threeBytes? (p q r s : Char) : Option (List UInt8) := do
  let x ← value? p
  let y ← value? q
  let z ← value? r
  let w ← value? s
  some [UInt8.ofNat (x * 4 + y / 16), UInt8.ofNat (y % 16 * 16 + z / 4),
    UInt8.ofNat (z % 4 * 64 + w)]

/-- The byte string of a text, if the text is one that `encodeBytes` writes. -/
def decodeBytes? : List Char → Option (List UInt8)
  | [] => some []
  | [p, q, '=', '='] => oneByte? p q
  | [p, q, r, '='] => twoBytes? p q r
  | p :: q :: r :: s :: rest => do
    let bytes ← threeBytes? p q r s
    let others ← decodeBytes? rest
    some (bytes ++ others)
  | _ => none

/-- The Base64 text of the UTF-8 form of a text. -/
def encode (s : String) : String := String.ofList (encodeBytes s.toUTF8.data.toList)

/-- The bytes behind a Base64 text. -/
def decode? (s : String) : Option ByteArray :=
  (decodeBytes? s.toList).map fun bytes => ⟨⟨bytes⟩⟩

end RelationSql.Text.Base64
