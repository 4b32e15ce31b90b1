import RelationSql.Json.Basic
import RelationSql.Text.Numeral

/-!
# Doubles in decimal

A decimal `m · 10^e` is read in the arithmetic of doubles: `m` and the power of ten are rounded to
doubles, and so is their product or quotient. That is the nearest double whenever `m` has at most
53 bits and `e` is small, and else at most a few units beside it. A double is written with the
fewest digits that are nearest to it and to no other double. All steps are exact arithmetic on
whole numbers, and every rounding goes to the nearest, a tie to the even significand.
-/

namespace RelationSql.Binary64

/-! ## Magnitudes -/

/-- The sign bit. -/
def signBit : Nat := Nat.pow 2 63

/-- The leading bit of a significand, which is not stored. -/
def hiddenBit : Nat := Nat.pow 2 52

/-- Whether the sign bit is set. -/
def isNegative (x : Binary64) : Bool := signBit ≤ x.bits.toNat

/-- Significand and binary exponent: the magnitude is `significand · 2 ^ exponent`. -/
def parts (x : Binary64) : Nat × Int :=
  let magnitude := x.bits.toNat % signBit
  let exponent : Nat := magnitude / hiddenBit
  let fraction := magnitude % hiddenBit
  if exponent = 0 then (fraction, -1074) else (hiddenBit + fraction, (exponent : Int) - 1075)

/-- A whole number times a power of two, as a quotient. -/
def dyadic (m : Nat) (q : Int) : Nat × Nat :=
  if 0 ≤ q then (m * Nat.pow 2 q.toNat, 1) else (m, Nat.pow 2 (-q).toNat)

/-- The magnitude as a quotient. -/
def quotient (x : Binary64) : Nat × Nat := dyadic x.parts.1 x.parts.2

/-! ## Reading -/

/-- The whole number nearest to `n / d`, a tie going to the even one. -/
def roundDiv (n d : Nat) : Nat :=
  let q := n / d
  let twice := 2 * (n % d)
  if twice < d then q else if d < twice then q + 1 else if q % 2 = 0 then q else q + 1

/-- The quotient `n / d` divided by `2 ^ q`, as a pair of numerator and denominator. -/
def scaleBinary (n d : Nat) (q : Int) : Nat × Nat :=
  if 0 ≤ q then (n, d * Nat.pow 2 q.toNat) else (n * Nat.pow 2 (-q).toNat, d)

/-- The exponent `q` for which the whole part of `n / d / 2 ^ q` has 53 bits, but no less than the
exponent of the smallest double. -/
def binaryExponent (n d : Nat) : Int :=
  let guess : Int := (Nat.log2 n : Int) - (Nat.log2 d : Int) - 52
  let (a, b) := scaleBinary n d guess
  let exact :=
    if a / b < hiddenBit then guess - 1 else if 2 * hiddenBit ≤ a / b then guess + 1 else guess
  max exact (-1074)

/-- The double nearest to `n / d`, or none when it is too large for one. -/
def ofQuotient? (negative : Bool) (n d : Nat) : Option Binary64 :=
  let sign := if negative then signBit else 0
  if n = 0 then some ⟨UInt64.ofNat sign⟩
  else
    let q := binaryExponent n d
    let (a, b) := scaleBinary n d q
    let rounded := roundDiv a b
    let (significand, exponent) :=
      if rounded = 2 * hiddenBit then (hiddenBit, q + 1) else (rounded, q)
    if 971 < exponent then none
    else if significand < hiddenBit then some ⟨UInt64.ofNat (sign + significand)⟩
    else
      let stored := significand - hiddenBit
      some ⟨UInt64.ofNat (sign + (exponent + 1075).toNat * hiddenBit + stored)⟩

/-- The greatest power of ten among the doubles. -/
def greatestPower : Nat := 308

/-- The double nearest to `10 ^ k`, as a quotient. -/
def powerOfTen? (k : Nat) : Option (Nat × Nat) := (ofQuotient? false (Nat.pow 10 k) 1).map quotient

/-- The magnitude of a double times `10 ^ k`, rounded, or none when it is too large. -/
def scaleUp? (negative : Bool) (x : Binary64) (k : Nat) : Option Binary64 := do
  let (a, b) := x.quotient
  let (n, d) ← powerOfTen? k
  ofQuotient? negative (a * n) (b * d)

/-- The magnitude of a double divided by `10 ^ k`, rounded. -/
def scaleDown? (negative : Bool) (x : Binary64) (k : Nat) : Option Binary64 := do
  let (a, b) := x.quotient
  let (n, d) ← powerOfTen? k
  ofQuotient? negative (a * d) (b * n)

/-- The magnitude of a double divided by `10 ^ k`, in steps of the greatest power of ten as long as
`k` is beyond it and something is left. -/
def shrink? (negative : Bool) (x : Binary64) (k : Nat) : Option Binary64 :=
  if k ≤ greatestPower then scaleDown? negative x k
  else if x.parts.1 = 0 then some x
  else (scaleDown? negative x greatestPower).bind fun y => shrink? negative y (k - greatestPower)
termination_by k
decreasing_by simp [greatestPower] at *; omega

/-- The double for `m · 10^e`, or none when it is too large for one. -/
def ofDecimal? (negative : Bool) (m : Nat) (e : Int) : Option Binary64 := do
  let x ← ofQuotient? negative m 1
  if e < 0 then shrink? negative x (-e).toNat
  else if e.toNat ≤ greatestPower then scaleUp? negative x e.toNat
  else if m = 0 then some x
  else none

/-! ## Writing -/

/-- A whole number times a power of ten, as a quotient. -/
def decimal (m : Nat) (p : Int) : Nat × Nat :=
  if 0 ≤ p then (m * Nat.pow 10 p.toNat, 1) else (m, Nat.pow 10 (-p).toNat)

/-- Compare two quotients with positive denominators: at most. -/
def quotientLe (a b : Nat × Nat) : Bool := a.1 * b.2 ≤ b.1 * a.2

/-- The distance between two quotients. -/
def distance (a b : Nat × Nat) : Nat × Nat :=
  let x := a.1 * b.2
  let y := b.1 * a.2
  (if x ≤ y then y - x else x - y, a.2 * b.2)

/-- Whether the quotient `v` rounds to the double with the given significand and exponent: it lies
between the middles to the neighbours, the middles included when the significand is even. -/
def roundsTo (significand : Nat) (exponent : Int) (v : Nat × Nat) : Bool :=
  let above := dyadic (2 * significand + 1) (exponent - 1)
  let below :=
    if significand = hiddenBit ∧ -1074 < exponent then dyadic (4 * significand - 1) (exponent - 2)
    else dyadic (2 * significand - 1) (exponent - 1)
  if significand % 2 = 0 then quotientLe below v && quotientLe v above
  else !quotientLe v below && !quotientLe above v

/-- The number of decimal digits before the point of a positive quotient; zero or negative when it
is less than one. -/
def decimalMagnitude (v : Nat × Nat) : Int :=
  let estimate : Int := ((Text.numeral v.1).length : Int) - ((Text.numeral v.2).length : Int)
  if quotientLe (decimal 1 estimate) v then estimate + 1 else estimate

/-- The shortest digits of at least `count` digits, with the power of ten of the last one, trying
one digit more at each of `tries` steps. Of two that fit the nearer one is taken, and the even one
of two that are equally near. -/
def shortestFrom (significand : Nat) (exponent : Int) (v : Nat × Nat) (magnitude : Int) :
    Nat → Nat → Nat × Int
  | 0, count => let p := magnitude - count; let (n, d) := decimal 1 p; (v.1 * d / (v.2 * n), p)
  | tries + 1, count =>
    let p := magnitude - count
    let (n, d) := decimal 1 p
    let low := v.1 * d / (v.2 * n)
    let lowFits := roundsTo significand exponent (decimal low p)
    let highFits := roundsTo significand exponent (decimal (low + 1) p)
    let below := distance v (decimal low p)
    let above := distance v (decimal (low + 1) p)
    let nearLow := quotientLe below above && (low % 2 == 0 || !quotientLe above below)
    if lowFits && (nearLow || !highFits) then (low, p)
    else if highFits then (low + 1, p)
    else shortestFrom significand exponent v magnitude tries (count + 1)

/-- The fewest decimal digits to which the double is nearest, and the power of ten of the last. -/
def shortest (x : Binary64) : Nat × Int :=
  let (significand, exponent) := x.parts
  let v := dyadic significand exponent
  shortestFrom significand exponent v (decimalMagnitude v) 17 1

/-- The digits without trailing zeros, and the power of ten of the last digit. -/
def stripZeros : Nat → Nat → Int → Nat × Int
  | 0, m, p => (m, p)
  | steps + 1, m, p => if m % 10 = 0 ∧ m ≠ 0 then stripZeros steps (m / 10) (p + 1) else (m, p)

/-- The decimal text of a positive number `m · 10^p`. It is positional as long as the point lies
within the first sixteen digits or at most five zeros follow it, else in powers of ten. -/
def layout (m : Nat) (p : Int) : List Char :=
  let digits := Text.numeral m
  let point : Int := digits.length + p
  if 0 ≤ p ∧ point ≤ 16 then digits ++ List.replicate p.toNat '0' ++ ['.', '0']
  else if 0 < point ∧ point ≤ 16 then
    digits.take point.toNat ++ '.' :: digits.drop point.toNat
  else if -5 < point ∧ point ≤ 0 then
    ['0', '.'] ++ List.replicate (-point).toNat '0' ++ digits
  else
    let sign := if point < 1 then '-' else '+'
    let exponent := 'e' :: sign :: Text.numeral (point - 1).natAbs
    match digits with
    | [d] => d :: exponent
    | d :: rest => d :: '.' :: rest ++ exponent
    | [] => exponent

/-- The decimal text of a double. -/
def toChars (x : Binary64) : List Char :=
  let sign := if x.isNegative then ['-'] else []
  if x.parts.1 = 0 then sign ++ ['0', '.', '0']
  else
    let (m, p) := x.shortest
    let (m, p) := stripZeros 20 m p
    sign ++ layout m p

end RelationSql.Binary64
