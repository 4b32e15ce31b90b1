import RelationSql.Text.Blank
import RelationSql.Text.Numeral
import RelationSql.Timestamp.Basic

/-!
# The text of timestamps

Timestamps are written as `2021-03-04T05:06:07Z`, with a fraction of a second where one is asked
for; a year outside 0 to 9999 has a sign. Two readers go with it. The *strict* one takes the form of
RFC 3339 with all its digits. The *lenient* one also takes missing leading zeros, signed years of
any length, an offset without colon, the word `UTC`, and blanks around the parts. Both take a blank
for the `T`, small letters for `T` and `Z`, and drop the digits after the ninth of a fraction.
-/

namespace RelationSql.Timestamp

/-! ## Writing -/

/-- A year: four digits, or a sign and at least four digits outside 0 to 9999. -/
def yearChars (year : Int) : List Char :=
  if 0 ≤ year ∧ year ≤ 9999 then Text.paddedNumeral 4 year.toNat
  else (if year < 0 then '-' else '+') :: Text.paddedNumeral 4 year.natAbs

/-- Date, a separator, and the time of day in whole seconds. -/
def secondsChars (separator : Char) (t : Timestamp) : List Char :=
  yearChars t.date.year ++ '-' :: Text.paddedNumeral 2 t.date.month ++
    '-' :: Text.paddedNumeral 2 t.date.day ++ separator :: Text.paddedNumeral 2 t.hour ++
    ':' :: Text.paddedNumeral 2 t.minute ++ ':' :: Text.paddedNumeral 2 t.second

/-- The fraction of a second in thousandths, cut off. -/
def millisChars (t : Timestamp) : List Char := '.' :: Text.paddedNumeral 3 (t.nano / 1000000)

/-- The fraction of a second with the fewest of 0, 3, 6 and 9 digits that lose nothing. -/
def exactFractionChars (t : Timestamp) : List Char :=
  if t.nano = 0 then []
  else if t.nano % 1000000 = 0 then '.' :: Text.paddedNumeral 3 (t.nano / 1000000)
  else if t.nano % 1000 = 0 then '.' :: Text.paddedNumeral 6 (t.nano / 1000)
  else '.' :: Text.paddedNumeral 9 t.nano

/-- The exact text, as it is kept in cursors. -/
def exactText (t : Timestamp) : String :=
  String.ofList (t.secondsChars 'T' ++ t.exactFractionChars ++ ['Z'])

/-- The text to the thousandth of a second. -/
def millisText (t : Timestamp) : String :=
  String.ofList (t.secondsChars 'T' ++ t.millisChars ++ ['Z'])

/-- The text to the thousandth of a second with a blank for the `T` and no zone. -/
def plainText (t : Timestamp) : String :=
  String.ofList (t.secondsChars ' ' ++ t.millisChars)

/-! ## Reading -/

/-- A number of between `least` and `most` digits, as many as there are. -/
def readDigits (least most : Nat) (cs : List Char) : Option (Nat × List Char) :=
  let digits := (cs.take most).takeWhile Char.isDigit
  if digits.length < least then none
  else some (Nat.ofDigitChars 10 digits 0, cs.drop digits.length)

/-- A given character. -/
def readChar (expected : Char) : List Char → Option (List Char)
  | c :: rest => if c = expected then some rest else none
  | [] => none

/-- The character between date and time. -/
def readSeparator : List Char → Option (List Char)
  | c :: rest => if c = 'T' ∨ c = 't' ∨ c = ' ' then some rest else none
  | [] => none

/-- A fraction of a second in billionths, if there is one; digits after the ninth are dropped. -/
def readFraction : List Char → Option (Nat × List Char)
  | '.' :: cs =>
    let digits := cs.takeWhile Char.isDigit
    if digits = [] then none
    else
      let kept := digits.take 9
      some (Nat.ofDigitChars 10 kept 0 * Nat.pow 10 (9 - kept.length), cs.dropWhile Char.isDigit)
  | cs => some (0, cs)

/-- The sign of a zone offset; the typographic minus counts as one. -/
def readSign : List Char → Option (Int × List Char)
  | c :: rest =>
    if c = '+' then some (1, rest)
    else if c = '-' ∨ c.toNat = 0x2212 then some (-1, rest)
    else none
  | [] => none

/-- A zone: `Z`, or the offset from UTC as hours and minutes, in minutes. `colon` reads what stands
between the two. -/
def readZone (colon : List Char → Option (List Char)) (cs : List Char) :
    Option (Int × List Char) :=
  match cs with
  | [] => none
  | c :: rest =>
    if c = 'Z' ∨ c = 'z' then some (0, rest)
    else do
      let (sign, rest) ← readSign cs
      let (hours, rest) ← readDigits 2 2 rest
      let rest ← colon rest
      let (minutes, rest) ← readDigits 2 2 rest
      if hours < 24 ∧ minutes < 60 then
        return (sign * ((hours : Int) * 60 + minutes), rest)
      else none

/-- The timestamp of a local date and time and its zone. -/
def ofLocal? (year : Int) (month day hour minute second nano : Nat) (zone : Int) :
    Option Timestamp := do
  let date ← Date.ofParts? year month day
  let clock ← ofParts? date hour minute second nano
  clock.earlier? zone

/-- The timestamp of a strict text. -/
def parseStrict? (s : String) : Option Timestamp := do
  let (year, cs) ← readDigits 4 4 s.toList
  let cs ← readChar '-' cs
  let (month, cs) ← readDigits 2 2 cs
  let cs ← readChar '-' cs
  let (day, cs) ← readDigits 2 2 cs
  let cs ← readSeparator cs
  let (hour, cs) ← readDigits 2 2 cs
  let cs ← readChar ':' cs
  let (minute, cs) ← readDigits 2 2 cs
  let cs ← readChar ':' cs
  let (second, cs) ← readDigits 2 2 cs
  let (nano, cs) ← readFraction cs
  let (zone, cs) ← readZone (readChar ':') cs
  if cs = [] then ofLocal? year month day hour minute second nano zone else none

/-- A year: up to four digits, or a sign and any number of digits. -/
def readYear (cs : List Char) : Option (Int × List Char) :=
  match cs with
  | '-' :: rest => (readDigits 1 rest.length rest).map fun p => (-(p.1 : Int), p.2)
  | '+' :: rest => (readDigits 1 rest.length rest).map fun p => ((p.1 : Int), p.2)
  | _ => (readDigits 1 4 cs).map fun p => ((p.1 : Int), p.2)

/-- A number of one or two digits after any blanks. -/
def readField (cs : List Char) : Option (Nat × List Char) := readDigits 1 2 (Text.dropBlanks cs)

/-- A given character after any blanks. -/
def readMark (expected : Char) (cs : List Char) : Option (List Char) :=
  readChar expected (Text.dropBlanks cs)

/-- A zone after any blanks: the word `UTC`, `Z`, or an offset with or without a colon. -/
def readLenientZone (cs : List Char) : Option (Int × List Char) :=
  let cs := Text.dropBlanks cs
  if (cs.take 3).map Char.toUpper = ['U', 'T', 'C'] then some (0, cs.drop 3)
  else readZone (fun rest => some (rest.dropWhile fun c => c == ':' || Text.isBlank c)) cs

/-- The timestamp of a lenient text. -/
def parseLenient? (s : String) : Option Timestamp := do
  let (year, cs) ← readYear (Text.dropBlanks s.toList)
  let cs ← readMark '-' cs
  let (month, cs) ← readField cs
  let cs ← readMark '-' cs
  let (day, cs) ← readField cs
  let cs ← readSeparator cs
  let (hour, cs) ← readField cs
  let cs ← readMark ':' cs
  let (minute, cs) ← readField cs
  let cs ← readMark ':' cs
  let (second, cs) ← readField cs
  let (nano, cs) ← readFraction cs
  let (zone, cs) ← readLenientZone cs
  if Text.dropBlanks cs = [] then ofLocal? year month day hour minute second nano zone else none

end RelationSql.Timestamp
