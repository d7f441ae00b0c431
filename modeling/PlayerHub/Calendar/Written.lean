import PlayerHub.Calendar.Instant
import PlayerHub.Json.Value
import PlayerHub.Text.Blank
import PlayerHub.Text.Decimal

namespace PlayerHub.Calendar

open Decimal
open Text (isBlank skipBlanks)

/-- The written year. -/
def printYear (year : Int) : List Char :=
  if year < 0 then '-' :: padded 4 year.natAbs
  else if 9999 < year then '+' :: padded 4 year.natAbs
  else padded 4 year.natAbs

/-- The written fraction: the fewest of zero, three, six and nine digits that are exact. -/
def printFraction (nanos : Nat) : List Char :=
  if nanos = 0 then []
  else if nanos % 1000000 = 0 then '.' :: padded 3 (nanos / 1000000)
  else if nanos % 1000 = 0 then '.' :: padded 6 (nanos / 1000)
  else '.' :: padded 9 nanos

/-- The characters of a written instant. -/
def Instant.printChars (t : Instant) : List Char :=
  printYear t.date.year ++ '-' :: (padded 2 t.date.month ++ '-' :: (padded 2 t.date.day ++
    'T' :: (padded 2 t.hour ++ ':' :: (padded 2 t.minute ++ ':' :: (padded 2 t.second ++
      (printFraction t.nanos ++ ['Z']))))))

/-- The written instant. -/
def Instant.print (t : Instant) : String := String.ofList t.printChars

/-- Reads a number of at least one and at most `width` digits. -/
def readNumber (width : Nat) (s : List Char) : Option (Nat × List Char) :=
  let ds := (s.take width).takeWhile isDigit
  if ds = [] then none else some (value ds, s.drop ds.length)

/-- Reads a number of two digits at most, with blanks before it. -/
def readPart (s : List Char) : Option (Nat × List Char) := readNumber 2 (skipBlanks s)

/-- Reads a year: four digits at most, or any number of digits after a sign. -/
def readYear (s : List Char) : Option (Int × List Char) :=
  match skipBlanks s with
  | '-' :: s => (readNumber s.length s).map fun (n, r) => (-(n : Int), r)
  | '+' :: s => (readNumber s.length s).map fun (n, r) => ((n : Int), r)
  | s => (readNumber 4 s).map fun (n, r) => ((n : Int), r)

/-- Reads the given mark, with blanks before it. -/
def readMark (mark : Char) (s : List Char) : Option (List Char) :=
  match skipBlanks s with
  | c :: r => if c = mark then some r else none
  | [] => none

/-- Reads a date. -/
def readDate (s : List Char) : Option (Date × List Char) := do
  let (year, s) ← readYear s
  let s ← readMark '-' s
  let (month, s) ← readPart s
  let s ← readMark '-' s
  let (day, s) ← readPart s
  let date ← Date.of? year month day
  return (date, s)

/-- Reads what stands between a date and a time. -/
def readGap : List Char → Option (List Char)
  | 'T' :: s => some s
  | 't' :: s => some s
  | ' ' :: s => some s
  | _ => none

/-- The nanoseconds that the digits of a fraction write; digits after the ninth are dropped. -/
def fractionValue (ds : List Char) : Nat :=
  value (ds.take 9) * Nat.pow 10 (9 - ds.length)

/-- Reads a fraction if there is one. -/
def readFraction : List Char → Option (Nat × List Char)
  | '.' :: s =>
    let ds := s.takeWhile isDigit
    if ds = [] then none else some (fractionValue ds, s.dropWhile isDigit)
  | s => some (0, s)

/-- Reads the two digits that stand at the start. -/
def readTwoDigits : List Char → Option (Nat × List Char)
  | a :: b :: s => if isDigit a && isDigit b then some (value [a, b], s) else none
  | _ => none

/-- Reads an offset behind its sign, in minutes: hours, then minutes, perhaps with colons or blanks
between them. -/
def readHoursMinutes (s : List Char) : Option (Nat × List Char) := do
  let (hours, s) ← readTwoDigits s
  let (minutes, s) ← readTwoDigits (s.dropWhile fun c => c == ':' || isBlank c)
  if hours < 24 ∧ minutes < 60 then return (60 * hours + minutes, s) else none

/-- Reads an offset from UTC, in minutes: `Z` or `UTC` in either case, or a signed number of hours
and minutes. The sign of a negative offset may be a hyphen or the mathematical minus. -/
def readOffset : List Char → Option (Int × List Char)
  | '+' :: s => (readHoursMinutes s).map fun (n, r) => ((n : Int), r)
  | '-' :: s => (readHoursMinutes s).map fun (n, r) => (-(n : Int), r)
  | '\u2212' :: s => (readHoursMinutes s).map fun (n, r) => (-(n : Int), r)
  | 'Z' :: s => some (0, s)
  | 'z' :: s => some (0, s)
  | a :: b :: c :: s =>
    if (a = 'U' ∨ a = 'u') ∧ (b = 'T' ∨ b = 't') ∧ (c = 'C' ∨ c = 'c') then some (0, s) else none
  | _ => none

/-- Reads a whole written instant. -/
def Instant.readChars? (s : List Char) : Option Instant := do
  let (date, s) ← readDate s
  let s ← readGap s
  let (hour, s) ← readPart s
  let s ← readMark ':' s
  let (minute, s) ← readPart s
  let s ← readMark ':' s
  let (second, s) ← readPart s
  let (nanos, s) ← readFraction s
  let (minutes, s) ← readOffset (skipBlanks s)
  if skipBlanks s = [] ∧ hour < 24 ∧ minute < 60 then
    ofLocal? date hour minute second nanos minutes
  else none

/-- The instant that a text writes. -/
def Instant.parse? (s : String) : Option Instant := Instant.readChars? s.toList

/-- The JSON form of an instant. -/
def Instant.toJson (t : Instant) : Json.Value := .str t.print

/-- Reads an instant from its JSON form. -/
def Instant.ofJson? (v : Json.Value) : Option Instant := v.str?.bind Instant.parse?

end PlayerHub.Calendar
