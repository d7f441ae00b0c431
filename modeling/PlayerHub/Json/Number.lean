import PlayerHub.Data.Binary64
import PlayerHub.Json.Flaw
import PlayerHub.Text.Decimal

namespace PlayerHub.Json

/-- The parts of a written number, its sign apart. -/
structure Numeral where
  whole : List Char
  fraction : List Char
  down : Bool
  exponent : List Char
deriving DecidableEq, Repr

namespace Numeral

/-- The digits of a plain natural number. -/
def ofNat (n : Nat) : Numeral := ⟨Decimal.digits n, [], false, []⟩

/-- Appends digits to a significand as long as it stays below 2^64: the significand, and how many
digits are left. -/
def gather (n : Nat) : List Char → Nat × Nat
  | [] => (n, 0)
  | d :: ds =>
    let m := 10 * n + Decimal.digitValue d
    if m < 2 ^ 64 then gather m ds else (n, ds.length + 1)

/-- The significand and its power of ten before the exponent is applied. Digits of the whole part
that are left raise the power; those of the fraction are dropped. -/
def scaled (x : Numeral) : Nat × Int :=
  let (n, more) := gather 0 x.whole
  let (n, dropped) := gather n x.fraction
  (n, more + dropped - x.fraction.length)

/-- The largest exponent that is read. -/
def maxExponent : Nat := 2147483647

/-- What keeps a number from being taken in. A reader finds a number too large at its end, and an
exponent too large at the digit with which it is. -/
def flaw? (x : Numeral) : Option Flaw :=
  let (n, power) := x.scaled
  let exponent := Decimal.value x.exponent
  if n = 0 then none
  else if x.down then
    if Binary64.overflows n (power - exponent) then some .atEnd else none
  else if maxExponent < Decimal.value x.exponent.dropLast then some .inside
  else if Binary64.overflows n (power + exponent) then some .atEnd
  else none

end Numeral

/-- A number. Readers want plain integers, written with neither fraction nor exponent. Of any other
number they know only whether it can be taken in, that is held as a binary64 number. -/
inductive Number where
  | int (i : Int)
  | other (flaw : Option Flaw)
deriving DecidableEq, Repr

namespace Number

/-- The number with the given parts. -/
def ofNumeral (negative : Bool) (x : Numeral) : Number :=
  let n : Int := Decimal.value x.whole
  if x.fraction ≠ [] ∨ x.exponent ≠ [] ∨ (negative ∧ n = 0) then .other x.flaw?
  else .int (if negative then -n else n)

/-- The integer that a number plainly is. -/
def int? : Number → Option Int
  | .int i => some i
  | .other _ => none

/-- What keeps a number from being taken in. -/
def flaw? : Number → Option Flaw
  | .int i => (Numeral.ofNat i.natAbs).flaw?
  | .other flaw => flaw

end Number

end PlayerHub.Json
