import BenchTracker.Decimal.Double
import BenchTracker.Decimal.Numeral

/-!
# Reading decimal numbers

Decimal texts of doubles: an optional sign, digits with an optional point, an optional exponent,
or a word for infinity or for no number. The value is the double nearest to the written number.
-/

namespace BenchTracker

/-- The written number `± digits * 10 ^ exponent`. -/
structure Decimal where
  negative : Bool
  digits : Nat
  exponent : Int
  deriving DecidableEq, Repr

namespace Decimal

/-- The nearest double to the size. Sizes from `10 ^ 310` on are infinite and those below
`10 ^ -330` are zero, so no power of ten beyond these is computed. -/
def size (d : Decimal) : Float :=
  let order := d.exponent + ((Numeral.digits d.digits).length : Int)
  if d.digits = 0 then 0.0
  else if 310 < order then Double.infinity
  else if order < -330 then 0.0
  else Float.ofScientific d.digits (d.exponent < 0) d.exponent.natAbs

def toFloat (d : Decimal) : Float := if d.negative then - d.size else d.size

/-- The digits at the front of a text and what follows them. -/
def spanDigits (s : List Char) : List Char × List Char :=
  (s.takeWhile Char.isDigit, s.dropWhile Char.isDigit)

/-- The number that a list of decimal digits denotes. -/
def ofDigits (ds : List Char) : Nat := ds.foldl (fun n c => n * 10 + (c.toNat - '0'.toNat)) 0

/-- An exponent: a sign may stand in front of the digits, and nothing follows them. -/
def readExponent? (s : List Char) : Option Int :=
  let (negative, ds) := match s with
    | '-' :: r => (true, r)
    | '+' :: r => (false, r)
    | r => (false, r)
  if ds ≠ [] ∧ ds.all Char.isDigit then
    some (if negative then -(ofDigits ds : Int) else ofDigits ds)
  else none

/-- The digits before and after the point, at least one in all, then perhaps an exponent. -/
def readUnsigned? (negative : Bool) (s : List Char) : Option Decimal :=
  let (whole, r) := spanDigits s
  let (fraction, r) := match r with
    | '.' :: r => spanDigits r
    | r => ([], r)
  if whole = [] ∧ fraction = [] then none
  else
    let exponent? := match r with
      | [] => some 0
      | e :: r => if e = 'e' ∨ e = 'E' then readExponent? r else none
    exponent?.map fun e =>
      { negative, digits := ofDigits (whole ++ fraction), exponent := e - (fraction.length : Int) }

end Decimal

namespace Double

def notANumber : Float := 0.0 / 0.0

/-- Reads a double; infinity and NaN may be spelled in letters of either case. -/
def read? (s : List Char) : Option Float :=
  let (negative, r) := match s with
    | '-' :: r => (true, r)
    | '+' :: r => (false, r)
    | r => (false, r)
  let word := String.ofList (r.map Char.toLower)
  if word = "inf" ∨ word = "infinity" then some (if negative then - infinity else infinity)
  else if word = "nan" then some notANumber
  else (Decimal.readUnsigned? negative r).map Decimal.toFloat

end Double

end BenchTracker
