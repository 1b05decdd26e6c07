import BenchTracker.Decimal.Double
import BenchTracker.Decimal.Numeral

/-!
# Shortest decimal numerals

The shortest decimal number that reads back as a given double, and the ways to write it down.
The reals that round to a double form an interval around it. The coarsest power of ten with a
multiple in that interval fixes the number of digits, and the multiple nearest to the double fixes
the digits. The arithmetic is exact, in natural numbers.
-/

namespace BenchTracker

/-- The decimal number `digits * 10 ^ exponent`. -/
structure Scientific where
  digits : Nat
  exponent : Int
  deriving DecidableEq, Repr

namespace Shortest

/-- The interval of reals that round to a positive double, over a common denominator. -/
structure Interval where
  low : Nat
  value : Nat
  high : Nat
  denominator : Nat
  /-- Whether the ends themselves round to the double. -/
  closed : Bool

/-- A double with the least mantissa has a nearer neighbour below it. -/
def interval (mantissa : Nat) (exponent : Int) : Interval :=
  let below := if mantissa = 1 <<< 52 ∧ -1074 < exponent then 1 else 2
  let up := (exponent - 2).toNat
  let down := (2 - exponent).toNat
  { low := (4 * mantissa - below) <<< up
    value := (4 * mantissa) <<< up
    high := (4 * mantissa + 2) <<< up
    denominator := 1 <<< down
    closed := mantissa % 2 = 0 }

/-- Whether `n / d` lies in the interval. -/
def Interval.holds (i : Interval) (n d : Nat) : Bool :=
  if i.closed then i.low * d ≤ n * i.denominator && n * i.denominator ≤ i.high * d
  else i.low * d < n * i.denominator && n * i.denominator < i.high * d

/-- The multiple of `10 ^ power` in the interval that is nearest to its value, if there is one. -/
def Interval.onGrid? (i : Interval) (power : Int) : Option Nat :=
  let up := Nat.pow 10 power.toNat
  let down := Nat.pow 10 (-power).toNat
  let floor := i.value * down / (i.denominator * up)
  let belowIn := 0 < floor && i.holds (floor * up) down
  let aboveIn := i.holds ((floor + 1) * up) down
  match belowIn, aboveIn with
  | false, false => none
  | true, false => some floor
  | false, true => some (floor + 1)
  | true, true =>
    let twice := 2 * i.value * down
    let middle := (2 * floor + 1) * i.denominator * up
    if twice < middle then some floor
    else if middle < twice then some (floor + 1)
    else if floor % 2 = 0 then some floor else some (floor + 1)

/-- Looks for the coarsest grid with a hit, from `10 ^ power` downwards. -/
def Interval.search (i : Interval) : Nat → Int → Scientific
  | 0, power => ⟨i.value / i.denominator, power⟩
  | fuel + 1, power =>
    match i.onGrid? power with
    | some n => ⟨n, power⟩
    | none => i.search fuel (power - 1)

/-- A power of ten above the positive number `mantissa * 2 ^ exponent`, too large by a few orders
at most. -/
def powerAbove (mantissa : Nat) (exponent : Int) : Int :=
  (((Nat.log2 mantissa : Int) + 1 + exponent) * 30103).fdiv 100000 + 1

end Shortest

/-- The shortest decimal number that reads back as the size of the finite double `x`. -/
def Scientific.shortest (x : Float) : Scientific :=
  let p := Double.parts x
  if p.mantissa = 0 then ⟨0, 0⟩
  else (Shortest.interval p.mantissa p.exponent).search 24
    (Shortest.powerAbove p.mantissa p.exponent)

/-- How a decimal number is laid out. -/
structure NumberStyle where
  /-- Positional for `10 ^ least ≤ x < 10 ^ most`, with an exponent otherwise; always positional
  without these bounds. -/
  positional : Option (Int × Int)
  /-- Whether an integral number keeps `.0`. -/
  pointZero : Bool
  /-- Whether a positive exponent has a sign. -/
  exponentSign : Bool

namespace NumberStyle

/-- Digits with a point in front of the last `places` of them, zeros filled in on the left. -/
def withPlaces (digits : List Char) (places : Nat) : List Char :=
  let padded := List.replicate (places + 1 - digits.length) '0' ++ digits
  padded.take (padded.length - places) ++ '.' :: padded.drop (padded.length - places)

def positionalDigits (style : NumberStyle) (s : Scientific) : List Char :=
  match s.exponent with
  | .ofNat e =>
    Numeral.digits s.digits ++ (if s.digits = 0 then [] else List.replicate e '0')
      ++ (if style.pointZero then ['.', '0'] else [])
  | .negSucc e => withPlaces (Numeral.digits s.digits) (e + 1)

def exponentDigits (style : NumberStyle) (s : Scientific) : List Char :=
  let ds := Numeral.digits s.digits
  let power := s.exponent + (ds.length - 1 : Nat)
  let sign := if power < 0 then ['-'] else if style.exponentSign then ['+'] else []
  (match ds with
    | first :: d :: rest => first :: '.' :: d :: rest
    | _ => ds)
    ++ 'e' :: sign ++ Numeral.digits power.natAbs

/-- The text of a decimal number. -/
def layout (style : NumberStyle) (s : Scientific) : List Char :=
  match style.positional with
  | none => style.positionalDigits s
  | some (least, most) =>
    let power := s.exponent + ((Numeral.digits s.digits).length : Int)
    if s.digits = 0 ∨ (least < power ∧ power ≤ most) then style.positionalDigits s
    else style.exponentDigits s

/-- The text of a double. -/
def write (style : NumberStyle) (x : Float) : List Char :=
  if Double.isNaN x then "NaN".toList
  else
    (if Double.isNegative x then ['-'] else []) ++
      (if Double.isFinite x then style.layout (.shortest x) else "inf".toList)

end NumberStyle

end BenchTracker
