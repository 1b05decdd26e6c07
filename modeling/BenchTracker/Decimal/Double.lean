/-!
# Double precision numbers

The parts of a finite double, rounding to an integer with halves to the even neighbour, conversion
to a 64-bit integer, and the logarithm and exponential. Everything but `ln` and `exp` works on the
bits in natural numbers.
-/

namespace BenchTracker

namespace Double

/-- The finite double `± mantissa * 2 ^ exponent`. -/
structure Parts where
  negative : Bool
  mantissa : Nat
  exponent : Int
  deriving DecidableEq, Repr

def isNegative (x : Float) : Bool := x.toBits.toNat.testBit 63

def exponentField (x : Float) : Nat := x.toBits.toNat >>> 52 % 1 <<< 11

def fractionField (x : Float) : Nat := x.toBits.toNat % 1 <<< 52

/-- Neither infinite nor a NaN. -/
def isFinite (x : Float) : Bool := exponentField x != 2047

def isNaN (x : Float) : Bool := exponentField x == 2047 && fractionField x != 0

/-- The parts of a finite double; those of any other have no meaning. -/
def parts (x : Float) : Parts :=
  if exponentField x = 0 then ⟨isNegative x, fractionField x, -1074⟩
  else ⟨isNegative x, 1 <<< 52 + fractionField x, (exponentField x : Int) - 1075⟩

/-- `n / d` rounded to the nearest natural number, a half going to the even neighbour. -/
def roundDiv (n d : Nat) : Nat :=
  if 2 * (n % d) < d then n / d
  else if d < 2 * (n % d) then n / d + 1
  else if n / d % 2 = 0 then n / d
  else n / d + 1

/-- The size of `x` rounded to a natural number, halves to even. -/
def Parts.roundedSize (p : Parts) : Nat :=
  match p.exponent with
  | .ofNat e => p.mantissa <<< e
  | .negSucc e => roundDiv p.mantissa (1 <<< (e + 1))

/-- The size of `x` with its fraction cut off. -/
def Parts.truncatedSize (p : Parts) : Nat :=
  match p.exponent with
  | .ofNat e => p.mantissa <<< e
  | .negSucc e => p.mantissa >>> (e + 1)

def ofNat (n : Nat) : Float := (UInt64.ofNat n).toFloat

/-- The nearest integral double, halves to even. The sign stays, also that of a zero. -/
def roundEven (x : Float) : Float :=
  if ¬ isFinite x ∨ 0 ≤ (parts x).exponent then x
  else if isNegative x then - ofNat (parts x).roundedSize
  else ofNat (parts x).roundedSize

def minInt64 : Int := -0x8000000000000000

def maxInt64 : Int := 0x7FFFFFFFFFFFFFFF

/-- The integer part as a signed 64-bit number: what lies outside goes to the nearer end, a NaN
to zero. -/
def toInt (x : Float) : Int :=
  if isNaN x then 0
  else if ¬ isFinite x then (if isNegative x then minInt64 else maxInt64)
  else
    let size : Int := (parts x).truncatedSize
    if isNegative x then max minInt64 (-size) else min maxInt64 size

/-- Rounds to a 64-bit integer, halves to even. -/
def roundInt (x : Float) : Int := toInt (roundEven x)

/-- The double nearest to a signed 64-bit number. -/
def ofInt (n : Int) : Float := if n < 0 then - ofNat n.natAbs else ofNat n.natAbs

def infinity : Float := 1.0 / 0.0

/-- The natural logarithm; its values at one and at infinity are exact. -/
def ln (x : Float) : Float :=
  if x == 1.0 then 0.0 else if x == infinity then infinity else Float.log x

/-- The exponential; its values at zero and at infinity are exact. -/
def exp (x : Float) : Float :=
  if x == 0.0 then 1.0 else if x == infinity then infinity else Float.exp x

/-- The product of `r` and `a` to the power `n`, by repeated squaring. -/
def timesPow (r a : Float) (n : Nat) : Float :=
  let r := if n % 2 = 1 then r * a else r
  if n < 2 then r else timesPow r (a * a) (n / 2)
termination_by n

/-- Ten to the power `n`, which is exact up to `n = 22`. -/
def tenPow (n : Nat) : Float := timesPow 1.0 10.0 n

/-- Rounds to `decimals` decimal places, halves of the scaled value to even; a negative number of
places rounds to a power of ten. -/
def roundTo (x : Float) (decimals : Int) : Float :=
  let scale := match decimals with
    | .ofNat n => tenPow n
    | .negSucc n => 1.0 / tenPow (n + 1)
  roundEven (x * scale) / scale

end Double

end BenchTracker
