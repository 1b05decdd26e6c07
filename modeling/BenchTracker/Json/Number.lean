import BenchTracker.Decimal.Reading
import BenchTracker.Json.Reader

/-!
# Numbers in JSON texts

A number without a fraction or an exponent is an integer as long as it fits into 64 bits. Any other
is a double: its digits make a significand of at most 64 bits, further digits are left out, and the
significand is scaled by a power of ten. Numbers beyond the doubles are malformed.
-/

namespace BenchTracker

namespace Json

namespace Reader

/-- The value of a number. -/
inductive Number where
  | natural (n : Nat)
  /-- The number `-n`, for a positive `n` up to `2 ^ 63`. -/
  | negative (n : Nat)
  | real (x : Float)
  deriving Repr

/-- The written parts of a number. -/
structure NumberText where
  whole : List Char
  /-- The digits behind the point, if there is a point. -/
  fraction : Option (List Char)
  /-- The sign and digits of the exponent, if there is one. -/
  exponent : Option (Bool × List Char)

def digitValue (c : Char) : Nat := c.toNat - '0'.toNat

/-- A significand and the power of ten that it lacks. -/
structure Significand where
  digits : Nat
  power : Int
  /-- Whether the last digit did not fit any more. -/
  full : Bool

namespace Significand

/-- Takes a digit in front of the point. Digits that do not fit count as a power of ten. -/
def addWhole (x : Significand) (c : Char) : Significand :=
  if ¬ x.full ∧ x.digits * 10 + digitValue c < Numeral.limit64 then
    { x with digits := x.digits * 10 + digitValue c }
  else { x with power := x.power + 1, full := true }

/-- Takes a digit behind the point, unless it does not fit. -/
def addFraction (x : Significand) (c : Char) : Significand :=
  if ¬ x.full ∧ x.digits * 10 + digitValue c < Numeral.limit64 then
    { x with digits := x.digits * 10 + digitValue c, power := x.power - 1 }
  else { x with full := true }

def ofWhole (whole : List Char) : Significand := whole.foldl addWhole ⟨0, 0, false⟩

/-- The significand of all digits. Whether a digit fits is decided anew behind the point. -/
def ofDigits (whole fraction : List Char) : Significand :=
  fraction.foldl addFraction { ofWhole whole with full := false }

end Significand

/-- The greatest power of ten below infinity. -/
def greatestPower : Nat := 308

def powerOfTen (n : Nat) : Float := Float.ofScientific 1 false n

/-- `digits * 10 ^ power`, the factors rounded first; a result beyond the doubles is malformed. -/
def scale (digits : Nat) (power : Int) : Except Fault Float :=
  let x := Double.ofNat digits
  if digits = 0 then .ok 0.0
  else match power with
    | .ofNat n =>
      if n ≤ greatestPower then
        if Double.isFinite (x * powerOfTen n) then .ok (x * powerOfTen n) else .error .malformed
      else .error .malformed
    | .negSucc n =>
      if n + 1 ≤ greatestPower then .ok (x / powerOfTen (n + 1))
      else if n + 1 ≤ 2 * greatestPower then
        .ok (x / powerOfTen greatestPower / powerOfTen (n + 1 - greatestPower))
      else .ok 0.0

def NumberText.exponentValue (t : NumberText) : Int :=
  match t.exponent with
  | none => 0
  | some (true, ds) => -(Decimal.ofDigits ds : Int)
  | some (false, ds) => Decimal.ofDigits ds

/-- The value of a number with the given sign. -/
def NumberText.value (negative : Bool) (t : NumberText) : Except Fault Number := do
  let whole := Significand.ofWhole t.whole
  let integral := t.fraction.isNone && t.exponent.isNone && ! whole.full
  if integral && ! negative then .ok (.natural whole.digits)
  else if integral && 0 < whole.digits && whole.digits ≤ 1 <<< 63 then .ok (.negative whole.digits)
  else
    let x := Significand.ofDigits t.whole (t.fraction.getD [])
    let size ← scale x.digits (x.power + t.exponentValue)
    .ok (.real (if negative then - size else size))

/-- Reads digits, at least one. -/
def someDigits : Reader (List Char) := fun s =>
  match s with
  | [] => .error .truncated
  | c :: _ => if c.isDigit then .ok (Decimal.spanDigits s) else .error .malformed

/-- Reads the digits in front of the point; a leading zero stands alone. -/
def wholeDigits : Reader (List Char) := fun s =>
  match s with
  | '0' :: c :: r => if c.isDigit then .error .malformed else .ok (['0'], c :: r)
  | _ => someDigits s

/-- Reads a point and digits, if there is a point. -/
def fractionPart : Reader (Option (List Char)) := fun s =>
  match s with
  | '.' :: r => do
    let (ds, r) ← someDigits r
    .ok (some ds, r)
  | _ => .ok (none, s)

def isExponentMark (c : Char) : Bool := c = 'e' || c = 'E'

/-- Reads the sign of an exponent: whether it is negative. -/
def exponentSign : List Char → Bool × List Char
  | '-' :: r => (true, r)
  | '+' :: r => (false, r)
  | r => (false, r)

/-- Reads an exponent, if there is one. -/
def exponentPart : Reader (Option (Bool × List Char)) := fun s =>
  match s with
  | [] => .ok (none, [])
  | c :: r =>
    if isExponentMark c then do
      let (negative, r) := exponentSign r
      let (ds, r) ← someDigits r
      .ok (some (negative, ds), r)
    else .ok (none, c :: r)

/-- Reads a number without its sign. -/
def numberText : Reader NumberText := fun s => do
  let (whole, r) ← wholeDigits s
  let (fraction, r) ← fractionPart r
  let (exponent, r) ← exponentPart r
  .ok (⟨whole, fraction, exponent⟩, r)

/-- Reads a number that starts with a sign or a digit. -/
def number : Reader Number := fun s => do
  let (negative, s) := match s with
    | '-' :: r => (true, r)
    | r => (false, r)
  let (t, r) ← numberText s
  let x ← t.value negative
  .ok (x, r)

end Reader

end Json

end BenchTracker
