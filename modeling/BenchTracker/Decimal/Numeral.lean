/-!
# Unsigned numerals

Decimal numerals of natural numbers below a limit. Reading stops at the first problem from the
left, so a numeral that grows too large is reported before a stray character further on.
-/

namespace BenchTracker

/-- Why a text is not an unsigned number below the limit. -/
inductive NumeralError where
  | empty
  | invalidDigit
  | tooLarge
  deriving DecidableEq, Repr

/-- The words a message uses for the problem. -/
def NumeralError.message : NumeralError → String
  | .empty => "cannot parse integer from empty string"
  | .invalidDigit => "invalid digit found in string"
  | .tooLarge => "number too large to fit in target type"

namespace Numeral

/-- The number of values of an unsigned 64-bit word. -/
def limit64 : Nat := 1 <<< 64

/-- The decimal digits of `n`, most significant first. -/
def digits (n : Nat) : List Char := Nat.toDigits 10 n

/-- The decimal numeral of `n`. -/
def text (n : Nat) : String := String.ofList (digits n)

/-- The decimal digits of an integer, with a sign if it is negative. -/
def signedDigits (n : Int) : List Char := if n < 0 then '-' :: digits n.natAbs else digits n.natAbs

/-- The decimal numeral of an integer. -/
def signed (n : Int) : String := String.ofList (signedDigits n)

def digit? (c : Char) : Option Nat :=
  if '0' ≤ c ∧ c ≤ '9' then some (c.toNat - '0'.toNat) else none

/-- Reads digits that follow a number `acc` already read. -/
def readDigits (limit : Nat) : Nat → List Char → Except NumeralError Nat
  | acc, [] => .ok acc
  | acc, c :: rest =>
    match digit? c with
    | none => .error .invalidDigit
    | some d =>
      if acc * 10 + d < limit then readDigits limit (acc * 10 + d) rest
      else .error .tooLarge

/-- Reads a numeral: one `+` may stand in front, at least one digit follows. -/
def read (limit : Nat) : List Char → Except NumeralError Nat
  | [] => .error .empty
  | ['+'] => .error .invalidDigit
  | '+' :: rest => readDigits limit 0 rest
  | text => readDigits limit 0 text

/-- Reads an unsigned 64-bit number. -/
def read64 (text : List Char) : Except NumeralError UInt64 :=
  (read limit64 text).map UInt64.ofNat

/-- Reads a signed number of `bits` bits; a `+` or a `-` may stand in front. -/
def readSigned? (bits : Nat) (text : List Char) : Option Int :=
  match text with
  | '-' :: c :: rest =>
    match readDigits (1 <<< (bits - 1) + 1) 0 (c :: rest) with
    | .ok n => some (-(n : Int))
    | .error _ => none
  | _ =>
    match read (1 <<< (bits - 1)) text with
    | .ok n => some n
    | .error _ => none

theorem readDigits_lt {limit acc n : Nat} {s : List Char} (hacc : acc < limit)
    (h : readDigits limit acc s = .ok n) : n < limit := by
  induction s generalizing acc with
  | nil => simp only [readDigits, Except.ok.injEq] at h; omega
  | cons c r ih =>
    simp only [readDigits] at h
    split at h
    · cases h
    · split at h
      · exact ih ‹_› h
      · cases h

theorem read_lt {limit n : Nat} {s : List Char} (hl : 0 < limit)
    (h : read limit s = .ok n) : n < limit := by
  unfold read at h
  split at h
  · cases h
  · cases h
  · exact readDigits_lt hl h
  · exact readDigits_lt hl h

end Numeral

end BenchTracker
