import BenchTracker.Decimal.Numeral
import BenchTracker.Text.Blank
import BenchTracker.Text.Fields

/-!
# Kernels

A kernel multiplies an `m × k` matrix with a `k × n` matrix. Its volume is the product of the three
dimensions, and the volume decides its size class.
-/

namespace BenchTracker

/-- The dimensions of a matrix product. -/
structure Kernel where
  m : UInt64
  n : UInt64
  k : UInt64
  deriving DecidableEq, Repr, Inhabited

namespace Kernel

/-- The product, or the greatest 64-bit number where the product exceeds it. -/
def saturatingMul (a b : Nat) : Nat := min (a * b) (Numeral.limit64 - 1)

/-- The product of the dimensions, saturating after each multiplication. -/
def volume (kernel : Kernel) : Nat :=
  saturatingMul (saturatingMul kernel.m.toNat kernel.n.toNat) kernel.k.toNat

/-- The dimensions with an `x` between them. -/
def text (kernel : Kernel) : String :=
  Numeral.text kernel.m.toNat ++ "x" ++ Numeral.text kernel.n.toNat ++ "x" ++
    Numeral.text kernel.k.toNat

def readDimension? (s : List Char) : Option UInt64 := (Numeral.read64 (Text.trim s)).toOption

/-- Reads three positive dimensions with an `x` between them. White space may stand around the text
and around each dimension. -/
def read? (s : String) : Option Kernel :=
  match (Text.fields 'x' (Text.trim s.toList)).mapM readDimension? with
  | some [m, n, k] => if 0 < m ∧ 0 < n ∧ 0 < k then some ⟨m, n, k⟩ else none
  | _ => none

end Kernel

/-- Kernels by volume. -/
inductive SizeClass where
  | small
  | medium
  | large
  deriving DecidableEq, Repr

namespace SizeClass

/-- The greatest volume of a small kernel. -/
def smallLimit : Nat := 13 * 13 * 13

/-- The greatest volume of a medium kernel. -/
def mediumLimit : Nat := 23 * 23 * 23

def ofVolume (volume : Nat) : SizeClass :=
  if volume ≤ smallLimit then .small
  else if volume ≤ mediumLimit then .medium
  else .large

def name : SizeClass → String
  | .small => "small"
  | .medium => "medium"
  | .large => "large"

end SizeClass

def Kernel.sizeClass (kernel : Kernel) : SizeClass := .ofVolume kernel.volume

end BenchTracker
