import BenchTracker.Kernel
import BenchTracker.Log.Scan

/-!
# Measurements in logs

A benchmark prints the kernel it is invoked with and, later, the throughput it measured. The two
are scanned apart and belong together by their positions in the log.
-/

namespace BenchTracker

namespace Log

open Scan

/-- A number of an invocation. -/
def number? (s : List Char) : Option (List Char × List Char) := run? isDigit s

/-- An invocation, such as `acc_bench_smm 5 30000 23 23 23 0 0`: the digits of its dimensions. -/
def invocation? (s : List Char) :
    Option ((List Char × List Char × List Char) × List Char) := do
  let s ← after? "acc_bench_smm ".toList s
  let (_, s) ← number? s
  let (_, s) ← number? (← after? [' '] s)
  let (m, s) ← number? (← after? [' '] s)
  let (n, s) ← number? (← after? [' '] s)
  let (k, s) ← number? (← after? [' '] s)
  let (_, s) ← number? (← after? [' '] s)
  let (_, s) ← number? (← after? [' '] s)
  some ((m, n, k), s)

/-- The kernel of an invocation, if its dimensions are 64-bit numbers. -/
def kernel? (dims : List Char × List Char × List Char) : Option Kernel := do
  let (m, n, k) := dims
  some ⟨← (Numeral.read64 m).toOption, ← (Numeral.read64 n).toOption,
    ← (Numeral.read64 k).toOption⟩

/-- The kernels that a log invokes, in order. -/
def kernels (log : List Char) : List Kernel := (all invocation? log).filterMap kernel?

/-- A throughput behind a time: white space, the value and its unit on one line. -/
def throughput? (s : List Char) : Option (List Char × List Char) :=
  afterRun? Text.isBlank (afterPiece? (after? " GFLOPS/s".toList)) s

/-- A timing, such as `device: 0.0123 ms   42.0 GFLOPS/s`: the text of its value. -/
def timing? (s : List Char) : Option (List Char × List Char) := do
  let s ← after? "device: ".toList s
  let (_, x) ← afterPiece? (fun s => (after? " ms".toList s).bind throughput?) s
  some x

/-- The texts of the throughputs in a log, in order. -/
def throughputs (log : List Char) : List (List Char) := all timing? log

/-- Puts line breaks in place of escaped ones. -/
def unescape : List Char → List Char
  | '\\' :: 'n' :: s => '\n' :: unescape s
  | c :: s => c :: unescape s
  | [] => []

end Log

end BenchTracker
