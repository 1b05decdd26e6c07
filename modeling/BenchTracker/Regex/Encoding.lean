import BenchTracker.Regex.CharSet

/-!
# Sets of characters as sets of byte sequences

A set of code points is a union of rows of byte ranges: a character belongs to the set if the bytes
that encode it lie in the ranges of one row. The number of states that an automaton over bytes
needs for a set is counted on these rows.
-/

namespace BenchTracker

namespace Regex

namespace Encoding

/-- A closed range of bytes. -/
abbrev ByteRange := Nat × Nat

/-- A range for each byte of an encoding. -/
abbrev Row := List ByteRange

/-- The bytes that encode a code point. -/
def bytes (n : Nat) : List Nat :=
  if n < 0x80 then [n]
  else if n < 0x800 then [0xC0 + n / 0x40, 0x80 + n % 0x40]
  else if n < 0x10000 then [0xE0 + n / 0x1000, 0x80 + n / 0x40 % 0x40, 0x80 + n % 0x40]
  else [0xF0 + n / 0x40000, 0x80 + n / 0x1000 % 0x40, 0x80 + n / 0x40 % 0x40, 0x80 + n % 0x40]

/-- Where a range has to be cut so that its front part ends with a full block of `2 ^ (6 * i)`. -/
def cutAtBlock? (first last : Nat) (i : Nat) : Option Nat :=
  let block := 1 <<< (6 * i)
  if first / block = last / block then none
  else if first % block ≠ 0 then some (first - first % block + block - 1)
  else if last % block ≠ block - 1 then some (last - last % block - 1)
  else none

/-- The last code point of the front part, where a range is no single row: where encodings grow
longer, and where only a part of a block is in the range. -/
def cut? (first last : Nat) : Option Nat :=
  match [0x7F, 0x7FF, 0xFFFF].find? fun b => first ≤ b && b < last with
  | some b => some b
  | none => if last < 0x80 then none else [1, 2, 3].findSome? (cutAtBlock? first last)

/-- The rows of a range without surrogates. The number of cuts is bounded. -/
def rowsFrom : Nat → Nat → Nat → List Row
  | 0, _, _ => []
  | fuel + 1, first, last =>
    if last < first then []
    else
      match cut? first last with
      | some b => rowsFrom fuel first b ++ rowsFrom fuel (b + 1) last
      | none => [(bytes first).zip (bytes last)]

def rows (s : CharSet) : List Row :=
  s.flatMap fun (first, last) =>
    rowsFrom 32 first (min last 0xD7FF) ++ rowsFrom 32 (max first 0xE000) last

/-- A state of an automaton: ranges with the states behind them, given by their numbers. -/
abbrev State := List (ByteRange × Nat)

/-- Rows with the same first range together: that range and what follows it. -/
def groupRows : List Row → List (ByteRange × List Row)
  | [] => []
  | [] :: rest => groupRows rest
  | (r :: row) :: rest =>
    match groupRows rest with
    | (r', rows) :: groups =>
      if r = r' then (r, row :: rows) :: groups else (r, [row]) :: (r', rows) :: groups
    | [] => [(r, [row])]

/-- The number of the state for some rows, after the states that it needs have been added to those
already there. Equal states are shared, and the number zero is the end. -/
def addState : Nat → List Row → List State → Nat × List State
  | 0, _, states => (0, states)
  | depth + 1, rows, states =>
    match groupRows rows with
    | [] => (0, states)
    | groups =>
      let step := fun (acc : State × List State) (g : ByteRange × List Row) =>
        let (n, states) := addState depth g.2 acc.2
        (acc.1 ++ [(g.1, n)], states)
      let (state, states) := groups.foldl step ([], states)
      match states.idxOf? state with
      | some i => (states.length - i, states)
      | none => (states.length + 1, state :: states)

/-- The states that read the rows forwards. -/
def states (rows : List Row) : List State := (addState 5 rows []).2

def commonLength : Row → Row → Nat
  | r :: rs, s :: ss => if r = s then commonLength rs ss + 1 else 0
  | _, _ => 0

/-- The number of beginnings of rows: each row shares some with the row before it. -/
def beginnings : Row → List Row → Nat
  | _, [] => 0
  | previous, row :: rest => row.length - commonLength previous row + beginnings row rest

end Encoding

end Regex

end BenchTracker
