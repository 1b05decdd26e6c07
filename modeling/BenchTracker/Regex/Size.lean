import BenchTracker.Regex.Basic
import BenchTracker.Regex.Encoding

/-!
# Sizes of programs

A pattern is compiled to two automata over bytes, one that reads a text forwards and one that reads
it backwards. Patterns whose automata take too much memory are refused, so their sizes are counted
here: every state, transition and alternative has its size, and a counted repetition is written out.
-/

namespace BenchTracker

namespace Regex

namespace Size

def state : Nat := 32

def transition : Nat := 8

def alternative : Nat := 4

/-- The size of a choice between two ways. -/
def choice : Nat := state + 2 * alternative

/-- The size of an automaton for one character of a set. -/
def ofSet (backwards : Bool) (s : CharSet) : Nat :=
  match s with
  | [] => state
  | [(first, last)] =>
    if first = last then state * (Encoding.bytes first).length
    else general s
  | _ => general s
where
  general (s : CharSet) : Nat :=
    if s.isAscii then 2 * state + transition * s.length
    else
      let rows := Encoding.rows s
      if backwards then
        2 * state + alternative * rows.length + state * Encoding.beginnings [] rows
      else
        ((Encoding.states rows).map fun st => state + transition * st.length).foldr (· + ·) state

/-- Whether an expression can match without taking a character. -/
def canTakeNothing : Regex → Bool
  | .empty => true
  | .chars _ => false
  | .look _ => true
  | .seq a b => canTakeNothing a && canTakeNothing b
  | .alt a b => canTakeNothing a || canTakeNothing b
  | .repeated a least _ => least = 0 || canTakeNothing a
  | .group a => canTakeNothing a

/-- The size of a repetition of an expression of the given size. -/
def repeated (size : Nat) (nullable : Bool) (least : Nat) : Option Nat → Nat
  | none =>
    if least = 0 then if nullable then size + 2 * choice + state else size + choice
    else least * size + choice
  | some most =>
    (if least = 0 ∧ 1 < most then state else least * size) +
      (if least < most then (most - least) * (size + choice) + state else 0)

/-- The set of an expression that is a choice between single characters. -/
def setOfChoice? : Regex → Option CharSet
  | .chars s => some s
  | .alt a b => do return (← setOfChoice? a).union (← setOfChoice? b)
  | _ => none

/-- The size of the automaton for an expression. -/
def ofRegex (backwards : Bool) : Regex → Nat
  | .empty => state
  | .chars s => ofSet backwards s
  | .look _ => state
  | .seq a b => part a (ofRegex backwards a) + part b (ofRegex backwards b)
  | .alt a b =>
    match setOfChoice? (.alt a b) with
    | some s => ofSet backwards s
    | none => ofRegex backwards a + alternative + (match b with
        | .alt _ _ => ofRegex backwards b
        | .chars [] => 2 * state
        | _ => ofRegex backwards b + alternative + 2 * state)
  | .repeated a least most => repeated (ofRegex backwards a) (canTakeNothing a) least most
  | .group a => ofRegex backwards a + (if backwards then 0 else 2 * state)
where
  /-- An empty part of a sequence needs no state. -/
  part (r : Regex) (size : Nat) : Nat :=
    match r with
    | .empty => 0
    | _ => size

/-- What every automaton has besides: the loop in front of a match and its end. -/
def frame : Nat := choice + 2 * state

/-- The greatest size of an automaton. -/
def limit : Nat := 10 <<< 20

/-- Whether both automata for an expression are small enough. -/
def fits (r : Regex) : Bool :=
  ofRegex false r + frame + 2 * state ≤ limit && ofRegex true r + frame ≤ limit

end Size

end Regex

end BenchTracker
