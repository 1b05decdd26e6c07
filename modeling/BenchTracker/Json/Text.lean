import BenchTracker.Json.Reader

/-!
# Strings in JSON texts

A string ends at the next plain quote. Control characters are not allowed in it, and a backslash
starts an escape. Code points beyond the 16-bit range are escaped as a pair of surrogates; half a
pair is malformed in a string that is kept.
-/

namespace BenchTracker

namespace Json

namespace Reader

/-- The digit that a character is in base sixteen. -/
def hexDigit? (c : Char) : Option Nat :=
  if '0' ≤ c ∧ c ≤ '9' then some (c.toNat - '0'.toNat)
  else if 'a' ≤ c ∧ c ≤ 'f' then some (c.toNat - 'a'.toNat + 10)
  else if 'A' ≤ c ∧ c ≤ 'F' then some (c.toNat - 'A'.toNat + 10)
  else none

def utf8Size (s : List Char) : Nat := (s.map Char.utf8Size).foldr (· + ·) 0

/-- Reads the four digits of an escaped code unit. The text has ended too early if less than four
bytes are left of it. -/
def codeUnit : Reader Nat := fun s =>
  match (s.take 4).mapM hexDigit? with
  | some [a, b, c, d] => .ok (((a * 16 + b) * 16 + c) * 16 + d, s.drop 4)
  | _ => .error (if utf8Size s < 4 then .truncated else .malformed)

def isHighSurrogate (n : Nat) : Bool := 0xD800 ≤ n && n < 0xDC00

def isLowSurrogate (n : Nat) : Bool := 0xDC00 ≤ n && n < 0xE000

/-- The code point of a pair of surrogates. -/
def pairValue (high low : Nat) : Nat := (high - 0xD800) * 0x400 + (low - 0xDC00) + 0x10000

/-- Reads the rest of an escape with code units. -/
def codePoint : Reader Char := fun s => do
  let (n, r) ← codeUnit s
  if isLowSurrogate n then .error .malformed
  else if isHighSurrogate n then
    let (_, r) ← word ['\\', 'u'] r
    let (low, r) ← codeUnit r
    if isLowSurrogate low then .ok (Char.ofNat (pairValue n low), r) else .error .malformed
  else .ok (Char.ofNat n, r)

/-- The characters that a backslash and one letter stand for. -/
def shortEscape? (c : Char) : Option Char :=
  if c = '"' then some '"'
  else if c = '\\' then some '\\'
  else if c = '/' then some '/'
  else if c = 'b' then some '\x08'
  else if c = 'f' then some '\x0c'
  else if c = 'n' then some '\n'
  else if c = 'r' then some '\r'
  else if c = 't' then some '\t'
  else none

/-- Reads what follows a backslash. -/
def escape : Reader Char := fun s =>
  match s with
  | [] => .error .truncated
  | c :: r =>
    if c = 'u' then codePoint r
    else match shortEscape? c with
      | some d => .ok (d, r)
      | none => .error .malformed

/-- Reads a string behind its first quote, each escape by the given reader. -/
def textFrom {α : Type} (escaped : Reader α) (plain : Char → α) : Nat → Reader (List α)
  | 0, _ => .error .truncated
  | _ + 1, [] => .error .truncated
  | fuel + 1, c :: r =>
    if c = '"' then .ok ([], r)
    else if c = '\\' then do
      let (x, r) ← escaped r
      let (xs, r) ← textFrom escaped plain fuel r
      .ok (x :: xs, r)
    else if c < ' ' then .error .malformed
    else do
      let (xs, r) ← textFrom escaped plain fuel r
      .ok (plain c :: xs, r)

/-- Reads a string behind its first quote. -/
def textTail : Reader String := fun s => do
  let (cs, r) ← textFrom escape id (s.length + 1) s
  .ok (String.ofList cs, r)

/-- Skips what follows a backslash; any code unit will do. -/
def skipEscape : Reader Unit := fun s =>
  match s with
  | [] => .error .truncated
  | c :: r =>
    if c = 'u' then (codeUnit r).map fun (_, r) => ((), r)
    else if (shortEscape? c).isSome then .ok ((), r)
    else .error .malformed

/-- Skips a string behind its first quote. -/
def skipTextTail : Reader Unit := fun s => do
  let (_, r) ← textFrom skipEscape (fun _ => ()) (s.length + 1) s
  .ok ((), r)

end Reader

end Json

end BenchTracker
