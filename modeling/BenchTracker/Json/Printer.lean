import BenchTracker.Decimal.Shortest

/-!
# Writing JSON texts

Values and their two written forms: one without any white space, and one with a line for each item.
Both write the same tokens. A double that is not finite is written as `null`.
-/

namespace BenchTracker

/-- A JSON value. The fields of an object are written as they stand. -/
inductive Json where
  | null
  | bool (b : Bool)
  | real (x : Float)
  | integer (n : Int)
  | text (s : String)
  | list (items : List Json)
  | object (fields : List (String × Json))
  deriving Inhabited

namespace Json

/-- Doubles are positional from `10 ^ -5` up to `10 ^ 16`, keep `.0`, and otherwise have an exponent
with its sign. -/
def numberStyle : NumberStyle := ⟨some (-5, 16), true, true⟩

def writeReal (x : Float) : List Char :=
  if Double.isFinite x then numberStyle.write x else ['n', 'u', 'l', 'l']

def writeBool (b : Bool) : List Char :=
  if b then ['t', 'r', 'u', 'e'] else ['f', 'a', 'l', 's', 'e']

def lowerHexDigit (n : Nat) : Char := Nat.digitChar n

/-- A character as it stands in a string. -/
def writeChar (c : Char) : List Char :=
  if c = '"' then ['\\', '"']
  else if c = '\\' then ['\\', '\\']
  else if c = '\x08' then ['\\', 'b']
  else if c = '\x0c' then ['\\', 'f']
  else if c = '\n' then ['\\', 'n']
  else if c = '\r' then ['\\', 'r']
  else if c = '\t' then ['\\', 't']
  else if c < ' ' then
    ['\\', 'u', '0', '0', lowerHexDigit (c.toNat / 16), lowerHexDigit (c.toNat % 16)]
  else [c]

def writeText (s : String) : List Char := '"' :: s.toList.flatMap writeChar ++ ['"']

/-- Pieces with a separator between them. -/
def separated (separator : List Char) : List (List Char) → List Char
  | [] => []
  | [x] => x
  | x :: rest => x ++ separator ++ separated separator rest

/-- White space around the items of a list or an object. -/
structure Layout where
  /-- What stands in front of an item or a closing bracket at a depth. -/
  lineStart : Nat → List Char
  /-- What stands behind the colon of a field. -/
  gap : List Char

/-- No white space at all. -/
def Layout.compact : Layout := ⟨fun _ => [], []⟩

/-- Every item on a line of its own, two spaces further in than the brackets around it. -/
def Layout.pretty : Layout := ⟨fun depth => '\n' :: List.replicate (2 * depth) ' ', [' ']⟩

/-- Brackets around items at a depth; without items they stand together. -/
def Layout.bracketed (layout : Layout) (depth : Nat) (opening closing : Char)
    (items : List (List Char)) : List Char :=
  if items = [] then [opening, closing]
  else
    opening :: (layout.lineStart (depth + 1) ++
      separated (',' :: layout.lineStart (depth + 1)) items ++
      (layout.lineStart depth ++ [closing]))

mutual

/-- The text of a value that stands at a depth. -/
def write (layout : Layout) (depth : Nat) : Json → List Char
  | null => ['n', 'u', 'l', 'l']
  | bool b => writeBool b
  | real x => writeReal x
  | integer n => Numeral.signedDigits n
  | text s => writeText s
  | list items => layout.bracketed depth '[' ']' (writeItems layout (depth + 1) items)
  | object fields => layout.bracketed depth '\x7b' '\x7d' (writeFields layout (depth + 1) fields)

def writeItems (layout : Layout) (depth : Nat) : List Json → List (List Char)
  | [] => []
  | x :: rest => write layout depth x :: writeItems layout depth rest

def writeFields (layout : Layout) (depth : Nat) : List (String × Json) → List (List Char)
  | [] => []
  | (k, x) :: rest =>
    (writeText k ++ ':' :: (layout.gap ++ write layout depth x)) :: writeFields layout depth rest

end

/-- The text without white space. -/
def compact (x : Json) : String := String.ofList (write .compact 0 x)

/-- The text with a line for each item. -/
def pretty (x : Json) : String := String.ofList (write .pretty 0 x)

end Json

end BenchTracker
