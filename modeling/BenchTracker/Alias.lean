import BenchTracker.Regex.Parser
import BenchTracker.Regex.Size
import BenchTracker.Regex.Meaning

/-!
# Device aliases

The hosts and devices that logs name are mapped to canonical names. A group of the table has the
canonical name first, and all its texts are patterns, the canonical name included.
-/

namespace BenchTracker

/-- What a text of a group matches, letters of either case alike. -/
structure AliasPattern where
  regex : Regex
  deriving Repr, Inhabited

namespace AliasPattern

/-- The expression of a pattern. -/
def expression? (s : List Char) : Option Regex := do
  let p ← Regex.Pattern.read? s
  let (r, _) ← p.meaning Regex.Flags.initial
  return r

/-- The expression of a text that is a pattern, unless its program grows too large. -/
def compile? (s : List Char) : Option Regex := (expression? s).filter Regex.Size.fits

/-- The text with a backslash in front of each character that means something by itself. -/
def escaped (s : List Char) : List Char :=
  s.flatMap fun c => if Regex.Parser.isMeta c then ['\\', c] else [c]

/-- The pattern of a text. A text that is no pattern is escaped, so that it stands for itself; there
is no limit to the size of its program then. -/
def ofText (s : String) : AliasPattern :=
  ⟨((compile? s.toList).or (expression? (escaped s.toList))).getD .empty⟩

/-- Whether the pattern matches somewhere in the text. -/
def isMatch (p : AliasPattern) (raw : List Char) : Bool := p.regex.isMatch raw

end AliasPattern

/-- The patterns that stand for one device. -/
structure AliasGroup where
  canonical : String
  patterns : List AliasPattern
  deriving Repr, Inhabited

namespace AliasGroup

/-- The group of a list of texts, of which the first is the canonical name. -/
def ofTexts? : List String → Option AliasGroup
  | [] => none
  | name :: rest => some ⟨name, (name :: rest).map AliasPattern.ofText⟩

def isMatch (g : AliasGroup) (raw : List Char) : Bool := g.patterns.any (·.isMatch raw)

end AliasGroup

/-- The groups in order; of several groups that match, the last one counts. -/
structure AliasTable where
  groups : List AliasGroup
  deriving Repr, Inhabited

namespace AliasTable

/-- The table of lists of texts; empty lists are ignored. -/
def ofTexts (groups : List (List String)) : AliasTable := ⟨groups.filterMap AliasGroup.ofTexts?⟩

def canonicalNames (t : AliasTable) : List String := t.groups.map (·.canonical)

/-- The canonical name of the last group that matches. -/
def resolve? (t : AliasTable) (raw : List Char) : Option String :=
  (t.groups.reverse.find? (·.isMatch raw)).map (·.canonical)

end AliasTable

end BenchTracker
