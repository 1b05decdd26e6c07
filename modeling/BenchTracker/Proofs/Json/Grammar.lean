import BenchTracker.Proofs.Json.Items

/-!
# What is a JSON text

The grammar of JSON, apart from any reader: strings with all their escapes, numbers, and brackets
with white space around the items. What stands for a character in a string is said here as well.
-/

namespace BenchTracker

namespace Json

open Reader (IsBlank Bracket hexDigit? shortEscape? isHighSurrogate isLowSurrogate pairValue)

/-! ## Strings -/

/-- A character that may stand for itself in a string. -/
structure IsPlain (c : Char) : Prop where
  ne_quote : c ≠ '"'
  ne_slash : c ≠ '\\'
  not_control : ¬ c < ' '

/-- Four digits in base sixteen for a code unit. -/
inductive IsCodeUnit : List Char → Nat → Prop where
  | digits {a b c d : Char} {i j k l : Nat} (ha : hexDigit? a = some i) (hb : hexDigit? b = some j)
      (hc : hexDigit? c = some k) (hd : hexDigit? d = some l) :
      IsCodeUnit [a, b, c, d] (((i * 16 + j) * 16 + k) * 16 + l)

/-- What may stand in a string for a character: the character, a letter behind a backslash, the code
unit of the character or the two surrogates of its code point. -/
inductive Spells : List Char → Char → Prop where
  | plain {c : Char} (h : IsPlain c) : Spells [c] c
  | short {c d : Char} (h : shortEscape? d = some c) : Spells ['\\', d] c
  | unit {c : Char} {ds : List Char} (h : IsCodeUnit ds c.toNat) : Spells ('\\' :: 'u' :: ds) c
  | pair {c : Char} {ds es : List Char} {high low : Nat} (hds : IsCodeUnit ds high)
      (hes : IsCodeUnit es low) (hhigh : isHighSurrogate high = true)
      (hlow : isLowSurrogate low = true) (hc : c.toNat = pairValue high low) :
      Spells ('\\' :: 'u' :: (ds ++ '\\' :: 'u' :: es)) c

/-- What may stand in a string, if nobody asks for its meaning: a surrogate need not be one of a
pair. -/
inductive IsPiece : List Char → Prop where
  | plain {c : Char} (h : IsPlain c) : IsPiece [c]
  | short {c d : Char} (h : shortEscape? d = some c) : IsPiece ['\\', d]
  | unit {ds : List Char} {n : Nat} (h : IsCodeUnit ds n) : IsPiece ('\\' :: 'u' :: ds)

def quoted (pieces : List (List Char)) : List Char := '"' :: (pieces.flatten ++ ['"'])

/-- The text is a string. -/
def IsString (text : List Char) : Prop :=
  ∃ pieces, (∀ p ∈ pieces, IsPiece p) ∧ text = quoted pieces

/-- The text is a string that stands for the given one. -/
def IsText (x : String) (text : List Char) : Prop :=
  ∃ pieces, List.Forall₂ Spells pieces x.toList ∧ text = quoted pieces

instance (c : Char) : Decidable (IsPlain c) :=
  decidable_of_iff (c ≠ '"' ∧ c ≠ '\\' ∧ ¬ c < ' ')
    ⟨fun ⟨hquote, hslash, hlt⟩ => ⟨hquote, hslash, hlt⟩,
      fun h => ⟨h.ne_quote, h.ne_slash, h.not_control⟩⟩

theorem flatten_singletons (s : List Char) : (s.map fun c => [c]).flatten = s := by
  rw [← List.flatMap_def, List.flatMap_singleton']

/-- A string without special characters may stand between quotes as it is. -/
theorem isText_plain {x : String} (h : (x.toList.all fun c => IsPlain c) = true) :
    IsText x ('"' :: (x.toList ++ ['"'])) := by
  refine ⟨x.toList.map fun c => [c], ?_, by rw [quoted, flatten_singletons]⟩
  rw [List.forall₂_map_left_iff, List.forall₂_same]
  exact fun c hc => .plain (of_decide_eq_true (List.all_eq_true.1 h c hc))

/-! ## Numbers -/

def IsDigits (s : List Char) : Prop := s ≠ [] ∧ ∀ c ∈ s, c.isDigit = true

/-- The digits in front of the point; a leading zero stands alone. -/
inductive IsWhole : List Char → Prop where
  | zero : IsWhole ['0']
  | digits {c : Char} {s : List Char} (hc : c ≠ '0') (h : IsDigits (c :: s)) : IsWhole (c :: s)

inductive IsFraction : List Char → Prop where
  | absent : IsFraction []
  | digits {s : List Char} (h : IsDigits s) : IsFraction ('.' :: s)

inductive IsExponent : List Char → Prop where
  | absent : IsExponent []
  | digits {c : Char} {sign s : List Char} (hc : c ∈ ['e', 'E']) (hsign : sign ∈ [[], ['+'], ['-']])
      (h : IsDigits s) : IsExponent (c :: (sign ++ s))

/-- The text is a number without its sign. -/
inductive IsUnsigned : List Char → Prop where
  | parts {whole fraction exponent : List Char} (hwhole : IsWhole whole)
      (hfraction : IsFraction fraction) (hexponent : IsExponent exponent) :
      IsUnsigned (whole ++ (fraction ++ exponent))

/-! ## Brackets -/

/-- A key, a colon and the text of a value, with white space around the colon. -/
inductive IsMember (key value : List Char) : List Char → Prop where
  | intro {g g' : List Char} (hg : IsBlank g) (hg' : IsBlank g') :
      IsMember key value (key ++ (g ++ ':' :: (g' ++ value)))

/-- An item between brackets has a value, in curly ones behind a key. -/
inductive IsItem : Bracket → List Char → List Char → Prop where
  | element {text : List Char} : IsItem .square text text
  | member {key value text : List Char} (hkey : IsString key) (h : IsMember key value text) :
      IsItem .curly value text

/-! ## Lists and objects of known values -/

/-- The text is a list with a text for each of the values. -/
inductive IsList {α : Type} (writes : α → List Char → Prop) (xs : List α) : List Char → Prop where
  | intro {texts : List (List Char)} {text : List Char} (hitems : List.Forall₂ writes xs texts)
      (h : Enclosed .square texts text) : IsList writes xs text

/-- The text is a member with the given key and the given text for its value. -/
inductive IsField (m : String × List Char) (text : List Char) : Prop where
  | intro {key : List Char} (hkey : IsText m.1 key) (h : IsMember key m.2 text)

/-- The text is an object with these keys and texts for their values, in this order. -/
inductive IsObject (ms : List (String × List Char)) : List Char → Prop where
  | intro {texts : List (List Char)} {text : List Char} (hitems : List.Forall₂ IsField ms texts)
      (h : Enclosed .curly texts text) : IsObject ms text

/-- The texts of the values that a key has. -/
def valuesOf (key : String) (ms : List (String × List Char)) : List (List Char) :=
  (ms.filter fun m => m.1 = key).map Prod.snd

/-! ## Values -/

/-- The text is a JSON value. -/
inductive IsValue : List Char → Prop where
  | null : IsValue ['n', 'u', 'l', 'l']
  | true : IsValue ['t', 'r', 'u', 'e']
  | false : IsValue ['f', 'a', 'l', 's', 'e']
  | natural {text : List Char} (h : IsUnsigned text) : IsValue text
  | negative {text : List Char} (h : IsUnsigned text) : IsValue ('-' :: text)
  | string {text : List Char} (h : IsString text) : IsValue text
  | between {b : Bracket} {values texts : List (List Char)} {text : List Char}
      (hvalues : ∀ v ∈ values, IsValue v) (hitems : List.Forall₂ (IsItem b) values texts)
      (h : Enclosed b texts text) : IsValue text

end Json

end BenchTracker
