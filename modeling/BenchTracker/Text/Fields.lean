/-!
# Fields of a text

A separator divides a text into fields: one more of them than there are separators.
-/

namespace BenchTracker

namespace Text

/-- The pieces between the separators, empty ones included. -/
def fields (separator : Char) : List Char → List (List Char)
  | [] => [[]]
  | c :: rest =>
    match fields separator rest with
    | [] => [[c]]
    | f :: fs => if c = separator then [] :: f :: fs else (c :: f) :: fs

/-- The text in front of the first separator and the text behind it. -/
def splitFirst? (separator : Char) : List Char → Option (List Char × List Char)
  | [] => none
  | c :: rest =>
    if c = separator then some ([], rest)
    else (splitFirst? separator rest).map fun (front, back) => (c :: front, back)

theorem fields_ne_nil (separator : Char) (s : List Char) : fields separator s ≠ [] := by
  cases s with
  | nil => simp [fields]
  | cons c r =>
    rw [fields]
    split
    · simp
    · split <;> simp

end Text

end BenchTracker
