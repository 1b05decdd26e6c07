import BenchTracker.Regex.CharSet
import BenchTracker.Regex.Pattern
import BenchTracker.Unicode.Property
import BenchTracker.Unicode.Script

/-!
# Properties in patterns

The sets of characters that property names stand for. Case, separators and a leading `is` make no
difference in a name. A name alone is that of a property, a category or a script, in this order.
-/

namespace BenchTracker

namespace Regex

/-- A name without what makes no difference. The abbreviation `isc` is not taken for `c`. -/
def plainName (name : List Char) : String :=
  let plain := fun (s : List Char) =>
    (s.filter fun c => c.toNat < 128 ∧ c ∉ [' ', '_', '-']).map Char.toLower
  match name with
  | i :: s :: rest =>
    if i.toLower = 'i' ∧ s.toLower = 's' then
      if plain rest = ['c'] then "isc" else String.ofList (plain rest)
    else String.ofList (plain name)
  | _ => String.ofList (plain name)

namespace PropertyName

/-- The characters of a property, a category or a script. -/
def plainSet? (name : String) : Option CharSet :=
  (Unicode.property? name).or ((Unicode.Category.named? name).or (Unicode.Script.named? name))

/-- The characters for which a property has a value. -/
def valueSet? (name value : String) : Option CharSet :=
  match name with
  | "generalcategory" | "gc" => Unicode.Category.named? value
  | "script" | "sc" => Unicode.Script.named? value
  | "scriptextensions" | "scx" => Unicode.Script.extended? value
  | _ => none

/-- The characters with a property, if there is a property of that name. -/
def set? (name : PropertyName) : Option CharSet :=
  match name.value with
  | none => plainSet? (plainName name.name)
  | some value => valueSet? (plainName name.name) (plainName value)

end PropertyName

end Regex

end BenchTracker
