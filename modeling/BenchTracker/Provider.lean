import BenchTracker.Build
import BenchTracker.Failure

/-!
# Providers

A provider lists builds page by page, the latest first, and hands out the logs of their jobs.
-/

namespace BenchTracker

/-- A source of builds and logs. The first page has the number one, and a page without builds is
the last one. -/
structure Provider where
  page : Nat → Except Failure (List Build)
  log : String → Except Failure String

namespace Provider

/-- A provider that cannot be reached. -/
def unreachable : Provider := ⟨fun _ => .error .unreachable, fun _ => .error .unreachable⟩

/-- How many builds a page has at most. -/
def pageSize : Nat := 100

/-- The address without slashes at its end. -/
def endpoint (url : String) : String :=
  String.ofList (url.toList.reverse.dropWhile (· == '/')).reverse

/-- The address of a page. The query that the endpoint has already is kept. -/
def pageUrl (url : String) (page : Nat) : String :=
  endpoint url ++ (if '?' ∈ (endpoint url).toList then "&" else "?") ++
    "per_page=" ++ Numeral.text pageSize ++ "&page=" ++ Numeral.text page

end Provider

end BenchTracker
