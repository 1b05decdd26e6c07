import BenchTracker.Text.Fields

/-!
# Directories

A tree of folders and text files, the operations on it, and how they fail. Paths have their names
separated by slashes; those that do not begin with one start from the current folder.
-/

namespace BenchTracker

/-- Why an operation on a path fails. -/
inductive FileFault where
  | notFound
  | exists
  | notFolder
  | isFolder
  | nameTooLong
  deriving DecidableEq, Repr, Inhabited

def FileFault.message : FileFault → String
  | .notFound => "No such file or directory (os error 2)"
  | .exists => "File exists (os error 17)"
  | .notFolder => "Not a directory (os error 20)"
  | .isFolder => "Is a directory (os error 21)"
  | .nameTooLong => "File name too long (os error 36)"

/-- What stands at a place of the tree. Files hold UTF-8 text: one with other bytes, which cannot be
read as text, is not represented. -/
inductive Entry where
  | file (text : String)
  | folder
  deriving DecidableEq, Repr, Inhabited

/-- The names on the way from the root to a place, the last one first. -/
abbrev Place := List String

namespace Path

/-- The names of a path; empty names and single dots do not count. -/
def names (path : String) : List String :=
  ((Text.fields '/' path.toList).map String.ofList).filter fun name => name ≠ "" ∧ name ≠ "."

def isAbsolute (path : String) : Bool := path.toList.head? = some '/'

/-- Whether a path ends in a dot by itself; slashes may stand behind it. -/
def endsInDot (path : String) : Bool :=
  ((Text.fields '/' path.toList).filter (· ≠ [])).getLast? = some ['.']

/-- The path without its last name. -/
def parent (path : String) : String :=
  (if isAbsolute path then "/" else "") ++
    String.ofList (['/'].intercalate ((names path).dropLast.map String.toList))

/-- The path of a name below a folder. -/
def join (folder name : String) : String :=
  if folder = "" ∨ isAbsolute name then name
  else if folder.toList.getLast? = some '/' then folder ++ name
  else folder ++ "/" ++ name

/-- The text of a place. -/
def ofPlace (place : Place) : String := "/".intercalate place.reverse

end Path

/-- What stands at the places of a tree, and the folder that relative paths start from. -/
structure Directory where
  entries : List (Place × Entry)
  current : Place
  deriving DecidableEq, Repr

namespace Directory

/-- An empty tree, where paths start from the root. -/
def empty : Directory := ⟨[], []⟩

instance : Inhabited Directory := ⟨empty⟩

/-- The greatest length of a name in bytes. -/
def nameLimit : Nat := 255

def at? (d : Directory) (place : Place) : Option Entry :=
  if place = [] then some .folder else d.entries.lookup place

def remove (d : Directory) (place : Place) : Directory :=
  { d with entries := d.entries.filter (·.1 ≠ place) }

def set (d : Directory) (place : Place) (entry : Entry) : Directory :=
  { d with entries := (place, entry) :: (d.remove place).entries }

/-- The place that a path starts from. -/
def start (d : Directory) (path : String) : Place := if Path.isAbsolute path then [] else d.current

/-- Walks to a place, where nothing need stand; all on the way to it must be folders. -/
def walk (d : Directory) : Place → List String → Except FileFault Place
  | place, [] => .ok place
  | place, name :: rest =>
    match d.at? place with
    | none => .error .notFound
    | some (.file _) => .error .notFolder
    | some .folder =>
      if name = ".." then d.walk place.tail rest
      else if nameLimit < name.utf8ByteSize then .error .nameTooLong
      else d.walk (name :: place) rest

/-- The place of a path. No place has the empty path. -/
def locate (d : Directory) (path : String) : Except FileFault Place :=
  if path = "" then .error .notFound else d.walk (d.start path) (Path.names path)

/-- The text of a file. -/
def read (d : Directory) (path : String) : Except FileFault String := do
  let place ← d.locate path
  match d.at? place with
  | none => .error .notFound
  | some .folder => .error .isFolder
  | some (.file text) => .ok text

/-- Whether anything stands at the path. -/
def has (d : Directory) (path : String) : Bool :=
  match d.locate path with
  | .ok place => (d.at? place).isSome
  | .error _ => false

/-- Writes a file, new or in place of the one there. -/
def write (d : Directory) (path text : String) : Except FileFault Directory := do
  let place ← d.locate path
  match d.at? place with
  | some .folder => .error .isFolder
  | _ => .ok (d.set place (.file text))

/-- Makes the folders along the names that are not there yet. -/
def makeFoldersFrom (d : Directory) : Place → List String → Directory × Option FileFault
  | _, [] => (d, none)
  | place, name :: rest =>
    if name = ".." then d.makeFoldersFrom place.tail rest
    else if nameLimit < name.utf8ByteSize then (d, some .nameTooLong)
    else
      match d.at? (name :: place) with
      | some (.file _) => (d, some (if rest = [] then .exists else .notFolder))
      | some .folder => d.makeFoldersFrom (name :: place) rest
      | none => (d.set (name :: place) .folder).makeFoldersFrom (name :: place) rest

/-- Makes a folder and the folders around it. Those that were made stay if it fails. -/
def makeFolders (d : Directory) (path : String) : Directory × Option FileFault :=
  d.makeFoldersFrom (d.start path) (Path.names path)

/-- Gives a file another path, in place of the file that may be there. -/
def rename (d : Directory) (source target : String) : Except FileFault Directory := do
  let source ← d.locate source
  let target ← d.locate target
  match d.at? source, d.at? target with
  | none, _ => .error .notFound
  | some (.file _), some .folder => .error .isFolder
  | some .folder, _ => .error .notFolder
  | some (.file text), _ => .ok ((d.remove source).set target (.file text))

/-- One operation that changes a tree. -/
inductive Step where
  | makeFolders (path : String)
  | write (path text : String)
  | rename (source target : String)
  deriving DecidableEq, Repr

/-- Performs one step: the tree then, and why it failed. -/
def perform (d : Directory) : Step → Directory × Option FileFault
  | .makeFolders path => d.makeFolders path
  | .write path text => settle d (d.write path text)
  | .rename source target => settle d (d.rename source target)
where
  settle (d : Directory) : Except FileFault Directory → Directory × Option FileFault
    | .ok d => (d, none)
    | .error fault => (d, some fault)

/-- Performs steps up to the first that fails: the tree then, and why it failed. -/
def performAll (d : Directory) : List Step → Directory × Option FileFault
  | [] => (d, none)
  | step :: rest =>
    match d.perform step with
    | (d, none) => d.performAll rest
    | (d, some fault) => (d, some fault)

/-- What stands below the current folder, by path. -/
def toList (d : Directory) : List (String × Entry) :=
  d.entries.filterMap fun (place, entry) =>
    if d.current <:+ place ∧ place ≠ d.current then
      some (Path.ofPlace (place.take (place.length - d.current.length)), entry)
    else none

end Directory

end BenchTracker
