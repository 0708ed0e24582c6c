import Gherkin.Text.Utf8

/-!
# Files

What a run needs of a file system is little: to know whether a path is a folder, to read a file, and
to list the names in a folder. `FileSystem` is just that, so a run can be reasoned about for any
files. `FileSystem.ofEntries` is the one that holds given files and nothing else.
-/

namespace Gherkin

/-- Why a path cannot be used. -/
inductive FileFault where
  | notFound
  | notDirectory
  | isDirectory
  | notUtf8
  deriving DecidableEq, Repr

/-- The text of the fault. -/
def FileFault.message : FileFault → Text
  | notFound => "No such file or directory (os error 2)".toList
  | notDirectory => "Not a directory (os error 20)".toList
  | isDirectory => "Is a directory (os error 21)".toList
  | notUtf8 => "stream did not contain valid UTF-8".toList

/-- The files that a run can reach. -/
structure FileSystem where
  isFolder : Text → Bool
  /-- The text of a file. -/
  read : Text → Except FileFault Text
  /-- The names in a folder, in any order; a file holds none. -/
  names : Text → Except FileFault (List Text)

/-- What stands at a path. -/
inductive FileContent where
  | file (bytes : List Nat)
  | folder
  deriving DecidableEq, Repr

/-- Files and folders by their paths, each the list of its steps. A path within another makes that
one a folder. -/
abbrev FileEntries := List (List Text × FileContent)

namespace FileEntries

/-- What stands at a path. -/
def content? (entries : FileEntries) (path : List Text) : Option FileContent :=
  match entries.find? fun e => e.1 = path with
  | some e => some e.2
  | none =>
    if path = [] ∨ entries.any (fun e => path.isPrefixOf e.1) then some .folder else none

/-- The names directly within a folder. -/
def namesIn (entries : FileEntries) (path : List Text) : List Text :=
  (entries.filterMap fun e =>
    if path.isPrefixOf e.1 then (e.1.drop path.length).head? else none).eraseDups

/-- Follows the steps of a path from a folder. An empty step and a dot stay, two dots go back, and
only a folder can be stepped in. -/
def follow (entries : FileEntries) : (here : List Text) → List Text → Except FileFault (List Text)
  | here, [] => .ok here
  | here, step :: rest =>
    if entries.content? here ≠ some .folder then .error .notDirectory
    else if step = [] ∨ step = ['.'] then follow entries here rest
    else if step = ['.', '.'] then follow entries here.dropLast rest
    else if (entries.content? (here ++ [step])).isSome then
      follow entries (here ++ [step]) rest
    else .error .notFound

/-- The steps of a path as written. -/
def steps (path : Text) : List Text := path.splitOn '/'

/-- What a path as written leads to. -/
def resolve (entries : FileEntries) (path : Text) : Except FileFault (List Text) :=
  if path = [] then .error .notFound else entries.follow [] (steps path)

end FileEntries

/-- The file system that holds the entries and nothing else. -/
def FileSystem.ofEntries (entries : FileEntries) : FileSystem where
  isFolder path :=
    match entries.resolve path with
    | .ok here => entries.content? here = some .folder
    | .error _ => false
  read path := do
    let here ← entries.resolve path
    match entries.content? here with
    | some (.file bytes) => (Utf8.decode bytes).mapError fun _ => .notUtf8
    | some .folder => .error .isDirectory
    | none => .error .notFound
  names path := do
    let here ← entries.resolve path
    return if entries.content? here = some .folder then entries.namesIn here else []

end Gherkin
