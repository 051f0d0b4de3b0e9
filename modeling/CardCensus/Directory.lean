import CardCensus.Store.Write
import CardCensus.Text.Split

/-!
# The directory of a run

A `Directory` holds the files that a run may read or write, by path. A path is the list of its
parts; a file can only be made in the directory itself or in a folder of it that is there. Left out
are the files that the library which keeps the tables makes beside a store and takes away again, and
the empty file that it leaves where it then finds that there cannot be one beside it.

Results:
* `find?_put` and `find?_put_of_ne`: putting a file replaces it and touches no other.
-/

namespace CardCensus

/-- What a file holds. -/
inductive File where
  | text (s : String)
  | store (tables : Store.Tables)
  deriving DecidableEq, Inhabited

/-- The parts of a path, those that change nothing left out. -/
abbrev Path := List String

namespace Path

/-- What parts of a path are parted by. -/
def separator : Char := '/'

/-- The parts that stay where they are. -/
def idleParts : List String := ["", "."]

/-- The part that goes up. -/
def parentPart : String := ".."

/-- The first part of a path that does not start in the directory. -/
def root : String := "/"

/-- The parts of a text, with the root before them when it starts there. -/
def partsOf (text : String) : List String :=
  let parts := (Text.pieces (· == separator) text.toList).map String.ofList
  if parts.head? = some "" then root :: parts else parts

/-- The path that a text names as it stands, if it can be the path of a file. -/
def ofText? (text : String) : Option Path :=
  let parts := partsOf text
  match parts.getLast? with
  | none => none
  | some last =>
    if idleParts.contains last || last == parentPart then none
    else some (parts.filter fun part => !idleParts.contains part)

/-- The path with a further part taken up: going up leaves the last folder, if there is one to
    leave. -/
def takeUp (path : Path) (part : String) : Path :=
  if idleParts.contains part then path
  else if part != parentPart then path ++ [part]
  else match path.getLast? with
    | none => [parentPart]
    | some last =>
      if last == root then path else if last == parentPart then path ++ [parentPart]
      else path.dropLast

/-- How many bytes a part may have. -/
def greatestPart : Nat := 255

/-- What is added to the name of a store for the file beside it that a transaction is kept in. -/
def journalSuffix : String := "-journal"

/-- What is added to the name of a store for the files that may be beside it. -/
def besideSuffixes : List String := [journalSuffix, "-wal", "-shm"]

/-- How many bytes the name of a store may have, so that there can be a file beside it. -/
def greatestName : Nat := greatestPart - journalSuffix.utf8ByteSize

/-- The path of a store that a text names once going up has been carried out, if a store can be
    kept there. -/
def resolved? (text : String) : Option Path :=
  let path := (partsOf text).foldl takeUp []
  match path.getLast? with
  | none => none
  | some last =>
    if last == root || last == parentPart then none
    else if path.any (greatestPart < ·.utf8ByteSize) || greatestName < last.utf8ByteSize then none
    else if text.toList.contains '\x00' then none
    else some path

/-- The folder of a path. -/
def folder (path : Path) : Path := path.dropLast

end Path

/-- The files that a run may read or write, and the folders that are there. -/
structure Directory where
  files : List (Path × File) := []
  folders : List Path := []
  deriving Inhabited

namespace Directory

/-- The file with a path. -/
def find? (directory : Directory) (path : Path) : Option File :=
  (directory.files.find? (·.1 == path)).map (·.2)

/-- The directory with a file in the place of the one with its path. -/
def put (directory : Directory) (path : Path) (file : File) : Directory :=
  { directory with files := (path, file) :: directory.files.filter (·.1 != path) }

/-- A file with the path may be opened or made. -/
def admits (directory : Directory) (path : Path) : Bool :=
  !directory.folders.contains path &&
    (path.folder.isEmpty || directory.folders.contains path.folder)

/-- The text of the file that a text names. -/
def text? (directory : Directory) (name : String) : Option String := do
  match ← directory.find? (← Path.ofText? name) with
  | .text s => some s
  | .store _ => none

theorem find?_put (directory : Directory) (path : Path) (file : File) :
    (directory.put path file).find? path = some file := by
  simp [put, find?]

theorem find?_put_of_ne (directory : Directory) {path other : Path} (h : other ≠ path)
    (file : File) :
    (directory.put path file).find? other = directory.find? other := by
  have hp : (path == other) = false := by simpa using Ne.symm h
  have hf :
      (fun entry : Path × File => decide ((entry.1 != path) = true ∧ (entry.1 == other) = true)) =
      fun entry => entry.1 == other := by
    funext entry
    by_cases he : entry.1 = other <;> simp [he, h]
  simp only [put, find?, List.find?_cons, hp, List.find?_filter, hf]

end Directory

/-- Where a store lies. -/
inductive Location where
  /-- Nowhere: it is gone at the end of the run. -/
  | nowhere
  /-- In the file with the given path. -/
  | file (path : Path)
  deriving Repr, DecidableEq

namespace Location

/-- The names of stores that lie nowhere. -/
def nowhereNames : List String := ["", ":memory:"]

/-- What a name begins with that is a URI. -/
def uriScheme : String := "file:"

/-- The text of the path that a name stands for. Of the URIs, those that say more than a path are
    not taken: other hosts, ways to open a store, characters by their codes. -/
def pathText? (name : String) : Option String :=
  match uriScheme.toList.isPrefixOf? name.toList with
  | none => some name
  | some rest =>
    if rest.any ['?', '#', '%'].contains || "//".toList.isPrefixOf rest then none
    else some (String.ofList rest)

/-- Where the store with a name lies, if there can be one. -/
def ofName? (name : String) : Option Location := do
  let text ← pathText? name
  if nowhereNames.contains text then return nowhere
  (Path.resolved? text).map file

end Location

namespace Directory

/-- The store at a location, or nothing when it cannot be opened. A missing or empty file is a store
    without tables. -/
def openStore? (directory : Directory) : Location → Option Store
  | .nowhere => some { medium := .memory }
  | .file path =>
    if !directory.admits path then none
    else match directory.find? path with
      | none => some { medium := .file }
      | some (.text s) => if s.isEmpty then some { medium := .file } else none
      | some (.store tables) => some { medium := .file, tables := some tables }

/-- The directory after a store at a location has been closed. -/
def closeStore (directory : Directory) (location : Location) (store : Store) : Directory :=
  match location, store.tables with
  | .file path, some tables => directory.put path (.store tables)
  | _, _ => directory

end Directory

end CardCensus
