import SchemaBinding.Keyed
import SchemaBinding.CommandLine.Location
import SchemaBinding.Schema.Loading

/-!
# Machines

Source: `SPEC_FULL.md`, 6 and 10.5; `xsd/import` (`fetch`, `read_file`) and
`generator/main` (`write`), with the rules of paths and files.

A machine has files in folders, all of them below a root, and may fetch documents
over a network. A path leads from the root or from the working folder, name by
name; a point stands for the folder that has been reached, and two points for
the one above it, where the root is above itself. Which addresses there are,
where links lead, and how it ends to make a folder or to write a file is up to
the machine: nothing is said about why it refuses to. A folder that is there can
be entered.
-/

namespace SchemaBinding.CommandLine

/-- Where a file or folder is: the names that lead there from the root. -/
abbrev Place := List String

/-- What is below a folder: the files by their places, with none for what cannot be read as a text,
and the places of folders. -/
structure Folder where
  files : Keyed Place (Option String)
  folders : List Place

namespace Folder

/-- Whether a path begins at the root. -/
def isAbsolute (path : String) : Bool := path.toList.head? == some '/'

/-- The names of a path. -/
def names (path : String) : List String := (path.toList.splitOn '/').map String.ofList

/-- Whether there is a folder at a place: the root, one of the folders, or one that holds a file. -/
def isFolder (folder : Folder) (place : Place) : Bool :=
  place.isEmpty || folder.folders.contains place ||
    folder.files.any fun file => place.isPrefixOf file.1 && place != file.1

/-- The texts of the files. -/
def texts (folder : Folder) : List String := folder.files.filterMap Prod.snd

end Folder

/-- How it ends to write a file. -/
inductive Attempt where
  /-- The file has all of its text. -/
  | whole
  /-- The file is as it was. -/
  | refused
  /-- The file has been created or emptied, and has no more than a part of its text. -/
  | part
  deriving DecidableEq, Repr

/-- A machine on which the command line runs. -/
structure Machine where
  /-- What is below the root. -/
  root : Folder
  /-- Where links lead in the end, by their places. -/
  links : Keyed Place Place
  /-- The place of the working folder. -/
  current : Place
  /-- Which locations are addresses, and of what kind. -/
  locate : String → Location
  /-- The texts of the documents on the network, by their addresses. All other requests fail. -/
  network : Keyed String String
  /-- Whether a folder can be made at a place where there is nothing. -/
  makes : Place → Bool
  /-- How it ends to write a file at a place where there is no folder. -/
  writes : Place → Attempt

namespace Machine

open Folder

/-- Where the way goes on from a place: where the link leads that is there, or the place itself. -/
def target (machine : Machine) (place : Place) : Place :=
  (Keyed.get? machine.links place).getD place

/-- Follows names from folder to folder. -/
def walk? (machine : Machine) (place : Place) : List String → Option Place
  | [] => some place
  | name :: rest =>
    if name = "" ∨ name = "." then machine.walk? place rest
    else if name = ".." then machine.walk? place.dropLast rest
    else
      let next := machine.target (place ++ [name])
      if machine.root.isFolder next then machine.walk? next rest else none

/-- Where a path begins. -/
def start (machine : Machine) (path : String) : Place :=
  if isAbsolute path then [] else machine.current

/-- The place of a file that a path names, in a folder to which the path leads. -/
def place? (machine : Machine) (path : String) : Option Place := do
  let all := names path
  let name ← all.getLast?
  if name = "" ∨ name = "." ∨ name = ".." then none
  return (← machine.walk? (machine.start path) all.dropLast) ++ [name]

/-! ## Fetching -/

/-- The file that a path leads to, if there is one. -/
def file? (machine : Machine) (path : String) : Option (Option String) :=
  (machine.place? path).bind fun place => Keyed.get? machine.root.files (machine.target place)

/-- Fetches the document at a location. -/
def fetch (machine : Machine) (location : String) : Except FetchError String :=
  match machine.locate location with
  | .network =>
    match Keyed.get? machine.network location with
    | some text => .ok text
    | none => .error .request
  | .file path =>
    match machine.file? path with
    | some (some text) => .ok text
    | _ => .error (.unreadable location)
  | .path path =>
    match machine.file? path with
    | some (some text) => .ok text
    | some none => .error (.unreadable location)
    | none => .error (.notFound location)

/-- The texts of all documents. -/
def texts (machine : Machine) : List String :=
  machine.root.texts ++ machine.network.map Prod.snd

theorem mem_texts_of_file? {machine : Machine} {path text : String}
    (h : machine.file? path = some (some text)) : text ∈ machine.texts := by
  obtain ⟨place, _, found⟩ := Option.bind_eq_some_iff.1 h
  exact List.mem_append_left _ (List.mem_filterMap.2 ⟨_, Keyed.mem_of_get? found, rfl⟩)

theorem fetch_mem (machine : Machine) (location text : String)
    (h : machine.fetch location = .ok text) : text ∈ machine.texts := by
  unfold fetch at h
  split at h
  · split at h
    · next found =>
      cases h
      exact List.mem_append_right _ (List.mem_map_of_mem (f := Prod.snd) (Keyed.mem_of_get? found))
    · cases h
  · split at h
    · next found =>
      cases h
      exact mem_texts_of_file? found
    · cases h
  · split at h
    · next found =>
      cases h
      exact mem_texts_of_file? found
    · cases h
    · cases h

/-- The library of the documents that a machine can fetch. -/
def library (machine : Machine) : Schema.Library where
  fetch := machine.fetch
  texts := machine.texts
  complete := machine.fetch_mem

/-! ## Making and writing -/

/-- The machine with one more folder. -/
def making (machine : Machine) (place : Place) : Machine :=
  { machine with root.folders := place :: machine.root.folders }

/-- Whether a way ends at a point in the folder that has been reached, and leads nowhere else. -/
def endsAtPoint (rest : List String) : Bool :=
  rest.contains "." && rest.all fun name => name == "" || name == "."

/-- Makes the folders that are missing on the way of names. The last one is not made by way of a
point in it. -/
def make? (machine : Machine) (place : Place) : List String → Option Machine
  | [] => some machine
  | name :: rest =>
    if name = "" ∨ name = "." then machine.make? place rest
    else if name = ".." then machine.make? place.dropLast rest
    else
      let next := place ++ [name]
      if machine.root.isFolder (machine.target next) then machine.make? (machine.target next) rest
      else if machine.target next ≠ next ∨ (Keyed.get? machine.root.files next).isSome ∨
        endsAtPoint rest then none
      else if machine.makes next then (machine.making next).make? next rest
      else none

/-- How it ends to write a file at a place. -/
def attempt (machine : Machine) (place : Place) : Attempt :=
  if machine.root.isFolder (machine.target place) then .refused else machine.writes place

/-- A machine that has nothing but a folder, which is the working folder. It refuses nothing, and
no request is answered. -/
def ofFolder (folder : Folder) : Machine where
  root :=
    { files := folder.files.map fun file => ("work" :: file.1, file.2)
      folders := ["work"] :: folder.folders.map ("work" :: ·) }
  links := []
  current := ["work"]
  locate := .ofText
  network := []
  makes := fun _ => true
  writes := fun _ => .whole

end Machine

end SchemaBinding.CommandLine
