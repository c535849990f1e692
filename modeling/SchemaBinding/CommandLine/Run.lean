import SchemaBinding.CommandLine.Arguments
import SchemaBinding.CommandLine.Machine
import SchemaBinding.Generator.Rendering
import SchemaBinding.Generator.Selection

/-!
# Carrying out commands

Source: `SPEC_FULL.md`, 7 and 10.8; `generator/main` (`run`, `write`) and
`generator/generators` (`render_bindings`, `render_client`).

What a command generates from the documents of a library, and what a run of the
command line leaves on a machine. Everything is generated before anything is
written; then files are written one after the other, up to the first that cannot
be written.
-/

namespace SchemaBinding.CommandLine

/-- The result of a schema or description that is read, as the cause for which nothing is
generated. -/
def asGenerateError {α : Type} : Except SchemaError α → Except GenerateError α
  | .ok a => .ok a
  | .error cause => .error (.schema cause)

/-- What is to be written: a single file, or several files in a folder. -/
inductive Product where
  | file (path : String) (items : List Source)
  | folder (path : String) (files : List SourceFile)

/-- What a command generates. -/
def produce (library : Schema.Library) (invocation : Invocation) : Except GenerateError Product :=
  match invocation.command with
  | .generateBindings fromDescription input output only => do
    let declarations ← asGenerateError <|
      if fromDescription then
        (Service.load library invocation.allowDocumentType input).map (·.types)
      else Schema.load library invocation.allowDocumentType input
    let definitions ←
      if only.isEmpty then definitionsOfAll declarations
      else definitionsNamed declarations only
    return .file output (Rendering.typeItems definitions)
  | .generateClient input directory => do
    let description ← asGenerateError (Service.load library invocation.allowDocumentType input)
    let (definitions, client) ← clientOf description
    return .folder directory (Rendering.clientFiles definitions client)

/-- What a run leaves: the files that have been written with all of their text, by the places at
which they were, the file that has been created or emptied and has no more than a part of it, if
there is one, and the error that ended the run, if one did. -/
structure Outcome where
  written : Keyed Place (List Source)
  begun? : Option Place
  error? : Option GenerateError

/-- The path of a file in a folder. -/
def joinPath (folder name : String) : String :=
  if folder.toList.getLast?.all (· == '/') then folder ++ name else folder ++ "/" ++ name

namespace Machine

/-- Writes files, given by their paths, up to the first that cannot be written. -/
def writeFiles (machine : Machine) (written : Keyed Place (List Source)) :
    List (String × List Source) → Outcome
  | [] => ⟨written, none, none⟩
  | (path, items) :: rest =>
    match machine.place? path with
    | none => ⟨written, none, some (.unwritable path)⟩
    | some place =>
      match machine.attempt place with
      | .whole => machine.writeFiles (Keyed.put written place items) rest
      | .refused => ⟨written, none, some (.unwritable path)⟩
      | .part => ⟨written, some place, some (.unwritable path)⟩

/-- Writes a product. The folder of several files is made first, with those on the way to it. -/
def write (machine : Machine) : Product → Outcome
  | .file path items => machine.writeFiles [] [(path, items)]
  | .folder path files =>
    match machine.make? (machine.start path) (Folder.names path) with
    | none => ⟨[], none, some (.unwritable path)⟩
    | some made => made.writeFiles [] (files.map fun file => (joinPath path file.name, file.items))

/-- Runs the command line on a machine. -/
def run (machine : Machine) (invocation : Invocation) : Outcome :=
  match produce machine.library invocation with
  | .error cause => ⟨[], none, some cause⟩
  | .ok product => machine.write product

end Machine

/-- Runs the command line in a folder that is all there is. The places of what is written are those
below it. -/
def run (folder : Folder) (invocation : Invocation) : Outcome :=
  let outcome := (Machine.ofFolder folder).run invocation
  { outcome with written := outcome.written.filterMap fun
      | ("work" :: place, items) => some (place, items)
      | _ => none }

end SchemaBinding.CommandLine
