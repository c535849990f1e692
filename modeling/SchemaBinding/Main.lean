import SchemaBinding.CommandLine.Run

/-!
# The command line

Source: `SPEC_FULL.md`, 6 and 10.4; `generator/main` (`main`, `run`).

Reads the arguments and the documents that are asked for, and writes what is
generated. What is generated from which documents is decided by `produce`.
-/

namespace SchemaBinding.CommandLine

/-- How the command line is used. -/
def usage : String :=
  "Usage: generate-bindings (--from-wsdl | --from-xsd) [--only NAME]... INPUT OUTPUT\n" ++
  "       generate-client INPUT DIRECTORY\n" ++
  "Options: --allow-dtd, --target rust, --verbose"

/-- The location of a document that a command lacks. -/
def missing? : GenerateError → Option String
  | .schema (.fetching (.notFound location)) => some location
  | .schema (.importing (.fetch _ (.notFound location))) => some location
  | _ => none

/-- Reads the document at a location, if it is a file that can be read. -/
def readDocument? (location : String) : IO (Option String) := do
  match Location.ofText location with
  | .network => return none
  | .file path | .path path =>
    try
      return some (← IO.FS.readFile path)
    catch _ =>
      return none

/-- Reads documents, one after the other, until a command has all that it asks for. Each document
that is read is at a location where none was, so that a location is asked for once only. -/
partial def produceReading (documents : Keyed String String) (invocation : Invocation) :
    IO (Except GenerateError Product) := do
  match produce (.ofTable documents) invocation with
  | .ok product => return .ok product
  | .error cause =>
    match missing? cause with
    | none => return .error cause
    | some location =>
      match ← readDocument? location with
      | some text => produceReading (Keyed.put documents location text) invocation
      | none => return .error cause

/-- Writes a product. -/
def writeProduct : Product → IO Unit
  | .file path items => IO.FS.writeFile path (SourceFile.print ⟨path, items⟩)
  | .folder path files => do
    IO.FS.createDirAll path
    for file in files do
      IO.FS.writeFile (joinPath path file.name) file.print

end SchemaBinding.CommandLine

open SchemaBinding CommandLine in
/-- Carries out the command that the arguments give. -/
def main (args : List String) : IO UInt32 := do
  match parse? args with
  | none =>
    IO.eprintln usage
    return 2
  | some invocation =>
    match ← produceReading [] invocation with
    | .error cause =>
      IO.eprintln cause.message
      return 1
    | .ok product =>
      try
        writeProduct product
        return 0
      catch cause =>
        IO.eprintln (toString cause)
        return 1
