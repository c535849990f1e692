/-!
# Arguments of the command line

Source: `SPEC_FULL.md`, 10.4; `generator/cli`, with the rules of the argument
library.

The two commands with their options and operands. Options of both commands may
stand before the command as well as after it. Each option is given at most once
at each of these places, except the one that selects declarations. The operands
after a double hyphen may begin with a hyphen.
-/

namespace SchemaBinding.CommandLine

/-- What is to be done. -/
inductive Command where
  /-- Generate the types of a schema, or of the types of a service description. Only the named
  declarations are selected, or all if none is named. -/
  | generateBindings (fromDescription : Bool) (input output : String) (only : List String)
  /-- Generate the types, messages and client of a service. -/
  | generateClient (input directory : String)
  deriving DecidableEq, Repr

/-- A command with the options that both commands have. -/
structure Invocation where
  command : Command
  allowDocumentType : Bool
  verbose : Bool
  deriving DecidableEq, Repr

/-- A part of the command line. -/
inductive Part where
  | flag (name : String)
  | option (name value : String)
  | operand (value : String)
  deriving DecidableEq, Repr

/-- The options without a value that are allowed everywhere. -/
def commonFlags : List String := ["allow-dtd", "verbose"]

/-- The options with a value that are allowed everywhere. -/
def commonOptions : List String := ["target"]

/-- Whether an argument is an option rather than an operand. A single hyphen is an operand. -/
def isOption (arg : List Char) : Bool := arg.head? == some '-' && arg != ['-']

/-- Reads a long option without its hyphens, and the argument after it if that is its value. -/
def longPart (flags options : List String) (arg : List Char) (rest : List String) :
    Option (Part × List String) :=
  let name := String.ofList (arg.takeWhile (· ≠ '='))
  match arg.dropWhile (· ≠ '=') with
  | '=' :: value => if name ∈ options then some (.option name (String.ofList value), rest) else none
  | _ =>
    if name ∈ flags then some (.flag name, rest)
    else if name ∈ options then
      match rest with
      | value :: rest => if isOption value.toList then none else some (.option name value, rest)
      | [] => none
    else none

/-- The flags of an argument with a single hyphen, by their letters. -/
def shortParts (letters : List Char) : Option (List Part) :=
  if letters.all (· == 'v') then some (letters.map fun _ => .flag "verbose") else none

theorem longPart_length {flags options : List String} {arg : List Char} {rest after : List String}
    {part : Part} (h : longPart flags options arg rest = some (part, after)) :
    after.length ≤ rest.length := by
  unfold longPart at h
  simp only at h
  split at h
  · split at h <;> simp_all
  · split at h
    · simp_all
    · split at h
      · split at h
        · split at h
          · simp at h
          · simp only [Option.some.injEq, Prod.mk.injEq] at h
            simp [← h.2]
        · simp at h
      · simp at h

/-- Reads the arguments into parts. If `stop` is set, reading ends at the first operand, and the
arguments from there on are left. -/
def readParts (flags options : List String) (stop : Bool) (args : List String) :
    Option (List Part × List String) :=
  match args with
  | [] => some ([], [])
  | arg :: rest =>
    match arg.toList with
    | ['-', '-'] => if stop then none else some (rest.map .operand, [])
    | '-' :: '-' :: long =>
      match _ : longPart flags options long rest with
      | some (part, after) => (readParts flags options stop after).map fun (parts, left) => (part ::
          parts, left)
      | none => none
    | '-' :: letter :: letters => do
      let parts ← shortParts (letter :: letters)
      let (others, left) ← readParts flags options stop rest
      return (parts ++ others, left)
    | _ =>
      if stop then some ([], arg :: rest)
      else (readParts flags options stop rest).map fun (parts, left) =>
        (.operand arg :: parts, left)
termination_by args.length
decreasing_by
  · exact Nat.lt_succ_of_le (longPart_length ‹_›)
  · exact Nat.lt_succ_self _
  · exact Nat.lt_succ_self _

/-- Whether a flag is among parts. -/
def hasFlag (parts : List Part) (name : String) : Bool := parts.contains (.flag name)

/-- The values of an option among parts. -/
def valuesOf (parts : List Part) (name : String) : List String :=
  parts.filterMap fun
    | .option n value => if n = name then some value else none
    | _ => none

/-- The operands among parts. -/
def operandsOf (parts : List Part) : List String :=
  parts.filterMap fun
    | .operand value => some value
    | _ => none

/-- Whether no flag is given twice, and the target at most once, which is then the only one there
is. -/
def isProper (flags : List String) (parts : List Part) : Bool :=
  flags.all (fun name => parts.count (.flag name) ≤ 1) &&
    (valuesOf parts "target").length ≤ 1 && (valuesOf parts "target").all (· == "rust")

/-- The command with its own options and operands. -/
def readCommand (name : String) (args : List String) : Option (Command × List Part) :=
  match name with
  | "generate-bindings" => do
    let flags := commonFlags ++ ["from-wsdl", "from-xsd"]
    let (parts, _) ← readParts flags (commonOptions ++ ["only"]) false args
    if !isProper flags parts ∨ hasFlag parts "from-wsdl" = hasFlag parts "from-xsd" then none
    match operandsOf parts with
    | [input, output] =>
      if output.isEmpty then none
      else some (.generateBindings (hasFlag parts "from-wsdl") input output (valuesOf parts "only"),
        parts)
    | _ => none
  | "generate-client" => do
    let (parts, _) ← readParts commonFlags commonOptions false args
    if !isProper commonFlags parts then none
    match operandsOf parts with
    | [input, directory] => if directory.isEmpty then none else some (.generateClient input
        directory, parts)
    | _ => none
  | _ => none

/-- Reads the command line. -/
def parse? (args : List String) : Option Invocation := do
  let (before, left) ← readParts commonFlags commonOptions true args
  if !isProper commonFlags before then none
  match left with
  | name :: rest =>
    let (command, after) ← readCommand name rest
    return {
      command
      allowDocumentType := hasFlag before "allow-dtd" || hasFlag after "allow-dtd"
      verbose := hasFlag before "verbose" || hasFlag after "verbose" }
  | [] => none

end SchemaBinding.CommandLine
