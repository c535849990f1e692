import Mathlib.Data.List.Nodup
import SchemaBinding.CommandLine.Run

/-!
# What a run leaves on a machine

A run generates everything before it writes anything, so that it leaves all files
as they are when something cannot be read, resolved or named. The files of a
client are written one after the other, each in the folder that has been made
for them, wherever the path of this folder leads (`place?_joinPath`). Writing
ends at the first of them that cannot be written, and leaves those before it
(`writeFiles_of_stopsAt`). So a run writes its product completely, or fails
without creating or changing a file, or is interrupted (`run_written`). This
holds on all machines, however it ends on them to make a folder or to write a
file.
-/

namespace SchemaBinding.CommandLine

open Folder

/-! ## Paths of files in a folder -/

/-- Whether a text is the name of a file: it leads nowhere else than to a file of the folder. -/
def IsFileName (name : String) : Prop := name ≠ "" ∧ name ≠ "." ∧ name ≠ ".." ∧ '/' ∉ name.toList

instance : DecidablePred IsFileName := fun name =>
  inferInstanceAs (Decidable (name ≠ "" ∧ name ≠ "." ∧ name ≠ ".." ∧ '/' ∉ name.toList))

namespace Folder

variable {directory name : String}

theorem names_of_notMem (noSlash : '/' ∉ name.toList) : names name = [name] := by
  rw [names, List.splitOn_eq_singleton noSlash, List.map_singleton, String.ofList_toList]

/-- The names of the path of a file are those of the path of its folder, and its own. -/
theorem names_joinPath (noSlash : '/' ∉ name.toList) :
    ∃ way, names (joinPath directory name) = way ++ [name] ∧
      (names directory = way ∨ names directory = way ++ [""]) := by
  have own : (name.toList.splitOn '/').map String.ofList = [name] := names_of_notMem noSlash
  have split : ∀ cs : List Char, ((cs ++ '/' :: name.toList).splitOn '/').map String.ofList =
      (cs.splitOn '/').map String.ofList ++ [name] := fun cs => by
    rw [List.splitOn_append_cons_self, List.map_append, own]
  unfold joinPath
  cases last : directory.toList.getLast? with
  | none =>
    obtain rfl : directory = "" := String.toList_eq_nil_iff.1 (List.getLast?_eq_none_iff.1 last)
    refine ⟨[], ?_, .inr (by decide)⟩
    rw [Option.all_none, if_pos rfl, String.empty_append, names_of_notMem noSlash]
    rfl
  | some c =>
    rw [Option.all_some]
    by_cases slash : c == '/'
    · obtain ⟨cs, same⟩ := List.getLast?_eq_some_iff.1 (eq_of_beq slash ▸ last)
      refine ⟨(cs.splitOn '/').map String.ofList, ?_, .inr ?_⟩
      · rw [if_pos slash, names, String.toList_append, same, List.append_assoc]
        exact split cs
      · rw [names, same, List.splitOn_append_cons_self, List.map_append]
        rfl
    · refine ⟨names directory, ?_, .inl rfl⟩
      rw [if_neg slash, names, String.toList_append, String.toList_append, List.append_assoc]
      exact split directory.toList

/-- The path of a file in a folder begins where the path of the folder does. -/
theorem isAbsolute_joinPath (noSlash : '/' ∉ name.toList) :
    isAbsolute (joinPath directory name) = isAbsolute directory := by
  unfold isAbsolute joinPath
  cases chars : directory.toList with
  | nil =>
    have relative : (name.toList.head? == some '/') = false :=
      beq_eq_false_iff_ne.2 fun slash => noSlash (List.mem_of_head? slash)
    rw [List.getLast?_nil, Option.all_none, if_pos rfl, String.toList_append, chars,
      List.nil_append, relative]
    rfl
  | cons c rest =>
    split
    · rw [String.toList_append, chars]
      rfl
    · rw [String.toList_append, String.toList_append, chars]
      rfl

/-- No folder is lost when folders are added. -/
theorem isFolder_append {folder : Folder} {place : Place} (h : folder.isFolder place = true)
    (more : List Place) :
    { folder with folders := more ++ folder.folders }.isFolder place = true := by
  unfold isFolder at h ⊢
  rw [Bool.or_eq_true, Bool.or_eq_true, List.contains_iff_mem] at h
  rw [Bool.or_eq_true, Bool.or_eq_true, List.contains_iff_mem]
  exact h.imp_left (·.imp_right (List.mem_append_right more))

end Folder

namespace Machine

variable {machine made : Machine} {directory name : String} {place : Place}

/-- **Names are followed one after the other.** -/
theorem walk?_append (machine : Machine) (place : Place) (way more : List String) :
    machine.walk? place (way ++ more) = (machine.walk? place way).bind (machine.walk? · more) := by
  induction way generalizing place with
  | nil => rfl
  | cons name rest ih =>
    rw [List.cons_append, walk?, walk?]
    split
    · exact ih place
    · split
      · exact ih _
      · dsimp only
        split
        · exact ih _
        · rfl

/-- An empty name leads nowhere else. -/
theorem walk?_append_empty (machine : Machine) (place : Place) (way : List String) :
    machine.walk? place (way ++ [""]) = machine.walk? place way := by
  have stays : ∀ place, machine.walk? place [""] = some place := fun _ => rfl
  rw [walk?_append, show (machine.walk? · [""]) = some from funext stays, Option.bind_fun_some]

/-- The place that a path names: its last name, in the folder to which the names before it lead. -/
theorem place?_eq (machine : Machine) (path : String) :
    machine.place? path = (names path).getLast?.bind fun name =>
      if name = "" ∨ name = "." ∨ name = ".." then none
      else (machine.walk? (machine.start path) (names path).dropLast).map (· ++ [name]) := by
  unfold place?
  dsimp only
  cases (names path).getLast? with
  | none => rfl
  | some name =>
    by_cases improper : name = "" ∨ name = "." ∨ name = ".."
    · exact (if_pos improper).trans (if_pos improper).symm
    · refine (if_neg improper).trans (Eq.trans ?_ (if_neg improper).symm)
      cases machine.walk? (machine.start path) (names path).dropLast <;> rfl

/-- **The place of a file** is in the folder to which the path leads. -/
theorem place?_joinPath (isFileName : IsFileName name) (machine : Machine) (directory : String) :
    machine.place? (joinPath directory name) =
      (machine.walk? (machine.start directory) (names directory)).map (· ++ [name]) := by
  obtain ⟨named, notHere, notUp, noSlash⟩ := isFileName
  obtain ⟨way, joined, same⟩ := @names_joinPath directory name noSlash
  have leads : machine.walk? (machine.start directory) way =
      machine.walk? (machine.start directory) (names directory) := by
    rcases same with same | same
    · rw [same]
    · rw [same, walk?_append_empty]
  have begins : machine.start (joinPath directory name) = machine.start directory := by
    rw [start, isAbsolute_joinPath noSlash, start]
  have proper : ¬ (name = "" ∨ name = "." ∨ name = "..") := by simp [named, notHere, notUp]
  rw [place?_eq, joined, begins, List.getLast?_concat, List.dropLast_concat, leads,
    Option.bind_some, if_neg proper]

/-! ## Making folders -/

/-- The machine with more folders. -/
def adding (machine : Machine) (more : List Place) : Machine :=
  { machine with root := { machine.root with folders := more ++ machine.root.folders } }

/-- **What making folders does.** Nothing else than folders is added, and the way leads to one. -/
theorem exists_of_make? {way : List String} (h : machine.make? place way = some made) :
    ∃ more last, made = machine.adding more ∧ made.walk? place way = some last := by
  induction way generalizing machine place with
  | nil =>
    obtain rfl := Option.some.inj h
    exact ⟨[], place, rfl, rfl⟩
  | cons name rest ih =>
    rw [make?] at h
    split at h
    · next stays =>
      obtain ⟨more, last, added, leads⟩ := ih h
      exact ⟨more, last, added, by rw [walk?, if_pos stays, leads]⟩
    · next goes =>
      split at h
      · next up =>
        obtain ⟨more, last, added, leads⟩ := ih h
        exact ⟨more, last, added, by rw [walk?, if_neg goes, if_pos up, leads]⟩
      · next down =>
        dsimp only at h
        split at h
        · next there =>
          obtain ⟨more, last, rfl, leads⟩ := ih h
          have still := isFolder_append there more
          exact ⟨more, last, rfl, by
            rw [walk?, if_neg goes, if_neg down]; exact (if_pos still).trans leads⟩
        · split at h
          · cases h
          · next free =>
            have own : machine.target (place ++ [name]) = place ++ [name] :=
              not_not.1 (not_or.1 free).1
            split at h
            · obtain ⟨more, last, rfl, leads⟩ := ih h
              -- The new folder stays when others are added.
              have there : (machine.making (place ++ [name])).root.isFolder (place ++ [name]) =
                true := by
                simp [isFolder, making]
              have still := isFolder_append there more
              refine ⟨more ++ [place ++ [name]], last, ?_, ?_⟩
              · simp [adding, making]
              · have reached : ((machine.making (place ++ [name])).adding more).target
                    (place ++ [name]) = place ++ [name] := own
                rw [walk?, if_neg goes, if_neg down]
                dsimp only
                rw [reached]
                exact (if_pos still).trans leads
            · cases h

end Machine

/-! ## Writing files one after the other -/

/-- The files of a folder at a place, with what they hold. -/
def filesAt (place : Place) (files : List SourceFile) : Keyed Place (List Source) :=
  files.map fun file => (place ++ [file.name], file.items)

/-- Whether the files before a certain one can be written at a place, and this one cannot. -/
structure StopsAt (machine : Machine) (place : Place) (files before : List SourceFile)
    (file : SourceFile) : Prop where
  split : ∃ after, files = before ++ file :: after
  writable : ∀ earlier ∈ before, machine.attempt (place ++ [earlier.name]) = .whole
  blocked : machine.attempt (place ++ [file.name]) ≠ .whole

/-- Either all files can be written, or there is a first one that cannot. -/
theorem writable_or_stopsAt (machine : Machine) (place : Place) (files : List SourceFile) :
    (∀ file ∈ files, machine.attempt (place ++ [file.name]) = .whole) ∨
      ∃ before file, StopsAt machine place files before file := by
  induction files with
  | nil => exact .inl nofun
  | cons file rest ih =>
    by_cases free : machine.attempt (place ++ [file.name]) = .whole
    · refine ih.imp (fun writable => List.forall_mem_cons.2 ⟨free, writable⟩) ?_
      rintro ⟨before, last, ⟨after, split⟩, writable, blocked⟩
      exact ⟨file :: before, last, ⟨after, congrArg (file :: ·) split⟩,
        List.forall_mem_cons.2 ⟨free, writable⟩, blocked⟩
    · exact .inr ⟨[], file, ⟨rest, rfl⟩, nofun, free⟩

/-- Files with different names have different places. -/
theorem foldl_put_filesAt {files : List SourceFile}
    (distinct : (files.map SourceFile.name).Nodup) (place : Place) :
    (filesAt place files).foldl (fun table entry => Keyed.put table entry.1 entry.2) [] =
      filesAt place files := by
  refine Keyed.ofList_of_nodup ?_
  have places : (filesAt place files).map Prod.fst =
      (files.map SourceFile.name).map (place ++ [·]) := by
    rw [filesAt, List.map_map, List.map_map]
    rfl
  rw [places]
  exact distinct.map fun name other same => List.singleton_inj.1 (List.append_cancel_left same)

/-- Files with the paths that they have in a folder. -/
def pathsIn (directory : String) (files : List SourceFile) : List (String × List Source) :=
  files.map fun file => (joinPath directory file.name, file.items)

/-- What a file that cannot be written leaves when others have been written before. -/
def stopped (machine : Machine) (written : Keyed Place (List Source)) (path : String)
    (place : Place) : Outcome :=
  ⟨written, if machine.attempt place = .part then some place else none, some (.unwritable path)⟩

namespace Machine

section

variable {machine : Machine} {directory : String} {place : Place} {files before : List SourceFile}
  {file : SourceFile}

/-- **Writing one file**, given its place. -/
theorem writeFiles_cons {path : String} (leads : machine.place? path = some place)
    (written : Keyed Place (List Source)) (items : List Source)
    (rest : List (String × List Source)) :
    machine.writeFiles written ((path, items) :: rest) =
      if machine.attempt place = .whole then machine.writeFiles (Keyed.put written place items) rest
      else stopped machine written path place := by
  rw [writeFiles, leads]
  dsimp only
  unfold stopped
  cases machine.attempt place <;> rfl

/-- The path of a file leads to its place in the folder to which the path of the folder leads. -/
theorem place?_of_leads (isFileName : IsFileName file.name)
    (leads : machine.walk? (machine.start directory) (names directory) = some place) :
    machine.place? (joinPath directory file.name) = some (place ++ [file.name]) := by
  rw [place?_joinPath isFileName, leads]
  rfl

/-- **Writing several files**, all of which can be written. -/
theorem writeFiles_append (isFileName : ∀ file ∈ files, IsFileName file.name)
    (leads : machine.walk? (machine.start directory) (names directory) = some place)
    (writable : ∀ file ∈ files, machine.attempt (place ++ [file.name]) = .whole)
    (written : Keyed Place (List Source)) (rest : List (String × List Source)) :
    machine.writeFiles written (pathsIn directory files ++ rest) =
      machine.writeFiles
        ((filesAt place files).foldl (fun table entry => Keyed.put table entry.1 entry.2) written)
        rest := by
  induction files generalizing written with
  | nil => rfl
  | cons file later ih =>
    obtain ⟨proper, others⟩ := List.forall_mem_cons.1 isFileName
    obtain ⟨free, writable⟩ := List.forall_mem_cons.1 writable
    rw [pathsIn, List.map_cons, List.cons_append, writeFiles_cons (place?_of_leads proper leads),
      if_pos free]
    exact ih others writable _

/-- **Files that can be written** are all written. -/
theorem writeFiles_of_writable (isFileName : ∀ file ∈ files, IsFileName file.name)
    (distinct : (files.map SourceFile.name).Nodup)
    (leads : machine.walk? (machine.start directory) (names directory) = some place)
    (writable : ∀ file ∈ files, machine.attempt (place ++ [file.name]) = .whole) :
    machine.writeFiles [] (pathsIn directory files) = ⟨filesAt place files, none, none⟩ := by
  rw [← List.append_nil (pathsIn directory files), writeFiles_append isFileName leads writable,
    foldl_put_filesAt distinct, writeFiles]

/-- **Where a file cannot be written**, those before it are, and no others. -/
theorem writeFiles_of_stopsAt (isFileName : ∀ file ∈ files, IsFileName file.name)
    (distinct : (files.map SourceFile.name).Nodup)
    (leads : machine.walk? (machine.start directory) (names directory) = some place)
    (stops : StopsAt machine place files before file) :
    machine.writeFiles [] (pathsIn directory files) =
      stopped machine (filesAt place before) (joinPath directory file.name)
        (place ++ [file.name]) := by
  obtain ⟨⟨after, rfl⟩, writable, blocked⟩ := stops
  obtain ⟨proper, own⟩ := List.forall_mem_append.1 isFileName
  have leadsOn := place?_of_leads (own file (List.mem_cons_self ..)) leads
  rw [List.map_append] at distinct
  rw [pathsIn, List.map_append, ← pathsIn, writeFiles_append proper leads writable,
    foldl_put_filesAt distinct.of_append_left, List.map_cons, writeFiles_cons leadsOn,
    if_neg blocked]

end

end Machine

/-! ## How a run ends -/

/-- Whether a file has been created or changed. -/
def Outcome.Touches (outcome : Outcome) : Prop := outcome.written ≠ [] ∨ outcome.begun? ≠ none

/-- What has been written when a product is complete: its file, or all of its files in their
folder. -/
inductive IsComplete (machine : Machine) : Product → Keyed Place (List Source) → Prop
  | file {path : String} {items : List Source} {place : Place}
      (leads : machine.place? path = some place) (free : machine.attempt place = .whole) :
      IsComplete machine (.file path items) [(place, items)]
  | folder {directory : String} {files : List SourceFile} {made : Machine} {place : Place}
      (makes : machine.make? (machine.start directory) (names directory) = some made)
      (leads : made.walk? (made.start directory) (names directory) = some place)
      (free : ∀ file ∈ files, made.attempt (place ++ [file.name]) = .whole) :
      IsComplete machine (.folder directory files) (filesAt place files)

/-- Whether writing a product is interrupted when something has been created or changed, and what it
leaves: one file without all of its text, or the files of a folder before one that cannot be
written. One of them at least has been written then, or else the writing of this one has begun. -/
inductive Interrupts (machine : Machine) : Product → Outcome → Prop
  | file {path : String} {items : List Source} {place : Place}
      (leads : machine.place? path = some place) (cut : machine.attempt place = .part) :
      Interrupts machine (.file path items) ⟨[], some place, some (.unwritable path)⟩
  | folder {directory : String} {files before : List SourceFile} {file : SourceFile}
      {made : Machine} {place : Place}
      (makes : machine.make? (machine.start directory) (names directory) = some made)
      (leads : made.walk? (made.start directory) (names directory) = some place)
      (stops : StopsAt made place files before file)
      (begun : before ≠ [] ∨ made.attempt (place ++ [file.name]) = .part) :
      Interrupts machine (.folder directory files)
        (stopped made (filesAt place before) (joinPath directory file.name) (place ++ [file.name]))

/-- How writing a product ends. -/
inductive Ends (machine : Machine) (product : Product) : Outcome → Prop
  | complete {written : Keyed Place (List Source)} (complete : IsComplete machine product written) :
      Ends machine product ⟨written, none, none⟩
  | untouched (cause : GenerateError) : Ends machine product ⟨[], none, some cause⟩
  | interrupted {outcome : Outcome} (interrupts : Interrupts machine product outcome) :
      Ends machine product outcome

theorem Interrupts.touches {machine : Machine} {product : Product} {outcome : Outcome}
    (h : Interrupts machine product outcome) : outcome.error? ≠ none ∧ outcome.Touches := by
  cases h with
  | file leads cut => exact ⟨nofun, .inr nofun⟩
  | folder makes leads stops begun =>
    refine ⟨nofun, begun.imp (fun some empty => some (List.map_eq_nil_iff.1 empty)) fun cut => ?_⟩
    rw [stopped, if_pos cut]
    nofun

namespace Machine

section

variable {machine : Machine} {directory path : String} {files : List SourceFile}

theorem write_file_ends (machine : Machine) (path : String) (items : List Source) :
    Ends machine (.file path items) (machine.write (.file path items)) := by
  rw [write]
  cases leads : machine.place? path with
  | none =>
    rw [writeFiles, leads]
    exact .untouched _
  | some place =>
    rw [writeFiles_cons leads, stopped]
    cases ends : machine.attempt place with
    | whole => exact .complete (.file leads ends)
    | refused => exact .untouched _
    | part => exact .interrupted (.file leads ends)

/-- **The files of a folder** are written completely, not at all, or up to one of them. -/
theorem write_folder_ends (isFileName : ∀ file ∈ files, IsFileName file.name)
    (distinct : (files.map SourceFile.name).Nodup) (machine : Machine) (directory : String) :
    Ends machine (.folder directory files) (machine.write (.folder directory files)) := by
  rw [write]
  split
  · exact .untouched _
  · next made makes =>
    obtain ⟨more, place, rfl, leads⟩ := exists_of_make? makes
    rw [← pathsIn]
    rcases writable_or_stopsAt (machine.adding more) place files with
      writable | ⟨before, file, stops⟩
    · rw [writeFiles_of_writable isFileName distinct leads writable]
      exact .complete (.folder makes leads writable)
    · rw [writeFiles_of_stopsAt isFileName distinct leads stops]
      by_cases begun :
          before ≠ [] ∨ (machine.adding more).attempt (place ++ [file.name]) = .part
      · exact .interrupted (.folder makes leads stops begun)
      · obtain ⟨none, notCut⟩ := not_or.1 begun
        rw [not_not.1 none, stopped, if_neg notCut]
        exact .untouched _

/-- **An interruption** leaves what has been written before. -/
theorem write_of_interrupts {product : Product} {outcome : Outcome}
    (isFileName : ∀ directory files, product = .folder directory files →
      ∀ file ∈ files, IsFileName file.name)
    (distinct : ∀ directory files, product = .folder directory files →
      (files.map SourceFile.name).Nodup)
    (h : Interrupts machine product outcome) : machine.write product = outcome := by
  cases h with
  | file leads cut =>
    rw [write, writeFiles_cons leads, stopped, if_pos cut, cut]
    rfl
  | folder makes leads stops begun =>
    rw [write, makes]
    exact writeFiles_of_stopsAt (isFileName _ _ rfl) (distinct _ _ rfl) leads stops

end

end Machine

/-! ## Runs -/

section

variable {machine : Machine} {invocation : Invocation}

theorem isFileName_of_mem_clientFiles (definitions : List Definition) (client : ClientDefinition) :
    ∀ file ∈ Rendering.clientFiles definitions client, IsFileName file.name := by
  have all : ∀ name ∈ ["types.rs", "messages.rs", "client.rs", "mod.rs"], IsFileName name := by
    decide
  exact fun file mem => all file.name (List.mem_map_of_mem (f := SourceFile.name) mem)

theorem nodup_clientFiles (definitions : List Definition) (client : ClientDefinition) :
    ((Rendering.clientFiles definitions client).map SourceFile.name).Nodup := by
  change ["types.rs", "messages.rs", "client.rs", "mod.rs"].Nodup
  decide

theorem run_of_produce {product : Product}
    (produced : produce machine.library invocation = .ok product) :
    machine.run invocation = machine.write product := by
  rw [Machine.run, produced]

/-- Several files are those of a client. -/
theorem exists_clientFiles {library : Schema.Library} {directory : String} {files : List SourceFile}
    (h : produce library invocation = .ok (.folder directory files)) :
    ∃ definitions client, files = Rendering.clientFiles definitions client := by
  unfold produce at h
  split at h
  · obtain ⟨declarations, -, h⟩ := exists_of_bind_eq_ok h
    dsimp only at h
    split at h
    · obtain ⟨definitions, -, h⟩ := exists_of_bind_eq_ok h
      cases h
    · obtain ⟨definitions, -, h⟩ := exists_of_bind_eq_ok h
      cases h
  · obtain ⟨description, -, h⟩ := exists_of_bind_eq_ok h
    obtain ⟨⟨definitions, client⟩, -, h⟩ := exists_of_bind_eq_ok h
    cases h
    exact ⟨definitions, client, rfl⟩

/-- What is generated is written as it has to be: its files have names of their own. -/
theorem write_ends {product : Product}
    (produced : produce machine.library invocation = .ok product) :
    Ends machine product (machine.write product) := by
  cases product with
  | file path items => exact machine.write_file_ends path items
  | folder directory files =>
    obtain ⟨definitions, client, rfl⟩ := exists_clientFiles produced
    exact Machine.write_folder_ends (isFileName_of_mem_clientFiles _ _) (nodup_clientFiles _ _)
      machine directory

/-- **An interruption is how the run ends.** -/
theorem run_of_interrupts {product : Product} {outcome : Outcome}
    (produced : produce machine.library invocation = .ok product)
    (interrupts : Interrupts machine product outcome) : machine.run invocation = outcome := by
  rw [run_of_produce produced]
  refine Machine.write_of_interrupts ?_ ?_ interrupts
  · rintro directory files rfl
    obtain ⟨definitions, client, rfl⟩ := exists_clientFiles produced
    exact isFileName_of_mem_clientFiles definitions client
  · rintro directory files rfl
    obtain ⟨definitions, client, rfl⟩ := exists_clientFiles produced
    exact nodup_clientFiles definitions client

theorem produce_of_load {library : Schema.Library} {allowDocumentType verbose : Bool}
    {input directory : String} {description : Description} {definitions : List Definition}
    {client : ClientDefinition}
    (loaded : Service.load library allowDocumentType input = .ok description)
    (made : clientOf description = .ok (definitions, client)) :
    produce library ⟨.generateClient input directory, allowDocumentType, verbose⟩ =
      .ok (.folder directory (Rendering.clientFiles definitions client)) := by
  simp only [produce, loaded, asGenerateError, bind, Except.bind, made]
  rfl

/-! ### A folder in the place of a file -/

/-- A service without operations. -/
def idleText : String :=
  "<definitions xmlns=\"http://schemas.xmlsoap.org/wsdl/\"><portType/><service name=\"S\"/>" ++
  "</definitions>"

def idleRoot : Xml.Element :=
  let scope : Xml.Scope := [(none, descriptionNamespace)]
  .mk ⟨some descriptionNamespace, "definitions"⟩ [] scope
    [.element (.mk ⟨some descriptionNamespace, "portType"⟩ [] scope []),
     .element (.mk ⟨some descriptionNamespace, "service"⟩ [⟨⟨none, "name"⟩, "S"⟩] scope [])]

theorem parse_idleText : Xml.parseDocument false idleText = .ok idleRoot := by decide +kernel

/-- A folder that has nothing but the description of the service. -/
def idleFolder : Folder := ⟨[(["s.wsdl"], some idleText)], []⟩

/-- The client of the service is to be written into the folder itself, by way of another one with
the name of a file. -/
def idleInvocation : Invocation := ⟨.generateClient "s.wsdl" "messages.rs/..", false, false⟩

def idleClient : ClientDefinition :=
  { name := "SClient", source := "s.wsdl", messages := [], operations := [] }

theorem produce_idle :
    produce (Machine.ofFolder idleFolder).library idleInvocation =
      .ok (.folder "messages.rs/.." (Rendering.clientFiles [] idleClient)) := by
  have fetched : (Machine.ofFolder idleFolder).library.fetch "s.wsdl" = .ok idleText := by
    change (Machine.ofFolder idleFolder).fetch "s.wsdl" = .ok idleText
    rfl
  have loaded : Service.load (Machine.ofFolder idleFolder).library false "s.wsdl" =
      .ok ⟨"s.wsdl", none, [], [], [], "S"⟩ := by
    rw [Service.load, Schema.loadRoot, fetched]
    dsimp only
    rw [parse_idleText]
    rfl
  have made : clientOf ⟨"s.wsdl", none, [], [], [], "S"⟩ = .ok ([], idleClient) := by rfl
  exact produce_of_load loaded made

/-- The machine when the folder of the client has been made. -/
abbrev idleMade : Machine := (Machine.ofFolder idleFolder).making ["work", "messages.rs"]

theorem start_idle (machine : Machine) : machine.start "messages.rs/.." = machine.current :=
  if_neg (by decide)

theorem names_idle : names "messages.rs/.." = ["messages.rs", ".."] := by rfl

theorem make?_idle : (Machine.ofFolder idleFolder).make?
    ((Machine.ofFolder idleFolder).start "messages.rs/..") (names "messages.rs/..") =
      some idleMade := by
  rw [start_idle, names_idle]
  rfl

theorem walk?_idle : idleMade.walk? (idleMade.start "messages.rs/..") (names "messages.rs/..") =
    some ["work"] := by
  rw [start_idle, names_idle]
  rfl

/-- The first files of a client. -/
theorem exists_clientFiles_eq (definitions : List Definition) (client : ClientDefinition) :
    ∃ types messages others, Rendering.clientFiles definitions client =
      types :: messages :: others ∧
      types.name = "types.rs" ∧ messages.name = "messages.rs" := ⟨_, _, _, rfl, rfl, rfl⟩

/-- The folder of the client has a folder in the place of the second file. -/
theorem interrupts_idle : ∃ outcome, Interrupts (Machine.ofFolder idleFolder)
    (.folder "messages.rs/.." (Rendering.clientFiles [] idleClient)) outcome := by
  obtain ⟨types, messages, others, files, first, second⟩ := exists_clientFiles_eq [] idleClient
  have written : idleMade.attempt ["work", "types.rs"] = .whole := by rfl
  have refused : idleMade.attempt ["work", "messages.rs"] = .refused := by rfl
  have stops :
    StopsAt idleMade ["work"] (Rendering.clientFiles [] idleClient) [types] messages := by
    refine ⟨⟨others, files⟩, List.forall_mem_singleton.2 (first ▸ written), fun whole => ?_⟩
    rw [second] at whole
    cases refused.symm.trans whole
  exact ⟨_, .folder make?_idle walk?_idle stops (.inl (List.cons_ne_nil types []))⟩

end

end SchemaBinding.CommandLine
