import SchemaBinding.Proofs.Rendering.Identifier

/-!
# What source text declares

Source text is read for the names of what it declares. An item declares a struct
when it begins so after its attributes (`structName?`), and the functions of a
type itself are in those of its implementations that are for no trait
(`inherentFunctions`). No identifier is a keyword, so that no name is mistaken
for the beginning of a function (`lacks_identifier`). The structs in the files
of a client have the identifiers of its definitions, of its wrappers and of the
client (`structNames_clientFiles`). The functions of a structured type are one
that makes it and those of its fields (`inherentFunctions_complexItems`), those
of a client one that makes it, one that gives its dispatcher and those of its
operations (`inherentFunctions_clientItems`).
-/

namespace SchemaBinding

namespace Source

/-! ## Words that are missing -/

/-- Whether a word is missing from source text. -/
def Lacks (keyword : String) (source : Source) : Prop := .word keyword ∉ source

section

variable {keyword : String} {source before after : Source}

@[simp]
theorem lacks_nil : Lacks keyword [] := List.not_mem_nil

@[simp]
theorem lacks_append :
    Lacks keyword (before ++ after) ↔ Lacks keyword before ∧ Lacks keyword after := by
  rw [Lacks, List.mem_append, not_or]
  rfl

@[simp]
theorem lacks_word {text : String} : Lacks keyword (word text) ↔ keyword ≠ text := by
  rw [Lacks, word, List.mem_singleton, SourceToken.word.injEq]

@[simp]
theorem lacks_literal (value : String) : Lacks keyword (literal value) :=
  fun mem => nomatch List.mem_singleton.1 mem

@[simp]
theorem lacks_parens :
    Lacks keyword (parens source) ↔ (keyword ≠ "(" ∧ keyword ≠ ")") ∧ Lacks keyword source := by
  simp [Lacks, parens, and_assoc, and_comm]

@[simp]
theorem lacks_brackets :
    Lacks keyword (brackets source) ↔ (keyword ≠ "[" ∧ keyword ≠ "]") ∧ Lacks keyword source := by
  simp [Lacks, brackets, and_assoc, and_comm]

@[simp]
theorem lacks_braces :
    Lacks keyword (braces source) ↔
      (keyword ≠ "\x7b" ∧ keyword ≠ "\x7d") ∧ Lacks keyword source := by
  simp [Lacks, braces, and_assoc, and_comm]

theorem lacks_commas {pieces : List Source} (comma : keyword ≠ ",")
    (lacks : ∀ piece ∈ pieces, Lacks keyword piece) :
    Lacks keyword (commas pieces) := by
  fun_induction commas pieces with
  | case1 => exact lacks_nil
  | case2 piece => exact lacks piece (List.mem_singleton_self _)
  | case3 piece rest _ ih =>
    obtain ⟨first, others⟩ := List.forall_mem_cons.1 lacks
    refine lacks_append.2 ⟨first, ?_⟩
    exact lacks_append.2 ⟨lacks_word.2 comma, ih others⟩

end

/-- The words of a text that is given by its characters. -/
theorem words_ofList (cs : List Char) :
    words (String.ofList cs) = (cs.splitOn ' ').map fun word => .word (String.ofList word) := by
  rw [words, String.toList_ofList]

/-- Whether a word is missing from a text is decided on characters. -/
theorem lacks_words {keyword cs : List Char} (missing : keyword ∉ cs.splitOn ' ') :
    Lacks (String.ofList keyword) (words (String.ofList cs)) := by
  rw [Lacks, words_ofList]
  intro mem
  obtain ⟨word, ofText, same⟩ := List.mem_map.1 mem
  rw [SourceToken.word.injEq] at same
  exact missing (String.ofList_injective same ▸ ofText)

/-! ## Structs -/

/-- Source text after the attributes at its beginning. `inside` is set inside an attribute. -/
def skipAttributes (inside : Bool) : Source → Source
  | [] => []
  | token :: rest =>
    if inside then skipAttributes (token ≠ .word "]") rest
    else if token = .word "#" then skipAttributes true rest
    else token :: rest

/-- The name of the struct that an item declares, if it does. -/
def structName? (item : Source) : Option String :=
  match skipAttributes false item with
  | .word "pub" :: .word "struct" :: .word name :: _ => some name
  | _ => none

/-- The names of the structs that items declare. -/
def structNames (items : List Source) : List String := items.filterMap structName?

/-- An attribute is skipped. -/
theorem skipAttributes_attribute {inner : Source} (lacks : Lacks "]" inner) (rest : Source) :
    skipAttributes false (word "#" ++ brackets inner ++ rest) = skipAttributes false rest := by
  have within : skipAttributes true (inner ++ .word "]" :: rest) = skipAttributes false rest := by
    induction inner with
    | nil => rfl
    | cons token later ih =>
      obtain ⟨differs, lacks⟩ := not_or.1 fun mem => lacks (List.mem_cons.2 mem)
      rw [List.cons_append, skipAttributes, if_pos rfl, decide_eq_true (Ne.symm differs)]
      exact ih lacks
  rw [brackets, List.append_assoc, List.cons_append, List.cons_append, List.append_assoc]
  exact within

/-- What begins with another word is no struct. -/
theorem structName?_of_head {before : Source} (head : before.head? = some (.word "impl"))
    (after : Source) :
    structName? (before ++ after) = none := by
  cases before with
  | nil => cases head
  | cons token rest =>
    obtain rfl := Option.some.inj head
    rfl

/-! ## Functions -/

/-- The words that come right after a keyword. -/
def namesAfter (keyword : String) : Source → List String
  | .word text :: .word name :: rest =>
    (if text = keyword then [name] else []) ++ namesAfter keyword (.word name :: rest)
  | _ :: rest => namesAfter keyword rest
  | [] => []

/-- Whether an item holds the functions of a type itself, and not those of a trait. -/
def isInherent (item : Source) : Bool :=
  item.head? == some (.word "impl") && !(item.takeWhile (· != .word "\x7b")).contains (.word "for")

/-- The names of the functions that items hold for types themselves. -/
def inherentFunctions (items : List Source) : List String :=
  (items.filter isInherent).flatMap (namesAfter "fn")

section

variable {keyword : String} {source before after : Source}

theorem namesAfter_cons_of_ne {token : SourceToken} (differs : token ≠ .word keyword)
    (rest : Source) :
    namesAfter keyword (token :: rest) = namesAfter keyword rest := by
  cases token with
  | literal value => rw [namesAfter]; exact nofun
  | word text =>
    have differs : text ≠ keyword := fun same => differs (congrArg SourceToken.word same)
    cases rest with
    | nil => rfl
    | cons next rest =>
      cases next with
      | literal value => rw [namesAfter]; exact nofun
      | word name => rw [namesAfter, if_neg differs, List.nil_append]

/-- Nothing is declared where the keyword is missing. -/
theorem namesAfter_append_of_lacks (lacks : Lacks keyword before) :
    namesAfter keyword (before ++ after) = namesAfter keyword after := by
  induction before with
  | nil => rfl
  | cons token rest ih =>
    obtain ⟨differs, lacks⟩ := not_or.1 fun mem => lacks (List.mem_cons.2 mem)
    rw [List.cons_append, namesAfter_cons_of_ne (Ne.symm differs), ih lacks]

/-- **A function** of a name that is no keyword. -/
theorem namesAfter_fn {name : String} (differs : name ≠ "fn") (rest : Source) :
    namesAfter "fn" (words "pub fn" ++ (word name ++ rest)) = name :: namesAfter "fn" rest := by
  rw [show words "pub fn" = [.word "pub", .word "fn"] from words_ofList _]
  change namesAfter "fn" (.word "pub" :: .word "fn" :: .word name :: rest) = _
  rw [namesAfter_cons_of_ne (by decide), namesAfter, if_pos rfl,
    namesAfter_cons_of_ne fun same => differs (SourceToken.word.inj same)]
  rfl

/-- **Several functions**, one after the other. -/
theorem namesAfter_flatMap {α : Type} {f : α → Source} {name : α → String} (l : List α)
    (declares : ∀ a ∈ l, ∀ rest, namesAfter keyword (f a ++ rest) =
      name a :: namesAfter keyword rest) (rest : Source) :
    namesAfter keyword (l.flatMap f ++ rest) = l.map name ++ namesAfter keyword rest := by
  induction l with
  | nil => rfl
  | cons a later ih =>
    obtain ⟨first, others⟩ := List.forall_mem_cons.1 declares
    rw [List.flatMap_cons, List.append_assoc, first, ih others]
    rfl

/-- What is before the brace is all that counts. -/
theorem isInherent_braces (head : before.head? = some (.word "impl")) (lacks : Lacks "for" before)
    (body : Source) :
    isInherent (before ++ braces body) = true := by
  have first : (before ++ braces body).head? = some (.word "impl") := by
    cases before with
    | nil => cases head
    | cons token rest => exact head
  have inHead : ∀ (l rest : Source),
    ∀ token ∈ (l ++ .word "\x7b" :: rest).takeWhile (· != .word "\x7b"),
      token ∈ l := by
    intro l rest
    induction l with
    | nil => exact nofun
    | cons token later ih =>
      intro other mem
      rw [List.cons_append, List.takeWhile_cons] at mem
      split at mem
      · rcases List.mem_cons.1 mem with rfl | mem
        · exact List.mem_cons_self ..
        · exact List.mem_cons_of_mem _ (ih other mem)
      · cases mem
  have none : ((before ++ braces body).takeWhile (· != .word "\x7b")).contains (.word "for") =
    false := by
    rw [Bool.eq_false_iff, Ne, List.contains_iff_mem]
    exact fun mem => lacks (inHead before _ _ mem)
  rw [isInherent, first, none]
  rfl

/-- What begins otherwise holds no functions of a type. -/
theorem not_isInherent_of_head {token : SourceToken} (differs : token ≠ .word "impl")
    (rest : Source) :
    isInherent (token :: rest) = false := by
  rw [isInherent, List.head?_cons, beq_eq_false_iff_ne.2 fun same => differs (Option.some.inj same)]
  rfl

/-- An implementation for a trait holds no functions of a type itself. -/
theorem not_isInherent_of_trait (isTrait : .word "for" ∈ before) (lacks : Lacks "\x7b" before) :
    isInherent (before ++ after) = false := by
  have kept : ∀ token ∈ before, (token != .word "\x7b") = true :=
    fun token mem => bne_iff_ne.2 fun same => lacks (same ▸ mem)
  have here : ((before ++ after).takeWhile (· != .word "\x7b")).contains (.word "for") = true := by
    rw [List.takeWhile_append_of_pos kept, List.contains_iff_mem]
    exact List.mem_append_left _ isTrait
  rw [isInherent, here, Bool.not_true, Bool.and_false]

end

end Source

namespace Rendering

open Source

/-! ## Pieces of items -/

section

variable {keyword : String}

theorem lacks_identifier (isKeyword : keyword ∈ languageKeywords) (name : String) :
    Lacks keyword (word (identifier name)) :=
  lacks_word.2 fun same => identifier_notMem_languageKeywords name (same ▸ isKeyword)

theorem identifier_ne_fn (name : String) : identifier name ≠ "fn" :=
  fun same => identifier_notMem_languageKeywords name (same ▸ by decide)

theorem lacks_number (noNumber : keyword.toList.all Char.isDigit = false) (n : Nat) :
    Lacks keyword (number n) := by
  refine lacks_word.2 fun same => ?_
  rw [same, String.toList_ofList, List.all_eq_true.2 fun _ mem =>
    Text.isDigit_of_mem_digits mem] at noNumber
  cases noNumber

theorem runtimeName_ne_fn (type : SimpleBuiltin) : "fn" ≠ runtimeName type := by
  cases type <;> decide

theorem lacks_typePath_fn (definitions : List Definition) (type : TypeRef) :
    Lacks "fn" (typePath definitions type) := by
  unfold typePath
  split
  · exact lacks_words (by decide)
  · exact lacks_append.2 ⟨lacks_words (by decide), lacks_word.2 (runtimeName_ne_fn _)⟩
  · exact lacks_identifier (by decide) _

end

/-- The struct of an item with two attributes. -/
theorem structName?_struct (documentation name : String) (instances : Source)
    (lacks : Lacks "]" instances) (rest : Source) :
    structName? (doc documentation ++ (word "#" ++ brackets instances) ++ words "pub struct" ++
      word name ++ rest) =
      some name := by
  have documented : Lacks "]" (words "doc =" ++ literal documentation) :=
    lacks_append.2 ⟨lacks_words (by decide), lacks_literal _⟩
  rw [structName?, doc, List.append_assoc, List.append_assoc, List.append_assoc,
    skipAttributes_attribute documented,
    skipAttributes_attribute lacks, show words "pub struct" =
    [.word "pub", .word "struct"] from words_ofList _]
  rfl

theorem lacks_derive {instances : List String} (allowed : "]" ∉ instances) :
    Lacks "]" (word "derive" ++ parens (commas (instances.map word))) := by
  refine lacks_append.2 ⟨lacks_word.2 (by decide), lacks_parens.2 ⟨by decide, ?_⟩⟩
  refine lacks_commas (by decide) fun piece mem => ?_
  obtain ⟨name, mem', rfl⟩ := List.mem_map.1 mem
  exact lacks_word.2 fun same => allowed (same ▸ mem')

/-- The struct of a definition or a wrapper. -/
theorem structName?_documented (documentation name : String) {instances : List String}
    (allowed : "]" ∉ instances) (rest : Source) :
    structName? (doc documentation ++ derive instances ++ words "pub struct" ++ word name ++ rest) =
      some name :=
  structName?_struct documentation name _ (lacks_derive allowed) rest

/-! ## Structs of files -/

/-- An implementation declares no struct. -/
theorem structName?_impl {text : List Char} (head : (text.splitOn ' ').head? = some "impl".toList)
    (rest : Source) :
    structName? (words (String.ofList text) ++ rest) = none := by
  refine structName?_of_head ?_ rest
  rw [words_ofList, List.head?_map, head]
  rfl

/-- Items of which only the first declares a struct. -/
theorem structNames_cons {item : Source} {others : List Source} {name : String}
    (first : structName? item = some name) (none : ∀ other ∈ others, structName? other = none) :
    structNames (item :: others) = [name] := by
  rw [structNames, List.filterMap_cons_some first, List.filterMap_eq_nil_iff.2 none]

/-- **The struct of a definition.** -/
theorem structNames_definitionItems (definitions : List Definition) (d : Definition) :
    structNames (definitionItems definitions d) = [identifier d.name] := by
  unfold definitionItems
  split
  · refine structNames_cons ?_ (List.forall_mem_cons.2 ⟨?_, List.forall_mem_singleton.2 ?_⟩)
    · rw [List.append_assoc]
      exact structName?_documented _ _ (by decide) _
    · rw [List.append_assoc]
      exact structName?_impl (by decide) _
    · rw [List.append_assoc]
      exact structName?_impl (by decide) _
  · refine structNames_cons (structName?_documented _ _ (by decide) _) ?_
    refine List.forall_mem_cons.2 ⟨rfl, List.forall_mem_cons.2 ⟨?_, List.forall_mem_singleton.2 ?_⟩⟩
    · rw [List.append_assoc]
      exact structName?_impl (by decide) _
    · rw [List.append_assoc]
      exact structName?_impl (by decide) _
  · refine structNames_cons ?_ (List.forall_mem_singleton.2 ?_)
    · rw [List.append_assoc]
      exact structName?_documented _ _ (by decide) _
    · rw [List.append_assoc]
      exact structName?_impl (by decide) _

/-- **The struct of a wrapper.** -/
theorem structNames_messageItems (definitions : List Definition) (m : MessageDefinition) :
    structNames (messageItems definitions m) = [identifier m.name] := by
  refine structNames_cons (structName?_documented _ _ (by decide) _) ?_
  refine List.forall_mem_cons.2 ⟨rfl, List.forall_mem_singleton.2 ?_⟩
  rw [List.append_assoc]
  exact structName?_impl (by decide) _

/-- **The struct of a client.** -/
theorem structNames_clientItems (client : ClientDefinition) :
    structNames (clientItems client) = [identifier client.name] := by
  have documented : Lacks "]" (words "doc =" ++
      literal (" Client of the service described by \x60" ++ client.source ++ "\x60.")) :=
    lacks_append.2 ⟨lacks_words (by decide), lacks_literal _⟩
  refine structNames_cons ?_ (List.forall_mem_singleton.2 ?_)
  · rw [structName?, List.append_assoc, List.append_assoc, List.append_assoc, doc,
      skipAttributes_attribute documented,
      show words "pub struct" = [.word "pub", .word "struct"] from words_ofList _]
    rfl
  · rw [List.append_assoc, List.append_assoc]
    exact structName?_impl (by decide) _

theorem structNames_append (items more : List Source) :
    structNames (items ++ more) = structNames items ++ structNames more :=
  List.filterMap_append

/-- Items each group of which declares one struct. -/
theorem structNames_flatMap {α : Type} {f : α → List Source} {name : α → String}
    (declares : ∀ a, structNames (f a) = [name a]) (l : List α) :
    structNames (l.flatMap f) = l.map name := by
  induction l with
  | nil => rfl
  | cons a rest ih =>
    rw [List.flatMap_cons, structNames_append, declares, ih]
    rfl

/-- What stands at the beginning of a file declares no struct. -/
theorem structNames_fileAttributes : structNames fileAttributes = [] := by decide

theorem structNames_runtime (items : List Source) :
    structNames (useRuntime :: items) = structNames items :=
  List.filterMap_cons_none (by decide)

/-- **The structs of a file of definitions.** -/
theorem structNames_typeItems (definitions : List Definition) :
    structNames (typeItems definitions) = definitions.map (identifier ·.name) := by
  rw [typeItems, structNames_append, structNames_fileAttributes, structNames_runtime,
    List.nil_append]
  exact structNames_flatMap (structNames_definitionItems definitions) definitions

/-- **The structs of the files of a client**, file by file. -/
theorem structNames_clientFiles (definitions : List Definition) (client : ClientDefinition) :
    (clientFiles definitions client).map (structNames ·.items) =
      [definitions.map (identifier ·.name), client.messages.map (identifier ·.name),
        [identifier client.name], []] := by
  have messages : structNames
    (fileAttributes ++ useRuntime :: words "use super : : types : : * ;" ::
      client.messages.flatMap (messageItems definitions)) =
      client.messages.map (identifier ·.name) := by
    rw [structNames_append, structNames_fileAttributes, structNames_runtime, List.nil_append,
      structNames, List.filterMap_cons_none (by decide)]
    exact structNames_flatMap (structNames_messageItems definitions) client.messages
  have methods : structNames
    (fileAttributes ++ useRuntime :: words "use super : : messages : : * ;" ::
      clientItems client) = [identifier client.name] := by
    rw [structNames_append, structNames_fileAttributes, structNames_runtime, List.nil_append,
      structNames, List.filterMap_cons_none (by decide)]
    exact structNames_clientItems client
  have modules : structNames (fileAttributes ++
      [words "pub mod client ;", words "pub mod messages ;", words "pub mod types ;",
       words "pub use client : :" ++ word (identifier client.name) ++ word ";"]) = [] := by
    rw [structNames_append, structNames_fileAttributes, List.nil_append, structNames,
      List.filterMap_cons_none (by decide), List.filterMap_cons_none (by decide +kernel),
      List.filterMap_cons_none (by decide),
      show words "pub use client : :" =
      [.word "pub", .word "use", .word "client", .word ":", .word ":"] from
        words_ofList _]
    rfl
  rw [clientFiles, List.map_cons, List.map_cons, List.map_cons, List.map_cons, List.map_nil,
    structNames_typeItems, messages, methods, modules]

/-! ## Functions of types -/

/-- A field as it is rendered: its name is an identifier, and there is no function in its type. -/
structure IsFieldSource (field : FieldSource) : Prop where
  name : field.name = word (identifier field.definition.name)
  type : Lacks "fn" field.type

theorem isFieldSource_of_mem (definitions : List Definition) (fields : List FieldDefinition) :
    ∀ field ∈ fieldSources definitions fields, IsFieldSource field := by
  intro field mem
  obtain ⟨⟨declared, index⟩, -, rfl⟩ := List.mem_map.1 mem
  exact ⟨rfl, lacks_typePath_fn definitions declared.type⟩

theorem map_definition_fieldSources (definitions : List Definition)
    (fields : List FieldDefinition) :
    (fieldSources definitions fields).map FieldSource.definition = fields := by
  rw [fieldSources, List.map_map]
  exact List.zipIdx_map_fst 0 fields

theorem IsFieldSource.lacks {field : FieldSource} (h : IsFieldSource field) :
    Lacks "fn" field.name :=
  h.name ▸ lacks_identifier (by decide) _

/-- **The function of a field.** -/
theorem namesAfter_accessor {field : FieldSource} (h : IsFieldSource field) (rest : Source) :
    namesAfter "fn" (accessor field ++ rest) =
      identifier field.definition.name :: namesAfter "fn" rest := by
  have receiver : Lacks "fn" (words "& self") := lacks_words (by decide)
  have result : Lacks "fn" (words "- >") := lacks_words (by decide)
  have single : Lacks "fn" (words "Option < &") := lacks_words (by decide)
  have access : Lacks "fn" (words "self .") := lacks_words (by decide)
  have first : Lacks "fn" (words ". first") := lacks_words (by decide)
  have reference : Lacks "fn" (words "& self .") := lacks_words (by decide)
  have named := lacks_identifier (show "fn" ∈ languageKeywords by decide) field.definition.name
  have after := @namesAfter_append_of_lacks "fn"
  unfold accessor
  split
  · simp [List.append_assoc, h.name, h.type, call, namesAfter_fn (identifier_ne_fn _), after,
      receiver, result, single, access, first, named]
  · simp [List.append_assoc, h.name, h.type, namesAfter_fn (identifier_ne_fn _), after, receiver,
      result, reference, named]

/-- An item that is documented holds no functions of a type. -/
theorem not_isInherent_doc (text : String) (rest : Source) :
    isInherent (doc text ++ rest) = false :=
  not_isInherent_of_head (by decide : SourceToken.word "#" ≠ .word "impl") _

/-- An implementation for a trait. -/
theorem not_isInherent_impl {text : List Char} (isTrait : "for".toList ∈ text.splitOn ' ')
    (lacks : "\x7b".toList ∉ text.splitOn ' ') (rest : Source) :
    isInherent (words (String.ofList text) ++ rest) = false := by
  refine not_isInherent_of_trait ?_ (lacks_words lacks)
  rw [words_ofList]
  exact List.mem_map_of_mem (f := fun word => SourceToken.word (String.ofList word)) isTrait

theorem lacks_fn_validated {inner : Source} (lacks : Lacks "fn" inner) :
    Lacks "fn" (validated inner) :=
  lacks_append.2 ⟨lacks_append.2 ⟨lacks_words (by decide), lacks⟩, lacks_words (by decide)⟩

/-- The function that makes a structured type, given its parameters and its body. -/
theorem namesAfter_new {parameters body : Source} (lacks : Lacks "fn" parameters)
    (lacks' : Lacks "fn" body) (rest : Source) :
    namesAfter "fn" (words "pub fn new < 'a , 'input : 'a >" ++ parens parameters ++
      validated (word "Self") ++ braces body ++ rest) = "new" :: namesAfter "fn" rest := by
  have head : words "pub fn new < 'a , 'input : 'a >" =
      words "pub fn" ++ (word "new" ++ words "< 'a , 'input : 'a >") := by
    rw [show words "pub fn" = [.word "pub", .word "fn"] from words_ofList _,
      show words "< 'a , 'input : 'a >" =
      [.word "<", .word "'a", .word ",", .word "'input", .word ":", .word "'a",
        .word ">"] from words_ofList _]
    exact words_ofList _
  have lifetimes : Lacks "fn" (words "< 'a , 'input : 'a >") := lacks_words (by decide)
  have result := lacks_fn_validated (lacks_word.2 (by decide : "fn" ≠ "Self"))
  simp only [head, List.append_assoc]
  rw [namesAfter_fn (by decide), namesAfter_append_of_lacks lifetimes,
    namesAfter_append_of_lacks (lacks_parens.2 ⟨by decide, lacks⟩),
    namesAfter_append_of_lacks result,
    namesAfter_append_of_lacks (lacks_braces.2 ⟨by decide, lacks'⟩)]

section

variable {sources : List FieldSource}

/-- The parameters of the function that makes a structured type are its fields. -/
theorem lacks_parameters (areSources : ∀ field ∈ sources, IsFieldSource field) :
    Lacks "fn" (commas (sources.map fun field =>
      field.name ++ words ": impl Into < Children < 'a , 'input ," ++ field.type ++
        words "> >")) := by
  refine lacks_commas (by decide) fun piece mem => ?_
  obtain ⟨field, ofSources, rfl⟩ := List.mem_map.1 mem
  have taken : Lacks "fn" (words ": impl Into < Children < 'a , 'input ,") :=
    lacks_words (by decide)
  have closing : Lacks "fn" (words "> >") := lacks_words (by decide)
  simp [(areSources field ofSources).lacks, (areSources field ofSources).type, taken, closing]

/-- The values of the fields are what is given for them. -/
theorem lacks_values (areSources : ∀ field ∈ sources, IsFieldSource field) :
    Lacks "fn" (commas (sources.map fun field =>
      field.name ++ word ":" ++ call (field.name ++ words ". into") ++ words ". coerce" ++
        parens (fieldAt field.index) ++ word "?")) := by
  refine lacks_commas (by decide) fun piece mem => ?_
  obtain ⟨field, ofSources, rfl⟩ := List.mem_map.1 mem
  have into : Lacks "fn" (words ". into") := lacks_words (by decide)
  have coerce : Lacks "fn" (words ". coerce") := lacks_words (by decide)
  have declared : Lacks "fn" (words "& Self : : FIELDS") := lacks_words (by decide)
  have place : Lacks "fn" (number field.index) := lacks_number (by decide) _
  simp [(areSources field ofSources).lacks, call, fieldAt, into, coerce, declared, place]

end

/-- **The functions of a structured type**: the one that makes it, and those of its fields. -/
theorem inherentFunctions_complexItems (definitions : List Definition) (d : Definition)
    (fields : List FieldDefinition) :
    inherentFunctions (complexItems definitions d fields) =
      "new" :: fields.map (identifier ·.name) := by
  have areSources := isFieldSource_of_mem definitions fields
  have inherent :
      ∀ body, isInherent (word "impl" ++ word (identifier d.name) ++ braces body) = true :=
    isInherent_braces rfl (lacks_append.2
      ⟨lacks_word.2 (by decide), lacks_identifier (by decide) _⟩)
  have head : Lacks "fn" (word "impl" ++ word (identifier d.name)) :=
    lacks_append.2 ⟨lacks_word.2 (by decide), lacks_identifier (by decide) _⟩
  have accessors := namesAfter_flatMap _ fun field mem => namesAfter_accessor (areSources field mem)
  have body := lacks_append.2 ⟨lacks_word.2 (by decide : "fn" ≠ "Ok"), lacks_parens.2 ⟨by decide,
    lacks_append.2 ⟨lacks_word.2 (by decide : "fn" ≠ "Self"),
      lacks_braces.2 ⟨by decide, lacks_values areSources⟩⟩⟩⟩
  rw [inherentFunctions, complexItems, List.filter_cons_of_neg,
    List.filter_cons_of_pos (inherent _),
    List.filter_cons_of_neg, List.filter_cons_of_neg, List.filter_nil, List.flatMap_singleton]
  · rw [namesAfter_append_of_lacks head, braces, List.cons_append,
      namesAfter_cons_of_ne (by decide), List.append_assoc,
      namesAfter_new (lacks_parameters areSources) body,
      accessors]
    have names : (fieldSources definitions fields).map
      (fun field => identifier field.definition.name) =
        fields.map (identifier ·.name) := by
      conv_rhs => rw [← map_definition_fieldSources definitions fields, List.map_map]
      rfl
    rw [names]
    exact congrArg ("new" :: ·) (List.append_nil _)
  · simp only [List.append_assoc]
    exact Bool.eq_false_iff.1 (not_isInherent_impl (by decide) (by decide) _)
  · simp only [List.append_assoc]
    exact Bool.eq_false_iff.1 (not_isInherent_impl (by decide) (by decide) _)
  · simp only [List.append_assoc]
    exact Bool.eq_false_iff.1 (not_isInherent_doc _ _)

theorem lacks_fn_doc (text : String) : Lacks "fn" (doc text) := by
  have head : Lacks "fn" (words "doc =") := lacks_words (by decide)
  simp [doc, head]

/-- **The function of an operation.** -/
theorem namesAfter_operationMethod (client : ClientDefinition) (operation : OperationDefinition)
    (rest : Source) :
    namesAfter "fn" (operationMethod client operation ++ rest) =
      identifier operation.method :: namesAfter "fn" rest := by
  have documented : Lacks "fn"
    (((operation.documentation.map Text.lines).getD []).flatMap fun line =>
      doc (" " ++ Text.trim line)) := by
    intro mem
    obtain ⟨line, -, mem⟩ := List.mem_flatMap.1 mem
    exact lacks_fn_doc _ mem
  have parameters : Lacks "fn" (words "& self , input : &") := lacks_words (by decide)
  have result : Lacks "fn" (words "- > Result <") := lacks_words (by decide)
  have failed : Lacks "fn" (words ", ClientError >") := lacks_words (by decide)
  have execute : Lacks "fn" (words "self . inner . execute_action") := lacks_words (by decide)
  have input : Lacks "fn" (words ", input") := lacks_words (by decide)
  have wrapper : ∀ place, Lacks "fn" (wrapperName client place) :=
    fun place => lacks_identifier (by decide) _
  have after := @namesAfter_append_of_lacks "fn"
  unfold operationMethod
  simp [List.append_assoc, namesAfter_fn (identifier_ne_fn _), after, documented, parameters,
    result, failed, execute, input, wrapper]

/-- **The functions of a client**: the one that makes it, the one that gives its dispatcher, and
those of its operations. -/
theorem inherentFunctions_clientItems (client : ClientDefinition) :
    inherentFunctions (clientItems client) =
      "new" :: "dispatcher" :: client.operations.map (identifier ·.method) := by
  have bound : words "impl < D : ActionDispatcher >" =
      [.word "impl", .word "<", .word "D", .word ":", .word "ActionDispatcher", .word ">"] :=
      words_ofList _
  have inherent : ∀ body, isInherent
    (words "impl < D : ActionDispatcher >" ++ word (identifier client.name) ++
      words "< D >" ++ braces body) = true := by
    refine isInherent_braces (by rw [bound]; rfl) ?_
    refine lacks_append.2 ⟨lacks_append.2 ⟨?_, lacks_identifier (by decide) _⟩,
      lacks_words (by decide)⟩
    exact lacks_words (by decide)
  have named := lacks_identifier (show "fn" ∈ languageKeywords by decide) client.name
  have generic : Lacks "fn" (words "impl < D : ActionDispatcher >") := lacks_words (by decide)
  have parameter : Lacks "fn" (words "< D >") := lacks_words (by decide)
  have location : Lacks "fn" (words "pub const WSDL_LOCATION : & 'static str =") :=
    lacks_words (by decide)
  have made : words "pub fn new" = words "pub fn" ++ word "new" := by
    rw [show words "pub fn" = [.word "pub", .word "fn"] from words_ofList _]
    exact words_ofList _
  have given : Lacks "fn" (words "dispatcher : D") := lacks_words (by decide)
  have itself : Lacks "fn" (words "- > Self") := lacks_words (by decide)
  have inner : Lacks "fn" (words "inner : SoapClient : : new") := lacks_words (by decide)
  have gives : words "pub fn dispatcher" = words "pub fn" ++ word "dispatcher" := by
    rw [show words "pub fn" = [.word "pub", .word "fn"] from words_ofList _]
    exact words_ofList _
  have receiver : Lacks "fn" (words "& self") := lacks_words (by decide)
  have result : Lacks "fn" (words "- > & D") := lacks_words (by decide)
  have access : Lacks "fn" (words "self . inner . dispatcher") := lacks_words (by decide)
  have after := @namesAfter_append_of_lacks "fn"
  have operations := namesAfter_flatMap client.operations fun operation _ =>
    namesAfter_operationMethod client operation
  rw [inherentFunctions, clientItems, List.filter_cons_of_neg, List.filter_cons_of_pos (inherent _),
    List.filter_nil, List.flatMap_singleton]
  · rw [after (lacks_append.2 ⟨lacks_append.2 ⟨generic, named⟩, parameter⟩), braces,
      List.cons_append, namesAfter_cons_of_ne (by decide)]
    simp only [List.append_assoc, made, gives]
    rw [after location, after (lacks_literal _), after (lacks_word.2 (by decide)),
      namesAfter_fn (by decide)]
    rw [after, after itself, after, namesAfter_fn (by decide), after, after result, after,
      operations]
    · exact congrArg ("new" :: "dispatcher" :: ·) (List.append_nil _)
    · simp [call, access]
    · simp [receiver]
    · simp [inner]
    · simp [given]
  · simp only [List.append_assoc]
    exact Bool.eq_false_iff.1 (not_isInherent_doc _ _)

end Rendering

end SchemaBinding
