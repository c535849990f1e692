import SchemaBinding.Proofs.Client.Named
import SchemaBinding.Proofs.Rendering.Declared

/-!
# Identifiers in rendered files differ

A name is derived from every text in which there is a letter or digit, and its
identifier is valid. What is given out is new before it is rendered, and stays
so: in the source text for definitions no two structs have the same name, nor
two functions of a structured type (`keepsApart_of_areNamed`), and the same
holds of the wrappers, their parts and the methods of a client
(`keepsApart_of_isNamed`). The result for all that is generated is
`identifiers_valid_and_distinct`.
-/

namespace SchemaBinding

namespace Rendering

open Naming Source

/-! ## Names that are given out -/

/-- Letters and digits have the form of derived names when a letter comes first. -/
theorem hasForm_ofList {c : Char} {rest : List Char} (first : c.isAlpha = true)
    (others : ∀ d ∈ rest, d.isAlphanum = true) : HasForm (String.ofList (c :: rest)) := by
  have alphanum : ∀ d ∈ c :: rest, d.isAlphanum = true :=
    List.forall_mem_cons.2 ⟨by rw [Char.isAlphanum, first, Bool.true_or], others⟩
  have ends := endsPlainly_of_forall (List.cons_ne_nil c rest) alphanum
  refine ⟨⟨⟨c, rest, String.toList_ofList, .inl first⟩, ?_, ?_⟩,
    .inl (by rwa [String.toList_ofList])⟩
  · rw [String.toList_ofList]
    exact fun d mem => .inl (alphanum d mem)
  · intro same
    obtain ⟨rfl, -⟩ := List.cons.inj (String.ofList_injective same)
    exact absurd first (by decide)

theorem hasForm_new : HasForm "new" := hasForm_ofList (by decide) (List.all_eq_true.1 (by decide))

theorem hasForm_dispatcher : HasForm "dispatcher" :=
  hasForm_ofList (by decide) (List.all_eq_true.1 (by decide))

theorem identifier_new : identifier "new" = "new" := by decide

theorem identifier_dispatcher : identifier "dispatcher" = "dispatcher" := by decide

/-- Names that are given out become different identifiers. -/
theorem nodup_identifier_of_givesOut {use : Use} {taken : List String}
    {pairs : List (String × String)} (h : GivesOut use taken pairs) :
    ((pairs.map Prod.snd).map identifier).Nodup := by
  refine nodup_map_identifier (fun name mem => ?_) h.areNew.nodup
  obtain ⟨pair, ofPairs, rfl⟩ := List.mem_map.1 mem
  exact (h.isDerived pair ofPairs).hasForm

/-! ## Definitions -/

/-- Whether the identifiers in the source text of definitions differ: those of the structs, and
those of the functions of each structured type, which are its fields besides the one that makes
it. -/
structure KeepsApart (definitions : List Definition) : Prop where
  structs : structNames (typeItems definitions) = definitions.map (identifier ·.name)
  structsDiffer : (structNames (typeItems definitions)).Nodup
  functions : ∀ d ∈ definitions, ∀ fields, d.body = .complex fields →
    inherentFunctions (definitionItems definitions d) = "new" :: fields.map (identifier ·.name)
  functionsDiffer : ∀ d ∈ definitions, ∀ fields, d.body = .complex fields →
    (inherentFunctions (definitionItems definitions d)).Nodup

theorem inherentFunctions_definitionItems {definitions : List Definition} {d : Definition}
    {fields : List FieldDefinition} (isComplex : d.body = .complex fields) :
    inherentFunctions (definitionItems definitions d) =
      "new" :: fields.map (identifier ·.name) := by
  unfold definitionItems
  rw [isComplex]
  exact inherentFunctions_complexItems definitions d fields

/-- **Definitions with names of their own** are kept apart. -/
theorem keepsApart_of_areNamed {definitions : List Definition} (named : AreNamed definitions) :
    KeepsApart definitions where
  structs := structNames_typeItems definitions
  structsDiffer := by
    have distinct := nodup_map_identifier (fun name mem => ?_) named.nodup
    · rw [List.map_map] at distinct
      rw [structNames_typeItems]
      exact distinct
    · obtain ⟨d, ofDefinitions, rfl⟩ := List.mem_map.1 mem
      exact (named.isDerived d ofDefinitions).hasForm
  functions := fun _ _ _ => inherentFunctions_definitionItems
  functionsDiffer := by
    intro d mem fields isComplex
    have givesOut := named.fields d mem fields isComplex
    have names : (fieldNames fields).map Prod.snd = fields.map FieldDefinition.name := List.map_map
    have distinct := nodup_identifier_of_givesOut givesOut
    rw [names, List.map_map] at distinct
    rw [inherentFunctions_definitionItems isComplex]
    refine List.nodup_cons.2 ⟨fun taken => ?_, distinct⟩
    obtain ⟨field, ofFields, same⟩ := List.mem_map.1 taken
    have isDerived := givesOut.isDerived _ (List.mem_map_of_mem ofFields)
    have reserved := identifier_injOn isDerived.hasForm hasForm_new (same.trans identifier_new.symm)
    exact isDerived.notMem_reservedMethods (reserved ▸ List.mem_cons_self ..)

/-! ## Clients -/

/-- Whether the identifiers in the source text of a client differ: those of the structs of each
file, those of the parts of each wrapper, and those of the functions of the client, which are its
methods besides the two that it always has. -/
structure ClientKeepsApart (definitions : List Definition) (client : ClientDefinition) : Prop where
  structs : (clientFiles definitions client).map (structNames ·.items) =
    [definitions.map (identifier ·.name), client.messages.map (identifier ·.name),
      [identifier client.name], []]
  structsDiffer : ∀ file ∈ clientFiles definitions client, (structNames file.items).Nodup
  partsDiffer : ∀ wrapper ∈ client.messages, (wrapper.parts.map (identifier ·.name)).Nodup
  functions : inherentFunctions (clientItems client) =
    "new" :: "dispatcher" :: client.operations.map (identifier ·.method)
  functionsDiffer : (inherentFunctions (clientItems client)).Nodup

/-- **Clients with names of their own** are kept apart. -/
theorem keepsApart_of_isNamed {definitions : List Definition} {client : ClientDefinition}
    {service : String} (definitionsNamed : AreNamed definitions) (named : client.IsNamed service) :
    ClientKeepsApart definitions client where
  structs := structNames_clientFiles definitions client
  structsDiffer := by
    have types := (keepsApart_of_areNamed definitionsNamed).structsDiffer
    rw [structNames_typeItems] at types
    have wrappers := nodup_map_identifier (fun name mem => ?_) named.wrappersDiffer
    · rw [List.map_map] at wrappers
      intro file mem
      have ofFiles := List.mem_map_of_mem (f := fun file : SourceFile => structNames file.items) mem
      rw [structNames_clientFiles] at ofFiles
      have all : ∀ names ∈ [definitions.map (identifier ·.name),
        client.messages.map (identifier ·.name), [identifier client.name], []], names.Nodup :=
        List.forall_mem_cons.2 ⟨types, List.forall_mem_cons.2 ⟨wrappers, List.forall_mem_cons.2
          ⟨List.nodup_singleton _, List.forall_mem_singleton.2 List.nodup_nil⟩⟩⟩
      exact all _ ofFiles
    · obtain ⟨wrapper, ofMessages, rfl⟩ := List.mem_map.1 mem
      exact (named.wrappers wrapper ofMessages).isDerived.hasForm
  partsDiffer := by
    intro wrapper mem
    have distinct := nodup_identifier_of_givesOut (named.wrappers wrapper mem).parts
    rwa [partNames, List.map_map, List.map_map] at distinct
  functions := inherentFunctions_clientItems client
  functionsDiffer := by
    have free : ∀ method ∈ client.operations.map OperationDefinition.method,
      method ∉ reservedMethods := by
      intro method mem
      obtain ⟨operation, ofOperations, rfl⟩ := List.mem_map.1 mem
      exact (named.methods operation ofOperations).notMem_reservedMethods
    have distinct : (reservedMethods ++ client.operations.map OperationDefinition.method).Nodup :=
      List.nodup_append.2 ⟨by decide, named.methodsDiffer, fun name reserved method mem same =>
        free method mem (same ▸ reserved)⟩
    have hasForm : ∀ name ∈ reservedMethods ++ client.operations.map OperationDefinition.method,
      HasForm name := by
      refine List.forall_mem_append.2 ⟨?_, fun method mem => ?_⟩
      · exact List.forall_mem_cons.2 ⟨hasForm_new, List.forall_mem_singleton.2 hasForm_dispatcher⟩
      · obtain ⟨operation, ofOperations, rfl⟩ := List.mem_map.1 mem
        exact (named.methods operation ofOperations).hasForm
    have identifiers := nodup_map_identifier hasForm distinct
    rw [List.map_append, List.map_map] at identifiers
    rw [inherentFunctions_clientItems, ← identifier_new, ← identifier_dispatcher]
    exact identifiers

/-! ## All that is generated -/

/-- **Identifiers are valid and differ.** No name is derived from a text if and only if there is no
letter or digit in it. Otherwise the identifier of the derived name is valid, with any number after
the name. In the source text of definitions and of clients the structs of a file, the fields of a
structured type, the parts of a message and the methods of a client have different identifiers. -/
theorem identifiers_valid_and_distinct :
    (∀ (use : Use) (name : String),
      (Naming.derive use name = .error (.invalidName name) ↔
        ∀ c ∈ name.toList, c.isAlphanum = false) ∧
      ((∃ c ∈ name.toList, c.isAlphanum = true) → ∃ derived, Naming.derive use name = .ok derived ∧
        ∀ given, IsNumbering derived given → IsIdentifier (identifier given))) ∧
    (∀ declarations selected definitions, definitionsOf declarations selected = .ok definitions →
      KeepsApart definitions) ∧
    (∀ description definitions client, clientOf description = .ok (definitions, client) →
      KeepsApart definitions ∧ ClientKeepsApart definitions client) := by
  refine ⟨fun use name => ⟨derive_eq_error_iff, fun some => ?_⟩, ?_, ?_⟩
  · obtain ⟨derived, derives⟩ := exists_derive some
    exact ⟨derived, derives, fun given numbering =>
      isIdentifier_identifier ((derive_hasForm derives).numbering numbering).plain⟩
  · exact fun declarations selected definitions made =>
      keepsApart_of_areNamed (areNamed_of_definitionsOf made)
  · intro description definitions client made
    obtain ⟨areNamed, isNamed⟩ := ClientBuilder.isNamed_of_clientOf made
    exact ⟨keepsApart_of_areNamed areNamed, keepsApart_of_isNamed areNamed isNamed⟩

/-- A type with two fields whose names come to the same keyword. -/
def keywordDeclarations : List Declaration :=
  [.complex ⟨"Rule", none, [{ name := "Self", namespaceName? := none, type? := none },
    { name := "self", namespaceName? := none, type? := none }]⟩]

/-- A service whose operation has the name of a method that every client has. -/
def keywordDescription : Description where
  source := "rules.wsdl"
  namespaceName? := none
  types := keywordDeclarations
  operations := [⟨"New", ⟨none, "Ask"⟩, ⟨none, "Ask"⟩, none⟩]
  messages := [⟨"Ask", none, [⟨"Self", .type ⟨none, "Rule"⟩⟩]⟩]
  service := "Rules"

theorem identifiers_valid_and_distinct_keyword :
    (∃ derived, Naming.derive .field "Self" = .ok derived ∧
      ∀ given, IsNumbering derived given → IsIdentifier (identifier given)) ∧
    (∃ definitions, definitionsOfAll keywordDeclarations = .ok definitions ∧
      KeepsApart definitions) ∧
    ∃ definitions client, clientOf keywordDescription = .ok (definitions, client) ∧
      ClientKeepsApart definitions client := by
  have made : definitionsOfAll keywordDeclarations =
      .ok [⟨"RuleComplexType", "Rule", none,
        .complex [⟨"self", "Self", .builtin .anyType, 1, .count 1, false, none⟩,
        ⟨"self2", "self", .builtin .anyType, 1, .count 1, false, none⟩]⟩] := by
    simp only [definitionsOfAll, definitionsOf, keywordDeclarations, Registry.generateAll,
      Registry.generateOn, Registry.bodyOn, Registry.fieldsOn, Registry.resolveOn]
    rfl
  have served : clientOf keywordDescription =
      .ok ([⟨"RuleComplexType", "Rule", none,
        .complex [⟨"self", "Self", .builtin .anyType, 1, .count 1, false, none⟩,
        ⟨"self2", "self", .builtin .anyType, 1, .count 1, false, none⟩]⟩],
        { name := "RulesClient", source := "rules.wsdl",
          messages := [⟨"AskMessage", "Ask", [⟨"self", "Self", .generated 0, .partName⟩]⟩],
          operations := [⟨"new_", "New", 0, 0, none⟩] }) := by
    have operations : keywordDescription.operations = [_] := rfl
    have ask : keywordDescription.message? ⟨none, "Ask"⟩ = some _ := rfl
    have rule : Registry.firstType? keywordDescription.types ⟨none, "Rule"⟩ = some _ := rfl
    simp only [clientOf, operations, List.mapM_cons, List.mapM_nil,
      ClientBuilder.operation, ClientBuilder.message, ask, ClientBuilder.parts,
      ClientBuilder.partType, Registry.resolveOn, rule, Registry.bodyOn, Registry.fieldsOn]
    rfl
  refine ⟨(identifiers_valid_and_distinct.1 .field "Self").2 ⟨'S', by decide, rfl⟩, ⟨_, made, ?_⟩,
    _, _, served, ?_⟩
  · exact identifiers_valid_and_distinct.2.1 _ _ _ made
  · exact (identifiers_valid_and_distinct.2.2 _ _ _ served).2

end Rendering

end SchemaBinding
