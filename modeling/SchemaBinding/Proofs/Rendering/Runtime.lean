import SchemaBinding.Proofs.Rendering.Distinct

/-!
# Rendered names and the runtime

The rendered files take all names of the runtime, and rely on a few methods of
what they declare. The name of a definition or a wrapper has something before
its ending, so that it is none of the names of the runtime
(`notMem_prelude_of_isDerived`). The name of a client is one for services of one
name only (`clientName_mem_prelude_iff`), and the function of a field has the
name of the method that writes values if and only if this is the name that is
derived for a field (`toWire_mem_iff`). The result is
`capturesRuntime_iff`.
-/

namespace SchemaBinding

namespace Rendering

open Naming Source

/-- The names of the runtime that every file takes. -/
def prelude : List String :=
  ["decode_part", "message_arguments", "ActionDispatcher", "ClientError", "Message", "SoapClient",
   "Children", "FieldMeta", "MaxOccurs", "AnyType", "ComplexType", "SimpleType", "TypeMeta",
   "ValidationError", "Whitespace", "NativeValue", "check_all", "Rule", "WireValue", "text_content",
   "xs", "XmlNode"]

/-! ## Names of the runtime -/

theorem fixed_notMem_prelude : ∀ name ∈ fixedKeywords, name ++ "_" ∉ prelude := by decide

theorem raw_notMem_prelude : ∀ name ∈ keywords, "r#" ++ name ∉ prelude := by decide

/-- An identifier is a name of the runtime only if the name that it is made of is. -/
theorem identifier_mem_prelude_iff {name : String} :
    identifier name ∈ prelude ↔ name ∈ prelude := by
  have notKeyword : ∀ name ∈ prelude, name ∉ keywords ∧ name ∉ fixedKeywords := by decide
  constructor
  · intro mem
    unfold identifier at mem
    split at mem
    · next fixed => exact absurd mem (fixed_notMem_prelude name fixed)
    · split at mem
      · next isKeyword => exact absurd mem (raw_notMem_prelude name isKeyword)
      · exact mem
  · intro mem
    obtain ⟨notKeyword, notFixed⟩ := notKeyword name mem
    rwa [identifier, if_neg notFixed, if_neg notKeyword]

/-- Derived names of types and clients have something before their ending. -/
theorem exists_before_ending {words : List (List Char)} {text ending : List Char}
    (h : Cuts words text) (some : words ≠ []) (isAlphanum : ∀ c ∈ text, c.isAlphanum = true) :
    ∃ before, before ≠ [] ∧ guardDigit (camelCase words ++ ending) = before ++ ending := by
  obtain ⟨c, rest, same, -⟩ := camelCase_cons h some isAlphanum
  rw [same, List.cons_append, guardDigit]
  split
  · exact ⟨'_' :: c :: rest, List.cons_ne_nil _ _, rfl⟩
  · exact ⟨c :: rest, List.cons_ne_nil _ _, rfl⟩

/-- What a name for a type or a client is derived from its words. -/
theorem exists_before_of_derive {use : Use} {declared derived : String} {ending : String}
    (camel : ∀ words, form use words =
      String.ofList (guardDigit (camelCase words ++ ending.toList)))
    (h : Naming.derive use declared = .ok derived) :
    ∃ before, before ≠ [] ∧ derived.toList = before ++ ending.toList := by
  rw [derive_eq] at h
  obtain ⟨words, found, rfl⟩ := map_eq_ok_iff.1 h
  obtain ⟨cuts, some⟩ := wordsOf_cuts found
  obtain ⟨before, nonempty, same⟩ := @exists_before_ending _ _ ending.toList cuts some fun c mem =>
    (List.mem_filter.1 mem).2
  exact ⟨before, nonempty, by rw [camel, String.toList_ofList, same]⟩

theorem not_endsWithDigit_prelude :
    ∀ name ∈ prelude, name.toList.getLast?.any Char.isDigit = false := by
  decide

/-- No name of the runtime has the ending of a definition or wrapper, with something before it. -/
theorem eq_ending_of_mem_prelude (kind : Kind) :
    ∀ name ∈ prelude, kind.ending.toList <:+ name.toList →
    name = kind.ending := by
  cases kind <;> decide

/-- **The name of a definition or wrapper** is none of the runtime. -/
theorem notMem_prelude_of_isDerived {kind : Kind} {declared name : String}
    (h : IsDerived (.type kind) declared name) : name ∉ prelude := by
  intro mem
  obtain ⟨derived, derives, numbering⟩ := h
  obtain rfl := numbering.eq_of_getLast? (not_endsWithDigit_prelude name mem)
  obtain ⟨before, nonempty, same⟩ := exists_before_of_derive (fun _ => rfl) derives
  have whole := eq_ending_of_mem_prelude kind name mem ⟨before, same.symm⟩
  rw [whole] at same
  exact nonempty (List.self_eq_append_left.1 same)

/-- **The name of a client** is one of the runtime in one case. -/
theorem clientName_mem_prelude_iff {service name : String} (h : clientName service = .ok name) :
    name ∈ prelude ↔ name = "SoapClient" := by
  have only : ∀ name ∈ prelude, "Client".toList <:+ name.toList → name = "SoapClient" := by decide
  constructor
  · intro mem
    obtain ⟨before, -, same⟩ := @exists_before_of_derive .client _ _ "Client" (fun _ => rfl) h
    exact only name mem ⟨before, same.symm⟩
  · rintro rfl
    decide

/-! ## Methods of what is declared -/

theorem fieldName_toWire : fieldName "toWire" = .ok "to_wire" := by rfl

/-- **The function of a field** has the name of the method that writes values if and only if this
name is derived for a field. -/
theorem toWire_mem_iff {fields : List FieldDefinition}
    (givesOut : GivesOut .field [] (fieldNames fields)) :
    "to_wire" ∈ fields.map (identifier ·.name) ↔
      ∃ field ∈ fields, fieldName field.xmlName = .ok "to_wire" := by
  have itself : identifier "to_wire" = "to_wire" := by decide
  have hasForm : HasForm "to_wire" := @derive_hasForm .field _ _ fieldName_toWire
  constructor
  · intro mem
    obtain ⟨field, ofFields, same⟩ := List.mem_map.1 mem
    have isDerived := givesOut.isDerived _ (List.mem_map_of_mem ofFields)
    have named := identifier_injOn isDerived.hasForm hasForm (same.trans itself.symm)
    obtain ⟨derived, derives, numbering⟩ := isDerived
    rw [named] at numbering
    obtain rfl := numbering.eq_of_getLast? (by decide)
    exact ⟨field, ofFields, derives⟩
  · rintro ⟨field, ofFields, derives⟩
    have given := givesOut.mem_of_derive (List.mem_map_of_mem ofFields) derives
    obtain ⟨pair, mem, same⟩ := List.mem_map.1 (given.resolve_left List.not_mem_nil)
    obtain ⟨other, ofFields', rfl⟩ := List.mem_map.1 mem
    exact List.mem_map.2 ⟨other, ofFields', (congrArg identifier same).trans itself⟩

/-! ## All that is generated -/

/-- How definitions get on with the runtime. No struct has one of its names, and the functions of
the fields of a structured type have neither the name of the one that makes the type nor, unless
this name is derived for a field, that of the method that writes values. -/
structure AvoidsRuntime (definitions : List Definition) : Prop where
  structs : ∀ name ∈ structNames (typeItems definitions), name ∉ prelude
  functions : ∀ d ∈ definitions, ∀ fields, d.body = .complex fields → ∃ names,
    inherentFunctions (definitionItems definitions d) = "new" :: names ∧ "new" ∉ names ∧
      ("to_wire" ∈ names ↔ ∃ field ∈ fields, fieldName field.xmlName = .ok "to_wire")

theorem avoidsRuntime_of_areNamed {definitions : List Definition} (named : AreNamed definitions) :
    AvoidsRuntime definitions where
  structs := by
    intro name mem
    rw [structNames_typeItems] at mem
    obtain ⟨d, ofDefinitions, rfl⟩ := List.mem_map.1 mem
    rw [identifier_mem_prelude_iff]
    exact notMem_prelude_of_isDerived (named.isDerived d ofDefinitions)
  functions := by
    intro d mem fields isComplex
    have distinct := (keepsApart_of_areNamed named).functionsDiffer d mem fields isComplex
    rw [inherentFunctions_definitionItems isComplex] at distinct
    exact ⟨_, inherentFunctions_definitionItems isComplex, (List.nodup_cons.1 distinct).1,
      toWire_mem_iff (named.fields d mem fields isComplex)⟩

/-- **What rendered names capture of the runtime.** No struct of a definition or a wrapper has a
name of the runtime, and no function of a field is taken for the one that makes its type. The struct
of a client has a name of the runtime if and only if the name derived for the service is that of the
client in the runtime. A function of a field hides the method that writes values if and only if this
name is derived for a field. -/
theorem capturesRuntime_iff (declarations selected : List Declaration) (description : Description) :
    (∀ definitions, definitionsOf declarations selected = .ok definitions →
      AvoidsRuntime definitions) ∧
    (∀ definitions client, clientOf description = .ok (definitions, client) →
      AvoidsRuntime definitions ∧
      (∀ wrapper ∈ client.messages, ∀ name ∈ structNames (messageItems definitions wrapper),
        name ∉ prelude) ∧
      ((∃ name ∈ structNames (clientItems client), name ∈ prelude) ↔
        clientName description.service = .ok "SoapClient")) := by
  refine ⟨fun _ made => avoidsRuntime_of_areNamed (areNamed_of_definitionsOf made), ?_⟩
  intro definitions client made
  obtain ⟨areNamed, isNamed⟩ := ClientBuilder.isNamed_of_clientOf made
  refine ⟨avoidsRuntime_of_areNamed areNamed, fun wrapper ofMessages name mem => ?_, ?_⟩
  · rw [structNames_messageItems] at mem
    rw [List.mem_singleton.1 mem, identifier_mem_prelude_iff]
    exact notMem_prelude_of_isDerived (isNamed.wrappers wrapper ofMessages).isDerived
  · have only := clientName_mem_prelude_iff isNamed.name
    rw [structNames_clientItems]
    constructor
    · rintro ⟨name, mem, taken⟩
      rw [List.mem_singleton.1 mem, identifier_mem_prelude_iff, only] at taken
      rw [← taken]
      exact isNamed.name
    · intro named
      obtain same := Except.ok.inj (isNamed.name.symm.trans named)
      exact ⟨_, List.mem_singleton_self _, identifier_mem_prelude_iff.2 (only.2 same)⟩

/-- A type with a field that has the name of the method that writes values. -/
def wireDeclarations : List Declaration :=
  [.complex ⟨"Line", none, [{ name := "toWire", namespaceName? := none, type? := none }]⟩]

def wireFields : List FieldDefinition :=
  [⟨"to_wire", "toWire", .builtin .anyType, 1, .count 1, false, none⟩]

theorem definitionsOfAll_wire :
    definitionsOfAll wireDeclarations =
      .ok [⟨"LineComplexType", "Line", none, .complex wireFields⟩] := by
  simp only [definitionsOfAll, definitionsOf, wireDeclarations, Registry.generateAll,
    Registry.generateOn, Registry.bodyOn, Registry.fieldsOn, Registry.resolveOn]
  rfl

/-- A service with the name of the client in the runtime. -/
def soapDescription : Description where
  source := "s.wsdl"
  namespaceName? := none
  types := []
  operations := []
  messages := []
  service := "Soap"

theorem clientOf_soap :
    clientOf soapDescription =
      .ok ([], { name := "SoapClient", source := "s.wsdl", messages := [], operations := [] }) := by
  rfl

theorem capturesRuntime_iff_unlucky :
    (∃ definitions, definitionsOfAll wireDeclarations = .ok definitions ∧
      AvoidsRuntime definitions) ∧
    ∃ definitions client, clientOf soapDescription = .ok (definitions, client) ∧
      ∃ name ∈ structNames (clientItems client), name ∈ prelude := by
  have captures := capturesRuntime_iff wireDeclarations wireDeclarations soapDescription
  exact ⟨⟨_, definitionsOfAll_wire, captures.1 _ definitionsOfAll_wire⟩, _, _, clientOf_soap,
    (captures.2 _ _ clientOf_soap).2.2.2 (by rfl)⟩

/-- **Rendered names capture names of the runtime.** A field may take the name of the method that
writes values, and a client that of the client in the runtime. -/
theorem not_forall_notMem_prelude :
    (¬ ∀ declarations definitions, definitionsOfAll declarations = .ok definitions →
      ∀ d ∈ definitions, ∀ fields,
      d.body = .complex fields → "to_wire" ∉ inherentFunctions (definitionItems definitions d)) ∧
    ¬ ∀ description definitions client, clientOf description = .ok (definitions, client) →
      ∀ name ∈ structNames (clientItems client), name ∉ prelude := by
  constructor
  · intro all
    have free := all _ _ definitionsOfAll_wire _ (List.mem_singleton_self _) wireFields rfl
    rw [inherentFunctions_definitionItems rfl] at free
    exact free (by decide)
  · intro all
    have free := all _ _ _ clientOf_soap
    rw [structNames_clientItems] at free
    exact free _ (List.mem_singleton_self _) (by decide)

end Rendering

end SchemaBinding
