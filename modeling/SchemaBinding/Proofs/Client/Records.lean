import SchemaBinding.Proofs.Binding.Denotation
import SchemaBinding.Proofs.Binding.Marshalling
import SchemaBinding.Proofs.Client.Faithful
import SchemaBinding.Proofs.Registry.Session
import SchemaBinding.Service.Exchange

/-!
# Records of fields and parts

The content of a structured value is a record of its fields, and the arguments
of several parts are a record of the parts. Records are tables: a name that is
given twice keeps the last value only (`Keyed.ofList_eq_self_iff`). So a record
has an entry for each field and each part if and only if their names differ
(`Fields.encode_eq_record_iff`, `Message.arguments_eq_record_iff`). Nothing keeps
names apart on the way from declarations to definitions and on to bindings, as
the fields of a binding are those of a declaration, one by one
(`Registry.exists_keepsFields`).
-/

namespace SchemaBinding

/-- **A table keeps all entries** if no key is given twice, and only then. -/
theorem Keyed.ofList_eq_self_iff {α : Type} {entries : List (String × α)} :
    ofList entries = entries ↔ (entries.map Prod.fst).Nodup :=
  ⟨fun same => same ▸ nodup_keys_ofList entries, ofList_of_nodup⟩

/-! ## Records of values -/

namespace Fields

/-- Whether a value can be made: constructed from what is given for its fields, or read from an
element. -/
def IsMade (fields : Fields) (v : fields.Values) : Prop :=
  (∃ given, fields.construct given = .ok v) ∨ ∃ e, fields.decode e = .ok v

/-- Whether the fields of a value that occur at most once have at most one value. -/
def IsBounded : (fields : Fields) → fields.Values → Prop
  | .nil, _ => True
  | .cons field _ rest, (values, others) =>
    (field.max.isSingle = true → values.length ≤ 1) ∧ rest.IsBounded others

end Fields

/-- What a field converts keeps to its bound. -/
theorem Field.length_le_of_convert {α β : Type} {field : Field} {absent : α → Bool}
    {value : α → Except Reason β} {given : List α} {values : List β}
    (h : field.convert absent value given = .ok values) (single : field.max.isSingle = true) :
    values.length ≤ 1 := by
  obtain ⟨allowed, converted⟩ := Field.convert_eq_ok_iff.1 h
  have one : field.max = .count 1 := eq_of_beq single
  rw [one, MaxOccurs.allows, decide_eq_true_iff, ← length_of_mapM converted] at allowed
  exact allowed

namespace Fields

theorem construct_cons_eq_ok {field : Field} {type : Binding} {rest : Fields}
    {children : List (Child type)} {given : rest.Given} {values : List type.Value}
    {others : rest.Values}
    (h : (Fields.cons field type rest).construct (children, given) = .ok (values, others)) :
    field.coerce children = .ok values ∧ rest.construct given = .ok others := by
  rw [construct] at h
  obtain ⟨values', first, h⟩ := exists_of_bind_eq_ok h
  obtain ⟨others', more, h⟩ := exists_of_bind_eq_ok h
  obtain ⟨rfl, rfl⟩ := Prod.mk.inj (Except.ok.inj h)
  exact ⟨first, more⟩

theorem isBounded_of_construct : ∀ (fields : Fields) {given : fields.Given} {v : fields.Values},
    fields.construct given = .ok v → fields.IsBounded v
  | .nil, _, _, _ => trivial
  | .cons _ _ rest, (_, _), (_, _), h => by
    obtain ⟨coerced, more⟩ := construct_cons_eq_ok h
    exact ⟨Field.length_le_of_convert coerced, rest.isBounded_of_construct more⟩

theorem isBounded_of_decode : ∀ (fields : Fields) {e : Xml.Element} {v : fields.Values},
    fields.decode e = .ok v → fields.IsBounded v
  | .nil, _, _, _ => trivial
  | .cons _ _ rest, _, (_, _), h => by
    obtain ⟨converted, more⟩ := decode_cons_eq_ok_iff.1 h
    exact ⟨Field.length_le_of_convert converted, rest.isBounded_of_decode more⟩

theorem IsMade.isBounded {fields : Fields} {v : fields.Values} (h : fields.IsMade v) :
    fields.IsBounded v := by
  rcases h with ⟨given, constructed⟩ | ⟨e, read⟩
  · exact fields.isBounded_of_construct constructed
  · exact fields.isBounded_of_decode read

/-- The entries of the record of a value hold what is seen of its fields. -/
theorem entries_eq_zip : ∀ (fields : Fields) {v : fields.Values}, fields.IsBounded v →
    fields.entries v = fields.names.zip (fields.accessed v)
  | .nil, _, _ => rfl
  | .cons field type rest, (values, others), ⟨bound, bounded⟩ => by
    have here : Wire.ofValues field (values.map type.encode) =
        if field.max.isSingle then ((values.head?).map type.encode).getD .null else .list
        (values.map type.encode) := by
      unfold Wire.ofValues
      split
      · next single =>
        match values, bound single with
        | [], _ => rfl
        | [_], _ => rfl
      · rfl
    have there := rest.entries_eq_zip bounded
    unfold entries names at there ⊢
    rw [toList, encode, accessed, List.zip_cons_cons, List.map_cons, List.map_cons,
      List.zip_cons_cons, there, here]

/-- **The record of a value has an entry for each field**, in order, with the values of the field,
if and only if no two fields have the same name. -/
theorem encode_eq_record_iff {fields : Fields} {v : fields.Values} (made : fields.IsMade v)
    (name : TypeName) :
    (Binding.complex name fields).encode v = .record (fields.names.zip (fields.accessed v)) ↔
      fields.names.Nodup := by
  have content : (Binding.complex name fields).encode v =
    .record (Keyed.ofList (fields.entries v)) := by rfl
  rw [content, ← fields.entries_eq_zip made.isBounded, ← fields.map_fst_entries v,
    ← Keyed.ofList_eq_self_iff]
  exact ⟨Wire.record.inj, congrArg Wire.record⟩

end Fields

/-- **The arguments of several parts have an entry for each part**, in order, with the value of the
part, if and only if no two parts have the same name. -/
theorem Message.arguments_eq_record_iff {values : List PartValue} (several : 2 ≤ values.length) :
    arguments values = .record (values.map fun v => (v.part.name, v.part.type.encode v.value)) ↔
      (values.map (·.part.name)).Nodup := by
  have parts : arguments values =
      .record (Keyed.ofList (values.map fun v => (v.part.name, v.part.type.encode v.value))) := by
    match values, several with
    | _ :: _ :: _, _ => rfl
  rw [parts]
  refine ⟨fun same => ?_, fun distinct => congrArg Wire.record (Keyed.ofList_of_nodup ?_)⟩
  · have keys := Keyed.ofList_eq_self_iff.1 (Wire.record.inj same)
    rwa [List.map_map] at keys
  · rwa [List.map_map]

/-! ## Fields of declarations -/

/-- The field that is declared as an element. -/
def ElementDeclaration.field (e : ElementDeclaration) : Field :=
  { name := e.name, min := e.min, max := e.max, nillable := e.nillable, default := e.default }

/-- Whether a structured binding is that of a declaration: its fields are the declared ones, in
order. The record of a value has an entry for each of them, in order, with the values of the field,
if and only if no two have the same name. -/
structure ComplexDeclaration.IsRecorded (declared : ComplexDeclaration) (name : TypeName)
    (fields : Fields) : Prop where
  toList : fields.toList = declared.fields.map ElementDeclaration.field
  encode : ∀ v, fields.IsMade v →
    ((Binding.complex name fields).encode v =
        .record ((declared.fields.map ElementDeclaration.name).zip (fields.accessed v)) ↔
      (declared.fields.map ElementDeclaration.name).Nodup)

/-- Whether every structured definition has the binding of a declaration that satisfies a
condition. -/
def KeepsFields (p : Declaration → Prop) (definitions : List Definition) (bindings : List Binding) :
    Prop :=
  ∀ (i : Nat) (definition : Definition) (fields : List FieldDefinition), definitions[i]? =
    some definition →
    definition.body = .complex fields → ∃ (declared : ComplexDeclaration) (bound : Fields),
      p (.complex declared) ∧ (Declaration.complex declared).key = definition.key ∧
      bindings[i]? = some (.complex definition.typeName bound) ∧
      declared.IsRecorded definition.typeName bound

theorem ComplexDeclaration.isRecorded {declared : ComplexDeclaration} {fields : Fields}
    (same : fields.toList = declared.fields.map ElementDeclaration.field) (name : TypeName) :
    declared.IsRecorded name fields where
  toList := same
  encode := by
    intro v made
    have names : fields.names = declared.fields.map ElementDeclaration.name := by
      rw [Fields.names, same, List.map_map]
      rfl
    rw [← names]
    exact Fields.encode_eq_record_iff made name

namespace Registry

variable {s : Registry} {p : Declaration → Prop}

/-- The fields of a definition are those of its declaration. -/
theorem FieldsOf.map_field {taken : List String} {elements : List ElementDeclaration}
    {fields : List FieldDefinition} (h : FieldsOf s taken elements fields) :
    fields.map FieldDefinition.field = elements.map ElementDeclaration.field := by
  induction h with
  | nil => rfl
  | cons _ _ _ ih => rw [List.map_cons, List.map_cons, ih]; rfl

/-- **Definitions keep the fields of declarations**, and so do their bindings. -/
theorem exists_keepsFields (wf : s.WellFormed) (traces : s.Traces p) :
    ∃ bindings, bindingsOf? s.definitions = some bindings ∧ bindings.length = s.definitions.length ∧
      KeepsFields p s.definitions bindings := by
  obtain ⟨bindings, made, all, bound⟩ := exists_isBound wf.sound
  refine ⟨bindings, made, all, fun i definition fields found body => ?_⟩
  obtain ⟨d, definition', satisfies, key, found', describes⟩ :=
    traces _ i (wf.found i definition found)
  obtain rfl := Option.some.inj (found.symm.trans found')
  obtain ⟨b, there, binding⟩ :=
    bound i definition (all ▸ (List.getElem?_eq_some_iff.1 found).1) found
  obtain ⟨ofFields, bindsFields, rfl⟩ := (Definition.binding?_of_complex body).1 binding
  rw [body] at describes
  cases describes with
  | complex fieldsOf =>
    have same := (Fields.toList_of_ofDefinitions? bindsFields).trans fieldsOf.map_field
    exact ⟨_, ofFields, satisfies, key, there, ComplexDeclaration.isRecorded same _⟩

end Registry

/-! ## Parts of messages -/

/-- What is found for each member of a list is found in order. -/
theorem exists_mapM_of_forall {α β γ : Type} {f : α → Option β} {g : β → γ} {h : α → γ}
    {l : List α} (each : ∀ a ∈ l, ∃ b, f a = some b ∧ g b = h a) :
    ∃ found, l.mapM f = some found ∧ found.map g = l.map h := by
  induction l with
  | nil => exact ⟨[], rfl, rfl⟩
  | cons a rest ih =>
    obtain ⟨⟨b, here, same⟩, others⟩ := List.forall_mem_cons.1 each
    obtain ⟨found, there, sames⟩ := ih others
    refine ⟨b :: found, ?_, by rw [List.map_cons, List.map_cons, same, sames]⟩
    rw [List.mapM_cons, here, there]
    rfl

/-- A wrapper stands for a message with its parts, when their types have bindings. -/
theorem MessageDefinition.exists_message? {bindings : List Binding} {wrapper : MessageDefinition}
    (bound : ∀ part ∈ wrapper.parts, ∃ b, part.type.binding? bindings = some b) :
    ∃ m, wrapper.message? bindings = some m ∧
      m.parts.map MessagePart.name = wrapper.parts.map PartDefinition.xmlName := by
  obtain ⟨parts, made, names⟩ :=
    exists_mapM_of_forall (g := MessagePart.name) (h := PartDefinition.xmlName) (f := fun part => do
      let type ← part.type.binding? bindings
      return ({ name := part.xmlName, type, element := part.elementName type } : MessagePart))
        fun part mem => by
    obtain ⟨b, found⟩ := bound part mem
    exact ⟨{ name := part.xmlName, type := b, element := part.elementName b }, by
      rw [found]; rfl, rfl⟩
  refine ⟨{ name := wrapper.xmlName, parts }, ?_, names⟩
  rw [message?, made]
  rfl

namespace ClientBuilder

variable {description : Description} {b : ClientBuilder}

/-- The message that a wrapper stands for has the parts of the message that it is the wrapper of. -/
theorem IsWrapper.exists_message? (wf : b.registry.WellFormed) {bindings : List Binding}
    (all : bindings.length = b.registry.definitions.length) {declared : MessageDeclaration}
    {wrapper : MessageDefinition}
    (wraps : IsWrapper description.types b.registry declared wrapper) :
    ∃ m, wrapper.message? bindings = some m ∧
      m.parts.map MessagePart.name = declared.parts.map PartDeclaration.name := by
  have bound : ∀ part ∈ wrapper.parts, ∃ b, part.type.binding? bindings = some b := by
    intro part mem
    obtain ⟨i, there⟩ := List.mem_iff_getElem?.1 mem
    obtain ⟨declaredPart, -, isPart⟩ := exists_getElem?_of_forall₂ wraps.parts.flip there
    have resolved := isPart.resolved
    cases type : part.type with
    | builtin builtin => exact ⟨_, rfl⟩
    | generated place =>
      obtain ⟨d, found, -⟩ := wf.known _ place (type ▸ resolved)
      have inRange : place < bindings.length := all ▸ (List.getElem?_eq_some_iff.1 found).1
      exact ⟨_, List.getElem?_eq_getElem inRange⟩
  obtain ⟨m, made, names⟩ := MessageDefinition.exists_message? bound
  refine ⟨m, made, names.trans ?_⟩
  have same : List.Forall₂ Eq (wrapper.parts.map PartDefinition.xmlName)
    (declared.parts.map PartDeclaration.name) := by
    rw [List.forall₂_map_left_iff, List.forall₂_map_right_iff]
    exact (wraps.parts.imp fun _ _ isPart => isPart.xmlName).flip
  rwa [List.forall₂_eq_eq_eq] at same

end ClientBuilder

/-! ## What records keep -/

/-- Whether every wrapper that an operation of a client uses stands for a message with the parts
that are declared, in order. The arguments of several parts have an entry for each of them, in
order, with the value of the part, if and only if no two have the same name. -/
def KeepsParts (description : Description) (bindings : List Binding) (client : ClientDefinition) :
    Prop :=
  ∀ use ∈ messageUses description client, ∃ declared wrapper message,
    description.message? use.1 = some declared ∧ client.messages[use.2]? = some wrapper ∧
    wrapper.message? bindings = some message ∧
    ∀ values : List PartValue, values.map PartValue.part = message.parts → 2 ≤ values.length →
      (Message.arguments values = .record ((declared.parts.map PartDeclaration.name).zip
          (values.map fun v => v.part.type.encode v.value)) ↔
        (declared.parts.map PartDeclaration.name).Nodup)

/-- **Wrappers keep the parts of messages**, and so do the messages that they stand for. -/
theorem ClientBuilder.IsBuilderOf.keepsParts {description : Description}
    {definitions : List Definition} {client : ClientDefinition} {b : ClientBuilder}
    (of : IsBuilderOf description definitions client b) {bindings : List Binding}
    (all : bindings.length = b.registry.definitions.length) :
    KeepsParts description bindings client := by
  intro use mem
  obtain ⟨declared, wrapper, first, there, wraps⟩ := of.built.exists_wrapper (of.getElem?_use mem)
  obtain ⟨message, stands, names⟩ := wraps.exists_message? of.built.fills.wellFormed all
  refine ⟨declared, wrapper, message, first, of.messages ▸ there, stands,
    fun values areParts several => ?_⟩
  have given : values.map (·.part.name) = declared.parts.map PartDeclaration.name := by
    rw [← names, ← areParts, List.map_map]
    rfl
  rw [← given, List.zip_map']
  exact Message.arguments_eq_record_iff several

/-- **What records keep.** Whatever is asked of a registry, its definitions have bindings, and a
structured one has the fields of a declaration that has been offered, in order. The same holds of
the definitions that are made for a client, and every wrapper that an operation uses stands for a
message with the parts that are declared, in order. The record of a value, and of the values of
several parts, has an entry for each field and each part, in order, with its values, if and only if
no two of them have the same name. -/
theorem keepsFields_and_parts (declarations : List Declaration) (requests : List Registry.Request)
    (description : Description) :
    (let definitions := (Registry.Session.answers declarations {} requests).2.registry.definitions
      ∃ bindings, bindingsOf? definitions = some bindings ∧
        KeepsFields (Registry.IsOffered declarations requests) definitions bindings) ∧
    ∀ (definitions : List Definition) (client : ClientDefinition),
      clientOf description = .ok (definitions, client) →
      ∃ bindings, bindingsOf? definitions = some bindings ∧
        KeepsFields (· ∈ description.types) definitions bindings ∧
          KeepsParts description bindings client := by
  constructor
  · intro definitions
    obtain ⟨grows, -⟩ := @Registry.Session.answers_grows declarations {} .empty requests
    obtain ⟨bindings, made, -, keeps⟩ :=
      Registry.exists_keepsFields (grows.wellFormed .empty) (grows.traces .empty)
    exact ⟨bindings, made, keeps⟩
  · intro definitions client h
    obtain ⟨b, of⟩ := ClientBuilder.exists_isBuilderOf h
    obtain rfl := of.definitions
    obtain ⟨bindings, made, all, keeps⟩ := Registry.exists_keepsFields of.built.fills.wellFormed
      (of.built.fills.traces.mono fun _ selects => selects.definable.mem)
    exact ⟨bindings, made, keeps, of.keepsParts all⟩

/-- A service with a message of two parts. -/
def placeDescription : Description where
  source := "orders.wsdl"
  namespaceName? := none
  types := [.complex ⟨"Order", none, []⟩]
  operations := [⟨"place", ⟨none, "Place"⟩, ⟨none, "Place"⟩, none⟩]
  messages := [⟨"Place", none,
    [⟨"order", .type ⟨none, "Order"⟩⟩, ⟨"note", .type ⟨some schemaNamespace, "string"⟩⟩]⟩]
  service := "Orders"

/-- The arguments of two parts are a record of both. -/
theorem keepsFields_and_parts_place :
    ∃ definitions client, clientOf placeDescription = .ok (definitions, client) ∧
      ∃ bindings wrapper message, bindingsOf? definitions = some bindings ∧
        client.messages[0]? = some wrapper ∧
        wrapper.message? bindings = some message ∧ ∃ values : List PartValue,
          values.map PartValue.part = message.parts ∧ 2 ≤ values.length ∧
          Message.arguments values = .record [("order", .record []), ("note", .text "now")] := by
  have made : clientOf placeDescription = .ok
      ([⟨"OrderComplexType", "Order", none, .complex []⟩],
       { name := "OrdersClient", source := "orders.wsdl"
         messages := [⟨"PlaceMessage", "Place", [⟨"order", "order", .generated 0, .partName⟩,
           ⟨"note", "note", .builtin (.simple .string), .partName⟩]⟩]
         operations := [⟨"place", "place", 0, 0, none⟩] }) := by
    have operations : placeDescription.operations = [_] := rfl
    have place : placeDescription.message? ⟨none, "Place"⟩ = some _ := rfl
    have order : Registry.firstType? placeDescription.types ⟨none, "Order"⟩ = some _ := rfl
    simp only [clientOf, operations, List.mapM_cons, List.mapM_nil, ClientBuilder.operation,
      ClientBuilder.message, place, ClientBuilder.parts, ClientBuilder.partType,
      Registry.resolveOn, order, Registry.bodyOn, Registry.fieldsOn]
    rfl
  obtain ⟨bindings, bound, -, used⟩ :=
    (keepsFields_and_parts placeDescription.types [] placeDescription).2 _ _ made
  obtain ⟨declared, wrapper, message, first, there, stands, kept⟩ :=
    used (⟨none, "Place"⟩, 0) (List.mem_cons_self ..)
  obtain rfl := Option.some.inj (bound : some [Binding.complex ⟨"Order", ""⟩ .nil] = some bindings)
  obtain rfl := Option.some.inj (first : some _ = some declared)
  obtain rfl := Option.some.inj (there : some _ = some wrapper)
  obtain rfl := Option.some.inj (stands : some _ = some message)
  let values : List PartValue := [⟨⟨"order", .complex ⟨"Order", ""⟩ .nil, ⟨"order", ""⟩⟩, ()⟩,
    ⟨⟨"note", .simple (.builtin .string), ⟨"note", ""⟩⟩, "now"⟩]
  exact ⟨_, _, made, _, _, _, bound, there, stands, values, rfl, Nat.le_refl 2,
    (kept values rfl (Nat.le_refl 2)).2 (by decide)⟩

/-- A structured type with two fields of one name. -/
def pairDeclarations : List Declaration :=
  let field : ElementDeclaration :=
    { name := "a", namespaceName? := none, type? := some ⟨some schemaNamespace, "string"⟩ }
  [.complex ⟨"Pair", none, [field, field]⟩]

/-- **Records may lose fields**: the record of a value with two fields of one name has an entry for
the second one only. -/
theorem not_forall_encode_eq_record :
    ¬ ∀ (declarations : List Declaration) (definitions : List Definition) (bindings : List Binding),
      definitionsOfAll declarations = .ok definitions → bindingsOf? definitions = some bindings →
      ∀ name fields, .complex name fields ∈ bindings → ∀ v, fields.IsMade v →
        (Binding.complex name fields).encode v =
          .record (fields.names.zip (fields.accessed v)) := by
  intro all
  have made : definitionsOfAll pairDeclarations = .ok [⟨"PairComplexType", "Pair", none, .complex
      [⟨"a", "a", .builtin (.simple .string), 1, .count 1, false, none⟩,
       ⟨"a2", "a", .builtin (.simple .string), 1, .count 1, false, none⟩]⟩] := by
    change definitionsOf pairDeclarations [_] = _
    simp only [definitionsOf, Registry.generateAll, Registry.generateOn, Registry.bodyOn,
      Registry.fieldsOn, Registry.resolveOn]
    rfl
  let field : Field := ⟨"a", 1, .count 1, false, none⟩
  let fields : Fields := .cons field (.simple (.builtin .string))
    (.cons field (.simple (.builtin .string)) .nil)
  have constructed : fields.construct ([.typed "first"], [.typed "second"], ()) =
    .ok (["first"], ["second"], ()) := rfl
  have lost := all _ _ [.complex ⟨"Pair", ""⟩ fields]
    made rfl _ fields (List.mem_singleton_self _) _ (.inl ⟨_, constructed⟩)
  have lengths := congrArg List.length (Wire.record.inj lost)
  exact absurd lengths (by decide)

end SchemaBinding
