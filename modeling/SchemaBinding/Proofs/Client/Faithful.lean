import Mathlib.Data.List.Forall2
import SchemaBinding.Proofs.Client.Building
import SchemaBinding.Proofs.Registry.Selection

/-!
# Clients are faithful to service descriptions

A client says what its service description does (`clientOf_isFaithful`). Its
methods are the operations in order. The wrappers that they refer to are those
of the first messages with the names that the operations give, each message once
and no others. The parts of a wrapper are those of its message in order, each
with what is defined under the name that the part refers to. What is defined for
a client is what can be reached from these parts: a builder has filled its
registry with what they lead to (`IsBuilt.fills`), and the definitions of what a
declaration refers to are found from its own (`Fills.reaches`).
-/

namespace SchemaBinding

/-! ## Definitions that can be reached -/

/-- What a definition refers to. -/
def DefinitionBody.references : DefinitionBody → List TypeRef
  | .simple base _ => [base]
  | .complex fields => fields.map FieldDefinition.type
  | .element type => [type]

/-- The places of the definitions that can be reached from some references. -/
inductive Reaches (definitions : List Definition) (roots : List TypeRef) : Nat → Prop
  | root {place : Nat} (mem : .generated place ∈ roots) : Reaches definitions roots place
  | reference {place next : Nat} {d : Definition} (reached : Reaches definitions roots place)
      (found : definitions[place]? = some d) (mem : .generated next ∈ d.body.references) :
      Reaches definitions roots next

/-- Whether a reference is to what has a name in the schema: the built-in type or a definition with
the name. -/
def TypeRef.IsNamed (definitions : List Definition) (name : Xml.Name) : TypeRef → Prop
  | .builtin b => builtinNamed? name = some b
  | .generated place => ∃ d, definitions[place]? = some d ∧ d.schemaName = name

/-- What sound definitions refer to is before them. -/
theorem DefinitionBody.IsSound.lt {definitions : List Definition} {place next : Nat}
    {body : DefinitionBody} (h : body.IsSound definitions place)
    (mem : .generated next ∈ body.references) : next < place := by
  cases body with
  | simple base facets =>
    obtain rfl := List.mem_singleton.1 mem
    exact h.1
  | complex fields =>
    obtain ⟨field, inFields, type⟩ := List.mem_map.1 mem
    have before := h.1 field inFields
    rw [type] at before
    exact before.1
  | element type =>
    obtain rfl := List.mem_singleton.1 mem
    exact h.1

namespace Registry

variable {declarations : List Declaration} {d : Declaration} {s : Registry}
  {selected : DefinitionKey → Bool} {roots : List TypeRef}

theorem FieldsOf.mem_types {taken : List String} {elements : List ElementDeclaration}
    {fields : List FieldDefinition} (h : FieldsOf s taken elements fields) {r : Xml.Name}
    (mem : r ∈ elements.map typeOf) {ref : TypeRef} (leads : s.lookup? ⟨true, r⟩ = some ref) :
    ref ∈ fields.map FieldDefinition.type := by
  induction h with
  | nil => cases mem
  | cons resolved _ _ ih =>
    rcases List.mem_cons.1 mem with rfl | later
    · cases leads.symm.trans resolved
      exact List.mem_cons_self ..
    · exact List.mem_cons_of_mem _ (ih later)

/-- What a declaration refers to is what its definition refers to. -/
theorem Describes.mem_references {body : DefinitionBody} (h : Describes s d body) {r : Xml.Name}
    (mem : r ∈ d.references) {place : Nat} (leads : s.lookup? ⟨true, r⟩ = some (.generated place)) :
    .generated place ∈ body.references := by
  cases h with
  | simple resolved isBase =>
    obtain rfl := List.mem_singleton.1 mem
    cases leads.symm.trans resolved
    cases isBase with
    | generated _ _ => exact List.mem_singleton_self _
  | complex fieldsOf => exact fieldsOf.mem_types mem leads
  | element resolved =>
    obtain rfl := List.mem_singleton.1 mem
    cases leads.symm.trans resolved
    exact List.mem_singleton_self _

/-- **All that has been selected can be reached** from what the selected keys lead to. -/
theorem Fills.reaches (fills : Fills declarations selected declarations s)
    (rooted : ∀ key, selected key = true → ∀ ref, s.lookup? key = some ref → ref ∈ roots)
    (selects : Selects declarations selected d) {place : Nat}
    (leads : s.lookup? d.key = some (.generated place)) :
    Reaches s.definitions roots place := by
  induction selects generalizing place with
  | root definable root => exact .root (rooted _ root _ leads)
  | reference referring mem definable key ih =>
    obtain ⟨above, resolved⟩ := fills.exists_index referring
    obtain ⟨-, definition, found, describes⟩ := fills.exists_describes referring.definable resolved
    exact .reference (ih resolved) found (describes.mem_references mem (key ▸ leads))

/-- **What is defined is what can be reached.** -/
theorem Fills.lt_iff_reaches (fills : Fills declarations selected declarations s)
    (rooted : ∀ key, selected key = true → ∀ ref, s.lookup? key = some ref → ref ∈ roots)
    (resolved : ∀ ref ∈ roots, ∃ key, s.lookup? key = some ref) {place : Nat} :
    place < s.definitions.length ↔ Reaches s.definitions roots place := by
  constructor
  · intro inRange
    have leads := fills.wellFormed.found place _ (List.getElem?_eq_getElem inRange)
    obtain ⟨d, -, selects, key, -⟩ := fills.traces _ place leads
    exact fills.reaches rooted selects (key ▸ leads)
  · intro reached
    induction reached with
    | root mem =>
      obtain ⟨key, leads⟩ := resolved _ mem
      obtain ⟨d, found, -⟩ := fills.wellFormed.known key _ leads
      exact (List.getElem?_eq_some_iff.1 found).1
    | reference _ found mem ih =>
      exact Nat.lt_trans ((fills.wellFormed.sound _ _ found).lt mem) ih

/-- What a key leads to has its name. -/
theorem WellFormed.isNamed (wf : s.WellFormed) {key : DefinitionKey} {ref : TypeRef}
    (leads : s.lookup? key = some ref) : ref.IsNamed s.definitions key.name := by
  cases ref with
  | builtin b => exact (wf.builtins key b leads).2
  | generated place =>
    obtain ⟨d, found, rfl⟩ := wf.known key place leads
    exact ⟨d, found, rfl⟩

end Registry

/-! ## Faithful clients -/

/-- The messages that the operations of a client use, with the places of their wrappers. -/
def messageUses (description : Description) (client : ClientDefinition) : List (Xml.Name × Nat) :=
  (description.operations.zip client.operations).flatMap fun (declared, made) =>
    [(declared.input, made.input), (declared.output, made.output)]

/-- What the parts of the wrappers of a client refer to. -/
def ClientDefinition.references (client : ClientDefinition) : List TypeRef :=
  client.messages.flatMap fun wrapper => wrapper.parts.map PartDefinition.type

/-- Whether a part of a wrapper says what a part of a message does. The element of a part is looked
for by the name of the part if the part refers to a type, and only then. -/
structure PartDefinition.IsFaithful (definitions : List Definition) (declared : PartDeclaration)
    (part : PartDefinition) : Prop where
  xmlName : part.xmlName = declared.name
  lookup : part.lookup = .partName ↔ ∃ name, declared.reference = .type name
  type : part.type.IsNamed definitions declared.reference.name

/-- Whether a wrapper says what a message does. -/
structure MessageDefinition.IsFaithful (definitions : List Definition)
    (declared : MessageDeclaration) (wrapper : MessageDefinition) : Prop where
  xmlName : wrapper.xmlName = declared.messageName
  parts : List.Forall₂ (PartDefinition.IsFaithful definitions) declared.parts wrapper.parts
  distinct : (wrapper.parts.map PartDefinition.name).Nodup

/-- Whether a client, with what is defined for it, says what a service description does. -/
structure ClientDefinition.IsFaithful (description : Description) (definitions : List Definition)
    (client : ClientDefinition) : Prop where
  /-- The methods are the operations in order. -/
  operations : List.Forall₂ (fun declared made => made.action = declared.name ∧
    made.documentation = declared.documentation) description.operations client.operations
  /-- No two methods have the same name. -/
  methods : (client.operations.map OperationDefinition.method).Nodup
  /-- What a method refers to is the wrapper of the first message with the name that the operation
  gives. -/
  messages : ∀ use ∈ messageUses description client, ∃ message wrapper, description.message? use.1 =
    some message ∧ client.messages[use.2]? = some wrapper ∧ wrapper.IsFaithful definitions message
  /-- Uses of the same message are uses of the same wrapper, and no others are. -/
  shared : ∀ use ∈ messageUses description client, ∀ other ∈ messageUses description client,
    use.2 = other.2 ↔ use.1 = other.1
  /-- Every wrapper is used. -/
  used : ∀ place < client.messages.length, ∃ use ∈ messageUses description client, use.2 = place
  /-- No two wrappers have the same name. -/
  wrappers : (client.messages.map MessageDefinition.name).Nodup
  /-- What is defined can be reached from the parts of the wrappers, and what can be reached is
  defined. -/
  reached : ∀ place, place < definitions.length ↔ Reaches definitions client.references place
  /-- Nothing is defined twice. -/
  once : (definitions.map Definition.key).Nodup
  /-- What is defined is what the parts of the messages lead to. -/
  selects : ∀ key, key ∈ definitions.map Definition.key ↔ ∃ d, Registry.Selects description.types
    (Registry.among (ClientBuilder.usedKeys description
      ((messageUses description client).map Prod.fst))) d ∧
    d.key = key

namespace ClientBuilder

variable {description : Description} {definitions : List Definition} {client : ClientDefinition}
  {b : ClientBuilder}

theorem mem_usedKeys_iff {names : List Xml.Name} {key : DefinitionKey} :
    key ∈ usedKeys description names ↔
      ∃ name ∈ names, ∃ message, description.message? name = some message ∧
      ∃ part ∈ message.parts, part.reference.key description.types = key := by
  unfold usedKeys
  rw [List.mem_flatMap]
  refine exists_congr fun name => and_congr_right fun _ => ?_
  cases description.message? name with
  | none => exact ⟨nofun, nofun⟩
  | some message =>
    rw [Option.map_some, Option.getD_some, keysOf, List.mem_map]
    exact ⟨fun h => ⟨message, rfl, h⟩, fun ⟨_, same, h⟩ => Option.some.inj same ▸ h⟩

theorem IsPart.isFaithful (wf : b.registry.WellFormed) {declared : PartDeclaration}
    {part : PartDefinition} (h : IsPart description.types b.registry declared part) :
    part.IsFaithful b.registry.definitions declared where
  xmlName := h.xmlName
  lookup := h.lookup ▸ declared.reference.lookup_eq_partName_iff
  type := declared.reference.name_key description.types ▸ wf.isNamed h.resolved

theorem IsWrapper.isFaithful (wf : b.registry.WellFormed) {declared : MessageDeclaration}
    {wrapper : MessageDefinition} (h : IsWrapper description.types b.registry declared wrapper) :
    wrapper.IsFaithful b.registry.definitions declared :=
  ⟨h.xmlName, h.parts.imp fun _ _ part => part.isFaithful wf, h.distinct⟩

/-! ## What is used -/

/-- What has the same place in a related list. -/
theorem exists_getElem?_of_forall₂ {α β : Type} {R : α → β → Prop} {l : List α} {l' : List β}
    (h : List.Forall₂ R l l') {i : Nat} {a : α} (found : l[i]? = some a) :
    ∃ a', l'[i]? = some a' ∧ R a a' := by
  obtain ⟨inRange, rfl⟩ := List.getElem?_eq_some_iff.1 found
  have inRange' : i < l'.length := h.length_eq ▸ inRange
  exact ⟨l'[i], List.getElem?_eq_getElem inRange', h.get inRange inRange'⟩

/-- The wrapper of a message that has been used. -/
theorem IsBuilt.exists_wrapper (built : IsBuilt description b) {place : Nat} {name : Xml.Name}
    (found : b.messageNames[place]? = some name) :
    ∃ message wrapper, description.message? name = some message ∧
      b.messages[place]? = some wrapper ∧
      IsWrapper description.types b.registry message wrapper := by
  obtain ⟨wrapper, there, message, first, wraps⟩ := exists_getElem?_of_forall₂ built.wraps found
  exact ⟨message, wrapper, first, there, wraps⟩

/-- The places that operations give are those of the names of their messages. -/
theorem IsBuilderOf.getElem?_use (h : IsBuilderOf description definitions client b)
    {use : Xml.Name × Nat} (mem : use ∈ messageUses description client) :
    b.messageNames[use.2]? = some use.1 := by
  obtain ⟨⟨declared, made⟩, both, inBoth⟩ := List.mem_flatMap.1 mem
  have operation := List.forall₂_zip h.operations both
  rcases List.mem_pair.1 inBoth with rfl | rfl
  · exact operation.input
  · exact operation.output

/-- The place of the name of a message is given by an operation. -/
theorem IsBuilderOf.mem_messageUses (h : IsBuilderOf description definitions client b)
    {place : Nat} {name : Xml.Name} (found : b.messageNames[place]? = some name) :
    (name, place) ∈ messageUses description client := by
  have eq_place : ∀ {other : Nat}, b.messageNames[other]? = some name → place = other :=
    fun there =>
    (List.getElem?_inj (List.getElem?_eq_some_iff.1 found).1 h.built.once).1
      (found.trans there.symm)
  obtain ⟨declared, mem, used⟩ := h.used name (List.mem_of_getElem? found)
  obtain ⟨i, here⟩ := List.mem_iff_getElem?.1 mem
  obtain ⟨made, there, operation⟩ := exists_getElem?_of_forall₂ h.operations here
  have both : (declared, made) ∈ description.operations.zip client.operations :=
    List.mem_of_getElem? (List.getElem?_zip_eq_some.2 ⟨here, there⟩)
  refine List.mem_flatMap.2 ⟨_, both, List.mem_pair.2 ?_⟩
  rcases used with rfl | rfl
  · exact .inl (congrArg (Prod.mk _) (eq_place operation.input))
  · exact .inr (congrArg (Prod.mk _) (eq_place operation.output))

/-- The names of the messages that have been used are those that operations give. -/
theorem IsBuilderOf.mem_names_iff (h : IsBuilderOf description definitions client b)
    {name : Xml.Name} :
    name ∈ (messageUses description client).map Prod.fst ↔ name ∈ b.messageNames := by
  constructor
  · intro mem
    obtain ⟨use, inUses, rfl⟩ := List.mem_map.1 mem
    exact List.mem_of_getElem? (h.getElem?_use inUses)
  · intro mem
    obtain ⟨place, found⟩ := List.mem_iff_getElem?.1 mem
    exact List.mem_map_of_mem (h.mem_messageUses found)

/-- What the keys of used messages lead to is what the parts of the wrappers refer to. -/
theorem IsBuilderOf.mem_references (h : IsBuilderOf description definitions client b)
    {key : DefinitionKey} (used : Registry.among (usedKeys description b.messageNames) key = true)
    {ref : TypeRef} (leads : b.registry.lookup? key = some ref) : ref ∈ client.references := by
  obtain ⟨name, mem, message, first, declared, inParts, rfl⟩ :=
    mem_usedKeys_iff.1 (of_decide_eq_true used)
  obtain ⟨place, found⟩ := List.mem_iff_getElem?.1 mem
  obtain ⟨message', wrapper, first', there, wraps⟩ := h.built.exists_wrapper found
  obtain rfl := Option.some.inj (first.symm.trans first')
  obtain ⟨i, here⟩ := List.mem_iff_getElem?.1 inParts
  obtain ⟨part, there', isPart⟩ := exists_getElem?_of_forall₂ wraps.parts here
  obtain rfl := Option.some.inj (leads.symm.trans isPart.resolved)
  refine List.mem_flatMap.2 ⟨wrapper, ?_, List.mem_map_of_mem (List.mem_of_getElem? there')⟩
  rw [h.messages]
  exact List.mem_of_getElem? there

/-- What the parts of the wrappers refer to has been resolved. -/
theorem IsBuilderOf.exists_lookup? (h : IsBuilderOf description definitions client b)
    {ref : TypeRef} (mem : ref ∈ client.references) : ∃ key, b.registry.lookup? key = some ref := by
  obtain ⟨wrapper, inMessages, inTypes⟩ := List.mem_flatMap.1 mem
  obtain ⟨part, inParts, rfl⟩ := List.mem_map.1 inTypes
  rw [h.messages] at inMessages
  obtain ⟨place, there⟩ := List.mem_iff_getElem?.1 inMessages
  obtain ⟨name, -, message, -, wraps⟩ := exists_getElem?_of_forall₂ h.built.wraps.flip there
  obtain ⟨i, there'⟩ := List.mem_iff_getElem?.1 inParts
  obtain ⟨declared, -, isPart⟩ := exists_getElem?_of_forall₂ wraps.parts.flip there'
  exact ⟨_, isPart.resolved⟩

/-- **A client is faithful.** Whenever a client is made of a service description, its methods are
the operations in order, each with the wrappers of its messages. Every message that is used has one
wrapper, with its parts in order, and no others have. What is defined for the client is what can be
reached from these parts. -/
theorem clientOf_isFaithful (h : clientOf description = .ok (definitions, client)) :
    client.IsFaithful description definitions := by
  obtain ⟨b, of⟩ := exists_isBuilderOf h
  obtain rfl := of.definitions
  have built := of.built
  have wf := built.fills.wellFormed
  constructor
  case operations => exact of.operations.imp fun _ _ operation => ⟨operation.action,
    operation.documentation⟩
  case methods => exact of.methods
  case messages =>
    intro use mem
    obtain ⟨message, wrapper, first, there, wraps⟩ := built.exists_wrapper (of.getElem?_use mem)
    exact ⟨message, wrapper, first, of.messages ▸ there, wraps.isFaithful wf⟩
  case shared =>
    intro use mem other mem'
    have found := of.getElem?_use mem
    have found' := of.getElem?_use mem'
    constructor
    · intro place
      exact Option.some.inj (found.symm.trans (place ▸ found'))
    · intro name
      refine (List.getElem?_inj (List.getElem?_eq_some_iff.1 found).1 built.once).1 ?_
      rw [found, found', name]
  case used =>
    intro place inRange
    rw [of.messages, ← built.wraps.length_eq] at inRange
    exact ⟨_, of.mem_messageUses (List.getElem?_eq_getElem inRange), rfl⟩
  case wrappers => exact of.messages ▸ built.distinct
  case reached =>
    intro place
    exact built.fills.lt_iff_reaches (fun _ used _ leads => of.mem_references used leads)
      fun _ mem => of.exists_lookup? mem
  case once => exact wf.nodup_keys
  case selects =>
    intro key
    have same : Registry.among
      (usedKeys description ((messageUses description client).map Prod.fst)) =
        Registry.among (usedKeys description b.messageNames) := by
      funext other
      unfold Registry.among
      congr 1
      rw [mem_usedKeys_iff, mem_usedKeys_iff]
      simp only [of.mem_names_iff]
    rw [same]
    exact built.fills.mem_keys_iff

/-- A service with two operations that have the same answer, and a type that nothing uses. -/
def ordersDescription : Description where
  source := "orders.wsdl"
  namespaceName? := none
  types :=
    [.complex ⟨"Order", none,
      [{ name := "line", namespaceName? := none, type? := some ⟨none, "Line"⟩ }]⟩,
     .complex ⟨"Line", none, []⟩, .complex ⟨"Unused", none, []⟩,
     .element { name := "Receipt", namespaceName? := none, type? := some ⟨none, "Line"⟩ }]
  operations :=
    [⟨"placeOrder", ⟨none, "Place"⟩, ⟨none, "Done"⟩, none⟩,
      ⟨"cancelOrder", ⟨none, "Cancel"⟩, ⟨none, "Done"⟩, none⟩]
  messages :=
    [⟨"Place", none, [⟨"order", .type ⟨none, "Order"⟩⟩]⟩,
      ⟨"Cancel", none, [⟨"line", .type ⟨none, "Line"⟩⟩]⟩,
     ⟨"Done", none, [⟨"receipt", .element ⟨none, "Receipt"⟩⟩]⟩]
  service := "Orders"

theorem clientOf_isFaithful_orders :
    ∃ definitions client, clientOf ordersDescription = .ok (definitions, client) ∧
      client.IsFaithful ordersDescription definitions := by
  have made : clientOf ordersDescription = .ok
      ([⟨"LineComplexType", "Line", none, .complex []⟩,
        ⟨"OrderComplexType", "Order", none,
          .complex [⟨"line", "line", .generated 0, 1, .count 1, false, none⟩]⟩,
        ⟨"ReceiptElement", "Receipt", none, .element (.generated 0)⟩],
       { name := "OrdersClient", source := "orders.wsdl"
         messages :=
           [⟨"PlaceMessage", "Place", [⟨"order", "order", .generated 1, .partName⟩]⟩,
            ⟨"DoneMessage", "Done", [⟨"receipt", "receipt", .generated 2, .typeName⟩]⟩,
            ⟨"CancelMessage", "Cancel", [⟨"line", "line", .generated 0, .partName⟩]⟩]
         operations :=
           [⟨"place_order", "placeOrder", 0, 1, none⟩,
            ⟨"cancel_order", "cancelOrder", 2, 1, none⟩] }) := by
    -- What the run looks up is told beforehand, so that the recursions can be opened.
    have operations : ordersDescription.operations = [_, _] := rfl
    have place : ordersDescription.message? ⟨none, "Place"⟩ = some _ := rfl
    have cancel : ordersDescription.message? ⟨none, "Cancel"⟩ = some _ := rfl
    have done : ordersDescription.message? ⟨none, "Done"⟩ = some _ := rfl
    have order : Registry.firstType? ordersDescription.types ⟨none, "Order"⟩ = some _ := rfl
    have line : Registry.firstType? ordersDescription.types ⟨none, "Line"⟩ = some _ := rfl
    have noType : Registry.firstType? ordersDescription.types ⟨none, "Receipt"⟩ = none := rfl
    have receipt : Registry.firstElement? ordersDescription.types ⟨none, "Receipt"⟩ = some _ := rfl
    simp only [clientOf, operations, List.mapM_cons, List.mapM_nil, operation, message, place,
      cancel, done, parts, partType, Registry.resolveElementOn, Registry.generateOn, noType,
      receipt, Registry.resolveOn, order, line, Registry.bodyOn, Registry.fieldsOn, Registry.typeOf,
      Option.getD_some]
    rfl
  exact ⟨_, _, made, clientOf_isFaithful made⟩

end ClientBuilder

end SchemaBinding
