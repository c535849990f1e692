import Mathlib.Data.List.Forall2
import SchemaBinding.Proofs.Client.Faithful

/-!
# Shadowed elements

An element with the name of a type is passed over, and the name of the element
leads to the type. What stands for the element in this way
(`Fills.standsFor_iff`) holds the values of one type only, that of the name
(`TypeRef.holdsValuesOf_iff`). So nothing is lost if this is the type of the
element, and its type is lost if it is another one
(`isShadowed_holdsValuesOf_iff`).
-/

namespace SchemaBinding

/-! ## What stands for elements -/

namespace TypeRef

variable {definitions : List Definition} {ref : TypeRef} {name type : Xml.Name}
  {key : DefinitionKey}

/-- Whether a reference is to what has a key: the built-in type or the definition. -/
def IsKeyed (definitions : List Definition) (key : DefinitionKey) : TypeRef → Prop
  | .builtin b => key.isType = true ∧ builtinNamed? key.name = some b
  | .generated place => ∃ d, definitions[place]? = some d ∧ d.key = key

/-- Whether a reference is to what stands for the elements with a name: the definition of an
element, or else what the type with the name leads to. -/
def StandsFor (definitions : List Definition) (name : Xml.Name) (ref : TypeRef) : Prop :=
  ref.IsKeyed definitions ⟨false, name⟩ ∨
    (∀ other : TypeRef, ¬ other.IsKeyed definitions ⟨false, name⟩) ∧
      ref.IsKeyed definitions ⟨true, name⟩

/-- Whether a reference is to what holds the values of a type: what the type leads to, or the
definition of an element over it. -/
def HoldsValuesOf (definitions : List Definition) (type : Xml.Name) (ref : TypeRef) : Prop :=
  ref.IsKeyed definitions ⟨true, type⟩ ∨ ∃ (place : Nat) (d : Definition) (inner : TypeRef),
    ref = .generated place ∧ definitions[place]? = some d ∧ d.body = .element inner ∧
      inner.IsKeyed definitions ⟨true, type⟩

/-- A built-in type has one name. -/
theorem eq_of_builtinNamed? {b : Builtin} (h : builtinNamed? name = some b) :
    name = ⟨some schemaNamespace, b.localName⟩ := by
  unfold builtinNamed? at h
  split at h
  · next inSchema =>
    rw [Builtin.ofName?] at h
    have named := List.find?_some h
    rw [of_decide_eq_true named, ← inSchema]
  · cases h

/-- A reference is to what has one key. -/
theorem IsKeyed.eq {other : DefinitionKey} (h : ref.IsKeyed definitions key)
    (h' : ref.IsKeyed definitions other) :
    key = other := by
  cases ref with
  | builtin b =>
    have name : key.name = other.name :=
      (eq_of_builtinNamed? h.2).trans (eq_of_builtinNamed? h'.2).symm
    have isType : key.isType = other.isType := h.1.trans h'.1.symm
    cases key
    cases other
    exact DefinitionKey.mk.injEq .. ▸ ⟨isType, name⟩
  | generated place =>
    obtain ⟨d, found, rfl⟩ := h
    obtain ⟨d', found', rfl⟩ := h'
    rw [Option.some.inj (found.symm.trans found')]

/-- **What a type leads to holds the values of this type only.** -/
theorem holdsValuesOf_iff (keyed : ref.IsKeyed definitions ⟨true, name⟩) :
    ref.HoldsValuesOf definitions type ↔ type = name := by
  constructor
  · rintro (same | ⟨place, d, inner, rfl, found, isElement, -⟩)
    · exact congrArg DefinitionKey.name (same.eq keyed)
    · obtain ⟨d', found', key⟩ := keyed
      obtain rfl := Option.some.inj (found.symm.trans found')
      have isType := congrArg DefinitionKey.isType key
      rw [Definition.key, isElement] at isType
      exact absurd isType Bool.false_ne_true
  · rintro rfl
    exact .inl keyed

end TypeRef

namespace Registry

variable {declarations before : List Declaration} {s : Registry} {selected : DefinitionKey → Bool}
  {ref : TypeRef} {e : ElementDeclaration}

/-- Keys lead to what has them. -/
theorem WellFormed.lookup?_eq_some_iff (wf : s.WellFormed) {key : DefinitionKey} :
    s.lookup? key = some ref ↔ ref.IsKeyed s.definitions key := by
  cases ref with
  | builtin b =>
    refine ⟨wf.builtins key b, ?_⟩
    rintro ⟨isType, builtin⟩
    rw [lookup?, if_pos isType, builtin]
  | generated place =>
    refine ⟨wf.known key place, ?_⟩
    rintro ⟨d, found, rfl⟩
    exact wf.found place d found

/-- **What stands for a shadowed element** is what the type with its name leads to. -/
theorem Fills.standsFor_iff (fills : Fills declarations selected before s)
    (shadowed : (Declaration.element e).isShadowed declarations = true) :
    ref.StandsFor s.definitions (Declaration.element e).name ↔
      s.lookup? ⟨true, (Declaration.element e).name⟩ = some ref := by
  have notDefined : ∀ other :
    TypeRef, ¬ other.IsKeyed s.definitions ⟨false, (Declaration.element e).name⟩ := by
    intro other keyed
    have leads := fills.wellFormed.lookup?_eq_some_iff.2 keyed
    -- Only an element that has the name of no type leads to its own name.
    have alone := congrArg DefinitionKey.isType (fills.elementKey_eq leads)
    obtain ⟨first, found⟩ := (isShadowed_iff rfl).1 shadowed
    rw [elementKey, found] at alone
    cases alone
  rw [fills.wellFormed.lookup?_eq_some_iff]
  exact ⟨fun h => (h.resolve_left (notDefined ref)).2, fun keyed => .inr ⟨notDefined, keyed⟩⟩

/-- The name of a shadowed element leads to what the type with the name does. -/
theorem elementKey_of_isShadowed
    (shadowed : (Declaration.element e).isShadowed declarations = true) :
    elementKey declarations (Declaration.element e).name =
      ⟨true, (Declaration.element e).name⟩ := by
  obtain ⟨first, found⟩ := (isShadowed_iff rfl).1 shadowed
  rw [elementKey, found]
  rfl

/-- Something stands for a shadowed element when all declarations have been turned into
definitions. -/
theorem Fills.exists_standsFor (fills : Fills declarations anyKey declarations s)
    (shadowed : (Declaration.element e).isShadowed declarations = true) :
    ∃ ref : TypeRef, ref.StandsFor s.definitions (Declaration.element e).name := by
  obtain ⟨first, found⟩ := (isShadowed_iff rfl).1 shadowed
  have key := key_of_firstType? found
  have isType : first.val.isType = true := congrArg DefinitionKey.isType key
  obtain ⟨ref, leads⟩ := fills.resolved first.val first.property rfl (isShadowed_of_isType isType)
  exact ⟨ref, (fills.standsFor_iff shadowed).2 (key ▸ leads)⟩

end Registry

/-! ## Parts of messages -/

/-- The parts of the wrappers that the operations of a client use, with what they refer to. -/
def partUses (description : Description) (client : ClientDefinition) :
    List (PartReference × PartDefinition) :=
  (messageUses description client).flatMap fun (name, place) =>
    match description.message? name, client.messages[place]? with
    | some message, some wrapper =>
      (message.parts.zip wrapper.parts).map fun (declared, part) => (declared.reference, part)
    | _, _ => []

namespace ClientBuilder

variable {description : Description} {definitions : List Definition} {client : ClientDefinition}
  {b : ClientBuilder}

/-- What a part refers to has been resolved to the type of the part. -/
theorem IsBuilderOf.lookup?_part (h : IsBuilderOf description definitions client b)
    {reference : PartReference} {part : PartDefinition}
    (mem : (reference, part) ∈ partUses description client) :
    b.registry.lookup? (reference.key description.types) = some part.type := by
  obtain ⟨⟨name, place⟩, used, inParts⟩ := List.mem_flatMap.1 mem
  obtain ⟨message, wrapper, first, there, wraps⟩ := h.built.exists_wrapper (h.getElem?_use used)
  rw [← h.messages] at there
  simp only [first, there] at inParts
  obtain ⟨⟨declared, part'⟩, both, same⟩ := List.mem_map.1 inParts
  cases same
  exact (List.forall₂_zip wraps.parts both).resolved

end ClientBuilder

/-! ## What shadowing loses -/

variable {declarations : List Declaration} {e : ElementDeclaration}

/-- **What shadowing loses.** Let an element have the name of a type. When all declarations are
turned into definitions, something stands for the element, and when a part of a message refers to
the element, the type of the part does. It holds the values of the type of the element if and only
if this is the type with the name of the element. -/
theorem isShadowed_holdsValuesOf_iff
    (shadowed : (Declaration.element e).isShadowed declarations = true) :
    (∀ definitions, definitionsOfAll declarations = .ok definitions →
      (∃ ref : TypeRef, ref.StandsFor definitions (Declaration.element e).name) ∧
      ∀ ref : TypeRef, ref.StandsFor definitions (Declaration.element e).name →
        (ref.HoldsValuesOf definitions (Registry.typeOf e) ↔
          Registry.typeOf e = (Declaration.element e).name)) ∧
    ∀ (description : Description) (definitions : List Definition) (client : ClientDefinition),
      description.types = declarations → clientOf description = .ok (definitions, client) →
      ∀ part : PartDefinition,
        (.element (Declaration.element e).name, part) ∈ partUses description client →
        part.type.StandsFor definitions (Declaration.element e).name ∧
        (part.type.HoldsValuesOf definitions (Registry.typeOf e) ↔
          Registry.typeOf e = (Declaration.element e).name) := by
  constructor
  · intro definitions made
    obtain ⟨s, fills, rfl⟩ := Registry.exists_fills made
    refine ⟨fills.exists_standsFor shadowed, fun ref standsFor => ?_⟩
    have leads := (fills.standsFor_iff shadowed).1 standsFor
    exact TypeRef.holdsValuesOf_iff (fills.wellFormed.lookup?_eq_some_iff.1 leads)
  · rintro description definitions client rfl made part mem
    obtain ⟨b, of⟩ := ClientBuilder.exists_isBuilderOf made
    obtain rfl := of.definitions
    have fills := of.built.fills
    have leads := of.lookup?_part mem
    rw [PartReference.key, Registry.elementKey_of_isShadowed shadowed] at leads
    exact ⟨(fills.standsFor_iff shadowed).2 leads,
      TypeRef.holdsValuesOf_iff (fills.wellFormed.lookup?_eq_some_iff.1 leads)⟩

/-- A type and an element with its name, which has a given type, and a service that takes the
element. -/
def namesakeDescription (type : Xml.Name) : Description where
  source := "orders.wsdl"
  namespaceName? := none
  types := [.complex ⟨"Order", none, []⟩,
    .element { name := "Order", namespaceName? := none, type? := some type }]
  operations := [⟨"place", ⟨none, "Place"⟩, ⟨none, "Place"⟩, none⟩]
  messages := [⟨"Place", none, [⟨"order", .element ⟨none, "Order"⟩⟩]⟩]
  service := "Orders"

/-- An element that is only another name for a type loses nothing. -/
theorem isShadowed_holdsValuesOf_iff_namesake :
    let types := (namesakeDescription ⟨none, "Order"⟩).types
    let element : ElementDeclaration :=
      { name := "Order", namespaceName? := none, type? := some ⟨none, "Order"⟩ }
    (Declaration.element element).isShadowed types = true ∧
    (∃ definitions, definitionsOfAll types = .ok definitions ∧ ∃ ref : TypeRef,
      ref.StandsFor definitions ⟨none, "Order"⟩ ∧ ref.HoldsValuesOf definitions ⟨none, "Order"⟩) ∧
    ∃ definitions client, clientOf (namesakeDescription ⟨none, "Order"⟩) =
    .ok (definitions, client) ∧
      ∃ part : PartDefinition,
        (.element ⟨none, "Order"⟩, part) ∈ partUses (namesakeDescription ⟨none, "Order"⟩) client ∧
        part.type.HoldsValuesOf definitions ⟨none, "Order"⟩ := by
  intro types element
  have shadowed : (Declaration.element element).isShadowed types = true := by decide
  obtain ⟨bound, used⟩ := isShadowed_holdsValuesOf_iff shadowed
  have all : definitionsOfAll types = .ok [⟨"OrderComplexType", "Order", none, .complex []⟩] := by
    change definitionsOf types [_, _] = _
    simp only [definitionsOf, Registry.generateAll, Registry.generateOn, Registry.bodyOn,
      Registry.fieldsOn]
    rfl
  have made : clientOf (namesakeDescription ⟨none, "Order"⟩) = .ok
      ([⟨"OrderComplexType", "Order", none, .complex []⟩],
       { name := "OrdersClient", source := "orders.wsdl"
         messages := [⟨"PlaceMessage", "Place", [⟨"order", "order", .generated 0, .typeName⟩]⟩]
         operations := [⟨"place", "place", 0, 0, none⟩] }) := by
    have operations : (namesakeDescription ⟨none, "Order"⟩).operations = [_] := rfl
    have place : (namesakeDescription ⟨none, "Order"⟩).message? ⟨none, "Place"⟩ = some _ := rfl
    have order : Registry.firstType? (namesakeDescription ⟨none, "Order"⟩).types ⟨none, "Order"⟩ =
      some _ := rfl
    simp only [clientOf, operations, List.mapM_cons, List.mapM_nil, ClientBuilder.operation,
      ClientBuilder.message, place, ClientBuilder.parts, ClientBuilder.partType,
      Registry.resolveElementOn, Registry.resolveOn, order, Registry.bodyOn, Registry.fieldsOn]
    rfl
  obtain ⟨⟨ref, standsFor⟩, holds⟩ := bound _ all
  let part : PartDefinition := ⟨"order", "order", .generated 0, .typeName⟩
  refine ⟨shadowed, ⟨_, all, ref, standsFor, (holds ref standsFor).2 rfl⟩, _, _, made, part, ?_, ?_⟩
  · exact List.mem_cons_self ..
  · exact (used _ _ _ rfl made part (List.mem_cons_self ..)).2.2 rfl

/-- **Shadowing loses types.** An element of character data with the name of a structured type is
taken to hold what this type does. -/
theorem not_forall_holdsValuesOf :
    ¬ ∀ (declarations : List Declaration) (e : ElementDeclaration), .element e ∈ declarations →
      (Declaration.element e).isShadowed declarations = true →
      ∀ definitions, definitionsOfAll declarations = .ok definitions →
        ∀ ref : TypeRef, ref.StandsFor definitions (Declaration.element e).name →
          ref.HoldsValuesOf definitions (Registry.typeOf e) := by
  intro all
  have made : definitionsOfAll (namesakeDescription ⟨some schemaNamespace, "string"⟩).types =
      .ok [⟨"OrderComplexType", "Order", none, .complex []⟩] := by
    change definitionsOf (namesakeDescription ⟨some schemaNamespace, "string"⟩).types [_, _] = _
    simp only [definitionsOf, Registry.generateAll, Registry.generateOn, Registry.bodyOn,
      Registry.fieldsOn]
    rfl
  have keyed : (TypeRef.generated 0).IsKeyed [⟨"OrderComplexType", "Order", none, .complex []⟩]
      ⟨true, ⟨none, "Order"⟩⟩ := ⟨_, rfl, rfl⟩
  have notDefined : ∀ other :
    TypeRef, ¬ other.IsKeyed [⟨"OrderComplexType", "Order", none, .complex []⟩]
      ⟨false, ⟨none, "Order"⟩⟩ := by
    rintro (b | place) h
    · cases h.1
    · obtain ⟨d, found, key⟩ := h
      obtain rfl := List.mem_singleton.1 (List.mem_of_getElem? found)
      cases key
  have holds := all _ _ (List.mem_cons_of_mem _ (List.mem_singleton_self _)) (by decide)
    _ made (.generated 0) (.inr ⟨notDefined, keyed⟩)
  have same := (TypeRef.holdsValuesOf_iff keyed).1 holds
  exact absurd same (by decide)

end SchemaBinding
