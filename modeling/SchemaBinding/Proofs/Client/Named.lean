import SchemaBinding.Proofs.Client.Building
import SchemaBinding.Proofs.Naming.Derived

/-!
# Names of definitions and clients

Every definition that is made has a name of its own that is derived from the
name of what it defines, and so have its fields (`areNamed_of_definitionsOf`).
For a client the same holds of its wrappers, of their parts and of its methods
(`isNamed_of_clientOf`): `parts_givesOut`, `message_isNamed` and
`operation_isNamed` say what each step of building it gives out.
-/

namespace SchemaBinding

open Naming (GivesOut IsDerived)

/-! ## Definitions -/

/-- The names that fields are given, with what they are derived from. -/
def fieldNames (fields : List FieldDefinition) : List (String × String) :=
  fields.map fun field => (field.xmlName, field.name)

/-- Whether the names of definitions differ and are derived ones, as are those of their fields. -/
structure AreNamed (definitions : List Definition) : Prop where
  nodup : (definitions.map Definition.name).Nodup
  isDerived : ∀ d ∈ definitions, IsDerived (.type d.namingKind) d.xmlName d.name
  fields : ∀ d ∈ definitions, ∀ fields, d.body = .complex fields →
    GivesOut .field [] (fieldNames fields)

namespace Registry

variable {declarations : List Declaration} {s : Registry} {p : Declaration → Prop}

theorem FieldsOf.givesOut {taken : List String} {elements : List ElementDeclaration}
    {fields : List FieldDefinition} (h : FieldsOf s taken elements fields) :
    GivesOut .field taken (fieldNames fields) := by
  induction h with
  | nil => exact .nil
  | cons _ named _ ih => exact @GivesOut.cons .field _ _ _ _ named ih

/-- **The definitions of a registry are named.** -/
theorem WellFormed.areNamed (wf : s.WellFormed) (traces : s.Traces p) (derives : s.DerivesNames) :
    AreNamed s.definitions where
  nodup := wf.names
  isDerived := derives
  fields := by
    intro d mem fields isComplex
    obtain ⟨i, found⟩ := List.mem_iff_getElem?.1 mem
    obtain ⟨declaration, d', -, -, found', describes⟩ := traces d.key i (wf.found i d found)
    obtain rfl := Option.some.inj (found.symm.trans found')
    rw [isComplex] at describes
    cases describes with
    | complex fieldsOf => exact fieldsOf.givesOut

/-- A registry only grows when selected declarations are turned into definitions. -/
theorem generateAll_grows (selected : List Declaration) (wf : s.WellFormed) :
    Ensures (generateAll declarations selected) s (fun _ s' => Grows (fun _ => True) s s')
      (fun _ => True) := by
  induction selected generalizing s with
  | nil => exact ensures_pure .refl
  | cons d rest ih =>
    rw [generateAll]
    cases d.isShadowed declarations with
    | true => exact ih wf
    | false =>
      refine ensures_bind (generateOn_ensures declarations [] d wf) (fun _ _ => trivial)
        fun ref s' h => ?_
      obtain ⟨grows, -⟩ := h
      exact (ih (grows.wellFormed wf)).mono
        (fun _ s'' more => (grows.mono fun _ _ => trivial).trans more) fun _ _ =>
        trivial

end Registry

/-- **The definitions of any selected declarations are named.** -/
theorem areNamed_of_definitionsOf {declarations selected : List Declaration}
    {definitions : List Definition} (h : definitionsOf declarations selected = .ok definitions) :
    AreNamed definitions := by
  have grows := @Registry.generateAll_grows declarations {} selected .empty
  unfold Registry.Ensures at grows
  unfold definitionsOf at h
  cases outcome : (Registry.generateAll declarations selected).run {} with
  | error failure => rw [outcome] at h; cases h
  | ok result =>
    rw [outcome] at h grows
    obtain rfl := Except.ok.inj h
    have derives : Registry.DerivesNames {} := List.forall_mem_nil _
    exact (grows.wellFormed .empty).areNamed (grows.traces .empty) (grows.derivesNames derives)

/-! ## Clients -/

/-- The names that parts are given, with what they are derived from. -/
def partNames (parts : List PartDefinition) : List (String × String) :=
  parts.map fun part => (part.xmlName, part.name)

/-- Whether the name of a wrapper is a derived one, as are those of its parts. -/
structure MessageDefinition.IsNamed (wrapper : MessageDefinition) : Prop where
  isDerived : IsDerived (.type .message) wrapper.xmlName wrapper.name
  parts : GivesOut .field [] (partNames wrapper.parts)

/-- Whether the names of a client, of its wrappers and of its methods are derived ones, and differ
within a kind. -/
structure ClientDefinition.IsNamed (client : ClientDefinition) (service : String) : Prop where
  name : Naming.clientName service = .ok client.name
  wrappers : ∀ wrapper ∈ client.messages, wrapper.IsNamed
  wrappersDiffer : (client.messages.map MessageDefinition.name).Nodup
  methods : ∀ operation ∈ client.operations, IsDerived .field operation.action operation.method
  methodsDiffer : (client.operations.map OperationDefinition.method).Nodup

namespace ClientBuilder

variable {description : Description} {b : ClientBuilder}

/-- A step of the registry makes no wrappers. -/
theorem withRegistry_messages {α : Type} (step : Registry.Step α) :
    Yields (withRegistry step) b fun _ b' => b'.messages = b.messages := by
  refine yields_withRegistry ?_
  unfold Registry.Ensures
  split
  · rfl
  · trivial

theorem partType_messages (types : List Declaration) (reference : PartReference) :
    Yields (partType types reference) b fun _ b' => b'.messages = b.messages := by
  cases reference with
  | type name => exact yields_bind (withRegistry_messages _) fun _ _ same => yields_pure same
  | element name => exact yields_bind (withRegistry_messages _) fun _ _ same => yields_pure same

/-- **The parts of a wrapper** are given names in order. -/
theorem parts_givesOut (types : List Declaration) (declared : List PartDeclaration)
    (taken : List String) :
    Yields (parts types taken declared) b fun made b' =>
      b'.messages = b.messages ∧ GivesOut .field taken (partNames made) := by
  induction declared generalizing b taken with
  | nil =>
    rw [parts]
    exact yields_pure ⟨rfl, .nil⟩
  | cons part rest ih =>
    rw [parts]
    refine yields_bind (partType_messages types part.reference) ?_
    rintro ⟨type, lookup⟩ b' same
    refine yields_lift_bind fun derived named => ?_
    refine yields_bind (ih _) ?_
    rintro made b'' ⟨same', givesOut⟩
    exact yields_pure ⟨same'.trans same, @GivesOut.cons .field _ _ _ _ named givesOut⟩

/-- **A wrapper** is named when it is made. -/
theorem message_isNamed (named : ∀ wrapper ∈ b.messages, wrapper.IsNamed) (name : Xml.Name) :
    Yields (message description name) b fun _ b' => ∀ wrapper ∈ b'.messages, wrapper.IsNamed := by
  unfold message
  refine yields_get_bind ?_
  split
  · exact yields_pure named
  · split
    · next declared _ =>
      refine yields_bind (parts_givesOut description.types declared.parts []) ?_
      rintro parts b' ⟨same, givesOut⟩
      refine yields_lift_bind fun derived derives => ?_
      refine yields_get_bind (yields_set_bind (yields_pure ?_))
      refine List.forall_mem_append.2 ⟨same ▸ named, List.forall_mem_singleton.2 ⟨?_, givesOut⟩⟩
      exact ⟨derived, derives, Naming.isNumbering_fresh _ _⟩
    · exact yields_throw _

/-- **A method** is named after its operation. -/
theorem operation_isNamed (named : ∀ wrapper ∈ b.messages, wrapper.IsNamed)
    (declared : OperationDeclaration) :
    Yields (operation description declared) b fun made b' =>
      (∀ wrapper ∈ b'.messages, wrapper.IsNamed) ∧ IsDerived .field made.action made.method := by
  unfold operation
  refine yields_lift_bind fun derived derives => ?_
  refine yields_get_bind (yields_set_bind ?_)
  have named' : ∀ wrapper ∈
      ({ b with methods := Naming.fresh b.methods derived :: b.methods } : ClientBuilder).messages,
      wrapper.IsNamed := named
  refine yields_bind (message_isNamed named' declared.input) fun _ _ first => ?_
  refine yields_bind (message_isNamed first declared.output) fun _ _ second =>
    yields_pure ⟨second, ?_⟩
  exact ⟨derived, derives, Naming.isNumbering_fresh _ _⟩

/-- **All operations.** -/
theorem operations_isNamed (named : ∀ wrapper ∈ b.messages, wrapper.IsNamed)
    (declared : List OperationDeclaration) :
    Yields (declared.mapM (operation description)) b fun made b' =>
      (∀ wrapper ∈ b'.messages, wrapper.IsNamed) ∧
        ∀ operation ∈ made, IsDerived .field operation.action operation.method := by
  induction declared generalizing b with
  | nil => exact yields_pure ⟨named, nofun⟩
  | cons first rest ih =>
    rw [List.mapM_cons]
    refine yields_bind (operation_isNamed named first) ?_
    rintro made b' ⟨named', method⟩
    refine yields_bind (ih named') ?_
    rintro others b'' ⟨named'', methods⟩
    exact yields_pure ⟨named'', List.forall_mem_cons.2 ⟨method, methods⟩⟩

/-- **Clients and their definitions are named.** -/
theorem isNamed_of_clientOf {definitions : List Definition} {client : ClientDefinition}
    (h : clientOf description = .ok (definitions, client)) :
    AreNamed definitions ∧ client.IsNamed description.service := by
  obtain ⟨b, builder⟩ := exists_isBuilderOf h
  have fills := builder.built.fills
  unfold clientOf at h
  obtain ⟨⟨operations, b'⟩, outcome, h⟩ := exists_of_bind_eq_ok h
  obtain ⟨name, named, h⟩ := exists_of_bind_eq_ok h
  have made := operations_isNamed (b := {}) (List.forall_mem_nil _)
    description.operations _ _ outcome
  cases h
  refine ⟨builder.definitions ▸ fills.wellFormed.areNamed fills.traces fills.derivesNames, ?_⟩
  exact
    { name := named
      wrappers := made.1
      wrappersDiffer := builder.messages ▸ builder.built.distinct
      methods := made.2
      methodsDiffer := builder.methods }

end ClientBuilder

end SchemaBinding
