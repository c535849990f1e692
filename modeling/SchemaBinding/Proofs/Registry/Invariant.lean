import SchemaBinding.Generator.Registry
import SchemaBinding.Proofs.Naming.Fresh

/-!
# Well-formed registries

In a well-formed registry (`Registry.WellFormed`) definitions only refer to
definitions before them, names are not given out twice, and keys and definitions
belong to each other one to one. A registry changes in one way only: `Adds` says
that the definition of a declaration is added at the end, after all that the
declaration refers to. This keeps a registry well formed (`Adds.wellFormed`) and
all that has been resolved and defined as it is (`Adds.extends`).
-/

namespace SchemaBinding

/-! ## Sound definitions -/

/-- Whether a reference is to a built-in type, or to a type that is defined before a place. -/
def TypeRef.IsTypeBefore (definitions : List Definition) (place : Nat) : TypeRef → Prop
  | .builtin _ => True
  | .generated i => i < place ∧ ∃ d, definitions[i]? = some d ∧ ∀ type, d.body ≠ .element type

/-- Whether a reference is to a built-in type with simple values, or to a simple type that is
defined before a place. -/
def TypeRef.IsBaseBefore (definitions : List Definition) (place : Nat) : TypeRef → Prop
  | .builtin b => b ≠ .anyType
  | .generated i => i < place ∧ ∃ d, definitions[i]? = some d ∧ d.isSimple = true

/-- Whether what a definition at a place says is sound: it refers to types before it, to simple ones
as a base, and gives its fields different names. -/
def DefinitionBody.IsSound (definitions : List Definition) (place : Nat) : DefinitionBody → Prop
  | .simple base _ => base.IsBaseBefore definitions place
  | .complex fields =>
    (∀ field ∈ fields, field.type.IsTypeBefore definitions place) ∧
      (fields.map FieldDefinition.name).Nodup
  | .element type => type.IsTypeBefore definitions place

/-- What a definition is found by. -/
def Definition.key (d : Definition) : DefinitionKey :=
  ⟨match d.body with
    | .element _ => false
    | _ => true, d.schemaName⟩

/-- What has a place in a list keeps it when something comes after. -/
theorem getElem?_append_of_eq_some {α : Type} {l more : List α} {i : Nat} {a : α}
    (h : l[i]? = some a) :
    (l ++ more)[i]? = some a := by
  rw [List.getElem?_append_left (List.getElem?_eq_some_iff.1 h).1, h]

section

variable {definitions more : List Definition} {place : Nat}

theorem TypeRef.IsTypeBefore.append {ref : TypeRef} (h : ref.IsTypeBefore definitions place) :
    ref.IsTypeBefore (definitions ++ more) place := by
  cases ref with
  | builtin b => trivial
  | generated i =>
    obtain ⟨before, d, found, type⟩ := h
    exact ⟨before, d, getElem?_append_of_eq_some found, type⟩

theorem TypeRef.IsBaseBefore.append {ref : TypeRef} (h : ref.IsBaseBefore definitions place) :
    ref.IsBaseBefore (definitions ++ more) place := by
  cases ref with
  | builtin b => exact h
  | generated i =>
    obtain ⟨before, d, found, simple⟩ := h
    exact ⟨before, d, getElem?_append_of_eq_some found, simple⟩

/-- Sound definitions stay sound when others are added after them. -/
theorem DefinitionBody.IsSound.append {body : DefinitionBody} (h : body.IsSound definitions place) :
    body.IsSound (definitions ++ more) place := by
  cases body with
  | simple base facets => exact TypeRef.IsBaseBefore.append h
  | complex fields => exact ⟨fun field mem => (h.1 field mem).append, h.2⟩
  | element type => exact TypeRef.IsTypeBefore.append h

end

namespace Registry

/-! ## Keys that lead somewhere -/

theorem lookup?_of_builtin (s : Registry) {name : Xml.Name} {b : Builtin}
    (h : builtinNamed? name = some b) :
    s.lookup? ⟨true, name⟩ = some (.builtin b) := by
  simp only [lookup?, if_true, h]

/-- A key that has not been resolved is not that of a built-in type. -/
theorem notBuiltin_of_lookup?_eq_none {s : Registry} {key : DefinitionKey}
    (h : s.lookup? key = none) (isType : key.isType = true) : builtinNamed? key.name = none := by
  rw [lookup?, if_pos isType] at h
  split at h
  · cases h
  · assumption

/-- **The invariant of registries.** -/
structure WellFormed (s : Registry) : Prop where
  /-- Definitions refer to what is before them. -/
  sound : ∀ (i : Nat) (d : Definition), s.definitions[i]? = some d → d.body.IsSound s.definitions i
  /-- No two definitions have the same name. -/
  names : (s.definitions.map Definition.name).Nodup
  /-- The names that have been given out are those of the definitions. -/
  taken : ∀ name, name ∈ s.taken ↔ name ∈ s.definitions.map Definition.name
  /-- Every definition is found by its own key. -/
  found : ∀ (i : Nat) (d : Definition), s.definitions[i]? = some d →
    s.lookup? d.key = some (.generated i)
  /-- Whatever a key leads to is a definition with this key. -/
  known : ∀ (key : DefinitionKey) (i : Nat), s.lookup? key = some (.generated i) →
    ∃ d, s.definitions[i]? = some d ∧ d.key = key
  /-- Only names of built-in types lead to built-in types. -/
  builtins : ∀ (key : DefinitionKey) (b : Builtin), s.lookup? key = some (.builtin b) →
    key.isType = true ∧ builtinNamed? key.name = some b

theorem WellFormed.empty : WellFormed {} where
  sound := by
    intro i d h
    cases h
  names := List.nodup_nil
  taken := fun _ => Iff.rfl
  found := by
    intro i d h
    cases h
  known := by
    intro key i h
    unfold lookup? at h
    split at h <;> cases h
  builtins := by
    intro key b h
    unfold lookup? at h
    split at h
    · next found =>
      split at found
      · next isType =>
        rw [found]
        exact ⟨isType, congrArg some (TypeRef.builtin.inj (Option.some.inj h))⟩
      · cases found
    · cases h

/-- A key of a type leads to a type. -/
theorem WellFormed.isTypeBefore {s : Registry} (wf : s.WellFormed) {name : Xml.Name}
    {ref : TypeRef} (h : s.lookup? ⟨true, name⟩ = some ref) :
    ref.IsTypeBefore s.definitions s.definitions.length := by
  cases ref with
  | builtin b => trivial
  | generated i =>
    obtain ⟨d, found, key⟩ := wf.known _ i h
    refine ⟨(List.getElem?_eq_some_iff.1 found).1, d, found, fun type element => ?_⟩
    have isType := congrArg DefinitionKey.isType key
    rw [Definition.key, element] at isType
    exact Bool.false_ne_true isType

/-! ## What is said about a declaration -/

variable {s : Registry}

/-- The base that a simple type is given for the reference that its base has been resolved to. -/
inductive IsBase (s : Registry) : TypeRef → TypeRef → Prop
  | anyType : IsBase s (.builtin .anyType) (.builtin (.simple .anySimpleType))
  | builtin (type : SimpleBuiltin) : IsBase s (.builtin (.simple type)) (.builtin (.simple type))
  | generated {i : Nat} {d : Definition} (found : s.definitions[i]? = some d)
      (simple : d.isSimple = true) : IsBase s (.generated i) (.generated i)

/-- The fields that elements are given: their types as they have been resolved, and names that are
not taken. -/
inductive FieldsOf (s : Registry) : List String → List ElementDeclaration →
      List FieldDefinition → Prop
  | nil {taken : List String} : FieldsOf s taken [] []
  | cons {taken : List String} {e : ElementDeclaration} {rest : List ElementDeclaration}
      {type : TypeRef} {derived : String} {fields : List FieldDefinition}
      (resolved : s.lookup? ⟨true, typeOf e⟩ = some type)
      (named : Naming.fieldName e.name = .ok derived)
      (others : FieldsOf s (Naming.fresh taken derived :: taken) rest fields) :
      FieldsOf s taken (e :: rest)
        ({ name := Naming.fresh taken derived, xmlName := e.name, type, min := e.min, max := e.max,
           nillable := e.nillable, default := e.default } :: fields)

/-- What the definition of a declaration says, in terms of what has been resolved. -/
inductive Describes (s : Registry) : Declaration → DefinitionBody → Prop
  | simple {declaration : SimpleDeclaration} {ref base : TypeRef}
      (resolved : s.lookup? ⟨true, declaration.restriction.base⟩ = some ref)
      (isBase : IsBase s ref base) :
      Describes s (.simple declaration) (.simple base declaration.restriction.facets)
  | complex {declaration : ComplexDeclaration} {fields : List FieldDefinition}
      (fieldsOf : FieldsOf s [] declaration.fields fields) :
      Describes s (.complex declaration) (.complex fields)
  | element {declaration : ElementDeclaration} {type : TypeRef}
      (resolved : s.lookup? ⟨true, typeOf declaration⟩ = some type) :
      Describes s (.element declaration) (.element type)

theorem IsBase.isBaseBefore {ref base : TypeRef} (h : IsBase s ref base) :
    base.IsBaseBefore s.definitions s.definitions.length := by
  cases h with
  | anyType => exact Builtin.noConfusion
  | builtin type => exact Builtin.noConfusion
  | generated found simple => exact ⟨(List.getElem?_eq_some_iff.1 found).1, _, found, simple⟩

theorem FieldsOf.isTypeBefore (wf : s.WellFormed) {taken : List String}
    {elements : List ElementDeclaration} {fields : List FieldDefinition}
    (h : FieldsOf s taken elements fields) :
    ∀ field ∈ fields, field.type.IsTypeBefore s.definitions s.definitions.length := by
  induction h with
  | nil => exact List.forall_mem_nil _
  | cons resolved _ _ ih => exact List.forall_mem_cons.2 ⟨wf.isTypeBefore resolved, ih⟩

/-- The names of fields are different from each other and from those that are taken. -/
theorem FieldsOf.areNew {taken : List String} {elements : List ElementDeclaration}
    {fields : List FieldDefinition} (h : FieldsOf s taken elements fields) :
    Naming.AreNew taken (fields.map FieldDefinition.name) := by
  induction h with
  | nil => exact .nil _
  | cons _ _ _ ih => exact ih.cons

/-- **What is said about a declaration is sound** at the end of the definitions. -/
theorem Describes.isSound (wf : s.WellFormed) {d : Declaration} {body : DefinitionBody}
    (h : Describes s d body) :
    body.IsSound s.definitions s.definitions.length := by
  cases h with
  | simple _ isBase => exact isBase.isBaseBefore
  | complex fieldsOf => exact ⟨fieldsOf.isTypeBefore wf, fieldsOf.areNew.nodup⟩
  | element resolved => exact wf.isTypeBefore resolved

/-! ## Adding a definition -/

/-- The definition of a declaration under a name. -/
def definitionOf (d : Declaration) (name : String) (body : DefinitionBody) : Definition :=
  ⟨name, d.localName, d.namespaceName?, body⟩

/-- The registry with the definition of a declaration added at the end. -/
def add (s : Registry) (d : Declaration) (name : String) (body : DefinitionBody) : Registry where
  resolved := (d.key, .generated s.definitions.length) :: s.resolved
  taken := name :: s.taken
  definitions := s.definitions ++ [definitionOf d name body]

/-- The definition of a declaration has the key of the declaration. -/
theorem Describes.key_definitionOf {d : Declaration} {body : DefinitionBody}
    (h : Describes s d body) (name : String) : (definitionOf d name body).key = d.key := by
  cases h <;> rfl

theorem lookup?_add_self {d : Declaration} (unresolved : s.lookup? d.key = none) (name : String)
    (body : DefinitionBody) :
    (s.add d name body).lookup? d.key = some (.generated s.definitions.length) := by
  unfold lookup? at unresolved ⊢
  split at unresolved
  · cases unresolved
  · simp [add]

theorem lookup?_add_of_ne {d : Declaration} {key : DefinitionKey} (differs : key ≠ d.key)
    (name : String) (body : DefinitionBody) : (s.add d name body).lookup? key = s.lookup? key := by
  simp [lookup?, add, Ne.symm differs]

/-- A definition is at an earlier place, or it is the added one at the end. -/
theorem getElem?_add {d : Declaration} {name : String} {body : DefinitionBody} {i : Nat}
    {definition : Definition} (h : (s.add d name body).definitions[i]? = some definition) :
    s.definitions[i]? = some definition ∨ i = s.definitions.length ∧
      definition = definitionOf d name body := by
  rw [add, List.getElem?_append] at h
  split at h
  · exact .inl h
  · obtain ⟨past, same⟩ := List.getElem?_eq_some_iff.1 h
    rw [List.length_singleton] at past
    refine .inr ⟨by omega, ?_⟩
    rw [← same, List.getElem_singleton]

/-- **How a registry changes.** A declaration that has not been resolved gets a definition at the
end, with a new name, and with all that it refers to resolved. -/
inductive Adds (d : Declaration) (s : Registry) : Registry → Prop
  | intro {body : DefinitionBody} {derived : String} (unresolved : s.lookup? d.key = none)
      (describes : Describes s d body)
      (named : Naming.typeName d.localName d.namingKind = .ok derived) :
      Adds d s (s.add d (Naming.fresh s.taken derived) body)

variable {d : Declaration} {s' : Registry}

/-- The declaration is resolved to the definition at the end. -/
theorem Adds.lookup?_self (h : Adds d s s') :
    s'.lookup? d.key = some (.generated s.definitions.length) := by
  obtain ⟨unresolved, -, -⟩ := h
  exact lookup?_add_self unresolved _ _

/-- Other keys lead where they led before. -/
theorem Adds.lookup?_of_ne (h : Adds d s s') {key : DefinitionKey} (differs : key ≠ d.key) :
    s'.lookup? key = s.lookup? key := by
  obtain ⟨-, -, -⟩ := h
  exact lookup?_add_of_ne differs _ _

/-- Whether all that has been resolved and defined in a registry is so in another one. -/
structure Extends (s s' : Registry) : Prop where
  lookup? : ∀ {key : DefinitionKey} {ref : TypeRef}, s.lookup? key = some ref →
    s'.lookup? key = some ref
  getElem? : ∀ {i : Nat} {definition : Definition},
    s.definitions[i]? = some definition → s'.definitions[i]? = some definition

theorem Extends.refl (s : Registry) : Extends s s := ⟨id, id⟩

theorem Extends.trans {s'' : Registry} (h : Extends s s') (h' : Extends s' s'') : Extends s s'' :=
  ⟨fun resolved => h'.lookup? (h.lookup? resolved), fun found => h'.getElem? (h.getElem? found)⟩

/-- What has not been resolved in the end has not been before. -/
theorem Extends.lookup?_eq_none (h : Extends s s') {key : DefinitionKey}
    (unresolved : s'.lookup? key = none) :
    s.lookup? key = none := by
  cases resolved : s.lookup? key with
  | none => rfl
  | some ref => cases unresolved.symm.trans (h.lookup? resolved)

/-- **What has been resolved and defined stays so.** -/
theorem Adds.extends (h : Adds d s s') : Extends s s' := by
  refine ⟨fun {key ref} resolved => ?_, fun {i definition} found => ?_⟩
  · rw [h.lookup?_of_ne, resolved]
    rintro rfl
    obtain ⟨unresolved, -, -⟩ := h
    cases unresolved.symm.trans resolved
  · obtain ⟨-, -, -⟩ := h
    exact getElem?_append_of_eq_some found

/-- **A registry stays well formed.** -/
theorem Adds.wellFormed (wf : s.WellFormed) (h : Adds d s s') : s'.WellFormed := by
  have last := h.lookup?_self
  have earlier : ∀ {key ref}, s.lookup? key = some ref → s'.lookup? key = some ref :=
    h.extends.lookup?
  have others : ∀ {key}, key ≠ d.key → s'.lookup? key = s.lookup? key := h.lookup?_of_ne
  obtain ⟨unresolved, describes, named⟩ := h
  rename_i body derived
  have new : Naming.fresh s.taken derived ∉ s.definitions.map Definition.name :=
    fun mem => Naming.fresh_notMem s.taken derived ((wf.taken _).2 mem)
  constructor
  case sound =>
    intro i other h
    rcases getElem?_add h with old | ⟨rfl, rfl⟩
    · exact (wf.sound i other old).append
    · exact (describes.isSound wf).append
  case names =>
    rw [add, List.map_append, List.nodup_append]
    refine ⟨wf.names, List.nodup_singleton _, fun name mem other hother => ?_⟩
    rw [List.map_singleton, List.mem_singleton] at hother
    rintro rfl
    rw [hother] at mem
    exact new mem
  case taken =>
    intro name
    rw [add, List.map_append, List.mem_append, List.mem_cons, ← wf.taken name, List.map_singleton,
      List.mem_singleton]
    exact or_comm
  case found =>
    intro i other h
    rcases getElem?_add h with old | ⟨rfl, rfl⟩
    · exact earlier (wf.found i other old)
    · rw [describes.key_definitionOf]
      exact last
  case known =>
    intro key i h
    by_cases same : key = d.key
    · subst same
      obtain rfl := TypeRef.generated.inj (Option.some.inj (h.symm.trans last))
      exact ⟨_, by rw [add, List.getElem?_concat_length], describes.key_definitionOf _⟩
    · obtain ⟨other, found, key⟩ := wf.known key i (others same ▸ h)
      exact ⟨other, getElem?_append_of_eq_some found, key⟩
  case builtins =>
    intro key b h
    by_cases same : key = d.key
    · subst same
      cases h.symm.trans last
    · exact wf.builtins key b (others same ▸ h)

end Registry

end SchemaBinding
