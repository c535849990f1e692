import SchemaBinding.Generator.Denotation
import SchemaBinding.Proofs.Registry.Invariant

/-!
# Sound definitions have bindings

Definitions that refer to types before them, and to simple ones as a base, mean
something: each of them has a binding when those before it have theirs
(`IsBound.exists_binding?`), so that all have one (`exists_isBound`). What a
definition means does not change when others are added after it
(`Definition.binding?_append`), and the fields of a structured binding are those
of its definition in order (`Fields.toList_of_ofDefinitions?`).
-/

namespace SchemaBinding

section

variable {known more : List Binding}

/-! ## Meanings stay -/

theorem TypeRef.binding?_append {ref : TypeRef} {b : Binding} (h : ref.binding? known = some b) :
    ref.binding? (known ++ more) = some b := by
  cases ref with
  | builtin type => exact h
  | generated place => exact getElem?_append_of_eq_some h

theorem Fields.ofDefinitions?_cons_eq_some_iff {f : FieldDefinition} {rest : List FieldDefinition}
    {fields : Fields} :
    ofDefinitions? known (f :: rest) = some fields ↔
      ∃ type others, f.type.binding? known = some type ∧
      ofDefinitions? known rest = some others ∧ fields = .cons f.field type others := by
  simp only [ofDefinitions?, Option.bind_eq_bind, Option.bind_eq_some_iff, Option.pure_def,
    Option.some_inj, eq_comm (b := fields), exists_and_left]

theorem Fields.ofDefinitions?_append {definitions : List FieldDefinition} {fields : Fields}
    (h : ofDefinitions? known definitions = some fields) :
    ofDefinitions? (known ++ more) definitions = some fields := by
  induction definitions generalizing fields with
  | nil => exact h
  | cons f rest ih =>
    obtain ⟨type, others, here, there, rfl⟩ := ofDefinitions?_cons_eq_some_iff.1 h
    exact ofDefinitions?_cons_eq_some_iff.2
      ⟨type, others, TypeRef.binding?_append here, ih there, rfl⟩

/-- **The fields of a structured binding** are those of its definition. -/
theorem Fields.toList_of_ofDefinitions? {definitions : List FieldDefinition} {fields : Fields}
    (h : ofDefinitions? known definitions = some fields) :
    fields.toList = definitions.map FieldDefinition.field := by
  induction definitions generalizing fields with
  | nil =>
    obtain rfl := Option.some.inj h
    rfl
  | cons f rest ih =>
    obtain ⟨type, others, -, there, rfl⟩ := ofDefinitions?_cons_eq_some_iff.1 h
    rw [toList, List.map_cons, ih there]

variable {d : Definition} {b : Binding}

theorem Binding.simple?_eq_some_iff {type : SimpleType} :
    b.simple? = some type ↔ b = .simple type := by
  cases b <;> simp [simple?]

theorem Definition.binding?_of_simple {base : TypeRef} {facets : List Facet}
    (body : d.body = .simple base facets) :
    d.binding? known = some b ↔ ∃ type, base.binding? known = some (.simple type) ∧
      b = .simple (.restriction d.typeName type facets) := by
  simp only [binding?, body, Option.bind_eq_bind, Option.bind_eq_some_iff,
    Binding.simple?_eq_some_iff, Option.pure_def, Option.some_inj, eq_comm (b := b)]
  constructor
  · rintro ⟨_, found, type, rfl, same⟩
    exact ⟨type, found, same⟩
  · rintro ⟨type, found, same⟩
    exact ⟨_, found, type, rfl, same⟩

theorem Definition.binding?_of_complex {fields : List FieldDefinition}
    (body : d.body = .complex fields) :
    d.binding? known = some b ↔ ∃ bound, Fields.ofDefinitions? known fields = some bound ∧
      b = .complex d.typeName bound := by
  simp only [binding?, body, Option.bind_eq_bind, Option.bind_eq_some_iff, Option.pure_def,
    Option.some_inj, eq_comm (b := b)]

theorem Definition.binding?_of_element {type : TypeRef} (body : d.body = .element type) :
    d.binding? known = some b ↔
      ∃ inner, type.binding? known = some inner ∧ b = .element d.typeName inner := by
  simp only [binding?, body, Option.bind_eq_bind, Option.bind_eq_some_iff, Option.pure_def,
    Option.some_inj, eq_comm (b := b)]

/-- **What a definition means stays** when other definitions come after it. -/
theorem Definition.binding?_append (h : d.binding? known = some b) :
    d.binding? (known ++ more) = some b := by
  cases body : d.body with
  | simple base facets =>
    obtain ⟨type, found, rfl⟩ := (binding?_of_simple body).1 h
    exact (binding?_of_simple body).2 ⟨type, TypeRef.binding?_append found, rfl⟩
  | complex fields =>
    obtain ⟨bound, found, rfl⟩ := (binding?_of_complex body).1 h
    exact (binding?_of_complex body).2 ⟨bound, Fields.ofDefinitions?_append found, rfl⟩
  | element type =>
    obtain ⟨inner, found, rfl⟩ := (binding?_of_element body).1 h
    exact (binding?_of_element body).2 ⟨inner, TypeRef.binding?_append found, rfl⟩

end

/-! ## All definitions -/

/-- Whether bindings are those of the first definitions, as many as there are bindings. -/
def IsBound (definitions : List Definition) (known : List Binding) : Prop :=
  ∀ (i : Nat) (d : Definition), i < known.length → definitions[i]? = some d →
    ∃ b, known[i]? = some b ∧ d.binding? known = some b

variable {definitions : List Definition} {known : List Binding}

/-- A type that has been defined has a binding. -/
theorem TypeRef.IsTypeBefore.exists_binding? {ref : TypeRef}
    (h : ref.IsTypeBefore definitions known.length) :
    ∃ b, ref.binding? known = some b := by
  cases ref with
  | builtin type => exact ⟨_, rfl⟩
  | generated place => exact ⟨_, List.getElem?_eq_getElem h.1⟩

/-- A base has the binding of a simple type. -/
theorem IsBound.exists_simple (bound : IsBound definitions known) {ref : TypeRef}
    (h : ref.IsBaseBefore definitions known.length) :
    ∃ type, ref.binding? known = some (.simple type) := by
  cases ref with
  | builtin b =>
    cases b with
    | anyType => exact absurd rfl h
    | simple type => exact ⟨_, rfl⟩
  | generated place =>
    obtain ⟨before, d, found, isSimple⟩ := h
    obtain ⟨b, here, binding⟩ := bound place d before found
    cases body : d.body with
    | simple base facets =>
      obtain ⟨type, -, rfl⟩ := (Definition.binding?_of_simple body).1 binding
      exact ⟨_, here⟩
    | complex fields => rw [Definition.isSimple, body] at isSimple; cases isSimple
    | element type => rw [Definition.isSimple, body] at isSimple; cases isSimple

theorem Fields.exists_ofDefinitions? {fields : List FieldDefinition}
    (h : ∀ field ∈ fields, ∃ b, field.type.binding? known = some b) :
    ∃ bound, ofDefinitions? known fields = some bound := by
  induction fields with
  | nil => exact ⟨_, rfl⟩
  | cons f rest ih =>
    obtain ⟨⟨type, here⟩, others⟩ := List.forall_mem_cons.1 h
    obtain ⟨bound, there⟩ := ih others
    exact ⟨_, ofDefinitions?_cons_eq_some_iff.2 ⟨type, bound, here, there, rfl⟩⟩

/-- **A sound definition has a binding** when those before it have theirs. -/
theorem IsBound.exists_binding? (bound : IsBound definitions known) {d : Definition}
    (sound : d.body.IsSound definitions known.length) : ∃ b, d.binding? known = some b := by
  cases body : d.body with
  | simple base facets =>
    rw [body] at sound
    obtain ⟨type, found⟩ := bound.exists_simple sound
    exact ⟨_, (Definition.binding?_of_simple body).2 ⟨type, found, rfl⟩⟩
  | complex fields =>
    rw [body] at sound
    obtain ⟨fields, found⟩ :=
      Fields.exists_ofDefinitions? fun field mem => (sound.1 field mem).exists_binding?
    exact ⟨_, (Definition.binding?_of_complex body).2 ⟨fields, found, rfl⟩⟩
  | element type =>
    rw [body] at sound
    obtain ⟨inner, found⟩ := TypeRef.IsTypeBefore.exists_binding? sound
    exact ⟨_, (Definition.binding?_of_element body).2 ⟨inner, found, rfl⟩⟩

/-- One more definition with its binding. -/
theorem IsBound.append (bound : IsBound definitions known) {d : Definition} {b : Binding}
    (found : definitions[known.length]? = some d) (binding : d.binding? known = some b) :
    IsBound definitions (known ++ [b]) := by
  intro i other inRange there
  rw [List.length_append, List.length_singleton] at inRange
  rcases Nat.lt_succ_iff_lt_or_eq.1 inRange with before | rfl
  · obtain ⟨b', here, binding'⟩ := bound i other before there
    exact ⟨b', getElem?_append_of_eq_some here, Definition.binding?_append binding'⟩
  · obtain rfl := Option.some.inj (found.symm.trans there)
    exact ⟨b, List.getElem?_concat_length, Definition.binding?_append binding⟩

/-- **Sound definitions have bindings.** -/
theorem exists_isBound (sound : ∀ (i : Nat) (d : Definition), definitions[i]? = some d →
      d.body.IsSound definitions i) :
    ∃ bindings, bindingsOf? definitions = some bindings ∧ bindings.length = definitions.length ∧
      IsBound definitions bindings := by
  have first : ∀ n ≤ definitions.length, ∃ known, bindingsOf? (definitions.take n) = some known ∧
    known.length = n ∧
      IsBound definitions known := by
    intro n
    induction n with
    | zero => exact fun _ => ⟨[], rfl, rfl, nofun⟩
    | succ n ih =>
      intro inRange
      obtain ⟨known, made, rfl, bound⟩ := ih (Nat.le_of_lt inRange)
      have found : definitions[known.length]? = some definitions[known.length] :=
        List.getElem?_eq_getElem inRange
      obtain ⟨b, binding⟩ := bound.exists_binding? (sound _ _ found)
      refine ⟨known ++ [b], ?_, List.length_append, bound.append found binding⟩
      unfold bindingsOf? at made ⊢
      rw [List.take_succ_eq_append_getElem inRange, List.foldlM_append, made, Option.bind_eq_bind,
        Option.bind_some, List.foldlM_cons, binding]
      rfl
  obtain ⟨bindings, made, all, bound⟩ := first _ (Nat.le_refl _)
  rw [List.take_length] at made
  exact ⟨bindings, made, all, bound⟩

end SchemaBinding
