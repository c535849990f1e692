import SchemaBinding.Proofs.Registry.Cycles

/-!
# When all declarations are turned into definitions

Let every reference be to a type. Turning all declarations into definitions
succeeds if and only if no declaration that is turned is at fault itself and
there is no recursion (`exists_definitions_iff`). One direction is what stops it
(`Stopped.reachesCycle_of_isSane`). For the other one, a registry that has been
filled holds witnesses: what a definition says of its declaration has been
resolved and named.
-/

namespace SchemaBinding

/-! ## Names that can be derived -/

/-- Whether a name can be derived does not depend on what it is derived for. -/
theorem Naming.exists_typeName_iff {name : String} {kind : Naming.Kind} :
    (∃ derived, Naming.typeName name kind = .ok derived) ↔
      ∃ words, Naming.wordsOf name = .ok words := by
  unfold Naming.typeName
  cases Naming.wordsOf name with
  | error cause => exact ⟨nofun, nofun⟩
  | ok words => exact ⟨fun _ => ⟨words, rfl⟩, fun _ => ⟨_, rfl⟩⟩

namespace Registry

variable {declarations : List Declaration} {d : Declaration} {s s' : Registry}

/-- What a selection leaves: a registry that has been filled, or a declaration at which it has
stopped. -/
theorem generateAll_outcome (declarations : List Declaration) (selected : DefinitionKey → Bool) :
    match definitionsOf declarations (declarations.filter (selected ·.key)) with
    | .ok definitions =>
      ∃ s, Fills declarations selected declarations s ∧ s.definitions = definitions
    | .error cause =>
      ∃ failure d, Halted declarations selected failure d ∧ failure.cause = cause := by
  have ensured := generateAll_fills [] declarations (@Fills.empty _ selected)
  unfold Ensures at ensured
  rw [List.nil_append] at ensured
  unfold definitionsOf
  cases outcome : (generateAll declarations (declarations.filter (selected ·.key))).run {} with
  | ok result =>
    rw [outcome] at ensured
    exact ⟨result.2, ensured, rfl⟩
  | error failure =>
    rw [outcome] at ensured
    obtain ⟨d, halted⟩ := ensured
    exact ⟨failure, d, halted, rfl⟩

/-- A registry that has been filled with all declarations. -/
theorem exists_fills {definitions : List Definition}
    (h : definitionsOfAll declarations = .ok definitions) :
    ∃ s, Fills declarations anyKey declarations s ∧ s.definitions = definitions := by
  have outcome := generateAll_outcome declarations anyKey
  rw [show declarations.filter (anyKey ·.key) = declarations from
    List.filter_eq_self.2 fun _ _ => rfl] at outcome
  unfold definitionsOfAll at h
  rw [h] at outcome
  exact outcome

/-! ## What has been turned is sane -/

theorem FieldsOf.exists_fieldName {taken : List String} {elements : List ElementDeclaration}
    {fields : List FieldDefinition} (h : FieldsOf s taken elements fields) :
    ∀ e ∈ elements, ∃ derived, Naming.fieldName e.name = .ok derived := by
  induction h with
  | nil => exact nofun
  | cons _ named _ ih => exact List.forall_mem_cons.2 ⟨⟨_, named⟩, ih⟩

/-- A declaration that is turned has a definition. -/
theorem Progress.exists_definition (progress : Progress declarations declarations s)
    (isTurned : IsTurned declarations d) : ∃ i, s.lookup? d.key = some (.generated i) := by
  obtain ⟨ref, resolved⟩ := progress.resolved d isTurned.mem isTurned.notShadowed
  cases ref with
  | generated i => exact ⟨i, resolved⟩
  | builtin b =>
    obtain ⟨isType, builtin⟩ := progress.wellFormed.builtins d.key b resolved
    cases (isTurned.notBuiltin isType).symm.trans builtin

/-- The definition of a type says what the first type with its name does. -/
theorem Progress.describes (progress : Progress declarations declarations s)
    (isTurned : IsTurned declarations d) (isType : d.isType = true) :
    ∃ body, Describes s d body := by
  obtain ⟨i, resolved⟩ := progress.exists_definition isTurned
  obtain ⟨origin, definition, isFirst, key, -, describes⟩ := progress.traces _ i resolved
  obtain ⟨first, found, rfl⟩ := isFirst ((congrArg DefinitionKey.isType key).trans isType)
  obtain ⟨first', found', rfl⟩ := isTurned.isFirst isType
  rw [show first.val.name = first'.val.name from congrArg DefinitionKey.name key, found'] at found
  obtain rfl := Option.some.inj found
  exact ⟨definition.body, describes⟩

/-- The base of a simple type that has been resolved is simple. -/
theorem Progress.base (progress : Progress declarations declarations s) {name : Xml.Name}
    {ref base : TypeRef} (resolved : s.lookup? ⟨true, name⟩ = some ref)
    (isBase : IsBase s ref base) :
    builtinNamed? name ≠ none ∨
      ∃ first, firstType? declarations name = some first ∧ ∃ base, first.val = .simple base := by
  have builtin : ∀ b, s.lookup? ⟨true, name⟩ = some (.builtin b) → builtinNamed? name ≠ none := by
    intro b resolved missing
    cases missing.symm.trans (progress.wellFormed.builtins _ b resolved).2
  cases isBase with
  | anyType => exact .inl (builtin _ resolved)
  | builtin type => exact .inl (builtin _ resolved)
  | generated found simple =>
    obtain ⟨origin, definition, isFirst, key, found', describes⟩ := progress.traces _ _ resolved
    obtain rfl := Option.some.inj (found.symm.trans found')
    obtain ⟨first, isFirst, rfl⟩ := isFirst (congrArg DefinitionKey.isType key)
    rw [show first.val.name = name from congrArg DefinitionKey.name key] at isFirst
    refine .inr ⟨first, isFirst, ?_⟩
    unfold Definition.isSimple at simple
    generalize first.val = d at describes
    generalize Definition.body _ = body at describes simple
    cases describes with
    | simple _ _ => exact ⟨_, rfl⟩
    | complex _ => cases simple
    | element _ => cases simple

/-- **What has been turned into definitions is sane.** -/
theorem Progress.isSane (progress : Progress declarations declarations s) (derives : s.DerivesNames)
    (references : ∀ r ∈ d.references, builtinNamed? r ≠ none ∨
      ∃ other, firstType? declarations r = some other)
    (isTurned : IsTurned declarations d) : IsSane declarations d where
  references := references
  base := by
    rintro simple rfl
    obtain ⟨body, describes⟩ := progress.describes isTurned rfl
    cases describes with
    | simple resolved isBase => exact progress.base resolved isBase
  typeName := by
    obtain ⟨i, resolved⟩ := progress.exists_definition isTurned
    obtain ⟨definition, found, key⟩ := progress.wellFormed.known _ i resolved
    have localName : definition.xmlName = d.localName :=
      congrArg (fun key => key.name.localName) key
    obtain ⟨derived, named, -⟩ := derives definition (List.mem_of_getElem? found)
    exact Naming.exists_typeName_iff.2 (Naming.exists_typeName_iff.1 ⟨derived, localName ▸ named⟩)
  fieldNames := by
    rintro complex rfl
    obtain ⟨body, describes⟩ := progress.describes isTurned rfl
    cases describes with
    | complex fieldsOf => exact fieldsOf.exists_fieldName

/-- **When all declarations are turned into definitions.** Let every reference be to a type. It
succeeds if and only if nothing that is turned is at fault itself, and there is no recursion. -/
theorem exists_definitions_iff (references : ∀ d ∈ declarations, ∀ r ∈ d.references,
      builtinNamed? r ≠ none ∨ ∃ other, firstType? declarations r = some other) :
    (∃ definitions, definitionsOfAll declarations = .ok definitions) ↔
      (∀ d, IsTurned declarations d → IsSane declarations d) ∧ ¬ IsRecursive declarations := by
  constructor
  · rintro ⟨definitions, h⟩
    obtain ⟨s, fills, -⟩ := exists_fills h
    exact ⟨fun d isTurned =>
      fills.progress.isSane fills.derivesNames (references d isTurned.mem) isTurned,
      fills.progress.not_isRecursive⟩
  · rintro ⟨sane, notRecursive⟩
    have ensured := generateAll_ensures [] declarations .empty
    unfold Ensures at ensured
    rw [List.nil_append] at ensured
    unfold definitionsOfAll definitionsOf
    cases outcome : (generateAll declarations declarations).run {} with
    | ok result => exact ⟨_, rfl⟩
    | error failure =>
      rw [outcome] at ensured
      obtain ⟨d, stopped⟩ := ensured
      have reaches := (stopped.reachesCycle_of_isSane sane).2
      exact absurd ⟨d, stopped.mem, stopped.notShadowed, reaches⟩ notRecursive

end Registry

end SchemaBinding
