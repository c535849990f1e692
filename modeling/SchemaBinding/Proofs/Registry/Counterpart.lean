import Mathlib.Data.List.Find
import SchemaBinding.Proofs.Loading.Adoption
import SchemaBinding.Proofs.Registry.Success

/-!
# Declarations that have taken over a namespace

When declarations take over a namespace, with all that they refer to, each has a
counterpart. As long as their names stay apart, the counterpart of a declaration
refers to the counterparts of what it referred to (`referent?_under`). So nothing
is at fault that was not before (`IsSane.under`), references close no cycle that
was not there before (`not_isRecursive_under`), and all of them are turned into
definitions if they were before (`exists_definitions_under`).
-/

namespace SchemaBinding

/-! ## Counterparts -/

section

variable (d : Declaration) (e : ElementDeclaration) (outer : Option String)

@[simp] theorem Declaration.isType_under : (d.under outer).isType = d.isType := by cases d <;> rfl

@[simp] theorem Declaration.name_under : (d.under outer).name = d.name.under outer := by
  cases d <;> rfl

@[simp] theorem Declaration.localName_under : (d.under outer).localName = d.localName := by
  cases d <;> rfl

@[simp] theorem Declaration.namingKind_under : (d.under outer).namingKind = d.namingKind := by
  cases d <;> rfl

theorem Registry.typeOf_under : typeOf (e.under outer) = (typeOf e).under outer := by
  unfold typeOf ElementDeclaration.under
  cases e.type? <;> rfl

/-- The counterpart of a declaration refers to what the declaration does, in the namespace that is
taken over. -/
theorem Declaration.references_under :
    (d.under outer).references = d.references.map (·.under outer) := by
  cases d with
  | simple d => rfl
  | complex d =>
    change (d.fields.map (·.under outer)).map Registry.typeOf =
      (d.fields.map Registry.typeOf).map (·.under outer)
    rw [List.map_map, List.map_map]
    exact List.map_congr_left fun field _ => Registry.typeOf_under field outer
  | element e => exact congrArg (fun name => [name]) (Registry.typeOf_under e outer)

end

/-- The name of a built-in type has a namespace. -/
theorem under_of_builtin {name : Xml.Name} (h : builtinNamed? name ≠ none) (outer : Option String) :
    name.under outer = name := by
  refine Xml.Name.under_of_ne_none (fun none => h ?_) outer
  rw [builtinNamed?, none]
  rfl

namespace Registry

/-- What a name refers to: a built-in type, or else the first type with this name. -/
def referent? (declarations : List Declaration) (name : Xml.Name) :
    Option (Builtin ⊕ Declaration) :=
  match builtinNamed? name with
  | some builtin => some (.inl builtin)
  | none => (firstType? declarations name).map fun d => .inr d.val

/-- Whether a name is that of a built-in type or of a declared one. -/
def IsKnown (declarations : List Declaration) (name : Xml.Name) : Prop :=
  builtinNamed? name ≠ none ∨ ∃ other, firstType? declarations name = some other

variable {declarations : List Declaration} {outer : Option String} {d : Declaration}
  {name : Xml.Name}

theorem isKnown_iff : IsKnown declarations name ↔ referent? declarations name ≠ none := by
  unfold IsKnown referent?
  cases builtinNamed? name with
  | some builtin => exact ⟨fun _ => Option.some_ne_none _, fun _ => .inl (Option.some_ne_none _)⟩
  | none =>
    cases firstType? declarations name with
    | none => exact ⟨fun known => known.elim (absurd rfl) nofun, fun differs => absurd rfl differs⟩
    | some other => exact ⟨fun _ => Option.some_ne_none _, fun _ => .inr ⟨other, rfl⟩⟩

theorem map_val_firstType? (declarations : List Declaration) (name : Xml.Name) :
    (firstType? declarations name).map Subtype.val =
      declarations.find? fun other => other.isType && other.name == name := by
  unfold firstType? first?
  split
  · next found => exact found.symm
  · next missing => exact missing.symm

/-- A declared type has a first one with its name. -/
theorem exists_firstType?_of_mem (mem : d ∈ declarations) (isType : d.isType = true) :
    ∃ first, firstType? declarations d.name = some first := by
  cases found : firstType? declarations d.name with
  | some first => exact ⟨first, rfl⟩
  | none =>
    have missing := (map_val_firstType? declarations d.name).symm.trans
      (congrArg (Option.map Subtype.val) found)
    have differs := List.find?_eq_none.1 missing d mem
    rw [isType, beq_self_eq_true] at differs
    exact absurd rfl differs

/-- Whether the names of types stay apart when a namespace is taken over: no other name becomes the
same, and none becomes that of a built-in type. -/
structure StaysApart (declarations : List Declaration) (outer : Option String) : Prop where
  names : ∀ d ∈ declarations, ∀ type ∈ declarations, type.isType = true →
    type.name.under outer = d.name.under outer → type.name = d.name
  builtins : ∀ type ∈ declarations, type.isType = true →
    builtinNamed? (type.name.under outer) = builtinNamed? type.name

/-- A built-in type stays the same, and a declared one does not become built in. -/
theorem builtinNamed?_under (apart : StaysApart declarations outer)
    (known : IsKnown declarations name) :
    builtinNamed? (name.under outer) = builtinNamed? name := by
  rcases known with builtin | ⟨other, first⟩
  · rw [under_of_builtin builtin]
  · have key := key_of_firstType? first
    obtain rfl : other.val.name = name := congrArg DefinitionKey.name key
    exact apart.builtins other.val other.property (congrArg DefinitionKey.isType key)

/-- No type gets a known name that it did not have before. -/
theorem name_eq_of_under (apart : StaysApart declarations outer)
    (known : IsKnown declarations name) (mem : d ∈ declarations) (isType : d.isType = true)
    (same : d.name.under outer = name.under outer) :
    d.name = name := by
  rcases known with builtin | ⟨other, first⟩
  · -- A type whose name becomes that of a built-in type has had it before.
    rw [under_of_builtin builtin] at same
    have before : builtinNamed? d.name ≠ none := by
      rw [← apart.builtins d mem isType, same]
      exact builtin
    rw [← under_of_builtin before outer, same]
  · obtain rfl : other.val.name = name := congrArg DefinitionKey.name (key_of_firstType? first)
    exact apart.names other.val other.property d mem isType same

/-- **The first type with a name** has its counterpart as the first type with the counterpart of the
name. -/
theorem firstType?_under (apart : StaysApart declarations outer)
    (known : IsKnown declarations name) :
    (firstType? (declarations.map (·.under outer)) (name.under outer)).map Subtype.val =
      (firstType? declarations name).map fun d => d.val.under outer := by
  have found : declarations.find? (fun other =>
      (other.under outer).isType && (other.under outer).name == name.under outer) =
        declarations.find? fun other => other.isType && other.name == name := by
    refine List.find?_congr fun other mem => ?_
    rw [Declaration.isType_under, Declaration.name_under]
    cases isType : other.isType with
    | false => rfl
    | true =>
      rw [Bool.true_and, Bool.true_and, Bool.eq_iff_iff, beq_iff_eq, beq_iff_eq]
      exact ⟨name_eq_of_under apart known mem isType, congrArg (Xml.Name.under · outer)⟩
  rw [map_val_firstType?, List.find?_map, Function.comp_def, found, ← map_val_firstType?,
    Option.map_map]
  rfl

/-- **References lead to counterparts.** -/
theorem referent?_under (apart : StaysApart declarations outer)
    (known : IsKnown declarations name) :
    referent? (declarations.map (·.under outer)) (name.under outer) =
      (referent? declarations name).map (Sum.map id (·.under outer)) := by
  unfold referent?
  rw [builtinNamed?_under apart known]
  cases builtinNamed? name with
  | some builtin => rfl
  | none =>
    have first := congrArg (Option.map (Sum.inr : Declaration → Builtin ⊕ Declaration))
      (firstType?_under apart known)
    rw [Option.map_map, Option.map_map] at first
    dsimp only
    rw [Option.map_map]
    exact first

theorem IsKnown.under (apart : StaysApart declarations outer) (known : IsKnown declarations name) :
    IsKnown (declarations.map (·.under outer)) (name.under outer) := by
  rw [isKnown_iff, referent?_under apart known]
  intro none
  exact isKnown_iff.1 known (Option.map_eq_none_iff.1 none)

/-! ## Faults -/

theorem isShadowed_under (apart : StaysApart declarations outer) (mem : d ∈ declarations) :
    (d.under outer).isShadowed (declarations.map (·.under outer)) = d.isShadowed declarations := by
  unfold Declaration.isShadowed
  rw [Declaration.isType_under, List.any_map]
  congr 1
  rw [Bool.eq_iff_iff, List.any_eq_true, List.any_eq_true]
  refine exists_congr fun type => and_congr_right fun ofType => ?_
  rw [Function.comp_apply, Declaration.isType_under, Declaration.name_under, Declaration.name_under,
    Bool.and_eq_true, Bool.and_eq_true, beq_iff_eq, beq_iff_eq]
  refine and_congr_right fun isType =>
    ⟨apart.names d mem type ofType isType, congrArg (Xml.Name.under · outer)⟩

/-- What is turned into a definition is the counterpart of something that was. -/
theorem IsTurned.exists_of_under (apart : StaysApart declarations outer) {d' : Declaration}
    (h : IsTurned (declarations.map (·.under outer)) d') :
    ∃ d, IsTurned declarations d ∧ d' = d.under outer := by
  obtain ⟨d, mem, rfl⟩ := List.mem_map.1 h.mem
  cases isType : d.isType with
  | false =>
    refine ⟨d, ⟨mem, ?_, fun type => ?_, fun type => ?_⟩, rfl⟩
    · rw [← isShadowed_under apart mem]
      exact h.notShadowed
    · cases isType.symm.trans type
    · cases isType.symm.trans type
  | true =>
    obtain ⟨first, found⟩ := exists_firstType?_of_mem mem isType
    obtain ⟨first', found', same⟩ := h.isFirst (by rw [Declaration.isType_under, isType])
    have known : IsKnown declarations d.name := .inr ⟨first, found⟩
    have firsts := firstType?_under apart known
    rw [← Declaration.name_under, found', found] at firsts
    have counterpart : d.under outer = first.val.under outer :=
      same.symm.trans (Option.some.inj firsts)
    have key := key_of_firstType? found
    have firstIsType : first.val.isType = true := congrArg DefinitionKey.isType key
    have named : first.val.name = d.name := congrArg DefinitionKey.name key
    refine ⟨first.val, ⟨first.property, isShadowed_of_isType firstIsType,
      isFirst_of_firstType? found, fun _ => ?_⟩, counterpart⟩
    rw [named, ← builtinNamed?_under apart known, ← Declaration.name_under]
    exact h.notBuiltin (by rw [Declaration.isType_under, isType])

/-- **What was not at fault** is not at fault in the namespace that is taken over. -/
theorem IsSane.under (apart : StaysApart declarations outer) (h : IsSane declarations d) :
    IsSane (declarations.map (·.under outer)) (d.under outer) where
  references := by
    intro r mem
    rw [Declaration.references_under] at mem
    obtain ⟨before, refers, rfl⟩ := List.mem_map.1 mem
    exact IsKnown.under apart (h.references before refers)
  base := by
    intro simple' same
    cases d with
    | complex d => cases same
    | element e => cases same
    | simple simple =>
      cases same
      have known : IsKnown declarations simple.restriction.base :=
        h.references _ (List.mem_singleton_self _)
      rcases h.base simple rfl with builtin | ⟨first, found, base, isSimple⟩
      · exact .inl (by rw [builtinNamed?_under apart known]; exact builtin)
      · have firsts := firstType?_under apart known
        rw [found] at firsts
        obtain ⟨first', found', same⟩ := Option.map_eq_some_iff.1 firsts
        exact .inr ⟨first', found', _, same.trans (congrArg (Declaration.under outer) isSimple)⟩
  typeName := by
    rw [Declaration.localName_under, Declaration.namingKind_under]
    exact h.typeName
  fieldNames := by
    intro complex' same
    cases d with
    | simple d => cases same
    | element e => cases same
    | complex complex =>
      cases same
      intro e' mem
      obtain ⟨e, ofFields, rfl⟩ := List.mem_map.1 mem
      exact h.fieldNames complex rfl e ofFields

/-! ## Recursion -/

/-- A reference in the namespace that is taken over comes from one that was there before. -/
theorem Edge.exists_of_under (apart : StaysApart declarations outer)
    (references : ∀ d ∈ declarations, ∀ r ∈ d.references, IsKnown declarations r) {r : Xml.Name}
    (known : IsKnown declarations name)
    (h : Edge (declarations.map (·.under outer)) (name.under outer) r) :
    ∃ before, r = before.under outer ∧ IsKnown declarations before ∧
      Edge declarations name before := by
  obtain ⟨notBuiltin, first', found', refers⟩ := h
  rw [builtinNamed?_under apart known] at notBuiltin
  have firsts := firstType?_under apart known
  rw [found'] at firsts
  obtain ⟨first, found, same⟩ := Option.map_eq_some_iff.1 firsts.symm
  rw [← show first.val.under outer = first'.val from same, Declaration.references_under] at refers
  obtain ⟨before, mem, rfl⟩ := List.mem_map.1 refers
  exact ⟨before, rfl, references first.val first.property before mem, notBuiltin, first, found, mem⟩

theorem transGen_of_under (apart : StaysApart declarations outer)
    (references : ∀ d ∈ declarations, ∀ r ∈ d.references, IsKnown declarations r) {r : Xml.Name}
    (known : IsKnown declarations name)
    (h : Relation.TransGen (Edge (declarations.map (·.under outer))) (name.under outer) r) :
    ∃ before, r = before.under outer ∧ IsKnown declarations before ∧
      Relation.TransGen (Edge declarations) name before := by
  induction h with
  | single edge =>
    obtain ⟨before, rfl, known', edge⟩ := Edge.exists_of_under apart references known edge
    exact ⟨before, rfl, known', .single edge⟩
  | tail _ edge ih =>
    obtain ⟨middle, rfl, known', way⟩ := ih
    obtain ⟨before, rfl, known'', edge⟩ := Edge.exists_of_under apart references known' edge
    exact ⟨before, rfl, known'', way.tail edge⟩

/-- **A namespace that is taken over closes no cycle.** -/
theorem not_isRecursive_under (apart : StaysApart declarations outer)
    (references : ∀ d ∈ declarations, ∀ r ∈ d.references, IsKnown declarations r)
    (acyclic : ∀ name, ¬ Relation.TransGen (Edge declarations) name name) :
    ¬ IsRecursive (declarations.map (·.under outer)) := by
  rintro ⟨d', mem, -, m, -, cycle⟩
  -- The cycle passes through the name of a type, which is the counterpart of one.
  obtain ⟨r, ⟨notBuiltin, first', found', -⟩, -⟩ := Relation.TransGen.head'_iff.1 cycle
  obtain ⟨type, ofTypes, same⟩ := List.mem_map.1 first'.property
  have key := key_of_firstType? found'
  rw [← same, Declaration.key, Declaration.isType_under, Declaration.name_under] at key
  have isType : type.isType = true := congrArg DefinitionKey.isType key
  obtain rfl : type.name.under outer = m := congrArg DefinitionKey.name key
  have known : IsKnown declarations type.name := .inr (exists_firstType?_of_mem ofTypes isType)
  obtain ⟨before, back, known', way⟩ := transGen_of_under apart references known cycle
  obtain rfl := name_eq_of_under apart known' ofTypes isType back
  exact acyclic _ way

/-- **Declarations that take over a namespace** are turned into definitions if they were before. -/
theorem exists_definitions_under (apart : StaysApart declarations outer)
    (references : ∀ d ∈ declarations, ∀ r ∈ d.references, IsKnown declarations r)
    (h : ∃ definitions, definitionsOfAll declarations = .ok definitions) :
    ∃ definitions, definitionsOfAll (declarations.map (·.under outer)) = .ok definitions := by
  have sane := ((exists_definitions_iff references).1 h).1
  obtain ⟨definitions, made⟩ := h
  obtain ⟨s, fills, -⟩ := exists_fills made
  refine (exists_definitions_iff fun d' mem r refers => ?_).2 ⟨fun d' isTurned => ?_, ?_⟩
  · obtain ⟨d, ofDeclarations, rfl⟩ := List.mem_map.1 mem
    rw [Declaration.references_under] at refers
    obtain ⟨before, mem, rfl⟩ := List.mem_map.1 refers
    exact IsKnown.under apart (references d ofDeclarations before mem)
  · obtain ⟨d, turned, rfl⟩ := isTurned.exists_of_under apart
    exact (sane d turned).under apart
  · exact not_isRecursive_under apart references fills.progress.not_transGen_self

end Registry

end SchemaBinding
