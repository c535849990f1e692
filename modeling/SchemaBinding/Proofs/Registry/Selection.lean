import SchemaBinding.Proofs.Registry.Success

/-!
# Definitions of selected declarations

Let all declarations be turned into definitions. Then nothing stops any
selection of them (`Fills.not_fails`): what is referred to has an earlier place
among all definitions, so that no way leads back. Of what is selected or
referred to there is one definition each (`Fills.mem_keys_iff`). Two registries
that say something about one declaration say the same, up to the places of the
definitions that they refer to (`Describes.eq_renumber`). So the definitions of
a selection are those of its dependency closure, as they are among all
definitions (`definitionsNamed_counterparts`).
-/

namespace SchemaBinding

/-! ## Renumbering -/

/-- A reference after definitions have got other places. -/
def TypeRef.renumber (place : Nat → Nat) : TypeRef → TypeRef
  | .builtin b => .builtin b
  | .generated i => .generated (place i)

/-- What is defined after definitions have got other places. -/
def DefinitionBody.renumber (place : Nat → Nat) : DefinitionBody → DefinitionBody
  | .simple base facets => .simple (base.renumber place) facets
  | .complex fields => .complex (fields.map fun field =>
    { field with type := field.type.renumber place })
  | .element type => .element (type.renumber place)

/-- Whether a definition is another one, up to the places of what it refers to and the number after
its name. -/
structure Definition.IsCounterpart (place : Nat → Nat) (own other : Definition) : Prop where
  xmlName : other.xmlName = own.xmlName
  namespaceName? : other.namespaceName? = own.namespaceName?
  body : other.body = own.body.renumber place
  name : ∃ derived, Naming.typeName own.xmlName own.namingKind = .ok derived ∧
    Naming.IsNumbering derived own.name ∧ Naming.IsNumbering derived other.name

namespace Registry

variable {declarations : List Declaration} {d other : Declaration} {s t : Registry}

/-- The place that a registry gives to the definition that has a place in another one, found by its
key. -/
def placeIn (s t : Registry) (i : Nat) : Nat :=
  match (s.definitions[i]?).bind fun d => t.lookup? d.key with
  | some (.generated j) => j
  | _ => 0

theorem placeIn_eq (wf : s.WellFormed) {key : DefinitionKey} {i j : Nat}
    (own : s.lookup? key = some (.generated i)) (there : t.lookup? key = some (.generated j)) :
    s.placeIn t i = j := by
  obtain ⟨d, found, rfl⟩ := wf.known key i own
  rw [placeIn, found, Option.bind_some, there]

/-- Two registries resolve a name to the same, up to places. -/
theorem eq_renumber_of_lookup? (wf : s.WellFormed) (wf' : t.WellFormed) {name : Xml.Name}
    {ref ref' : TypeRef} (own : s.lookup? ⟨true, name⟩ = some ref)
    (there : t.lookup? ⟨true, name⟩ = some ref') :
    ref' = ref.renumber (s.placeIn t) := by
  cases ref with
  | builtin b =>
    have known := (wf.builtins _ b own).2
    exact Option.some.inj (there.symm.trans (lookup?_of_builtin t known))
  | generated i =>
    cases ref' with
    | builtin b =>
      have known := (wf'.builtins _ b there).2
      cases own.symm.trans (lookup?_of_builtin s known)
    | generated j => exact congrArg TypeRef.generated (placeIn_eq wf own there).symm

theorem IsBase.eq_renumber {place : Nat → Nat} {ref base base' : TypeRef} (h : IsBase s ref base)
    (h' : IsBase t (ref.renumber place) base') : base' = base.renumber place := by
  cases h with
  | anyType => cases h'; rfl
  | builtin type => cases h'; rfl
  | generated _ _ => cases h'; rfl

theorem FieldsOf.eq_renumber (wf : s.WellFormed) (wf' : t.WellFormed) {taken : List String}
    {elements : List ElementDeclaration} {fields fields' : List FieldDefinition}
    (h : FieldsOf s taken elements fields) (h' : FieldsOf t taken elements fields') :
    fields' = fields.map fun field => { field with type := field.type.renumber (s.placeIn t) } := by
  induction h generalizing fields' with
  | nil =>
    cases h'
    rfl
  | cons resolved named _ ih =>
    cases h' with
    | cons resolved' named' others' =>
      cases named.symm.trans named'
      rw [List.map_cons, ← ih others', eq_renumber_of_lookup? wf wf' resolved resolved']

/-- **Two registries say the same** about a declaration, up to places. -/
theorem Describes.eq_renumber (wf : s.WellFormed) (wf' : t.WellFormed) {body body' : DefinitionBody}
    (h : Describes s d body) (h' : Describes t d body') : body' = body.renumber (s.placeIn t) := by
  cases h with
  | simple resolved isBase =>
    cases h' with
    | simple resolved' isBase' =>
      rw [eq_renumber_of_lookup? wf wf' resolved resolved'] at isBase'
      rw [isBase.eq_renumber isBase']
      rfl
  | complex fieldsOf =>
    cases h' with
    | complex fieldsOf' => exact congrArg DefinitionBody.complex (fieldsOf.eq_renumber wf
        wf' fieldsOf')
  | element resolved =>
    cases h' with
    | element resolved' => exact congrArg DefinitionBody.element (eq_renumber_of_lookup? wf wf'
        resolved resolved')

/-! ## Filled registries -/

theorem WellFormed.nodup_keys (wf : s.WellFormed) : (s.definitions.map Definition.key).Nodup := by
  rw [List.Nodup, List.pairwise_map, List.pairwise_iff_getElem]
  intro i j hi hj before same
  have here := wf.found i _ (List.getElem?_eq_getElem hi)
  rw [same, wf.found j _ (List.getElem?_eq_getElem hj)] at here
  have := TypeRef.generated.inj (Option.some.inj here)
  omega

section

variable {selected : DefinitionKey → Bool}

/-- The definition that the key of a declaration leads to comes from this declaration. -/
theorem Fills.exists_describes {before : List Declaration}
    (fills : Fills declarations selected before s) (definable : IsDefinable declarations d)
    {i : Nat} (resolved : s.lookup? d.key = some (.generated i)) :
    Selects declarations selected d ∧
      ∃ definition, s.definitions[i]? = some definition ∧ Describes s d definition.body := by
  obtain ⟨origin, definition, selects, key, found, describes⟩ := fills.traces _ i resolved
  obtain rfl := selects.definable.eq_of_key definable key
  exact ⟨selects, definition, found, describes⟩

/-- What a declaration refers to is resolved, to a definition before that of the declaration if to
one. -/
theorem Fills.exists_reference (fills : Fills declarations selected declarations s)
    (definable : IsDefinable declarations d) {i : Nat}
    (resolved : s.lookup? d.key = some (.generated i)) {r : Xml.Name} (mem : r ∈ d.references) :
    ∃ ref, s.lookup? ⟨true, r⟩ = some ref ∧ ∀ j, ref = .generated j → j < i := by
  obtain ⟨-, definition, found, describes⟩ := fills.exists_describes definable resolved
  exact describes.exists_reference (fills.wellFormed.sound i definition found) mem

/-- What is resolved is no built-in type, if it is a declaration that gets a definition. -/
theorem Fills.exists_index_of_resolved {before : List Declaration}
    (fills : Fills declarations selected before s) (definable : IsDefinable declarations d)
    {ref : TypeRef} (resolved : s.lookup? d.key = some ref) :
    ∃ i, s.lookup? d.key = some (.generated i) := by
  cases ref with
  | generated i => exact ⟨i, resolved⟩
  | builtin b =>
    obtain ⟨isType, builtin⟩ := fills.wellFormed.builtins d.key b resolved
    cases (definable.notBuiltin isType).symm.trans builtin

/-- **Whatever is selected or referred to has a definition.** -/
theorem Fills.exists_index (fills : Fills declarations selected declarations s)
    (selects : Selects declarations selected d) : ∃ i, s.lookup? d.key = some (.generated i) := by
  induction selects with
  | @root d definable root =>
    obtain ⟨ref, resolved⟩ := fills.resolved d definable.mem root definable.notShadowed
    exact fills.exists_index_of_resolved definable resolved
  | reference referring mem definable key ih =>
    obtain ⟨i, above⟩ := ih
    obtain ⟨ref, resolved, -⟩ := fills.exists_reference referring.definable above mem
    exact fills.exists_index_of_resolved definable (key ▸ resolved)

/-- **One definition each, and no others.** -/
theorem Fills.mem_keys_iff (fills : Fills declarations selected declarations s)
    {key : DefinitionKey} :
    key ∈ s.definitions.map Definition.key ↔
      ∃ d, Selects declarations selected d ∧ d.key = key := by
  constructor
  · intro mem
    obtain ⟨definition, inDefinitions, rfl⟩ := List.mem_map.1 mem
    obtain ⟨i, found⟩ := List.mem_iff_getElem?.1 inDefinitions
    obtain ⟨d, -, selects, key, -, -⟩ :=
      fills.traces _ i (fills.wellFormed.found i definition found)
    exact ⟨d, selects, key⟩
  · rintro ⟨d, selects, rfl⟩
    obtain ⟨i, resolved⟩ := fills.exists_index selects
    obtain ⟨definition, found, key⟩ := fills.wellFormed.known _ i resolved
    exact key ▸ List.mem_map_of_mem (List.mem_of_getElem? found)

end

/-! ## Nothing stops a selection -/

section

variable {selected : DefinitionKey → Bool} {failure : Failure}

/-- Whatever gets a definition has one among all definitions. -/
theorem Fills.exists_index_of_definable (full : Fills declarations anyKey declarations t)
    (definable : IsDefinable declarations d) : ∃ i, t.lookup? d.key = some (.generated i) :=
  full.exists_index (.root definable rfl)

/-- A declaration that has been turned into a definition is not at fault itself. -/
theorem Fills.not_faulty (full : Fills declarations anyKey declarations t)
    (definable : IsDefinable declarations d)
    (traces : failure.registry.Traces (Selects declarations selected)) : ¬ Faulty failure d := by
  obtain ⟨i, resolved⟩ := full.exists_index_of_definable definable
  obtain ⟨-, definition, found, describes⟩ := full.exists_describes definable resolved
  intro faulty
  cases faulty with
  | @base declaration j unfit leads placed other cause =>
    -- The base has a definition among all others too, which says the same and is that of a simple
    -- type.
    obtain ⟨origin, unfit', selects, key, placed', unfits⟩ := traces _ j leads
    obtain rfl := Option.some.inj (placed.symm.trans placed')
    obtain ⟨k, there⟩ := full.exists_index_of_definable selects.definable
    obtain ⟨-, fit, placed'', fits⟩ := full.exists_describes selects.definable there
    rw [key] at there
    generalize definition.body = body at describes
    cases describes with
    | simple resolved isBase =>
      cases there.symm.trans resolved
      cases isBase with
      | generated found simple =>
        obtain rfl := Option.some.inj (placed''.symm.trans found)
        exact Bool.false_ne_true
          (other.symm.trans ((unfits.isSimple_eq.trans fits.isSimple_eq.symm).trans simple))
  | fieldName inFields cause =>
    generalize definition.body = body at describes
    cases describes with
    | complex fieldsOf =>
      obtain ⟨derived, named⟩ := fieldsOf.exists_fieldName _ inFields
      cases named.symm.trans cause
  | typeName cause =>
    obtain ⟨definition, found, key⟩ := full.wellFormed.known _ i resolved
    obtain ⟨derived, named, -⟩ := full.derivesNames definition (List.mem_of_getElem? found)
    rw [show definition.xmlName = d.localName from
      congrArg (fun key => key.name.localName) key] at named
    obtain ⟨derived', named'⟩ :=
      Naming.exists_typeName_iff.2 (Naming.exists_typeName_iff.1 ⟨derived, named⟩)
    cases named'.symm.trans cause

/-- What a declaration refers to is found when it has been turned into a definition. -/
theorem Fills.not_notFound (full : Fills declarations anyKey declarations t)
    (definable : IsDefinable declarations d) {r : Xml.Name} (mem : r ∈ d.references)
    {path : List DefinitionKey} : ¬ NotFound declarations failure path r := by
  intro notFound
  obtain ⟨i, resolved⟩ := full.exists_index_of_definable definable
  obtain ⟨ref, leads, -⟩ := full.exists_reference definable resolved mem
  cases ref with
  | builtin b => cases notFound.notBuiltin.symm.trans (full.wellFormed.builtins _ b leads).2
  | generated j =>
    obtain ⟨origin, -, selects, key, -⟩ := full.traces _ j leads
    obtain ⟨first, found, -⟩ := selects.definable.isFirst (congrArg DefinitionKey.isType key)
    rw [show origin.name = r from congrArg DefinitionKey.name key, notFound.unknown] at found
    cases found

/-- **Nothing stops a selection** of declarations that have all been turned into definitions. Each
declaration on the way has a later place among all definitions than those it leads to, so that none
is met again. -/
theorem Fills.not_fails (full : Fills declarations anyKey declarations t)
    (traces : failure.registry.Traces (Selects declarations selected)) {path : List DefinitionKey}
    (h : Fails declarations failure path d)
    (definable : (d.isType = true → builtinNamed? d.name = none) → IsDefinable declarations d)
    (way : ∀ key ∈ path, ∃ i, t.lookup? key = some (.generated i) ∧
      ∀ j, t.lookup? d.key = some (.generated j) → j < i) : False := by
  induction h with
  | @recursive path d met _ _ =>
    obtain ⟨i, resolved, before⟩ := way d.key met
    exact Nat.lt_irrefl i (before i resolved)
  | own enters faulty _ => exact full.not_faulty (definable enters.notBuiltin) traces faulty
  | missing enters mem notFound =>
    exact full.not_notFound (definable enters.notBuiltin) mem notFound
  | @reference path d r other enters mem first _ ih =>
    have key := key_of_firstType? first
    have named : other.val.name = r := congrArg DefinitionKey.name key
    obtain ⟨i, resolved⟩ := full.exists_index_of_definable (definable enters.notBuiltin)
    obtain ⟨ref, leads, before⟩ := full.exists_reference (definable enters.notBuiltin) resolved mem
    have later : ∀ j, t.lookup? other.val.key = some (.generated j) → j < i := by
      intro j there
      rw [key, leads] at there
      exact before j (Option.some.inj there)
    refine ih (fun notBuiltin => ?_) fun earlier onWay => ?_
    · exact isDefinable_of_firstType? (named ▸ notBuiltin (congrArg DefinitionKey.isType key)) first
    · rcases List.mem_cons.1 onWay with rfl | before
      · exact ⟨i, resolved, later⟩
      · obtain ⟨k, there, above⟩ := way earlier before
        exact ⟨k, there, fun j hj => Nat.lt_trans (later j hj) (above i resolved)⟩

/-- A selection of declarations that have all been turned into definitions. -/
theorem exists_fills_of_fills (full : Fills declarations anyKey declarations t)
    (selected : DefinitionKey → Bool) :
    ∃ s, Fills declarations selected declarations s ∧
      definitionsOf declarations (declarations.filter (selected ·.key)) = .ok s.definitions := by
  have outcome := generateAll_outcome declarations selected
  cases found : definitionsOf declarations (declarations.filter (selected ·.key)) with
  | ok definitions =>
    rw [found] at outcome
    obtain ⟨s, fills, rfl⟩ := outcome
    exact ⟨s, fills, rfl⟩
  | error cause =>
    rw [found] at outcome
    obtain ⟨failure, d, halted, -⟩ := outcome
    exact (full.not_fails halted.traces halted.fails (fun _ => halted.selects.definable) nofun).elim

end

theorem namingKind_eq_of_renumber {own other : Definition} {place : Nat → Nat}
    (body : other.body = own.body.renumber place) : other.namingKind = own.namingKind := by
  unfold Definition.namingKind
  rw [body]
  cases own.body <;> rfl

/-- **Definitions of one declaration**, with one key, are counterparts. -/
theorem Describes.isCounterpart (wf : s.WellFormed) (wf' : t.WellFormed)
    (derives : s.DerivesNames) (derives' : t.DerivesNames) {i j : Nat} {own other : Definition}
    (found : s.definitions[i]? = some own) (placed : t.definitions[j]? = some other)
    (key : other.key = own.key) (describes : Describes s d own.body)
    (describes' : Describes t d other.body) : own.IsCounterpart (s.placeIn t) other := by
  have name : other.schemaName = own.schemaName := congrArg DefinitionKey.name key
  have xmlName : other.xmlName = own.xmlName := congrArg Xml.Name.localName name
  have body := describes.eq_renumber wf wf' describes'
  obtain ⟨derived, named, numbering⟩ := derives own (List.mem_of_getElem? found)
  obtain ⟨derived', named', numbering'⟩ := derives' other (List.mem_of_getElem? placed)
  rw [xmlName, namingKind_eq_of_renumber body] at named'
  obtain rfl := Except.ok.inj (named.symm.trans named')
  exact ⟨xmlName, congrArg Xml.Name.namespaceName? name, body, derived, named, numbering,
    numbering'⟩

/-- **Each definition of a selection has a counterpart** among all definitions. -/
theorem Fills.exists_counterpart {selected : DefinitionKey → Bool}
    (full : Fills declarations anyKey declarations t)
    (fills : Fills declarations selected declarations s) {i : Nat} {own : Definition}
    (found : s.definitions[i]? = some own) :
    ∃ other, t.definitions[s.placeIn t i]? = some other ∧
    own.IsCounterpart (s.placeIn t) other := by
  have resolved := fills.wellFormed.found i own found
  obtain ⟨d, definition, selects, key, found', describes⟩ := fills.traces _ i resolved
  obtain rfl := Option.some.inj (found.symm.trans found')
  obtain ⟨j, there⟩ := full.exists_index_of_definable selects.definable
  obtain ⟨-, other, placed, describes'⟩ := full.exists_describes selects.definable there
  obtain ⟨other', placed', key'⟩ := full.wellFormed.known _ j there
  obtain rfl := Option.some.inj (placed.symm.trans placed')
  refine ⟨other, ?_, describes.isCounterpart fills.wellFormed full.wellFormed fills.derivesNames
    full.derivesNames found placed (key'.trans key) describes'⟩
  rw [placeIn_eq fills.wellFormed resolved (key ▸ there), placed]

/-! ## The dependency closure -/

/-- The keys with one of several local names. -/
def named (names : List String) : DefinitionKey → Bool :=
  fun key => names.contains key.name.localName

/-- **The definitions of a selection are those of its dependency closure.** Let all declarations be
turned into definitions. Then those with certain local names are, with all that they refer to. There
is one definition each, and no other, for the selected declarations and for the types that these
lead to, apart from shadowed elements, types with the name of a built-in one and declarations with
the name of an earlier one. Each is the definition that there is among those of all declarations, up
to the places of definitions and the number after its name. -/
theorem definitionsNamed_counterparts {definitions : List Definition}
    (h : definitionsOfAll declarations = .ok definitions) (names : List String) :
    ∃ own, definitionsNamed declarations names = .ok own ∧ (own.map Definition.key).Nodup ∧
      (∀ key, key ∈ own.map Definition.key ↔
        ∃ d, Selects declarations (named names) d ∧ d.key = key) ∧
      ∃ place : Nat → Nat, ∀ i definition, own[i]? = some definition →
        ∃ other, definitions[place i]? = some other ∧ definition.IsCounterpart place other := by
  obtain ⟨t, full, rfl⟩ := exists_fills h
  obtain ⟨s, fills, made⟩ := exists_fills_of_fills full (named names)
  exact ⟨s.definitions, made, fills.wellFormed.nodup_keys, fun _ => fills.mem_keys_iff, s.placeIn t,
    fun _ _ found => full.exists_counterpart fills found⟩

/-- A type that is not asked for, one that is, and one that this has a field of. -/
def orderDeclarations : List Declaration :=
  let line : ElementDeclaration :=
    { name := "line", namespaceName? := none, type? := some ⟨none, "Line"⟩ }
  [.complex ⟨"Customer", none, []⟩, .complex ⟨"Order", none, [line]⟩, .complex ⟨"Line", none, []⟩]

/-- A selection leaves out what is not asked for and not referred to: the definitions that it has
are at other places among those of all declarations. -/
theorem definitionsNamed_counterparts_order :
    ∃ definitions own, definitionsOfAll orderDeclarations = .ok definitions ∧
      definitions.map Definition.xmlName = ["Customer", "Line", "Order"] ∧
      definitionsNamed orderDeclarations ["Order"] = .ok own ∧
      own.map Definition.xmlName = ["Line", "Order"] ∧ (own.map Definition.key).Nodup ∧
      (∀ key, key ∈ own.map Definition.key ↔
        ∃ d, Selects orderDeclarations (named ["Order"]) d ∧ d.key = key) ∧
      ∃ place : Nat → Nat, ∀ i definition, own[i]? = some definition →
        ∃ other, definitions[place i]? = some other ∧ definition.IsCounterpart place other := by
  let field : FieldDefinition := ⟨"line", "line", .generated 0, 1, .count 1, false, none⟩
  have line : firstType? orderDeclarations ⟨none, "Line"⟩ = some _ := rfl
  have all : definitionsOfAll orderDeclarations =
      .ok [⟨"CustomerComplexType", "Customer", none, .complex []⟩,
        ⟨"LineComplexType", "Line", none, .complex []⟩,
        ⟨"OrderComplexType", "Order", none, .complex [{ field with type := .generated 1 }]⟩] := by
    change definitionsOf orderDeclarations [_, _, _] = _
    simp only [definitionsOf, generateAll, generateOn, bodyOn, fieldsOn, typeOf, Option.getD_some,
      resolveOn, line]
    rfl
  have selection : definitionsNamed orderDeclarations ["Order"] =
      .ok [⟨"LineComplexType", "Line", none, .complex []⟩,
        ⟨"OrderComplexType", "Order", none, .complex [field]⟩] := by
    change definitionsOf orderDeclarations [_] = _
    simp only [definitionsOf, generateAll, generateOn, bodyOn, fieldsOn, typeOf, Option.getD_some,
      resolveOn, line]
    rfl
  obtain ⟨own, made, distinct, keys, counterparts⟩ := definitionsNamed_counterparts all ["Order"]
  obtain rfl := Except.ok.inj (selection.symm.trans made)
  exact ⟨_, _, all, rfl, made, rfl, distinct, keys, counterparts⟩

/-- A declared type with the name of a built-in one, and a type that it has a field of. -/
def integerDeclarations : List Declaration :=
  [.complex ⟨"int", some schemaNamespace,
     [{ name := "sign", namespaceName? := none, type? := some ⟨some schemaNamespace, "Sign"⟩ }]⟩,
   .complex ⟨"Sign", some schemaNamespace, []⟩]

/-- Not every type that a selected declaration refers to is defined: a declared type with the name
of a built-in one is passed over, with all that it refers to. -/
theorem not_forall_definitionsNamed :
    ¬ ∀ (declarations : List Declaration) (definitions : List Definition) (names : List String),
      definitionsOfAll declarations = .ok definitions →
        ∃ own, definitionsNamed declarations names = .ok own ∧
        ∀ d ∈ declarations, d.localName ∈ names → d.isShadowed declarations = false →
          ∀ r ∈ d.references, ∀ other ∈ declarations, other.key = ⟨true, r⟩ →
            builtinNamed? r = none →
            other.key ∈ own.map Definition.key := by
  intro all
  have full : definitionsOfAll integerDeclarations =
      .ok [⟨"SignComplexType", "Sign", some schemaNamespace, .complex []⟩] := by
    change definitionsOf integerDeclarations [_, _] = _
    simp only [definitionsOf, generateAll, generateOn, bodyOn, fieldsOn]
    rfl
  have selection : definitionsNamed integerDeclarations ["int"] = .ok [] := by rfl
  obtain ⟨own, made, closed⟩ := all integerDeclarations _ ["int"] full
  obtain rfl := Except.ok.inj (selection.symm.trans made)
  have mem := closed _ (List.mem_cons_self ..) (List.mem_singleton_self _)
    rfl _ (List.mem_singleton_self _) _
    (List.mem_cons_of_mem _ (List.mem_singleton_self _)) rfl (by rfl)
  exact List.not_mem_nil mem

end Registry

end SchemaBinding
