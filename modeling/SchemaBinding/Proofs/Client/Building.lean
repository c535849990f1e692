import SchemaBinding.Generator.Client
import SchemaBinding.Proofs.Registry.Origin

/-!
# Building clients

A client is built by one step for each operation, which makes the wrappers of
its two messages unless they are there, which makes the parts of a wrapper,
which resolves what a part refers to. A builder stays sound on the way
(`IsBuilt`): its wrappers are those of the messages that have been used, each
once and under a name of its own, and its registry has been filled with what
their parts lead to and nothing else. `parts_yields`, `message_yields` and
`operation_yields` say what one step of each kind does, and `operations_yields`
what all operations together do.
-/

namespace SchemaBinding

/-! ## What parts lead to -/

/-- The key that the name of an element leads to: that of the element, unless there is none or a
type has the same name. -/
def elementKey (types : List Declaration) (name : Xml.Name) : DefinitionKey :=
  ⟨(Registry.firstType? types name).isSome || (Registry.firstElement? types name).isNone, name⟩

namespace PartReference

/-- The name that a part refers to. -/
def name : PartReference → Xml.Name
  | .type name => name
  | .element name => name

/-- The key that a part leads to. -/
def key (types : List Declaration) : PartReference → DefinitionKey
  | .type name => ⟨true, name⟩
  | .element name => elementKey types name

/-- How the element of a part is found: that of a type by the name of the part. -/
def lookup : PartReference → PartLookup
  | .type _ => .partName
  | .element _ => .typeName

theorem name_key (reference : PartReference) (types : List Declaration) :
    (reference.key types).name = reference.name :=
  match reference with
  | .type _ => rfl
  | .element _ => rfl

theorem lookup_eq_partName_iff (reference : PartReference) :
    reference.lookup = .partName ↔ ∃ name, reference = .type name :=
  match reference with
  | .type name => ⟨fun _ => ⟨name, rfl⟩, fun _ => rfl⟩
  | .element _ => ⟨nofun, nofun⟩

end PartReference

namespace Registry

variable {types : List Declaration} {d : Declaration} {s s' : Registry} {name : Xml.Name}

/-- Keys that are given. -/
def among (keys : List DefinitionKey) : DefinitionKey → Bool := fun key => decide (key ∈ keys)

theorem elementKey_of_firstElement? {e : Member types} (noType : firstType? types name = none)
    (h : firstElement? types name = some e) : elementKey types name = ⟨false, name⟩ := by
  rw [elementKey, noType, h]
  rfl

/-! ## Resolving what a part refers to -/

variable {keys : List DefinitionKey} {key : DefinitionKey} {ref : TypeRef}

/-- A registry that has been filled with what some keys lead to, when it grows by what one more
leads to. -/
theorem Fills.append (fills : Fills types (among keys) types s)
    (grows : Grows (Selects types (among (keys ++ [key]))) s s')
    (resolved : s'.lookup? key = some ref) :
    Fills types (among (keys ++ [key])) types s' where
  wellFormed := grows.wellFormed fills.wellFormed
  traces := by
    refine grows.traces (fills.traces.mono fun d => Selects.mono fun key mem => ?_)
    exact decide_eq_true (List.mem_append_left _ (of_decide_eq_true mem))
  derivesNames := grows.derivesNames fills.derivesNames
  resolved := by
    intro d mem selected notShadowed
    rcases List.mem_append.1 (of_decide_eq_true selected) with earlier | last
    · obtain ⟨ref, resolved⟩ := fills.resolved d mem (decide_eq_true earlier) notShadowed
      exact ⟨ref, grows.extends.lookup? resolved⟩
    · exact ⟨ref, List.mem_singleton.1 last ▸ resolved⟩

/-- Whether a step resolves a key, and fills a registry with what the key leads to besides. -/
def Resolves (types : List Declaration) (keys : List DefinitionKey) (key : DefinitionKey)
    (s : Registry) (step : Step TypeRef) : Prop :=
  Ensures step s
    (fun ref s' => Fills types (among (keys ++ [key])) types s' ∧ Extends s s' ∧
      s'.lookup? key = some ref)
    (fun _ => True)

theorem among_append_self : among (keys ++ [key]) key = true :=
  decide_eq_true (List.mem_append_right _ (List.mem_singleton_self _))

theorem resolves_resolveOn (fills : Fills types (among keys) types s) (name : Xml.Name) :
    Resolves types keys ⟨true, name⟩ s (resolveOn types [] name) := by
  refine (resolveOn_ensures types [] name fills.wellFormed).mono (fun ref s' h => ?_) fun _ _ =>
    trivial
  obtain ⟨grows, resolved⟩ := h
  have selects :
    ∀ d, Wanted types [] [name] d → Selects types (among (keys ++ [⟨true, name⟩])) d := by
    rintro d ⟨-, other, mem, needs⟩
    obtain rfl := List.mem_singleton.1 mem
    exact needs.selects_of_key among_append_self
  exact ⟨fills.append (grows.mono selects) resolved, grows.extends, resolved⟩

/-- An element that is turned into a definition. -/
theorem resolves_generateOn (fills : Fills types (among keys) types s) {d : Declaration}
    (definable : IsDefinable types d) : Resolves types keys d.key s (generateOn types [] d) := by
  refine (generateOn_ensures types [] d fills.wellFormed).mono (fun ref s' h => ?_) fun _ _ =>
    trivial
  obtain ⟨grows, resolved⟩ := h
  have selects : Selects types (among (keys ++ [d.key])) d := .root definable among_append_self
  exact ⟨fills.append (grows.mono fun other wanted => wanted.selects selects) resolved,
    grows.extends, resolved⟩

/-- A key of an element that has been resolved is that of an element that has the name of no
type. -/
theorem Fills.elementKey_eq {selected : DefinitionKey → Bool} {before : List Declaration}
    (fills : Fills types selected before s)
    (resolved : s.lookup? ⟨false, name⟩ = some ref) : elementKey types name = ⟨false, name⟩ := by
  cases ref with
  | builtin b => exact absurd (fills.wellFormed.builtins _ b resolved).1 Bool.false_ne_true
  | generated i =>
    obtain ⟨d, -, selects, key, -⟩ := fills.traces _ i resolved
    have isElement : d.isType = false := congrArg DefinitionKey.isType key
    have named : d.name = name := congrArg DefinitionKey.name key
    have notShadowed := selects.definable.notShadowed
    cases noType : firstType? types name with
    | some first =>
      have shadowed := (isShadowed_iff isElement).2 ⟨first, named ▸ noType⟩
      exact absurd (notShadowed.symm.trans shadowed) Bool.false_ne_true
    | none =>
      cases found : firstElement? types name with
      | some e => exact elementKey_of_firstElement? noType found
      | none =>
        unfold firstElement? first? at found
        split at found
        · cases found
        · next none =>
          have differs := List.find?_eq_none.1 none d selects.definable.mem
          rw [isElement, named, beq_self_eq_true] at differs
          exact absurd rfl differs

theorem resolves_resolveElementOn (fills : Fills types (among keys) types s) (name : Xml.Name) :
    Resolves types keys (elementKey types name) s (resolveElementOn types [] name) := by
  unfold Resolves resolveElementOn
  refine ensures_get_bind ?_
  split
  · next ref resolved =>
    rw [fills.elementKey_eq resolved]
    exact ensures_pure ⟨fills.append .refl resolved, .refl _, resolved⟩
  · split
    · next e noType found =>
      rw [elementKey_of_firstElement? noType found, ← key_of_firstElement? found]
      exact resolves_generateOn fills (isDefinable_of_firstElement? noType found)
    · next first? element? others =>
      have key : elementKey types name = ⟨true, name⟩ := by
        unfold elementKey
        cases type : firstType? types name with
        | some first => rfl
        | none =>
          cases element : firstElement? types name with
          | none => rfl
          | some e => exact absurd element (others e type)
      rw [key]
      exact resolves_resolveOn fills name

end Registry

namespace ClientBuilder

/-! ## Steps that succeed -/

section

variable {α β : Type} {b : ClientBuilder} {done : α → ClientBuilder → Prop}

/-- What holds of the result of a step and of the builder after it, if the step succeeds. -/
def Yields (step : Build α) (b : ClientBuilder) (done : α → ClientBuilder → Prop) : Prop :=
  ∀ a b', step.run b = .ok (a, b') → done a b'

theorem yields_pure {a : α} (h : done a b) : Yields (pure a) b done := by
  rintro a' b' same
  cases same
  exact h

theorem yields_throw (cause : GenerateError) : Yields (throw cause) b done := nofun

theorem yields_get_bind {next : ClientBuilder → Build α} (h : Yields (next b) b done) :
    Yields (get >>= next) b done :=
  h

theorem yields_set_bind {b' : ClientBuilder} {next : PUnit → Build α}
    (h : Yields (next ⟨⟩) b' done) :
    Yields (set b' >>= next) b done := h

/-- **One step after another.** -/
theorem yields_bind {step : Build β} {next : β → Build α} {first : β → ClientBuilder → Prop}
    (h : Yields step b first) (rest : ∀ x b', first x b' → Yields (next x) b' done) :
    Yields (step >>= next) b done := by
  intro a b'' same
  rw [StateT.run_bind] at same
  obtain ⟨⟨x, b'⟩, outcome, same⟩ := exists_of_bind_eq_ok same
  exact rest x b' (h _ _ outcome) a b'' same

theorem yields_lift_bind {result : Except GenerateError β} {next : β → Build α}
    (ok : ∀ x, result = .ok x → Yields (next x) b done) :
    Yields (liftM result >>= next) b done := by
  cases result with
  | error cause => exact nofun
  | ok x => exact ok x rfl

/-- A step of the registry leaves all else as it is. -/
theorem yields_withRegistry {step : Registry.Step α}
    (h : Registry.Ensures step b.registry (fun a s => done a { b with registry := s })
      (fun _ => True)) :
    Yields (withRegistry step) b done := by
  unfold withRegistry
  refine yields_get_bind ?_
  split
  · next a registry outcome =>
    rw [Registry.Ensures, outcome] at h
    exact yields_set_bind (yields_pure h)
  · exact yields_throw _

end

/-! ## Wrappers of messages -/

/-- Whether a part of a wrapper is that of a part of a message: it has been resolved to what the
part leads to. -/
structure IsPart (types : List Declaration) (s : Registry) (declared : PartDeclaration)
    (part : PartDefinition) : Prop where
  xmlName : part.xmlName = declared.name
  lookup : part.lookup = declared.reference.lookup
  resolved : s.lookup? (declared.reference.key types) = some part.type

/-- Whether a wrapper is that of a message: it has its parts one by one, under names of their
own. -/
structure IsWrapper (types : List Declaration) (s : Registry) (declared : MessageDeclaration)
    (wrapper : MessageDefinition) : Prop where
  xmlName : wrapper.xmlName = declared.messageName
  parts : List.Forall₂ (IsPart types s) declared.parts wrapper.parts
  distinct : (wrapper.parts.map PartDefinition.name).Nodup

section

variable {types : List Declaration} {s s' : Registry}

theorem IsPart.mono (more : Registry.Extends s s') {declared : PartDeclaration}
    {part : PartDefinition} (h : IsPart types s declared part) : IsPart types s' declared part :=
  { h with resolved := more.lookup? h.resolved }

theorem IsWrapper.mono (more : Registry.Extends s s') {declared : MessageDeclaration}
    {wrapper : MessageDefinition} (h : IsWrapper types s declared wrapper) :
    IsWrapper types s' declared wrapper :=
  { h with parts := h.parts.imp fun _ _ => IsPart.mono more }

end

/-- The keys that the parts of a message lead to. -/
def keysOf (types : List Declaration) (message : MessageDeclaration) : List DefinitionKey :=
  message.parts.map (·.reference.key types)

/-- The keys that the parts of the first messages with some names lead to. -/
def usedKeys (description : Description) (names : List Xml.Name) : List DefinitionKey :=
  names.flatMap fun name => ((description.message? name).map (keysOf description.types)).getD []

/-- **The invariant of builders.** -/
structure IsBuilt (description : Description) (b : ClientBuilder) : Prop where
  /-- Every message has one wrapper. -/
  once : b.messageNames.Nodup
  /-- The wrappers are those of the first messages with their names. -/
  wraps : List.Forall₂ (fun name wrapper => ∃ message, description.message? name = some message ∧
    IsWrapper description.types b.registry message wrapper) b.messageNames b.messages
  /-- No two wrappers have the same name. -/
  distinct : (b.messages.map MessageDefinition.name).Nodup
  /-- The names of wrappers are those that have been given out. -/
  taken : ∀ name, name ∈ b.wrapperNames ↔ name ∈ b.messages.map MessageDefinition.name
  /-- The registry holds what the parts of the messages lead to, and nothing else. -/
  fills : Registry.Fills description.types (Registry.among (usedKeys description b.messageNames))
    description.types b.registry

theorem isBuilt_empty (description : Description) : IsBuilt description {} where
  once := List.nodup_nil
  wraps := .nil
  distinct := List.nodup_nil
  taken := fun _ => Iff.rfl
  fills :=
    { wellFormed := .empty
      traces := .empty
      derivesNames := nofun
      resolved := fun _ _ selected => absurd (of_decide_eq_true selected) List.not_mem_nil }

/-! ## Steps -/

variable {description : Description} {b : ClientBuilder}

/-- A key that is resolved for a client. -/
theorem withRegistry_yields {types : List Declaration} {keys : List DefinitionKey}
    {key : DefinitionKey} {step : Registry.Step TypeRef}
    (resolves : Registry.Resolves types keys key b.registry step) :
    Yields (withRegistry step) b fun ref b' => ∃ s, b' = { b with registry := s } ∧
      Registry.Fills types (Registry.among (keys ++ [key])) types s ∧
        Registry.Extends b.registry s ∧
      s.lookup? key = some ref :=
  yields_withRegistry (resolves.mono (fun _ s h => ⟨s, rfl, h⟩) fun _ _ => trivial)

/-- **The type of a part** is what the part leads to. -/
theorem partType_yields {types : List Declaration} {keys : List DefinitionKey}
    (fills : Registry.Fills types (Registry.among keys) types b.registry)
    (reference : PartReference) :
    Yields (partType types reference) b fun made b' => ∃ s, b' = { b with registry := s } ∧
      Registry.Fills types (Registry.among (keys ++ [reference.key types])) types s ∧
      Registry.Extends b.registry s ∧ s.lookup? (reference.key types) = some made.1 ∧
      made.2 = reference.lookup := by
  cases reference with
  | type name =>
    refine yields_bind (withRegistry_yields (Registry.resolves_resolveOn fills name)) ?_
    rintro ref b' ⟨s, same, fills, more, resolved⟩
    exact yields_pure ⟨s, same, fills, more, resolved, rfl⟩
  | element name =>
    refine yields_bind (withRegistry_yields (Registry.resolves_resolveElementOn fills name)) ?_
    rintro ref b' ⟨s, same, fills, more, resolved⟩
    exact yields_pure ⟨s, same, fills, more, resolved, rfl⟩

/-- **The parts of a wrapper** are those of the message, in order. -/
theorem parts_yields {types : List Declaration} (declared : List PartDeclaration)
    {taken : List String} {keys : List DefinitionKey}
    (fills : Registry.Fills types (Registry.among keys) types b.registry) :
    Yields (parts types taken declared) b fun made b' => ∃ s, b' = { b with registry := s } ∧
      Registry.Fills types (Registry.among (keys ++ declared.map (·.reference.key types))) types s ∧
      Registry.Extends b.registry s ∧ List.Forall₂ (IsPart types s) declared made ∧
      Naming.AreNew taken (made.map PartDefinition.name) := by
  induction declared generalizing b taken keys with
  | nil =>
    rw [parts]
    exact yields_pure ⟨b.registry, rfl, by
      rwa [List.map_nil, List.append_nil], .refl _, .nil, .nil _⟩
  | cons part rest ih =>
    rw [parts]
    refine yields_bind (partType_yields fills part.reference) ?_
    rintro ⟨type, lookup⟩ b' ⟨s, rfl, fills, more, resolved, found⟩
    refine yields_lift_bind fun derived named => ?_
    refine yields_bind (ih fills) ?_
    rintro made b'' ⟨s', rfl, fills', more', others, areNew⟩
    refine yields_pure ⟨s', rfl, ?_, more.trans more', ?_, areNew.cons⟩
    · rwa [List.map_cons, List.append_cons]
    · exact .cons ⟨rfl, found, more'.lookup? resolved⟩ others

/-- A wrapper that is added at the end, for a message that has not been used. -/
theorem IsBuilt.add (built : IsBuilt description b) {name : Xml.Name}
    {declared : MessageDeclaration}
    (new : name ∉ b.messageNames) (first : description.message? name = some declared) {s : Registry}
    (more : Registry.Extends b.registry s)
    (fills : Registry.Fills description.types
      (Registry.among (usedKeys description b.messageNames ++
      keysOf description.types declared)) description.types s)
    {wrapper : MessageDefinition} (wraps : IsWrapper description.types s declared wrapper)
    (notTaken : wrapper.name ∉ b.wrapperNames) :
    IsBuilt description { b with
      registry := s
      messages := b.messages ++ [wrapper]
      messageNames := b.messageNames ++ [name]
      wrapperNames := wrapper.name :: b.wrapperNames } where
  once := by
    have once := built.once.concat new
    rwa [List.concat_eq_append] at once
  wraps := by
    refine List.rel_append ?_ (.cons ⟨declared, first, wraps⟩ .nil)
    exact built.wraps.imp fun _ _ ⟨message, found, earlier⟩ => ⟨message, found, earlier.mono more⟩
  distinct := by
    rw [List.map_append, List.map_singleton, ← List.concat_eq_append]
    exact built.distinct.concat fun again => notTaken ((built.taken _).2 again)
  taken := by
    intro other
    rw [List.mem_cons, built.taken, List.map_append, List.mem_append, List.map_singleton,
      List.mem_singleton]
    exact or_comm
  fills := by
    have keys : usedKeys description (b.messageNames ++ [name]) =
        usedKeys description b.messageNames ++ keysOf description.types declared := by
      rw [usedKeys, List.flatMap_append, List.flatMap_singleton, first]
      rfl
    rw [keys]
    exact fills

/-- What using a message does: its name has the place that is given, and no other is used. -/
structure UsesMessage (description : Description) (name : Xml.Name) (b : ClientBuilder)
    (place : Nat) (b' : ClientBuilder) : Prop where
  built : IsBuilt description b'
  methods : b'.methods = b.methods
  earlier : b.messageNames <+: b'.messageNames
  found : b'.messageNames[place]? = some name
  others : ∀ other ∈ b'.messageNames, other ∈ b.messageNames ∨ other = name

/-- **The message of an operation** has a wrapper, which is made when it is first used. -/
theorem message_yields (built : IsBuilt description b) (name : Xml.Name) :
    Yields (message description name) b (UsesMessage description name b) := by
  unfold message
  refine yields_get_bind ?_
  split
  · next place found =>
    refine yields_pure ⟨built, rfl, List.prefix_refl _, ?_, fun _ => .inl⟩
    obtain ⟨inRange, same, -⟩ := List.findIdx?_eq_some_iff_getElem.1 found
    rw [List.getElem?_eq_getElem inRange, of_decide_eq_true same]
  · next notFound =>
    have new : name ∉ b.messageNames := fun mem => by
      have differs := List.findIdx?_eq_none_iff.1 notFound name mem
      exact of_decide_eq_false differs rfl
    split
    · next declared first =>
      refine yields_bind (parts_yields declared.parts built.fills) ?_
      rintro parts b' ⟨s, rfl, fills, more, areParts, areNew⟩
      refine yields_lift_bind fun derived named => ?_
      refine yields_get_bind (yields_set_bind (yields_pure ?_))
      exact
        { built :=
            built.add new first more fills ⟨rfl, areParts, areNew.nodup⟩ (Naming.fresh_notMem _ _)
          methods := rfl
          earlier := List.prefix_append _ _
          found := by rw [← built.wraps.length_eq, List.getElem?_concat_length]
          others := fun other mem => (List.mem_append.1 mem).imp_right List.mem_singleton.1 }
    · exact yields_throw _

/-- Whether a method is that of an operation. Its messages are found by their places. -/
structure IsOperation (messageNames : List Xml.Name) (declared : OperationDeclaration)
    (made : OperationDefinition) : Prop where
  action : made.action = declared.name
  documentation : made.documentation = declared.documentation
  input : messageNames[made.input]? = some declared.input
  output : messageNames[made.output]? = some declared.output

theorem getElem?_of_prefix {α : Type} {before after : List α} (earlier : before <+: after)
    {i : Nat} {a : α} (found : before[i]? = some a) : after[i]? = some a := by
  obtain ⟨rest, rfl⟩ := earlier
  exact getElem?_append_of_eq_some found

theorem IsOperation.mono {messageNames more : List Xml.Name} (earlier : messageNames <+: more)
    {declared : OperationDeclaration} {made : OperationDefinition}
    (h : IsOperation messageNames declared made) :
    IsOperation more declared made :=
  { h with
    input := getElem?_of_prefix earlier h.input
    output := getElem?_of_prefix earlier h.output }

/-- What operations do to a builder: the methods are those of the operations, in order and under new
names, and only their messages are used. -/
structure UsesOperations (description : Description) (declared : List OperationDeclaration)
    (b : ClientBuilder) (made : List OperationDefinition) (b' : ClientBuilder) : Prop where
  built : IsBuilt description b'
  earlier : b.messageNames <+: b'.messageNames
  operations : List.Forall₂ (IsOperation b'.messageNames) declared made
  areNew : Naming.AreNew b.methods (made.map OperationDefinition.method)
  others : ∀ name ∈ b'.messageNames, name ∈ b.messageNames ∨ ∃ d ∈ declared, name = d.input ∨
    name = d.output

/-- **One operation.** -/
theorem operation_yields (built : IsBuilt description b) (declared : OperationDeclaration) :
    Yields (operation description declared) b fun made b' =>
      UsesOperations description [declared] b [made] b' ∧
      b'.methods = made.method :: b.methods ∧
        ∃ derived, made.method = Naming.fresh b.methods derived := by
  unfold operation
  refine yields_lift_bind fun derived named => ?_
  refine yields_get_bind (yields_set_bind ?_)
  have built' :
      IsBuilt description { b with methods := Naming.fresh b.methods derived :: b.methods } :=
    { built with }
  refine yields_bind (message_yields built' declared.input) fun input b' first => ?_
  refine yields_bind (message_yields first.built declared.output) fun output b'' second =>
    yields_pure ?_
  refine ⟨?_, second.methods.trans first.methods, derived, rfl⟩
  exact
    { built := second.built
      earlier := first.earlier.trans second.earlier
      operations :=
        .cons ⟨rfl, rfl, getElem?_of_prefix second.earlier first.found, second.found⟩ .nil
      areNew := (Naming.AreNew.nil _).cons
      others := by
        intro name mem
        rcases second.others name mem with earlier | rfl
        · rcases first.others name earlier with before | rfl
          · exact .inl before
          · exact .inr ⟨declared, List.mem_singleton_self _, .inl rfl⟩
        · exact .inr ⟨declared, List.mem_singleton_self _, .inr rfl⟩ }

/-- **All operations.** -/
theorem operations_yields (built : IsBuilt description b) (declared : List OperationDeclaration) :
    Yields (declared.mapM (operation description)) b (UsesOperations description declared b) := by
  induction declared generalizing b with
  | nil => exact yields_pure ⟨built, List.prefix_refl _, .nil, .nil _, fun _ => .inl⟩
  | cons first rest ih =>
    rw [List.mapM_cons]
    refine yields_bind (operation_yields built first) ?_
    rintro made b' ⟨here, methods, derived, fresh⟩
    refine yields_bind (ih here.built) fun others b'' there => yields_pure ?_
    have method := List.forall₂_cons.1 here.operations
    exact
      { built := there.built
        earlier := here.earlier.trans there.earlier
        operations := .cons (method.1.mono there.earlier) there.operations
        areNew := by
          have later := there.areNew
          rw [methods, fresh] at later
          rw [List.map_cons, fresh]
          exact later.cons
        others := by
          intro name mem
          rcases there.others name mem with earlier | ⟨d, inRest, used⟩
          · rcases here.others name earlier with before | ⟨d, isFirst, used⟩
            · exact .inl before
            · exact .inr ⟨d, List.mem_singleton.1 isFirst ▸ List.mem_cons_self .., used⟩
          · exact .inr ⟨d, List.mem_cons_of_mem _ inRest, used⟩ }

/-- What the builder of a client has come to when all operations have been built. -/
structure IsBuilderOf (description : Description) (definitions : List Definition)
    (client : ClientDefinition) (b : ClientBuilder) : Prop where
  built : IsBuilt description b
  definitions : definitions = b.registry.definitions
  messages : client.messages = b.messages
  operations : List.Forall₂ (IsOperation b.messageNames) description.operations client.operations
  methods : (client.operations.map OperationDefinition.method).Nodup
  used : ∀ name ∈ b.messageNames, ∃ d ∈ description.operations, name = d.input ∨ name = d.output

/-- **Every client has been built.** -/
theorem exists_isBuilderOf {definitions : List Definition} {client : ClientDefinition}
    (h : clientOf description = .ok (definitions, client)) :
    ∃ b, IsBuilderOf description definitions client b := by
  obtain ⟨⟨operations, b⟩, outcome, h⟩ := exists_of_bind_eq_ok h
  obtain ⟨name, -, h⟩ := exists_of_bind_eq_ok h
  cases h
  have uses := operations_yields (isBuilt_empty description)
    description.operations operations b outcome
  refine ⟨b, uses.built, rfl, rfl, uses.operations, uses.areNew.nodup, fun name mem => ?_⟩
  exact (uses.others name mem).resolve_left List.not_mem_nil

end ClientBuilder

end SchemaBinding
