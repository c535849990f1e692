import SchemaBinding.Generator.Selection
import SchemaBinding.Proofs.Registry.Growth

/-!
# Where definitions come from

What a registry has resolved and defined stays so (`Grows.extends`), and with it
what its definitions say about declarations (`Describes.mono`). So each
definition goes on to describe the declaration that it was made from
(`Grows.traces`), and its name is derived from the name of that declaration
(`Grows.derivesNames`). When selected declarations are turned into definitions
in order, nothing but these and what they refer to is (`Selects`), always the
first declaration with its key, and nothing but a shadowed element is left
without a definition (`generateAll_fills`). All declarations in order are one
case of this (`generateAll_ensures`).
-/

namespace SchemaBinding

/-- Whether a simple type is declared. -/
def Declaration.isSimple : Declaration → Bool
  | .simple _ => true
  | _ => false

namespace Registry

variable {declarations : List Declaration} {d : Declaration} {s s' : Registry}

/-! ## What is said stays said -/

theorem IsBase.mono (more : Extends s s') {ref base : TypeRef} (h : IsBase s ref base) :
    IsBase s' ref base := by
  cases h with
  | anyType => exact .anyType
  | builtin type => exact .builtin type
  | generated found simple => exact .generated (more.getElem? found) simple

theorem FieldsOf.mono (more : Extends s s') {taken : List String}
    {elements : List ElementDeclaration} {fields : List FieldDefinition}
    (h : FieldsOf s taken elements fields) : FieldsOf s' taken elements fields := by
  induction h with
  | nil => exact .nil
  | cons resolved named _ ih => exact .cons (more.lookup? resolved) named ih

/-- **What is said about a declaration stays said.** -/
theorem Describes.mono (more : Extends s s') {body : DefinitionBody} (h : Describes s d body) :
    Describes s' d body := by
  cases h with
  | simple resolved isBase => exact .simple (more.lookup? resolved) (isBase.mono more)
  | complex fieldsOf => exact .complex (fieldsOf.mono more)
  | element resolved => exact .element (more.lookup? resolved)

theorem Describes.isSimple_eq {definition : Definition} (h : Describes s d definition.body) :
    definition.isSimple = d.isSimple := by
  unfold Definition.isSimple
  generalize definition.body = body at h
  cases h <;> rfl

/-- What a sound definition says of a declaration refers to types before it. -/
theorem FieldsOf.exists_reference {definitions : List Definition} {place : Nat}
    {taken : List String} {elements : List ElementDeclaration} {fields : List FieldDefinition}
    (h : FieldsOf s taken elements fields)
    (sound : ∀ field ∈ fields, field.type.IsTypeBefore definitions place) {r : Xml.Name}
    (mem : r ∈ elements.map typeOf) :
    ∃ ref, s.lookup? ⟨true, r⟩ = some ref ∧ ref.IsTypeBefore definitions place := by
  induction h with
  | nil => cases mem
  | cons resolved _ _ ih =>
    obtain ⟨here, there⟩ := List.forall_mem_cons.1 sound
    rw [List.map_cons, List.mem_cons] at mem
    rcases mem with rfl | later
    · exact ⟨_, resolved, here⟩
    · exact ih there later

/-- **All that a declaration refers to is resolved**, to types before a sound definition of the
declaration. -/
theorem Describes.exists_reference {definitions : List Definition} {place : Nat}
    {body : DefinitionBody} (h : Describes s d body) (sound : body.IsSound definitions place)
    {r : Xml.Name} (mem : r ∈ d.references) :
    ∃ ref, s.lookup? ⟨true, r⟩ = some ref ∧ ∀ i, ref = .generated i → i < place := by
  cases h with
  | simple resolved isBase =>
    obtain rfl := List.mem_singleton.1 mem
    refine ⟨_, resolved, ?_⟩
    rintro i rfl
    cases isBase with
    | generated _ _ => exact sound.1
  | complex fieldsOf =>
    obtain ⟨ref, resolved, before⟩ := fieldsOf.exists_reference sound.1 mem
    exact ⟨ref, resolved, fun i same => by subst same; exact before.1⟩
  | element resolved =>
    obtain rfl := List.mem_singleton.1 mem
    refine ⟨_, resolved, ?_⟩
    rintro i rfl
    exact sound.1

/-! ## Traces -/

/-- Whether each definition comes from a declaration that satisfies a condition: it is found by the
key of the declaration, and says what the declaration does. -/
def Traces (p : Declaration → Prop) (s : Registry) : Prop :=
  ∀ key i, s.lookup? key = some (.generated i) → ∃ d definition, p d ∧ d.key = key ∧
    s.definitions[i]? = some definition ∧ Describes s d definition.body

variable {p : Declaration → Prop}

theorem Traces.empty : Traces p {} := by
  intro key i h
  unfold lookup? at h
  split at h <;> cases h

theorem Adds.traces (hd : p d) (traces : s.Traces p) (h : Adds d s s') : s'.Traces p := by
  intro key i resolved
  have more := h.extends
  by_cases same : key = d.key
  · subst same
    obtain rfl := TypeRef.generated.inj (Option.some.inj (resolved.symm.trans h.lookup?_self))
    obtain ⟨-, describes, -⟩ := h
    exact ⟨d, _, hd, rfl, by rw [add, List.getElem?_concat_length], describes.mono more⟩
  · rw [h.lookup?_of_ne same] at resolved
    obtain ⟨other, definition, hother, key, found, describes⟩ := traces key i resolved
    exact ⟨other, definition, hother, key, more.getElem? found, describes.mono more⟩

/-- **Definitions keep describing** the declarations that they come from. -/
theorem Grows.traces (traces : s.Traces p) (h : Grows p s s') : s'.Traces p := by
  induction h with
  | refl => exact traces
  | tail _ adds ih =>
    obtain ⟨d, hd, adds⟩ := adds
    exact adds.traces hd ih

theorem Traces.mono {q : Declaration → Prop} (traces : s.Traces p) (sub : ∀ d, p d → q d) :
    s.Traces q := by
  intro key i resolved
  obtain ⟨d, definition, hd, rest⟩ := traces key i resolved
  exact ⟨d, definition, sub d hd, rest⟩

end Registry

/-! ## Derived names -/

/-- The kind of name that a definition has. -/
def Definition.namingKind (d : Definition) : Naming.Kind :=
  match d.body with
  | .simple _ _ => .simple
  | .complex _ => .complex
  | .element _ => .element

namespace Registry

variable {declarations : List Declaration} {d : Declaration} {s s' : Registry}
  {p : Declaration → Prop}

/-- Whether the name of each definition is derived from its name in the schema, up to a number after
it. -/
def DerivesNames (s : Registry) : Prop :=
  ∀ definition ∈ s.definitions, ∃ derived,
    Naming.typeName definition.xmlName definition.namingKind = .ok derived ∧
    Naming.IsNumbering derived definition.name

theorem Describes.namingKind_definitionOf {body : DefinitionBody} (h : Describes s d body)
    (name : String) :
    (definitionOf d name body).namingKind = d.namingKind := by
  cases h <;> rfl

theorem Adds.derivesNames (derives : s.DerivesNames) (h : Adds d s s') : s'.DerivesNames := by
  obtain ⟨-, describes, named⟩ := h
  intro definition mem
  rcases List.mem_append.1 mem with earlier | last
  · exact derives definition earlier
  · rw [List.mem_singleton.1 last]
    exact ⟨_, describes.namingKind_definitionOf _ ▸ named, Naming.isNumbering_fresh _ _⟩

/-- **The names of definitions are derived names.** -/
theorem Grows.derivesNames (derives : s.DerivesNames) (h : Grows p s s') : s'.DerivesNames := by
  induction h with
  | refl => exact derives
  | tail _ adds ih =>
    obtain ⟨d, -, adds⟩ := adds
    exact adds.derivesNames ih

/-! ## First types -/

/-- Whether a declaration, if it is a type, is the first one with its name. -/
def IsFirst (declarations : List Declaration) (d : Declaration) : Prop :=
  d.isType = true → ∃ first, firstType? declarations d.name = some first ∧ first.val = d

theorem isFirst_of_firstType? {name : Xml.Name} {first : Member declarations}
    (h : firstType? declarations name = some first) : IsFirst declarations first.val := by
  intro _
  have named : first.val.name = name := congrArg DefinitionKey.name (key_of_firstType? h)
  exact ⟨first, named ▸ h, rfl⟩

theorem exists_firstType? {name : Xml.Name}
    (h : declarations.find? (fun other => other.isType && other.name == name) = some d) :
    ∃ first, firstType? declarations name = some first ∧ first.val = d := by
  unfold firstType? first?
  split
  · next found => exact ⟨_, rfl, Option.some.inj (found.symm.trans h)⟩
  · next none => cases none.symm.trans h

theorem isShadowed_of_isType (isType : d.isType = true) : d.isShadowed declarations = false := by
  rw [Declaration.isShadowed, isType]
  rfl

/-- An element is shadowed by the first type with its name. -/
theorem isShadowed_iff (isElement : d.isType = false) :
    d.isShadowed declarations = true ↔ ∃ first, firstType? declarations d.name = some first := by
  rw [Declaration.isShadowed, isElement, Bool.not_false, Bool.true_and, List.any_eq_true]
  constructor
  · rintro ⟨other, mem, same⟩
    cases found : declarations.find? fun other => other.isType && other.name == d.name with
    | none => exact absurd same (List.find?_eq_none.1 found other mem)
    | some first =>
      obtain ⟨first, found, -⟩ := exists_firstType? found
      exact ⟨first, found⟩
  · rintro ⟨first, found⟩
    have key := key_of_firstType? found
    refine ⟨first.val, first.property, ?_⟩
    rw [show first.val.isType = true from congrArg DefinitionKey.isType key,
      show first.val.name = d.name from congrArg DefinitionKey.name key]
    exact beq_self_eq_true _

/-- The first element with a name has the key of the name. -/
theorem key_of_firstElement? {name : Xml.Name} {e : Member declarations}
    (h : firstElement? declarations name = some e) : e.val.key = ⟨false, name⟩ := by
  unfold firstElement? first? at h
  split at h
  · next found =>
    obtain rfl := Option.some.inj h
    have matched := List.find?_some found
    rw [Bool.and_eq_true, Bool.not_eq_true'] at matched
    rw [Declaration.key, matched.1, eq_of_beq matched.2]
  · cases h

/-! ## Selected declarations and what they refer to -/

/-- Whether a declaration gets a definition when its turn comes, or when something refers to it: it
is the first one with its key, no shadowed element, and no type with the name of a built-in one. -/
structure IsDefinable (declarations : List Declaration) (d : Declaration) : Prop where
  first : declarations.find? (·.key = d.key) = some d
  notShadowed : d.isShadowed declarations = false
  notBuiltin : d.isType = true → builtinNamed? d.name = none

/-- The declarations that are turned into definitions when those with certain keys are selected:
these, and what they refer to. -/
inductive Selects (declarations : List Declaration) (selected : DefinitionKey → Bool) :
    Declaration → Prop
  | root {d : Declaration} (definable : IsDefinable declarations d) (root : selected d.key = true) :
      Selects declarations selected d
  | reference {d other : Declaration} {r : Xml.Name} (referring : Selects declarations selected d)
      (mem : r ∈ d.references) (definable : IsDefinable declarations other)
      (key : other.key = ⟨true, r⟩) :
      Selects declarations selected other

variable {selected : DefinitionKey → Bool} {other : Declaration}

theorem IsDefinable.mem (h : IsDefinable declarations d) : d ∈ declarations :=
  List.mem_of_find?_eq_some h.first

/-- Only one declaration with a key gets a definition. -/
theorem IsDefinable.eq_of_key (h : IsDefinable declarations d) (h' : IsDefinable declarations other)
    (same : d.key = other.key) : d = other := by
  have first := h.first
  rw [same, h'.first] at first
  exact (Option.some.inj first).symm

theorem Selects.definable (h : Selects declarations selected d) : IsDefinable declarations d := by
  cases h with
  | root definable _ => exact definable
  | reference _ _ definable _ => exact definable

theorem Selects.mono {selected' : DefinitionKey → Bool}
    (sub : ∀ key, selected key = true → selected' key = true)
    (h : Selects declarations selected d) :
    Selects declarations selected' d := by
  induction h with
  | root definable root => exact .root definable (sub _ root)
  | reference _ mem definable key ih => exact .reference ih mem definable key

/-- The declaration of a type is the first one with its name if it is the first one with its key. -/
theorem find?_key_of_isType (isType : d.isType = true) :
    declarations.find? (·.key = d.key) = declarations.find? fun other =>
      other.isType && other.name == d.name := by
  congr 1
  funext other
  rw [Bool.eq_iff_iff, decide_eq_true_iff, Bool.and_eq_true, beq_iff_eq, Declaration.key,
    Declaration.key, DefinitionKey.mk.injEq, isType]

theorem IsDefinable.isFirst (h : IsDefinable declarations d) : IsFirst declarations d := by
  intro isType
  exact exists_firstType? (find?_key_of_isType isType ▸ h.first)

/-- The first type with a name that is not that of a built-in one gets a definition. -/
theorem isDefinable_of_firstType? {name : Xml.Name} {first : Member declarations}
    (notBuiltin : builtinNamed? name = none) (h : firstType? declarations name = some first) :
    IsDefinable declarations first.val := by
  have key := key_of_firstType? h
  have isType : first.val.isType = true := congrArg DefinitionKey.isType key
  have named : first.val.name = name := congrArg DefinitionKey.name key
  refine ⟨?_, isShadowed_of_isType isType, fun _ => named ▸ notBuiltin⟩
  obtain ⟨first', found, same⟩ := isFirst_of_firstType? h isType
  rw [named, h] at found
  rw [find?_key_of_isType isType, named]
  unfold firstType? first? at h
  split at h
  · next found => rw [found, ← Option.some.inj h]
  · cases h

/-- The declaration of an element is the first one with its name if it is the first one with its
key. -/
theorem find?_key_of_isElement (isElement : d.isType = false) :
    declarations.find? (·.key = d.key) = declarations.find? fun other =>
      !other.isType && other.name == d.name := by
  congr 1
  funext other
  rw [Bool.eq_iff_iff, decide_eq_true_iff, Bool.and_eq_true, Bool.not_eq_true', beq_iff_eq,
    Declaration.key, Declaration.key, DefinitionKey.mk.injEq, isElement]

/-- The first element with a name gets a definition, unless a type has the same name. -/
theorem isDefinable_of_firstElement? {name : Xml.Name} {e : Member declarations}
    (noType : firstType? declarations name = none) (h : firstElement? declarations name = some e) :
    IsDefinable declarations e.val := by
  have key := key_of_firstElement? h
  have isElement : e.val.isType = false := congrArg DefinitionKey.isType key
  have named : e.val.name = name := congrArg DefinitionKey.name key
  refine ⟨?_, ?_, fun isType => absurd (isElement.symm.trans isType) Bool.false_ne_true⟩
  · rw [find?_key_of_isElement isElement, named]
    unfold firstElement? first? at h
    split at h
    · next found => rw [found, ← Option.some.inj h]
    · cases h
  · rw [Bool.eq_false_iff, Ne, isShadowed_iff isElement, named, noType]
    rintro ⟨first, found⟩
    cases found

/-- What is needed for a reference of a selected declaration is selected. -/
theorem Needs.selects {name : Xml.Name} (h : Needs declarations name other)
    (referring : Selects declarations selected d) (mem : name ∈ d.references) :
    Selects declarations selected other := by
  induction h generalizing d with
  | here notBuiltin first =>
    exact .reference referring mem (isDefinable_of_firstType? notBuiltin first)
      (key_of_firstType? first)
  | there notBuiltin first refers _ ih =>
    exact ih (.reference referring mem (isDefinable_of_firstType? notBuiltin first)
      (key_of_firstType? first)) refers

/-- What is needed for a name is selected with the name. -/
theorem Needs.selects_of_key {name : Xml.Name} (h : Needs declarations name other)
    (root : selected ⟨true, name⟩ = true) : Selects declarations selected other := by
  cases h with
  | here notBuiltin first =>
    exact .root (isDefinable_of_firstType? notBuiltin first) (key_of_firstType? first ▸ root)
  | there notBuiltin first mem later =>
    have referring := isDefinable_of_firstType? notBuiltin first
    exact later.selects (.root referring (key_of_firstType? first ▸ root)) mem

theorem WantedFor.selects (h : WantedFor declarations [] d other)
    (referring : Selects declarations selected d) :
    Selects declarations selected other := by
  obtain ⟨-, rfl | ⟨r, mem, needs⟩⟩ := h
  · exact referring
  · exact needs.selects referring mem

/-! ## Selected declarations in order -/

/-- How far selected declarations have been turned into definitions: those of `before` are resolved
unless they are shadowed, and nothing has been turned that is not selected or referred to. -/
structure Fills (declarations : List Declaration) (selected : DefinitionKey → Bool)
    (before : List Declaration) (s : Registry) : Prop where
  wellFormed : s.WellFormed
  traces : s.Traces (Selects declarations selected)
  derivesNames : s.DerivesNames
  resolved : ∀ d ∈ before, selected d.key = true → d.isShadowed declarations = false →
    ∃ ref, s.lookup? d.key = some ref

theorem Fills.empty : Fills declarations selected [] {} := ⟨.empty, .empty, nofun, nofun⟩

/-- One more declaration is resolved, is not selected or is shadowed. -/
theorem Fills.next {before : List Declaration} (fills : Fills declarations selected before s)
    (resolved : selected d.key = true → d.isShadowed declarations = false →
      ∃ ref, s.lookup? d.key = some ref) :
    Fills declarations selected (before ++ [d]) s := by
  refine ⟨fills.wellFormed, fills.traces, fills.derivesNames,
    fun other mem hselected notShadowed => ?_⟩
  rcases List.mem_append.1 mem with earlier | here
  · exact fills.resolved other earlier hselected notShadowed
  · obtain rfl := List.mem_singleton.1 here
    exact resolved hselected notShadowed

/-- What has been filled stays so. -/
theorem Fills.grows {before : List Declaration} (fills : Fills declarations selected before s)
    (grows : Grows (Selects declarations selected) s s') :
    Fills declarations selected before s' := by
  refine ⟨grows.wellFormed fills.wellFormed, grows.traces fills.traces,
    grows.derivesNames fills.derivesNames, fun other mem hselected notShadowed => ?_⟩
  obtain ⟨ref, resolved⟩ := fills.resolved other mem hselected notShadowed
  exact ⟨ref, grows.extends.lookup? resolved⟩

/-- A declaration that is not resolved when its turn comes gets a definition. -/
theorem Fills.isDefinable {before rest : List Declaration}
    (fills : Fills (before ++ d :: rest) selected before s) (hselected : selected d.key = true)
    (notShadowed : d.isShadowed (before ++ d :: rest) = false)
    (unresolved : s.lookup? d.key = none) : IsDefinable (before ++ d :: rest) d where
  first := by
    have none : before.find? (·.key = d.key) = none := by
      rw [List.find?_eq_none]
      intro other mem same
      have key : other.key = d.key := of_decide_eq_true same
      have shadowed :
      other.isShadowed (before ++ d :: rest) = d.isShadowed (before ++ d :: rest) := by
        have isType : other.isType = d.isType := congrArg DefinitionKey.isType key
        have name : other.name = d.name := congrArg DefinitionKey.name key
        rw [Declaration.isShadowed, Declaration.isShadowed, isType, name]
      obtain ⟨ref, resolved⟩ := fills.resolved other mem (key ▸ hselected) (shadowed ▸ notShadowed)
      rw [key, unresolved] at resolved
      cases resolved
    rw [List.find?_append, none, List.find?_cons_of_pos]
    · rfl
    · exact decide_eq_true rfl
  notShadowed := notShadowed
  notBuiltin := notBuiltin_of_lookup?_eq_none unresolved

/-- Why turning selected declarations into definitions ends early. -/
structure Halted (declarations : List Declaration) (selected : DefinitionKey → Bool)
    (failure : Failure) (d : Declaration) : Prop where
  selects : Selects declarations selected d
  fails : Fails declarations failure [] d
  wellFormed : failure.registry.WellFormed
  traces : failure.registry.Traces (Selects declarations selected)

/-- What is done when the turn of a declaration comes. -/
theorem generateOn_fills {before rest : List Declaration}
    (fills : Fills (before ++ d :: rest) selected before s) (hselected : selected d.key = true)
    (notShadowed : d.isShadowed (before ++ d :: rest) = false) :
    Ensures (generateOn (before ++ d :: rest) [] d) s
      (fun _ s' => Fills (before ++ d :: rest) selected (before ++ [d]) s')
      (fun failure => Halted (before ++ d :: rest) selected failure d) := by
  cases found : s.lookup? d.key with
  | some ref =>
    unfold generateOn defining
    refine ensures_get_bind ?_
    rw [found]
    exact ensures_pure (fills.next fun _ _ => ⟨ref, found⟩)
  | none =>
    have selects : Selects (before ++ d :: rest) selected d :=
      .root (fills.isDefinable hselected notShadowed found) hselected
    have ensures := generateOn_ensures (before ++ d :: rest) [] d fills.wellFormed
    refine ensures.mono (fun ref s' h => ?_) fun failure h => ?_
    · exact (fills.grows (h.1.mono fun _ wanted => wanted.selects selects)).next fun _ _ =>
        ⟨ref, h.2⟩
    · have grows := h.1.mono fun _ wanted => wanted.selects selects
      exact ⟨selects, h.2, grows.wellFormed fills.wellFormed, grows.traces fills.traces⟩

/-- **Turning selected declarations into definitions** resolves each of them that is not shadowed,
or stops at one of them. -/
theorem generateAll_fills (before rest : List Declaration)
    (fills : Fills (before ++ rest) selected before s) :
    Ensures (generateAll (before ++ rest) (rest.filter (selected ·.key))) s
      (fun _ s' => Fills (before ++ rest) selected (before ++ rest) s')
      (fun failure => ∃ d, Halted (before ++ rest) selected failure d) := by
  induction rest generalizing before s with
  | nil =>
    rw [List.append_nil] at fills ⊢
    exact ensures_pure fills
  | cons d rest ih =>
    have later : ∀ {s : Registry}, Fills (before ++ d :: rest) selected (before ++ [d]) s →
        Ensures (generateAll (before ++ d :: rest) (rest.filter (selected ·.key))) s
          (fun _ s' => Fills (before ++ d :: rest) selected (before ++ d :: rest) s')
          (fun failure => ∃ d', Halted (before ++ d :: rest) selected failure d') := fun next => by
      rw [List.append_cons] at next ⊢
      exact ih (before ++ [d]) next
    cases hselected : selected d.key with
    | false =>
      rw [List.filter_cons, if_neg (hselected ▸ Bool.false_ne_true)]
      exact later (fills.next fun yes => by cases hselected.symm.trans yes)
    | true =>
      rw [List.filter_cons, if_pos hselected, generateAll]
      cases shadowed : d.isShadowed (before ++ d :: rest) with
      | false =>
        exact ensures_bind (generateOn_fills fills hselected shadowed)
          (fun failure halted => ⟨d, halted⟩) fun _ _ next => later next
      | true => exact later (fills.next fun _ no => by cases shadowed.symm.trans no)

/-! ## All declarations in order -/

/-- How far all declarations have been turned into definitions: those of `before` are resolved
unless they are shadowed, and types are defined by the first declarations with their names. -/
structure Progress (declarations before : List Declaration) (s : Registry) : Prop where
  wellFormed : s.WellFormed
  traces : s.Traces (IsFirst declarations)
  resolved : ∀ d ∈ before, d.isShadowed declarations = false → ∃ ref, s.lookup? d.key = some ref

/-- Any declaration. -/
def anyKey : DefinitionKey → Bool := fun _ => true

theorem Fills.progress {before : List Declaration} (fills : Fills declarations anyKey before s) :
    Progress declarations before s :=
  ⟨fills.wellFormed, fills.traces.mono fun _ selects => selects.definable.isFirst,
    fun d mem => fills.resolved d mem rfl⟩

/-- Why turning all declarations into definitions ends early. -/
structure Stopped (declarations : List Declaration) (failure : Failure) (d : Declaration) :
    Prop where
  mem : d ∈ declarations
  notShadowed : d.isShadowed declarations = false
  isFirst : IsFirst declarations d
  fails : Fails declarations failure [] d
  wellFormed : failure.registry.WellFormed
  traces : failure.registry.Traces (IsFirst declarations)

theorem Halted.stopped {failure : Failure} (halted : Halted declarations anyKey failure d) :
    Stopped declarations failure d :=
  ⟨halted.selects.definable.mem, halted.selects.definable.notShadowed,
    halted.selects.definable.isFirst, halted.fails,
    halted.wellFormed, halted.traces.mono fun _ selects => selects.definable.isFirst⟩

/-- **Turning all declarations into definitions** resolves each of them that is not shadowed, or
stops at one of them. -/
theorem generateAll_ensures (before rest : List Declaration)
    (fills : Fills (before ++ rest) anyKey before s) :
    Ensures (generateAll (before ++ rest) rest)
      s (fun _ s' => Progress (before ++ rest) (before ++ rest) s')
      (fun failure => ∃ d, Stopped (before ++ rest) failure d) := by
  have all := generateAll_fills before rest fills
  rw [show rest.filter (anyKey ·.key) = rest from List.filter_eq_self.2 fun _ _ => rfl] at all
  exact all.mono (fun _ _ fills => fills.progress) fun _ ⟨d, halted⟩ => ⟨d, halted.stopped⟩

end Registry

end SchemaBinding
