import Mathlib.Logic.Relation
import SchemaBinding.Proofs.Registry.Origin

/-!
# Recursion is found exactly where it is

The names of types form a graph: each leads to the names that the first type
with this name refers to, and built-in types lead nowhere (`Edge`). When all
references are to types and all names can be derived (`Resolvable`), turning a
declaration into a definition only fails because a name on the way is met again,
which closes a cycle (`Fails.reachesCycle`). When it does not fail, references
lead to ever earlier definitions, so that there is no cycle
(`Progress.not_transGen_self`). Together these are
`definitionsOfAll_recursiveType_iff`.
-/

namespace SchemaBinding

/-- The name of the type that a declaration stands for: its own, or that of the type of an
element. -/
def Declaration.entry : Declaration → Xml.Name
  | .element e => Registry.typeOf e
  | d => d.name

namespace Registry

/-- Whether the first type with a name, which is not built in, refers to another one. -/
def Edge (declarations : List Declaration) (name r : Xml.Name) : Prop :=
  builtinNamed? name = none ∧ ∃ d, firstType? declarations name = some d ∧ r ∈ d.val.references

/-- Whether a name leads to one that leads back to itself. -/
def ReachesCycle (declarations : List Declaration) (name : Xml.Name) : Prop :=
  ∃ m, Relation.ReflTransGen (Edge declarations) name m ∧ Relation.TransGen (Edge declarations) m m

/-- Whether every reference is to a type, every base to a simple one, and a name can be derived for
every type and every field. -/
structure Resolvable (declarations : List Declaration) : Prop where
  references : ∀ d ∈ declarations, ∀ r ∈ d.references,
    builtinNamed? r ≠ none ∨ ∃ other, firstType? declarations r = some other
  bases : ∀ simple, Declaration.simple simple ∈ declarations →
    builtinNamed? simple.restriction.base ≠ none ∨
    ∃ first, firstType? declarations simple.restriction.base = some first ∧
    ∃ base, first.val = .simple base
  typeNames : ∀ d ∈ declarations, ∃ derived, Naming.typeName d.localName d.namingKind = .ok derived
  fieldNames : ∀ complex, Declaration.complex complex ∈ declarations → ∀ e ∈ complex.fields,
    ∃ derived, Naming.fieldName e.name = .ok derived

variable {declarations : List Declaration} {d : Declaration} {failure : Failure} {s : Registry}

theorem Edge.reachesCycle {name r : Xml.Name} (edge : Edge declarations name r)
    (h : ReachesCycle declarations r) : ReachesCycle declarations name := by
  obtain ⟨m, way, cycle⟩ := h
  exact ⟨m, .head edge way, cycle⟩

/-! ## A failure closes a cycle -/

/-- Whether a declaration is not at fault itself: every reference of it is to a type, a base to a
simple one, and names can be derived for it and its fields. -/
structure IsSane (declarations : List Declaration) (d : Declaration) : Prop where
  references : ∀ r ∈ d.references, builtinNamed? r ≠ none ∨
    ∃ other, firstType? declarations r = some other
  base : ∀ simple, d = .simple simple → builtinNamed? simple.restriction.base ≠ none ∨
    ∃ first, firstType? declarations simple.restriction.base = some first ∧
    ∃ base, first.val = .simple base
  typeName : ∃ derived, Naming.typeName d.localName d.namingKind = .ok derived
  fieldNames : ∀ complex, d = .complex complex →
    ∀ e ∈ complex.fields, ∃ derived, Naming.fieldName e.name = .ok derived

theorem Resolvable.isSane (resolvable : Resolvable declarations) (mem : d ∈ declarations) :
    IsSane declarations d where
  references := resolvable.references d mem
  base := fun simple same => resolvable.bases simple (same ▸ mem)
  typeName := resolvable.typeNames d mem
  fieldNames := fun complex same => resolvable.fieldNames complex (same ▸ mem)

/-- A sane declaration is not at fault itself. -/
theorem IsSane.not_faulty (sane : IsSane declarations d)
    (traces : failure.registry.Traces (IsFirst declarations)) :
    ¬ Faulty failure d := by
  intro faulty
  cases faulty with
  | @base declaration i definition resolved found other cause =>
    rcases sane.base declaration rfl with builtin | ⟨first, isFirst, base, simple⟩
    · obtain ⟨b, known⟩ := Option.ne_none_iff_exists'.1 builtin
      rw [lookup?_of_builtin _ known] at resolved
      cases resolved
    · -- The definition of the base comes from the first type with its name, which is simple.
      obtain ⟨origin, definition', originFirst, key, found', describes⟩ := traces _ i resolved
      obtain rfl := Option.some.inj (found.symm.trans found')
      have isType : origin.isType = true := congrArg DefinitionKey.isType key
      have named : origin.name = declaration.restriction.base := congrArg DefinitionKey.name key
      obtain ⟨first', isFirst', same⟩ := originFirst isType
      rw [named, isFirst] at isFirst'
      obtain rfl := Option.some.inj isFirst'
      rw [← same, simple] at describes
      unfold Definition.isSimple at other
      generalize definition.body = body at describes other
      cases describes
      cases other
  | fieldName inFields cause =>
    obtain ⟨derived, named⟩ := sane.fieldNames _ rfl _ inFields
    cases named.symm.trans cause
  | typeName cause =>
    obtain ⟨derived, named⟩ := sane.typeName
    cases named.symm.trans cause

/-- What a sane declaration refers to is found. -/
theorem IsSane.not_notFound (sane : IsSane declarations d) {r : Xml.Name}
    (refers : r ∈ d.references) {path : List DefinitionKey} :
    ¬ NotFound declarations failure path r := by
  intro notFound
  rcases sane.references r refers with builtin | ⟨other, first⟩
  · exact builtin notFound.notBuiltin
  · cases first.symm.trans notFound.unknown

/-- Whether a declaration may be turned into a definition when all of them are: it is no shadowed
element, and no type with the name of an earlier or a built-in one. -/
structure IsTurned (declarations : List Declaration) (d : Declaration) : Prop where
  mem : d ∈ declarations
  notShadowed : d.isShadowed declarations = false
  isFirst : IsFirst declarations d
  notBuiltin : d.isType = true → builtinNamed? d.name = none

/-- **A failure closes a cycle.** All types on the way lead to the first type that is being turned
into a definition. -/
theorem Fails.reachesCycle (sane : ∀ d, IsTurned declarations d → IsSane declarations d)
    (traces : failure.registry.Traces (IsFirst declarations)) {path : List DefinitionKey}
    (h : Fails declarations failure path d) (mem : d ∈ declarations)
    (isFirst : IsFirst declarations d) (isType : d.isType = true)
    (way : ∀ key ∈ path, key.isType = true →
      Relation.TransGen (Edge declarations) key.name d.name) :
    (∃ name, failure.cause = .recursiveType name) ∧ ReachesCycle declarations d.name := by
  induction h with
  | @recursive path d met cause marks => exact ⟨⟨_, cause⟩, d.name, .refl, way d.key met isType⟩
  | own enters faulty _ =>
    have isTurned : IsTurned declarations _ :=
      ⟨mem, isShadowed_of_isType isType, isFirst, enters.notBuiltin⟩
    exact absurd faulty ((sane _ isTurned).not_faulty traces)
  | missing enters refers notFound =>
    have isTurned : IsTurned declarations _ :=
      ⟨mem, isShadowed_of_isType isType, isFirst, enters.notBuiltin⟩
    exact absurd notFound ((sane _ isTurned).not_notFound refers)
  | @reference path d r other enters refers first later ih =>
    have edge : Edge declarations d.name r := by
      obtain ⟨first', found, same⟩ := isFirst isType
      exact ⟨enters.notBuiltin isType, first', found, same ▸ refers⟩
    have key : other.val.key = ⟨true, r⟩ := key_of_firstType? first
    have named : other.val.name = r := congrArg DefinitionKey.name key
    obtain ⟨cause, reaches⟩ :=
      ih other.property (isFirst_of_firstType? first) (congrArg DefinitionKey.isType key)
      (fun earlier onWay type => by
        rw [named]
        rcases List.mem_cons.1 onWay with rfl | before
        · exact .single edge
        · exact (way earlier before type).tail edge)
    exact ⟨cause, edge.reachesCycle (named ▸ reaches)⟩

/-- When all declarations are turned into definitions, it is only recursion that stops it. -/
theorem Stopped.reachesCycle_of_isSane (sane : ∀ d, IsTurned declarations d → IsSane declarations d)
    (stopped : Stopped declarations failure d) :
    (∃ name, failure.cause = .recursiveType name) ∧ ReachesCycle declarations d.entry := by
  cases type : d.isType with
  | true =>
    have entry : d.entry = d.name := by cases d <;> first | rfl | cases type
    rw [entry]
    exact stopped.fails.reachesCycle sane stopped.traces stopped.mem stopped.isFirst type nofun
  | false =>
    have isSane : IsSane declarations d :=
      sane d ⟨stopped.mem, stopped.notShadowed, stopped.isFirst, fun isType => by
        cases type.symm.trans isType⟩
    -- Nothing leads to an element, so that what it refers to fails with no type on the way.
    obtain ⟨e, rfl⟩ : ∃ e, d = .element e := by cases d <;> first | exact ⟨_, rfl⟩ | cases type
    cases stopped.fails with
    | recursive met _ _ => cases met
    | own _ faulty _ => exact absurd faulty (isSane.not_faulty stopped.traces)
    | missing _ refers notFound => exact absurd notFound (isSane.not_notFound refers)
    | @reference _ _ r other _ refers first later =>
      have key : other.val.key = ⟨true, r⟩ := key_of_firstType? first
      have named : other.val.name = r := congrArg DefinitionKey.name key
      obtain rfl : r = typeOf e := List.mem_singleton.1 refers
      have found := later.reachesCycle sane stopped.traces other.property
        (isFirst_of_firstType? first)
        (congrArg DefinitionKey.isType key) (fun earlier onWay type => by
          rw [List.mem_singleton.1 onWay] at type
          cases type)
      rw [named] at found
      exact found

theorem Stopped.reachesCycle (resolvable : Resolvable declarations)
    (stopped : Stopped declarations failure d) :
    (∃ name, failure.cause = .recursiveType name) ∧ ReachesCycle declarations d.entry :=
  stopped.reachesCycle_of_isSane fun _ isTurned => resolvable.isSane isTurned.mem

/-! ## Without a failure there is no cycle -/

/-- A declared type is resolved once all declarations have been turned into definitions. -/
theorem Progress.exists_ref (progress : Progress declarations declarations s) {name : Xml.Name}
    {first : Member declarations} (h : firstType? declarations name = some first) :
    ∃ ref, s.lookup? ⟨true, name⟩ = some ref := by
  have key := key_of_firstType? h
  have isType : first.val.isType = true := congrArg DefinitionKey.isType key
  exact key ▸ progress.resolved first.val first.property (isShadowed_of_isType isType)

/-- **References lead to earlier definitions.** -/
theorem Progress.lt_of_edge (progress : Progress declarations declarations s) {name r : Xml.Name}
    (edge : Edge declarations name r) {i j : Nat}
    (out : s.lookup? ⟨true, name⟩ = some (.generated i))
    (into : s.lookup? ⟨true, r⟩ = some (.generated j)) : j < i := by
  obtain ⟨-, first, found, refers⟩ := edge
  obtain ⟨origin, definition, isFirst, key, placed, describes⟩ := progress.traces _ i out
  obtain ⟨first', found', rfl⟩ := isFirst (congrArg DefinitionKey.isType key)
  rw [show first'.val.name = name from congrArg DefinitionKey.name key, found] at found'
  obtain rfl := Option.some.inj found'
  obtain ⟨ref, resolved, before⟩ :=
    describes.exists_reference (progress.wellFormed.sound i definition placed) refers
  exact before j (Option.some.inj (resolved.symm.trans into))

/-- A name that leads to another one is resolved to a definition. -/
theorem Progress.exists_index (progress : Progress declarations declarations s) {name r : Xml.Name}
    (edge : Edge declarations name r) : ∃ i, s.lookup? ⟨true, name⟩ = some (.generated i) := by
  obtain ⟨notBuiltin, first, found, -⟩ := edge
  obtain ⟨ref, resolved⟩ := progress.exists_ref found
  cases ref with
  | generated i => exact ⟨i, resolved⟩
  | builtin b =>
    obtain ⟨-, builtin⟩ := progress.wellFormed.builtins _ b resolved
    cases notBuiltin.symm.trans builtin

theorem Progress.lt_of_transGen (progress : Progress declarations declarations s)
    {name r : Xml.Name} (way : Relation.TransGen (Edge declarations) name r) {i j : Nat}
    (out : s.lookup? ⟨true, name⟩ = some (.generated i))
    (into : s.lookup? ⟨true, r⟩ = some (.generated j)) :
    j < i := by
  induction way generalizing j with
  | single edge => exact progress.lt_of_edge edge out into
  | tail _ edge ih =>
    obtain ⟨k, middle⟩ := progress.exists_index edge
    exact Nat.lt_trans (progress.lt_of_edge edge middle into) (ih middle)

/-- **Without a failure there is no cycle.** -/
theorem Progress.not_transGen_self (progress : Progress declarations declarations s)
    (name : Xml.Name) :
    ¬ Relation.TransGen (Edge declarations) name name := by
  intro cycle
  obtain ⟨r, edge, -⟩ := Relation.TransGen.head'_iff.1 cycle
  obtain ⟨i, resolved⟩ := progress.exists_index edge
  exact Nat.lt_irrefl i (progress.lt_of_transGen cycle resolved resolved)

/-! ## Recursion -/

/-- Whether a declaration that is turned into a definition reaches a cycle. -/
def IsRecursive (declarations : List Declaration) : Prop :=
  ∃ d ∈ declarations, d.isShadowed declarations = false ∧ ReachesCycle declarations d.entry

theorem Progress.not_isRecursive (progress : Progress declarations declarations s) :
    ¬ IsRecursive declarations := by
  rintro ⟨d, -, -, m, -, cycle⟩
  exact progress.not_transGen_self m cycle

/-- **Recursion is found exactly where it is.** Let every reference be to a built-in type or a
declared one, every base be simple, and names be derived for all types and fields. Turning all
declarations into definitions fails because of recursion if and only if a declaration that is not a
shadowed element reaches a cycle of references; otherwise it does not fail, however often and along
however many ways a type is referred to. -/
theorem definitionsOfAll_recursiveType_iff (resolvable : Resolvable declarations) :
    ((∃ name, definitionsOfAll declarations = .error (.recursiveType name)) ↔
      IsRecursive declarations) ∧
      (¬ IsRecursive declarations →
        ∃ definitions, definitionsOfAll declarations = .ok definitions) := by
  have ensured := generateAll_ensures [] declarations .empty
  unfold Ensures at ensured
  rw [List.nil_append] at ensured
  unfold definitionsOfAll definitionsOf
  cases outcome : (generateAll declarations declarations).run {} with
  | ok result =>
    rw [outcome] at ensured
    refine ⟨⟨?_, fun recursive => absurd recursive ensured.not_isRecursive⟩, fun _ => ⟨_, rfl⟩⟩
    rintro ⟨name, failed⟩
    cases failed
  | error failure =>
    rw [outcome] at ensured
    obtain ⟨d, stopped⟩ := ensured
    obtain ⟨⟨name, cause⟩, reaches⟩ := stopped.reachesCycle resolvable
    have recursive : IsRecursive declarations := ⟨d, stopped.mem, stopped.notShadowed, reaches⟩
    exact ⟨⟨fun _ => recursive, fun _ => ⟨name, congrArg Except.error cause⟩⟩, fun no =>
      absurd recursive no⟩

/-- A type with a field of the type itself. -/
def nodeDeclaration : Declaration :=
  .complex ⟨"Node", none,
    [{ name := "next", namespaceName? := none, type? := some ⟨none, "Node"⟩ }]⟩

theorem definitionsOfAll_node :
    ∃ name, definitionsOfAll [nodeDeclaration] = .error (.recursiveType name) := by
  have first : ∃ d, firstType? [nodeDeclaration] ⟨none, "Node"⟩ = some d ∧
    d.val = nodeDeclaration :=
    exists_firstType? rfl
  have resolvable : Resolvable [nodeDeclaration] := by
    refine ⟨?_, ?_, ?_, ?_⟩
    · intro d mem r refers
      rw [List.mem_singleton.1 mem] at refers
      obtain rfl := List.mem_singleton.1 refers
      obtain ⟨d', found, -⟩ := first
      exact .inr ⟨d', found⟩
    · intro simple mem
      cases List.mem_singleton.1 mem
    · intro d mem
      obtain rfl := List.mem_singleton.1 mem
      exact ⟨"NodeComplexType", by rfl⟩
    · intro complex mem e inFields
      cases List.mem_singleton.1 mem
      cases List.mem_singleton.1 inFields
      exact ⟨"next", by rfl⟩
  have edge : Edge [nodeDeclaration] ⟨none, "Node"⟩ ⟨none, "Node"⟩ := by
    obtain ⟨d, found, same⟩ := first
    refine ⟨rfl, d, found, ?_⟩
    rw [same]
    exact List.mem_singleton_self _
  exact (definitionsOfAll_recursiveType_iff resolvable).1.2
    ⟨nodeDeclaration, List.mem_singleton_self _, rfl, ⟨none, "Node"⟩, .refl, .single edge⟩

end Registry

end SchemaBinding
