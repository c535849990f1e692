import Mathlib.Logic.Relation
import SchemaBinding.Proofs.Registry.Invariant

/-!
# What steps of a registry do

Every step of a registry adds definitions of declarations that it needs, one
after the other (`Grows`), whether it fails or not, and touches no declaration
that was being turned into a definition before. A step that does not fail leaves
what it was asked for resolved; one that fails does so for a reason that the
declarations have (`Fails`). Resolving names, making fields and making bodies
call each other, so `resolveOn_ensures`, `fieldsOn_ensures` and
`bodyOn_ensures` are proved together, by the recursion of the three.
-/

namespace SchemaBinding

namespace Registry

/-! ## Outcomes -/

section

variable {α β : Type} {s : Registry} {done : α → Registry → Prop} {failed : Failure → Prop}

/-- What holds of the result of a step and the registry after it, or of its failure. -/
def Ensures (step : Step α) (s : Registry) (done : α → Registry → Prop) (failed : Failure → Prop) :
    Prop :=
  match step.run s with
  | .ok (a, s') => done a s'
  | .error failure => failed failure

theorem ensures_pure {a : α} (h : done a s) : Ensures (pure a) s done failed := h

theorem ensures_fail {path : List DefinitionKey} {cause : GenerateError}
    (h : failed ⟨cause, s, path⟩) :
    Ensures (fail path cause) s done failed := h

theorem ensures_get_bind {next : Registry → Step α} (h : Ensures (next s) s done failed) :
    Ensures (get >>= next) s done failed := h

theorem ensures_set_bind {s' : Registry} {next : PUnit → Step α}
    (h : Ensures (next ⟨⟩) s' done failed) :
    Ensures (set s' >>= next) s done failed := h

theorem Ensures.mono {step : Step α} {done' : α → Registry → Prop} {failed' : Failure → Prop}
    (h : Ensures step s done failed) (ok : ∀ a s', done a s' → done' a s')
    (error : ∀ failure, failed failure → failed' failure) : Ensures step s done' failed' := by
  unfold Ensures at h ⊢
  split
  · next found => rw [found] at h; exact ok _ _ h
  · next found => rw [found] at h; exact error _ h

theorem Ensures.and {step : Step α} {done' : α → Registry → Prop} {failed' : Failure → Prop}
    (h : Ensures step s done failed) (h' : Ensures step s done' failed') :
    Ensures step s (fun a s' => done a s' ∧ done' a s') fun failure => failed failure ∧
      failed' failure := by
  unfold Ensures at *
  split
  · next found => rw [found] at h h'; exact ⟨h, h'⟩
  · next found => rw [found] at h h'; exact ⟨h, h'⟩

/-- **One step after another.** -/
theorem ensures_bind {step : Step α} {next : α → Step β} {done' : β → Registry → Prop}
    {failed' : Failure → Prop} (first : Ensures step s done failed)
    (error : ∀ failure, failed failure → failed' failure)
    (rest : ∀ a s', done a s' → Ensures (next a) s' done' failed') :
    Ensures (step >>= next) s done' failed' := by
  unfold Ensures at first ⊢
  rw [StateT.run_bind]
  cases outcome : step.run s with
  | ok result => rw [outcome] at first; exact rest _ _ first
  | error failure => rw [outcome] at first; exact error failure first

theorem ensures_lift_bind {path : List DefinitionKey} {result : Except GenerateError β}
    {next : β → Step α} (ok : ∀ b, result = .ok b → Ensures (next b) s done failed)
    (error : ∀ cause, result = .error cause → failed ⟨cause, s, path⟩) :
    Ensures (lift path result >>= next) s done failed := by
  cases result with
  | ok b => exact ok b rfl
  | error cause => exact error cause rfl

end

end Registry

/-! ## What is needed -/

/-- The names of the types that a declaration refers to, in order. -/
def Declaration.references : Declaration → List Xml.Name
  | .simple d => [d.restriction.base]
  | .complex d => d.fields.map Registry.typeOf
  | .element d => [Registry.typeOf d]

namespace Registry

variable {declarations : List Declaration}

/-- The declarations that are needed for a name that is not that of a built-in type: the first type
with this name, and what is needed for the names that it refers to. -/
inductive Needs (declarations : List Declaration) : Xml.Name → Declaration → Prop
  | here {name : Xml.Name} {d : Member declarations} (notBuiltin : builtinNamed? name = none)
      (first : firstType? declarations name = some d) : Needs declarations name d.val
  | there {name r : Xml.Name} {d : Member declarations} {other : Declaration}
      (notBuiltin : builtinNamed? name = none)
      (first : firstType? declarations name = some d) (mem : r ∈ d.val.references)
      (later : Needs declarations r other) : Needs declarations name other

/-- The declarations that are needed for one of several names and are not on the way. -/
def Wanted (declarations : List Declaration) (path : List DefinitionKey) (names : List Xml.Name)
    (d : Declaration) : Prop :=
  d.key ∉ path ∧ ∃ name ∈ names, Needs declarations name d

/-- The declarations that are needed for a declaration and are not on the way: itself, and what it
refers to. -/
def WantedFor (declarations : List Declaration) (path : List DefinitionKey)
    (d other : Declaration) : Prop :=
  other.key ∉ path ∧ (other = d ∨ ∃ name ∈ d.references, Needs declarations name other)

theorem Wanted.mono {path : List DefinitionKey} {names more : List Xml.Name}
    (sub : ∀ name ∈ names, name ∈ more) {d : Declaration} (h : Wanted declarations path names d) :
    Wanted declarations path more d := by
  obtain ⟨new, name, mem, needs⟩ := h
  exact ⟨new, name, sub name mem, needs⟩

theorem Wanted.wantedFor {path : List DefinitionKey} {d other : Declaration}
    (h : Wanted declarations (d.key :: path) d.references other) :
    WantedFor declarations path d other :=
  ⟨fun met => h.1 (List.mem_cons_of_mem _ met), .inr h.2⟩

theorem WantedFor.wanted {path : List DefinitionKey} {name : Xml.Name} {d : Member declarations}
    (notBuiltin : builtinNamed? name = none) (first : firstType? declarations name = some d)
    {other : Declaration} (h : WantedFor declarations path d.val other) :
    Wanted declarations path [name] other := by
  obtain ⟨new, rfl | ⟨r, mem, needs⟩⟩ := h
  · exact ⟨new, name, List.mem_singleton_self _, .here notBuiltin first⟩
  · exact ⟨new, name, List.mem_singleton_self _, .there notBuiltin first mem needs⟩

/-- The first type with a name has the key of the name. -/
theorem key_of_firstType? {name : Xml.Name} {d : Member declarations}
    (h : firstType? declarations name = some d) :
    d.val.key = ⟨true, name⟩ := by
  unfold firstType? first? at h
  split at h
  · next found =>
    obtain rfl := Option.some.inj h
    have matched := List.find?_some found
    rw [Bool.and_eq_true] at matched
    rw [Declaration.key, matched.1, eq_of_beq matched.2]
  · cases h

/-! ## Growth -/

/-- Definitions of declarations that satisfy a condition have been added. -/
def Grows (p : Declaration → Prop) : Registry → Registry → Prop :=
  Relation.ReflTransGen fun s s' => ∃ d, p d ∧ Adds d s s'

section

variable {p q : Declaration → Prop} {s s' : Registry}

theorem Grows.mono (h : Grows p s s') (sub : ∀ d, p d → q d) : Grows q s s' := by
  induction h with
  | refl => exact .refl
  | tail _ adds ih =>
    obtain ⟨d, hd, adds⟩ := adds
    exact ih.tail ⟨d, sub d hd, adds⟩

/-- **Growth keeps a registry well formed.** -/
theorem Grows.wellFormed (h : Grows p s s') (wf : s.WellFormed) : s'.WellFormed := by
  induction h with
  | refl => exact wf
  | tail _ adds ih =>
    obtain ⟨d, -, adds⟩ := adds
    exact adds.wellFormed ih

theorem Grows.extends (h : Grows p s s') : Extends s s' := by
  induction h with
  | refl => exact .refl _
  | tail _ adds ih =>
    obtain ⟨d, -, adds⟩ := adds
    exact ih.trans adds.extends

/-- A key of which no declaration is added leads where it led before. -/
theorem Grows.lookup?_of_forall (h : Grows p s s') {key : DefinitionKey}
    (differs : ∀ d, p d → key ≠ d.key) :
    s'.lookup? key = s.lookup? key := by
  induction h with
  | refl => rfl
  | tail _ adds ih =>
    obtain ⟨d, hd, adds⟩ := adds
    rw [adds.lookup?_of_ne (differs d hd), ih]

end

/-! ## Failures -/

/-- A name is not that of a type. -/
structure NotFound (declarations : List Declaration) (failure : Failure) (path : List DefinitionKey)
    (name : Xml.Name) : Prop where
  unknown : firstType? declarations name = none
  notBuiltin : builtinNamed? name = none
  cause : failure.cause = .typeNotFound name
  marks : failure.marks = path

/-- A declaration cannot be turned into a definition although all that it refers to is resolved. -/
inductive Faulty (failure : Failure) : Declaration → Prop
  | base {declaration : SimpleDeclaration} {i : Nat} {definition : Definition}
      (resolved : failure.registry.lookup? ⟨true, declaration.restriction.base⟩ =
        some (.generated i))
      (found : failure.registry.definitions[i]? = some definition)
      (other : definition.isSimple = false)
      (cause : failure.cause =
        .complexBase (Declaration.simple declaration).name declaration.restriction.base) :
      Faulty failure (.simple declaration)
  | fieldName {declaration : ComplexDeclaration} {e : ElementDeclaration}
      (mem : e ∈ declaration.fields)
      (cause : Naming.fieldName e.name = .error failure.cause) :
      Faulty failure (.complex declaration)
  | typeName {d : Declaration}
      (cause : Naming.typeName d.localName d.namingKind = .error failure.cause) : Faulty failure d

/-- Whether a declaration is begun to be turned into a definition: it is neither on the way nor that
of a built-in type. -/
structure Enters (path : List DefinitionKey) (d : Declaration) : Prop where
  new : d.key ∉ path
  notBuiltin : d.isType = true → builtinNamed? d.name = none

/-- **Why a declaration is not turned into a definition.** It is on the way already, it is at fault
itself, or something that it refers to is not found or not turned into a definition. -/
inductive Fails (declarations : List Declaration) (failure : Failure) :
    List DefinitionKey → Declaration → Prop
  | recursive {path : List DefinitionKey} {d : Declaration} (met : d.key ∈ path)
      (cause : failure.cause = .recursiveType d.name) (marks : failure.marks = path) :
      Fails declarations failure path d
  | own {path : List DefinitionKey} {d : Declaration} (enters : Enters path d)
      (faulty : Faulty failure d)
      (marks : failure.marks = d.key :: path) : Fails declarations failure path d
  | missing {path : List DefinitionKey} {d : Declaration} {r : Xml.Name} (enters : Enters path d)
      (mem : r ∈ d.references) (notFound : NotFound declarations failure (d.key :: path) r) :
      Fails declarations failure path d
  | reference {path : List DefinitionKey} {d : Declaration} {r : Xml.Name}
      {other : Member declarations} (enters : Enters path d) (mem : r ∈ d.references)
      (first : firstType? declarations r = some other)
      (later : Fails declarations failure (d.key :: path) other.val) :
      Fails declarations failure path d

/-- Why a name is not resolved. -/
def Unresolved (declarations : List Declaration) (failure : Failure) (path : List DefinitionKey)
    (name : Xml.Name) : Prop :=
  NotFound declarations failure path name ∨
    ∃ d, firstType? declarations name = some d ∧ Fails declarations failure path d.val

/-- Why what a declaration says is not made. -/
def Unmade (declarations : List Declaration) (failure : Failure) (path : List DefinitionKey)
    (d : Declaration) : Prop :=
  (∃ r ∈ d.references, Unresolved declarations failure path r) ∨ Faulty failure d ∧
    failure.marks = path

theorem Unmade.fails {failure : Failure} {path : List DefinitionKey} {d : Declaration}
    (enters : Enters path d) (h : Unmade declarations failure (d.key :: path) d) :
    Fails declarations failure path d := by
  obtain ⟨r, mem, notFound | ⟨other, first, later⟩⟩ | ⟨faulty, marks⟩ := h
  · exact .missing enters mem notFound
  · exact .reference enters mem first later
  · exact .own enters faulty marks

/-! ## The steps -/

theorem takeName_ensures (path : List DefinitionKey) (name : String) (kind : Naming.Kind)
    (s : Registry) :
    Ensures (takeName path name kind) s
      (fun given s' => ∃ derived, Naming.typeName name kind = .ok derived ∧
        given = Naming.fresh s.taken derived ∧
        s' = { s with taken := given :: s.taken })
      (fun failure => Naming.typeName name kind = .error failure.cause ∧ failure.registry = s ∧
        failure.marks = path) := by
  unfold takeName
  refine ensures_lift_bind (fun derived found => ?_) fun cause found => ⟨found, rfl, rfl⟩
  exact ensures_get_bind (ensures_set_bind (ensures_pure ⟨derived, found, rfl, rfl⟩))

/-- **Turning a declaration into a definition**, given what making its body does. -/
theorem defining_ensures (declarations : List Declaration) {path : List DefinitionKey}
    {d : Declaration} {make : d.key ∉ path → Step DefinitionBody} {s : Registry}
    (made : ∀ new : d.key ∉ path, Ensures (make new) s
      (fun body s' => Grows (Wanted declarations (d.key :: path) d.references) s s' ∧
        Describes s' d body)
      (fun failure => Grows (Wanted declarations (d.key :: path) d.references) s failure.registry ∧
        Unmade declarations failure (d.key :: path) d)) :
    Ensures (defining path d make) s
      (fun ref s' => Grows (WantedFor declarations path d) s s' ∧ s'.lookup? d.key = some ref)
      (fun failure => Grows (WantedFor declarations path d) s failure.registry ∧
        Fails declarations failure path d) := by
  unfold defining
  refine ensures_get_bind ?_
  split
  · next ref resolved => exact ensures_pure ⟨.refl, resolved⟩
  · next unresolved =>
    split
    · next met => exact ensures_fail ⟨.refl, .recursive met rfl rfl⟩
    · next new =>
      have enters : Enters path d := ⟨new, notBuiltin_of_lookup?_eq_none unresolved⟩
      refine ensures_bind (made new)
        (fun failure h => ⟨h.1.mono fun _ => Wanted.wantedFor, h.2.fails enters⟩)
        fun body s' h => ?_
      obtain ⟨grows, describes⟩ := h
      -- What the body refers to is not the declaration itself, which is on the way.
      have still : s'.lookup? d.key = none := by
        rw [grows.lookup?_of_forall fun other wanted same =>
          wanted.1 (same ▸ List.mem_cons_self ..), unresolved]
      have sofar : Grows (WantedFor declarations path d) s s' :=
        grows.mono fun _ => Wanted.wantedFor
      refine ensures_bind (takeName_ensures _ _ _ s') (fun failure h => ?_) fun given s'' h => ?_
      · obtain ⟨unnamed, same, marks⟩ := h
        exact ⟨same ▸ sofar, .own enters (.typeName unnamed) marks⟩
      · obtain ⟨derived, named, rfl, rfl⟩ := h
        have adds : Adds d s' (s'.add d (Naming.fresh s'.taken derived) body) :=
          .intro still describes named
        exact ensures_get_bind (ensures_set_bind (ensures_pure
          ⟨sofar.tail ⟨d, ⟨new, .inl rfl⟩, adds⟩, adds.lookup?_self⟩))

theorem simpleBase_ensures {path : List DefinitionKey} {declaration : SimpleDeclaration}
    {ref : TypeRef} {s : Registry} (wf : s.WellFormed)
    (resolved : s.lookup? ⟨true, declaration.restriction.base⟩ = some ref) :
    Ensures
      (simpleBase path (Declaration.simple declaration).name declaration.restriction.base ref) s
      (fun base s' => s' = s ∧ IsBase s ref base)
      (fun failure => failure.registry = s ∧ Faulty failure (.simple declaration) ∧
        failure.marks = path) := by
  unfold simpleBase
  split
  · exact ensures_pure ⟨rfl, .anyType⟩
  · exact ensures_pure ⟨rfl, .builtin _⟩
  · next i =>
    obtain ⟨definition, found, -⟩ := wf.known _ i resolved
    refine ensures_get_bind ?_
    rw [found]
    dsimp only
    split
    · next simple => exact ensures_pure ⟨rfl, .generated found simple⟩
    · next other => exact ensures_fail ⟨rfl,
        .base resolved found (Bool.eq_false_iff.2 other) rfl, rfl⟩

mutual

/-- **Resolving a name** adds what is needed for it, and finds it resolved in the end. -/
theorem resolveOn_ensures (declarations : List Declaration) (path : List DefinitionKey)
    (name : Xml.Name) {s : Registry} (wf : s.WellFormed) :
    Ensures (resolveOn declarations path name) s
      (fun ref s' => Grows (Wanted declarations path [name]) s s' ∧
        s'.lookup? ⟨true, name⟩ = some ref)
      (fun failure => Grows (Wanted declarations path [name]) s failure.registry ∧
        Unresolved declarations failure path name) := by
  rw [resolveOn]
  refine ensures_get_bind ?_
  split
  · next ref resolved => exact ensures_pure ⟨.refl, resolved⟩
  · next unresolved =>
    have notBuiltin : builtinNamed? name = none := notBuiltin_of_lookup?_eq_none unresolved rfl
    split
    · next d first =>
      have key : d.val.key = ⟨true, name⟩ := key_of_firstType? first
      refine (defining_ensures declarations fun new => ?_).mono (fun ref s' h => ?_)
        fun failure h => ?_
      · have fewer := remaining_cons_lt (List.mem_map_of_mem d.property) new
        exact bodyOn_ensures declarations (d.val.key :: path) d.val wf
      · exact ⟨h.1.mono fun _ => WantedFor.wanted notBuiltin first, key ▸ h.2⟩
      · exact ⟨h.1.mono fun _ => WantedFor.wanted notBuiltin first, .inr ⟨d, first, h.2⟩⟩
    · next unknown =>
      exact ensures_fail ⟨.refl, .inl ⟨unknown, notBuiltin, rfl, rfl⟩⟩
termination_by (remaining (declarations.map Declaration.key) path, 1, 0)
decreasing_by exact Prod.Lex.left _ _ ‹_›

/-- **Making fields** resolves their types in order. -/
theorem fieldsOn_ensures (declarations : List Declaration) (path : List DefinitionKey)
    (taken : List String) (fields : List ElementDeclaration) {s : Registry} (wf : s.WellFormed) :
    Ensures (fieldsOn declarations path taken fields) s
      (fun made s' => Grows (Wanted declarations path (fields.map typeOf)) s s' ∧
        FieldsOf s' taken fields made)
      (fun failure => Grows (Wanted declarations path (fields.map typeOf)) s failure.registry ∧
        ((∃ r ∈ fields.map typeOf, Unresolved declarations failure path r) ∨
          (∃ e ∈ fields, Naming.fieldName e.name = .error failure.cause) ∧
          failure.marks = path)) := by
  match fields with
  | [] =>
    rw [fieldsOn]
    exact ensures_pure ⟨.refl, .nil⟩
  | e :: rest =>
    rw [fieldsOn]
    have here : ∀ {s s' : Registry}, Grows (Wanted declarations path [typeOf e]) s s' →
        Grows (Wanted declarations path ((e :: rest).map typeOf)) s s' := fun grows =>
      grows.mono fun _ => Wanted.mono fun name mem =>
        List.mem_singleton.1 mem ▸ List.mem_cons_self ..
    have there : ∀ {s s' : Registry}, Grows (Wanted declarations path (rest.map typeOf)) s s' →
        Grows (Wanted declarations path ((e :: rest).map typeOf)) s s' := fun grows =>
      grows.mono fun _ => Wanted.mono fun name mem => List.mem_cons_of_mem _ mem
    refine ensures_bind (resolveOn_ensures declarations path (typeOf e) wf)
      (fun failure h => ⟨here h.1, .inl ⟨_, List.mem_cons_self .., h.2⟩⟩) fun type s' h => ?_
    obtain ⟨grows, resolved⟩ := h
    refine ensures_lift_bind (fun derived named => ?_) fun cause unnamed =>
      ⟨here grows, .inr ⟨⟨e, List.mem_cons_self .., unnamed⟩, rfl⟩⟩
    refine ensures_bind (fieldsOn_ensures declarations path
      (Naming.fresh taken derived :: taken) rest
      (grows.wellFormed wf)) (fun failure h => ?_) fun made s'' h => ?_
    · obtain ⟨more, ⟨r, mem, unresolved⟩ | ⟨⟨other, mem, unnamed⟩, marks⟩⟩ := h
      · exact ⟨(here grows).trans (there more), .inl ⟨r, List.mem_cons_of_mem _ mem, unresolved⟩⟩
      · exact ⟨(here grows).trans (there more),
          .inr ⟨⟨other, List.mem_cons_of_mem _ mem, unnamed⟩, marks⟩⟩
    · obtain ⟨more, others⟩ := h
      exact ensures_pure ⟨(here grows).trans (there more),
        .cons (more.extends.lookup? resolved) named others⟩
termination_by (remaining (declarations.map Declaration.key) path, 2, fields.length)

/-- **Making the body of a definition** resolves what the declaration refers to. -/
theorem bodyOn_ensures (declarations : List Declaration) (path : List DefinitionKey)
    (d : Declaration) {s : Registry} (wf : s.WellFormed) :
    Ensures (bodyOn declarations path d) s
      (fun body s' => Grows (Wanted declarations path d.references) s s' ∧ Describes s' d body)
      (fun failure => Grows (Wanted declarations path d.references) s failure.registry ∧
        Unmade declarations failure path d) := by
  cases d with
  | simple declaration =>
    rw [bodyOn]
    refine ensures_bind (resolveOn_ensures declarations path declaration.restriction.base wf)
      (fun failure h => ⟨h.1, .inl ⟨_, List.mem_singleton_self _, h.2⟩⟩) fun ref s' h => ?_
    obtain ⟨grows, resolved⟩ := h
    refine ensures_bind (simpleBase_ensures (grows.wellFormed wf) resolved)
      (fun failure h => ⟨h.1 ▸ grows, .inr h.2⟩) fun base s'' h => ?_
    obtain ⟨rfl, isBase⟩ := h
    exact ensures_pure ⟨grows, .simple resolved isBase⟩
  | complex declaration =>
    rw [bodyOn]
    refine ensures_bind (fieldsOn_ensures declarations path [] declaration.fields wf)
      (fun failure h => ?_) fun fields s' h => ensures_pure ⟨h.1, .complex h.2⟩
    obtain ⟨grows, unresolved | ⟨⟨e, mem, unnamed⟩, marks⟩⟩ := h
    · exact ⟨grows, .inl unresolved⟩
    · exact ⟨grows, .inr ⟨.fieldName mem unnamed, marks⟩⟩
  | element declaration =>
    rw [bodyOn]
    exact ensures_bind (resolveOn_ensures declarations path (typeOf declaration) wf)
      (fun failure h => ⟨h.1, .inl ⟨_, List.mem_singleton_self _, h.2⟩⟩)
      fun ref s' h => ensures_pure ⟨h.1, .element h.2⟩
termination_by (remaining (declarations.map Declaration.key) path, 3, 0)

end

/-- **Generating a declaration** adds it and what it refers to. -/
theorem generateOn_ensures (declarations : List Declaration) (path : List DefinitionKey)
    (d : Declaration) {s : Registry} (wf : s.WellFormed) :
    Ensures (generateOn declarations path d) s
      (fun ref s' => Grows (WantedFor declarations path d) s s' ∧ s'.lookup? d.key = some ref)
      (fun failure => Grows (WantedFor declarations path d) s failure.registry ∧
        Fails declarations failure path d) :=
  defining_ensures declarations fun _ => bodyOn_ensures declarations (d.key :: path) d wf

end Registry

end SchemaBinding
