import Mathlib.Data.List.Forall2
import SchemaBinding.Generator.Registry
import SchemaBinding.Schema.Reading

/-!
# Reading in a namespace that is taken over

A node is read in the namespace that is in force around it. When there is none,
or when a namespace is taken over from elsewhere, the declarations differ in
their namespaces alone (`parallel_readTopLevel`): what is declared, and what a
field refers to that has its type inside it, takes over the namespace, but
names that are written in attributes do not. So what is declared has the same
kind and local name in any namespace (`map_outline_of_forall₂`), and if all
names that are written have namespaces, then the namespace is taken over
throughout (`readTopLevel_under`).
-/

namespace SchemaBinding

/-! ## Taking over a namespace -/

/-- A name that takes over a namespace unless it has one. -/
def Xml.Name.under (name : Xml.Name) (outer : Option String) : Xml.Name :=
  ⟨name.namespaceName?.or outer, name.localName⟩

theorem Xml.Name.under_of_ne_none {name : Xml.Name} (h : name.namespaceName? ≠ none)
    (outer : Option String) :
    name.under outer = name := by
  obtain ⟨namespaceName?, localName⟩ := name
  cases namespaceName? with
  | none => exact absurd rfl h
  | some namespaceName => rfl

/-- An element that takes over a namespace, with the type that it refers to. -/
def ElementDeclaration.under (e : ElementDeclaration) (outer : Option String) :
    ElementDeclaration :=
  { e with namespaceName? := e.namespaceName?.or outer, type? := e.type?.map (·.under outer) }

/-- A declaration that takes over a namespace, with all that it refers to. -/
def Declaration.under (outer : Option String) : Declaration → Declaration
  | .simple d =>
    .simple { d with
      namespaceName? := d.namespaceName?.or outer
      restriction := { d.restriction with base := d.restriction.base.under outer } }
  | .complex d =>
    .complex { d with
      namespaceName? := d.namespaceName?.or outer
      fields := d.fields.map (·.under outer) }
  | .element e => .element (e.under outer)

namespace Schema

/-! ## Readings side by side -/

section Parallel

variable {α β γ δ : Type} {R : α → β → Prop} {S : γ → δ → Prop}

/-- Whether two readings fail for the same cause, or have results that are related. -/
inductive Parallel (R : α → β → Prop) : Except SchemaError α → Except SchemaError β → Prop
  | error (cause : SchemaError) : Parallel R (.error cause) (.error cause)
  | ok {a : α} {b : β} (related : R a b) : Parallel R (.ok a) (.ok b)

theorem Parallel.pure {a : α} {b : β} (related : R a b) : Parallel R (Pure.pure a) (Pure.pure b) :=
  .ok related

theorem Parallel.bind {x : Except SchemaError α} {y : Except SchemaError β}
    {f : α → Except SchemaError γ} {g : β → Except SchemaError δ} (first : Parallel R x y)
    (rest : ∀ a b, R a b → Parallel S (f a) (g b)) :
    Parallel S (x >>= f) (y >>= g) := by
  cases first with
  | error cause => exact .error cause
  | ok related => exact rest _ _ related

/-- Two readings that begin with the same one. -/
theorem Parallel.bind_same {x : Except SchemaError α} {f : α → Except SchemaError γ}
    {g : α → Except SchemaError δ} (rest : ∀ a, x = .ok a → Parallel S (f a) (g a)) :
    Parallel S (x >>= f) (x >>= g) := by
  cases x with
  | error cause => exact .error cause
  | ok a => exact rest a rfl

theorem Parallel.map {x : Except SchemaError α} {y : Except SchemaError β} {f : α → γ} {g : β → δ}
    (first : Parallel R x y) (rest : ∀ a b, R a b → S (f a) (g b)) :
    Parallel S (x.map f) (y.map g) := by
  cases first with
  | error cause => exact .error cause
  | ok related => exact .ok (rest _ _ related)

end Parallel

/-! ## What is read in a namespace that is taken over -/

/-- Whether an element writes a name in the attribute that refers to a type: the type of an element,
or the base of a restriction. -/
def Writes (e : Xml.Element) (name : Xml.Name) : Prop :=
  e.localName = "element" ∧ nameValue? e "type" = .ok (some name) ∨
    e.localName = "restriction" ∧ nameValue? e "base" = .ok (some name)

section Under

variable (W : Xml.Name → Prop) (outer : Option String)

/-- The name of a type, when a namespace is taken over: a written name stays as it is, that of a
type inside a field takes over the namespace. -/
inductive NameUnder : Xml.Name → Xml.Name → Prop
  | written {name : Xml.Name} (allowed : W name) : NameUnder name name
  | inner (name : Xml.Name) : NameUnder name (name.under outer)

/-- An element, when a namespace is taken over. -/
structure ElementUnder (e e' : ElementDeclaration) : Prop where
  others : e' = { e with namespaceName? := e.namespaceName?.or outer, type? := e'.type? }
  types : ∃ type type', e.type? = some type ∧ e'.type? = some type' ∧ NameUnder W outer type type'

/-- A declaration, when a namespace is taken over. -/
inductive DeclarationUnder : Declaration → Declaration → Prop
  | simple (d : SimpleDeclaration) (allowed : W d.restriction.base) :
      DeclarationUnder (.simple d) (.simple { d with namespaceName? := d.namespaceName?.or outer })
  | complex (d : ComplexDeclaration) {fields : List ElementDeclaration}
      (related : List.Forall₂ (ElementUnder W outer) d.fields fields) :
      DeclarationUnder (.complex d)
      (.complex { d with namespaceName? := d.namespaceName?.or outer, fields })
  | element {e e' : ElementDeclaration} (related : ElementUnder W outer e e') :
      DeclarationUnder (.element e) (.element e')

/-- What is read from the content of a complex type, when a namespace is taken over. -/
structure ReadingUnder (reading reading' : FieldReading) : Prop where
  inner : List.Forall₂ (DeclarationUnder W outer) reading.inner reading'.inner
  fields : List.Forall₂ (ElementUnder W outer) reading.fields reading'.fields

/-- What a child of a schema asks for, when a namespace is taken over. -/
inductive TopLevelUnder : TopLevel → TopLevel → Prop
  | declares {declarations declarations' : List Declaration}
      (related : List.Forall₂ (DeclarationUnder W outer) declarations declarations') :
      TopLevelUnder (.declares declarations) (.declares declarations')
  | imports (namespaceName? location? : Option String) :
      TopLevelUnder (.imports namespaceName? location?) (.imports namespaceName? location?)
  | includes (location : String) : TopLevelUnder (.includes location) (.includes location)

end Under

variable {W : Xml.Name → Prop} {outer : Option String}

theorem ReadingUnder.none : ReadingUnder W outer .none .none := ⟨.nil, .nil⟩

theorem ReadingUnder.append {a a' b b' : FieldReading} (ha : ReadingUnder W outer a a')
    (hb : ReadingUnder W outer b b') : ReadingUnder W outer (a ++ b) (a' ++ b') :=
  ⟨List.rel_append ha.inner hb.inner, List.rel_append ha.fields hb.fields⟩

/-- A complex type takes over the namespace like what is inside it. -/
theorem ReadingUnder.asType {a a' : FieldReading} (h : ReadingUnder W outer a a') (name : String)
    (namespaceName? : Option String) :
    List.Forall₂ (DeclarationUnder W outer) (a.asType name namespaceName?)
      (a'.asType name (namespaceName?.or outer)) :=
  List.rel_append h.inner (.cons (.complex ⟨name, namespaceName?, a.fields⟩ h.fields) .nil)

/-- The namespace of what an element declares is its own one, or is taken over. -/
theorem ownNamespace_or (e : Xml.Element) (namespaceName? outer : Option String) :
    ownNamespace e (namespaceName?.or outer) = (ownNamespace e namespaceName?).or outer := by
  rw [ownNamespace, ownNamespace, Option.or_assoc]

theorem parallel_withOccurs {e e' : ElementDeclaration} (h : ElementUnder W outer e e')
    (min : Nat) (max : MaxOccurs) :
    Parallel (ElementUnder W outer) (e.withOccurs min max) (e'.withOccurs min max) := by
  obtain ⟨others, type, type', found, found', related⟩ := h
  rw [others]
  cases max with
  | unbounded => exact .ok ⟨rfl, type, type', found, found', related⟩
  | count most =>
    unfold ElementDeclaration.withOccurs
    dsimp only
    split
    · exact .error _
    · exact .ok ⟨rfl, type, type', found, found', related⟩

/-! ## Simple types and fields -/

/-- The names that are written in an element and in those below it. -/
def WritesOnly (W : Xml.Name → Prop) (e : Xml.Element) : Prop :=
  ∀ below ∈ e.descendants, ∀ name, Writes below name → W name

theorem mem_descendants_self (e : Xml.Element) : e ∈ e.descendants := by
  cases e
  exact List.mem_cons_self ..

theorem mem_contentDescendants {content : List Xml.Content} {child below : Xml.Element}
    (mem : child ∈ content.filterMap Xml.Content.element?) (h : below ∈ child.descendants) :
    below ∈ Xml.contentDescendants content := by
  induction content with
  | nil => cases mem
  | cons piece rest ih =>
    cases piece with
    | element e =>
      rw [Xml.contentDescendants, List.mem_append]
      rcases List.mem_cons.1 mem with rfl | later
      · exact .inl h
      · exact .inr (ih later)
    | text s => exact ih mem
    | comment s => exact ih mem
    | instruction target value => exact ih mem

/-- What is below a child is below the element. -/
theorem mem_descendants_of_mem_children {e child below : Xml.Element} (mem : child ∈ e.children)
    (h : below ∈ child.descendants) : below ∈ e.descendants := by
  cases e
  exact List.mem_cons_of_mem _ (mem_contentDescendants mem h)

theorem WritesOnly.of_mem_children {e child : Xml.Element} (h : WritesOnly W e)
    (mem : child ∈ e.children) :
    WritesOnly W child :=
  fun below ofChild => h below (mem_descendants_of_mem_children mem ofChild)

theorem WritesOnly.of_find? {e child : Xml.Element} {namespaceName localName : String}
    (h : WritesOnly W e) (found : e.find? namespaceName localName = some child) :
    WritesOnly W child ∧ child.localName = localName := by
  refine ⟨h.of_mem_children (List.mem_of_find?_eq_some found), ?_⟩
  have named := List.find?_some found
  rw [Xml.Element.isNamed, Bool.and_eq_true, beq_iff_eq] at named
  exact named.1

/-- The base of a restriction is a name that it writes. -/
theorem base_of_readRestriction {e : Xml.Element} {restriction : Restriction} (h : WritesOnly W e)
    (localName : e.localName = "restriction") (read : readRestriction e = .ok restriction) :
    W restriction.base := by
  obtain ⟨base?, written, read⟩ := exists_of_bind_eq_ok read
  cases base? with
  | none => cases read
  | some base =>
    obtain ⟨facets, -, read⟩ := exists_of_bind_eq_ok read
    obtain rfl := Except.ok.inj read
    exact h e (mem_descendants_self e) base (.inr ⟨localName, written⟩)

/-- **A simple type takes over the namespace**, but not its base. -/
theorem parallel_readSimple {e : Xml.Element} (h : WritesOnly W e) (name : String)
    (namespaceName? : Option String) :
    Parallel (fun d d' => DeclarationUnder W outer (.simple d) (.simple d'))
      (readSimple e name namespaceName?)
      (readSimple e name (namespaceName?.or outer)) := by
  unfold readSimple
  cases found : e.find? schemaNamespace "restriction" with
  | none => exact .error _
  | some restriction =>
    obtain ⟨below, localName⟩ := h.of_find? found
    refine .bind_same fun r read => .pure ?_
    exact .simple ⟨name, namespaceName?, r⟩ (base_of_readRestriction below localName read)

/-- The field of an element, given the declarations of the types inside it and its type. -/
def fieldOf (e : Xml.Element) (name : String) (namespaceName? : Option String)
    (inner : List Declaration) (type : Xml.Name) : Except SchemaError FieldReading :=
  do
  let nillable ← truthValue e "nillable"
  let min ← countValue e "minOccurs"
  let max ← boundValue e "maxOccurs"
  let field : ElementDeclaration :=
    { name, namespaceName?, type? := some type, default := e.valueOf? "default", nillable }
  return ⟨inner, [← field.withOccurs min max]⟩

theorem parallel_fieldOf (e : Xml.Element) (name : String) (namespaceName? : Option String)
    {inner inner' : List Declaration} {type type' : Xml.Name}
    (below : List.Forall₂ (DeclarationUnder W outer) inner inner')
    (related : NameUnder W outer type type') :
    Parallel (ReadingUnder W outer) (fieldOf e name namespaceName? inner type)
      (fieldOf e name (namespaceName?.or outer) inner' type') := by
  unfold fieldOf
  refine .bind_same fun nillable _ => .bind_same fun min _ => .bind_same fun max _ => ?_
  refine .bind (parallel_withOccurs ⟨rfl, type, type', rfl, rfl, related⟩ min max)
    fun field field' h => .pure ?_
  exact ⟨below, .cons h .nil⟩

/-- **A field takes over the namespace**, with the type inside it if it has one. -/
theorem parallel_readField {e : Xml.Element}
    {innerComplex : Option (String → Option String → Except SchemaError FieldReading)}
    (h : WritesOnly W e)
    (localName : e.localName = "element")
    (inside : ∀ read, innerComplex = some read → ∀ typeName namespaceName?,
      Parallel (ReadingUnder W outer) (read typeName namespaceName?)
        (read typeName (namespaceName?.or outer)))
    (typeName : String) (namespaceName? : Option String) :
    Parallel (ReadingUnder W outer) (readField e typeName namespaceName? innerComplex)
      (readField e typeName (namespaceName?.or outer) innerComplex) := by
  unfold readField
  refine .bind_same fun name _ => .bind_same fun type? read => ?_
  rw [ownNamespace_or]
  cases type? with
  | some type =>
    have allowed : W type := h e (mem_descendants_self e) type (.inl ⟨localName, read⟩)
    exact parallel_fieldOf e name (ownNamespace e namespaceName?) .nil (.written allowed)
  | none =>
    cases innerComplex with
    | some read =>
      refine .bind (inside read rfl _ _) fun reading reading' related => ?_
      exact parallel_fieldOf e name (ownNamespace e namespaceName?) (related.asType _ _)
        (.inner ⟨_, _⟩)
    | none =>
      cases found : e.find? schemaNamespace "simpleType" with
      | some simple =>
        refine .bind (parallel_readSimple (h.of_find? found).1 _ _) fun d d' related => ?_
        exact parallel_fieldOf e name (ownNamespace e namespaceName?) (.cons related .nil)
          (.inner ⟨_, _⟩)
      | none => exact parallel_fieldOf e name (ownNamespace e namespaceName?) .nil (.inner ⟨_, _⟩)

/-! ## Complex types -/

mutual

/-- **A complex type takes over the namespace** throughout, by the recursion of the reading. -/
theorem parallel_readComplex (e : Xml.Element) (h : WritesOnly W e) (typeName : String)
    (namespaceName? : Option String) :
    Parallel (ReadingUnder W outer) (readComplex e typeName namespaceName?)
      (readComplex e typeName (namespaceName?.or outer)) := by
  match e with
  | .mk _ _ _ content =>
    rw [readComplex, readComplex]
    exact parallel_readSequences content (fun below mem => h below (List.mem_cons_of_mem _ mem))
      typeName namespaceName?

theorem parallel_readSequences (content : List Xml.Content)
    (h : ∀ below ∈ Xml.contentDescendants content, ∀ name, Writes below name → W name)
    (typeName : String) (namespaceName? : Option String) :
    Parallel (ReadingUnder W outer) (readSequences content typeName namespaceName?)
      (readSequences content typeName (namespaceName?.or outer)) := by
  match content with
  | [] =>
    rw [readSequences, readSequences]
    exact .ok .none
  | .element e :: rest =>
    have later : Parallel (ReadingUnder W outer) (readSequences rest typeName namespaceName?)
        (readSequences rest typeName (namespaceName?.or outer)) :=
      parallel_readSequences rest (fun below mem => h below (List.mem_append_right _ mem))
        typeName namespaceName?
    rw [readSequences, readSequences]
    split
    · refine .bind (parallel_readSequence e (fun below mem => h below (List.mem_append_left _ mem))
        typeName namespaceName?) fun _ _ here => ?_
      exact .bind later fun _ _ others => .pure (here.append others)
    · have nothing : ReadingUnder W outer .none .none := .none
      exact .bind (.pure nothing) fun _ _ here => .bind later fun _ _ others =>
        .pure (here.append others)
  | .text _ :: rest | .comment _ :: rest | .instruction _ _ :: rest =>
    rw [readSequences, readSequences]
    exact parallel_readSequences rest h typeName namespaceName?

theorem parallel_readSequence (e : Xml.Element) (h : WritesOnly W e) (typeName : String)
    (namespaceName? : Option String) :
    Parallel (ReadingUnder W outer) (readSequence e typeName namespaceName?)
      (readSequence e typeName (namespaceName?.or outer)) := by
  match e with
  | .mk _ _ _ content =>
    rw [readSequence, readSequence]
    exact parallel_readItems content (fun below mem => h below (List.mem_cons_of_mem _ mem))
      typeName namespaceName?

theorem parallel_readItems (content : List Xml.Content)
    (h : ∀ below ∈ Xml.contentDescendants content, ∀ name, Writes below name → W name)
    (typeName : String) (namespaceName? : Option String) :
    Parallel (ReadingUnder W outer) (readItems content typeName namespaceName?)
      (readItems content typeName (namespaceName?.or outer)) := by
  match content with
  | [] =>
    rw [readItems, readItems]
    exact .ok .none
  | .element e :: rest =>
    have later : Parallel (ReadingUnder W outer) (readItems rest typeName namespaceName?)
        (readItems rest typeName (namespaceName?.or outer)) :=
      parallel_readItems rest (fun below mem => h below (List.mem_append_right _ mem))
        typeName namespaceName?
    rw [readItems, readItems]
    split
    · next localName =>
      refine .bind (parallel_readItem e (fun below mem => h below (List.mem_append_left _ mem))
        localName typeName namespaceName?) fun _ _ here => ?_
      exact .bind later fun _ _ others => .pure (here.append others)
    · have nothing : ReadingUnder W outer .none .none := .none
      exact .bind (.pure nothing) fun _ _ here => .bind later fun _ _ others =>
        .pure (here.append others)
  | .text _ :: rest | .comment _ :: rest | .instruction _ _ :: rest =>
    rw [readItems, readItems]
    exact parallel_readItems rest h typeName namespaceName?

theorem parallel_readItem (e : Xml.Element) (h : WritesOnly W e)
    (localName : e.localName = "element") (typeName : String) (namespaceName? : Option String) :
    Parallel (ReadingUnder W outer) (readItem e typeName namespaceName?)
      (readItem e typeName (namespaceName?.or outer)) := by
  match e with
  | .mk _ _ _ content =>
    rw [readItem, readItem]
    exact parallel_readField h localName
      (parallel_firstComplex content fun below mem => h below (List.mem_cons_of_mem _ mem))
        typeName namespaceName?

theorem parallel_firstComplex (content : List Xml.Content)
    (h : ∀ below ∈ Xml.contentDescendants content, ∀ name, Writes below name → W name) :
    ∀ read, firstComplex content = some read → ∀ typeName namespaceName?,
      Parallel (ReadingUnder W outer) (read typeName namespaceName?)
        (read typeName (namespaceName?.or outer)) := by
  match content with
  | [] =>
    intro read found
    rw [firstComplex] at found
    cases found
  | .element e :: rest =>
    intro read found
    rw [firstComplex] at found
    split at found
    · cases found
      exact parallel_readComplex e fun below mem => h below (List.mem_append_left _ mem)
    · exact parallel_firstComplex rest (fun below mem => h below (List.mem_append_right _ mem))
        read found
  | .text _ :: rest | .comment _ :: rest | .instruction _ _ :: rest =>
    intro read found
    rw [firstComplex] at found
    exact parallel_firstComplex rest h read found

end

/-! ## The top level -/

theorem parallel_readElement {e : Xml.Element} (h : WritesOnly W e)
    (localName : e.localName = "element") (namespaceName? : Option String) :
    Parallel (List.Forall₂ (DeclarationUnder W outer)) (readElement e namespaceName?)
      (readElement e (namespaceName?.or outer)) := by
  unfold readElement
  refine .bind_same fun name _ => .bind_same fun type? read => ?_
  rw [ownNamespace_or]
  cases type? with
  | some type =>
    have allowed : W type := h e (mem_descendants_self e) type (.inl ⟨localName, read⟩)
    refine .bind_same fun nillable _ => .pure (.cons (.element ⟨rfl, ?_⟩) .nil)
    exact ⟨type, type, rfl, rfl, .written allowed⟩
  | none =>
    cases found : e.find? schemaNamespace "complexType" with
    | none => exact .error _
    | some complex =>
      dsimp only
      split
      · refine .bind (parallel_readComplex complex (h.of_find? found).1 _ _)
          fun reading reading' related => ?_
        exact .pure (related.asType _ _)
      · exact .error _

/-- **What a child of a schema asks for** is the same in any namespace, but for the namespaces of
what it declares. -/
theorem parallel_readTopLevel {e : Xml.Element} (h : WritesOnly W e)
    (namespaceName? : Option String) :
    Parallel (TopLevelUnder W outer) (readTopLevel e namespaceName?)
      (readTopLevel e (namespaceName?.or outer)) := by
  unfold readTopLevel
  split
  · exact .error _
  · split
    · exact .ok (.imports _ _)
    · cases readInclude e with
      | error cause => exact .error cause
      | ok location => exact .ok (.includes location)
    · next localName =>
        exact .map (parallel_readElement h localName namespaceName?) fun _ _ => .declares
    · refine .bind_same fun name _ => ?_
      rw [ownNamespace_or]
      refine .bind (parallel_readSimple h name (ownNamespace e namespaceName?)) fun d d' related =>
        .pure ?_
      exact .declares (.cons related .nil)
    · refine .bind_same fun name _ => ?_
      rw [ownNamespace_or]
      refine .bind (parallel_readComplex e h name (ownNamespace e namespaceName?))
        fun reading reading' related => ?_
      exact .pure (.declares (related.asType _ _))
    · exact .ok (.declares .nil)
    · exact .ok (.declares .nil)
    · exact .error _

/-! ## Kinds and names -/

/-- The kind and the local name of what is declared. The kinds may be told apart more or less
finely. -/
def outline {κ : Type} (kind : Naming.Kind → κ) (d : Declaration) : κ × String :=
  (kind d.namingKind, d.localName)

theorem DeclarationUnder.outline_eq {κ : Type} (kind : Naming.Kind → κ) {d d' : Declaration}
    (h : DeclarationUnder W outer d d') : outline kind d' = outline kind d := by
  cases h with
  | simple d _ => rfl
  | complex d _ => rfl
  | element related =>
    rw [related.others]
    rfl

theorem map_outline_of_forall₂ {κ : Type} (kind : Naming.Kind → κ)
    {declarations declarations' : List Declaration}
    (h : List.Forall₂ (DeclarationUnder W outer) declarations declarations') :
    declarations'.map (outline kind) = declarations.map (outline kind) := by
  induction h with
  | nil => rfl
  | cons related _ ih => rw [List.map_cons, List.map_cons, related.outline_eq, ih]

/-! ## Names with namespaces -/

/-- Whether all names that are written in an element and below it have namespaces. -/
def IsQualified (e : Xml.Element) : Prop := WritesOnly (fun name => name.namespaceName? ≠ none) e

/-- What is related to the elements of a list by a function is their image. -/
theorem eq_map_of_forall₂ {α β : Type} {R : α → β → Prop} {f : α → β} {before : List α}
    {after : List β} (h : List.Forall₂ R before after) (eq : ∀ a b, R a b → b = f a) :
    after = before.map f := by
  induction h with
  | nil => rfl
  | cons related _ ih => rw [List.map_cons, eq _ _ related, ih]

/-- Names that are written can be looked up in a tree. -/
theorem isQualified_of_all {e : Xml.Element}
    (h : e.descendants.all (fun below => ["type", "base"].all fun value =>
    (nameValue? below value).toOption.join.all fun name => name.namespaceName?.isSome) = true) :
      IsQualified e := by
  rw [List.all_eq_true] at h
  have qualified : ∀ below ∈ e.descendants, ∀ value ∈ ["type", "base"], ∀ name,
      nameValue? below value = .ok (some name) → name.namespaceName? ≠ none := by
    intro below mem value written name found
    have holds := List.all_eq_true.1 (h below mem) value written
    rw [found] at holds
    exact Option.isSome_iff_ne_none.1 holds
  rintro below mem name (⟨-, found⟩ | ⟨-, found⟩)
  · exact qualified below mem "type" (List.mem_cons_self ..) name found
  · exact qualified below mem "base" (List.mem_cons_of_mem _ (List.mem_singleton_self _)) name found

theorem NameUnder.eq_under {name name' : Xml.Name}
    (h : NameUnder (fun name => name.namespaceName? ≠ none) outer name name') :
    name' = name.under outer := by
  cases h with
  | written qualified => exact (Xml.Name.under_of_ne_none qualified outer).symm
  | inner => rfl

theorem ElementUnder.eq_under {e e' : ElementDeclaration}
    (h : ElementUnder (fun name => name.namespaceName? ≠ none) outer e e') :
    e' = e.under outer := by
  obtain ⟨others, type, type', found, found', related⟩ := h
  rw [others, found', related.eq_under, ElementDeclaration.under, found]
  rfl

/-- With names that have namespaces, the namespace is taken over throughout. -/
theorem DeclarationUnder.eq_under {d d' : Declaration}
    (h : DeclarationUnder (fun name => name.namespaceName? ≠ none) outer d d') :
    d' = d.under outer := by
  cases h with
  | simple d qualified => rw [Declaration.under, Xml.Name.under_of_ne_none qualified]
  | @complex d fields related =>
    rw [Declaration.under, eq_map_of_forall₂ related fun _ _ => ElementUnder.eq_under]
  | element related => rw [Declaration.under, related.eq_under]

/-- **A namespace is taken over throughout** when all names that are written have namespaces. -/
theorem readTopLevel_under {e : Xml.Element} (h : IsQualified e) {declarations : List Declaration}
    (read : readTopLevel e none = .ok (.declares declarations)) (outer : Option String) :
    readTopLevel e outer = .ok (.declares (declarations.map (·.under outer))) := by
  have parallel : Parallel (TopLevelUnder _ outer) (readTopLevel e none) (readTopLevel e outer) :=
    parallel_readTopLevel h none
  rw [read] at parallel
  generalize readTopLevel e outer = result at parallel
  cases parallel with
  | ok related =>
    cases related with
    | declares related => rw [eq_map_of_forall₂ related fun _ _ => DeclarationUnder.eq_under]

end Schema

end SchemaBinding
