import SchemaBinding.Proofs.Registry.Success

/-!
# Steps without memory

What a registry remembers of earlier steps saves work and changes no outcome.
To say so, steps are judged without any memory but that of one registry, which
stays as it is: `judge` goes along all references again and again, where
`resolveOn` defines a type once. In a registry that has grown from the first one
by the first types with their names, a step still fails if and only if it is
judged to, with the same cause and the same marks (`resolveOn_isJudged`). For
what has been defined since then has nothing at fault in it
(`judge_eq_ok_of_lookup?`).
-/

namespace SchemaBinding

namespace Registry

/-! ## Judgements -/

/-- What is said about a step that fails: its cause, and the keys of the declarations on the way. -/
structure Complaint where
  cause : GenerateError
  marks : List DefinitionKey

/-- What is said about a failure. -/
def Failure.complaint (failure : Failure) : Complaint := ⟨failure.cause, failure.marks⟩

/-- The judgement on something that may fail by itself. -/
def judgeLift {α : Type} (path : List DefinitionKey) :
    Except GenerateError α → Except Complaint Unit
  | .ok _ => .ok ()
  | .error cause => .error ⟨cause, path⟩

/-- The judgement on a declaration that has not been turned into a definition. -/
def judgeDefining (path : List DefinitionKey) (d : Declaration)
    (make : d.key ∉ path → Except Complaint Unit) :
    Except Complaint Unit :=
  if met : d.key ∈ path then .error ⟨.recursiveType d.name, path⟩
  else do
    make met
    judgeLift (d.key :: path) (Naming.typeName d.localName d.namingKind)

/-- Whether a name is that of a simple type: one that a registry has resolved, or else a declared
one. -/
def isSimpleNamed (declarations : List Declaration) (s : Registry) (name : Xml.Name) : Bool :=
  match s.lookup? ⟨true, name⟩ with
  | some (.builtin _) => true
  | some (.generated i) => (s.definitions[i]?).any Definition.isSimple
  | none => (firstType? declarations name).any fun first => first.val.isSimple

/-- The judgement on the fields of a structured type, given the judgement on names. -/
def judgeFields (path : List DefinitionKey) (judge : Xml.Name → Except Complaint Unit) :
    List ElementDeclaration → Except Complaint Unit
  | [] => .ok ()
  | e :: rest => do
    judge (typeOf e)
    judgeLift path (Naming.fieldName e.name)
    judgeFields path judge rest

/-- The judgement on what a declaration says, given the judgement on names. -/
def judgeBody (declarations : List Declaration) (s : Registry) (path : List DefinitionKey)
    (judge : Xml.Name → Except Complaint Unit) : Declaration → Except Complaint Unit
  | .simple simple => do
    judge simple.restriction.base
    if isSimpleNamed declarations s simple.restriction.base then .ok ()
    else .error ⟨.complexBase (Declaration.simple simple).name simple.restriction.base, path⟩
  | .complex complex => judgeFields path judge complex.fields
  | .element element => judge (typeOf element)

/-- The judgement on the name of a type, in a registry that stays as it is. -/
def judge (declarations : List Declaration) (s : Registry) (path : List DefinitionKey)
    (name : Xml.Name) :
    Except Complaint Unit :=
  match s.lookup? ⟨true, name⟩ with
  | some _ => .ok ()
  | none =>
    match firstType? declarations name with
    | some d => judgeDefining path d.val fun _ =>
        judgeBody declarations s (d.val.key :: path)
          (fun r => judge declarations s (d.val.key :: path) r) d.val
    | none => .error ⟨.typeNotFound name, path⟩
termination_by remaining (declarations.map Declaration.key) path
decreasing_by exact remaining_cons_lt (List.mem_map_of_mem d.property) ‹_›

/-! ## What has been defined -/

variable {declarations : List Declaration} {base s s' : Registry} {path : List DefinitionKey}
  {d : Declaration} {name : Xml.Name} {p : Declaration → Prop}

/-- **A key that has been resolved in the meantime** leads to what a declaration says that has been
added, and that a name can be derived for. -/
theorem Grows.exists_of_new (h : Grows p s s') {key : DefinitionKey} (new : s.lookup? key = none)
    {i : Nat} (resolved : s'.lookup? key = some (.generated i)) :
    ∃ d definition, p d ∧ d.key = key ∧ s'.definitions[i]? = some definition ∧
      Describes s' d definition.body ∧
      ∃ derived, Naming.typeName d.localName d.namingKind = .ok derived := by
  induction h with
  | refl => cases new.symm.trans resolved
  | tail _ adds ih =>
    obtain ⟨d, hd, adds⟩ := adds
    have more := adds.extends
    by_cases same : key = d.key
    · subst same
      obtain rfl := TypeRef.generated.inj (Option.some.inj (resolved.symm.trans adds.lookup?_self))
      obtain ⟨-, describes, named⟩ := adds
      exact ⟨d, _, hd, rfl, by rw [add, List.getElem?_concat_length], describes.mono more, _, named⟩
    · rw [adds.lookup?_of_ne same] at resolved
      obtain ⟨other, definition, hother, key, found, describes, named⟩ := ih resolved
      exact ⟨other, definition, hother, key, more.getElem? found, describes.mono more, named⟩

/-- The first type with a name that has been resolved in the meantime. -/
theorem exists_first_of_new (grown : Grows (IsFirst declarations) base s)
    (new : base.lookup? ⟨true, name⟩ = none) {i : Nat}
    (resolved : s.lookup? ⟨true, name⟩ = some (.generated i)) :
    ∃ first definition, firstType? declarations name = some first ∧
      s.definitions[i]? = some definition ∧
      Describes s first.val definition.body ∧
      ∃ derived, Naming.typeName first.val.localName first.val.namingKind = .ok derived := by
  obtain ⟨d, definition, isFirst, key, found, describes, named⟩ := grown.exists_of_new new resolved
  obtain ⟨first, isFirst, rfl⟩ := isFirst (congrArg DefinitionKey.isType key)
  rw [show first.val.name = name from congrArg DefinitionKey.name key] at isFirst
  exact ⟨first, definition, isFirst, found, describes, named⟩

theorem isSimpleNamed_of_builtin {b : Builtin} (h : builtinNamed? name = some b) :
    isSimpleNamed declarations base name = true := by
  rw [isSimpleNamed, lookup?_of_builtin base h]

/-- **Whether a definition is simple** is known from the beginning, or from the declaration. -/
theorem isSimpleNamed_eq (wf : base.WellFormed) (grown : Grows (IsFirst declarations) base s)
    {i : Nat} {definition : Definition} (resolved : s.lookup? ⟨true, name⟩ = some (.generated i))
    (found : s.definitions[i]? = some definition) :
    isSimpleNamed declarations base name = definition.isSimple := by
  unfold isSimpleNamed
  split
  · next b before => cases resolved.symm.trans (grown.extends.lookup? before)
  · next j before =>
    obtain rfl := TypeRef.generated.inj
      (Option.some.inj (resolved.symm.trans (grown.extends.lookup? before)))
    obtain ⟨definition', found', -⟩ := wf.known _ _ before
    obtain rfl := Option.some.inj (found.symm.trans (grown.extends.getElem? found'))
    rw [found', Option.any_some]
  · next new =>
    obtain ⟨first, definition', isFirst, found', describes, -⟩ :=
      exists_first_of_new grown new resolved
    obtain rfl := Option.some.inj (found.symm.trans found')
    rw [isFirst, Option.any_some, describes.isSimple_eq]

theorem FieldsOf.judgeFields_eq_ok {taken : List String} {elements : List ElementDeclaration}
    {fields : List FieldDefinition} (h : FieldsOf s taken elements fields)
    {judge : Xml.Name → Except Complaint Unit}
    (judged : ∀ r ∈ elements.map typeOf, judge r = .ok ()) :
    judgeFields path judge elements = .ok () := by
  induction h with
  | nil => rfl
  | cons _ named _ ih =>
    rw [List.map_cons, List.forall_mem_cons] at judged
    rw [judgeFields, judged.1, named]
    exact ih judged.2

/-- What has been said about a declaration can be said again, if this holds of what it refers to. -/
theorem Describes.judgeBody_eq_ok (wf : base.WellFormed)
    (grown : Grows (IsFirst declarations) base s) {body : DefinitionBody} (h : Describes s d body)
    {judge : Xml.Name → Except Complaint Unit} (judged : ∀ r ∈ d.references, judge r = .ok ()) :
    judgeBody declarations base path judge d = .ok () := by
  cases h with
  | @simple declaration ref type resolved isBase =>
    have simple : isSimpleNamed declarations base declaration.restriction.base = true := by
      cases isBase with
      | anyType => exact isSimpleNamed_of_builtin ((grown.wellFormed wf).builtins _ _ resolved).2
      | builtin type =>
        exact isSimpleNamed_of_builtin ((grown.wellFormed wf).builtins _ _ resolved).2
      | generated found simple => rw [isSimpleNamed_eq wf grown resolved found, simple]
    rw [judgeBody, judged _ (List.mem_singleton_self _), simple]
    rfl
  | complex fieldsOf => exact fieldsOf.judgeFields_eq_ok judged
  | element resolved => exact judged _ (List.mem_singleton_self _)

theorem judge_of_lookup? {ref : TypeRef} (resolved : base.lookup? ⟨true, name⟩ = some ref) :
    judge declarations base path name = .ok () := by
  rw [judge, resolved]

/-- **What has been defined has nothing at fault in it.** It is judged so again, on a way that has
entered nothing before it. -/
theorem judge_eq_ok_of_lookup? (wf : base.WellFormed) (grown : Grows (IsFirst declarations) base s)
    {ref : TypeRef} (resolved : s.lookup? ⟨true, name⟩ = some ref)
    (later : ∀ key ∈ path, ∀ j, s.lookup? key = some (.generated j) →
      ∀ i, ref = .generated i → i < j) :
    judge declarations base path name = .ok () := by
  have builtin : ∀ {name b path}, s.lookup? ⟨true, name⟩ = some (.builtin b) →
      judge declarations base path name = .ok () := fun resolved =>
    judge_of_lookup? (lookup?_of_builtin base ((grown.wellFormed wf).builtins _ _ resolved).2)
  cases ref with
  | builtin b => exact builtin resolved
  | generated i =>
    induction i using Nat.strongRecOn generalizing name path with
    | ind i ih =>
      cases known : base.lookup? ⟨true, name⟩ with
      | some ref => exact judge_of_lookup? known
      | none =>
        obtain ⟨first, definition, isFirst, found, describes, derived, named⟩ :=
          exists_first_of_new grown known resolved
        have key : first.val.key = ⟨true, name⟩ := key_of_firstType? isFirst
        have new : first.val.key ∉ path := fun met =>
          Nat.lt_irrefl i (later _ met i (key ▸ resolved) i rfl)
        have references : ∀ r ∈ first.val.references,
            judge declarations base (first.val.key :: path) r = .ok () := by
          intro r mem
          obtain ⟨ref, resolvedRef, before⟩ :=
            describes.exists_reference ((grown.wellFormed wf).sound i definition found) mem
          cases ref with
          | builtin b => exact builtin resolvedRef
          | generated j =>
            have earlier : j < i := before j rfl
            refine ih j earlier resolvedRef (List.forall_mem_cons.2 ⟨?_, ?_⟩)
            · rintro k entered _ ⟨⟩
              obtain rfl := TypeRef.generated.inj
                (Option.some.inj (resolved.symm.trans (key ▸ entered)))
              exact earlier
            · rintro key' mem k entered _ ⟨⟩
              exact Nat.lt_trans earlier (later key' mem k entered i rfl)
        rw [judge, known, isFirst]
        simp only [judgeDefining, dif_neg new, describes.judgeBody_eq_ok wf grown references, named]
        rfl

/-! ## Steps are as they are judged -/

/-- Whether none of some keys has been resolved. -/
def Lacks (s : Registry) (keys : List DefinitionKey) : Prop := ∀ key ∈ keys, s.lookup? key = none

/-- Whether a step fails if and only if it is judged to, and leaves marks that have not been
resolved. -/
def IsJudged {α : Type} (step : Step α) (s : Registry) (judgement : Except Complaint Unit) : Prop :=
  Ensures step s (fun _ _ => judgement = .ok ())
    fun failure => judgement = .error failure.complaint ∧ failure.registry.Lacks failure.marks

section

variable {α β : Type} {judgement rest : Except Complaint Unit}

theorem judgement_bind_ok (judgement : Except Complaint Unit) :
    (do judgement; .ok ()) = judgement := by
  cases judgement <;> rfl

theorem isJudged_pure (a : α) : IsJudged (pure a) s (.ok ()) := ensures_pure rfl

theorem isJudged_fail (lacks : s.Lacks path) (cause : GenerateError) :
    IsJudged (fail path cause : Step α) s (.error ⟨cause, path⟩) := ensures_fail ⟨rfl, lacks⟩

theorem isJudged_get_bind {next : Registry → Step α} (h : IsJudged (next s) s judgement) :
    IsJudged (get >>= next) s judgement := ensures_get_bind h

theorem isJudged_set_bind {next : PUnit → Step α} (h : IsJudged (next ⟨⟩) s' judgement) :
    IsJudged (set s' >>= next) s judgement := ensures_set_bind h

/-- **One step after another**, given what the first one does. -/
theorem isJudged_bind {step : Step α} {next : α → Step β} {done : α → Registry → Prop}
    {failed : Failure → Prop} (first : IsJudged step s judgement)
    (does : Ensures step s done failed) (others : ∀ a s', done a s' → IsJudged (next a) s' rest) :
    IsJudged (step >>= next) s (do judgement; rest) := by
  unfold IsJudged Ensures at *
  rw [StateT.run_bind]
  cases outcome : step.run s with
  | ok result =>
    rw [outcome] at first does
    rw [first]
    exact others _ _ does
  | error failure =>
    rw [outcome] at first
    obtain ⟨complains, lacks⟩ := first
    rw [complains]
    exact ⟨rfl, lacks⟩

theorem isJudged_lift_bind (lacks : s.Lacks path) {result : Except GenerateError β}
    {next : β → Step α} (others : ∀ b, result = .ok b → IsJudged (next b) s rest) :
    IsJudged (lift path result >>= next) s (do judgeLift path result; rest) := by
  cases result with
  | ok b => exact others b rfl
  | error cause => exact isJudged_fail lacks cause

end

/-- A registry on the way: it has grown by the first types with their names, and has resolved
nothing on the way. -/
structure IsUnderWay (declarations : List Declaration) (base : Registry)
    (path : List DefinitionKey) (s : Registry) : Prop where
  grown : Grows (IsFirst declarations) base s
  lacks : s.Lacks path

/-- Whether a declaration is the first type with its name. -/
def IsFirstType (declarations : List Declaration) (d : Declaration) : Prop :=
  d.isType = true ∧ IsFirst declarations d

/-- What is needed for a name are the first types with their names. -/
theorem Needs.isFirstType (h : Needs declarations name d) : IsFirstType declarations d := by
  induction h with
  | here _ found => exact ⟨congrArg DefinitionKey.isType (key_of_firstType? found),
      isFirst_of_firstType? found⟩
  | there _ _ _ _ ih => exact ih

theorem Lacks.of_grows (h : s.Lacks path) (grows : Grows p s s')
    (differs : ∀ d, p d → d.key ∉ path) :
    s'.Lacks path := fun key mem => by
  rw [grows.lookup?_of_forall fun d added same => differs d added (same ▸ mem), h key mem]

theorem IsUnderWay.wellFormed (h : IsUnderWay declarations base path s) (wf : base.WellFormed) :
    s.WellFormed :=
  h.grown.wellFormed wf

theorem IsUnderWay.next (h : IsUnderWay declarations base path s) {names : List Xml.Name}
    (grows : Grows (Wanted declarations path names) s s') :
    IsUnderWay declarations base path s' where
  grown := h.grown.trans (grows.mono fun _ ⟨_, _, _, needs⟩ => needs.isFirstType.2)
  lacks := h.lacks.of_grows grows fun _ wanted => wanted.1

theorem IsUnderWay.enter (h : IsUnderWay declarations base path s)
    (unresolved : s.lookup? d.key = none) :
    IsUnderWay declarations base (d.key :: path) s where
  grown := h.grown
  lacks := List.forall_mem_cons.2 ⟨unresolved, h.lacks⟩

/-- What has been resolved in a registry on the way has nothing at fault in it. -/
theorem IsUnderWay.judge_eq_ok (h : IsUnderWay declarations base path s) (wf : base.WellFormed)
    {ref : TypeRef} (resolved : s.lookup? ⟨true, name⟩ = some ref) :
    judge declarations base path name = .ok () :=
  judge_eq_ok_of_lookup? wf h.grown resolved fun key mem _ entered =>
    nomatch (h.lacks key mem).symm.trans entered

theorem takeName_isJudged (lacks : s.Lacks path) (name : String) (kind : Naming.Kind) :
    IsJudged (takeName path name kind) s (judgeLift path (Naming.typeName name kind)) := by
  unfold takeName
  rw [← judgement_bind_ok (judgeLift path _)]
  exact isJudged_lift_bind lacks fun derived _ =>
    isJudged_get_bind (isJudged_set_bind (isJudged_pure _))

theorem isJudged_define (key : DefinitionKey) (definition : Definition) :
    IsJudged (define key definition) s (.ok ()) :=
      isJudged_get_bind (isJudged_set_bind (isJudged_pure _))

/-- **Turning a declaration into a definition** fails as it is judged to, if making its body
does. -/
theorem defining_isJudged {make : d.key ∉ path → Step DefinitionBody}
    {judged : d.key ∉ path → Except Complaint Unit}
    (lacks : s.Lacks path) (unresolved : s.lookup? d.key = none)
    (made : ∀ new : d.key ∉ path, IsJudged (make new) s (judged new))
    (does : ∀ new : d.key ∉ path,
      Ensures (make new) s (fun _ s' => s'.Lacks (d.key :: path)) fun _ => True) :
    IsJudged (defining path d make) s (judgeDefining path d judged) := by
  unfold defining judgeDefining
  refine isJudged_get_bind ?_
  rw [unresolved]
  dsimp only
  split
  · exact isJudged_fail lacks _
  · next new =>
    refine isJudged_bind (made new) (does new) fun body s' still => ?_
    have named := isJudged_bind (takeName_isJudged still d.localName d.namingKind)
      (takeName_ensures _ _ _ s')
      fun given _ _ => isJudged_define d.key ⟨given, d.localName, d.namespaceName?, body⟩
    rwa [judgement_bind_ok] at named

/-- A base is simple if and only if it is named so. -/
theorem simpleBase_isJudged (wf : base.WellFormed) (ahead : IsUnderWay declarations base path s)
    (owner : Xml.Name) {ref : TypeRef} (resolved : s.lookup? ⟨true, name⟩ = some ref) :
    IsJudged (simpleBase path owner name ref) s
      (if isSimpleNamed declarations base name then
        .ok () else .error ⟨.complexBase owner name, path⟩) := by
  have wfs := ahead.wellFormed wf
  have builtin : ∀ b, ref = .builtin b → isSimpleNamed declarations base name = true := by
    rintro b rfl
    exact isSimpleNamed_of_builtin (wfs.builtins _ b resolved).2
  unfold simpleBase
  split
  · rw [builtin _ rfl]
    exact isJudged_pure _
  · rw [builtin _ rfl]
    exact isJudged_pure _
  · next i =>
    obtain ⟨definition, found, -⟩ := wfs.known _ i resolved
    rw [isSimpleNamed_eq wf ahead.grown resolved found]
    refine isJudged_get_bind ?_
    rw [found]
    dsimp only
    split
    · exact isJudged_pure _
    · exact isJudged_fail ahead.lacks _

mutual

/-- **A name** is resolved, or fails to be, as it is judged. -/
theorem resolveOn_isJudged (declarations : List Declaration) (path : List DefinitionKey)
    (name : Xml.Name) {s : Registry} (wf : base.WellFormed)
    (ahead : IsUnderWay declarations base path s) :
    IsJudged (resolveOn declarations path name) s (judge declarations base path name) := by
  rw [resolveOn]
  refine isJudged_get_bind ?_
  split
  · next ref resolved =>
    rw [ahead.judge_eq_ok wf resolved]
    exact isJudged_pure ref
  · next unresolved =>
    have new : base.lookup? ⟨true, name⟩ = none := ahead.grown.extends.lookup?_eq_none unresolved
    rw [judge, new]
    cases first : firstType? declarations name with
    | some d =>
      have key : d.val.key = ⟨true, name⟩ := key_of_firstType? first
      rw [← key] at unresolved
      refine defining_isJudged ahead.lacks unresolved (fun entered => ?_) fun entered => ?_
      · have fewer := remaining_cons_lt (List.mem_map_of_mem d.property) entered
        exact bodyOn_isJudged declarations (d.val.key :: path) d.val wf (ahead.enter unresolved)
      · exact (bodyOn_ensures declarations _ d.val (ahead.wellFormed wf)).mono
          (fun _ _ h => ((ahead.enter unresolved).next h.1).lacks) fun _ _ => trivial
    | none => exact isJudged_fail ahead.lacks _
termination_by (remaining (declarations.map Declaration.key) path, 1, 0)
decreasing_by exact Prod.Lex.left _ _ ‹_›

/-- **Fields** are made, or fail to be, as they are judged. -/
theorem fieldsOn_isJudged (declarations : List Declaration) (path : List DefinitionKey)
    (taken : List String) (fields : List ElementDeclaration) {s : Registry} (wf : base.WellFormed)
    (ahead : IsUnderWay declarations base path s) :
    IsJudged (fieldsOn declarations path taken fields) s
      (judgeFields path (judge declarations base path) fields) := by
  match fields with
  | [] =>
    rw [fieldsOn]
    exact isJudged_pure _
  | e :: rest =>
    rw [fieldsOn, judgeFields]
    refine isJudged_bind (resolveOn_isJudged declarations path (typeOf e) wf ahead)
      (resolveOn_ensures declarations path (typeOf e) (ahead.wellFormed wf)) fun type s' h => ?_
    have ahead' := ahead.next h.1
    refine isJudged_lift_bind ahead'.lacks fun derived _ => ?_
    have others := isJudged_bind
      (fieldsOn_isJudged declarations path (Naming.fresh taken derived :: taken) rest wf ahead')
      (fieldsOn_ensures declarations path _ rest (ahead'.wellFormed wf)) fun made _ _ =>
        isJudged_pure
        (({ name := Naming.fresh taken derived, xmlName := e.name, type, min := e.min, max := e.max,
            nillable := e.nillable, default := e.default } : FieldDefinition) :: made)
    rwa [judgement_bind_ok] at others
termination_by (remaining (declarations.map Declaration.key) path, 2, fields.length)

/-- **The body of a definition** is made, or fails to be, as it is judged. -/
theorem bodyOn_isJudged (declarations : List Declaration) (path : List DefinitionKey)
    (d : Declaration) {s : Registry} (wf : base.WellFormed)
    (ahead : IsUnderWay declarations base path s) :
    IsJudged (bodyOn declarations path d)
      s (judgeBody declarations base path (judge declarations base path) d) := by
  cases d with
  | simple declaration =>
    rw [bodyOn, judgeBody]
    refine isJudged_bind (resolveOn_isJudged declarations path
      declaration.restriction.base wf ahead)
      (resolveOn_ensures declarations path _ (ahead.wellFormed wf)) fun ref s' h => ?_
    have made := isJudged_bind
      (simpleBase_isJudged wf (ahead.next h.1) (Declaration.simple declaration).name h.2)
      (simpleBase_ensures ((ahead.next h.1).wellFormed wf) h.2) fun base _ _ =>
        isJudged_pure (DefinitionBody.simple base declaration.restriction.facets)
    rwa [judgement_bind_ok] at made
  | complex declaration =>
    rw [bodyOn, judgeBody]
    have made := isJudged_bind (fieldsOn_isJudged declarations path [] declaration.fields wf ahead)
      (fieldsOn_ensures declarations path [] declaration.fields (ahead.wellFormed wf))
        fun fields _ _ =>
        isJudged_pure (DefinitionBody.complex fields)
    rwa [judgement_bind_ok] at made
  | element declaration =>
    rw [bodyOn, judgeBody]
    have made := isJudged_bind (resolveOn_isJudged declarations path (typeOf declaration) wf ahead)
      (resolveOn_ensures declarations path _ (ahead.wellFormed wf)) fun type _ _ =>
        isJudged_pure (DefinitionBody.element type)
    rwa [judgement_bind_ok] at made
termination_by (remaining (declarations.map Declaration.key) path, 3, 0)

end

/-! ## More marks -/

/-- Whether there are more keys on one way than on another: all those on the first, and some new
ones. -/
structure IsMarkedOver (new : DefinitionKey → Prop) (path path' : List DefinitionKey) : Prop where
  old : ∀ key ∈ path, key ∈ path'
  new : ∀ key ∈ path', key ∈ path ∨ new key

/-- Whether a judgement is the same with more marks, unless one of these is met. -/
inductive Follows {α : Type} (new : DefinitionKey → Prop) :
    Except Complaint α → Except Complaint α → Prop
  | ok (a : α) : Follows new (.ok a) (.ok a)
  | error {cause : GenerateError} {marks marks' : List DefinitionKey}
      (more : IsMarkedOver new marks marks') :
      Follows new (.error ⟨cause, marks⟩) (.error ⟨cause, marks'⟩)
  | met {judgement : Except Complaint α} {key : DefinitionKey} {marks : List DefinitionKey}
      (isNew : new key) : Follows new judgement (.error ⟨.recursiveType key.name, marks⟩)

section

variable {new : DefinitionKey → Prop} {path' : List DefinitionKey}

theorem IsMarkedOver.cons (more : IsMarkedOver new path path') (key : DefinitionKey) :
    IsMarkedOver new (key :: path) (key :: path') where
  old := fun other mem => List.mem_cons.2 ((List.mem_cons.1 mem).imp_right (more.old other))
  new := fun other mem => (List.mem_cons.1 mem).elim
    (fun same => .inl (same ▸ List.mem_cons_self ..))
    fun mem => (more.new other mem).imp_left (List.mem_cons_of_mem _)

theorem Follows.bind {α β : Type} {first first' : Except Complaint α}
    {next next' : α → Except Complaint β} (h : Follows new first first')
    (others : ∀ a, Follows new (next a) (next' a)) :
    Follows new (first >>= next) (first' >>= next') := by
  cases h with
  | ok a => exact others a
  | error more => exact .error more
  | met isNew => exact .met isNew

theorem judgeLift_follows {α : Type} (more : IsMarkedOver new path path')
    (result : Except GenerateError α) :
    Follows new (judgeLift path result) (judgeLift path' result) := by
  cases result with
  | ok a => exact .ok ()
  | error cause => exact .error more

theorem judgeFields_follows (more : IsMarkedOver new path path')
    {judge judge' : Xml.Name → Except Complaint Unit}
    (judged : ∀ r, Follows new (judge r) (judge' r)) (fields : List ElementDeclaration) :
    Follows new (judgeFields path judge fields) (judgeFields path' judge' fields) := by
  induction fields with
  | nil => exact .ok ()
  | cons e rest ih =>
    exact (judged (typeOf e)).bind fun _ => (judgeLift_follows more _).bind fun _ => ih

theorem judgeBody_follows (more : IsMarkedOver new path path')
    {judge judge' : Xml.Name → Except Complaint Unit}
    (judged : ∀ r, Follows new (judge r) (judge' r)) (d : Declaration) :
    Follows new (judgeBody declarations s path judge d)
    (judgeBody declarations s path' judge' d) := by
  cases d with
  | simple d =>
    refine (judged d.restriction.base).bind fun _ => ?_
    split
    · exact .ok ()
    · exact .error more
  | complex d => exact judgeFields_follows more judged d.fields
  | element e => exact judged (typeOf e)

/-- A declaration is met again on the way with more marks only if its key is a new one, or is met on
both. -/
theorem judgeDefining_follows (more : IsMarkedOver new path path')
    {make : d.key ∉ path → Except Complaint Unit} {make' : d.key ∉ path' → Except Complaint Unit}
    (made : ∀ entered entered', Follows new (make entered) (make' entered')) :
    Follows new (judgeDefining path d make) (judgeDefining path' d make') := by
  unfold judgeDefining
  by_cases met : d.key ∈ path
  · rw [dif_pos met, dif_pos (more.old _ met)]
    exact .error more
  · rw [dif_neg met]
    by_cases met' : d.key ∈ path'
    · rw [dif_pos met']
      exact .met ((more.new _ met').resolve_left met)
    · rw [dif_neg met']
      exact (made met met').bind fun _ => judgeLift_follows (more.cons d.key) _

/-- **More marks change nothing** unless one of them is met. -/
theorem judge_follows (declarations : List Declaration) (s : Registry)
    {path path' : List DefinitionKey} (name : Xml.Name) (more : IsMarkedOver new path path') :
    Follows new (judge declarations s path name) (judge declarations s path' name) := by
  rw [judge, judge]
  split
  · exact .ok ()
  · split
    · next first found =>
      refine judgeDefining_follows more fun entered _ => ?_
      have fewer := remaining_cons_lt (List.mem_map_of_mem first.property) entered
      exact judgeBody_follows (more.cons _)
        (fun r => judge_follows declarations s r (more.cons _)) first.val
    · exact .error more
termination_by remaining (declarations.map Declaration.key) path

end

end Registry

end SchemaBinding
