import SchemaBinding.Proofs.Registry.Judgement
import SchemaBinding.Proofs.Registry.Recursion
import SchemaBinding.Proofs.Registry.Selection

/-!
# What a failed request changes

A request that fails leaves definitions of types behind, and marks. The
definitions change nothing that is asked later, for later steps are as they are
judged, and judgements know nothing of them. The marks do: a declaration with
one of them is met again without being on the way. So let the same be asked of a
registry with and without a failed request before it (`Abreast`). As long as no
recursion is reported for a mark that this request has left, the answers are the
same (`Abreast.answers`): recursion is reported for what refers to itself, or
for what a failed request has left, and failed requests change nothing else
(`Session.reported_and_unchanged`).
-/

namespace SchemaBinding

namespace Registry

variable {declarations : List Declaration} {base s s' t t' : Registry}
  {marks path : List DefinitionKey} {d : Declaration} {name : Xml.Name} {p : Declaration → Prop}

/-! ## Judging requests -/

/-- The judgement on turning a declaration into a definition, unless a registry has done so: the key
of what is answered, or a complaint. -/
def judgeGenerate (declarations : List Declaration) (base s : Registry) (path : List DefinitionKey)
    (d : Declaration) : Except Complaint DefinitionKey :=
  match s.lookup? d.key with
  | some _ => .ok d.key
  | none => do
    judgeDefining path d fun _ =>
      judgeBody declarations base (d.key :: path) (judge declarations base (d.key :: path)) d
    return d.key

/-- The judgement on a request to a registry, in terms of an earlier one. -/
def Request.judge (declarations : List Declaration) (base s : Registry)
    (marks : List DefinitionKey) :
    Request → Except Complaint DefinitionKey
  | .resolve name => do
    Registry.judge declarations base marks name
    return ⟨true, name⟩
  | .generate d => judgeGenerate declarations base s marks d
  | .resolveElement name =>
    match s.lookup? ⟨false, name⟩ with
    | some _ => .ok ⟨false, name⟩
    | none =>
      match firstType? declarations name, firstElement? declarations name with
      | none, some element => judgeGenerate declarations base s marks element.val
      | _, _ => do
        Registry.judge declarations base marks name
        return ⟨true, name⟩

/-- The declaration that a request asks to be turned into a definition, whether it is the first type
with its name or not. -/
def Request.root? (declarations : List Declaration) : Request → Option Declaration
  | .resolve _ => none
  | .generate d => some d
  | .resolveElement name => (firstElement? declarations name).map Subtype.val

/-! ## What requests leave -/

/-- A failure has all marks on the way, and that of the declaration. -/
theorem Fails.mem_marks {failure : Failure} (h : Fails declarations failure path d) :
    ∀ key ∈ d.key :: path, key ∈ failure.marks := by
  induction h with
  | recursive met _ marks =>
    rw [marks]
    exact List.forall_mem_cons.2 ⟨met, fun _ => id⟩
  | own _ _ marks => exact marks ▸ fun _ => id
  | missing _ _ notFound => exact notFound.marks ▸ fun _ => id
  | reference _ _ _ _ ih => exact fun key mem => ih key (List.mem_cons_of_mem _ mem)

theorem Unresolved.mem_marks {failure : Failure} (h : Unresolved declarations failure path name) :
    ∀ key ∈ path, key ∈ failure.marks := by
  rcases h with notFound | ⟨first, -, fails⟩
  · exact notFound.marks ▸ fun _ => id
  · exact fun key mem => fails.mem_marks key (List.mem_cons_of_mem _ mem)

/-- Nothing with a key has been added if the key leads nowhere in the end. -/
theorem Grows.of_unresolved (h : Grows p s s') {key : DefinitionKey}
    (unresolved : s'.lookup? key = none) :
    Grows (fun d => p d ∧ d.key ≠ key) s s' := by
  induction h with
  | refl => exact .refl
  | tail _ adds ih =>
    obtain ⟨d, hd, adds⟩ := adds
    refine (ih (adds.extends.lookup?_eq_none unresolved)).tail ⟨d, ⟨hd, ?_⟩, adds⟩
    rintro rfl
    cases unresolved.symm.trans adds.lookup?_self

/-- Whether a declaration may be added by a step that answers a key: it is the first type with its
name, or what the step is to turn into a definition. -/
def IsAdded (declarations : List Declaration) (root? : Option Declaration) (key : DefinitionKey)
    (d : Declaration) :
    Prop :=
  IsFirstType declarations d ∨ root? = some d ∧ d.key = key

/-- Whether a step answers as it is judged to. If it does not fail, the key that it is judged to
answer leads to its result, and nothing has been added but first types with their names, and what it
has been asked to turn into a definition. If it fails, only first types have been added, and nothing
with one of its marks. -/
def IsAnswered (declarations : List Declaration) (root? : Option Declaration)
    (marks : List DefinitionKey) (s : Registry) (judgement : Except Complaint DefinitionKey)
    (step : Step TypeRef) : Prop :=
  Ensures step s
    (fun ref s' => ∃ key, judgement = .ok key ∧ s'.lookup? key = some ref ∧ s'.Lacks marks ∧
      Grows (IsAdded declarations root? key) s s')
    (fun failure => judgement = .error failure.complaint ∧ failure.registry.Lacks failure.marks ∧
      (∀ key ∈ marks, key ∈ failure.marks) ∧
      Grows (IsFirstType declarations) s failure.registry)

theorem isAnswered_get_bind {root? : Option Declaration}
    {judgement : Except Complaint DefinitionKey} {next : Registry → Step TypeRef}
    (h : IsAnswered declarations root? marks s judgement (next s)) :
    IsAnswered declarations root? marks s judgement (get >>= next) := ensures_get_bind h

theorem resolveOn_isAnswered (wf : base.WellFormed) (ahead : IsUnderWay declarations base marks s)
    (name : Xml.Name) (root? : Option Declaration) :
    IsAnswered declarations root? marks s
      (do judge declarations base marks name; return ⟨true, name⟩)
        (resolveOn declarations marks name) := by
  refine ((resolveOn_isJudged declarations marks name wf ahead).and
    (resolveOn_ensures declarations marks name (ahead.wellFormed wf))).mono (fun ref s' h => ?_)
      fun failure h => ?_
  · obtain ⟨judged, grows, resolved⟩ := h
    exact ⟨⟨true, name⟩, by rw [judged]; rfl, resolved, (ahead.next grows).lacks,
      grows.mono fun _ ⟨_, _, _, needs⟩ => .inl needs.isFirstType⟩
  · obtain ⟨⟨judged, lacks⟩, grows, unresolved⟩ := h
    exact ⟨by rw [judged]; rfl, lacks, unresolved.mem_marks, grows.mono fun _ ⟨_, _, _, needs⟩ =>
      needs.isFirstType⟩

theorem generateOn_isAnswered (wf : base.WellFormed) (ahead : IsUnderWay declarations base marks s)
    (d : Declaration) :
    IsAnswered declarations (some d) marks s (judgeGenerate declarations base s marks d)
      (generateOn declarations marks d) := by
  unfold judgeGenerate
  split
  · next ref resolved =>
    unfold generateOn defining
    refine ensures_get_bind ?_
    rw [resolved]
    exact ensures_pure ⟨d.key, rfl, resolved, ahead.lacks, .refl⟩
  · next unresolved =>
    have inside := ahead.enter unresolved
    have judged : IsJudged (generateOn declarations marks d) s _ :=
      defining_isJudged ahead.lacks unresolved
      (fun _ => bodyOn_isJudged declarations (d.key :: marks) d wf inside)
      fun _ => (bodyOn_ensures declarations _ d (ahead.wellFormed wf)).mono
        (fun _ _ h => (inside.next h.1).lacks) fun _ _ => trivial
    refine (judged.and (generateOn_ensures declarations marks d (ahead.wellFormed wf))).mono
      (fun ref s' h => ?_) fun failure h => ?_
    · obtain ⟨judged, grows, resolved⟩ := h
      refine ⟨d.key, by rw [judged]; rfl, resolved,
        ahead.lacks.of_grows grows fun _ wanted => wanted.1, grows.mono ?_⟩
      rintro other ⟨-, rfl | ⟨_, _, needs⟩⟩
      · exact .inr ⟨rfl, rfl⟩
      · exact .inl needs.isFirstType
    · obtain ⟨⟨judged, lacks⟩, grows, fails⟩ := h
      refine ⟨by rw [judged]; rfl, lacks, fun key mem =>
        fails.mem_marks key (List.mem_cons_of_mem _ mem), ?_⟩
      -- What fails is marked, and has not been added.
      refine (grows.of_unresolved (lacks d.key (fails.mem_marks _ (List.mem_cons_self ..)))).mono ?_
      rintro other ⟨⟨-, rfl | ⟨_, _, needs⟩⟩, differs⟩
      · exact absurd rfl differs
      · exact needs.isFirstType

/-- **A request is answered** as it is judged. -/
theorem Request.isAnswered (wf : base.WellFormed) (ahead : IsUnderWay declarations base marks s)
    (request : Request) :
    IsAnswered declarations (request.root? declarations)
      marks s (request.judge declarations base s marks) (request.step declarations marks) := by
  cases request with
  | resolve name => exact resolveOn_isAnswered wf ahead name _
  | generate d => exact generateOn_isAnswered wf ahead d
  | resolveElement name =>
    rw [step, resolveElementOn, judge, root?]
    refine isAnswered_get_bind ?_
    cases known : s.lookup? ⟨false, name⟩ with
    | some ref => exact ensures_pure ⟨_, rfl, known, ahead.lacks, .refl⟩
    | none =>
      have resolve := resolveOn_isAnswered wf ahead name
        ((firstElement? declarations name).map Subtype.val)
      cases noType : firstType? declarations name with
      | some first => exact resolve
      | none =>
        cases found : firstElement? declarations name with
        | none =>
          rw [found] at resolve
          exact resolve
        | some element => exact generateOn_isAnswered wf ahead element.val

/-! ## Two registries abreast -/

/-- Whether a key leads to the definition of a declaration. -/
def Leads (s : Registry) (key : DefinitionKey) (d : Declaration) : Prop :=
  ∃ i definition, s.lookup? key = some (.generated i) ∧ s.definitions[i]? = some definition ∧
    Describes s d definition.body

theorem Leads.mono (more : Extends s s') {key : DefinitionKey} (h : s.Leads key d) :
    s'.Leads key d := by
  obtain ⟨i, definition, resolved, found, describes⟩ := h
  exact ⟨i, definition, more.lookup? resolved, more.getElem? found, describes.mono more⟩

/-- Whether a key leads to definitions of one declaration in two registries. -/
def LeadsAlike (s t : Registry) (key : DefinitionKey) : Prop := ∃ d, s.Leads key d ∧ t.Leads key d

theorem LeadsAlike.mono (more : Extends s s') (more' : Extends t t') {key : DefinitionKey}
    (h : LeadsAlike s t key) : LeadsAlike s' t' key := by
  obtain ⟨d, own, other⟩ := h
  exact ⟨d, own.mono more, other.mono more'⟩

/-- Two registries in use that have grown from one by first types with their names. They have
resolved the same elements, and one has more marks. -/
structure Abreast (declarations : List Declaration) (base : Registry) (new : DefinitionKey → Prop)
    (a b : Session) : Prop where
  own : IsUnderWay declarations base a.marks a.registry
  other : IsUnderWay declarations base b.marks b.registry
  marks : IsMarkedOver new a.marks b.marks
  elements : ∀ name, a.registry.lookup? ⟨false, name⟩ = none ∧
    b.registry.lookup? ⟨false, name⟩ = none ∨ LeadsAlike a.registry b.registry ⟨false, name⟩

variable {new : DefinitionKey → Prop} {a b : Session}

/-- The first type with its name is turned into a definition when its name is resolved. -/
theorem judgeGenerate_of_isFirst (wf : base.WellFormed)
    (ahead : IsUnderWay declarations base path s) (isType : d.isType = true)
    (isFirst : IsFirst declarations d) :
    judgeGenerate declarations base s path d =
      do judge declarations base path d.name; return d.key := by
  have key : d.key = ⟨true, d.name⟩ := by rw [Declaration.key, isType]
  unfold judgeGenerate
  split
  · next ref resolved =>
    rw [ahead.judge_eq_ok wf (key ▸ resolved)]
    rfl
  · next unresolved =>
    have unknown : base.lookup? ⟨true, d.name⟩ = none :=
      ahead.grown.extends.lookup?_eq_none (key ▸ unresolved)
    obtain ⟨first, found, rfl⟩ := isFirst isType
    rw [judge, unknown, found]

theorem Abreast.judgeGenerate_follows (wf : base.WellFormed)
    (abreast : Abreast declarations base new a b) (isFirst : IsFirst declarations d) :
    Follows new (judgeGenerate declarations base a.registry a.marks d)
      (judgeGenerate declarations base b.registry b.marks d) := by
  cases isType : d.isType with
  | true =>
    rw [judgeGenerate_of_isFirst wf abreast.own isType isFirst,
      judgeGenerate_of_isFirst wf abreast.other isType isFirst]
    exact (judge_follows declarations base d.name abreast.marks).bind fun _ => .ok _
  | false =>
    have key : d.key = ⟨false, d.name⟩ := by rw [Declaration.key, isType]
    unfold judgeGenerate
    rcases key ▸ abreast.elements d.name with ⟨own, other⟩ | ⟨_, ⟨i, _, own, -⟩, ⟨j, _, other, -⟩⟩
    · rw [own, other]
      refine (judgeDefining_follows abreast.marks fun _ _ => ?_).bind fun _ => .ok _
      have more := abreast.marks.cons d.key
      exact judgeBody_follows more (fun r => judge_follows declarations base r more) d
    · rw [own, other]
      exact .ok _

/-- **A request is judged in the same way** in two registries abreast, unless a new mark is met. -/
theorem Abreast.judge_follows (wf : base.WellFormed) (abreast : Abreast declarations base new a b)
    (request : Request)
    (first : ∀ d, request.root? declarations = some d → IsFirst declarations d) :
    Follows new (request.judge declarations base a.registry a.marks)
      (request.judge declarations base b.registry b.marks) := by
  have resolve : ∀ name, Follows new
      (do judge declarations base a.marks name; return (⟨true, name⟩ : DefinitionKey))
      (do judge declarations base b.marks name; return ⟨true, name⟩) := fun name =>
    (Registry.judge_follows declarations base name abreast.marks).bind fun _ => .ok _
  cases request with
  | resolve name => exact resolve name
  | generate d => exact abreast.judgeGenerate_follows wf (first d rfl)
  | resolveElement name =>
    rw [Request.judge, Request.judge]
    rcases abreast.elements name with ⟨own, other⟩ | ⟨_, ⟨i, _, own, -⟩, ⟨j, _, other, -⟩⟩
    · rw [own, other]
      dsimp only
      split
      · next element _ found =>
        exact abreast.judgeGenerate_follows wf
          (first element.val (by rw [Request.root?, found, Option.map_some]))
      · exact resolve name
    · rw [own, other]
      exact .ok _

/-! ## Answers -/

section

variable {root? : Option Declaration} {key : DefinitionKey}

theorem IsAdded.isFirst (first : ∀ d, root? = some d → IsFirst declarations d)
    (h : IsAdded declarations root? key d) : IsFirst declarations d :=
  h.elim And.right fun asked => first d asked.1

/-- No element is added but the one that is answered. -/
theorem lookup?_element_of_grows (grows : Grows (IsAdded declarations root? key) s s')
    (differs : ⟨false, name⟩ ≠ key) : s'.lookup? ⟨false, name⟩ = s.lookup? ⟨false, name⟩ := by
  refine grows.lookup?_of_forall fun d added same => ?_
  rcases added with ⟨isType, -⟩ | ⟨-, answered⟩
  · cases isType.symm.trans (congrArg DefinitionKey.isType same.symm)
  · exact differs (same.trans answered)

theorem lookup?_element_of_isFirstType (grows : Grows (IsFirstType declarations) s s')
    (name : Xml.Name) : s'.lookup? ⟨false, name⟩ = s.lookup? ⟨false, name⟩ := by
  have added : Grows (IsAdded declarations none ⟨true, name⟩) s s' := grows.mono fun _ => .inl
  exact lookup?_element_of_grows added nofun

/-- The element that is answered is what the step has been asked to turn into a definition. -/
theorem leads_of_grows (wf : s.WellFormed) (grows : Grows (IsAdded declarations root? key) s s')
    (unresolved : s.lookup? ⟨false, name⟩ = none) {ref : TypeRef}
    (resolved : s'.lookup? ⟨false, name⟩ = some ref) :
    ∃ d, root? = some d ∧ s'.Leads ⟨false, name⟩ d := by
  cases ref with
  | builtin b => cases ((grows.wellFormed wf).builtins _ b resolved).1
  | generated i =>
    obtain ⟨d, definition, ⟨isType, -⟩ | ⟨asked, -⟩, same, found, describes, -⟩ :=
      grows.exists_of_new unresolved resolved
    · cases isType.symm.trans (congrArg DefinitionKey.isType same)
    · exact ⟨d, asked, i, definition, resolved, found, describes⟩

end

/-- Whether two answers are the same in two registries: one key leads to both results, or there is
one cause. -/
def SameAnswer (s t : Registry) : Except GenerateError TypeRef → Except GenerateError TypeRef → Prop
  | .ok ref, .ok ref' => ∃ key, s.lookup? key = some ref ∧ t.lookup? key = some ref'
  | .error cause, .error cause' => cause' = cause
  | _, _ => False

theorem SameAnswer.mono (more : Extends s s') (more' : Extends t t')
    {answer answer' : Except GenerateError TypeRef} (h : SameAnswer s t answer answer') :
    SameAnswer s' t' answer answer' := by
  cases answer with
  | ok ref =>
    cases answer' with
    | ok ref' =>
      obtain ⟨key, own, other⟩ := h
      exact ⟨key, more.lookup? own, more'.lookup? other⟩
    | error cause' => exact h
  | error cause =>
    cases answer' with
    | ok ref' => exact h
    | error cause' => exact h

/-- **How a request is answered** in a registry in use: as it is judged. -/
inductive Session.Answered (declarations : List Declaration) (base : Registry) (session : Session)
    (request : Request) : Except GenerateError TypeRef × Session → Prop
  | done {key : DefinitionKey} {ref : TypeRef} {registry : Registry}
      (judged : request.judge declarations base session.registry session.marks = .ok key)
      (resolved : registry.lookup? key = some ref) (lacks : registry.Lacks session.marks)
      (grows : Grows (IsAdded declarations (request.root? declarations) key)
        session.registry registry) :
      Session.Answered declarations base session request (.ok ref, ⟨registry, session.marks⟩)
  | failed {cause : GenerateError} {registry : Registry} {marks : List DefinitionKey}
      (judged : request.judge declarations base session.registry session.marks =
        .error ⟨cause, marks⟩)
      (lacks : registry.Lacks marks) (more : ∀ key ∈ session.marks, key ∈ marks)
      (grows : Grows (IsFirstType declarations) session.registry registry) :
      Session.Answered declarations base session request (.error cause, ⟨registry, marks⟩)

theorem Session.answered (wf : base.WellFormed) {session : Session}
    (ahead : IsUnderWay declarations base session.marks session.registry) (request : Request) :
    session.Answered declarations base request (session.answer declarations request) := by
  have answered := request.isAnswered wf ahead
  unfold IsAnswered Ensures at answered
  unfold answer
  cases outcome : (request.step declarations session.marks).run session.registry with
  | ok result =>
    rw [outcome] at answered
    obtain ⟨key, judged, resolved, lacks, grows⟩ := answered
    exact .done judged resolved lacks grows
  | error failure =>
    rw [outcome] at answered
    obtain ⟨judged, lacks, more, grows⟩ := answered
    exact .failed judged lacks more grows

theorem Session.Answered.lacks {session : Session} {request : Request}
    {outcome : Except GenerateError TypeRef × Session}
    (h : session.Answered declarations base request outcome) :
    outcome.2.registry.Lacks outcome.2.marks := by
  cases h with
  | done _ _ lacks _ => exact lacks
  | failed _ lacks _ _ => exact lacks

/-- Two registries stay abreast when both answer one key. -/
theorem Abreast.done (wf : base.WellFormed) (abreast : Abreast declarations base new a b)
    {root? : Option Declaration} (first : ∀ d, root? = some d → IsFirst declarations d)
    {key : DefinitionKey} {ref ref' : TypeRef}
    (own : Grows (IsAdded declarations root? key) a.registry s)
    (other : Grows (IsAdded declarations root? key) b.registry t)
    (resolved : s.lookup? key = some ref) (resolved' : t.lookup? key = some ref')
    (lacks : s.Lacks a.marks) (lacks' : t.Lacks b.marks) :
    Abreast declarations base new ⟨s, a.marks⟩ ⟨t, b.marks⟩ where
  own := ⟨abreast.own.grown.trans (own.mono fun _ => IsAdded.isFirst first), lacks⟩
  other := ⟨abreast.other.grown.trans (other.mono fun _ => IsAdded.isFirst first), lacks'⟩
  marks := abreast.marks
  elements := by
    intro name
    rcases abreast.elements name with ⟨unresolved, unresolved'⟩ | alike
    · by_cases same : key = ⟨false, name⟩
      · -- The element that is answered has been handed over, or is the first one with its name,
        -- in both.
        subst same
        obtain ⟨d, asked, leads⟩ :=
          leads_of_grows (abreast.own.wellFormed wf) own unresolved resolved
        obtain ⟨d', asked', leads'⟩ :=
          leads_of_grows (abreast.other.wellFormed wf) other unresolved' resolved'
        obtain rfl := Option.some.inj (asked.symm.trans asked')
        exact .inr ⟨d, leads, leads'⟩
      · exact .inl ⟨(lookup?_element_of_grows own (Ne.symm same)).trans unresolved,
          (lookup?_element_of_grows other (Ne.symm same)).trans unresolved'⟩
    · exact .inr (alike.mono own.extends other.extends)

/-- Two registries stay abreast when both fail with the same marks but for the new ones. -/
theorem Abreast.failed (abreast : Abreast declarations base new a b)
    (own : Grows (IsFirstType declarations) a.registry s)
    (other : Grows (IsFirstType declarations) b.registry t) (lacks : s.Lacks marks)
    (lacks' : t.Lacks path) (more : IsMarkedOver new marks path) :
    Abreast declarations base new ⟨s, marks⟩ ⟨t, path⟩ where
  own := ⟨abreast.own.grown.trans (own.mono fun _ => And.right), lacks⟩
  other := ⟨abreast.other.grown.trans (other.mono fun _ => And.right), lacks'⟩
  marks := more
  elements := by
    intro name
    rcases abreast.elements name with ⟨unresolved, unresolved'⟩ | alike
    · exact .inl ⟨(lookup?_element_of_isFirstType own name).trans unresolved,
        (lookup?_element_of_isFirstType other name).trans unresolved'⟩
    · exact .inr (alike.mono own.extends other.extends)

/-- **One answer** in two registries abreast. -/
theorem Abreast.answer (wf : base.WellFormed) (abreast : Abreast declarations base new a b)
    (request : Request) (first : ∀ d, request.root? declarations = some d → IsFirst declarations d)
    (unmet : ∀ key, new key →
      (b.answer declarations request).1 ≠ .error (.recursiveType key.name)) :
    Abreast declarations base new (a.answer declarations request).2
      (b.answer declarations request).2 ∧
      SameAnswer (a.answer declarations request).2.registry
        (b.answer declarations request).2.registry
        (a.answer declarations request).1 (b.answer declarations request).1 := by
  have follows := abreast.judge_follows wf request first
  have own := Session.answered wf abreast.own request
  have other := Session.answered wf abreast.other request
  generalize a.answer declarations request = outcome at *
  generalize b.answer declarations request = outcome' at *
  cases own with
  | done judged resolved lacks grows =>
    rw [judged] at follows
    cases other with
    | done judged' resolved' lacks' grows' =>
      rw [judged'] at follows
      cases follows
      exact ⟨abreast.done wf first grows grows' resolved resolved' lacks lacks', _,
        resolved, resolved'⟩
    | failed judged' _ _ _ =>
      rw [judged'] at follows
      cases follows with
      | met isNew => exact absurd rfl (unmet _ isNew)
  | failed judged lacks _ grows =>
    rw [judged] at follows
    cases other with
    | done judged' _ _ _ =>
      rw [judged'] at follows
      cases follows
    | failed judged' lacks' _ grows' =>
      rw [judged'] at follows
      cases follows with
      | met isNew => exact absurd rfl (unmet _ isNew)
      | error more => exact ⟨abreast.failed grows grows' lacks lacks' more, rfl⟩

theorem Request.isFirst_of_root? {request : Request}
    (first : ∀ d, request = .generate d → IsFirst declarations d)
    (asked : request.root? declarations = some d) : IsFirst declarations d := by
  cases request with
  | resolve name => cases asked
  | generate other => exact Option.some.inj asked ▸ first other rfl
  | resolveElement name =>
    obtain ⟨element, found, rfl⟩ := Option.map_eq_some_iff.1 asked
    exact fun isType => nomatch isType.symm.trans
      (congrArg DefinitionKey.isType (key_of_firstElement? found))

/-- **Any number of answers** in two registries abreast. -/
theorem Abreast.answers (wf : base.WellFormed) (abreast : Abreast declarations base new a b)
    (requests : List Request) (first : ∀ d, .generate d ∈ requests → IsFirst declarations d)
    (unmet : ∀ key, new key →
      .error (.recursiveType key.name) ∉ (b.answers declarations requests).1) :
    Abreast declarations base new (a.answers declarations requests).2
      (b.answers declarations requests).2 ∧
      List.Forall₂
        (SameAnswer (a.answers declarations requests).2.registry
          (b.answers declarations requests).2.registry)
        (a.answers declarations requests).1 (b.answers declarations requests).1 := by
  induction requests generalizing a b with
  | nil => exact ⟨abreast, .nil⟩
  | cons request rest ih =>
    obtain ⟨next, same⟩ := abreast.answer wf request
      (fun d => Request.isFirst_of_root? fun other handed =>
        first other (handed ▸ List.mem_cons_self ..))
      fun key isNew met => unmet key isNew (met ▸ List.mem_cons_self ..)
    obtain ⟨last, others⟩ := ih next (fun d mem => first d (List.mem_cons_of_mem _ mem))
      fun key isNew mem => unmet key isNew (List.mem_cons_of_mem _ mem)
    have more := (Session.answers_grows declarations (next.own.wellFormed wf) rest).1.extends
    have more' := (Session.answers_grows declarations (next.other.wellFormed wf) rest).1.extends
    exact ⟨last, .cons (same.mono more more') others⟩

/-- Registries abreast have definitions of the same declarations. -/
theorem Abreast.leadsAlike (traces : base.Traces p) (abreast : Abreast declarations base new a b)
    {key : DefinitionKey} {i j : Nat} (own : a.registry.lookup? key = some (.generated i))
    (other : b.registry.lookup? key = some (.generated j)) :
    LeadsAlike a.registry b.registry key := by
  obtain ⟨isType, name⟩ := key
  cases isType with
  | false =>
    rcases abreast.elements name with ⟨unresolved, -⟩ | alike
    · cases unresolved.symm.trans own
    · exact alike
  | true =>
    cases known : base.lookup? ⟨true, name⟩ with
    | some ref =>
      obtain rfl := Option.some.inj ((abreast.own.grown.extends.lookup? known).symm.trans own)
      obtain ⟨d, definition, -, -, found, describes⟩ := traces _ i known
      have leads : base.Leads ⟨true, name⟩ d := ⟨i, definition, known, found, describes⟩
      exact ⟨d, leads.mono abreast.own.grown.extends, leads.mono abreast.other.grown.extends⟩
    | none =>
      obtain ⟨first, definition, isFirst, found, describes, -⟩ :=
        exists_first_of_new abreast.own.grown known own
      obtain ⟨first', definition', isFirst', found', describes', -⟩ :=
        exists_first_of_new abreast.other.grown known other
      obtain rfl := Option.some.inj (isFirst.symm.trans isFirst')
      exact ⟨first.val, ⟨i, definition, own, found, describes⟩, j, definition', other, found',
        describes'⟩

/-! ## Failed requests -/

/-- Whether two registries in use have given the same: every answer is the same, and of whatever
both have a definition they have the same one, up to the places of what it refers to and the number
after its name. -/
structure HaveAnsweredAlike (outcome outcome' : List (Except GenerateError TypeRef) × Session) :
    Prop where
  answers : List.Forall₂ (SameAnswer outcome.2.registry outcome'.2.registry) outcome.1 outcome'.1
  definitions : ∀ key i j, outcome.2.registry.lookup? key = some (.generated i) →
    outcome'.2.registry.lookup? key = some (.generated j) →
    ∃ own other, outcome.2.registry.definitions[i]? = some own ∧
      outcome'.2.registry.definitions[j]? = some other ∧
      own.IsCounterpart (outcome.2.registry.placeIn outcome'.2.registry) other

theorem LeadsAlike.exists_counterpart (wf : s.WellFormed) (wf' : t.WellFormed)
    (derives : s.DerivesNames) (derives' : t.DerivesNames) {key : DefinitionKey}
    (h : LeadsAlike s t key) {i j : Nat} (own : s.lookup? key = some (.generated i))
    (other : t.lookup? key = some (.generated j)) :
    ∃ definition definition', s.definitions[i]? = some definition ∧
      t.definitions[j]? = some definition' ∧
      definition.IsCounterpart (s.placeIn t) definition' := by
  obtain ⟨d, ⟨i', definition, resolved, found, describes⟩,
    j', definition', resolved', found', describes'⟩ := h
  obtain rfl := TypeRef.generated.inj (Option.some.inj (own.symm.trans resolved))
  obtain rfl := TypeRef.generated.inj (Option.some.inj (other.symm.trans resolved'))
  obtain ⟨_, again, key⟩ := wf.known _ i own
  obtain rfl := Option.some.inj (found.symm.trans again)
  obtain ⟨_, again', key'⟩ := wf'.known _ j other
  obtain rfl := Option.some.inj (found'.symm.trans again')
  exact ⟨definition, definition', found, found',
    describes.isCounterpart wf wf' derives derives' found found' (key'.trans key.symm) describes'⟩

namespace Session

/-- No mark has been resolved after any requests. -/
theorem lacks_answers (requests : List Request) {session : Session}
    (wf : session.registry.WellFormed) (lacks : session.registry.Lacks session.marks) :
    (session.answers declarations requests).2.registry.Lacks
      (session.answers declarations requests).2.marks := by
  induction requests generalizing session with
  | nil => exact lacks
  | cons request rest ih =>
    have here : IsUnderWay declarations session.registry session.marks session.registry :=
      ⟨.refl, lacks⟩
    exact ih ((answer_grows declarations wf request).1.wellFormed wf)
      (answered wf here request).lacks

/-- A request that fails leaves a session abreast of the one before it: it has added first types
only, and marks. -/
theorem abreast_of_failed {session : Session} (wf : session.registry.WellFormed)
    (lacks : session.registry.Lacks session.marks) (traces : session.registry.Traces p)
    (request : Request) {cause : GenerateError}
    (failed : (session.answer declarations request).1 = .error cause) :
    Abreast declarations session.registry
      (fun key => key ∈ (session.answer declarations request).2.marks ∧ key ∉ session.marks)
      session (session.answer declarations request).2 := by
  have here : IsUnderWay declarations session.registry session.marks session.registry :=
    ⟨.refl, lacks⟩
  have answered := answered wf here request
  generalize session.answer declarations request = outcome at *
  cases answered with
  | done _ _ _ _ => cases failed
  | failed _ lacks' more grows =>
    refine ⟨here, ⟨grows.mono fun _ => And.right, lacks'⟩, ⟨more, fun key mem => ?_⟩,
      fun name => ?_⟩
    · exact (em (key ∈ session.marks)).imp_right fun isNew => ⟨mem, isNew⟩
    · cases resolved : session.registry.lookup? ⟨false, name⟩ with
      | none => exact .inl ⟨rfl, (lookup?_element_of_isFirstType grows name).trans resolved⟩
      | some ref =>
        cases ref with
        | builtin b => cases (wf.builtins _ b resolved).1
        | generated i =>
          obtain ⟨d, definition, -, -, found, describes⟩ := traces _ i resolved
          have leads : session.registry.Leads ⟨false, name⟩ d :=
            ⟨i, definition, resolved, found, describes⟩
          exact .inr ⟨d, leads, leads.mono grows.extends⟩

/-- **Recursion is reported for recursion, and for what failed requests have left, which change
nothing else.** Whatever has been asked of a registry before: when recursion is reported, it is for
a declaration that refers to itself, directly or through others, or for one whose key is a mark that
an earlier request has left. When a request fails, whatever is asked after it is answered as it
would have been without this request, as long as the types that are handed over are the first ones
with their names, and no answer reports recursion for a mark that this request has left. -/
theorem reported_and_unchanged (declarations : List Declaration) (before : List Request)
    (request : Request) :
    let session := (answers declarations {} before).2
    let outcome := session.answer declarations request
    (∀ name, outcome.1 = .error (.recursiveType name) →
      ∃ d, IsOffered declarations [request] d ∧ d.name = name ∧
        (IsSelfReferring declarations d ∨ IsLeft declarations before d.key)) ∧
    ∀ cause, outcome.1 = .error cause → ∀ later : List Request,
      (∀ d, .generate d ∈ later → IsFirst declarations d) →
      (∀ key ∈ outcome.2.marks, key ∉ session.marks →
        .error (.recursiveType key.name) ∉ (outcome.2.answers declarations later).1) →
      HaveAnsweredAlike (session.answers declarations later)
      (outcome.2.answers declarations later) := by
  intro session outcome
  refine ⟨fun name => exists_recursive before request, fun cause failed later first unmet => ?_⟩
  have grows := (@answers_grows declarations {} .empty before).1
  have wf : session.registry.WellFormed := grows.wellFormed .empty
  have lacks : session.registry.Lacks session.marks := lacks_answers before .empty nofun
  have traces := grows.traces (.empty : Traces _ {})
  have derives : session.registry.DerivesNames := grows.derivesNames (nofun : DerivesNames {})
  obtain ⟨abreast, same⟩ :=
    (abreast_of_failed wf lacks traces request failed).answers wf later first
    fun key isNew => unmet key isNew.1 isNew.2
  exact ⟨same, fun key i j own other => (abreast.leadsAlike traces own other).exists_counterpart
    (abreast.own.wellFormed wf) (abreast.other.wellFormed wf)
    (abreast.own.grown.derivesNames derives) (abreast.other.grown.derivesNames derives) own other⟩

/-- A type that has a field of a type that is not declared. -/
def danglingDeclaration : Declaration :=
  .complex ⟨"Order", none,
    [{ name := "line", namespaceName? := none, type? := some ⟨none, "Line"⟩ }]⟩

/-- Asked for once, it leaves its mark. -/
theorem answer_once_dangling : answer [danglingDeclaration] {} (.generate danglingDeclaration) =
    (.error (.typeNotFound ⟨none, "Line"⟩), ⟨{}, [danglingDeclaration.key]⟩) := by
  simp only [answer, Request.step, danglingDeclaration, generateOn, bodyOn, fieldsOn, resolveOn]
  rfl

/-- Asked for twice, it is reported to refer to itself. -/
theorem answer_dangling :
    ((answers [danglingDeclaration] {} [.generate danglingDeclaration]).2.answer
      [danglingDeclaration]
      (.generate danglingDeclaration)).1 = .error (.recursiveType ⟨none, "Order"⟩) := by
  simp only [answers, answer_once_dangling]
  rfl

theorem reported_and_unchanged_dangling :
    (∃ d, IsOffered [danglingDeclaration] [.generate danglingDeclaration] d ∧
      d.name = ⟨none, "Order"⟩ ∧
      (IsSelfReferring [danglingDeclaration] d ∨
        IsLeft [danglingDeclaration] [.generate danglingDeclaration] d.key)) ∧
    HaveAnsweredAlike (answers [danglingDeclaration] {} [.resolve ⟨none, "Line"⟩])
      ((answer [danglingDeclaration] {} (.generate danglingDeclaration)).2.answers
        [danglingDeclaration] [.resolve ⟨none, "Line"⟩]) := by
  refine ⟨(reported_and_unchanged [danglingDeclaration] [.generate danglingDeclaration]
    (.generate danglingDeclaration)).1 _ answer_dangling, ?_⟩
  have failed : (answer [danglingDeclaration] {} (.generate danglingDeclaration)).1 =
      .error (.typeNotFound ⟨none, "Line"⟩) := by
    rw [answer_once_dangling]
  have answered : ((answer [danglingDeclaration] {} (.generate danglingDeclaration)).2.answers
    [danglingDeclaration]
      [.resolve ⟨none, "Line"⟩]).1 = [.error (.typeNotFound ⟨none, "Line"⟩)] := by
    rw [answer_once_dangling]
    simp only [answers, answer, Request.step, resolveOn]
    rfl
  refine (reported_and_unchanged [danglingDeclaration] [] (.generate danglingDeclaration)).2
    _ failed [.resolve ⟨none, "Line"⟩] (fun d mem => ?_) fun key _ _ mem => ?_
  · cases List.mem_singleton.1 mem
  · cases List.mem_singleton.1 (answered ▸ mem)

/-- **Recursion is not only reported for recursion**: a type that an earlier request has failed at
is reported too, although it refers to nothing that is declared. -/
theorem not_forall_isSelfReferring :
    ¬ ∀ (declarations : List Declaration) (before : List Request) (request : Request)
      (name : Xml.Name), ((answers declarations {} before).2.answer declarations request).1 =
        .error (.recursiveType name) →
        ∃ d, IsOffered declarations [request] d ∧ d.name = name ∧
        IsSelfReferring declarations d := by
  intro all
  obtain ⟨d, offered, -, -, r, refers, way⟩ := all _ _ _ _ answer_dangling
  have same : d = danglingDeclaration := by
    rcases offered with declared | handed
    · exact List.mem_singleton.1 declared
    · exact Request.generate.inj (List.mem_singleton.1 handed)
  subst same
  obtain rfl := List.mem_singleton.1 refers
  have unknown : firstType? [danglingDeclaration] ⟨none, "Line"⟩ = none := rfl
  rcases Relation.ReflTransGen.cases_head way with same | ⟨_, ⟨-, first, found, -⟩, -⟩
  · exact absurd same (by decide)
  · cases unknown.symm.trans found

end Session

end Registry

end SchemaBinding
