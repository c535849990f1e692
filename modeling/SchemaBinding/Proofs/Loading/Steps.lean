import Mathlib.Logic.Relation
import SchemaBinding.Schema.Loading

/-!
# Steps of a run

A run carries out one task after the other. A task declares something, or it
leads to a schema, whose body is taken up unless that has been done on the same
occasion before (`outcome`). What is done next is determined by the moment that
a run has come to (`Moment.next?`). There are four kinds of steps
(`Moment.Next.step`), each of which uses up some of a budget, so that no run goes
on forever (`wellFounded_next`).
-/

namespace SchemaBinding.Schema

/-! ## Imports and inclusions -/

/-- Whether a child of a schema is an import of a namespace, from a location if it gives one. -/
def Imports (node : Xml.Element) (namespaceName? location? : Option String) : Prop :=
  node.isNamed schemaNamespace "import" = true ∧ readImport node = (namespaceName?, location?)

/-- Whether a child of a schema is an inclusion of a location. -/
def Includes (node : Xml.Element) (location : String) : Prop :=
  node.isNamed schemaNamespace "include" = true ∧ readInclude node = .ok location

/-- What a child of a schema declares. -/
def declaredBy (outer : Option String) (node : Xml.Element) : List Declaration :=
  match readTopLevel node outer with
  | .ok (.declares declarations) => declarations
  | _ => []

/-- **What a child of a schema asks for** is in its name and its attributes. -/
theorem readTopLevel_eq_ok {node : Xml.Element} {outer : Option String} {top : TopLevel}
    (h : readTopLevel node outer = .ok top) :
    match top with
    | .declares _ => True
    | .imports namespaceName? location? => Imports node namespaceName? location?
    | .includes location => Includes node location := by
  obtain ⟨inSchema, reads⟩ := reads_of_readTopLevel h
  cases reads with
  | imports kind => exact ⟨Xml.Element.isNamed_iff.2 ⟨inSchema, kind⟩, rfl⟩
  | includes kind read => exact ⟨Xml.Element.isNamed_iff.2 ⟨inSchema, kind⟩, read⟩
  | _ => trivial

/-! ## Bodies -/

/-- The occasion on which the body of a schema is taken up: its target namespace is entered, or the
document at a location is included. -/
inductive Pass where
  | entering (namespaceName? : Option String)
  | including (location : String)
  deriving DecidableEq

/-- Whether something has been done in a run: a namespace entered, or a location included. -/
def Progress.Has (progress : Progress) : Pass → Prop
  | .entering namespaceName? => namespaceName? ∈ progress.entered
  | .including location => location ∈ progress.included

instance (progress : Progress) : DecidablePred progress.Has
  | .entering namespaceName? => inferInstanceAs (Decidable (namespaceName? ∈ progress.entered))
  | .including location => inferInstanceAs (Decidable (location ∈ progress.included))

/-- The progress when one more namespace has been entered, or one more location included. -/
def Progress.taking (progress : Progress) : Pass → Progress
  | .entering namespaceName? => { progress with entered := namespaceName? :: progress.entered }
  | .including location => { progress with included := location :: progress.included }

/-- The progress when something has been declared. -/
def Progress.declaring (progress : Progress) (declarations : List Declaration) : Progress :=
  { progress with declarations := progress.declarations ++ declarations }

@[simp] theorem Progress.has_declaring (progress : Progress) (declarations : List Declaration)
    (pass : Pass) :
    (progress.declaring declarations).Has pass ↔ progress.Has pass := by
  cases pass <;> rfl

@[simp] theorem Progress.has_taking (progress : Progress) (pass other : Pass) :
    (progress.taking pass).Has other ↔ other = pass ∨ progress.Has other := by
  cases pass <;> cases other <;> simp [taking, Has]

@[simp] theorem Progress.declarations_taking (progress : Progress) (pass : Pass) :
    (progress.taking pass).declarations = progress.declarations := by
  cases pass <;> rfl

namespace Sources

/-- A schema whose body is taken up. One that is entered is at hand, or in the document at a
location; one that is included is in the document at a location, and the including schema has a
namespace in force. -/
inductive Body (sources : Sources) where
  | entered (location? : Option String) (schema : sources.KnownSchema)
  | included (location : String) (schema : sources.KnownSchema) (outer : Option String)

namespace Body

variable {sources : Sources}

/-- The schema that is taken up. -/
def schema : sources.Body → sources.KnownSchema
  | entered _ schema => schema
  | included _ schema _ => schema

/-- The occasion on which it is. -/
def pass : sources.Body → Pass
  | entered _ schema => .entering (targetNamespace schema.val)
  | included location _ _ => .including location

/-- The namespace that is in force in a body. -/
def namespaceName? : sources.Body → Option String
  | entered _ schema => targetNamespace schema.val
  | included _ schema outer => (targetNamespace schema.val).or outer

/-- The tasks that a body consists of. -/
def tasks (body : sources.Body) : List sources.Task := sources.tasks body.schema body.namespaceName?

end Body

/-! ## Tasks -/

/-- What a task comes to: declarations, if any, or a body to take up. -/
inductive Outcome (sources : Sources) where
  | declares (declarations : List Declaration)
  | takesUp (body : sources.Body)

variable {sources : Sources}

/-- Takes up a body, unless that has been done on the same occasion. -/
def takeUp (progress : Progress) (body : sources.Body) : Except SchemaError sources.Outcome :=
  (checkSchema body.schema.val).map fun _ =>
    if progress.Has body.pass then .declares [] else .takesUp body

/-- The body that an import leads to. The schemas at hand come first. -/
def importedBody (namespaceName? location? : Option String) (schema : sources.KnownSchema) :
    sources.Body :=
  .entered (if (Keyed.get? sources.roots namespaceName?).isSome then none else location?) schema

/-- What a task comes to. -/
def outcome (sources : Sources) (progress : Progress) (task : sources.Task) :
    Except SchemaError sources.Outcome :=
  match readTopLevel task.2.val task.1 with
  | .error e => .error e
  | .ok (.declares declarations) => .ok (.declares declarations)
  | .ok (.imports namespaceName? location?) =>
    match sources.imported progress.entered namespaceName? location? with
    | .error cause => .error (.importing cause)
    | .ok none => .ok (.declares [])
    | .ok (some schema) => takeUp progress (importedBody namespaceName? location? schema)
  | .ok (.includes location) =>
    if location ∈ progress.included then .ok (.declares [])
    else
      match sources.document location with
      | .error cause => .error (.importing cause)
      | .ok schema => takeUp progress (.included location schema task.1)

/-! ## Moments -/

/-- A moment of a run: how far it has come, the bodies that it has taken up, the last one first, the
tasks that are left of them, and the schemas at hand whose turn is still to come. -/
structure Moment (sources : Sources) where
  progress : Progress
  bodies : List sources.Body
  work : List sources.Task
  waiting : List sources.KnownSchema

namespace Moment

/-- The beginning of a run. -/
def start (sources : Sources) : sources.Moment := ⟨{}, [], [], sources.rootSchemas⟩

/-- The moment after something has come to an outcome. -/
def after (moment : sources.Moment) : sources.Outcome → sources.Moment
  | .declares declarations => { moment with progress := moment.progress.declaring declarations }
  | .takesUp body =>
    { moment with
      progress := moment.progress.taking body.pass
      bodies := body :: moment.bodies
      work := body.tasks ++ moment.work }

/-- What comes next: a moment or a failure, unless the run is over. Tasks come before the schemas at
hand. -/
def next? : sources.Moment → Option (Except SchemaError sources.Moment)
  | ⟨progress, bodies, task :: rest, waiting⟩ =>
    some ((sources.outcome progress task).map (after ⟨progress, bodies, rest, waiting⟩))
  | ⟨progress, bodies, [], schema :: later⟩ =>
    some ((takeUp progress (.entered none schema)).map (after ⟨progress, bodies, [], later⟩))
  | ⟨_, _, [], []⟩ => none

/-- Whether a moment comes next after another one. -/
def Next (moment later : sources.Moment) : Prop := moment.next? = some (.ok later)

/-- The result of a run that ends in a moment. -/
def result? (moment : sources.Moment) : Option (Except SchemaError (List Declaration)) :=
  match moment.next? with
  | none => some (.ok moment.progress.declarations)
  | some (.error e) => some (.error e)
  | some (.ok _) => none

/-- Whether a run comes to a moment. -/
def IsReached (moment : sources.Moment) : Prop := Relation.ReflTransGen Next (start sources) moment

end Moment

/-! ## What a task comes to -/

theorem takeUp_of_error {progress : Progress} (body : sources.Body) {e : SchemaError}
    (bad : checkSchema body.schema.val = .error e) : takeUp progress body = .error e := by
  rw [takeUp, bad]
  rfl

theorem takeUp_of_has {progress : Progress} (body : sources.Body)
    (good : checkSchema body.schema.val = .ok ()) (has : progress.Has body.pass) :
    takeUp progress body = .ok (.declares []) := by
  rw [takeUp, good]
  exact congrArg Except.ok (if_pos has)

theorem takeUp_of_not_has {progress : Progress} (body : sources.Body)
    (good : checkSchema body.schema.val = .ok ()) (new : ¬ progress.Has body.pass) :
    takeUp progress body = .ok (.takesUp body) := by
  rw [takeUp, good]
  exact congrArg Except.ok (if_neg new)

/-- Whether a body may be taken up: it is that of a schema, on an occasion that has not been yet. -/
structure Body.IsDue (progress : Progress) (body : sources.Body) : Prop where
  isSchema : checkSchema body.schema.val = .ok ()
  new : ¬ progress.Has body.pass

theorem takeUp_eq_ok {progress : Progress} {body : sources.Body} {result : sources.Outcome}
    (h : takeUp progress body = .ok result) :
    result = .declares [] ∧ progress.Has body.pass ∨ result = .takesUp body ∧
    body.IsDue progress := by
  cases checked : checkSchema body.schema.val with
  | error e => cases (takeUp_of_error body checked).symm.trans h
  | ok _ =>
    by_cases has : progress.Has body.pass
    · cases (takeUp_of_has body checked has).symm.trans h
      exact .inl ⟨rfl, has⟩
    · cases (takeUp_of_not_has body checked has).symm.trans h
      exact .inr ⟨rfl, checked, has⟩

/-- Whether a body has been come to as it should: a schema at hand, or a document that an import or
an inclusion leads to. Imports of the namespaces of schemas at hand lead to no documents. -/
def Body.IsFound : sources.Body → Prop
  | .entered none schema => schema ∈ sources.rootSchemas
  | .entered (some location) schema =>
    sources.document location = .ok schema ∧ ∃ node ∈ sources.nodes,
    ∃ namespaceName?, Imports node namespaceName? (some location) ∧
    Keyed.get? sources.roots namespaceName? = none
  | .included location schema _ => sources.document location = .ok schema ∧ ∃ node ∈ sources.nodes,
    Includes node location

theorem mem_rootSchemas {schema : sources.KnownSchema} :
    schema ∈ sources.rootSchemas ↔
      ∃ namespaceName?, (namespaceName?, schema.val) ∈ sources.roots := by
  unfold rootSchemas
  rw [List.mem_map]
  constructor
  · rintro ⟨entry, -, rfl⟩
    exact ⟨entry.val.1, entry.property⟩
  · rintro ⟨namespaceName?, mem⟩
    exact ⟨⟨_, mem⟩, List.mem_attach _ _, rfl⟩

/-- What an import leads to is at hand, or else it is the document at its location. -/
theorem isFound_importedBody {entered : List (Option String)}
    {namespaceName? location? : Option String} {schema : sources.KnownSchema} {node : Xml.Element}
    (mem : node ∈ sources.nodes) (imports : Imports node namespaceName? location?)
    (asked : sources.imported entered namespaceName? location? = .ok (some schema)) :
    (importedBody namespaceName? location? schema).IsFound := by
  unfold imported at asked
  unfold importedBody
  split at asked
  · cases asked
  · split at asked
    next root found =>
      cases asked
      simp only [found, Option.isSome_some, if_true]
      exact mem_rootSchemas.2 ⟨namespaceName?, Keyed.mem_of_get? found⟩
    next absent =>
      simp only [absent, Option.isSome_none, Bool.false_eq_true, if_false]
      split at asked
      · cases asked
      · next location =>
        cases fetched : sources.document location with
        | error cause => rw [fetched] at asked; cases asked
        | ok document =>
          rw [fetched] at asked
          cases asked
          exact ⟨fetched, node, mem, namespaceName?, imports, absent⟩

/-- **What a task comes to.** Its node can be read. The task comes to what the node declares, which
is nothing if the node imports or includes something, or to a body that is due. -/
theorem outcome_eq_ok {progress : Progress} {task : sources.Task} {result : sources.Outcome}
    (h : sources.outcome progress task = .ok result) :
    (∃ top, readTopLevel task.2.val task.1 = .ok top) ∧
      (result = .declares (declaredBy task.1 task.2.val) ∨ ∃ body, result = .takesUp body ∧
        declaredBy task.1 task.2.val = [] ∧ body.IsDue progress ∧ body.IsFound) := by
  -- Taking up a body that has been come to is the one way not to declare anything.
  have leads : ∀ {body : sources.Body}, declaredBy task.1 task.2.val = [] → body.IsFound →
      takeUp progress body = .ok result → result = .declares (declaredBy task.1 task.2.val) ∨
        ∃ body, result = .takesUp body ∧ declaredBy task.1 task.2.val = [] ∧ body.IsDue progress ∧
        body.IsFound := by
    intro body nothing isFound taken
    obtain ⟨known, -⟩ | ⟨same, isDue⟩ := takeUp_eq_ok taken
    · exact .inl (nothing ▸ known)
    · exact .inr ⟨body, same, nothing, isDue, isFound⟩
  unfold outcome at h
  split at h
  · cases h
  · next declarations read =>
    cases h
    exact ⟨⟨_, read⟩, .inl (by rw [declaredBy, read])⟩
  · next namespaceName? location? read =>
    have nothing : declaredBy task.1 task.2.val = [] := by rw [declaredBy, read]
    refine ⟨⟨_, read⟩, ?_⟩
    split at h
    · cases h
    · cases h
      exact .inl (nothing ▸ rfl)
    · next schema asked =>
      exact leads nothing (isFound_importedBody task.2.property (readTopLevel_eq_ok read) asked) h
  · next location read =>
    have nothing : declaredBy task.1 task.2.val = [] := by rw [declaredBy, read]
    refine ⟨⟨_, read⟩, ?_⟩
    split at h
    · cases h
      exact .inl (nothing ▸ rfl)
    · split at h
      · cases h
      · next schema fetched =>
        have isFound : (Body.included location schema task.1).IsFound :=
          ⟨fetched, task.2.val, task.2.property, readTopLevel_eq_ok read⟩
        exact leads nothing isFound h

/-! ## Steps -/

/-- **What a step does.** A task comes to what its node declares, or to a body; a schema at hand is
passed over, or its body is taken up when no tasks are left. -/
inductive Moment.Step : sources.Moment → sources.Moment → Prop
  | declares {progress : Progress} {bodies : List sources.Body} {task : sources.Task}
      {rest : List sources.Task} {waiting : List sources.KnownSchema}
      (read : ∃ top, readTopLevel task.2.val task.1 = .ok top) :
      Step ⟨progress, bodies, task :: rest, waiting⟩
        ⟨progress.declaring (declaredBy task.1 task.2.val), bodies, rest, waiting⟩
  | takesUp {progress : Progress} {bodies : List sources.Body} {task : sources.Task}
      {rest : List sources.Task} {waiting : List sources.KnownSchema} {body : sources.Body}
      (read : ∃ top, readTopLevel task.2.val task.1 = .ok top)
      (nothing : declaredBy task.1 task.2.val = [])
      (isDue : body.IsDue progress) (isFound : body.IsFound) :
      Step ⟨progress, bodies, task :: rest, waiting⟩
        ⟨progress.taking body.pass, body :: bodies, body.tasks ++ rest, waiting⟩
  | passesOver {progress : Progress} {bodies : List sources.Body} {schema : sources.KnownSchema}
      {later : List sources.KnownSchema}
      (has : progress.Has (.entering (targetNamespace schema.val))) :
      Step ⟨progress, bodies, [], schema :: later⟩ ⟨progress, bodies, [], later⟩
  | enters {progress : Progress} {bodies : List sources.Body} {schema : sources.KnownSchema}
      {later : List sources.KnownSchema} (isDue : (Body.entered none schema).IsDue progress) :
      Step ⟨progress, bodies, [], schema :: later⟩
        ⟨progress.taking (.entering (targetNamespace schema.val)), .entered none schema :: bodies,
          (Body.entered none schema).tasks, later⟩

@[simp] theorem Progress.declaring_nil (progress : Progress) :
    progress.declaring [] = progress := by
  rw [Progress.declaring, List.append_nil]

theorem Moment.Next.step {moment later : sources.Moment} (h : Next moment later) :
    Step moment later := by
  obtain ⟨progress, bodies, work, waiting⟩ := moment
  unfold Next next? at h
  split at h
  next task rest _ same =>
    cases same
    cases came : sources.outcome progress task with
    | error e => rw [came] at h; cases h
    | ok result =>
      rw [came] at h
      cases h
      obtain ⟨read, rfl | ⟨body, rfl, nothing, isDue, isFound⟩⟩ := outcome_eq_ok came
      · exact .declares read
      · exact .takesUp read nothing isDue isFound
  next schema rest same =>
    cases same
    cases came : takeUp progress (.entered none schema) with
    | error e => rw [came] at h; cases h
    | ok result =>
      rw [came] at h
      cases h
      obtain ⟨rfl, has⟩ | ⟨rfl, isDue⟩ := takeUp_eq_ok came
      · rw [after, Progress.declaring_nil]
        exact .passesOver has
      · rw [after, List.append_nil]
        exact .enters isDue
  next => cases h

/-! ## Runs end -/

/-- What may be done in a run: entering the namespace of a schema, or including a location that a
schema names. -/
def IsPossible (sources : Sources) : Pass → Prop
  | .entering namespaceName? => namespaceName? ∈ sources.namespaces
  | .including location => location ∈ sources.locations

theorem isPossible_entered (location? : Option String) (schema : sources.KnownSchema) :
    sources.IsPossible (Body.entered location? schema).pass :=
  mem_namespaces schema

theorem Body.IsFound.isPossible {body : sources.Body} (h : body.IsFound) :
    sources.IsPossible body.pass := by
  cases body with
  | entered location? schema => exact isPossible_entered location? schema
  | included location schema outer =>
    obtain ⟨-, node, mem, -, read⟩ := h
    exact List.mem_filterMap.2 ⟨node, mem, valueOf?_of_requiredValue read⟩

/-- **Doing something for the first time uses up some of the budget.** -/
theorem budget_taking_lt {progress : Progress} {pass : Pass} (possible : sources.IsPossible pass)
    (new : ¬ progress.Has pass) :
    sources.budget (progress.taking pass) < sources.budget progress := by
  cases pass with
  | entering namespaceName? => exact Nat.add_lt_add_right (remaining_cons_lt possible new) _
  | including location => exact Nat.add_lt_add_left (remaining_cons_lt possible new) _

namespace Moment

/-- How much a run may still take up, and how much is left of what it has taken up. -/
def size (moment : sources.Moment) : Nat × Nat :=
  (sources.budget moment.progress, moment.work.length + moment.waiting.length)

theorem Step.size_lt {moment later : sources.Moment} (h : Step moment later) :
    Prod.Lex (· < ·) (· < ·) later.size moment.size := by
  cases h with
  | declares _ =>
    exact Prod.Lex.right _ (Nat.add_lt_add_right (Nat.lt_succ_self _) _)
  | takesUp _ _ isDue isFound =>
    exact Prod.Lex.left _ _ (budget_taking_lt isFound.isPossible isDue.new)
  | passesOver _ => exact Prod.Lex.right _ (Nat.add_lt_add_left (Nat.lt_succ_self _) _)
  | enters isDue => exact Prod.Lex.left _ _ (budget_taking_lt (isPossible_entered none _) isDue.new)

/-- **No run goes on forever**, from whatever moment. -/
theorem wellFounded_next (sources : Sources) :
    WellFounded fun later moment : sources.Moment => Next moment later :=
  Subrelation.wf (fun h => h.step.size_lt)
    (InvImage.wf size (Prod.lex Nat.lt_wfRel Nat.lt_wfRel).wf)

end Moment

end Sources

end SchemaBinding.Schema
