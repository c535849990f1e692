import SchemaBinding.Proofs.Loading.Roots

/-!
# What becomes of inclusions

Every inclusion in a schema that is taken up is come to
(`IsReached.comesTo`). When a run comes to an inclusion of a location for the
first time, it takes up the document there, with the namespace in force
(`outcome_of_includes`); later on it passes over inclusions of the location,
whatever namespace is in force there. So the children of an included document
are represented once, in the namespace in which the location was first included
(`exists_represents_of_includes`), and a document that schemas of two namespaces
include does not become part of both (`not_forall_represents_included`).
-/

namespace SchemaBinding.Schema.Sources

variable {sources : Sources}

/-! ## Steps at inclusions -/

/-- **What an inclusion comes to**: nothing if its location has been included, or else the document
there. -/
theorem outcome_of_includes {progress : Progress} {task : sources.Task} {location : String}
    {result : sources.Outcome} (includes : Includes task.2.val location)
    (h : sources.outcome progress task = .ok result) :
    location ∈ progress.included ∧ result = .declares [] ∨ location ∉ progress.included ∧
      ∃ schema, sources.document location = .ok schema ∧
        result = .takesUp (.included location schema task.1) := by
  unfold outcome at h
  rw [readTopLevel_of_includes includes] at h
  dsimp only at h
  split at h
  · next known => exact .inl ⟨known, (Except.ok.inj h).symm⟩
  · next new =>
    split at h
    · cases h
    · next schema fetched =>
      obtain ⟨-, known⟩ | ⟨same, -⟩ := takeUp_eq_ok h
      · exact absurd known new
      · exact .inr ⟨new, schema, fetched, same⟩

/-- A document is included by a task, with the namespace that is in force there. -/
theorem includes_of_outcome {progress : Progress} {task : sources.Task} {location : String}
    {schema : sources.KnownSchema} {outer : Option String}
    (h : sources.outcome progress task = .ok (.takesUp (.included location schema outer))) :
    task.1 = outer ∧ Includes task.2.val location ∧ location ∉ progress.included := by
  unfold outcome at h
  split at h
  · cases h
  · cases h
  · split at h
    · cases h
    · cases h
    · obtain ⟨same, -⟩ | ⟨same, -⟩ := takeUp_eq_ok h <;> cases same
  · next read =>
    split at h
    · cases h
    · next new =>
      split at h
      · cases h
      · obtain ⟨same, -⟩ | ⟨same, -⟩ := takeUp_eq_ok h
        · cases same
        · cases same
          exact ⟨rfl, readTopLevel_eq_ok read, new⟩

namespace Moment

variable {moment later : sources.Moment} {outer : Option String} {location : String}

/-- Whether a run comes to an inclusion of a location, in a schema in which a namespace is in
force. -/
structure ComesTo (moment : sources.Moment) (outer : Option String) (location : String) : Prop where
  reached : moment.IsReached
  here : ∃ node rest, moment.work = (outer, node) :: rest ∧ Includes node.val location

/-- One moment comes next. -/
theorem rightUnique_next (sources : Sources) :
    Relator.RightUnique (Next : sources.Moment → sources.Moment → Prop) :=
  fun _ _ _ h h' => Except.ok.inj (Option.some.inj (h.symm.trans h'))

theorem Step.bodies_suffix (h : Step moment later) : moment.bodies <:+ later.bodies := by
  cases h with
  | declares _ => exact List.suffix_refl _
  | takesUp _ _ _ _ => exact List.suffix_cons ..
  | passesOver _ => exact List.suffix_refl _
  | enters _ => exact List.suffix_cons ..

/-- What has been taken up stays so. -/
theorem bodies_suffix (h : Relation.ReflTransGen Next moment later) :
    moment.bodies <:+ later.bodies := by
  induction h with
  | refl => exact List.suffix_refl _
  | tail _ next ih => exact ih.trans next.step.bodies_suffix

/-- Whatever moment a run comes to, it goes on from there to its end. -/
theorem IsReached.goesOn (reached : moment.IsReached) (reached' : later.IsReached)
    (ended : later.next? = none) :
    Relation.ReflTransGen Next moment later := by
  rcases Relation.ReflTransGen.total_of_right_unique (rightUnique_next sources)
    reached reached' with goes | back
  · exact goes
  · rcases Relation.ReflTransGen.cases_head back with rfl | ⟨beyond, next, -⟩
    · exact .refl
    · cases ended.symm.trans next

/-- A document that has been included after a step was so before, or the step includes it: there is
an inclusion of its location at the head of the work, and the location has not been included. -/
theorem included_of_next (next : Next moment later) {schema : sources.KnownSchema}
    (taken : .included location schema outer ∈ later.bodies) :
    .included location schema outer ∈ moment.bodies ∨
      (∃ node rest, moment.work = (outer, node) :: rest ∧ Includes node.val location) ∧
        location ∉ moment.progress.included := by
  obtain ⟨progress, bodies, work, waiting⟩ := moment
  unfold Next next? at next
  split at next
  next task rest _ same =>
    cases same
    cases came : sources.outcome progress task with
    | error e => rw [came] at next; cases next
    | ok result =>
      rw [came] at next
      cases next
      cases result with
      | declares declarations => exact .inl taken
      | takesUp body =>
        rcases List.mem_cons.1 taken with rfl | earlier
        · obtain ⟨rfl, includes, new⟩ := includes_of_outcome came
          exact .inr ⟨⟨task.2, rest, rfl, includes⟩, new⟩
        · exact .inl earlier
  next schema rest same =>
    cases same
    cases came : takeUp progress (.entered none schema) with
    | error e => rw [came] at next; cases next
    | ok result =>
      rw [came] at next
      cases next
      -- A schema that is entered is not an included one.
      obtain ⟨rfl, -⟩ | ⟨rfl, -⟩ := takeUp_eq_ok came
      · exact .inl taken
      · exact .inl ((List.mem_cons.1 taken).resolve_left nofun)
  next => cases next

/-- **A document that has been included** was so in a moment in which the run came to an inclusion
of its location for the first time. -/
theorem IsReached.exists_first (reached : moment.IsReached) {schema : sources.KnownSchema}
    (taken : .included location schema outer ∈ moment.bodies) :
    ∃ first : sources.Moment, first.ComesTo outer location ∧ location ∉ first.progress.included ∧
      Relation.ReflTransGen Next first moment := by
  induction reached with
  | refl => cases taken
  | @tail moment later reached next ih =>
    rcases included_of_next next taken with earlier | ⟨here, new⟩
    · obtain ⟨first, comes, new, goes⟩ := ih earlier
      exact ⟨first, comes, new, goes.tail next⟩
    · exact ⟨moment, ⟨reached, here⟩, new, .single next⟩

/-- A task that is left before a step is left after it, or the step is about it. -/
theorem Step.mem_work (step : Step moment later) {task : sources.Task} (left : task ∈ moment.work) :
    task ∈ later.work ∨ ∃ rest, moment.work = task :: rest := by
  cases step with
  | declares _ =>
    rcases List.mem_cons.1 left with rfl | left
    · exact .inr ⟨_, rfl⟩
    · exact .inl left
  | takesUp _ _ _ _ =>
    rcases List.mem_cons.1 left with rfl | left
    · exact .inr ⟨_, rfl⟩
    · exact .inl (List.mem_append_right _ left)
  | passesOver _ => cases left
  | enters _ => cases left

/-- The tasks of a body that a step takes up are left after it. -/
theorem Step.mem_bodies (step : Step moment later) {body : sources.Body}
    (taken : body ∈ later.bodies) :
    body ∈ moment.bodies ∨ ∀ task ∈ body.tasks, task ∈ later.work := by
  cases step with
  | declares _ => exact .inl taken
  | takesUp _ _ _ _ =>
    rcases List.mem_cons.1 taken with rfl | earlier
    · exact .inr fun _ ofBody => List.mem_append_left _ ofBody
    · exact .inl earlier
  | passesOver _ => exact .inl taken
  | enters _ =>
    rcases List.mem_cons.1 taken with rfl | earlier
    · exact .inr fun _ ofBody => ofBody
    · exact .inl earlier

/-- The tasks of bodies are left, or they have been come to. -/
theorem IsReached.comesTo_task (reached : moment.IsReached) {body : sources.Body}
    (taken : body ∈ moment.bodies) {task : sources.Task} (ofBody : task ∈ body.tasks) :
    task ∈ moment.work ∨ ∃ earlier : sources.Moment, earlier.IsReached ∧
      ∃ rest, earlier.work = task :: rest := by
  induction reached with
  | refl => cases taken
  | @tail moment later reached next ih =>
    rcases next.step.mem_bodies taken with earlier | new
    · rcases ih earlier with left | comes
      · exact (next.step.mem_work left).imp_right fun here => ⟨moment, reached, here⟩
      · exact .inr comes
    · exact .inl (new task ofBody)

/-- When a run has ended, what the children of a body declare is in the result. -/
theorem IsSound.exists_declared (sound : moment.IsSound) (ended : moment.next? = none)
    {body : sources.Body} (taken : body ∈ moment.bodies) {node : Xml.Element}
    (mem : node ∈ body.schema.val.children) (declaring : IsDeclaring node) :
    ∃ d ∈ moment.progress.declarations, Represents body.namespaceName? node d := by
  obtain ⟨task, ofBody, inForce, ofNode⟩ := exists_task mem
  obtain ⟨top, read⟩ := (sound.read body taken task ofBody).resolve_left
    ((nothing_left ended).1 ▸ List.not_mem_nil)
  rw [inForce, ofNode] at read
  obtain ⟨d, declared, represents⟩ := exists_represents declaring read
  have ofBody : d ∈ body.declared := List.mem_flatMap.2 ⟨node, mem, declared⟩
  exact ⟨d, (sound.perm_of_ended ended).mem_iff.2 (List.mem_flatMap.2 ⟨body, taken, ofBody⟩),
    represents⟩

/-- When a run has ended, it has come to every inclusion in the schemas that it has taken up. -/
theorem IsReached.exists_comesTo (reached : moment.IsReached) (ended : moment.next? = none)
    {body : sources.Body} (taken : body ∈ moment.bodies) {node : Xml.Element}
    (mem : node ∈ body.schema.val.children) (includes : Includes node location) :
    ∃ there : sources.Moment, there.ComesTo body.namespaceName? location := by
  obtain ⟨task, ofBody, inForce, ofNode⟩ := exists_task mem
  have left : task ∉ moment.work := (nothing_left ended).1 ▸ List.not_mem_nil
  obtain ⟨there, reached, rest, here⟩ := (reached.comesTo_task taken ofBody).resolve_left left
  exact ⟨there, reached, task.2, rest, inForce ▸ here, ofNode ▸ includes⟩

/-- An inclusion of a location that has been included is passed over. -/
theorem ComesTo.next_of_mem (comes : moment.ComesTo outer location)
    (known : location ∈ moment.progress.included) :
    Next moment { moment with work := moment.work.tail } := by
  obtain ⟨-, node, rest, here, includes⟩ := comes
  obtain ⟨progress, bodies, work, waiting⟩ := moment
  obtain rfl : work = (outer, node) :: rest := here
  rw [Next, next?, outcome_including_again (readTopLevel_of_includes includes outer) known]
  change some (Except.ok (⟨progress.declaring [], bodies, rest, waiting⟩ : sources.Moment)) = _
  rw [Progress.declaring_nil]
  rfl

/-- The document at a location is taken up when the location is first included. -/
theorem next_of_notMem {progress : Progress} {bodies : List sources.Body} {task : sources.Task}
    {rest : List sources.Task} {waiting : List sources.KnownSchema} {schema : sources.KnownSchema}
    (includes : Includes task.2.val location) (new : location ∉ progress.included)
    (fetched : sources.document location = .ok schema)
    (isSchema : checkSchema schema.val = .ok ()) :
    Next ⟨progress, bodies, task :: rest, waiting⟩ ⟨progress.taking (.including location),
      .included location schema task.1 :: bodies, (Body.included location schema task.1).tasks ++
        rest, waiting⟩ := by
  rw [Next, next?, outcome_including (readTopLevel_of_includes includes task.1)
    new fetched isSchema]
  rfl

/-- **A run that comes to an inclusion** and does not fail has taken up the document at its location
in the end, with the namespace in force where it first came to an inclusion of the location. -/
theorem ComesTo.exists_taken (comes : moment.ComesTo outer location) {last : sources.Moment}
    (reached : last.IsReached) (ended : last.next? = none) :
    ∃ (first : sources.Moment) (outer' : Option String) (schema : sources.KnownSchema),
      first.ComesTo outer' location ∧ location ∉ first.progress.included ∧
        Relation.ReflTransGen Next first moment ∧
      .included location schema outer' ∈ last.bodies := by
  have goes := comes.reached.goesOn reached ended
  by_cases known : location ∈ moment.progress.included
  · obtain ⟨body, taken, pass⟩ :=
      List.mem_map.1 ((comes.reached.isSound.has (.including location)).1 known)
    cases body with
    | entered location? schema => cases pass
    | included location' schema outer' =>
      cases pass
      obtain ⟨first, comes', new, goes'⟩ := comes.reached.exists_first taken
      exact ⟨first, outer', schema, comes', new, goes', (bodies_suffix goes).mem taken⟩
  · obtain ⟨node, rest, here, includes⟩ := comes.here
    rcases Relation.ReflTransGen.cases_head goes with rfl | ⟨later, next, goes⟩
    · exact absurd here ((nothing_left ended).1 ▸ nofun)
    · -- The next step takes up the document.
      refine ⟨moment, outer, ?_⟩
      have step := next
      obtain ⟨progress, bodies, work, waiting⟩ := moment
      obtain rfl : work = (outer, node) :: rest := here
      unfold Next next? at step
      dsimp only at step
      cases came : sources.outcome progress (outer, node) with
      | error e => rw [came] at step; cases step
      | ok result =>
        rw [came] at step
        cases step
        obtain ⟨known', -⟩ | ⟨-, schema, -, rfl⟩ := outcome_of_includes includes came
        · exact absurd known' known
        · exact ⟨schema, comes, known, .refl, (bodies_suffix goes).mem (List.mem_cons_self ..)⟩

end Moment

/-! ## What becomes of included documents -/

/-- **Included documents are represented once**, in the namespace of the first inclusion. A run that
does not fail comes to every inclusion in the schemas that it takes up. Whenever it comes to one, a
document is at the location; if the document has no target namespace, what its children declare is
in the result, in the namespace that was in force where the run first came to an inclusion of the
location. An inclusion of a location that has been included is passed over. -/
theorem exists_represents_of_includes {declarations : List Declaration}
    (loaded : sources.declarations = .ok declarations) :
    (∀ moment : sources.Moment, moment.IsReached →
      ∀ body ∈ moment.bodies, ∀ node ∈ body.schema.val.children,
      ∀ location, Includes node location → ∃ there :
        sources.Moment, there.ComesTo body.namespaceName? location) ∧
    ∀ (moment : sources.Moment) (outer : Option String) (location : String),
      moment.ComesTo outer location →
      (∃ (first : sources.Moment) (outer' : Option String) (schema : sources.KnownSchema),
        first.ComesTo outer' location ∧ location ∉ first.progress.included ∧
        Relation.ReflTransGen Moment.Next first moment ∧ sources.document location = .ok schema ∧
        (targetNamespace schema.val = none → ∀ node ∈ schema.val.children, IsDeclaring node →
          ∃ d ∈ declarations, Represents outer' node d)) ∧
      (location ∈ moment.progress.included →
        moment.Next { moment with work := moment.work.tail }) := by
  obtain ⟨last, reached, ended, rfl⟩ := Moment.exists_of_declarations loaded
  have sound := reached.isSound
  constructor
  · intro moment reached' body taken node mem location includes
    have taken' : body ∈ last.bodies :=
      (Moment.bodies_suffix (reached'.goesOn reached ended)).mem taken
    exact reached.exists_comesTo ended taken' mem includes
  · intro moment outer location comes
    refine ⟨?_, comes.next_of_mem⟩
    obtain ⟨first, outer', schema, comes', new, goes, taken⟩ := comes.exists_taken reached ended
    refine ⟨first, outer', schema, comes', new, goes, (sound.found _ taken).1,
      fun noNamespace node mem declaring => ?_⟩
    have represented := sound.exists_declared ended taken mem declaring
    rw [Body.namespaceName?, noNamespace] at represented
    exact represented

/-- A document that declares an element, without a namespace. -/
def sharedText : String :=
  "<schema xmlns=\"http://www.w3.org/2001/XMLSchema\"><element name=\"Note\" type=\"string\"/>" ++
    "</schema>"

def sharedSchema : Xml.Element :=
  schemaElement [(none, schemaNamespace)] "schema" [] [noteElement "Note"]

theorem parse_sharedText : Xml.parseDocument false sharedText = .ok sharedSchema := by
  decide +kernel

/-- A schema that includes the document and has nothing else. -/
def includingSchema (namespaceName : String) : Xml.Element :=
  schemaElement [(none, schemaNamespace)] "schema" [("targetNamespace", namespaceName)]
    [schemaElement [(none, schemaNamespace)] "include" [("schemaLocation", "c")] []]

/-- Two schemas of different namespaces that include the document. -/
def sharedSources : Sources :=
  ofRoots [includingSchema "urn:a", includingSchema "urn:b"] (.ofTable [("c", sharedText)]) false

theorem exists_document_shared :
    ∃ schema, sharedSources.document "c" = .ok schema ∧ schema.val = sharedSchema :=
  document_of_loadRoot (loadRoot_ofTable rfl parse_sharedText)

/-- What the document declares, in the namespace of the first schema. -/
def sharedDeclaration : Declaration :=
  .element { name := "Note", namespaceName? := some "urn:a",
             type? := some ⟨some schemaNamespace, "string"⟩ }

/-- The document is included in the first schema. Then the run comes to the inclusion in the second
one, and ends. -/
theorem exists_comesTo_shared :
    ∃ there : sharedSources.Moment, there.ComesTo (some "urn:b") "c" ∧
      there.resultWithin 2 = some (.ok [sharedDeclaration]) := by
  obtain ⟨⟨_, known⟩, fetched, rfl⟩ := exists_document_shared
  let first : sharedSources.KnownSchema := ⟨includingSchema "urn:a", by exact List.mem_cons_self ..⟩
  let second : sharedSources.KnownSchema :=
    ⟨includingSchema "urn:b", by exact List.mem_cons_of_mem _ (List.mem_cons_self ..)⟩
  let shared : sharedSources.Body := .included "c" ⟨sharedSchema, known⟩ (some "urn:a")
  let entered : sharedSources.Moment :=
    ⟨{ entered := [some "urn:a"] }, [.entered none first],
      (Body.entered none first).tasks, [second]⟩
  let included : sharedSources.Moment :=
    ⟨{ entered := [some "urn:a"], included := ["c"] }, [shared, .entered none first],
      shared.tasks, [second]⟩
  let declared : sharedSources.Moment :=
    ⟨{ entered := [some "urn:a"], included := ["c"], declarations := [sharedDeclaration] },
      [shared, .entered none first], [], [second]⟩
  let there : sharedSources.Moment :=
    ⟨{ entered := [some "urn:b", some "urn:a"], included := ["c"],
       declarations := [sharedDeclaration] },
      [.entered none second, shared, .entered none first], (Body.entered none second).tasks, []⟩
  have reached : there.IsReached := by
    have toEntered : (Moment.start sharedSources).Next entered := rfl
    have toIncluded : entered.Next included :=
      Moment.next_of_notMem ⟨rfl, rfl⟩ List.not_mem_nil fetched rfl
    have toDeclared : included.Next declared := rfl
    have toThere : declared.Next there := rfl
    exact (((Relation.ReflTransGen.single toEntered).tail toIncluded).tail toDeclared).tail toThere
  exact ⟨there, ⟨reached, _, _, rfl, rfl, rfl⟩, rfl⟩

theorem declarations_shared : sharedSources.declarations = .ok [sharedDeclaration] := by
  obtain ⟨there, comes, ended⟩ := exists_comesTo_shared
  rw [← comes.reached.finish_eq, Moment.finish_of_resultWithin ended]

theorem exists_represents_of_includes_shared :
    ∃ declarations, sharedSources.declarations = .ok declarations ∧
      ∃ there : sharedSources.Moment, there.ComesTo (some "urn:b") "c" ∧
        ∃ outer', ∃ d ∈ declarations, Represents outer' (noteElement "Note") d := by
  obtain ⟨there, comes, -⟩ := exists_comesTo_shared
  obtain ⟨-, included⟩ := exists_represents_of_includes declarations_shared
  obtain ⟨⟨first, outer', schema, -, -, -, fetched, represented⟩, -⟩ := included there _ _ comes
  obtain ⟨schema', fetched', rest⟩ := exists_document_shared
  obtain rfl := Except.ok.inj (fetched.symm.trans fetched')
  rw [rest] at represented
  exact ⟨_, declarations_shared, there, comes, outer',
    represented rfl _ (List.mem_singleton_self _) ⟨"element", by decide, by decide⟩⟩

/-- **Not every including namespace gets the included declarations**: of two schemas of different
namespaces that include one document, the first one gets them. -/
theorem not_forall_represents_included :
    ¬ ∀ (sources : Sources) (declarations : List Declaration), sources.declarations =
      .ok declarations →
      ∀ (there : sources.Moment) (outer : Option String) (location : String),
        there.ComesTo outer location →
        ∀ schema, sources.document location = .ok schema → targetNamespace schema.val = none →
          ∀ node ∈ schema.val.children, IsDeclaring node → ∃ d ∈ declarations,
            node.valueOf? "name" = some d.localName ∧
            d.namespaceName? = ownNamespace node outer := by
  intro all
  obtain ⟨there, comes, -⟩ := exists_comesTo_shared
  obtain ⟨schema, fetched, rest⟩ := exists_document_shared
  have represented := all _ _ declarations_shared there _ _ comes schema fetched
  rw [rest] at represented
  obtain ⟨d, mem, -, namespaces⟩ := represented rfl (noteElement "Note") (List.mem_singleton_self _)
    ⟨"element", by decide, by decide⟩
  rw [List.mem_singleton.1 mem] at namespaces
  exact absurd namespaces (by decide)

end SchemaBinding.Schema.Sources
