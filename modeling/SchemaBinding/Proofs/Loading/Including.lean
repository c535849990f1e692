import SchemaBinding.Proofs.Loading.Once

/-!
# Runs that include documents

What a run makes of its next task, for nodes that declare something and for
nodes that include a document (`run_of_declares`, `run_of_includes`). So tasks that
only declare something can be passed in one go (`run_of_declaring`). A schema
that includes itself declares everything twice
(`load_of_includes_itself`).
-/

namespace SchemaBinding.Schema

/-- The schema at a location is the only one at hand. -/
theorem load_of_loadRoot {library : Library} {allowDocumentType : Bool} {location : String}
    {root : Xml.Element} (loaded : loadRoot library allowDocumentType location = .ok root) :
    load library allowDocumentType location =
      (Sources.ofRoots [root] library allowDocumentType).declarations := by
  unfold load
  rw [loaded]
  rfl

namespace Sources

variable {sources : Sources}

/-! ## Documents -/

/-- A document that can be loaded is known in a run. -/
theorem document_of_loadRoot {location : String} {root : Xml.Element}
    (loaded : loadRoot sources.library sources.allowDocumentType location = .ok root) :
    ∃ schema, sources.document location = .ok schema ∧ schema.val = root := by
  unfold loadRoot at loaded
  unfold document
  split at loaded
  · cases loaded
  · next text fetched =>
    split at loaded
    · cases loaded
    · next parsed =>
      cases loaded
      split
      · next failed => cases fetched.symm.trans failed
      · next same =>
        cases fetched.symm.trans same
        split
        · next failed => cases parsed.symm.trans failed
        · next root' again =>
          cases parsed.symm.trans again
          exact ⟨_, rfl, rfl⟩

/-- A document that is known in a run can be loaded. -/
theorem loadRoot_of_document {location : String} {schema : sources.KnownSchema}
    (h : sources.document location = .ok schema) :
    loadRoot sources.library sources.allowDocumentType location = .ok schema.val := by
  unfold document at h
  split at h
  · cases h
  · next text fetched =>
    split at h
    · cases h
    · next root parsed =>
      cases h
      show loadRoot sources.library sources.allowDocumentType location = .ok root
      unfold loadRoot
      rw [fetched]
      dsimp only
      rw [parsed]

/-! ## The next task -/

variable {progress : Progress} {task : sources.Task} {rest : List sources.Task}

theorem run_of_declares {declarations : List Declaration}
    (read : readTopLevel task.2.val task.1 = .ok (.declares declarations)) :
    sources.run progress (task :: rest) = sources.run (progress.declaring declarations) rest := by
  rw [run_cons, outcome, read]
  rfl

/-- The document at a location is taken up when the location is first included. -/
theorem outcome_including {location : String} {schema : sources.KnownSchema}
    (read : readTopLevel task.2.val task.1 = .ok (.includes location))
    (new : location ∉ progress.included) (fetched : sources.document location = .ok schema)
    (isSchema : checkSchema schema.val = .ok ()) :
    sources.outcome progress task = .ok (.takesUp (.included location schema task.1)) := by
  rw [outcome, read]
  dsimp only
  rw [if_neg new, fetched]
  exact takeUp_of_not_has (.included location schema task.1) isSchema new

theorem outcome_including_again {location : String}
    (read : readTopLevel task.2.val task.1 = .ok (.includes location))
    (known : location ∈ progress.included) :
    sources.outcome progress task = .ok (.declares []) := by
  rw [outcome, read]
  exact if_pos known

theorem run_of_includes {location : String} {schema : sources.KnownSchema}
    (read : readTopLevel task.2.val task.1 = .ok (.includes location))
    (new : location ∉ progress.included) (fetched : sources.document location = .ok schema)
    (isSchema : checkSchema schema.val = .ok ()) :
    sources.run progress (task :: rest) = sources.run (progress.taking (.including location))
      ((Body.included location schema task.1).tasks ++ rest) := by
  rw [run_cons, outcome_including read new fetched isSchema]
  rfl

theorem run_of_includes_again {location : String}
    (read : readTopLevel task.2.val task.1 = .ok (.includes location))
    (known : location ∈ progress.included) :
    sources.run progress (task :: rest) = sources.run progress rest := by
  rw [run_cons, outcome_including_again read known]
  exact proceed_nothing progress rest

theorem Progress.declaring_declaring (progress : Progress) (declarations more : List Declaration) :
    (progress.declaring declarations).declaring more =
      progress.declaring (declarations ++ more) := by
  unfold Progress.declaring
  rw [List.append_assoc]

/-- **Tasks that declare something** are carried out in one go. -/
theorem run_of_declaring {work : List sources.Task}
    (declaring : ∀ task ∈ work, ∃ declarations, readTopLevel task.2.val task.1 =
      .ok (.declares declarations)) :
    sources.run progress (work ++ rest) =
      sources.run (progress.declaring (declaredIn work)) rest := by
  induction work generalizing progress with
  | nil => exact (congrArg (sources.run · rest) (Progress.declaring_nil progress)).symm
  | cons task work ih =>
    rw [List.forall_mem_cons] at declaring
    obtain ⟨⟨declarations, read⟩, others⟩ := declaring
    have here : declaredBy task.1 task.2.val = declarations := by rw [declaredBy, read]
    rw [List.cons_append, run_of_declares read, ih others, declaredIn_cons, here,
      Progress.declaring_declaring]

/-- Whether a child of a schema neither imports nor includes anything. -/
def IsSelfContained (node : Xml.Element) : Prop :=
  node.isNamed schemaNamespace "import" = false ∧ node.isNamed schemaNamespace "include" = false

/-- A child that neither imports nor includes anything declares something, if it can be read. -/
theorem declares_of_isSelfContained {node : Xml.Element} {outer : Option String} {top : TopLevel}
    (h : IsSelfContained node) (read : readTopLevel node outer = .ok top) :
    ∃ declarations, top = .declares declarations := by
  cases top with
  | declares declarations => exact ⟨declarations, rfl⟩
  | imports namespaceName? location? => cases h.1.symm.trans (readTopLevel_eq_ok read).1
  | includes location => cases h.2.symm.trans (readTopLevel_eq_ok read).1

/-- Tasks that neither import nor include anything declare something, if a run carries them out
without a failure. -/
theorem declaring_of_run {work : List sources.Task} {last : Progress}
    (contained : ∀ task ∈ work, IsSelfContained task.2.val)
    (h : sources.run progress work = .ok last) :
    ∀ task ∈ work, ∃ declarations, readTopLevel task.2.val task.1 =
      .ok (.declares declarations) := by
  induction work generalizing progress with
  | nil => exact nofun
  | cons task work ih =>
    rw [List.forall_mem_cons] at contained ⊢
    cases came : sources.outcome progress task with
    | error cause =>
      rw [run_cons, came] at h
      cases h
    | ok result =>
      obtain ⟨⟨top, read⟩, -⟩ := outcome_eq_ok came
      obtain ⟨declarations, rfl⟩ := declares_of_isSelfContained contained.1 read
      rw [run_of_declares read] at h
      exact ⟨⟨declarations, read⟩, ih contained.2 h⟩

/-- The tasks of a body are its children, with the namespace that is in force. -/
theorem map_tasks (body : sources.Body) :
    body.tasks.map (fun task => (task.1, task.2.val)) =
      body.schema.val.children.map (body.namespaceName?, ·) := by
  unfold Body.tasks Sources.tasks
  rw [List.map_map]
  conv_rhs => rw [← List.attach_map_subtype_val body.schema.val.children, List.map_map]
  rfl

theorem task_of_image {work : List sources.Task} {outer : Option String}
    {nodes : List Xml.Element}
    (image : work.map (fun task => (task.1, task.2.val)) = nodes.map (outer, ·))
    (mem : task ∈ work) :
    task.1 = outer ∧ task.2.val ∈ nodes := by
  have ofNodes : (task.1, task.2.val) ∈ nodes.map (outer, ·) := by
    rw [← image]
    exact List.mem_map_of_mem (f := fun task => (task.1, task.2.val)) mem
  obtain ⟨node, found, same⟩ := List.mem_map.1 ofNodes
  have ofNode : node = task.2.val := congrArg Prod.snd same
  exact ⟨(congrArg Prod.fst same).symm, ofNode ▸ found⟩

theorem task_of_body {body : sources.Body} (mem : task ∈ body.tasks) :
    task.1 = body.namespaceName? ∧ task.2.val ∈ body.schema.val.children :=
  task_of_image (map_tasks body) mem

/-! ## Including one document -/

/-- Whether a task declares nothing, or includes one location. -/
def Only (location : String) (task : sources.Task) : Prop :=
  readTopLevel task.2.val task.1 = .ok (.declares []) ∨
    readTopLevel task.2.val task.1 = .ok (.includes location)

/-- A document is not included again. -/
theorem run_of_only {location : String} {work : List sources.Task}
    (only : ∀ task ∈ work, Only location task) (known : location ∈ progress.included) :
    sources.run progress work = .ok progress := by
  induction work with
  | nil => exact run_nil progress
  | cons task work ih =>
    rw [List.forall_mem_cons] at only
    obtain ⟨here | here, others⟩ := only
    · rw [run_of_declares here, Progress.declaring_nil, ih others]
    · rw [run_of_includes_again here known, ih others]

/-- **Including one document**, once or more often, and nothing else, is to take up its body. -/
theorem run_of_including {location : String} {schema : sources.KnownSchema} {outer : Option String}
    {work : List sources.Task} (only : ∀ task ∈ work, task.1 = outer ∧ Only location task)
    (includes : ∃ task ∈ work, readTopLevel task.2.val task.1 = .ok (.includes location))
    (new : location ∉ progress.included) (fetched : sources.document location = .ok schema)
    (isSchema : checkSchema schema.val = .ok ())
    (declaring : ∀ task ∈ (Body.included location schema outer).tasks, ∃ declarations,
      readTopLevel task.2.val task.1 = .ok (.declares declarations)) :
    sources.run progress work = .ok ((progress.taking (.including location)).declaring
      (Body.included location schema outer).declared) := by
  induction work with
  | nil =>
    obtain ⟨_, mem, -⟩ := includes
    cases mem
  | cons task work ih =>
    rw [List.forall_mem_cons] at only
    obtain ⟨⟨rfl, here | here⟩, others⟩ := only
    · have later : ∃ task ∈ work, readTopLevel task.2.val task.1 = .ok (.includes location) := by
        obtain ⟨other, mem, read⟩ := includes
        rcases List.mem_cons.1 mem with rfl | mem
        · cases here.symm.trans read
        · exact ⟨other, mem, read⟩
      rw [run_of_declares here, Progress.declaring_nil, ih others later]
    · rw [run_of_includes here new fetched isSchema, run_of_declaring declaring, declaredIn_tasks]
      exact run_of_only (fun task mem => (others task mem).2) (List.mem_cons_self ..)

/-- The tasks of a body whose first child is an inclusion and whose other children only declare
something. -/
theorem exists_tasks_of_includes (body : sources.Body) {node : Xml.Element}
    {others : List Xml.Element}
    {location : String} (children : body.schema.val.children = node :: others)
    (includes : readTopLevel node body.namespaceName? = .ok (.includes location))
    (declaring : ∀ other ∈ others, ∃ declarations,
      readTopLevel other body.namespaceName? = .ok (.declares declarations)) :
    ∃ first later, body.tasks = first :: later ∧ first.1 = body.namespaceName? ∧
      readTopLevel first.2.val first.1 = .ok (.includes location) ∧
        declaredIn later = body.declared ∧
      ∀ task ∈ later, ∃ declarations, readTopLevel task.2.val task.1 =
        .ok (.declares declarations) := by
  have image := map_tasks body
  rw [children, List.map_cons] at image
  obtain ⟨first, later, split, ofFirst, ofLater⟩ := List.map_eq_cons_iff.1 image
  have inForce : first.1 = body.namespaceName? := congrArg Prod.fst ofFirst
  have ofNode : first.2.val = node := congrArg Prod.snd ofFirst
  have read : readTopLevel first.2.val first.1 = .ok (.includes location) :=
    by rw [inForce, ofNode, includes]
  refine ⟨first, later, split, inForce, read, ?_, fun task mem => ?_⟩
  · have nothing : declaredBy first.1 first.2.val = [] := by rw [declaredBy, read]
    rw [← declaredIn_tasks, split, declaredIn_cons, nothing, List.nil_append]
  · obtain ⟨inForce, ofOthers⟩ := task_of_image ofLater mem
    rw [inForce]
    exact declaring _ ofOthers

/-! ## One schema at hand -/

/-- The body of the only schema at hand. -/
def onlyBody (root : Xml.Element) (library : Library) (allowDocumentType : Bool) :
    (ofRoots [root] library allowDocumentType).Body :=
  .entered none ⟨root, List.mem_cons_self ..⟩

/-- With one schema at hand, its children are the tasks to begin with. -/
theorem declarations_ofRoots_singleton {root : Xml.Element} (library : Library)
    (allowDocumentType : Bool) (isSchema : checkSchema root = .ok ()) :
    (ofRoots [root] library allowDocumentType).declarations =
      ((ofRoots [root] library allowDocumentType).run
        (({} : Progress).taking (.entering (targetNamespace root)))
        (onlyBody root library allowDocumentType).tasks).map Progress.declarations := by
  have entered : (ofRoots [root] library allowDocumentType).enterRoot {}
    ⟨root, List.mem_cons_self ..⟩ =
      (ofRoots [root] library allowDocumentType).run
        (({} : Progress).taking (.entering (targetNamespace root)))
        (onlyBody root library allowDocumentType).tasks := by
    unfold enterRoot
    rw [isSchema]
    rfl
  change (((ofRoots [root] library allowDocumentType).enterRoot {} ⟨root, List.mem_cons_self ..⟩ >>=
    fun progress =>
    pure progress) >>= fun progress => pure progress.declarations) = _
  rw [entered]
  cases (ofRoots [root] library allowDocumentType).run
    _ (onlyBody root library allowDocumentType).tasks <;> rfl

end Sources

/-! ## Schemas without imports -/

section

open Sources

variable {library : Library} {allowDocumentType : Bool} {location : String} {root : Xml.Element}

/-- An inclusion is read as one in any namespace. -/
theorem readTopLevel_of_includes {node : Xml.Element} (h : Includes node location)
    (outer : Option String) :
    readTopLevel node outer = .ok (.includes location) := by
  obtain ⟨named, read⟩ := h
  obtain ⟨inSchema, localName⟩ := Xml.Element.isNamed_iff.1 named
  unfold readTopLevel
  rw [if_neg (not_not.2 inSchema), localName]
  dsimp only
  rw [read]
  rfl

/-- **A schema of its own** is loaded by reading its children. -/
theorem load_of_declaring (loaded : loadRoot library allowDocumentType location = .ok root)
    (isSchema : checkSchema root = .ok ())
    (declaring : ∀ node ∈ root.children, ∃ declarations,
      readTopLevel node (targetNamespace root) = .ok (.declares declarations)) :
    load library allowDocumentType location =
      .ok (root.children.flatMap (declaredBy (targetNamespace root))) := by
  have work : ∀ task ∈ (onlyBody root library allowDocumentType).tasks, ∃ declarations,
      readTopLevel task.2.val task.1 = .ok (.declares declarations) := by
    intro task mem
    obtain ⟨inForce, ofRoot⟩ := task_of_body mem
    rw [inForce]
    exact declaring _ ofRoot
  rw [load_of_loadRoot loaded, declarations_ofRoots_singleton library allowDocumentType isSchema,
    ← List.append_nil (Body.tasks _), run_of_declaring work, run_nil, declaredIn_tasks]
  rfl

/-- The children of a schema of its own can be read if the schema can be loaded. -/
theorem declaring_of_load (loaded : loadRoot library allowDocumentType location = .ok root)
    (isSchema : checkSchema root = .ok ())
    (contained : ∀ node ∈ root.children, IsSelfContained node) {declarations : List Declaration}
    (h : load library allowDocumentType location = .ok declarations) :
    ∀ node ∈ root.children, ∃ declarations,
      readTopLevel node (targetNamespace root) = .ok (.declares declarations) := by
  rw [load_of_loadRoot loaded,
    declarations_ofRoots_singleton library allowDocumentType isSchema] at h
  cases ran : (ofRoots [root] library allowDocumentType).run
    (({} : Progress).taking (.entering (targetNamespace root)))
      (onlyBody root library allowDocumentType).tasks with
  | error cause =>
    rw [ran] at h
    cases h
  | ok last =>
    have work : ∀ task ∈ (onlyBody root library allowDocumentType).tasks,
      IsSelfContained task.2.val :=
      fun task mem => contained _ (task_of_body mem).2
    intro node mem
    obtain ⟨task, ofBody, inForce, ofNode⟩ :=
      exists_task (show node ∈ (onlyBody root _ _).schema.val.children from mem)
    have read := declaring_of_run work ran task ofBody
    rw [inForce, ofNode] at read
    exact read

/-- **A schema that includes one document** without a namespace, and has nothing else, declares what
the document does, in its own namespace. -/
theorem load_of_including {uri : String} {document : Xml.Element}
    (loaded : loadRoot library allowDocumentType uri = .ok root)
    (isSchema : checkSchema root = .ok ())
    (only : ∀ node ∈ root.children, readTopLevel node (targetNamespace root) = .ok (.declares []) ∨
      Includes node location)
    (includes : ∃ node ∈ root.children, Includes node location)
    (fetched : loadRoot library allowDocumentType location = .ok document)
    (isSchema' : checkSchema document = .ok ()) (unnamed : targetNamespace document = none)
    (declaring : ∀ node ∈ document.children, ∃ declarations,
      readTopLevel node (targetNamespace root) = .ok (.declares declarations)) :
    load library allowDocumentType uri =
      .ok (document.children.flatMap (declaredBy (targetNamespace root))) := by
  obtain ⟨schema, known, rfl⟩ :
    ∃ schema, (ofRoots [root] library allowDocumentType).document location = .ok schema ∧
      schema.val = document := document_of_loadRoot fetched
  let body : (ofRoots [root] library allowDocumentType).Body :=
    .included location schema (targetNamespace root)
  have inForce : body.namespaceName? = targetNamespace root := by
    change (targetNamespace schema.val).or (targetNamespace root) = targetNamespace root
    rw [unnamed, Option.none_or]
  have work : ∀ task ∈ (onlyBody root library allowDocumentType).tasks,
      task.1 = targetNamespace root ∧ Only location task := by
    intro task mem
    obtain ⟨inForce, ofRoot⟩ := task_of_body mem
    refine ⟨inForce, ?_⟩
    unfold Only
    rw [inForce]
    exact (only _ ofRoot).imp_right fun h => readTopLevel_of_includes h _
  have once : ∃ task ∈ (onlyBody root library allowDocumentType).tasks,
      readTopLevel task.2.val task.1 = .ok (.includes location) := by
    obtain ⟨node, mem, h⟩ := includes
    obtain ⟨task, ofBody, -, ofNode⟩ :=
      exists_task (show node ∈ (onlyBody root _ _).schema.val.children from mem)
    exact ⟨task, ofBody, ofNode ▸ readTopLevel_of_includes h _⟩
  have inside : ∀ task ∈ body.tasks, ∃ declarations,
      readTopLevel task.2.val task.1 = .ok (.declares declarations) := by
    intro task mem
    obtain ⟨outer, ofDocument⟩ := task_of_body mem
    rw [outer, inForce]
    exact declaring _ ofDocument
  rw [load_of_loadRoot loaded, declarations_ofRoots_singleton library allowDocumentType isSchema,
    run_of_including work once List.not_mem_nil known isSchema' inside]
  change Except.ok body.declared = _
  rw [Body.declared, inForce]
  rfl

/-- **A schema that includes itself** declares everything twice. -/
theorem load_of_includes_itself {node : Xml.Element} {others : List Xml.Element}
    (loaded : loadRoot library allowDocumentType location = .ok root)
    (isSchema : checkSchema root = .ok ())
    (children : root.children = node :: others) (includes : Includes node location)
    (declaring : ∀ other ∈ others, ∃ declarations,
      readTopLevel other (targetNamespace root) = .ok (.declares declarations)) :
    load library allowDocumentType location =
      .ok (root.children.flatMap (declaredBy (targetNamespace root)) ++
      root.children.flatMap (declaredBy (targetNamespace root))) := by
  obtain ⟨schema, known, same⟩ :
    ∃ schema, (ofRoots [root] library allowDocumentType).document location = .ok schema ∧
    schema.val = root := document_of_loadRoot loaded
  let again : (ofRoots [root] library allowDocumentType).Body :=
    .included location schema (targetNamespace root)
  have sameSchema : again.schema.val = root := same
  have inForce : again.namespaceName? = targetNamespace root := by
    change (targetNamespace schema.val).or (targetNamespace root) = targetNamespace root
    rw [same, Option.or_self]
  have isSchema' : checkSchema schema.val = .ok () := by
    rw [same]
    exact isSchema
  obtain ⟨first, later, split, outer, read, declared, declares⟩ :=
    exists_tasks_of_includes (onlyBody root library allowDocumentType)
      children (readTopLevel_of_includes includes _) declaring
  obtain ⟨first', later', split', -, read', declared', declares'⟩ :=
    exists_tasks_of_includes again (sameSchema ▸ children) (readTopLevel_of_includes includes _)
      (inForce.symm ▸ declaring)
  have tasks : (Body.included location schema first.1).tasks = first' :: later' := outer ▸ split'
  rw [load_of_loadRoot loaded,
    declarations_ofRoots_singleton library allowDocumentType isSchema, split,
    run_of_includes read List.not_mem_nil known isSchema', tasks, List.cons_append,
    run_of_includes_again read' (List.mem_cons_self ..), run_of_declaring declares',
    ← List.append_nil later, run_of_declaring declares, run_nil, declared, declared']
  change Except.ok (again.declared ++ (onlyBody root library allowDocumentType).declared) = _
  rw [Body.declared, Body.declared, inForce, sameSchema]
  rfl

end

/-! ## Two documents -/

/-- A document of a table is loaded by its text. -/
theorem loadRoot_ofTable {documents : Keyed String String} {allowDocumentType : Bool}
    {location text : String} {root : Xml.Element}
    (found : Keyed.get? documents location = some text)
    (parsed : Xml.parseDocument allowDocumentType text = .ok root) :
    loadRoot (.ofTable documents) allowDocumentType location = .ok root := by
  have fetched : (Library.ofTable documents).fetch location = .ok text := by
    change fetchFrom documents location = .ok text
    rw [fetchFrom, found]
  unfold loadRoot
  rw [fetched]
  dsimp only
  rw [parsed]

/-- A schema that includes a document and has nothing else. -/
def outerText : String :=
  "<schema xmlns=\"http://www.w3.org/2001/XMLSchema\" targetNamespace=\"u\">" ++
    "<include schemaLocation=\"d\"/></schema>"

/-- A schema without a namespace, with a type inside a field. -/
def innerText : String :=
  "<schema xmlns=\"http://www.w3.org/2001/XMLSchema\"><complexType name=\"A\"><sequence>" ++
    "<element name=\"b\"><complexType/></element><element name=\"c\" type=\"string\"/>" ++
    "</sequence></complexType></schema>"

/-- An element of a schema, given the namespaces in scope. -/
def schemaElement (scope : Xml.Scope) (localName : String) (attributes : List (String × String))
    (children : List Xml.Element) : Xml.Element :=
  .mk ⟨some schemaNamespace, localName⟩ (attributes.map fun a => ⟨⟨none, a.1⟩, a.2⟩)
    scope (children.map .element)

def outerSchema : Xml.Element :=
  let scope : Xml.Scope := [(none, schemaNamespace)]
  schemaElement scope "schema" [("targetNamespace", "u")]
    [schemaElement scope "include" [("schemaLocation", "d")] []]

def innerSchema : Xml.Element :=
  let scope : Xml.Scope := [(none, schemaNamespace)]
  schemaElement scope "schema" []
    [schemaElement scope "complexType" [("name", "A")] [schemaElement scope "sequence" []
    [schemaElement scope "element" [("name", "b")] [schemaElement scope "complexType" [] []],
      schemaElement scope "element" [("name", "c"), ("type", "string")] []]]]

theorem parse_outerText : Xml.parseDocument false outerText = .ok outerSchema := by decide +kernel

theorem parse_innerText : Xml.parseDocument false innerText = .ok innerSchema := by decide +kernel

/-- The two documents. -/
def twoDocuments : Keyed String String := [("s", outerText), ("d", innerText)]

theorem loadRoot_outer : loadRoot (.ofTable twoDocuments) false "s" = .ok outerSchema :=
  loadRoot_ofTable rfl parse_outerText

theorem loadRoot_inner : loadRoot (.ofTable twoDocuments) false "d" = .ok innerSchema :=
  loadRoot_ofTable rfl parse_innerText

/-- What the included document declares, in a namespace. -/
def partDeclarations (namespaceName? : Option String) : List Declaration :=
  [.complex ⟨"A.b", namespaceName?, []⟩,
    .complex ⟨"A", namespaceName?,
      [{ name := "b", namespaceName?, type? := some ⟨namespaceName?, "A.b"⟩ },
      { name := "c", namespaceName?, type? := some ⟨some schemaNamespace, "string"⟩ }]⟩]

theorem load_inner : load (.ofTable twoDocuments) false "d" = .ok (partDeclarations none) := by
  refine load_of_declaring loadRoot_inner rfl fun node mem => ⟨partDeclarations none, ?_⟩
  rw [List.mem_singleton.1 (show node ∈ [_] from mem)]
  rfl

theorem load_outer :
    load (.ofTable twoDocuments) false "s" = .ok (partDeclarations (some "u")) := by
  refine load_of_including loadRoot_outer rfl (fun node mem => .inr ?_)
    ⟨_, List.mem_singleton_self _, rfl, rfl⟩ loadRoot_inner rfl rfl fun node mem =>
      ⟨partDeclarations (some "u"), ?_⟩
  · rw [List.mem_singleton.1 (show node ∈ [_] from mem)]
    exact ⟨rfl, rfl⟩
  · rw [List.mem_singleton.1 (show node ∈ [_] from mem)]
    rfl

end SchemaBinding.Schema
