import Mathlib.Data.List.Nodup
import SchemaBinding.Proofs.Loading.Adoption
import SchemaBinding.Proofs.Loading.Including
import SchemaBinding.Proofs.Loading.Roots

/-!
# Which nodes declarations come from

A node of a document has a site: the location of the document, and the number
of the node among its children. When no inclusion leads to the location of the
schema that is loaded, or to one that is imported, then no two bodies of a run
are found at one location (`nodup_locations`), so that every declaration comes
from a site of its own (`exists_sites_of_load`). But entering and including do
not know of each other, so that a schema that includes itself declares
everything twice (`not_forall_nodup_of_load`).
-/

namespace SchemaBinding.Schema

/-! ## Sites -/

/-- A place among the documents: a child of the schema at a location. -/
structure Site where
  location : String
  index : Nat
  deriving DecidableEq, Repr

namespace Library

variable (library : Library) (allowDocumentType : Bool)

/-- The node at a site. -/
def nodeAt? (site : Site) : Option Xml.Element :=
  (loadRoot library allowDocumentType site.location).toOption.bind (·.children[site.index]?)

/-- What the node at a site declares. -/
def declaredAt (outer : Option String) (site : Site) : List Declaration :=
  ((library.nodeAt? allowDocumentType site).map (declaredBy outer)).getD []

/-- The children of the schemas that the documents are. -/
def nodes : List Xml.Element := (Sources.ofRoots [] library allowDocumentType).nodes

/-- Whether no document may be both included and entered from elsewhere: no inclusion leads to the
given location, or to the location of an import. -/
def KeepsApart (uri : String) : Prop :=
  ∀ node ∈ library.nodes allowDocumentType, ∀ location, Includes node location → location ≠ uri ∧
    ∀ importing ∈ library.nodes allowDocumentType, ∀ namespaceName?,
    ¬ Imports importing namespaceName? (some location)

/-- Whether no kind and local name are declared twice in the documents. -/
structure IsUnambiguous {κ : Type} (kind : Naming.Kind → κ) : Prop where
  apart : ∀ site site' : Site, site ≠ site' →
    ((library.declaredAt allowDocumentType none site).map (outline kind)).Disjoint
      ((library.declaredAt allowDocumentType none site').map (outline kind))
  once : ∀ site, ((library.declaredAt allowDocumentType none site).map (outline kind)).Nodup

end Library

/-- A child of a document is one of the schema that its text is. -/
theorem Library.exists_text {library : Library} {allowDocumentType : Bool} {node : Xml.Element}
    (mem : node ∈ library.nodes allowDocumentType) : ∃ text ∈ library.texts, ∃ root,
      Xml.parseDocument allowDocumentType text = .ok root ∧ node ∈ root.children := by
  obtain ⟨root, known, ofRoot⟩ := List.mem_flatMap.1 mem
  obtain ⟨text, ofLibrary, read⟩ :=
    List.mem_filterMap.1 (show root ∈ List.filterMap _ library.texts from known)
  replace read : (Xml.parseDocument allowDocumentType text).toOption = some root := read
  cases parsed : Xml.parseDocument allowDocumentType text with
  | error cause =>
    rw [parsed] at read
    cases read
  | ok root' =>
    rw [parsed] at read
    cases read
    exact ⟨text, ofLibrary, root, parsed, ofRoot⟩

/-- A node declares the same kinds and local names in any namespace. -/
theorem map_outline_declaredBy {κ : Type} (kind : Naming.Kind → κ) (outer : Option String)
    (node : Xml.Element) :
    (declaredBy outer node).map (outline kind) = (declaredBy none node).map (outline kind) := by
  have parallel : Parallel (TopLevelUnder (fun _ => True) outer) (readTopLevel node none)
    (readTopLevel node outer) :=
    parallel_readTopLevel (fun _ _ _ _ => trivial) none
  unfold declaredBy
  generalize readTopLevel node none = x at parallel
  generalize readTopLevel node outer = y at parallel
  cases parallel with
  | error cause => rfl
  | ok related =>
    cases related with
    | declares related => exact map_outline_of_forall₂ kind related
    | imports _ _ => rfl
    | includes _ => rfl

theorem map_outline_declaredAt {κ : Type} (kind : Naming.Kind → κ) (library : Library)
    (allowDocumentType : Bool) (outer : Option String) (site : Site) :
    (library.declaredAt allowDocumentType outer site).map (outline kind) =
      (library.declaredAt allowDocumentType none site).map (outline kind) := by
  unfold Library.declaredAt
  cases library.nodeAt? allowDocumentType site with
  | none => rfl
  | some node => exact map_outline_declaredBy kind outer node

namespace Sources

/-! ## Bodies and their locations -/

/-- The location at which a body is found, when the schema at hand is at `uri`. -/
def Body.location {sources : Sources} (uri : String) : sources.Body → String
  | .entered none _ => uri
  | .entered (some location) _ => location
  | .included location _ _ => location

section

variable {library : Library} {allowDocumentType : Bool} {uri : String} {root : Xml.Element}

/-- The only schema at hand is one of the documents. -/
theorem mem_nodes_of_loadRoot (loaded : loadRoot library allowDocumentType uri = .ok root)
    {node : Xml.Element} (mem : node ∈ (ofRoots [root] library allowDocumentType).nodes) :
    node ∈ library.nodes allowDocumentType := by
  obtain ⟨schema, -, same⟩ :
    ∃ schema, (ofRoots [] library allowDocumentType).document uri = .ok schema ∧
    schema.val = root := document_of_loadRoot loaded
  obtain ⟨owner, known, ofOwner⟩ := List.mem_flatMap.1 mem
  refine List.mem_flatMap.2 ⟨owner, ?_, ofOwner⟩
  rcases List.mem_append.1 known with atHand | document
  · rw [List.mem_singleton.1 (show owner ∈ [root] from atHand), ← same]
    exact schema.property
  · exact List.mem_append_right _ document

/-- **A body is the document at its location.** -/
theorem loadRoot_location (loaded : loadRoot library allowDocumentType uri = .ok root)
    {body : (ofRoots [root] library allowDocumentType).Body} (isFound : body.IsFound) :
    loadRoot library allowDocumentType (body.location uri) = .ok body.schema.val := by
  cases body with
  | included location schema outer => exact loadRoot_of_document isFound.1
  | entered location? schema =>
    cases location? with
    | some location => exact loadRoot_of_document isFound.1
    | none =>
      obtain ⟨namespaceName?, mem⟩ := mem_rootSchemas.1 isFound
      have only : (namespaceName?, schema.val) ∈ [(targetNamespace root, root)] := mem
      have same : schema.val = root := congrArg Prod.snd (List.mem_singleton.1 only)
      exact loaded.trans (congrArg Except.ok same.symm)

/-- What is entered is not found where something is included, when the two are kept apart. -/
theorem location_ne (loaded : loadRoot library allowDocumentType uri = .ok root)
    (apart : library.KeepsApart allowDocumentType uri) {location? : Option String}
    {location : String} {outer : Option String}
    {schema schema' : (ofRoots [root] library allowDocumentType).KnownSchema}
    (entered : (Body.entered location? schema).IsFound)
    (included : (Body.included location schema' outer).IsFound) :
    (Body.entered location? schema).location uri ≠ location := by
  rintro rfl
  obtain ⟨-, node, mem, includes⟩ := included
  obtain ⟨notMain, notImported⟩ := apart node (mem_nodes_of_loadRoot loaded mem) _ includes
  cases location? with
  | none => exact notMain rfl
  | some location =>
    obtain ⟨-, importing, ofNodes, namespaceName?, imports, -⟩ := entered
    exact notImported importing (mem_nodes_of_loadRoot loaded ofNodes) namespaceName? imports

/-- Bodies that are found at one location are taken up on one occasion, when what is included and
what is entered are kept apart. -/
theorem pass_eq_of_location (loaded : loadRoot library allowDocumentType uri = .ok root)
    (apart : library.KeepsApart allowDocumentType uri)
    {body body' : (ofRoots [root] library allowDocumentType).Body} (isFound : body.IsFound)
    (isFound' : body'.IsFound) (atOne : body.location uri = body'.location uri) :
    body.pass = body'.pass := by
  cases body with
  | entered location? schema =>
    cases body' with
    | entered location?' schema' =>
      have schemas := (loadRoot_location loaded isFound).symm.trans
        (atOne ▸ loadRoot_location loaded isFound')
      exact congrArg (fun root => Pass.entering (targetNamespace root)) (Except.ok.inj schemas)
    | included location schema' outer =>
      exact absurd atOne (location_ne loaded apart isFound isFound')
  | included location schema outer =>
    cases body' with
    | entered location?' schema' =>
      exact absurd atOne.symm (location_ne loaded apart isFound' isFound)
    | included location' schema' outer' => exact congrArg Pass.including atOne

/-- **No two bodies are found at one location**, when what is included and what is entered are kept
apart. -/
theorem nodup_locations (loaded : loadRoot library allowDocumentType uri = .ok root)
    (apart : library.KeepsApart allowDocumentType uri)
    {moment : (ofRoots [root] library allowDocumentType).Moment} (sound : moment.IsSound) :
    (moment.bodies.map (Body.location uri)).Nodup := by
  have once := sound.once
  rw [List.Nodup, List.pairwise_map] at once ⊢
  exact once.imp_of_mem fun mem mem' differ atOne =>
    differ (pass_eq_of_location loaded apart (sound.found _ mem) (sound.found _ mem') atOne)

/-! ## What bodies contribute -/

/-- The sites of a body, with the namespace that is in force. -/
def Body.contributions {sources : Sources} (uri : String) (body : sources.Body) :
    List (Site × Option String) :=
  (List.range body.schema.val.children.length).map fun index =>
    (⟨body.location uri, index⟩, body.namespaceName?)

theorem flatMap_range_getElem? {α β : Type} (l : List α) (f : α → List β) :
    (List.range l.length).flatMap (fun index => (l[index]?.map f).getD []) = l.flatMap f := by
  induction l with
  | nil => rfl
  | cons a rest ih =>
    rw [List.length_cons, List.range_succ_eq_map, List.flatMap_cons, List.flatMap_map,
      List.flatMap_cons, ← ih]
    rfl

/-- **A body declares what its sites do.** -/
theorem declared_eq (loaded : loadRoot library allowDocumentType uri = .ok root)
    {body : (ofRoots [root] library allowDocumentType).Body} (isFound : body.IsFound) :
    body.declared = (body.contributions uri).flatMap fun c =>
      library.declaredAt allowDocumentType c.2 c.1 := by
  have document := loadRoot_location loaded isFound
  unfold Body.declared Body.contributions Library.declaredAt Library.nodeAt?
  rw [List.flatMap_map, ← flatMap_range_getElem?]
  dsimp only
  rw [document]
  rfl

/-- Bodies at different locations have different sites. -/
theorem nodup_sites {sources : Sources} {bodies : List sources.Body}
    (locations : (bodies.map (Body.location uri)).Nodup) :
    ((bodies.flatMap (Body.contributions uri)).map Prod.fst).Nodup := by
  have sites : ∀ body : sources.Body, (body.contributions uri).map Prod.fst =
      (List.range body.schema.val.children.length).map (Site.mk (body.location uri)) := by
    intro body
    rw [Body.contributions, List.map_map]
    rfl
  rw [List.map_flatMap, List.nodup_flatMap]
  refine ⟨fun body _ => ?_, ?_⟩
  · rw [sites]
    exact List.nodup_range.map fun index index' same => congrArg Site.index same
  · rw [List.Nodup, List.pairwise_map] at locations
    refine locations.imp fun {body body'} differ => ?_
    rw [Function.onFun_apply, sites, sites]
    intro site mem mem'
    obtain ⟨index, -, rfl⟩ := List.mem_map.1 mem
    obtain ⟨index', -, same⟩ := List.mem_map.1 mem'
    exact differ (congrArg Site.location same).symm

end

end Sources

/-! ## No declaration twice -/

/-- When kinds and local names are not declared twice, sites declare different kinds and names. -/
theorem nodup_of_contributions {κ : Type} {kind : Naming.Kind → κ} {library : Library}
    {allowDocumentType : Bool} (unambiguous : library.IsUnambiguous allowDocumentType kind)
    {contributions : List (Site × Option String)}
    (sites : (contributions.map Prod.fst).Nodup) {declarations : List Declaration}
    (made : declarations.Perm
      (contributions.flatMap fun c => library.declaredAt allowDocumentType c.2 c.1)) :
    (declarations.map fun d => (kind d.namingKind, d.name)).Nodup := by
  -- The local names tell the declarations apart already.
  have outlines : (declarations.map (outline kind)).Nodup := by
    rw [(made.map _).nodup_iff, List.map_flatMap, List.nodup_flatMap]
    refine ⟨fun c _ => ?_, ?_⟩
    · rw [map_outline_declaredAt]
      exact unambiguous.once c.1
    · rw [List.Nodup, List.pairwise_map] at sites
      refine sites.imp fun {c c'} differ => ?_
      rw [Function.onFun_apply, map_outline_declaredAt,
        map_outline_declaredAt kind library allowDocumentType c'.2]
      exact unambiguous.apart c.1 c'.1 differ
  have through : (declarations.map fun d => (kind d.namingKind, d.name)).map
    (fun key => (key.1, key.2.localName)) =
      declarations.map (outline kind) := by
    rw [List.map_map]
    rfl
  exact .of_map _ (through ▸ outlines)

/-- **No declaration twice.** When no inclusion leads to the schema that is loaded or to a document
that is imported, all declarations come from different sites: no node contributes more than once. So
if no kind and local name are declared twice in the documents, the declarations have different kinds
and names. -/
theorem exists_sites_of_load {library : Library} {allowDocumentType : Bool} {uri : String}
    {declarations : List Declaration}
    (loaded : load library allowDocumentType uri = .ok declarations)
    (apart : library.KeepsApart allowDocumentType uri) :
    (∃ contributions : List (Site × Option String), (contributions.map Prod.fst).Nodup ∧
        declarations.Perm (contributions.flatMap fun c =>
          library.declaredAt allowDocumentType c.2 c.1)) ∧
      ∀ (κ : Type) (kind : Naming.Kind → κ), library.IsUnambiguous allowDocumentType kind →
        (declarations.map fun d => (kind d.namingKind, d.name)).Nodup := by
  cases read : loadRoot library allowDocumentType uri with
  | error cause =>
    unfold load at loaded
    rw [read] at loaded
    cases loaded
  | ok root =>
    rw [load_of_loadRoot read] at loaded
    obtain ⟨moment, reached, ended, rfl⟩ := Sources.Moment.exists_of_declarations loaded
    have sound := reached.isSound
    have sites := Sources.nodup_sites (Sources.nodup_locations read apart sound)
    have made : moment.progress.declarations.Perm
      ((moment.bodies.flatMap (Sources.Body.contributions uri)).flatMap
        fun c => library.declaredAt allowDocumentType c.2 c.1) := by
      rw [List.flatMap_assoc]
      refine (sound.perm_of_ended ended).trans (.of_eq (List.flatMap_congr fun body mem => ?_))
      exact Sources.declared_eq read (sound.found body mem)
    exact ⟨⟨_, sites, made⟩, fun κ kind unambiguous =>
      nodup_of_contributions unambiguous sites made⟩

/-- Among the children of two documents there is one inclusion, and no import. -/
theorem keepsApart_twoDocuments : (Library.ofTable twoDocuments).KeepsApart false "s" := by
  have located : ∀ node ∈ (Library.ofTable twoDocuments).nodes false,
      node.isNamed schemaNamespace "import" = false ∧
        (node.isNamed schemaNamespace "include" = true →
          node.valueOf? "schemaLocation" = some "d") := by
    intro node mem
    obtain ⟨text, ofTable, root, parsed, ofRoot⟩ := Library.exists_text mem
    rcases List.mem_cons.1 (show text ∈ [outerText, innerText] from ofTable) with rfl | inner
    · cases parse_outerText.symm.trans parsed
      rw [List.mem_singleton.1 (show node ∈ [_] from ofRoot)]
      exact ⟨by decide, fun _ => rfl⟩
    · rw [List.mem_singleton.1 inner] at parsed
      cases parse_innerText.symm.trans parsed
      rw [List.mem_singleton.1 (show node ∈ [_] from ofRoot)]
      exact ⟨by decide, fun includes => absurd includes (by decide)⟩
  rintro node mem location ⟨named, read⟩
  have value := valueOf?_of_requiredValue read
  rw [(located node mem).2 named] at value
  cases value
  refine ⟨by decide, fun importing ofNodes namespaceName? imports => ?_⟩
  cases imports.1.symm.trans (located importing ofNodes).1

/-- A schema that includes another document. -/
theorem exists_sites_of_load_outer :
    ∃ contributions : List (Site × Option String), (contributions.map Prod.fst).Nodup ∧
      (partDeclarations (some "u")).Perm
        (contributions.flatMap fun c => (Library.ofTable twoDocuments).declaredAt false c.2 c.1) :=
  (exists_sites_of_load load_outer keepsApart_twoDocuments).1

/-! ## A schema that includes itself -/

/-- The text of a schema that includes the document at `a` and declares an element. -/
def loopText : String :=
  "<schema xmlns=\"http://www.w3.org/2001/XMLSchema\"><include schemaLocation=\"a\"/>" ++
    "<element name=\"Note\" type=\"string\"/></schema>"

def loopSchema : Xml.Element :=
  let scope : Xml.Scope := [(none, schemaNamespace)]
  schemaElement scope "schema" [] [schemaElement scope "include" [("schemaLocation", "a")] [],
    schemaElement scope "element" [("name", "Note"), ("type", "string")] []]

theorem parse_loopText : Xml.parseDocument false loopText = .ok loopSchema := by decide +kernel

/-- The element that the schema declares. -/
def noteDeclaration : Declaration :=
  .element { name := "Note", namespaceName? := none,
             type? := some ⟨some schemaNamespace, "string"⟩ }

theorem load_loop :
    load (.ofTable [("a", loopText)]) false "a" = .ok [noteDeclaration, noteDeclaration] := by
  refine load_of_includes_itself (loadRoot_ofTable rfl parse_loopText) rfl rfl ⟨rfl, rfl⟩
    fun other mem => ?_
  rw [List.mem_singleton.1 (show other ∈ [_] from mem)]
  exact ⟨[noteDeclaration], rfl⟩

/-- Only one node of the schema declares something. -/
theorem declaredAt_loop (site : Site) :
    (Library.ofTable [("a", loopText)]).declaredAt false none site =
      if site = ⟨"a", 1⟩ then [noteDeclaration] else [] := by
  obtain ⟨location, index⟩ := site
  unfold Library.declaredAt Library.nodeAt?
  by_cases here : location = "a"
  · rw [here, loadRoot_ofTable rfl parse_loopText]
    match index with
    | 0 => rfl
    | 1 => rfl
    | n + 2 =>
      rw [if_neg fun same => by cases congrArg Site.index same]
      rfl
  · have missing : (Library.ofTable [("a", loopText)]).fetch location =
      .error (.notFound location) := by
      change fetchFrom [("a", loopText)] location = _
      rw [fetchFrom, Keyed.get?, if_neg (Ne.symm here)]
      rfl
    rw [if_neg fun same => here (congrArg Site.location same)]
    dsimp only
    rw [loadRoot, missing]
    rfl

/-- **Declarations may come twice**, although no node declares what another one does: a schema that
includes itself is entered and included. -/
theorem not_forall_nodup_of_load :
    ¬ ∀ (documents : Keyed String String) (allowDocumentType : Bool) (uri : String)
      (declarations : List Declaration),
      load (.ofTable documents) allowDocumentType uri = .ok declarations →
      (Library.ofTable documents).IsUnambiguous allowDocumentType id →
      (declarations.map fun d => (d.namingKind, d.name)).Nodup := by
  intro nodup
  have unambiguous : (Library.ofTable [("a", loopText)]).IsUnambiguous false id := by
    refine ⟨fun site site' differ => ?_, fun site => ?_⟩
    · rw [declaredAt_loop, declaredAt_loop]
      by_cases here : site = ⟨"a", 1⟩
      · rw [if_neg (show site' ≠ ⟨"a", 1⟩ from here ▸ differ.symm)]
        exact List.disjoint_nil_right _
      · rw [if_neg here]
        exact List.disjoint_nil_left _
    · rw [declaredAt_loop]
      split
      · exact List.nodup_singleton _
      · exact List.nodup_nil
  have twice := nodup _ false "a" _ load_loop unambiguous
  exact absurd twice (by decide)

end SchemaBinding.Schema
