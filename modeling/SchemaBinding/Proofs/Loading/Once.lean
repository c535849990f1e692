import Mathlib.Data.List.Dedup
import Mathlib.Data.List.Perm.Subperm
import SchemaBinding.Proofs.Loading.Result

/-!
# Every body once on its occasion

In every moment of a run, what has been done is what bodies have been taken up
for, no two bodies have been taken up on the same occasion, and what has been
declared makes up, with what is left to declare, all that the bodies declare
(`Moment.IsSound`). One step preserves this (`Step.isSound`), and so do runs
(`IsReached.isSound`). So a run over a table of documents is bounded by the
namespaces and the locations that there are (`bodies_bounded`).
-/

namespace SchemaBinding.Schema.Sources

variable {sources : Sources}

/-! ## What bodies declare -/

/-- What a body declares, apart from what other bodies do that it leads to. -/
def Body.declared (body : sources.Body) : List Declaration :=
  body.schema.val.children.flatMap (declaredBy body.namespaceName?)

/-- What tasks declare. -/
def declaredIn (work : List sources.Task) : List Declaration :=
  work.flatMap fun task => declaredBy task.1 task.2.val

theorem declaredIn_cons (task : sources.Task) (rest : List sources.Task) :
    declaredIn (task :: rest) = declaredBy task.1 task.2.val ++ declaredIn rest :=
  List.flatMap_cons

theorem declaredIn_append (work rest : List sources.Task) :
    declaredIn (work ++ rest) = declaredIn work ++ declaredIn rest :=
  List.flatMap_append

/-- The tasks of a body declare what the body does. -/
theorem declaredIn_tasks (body : sources.Body) : declaredIn body.tasks = body.declared := by
  unfold declaredIn Body.tasks Sources.tasks Body.declared
  rw [List.flatMap_map]
  conv_rhs => rw [← List.attach_map_subtype_val body.schema.val.children, List.flatMap_map]

/-- The tasks of a body are its nodes, with the namespace that is in force. -/
theorem exists_task {body : sources.Body} {node : Xml.Element}
    (mem : node ∈ body.schema.val.children) :
    ∃ task ∈ body.tasks, task.1 = body.namespaceName? ∧ task.2.val = node :=
  ⟨_, List.mem_map_of_mem (List.mem_attach _ ⟨node, mem⟩), rfl, rfl⟩

/-! ## The invariant -/

/-- **The invariant of runs.** -/
structure Moment.IsSound (moment : sources.Moment) : Prop where
  /-- What has been done is what bodies have been taken up for. -/
  has : ∀ pass, moment.progress.Has pass ↔ pass ∈ moment.bodies.map Body.pass
  /-- No two bodies have been taken up on the same occasion. -/
  once : (moment.bodies.map Body.pass).Nodup
  /-- All bodies have been come to as they should. -/
  found : ∀ body ∈ moment.bodies, body.IsFound
  /-- Schemas at hand are waiting. -/
  waiting : ∀ schema ∈ moment.waiting, schema ∈ sources.rootSchemas
  /-- The namespace of a schema at hand that is not waiting has been entered. -/
  roots : ∀ schema ∈ sources.rootSchemas, schema ∈ moment.waiting ∨
    moment.progress.Has (.entering (targetNamespace schema.val))
  /-- The nodes of bodies can be read, unless they are left as tasks. -/
  read : ∀ body ∈ moment.bodies, ∀ task ∈ body.tasks, task ∈ moment.work ∨
    ∃ top, readTopLevel task.2.val task.1 = .ok top
  /-- What has been declared and what is left to declare is what the bodies declare. -/
  declared : (moment.progress.declarations ++ declaredIn moment.work).Perm
    (moment.bodies.flatMap Body.declared)

namespace Moment

theorem isSound_start (sources : Sources) : (start sources).IsSound where
  has := by
    rintro (_ | _)
    · exact ⟨nofun, nofun⟩
    · exact ⟨nofun, nofun⟩
  once := List.nodup_nil
  found := nofun
  waiting := fun _ mem => mem
  roots := fun _ mem => .inl mem
  read := nofun
  declared := .refl _

/-- Taking up a body that is due keeps the bodies apart by their occasions. -/
theorem IsSound.has_taking {moment : sources.Moment} (sound : moment.IsSound)
    (body : sources.Body) (pass : Pass) :
    (moment.progress.taking body.pass).Has pass ↔ pass ∈ (body :: moment.bodies).map Body.pass := by
  rw [Progress.has_taking, List.map_cons, List.mem_cons, sound.has]

theorem IsSound.once_taking {moment : sources.Moment} (sound : moment.IsSound) {body : sources.Body}
    (isDue : body.IsDue moment.progress) : ((body :: moment.bodies).map Body.pass).Nodup :=
  List.nodup_cons.2 ⟨fun again => isDue.new ((sound.has _).2 again), sound.once⟩

/-- **One step preserves the invariant.** -/
theorem Step.isSound {moment later : sources.Moment} (h : Step moment later)
    (sound : moment.IsSound) :
    later.IsSound := by
  cases h with
  | @declares progress bodies task rest waiting read =>
    exact
      { sound with
        has := fun pass => (Progress.has_declaring ..).trans (sound.has pass)
        roots := fun schema mem => (sound.roots schema mem).imp_right (Progress.has_declaring ..).2
        read := fun body mem other ofBody => (sound.read body mem other ofBody).elim
          (fun left => (List.mem_cons.1 left).elim (fun same => .inr (same ▸ read)) .inl) .inr
        declared := by
          have before := sound.declared
          rw [declaredIn_cons, ← List.append_assoc] at before
          exact before }
  | @takesUp progress bodies task rest waiting body read nothing isDue isFound =>
    refine
      { has := sound.has_taking body
        once := sound.once_taking isDue
        found := List.forall_mem_cons.2 ⟨isFound, sound.found⟩
        waiting := sound.waiting
        roots := fun schema mem => (sound.roots schema mem).imp_right fun has =>
          (Progress.has_taking ..).2 (.inr has)
        read := List.forall_mem_cons.2
          ⟨fun other ofBody => .inl (List.mem_append_left _ ofBody), ?_⟩
        declared := ?_ }
    · intro earlier mem other ofBody
      rcases sound.read earlier mem other ofBody with left | done
      · rcases List.mem_cons.1 left with same | left
        · exact .inr (same ▸ read)
        · exact .inl (List.mem_append_right _ left)
      · exact .inr done
    · have before := sound.declared
      rw [declaredIn_cons, nothing, List.nil_append] at before
      rw [Progress.declarations_taking, declaredIn_append, declaredIn_tasks, List.flatMap_cons]
      exact (List.perm_append_comm_assoc ..).trans (before.append_left _)
  | @passesOver progress bodies schema later has =>
    exact
      { sound with
        waiting := fun other mem => sound.waiting other (List.mem_cons_of_mem _ mem)
        roots := fun other mem => (sound.roots other mem).elim
          (fun waits => (List.mem_cons.1 waits).elim (fun same => .inr (same ▸ has)) .inl) .inr }
  | @enters progress bodies schema later isDue =>
    refine
      { has := sound.has_taking (.entered none schema)
        once := sound.once_taking isDue
        found := List.forall_mem_cons.2 ⟨sound.waiting schema (List.mem_cons_self ..), sound.found⟩
        waiting := fun other mem => sound.waiting other (List.mem_cons_of_mem _ mem)
        roots := ?_
        read := List.forall_mem_cons.2 ⟨fun other ofBody => .inl ofBody, ?_⟩
        declared := ?_ }
    · intro other mem
      rcases sound.roots other mem with waits | has
      · rcases List.mem_cons.1 waits with rfl | waits
        · exact .inr (List.mem_cons_self ..)
        · exact .inl waits
      · exact .inr ((Progress.has_taking ..).2 (.inr has))
    · intro earlier mem other ofBody
      exact (sound.read earlier mem other ofBody).elim nofun .inr
    · have before := sound.declared
      rw [declaredIn, List.flatMap_nil, List.append_nil] at before
      rw [Progress.declarations_taking, declaredIn_tasks, List.flatMap_cons]
      exact List.perm_append_comm.trans (before.append_left _)

/-- **Runs preserve the invariant.** -/
theorem IsReached.isSound {moment : sources.Moment} (h : moment.IsReached) : moment.IsSound := by
  induction h with
  | refl => exact isSound_start sources
  | tail _ next sound => exact next.step.isSound sound

/-- When nothing comes next, what has been declared is what the bodies declare. -/
theorem IsSound.perm_of_ended {moment : sources.Moment} (sound : moment.IsSound)
    (ended : moment.next? = none) :
    moment.progress.declarations.Perm (moment.bodies.flatMap Body.declared) := by
  have all := sound.declared
  rw [(nothing_left ended).1, declaredIn, List.flatMap_nil, List.append_nil] at all
  exact all

end Moment

/-! ## How much is taken up -/

/-- A document is fetched from a table at a location of the table. -/
theorem mem_keys_of_document {roots : List Xml.Element} {documents : Keyed String String}
    {allowDocumentType : Bool} {location : String}
    {schema : (ofRoots roots (.ofTable documents) allowDocumentType).KnownSchema}
    (h : (ofRoots roots (.ofTable documents) allowDocumentType).document location = .ok schema) :
    location ∈ documents.keys := by
  unfold document at h
  split at h
  · cases h
  · next text fetched =>
    change fetchFrom documents location = .ok text at fetched
    unfold fetchFrom at fetched
    split at fetched
    · next found => exact List.mem_map_of_mem (f := Prod.fst) (Keyed.mem_of_get? found)
    · cases fetched

/-- **Loading ends, and takes up every body once on its occasion.** Whatever schemas are at hand and
however the documents of a table import and include each other, no run goes on forever, and a run
comes to an end with the result of loading. In each moment of a run, failing or not, the bodies that
have been taken up are schemas that have been come to by their occasion: a target namespace that has
not been entered before, or a location of the table that has not been included before. So there are
at most as many as there are target namespaces and locations. -/
theorem bodies_bounded (roots : List Xml.Element) (documents : Keyed String String)
    (allowDocumentType : Bool) :
    let sources := ofRoots roots (.ofTable documents) allowDocumentType
    (WellFounded fun later moment : sources.Moment => moment.Next later) ∧
      (∃ moment : sources.Moment, moment.IsReached ∧ moment.result? = some sources.declarations) ∧
      ∀ moment : sources.Moment, moment.IsReached →
        (moment.bodies.map Body.pass).Nodup ∧ (∀ body ∈ moment.bodies, body.IsFound) ∧
        moment.bodies.length ≤ sources.namespaces.dedup.length + documents.keys.dedup.length := by
  intro sources
  refine ⟨Moment.wellFounded_next sources, Moment.exists_isReached sources,
    fun moment reached => ?_⟩
  have sound := reached.isSound
  refine ⟨sound.once, sound.found, ?_⟩
  have within : moment.bodies.map Body.pass ⊆
      sources.namespaces.dedup.map Pass.entering ++ documents.keys.dedup.map Pass.including := by
    intro pass mem
    obtain ⟨body, taken, rfl⟩ := List.mem_map.1 mem
    cases body with
    | entered location? schema =>
      exact List.mem_append_left _ (List.mem_map_of_mem (List.mem_dedup.2 (mem_namespaces schema)))
    | included location schema outer =>
      have fetched := (sound.found _ taken).1
      exact List.mem_append_right
        _ (List.mem_map_of_mem (List.mem_dedup.2 (mem_keys_of_document fetched)))
  calc moment.bodies.length = (moment.bodies.map Body.pass).length := (List.length_map _).symm
    _ ≤ _ := (sound.once.subperm within).length_le
    _ = _ := by rw [List.length_append, List.length_map, List.length_map]

end SchemaBinding.Schema.Sources
