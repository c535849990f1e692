import SchemaBinding.Proofs.Registry.Growth

/-!
# Registries in use

Whatever is asked of a registry, and whichever requests fail, it only grows, by
declarations that are offered to it (`Session.answers_grows`). So the invariant
holds after any requests, and the references that have been given are to
definitions that there are (`Session.wellFormed_answers`).
-/

namespace SchemaBinding

namespace Registry

variable {declarations : List Declaration}

/-! ## Causes -/

/-- No reference leads past the definitions. -/
def Failure.IsInRange (failure : Failure) : Prop :=
  ∀ count index, failure.cause ≠ .outOfRange count index

theorem Faulty.isInRange {failure : Failure} {d : Declaration} (h : Faulty failure d) :
    failure.IsInRange := by
  intro count index past
  cases h with
  | base _ _ _ cause => cases past.symm.trans cause
  | fieldName _ cause => cases past.symm.trans (Naming.cause_of_fieldName cause)
  | typeName cause => cases past.symm.trans (Naming.cause_of_typeName cause)

theorem NotFound.isInRange {failure : Failure} {path : List DefinitionKey} {name : Xml.Name}
    (h : NotFound declarations failure path name) : failure.IsInRange := by
  intro count index past
  cases past.symm.trans h.cause

theorem Fails.isInRange {failure : Failure} {path : List DefinitionKey} {d : Declaration}
    (h : Fails declarations failure path d) : failure.IsInRange := by
  induction h with
  | recursive _ cause _ => exact fun count index past => nomatch past.symm.trans cause
  | own _ faulty _ => exact faulty.isInRange
  | missing _ _ notFound => exact notFound.isInRange
  | reference _ _ _ _ ih => exact ih

theorem Unresolved.isInRange {failure : Failure} {path : List DefinitionKey} {name : Xml.Name}
    (h : Unresolved declarations failure path name) : failure.IsInRange := by
  obtain notFound | ⟨d, -, fails⟩ := h
  · exact notFound.isInRange
  · exact fails.isInRange

/-! ## Requests -/

theorem Needs.mem {name : Xml.Name} {d : Declaration} (h : Needs declarations name d) :
    d ∈ declarations := by
  induction h with
  | @here _ d _ _ => exact d.property
  | there _ _ _ _ ih => exact ih

/-- Whether a declaration may get a definition: it is declared, or a request hands it over. -/
def IsOffered (declarations : List Declaration) (requests : List Request) (d : Declaration) :
    Prop :=
  d ∈ declarations ∨ .generate d ∈ requests

/-- **What a request asks for** is the step of a name or of a declaration that is offered. Where
these ensure something, and so does what has been resolved, the request does. -/
theorem Request.ensures_step {marks : List DefinitionKey} {s : Registry}
    {done : TypeRef → Registry → Prop} {failed : Failure → Prop} (request : Request)
    (resolved : ∀ key ref, s.lookup? key = some ref → done ref s)
    (resolve : ∀ name, Ensures (resolveOn declarations marks name) s done failed)
    (generate : ∀ d, IsOffered declarations [request] d →
      Ensures (generateOn declarations marks d) s done failed) :
    Ensures (request.step declarations marks) s done failed := by
  cases request with
  | resolve name => exact resolve name
  | generate d => exact generate d (.inr (List.mem_singleton_self _))
  | resolveElement name =>
    rw [step, resolveElementOn]
    refine ensures_get_bind ?_
    split
    · next ref found => exact ensures_pure (resolved _ ref found)
    · split
      · next element _ _ => exact generate _ (.inl element.property)
      · exact resolve name

/-- Whether a step answers: it adds declarations that satisfy a condition, and gives a reference
that is found, or fails for another reason than a reference that leads past the definitions. -/
def IsAnswering (p : Declaration → Prop) (s : Registry) (step : Step TypeRef) : Prop :=
  Ensures step s (fun ref s' => Grows p s s' ∧ ∃ key, s'.lookup? key = some ref)
    (fun failure => Grows p s failure.registry ∧ failure.IsInRange)

/-- **What a request asks for is answered.** -/
theorem Request.isAnswering (declarations : List Declaration) (marks : List DefinitionKey)
    (request : Request) {s : Registry} (wf : s.WellFormed) :
    IsAnswering (IsOffered declarations [request]) s (request.step declarations marks) := by
  have resolve : ∀ name, IsAnswering (IsOffered declarations [request])
    s (resolveOn declarations marks name) := by
    intro name
    have offered : ∀ d, Wanted declarations marks [name] d → IsOffered declarations [request] d :=
      fun d ⟨_, _, _, needs⟩ => .inl needs.mem
    exact (resolveOn_ensures declarations marks name wf).mono
      (fun ref s' h => ⟨h.1.mono offered, _, h.2⟩)
      fun failure h => ⟨h.1.mono offered, h.2.isInRange⟩
  have generate : ∀ d, IsOffered declarations [request] d →
      IsAnswering (IsOffered declarations [request]) s (generateOn declarations marks d) := by
    intro d isOffered
    have offered : ∀ other, WantedFor declarations marks d other →
      IsOffered declarations [request] other := by
      rintro other ⟨-, rfl | ⟨_, _, needs⟩⟩
      · exact isOffered
      · exact .inl needs.mem
    exact (generateOn_ensures declarations marks d wf).mono
      (fun ref s' h => ⟨h.1.mono offered, _, h.2⟩)
      fun failure h => ⟨h.1.mono offered, h.2.isInRange⟩
  exact request.ensures_step (fun key _ resolved => ⟨.refl, key, resolved⟩) resolve generate

namespace Session

/-- What holds of an answer: a reference is found in the registry, and a failure is not one of a
reference that leads past the definitions. -/
def IsAnswer (registry : Registry) : Except GenerateError TypeRef → Prop
  | .ok ref => ∃ key, registry.lookup? key = some ref
  | .error cause => ∀ count index, cause ≠ .outOfRange count index

theorem IsAnswer.grows {p : Declaration → Prop} {s s' : Registry} (grows : Grows p s s')
    {answer : Except GenerateError TypeRef} (h : IsAnswer s answer) : IsAnswer s' answer := by
  cases answer with
  | ok ref =>
    obtain ⟨key, resolved⟩ := h
    exact ⟨key, grows.extends.lookup? resolved⟩
  | error cause => exact h

/-- **One answer** lets the registry grow. -/
theorem answer_grows (declarations : List Declaration) {session : Session}
    (wf : session.registry.WellFormed) (request : Request) :
    Grows (IsOffered declarations [request])
      session.registry (session.answer declarations request).2.registry ∧
      IsAnswer (session.answer declarations request).2.registry
        (session.answer declarations request).1 := by
  have ensured := request.isAnswering declarations session.marks wf
  unfold IsAnswering Ensures at ensured
  unfold answer
  cases outcome : (request.step declarations session.marks).run session.registry with
  | ok result =>
    rw [outcome] at ensured
    exact ensured
  | error failure =>
    rw [outcome] at ensured
    exact ensured

/-- **Any number of answers** lets the registry grow. -/
theorem answers_grows (declarations : List Declaration) {session : Session}
    (wf : session.registry.WellFormed) (requests : List Request) :
    Grows (IsOffered declarations requests)
      session.registry (session.answers declarations requests).2.registry ∧
      ∀ answer ∈ (session.answers declarations requests).1,
        IsAnswer (session.answers declarations requests).2.registry answer := by
  induction requests generalizing session with
  | nil => exact ⟨.refl, nofun⟩
  | cons request rest ih =>
    obtain ⟨first, answered⟩ := answer_grows declarations wf request
    obtain ⟨later, others⟩ := ih (first.wellFormed wf)
    have here : ∀ d, IsOffered declarations [request] d →
      IsOffered declarations (request :: rest) d :=
      fun d => Or.imp_right fun mem => List.mem_singleton.1 mem ▸ List.mem_cons_self ..
    have there : ∀ d, IsOffered declarations rest d → IsOffered declarations (request :: rest) d :=
      fun d => Or.imp_right (List.mem_cons_of_mem _)
    exact ⟨(first.mono here).trans (later.mono there),
      List.forall_mem_cons.2 ⟨answered.grows later, others⟩⟩

/-- **A registry in use is well formed**, whatever has been asked of it and whichever requests have
failed. All references that it has given are to definitions that there are, and no failure was a
reference that leads past them. -/
theorem wellFormed_answers (declarations : List Declaration) (requests : List Request) :
    let outcome := answers declarations {} requests
    outcome.2.registry.WellFormed ∧ ∀ answer ∈ outcome.1,
      (∀ i, answer = .ok (.generated i) → i < outcome.2.registry.definitions.length) ∧
      ∀ count index, answer ≠ .error (.outOfRange count index) := by
  obtain ⟨grows, answered⟩ := @answers_grows declarations {} .empty requests
  have wf := grows.wellFormed .empty
  refine ⟨wf, fun answer mem => ⟨fun i given => ?_, fun count index failed => ?_⟩⟩
  · obtain ⟨key, resolved⟩ := given ▸ answered answer mem
    obtain ⟨d, found, -⟩ := wf.known key i resolved
    exact (List.getElem?_eq_some_iff.1 found).1
  · exact (failed ▸ answered answer mem : IsAnswer _ (.error _)) count index rfl

end Session

end Registry

end SchemaBinding
