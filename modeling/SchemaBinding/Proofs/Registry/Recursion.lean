import Mathlib.Data.List.Induction
import SchemaBinding.Proofs.Registry.Cycles
import SchemaBinding.Proofs.Registry.Session

/-!
# What recursion is reported for

A declaration is reported to refer to itself when it is met again on the way.
Either the way has entered it before, and is a cycle, or its key is a mark that
was there from the beginning (`Fails.reportsRecursion`). Marks are left by
requests that fail (`Session.isLeft_of_mem_marks`). So recursion is reported for
a declaration that refers to itself, or for one whose key an earlier request has
left as a mark (`Session.exists_recursive`).
-/

namespace SchemaBinding

namespace Registry

variable {declarations : List Declaration} {failure : Failure} {path marks : List DefinitionKey}
  {d : Declaration} {name : Xml.Name}

/-- Whether a type refers to itself, directly or through others. -/
def IsSelfReferring (declarations : List Declaration) (d : Declaration) : Prop :=
  d.isType = true ∧ ∃ r ∈ d.references, Relation.ReflTransGen (Edge declarations) r d.name

/-- Whether recursion, if a failure reports it, is reported for a declaration that refers to itself,
or for one whose key is a mark. -/
def Failure.ReportsRecursion (declarations : List Declaration) (requests : List Request)
    (marks : List DefinitionKey) (failure : Failure) : Prop :=
  ∀ name, failure.cause = .recursiveType name → ∃ d, IsOffered declarations requests d ∧
    d.name = name ∧ (IsSelfReferring declarations d ∨ d.key ∈ marks)

/-! ## Causes of a failure -/

theorem Faulty.cause_ne (h : Faulty failure d) : failure.cause ≠ .recursiveType name := by
  intro recursive
  cases h with
  | base _ _ _ cause => cases recursive.symm.trans cause
  | fieldName _ cause => cases recursive.symm.trans (Naming.cause_of_fieldName cause)
  | typeName cause => cases recursive.symm.trans (Naming.cause_of_typeName cause)

/-- **Why recursion is reported.** The way has entered some declarations, each of which leads to
where it is. Then what is met again is one of them, which refers to itself, or its key was there
before all of them. -/
theorem Fails.reportsRecursion {requests : List Request} (h : Fails declarations failure path d)
    (entered : List Declaration)
    (split : path = entered.map Declaration.key ++ marks)
    (offered : ∀ e ∈ d :: entered, IsOffered declarations requests e)
    (way : ∀ e ∈ entered, ∃ r ∈ e.references, Relation.ReflTransGen (Edge declarations) r d.name)
    (reached : entered ≠ [] → d.isType = true ∧ IsFirst declarations d) :
    failure.ReportsRecursion declarations requests marks := by
  intro name cause
  induction h generalizing entered with
  | @recursive path d met cause' _ =>
    cases cause.symm.trans cause'
    rw [split, List.mem_append] at met
    rcases met with again | before
    · obtain ⟨e, mem, same⟩ := List.mem_map.1 again
      have named : e.name = d.name := congrArg DefinitionKey.name same
      have isType : e.isType = true :=
        (congrArg DefinitionKey.isType same).trans (reached (List.ne_nil_of_mem mem)).1
      exact ⟨e, offered e (List.mem_cons_of_mem _ mem), named, .inl ⟨isType, named ▸ way e mem⟩⟩
    · exact ⟨d, offered d (List.mem_cons_self ..), rfl, .inr before⟩
  | own _ faulty _ => exact absurd cause faulty.cause_ne
  | missing _ _ notFound => cases cause.symm.trans notFound.cause
  | @reference path d r first enters refers found _ ih =>
    have key : first.val.key = ⟨true, r⟩ := key_of_firstType? found
    have named : first.val.name = r := congrArg DefinitionKey.name key
    refine ih (d :: entered) (by rw [split, List.map_cons, List.cons_append])
      (List.forall_mem_cons.2 ⟨.inl first.property, offered⟩) ?_
      fun _ => ⟨congrArg DefinitionKey.isType key, isFirst_of_firstType? found⟩
    rw [named, List.forall_mem_cons]
    refine ⟨⟨r, refers, .refl⟩, fun e mem => ?_⟩
    -- What has been entered before leads on to the reference, for the declaration is the first with
    -- its name.
    obtain ⟨isType, isFirst⟩ := reached (List.ne_nil_of_mem mem)
    obtain ⟨first', found', same⟩ := isFirst isType
    obtain ⟨r', refers', leads⟩ := way e mem
    exact ⟨r', refers', leads.tail ⟨enters.notBuiltin isType, first', found', same ▸ refers⟩⟩

theorem Unresolved.reportsRecursion (requests : List Request)
    (h : Unresolved declarations failure marks name) :
    failure.ReportsRecursion declarations requests marks := by
  rcases h with notFound | ⟨first, -, fails⟩
  · exact fun id cause => nomatch cause.symm.trans notFound.cause
  · exact fails.reportsRecursion [] rfl (List.forall_mem_singleton.2 (.inl first.property))
      nofun (absurd rfl)

/-! ## Requests -/

/-- **Recursion is reported to a request** for a declaration that refers to itself, or for one whose
key is a mark. -/
theorem Request.reportsRecursion (declarations : List Declaration) (marks : List DefinitionKey)
    (request : Request) {s : Registry} (wf : s.WellFormed) :
    Ensures (request.step declarations marks) s (fun _ _ => True)
      (Failure.ReportsRecursion declarations [request] marks) := by
  have resolve : ∀ name, Ensures (resolveOn declarations marks name) s (fun _ _ => True)
      (Failure.ReportsRecursion declarations [request] marks) := fun name =>
    (resolveOn_ensures declarations marks name wf).mono (fun _ _ _ => trivial) fun _ h =>
      h.2.reportsRecursion _
  have generate : ∀ d, IsOffered declarations [request] d →
    Ensures (generateOn declarations marks d) s
      (fun _ _ => True) (Failure.ReportsRecursion declarations [request] marks) := fun d offered =>
    (generateOn_ensures declarations marks d wf).mono (fun _ _ _ => trivial) fun _ h =>
      h.2.reportsRecursion [] rfl (List.forall_mem_singleton.2 offered) nofun (absurd rfl)
  exact request.ensures_step (fun _ _ _ => trivial) resolve generate

namespace Session

/-- Whether a mark is left by one of some requests: it is not there before this request, and is
there after it. -/
def IsLeft (declarations : List Declaration) (requests : List Request) (key : DefinitionKey) :
    Prop :=
  ∃ before request after, requests = before ++ request :: after ∧
    key ∉ (answers declarations {} before).2.marks ∧
    key ∈ (answers declarations {} (before ++ [request])).2.marks

/-- **Marks are left by requests.** -/
theorem isLeft_of_mem_marks {requests : List Request} {key : DefinitionKey}
    (mem : key ∈ (answers declarations {} requests).2.marks) :
    IsLeft declarations requests key := by
  induction requests using List.reverseRecOn with
  | nil => cases mem
  | append_singleton before request ih =>
    by_cases earlier : key ∈ (answers declarations {} before).2.marks
    · obtain ⟨before', request', after, rfl, new, left⟩ := ih earlier
      exact ⟨before', request', after ++ [request], by
        simp only [List.append_assoc, List.cons_append], new, left⟩
    · exact ⟨before, request, [], rfl, earlier, mem⟩

/-- **Recursion is reported** for a declaration that refers to itself, or for one whose key an
earlier request has left as a mark. -/
theorem exists_recursive (before : List Request) (request : Request)
    (answered : ((answers declarations {} before).2.answer declarations request).1 =
      .error (.recursiveType name)) :
    ∃ d, IsOffered declarations [request] d ∧ d.name = name ∧
      (IsSelfReferring declarations d ∨ IsLeft declarations before d.key) := by
  have wf := (@answers_grows declarations {} .empty before).1.wellFormed .empty
  have ensured := request.reportsRecursion declarations (answers declarations {} before).2.marks wf
  unfold Ensures at ensured
  unfold answer at answered
  split at answered
  · cases answered
  · next failed =>
    rw [failed] at ensured
    obtain ⟨d, offered, named, why⟩ := ensured name (Except.error.inj answered)
    exact ⟨d, offered, named, why.imp_right isLeft_of_mem_marks⟩

end Session

end Registry

end SchemaBinding
