import SchemaBinding.Proofs.Loading.Steps

/-!
# What runs come to

Loading carries out tasks one after the other (`run_cons`), as the steps of a
run do, so that each step leaves the result of the rest of the run as it is
(`finish_eq`). Every run comes to a moment in which it ends, and there it has
the result that loading gives (`exists_isReached`).
-/

namespace SchemaBinding.Schema.Sources

variable {sources : Sources}

/-! ## Carrying out tasks -/

/-- Goes on from an outcome with the tasks that are left. -/
def proceed (progress : Progress) (rest : List sources.Task) :
    sources.Outcome → Except SchemaError Progress
  | .declares declarations => sources.run (progress.declaring declarations) rest
  | .takesUp body => sources.run (progress.taking body.pass) (body.tasks ++ rest)

theorem proceed_nothing (progress : Progress) (rest : List sources.Task) :
    proceed progress rest (.declares []) = sources.run progress rest := by
  rw [proceed, Progress.declaring_nil]

theorem run_nil (progress : Progress) : sources.run progress [] = .ok progress := by rw [run]

/-- **Tasks are carried out one after the other.** -/
theorem run_cons (progress : Progress) (task : sources.Task) (rest : List sources.Task) :
    sources.run progress (task :: rest) =
      (sources.outcome progress task).bind (proceed progress rest) := by
  obtain ⟨outer, node⟩ := task
  rw [run, outcome]
  split
  next e read => rw [read]; rfl
  next declarations read => rw [read]; rfl
  next namespaceName? location? read =>
    rw [read]
    dsimp only
    cases sources.imported progress.entered namespaceName? location? with
    | error cause => rfl
    | ok schema? =>
      cases schema? with
      | none => exact (proceed_nothing progress rest).symm
      | some schema =>
        dsimp only
        cases checked : checkSchema schema.val with
        | error e =>
          rw [takeUp_of_error (importedBody namespaceName? location? schema) checked]
          rfl
        | ok _ =>
          by_cases known : targetNamespace schema.val ∈ progress.entered
          · rw [takeUp_of_has (importedBody namespaceName? location? schema) checked known]
            exact (if_pos known).trans (proceed_nothing progress rest).symm
          · rw [takeUp_of_not_has (importedBody namespaceName? location? schema) checked known]
            exact if_neg known
  next location read =>
    rw [read]
    dsimp only
    by_cases known : location ∈ progress.included
    · rw [if_pos known, if_pos known]
      exact (proceed_nothing progress rest).symm
    · rw [if_neg known, if_neg known]
      cases sources.document location with
      | error cause => rfl
      | ok schema =>
        dsimp only
        cases checked : checkSchema schema.val with
        | error e => rw [takeUp_of_error (.included location schema outer) checked]; rfl
        | ok _ => rw [takeUp_of_not_has (.included location schema outer) checked known]; rfl

/-- A schema at hand is taken up like any other. -/
theorem enterRoot_eq (progress : Progress) (schema : sources.KnownSchema) :
    sources.enterRoot progress schema =
      (takeUp progress (.entered none schema)).bind (proceed progress []) := by
  unfold enterRoot
  cases checked : checkSchema schema.val with
  | error e => rw [takeUp_of_error (.entered none schema) checked]; rfl
  | ok _ =>
    by_cases has : targetNamespace schema.val ∈ progress.entered
    · rw [takeUp_of_has (.entered none schema) checked has]
      exact (if_pos has).trans ((proceed_nothing progress []).trans (run_nil progress)).symm
    · rw [takeUp_of_not_has (.entered none schema) checked has]
      exact (if_neg has).trans (congrArg _ (List.append_nil _).symm)

/-! ## The rest of a run -/

namespace Moment

/-- The result of the rest of a run: the tasks that are left, and then the schemas at hand that are
waiting. -/
def finish (moment : sources.Moment) : Except SchemaError (List Declaration) :=
  (sources.run moment.progress moment.work).bind fun progress =>
    (moment.waiting.foldlM sources.enterRoot progress).map Progress.declarations

theorem finish_after (moment : sources.Moment) (result : sources.Outcome) :
    (moment.after result).finish = (proceed moment.progress moment.work result).bind fun progress =>
      (moment.waiting.foldlM sources.enterRoot progress).map Progress.declarations := by
  cases result <;> rfl

/-- **Each step leaves the result as it is**, and a failure is the result. -/
theorem finish_eq (moment : sources.Moment) :
    moment.finish = match moment.next? with
      | none => .ok moment.progress.declarations
      | some next => next.bind finish := by
  obtain ⟨progress, bodies, work, waiting⟩ := moment
  cases work with
  | cons task rest =>
    rw [finish, run_cons, next?]
    cases sources.outcome progress task with
    | error e => rfl
    | ok result => exact (finish_after ⟨progress, bodies, rest, waiting⟩ result).symm
  | nil =>
    rw [finish, run_nil]
    cases waiting with
    | nil => rfl
    | cons schema later =>
      rw [next?]
      refine (congrArg (Except.map _) (List.foldlM_cons ..)).trans ?_
      rw [enterRoot_eq]
      cases takeUp progress (.entered none schema) with
      | error e => rfl
      | ok result =>
        refine Eq.trans ?_ (finish_after ⟨progress, bodies, [], later⟩ result).symm
        change Except.map _ ((proceed progress [] result).bind fun next =>
          later.foldlM sources.enterRoot next) = _
        cases proceed progress [] result <;> rfl

theorem finish_start (sources : Sources) : (start sources).finish = sources.declarations := by
  rw [finish, start, run_nil]
  change (sources.rootSchemas.foldlM sources.enterRoot {}).map Progress.declarations = _
  rw [declarations]
  cases sources.rootSchemas.foldlM sources.enterRoot {} <;> rfl

theorem Next.finish_eq {moment later : sources.Moment} (h : Next moment later) :
    moment.finish = later.finish := by
  rw [Moment.finish_eq moment, h]
  rfl

theorem IsReached.finish_eq {moment : sources.Moment} (h : moment.IsReached) :
    moment.finish = sources.declarations := by
  induction h with
  | refl => exact finish_start sources
  | tail _ next ih => rw [← next.finish_eq, ih]

/-- The result in the moment in which a run ends is that of its rest. -/
theorem finish_of_result? {moment : sources.Moment} {result : Except SchemaError (List Declaration)}
    (h : moment.result? = some result) : moment.finish = result := by
  rw [Moment.finish_eq]
  unfold result? at h
  split at h <;> cases h
  · next ended => rw [ended]
  · next e failed => rw [failed]; rfl

/-- **A run comes to a moment in which it ends, with the result of loading.** -/
theorem exists_isReached (sources : Sources) :
    ∃ moment : sources.Moment, moment.IsReached ∧ moment.result? = some sources.declarations := by
  have ends : ∀ moment : sources.Moment, moment.IsReached → ∃ last : sources.Moment,
      last.IsReached ∧ ∃ result, last.result? = some result := by
    intro moment
    induction moment using (wellFounded_next sources).induction with
    | _ moment ih =>
      intro reached
      cases after : moment.next? with
      | none => exact ⟨moment, reached, _, by rw [result?, after]⟩
      | some next =>
        cases next with
        | error e => exact ⟨moment, reached, _, by rw [result?, after]⟩
        | ok later => exact ih later after (reached.tail after)
  obtain ⟨last, reached, result, ended⟩ := ends (start sources) .refl
  exact ⟨last, reached, by rw [ended, ← finish_of_result? ended, reached.finish_eq]⟩

/-- In the moment in which a run without failure ends, nothing is left to do. -/
theorem exists_of_declarations {declarations : List Declaration}
    (h : sources.declarations = .ok declarations) :
    ∃ moment : sources.Moment, moment.IsReached ∧ moment.next? = none ∧
      moment.progress.declarations = declarations := by
  obtain ⟨moment, reached, ended⟩ := exists_isReached sources
  rw [h] at ended
  unfold result? at ended
  split at ended <;> cases ended
  exact ⟨moment, reached, ‹_›, rfl⟩

/-- When nothing comes next, nothing is left to do. -/
theorem nothing_left {moment : sources.Moment} (h : moment.next? = none) :
    moment.work = [] ∧ moment.waiting = [] := by
  obtain ⟨progress, bodies, work, waiting⟩ := moment
  cases work with
  | cons task rest => cases h
  | nil =>
    cases waiting with
    | cons schema later => cases h
    | nil => exact ⟨rfl, rfl⟩

/-! ## Short runs -/

/-- The result of the rest of a run, if it ends within a number of steps. -/
def resultWithin : Nat → sources.Moment → Option (Except SchemaError (List Declaration))
  | 0, _ => none
  | n + 1, moment =>
    match moment.next? with
    | none => some (.ok moment.progress.declarations)
    | some (.error e) => some (.error e)
    | some (.ok later) => resultWithin n later

theorem finish_of_resultWithin {n : Nat} {moment : sources.Moment}
    {result : Except SchemaError (List Declaration)} (h : moment.resultWithin n = some result) :
    moment.finish = result := by
  induction n generalizing moment with
  | zero => cases h
  | succ n ih =>
    rw [Moment.finish_eq]
    unfold resultWithin at h
    cases after : moment.next? with
    | none =>
      rw [after] at h
      exact Option.some.inj h
    | some next =>
      rw [after] at h
      cases next with
      | error e => exact Option.some.inj h
      | ok later => exact ih h

/-- **Following a run step by step** until it ends gives the result of loading. -/
theorem declarations_of_resultWithin {n : Nat} {result : Except SchemaError (List Declaration)}
    (h : (start sources).resultWithin n = some result) : sources.declarations = result :=
  (finish_start sources).symm.trans (finish_of_resultWithin h)

end Moment

end SchemaBinding.Schema.Sources
