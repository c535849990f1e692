import SchemaBinding.Proofs.Pattern.Alike

/-!
# Escapes in a pattern that goes on

An escape is read alike, alone and with its ending (`escape_alike`). The closing
has no hexadecimal digit (`hexDigit?_closing`) and no character that the name of
a place may have (`isPlaceChar_closing`). So an escape that is not complete takes
the parenthesis itself, or it is a boundary before a brace that is never closed.
-/

namespace SchemaBinding.Pattern.Reader

variable {α : Type} {e : Ending} {s t : State} {lost : α → State → Prop} {need : Nat}
  {text : List Char}

/-! ## Escapes -/

/-- A value that there may be reads nothing. -/
theorem liftM_alike (a? : Option α) : ReadsAlike e Never need 0 (liftM a? : Reader α) := by
  cases a? with
  | none => exact .failure
  | some a => exact .pure a

/-- Making a character of hexadecimal digits reads nothing. -/
theorem hexChar_alike {ds : List Char} : ReadsAlike e Never need 0 (hexChar ds) := by
  refine ReadsAlike.andThen ?_ fun values => ?_
  · induction ds generalizing need with
    | nil => exact .pure []
    | cons d ds ih =>
      rw [List.mapM_cons]
      exact (liftM_alike _).andThen fun n => ih.andThen fun ns => .pure _
  · by_cases valid : (values.foldl (fun n d => 16 * n + d) 0).isValidChar
    · rw [dif_pos valid]
      exact .pure _
    · rw [dif_neg valid]
      exact .failure

/-- The closing has no hexadecimal digits. -/
theorem hexDigit?_closing {c : Char} (mem : c ∈ closing) : hexDigit? c = none := by
  rcases List.mem_pair.1 mem with rfl | rfl <;> rfl

/-- So no hexadecimal digits are read in the closing. -/
theorem hexDigits_leads {count : Nat} : Leads (Within closing) Never (hexDigits (count + 1)) := by
  refine .peek fun c mem => ?_
  simp only [hexDigit?_closing mem, Option.isNone_none, if_true]
  exact .failure

/-- **Hexadecimal digits** are read alike: a digit that is missing fails both readings. -/
theorem hexDigits_alike {count : Nat} : ReadsAlike e Never need 0 (hexDigits count) := by
  induction count generalizing need with
  | zero => exact .pure _
  | succ count ih =>
    refine .peek (fun c => .orFail fun _ => ?_) fun c mem => ?_
    · exact .advance (ih.andThen fun ds => .pure _)
    · simp only [hexDigit?_closing mem, Option.isNone_none, if_true]
      exact .failure

/-- The characters of the closing are different from all others. -/
theorem closing_ne {c x : Char} (mem : c ∈ closing) (other : x ∉ closing) : c ≠ x :=
  fun eq => other (eq ▸ mem)

/-- **Hexadecimal escapes** are read alike, with as many digits as they have or in braces: what is
missing at the end is not in the closing. -/
theorem hexEscape_alike {width : Nat} : ReadsAlike e Never need 1 (hexEscape (width + 1)) := by
  refine .advanceWithin (fun c => ?_) fun c mem => ?_
  · split
    · refine .bind (.weaken advanceWithin_alike)
        (fun _ => .takeSpaced (by decide) fun ds =>
          .peek (fun c => .orFail fun _ => ?_) fun c mem => ?_)
        fun _ => .bind remaining_within fun _ => .bind takeSpaced_within fun ds =>
          .peek fun c mem => ?_
      · exact .advance (.andThen hexChar_alike fun c => .pure _)
      · exact .orFail fun braced => absurd (.inr (closing_ne mem (by decide))) braced
      · exact .orFail fun braced => absurd (.inr (closing_ne mem (by decide))) braced
    · exact .andThen hexDigits_alike fun ds => .andThen hexChar_alike fun c => .pure _
  · rw [if_neg (closing_ne mem (by decide))]
    exact .bind hexDigits_leads fun _ => .never

/-- The set of a property is found without reading. -/
theorem namedSet_alike {negated : Bool} {name : List Char} :
    ReadsAlike e Never need 0 (namedSet negated name) := by
  refine .get fun s s' follows enough => ?_
  rw [follows.flags_eq]
  refine ReadsAlike.run (.orFail fun _ => ?_) follows enough
  repeat' split
  all_goals first | exact .pure _ | exact .failure

/-- The set of a property is found in any state. -/
theorem namedSet_leads {pre : State → Prop} {negated : Bool} {name : List Char} :
    Leads pre (fun _ => pre) (namedSet negated name) := by
  refine .get fun s => .orFail fun _ => ?_
  repeat' split
  all_goals first | exact .pure And.left | exact .failure

/-- A closing brace before what another reader reads. -/
def braceThen (f : Reader α) : Reader α := do
  if (← peek) ≠ '\x7d' then failure
  skip
  f

/-- A name up to a brace takes the closing along where the brace is missing, and then fails. -/
theorem ReadsAlike.upToBrace {g : List Char → Reader α}
    (next : ∀ name, ReadsAlike e lost 0 0 (g name)) :
    ReadsAlike e lost need 0
      (remaining >>= fun count => Reader.takeSpaced (· ≠ '\x7d') count >>= fun name =>
        braceThen (g name)) := by
  have alike (name : List Char) : ReadsAlike e lost 0 0 (braceThen (g name)) :=
    .peek (fun c => .orFail fun _ => .skip (next name) (Nat.zero_le _)) fun c mem =>
      .orFail fun other =>
      absurd (closing_ne mem (by decide)) other
  have leads (name : List Char) : Leads (Within ['$']) lost (braceThen (g name)) :=
    .peek fun c mem => .orFail fun other =>
      absurd (closing_ne (List.IsSuffix.subset dollar_suffix_closing mem) (by decide)) other
  intro s s' follows _
  rw [remaining_run, remaining_run]
  obtain ⟨ds, t, ds', t', run, run', suffix, ⟨rfl, follows⟩ | ⟨-, ended, within⟩⟩ :=
    takeSpaced_run_alike (p := (· ≠ '\x7d')) follows follows.within follows.within'
  · rw [StateT.run_bind, StateT.run_bind, run, run']
    exact (alike ds' follows (Nat.zero_le _)).mono suffix id
  · rw [StateT.run_bind, StateT.run_bind, run, run']
    have fails : (braceThen (g ds)).run t = none := by
      rw [braceThen, StateT.run_bind, peek_run_nil ended]
      rfl
    simp only [Option.bind_eq_bind, Option.bind_some, fails]
    exact fun a v later => leads ds' within later

/-- **Properties** are read alike, unless the closing parenthesis is taken for the name of one. -/
theorem property_alike {negated : Bool} :
    ReadsAlike e (fun _ => Within ['$']) need 1 (property negated) := by
  refine .advanceWithin (fun c => ?_) fun c mem => ?_
  · split
    · exact .advance (.upToBrace fun name => .anyLost namedSet_alike)
    · exact .peek (fun c => .orFail fun _ => .advance (.anyLost namedSet_alike)) fun c mem =>
        .orFail fun _ =>
        .bind advance_within fun _ => namedSet_leads
  · rw [if_neg (closing_ne mem (by decide))]
    exact .peek fun c mem => .orFail fun _ => .bind advance_within fun _ => namedSet_leads

/-- The name of a place is read alike, since no brace in the closing ends it. -/
theorem placeName_alike : ReadsAlike e Never need 0 placeName := by
  refine .takeSpaced (by decide) fun name =>
    .peek (fun c => .orFail fun _ => .skip ?_ (Nat.zero_le _)) fun c mem =>
    .orFail fun same => absurd (closing_ne mem (by decide)) same
  split
  · exact .pure _
  · exact .failure

/-- A state before a brace that is no repetition: what follows the brace is closing. -/
def Stuck (s : State) : Prop :=
  s.rest.head? = some '\x7b' ∧ ∀ {t}, advance.run s = some ((), t) → Within closing t

/-- The closing has no character of the name of a place. -/
theorem isPlaceChar_closing {c : Char} (mem : c ∈ closing) : isPlaceChar c = false := by
  rcases List.mem_pair.1 mem with rfl | rfl <;> rfl

/-- A boundary that no brace follows has no name. -/
theorem boundary_run (eq : s.rest.head? ≠ some '\x7b') : boundary.run s = some (.boundary, s) := by
  simp [boundary, peek?, eq]

/-- A boundary before a brace has a name if a character of one comes next; else the brace is no part
of it. -/
theorem boundary_run_brace (opened : s.rest.head? = some '\x7b')
    (run : advance.run s = some ((), t)) :
    boundary.run s = (peek.run t).bind fun (c, _) =>
      if isPlaceChar c then placeName.run t else some (.boundary, s) := by
  have first : peek?.run s = some (some '\x7b', s) := by simp [peek?, opened]
  cases eq : t.rest with
  | nil =>
    simp [boundary, advanceWithin, first, run, peek_run_nil eq]
  | cons c u =>
    simp [boundary, advanceWithin, first, run, peek_run_cons eq]
    split <;> rfl

/-- **Boundaries** are read alike, unless a brace behind one is the last character: then the second
reading gives the boundary, and is stuck before the brace. -/
theorem boundary_alike :
    ReadsAlike e (fun place s => place = .boundary ∧ Stuck s) need 0 boundary := by
  intro s s' follows _
  by_cases opened : s.rest.head? = some '\x7b'
  · obtain ⟨u, eq⟩ := List.head?_eq_some_iff.1 opened
    have opened' : s'.rest.head? = some '\x7b' := by rw [follows.cons eq, List.head?_cons]
    obtain ⟨t, run⟩ := advance_run s
    have first := advance_alike follows (by simp [eq])
    rw [run] at first
    obtain ⟨suffix, t', run', follows'⟩ := first
    rw [boundary_run_brace opened run, boundary_run_brace opened' run']
    by_cases ended : t.rest = []
    · rw [peek_run_nil ended]
      intro place v later
      obtain ⟨⟨c, _⟩, looked, later⟩ := Option.bind_eq_some_iff.1 later
      have within := follows'.nil ended
      simp only [isPlaceChar_closing (peek_within within looked).1] at later
      cases later
      refine ⟨rfl, opened', fun {t''} run'' => ?_⟩
      cases run'.symm.trans run''
      exact within
    · obtain ⟨c, v, eq'⟩ := List.exists_cons_of_ne_nil ended
      rw [peek_run_cons eq', peek_run_cons (follows'.cons eq')]
      simp only [Option.bind_some]
      split
      · exact (ReadsAlike.run (.anyLost placeName_alike) follows' (Nat.zero_le _)).mono
          (suffix.trans (List.drop_suffix_drop_left _ (Nat.zero_le _))) id
      · exact ⟨List.suffix_refl _, _, rfl, follows⟩
  · have opened' : s'.rest.head? ≠ some '\x7b' := by
      cases eq : s.rest with
      | nil => rcases follows.head_of_nil eq with none_ | some_ <;> simp [*]
      | cons c u => rwa [follows.cons eq, List.head?_cons, ← List.head?_cons (l := u), ← eq]
    rw [boundary_run opened, boundary_run opened']
    exact ⟨List.suffix_refl _, _, rfl, follows⟩

/-- An escape is lost when it takes the closing parenthesis, or when it is a boundary before a
brace. -/
theorem escape_alike :
    ReadsAlike e (fun written s => Within ['$'] s ∨ ((∃ l, written = .look l) ∧ Stuck s)) 1 1
    escape := by
  refine .skip (.peek (fun c => .get fun t t' follows enough => ?_) fun c mem => .get fun t => ?_)
    (Nat.le_refl _)
  · rw [follows.flags_eq]
    refine ReadsAlike.run ?_ follows enough
    dsimp only
    split
    · exact .mono hexEscape_alike (Nat.zero_le _) (Nat.zero_le _) False.elim
    · exact .mono hexEscape_alike (Nat.zero_le _) (Nat.zero_le _) False.elim
    · exact .mono hexEscape_alike (Nat.zero_le _) (Nat.zero_le _) False.elim
    · exact .bind (.weaken property_alike) (fun _ => .pure _) fun _ => .pure .inl
    · exact .bind (.weaken property_alike) (fun _ => .pure _) fun _ => .pure .inl
    · refine .skip ?_ (Nat.zero_le _)
      split
      case h_9 =>
        exact .bind boundary_alike (fun _ => .pure _)
          fun place => .pure fun lost => .inr ⟨⟨_, rfl⟩, lost.2⟩
      all_goals repeat' split
      all_goals first | exact .pure _ | exact .failure
  · dsimp only
    split
    case h_6 =>
      refine Leads.bind (.mono skip_within And.left id) fun _ => ?_
      split
      case h_9 => exact absurd mem (by decide)
      all_goals repeat' split
      all_goals first | exact .pure .inl | exact .failure
    all_goals exact absurd mem (by decide)

/-! ## Items of classes -/

/-- An item of a class takes a character of the closing. -/
theorem classItem_leads : Leads (Within closing) (fun _ => Within ['$']) classItem := by
  refine .peek fun c mem => ?_
  rw [if_neg (closing_ne mem (by decide))]
  exact .bind skip_within fun _ => .pure id

/-- **Items of classes** are read alike, unless an escape takes the closing parenthesis or is an
assertion, which is no item. -/
theorem classItem_alike :
    ReadsAlike e (fun written s => Within ['$'] s ∨ ∃ l, written = .look l) need 1 classItem := by
  refine .peek (fun c => ?_) fun c mem => ?_
  · split
    · exact .mono escape_alike (Nat.le_refl _) (Nat.le_refl _) (.imp_right And.left)
    · exact .skip (.pure _) (Nat.le_refl _)
  · rw [if_neg (closing_ne mem (by decide))]
    exact .bind skip_within fun _ => .pure .inl

/-- Taking an item for a character reads nothing. -/
theorem classChar_alike (written : Escape) : ReadsAlike e Never need 0 (classChar written) := by
  cases written with
  | char c byte =>
    refine .get fun t t' follows enough => ?_
    rw [follows.flags_eq]
    refine ReadsAlike.run ?_ follows enough
    split
    · exact .pure _
    · exact .failure
  | set => exact .failure
  | look => exact .failure

/-- An item is taken for a character in any state. -/
theorem classChar_leads {pre : State → Prop} (written : Escape) :
    Leads pre (fun _ => pre) (classChar written) := by
  cases written with
  | char c byte =>
    refine .get fun t => ?_
    split
    · exact .pure And.left
    · exact .failure
  | set => exact .failure
  | look => exact .failure

end SchemaBinding.Pattern.Reader
