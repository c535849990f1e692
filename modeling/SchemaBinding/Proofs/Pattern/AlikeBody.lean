import SchemaBinding.Proofs.Pattern.AlikeClass

/-!
# Groups and whole patterns that go on

A group that is open at the end of a pattern takes the closing for its own, and
then has no end itself. A repetition needs what comes before it, and the closing
begins none. So the body of a pattern is read alike, alone and with its ending
(`body_run_alike`): by induction over the bound of its steps, each of which is
read alike and leaves the rest to the induction hypothesis. Where the first
reading fails, the second one has lost the parenthesis and cannot end a group.
-/

namespace SchemaBinding.Pattern.Reader

variable {α : Type} {e : Ending} {s s' t : State} {lost : α → State → Prop} {need : Nat}
  {text : List Char}

/-! ## Openings of groups -/

/-- A reader that changes what the states say, beside what remains. -/
theorem modify_alike {change : State → State}
    (keeps : ∀ s s', Follows e s s' → (change s).rest = s.rest ∧ Follows e (change s) (change s')) :
    ReadsAlike e Never need 0 (modify change : Reader PUnit) :=
  fun s s' follows _ => ⟨(keeps s s' follows).1 ▸ List.suffix_refl _, _, rfl,
    (keeps s s' follows).2⟩

/-- Setting flags reads nothing. -/
theorem setFlags_alike (flags : Flags) :
    ReadsAlike e Never need 0 (modify fun s => { s with flags } : Reader PUnit) :=
  modify_alike fun _ _ follows => ⟨rfl, { follows with flags_eq := rfl }⟩

/-- Setting flags stays within a text. -/
theorem setFlags_within (flags : Flags) :
    Leads (Within text) (fun _ => Within text)
    (modify fun s => { s with flags } : Reader PUnit) := by
  intro s a t within run
  cases run
  exact within

/-- Numbering a group reads nothing. -/
theorem numberGroup_alike : ReadsAlike e Never need 0 numberGroup := by
  intro s s' follows _
  have number : s'.nextGroup = s.nextGroup := follows.nextGroup_eq
  exact ⟨List.suffix_refl _, { s' with nextGroup := s'.nextGroup + 1 },
    congrArg (fun n => some (n, _)) number,
    { follows with nextGroup_eq := congrArg (· + 1) number }⟩

/-- Two questions of which the second one is asked when the first one is answered no. -/
theorem orM_alike {f g : Reader Bool} (first : ReadsAlike e Never need 0 f)
    (second : ReadsAlike e Never 0 0 g) :
    ReadsAlike e Never need 0 (f <||> g) := by
  refine first.andThen fun b => ?_
  cases b
  · exact second
  · exact .pure _

/-- A name and what comes after it. -/
theorem groupName_run (s : State) : groupName.run s =
    if !isGroupName (s.rest.takeWhile (· ≠ '>')) ∨
      s.names.contains (String.ofList (s.rest.takeWhile (· ≠ '>')))
    then none
    else (skipIf ">" >>= fun closed => if !closed then failure else pure ()).run
      { s with
        rest := s.rest.dropWhile (· ≠ '>')
        names := String.ofList (s.rest.takeWhile (· ≠ '>')) :: s.names } := by
  have split : s.rest.drop (s.rest.takeWhile (· ≠ '>')).length = s.rest.dropWhile (· ≠ '>') :=
    (congrArg (List.drop _) List.takeWhile_append_dropWhile).symm.trans List.drop_left
  rw [groupName, get_run, ← split]
  dsimp only
  split
  · rfl
  · rfl

/-- The name of a group must be ended by an angle. -/
theorem groupName_run_nil (ended : s.rest.dropWhile (· ≠ '>') = []) : groupName.run s = none := by
  rw [groupName_run, ended]
  split
  · rfl
  · rw [StateT.run_bind, skipIf_run, if_neg (by simp)]
    rfl

/-- **Names of groups** are read alike: no angle in the closing ends one. -/
theorem groupName_alike : ReadsAlike e Never need 0 groupName := by
  intro s s' follows _
  rcases follows.rest_eq with eq | ⟨nil, nil', -⟩
  · rcases e.split_append (x := '>') (by decide) s.rest with
      ⟨ended', ended⟩ | ⟨v, same, same', name⟩
    · rw [groupName_run_nil ended, groupName_run_nil (eq ▸ ended')]
      exact nofun
    · rw [groupName_run, groupName_run, eq, same, same', name, follows.names_eq]
      have suffix : '>' :: v <:+ s.rest := same ▸ List.dropWhile_suffix _
      have suffix' : '>' :: (v ++ e.after) <:+ s'.rest := eq ▸ same' ▸ List.dropWhile_suffix _
      let names := String.ofList (s.rest.takeWhile (· ≠ '>')) :: s.names
      have moved : Follows e { s with rest := '>' :: v, names }
          { s' with rest := '>' :: (v ++ e.after), names } :=
        { follows.move suffix suffix' (.inl rfl) with names_eq := rfl }
      split
      · intro a t' run
        cases run
      · refine (ReadsAlike.alike ((skipIf_alike (by decide)).andThen fun closed => ?_) moved).mono
          suffix id
        split
        · exact .failure
        · exact .pure _
  · rw [groupName_run_nil (by rw [nil]; rfl), groupName_run_nil (by rw [nil']; rfl)]
    exact nofun

/-- No flags are read in the closing. -/
theorem groupFlags_leads {flags : Flags} {seen : List Char} {count : Nat} :
    Leads (Within closing) (fun _ => Within closing) (groupFlags flags seen count) := by
  induction count generalizing flags seen with
  | zero => exact .failure
  | succ count ih =>
    refine .peek fun c _ => ?_
    split
    · split
      · exact .failure
      · exact .pure id
    · refine .orFail fun _ => .bind (.mono skip_within id Within.of_tail) fun _ => ?_
      split
      · exact ih
      · split
        · exact ih
        · exact .failure

/-- **Flags** are read alike, or the second reading has come to the closing. The induction is on the
number of characters that may be read. -/
theorem groupFlags_run_alike {flags : Flags} {seen : List Char} {count count' : Nat}
    (follows : Follows e s s') (enough : s.rest.length < count)
    (enough' : s'.rest.length < count') :
    Alike e (fun _ => Within closing) s.rest ((groupFlags flags seen count).run s)
      ((groupFlags flags seen count').run s') := by
  induction count generalizing s s' count' flags seen with
  | zero => exact absurd enough (Nat.not_lt_zero _)
  | succ count ih =>
    obtain ⟨count', rfl⟩ := Nat.exists_eq_succ_of_ne_zero (Nat.ne_zero_of_lt enough')
    refine .peek follows (fun c u eq => ?_) (@groupFlags_leads flags seen (count' + 1))
    have next (flags : Flags) : Alike e (fun _ => Within closing) s.rest
        ((groupFlags flags (c :: seen) count).run { s with rest := s.rest.drop 1 })
        ((groupFlags flags (c :: seen) count').run { s' with rest := s'.rest.drop 1 }) := by
      have eq' := follows.cons eq
      have moved : Follows e { s with rest := s.rest.drop 1 } { s' with rest := s'.rest.drop 1 } :=
        follows.move (List.drop_suffix _ _) (List.drop_suffix _ _) (.inl (by simp [eq, eq']))
      refine (ih moved ?_ ?_).mono (List.drop_suffix _ _) id
      · simp only [eq, List.length_cons, List.drop_one, List.tail_cons] at enough ⊢
        omega
      · simp only [eq', List.length_cons, List.drop_one, List.tail_cons] at enough' ⊢
        omega
    by_cases ends : c = ':' ∨ c = ')'
    · simp only [if_pos ends]
      split
      · exact .failure
      · exact .pure follows
    simp only [if_neg ends]
    refine .orFail fun _ => ?_
    rw [skip_run, skip_run]
    by_cases minus : c = '-'
    · simpa only [if_pos minus] using next flags
    simp only [if_neg minus]
    cases flags.set? c !seen.contains '-' with
    | none => exact .failure
    | some flags => exact next flags

/-- A reader that reads flags first. -/
theorem ReadsAlike.groupFlags {outer : Flags} {seen : List Char} {g : Flags → Reader α}
    (next : ∀ flags, ReadsAlike e lost 0 0 (g flags))
    (lose : ∀ flags, Leads (Within closing) lost (g flags)) :
    ReadsAlike e lost need 0
    (remaining >>= fun count => groupFlags outer seen (count + 1) >>= g) := by
  intro s s' follows _
  rw [remaining_run, remaining_run]
  exact (groupFlags_run_alike follows (Nat.lt_succ_of_le follows.within)
    (Nat.lt_succ_of_le follows.within')).bind
    (fun flags _ _ follows suffix => ((next flags).alike follows).mono suffix id) lose

/-- **The opening of a group** is read alike, unless its flags are ended by the closing parenthesis.
-/
theorem groupOpening_alike : ReadsAlike e (fun _ => Within ['$']) 1 1 groupOpening := by
  refine .get fun t t' follows enough => ?_
  rw [follows.flags_eq]
  refine ReadsAlike.run ?_ follows enough
  refine .andThen advance_alike fun _ =>
    (orM_alike (skipIf_alike (by decide)) (orM_alike (skipIf_alike (by decide))
    (orM_alike (skipIf_alike (by decide)) (skipIf_alike (by decide))))).andThen fun _ =>
      .orFail fun _ =>
      (orM_alike (skipIf_alike (by decide)) (skipIf_alike (by decide))).andThen fun named => ?_
  split
  · exact .andThen numberGroup_alike fun number => .andThen groupName_alike fun _ => .pure _
  · refine (skipIf_alike (by decide)).andThen fun marked => ?_
    split
    · exact .andThen numberGroup_alike fun number => .pure _
    · refine .peek
        (fun start => .groupFlags
          (fun flags => .peek
            (fun c => .orFail fun _ =>
              .skip ((setFlags_alike flags).andThen fun _ => .pure _) (Nat.zero_le _))
            fun c _ => .orFail fun _ =>
              .bind skip_within fun _ => (setFlags_within flags).bind fun _ => .pure id)
          fun flags => ?_)
        fun start _ => ?_
      · exact .peek fun c _ => .orFail fun _ =>
          .bind skip_within fun _ => (setFlags_within flags).bind fun _ => .pure id
      · exact .bind remaining_within fun _ => .bind groupFlags_leads fun flags => .peek fun c _ =>
          .orFail fun _ =>
          .bind skip_within fun _ => (setFlags_within flags).bind fun _ => .pure id

/-! ## Parts of patterns -/

/-- The end of bounds is read alike. -/
theorem boundsEnd_alike {least : Nat} {most : Option Nat} :
    ReadsAlike e Never need 0 (boundsEnd least most) :=
  .peek (fun c => .orFail fun _ => .orFail fun _ => .advance (.pure _)) fun c mem =>
    .orFail fun same =>
    absurd (closing_ne mem (by decide)) same

/-- The closing has no brace to end the bounds of a repetition. -/
theorem boundsEnd_leads {least : Nat} {most : Option Nat} :
    Leads (Within closing) Never (boundsEnd least most) :=
  .peek fun c mem => .orFail fun same => absurd (closing_ne mem (by decide)) same

/-- Nor has it one behind a comma. -/
theorem boundsAfterComma_leads {least : Nat} :
    Leads (Within closing) Never (boundsAfterComma least) := by
  refine .peek fun c mem => ?_
  rw [if_neg (closing_ne mem (by decide))]
  refine .bind decimal_within fun most => ?_
  cases most with
  | none => exact .failure
  | some most => exact boundsEnd_leads

/-- Bounds are read alike behind their comma. -/
theorem boundsAfterComma_alike {least : Nat} :
    ReadsAlike e Never need 0 (boundsAfterComma least) := by
  refine .peek_of_leads (fun c => ?_) boundsAfterComma_leads
  split
  · exact boundsEnd_alike
  · refine .andThen decimal_alike fun most => ?_
    cases most with
    | none => exact .failure
    | some most => exact boundsEnd_alike

/-- Nor has it bounds that are ended. -/
theorem boundsWithin_leads : Leads (Within closing) Never boundsWithin := by
  refine .bind decimal_within fun least => .peek fun c mem => ?_
  rw [if_neg (closing_ne mem (by decide))]
  cases least with
  | none => exact .failure
  | some least => exact boundsEnd_leads

/-- Bounds are read alike behind their opening brace. -/
theorem boundsWithin_alike : ReadsAlike e Never need 0 boundsWithin := by
  refine .andThen decimal_alike fun least => .peek (fun c => ?_) fun c mem => ?_
  · cases least with
    | none =>
      split
      · exact .bind (.weaken advanceWithin_alike) (fun _ => .failure) fun _ => .failure
      · exact .failure
    | some least =>
      split
      · exact .bind (.weaken advanceWithin_alike) (fun _ => boundsAfterComma_alike)
          fun _ => boundsAfterComma_leads
      · exact boundsEnd_alike
  · rw [if_neg (closing_ne mem (by decide))]
    cases least with
    | none => exact .failure
    | some least => exact boundsEnd_leads

/-- **The bounds of a repetition** are read alike, and lose nothing. -/
theorem bounds_alike : ReadsAlike e Never need 1 bounds :=
  .bind (.mono advanceWithin_alike (Nat.zero_le _) (Nat.le_refl _) id)
    (fun _ => boundsWithin_alike) fun _ =>
    boundsWithin_leads

/-- There are no bounds at a brace before the closing. -/
theorem bounds_stuck : Leads Stuck Never bounds := by
  refine Leads.bind ?_ fun _ => boundsWithin_leads
  intro s a t stuck run
  obtain ⟨v, passed⟩ := advance_run s
  rw [advanceWithin, StateT.run_bind, passed] at run
  have peeked : Leads (Within closing) (fun _ => Within closing) (do let _ ← peek; pure ()) :=
    .bind peek_within fun c => .pure And.right
  exact peeked (stuck.2 passed) run

/-- **Single characters and escapes** are read alike, unless they take the closing parenthesis or
are a boundary before a brace. -/
theorem primitive_alike : ReadsAlike e (fun _ s => Within ['$'] s ∨ Stuck s) need 1 primitive := by
  refine .get fun t t' follows enough => ?_
  rw [follows.flags_eq]
  refine ReadsAlike.run (.peek (fun c => ?_) fun c mem => ?_) follows enough
  · split
    · refine .bind escape_alike (fun written => ?_) fun written => ?_
      · split
        · split
          · exact .failure
          · exact .pure _
        · exact .pure _
        · exact .pure _
      · split
        · split
          · exact .failure
          · exact .pure fun lost => lost.imp_right And.right
        · exact .pure fun lost => lost.imp_right And.right
        · exact .pure fun lost => lost.imp_right And.right
    · refine .skip ?_ (Nat.le_refl _)
      split
      · exact .pure _
      · exact .failure
    · exact .skip (.pure _) (Nat.le_refl _)
    · exact .skip (.pure _) (Nat.le_refl _)
    · exact .skip (.pure _) (Nat.le_refl _)
  · split
    · exact absurd mem (by decide)
    · exact absurd mem (by decide)
    all_goals exact .bind skip_within fun _ => .pure .inl

/-- There is no repetition at a brace before the closing. -/
theorem repetition_stuck {p : Pattern} : Leads Stuck Never (repetition p) := by
  intro s a t stuck run
  obtain ⟨u, eq⟩ := List.head?_eq_some_iff.1 stuck.1
  rw [repetition, StateT.run_bind, peek_run_cons eq, Option.bind_eq_bind, Option.bind_some] at run
  exact (.bind bounds_stuck fun _ => .never : Leads Stuck Never _) stuck run

/-- **Repetitions** are read alike: none of their signs is in the closing. -/
theorem repetition_alike {p : Pattern} :
    ReadsAlike e (fun _ => Within ['$']) need 1 (repetition p) := by
  have mark (least : Nat) (most : Option Nat) : ReadsAlike e (fun _ => Within ['$']) 0 0
      (skipIf "?" >>= fun marked => get >>= fun s =>
        pure (p.times least most (marked == s.flags.lazy))) := by
    refine (skipIf_alike (by decide)).andThen fun marked => .get fun t t' follows enough => ?_
    rw [follows.flags_eq]
    exact .pure follows
  have markWithin (least : Nat) (most : Option Nat) : Leads (Within ['$']) (fun _ => Within ['$'])
      (skipIf "?" >>= fun marked => get >>= fun s =>
        pure (p.times least most (marked == s.flags.lazy))) :=
    .bind skipIf_within fun marked => .get fun t => .pure And.left
  refine .peek (fun c => ?_) fun c mem => ?_
  · split
    · exact .andThen bounds_alike fun b => mark b.1 b.2
    · exact .skip (mark _ _) (Nat.le_refl _)
  · split
    · exact absurd mem (by decide)
    · exact .bind skip_within fun _ => markWithin _ _

/-- Repeating the last item is alike. -/
theorem repeatLast_alike (items : List Reading) :
    ReadsAlike e (fun _ => Within ['$']) need 1 (repeatLast items) := by
  cases items with
  | nil => exact .failure
  | cons last before =>
    exact .orFail fun _ => .bind repetition_alike (fun _ => .pure _) fun _ => .pure id

/-- Nothing is repeated by a brace before the closing. -/
theorem repeatLast_stuck (items : List Reading) : Leads Stuck Never (repeatLast items) := by
  cases items with
  | nil => exact .failure
  | cons last before => exact .orFail fun _ => .bind repetition_stuck fun _ => .never

/-! ## Groups -/

/-- A group is ended by a parenthesis, behind which the flags are those before the group. -/
theorem groupEnd_run (number : Option Nat) (outer : Flags) (inner : Reading) (s : State) :
    (groupEnd number outer inner).run s = if s.rest.head? = some ')'
      then some (grouped number inner,
        { s with rest := s.rest.drop 1, flags := outer }) else none := by
  rw [groupEnd, StateT.run_bind, skipIf_run]
  cases eq : s.rest with
  | nil => rfl
  | cons c u =>
    by_cases closes : c = ')'
    · subst closes
      rfl
    · have other : ¬ (")".toList <+: c :: u) := by simpa using Ne.symm closes
      rw [if_neg other, if_neg (by simpa using closes)]
      rfl

/-- A group that ends in the closing takes its parenthesis. -/
theorem groupEnd_leads {number : Option Nat} {outer : Flags} {inner : Reading} :
    Leads (Within closing) (fun _ => Within ['$']) (groupEnd number outer inner) := by
  intro s a t within run
  rw [groupEnd_run] at run
  split at run <;> cases run
  exact drop_one_suffix within

/-- No group ends behind the parenthesis of the closing. -/
theorem groupEnd_never {number : Option Nat} {outer : Flags} {inner : Reading} :
    Leads (Within ['$']) Never (groupEnd number outer inner) := by
  intro s a t within run
  rw [groupEnd_run] at run
  split at run
  · next closes =>
    obtain ⟨u, eq⟩ := List.head?_eq_some_iff.1 closes
    exact absurd (within.head_mem eq) (by decide)
  · cases run

/-- A group that is open at the end of a text is closed by the closing. -/
theorem groupEnd_alike {number : Option Nat} {outer : Flags} {inner : Reading} :
    ReadsAlike e (fun _ => Within ['$']) need 0 (groupEnd number outer inner) := by
  intro s s' follows _
  cases eq : s.rest with
  | nil =>
    rw [groupEnd_run, eq]
    exact fun a t' run => groupEnd_leads (follows.nil eq) run
  | cons c u =>
    have eq' := follows.cons eq
    rw [groupEnd_run, groupEnd_run, eq, eq', List.head?_cons, List.head?_cons]
    by_cases closes : some c = some ')'
    · rw [if_pos closes, if_pos closes]
      have moved : Follows e { s with rest := u } { s' with rest := u ++ e.after } :=
        follows.move (eq ▸ List.suffix_cons _ _) (eq' ▸ List.suffix_cons _ _) (.inl rfl)
      exact ⟨List.suffix_cons _ _, _, rfl, { moved with flags_eq := rfl }⟩
    · rw [if_neg closes, if_neg closes]
      intro a t' run
      cases run

/-- **A group** is read alike if what it encloses is: a parenthesis that the first text does not
have is taken from the closing, and lost. -/
theorem group_run_alike {body body' : Reader Reading} (follows : Follows e s s')
    (some_ : s.rest ≠ []) (alike : ∀ t t', Follows e t t' → t.rest <:+ s.rest.drop 1 →
      Alike e (fun _ => Within ['$']) (s.rest.drop 1) (body.run t) (body'.run t'))
    (leads : Leads (Within ['$']) (fun _ => Within ['$']) body') :
    Alike e (fun _ => Within ['$']) (s.rest.drop 1) ((group body).run s)
    ((group body').run s') := by
  refine (groupOpening_alike follows (List.length_pos_iff.2 some_)).bind
    (fun opening t t' follows suffix => ?_) fun opening => ?_
  · cases opening with
    | setting => exact (Alike.pure follows).mono suffix id
    | group number outer =>
      exact (alike t t' follows suffix).bind
        (fun inner t t' follows suffix => (ReadsAlike.alike groupEnd_alike follows).mono suffix id)
          fun inner =>
          .mono groupEnd_never id False.elim
  · cases opening with
    | setting => exact .pure id
    | group number outer => exact leads.bind fun inner => .mono groupEnd_never id False.elim

/-! ## Whole patterns -/

/-- The outcome of a reader that looks at what comes next, if anything does. -/
theorem peek?_run (g : Option Char → Reader α) (s : State) :
    (peek? >>= g).run s = (g s.rest.head?).run s := rfl

/-- Behind the parenthesis of the closing there is one assertion. -/
theorem primitive_within : Leads (Within ['$']) (fun _ => Within ['$']) primitive := by
  refine .get fun t => (Leads.peek fun c mem => ?_ : Leads (Within ['$']) _ _).mono And.left id
  split
  · exact absurd mem (by decide)
  · exact absurd mem (by decide)
  all_goals exact .bind (.mono skip_within id Within.of_tail) fun _ => .pure id

/-- The end of the text is an assertion, and nothing remains after it. -/
theorem body_within {count : Nat} {branches items : List Reading} :
    Leads (Within ['$']) (fun _ => Within ['$']) (body count branches items) := by
  induction count generalizing branches items with
  | zero => exact .failure
  | succ count ih =>
    refine .bind skipBlanks_within fun _ => ?_
    intro s a t within run
    rw [peek?_run] at run
    rcases suffix_dollar_iff.1 within with eq | eq
    · rw [eq] at run
      cases run
      exact within
    · have sign : Sign.of s.rest.head? = .other := by rw [eq]; rfl
      rw [sign] at run
      exact (Leads.bind primitive_within fun _ => ih) within run

/-- There are no blanks before a brace. -/
theorem skipBlanks_stuck : Leads Stuck (fun _ => Stuck) skipBlanks := by
  intro s a t stuck run
  obtain ⟨u, eq⟩ := List.head?_eq_some_iff.1 stuck.1
  have same : dropBlanks false s.rest = s.rest := by rw [eq]; rfl
  simp only [skipBlanks, StateT.run_modify, same, ite_self] at run
  cases run
  exact stuck

/-- A text that is stuck before a brace is no pattern. -/
theorem body_stuck {count : Nat} {branches items : List Reading} :
    Leads Stuck Never (body count branches items) := by
  cases count with
  | zero => exact .failure
  | succ count =>
    refine .bind skipBlanks_stuck fun _ => ?_
    intro s a t stuck run
    rw [peek?_run, stuck.1] at run
    exact ((repeatLast_stuck items).bind fun _ => .never) stuck run

/-- **A pattern that goes on** is read alike, or has lost the closing parenthesis. The induction is
on the number of characters that may be read, which each step makes smaller. -/
theorem body_run_alike {count count' : Nat} {branches items : List Reading}
    (follows : Follows e s s') (enough : s.rest.length < count)
    (enough' : s'.rest.length < count') :
    Alike e (fun _ => Within ['$']) s.rest ((body count branches items).run s)
      ((body count' branches items).run s') := by
  induction count generalizing s s' count' branches items with
  | zero => exact absurd enough (Nat.not_lt_zero _)
  | succ count ih =>
    obtain ⟨count', rfl⟩ := Nat.exists_eq_succ_of_ne_zero (Nat.ne_zero_of_lt enough')
    refine (skipBlanks_alike follows (Nat.zero_le _)).bind (fun _ t t' follows' suffix => ?_)
      fun _ => .never
    have same : Sign.of t'.rest.head? = Sign.of t.rest.head? := by
      cases eq : t.rest with
      | nil => rcases follows'.head_of_nil eq with head | head <;> rw [head] <;> rfl
      | cons c u => rw [follows'.cons eq, List.head?_cons, List.head?_cons]
    rw [peek?_run, peek?_run, same]
    by_cases stops : Sign.of t.rest.head? = .stop
    · rw [stops]
      exact (Alike.pure follows').mono suffix id
    have some_ : t.rest ≠ [] := fun nil => stops (by rw [nil]; rfl)
    have pos := List.length_pos_iff.2 some_
    -- The induction hypothesis, where something has been passed over.
    have later {branches items : List Reading} (v v' : State) (follows'' : Follows e v v')
        (suffix' : v.rest <:+ t.rest.drop 1) :
        Alike e (fun _ => Within ['$']) (t.rest.drop 1) ((body count branches items).run v)
          ((body count' branches items).run v') := by
      obtain ⟨short, short'⟩ := follows.shorter suffix some_ follows'' suffix'
      exact (ih follows'' (by omega) (by omega)).mono suffix' id
    refine Alike.mono (?_ : Alike e (fun _ => Within ['$']) _ _ _)
      ((List.drop_suffix 1 t.rest).trans suffix) id
    cases sign : Sign.of t.rest.head? with
    | stop => exact absurd sign stops
    | bar =>
      rw [skip_run, skip_run]
      refine later _ _ (follows'.move (List.drop_suffix _ _) (List.drop_suffix _ _) (.inl ?_))
        (List.suffix_refl _)
      rw [follows'.rest_of_ne_nil some_, List.drop_append_of_le_length pos]
    | parenthesis =>
      exact (group_run_alike follows' some_ (fun v v' => later v v') body_within).bind
        (fun _ => later) fun _ => body_within
    | bracket =>
      exact (charClass_alike follows' (Nat.zero_le _)).bind (fun _ => later) fun _ => .never
    | repetition =>
      exact (repeatLast_alike items follows' pos).bind (fun _ => later) fun _ => body_within
    | other =>
      refine (primitive_alike follows' pos).bind (fun _ => later) fun _ v r v' lost run => ?_
      rcases lost with within | stuck
      · exact body_within within run
      · exact (body_stuck stuck run).elim

end SchemaBinding.Pattern.Reader
