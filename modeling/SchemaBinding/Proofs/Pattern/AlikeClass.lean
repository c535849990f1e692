import SchemaBinding.Proofs.Pattern.AlikeEscape

/-!
# Classes in a pattern that goes on

A class that is open at the end of a pattern takes the closing along and fails,
since it needs a bracket that the closing does not have (`classBody_leads`).
Until then its readers may go on into the closing, which is no loss of more.
-/

namespace SchemaBinding.Pattern.Reader

variable {α : Type} {e : Ending} {s s' t : State} {need : Nat} {text : List Char}

/-! ## Ranges -/

/-- Behind blanks and comments the ending does not bring a character that it does not have. -/
theorem afterNext_go_append {x : Char} (outside : x ∉ closing) {first : Option Char}
    (other : first ≠ some x) (signSeen : Bool) (u : List Char) :
    afterNext.go signSeen (u ++ e.after) first = some x ↔
      afterNext.go signSeen u first = some x := by
  induction u generalizing signSeen with
  | nil =>
    have parenthesis : afterNext.go signSeen closing first = some ')' := by cases signSeen <;> rfl
    rcases e.after_eq with eq | eq <;> rw [eq]
    · rw [List.nil_append, parenthesis]
      exact ⟨fun same => absurd (Option.some.inj same ▸ by decide) outside, fun same =>
        absurd same other⟩
    · rfl
  | cons c u ih =>
    simp only [List.cons_append, afterNext.go]
    split
    · exact ih _
    · split
      · exact ih _
      · exact Iff.rfl

/-- The closing does not bring a bracket or a hyphen after the next character. -/
theorem afterNext_append {x : Char} (outside : x ∉ closing) (solid : Text.isBlank x = false)
    (noSign : x ≠ '#') (verbose : Bool) {u : List Char} (some_ : u ≠ []) :
    afterNext verbose (u ++ e.after) = some x ↔ afterNext verbose u = some x := by
  obtain ⟨c, u, rfl⟩ := List.exists_cons_of_ne_nil some_
  cases u with
  | nil =>
    have nothing : afterNext verbose [c] ≠ some x :=
      by cases verbose <;> simp [afterNext, afterNext.go]
    have parenthesis : afterNext verbose (c :: closing) = some ')' := by cases verbose <;> rfl
    rcases e.after_eq with eq | eq <;> rw [eq]
    · rw [List.singleton_append, parenthesis]
      exact ⟨fun same => absurd (Option.some.inj same ▸ by decide) outside, fun same =>
        absurd same nothing⟩
    · rfl
  | cons d u =>
    simp only [afterNext, List.cons_append, List.drop_one, List.tail_cons, List.head?_cons]
    split
    · by_cases same : d = x
      · subst same
        simp [afterNext.go, solid, noSign]
      · exact afterNext_go_append outside (by simpa using same) _ (d :: u)
    · exact Iff.rfl

/-- Taking an item alone reads nothing. -/
theorem singleItem_alike (written : Escape) : ReadsAlike e Never need 0 (singleItem written) := by
  cases written with
  | char c byte => exact (classChar_alike _).andThen fun _ => .pure _
  | set => exact .pure _
  | look => exact .failure

/-- An item is taken alone in any state. -/
theorem singleItem_leads {pre : State → Prop} (written : Escape) :
    Leads pre (fun _ => pre) (singleItem written) := by
  cases written with
  | char c byte => exact (classChar_leads _).bind fun _ => .pure id
  | set => exact .pure id
  | look => exact .failure

/-- In the closing no hyphen follows an item, so that it stands alone. -/
theorem rangeFrom_leads (first : Escape) :
    Leads (Within closing) (fun _ => Within closing) (rangeFrom first) := by
  refine .bind skipBlanks_within fun _ => .peek fun next mem => .get fun t => ?_
  rw [if_pos (.inl (closing_ne mem (by decide)))]
  exact (singleItem_leads first).mono And.left id

/-- An assertion is no item of a class. -/
theorem rangeFrom_look {l : Look} : Leads (fun _ => True) Never (rangeFrom (.look l)) := by
  refine Leads.any.bind fun _ => Leads.any.bind fun next => .get fun t => ?_
  dsimp only
  split
  · exact .failure
  · exact Leads.any.bind fun _ => Leads.any.bind fun last => Leads.failure.bind fun _ => .never

/-- Making a range of two items reads nothing. -/
theorem rangeEnd_alike (first last : Escape) : ReadsAlike e Never need 0 (rangeEnd first last) := by
  refine (classChar_alike first).andThen fun low => (classChar_alike last).andThen fun high => ?_
  split
  · exact .pure _
  · exact .failure

/-- A range is made of two items in any state. -/
theorem rangeEnd_leads {pre : State → Prop} (first last : Escape) :
    Leads pre (fun _ => pre) (rangeEnd first last) := by
  refine (classChar_leads first).bind fun low => (classChar_leads last).bind fun high => ?_
  split
  · exact .pure id
  · exact .failure

/-- No range ends with an assertion. -/
theorem rangeEnd_look {first : Escape} {l : Look} :
    Leads (fun _ => True) Never (rangeEnd first (.look l)) :=
  Leads.any.bind fun _ => Leads.failure.bind fun _ => .never

/-- **From its first item on** a range is read alike, or the second reading has come to the closing.
-/
theorem rangeFrom_alike (first : Escape) :
    ReadsAlike e (fun _ => Within closing) need 0 (rangeFrom first) := by
  refine .andThen skipBlanks_alike fun _ =>
    .peek (fun next => .get fun t t' follows enough => ?_) fun next mem =>
    .get fun t => ?_
  · have some_ : t.rest ≠ [] := List.ne_nil_of_length_pos enough
    have same {x : Char} (outside : x ∉ closing) (solid : Text.isBlank x = false)
      (noSign : x ≠ '#') :
        afterNext t'.flags.verbose t'.rest = some x ↔
        afterNext t.flags.verbose t.rest = some x := by
      rw [follows.flags_eq, follows.rest_of_ne_nil some_]
      exact afterNext_append outside solid noSign _ some_
    simp only [same (x := ']') (by decide) (by decide) (by decide),
      same (x := '-') (by decide) (by decide) (by decide)]
    split
    · exact (singleItem_alike first).anyLost.alike follows
    · refine ReadsAlike.alike ?_ follows
      refine .bind (.weaken advanceWithin_alike)
        (fun _ => .bind (.weaken classItem_alike) (fun last => (rangeEnd_alike first last).anyLost)
          fun last s range t lost run => ?_)
        fun _ => .bind classItem_leads fun last =>
          (rangeEnd_leads first last).mono (Within.mono dollar_suffix_closing) id
      rcases lost with within | ⟨l, rfl⟩
      · exact rangeEnd_leads first last (within.mono dollar_suffix_closing) run
      · exact (rangeEnd_look trivial run).elim
  · rw [if_pos (.inl (closing_ne mem (by decide)))]
    exact (singleItem_leads first).mono And.left id

/-- **Ranges** are read alike, or the second reading has come to the closing. -/
theorem classRange_alike : ReadsAlike e (fun _ => Within closing) need 1 classRange := by
  refine .bind classItem_alike rangeFrom_alike fun first s range t lost run => ?_
  rcases lost with within | ⟨l, rfl⟩
  · exact rangeFrom_leads first (within.mono dollar_suffix_closing) run
  · exact (rangeFrom_look trivial run).elim

/-! ## Named classes -/

/-- Up to a character that the closing does not have, a text is split where it is split alone. -/
theorem Ending.split_append (e : Ending) {x : Char} (outside : x ∉ closing) (u : List Char) :
    ((u ++ e.after).dropWhile (· ≠ x) = [] ∧ u.dropWhile (· ≠ x) = []) ∨
      ∃ v, u.dropWhile (· ≠ x) = x :: v ∧ (u ++ e.after).dropWhile (· ≠ x) = x :: (v ++ e.after) ∧
        (u ++ e.after).takeWhile (· ≠ x) = u.takeWhile (· ≠ x) := by
  induction u with
  | nil =>
    left
    simp only [closing, List.mem_cons, List.not_mem_nil, or_false, not_or] at outside
    rcases e.after_eq with eq | eq <;> simp [eq, closing, Ne.symm outside.1, Ne.symm outside.2]
  | cons c u ih =>
    by_cases same : c = x
    · subst same
      exact .inr ⟨u, by simp, by simp, by simp⟩
    · simpa [List.dropWhile_cons, List.takeWhile_cons, same] using ih

/-- The name of a class ends with a colon, so that the ending does not complete one. -/
theorem namedClass?_append (flags : Flags) (negated : Bool) (u : List Char) :
    namedClass? flags negated (u ++ e.after) =
      (namedClass? flags negated u).map fun (s, rest) => (s, rest ++ e.after) := by
  rw [namedClass?, namedClass?]
  rcases e.split_append (x := ':') (by decide) u with ⟨nil, nil'⟩ | ⟨v, eq, eq', same⟩
  · rw [nil, nil']
    rfl
  · rw [eq, eq', same]
    cases v with
    | nil => rcases e.after_eq with eq | eq <;> rw [eq] <;> rfl
    | cons c v =>
      by_cases bracket : c = ']'
      · subst bracket
        cases CharSet.asciiClass? (String.ofList (u.takeWhile (· ≠ ':'))) <;> rfl
      · simp [bracket]

/-- The ending does not make a named class of a text that begins none. -/
theorem asciiClass?_append (flags : Flags) (u : List Char) :
    asciiClass? flags (u ++ e.after) = (asciiClass? flags u).map fun (s, rest) =>
      (s, rest ++ e.after) := by
  match u with
  | [] | [c] => rcases e.after_eq with eq | eq <;> rw [eq] <;> simp [asciiClass?, closing]
  | c :: d :: u =>
    by_cases named : c = '[' ∧ d = ':'
    · obtain ⟨rfl, rfl⟩ := named
      have plain := namedClass?_append (e := e) flags false u
      cases u with
      | nil => rcases e.after_eq with eq | eq <;> rw [eq] at plain ⊢ <;> exact plain
      | cons x u =>
        by_cases negated : x = '^'
        · subst negated
          exact namedClass?_append flags true u
        · simpa [asciiClass?, negated] using plain
    · have nothing (v : List Char) : asciiClass? flags (c :: d :: v) = none := by
        unfold asciiClass?
        split <;> simp_all
      exact (nothing _).trans (by rw [nothing]; rfl)

/-- Behind the name of a class an end of the text is left. -/
theorem namedClass?_suffix {flags : Flags} {negated : Bool} {u rest : List Char}
    {s? : Option CharSet} (h : namedClass? flags negated u = some (s?, rest)) : rest <:+ u := by
  rw [namedClass?] at h
  split at h
  · next after eq =>
    obtain ⟨s, -, same⟩ := Option.map_eq_some_iff.1 h
    cases same
    exact ((List.suffix_cons _ _).trans (List.suffix_cons _ _)).trans (eq ▸ List.dropWhile_suffix _)
  · cases h

/-- A named class is longer than its first character. -/
theorem asciiClass?_suffix {flags : Flags} {u rest : List Char} {s? : Option CharSet}
    (h : asciiClass? flags u = some (s?, rest)) : rest <:+ u.drop 1 := by
  unfold asciiClass? at h
  split at h
  · exact (namedClass?_suffix h).trans ((List.suffix_cons _ _).trans (List.suffix_cons _ _))
  · exact (namedClass?_suffix h).trans (List.suffix_cons _ _)
  · cases h

/-! ## The beginning of a class -/

/-- There are no hyphens in the closing. -/
theorem leadingHyphens_leads {count : Nat} :
    Leads (Within closing) (fun _ => Within closing) (leadingHyphens count) := by
  cases count with
  | zero => exact .pure id
  | succ count =>
    refine .peek fun c mem => ?_
    rw [if_neg (closing_ne mem (by decide))]
    exact .pure id

/-- **Leading hyphens** are read alike, or the second reading has come to the closing. The induction
is on the number of characters that may be read. -/
theorem leadingHyphens_run_alike {count count' : Nat} (follows : Follows e s s')
    (enough : s.rest.length < count) (enough' : s'.rest.length < count') :
    Alike e (fun _ => Within closing) s.rest ((leadingHyphens count).run s)
      ((leadingHyphens count').run s') := by
  induction count generalizing s s' count' with
  | zero => exact absurd enough (Nat.not_lt_zero _)
  | succ count ih =>
    obtain ⟨count', rfl⟩ := Nat.exists_eq_succ_of_ne_zero (Nat.ne_zero_of_lt enough')
    refine .peek follows (fun c u eq => ?_) (@leadingHyphens_leads (count' + 1))
    split
    · refine Alike.mono (?_ : Alike e (fun _ => Within closing) _ _ _)
        (List.drop_suffix 1 s.rest) id
      refine (advanceWithin_alike follows (Nat.zero_le _)).bind
        (fun _ t t' follows' suffix => ?_) fun _ =>
        .bind leadingHyphens_leads fun _ => .pure id
      have short : t.rest.length < s.rest.length :=
        Nat.lt_of_le_of_lt suffix.length_le (by simp [eq])
      have short' := follows.length_lt follows' short
      exact (ih follows' (by omega) (by omega)).map.mono suffix id
    · exact ⟨List.suffix_refl _, _, rfl, follows⟩

/-- The first items of a class take nothing of the closing. -/
theorem classStart_leads : Leads (Within closing) (fun _ => Within closing) classStart := by
  refine .bind remaining_within fun _ => .bind leadingHyphens_leads fun hyphens =>
    .peek fun c mem => ?_
  rw [if_neg fun both => closing_ne mem (by decide) both.2]
  exact .pure id

/-- **The first items of a class**, hyphens and a bracket, are read alike, or the second reading has
come to the closing. -/
theorem classStart_alike : ReadsAlike e (fun _ => Within closing) need 0 classStart := by
  intro s s' follows _
  rw [classStart, remaining_run, remaining_run]
  refine (leadingHyphens_run_alike follows (Nat.lt_succ_of_le follows.within)
    (Nat.lt_succ_of_le follows.within')).bind
    (fun hyphens t t' follows suffix => ?_) fun hyphens => .peek fun c mem => ?_
  · refine (ReadsAlike.alike (.peek (fun c => ?_) fun c mem => ?_) follows).mono suffix id
    · split
      · exact .bind (.weaken advanceWithin_alike) (fun _ => .pure _) fun _ => .pure id
      · exact .pure _
    · rw [if_neg fun both => closing_ne mem (by decide) both.2]
      exact .pure id
  · rw [if_neg fun both => closing_ne mem (by decide) both.2]
    exact .pure id

/-- **The opening of a class** is read alike, or the second reading has come to the closing. -/
theorem classOpening_alike : ReadsAlike e (fun _ => Within closing) need 1 classOpening := by
  have start (negated : Bool) :
      ReadsAlike e (fun _ => Within closing)
      0 0 (classStart >>= fun items => pure (negated, items)) :=
    .bind classStart_alike (fun _ => .pure _) fun _ => .pure id
  have lost (negated : Bool) :
      Leads (Within closing) (fun _ => Within closing)
      (classStart >>= fun items => pure (negated, items)) :=
    .bind classStart_leads fun _ => .pure id
  refine .advanceWithin (fun c => ?_) fun c mem => ?_
  · dsimp only
    split
    · exact .bind (.weaken advanceWithin_alike) (fun _ => start _) fun _ => lost _
    · exact (start _).mono (Nat.zero_le _) (Nat.le_refl _) id
  · dsimp only
    rw [if_neg (by simpa using closing_ne mem (by decide))]
    exact lost _

/-! ## Whole classes -/

/-- A range that begins in the closing stays in it. -/
theorem classRange_leads : Leads (Within closing) (fun _ => Within closing) classRange :=
  .bind classItem_leads fun first =>
    (rangeFrom_leads first).mono (fun within => within.mono dollar_suffix_closing) id

/-- What comes next within a text is a character of it. -/
theorem Within.head_mem {c : Char} {u : List Char} (within : Within text s) (eq : s.rest = c :: u) :
    c ∈ text :=
  within.subset (eq ▸ List.mem_cons_self)

/-- The closing has no bracket to end a class. -/
theorem classBody_leads {count : Nat} {negated : Bool} {left? : Option (Operation × SetReading)}
    {items : List SetReading} :
    Leads (Within closing) Never (classBody count negated left? items) := by
  induction count generalizing items with
  | zero => exact .failure
  | succ count ih =>
    refine .bind skipBlanks_within fun _ => .get fun t => .get fun t' => ?_
    intro s a v ⟨⟨within, _⟩, same⟩ run
    subst same
    split at run
    case h_6 => cases run
    case h_7 => exact (Leads.bind classRange_leads fun _ => ih) within run
    all_goals exact absurd (within.head_mem ‹_›) (by decide)

/-- A class in a class, where its rest is read alike. -/
theorem innerClass_run_alike {body body' : Bool → List SetReading → Reader SetReading}
    (follows : Follows e s s') (some_ : s.rest ≠ [])
    (alike : ∀ negated opening t t', Follows e t t' → t.rest <:+ s.rest.drop 1 →
      Alike e Never (s.rest.drop 1) ((body negated opening).run t) ((body' negated opening).run t'))
    (leads : ∀ negated opening, Leads (Within closing) Never (body' negated opening)) :
    Alike e Never (s.rest.drop 1) ((innerClass body).run s) ((innerClass body').run s') := by
  rw [innerClass, innerClass, get_run, get_run, follows.flags_eq, follows.rest_of_ne_nil some_,
    asciiClass?_append]
  cases found : asciiClass? s.flags s.rest with
  | none =>
    exact (classOpening_alike follows (Nat.zero_le _)).bind (fun p => alike p.1 p.2)
      fun p => leads p.1 p.2
  | some class_ =>
    obtain ⟨s? | set, after⟩ := class_
    · exact nofun
    · have suffix := asciiClass?_suffix found
      have found' :
      asciiClass? s.flags (s.rest ++ e.after) = some (some set, after ++ e.after) := by
        rw [asciiClass?_append, found]
        rfl
      have suffix' := asciiClass?_suffix found'
      exact ⟨suffix, _, rfl, follows.move (suffix.trans (List.drop_suffix _ _))
        ((suffix'.trans (List.drop_suffix _ _)).trans
          (follows.rest_of_ne_nil some_ ▸ List.suffix_refl _)) (.inl rfl)⟩

/-! ### The rest of a class -/

section

/-- The rest of a class, as the text ahead begins. -/
def classStep (count : Nat) (negated : Bool) (left? : Option (Operation × SetReading))
    (items : List SetReading) (flags : Flags) : (ahead : List Char) → Reader SetReading
  | ']' :: _ => do
    skip
    let content := operand flags left? items
    let some s := foldAndNegate flags negated content.set | failure
    return ⟨s, 1 + content.depth⟩
  | '[' :: _ => do
    let inner ← innerClass fun negated opening => classBody count negated none opening
    classBody count negated left? (inner :: items)
  | '&' :: '&' :: _ => operate .intersection
  | '-' :: '-' :: _ => operate .difference
  | '~' :: '~' :: _ => operate .symmetricDifference
  | [] => failure
  | _ => do classBody count negated left? ((← classRange) :: items)
where
  /-- The right side of an operation. -/
  operate (operation : Operation) : Reader SetReading := do
    skip
    skip
    classBody count negated (some (operation, operand flags left? items)) []

variable {count count' : Nat} {negated : Bool} {left? : Option (Operation × SetReading)}
  {items : List SetReading}

/-- The rest of a class begins with a step, as the text ahead tells. -/
theorem classBody_succ : classBody (count + 1) negated left? items =
    skipBlanks >>= fun _ => get >>= fun state => get >>= fun state' =>
      classStep count negated left? items state.flags state'.rest := by
  rw [classBody]
  refine bind_congr fun _ => bind_congr fun state => ?_
  refine bind_congr (m := Reader) fun state' => ?_
  generalize state'.rest = ahead
  unfold classStep
  split
  case h_7 => simp_all
  all_goals rfl

/-- What stands behind a text has no part in how the rest of a class begins. -/
theorem classStep_append {flags : Flags} {ahead : List Char} (some_ : ahead ≠ []) :
    classStep count negated left? items flags (ahead ++ e.after) =
      classStep count negated left? items flags ahead := by
  obtain ⟨c, u, rfl⟩ := List.exists_cons_of_ne_nil some_
  cases u with
  | nil =>
    rcases e.after_eq with eq | eq
    · rw [eq, closing, List.cons_append, List.nil_append]
      unfold classStep
      split <;> simp_all
    · rw [eq, List.append_nil]
  | cons d w =>
    rw [List.cons_append, List.cons_append]
    unfold classStep
    split <;> simp_all

/-- The rest of a class goes on alike, where what is left of it after a character does. -/
theorem classStep_run_alike (follows : Follows e s s') (some_ : s.rest ≠ [])
    (later : ∀ {negated : Bool} {left? : Option (Operation × SetReading)} {items : List SetReading}
      {t t' : State}, Follows e t t' → t.rest <:+ s.rest.drop 1 → Alike e Never (s.rest.drop 1)
        ((classBody count negated left? items).run t)
          ((classBody count' negated left? items).run t')) :
    Alike e Never (s.rest.drop 1) ((classStep count negated left? items s.flags s.rest).run s)
      ((classStep count' negated left? items s.flags s'.rest).run s') := by
  have operate (operation : Operation) {c : Char} {u : List Char} (eq : s.rest = c :: c :: u) :
      Alike e Never (s.rest.drop 1)
      ((classStep.operate count negated left? items s.flags operation).run s)
        ((classStep.operate count' negated left? items s.flags operation).run s') := by
    have eq' := follows.cons eq
    rw [classStep.operate, classStep.operate, skip_run, skip_run, skip_run, skip_run]
    refine later (follows.move ?_ ?_ (.inl ?_)) ?_
    · simpa using List.drop_suffix 2 s.rest
    · simpa using List.drop_suffix 2 s'.rest
    · simp [eq, eq']
    · exact List.drop_suffix _ _
  suffices all : ∀ ahead, s.rest = ahead → Alike e Never (s.rest.drop 1)
      ((classStep count negated left? items s.flags ahead).run s)
      ((classStep count' negated left? items s.flags ahead).run s') by
    rw [follows.rest_of_ne_nil some_, classStep_append some_]
    exact all _ rfl
  intro ahead eq
  unfold classStep
  split
  · refine (ReadsAlike.skip ?_ (Nat.le_refl 1)).run follows (List.length_pos_iff.2 some_)
    dsimp only
    split
    · exact .pure _
    · exact .failure
  · exact (innerClass_run_alike follows some_ (fun _ _ _ _ => later)
      fun _ _ => classBody_leads).bind (fun _ _ _ => later) fun _ => .never
  · exact operate .intersection eq
  · exact operate .difference eq
  · exact operate .symmetricDifference eq
  · exact absurd eq some_
  · exact (classRange_alike follows (Nat.zero_le _)).bind (fun _ _ _ => later) fun _ =>
      classBody_leads

/-- **The rest of a class** is read alike. The induction is on the number of characters that may be
read; a class that is not closed fails both readings. -/
theorem classBody_run_alike (follows : Follows e s s') (enough : s.rest.length < count)
    (enough' : s'.rest.length < count') :
    Alike e Never s.rest ((classBody count negated left? items).run s)
      ((classBody count' negated left? items).run s') := by
  induction count generalizing s s' count' negated left? items with
  | zero => exact absurd enough (Nat.not_lt_zero _)
  | succ count ih =>
    obtain ⟨count', rfl⟩ := Nat.exists_eq_succ_of_ne_zero (Nat.ne_zero_of_lt enough')
    rw [classBody_succ, classBody_succ]
    refine (skipBlanks_alike follows (Nat.zero_le _)).bind (fun _ t t' follows' suffix => ?_)
      fun _ => .never
    refine Alike.mono (?_ : Alike e Never _ _ _) ((List.drop_suffix 1 t.rest).trans suffix) id
    rw [get_run, get_run, get_run, get_run, follows'.flags_eq]
    by_cases empty : t.rest = []
    · -- The text ends inside the class, and its ending has no bracket.
      rw [empty]
      intro a v run
      have within := follows'.nil empty
      have run' : (classBody (count' + 1) negated left? items).run t' = some (a, v) := by
        rw [classBody_succ, StateT.run_bind, skipBlanks_run_of_within within, ← run,
          ← follows'.flags_eq]
        rfl
      exact classBody_leads within run'
    · refine classStep_run_alike follows' empty fun {_ _ _ v v'} follows'' suffix' => ?_
      -- The induction hypothesis, as a character has been passed over.
      obtain ⟨short, short'⟩ := follows.shorter suffix empty follows'' suffix'
      exact (ih follows'' (by omega) (by omega)).mono suffix' id

end

/-- **Classes** are read alike, and lose nothing. -/
theorem charClass_alike : ReadsAlike e Never need 1 charClass := by
  refine .bind classOpening_alike (fun p => ?_) fun p =>
    .bind remaining_within fun _ => .bind classBody_leads fun _ => .never
  intro s s' follows _
  rw [remaining_run, remaining_run]
  refine (classBody_run_alike follows (Nat.lt_succ_of_le follows.within)
    (Nat.lt_succ_of_le follows.within')).bind (fun set t t' follows suffix => ?_) fun _ => .never
  rw [get_run, get_run, follows.flags_eq]
  exact ⟨suffix, _, rfl, follows⟩

end SchemaBinding.Pattern.Reader
