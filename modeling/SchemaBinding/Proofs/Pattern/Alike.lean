import Mathlib.Data.List.Basic
import SchemaBinding.Pattern.Syntax

/-!
# Reading a pattern that goes on

A pattern is read alone, and also where it is followed by what closes a group.
`Follows` relates the states of the two readings. As long as the first reading
succeeds, the second one gives the same values and stays beside it; where the
first one fails for want of characters, the second one may go on into what
follows, and then has lost the parenthesis that it needs in the end
(`ReadsAlike`). Both are kept by running readers one after the other
(`ReadsAlike.bind`), so that every reader is dealt with once, from its parts.

Only a comment hides what follows from the second reading: it then stands at the
end, as the first one does, and the text has a number sign.
-/

namespace SchemaBinding.Pattern.Reader

variable {α β : Type}

/-! ## States -/

/-- What closes the group of a facet, and then asks for the end of the text. -/
def closing : List Char := [')', '$']

/-- What stands behind a text that is read: nothing, or what closes a group. -/
structure Ending where
  after : List Char
  after_eq : after = closing ∨ after = []
  /-- Whether the text has a number sign. -/
  signed : Prop

/-- A state of reading a text, and one of reading it with its ending. They differ in the ending
alone, unless a comment has taken it along. -/
structure Follows (e : Ending) (s s' : State) : Prop where
  flags_eq : s'.flags = s.flags
  nextGroup_eq : s'.nextGroup = s.nextGroup
  names_eq : s'.names = s.names
  within : s.rest.length ≤ s.length
  within' : s'.rest.length ≤ s'.length
  signed : '#' ∈ s.rest → e.signed
  rest_eq : s'.rest = s.rest ++ e.after ∨ (s.rest = [] ∧ s'.rest = [] ∧ e.signed)

/-- Whether a state has nothing but an end of `text` to be read. -/
def Within (text : List Char) (s : State) : Prop := s.rest <:+ text

variable {e : Ending} {s s' t t' : State}

/-- The ends of the closing. -/
theorem suffix_closing_iff {r : List Char} :
    r <:+ closing ↔ r = [] ∨ r = ['$'] ∨ r = [')', '$'] := by
  simp only [closing, List.suffix_cons_iff, List.suffix_nil]
  grind

/-- The ends of what is left of the closing behind its parenthesis. -/
theorem suffix_dollar_iff {r : List Char} : r <:+ ['$'] ↔ r = [] ∨ r = ['$'] := by
  simp only [List.suffix_cons_iff, List.suffix_nil]
  grind

/-- A state is within the text that it has to read. -/
theorem within_of_eq {text : List Char} (eq : s.rest = text) : Within text s :=
  eq ▸ List.suffix_refl _

/-- What is within an end of a text is within the text. -/
theorem Within.mono {text more : List Char} (sub : text <:+ more) (h : Within text s) :
    Within more s :=
  List.IsSuffix.trans h sub

theorem dollar_suffix_closing : ['$'] <:+ closing := ⟨[')'], rfl⟩

/-- An ending is an end of the closing: all of it, or nothing. -/
theorem Ending.suffix (e : Ending) : e.after <:+ closing := by
  rcases e.after_eq with eq | eq
  · exact eq ▸ List.suffix_refl _
  · exact eq ▸ List.nil_suffix

/-- Ends of texts remain so when each loses its first character. -/
theorem drop_one_suffix {r text : List Char} (h : r <:+ text) : r.drop 1 <:+ text.drop 1 := by
  obtain ⟨before, rfl⟩ := h
  cases before with
  | nil => exact List.suffix_refl _
  | cons c before => exact (List.drop_suffix _ _).trans (List.suffix_append _ _)

namespace Follows

/-- Where the first text has a character, the second one has the same, and the ending at last. -/
theorem cons (h : Follows e s s') {c : Char} {u : List Char} (eq : s.rest = c :: u) :
    s'.rest = c :: (u ++ e.after) := by
  rcases h.rest_eq with eq' | ⟨nil, -⟩
  · rw [eq', eq, List.cons_append]
  · cases nil.symm.trans eq

/-- Where the first text ends, the second one has an end of the closing. -/
theorem nil (h : Follows e s s') (eq : s.rest = []) : Within closing s' := by
  rcases h.rest_eq with eq' | ⟨-, nil, -⟩
  · rw [Within, eq', eq]
    exact e.suffix
  · rw [Within, nil]
    exact List.nil_suffix

/-- As long as the first text has not ended, the second one goes on with the ending. -/
theorem rest_of_ne_nil (h : Follows e s s') (some_ : s.rest ≠ []) : s'.rest = s.rest ++ e.after :=
  h.rest_eq.resolve_right fun ⟨nil, _⟩ => some_ nil

/-- Where the first state has passed over something, so has the second. -/
theorem length_lt (h : Follows e s s') (h' : Follows e t t') (lt : t.rest.length < s.rest.length) :
    t'.rest.length < s'.rest.length := by
  rw [h.rest_of_ne_nil (List.ne_nil_of_length_pos (Nat.zero_lt_of_lt lt))]
  rcases h'.rest_eq with eq | ⟨-, nil, -⟩
  · simpa [eq] using lt
  · simp only [nil, List.length_nil, List.length_append]
    omega

/-- Less is left for both states where the first has passed over a character of a rest of its
text. -/
theorem shorter {u u' : State} (h : Follows e s s') (rest : t.rest <:+ s.rest) (some_ : t.rest ≠ [])
    (h' : Follows e u u') (passed : u.rest <:+ t.rest.drop 1) :
    u.rest.length < s.rest.length ∧ u'.rest.length < s'.rest.length := by
  have lt : u.rest.length < s.rest.length :=
    calc u.rest.length ≤ (t.rest.drop 1).length := passed.length_le
      _ < t.rest.length := by
        rw [List.length_drop]
        exact Nat.sub_lt (List.length_pos_iff.2 some_) Nat.one_pos
      _ ≤ s.rest.length := rest.length_le
  exact ⟨lt, h.length_lt h' lt⟩

/-- Where the first text ends, nothing comes next in the second one, or its parenthesis. -/
theorem head_of_nil (h : Follows e s s') (eq : s.rest = []) :
    s'.rest.head? = none ∨ s'.rest.head? = some ')' := by
  rcases h.rest_eq with eq' | ⟨-, nil, -⟩
  · rw [eq', eq, List.nil_append]
    rcases e.after_eq with eq | eq <;> simp [eq, closing]
  · simp [nil]

/-- Both states pass over the same characters. -/
theorem move (h : Follows e s s') {r r' : List Char} (suffix : r <:+ s.rest)
    (suffix' : r' <:+ s'.rest) (eq : r' = r ++ e.after ∨ (r = [] ∧ r' = [] ∧ e.signed)) :
    Follows e { s with rest := r } { s' with rest := r' } where
  flags_eq := h.flags_eq
  nextGroup_eq := h.nextGroup_eq
  names_eq := h.names_eq
  within := Nat.le_trans suffix.length_le h.within
  within' := Nat.le_trans suffix'.length_le h.within'
  signed sign := h.signed (suffix.subset sign)
  rest_eq := eq

end Follows

/-! ## Outcomes -/

/-- The outcomes of the two readings: the same value in states that follow each other, with an end
of `rest` still to be read; or none for the first one, and then whatever the second one gives is
lost. -/
def Alike (e : Ending) (lost : α → State → Prop) (rest : List Char) :
    (first second : Option (α × State)) → Prop
  | some (a, t), second => t.rest <:+ rest ∧ ∃ t', second = some (a, t') ∧ Follows e t t'
  | none, second => ∀ a t', second = some (a, t') → lost a t'

/-- A reader that reads a text of at least `need` characters alike, alone and with its ending, and
passes over at least `take` of them. -/
def ReadsAlike (e : Ending) (lost : α → State → Prop) (need take : Nat) (f : Reader α) : Prop :=
  ∀ ⦃s s' : State⦄, Follows e s s' → need ≤ s.rest.length →
    Alike e lost (s.rest.drop take) (f.run s) (f.run s')

/-- A reader that gives from the states with `pre` only values and states with `post`. -/
def Leads (pre : State → Prop) (post : α → State → Prop) (f : Reader α) : Prop :=
  ∀ ⦃s : State⦄ ⦃a : α⦄ ⦃t : State⦄, pre s → f.run s = some (a, t) → post a t

/-- What never happens. -/
def Never : α → State → Prop := fun _ _ => False

variable {lost lost' : α → State → Prop} {need need' take take' : Nat} {f : Reader α}

/-! ### Outcomes of readers in a row -/

/-- Outcomes are alike for a longer text, and where more counts as lost. -/
theorem Alike.mono {rest rest' : List Char} {first second : Option (α × State)}
    (h : Alike e lost rest first second) (sub : rest <:+ rest')
    (imp : ∀ {a t}, lost a t → lost' a t) :
    Alike e lost' rest' first second := by
  cases first with
  | none => exact fun a t' eq => imp (h a t' eq)
  | some result => exact ⟨h.1.trans sub, h.2⟩

/-- **Outcomes of two readers in a row.** They are alike if those of the first readers are, if the
second ones go on alike from there, and if what the first reading has lost stays lost. -/
theorem Alike.bind {lost : α → State → Prop} {lost' : β → State → Prop} {rest : List Char}
    {f f' : Reader α} {g g' : α → Reader β}
    (first : Alike e lost rest (f.run s) (f'.run s'))
    (next : ∀ a t t', Follows e t t' → t.rest <:+ rest →
      Alike e lost' rest ((g a).run t) ((g' a).run t'))
    (lose : ∀ a, Leads (lost a) lost' (g' a)) :
    Alike e lost' rest ((f >>= g).run s) ((f' >>= g').run s') := by
  rw [StateT.run_bind, StateT.run_bind]
  cases run : f.run s with
  | none =>
    rw [run] at first
    intro b t'' eq
    obtain ⟨⟨a, t'⟩, run', eq⟩ := Option.bind_eq_some_iff.1 eq
    exact lose a (first a t' run') eq
  | some result =>
    obtain ⟨a, t⟩ := result
    rw [run] at first
    obtain ⟨suffix, t', run', follows⟩ := first
    rw [run']
    exact next a t t' follows suffix

/-- What is made of the value that is read. -/
theorem Alike.map {lost : State → Prop} {rest : List Char} {f f' : Reader α} {g : α → β}
    (h : Alike e (fun _ => lost) rest (f.run s) (f'.run s')) :
    Alike e (fun _ => lost) rest ((f >>= fun a => pure (g a)).run s)
      ((f' >>= fun a => pure (g a)).run s') :=
  h.bind (fun _ _ _ follows suffix => ⟨suffix, _, rfl, follows⟩) fun _ _ _ _ lost run => by
    cases run
    exact lost

/-- Two readings that fail are alike. -/
theorem Alike.failure {rest : List Char} :
    Alike e lost rest ((failure : Reader α).run s) ((failure : Reader α).run s') := by
  intro a t' eq
  cases eq

/-- Two readings that give the same value without reading are alike. -/
theorem Alike.pure {a : α} (follows : Follows e s s') :
    Alike e lost s.rest ((pure a : Reader α).run s) ((pure a : Reader α).run s') :=
  ⟨List.suffix_refl _, _, rfl, follows⟩

/-- Two readers that go on under a condition. -/
theorem Alike.orFail {rest : List Char} {c : Prop} [Decidable c] {g g' : β → Reader α}
    {f f' : Reader α} (h : ¬ c → Alike e lost rest (f.run s) (f'.run s')) :
    Alike e lost rest ((if c then Alternative.failure >>= g else f).run s)
      ((if c then Alternative.failure >>= g' else f').run s') := by
  split
  · intro a t' eq
    cases eq
  · next hc => exact h hc

namespace ReadsAlike

/-- A reader of more texts is one of fewer, a reader that passes over more passes over less, and
more may count as lost. -/
theorem mono (h : ReadsAlike e lost need take f) (le : need ≤ need') (less : take' ≤ take)
    (imp : ∀ {a t}, lost a t → lost' a t) : ReadsAlike e lost' need' take' f :=
  fun _ _ follows enough =>
    (h follows (Nat.le_trans le enough)).mono (List.drop_suffix_drop_left _ less) imp

/-- A reader of any text, asked less of. -/
theorem weaken (h : ReadsAlike e lost 0 take f) : ReadsAlike e lost need 0 f :=
  h.mono (Nat.zero_le _) (Nat.zero_le _) id

/-- One reader after the other. -/
theorem bind {lost : α → State → Prop} {lost' : β → State → Prop} {g : α → Reader β}
    (first : ReadsAlike e lost need take f) (next : ∀ a, ReadsAlike e lost' 0 0 (g a))
    (lose : ∀ a, Leads (lost a) lost' (g a)) : ReadsAlike e lost' need take (f >>= g) :=
  fun _ _ follows enough => (first follows enough).bind
    (fun a _ _ follows suffix => (next a follows (Nat.zero_le _)).mono suffix id) lose

/-- A reader after one that is not lost. -/
theorem andThen {lost' : β → State → Prop} {g : α → Reader β}
    (first : ReadsAlike e Never need take f) (next : ∀ a, ReadsAlike e lost' 0 0 (g a)) :
    ReadsAlike e lost' need take (f >>= g) :=
  first.bind next fun _ _ _ _ absurd => absurd.elim

/-- What is not lost at all is not lost otherwise. -/
theorem anyLost (h : ReadsAlike e Never need take f) : ReadsAlike e lost need take f :=
  h.mono (Nat.le_refl _) (Nat.le_refl _) False.elim

/-- A value that is given without reading. -/
theorem pure (a : α) : ReadsAlike e lost need 0 (pure a) :=
  fun _ _ follows _ => ⟨List.suffix_refl _, _, rfl, follows⟩

/-- The outcomes of a reader, from two states of which one follows the other. -/
theorem run {s s' : State} (h : ReadsAlike e lost need take f) (follows : Follows e s s')
    (enough : need ≤ s.rest.length) : Alike e lost (s.rest.drop take) (f.run s) (f.run s') :=
  h follows enough

/-- A reader that needs nothing. -/
theorem alike {s s' : State} (h : ReadsAlike e lost 0 0 f) (follows : Follows e s s') :
    Alike e lost s.rest (f.run s) (f.run s') :=
  h follows (Nat.zero_le _)

/-- A reader that fails. -/
theorem failure : ReadsAlike e lost need take failure := fun _ _ _ _ => Alike.failure

/-- A reader that goes on under a condition. -/
theorem orFail {c : Prop} [Decidable c] {g : β → Reader α}
    (h : ¬ c → ReadsAlike e lost need take f) :
    ReadsAlike e lost need take (if c then Alternative.failure >>= g else f) :=
  fun _ _ follows enough => Alike.orFail fun hc => h hc follows enough

/-- A reader that looks at the state, which may differ in the rest of the text. -/
theorem get {g : State → Reader α} (h : ∀ t t', Follows e t t' → need ≤ t.rest.length →
      Alike e lost (t.rest.drop take) ((g t).run t) ((g t').run t')) :
        ReadsAlike e lost need take (get >>= g) :=
  fun _ _ follows enough => h _ _ follows enough

end ReadsAlike

namespace Leads

variable {pre pre' : State → Prop} {post : α → State → Prop}

/-- A reader leads from fewer states, and to more. -/
theorem mono {post' : α → State → Prop} (h : Leads pre post f) (imp : ∀ {s}, pre' s → pre s)
    (imp' : ∀ {a t}, post a t → post' a t) : Leads pre' post' f :=
  fun _ _ _ holds run => imp' (h (imp holds) run)

/-- One reader after the other leads where the second one leads from where the first one does. -/
theorem bind {mid : α → State → Prop} {post : β → State → Prop} {g : α → Reader β}
    (first : Leads pre mid f) (next : ∀ a, Leads (mid a) post (g a)) :
    Leads pre post (f >>= g) := by
  intro s b t holds run
  rw [StateT.run_bind] at run
  obtain ⟨⟨a, u⟩, run, later⟩ := Option.bind_eq_some_iff.1 run
  exact next a (first holds run) later

/-- A value that is given without reading leaves the state as it is. -/
theorem pure {a : α} (h : ∀ {s}, pre s → post a s) : Leads pre post (pure a) := by
  intro s b t holds run
  cases run
  exact h holds

/-- A reader that fails leads nowhere. -/
theorem failure : Leads pre post failure := by
  intro s a t _ run
  cases run

/-- All states are reached with nothing to be shown. -/
theorem any : Leads pre (fun _ _ => True) f := fun _ _ _ _ _ => trivial

/-- No states are left from a state that there is not. -/
theorem never : Leads (fun _ => False) post f := fun _ _ _ absurd => absurd.elim

/-- A reader that goes on under a condition leads where it does then. -/
theorem orFail {c : Prop} [Decidable c] {g : β → Reader α} (h : ¬ c → Leads pre post f) :
    Leads pre post (if c then Alternative.failure >>= g else f) := by
  split
  · exact failure
  · next hc => exact h hc

/-- A reader that reads the state. -/
theorem get {g : State → Reader α} (h : ∀ t, Leads (fun s => pre s ∧ s = t) post (g t)) :
    Leads pre post (get >>= g) :=
  fun _ _ _ holds run => h _ ⟨holds, rfl⟩ run

end Leads

/-! ## Characters -/

section Characters

variable {text : List Char}

/-- What is left behind blanks and comments is an end of the text. -/
theorem dropBlanks_suffix (comment : Bool) (u : List Char) : dropBlanks comment u <:+ u := by
  induction u generalizing comment with
  | nil => exact List.suffix_refl _
  | cons c u ih =>
    simp only [dropBlanks]
    repeat' split
    all_goals first | exact (ih _).trans (List.suffix_cons _ _) | exact List.suffix_refl _

/-- Blanks and comments end where they end alone, unless a comment is open at the end. -/
theorem dropBlanks_append (e : Ending) (comment : Bool) (u : List Char) :
    dropBlanks comment (u ++ e.after) = dropBlanks comment u ++ e.after ∨
      (dropBlanks comment u = [] ∧ dropBlanks comment (u ++ e.after) = [] ∧
        (comment ∨ '#' ∈ u)) := by
  induction u generalizing comment with
  | nil =>
    rcases e.after_eq with eq | eq <;> cases comment <;>
      simp only [eq, closing, List.nil_append] <;> decide
  | cons c u ih =>
    simp only [List.cons_append, dropBlanks]
    split
    · next open_ =>
      rcases ih (c != '\n') with same | ⟨nil, nil', -⟩
      · exact .inl same
      · exact .inr ⟨nil, nil', .inl open_⟩
    split
    · rcases ih false with same | ⟨nil, nil', sign⟩
      · exact .inl same
      · exact .inr ⟨nil, nil', .inr (List.mem_cons_of_mem _ (sign.resolve_left Bool.false_ne_true))⟩
    split
    · next sign =>
      rcases ih true with same | ⟨nil, nil', -⟩
      · exact .inl same
      · exact .inr ⟨nil, nil', .inr (sign ▸ List.mem_cons_self)⟩
    · exact .inl rfl

/-- **Blanks and comments** are passed over alike: a comment that is open at the end of the first
text takes the ending along. -/
theorem skipBlanks_alike : ReadsAlike e Never need 0 skipBlanks := by
  intro s s' follows _
  have flags_eq := follows.flags_eq
  by_cases verbose : s.flags.verbose
  · have verbose' : s'.flags.verbose := flags_eq ▸ verbose
    simp only [skipBlanks, StateT.run_modify, verbose, verbose', if_true]
    refine ⟨dropBlanks_suffix _ _, _, rfl,
      follows.move (dropBlanks_suffix _ _) (dropBlanks_suffix _ _) ?_⟩
    rcases follows.rest_eq with eq | ⟨nil, nil', signed⟩
    · rw [eq]
      rcases dropBlanks_append e false s.rest with same | ⟨nil, nil', sign⟩
      · exact .inl same
      · exact .inr ⟨nil, nil', follows.signed (sign.resolve_left Bool.false_ne_true)⟩
    · exact .inr ⟨by rw [nil]; rfl, by rw [nil']; rfl, signed⟩
  · have verbose' : ¬ s'.flags.verbose := flags_eq ▸ verbose
    simp only [skipBlanks, StateT.run_modify, verbose, verbose']
    exact ⟨List.suffix_refl _, _, rfl, follows⟩

/-- There are no blanks and comments in the closing. -/
theorem skipBlanks_run_of_within (within : Within closing s) : skipBlanks.run s = some ((), s) := by
  have same : dropBlanks false s.rest = s.rest := by
    rcases suffix_closing_iff.1 within with eq | eq | eq <;> rw [eq] <;> decide
  simp only [skipBlanks, StateT.run_modify, same, ite_self]
  rfl

/-- Passing over blanks stays within a text. -/
theorem skipBlanks_within : Leads (Within text) (fun _ => Within text) skipBlanks := by
  intro s a t within run
  simp only [skipBlanks, StateT.run_modify] at run
  cases run
  split
  · exact (dropBlanks_suffix _ _).trans within
  · exact within

/-- Looking at the next character gives it and reads nothing. -/
theorem peek_run_cons {c : Char} {u : List Char} (eq : s.rest = c :: u) :
    peek.run s = some (c, s) := by
  simp [peek, peek?, eq]

/-- There is no next character at the end of a text. -/
theorem peek_run_nil (eq : s.rest = []) : peek.run s = none := by
  have none_ : peek?.run s = some (none, s) := by simp [peek?, eq]
  rw [peek, StateT.run_bind, none_]
  rfl

/-- The next character within a text is one of the text. -/
theorem peek_within : Leads (Within text) (fun c s => c ∈ text ∧ Within text s) peek := by
  intro s a t within run
  cases eq : s.rest with
  | nil =>
    rw [peek_run_nil eq] at run
    cases run
  | cons c u =>
    rw [peek_run_cons eq] at run
    cases run
    exact ⟨within.subset (eq ▸ List.mem_cons_self), within⟩

/-- A reader that begins with looking at the next character leads where it does for all characters
of the text. -/
theorem Leads.peek {post : α → State → Prop} {g : Char → Reader α}
    (h : ∀ c ∈ text, Leads (Within text) post (g c)) : Leads (Within text) post (peek >>= g) :=
  .bind peek_within fun c _ _ _ ⟨mem, within⟩ => h c mem within

/-- Passing over a character within a text leaves its rest. -/
theorem skip_within : Leads (Within text) (fun _ => Within text.tail) skip := by
  intro s a t within run
  cases run
  exact List.drop_one ▸ drop_one_suffix within

theorem Within.of_tail (h : Within text.tail s) : Within text s := h.mono (List.tail_suffix text)

/-- Passing over a character, and the blanks behind it, leaves the rest of a text. -/
theorem advance_within : Leads (Within text) (fun _ => Within text.tail) advance :=
  .bind skip_within fun _ => skipBlanks_within

/-- Two readers that begin with looking at the next character. -/
theorem Alike.peek {rest : List Char} {g g' : Char → Reader α} (follows : Follows e s s')
    (next : ∀ c u, s.rest = c :: u → Alike e lost rest ((g c).run s) ((g' c).run s'))
    (lose : Leads (Within closing) lost (peek >>= g')) :
    Alike e lost rest ((peek >>= g).run s) ((peek >>= g').run s') := by
  cases eq : s.rest with
  | nil =>
    rw [StateT.run_bind, peek_run_nil eq]
    exact fun a t' run => lose (follows.nil eq) run
  | cons c u =>
    rw [StateT.run_bind, StateT.run_bind, peek_run_cons eq, peek_run_cons (follows.cons eq)]
    exact next c u eq

/-- A reader that begins with looking at the next character. -/
theorem ReadsAlike.peek_of_leads {g : Char → Reader α}
    (next : ∀ c, ReadsAlike e lost 1 take (g c))
    (lose : Leads (Within closing) lost (Reader.peek >>= g)) :
    ReadsAlike e lost need take (Reader.peek >>= g) :=
  fun _ _ follows _ => .peek follows (fun c _ eq => next c follows (by simp [eq])) lose

/-- A reader that looks at the next character is one that reads alike for each, and for those of the
closing loses what it has to. -/
theorem ReadsAlike.peek {g : Char → Reader α} (next : ∀ c, ReadsAlike e lost 1 take (g c))
    (lose : ∀ c ∈ closing, Leads (Within closing) lost (g c)) :
    ReadsAlike e lost need take (peek >>= g) :=
  .peek_of_leads next (.peek lose)

/-- A reader that passes over a character which there is. -/
theorem ReadsAlike.skip {g : Unit → Reader α} (next : ReadsAlike e lost need 0 (g ()))
    (le : take ≤ 1) : ReadsAlike e lost (need + 1) take (skip >>= g) := by
  intro s s' follows enough
  obtain ⟨c, u, eq⟩ := List.exists_cons_of_length_pos (Nat.lt_of_lt_of_le need.succ_pos enough)
  have eq' := follows.cons eq
  have moved : Follows e { s with rest := u } { s' with rest := u ++ e.after } :=
    follows.move (eq ▸ List.suffix_cons _ _) (eq' ▸ List.suffix_cons _ _) (.inl rfl)
  have result := (next moved (by simpa [eq] using enough)).mono
    (List.drop_suffix_drop_left (c :: u) le : u <:+ (c :: u).drop take) id
  simpa [StateT.run_bind, Reader.skip, eq, eq'] using result

/-- A reader that fails where nothing is left. -/
theorem ReadsAlike.of_fails (h : ReadsAlike e lost 1 take f)
    (fails : ∀ {s : State}, s.rest = [] → f.run s = none) (lose : Leads (Within closing) lost f) :
    ReadsAlike e lost 0 take f := by
  intro s s' follows _
  cases eq : s.rest with
  | nil =>
    rw [fails eq]
    exact fun a t' run => lose (follows.nil eq) run
  | cons c u => exact eq ▸ h follows (by simp [eq])

/-- **Passing over a character**, and the blanks behind it, is alike where there is one. -/
theorem advance_alike : ReadsAlike e Never 1 1 advance := .skip skipBlanks_alike (Nat.le_refl _)

/-- Passing over a character never fails. -/
theorem advance_run (s : State) : ∃ t, advance.run s = some ((), t) := ⟨_, rfl⟩

/-- Passing over a character that is not the last one leaves the rest of a text. -/
theorem advanceWithin_within : Leads (Within text) (fun _ => Within text.tail) advanceWithin :=
  .bind advance_within fun _ => .bind peek_within fun _ => .pure And.right

/-- There must be a character to be passed over. -/
theorem advanceWithin_run_nil (eq : s.rest = []) : advanceWithin.run s = none := by
  obtain ⟨t, run⟩ := advance_run s
  have nil : Within [] t := advance_within (within_of_eq eq) run
  rw [advanceWithin, StateT.run_bind, run]
  change (peek >>= fun _ => pure ()).run t = none
  rw [StateT.run_bind, peek_run_nil (List.suffix_nil.1 nil)]
  rfl

/-- **Passing over a character that is not the last one** is alike, unless it is the last one of the
first text: then the second one is within the closing. -/
theorem advanceWithin_alike : ReadsAlike e (fun _ => Within closing) 0 1 advanceWithin :=
  .of_fails (.andThen advance_alike fun _ => .peek (fun _ => .pure _) fun _ _ => .pure id)
    advanceWithin_run_nil (.mono advanceWithin_within id Within.of_tail)

/-- A text is passed over if it comes next. -/
theorem skipIf_run (word : String) (s : State) :
    (skipIf word).run s = if word.toList <+: s.rest
      then some (true, { s with rest := s.rest.drop word.toList.length }) else some (false, s) := by
  simp only [skipIf, StateT.run_bind, StateT.run_get, pure_bind, ← List.isPrefixOf_iff_prefix]
  split <;> rfl

/-- A text without a closing parenthesis does not come next on account of the ending. -/
theorem Ending.prefix_of_prefix_append (e : Ending) {word u : List Char} (plain : ')' ∉ word)
    (h : word <+: u ++ e.after) : word <+: u := by
  rcases List.prefix_or_prefix_of_prefix h (List.prefix_append u e.after) with done | ⟨v, rfl⟩
  · exact done
  · rw [List.prefix_append_right_inj] at h
    cases v with
    | nil => exact (List.append_nil u).symm ▸ List.prefix_refl u
    | cons c v =>
      rcases e.after_eq with eq | eq <;> simp_all [closing]

/-- A reader that passes over a character first. -/
theorem ReadsAlike.advance {g : Unit → Reader α} (next : ReadsAlike e lost 0 0 (g ())) :
    ReadsAlike e lost 1 0 (advance >>= g) :=
  .andThen (.mono advance_alike (Nat.le_refl _) (Nat.zero_le _) id) fun _ => next

/-- A reader that passes over a character and looks at the next one. -/
theorem ReadsAlike.advanceWithin {g : Char → Reader α} (next : ∀ c, ReadsAlike e lost 1 0 (g c))
    (lose : ∀ c ∈ closing, Leads (Within closing) lost (g c)) :
    ReadsAlike e lost need 1 (Reader.advanceWithin >>= fun _ => Reader.peek >>= g) :=
  .bind (.mono advanceWithin_alike (Nat.zero_le _) (Nat.le_refl _) id) (fun _ => .peek next lose)
    fun _ => .peek lose

/-- A text without a closing parenthesis comes next for both readings or for none. -/
theorem skipIf_alike {word : String} (plain : ')' ∉ word.toList) :
    ReadsAlike e Never need 0 (skipIf word) := by
  intro s s' follows _
  rw [skipIf_run, skipIf_run]
  by_cases comes : word.toList <+: s.rest
  · rcases follows.rest_eq with eq | ⟨nil, nil', signed⟩
    · have comes' : word.toList <+: s'.rest := eq ▸ comes.trans (List.prefix_append _ _)
      rw [if_pos comes, if_pos comes']
      refine ⟨List.drop_suffix _ _, _, rfl,
        follows.move (List.drop_suffix _ _) (List.drop_suffix _ _) (.inl ?_)⟩
      rw [eq, List.drop_append_of_le_length comes.length_le]
    · have comes' : word.toList <+: s'.rest := nil' ▸ nil ▸ comes
      rw [if_pos comes, if_pos comes']
      exact ⟨List.drop_suffix _ _, _, rfl,
        follows.move (List.drop_suffix _ _) (List.drop_suffix _ _)
        (.inr ⟨by simp [nil], by simp [nil'], signed⟩)⟩
  · have comes' : ¬ word.toList <+: s'.rest := by
      rcases follows.rest_eq with eq | ⟨nil, nil', -⟩
      · exact fun comes' => comes (e.prefix_of_prefix_append plain (eq ▸ comes'))
      · rwa [nil', ← nil]
    rw [if_neg comes, if_neg comes']
    exact ⟨List.suffix_refl _, _, rfl, follows⟩

/-- Passing over a text stays within the text that there is. -/
theorem skipIf_within {word : String} :
    Leads (Within text) (fun _ => Within text) (skipIf word) := by
  intro s a t within run
  rw [skipIf_run] at run
  split at run <;> cases run
  · exact (List.drop_suffix _ _).trans within
  · exact within

/-! ### Runs of characters -/

variable {p : Char → Bool} {count count' : Nat}

/-- A run of characters takes the next one, or ends. -/
theorem takeSpaced_succ_run (p : Char → Bool) (count : Nat) {c : Char} {u : List Char}
    (eq : s.rest = c :: u) :
    (takeSpaced p (count + 1)).run s
      = if p c then (do advance; return c :: (← takeSpaced p count) : Reader (List Char)).run
        s else some ([], s) := by
  simp only [takeSpaced, peek?, StateT.run_bind, StateT.run_get, bind_assoc, pure_bind,
    StateT.run_pure, eq, List.head?_cons]
  split <;> rfl

/-- A run of characters ends with the text. -/
theorem takeSpaced_run_nil (p : Char → Bool) (count : Nat) (eq : s.rest = []) :
    (takeSpaced p count).run s = some ([], s) := by
  cases count with
  | zero => rfl
  | succ count => simp [takeSpaced, peek?, eq]

/-- A run of characters is always read, up to an end of the text. -/
theorem takeSpaced_run (p : Char → Bool) (count : Nat) (s : State) :
    ∃ ds t, (takeSpaced p count).run s = some (ds, t) ∧ t.rest <:+ s.rest := by
  induction count generalizing s with
  | zero => exact ⟨[], s, rfl, List.suffix_refl _⟩
  | succ count ih =>
    cases eq : s.rest with
    | nil => exact ⟨[], s, takeSpaced_run_nil p _ eq, eq ▸ List.suffix_refl _⟩
    | cons c u =>
      rw [takeSpaced_succ_run p count eq]
      split
      · obtain ⟨t, run⟩ := advance_run s
        obtain ⟨ds, t', later, suffix⟩ := ih t
        refine ⟨c :: ds, t', ?_, suffix.trans ?_⟩
        · simp [run, later]
        · exact (advance_within (within_of_eq eq) run).trans (List.suffix_cons _ _)
      · exact ⟨[], s, rfl, eq ▸ List.suffix_refl _⟩

/-- A run of characters stays within a text. -/
theorem takeSpaced_within : Leads (Within text) (fun _ => Within text) (takeSpaced p count) := by
  intro s ds t within run
  obtain ⟨ds', t', run', suffix⟩ := takeSpaced_run p count s
  cases run.symm.trans run'
  exact suffix.trans within

/-- Where the first text ends, the second one may go on with the closing only if its parenthesis is
in the run. -/
private theorem takeSpaced_run_alike_of_nil (eq : s.rest = []) (follows : Follows e s s')
    (enough' : s'.rest.length ≤ count') :
    ∃ ds t ds' t', (takeSpaced p count).run s = some (ds, t) ∧
      (takeSpaced p count').run s' = some (ds', t') ∧
      t.rest <:+ s.rest ∧
      ((ds' = ds ∧ Follows e t t') ∨ (p ')' ∧ t.rest = [] ∧ Within ['$'] t')) := by
  obtain ⟨ds', t', run', -⟩ := takeSpaced_run p count' s'
  refine ⟨[], s, ds', t', takeSpaced_run_nil p count eq, run', List.suffix_refl _, ?_⟩
  have within := follows.nil eq
  rcases suffix_closing_iff.1 within with nil | dollar | whole
  · cases run'.symm.trans (takeSpaced_run_nil p count' nil)
    exact .inl ⟨rfl, follows⟩
  · have := follows.head_of_nil eq
    simp [dollar] at this
  · obtain ⟨count', rfl⟩ : ∃ n, count' = n + 1 := ⟨count' - 1, by simp [whole] at enough'; omega⟩
    rw [takeSpaced_succ_run p count' whole] at run'
    split at run'
    · next inside =>
      have past : Leads (Within closing) (fun _ => Within ['$'])
          (do advance; return ')' :: (← takeSpaced p count') : Reader (List Char)) :=
        .bind advance_within fun _ => .bind takeSpaced_within fun _ => .pure id
      exact .inr ⟨inside, eq, past within run'⟩
    · cases run'
      exact .inl ⟨rfl, follows⟩

/-- A run of characters ends where it ends alone, unless the closing parenthesis goes on with it. -/
theorem takeSpaced_run_alike (follows : Follows e s s') (enough : s.rest.length ≤ count)
    (enough' : s'.rest.length ≤ count') :
    ∃ ds t ds' t', (takeSpaced p count).run s = some (ds, t) ∧
      (takeSpaced p count').run s' = some (ds', t') ∧
      t.rest <:+ s.rest ∧
      ((ds' = ds ∧ Follows e t t') ∨ (p ')' ∧ t.rest = [] ∧ Within ['$'] t')) := by
  induction count generalizing s s' count' with
  | zero => exact takeSpaced_run_alike_of_nil (List.length_eq_zero_iff.1
      (Nat.le_zero.1 enough)) follows enough'
  | succ count ih =>
    by_cases ended : s.rest = []
    · exact takeSpaced_run_alike_of_nil ended follows enough'
    obtain ⟨c, u, eq⟩ := List.exists_cons_of_ne_nil ended
    have eq' := follows.cons eq
    simp only [eq, eq', List.length_cons] at enough enough'
    obtain ⟨count', rfl⟩ : ∃ n, count' = n + 1 := ⟨count' - 1, by omega⟩
    rw [takeSpaced_succ_run p count eq, takeSpaced_succ_run p count' eq']
    split
    · obtain ⟨t, run⟩ := advance_run s
      have first := advance_alike follows (by simp [eq])
      rw [run] at first
      obtain ⟨suffix, t', run', follows⟩ := first
      rw [eq, List.drop_one, List.tail_cons] at suffix
      have suffix' : t'.rest <:+ u ++ e.after := advance_within (within_of_eq eq') run'
      have short := suffix.length_le
      have short' := suffix'.length_le
      obtain ⟨ds, v, ds', v', later, later', ended, result⟩ :=
        @ih t t' count' follows (by omega) (by omega)
      refine ⟨c :: ds, v, c :: ds', v', by simp [run, later], by simp [run', later'], ?_, ?_⟩
      · exact eq ▸ (ended.trans suffix).trans (List.suffix_cons _ _)
      · exact result.imp_left fun ⟨same, follows⟩ => ⟨by rw [same], follows⟩
    · exact ⟨[], s, [], s', rfl, rfl, List.suffix_refl _, .inl ⟨rfl, follows⟩⟩

/-- The outcome of a reader behind a character that is passed over. -/
theorem skip_run (g : Unit → Reader α) (s : State) :
    (skip >>= g).run s = (g ()).run { s with rest := s.rest.drop 1 } := rfl

/-- The outcome of a reader that looks at the state. -/
theorem get_run (g : State → Reader α) (s : State) : (get >>= g).run s = (g s).run s := rfl

/-- The outcome of a reader that is told the length of the text. -/
theorem remaining_run (g : Nat → Reader α) (s : State) :
    (remaining >>= g).run s = (g s.length).run s := rfl

/-- A run of characters that may not be closing parentheses. -/
theorem ReadsAlike.takeSpaced {g : List Char → Reader α} (outside : p ')' = false)
    (next : ∀ ds, ReadsAlike e lost 0 0 (g ds)) :
    ReadsAlike e lost need 0 (remaining >>= fun count => takeSpaced p count >>= g) := by
  intro s s' follows _
  rw [remaining_run, remaining_run]
  obtain ⟨ds, t, ds', t', run, run', suffix, ⟨rfl, follows⟩ | ⟨inside, -⟩⟩ :=
    takeSpaced_run_alike (p := p) follows follows.within follows.within'
  · rw [StateT.run_bind, StateT.run_bind, run, run']
    exact (next ds' follows (Nat.zero_le _)).mono suffix id
  · cases outside.symm.trans inside

/-- **Numbers are read alike**: no digit or blank is in the closing. -/
theorem decimal_alike : ReadsAlike e Never need 0 decimal := by
  refine ReadsAlike.andThen ?_ fun _ => .takeSpaced (by decide) fun ds =>
    .takeSpaced (by decide) fun _ => ?_
  · intro s s' follows _
    refine ⟨List.dropWhile_suffix _, _, rfl,
      follows.move (List.dropWhile_suffix _) (List.dropWhile_suffix _) ?_⟩
    rcases follows.rest_eq with eq | ⟨nil, nil', signed⟩
    · left
      rw [eq, List.dropWhile_append]
      split
      · next blank =>
        rw [List.isEmpty_iff.1 blank]
        rcases e.after_eq with eq | eq <;> rw [eq] <;> decide
      · rfl
    · exact .inr ⟨by rw [nil]; rfl, by rw [nil']; rfl, signed⟩
  · split
    · exact .pure _
    · dsimp only
      split
      · exact .pure _
      · exact .failure

/-- Asking for the length of a text reads nothing. -/
theorem remaining_within : Leads (Within text) (fun _ => Within text) remaining :=
  .get fun _ => .pure And.left

/-- Reading a number stays within a text. -/
theorem decimal_within : Leads (Within text) (fun _ => Within text) decimal := by
  have blanks : Leads (Within text) (fun _ => Within text)
      (modify fun s => { s with rest := s.rest.dropWhile Text.isBlank } : Reader PUnit) := by
    intro s a t within run
    cases run
    exact (List.dropWhile_suffix _).trans within
  refine blanks.bind fun _ => .bind remaining_within fun _ => .bind takeSpaced_within fun _ =>
    .bind remaining_within fun _ => .bind takeSpaced_within fun _ => ?_
  split
  · exact .pure id
  · dsimp only
    split
    · exact .pure id
    · exact .failure

end Characters

end SchemaBinding.Pattern.Reader
