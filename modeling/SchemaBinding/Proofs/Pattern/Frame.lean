import SchemaBinding.Proofs.Pattern.AlikeBody

/-!
# The frame of a facet

The text of a pattern facet is put into a group between assertions of the ends
of the text, and the whole is read as a pattern. The beginning of the frame is
read first (`readFrom_frame`), then the facet as it is read alone
(`readFrom_alike`), and what is left is the end of the frame (`body_dollar`).

So the frame is read as it is meant, unless a parenthesis of the facet closes the
group (`closesGroup`) or a comment hides the end (`endsInComment`); and the
pattern of the facet is what is read of it, framed, if that is small enough
(`ofFacet?_eq_some_iff`).
-/

namespace SchemaBinding.Pattern

open Reader

/-! ## What the text of a facet does to its frame -/

/-- The reading of a text up to its end, or to a parenthesis that closes nothing. -/
def readFrom (text : List Char) : Option (Reading × State) :=
  (body (text.length + 1) [] []).run { rest := text, length := text.length }

/-- Whether a facet has a parenthesis that closes nothing: put into a group, it closes that one. -/
def closesGroup (facet : String) : Bool :=
  (readFrom facet.toList).any fun (_, s) => !s.rest.isEmpty

/-- Whether a comment is open at the end of a facet: what is put after it to close a group is not
seen. -/
def endsInComment (facet : String) : Bool := (read? (facet ++ ")$")).isSome

/-- A pattern for the whole text. -/
def framed (p : Pattern) : Pattern := Pattern.sequence [.look .textStart, p, .look .textEnd]

/-- Whether a pattern can be put into a frame: a frame nests two levels deep, and the machines for
the whole have to be small enough. -/
def fitsFrame (r : Reading) : Bool :=
  r.depth + 2 ≤ maximalDepth && (framed r.pattern).isMachineSized

/-! ## Reading the frame -/

theorem read?_eq_some_iff {text : String} {r : Reading} :
    read? text = some r ↔ ∃ s, readFrom text.toList = some (r, s) ∧ s.rest = [] := by
  simp only [read?, readFrom, Option.bind_eq_bind, Option.bind_eq_some_iff, Prod.exists,
    Option.ite_none_right_eq_some, List.isEmpty_iff]
  constructor
  · rintro ⟨r', s, run, ended, same⟩
    cases same
    exact ⟨s, run, ended⟩
  · rintro ⟨s, run, ended⟩
    exact ⟨r, s, run, ended, rfl⟩

/-- What is read by itself has no parenthesis that closes nothing. -/
theorem closesGroup_of_read? {facet : String} {r : Reading} (read : read? facet = some r) :
    closesGroup facet = false := by
  obtain ⟨s, run, ended⟩ := read?_eq_some_iff.1 read
  simp [closesGroup, run, ended]

/-- A facet with a parenthesis that closes nothing is no pattern by itself. -/
theorem read?_of_closesGroup {facet : String} (closes : closesGroup facet) :
    read? facet = none := by
  rw [Option.eq_none_iff_forall_ne_some]
  intro r read
  cases closes.symm.trans (closesGroup_of_read? read)

/-- The state of reading after the beginning of the frame. -/
def inFrame (facet : List Char) : State :=
  { rest := facet ++ closing, length := facet.length + 6 }

theorem groupOpening_frame (u : List Char) (length : Nat) :
    groupOpening.run { rest := '(' :: '?' :: ':' :: u, length } =
      some (.group none {}, { rest := u, length }) := rfl

theorem body_frame (u : List Char) (count length : Nat) :
    (body (count + 2) [] []).run { rest := '^' :: '(' :: '?' :: ':' :: u, length } =
      ((body count [] []).run { rest := u, length }).bind fun (r, s) =>
        ((groupEnd none {} r).run s).bind fun (part, s) =>
          (body count [] [part, { pattern := .look .textStart, depth := 0 }]).run s := by
  have caret : (body (count + 2) [] []).run { rest := '^' :: '(' :: '?' :: ':' :: u, length } =
      (body (count + 1) [] [{ pattern := .look .textStart, depth := 0 }]).run
        { rest := '(' :: '?' :: ':' :: u, length } := rfl
  have parenthesis : (body (count + 1) [] [{ pattern := .look .textStart, depth := 0 }]).run
        { rest := '(' :: '?' :: ':' :: u, length } =
      (Reader.group (body count [] []) >>= fun part =>
          body count [] [part, { pattern := .look .textStart, depth := 0 }]).run
        { rest := '(' :: '?' :: ':' :: u, length } := rfl
  rw [caret, parenthesis, Reader.group, bind_assoc, StateT.run_bind, groupOpening_frame,
    Option.bind_eq_bind, Option.bind_some]
  dsimp only
  rw [bind_assoc, StateT.run_bind]
  rfl

theorem readFrom_frame (facet : List Char) : readFrom ("^(?:".toList ++ facet ++ ")$".toList) =
    ((body (facet.length + 5) [] []).run (inFrame facet)).bind fun (r, s) =>
      if s.rest.head? = some ')' then
        (body (facet.length + 5) []
          [grouped none r, { pattern := .look .textStart, depth := 0 }]).run
          { s with rest := s.rest.drop 1, flags := {} }
      else none := by
  have text : "^(?:".toList ++ facet ++ ")$".toList =
    '^' :: '(' :: '?' :: ':' :: (facet ++ closing) := by
    simp [closing]
  have length : ('^' :: '(' :: '?' :: ':' :: (facet ++ closing)).length = facet.length + 6 :=
    by simp [closing]
  rw [readFrom, text, length, body_frame]
  simp only [groupEnd_run]
  congr
  funext result
  obtain ⟨r, s⟩ := result
  split <;> rfl

/-- The assertion of the end is all that remains after the parenthesis of the frame. -/
theorem body_dollar (count : Nat) (branches items : List Reading) (s : State) :
    (body (count + 2) branches items).run { s with rest := ['$'], flags := {} } =
      some (Reader.choice branches ({ pattern := .look .textEnd, depth := 0 } :: items),
        { s with rest := [], flags := {} }) :=
  rfl

/-- The parts of the frame in sequence. -/
theorem choice_frame (r : Reading) :
    Reader.choice [] [{ pattern := .look .textEnd, depth := 0 }, grouped none r,
    { pattern := .look .textStart, depth := 0 }] =
      { pattern := framed r.pattern, depth := r.depth + 2 } := by
  have depth : 1 + max (max (max 0 0) (1 + r.depth)) 0 = r.depth + 2 := by omega
  exact congrArg (Reading.mk (framed r.pattern) · true) depth

/-- The ending that a frame gives to a facet. -/
def frameEnding (facet : List Char) : Ending := ⟨closing, .inl rfl, '#' ∈ facet⟩

theorem follows_inFrame (facet : List Char) :
    Follows (frameEnding facet) { rest := facet, length := facet.length } (inFrame facet) where
  flags_eq := rfl
  nextGroup_eq := rfl
  names_eq := rfl
  within := Nat.le_refl _
  within' := by simp [inFrame, closing]
  signed := id
  rest_eq := .inl rfl

/-- A facet is read in its frame as it is read alone. -/
theorem readFrom_alike (facet : List Char) :
    Alike (frameEnding facet) (fun _ => Within ['$']) facet (readFrom facet)
      ((body (facet.length + 5) [] []).run (inFrame facet)) :=
  body_run_alike (follows_inFrame facet) (Nat.lt_succ_self _) (by simp [inFrame, closing])

/-- The length that bounds the reading makes no difference. -/
theorem body_run_length {text : List Char} {length length' count count' : Nat}
    (within : text.length ≤ length) (within' : text.length ≤ length')
    (enough : text.length < count) (enough' : text.length < count') {r : Reading} {t : State}
    (run : (body count [] []).run { rest := text, length } = some (r, t)) :
    ∃ t', (body count' [] []).run { rest := text, length := length' } = some (r, t') ∧
      t'.rest = t.rest := by
  have same : Follows ⟨[], .inr rfl, True⟩ { rest := text, length } { rest := text, length :=
    length' } :=
    ⟨rfl, rfl, rfl, within, within', fun _ => trivial, .inl (List.append_nil _).symm⟩
  have alike : Alike _ _ _ ((body count [] []).run _) ((body count' [] []).run _) :=
    body_run_alike same enough enough'
  rw [run] at alike
  obtain ⟨-, t', run', follows⟩ := alike
  refine ⟨t', run', ?_⟩
  rcases follows.rest_eq with eq | ⟨nil, nil', -⟩
  · rw [eq, List.append_nil]
  · rw [nil, nil']

theorem endsInComment_iff {facet : String} : endsInComment facet ↔
    ∃ r s, (body (facet.toList.length + 5) [] []).run (inFrame facet.toList) = some (r, s) ∧
      s.rest = [] := by
  have text : (facet ++ ")$").toList = facet.toList ++ closing := by simp [closing]
  simp only [endsInComment, Option.isSome_iff_exists, read?_eq_some_iff, readFrom, text]
  constructor
  · rintro ⟨r, s, run, ended⟩
    obtain ⟨s', run', same⟩ :
      ∃ s', (body (facet.toList.length + 5) [] []).run (inFrame facet.toList) = some (r, s') ∧
        s'.rest = s.rest :=
      body_run_length (Nat.le_refl _) (by simp [closing]) (Nat.lt_succ_self _)
        (by simp [closing]) run
    exact ⟨r, s', run', same.trans ended⟩
  · rintro ⟨r, s, run, ended⟩
    obtain ⟨s', run', same⟩ :=
      body_run_length (by simp [closing]) (Nat.le_refl _) (by simp [closing])
        (Nat.lt_succ_self _) run
    exact ⟨r, s', run', same.trans ended⟩

theorem read?_of_readFrom {text : String} (none_ : readFrom text.toList = none) :
    read? text = none := by
  rw [Option.eq_none_iff_forall_ne_some]
  intro r read
  obtain ⟨s, run, -⟩ := read?_eq_some_iff.1 read
  cases none_.symm.trans run

/-- **What is read of a framed facet.** Unless the facet has a parenthesis that closes the frame
itself, it is what is read of the facet alone, between assertions of the ends. A comment that is
open at the end of the facet hides the end of the frame. -/
theorem read?_frame {facet : String} (matched : closesGroup facet = false) :
    read? ("^(?:" ++ facet ++ ")$") = if endsInComment facet then none
      else (read? facet).map fun r => { pattern := framed r.pattern, depth := r.depth + 2 } := by
  have text : ("^(?:" ++ facet ++ ")$").toList = "^(?:".toList ++ facet.toList ++ ")$".toList :=
    by simp
  have alike := readFrom_alike facet.toList
  have frame := readFrom_frame facet.toList
  rw [← text] at frame
  have comment : endsInComment facet ↔ _ := endsInComment_iff
  cases run : readFrom facet.toList with
  | none =>
    have nothing : readFrom ("^(?:" ++ facet ++ ")$").toList = none := by
      rw [frame, Option.bind_eq_none_iff]
      rintro ⟨r, s⟩ lost
      rw [run] at alike
      refine if_neg fun closes => ?_
      obtain ⟨u, eq⟩ := List.head?_eq_some_iff.1 closes
      exact absurd ((alike r s lost).head_mem eq) (by decide)
    rw [read?_of_readFrom nothing, read?_of_readFrom run]
    split <;> rfl
  | some result =>
    obtain ⟨r, s⟩ := result
    rw [run] at alike
    obtain ⟨-, s', run', follows⟩ := alike
    have ended : s.rest = [] := by simpa [closesGroup, run] using matched
    have read : read? facet = some r := read?_eq_some_iff.2 ⟨s, run, ended⟩
    rw [run', Option.bind_some] at frame
    dsimp only at frame
    rcases follows.rest_eq with eq | ⟨-, nil, -⟩
    · have whole : s'.rest = closing := by rw [eq, ended]; rfl
      have open_ : endsInComment facet = false := by
        rw [Bool.eq_false_iff]
        intro closed
        obtain ⟨_, _, run'', nil⟩ := comment.1 closed
        cases run'.symm.trans run''
        cases whole.symm.trans nil
      have tail : s'.rest.drop 1 = ['$'] := by rw [whole]; rfl
      have dollar := body_dollar (facet.toList.length + 3) []
        [grouped none r, { pattern := .look .textStart, depth := 0 }] s'
      rw [if_pos (by rw [whole]; rfl), tail, dollar, choice_frame] at frame
      rw [open_, read, if_neg Bool.false_ne_true]
      exact read?_eq_some_iff.2 ⟨_, frame, rfl⟩
    · have closed : endsInComment facet := comment.2 ⟨r, s', run', nil⟩
      rw [if_neg (by rw [nil]; exact nofun)] at frame
      rw [closed, if_pos rfl]
      exact read?_of_readFrom frame

/-- A comment needs a number sign. -/
theorem mem_of_endsInComment {facet : String} {r : Reading} (read : read? facet = some r)
    (comment : endsInComment facet) : '#' ∈ facet.toList := by
  obtain ⟨s, run, -⟩ := read?_eq_some_iff.1 read
  obtain ⟨r', s', run', nil⟩ := endsInComment_iff.1 comment
  have alike := readFrom_alike facet.toList
  rw [run, run'] at alike
  obtain ⟨-, _, same, follows⟩ := alike
  cases same
  rcases follows.rest_eq with eq | ⟨-, -, signed⟩
  · have whole : s.rest ++ closing = [] := eq.symm.trans nil
    simp [closing] at whole
  · exact signed

/-- What is read of a facet alone, however large, if it is read of the facet in its frame, too: no
comment is open at its end, and the frame has room for it. -/
structure IsFrameable (facet : String) (r : Reading) : Prop where
  read : read? facet = some r
  closed : endsInComment facet = false
  fits : fitsFrame r

/-- A frame can be put around a facet that is read by itself and has no number sign, if it fits. -/
theorem isFrameable_of_notMem {facet : String} {r : Reading} (read : read? facet = some r)
    (unsigned : '#' ∉ facet.toList) (fits : fitsFrame r) : IsFrameable facet r where
  read := read
  closed := Bool.eq_false_iff.2 fun comment => unsigned (mem_of_endsInComment read comment)
  fits := fits

/-- **The pattern of a facet** whose parentheses match. -/
theorem ofFacet?_eq_some_iff {facet : String} {p : Pattern} (matched : closesGroup facet = false) :
    ofFacet? facet = some p ↔ ∃ r, IsFrameable facet r ∧ framed r.pattern = p := by
  rw [ofFacet?, parse?, read?_frame matched]
  constructor
  · intro h
    obtain ⟨r', found, fits⟩ := Option.bind_eq_some_iff.1 h
    obtain ⟨closed, mapped⟩ := Option.ite_none_left_eq_some.1 found
    obtain ⟨r, read, rfl⟩ := Option.map_eq_some_iff.1 mapped
    obtain ⟨fits, same⟩ := Option.ite_none_right_eq_some.1 fits
    refine ⟨r, ⟨read, Bool.eq_false_iff.2 closed, ?_⟩, Option.some.inj same⟩
    simpa [fitsFrame] using fits
  · rintro ⟨r, ⟨read, closed, fits⟩, rfl⟩
    rw [closed, read, if_neg Bool.false_ne_true]
    refine if_pos ?_
    simpa [fitsFrame] using fits

end SchemaBinding.Pattern
