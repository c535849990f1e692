import Mathlib.Data.List.DropRight
import SchemaBinding.Proofs.Value.Whitespace

/-!
# Collapsing by trimming and squeezing

Collapsing is described without words: the spaces at both ends go (`trimSpaces`),
and of every run of spaces one is left (`squeeze`). On a text that has no space
at its end, joining the runs without spaces is squeezing (`joinWords_runsFrom`),
and spaces at the end do not change the runs; so collapsing turns every blank
into a space, trims and squeezes (`applyChars_collapse`). It replaces, trims and
squeezes if and only if no other blanks than spaces, tabs and the ends of lines
occur (`applyChars_collapse_eq_iff`): neither trimming nor squeezing drops any
other character.
-/

namespace SchemaBinding

namespace Text

/-- Whether a character is a space. -/
def isSpace (c : Char) : Bool := c == ' '

/-- Drops the spaces at both ends. -/
def trimSpaces (cs : List Char) : List Char := (cs.rdropWhile isSpace).dropWhile isSpace

/-- Leaves one space of each run of spaces: one that is followed by another is dropped. -/
def squeeze : List Char → List Char
  | [] => []
  | c :: rest => if isSpace c && rest.head?.any isSpace then squeeze rest else c :: squeeze rest

/-! ## What trimming and squeezing keep -/

theorem isSpace_iff {c : Char} : isSpace c ↔ c = ' ' := beq_iff_eq

theorem mem_trimSpaces {c : Char} {cs : List Char} (other : c ≠ ' ') :
    c ∈ trimSpaces cs ↔ c ∈ cs := by
  have kept {l : List Char} : c ∈ l.dropWhile isSpace ↔ c ∈ l := by
    conv_rhs => rw [← List.takeWhile_append_dropWhile (p := isSpace) (l := l)]
    rw [List.mem_append]
    exact ⟨.inr, fun h => h.resolve_left fun space =>
      other (isSpace_iff.1 (List.mem_takeWhile_imp space))⟩
  rw [trimSpaces, kept, List.rdropWhile, List.mem_reverse, kept, List.mem_reverse]

theorem mem_squeeze {c : Char} {cs : List Char} : c ∈ squeeze cs ↔ c ∈ cs := by
  induction cs with
  | nil => rfl
  | cons d rest ih =>
    rw [squeeze]
    split
    · next twice =>
      obtain ⟨space, next⟩ := Bool.and_eq_true_iff.1 twice
      obtain ⟨e, head, space'⟩ := (Option.any_eq_true ..).1 next
      have same : d = e := (isSpace_iff.1 space).trans (isSpace_iff.1 space').symm
      rw [ih, List.mem_cons, or_iff_right_of_imp]
      rintro rfl
      exact same ▸ List.mem_of_head? head
    · rw [List.mem_cons, List.mem_cons, ih]

/-! ## Runs without spaces -/

theorem squeeze_cons {c : Char} {rest : List Char} (other : isSpace c = false) :
    squeeze (c :: rest) = c :: squeeze rest := by
  rw [squeeze, other, Bool.false_and, if_neg Bool.false_ne_true]

/-- Of the spaces at the beginning one is left. -/
theorem squeeze_space_cons (rest : List Char) :
    squeeze (' ' :: rest) = ' ' :: squeeze (rest.dropWhile isSpace) := by
  induction rest with
  | nil => rfl
  | cons c rest ih =>
    rw [squeeze]
    cases space : isSpace c with
    | true =>
      obtain rfl := isSpace_iff.1 space
      have twice : (isSpace ' ' && (' ' :: rest).head?.any isSpace) = true := rfl
      rw [if_pos twice, ih, List.dropWhile_cons_of_pos space]
    | false =>
      have single : ¬ (isSpace ' ' && (c :: rest).head?.any isSpace) = true := by simp [space]
      rw [if_neg single, List.dropWhile_cons_of_neg (Bool.eq_false_iff.1 space)]

section Runs

variable {p : Char → Bool} {word cs : List Char}

theorem runsFrom_concat {c : Char} (h : p c) :
    runsFrom p word (cs ++ [c]) = runsFrom p word cs := by
  induction cs generalizing word with
  | nil => simp [runsFrom, h]
  | cons d rest ih => simp only [List.cons_append, runsFrom, ih]

theorem runsFrom_rdropWhile : runsFrom p word (cs.rdropWhile p) = runsFrom p word cs := by
  induction cs using List.reverseRecOn with
  | nil => rfl
  | append_singleton rest c ih =>
    rw [List.rdropWhile_concat]
    split
    · next h => rw [ih, runsFrom_concat h]
    · rfl

/-- Where there are no runs, there are no characters outside `p`. -/
theorem of_runsFrom_eq_nil (h : runsFrom p word cs = []) : word = [] ∧ ∀ c ∈ cs, p c := by
  induction cs generalizing word with
  | nil =>
    rw [runsFrom, ite_eq_left_iff] at h
    exact ⟨List.isEmpty_iff.1 (by_contra fun filled => List.cons_ne_nil _ _ (h filled)),
      List.forall_mem_nil _⟩
  | cons c rest ih =>
    rw [runsFrom] at h
    by_cases hc : p c
    · rw [if_pos hc, ite_eq_iff] at h
      obtain ⟨empty, none_⟩ := h.resolve_right fun other => List.cons_ne_nil _ _ other.2
      exact ⟨List.isEmpty_iff.1 empty, List.forall_mem_cons.2 ⟨hc, (ih none_).2⟩⟩
    · rw [if_neg hc] at h
      cases List.append_ne_nil_of_right_ne_nil word (List.cons_ne_nil c []) (ih h).1

theorem joinWords_cons {runs : List (List Char)} (filled : runs ≠ []) :
    Whitespace.joinWords (word :: runs) = word ++ ' ' :: Whitespace.joinWords runs :=
  match runs, filled with
  | _ :: _, _ => rfl

/-- **Joining the runs is squeezing.** The runs of a text whose end is no space, joined by single
spaces, are the text with its spaces squeezed: from the word that is being read on, or from the
first character that is no space. -/
theorem joinWords_runsFrom (last : ∀ c ∈ cs.getLast?, isSpace c = false) :
    (∀ word ≠ [], Whitespace.joinWords (runsFrom isSpace word cs) = word ++ squeeze cs) ∧
      Whitespace.joinWords (runsFrom isSpace [] cs) = squeeze (cs.dropWhile isSpace) := by
  induction cs with
  | nil => exact ⟨fun word filled => by simp [runsFrom, filled, Whitespace.joinWords, squeeze], rfl⟩
  | cons c rest ih =>
    have last' : ∀ d ∈ rest.getLast?, isSpace d = false := fun d mem =>
      last d (by rw [List.getLast?_cons, Option.mem_def.1 mem]; rfl)
    obtain ⟨inside, outside⟩ := ih last'
    cases space : isSpace c with
    | false =>
      have grown (word : List Char) :
          Whitespace.joinWords (runsFrom isSpace word (c :: rest)) =
            word ++ squeeze (c :: rest) := by
        rw [runsFrom, if_neg (Bool.eq_false_iff.1 space), inside _ (by simp), squeeze_cons space,
          List.append_assoc, List.singleton_append]
      refine ⟨fun word _ => grown word, ?_⟩
      rw [grown, List.dropWhile_cons_of_neg (Bool.eq_false_iff.1 space)]
      rfl
    | true =>
      constructor
      · intro word filled
        have more : runsFrom isSpace [] rest ≠ [] := by
          intro none_
          have spaces := (of_runsFrom_eq_nil none_).2
          cases end_ : rest.getLast? with
          | none => simp [List.getLast?_cons, end_, space] at last
          | some d =>
            have := spaces d (List.mem_of_getLast? end_)
            simp [last' d end_] at this
        obtain rfl := isSpace_iff.1 space
        rw [runsFrom, if_pos space, if_neg (by simpa using filled), joinWords_cons more, outside,
          squeeze_space_cons]
      · rw [List.dropWhile_cons_of_pos space, ← outside, runsFrom, if_pos space]
        rfl

end Runs

/-- Joining the runs without spaces of any text is trimming and squeezing. -/
theorem joinWords_runsFrom_isSpace (cs : List Char) :
    Whitespace.joinWords (runsFrom isSpace [] cs) = squeeze (trimSpaces cs) := by
  have last : ∀ c ∈ (cs.rdropWhile isSpace).getLast?, isSpace c = false := by
    intro c last
    obtain ⟨filled, rfl⟩ := List.mem_getLast?_eq_getLast last
    exact Bool.eq_false_iff.2 (List.rdropWhile_last_not _ _ filled)
  rw [← runsFrom_rdropWhile, (joinWords_runsFrom last).2, trimSpaces]

/-- Runs without blanks are those without spaces, when blanks are made spaces. -/
theorem runsFrom_isBlank (word cs : List Char) :
    runsFrom isBlank word cs =
      runsFrom isSpace word (cs.map fun c => if isBlank c then ' ' else c) := by
  induction cs generalizing word with
  | nil => rfl
  | cons c rest ih =>
    rw [List.map_cons, runsFrom, runsFrom]
    cases blank : isBlank c with
    | true => simp only [if_true, ih, isSpace_iff.2]
    | false =>
      have other : isSpace c = false := by
        rw [Bool.eq_false_iff]
        intro space
        rw [isSpace_iff.1 space] at blank
        exact absurd blank (by decide)
      simp only [Bool.false_eq_true, if_false, other, ih]

end Text

namespace Whitespace

open Text

/-- **Collapsing** turns blanks into spaces, trims and squeezes. -/
theorem applyChars_collapse (cs : List Char) :
    applyChars .collapse cs =
      squeeze (trimSpaces (cs.map fun c => if isBlank c then ' ' else c)) := by
  rw [applyChars, words, runsFrom_isBlank, joinWords_runsFrom_isSpace]

/-- Collapsing leaves no blanks but spaces. -/
theorem eq_space_of_mem_collapse {c : Char} {cs : List Char} (mem : c ∈ applyChars .collapse cs)
    (blank : isBlank c) :
    c = ' ' := by
  by_contra other
  rw [applyChars_collapse, mem_squeeze, mem_trimSpaces other] at mem
  obtain ⟨d, -, eq⟩ := List.mem_map.1 mem
  split at eq
  · exact other eq.symm
  · next unblank => exact unblank (eq ▸ blank)

/-- **Collapsing after replacing** is trimming and squeezing, unless there are blanks that replacing
does not know. -/
theorem applyChars_collapse_eq_iff {cs : List Char} :
    applyChars .collapse cs = squeeze (trimSpaces (applyChars .replace cs)) ↔
      ∀ c ∈ cs, isBlank c → c = ' ' ∨ isBreak c := by
  constructor
  · intro same c mem blank
    by_contra other
    obtain ⟨noSpace, noBreak⟩ := not_or.1 other
    have kept : c ∈ squeeze (trimSpaces (applyChars .replace cs)) := by
      rw [mem_squeeze, mem_trimSpaces noSpace]
      exact List.mem_map.2 ⟨c, mem, if_neg noBreak⟩
    exact noSpace (eq_space_of_mem_collapse (same ▸ kept) blank)
  · intro known
    have same : (cs.map fun c => if isBlank c then ' ' else c) = applyChars .replace cs := by
      refine List.map_congr_left fun c mem => ?_
      cases blank : isBlank c with
      | true =>
        rcases known c mem blank with rfl | break_
        · rfl
        · rw [if_pos rfl, if_pos break_]
      | false => rw [not_isBreak_of_unblank blank]
    rw [applyChars_collapse, same]

/-- A text without tabs and ends of lines is left as it is by replacing. -/
theorem applyChars_replace_of_unbroken {cs : List Char} (unbroken : ∀ c ∈ cs, isBreak c = false) :
    applyChars .replace cs = cs := by
  refine (List.map_congr_left (g := id) fun c mem => ?_).trans (List.map_id _)
  rw [unbroken c mem, if_neg Bool.false_ne_true, id]

end Whitespace

end SchemaBinding
