import SchemaBinding.Value.Whitespace

/-!
# White space that is treated once is treated

The words of a text have characters, none of them blank (`mem_words`), and words
that are joined by single spaces are found again (`words_joinWords`). So every
treatment of white space changes nothing when it is repeated (`apply_apply`),
and none changes a text without blanks (`apply_of_unblank`).
-/

namespace SchemaBinding

namespace Text

/-- Characters outside `p` prolong the run that is being read. -/
theorem runsFrom_append {p : Char → Bool} {added : List Char} (h : ∀ c ∈ added, p c = false)
    (word rest : List Char) :
    runsFrom p word (added ++ rest) = runsFrom p (word ++ added) rest := by
  induction added generalizing word with
  | nil => rw [List.nil_append, List.append_nil]
  | cons c added ih =>
    have hc : p c = false := h c (List.mem_cons_self ..)
    rw [List.cons_append, runsFrom, hc, if_neg Bool.false_ne_true, ih fun d hd =>
      h d (List.mem_cons_of_mem _ hd), List.append_assoc, List.singleton_append]

/-- A run is not empty and has no character in `p`. -/
theorem mem_runsFrom {p : Char → Bool} {word cs run : List Char} (hword : ∀ c ∈ word, p c = false)
    (h : run ∈ runsFrom p word cs) : run ≠ [] ∧ ∀ c ∈ run, p c = false := by
  induction cs generalizing word with
  | nil =>
    rw [runsFrom] at h
    split at h
    · cases h
    · next filled =>
      rw [List.mem_singleton] at h
      exact h ▸ ⟨fun empty => filled (List.isEmpty_iff.2 empty), hword⟩
  | cons c rest ih =>
    rw [runsFrom] at h
    split at h
    · split at h
      · exact ih (fun d hd => absurd hd List.not_mem_nil) h
      · next filled =>
        rcases List.mem_cons.1 h with rfl | later
        · exact ⟨fun empty => filled (List.isEmpty_iff.2 empty), hword⟩
        · exact ih (fun d hd => absurd hd List.not_mem_nil) later
    · next outside =>
      refine ih (fun d hd => ?_) h
      rcases List.mem_append.1 hd with old | new
      · exact hword d old
      · rw [List.mem_singleton.1 new]
        exact Bool.eq_false_iff.2 outside

/-- **The words of a text** have characters, and none of them is blank. -/
theorem mem_words {cs word : List Char} (h : word ∈ words cs) :
    word ≠ [] ∧ ∀ c ∈ word, isBlank c = false :=
  mem_runsFrom (fun _ hc => absurd hc List.not_mem_nil) h

/-- A text without blanks is one word, or none when it is empty. -/
theorem words_of_unblank {cs : List Char} (h : ∀ c ∈ cs, isBlank c = false) :
    words cs = if cs.isEmpty then [] else [cs] := by
  have one := runsFrom_append h [] []
  rw [List.append_nil, List.nil_append] at one
  rw [words, one, runsFrom]

/-- **Joined words are found again.** -/
theorem words_joinWords :
    ∀ {parts : List (List Char)}, (∀ word ∈ parts, word ≠ [] ∧ ∀ c ∈ word, isBlank c = false) →
    words (Whitespace.joinWords parts) = parts
  | [], _ => rfl
  | [word], h => by
    obtain ⟨filled, unblank⟩ := h word (List.mem_singleton_self _)
    rw [Whitespace.joinWords, words_of_unblank unblank, if_neg fun empty =>
      filled (List.isEmpty_iff.1 empty)]
  | word :: next :: rest, h => by
    obtain ⟨filled, unblank⟩ := h word (List.mem_cons_self ..)
    have later : words (Whitespace.joinWords (next :: rest)) = next :: rest :=
      words_joinWords fun other mem => h other (List.mem_cons_of_mem _ mem)
    rw [words] at later ⊢
    rw [Whitespace.joinWords, runsFrom_append unblank, List.nil_append, runsFrom, later,
      if_pos (by decide), if_neg fun empty => filled (List.isEmpty_iff.1 empty)]
    exact List.cons_ne_nil _ _

end Text

namespace Whitespace

/-- A tab and the end of a line are blank. -/
theorem not_isBreak_of_unblank {c : Char} (h : Text.isBlank c = false) : isBreak c = false := by
  rw [Bool.eq_false_iff] at h ⊢
  intro isBreak
  simp only [Whitespace.isBreak, Bool.or_eq_true, beq_iff_eq] at isBreak
  rcases isBreak with (rfl | rfl) | rfl <;> exact h (by decide)

/-- **Repeating a treatment changes nothing.** -/
theorem apply_apply (mode : Whitespace) (s : String) :
    mode.apply (mode.apply s) = mode.apply s := by
  rw [apply, apply, String.toList_ofList]
  congr 1
  cases mode with
  | preserve => rfl
  | replace =>
    refine (List.map_congr_left (g := id) fun c hc => ?_).trans (List.map_id _)
    rw [not_isBreak_of_mem_replace hc, if_neg Bool.false_ne_true, id]
  | collapse => rw [applyChars, applyChars, Text.words_joinWords fun _ => Text.mem_words]

/-- **A text without blanks is left as it is.** -/
theorem apply_of_unblank (mode : Whitespace) {s : String}
    (h : ∀ c ∈ s.toList, Text.isBlank c = false) :
    mode.apply s = s := by
  have same : mode.applyChars s.toList = s.toList := by
    cases mode with
    | preserve => rfl
    | replace =>
      refine (List.map_congr_left (g := id) fun c hc => ?_).trans (List.map_id _)
      rw [not_isBreak_of_unblank (h c hc), if_neg Bool.false_ne_true, id]
    | collapse =>
      rw [applyChars, Text.words_of_unblank h]
      split
      · next empty => rw [List.isEmpty_iff.1 empty]; rfl
      · rfl
  rw [apply, same, String.ofList_toList]

end Whitespace

end SchemaBinding
