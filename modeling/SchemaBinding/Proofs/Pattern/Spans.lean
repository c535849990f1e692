import Mathlib.Data.List.Basic
import Mathlib.Logic.Function.Iterate
import SchemaBinding.Pattern.Syntax

/-!
# The spans that a pattern describes

A pattern describes spans of a text, each from a place to a place: `Spans` says
which, by recursion over the pattern and without reference to how they are
found. `ends` finds exactly them (`mem_ends_iff`), although it repeats a part
only as often as the text has characters: steps that stand still can be left out
of a row of spans (`Row.exists_le`), and every other one passes a character. A
pattern put between the two ends of the text describes the whole text or nothing
(`matchesIn_framed_iff`).
-/

namespace SchemaBinding.Pattern

/-! ## Rows of spans -/

/-- `count` spans in a row: each begins where the one before it ends. -/
def Row (span : Nat → Nat → Prop) : (count i j : Nat) → Prop
  | 0, i, j => i = j
  | count + 1, i, j => ∃ k, span i k ∧ Row span count k j

namespace Row

variable {span : Nat → Nat → Prop} {count more i j k : Nat}

/-- Rows that meet are one row. -/
theorem append (first : Row span count i j) (rest : Row span more j k) :
    Row span (count + more) i k := by
  induction count generalizing i with
  | zero =>
    cases first
    rwa [Nat.zero_add]
  | succ count ih =>
    obtain ⟨m, step, later⟩ := first
    rw [Nat.add_right_comm]
    exact ⟨m, step, ih later⟩

/-- A row can be parted anywhere. -/
theorem exists_of_add (row : Row span (count + more) i k) :
    ∃ j, Row span count i j ∧ Row span more j k := by
  induction count generalizing i with
  | zero => exact ⟨i, rfl, Nat.zero_add more ▸ row⟩
  | succ count ih =>
    rw [Nat.add_right_comm] at row
    obtain ⟨m, step, later⟩ := row
    obtain ⟨j, first, rest⟩ := ih later
    exact ⟨j, ⟨m, step, first⟩, rest⟩

/-- A row is also read from its last span on. -/
theorem succ_iff : Row span (count + 1) i j ↔ ∃ k, Row span count i k ∧ span k j := by
  constructor
  · intro row
    obtain ⟨k, first, m, step, rfl⟩ := exists_of_add row
    exact ⟨k, first, step⟩
  · rintro ⟨k, first, step⟩
    exact first.append ⟨j, step, rfl⟩

/-- Spans that do not stand still pass a place each, and end within the text. -/
theorem exists_le (size : Nat) (bounded : ∀ {i j}, span i j → i = j ∨ (i < j ∧ j ≤ size))
    (row : Row span count i j) : ∃ fewer ≤ count, Row span fewer i j ∧ fewer ≤ size - i := by
  induction count generalizing i with
  | zero => exact ⟨0, Nat.le_refl _, row, Nat.zero_le _⟩
  | succ count ih =>
    obtain ⟨k, step, rest⟩ := row
    obtain ⟨fewer, le, rest, small⟩ := ih rest
    obtain rfl | ⟨lt, within⟩ := bounded step
    · exact ⟨fewer, by omega, rest, small⟩
    · exact ⟨fewer + 1, by omega, ⟨k, step, rest⟩, by omega⟩

/-- A place within a row of spans is within one of them. -/
theorem exists_around (row : Row span count i j) (after : i ≤ k) (before : k < j) :
    ∃ i' j', span i' j' ∧ i' ≤ k ∧ k < j' := by
  induction count generalizing i with
  | zero =>
    cases row
    omega
  | succ count ih =>
    obtain ⟨m, step, rest⟩ := row
    rcases Nat.lt_or_ge k m with first | later
    · exact ⟨i, m, step, after, first⟩
    · exact ih rest later

end Row

/-! ## Spans -/

/-- Whether a pattern describes the span of a text from the place `i` to the place `j`. -/
def Spans (text : Array Char) : Pattern → (i j : Nat) → Prop
  | .empty, i, j => i = j
  | .literal cs, i, j => cs <+: text.toList.drop i ∧ j = i + cs.length
  | .set _ s, i, j => (∃ c, text[i]? = some c ∧ s.contains c) ∧ j = i + 1
  | .look l, i, j => l.holds (if i = 0 then none else text[i - 1]?) text[i]? ∧ i = j
  | .seq p q, i, j => ∃ k, p.Spans text i k ∧ q.Spans text k j
  | .alt p q, i, j => p.Spans text i j ∨ q.Spans text i j
  | .repeated p least most _, i, j => ∃ more, (∀ most' ∈ most, more ≤ most' - least) ∧
      Row (p.Spans text) (least + more) i j
  | .group _ p, i, j => p.Spans text i j

section Constructors

variable {text : Array Char} {p q : Pattern} {i j : Nat}

/-- Nothing spans no characters. -/
theorem spans_empty : empty.Spans text i j ↔ i = j := Iff.rfl

/-- A literal spans its own characters. -/
theorem spans_literal {cs : List Char} :
    (literal cs).Spans text i j ↔ cs <+: text.toList.drop i ∧ j = i + cs.length := Iff.rfl

/-- A set spans one character that it contains. -/
theorem spans_set {bytes : Bool} {s : CharSet} :
    (set bytes s).Spans text i j ↔ (∃ c, text[i]? = some c ∧ s.contains c) ∧ j = i + 1 := Iff.rfl

/-- An assertion spans no characters where it holds. -/
theorem spans_look {l : Look} :
    (look l).Spans text i j ↔ l.holds (if i = 0 then none else text[i - 1]?) text[i]? ∧
      i = j := Iff.rfl

/-- One pattern after the other spans what both span in a row. -/
theorem spans_seq : (seq p q).Spans text i j ↔ ∃ k, p.Spans text i k ∧ q.Spans text k j := Iff.rfl

/-- An alternative spans what either pattern spans. -/
theorem spans_alt : (alt p q).Spans text i j ↔ p.Spans text i j ∨ q.Spans text i j := Iff.rfl

/-- A repetition spans as many in a row as its bounds allow. -/
theorem spans_repeated {least : Nat} {most : Option Nat} {greedy : Bool} :
    (repeated p least most greedy).Spans text i j ↔ ∃ more, (∀ most' ∈ most, more ≤ most' - least) ∧
      Row (p.Spans text) (least + more) i j := Iff.rfl

end Constructors

variable {text : Array Char}

/-- What comes next in a text does not go past its end. -/
theorem length_le_of_isPrefix_drop {cs : List Char} {i : Nat} (h : cs <+: text.toList.drop i) :
    cs = [] ∨ i + cs.length ≤ text.size := by
  have le := h.length_le
  rw [List.length_drop, text.length_toList] at le
  cases cs with
  | nil => exact .inl rfl
  | cons =>
    simp only [List.length_cons] at le ⊢
    omega

/-- A span is empty, or it ends within the text. -/
theorem Spans.le {p : Pattern} {i j : Nat} (h : p.Spans text i j) :
    i = j ∨ (i < j ∧ j ≤ text.size) := by
  induction p generalizing i j with
  | empty => exact .inl h
  | literal cs =>
    obtain ⟨at_i, rfl⟩ := h
    have within := length_le_of_isPrefix_drop at_i
    rcases cs with - | ⟨c, cs⟩
    · exact .inl rfl
    · simp only [List.length_cons, reduceCtorEq, false_or] at within ⊢
      omega
  | set _ s =>
    obtain ⟨⟨c, found, -⟩, rfl⟩ := h
    have := (Array.getElem?_eq_some_iff.1 found).1
    omega
  | look l => exact .inl h.2
  | seq p q ihp ihq =>
    obtain ⟨k, first, rest⟩ := h
    have := ihp first
    have := ihq rest
    omega
  | alt p q ihp ihq => exact h.elim ihp ihq
  | repeated p least most _ ih =>
    obtain ⟨more, -, row⟩ := h
    generalize least + more = count at row
    induction count generalizing i with
    | zero => exact .inl row
    | succ count ihc =>
      obtain ⟨k, step, rest⟩ := row
      have := ih step
      have := ihc rest
      omega
  | group _ p ih => exact ih h

/-- Whether some part of a pattern reads a character. -/
def reads (c : Char) : Pattern → Bool
  | .empty | .look _ => false
  | .literal cs => cs.contains c
  | .set _ s => s.contains c
  | .seq p q | .alt p q => p.reads c || q.reads c
  | .repeated p _ _ _ | .group _ p => p.reads c

/-- Every character of a span is read by some part of the pattern. -/
theorem Spans.reads {p : Pattern} {i j k : Nat} {c : Char} (h : p.Spans text i j) (after : i ≤ k)
    (before : k < j) (found : text[k]? = some c) : p.reads c := by
  induction p generalizing i j with
  | empty =>
    cases h
    omega
  | literal cs =>
    obtain ⟨at_i, rfl⟩ := h
    obtain ⟨d, rfl⟩ := Nat.exists_eq_add_of_le after
    have inside : d < cs.length := by omega
    have same := List.prefix_iff_getElem?.1 at_i d inside
    rw [List.getElem?_drop, Array.getElem?_toList, found] at same
    exact List.contains_iff_mem.2 (Option.some.inj same ▸ List.getElem_mem inside)
  | set _ s =>
    obtain ⟨⟨d, at_i, mem⟩, rfl⟩ := h
    obtain rfl : k = i := by omega
    cases found.symm.trans at_i
    exact mem
  | look l =>
    obtain ⟨-, rfl⟩ := h
    omega
  | seq p q ihp ihq =>
    obtain ⟨m, first, rest⟩ := h
    rw [Pattern.reads, Bool.or_eq_true]
    rcases Nat.lt_or_ge k m with before' | after'
    · exact .inl (ihp first after before')
    · exact .inr (ihq rest after' before)
  | alt p q ihp ihq =>
    rw [Pattern.reads, Bool.or_eq_true]
    exact h.imp (ihp · after before) (ihq · after before)
  | repeated p least most _ ih =>
    obtain ⟨more, -, row⟩ := h
    obtain ⟨i', j', span, after', before'⟩ := row.exists_around after before
    exact ih span after' before'
  | group _ p ih => exact ih h after before

/-! ## Finding the ends of spans -/

/-- Merged places are those of both lists. -/
theorem mem_merge {a b : List Nat} {j : Nat} : j ∈ merge a b ↔ j ∈ a ∨ j ∈ b := by
  fun_induction merge a b <;> grind

/-- Stopping where nothing changes any more makes no difference. -/
theorem iterate_eq (step : List Nat → List Nat) (count : Nat) (places : List Nat) :
    iterate step count places = step^[count] places := by
  induction count generalizing places with
  | zero => rfl
  | succ count ih =>
    simp only [iterate]
    split
    · next fixed => rw [Function.iterate_fixed fixed]
    · rw [ih, Function.iterate_succ_apply]

section Steps

variable {step : List Nat → List Nat} {span : Nat → Nat → Prop}

/-- A step that is repeated leads where as many in a row do. -/
theorem mem_iterate_iff (mem_step : ∀ {places j}, j ∈ step places ↔ ∃ i ∈ places, span i j)
    {count : Nat} {places : List Nat} {j : Nat} :
    j ∈ iterate step count places ↔ ∃ i ∈ places, Row span count i j := by
  rw [iterate_eq]
  induction count generalizing j with
  | zero => simp [Row]
  | succ count ih =>
    simp only [Function.iterate_succ_apply', mem_step, ih, Row.succ_iff]
    grind

/-- A step that is repeated at most so often leads where any number of them in a row does. -/
theorem mem_reach_iff (mem_step : ∀ {places j}, j ∈ step places ↔ ∃ i ∈ places, span i j)
    {count : Nat} {places : List Nat} {j : Nat} :
    j ∈ reach step count places ↔ ∃ i ∈ places, ∃ fewer ≤ count, Row span fewer i j := by
  rw [reach, iterate_eq]
  induction count generalizing j with
  | zero => simp [Row]
  | succ count ih =>
    simp only [Function.iterate_succ_apply', mem_merge, mem_step, ih]
    constructor
    · rintro (⟨i, mem, fewer, le, row⟩ | ⟨k, ⟨i, mem, fewer, le, row⟩, last⟩)
      · exact ⟨i, mem, fewer, by omega, row⟩
      · exact ⟨i, mem, fewer + 1, by omega, Row.succ_iff.2 ⟨k, row, last⟩⟩
    · rintro ⟨i, mem, fewer, le, row⟩
      rcases fewer with - | fewer
      · exact .inl ⟨i, mem, 0, by omega, row⟩
      · obtain ⟨k, row, last⟩ := Row.succ_iff.1 row
        exact .inr ⟨k, ⟨i, mem, fewer, by omega, row⟩, last⟩

end Steps

/-- A literal is found where it comes next. -/
theorem isAt_iff {cs : List Char} {i : Nat} : isAt text i cs ↔ cs <+: text.toList.drop i := by
  induction cs generalizing i with
  | nil => simp [isAt]
  | cons c cs ih =>
    simp only [isAt, Bool.and_eq_true, beq_iff_eq, ih]
    by_cases within : i < text.size
    · have inside : i < text.toList.length := within
      rw [List.drop_eq_getElem_cons inside, List.cons_prefix_cons]
      simp [within, eq_comm]
    · have nothing : text[i]? = none := by simpa using within
      have nil : text.toList.drop i = [] := by simpa using within
      simp [nothing, nil]

/-- The ends that are found are those of the spans that the pattern describes. -/
theorem mem_ends_iff {p : Pattern} {places : List Nat} {j : Nat} :
    j ∈ p.ends text places ↔ ∃ i ∈ places, p.Spans text i j := by
  induction p generalizing places j with
  | empty => simp [ends, spans_empty]
  | literal cs =>
    simp only [ends, spans_literal, List.mem_filterMap, ← isAt_iff, Option.ite_none_right_eq_some,
      Option.some.injEq]
    grind
  | set _ s =>
    simp only [ends, spans_set, List.mem_filterMap]
    grind
  | look l =>
    simp only [ends, spans_look, List.mem_filter]
    grind
  | seq p q ihp ihq =>
    simp only [ends, spans_seq, ihp, ihq]
    grind
  | alt p q ihp ihq =>
    simp only [ends, spans_alt, mem_merge, ihp, ihq]
    grind
  | repeated p least most _ ih =>
    simp only [ends, spans_repeated, mem_reach_iff ih, mem_iterate_iff ih]
    constructor
    · rintro ⟨k, ⟨i, mem, first⟩, more, le, rest⟩
      refine ⟨i, mem, more, fun most' given => ?_, first.append rest⟩
      simp only [Option.mem_def] at given
      simp only [given] at le
      omega
    · rintro ⟨i, mem, more, le, row⟩
      obtain ⟨k, first, rest⟩ := Row.exists_of_add row
      -- A row longer than the text has spans that stand still.
      obtain ⟨fewer, less, rest, small⟩ := Row.exists_le text.size Spans.le rest
      refine ⟨k, ⟨i, mem, first⟩, fewer, ?_, rest⟩
      cases most with
      | none => simp only; omega
      | some most' =>
        have := le most' rfl
        simp only
        omega
  | group _ p ih => exact ih

/-! ## Sequences -/

/-- Patterns in a row span what the first one and the others span. -/
theorem spans_inSequence_cons {p : Pattern} {ps : List Pattern} {i j : Nat} :
    (inSequence (p :: ps)).Spans text i j ↔
      ∃ k, p.Spans text i k ∧ (inSequence ps).Spans text k j := by
  cases ps with
  | nil => simp [inSequence, spans_empty]
  | cons => rfl

/-- Rows of patterns span what they span one after the other. -/
theorem spans_inSequence_append {ps qs : List Pattern} {i j : Nat} :
    (inSequence (ps ++ qs)).Spans text i j
      ↔ ∃ k, (inSequence ps).Spans text i k ∧ (inSequence qs).Spans text k j := by
  induction ps generalizing i with
  | nil => simp [inSequence, spans_empty]
  | cons p ps ih =>
    simp only [List.cons_append, spans_inSequence_cons, ih]
    grind

/-- The parts of a pattern span what it spans. -/
theorem spans_parts {p : Pattern} {i j : Nat} :
    (inSequence p.parts).Spans text i j ↔ p.Spans text i j := by
  induction p generalizing i with
  | seq p q _ ihq => simp only [parts, spans_inSequence_cons, ihq, spans_seq]
  | _ => rfl

/-- Patterns may be replaced by their parts. -/
theorem spans_flatMap_parts {ps : List Pattern} {i j : Nat} :
    (inSequence (ps.flatMap parts)).Spans text i j ↔ (inSequence ps).Spans text i j := by
  induction ps generalizing i with
  | nil => rfl
  | cons p ps ih =>
    simp only [List.flatMap_cons, spans_inSequence_append, spans_parts, spans_inSequence_cons, ih]

/-- A literal spans what its beginning and its end span. -/
theorem spans_literal_append {first more : List Char} {i j : Nat} :
    (literal (first ++ more)).Spans text i j
      ↔ ∃ k, (literal first).Spans text i k ∧ (literal more).Spans text k j := by
  simp only [spans_literal, List.length_append]
  constructor
  · rintro ⟨⟨after, eq⟩, rfl⟩
    refine ⟨i + first.length, ⟨⟨more ++ after, by rw [← eq, List.append_assoc]⟩, rfl⟩,
      ⟨after, ?_⟩, by omega⟩
    rw [← List.drop_drop, ← eq, List.append_assoc, List.drop_left]
  · rintro ⟨_, ⟨⟨between, eq⟩, rfl⟩, ⟨after, rest⟩, rfl⟩
    refine ⟨⟨after, ?_⟩, by omega⟩
    rw [← List.drop_drop, ← eq, List.drop_left] at rest
    rw [← eq, ← rest, List.append_assoc]

/-- Joining literals does not change what is spanned. -/
theorem spans_joinLiterals {ps : List Pattern} {i j : Nat} :
    (inSequence (joinLiterals ps)).Spans text i j ↔ (inSequence ps).Spans text i j := by
  induction ps generalizing i with
  | nil => rfl
  | cons p ps ih =>
    rw [spans_inSequence_cons]
    simp only [joinLiterals]
    split
    · next joined =>
      simp only [← ih, joined, spans_inSequence_cons, spans_literal_append]
      grind
    · simp only [spans_inSequence_cons, ih]

/-- Patterns in sequence describe spans in a row. -/
theorem spans_sequence {ps : List Pattern} {i j : Nat} :
    (sequence ps).Spans text i j ↔ (inSequence ps).Spans text i j := by
  rw [sequence, spans_joinLiterals, spans_flatMap_parts]

/-! ## Whole texts -/

/-- A pattern matches where it describes a span of the text. -/
theorem matchesIn_iff {p : Pattern} {s : String} :
    p.matchesIn s ↔ ∃ i j, i ≤ s.length ∧ p.Spans s.toList.toArray i j := by
  have size : s.toList.toArray.size = s.length := String.length_toList
  simp only [matchesIn, Bool.not_eq_true', List.isEmpty_eq_false_iff_exists_mem, mem_ends_iff,
    List.mem_range, Nat.lt_succ_iff, size]
  exact exists_comm

/-- A pattern between the ends of the text matches where it describes the whole text. -/
theorem matchesIn_framed_iff {p : Pattern} {s : String} :
    (sequence [.look .textStart, p, .look .textEnd]).matchesIn s
      ↔ p.Spans s.toList.toArray 0 s.length := by
  have size : s.toList.toArray.size = s.length := String.length_toList
  simp only [matchesIn_iff, spans_sequence, inSequence, spans_seq, spans_look, Look.holds,
    Option.isNone_iff_eq_none, Array.getElem?_eq_none_iff, size]
  constructor
  · rintro ⟨i, _, within, _, ⟨start, rfl⟩, j, whole, stop, rfl⟩
    have first : i = 0 := by
      by_contra pos
      rw [if_neg pos, Array.getElem?_eq_none_iff] at start
      omega
    subst first
    have last : j = s.length := by
      have := whole.le
      omega
    exact last ▸ whole
  · intro whole
    exact ⟨0, s.length, Nat.zero_le _, 0, ⟨rfl, rfl⟩, s.length, whole, Nat.le_refl _, rfl⟩

end SchemaBinding.Pattern
