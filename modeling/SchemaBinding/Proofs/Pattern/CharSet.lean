import SchemaBinding.Pattern.CharSet
import SchemaBinding.Proofs.Text.Category

/-!
# The members of sets of characters

The operations on sets of characters bring in no members from elsewhere
(`exists_of_contains_unionAll`, `contains_of_symmetricDifference`), and a set of
categories has only characters of these categories (`categoryOf_mem`), since
searching the table for a character finds the run that it lies in.

Every blank is a separator or a control character (`categoryOf_of_isBlank`).
These have runs of their own in the table (`ofCategories_separators`), which is
read once. So neither letters nor the characters of words are blank
(`IsSolid.letters`, `IsSolid.word`).
-/

namespace SchemaBinding.CharSet

open Text

/-! ## Runs -/

/-- Whether a code point is in one of some runs. -/
def Covers (runs : List (Nat × Nat)) (n : Nat) : Prop := ∃ run ∈ runs, run.1 ≤ n ∧ n ≤ run.2

variable {n : Nat} {c : Char}

theorem contains_iff {s : CharSet} : s.contains c ↔ Covers s.runs c.toNat := by
  simp [contains, Covers]

theorem covers_cons {run : Nat × Nat} {rest : List (Nat × Nat)} :
    Covers (run :: rest) n ↔ run.1 ≤ n ∧ n ≤ run.2 ∨ Covers rest n := by
  simp [Covers]

theorem not_covers_nil : ¬ Covers [] n := by
  simp [Covers]

/-- Joining runs adds nothing. -/
theorem covers_of_join {runs : List (Nat × Nat)} (h : Covers (join runs) n) : Covers runs n := by
  fun_induction join runs with
  | case1 a b c d rest near ih =>
    rw [covers_cons, covers_cons]
    rcases covers_cons.1 (ih h) with ⟨low, high⟩ | later
    · rcases Nat.lt_or_ge b n with behind | before
      · exact .inr (.inl ⟨by omega, by omega⟩)
      · exact .inl ⟨low, before⟩
    · exact .inr (.inr later)
  | case2 a b c d rest apart ih => exact covers_cons.2 ((covers_cons.1 h).imp_right ih)
  | case3 short => exact h

theorem covers_of_ofRuns {runs : List (Nat × Nat)} (h : Covers (ofRuns runs).runs n) :
    Covers runs n := by
  obtain ⟨run, mem, within⟩ := covers_of_join h
  exact ⟨run, (List.mergeSort_perm ..).mem_iff.1 mem, within⟩

/-- **A member of a union** is a member of one of the sets. -/
theorem exists_of_contains_unionAll {sets : List CharSet} (h : (unionAll sets).contains c) :
    ∃ s ∈ sets, s.contains c := by
  obtain ⟨run, mem, within⟩ := covers_of_ofRuns (contains_iff.1 h)
  obtain ⟨s, set, mem⟩ := List.mem_flatMap.1 mem
  exact ⟨s, set, contains_iff.2 ⟨run, mem, within⟩⟩

theorem previous_le (n : Nat) : previous n ≤ n := by
  unfold previous
  split <;> omega

theorem le_next (n : Nat) : n ≤ next n := by
  unfold next
  split <;> omega

/-- What remains of some runs was in them. -/
theorem covers_of_remainder {r s : List (Nat × Nat)} (h : Covers (remainder r s) n) :
    Covers r n := by
  fun_induction remainder r s with
  | case1 => exact h
  | case2 => exact h
  | case3 a b r c d s below ih => exact ih h
  | case4 a b r c d s reaches above ih =>
    rw [covers_cons] at h ⊢
    exact h.imp_right ih
  | case5 a b r c d s reaches meets before ihRun ihRest =>
    have low : a ≤ next d := by
      have := le_next d
      omega
    have high : previous c ≤ b := by
      have := previous_le c
      omega
    rw [covers_cons]
    obtain ⟨run, mem, within⟩ := h
    rcases List.mem_append.1 mem with first | later
    · simp only [before, dite_eq_ite, List.mem_ite_nil_right, List.mem_singleton] at first
      obtain ⟨-, rfl⟩ := first
      exact .inl ⟨within.1, within.2.trans high⟩
    · split at later
      · rcases covers_cons.1 (ihRun ⟨run, later, within⟩) with rest | others
        · exact .inl ⟨low.trans rest.1, rest.2⟩
        · exact .inr others
      · exact .inr (ihRest ⟨run, later, within⟩)

/-- **A member of a symmetric difference** is a member of one of the two sets. -/
theorem contains_of_symmetricDifference {s t : CharSet} (h : (s.symmetricDifference t).contains c) :
    s.contains c ∨ t.contains c := by
  have union : (s.union t).contains c := contains_iff.2 (covers_of_remainder (contains_iff.1 h))
  obtain ⟨u, mem, inside⟩ := exists_of_contains_unionAll union
  simp only [List.mem_cons, List.not_mem_nil, or_false] at mem
  rcases mem with rfl | rfl
  · exact .inl inside
  · exact .inr inside

/-! ## Categories -/

/-- Whether a code point lies in a run of one of some categories: the last run that starts at it or
before. -/
def LiesIn (categories : List Category) (runs : List (Nat × Category)) (n : Nat) : Prop :=
  ∃ xs found ys, runs = xs ++ ys ∧ xs.getLast? = some found ∧ (∀ run ∈ xs, run.1 ≤ n) ∧
    (∀ run ∈ ys, n < run.1) ∧ found.2 ∈ categories

section

variable {categories : List Category}

theorem LiesIn.cons {run : Nat × Category} {rest : List (Nat × Category)}
    (h : LiesIn categories rest n) (sorted : ∀ later ∈ rest, run.1 < later.1) :
    LiesIn categories (run :: rest) n := by
  obtain ⟨xs, found, ys, rfl, last, before, after, mem⟩ := h
  refine ⟨run :: xs, found, ys, rfl, by rw [List.getLast?_cons, last]; rfl, ?_, after, mem⟩
  have later := List.mem_of_getLast? last
  have lt := sorted found (List.mem_append_left _ later)
  exact List.forall_mem_cons.2 ⟨lt.le.trans (before found later), before⟩

/-- The runs of some categories are in runs of the table, but for one that has begun before it. -/
theorem liesIn_of_categoryRuns {start : Option Nat} {runs : List (Nat × Category)}
    (sorted : runs.Pairwise (·.1 < ·.1)) (begun : ∀ b ∈ start, ∀ run ∈ runs, b < run.1)
    (h : Covers (categoryRuns categories start runs) n) :
    (∃ b ∈ start, b ≤ n ∧ ∀ run ∈ runs, n < run.1) ∨ LiesIn categories runs n := by
  induction runs generalizing start with
  | nil =>
    cases start with
    | none => exact absurd h not_covers_nil
    | some b =>
      obtain ⟨run, mem, within⟩ := h
      obtain rfl := List.mem_singleton.1 mem
      exact .inl ⟨b, rfl, within.1, List.forall_mem_nil _⟩
  | cons run rest ih =>
    obtain ⟨a, category⟩ := run
    obtain ⟨behind, sorted⟩ := List.pairwise_cons.1 sorted
    have here (above : ∀ later ∈ rest, n < later.1) (low : a ≤ n)
      (member : categories.contains category) :
        LiesIn categories ((a, category) :: rest) n :=
      ⟨[(a, category)], (a, category), rest, rfl, rfl, List.forall_mem_singleton.2 low, above,
        List.contains_iff_mem.1 member⟩
    have elsewhere (later : Covers (categoryRuns categories none rest) n) :
        LiesIn categories ((a, category) :: rest) n := by
      rcases ih sorted (by simp) later with ⟨_, none_, -⟩ | lies
      · cases none_
      · exact lies.cons behind
    have ahead (low : n < a) : ∀ run ∈ (a, category) :: rest, n < run.1 :=
      List.forall_mem_cons.2 ⟨low, fun later mem => low.trans (behind later mem)⟩
    unfold categoryRuns at h
    split at h
    · next b member =>
      rcases ih sorted
        (fun b mem run later => begun b mem run (List.mem_cons_of_mem _ later)) h with
        ⟨b', same, low, above⟩ | lies
      · rcases Nat.lt_or_ge n a with before | after
        · exact .inl ⟨b', same, low, ahead before⟩
        · exact .inr (here above after member)
      · exact .inr (lies.cons behind)
    · next b _ =>
      rcases covers_cons.1 h with ⟨low, high⟩ | later
      · have := begun b rfl _ (List.mem_cons_self ..)
        exact .inl ⟨b, rfl, low, ahead (by omega)⟩
      · exact .inr (elsewhere later)
    · next member =>
      rcases ih sorted (fun b same run later => Option.mem_some.1 same ▸ behind run later) h with
        ⟨_, same, low, above⟩ | lies
      · cases same
        exact .inr (here above low member)
      · exact .inr (lies.cons behind)
    · exact .inr (elsewhere h)

theorem toList_categoryRuns : Text.categoryRuns.toList = readRuns 0 none 0 categoryTable.toList :=
  List.toList_toArray

/-- **A member of a set of categories** has one of these categories. -/
theorem categoryOf_mem (h : (ofCategories categories).contains c) : categoryOf c ∈ categories := by
  have sorted : Text.categoryRuns.toList.Pairwise (·.1 < ·.1) := by
    rw [toList_categoryRuns]
    exact pairwise_readRuns ..
  have covered := contains_iff.1 h
  simp only [ofCategories] at covered
  have begun : ∀ b ∈ (none : Option Nat), ∀ run ∈ Text.categoryRuns.toList, b < run.1 := by simp
  rcases liesIn_of_categoryRuns sorted begun covered with
    ⟨_, none_, -⟩ | ⟨xs, found, ys, split, last, before, after, mem⟩
  · cases none_
  · have table : Text.categoryRuns = (xs ++ ys).toArray := by
      rw [← split, Array.toArray_toList]
    rw [categoryOf, table, searchRuns_toArray_append last before after]
    exact mem

end

/-! ## Separators and control characters -/

/-- The categories of blanks. -/
def separators : List Category := [.control, .spaceSeparator, .lineSeparator, .paragraphSeparator]

/-- The runs of separators and control characters. -/
def separatorRuns : List (Nat × Nat) :=
  [(0, 0x20), (0x7F, 0xA0), (0x1680, 0x1680), (0x2000, 0x200A), (0x2028, 0x2029), (0x202F, 0x202F),
   (0x205F, 0x205F), (0x3000, 0x3000)]

/-- The characters of a text that ends in a row of characters and is followed by others. -/
theorem toList_append_ofList {s : String} {cs others l : List Char}
    (h : s.toList ++ (cs ++ others) = l) :
    (s ++ String.ofList cs).toList ++ others = l := by
  rw [String.toList_append, String.toList_ofList, List.append_assoc, h]

theorem toList_ofList_append {cs others : List Char} :
    (String.ofList cs).toList ++ others = cs ++ others := by
  rw [String.toList_ofList]

set_option maxRecDepth 4000 in
/-- Reading the table gives the runs of separators and control characters. -/
theorem ofCategories_separators : ofCategories separators = ⟨separatorRuns⟩ := by
  have table : ∃ cs, categoryTable.toList ++ [] = cs ∧
      categoryRuns separators none (readRuns 0 none 0 cs) = separatorRuns := by
    apply Exists.intro
    apply And.intro
    · unfold categoryTable
      iterate 77 apply toList_append_ofList
      exact toList_ofList_append
    · decide
  obtain ⟨cs, same, runs⟩ := table
  rw [List.append_nil] at same
  rw [ofCategories, toList_categoryRuns, same, runs]

/-- Every blank is a separator or a control character. -/
theorem covers_of_isBlank (blank : isBlank c) : Covers separatorRuns c.toNat := by
  simp only [isBlank, Bool.or_eq_true, Bool.and_eq_true, decide_eq_true_eq, beq_iff_eq] at blank
  simp only [separatorRuns, covers_cons, not_covers_nil, or_false]
  omega

/-- The category of a blank is one of separators or control characters. -/
theorem categoryOf_of_isBlank (blank : isBlank c) : categoryOf c ∈ separators :=
  categoryOf_mem (contains_iff.2 (ofCategories_separators ▸ covers_of_isBlank blank))

/-! ## Sets without blanks -/

/-- Whether no member of a set is blank. -/
def IsSolid (s : CharSet) : Prop := ∀ c, s.contains c → isBlank c = false

namespace IsSolid

theorem single {d : Char} (solid : isBlank d = false) : IsSolid (single d) := by
  intro c mem
  have same : c.toNat = d.toNat := by
    simp only [contains, CharSet.single, List.any_cons, List.any_nil, Bool.or_false,
      Bool.and_eq_true, decide_eq_true_eq] at mem
    omega
  simpa only [isBlank, same] using solid

/-- The printed characters of ASCII are not blank. -/
theorem range {low high : Char} (printed : 0x20 < low.toNat ∧ high.toNat < 0x7F) :
    IsSolid (range low high) := by
  intro c mem
  have within : low.toNat ≤ c.toNat ∧ c.toNat ≤ high.toNat := by
    simpa [contains, CharSet.range] using mem
  simp only [isBlank, Bool.or_eq_false_iff, Bool.and_eq_false_iff, decide_eq_false_iff_not,
    beq_eq_false_iff_ne]
  omega

theorem unionAll {sets : List CharSet} (solid : ∀ s ∈ sets, IsSolid s) :
    IsSolid (unionAll sets) := by
  intro c mem
  obtain ⟨s, part, inside⟩ := exists_of_contains_unionAll mem
  exact solid s part c inside

/-- A set of categories that are not those of blanks has no blanks. -/
theorem ofCategories {categories : List Category} (other : ∀ k ∈ separators, k ∉ categories) :
    IsSolid (ofCategories categories) := by
  intro c mem
  rw [Bool.eq_false_iff]
  exact fun blank => other _ (categoryOf_of_isBlank blank) (categoryOf_mem mem)

/-- A property has no blanks if neither its categories nor its exceptions have any. -/
theorem ofProperty {name : String} {m : Membership} (named : binaryProperty? name = some m)
    (other : ∀ k ∈ separators, k ∉ m.categories)
    (apart : ∀ run ∈ spans m.exceptions, ∀ blanks ∈ separatorRuns,
      run.2 < blanks.1 ∨ blanks.2 < run.1) :
    IsSolid (ofProperty name) := by
  intro c mem
  rw [CharSet.ofProperty, named] at mem
  rcases contains_of_symmetricDifference mem with inside | exception
  · exact ofCategories other c inside
  · rw [Bool.eq_false_iff]
    intro blank
    obtain ⟨run, excepted, low, high⟩ := contains_iff.1 exception
    obtain ⟨blanks, separator, low', high'⟩ := covers_of_isBlank blank
    have := apart run excepted blanks separator
    omega

theorem letters : IsSolid (CharSet.ofCategories letters) := ofCategories (by decide)

set_option maxRecDepth 4000 in
theorem alphabetic : IsSolid (CharSet.ofProperty "alphabetic") := by
  have entry : ∃ m cs, binaryProperty? "alphabetic" = some m ∧
      (∀ k ∈ separators, k ∉ m.categories) ∧
      m.exceptions.toList ++ [] = cs ∧
      ∀ run ∈ readSpans 0 none 0 cs, ∀ blanks ∈ separatorRuns,
        run.2 < blanks.1 ∨ blanks.2 < run.1 := by
    apply Exists.intro
    apply Exists.intro
    refine And.intro rfl (And.intro (by decide) (And.intro ?_ ?_))
    · iterate 6 apply toList_append_ofList
      exact toList_ofList_append
    · decide
  obtain ⟨m, cs, named, other, same, apart⟩ := entry
  rw [List.append_nil] at same
  refine ofProperty named other ?_
  rw [spans, same]
  exact apart

theorem joinControl : IsSolid (CharSet.ofProperty "joincontrol") := by
  have entry : ∃ m, binaryProperty? "joincontrol" = some m ∧ (∀ k ∈ separators, k ∉ m.categories) ∧
      ∀ run ∈ spans m.exceptions, ∀ blanks ∈ separatorRuns, run.2 < blanks.1 ∨ blanks.2 < run.1 :=
    ⟨_, rfl, by decide, by decide⟩
  obtain ⟨m, named, other, apart⟩ := entry
  exact ofProperty named other apart

/-- **The characters of words** are not blank. -/
theorem word : IsSolid word := by
  refine unionAll ?_
  simp only [List.forall_mem_cons, List.not_mem_nil, false_imp_iff, implies_true, and_true]
  exact ⟨alphabetic, joinControl, ofCategories (by decide)⟩

end IsSolid

end SchemaBinding.CharSet
