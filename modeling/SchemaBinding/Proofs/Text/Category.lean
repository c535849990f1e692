import Mathlib.Data.List.TakeWhile
import SchemaBinding.Text.Category

/-!
# The category of a character

The search for a category halves the runs until one is left, and finds the last
run that does not start behind the character (`searchRuns_eq`). The runs that
are read from a text start one after the other (`le_of_mem_readRuns`), so the
runs of the ASCII characters can be read off the beginning of the table, whatever
comes after it: among these characters the decimal numbers are the ten digits
(`categoryOf_eq_decimalNumber_iff`).
-/

namespace SchemaBinding.Text

/-! ## Searching -/

/-- **The search finds the run at `i`** if the runs up to this one start at `n` or before, and those
after it behind. -/
theorem searchRuns_eq {runs : Array (Nat × Category)} {n i : Nat} {found : Nat × Category}
    (here : runs[i]? = some found) (before : ∀ j run, j ≤ i → runs[j]? = some run → run.1 ≤ n)
    (after : ∀ j run, i < j → runs[j]? = some run → n < run.1) {low count : Nat} (lo : low ≤ i)
    (hi : i < low + count) :
    searchRuns runs n low count = found.2 := by
  fun_induction searchRuns runs n low count with
  | case1 low => omega
  | case2 low =>
    obtain rfl : low = i := by omega
    rw [here]
    rfl
  | case3 low count half start category read le ih =>
    refine ih ?_ (by omega)
    by_contra behind
    exact absurd (after _ _ (Nat.not_le.1 behind) read) (Nat.not_lt.2 le)
  | case4 low count half start category read behind ih =>
    refine ih lo ?_
    by_contra le
    exact behind (before _ _ (Nat.not_lt.1 le) read)
  | case5 low count half none ih =>
    refine ih lo ?_
    by_contra le
    have inside : i < runs.size := (Array.getElem?_eq_some_iff.1 here).1
    have outside : runs.size ≤ low + half := Array.getElem?_eq_none_iff.1 none
    omega

/-- The run that is found is the last one that does not start behind `n`. -/
theorem searchRuns_toArray_append {xs ys : List (Nat × Category)} {n : Nat}
    {found : Nat × Category} (last : xs.getLast? = some found) (before : ∀ run ∈ xs, run.1 ≤ n)
    (after : ∀ run ∈ ys, n < run.1) :
    searchRuns (xs ++ ys).toArray n 0 (xs ++ ys).toArray.size = found.2 := by
  have filled : xs ≠ [] := by
    rintro rfl
    cases last
  have length : 0 < xs.length := List.length_pos_iff.2 filled
  refine searchRuns_eq (i := xs.length - 1) ?_ (fun j run le read => ?_) (fun j run lt read => ?_)
    (Nat.zero_le _) ?_
  · rw [List.getElem?_toArray, List.getElem?_append_left (by omega), ← List.getLast?_eq_getElem?]
    exact last
  · rw [List.getElem?_toArray, List.getElem?_append_left (by omega)] at read
    exact before run (List.mem_of_getElem? read)
  · rw [List.getElem?_toArray, List.getElem?_append_right (by omega)] at read
    exact after run (List.mem_of_getElem? read)
  · rw [List.size_toArray, List.length_append]
    omega

/-! ## Reading -/

/-- Runs start one after the other. -/
theorem le_of_mem_readRuns {cs : List Char} {start length : Nat} {category : Option Category}
    {run : Nat × Category} (h : run ∈ readRuns start category length cs) : start ≤ run.1 := by
  fun_induction readRuns start category length cs with
  | case1 start category length =>
    obtain ⟨_, -, rfl⟩ := Option.map_eq_some_iff.1 (Option.mem_toList.1 h)
    exact Nat.le_refl _
  | case2 start category length c rest digit ih => exact ih h
  | case3 start length c rest letter ih => exact ih h
  | case4 start length c rest letter known ih =>
    rcases List.mem_cons.1 h with rfl | later
    · exact Nat.le_refl _
    · have := ih later
      omega

/-- No two runs start at one place. -/
theorem pairwise_readRuns (start : Nat) (category : Option Category) (length : Nat)
    (cs : List Char) :
    (readRuns start category length cs).Pairwise (·.1 < ·.1) := by
  fun_induction readRuns start category length cs with
  | case1 start category length =>
    cases category with
    | none => exact .nil
    | some k => exact List.pairwise_singleton ..
  | case2 start category length c rest digit ih => exact ih
  | case3 start length c rest letter ih => exact ih
  | case4 start length c rest letter known ih =>
    refine List.pairwise_cons.2 ⟨fun run later => ?_, ih⟩
    have := le_of_mem_readRuns later
    omega

/-- The runs of the ASCII characters. -/
def asciiRuns : List (Nat × Category) :=
  [(0, .control), (32, .spaceSeparator), (33, .otherPunctuation), (36, .currencySymbol),
   (37, .otherPunctuation), (40, .openPunctuation), (41, .closePunctuation),
   (42, .otherPunctuation), (43, .mathSymbol), (44, .otherPunctuation), (45, .dashPunctuation),
   (46, .otherPunctuation), (48, .decimalNumber), (58, .otherPunctuation), (60, .mathSymbol),
   (63, .otherPunctuation), (65, .uppercaseLetter), (91, .openPunctuation), (92, .otherPunctuation),
   (93, .closePunctuation), (94, .modifierSymbol), (95, .connectorPunctuation),
   (96, .modifierSymbol), (97, .lowercaseLetter), (123, .openPunctuation), (124, .mathSymbol),
   (125, .closePunctuation), (126, .mathSymbol), (127, .control)]

/-- **The table begins with the ASCII characters**, and all other characters come after them. -/
theorem exists_categoryRuns :
    ∃ later, categoryRuns = (asciiRuns ++ later).toArray ∧ ∀ run ∈ later, 128 ≤ run.1 := by
  have opening :
      "Z32WR3TR3NORSRMR2I10R2S3R2A26NROULUB26NSOSZ33WRT4VRUVEPSaVUVSK2UBR2UKEQK3RA23SA7B24SB8ABAB" =
        "Z32WR3TR3NORSRMR2I10R2S3R2A26NROULUB26NSOSZ33W" ++
          "RT4VRUVEPSaVUVSK2UBR2UKEQK3RA23SA7B24SB8ABAB" := by decide +kernel
  have table : ∃ rest, categoryTable.toList =
    "Z32WR3TR3NORSRMR2I10R2S3R2A26NROULUB26NSOSZ33W".toList ++ rest := by
    unfold categoryTable
    rw [opening]
    simp only [String.toList_append, List.append_assoc]
    exact ⟨_, rfl⟩
  obtain ⟨rest, table⟩ := table
  refine ⟨readRuns 160 (some .spaceSeparator) 0 rest, ?_, fun run mem => ?_⟩
  · rw [categoryRuns, table]
    rfl
  · have := le_of_mem_readRuns mem
    omega

/-- Which of the runs of the ASCII characters a code point belongs to. -/
theorem asciiRuns_spec : ∀ n < 128,
    (∃ found, (asciiRuns.takeWhile (·.1 ≤ n)).getLast? = some found ∧
      (found.2 = .decimalNumber ↔ 48 ≤ n ∧ n ≤ 57)) ∧
    ∀ run ∈ asciiRuns.dropWhile (·.1 ≤ n), n < run.1 := by
  intro n small
  have all : ∀ n < 128, ((asciiRuns.takeWhile (·.1 ≤ n)).getLast?.map fun run =>
    decide (run.2 = .decimalNumber))
      = some (decide (48 ≤ n ∧ n ≤ 57)) ∧ ∀ run ∈ asciiRuns.dropWhile (·.1 ≤ n), n < run.1 :=
        by decide +kernel
  obtain ⟨last, after⟩ := all n small
  obtain ⟨found, read, same⟩ := Option.map_eq_some_iff.1 last
  exact ⟨⟨found, read, decide_eq_decide.1 same⟩, after⟩

/-- **The ASCII characters that are decimal numbers** are the digits. -/
theorem categoryOf_eq_decimalNumber_iff {c : Char} (ascii : c.toNat < 128) :
    categoryOf c = .decimalNumber ↔ c.isDigit = true := by
  obtain ⟨later, table, beyond⟩ := exists_categoryRuns
  obtain ⟨⟨found, last, digit⟩, after⟩ := asciiRuns_spec c.toNat ascii
  have split : asciiRuns ++ later
      = asciiRuns.takeWhile (·.1 ≤ c.toNat) ++ (asciiRuns.dropWhile (·.1 ≤ c.toNat) ++ later) := by
    rw [← List.append_assoc, List.takeWhile_append_dropWhile]
  have before : ∀ run ∈ asciiRuns.takeWhile (·.1 ≤ c.toNat), run.1 ≤ c.toNat := fun run mem => by
    simpa using List.mem_takeWhile_imp mem
  have search := searchRuns_toArray_append last before fun run mem =>
    (List.mem_append.1 mem).elim (after run) fun mem => Nat.lt_of_lt_of_le ascii (beyond run mem)
  rw [categoryOf, table, split, search, digit, Char.isDigit_iff_toNat]
  rfl

end SchemaBinding.Text
