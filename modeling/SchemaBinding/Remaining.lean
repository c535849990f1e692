/-!
# Members still to come

Source: `SPEC_FULL.md`, 4.1 and 4.2: the guards of `xsd/schema` and
`generator/registry` end their recursions.

How many members of a finite list have not been met. Meeting one that had not
been met makes this number smaller, which bounds every search that meets each
member at most once.
-/

namespace SchemaBinding

variable {α : Type} [DecidableEq α]

/-- The number of members of a list that are not among those met. -/
def remaining (all met : List α) : Nat := (all.filter (· ∉ met)).length

theorem remaining_cons_le (all met : List α) (a : α) :
    remaining all (a :: met) ≤ remaining all met := by
  unfold remaining
  induction all with
  | nil => exact Nat.le_refl _
  | cons b rest ih =>
    simp only [List.filter_cons, List.mem_cons, not_or, decide_eq_true_eq]
    by_cases hb : b ∈ met
    · simpa [hb] using ih
    · by_cases hab : b = a
      · simp only [hab, not_true, false_and, if_false]
        by_cases ha : a ∈ met
        · simpa [ha] using ih
        · simpa [ha] using Nat.le_succ_of_le ih
      · simpa [hb, hab] using ih

/-- **Meeting a member leaves fewer to come.** -/
theorem remaining_cons_lt {all met : List α} {a : α} (ha : a ∈ all) (hm : a ∉ met) :
    remaining all (a :: met) < remaining all met := by
  induction all with
  | nil => cases ha
  | cons b rest ih =>
    by_cases hab : b = a
    · subst hab
      have := remaining_cons_le rest met b
      unfold remaining at this ⊢
      simp only [List.filter_cons, List.mem_cons, true_or, not_true, decide_false, hm,
        not_false_iff, decide_true]
      simp only [List.mem_cons, not_or] at this
      simpa using Nat.lt_succ_of_le this
    · have mem : a ∈ rest := by
        cases ha with
        | head => exact absurd rfl hab
        | tail _ h => exact h
      have := ih mem
      unfold remaining at this ⊢
      simp only [List.filter_cons, List.mem_cons, not_or] at this ⊢
      by_cases hb : b ∈ met
      · simpa [hb] using this
      · simpa [hb, hab] using this

end SchemaBinding
