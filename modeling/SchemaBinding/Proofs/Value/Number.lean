import Mathlib.Algebra.Order.Field.Rat
import Mathlib.Tactic.FieldSimp
import Mathlib.Tactic.Linarith
import Mathlib.Tactic.NormNum
import Mathlib.Tactic.Ring
import SchemaBinding.Proofs.Value.Canonical

/-!
# The numbers that decimals stand for

A decimal stands for its coefficient over a power of ten. Leaving out zeros
after the point does not change the number (`toRat_of_ofParts?`), decimals are
compared as their numbers are (`compare_eq`), and since the scale is the
smallest possible one a number has one decimal (`toRat_injective`).
-/

namespace SchemaBinding

/-- Numbers that are less than each other alike compare alike. -/
theorem compare_eq_compare {α β : Type} [LinearOrder α] [LinearOrder β] {a b : α} {c d : β}
    (less : a < b ↔ c < d) (greater : b < a ↔ d < c) : Ord.compare a b = Ord.compare c d := by
  rw [← cmp_eq_compare, ← cmp_eq_compare, cmp, cmp, cmpUsing, cmpUsing]
  simp only [less, greater]

namespace Decimal

/-- The number that a decimal stands for. -/
def toRat (d : Decimal) : Rat := d.coefficient / 10 ^ d.scale

/-- Dropping zeros after the point does not change the number. -/
theorem reduce_div (c : Int) (s : Nat) :
    ((reduce c s).1 : Rat) / 10 ^ (reduce c s).2 = c / 10 ^ s := by
  induction s generalizing c with
  | zero => rfl
  | succ s ih =>
    rw [reduce]
    split
    · next zero =>
      have tens : c = c / 10 * 10 := by omega
      rw [ih, pow_succ]
      conv_rhs => rw [tens]
      push_cast
      field_simp
    · rfl

/-- A number that is given by its coefficient and its scale, as a decimal. -/
theorem toRat_of_ofParts? {c : Int} {s : Nat} {d : Decimal} (h : ofParts? c s = some d) :
    d.toRat = c / 10 ^ s := by
  unfold ofParts? at h
  split at h
  · obtain rfl := Option.some.inj h
    exact reduce_div c s
  · cases h

theorem zero_toRat : zero.toRat = 0 := by
  rw [toRat, zero]
  norm_num

theorem finest_eq (d : Decimal) : (d.finest : Rat) = d.toRat * 10 ^ maximalScale := by
  have split : (10 : Rat) ^ maximalScale = 10 ^ d.scale * 10 ^ (maximalScale - d.scale) := by
    rw [← pow_add, Nat.add_sub_cancel' d.fine]
  rw [finest, toRat, split, Int.pow_eq]
  push_cast
  field_simp

theorem finest_lt_iff {a b : Decimal} : a.finest < b.finest ↔ a.toRat < b.toRat := by
  have positive : (0 : Rat) < 10 ^ maximalScale := by positivity
  rw [← Int.cast_lt (R := Rat), finest_eq, finest_eq, mul_lt_mul_iff_left₀ positive]

/-- **Decimals are compared as the numbers that they stand for.** -/
theorem compare_eq (a b : Decimal) : a.compare b = Ord.compare a.toRat b.toRat :=
  compare_eq_compare finest_lt_iff finest_lt_iff

/-- A decimal has the smallest scale at which its number is given. -/
theorem scale_le_of_toRat_eq {a b : Decimal} (h : a.toRat = b.toRat) : a.scale ≤ b.scale := by
  by_contra larger
  rw [Nat.not_le] at larger
  obtain ⟨more, split⟩ := Nat.exists_eq_add_of_lt larger
  have fraction : a.coefficient % 10 ≠ 0 := a.reduced.resolve_left (by omega)
  have tens : a.coefficient = b.coefficient * 10 ^ more * 10 := by
    rw [toRat, toRat, split, div_eq_div_iff (by positivity) (by positivity), pow_add, pow_add,
      pow_one] at h
    have scaled : (a.coefficient : Rat) = b.coefficient * 10 ^ more * 10 := by
      refine mul_right_cancel₀ (b := (10 : Rat) ^ b.scale) (by positivity) ?_
      linarith
    exact_mod_cast scaled
  omega

/-- **A number has one decimal.** -/
theorem toRat_injective {a b : Decimal} (h : a.toRat = b.toRat) : a = b := by
  have scale : a.scale = b.scale :=
    Nat.le_antisymm (scale_le_of_toRat_eq h) (scale_le_of_toRat_eq h.symm)
  have coefficient : a.coefficient = b.coefficient := by
    rw [toRat, toRat, scale, div_left_inj' (by positivity)] at h
    exact_mod_cast h
  cases a
  cases b
  cases scale
  cases coefficient
  rfl

theorem isZero_iff {d : Decimal} : d.isZero = true ↔ d.toRat = 0 := by
  rw [isZero, beq_iff_eq, toRat, div_eq_zero_iff, or_iff_left (by positivity), Int.cast_eq_zero]

theorem isNegative_iff {d : Decimal} : d.isNegative = true ↔ d.toRat < 0 := by
  have positive : (0 : Rat) < 10 ^ d.scale := by positivity
  rw [isNegative, decide_eq_true_iff, toRat, div_lt_iff₀ positive, zero_mul, Int.cast_lt_zero]

end Decimal

end SchemaBinding
