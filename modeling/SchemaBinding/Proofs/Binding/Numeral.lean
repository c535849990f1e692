import Mathlib.Tactic.IntervalCases
import SchemaBinding.Proofs.Binding.Ladder

/-!
# The literals of integer types

A numeral is a run of digits with at most one sign before it. Reading an integer
drops a plus sign and then reads a sign once more, so that besides the numerals
it takes a plus sign before a numeral that has a sign of its own
(`written?_eq_some_iff`). These are the literals of every integer type, as far as
their numbers are in its range, and what is written for them is the canonical
numeral of the number (`isCanonicalNumeral_signed`). So a literal that is
accepted is a numeral if and only if no plus sign stands before its sign
(`ofLiteral_numeral`).
-/

namespace SchemaBinding

namespace Text

/-! ## Numerals -/

/-- A numeral with its number: digits, and at most one sign before them. -/
inductive IsNumeral : List Char → Int → Prop
  | unsigned {ds : List Char} (filled : ds ≠ []) (digits : ∀ c ∈ ds, c.isDigit = true) :
      IsNumeral ds (valueOf ds)
  | plus {ds : List Char} (filled : ds ≠ []) (digits : ∀ c ∈ ds, c.isDigit = true) :
      IsNumeral ('+' :: ds) (valueOf ds)
  | minus {ds : List Char} (filled : ds ≠ []) (digits : ∀ c ∈ ds, c.isDigit = true) :
    IsNumeral ('-' :: ds) (-(valueOf ds : Int))

/-- Whether a text begins with a sign. -/
def beginsWithSign (cs : List Char) : Bool := cs.head? == some '+' || cs.head? == some '-'

/-- A numeral with a sign of its own, and a plus sign before it. -/
def IsTwiceSigned (cs : List Char) (n : Int) : Prop :=
  ∃ rest, cs = '+' :: rest ∧ beginsWithSign rest = true ∧ IsNumeral rest n

/-- The canonical numeral of a number: it has a minus if the number is negative and no plus, and
only that of zero begins with the digit zero. -/
structure IsCanonicalNumeral (cs : List Char) (n : Int) : Prop where
  numeral : IsNumeral cs n
  plus : cs.head? ≠ some '+'
  minus : cs.head? = some '-' ↔ n < 0
  zeros : ∀ ds, cs = '0' :: ds ∨ cs = '-' :: '0' :: ds → cs = ['0']

/-- **A text is read as an integer if and only if it is a numeral.** -/
theorem integer?_eq_some_iff {cs : List Char} {n : Int} :
    integer? cs = some n ↔ IsNumeral cs n := by
  constructor
  · intro read
    obtain ⟨ds, filled, digits, ⟨rfl, rfl⟩ | ⟨rfl | rfl, rfl⟩⟩ := exists_of_integer? read
    · exact .minus filled digits
    · exact .plus filled digits
    · exact .unsigned filled digits
  · intro numeral
    cases numeral with
    | unsigned filled digits =>
      obtain ⟨c, rest, rfl⟩ := List.exists_cons_of_ne_nil filled
      rw [integer?_of_isDigit (digits c (List.mem_cons_self ..)),
        natural?_eq_some_iff.2 ⟨filled, digits, rfl⟩]
      rfl
    | plus filled digits =>
      rw [integer?, natural?_eq_some_iff.2 ⟨filled, digits, rfl⟩]
      rfl
    | minus filled digits =>
      rw [integer?, natural?_eq_some_iff.2 ⟨filled, digits, rfl⟩]
      rfl

/-- A run of digits has no sign. -/
theorem beginsWithSign_of_digits {ds : List Char} (digits : ∀ c ∈ ds, c.isDigit = true) :
    beginsWithSign ds = false := by
  cases ds with
  | nil => rfl
  | cons c rest =>
    have digit := digits c (List.mem_cons_self ..)
    rw [beginsWithSign, List.head?_cons, Bool.or_eq_false_iff, beq_eq_false_iff_ne,
      beq_eq_false_iff_ne]
    constructor
    · rintro ⟨⟩
      exact absurd digit (by decide)
    · rintro ⟨⟩
      exact absurd digit (by decide)

/-- What is left of a numeral without its plus has no sign. -/
theorem not_isTwiceSigned {cs : List Char} {m n : Int} (numeral : IsNumeral cs m) :
    ¬ IsTwiceSigned cs n := by
  rintro ⟨rest, rfl, signed, -⟩
  cases numeral with
  | unsigned filled digits => exact absurd (digits '+' (List.mem_cons_self ..)) (by decide)
  | plus filled digits => exact absurd signed (Bool.eq_false_iff.1
      (beginsWithSign_of_digits digits))

/-! ## Canonical numerals -/

/-- Only zero is written with a zero in front. -/
theorem head?_digits_ne {n : Nat} (positive : 0 < n) : (digits n).head? ≠ some '0' := by
  induction n using Nat.strongRecOn with
  | ind n ih =>
    unfold digits at ih ⊢
    by_cases small : n < 10
    · rw [Nat.toDigits_of_lt_base small, List.head?_cons]
      interval_cases n <;> decide
    · obtain ⟨c, rest, same, -⟩ := exists_digits_eq_cons (n / 10)
      have first := ih (n / 10) (by omega) (by omega)
      rw [Nat.toDigits_of_base_le (by decide) (by omega)]
      unfold digits at same
      rw [same] at first ⊢
      exact first

/-- **What is written for a number is its canonical numeral.** -/
theorem isCanonicalNumeral_signed (n : Int) : IsCanonicalNumeral (signed n) n where
  numeral := integer?_eq_some_iff.1 (integer?_signed n)
  plus := Space.head?_signed_ne n
  minus := by
    rw [signed]
    split
    · next negative => exact iff_of_true rfl negative
    · next positive =>
      obtain ⟨c, rest, same, digit⟩ := exists_digits_eq_cons n.natAbs
      rw [same, List.head?_cons]
      refine iff_of_false ?_ positive
      rintro ⟨⟩
      exact absurd digit (by decide)
  zeros := by
    intro ds zero
    rw [signed] at zero ⊢
    split at zero
    · next negative =>
      -- The digits of a negative number are not those of zero.
      have first := head?_digits_ne (n := n.natAbs) (by omega)
      rcases zero with zero | zero
      · cases zero
      · rw [(List.cons.inj zero).2] at first
        exact absurd rfl first
    · next positive =>
      rw [if_neg positive]
      rcases Nat.eq_zero_or_pos n.natAbs with none | some
      · rw [none]
        rfl
      · have first := head?_digits_ne some
        have digit : ∀ c ∈ digits n.natAbs, c.isDigit = true :=
          fun c mem => isDigit_of_mem_digits mem
        rcases zero with zero | zero
        · rw [zero] at first
          exact absurd rfl first
        · rw [zero] at digit
          exact absurd (digit '-' (List.mem_cons_self ..)) (by decide)

end Text

namespace SimpleBuiltin

open Text

/-! ## Literals -/

/-- The characters of a literal, after the treatment of white space. -/
def collapsed (literal : String) : List Char := (Whitespace.collapse.apply literal).toList

/-- **The literals in which an integer is written** are the numerals, and those with a plus before
their sign. -/
theorem written?_eq_some_iff {literal : String} {n : Int} :
    written? literal = some n ↔
      IsNumeral (collapsed literal) n ∨ IsTwiceSigned (collapsed literal) n := by
  rw [written?, integer?_eq_some_iff]
  change IsNumeral (Space.dropPlus (collapsed literal)) n ↔ _
  generalize collapsed literal = cs
  constructor
  · intro numeral
    unfold Space.dropPlus at numeral
    split at numeral
    · next rest =>
      cases signed : beginsWithSign rest with
      | true => exact .inr ⟨rest, rfl, signed, numeral⟩
      | false =>
        cases numeral with
        | unsigned filled digits => exact .inl (.plus filled digits)
        | plus filled digits => exact absurd signed (by
            rw [beginsWithSign, List.head?_cons]; decide)
        | minus filled digits =>
          exact absurd signed (by rw [beginsWithSign, List.head?_cons]; decide)
    · exact .inl numeral
  · rintro (numeral | ⟨rest, rfl, -, numeral⟩)
    · cases numeral with
      | unsigned filled digits =>
        rw [Space.dropPlus_of_ne]
        · exact .unsigned filled digits
        · intro plus
          exact absurd (digits '+' (List.mem_of_mem_head? plus)) (by decide)
      | plus filled digits => exact .unsigned filled digits
      | minus filled digits => exact .minus filled digits
    · exact numeral

/-- A type of integers is one of those that have a base. -/
theorem exists_base?_of_integer {type : SimpleBuiltin} {range : IntegerRange}
    (integer : type.space = .integer range) :
    ∃ base, type.base? = some base := by
  cases type <;> first | exact ⟨_, rfl⟩ | cases integer

/-- An integer is written as its canonical numeral. -/
theorem text_eq_signed {type : SimpleBuiltin} {range : IntegerRange}
    (integer : type.space = .integer range) {v : type.space.Carrier} {n : Int}
    (number : type.space.number? v = some (n : Rat)) :
    (SimpleType.builtin type).text v = String.ofList (signed n) := by
  refine (@SimpleType.text_of_plain (.builtin type) rfl v).trans ?_
  change type.space.canonical v = _
  generalize type.space = space at integer v number
  subst integer
  have same : v.val = n := by exact_mod_cast Option.some.inj number
  rw [← same]
  rfl

/-- **Literals of integer types are numerals, but for a plus before the sign.** A literal that is
accepted in a type of integers is, after the treatment of white space, a numeral, or a plus before a
numeral with a sign of its own; it is not both. It denotes the number that is written in it, and the
canonical numeral of this number is written for it. Conversely such a literal is accepted, with its
number, if and only if the number is in the range of the type and has at most 96 bits. -/
theorem ofLiteral_numeral {type : SimpleBuiltin} {range : IntegerRange}
    (integer : type.space = .integer range) (literal : String) :
    (∀ v, (SimpleType.builtin type).ofLiteral literal = .ok v →
      (∃ n : Int, type.space.number? v = some (n : Rat) ∧
        (IsNumeral (collapsed literal) n ∨ IsTwiceSigned (collapsed literal) n) ∧
        IsCanonicalNumeral ((SimpleType.builtin type).text v).toList n) ∧
      ((∃ n, IsNumeral (collapsed literal) n) ↔ ¬ ∃ n, IsTwiceSigned (collapsed literal) n)) ∧
    ∀ n, IsNumeral (collapsed literal) n ∨ IsTwiceSigned (collapsed literal) n →
      ((∃ v, (SimpleType.builtin type).ofLiteral literal = .ok v ∧
        type.space.number? v = some (n : Rat)) ↔
        n.natAbs < 2 ^ 96 ∧ n ∈ type.valueRange) := by
  obtain ⟨base, below⟩ := exists_base?_of_integer integer
  refine ⟨fun v denotes => ?_, fun n written => ?_⟩
  · obtain ⟨q, w, denotes', number⟩ := (exists_reads_iff below).1 ⟨v, denotes⟩
    obtain rfl := Except.ok.inj (denotes'.symm.trans denotes)
    obtain ⟨n, rfl, written, -, -⟩ := (reads_iff_of_base below).1 ⟨w, denotes', number⟩
    have forms := written?_eq_some_iff.1 written
    refine ⟨⟨n, number, forms, ?_⟩, ?_⟩
    · rw [text_eq_signed integer number, String.toList_ofList]
      exact isCanonicalNumeral_signed n
    · rcases forms with numeral | twice
      · exact iff_of_true ⟨n, numeral⟩ fun ⟨_, twice⟩ => not_isTwiceSigned numeral twice
      · exact iff_of_false (fun ⟨_, numeral⟩ => not_isTwiceSigned numeral twice)
          (not_not_intro ⟨n, twice⟩)
  · rw [← mem_valueRange_integer_iff]
    refine Iff.trans (reads_iff_of_base below (q := n)) ?_
    constructor
    · rintro ⟨m, same, -, known, mem⟩
      obtain rfl : n = m := by exact_mod_cast same
      exact ⟨known, mem⟩
    · rintro ⟨known, mem⟩
      exact ⟨n, rfl, written?_eq_some_iff.2 written, known, mem⟩

/-- A numeral with a plus and a zero in front, and the canonical one that is written for it. -/
theorem ofLiteral_numeral_byte : SimpleBuiltin.byte.space = .integer (.signed 8) ∧
    ∃ v, (SimpleType.builtin .byte).ofLiteral " +0127 " = .ok v ∧
      Space.number? (SimpleBuiltin.space .byte) v = some (127 : Int) ∧
      IsCanonicalNumeral ((SimpleType.builtin .byte).text v).toList 127 := by
  have integer : SimpleBuiltin.byte.space = .integer (.signed 8) := rfl
  have same : collapsed " +0127 " = ['+', '0', '1', '2', '7'] := by rfl
  have numeral : IsNumeral (collapsed " +0127 ") 127 := same ▸ integer?_eq_some_iff.1 (by decide)
  obtain ⟨denotes, accepted⟩ := ofLiteral_numeral integer " +0127 "
  obtain ⟨v, read, number⟩ := (accepted 127 (.inl numeral)).2 ⟨by decide, by decide, by decide⟩
  obtain ⟨⟨n, number', -, canonical⟩, -⟩ := denotes v read
  obtain rfl : n = 127 := by exact_mod_cast Option.some.inj (number'.symm.trans number)
  exact ⟨integer, v, read, number, canonical⟩

/-- **Not every literal of an integer type is a numeral**: two plus signs before a digit are read as
one. -/
theorem not_forall_isNumeral :
    ¬ (∀ (type : SimpleBuiltin) (range : IntegerRange), type.space = .integer range → ∀ literal v,
        (SimpleType.builtin type).ofLiteral literal = .ok v →
          ∃ n, IsNumeral (collapsed literal) n) ∧
      (SimpleType.builtin .int).ofLiteral "++5" = .ok ⟨5, by decide⟩ ∧
        IsTwiceSigned (collapsed "++5") 5 := by
  have read : (SimpleType.builtin .int).ofLiteral "++5" = .ok ⟨5, by decide⟩ := by rfl
  have same : collapsed "++5" = ['+', '+', '5'] := by rfl
  have twice : IsTwiceSigned (collapsed "++5") 5 :=
    ⟨['+', '5'], same, rfl, integer?_eq_some_iff.1 (by decide)⟩
  refine ⟨fun all => ?_, read, twice⟩
  obtain ⟨n, numeral⟩ := all .int _ rfl "++5" _ read
  exact not_isTwiceSigned numeral twice

end SimpleBuiltin

end SchemaBinding
