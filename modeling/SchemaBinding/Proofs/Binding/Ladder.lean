import Mathlib.Data.Int.ConditionallyCompleteOrder
import Mathlib.Data.List.TakeWhile
import Mathlib.Tactic.NormNum
import SchemaBinding.Proofs.Binding.Literal
import SchemaBinding.Proofs.Value.Number

/-!
# The ladder of integer types

Every integer type has a base, up to the type of decimals. The literals of an
integer type are those in which an integer is written that has at most 96 bits and
lies in the range of the type (`reads_iff_of_base`), whether its bounds come from
the width of its numbers or from its constraints (`exists_admits_iff`). The ranges
are nested (`mem_valueRange_base`), and an integer of at most 96 bits is a decimal
of the same number (`Decimal.exists_parse?_of_integer?`). So each type restricts
its base to its range, neither more nor less (`ofLiteral_ladder`).
-/

namespace SchemaBinding

/-! ## Numerals as decimals -/

namespace Text

/-- A numeral with or without sign is a sign, if there is one, and digits. -/
theorem exists_of_integer? {cs : List Char} {n : Int} (h : integer? cs = some n) :
    ∃ ds, ds ≠ [] ∧ (∀ c ∈ ds, c.isDigit = true) ∧
      ((cs = '-' :: ds ∧ n = -(valueOf ds : Int)) ∨
        ((cs = '+' :: ds ∨ cs = ds) ∧ n = valueOf ds)) := by
  unfold integer? at h
  split at h
  · next ds =>
    obtain ⟨m, read, rfl⟩ := Option.map_eq_some_iff.1 h
    obtain ⟨filled, digits, rfl⟩ := natural?_eq_some_iff.1 read
    exact ⟨ds, filled, digits, .inr ⟨.inl rfl, rfl⟩⟩
  · next ds =>
    cases read : natural? ds with
    | none => rw [read] at h; cases h
    | some m =>
      rw [read] at h
      obtain ⟨filled, digits, rfl⟩ := natural?_eq_some_iff.1 read
      exact ⟨ds, filled, digits, .inl ⟨rfl, (Option.some.inj h).symm⟩⟩
  · obtain ⟨m, read, rfl⟩ := Option.map_eq_some_iff.1 h
    obtain ⟨filled, digits, rfl⟩ := natural?_eq_some_iff.1 read
    exact ⟨cs, filled, digits, .inr ⟨.inr rfl, rfl⟩⟩

end Text

namespace Decimal

/-- A numeral is read as a decimal, if it fits. -/
theorem readSigned_of_integer? {cs : List Char} {n : Int} (h : Text.integer? cs = some n)
    (fits : n.natAbs < coefficientBound) :
    readSigned cs = some (n, 0) ∧ ∀ c ∈ cs, (!isExponentMark c) = true := by
  obtain ⟨ds, filled, digits, signed⟩ := Text.exists_of_integer? h
  have value : Text.valueOf ds < coefficientBound := by omega
  have read := readDigits_digits filled digits value
  have plain : ∀ c ∈ ds, (!isExponentMark c) = true := fun c mem => by
    rw [isExponentMark_of_isDigit (digits c mem)]
    rfl
  rcases signed with ⟨rfl, rfl⟩ | ⟨rfl | rfl, rfl⟩
  · refine ⟨?_, List.forall_mem_cons.2 ⟨by decide, plain⟩⟩
    rw [readSigned, read]
    rfl
  · refine ⟨?_, List.forall_mem_cons.2 ⟨by decide, plain⟩⟩
    rw [readSigned, read]
    rfl
  · refine ⟨?_, plain⟩
    obtain ⟨c, rest, rfl⟩ := List.exists_cons_of_ne_nil filled
    rw [readSigned_of_isDigit (digits c (List.mem_cons_self ..)), read]
    rfl

/-- **A numeral is a decimal of the same number**, if this fits. -/
theorem exists_parse?_of_integer? {cs : List Char} {n : Int} (h : Text.integer? cs = some n)
    (fits : n.natAbs < coefficientBound) : ∃ d, parse? cs = some d ∧ d.toRat = n := by
  obtain ⟨read, plain⟩ := readSigned_of_integer? h fits
  have decimal : ofParts? n 0 = some ⟨n, 0, fits, by decide, .inl rfl⟩ :=
    ofParts?_self ⟨n, 0, fits, by decide, .inl rfl⟩
  refine ⟨⟨n, 0, fits, by decide, .inl rfl⟩, ?_, ?_⟩
  · rw [parse?, List.takeWhile_eq_self_iff.2 plain, List.dropWhile_eq_nil_iff.2 plain, read]
    exact decimal
  · rw [toRat_of_ofParts? decimal, pow_zero, div_one]

end Decimal

/-! ## Integers that are accepted -/

/-- The number that a value is, if it is an integer or a decimal. -/
def Space.number? : (space : Space) → space.Carrier → Option Rat
  | .integer _, n => some n.val
  | .decimal, (d : Decimal) => some d.toRat
  | _, _ => none

namespace SimpleBuiltin

/-- The base of an integer type. -/
def base? : SimpleBuiltin → Option SimpleBuiltin
  | .byte => some .short
  | .short => some .int
  | .int => some .long
  | .long => some .integer
  | .unsignedByte => some .unsignedShort
  | .unsignedShort => some .unsignedInt
  | .unsignedInt => some .unsignedLong
  | .unsignedLong => some .nonNegativeInteger
  | .nonNegativeInteger => some .integer
  | .positiveInteger => some .nonNegativeInteger
  | .nonPositiveInteger => some .integer
  | .negativeInteger => some .nonPositiveInteger
  | .integer => some .decimal
  | _ => none

/-- The integers to which an integer type restricts its base. -/
def valueRange : SimpleBuiltin → Set Int
  | .byte => Set.Ico (-2 ^ 7) (2 ^ 7)
  | .short => Set.Ico (-2 ^ 15) (2 ^ 15)
  | .int => Set.Ico (-2 ^ 31) (2 ^ 31)
  | .long => Set.Ico (-2 ^ 63) (2 ^ 63)
  | .unsignedByte => Set.Ico 0 (2 ^ 8)
  | .unsignedShort => Set.Ico 0 (2 ^ 16)
  | .unsignedInt => Set.Ico 0 (2 ^ 32)
  | .unsignedLong => Set.Ico 0 (2 ^ 64)
  | .nonNegativeInteger => Set.Ici 0
  | .positiveInteger => Set.Ioi 0
  | .nonPositiveInteger => Set.Iic 0
  | .negativeInteger => Set.Iio 0
  | .integer => Set.Ioo (-2 ^ 96) (2 ^ 96)
  | _ => ∅

/-- A literal denotes a number in a built-in type. -/
def Reads (type : SimpleBuiltin) (literal : String) (q : Rat) : Prop :=
  ∃ v : type.space.Carrier, (SimpleType.builtin type).ofLiteral literal = .ok v ∧
    type.space.number? v = some q

/-- The integer that is written in a literal, after the treatment of white space. -/
def written? (literal : String) : Option Int :=
  Text.integer? (Space.dropPlus (Whitespace.collapse.apply literal).toList)

/-- An integer of a range that keeps constraints. -/
def Admits (range : IntegerRange) (constraints : List Constraint) (n : Int) : Prop :=
  n ∈ IntegerRange.widest ∧ n ∈ range ∧
    ∀ constraint ∈ constraints, constraint.checkInteger n = .ok ()

theorem forM_check_eq_ok_iff {range : IntegerRange} {constraints : List Constraint}
    {v : (Space.integer range).Carrier} {literal : String}
    (plain : ∀ constraint ∈ constraints, constraint.pattern? = none) :
    (constraints.forM fun constraint => constraint.check (.integer range) v literal) = .ok () ↔
      ∀ constraint ∈ constraints, constraint.checkInteger v.val = .ok () := by
  induction constraints with
  | nil => exact ⟨fun _ => nofun, fun _ => rfl⟩
  | cons constraint rest ih =>
    obtain ⟨first, later⟩ := List.forall_mem_cons.1 plain
    have same : constraint.check (.integer range) v literal = constraint.checkInteger v.val := by
      cases constraint with
      | matching p => cases first
      | _ => rfl
    rw [List.forall_mem_cons, ← ih later, List.forM_eq_forM, List.forM_cons, same,
      ← List.forM_eq_forM]
    cases constraint.checkInteger v.val with
    | ok _ => exact ⟨fun h => ⟨rfl, h⟩, fun h => h.2⟩
    | error violation => exact ⟨nofun, fun h => nomatch h.1⟩

/-- **The literals of an integer type** are those in which an integer is written that the type
admits. -/
theorem reads_iff {type : SimpleBuiltin} {range : IntegerRange}
    (integer : type.space = .integer range) (collapse : type.whitespace = .collapse)
    (plain : ∀ constraint ∈ type.constraints, constraint.pattern? = none) {literal : String}
    {q : Rat} :
    type.Reads literal q ↔ ∃ n : Int, q = n ∧ written? literal = some n ∧
      Admits range type.constraints n := by
  have opened (v : type.space.Carrier) : (SimpleType.builtin type).ofLiteral literal = .ok v ↔
      type.space.parse (Whitespace.collapse.apply literal) = .ok v ∧
        (type.constraints.forM fun constraint =>
          constraint.check type.space v (Whitespace.collapse.apply literal)) = .ok () := by
    rw [← collapse]
    exact SimpleType.ofLiteral_eq_ok_iff_of_plain rfl
  simp only [Reads, opened]
  generalize type.space = space at integer ⊢
  subst integer
  simp only [forM_check_eq_ok_iff plain]
  constructor
  · rintro ⟨v, ⟨read, kept⟩, number⟩
    obtain ⟨same, known⟩ := Space.parseInteger_eq_ok_iff.1 read
    exact ⟨v.val, (Option.some.inj number).symm, same, known, v.property, kept⟩
  · rintro ⟨n, rfl, same, known, inRange, kept⟩
    exact ⟨⟨n, inRange⟩, ⟨Space.parseInteger_eq_ok_iff.2 ⟨same, known⟩, kept⟩, rfl⟩

/-- A literal denotes a decimal if it is one after the treatment of white space. -/
theorem reads_decimal {literal : String} {d : Decimal}
    (read : Decimal.parse? (Space.dropPlus (Whitespace.collapse.apply literal).toList) = some d) :
    decimal.Reads literal d.toRat := by
  refine ⟨d, (SimpleType.ofLiteral_eq_ok_iff_of_plain rfl).2 ⟨?_, rfl⟩, rfl⟩
  change Space.parseDecimal (Whitespace.collapse.apply literal) = .ok d
  rw [Space.parseDecimal, read]

/-! ## The ladder -/

theorem require_eq_ok_iff {condition : Bool} {violation : Violation} :
    Constraint.require condition violation = .ok () ↔ condition = true := by
  rw [Constraint.require]
  cases condition with
  | false => exact ⟨nofun, nofun⟩
  | true => exact ⟨fun _ => rfl, fun _ => rfl⟩

theorem isSome_ofInt?_iff {n : Int} :
    (Decimal.ofInt? n).isSome = true ↔ n ∈ valueRange .integer := by
  have bound : coefficientBound = 79228162514264337593543950336 := rfl
  rw [Decimal.ofInt?, Decimal.ofParts?, Option.isSome_dite, valueRange, Set.mem_Ioo,
    and_iff_left (Nat.zero_le _), bound]
  norm_num
  omega

theorem mem_signed_iff {bits : Nat} {n : Int} :
    n ∈ IntegerRange.signed bits ↔ n ∈ Set.Ico (-2 ^ (bits - 1)) (2 ^ (bits - 1)) := by
  rw [Set.mem_Ico, ← Int.le_sub_one_iff]
  rfl

theorem mem_unsigned_iff {bits : Nat} {n : Int} :
    n ∈ IntegerRange.unsigned bits ↔ n ∈ Set.Ico 0 (2 ^ bits) := by
  rw [Set.mem_Ico, ← Int.le_sub_one_iff]
  rfl

/-- **What an integer type admits** are the integers of its range that are decimals. -/
theorem exists_admits_iff {type base : SimpleBuiltin} (h : type.base? = some base) :
    ∃ range, type.space = .integer range ∧ type.whitespace = .collapse ∧
      (∀ constraint ∈ type.constraints, constraint.pattern? = none) ∧
      ∀ n, Admits range type.constraints n ↔ n ∈ valueRange .integer ∧ n ∈ type.valueRange := by
  cases type <;> cases h
  all_goals
    refine ⟨_, rfl, rfl, by decide, fun n => ?_⟩
    simp only [Admits, constraints, nonNegativeConstraints, nonPositiveConstraints,
      List.cons_append,
      List.nil_append, List.forall_mem_cons, List.not_mem_nil, false_implies, implies_true,
      and_true, Constraint.checkInteger,
      require_eq_ok_iff, decide_eq_true_iff, isSome_ofInt?_iff, IntegerRange.widest, mem_signed_iff,
      mem_unsigned_iff,
      valueRange, Set.mem_Ico, Set.mem_Ioo, Set.mem_Ici, Set.mem_Ioi, Set.mem_Iic, Set.mem_Iio]
    norm_num
    omega

/-- **A range lies in that of the base**, unless this is not a type of integers. -/
theorem mem_valueRange_base {type base : SimpleBuiltin} (h : type.base? = some base)
    (integer : base ≠ .decimal) {n : Int} (known : n ∈ valueRange .integer)
    (mem : n ∈ type.valueRange) : n ∈ base.valueRange := by
  cases type <;> cases h
  -- The base is the type of all integers, or that of decimals, or both ranges have bounds to
  -- compare.
  all_goals
    first
    | exact known
    | exact absurd rfl integer
    | simp only [valueRange, Set.mem_Ico, Set.mem_Ici, Set.mem_Ioi, Set.mem_Iic,
          Set.mem_Iio] at mem ⊢
      omega

variable {type base : SimpleBuiltin} {literal : String}

/-- **The literals of an integer type** are those in which an integer of its range is written that
is a decimal. -/
theorem reads_iff_of_base (h : type.base? = some base) {q : Rat} : type.Reads literal q ↔
    ∃ n : Int, q = n ∧ written? literal = some n ∧ n ∈ valueRange .integer ∧
      n ∈ type.valueRange := by
  obtain ⟨range, integer, collapse, plain, admits⟩ := exists_admits_iff h
  simp only [reads_iff integer collapse plain, admits]

/-- What a literal denotes in an integer type is a number. -/
theorem exists_reads_iff (h : type.base? = some base) :
    (∃ v, (SimpleType.builtin type).ofLiteral literal = .ok v) ↔ ∃ q, type.Reads literal q := by
  obtain ⟨range, integer, -, -, -⟩ := exists_admits_iff h
  have number (v : type.space.Carrier) : ∃ q, type.space.number? v = some q := by
    generalize type.space = space at integer v
    subst integer
    exact ⟨v.val, rfl⟩
  constructor
  · rintro ⟨v, denotes⟩
    obtain ⟨q, same⟩ := number v
    exact ⟨q, v, denotes, same⟩
  · rintro ⟨q, v, denotes, -⟩
    exact ⟨v, denotes⟩

/-- The base of an integer type is one, unless it is the type of decimals. -/
theorem exists_base? (h : type.base? = some base) (integer : base ≠ .decimal) :
    ∃ lower, base.base? = some lower := by
  cases type <;> cases h <;> first | exact absurd rfl integer | exact ⟨_, rfl⟩

/-- What is denoted in a type is denoted in its base. -/
theorem reads_base (h : type.base? = some base) {q : Rat} (reads : type.Reads literal q) :
    base.Reads literal q := by
  obtain ⟨n, rfl, written, known, mem⟩ := (reads_iff_of_base h).1 reads
  by_cases integer : base = .decimal
  · subst integer
    have fits : n.natAbs < coefficientBound := by
      have bound : coefficientBound = 79228162514264337593543950336 := rfl
      rw [valueRange, Set.mem_Ioo] at known
      omega
    obtain ⟨d, read, same⟩ := Decimal.exists_parse?_of_integer? written fits
    exact same ▸ reads_decimal read
  · obtain ⟨lower, next⟩ := exists_base? h integer
    exact (reads_iff_of_base next).2
      ⟨n, rfl, written, known, mem_valueRange_base h integer known mem⟩

theorem mem_valueRange_integer_iff {n : Int} : n ∈ valueRange .integer ↔ n.natAbs < 2 ^ 96 := by
  rw [valueRange, Set.mem_Ioo]
  omega

/-- Which integers are accepted directly. -/
theorem accept_integer_iff (n : { n : Int // n ∈ IntegerRange.widest }) :
    (SimpleType.builtin .integer).accept n = .ok n ↔ n.val.natAbs < 2 ^ 96 := by
  have checked : SimpleType.validate (.builtin .integer)
    n ((Space.integer .widest).canonical n) = .ok () ↔
      n.val.natAbs < 2 ^ 96 := by
    rw [← mem_valueRange_integer_iff, ← isSome_ofInt?_iff, ← require_eq_ok_iff]
    refine (forM_check_eq_ok_iff (v := n) (by decide)).trans ?_
    exact ⟨fun kept => kept .isDecimal (List.mem_cons_self ..), fun kept constraint mem =>
      List.mem_singleton.1 mem ▸ kept⟩
  rw [← checked]
  change (SimpleType.validate (.builtin .integer) n ((Space.integer .widest).canonical n)
    >>= fun _ => pure n) = _ ↔ _
  cases SimpleType.validate (.builtin .integer) n ((Space.integer .widest).canonical n) with
  | ok _ => exact ⟨fun _ => rfl, fun _ => rfl⟩
  | error violation => exact ⟨nofun, nofun⟩

/-- **The integer types are exact restrictions of their bases.** What a literal denotes in an
integer type is a number, and the literal denotes the same number in the base. Let the base be a
type of integers too, and let a literal denote an integer in it. The literal is accepted in the type
if and only if this integer is in the range of the type. An integer is accepted in the type of all
integers, directly or from a literal, if and only if it has at most 96 bits. -/
theorem ofLiteral_ladder :
    (∀ type base, base? type = some base → ∀ literal,
      (∀ v, (SimpleType.builtin type).ofLiteral literal = .ok v →
        ∃ q, type.space.number? v = some q ∧ base.Reads literal q) ∧
      (base ≠ .decimal → ∀ n : Int, base.Reads literal n →
        ((∃ v, (SimpleType.builtin type).ofLiteral literal = .ok v) ↔ n ∈ type.valueRange))) ∧
      (∀ n : { n : Int // n ∈ IntegerRange.widest },
        (SimpleType.builtin .integer).accept n = .ok n ↔ n.val.natAbs < 2 ^ 96) ∧
      ∀ literal n, written? literal = some n →
        ((∃ v, (SimpleType.builtin .integer).ofLiteral literal = .ok v) ↔ n.natAbs < 2 ^ 96) := by
  refine ⟨fun type base h literal => ⟨fun v denotes => ?_, fun integer n reads => ?_⟩,
    accept_integer_iff, fun literal n written => ?_⟩
  · obtain ⟨q, w, same, number⟩ := (exists_reads_iff h).1 ⟨v, denotes⟩
    obtain rfl := Except.ok.inj (same.symm.trans denotes)
    exact ⟨q, number, reads_base h ⟨w, same, number⟩⟩
  · obtain ⟨lower, next⟩ := exists_base? h integer
    obtain ⟨m, same, written, known, -⟩ := (reads_iff_of_base next).1 reads
    obtain rfl : n = m := by exact_mod_cast same
    rw [exists_reads_iff h]
    constructor
    · rintro ⟨q, reads⟩
      obtain ⟨m, rfl, written', -, mem⟩ := (reads_iff_of_base h).1 reads
      exact Option.some.inj (written.symm.trans written') ▸ mem
    · exact fun mem => ⟨n, (reads_iff_of_base h).2 ⟨n, rfl, written, known, mem⟩⟩
  · have h : base? .integer = some .decimal := rfl
    rw [exists_reads_iff h, ← mem_valueRange_integer_iff]
    constructor
    · rintro ⟨q, reads⟩
      obtain ⟨m, rfl, written', known, -⟩ := (reads_iff_of_base h).1 reads
      exact Option.some.inj (written.symm.trans written') ▸ known
    · exact fun mem => ⟨n, (reads_iff_of_base h).2 ⟨n, rfl, written, mem, mem⟩⟩

/-- The largest byte and the next integer, which is still a short one. -/
theorem ofLiteral_ladder_byte : base? .byte = some .short ∧
    (∃ v, (SimpleType.builtin .byte).ofLiteral " +0127 " = .ok v ∧ ∃ q, Space.number? _ v = some q ∧
      short.Reads " +0127 " q) ∧
    short.Reads "128" (128 : Int) ∧ ¬ ∃ v, (SimpleType.builtin .byte).ofLiteral "128" = .ok v := by
  have largest : (SimpleType.builtin .byte).ofLiteral " +0127 " = .ok ⟨127, by decide⟩ := by rfl
  have next : short.Reads "128" (128 : Int) := ⟨⟨128, by decide⟩, by rfl, rfl⟩
  refine ⟨rfl, ⟨_, largest, (ofLiteral_ladder.1 .byte .short rfl " +0127 ").1 _ largest⟩, next,
    fun accepted => ?_⟩
  have mem := ((ofLiteral_ladder.1 .byte .short rfl "128").2 (by decide) 128 next).1 accepted
  exact absurd mem.2 (by decide)

end SimpleBuiltin

end SchemaBinding
