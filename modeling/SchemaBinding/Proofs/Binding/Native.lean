import SchemaBinding.Proofs.Binding.Literal
import SchemaBinding.Proofs.Value.Equality
import SchemaBinding.Proofs.Value.Number

/-!
# Values that are given directly

A value can be read from a literal or given directly; in the second case it is
checked with its canonical form. Every integer of a built-in type is one that
literals are read as (`mem_widest_of_space`), so that a truth value, an integer or
a decimal is always read from its canonical form (`parse_canonical_of_space`),
which no treatment of white space changes. Equal values of these spaces are the
same (`Space.eq_of_equal`). So for types without enumeration a value is accepted,
or refused, as its canonical form is (`ofLiteral_canonical`).
-/

namespace SchemaBinding

/-! ## Spaces -/

/-- Equal texts, truth values, integers and decimals are the same. -/
theorem Space.eq_of_equal {space : Space} (exact : space.IsExact) {a b : space.Carrier}
    (same : space.equal a b = true) : a = b := by
  have equal := Space.equal_eq_true_iff.1 same
  cases exact with
  | text => exact Space.eq_of_equal_text same
  | boolean => exact (@Std.compare_eq_iff_eq Bool _ _ a b).1 (Option.some.inj equal)
  | integer range => exact Space.eq_of_equal_integer same
  | decimal =>
    have numbers := (Decimal.compare_eq a b).symm.trans (Option.some.inj equal)
    exact Decimal.toRat_injective (Std.compare_eq_iff_eq.1 numbers)

namespace SimpleBuiltin

/-- The integers of every built-in type are in the widest range. -/
theorem mem_widest_of_space {type : SimpleBuiltin} {range : IntegerRange}
    (integer : type.space = .integer range) {n : Int} (mem : n ∈ range) :
    n ∈ IntegerRange.widest := by
  change range.low ≤ n ∧ n ≤ range.high at mem
  have bounds : IntegerRange.widest.low ≤ range.low ∧ range.high ≤ IntegerRange.widest.high := by
    cases type <;> first | cases integer; decide | cases integer
  exact ⟨bounds.1.trans mem.1, mem.2.trans bounds.2⟩

/-- **A value of a built-in type is read from its canonical form**, also when no literal has been
read before. -/
theorem parse_canonical_of_space {type : SimpleBuiltin} (exact : type.space.IsExact)
    (v : type.space.Carrier) :
    type.space.parse (type.space.canonical v) = .ok v := by
  have known {range : IntegerRange} (integer : type.space = .integer range) {n : Int} :
      n ∈ range → n ∈ IntegerRange.widest :=
    mem_widest_of_space integer
  generalize type.space = space at exact v known
  cases exact with
  | text => rfl
  | boolean =>
    cases (v : Bool) with
    | false => rfl
    | true => rfl
  | integer range => exact Space.parseInteger_signed v (known rfl v.property)
  | decimal => exact Space.parseDecimal_print v

end SimpleBuiltin

/-! ## Types -/

namespace SimpleType

variable {type : SimpleType}

/-- **Values are accepted as their canonical forms are.** Let a type without enumeration be built on
truth values, integers or decimals, by restrictions of any number. Whether a value is given directly
or its canonical form is read, the outcome is the same: the value, or the same violation. So it is
for the canonical form of every value that is equal to the given one. -/
theorem ofLiteral_canonical (exact : type.space.IsExact) (other : type.space ≠ .text)
    (plain : type.enumeration? = none) (v : type.space.Carrier) :
    type.ofLiteral (type.space.canonical v) = type.accept v ∧
      ∀ w, type.space.equal v w = true →
      type.ofLiteral (type.space.canonical w) = type.accept v := by
  have read : type.space.parse (type.space.canonical v) = .ok v :=
    SimpleBuiltin.parse_canonical_of_space exact v
  have kept : type.whitespace.apply (type.space.canonical v) = type.space.canonical v :=
    Whitespace.apply_of_unblank _ (Space.unblank_canonical exact other v)
  have outcome : type.ofLiteral (type.space.canonical v) = type.accept v := by
    rw [ofLiteral, accept, kept, keyOf_of_plain plain, read]
    rfl
  refine ⟨outcome, fun w same => ?_⟩
  obtain rfl := Space.eq_of_equal exact same
  exact outcome

/-- A price of at least a half, with at most two digits after the point. -/
def price : SimpleType :=
  .restriction ⟨"Price", "urn:t"⟩
    (.restriction ⟨"Amount", "urn:t"⟩ (.builtin .decimal) [.minInclusive "0.50"])
    [.pattern "[0-9]+([.][0-9]\x7b1,2\x7d)?"]

/-- Two and a half, which is a price, and an eighth more than two, which has too many digits to be
one. -/
theorem ofLiteral_canonical_price :
    let accepted : Decimal := ⟨25, 1, by decide, by decide, by decide⟩
    let refused : Decimal := ⟨2125, 3, by decide, by decide, by decide⟩
    price.space.IsExact ∧ price.space ≠ .text ∧ price.enumeration? = none ∧
      (price.ofLiteral (price.space.canonical accepted) = price.accept accepted ∧
        (price.ofLiteral "2.5").isOk) ∧
      price.ofLiteral (price.space.canonical refused) = price.accept refused ∧
      ¬ (price.ofLiteral "2.125").isOk := by
  intro accepted refused
  have exact : price.space.IsExact := .decimal
  have other : price.space ≠ .text := nofun
  exact ⟨exact, other, rfl, ⟨(ofLiteral_canonical exact other rfl accepted).1, by decide +kernel⟩,
    (ofLiteral_canonical exact other rfl refused).1, by decide +kernel⟩

end SimpleType

end SchemaBinding
