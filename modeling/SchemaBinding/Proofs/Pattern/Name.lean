import SchemaBinding.Binding.Builtin
import SchemaBinding.Proofs.Pattern.CharSet
import SchemaBinding.Proofs.Pattern.WholeValue

/-!
# The patterns of names

A pattern none of whose parts reads a blank (`Pattern.IsSolid`) lets no value with
a blank pass (`Pattern.IsSolid.unblank_of_checkPattern`). Such are the patterns
of languages, name tokens and names: their texts are read as sequences and
repetitions of sets of characters, whatever these sets are, and the sets have no
blanks.
-/

namespace SchemaBinding.Pattern

open Text (isBlank)

variable {c : Char} {p : Pattern}

/-! ## What the parts of a pattern read -/

/-- Patterns in a row read what one of them reads. -/
theorem reads_inSequence (ps : List Pattern) : (inSequence ps).reads c = ps.any (·.reads c) := by
  induction ps with
  | nil => rfl
  | cons p rest ih =>
    cases rest with
    | nil => simp [inSequence]
    | cons => simp only [inSequence, reads, ih, List.any_cons]

/-- The parts of a pattern read what it reads. -/
theorem reads_parts (p : Pattern) : p.parts.any (·.reads c) = p.reads c := by
  induction p with
  | seq p q _ ihq => rw [parts, List.any_cons, ihq, reads]
  | _ => simp [parts, reads]

/-- Joining literals does not change what is read. -/
theorem reads_joinLiterals (ps : List Pattern) :
    (joinLiterals ps).any (·.reads c) = ps.any (·.reads c) := by
  induction ps with
  | nil => rfl
  | cons p rest ih =>
    rw [List.any_cons, ← ih]
    simp only [joinLiterals]
    split
    · next joined => simp [joined, reads, Bool.or_assoc]
    · rw [List.any_cons]

/-- A sequence reads what its parts read. -/
theorem reads_sequence (ps : List Pattern) : (sequence ps).reads c = ps.any (·.reads c) := by
  rw [sequence, reads_inSequence, reads_joinLiterals, List.any_flatMap]
  simp only [reads_parts]

/-! ## Patterns without blanks -/

/-- Whether no part of a pattern reads a blank. -/
def IsSolid (p : Pattern) : Prop := ∀ c, p.reads c → isBlank c = false

namespace IsSolid

/-- The pattern of a set without blanks reads no blank. -/
theorem ofSet {s : CharSet} (solid : s.IsSolid) : IsSolid (ofSet false s) := by
  intro c reads
  rw [Pattern.ofSet] at reads
  split at reads
  · next d only =>
    obtain rfl : c = d := by simpa [Pattern.reads] using reads
    rw [CharSet.onlyMember?] at only
    split at only
    · next low high runs =>
      obtain ⟨rfl, same⟩ := Option.ite_none_right_eq_some.1 only
      obtain rfl := Option.some.inj same
      by_cases valid : low.isValidChar
      · have number : (Char.ofNat low).toNat = low := by
          rw [Char.ofNat, dif_pos valid]
          rfl
        exact solid _ (by simp [CharSet.contains, runs, number])
      · rw [Char.ofNat, dif_neg valid]
        decide
    · cases only
  · exact solid c reads

/-- Patterns in a row read no blank if none of them does. -/
theorem sequence {ps : List Pattern} (solid : ∀ p ∈ ps, IsSolid p) : IsSolid (sequence ps) := by
  intro c reads
  rw [reads_sequence, List.any_eq_true] at reads
  obtain ⟨p, mem, reads⟩ := reads
  exact solid p mem c reads

/-- A group reads what its pattern reads. -/
theorem group {number : Nat} (solid : IsSolid p) : IsSolid (group number p) := solid

/-- Nor does a repetition read anything else. -/
theorem times {least : Nat} {most : Option Nat} {greedy : Bool} (solid : IsSolid p) :
    IsSolid (p.times least most greedy) := by
  intro c reads
  simp only [Pattern.times] at reads
  generalize (if p.isPlace then _ else _) = bounds at reads
  obtain ⟨least, most⟩ := bounds
  dsimp only at reads
  split at reads
  · cases reads
  · split at reads
    · exact solid c reads
    · exact solid c reads

/-- **A value that passes a pattern without blanks** has none. -/
theorem unblank_of_checkPattern {facet literal : String} {r : Reading} (read : read? facet = some r)
    (solid : IsSolid r.pattern) (passes : checkPattern facet literal = .ok ()) :
    ∀ c ∈ literal.toList, isBlank c = false := by
  intro c mem
  obtain ⟨k, found⟩ := List.mem_iff_getElem?.1 mem
  have within : k < literal.length := (List.getElem?_eq_some_iff.1 found).1
  rw [← List.getElem?_toArray] at found
  exact solid c ((spans_of_checkPattern read passes).reads (Nat.zero_le k) within found)

end IsSolid

/-! ## Languages -/

/-- The letters of ASCII. -/
def asciiLetter : CharSet := .unionAll [.range 'a' 'z', .range 'A' 'Z']

/-- The letters and digits of ASCII. -/
def asciiAlphanumeric : CharSet := .unionAll [.range 'a' 'z', .range 'A' 'Z', .range '0' '9']

/-- Letters are no blanks. -/
theorem isSolid_asciiLetter : asciiLetter.IsSolid := by
  refine .unionAll ?_
  simp only [List.forall_mem_cons, List.not_mem_nil, false_imp_iff, implies_true, and_true]
  exact ⟨.range (by decide), .range (by decide)⟩

/-- Letters and digits are no blanks. -/
theorem isSolid_asciiAlphanumeric : asciiAlphanumeric.IsSolid := by
  refine .unionAll ?_
  simp only [List.forall_mem_cons, List.not_mem_nil, false_imp_iff, implies_true, and_true]
  exact ⟨.range (by decide), .range (by decide), .range (by decide)⟩

/-- A subtag of a language after the first, with the hyphen before it. -/
def subtag : Pattern :=
  sequence [ofSet false (.single '-'), (ofSet false asciiAlphanumeric).times 1 (some 8) true]

/-- The pattern of languages, as it is read. -/
theorem read?_language : read? "[a-zA-Z]\x7b1,8\x7d(-[a-zA-Z0-9]\x7b1,8\x7d)*" = some
    { pattern := sequence [(ofSet false asciiLetter).times 1 (some 8) true,
      (group 1 subtag).times 0 none true]
      depth := 7 } := rfl

/-- A part of a language behind a hyphen has no blanks. -/
theorem isSolid_subtag : IsSolid subtag := by
  refine .sequence ?_
  simp only [List.forall_mem_cons, List.not_mem_nil, false_imp_iff, implies_true, and_true]
  exact ⟨.ofSet (.single (by decide)), .times (.ofSet isSolid_asciiAlphanumeric)⟩

/-- **Languages have no blanks.** -/
theorem unblank_of_language {literal : String}
    (passes : checkPattern "[a-zA-Z]\x7b1,8\x7d(-[a-zA-Z0-9]\x7b1,8\x7d)*" literal = .ok ()) :
    ∀ c ∈ literal.toList, isBlank c = false := by
  refine IsSolid.unblank_of_checkPattern read?_language (.sequence ?_) passes
  simp only [List.forall_mem_cons, List.not_mem_nil, false_imp_iff, implies_true, and_true]
  exact ⟨.times (.ofSet isSolid_asciiLetter), .times (.group isSolid_subtag)⟩

/-! ## Name tokens and names -/

/-- What a name may begin with. -/
def nameStart : CharSet := .unionAll [.ofCategories Text.letters, .single '_', .single ':']

/-- What a name token consists of. -/
def nameChar : CharSet := .unionAll [.single '-', .single '.', .single ':', .word]

/-- What a name begins with is no blank. -/
theorem isSolid_nameStart : nameStart.IsSolid := by
  refine .unionAll ?_
  simp only [List.forall_mem_cons, List.not_mem_nil, false_imp_iff, implies_true, and_true]
  exact ⟨.letters, .single (by decide), .single (by decide)⟩

/-- What stands in a name is no blank. -/
theorem isSolid_nameChar : nameChar.IsSolid := by
  refine .unionAll ?_
  simp only [List.forall_mem_cons, List.not_mem_nil, false_imp_iff, implies_true, and_true]
  exact ⟨.single (by decide), .single (by decide), .single (by decide), .word⟩

/-- The pattern of name tokens, as it is read. -/
theorem read?_nameToken :
    read? "[-.:\\w]+" = some { pattern := (ofSet false nameChar).times 1 none true, depth := 3 } :=
      rfl

/-- **Name tokens have no blanks.** -/
theorem unblank_of_nameToken {literal : String}
    (passes : checkPattern "[-.:\\w]+" literal = .ok ()) :
    ∀ c ∈ literal.toList, isBlank c = false :=
  IsSolid.unblank_of_checkPattern read?_nameToken (.times (.ofSet isSolid_nameChar)) passes

/-- The pattern of names, as it is read. -/
theorem read?_name : read? "[\\p\x7bL\x7d_:][-.:\\w]*" = some
    { pattern := sequence [ofSet false nameStart, (ofSet false nameChar).times 0 none true],
      depth := 4 } := rfl

/-- **Names have no blanks.** -/
theorem unblank_of_name {literal : String}
    (passes : checkPattern "[\\p\x7bL\x7d_:][-.:\\w]*" literal = .ok ()) :
    ∀ c ∈ literal.toList, isBlank c = false := by
  refine IsSolid.unblank_of_checkPattern read?_name (.sequence ?_) passes
  simp only [List.forall_mem_cons, List.not_mem_nil, false_imp_iff, implies_true, and_true]
  exact ⟨.ofSet isSolid_nameStart, .times (.ofSet isSolid_nameChar)⟩

end SchemaBinding.Pattern
