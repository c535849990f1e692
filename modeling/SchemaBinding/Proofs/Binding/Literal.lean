import SchemaBinding.Binding.Simple
import SchemaBinding.Proofs.Value.Canonical
import SchemaBinding.Proofs.Value.Whitespace

/-!
# Literals that are written again

A value is checked against the literal that it is read from, and written in its
canonical form. Only patterns look at the literal: when a value has passed all
checks with one literal, then with another one it passes exactly the patterns in
effect that this other literal matches (`validate_of_validate`). So for types
without enumeration the written text is read as `accept` takes the value
(`ofLiteral_text`), and `ofLiteral_text_iff` says when that is the value that was
written: always on texts, otherwise when the canonical form matches the patterns.
-/

namespace SchemaBinding

/-! ## Patterns in effect -/

/-- The pattern that a constraint is. -/
def Constraint.pattern? : Constraint → Option String
  | .matching p => some p
  | _ => none

/-- The pattern that a facet is. -/
def Facet.pattern? : Facet → Option String
  | .pattern p => some p
  | _ => none

/-- The pattern that a rule is. -/
def Rule.pattern? {space : Space} : Rule space → Option String
  | .pattern p => some p
  | _ => none

/-- The patterns in effect, those of the base first. -/
def SimpleType.patterns : SimpleType → List String
  | .builtin b => b.constraints.filterMap Constraint.pattern?
  | .restriction _ base facets => base.patterns ++ facets.filterMap Facet.pattern?

/-- Checks that a literal matches patterns, up to the first that it does not match. -/
def checkPatterns : List String → String → Except Violation Unit
  | [], _ => .ok ()
  | p :: rest, literal => (checkPattern p literal).bind fun _ => checkPatterns rest literal

theorem checkPatterns_append (patterns others : List String) (literal : String) :
    checkPatterns (patterns ++ others) literal
      = (checkPatterns patterns literal).bind fun _ => checkPatterns others literal := by
  induction patterns with
  | nil => rfl
  | cons p rest ih =>
    rw [List.cons_append, checkPatterns, checkPatterns, ih]
    cases checkPattern p literal <;> rfl

/-- A pattern that may be there is checked if it is. -/
theorem checkPatterns_filterMap_cons {α : Type} (pattern? : α → Option String) (a : α)
    (rest : List α) (literal : String) :
    checkPatterns ((a :: rest).filterMap pattern?) literal
      = (checkPatterns (pattern? a).toList literal).bind fun _ =>
        checkPatterns (rest.filterMap pattern?) literal := by
  rw [← checkPatterns_append, List.filterMap_cons]
  cases pattern? a <;> rfl

theorem checkPatterns_eq_ok_iff {patterns : List String} {literal : String} :
    checkPatterns patterns literal = .ok () ↔ ∀ p ∈ patterns, checkPattern p literal = .ok () := by
  induction patterns with
  | nil => exact ⟨fun _ p hp => absurd hp List.not_mem_nil, fun _ => rfl⟩
  | cons pattern rest ih =>
    rw [checkPatterns, List.forall_mem_cons, ← ih]
    cases checkPattern pattern literal with
    | error violation => exact ⟨nofun, fun h => nomatch h.1⟩
    | ok _ => exact ⟨fun h => ⟨rfl, h⟩, fun h => h.2⟩

/-- What fails is the first pattern that the literal does not match. -/
theorem exists_of_checkPatterns_eq_error {patterns : List String} {literal : String}
    {violation : Violation} (h : checkPatterns patterns literal = .error violation) :
    ∃ before p after, patterns = before ++ p :: after ∧
      (∀ q ∈ before, checkPattern q literal = .ok ()) ∧
      checkPattern p literal = .error violation := by
  induction patterns with
  | nil => cases h
  | cons pattern rest ih =>
    rw [checkPatterns] at h
    cases first : checkPattern pattern literal with
    | error other =>
      rw [first] at h
      exact ⟨[], pattern, rest, rfl, fun q hq => absurd hq List.not_mem_nil, first.trans h⟩
    | ok _ =>
      rw [first] at h
      obtain ⟨before, p, after, rfl, passed, failed⟩ := ih h
      exact ⟨pattern :: before, p, after, rfl, List.forall_mem_cons.2 ⟨first, passed⟩, failed⟩

/-- A pattern that some literal matches can only fail because another one does not match it. -/
theorem eq_mismatch_of_checkPattern {pattern literal other : String} {violation : Violation}
    (matched : checkPattern pattern literal = .ok ())
    (failed : checkPattern pattern other = .error violation) :
    violation = .mismatch other pattern := by
  unfold checkPattern at matched failed
  cases known : Pattern.ofFacet? pattern with
  | none => rw [known] at matched; cases matched
  | some p =>
    rw [known] at failed
    dsimp only at failed
    split at failed
    · cases failed
    · exact (Except.error.inj failed).symm

/-! ## Checking with another literal -/

theorem checkPatterns_singleton (p literal : String) :
    checkPatterns [p] literal = checkPattern p literal := by
  rw [checkPatterns]
  cases checkPattern p literal <;> rfl

theorem Constraint.check_of_check {constraint : Constraint} {space : Space} {v : space.Carrier}
    {literal : String} (h : constraint.check space v literal = .ok ()) (other : String) :
    constraint.check space v other = checkPatterns constraint.pattern?.toList other := by
  cases constraint with
  | matching p => exact (checkPatterns_singleton p other).symm
  | _ => exact h

theorem SimpleBuiltin.validate_of_validate {builtin : SimpleBuiltin} {v : builtin.space.Carrier}
    {literal : String} (h : builtin.validate v literal = .ok ()) (other : String) :
    builtin.validate v other = checkPatterns (builtin.constraints.filterMap Constraint.pattern?)
      other := by
  unfold validate at h ⊢
  generalize builtin.constraints = constraints at h ⊢
  induction constraints with
  | nil => rfl
  | cons constraint rest ih =>
    rw [List.forM_eq_forM, List.forM_cons] at h ⊢
    obtain ⟨_, first, h⟩ := exists_of_bind_eq_ok h
    have later := ih h
    rw [List.forM_eq_forM] at later
    rw [checkPatterns_filterMap_cons, Constraint.check_of_check first, later]
    rfl

theorem Rule.check_of_check {space : Space} {rule : Rule space} {v : space.Carrier}
    {literal : String} (h : rule.check v literal = .ok ()) (other : String) :
    rule.check v other = checkPatterns rule.pattern?.toList other := by
  cases rule with
  | pattern p => exact (checkPatterns_singleton p other).symm
  | enumeration entries =>
    change Rule.check (.enumeration entries) v other = .ok ()
    rw [Rule.check] at h ⊢
    split at h
    · next listed => rw [if_pos listed]
    · cases h
  | minInclusive bound => exact h
  | maxInclusive bound => exact h

theorem Rule.checkAll_of_checkAll {space : Space} {rules : List (Rule space)} {v : space.Carrier}
    {literal : String} (h : checkAll rules v literal = .ok ()) (other : String) :
    checkAll rules v other = checkPatterns (rules.filterMap Rule.pattern?) other := by
  induction rules with
  | nil => rfl
  | cons rule rest ih =>
    rw [checkAll] at h ⊢
    obtain ⟨_, first, h⟩ := exists_of_bind_eq_ok h
    rw [checkPatterns_filterMap_cons, Rule.check_of_check first, ih h]
    rfl

theorem Facet.pattern?_of_rule {space : Space} {facet : Facet} {rule : Rule space}
    (h : facet.rule space = .ok rule) : rule.pattern? = facet.pattern? := by
  cases facet with
  | minInclusive literal =>
    obtain ⟨bound, -, rfl⟩ := map_eq_ok_iff.1 h
    rfl
  | maxInclusive literal =>
    obtain ⟨bound, -, rfl⟩ := map_eq_ok_iff.1 h
    rfl
  | enumeration entries => obtain rfl := Except.ok.inj h; rfl
  | pattern pattern => obtain rfl := Except.ok.inj h; rfl

/-- The rules that facets are have the patterns of the facets. -/
theorem Facet.pattern?_of_rules {space : Space} {facets : List Facet} {rules : List (Rule space)}
    (h : Facet.rules space facets = .ok rules) :
    rules.filterMap Rule.pattern? = facets.filterMap Facet.pattern? := by
  induction facets generalizing rules with
  | nil => obtain rfl := Except.ok.inj h; rfl
  | cons facet rest ih =>
    obtain ⟨rule, more, first, others, rfl⟩ := Facet.rules_cons_eq_ok h
    rw [List.filterMap_cons, List.filterMap_cons, Facet.pattern?_of_rule first, ih others]

namespace SimpleType

/-- **Checking with another literal.** Only the patterns in effect are left to be checked, those of
the base first. -/
theorem validate_of_validate : ∀ {type : SimpleType} {v : type.space.Carrier} {literal : String},
    type.validate v literal = .ok () →
      ∀ other, type.validate v other = checkPatterns type.patterns other
  | .builtin _, _, _, h, other => SimpleBuiltin.validate_of_validate h other
  | .restriction name base facets, v, literal, h, other => by
    rw [validate] at h ⊢
    obtain ⟨_, lower, h⟩ := exists_of_bind_eq_ok h
    have level : checkLevel (restriction name base facets).space facets v other
        = checkPatterns (facets.filterMap Facet.pattern?) other := by
      obtain ⟨rules, bounds, h⟩ := exists_of_bind_eq_ok h
      rw [checkLevel, bounds, ← Facet.pattern?_of_rules bounds]
      exact Rule.checkAll_of_checkAll h other
    rw [patterns, checkPatterns_append, validate_of_validate lower other, level]
    rfl

/-! ## Reading what is written -/

variable {type : SimpleType}

/-- A type without enumeration writes canonical forms. -/
theorem text_of_plain (plain : type.enumeration? = none) (v : type.space.Carrier) :
    type.text v = type.space.canonical v := by
  rw [text, plain]
  rfl

theorem keyOf_of_plain (plain : type.enumeration? = none) (literal : String) :
    type.keyOf literal = literal := by
  rw [keyOf, plain]

/-- **Reading a literal**: the key that it stands for, after the treatment of white space, denotes
the value and passes the checks with it. -/
theorem ofLiteral_eq_ok_iff {literal : String} {v : type.space.Carrier} :
    type.ofLiteral literal = .ok v ↔
      type.space.parse (type.keyOf (type.whitespace.apply literal)) = .ok v ∧
        type.validate v (type.keyOf (type.whitespace.apply literal)) = .ok () := by
  simp only [ofLiteral]
  cases type.space.parse (type.keyOf (type.whitespace.apply literal)) with
  | error violation => exact ⟨nofun, fun h => nomatch h.1⟩
  | ok found =>
    change (type.validate found _ >>= fun _ => pure found) = _ ↔ _
    constructor
    · intro h
      obtain ⟨_, checked, h⟩ := exists_of_bind_eq_ok h
      obtain rfl := Except.ok.inj h
      exact ⟨rfl, checked⟩
    · rintro ⟨same, checked⟩
      obtain rfl := Except.ok.inj same
      rw [checked]
      rfl

/-- Reading a literal of a type without enumeration, where a literal stands for itself. -/
theorem ofLiteral_eq_ok_iff_of_plain (plain : type.enumeration? = none) {literal : String}
    {v : type.space.Carrier} :
    type.ofLiteral literal = .ok v ↔ type.space.parse (type.whitespace.apply literal) = .ok v ∧
      type.validate v (type.whitespace.apply literal) = .ok () := by
  rw [ofLiteral_eq_ok_iff, keyOf_of_plain plain]

end SimpleType

/-- A text is its own canonical form. -/
theorem Space.canonical_of_text {space : Space} (text : space = .text) {literal : String}
    {v : space.Carrier} (h : space.parse literal = .ok v) : space.canonical v = literal := by
  subst text
  exact (Except.ok.inj h).symm

/-- The canonical form of a value that is read after a treatment of white space is left as it is by
that treatment. -/
theorem Space.apply_canonical {space : Space} (exact : space.IsExact) {mode : Whitespace}
    {literal : String} {v : space.Carrier} (h : space.parse (mode.apply literal) = .ok v) :
    mode.apply (space.canonical v) = space.canonical v := by
  by_cases text : space = .text
  · rw [Space.canonical_of_text text h, Whitespace.apply_apply]
  · exact Whitespace.apply_of_unblank mode (Space.unblank_canonical exact text v)

namespace SimpleType

variable {type : SimpleType}

/-- **The written text is read as the value is accepted directly**, with the checks on its canonical
form. -/
theorem ofLiteral_text (exact : type.space.IsExact) (plain : type.enumeration? = none)
    {literal : String} {v : type.space.Carrier} (h : type.ofLiteral literal = .ok v) :
    type.ofLiteral (type.text v) = type.accept v := by
  obtain ⟨parsed, -⟩ := (ofLiteral_eq_ok_iff_of_plain plain).1 h
  rw [text_of_plain plain]
  simp only [ofLiteral, keyOf_of_plain plain, Space.apply_canonical exact parsed,
    Space.parse_canonical exact parsed]
  rfl

/-- **Only patterns stand in the way** of reading a written text as the value. -/
theorem ofLiteral_text_eq_checkPatterns (exact : type.space.IsExact)
    (plain : type.enumeration? = none) {literal : String} {v : type.space.Carrier}
    (h : type.ofLiteral literal = .ok v) :
    type.ofLiteral (type.text v) =
      (checkPatterns type.patterns (type.space.canonical v)).bind fun _ => .ok v := by
  obtain ⟨-, checked⟩ := (ofLiteral_eq_ok_iff_of_plain plain).1 h
  rw [ofLiteral_text exact plain h, accept, validate_of_validate checked]
  rfl

/-- The patterns in effect match the literals that denote a value, after the treatment of white
space. -/
theorem checkPatterns_of_ofLiteral (plain : type.enumeration? = none) {literal : String}
    {v : type.space.Carrier} (h : type.ofLiteral literal = .ok v) :
    checkPatterns type.patterns (type.whitespace.apply literal) = .ok () := by
  obtain ⟨-, checked⟩ := (ofLiteral_eq_ok_iff_of_plain plain).1 h
  exact (validate_of_validate checked _).symm.trans checked

/-- Texts are read again, whatever patterns are in effect. -/
theorem ofLiteral_text_of_text (plain : type.enumeration? = none) (text : type.space = .text)
    {literal : String} {v : type.space.Carrier} (h : type.ofLiteral literal = .ok v) :
    type.ofLiteral (type.text v) = .ok v := by
  have exact : type.space.IsExact := by rw [text]; exact .text
  obtain ⟨parsed, -⟩ := (ofLiteral_eq_ok_iff_of_plain plain).1 h
  rw [ofLiteral_text_eq_checkPatterns exact plain h, Space.canonical_of_text text parsed,
    checkPatterns_of_ofLiteral plain h]
  rfl

/-- **Which written texts are read again.** Let a type without enumeration be built on texts, truth
values, integers or decimals, and let a literal denote a value. The text that is written for the
value is read as the same value if and only if the canonical form matches every pattern in effect.
This always holds on texts; otherwise reading fails because of the first pattern that the canonical
form does not match. -/
theorem ofLiteral_text_iff (exact : type.space.IsExact) (plain : type.enumeration? = none)
    {literal : String} {v : type.space.Carrier} (h : type.ofLiteral literal = .ok v) :
    (type.ofLiteral (type.text v) = .ok v ↔
        ∀ p ∈ type.patterns, checkPattern p (type.space.canonical v) = .ok ()) ∧
      (∀ violation, type.ofLiteral (type.text v) = .error violation →
        ∃ before p after, type.patterns = before ++ p :: after ∧
          (∀ q ∈ before, checkPattern q (type.space.canonical v) = .ok ()) ∧
          violation = .mismatch (type.space.canonical v) p) ∧
      (type.space = .text → type.ofLiteral (type.text v) = .ok v) := by
  have again := ofLiteral_text_eq_checkPatterns exact plain h
  refine ⟨?_, fun violation failed => ?_, fun text => ofLiteral_text_of_text plain text h⟩
  · rw [again, ← checkPatterns_eq_ok_iff]
    cases checkPatterns type.patterns (type.space.canonical v) with
    | error violation => exact ⟨nofun, nofun⟩
    | ok _ => exact ⟨fun _ => rfl, fun _ => rfl⟩
  · rw [again] at failed
    cases found : checkPatterns type.patterns (type.space.canonical v) with
    | ok _ => rw [found] at failed; cases failed
    | error other =>
      rw [found] at failed
      obtain rfl := Except.error.inj failed
      obtain ⟨before, p, after, split, passed, stopped⟩ := exists_of_checkPatterns_eq_error found
      have matched := checkPatterns_eq_ok_iff.1 (checkPatterns_of_ofLiteral plain h) p
        (split ▸ List.mem_append_right before (List.mem_cons_self ..))
      exact ⟨before, p, after, split, passed, eq_mismatch_of_checkPattern matched stopped⟩

/-- The truth value of which only the digit is a literal. -/
def digitFlag : SimpleType := .restriction ⟨"Flag", "urn:t"⟩ (.builtin .boolean) [.pattern "1"]

theorem ofLiteral_digitFlag : digitFlag.ofLiteral "1" = .ok true := by rfl

theorem ofLiteral_text_iff_digitFlag :
    digitFlag.ofLiteral "1" = .ok true ∧
      ((digitFlag.ofLiteral (digitFlag.text true) = .ok true ↔
          ∀ p ∈ digitFlag.patterns, checkPattern p (digitFlag.space.canonical true) = .ok ()) ∧
        (∀ violation, digitFlag.ofLiteral (digitFlag.text true) = .error violation →
          ∃ before p after, digitFlag.patterns = before ++ p :: after ∧
            (∀ q ∈ before, checkPattern q (digitFlag.space.canonical true) = .ok ()) ∧
            violation = .mismatch (digitFlag.space.canonical true) p) ∧
        (digitFlag.space = .text → digitFlag.ofLiteral (digitFlag.text true) = .ok true)) :=
  ⟨ofLiteral_digitFlag, @ofLiteral_text_iff digitFlag .boolean rfl _ _ ofLiteral_digitFlag⟩

/-- Not every literal that is read is written as one that is read: for a flag that is read from the
digit the word is written, which its pattern does not match. -/
theorem not_ofLiteral_text :
    ¬ ∀ (type : SimpleType) (literal : String) (v : type.space.Carrier), type.space.IsExact →
      type.enumeration? = none → type.ofLiteral literal = .ok v →
        type.ofLiteral (type.text v) = .ok v := by
  intro all
  have again := all digitFlag "1" true .boolean rfl ofLiteral_digitFlag
  rw [@ofLiteral_text_eq_checkPatterns digitFlag .boolean rfl _ _ ofLiteral_digitFlag] at again
  have refused : (checkPattern "1" "true").isOk = false := by decide +kernel
  change (checkPatterns ["1"] "true").bind (fun _ => .ok true) = .ok true at again
  rw [checkPatterns_singleton] at again
  cases failed : checkPattern "1" "true" with
  | ok _ => rw [failed] at refused; cases refused
  | error violation => rw [failed] at again; cases again

end SimpleType

end SchemaBinding
