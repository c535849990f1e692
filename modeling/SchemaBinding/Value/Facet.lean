import SchemaBinding.Value.Space
import SchemaBinding.Pattern.Syntax

/-!
# Facets

Source: `SPEC_FULL.md`, 3 (restriction rules) and 4.3; `builtins/restriction`
(`check`, `check_all`, `pattern_matches`) and `builtins/meta`
(`enumeration_key_matches`).

A facet restricts the values of a type: by a bound, by a list of keys, or by a
pattern of its literals. A facet as written holds the literal of its bound; a
rule holds the bound as a value of the space it restricts.
-/

namespace SchemaBinding

/-- A facet as written. An enumeration maps its keys to the texts shown for them. -/
inductive Facet where
  | minInclusive (literal : String)
  | maxInclusive (literal : String)
  | enumeration (entries : List (String × String))
  | pattern (pattern : String)
  deriving DecidableEq, Repr

/-- The entries of an enumeration that a facet is. -/
def Facet.entries? : Facet → Option (List (String × String))
  | .enumeration entries => some entries
  | _ => none

/-- A facet that restricts a space. -/
inductive Rule (space : Space) where
  | minInclusive (bound : space.Carrier)
  | maxInclusive (bound : space.Carrier)
  | enumeration (entries : List (String × String))
  | pattern (pattern : String)

/-- Whether a key denotes a value. Keys are compared as values, not as texts. -/
def keyDenotes (space : Space) (key : String) (value : space.Carrier) : Bool :=
  match space.parse key with
  | .ok denoted => space.equal denoted value
  | .error _ => false

/-- Checks that a literal matches a pattern from its first to its last character. -/
def checkPattern (pattern literal : String) : Except Violation Unit :=
  match Pattern.ofFacet? pattern with
  | none => .error (.invalidPattern pattern)
  | some p => if p.matchesIn literal then .ok () else .error (.mismatch literal pattern)

/-- The rule that a facet is for a space. The literal of a bound has to be one of the space. -/
def Facet.rule (space : Space) : Facet → Except Violation (Rule space)
  | .minInclusive literal => (space.parse literal).map .minInclusive
  | .maxInclusive literal => (space.parse literal).map .maxInclusive
  | .enumeration entries => .ok (.enumeration entries)
  | .pattern p => .ok (.pattern p)

namespace Rule

variable {space : Space}

/-- Checks a value, read from `literal`, against a rule. A bound is kept by every value that cannot
be compared with it, and only patterns look at the literal. -/
def check (rule : Rule space) (value : space.Carrier) (literal : String) : Except Violation Unit :=
  match rule with
  | .minInclusive bound =>
    if space.compare value bound = some .lt then
      .error (.belowMinimum (space.canonical value) (space.canonical bound))
    else .ok ()
  | .maxInclusive bound =>
    if space.compare value bound = some .gt then
      .error (.aboveMaximum (space.canonical value) (space.canonical bound))
    else .ok ()
  | .enumeration entries =>
    if entries.any fun entry => keyDenotes space entry.1 value then .ok ()
    else .error (.notListed literal (entries.map (·.1)))
  | .pattern p => checkPattern p literal

/-- Checks a value against rules in order, up to the first that it breaks. -/
def checkAll : List (Rule space) → space.Carrier → String → Except Violation Unit
  | [], _, _ => .ok ()
  | rule :: rest, value, literal => do
    rule.check value literal
    checkAll rest value literal

end Rule

/-- The rules that facets are for a space, in order, up to the first bound that is no literal of the
space. -/
def Facet.rules (space : Space) : List Facet → Except Violation (List (Rule space))
  | [] => .ok []
  | facet :: rest => do
    let rule ← facet.rule space
    return rule :: (← Facet.rules space rest)

theorem Facet.rules_cons_eq_ok {space : Space} {facet : Facet} {rest : List Facet}
    {rules : List (Rule space)} (h : Facet.rules space (facet :: rest) = .ok rules) :
    ∃ rule others, facet.rule space = .ok rule ∧ Facet.rules space rest = .ok others ∧
      rules = rule :: others := by
  obtain ⟨rule, first, h⟩ := exists_of_bind_eq_ok h
  obtain ⟨others, later, h⟩ := exists_of_bind_eq_ok h
  exact ⟨rule, others, first, later, (Except.ok.inj h).symm⟩

end SchemaBinding
