import Mathlib.Data.List.Forall2
import SchemaBinding.Binding.Simple

/-!
# Chains of restrictions are conjunctions

A facet lets a value pass (`Facet.Holds`), is a bound that cannot be read
(`Facet.Unreadable`), or is broken by the value (`Facet.Breaks`). Checking one
level of facets passes when all of them hold and stops at the first bound that
cannot be read, or else at the first facet that is broken (`LevelStops`). So a
chain of restrictions passes when the built-in type at its root does and all
facets of all levels hold, and fails at the first level that does, from the root
on (`validate_iff`).
-/

namespace SchemaBinding

/-! ## Where a list stops -/

section

variable {α : Type}

/-- Whether a list goes on to a member: all members before it pass. -/
def GoesOnTo (passes : α → Prop) (l : List α) (a : α) : Prop :=
  ∃ before after, l = before ++ a :: after ∧ ∀ b ∈ before, passes b

variable {passes : α → Prop}

/-- What is gone on to is in the list. -/
theorem GoesOnTo.mem {l : List α} {a : α} (h : GoesOnTo passes l a) : a ∈ l := by
  obtain ⟨before, after, rfl, -⟩ := h
  exact List.mem_append_right _ (List.mem_cons_self ..)

/-- In an empty list nothing is gone on to. -/
theorem not_goesOnTo_nil {a : α} : ¬ GoesOnTo passes [] a := fun h => nomatch h.mem

/-- The first is gone on to, and if it passes, what the rest goes on to. -/
theorem goesOnTo_cons {first a : α} {rest : List α} :
    GoesOnTo passes (first :: rest) a ↔ a = first ∨ passes first ∧ GoesOnTo passes rest a := by
  constructor
  · rintro ⟨before, after, split, passed⟩
    cases before with
    | nil => exact .inl (List.cons.inj split).1.symm
    | cons b before =>
      obtain ⟨rfl, rfl⟩ := List.cons.inj split
      rw [List.forall_mem_cons] at passed
      exact .inr ⟨passed.1, before, after, rfl, passed.2⟩
  · rintro (rfl | ⟨passed, before, after, rfl, others⟩)
    · exact ⟨[], rest, rfl, List.forall_mem_nil _⟩
    · exact ⟨first :: before, after, rfl, List.forall_mem_cons.2 ⟨passed, others⟩⟩

end

/-- Whether a list stops with a violation: at a member, while all members before it pass. -/
def StopsWith {α : Type} (passes : α → Prop) (stops : α → Violation → Prop) (l : List α)
    (violation : Violation) : Prop :=
  ∃ before a after, l = before ++ a :: after ∧ (∀ b ∈ before, passes b) ∧ stops a violation

section

variable {α : Type} {passes : α → Prop} {stops : α → Violation → Prop} {violation : Violation}

/-- A list stops at a member that it goes on to. -/
theorem stopsWith_iff {l : List α} :
    StopsWith passes stops l violation ↔ ∃ a, GoesOnTo passes l a ∧ stops a violation := by
  constructor
  · rintro ⟨before, a, after, split, passed, stopped⟩
    exact ⟨a, ⟨before, after, split, passed⟩, stopped⟩
  · rintro ⟨a, ⟨before, after, split, passed⟩, stopped⟩
    exact ⟨before, a, after, split, passed, stopped⟩

/-- An empty list does not stop. -/
theorem not_stopsWith_nil : ¬ StopsWith passes stops [] violation := by
  rw [stopsWith_iff]
  exact fun ⟨_, none_, _⟩ => not_goesOnTo_nil none_

/-- A list stops at its first member, or behind it if this one passes. -/
theorem stopsWith_cons {a : α} {rest : List α} :
    StopsWith passes stops (a :: rest) violation ↔
      stops a violation ∨ passes a ∧ StopsWith passes stops rest violation := by
  simp only [stopsWith_iff, goesOnTo_cons, or_and_right, exists_or, exists_eq_left, and_assoc,
    exists_and_left]

/-- A list stops before its last member, or at it if all before pass. -/
theorem stopsWith_concat {l : List α} {a : α} :
    StopsWith passes stops (l ++ [a]) violation ↔
      StopsWith passes stops l violation ∨ (∀ b ∈ l, passes b) ∧ stops a violation := by
  induction l with
  | nil =>
    rw [List.nil_append, stopsWith_cons]
    simp [not_stopsWith_nil]
  | cons first rest ih =>
    rw [List.cons_append, stopsWith_cons, stopsWith_cons, ih, List.forall_mem_cons, and_or_left,
      or_assoc, and_assoc]

end

/-! ## Facets -/

namespace Facet

section

variable (space : Space)

/-- Whether a facet is a bound that cannot be read, and why. -/
inductive Unreadable : Facet → Violation → Prop
  | minInclusive {written : String} {violation : Violation}
      (unread : space.parse written = .error violation) :
      Unreadable (.minInclusive written) violation
  | maxInclusive {written : String} {violation : Violation}
      (unread : space.parse written = .error violation) :
      Unreadable (.maxInclusive written) violation

variable (value : space.Carrier) (literal : String)

/-- Whether a facet lets a value pass that is read from `literal`. A bound is kept by a value that
cannot be compared with it. -/
inductive Holds : Facet → Prop
  | minInclusive {written : String} {bound : space.Carrier} (read : space.parse written = .ok bound)
      (notBelow : space.compare value bound ≠ some .lt) : Holds (.minInclusive written)
  | maxInclusive {written : String} {bound : space.Carrier} (read : space.parse written = .ok bound)
      (notAbove : space.compare value bound ≠ some .gt) : Holds (.maxInclusive written)
  | enumeration {entries : List (String × String)} {entry : String × String}
      {denoted : space.Carrier}
      (listed : entry ∈ entries) (read : space.parse entry.1 = .ok denoted)
      (same : space.equal denoted value = true) : Holds (.enumeration entries)
  | pattern {written : String} {p : Pattern} (valid : Pattern.ofFacet? written = some p)
      (matched : p.matchesIn literal = true) : Holds (.pattern written)

/-- Whether a value that is read from `literal` breaks a facet, and with which violation. -/
inductive Breaks : Facet → Violation → Prop
  | below {written : String} {bound : space.Carrier} (read : space.parse written = .ok bound)
      (below : space.compare value bound = some .lt) :
      Breaks (.minInclusive written) (.belowMinimum (space.canonical value) (space.canonical bound))
  | above {written : String} {bound : space.Carrier} (read : space.parse written = .ok bound)
      (above : space.compare value bound = some .gt) :
      Breaks (.maxInclusive written) (.aboveMaximum (space.canonical value) (space.canonical bound))
  | notListed {entries : List (String × String)}
      (differs : ∀ entry ∈ entries, ∀ denoted, space.parse entry.1 = .ok denoted →
        space.equal denoted value = false) :
      Breaks (.enumeration entries) (.notListed literal (entries.map Prod.fst))
  | mismatch {written : String} {p : Pattern} (valid : Pattern.ofFacet? written = some p)
      (differs : p.matchesIn literal = false) :
      Breaks (.pattern written) (.mismatch literal written)
  | invalidPattern {written : String} (invalid : Pattern.ofFacet? written = none) :
      Breaks (.pattern written) (.invalidPattern written)

end

variable {space : Space} {facet : Facet} {value : space.Carrier} {literal : String}
  {violation : Violation}

/-- A facet is a rule of the space unless it is a bound that cannot be read. -/
theorem rule_eq_error_iff :
    facet.rule space = .error violation ↔ facet.Unreadable space violation := by
  cases facet with
  | minInclusive written =>
    rw [rule, map_eq_error_iff]
    exact ⟨.minInclusive, fun | .minInclusive unread => unread⟩
  | maxInclusive written =>
    rw [rule, map_eq_error_iff]
    exact ⟨.maxInclusive, fun | .maxInclusive unread => unread⟩
  | enumeration entries => exact ⟨nofun, nofun⟩
  | pattern written => exact ⟨nofun, nofun⟩

/-- A facet that holds has a bound that can be read. -/
theorem Holds.readable (h : facet.Holds space value literal) :
    ∀ cause, ¬ facet.Unreadable space cause := by
  intro cause unreadable
  cases h with
  | minInclusive read _ =>
    cases unreadable with
    | minInclusive unread => cases read.symm.trans unread
  | maxInclusive read _ =>
    cases unreadable with
    | maxInclusive unread => cases read.symm.trans unread
  | enumeration _ _ _ => cases unreadable
  | pattern _ _ => cases unreadable

/-- What holds of a value is not broken by it. -/
theorem Holds.not_breaks (h : facet.Holds space value literal) :
    ¬ facet.Breaks space value literal violation := by
  intro breaks
  cases h with
  | minInclusive read notBelow =>
    cases breaks with
    | below read' below =>
      cases read.symm.trans read'
      exact notBelow below
  | maxInclusive read notAbove =>
    cases breaks with
    | above read' above =>
      cases read.symm.trans read'
      exact notAbove above
  | enumeration listed read same =>
    cases breaks with
    | notListed differs => exact absurd same (Bool.eq_false_iff.1 (differs _ listed _ read))
  | pattern valid matched =>
    cases breaks with
    | mismatch valid' differs =>
      cases valid.symm.trans valid'
      exact absurd matched (Bool.eq_false_iff.1 differs)
    | invalidPattern invalid => cases valid.symm.trans invalid

/-- A value breaks a facet with one violation only. -/
theorem Breaks.unique {other : Violation} (h : facet.Breaks space value literal violation)
    (h' : facet.Breaks space value literal other) : violation = other := by
  cases h with
  | below read _ =>
    cases h' with
    | below read' _ => rw [Except.ok.inj (read.symm.trans read')]
  | above read _ =>
    cases h' with
    | above read' _ => rw [Except.ok.inj (read.symm.trans read')]
  | notListed _ =>
    cases h' with
    | notListed _ => rfl
  | mismatch valid _ =>
    cases h' with
    | mismatch _ _ => rfl
    | invalidPattern invalid => cases valid.symm.trans invalid
  | invalidPattern invalid =>
    cases h' with
    | mismatch valid _ => cases valid.symm.trans invalid
    | invalidPattern _ => rfl

end Facet

/-- A key denotes a value if it is read as one that equals it. -/
theorem keyDenotes_eq_true_iff {space : Space} {key : String} {value : space.Carrier} :
    keyDenotes space key value = true ↔
      ∃ denoted, space.parse key = .ok denoted ∧ space.equal denoted value = true := by
  unfold keyDenotes
  cases space.parse key with
  | error cause => exact ⟨nofun, fun ⟨_, read, _⟩ => nomatch read⟩
  | ok denoted =>
    exact ⟨fun same => ⟨denoted, rfl, same⟩, fun ⟨other, read, same⟩ => Except.ok.inj read ▸ same⟩

namespace Rule

variable {space : Space} {facet : Facet} {rule : Rule space} {value : space.Carrier}
  {literal : String} {violation : Violation}

/-- **A rule decides the facet that it is.** It is passed and the facet holds, or it reports how the
value breaks the facet. -/
theorem check_cases (h : facet.rule space = .ok rule) (value : space.Carrier) (literal : String) :
    rule.check value literal = .ok () ∧ facet.Holds space value literal ∨
      ∃ violation, rule.check value literal = .error violation ∧
        facet.Breaks space value literal violation := by
  cases facet with
  | minInclusive written =>
    obtain ⟨bound, read, rfl⟩ := map_eq_ok_iff.1 h
    rw [check]
    split
    · next below => exact .inr ⟨_, rfl, .below read below⟩
    · next notBelow => exact .inl ⟨rfl, .minInclusive read notBelow⟩
  | maxInclusive written =>
    obtain ⟨bound, read, rfl⟩ := map_eq_ok_iff.1 h
    rw [check]
    split
    · next above => exact .inr ⟨_, rfl, .above read above⟩
    · next notAbove => exact .inl ⟨rfl, .maxInclusive read notAbove⟩
  | enumeration entries =>
    obtain rfl := Except.ok.inj h
    rw [check]
    split
    · next listed =>
      obtain ⟨entry, mem, denotes⟩ := List.any_eq_true.1 listed
      obtain ⟨denoted, read, same⟩ := keyDenotes_eq_true_iff.1 denotes
      exact .inl ⟨rfl, .enumeration mem read same⟩
    · next notListed =>
      refine .inr ⟨_, rfl, .notListed fun entry mem denoted read => ?_⟩
      rw [Bool.eq_false_iff]
      intro same
      exact notListed (List.any_eq_true.2
        ⟨entry, mem, keyDenotes_eq_true_iff.2 ⟨denoted, read, same⟩⟩)
  | pattern written =>
    obtain rfl := Except.ok.inj h
    rw [check, checkPattern]
    cases valid : Pattern.ofFacet? written with
    | none => exact .inr ⟨_, rfl, .invalidPattern valid⟩
    | some p =>
      dsimp only
      split
      · next matched => exact .inl ⟨rfl, .pattern valid matched⟩
      · next differs => exact .inr ⟨_, rfl, .mismatch valid (Bool.eq_false_iff.2 differs)⟩

/-- **A rule is passed** if and only if its facet holds. -/
theorem check_eq_ok_iff (h : facet.rule space = .ok rule) :
    rule.check value literal = .ok () ↔ facet.Holds space value literal := by
  obtain ⟨passed, holds⟩ | ⟨violation, failed, breaks⟩ := check_cases h value literal
  · exact iff_of_true passed holds
  · rw [failed]
    exact iff_of_false nofun fun holds => holds.not_breaks breaks

/-- **A rule is broken** if and only if its facet is, with the same violation. -/
theorem check_eq_error_iff (h : facet.rule space = .ok rule) :
    rule.check value literal = .error violation ↔ facet.Breaks space value literal violation := by
  obtain ⟨passed, holds⟩ | ⟨cause, failed, breaks⟩ := check_cases h value literal
  · rw [passed]
    exact iff_of_false nofun holds.not_breaks
  · rw [failed]
    exact ⟨fun same => Except.error.inj same ▸ breaks, fun other =>
      congrArg Except.error (breaks.unique other)⟩

end Rule

/-! ## One level of facets -/

namespace Facet

variable {space : Space} {facets : List Facet} {value : space.Carrier} {literal : String}
  {violation : Violation}

/-- A facet that gives a rule has a bound that can be read. -/
theorem readable_of_rule {facet : Facet} {rule : Rule space} (h : facet.rule space = .ok rule) :
    ∀ cause, ¬ facet.Unreadable space cause :=
  fun _ unreadable => nomatch h.symm.trans (rule_eq_error_iff.2 unreadable)

/-- Facets that give rules have bounds that can be read. -/
theorem readable_of_rules {rules : List (Rule space)} (h : Facet.rules space facets = .ok rules) :
    ∀ facet ∈ facets, ∀ cause, ¬ facet.Unreadable space cause := by
  induction facets generalizing rules with
  | nil => exact List.forall_mem_nil _
  | cons facet rest ih =>
    obtain ⟨rule, others, first, later, -⟩ := rules_cons_eq_ok h
    exact List.forall_mem_cons.2 ⟨readable_of_rule first, ih later⟩

/-- Facets are rules of the space up to the first bound that cannot be read. -/
theorem rules_eq_error_iff : Facet.rules space facets = .error violation ↔
    StopsWith (fun facet => ∀ cause, ¬ facet.Unreadable space cause)
      (fun facet => facet.Unreadable space) facets violation := by
  induction facets with
  | nil => exact ⟨nofun, fun stops => absurd stops not_stopsWith_nil⟩
  | cons facet rest ih =>
    rw [Facet.rules, stopsWith_cons, ← ih, ← rule_eq_error_iff]
    cases first : facet.rule space with
    | error cause =>
      refine ⟨fun h => .inl (congrArg Except.error (Except.error.inj h)), ?_⟩
      rintro (same | ⟨readable, -⟩)
      · exact congrArg Except.error (Except.error.inj same)
      · exact absurd (rule_eq_error_iff.1 first) (readable cause)
    | ok rule =>
      have readable := readable_of_rule first
      cases later : Facet.rules space rest with
      | error cause =>
        refine ⟨fun h => .inr ⟨readable, h⟩, ?_⟩
        rintro (read | ⟨-, same⟩)
        · cases read
        · exact same
      | ok others =>
        refine ⟨nofun, ?_⟩
        rintro (read | ⟨-, same⟩)
        · cases read
        · cases same

variable {rules : List (Rule space)}

/-- **All rules are passed** if and only if all facets hold. -/
theorem checkAll_eq_ok_iff (h : Facet.rules space facets = .ok rules) :
    Rule.checkAll rules value literal = .ok () ↔
      ∀ facet ∈ facets, facet.Holds space value literal := by
  induction facets generalizing rules with
  | nil =>
    obtain rfl := Except.ok.inj h
    exact ⟨fun _ => List.forall_mem_nil _, fun _ => rfl⟩
  | cons facet rest ih =>
    obtain ⟨rule, others, first, later, rfl⟩ := rules_cons_eq_ok h
    rw [Rule.checkAll, List.forall_mem_cons, ← Rule.check_eq_ok_iff first, ← ih later]
    cases rule.check value literal with
    | error cause => exact ⟨nofun, fun h => nomatch h.1⟩
    | ok _ => exact ⟨fun h => ⟨rfl, h⟩, fun h => h.2⟩

/-- Rules are checked up to the first facet that is broken. -/
theorem checkAll_eq_error_iff (h : Facet.rules space facets = .ok rules) :
    Rule.checkAll rules value literal = .error violation ↔
      StopsWith (fun facet => facet.Holds space value literal)
        (fun facet => facet.Breaks space value literal) facets violation := by
  induction facets generalizing rules with
  | nil =>
    obtain rfl := Except.ok.inj h
    exact ⟨nofun, fun stops => absurd stops not_stopsWith_nil⟩
  | cons facet rest ih =>
    obtain ⟨rule, others, first, later, rfl⟩ := rules_cons_eq_ok h
    rw [Rule.checkAll, stopsWith_cons, ← Rule.check_eq_ok_iff first,
      ← Rule.check_eq_error_iff first, ← ih later]
    cases rule.check value literal with
    | error cause =>
      refine ⟨fun h => .inl h, ?_⟩
      rintro (same | ⟨passed, -⟩)
      · exact same
      · cases passed
    | ok _ =>
      refine ⟨fun h => .inr ⟨rfl, h⟩, ?_⟩
      rintro (failed | ⟨-, same⟩)
      · cases failed
      · exact same

end Facet

namespace SimpleType

/-- How checking one level of facets fails: at the first bound that cannot be read, or, if all of
them can, at the first facet that is broken. -/
inductive LevelStops (space : Space) (value : space.Carrier) (literal : String)
    (facets : List Facet) (violation : Violation) : Prop
  | bound (stops : StopsWith (fun facet => ∀ cause, ¬ facet.Unreadable space cause)
      (fun facet => facet.Unreadable space) facets violation)
  | facet (readable : ∀ facet ∈ facets, ∀ cause, ¬ facet.Unreadable space cause)
      (stops : StopsWith (fun facet => facet.Holds space value literal)
        (fun facet => facet.Breaks space value literal) facets violation)

section

variable {space : Space} {facets : List Facet} {value : space.Carrier} {literal : String}
  {violation : Violation}

/-- **A level is passed** if and only if all of its facets hold. -/
theorem checkLevel_eq_ok_iff :
    checkLevel space facets value literal = .ok () ↔
      ∀ facet ∈ facets, facet.Holds space value literal := by
  rw [checkLevel]
  cases bounds : Facet.rules space facets with
  | error cause =>
    refine ⟨nofun, fun hold => ?_⟩
    obtain ⟨before, facet, after, rfl, -, unreadable⟩ := Facet.rules_eq_error_iff.1 bounds
    exact absurd unreadable ((hold facet
      (List.mem_append_right before (List.mem_cons_self ..))).readable cause)
  | ok rules => exact Facet.checkAll_eq_ok_iff bounds

/-- **A level is broken** where it stops: at a bound that cannot be read, or at its first facet that
does not hold. -/
theorem checkLevel_eq_error_iff :
    checkLevel space facets value literal = .error violation ↔
      LevelStops space value literal facets violation := by
  rw [checkLevel]
  cases bounds : Facet.rules space facets with
  | error cause =>
    have stopped := Facet.rules_eq_error_iff.1 bounds
    constructor
    · intro same
      obtain rfl := Except.error.inj same
      exact .bound stopped
    · rintro (other | ⟨readable, -⟩)
      · exact congrArg Except.error
          (Except.error.inj (bounds.symm.trans (Facet.rules_eq_error_iff.2 other)))
      · obtain ⟨before, facet, after, rfl, -, unreadable⟩ := stopped
        exact absurd unreadable (readable facet
          (List.mem_append_right before (List.mem_cons_self ..)) cause)
  | ok rules =>
    have readable := Facet.readable_of_rules bounds
    constructor
    · intro failed
      exact .facet readable ((Facet.checkAll_eq_error_iff bounds).1 failed)
    · rintro (other | ⟨-, stops⟩)
      · cases bounds.symm.trans (Facet.rules_eq_error_iff.2 other)
      · exact (Facet.checkAll_eq_error_iff bounds).2 stops

end

/-! ## Chains -/

/-- Whether a type is another one or restricts it, in one step or in several. -/
inductive IsBasedOn (ancestor : SimpleType) : SimpleType → Prop
  | self : IsBasedOn ancestor ancestor
  | base {name : TypeName} {base : SimpleType} {facets : List Facet}
      (above : IsBasedOn ancestor base) : IsBasedOn ancestor (.restriction name base facets)

/-- All types of a chain are built on one space. -/
theorem IsBasedOn.space_eq {ancestor type : SimpleType} (h : IsBasedOn ancestor type) :
    type.space = ancestor.space := by
  induction h with
  | self => rfl
  | base _ ih => exact ih

/-- What a type accepts all types accept that it is based on. -/
theorem validate_of_isBasedOn {ancestor type : SimpleType} (h : IsBasedOn ancestor type)
    {value : type.space.Carrier} {literal : String}
    (passed : type.validate value literal = .ok ()) :
    ancestor.validate (h.space_eq ▸ value) literal = .ok () := by
  induction h with
  | self => exact passed
  | @base name base facets _ ih =>
    rw [validate] at passed
    obtain ⟨_, lower, -⟩ := exists_of_bind_eq_ok passed
    exact ih lower

/-- **A value is accepted** if and only if the built-in type accepts it and all facets of all levels
hold. -/
theorem validate_eq_ok_iff : ∀ {type : SimpleType} {value : type.space.Carrier} {literal : String},
    type.validate value literal = .ok () ↔ type.root.validate value literal = .ok () ∧
      ∀ level ∈ type.levels, ∀ facet ∈ level, facet.Holds type.space value literal
  | .builtin _, _, _ => ⟨fun h => ⟨h, List.forall_mem_nil _⟩, fun h => h.1⟩
  | .restriction name base facets, value, literal => by
    have ih := @validate_eq_ok_iff base value literal
    have level := @checkLevel_eq_ok_iff (restriction name base facets).space facets value literal
    rw [validate, levels, List.forall_mem_append, List.forall_mem_singleton, ← level, ← and_assoc]
    refine Iff.trans ?_ (and_congr_left' ih)
    cases base.validate value literal with
    | error cause => exact ⟨nofun, fun h => nomatch h.1⟩
    | ok _ => exact ⟨fun h => ⟨rfl, h⟩, fun h => h.2⟩

/-- **A value is refused** where the built-in type refuses it, or the first level stops that is not
passed. -/
theorem validate_eq_error_iff {violation : Violation} :
    ∀ {type : SimpleType} {value : type.space.Carrier} {literal : String},
    type.validate value literal = .error violation ↔
      type.root.validate value literal = .error violation ∨
      type.root.validate value literal = .ok () ∧
        StopsWith (fun level => ∀ facet ∈ level, facet.Holds type.space value literal)
          (LevelStops type.space value literal) type.levels violation
  | .builtin _, _, _ => ⟨.inl, fun h => h.elim id fun h => absurd h.2 not_stopsWith_nil⟩
  | .restriction name base facets, value, literal => by
    have ih := @validate_eq_error_iff violation base value literal
    have passes := @validate_eq_ok_iff base value literal
    have level := @checkLevel_eq_error_iff (restriction name base facets).space facets value
      literal violation
    rw [validate, levels, stopsWith_concat, ← level, and_or_left, ← or_assoc, ← and_assoc]
    refine Iff.trans ?_ (or_congr ih (and_congr_left' passes))
    cases base.validate value literal with
    | error cause =>
      refine ⟨fun h => .inl h, ?_⟩
      rintro (same | ⟨passed, -⟩)
      · exact same
      · cases passed
    | ok _ =>
      refine ⟨fun h => .inr ⟨rfl, h⟩, ?_⟩
      rintro (failed | ⟨-, same⟩)
      · cases failed
      · exact same

/-- **A chain of restrictions is a conjunction.** A value, read from a literal, passes a type if and
only if it passes the built-in type at the root of the chain and every facet of every level holds,
which for a bound includes that its literal can be read. What passes a type passes every type that
it is based on. When the check fails, it fails as the built-in type does, or, if that lets the value
pass, as the first level from the root on that does not let it pass: at the first bound of that
level that cannot be read, or else at its first facet that is broken. -/
theorem validate_iff (type : SimpleType) (value : type.space.Carrier) (literal : String) :
    (type.validate value literal = .ok () ↔ type.root.validate value literal = .ok () ∧
        ∀ level ∈ type.levels, ∀ facet ∈ level, facet.Holds type.space value literal) ∧
      (type.validate value literal = .ok () →
        ∀ (ancestor : SimpleType) (h : IsBasedOn ancestor type),
        ancestor.validate (h.space_eq ▸ value) literal = .ok ()) ∧
      (∀ violation, type.validate value literal = .error violation ↔
        type.root.validate value literal = .error violation ∨
          type.root.validate value literal = .ok () ∧
            StopsWith (fun level => ∀ facet ∈ level, facet.Holds type.space value literal)
              (LevelStops type.space value literal) type.levels violation) :=
  ⟨validate_eq_ok_iff, fun passed _ h => validate_of_isBasedOn h passed, fun _ =>
    validate_eq_error_iff⟩

end SimpleType

end SchemaBinding
