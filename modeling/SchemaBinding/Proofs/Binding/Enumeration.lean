import SchemaBinding.Proofs.Binding.Chain
import SchemaBinding.Proofs.Binding.Literal
import SchemaBinding.Proofs.Value.Equality

/-!
# Reading enumerated values

A literal of an enumerated type stands for the key of the first entry that is
displayed by it, and for itself when there is none. A value passes the
checks as all values equal to it do (`validate_congr`). So a literal is read as
an accepted value when the key that it stands for, once its white space has been
treated, denotes the value and matches the patterns in effect
(`reads_iff_standsFor`). For texts that this treatment leaves as they are, that
tells when displays, keys and written texts are read
(`reads_iff_of_enumeration`).
-/

namespace SchemaBinding

/-! ## Checking equal values -/

theorem Constraint.check_congr {constraint : Constraint} {space : Space} {a b : space.Carrier}
    (h : space.equal a b = true) (literal : String) :
    constraint.check space a literal = constraint.check space b literal := by
  cases space with
  | text => rw [Space.eq_of_equal_text h]
  | integer range => rw [Space.eq_of_equal_integer h]
  | _ => cases constraint <;> rfl

theorem SimpleBuiltin.validate_congr {builtin : SimpleBuiltin} {a b : builtin.space.Carrier}
    (h : builtin.space.equal a b = true) (literal : String) :
    builtin.validate a literal = builtin.validate b literal := by
  unfold validate
  exact congrArg builtin.constraints.forM (funext fun _ => Constraint.check_congr h literal)

theorem Facet.Holds.congr {facet : Facet} {space : Space} {a b : space.Carrier} {literal : String}
    (holds : facet.Holds space a literal) (h : space.equal a b = true) :
    facet.Holds space b literal := by
  cases holds with
  | minInclusive read notBelow => exact .minInclusive read ((Space.compare_congr h _).1 ▸ notBelow)
  | maxInclusive read notAbove => exact .maxInclusive read ((Space.compare_congr h _).1 ▸ notAbove)
  | enumeration listed read same => exact .enumeration listed read (Space.equal_congr h _ ▸ same)
  | pattern valid matched => exact .pattern valid matched

namespace SimpleType

variable {type : SimpleType}

/-- **What a value passes, an equal value passes.** -/
theorem validate_congr {a b : type.space.Carrier} (h : type.space.equal a b = true)
    {literal : String} (passed : type.validate a literal = .ok ()) :
    type.validate b literal = .ok () := by
  obtain ⟨root, facets⟩ := validate_eq_ok_iff.1 passed
  exact validate_eq_ok_iff.2 ⟨(SimpleBuiltin.validate_congr h literal).symm.trans root,
    fun level hlevel facet hfacet => (facets level hlevel facet hfacet).congr h⟩

theorem accept_eq_ok_iff {v : type.space.Carrier} :
    type.accept v = .ok v ↔ type.validate v (type.space.canonical v) = .ok () := by
  rw [accept]
  cases type.validate v (type.space.canonical v) with
  | error violation =>
    constructor
    · intro same
      cases same
    · intro same
      cases same
  | ok _ => exact ⟨fun _ => rfl, fun _ => rfl⟩

/-! ## The enumeration in effect -/

variable {entries : List (String × String)}

/-- The enumeration in effect is a facet of some level. -/
theorem exists_level_of_enumeration : ∀ {type : SimpleType}, type.enumeration? = some entries →
    ∃ level ∈ type.levels, .enumeration entries ∈ level
  | .builtin _, h => nomatch h
  | .restriction _ base facets, h => by
    rw [enumeration?, Option.or_eq_some_iff] at h
    rcases h with own | ⟨-, inherited⟩
    · obtain ⟨facet, mem, found⟩ := List.exists_of_findSome?_eq_some own
      cases facet <;> cases found
      exact ⟨facets, List.mem_append_right _ (List.mem_singleton_self _), mem⟩
    · obtain ⟨level, hlevel, mem⟩ := exists_level_of_enumeration inherited
      exact ⟨level, List.mem_append_left _ hlevel, mem⟩

/-- An accepted value is denoted by a key of the enumeration in effect. -/
theorem exists_entry_of_accept (enumerated : type.enumeration? = some entries)
    {v : type.space.Carrier} (accepted : type.accept v = .ok v) :
    ∃ entry ∈ entries, keyDenotes type.space entry.1 v = true := by
  obtain ⟨level, hlevel, mem⟩ := exists_level_of_enumeration enumerated
  obtain ⟨-, facets⟩ := validate_eq_ok_iff.1 (accept_eq_ok_iff.1 accepted)
  cases facets level hlevel _ mem with
  | enumeration listed read same => exact ⟨_, listed, keyDenotes_eq_true_iff.2 ⟨_, read, same⟩⟩

/-- What is written for an accepted value is the display text of an entry that denotes it. -/
theorem exists_entry_of_text (enumerated : type.enumeration? = some entries)
    {v : type.space.Carrier} (accepted : type.accept v = .ok v) :
    ∃ entry ∈ entries, keyDenotes type.space entry.1 v = true ∧ type.text v = entry.2 := by
  obtain ⟨entry, mem, denotes⟩ := exists_entry_of_accept enumerated accepted
  cases found : entries.find? (fun entry => keyDenotes type.space entry.1 v) with
  | none => exact absurd denotes (List.find?_eq_none.1 found entry mem)
  | some first =>
    have holds := List.find?_some found
    refine ⟨first, List.mem_of_find?_eq_some found, holds, ?_⟩
    rw [text, enumerated, Option.bind_some, found]

theorem keyOf_of_find? (enumerated : type.enumeration? = some entries) {literal : String}
    {first : String × String} (found : entries.find? (·.2 = literal) = some first) :
    type.keyOf literal = first.1 := by
  rw [keyOf, enumerated]
  dsimp only
  rw [found]
  rfl

theorem keyOf_of_undisplayed (enumerated : type.enumeration? = some entries) {literal : String}
    (undisplayed : entries.find? (·.2 = literal) = none) : type.keyOf literal = literal := by
  rw [keyOf, enumerated]
  dsimp only
  rw [undisplayed]
  rfl

/-! ## Reading -/

/-- Whether a literal is read as a value, up to equality of values. -/
def Reads (type : SimpleType) (literal : String) (v : type.space.Carrier) : Prop :=
  ∃ found, type.ofLiteral literal = .ok found ∧ type.space.equal found v = true

/-- Whether a key denotes a value and matches the patterns in effect. -/
def StandsFor (type : SimpleType) (key : String) (v : type.space.Carrier) : Prop :=
  keyDenotes type.space key v = true ∧ ∀ p ∈ type.patterns, checkPattern p key = .ok ()

/-- **Which literals are read as an accepted value**: those that stand, once their white space has
been treated, for a key that denotes the value and matches the patterns in effect. -/
theorem reads_iff_standsFor {v : type.space.Carrier} (accepted : type.accept v = .ok v)
    (literal : String) :
    type.Reads literal v ↔ type.StandsFor (type.keyOf (type.whitespace.apply literal)) v := by
  constructor
  · rintro ⟨found, read, same⟩
    rw [ofLiteral_eq_ok_iff] at read
    obtain ⟨parsed, checked⟩ := read
    refine ⟨keyDenotes_eq_true_iff.2 ⟨found, parsed, same⟩, ?_⟩
    rw [← checkPatterns_eq_ok_iff, ← validate_of_validate checked]
    exact checked
  · rintro ⟨denotes, matched⟩
    obtain ⟨found, parsed, same⟩ := keyDenotes_eq_true_iff.1 denotes
    refine ⟨found, ?_, same⟩
    rw [ofLiteral_eq_ok_iff]
    -- The value that is read passes the checks as the accepted value does, up to the patterns.
    have checked := validate_congr (Space.equal_comm same) (accept_eq_ok_iff.1 accepted)
    refine ⟨parsed, (validate_of_validate checked _).trans ?_⟩
    exact checkPatterns_eq_ok_iff.2 matched

/-- A display text is read as the first entry with it tells. -/
theorem reads_display_iff (enumerated : type.enumeration? = some entries) {v : type.space.Carrier}
    (accepted : type.accept v = .ok v) {entry : String × String} (mem : entry ∈ entries)
    (stable : type.whitespace.apply entry.2 = entry.2) :
    type.Reads entry.2 v ↔ ∃ first, entries.find? (·.2 = entry.2) = some first ∧
      type.StandsFor first.1 v := by
  rw [reads_iff_standsFor accepted, stable]
  cases found : entries.find? (·.2 = entry.2) with
  | none => exact absurd (decide_eq_true rfl) (List.find?_eq_none.1 found entry mem)
  | some first =>
    rw [keyOf_of_find? enumerated found]
    exact ⟨fun h => ⟨first, rfl, h⟩, fun ⟨other, same, h⟩ => Option.some.inj same ▸ h⟩

/-- A key is read as the first entry tells that it is the display text of, and as itself when there
is none. -/
theorem reads_key_iff (enumerated : type.enumeration? = some entries) {v : type.space.Carrier}
    (accepted : type.accept v = .ok v) {key : String} (stable : type.whitespace.apply key = key) :
    type.Reads key v ↔ (∃ first, entries.find? (·.2 = key) = some first ∧
      type.StandsFor first.1 v) ∨
      (∀ entry ∈ entries, entry.2 ≠ key) ∧ type.StandsFor key v := by
  rw [reads_iff_standsFor accepted, stable]
  cases found : entries.find? (·.2 = key) with
  | none =>
    rw [keyOf_of_undisplayed enumerated found]
    have undisplayed : ∀ entry ∈ entries, entry.2 ≠ key := fun entry mem same =>
      List.find?_eq_none.1 found entry mem (decide_eq_true same)
    exact ⟨fun h => .inr ⟨undisplayed, h⟩, fun h =>
      h.elim (fun ⟨_, same, _⟩ => nomatch same) And.right⟩
  | some first =>
    have displayed := List.find?_some found
    rw [keyOf_of_find? enumerated found]
    refine ⟨fun h => .inl ⟨first, rfl, h⟩, ?_⟩
    rintro (⟨other, same, h⟩ | ⟨undisplayed, -⟩)
    · exact Option.some.inj same ▸ h
    · exact absurd (of_decide_eq_true displayed)
        (undisplayed first (List.mem_of_find?_eq_some found))

/-- The key of an entry stands for the accepted value that it denotes when it matches the patterns
in effect. -/
theorem standsFor_iff_of_parse (enumerated : type.enumeration? = some entries) {key : String}
    {v : type.space.Carrier} (parsed : type.space.parse key = .ok v)
    (accepted : type.accept v = .ok v) :
    type.StandsFor key v ↔ ∀ p ∈ type.patterns, checkPattern p key = .ok () := by
  obtain ⟨entry, -, denotes⟩ := exists_entry_of_accept enumerated accepted
  obtain ⟨denoted, -, same⟩ := keyDenotes_eq_true_iff.1 denotes
  exact and_iff_right (keyDenotes_eq_true_iff.2 ⟨v, parsed, Space.equal_self same⟩)

/-- **When enumerated values are read.** Let an entry of the enumeration in effect denote an
accepted value. Its display text, if the treatment of white space leaves it as it is, is read as
that value if and only if the first entry with this display text has a key that denotes the value
and matches the patterns in effect. Its key, likewise, is read as the value if and only if that
holds of the first entry displayed by the key, or there is no such entry and the key matches the
patterns in effect. And what is written for an accepted value is read as that value if and only if
the first entry displayed by it has a key that denotes the value and matches the patterns in
effect. -/
theorem reads_iff_of_enumeration (enumerated : type.enumeration? = some entries) :
    (∀ entry ∈ entries, ∀ v, type.space.parse entry.1 = .ok v → type.accept v = .ok v →
      (type.whitespace.apply entry.2 = entry.2 → (type.Reads entry.2 v ↔
        ∃ first, entries.find? (·.2 = entry.2) = some first ∧ type.StandsFor first.1 v)) ∧
      (type.whitespace.apply entry.1 = entry.1 → (type.Reads entry.1 v ↔
        (∃ first, entries.find? (·.2 = entry.1) = some first ∧ type.StandsFor first.1 v) ∨
          (∀ other ∈ entries, other.2 ≠ entry.1) ∧
            ∀ p ∈ type.patterns, checkPattern p entry.1 = .ok ()))) ∧
    ∀ v, type.accept v = .ok v → type.whitespace.apply (type.text v) = type.text v →
      (type.Reads (type.text v) v ↔
      ∃ first, entries.find? (·.2 = type.text v) = some first ∧ type.StandsFor first.1 v) := by
  refine ⟨fun entry mem v parsed accepted => ⟨fun stable => ?_, fun stable => ?_⟩,
    fun v accepted stable => ?_⟩
  · exact reads_display_iff enumerated accepted mem stable
  · rw [reads_key_iff enumerated accepted stable, standsFor_iff_of_parse enumerated parsed accepted]
  · obtain ⟨entry, mem, -, written⟩ := exists_entry_of_text enumerated accepted
    rw [written] at stable ⊢
    exact reads_display_iff enumerated accepted mem stable

/-- Two keys that are displayed by each other, and a third one displayed as the second. -/
def swapped : SimpleType :=
  .restriction ⟨"Swap", "urn:t"⟩ (.builtin .string)
    [.enumeration [("A", "B"), ("B", "A"), ("C", "A")]]

theorem accept_swapped : swapped.accept "B" = .ok "B" := by rfl

theorem reads_iff_of_enumeration_swapped :
    swapped.enumeration? = some [("A", "B"), ("B", "A"), ("C", "A")] ∧
      swapped.accept "B" = .ok "B" ∧
      (swapped.Reads (swapped.text "B") "B" ↔
        ∃ first, [("A", "B"), ("B", "A"), ("C", "A")].find? (·.2 = swapped.text "B") = some first ∧
          swapped.StandsFor first.1 "B") :=
  ⟨rfl, accept_swapped, (@reads_iff_of_enumeration swapped _ rfl).2 "B" accept_swapped (by rfl)⟩

/-- Not every key of an enumeration is read as the value that it denotes: the display text of
another entry comes first. -/
theorem not_reads_of_enumeration :
    ¬ ∀ (type : SimpleType) (entries : List (String × String)), type.enumeration? = some entries →
      (∀ entry ∈ entries, ∀ v, type.space.parse entry.1 = .ok v → type.accept v = .ok v →
        type.Reads entry.1 v ∧ type.Reads entry.2 v) ∧
      ∀ v, type.accept v = .ok v → type.Reads (type.text v) v := by
  intro all
  obtain ⟨read, -⟩ := all swapped _ rfl
  obtain ⟨⟨found, key, same⟩, -⟩ := read ("A", "B") (List.mem_cons_self ..) "A" rfl (by rfl)
  have other : swapped.ofLiteral "A" = .ok "B" := by rfl
  obtain rfl := Except.ok.inj (key.symm.trans other)
  exact absurd same (by decide)

end SimpleType

end SchemaBinding
