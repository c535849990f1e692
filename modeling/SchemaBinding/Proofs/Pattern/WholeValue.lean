import SchemaBinding.Keyed
import SchemaBinding.Proofs.Pattern.Frame
import SchemaBinding.Proofs.Pattern.Spans
import SchemaBinding.Value.Facet

/-!
# Pattern facets and whole values

A pattern is read from its facet once and then remembered. What is remembered
is always what would be read again (`PatternCache.isFaithful_check`), so that no
check depends on those before it (`PatternCache.check_after`).

A check frames the text of the facet, so its answer is about the text in the
frame. Where the parentheses of a facet match, the frame changes nothing
(`Pattern.read?_frame`) but that a comment may be open at the end of the facet and
that the frame itself needs room; and a framed pattern matches exactly the values
that the pattern describes from their beginning to their end
(`PatternCache.check_iff_spans`). A facet whose parentheses do not match may be
valid in its frame alone (`PatternCache.not_forall_check_iff`).
-/

namespace SchemaBinding

/-- A literal that passes the pattern of a facet is a span of what is read of the facet. -/
theorem Pattern.spans_of_checkPattern {facet literal : String} {r : Reading}
    (read : read? facet = some r) (passes : checkPattern facet literal = .ok ()) :
    r.pattern.Spans literal.toList.toArray 0 literal.length := by
  rw [checkPattern] at passes
  split at passes
  · cases passes
  · next p found =>
    obtain ⟨r', frameable, rfl⟩ := (ofFacet?_eq_some_iff (closesGroup_of_read? read)).1 found
    obtain rfl := Option.some.inj (read.symm.trans frameable.read)
    have whole : (framed r.pattern).matchesIn literal := by
      by_contra misses
      rw [if_neg misses] at passes
      cases passes
    exact matchesIn_framed_iff.1 whole

/-- The patterns that have been read, by the texts of their facets. -/
abbrev PatternCache := Keyed String Pattern

namespace PatternCache

variable {cache : PatternCache} {facet literal : String}

/-- Checks a literal against a facet, whose pattern is remembered when it is read for the first
time. -/
def check (cache : PatternCache) (facet literal : String) : Except Violation Unit × PatternCache :=
  match cache.get? facet with
  | some p => (verdict p, cache)
  | none =>
    match Pattern.ofFacet? facet with
    | none => (.error (.invalidPattern facet), cache)
    | some p => (verdict p, cache.put facet p)
where
  /-- What a pattern says of the literal. -/
  verdict (p : Pattern) : Except Violation Unit :=
    if p.matchesIn literal then .ok () else .error (.mismatch literal facet)

/-- The patterns that are remembered after some checks of literals against facets. -/
def after (checks : List (String × String)) : PatternCache :=
  checks.foldl (fun cache (facet, literal) => (cache.check facet literal).2) []

/-- Whether what is remembered is what would be read again. -/
def IsFaithful (cache : PatternCache) : Prop :=
  ∀ facet p, cache.get? facet = some p → Pattern.ofFacet? facet = some p

theorem isFaithful_put {p : Pattern} (faithful : IsFaithful cache)
    (read : Pattern.ofFacet? facet = some p) :
    IsFaithful (cache.put facet p) := by
  intro other q found
  rw [Keyed.get?_put] at found
  split at found
  · next same =>
    cases found
    exact same ▸ read
  · exact faithful other q found

/-- **A check** answers what a check that remembers nothing answers, and remembers faithfully. -/
theorem isFaithful_check (faithful : IsFaithful cache) (facet literal : String) :
    (cache.check facet literal).1 = checkPattern facet literal ∧
      IsFaithful (cache.check facet literal).2 := by
  unfold check checkPattern
  cases found : cache.get? facet with
  | some p =>
    rw [faithful facet p found]
    exact ⟨rfl, faithful⟩
  | none =>
    cases read : Pattern.ofFacet? facet with
    | none => exact ⟨rfl, faithful⟩
    | some p => exact ⟨rfl, isFaithful_put faithful read⟩

theorem isFaithful_foldl (faithful : IsFaithful cache) (checks : List (String × String)) :
    IsFaithful
    (checks.foldl (fun cache (facet, literal) => (cache.check facet literal).2) cache) := by
  induction checks generalizing cache with
  | nil => exact faithful
  | cons check rest ih => exact ih (isFaithful_check faithful check.1 check.2).2

/-- **No check depends on those before it.** -/
theorem check_after (checks : List (String × String)) (facet literal : String) :
    ((after checks).check facet literal).1 = checkPattern facet literal :=
  (isFaithful_check (isFaithful_foldl (by intro _ _ found; cases found) checks) facet literal).1

/-! ## What a check answers -/

theorem check_of_ofFacet?_eq_none (checks : List (String × String))
    (unread : Pattern.ofFacet? facet = none) :
    ((after checks).check facet literal).1 = .error (.invalidPattern facet) := by
  rw [check_after, checkPattern, unread]

/-- A literal passes the pattern of a facet where the pattern describes a span of it. -/
theorem check_of_ofFacet?_eq_some (checks : List (String × String)) {p : Pattern}
    (read : Pattern.ofFacet? facet = some p) : ((after checks).check facet literal).1 =
      if p.matchesIn literal then .ok () else .error (.mismatch literal facet) := by
  rw [check_after, checkPattern, read]

/-- **Patterns match whole values.** Whatever has been checked before, and whatever the value of the
literal is: where the parentheses of a facet match, a literal passes if and only if the facet is a
pattern that a frame can be put around and the pattern describes the literal from its first to its
last character; and the facet is reported as invalid if and only if it is no such pattern. A facet
with a parenthesis that closes nothing is no pattern, but a literal passes if the facet in its frame
is one. A frame can be put around every pattern that fits into it and has no number sign, which may
begin a comment. -/
theorem check_iff_spans (checks : List (String × String)) (facet literal : String) :
    (Pattern.closesGroup facet = false →
      (((after checks).check facet literal).1 = .ok () ↔
        ∃ r, Pattern.IsFrameable facet r ∧
          r.pattern.Spans literal.toList.toArray 0 literal.length) ∧
      (((after checks).check facet literal).1 = .error (.mismatch literal facet) ↔
        ∃ r, Pattern.IsFrameable facet r ∧
          ¬ r.pattern.Spans literal.toList.toArray 0 literal.length) ∧
      (((after checks).check facet literal).1 = .error (.invalidPattern facet) ↔
        ¬ ∃ r, Pattern.IsFrameable facet r)) ∧
    (Pattern.closesGroup facet →
      Pattern.read? facet = none ∧
      (((after checks).check facet literal).1 = .ok () ↔ ∃ p, Pattern.ofFacet? facet = some p ∧
        ∃ i j, i ≤ literal.length ∧ p.Spans literal.toList.toArray i j)) ∧
    (∀ r, Pattern.read? facet = some r → '#' ∉ facet.toList → Pattern.fitsFrame r →
      Pattern.IsFrameable facet r) ∧
    ∀ (space : Space) (value : space.Carrier),
      (Rule.pattern facet : Rule space).check value literal =
        ((after checks).check facet literal).1 := by
  refine ⟨fun matched => ?_, fun closes => ⟨Pattern.read?_of_closesGroup closes, ?_⟩,
    fun _ => Pattern.isFrameable_of_notMem, fun space value => (check_after ..).symm⟩
  · cases read : Pattern.ofFacet? facet with
    | none =>
      have unframed : ¬ ∃ r, Pattern.IsFrameable facet r := by
        rintro ⟨r, frameable⟩
        cases read.symm.trans ((Pattern.ofFacet?_eq_some_iff matched).2 ⟨r, frameable, rfl⟩)
      rw [check_of_ofFacet?_eq_none checks read]
      refine ⟨⟨nofun, ?_⟩, ⟨nofun, ?_⟩, ⟨fun _ => unframed, fun _ => rfl⟩⟩
      · exact fun ⟨r, frameable, _⟩ => absurd ⟨r, frameable⟩ unframed
      · exact fun ⟨r, frameable, _⟩ => absurd ⟨r, frameable⟩ unframed
    | some p =>
      obtain ⟨r, frameable, rfl⟩ := (Pattern.ofFacet?_eq_some_iff matched).1 read
      have only {r'} (other : Pattern.IsFrameable facet r') : r' = r :=
        Option.some.inj (other.read.symm.trans frameable.read)
      have whole : (Pattern.framed r.pattern).matchesIn literal ↔
          r.pattern.Spans literal.toList.toArray 0 literal.length := Pattern.matchesIn_framed_iff
      have spans : (∃ r, Pattern.IsFrameable facet r ∧
        r.pattern.Spans literal.toList.toArray 0 literal.length) ↔
          (Pattern.framed r.pattern).matchesIn literal :=
        ⟨fun ⟨_, other, span⟩ => whole.2 (only other ▸ span), fun found =>
          ⟨r, frameable, whole.1 found⟩⟩
      have misses : (∃ r, Pattern.IsFrameable facet r ∧
        ¬ r.pattern.Spans literal.toList.toArray 0 literal.length) ↔
          ¬ (Pattern.framed r.pattern).matchesIn literal :=
        ⟨fun ⟨_, other, miss⟩ found => miss (only other ▸ whole.1 found), fun lost =>
          ⟨r, frameable, lost ∘ whole.2⟩⟩
      have valid : ∃ r, Pattern.IsFrameable facet r := ⟨r, frameable⟩
      rw [spans, misses, check_of_ofFacet?_eq_some checks read]
      split <;> simp [*]
  · cases read : Pattern.ofFacet? facet with
    | none => simp [check_of_ofFacet?_eq_none checks read]
    | some p =>
      rw [check_of_ofFacet?_eq_some checks read]
      simp [Pattern.matchesIn_iff]

/-- A choice is put into a group: one of its branches describes the whole literal, and none
describes a literal that only begins like one. -/
theorem check_iff_spans_choice :
    (∃ r, Pattern.IsFrameable "[a-c]\x7b2\x7d|x+" r ∧
      r.pattern.Spans "xx".toList.toArray 0 "xx".length) ∧
    ∃ r, Pattern.IsFrameable "[a-c]\x7b2\x7d|x+" r ∧
      ¬ r.pattern.Spans "abx".toList.toArray 0 "abx".length := by
  have matched : Pattern.closesGroup "[a-c]\x7b2\x7d|x+" = false := by decide +kernel
  constructor
  · refine ((check_iff_spans [("a)(b", "ab")] _ _).1 matched).1.1 ?_
    rw [check_after]
    decide +kernel
  · refine ((check_iff_spans [("[a-c]\x7b2\x7d|x+", "xx")] _ _).1 matched).2.1.1 ?_
    rw [check_after]
    decide +kernel

/-- Not every facet that is no pattern by itself is reported: one that closes the frame and opens it
again lets values pass. -/
theorem not_forall_check_iff :
    ¬ ∀ (checks : List (String × String)) (facet literal : String),
      (((after checks).check facet literal).1 = .ok () ↔ ∃ p, Pattern.parse? facet = some p ∧
        p.Spans literal.toList.toArray 0 literal.length) ∧
      (Pattern.parse? facet = none →
        ((after checks).check facet literal).1 = .error (.invalidPattern facet)) := by
  intro all
  have invalid : Pattern.parse? "a)(b" = none := by decide +kernel
  have passes : ((after []).check "a)(b" "ab").1 = .ok () := by
    rw [check_after]
    decide +kernel
  cases passes.symm.trans ((all [] "a)(b" "ab").2 invalid)

end PatternCache

end SchemaBinding
