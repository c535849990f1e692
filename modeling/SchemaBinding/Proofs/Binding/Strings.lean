import Mathlib.Data.List.DropRight
import SchemaBinding.Proofs.Binding.Chain
import SchemaBinding.Proofs.Binding.Literal
import SchemaBinding.Proofs.Pattern.Name
import SchemaBinding.Proofs.Value.Collapse

/-!
# White space of strings

Tabs and the ends of lines are replaced by spaces one by one; collapsing turns all
blanks into spaces, trims and squeezes (`Whitespace.applyChars_collapse`). So a
text that is checked to be collapsed, and has no tab and no end of a line, is left
as it is where all its blanks are spaces (`Whitespace.collapse_eq_self_iff`).

The types that are derived from normalized strings (`SimpleBuiltin.lineStrings`)
accept no texts with tabs or ends of lines, all but the first of them none but
collapsed ones. A token may have other blanks, which its own treatment of white
space changes; the patterns of the types derived from tokens leave no blanks at
all (`SimpleBuiltin.unblank_of_check`). So tokens are the only exception
(`SimpleType.whitespace_exact`).
-/

namespace SchemaBinding

open Text (isBlank isSpace squeeze trimSpaces)

/-! ## Texts that are checked to be collapsed -/

namespace Constraint

theorem squeeze_of_hasGap {cs : List Char} (h : isCollapsed.hasGap cs = false) :
    squeeze cs = cs := by
  fun_induction isCollapsed.hasGap cs with
  | case1 => cases h
  | case2 c rest single ih =>
    rw [squeeze, ih h, if_neg]
    rintro twice
    obtain ⟨space, next⟩ := Bool.and_eq_true_iff.1 twice
    obtain ⟨d, head, space'⟩ := (Option.any_eq_true ..).1 next
    obtain ⟨later, rfl⟩ := List.head?_eq_some_iff.1 head
    exact single later (Text.isSpace_iff.1 space)
      (congrArg (· :: later) (Text.isSpace_iff.1 space'))
  | case3 => rfl

/-- A text that is checked to be collapsed has nothing to trim and nothing to squeeze. -/
theorem squeeze_trimSpaces_of_isCollapsed {cs : List Char} (h : isCollapsed cs) :
    squeeze (trimSpaces cs) = cs := by
  simp only [isCollapsed, Bool.and_eq_true, bne_iff_ne, ne_eq, Bool.not_eq_true'] at h
  obtain ⟨⟨head, last⟩, single⟩ := h
  have kept : cs.rdropWhile isSpace = cs := by
    refine List.rdropWhile_eq_self_iff.2 fun filled space => last ?_
    rw [List.getLast?_eq_some_getLast filled, Text.isSpace_iff.1 space]
  have first : cs.dropWhile isSpace = cs := by
    cases cs with
    | nil => rfl
    | cons c rest => exact List.dropWhile_cons_of_neg fun space => head (congrArg
        some (Text.isSpace_iff.1 space))
  rw [trimSpaces, kept, first, squeeze_of_hasGap single]

end Constraint

namespace Whitespace

/-- **What collapsing leaves as it is**, among the texts that pass the checks of tokens: those whose
blanks are spaces. -/
theorem collapse_eq_self_iff {cs : List Char} (unbroken : ∀ c ∈ cs, isBreak c = false)
    (collapsed : Constraint.isCollapsed cs) :
    applyChars .collapse cs = cs ↔ ∀ c ∈ cs, isBlank c → c = ' ' := by
  constructor
  · intro same c mem blank
    exact eq_space_of_mem_collapse (same.symm ▸ mem) blank
  · intro spaces
    rw [applyChars_collapse_eq_iff.2 fun c mem blank => .inl (spaces c mem blank),
      applyChars_replace_of_unbroken unbroken,
      Constraint.squeeze_trimSpaces_of_isCollapsed collapsed]

end Whitespace

/-! ## Types of strings -/

namespace SimpleBuiltin

/-- The types of strings without tabs and ends of lines: normalized strings, tokens and what is
derived from them. -/
def lineStrings : List SimpleBuiltin :=
  [.normalizedString, .token, .language, .nmToken, .name, .ncName, .id, .idRef, .entity]

theorem mem_lineStrings_iff {type : SimpleBuiltin} :
    type ∈ lineStrings ↔ .singleLine ∈ type.constraints := by
  cases type <;> decide

theorem space_of_mem_lineStrings {type : SimpleBuiltin} (mem : type ∈ lineStrings) :
    type.space = .text := by
  cases type <;> first | rfl | exact absurd mem (by decide)

/-- What passes a built-in type passes each of its constraints. -/
theorem check_of_validate {type : SimpleBuiltin} {value : type.space.Carrier} {literal : String}
    (passes : type.validate value literal = .ok ()) :
    ∀ constraint ∈ type.constraints, constraint.check type.space value literal = .ok () := by
  unfold validate at passes
  generalize type.constraints = constraints at passes ⊢
  induction constraints with
  | nil => exact List.forall_mem_nil _
  | cons constraint rest ih =>
    rw [List.forM_eq_forM, List.forM_cons] at passes
    obtain ⟨_, first, passes⟩ := exists_of_bind_eq_ok passes
    exact List.forall_mem_cons.2 ⟨first, ih passes⟩

/-- A value of a type derived from tokens has no blanks. -/
theorem unblank_of_check {type : SimpleBuiltin} (mem : type ∈ lineStrings)
    (line : type ≠ .normalizedString) (token : type ≠ .token) {value : type.space.Carrier}
    {literal : String}
    (checks : ∀ constraint ∈ type.constraints, constraint.check type.space value literal = .ok ()) :
    ∀ c ∈ literal.toList, isBlank c = false := by
  have matches_ {p : String} (constraint : .matching p ∈ type.constraints) :
    checkPattern p literal = .ok () :=
    checks (.matching p) constraint
  cases type with
  | normalizedString => exact absurd rfl line
  | token => exact absurd rfl token
  | language => exact Pattern.unblank_of_language (matches_ (by decide))
  | nmToken => exact Pattern.unblank_of_nameToken (matches_ (by decide))
  | name | ncName | id | idRef | entity => exact Pattern.unblank_of_name (matches_ (by decide))
  | _ => exact absurd mem (by decide)

end SimpleBuiltin

namespace Constraint

variable {space : Space} {s literal : String} {v : space.Carrier}

theorem unbroken_of_check (text : space = .text) (parsed : space.parse s = .ok v)
    (passes : singleLine.check space v literal = .ok ()) :
    ∀ c ∈ s.toList, Whitespace.isBreak c = false := by
  subst text
  cases parsed
  intro c mem
  by_contra break_
  have found : s.toList.any Whitespace.isBreak := List.any_eq_true.2 ⟨c, mem, by simpa using break_⟩
  simp [check, checkText, require, found] at passes

theorem isCollapsed_of_check (text : space = .text) (parsed : space.parse s = .ok v)
    (passes : collapsed.check space v literal = .ok ()) : isCollapsed s.toList := by
  subst text
  cases parsed
  by_contra other
  simp [check, checkText, require, other] at passes

end Constraint

namespace SimpleType

variable {type : SimpleType} {s : String} {v : type.space.Carrier}

/-- **What the own treatment of white space does to accepted texts**: nothing, but to tokens with
other blanks than spaces. -/
theorem apply_whitespace_eq_self_iff (mem : type.root ∈ SimpleBuiltin.lineStrings)
    (parsed : type.space.parse s = .ok v) (accepted : type.accept v = .ok v) :
    type.whitespace.apply s = s ↔ (type.root = .token → ∀ c ∈ s.toList, isBlank c → c = ' ') := by
  have text : type.space = .text := SimpleBuiltin.space_of_mem_lineStrings mem
  have passes : type.validate v s = .ok () := by
    rw [accept, Space.canonical_of_text text parsed] at accepted
    obtain ⟨_, checked, -⟩ := exists_of_bind_eq_ok accepted
    exact checked
  have checks := SimpleBuiltin.check_of_validate (validate_eq_ok_iff.1 passes).1
  have unbroken : ∀ c ∈ s.toList, Whitespace.isBreak c = false :=
    Constraint.unbroken_of_check text parsed (checks _ (SimpleBuiltin.mem_lineStrings_iff.1 mem))
  have replaced : Whitespace.replace.apply s = s := by
    rw [Whitespace.apply, Whitespace.applyChars_replace_of_unbroken unbroken, String.ofList_toList]
  by_cases line : type.root = .normalizedString
  · rw [whitespace, line]
    exact ⟨fun _ token => absurd token (by decide), fun _ => replaced⟩
  by_cases token : type.root = .token
  · have collapsed : Constraint.isCollapsed s.toList := by
      refine Constraint.isCollapsed_of_check text parsed (checks .collapsed ?_)
      rw [token]
      decide
    have collapse : SimpleBuiltin.token.whitespace.apply s = s ↔
        Whitespace.applyChars .collapse s.toList = s.toList := by
      rw [← String.toList_inj, Whitespace.apply, String.toList_ofList]
      rfl
    rw [whitespace, token, collapse, Whitespace.collapse_eq_self_iff unbroken collapsed]
    exact ⟨fun spaces _ => spaces, fun spaces => spaces rfl⟩
  · have unblank := SimpleBuiltin.unblank_of_check mem line token checks
    exact ⟨fun _ same => absurd same token, fun _ => Whitespace.apply_of_unblank _ unblank⟩

/-- **White space is processed** character by character and in runs. Replacing keeps the number of
characters, makes each tab and each end of a line a space and keeps all others. Collapsing makes all
blanks spaces, drops the spaces at both ends and leaves one of each run; so it is replacing,
trimming and squeezing if and only if no other blanks occur than spaces, tabs and ends of lines.
Repeating a treatment changes nothing. A text that a normalized string, a token or a type derived
from them accepts is left as it is by the type's own treatment, unless the type is based on tokens
directly and the text has another blank than spaces. -/
theorem whitespace_exact (s : String) :
    (∀ i : Nat, (Whitespace.replace.apply s).toList[i]? =
        s.toList[i]?.map fun c => if Whitespace.isBreak c then ' ' else c) ∧
    (Whitespace.collapse.apply s).toList =
      squeeze (trimSpaces (s.toList.map fun c => if isBlank c then ' ' else c)) ∧
    (Whitespace.collapse.apply s =
      String.ofList (squeeze (trimSpaces (Whitespace.replace.apply s).toList)) ↔
      ∀ c ∈ s.toList, isBlank c → c = ' ' ∨ Whitespace.isBreak c) ∧
    (∀ mode : Whitespace, mode.apply (mode.apply s) = mode.apply s) ∧
    ∀ (type : SimpleType) (v : type.space.Carrier), type.root ∈ SimpleBuiltin.lineStrings →
      type.space.parse s = .ok v → type.accept v = .ok v →
      (type.whitespace.apply s = s ↔
        (type.root = .token → ∀ c ∈ s.toList, isBlank c → c = ' ')) := by
  refine ⟨fun i => ?_, ?_, ?_, fun mode =>
    Whitespace.apply_apply mode s, fun type v mem parsed accepted =>
    apply_whitespace_eq_self_iff mem parsed accepted⟩
  · rw [Whitespace.apply, String.toList_ofList, Whitespace.applyChars, List.getElem?_map]
  · rw [Whitespace.apply, String.toList_ofList, Whitespace.applyChars_collapse]
  · rw [← Whitespace.applyChars_collapse_eq_iff, ← String.toList_inj, Whitespace.apply,
      Whitespace.apply, String.toList_ofList, String.toList_ofList, String.toList_ofList]

/-- Two words are a token, and collapsing keeps them; with a no-break space between them they are
another token, which collapsing changes. -/
theorem whitespace_exact_words :
    ((builtin .token).accept "a b" = .ok "a b" ∧ (builtin .token).whitespace.apply "a b" = "a b") ∧
      (builtin .token).accept "a\u00A0b" = .ok "a\u00A0b" ∧
      (builtin .token).whitespace.apply "a\u00A0b" ≠ "a\u00A0b" := by
  have spaced : (builtin .token).accept "a b" = .ok "a b" := by rfl
  have joined : (builtin .token).accept "a\u00A0b" = .ok "a\u00A0b" := by rfl
  refine ⟨⟨spaced, ?_⟩, joined, ?_⟩
  · exact ((whitespace_exact "a b").2.2.2.2 (builtin .token) _ (by decide) rfl spaced).2 fun _ => by
      simp [isBlank]
  · intro same
    have spaces := ((whitespace_exact "a\u00A0b").2.2.2.2 (builtin .token) _ (by decide)
      rfl joined).1 same rfl
    exact absurd (spaces '\u00A0' (by decide)) (by decide)

/-- A no-break space is a blank for collapsing, but no white space for replacing and for the checks
of tokens. -/
theorem not_forall_collapse :
    (¬ ∀ s : String, Whitespace.collapse.apply s =
        String.ofList (squeeze (trimSpaces (Whitespace.replace.apply s).toList))) ∧
      ¬ ∀ (s : String) (type : SimpleType) (v : type.space.Carrier),
        type.root ∈ SimpleBuiltin.lineStrings →
        type.space.parse s = .ok v → type.accept v = .ok v → type.whitespace.apply s = s := by
  constructor
  · intro all
    exact absurd (all "a\u00A0b") (by decide)
  · intro all
    exact absurd (all "a\u00A0b" (builtin .token) "a\u00A0b" (by decide) rfl rfl) (by decide)

end SimpleType

end SchemaBinding
