import Mathlib.Data.List.Nodup
import Mathlib.Data.Set.Operations
import SchemaBinding.Generator.Rendering
import SchemaBinding.Proofs.Naming.Derived

/-!
# Identifiers in source text

A name that is a keyword gets an underscore after it, or a prefix that makes it
a plain name. The language has keywords and words of paths of its own, apart
from the tables by which names are told apart when they are written
(`languageKeywords`, `pathKeywords`). Those tables have all of them
(`mem_keywords_of_mem`, `mem_fixedKeywords_of_mem`), so the identifier of a
derived name is one of the language (`isIdentifier_identifier`). Derived names
stay apart when they become identifiers (`identifier_injOn`): a plain name has no
sign of the prefix in it, and ends with an underscore only where it is that of a
reserved method.
-/

namespace SchemaBinding.Rendering

open Naming

/-! ## The language -/

/-- The words that the language has a use for, in alphabetical order. -/
def strictKeywords : List String :=
  ["Self", "as", "async", "await", "break", "const", "continue", "crate", "dyn", "else", "enum",
   "extern", "false", "fn", "for", "if", "impl", "in", "let", "loop", "match", "mod", "move", "mut",
   "pub", "ref", "return", "self", "static", "struct", "super", "trait", "true", "type", "unsafe",
   "use", "where", "while"]

/-- The words that the language reserves for later, in alphabetical order. -/
def reservedKeywords : List String :=
  ["abstract", "become", "box", "do", "final", "macro", "override", "priv", "try", "typeof",
   "unsized", "virtual", "yield"]

/-- The keywords of the language. -/
def languageKeywords : List String := strictKeywords ++ reservedKeywords

/-- The keywords that stand for places in paths. No prefix makes a plain name of them. -/
def pathKeywords : List String := ["Self", "crate", "self", "super"]

/-- Whether a text is an identifier of the language: a name that is no keyword, or any name with
the prefix, except the words of paths. -/
inductive IsIdentifier : String → Prop
  | plain {name : String} (isPlain : IsPlain name) (free : name ∉ languageKeywords) :
      IsIdentifier name
  | raw {name : String} (isPlain : IsPlain name) (allowed : name ∉ pathKeywords) :
      IsIdentifier ("r#" ++ name)

/-! ## Identifiers of names -/

/-- Every keyword of the language is known as one when a name is written. -/
theorem mem_keywords_of_mem : ∀ name ∈ languageKeywords, name ∈ keywords := by decide

/-- Every word of paths is known as one when a name is written. -/
theorem mem_fixedKeywords_of_mem : ∀ name ∈ pathKeywords, name ∈ fixedKeywords := by decide

/-- A word of paths with an underscore after it is no keyword. -/
theorem fixed_notMem_languageKeywords :
    ∀ name ∈ fixedKeywords, name ++ "_" ∉ languageKeywords := by decide

/-- A keyword with the prefix is no keyword. -/
theorem raw_notMem_languageKeywords : ∀ name ∈ keywords, "r#" ++ name ∉ languageKeywords := by
  decide

/-- **No identifier is a keyword**, whatever the name. -/
theorem identifier_notMem_languageKeywords (name : String) :
    identifier name ∉ languageKeywords := by
  unfold identifier
  split
  · next fixed => exact fixed_notMem_languageKeywords name fixed
  · split
    · next known => exact raw_notMem_languageKeywords name known
    · next free => exact fun keyword => free (mem_keywords_of_mem name keyword)

/-- **The identifier of a name** is one of the language. -/
theorem isIdentifier_identifier {name : String} (isPlain : IsPlain name) :
    IsIdentifier (identifier name) := by
  unfold identifier
  split
  · next fixed =>
    have marked : IsPlain (name ++ "_") :=
      isPlain.append (List.forall_mem_singleton.2 (.inr rfl))
    exact .plain marked (fixed_notMem_languageKeywords name fixed)
  · next notFixed =>
    split
    · exact .raw isPlain fun path => notFixed (mem_fixedKeywords_of_mem name path)
    · next free => exact .plain isPlain fun keyword => free (mem_keywords_of_mem name keyword)

/-! ## Different names -/

theorem sign_notMem_of_isPlain {name : String} (isPlain : IsPlain name) : '#' ∉ name.toList := by
  intro mem
  exact absurd (isPlain.chars '#' mem) (by unfold IsNameChar; decide)

theorem sign_mem_raw (name : String) : '#' ∈ ("r#" ++ name).toList := by
  rw [String.toList_append]
  exact List.mem_append_left _ (by decide)

theorem sign_notMem_fixed : ∀ name ∈ fixedKeywords, '#' ∉ (name ++ "_").toList := by decide

theorem fixed_notMem_reserved :
    ∀ name ∈ fixedKeywords, name ++ "_" ∉ reservedMethods.map (· ++ "_") := by
  decide

/-- A keyword with an underscore after it is no derived name. -/
theorem not_hasForm_fixed {name : String} (fixed : name ∈ fixedKeywords) :
    ¬ HasForm (name ++ "_") := by
  rintro ⟨-, ⟨c, last, isAlphanum⟩ | reserved⟩
  · rw [String.toList_append, List.getLast?_append] at last
    obtain rfl := Option.some.inj last
    exact absurd isAlphanum (by decide)
  · exact fixed_notMem_reserved name fixed reserved

/-- **Derived names have different identifiers** when they are different. -/
theorem identifier_injOn : Set.InjOn identifier { name | HasForm name } := by
  intro a ha b hb same
  have signs : ∀ {name other : String}, HasForm other → "r#" ++ name ≠ other :=
    fun form same => sign_notMem_of_isPlain form.plain (same ▸ sign_mem_raw _)
  unfold identifier at same
  split at same
  · next fixed =>
    split at same
    · exact (String.append_left_inj "_").1 same
    · split at same
      · exact absurd (same ▸ sign_mem_raw b) (sign_notMem_fixed a fixed)
      · exact absurd (same ▸ hb) (not_hasForm_fixed fixed)
  · split at same
    · split at same
      · next fixed => exact absurd (same ▸ sign_mem_raw a) (sign_notMem_fixed b fixed)
      · split at same
        · exact (String.append_right_inj "r#").1 same
        · exact absurd same (signs hb)
    · split at same
      · next fixed => exact absurd (same ▸ ha) (not_hasForm_fixed fixed)
      · split at same
        · exact absurd same.symm (signs ha)
        · exact same

/-- Identifiers of different names in a list are different. -/
theorem nodup_map_identifier {names : List String} (hasForm : ∀ name ∈ names, HasForm name)
    (distinct : names.Nodup) :
    (names.map identifier).Nodup :=
  distinct.map_on fun a ha b hb same => identifier_injOn (hasForm a ha) (hasForm b hb) same

end SchemaBinding.Rendering
