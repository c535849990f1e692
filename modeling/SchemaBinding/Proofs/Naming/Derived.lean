import SchemaBinding.Proofs.Naming.Fresh

/-!
# Names that are derived

The words of a name are not empty, and together they are all of its letters and
digits (`wordsOf_cuts`). So a name is derived unless it has no letters and digits
(`derive_eq_error_iff`), and there is at least one letter or digit in a derived
name. It has the form of a name (`IsPlain`) and ends with a letter or digit,
unless it is a reserved name with an underscore (`derive_hasForm`). Both are so
with a number after it (`HasForm.numbering`).
-/

namespace SchemaBinding.Naming

/-- What a name is derived for. -/
inductive Use where
  | type (kind : Kind)
  | field
  | client
  deriving DecidableEq, Repr

/-- The name that is derived from a name for a use. -/
def derive : Use → String → Except GenerateError String
  | .type kind, name => typeName name kind
  | .field, name => fieldName name
  | .client, name => clientName name

/-! ## Letters and digits -/

/-- A character is a letter or digit by the number of its code point. -/
theorem isAlphanum_iff {c : Char} : c.isAlphanum = true ↔
    (65 ≤ c.toNat ∧ c.toNat ≤ 90 ∨ 97 ≤ c.toNat ∧ c.toNat ≤ 122) ∨
      48 ≤ c.toNat ∧ c.toNat ≤ 57 := by
  unfold Char.isAlphanum Char.isAlpha Char.isUpper Char.isLower Char.isDigit
  simp only [ge_iff_le, UInt32.le_iff_toNat_le, Bool.or_eq_true, Bool.and_eq_true,
    decide_eq_true_eq]
  rfl

theorem isAlphanum_toUpper {c : Char} (h : c.isAlphanum = true) : c.toUpper.isAlphanum = true := by
  rw [isAlphanum_iff] at h ⊢
  unfold Char.toUpper
  split
  · next small =>
    simp only [Char.isValue, Char.reduceVal, UInt32.le_iff_toNat_le, UInt32.reduceToNat,
      UInt32.reduceSub, Char.toNat, UInt32.toNat_add, Nat.reducePow] at small ⊢
    omega
  · exact h

theorem isAlphanum_toLower {c : Char} (h : c.isAlphanum = true) : c.toLower.isAlphanum = true := by
  rw [isAlphanum_iff] at h ⊢
  unfold Char.toLower
  split
  · next capital =>
    simp only [Char.isValue, Char.reduceVal, ge_iff_le, UInt32.le_iff_toNat_le, UInt32.reduceToNat,
      UInt32.reduceSub, Char.toNat, UInt32.toNat_add, Nat.reducePow] at capital ⊢
    omega
  · exact h

/-- Whether a character may stand in a name. -/
def IsNameChar (c : Char) : Prop := c.isAlphanum = true ∨ c = '_'

/-! ## Words -/

/-- Whether pieces are what a text is cut into. None of them is empty. -/
structure Cuts (pieces : List (List Char)) (text : List Char) : Prop where
  flatten : pieces.flatten = text
  nonempty : ∀ piece ∈ pieces, piece ≠ []

namespace Cuts

variable {pieces : List (List Char)} {text : List Char}

theorem nil : Cuts [] [] := ⟨rfl, nofun⟩

theorem cons {piece : List Char} (h : Cuts pieces text) (nonempty : piece ≠ []) :
    Cuts (piece :: pieces) (piece ++ text) :=
  ⟨congrArg (piece ++ ·) h.flatten, List.forall_mem_cons.2 ⟨nonempty, h.nonempty⟩⟩

/-- Pieces that are cut further. -/
theorem flatMap {cut : List Char → List (List Char)} (cuts : ∀ piece, Cuts (cut piece) piece)
    (h : Cuts pieces text) : Cuts (pieces.flatMap cut) text where
  flatten := by
    rw [← h.flatten, List.flatMap_def, List.flatten_flatten, List.map_map]
    congr 1
    refine (List.map_congr_left fun piece _ => ?_).trans (List.map_id _)
    exact (cuts piece).flatten
  nonempty := by
    intro piece mem
    obtain ⟨whole, -, mem⟩ := List.mem_flatMap.1 mem
    exact (cuts whole).nonempty piece mem

/-- A text is empty if and only if there are no pieces. -/
theorem eq_nil_iff (h : Cuts pieces text) : pieces = [] ↔ text = [] := by
  rw [← h.flatten]
  constructor
  · rintro rfl
    rfl
  · intro empty
    cases pieces with
    | nil => rfl
    | cons piece rest => exact absurd (List.append_eq_nil_iff.1 empty).1 (h.nonempty piece
        (List.mem_cons_self ..))

theorem mem_text (h : Cuts pieces text) {piece : List Char} (mem : piece ∈ pieces) {c : Char}
    (ofPiece : c ∈ piece) :
    c ∈ text :=
  h.flatten ▸ List.mem_flatten_of_mem mem ofPiece

end Cuts

/-- **A run is cut into its words.** -/
theorem splitWords_cuts (mode : Mode) (word cs : List Char)
    (started : mode = .capital → word ≠ []) :
    Cuts (splitWords mode word cs) (word ++ cs) := by
  fun_induction splitWords mode word cs with
  | case1 mode word empty =>
    rw [List.isEmpty_iff.1 empty]
    exact .nil
  | case2 mode word nonempty => exact Cuts.nil.cons fun empty => nonempty (List.isEmpty_iff.2 empty)
  | case3 mode word c =>
    have last := Cuts.nil.cons (List.concat_ne_nil c word)
    rwa [List.append_nil] at last
  | case4 mode word c next rest nextMode ends ih =>
    rw [List.append_cons word c (next :: rest)]
    exact (ih nofun).cons (List.concat_ne_nil _ _)
  | case5 mode word c next rest nextMode goesOn ends ih =>
    exact (ih nofun).cons (started ends.1)
  | case6 mode word c next rest nextMode goesOn goesOn' ih =>
    rw [List.append_cons word c (next :: rest)]
    exact ih fun _ => List.concat_ne_nil _ _

/-- **The letters and digits of a text are cut into its runs.** -/
theorem runs_cuts (run cs : List Char) : Cuts (runs run cs) (run ++ cs.filter Char.isAlphanum) := by
  fun_induction runs run cs with
  | case1 run empty =>
    rw [List.isEmpty_iff.1 empty]
    exact .nil
  | case2 run nonempty => exact Cuts.nil.cons fun empty => nonempty (List.isEmpty_iff.2 empty)
  | case3 run c rest isAlphanum ih =>
    rw [List.filter_cons_of_pos isAlphanum, List.append_cons run c (rest.filter _)]
    exact ih
  | case4 run c rest other empty ih =>
    rw [List.isEmpty_iff.1 empty, List.filter_cons_of_neg other]
    exact ih
  | case5 run c rest other nonempty ih =>
    rw [List.filter_cons_of_neg other]
    exact ih.cons fun empty => nonempty (List.isEmpty_iff.2 empty)

/-- The words of a name, whether there are any or not. -/
theorem words_cuts (name : String) :
    Cuts ((runs [] name.toList).flatMap (splitWords .start []))
      (name.toList.filter Char.isAlphanum) :=
  (runs_cuts [] name.toList).flatMap fun piece => splitWords_cuts .start [] piece nofun

/-- The words of a name are all of its letters and digits. -/
theorem wordsOf_cuts {name : String} {words : List (List Char)} (h : wordsOf name = .ok words) :
    Cuts words (name.toList.filter Char.isAlphanum) ∧ words ≠ [] := by
  have cuts := words_cuts name
  unfold wordsOf at h
  split at h
  · cases h
  · next nonempty =>
    cases h
    exact ⟨cuts, nonempty⟩

/-- **A name has no words** if and only if it has no letters and digits. -/
theorem wordsOf_eq_error_iff {name : String} :
    wordsOf name = .error (.invalidName name) ↔ ∀ c ∈ name.toList, c.isAlphanum = false := by
  have empty : (runs [] name.toList).flatMap (splitWords .start []) = [] ↔
      ∀ c ∈ name.toList, c.isAlphanum = false := by
    rw [(words_cuts name).eq_nil_iff, List.filter_eq_nil_iff]
    exact forall₂_congr fun c _ => Bool.not_eq_true _ ▸ Iff.rfl
  rw [← empty]
  unfold wordsOf
  split
  · next none => exact ⟨fun _ => none, fun _ => rfl⟩
  · next some => exact ⟨nofun, fun none => absurd none some⟩

/-! ## Derived names -/

/-- The name that words come to for a use. -/
def form : Use → List (List Char) → String
  | .type kind, words => String.ofList (guardDigit (camelCase words ++ kind.ending.toList))
  | .field, words =>
    let derived := String.ofList (guardDigit (snakeCase words))
    if derived ∈ reservedMethods then derived ++ "_" else derived
  | .client, words => String.ofList (guardDigit (camelCase words ++ "Client".toList))

theorem derive_eq (use : Use) (name : String) :
    derive use name = (wordsOf name).map (form use) := by
  cases use with
  | type kind =>
    rw [derive, typeName]
    cases wordsOf name <;> rfl
  | field =>
    rw [derive, fieldName]
    cases wordsOf name <;> rfl
  | client =>
    rw [derive, clientName]
    cases wordsOf name <;> rfl

/-- **When no name is derived.** -/
theorem derive_eq_error_iff {use : Use} {name : String} :
    derive use name = .error (.invalidName name) ↔ ∀ c ∈ name.toList, c.isAlphanum = false := by
  rw [← wordsOf_eq_error_iff, derive_eq, map_eq_error_iff]

/-- A letter or digit is enough for a name to be derived. -/
theorem exists_derive {use : Use} {name : String} (h : ∃ c ∈ name.toList, c.isAlphanum = true) :
    ∃ derived, derive use name = .ok derived := by
  rw [derive_eq]
  cases words : wordsOf name with
  | ok words => exact ⟨_, rfl⟩
  | error cause =>
    obtain rfl := cause_of_wordsOf words
    obtain ⟨c, mem, isAlphanum⟩ := h
    cases isAlphanum.symm.trans (wordsOf_eq_error_iff.1 words c mem)

/-- Whether a text has the form of a name: it begins with a letter or an underscore, goes on with
letters, digits and underscores, and is not a single underscore. -/
structure IsPlain (name : String) : Prop where
  first : ∃ c rest, name.toList = c :: rest ∧ (c.isAlpha = true ∨ c = '_')
  chars : ∀ c ∈ name.toList, IsNameChar c
  notUnderscore : name ≠ "_"

/-- Whether characters end with a letter or digit. -/
def EndsPlainly (cs : List Char) : Prop := ∃ c, cs.getLast? = some c ∧ c.isAlphanum = true

theorem EndsPlainly.append {cs : List Char} (h : EndsPlainly cs) (before : List Char) :
    EndsPlainly (before ++ cs) := by
  obtain ⟨c, last, isAlphanum⟩ := h
  exact ⟨c, by rw [List.getLast?_append, last, Option.some_or], isAlphanum⟩

theorem endsPlainly_of_forall {cs : List Char} (nonempty : cs ≠ [])
    (isAlphanum : ∀ c ∈ cs, c.isAlphanum = true) :
    EndsPlainly cs :=
  ⟨cs.getLast nonempty, List.getLast?_eq_some_getLast nonempty,
    isAlphanum _ (List.getLast_mem nonempty)⟩

theorem EndsPlainly.guardDigit {cs : List Char} (h : EndsPlainly cs) :
    EndsPlainly (guardDigit cs) := by
  unfold Naming.guardDigit
  split
  · split
    · exact h.append ['_']
    · exact h
  · exact h

theorem isPlain_guardDigit {c : Char} {rest : List Char} (isAlphanum : c.isAlphanum = true)
    (chars : ∀ d ∈ rest, IsNameChar d) : IsPlain (String.ofList (guardDigit (c :: rest))) := by
  have all : ∀ d ∈ c :: rest, IsNameChar d := List.forall_mem_cons.2 ⟨.inl isAlphanum, chars⟩
  rw [guardDigit]
  split
  · refine ⟨⟨'_', c :: rest, String.toList_ofList, .inr rfl⟩, ?_, ?_⟩
    · rw [String.toList_ofList]
      exact List.forall_mem_cons.2 ⟨.inr rfl, all⟩
    · exact fun same => List.cons_ne_nil c rest (List.cons.inj (String.ofList_injective same)).2
  · next notDigit =>
    rw [Char.isAlphanum, Bool.or_eq_true] at isAlphanum
    have alpha := isAlphanum.resolve_right notDigit
    refine ⟨⟨c, rest, String.toList_ofList, .inl alpha⟩, ?_, ?_⟩
    · rwa [String.toList_ofList]
    · intro same
      obtain rfl := (List.cons.inj (String.ofList_injective same)).1
      exact absurd alpha (by decide)

/-- Letters, digits and underscores may be added to a name. -/
theorem IsPlain.append {name more : String} (h : IsPlain name)
    (chars : ∀ c ∈ more.toList, IsNameChar c) :
    IsPlain (name ++ more) := by
  obtain ⟨⟨c, rest, same, first⟩, all, notUnderscore⟩ := h
  refine ⟨⟨c, rest ++ more.toList, ?_, first⟩, ?_, ?_⟩
  · rw [String.toList_append, same, List.cons_append]
  · rw [String.toList_append]
    exact List.forall_mem_append.2 ⟨all, chars⟩
  · intro underscore
    have chars := congrArg String.toList underscore
    rw [String.toList_append, same] at chars
    obtain ⟨rfl, none⟩ := List.cons.inj chars
    refine notUnderscore (String.toList_inj.1 ?_)
    rw [same, (List.append_eq_nil_iff.1 none).1]
    rfl

/-- **The form of derived names.** -/
structure HasForm (name : String) : Prop where
  plain : IsPlain name
  ends : EndsPlainly name.toList ∨ name ∈ reservedMethods.map (· ++ "_")

/-! ### Cases -/

section

variable {words : List (List Char)} {text : List Char}

/-- The first word has a first letter or digit. -/
theorem Cuts.exists_cons (h : Cuts words text) (some : words ≠ []) :
    ∃ c word rest, words = (c :: word) :: rest := by
  cases words with
  | nil => exact absurd rfl some
  | cons word rest =>
    cases word with
    | nil => exact absurd rfl (h.nonempty [] (List.mem_cons_self ..))
    | cons c word => exact ⟨c, word, rest, rfl⟩

/-- Words in camel case are letters and digits, of which there is at least one. -/
theorem camelCase_cons (h : Cuts words text) (some : words ≠ [])
    (isAlphanum : ∀ c ∈ text, c.isAlphanum = true) :
    ∃ c rest, camelCase words = c :: rest ∧ ∀ d ∈ c :: rest, d.isAlphanum = true := by
  have all : ∀ c ∈ camelCase words, c.isAlphanum = true := by
    intro c mem
    obtain ⟨word, ofWords, mem⟩ := List.mem_flatMap.1 mem
    have ofWord : ∀ d ∈ word, d.isAlphanum = true :=
      fun d mem => isAlphanum d (h.mem_text ofWords mem)
    cases word with
    | nil => cases mem
    | cons first rest =>
      rcases List.mem_cons.1 mem with rfl | mem
      · exact isAlphanum_toUpper (ofWord first (List.mem_cons_self ..))
      · obtain ⟨d, ofRest, rfl⟩ := List.mem_map.1 mem
        exact isAlphanum_toLower (ofWord d (List.mem_cons_of_mem _ ofRest))
  obtain ⟨c, word, rest, rfl⟩ := h.exists_cons some
  exact ⟨_, _, rfl, all⟩

/-- Words in small letters begin with a letter or digit. -/
theorem snakeCase_cons (h : Cuts words text) (some : words ≠ [])
    (isAlphanum : ∀ c ∈ text, c.isAlphanum = true) :
    ∃ c rest, snakeCase words = c :: rest ∧ c.isAlphanum = true := by
  obtain ⟨c, word, rest, rfl⟩ := h.exists_cons some
  have first := isAlphanum_toLower
    (isAlphanum c (h.mem_text (List.mem_cons_self ..) (List.mem_cons_self ..)))
  cases rest with
  | nil => exact ⟨_, _, rfl, first⟩
  | cons next rest => exact ⟨_, _, rfl, first⟩

/-- Words in small letters go on with letters, digits and underscores. -/
theorem isNameChar_snakeCase (isAlphanum : ∀ word ∈ words, ∀ c ∈ word, c.isAlphanum = true) :
    ∀ c ∈ snakeCase words, IsNameChar c := by
  have small : ∀ word : List Char, (∀ c ∈ word, c.isAlphanum = true) →
    ∀ c ∈ word.map Char.toLower, IsNameChar c := by
    intro word isAlphanum c mem
    obtain ⟨d, ofWord, rfl⟩ := List.mem_map.1 mem
    exact .inl (isAlphanum_toLower (isAlphanum d ofWord))
  fun_induction snakeCase words with
  | case1 => exact nofun
  | case2 word => exact small word (isAlphanum word (List.mem_cons_self ..))
  | case3 word rest _ ih =>
    obtain ⟨first, others⟩ := List.forall_mem_cons.1 isAlphanum
    exact List.forall_mem_append.2 ⟨small word first, List.forall_mem_cons.2 ⟨.inr rfl, ih others⟩⟩

/-- Words in small letters end with a letter or digit. -/
theorem endsPlainly_snakeCase (some : words ≠ []) (nonempty : ∀ word ∈ words, word ≠ [])
    (isAlphanum : ∀ word ∈ words, ∀ c ∈ word, c.isAlphanum = true) :
    EndsPlainly (snakeCase words) := by
  fun_induction snakeCase words with
  | case1 => exact absurd rfl some
  | case2 word =>
    refine endsPlainly_of_forall
      (fun empty => nonempty word (List.mem_cons_self ..) (List.map_eq_nil_iff.1 empty)) ?_
    intro c mem
    obtain ⟨d, ofWord, rfl⟩ := List.mem_map.1 mem
    exact isAlphanum_toLower (isAlphanum word (List.mem_cons_self ..) d ofWord)
  | case3 word rest more ih =>
    obtain ⟨-, nonempty⟩ := List.forall_mem_cons.1 nonempty
    obtain ⟨-, isAlphanum⟩ := List.forall_mem_cons.1 isAlphanum
    exact ((ih more nonempty isAlphanum).append ['_']).append _

end

/-- Words in camel case with an ending of letters. -/
theorem hasForm_camelCase {words : List (List Char)} {text ending : List Char} (h : Cuts words text)
    (some : words ≠ []) (isAlphanum : ∀ c ∈ text, c.isAlphanum = true) (ended : ending ≠ [])
    (letters : ∀ c ∈ ending, c.isAlphanum = true) :
    HasForm (String.ofList (guardDigit (camelCase words ++ ending))) := by
  obtain ⟨c, rest, same, all⟩ := camelCase_cons h some isAlphanum
  obtain ⟨first, others⟩ := List.forall_mem_cons.1 all
  have ends := ((endsPlainly_of_forall ended letters).append (camelCase words)).guardDigit
  refine ⟨?_, .inl (by rwa [String.toList_ofList])⟩
  rw [same, List.cons_append]
  exact isPlain_guardDigit first
    (List.forall_mem_append.2 ⟨fun d mem => .inl (others d mem), fun d mem => .inl (letters d mem)⟩)

/-- Words in small letters, with an underscore where the name is reserved. -/
theorem hasForm_snakeCase {words : List (List Char)} {text : List Char} (h : Cuts words text)
    (some : words ≠ []) (isAlphanum : ∀ c ∈ text, c.isAlphanum = true) :
    HasForm (form .field words) := by
  have ofWords : ∀ word ∈ words, ∀ c ∈ word, c.isAlphanum = true :=
    fun word mem c ofWord => isAlphanum c (h.mem_text mem ofWord)
  have chars := isNameChar_snakeCase ofWords
  have ends := (endsPlainly_snakeCase some h.nonempty ofWords).guardDigit
  obtain ⟨c, rest, same, first⟩ := snakeCase_cons h some isAlphanum
  rw [same] at chars
  have plain := isPlain_guardDigit first fun d mem => chars d (List.mem_cons_of_mem _ mem)
  rw [← same] at plain
  rw [form]
  split
  · next reserved =>
    exact ⟨plain.append (List.forall_mem_singleton.2 (.inr rfl)),
      .inr (List.mem_map_of_mem reserved)⟩
  · exact ⟨plain, .inl (by rwa [String.toList_ofList])⟩

/-- **Derived names** have the form of derived names. -/
theorem derive_hasForm {use : Use} {name derived : String} (h : derive use name = .ok derived) :
    HasForm derived := by
  rw [derive_eq] at h
  obtain ⟨words, found, rfl⟩ := map_eq_ok_iff.1 h
  obtain ⟨cuts, some⟩ := wordsOf_cuts found
  have isAlphanum : ∀ c ∈ name.toList.filter Char.isAlphanum, c.isAlphanum = true :=
    fun c mem => (List.mem_filter.1 mem).2
  cases use with
  | type kind =>
    refine hasForm_camelCase cuts some isAlphanum ?_ ?_
    · cases kind <;> exact nofun
    · cases kind <;> exact List.all_eq_true.1 rfl
  | field => exact hasForm_snakeCase cuts some isAlphanum
  | client => exact hasForm_camelCase cuts some isAlphanum nofun (List.all_eq_true.1 rfl)

/-! ## Numbered names -/

/-- A numbered name ends with a digit. -/
theorem getLast?_numbered (name : String) (n : Nat) :
    ∃ c, (numbered name n).toList.getLast? = some c ∧ c.isDigit = true := by
  have some := Text.digits_ne_nil n
  refine ⟨(Text.digits n).getLast some, ?_, Text.isDigit_of_mem_digits (List.getLast_mem some)⟩
  rw [numbered, String.toList_append, String.toList_ofList, List.getLast?_append,
    List.getLast?_eq_some_getLast some, Option.some_or]

/-- A name that does not end with a digit is not numbered. -/
theorem IsNumbering.eq_of_getLast? {derived given : String} (h : IsNumbering derived given)
    (notDigit : given.toList.getLast?.any Char.isDigit = false) : given = derived := by
  cases h with
  | plain => rfl
  | @numbered n _ =>
    obtain ⟨c, last, isDigit⟩ := getLast?_numbered derived n
    rw [last, Option.any_some, isDigit] at notDigit
    cases notDigit

/-- **A number after a name** keeps its form. -/
theorem HasForm.numbering {derived given : String} (h : HasForm derived)
    (numbering : IsNumbering derived given) :
    HasForm given := by
  cases numbering with
  | plain => exact h
  | numbered fromTwo =>
    obtain ⟨last, found, isDigit⟩ := getLast?_numbered derived _
    refine ⟨h.plain.append fun c mem =>
      ?_, .inl ⟨last, found, by rw [Char.isAlphanum, isDigit, Bool.or_true]⟩⟩
    rw [String.toList_ofList] at mem
    refine .inl ?_
    rw [Char.isAlphanum, Text.isDigit_of_mem_digits mem, Bool.or_true]

/-- Whether a name is derived for a use from a declared one, with a number after it or not. -/
def IsDerived (use : Use) (declared name : String) : Prop :=
  ∃ derived, derive use declared = .ok derived ∧ IsNumbering derived name

theorem IsDerived.hasForm {use : Use} {declared name : String} (h : IsDerived use declared name) :
    HasForm name := by
  obtain ⟨derived, derives, numbering⟩ := h
  exact (derive_hasForm derives).numbering numbering

theorem notMem_reservedMethods_of_form (words : List (List Char)) :
    form .field words ∉ reservedMethods := by
  have marked : ∀ name ∈ reservedMethods, name ++ "_" ∉ reservedMethods := by decide
  rw [form]
  split
  · next reserved => exact marked _ reserved
  · next free => exact free

/-- **No field has a reserved name**, with a number after it or not. -/
theorem IsDerived.notMem_reservedMethods {declared name : String}
    (h : IsDerived .field declared name) :
    name ∉ reservedMethods := by
  intro reserved
  obtain ⟨derived, derives, numbering⟩ := h
  have notDigit : ∀ name ∈ reservedMethods, name.toList.getLast?.any Char.isDigit = false :=
    by decide
  obtain rfl := numbering.eq_of_getLast? (notDigit name reserved)
  rw [derive_eq] at derives
  obtain ⟨words, -, rfl⟩ := map_eq_ok_iff.1 derives
  exact notMem_reservedMethods_of_form words reserved

/-- Names that are given out in order for a use, after those that are taken. Each stands beside what
it is derived from. -/
inductive GivesOut (use : Use) : List String → List (String × String) → Prop
  | nil {taken : List String} : GivesOut use taken []
  | cons {taken : List String} {declared derived : String} {pairs : List (String × String)}
      (derives : derive use declared = .ok derived)
      (later : GivesOut use (fresh taken derived :: taken) pairs) :
      GivesOut use taken ((declared, fresh taken derived) :: pairs)

namespace GivesOut

variable {use : Use} {taken : List String} {pairs : List (String × String)}

theorem areNew (h : GivesOut use taken pairs) : AreNew taken (pairs.map Prod.snd) := by
  induction h with
  | nil => exact .nil _
  | cons _ _ ih => exact ih.cons

theorem isDerived (h : GivesOut use taken pairs) : ∀ pair ∈ pairs, IsDerived use pair.1 pair.2 := by
  induction h with
  | nil => exact nofun
  | cons derives _ ih => exact List.forall_mem_cons.2 ⟨⟨_, derives, isNumbering_fresh _ _⟩, ih⟩

/-- **A derived name is given out as it is** the first time, unless it is taken. -/
theorem mem_of_derive (h : GivesOut use taken pairs) {pair : String × String} (mem : pair ∈ pairs)
    {derived : String} (derives : derive use pair.1 = .ok derived) :
    derived ∈ taken ∨ derived ∈ pairs.map Prod.snd := by
  induction h with
  | nil => cases mem
  | @cons taken declared own pairs derives' _ ih =>
    rcases List.mem_cons.1 mem with rfl | mem
    · obtain rfl := Except.ok.inj (derives'.symm.trans derives)
      by_cases known : own ∈ taken
      · exact .inl known
      · refine .inr (List.mem_cons.2 (.inl ?_))
        rw [fresh, if_neg known]
    · rcases ih mem with known | given
      · rcases List.mem_cons.1 known with rfl | known
        · exact .inr (List.mem_cons_self ..)
        · exact .inl known
      · exact .inr (List.mem_cons_of_mem _ given)

end GivesOut

end SchemaBinding.Naming
