import Mathlib.Data.List.Nodup
import Mathlib.Data.List.Perm.Subperm
import SchemaBinding.Generator.Naming

/-!
# Names that are given out

The name to give out for a wanted one is the wanted name if it is new, and
otherwise that name with the smallest number from two on that makes it new
(`IsGiven`). A name with different numbers after it gives different names, none
of which is the name itself, so that such a number is found among as many as
names have been taken; `fresh` finds the smallest (`isGiven_fresh`). What is
given out is therefore new (`fresh_notMem`), and of a sequence of names that are
given out all differ, each being the one to give out after those before it
(`freshAll_given`).
-/

namespace SchemaBinding.Naming

/-- Different numbers after a name give different names. -/
theorem numbered_injective (name : String) : Function.Injective (numbered name) := by
  intro m n same
  have numbers : String.ofList (Text.digits m) = String.ofList (Text.digits n) :=
    (String.append_right_inj name).1 same
  have digits : Text.digits m = Text.digits n := String.ofList_injective numbers
  rw [← Option.some_inj, ← Text.natural?_digits m, digits, Text.natural?_digits]

/-- More names than are taken include a new one. -/
theorem exists_mem_notMem_of_length_lt {taken candidates : List String}
    (distinct : candidates.Nodup) (more : taken.length < candidates.length) :
    ∃ name ∈ candidates, name ∉ taken := by
  by_contra none
  have all : candidates ⊆ taken := fun name mem => by
    by_contra new
    exact none ⟨name, mem, new⟩
  have bound : candidates.length ≤ taken.length := (List.subperm_of_subset distinct all).length_le
  omega

theorem numbered_ne (name : String) (n : Nat) : numbered name n ≠ name := by
  intro same
  have empty : String.ofList (Text.digits n) = "" :=
    (String.append_right_inj name).1 (same.trans String.append_empty.symm)
  exact Text.digits_ne_nil n (String.ofList_injective empty)

/-- **A name that has been taken is new with some number.** There is one among as many numbers as
names are taken. -/
theorem exists_numbered_notMem {taken : List String} {name : String} (known : name ∈ taken) :
    ∃ n, 2 ≤ n ∧ n ≤ taken.length + 1 ∧ numbered name n ∉ taken := by
  have numbers : ((List.range taken.length).map fun n => numbered name (n + 2)).Nodup :=
    List.nodup_range.map fun m n same => Nat.add_right_cancel (numbered_injective name same)
  have other : name ∉ (List.range taken.length).map fun n => numbered name (n + 2) := by
    intro mem
    obtain ⟨n, -, same⟩ := List.mem_map.1 mem
    exact numbered_ne name _ same
  -- The name itself and its numberings are one more than the names that are taken.
  have more : taken.length <
    (name :: (List.range taken.length).map fun n => numbered name (n + 2)).length := by
    rw [List.length_cons, List.length_map, List.length_range]
    exact Nat.lt_succ_self _
  obtain ⟨new, mem, notMem⟩ :=
    exists_mem_notMem_of_length_lt (List.nodup_cons.2 ⟨other, numbers⟩) more
  rcases List.mem_cons.1 mem with rfl | mem
  · exact absurd known notMem
  · obtain ⟨n, inRange, rfl⟩ := List.mem_map.1 mem
    have := List.mem_range.1 inRange
    exact ⟨n + 2, by omega, by omega, notMem⟩

/-- Whether a name is the one to give out for a wanted name when some are taken: the wanted name if
it is new, and otherwise the wanted name with the smallest number from two on that makes it new.
This number exceeds the number of taken names by one at most. -/
inductive IsGiven (taken : List String) (wanted : String) : String → Prop
  | asWanted (new : wanted ∉ taken) : IsGiven taken wanted wanted
  | numbered {n : Nat} (known : wanted ∈ taken) (fromTwo : 2 ≤ n) (new : numbered wanted n ∉ taken)
      (least : ∀ m, 2 ≤ m → m < n → Naming.numbered wanted m ∈ taken)
      (found : n ≤ taken.length + 1) :
      IsGiven taken wanted (numbered wanted n)

/-- **The name that is given out** is the one to give out. -/
theorem isGiven_fresh (taken : List String) (wanted : String) :
    IsGiven taken wanted (fresh taken wanted) := by
  unfold fresh
  split
  · next known =>
    obtain ⟨n, fromTwo, bound, new⟩ := exists_numbered_notMem known
    rw [List.find?_map]
    cases found : (List.range (taken.length + 1)).find?
      ((· ∉ taken) ∘ fun k => numbered wanted (k + 2)) with
    | none =>
      have tried : n - 2 ∈ List.range (taken.length + 1) := List.mem_range.2 (by omega)
      have taken := List.find?_eq_none.1 found _ tried
      rw [Function.comp_apply, Nat.sub_add_cancel fromTwo] at taken
      exact absurd new (by simpa using taken)
    | some k =>
      obtain ⟨newest, -, before⟩ := List.find?_range_eq_some.1 found
      have least : ∀ m, 2 ≤ m → m < k + 2 → numbered wanted m ∈ taken := by
        intro m fromTwo below
        have met := before (m - 2) (by omega)
        rw [Function.comp_apply, Nat.sub_add_cancel fromTwo] at met
        simpa using met
      have early : k + 2 ≤ n := Nat.le_of_not_lt fun below => new (least n fromTwo below)
      exact .numbered known (Nat.le_add_left 2 k) (by simpa using newest)
        least (Nat.le_trans early bound)
  · next new => exact .asWanted new

theorem IsGiven.notMem {taken : List String} {wanted given : String}
    (h : IsGiven taken wanted given) :
    given ∉ taken := by
  cases h with
  | asWanted new => exact new
  | numbered _ _ new _ _ => exact new

/-- **A name that is given out is new.** -/
theorem fresh_notMem (taken : List String) (name : String) : fresh taken name ∉ taken :=
  (isGiven_fresh taken name).notMem

/-- Whether a name is a derived one, as it is or with a number from two on after it. -/
inductive IsNumbering (derived : String) : String → Prop
  | plain : IsNumbering derived derived
  | numbered {n : Nat} (fromTwo : 2 ≤ n) : IsNumbering derived (numbered derived n)

theorem IsGiven.isNumbering {taken : List String} {wanted given : String}
    (h : IsGiven taken wanted given) :
    IsNumbering wanted given := by
  cases h with
  | asWanted _ => exact .plain
  | numbered _ fromTwo _ _ _ => exact .numbered fromTwo

/-- **A name that is given out** is the derived one or numbered. -/
theorem isNumbering_fresh (taken : List String) (name : String) :
    IsNumbering name (fresh taken name) :=
  (isGiven_fresh taken name).isNumbering

/-- Whether names differ from each other and from those that are taken. -/
structure AreNew (taken names : List String) : Prop where
  nodup : names.Nodup
  new : ∀ name ∈ names, name ∉ taken

theorem AreNew.nil (taken : List String) : AreNew taken [] :=
  ⟨List.nodup_nil, List.forall_mem_nil _⟩

/-- A name that is given out before others is new as they are. -/
theorem AreNew.cons {taken names : List String} {derived : String}
    (h : AreNew (fresh taken derived :: taken) names) :
    AreNew taken (fresh taken derived :: names) where
  nodup := List.nodup_cons.2 ⟨fun again => h.new _ again (List.mem_cons_self ..), h.nodup⟩
  new := List.forall_mem_cons.2
    ⟨fresh_notMem taken derived, fun name mem known =>
      h.new name mem (List.mem_cons_of_mem _ known)⟩

/-! ## Names that are given out one after the other -/

theorem length_freshAll (taken wanted : List String) :
    (freshAll taken wanted).length = wanted.length := by
  induction wanted generalizing taken with
  | nil => rfl
  | cons name rest ih => rw [freshAll, List.length_cons, List.length_cons, ih]

/-- **Names that are given out one after the other** differ from each other and from those taken
before. -/
theorem areNew_freshAll (taken wanted : List String) : AreNew taken (freshAll taken wanted) := by
  induction wanted generalizing taken with
  | nil => exact .nil taken
  | cons name rest ih => exact .cons (ih (fresh taken name :: taken))

/-- The order in which names were taken does not matter. -/
theorem IsGiven.of_perm {taken taken' : List String} {wanted given : String}
    (same : taken.Perm taken') (h : IsGiven taken wanted given) : IsGiven taken' wanted given := by
  cases h with
  | asWanted new => exact .asWanted (mt same.mem_iff.2 new)
  | numbered known fromTwo new least found =>
    exact .numbered (same.mem_iff.1 known) fromTwo (mt same.mem_iff.2 new)
      (fun m from' below => same.mem_iff.1 (least m from' below)) (same.length_eq ▸ found)

/-- Each name of a sequence is the one to give out when those before it are taken. -/
theorem isGiven_freshAll {taken wanted : List String} {i : Nat} {name : String}
    (h : wanted[i]? = some name) :
    ∃ given, (freshAll taken wanted)[i]? = some given ∧
      IsGiven (taken ++ (freshAll taken wanted).take i) name given := by
  induction wanted generalizing taken i with
  | nil => cases h
  | cons first rest ih =>
    cases i with
    | zero =>
      obtain rfl := Option.some.inj h
      refine ⟨fresh taken first, rfl, ?_⟩
      rw [List.take_zero, List.append_nil]
      exact isGiven_fresh taken first
    | succ i =>
      obtain ⟨given, found, isGiven⟩ :
        ∃ given, (freshAll (fresh taken first :: taken) rest)[i]? = some given ∧
          IsGiven (fresh taken first :: taken ++
            (freshAll (fresh taken first :: taken) rest).take i) name given := ih h
      exact ⟨given, found, isGiven.of_perm List.perm_middle.symm⟩

/-- **No name is given out twice.** When names are wanted one after the other, one is given out for
each. They differ from each other. A name that has not been given out before is given out as it is,
and any other with the smallest number from two on with which it has not; after `i` names this
number is at most `i + 1`, which ends the search. -/
theorem freshAll_given (wanted : List String) :
    (freshAll [] wanted).length = wanted.length ∧ (freshAll [] wanted).Nodup ∧
      ∀ (i : Nat) (name : String), wanted[i]? = some name →
        ∃ given, (freshAll [] wanted)[i]? = some given ∧
        IsGiven ((freshAll [] wanted).take i) name given :=
  ⟨length_freshAll [] wanted, (areNew_freshAll [] wanted).nodup, fun _ _ h => isGiven_freshAll h⟩

/-- A numbered name may be wanted later, and is then numbered itself. -/
example : freshAll [] ["A", "A", "A2", "A"] = ["A", "A2", "A22", "A3"] := by decide

/-! ## Names that cannot be derived -/

theorem cause_of_wordsOf {name : String} {cause : GenerateError} (h : wordsOf name = .error cause) :
    cause = .invalidName name := by
  unfold wordsOf at h
  split at h
  · exact (Except.error.inj h).symm
  · cases h

/-- What is made of the words of a name fails only for want of words. -/
theorem cause_of_words {α : Type} {name : String} {make : List (List Char) → α}
    {cause : GenerateError} (h : (wordsOf name >>= fun words => .ok (make words)) = .error cause) :
    cause = .invalidName name := by
  rcases failed_of_bind_eq_error h with words | ⟨found, -, made⟩
  · exact cause_of_wordsOf words
  · cases made

/-- No name of a type is derived from a name without words. -/
theorem cause_of_typeName {name : String} {kind : Kind} {cause : GenerateError}
    (h : typeName name kind = .error cause) : cause = .invalidName name :=
  cause_of_words h

/-- No name of a field is derived from a name without words. -/
theorem cause_of_fieldName {name : String} {cause : GenerateError}
    (h : fieldName name = .error cause) :
    cause = .invalidName name :=
  cause_of_words h

end SchemaBinding.Naming
