/-!
# Tables in the order of their keys

Source: `SPEC_FULL.md`, 3 (order preserved): the ordered maps of
`builtins/wire`, `builtins/meta` and `xsd/schema`.

A table maps keys to values and remembers in which order the keys were first
given. Giving a key again replaces its value and leaves its place: this is what
records, enumerations and the schemas of one service description share. The
main statements say what looking up finds after an insertion, that an insertion
adds at most one key, at the end, and that of several entries with one key the
last one counts.
-/

namespace SchemaBinding

/-- A table as the list of its entries, in the order in which their keys were first given. -/
abbrev Keyed (κ : Type) (α : Type) := List (κ × α)

namespace Keyed

variable {κ α : Type} [DecidableEq κ]

/-- The value of a key, if the table has it. -/
def get? : Keyed κ α → κ → Option α
  | [], _ => none
  | (k, a) :: rest, key => if k = key then some a else get? rest key

/-- Gives `key` the value `value`: in place when the key is known, at the end otherwise. -/
def put : Keyed κ α → κ → α → Keyed κ α
  | [], key, value => [(key, value)]
  | (k, a) :: rest, key, value =>
    if k = key then (k, value) :: rest else (k, a) :: put rest key value

/-- The table that results from giving all entries in order. -/
def ofList (entries : List (κ × α)) : Keyed κ α :=
  entries.foldl (fun table entry => table.put entry.1 entry.2) []

/-- The keys in order. -/
def keys (table : Keyed κ α) : List κ := table.map Prod.fst

/-- **Looking up after an insertion.** The inserted key has the new value, every other key keeps its
own. -/
theorem get?_put (table : Keyed κ α) (key other : κ) (value : α) :
    (table.put key value).get? other = if key = other then some value else table.get? other := by
  induction table with
  | nil => rfl
  | cons entry rest ih =>
    obtain ⟨k, a⟩ := entry
    by_cases same : k = key
    · subst same
      by_cases here : k = other <;> simp [put, get?, here]
    · by_cases here : k = other
      · subst here
        simp [put, get?, same, Ne.symm same]
      · simp [put, get?, same, ih, here]

/-- What is found is an entry. -/
theorem mem_of_get? {table : Keyed κ α} {key : κ} {value : α} (h : table.get? key = some value) :
    (key, value) ∈ table := by
  induction table with
  | nil => simp [get?] at h
  | cons entry rest ih =>
    obtain ⟨k, a⟩ := entry
    by_cases same : k = key
    · simp only [get?, same, if_true, Option.some.injEq] at h
      simp [same, h]
    · simp only [get?, same, if_false] at h
      exact List.mem_cons_of_mem _ (ih h)

/-- **The keys after an insertion.** A known key changes no place; a new one comes last. -/
theorem keys_put (table : Keyed κ α) (key : κ) (value : α) :
    (table.put key value).keys = if key ∈ table.keys then table.keys else table.keys ++ [key] := by
  induction table with
  | nil => simp [put, keys]
  | cons entry rest ih =>
    obtain ⟨k, a⟩ := entry
    by_cases same : k = key
    · subst same
      simp [put, keys]
    · simp only [keys] at ih
      by_cases known : key ∈ rest.map Prod.fst <;> simp [keys, put, same, Ne.symm same, ih, known]

/-- Of two insertions with one key the second counts. -/
theorem put_put (table : Keyed κ α) (key : κ) (value other : α) :
    (table.put key value).put key other = table.put key other := by
  induction table with
  | nil => exact if_pos rfl
  | cons entry rest ih =>
    obtain ⟨k, a⟩ := entry
    by_cases same : k = key <;> simp [put, same, ih]

/-! ## Tables of given entries -/

omit [DecidableEq κ] in
/-- An entry has a key of the table. -/
theorem mem_keys_of_mem {table : Keyed κ α} {key : κ} {value : α} (h : (key, value) ∈ table) :
    key ∈ table.keys :=
  List.mem_map_of_mem (f := Prod.fst) h

/-- What is in a table after an insertion was there before, or has been inserted. -/
theorem mem_put {table : Keyed κ α} {key : κ} {value : α} {entry : κ × α}
    (h : entry ∈ table.put key value) :
    entry ∈ table ∨ entry = (key, value) := by
  induction table with
  | nil => exact .inr (List.mem_singleton.1 h)
  | cons first rest ih =>
    obtain ⟨k, a⟩ := first
    by_cases same : k = key
    · rw [put, if_pos same, List.mem_cons] at h
      rcases h with rfl | h
      · exact .inr (by rw [same])
      · exact .inl (List.mem_cons_of_mem _ h)
    · rw [put, if_neg same, List.mem_cons] at h
      rcases h with rfl | h
      · exact .inl (List.mem_cons_self ..)
      · exact (ih h).imp_left (List.mem_cons_of_mem _)

theorem mem_foldl_put {entries : List (κ × α)} {table : Keyed κ α} {entry : κ × α}
    (h : entry ∈ entries.foldl (fun table entry => table.put entry.1 entry.2) table) :
    entry ∈ table ∨ entry ∈ entries := by
  induction entries generalizing table with
  | nil => exact .inl h
  | cons first rest ih =>
    rcases ih h with before | later
    · exact (mem_put before).imp_right fun same => List.mem_cons.2 (.inl same)
    · exact .inr (List.mem_cons_of_mem _ later)

/-- A table holds nothing but the given entries. -/
theorem mem_of_mem_ofList {entries : List (κ × α)} {entry : κ × α} (h : entry ∈ ofList entries) :
    entry ∈ entries :=
  (mem_foldl_put h).elim nofun id

theorem get?_foldl_put_of_forall {entries : List (κ × α)} {key : κ}
    (others : ∀ entry ∈ entries, entry.1 ≠ key) (table : Keyed κ α) :
    (entries.foldl (fun table entry => table.put entry.1 entry.2) table).get? key =
      table.get? key := by
  induction entries generalizing table with
  | nil => rfl
  | cons first rest ih =>
    rw [List.forall_mem_cons] at others
    rw [List.foldl_cons, ih others.2, get?_put, if_neg others.1]

/-- **The last entry of a key counts.** -/
theorem get?_ofList {before later : List (κ × α)} {key : κ} {value : α}
    (last : ∀ entry ∈ later, entry.1 ≠ key) :
    (ofList (before ++ (key, value) :: later)).get? key = some value := by
  rw [ofList, List.foldl_append, List.foldl_cons, get?_foldl_put_of_forall last, get?_put,
    if_pos rfl]

theorem nodup_keys_put {table : Keyed κ α} (nodup : table.keys.Nodup) (key : κ) (value : α) :
    (table.put key value).keys.Nodup := by
  rw [keys_put]
  split
  · exact nodup
  · next new =>
    refine List.nodup_append.2 ⟨nodup, List.nodup_cons.2 ⟨nofun, List.nodup_nil⟩, ?_⟩
    rintro k mem _ last rfl
    exact new (List.mem_singleton.1 last ▸ mem)

/-- Every key is in a table once. -/
theorem nodup_keys_ofList (entries : List (κ × α)) : (ofList entries).keys.Nodup := by
  have after : ∀ (entries : List (κ × α)) (table : Keyed κ α), table.keys.Nodup →
      (entries.foldl (fun table entry => table.put entry.1 entry.2) table).keys.Nodup := by
    intro entries
    induction entries with
    | nil => exact fun _ nodup => nodup
    | cons first rest ih => exact fun table nodup => ih _ (nodup_keys_put nodup _ _)
  exact after entries [] List.nodup_nil

/-- An entry is found by its key, when every key is in the table once. -/
theorem get?_of_mem {table : Keyed κ α} (nodup : table.keys.Nodup) {key : κ} {value : α}
    (h : (key, value) ∈ table) : table.get? key = some value := by
  induction table with
  | nil => cases h
  | cons first rest ih =>
    obtain ⟨k, a⟩ := first
    obtain ⟨new, nodup⟩ := List.nodup_cons.1 nodup
    rcases List.mem_cons.1 h with same | h
    · cases same
      exact if_pos rfl
    · have differs : k ≠ key := fun same => new (same ▸ mem_keys_of_mem h)
      rw [get?, if_neg differs, ih nodup h]

/-! ## Tables with distinct keys -/

theorem put_of_notMem {table : Keyed κ α} {key : κ} (h : key ∉ table.map Prod.fst) (value : α) :
    table.put key value = table ++ [(key, value)] := by
  induction table with
  | nil => rfl
  | cons entry rest ih =>
    rw [List.map_cons, List.mem_cons, not_or] at h
    rw [put, if_neg (Ne.symm h.1), ih h.2, List.cons_append]

theorem foldl_put_of_nodup (table entries : List (κ × α))
    (h : ((table ++ entries).map Prod.fst).Nodup) :
    entries.foldl (fun table entry => Keyed.put table entry.1 entry.2) table =
      table ++ entries := by
  induction entries generalizing table with
  | nil => rw [List.foldl_nil, List.append_nil]
  | cons entry rest ih =>
    rw [List.append_cons] at h
    have new : entry.1 ∉ table.map Prod.fst := by
      rw [List.map_append, List.map_append, List.append_assoc, List.nodup_append] at h
      exact fun mem => h.2.2 _ mem _ (List.mem_append_left _ (List.mem_singleton_self _)) rfl
    rw [List.foldl_cons, put_of_notMem new, ih _ h, List.append_assoc, List.singleton_append]

/-- A table whose keys are given once each holds the entries as they are given. -/
theorem ofList_of_nodup {entries : List (κ × α)} (h : (entries.map Prod.fst).Nodup) :
    ofList entries = entries :=
  foldl_put_of_nodup [] entries h

end Keyed

end SchemaBinding
