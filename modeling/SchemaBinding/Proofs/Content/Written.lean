import SchemaBinding.Binding.Wire

/-!
# The elements that are written for content

Content is written as markup, and markup stands for an element in the scope it
is written in. `Wire.writtenIn` says which element that is without going through
the markup (`denoted_markup`). In a record a field stands for as many child
elements as its content has occurrences: none when it is absent, one for each
item of a list, and one for anything else. When no two fields have the same
name, the children with the name of a field are exactly those occurrences, in
order (`filter_children_record`).
-/

namespace SchemaBinding

namespace Wire

/-- The markup between the tags of an element that is written for content. -/
def inside : Wire → List Xml.Markup
  | .null => []
  | .text s => [.text s]
  | .list items => itemMarkup "item" items
  | .record fields => fieldMarkup fields

/-- The element that is written for content under a name, read in a scope. -/
def writtenIn (scope : Xml.Scope) (name : String) (declared : Option String) (content : Wire) :
    Xml.Element :=
  let inner := Xml.Markup.innerScope scope declared
  .mk (Xml.Markup.unprefixed inner name) [] inner (Xml.Markup.denotedAll inner content.inside)

/-- **The markup of content stands for the written element.** -/
theorem denoted_markup (scope : Xml.Scope) (name : String) (declared : Option String)
    (content : Wire) :
    (content.markup name declared).denoted scope =
      .element (content.writtenIn scope name declared) := by
  cases content <;>
    simp only [markup, Xml.Markup.denoted, writtenIn, inside, Xml.Markup.denotedAll]

/-- A sequence of markup that begins with content written under a name stands for an element and
what follows. -/
theorem denotedAll_markup_cons (scope : Xml.Scope) (name : String) (declared : Option String)
    (content : Wire) (rest : List Xml.Markup) :
    Xml.Markup.denotedAll scope (content.markup name declared :: rest)
      = .element (content.writtenIn scope name declared) :: Xml.Markup.denotedAll scope rest := by
  rw [← denoted_markup]
  cases content <;> simp only [markup, Xml.Markup.denotedAll]

theorem denotedAll_itemMarkup (scope : Xml.Scope) (name : String) (items : List Wire)
    (rest : List Xml.Markup) :
    Xml.Markup.denotedAll scope (itemMarkup name items ++ rest)
      = items.map (fun item => .element (item.writtenIn scope name none)) ++
        Xml.Markup.denotedAll scope rest := by
  induction items with
  | nil => simp only [itemMarkup, List.nil_append, List.map_nil]
  | cons item items ih =>
    rw [itemMarkup, List.cons_append, denotedAll_markup_cons, ih, List.map_cons, List.cons_append]

/-! ## Occurrences -/

/-- The contents of the elements that stand for a field of a record. -/
def occurrences : Wire → List Wire
  | .null => []
  | .text s => [.text s]
  | .list items => items
  | .record fields => [.record fields]

/-- Whether content stands for one element in a record. -/
def IsSingle : Wire → Prop
  | .text _ | .record _ => True
  | .null | .list _ => False

theorem IsSingle.occurrences {content : Wire} (h : content.IsSingle) :
    content.occurrences = [content] := by
  cases content with
  | text s => rfl
  | record fields => rfl
  | null => exact h.elim
  | list items => exact h.elim

/-- A record stands for the occurrences of its fields, field by field. -/
theorem denotedAll_fieldMarkup (scope : Xml.Scope) (fields : List (String × Wire)) :
    Xml.Markup.denotedAll scope (fieldMarkup fields)
      = fields.flatMap fun entry =>
          entry.2.occurrences.map fun item => .element (item.writtenIn scope entry.1 none) := by
  induction fields with
  | nil => rfl
  | cons entry rest ih =>
    obtain ⟨name, content⟩ := entry
    rw [List.flatMap_cons, ← ih]
    cases content with
    | null => rw [fieldMarkup]; rfl
    | text s => rw [fieldMarkup, denotedAll_markup_cons]; rfl
    | list items => rw [fieldMarkup, denotedAll_itemMarkup]; rfl
    | record fields => rw [fieldMarkup, denotedAll_markup_cons]; rfl

/-! ## Reading written elements -/

@[simp] theorem localName_writtenIn (scope : Xml.Scope) (name : String) (declared : Option String)
    (content : Wire) : (content.writtenIn scope name declared).localName = name := rfl

/-- The text of a written text is that text. -/
theorem textContent_text (scope : Xml.Scope) (name : String) (declared : Option String)
    (s : String) :
    ((Wire.text s).writtenIn scope name declared).textContent = s := by
  simp only [writtenIn, inside, Xml.Markup.denotedAll, Xml.Element.textContent, Xml.Element.content]
  split
  · next empty => simp [String.isEmpty_iff.1 empty]
  · simp [Xml.Content.text?]

/-- The children of a written record are the occurrences of its fields. -/
theorem children_record (scope : Xml.Scope) (name : String) (declared : Option String)
    (fields : List (String × Wire)) :
    ((Wire.record fields).writtenIn scope name declared).children
      = fields.flatMap fun entry => entry.2.occurrences.map
          (writtenIn (Xml.Markup.innerScope scope declared) entry.1 none) := by
  rw [Xml.Element.children, writtenIn, Xml.Element.content, inside, denotedAll_fieldMarkup,
    List.filterMap_flatMap]
  congr 1
  funext entry
  rw [List.filterMap_map]
  exact congrFun List.filterMap_eq_map _

/-- Elements that are written under one name are all kept or all dropped when another name is looked
for. -/
theorem filter_map_writtenIn (scope : Xml.Scope) (name key : String) (items : List Wire) :
    (items.map (writtenIn scope name none)).filter (·.localName == key)
      = if name = key then items.map (writtenIn scope name none) else [] := by
  split
  · next same =>
    rw [List.filter_eq_self]
    intro e he
    obtain ⟨item, -, rfl⟩ := List.mem_map.1 he
    exact beq_iff_eq.2 same
  · next differs =>
    rw [List.filter_eq_nil_iff]
    intro e he
    obtain ⟨item, -, rfl⟩ := List.mem_map.1 he
    exact fun named => differs (eq_of_beq named)

/-- What a table with distinct keys holds under one of them. -/
theorem flatMap_key {α β : Type} {entries : List (String × α)}
    (distinct : (entries.map Prod.fst).Nodup) {entry : String × α} (mem : entry ∈ entries)
    (f : String × α → List β) :
    (entries.flatMap fun other => if other.1 = entry.1 then f other else []) = f entry := by
  induction entries with
  | nil => cases mem
  | cons first rest ih =>
    rw [List.map_cons, List.nodup_cons] at distinct
    rw [List.flatMap_cons]
    rcases List.mem_cons.1 mem with rfl | later
    · have none_later :
          (rest.flatMap fun other => if other.1 = entry.1 then f other else []) = [] := by
        rw [List.flatMap_eq_nil_iff]
        intro other hother
        exact if_neg fun same : other.1 = entry.1 => distinct.1 (same ▸ List.mem_map_of_mem hother)
      rw [none_later, List.append_nil, if_pos rfl]
    · have differs : first.1 ≠ entry.1 := fun same => distinct.1 (same ▸ List.mem_map_of_mem later)
      rw [if_neg differs, List.nil_append, ih distinct.2 later]

/-- **The children with the name of a field are its occurrences.** No other field of the record may
have its name. -/
theorem filter_children_record {fields : List (String × Wire)}
    (distinct : (fields.map Prod.fst).Nodup) {entry : String × Wire} (mem : entry ∈ fields)
    (scope : Xml.Scope) (name : String) (declared : Option String) :
    ((Wire.record fields).writtenIn scope name declared).children.filter (·.localName == entry.1)
      = entry.2.occurrences.map
        (writtenIn (Xml.Markup.innerScope scope declared) entry.1 none) := by
  rw [children_record, List.filter_flatMap]
  simp only [filter_map_writtenIn]
  exact flatMap_key distinct mem fun other =>
    other.2.occurrences.map (writtenIn (Xml.Markup.innerScope scope declared) other.1 none)

end Wire

end SchemaBinding
