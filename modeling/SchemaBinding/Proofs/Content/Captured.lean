import Mathlib.Data.List.Basic
import Mathlib.Data.List.Induction
import SchemaBinding.Proofs.Binding.Marshalling

/-!
# Captured content is stable

What is captured of an element is a text, or a record of fields that hold one
content or a list of several (`IsCaptured`). A child is added to the occurrences
of its name and leaves all others as they are (`occurrencesUnder_addChild`), so
that a field holds the contents of the children with its name, in document order
(`areFields_group`), at every depth (`isCaptured_capture`). Conversely, the
occurrences of the fields make the same fields when they are added one by one
(`AreFields.group_flatMap_occurrences`), and by induction over the content it is
captured again from the element that is written for it
(`IsCaptured.capture_writtenIn`). `Binding.decode_any_stable` says this of
documents and of fields of records.
-/

namespace SchemaBinding

namespace Wire

/-! ## Adding children -/

/-- The content of a field after one more child. -/
def extended : Option Wire → Wire → Wire
  | none, content => content
  | some (.list items), content => .list (items ++ [content])
  | some first, content => .list [first, content]

theorem addChild_eq_put (fields : List (String × Wire)) (name : String) (content : Wire) :
    addChild fields name content =
      Keyed.put fields name (extended (Keyed.get? fields name) content) := by
  unfold addChild
  cases Keyed.get? fields name with
  | none => rfl
  | some first => cases first <;> rfl

/-- The fields that children make, added one by one. -/
def group (children : List (String × Wire)) : List (String × Wire) :=
  children.foldl (fun fields child => addChild fields child.1 child.2) []

/-- The contents that fields hold under a name. -/
def occurrencesUnder (fields : List (String × Wire)) (name : String) : List Wire :=
  ((Keyed.get? fields name).map occurrences).getD []

/-! ## Captured content -/

/-- Whether content can be what a field holds: a text, a record, or a list of at least two items. -/
def IsGrouped : Wire → Prop
  | .text _ | .record _ => True
  | .list items => 2 ≤ items.length
  | .null => False

/-- Content as elements have it: a text, or a record of at least one field. Each field has a name of
its own and holds one content or several, which again are as elements have them. -/
inductive IsCaptured : Wire → Prop
  | text (s : String) : IsCaptured (.text s)
  | record {fields : List (String × Wire)} (nonempty : fields ≠ [])
      (distinct : (fields.map Prod.fst).Nodup) (grouped : ∀ entry ∈ fields, entry.2.IsGrouped)
      (captured : ∀ entry ∈ fields, ∀ item ∈ entry.2.occurrences, IsCaptured item) :
      IsCaptured (.record fields)

theorem IsCaptured.isSingle {content : Wire} (h : content.IsCaptured) : content.IsSingle := by
  cases h <;> trivial

theorem IsSingle.isGrouped {content : Wire} (h : content.IsSingle) : content.IsGrouped := by
  cases content with
  | text s => trivial
  | record fields => trivial
  | null => exact h.elim
  | list items => exact h.elim

/-- Whether fields are those of captured content, if there are any. -/
structure AreFields (fields : List (String × Wire)) : Prop where
  distinct : (fields.map Prod.fst).Nodup
  grouped : ∀ entry ∈ fields, entry.2.IsGrouped
  captured : ∀ entry ∈ fields, ∀ item ∈ entry.2.occurrences, item.IsCaptured

theorem AreFields.isCaptured {fields : List (String × Wire)} (h : AreFields fields)
    (nonempty : fields ≠ []) :
    (record fields).IsCaptured :=
  .record nonempty h.distinct h.grouped h.captured

/-- A child is added after the occurrences of a field. -/
theorem occurrences_extended {known : Option Wire} {content : Wire}
    (grouped : ∀ first ∈ known, first.IsGrouped) (single : content.IsSingle) :
    (extended known content).occurrences = (known.map occurrences).getD [] ++ [content] := by
  cases known with
  | none => exact single.occurrences
  | some first =>
    cases first with
    | null => exact (grouped _ rfl).elim
    | text s => rfl
    | list items => rfl
    | record fields => rfl

theorem isGrouped_extended {known : Option Wire} {content : Wire}
    (grouped : ∀ first ∈ known, first.IsGrouped) (single : content.IsSingle) :
    (extended known content).IsGrouped := by
  cases known with
  | none => exact single.isGrouped
  | some first =>
    cases first with
    | null => exact (grouped _ rfl).elim
    | text s => exact Nat.le_refl 2
    | list items =>
      change 2 ≤ (items ++ [content]).length
      have before : 2 ≤ items.length := grouped _ rfl
      rw [List.length_append]
      omega
    | record fields => exact Nat.le_refl 2

section

variable {fields : List (String × Wire)}

theorem AreFields.grouped_of_get? (h : AreFields fields) {name : String} :
    ∀ first ∈ Keyed.get? fields name, first.IsGrouped :=
  fun first found => h.grouped (name, first) (Keyed.mem_of_get? found)

/-- **What adding a child changes:** there is one more content under its name, after the others. -/
theorem occurrencesUnder_addChild (h : AreFields fields) {content : Wire}
    (captured : content.IsCaptured) (name other : String) :
    occurrencesUnder (addChild fields name content) other
      = occurrencesUnder fields other ++ if name = other then [content] else [] := by
  rw [addChild_eq_put, occurrencesUnder, Keyed.get?_put]
  split
  · next same =>
    subst same
    exact occurrences_extended h.grouped_of_get? captured.isSingle
  · exact (List.append_nil _).symm

/-- **A child is added to the fields of captured content.** -/
theorem AreFields.addChild (h : AreFields fields) {content : Wire} (captured : content.IsCaptured)
    (name : String) :
    AreFields (addChild fields name content) := by
  rw [addChild_eq_put]
  have before : ∀ first ∈ Keyed.get? fields name, first.IsGrouped := h.grouped_of_get?
  refine ⟨Keyed.nodup_keys_put h.distinct _ _, fun entry mem => ?_, fun entry mem item hitem => ?_⟩
  · rcases Keyed.mem_put mem with old | rfl
    · exact h.grouped entry old
    · exact isGrouped_extended before captured.isSingle
  · rcases Keyed.mem_put mem with old | rfl
    · exact h.captured entry old item hitem
    · rw [occurrences_extended before captured.isSingle, List.mem_append] at hitem
      rcases hitem with known | new
      · cases found : Keyed.get? fields name with
        | none => rw [found] at known; cases known
        | some first =>
          rw [found] at known
          exact h.captured (name, first) (Keyed.mem_of_get? found) item known
      · exact List.mem_singleton.1 new ▸ captured

end

/-- **Children that are captured make fields of captured content**, which hold under every name the
contents of the children with this name, in order. -/
theorem areFields_group {children : List (String × Wire)}
    (captured : ∀ child ∈ children, child.2.IsCaptured) :
    AreFields (group children) ∧
      ∀ name, occurrencesUnder (group children) name =
        (children.filter (·.1 == name)).map Prod.snd := by
  induction children using List.reverseRecOn with
  | nil => exact ⟨⟨List.nodup_nil, nofun, nofun⟩, fun _ => rfl⟩
  | append_singleton before child ih =>
    rw [List.forall_mem_append] at captured
    obtain ⟨fields, holds⟩ := ih captured.1
    have last := captured.2 child (List.mem_singleton_self child)
    have step : group (before ++ [child]) = addChild (group before) child.1 child.2 := by
      rw [group, List.foldl_append]
      rfl
    rw [step]
    refine ⟨fields.addChild last child.1, fun name => ?_⟩
    rw [occurrencesUnder_addChild fields last, holds, List.filter_append, List.map_append,
      List.filter_singleton]
    by_cases same : child.1 = name
    · simp [same]
    · simp [same, beq_false_of_ne same]

theorem group_ne_nil {children : List (String × Wire)}
    (captured : ∀ child ∈ children, child.2.IsCaptured) (nonempty : children ≠ []) :
    group children ≠ [] := by
  intro empty
  obtain ⟨child, mem⟩ := List.exists_mem_of_ne_nil children nonempty
  have holds := (areFields_group captured).2 child.1
  have here : child.2 ∈ (children.filter (·.1 == child.1)).map Prod.snd :=
    List.mem_map_of_mem (List.mem_filter.2 ⟨mem, beq_self_eq_true child.1⟩)
  rw [← holds, empty] at here
  cases here

/-! ## Capturing elements -/

theorem captureAll_eq : ∀ content : List Xml.Content,
    captureAll content = (content.filterMap Xml.Content.element?).map fun e =>
      (e.localName, capture e)
  | [] => rfl
  | .element e :: rest => by rw [captureAll, captureAll_eq rest]; rfl
  | .text _ :: rest => by rw [captureAll, captureAll_eq rest]; rfl
  | .comment _ :: rest => by rw [captureAll, captureAll_eq rest]; rfl
  | .instruction _ _ :: rest => by rw [captureAll, captureAll_eq rest]; rfl

/-- The content of an element without children is its text. -/
theorem capture_of_childless {e : Xml.Element} (h : e.children = []) :
    capture e = .text e.textContent := by
  obtain ⟨name, attributes, scope, content⟩ := e
  have none_ : captureAll content = [] := by
    rw [captureAll_eq, show content.filterMap Xml.Content.element? = [] from h]
    rfl
  rw [capture, none_]

/-- The content of an element with children is the record of these. -/
theorem capture_of_children {e : Xml.Element} (h : e.children ≠ []) :
    capture e = .record (group (e.children.map fun c => (c.localName, capture c))) := by
  obtain ⟨name, attributes, scope, content⟩ := e
  rw [capture, captureAll_eq]
  split
  · next none_ => exact absurd (List.map_eq_nil_iff.1 none_) h
  · rfl

mutual

/-- **What is captured of an element** is captured content. -/
theorem isCaptured_capture : ∀ e : Xml.Element, (capture e).IsCaptured
  | .mk name attributes scope content => by
    have children := isCaptured_of_mem_captureAll content
    rw [capture]
    split
    · exact .text _
    · next nonempty => exact (areFields_group children).1.isCaptured (group_ne_nil
        children nonempty)

theorem isCaptured_of_mem_captureAll : ∀ (content : List Xml.Content), ∀ child ∈ captureAll content,
    child.2.IsCaptured
  | [], _, mem => nomatch mem
  | .element e :: rest, child, mem => by
    rw [captureAll] at mem
    rcases List.mem_cons.1 mem with rfl | later
    · exact isCaptured_capture e
    · exact isCaptured_of_mem_captureAll rest child later
  | .text _ :: rest, child, mem => isCaptured_of_mem_captureAll rest child mem
  | .comment _ :: rest, child, mem => isCaptured_of_mem_captureAll rest child mem
  | .instruction _ _ :: rest, child, mem => isCaptured_of_mem_captureAll rest child mem

end

/-! ## Capturing what is written -/

theorem foldl_extended_list (known items : List Wire) :
    items.foldl (fun content item => extended (some content) item) (.list known) =
      .list (known ++ items) := by
  induction items generalizing known with
  | nil => rw [List.append_nil]; rfl
  | cons item rest ih => rw [List.foldl_cons, extended, ih, List.append_assoc,
      List.singleton_append]

/-- What a field holds is made of its occurrences, one by one. -/
theorem exists_occurrences_eq_cons {content : Wire} (grouped : content.IsGrouped)
    (single : ∀ item ∈ content.occurrences, item.IsSingle) :
    ∃ first rest, content.occurrences = first :: rest ∧
      rest.foldl (fun content item => extended (some content) item) first = content := by
  match content, grouped, single with
  | .text s, _, _ => exact ⟨_, [], rfl, rfl⟩
  | .record fields, _, _ => exact ⟨_, [], rfl, rfl⟩
  | .list (first :: second :: rest), _, single =>
    refine ⟨first, second :: rest, rfl, ?_⟩
    have two : extended (some first) second = .list [first, second] := by
      have one := single first (List.mem_cons_self ..)
      cases first with
      | text s => rfl
      | record fields => rfl
      | null => exact one.elim
      | list items => exact one.elim
    rw [List.foldl_cons, two, foldl_extended_list]
    rfl
  | .list [_], grouped, _ => exact absurd grouped (Nat.lt_irrefl 1)
  | .list [], grouped, _ => exact absurd grouped (Nat.not_succ_le_zero 1)

theorem foldl_addChild_put (fields : List (String × Wire)) (name : String) (content : Wire)
    (items : List Wire) :
    items.foldl (fun fields item => addChild fields name item) (Keyed.put fields name content)
      = Keyed.put fields name (items.foldl (fun content item => extended (some content) item)
        content) := by
  induction items generalizing content with
  | nil => rfl
  | cons item rest ih =>
    rw [List.foldl_cons, List.foldl_cons, addChild_eq_put, Keyed.get?_put, if_pos rfl,
      Keyed.put_put, ih]

/-- Adding the occurrences of a field with a new name adds the field. -/
theorem foldl_addChild_occurrences {fields : List (String × Wire)} {name : String}
    (new : name ∉ fields.map Prod.fst) {content : Wire} (grouped : content.IsGrouped)
    (single : ∀ item ∈ content.occurrences, item.IsSingle) :
    (content.occurrences.map fun item => (name, item)).foldl
      (fun fields child => addChild fields child.1 child.2) fields =
        fields ++ [(name, content)] := by
  obtain ⟨first, rest, split, whole⟩ := exists_occurrences_eq_cons grouped single
  have absent : Keyed.get? fields name = none := by
    rw [Option.eq_none_iff_forall_ne_some]
    exact fun known found => new (Keyed.mem_keys_of_mem (Keyed.mem_of_get? found))
  rw [List.foldl_map, split, List.foldl_cons, addChild_eq_put, absent, extended,
    foldl_addChild_put, whole, Keyed.put_of_notMem new]

/-- **The occurrences of the fields of captured content** make these fields again. -/
theorem AreFields.group_flatMap_occurrences {fields : List (String × Wire)} (h : AreFields fields) :
    group (fields.flatMap fun entry => entry.2.occurrences.map fun item => (entry.1, item)) =
      fields := by
  have after : ∀ rest before : List (String × Wire), AreFields (before ++ rest) →
      (rest.flatMap fun entry => entry.2.occurrences.map fun item => (entry.1, item)).foldl
        (fun fields child => Wire.addChild fields child.1 child.2) before = before ++ rest := by
    intro rest
    induction rest with
    | nil => exact fun before _ => (List.append_nil before).symm
    | cons entry rest ih =>
      intro before h
      have mem : entry ∈ before ++ entry :: rest := List.mem_append_right _ (List.mem_cons_self ..)
      have new : entry.1 ∉ before.map Prod.fst := by
        have distinct := h.distinct
        rw [List.map_append, List.map_cons, List.nodup_append] at distinct
        exact fun known => distinct.2.2 _ known _ (List.mem_cons_self ..) rfl
      rw [List.flatMap_cons, List.foldl_append, foldl_addChild_occurrences new (h.grouped entry mem)
        fun item hitem => (h.captured entry mem item hitem).isSingle]
      rw [List.append_cons] at h
      exact (ih _ h).trans (List.append_cons before entry rest).symm
  exact after fields [] h

/-- **Captured content is captured again** from the element that is written for it, under any name
and in any scope. -/
theorem IsCaptured.capture_writtenIn {content : Wire} (h : content.IsCaptured) :
    ∀ (scope : Xml.Scope) (name : String)
    (declared : Option String), capture (content.writtenIn scope name declared) = content := by
  induction h with
  | text s =>
    intro scope name declared
    have childless : ((Wire.text s).writtenIn scope name declared).children = [] := by
      simp only [writtenIn, inside, Xml.Markup.denotedAll, Xml.Element.children,
        Xml.Element.content]
      split <;> rfl
    rw [capture_of_childless childless, textContent_text]
  | @record fields nonempty distinct grouped captured ih =>
    intro scope name declared
    have fieldsOf : AreFields fields := ⟨distinct, grouped, captured⟩
    -- Each child is captured as the occurrence that it is written for.
    have contents :
        ((Wire.record fields).writtenIn scope name declared).children.map
        (fun c => (c.localName, capture c))
          = fields.flatMap fun entry => entry.2.occurrences.map fun item => (entry.1, item) := by
      rw [children_record, List.map_flatMap]
      refine List.flatMap_congr fun entry mem => ?_
      rw [List.map_map]
      refine List.map_congr_left fun item hitem => ?_
      rw [Function.comp_apply, localName_writtenIn, ih entry mem item hitem]
    have children : ((Wire.record fields).writtenIn scope name declared).children ≠ [] := by
      intro none_
      rw [none_, List.map_nil] at contents
      have empty := fieldsOf.group_flatMap_occurrences
      rw [← contents] at empty
      exact nonempty empty.symm
    rw [capture_of_children children, contents, fieldsOf.group_flatMap_occurrences]

/-! ## Parts of captured content -/

/-- Whether a whole has content as a part, at any depth. -/
inductive HasPart (whole : Wire) : Wire → Prop
  | self : HasPart whole whole
  | item {items : List Wire} {item : Wire} (part : HasPart whole (.list items))
      (mem : item ∈ items) : HasPart whole item
  | field {fields : List (String × Wire)} {entry : String × Wire}
      (part : HasPart whole (.record fields)) (mem : entry ∈ fields) : HasPart whole entry.2

/-- Every part of captured content is what a field can hold, and its occurrences are captured
content. -/
theorem IsCaptured.isGrouped_of_hasPart {whole part : Wire} (h : whole.IsCaptured)
    (within : HasPart whole part) :
    part.IsGrouped ∧ ∀ item ∈ part.occurrences, item.IsCaptured := by
  have alone {content : Wire} (h : content.IsCaptured) :
      content.IsGrouped ∧ ∀ item ∈ content.occurrences, item.IsCaptured := by
    rw [h.isSingle.occurrences]
    exact ⟨h.isSingle.isGrouped, fun item mem => List.mem_singleton.1 mem ▸ h⟩
  induction within with
  | self => exact alone h
  | item _ mem ih => exact alone (ih.2 _ mem)
  | field _ mem ih =>
    cases ih.2 _ (List.mem_singleton_self _) with
    | record _ _ grouped captured => exact ⟨grouped _ mem, captured _ mem⟩

/-- **Where captured content has a list:** as a field of a record only, with at least two items,
each of which is a text or a record. -/
theorem IsCaptured.of_hasPart_list {whole : Wire} (h : whole.IsCaptured) {items : List Wire}
    (within : HasPart whole (.list items)) : 2 ≤ items.length ∧ ∀ item ∈ items, item.IsSingle := by
  obtain ⟨grouped, captured⟩ := h.isGrouped_of_hasPart within
  exact ⟨grouped, fun item mem => (captured item mem).isSingle⟩

/-! ## Equality -/

theorem equalItems_self {items : List Wire} (h : ∀ item ∈ items, item.equal item = true) :
    equalItems items items = true := by
  induction items with
  | nil => rfl
  | cons item rest ih =>
    rw [List.forall_mem_cons] at h
    rw [equalItems, h.1, ih h.2]
    rfl

theorem equal_self_of_occurrences {content : Wire} (grouped : content.IsGrouped)
    (h : ∀ item ∈ content.occurrences, item.equal item = true) : content.equal content = true := by
  cases content with
  | null => exact grouped.elim
  | text s => exact h _ (List.mem_singleton_self _)
  | record fields => exact h _ (List.mem_singleton_self _)
  | list items =>
    rw [equal]
    exact equalItems_self h

/-- Fields are equal to themselves among fields with distinct names. -/
theorem equalFields_self {fields : List (String × Wire)} (distinct : (fields.map Prod.fst).Nodup) :
    ∀ rest : List (String × Wire), rest ⊆ fields → (∀ entry ∈ rest, entry.2.equal entry.2 = true) →
      equalFields rest fields = true
  | [], _, _ => rfl
  | (name, content) :: rest, within, h => by
    rw [List.cons_subset] at within
    rw [List.forall_mem_cons] at h
    rw [equalFields, Keyed.get?_of_mem distinct within.1,
      equalFields_self distinct rest within.2 h.2]
    exact (Bool.and_true _).trans h.1

theorem IsCaptured.equal_self {content : Wire} (h : content.IsCaptured) :
    content.equal content = true := by
  induction h with
  | text s =>
    rw [equal]
    exact beq_self_eq_true s
  | @record fields _ distinct grouped _ ih =>
    rw [equal, beq_self_eq_true, Bool.true_and]
    exact equalFields_self distinct fields (List.Subset.refl _) fun entry mem =>
      equal_self_of_occurrences (grouped entry mem) (ih entry mem)

/-! ## Stability -/

/-- Whether content tells what an element holds: its text if it has no children, and otherwise under
every name the contents of the children with this name, in document order. -/
structure IsContentOf (content : Wire) (e : Xml.Element) : Prop where
  text : e.children = [] → content = .text e.textContent
  record : e.children ≠ [] → ∃ fields, content = .record fields ∧
    ∀ name, occurrencesUnder fields name = (e.children.filter (·.localName == name)).map capture

theorem isContentOf_capture (e : Xml.Element) : (capture e).IsContentOf e where
  text := capture_of_childless
  record nonempty := by
    refine ⟨_, capture_of_children nonempty, fun name => ?_⟩
    have captured : ∀ child ∈ e.children.map (fun c => (c.localName, capture c)),
      child.2.IsCaptured := by
      intro child mem
      obtain ⟨c, -, rfl⟩ := List.mem_map.1 mem
      exact isCaptured_capture c
    rw [(areFields_group captured).2, List.filter_map, List.map_map]
    rfl

/-- Whether content is found again as it is in what is written for it: in a document, when its text
is parsed as what its markup stands for, and in any record that has it in a field, alone or in a
list, among the children with the name of the field. -/
structure IsStable (content : Wire) : Prop where
  document : ∀ root, Xml.parseDocument false (Binding.any.toXml content) = .ok root →
    (Binding.any.markup content).denoted [] = .element root →
      Binding.any.ofXml (Binding.any.toXml content) = .ok content
  field : ∀ (fields : List (String × Wire)), (fields.map Prod.fst).Nodup →
    ∀ entry ∈ fields, ∀ i : Nat,
    entry.2.occurrences[i]? = some content → ∀ scope name declared root,
      ((Wire.record fields).markup name declared).denoted scope = .element root →
        ((root.children.filter (·.localName == entry.1))[i]?).map capture = some content

theorem IsCaptured.isStable {content : Wire} (h : content.IsCaptured) : content.IsStable where
  document root parses stands := by
    obtain rfl := Xml.Content.element.inj ((denoted_markup [] _ _ content).symm.trans stands)
    rw [Binding.ofXml, parses]
    change Binding.ofElement .any _ = _
    rw [Binding.ofElement, if_pos (Binding.accepts_written .any [] content), Binding.decode,
      h.capture_writtenIn]
  field fields distinct entry mem i here scope name declared root stands := by
    rw [denoted_markup] at stands
    obtain rfl := Xml.Content.element.inj stands
    rw [filter_children_record distinct mem, List.getElem?_map, here, Option.map_some,
      Option.map_some, h.capture_writtenIn]

end Wire

/-- Arbitrary content is re-read as it is, so that it may be nested in structured bindings. -/
theorem Binding.rereads_any : Binding.any.Rereads := by
  intro e x read scope name declared
  rw [Binding.decode] at read
  obtain rfl := Except.ok.inj read
  have captured := Wire.isCaptured_capture e
  exact ⟨Wire.capture e, congrArg Except.ok (captured.capture_writtenIn scope name declared),
    captured.equal_self⟩

/-- **Capturing is stable.** Content is read from every element. It tells what the element holds. It
is no list itself, and any list in it, at any depth, has at least two items, each of which is a text
or a record; so lists are fields of records only. What is written for the content, as a document or
in a field of a record, is captured as the same content. -/
theorem Binding.decode_any_stable (e : Xml.Element) :
    ∃ content : Wire, Binding.any.decode e = .ok content ∧ content.IsContentOf e ∧
      content.IsSingle ∧
      (∀ items, content.HasPart (.list items) → 2 ≤ items.length ∧ ∀ item ∈ items, item.IsSingle) ∧
      content.IsStable := by
  have captured := Wire.isCaptured_capture e
  exact ⟨Wire.capture e, rfl, Wire.isContentOf_capture e, captured.isSingle,
    fun _ within => captured.of_hasPart_list within, captured.isStable⟩

/-- An element with text and with children of two names by turns. -/
def interleaved : Xml.Element :=
  let leaf (name text : String) : Xml.Content := .element (.mk ⟨none, name⟩ [] [] [.text text])
  .mk ⟨none, "v"⟩ [] [] [leaf "a" "1", .text "x", leaf "b" "", leaf "a" "2"]

/-- The root of the document for its content. -/
def interleavedRoot : Xml.Element :=
  let scope : Xml.Scope := [(none, schemaNamespace)]
  let node (name : String) (content : List Xml.Content) : Xml.Content :=
    .element (.mk ⟨some schemaNamespace, name⟩ [] scope content)
  .mk ⟨some schemaNamespace, "anyType"⟩ []
    scope [node "a" [.text "1"], node "a" [.text "2"], node "b" []]

theorem Binding.decode_any_stable_interleaved :
    let content : Wire := .record [("a", .list [.text "1", .text "2"]), ("b", .text "")]
    Binding.any.decode interleaved = .ok content ∧
      Binding.any.ofXml (Binding.any.toXml content) = .ok content := by
  obtain ⟨content, read, -, -, -, stable⟩ := Binding.decode_any_stable interleaved
  obtain rfl : Wire.capture interleaved = content := Except.ok.inj read
  have printed : Binding.any.toXml (Wire.capture interleaved)
      = "<anyType xmlns=\"http://www.w3.org/2001/XMLSchema\"><a>1</a><a>2</a><b></b></anyType>" :=
        rfl
  have parses : Xml.parseDocument false
      "<anyType xmlns=\"http://www.w3.org/2001/XMLSchema\"><a>1</a><a>2</a><b></b></anyType>"
        = .ok interleavedRoot := by decide +kernel
  exact ⟨rfl, stable.document interleavedRoot (printed ▸ parses) rfl⟩

end SchemaBinding
