import Mathlib.Data.List.Forall2
import SchemaBinding.Proofs.Binding.Chain
import SchemaBinding.Proofs.Binding.Marshalling

/-!
# What structured bindings accept

A field of a structured binding looks at the children of an element that have
its name and are not nil (`Field.occurrencesIn`). It accepts the element when
these keep to its upper bound and its type accepts each of them
(`Field.Accepts`). A structured binding accepts an element when all its fields
do, and its value then holds, field by field, what the occurrences are read as,
in document order (`Fields.Holds`). Otherwise the failure is at the first field
that does not accept the element: its occurrences are too many, or else it is
inside of the first occurrence that is not accepted. So it has a path of names
of fields down to a violation (`Binding.FailsAt`), and the reason is that
violation under the names of the path (`Reason.chain`). `decode_complex` says
all of this; `Binding.decode_eq_error_iff` is the induction over the nesting.
-/

namespace SchemaBinding

/-! ## Converting lists -/

section

variable {α β : Type} {f : α → Except Reason β}

/-- **A list that is converted** is converted member by member. -/
theorem mapM_eq_ok_iff {given : List α} {values : List β} :
    given.mapM f = .ok values ↔ List.Forall₂ (fun a b => f a = .ok b) given values := by
  induction given generalizing values with
  | nil =>
    constructor
    · intro h
      obtain rfl := Except.ok.inj h
      exact .nil
    · rintro ⟨⟩
      rfl
  | cons a rest ih =>
    rw [mapM_cons_eq_ok_iff, List.forall₂_cons_left_iff]
    simp only [ih, exists_and_left]

/-- A list is converted if each member is. -/
theorem exists_mapM_iff {given : List α} :
    (∃ values, given.mapM f = .ok values) ↔ ∀ a ∈ given, ∃ b, f a = .ok b := by
  induction given with
  | nil => exact ⟨fun _ => List.forall_mem_nil _, fun _ => ⟨[], rfl⟩⟩
  | cons a rest ih =>
    rw [List.forall_mem_cons, ← ih]
    simp only [mapM_cons_eq_ok_iff]
    constructor
    · rintro ⟨_, b, others, here, there, -⟩
      exact ⟨⟨b, here⟩, others, there⟩
    · rintro ⟨⟨b, here⟩, others, there⟩
      exact ⟨b :: others, b, others, here, there, rfl⟩

/-- **A list that is not converted** fails as the first member does that is not converted. -/
theorem mapM_eq_error_iff {given : List α} {reason : Reason} :
    given.mapM f = .error reason ↔ ∃ a, GoesOnTo (fun b => ∃ x, f b = .ok x) given a ∧
      f a = .error reason := by
  induction given with
  | nil => exact ⟨nofun, fun ⟨_, none_, _⟩ => absurd none_ not_goesOnTo_nil⟩
  | cons first rest ih =>
    simp only [goesOnTo_cons, or_and_right, exists_or, exists_eq_left, and_assoc, exists_and_left]
    rw [← ih, List.mapM_cons]
    cases f first with
    | error cause => simp [bind, Except.bind]
    | ok b =>
      cases rest.mapM f with
      | error cause => simp [bind, Except.bind]
      | ok values => simp [bind, Except.bind, pure, Except.pure]

end

/-! ## One field -/

namespace Field

variable (field : Field) (type : Binding) (e : Xml.Element)

/-- The occurrences of a field: the children with its name that are not nil, in document order. -/
def occurrencesIn : List Xml.Element :=
  e.children.filter fun c => c.localName == field.name && !isNil c

/-- Whether a field of a type accepts an element: its occurrences keep to the upper bound, and the
type accepts each of them. -/
def Accepts : Prop :=
  field.max.allows (field.occurrencesIn e).length = true ∧ ∀ c ∈ field.occurrencesIn e, ∃ x,
    type.decode c = .ok x

theorem filter_childrenOf :
    (field.childrenOf e).filter (fun c => !isNil c) = field.occurrencesIn e := by
  rw [childrenOf, List.filter_filter, occurrencesIn]
  simp only [Bool.and_comm]

variable {field type e}

theorem convert_childrenOf_eq_ok_iff {values : List type.Value} :
    field.convert isNil type.decode (field.childrenOf e) = .ok values ↔
      field.max.allows (field.occurrencesIn e).length = true ∧
        List.Forall₂ (fun c x => type.decode c = .ok x) (field.occurrencesIn e) values := by
  rw [convert_eq_ok_iff, filter_childrenOf, mapM_eq_ok_iff]

theorem exists_convert_iff :
    (∃ values, field.convert isNil type.decode (field.childrenOf e) = .ok values) ↔
      field.Accepts type e := by
  simp only [convert_eq_ok_iff, filter_childrenOf, exists_and_left, exists_mapM_iff, Accepts]

/-- A field does not look at anything but its occurrences. -/
theorem convert_congr {e' : Xml.Element} (same : field.occurrencesIn e = field.occurrencesIn e') :
    field.convert isNil type.decode (field.childrenOf e) =
      field.convert isNil type.decode (field.childrenOf e') := by
  rw [convert, convert, filter_childrenOf, filter_childrenOf, same]

/-- **How a field fails:** by the number of what is present, or else as the conversion does. -/
theorem convert_eq_error_iff {α β : Type} {field : Field} {absent : α → Bool}
    {value : α → Except Reason β} {given : List α} {reason : Reason} :
    field.convert absent value given = .error reason ↔
      field.max.allows (given.filter fun a => !absent a).length = false ∧
          reason = .field field.name
            (.violation (.tooMany field.max.print (given.filter fun a => !absent a).length)) ∨
        field.max.allows (given.filter fun a => !absent a).length = true ∧
          ∃ inner, (given.filter fun a => !absent a).mapM value = .error inner ∧
            reason = .field field.name inner := by
  simp only [convert]
  generalize given.filter (fun a => !absent a) = present
  cases field.max.allows present.length with
  | false => simp [eq_comm]
  | true =>
    cases present.mapM value with
    | ok values => simp
    | error inner => simp [eq_comm]

end Field

/-! ## All fields -/

namespace Fields

/-- The fields with their types, in order. -/
def members : Fields → List (Field × Binding)
  | .nil => []
  | .cons field type rest => (field, type) :: rest.members

/-- Whether a value holds, for every field, what the occurrences of the field are read as, in
document order. -/
def Holds : (fields : Fields) → Xml.Element → fields.Values → Prop
  | .nil, _, _ => True
  | .cons field type rest, e, (values, others) =>
    List.Forall₂ (fun c x => type.decode c = .ok x) (field.occurrencesIn e) values ∧
      rest.Holds e others

variable {e : Xml.Element}

theorem holds_of_decode : ∀ {fields : Fields} {v : fields.Values}, fields.decode e = .ok v →
      fields.Holds e v
  | .nil, _, _ => trivial
  | .cons _ _ _, (_, _), h => by
    obtain ⟨converted, more⟩ := decode_cons_eq_ok_iff.1 h
    exact ⟨(Field.convert_childrenOf_eq_ok_iff.1 converted).2, holds_of_decode more⟩

/-- **The fields are read** if all of them accept the element. -/
theorem exists_decode_iff : ∀ {fields : Fields},
    (∃ v, fields.decode e = .ok v) ↔ ∀ m ∈ fields.members, m.1.Accepts m.2 e
  | .nil => ⟨fun _ => List.forall_mem_nil _, fun _ => ⟨(), rfl⟩⟩
  | .cons field type rest => by
    rw [members, List.forall_mem_cons, ← exists_decode_iff, ← Field.exists_convert_iff]
    constructor
    · rintro ⟨⟨values, others⟩, h⟩
      obtain ⟨here, there⟩ := decode_cons_eq_ok_iff.1 h
      exact ⟨⟨values, here⟩, others, there⟩
    · rintro ⟨⟨values, here⟩, others, there⟩
      exact ⟨(values, others), decode_cons_eq_ok_iff.2 ⟨here, there⟩⟩

/-- **The fields are not read** as the first field that does not accept the element fails. -/
theorem decode_eq_error_iff {reason : Reason} : ∀ {fields : Fields},
    fields.decode e = .error reason ↔ ∃ m, GoesOnTo (fun m => m.1.Accepts m.2 e) fields.members m ∧
      m.1.convert isNil m.2.decode (m.1.childrenOf e) = .error reason
  | .nil => ⟨nofun, fun ⟨_, none_, _⟩ => absurd none_ not_goesOnTo_nil⟩
  | .cons field type rest => by
    simp only [members, goesOnTo_cons, or_and_right, exists_or, exists_eq_left, and_assoc,
      exists_and_left]
    rw [← decode_eq_error_iff, ← Field.exists_convert_iff, decode]
    cases field.convert isNil type.decode (field.childrenOf e) with
    | error cause => simp
    | ok values =>
      cases rest.decode e with
      | error cause => simp
      | ok others => simp

/-- **How children are interleaved does not matter**, nor which other children there are. -/
theorem decode_congr {e' : Xml.Element} : ∀ {fields : Fields},
    (∀ m ∈ fields.members, m.1.occurrencesIn e = m.1.occurrencesIn e') →
      fields.decode e = fields.decode e'
  | .nil, _ => rfl
  | .cons field type rest, same => by
    rw [members, List.forall_mem_cons] at same
    rw [decode, decode, Field.convert_congr same.1, decode_congr same.2]

end Fields

/-! ## Failures -/

/-- The reason that a violation is below the fields on a path. -/
def Reason.chain (path : List String) (violation : Violation) : Reason :=
  path.foldr Reason.field (.violation violation)

/-- Whether an element is not accepted by a binding with a violation that is found on a path of
fields: at each level the first field that does not accept its occurrences, with too many of them as
the violation, or else with what the first of them fails with. -/
inductive Binding.FailsAt : Binding → Xml.Element → List String → Violation → Prop
  | literal {type : SimpleType} {e : Xml.Element} {violation : Violation}
      (rejected : type.ofLiteral e.textContent = .error violation) :
      FailsAt (.simple type) e [] violation
  | tooMany {name : TypeName} {fields : Fields} {e : Xml.Element} {field : Field} {type : Binding}
      (first : GoesOnTo (fun m => m.1.Accepts m.2 e) fields.members (field, type))
      (tooMany : field.max.allows (field.occurrencesIn e).length = false) :
      FailsAt (.complex name fields) e [field.name]
      (.tooMany field.max.print (field.occurrencesIn e).length)
  | occurrence {name : TypeName} {fields : Fields} {e c : Xml.Element} {field : Field}
      {type : Binding} {path : List String} {violation : Violation}
      (first : GoesOnTo (fun m => m.1.Accepts m.2 e) fields.members (field, type))
      (allowed : field.max.allows (field.occurrencesIn e).length = true)
      (firstHere : GoesOnTo (fun c => ∃ x, type.decode c = .ok x) (field.occurrencesIn e) c)
      (fails : FailsAt type c path violation) :
      FailsAt (.complex name fields) e (field.name :: path) violation
  | element {name : TypeName} {inner : Binding} {e : Xml.Element} {path : List String}
      {violation : Violation}
      (fails : FailsAt inner e path violation) : FailsAt (.element name inner) e path violation

theorem asReason_eq_error_iff {α : Type} {x : Except Violation α} {reason : Reason} :
    asReason x = .error reason ↔
      ∃ violation, x = .error violation ∧ reason = .violation violation := by
  cases x with
  | ok a => exact ⟨nofun, fun ⟨_, none_, _⟩ => nomatch none_⟩
  | error violation => simp [asReason, eq_comm]

mutual

/-- **An element that is not accepted** fails with a violation on a path of fields. -/
theorem Binding.exists_failsAt : ∀ {type : Binding} {e : Xml.Element} {reason : Reason},
    type.decode e = .error reason → ∃ path violation, type.FailsAt e path violation ∧
      reason = .chain path violation
  | .any, _, _, h => nomatch h
  | .simple type, e, reason, h => by
    obtain ⟨violation, rejected, rfl⟩ := asReason_eq_error_iff.1 h
    exact ⟨[], violation, .literal rejected, rfl⟩
  | .complex name fields, e, reason, h => by
    obtain ⟨⟨field, type⟩, first, failed⟩ := Fields.decode_eq_error_iff.1 h
    rw [Field.convert_eq_error_iff, Field.filter_childrenOf] at failed
    rcases failed with ⟨tooMany, rfl⟩ | ⟨allowed, inner, failed, rfl⟩
    · exact ⟨[field.name], _, .tooMany first tooMany, rfl⟩
    · obtain ⟨c, firstHere, failed⟩ := mapM_eq_error_iff.1 failed
      obtain ⟨path, violation, fails, rfl⟩ := Fields.exists_failsAt first.mem failed
      exact ⟨field.name :: path, violation, .occurrence first allowed firstHere fails, rfl⟩
  | .element name inner, e, reason, h => by
    obtain ⟨path, violation, fails, rfl⟩ :
        ∃ path violation, inner.FailsAt e path violation ∧ reason = .chain path violation :=
        Binding.exists_failsAt h
    exact ⟨path, violation, .element fails, rfl⟩

theorem Fields.exists_failsAt : ∀ {fields : Fields} {m : Field × Binding}, m ∈ fields.members →
    ∀ {c : Xml.Element} {reason : Reason}, m.2.decode c = .error reason →
      ∃ path violation, m.2.FailsAt c path violation ∧ reason = .chain path violation
  | .nil, _, mem, _, _, _ => nomatch mem
  | .cons _ _ _, _, mem, _, _, h => by
    rcases List.mem_cons.1 mem with rfl | later
    · exact Binding.exists_failsAt h
    · exact Fields.exists_failsAt later h

end

theorem Binding.FailsAt.decode_eq_error {type : Binding} {e : Xml.Element} {path : List String}
    {violation : Violation} (h : type.FailsAt e path violation) :
    type.decode e = .error (.chain path violation) := by
  induction h with
  | literal rejected => exact asReason_eq_error_iff.2 ⟨_, rejected, rfl⟩
  | tooMany first tooMany =>
    refine Fields.decode_eq_error_iff.2 ⟨_, first, ?_⟩
    rw [Field.convert_eq_error_iff, Field.filter_childrenOf]
    exact .inl ⟨tooMany, rfl⟩
  | occurrence first allowed firstHere _ ih =>
    refine Fields.decode_eq_error_iff.2 ⟨_, first, ?_⟩
    rw [Field.convert_eq_error_iff, Field.filter_childrenOf]
    exact .inr ⟨allowed, _, mapM_eq_error_iff.2 ⟨_, firstHere, ih⟩, rfl⟩
  | element _ ih => exact ih

/-- **Why an element is not accepted,** for bindings of any nesting. -/
theorem Binding.decode_eq_error_iff {type : Binding} {e : Xml.Element} {reason : Reason} :
    type.decode e = .error reason ↔
      ∃ path violation, type.FailsAt e path violation ∧ reason = .chain path violation := by
  refine ⟨exists_failsAt, ?_⟩
  rintro ⟨path, violation, fails, rfl⟩
  exact fails.decode_eq_error

/-- **What a structured binding accepts.** It accepts an element if and only if every field does:
the children with its name that are not nil keep to its upper bound, and its type accepts each of
them. The value holds for each field what exactly these are read as, in document order. Other
children and how all are interleaved do not matter. An element that is not accepted is refused for a
violation under a chain of names, which leads at each level to the first field that does not accept
the element, and there, unless it has too many occurrences, into the first of them that its type
does not accept. -/
theorem Binding.decode_complex (name : TypeName) (fields : Fields) (e : Xml.Element) :
    ((∃ v, (Binding.complex name fields).decode e = .ok v) ↔
      ∀ m ∈ fields.members, m.1.Accepts m.2 e) ∧
      (∀ v : fields.Values, (Binding.complex name fields).decode e = .ok v → fields.Holds e v) ∧
      (∀ e', (∀ m ∈ fields.members, m.1.occurrencesIn e = m.1.occurrencesIn e') →
        (Binding.complex name fields).decode e = (Binding.complex name fields).decode e') ∧
      ∀ reason, (Binding.complex name fields).decode e = .error reason ↔
        ∃ path violation, (Binding.complex name fields).FailsAt e path violation ∧
          reason = .chain path violation :=
  ⟨Fields.exists_decode_iff, fun _ read => Fields.holds_of_decode read, fun _ same =>
    Fields.decode_congr same, fun _ => Binding.decode_eq_error_iff⟩

/-- The first `b` has one `c`, since the other one is nil, but the second `b` has two. -/
example :
    let node (name : String) (content : List Xml.Content) : Xml.Content :=
      .element (.mk ⟨none, name⟩ [] [] content)
    let nil : Xml.Content :=
      .element (.mk ⟨none, "c"⟩ [⟨⟨some instanceNamespace, "nil"⟩, "true"⟩] [] [])
    (Binding.complex ⟨"P", "u"⟩ partFields).decode
        (.mk ⟨none, "P"⟩ [] [] [node "b" [nil, node "c" []], node "a" [],
          node "b" [node "c" [], node "c" []]])
      = .error (.chain ["b", "c"] (.tooMany "1" 2)) := rfl

end SchemaBinding
