/-!
# The bytes of a text

Source: Positions in texts, as `builtins/native` (`split_timezone`) has them.

A position in the bytes of a text is a boundary if a character begins or the text
ends there, and only at boundaries a text can be cut (`cutAt?_eq_some_iff`). No
byte of a longer character is that of an ASCII character, so that where the byte
of one is found the character itself stands (`getElem?_bytes_eq_some_iff`).
-/

namespace SchemaBinding.Text

/-- The bytes of a text in UTF-8. -/
def bytes (cs : List Char) : List UInt8 := cs.flatMap String.utf8EncodeChar

@[simp] theorem bytes_nil : bytes [] = [] := rfl

@[simp] theorem bytes_cons (c : Char) (cs : List Char) :
    bytes (c :: cs) = String.utf8EncodeChar c ++ bytes cs := rfl

@[simp] theorem bytes_append (cs ds : List Char) : bytes (cs ++ ds) = bytes cs ++ bytes ds :=
  List.flatMap_append

theorem length_bytes_cons (c : Char) (cs : List Char) :
    (bytes (c :: cs)).length = c.utf8Size + (bytes cs).length := by
  rw [bytes_cons, List.length_append, String.length_utf8EncodeChar]

theorem length_bytes_append (cs ds : List Char) :
    (bytes (cs ++ ds)).length = (bytes cs).length + (bytes ds).length := by
  rw [bytes_append, List.length_append]

theorem length_le_length_bytes (cs : List Char) : cs.length ≤ (bytes cs).length := by
  induction cs with
  | nil => exact Nat.le_refl 0
  | cons c cs ih =>
    have positive := c.utf8Size_pos
    rw [length_bytes_cons, List.length_cons]
    omega

/-! ## Cutting -/

/-- Cuts a text at a position in its bytes, if this is a boundary. -/
def cutAt? : Nat → List Char → Option (List Char × List Char)
  | 0, cs => some ([], cs)
  | _ + 1, [] => none
  | n + 1, c :: rest =>
    if c.utf8Size ≤ n + 1 then
      (cutAt? (n + 1 - c.utf8Size) rest).map fun (before, after) => (c :: before, after)
    else none

/-- The characters between two positions in the bytes of a text, if both are boundaries. -/
def slice? (start stop : Nat) (cs : List Char) : Option (List Char) := do
  let (_, rest) ← cutAt? start cs
  let (middle, _) ← cutAt? (stop - start) rest
  return middle

/-- **A text is cut at a boundary**: as many bytes are before it. -/
theorem cutAt?_eq_some_iff {n : Nat} {cs before after : List Char} :
    cutAt? n cs = some (before, after) ↔ cs = before ++ after ∧ (bytes before).length = n := by
  fun_induction cutAt? n cs generalizing before with
  | case1 cs =>
    rw [Option.some.injEq, Prod.mk.injEq]
    constructor
    · rintro ⟨rfl, rfl⟩
      exact ⟨rfl, rfl⟩
    · rintro ⟨rfl, empty⟩
      have short := length_le_length_bytes before
      obtain rfl : before = [] := List.length_eq_zero_iff.1 (by omega)
      exact ⟨rfl, rfl⟩
  | case2 n =>
    constructor
    · intro none
      cases none
    · rintro ⟨empty, long⟩
      rw [(List.append_eq_nil_iff.1 empty.symm).1] at long
      cases long
  | case3 n c rest fits ih =>
    rw [Option.map_eq_some_iff]
    constructor
    · rintro ⟨⟨before', after'⟩, cut, same⟩
      obtain ⟨rfl, rfl⟩ := Prod.mk.inj same
      obtain ⟨rfl, long⟩ := ih.1 cut
      refine ⟨rfl, ?_⟩
      rw [length_bytes_cons]
      omega
    · rintro ⟨split, long⟩
      cases before with
      | nil => cases long
      | cons d before =>
        obtain ⟨rfl, rest_eq⟩ := List.cons.inj split
        rw [length_bytes_cons] at long
        exact ⟨(before, after), ih.2 ⟨rest_eq, by omega⟩, rfl⟩
  | case4 n c rest long =>
    constructor
    · intro none
      cases none
    · rintro ⟨split, bytes⟩
      cases before with
      | nil => cases bytes
      | cons d before =>
        obtain ⟨rfl, -⟩ := List.cons.inj split
        rw [length_bytes_cons] at bytes
        omega

/-- What stands between two boundaries. -/
theorem slice?_append {before middle : List Char} {start stop : Nat} (after : List Char)
    (starts : (bytes before).length = start) (stops : (bytes middle).length = stop - start) :
    slice? start stop (before ++ middle ++ after) = some middle := by
  have cut : cutAt? start (before ++ middle ++ after) = some (before, middle ++ after) :=
    cutAt?_eq_some_iff.2 ⟨List.append_assoc .., starts⟩
  have inner : cutAt? (stop - start) (middle ++ after) = some (middle, after) :=
    cutAt?_eq_some_iff.2 ⟨rfl, stops⟩
  simp only [slice?, cut, inner, Option.bind_eq_bind, Option.bind_some]
  rfl

/-! ## ASCII characters -/

/-- Whether a character has one byte. -/
def isAscii (c : Char) : Bool := c.utf8Size == 1

theorem utf8EncodeChar_of_isAscii {c : Char} (ascii : isAscii c = true) :
    String.utf8EncodeChar c = [c.toUInt8] :=
  String.utf8EncodeChar_eq_singleton (beq_iff_eq.1 ascii)

/-- ASCII characters are as many as their bytes. -/
theorem length_bytes_of_isAscii {cs : List Char} (ascii : ∀ c ∈ cs, isAscii c = true) :
    (bytes cs).length = cs.length := by
  induction cs with
  | nil => rfl
  | cons c cs ih =>
    have one : c.utf8Size = 1 := beq_iff_eq.1 (ascii c (List.mem_cons_self ..))
    rw [length_bytes_cons, List.length_cons, ih fun d mem => ascii d (List.mem_cons_of_mem _ mem),
      one, Nat.add_comm]

theorem isAscii_of_isDigit {c : Char} (digit : c.isDigit = true) : isAscii c = true := by
  have range := Char.isDigit_iff_toNat.1 digit
  rw [show '9'.toNat = 57 from rfl] at range
  exact beq_iff_eq.2 (Char.utf8Size_eq_one_iff.2
    (UInt32.le_iff_toNat_le.2 (Nat.le_trans range.2 (by decide))))

theorem toNat_lt_of_isAscii {c : Char} (ascii : isAscii c = true) : c.toNat < 128 :=
  Nat.lt_succ_of_le (UInt32.le_iff_toNat_le.1 (Char.utf8Size_eq_one_iff.1 (beq_iff_eq.1 ascii)))

theorem toUInt8_and_of_isAscii {c : Char} (ascii : isAscii c = true) : c.toUInt8 &&& 0x80 = 0 := by
  have all : ∀ n < 128, UInt8.ofNat n &&& 0x80 = 0 := by decide
  exact all c.toNat (toNat_lt_of_isAscii ascii)

/-- The first byte of a longer character is none of an ASCII character. -/
theorem head?_utf8EncodeChar_and {d : Char} (longer : isAscii d = false) {b : UInt8}
    (first : (String.utf8EncodeChar d).head? = some b) : b &&& 0x80 ≠ 0 := by
  have all : ∀ n < 256, (UInt8.ofNat n ||| 0xc0) &&& 0x80 ≠ 0 ∧
    (UInt8.ofNat n ||| 0xe0) &&& 0x80 ≠ 0 ∧
      (UInt8.ofNat n ||| 0xf0) &&& 0x80 ≠ 0 := by decide +kernel
  have lead (b : UInt8) := all b.toNat b.toNat_lt
  simp only [UInt8.ofNat_toNat] at lead
  rcases d.utf8Size_eq with one | two | three | four
  · rw [isAscii, one] at longer
    cases longer
  · rw [String.utf8EncodeChar_eq_cons_cons two] at first
    exact Option.some.inj first ▸ (lead _).1
  · rw [String.utf8EncodeChar_eq_cons_cons_cons three] at first
    exact Option.some.inj first ▸ (lead _).2.1
  · rw [String.utf8EncodeChar_eq_cons_cons_cons_cons four] at first
    exact Option.some.inj first ▸ (lead _).2.2

/-- ASCII characters have different bytes. -/
theorem eq_of_toUInt8_eq {c d : Char} (left : isAscii c = true) (right : isAscii d = true)
    (same : c.toUInt8 = d.toUInt8) : c = d := by
  have bytes : c.toNat % 256 = d.toNat % 256 := congrArg UInt8.toNat same
  rw [Nat.mod_eq_of_lt (by have := toNat_lt_of_isAscii left; omega),
    Nat.mod_eq_of_lt (by have := toNat_lt_of_isAscii right; omega)] at bytes
  exact Char.toNat_inj.1 bytes

/-- The byte of an ASCII character only occurs as its one byte. -/
theorem getElem?_utf8EncodeChar_eq_some_iff {c d : Char} (ascii : isAscii c = true) {i : Nat} :
    (String.utf8EncodeChar d)[i]? = some c.toUInt8 ↔ i = 0 ∧ d = c := by
  constructor
  · intro found
    obtain ⟨inside, byte⟩ := List.getElem?_eq_some_iff.1 found
    have first : (String.utf8EncodeChar d)[i].IsUTF8FirstByte :=
      byte ▸ .inl (toUInt8_and_of_isAscii ascii)
    obtain rfl := UInt8.isUTF8FirstByte_getElem_utf8EncodeChar.1 first
    have size : isAscii d = true := by
      cases known : isAscii d with
      | true => rfl
      | false =>
        exact absurd (toUInt8_and_of_isAscii ascii)
          (head?_utf8EncodeChar_and known (List.head?_eq_getElem?.trans found))
    rw [utf8EncodeChar_of_isAscii size] at found
    exact ⟨rfl, eq_of_toUInt8_eq size ascii (Option.some.inj found)⟩
  · rintro ⟨rfl, rfl⟩
    rw [utf8EncodeChar_of_isAscii ascii]
    rfl

/-- **Where the byte of an ASCII character is found, the character stands.** -/
theorem getElem?_bytes_eq_some_iff {c : Char} (ascii : isAscii c = true) {cs : List Char}
    {i : Nat} :
    (bytes cs)[i]? = some c.toUInt8 ↔
      ∃ before after, cs = before ++ c :: after ∧ (bytes before).length = i := by
  induction cs generalizing i with
  | nil =>
    rw [bytes_nil, List.getElem?_nil]
    refine iff_of_false nofun ?_
    rintro ⟨before, after, split, -⟩
    exact absurd split.symm (List.append_ne_nil_of_right_ne_nil before (List.cons_ne_nil c after))
  | cons d rest ih =>
    rw [bytes_cons]
    by_cases inside : i < (String.utf8EncodeChar d).length
    · rw [List.getElem?_append_left inside, getElem?_utf8EncodeChar_eq_some_iff ascii]
      rw [String.length_utf8EncodeChar] at inside
      constructor
      · rintro ⟨rfl, rfl⟩
        exact ⟨[], rest, rfl, rfl⟩
      · rintro ⟨before, after, split, here⟩
        cases before with
        | nil => exact ⟨here.symm, (List.cons.inj split).1⟩
        | cons e before =>
          obtain ⟨rfl, -⟩ := List.cons.inj split
          rw [length_bytes_cons] at here
          omega
    · rw [List.getElem?_append_right (by omega), ih]
      rw [String.length_utf8EncodeChar] at inside ⊢
      constructor
      · rintro ⟨before, after, rfl, here⟩
        refine ⟨d :: before, after, rfl, ?_⟩
        rw [length_bytes_cons]
        omega
      · rintro ⟨before, after, split, here⟩
        cases before with
        | nil =>
          have positive := d.utf8Size_pos
          rw [bytes_nil, List.length_nil] at here
          omega
        | cons e before =>
          obtain ⟨rfl, rest_eq⟩ := List.cons.inj split
          rw [length_bytes_cons] at here
          exact ⟨before, after, rest_eq, by omega⟩

end SchemaBinding.Text
