import Mathlib.Data.List.Basic

/-!
# Sekas.Rock.Ascii

`escape_bytes` of `rock/src/ascii.rs`: a byte string shown as text, each byte escaped with
`std::ascii::escape_default` and the escapes collected into a `String` with
`String::from_utf8(..).expect("all bytes are escaped")`.  `escape_default` is not among the
sources; it is modelled from its documentation.

* `escapeBytes_eq`: the `expect` never panics, and the text is the escapes read as ASCII;
* `escapeBytes_printable`: every character of the text is printable ASCII;
* `escapeBytes_injective`: two byte strings never show as the same text, since each escape can
  be read back (`unescapeOne_escapeDefault`).
-/

namespace Sekas

/-! ## `escape_default` -/

/-- The lowercase hex digit of a nibble, `b"0123456789abcdef"[n]`. -/
def hexDigit (n : UInt8) : UInt8 := if n.toNat < 10 then 48 + n else 87 + n

/-- `std::ascii::escape_default`: `\t`, `\r`, `\n`, `\\`, `\'` and `\"` escaped with a
backslash, the other printable bytes `0x20 ..= 0x7e` as themselves, and every other byte as
`\xNN` with two lowercase hex digits. -/
def escapeDefault (b : UInt8) : List UInt8 :=
  if b = 9 then [92, 116]
  else if b = 13 then [92, 114]
  else if b = 10 then [92, 110]
  else if b = 92 then [92, 92]
  else if b = 39 then [92, 39]
  else if b = 34 then [92, 34]
  else if 32 ≤ b.toNat ∧ b.toNat ≤ 126 then [b]
  else [92, 120, hexDigit (b >>> 4), hexDigit (b &&& 15)]

/-- The character of an ASCII byte, as `String::from_utf8` decodes it. -/
def asciiChar (b : UInt8) : Char := ⟨b.toUInt32, .inl (Nat.lt_trans b.toBitVec.isLt (by decide))⟩

/-- `escape_bytes`; `none` is the panic of its `expect`. -/
def escapeBytes (bytes : List UInt8) : Option String :=
  String.fromUTF8? ⟨(bytes.flatMap escapeDefault).toArray⟩

/-! ## Facts about single bytes -/

/-- A fact of the bytes below `k` is a fact of the `k` values. -/
theorem forall_lt {k : Nat} {P : UInt8 → Prop} (h : ∀ n : Fin k, P (UInt8.ofNat n)) (b : UInt8)
    (hb : b.toNat < k) : P b := by
  have hb' : UInt8.ofNat b.toNat = b := UInt8.toNat.inj (UInt8.toNat_ofNat_of_lt b.toNat_lt_size)
  simpa [hb'] using h ⟨b.toNat, hb⟩

/-- The value of a lowercase hex digit. -/
def hexValue (d : UInt8) : UInt8 := if d.toNat < 58 then d - 48 else d - 87

set_option maxRecDepth 10000 in
/-- A byte's two nibbles, and their hex digits read back as the byte. -/
theorem nibbles (b : UInt8) : (b >>> 4).toNat < 16 ∧ (b &&& 15).toNat < 16 ∧
    hexValue (hexDigit (b >>> 4)) * 16 + hexValue (hexDigit (b &&& 15)) = b :=
  forall_lt (P := fun b => (b >>> 4).toNat < 16 ∧ (b &&& 15).toNat < 16 ∧
    hexValue (hexDigit (b >>> 4)) * 16 + hexValue (hexDigit (b &&& 15)) = b) (by decide) b
    b.toNat_lt_size

theorem hexDigit_printable {n : UInt8} (hn : n.toNat < 16) :
    32 ≤ (hexDigit n).toNat ∧ (hexDigit n).toNat ≤ 126 :=
  forall_lt (P := fun n => 32 ≤ (hexDigit n).toNat ∧ (hexDigit n).toNat ≤ 126) (by decide) n hn

/-- **What `escape_default` writes**, branch by branch. -/
theorem escapeDefault_cases (b : UInt8) :
    (b = 9 ∧ escapeDefault b = [92, 116]) ∨ (b = 13 ∧ escapeDefault b = [92, 114]) ∨
      (b = 10 ∧ escapeDefault b = [92, 110]) ∨
      ((b = 92 ∨ b = 39 ∨ b = 34) ∧ escapeDefault b = [92, b]) ∨
      (b ≠ 92 ∧ 32 ≤ b.toNat ∧ b.toNat ≤ 126 ∧ escapeDefault b = [b]) ∨
      escapeDefault b = [92, 120, hexDigit (b >>> 4), hexDigit (b &&& 15)] := by
  unfold escapeDefault
  by_cases h9 : b = 9
  · exact .inl ⟨h9, if_pos h9⟩
  rw [if_neg h9]
  by_cases h13 : b = 13
  · exact .inr (.inl ⟨h13, if_pos h13⟩)
  rw [if_neg h13]
  by_cases h10 : b = 10
  · exact .inr (.inr (.inl ⟨h10, if_pos h10⟩))
  rw [if_neg h10]
  refine .inr (.inr (.inr ?_))
  by_cases h92 : b = 92
  · exact .inl ⟨.inl h92, by rw [if_pos h92, h92]⟩
  rw [if_neg h92]
  by_cases h39 : b = 39
  · exact .inl ⟨.inr (.inl h39), by rw [if_pos h39, h39]⟩
  rw [if_neg h39]
  by_cases h34 : b = 34
  · exact .inl ⟨.inr (.inr h34), by rw [if_pos h34, h34]⟩
  rw [if_neg h34]
  by_cases hp : 32 ≤ b.toNat ∧ b.toNat ≤ 126
  · exact .inr (.inl ⟨h92, hp.1, hp.2, if_pos hp⟩)
  · exact .inr (.inr (if_neg hp))

/-- Every byte of an escape is printable ASCII. -/
theorem escapeDefault_printable (b : UInt8) : ∀ x ∈ escapeDefault b, 32 ≤ x.toNat ∧ x.toNat ≤ 126 := by
  rcases escapeDefault_cases b with ⟨-, h⟩ | ⟨-, h⟩ | ⟨-, h⟩ | ⟨hb, h⟩ | ⟨-, hlo, hhi, h⟩ | h <;>
    rw [h]
  · decide
  · decide
  · decide
  · rcases hb with rfl | rfl | rfl <;> decide
  · simpa using ⟨hlo, hhi⟩
  · obtain ⟨hhi, hlo, -⟩ := nibbles b
    intro x hx
    simp only [List.mem_cons, List.mem_singleton, List.not_mem_nil, or_false] at hx
    rcases hx with rfl | rfl | rfl | rfl
    · decide
    · decide
    · exact hexDigit_printable hhi
    · exact hexDigit_printable hlo

/-! ## `String::from_utf8` of ASCII bytes -/

theorem and_128_of_ascii {b : UInt8} (hb : b.toNat < 128) : (b &&& 128 == 0) = true :=
  forall_lt (P := fun b => (b &&& 128 == 0) = true) (by decide) b hb

theorem utf8Size_asciiChar {b : UInt8} (hb : b.toNat < 128) : (asciiChar b).utf8Size = 1 :=
  forall_lt (P := fun b => (asciiChar b).utf8Size = 1) (by decide) b hb

@[simp] theorem toNat_asciiChar (b : UInt8) : (asciiChar b).toNat = b.toNat := by
  simp [asciiChar, Char.toNat, UInt8.toUInt32, Nat.toUInt32, UInt32.toNat, UInt32.ofNat]

theorem asciiChar_injective : Function.Injective asciiChar := fun x y h =>
  UInt8.toNat.inj (by rw [← toNat_asciiChar, h, toNat_asciiChar])

/-- An ASCII byte decodes to its character, one byte long. -/
theorem utf8DecodeChar?_ascii (a : ByteArray) (i : Nat) (hi : i < a.size) (h : a[i].toNat < 128) :
    String.utf8DecodeChar? a i = some (asciiChar a[i]) := by
  simp only [String.utf8DecodeChar?, getElem?_pos a i hi, Option.bind_eq_bind, Option.some_bind,
    and_128_of_ascii h, if_true]
  rfl

section Utf8

variable (a : ByteArray) (h : ∀ i (hi : i < a.size), a[i].toNat < 128)
include h

/-- `validateUTF8`'s loop accepts ASCII bytes from any position on. -/
theorem validateUTF8_loop_ascii : ∀ k i, a.size - i = k → String.validateUTF8.loop a i = some ()
  | 0, i, hk => by
    rw [String.validateUTF8.loop.eq_1, if_neg (by omega)]
    rfl
  | k + 1, i, hk => by
    have hi : i < a.size := by omega
    rw [String.validateUTF8.loop.eq_1, if_pos hi]
    simp only [utf8DecodeChar?_ascii a i hi (h i hi), Option.bind_eq_bind, Option.some_bind,
      utf8Size_asciiChar (h i hi)]
    exact validateUTF8_loop_ascii k (i + 1) (by omega)

/-- `fromUTF8`'s loop appends the characters of the ASCII bytes from a position on. -/
theorem fromUTF8_loop_ascii : ∀ k i (acc : String), a.size - i = k →
    String.fromUTF8.loop a i acc = ⟨acc.data ++ (a.data.toList.drop i).map asciiChar⟩
  | 0, i, acc, hk => by
    rw [String.fromUTF8.loop.eq_1, if_neg (by omega)]
    have : a.data.toList.drop i = [] :=
      List.drop_eq_nil_of_le (by simp [ByteArray.size] at hk ⊢; omega)
    simp [this]
  | k + 1, i, acc, hk => by
    have hi : i < a.size := by omega
    rw [String.fromUTF8.loop.eq_1, if_pos hi]
    simp only [utf8DecodeChar?_ascii a i hi (h i hi), Option.getD_some, utf8Size_asciiChar (h i hi)]
    rw [fromUTF8_loop_ascii k (i + 1) _ (by omega)]
    have hl : i < a.data.toList.length := by simpa [ByteArray.size] using hi
    rw [List.drop_eq_getElem_cons hl]
    simp only [String.push, List.map_cons, List.append_assoc, List.singleton_append]
    rfl

end Utf8

/-- **ASCII bytes are valid UTF-8**, and decode to their characters. -/
theorem fromUTF8?_ascii (l : List UInt8) (h : ∀ b ∈ l, b.toNat < 128) :
    String.fromUTF8? ⟨l.toArray⟩ = some ⟨l.map asciiChar⟩ := by
  have ha : ∀ i (hi : i < (ByteArray.mk l.toArray).size), (ByteArray.mk l.toArray)[i].toNat < 128 :=
    fun i hi => h _ (List.getElem_mem (by simpa [ByteArray.size] using hi))
  have hv : String.validateUTF8 ⟨l.toArray⟩ = true := by
    simp [String.validateUTF8, validateUTF8_loop_ascii _ ha _ 0 rfl]
  simp [String.fromUTF8?, hv, String.fromUTF8, fromUTF8_loop_ascii _ ha _ 0 "" rfl]

/-! ## Reading an escape back -/

/-- The byte the escape at the front of `bytes` stands for, and the bytes after it: the inverse
of `escape_default`. -/
def unescapeOne : List UInt8 → Option (UInt8 × List UInt8)
  | [] => none
  | b :: rest =>
    if b ≠ 92 then some (b, rest)
    else match rest with
      | [] => none
      | c :: rest =>
        if c = 116 then some (9, rest)
        else if c = 114 then some (13, rest)
        else if c = 110 then some (10, rest)
        else if c = 92 ∨ c = 39 ∨ c = 34 then some (c, rest)
        else if c = 120 then
          match rest with
          | h :: l :: rest => some (hexValue h * 16 + hexValue l, rest)
          | _ => none
        else none

/-- **An escape reads back** as its byte, whatever follows it. -/
theorem unescapeOne_escapeDefault (b : UInt8) (rest : List UInt8) :
    unescapeOne (escapeDefault b ++ rest) = some (b, rest) := by
  rcases escapeDefault_cases b with ⟨rfl, h⟩ | ⟨rfl, h⟩ | ⟨rfl, h⟩ | ⟨hb, h⟩ | ⟨h92, -, -, h⟩ | h <;>
    rw [h]
  · rfl
  · rfl
  · rfl
  · rcases hb with rfl | rfl | rfl <;> rfl
  · simp [unescapeOne, h92]
  · simp [unescapeOne, (nibbles b).2.2]

/-- Escapes are never empty. -/
theorem escapeDefault_ne_nil (b : UInt8) : escapeDefault b ≠ [] := by
  rcases escapeDefault_cases b with ⟨-, h⟩ | ⟨-, h⟩ | ⟨-, h⟩ | ⟨-, h⟩ | ⟨-, -, -, h⟩ | h <;> simp [h]

/-- **Escaping is injective** on byte strings: the escapes can be read back one by one. -/
theorem flatMap_escapeDefault_injective : Function.Injective fun bytes : List UInt8 =>
    bytes.flatMap escapeDefault := by
  intro xs
  induction xs with
  | nil =>
    rintro (_ | ⟨y, ys⟩) h
    · rfl
    · exact absurd h.symm (by simp [escapeDefault_ne_nil])
  | cons x xs ih =>
    rintro (_ | ⟨y, ys⟩) h
    · exact absurd h (by simp [escapeDefault_ne_nil])
    · simp only [List.flatMap_cons] at h
      have hread := congrArg unescapeOne h
      rw [unescapeOne_escapeDefault, unescapeOne_escapeDefault] at hread
      obtain ⟨rfl, hrest⟩ := Prod.mk.inj (Option.some.inj hread)
      rw [ih hrest]

/-! ## `escape_bytes` -/

/-- **`escape_bytes` never panics**: the escapes are ASCII, so `from_utf8` accepts them, and
the text is their characters. -/
theorem escapeBytes_eq (bytes : List UInt8) :
    escapeBytes bytes = some ⟨(bytes.flatMap escapeDefault).map asciiChar⟩ :=
  fromUTF8?_ascii _ fun x hx => by
    obtain ⟨b, -, hb⟩ := List.mem_flatMap.mp hx
    have := escapeDefault_printable b x hb
    omega

/-- **Escaped text is printable.**  For every byte string, `escape_bytes` returns a text, and
each of its characters is printable ASCII (`0x20 ..= 0x7e`): no control character, no byte
above `0x7f`. -/
theorem escapeBytes_printable (bytes : List UInt8) :
    ∃ s, escapeBytes bytes = some s ∧ ∀ c ∈ s.data, 32 ≤ c.toNat ∧ c.toNat ≤ 126 := by
  refine ⟨_, escapeBytes_eq bytes, fun c hc => ?_⟩
  obtain ⟨x, hx, rfl⟩ := List.mem_map.mp hc
  obtain ⟨b, -, hb⟩ := List.mem_flatMap.mp hx
  simpa using escapeDefault_printable b x hb

/-- **Different byte strings show differently**: `escape_bytes` is injective, so the text in a
log names its key. -/
theorem escapeBytes_injective : Function.Injective escapeBytes := fun xs ys h => by
  rw [escapeBytes_eq, escapeBytes_eq] at h
  exact flatMap_escapeDefault_injective
    ((List.map_injective_iff.mpr asciiChar_injective) (congrArg String.data (Option.some.inj h)))

end Sekas
