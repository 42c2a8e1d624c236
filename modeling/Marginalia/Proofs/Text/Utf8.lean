/-
**UTF-8 read back.**

`Utf8.encode` writes the bytes that a string is made of (`encode_toList`), and `Utf8.decode` undoes it:
the bytes of a character decode to the character, whatever bytes follow (`decode_encodeChar_append`),
so decoding may stop between two characters (`decode_encode_append`).

What the bytes of a character look like is said once for each length: `lead?_two`, `lead?_three` and
`lead?_four` give what the first byte announces, with bounds that the second byte keeps because the
number of a character is no surrogate and not beyond the last one.
-/

import Marginalia.Text.Line
import Marginalia.Text.Utf8

namespace Marginalia.Text.Utf8

/-! ### Numbers of characters and bytes -/

/-- The number of a character is no surrogate and has at most 21 bits. -/
theorem toNat_valid (c : Char) : c.toNat < 0xd800 ∨ 0xdfff < c.toNat ∧ c.toNat < 0x110000 := by
  have valid := c.valid
  simpa [UInt32.isValidChar, Nat.isValidChar] using valid

theorem toNat_ofNat_valid {code : Nat}
    (valid : code < 0xd800 ∨ 0xdfff < code ∧ code < 0x110000) : (Char.ofNat code).toNat = code := by
  have isValid : code.isValidChar := valid
  rw [Char.ofNat, dif_pos isValid]
  rfl

theorem toNat_ofNat {value : Nat} (small : value < 256) : (UInt8.ofNat value).toNat = value := by
  rw [UInt8.toNat_ofNat']
  exact Nat.mod_eq_of_lt small

theorem toNat_continuation (bits : Nat) : (continuation bits).toNat = 0x80 + bits % 64 := by
  unfold continuation
  exact toNat_ofNat (by omega)

/-! ### First bytes -/

theorem lead?_one {code : Nat} (below : code < 0x80) :
    lead? (UInt8.ofNat code) = some ⟨0, code, 0, 0⟩ := by
  unfold lead?
  simp only [toNat_ofNat (show code < 256 by omega)]
  rw [if_pos below]

theorem lead?_two {code : Nat} (above : 0x80 ≤ code) (below : code < 0x800) :
    lead? (UInt8.ofNat (0xc0 + code / 64)) = some ⟨1, code / 64, 0x80, 0xbf⟩ := by
  unfold lead?
  simp only [toNat_ofNat (show 0xc0 + code / 64 < 256 by omega)]
  rw [if_neg (by omega), if_neg (by omega), if_pos (by omega), Nat.add_sub_cancel_left]

theorem lead?_three {code : Nat} (above : 0x800 ≤ code) (below : code < 0x10000)
    (valid : code < 0xd800 ∨ 0xdfff < code) :
    ∃ low high, lead? (UInt8.ofNat (0xe0 + code / 4096)) = some ⟨2, code / 4096, low, high⟩ ∧
      low ≤ 0x80 + code / 64 % 64 ∧ 0x80 + code / 64 % 64 ≤ high := by
  unfold lead?
  simp only [toNat_ofNat (show 0xe0 + code / 4096 < 256 by omega)]
  rw [if_neg (by omega), if_neg (by omega), if_neg (by omega)]
  -- The least numbers and those before the surrogates bound the second byte more closely.
  by_cases least : code / 4096 = 0
  · rw [if_pos (by omega), least]
    exact ⟨0xa0, 0xbf, rfl, by omega, by omega⟩
  · rw [if_neg (by omega)]
    by_cases surrogates : code / 4096 = 0x0d
    · rw [if_pos (by omega), surrogates]
      exact ⟨0x80, 0x9f, rfl, by omega, by omega⟩
    · rw [if_neg (by omega), if_pos (by omega), Nat.add_sub_cancel_left]
      exact ⟨0x80, 0xbf, rfl, by omega, by omega⟩

theorem lead?_four {code : Nat} (above : 0x10000 ≤ code) (below : code < 0x110000) :
    ∃ low high, lead? (UInt8.ofNat (0xf0 + code / 262144)) = some ⟨3, code / 262144, low, high⟩ ∧
      low ≤ 0x80 + code / 4096 % 64 ∧ 0x80 + code / 4096 % 64 ≤ high := by
  unfold lead?
  simp only [toNat_ofNat (show 0xf0 + code / 262144 < 256 by omega)]
  rw [if_neg (by omega), if_neg (by omega), if_neg (by omega), if_neg (by omega), if_neg (by omega),
    if_neg (by omega)]
  by_cases least : code / 262144 = 0
  · rw [if_pos (by omega), least]
    exact ⟨0x90, 0xbf, rfl, by omega, by omega⟩
  · rw [if_neg (by omega)]
    by_cases last : code / 262144 = 4
    · rw [if_neg (by omega), if_pos (by omega), last]
      exact ⟨0x80, 0x8f, rfl, by omega, by omega⟩
    · rw [if_pos (by omega), Nat.add_sub_cancel_left]
      exact ⟨0x80, 0xbf, rfl, by omega, by omega⟩

/-! ### Characters -/

/-- A byte that continues a character adds its six bits. -/
theorem follow_continuation {bits more low high : Nat} (byte : Nat) (rest : Bytes)
    (above : low ≤ 0x80 + byte % 64) (below : 0x80 + byte % 64 ≤ high) :
    follow bits (more + 1) low high (continuation byte :: rest) =
      ((follow (bits * 64 + byte % 64) more 0x80 0xbf rest).1,
        (follow (bits * 64 + byte % 64) more 0x80 0xbf rest).2 + 1) := by
  have within : (decide (low ≤ (continuation byte).toNat) &&
      decide ((continuation byte).toNat ≤ high)) = true := by
    rw [toNat_continuation]
    simp [above, below]
  have bitsOf : (continuation byte).toNat - 0x80 = byte % 64 := by
    rw [toNat_continuation, Nat.add_sub_cancel_left]
  rw [follow, if_pos within, bitsOf]

/-- Further bytes that continue a character are not bounded more closely. -/
theorem follow_next {bits more : Nat} (byte : Nat) (rest : Bytes) :
    follow bits (more + 1) 0x80 0xbf (continuation byte :: rest) =
      ((follow (bits * 64 + byte % 64) more 0x80 0xbf rest).1,
        (follow (bits * 64 + byte % 64) more 0x80 0xbf rest).2 + 1) :=
  follow_continuation byte rest (by omega) (by omega)

theorem follow_zero (bits low high : Nat) (rest : Bytes) :
    follow bits 0 low high rest = (bits, 0) := by
  rw [follow]

/-- What has been announced and has followed is the character. -/
theorem decodeChar_eq {byte : UInt8} {rest : Bytes} {lead : Lead} {c : Char}
    (announced : lead? byte = some lead)
    (followed : follow lead.bits lead.more lead.low lead.high rest = (c.toNat, lead.more)) :
    decodeChar byte rest = (c, lead.more) := by
  rw [decodeChar, announced]
  simp only [followed, if_pos, Char.ofNat_toNat]

/-- **The bytes of a character decode to the character**, whatever bytes follow. -/
theorem decodeChar_encodeChar (c : Char) (rest : Bytes) :
    ∃ byte tail, encodeChar c = byte :: tail ∧ decodeChar byte (tail ++ rest) = (c, tail.length) := by
  have valid := toNat_valid c
  unfold encodeChar
  by_cases one : c.toNat < 0x80
  · refine ⟨_, [], if_pos one, decodeChar_eq (lead?_one one) ?_⟩
    exact follow_zero _ _ _ _
  by_cases two : c.toNat < 0x800
  · refine ⟨_, [_], (if_neg one).trans (if_pos two), decodeChar_eq (lead?_two (by omega) two) ?_⟩
    rw [List.singleton_append, follow_next, follow_zero]
    have number : c.toNat / 64 * 64 + c.toNat % 64 = c.toNat := by omega
    rw [number]
  by_cases three : c.toNat < 0x10000
  · obtain ⟨low, high, announced, above, below⟩ :=
      @lead?_three c.toNat (by omega) three (by omega)
    refine ⟨_, [_, _], (if_neg one).trans ((if_neg two).trans (if_pos three)),
      decodeChar_eq announced ?_⟩
    rw [List.cons_append, List.singleton_append, follow_continuation _ _ above below, follow_next,
      follow_zero]
    have number : (c.toNat / 4096 * 64 + c.toNat / 64 % 64) * 64 + c.toNat % 64 = c.toNat := by
      omega
    rw [number]
  · obtain ⟨low, high, announced, above, below⟩ :=
      @lead?_four c.toNat (by omega) (by omega)
    refine ⟨_, [_, _, _], (if_neg one).trans ((if_neg two).trans (if_neg three)),
      decodeChar_eq announced ?_⟩
    rw [List.cons_append, List.cons_append, List.singleton_append,
      follow_continuation _ _ above below, follow_next, follow_next, follow_zero]
    have number : ((c.toNat / 262144 * 64 + c.toNat / 4096 % 64) * 64 + c.toNat / 64 % 64) * 64 +
        c.toNat % 64 = c.toNat := by omega
    rw [number]

/-! ### Texts -/

theorem decodeFrom_append (front rest : Bytes) :
    decodeFrom front.length (front ++ rest) = decode rest := by
  induction front with
  | nil => rfl
  | cons byte front ih => exact ih

theorem decode_encodeChar_append (c : Char) (rest : Bytes) :
    decode (encodeChar c ++ rest) = c :: decode rest := by
  obtain ⟨byte, tail, bytes, decoded⟩ := decodeChar_encodeChar c rest
  rw [bytes, List.cons_append, decode, decodeFrom, decoded]
  simp only [decodeFrom_append]

/-- **The bytes of a text decode to the text**, whatever bytes follow. -/
theorem decode_encode_append (text : List Char) (rest : Bytes) :
    decode (encode text ++ rest) = text ++ decode rest := by
  induction text with
  | nil => rfl
  | cons c more ih =>
      rw [encode, List.flatMap_cons, List.append_assoc, decode_encodeChar_append, ← encode, ih]
      rfl

theorem decode_encode (text : List Char) : decode (encode text) = text := by
  have whole := decode_encode_append text []
  rw [List.append_nil] at whole
  rw [whole]
  exact List.append_nil text

theorem decode?_encode (text : List Char) : decode? (encode text) = some text := by
  simp [decode?, decode_encode]

/-! ### Bytes of a text -/

/-- The first byte of a character is below those of the marks of UTF-16, and all others continue
it. -/
theorem encodeChar_shape (c : Char) :
    ∃ (first : Nat) (more : List Nat),
      encodeChar c = UInt8.ofNat first :: more.map continuation ∧ first < 0xf8 ∧
      (first = 0 → c.toNat = 0) := by
  have valid := toNat_valid c
  unfold encodeChar
  by_cases one : c.toNat < 0x80
  · exact ⟨c.toNat, [], if_pos one, by omega, id⟩
  by_cases two : c.toNat < 0x800
  · exact ⟨0xc0 + c.toNat / 64, [_], (if_neg one).trans (if_pos two), by omega, by omega⟩
  by_cases three : c.toNat < 0x10000
  · exact ⟨0xe0 + c.toNat / 4096, [_, _], (if_neg one).trans ((if_neg two).trans (if_pos three)),
      by omega, by omega⟩
  · exact ⟨0xf0 + c.toNat / 262144, [_, _, _],
      (if_neg one).trans ((if_neg two).trans (if_neg three)), by omega, by omega⟩

theorem encodeChar_bounds {c : Char} {byte : UInt8} (member : byte ∈ encodeChar c) :
    (byte.toNat = 0 → c.toNat = 0) ∧ byte.toNat < 0xf8 := by
  obtain ⟨first, more, bytes, small, positive⟩ := encodeChar_shape c
  rw [bytes, List.mem_cons, List.mem_map] at member
  rcases member with rfl | ⟨bits, _, rfl⟩
  · rw [toNat_ofNat (by omega)]
    exact ⟨positive, small⟩
  · rw [toNat_continuation]
    exact ⟨by omega, by omega⟩

/-- The bytes of a text are below those of the marks of UTF-16, and none is zero if the text has no
null character. -/
theorem encode_bounds {text : List Char} (noNull : '\x00' ∉ text) {byte : UInt8}
    (member : byte ∈ encode text) : byte ≠ 0 ∧ byte.toNat < 0xf8 := by
  obtain ⟨c, inside, here⟩ := List.mem_flatMap.mp member
  obtain ⟨onlyNull, small⟩ := encodeChar_bounds here
  refine ⟨?_, small⟩
  rintro rfl
  have isNull : c = '\x00' := by rw [← Char.ofNat_toNat c, onlyNull rfl]
  exact noNull (isNull ▸ inside)

theorem encodeChar_eq (c : Char) : encodeChar c = String.utf8EncodeChar c := by
  have valid := toNat_valid c
  unfold encodeChar String.utf8EncodeChar continuation
  have number : c.val.toNat = c.toNat := rfl
  simp only [number]
  by_cases one : c.toNat < 0x80
  · rw [if_pos one, if_pos (show c.toNat ≤ 127 by omega)]
  rw [if_neg one, if_neg (show ¬ c.toNat ≤ 127 by omega)]
  by_cases two : c.toNat < 0x800
  · rw [if_pos two, if_pos (show c.toNat ≤ 2047 by omega), Nat.add_comm 0xc0, Nat.add_comm 0x80,
      Nat.mod_eq_of_lt (show c.toNat / 64 < 32 by omega)]
  rw [if_neg two, if_neg (show ¬ c.toNat ≤ 2047 by omega)]
  by_cases three : c.toNat < 0x10000
  · rw [if_pos three, if_pos (show c.toNat ≤ 65535 by omega), Nat.add_comm 0xe0, Nat.add_comm 0x80,
      Nat.add_comm 0x80, Nat.mod_eq_of_lt (show c.toNat / 4096 < 16 by omega)]
  · rw [if_neg three, if_neg (show ¬ c.toNat ≤ 65535 by omega), Nat.add_comm 0xf0,
      Nat.add_comm 0x80, Nat.add_comm 0x80, Nat.add_comm 0x80,
      Nat.mod_eq_of_lt (show c.toNat / 262144 < 8 by omega)]

/-- **A string is made of the bytes that `encode` writes.** -/
theorem encode_toList (text : String) : encode text.toList = text.toUTF8.data.toList := by
  have ofList : text.toUTF8 = (text.toList.flatMap String.utf8EncodeChar).toByteArray := by
    rw [String.toUTF8, ← List.utf8Encode, ← String.toByteArray_ofList, String.ofList_toList]
  rw [ofList, List.toList_data_toByteArray, encode, funext encodeChar_eq]

/-- The length in bytes counts the bytes. -/
theorem length_encode (text : List Char) : (encode text).length = byteLength text := by
  induction text with
  | nil => rfl
  | cons c rest ih =>
      rw [encode, List.flatMap_cons, List.length_append, encodeChar_eq,
        String.length_utf8EncodeChar, ← encode, ih, byteLength_cons]

end Marginalia.Text.Utf8
