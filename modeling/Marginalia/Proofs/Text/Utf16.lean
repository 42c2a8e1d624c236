/-
**UTF-16 read back.**

`Utf16.decode` undoes `Utf16.encode` in either order of the bytes.  The bytes of a unit are the unit
again (`units_bytes`), and the units of a character decode to the character, whatever units follow
(`decodeUnits_encodeChar_append`): one unit is never the first half of a pair, because the number of
a character is no surrogate, and two units always are a pair.
-/

import Marginalia.Proofs.Text.Utf8
import Marginalia.Text.Utf16

namespace Marginalia.Text.Utf16

/-! ### Bytes and units -/

theorem units_bytes (order : ByteOrder) {unit : Nat} (small : unit < 0x10000) (rest : Bytes) :
    units order (order.bytes unit ++ rest) = unit :: units order rest := by
  have high : (UInt8.ofNat (unit / 256)).toNat = unit / 256 := Utf8.toNat_ofNat (by omega)
  have low : (UInt8.ofNat (unit % 256)).toNat = unit % 256 := Utf8.toNat_ofNat (by omega)
  have together : unit / 256 * 256 + unit % 256 = unit := by omega
  cases order with
  | bigEndian =>
      show ByteOrder.unit .bigEndian _ _ :: units .bigEndian rest = _
      rw [ByteOrder.unit, high, low, together]
  | littleEndian =>
      show ByteOrder.unit .littleEndian _ _ :: units .littleEndian rest = _
      rw [ByteOrder.unit, high, low, together]

theorem units_flatMap_bytes (order : ByteOrder) {written : List Nat}
    (small : ∀ unit ∈ written, unit < 0x10000) :
    units order (written.flatMap order.bytes) = written := by
  induction written with
  | nil => rfl
  | cons unit others ih =>
      rw [List.forall_mem_cons] at small
      rw [List.flatMap_cons, units_bytes order small.1, ih small.2]

/-! ### Units and characters -/

theorem encodeChar_small {c : Char} {unit : Nat} (member : unit ∈ encodeChar c) :
    unit < 0x10000 := by
  have valid := Utf8.toNat_valid c
  unfold encodeChar at member
  split at member
  · rw [List.mem_singleton] at member
    omega
  · rcases List.mem_cons.mp member with here | member
    · omega
    · rw [List.mem_singleton] at member
      omega

/-- A unit that starts no pair is a character of its own. -/
theorem decodeUnits_single {unit : Nat} (apart : isHigh unit = false) (rest : List Nat) :
    decodeUnits (unit :: rest) = single unit :: decodeUnits rest := by
  cases rest with
  | nil => rfl
  | cons next others => rw [decodeUnits, apart, Bool.false_and, if_neg Bool.false_ne_true]

theorem single_toNat {c : Char} : isHigh c.toNat = false ∧ single c.toNat = c := by
  have valid := Utf8.toNat_valid c
  have noHigh : isHigh c.toNat = false := by
    simp only [isHigh, Bool.and_eq_false_iff, decide_eq_false_iff_not]
    omega
  have noLow : isLow c.toNat = false := by
    simp only [isLow, Bool.and_eq_false_iff, decide_eq_false_iff_not]
    omega
  refine ⟨noHigh, ?_⟩
  rw [single, noHigh, noLow, Bool.or_false, if_neg Bool.false_ne_true, Char.ofNat_toNat]

/-- The bits of a character beyond the first plane, cut in two halves, are a pair. -/
theorem pair_halves {c : Char} (above : 0x10000 ≤ c.toNat) :
    let high := 0xd800 + (c.toNat - 0x10000) / 0x400
    let low := 0xdc00 + (c.toNat - 0x10000) % 0x400
    isHigh high = true ∧ isLow low = true ∧ pair high low = c := by
  have valid := Utf8.toNat_valid c
  refine ⟨?_, ?_, ?_⟩
  · simp only [isHigh, Bool.and_eq_true, decide_eq_true_eq]
    omega
  · simp only [isLow, Bool.and_eq_true, decide_eq_true_eq]
    omega
  · have number : 0x10000 + (0xd800 + (c.toNat - 0x10000) / 0x400 - 0xd800) * 0x400 +
        (0xdc00 + (c.toNat - 0x10000) % 0x400 - 0xdc00) = c.toNat := by omega
    rw [pair, number, Char.ofNat_toNat]

/-- **The units of a character decode to the character**, whatever units follow. -/
theorem decodeUnits_encodeChar_append (c : Char) (rest : List Nat) :
    decodeUnits (encodeChar c ++ rest) = c :: decodeUnits rest := by
  unfold encodeChar
  by_cases within : c.toNat < 0x10000
  · obtain ⟨apart, same⟩ := single_toNat (c := c)
    rw [if_pos within, List.singleton_append, decodeUnits_single apart, same]
  · obtain ⟨isHigh, isLow, same⟩ := pair_halves (Nat.le_of_not_lt within)
    rw [if_neg within, List.cons_append, List.singleton_append, decodeUnits, isHigh, isLow,
      Bool.and_self, if_pos rfl, same]

theorem decodeUnits_encodeUnits (text : List Char) : decodeUnits (encodeUnits text) = text := by
  induction text with
  | nil => rfl
  | cons c rest ih =>
      rw [encodeUnits, List.flatMap_cons, decodeUnits_encodeChar_append, ← encodeUnits, ih]

/-- **The bytes of a text decode to the text**, in either order. -/
theorem decode_encode (order : ByteOrder) (text : List Char) :
    decode order (encode order text) = text := by
  have small : ∀ unit ∈ encodeUnits text, unit < 0x10000 := by
    intro unit member
    obtain ⟨c, _, here⟩ := List.mem_flatMap.mp member
    exact encodeChar_small here
  rw [decode, encode, units_flatMap_bytes order small, decodeUnits_encodeUnits]

end Marginalia.Text.Utf16
