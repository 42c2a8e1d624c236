/-
**Bytes that are no text do not disturb the lines.**

A line feed is a byte of its own: no character of several bytes holds it, so no start of a character
that goes wrong takes it in, and what stands before it is decoded as if nothing followed
(`Utf8.decode_feed`).  So each line of bytes is decoded by itself (`Utf8.splitOn_decode`), and the text
has as many line feeds as the bytes (`Utf8.count_decode`).

Behind the mark of UTF-16 this does not hold, where a line feed takes two bytes.  The mark of UTF-8 only
shortens the first line (`decode_feed`).
-/

import Marginalia.Proofs.Scan.ByteForms
import Marginalia.Proofs.Text.Lossy

namespace Marginalia.Text

theorem splitOn_append_cons {α : Type} [BEq α] [ReflBEq α] (separator : α) (front back : List α) :
    (front ++ separator :: back).splitOn separator =
      front.splitOn separator ++ back.splitOn separator :=
  List.splitOnP_append_cons front back BEq.rfl

end Marginalia.Text

namespace Marginalia.Text.Utf8

/-- The byte that ends a line. -/
def feed : UInt8 := 0x0a

/-! ### Bytes of characters -/

theorem encodeChar_feed : encodeChar '\n' = [feed] := rfl

/-- A byte below 128 is a character by itself. -/
theorem toNat_of_mem_encodeChar {c : Char} {byte : UInt8} (member : byte ∈ encodeChar c)
    (small : byte.toNat < 0x80) : byte.toNat = c.toNat := by
  have valid := toNat_valid c
  have continues : ∀ code, byte ≠ continuation code := by
    rintro code rfl
    rw [toNat_continuation] at small
    omega
  have leads : ∀ value, 0x80 ≤ value → value < 256 → byte ≠ UInt8.ofNat value := by
    rintro value great less rfl
    rw [toNat_ofNat less] at small
    omega
  unfold encodeChar at member
  by_cases one : c.toNat < 0x80
  · rw [if_pos one, List.mem_singleton] at member
    rw [member, toNat_ofNat (by omega)]
  -- The other forms have no byte below 128.
  rw [if_neg one] at member
  refine absurd member ?_
  by_cases two : c.toNat < 0x800
  · simp only [if_pos two, List.mem_cons, List.not_mem_nil, continues, or_false]
    exact leads _ (by omega) (by omega)
  by_cases three : c.toNat < 0x10000
  · simp only [if_neg two, if_pos three, List.mem_cons, List.not_mem_nil, continues, or_false]
    exact leads _ (by omega) (by omega)
  · simp only [if_neg two, if_neg three, List.mem_cons, List.not_mem_nil, continues, or_false]
    exact leads _ (by omega) (by omega)

/-- **Only the line feed has its byte.** -/
theorem eq_feed_of_mem {c : Char} (member : feed ∈ encodeChar c) : c = '\n' := by
  have number : feed.toNat = c.toNat := toNat_of_mem_encodeChar member (by decide)
  rw [← Char.ofNat_toNat c, ← number]
  rfl

theorem count_encodeChar (c : Char) :
    (encodeChar c).count feed = if c = '\n' then 1 else 0 := by
  by_cases isFeed : c = '\n'
  · rw [if_pos isFeed, isFeed]
    rfl
  · rw [if_neg isFeed]
    exact List.count_eq_zero_of_not_mem fun member => isFeed (eq_feed_of_mem member)

/-! ### Starts that go wrong -/

/-- No start that goes wrong takes in a line feed. -/
theorem BadStart.unbroken {part rest : Bytes} (wrong : BadStart part rest) : feed ∉ part := by
  intro member
  by_cases long : 1 < part.length
  · obtain ⟨c, start⟩ := wrong.begins long
    have isFeed : c = '\n' := eq_feed_of_mem (start.subset member)
    rw [isFeed, encodeChar_feed] at start
    have short := start.length_le
    rw [List.length_singleton] at short
    omega
  · obtain ⟨byte, tail, rfl⟩ := List.exists_cons_of_ne_nil wrong.nonempty
    have alone : tail = [] := by
      rw [List.length_cons] at long
      exact List.length_eq_zero_iff.mp (by omega)
    rw [alone, List.mem_singleton] at member
    refine wrong.noChar '\n' ?_
    rw [encodeChar_feed, member]
    exact List.cons_prefix_cons.mpr ⟨rfl, List.nil_prefix⟩

/-- What some character begins with ends before a line feed that something precedes. -/
theorem Begins.before_feed {part front : Bytes} (begins : Begins part) (nonempty : front ≠ [])
    (back : Bytes) (start : part <+: front ++ feed :: back) : part <+: front := by
  refine List.prefix_of_prefix_length_le start (List.prefix_append ..) (Nat.le_of_not_lt fun long => ?_)
  obtain ⟨c, inside⟩ := begins
  have split : front ++ feed :: back = front ++ [feed] ++ back := List.append_cons ..
  have taken : front ++ [feed] <+: part := by
    rw [split] at start
    refine List.prefix_of_prefix_length_le (List.prefix_append ..) start ?_
    rw [List.length_append]
    exact long
  have whole := taken.trans inside
  have isFeed : c = '\n' := eq_feed_of_mem (whole.subset (by simp))
  rw [isFeed, encodeChar_feed] at whole
  have short := whole.length_le
  have positive := List.length_pos_iff.mpr nonempty
  simp only [List.length_append, List.length_singleton] at short
  omega

/-- **A start goes wrong in the same way whether a line feed follows or nothing.** -/
theorem BadStart.append_feed {part rest : Bytes} (wrong : BadStart part rest) (back : Bytes) :
    BadStart part (rest ++ feed :: back) := by
  have nonempty : part ++ rest ≠ [] := fun none =>
    wrong.nonempty (List.append_eq_nil_iff.mp none).1
  refine ⟨fun c start => ?_, wrong.nonempty, wrong.begins, fun longer start begins => ?_⟩
  · rw [← List.append_assoc] at start
    exact wrong.noChar c (Begins.before_feed ⟨c, List.prefix_refl _⟩ nonempty back start)
  · rw [← List.append_assoc] at start
    exact wrong.longest longer (begins.before_feed nonempty back start) begins

/-! ### Texts -/

/-- The text of bytes before a line feed goes on with the line feed. -/
theorem Lossy.append_feed {front back : Bytes} {text more : List Char} (lossy : Lossy front text)
    (others : Lossy back more) : Lossy (front ++ feed :: back) (text ++ '\n' :: more) := by
  induction lossy with
  | nil => exact .char '\n' others
  | char c _ ih =>
      rw [List.append_assoc, List.cons_append]
      exact .char c ih
  | bad wrong _ ih =>
      rw [List.append_assoc, List.cons_append]
      exact .bad (wrong.append_feed back) ih

/-- **What stands before a line feed and what follows it are decoded by themselves.** -/
theorem decode_feed (front back : Bytes) :
    decode (front ++ feed :: back) = decode front ++ '\n' :: decode back :=
  (lossy_iff.mp ((lossy_decode front).append_feed (lossy_decode back))).symm

/-- **A text has as many line feeds as its bytes.** -/
theorem count_decode (bytes : Bytes) : (decode bytes).count '\n' = bytes.count feed := by
  have counts : ∀ {text : List Char}, Lossy bytes text → text.count '\n' = bytes.count feed := by
    intro text lossy
    induction lossy with
    | nil => rfl
    | char c _ ih =>
        rw [List.count_append, count_encodeChar, List.count_cons, ih, Nat.add_comm]
        simp only [beq_iff_eq]
    | bad wrong _ ih =>
        have other : ¬ (replacement == '\n') = true := by decide
        rw [List.count_append, List.count_eq_zero_of_not_mem wrong.unbroken, List.count_cons, ih,
          if_neg other, Nat.zero_add, Nat.add_zero]
  exact counts (lossy_decode bytes)

/-- **Each line of bytes is decoded by itself.** -/
theorem splitOn_decode (bytes : Bytes) :
    (decode bytes).splitOn '\n' = (bytes.splitOn feed).map decode := by
  induction length : bytes.length using Nat.strongRecOn generalizing bytes with
  | ind count ih =>
      by_cases broken : feed ∈ bytes
      · obtain ⟨front, back, rfl⟩ := List.append_of_mem broken
        rw [List.length_append, List.length_cons] at length
        rw [decode_feed, splitOn_append_cons, splitOn_append_cons, List.map_append,
          ih front.length (by omega) front rfl, ih back.length (by omega) back rfl]
      · have unbroken : '\n' ∉ decode bytes := by
          rw [← List.count_eq_zero, count_decode]
          exact List.count_eq_zero_of_not_mem broken
        rw [List.splitOn_eq_singleton broken, List.splitOn_eq_singleton unbroken, List.map_singleton]

end Marginalia.Text.Utf8

namespace Marginalia.Source

open Marginalia.Text

/-! ### Marks -/

/-- No mark goes on over a line feed. -/
theorem prefix_of_prefix_feed {mark front back : Bytes} (unbroken : Utf8.feed ∉ mark)
    (start : mark <+: front ++ Utf8.feed :: back) : mark <+: front := by
  induction mark generalizing front with
  | nil => exact List.nil_prefix
  | cons byte rest ih =>
      rw [List.mem_cons, not_or] at unbroken
      cases front with
      | nil => exact absurd (List.cons_prefix_cons.mp start).1.symm unbroken.1
      | cons first others =>
          obtain ⟨same, within⟩ := List.cons_prefix_cons.mp start
          exact List.cons_prefix_cons.mpr ⟨same, ih unbroken.2 within⟩

/-- Behind its mark a text is UTF-8. -/
theorem decode_utf8Mark_append (body : Bytes) :
    decode (utf8Mark ++ body) = String.ofList (Utf8.decode body) := by
  rw [decode, detect_utf8Mark]
  rfl

section

variable {bytes : Bytes} (unmarked : ∀ order, ¬ (ByteForm.utf16 order).mark <+: bytes)

include unmarked

/-- Without any mark a text is UTF-8. -/
theorem decode_unmarked (plain : ¬ utf8Mark <+: bytes) :
    decode bytes = String.ofList (Utf8.decode bytes) := by
  have unseen : ∀ order, ¬ (utf16Mark order).isPrefixOf bytes = true := by
    intro order seen
    refine unmarked order ?_
    rw [ByteForm.mark_utf16]
    exact List.isPrefixOf_iff_prefix.mp seen
  have detected : Encoding.detect bytes = (.utf8, 0) := by
    rw [Encoding.detect, if_neg (mt List.isPrefixOf_iff_prefix.mp plain), if_neg (unseen .bigEndian),
      if_neg (unseen .littleEndian)]
  rw [decode, detected]
  rfl

/-! ### Lines of a file -/

/-- **What follows a line feed is decoded without regard to marks**, and what precedes it as a file of its
own. -/
theorem decode_feed {front back : Bytes} (split : bytes = front ++ Utf8.feed :: back) :
    decode bytes = decode front ++ "\n" ++ String.ofList (Utf8.decode back) := by
  subst split
  have start : front <+: front ++ Utf8.feed :: back := List.prefix_append ..
  have unmarkedFront : ∀ order, ¬ (ByteForm.utf16 order).mark <+: front :=
    fun order seen => unmarked order (seen.trans start)
  have put : ∀ text : List Char,
      String.ofList (text ++ '\n' :: Utf8.decode back) =
        String.ofList text ++ "\n" ++ String.ofList (Utf8.decode back) := by
    intro text
    rw [List.append_cons, String.ofList_append, String.ofList_append]
  by_cases marked : utf8Mark <+: front
  · obtain ⟨body, rfl⟩ := marked
    rw [List.append_assoc, decode_utf8Mark_append, Utf8.decode_feed, put, decode_utf8Mark_append]
  · have plain : ¬ utf8Mark <+: front ++ Utf8.feed :: back :=
      fun seen => marked (prefix_of_prefix_feed (by decide) seen)
    rw [decode_unmarked unmarked plain, Utf8.decode_feed, put,
      decode_unmarked unmarkedFront marked]

/-- **A file has as many line feeds as its bytes.** -/
theorem count_decode : (decode bytes).toList.count '\n' = bytes.count Utf8.feed := by
  by_cases marked : utf8Mark <+: bytes
  · obtain ⟨body, rfl⟩ := marked
    have unbroken : utf8Mark.count Utf8.feed = 0 := by decide
    rw [decode_utf8Mark_append, String.toList_ofList, Utf8.count_decode, List.count_append, unbroken,
      Nat.zero_add]
  · rw [decode_unmarked unmarked marked, String.toList_ofList, Utf8.count_decode]

end

/-- The text of a line of bytes, counted from zero: the first one is decoded as a file, the others
without regard to marks. -/
def decodeLine (index : Nat) (line : Bytes) : List Char :=
  if index = 0 then (decode line).toList else Utf8.decode line

/-- **Bytes that are no text do not disturb the lines.**  In a file that is not behind the mark of UTF-16,
what precedes a line feed is decoded as a file of its own, and what follows it to the only text that its
bytes have when each longest start that goes wrong becomes one replacement character.  So the text has a
line feed for each in the bytes, and each line of the text is the text of that line of the bytes. -/
theorem decode_lines {bytes : Bytes}
    (unmarked : ∀ order, ¬ (ByteForm.utf16 order).mark <+: bytes) :
    (∀ front back, bytes = front ++ Utf8.feed :: back →
      ∃ text, (∀ other, Utf8.Lossy back other ↔ other = text) ∧
        decode bytes = decode front ++ "\n" ++ String.ofList text) ∧
      (decode bytes).toList.count '\n' = bytes.count Utf8.feed ∧
      ∀ index, ((decode bytes).toList.splitOn '\n')[index]? =
        (bytes.splitOn Utf8.feed)[index]?.map (decodeLine index) := by
  refine ⟨fun front back split => ?_, count_decode unmarked, fun index => ?_⟩
  · exact ⟨Utf8.decode back, fun _ => Utf8.lossy_iff, decode_feed unmarked split⟩
  by_cases broken : Utf8.feed ∈ bytes
  · -- The first line is what precedes the first line feed.
    obtain ⟨front, back, split, unbroken⟩ := List.eq_append_cons_of_mem broken
    have start : front <+: bytes := split ▸ List.prefix_append ..
    have noFeed : '\n' ∉ (decode front).toList := by
      rw [← List.count_eq_zero, count_decode fun order seen => unmarked order (seen.trans start)]
      exact List.count_eq_zero_of_not_mem unbroken
    have text : (decode bytes).toList = (decode front).toList ++ '\n' :: Utf8.decode back := by
      have feedText : "\n".toList = ['\n'] := rfl
      rw [decode_feed unmarked split, String.toList_append, String.toList_append, feedText,
        String.toList_ofList, ← List.append_cons]
    rw [text, split, splitOn_append_cons, splitOn_append_cons,
      List.splitOn_eq_singleton noFeed, List.splitOn_eq_singleton unbroken, Utf8.splitOn_decode]
    cases index with
    | zero => rfl
    | succ index => exact List.getElem?_map
  · have noFeed : '\n' ∉ (decode bytes).toList := by
      rw [← List.count_eq_zero, count_decode unmarked]
      exact List.count_eq_zero_of_not_mem broken
    rw [List.splitOn_eq_singleton noFeed, List.splitOn_eq_singleton broken]
    cases index <;> rfl

/-- Behind the mark of UTF-8, a character that breaks off before the line feed and the mark of UTF-16 on
the second line. -/
theorem decode_lines_truncated :
    (∀ order, ¬ (ByteForm.utf16 order).mark <+:
        [0xef, 0xbb, 0xbf, 0xe2, 0x82, 0x0a, 0xff, 0xfe, 0x0a]) ∧
      decode [0xef, 0xbb, 0xbf, 0xe2, 0x82, 0x0a, 0xff, 0xfe, 0x0a] =
        decode [0xef, 0xbb, 0xbf, 0xe2, 0x82] ++ "\n" ++ "\ufffd\ufffd\n" ∧
      decode [0xef, 0xbb, 0xbf, 0xe2, 0x82] = "\ufffd" ∧
      (decode [0xef, 0xbb, 0xbf, 0xe2, 0x82, 0x0a, 0xff, 0xfe, 0x0a]).toList.count '\n' = 2 := by
  have unmarked : ∀ order, ¬ (ByteForm.utf16 order).mark <+:
      [0xef, 0xbb, 0xbf, 0xe2, 0x82, 0x0a, 0xff, 0xfe, 0x0a] := by
    intro order
    cases order <;> decide
  obtain ⟨feeds, count, _⟩ := decode_lines unmarked
  obtain ⟨text, only, whole⟩ :=
    feeds [0xef, 0xbb, 0xbf, 0xe2, 0x82] [0xff, 0xfe, 0x0a] rfl
  have second : text = ['\ufffd', '\ufffd', '\n'] := by
    rw [← (only _).mp (Utf8.lossy_decode _)]
    decide
  rw [second] at whole
  exact ⟨unmarked, whole, by decide +kernel, count⟩

end Marginalia.Source
