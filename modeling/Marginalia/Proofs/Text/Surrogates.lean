/-
**What decoding makes of surrogates that stand alone.**

A unit is judged by its two neighbours: a high surrogate is half of a pair if a low one follows, a low
one if a high one precedes (`unpaired`).  No unit is both, so the pairs never overlap, and reading them
from the left finds all of them: writing the text of any units in UTF-16 gives the units again, with the
replacement character for each unpaired one (`encodeUnits_decodeUnits`).  An odd byte at the end counts
as a high surrogate, which nothing follows and which is no low one: it is replaced, and what stands
before it is judged as if nothing followed (`repairBehind_concat_odd`).
-/

import Marginalia.Proofs.Scan.ByteForms

namespace Marginalia.Text.Utf16

/-! ### Units and their neighbours -/

/-- The unit is half of a pair whose other half does not stand next to it. -/
def unpaired (previous : Option Nat) (unit : Nat) (next : Option Nat) : Bool :=
  isHigh unit && !next.any isLow || isLow unit && !previous.any isHigh

/-- The units behind a given one, with the replacement character for each that is unpaired. -/
def repairBehind (previous : Option Nat) (units : List Nat) : List Nat :=
  units.mapIdx fun index unit =>
    let before := if index = 0 then previous else units[index - 1]?
    if unpaired before unit units[index + 1]? then 0xfffd else unit

/-- The units with the replacement character for each that is unpaired. -/
def repair (units : List Nat) : List Nat :=
  repairBehind none units

theorem repairBehind_cons (previous : Option Nat) (unit : Nat) (rest : List Nat) :
    repairBehind previous (unit :: rest) =
      (if unpaired previous unit rest.head? then 0xfffd else unit) ::
        repairBehind (some unit) rest := by
  rw [repairBehind, List.mapIdx_cons, List.head?_eq_getElem?]
  congr 1
  rw [repairBehind]
  congr 1
  funext index other
  -- The unit before the first of the rest is the one in front of it.
  cases index <;> rfl

/-! ### Characters and units -/

theorem not_isLow_of_isHigh {unit : Nat} (high : isHigh unit = true) : isLow unit = false := by
  simp only [isHigh, Bool.and_eq_true, decide_eq_true_eq] at high
  simp only [isLow, Bool.and_eq_false_iff, decide_eq_false_iff_not]
  omega

/-- A unit that is read by itself is written again, unless it is a surrogate. -/
theorem encodeChar_single {unit : Nat} (small : unit < 0x10000) :
    encodeChar (single unit) = [if isHigh unit || isLow unit then 0xfffd else unit] := by
  rw [single]
  by_cases surrogate : (isHigh unit || isLow unit) = true
  · rw [if_pos surrogate, if_pos surrogate]
    rfl
  · rw [if_neg surrogate, if_neg surrogate]
    have number : (Char.ofNat unit).toNat = unit := by
      refine Utf8.toNat_ofNat_valid ?_
      simp only [isHigh, isLow, Bool.or_eq_true, Bool.and_eq_true, decide_eq_true_eq] at surrogate
      omega
    rw [encodeChar, number, if_pos small]

/-- The two units of a pair are written again. -/
theorem encodeChar_pair {high low : Nat} (isHigh : isHigh high = true) (isLow : isLow low = true) :
    encodeChar (pair high low) = [high, low] := by
  simp only [Utf16.isHigh, Bool.and_eq_true, decide_eq_true_eq] at isHigh
  simp only [Utf16.isLow, Bool.and_eq_true, decide_eq_true_eq] at isLow
  have number : (pair high low).toNat = 0x10000 + (high - 0xd800) * 0x400 + (low - 0xdc00) :=
    Utf8.toNat_ofNat_valid (by omega)
  have first : 0xd800 + (0x10000 + (high - 0xd800) * 0x400 + (low - 0xdc00) - 0x10000) / 0x400 =
      high := by omega
  have second : 0xdc00 + (0x10000 + (high - 0xd800) * 0x400 + (low - 0xdc00) - 0x10000) % 0x400 =
      low := by omega
  rw [encodeChar, number, if_neg (by omega), first, second]

/-! ### Reading and writing again -/

/-- A surrogate that neither neighbour fits is unpaired. -/
theorem unpaired_apart {previous next : Option Nat} {unit : Nat}
    (before : isLow unit = true → previous.any isHigh = false)
    (behind : isHigh unit = true → next.any isLow = false) :
    unpaired previous unit next = (isHigh unit || isLow unit) := by
  rw [unpaired]
  by_cases high : isHigh unit = true
  · rw [behind high, high]
    rfl
  · rw [Bool.eq_false_iff.mpr high, Bool.false_and, Bool.false_or, Bool.false_or]
    by_cases low : isLow unit = true
    · rw [before low, low]
      rfl
    · rw [Bool.eq_false_iff.mpr low]
      rfl

/-- A surrogate with a fitting neighbour is not. -/
theorem unpaired_pair {high low : Nat} (isHigh : isHigh high = true) (isLow : isLow low = true)
    (previous next : Option Nat) :
    unpaired previous high (some low) = false ∧ unpaired (some high) low next = false := by
  have lowOnly : Utf16.isHigh low = false := by
    refine Bool.eq_false_iff.mpr fun alsoHigh => ?_
    rw [not_isLow_of_isHigh alsoHigh] at isLow
    cases isLow
  simp [unpaired, isHigh, isLow, lowOnly, not_isLow_of_isHigh isHigh]

theorem encodeUnits_cons (c : Char) (text : List Char) :
    encodeUnits (c :: text) = encodeChar c ++ encodeUnits text :=
  List.flatMap_cons

/-- **Reading finds every pair**, as long as the unit before does not make the first one half of
another. -/
theorem encodeUnits_decodeUnits_behind (units : List Nat) (small : ∀ unit ∈ units, unit < 0x10000)
    (previous : Option Nat)
    (before : units.head?.any isLow = true → previous.any isHigh = false) :
    encodeUnits (decodeUnits units) = repairBehind previous units := by
  fun_induction decodeUnits units generalizing previous with
  | case1 => rfl
  | case2 unit =>
      have alone : unpaired previous unit none = (isHigh unit || isLow unit) :=
        unpaired_apart before fun _ => rfl
      rw [repairBehind_cons, List.head?_nil, alone, encodeUnits_cons,
        encodeChar_single (small unit List.mem_cons_self)]
      rfl
  | case3 unit next rest isPair ih =>
      rw [Bool.and_eq_true] at isPair
      obtain ⟨high, low⟩ := isPair
      rw [List.forall_mem_cons, List.forall_mem_cons] at small
      have paired := unpaired_pair high low
      -- The low surrogate that ends the pair is no high one for what follows.
      have others := ih small.2.2 (some next) fun _ => by
        refine Bool.eq_false_iff.mpr fun alsoHigh => ?_
        rw [not_isLow_of_isHigh alsoHigh] at low
        cases low
      rw [repairBehind_cons, repairBehind_cons, List.head?_cons, (paired previous none).1,
        (paired none rest.head?).2, encodeUnits_cons, encodeChar_pair high low, others]
      rfl
  | case4 unit next rest noPair ih =>
      rw [List.forall_mem_cons] at small
      have behind : isHigh unit = true → (some next).any isLow = false := by
        intro high
        rw [high, Bool.true_and, Bool.not_eq_true] at noPair
        exact noPair
      have alone : unpaired previous unit (some next) = (isHigh unit || isLow unit) :=
        unpaired_apart before behind
      have others := ih small.2 (some unit) fun low => by
        refine Bool.eq_false_iff.mpr fun high => ?_
        exact Bool.false_ne_true ((behind high).symm.trans low)
      rw [repairBehind_cons, List.head?_cons, alone, encodeUnits_cons, encodeChar_single small.1,
        others]
      rfl

/-- **Writing the text of units gives the units again**, with each unpaired one replaced. -/
theorem encodeUnits_decodeUnits {units : List Nat} (small : ∀ unit ∈ units, unit < 0x10000) :
    encodeUnits (decodeUnits units) = repair units :=
  encodeUnits_decodeUnits_behind units small none fun _ => rfl

/-! ### Bytes that are no pairs -/

/-- The units of the complete pairs of bytes. -/
def completeUnits (order : ByteOrder) (bytes : Bytes) : List Nat :=
  (List.range (bytes.length / 2)).map fun index =>
    order.unit (bytes.getD (2 * index) 0) (bytes.getD (2 * index + 1) 0)

theorem completeUnits_cons (order : ByteOrder) (first second : UInt8) (rest : Bytes) :
    completeUnits order (first :: second :: rest) =
      order.unit first second :: completeUnits order rest := by
  have length : (first :: second :: rest).length / 2 = rest.length / 2 + 1 := by
    rw [List.length_cons, List.length_cons]
    omega
  rw [completeUnits, length, List.range_succ_eq_map, List.map_cons, List.map_map, completeUnits]
  rfl

theorem unit_small (order : ByteOrder) (first second : UInt8) :
    order.unit first second < 0x10000 := by
  have one := first.toNat_lt
  have two := second.toNat_lt
  cases order <;> (rw [ByteOrder.unit]; omega)

theorem completeUnits_small (order : ByteOrder) (bytes : Bytes) :
    ∀ unit ∈ completeUnits order bytes, unit < 0x10000 := by
  intro unit member
  obtain ⟨index, _, rfl⟩ := List.mem_map.mp member
  exact unit_small order _ _

/-- The units of the bytes are those of the complete pairs, and one more for an odd byte. -/
theorem units_eq (order : ByteOrder) (bytes : Bytes) :
    units order bytes =
      completeUnits order bytes ++ if bytes.length % 2 = 1 then [oddUnit] else [] := by
  fun_induction units order bytes with
  | case1 => rfl
  | case2 byte => simp [completeUnits]
  | case3 first second rest ih =>
      have parity : (first :: second :: rest).length % 2 = rest.length % 2 := by
        rw [List.length_cons, List.length_cons]
        omega
      rw [ih, completeUnits_cons, parity, List.cons_append]

/-- **The odd unit is replaced, and joins nothing before it.** -/
theorem repairBehind_concat_odd (previous : Option Nat) (units : List Nat) :
    repairBehind previous (units ++ [oddUnit]) = repairBehind previous units ++ [0xfffd] := by
  induction units generalizing previous with
  | nil =>
      have alone : unpaired previous oddUnit none = true := by simp [unpaired, isHigh, oddUnit]
      rw [List.nil_append, repairBehind_cons, List.head?_nil, alone]
      rfl
  | cons unit rest ih =>
      have sameNext : (rest ++ [oddUnit]).head?.any isLow = rest.head?.any isLow := by
        cases rest <;> rfl
      have same : unpaired previous unit (rest ++ [oddUnit]).head? =
          unpaired previous unit rest.head? := by
        rw [unpaired, sameNext, unpaired]
      rw [List.cons_append, repairBehind_cons, same, ih, repairBehind_cons, List.cons_append]

end Marginalia.Text.Utf16

namespace Marginalia.Source

open Marginalia.Text

/-- **UTF-16 is repaired exactly where it is broken.**  Whatever bytes follow the mark, in either order,
the text that is read has as its units the units of the complete pairs of bytes, with the replacement
character for each surrogate that has no other half next to it, and one more replacement character if a
byte is left over at the end. -/
theorem encodeUnits_decode (order : Utf16.ByteOrder) (body : Bytes) :
    Utf16.encodeUnits (decode ((ByteForm.utf16 order).mark ++ body)).toList =
      Utf16.repair (Utf16.completeUnits order body) ++
        if body.length % 2 = 1 then [0xfffd] else [] := by
  have read : (decode ((ByteForm.utf16 order).mark ++ body)).toList =
      Utf16.decodeUnits (Utf16.units order body) := by
    have behind : (utf16Mark order ++ body).drop 2 = body := by cases order <;> rfl
    rw [ByteForm.mark_utf16, decode, detect_utf16Mark, String.toList_ofList]
    simp only [behind]
    rfl
  have small := Utf16.completeUnits_small order body
  rw [read, Utf16.units_eq]
  by_cases odd : body.length % 2 = 1
  · rw [if_pos odd, if_pos odd, Utf16.encodeUnits_decodeUnits, Utf16.repair,
      Utf16.repairBehind_concat_odd, ← Utf16.repair]
    intro unit member
    rcases List.mem_append.mp member with within | last
    · exact small unit within
    · rw [List.mem_singleton.mp last]
      decide
  · rw [if_neg odd, if_neg odd, List.append_nil, List.append_nil,
      Utf16.encodeUnits_decodeUnits small]

/-- A pair, a low surrogate behind it, and a high one that the odd byte does not complete. -/
example : Utf16.repair (Utf16.completeUnits .bigEndian
    [0xd8, 0x3d, 0xde, 0x00, 0xdc, 0x00, 0xd8, 0x00, 0xdc]) =
      [0xd83d, 0xde00, 0xfffd, 0xfffd] := by
  decide

end Marginalia.Source
