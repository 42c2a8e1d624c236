/-
**How sizes are read.**

* `Numeral` is the text of a number: digits, perhaps behind a plus sign.  A number is read if and only if
  its text is one and its value fits in a word (`parseNumber_ok_iff`).  A value that grew too large on the
  way would not have become smaller again (`le_ofDigitChars`).
* `SizeForm` is the text of a size: a numeral and a unit, with white space around the numeral only if there
  is a unit.  Units are letters and no numeral or white space ends in a letter, so a text has at most one
  form (`SizeForm.eq`), and each unit that it ends in is part of the one of its form
  (`SizeForm.suffix_unit`).  Where one unit ends in another, the longer one is tried first
  (`units_in_order`), so the unit that is found is the unit of the form (`SizeForm.splitUnit_eq`).

`parseSize_exact` puts this together.
-/

import Marginalia.Cli.Size
import Marginalia.Proofs.Text.Space
import Mathlib.Algebra.GroupWithZero.Nat

namespace Marginalia.Cli

open Marginalia.Text

/-! ### Numbers -/

/-- **The text of a number**: digits, perhaps behind a plus sign. -/
structure Numeral (text : List Char) where
  sign : List Char
  digits : List Char
  whole : text = sign ++ digits
  signed : sign = [] ∨ sign = ['+']
  nonempty : digits ≠ []
  decimal : ∀ c ∈ digits, c.isDigit = true

namespace Numeral

/-- The number that the digits are the decimal form of. -/
def value {text : List Char} (numeral : Numeral text) : Nat :=
  Nat.ofDigitChars 10 numeral.digits 0

/-- A plus sign is no digit, so a text is a numeral in one way only. -/
theorem eq {text : List Char} (one two : Numeral text) : one = two := by
  obtain ⟨sign, digits, whole, signed, nonempty, decimal⟩ := one
  obtain ⟨sign', digits', whole', signed', nonempty', decimal'⟩ := two
  have noPlus : ∀ {digits : List Char}, (∀ c ∈ digits, c.isDigit = true) →
      ∀ rest, digits ≠ '+' :: rest := by
    rintro digits decimal rest rfl
    exact absurd (decimal '+' List.mem_cons_self) (by decide)
  rw [whole] at whole'
  rcases signed with rfl | rfl <;> rcases signed' with rfl | rfl
  · cases whole'
    rfl
  · exact absurd whole' (noPlus decimal digits')
  · exact absurd whole'.symm (noPlus decimal' digits)
  · cases whole'
    rfl

end Numeral

/-- A number does not get smaller by further digits. -/
theorem le_ofDigitChars (digits : List Char) (value : Nat) :
    value ≤ Nat.ofDigitChars 10 digits value := by
  induction digits generalizing value with
  | nil => exact Nat.le_refl value
  | cons c rest ih =>
      rw [Nat.ofDigitChars_cons]
      have later := ih (10 * value + (c.toNat - '0'.toNat))
      omega

/-- **Digits are read if their number fits in a word.** -/
theorem readDigits_ok_iff {value number : Nat} (fits : value < Json.wordLimit) (text : List Char) :
    readDigits value text = .ok number ↔
      (∀ c ∈ text, c.isDigit = true) ∧ Nat.ofDigitChars 10 text value = number ∧
        number < Json.wordLimit := by
  induction text generalizing value with
  | nil =>
      rw [readDigits, Except.ok.injEq]
      constructor
      · rintro rfl
        exact ⟨nofun, rfl, fits⟩
      · exact fun read => read.2.1
  | cons c rest ih =>
      rw [readDigits, List.forall_mem_cons, Nat.ofDigitChars_cons, Nat.mul_comm 10 value]
      by_cases digit : c.isDigit = true
      · rw [if_pos digit]
        simp only
        by_cases small : value * 10 + (c.toNat - '0'.toNat) < Json.wordLimit
        · rw [if_pos small, ih small]
          simp only [digit, true_and]
        · -- The number of all digits is at least the one that is too large already.
          rw [if_neg small]
          refine ⟨nofun, fun ⟨_, same, less⟩ => absurd less (Nat.not_lt.mpr ?_)⟩
          rw [← same]
          exact Nat.le_trans (Nat.le_of_not_lt small) (le_ofDigitChars rest _)
      · rw [if_neg digit]
        exact ⟨nofun, fun ⟨⟨isDigit, _⟩, _⟩ => absurd isDigit digit⟩

/-- **A number is read if and only if its text is a numeral that fits in a word.** -/
theorem parseNumber_ok_iff {text : List Char} {number : Nat} :
    parseNumber text = .ok number ↔
      ∃ numeral : Numeral text, numeral.value = number ∧ number < Json.wordLimit := by
  have zero : 0 < Json.wordLimit := by decide
  constructor
  · intro read
    unfold parseNumber at read
    split at read
    · cases read
    · cases read
    · rename_i digits some
      obtain ⟨decimal, same, less⟩ := (readDigits_ok_iff zero digits).mp read
      refine ⟨⟨['+'], digits, rfl, .inr rfl, ?_, decimal⟩, same, less⟩
      rintro rfl
      exact some rfl
    · rename_i noText noPlus _
      obtain ⟨decimal, same, less⟩ := (readDigits_ok_iff zero text).mp read
      exact ⟨⟨[], text, rfl, .inl rfl, noText, decimal⟩, same, less⟩
  · rintro ⟨⟨sign, digits, rfl, signed, nonempty, decimal⟩, same, less⟩
    have read : readDigits 0 digits = .ok number :=
      (readDigits_ok_iff zero digits).mpr ⟨decimal, same, less⟩
    obtain ⟨c, rest, rfl⟩ := List.exists_cons_of_ne_nil nonempty
    rcases signed with rfl | rfl
    · have noPlus : c ≠ '+' := by
        rintro rfl
        exact absurd (decimal '+' List.mem_cons_self) (by decide)
      unfold parseNumber
      split
      · rename_i none
        cases none
      · rename_i plus
        cases plus
        exact absurd rfl noPlus
      · rename_i plus
        cases plus
        exact absurd rfl noPlus
      · exact read
    · exact read

/-! ### Units -/

/-- The units with the number of bytes that each stands for; bytes need none. -/
def unitFactors : List (String × Nat) :=
  [("", 1), ("b", 1), ("k", 1024), ("kb", 1024), ("kib", 1024), ("m", 1024 ^ 2), ("mb", 1024 ^ 2),
    ("mib", 1024 ^ 2), ("g", 1024 ^ 3), ("gb", 1024 ^ 3), ("gib", 1024 ^ 3), ("t", 1024 ^ 4),
    ("tb", 1024 ^ 4), ("tib", 1024 ^ 4)]

theorem mem_unitFactors {entry : String × Nat} (member : entry ∈ sizeUnits) :
    entry ∈ unitFactors := by
  have all : ∀ entry ∈ sizeUnits, entry ∈ unitFactors := by decide +kernel
  exact all entry member

theorem mem_sizeUnits {entry : String × Nat} (member : entry ∈ unitFactors) :
    entry = ("", 1) ∨ entry ∈ sizeUnits := by
  have all : ∀ entry ∈ unitFactors, entry = ("", 1) ∨ entry ∈ sizeUnits := by decide +kernel
  exact all entry member

theorem unit_letters {entry : String × Nat} (member : entry ∈ unitFactors) :
    ∀ c ∈ entry.1.toList, c.isLower = true := by
  have all : ∀ entry ∈ unitFactors, entry.1.toList.all Char.isLower = true := by decide +kernel
  exact List.all_eq_true.mp (all entry member)

theorem unit_nonempty {entry : String × Nat} (member : entry ∈ sizeUnits) :
    entry.1.toList ≠ [] := by
  have all : ∀ entry ∈ sizeUnits, entry.1.toList ≠ [] := by decide +kernel
  exact all entry member

/-- **Where one unit ends in another, the longer comes first.** -/
theorem units_in_order :
    sizeUnits.Pairwise fun earlier later => ¬ earlier.1.toList <:+ later.1.toList := by
  decide +kernel

theorem stripUnit?_eq_some_iff {unit : String} {text rest : List Char} :
    stripUnit? unit text = some rest ↔ text = rest ++ unit.toList := by
  rw [stripUnit?]
  constructor
  · intro stripped
    split at stripped
    · rename_i isSuffix
      obtain ⟨front, rfl⟩ := List.isSuffixOf_iff_suffix.mp isSuffix
      have length : (front ++ unit.toList).length - unit.length = front.length := by
        rw [List.length_append, String.length_toList, Nat.add_sub_cancel]
      rw [length, List.take_left] at stripped
      cases stripped
      rfl
    · cases stripped
  · rintro rfl
    have isSuffix : unit.toList.isSuffixOf (rest ++ unit.toList) = true :=
      List.isSuffixOf_iff_suffix.mpr (List.suffix_append ..)
    have length : (rest ++ unit.toList).length - unit.length = rest.length := by
      rw [List.length_append, String.length_toList, Nat.add_sub_cancel]
    rw [if_pos isSuffix, length, List.take_left]

/-- **The unit that is found is the first one that the text ends in.**  It ends no other one that the text
ends in. -/
theorem splitUnit_cases (size : List Char) :
    (∃ unit factor rest, (unit, factor) ∈ sizeUnits ∧ size = rest ++ unit.toList ∧
        splitUnit size = (trim rest, factor) ∧
        ∀ other ∈ sizeUnits, other.1.toList <:+ size → unit.toList <:+ other.1.toList →
          other = (unit, factor)) ∨
      (∀ entry ∈ sizeUnits, ¬ entry.1.toList <:+ size) ∧ splitUnit size = (size, 1) := by
  let find : String × Nat → Option (List Char × Nat) := fun entry =>
    (stripUnit? entry.1 size).map fun number => (trim number, entry.2)
  have seen : ∀ entry : String × Nat, entry.1.toList <:+ size → find entry ≠ none := by
    rintro ⟨unit, factor⟩ ⟨rest, same⟩ unfound
    have stripped : stripUnit? unit size = some rest := stripUnit?_eq_some_iff.mpr same.symm
    simp [find, stripped] at unfound
  have split : splitUnit size = (sizeUnits.findSome? find).getD (size, 1) := rfl
  cases found : sizeUnits.findSome? find with
  | none =>
      right
      rw [found] at split
      exact ⟨fun entry member ends => seen entry ends (List.findSome?_eq_none_iff.mp found entry member),
        split⟩
  | some result =>
      left
      rw [found] at split
      obtain ⟨earlier, ⟨unit, factor⟩, later, units, here, before⟩ :=
        List.findSome?_eq_some_iff.mp found
      obtain ⟨rest, stripped, rfl⟩ := Option.map_eq_some_iff.mp here
      refine ⟨unit, factor, rest, by simp [units], stripUnit?_eq_some_iff.mp stripped, split, ?_⟩
      intro other member ends within
      rw [units, List.mem_append, List.mem_cons] at member
      rcases member with first | same | last
      · exact absurd (before other first) (seen other ends)
      · exact same
      · have ordered := units_in_order
        rw [units, List.pairwise_append, List.pairwise_cons] at ordered
        exact absurd within (ordered.2.1.1 other last)

/-! ### Forms of sizes -/

/-- **The text of a size**: a numeral and a unit, with white space around the numeral only if there is a
unit. -/
structure SizeForm (size : List Char) where
  front : List Char
  number : List Char
  back : List Char
  unit : String
  factor : Nat
  whole : size = front ++ number ++ back ++ unit.toList
  numeral : Numeral number
  blankFront : Blank front
  blankBack : Blank back
  isUnit : (unit, factor) ∈ unitFactors
  bare : unit = "" → front = [] ∧ back = []

/-- Letters at the end of a text are part of its unit, if what precedes the unit does not end in one. -/
theorem suffix_of_letters {front unit other : List Char}
    (apart : front.getLast?.any Char.isLower = false) (letters : ∀ c ∈ other, c.isLower = true)
    (ending : other <:+ front ++ unit) : other <:+ unit := by
  by_cases short : other.length ≤ unit.length
  · exact List.suffix_of_suffix_length_le ending (List.suffix_append ..) short
  · -- Otherwise the letters reach into what precedes the unit.
    obtain ⟨reach, rfl⟩ := List.suffix_of_suffix_length_le (List.suffix_append front unit) ending
      (Nat.le_of_not_le short)
    obtain ⟨within, _⟩ := (List.suffix_append_inj_of_length_eq rfl).mp ending
    have nonempty : reach ≠ [] := by
      rintro rfl
      exact short (Nat.le_refl _)
    obtain ⟨before, rfl⟩ := within
    rw [List.getLast?_append, List.getLast?_eq_some_getLast nonempty, Option.some_or,
      Option.any_some, letters _ (List.mem_append_left unit (List.getLast_mem nonempty))] at apart
    cases apart

theorem isLower_of_isDigit {c : Char} (digit : c.isDigit = true) : c.isLower = false := by
  refine Bool.eq_false_iff.mpr fun lower => ?_
  have small : c.val ≤ '9'.val := of_decide_eq_true (Bool.and_eq_true_iff.mp digit).2
  have large : 'a'.val ≤ c.val := of_decide_eq_true (Bool.and_eq_true_iff.mp lower).1
  exact absurd (UInt32.le_trans large small) (by decide)

theorem isLower_of_isSpace {c : Char} (space : isSpace c = true) : c.isLower = false := by
  have free : spaces.all (fun c => !c.isLower) = true := by decide +kernel
  refine Bool.eq_false_iff.mpr fun lower => ?_
  rw [isSpace_eq_false free lower] at space
  cases space

namespace Numeral

variable {text : List Char} (numeral : Numeral text)

include numeral

/-- A numeral ends in a digit. -/
theorem getLast? : ∃ c, text.getLast? = some c ∧ c.isDigit = true := by
  obtain ⟨sign, digits, rfl, _, nonempty, decimal⟩ := numeral
  refine ⟨digits.getLast nonempty, ?_, decimal _ (List.getLast_mem nonempty)⟩
  rw [List.getLast?_append, List.getLast?_eq_some_getLast nonempty, Option.some_or]

/-- A numeral has no white space. -/
theorem spaceless : ∀ c ∈ text, isSpace c = false := by
  have free : spaces.all (fun c => !(c.isDigit || c == '+')) = true := by decide +kernel
  obtain ⟨sign, digits, rfl, signed, _, decimal⟩ := numeral
  intro c member
  refine isSpace_eq_false free ?_
  rcases List.mem_append.mp member with inSign | inDigits
  · rcases signed with rfl | rfl
    · cases inSign
    · rw [List.mem_singleton.mp inSign]
      rfl
  · rw [decimal c inDigits]
    rfl

end Numeral

namespace SizeForm

variable {size : List Char} (form : SizeForm size)

/-- The number of bytes. -/
def bytes : Nat :=
  form.numeral.value * form.factor

/-- What precedes the unit does not end in a letter. -/
theorem apart : (form.front ++ form.number ++ form.back).getLast?.any Char.isLower = false := by
  obtain ⟨c, last, digit⟩ := form.numeral.getLast?
  rw [List.getLast?_append]
  cases ending : form.back.getLast? with
  | none =>
      rw [Option.none_or, List.getLast?_append, last, Option.some_or, Option.any_some]
      exact isLower_of_isDigit digit
  | some space =>
      rw [Option.some_or, Option.any_some]
      exact isLower_of_isSpace (form.blankBack space (List.mem_of_getLast? ending))

theorem trim_eq : trim (form.front ++ form.number ++ form.back) = form.number :=
  have ends := ends_of_spaceless form.numeral.spaceless
  trim_pad form.blankFront form.blankBack ends.1 ends.2

/-- **Every unit that the text ends in ends the unit of the form.** -/
theorem suffix_unit {entry : String × Nat} (member : entry ∈ unitFactors)
    (ending : entry.1.toList <:+ size) : entry.1.toList <:+ form.unit.toList := by
  rw [form.whole] at ending
  exact suffix_of_letters form.apart (unit_letters member) ending

/-- **The unit of the form is the one that is found.** -/
theorem splitUnit_eq : splitUnit size = (form.number, form.factor) := by
  have ends : form.unit.toList <:+ size := ⟨_, form.whole.symm⟩
  rcases splitUnit_cases size with ⟨unit, factor, rest, member, split, found, first⟩ | ⟨unseen, found⟩
  · have within : unit.toList <:+ form.unit.toList :=
      form.suffix_unit (mem_unitFactors member) ⟨rest, split.symm⟩
    rcases mem_sizeUnits form.isUnit with none | mine
    · -- No unit ends the empty one.
      rw [(Prod.mk.inj none).1] at within
      exact absurd (List.suffix_nil.mp within) (unit_nonempty member)
    · obtain ⟨sameUnit, sameFactor⟩ := Prod.mk.inj (first _ mine ends within)
      have before : form.front ++ form.number ++ form.back ++ unit.toList = rest ++ unit.toList := by
        rw [← split, ← sameUnit, ← form.whole]
      rw [found, ← List.append_cancel_right before, form.trim_eq, sameFactor]
  · rcases mem_sizeUnits form.isUnit with none | mine
    · obtain ⟨noUnit, one⟩ := Prod.mk.inj none
      obtain ⟨noFront, noBack⟩ := form.bare noUnit
      have whole := form.whole
      rw [noUnit, noFront, noBack, String.toList_empty, List.append_nil, List.append_nil,
        List.nil_append] at whole
      rw [found, one, ← whole]
    · exact absurd ends (unseen _ mine)

/-- The white space in front is all that the text starts with. -/
theorem takeWhile_eq : size.takeWhile isSpace = form.front := by
  have notSpace : ((form.number ++ form.back ++ form.unit.toList).takeWhile isSpace) = [] := by
    obtain ⟨c, last, _⟩ := form.numeral.getLast?
    cases number : form.number with
    | nil =>
        rw [number] at last
        cases last
    | cons first rest =>
        have member : first ∈ form.number := by
          rw [number]
          exact List.mem_cons_self
        rw [List.cons_append, List.cons_append,
          List.takeWhile_cons_of_neg (by simp [form.numeral.spaceless first member])]
  calc size.takeWhile isSpace
      = (form.front ++ (form.number ++ form.back ++ form.unit.toList)).takeWhile isSpace := by
        rw [← List.append_assoc, ← List.append_assoc, ← form.whole]
    _ = form.front := by
        rw [List.takeWhile_append_of_pos form.blankFront, notSpace, List.append_nil]

/-- **A text is a size in one way only.** -/
theorem eq (one two : SizeForm size) : one = two := by
  obtain ⟨sameNumber, sameFactor⟩ := Prod.mk.inj (one.splitUnit_eq.symm.trans two.splitUnit_eq)
  have sameFront : one.front = two.front := one.takeWhile_eq.symm.trans two.takeWhile_eq
  have sameUnit : one.unit = two.unit := by
    have within := two.suffix_unit one.isUnit ⟨_, one.whole.symm⟩
    have around := one.suffix_unit two.isUnit ⟨_, two.whole.symm⟩
    exact String.toList_inj.mp (within.eq_of_length_le around.length_le)
  obtain ⟨front, number, back, unit, factor, whole, numeral, _, _, _, _⟩ := one
  obtain ⟨front', number', back', unit', factor', whole', numeral', _, _, _, _⟩ := two
  simp only at sameNumber sameFactor sameFront sameUnit
  subst sameNumber sameFactor sameFront sameUnit
  obtain rfl : back = back' := by
    rw [whole] at whole'
    exact List.append_cancel_left (List.append_cancel_right whole')
  obtain rfl : numeral = numeral' := numeral.eq numeral'
  rfl

end SizeForm

/-! ### Reading a size -/

/-- The text of a size without what does not matter: white space at its ends, underscores, and upper
case. -/
def plainSize (text : String) : List Char :=
  ((trim text.toList).filter (· != '_')).map Char.toLower

theorem parseSize_eq_ok {text : String} {number : List Char} {factor value : Nat}
    (split : splitUnit (plainSize text) = (number, factor)) :
    parseSize text = .ok value ↔
      ∃ count, parseNumber number = .ok count ∧ count * factor = value ∧ value < Json.wordLimit := by
  rw [plainSize] at split
  unfold parseSize
  simp only [split]
  cases read : parseNumber number with
  | error fault => simp
  | ok count =>
      simp only [Except.ok.injEq, exists_eq_left']
      by_cases fits : count * factor < Json.wordLimit
      · rw [if_pos fits, Except.ok.injEq]
        constructor
        · rintro rfl
          exact ⟨rfl, fits⟩
        · exact And.left
      · rw [if_neg fits]
        refine ⟨nofun, ?_⟩
        rintro ⟨rfl, less⟩
        exact absurd less fits

/-- A numeral that is left of a text without its unit is the one of a form. -/
theorem exists_form {size number : List Char} {factor : Nat}
    (split : splitUnit size = (number, factor)) (numeral : Numeral number) :
    ∃ form : SizeForm size, form.numeral.value = numeral.value ∧ form.factor = factor := by
  rcases splitUnit_cases size with ⟨unit, value, rest, member, whole, found, _⟩ | ⟨_, found⟩
  · obtain ⟨rfl, rfl⟩ := Prod.mk.inj (found.symm.trans split)
    obtain ⟨_, front, back, around, blankFront, blankBack⟩ := trim_eq_iff.mp (Eq.refl (trim rest))
    have bare : unit = "" → front = [] ∧ back = [] := by
      rintro rfl
      exact absurd rfl (unit_nonempty member)
    refine ⟨⟨front, trim rest, back, unit, value, ?_, numeral, blankFront, blankBack,
      mem_unitFactors member, bare⟩, rfl, rfl⟩
    rw [← around, whole]
  · obtain ⟨rfl, rfl⟩ := Prod.mk.inj (found.symm.trans split)
    have whole : size = [] ++ size ++ [] ++ "".toList := by simp
    exact ⟨⟨[], size, [], "", 1, whole, numeral, blank_nil, blank_nil, by decide,
      fun _ => ⟨rfl, rfl⟩⟩, rfl, rfl⟩

/-- **A size is read if and only if its text has the form of one**, and both its number and its bytes fit
in a word. -/
theorem parseSize_ok_iff {text : String} {value : Nat} :
    parseSize text = .ok value ↔
      ∃ form : SizeForm (plainSize text), form.numeral.value < 2 ^ 64 ∧ form.bytes = value ∧
        value < 2 ^ 64 := by
  have limit : Json.wordLimit = 2 ^ 64 := rfl
  rw [← limit]
  constructor
  · intro read
    obtain ⟨count, isNumber, same, fits⟩ := (parseSize_eq_ok rfl).mp read
    obtain ⟨numeral, rfl, small⟩ := parseNumber_ok_iff.mp isNumber
    obtain ⟨form, sameValue, sameFactor⟩ := exists_form rfl numeral
    refine ⟨form, by rw [sameValue]; exact small, ?_, fits⟩
    rw [SizeForm.bytes, sameValue, sameFactor, same]
  · rintro ⟨form, small, same, fits⟩
    have isNumber := parseNumber_ok_iff.mpr ⟨form.numeral, rfl, small⟩
    exact (parseSize_eq_ok form.splitUnit_eq).mpr ⟨form.numeral.value, isNumber, same, fits⟩

/-- **Sizes are read exactly.**  A text is read as a number of bytes if and only if, once trimmed, without
underscores and in lower case, it is a numeral below 2^64 and a unit, with white space around the numeral
only if there is a unit, and the product of the two is that number and below 2^64.  There is at most one
such way to take the text apart, and a text that cannot be taken apart in this way, or whose number or
product is too large, is refused. -/
theorem parseSize_exact (text : String) :
    (∀ value, parseSize text = .ok value ↔
      ∃ form : SizeForm (plainSize text), form.numeral.value < 2 ^ 64 ∧ form.bytes = value ∧
        value < 2 ^ 64) ∧
      Subsingleton (SizeForm (plainSize text)) ∧
      ((∃ fault, parseSize text = .error fault) ↔
        ∀ form : SizeForm (plainSize text),
          2 ^ 64 ≤ form.numeral.value ∨ 2 ^ 64 ≤ form.bytes) := by
  refine ⟨fun value => parseSize_ok_iff, ⟨SizeForm.eq⟩, ?_, ?_⟩
  · rintro ⟨fault, refused⟩ form
    refine Classical.byContradiction fun neither => ?_
    rw [not_or, Nat.not_le, Nat.not_le] at neither
    have read : parseSize text = .ok form.bytes :=
      parseSize_ok_iff.mpr ⟨form, neither.1, rfl, neither.2⟩
    rw [refused] at read
    cases read
  · intro large
    cases read : parseSize text with
    | error fault => exact ⟨fault, rfl⟩
    | ok value =>
        obtain ⟨form, small, rfl, fits⟩ := parseSize_ok_iff.mp read
        have bounds := large form
        omega

/-- Without its underscore a text can start in white space, which counts unless a unit follows. -/
example : (parseSize "_ 5Kb").toOption = some 5120 ∧ (parseSize "_ 5").toOption = none := by
  decide +kernel

end Marginalia.Cli
