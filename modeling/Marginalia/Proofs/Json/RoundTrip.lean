/-
**Reading back what was written.**

The compact form of a value is a single line (`feed_not_mem_writeCompact`), and reading it gives the
value back (`parse?_line`), as long as the value is `Writable`: its whole numbers fit into 64 bits,
its objects have distinct keys, it holds no other numbers, and it is not nested too deeply.

Strings and numbers come first.  Lists and objects follow by induction on the value: what a reader
needs of the text behind a value is that it does not go on with the value (`Delimited`), and the
bound of the reader is at least twice the length of what is written.
-/

import Marginalia.Json.Reader
import Marginalia.Json.Writer
import Marginalia.Proofs.Json.Members

namespace Marginalia.Json

/-! ### Strings -/

/-- What is read of a string if its next character is `c`. -/
def afterChar (c : Char) (read : Option (List Char × List Char)) : Option (List Char × List Char) :=
  read.map fun (body, rest) => (c :: body, rest)

theorem readStringBody?_short {letter c : Char} (short : unescape? letter = some c)
    (rest : List Char) :
    readStringBody? ('\\' :: letter :: rest) = afterChar c (readStringBody? rest) := by
  have notUnit : letter ≠ 'u' := by
    rintro rfl
    simp [unescape?] at short
  rw [readStringBody?, short]
  · cases readStringBody? rest <;> rfl
  · intro a b c d rest same
    exact absurd same notUnit

theorem unit?_hexDigit : ∀ code < 0x20,
    unit? '0' '0' (hexDigit (code / 16)) (hexDigit (code % 16)) = some code := by
  decide

theorem readStringBody?_unit {c : Char} (control : c.toNat < 0x20) (rest : List Char) :
    readStringBody?
        ('\\' :: 'u' :: '0' :: '0' :: hexDigit (c.toNat / 16) :: hexDigit (c.toNat % 16) :: rest) =
      afterChar c (readStringBody? rest) := by
  have high : isHighSurrogate c.toNat = false := by
    simp only [isHighSurrogate, Bool.and_eq_false_iff, decide_eq_false_iff_not]
    omega
  have low : isLowSurrogate c.toNat = false := by
    simp only [isLowSurrogate, Bool.and_eq_false_iff, decide_eq_false_iff_not]
    omega
  rw [readStringBody?, unit?_hexDigit c.toNat control]
  simp only [Option.bind_eq_bind, Option.bind_some, high, low, Bool.false_eq_true, if_false,
    Char.ofNat_toNat]
  cases readStringBody? rest <;> rfl

theorem readStringBody?_plain {c : Char} (quote : c ≠ '"') (backslash : c ≠ '\\')
    (visible : ¬c.toNat < 0x20) (rest : List Char) :
    readStringBody? (c :: rest) = afterChar c (readStringBody? rest) := by
  rw [readStringBody?]
  · rw [if_neg (by simp [visible, backslash])]
    cases readStringBody? rest <;> rfl
  · exact quote
  · intro a b d e more same
    exact absurd same backslash
  · intro letter more same
    exact absurd same backslash

/-- The ways to write a character in a string. -/
inductive Escaped (c : Char) : List Char → Prop where
  | short {letter : Char} (short : unescape? letter = some c) : Escaped c ['\\', letter]
  | unit (control : c.toNat < 0x20) :
      Escaped c ['\\', 'u', '0', '0', hexDigit (c.toNat / 16), hexDigit (c.toNat % 16)]
  | plain (quote : c ≠ '"') (backslash : c ≠ '\\') (visible : ¬c.toNat < 0x20) : Escaped c [c]

theorem escaped_escapeChar (c : Char) : Escaped c (escapeChar c) := by
  have short : ∀ {special letter : Char}, unescape? letter = some special → c = special →
      Escaped c ['\\', letter] := by
    rintro special letter known rfl
    exact .short known
  unfold escapeChar
  split_ifs with quote backslash backspace formFeed feed carriageReturn tab control
  · exact short rfl quote
  · exact short rfl backslash
  · exact short rfl backspace
  · exact short rfl formFeed
  · exact short rfl feed
  · exact short rfl carriageReturn
  · exact short rfl tab
  · exact .unit control
  · exact .plain quote backslash control

/-- A character that has been escaped is read as itself. -/
theorem readStringBody?_escapeChar (c : Char) (rest : List Char) :
    readStringBody? (escapeChar c ++ rest) = afterChar c (readStringBody? rest) := by
  have escaped := escaped_escapeChar c
  generalize escapeChar c = written at escaped ⊢
  cases escaped with
  | short short => exact readStringBody?_short short rest
  | unit control => exact readStringBody?_unit control rest
  | plain quote backslash visible => exact readStringBody?_plain quote backslash visible rest

/-- **A string is read back**, whatever characters it holds. -/
theorem readString?_writeString (text : String) (rest : List Char) :
    readString? (text.toList.flatMap escapeChar ++ '"' :: rest) = some (text, rest) := by
  have body : ∀ chars : List Char,
      readStringBody? (chars.flatMap escapeChar ++ '"' :: rest) = some (chars, rest) := by
    intro chars
    induction chars with
    | nil => rfl
    | cons c chars ih =>
        rw [List.flatMap_cons, List.append_assoc, readStringBody?_escapeChar, ih]
        rfl
  unfold readString?
  rw [body, Option.map_some]
  exact congrArg (fun read => some (read, rest)) String.ofList_toList

/-! ### Numbers -/

theorem digitsValue_toDigits (value : Nat) : digitsValue (Nat.toDigits 10 value) = value := by
  have same : ∀ digits : List Char, digitsValue digits = Nat.ofDigitChars 10 digits 0 := by
    intro digits
    unfold digitsValue Nat.ofDigitChars digitValue
    simp only [Nat.mul_comm]
  rw [same, Nat.ofDigitChars_ten_toDigits]

theorem head?_toDigits {value : Nat} (positive : 0 < value) :
    (Nat.toDigits 10 value).head? ≠ some '0' := by
  have single : ∀ digit < 10, 0 < digit → [Nat.digitChar digit].head? ≠ some '0' := by decide
  induction value using Nat.strongRecOn with
  | _ value ih =>
      by_cases small : value < 10
      · rw [Nat.toDigits_of_lt_base small]
        exact single value small positive
      · have step : 10 ≤ value := Nat.le_of_not_lt small
        rw [Nat.toDigits_of_base_le (by decide) step,
          List.head?_append_of_ne_nil _ Nat.toDigits_ne_nil]
        exact ih (value / 10) (by omega) (by omega)

theorem isDigit_of_mem {value : Nat} {c : Char} (member : c ∈ Nat.toDigits 10 value) :
    c.isDigit = true :=
  Nat.isDigit_of_mem_toDigits (by decide) (by decide) member

theorem toDigits_head (value : Nat) :
    ∃ c rest, Nat.toDigits 10 value = c :: rest ∧ c.isDigit = true := by
  cases digits : Nat.toDigits 10 value with
  | nil => exact absurd digits Nat.toDigits_ne_nil
  | cons c rest => exact ⟨c, rest, rfl, isDigit_of_mem (digits ▸ List.mem_cons_self)⟩

/-- What stands behind a value: nothing, or a character that no value goes on with. -/
def Delimited (rest : List Char) : Prop :=
  ∀ c ∈ rest.head?, c = ',' ∨ c = ']' ∨ c = '}' ∨ c = '\n'

theorem readDigits?_toDigits (value : Nat) {rest : List Char} (delimited : Delimited rest) :
    readDigits? (Nat.toDigits 10 value ++ rest) = some (Nat.toDigits 10 value, rest) := by
  have digits : ∀ c ∈ Nat.toDigits 10 value, c.isDigit = true := fun _ => isDigit_of_mem
  have stop : rest.takeWhile Char.isDigit = [] ∧ rest.dropWhile Char.isDigit = rest := by
    cases rest with
    | nil => exact ⟨rfl, rfl⟩
    | cons c more =>
        have notDigit : c.isDigit = false := by
          rcases delimited c rfl with rfl | rfl | rfl | rfl <;> decide
        simp [notDigit]
  unfold readDigits?
  rw [List.takeWhile_append_of_pos digits, List.dropWhile_append_of_pos digits, stop.1, stop.2,
    List.append_nil]
  cases some : Nat.toDigits 10 value with
  | nil => exact absurd some Nat.toDigits_ne_nil
  | cons first others => rfl

theorem readFraction?_delimited {rest : List Char} (delimited : Delimited rest) :
    readFraction? rest = some ([], rest) := by
  cases rest with
  | nil => rfl
  | cons c more => rcases delimited c rfl with rfl | rfl | rfl | rfl <;> rfl

theorem readExponent?_delimited {rest : List Char} (delimited : Delimited rest) :
    readExponent? rest = some (none, rest) := by
  cases rest with
  | nil => rfl
  | cons c more => rcases delimited c rfl with rfl | rfl | rfl | rfl <;> rfl

/-- A whole number of at most 64 bits is read back. -/
theorem readNumber?_toDigits {negative : Bool} {value : Nat} (whole : isWhole negative value = true)
    {rest : List Char} (delimited : Delimited rest) :
    readNumber? negative (Nat.toDigits 10 value ++ rest) =
      some (.int (if negative then -value else value), rest) := by
  have noZero : ¬((Nat.toDigits 10 value).head? = some '0' ∧
      1 < (Nat.toDigits 10 value).length) := by
    rintro ⟨zero, long⟩
    by_cases positive : 0 < value
    · exact head?_toDigits positive zero
    · obtain rfl : value = 0 := by omega
      simp at long
  unfold readNumber?
  rw [readDigits?_toDigits value delimited]
  simp [readFraction?_delimited delimited, readExponent?_delimited delimited, noZero,
    digitsValue_toDigits, whole]

/-! ### Values -/

/-- **Values that can be read back** with a number of levels to spare: whole numbers fit into 64
bits, there are no other numbers, and the keys of an object are distinct. -/
inductive Writable : Nat → Json → Prop where
  | null {levels : Nat} : Writable levels .null
  | bool {levels : Nat} (value : Bool) : Writable levels (.bool value)
  | nat {levels value : Nat} (fits : value < wordLimit) : Writable levels (.nat value)
  | negative {levels value : Nat} (fits : value < wordLimit / 2) :
      Writable levels (.int (.negSucc value))
  | str {levels : Nat} (text : String) : Writable levels (.str text)
  | arr {levels : Nat} {items : List Json} (each : ∀ item ∈ items, Writable levels item) :
      Writable (levels + 1) (.arr items)
  | obj {levels : Nat} {members : Members} (distinct : (Members.keys members).Nodup)
      (each : ∀ member ∈ members, Writable levels member.2) : Writable (levels + 1) (.obj members)

theorem writeCompact_arr (items : List Json) :
    writeCompact (.arr items) = '[' :: writeItems items ++ [']'] := rfl

theorem writeCompact_obj (members : Members) :
    writeCompact (.obj members) = '{' :: writeMembers members ++ ['}'] := rfl

theorem delimited_cons {c : Char} (closing : c = ',' ∨ c = ']' ∨ c = '}' ∨ c = '\n')
    (rest : List Char) : Delimited (c :: rest) := by
  intro first member
  cases member
  exact closing

theorem skipBlanks_cons {c : Char} (visible : isBlank c = false) (rest : List Char) :
    skipBlanks (c :: rest) = c :: rest := by
  rw [skipBlanks, List.dropWhile_cons, visible]
  rfl

theorem ne_of_isDigit {c other : Char} (digit : c.isDigit = true) (none : other.isDigit = false) :
    c ≠ other := by
  rintro rfl
  rw [digit] at none
  cases none

theorem isBlank_of_isDigit {c : Char} (digit : c.isDigit = true) : isBlank c = false := by
  have differs : ∀ other : Char, other.isDigit = false → (c == other) = false := fun _ none =>
    beq_false_of_ne (ne_of_isDigit digit none)
  simp [isBlank, differs]

theorem readValue?_digit (levels fuel : Nat) {c : Char} (digit : c.isDigit = true)
    (rest : List Char) :
    readValue? levels (fuel + 1) (c :: rest) = readNumber? false (c :: rest) := by
  rw [readValue?, skipBlanks_cons (isBlank_of_isDigit digit)]
  split
  · next same => exact absurd (List.cons.inj same).1 (ne_of_isDigit digit rfl)
  · next same => exact absurd (List.cons.inj same).1 (ne_of_isDigit digit rfl)
  · next same => exact absurd (List.cons.inj same).1 (ne_of_isDigit digit rfl)
  · next same => exact absurd (List.cons.inj same).1 (ne_of_isDigit digit rfl)
  · next same =>
      cases same
      rw [if_pos digit]
  · next same => cases same

theorem readValue?_list (levels fuel : Nat) {c : Char} (visible : isBlank c = false)
    (notClosing : c ≠ ']') (rest : List Char) :
    readValue? (levels + 1) (fuel + 1) ('[' :: c :: rest) =
      (readItems? levels fuel (c :: rest)).map fun (items, rest) => (.arr items, rest) := by
  rw [readValue?, skipBlanks_cons rfl]
  simp only [Nat.add_one_ne_zero, if_false, skipBlanks_cons visible, Nat.add_sub_cancel]
  split
  · next same => exact absurd (List.cons.inj same).1 notClosing
  · rfl

/-- The first character of a value is no blank and does not close a list. -/
theorem writeCompact_head {levels : Nat} {value : Json} (writable : Writable levels value) :
    ∃ c rest, writeCompact value = c :: rest ∧ isBlank c = false ∧ c ≠ ']' := by
  cases writable with
  | null => exact ⟨'n', _, rfl, rfl, by decide⟩
  | bool value =>
      cases value with
      | true => exact ⟨'t', _, rfl, rfl, by decide⟩
      | false => exact ⟨'f', _, rfl, rfl, by decide⟩
  | @nat _ value fits =>
      obtain ⟨c, rest, digits, digit⟩ := toDigits_head value
      exact ⟨c, rest, digits, isBlank_of_isDigit digit, ne_of_isDigit digit rfl⟩
  | negative fits => exact ⟨'-', _, rfl, rfl, by decide⟩
  | str text => exact ⟨'"', _, rfl, rfl, by decide⟩
  | arr each => exact ⟨'[', _, rfl, rfl, by decide⟩
  | obj distinct each => exact ⟨'{', _, rfl, rfl, by decide⟩

theorem writeItems_head {levels : Nat} {items : List Json} (nonempty : items ≠ [])
    (each : ∀ item ∈ items, Writable levels item) :
    ∃ c rest, writeItems items = c :: rest ∧ isBlank c = false ∧ c ≠ ']' := by
  cases items with
  | nil => exact absurd rfl nonempty
  | cons item others =>
      obtain ⟨c, rest, head, properties⟩ := writeCompact_head (each item List.mem_cons_self)
      cases others with
      | nil => exact ⟨c, rest, by rw [writeItems, head], properties⟩
      | cons next more => exact ⟨c, _, by rw [writeItems, head, List.cons_append], properties⟩

theorem writeMembers_head {members : Members} (nonempty : members ≠ []) :
    ∃ rest, writeMembers members = '"' :: rest := by
  cases members with
  | nil => exact absurd rfl nonempty
  | cons member others =>
      cases others with
      | nil => exact ⟨_, rfl⟩
      | cons next more => exact ⟨_, rfl⟩

/-- A value is read back wherever it ends, with a bound of twice its length. -/
def ReadBack (levels : Nat) (value : Json) : Prop :=
  ∀ fuel rest, 2 * (writeCompact value).length ≤ fuel + 1 → Delimited rest →
    readValue? levels (fuel + 1) (writeCompact value ++ rest) = some (value, rest)

theorem readItems?_writeItems {levels : Nat} {items : List Json} (nonempty : items ≠ [])
    (each : ∀ item ∈ items, ReadBack levels item) {fuel : Nat}
    (enough : 2 * (writeItems items).length + 2 < fuel) (rest : List Char) :
    readItems? levels fuel (writeItems items ++ ']' :: rest) = some (items, rest) := by
  induction items generalizing fuel with
  | nil => exact absurd rfl nonempty
  | cons item others ih =>
      obtain ⟨less, rfl⟩ : ∃ less, fuel = less + 1 + 1 := ⟨fuel - 2, by omega⟩
      have first := each item List.mem_cons_self
      cases others with
      | nil =>
          rw [writeItems] at enough ⊢
          rw [readItems?, first less _ (by omega) (delimited_cons (by simp) rest)]
          rfl
      | cons next more =>
          rw [writeItems] at enough ⊢
          rw [List.length_append, List.length_cons] at enough
          have later := ih (List.cons_ne_nil next more)
            (fun other member => each other (List.mem_cons_of_mem item member))
            (show _ < less + 1 by omega)
          rw [List.append_assoc, List.cons_append, readItems?,
            first less _ (by omega) (delimited_cons (by simp) _)]
          show (readItems? levels (less + 1) (writeItems (next :: more) ++ ']' :: rest)).bind _ = _
          rw [later]
          rfl

/-- Reading a member, and then what follows it. -/
theorem readMembers?_member {levels fuel : Nat} (key : String) {value : Json}
    (readBack : ReadBack levels value) (enough : 2 * (writeCompact value).length ≤ fuel + 1)
    {rest : List Char} (delimited : Delimited rest) :
    readMembers? levels (fuel + 1 + 1) (writeString key ++ ':' :: writeCompact value ++ rest) =
      match skipBlanks rest with
      | ',' :: rest => (readMembers? levels (fuel + 1) rest).map
          fun (members, rest) => ((key, value) :: members, rest)
      | '}' :: rest => some ([(key, value)], rest)
      | _ => none := by
  have spelled : writeString key ++ ':' :: writeCompact value ++ rest =
      '"' :: (key.toList.flatMap escapeChar ++ '"' :: ':' :: (writeCompact value ++ rest)) := by
    simp [writeString]
  rw [spelled, readMembers?, skipBlanks_cons rfl]
  simp only [readString?_writeString, Option.bind_eq_bind, Option.bind_some,
    skipBlanks_cons (show isBlank ':' = false from rfl), readBack fuel rest enough delimited]
  generalize skipBlanks rest = behind
  split
  · exact Option.map_eq_bind.symm
  · rfl
  · next noComma noBrace => grind

theorem readMembers?_writeMembers {levels : Nat} {members : Members} (nonempty : members ≠ [])
    (each : ∀ member ∈ members, ReadBack levels member.2) {fuel : Nat}
    (enough : 2 * (writeMembers members).length + 2 < fuel) (rest : List Char) :
    readMembers? levels fuel (writeMembers members ++ '}' :: rest) = some (members, rest) := by
  induction members generalizing fuel with
  | nil => exact absurd rfl nonempty
  | cons member others ih =>
      obtain ⟨less, rfl⟩ : ∃ less, fuel = less + 1 + 1 := ⟨fuel - 2, by omega⟩
      obtain ⟨key, value⟩ := member
      have first : ReadBack levels value := each (key, value) List.mem_cons_self
      cases others with
      | nil =>
          rw [writeMembers] at enough ⊢
          rw [List.length_append, List.length_cons] at enough
          rw [readMembers?_member key first (by omega) (delimited_cons (by simp) rest)]
          rfl
      | cons next more =>
          rw [writeMembers] at enough ⊢
          simp only [List.length_append, List.length_cons] at enough
          have later := ih (List.cons_ne_nil next more)
            (fun other inside => each other (List.mem_cons_of_mem _ inside))
            (show _ < less + 1 by omega)
          rw [List.append_assoc, List.cons_append,
            readMembers?_member key first (by omega) (delimited_cons (by simp) _)]
          show (readMembers? levels (less + 1) (writeMembers (next :: more) ++ '}' :: rest)).map _ = _
          rw [later]
          rfl

/-- **A value is read back**, whatever stands behind it. -/
theorem Writable.readBack {levels : Nat} {value : Json} (writable : Writable levels value) :
    ReadBack levels value := by
  induction writable with
  | null => exact fun _ _ _ _ => rfl
  | bool value => cases value <;> exact fun _ _ _ _ => rfl
  | @nat levels value fits =>
      intro fuel rest _ delimited
      have whole : isWhole false value = true := by simpa [isWhole] using fits
      have read := readNumber?_toDigits whole delimited
      show readValue? levels (fuel + 1) (Nat.toDigits 10 value ++ rest) = _
      obtain ⟨c, others, digits, digit⟩ := toDigits_head value
      rw [digits] at read ⊢
      exact (readValue?_digit levels fuel digit (others ++ rest)).trans read
  | @negative levels value fits =>
      intro fuel rest _ delimited
      have whole : isWhole true (value + 1) = true := by
        simp only [isWhole, if_true, Bool.and_eq_true, decide_eq_true_eq]
        omega
      exact readNumber?_toDigits whole delimited
  | @str levels text =>
      intro fuel rest _ _
      show (readString? (text.toList.flatMap escapeChar ++ ['"'] ++ rest)).map _ = _
      rw [List.append_assoc, List.singleton_append, readString?_writeString]
      rfl
  | @arr levels items each ih =>
      intro fuel rest enough _
      cases items with
      | nil => rfl
      | cons item others =>
          have length : (writeCompact (.arr (item :: others))).length =
              (writeItems (item :: others)).length + 2 := by
            simp [writeCompact_arr]
          have read := readItems?_writeItems (List.cons_ne_nil item others) ih
            (show _ < fuel by omega) rest
          obtain ⟨c, more, head, visible, notClosing⟩ :=
            writeItems_head (List.cons_ne_nil item others) each
          rw [head, List.cons_append] at read
          have spelled : writeCompact (.arr (item :: others)) ++ rest =
              '[' :: c :: (more ++ ']' :: rest) := by
            simp [writeCompact_arr, head]
          rw [spelled, readValue?_list levels fuel visible notClosing, read]
          rfl
  | @obj levels members distinct each ih =>
      intro fuel rest enough _
      cases members with
      | nil => rfl
      | cons member others =>
          have length : (writeCompact (.obj (member :: others))).length =
              (writeMembers (member :: others)).length + 2 := by
            simp [writeCompact_obj]
          have read := readMembers?_writeMembers (List.cons_ne_nil member others) ih
            (show _ < fuel by omega) rest
          obtain ⟨more, head⟩ := writeMembers_head (List.cons_ne_nil member others)
          rw [head, List.cons_append] at read
          have spelled : writeCompact (.obj (member :: others)) ++ rest =
              '{' :: '"' :: (more ++ '}' :: rest) := by
            simp [writeCompact_obj, head]
          rw [spelled]
          show (readMembers? levels fuel ('"' :: (more ++ '}' :: rest))).map _ = _
          rw [read]
          show some (Json.obj (Members.ofList (member :: others)), rest) = _
          rw [Members.ofList_of_nodup distinct]

theorem parse?_line {value : Json} (writable : Writable nestingLimit value) :
    parse? (String.ofList (writeCompact value ++ ['\n'])) = some value := by
  have enough : 2 * (writeCompact value).length ≤
      2 * (writeCompact value ++ ['\n']).length + 1 := by
    rw [List.length_append]
    omega
  unfold parse?
  simp only [String.toList_ofList]
  rw [writable.readBack _ _ enough (delimited_cons (by simp) [])]
  rfl

/-! ### One line -/

theorem feed_not_mem_writeString (text : String) : '\n' ∉ writeString text := by
  have digit : ∀ value < 16, '\n' ≠ hexDigit value := by decide
  have escaped : ∀ c : Char, '\n' ∉ escapeChar c := by
    intro c
    have escaped := escaped_escapeChar c
    generalize escapeChar c = written at escaped ⊢
    cases escaped with
    | @short letter short =>
        have notFeed : '\n' ≠ letter := by
          rintro rfl
          cases short
        simp [notFeed]
    | unit control => simp [digit (c.toNat / 16) (by omega), digit (c.toNat % 16) (by omega)]
    | plain _ _ visible =>
        have notFeed : '\n' ≠ c := by
          rintro rfl
          exact visible (by decide)
        simpa using notFeed
  simp [writeString, escaped]

theorem feed_not_mem_writeNat (value : Nat) : '\n' ∉ writeNat value := by
  intro member
  exact absurd (isDigit_of_mem member) (by decide)

theorem feed_not_mem_writeInt (value : Int) : '\n' ∉ writeInt value := by
  cases value with
  | ofNat value => exact feed_not_mem_writeNat value
  | negSucc value => simp [writeInt, feed_not_mem_writeNat]

theorem feed_not_mem_writeDigits {digits : List Char} (plain : '\n' ∉ digits) (point : Int) :
    '\n' ∉ writeDigits digits point := by
  unfold writeDigits
  simp only
  split_ifs
  · simp [plain]
  · have before : '\n' ∉ digits.take point.toNat :=
      fun member => plain (List.mem_of_mem_take member)
    have behind : '\n' ∉ digits.drop point.toNat :=
      fun member => plain (List.mem_of_mem_drop member)
    simp [before, behind]
  · simp [plain]
  · have exponent : '\n' ∉ writeExponent (point - 1) := by
      unfold writeExponent
      split_ifs
      · exact feed_not_mem_writeInt _
      · simp [feed_not_mem_writeInt]
    cases digits with
    | nil => simp [exponent]
    | cons first others =>
        cases others with
        | nil => simp_all
        | cons next more => simp_all

theorem feed_not_mem_writeFloat (negative : Bool) (magnitude : Decimal.Binary) :
    '\n' ∉ writeFloat negative magnitude := by
  have unsigned : '\n' ∉ writeMagnitude magnitude := by
    unfold writeMagnitude
    split_ifs
    · decide
    · refine feed_not_mem_writeDigits (fun member => ?_) _
      have inside := (List.dropWhile_sublist _).mem (List.mem_reverse.mp member)
      exact feed_not_mem_writeNat _ (List.mem_reverse.mp inside)
  cases negative with
  | true => simp [writeFloat, unsigned]
  | false => exact unsigned

mutual

/-- **The compact form of a value has no line feed.** -/
theorem feed_not_mem_writeCompact : ∀ value : Json, '\n' ∉ writeCompact value
  | .null => by decide
  | .bool true => by decide
  | .bool false => by decide
  | .int value => feed_not_mem_writeInt value
  | .float negative magnitude => feed_not_mem_writeFloat negative magnitude
  | .str text => feed_not_mem_writeString text
  | .arr items => by
      rw [writeCompact_arr]
      simp [feed_not_mem_writeItems items]
  | .obj members => by
      rw [writeCompact_obj]
      simp [feed_not_mem_writeMembers members]

theorem feed_not_mem_writeItems : ∀ items : List Json, '\n' ∉ writeItems items
  | [] => by simp [writeItems]
  | [item] => feed_not_mem_writeCompact item
  | item :: next :: rest => by
      simp [writeItems, feed_not_mem_writeCompact item, feed_not_mem_writeItems (next :: rest)]

theorem feed_not_mem_writeMembers : ∀ members : List (String × Json), '\n' ∉ writeMembers members
  | [] => by simp [writeMembers]
  | [(key, value)] => by
      simp [writeMembers, feed_not_mem_writeString, feed_not_mem_writeCompact value]
  | (key, value) :: next :: rest => by
      simp [writeMembers, feed_not_mem_writeString, feed_not_mem_writeCompact value,
        feed_not_mem_writeMembers (next :: rest)]

end

end Marginalia.Json
