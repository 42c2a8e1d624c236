/-
**Bytes that are no text.**

`Lossy` says what the text of any bytes is, by the bytes of characters alone: where the bytes of a
character stand, it is that character, and where none stand, the longest stretch that some character
begins with, or one byte if none begins with it, becomes one replacement character.

`lossy_iff` shows that `Utf8.decode` gives this text and that there is no other.  Both directions rest
on what the first byte announces (`lead?`): the bytes of a character fit what its first byte announces
(`encodeChar_fits`), whatever fits is the bytes of a character (`encodeChar_value`), and what fits so
far can be completed (`Fits.complete`).
-/

import Marginalia.Proofs.Text.Utf8

namespace Marginalia.Text.Utf8

/-! ### The text of any bytes -/

/-- Some character begins with the bytes. -/
def Begins (part : Bytes) : Prop :=
  ∃ c, part <+: encodeChar c

/-- **The longest start that goes wrong.**  No character stands at the start of the bytes, and the part
is the longest one that some character begins with; if none begins with the first byte, it is that
byte. -/
structure BadStart (part rest : Bytes) : Prop where
  noChar : ∀ c, ¬ encodeChar c <+: part ++ rest
  nonempty : part ≠ []
  begins : 1 < part.length → Begins part
  longest : ∀ longer, longer <+: part ++ rest → Begins longer → longer.length ≤ part.length

/-- **The text of any bytes**, with one replacement character for each start that goes wrong. -/
inductive Lossy : Bytes → List Char → Prop where
  | nil : Lossy [] []
  | char (c : Char) {rest : Bytes} {text : List Char} (others : Lossy rest text) :
      Lossy (encodeChar c ++ rest) (c :: text)
  | bad {part rest : Bytes} {text : List Char} (wrong : BadStart part rest)
      (others : Lossy rest text) : Lossy (part ++ rest) (replacement :: text)

/-- Two longest starts of the same bytes are the same. -/
theorem BadStart.length_le {part rest other more : Bytes} (wrong : BadStart part rest)
    (alsoWrong : BadStart other more) (same : part ++ rest = other ++ more) :
    part.length ≤ other.length := by
  by_cases long : 1 < part.length
  · refine alsoWrong.longest part ?_ (wrong.begins long)
    rw [← same]
    exact List.prefix_append ..
  · have positive := List.length_pos_iff.mpr alsoWrong.nonempty
    omega

/-! ### Bytes that fit -/

/-- The bytes can follow a first byte that bounds the next one by `low` and `high`. -/
def Fits (low high : Nat) : Bytes → Prop
  | [] => True
  | byte :: rest => (low ≤ byte.toNat ∧ byte.toNat ≤ high) ∧ Fits 0x80 0xbf rest

/-- The number that the bits so far make with the bits of further bytes. -/
def value (bits : Nat) (tail : Bytes) : Nat :=
  tail.foldl (fun total byte => total * 64 + (byte.toNat - 0x80)) bits

theorem Fits.of_prefix {low high : Nat} {part whole : Bytes} (fits : Fits low high whole)
    (start : part <+: whole) : Fits low high part := by
  induction part generalizing low high whole with
  | nil => trivial
  | cons byte rest ih =>
      cases whole with
      | nil => exact absurd (List.prefix_nil.mp start) (List.cons_ne_nil byte rest)
      | cons first others =>
          obtain ⟨rfl, within⟩ := List.cons_prefix_cons.mp start
          exact ⟨fits.1, ih fits.2 within⟩

/-- What fits can be continued to any length. -/
theorem Fits.complete {low high : Nat} (bounds : low ≤ high) (small : high < 256) {part : Bytes}
    (fits : Fits low high part) {more : Nat} (short : part.length ≤ more) :
    ∃ whole, part <+: whole ∧ whole.length = more ∧ Fits low high whole := by
  induction part generalizing low high more with
  | nil =>
      have further : ∀ count, Fits 0x80 0xbf (List.replicate count 0x80) := by
        intro count
        induction count with
        | zero => trivial
        | succ count ih => exact ⟨by decide, ih⟩
      cases more with
      | zero => exact ⟨[], List.nil_prefix, rfl, trivial⟩
      | succ more =>
          refine ⟨UInt8.ofNat low :: List.replicate more 0x80, List.nil_prefix, by simp, ?_, further more⟩
          rw [toNat_ofNat (by omega)]
          exact ⟨Nat.le_refl low, bounds⟩
  | cons byte rest ih =>
      cases more with
      | zero => cases short
      | succ more =>
          obtain ⟨whole, start, length, fitsRest⟩ :=
            ih (by decide) (by decide) fits.2 (Nat.le_of_succ_le_succ short)
          exact ⟨byte :: whole, List.cons_prefix_cons.mpr ⟨rfl, start⟩, by rw [List.length_cons, length],
            fits.1, fitsRest⟩

/-- **As many bytes are taken as fit**, up to the number asked for. -/
theorem follow_eq (bits more low high : Nat) (rest : Bytes) :
    ∃ part behind, rest = part ++ behind ∧ Fits low high part ∧ part.length ≤ more ∧
      follow bits more low high rest = (value bits part, part.length) ∧
      ∀ longer, longer <+: rest → Fits low high longer → longer.length ≤ more →
        longer.length ≤ part.length := by
  induction more generalizing bits low high rest with
  | zero => exact ⟨[], rest, rfl, trivial, Nat.le_refl 0, follow_zero .., fun _ _ _ short => short⟩
  | succ more ih =>
      cases rest with
      | nil =>
          refine ⟨[], [], rfl, trivial, Nat.zero_le _, rfl, fun longer start _ _ => ?_⟩
          exact Nat.le_of_eq (congrArg List.length (List.prefix_nil.mp start))
      | cons byte rest =>
          by_cases within : low ≤ byte.toNat ∧ byte.toNat ≤ high
          · obtain ⟨part, behind, split, fits, short, followed, longest⟩ :=
              ih (bits * 64 + (byte.toNat - 0x80)) 0x80 0xbf rest
            refine ⟨byte :: part, behind, by rw [split]; rfl, ⟨within, fits⟩, Nat.succ_le_succ short,
              ?_, ?_⟩
            · have isWithin : (decide (low ≤ byte.toNat) && decide (byte.toNat ≤ high)) = true := by
                simpa using within
              rw [follow, if_pos isWithin]
              simp only [followed, value, List.foldl_cons, List.length_cons]
            · intro longer start fitsLonger bound
              cases longer with
              | nil => exact Nat.zero_le _
              | cons first others =>
                  obtain ⟨rfl, inRest⟩ := List.cons_prefix_cons.mp start
                  exact Nat.succ_le_succ
                    (longest others inRest fitsLonger.2 (Nat.le_of_succ_le_succ bound))
          · refine ⟨[], byte :: rest, rfl, trivial, Nat.zero_le _, ?_, ?_⟩
            · rw [follow, if_neg (by simpa using within)]
              rfl
            · intro longer start fitsLonger _
              cases longer with
              | nil => exact Nat.le_refl 0
              | cons first others =>
                  obtain ⟨rfl, _⟩ := List.cons_prefix_cons.mp start
                  exact absurd fitsLonger.1 within

/-! ### Characters and what fits -/

theorem fits_continuation {low high code : Nat} {rest : Bytes} (above : low ≤ 0x80 + code % 64)
    (below : 0x80 + code % 64 ≤ high) (fits : Fits 0x80 0xbf rest) :
    Fits low high (continuation code :: rest) := by
  refine ⟨?_, fits⟩
  rw [toNat_continuation]
  exact ⟨above, below⟩

theorem fits_next {code : Nat} {rest : Bytes} (fits : Fits 0x80 0xbf rest) :
    Fits 0x80 0xbf (continuation code :: rest) :=
  fits_continuation (by omega) (by omega) fits

/-- **The bytes of a character fit what its first byte announces.** -/
theorem encodeChar_fits (c : Char) :
    ∃ byte tail lead, encodeChar c = byte :: tail ∧ lead? byte = some lead ∧
      tail.length = lead.more ∧ Fits lead.low lead.high tail := by
  have valid := toNat_valid c
  unfold encodeChar
  by_cases one : c.toNat < 0x80
  · exact ⟨_, [], _, if_pos one, lead?_one one, rfl, trivial⟩
  by_cases two : c.toNat < 0x800
  · exact ⟨_, [_], _, (if_neg one).trans (if_pos two), lead?_two (by omega) two, rfl,
      fits_next trivial⟩
  by_cases three : c.toNat < 0x10000
  · obtain ⟨low, high, announced, above, below⟩ :=
      @lead?_three c.toNat (by omega) three (by omega)
    exact ⟨_, [_, _], _, (if_neg one).trans ((if_neg two).trans (if_pos three)), announced, rfl,
      fits_continuation above below (fits_next trivial)⟩
  · obtain ⟨low, high, announced, above, below⟩ :=
      @lead?_four c.toNat (by omega) (by omega)
    exact ⟨_, [_, _, _], _, (if_neg one).trans ((if_neg two).trans (if_neg three)), announced, rfl,
      fits_continuation above below (fits_next (fits_next trivial))⟩

/-- What a first byte can announce. -/
inductive Announces (byte : Nat) : Lead → Prop where
  | one (below : byte < 0x80) : Announces byte ⟨0, byte, 0, 0⟩
  | two {bits : Nat} (number : byte = 0xc0 + bits) (above : 2 ≤ bits) (below : bits < 0x20) :
      Announces byte ⟨1, bits, 0x80, 0xbf⟩
  /-- The second byte rules out forms that are too long and surrogates. -/
  | three {bits low high : Nat} (number : byte = 0xe0 + bits) (below : bits < 0x10)
      (bounds : 0x80 ≤ low ∧ low ≤ high ∧ high ≤ 0xbf) (least : bits = 0 → 0xa0 ≤ low)
      (surrogates : bits = 0x0d → high ≤ 0x9f) : Announces byte ⟨2, bits, low, high⟩
  /-- The second byte rules out forms that are too long and numbers that are too great. -/
  | four {bits low high : Nat} (number : byte = 0xf0 + bits) (below : bits ≤ 4)
      (bounds : 0x80 ≤ low ∧ low ≤ high ∧ high ≤ 0xbf) (least : bits = 0 → 0x90 ≤ low)
      (last : bits = 4 → high ≤ 0x8f) : Announces byte ⟨3, bits, low, high⟩

theorem announces_of_lead? {byte : UInt8} {lead : Lead} (announced : lead? byte = some lead) :
    Announces byte.toNat lead := by
  unfold lead? at announced
  simp only at announced
  by_cases one : byte.toNat < 0x80
  · rw [if_pos one] at announced
    cases announced
    exact .one one
  rw [if_neg one] at announced
  by_cases inside : byte.toNat < 0xc2
  · rw [if_pos inside] at announced
    cases announced
  rw [if_neg inside] at announced
  by_cases two : byte.toNat < 0xe0
  · rw [if_pos two] at announced
    cases announced
    exact .two (by omega) (by omega) (by omega)
  rw [if_neg two] at announced
  by_cases least : byte.toNat = 0xe0
  · rw [if_pos least] at announced
    cases announced
    exact .three (by omega) (by omega) (by omega) (by omega) (by omega)
  rw [if_neg least] at announced
  by_cases surrogates : byte.toNat = 0xed
  · rw [if_pos surrogates] at announced
    cases announced
    exact .three (by omega) (by omega) (by omega) (by omega) (by omega)
  rw [if_neg surrogates] at announced
  by_cases three : byte.toNat < 0xf0
  · rw [if_pos three] at announced
    cases announced
    exact .three (by omega) (by omega) (by omega) (by omega) (by omega)
  rw [if_neg three] at announced
  by_cases leastFour : byte.toNat = 0xf0
  · rw [if_pos leastFour] at announced
    cases announced
    exact .four (by omega) (by omega) (by omega) (by omega) (by omega)
  rw [if_neg leastFour] at announced
  by_cases four : byte.toNat < 0xf4
  · rw [if_pos four] at announced
    cases announced
    exact .four (by omega) (by omega) (by omega) (by omega) (by omega)
  rw [if_neg four] at announced
  by_cases last : byte.toNat = 0xf4
  · rw [if_pos last] at announced
    cases announced
    exact .four (by omega) (by omega) (by omega) (by omega) (by omega)
  · rw [if_neg last] at announced
    cases announced

theorem ofNat_eq {value : Nat} (byte : UInt8) (same : value = byte.toNat) :
    UInt8.ofNat value = byte := by
  rw [same, UInt8.ofNat_toNat]

theorem continuation_eq {code : Nat} (byte : UInt8) (same : 0x80 + code % 64 = byte.toNat) :
    continuation code = byte :=
  ofNat_eq byte same

section

variable {byte b c d : UInt8} {bits : Nat}

theorem encodeChar_value_two (number : byte.toNat = 0xc0 + bits) (above : 2 ≤ bits)
    (below : bits < 0x20) (second : 0x80 ≤ b.toNat ∧ b.toNat ≤ 0xbf) :
    encodeChar (Char.ofNat (value bits [b])) = [byte, b] := by
  have total : value bits [b] = bits * 64 + (b.toNat - 0x80) := rfl
  rw [total, encodeChar, toNat_ofNat_valid (by omega), if_neg (by omega), if_pos (by omega),
    ofNat_eq byte (by omega), continuation_eq b (by omega)]

theorem encodeChar_value_three (number : byte.toNat = 0xe0 + bits) (below : bits < 0x10)
    (second : 0x80 ≤ b.toNat ∧ b.toNat ≤ 0xbf) (least : bits = 0 → 0xa0 ≤ b.toNat)
    (surrogates : bits = 0x0d → b.toNat ≤ 0x9f) (third : 0x80 ≤ c.toNat ∧ c.toNat ≤ 0xbf) :
    encodeChar (Char.ofNat (value bits [b, c])) = [byte, b, c] := by
  have total : value bits [b, c] = (bits * 64 + (b.toNat - 0x80)) * 64 + (c.toNat - 0x80) := rfl
  rw [total, encodeChar, toNat_ofNat_valid (by omega), if_neg (by omega), if_neg (by omega),
    if_pos (by omega), ofNat_eq byte (by omega), continuation_eq b (by omega),
    continuation_eq c (by omega)]

theorem encodeChar_value_four (number : byte.toNat = 0xf0 + bits) (below : bits ≤ 4)
    (second : 0x80 ≤ b.toNat ∧ b.toNat ≤ 0xbf) (least : bits = 0 → 0x90 ≤ b.toNat)
    (last : bits = 4 → b.toNat ≤ 0x8f) (third : 0x80 ≤ c.toNat ∧ c.toNat ≤ 0xbf)
    (fourth : 0x80 ≤ d.toNat ∧ d.toNat ≤ 0xbf) :
    encodeChar (Char.ofNat (value bits [b, c, d])) = [byte, b, c, d] := by
  have total : value bits [b, c, d] =
      ((bits * 64 + (b.toNat - 0x80)) * 64 + (c.toNat - 0x80)) * 64 + (d.toNat - 0x80) := rfl
  rw [total, encodeChar, toNat_ofNat_valid (by omega), if_neg (by omega), if_neg (by omega),
    if_neg (by omega), ofNat_eq byte (by omega), continuation_eq b (by omega),
    continuation_eq c (by omega), continuation_eq d (by omega)]

end

/-- **What fits is the bytes of a character.** -/
theorem encodeChar_value {byte : UInt8} {lead : Lead} {tail : Bytes}
    (announced : lead? byte = some lead) (length : tail.length = lead.more)
    (fits : Fits lead.low lead.high tail) :
    encodeChar (Char.ofNat (value lead.bits tail)) = byte :: tail := by
  cases announces_of_lead? announced with
  | one below =>
      obtain rfl := List.length_eq_zero_iff.mp length
      have code : (Char.ofNat byte.toNat).toNat = byte.toNat := toNat_ofNat_valid (by omega)
      show encodeChar (Char.ofNat byte.toNat) = [byte]
      rw [encodeChar, code, if_pos below, ofNat_eq byte rfl]
  | two number above below =>
      obtain ⟨b, rfl⟩ := List.length_eq_one_iff.mp length
      exact encodeChar_value_two number above below fits.1
  | three number below bounds least surrogates =>
      match tail, length, fits with
      | [b, c], _, ⟨⟨aboveB, belowB⟩, third, _⟩ =>
        exact encodeChar_value_three number below
          ⟨Nat.le_trans bounds.1 aboveB, Nat.le_trans belowB bounds.2.2⟩
          (fun zero => Nat.le_trans (least zero) aboveB)
          (fun near => Nat.le_trans belowB (surrogates near)) third
  | four number below bounds least last =>
      match tail, length, fits with
      | [b, c, d], _, ⟨⟨aboveB, belowB⟩, third, fourth, _⟩ =>
        exact encodeChar_value_four number below
          ⟨Nat.le_trans bounds.1 aboveB, Nat.le_trans belowB bounds.2.2⟩
          (fun zero => Nat.le_trans (least zero) aboveB)
          (fun great => Nat.le_trans belowB (last great)) third fourth

/-! ### One character -/

/-- Bytes that some character begins with fit what the first of them announces. -/
theorem fits_of_begins {byte : UInt8} {more : Bytes} {c : Char}
    (start : byte :: more <+: encodeChar c) :
    ∃ lead tail, encodeChar c = byte :: tail ∧ lead? byte = some lead ∧ more <+: tail ∧
      tail.length = lead.more ∧ Fits lead.low lead.high tail := by
  obtain ⟨first, tail, lead, bytes, announced, length, fits⟩ := encodeChar_fits c
  rw [bytes] at start
  obtain ⟨rfl, within⟩ := List.cons_prefix_cons.mp start
  exact ⟨lead, tail, bytes, announced, within, length, fits⟩

/-- What fits what a byte announces is what some character begins with. -/
theorem begins_of_fits {byte : UInt8} {lead : Lead} {part : Bytes}
    (announced : lead? byte = some lead) (fits : Fits lead.low lead.high part)
    (short : part.length ≤ lead.more) : Begins (byte :: part) := by
  have bounds : lead.low ≤ lead.high ∧ lead.high < 256 := by
    cases announces_of_lead? announced <;> simp only <;> omega
  obtain ⟨whole, start, length, fitsWhole⟩ := fits.complete bounds.1 bounds.2 short
  refine ⟨Char.ofNat (value lead.bits whole), ?_⟩
  rw [encodeChar_value announced length fitsWhole]
  exact List.cons_prefix_cons.mpr ⟨rfl, start⟩

/-- A byte that announces nothing goes wrong by itself. -/
theorem badStart_of_unannounced {byte : UInt8} (unannounced : lead? byte = none) (rest : Bytes) :
    BadStart [byte] rest where
  noChar c start := by
    obtain ⟨first, tail, lead, bytes, announced, _⟩ := encodeChar_fits c
    rw [bytes] at start
    obtain ⟨rfl, _⟩ := List.cons_prefix_cons.mp start
    rw [unannounced] at announced
    cases announced
  nonempty := List.cons_ne_nil byte []
  begins long := absurd long (Nat.lt_irrefl 1)
  longest longer start := by
    rintro ⟨c, inside⟩
    cases longer with
    | nil => exact Nat.zero_le 1
    | cons first more =>
        obtain ⟨rfl, _⟩ := List.cons_prefix_cons.mp start
        obtain ⟨lead, _, _, announced, _⟩ := fits_of_begins inside
        rw [unannounced] at announced
        cases announced

/-- Fewer bytes that fit than announced go wrong together. -/
theorem badStart_of_short {byte : UInt8} {lead : Lead} {part behind : Bytes}
    (announced : lead? byte = some lead) (fits : Fits lead.low lead.high part)
    (short : part.length < lead.more)
    (longest : ∀ longer, longer <+: part ++ behind → Fits lead.low lead.high longer →
      longer.length ≤ lead.more → longer.length ≤ part.length) :
    BadStart (byte :: part) behind where
  noChar c start := by
    obtain ⟨first, tail, other, bytes, alsoAnnounced, length, fitsTail⟩ := encodeChar_fits c
    rw [bytes] at start
    obtain ⟨rfl, within⟩ := List.cons_prefix_cons.mp start
    cases announced.symm.trans alsoAnnounced
    have bound := longest tail within fitsTail (Nat.le_of_eq length)
    omega
  nonempty := List.cons_ne_nil byte part
  begins _ := begins_of_fits announced fits (Nat.le_of_lt short)
  longest longer start := by
    rintro ⟨c, inside⟩
    cases longer with
    | nil => exact Nat.zero_le _
    | cons first more =>
        obtain ⟨rfl, within⟩ := List.cons_prefix_cons.mp start
        obtain ⟨other, tail, _, alsoAnnounced, inTail, length, fitsTail⟩ := fits_of_begins inside
        cases announced.symm.trans alsoAnnounced
        have bound : more.length ≤ lead.more := length ▸ inTail.length_le
        exact Nat.succ_le_succ (longest more within (fitsTail.of_prefix inTail) bound)

/-- **What stands at the start of any bytes**: the bytes of a character, or the longest start that goes
wrong. -/
theorem decodeChar_start (byte : UInt8) (rest : Bytes) :
    ∃ part behind, rest = part ++ behind ∧ (decodeChar byte rest).2 = part.length ∧
      (encodeChar (decodeChar byte rest).1 = byte :: part ∨
        (decodeChar byte rest).1 = replacement ∧ BadStart (byte :: part) behind) := by
  cases announced : lead? byte with
  | none =>
      have decoded : decodeChar byte rest = (replacement, 0) := by rw [decodeChar, announced]
      rw [decoded]
      exact ⟨[], rest, rfl, rfl, .inr ⟨rfl, badStart_of_unannounced announced rest⟩⟩
  | some lead =>
      obtain ⟨part, behind, rfl, fits, bound, followed, longest⟩ :=
        follow_eq lead.bits lead.more lead.low lead.high rest
      have decoded : decodeChar byte (part ++ behind) =
          (if part.length = lead.more then Char.ofNat (value lead.bits part) else replacement,
            part.length) := by
        rw [decodeChar, announced]
        simp only [followed]
      rw [decoded]
      refine ⟨part, behind, rfl, rfl, ?_⟩
      by_cases whole : part.length = lead.more
      · left
        simp only [if_pos whole]
        exact encodeChar_value announced whole fits
      · right
        exact ⟨if_neg whole, badStart_of_short announced fits (by omega) longest⟩

/-! ### Any bytes -/

theorem decode_cons (byte : UInt8) (part behind : Bytes)
    (taken : (decodeChar byte (part ++ behind)).2 = part.length) :
    decode (byte :: (part ++ behind)) =
      (decodeChar byte (part ++ behind)).1 :: decode behind := by
  rw [decode, decodeFrom]
  simp only [taken, decodeFrom_append]

/-- **The text that decoding gives is the text of the bytes.** -/
theorem lossy_decode (bytes : Bytes) : Lossy bytes (decode bytes) := by
  induction length : bytes.length using Nat.strongRecOn generalizing bytes with
  | ind count ih =>
      cases bytes with
      | nil => exact .nil
      | cons byte rest =>
          obtain ⟨part, behind, rfl, taken, start⟩ := decodeChar_start byte rest
          have shorter : behind.length < count := by
            rw [← length, List.length_cons, List.length_append]
            omega
          have others := ih behind.length shorter behind rfl
          rw [decode_cons byte part behind taken, ← List.cons_append]
          rcases start with isChar | ⟨isReplacement, wrong⟩
          · rw [← isChar]
            exact .char _ others
          · rw [isReplacement]
            exact .bad wrong others

/-- A start that goes wrong is decoded to one replacement character. -/
theorem decode_badStart {part rest : Bytes} (wrong : BadStart part rest) :
    decode (part ++ rest) = replacement :: decode rest := by
  obtain ⟨byte, tail, rfl⟩ := List.exists_cons_of_ne_nil wrong.nonempty
  obtain ⟨taken, behind, split, count, start⟩ := decodeChar_start byte (tail ++ rest)
  rcases start with isChar | ⟨isReplacement, alsoWrong⟩
  · refine absurd ?_ (wrong.noChar (decodeChar byte (tail ++ rest)).1)
    rw [isChar, List.cons_append, split]
    exact List.cons_prefix_cons.mpr ⟨rfl, List.prefix_append ..⟩
  · have same : byte :: tail ++ rest = byte :: taken ++ behind := congrArg (byte :: ·) split
    have lengths : tail.length = taken.length := by
      have one := wrong.length_le alsoWrong same
      have two := alsoWrong.length_le wrong same.symm
      rw [List.length_cons, List.length_cons] at one two
      omega
    rw [List.cons_append, decode_cons byte tail rest (count.trans lengths.symm), isReplacement]

/-- **Decoding gives the text of the bytes, and there is no other.** -/
theorem lossy_iff {bytes : Bytes} {text : List Char} : Lossy bytes text ↔ text = decode bytes := by
  constructor
  · intro lossy
    induction lossy with
    | nil => rfl
    | char c others ih => rw [decode_encodeChar_append, ih]
    | bad wrong others ih => rw [decode_badStart wrong, ih]
  · rintro rfl
    exact lossy_decode bytes

end Marginalia.Text.Utf8
