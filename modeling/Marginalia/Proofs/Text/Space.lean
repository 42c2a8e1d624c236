/-
**White space, and what trimming it leaves.**

White space is twenty-five characters (`mem_spaces`), so a class of characters is free of it if those
are not in the class (`isSpace_eq_false`).

A text whose end has been trimmed does not end in a character that is dropped, and a text that does
not is left as it is (`dropEndWhile_eq_self`).  So trimming twice is trimming once, and the texts
that trimming gives are those that start and end in no white space (`trim_eq_self`,
`ends_trim`).  What trimming drops is white space on both sides (`trim_eq_iff`).  A search from the
end of a text cuts it at the last character that the search does not pass (`cut_cases`,
`reverse_cut`).
-/

import Marginalia.Text.Space

namespace Marginalia.Text

/-! ### The characters -/

/-- The characters that are white space. -/
def spaces : List Char :=
  [0x09, 0x0a, 0x0b, 0x0c, 0x0d, 0x20, 0x85, 0xa0, 0x1680, 0x2000, 0x2001, 0x2002, 0x2003, 0x2004,
    0x2005, 0x2006, 0x2007, 0x2008, 0x2009, 0x200a, 0x2028, 0x2029, 0x202f, 0x205f,
    0x3000].map Char.ofNat

theorem mem_spaces {c : Char} (isWhite : isSpace c = true) : c ∈ spaces := by
  rw [spaces, List.mem_map]
  refine ⟨c.toNat, ?_, Char.ofNat_toNat c⟩
  simp only [isSpace, Bool.or_eq_true, Bool.and_eq_true, decide_eq_true_eq, beq_iff_eq] at isWhite
  simp only [List.mem_cons, List.not_mem_nil, or_false]
  omega

/-- A class that none of these characters is in holds no white space. -/
theorem isSpace_eq_false {p : Char → Bool} (free : spaces.all (!p ·) = true) {c : Char}
    (holds : p c = true) : isSpace c = false := by
  refine Bool.eq_false_iff.mpr fun isWhite => ?_
  have outside := List.all_eq_true.mp free c (mem_spaces isWhite)
  rw [holds] at outside
  cases outside

/-- A text without white space has none at its ends. -/
theorem ends_of_spaceless {text : List Char} (spaceless : ∀ c ∈ text, isSpace c = false) :
    text.head?.any isSpace = false ∧ text.getLast?.any isSpace = false := by
  have noSpace : ∀ character : Option Char, (∀ c ∈ character, c ∈ text) →
      character.any isSpace = false := by
    intro character within
    cases character with
    | none => rfl
    | some c => exact spaceless c (within c rfl)
  exact ⟨noSpace _ fun c => List.mem_of_mem_head?, noSpace _ fun c => List.mem_of_mem_getLast?⟩

/-! ### Trimming -/

variable {drop : Char → Bool}

theorem head?_dropWhile_any (drop : Char → Bool) (text : List Char) :
    (text.dropWhile drop).head?.any drop = false := by
  have left := List.head?_dropWhile_not drop text
  cases found : (text.dropWhile drop).head? with
  | none => rfl
  | some c =>
      rw [found] at left
      exact left

theorem dropWhile_eq_self {text : List Char} (kept : text.head?.any drop = false) :
    text.dropWhile drop = text := by
  cases text with
  | nil => rfl
  | cons c rest =>
      have here : drop c = false := kept
      rw [List.dropWhile_cons, here, if_neg Bool.false_ne_true]

theorem getLast?_dropEndWhile (drop : Char → Bool) (text : List Char) :
    (dropEndWhile drop text).getLast?.any drop = false := by
  rw [dropEndWhile, List.getLast?_reverse]
  exact head?_dropWhile_any drop text.reverse

theorem dropEndWhile_eq_self {text : List Char} (kept : text.getLast?.any drop = false) :
    dropEndWhile drop text = text := by
  rw [← List.head?_reverse] at kept
  rw [dropEndWhile, dropWhile_eq_self kept, List.reverse_reverse]

theorem dropEndWhile_prefix (drop : Char → Bool) (text : List Char) :
    dropEndWhile drop text <+: text := by
  have ending := List.dropWhile_suffix (l := text.reverse) drop
  have start := List.reverse_prefix.mpr ending
  rw [List.reverse_reverse] at start
  exact start

/-- **No white space stands at either end of a trimmed text.** -/
theorem ends_trim (text : List Char) :
    (trim text).head?.any isSpace = false ∧ (trim text).getLast?.any isSpace = false := by
  refine ⟨?_, getLast?_dropEndWhile isSpace _⟩
  have start := dropEndWhile_prefix isSpace (text.dropWhile isSpace)
  have noSpace := head?_dropWhile_any isSpace text
  rw [trim, trimEnd]
  cases trimmed : dropEndWhile isSpace (text.dropWhile isSpace) with
  | nil => rfl
  | cons c rest =>
      rw [trimmed] at start
      obtain ⟨more, whole⟩ := start
      rw [← whole] at noSpace
      exact noSpace

/-- **A text without white space at either end is trimmed.** -/
theorem trim_eq_self {text : List Char} (start : text.head?.any isSpace = false)
    (ending : text.getLast?.any isSpace = false) : trim text = text := by
  rw [trim, dropWhile_eq_self start, trimEnd, dropEndWhile_eq_self ending]

/-! ### What is dropped -/

/-- The text is made of white space. -/
def Blank (text : List Char) : Prop :=
  ∀ c ∈ text, isSpace c = true

instance (text : List Char) : Decidable (Blank text) :=
  decidable_of_iff (text.all isSpace = true) List.all_eq_true

theorem blank_nil : Blank [] := by
  intro c member
  cases member

/-- An ending whose characters are all dropped does not count. -/
theorem dropEndWhile_append {ending : List Char} (dropped : ∀ c ∈ ending, drop c = true)
    (text : List Char) : dropEndWhile drop (text ++ ending) = dropEndWhile drop text := by
  have allDropped : ∀ c ∈ ending.reverse, drop c = true :=
    fun c member => dropped c (List.mem_reverse.mp member)
  rw [dropEndWhile, List.reverse_append, List.dropWhile_append_of_pos allDropped, dropEndWhile]

theorem exists_dropEndWhile (drop : Char → Bool) (text : List Char) :
    ∃ ending, text = dropEndWhile drop text ++ ending ∧ ∀ c ∈ ending, drop c = true := by
  refine ⟨(text.reverse.takeWhile drop).reverse, ?_, fun c member => ?_⟩
  · rw [dropEndWhile, ← List.reverse_append, List.takeWhile_append_dropWhile, List.reverse_reverse]
  · exact List.all_eq_true.mp List.all_takeWhile c (List.mem_reverse.mp member)

/-- A text is dropped as a whole, or it is cut at the last character that is kept. -/
theorem cut_cases (drop : Char → Bool) (text : List Char) :
    (∀ c ∈ text, drop c = true) ∨
      ∃ front mark ending, text = front ++ mark :: ending ∧ drop mark = false ∧
        ∀ c ∈ ending, drop c = true := by
  obtain ⟨ending, whole, dropped⟩ := exists_dropEndWhile drop text
  have kept := getLast?_dropEndWhile drop text
  rcases List.eq_nil_or_concat (dropEndWhile drop text) with nothing | ⟨front, mark, rest⟩
  · rw [nothing, List.nil_append] at whole
    exact .inl (whole ▸ dropped)
  · rw [rest, List.concat_eq_append] at whole kept
    rw [List.getLast?_concat] at kept
    rw [List.append_assoc, List.singleton_append] at whole
    exact .inr ⟨front, mark, ending, whole, kept, dropped⟩

/-- From its end the text is read up to that character. -/
theorem reverse_cut (drop : Char → Bool) {mark : Char} (kept : drop mark = false)
    {ending : List Char} (dropped : ∀ c ∈ ending, drop c = true) (front : List Char) :
    (front ++ mark :: ending).reverse.takeWhile drop = ending.reverse ∧
      (front ++ mark :: ending).reverse.dropWhile drop = mark :: front.reverse := by
  have allDropped : ∀ c ∈ ending.reverse, drop c = true :=
    fun c member => dropped c (List.mem_reverse.mp member)
  have backwards : (front ++ mark :: ending).reverse = ending.reverse ++ mark :: front.reverse := by
    simp
  rw [backwards, List.takeWhile_append_of_pos allDropped, List.dropWhile_append_of_pos allDropped]
  simp [kept]

/-- White space around a trimmed text is trimmed off. -/
theorem trim_pad {front text back : List Char} (before : Blank front) (behind : Blank back)
    (start : text.head?.any isSpace = false) (ending : text.getLast?.any isSpace = false) :
    trim (front ++ text ++ back) = text := by
  rw [trim, List.append_assoc, List.dropWhile_append_of_pos before]
  cases text with
  | nil =>
      rw [List.nil_append, ← List.append_nil back, List.dropWhile_append_of_pos behind]
      rfl
  | cons c rest =>
      have kept : (c :: rest ++ back).dropWhile isSpace = c :: rest ++ back :=
        dropWhile_eq_self start
      rw [kept, trimEnd, dropEndWhile_append behind, dropEndWhile_eq_self ending]

/-- **Trimming drops the white space around a text that neither starts nor ends in any.** -/
theorem trim_eq_iff {text name : List Char} :
    trim text = name ↔
      (name.head?.any isSpace = false ∧ name.getLast?.any isSpace = false) ∧
        ∃ front back, text = front ++ name ++ back ∧ Blank front ∧ Blank back := by
  constructor
  · rintro rfl
    obtain ⟨back, split, behind⟩ := exists_dropEndWhile isSpace (text.dropWhile isSpace)
    refine ⟨ends_trim text, text.takeWhile isSpace, back, ?_, ?_, behind⟩
    · rw [trim, trimEnd, List.append_assoc, ← split, List.takeWhile_append_dropWhile]
    · exact fun c member => List.all_eq_true.mp List.all_takeWhile c member
  · rintro ⟨⟨start, ending⟩, front, back, rfl, before, behind⟩
    exact trim_pad before behind start ending

end Marginalia.Text
