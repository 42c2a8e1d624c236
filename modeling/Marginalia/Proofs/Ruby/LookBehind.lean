/-
**The two look-behinds agree.**

Both look at what a text ends in, white space aside: nothing at all, a word (`WordEnding`) or a mark
that belongs to no word (`MarkEnding`).  Every text is of one of the three kinds (`ending_cases`),
and for each kind there is one equation for `startsOperand` and one for `followsValue`.

* An operand can start wherever no value ends.
* Both hold only behind a name that white space parts from the symbol, with none behind the symbol:
  this is how the arguments of a call without parentheses start.
* How much white space there is, and which, does not matter as long as there is some.
-/

import Marginalia.Proofs.Text.Space
import Marginalia.Ruby.LookBehind
import Mathlib.Data.List.Basic

namespace Marginalia.Ruby

open Marginalia.Text

/-! ### What a text ends in -/

/-- **A text that ends in a word**, white space aside.  The word is as long as it can be; white
space beyond ASCII can stand within it, but not at its end. -/
structure WordEnding where
  front : List Char
  word : List Char
  gap : List Char
  nonempty : word ≠ []
  letters : ∀ c ∈ word, isIdentChar c = true
  longest : front.getLast?.any isIdentChar = false
  solid : word.getLast?.any isSpace = false
  blank : Blank gap

def WordEnding.text (ending : WordEnding) : List Char :=
  ending.front ++ ending.word ++ ending.gap

/-- **A text that ends in a mark**, white space aside. -/
structure MarkEnding where
  front : List Char
  mark : Char
  gap : List Char
  notLetter : isIdentChar mark = false
  notSpace : isSpace mark = false
  blank : Blank gap

def MarkEnding.text (ending : MarkEnding) : List Char :=
  ending.front ++ [ending.mark] ++ ending.gap

/-- **Every text is blank or ends in a word or in a mark.** -/
theorem ending_cases (text : List Char) :
    Blank text ∨ (∃ ending : WordEnding, text = ending.text) ∨
      ∃ ending : MarkEnding, text = ending.text := by
  rcases cut_cases isSpace text with blank | ⟨others, last, gap, rfl, notSpace, blank⟩
  · exact .inl blank
  · by_cases letter : isIdentChar last = true
    · obtain ⟨word, split, letters⟩ := exists_dropEndWhile isIdentChar (others ++ [last])
      have longest := getLast?_dropEndWhile isIdentChar (others ++ [last])
      generalize dropEndWhile isIdentChar (others ++ [last]) = front at split longest
      -- An empty word would leave the last letter to what stands before it.
      have nonempty : word ≠ [] := by
        rintro rfl
        rw [List.append_nil] at split
        rw [← split, List.getLast?_concat, Option.any_some, letter] at longest
        cases longest
      have solid : word.getLast?.any isSpace = false := by
        rw [← List.getLast?_append_of_ne_nil front nonempty, ← split, List.getLast?_concat]
        exact notSpace
      refine .inr (.inl ⟨⟨front, word, gap, nonempty, letters, longest, solid, blank⟩, ?_⟩)
      rw [WordEnding.text, ← split, List.append_assoc, List.singleton_append]
    · refine .inr (.inr ⟨⟨others, last, gap, Bool.eq_false_iff.mpr letter, notSpace, blank⟩, ?_⟩)
      rw [MarkEnding.text, List.append_assoc, List.singleton_append]

/-! ### What is looked at -/

/-- White space at the end of a text is passed over. -/
theorem dropWhile_reverse_append {gap : List Char} (blank : Blank gap) (front : List Char) :
    (front ++ gap).reverse.dropWhile isSpace = front.reverse.dropWhile isSpace := by
  rw [List.reverse_append]
  exact List.dropWhile_append_of_pos fun c member => blank c (List.mem_reverse.mp member)

/-- A text that does not end in white space is seen as it is. -/
theorem dropWhile_reverse {front : List Char} (solid : front.getLast?.any isSpace = false) :
    front.reverse.dropWhile isSpace = front.reverse :=
  dropWhile_eq_self (by rwa [List.head?_reverse])

/-- White space stands right before the symbol if some follows the text. -/
theorem head?_reverse_append {front gap : List Char} (blank : Blank gap) (nonempty : gap ≠ []) :
    (front ++ gap).reverse.head?.any isSpace = true := by
  rw [List.head?_reverse, List.getLast?_append_of_ne_nil _ nonempty,
    List.getLast?_eq_some_getLast nonempty]
  exact blank _ (List.getLast_mem nonempty)

/-- **Behind nothing an operand can start, and no value ends.** -/
theorem lookBehind_blank {text : List Char} (blank : Blank text) (after : Option Char) :
    startsOperand text.reverse after = true ∧ followsValue text.reverse = false := by
  have nothing : text.reverse.dropWhile isSpace = [] := dropWhile_reverse_append blank []
  simp [startsOperand, followsValue, nothing]

namespace WordEnding

variable (ending : WordEnding) (after : Option Char)

theorem solid_append : (ending.front ++ ending.word).getLast?.any isSpace = false := by
  rw [List.getLast?_append_of_ne_nil _ ending.nonempty]
  exact ending.solid

theorem trimmed_eq :
    ending.text.reverse.dropWhile isSpace = ending.word.reverse ++ ending.front.reverse := by
  rw [text, dropWhile_reverse_append ending.blank, dropWhile_reverse ending.solid_append,
    List.reverse_append]

/-- The word that is found is the whole word. -/
theorem lastWord_eq :
    lastWord (ending.text.reverse.dropWhile isSpace) = String.ofList ending.word := by
  have within : ∀ c ∈ ending.word.reverse, isIdentChar c = true :=
    fun c member => ending.letters c (List.mem_reverse.mp member)
  have stops : ending.front.reverse.takeWhile isIdentChar = [] := by
    have longest := ending.longest
    rw [← List.head?_reverse] at longest
    cases front : ending.front.reverse with
    | nil => rfl
    | cons c rest =>
        rw [front] at longest
        exact List.takeWhile_cons_of_neg (Bool.eq_false_iff.mp longest)
  rw [lastWord, ending.trimmed_eq, List.takeWhile_append_of_pos within, stops, List.append_nil,
    List.reverse_reverse]

/-- The nearest character, white space aside, is one of the word. -/
theorem exists_head? : ∃ last, (ending.text.reverse.dropWhile isSpace).head? = some last ∧
    isIdentChar last = true := by
  have isLast := List.getLast?_eq_some_getLast ending.nonempty
  refine ⟨_, ?_, ending.letters _ (List.getLast_mem ending.nonempty)⟩
  rw [ending.trimmed_eq, List.head?_append, List.head?_reverse, isLast, Option.some_or]

theorem head?_isSpace : ending.text.reverse.head?.any isSpace = !ending.gap.isEmpty := by
  by_cases nothing : ending.gap = []
  · rw [text, nothing, List.append_nil, List.head?_reverse, ending.solid_append]
    rfl
  · rw [text, head?_reverse_append ending.blank nothing, List.isEmpty_eq_false_iff.mpr nothing]
    rfl

/-- **Behind a word a value ends, unless an operand has to follow the word.** -/
theorem followsValue_eq :
    followsValue ending.text.reverse = !operandWords.contains (String.ofList ending.word) := by
  obtain ⟨last, head, letter⟩ := ending.exists_head?
  simp only [followsValue, head, letter, ending.lastWord_eq, if_true]

/-- **Behind a word an operand can start** if one has to follow, or if the word is no number and the
symbol stands apart from the word and close to what follows. -/
theorem startsOperand_eq :
    startsOperand ending.text.reverse after =
      (operandWords.contains (String.ofList ending.word) ||
        (!ending.word.head?.any Char.isDigit &&
          (!ending.gap.isEmpty && after.any (!isSpace ·)))) := by
  obtain ⟨last, head, letter⟩ := ending.exists_head?
  simp only [startsOperand, head, letter, ending.lastWord_eq, if_true, ending.head?_isSpace,
    String.toList_ofList]
  cases operandWords.contains (String.ofList ending.word) with
  | true => rfl
  | false => cases ending.word.head?.any Char.isDigit <;> rfl

end WordEnding

namespace MarkEnding

variable (ending : MarkEnding) (after : Option Char)

theorem head?_eq : (ending.text.reverse.dropWhile isSpace).head? = some ending.mark := by
  have solid : (ending.front ++ [ending.mark]).getLast?.any isSpace = false := by
    rw [List.getLast?_concat]
    exact ending.notSpace
  rw [text, dropWhile_reverse_append ending.blank, dropWhile_reverse solid, List.head?_reverse,
    List.getLast?_concat]

/-- **Behind a mark a value ends or an operand can start**, by the mark alone. -/
theorem lookBehind_eq : followsValue ending.text.reverse = closesValue ending.mark ∧
    startsOperand ending.text.reverse after = !closesValue ending.mark := by
  constructor
  · simp only [followsValue, ending.head?_eq, ending.notLetter, Bool.false_eq_true, if_false]
  · simp only [startsOperand, ending.head?_eq, ending.notLetter, Bool.false_eq_true, if_false]

end MarkEnding

/-! ### How they agree -/

/-- The text ends in white space, and before that in a name: a word that is no number and that no
operand has to follow. -/
def EndsInSpacedName (text : List Char) : Prop :=
  ∃ ending : WordEnding, text = ending.text ∧ ending.gap ≠ [] ∧
    String.ofList ending.word ∉ operandWords ∧ ending.word.head?.any Char.isDigit = false

/-- **Where no value ends an operand can start.** -/
theorem startsOperand_of_followsValue_eq_false {text : List Char} (after : Option Char)
    (noValue : followsValue text.reverse = false) : startsOperand text.reverse after = true := by
  rcases ending_cases text with blank | ⟨ending, rfl⟩ | ⟨ending, rfl⟩
  · exact (lookBehind_blank blank after).1
  · rw [ending.followsValue_eq, Bool.not_eq_false'] at noValue
    rw [ending.startsOperand_eq, noValue, Bool.true_or]
  · obtain ⟨value, operand⟩ := ending.lookBehind_eq after
    rw [operand, ← value, noValue, Bool.not_false]

/-- **Both hold behind a name and white space, right before something else.** -/
theorem startsOperand_and_followsValue {text : List Char} (after : Option Char) :
    startsOperand text.reverse after = true ∧ followsValue text.reverse = true ↔
      EndsInSpacedName text ∧ ∃ c, after = some c ∧ isSpace c = false := by
  constructor
  · rintro ⟨operand, value⟩
    rcases ending_cases text with blank | ⟨ending, rfl⟩ | ⟨ending, rfl⟩
    · rw [(lookBehind_blank blank after).2] at value
      cases value
    · rw [ending.followsValue_eq, Bool.not_eq_true'] at value
      rw [ending.startsOperand_eq, value, Bool.false_or, Bool.and_eq_true, Bool.and_eq_true,
        Bool.not_eq_true', Bool.not_eq_true', List.isEmpty_eq_false_iff] at operand
      obtain ⟨noNumber, spaced, tight⟩ := operand
      refine ⟨⟨ending, rfl, spaced, by simpa using value, noNumber⟩, ?_⟩
      obtain ⟨c, next, notSpace⟩ := (Option.any_eq_true _ _).mp tight
      exact ⟨c, next, by simpa using notSpace⟩
    · obtain ⟨closes, opens⟩ := ending.lookBehind_eq after
      rw [opens, ← closes, value] at operand
      cases operand
  · rintro ⟨⟨ending, rfl, spaced, noKeyword, noNumber⟩, c, rfl, notSpace⟩
    have value : operandWords.contains (String.ofList ending.word) = false := by
      simpa using noKeyword
    rw [ending.startsOperand_eq, ending.followsValue_eq, value, noNumber, Option.any_some, notSpace,
      List.isEmpty_eq_false_iff.mpr spaced]
    exact ⟨rfl, rfl⟩

/-- **Any white space before the symbol is as good as any other.** -/
theorem lookBehind_respace {gap other : List Char} (blank : Blank gap) (blankOther : Blank other)
    (nonempty : gap ≠ []) (nonemptyOther : other ≠ []) (front : List Char) (after : Option Char) :
    startsOperand (front ++ other).reverse after = startsOperand (front ++ gap).reverse after ∧
      followsValue (front ++ other).reverse = followsValue (front ++ gap).reverse := by
  have trimmed : (front ++ other).reverse.dropWhile isSpace =
      (front ++ gap).reverse.dropWhile isSpace := by
    rw [dropWhile_reverse_append blank, dropWhile_reverse_append blankOther]
  have spaced : (front ++ other).reverse.head?.any isSpace =
      (front ++ gap).reverse.head?.any isSpace := by
    rw [head?_reverse_append blank nonempty, head?_reverse_append blankOther nonemptyOther]
  constructor
  · simp only [startsOperand, trimmed, spaced]
  · simp only [followsValue, trimmed]

/-- **The two look-behinds agree.**  Of the text before a symbol and the text behind it: where no
value ends, an operand can start; both hold if and only if the text ends in a name and then white
space, and a character that is no white space follows the symbol; and other white space in the place
of the white space before the symbol changes neither. -/
theorem lookBehinds_agree (text rest : List Char) :
    (followsValue text.reverse = false → startsOperand text.reverse rest.head? = true) ∧
      (startsOperand text.reverse rest.head? = true ∧ followsValue text.reverse = true ↔
        EndsInSpacedName text ∧ ∃ c, rest.head? = some c ∧ isSpace c = false) ∧
      ∀ front gap other, text = front ++ gap → Blank gap → Blank other → gap ≠ [] → other ≠ [] →
        startsOperand (front ++ other).reverse rest.head? = startsOperand text.reverse rest.head? ∧
          followsValue (front ++ other).reverse = followsValue text.reverse := by
  refine ⟨startsOperand_of_followsValue_eq_false rest.head?,
    startsOperand_and_followsValue rest.head?, ?_⟩
  rintro front gap other rfl blank blankOther nonempty nonemptyOther
  exact lookBehind_respace blank blankOther nonempty nonemptyOther front rest.head?

/-- A name of two words that an ideographic space joins, and a tab in the place of a space. -/
theorem lookBehinds_agree_joined :
    (startsOperand "x = a\u3000if ".toList.reverse (some 'r') = true ∧
        followsValue "x = a\u3000if ".toList.reverse = true) ∧
      startsOperand ("x = a\u3000if".toList ++ ['\t']).reverse (some 'r') = true := by
  have agree := lookBehinds_agree "x = a\u3000if ".toList "re/".toList
  have named : EndsInSpacedName "x = a\u3000if ".toList :=
    ⟨⟨"x = ".toList, "a\u3000if".toList, [' '], by decide, List.all_eq_true.mp (by decide),
      by decide, by decide, by decide⟩, by decide, by decide, by decide, by decide⟩
  have both := agree.2.1.mpr ⟨named, 'r', rfl, by decide⟩
  refine ⟨both, ?_⟩
  rw [← both.1]
  exact (agree.2.2 "x = a\u3000if".toList [' '] ['\t'] rfl (by decide) (by decide) (by decide)
    (by decide)).1

end Marginalia.Ruby
