/-
**Openers of here documents.**

`HeredocOpener` is an opener as it can be spelled: two less-than signs, perhaps a sign that allows
indentation, and a bare identifier or a text in quotes.  Reading one takes exactly its characters and
announces its here document (`opener?_text`), whatever the quotes hold: comment signs, brackets, other
quotes, characters of several bytes.

Whether a less-than sign starts an opener depends on the text before it.  Behind a bracket or a comma
no value has ended and an operand can start (`Expectant`), and a comma stands between the openers of
a list, so each of them is seen in spite of the text of the ones before it (`scan_openers`).
-/

import Marginalia.Proofs.Ruby.LineBreaks
import Marginalia.Proofs.Ruby.LiteralBody

namespace Marginalia.Ruby

open Marginalia.Text

/-! ### How openers are spelled -/

/-- What can stand between the less-than signs and the identifier. -/
inductive OpenerSign where
  | absent
  | dash
  | tilde
deriving Repr, DecidableEq

def OpenerSign.text : OpenerSign → List Char
  | absent => []
  | dash => ['-']
  | tilde => ['~']

/-- An identifier of an opener. -/
inductive OpenerName where
  /-- A bare name. -/
  | bare (first : Char) (others : List Char) (starts : (first.isAlpha || first == '_') = true)
      (word : ∀ c ∈ others, isWordChar c = true)
  /-- A text on one line between quotes that it does not hold. -/
  | quoted (mark : Char) (text : List Char) (isQuote : Heredoc.isQuote mark = true)
      (nonempty : text ≠ []) (inside : ∀ c ∈ text, c ≠ mark ∧ c ≠ '\n')

namespace OpenerName

/-- The text of the identifier. -/
def identifier : OpenerName → List Char
  | bare first others _ _ => first :: others
  | quoted _ text _ _ _ => text

/-- The identifier with its quotes. -/
def spelled : OpenerName → List Char
  | bare first others _ _ => first :: others
  | quoted mark text _ _ _ => mark :: (text ++ [mark])

end OpenerName

/-- **An opener of a here document.** -/
structure HeredocOpener where
  sign : OpenerSign
  name : OpenerName

namespace HeredocOpener

/-- What follows the first less-than sign. -/
def behind (opener : HeredocOpener) : List Char :=
  '<' :: (opener.sign.text ++ opener.name.spelled)

/-- The text of the opener. -/
def text (opener : HeredocOpener) : List Char :=
  '<' :: opener.behind

/-- The here document that the opener announces. -/
def heredoc (opener : HeredocOpener) : Heredoc where
  identifier := String.ofList opener.name.identifier
  allowIndent := !opener.sign.text.isEmpty

end HeredocOpener

/-! ### Reading an opener -/

namespace Heredoc

theorem isQuote_of_starts {c : Char} (starts : (c.isAlpha || c == '_') = true) :
    isQuote c = false := by
  refine Bool.eq_false_iff.mpr fun quote => ?_
  rcases isQuote_cases quote with rfl | rfl | rfl <;> cases starts

/-- **A bare identifier ends before the first character that is no part of it.** -/
theorem identifier?_bare {first : Char} {others rest : List Char}
    (starts : (first.isAlpha || first == '_') = true) (word : ∀ c ∈ others, isWordChar c = true)
    (stops : rest.head?.any isWordChar = false) :
    identifier? (first :: (others ++ rest)) = some (first :: others, others.length + 1) := by
  have notQuote := isQuote_of_starts starts
  have noMore : rest.takeWhile isWordChar = [] := by
    cases rest with
    | nil => rfl
    | cons c more =>
        have other : isWordChar c = false := by simpa using stops
        rw [List.takeWhile_cons, other]
        rfl
  have name : (others ++ rest).takeWhile isWordChar = others := by
    rw [List.takeWhile_append_of_pos word, noMore, List.append_nil]
  rw [identifier?, notQuote, if_neg Bool.false_ne_true, if_pos starts, name]
  rfl

/-- **An identifier in quotes ends at the next quote of its kind.** -/
theorem identifier?_enclosed {mark : Char} {text : List Char} (isMark : isQuote mark = true)
    (nonempty : text ≠ []) (inside : ∀ c ∈ text, c ≠ mark ∧ c ≠ '\n') (rest : List Char) :
    identifier? (mark :: (text ++ mark :: rest)) = some (text, text.length + 2) := by
  have within : ∀ c ∈ text, (c != mark && c != '\n') = true := by
    intro c member
    simpa using inside c member
  have taken : (text ++ mark :: rest).takeWhile (fun c => c != mark && c != '\n') = text := by
    rw [List.takeWhile_append_of_pos within]
    simp
  have dropped : (text ++ mark :: rest).dropWhile (fun c => c != mark && c != '\n') =
      mark :: rest := by
    rw [List.dropWhile_append_of_pos within]
    simp
  rw [identifier?_quoted isMark, taken, dropped, if_pos ⟨nonempty, rfl⟩]

theorem identifier?_spelled (name : OpenerName) {rest : List Char}
    (stops : rest.head?.any isWordChar = false) :
    identifier? (name.spelled ++ rest) = some (name.identifier, name.spelled.length) := by
  cases name with
  | bare first others starts word => exact identifier?_bare starts word stops
  | quoted mark text isMark nonempty inside =>
      have read := identifier?_enclosed isMark nonempty inside rest
      simpa [OpenerName.spelled, OpenerName.identifier] using read

/-- No identifier starts with a sign. -/
theorem head_spelled (name : OpenerName) :
    ∃ first others, name.spelled = first :: others ∧ first ≠ '-' ∧ first ≠ '~' := by
  cases name with
  | bare first others starts _ =>
      refine ⟨first, others, rfl, ?_, ?_⟩
      · rintro rfl
        cases starts
      · rintro rfl
        cases starts
  | quoted mark text isMark _ _ =>
      refine ⟨mark, text ++ [mark], rfl, ?_⟩
      rcases isQuote_cases isMark with rfl | rfl | rfl <;> decide

theorem splitSign_text (sign : OpenerSign) (name : OpenerName) (rest : List Char) :
    splitSign (sign.text ++ (name.spelled ++ rest)) =
      (!sign.text.isEmpty, name.spelled ++ rest) := by
  cases sign with
  | absent =>
      obtain ⟨first, others, spelled, notDash, notTilde⟩ := head_spelled name
      rw [spelled]
      unfold splitSign
      split <;> simp_all [OpenerSign.text]
  | dash => rfl
  | tilde => rfl

/-- **Reading an opener takes its characters** and announces its here document. -/
theorem opener?_text (opener : HeredocOpener) {rest : List Char}
    (stops : rest.head?.any isWordChar = false) :
    opener? (opener.text ++ rest) = some (opener.heredoc, opener.text.length) := by
  have text : opener.text ++ rest =
      '<' :: '<' :: (opener.sign.text ++ (opener.name.spelled ++ rest)) := by
    simp [HeredocOpener.text, HeredocOpener.behind]
  have width : 2 + (!opener.sign.text.isEmpty).toNat + opener.name.spelled.length =
      opener.text.length := by
    simp only [HeredocOpener.text, HeredocOpener.behind, List.length_cons, List.length_append]
    cases opener.sign <;> simp [OpenerSign.text] <;> omega
  rw [text, opener?, splitSign_text]
  simp only [identifier?_spelled opener.name stops, Option.map_some, width]
  rfl

end Heredoc

/-! ### Where an opener is seen -/

/-- An operand is expected behind a text: its last character, white space aside, neither belongs to a
name nor ends a value. -/
def Expectant (before : List Char) : Prop :=
  ∃ c, (before.dropWhile isSpace).head? = some c ∧ isIdentChar c = false ∧ closesValue c = false

theorem Expectant.startsOperand {before : List Char} (expectant : Expectant before)
    (after : Option Char) : Marginalia.Ruby.startsOperand before after = true := by
  obtain ⟨c, last, notName, notEnd⟩ := expectant
  simp [Marginalia.Ruby.startsOperand, last, notName, notEnd]

theorem Expectant.followsValue {before : List Char} (expectant : Expectant before) :
    Marginalia.Ruby.followsValue before = false := by
  obtain ⟨c, last, notName, notEnd⟩ := expectant
  simp [Marginalia.Ruby.followsValue, last, notName, notEnd]

theorem heredocAt?_behind (opener : HeredocOpener) {before rest : List Char}
    (expectant : Expectant before) (stops : rest.head?.any isWordChar = false) :
    heredocAt? before (opener.behind ++ rest) = some (opener.heredoc, opener.behind.length) := by
  have read := Heredoc.opener?_text opener stops
  rw [HeredocOpener.text, List.cons_append] at read
  have second : (opener.behind ++ rest).head? = some '<' := rfl
  rw [heredocAt?, second, expectant.startsOperand, expectant.followsValue, read]
  simp

/-! ### Scanning a list of openers -/

/-- The scanner passes over what it is told to skip. -/
theorem scan_skip (scopes : ScopeStack) (heredocs : HeredocQueue) (before front rest : List Char) :
    scan scopes heredocs before front.length (front ++ rest) =
      scan scopes heredocs (front.reverse ++ before) 0 rest := by
  induction front generalizing before with
  | nil => rfl
  | cons c more ih =>
      rw [List.cons_append, List.length_cons, scan, ih, List.reverse_cons, List.append_assoc]
      rfl

theorem scan_plain {c : Char} (ordinary : isPlainCode c = true) (heredocs : HeredocQueue)
    (before rest : List Char) :
    scan [] heredocs before 0 (c :: rest) = scan [] heredocs (c :: before) 0 rest := by
  have step : scanStep [] before c rest = .enter [] 0 := codeStep_plain ordinary [] before rest
  rw [scan, step]
  rfl

/-- **The scanner passes an opener** and puts its here document at the end of the queue. -/
theorem scan_opener (opener : HeredocOpener) (heredocs : HeredocQueue) {before rest : List Char}
    (expectant : Expectant before) (stops : rest.head?.any isWordChar = false) :
    scan [] heredocs before 0 (opener.text ++ rest) =
      scan [] (heredocs ++ [opener.heredoc]) (opener.text.reverse ++ before) 0 rest := by
  have step : scanStep [] before '<' (opener.behind ++ rest) =
      .go [] (some opener.heredoc) opener.behind.length := by
    simp [scanStep, codeStep, heredocAt?_behind opener expectant stops]
  rw [HeredocOpener.text, List.cons_append, scan, step, List.reverse_cons, List.append_assoc]
  exact scan_skip [] _ _ opener.behind rest

/-- Openers with commas between them. -/
def openerList (openers : List HeredocOpener) : List Char :=
  [',', ' '].intercalate (openers.map HeredocOpener.text)

/-- **The scanner passes a list of openers** and queues their here documents in order. -/
theorem scan_openers (openers : List HeredocOpener) (heredocs : HeredocQueue)
    {before rest : List Char} (expectant : Expectant before)
    (stops : rest.head?.any isWordChar = false) :
    scan [] heredocs before 0 (openerList openers ++ rest) =
      scan [] (heredocs ++ openers.map HeredocOpener.heredoc)
        ((openerList openers).reverse ++ before) 0 rest := by
  induction openers generalizing heredocs before with
  | nil => simp [openerList]
  | cons opener others ih =>
      cases others with
      | nil => simpa [openerList] using scan_opener opener heredocs expectant stops
      | cons next more =>
          have listed : openerList (opener :: next :: more) =
              opener.text ++ ',' :: ' ' :: openerList (next :: more) := by
            simp [openerList, List.intercalate_cons_cons]
          have comma : isWordChar ',' = false := by decide +kernel
          -- Whatever the opener holds, the comma behind it decides for the next one.
          have again (front : List Char) : Expectant (' ' :: ',' :: front) :=
            ⟨',', rfl, by decide, by decide⟩
          rw [listed, List.append_assoc, scan_opener opener heredocs expectant (by simp [comma]),
            List.cons_append, scan_plain (by decide), List.cons_append, scan_plain (by decide),
            ih _ (again _)]
          simp

/-! ### The line -/

/-- A call with openers as its arguments, up to the comment behind it. -/
def callText (openers : List HeredocOpener) : List Char :=
  ['f', '('] ++ openerList openers ++ [')', ' ']

theorem scan_call (openers : List HeredocOpener) :
    scan [] [] [] 0 (callText openers ++ trailing) =
      { scopes := [], heredocs := openers.map HeredocOpener.heredoc,
        comment := some (byteLength (callText openers), trailing) } := by
  have source : callText openers ++ trailing =
      'f' :: '(' :: (openerList openers ++ ')' :: ' ' :: trailing) := by
    simp [callText]
  have before : ' ' :: ')' :: ((openerList openers).reverse ++ ['(', 'f']) =
      (callText openers).reverse := by
    simp [callText]
  have bracket : Expectant ['(', 'f'] := ⟨'(', by decide, by decide, by decide⟩
  have closing : isWordChar ')' = false := by decide +kernel
  rw [source, scan_plain (by decide), scan_plain (by decide),
    scan_openers openers [] bracket (by simp [closing]), scan_plain (by decide),
    scan_plain (by decide), before, ← byteLength_reverse (callText openers)]
  rfl

/-- **Openers are taken exactly and queued in order.**  Behind any list of openers in a call, the
comment sign starts the comment of the line, no scope is left open, and the queue holds the here
documents of the openers, each with its identifier and with indentation if it has a sign. -/
theorem readLine_openers (openers : List HeredocOpener) (number : Nat) :
    ({} : Lexer).readLine (callText openers ++ trailing) number =
      ({ heredocs := openers.map HeredocOpener.heredoc },
        some (.lineComment "# c\n" number (byteLength (callText openers)))) := by
  have plain : opensDoc (callText openers ++ trailing) = false ∧
      startsData (callText openers ++ trailing) = false :=
    noMarker_of_head (by simp [callText]) (by simp [callText])
  rw [readLine_eq_scanLine number fun _ => plain]
  simp only [Lexer.scanLine, scan_call openers]
  rfl

/-- A comment sign, a bracket and a character of two bytes in quotes, and a bare name. -/
example :
    callText [⟨.tilde, .quoted '"' ['#', '(', 'é'] rfl (by simp) (by simp)⟩,
      ⟨.absent, .bare 'B' ['é'] rfl (List.forall_mem_singleton.mpr (by decide +kernel))⟩] =
        "f(<<~\"#(é\", <<Bé) ".toList ∧
    ({} : Lexer).readLine "f(<<~\"#(é\", <<Bé) # c\n".toList 3 =
      ({ heredocs := [⟨"#(é", true⟩, ⟨"Bé", false⟩] }, some (.lineComment "# c\n" 3 20)) := by
  decide +kernel

end Marginalia.Ruby
