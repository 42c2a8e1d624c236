/-
**Lexing a source from within a line.**

The lexer reads whole lines, but a literal goes on over line breaks, and an argument about its text
should not have to cut it into lines.  `resume` is what the lexer does with the rest of a source
from a place within a line, and moves over it one character at a time:

* `resume_cons`: a character that the scanner passes takes the place one character on, also over a
  line feed, as long as a scope is open then (so that the next line is not looked at for markers);
* `resume_skip`: so does a character that an earlier one told it to pass over.

`Place.after` counts line feeds (`number_after`) and keeps what stands before the place on its line
(`before_after`).
-/

import Marginalia.Proofs.Ruby.Outcome
import Marginalia.Proofs.Text.Lines
import Marginalia.Proofs.Text.Space

namespace Marginalia.Ruby

open Marginalia.Text

/-! ### Places -/

/-- A place in a source: what stands before it on its line, nearest first, and the number of the
line. -/
structure Place where
  before : List Char := []
  number : Nat
deriving Repr, DecidableEq

namespace Place

/-- The place behind one character. -/
def next (place : Place) (c : Char) : Place :=
  if c = '\n' then { number := place.number + 1 } else { place with before := c :: place.before }

/-- The place behind a text. -/
def after (place : Place) (text : List Char) : Place :=
  text.foldl next place

@[simp] theorem after_nil (place : Place) : place.after [] = place := rfl

@[simp] theorem after_cons (place : Place) (c : Char) (rest : List Char) :
    place.after (c :: rest) = (place.next c).after rest := rfl

@[simp] theorem after_append (place : Place) (front back : List Char) :
    place.after (front ++ back) = (place.after front).after back := by
  simp [after]

/-- Each line feed starts the next line. -/
theorem number_after (place : Place) (text : List Char) :
    (place.after text).number = place.number + text.count '\n' := by
  induction text generalizing place with
  | nil => rfl
  | cons c rest ih =>
      rw [after_cons, ih, next]
      by_cases feed : c = '\n'
      · rw [if_pos feed, feed, List.count_cons_self]
        show place.number + 1 + _ = _
        omega
      · rw [if_neg feed, List.count_cons_of_ne feed]

/-- Before a place stands what follows the last line feed. -/
theorem before_after (number : Nat) (text : List Char) :
    (Place.after { number } text).before = text.reverse.takeWhile (· ≠ '\n') := by
  -- From any place on, as long as no line feed stands before it on its line.
  suffices general : ∀ place : Place, '\n' ∉ place.before →
      (place.after text).before = (text.reverse ++ place.before).takeWhile (· ≠ '\n') by
    simpa using general { number } (by simp)
  induction text with
  | nil =>
      intro place unbroken
      have kept : (place.before ++ []).takeWhile (· ≠ '\n') = place.before ++ [] :=
        List.takeWhile_append_of_pos fun c member =>
          decide_eq_true fun feed => unbroken (feed ▸ member)
      simpa using kept.symm
  | cons c rest ih =>
      intro place unbroken
      rw [after_cons, next]
      by_cases feed : c = '\n'
      · rw [if_pos feed, ih { number := place.number + 1 } (by simp)]
        simp only [feed, List.reverse_cons, List.append_assoc, List.singleton_append,
          List.append_nil, List.takeWhile_append]
        split
        · rename_i all
          simpa using (List.takeWhile_prefix _).eq_of_length all
        · rfl
      · rw [if_neg feed, ih _ (by simp [unbroken, Ne.symm feed])]
        simp

end Place

/-- What a text holds behind its last line feed. -/
def lastLine (text : List Char) : List Char :=
  (text.reverse.takeWhile (· ≠ '\n')).reverse

theorem byteLength_reverse (text : List Char) : byteLength text.reverse = byteLength text := by
  induction text with
  | nil => rfl
  | cons c rest ih =>
      rw [List.reverse_cons, byteLength_append, ih, byteLength_cons, byteLength_cons,
        byteLength_nil]
      omega

/-- The bytes before a place are those of the last line up to it. -/
theorem byteLength_before_after (number : Nat) (text : List Char) :
    byteLength (Place.after { number } text).before = byteLength (lastLine text) := by
  rw [Place.before_after, lastLine, byteLength_reverse]

/-! ### Lines that are scanned -/

/-- The line that opens a document starts with an equals sign. -/
theorem head?_of_opensDoc {line : List Char} (opens : opensDoc line = true) :
    line.head? = some '=' := by
  cases line with
  | nil => cases opens
  | cons c rest =>
      have marker : ("=begin".toList.isPrefixOf (c :: rest)) = true :=
        (Bool.and_eq_true_iff.mp opens).1
      obtain ⟨more, split⟩ := List.isPrefixOf_iff_prefix.mp marker
      exact congrArg List.head? split.symm

/-- The line that starts the data starts with a low line. -/
theorem head?_of_startsData {line : List Char} (starts : startsData line = true) :
    line.head? = some '_' := by
  have kept : dropLineBreaks line = "__END__".toList := eq_of_beq starts
  have split : dropLineBreaks line <+: line := dropEndWhile_prefix isLineBreak line
  rw [kept] at split
  obtain ⟨more, same⟩ := split
  exact congrArg List.head? same.symm

/-- A line that starts with neither sign is no marker. -/
theorem noMarker_of_head {line : List Char} (noEquals : line.head? ≠ some '=')
    (noLow : line.head? ≠ some '_') : opensDoc line = false ∧ startsData line = false :=
  ⟨Bool.eq_false_iff.mpr fun opens => noEquals (head?_of_opensDoc opens),
    Bool.eq_false_iff.mpr fun starts => noLow (head?_of_startsData starts)⟩

/-- A line of code is scanned, unless it is a marker and no scope is open. -/
theorem readLine_eq_scanLine {scopes : ScopeStack} {line : List Char} (number : Nat)
    (plain : scopes = [] → opensDoc line = false ∧ startsData line = false) :
    ({ scopes } : Lexer).readLine line number = ({ scopes } : Lexer).scanLine line number := by
  have active : HeredocQueue.isActive [] = false := rfl
  cases scopes with
  | nil =>
      obtain ⟨noDoc, noData⟩ := plain rfl
      simp [Lexer.readLine, Lexer.readCode, active, noDoc, noData]
  | cons scope outer => simp [Lexer.readLine, Lexer.readCode, active]

/-- What the lexer does with a source from a place within a line, of which the scanner passes over
the first `skip` characters. -/
def resume (scopes : ScopeStack) (skip : Nat) (place : Place) (text : List Char) :
    Lexer × List Event :=
  match lines text with
  | [] => ({ scopes }, [])
  | line :: rest =>
    let scanned := scan scopes [] place.before skip line
    let event := scanned.comment.map fun (column, text) =>
      Event.lineComment (String.ofList text) place.number column
    let later := lexer.run { heredocs := scanned.heredocs, scopes := scanned.scopes }
      (place.number + 1) rest
    (later.1, event.toList ++ later.2)

/-- Reading lines starts at the first place of the first line. -/
theorem run_lines_eq_resume {scopes : ScopeStack} {text : List Char} (number : Nat)
    (plain : scopes = [] → ∀ line ∈ (lines text).head?,
      opensDoc line = false ∧ startsData line = false) :
    lexer.run { scopes } number (lines text) = resume scopes 0 { number } text := by
  unfold resume
  cases split : lines text with
  | nil => rfl
  | cons line rest =>
      rw [run_cons, readLine_eq_scanLine number fun none => plain none line (by simp [split])]
      rfl

/-! ### One character at a time -/

/-- What is left of a line behind a character: nothing behind a line feed, else the first line of
the text that follows. -/
def lineRest (c : Char) (rest : List Char) : List Char :=
  if c = '\n' then [] else (lines rest).headD []

/-- The next character on the line is the next character, unless the line ends. -/
theorem head?_lineRest {c : Char} (feed : c ≠ '\n') (rest : List Char) :
    (lineRest c rest).head? = rest.head? := by
  rw [lineRest, if_neg feed]
  cases rest with
  | nil => rfl
  | cons d more =>
      rw [lines]
      split
      · rfl
      · split <;> rfl

/-- The line that a character stands on, and the lines behind it. -/
theorem lines_cons (c : Char) (rest : List Char) :
    lines (c :: rest) = (c :: lineRest c rest) ::
      if c = '\n' then lines rest else (lines rest).tail := by
  rw [lines, lineRest]
  split
  · rfl
  · cases lines rest <;> rfl

/-- How the scan of a line goes on behind its first character is how the source goes on there, over
a line feed too if a scope is open then. -/
theorem resume_of_scan {scopes next : ScopeStack} {skip behind : Nat} {place : Place} {c : Char}
    {rest : List Char}
    (scanned : scan scopes [] place.before skip (c :: lineRest c rest) =
      scan next [] (c :: place.before) behind (lineRest c rest))
    (carries : c = '\n' → behind = 0 ∧ next ≠ []) :
    resume scopes skip place (c :: rest) = resume next behind (place.next c) rest := by
  rw [resume, lines_cons]
  simp only [scanned]
  by_cases feed : c = '\n'
  · obtain ⟨rfl, isOpen⟩ := carries feed
    rw [Place.next, if_pos feed, if_pos feed, lineRest, if_pos feed,
      ← run_lines_eq_resume (place.number + 1) fun none => absurd none isOpen]
    rfl
  · rw [Place.next, if_neg feed, if_neg feed, lineRest, if_neg feed, resume]
    cases lines rest <;> rfl

/-- **The scanner passes a character.** -/
theorem resume_cons {scopes next : ScopeStack} {behind : Nat} {place : Place} {c : Char}
    {rest : List Char}
    (step : scanStep scopes place.before c (lineRest c rest) = .enter next behind)
    (carries : c = '\n' → behind = 0 ∧ next ≠ []) :
    resume scopes 0 place (c :: rest) = resume next behind (place.next c) rest := by
  refine resume_of_scan ?_ carries
  rw [scan, step]
  rfl

/-- **The scanner passes over a character.** -/
theorem resume_skip {scopes : ScopeStack} (skip : Nat) (place : Place) {c : Char} (rest : List Char)
    (carries : c = '\n' → skip = 0 ∧ scopes ≠ []) :
    resume scopes (skip + 1) place (c :: rest) = resume scopes skip (place.next c) rest :=
  resume_of_scan rfl carries

end Marginalia.Ruby
